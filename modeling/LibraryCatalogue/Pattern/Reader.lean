import LibraryCatalogue.Pattern.Basic
import LibraryCatalogue.Pattern.Fault
import LibraryCatalogue.Text.Basic
import LibraryCatalogue.Text.Identifier
import LibraryCatalogue.Text.Name
import LibraryCatalogue.Text.Word

/-!
# Reading patterns

A pattern is first cut into tokens: single characters, and characters behind a reverse solidus.
The reader takes one token at a time and looks one ahead; a reverse solidus without a character is
reported as soon as the look-ahead meets it.

Groups may lie in each other as deeply as they like: a reader whose stack is bounded gives up on some
patterns that are read here.

* `tokens` — the tokens of a pattern;
* `Reading` — what is left to read, and what is known about the groups so far;
* `compile` — the pattern written by a text, or why there is none.
-/

namespace LibraryCatalogue.Pattern

/-- A character of a pattern, escaped or not, and where it stands. -/
structure Token where
  position : Nat
  escaped : Bool
  char : Char
deriving DecidableEq, Repr

/-- The token as it is written. -/
def Token.text (t : Token) : String :=
  if t.escaped then String.ofList ['\\', t.char] else String.singleton t.char

/-- The number of characters of the token. -/
def Token.size (t : Token) : Nat :=
  if t.escaped then 2 else 1

/-- Whether the token is this character, not escaped. -/
def Token.is (t : Token) (c : Char) : Bool :=
  !t.escaped && t.char == c

/-- The tokens of a text that starts at a position, and whether it ends in a lone reverse
solidus. -/
def tokens : Nat → List Char → List Token × Bool
  | _, [] => ([], false)
  | _, ['\\'] => ([], true)
  | n, '\\' :: c :: rest =>
    let (ts, dangling) := tokens (n + 2) rest
    (⟨n, true, c⟩ :: ts, dangling)
  | n, c :: rest =>
    let (ts, dangling) := tokens (n + 1) rest
    (⟨n, false, c⟩ :: ts, dangling)

/-- What the reader knows: the rest of the pattern, the flags set for all of it, the widths of the
groups (none while a group is open), the names of groups, the first group that the enclosing
look-behind must not refer to, and the numbers of groups that conditions refer to. -/
structure Reading where
  pattern : List Char
  rest : List Token
  dangling : Bool
  flags : List Char
  widths : List (Option Width)
  names : List (String × Nat)
  lookbehind : Option Nat
  conditions : List (Nat × Nat)

/-- A step of the reader. -/
abbrev Reader := StateT Reading (Except Refusal)

namespace Reader

/-- The position of the look-ahead. -/
def position : Reader Nat := do
  let s ← get
  return match s.rest with
    | t :: _ => t.position
    | [] => s.pattern.length

/-- Reports a problem at a position. -/
def failAt {α : Type} (problem : Problem) (position : Nat) : Reader α := do
  let s ← get
  throw (.malformed ⟨problem, some (Place.inPattern s.pattern position)⟩)

/-- Reports a problem some characters before the look-ahead. -/
def fail {α : Type} (problem : Problem) (back : Nat) : Reader α := do
  failAt problem ((← position) - back)

/-- The look-ahead. -/
def peek? : Reader (Option Token) := do
  return (← get).rest.head?

/-- Reports a lone reverse solidus once the look-ahead has reached it. -/
def checkEscape : Reader Unit := do
  let s ← get
  if s.rest.isEmpty && s.dangling then failAt .escapeAtEnd (s.pattern.length - 1)

/-- Takes the next token. -/
def next? : Reader (Option Token) := do
  let s ← get
  set { s with rest := s.rest.tail }
  checkEscape
  return s.rest.head?

/-- Whether the look-ahead is this character. -/
def isNext (c : Char) : Reader Bool := do
  return (← peek?).any (·.is c)

/-- Takes the next token if it is this character. -/
def take (c : Char) : Reader Bool := do
  if ← isNext c then
    let _ ← next?
    return true
  else
    return false

/-- Takes up to `n` unescaped characters that satisfy `p`. -/
def takeWhile (p : Char → Bool) : Nat → Reader (List Char)
  | 0 => return []
  | n + 1 => do
    match ← peek? with
    | some t =>
      if !t.escaped && p t.char then
        let _ ← next?
        return t.char :: (← takeWhile p n)
      else return []
    | none => return []

/-- Takes all unescaped characters that satisfy `p`. -/
def takeAll (p : Char → Bool) : Reader (List Char) := do
  takeWhile p (← get).rest.length

/-- The text up to a terminator, which is taken too; `fuel` bounds the number of tokens. -/
def nameUntil (terminator : Char) (what : String) : Nat → String → Reader String
  | 0, _ => fail .endOfPattern 0
  | fuel + 1, sofar => do
    match ← next? with
    | none =>
      if sofar.isEmpty then fail (.missingName what) 0
      else fail (.unclosedName (String.singleton terminator)) sofar.length
    | some t =>
      if t.is terminator then
        if sofar.isEmpty then fail (.missingName what) 1 else return sofar
      else nameUntil terminator what fuel (sofar ++ t.text)

/-- The name up to a terminator, which is taken too. -/
def name (terminator : Char) (what : String) : Reader String := do
  nameUntil terminator what ((← get).rest.length + 2) ""

/-- Refuses a name that is not an identifier. -/
def checkName (n : String) : Reader Unit := do
  if !isIdentifier n.toList then fail (.badName n) (n.length + 1)

/-- The number that the next group gets. -/
def groupCount : Reader Nat := do
  return (← get).widths.length + 1

/-- Whether a group exists and is closed. -/
def isClosed (index : Nat) : Reader Bool := do
  return match (← get).widths[index - 1]? with
    | some (some _) => index != 0
    | _ => false

/-- Inside a look-behind, only closed groups from before it may be referred to. -/
def checkLookbehind (index : Nat) : Reader Unit := do
  match (← get).lookbehind with
  | none => return ()
  | some first =>
    if !(← isClosed index) then fail .groupStillOpen 0
    if first ≤ index then fail .groupInSameLookbehind 0

/-- The widths of the groups, for the width of what refers to them. -/
def groupWidths : Reader (Nat → Width) := do
  let widths := (← get).widths
  return fun index => ((widths[index - 1]?).join).getD (.exactly 0)

/-! ## Escapes -/

def isOctal (c : Char) : Bool := '0' ≤ c && c ≤ '7'

def isHex (c : Char) : Bool := (hexValue? c).isSome

def isAsciiLetter (c : Char) : Bool := c.isAlpha

/-- The value of a hexadecimal digit. -/
def hexValue (c : Char) : Nat := (hexValue? c).getD 0

/-- The number written by digits of a base. -/
def numeral (base : Nat) (cs : List Char) : Nat :=
  cs.foldl (fun n c => base * n + hexValue c) 0

/-- The control characters with an escape of their own. -/
def controlEscape? : Char → Option Nat
  | 'a' => some 7
  | 'f' => some 12
  | 'n' => some 10
  | 'r' => some 13
  | 't' => some 9
  | 'v' => some 11
  | '\\' => some 92
  | _ => none

/-- The escapes that name a class of characters. -/
def classEscape? : Char → Option (CharClass × Bool)
  | 'd' => some (.digit, false)
  | 'D' => some (.digit, true)
  | 's' => some (.space, false)
  | 'S' => some (.space, true)
  | 'w' => some (.word, false)
  | 'W' => some (.word, true)
  | _ => none

/-- The escapes that name a position. -/
def anchorEscape? : Char → Option Anchor
  | 'A' => some .textStart
  | 'Z' => some .textEnd
  | 'b' => some .wordEdge
  | 'B' => some .notWordEdge
  | _ => none

/-- The bound on the numbers that can be tried as code points. -/
def codeLimit : Nat := 2147483648

/-- A character given by exactly `n` hexadecimal digits. -/
def hexEscape (letter : Char) (n : Nat) : Reader Nat := do
  let digits ← takeWhile isHex n
  let text := String.ofList ('\\' :: letter :: digits)
  if digits.length != n then fail (.shortEscape text) text.length
  let code := numeral 16 digits
  if codeLimit ≤ code then throw .codeTooLarge
  if 0x110000 ≤ code then fail (.badEscape text) text.length
  return code

/-- A character given by its name. -/
def namedEscape : Reader Nat := do
  if !(← take '{') then fail .unopenedName 0
  let n ← name '}' "character name"
  match characterNamed? n with
  | some code => return code
  | none => fail (.unknownCharacter n) (n.length + 4)

/-- An escape that stands for one character in every context. -/
def charEscape? (letter : Char) : Option (Reader Nat) :=
  match letter with
  | 'x' => some (hexEscape 'x' 2)
  | 'u' => some (hexEscape 'u' 4)
  | 'U' => some (hexEscape 'U' 8)
  | 'N' => some namedEscape
  | _ => none

/-- An escaped character without a meaning of its own stands for itself, unless it is a letter. -/
def plainEscape (c : Char) : Reader Nat := do
  if isAsciiLetter c then fail (.badEscape (String.ofList ['\\', c])) 2
  return c.toNat

/-- An escape inside a character set. -/
def setEscape (c : Char) : Reader ClassItem := do
  if c == 'b' then return .one 8
  match controlEscape? c with
  | some code => return .one code
  | none =>
    match classEscape? c with
    | some (cls, negated) => return .named cls negated
    | none =>
      match charEscape? c with
      | some read => return .one (← read)
      | none =>
        if isOctal c then
          let digits := c :: (← takeWhile isOctal 2)
          let text := String.ofList ('\\' :: digits)
          let code := numeral 8 digits
          if 0o377 < code then fail (.octalTooLarge text) text.length
          return .one code
        else if c.isDigit then fail (.badEscape (String.ofList ['\\', c])) 2
        else return .one (← plainEscape c)

/-- A reference to a group by number, `size` characters before the look-ahead. -/
def groupReference (index size : Nat) : Reader Regex := do
  if index < (← groupCount) then
    if !(← isClosed index) then fail .groupStillOpen size
    checkLookbehind index
    return .same index
  else fail (.noSuchGroup index) (size - 1)

/-- An escape that begins with a digit other than zero: three octal digits are a character, all
else is a reference to a group. -/
def digitEscape (c : Char) : Reader Regex := do
  match ← takeWhile Char.isDigit 1 with
  | [] => groupReference (hexValue c) 2
  | second =>
    let more ← if isOctal c && second.all isOctal then takeWhile isOctal 1 else pure []
    let digits := c :: second ++ more
    let text := String.ofList ('\\' :: digits)
    if more.isEmpty then groupReference (numeral 10 digits) text.length
    else
      let code := numeral 8 digits
      if 0o377 < code then fail (.octalTooLarge text) text.length
      return .one code

/-- An escape outside character sets. -/
def escape (c : Char) : Reader Regex := do
  match anchorEscape? c with
  | some a => return .anchor a
  | none =>
    match classEscape? c with
    | some (cls, negated) => return .oneOf false [.named cls negated]
    | none =>
      match controlEscape? c with
      | some code => return .one code
      | none =>
        match charEscape? c with
        | some read => return .one (← read)
        | none =>
          if c == '0' then return .one (numeral 8 ('0' :: (← takeWhile isOctal 2)))
          else if c.isDigit then digitEscape c
          else return .one (← plainEscape c)

/-! ## Character sets -/

/-- The elements of a set, without repetitions. -/
def distinctItems (items : List ClassItem) : List ClassItem :=
  items.foldl (fun acc i => if acc.contains i then acc else acc ++ [i]) []

/-- An element of a set, given by its first token. -/
def setItem (t : Token) : Reader ClassItem :=
  if t.escaped then setEscape t.char else return .one t.char.toNat

/-- The elements up to the closing bracket; `start` is where the set began. -/
def setItems (start : Nat) : Nat → List ClassItem → Reader (List ClassItem)
  | 0, _ => failAt .unclosedSet start
  | fuel + 1, items => do
    match ← next? with
    | none => failAt .unclosedSet start
    | some t =>
      if t.is ']' && !items.isEmpty then return items
      else
        let first ← setItem t
        if ← take '-' then
          match ← next? with
          | none => failAt .unclosedSet start
          | some u =>
            if u.is ']' then return items ++ [first, .one '-'.toNat]
            else
              let last ← setItem u
              match first, last with
              | .one a, .one b =>
                if b < a then fail (.badRange t.text u.text) (t.size + 1 + u.size)
                else setItems start fuel (items ++ [.range a b])
              | _, _ => fail (.badRange t.text u.text) (t.size + 1 + u.size)
        else setItems start fuel (items ++ [first])

/-- A character set, after its opening bracket. -/
def characterSet : Reader Regex := do
  let start := (← position) - 1
  let negated ← take '^'
  let items ← setItems start ((← get).rest.length + 2) []
  match distinctItems items with
  | [.one code] => return if negated then .other code else .one code
  | items => return .oneOf negated items

/-! ## Repetition -/

/-- The greatest number of repetitions that can be asked for. -/
def repetitionLimit : Nat := 4294967295

/-- The greatest number of digits that a number in a pattern may have. -/
def numeralLimit : Nat := 4300

/-- A bound of a repetition. -/
def repetitionBound (digits : List Char) : Reader (Option Nat) := do
  if digits.isEmpty then return none
  if numeralLimit < digits.length then throw .numberTooLong
  let n := numeral 10 digits
  if repetitionLimit ≤ n then throw .repetitionTooLarge
  return some n

/-- The bounds in braces after the opening one, or nothing when the brace stands for itself. -/
def braces? (start : Nat) : Reader (Option (Nat × Option Nat)) := do
  if ← isNext '}' then return none
  let before ← get
  let low ← takeAll Char.isDigit
  let high ← if ← take ',' then takeAll Char.isDigit else pure low
  if !(← take '}') then
    set before
    return none
  let least ← repetitionBound low
  let most ← repetitionBound high
  match most with
  | some m =>
    if m < least.getD 0 then failAt .leastAboveMost start
    return some (least.getD 0, most)
  | none => return some (least.getD 0, none)

/-- The bounds that a repetition sign stands for; an opening brace may stand for itself. -/
def bounds? (sign : Char) (start : Nat) : Reader (Option (Nat × Option Nat)) :=
  match sign with
  | '?' => return some (0, some 1)
  | '*' => return some (0, none)
  | '+' => return some (1, none)
  | _ => braces? start

/-- The body of a repetition: a plain group gives its contents. -/
def repeatedBody : Regex → List Regex
  | .group none none body => body
  | r => [r]

/-- Repeats the last piece; `start` is the position behind the sign. -/
def quantify (least : Nat) (most : Option Nat) (start : Nat) (last : Option Regex) :
    Reader Regex := do
  let back := (← position) - start + 1
  match last with
  | none => fail .nothingToRepeat back
  | some (.anchor _) => fail .nothingToRepeat back
  | some (.times _ _ _ _) => fail .repeatedTwice back
  | some item =>
    let greed ← if ← take '?' then pure Greed.lazy
      else if ← take '+' then pure Greed.possessive
      else pure Greed.greedy
    return .times greed least most (repeatedBody item)

/-! ## Inline flags -/

def isFlag (c : Char) : Bool := "iLmsxatu".toList.contains c

/-- The flags that choose an alphabet. -/
def isAlphabetFlag (c : Char) : Bool := c == 'a' || c == 'L' || c == 'u'

/-- Refuses a token that is no flag, in the place where a flag or an end may stand. -/
def notFlag {α : Type} (t : Token) (otherwise : Problem) : Reader α :=
  fail (if !t.escaped && isAlphanumeric t.char && !isDecimalDigit t.char then .flagUnknown
    else otherwise) t.size

/-- The flags that are switched on, and the character that ends them. -/
def flagsOn : Nat → Char → List Char → Reader (List Char × Char)
  | 0, _, _ => fail .endOfPattern 0
  | fuel + 1, flag, on => do
    if flag == 'L' then fail .flagLocale 0
    let on := if on.contains flag then on else on ++ [flag]
    if isAlphabetFlag flag && on.any (fun f => isAlphabetFlag f && f != flag) then
      fail .flagsIncompatible 0
    match ← next? with
    | none => fail .flagsUnclosed 0
    | some t =>
      if t.is ')' || t.is '-' || t.is ':' then return (on, t.char)
      else if !t.escaped && isFlag t.char then flagsOn fuel t.char on
      else notFlag t .flagsUnclosed

/-- The flags that are switched off, up to the colon. -/
def flagsOff : Nat → Char → List Char → Reader (List Char)
  | 0, _, _ => fail .endOfPattern 0
  | fuel + 1, flag, off => do
    if isAlphabetFlag flag then fail .flagNotRevocable 0
    let off := if off.contains flag then off else off ++ [flag]
    match ← next? with
    | none => fail .flagColonMissing 0
    | some t =>
      if t.is ':' then return off
      else if !t.escaped && isFlag t.char then flagsOff fuel t.char off
      else notFlag t .flagColonMissing

/-- Inline flags: nothing when they were set for the whole pattern, otherwise the flags that are
switched on and off for a group. -/
def inlineFlags (first : Char) : Reader (Option (List Char × List Char)) := do
  let fuel := (← get).rest.length + 2
  let (on, ending) ← if first == '-' then pure ([], '-') else flagsOn fuel first []
  if ending == ')' then
    modify fun s => { s with flags := s.flags ++ on }
    return none
  if on.contains 't' then fail .flagGlobalOn 1
  let off ← if ending == '-' then do
      match ← next? with
      | none => fail .flagMissing 0
      | some t =>
        if !t.escaped && isFlag t.char then flagsOff fuel t.char []
        else notFlag t .flagMissing
    else pure []
  if off.contains 't' then fail .flagGlobalOff 1
  if on.any off.contains then fail .flagOnAndOff 1
  return some (on, off)

/-- The change of options that flags amount to. -/
def optionChange (on off : List Char) : OptionChange :=
  let turned (c : Char) : Option Bool :=
    if on.contains c then some true else if off.contains c then some false else none
  { ignoreCase := turned 'i'
    multiline := turned 'm'
    dotAll := turned 's'
    ascii := if on.contains 'a' then some true else if on.contains 'u' then some false else none }

/-! ## Groups -/

/-- Opens a group. -/
def openGroup (groupName : Option String) : Reader Nat := do
  let index ← groupCount
  match groupName with
  | none => modify fun s => { s with widths := s.widths ++ [none] }
  | some n =>
    match (← get).names.lookup n with
    | some earlier => fail (.nameTwice n index earlier) (n.length + 1)
    | none =>
      modify fun s => { s with widths := s.widths ++ [none], names := s.names ++ [(n, index)] }
  return index

/-- Closes a group. -/
def closeGroup (index : Nat) (body : List Regex) : Reader Unit := do
  let width := (widthOfAll (← groupWidths) body).bounded
  modify fun s => { s with widths := s.widths.set (index - 1) (some width) }

/-- Takes the parenthesis that closes what began at `start`. -/
def closeParenthesis (start : Nat) : Reader Unit := do
  if !(← take ')') then failAt .unclosedGroup start

/-- Digits of any script with single low lines between them. -/
def spacedDigits : Bool → List Char → Option (List Nat)
  | afterDigit, [] => if afterDigit then some [] else none
  | afterDigit, c :: rest =>
    match digitValue? c with
    | some d => (spacedDigits true rest).map (d :: ·)
    | none => if c == '_' && afterDigit then spacedDigits false rest else none

/-- The number of a group in a condition: decimal digits of any script, with blanks around them,
low lines between them and a sign in front. -/
def conditionNumber? (n : String) : Option Nat :=
  let cs := trimBoth isBlank n.toList
  let (negative, digits) := match cs with
    | '-' :: rest => (true, rest)
    | '+' :: rest => (false, rest)
    | rest => (false, rest)
  match spacedDigits false digits with
  | none => none
  | some ds =>
    let value := ds.foldl (fun n d => 10 * n + d) 0
    if numeralLimit < ds.length || (negative && value != 0) then none else some value

/-- The bound on group numbers. -/
def groupLimit : Nat := 1073741823

/-- The group that a condition refers to, by name or by number. -/
def conditionGroup : Reader Nat := do
  let n ← name ')' "group name"
  let index ←
    if isIdentifier n.toList then
      match (← get).names.lookup n with
      | some index => pure index
      | none => fail (.unknownName n) (n.length + 1)
    else
      match conditionNumber? n with
      | none => fail (.badName n) (n.length + 1)
      | some index => do
        if index == 0 then fail .groupNumberZero (n.length + 1)
        if groupLimit ≤ index then fail (.noSuchGroup index) (n.length + 1)
        let place := (← position) - n.length - 1
        modify fun s =>
          if (s.conditions.lookup index).isSome then s
          else { s with conditions := s.conditions ++ [(index, place)] }
        pure index
  checkLookbehind index
  return index

/-- A reference to a group by name. -/
def namedReference : Reader Regex := do
  let n ← name ')' "group name"
  checkName n
  match (← get).names.lookup n with
  | none => fail (.unknownName n) (n.length + 1)
  | some index =>
    if !(← isClosed index) then fail .groupStillOpen (n.length + 1)
    checkLookbehind index
    return .same index

/-- Skips a comment in parentheses. -/
def skipComment (start : Nat) : Nat → Reader Unit
  | 0 => failAt .unclosedComment start
  | fuel + 1 => do
    if (← peek?).isNone then failAt .unclosedComment start
    match ← next? with
    | some t => if t.is ')' then return () else skipComment start fuel
    | none => return ()

/-- Skips the rest of a line. -/
def skipLine : Nat → Reader Unit
  | 0 => return ()
  | fuel + 1 => do
    match ← next? with
    | some t => if t.is '\n' then return () else skipLine fuel
    | none => return ()

/-- What an opening parenthesis turned out to be. -/
inductive Opened where
  | nothing
  | settings
  | piece (r : Regex)

mutual

/-- The pieces up to a bar, a closing parenthesis or the end.  `first` holds for the first
alternative of the whole pattern, where flags may be set for all of it. -/
def sequence : Nat → Bool → Bool → List Regex → Reader (List Regex)
  | 0, _, _, _ => fail .endOfPattern 0
  | fuel + 1, spaced, first, done => do
    match ← peek? with
    | none => return done.reverse
    | some t =>
      if t.is '|' || t.is ')' then return done.reverse
      let _ ← next?
      if spaced && !t.escaped && isAsciiBlank t.char then sequence fuel spaced first done
      else if spaced && t.is '#' then
        skipLine ((← get).rest.length + 1)
        sequence fuel spaced first done
      else if t.escaped then
        let r ← escape t.char
        sequence fuel spaced first (r :: done)
      else
        match t.char with
        | '[' =>
          let r ← characterSet
          sequence fuel spaced first (r :: done)
        | '.' => sequence fuel spaced first (.any :: done)
        | '^' => sequence fuel spaced first (.anchor .lineStart :: done)
        | '$' => sequence fuel spaced first (.anchor .lineEnd :: done)
        | '(' =>
          match ← parenthesis fuel spaced (first && done.isEmpty) with
          | .nothing => sequence fuel spaced first done
          | .settings => sequence fuel ((← get).flags.contains 'x') first done
          | .piece r => sequence fuel spaced first (r :: done)
        | c =>
          if c == '*' || c == '+' || c == '?' || c == '{' then
            let start ← position
            match ← bounds? c start with
            | none => sequence fuel spaced first (.one c.toNat :: done)
            | some (least, most) =>
              let r ← quantify least most start done.head?
              sequence fuel spaced first (r :: done.tail)
          else sequence fuel spaced first (.one c.toNat :: done)

/-- Alternatives separated by bars.  `top` holds for those of the whole pattern. -/
def alternatives : Nat → Bool → Bool → List (List Regex) → Reader (List Regex)
  | 0, _, _, _ => fail .endOfPattern 0
  | fuel + 1, spaced, top, done => do
    let pieces ← sequence fuel spaced (top && done.isEmpty) []
    if ← take '|' then
      let flags := (← get).flags
      let spaced := if top then flags.contains 'x' else spaced
      alternatives fuel spaced top (pieces :: done)
    else
      match done with
      | [] => return pieces
      | done => return [.alternatives (pieces :: done).reverse]

/-- What follows an opening parenthesis. -/
def parenthesis : Nat → Bool → Bool → Reader Opened
  | 0, _, _ => fail .endOfPattern 0
  | fuel + 1, spaced, first => do
    let start := (← position) - 1
    if !(← take '?') then
      let index ← openGroup none
      let body ← alternatives fuel spaced false []
      closeParenthesis start
      closeGroup index body
      return .piece (.group (some index) none body)
    match ← next? with
    | none => fail .endOfPattern 0
    | some t =>
      if t.is 'P' then
        if ← take '<' then
          let n ← name '>' "group name"
          checkName n
          let index ← openGroup (some n)
          let body ← alternatives fuel spaced false []
          closeParenthesis start
          closeGroup index body
          return .piece (.group (some index) none body)
        else if ← take '=' then return .piece (← namedReference)
        else
          match ← next? with
          | none => fail .endOfPattern 0
          | some u => fail (.unknownExtension ("P" ++ u.text)) (u.size + 2)
      else if t.is ':' then
        let body ← alternatives fuel spaced false []
        closeParenthesis start
        return .piece (.group none none body)
      else if t.is '#' then
        skipComment start ((← get).rest.length + 1)
        return .nothing
      else if t.is '=' || t.is '!' then
        let body ← alternatives fuel spaced false []
        closeParenthesis start
        return .piece (.ahead (t.char == '!') body)
      else if t.is '<' then
        match ← next? with
        | none => fail .endOfPattern 0
        | some u =>
          if !(u.is '=' || u.is '!') then fail (.unknownExtension ("<" ++ u.text)) (u.size + 2)
          let outer := (← get).lookbehind
          let count ← groupCount
          modify fun s => { s with lookbehind := some (outer.getD count) }
          let body ← alternatives fuel spaced false []
          modify fun s => { s with lookbehind := outer }
          closeParenthesis start
          let width := (widthOfAll (← groupWidths) body).bounded
          return .piece (.behind (u.char == '!') width.least width.most body)
      else if t.is '(' then
        let index ← conditionGroup
        let yes ← sequence fuel spaced false []
        let hasNo ← take '|'
        let no ← if hasNo then sequence fuel spaced false [] else pure []
        if hasNo && (← isNext '|') then fail .tooManyBranches 0
        closeParenthesis start
        return .piece (.whether index yes no hasNo)
      else if t.is '>' then
        let body ← alternatives fuel spaced false []
        closeParenthesis start
        return .piece (.atomic body)
      else if !t.escaped && (isFlag t.char || t.char == '-') then
        match ← inlineFlags t.char with
        | none =>
          if !first then failAt .flagsNotAtStart start
          return .settings
        | some (on, off) =>
          let spaced := (spaced || on.contains 'x') && !off.contains 'x'
          let body ← alternatives fuel spaced false []
          closeParenthesis start
          return .piece (.group none (some (optionChange on off)) body)
      else fail (.unknownExtension t.text) (t.size + 1)

end

end Reader

/-! ## Whole patterns -/

/-- The code points that a look-behind may at most go back. -/
def lookbehindLimit : Nat := 4294967295

mutual

/-- The first look-behind without a fixed width, outermost first. -/
def Regex.badLookbehind? : Regex → Option Problem
  | .one _ | .other _ | .any | .oneOf _ _ | .anchor _ | .same _ => none
  | .alternatives choices => badLookbehindInAny? choices
  | .group _ _ body | .times _ _ _ body | .atomic body | .ahead _ body => badLookbehind? body
  | .behind _ shortest longest body =>
    if lookbehindLimit < shortest then some .lookbehindTooFar
    else if shortest != longest then some .lookbehindVaries
    else badLookbehind? body
  | .whether _ yes no _ => (badLookbehind? yes).or (badLookbehind? no)

/-- The first look-behind without a fixed width in a row of pieces. -/
def badLookbehind? : List Regex → Option Problem
  | [] => none
  | r :: rest => r.badLookbehind?.or (badLookbehind? rest)

/-- The first look-behind without a fixed width among alternatives. -/
def badLookbehindInAny? : List (List Regex) → Option Problem
  | [] => none
  | c :: rest => (badLookbehind? c).or (badLookbehindInAny? rest)

end

/-- Reads a whole pattern. -/
def readPattern : Reader Compiled := do
  Reader.checkEscape
  let s ← get
  let pieces ← Reader.alternatives (4 * s.rest.length + 4) false true []
  let flags := (← get).flags
  if flags.contains 'a' && flags.contains 'u' then throw .alphabetsClash
  if (← Reader.peek?).isSome then Reader.fail .unopenedGroup 0
  let count ← Reader.groupCount
  let conditions := (← get).conditions
  match conditions.find? fun (index, _) => count ≤ index with
  | some (index, place) => Reader.failAt (.noSuchGroup index) place
  | none =>
    match badLookbehind? pieces with
    | some problem => throw (.malformed ⟨problem, none⟩)
    | none =>
      return ⟨⟨flags.contains 'i', flags.contains 'm', flags.contains 's', flags.contains 'a'⟩,
        pieces⟩

/-- The pattern written by a text, or why there is none. -/
def compile (pattern : String) : Except Refusal Compiled :=
  let cs := pattern.toList
  let (rest, dangling) := tokens 0 cs
  (readPattern.run ⟨cs, rest, dangling, [], [], [], none, []⟩).map (·.1)

end LibraryCatalogue.Pattern
