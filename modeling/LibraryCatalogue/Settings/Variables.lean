import LibraryCatalogue.Text.Basic

/-!
# Files of variables

Such a file gives one variable a line: a name, an equals sign and a value, which may be quoted.  A
line that cannot be read is skipped.  Values may refer to other variables.

* `readVariables` — the variables of a file, in order, as they are written;
* `expand` — a value with its references replaced;
* `variablesOf` — the variables of a file after expansion, later ones over earlier ones.
-/

namespace LibraryCatalogue

/-- The names and values of variables, in order; a name can stand without a value. -/
abbrev Variables := List (String × Option String)

namespace Variables

/-- Writes a variable; one that is there keeps its place. -/
def insert (name : String) (value : Option String) : Variables → Variables
  | [] => [(name, value)]
  | (n, v) :: rest => if n == name then (n, value) :: rest else (n, v) :: insert name value rest

end Variables

/-- White space within a line. -/
def isLineBlank (c : Char) : Bool :=
  isBlank c && c != '\n' && c != '\r'

/-- A piece of a file that was read, and what follows it. -/
abbrev Piece (α : Type) := α × List Char

/-- The text up to a quote that no backslash precedes, with the quote itself left out.  A backslash
before a quote belongs to the text; if no other quote follows, the quote behind the last such
backslash ends the text after all. -/
def quotedText (quote : Char) : List Char → Option (Piece (List Char))
  | [] => none
  | c :: rest =>
    if c == quote then some ([], rest)
    else
      match c, rest with
      | '\\', d :: rest' =>
        if d == quote then
          match quotedText quote rest' with
          | some (text, after) => some ('\\' :: d :: text, after)
          | none => some (['\\'], rest')
        else (quotedText quote (d :: rest')).map fun (text, after) => ('\\' :: text, after)
      | c, rest => (quotedText quote rest).map fun (text, after) => (c :: text, after)

/-- What a letter after a backslash stands for in double quotes. -/
def escapedChar? (c : Char) : Option Char :=
  match c with
  | '\\' => some '\\'
  | '\'' => some '\''
  | '"' => some '"'
  | 'a' => some (Char.ofNat 7)
  | 'b' => some (Char.ofNat 8)
  | 'f' => some (Char.ofNat 12)
  | 'n' => some '\n'
  | 'r' => some '\r'
  | 't' => some '\t'
  | 'v' => some (Char.ofNat 11)
  | _ => none

/-- What a character after a backslash stands for in single quotes. -/
def singleEscapedChar? (c : Char) : Option Char :=
  if c == '\\' || c == '\'' then some c else none

/-- A text with its escapes replaced; a backslash that starts none is kept. -/
def unescape (escape? : Char → Option Char) : List Char → List Char
  | '\\' :: c :: rest =>
    match escape? c with
    | some d => d :: unescape escape? rest
    | none => '\\' :: unescape escape? (c :: rest)
  | c :: rest => c :: unescape escape? rest
  | [] => []

/-- An unquoted value without a comment: that begins at the first white space that a number sign
follows. -/
def dropComment : List Char → List Char
  | [] => []
  | c :: rest =>
    if isBlank c && ((c :: rest).dropWhile isBlank).head? == some '#' then []
    else c :: dropComment rest

/-- The value after an equals sign. -/
def readVariableValue (cs : List Char) : Option (Piece String) :=
  match cs with
  | '\'' :: rest =>
    (quotedText '\'' rest).map fun (t, after) =>
      (String.ofList (unescape singleEscapedChar? t), after)
  | '"' :: rest =>
    (quotedText '"' rest).map fun (t, after) => (String.ofList (unescape escapedChar? t), after)
  | cs =>
    let line := cs.takeWhile fun c => c != '\n' && c != '\r'
    let value := ((dropComment line).reverse.dropWhile isBlank).reverse
    some (String.ofList value, cs.drop line.length)

/-- The word that may stand before a name. -/
def exportWord : List Char := "export".toList

/-- Skips the word that may stand before a name. -/
def skipExport (cs : List Char) : List Char :=
  if exportWord.isPrefixOf cs then
    let rest := cs.drop exportWord.length
    if (rest.head?.map isLineBlank).getD false then rest.dropWhile isLineBlank else cs
  else cs

/-- A name: quoted, or up to white space, an equals sign or a number sign.  Where a comment begins
there is no name. -/
def readVariableName (cs : List Char) : Option (Piece (Option String)) :=
  match cs with
  | '#' :: _ => some (none, cs)
  | '\'' :: rest =>
    let name := rest.takeWhile (· != '\'')
    match rest.drop name.length with
    | '\'' :: after => if name.isEmpty then none else some (some (String.ofList name), after)
    | _ => none
  | cs =>
    let name := cs.takeWhile fun c => c != '=' && c != '#' && !isBlank c
    if name.isEmpty then none else some (some (String.ofList name), cs.drop name.length)

/-- Skips a comment and what ends a line, which must come next. -/
def finishLine (cs : List Char) : Option (List Char) :=
  let inner := cs.dropWhile isLineBlank
  let cs := match inner with
    | '#' :: rest => rest.dropWhile fun c => c != '\n' && c != '\r'
    | _ => inner
  match cs with
  | [] => some []
  | '\r' :: '\n' :: rest | '\n' :: rest | '\r' :: rest => some rest
  | _ => none

/-- Skips the rest of a line that could not be read. -/
def skipLine (cs : List Char) : List Char :=
  match cs.dropWhile fun c => c != '\n' && c != '\r' with
  | '\r' :: rest | '\n' :: rest => rest
  | rest => rest

/-- What one line gives: a variable or nothing, and what follows the line. -/
def readVariable (cs : List Char) : Piece (Option (String × Option String)) :=
  match cs.dropWhile isBlank with
  | [] => (none, [])
  | start =>
    let start := skipExport start
    match readVariableName start with
    | none => (none, skipLine start)
    | some (name, rest) =>
      let rest := rest.dropWhile isLineBlank
      let value? := match rest with
        | '=' :: rest =>
          let rest := rest.dropWhile isLineBlank
          match readVariableValue rest with
          | some (v, rest) => (some (some v), rest)
          | none => (none, rest)
        | rest => (some none, rest)
      match value? with
      | (none, rest) => (none, skipLine rest)
      | (some v, rest) =>
        match finishLine rest with
        | some after => (name.map fun n => (n, v), after)
        | none => (none, skipLine (rest.dropWhile isLineBlank))

/-- The variables of a text, line by line; the first argument bounds their number. -/
def readVariablesFrom : Nat → List Char → Variables
  | 0, _ => []
  | _ + 1, [] => []
  | fuel + 1, cs =>
    let (found, rest) := readVariable cs
    found.toList ++ readVariablesFrom fuel rest

/-- The variables of a text, as they are written. -/
def readVariables (cs : List Char) : Variables :=
  readVariablesFrom (cs.length + 1) cs

/-- A reference to a variable that starts here, after its dollar sign and brace: its name, what to
use when it is absent, and what follows. -/
def readReference (cs : List Char) : Option (Piece (String × String)) :=
  let name := cs.takeWhile fun c => c != '\x7d' && c != ':'
  match cs.drop name.length with
  | '\x7d' :: rest => some ((String.ofList name, ""), rest)
  | ':' :: '-' :: rest =>
    let default := rest.takeWhile (· != '\x7d')
    match rest.drop default.length with
    | '\x7d' :: rest => some ((String.ofList name, String.ofList default), rest)
    | _ => none
  | _ => none

/-- A value with its references replaced; the first argument bounds its length. -/
def expandFrom (known : String → Option (Option String)) : Nat → List Char → List Char
  | 0, _ => []
  | _ + 1, [] => []
  | fuel + 1, c :: rest =>
    let plain := c :: expandFrom known fuel rest
    match c, rest with
    | '$', '\x7b' :: inner =>
      match readReference inner with
      | some ((name, default), after) =>
        (((known name).getD (some default)).getD "").toList ++ expandFrom known fuel after
      | none => plain
    | _, _ => plain

/-- A value with its references replaced. -/
def expand (known : String → Option (Option String)) (s : String) : String :=
  String.ofList (expandFrom known (s.length + 1) s.toList)

/-- The variables of a text after expansion.  A reference finds the variables before it, then those
of the surroundings. -/
def variablesOf (surroundings : List (String × String)) (cs : List Char) : Variables :=
  (readVariables cs).foldl (fun done (name, value) =>
    let known (n : String) : Option (Option String) :=
      (done.lookup n).or ((surroundings.lookup n).map some)
    done.insert name (value.map (expand known))) []

end LibraryCatalogue
