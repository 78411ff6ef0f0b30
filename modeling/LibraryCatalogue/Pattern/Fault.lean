import LibraryCatalogue.Text.Quoted

/-!
# What can be wrong with a pattern

* `Problem` — the ways in which a pattern can be malformed;
* `Fault` — a problem and where it is, with line and column when the pattern has several lines;
* `Refusal` — why a pattern cannot be used: a fault, or a demand that no pattern may make;
* `Fault.message` — the wording.
-/

namespace LibraryCatalogue.Pattern

/-- The ways in which a pattern can be malformed. -/
inductive Problem where
  | unclosedGroup
  | unopenedGroup
  | nothingToRepeat
  | repeatedTwice
  | leastAboveMost
  | unclosedSet
  | badRange (first last : String)
  | badEscape (text : String)
  | escapeAtEnd
  | shortEscape (text : String)
  | octalTooLarge (text : String)
  | unopenedName
  | unknownCharacter (name : String)
  | noSuchGroup (index : Nat)
  | groupStillOpen
  | groupInSameLookbehind
  | groupNumberZero
  | missingName (what : String)
  | unclosedName (terminator : String)
  | badName (name : String)
  | nameTwice (name : String) (index earlier : Nat)
  | unknownName (name : String)
  | unknownExtension (text : String)
  | endOfPattern
  | unclosedComment
  | tooManyBranches
  | flagsNotAtStart
  | flagsUnclosed
  | flagUnknown
  | flagMissing
  | flagColonMissing
  | flagLocale
  | flagsIncompatible
  | flagNotRevocable
  | flagGlobalOn
  | flagGlobalOff
  | flagOnAndOff
  | lookbehindVaries
  | lookbehindTooFar
deriving DecidableEq, Repr

/-- The wording of a problem. -/
def Problem.message : Problem → String
  | .unclosedGroup => "missing ), unterminated subpattern"
  | .unopenedGroup => "unbalanced parenthesis"
  | .nothingToRepeat => "nothing to repeat"
  | .repeatedTwice => "multiple repeat"
  | .leastAboveMost => "min repeat greater than max repeat"
  | .unclosedSet => "unterminated character set"
  | .badRange first last => "bad character range " ++ first ++ "-" ++ last
  | .badEscape text => "bad escape " ++ text
  | .escapeAtEnd => "bad escape (end of pattern)"
  | .shortEscape text => "incomplete escape " ++ text
  | .octalTooLarge text => "octal escape value " ++ text ++ " outside of range 0-0o377"
  | .unopenedName => "missing \x7b"
  | .unknownCharacter name => "undefined character name " ++ quoted name
  | .noSuchGroup index => "invalid group reference " ++ toString index
  | .groupStillOpen => "cannot refer to an open group"
  | .groupInSameLookbehind => "cannot refer to group defined in the same lookbehind subpattern"
  | .groupNumberZero => "bad group number"
  | .missingName what => "missing " ++ what
  | .unclosedName terminator => "missing " ++ terminator ++ ", unterminated name"
  | .badName name => "bad character in group name " ++ quoted name
  | .nameTwice name index earlier =>
    "redefinition of group name " ++ quoted name ++ " as group " ++ toString index ++
      "; was group " ++ toString earlier
  | .unknownName name => "unknown group name " ++ quoted name
  | .unknownExtension text => "unknown extension ?" ++ text
  | .endOfPattern => "unexpected end of pattern"
  | .unclosedComment => "missing ), unterminated comment"
  | .tooManyBranches => "conditional backref with more than two branches"
  | .flagsNotAtStart => "global flags not at the start of the expression"
  | .flagsUnclosed => "missing -, : or )"
  | .flagUnknown => "unknown flag"
  | .flagMissing => "missing flag"
  | .flagColonMissing => "missing :"
  | .flagLocale => "bad inline flags: cannot use 'L' flag with a str pattern"
  | .flagsIncompatible => "bad inline flags: flags 'a', 'u' and 'L' are incompatible"
  | .flagNotRevocable => "bad inline flags: cannot turn off flags 'a', 'u' and 'L'"
  | .flagGlobalOn => "bad inline flags: cannot turn on global flag"
  | .flagGlobalOff => "bad inline flags: cannot turn off global flag"
  | .flagOnAndOff => "bad inline flags: flag turned on and off"
  | .lookbehindVaries => "look-behind requires fixed-width pattern"
  | .lookbehindTooFar => "looks too much behind"

/-- Where a problem is: a position in the pattern, with line and column when it has several
lines. -/
structure Place where
  position : Nat
  lineColumn : Option (Nat × Nat)
deriving DecidableEq, Repr

/-- The place with this position in a pattern. -/
def Place.inPattern (pattern : List Char) (position : Nat) : Place where
  position
  lineColumn :=
    if pattern.contains '\n' then
      let before := pattern.take position
      some (before.count '\n' + 1, (before.reverse.takeWhile (· != '\n')).length + 1)
    else none

/-- A problem, and where it is when it belongs to one place. -/
structure Fault where
  problem : Problem
  place : Option Place
deriving DecidableEq, Repr

/-- The wording of a fault. -/
def Fault.message (f : Fault) : String :=
  match f.place with
  | none => f.problem.message
  | some ⟨position, none⟩ => f.problem.message ++ " at position " ++ toString position
  | some ⟨position, some (line, column)⟩ =>
    f.problem.message ++ " at position " ++ toString position ++ " (line " ++ toString line ++
      ", column " ++ toString column ++ ")"

/-- Why a pattern cannot be used. -/
inductive Refusal where
  | malformed (fault : Fault)
  | repetitionTooLarge
  | codeTooLarge
  | alphabetsClash
  | numberTooLong
deriving DecidableEq, Repr

end LibraryCatalogue.Pattern
