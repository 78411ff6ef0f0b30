/-!
# What a schema finds wrong with a value

* `Problem` — the ways in which a value can fail to fit, with a code and a wording;
* `Step`, `Fault` — a problem, and the way to it from the value that was checked;
* `Invalid` — all the faults of one value, and the name of the schema;
* `Finding` — what a check ends with that is not passed.
-/

namespace LibraryCatalogue.Schema

/-- The ways in which a value can fail to fit a schema. -/
inductive Problem where
  | missing
  | notText
  | textNotUnicode
  | textEmpty
  | notInteger
  | integerUnreadable
  | integerTooLarge
  | integerFractional
  | notFinite
  | notPositive
  | portIsTruthValue
  | notTruthValue
  | truthValueUnreadable
  | notList
  | notMapping (schema : String)
  | keyNotText
  | notPath
deriving DecidableEq, Repr

/-- The code of a problem. -/
def Problem.code : Problem → String
  | .missing => "missing"
  | .notText => "string_type"
  | .textNotUnicode => "string_unicode"
  | .textEmpty => "string_too_short"
  | .notInteger => "int_type"
  | .integerUnreadable => "int_parsing"
  | .integerTooLarge => "int_parsing_size"
  | .integerFractional => "int_from_float"
  | .notFinite => "finite_number"
  | .notPositive => "greater_than"
  | .portIsTruthValue => "value_error"
  | .notTruthValue => "bool_type"
  | .truthValueUnreadable => "bool_parsing"
  | .notList => "list_type"
  | .notMapping _ => "model_type"
  | .keyNotText => "invalid_key"
  | .notPath => "path_type"

/-- The wording of a problem. -/
def Problem.message : Problem → String
  | .missing => "Field required"
  | .notText => "Input should be a valid string"
  | .textNotUnicode =>
    "Input should be a valid string, unable to parse raw data as a unicode string"
  | .textEmpty => "String should have at least 1 character"
  | .notInteger => "Input should be a valid integer"
  | .integerUnreadable => "Input should be a valid integer, unable to parse string as an integer"
  | .integerTooLarge => "Unable to parse input string as an integer, exceeded maximum size"
  | .integerFractional => "Input should be a valid integer, got a number with a fractional part"
  | .notFinite => "Input should be a finite number"
  | .notPositive => "Input should be greater than 0"
  | .portIsTruthValue => "Value error, port must be an integer, not a boolean"
  | .notTruthValue => "Input should be a valid boolean"
  | .truthValueUnreadable => "Input should be a valid boolean, unable to interpret input"
  | .notList => "Input should be a valid list"
  | .notMapping schema => "Input should be a valid dictionary or instance of " ++ schema
  | .keyNotText => "Keys should be strings"
  | .notPath => "Input is not a valid path for <class 'pathlib.Path'>"

/-- One step into a value: to a field, or to an item of a list. -/
inductive Step where
  | field (name : String)
  | index (i : Int)
deriving DecidableEq, Repr

/-- A problem, and the way to where it is. -/
structure Fault where
  path : List Step
  problem : Problem
deriving DecidableEq, Repr

/-- The fault seen from one step further out. -/
def Fault.under (step : Step) (f : Fault) : Fault :=
  { f with path := step :: f.path }

/-- All that a schema found wrong with a value. -/
structure Invalid where
  schema : String
  faults : List Fault
deriving DecidableEq, Repr

/-- What a check ends with that is not passed: all the faults that it found; or else, once it comes to
an integer that cannot be written where a text is expected, nothing but that. -/
inductive Finding where
  | faults (fs : List Fault)
  | unwritable
deriving DecidableEq, Repr

namespace Finding

/-- The finding seen from one step further out. -/
def under (step : Step) : Finding → Finding
  | .faults fs => .faults (fs.map (Fault.under step))
  | .unwritable => .unwritable

/-- The findings of two checks side by side: the faults of both, the first's first. -/
def both : Finding → Finding → Finding
  | .faults fs, .faults gs => .faults (fs ++ gs)
  | _, _ => .unwritable

@[simp] theorem both_faults_nil (f : Finding) : f.both (.faults []) = f := by
  cases f <;> simp [both]

@[simp] theorem faults_nil_both (f : Finding) : (faults []).both f = f := by
  cases f <;> rfl

theorem both_assoc (f g h : Finding) : (f.both g).both h = f.both (g.both h) := by
  cases f <;> cases g <;> cases h <;> simp [both]

end Finding

end LibraryCatalogue.Schema
