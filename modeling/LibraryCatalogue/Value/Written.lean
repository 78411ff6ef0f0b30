import LibraryCatalogue.Number.Decimal
import LibraryCatalogue.Text.Quoted
import LibraryCatalogue.Value.Basic

/-!
# The written form of raw values

Messages show raw values in a written form: texts are quoted, the elements of a container stand in
its brackets, and moments name their parts.

* `Value.written` — the form inside a container or a result;
* `Value.shown` — the form on its own: a text is shown as it is, a date by its own text;
* `Value.kindName` — the name of the kind of a value;
* `isWritableInteger`, `Value.isWritable` — not everything can be written: an integer has a greatest number of
  digits, and what holds a longer one has no written form either.
-/

namespace LibraryCatalogue

/-- The greatest number of digits that an integer can be written with. -/
def writtenDigitsLimit : Nat := 4300

/-- Whether an integer has no more digits than can be written; a sign counts for nothing. -/
@[irreducible]
def isWritableInteger (i : Int) : Bool :=
  i.natAbs < powerOfTen writtenDigitsLimit

namespace Value

/-- How nested mappings are marked in a written form. -/
structure Brackets where
  mapOpen : String
  mapClose : String

/-- Plain mappings stand in braces. -/
def plainBrackets : Brackets :=
  ⟨"\x7b", "\x7d"⟩

/-- Frozen mappings are marked as views of a mapping. -/
def frozenBrackets : Brackets :=
  ⟨"mappingproxy(\x7b", "\x7d)"⟩

/-- An offset from universal time, written with days and seconds. -/
def offsetWritten (offset : Int) : String :=
  if offset == 0 then "datetime.timezone.utc"
  else
    let days := Int.fdiv offset 86400
    let seconds := Int.fmod offset 86400
    let parts := (if days == 0 then [] else ["days=" ++ toString days]) ++
      (if seconds == 0 then [] else ["seconds=" ++ toString seconds])
    "datetime.timezone(datetime.timedelta(" ++ ", ".intercalate parts ++ "))"

/-- The written form of a date. -/
def dateWritten (d : Date) : String :=
  s!"datetime.date({d.year}, {d.month}, {d.day})"

/-- The written form of a moment; seconds and their fraction are left out when they are zero. -/
def momentWritten (t : Moment) : String :=
  let parts := [t.date.year, t.date.month, t.date.day, t.hour, t.minute] ++
    (if t.second == 0 && t.microsecond == 0 then []
     else if t.microsecond == 0 then [t.second] else [t.second, t.microsecond])
  let zone := match t.offset with
    | some o => ", tzinfo=" ++ offsetWritten o
    | none => ""
  "datetime.datetime(" ++ ", ".intercalate (parts.map toString) ++ zone ++ ")"

mutual

/-- The written form of a value. -/
def writtenIn (b : Brackets) : Value → String
  | .null => "None"
  | .bool true => "True"
  | .bool false => "False"
  | .int i => toString i
  | .float x => x.text
  | .text s => quoted s
  | .bytes bs => quotedBytes bs
  | .date d => dateWritten d
  | .moment t => momentWritten t
  | .list items => "[" ++ ", ".intercalate (writtenItems b items) ++ "]"
  | .tuple items =>
    match items with
    | [v] => "(" ++ writtenIn b v ++ ",)"
    | items => "(" ++ ", ".intercalate (writtenItems b items) ++ ")"
  | .set [] => "set()"
  | .set items => "\x7b" ++ ", ".intercalate (writtenItems b items) ++ "\x7d"
  | .map entries => b.mapOpen ++ ", ".intercalate (writtenEntries b entries) ++ b.mapClose

/-- The written forms of a row of values. -/
def writtenItems (b : Brackets) : List Value → List String
  | [] => []
  | v :: rest => writtenIn b v :: writtenItems b rest

/-- The written forms of the entries of a mapping. -/
def writtenEntries (b : Brackets) : Entries → List String
  | [] => []
  | (k, v) :: rest => (writtenIn b k ++ ": " ++ writtenIn b v) :: writtenEntries b rest

end

/-- The written form of a plain value. -/
def written (v : Value) : String :=
  v.writtenIn plainBrackets

/-- A value on its own: texts, dates and moments as they are, all else in its written form.  The
outermost mapping stands in plain braces. -/
def shownIn (b : Brackets) : Value → String
  | .text s => s
  | .date d => d.text
  | .moment t => t.textWith " "
  | .map entries => "\x7b" ++ ", ".intercalate (writtenEntries b entries) ++ "\x7d"
  | v => v.writtenIn b

/-- A plain value on its own. -/
def shown (v : Value) : String :=
  v.shownIn plainBrackets

/-- A frozen value on its own. -/
def shownFrozen (v : Value) : String :=
  v.shownIn frozenBrackets

/-- The name of the kind of a value. -/
def kindName : Value → String
  | .null => "NoneType"
  | .bool _ => "bool"
  | .int _ => "int"
  | .float _ => "float"
  | .text _ => "str"
  | .bytes _ => "bytes"
  | .date _ => "date"
  | .moment _ => "datetime"
  | .list _ => "list"
  | .tuple _ => "tuple"
  | .set _ => "set"
  | .map _ => "dict"

mutual

/-- Whether a value can be written. -/
def isWritable : Value → Bool
  | .int i => isWritableInteger i
  | .list items | .tuple items | .set items => areWritable items
  | .map entries => areEntriesWritable entries
  | _ => true

/-- Whether each of a row of values can be written. -/
def areWritable : List Value → Bool
  | [] => true
  | v :: rest => isWritable v && areWritable rest

/-- Whether all keys and values of a mapping can be written. -/
def areEntriesWritable : Entries → Bool
  | [] => true
  | (k, v) :: rest => isWritable k && isWritable v && areEntriesWritable rest

end

end Value

end LibraryCatalogue
