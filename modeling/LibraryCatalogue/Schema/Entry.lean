import LibraryCatalogue.Schema.Scalar

/-!
# Entries of a definition

The contents of an entry are checked when it is looked up.  A check keeps what is written; modes and
patterns are looked at only afterwards, when the entry is resolved.

* `ConditionEntry`, `RuleEntry` — conditions and rules as written;
* `SpecialMappingEntry` — an external code that a catalogue redefines;
* `ConnectionEntry`, `CatalogueEntry` — how to reach a catalogue, and all there is about it;
* `DoctypeEntry` — a document type with its external codes.
-/

namespace LibraryCatalogue.Schema

/-- A condition as written. -/
structure ConditionEntry where
  tag : String
  subtag : Option String
  value : String
  mode : Option String
deriving DecidableEq, Repr

/-- Checks a condition. -/
def ConditionEntry.check (v : Value) : Checked ConditionEntry := do
  let es ← mapping "ConditionSpec" v
  let (tag, subtag, value, mode) ←
    (field es "tag" (nonempty numericText)).both
      ((optional es "subtag" none (nullable numericText)).both
        ((field es "value" numericText).both
          (optional es "mode" none (nullable numericText))))
  return ⟨tag, subtag, value, mode⟩

/-- A rule as written. -/
structure RuleEntry where
  tag : String
  subtag : Option String
  value : String
  mode : Option String
  conditions : List ConditionEntry
deriving DecidableEq, Repr

/-- Checks a list of entries, where one mapping or nothing may stand for a list. -/
def entryList {α : Type} (check : Value → Checked α) (v : Value) : Checked (List α) :=
  listOf check v.asList

/-- Checks a rule. -/
def RuleEntry.check (v : Value) : Checked RuleEntry := do
  let es ← mapping "SetvalueSpec" v
  let (tag, subtag, value, mode, conditions) ←
    (field es "tag" (nonempty numericText)).both
      ((optional es "subtag" none (nullable numericText)).both
        ((field es "value" numericText).both
          ((optional es "mode" none (nullable numericText)).both
            (optional es "condition" [] (entryList ConditionEntry.check)))))
  return ⟨tag, subtag, value, mode, conditions⟩

/-- The rules of a catalogue; an absent block has none. -/
def checkRules : Value → Checked (List RuleEntry)
  | .null => .ok []
  | v => do
    let es ← mapping "BeautifySpec" v
    optional es "setvalue" [] (entryList RuleEntry.check)

/-- An external code that a catalogue redefines, and the document type it means there. -/
structure SpecialMappingEntry where
  doctypeTitle : String
  code : String
deriving DecidableEq, Repr

/-- Checks a special mapping. -/
def SpecialMappingEntry.check (v : Value) : Checked SpecialMappingEntry := do
  let es ← mapping "SpecialMappingSpec" v
  let (doctypeTitle, code) ←
    (field es "type" (nonempty numericText)).both (field es "value" (nonempty numericText))
  return ⟨doctypeTitle, code⟩

/-- How to reach a catalogue, as written. -/
structure ConnectionEntry where
  description : String
  address : String
  database : String
  port : Int
  userClause : String
  charset : Option String
deriving DecidableEq, Repr

/-- Checks a port; a truth value is none. -/
def checkPort : Value → Checked Int
  | .bool _ => .fail .portIsTruthValue
  | v => positive v

/-- Checks how to reach a catalogue. -/
def ConnectionEntry.check (v : Value) : Checked ConnectionEntry := do
  let es ← mapping "CatalogueConfigSpec" v
  let (description, address, database, port, userClause, charset) ←
    (optional es "description" "" numericText).both
      ((field es "address" numericText).both
        ((field es "database" numericText).both
          ((field es "port" checkPort).both
            ((optional es "ucnf" "" numericText).both
              (optional es "charset" none (nullable numericText))))))
  return ⟨description, address, database, port, userClause, charset⟩

/-- All there is about a catalogue, as written. -/
structure CatalogueEntry where
  title : String
  connection : ConnectionEntry
  rules : List RuleEntry
  specialMappings : List SpecialMappingEntry
deriving DecidableEq, Repr

/-- Checks a catalogue. -/
def CatalogueEntry.check (v : Value) : Checked CatalogueEntry := do
  let es ← mapping "CatalogueSpec" v
  let (title, connection, rules, specialMappings) ←
    (field es "title" numericText).both
      ((field es "config" ConnectionEntry.check).both
        ((optional es "beautify" [] checkRules).both
          (optional es "specialmapping" [] (entryList SpecialMappingEntry.check))))
  return ⟨title, connection, rules, specialMappings⟩

/-- A document type as written. -/
structure DoctypeEntry where
  title : String
  periodical : Bool
  multiVolume : Bool
  containedWork : Bool
  codes : List String
deriving DecidableEq, Repr

/-- Checks a flag that has two names; the first one wins, and a fault is reported under the name that
was used. -/
def checkFlag (es : Entries) (name other : String) : Checked Bool :=
  match Value.get? es name with
  | some v => Checked.under (.field name) (truthValue v)
  | none => optional es other false truthValue

/-- Checks the codes of a document type; one text or nothing may stand for a list. -/
def checkCodes : Value → Checked (List String)
  | .text s => .ok [s]
  | .null => .ok []
  | v => listOf numericText v

/-- Checks a document type. -/
def DoctypeEntry.check (v : Value) : Checked DoctypeEntry := do
  let es ← mapping "DoctypeSpec" v
  let (title, periodical, multiVolume, containedWork, codes) ←
    (field es "title" numericText).both
      ((checkFlag es "isPeriodical" "is_periodical").both
        ((checkFlag es "isMultiVolume" "is_multi_volume").both
          ((checkFlag es "isContainedWork" "is_contained_work").both
            (optional es "mapping" [] checkCodes))))
  return ⟨title, periodical, multiVolume, containedWork, codes⟩

end LibraryCatalogue.Schema
