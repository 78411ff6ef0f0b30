import LibraryCatalogue.Files.Tree
import LibraryCatalogue.Settings.Basic
import LibraryCatalogue.Store

/-!
# Installations

An installation has files and an environment, and stores on them.  One store may be shared by all who
name none; it is made from the settings when it is first asked for.  Settings are read once and kept.

* `Installation` — files, environment, kept settings, and stores by their numbers;
* `Installation.keepSettings` — the settings;
* `Installation.addStore`, `Installation.sharedStore` — stores;
* `Installation.onStore` — an operation on one store.
-/

namespace LibraryCatalogue

/-- Files, environment, the settings once they were read, all stores, and which of them is shared. -/
structure Installation where
  files : FileTree
  environment : Environment
  settings : Option Settings
  stores : List Store
  shared : Option Nat

namespace Installation

/-- An installation in an empty directory. -/
def start : Installation :=
  ⟨.empty, [], none, [], none⟩

/-- Sets a variable of the environment, in its place if it is set, or removes it. -/
def setVariable (i : Installation) (name : String) (value : Option String) : Installation :=
  match value with
  | none => { i with environment := i.environment.filter fun e => e.1 != name }
  | some v =>
    if (i.environment.lookup name).isSome then
      { i with environment := i.environment.map fun e => if e.1 == name then (name, v) else e }
    else { i with environment := i.environment ++ [(name, v)] }

/-- The settings, which are kept once they could be read. -/
def keepSettings (i : Installation) : Except Failure Settings × Installation :=
  match i.settings with
  | some s => (.ok s, i)
  | none =>
    let file := i.files.file? (Path.ofText Settings.variablesFile)
    match Settings.ofSources [] i.environment file with
    | .ok s => (.ok s, { i with settings := some s })
    | .error f => (.error f, i)

/-- Forgets the settings. -/
def clearSettings (i : Installation) : Installation :=
  { i with settings := none }

/-- Adds a store, and gives its number. -/
def addStore (i : Installation) (path : Path) (fallbackToEmpty : Bool) : Nat × Installation :=
  (i.stores.length, { i with stores := i.stores ++ [.ofPath path fallbackToEmpty] })

/-- Adds a store that is shared from now on. -/
def shareStore (i : Installation) (path : Path) (fallbackToEmpty : Bool) : Nat × Installation :=
  let (n, i) := i.addStore path fallbackToEmpty
  (n, { i with shared := some n })

/-- Forgets which store is shared. -/
def unshare (i : Installation) : Installation :=
  { i with shared := none }

/-- The event that the shared store was made. -/
def createdEvent (path : Path) : Event :=
  ⟨"config.store_created", .debug, [("path", .text path.text)]⟩

/-- The number of the shared store, which is made from the settings if there is none. -/
def sharedStore (i : Installation) : Logged Nat × Installation :=
  match i.shared with
  | some n => (Logged.silent (.ok n), i)
  | none =>
    match i.keepSettings with
    | (.error f, i) => (Logged.silent (.error f), i)
    | (.ok s, i) =>
      let (n, i) := i.shareStore s.path s.fallbackToEmpty
      (⟨.ok n, [createdEvent s.path]⟩, i)

/-- An operation on a store and what its path shows. -/
def onStore {α : Type} (i : Installation) (n : Nat) (f : Store → Sight → α × Store) :
    Option (α × Installation) :=
  i.stores[n]?.map fun s =>
    let (a, s) := f s (i.files.look s.path)
    (a, { i with stores := i.stores.set n s })

/-- The installation after a change of its files. -/
def changeFiles (i : Installation) (change : FileTree → Except FileFault FileTree) :
    Except Failure Installation :=
  match change i.files with
  | .ok files => .ok { i with files }
  | .error f => .error (.file f)

end Installation

end LibraryCatalogue
