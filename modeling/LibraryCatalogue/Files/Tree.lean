import LibraryCatalogue.Files.Path
import LibraryCatalogue.Files.Sight

/-!
# Files and directories

A tree of files below a working directory.  Nothing is known of what lies outside of it.

* `Item`, `FileTree` — files with their bytes and the time of their last change, and directories;
* `FileTree.locate` — the place that a path leads to;
* `FileTree.look` — what a path shows;
* `FileTree.write`, `FileTree.touch`, `FileTree.delete`, `FileTree.makeDirectory` — changes.
-/

namespace LibraryCatalogue

/-- What lies at a place. -/
inductive Item where
  | file (bytes : List UInt8) (changed : Int)
  /-- A directory, with the number of things that were put into it or taken out of it. -/
  | directory (changes : Nat)
deriving Repr

/-- A place below the working directory, by the names that lead to it. -/
abbrev Place := List String

/-- What lies below the working directory, itself included. -/
structure FileTree where
  items : List (Place × Item)
deriving Repr

namespace FileTree

/-- An empty working directory. -/
def empty : FileTree := ⟨[([], .directory 0)]⟩

/-- What lies at a place. -/
def item? (t : FileTree) (place : Place) : Option Item :=
  t.items.lookup place

/-- The greatest number of bytes that a name may have. -/
def nameLimit : Nat := 255

/-- The number of bytes that a path must stay below. -/
def pathLimit : Nat := 4096

/-- The place that names lead to from a place on; none is a directory outside. -/
def walk (t : FileTree) : Option Place → List String → Except FileProblem (Option Place)
  | at?, [] => .ok at?
  | none, name :: rest =>
    if name == ".." then t.walk none rest
    else if nameLimit < name.utf8ByteSize then .error .nameTooLong
    else .error .notFound
  | some place, name :: rest =>
    match t.item? place with
    | none => .error .notFound
    | some (.file _ _) => .error .notDirectory
    | some (.directory _) =>
      if name == ".." then t.walk (if place.isEmpty then none else some place.dropLast) rest
      else if nameLimit < name.utf8ByteSize then .error .nameTooLong
      else if (t.item? (place ++ [name])).isSome then t.walk (some (place ++ [name])) rest
      else .error .notFound

/-- The place that a path leads to; none is a directory outside. -/
def locate (t : FileTree) (p : Path) : Except FileProblem (Option Place) :=
  if pathLimit ≤ p.text.utf8ByteSize then .error .nameTooLong
  else t.walk (if p.root.isEmpty then some [] else none) p.steps

/-- The size of every directory. -/
def directorySize : Nat := 4096

/-- What a directory shows. -/
def directorySight (p : Path) (changes : Nat) : Sight :=
  ⟨.ok ⟨changes, directorySize⟩, .error ⟨.isDirectory, p.text⟩⟩

/-- What a path shows. -/
def look (t : FileTree) (p : Path) : Sight :=
  match t.locate p with
  | .error problem => .refused ⟨problem, p.text⟩
  | .ok none => directorySight p 0
  | .ok (some place) =>
    match t.item? place with
    | none => .refused ⟨.notFound, p.text⟩
    | some (.directory changes) => directorySight p changes
    | some (.file bytes changed) => ⟨.ok ⟨changed, bytes.length⟩, .ok bytes⟩

/-- The bytes of a file, if a path leads to one. -/
def file? (t : FileTree) (p : Path) : Option (List UInt8) :=
  (t.look p).content.toOption

/-- Puts something at a place where something lies. -/
def replace (t : FileTree) (place : Place) (i : Item) : FileTree :=
  ⟨t.items.map fun e => if e.1 == place then (place, i) else e⟩

/-- Counts a change of the directory above a place. -/
def countChange (t : FileTree) (place : Place) : FileTree :=
  match t.item? place.dropLast with
  | some (.directory n) => t.replace place.dropLast (.directory (n + 1))
  | _ => t

/-- Puts something at a place, which is in a directory. -/
def put (t : FileTree) (place : Place) (i : Item) : FileTree :=
  if (t.item? place).isSome then t.replace place i
  else ⟨(t.countChange place).items ++ [(place, i)]⟩

/-- The directories on the way through some names, which are made where nothing lies; and the place
that they lead to. -/
def makeDirectories (t : FileTree) : Place → List String → Except FileProblem (FileTree × Place)
  | place, [] => .ok (t, place)
  | place, name :: rest =>
    if name == ".." then t.makeDirectories place.dropLast rest
    else
      let place := place ++ [name]
      match t.item? place with
      | some (.directory _) => t.makeDirectories place rest
      | some (.file _ _) => .error .notDirectory
      | none => (t.put place (.directory 0)).makeDirectories place rest

/-- The tree after a change, or the fault at a path. -/
def changed (p : Path) (r : Except FileProblem FileTree) : Except FileFault FileTree :=
  r.mapError fun problem => ⟨problem, p.text⟩

/-- Writes a file, with the directories above it. -/
def write (t : FileTree) (p : Path) (bytes : List UInt8) (time : Int) :
    Except FileFault FileTree :=
  changed p do
    let (t, place) ← t.makeDirectories [] p.steps.dropLast
    let place := place ++ [p.name]
    match t.item? place with
    | some (.directory _) => throw .isDirectory
    | _ => return t.put place (.file bytes time)

/-- Sets the time of the last change of a file. -/
def touch (t : FileTree) (p : Path) (time : Int) : Except FileFault FileTree :=
  changed p do
    match ← t.locate p with
    | none => throw .notFound
    | some place =>
      match t.item? place with
      | some (.file bytes _) => return t.replace place (.file bytes time)
      | some (.directory _) => return t
      | none => throw .notFound

/-- Removes what lies at a path, with all that is below it. -/
def delete (t : FileTree) (p : Path) : Except FileFault FileTree :=
  changed p do
    match ← t.locate p with
    | none => throw .notFound
    | some place =>
      let t := t.countChange place
      return ⟨t.items.filter fun e => !place.isPrefixOf e.1⟩

/-- Makes a directory, with those above it. -/
def makeDirectory (t : FileTree) (p : Path) : Except FileFault FileTree :=
  changed p ((t.makeDirectories [] p.steps).map (·.1))

end FileTree

end LibraryCatalogue
