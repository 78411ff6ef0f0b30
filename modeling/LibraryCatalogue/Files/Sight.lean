import LibraryCatalogue.Text.Quoted

/-!
# What a path shows

* `FileProblem`, `FileFault` — why the system refuses a path, with the number it gives the problem;
  the problems that nothing here asks about are only told apart by number and wording;
* `FileFault.message` — the wording;
* `Marker` — what is known of a file without reading it;
* `Sight` — what the system says of a path at some moment;
* `Sight.marker?` — the marker, none where nothing lies.
-/

namespace LibraryCatalogue

/-! ## Refusals -/

/-- Why the system refuses a path. -/
inductive FileProblem where
  | notFound
  | notDirectory
  | isDirectory
  | nameTooLong
  | denied
  | other (number : Nat) (message : String)
deriving DecidableEq, Repr

/-- The system's number of a problem. -/
def FileProblem.number : FileProblem → Nat
  | .notFound => 2
  | .notDirectory => 20
  | .isDirectory => 21
  | .nameTooLong => 36
  | .denied => 13
  | .other number _ => number

/-- The system's wording of a problem. -/
def FileProblem.message : FileProblem → String
  | .notFound => "No such file or directory"
  | .notDirectory => "Not a directory"
  | .isDirectory => "Is a directory"
  | .nameTooLong => "File name too long"
  | .denied => "Permission denied"
  | .other _ message => message

/-- A problem with a path. -/
structure FileFault where
  problem : FileProblem
  path : String
deriving DecidableEq, Repr

/-- Number, wording and quoted path. -/
def FileFault.message (f : FileFault) : String :=
  "[Errno " ++ toString f.problem.number ++ "] " ++ f.problem.message ++ ": " ++ quoted f.path

/-! ## Sights -/

/-- What is known of a file without reading it: when it was changed, and its size. -/
structure Marker where
  changed : Int
  size : Nat
deriving DecidableEq, Repr

/-- What the system says of a path at some moment: to one who asks for the marker, and to one who
reads. -/
structure Sight where
  marker : Except FileFault Marker
  content : Except FileFault (List UInt8)

/-- The marker, none where nothing lies. -/
def Sight.marker? (now : Sight) : Except FileFault (Option Marker) :=
  match now.marker with
  | .ok m => .ok (some m)
  | .error f => if f.problem == .notFound then .ok none else .error f

/-- A path that the system refuses. -/
def Sight.refused (fault : FileFault) : Sight :=
  ⟨.error fault, .error fault⟩

end LibraryCatalogue
