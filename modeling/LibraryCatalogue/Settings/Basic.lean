import LibraryCatalogue.Error.Basic
import LibraryCatalogue.Files.Path
import LibraryCatalogue.Schema.Scalar
import LibraryCatalogue.Settings.Variables
import LibraryCatalogue.Text.Basic

/-!
# Settings

Settings say where the definition of the running process lies.  A value given directly counts before
one from the environment, and that before one from the file of variables; names in both are found
whatever their case.

* `Settings`, `Settings.path` — where the definition lies, and what to do with a malformed one;
* `Settings.ofSources` — the settings from all sources, or what is wrong with them.
-/

namespace LibraryCatalogue

/-- The variables of the environment, in the order in which they were set. -/
abbrev Environment := List (String × String)

/-- Where the definition lies, and whether a malformed one counts as empty. -/
structure Settings where
  directory : Path
  file : String
  fallbackToEmpty : Bool
deriving DecidableEq, Repr

/-- The path of the definition. -/
def Settings.path (s : Settings) : Path :=
  s.directory.join (Path.ofText s.file)

namespace Settings

/-- The file of variables that is looked for in the working directory. -/
def variablesFile : String := ".env"

/-- What the names of variables for these settings begin with. -/
def variableStem : String := "opac_"

/-- Variables under their names in lower case, later ones over earlier ones. -/
def ignoringCase (vs : Variables) : Variables :=
  vs.foldl (fun acc (n, v) => acc.insert (lowerText n) v) []

/-- The value of a setting among variables. -/
def fromVariables (vs : Variables) (name : String) : Option Value :=
  ((vs.lookup (variableStem ++ name)).join).map .text

/-- The value of a setting: given directly, or from the environment, or from the file. -/
def sourced (given : Entries) (environment file : Variables) (name : String) : Option Value :=
  ((Value.get? given name).or (fromVariables environment name)).or (fromVariables file name)

/-- A path. -/
def checkPath (v : Value) : Schema.Checked Path :=
  match Schema.text v with
  | .ok s => .ok (Path.ofText s)
  | .error _ => .fail .notPath

/-- The settings that values make; what is absent takes its default. -/
def check (value? : String → Option Value) : Schema.Checked Settings := do
  let entries : Entries := ["config_dir", "config_file", "fallback_to_empty"].filterMap fun n =>
    (value? n).map fun v => (.text n, v)
  let (directory, file, fallback) ←
    (Schema.optional entries "config_dir" (Path.ofText "config") checkPath).both
      ((Schema.optional entries "config_file" "opac.yaml" Schema.text).both
        (Schema.optional entries "fallback_to_empty" false Schema.truthValue))
  return ⟨directory, file, fallback⟩

/-- The settings from values given directly, the environment and the bytes of a file of variables. -/
def ofSources (given : Entries) (environment : Environment) (file : Option (List UInt8)) :
    Except Failure Settings :=
  let inEnvironment := ignoringCase (environment.map fun (n, v) => (n, some v))
  match file.map decodeUtf8 with
  | some none => .error .undecodable
  | read =>
    let cs := unifyNewlines (read.join.getD [])
    let inFile := ignoringCase (variablesOf environment cs)
    (check (sourced given inEnvironment inFile)).mapError
      (Failure.ofFinding "OpacSettings" .invalid)

end Settings

end LibraryCatalogue
