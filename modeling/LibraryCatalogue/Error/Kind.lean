/-!
# Kinds of failure

Kinds form a tree; handling one kind handles every kind below it.

* `Kind`, `Kind.ancestors`, `Kind.isA` — the tree;
* `Kind.name` — the name under which a kind is reported;
* `Category` — the three categories of configuration errors.
-/

namespace LibraryCatalogue

/-- Kinds of failure. -/
inductive Kind where
  | any
  | raised
  | attribute
  | wrongType
  | lookup
  | index
  | key
  | value
  | unicode
  | undecodable
  | overflow
  | pattern
  | recursion
  | system
  | timeout
  | fileNotFound
  | isDirectory
  | notDirectory
  | denied
  | general
  | config
  | sourceNotFound
  | parse
  | unknownMode
  | inconsistent
deriving DecidableEq, Repr

namespace Kind

/-- The kinds that a kind belongs to, itself first. -/
def ancestors : Kind → List Kind
  | .any => [.any]
  | .index => [.index, .lookup, .any]
  | .key => [.key, .lookup, .any]
  | .unicode => [.unicode, .value, .any]
  | .undecodable => [.undecodable, .unicode, .value, .any]
  | .timeout => [.timeout, .system, .any]
  | .fileNotFound => [.fileNotFound, .system, .any]
  | .isDirectory => [.isDirectory, .system, .any]
  | .notDirectory => [.notDirectory, .system, .any]
  | .denied => [.denied, .system, .any]
  | .config => [.config, .general, .any]
  | .sourceNotFound => [.sourceNotFound, .config, .general, .any]
  | .parse => [.parse, .config, .general, .any]
  | .unknownMode => [.unknownMode, .parse, .config, .general, .any]
  | .inconsistent => [.inconsistent, .config, .general, .any]
  | k => [k, .any]

/-- Whether a kind is, or lies below, another one. -/
def isA (k above : Kind) : Bool :=
  k.ancestors.contains above

/-- The name under which a kind is reported. -/
def name : Kind → String
  | .any => "Exception"
  | .raised => "Raised"
  | .attribute => "AttributeError"
  | .wrongType => "TypeError"
  | .lookup => "LookupError"
  | .index => "IndexError"
  | .key => "KeyError"
  | .value => "ValueError"
  | .unicode => "UnicodeError"
  | .undecodable => "UnicodeDecodeError"
  | .overflow => "OverflowError"
  | .pattern => "re.error"
  | .recursion => "RecursionError"
  | .system => "OSError"
  | .timeout => "TimeoutError"
  | .fileNotFound => "FileNotFoundError"
  | .isDirectory => "IsADirectoryError"
  | .notDirectory => "NotADirectoryError"
  | .denied => "PermissionError"
  | .general => "OpacError"
  | .config => "ConfigError"
  | .sourceNotFound => "ConfigurationNotFoundError"
  | .parse => "ConfigurationParseError"
  | .unknownMode => "UnknownModeError"
  | .inconsistent => "ConfigurationInconsistencyError"

/-- All kinds. -/
def all : List Kind :=
  [.any, .raised, .attribute, .wrongType, .lookup, .index, .key, .value, .unicode, .undecodable,
    .overflow, .pattern, .recursion, .system, .timeout, .fileNotFound, .isDirectory, .notDirectory,
    .denied, .general, .config, .sourceNotFound, .parse, .unknownMode, .inconsistent]

/-- The kind reported under a name. -/
def ofName? (n : String) : Option Kind :=
  all.find? (·.name == n)

theorem isA_trans {a b c : Kind} (hab : a.isA b = true) (hbc : b.isA c = true) :
    a.isA c = true := by
  revert hab hbc
  cases a <;> cases b <;> first
    | (intro h; exact absurd h (by decide))
    | (intro _; cases c <;> decide)

end Kind

/-- Categories of configuration errors. -/
inductive Category where
  | config
  | parse
  | internal
deriving DecidableEq, Repr

/-- The name of a category. -/
def Category.name : Category → String
  | .config => "CONFIG"
  | .parse => "PARSE"
  | .internal => "INTERNAL"

/-- The category of a configuration error that names none. -/
def Kind.defaultCategory : Kind → Category
  | .config | .sourceNotFound => .config
  | .parse | .unknownMode => .parse
  | _ => .internal

end LibraryCatalogue
