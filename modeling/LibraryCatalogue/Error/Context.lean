import LibraryCatalogue.Value.Basic

/-!
# The context of an error

A context has four named details and any number of further entries.  Writing a name replaces the
detail or the entry of that name.  A context also answers to the names of its own workings: most can
be written without effect on what is shown, three cannot be written at all, and after `to_dict` has
been written the context can no longer be shown.

One case is left out: a mapping written as `__dict__` would take the place of all that the context
holds.  Here `__dict__` is refused whatever is written to it, as it is for every other value.

* `Context.write` — writes one name;
* `Context.entries?` — what is shown: the details that are present, then the further entries over
  them.
-/

namespace LibraryCatalogue

/-- The context of an error.  An absent detail is null; `shows` is false once the name under which
the context shows itself was written. -/
structure Context where
  catalogue : Value
  doctype : Value
  sourcePath : Value
  fieldPath : Value
  further : List (String × Value)
  shows : Bool
deriving Inhabited, Repr

namespace Context

/-- The context without details. -/
def empty : Context :=
  ⟨.null, .null, .null, .null, [], true⟩

/-- What a name stands for in a context. -/
inductive Slot where
  | catalogue
  | doctype
  | sourcePath
  | fieldPath
  | showing
  | inner
  | fixedType
  | fixedAttribute
  | further
deriving DecidableEq, Repr

/-- The names of workings that can be written without effect on what is shown. -/
def innerNames : List String :=
  ["__annotations__", "__dataclass_fields__", "__dataclass_params__", "__delattr__", "__dir__",
    "__doc__", "__eq__", "__format__", "__ge__", "__getattribute__", "__getstate__", "__gt__",
    "__hash__", "__init__", "__init_subclass__", "__le__", "__lt__", "__match_args__",
    "__module__", "__ne__", "__new__", "__reduce__", "__reduce_ex__", "__repr__", "__setattr__",
    "__sizeof__", "__str__", "__subclasshook__"]

/-- What a name stands for. -/
def slot (name : String) : Slot :=
  if name == "catalogue" then .catalogue
  else if name == "doctype" then .doctype
  else if name == "source_path" then .sourcePath
  else if name == "field_path" then .fieldPath
  else if name == "to_dict" then .showing
  else if name == "__class__" || name == "__dict__" || name == "self" then .fixedType
  else if name == "__weakref__" then .fixedAttribute
  else if innerNames.contains name then .inner
  else .further

/-- Replaces the entry of a name in place, or adds it at the end. -/
def insertEntry (name : String) (value : Value) : List (String × Value) → List (String × Value)
  | [] => [(name, value)]
  | (n, v) :: rest => if n == name then (n, value) :: rest else (n, v) :: insertEntry name value rest

/-- Why a name cannot be written: its type is fixed, or it is read only. -/
inductive Refused where
  | wrongType
  | readOnly
deriving DecidableEq, Repr

/-- Writes one name. -/
def write (c : Context) (name : String) (value : Value) : Except Refused Context :=
  match slot name with
  | .catalogue => .ok { c with catalogue := value }
  | .doctype => .ok { c with doctype := value }
  | .sourcePath => .ok { c with sourcePath := value }
  | .fieldPath => .ok { c with fieldPath := value }
  | .showing => .ok { c with shows := false }
  | .inner => .ok c
  | .fixedType => .error .wrongType
  | .fixedAttribute => .error .readOnly
  | .further => .ok { c with further := insertEntry name value c.further }

/-- A detail under its name, when it is present. -/
def detail (name : String) : Value → List (String × Value)
  | .null => []
  | v => [(name, v)]

/-- What a context shows: the details that are present, then the further entries over them. -/
def entries (c : Context) : List (String × Value) :=
  let details := detail "catalogue" c.catalogue ++ detail "doctype" c.doctype ++
    detail "source_path" c.sourcePath ++ detail "field_path" c.fieldPath
  c.further.foldl (fun acc (n, v) => insertEntry n v acc) details

/-- What a context shows, unless its showing was overwritten. -/
def entries? (c : Context) : Option (List (String × Value)) :=
  if c.shows then some c.entries else none

/-- The context with its source path set. -/
def withSource (c : Context) (path : String) : Context :=
  { c with sourcePath := .text path }

end Context

end LibraryCatalogue
