import LosslessBuffer.Toml.Token
/-!
# Keys already seen in a TOML document

Before a line of a document is converted, its keys are checked against the keys seen in
the lines before it (`Seen`). Each seen key is known by its full path and remembers what
it was seen as (`KeyKind`): a value, a table, or an array of tables.

* A key-value line walks its dotted key from the current table. A part not seen yet is
  made an implicit table; a part seen as a value, or as a table that a header has
  defined, cannot be gone through; the last part must be new, and becomes a value. The
  keys of an inline table are checked the same way against the table alone, since an
  inline table is complete in itself.
* A table header walks its key from the top. A part seen as a value cannot be gone
  through; the last part must be new or a table no header has defined yet.
* An array-of-tables header needs its last part new or already an array of tables; it
  forgets what the previous element held, so the new element may define the same keys.
* Leaving a table by a header closes the tables that its dotted keys made, so that no
  later line adds to them.

The messages are the ones a reader of the format reports, word for word.
-/

set_option autoImplicit false

namespace LosslessBuffer.Toml

/-- What a key was seen as. -/
inductive KeyKind where
  | value
  | table
  | arrayTable
  deriving DecidableEq, Repr, Inhabited

/-- The name of a kind in messages. -/
def KeyKind.name : KeyKind → String
  | .value => "value"
  | .table => "table"
  | .arrayTable => "array table"

/-- A key seen, by its full path. -/
structure SeenKey where
  path : List String
  kind : KeyKind
  /-- Whether a header has defined it, or it has been closed. -/
  explicit : Bool := false
  /-- Whether a dotted key of a key-value line made it, and it is still open. -/
  dotted : Bool := false
  deriving Repr, Inhabited

/-- The keys seen so far and the path of the current table. -/
structure Seen where
  keys : List SeenKey := []
  current : List String := []
  deriving Repr, Inhabited

namespace Seen

/-- The key seen at a path, if any. -/
def find? (s : Seen) (path : List String) : Option SeenKey :=
  s.keys.find? (·.path == path)

/-- Records a new key. -/
def create (s : Seen) (key : SeenKey) : Seen :=
  { s with keys := s.keys ++ [key] }

/-- Replaces the record of a key. -/
def update (s : Seen) (key : SeenKey) : Seen :=
  { s with keys := s.keys.map fun k => if k.path == key.path then key else k }

/-- Whether a path lies strictly below another. -/
def isBelow (outer path : List String) : Bool :=
  outer.isPrefixOf path && path.length > outer.length

/-- Forgets every key below a path. -/
def clear (s : Seen) (path : List String) : Seen :=
  { s with keys := s.keys.filter fun k => !isBelow path k.path }

/-- Closes the open tables that dotted keys made below a path. -/
def close (s : Seen) (path : List String) : Seen :=
  { s with keys := s.keys.map fun k =>
      if isBelow path k.path && k.dotted then { k with explicit := true, dotted := false } else k }

/-- Walks the dotted key of a key-value line below `parent`, making implicit tables of
the parts not seen; gives the tracker and the path of the value. -/
def walkKeyValue (s : Seen) (parent : List String) : List String →
    Except String (Seen × List String)
  | [] => .ok (s, parent)
  | k :: rest =>
    let path := parent ++ [k]
    match s.find? path with
    | none => walkKeyValue (s.create { path, kind := .table, dotted := true }) path rest
    | some seen =>
      if rest.isEmpty then .error ("key " ++ k ++ " is already defined")
      else if seen.kind ≠ .table then
        .error ("expected " ++ k ++ " to be a table, not a " ++ seen.kind.name)
      else if seen.explicit then
        .error ("cannot redefine table " ++ k ++ " that has already been explicitly defined")
      else walkKeyValue s path rest

/-- Walks the leading parts of a header's key from the top, making implicit tables of
the parts not seen; gives the tracker and the path walked. -/
def walkHeader (s : Seen) (parent : List String) : List String →
    Except String (Seen × List String)
  | [] => .ok (s, parent)
  | k :: rest =>
    let path := parent ++ [k]
    match s.find? path with
    | none => walkHeader (s.create { path, kind := .table }) path rest
    | some seen =>
      if seen.kind = .value then
        .error ("expected " ++ k ++ " to be a table, not a " ++ seen.kind.name)
      else walkHeader s path rest

mutual
/-- Checks the keys inside a value: those of each inline table, against the table
alone. -/
def checkValue : Token → Except String Unit
  | .inlineTable pairs => checkInline {} pairs
  | .array items => checkItems items
  | _ => .ok ()

/-- Checks the keys inside the items of an array. -/
def checkItems : List Token → Except String Unit
  | [] => .ok ()
  | item :: rest => do
    checkValue item
    checkItems rest

/-- Checks the pairs of an inline table, one after the other. -/
def checkInline (s : Seen) : List (List String × Token) → Except String Unit
  | [] => .ok ()
  | (key, value) :: rest => do
    let s ← s.keyValue key value
    checkInline s rest

/-- Checks a key-value pair below the current table and the keys inside its value. -/
def keyValue (s : Seen) (key : List String) (value : Token) : Except String Seen := do
  let (s, path) ← s.walkKeyValue s.current key
  let s := match s.find? path with
    | some seen => s.update { seen with kind := .value }
    | none => s
  checkValue value
  return s
end

/-- Checks a table header and makes its table the current one. -/
def table (s : Seen) (key : List String) : Except String Seen := do
  let s := s.close s.current
  let (s, parent) ← s.walkHeader [] key.dropLast
  let k := key.getLastD ""
  let path := parent ++ [k]
  match s.find? path with
  | none => return { s.create { path, kind := .table, explicit := true } with current := path }
  | some seen =>
    if seen.kind ≠ .table then throw ("key " ++ k ++ " should be a table, not a " ++ seen.kind.name)
    if seen.explicit then throw ("table " ++ k ++ " already exists")
    return { s.update { seen with explicit := true } with current := path }

/-- Checks an array-of-tables header and makes its new element the current table. -/
def arrayTable (s : Seen) (key : List String) : Except String Seen := do
  let s := s.close s.current
  let (s, parent) ← s.walkHeader [] key.dropLast
  let k := key.getLastD ""
  let path := parent ++ [k]
  match s.find? path with
  | none =>
    return { s.create { path, kind := .arrayTable, explicit := true } with current := path }
  | some seen =>
    if seen.kind ≠ .arrayTable then
      throw ("key " ++ seen.kind.name ++ " already exists as a " ++ k ++
        ",  but should be an array table")
    return { s.clear path with current := path }

/-- Checks one line of a document. -/
def check (s : Seen) : Expression → Except String Seen
  | .keyValue key value => s.keyValue key value
  | .table key => s.table key
  | .arrayTable key => s.arrayTable key

end Seen

end LosslessBuffer.Toml
