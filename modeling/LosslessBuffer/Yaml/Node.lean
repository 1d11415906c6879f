import LosslessBuffer.Yaml.Scalar

/-!
# YAML nodes

A node is one element of a YAML document as written: a scalar with its text, a sequence
of nodes, a mapping of key nodes to value nodes in the order written (duplicates kept),
or an alias naming an anchored node.

Every node carries the line and column where it begins, counted from one, and its tag.
The tag is the explicit tag in short form when one was written; otherwise `!!str` for a
quoted or block scalar, `!!merge` for a plain `<<`, `!!seq` and `!!map` for collections,
and for any other plain scalar the tag its text resolves to.

A document is its root node and the table of its anchored nodes. Anchors are numbered in
the order they are defined, and an alias refers to the number its name had when the
alias was read; aliases themselves are numbered too, so that each occurrence can be told
apart. The table makes a document a graph: an alias inside its own anchored node refers
back to that node.
-/

set_option autoImplicit false

namespace LosslessBuffer.Yaml

/-- Where a node begins: line and column, from one. -/
structure Place where
  line : Nat
  column : Nat
  deriving Repr, Inhabited, DecidableEq

/-- The kinds of node. -/
inductive NodeKind where
  | scalar
  | sequence
  | mapping
  | alias
  deriving Repr, Inhabited, DecidableEq

/-- A node of a YAML document. -/
inductive Node where
  | scalar (place : Place) (tag : String) (text : String)
  | sequence (place : Place) (tag : String) (items : List Node)
  /-- A mapping: key and value nodes in the order written. -/
  | mapping (place : Place) (tag : String) (entries : List (Node × Node))
  /-- An alias: the anchor's name, the number of the anchored node it refers to, and the
  number of this occurrence. -/
  | alias (place : Place) (name : String) (anchor : Nat) (occurrence : Nat)
  deriving Inhabited

namespace Node

/-- The kind of a node. -/
def kind : Node → NodeKind
  | .scalar .. => .scalar
  | .sequence .. => .sequence
  | .mapping .. => .mapping
  | .alias .. => .alias

/-- Where a node begins. -/
def place : Node → Place
  | .scalar place .. | .sequence place .. | .mapping place .. | .alias place .. => place

/-- The line where a node begins. -/
def line (n : Node) : Nat := n.place.line

/-- The text of a node: a scalar's text, an alias's anchor name, empty for collections. -/
def text : Node → String
  | .scalar _ _ text => text
  | .alias _ name _ _ => name
  | _ => ""

/-- The tag a node was given; an alias has none. -/
def tag : Node → String
  | .scalar _ tag _ | .sequence _ tag _ | .mapping _ tag _ => tag
  | .alias .. => ""

/-- Whether a node is a scalar that is a string whatever its text. -/
def isIndicatedString (n : Node) : Bool :=
  n.kind == .scalar && Tag.short n.tag == Tag.str

/-- Whether a node is the merge key `<<`. -/
def isMergeKey (n : Node) : Bool :=
  n.kind == .scalar && n.text == "<<" && Tag.short n.tag == Tag.merge

end Node

/-- A YAML document: its root node and its anchored nodes by number. -/
structure Document where
  root : Node
  /-- The anchored nodes, by the number of their anchor. -/
  anchored : Array Node := #[]
  /-- How many nodes the document was read into, aliases included. -/
  size : Nat := 1
  deriving Inhabited

namespace Document

/-- The node a node stands for: an alias's anchored node, any other node itself. -/
def target (doc : Document) (n : Node) : Node :=
  match n with
  | .alias _ _ anchor _ => doc.anchored.getD anchor n
  | _ => n

/-- The tag of a node in short form; an alias has the tag of its anchored node. -/
def shortTag (doc : Document) (n : Node) : String :=
  match doc.target n with
  | .alias .. => ""
  | other => Tag.short other.tag

/-- Whether a node is null: its tag, or its anchored node's, is `!!null`. -/
def isNull (doc : Document) (n : Node) : Bool :=
  doc.shortTag n == Tag.null

/-- Whether every key of a mapping is a string or the merge key. -/
def hasStringKeys (doc : Document) (entries : List (Node × Node)) : Bool :=
  entries.all fun entry => doc.shortTag entry.1 == Tag.str || doc.shortTag entry.1 == Tag.merge

end Document

end LosslessBuffer.Yaml
