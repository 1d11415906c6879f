import LosslessBuffer.Yaml.Scalar.Style
/-!
# Trees to be written as YAML

A `Tree` is what a writer hands to the printer: scalars with the style they ask for and
an optional tag, sequences, and mappings whose entries come in the order they are to be
written.

A key is written on the line of its value (a simple key) when it is a scalar without a
line break whose tag and text take at most 128 bytes, or an empty collection
(`Tree.isSimpleKey`); any other key is written after a `?` indicator on a line of its own.
-/

set_option autoImplicit false

namespace LosslessBuffer.Yaml

/-- A tree to be written as YAML. -/
inductive Tree where
  /-- A scalar: its tag (empty for none), its text and the style asked for. -/
  | scalar (tag text : String) (style : ScalarStyle)
  | sequence (items : List Tree)
  | mapping (entries : List (Tree × Tree))
  deriving Inhabited

namespace Tree

/-- A plain scalar without a tag. -/
def plain (text : String) : Tree :=
  .scalar "" text .plain

/-- Whether a tree may be written as a key on the line of its value. -/
def isSimpleKey : Tree → Bool
  | .scalar tag text _ =>
    !(Allowance.of text).multiline && tag.utf8ByteSize + text.utf8ByteSize ≤ 128
  | .sequence items => items.isEmpty
  | .mapping entries => entries.isEmpty

end Tree

end LosslessBuffer.Yaml
