import LosslessBuffer.Params.Codec
import LosslessBuffer.Yaml.Encode
import LosslessBuffer.Yaml.Tree.Printer
/-!
# Parameter tables written as YAML

A flattened parameter table is written as one mapping, keys in key order
(`TableItem.toTree`); a flattened scenario block is written the same way.

A sub-profile writes its set counts in their fixed order, then its dynamic-threshold
flag if set, then its extra fields in key order; an unset count is left out.
-/

set_option autoImplicit false

namespace LosslessBuffer

open LosslessBuffer.Yaml
open LosslessBuffer.Text

/-- Entries from trees by text key, keys in key order. -/
def keyedEntries (entries : List (Bytes × Tree)) : List (Tree × Tree) :=
  sortedEntries (entries.map fun entry =>
    (Value.string entry.1, (Value.string entry.1).toTree, entry.2))

/-- A mapping from trees by text key, keys in key order. -/
def keyedMapping (entries : Std.TreeMap String Tree) : Tree :=
  .mapping (keyedEntries (entries.toList.map fun entry => (Bytes.ofString entry.1, entry.2)))

/-- The tree of a sub-profile. -/
def SubProfile.toTree (t : SubProfile) : Tree :=
  let counts := Count.all.filterMap fun count =>
    (t.get count).map fun value => ((Value.string count.key).toTree, (Value.int value.toInt).toTree)
  let flag := match t.dynamicThreshold with
    | some b => [((Value.string dynamicThresholdKey).toTree, (Value.bool b).toTree)]
    | none => []
  .mapping (counts ++ flag ++ keyedEntries (t.extra.toList.map fun entry => (entry.1, entry.2.toTree)))

/-- The tree of an entry of a flattened scenario block. -/
def BlockItem.toTree : BlockItem → Tree
  | .setting v => v.toTree
  | .profile t => t.toTree

/-- The tree of an entry of a flattened parameter table. -/
def TableItem.toTree : TableItem → Tree
  | .setting v => v.toTree
  | .profile t => t.toTree
  | .block items => keyedMapping (items.map fun _ item => item.toTree)

/-- The tree of a scenario block. -/
def Scenario.toTree (s : Scenario) : Tree :=
  keyedMapping (s.marshal.map fun _ item => item.toTree)

end LosslessBuffer
