import LosslessBuffer.Params.Basic
import LosslessBuffer.Scenario.Key
import LosslessBuffer.Yaml.Node

/-!
# Parameter tables over a YAML library

A parameter table is read from a YAML document one entry at a time and written back as one
mapping; the document itself is parsed, decoded and printed by a YAML library. `YamlCodec`
is what the table asks of that library: the root node of a text, the kind and line of a
node, the text of a key, the entries of a mapping and the node an alias stands for; the
decoding of a node into a sub-profile and into a dynamic value; and the text of a mapping of
table items.

Reading routes each entry of the root mapping by its value (`ParamTable.readWith`): a
mapping under a scenario key becomes a scenario block, any other mapping a default
sub-profile, and any other value is kept as it decodes. Inside a scenario block
(`Scenario.readWith`), mappings become sub-profiles and the rest other settings. An alias
value stands for its anchored node, and of two entries with one key the later wins.

Writing flattens a table into one mapping of items (`ParamTable.marshal`): its other values,
then its default sub-profiles, then its scenario blocks, each part replacing what the parts
before it hold under the same key. A scenario block is flattened the same way, its
sub-profiles replacing other settings.
-/

set_option autoImplicit false

namespace LosslessBuffer

open LosslessBuffer.Yaml
open LosslessBuffer.Text

/-- An entry of a flattened scenario block. -/
inductive BlockItem where
  | setting (v : Value)
  | profile (t : SubProfile)

/-- An entry of a flattened parameter table. -/
inductive TableItem where
  | setting (v : Value)
  | profile (t : SubProfile)
  | block (items : Std.TreeMap String BlockItem)

/-- What a parameter table asks of a YAML library, over the library's own nodes. -/
structure YamlCodec where
  Node : Type
  /-- The root node of a text; none when it holds no document, or a null one. -/
  root : String → Except Fault (Option Node)
  kind : Node → NodeKind
  line : Node → Nat
  text : Node → String
  /-- The key and value nodes of a mapping node, in the order written. -/
  entries : Node → List (Node × Node)
  target : Node → Node
  subProfile : Node → Except Fault SubProfile
  dynamic : Node → Except Fault Value
  /-- The text of a flattened table, one mapping. -/
  write : Std.TreeMap String TableItem → String

namespace YamlCodec

variable (C : YamlCodec)

/-- The entries of a mapping node as key texts and value nodes, an alias value replaced by
the node it stands for; a node that is not a mapping is a fault. -/
def pairs (n : C.Node) : Except Fault (List (String × C.Node)) :=
  if C.kind n = .mapping then
    .ok ((C.entries n).map fun entry =>
      (C.text entry.1, if C.kind entry.2 = .alias then C.target entry.2 else entry.2))
  else .error (.plain ("line " ++ toString (C.line n) ++ ": expected mapping"))

end YamlCodec

/-- Reads one entry of a scenario block: a mapping as a sub-profile, any other value as a
setting. -/
def Scenario.readEntry (C : YamlCodec) (block : Scenario) (entry : String × C.Node) :
    Except Fault Scenario := do
  let (key, value) := entry
  if C.kind value = .mapping then
    let t ← (C.subProfile value).mapError (.within ("sub-profile " ++ quote key))
    pure { block with profiles := block.profiles.insert key t }
  else
    let v ← (C.dynamic value).mapError (.within ("field " ++ quote key))
    pure { block with other := block.other.insert key v }

/-- Reads a scenario block from a mapping node. -/
def Scenario.readWith (C : YamlCodec) (n : C.Node) : Except Fault Scenario := do
  (← C.pairs n).foldlM (Scenario.readEntry C) {}

/-- Reads one entry of the root mapping of a table: a mapping under a scenario key as a
scenario block, any other mapping as a default sub-profile, any other value as it decodes. -/
def ParamTable.readEntry (C : YamlCodec) (table : ParamTable) (entry : String × C.Node) :
    Except Fault ParamTable := do
  let (key, value) := entry
  if C.kind value = .mapping then
    if (ScenarioKey.parse key).toBool then
      let block ← (Scenario.readWith C value).mapError (.within ("scenario " ++ quote key))
      pure { table with scenarios := table.scenarios.insert key block }
    else
      let t ← (C.subProfile value).mapError (.within ("profile " ++ quote key))
      pure { table with defaults := table.defaults.insert key t }
  else
    let v ← (C.dynamic value).mapError (.within ("field " ++ quote key))
    pure { table with other := table.other.insert key v }

/-- Reads a parameter table from the root node of a document. -/
def ParamTable.readWith (C : YamlCodec) (n : C.Node) : Except Fault ParamTable := do
  (← C.pairs n).foldlM (ParamTable.readEntry C) {}

/-- Reads a parameter table as a file's content: no document is the empty table, and
faults name the parsing. -/
def ParamTable.loadWith (C : YamlCodec) (text : String) : Except Fault ParamTable :=
  Except.mapError (.within "parsing qos params") <|
    (C.root text).bind fun root : Option C.Node => match root with
      | none => (.ok {} : Except Fault ParamTable)
      | some n => ParamTable.readWith C n

/-- A scenario block as one mapping: other settings, replaced by sub-profiles of the same
key. -/
def Scenario.marshal (s : Scenario) : Std.TreeMap String BlockItem :=
  s.profiles.foldl (fun out key t => out.insert key (.profile t))
    (s.other.foldl (fun out key v => out.insert key (.setting v)) ∅)

/-- A parameter table as one mapping: other values, replaced by default sub-profiles of the
same key, replaced in turn by scenario blocks. -/
def ParamTable.marshal (p : ParamTable) : Std.TreeMap String TableItem :=
  p.scenarios.foldl (fun out key s => out.insert key (.block s.marshal))
    (p.defaults.foldl (fun out key t => out.insert key (.profile t))
      (p.other.foldl (fun out key v => out.insert key (.setting v)) ∅))

end LosslessBuffer
