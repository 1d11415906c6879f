import LosslessBuffer.Params.Decode
import LosslessBuffer.Params.Encode
import LosslessBuffer.Yaml.Node.Reader
import LosslessBuffer.Yaml.Tree.Printer

/-!
# Parameter tables as YAML text

This library's own YAML reader and printer as the library a parameter table is read and
written with (`YamlCodec.standard`). A node comes with the document it belongs to, which
holds the anchored nodes its aliases stand for; a text whose document is null holds no
table. A parameter table is loaded from text (`ParamTable.load`) and written as text
(`ParamTable.toYaml`) through it.
-/

set_option autoImplicit false

namespace LosslessBuffer

open LosslessBuffer.Yaml
open LosslessBuffer.Text

/-- This library's reader and printer, as a parameter table uses them. -/
def YamlCodec.standard : YamlCodec where
  Node := Document × Yaml.Node
  root text := match Document.read? text with
    | .error e => .error (.unreadable e.message)
    | .ok none => .ok none
    | .ok (some doc) => .ok (if doc.isNull doc.root then none else some (doc, doc.root))
  kind n := n.2.kind
  line n := n.2.line
  text n := n.2.text
  entries n := match n.2 with
    | .mapping _ _ entries => entries.map fun entry => ((n.1, entry.1), (n.1, entry.2))
    | _ => []
  target n := (n.1, n.1.target n.2)
  subProfile n := SubProfile.ofNode n.1 n.2
  dynamic n := Value.ofNode n.1 n.2
  write items := (keyedMapping (items.map fun _ item => item.toTree)).render

/-- Reads a parameter table from YAML text. -/
def ParamTable.load (text : String) : Except Fault ParamTable :=
  ParamTable.loadWith YamlCodec.standard text

/-- The YAML text of a parameter table. -/
def ParamTable.toYaml (p : ParamTable) : String :=
  YamlCodec.standard.write p.marshal

end LosslessBuffer
