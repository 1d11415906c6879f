import LosslessBuffer.Params.Basic
import LosslessBuffer.Yaml.Decode.Compound

/-!
# Decoding the parts of a parameter table

The two decodings a parameter table asks of its YAML library, on this library's documents:
a sub-profile is read as a record of its seven counts and its flag, keeping every other key
among its extras (`SubProfile.ofNode`), and any other value as the dynamic value it decodes
to (`Value.ofNode`). A problem reading a field names it.
-/

set_option autoImplicit false

namespace LosslessBuffer

open LosslessBuffer.Yaml
open LosslessBuffer.Text

/-- How a sub-profile is read from a mapping: the seven counts, the flag, and the other
keys as extras. -/
def SubProfile.layout : Record SubProfile where
  typeName := "qos.Threshold"
  fields :=
    Count.all.map (fun c => Field.of c.key (Slot.optional (Slot.integer "int64") 0) (·.get c) (·.set c)) ++
    [Field.of dynamicThresholdKey (Slot.optional Slot.boolean false) (·.dynamicThreshold)
      fun t v => { t with dynamicThreshold := v }]
  extra := some fun t key value => { t with extra := t.extra.insert key value }

/-- Reads a sub-profile from a mapping node. -/
def SubProfile.ofNode (doc : Document) (n : Node) : Except Fault SubProfile :=
  doc.decodeNode (Slot.record SubProfile.layout) n {}

/-- Reads a dynamic value from a node. -/
def Yaml.Value.ofNode (doc : Document) (n : Node) : Except Fault Value :=
  doc.decodeNode Slot.dynamic n .null

end LosslessBuffer
