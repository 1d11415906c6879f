import LosslessBuffer.Yaml.Decode.Compound

/-!
# Register snapshots

A register snapshot is what the device under test reports about its memory management
unit. The shared limit of service pool 0, in cells, may supersede the computed shared
buffer; every other register is kept as it was read.
-/

set_option autoImplicit false

namespace LosslessBuffer

open LosslessBuffer.Yaml

/-- A register snapshot of the device under test. -/
structure RegisterSnapshot where
  /-- Shared limit of service pool 0, in cells. -/
  sharedLimitSp0 : Option Int64 := none
  registers : Std.TreeMap Text.Bytes Value := ∅
  deriving Inhabited

/-- How a register snapshot is read: the shared limit as an integer, the rest as extras. -/
def RegisterSnapshot.layout : Record RegisterSnapshot where
  typeName := "qos.AsicConfig"
  fields := [Field.of "shared_limit_sp0" (Slot.optional (Slot.integer "int64") 0) (·.sharedLimitSp0)
    fun s v => { s with sharedLimitSp0 := v }]
  extra := some fun s key value => { s with registers := s.registers.insert key value }

/-- Reads a register snapshot from YAML text. -/
def RegisterSnapshot.ofText (text : String) : Except Fault RegisterSnapshot :=
  decodeText text (Slot.record RegisterSnapshot.layout) {}

/-- Reads a register snapshot as a file's content, faults naming the parsing. -/
def RegisterSnapshot.load (text : String) : Except Fault RegisterSnapshot :=
  (RegisterSnapshot.ofText text).mapError (.within "parsing asic config")

end LosslessBuffer
