import LosslessBuffer.Buffer.Config
import LosslessBuffer.Yaml.Decode.Compound

/-!
# Reading buffer configurations

`BufferConfig.ofText` reads the four tables of a running configuration (`BUFFER_POOL`,
`BUFFER_PROFILE`, `BUFFER_QUEUE`, `BUFFER_PG`) from YAML or JSON text; other tables are
ignored. Byte quantities and thresholds are decimal integers, bare or quoted, with
surrounding white space ignored; a null leaves them unset, anything else that is not a
decimal signed 64-bit integer stops reading with the line of the value.
-/

set_option autoImplicit false

namespace LosslessBuffer

open LosslessBuffer.Yaml

/-- A byte quantity. -/
def bytesSlot : Slot Int64 := Slot.decimal "qos.Bytes"

/-- An optional byte quantity. -/
def optionalBytes : Slot (Option Int64) := Slot.optional bytesSlot 0

/-- An optional dynamic-threshold exponent. -/
def optionalExponent : Slot (Option Int64) := Slot.optional (Slot.decimal "qos.DynamicTh") 0

/-- How a pool is read. -/
def Pool.layout : Record Pool where
  typeName := "qos.Pool"
  fields := [
    Field.of "type" Slot.text (·.kind) fun p v => { p with kind := v },
    Field.of "mode" Slot.text (·.mode) fun p v => { p with mode := v },
    Field.of "size" bytesSlot (·.size) fun p v => { p with size := v },
    Field.of "xoff" optionalBytes (·.xoff) fun p v => { p with xoff := v },
    Field.of "dynamic_th" optionalExponent (·.dynamicTh) fun p v => { p with dynamicTh := v }]

/-- How a profile is read. -/
def Profile.layout : Record Profile where
  typeName := "qos.Profile"
  fields := [
    Field.of "pool" Slot.text (·.pool) fun p v => { p with pool := v },
    Field.of "size" bytesSlot (·.size) fun p v => { p with size := v },
    Field.of "xoff" optionalBytes (·.xoff) fun p v => { p with xoff := v },
    Field.of "xon" optionalBytes (·.xon) fun p v => { p with xon := v },
    Field.of "xon_offset" optionalBytes (·.xonOffset) fun p v => { p with xonOffset := v },
    Field.of "dynamic_th" optionalExponent (·.dynamicTh) fun p v => { p with dynamicTh := v },
    Field.of "static_th" optionalBytes (·.staticTh) fun p v => { p with staticTh := v }]

/-- How a binding is read. -/
def Binding.layout : Record Binding where
  typeName := "qos.Binding"
  fields := [Field.of "profile" Slot.text (·.profile) fun _ v => { profile := v }]

/-- How a buffer configuration is read. -/
def BufferConfig.layout : Record BufferConfig where
  typeName := "qos.BufferConfig"
  fields := [
    Field.of "BUFFER_POOL" (Slot.stringMap (Slot.record Pool.layout) {}) (·.pools)
      fun c v => { c with pools := v },
    Field.of "BUFFER_PROFILE" (Slot.stringMap (Slot.record Profile.layout) {}) (·.profiles)
      fun c v => { c with profiles := v },
    Field.of "BUFFER_QUEUE" (Slot.stringMap (Slot.record Binding.layout) {}) (·.queues)
      fun c v => { c with queues := v },
    Field.of "BUFFER_PG" (Slot.stringMap (Slot.record Binding.layout) {}) (·.pgs)
      fun c v => { c with pgs := v }]

/-- Reads a pool from YAML text. -/
def Pool.ofText (text : String) : Except Fault Pool :=
  decodeText text (Slot.record Pool.layout) {}

/-- Reads a profile from YAML text. -/
def Profile.ofText (text : String) : Except Fault Profile :=
  decodeText text (Slot.record Profile.layout) {}

/-- Reads a buffer configuration from YAML or JSON text. -/
def BufferConfig.ofText (text : String) : Except Fault BufferConfig :=
  decodeText text (Slot.record BufferConfig.layout) {}

/-- Reads a buffer configuration as a file's content, faults naming the parsing. -/
def BufferConfig.load (text : String) : Except Fault BufferConfig :=
  (BufferConfig.ofText text).mapError (.within "parsing buffer config")

end LosslessBuffer
