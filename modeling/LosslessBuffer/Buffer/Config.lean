import LosslessBuffer.Text.Bytes
import Std.Data.TreeMap
/-!
# Buffer configuration

The part of a switch's running configuration that decides how much shared buffer the
lossless traffic gets: buffer pools, buffer profiles, and the bindings of egress queues
and ingress priority groups to profiles.

Byte quantities are signed 64-bit words, as the configuration stores them. A binding
names its profile by reference, either bare (`egress_lossless_profile`) or in the table
form `[BUFFER_PROFILE|egress_lossless_profile]`; `profileName` reads the name from
either.

Names, kinds and references are byte strings (`Text.Bytes`): they are read from YAML,
whose `!!binary` scalars may hold any bytes, and a name is looked up, ordered and shown
by its bytes.
-/

set_option autoImplicit false

namespace LosslessBuffer

open LosslessBuffer.Text

/-- The pool whose shared buffer is accounted. -/
def ingressLosslessPool : String := "ingress_lossless_pool"

/-- The only pool mode with a closed form for the available shared buffer. -/
def dynamicMode : String := "dynamic"

/-- One buffer pool: its kind (ingress or egress), its mode (dynamic or static), and its
size and headroom in bytes. -/
structure Pool where
  kind : Bytes := Bytes.ofString ""
  mode : Bytes := Bytes.ofString ""
  size : Int64 := 0
  xoff : Option Int64 := none
  dynamicTh : Option Int64 := none
  deriving Repr, DecidableEq, Inhabited

/-- One buffer profile: the pool it draws from, its thresholds in bytes, and its dynamic
threshold exponent. -/
structure Profile where
  pool : Bytes := Bytes.ofString ""
  size : Int64 := 0
  xoff : Option Int64 := none
  xon : Option Int64 := none
  xonOffset : Option Int64 := none
  dynamicTh : Option Int64 := none
  staticTh : Option Int64 := none
  deriving Repr, DecidableEq, Inhabited

/-- A queue or priority-group range bound to a profile. -/
structure Binding where
  profile : Bytes := Bytes.ofString ""
  deriving Repr, DecidableEq, Inhabited

/-- Pools, profiles and bindings by name. -/
structure BufferConfig where
  pools : Std.TreeMap Bytes Pool := ∅
  profiles : Std.TreeMap Bytes Profile := ∅
  queues : Std.TreeMap Bytes Binding := ∅
  pgs : Std.TreeMap Bytes Binding := ∅

instance : Inhabited BufferConfig := ⟨{}⟩

/-- The profile name in a reference: the bytes after the last `|`, without one leading
`[` and one trailing `]`. -/
def profileName (ref : Bytes) : Bytes :=
  let afterBar := (ref.toList.reverse.takeWhile (· ≠ 124)).reverse
  let withoutOpen := match afterBar with
    | 91 :: rest => rest
    | other => other
  let withoutClose := match withoutOpen.reverse with
    | 93 :: rest => rest.reverse
    | _ => withoutOpen
  ⟨withoutClose⟩

end LosslessBuffer
