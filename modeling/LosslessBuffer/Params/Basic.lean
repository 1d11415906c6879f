import LosslessBuffer.Yaml.Value
import Std.Data.TreeMap

/-!
# Parameter tables

A parameter table holds the expected watermarks of one ASIC's test parameters. It has
three parts:

* scenarios, keyed by speed and cable length (`100000_5m`), each a block of named
  sub-profiles (`xoff_1`, `xon_1`, `hdrm_pool_size`, …) and other settings;
* default sub-profiles at the top level, copied into scenarios that lack them;
* any other top-level values, kept as they were read.

A sub-profile (`SubProfile`) has seven optional packet counts (`Count`), an optional
dynamic-threshold flag, and extra fields the calculation does not own, kept unchanged.
-/

set_option autoImplicit false

namespace LosslessBuffer

open LosslessBuffer.Yaml

/-- The packet counts of a sub-profile, in the order they are written. -/
inductive Count where
  | trigPfc
  | trigIngrDrp
  | dismissPfc
  | hdrmFull
  | hdrmPartial
  | margin
  | pktsMargin
  deriving Repr, DecidableEq, Inhabited

namespace Count

/-- The key of a count in a sub-profile. -/
def key : Count → String
  | .trigPfc => "pkts_num_trig_pfc"
  | .trigIngrDrp => "pkts_num_trig_ingr_drp"
  | .dismissPfc => "pkts_num_dismiss_pfc"
  | .hdrmFull => "pkts_num_hdrm_full"
  | .hdrmPartial => "pkts_num_hdrm_partial"
  | .margin => "margin"
  | .pktsMargin => "pkts_num_margin"

/-- Every count, in written order. -/
def all : List Count :=
  [.trigPfc, .trigIngrDrp, .dismissPfc, .hdrmFull, .hdrmPartial, .margin, .pktsMargin]

end Count

/-- The key of the dynamic-threshold flag in a sub-profile. -/
def dynamicThresholdKey : String := "dynamic_threshold"

/-- One sub-profile of expected watermarks. -/
structure SubProfile where
  trigPfc : Option Int64 := none
  trigIngrDrp : Option Int64 := none
  dismissPfc : Option Int64 := none
  hdrmFull : Option Int64 := none
  hdrmPartial : Option Int64 := none
  margin : Option Int64 := none
  pktsMargin : Option Int64 := none
  /-- Whether the pool is dynamic. -/
  dynamicThreshold : Option Bool := none
  /-- Fields the calculation does not own, by key. -/
  extra : Std.TreeMap Text.Bytes Value := ∅
  deriving Inhabited

namespace SubProfile

/-- A count of a sub-profile. -/
def get (t : SubProfile) : Count → Option Int64
  | .trigPfc => t.trigPfc
  | .trigIngrDrp => t.trigIngrDrp
  | .dismissPfc => t.dismissPfc
  | .hdrmFull => t.hdrmFull
  | .hdrmPartial => t.hdrmPartial
  | .margin => t.margin
  | .pktsMargin => t.pktsMargin

/-- Sets a count of a sub-profile. -/
def set (t : SubProfile) : Count → Option Int64 → SubProfile
  | .trigPfc, v => { t with trigPfc := v }
  | .trigIngrDrp, v => { t with trigIngrDrp := v }
  | .dismissPfc, v => { t with dismissPfc := v }
  | .hdrmFull, v => { t with hdrmFull := v }
  | .hdrmPartial, v => { t with hdrmPartial := v }
  | .margin, v => { t with margin := v }
  | .pktsMargin, v => { t with pktsMargin := v }

end SubProfile

/-- The names of the sub-profiles of a scenario. -/
def xoffProfiles : List String := ["xoff_1", "xoff_2"]

/-- The names of the resume sub-profiles. -/
def xonProfiles : List String := ["xon_1", "xon_2"]

/-- The sub-profiles every assembled scenario has, each with a packet margin. -/
def marginProfiles : List String := xoffProfiles ++ xonProfiles

/-- The headroom-pool sub-profile. -/
def headroomPoolProfile : String := "hdrm_pool_size"

/-- The parameter block of one scenario: sub-profiles and other settings. -/
structure Scenario where
  profiles : Std.TreeMap String SubProfile := ∅
  other : Std.TreeMap String Value := ∅
  deriving Inhabited

/-- A parameter table: scenarios, default sub-profiles and other top-level values. -/
structure ParamTable where
  scenarios : Std.TreeMap String Scenario := ∅
  defaults : Std.TreeMap String SubProfile := ∅
  other : Std.TreeMap String Value := ∅
  deriving Inhabited

end LosslessBuffer
