import LosslessBuffer.Text.Bytes
/-!
# Calculation traces

A trace records the decisions of one threshold calculation: which scenario served as
the reference for defaults, which sub-profiles were copied, the terms of the
shared-buffer accounting, skipped bindings, register overrides, every field written and
every value kept although it breaks a watermark invariant.

A trace has a level. At `none` or the empty level it records nothing; accounting terms
are kept only at `terms`; any other level records all decisions but the terms.
-/

set_option autoImplicit false

namespace LosslessBuffer

open LosslessBuffer.Text

/-- One term of the shared-buffer derivation; negative cells are carved out of the pool. -/
structure AccountingTerm where
  label : String
  /-- The bound profile, empty for pool terms. -/
  profile : Bytes := Bytes.ofString ""
  /-- Bytes per unit before conversion to cells. -/
  bytes : Int64
  /-- Number of queue or priority-group indices covered. -/
  multiplier : Int64
  cells : Int64
  deriving Repr, DecidableEq

/-- A binding left out of the accounting. -/
structure SkipRecord where
  /-- `BUFFER_QUEUE` or `BUFFER_PG`. -/
  table : String
  key : Bytes
  profile : Bytes
  reason : String
  deriving Repr, DecidableEq

/-- The choice of a reference scenario for defaults. -/
structure ReferenceRecord where
  target : String
  reference : String
  /-- The two keys are numerically equal. -/
  equivalent : Bool
  deriving Repr, DecidableEq

/-- One sub-profile copied into a scenario. -/
structure CloneRecord where
  scenario : String
  profile : String
  /-- Where it came from, such as `qos_params[xon_1]`. -/
  source : String
  deriving Repr, DecidableEq

/-- A register-reported shared limit compared with the computed shared buffer. -/
structure OverrideRecord where
  computed : Int64
  /-- The register value in cells. -/
  register : Int64
  applied : Bool
  reason : String
  deriving Repr, DecidableEq

/-- One watermark field written into a sub-profile. -/
structure UpdateRecord where
  scenario : String
  profile : String
  field : String
  /-- The previous value as text, empty when the field was unset. -/
  before : String
  after : String
  deriving Repr, DecidableEq

/-- A written value that breaks a watermark invariant but is kept as computed. -/
structure WarningRecord where
  scenario : String
  profile : String
  field : String
  value : Int64
  message : String
  deriving Repr, DecidableEq

/-- The records of one calculation, at a level. -/
structure Trace where
  level : String
  references : List ReferenceRecord := []
  clones : List CloneRecord := []
  terms : List AccountingTerm := []
  skips : List SkipRecord := []
  overrides : List OverrideRecord := []
  updates : List UpdateRecord := []
  warnings : List WarningRecord := []
  deriving Repr

/-- The recognised trace levels; the empty level means `none`. -/
def traceLevels : List String := ["none", "decisions", "terms", ""]

/-- Whether a trace level is one of the recognised ones. -/
def isValidTraceLevel (level : String) : Bool := traceLevels.contains level

namespace Trace

/-- A trace at a level with nothing recorded. -/
def empty (level : String) : Trace := { level }

/-- Whether decisions are recorded. -/
def enabled (t : Trace) : Bool := t.level != "none" && t.level != ""

/-- Records a reference choice. -/
def addReference (r : ReferenceRecord) (t : Trace) : Trace :=
  if t.enabled then { t with references := t.references ++ [r] } else t

/-- Records a sub-profile copy. -/
def addClone (r : CloneRecord) (t : Trace) : Trace :=
  if t.enabled then { t with clones := t.clones ++ [r] } else t

/-- Records accounting terms, kept only at level `terms`. -/
def addTerms (rs : List AccountingTerm) (t : Trace) : Trace :=
  if t.enabled && t.level == "terms" then { t with terms := t.terms ++ rs } else t

/-- Records a skipped binding. -/
def addSkip (r : SkipRecord) (t : Trace) : Trace :=
  if t.enabled then { t with skips := t.skips ++ [r] } else t

/-- Records a register override decision. -/
def addOverride (r : OverrideRecord) (t : Trace) : Trace :=
  if t.enabled then { t with overrides := t.overrides ++ [r] } else t

/-- Records a field write. -/
def addUpdate (r : UpdateRecord) (t : Trace) : Trace :=
  if t.enabled then { t with updates := t.updates ++ [r] } else t

/-- Records a kept value that breaks an invariant. -/
def addWarning (r : WarningRecord) (t : Trace) : Trace :=
  if t.enabled then { t with warnings := t.warnings ++ [r] } else t

end Trace

end LosslessBuffer
