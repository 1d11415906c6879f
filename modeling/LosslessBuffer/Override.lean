/-!
# Override gates

A register snapshot of the switch may report the shared limit of the ingress service
pool. The gate decides when that value may replace the computed shared buffer: `always`,
or `dualtor` for dual top-of-rack testbeds on the families `td2` and `td3` only. The
empty name means `always`.
-/

set_option autoImplicit false

namespace LosslessBuffer

/-- When a register-reported shared limit may replace the computed one. -/
inductive OverrideGate where
  /-- Whenever the register value differs and is not negative. -/
  | always
  /-- Only on dual top-of-rack testbeds, for td2 and td3. -/
  | dualTor
  deriving DecidableEq, Repr

/-- The name of a gate. -/
def OverrideGate.name : OverrideGate → String
  | .always => "always"
  | .dualTor => "dualtor"

/-- The gate of a name; the empty name is `always`. -/
def OverrideGate.ofName? (name : String) : Option OverrideGate :=
  if name = "" ∨ name = "always" then some .always
  else if name = "dualtor" then some .dualTor
  else none

/-- Whether a name is a gate. -/
def isValidOverrideGate (name : String) : Bool := (OverrideGate.ofName? name).isSome

end LosslessBuffer
