import LosslessBuffer.Fault
import LosslessBuffer.Buffer.Config
/-!
# Dynamic thresholds

Under dynamic buffer management a priority group may keep growing its usage `x` of `S`
shared cells while `(S - x) · 2^α ≥ x`. The largest such `x` is
`⌊S · 2^α / (2^α + 1)⌋` for `α ≥ 0` and `⌊S / (2^-α + 1)⌋` for `α < 0`.

`availableShared` computes it without forming `S · 2^α`: for `α ≥ 0` it is
`S - ⌈S / (2^α + 1)⌉`. The exponent is limited to `[-62, 62]` so that `2^|α|` fits a
64-bit word, and `S` must not be negative.

The exponent of an ingress lossless profile is its own `dynamic_th`, or its pool's when
the profile has none (`resolveAlpha`).
-/

set_option autoImplicit false

namespace LosslessBuffer

/-- The largest magnitude of a dynamic-threshold exponent. -/
def maxAlpha : Int64 := 62

/-- The cells of `shared` that one priority group may claim under exponent `alpha`. -/
def availableShared (shared alpha : Int64) : Except Fault Int64 :=
  if shared < 0 then .error (.broken .invalidSize s!"shared buffer {shared} cells")
  else if alpha > maxAlpha ∨ alpha < -maxAlpha then
    .error (.broken .invalidDynamicThreshold s!"alpha {alpha} outside [-62, 62]")
  else if alpha < 0 then .ok (shared / ((1 <<< (-alpha)) + 1))
  else
    let d := (1 <<< alpha) + 1
    .ok (shared - (shared + d - 1) / d)

/-- The available shared cells of a pool, which must be in dynamic mode. -/
def Pool.availableShared (pool : Pool) (shared alpha : Int64) : Except Fault Int64 :=
  if pool.mode ≠ dynamicMode then
    .error (.broken .unsupportedPoolMode ("pool mode " ++ pool.mode.quote))
  else LosslessBuffer.availableShared shared alpha

/-- The exponent that governs a profile: its own, else its pool's. -/
def resolveAlpha (profile : Profile) (pool : Pool) : Except Fault Int64 :=
  match profile.dynamicTh, pool.dynamicTh with
  | some alpha, _ => .ok alpha
  | none, some alpha => .ok alpha
  | none, none => .error (.broken .invalidDynamicThreshold "no dynamic_th on profile or pool")

end LosslessBuffer
