import Mathlib.Data.Rat.Floor
import Mathlib.Tactic.LinearCombination
import LosslessBuffer.Proofs.Cells
/-!
# The share of a dynamic pool, in closed form

Under exponent `α` a priority group using `x` of `S` shared cells may keep growing while
`(S - x) · 2^α ≥ x` (`Grows`). Its share is the largest such `x`, which over the rationals is
`⌊S · 2^α / (2^α + 1)⌋` (`shareOf`, `isGreatest_shareOf`). A usage that may grow may still grow
with more shared cells or a larger exponent (`Grows.mono_shared`, `Grows.mono_alpha`), so the
share grows with both, across the change of formula between `α = -1` and `α = 0` as well.

`availableShared` does not form `S · 2^α`. For `α < 0` it divides `S` by `2^-α + 1`; for
`α ≥ 0` it takes `⌈S / (2^α + 1)⌉` from `S`, which leaves the floor of the share
(`sub_ceil_eq_floor`). Both are the share whenever the words hold the integers: `S` not
negative, `α ∈ [-62, 62]` and, for `α ≥ 0`, `S + 2^α < 2^63` (`ShareDomain`). On that domain
the solver gives the share, between `0` and `S` and below a positive `S`, and grows with `S`
and `α` (`availableShared_closed_form`).

The last bound is needed: the ceiling is computed as `(S + 2^α) / (2^α + 1)`, and for
`2^63 - 1` shared cells under `α = 0` the sum wraps and the solver gives a negative share
(`availableShared_wraps_at_max`).
-/

set_option autoImplicit false

namespace LosslessBuffer

/-! ## The share over the rationals -/

/-- Under exponent `α`, a priority group using `x` of `S` shared cells may still grow:
`x ≤ (S - x) · 2^α`. -/
def Grows (S α x : ℤ) : Prop := (x : ℚ) ≤ (S - x) * 2 ^ α

/-- The share of `S` shared cells under exponent `α`: `⌊S · 2^α / (2^α + 1)⌋`. -/
def shareOf (S α : ℤ) : ℤ := ⌊(S : ℚ) * 2 ^ α / (2 ^ α + 1)⌋

/-- Under a positive rate `c`, a usage may grow exactly while it is at most `S · c / (c + 1)`. -/
theorem le_sub_mul_iff {S x c : ℚ} (rate : 0 < c) : x ≤ (S - x) * c ↔ x ≤ S * c / (c + 1) := by
  rw [le_div_iff₀ (by linarith)]
  constructor <;> intro h <;> linarith

/-- The share is the largest usage that may still grow. -/
theorem isGreatest_shareOf (S α : ℤ) : IsGreatest {x | Grows S α x} (shareOf S α) := by
  have rate : (0 : ℚ) < 2 ^ α := zpow_pos (by norm_num) α
  refine ⟨?_, fun y grows => ?_⟩
  · show Grows S α (shareOf S α)
    rw [Grows, le_sub_mul_iff rate]
    exact Int.floor_le _
  · rw [Set.mem_ofPred_eq, Grows, le_sub_mul_iff rate] at grows
    exact Int.le_floor.2 grows

theorem grows_zero {S : ℤ} (nonneg : 0 ≤ S) (α : ℤ) : Grows S α 0 := by
  have rate : (0 : ℚ) < 2 ^ α := zpow_pos (by norm_num) α
  have : (0 : ℚ) ≤ S := by exact_mod_cast nonneg
  simp only [Grows, Int.cast_zero, sub_zero]
  positivity

/-- A usage of all `S` cells, or more, may not grow when `S` is positive. -/
theorem Grows.lt_of_pos {S α x : ℤ} (h : Grows S α x) (positive : 0 < S) : x < S := by
  have rate : (0 : ℚ) < 2 ^ α := zpow_pos (by norm_num) α
  by_contra atLeast
  have room : (S : ℚ) - x ≤ 0 := by exact_mod_cast (by omega : S - x ≤ 0)
  have : (S - x : ℚ) * 2 ^ α ≤ 0 := mul_nonpos_of_nonpos_of_nonneg room rate.le
  have : (0 : ℚ) < x := by exact_mod_cast (by omega : 0 < x)
  unfold Grows at h
  linarith

/-- A usage that may grow under `S` shared cells may grow under more. -/
theorem Grows.mono_shared {S S' α x : ℤ} (h : Grows S α x) (more : S ≤ S') : Grows S' α x := by
  have rate : (0 : ℚ) ≤ 2 ^ α := (zpow_pos (by norm_num) α).le
  have room : (S : ℚ) - x ≤ S' - x := by exact_mod_cast (by omega : S - x ≤ S' - x)
  calc (x : ℚ) ≤ (S - x) * 2 ^ α := h
    _ ≤ (S' - x) * 2 ^ α := mul_le_mul_of_nonneg_right room rate

/-- A usage that may grow under exponent `α` may grow under a larger one. -/
theorem Grows.mono_alpha {S α α' x : ℤ} (h : Grows S α x) (nonneg : 0 ≤ S) (larger : α ≤ α') :
    Grows S α' x := by
  have rate : (0 : ℚ) < 2 ^ α := zpow_pos (by norm_num) α
  have room : (0 : ℚ) ≤ S - x := by
    by_contra negative
    have below : (S - x : ℚ) * 2 ^ α < 0 := mul_neg_of_neg_of_pos (not_le.1 negative) rate
    have : (0 : ℚ) ≤ S := by exact_mod_cast nonneg
    unfold Grows at h
    linarith
  calc (x : ℚ) ≤ (S - x) * 2 ^ α := h
    _ ≤ (S - x) * 2 ^ α' :=
      mul_le_mul_of_nonneg_left (zpow_le_zpow_right₀ (by norm_num) larger) room

/-! ## The formulas of the solver -/

/-- Taking the ceiling of `S / (k + 1)` from `S` leaves the floor of `S · k / (k + 1)`. -/
theorem sub_ceil_eq_floor (S : ℤ) {k : ℤ} (nonneg : 0 ≤ k) :
    S - (S + k) / (k + 1) = S * k / (k + 1) := by
  have split := Int.mul_ediv_add_emod (S + k) (k + 1)
  have low := Int.emod_nonneg (S + k) (by omega : k + 1 ≠ 0)
  have high := Int.emod_lt_of_pos (S + k) (by omega : 0 < k + 1)
  -- `S · k = (k - r) + (k + 1) (S - q)` with `S + k = r + (k + 1) q` and `0 ≤ k - r ≤ k`
  refine ((Int.ediv_emod_unique (by omega : 0 < k + 1)).2
    ⟨?_, (by omega : 0 ≤ k - (S + k) % (k + 1)), by omega⟩).1.symm
  linear_combination -split

/-- For a negative exponent the share is `S / (2^-α + 1)`. -/
theorem shareOf_of_neg (S : ℤ) {α : ℤ} (negative : α < 0) :
    shareOf S α = S / (2 ^ (-α).toNat + 1) := by
  have power : (2 : ℚ) ^ α = ((2 : ℚ) ^ (-α).toNat)⁻¹ := by
    rw [← zpow_natCast, Int.toNat_of_nonneg (by omega), zpow_neg, inv_inv]
  have pos : (0 : ℚ) < 2 ^ (-α).toNat := by positivity
  have whole : (S : ℚ) * 2 ^ α / (2 ^ α + 1) = (S : ℚ) / ((2 ^ (-α).toNat + 1 : ℕ) : ℚ) := by
    rw [power]
    push_cast
    field_simp
    ring
  rw [shareOf, whole, Rat.floor_intCast_div_natCast]
  push_cast
  rfl

/-- For an exponent that is not negative the share is `S · 2^α / (2^α + 1)`. -/
theorem shareOf_of_nonneg (S : ℤ) {α : ℤ} (nonneg : 0 ≤ α) :
    shareOf S α = S * 2 ^ α.toNat / (2 ^ α.toNat + 1) := by
  have power : (2 : ℚ) ^ α = (2 : ℚ) ^ α.toNat := by
    rw [← zpow_natCast, Int.toNat_of_nonneg nonneg]
  have whole : (S : ℚ) * 2 ^ α / (2 ^ α + 1) =
      ((S * 2 ^ α.toNat : ℤ) : ℚ) / ((2 ^ α.toNat + 1 : ℕ) : ℚ) := by
    rw [power]
    push_cast
    rfl
  rw [shareOf, whole, Rat.floor_intCast_div_natCast]
  push_cast
  rfl


/-! ## The solver -/

/-- The inputs on which the solver's words hold the integers its formulas mean: shared cells
that are not negative, an exponent in `[-62, 62]`, and `S + 2^α` below `2^63` when `α ≥ 0`. -/
structure ShareDomain (shared alpha : Int64) : Prop where
  nonneg : 0 ≤ shared.toInt
  low : -62 ≤ alpha.toInt
  high : alpha.toInt ≤ 62
  fits : 0 ≤ alpha.toInt → shared.toInt + 2 ^ alpha.toInt.toNat < 2 ^ 63

/-- On its domain the solver gives the share. -/
theorem availableShared_eq_shareOf {shared alpha : Int64} (h : ShareDomain shared alpha) :
    ∃ available, availableShared shared alpha = .ok available ∧
      available.toInt = shareOf shared.toInt alpha.toInt := by
  obtain ⟨available, solved, formula⟩ := toInt_availableShared h.nonneg h.low h.high h.fits
  refine ⟨available, solved, ?_⟩
  rw [formula]
  split
  next negative => rw [shareOf_of_neg _ negative]
  next nonnegative =>
    rw [shareOf_of_nonneg _ (by omega), sub_ceil_eq_floor _ (by positivity)]

/-- On its domain the solver gives `⌊S · 2^α / (2^α + 1)⌋`, the largest usage `x` with
`(S - x) · 2^α ≥ x`, which lies in `[0, S]`, below `S` when `S` is positive; and the share
does not decrease when `S` or `α` grows within the domain. -/
theorem availableShared_closed_form {shared alpha : Int64} (h : ShareDomain shared alpha) :
    ∃ available, availableShared shared alpha = .ok available ∧
      available.toInt = shareOf shared.toInt alpha.toInt ∧
      IsGreatest {x | Grows shared.toInt alpha.toInt x} available.toInt ∧
      0 ≤ available.toInt ∧ (0 < shared.toInt → available.toInt < shared.toInt) ∧
      (∀ shared' more, ShareDomain shared' alpha → shared.toInt ≤ shared'.toInt →
        availableShared shared' alpha = .ok more → available.toInt ≤ more.toInt) ∧
      (∀ alpha' more, ShareDomain shared alpha' → alpha.toInt ≤ alpha'.toInt →
        availableShared shared alpha' = .ok more → available.toInt ≤ more.toInt) := by
  obtain ⟨available, solved, share⟩ := availableShared_eq_shareOf h
  have greatest := isGreatest_shareOf shared.toInt alpha.toInt
  rw [← share] at greatest
  have atMost : ∀ shared' alpha' more, ShareDomain shared' alpha' →
      availableShared shared' alpha' = .ok more →
      Grows shared'.toInt alpha'.toInt available.toInt → available.toInt ≤ more.toInt := by
    intro shared' alpha' more domain' solved' grows
    obtain ⟨more', solved'', share'⟩ := availableShared_eq_shareOf domain'
    rw [solved'', Except.ok.injEq] at solved'
    subst solved'
    rw [share']
    exact (isGreatest_shareOf _ _).2 grows
  refine ⟨available, solved, share, greatest, greatest.2 (grows_zero h.nonneg _),
    greatest.1.lt_of_pos, fun shared' more domain' more_eq solved' => ?_,
    fun alpha' more domain' larger solved' => ?_⟩
  · exact atMost shared' alpha more domain' solved' (greatest.1.mono_shared more_eq)
  · exact atMost shared alpha' more domain' solved' (greatest.1.mono_alpha h.nonneg larger)

/-- `2^62` shared cells under `α = 61`, at the edge of the domain. -/
theorem availableShared_closed_form_at_edge :
    ShareDomain 4611686018427387904 61 ∧ ∃ available,
      availableShared 4611686018427387904 61 = .ok available ∧
      available.toInt = shareOf (4611686018427387904 : Int64).toInt (61 : Int64).toInt ∧
      IsGreatest {x | Grows (4611686018427387904 : Int64).toInt (61 : Int64).toInt x}
        available.toInt ∧
      0 ≤ available.toInt ∧ (0 < (4611686018427387904 : Int64).toInt →
        available.toInt < (4611686018427387904 : Int64).toInt) ∧
      (∀ shared' more, ShareDomain shared' 61 →
        (4611686018427387904 : Int64).toInt ≤ shared'.toInt →
        availableShared shared' 61 = .ok more → available.toInt ≤ more.toInt) ∧
      (∀ alpha' more, ShareDomain 4611686018427387904 alpha' → (61 : Int64).toInt ≤ alpha'.toInt →
        availableShared 4611686018427387904 alpha' = .ok more → available.toInt ≤ more.toInt) :=
  have domain : ShareDomain 4611686018427387904 61 :=
    ⟨by decide, by decide, by decide, by decide⟩
  ⟨domain, availableShared_closed_form domain⟩

/-- `S + 2^α` wraps for `2^63 - 1` shared cells under `α = 0`: the solver gives a negative
share, where the share is `2^62 - 1`. -/
theorem availableShared_wraps_at_max :
    availableShared 9223372036854775807 0 = .ok (-4611686018427387905) ∧
      shareOf 9223372036854775807 0 = 4611686018427387903 := by
  refine ⟨rfl, ?_⟩
  rw [shareOf_of_nonneg _ le_rfl]
  norm_num

end LosslessBuffer
