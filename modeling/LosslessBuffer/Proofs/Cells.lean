import Mathlib.Tactic.Linarith
import Mathlib.Tactic.Positivity
import LosslessBuffer.Calculation
/-!
# Cells and shares over the integers

Every quantity of a calculation is a signed 64-bit word, and the words wrap: the cells of a
byte count add `c - 1` to it before dividing, the share of a dynamic pool adds `2^α` to the
shared cells, and the thresholds are sums. This module says when the words hold the integers
the formulas mean.

* A sum or difference of words is the integer one while that fits a word
  (`Int64.toInt_add_of_lt`, `Int64.toInt_sub_of_lt`), and a quotient of a nonnegative word
  by a positive one is the integer quotient (`Int64.toInt_div_of_nonneg`).
* `1 <<< α` is `2^α` for an exponent in `[0, 62]` (`Int64.toInt_one_shiftLeft`).
* A byte count `n` with `n + c ≤ 2^63` takes `⌈n / c⌉` cells of `c` bytes
  (`Quantizer.toInt_bytesToCells`). The sum `n + c` itself may wrap: the word
  `n + c - 1` is right as long as the integer fits. Past that bound the word wraps to a
  negative one and the cells come out as zero or fewer, so the cells cover the bytes exactly
  (`CoversExactly`) for precisely the counts with `n + c ≤ 2^63`
  (`Quantizer.bytesToCells_ceiling`). The cells of every family hold 208 or 256 bytes, so
  fewer than `2^62` bytes take fewer than `2^60` cells (`Family.cellsOf_lt`).
* The share of `S` shared cells under exponent `α` lies between `0` and `S`, below `S` when
  `S` is positive, provided `S + 2^α < 2^63` for `α ≥ 0` (`availableShared_bounds`).
-/

set_option autoImplicit false

namespace Int64

/-- A sum of words is the sum of their integers when that fits a word. -/
theorem toInt_add_of_lt {a b : Int64} (lo : -2 ^ 63 ≤ a.toInt + b.toInt)
    (hi : a.toInt + b.toInt < 2 ^ 63) : (a + b).toInt = a.toInt + b.toInt := by
  rw [Int64.toInt_add, Int.bmod_eq_of_le] <;> omega

/-- A difference of words is the difference of their integers when that fits a word. -/
theorem toInt_sub_of_lt {a b : Int64} (lo : -2 ^ 63 ≤ a.toInt - b.toInt)
    (hi : a.toInt - b.toInt < 2 ^ 63) : (a - b).toInt = a.toInt - b.toInt := by
  rw [Int64.toInt_sub, Int.bmod_eq_of_le] <;> omega

/-- Dividing a nonnegative word by a positive one is integer division. -/
theorem toInt_div_of_nonneg {a b : Int64} (ha : 0 ≤ a.toInt) (hb : 0 < b.toInt) :
    (a / b).toInt = a.toInt / b.toInt := by
  have notNegOne : b ≠ -1 := by
    rintro rfl
    exact absurd hb (by decide)
  rw [Int64.toInt_div_of_ne_right _ _ notNegOne, Int.tdiv_eq_ediv_of_nonneg ha]

/-- Shifting one left by an exponent in `[0, 62]` gives that power of two. -/
theorem toInt_one_shiftLeft {a : Int64} (h0 : 0 ≤ a.toInt) (h : a.toInt ≤ 62) :
    ((1 : Int64) <<< a).toInt = 2 ^ a.toInt.toNat := by
  have small : a.toBitVec.toNat = a.toInt.toNat := by
    have cond := BitVec.toInt_eq_toNat_cond a.toBitVec
    rw [Int64.toInt_toBitVec] at cond
    split at cond <;> omega
  -- the shift amount is the exponent taken modulo 64, which leaves it as it is
  have shift : (a.toBitVec.smod 64).toNat = a.toInt.toNat := by
    have msb : a.toBitVec.msb = false := by
      rw [BitVec.msb_eq_decide]
      simp only [decide_eq_false_iff_not, not_le]
      omega
    have msb64 : (64 : BitVec 64).msb = false := by decide
    rw [BitVec.smod_eq, msb, msb64]
    change (a.toBitVec % 64).toNat = _
    rw [BitVec.toNat_umod, small]
    exact Nat.mod_eq_of_lt (lt_of_le_of_lt (by omega : a.toInt.toNat ≤ 62) (by decide))
  change (1#64 <<< (a.toBitVec.smod 64)).toInt = _
  rw [BitVec.shiftLeft_eq', BitVec.toInt_shiftLeft, shift, Nat.shiftLeft_eq]
  have pow : (2 : Int) ^ a.toInt.toNat ≤ 2 ^ 62 := pow_le_pow_right₀ (by norm_num) (by omega)
  have pos : (0 : Int) < 2 ^ a.toInt.toNat := by positivity
  rw [BitVec.toNat_ofNat, Int.bmod_eq_of_le] <;> push_cast <;> omega

/-- The divisor of a share, `2^a + 1` for an exponent in `[0, 62]`, does not wrap. -/
theorem toInt_one_shiftLeft_add_one {a : Int64} (h0 : 0 ≤ a.toInt) (h : a.toInt ≤ 62) :
    ((1 : Int64) <<< a + 1).toInt = 2 ^ a.toInt.toNat + 1 := by
  have power := toInt_one_shiftLeft h0 h
  have pow : (2 : Int) ^ a.toInt.toNat ≤ 2 ^ 62 := pow_le_pow_right₀ (by norm_num) (by omega)
  have pos : (0 : Int) < 2 ^ a.toInt.toNat := by positivity
  rw [Int64.toInt_add_of_lt, power, Int64.toInt_one] <;> rw [power, Int64.toInt_one] <;> omega

end Int64

namespace LosslessBuffer

/-- The cells that hold `n` bytes in cells of `c` bytes, over the integers: `⌈n / c⌉`. -/
def cellsOf (c n : Int) : Int := (n + c - 1) / c

/-- `k` cells of `c` bytes hold `n` bytes, and one cell fewer does not. -/
def CoversExactly (c n k : Int) : Prop :=
  0 ≤ k ∧ n ≤ k * c ∧ (k - 1) * c < n

/-- Over the integers, `⌈n / c⌉` is the one count of cells that covers `n` bytes exactly. -/
theorem coversExactly_iff {c n k : Int} (cell : 0 < c) (bytes : 0 ≤ n) :
    CoversExactly c n k ↔ k = cellsOf c n := by
  unfold CoversExactly cellsOf
  rw [eq_comm, Int.ediv_eq_iff_of_pos cell]
  constructor
  · rintro ⟨-, covers, tight⟩
    constructor <;> linarith
  · rintro ⟨low, high⟩
    refine ⟨?_, by linarith, by linarith⟩
    by_contra negative
    nlinarith

namespace Quantizer

theorem ofCellSize_cellSize {cellSize : Int64} {q : Quantizer}
    (h : Quantizer.ofCellSize cellSize = .ok q) : q.cellSize = cellSize := by
  unfold Quantizer.ofCellSize at h
  split at h
  · cases h
    rfl
  · cases h

theorem toInt_cellSize_pos (q : Quantizer) : 0 < q.cellSize.toInt :=
  Int64.lt_iff_toInt_lt.1 q.positive

/-- The cells of a byte count: it is not negative, and the word formula gives them. -/
theorem bytesToCells_eq_ok {q : Quantizer} {n k : Int64} :
    q.bytesToCells n = .ok k ↔ 0 ≤ n ∧ (n + q.cellSize - 1) / q.cellSize = k := by
  unfold bytesToCells
  by_cases negative : n < 0
  · simp only [negative, if_true, reduceCtorEq, false_iff, not_and]
    exact fun nonneg => absurd negative (Int64.not_lt.2 nonneg)
  · simp only [negative, if_false, Except.ok.injEq, iff_and_self]
    exact fun _ => Int64.not_lt.1 negative

/-- The word the cells are divided from, `n + c - 1`, is the integer sum wrapped to a word. -/
theorem toInt_roundedUp (q : Quantizer) (n : Int64) :
    (n + q.cellSize - 1).toInt = (n.toInt + q.cellSize.toInt - 1).bmod (2 ^ 64) := by
  have cell := q.toInt_cellSize_pos
  have small := Int64.toInt_lt q.cellSize
  -- `n + c` may wrap where `n + c - 1` does not: regroup before reading the sum
  have regroup : n + q.cellSize - 1 = n + (q.cellSize - 1) := by grind
  have one := Int64.toInt_one
  have less : (q.cellSize - 1).toInt = q.cellSize.toInt - 1 := by
    rw [Int64.toInt_sub_of_lt] <;> omega
  rw [regroup, Int64.toInt_add, less, Int.add_sub_assoc]

/-- A byte count `n` with `n + c ≤ 2^63` takes exactly `⌈n / c⌉` cells of `c` bytes. -/
theorem toInt_bytesToCells {q : Quantizer} {n k : Int64} (h : q.bytesToCells n = .ok k)
    (fits : n.toInt + q.cellSize.toInt ≤ 2 ^ 63) :
    k.toInt = cellsOf q.cellSize.toInt n.toInt := by
  obtain ⟨nonneg, rfl⟩ := bytesToCells_eq_ok.1 h
  have cell := q.toInt_cellSize_pos
  have bytes : 0 ≤ n.toInt := Int64.le_iff_toInt_le.1 nonneg
  have sum : (n + q.cellSize - 1).toInt = n.toInt + q.cellSize.toInt - 1 := by
    rw [toInt_roundedUp, Int.bmod_eq_of_le] <;> omega
  rw [Int64.toInt_div_of_nonneg (by omega) cell, sum]
  rfl

/-- A byte count with `n + c > 2^63` wraps the word `n + c - 1` to a negative one, and its cells
come out as zero or fewer. -/
theorem bytesToCells_nonpos_of_wraps {q : Quantizer} {n k : Int64} (h : q.bytesToCells n = .ok k)
    (wraps : 2 ^ 63 < n.toInt + q.cellSize.toInt) : k.toInt ≤ 0 := by
  obtain ⟨nonneg, rfl⟩ := bytesToCells_eq_ok.1 h
  have cell := q.toInt_cellSize_pos
  have small := Int64.toInt_lt q.cellSize
  have small' := Int64.toInt_lt n
  have sum : (n + q.cellSize - 1).toInt = -(2 ^ 64 + 1 - n.toInt - q.cellSize.toInt) := by
    rw [toInt_roundedUp, Int.bmod_def]
    split <;> omega
  have notNegOne : q.cellSize ≠ -1 := by
    rintro same
    rw [same] at cell
    exact absurd cell (by decide)
  rw [Int64.toInt_div_of_ne_right _ _ notNegOne, sum, Int.neg_tdiv]
  exact Int.neg_nonpos_of_nonneg (Int.tdiv_nonneg (by omega) cell.le)

/-- A byte count is covered exactly by its cells, `⌈n / c⌉`, exactly when `n + c ≤ 2^63`:
past that the word sum wraps and the cells come out as zero or fewer. -/
theorem bytesToCells_exact_iff (q : Quantizer) {n : Int64} (nonneg : 0 ≤ n) :
    (∃ k, q.bytesToCells n = .ok k ∧ CoversExactly q.cellSize.toInt n.toInt k.toInt) ↔
      n.toInt + q.cellSize.toInt ≤ 2 ^ 63 := by
  have cell := q.toInt_cellSize_pos
  have bytes : 0 ≤ n.toInt := Int64.le_iff_toInt_le.1 nonneg
  constructor
  · rintro ⟨k, h, -, covers, -⟩
    by_contra wraps
    have none := bytesToCells_nonpos_of_wraps h (by omega)
    have small := Int64.toInt_lt q.cellSize
    nlinarith
  · intro fits
    obtain ⟨k, h⟩ : ∃ k, q.bytesToCells n = .ok k := ⟨_, bytesToCells_eq_ok.2 ⟨nonneg, rfl⟩⟩
    exact ⟨k, h, (coversExactly_iff cell bytes).2 (toInt_bytesToCells h fits)⟩

/-- A negative byte count is an invalid size. -/
theorem bytesToCells_of_neg (q : Quantizer) {n : Int64} (negative : n < 0) :
    q.bytesToCells n = .error (.broken .invalidSize s!"bytes_to_cells({n})") := by
  unfold bytesToCells
  rw [if_pos negative]

end Quantizer

/-- Cells are the exact ceiling `⌈n / c⌉` of every byte count `n` with `n + c ≤ 2^63`, and of
no byte count past it; a negative count is an invalid size. -/
theorem Quantizer.bytesToCells_ceiling (q : Quantizer) (n : Int64) :
    (n < 0 → q.bytesToCells n = .error (.broken .invalidSize s!"bytes_to_cells({n})")) ∧
    (0 ≤ n → ((∃ k, q.bytesToCells n = .ok k ∧ CoversExactly q.cellSize.toInt n.toInt k.toInt) ↔
      n.toInt + q.cellSize.toInt ≤ 2 ^ 63)) :=
  ⟨q.bytesToCells_of_neg, q.bytesToCells_exact_iff⟩

/-- In cells of 256 bytes, `-1` bytes are an invalid size and `2^63 - 256` bytes, the most that
fit, take exactly `2^55 - 1` cells. -/
theorem bytesToCells_ceiling_at_limit :
    (⟨256, by decide⟩ : Quantizer).bytesToCells (-1) =
        .error (.broken .invalidSize s!"bytes_to_cells({(-1 : Int64)})") ∧
      ∃ k, (⟨256, by decide⟩ : Quantizer).bytesToCells 9223372036854775552 = .ok k ∧
        CoversExactly (256 : Int64).toInt (9223372036854775552 : Int64).toInt k.toInt :=
  ⟨(Quantizer.bytesToCells_ceiling _ _).1 (by decide),
    ((Quantizer.bytesToCells_ceiling _ _).2 (by decide)).2 (by decide)⟩

/-- Past the bound the sum wraps: `2^63 - 1` bytes come out as a negative count of 256-byte
cells, where `⌈(2^63 - 1) / 256⌉ = 2^55`. -/
theorem bytesToCells_wraps_at_word_limit :
    (⟨256, by decide⟩ : Quantizer).bytesToCells 9223372036854775807 = .ok (-36028797018963967) ∧
      ¬ CoversExactly 256 9223372036854775807 (-36028797018963967) :=
  ⟨Quantizer.bytesToCells_eq_ok.2 ⟨by decide, by decide⟩,
    fun ⟨nonneg, _⟩ => absurd nonneg (by decide)⟩

theorem Family.cellSize_toInt (f : Family) : f.cellSize.toInt = 208 ∨ f.cellSize.toInt = 256 := by
  cases f <;> decide

/-- Fewer than `2^62` bytes take fewer than `2^60` cells of a family. -/
theorem Family.cellsOf_lt (f : Family) {n : Int} (nonneg : 0 ≤ n) (bound : n < 2 ^ 62) :
    0 ≤ cellsOf f.cellSize.toInt n ∧ cellsOf f.cellSize.toInt n < 2 ^ 60 := by
  unfold cellsOf
  rcases f.cellSize_toInt with c | c <;> rw [c] <;> omega

/-- A share is given only for shared cells that are not negative and an exponent in
`[-62, 62]`. -/
theorem availableShared_domain {shared alpha available : Int64}
    (h : availableShared shared alpha = .ok available) :
    0 ≤ shared.toInt ∧ -62 ≤ alpha.toInt ∧ alpha.toInt ≤ 62 := by
  unfold availableShared at h
  split at h
  · cases h
  rename_i notNegative
  split at h
  · cases h
  rename_i inRange
  simp only [maxAlpha, not_or, Int64.not_lt, Int64.le_iff_toInt_le] at notNegative inRange
  exact ⟨notNegative, inRange.2, inRange.1⟩

/-- On shared cells that are not negative and an exponent in `[-62, 62]`, with `S + 2^α`
fitting a word for `α ≥ 0`, the share is given and its word holds the integer of the formula
the code computes. -/
theorem toInt_availableShared {shared alpha : Int64} (nonneg : 0 ≤ shared.toInt)
    (low : -62 ≤ alpha.toInt) (high : alpha.toInt ≤ 62)
    (fits : 0 ≤ alpha.toInt → shared.toInt + 2 ^ alpha.toInt.toNat < 2 ^ 63) :
    ∃ available, availableShared shared alpha = .ok available ∧ available.toInt =
      if alpha.toInt < 0 then shared.toInt / (2 ^ (-alpha.toInt).toNat + 1)
      else shared.toInt - (shared.toInt + 2 ^ alpha.toInt.toNat) / (2 ^ alpha.toInt.toNat + 1) := by
  unfold availableShared
  rw [if_neg (by rw [Int64.lt_iff_toInt_lt]; simp; omega),
    if_neg (by simp only [maxAlpha, not_or, Int64.not_lt, Int64.le_iff_toInt_le]; simp; omega)]
  split
  next negative =>
    have below := Int64.lt_iff_toInt_lt.1 negative
    simp only [Int64.toInt_zero] at below
    have neg : (-alpha).toInt = -alpha.toInt := by
      rw [Int64.toInt_neg, Int.bmod_eq_of_le] <;> omega
    have divisor := Int64.toInt_one_shiftLeft_add_one (a := -alpha) (by omega) (by omega)
    have one : (1 : Int) ≤ 2 ^ (-alpha).toInt.toNat := one_le_pow₀ (by norm_num)
    refine ⟨_, rfl, ?_⟩
    rw [if_pos below, Int64.toInt_div_of_nonneg nonneg (by omega), divisor, neg]
  next nonnegative =>
    have above : 0 ≤ alpha.toInt := Int64.le_iff_toInt_le.1 (Int64.not_lt.1 nonnegative)
    have fit := fits above
    have power := Int64.toInt_one_shiftLeft above high
    have divisor := Int64.toInt_one_shiftLeft_add_one above high
    have one : (1 : Int) ≤ 2 ^ alpha.toInt.toNat := one_le_pow₀ (by norm_num)
    have regroup : shared + ((1 : Int64) <<< alpha + 1) - 1 = shared + (1 : Int64) <<< alpha := by
      grind
    have numerator : (shared + ((1 : Int64) <<< alpha + 1) - 1).toInt =
        shared.toInt + 2 ^ alpha.toInt.toNat := by
      rw [regroup, Int64.toInt_add_of_lt] <;> rw [power] <;> omega
    have quotient :
        ((shared + ((1 : Int64) <<< alpha + 1) - 1) / ((1 : Int64) <<< alpha + 1)).toInt =
        (shared.toInt + 2 ^ alpha.toInt.toNat) / (2 ^ alpha.toInt.toNat + 1) := by
      rw [Int64.toInt_div_of_nonneg (by rw [numerator]; omega) (by rw [divisor]; omega), numerator,
        divisor]
    have atMost : (shared.toInt + 2 ^ alpha.toInt.toNat) / (2 ^ alpha.toInt.toNat + 1) ≤
        shared.toInt :=
      Int.lt_add_one_iff.1 (Int.ediv_lt_of_lt_mul (by omega) (by nlinarith))
    have atLeast : 0 ≤ (shared.toInt + 2 ^ alpha.toInt.toNat) / (2 ^ alpha.toInt.toNat + 1) :=
      Int.ediv_nonneg (by omega) (by omega)
    refine ⟨_, rfl, ?_⟩
    rw [if_neg (by omega), Int64.toInt_sub_of_lt] <;> rw [quotient] <;> omega

/-- The share of `S` shared cells under an exponent `α ∈ [-62, 62]` lies between `0` and
`S`, and below `S` when `S` is positive, as long as `S + 2^α` fits a word for `α ≥ 0`. -/
theorem availableShared_bounds {shared alpha available : Int64}
    (h : availableShared shared alpha = .ok available)
    (fits : 0 ≤ alpha → shared.toInt + 2 ^ alpha.toInt.toNat < 2 ^ 63) :
    0 ≤ available ∧ available ≤ shared ∧ (0 < shared → available < shared) := by
  obtain ⟨S, low, high⟩ := availableShared_domain h
  obtain ⟨available', solved, formula⟩ := toInt_availableShared S low high
    fun above => fits (Int64.le_iff_toInt_le.2 above)
  rw [h, Except.ok.injEq] at solved
  subst solved
  simp only [Int64.le_iff_toInt_le, Int64.lt_iff_toInt_lt, Int64.toInt_zero, formula]
  split
  next negative =>
    have one : (1 : Int) ≤ 2 ^ (-alpha.toInt).toNat := one_le_pow₀ (by norm_num)
    refine ⟨Int.ediv_nonneg S (by omega), Int.ediv_le_self _ S, fun positive => ?_⟩
    exact Int.ediv_lt_of_lt_mul (by omega) (by nlinarith)
  next nonnegative =>
    have one : (1 : Int) ≤ 2 ^ alpha.toInt.toNat := one_le_pow₀ (by norm_num)
    generalize (2 : Int) ^ alpha.toInt.toNat = D at *
    have atMost : (shared.toInt + D) / (D + 1) ≤ shared.toInt :=
      Int.lt_add_one_iff.1 (Int.ediv_lt_of_lt_mul (by omega) (by nlinarith))
    have atLeast : 0 ≤ (shared.toInt + D) / (D + 1) := Int.ediv_nonneg (by omega) (by omega)
    have taken : 0 < shared.toInt → 1 ≤ (shared.toInt + D) / (D + 1) :=
      fun positive => Int.le_ediv_of_mul_le (by omega) (by omega)
    omega

end LosslessBuffer
