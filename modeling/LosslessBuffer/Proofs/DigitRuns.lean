import Mathlib
import LosslessBuffer.Buffer.BindingKey
/-!
# Runs of decimal digits

The keys of the buffer configuration and of the parameter table carry numbers written as
runs of ASCII digits: the port and the index range of a binding key, the speed and the cable
length of a scenario key. Each run is read by `readIndex`, through the signed 64-bit reader
`Text.readInt64`. This module says which runs it accepts and what it gives:

* the value of a run is its digits read left to right (`decimalValue`), leading zeros
  allowed;
* `readIndex` accepts exactly the runs of one or more digits whose value is at most
  `2^63 - 1`, and gives that value (`readIndex_eq_some_iff`). The reader stops with a range
  error as soon as the value read so far passes `2^64 - 1`; since the value only grows, that
  happens exactly when the whole run is too large (`readDigitsFrom_digits`).

The key grammars also split text at a run: a run followed by a character that is not a
digit is what `takeWhile isAsciiDigit` takes, and the rest is what `dropWhile` leaves
(`split_digits_append`).
-/

set_option autoImplicit false

namespace LosslessBuffer

open LosslessBuffer.Text

/-- One or more ASCII digits. -/
def DigitRun (digits : List Char) : Prop :=
  digits ≠ [] ∧ ∀ c ∈ digits, isAsciiDigit c = true

instance (digits : List Char) : Decidable (DigitRun digits) :=
  decidable_of_iff (digits ≠ [] ∧ digits.all isAsciiDigit = true)
    (and_congr_right fun _ => List.all_eq_true)

/-- One more digit after a value read so far. -/
def decimalStep (value : Nat) (c : Char) : Nat := value * 10 + (c.toNat - '0'.toNat)

/-- The value of a run of decimal digits, read left to right. -/
def decimalValue (digits : List Char) : Nat := digits.foldl decimalStep 0

theorem isAsciiDigit_iff {c : Char} :
    isAsciiDigit c = true ↔ 48 ≤ c.toNat ∧ c.toNat ≤ 57 := by
  simp only [isAsciiDigit, Bool.and_eq_true, decide_eq_true_eq, Char.le_def,
    UInt32.le_iff_toNat_le]
  rfl

/-- A digit reads as its value, below ten. -/
theorem digitValue_of_isAsciiDigit {c : Char} (h : isAsciiDigit c = true) :
    digitValue c = some (c.toNat - '0'.toNat) ∧ c.toNat - '0'.toNat < 10 := by
  have bounds := isAsciiDigit_iff.1 h
  have zero : '0'.toNat = 48 := rfl
  refine ⟨?_, by omega⟩
  simp only [isAsciiDigit, Bool.and_eq_true, decide_eq_true_eq] at h
  simp only [digitValue, if_pos h]

/-- Reading more digits never lowers the value. -/
theorem le_foldl_decimalStep (value : Nat) (digits : List Char) :
    value ≤ digits.foldl decimalStep value := by
  induction digits generalizing value with
  | nil => exact Nat.le_refl _
  | cons c rest ih =>
    rw [List.foldl_cons]
    exact Nat.le_trans (by unfold decimalStep; omega) (ih _)

/-- Over a run of digits the reader fails only when the whole value passes `2^64 - 1`: each
value read on the way is at most the final one. -/
theorem readDigitsFrom_digits {value : Nat} {digits : List Char} (fits : value ≤ wordLimit)
    (all : ∀ c ∈ digits, isAsciiDigit c = true) :
    readDigitsFrom 10 value digits =
      if digits.foldl decimalStep value ≤ wordLimit then .ok (digits.foldl decimalStep value)
      else .error .range := by
  induction digits generalizing value with
  | nil => rw [List.foldl_nil, if_pos fits, readDigitsFrom]
  | cons c rest ih =>
    obtain ⟨read, below⟩ := digitValue_of_isAsciiDigit (all c List.mem_cons_self)
    have later : ∀ c ∈ rest, isAsciiDigit c = true := fun c member =>
      all c (List.mem_cons_of_mem _ member)
    have step : decimalStep value c = value * 10 + (c.toNat - '0'.toNat) := rfl
    rw [readDigitsFrom, read, List.foldl_cons, step]
    simp only [if_pos below]
    by_cases exceeds : value * 10 + (c.toNat - '0'.toNat) > wordLimit
    · -- the value already passes the limit, and the rest only adds to it
      have still := le_foldl_decimalStep (value * 10 + (c.toNat - '0'.toNat)) rest
      rw [if_pos exceeds, if_neg (by omega)]
    · rw [if_neg exceeds]
      exact ih (Nat.le_of_not_gt exceeds) later

/-- Without a sign in front, the signed reader takes the whole text as the magnitude. -/
theorem readSigned_unsigned {c : Char} {rest : List Char} (notMinus : c ≠ '-')
    (notPlus : c ≠ '+') (read : List Char → Except IntegerProblem Nat) :
    readSigned read (c :: rest) =
      read (c :: rest) >>= fun m =>
        if m ≥ Nat.pow 2 63 then .error .range else .ok (m : Int) := by
  unfold readSigned
  simp only [reduceCtorEq, if_false]
  -- the sign is read by a match on the first character: only its last case can apply
  split
  all_goals
    rename_i heq
    split at heq
    · exact absurd (List.cons.inj ‹c :: rest = '-' :: _›).1 notMinus
    · exact absurd (List.cons.inj ‹c :: rest = '+' :: _›).1 notPlus
    rw [heq]
    rfl

/-- The signed reader takes a run of digits as its value when that is below `2^63`. -/
theorem readInt64_digits {digits : List Char} (run : DigitRun digits) :
    readInt64 (String.ofList digits) =
      if decimalValue digits < 2 ^ 63 then .ok (Int64.ofNat (decimalValue digits))
      else .error .range := by
  obtain ⟨nonempty, all⟩ := run
  obtain ⟨c, rest, rfl⟩ := List.exists_cons_of_ne_nil nonempty
  have digit := isAsciiDigit_iff.1 (all c List.mem_cons_self)
  have notMinus : c ≠ '-' := by
    rintro rfl
    exact absurd digit (by decide)
  have notPlus : c ≠ '+' := by
    rintro rfl
    exact absurd digit (by decide)
  have limit : wordLimit = 2 ^ 64 - 1 := rfl
  have half : Nat.pow 2 63 = 2 ^ 63 := rfl
  rw [readInt64, String.toList_ofList, readSigned_unsigned notMinus notPlus, readDigits,
    if_neg (List.cons_ne_nil c rest), readDigitsFrom_digits (Nat.zero_le _) all, half]
  unfold decimalValue
  by_cases small : (c :: rest).foldl decimalStep 0 < 2 ^ 63
  · rw [if_pos (by omega), if_pos small]
    simp only [bind, Except.bind, ge_iff_le, if_neg (Nat.not_le_of_lt small), Except.map,
      Int64.ofInt_eq_ofNat]
  · rw [if_neg small]
    by_cases fits : (c :: rest).foldl decimalStep 0 ≤ wordLimit
    · rw [if_pos fits]
      simp only [bind, Except.bind, ge_iff_le, if_pos (Nat.le_of_not_lt small), Except.map]
    · rw [if_neg fits]
      rfl

/-- `readIndex` accepts exactly the runs of digits whose value is below `2^63`, and gives that
value. -/
theorem readIndex_eq_some_iff {digits : List Char} {v : Int64} :
    readIndex digits = some v ↔
      DigitRun digits ∧ decimalValue digits < 2 ^ 63 ∧
        v = Int64.ofNat (decimalValue digits) := by
  unfold readIndex
  by_cases run : DigitRun digits
  · have shape : digits ≠ [] ∧ digits.all isAsciiDigit = true :=
      ⟨run.1, List.all_eq_true.2 run.2⟩
    rw [if_pos shape, readInt64_digits run]
    by_cases small : decimalValue digits < 2 ^ 63
    · rw [if_pos small]
      simp only [Option.some.injEq, eq_comm, run, small, true_and]
    · rw [if_neg small]
      simp only [reduceCtorEq, small, false_and, and_false]
  · have shape : ¬ (digits ≠ [] ∧ digits.all isAsciiDigit = true) :=
      fun ⟨nonempty, all⟩ => run ⟨nonempty, List.all_eq_true.1 all⟩
    simp only [if_neg shape, reduceCtorEq, run, false_and]

/-! ## Splitting text at a run of digits -/

/-- A run of digits followed by text that does not start with a digit: `takeWhile` takes the
run and `dropWhile` leaves the text. -/
theorem split_digits_append {digits rest : List Char}
    (all : ∀ c ∈ digits, isAsciiDigit c = true)
    (stop : ∀ c ∈ rest.head?, isAsciiDigit c = false) :
    (digits ++ rest).takeWhile isAsciiDigit = digits ∧
      (digits ++ rest).dropWhile isAsciiDigit = rest := by
  rw [List.takeWhile_append_of_pos all, List.dropWhile_append_of_pos all]
  cases rest with
  | nil => exact ⟨List.append_nil _, rfl⟩
  | cons c later =>
    have notDigit : ¬ isAsciiDigit c = true := by
      rw [stop c rfl]
      exact Bool.false_ne_true
    rw [List.takeWhile_cons_of_neg notDigit, List.dropWhile_cons_of_neg notDigit, List.append_nil]
    exact ⟨rfl, rfl⟩

/-- What `takeWhile` takes is a run of digits as soon as it is not empty. -/
theorem digitRun_takeWhile {text : List Char} (nonempty : text.takeWhile isAsciiDigit ≠ []) :
    DigitRun (text.takeWhile isAsciiDigit) :=
  ⟨nonempty, List.all_eq_true.1 List.all_takeWhile⟩

end LosslessBuffer
