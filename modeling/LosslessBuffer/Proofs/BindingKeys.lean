import LosslessBuffer.Proofs.DigitRuns
import LosslessBuffer.Proofs.KeyBytes
/-!
# The grammar of binding keys

A queue or priority-group binding is keyed by `Ethernet<port>|<index>` or
`Ethernet<port>|<low>-<high>`, in ASCII digits, the whole key and nothing around it.
`BindingRange.Written` is that grammar as an inductive relation between the bytes of a key
and the range it denotes, one constructor per shape. The indices are read as decimal
numbers, leading zeros allowed, and must fit a signed 64-bit word with `low ≤ high`.

* `BindingRange.parse?_eq_some_iff`: `BindingRange.parse?` accepts exactly the keys of the
  grammar and gives the range they denote. The reader works on the key read as characters,
  the grammar on its bytes; for an ASCII key the two are the same
  (`Text.Bytes.eq_ofString_lossy`).
* `BindingRange.toInt_width`: the width `high - low + 1` of an accepted range is computed in
  64-bit words. Its integer value lies in `[1, 2^63]`, and the word holds it for every range
  but one: `0-9223372036854775807` covers `2^63` indices, which the word holds as `-2^63`.
-/

set_option autoImplicit false

namespace LosslessBuffer

open LosslessBuffer.Text

/-- The characters every binding key starts with. -/
def portPrefix : List Char := ['E', 't', 'h', 'e', 'r', 'n', 'e', 't']

/-- The reader's prefix, as a list of characters. Rewriting with this first keeps the literal
from being unfolded, which is slow. -/
theorem toList_ethernet : "Ethernet".toList = portPrefix := by
  unfold portPrefix
  simp

/-- The characters of a binding key with port digits `port` and index text `indices`. -/
def bindingKeyText (port indices : List Char) : List Char :=
  portPrefix ++ port ++ '|' :: indices

/-- The name of the port with digits `port`. -/
def portName (port : List Char) : String :=
  String.ofList (portPrefix ++ port)

/-- Binding key `key` denotes range `r`: it is `Ethernet<port>|<index>` or
`Ethernet<port>|<low>-<high>` in ASCII digits, with indices below `2^63` and `low ≤ high`. -/
inductive BindingRange.Written : Bytes → BindingRange → Prop where
  /-- `Ethernet<port>|<index>`: the one index. -/
  | single {port index : List Char} : DigitRun port → DigitRun index →
      decimalValue index < 2 ^ 63 →
      Written (Bytes.ofString (String.ofList (bindingKeyText port index)))
        ⟨portName port, Int64.ofNat (decimalValue index), Int64.ofNat (decimalValue index)⟩
  /-- `Ethernet<port>|<low>-<high>`: the indices from `low` to `high`. -/
  | range {port low high : List Char} : DigitRun port → DigitRun low → DigitRun high →
      decimalValue low ≤ decimalValue high → decimalValue high < 2 ^ 63 →
      Written (Bytes.ofString (String.ofList (bindingKeyText port (low ++ '-' :: high))))
        ⟨portName port, Int64.ofNat (decimalValue low), Int64.ofNat (decimalValue high)⟩

/-! ## The text of a key -/

theorem ascii_of_digitRun {digits : List Char} (run : DigitRun digits) :
    ∀ c ∈ digits, IsAscii c :=
  fun c member => IsAscii.of_isAsciiDigit (run.2 c member)

/-- A binding key of ASCII pieces is written in ASCII. -/
theorem ascii_bindingKeyText {port indices : List Char} (portAscii : ∀ c ∈ port, IsAscii c)
    (indicesAscii : ∀ c ∈ indices, IsAscii c) :
    ∀ c ∈ bindingKeyText port indices, IsAscii c := by
  intro c member
  simp only [bindingKeyText, List.mem_append, List.mem_cons] at member
  rcases member with (prefixed | inPort) | bar | inIndices
  · simp only [portPrefix, List.mem_cons, List.not_mem_nil, or_false] at prefixed
    rcases prefixed with rfl | rfl | rfl | rfl | rfl | rfl | rfl | rfl <;> decide
  · exact portAscii c inPort
  · rw [bar]
    decide
  · exact indicesAscii c inIndices

theorem ascii_dashed {low high : List Char} (lowRun : DigitRun low) (highRun : DigitRun high) :
    ∀ c ∈ low ++ '-' :: high, IsAscii c := by
  intro c member
  simp only [List.mem_append, List.mem_cons] at member
  rcases member with inLow | dash | inHigh
  · exact ascii_of_digitRun lowRun c inLow
  · rw [dash]
    decide
  · exact ascii_of_digitRun highRun c inHigh

/-- A key of the grammar reads back as its characters. -/
theorem lossy_bindingKeyText {port indices : List Char} (portAscii : ∀ c ∈ port, IsAscii c)
    (indicesAscii : ∀ c ∈ indices, IsAscii c) :
    (Bytes.ofString (String.ofList (bindingKeyText port indices))).lossy.toList =
      bindingKeyText port indices := by
  rw [Bytes.lossy_ofString (by
    rw [String.toList_ofList]
    exact ascii_bindingKeyText portAscii indicesAscii), String.toList_ofList]

/-- A key that reads as the characters of the grammar is the bytes of those characters. -/
theorem eq_of_lossy_bindingKeyText {key : Bytes} {port indices : List Char}
    (read : key.lossy.toList = bindingKeyText port indices) (portAscii : ∀ c ∈ port, IsAscii c)
    (indicesAscii : ∀ c ∈ indices, IsAscii c) :
    key = Bytes.ofString (String.ofList (bindingKeyText port indices)) := by
  have same := Bytes.eq_ofString_lossy (read ▸ ascii_bindingKeyText portAscii indicesAscii)
  have text : key.lossy = String.ofList (bindingKeyText port indices) := by
    rw [← read, String.ofList_toList]
  rw [text] at same
  exact same

/-- How the reader splits the characters of a key: the prefix, the port digits, and the text
after the bar. -/
theorem split_bindingKeyText {port indices : List Char} (run : DigitRun port) :
    (bindingKeyText port indices).take portPrefix.length = portPrefix ∧
      ((bindingKeyText port indices).drop portPrefix.length).takeWhile isAsciiDigit = port ∧
      ((bindingKeyText port indices).drop portPrefix.length).dropWhile isAsciiDigit =
        '|' :: indices := by
  rw [bindingKeyText, List.append_assoc, List.take_left, List.drop_left]
  exact ⟨rfl, split_digits_append run.2 fun c first => by cases first; rfl⟩

/-! ## Reading a key -/

/-- Every key of the grammar is read as the range it denotes. -/
theorem BindingRange.parse?_of_written {key : Bytes} {r : BindingRange} (h : Written key r) :
    parse? key = some r := by
  cases h with
  | single portRun indexRun fits =>
    rename_i port index
    have read := lossy_bindingKeyText (ascii_of_digitRun portRun) (ascii_of_digitRun indexRun)
    obtain ⟨prefixed, portSplit, rest⟩ := @split_bindingKeyText port index portRun
    have indexSplit := @split_digits_append index [] indexRun.2 fun c none => by cases none
    rw [List.append_nil] at indexSplit
    unfold parse?
    dsimp only
    rw [toList_ethernet, read, if_pos prefixed, rest, portSplit]
    simp only [if_neg portRun.1, indexSplit.1, indexSplit.2,
      readIndex_eq_some_iff.2 ⟨indexRun, fits, rfl⟩]
    rfl
  | range portRun lowRun highRun ascending fits =>
    rename_i port low high
    have read := lossy_bindingKeyText (ascii_of_digitRun portRun) (ascii_dashed lowRun highRun)
    obtain ⟨prefixed, portSplit, rest⟩ :=
      @split_bindingKeyText port (low ++ '-' :: high) portRun
    have lowSplit := @split_digits_append low ('-' :: high) lowRun.2 fun c first => by
      cases first
      rfl
    have lowFits : decimalValue low < 2 ^ 63 := Nat.lt_of_le_of_lt ascending fits
    have notDescending : ¬ Int64.ofNat (decimalValue high) < Int64.ofNat (decimalValue low) := by
      rw [Int64.lt_iff_toInt_lt, Int64.toInt_ofNat_of_lt fits, Int64.toInt_ofNat_of_lt lowFits]
      omega
    unfold parse?
    dsimp only
    rw [toList_ethernet, read, if_pos prefixed, rest, portSplit]
    simp only [if_neg portRun.1, lowSplit.1, lowSplit.2,
      readIndex_eq_some_iff.2 ⟨lowRun, lowFits, rfl⟩,
      readIndex_eq_some_iff.2 ⟨highRun, fits, rfl⟩, if_neg notDescending]
    rfl

/-- Every key the reader accepts is a key of the grammar, denoting the range read. -/
theorem BindingRange.written_of_parse? {key : Bytes} {r : BindingRange} (h : parse? key = some r) :
    Written key r := by
  unfold parse? at h
  dsimp only at h
  rw [toList_ethernet] at h
  generalize afterPrefix : key.lossy.toList.drop portPrefix.length = after at h
  split at h
  next prefixed =>
    have read : key.lossy.toList = portPrefix ++ after := by
      rw [← List.take_append_drop portPrefix.length key.lossy.toList, prefixed, afterPrefix]
    split at h
    next indices barred =>
      have portRun :
          after.takeWhile isAsciiDigit ≠ [] → DigitRun (after.takeWhile isAsciiDigit) :=
        digitRun_takeWhile
      split at h
      · cases h
      next hasPort =>
        have afterSplit : after = after.takeWhile isAsciiDigit ++ '|' :: indices := by
          rw [← barred, List.takeWhile_append_dropWhile]
        split at h
        · cases h
        next low lowRead =>
          obtain ⟨lowRun, lowFits, rfl⟩ := readIndex_eq_some_iff.1 lowRead
          have indicesSplit :=
            (List.takeWhile_append_dropWhile (p := isAsciiDigit) (l := indices)).symm
          split at h
          next single =>
            cases h
            rw [single, List.append_nil] at indicesSplit
            rw [afterSplit, indicesSplit] at read
            have text : key.lossy.toList =
                bindingKeyText (after.takeWhile isAsciiDigit) (indices.takeWhile isAsciiDigit) := by
              rw [read, bindingKeyText, List.append_assoc]
            rw [eq_of_lossy_bindingKeyText text (ascii_of_digitRun (portRun hasPort))
              (ascii_of_digitRun lowRun)]
            exact Written.single (portRun hasPort) lowRun lowFits
          next highDigits dashed =>
            split at h
            next high highRead =>
              obtain ⟨highRun, highFits, rfl⟩ := readIndex_eq_some_iff.1 highRead
              split at h
              · cases h
              next ascending =>
                cases h
                have ordered :
                    decimalValue (indices.takeWhile isAsciiDigit) ≤ decimalValue highDigits := by
                  rw [Int64.lt_iff_toInt_lt, Int64.toInt_ofNat_of_lt highFits,
                    Int64.toInt_ofNat_of_lt lowFits] at ascending
                  omega
                rw [dashed] at indicesSplit
                rw [afterSplit, indicesSplit] at read
                have text : key.lossy.toList = bindingKeyText (after.takeWhile isAsciiDigit)
                    (indices.takeWhile isAsciiDigit ++ '-' :: highDigits) := by
                  rw [read, bindingKeyText, List.append_assoc]
                rw [eq_of_lossy_bindingKeyText text (ascii_of_digitRun (portRun hasPort))
                  (ascii_dashed lowRun highRun)]
                exact Written.range (portRun hasPort) lowRun highRun ordered highFits
            next => cases h
          next => cases h
    next => cases h
  next => cases h

/-- The reader accepts exactly the keys of the grammar, each as the range it denotes. -/
theorem BindingRange.parse?_eq_some_iff {key : Bytes} {r : BindingRange} :
    parse? key = some r ↔ Written key r :=
  ⟨written_of_parse?, parse?_of_written⟩

/-! ## The width of a range -/

/-- The indices of a range read from a key are not negative and not descending. -/
theorem BindingRange.Written.bounds {key : Bytes} {r : BindingRange} (h : Written key r) :
    0 ≤ r.low.toInt ∧ r.low.toInt ≤ r.high.toInt := by
  cases h with
  | single _ _ fits =>
    rw [Int64.toInt_ofNat_of_lt fits]
    omega
  | range _ _ _ ascending fits =>
    rw [Int64.toInt_ofNat_of_lt fits, Int64.toInt_ofNat_of_lt (Nat.lt_of_le_of_lt ascending fits)]
    omega

/-- The width of a range read from a key, computed in words: the number of its indices
`high - low + 1` when that is below `2^63`, and `-2^63` for the one range of `2^63` indices. -/
theorem BindingRange.toInt_width {key : Bytes} {r : BindingRange} (h : Written key r) :
    r.width.toInt = if r.high.toInt - r.low.toInt + 1 < 2 ^ 63
      then r.high.toInt - r.low.toInt + 1 else -2 ^ 63 := by
  obtain ⟨nonneg, ascending⟩ := h.bounds
  have below := Int64.toInt_lt r.high
  have difference : (r.high - r.low).toInt = r.high.toInt - r.low.toInt := by
    rw [Int64.toInt_sub, Int.bmod_eq_of_le] <;> omega
  rw [width, Int64.toInt_add, difference, Int64.toInt_one, Int.bmod_def]
  split <;> split <;> omega

/-- A range read from a key covers at least one index, and its word width is that count
exactly unless the range is `0-9223372036854775807`, of `2^63` indices. -/
theorem BindingRange.width_exact_iff {key : Bytes} {r : BindingRange} (h : Written key r) :
    1 ≤ r.high.toInt - r.low.toInt + 1 ∧
      (r.width.toInt = r.high.toInt - r.low.toInt + 1 ↔
        ¬ (r.low = 0 ∧ r.high = 9223372036854775807)) := by
  obtain ⟨nonneg, ascending⟩ := h.bounds
  have below := Int64.toInt_lt r.high
  have zero : r.low = 0 ↔ r.low.toInt = 0 := by
    rw [← Int64.toInt_inj]
    rfl
  have top : r.high = 9223372036854775807 ↔ r.high.toInt = 9223372036854775807 := by
    rw [← Int64.toInt_inj]
    rfl
  refine ⟨by omega, ?_⟩
  rw [toInt_width h, zero, top]
  split <;> omega

end LosslessBuffer
