import LosslessBuffer.Text.Integer
import LosslessBuffer.Text.Bytes
/-!
# Binding keys

A queue or priority-group binding is keyed by a port and an index range:
`Ethernet12|3` covers index 3 of port `Ethernet12`, and `Ethernet12|3-4` covers 3 and 4.
`BindingRange.parse?` accepts exactly the keys `Ethernet<digits>|<lo>` and
`Ethernet<digits>|<lo>-<hi>` with ASCII digits, both indices within the signed 64-bit
range and `lo ≤ hi`; a key with a byte that starts no UTF-8 character has neither
shape. The width of a range, `hi - lo + 1`, is computed in 64-bit words.
-/

set_option autoImplicit false

namespace LosslessBuffer

/-- A port and an inclusive range of queue or priority-group indices. -/
structure BindingRange where
  port : String
  low : Int64
  high : Int64
  deriving Repr, DecidableEq

/-- Whether a character is an ASCII digit. -/
def isAsciiDigit (c : Char) : Bool := '0' ≤ c && c ≤ '9'

/-- A nonempty run of ASCII digits as a value in the signed 64-bit range. -/
def readIndex (digits : List Char) : Option Int64 :=
  if digits ≠ [] ∧ digits.all isAsciiDigit then
    match Text.readInt64 (String.ofList digits) with
    | .ok v => some v
    | .error _ => none
  else none

/-- The port, low and high index of a binding key, if it has one of the two shapes. -/
def BindingRange.parse? (key : Text.Bytes) : Option BindingRange :=
  let chars := key.lossy.toList
  let prefixText := "Ethernet".toList
  if chars.take prefixText.length = prefixText then
    let afterPrefix := chars.drop prefixText.length
    let portDigits := afterPrefix.takeWhile isAsciiDigit
    match afterPrefix.dropWhile isAsciiDigit with
    | '|' :: indices =>
      if portDigits = [] then none
      else
        let port := String.ofList (prefixText ++ portDigits)
        let lowDigits := indices.takeWhile isAsciiDigit
        let afterLow := indices.dropWhile isAsciiDigit
        match readIndex lowDigits with
        | none => none
        | some low =>
          match afterLow with
          | [] => some ⟨port, low, low⟩
          | '-' :: highDigits =>
            match readIndex highDigits with
            | some high => if high < low then none else some ⟨port, low, high⟩
            | none => none
          | _ => none
    | _ => none
  else none

/-- The number of indices covered, `high - low + 1`, in 64-bit words. -/
def BindingRange.width (r : BindingRange) : Int64 :=
  r.high - r.low + 1

end LosslessBuffer
