import LosslessBuffer.Yaml.Value
import LosslessBuffer.Text.Category
/-!
# The order of map keys when written

Keys of a map are written in a natural order (`Value.keyLess`):

* numbers and booleans (true as one, false as zero) come by value; equal values by kind
  (booleans, signed integers, unsigned integers, doubles), then by value within the kind;
* two texts compare character by character: at the first difference two letters go by
  code point, a letter after a digit run comes after a digit and otherwise before
  anything that is not a letter, and two runs of digits go by their number, then by
  their length; a text that is a prefix of the other comes first; a byte that starts no
  UTF-8 character is read as U+FFFD;
* values of different kinds otherwise go by kind: booleans, signed integers, unsigned
  integers, doubles, null, maps, lists, texts, timestamps.

A number of digits accumulates in a signed 64-bit word, each digit adding its distance
from `0`, and a run that follows other nonzero digits of the same number starts from one,
so that `a01` and `a1` differ only by length. A NaN is neither before nor after any
number.
-/

set_option autoImplicit false

namespace LosslessBuffer.Yaml

open LosslessBuffer.Text

namespace Value

/-- The rank of a value's kind among kinds. -/
def kindRank : Value → Nat
  | .bool _ => 1
  | .int _ => 2
  | .uint _ => 11
  | .float _ => 14
  | .null => 20
  | .map _ _ => 21
  | .list _ => 23
  | .string _ => 24
  | .time _ => 25

/-- The value of a number or boolean as a double. -/
def numeric? : Value → Option Float
  | .bool b => some (if b then 1 else 0)
  | .int i => some (Float.ofInt i)
  | .uint n => some (Float.ofNat n)
  | .float f => some f
  | _ => none

/-- Order within one numeric kind. -/
def numberLess : Value → Value → Bool
  | .bool a, .bool b => !a && b
  | .int a, .int b => a < b
  | .uint a, .uint b => a < b
  | .float a, .float b => a < b
  | _, _ => false

/-- The number of a run of digits, and the run's length. -/
def digitRun (start : Int64) : List Char → Int64 × Nat
  | [] => (start, 0)
  | c :: rest =>
    if isDecimalDigit c then
      let (value, length) := digitRun (start * 10 + Int64.ofNat (c.toNat - '0'.toNat)) rest
      (value, length + 1)
    else (start, 0)

/-- Text order on the rest of two texts after a common part, `before` being that part in
reverse and `digits` whether its last character is a digit. -/
def textLessAfter (before : List Char) (digits : Bool) : List Char → List Char → Bool
  | [], [] => false
  | [], _ :: _ => true
  | _ :: _, [] => false
  | x :: xs, y :: ys =>
    if x = y then textLessAfter (x :: before) (isDecimalDigit x) xs ys
    else
      let xLetter := isLetter x
      let yLetter := isLetter y
      if xLetter && yLetter then x < y
      else if xLetter || yLetter then (if digits then xLetter else yLetter)
      else
        let start : Int64 :=
          if (x = '0' || y = '0') && (before.takeWhile isDecimalDigit).any (· ≠ '0') then 1
          else 0
        let (xValue, xLength) := digitRun start (x :: xs)
        let (yValue, yLength) := digitRun start (y :: ys)
        if xValue != yValue then xValue < yValue
        else if xLength != yLength then xLength < yLength
        else x < y

/-- Text order of keys. -/
def textLess (a b : String) : Bool :=
  textLessAfter [] false a.toList b.toList

/-- The order of map keys when written. -/
def keyLess (a b : Value) : Bool :=
  match a.numeric?, b.numeric? with
  | some x, some y =>
    if x != y then x < y
    else if a.kindRank != b.kindRank then a.kindRank < b.kindRank
    else numberLess a b
  | _, _ =>
    match a, b with
    | .string s, .string t => textLess s.lossy t.lossy
    | _, _ => a.kindRank < b.kindRank

end Value

end LosslessBuffer.Yaml
