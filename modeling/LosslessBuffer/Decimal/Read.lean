import LosslessBuffer.Decimal.Shortest
/-!
# Reading decimal numbers as doubles

`Decimal.toFloat` gives the double nearest to `digits · 10^exponent`, ties going to the
even significand, with subnormal results below 2^-1022 and infinity from 2^1024 up. It
works on exact natural numbers: it finds the binary exponent that puts 53 significant
bits before the binary point and rounds the rest.

`parseFloat` reads decimal text: an optional sign, digits with an optional point (at
least one digit on one side of it), and an optional exponent; an underscore may stand
between two digits. It tells text that is not a number from text whose value is too
large for a double; `readFloat` refuses both alike.
-/

set_option autoImplicit false

namespace LosslessBuffer.Decimal

/-- The double with the given sign, from a significand below 2^53 at binary exponent
`e` (at least -1074); the significand is normalised by the caller. -/
def composeBits (negative : Bool) (significand : Nat) (e : Int) : Float :=
  let sign := if negative then Nat.pow 2 63 else 0
  if significand ≥ Nat.pow 2 52 then
    let biased := e + 1075
    if biased ≥ 2047 then Float.ofBits (UInt64.ofNat (sign + 2047 * Nat.pow 2 52))
    else Float.ofBits (UInt64.ofNat (sign + biased.toNat * Nat.pow 2 52 + (significand - Nat.pow 2 52)))
  else Float.ofBits (UInt64.ofNat (sign + significand))

/-- The largest `e` with `2^e ≤ num / den`, for positive `num` and `den`. -/
def floorLog2 (num den : Nat) : Int :=
  let estimate : Int := (num.log2 : Int) - (den.log2 : Int)
  -- compare num with den · 2^estimate
  let atLeast (e : Int) : Bool :=
    num * Nat.pow 2 (-e).toNat ≥ den * Nat.pow 2 e.toNat
  if atLeast estimate then
    if atLeast (estimate + 1) then estimate + 1 else estimate
  else estimate - 1

/-- The double nearest to `digits · 10^exponent`, negated when asked. -/
def toFloat (negative : Bool) (digits : Nat) (exponent : Int) : Float :=
  if digits = 0 then composeBits negative 0 0
  else
    -- the value as num / den
    let num := digits * Nat.pow 10 exponent.toNat
    let den := Nat.pow 10 (-exponent).toNat
    let top := floorLog2 num den
    -- 53 significant bits: value / 2^e in [2^52, 2^53), but not below 2^-1074
    let e := max (top - 52) (-1074)
    let scaledNum := num * Nat.pow 2 (-e).toNat
    let scaledDen := den * Nat.pow 2 e.toNat
    let q := scaledNum / scaledDen
    let r := scaledNum % scaledDen
    let roundUp := 2 * r > scaledDen ∨ (2 * r = scaledDen ∧ q % 2 = 1)
    let q' := if roundUp then q + 1 else q
    if q' = Nat.pow 2 53 then composeBits negative (Nat.pow 2 52) (e + 1)
    else composeBits negative q' e

/-- Whether the underscores of a number stand only between two digits. -/
def underscoresBetweenDigits (text : List Char) : Bool :=
  let isDigit (c : Char) : Bool := '0' ≤ c && c ≤ '9'
  let rec go (previousDigit : Bool) : List Char → Bool
    | [] => true
    | '_' :: rest =>
      previousDigit && (match rest with
        | c :: _ => isDigit c
        | [] => false) && go false rest
    | c :: rest => go (isDigit c) rest
  go false text

/-- Splits off leading ASCII digits. -/
def spanDigits (text : List Char) : List Char × List Char :=
  (text.takeWhile fun c => '0' ≤ c && c ≤ '9', text.dropWhile fun c => '0' ≤ c && c ≤ '9')

/-- The value of a run of ASCII digits. -/
def digitsValue (digits : List Char) : Nat :=
  digits.foldl (fun acc c => acc * 10 + (c.toNat - '0'.toNat)) 0

/-- Why decimal text gives no double. -/
inductive FloatProblem where
  | malformed
  | tooLarge
  deriving DecidableEq, Repr

/-- Reads decimal text as a double, or says why it has none. A value too small for a
double is zero. -/
def parseFloat (text : String) : Except FloatProblem Float :=
  let chars := text.toList
  if !underscoresBetweenDigits chars then .error .malformed
  else
    let body := chars.filter (· ≠ '_')
    let (negative, rest) := match body with
      | '-' :: r => (true, r)
      | '+' :: r => (false, r)
      | r => (false, r)
    let (whole, afterWhole) := spanDigits rest
    let (fraction, afterFraction) := match afterWhole with
      | '.' :: r => spanDigits r
      | r => ([], r)
    if whole = [] ∧ fraction = [] then .error .malformed
    else
      let exponentPart : Option Int := match afterFraction with
        | [] => some 0
        | e :: r =>
          if e = 'e' ∨ e = 'E' then
            let (expNegative, digitsPart) := match r with
              | '-' :: d => (true, d)
              | '+' :: d => (false, d)
              | d => (false, d)
            let (expDigits, trailing) := spanDigits digitsPart
            if expDigits = [] ∨ trailing ≠ [] then none
            else
              let magnitude : Int := digitsValue expDigits
              some (if expNegative then -magnitude else magnitude)
          else none
      match exponentPart with
      | none => .error .malformed
      | some exponent =>
        let digits := digitsValue (whole ++ fraction)
        -- exponents far beyond the range of doubles decide the result alone
        let scale := exponent - (fraction.length : Int)
        let size : Int := (whole ++ fraction).length
        if digits ≠ 0 ∧ scale + size > 400 then .error .tooLarge
        else if digits = 0 ∨ scale + size < -400 then .ok (composeBits negative 0 0)
        else
          let value := toFloat negative digits scale
          if value.isInf then .error .tooLarge else .ok value

/-- Reads decimal text as a double; none for text that is not a decimal number or whose
value is too large for a double. -/
def readFloat (text : String) : Option Float :=
  (parseFloat text).toOption

end LosslessBuffer.Decimal
