/-!
# Shortest decimal digits of a double

A finite positive double is `m · 2^q` for a whole significand `m` and an exponent `q`.
Every real number in its rounding interval reads back as that double: the interval runs
halfway to each neighbouring double, and its ends belong to it exactly when `m` is even
(reading rounds ties to an even significand).

`Digits.shortest` returns the fewest significant decimal digits `d` and the exponent `k`
such that `d · 10^k` lies in that interval; among the candidates with that many digits
it takes the one nearest to the double, and of two equally near the one with an even
last digit. All comparisons are exact, in natural-number arithmetic.
-/

set_option autoImplicit false

namespace LosslessBuffer.Decimal

/-- A finite positive double as a significand and a binary exponent, with the shape of
its rounding interval. -/
structure Binary where
  /-- The significand; the value is `significand · 2^exponent`. -/
  significand : Nat
  /-- The binary exponent of the last significand bit. -/
  exponent : Int
  /-- The gap to the next smaller double is half the gap to the next larger one. -/
  narrowBelow : Bool
  deriving Repr

/-- The significand, binary exponent and interval shape of a finite positive double,
read from its bits. -/
def Binary.ofFloat (x : Float) : Binary :=
  let bits : Nat := x.toBits.toNat
  let fraction : Nat := bits % Nat.pow 2 52
  let biased : Nat := bits / Nat.pow 2 52 % Nat.pow 2 11
  if biased = 0 then
    { significand := fraction, exponent := -1074, narrowBelow := false }
  else
    { significand := fraction + Nat.pow 2 52
      exponent := (biased : Int) - 1075
      narrowBelow := decide (fraction = 0 ∧ biased > 1) }

/-- Compares `a · 10^k` with `b · 2^j` exactly. -/
def compareScaled (a : Nat) (k : Int) (b : Nat) (j : Int) : Ordering :=
  let left := a * Nat.pow 10 k.toNat * Nat.pow 2 (-j).toNat
  let right := b * Nat.pow 2 j.toNat * Nat.pow 10 (-k).toNat
  compare left right

/-- The exponent `e` with `10^e ≤ m · 2^q < 10^(e+1)`, for `m > 0`. -/
def decimalExponent (m : Nat) (q : Int) : Int :=
  -- an estimate from the bit length, off by at most one either way
  let estimate : Int := ((m.log2 : Int) + q) * 30103 / 100000
  let low := estimate - 2
  -- the largest e among the five around the estimate with 10^e ≤ m · 2^q
  let candidates := (List.range 5).map fun (i : Nat) => low + (i : Int)
  candidates.foldl (fun best e => if compareScaled 1 e m q != .gt then e else best) low

/-- Whether `d · 10^k` lies in the rounding interval of the double. -/
def Binary.admits (b : Binary) (d : Nat) (k : Int) : Bool :=
  let inclusive := b.significand % 2 == 0
  -- upper end: (2m + 1) · 2^(q-1)
  let aboveOk :=
    match compareScaled d k (2 * b.significand + 1) (b.exponent - 1) with
    | .lt => true
    | .eq => inclusive
    | .gt => false
  -- lower end: (2m - 1) · 2^(q-1), or (4m - 1) · 2^(q-2) below a power of two
  let (lowTimes, lowExp) :=
    if b.narrowBelow then (4 * b.significand - 1, b.exponent - 2)
    else (2 * b.significand - 1, b.exponent - 1)
  let belowOk :=
    match compareScaled d k lowTimes lowExp with
    | .gt => true
    | .eq => inclusive
    | .lt => false
  aboveOk && belowOk

/-- Decimal digits with an exponent: the number `digits · 10^exponent`. -/
structure Digits where
  /-- The significant digits as one whole number. -/
  digits : Nat
  /-- The power of ten of the last digit. -/
  exponent : Int
  deriving Repr, DecidableEq

/-- The candidate with `count` significant digits nearest to the double, if it lies in
the rounding interval. -/
def Binary.candidate (b : Binary) (top : Int) (count : Nat) : Option Digits :=
  let k := top - (count : Int) + 1
  -- floor(m · 2^q / 10^k)
  let numerator := b.significand * Nat.pow 2 b.exponent.toNat * Nat.pow 10 (-k).toNat
  let denominator := Nat.pow 2 (-b.exponent).toNat * Nat.pow 10 k.toNat
  let below := numerator / denominator
  let above := below + 1
  let belowIn := b.admits below k
  let aboveIn := b.admits above k
  if belowIn && aboveIn then
    -- nearer of the two: compare 2 · value with (below + above) · 10^k
    match compareScaled (below + above) k (2 * b.significand) b.exponent with
    | .gt => some ⟨below, k⟩
    | .lt => some ⟨above, k⟩
    | .eq => if below % 2 == 0 then some ⟨below, k⟩ else some ⟨above, k⟩
  else if belowIn then some ⟨below, k⟩
  else if aboveIn then some ⟨above, k⟩
  else none

/-- The shortest digits that read back as the double, found by trying 1 to 17 digits. -/
def Binary.shortest (b : Binary) : Digits :=
  let top := decimalExponent b.significand b.exponent
  let tries := (List.range 17).filterMap fun i => b.candidate top (i + 1)
  match tries with
  | first :: _ => first
  | [] => ⟨b.significand, 0⟩

/-- Removes trailing zero digits, raising the exponent to match. -/
def Digits.trim (d : Digits) : Digits :=
  go d.digits d.exponent 20
where
  go (digits : Nat) (exponent : Int) : Nat → Digits
    | 0 => ⟨digits, exponent⟩
    | fuel + 1 =>
      if digits ≠ 0 ∧ digits % 10 = 0 then go (digits / 10) (exponent + 1) fuel
      else ⟨digits, exponent⟩

/-- The shortest decimal form of a finite positive double, without trailing zeros. -/
def shortestDigits (x : Float) : Digits :=
  (Binary.ofFloat x).shortest.trim

end LosslessBuffer.Decimal
