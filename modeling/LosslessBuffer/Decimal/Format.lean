import LosslessBuffer.Decimal.Shortest
/-!
# Decimal text of a double

Two layouts of the shortest digits (`shortestDigits`):

* the general layout writes `d.ddde±XX` when the decimal exponent is below -4 or at
  least 6, and positional digits otherwise (`1e+20`, `1000`, `1.5`, `1e-05`);
* the positional layout always writes positional digits (`100000000000000000000`).

Both write `NaN`, `+Inf` and `-Inf` for the special values and keep the sign of a
negative zero.
-/

set_option autoImplicit false

namespace LosslessBuffer.Decimal

/-- The decimal digits of a natural number, most significant first (`[]` for zero). -/
def digitList (n : Nat) : List Char :=
  if n = 0 then [] else (Nat.toDigits 10 n)

/-- The digits of `d` placed with the decimal point after `point` of them (which may be
negative or beyond the digits), with `places` digits after the point. -/
def positional (digits : List Char) (point : Int) (places : Nat) : List Char :=
  let at_ (i : Int) : Char :=
    if i < 0 then '0' else (digits[i.toNat]?).getD '0'
  let whole : List Char :=
    if point ≤ 0 then ['0'] else (List.range point.toNat).map fun (i : Nat) => at_ (i : Int)
  let fraction : List Char := (List.range places).map fun (i : Nat) => at_ (point + (i : Int))
  if places = 0 then whole else whole ++ '.' :: fraction

/-- The exponent suffix `e+06`, `e-05`, `e+100`: a sign and at least two digits. -/
def exponentSuffix (exponent : Int) : List Char :=
  let sign := if exponent < 0 then '-' else '+'
  let magnitude := Nat.toDigits 10 exponent.natAbs
  let padded := if magnitude.length < 2 then '0' :: magnitude else magnitude
  'e' :: sign :: padded

/-- Text for the special values, or `none` for a finite double. -/
def specialText (x : Float) : Option String :=
  if x.isNaN then some "NaN"
  else if x.isInf then some (if x > 0 then "+Inf" else "-Inf")
  else none

/-- Whether the sign bit of a double is set (true also of negative zero). -/
def signBit (x : Float) : Bool :=
  x.toBits.toNat ≥ Nat.pow 2 63

/-- The digits and the position of the decimal point (the count of digits before it) of
the magnitude of a finite double; zero has no digits. -/
def pointed (x : Float) : List Char × Int :=
  let magnitude := if signBit x then -x else x
  if magnitude == 0 then ([], 0)
  else
    let d := shortestDigits magnitude
    let digits := digitList d.digits
    (digits, (digits.length : Int) + d.exponent)

/-- The general layout of a double with the shortest digits. -/
def generalText (x : Float) : String :=
  match specialText x with
  | some text => text
  | none =>
    let (digits, point) := pointed x
    let sign := if signBit x then "-" else ""
    let exponent := point - 1
    let body : List Char :=
      if digits ≠ [] ∧ (exponent < -4 ∨ exponent ≥ 6) then
        match digits with
        | first :: rest =>
          (if rest = [] then [first] else first :: '.' :: rest) ++ exponentSuffix exponent
        | [] => ['0']
      else
        positional digits point (((digits.length : Int) - point).toNat)
    sign ++ String.ofList body

/-- The positional layout of a double with the shortest digits. -/
def fixedText (x : Float) : String :=
  match specialText x with
  | some text => text
  | none =>
    let (digits, point) := pointed x
    let sign := if signBit x then "-" else ""
    sign ++ String.ofList (positional digits point (((digits.length : Int) - point).toNat))

end LosslessBuffer.Decimal
