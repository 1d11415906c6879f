/-!
# Integers written in text

Reading a whole number from its digits, left to right. A character that is not a digit
of the base is a syntax problem, and so is an empty text; a value that grows beyond
2^64 - 1 is a range problem. Whichever of the two shows first decides.

`readInt64` reads an optionally signed decimal number into the 64-bit range;
`readIntLiteral` and `readNatLiteral` also take a base prefix (`0x`, `0o`, `0b`, or a
leading `0` for octal).
-/

set_option autoImplicit false

namespace LosslessBuffer.Text

/-- Why text is not a number of the wanted kind. -/
inductive IntegerProblem where
  | malformed
  | range
  deriving DecidableEq, Repr

/-- The phrase that names the problem. -/
def IntegerProblem.phrase : IntegerProblem → String
  | .malformed => "invalid syntax"
  | .range => "value out of range"

/-- The largest value of an unsigned 64-bit word. -/
def wordLimit : Nat := Nat.pow 2 64 - 1

/-- The value of a character as a digit of any base up to 36, if it is one. -/
def digitValue (c : Char) : Option Nat :=
  if '0' ≤ c ∧ c ≤ '9' then some (c.toNat - '0'.toNat)
  else if 'a' ≤ c ∧ c ≤ 'z' then some (c.toNat - 'a'.toNat + 10)
  else if 'A' ≤ c ∧ c ≤ 'Z' then some (c.toNat - 'A'.toNat + 10)
  else none

/-- Accumulates digits of `base` onto `acc`, failing at the first non-digit or at the
first digit that takes the value past `wordLimit`. -/
def readDigitsFrom (base : Nat) (acc : Nat) : List Char → Except IntegerProblem Nat
  | [] => .ok acc
  | c :: rest =>
    match digitValue c with
    | some d =>
      if d < base then
        if acc * base + d > wordLimit then .error .range
        else readDigitsFrom base (acc * base + d) rest
      else .error .malformed
    | none => .error .malformed

/-- The value of a nonempty run of digits of `base` that fits in 64 bits. -/
def readDigits (base : Nat) (digits : List Char) : Except IntegerProblem Nat :=
  if digits = [] then .error .malformed else readDigitsFrom base 0 digits

/-- Splits off a base prefix: `0b`, `0o` or `0x` (either case) when more follows,
otherwise a lone leading `0` means octal; without a leading `0` the base is ten. -/
def splitBase : List Char → Nat × List Char
  | '0' :: p :: c :: rest =>
    if p = 'b' ∨ p = 'B' then (2, c :: rest)
    else if p = 'o' ∨ p = 'O' then (8, c :: rest)
    else if p = 'x' ∨ p = 'X' then (16, c :: rest)
    else (8, p :: c :: rest)
  | '0' :: rest => (8, rest)
  | other => (10, other)

/-- An unsigned whole number with an optional base prefix, at most 2^64 - 1. A lone `0`
is zero. -/
def readNatLiteral (text : List Char) : Except IntegerProblem Nat :=
  if text = [] then .error .malformed
  else
    let (base, digits) := splitBase text
    if base = 8 ∧ digits = [] then .ok 0 else readDigits base digits

/-- Applies an optional sign to a magnitude read by `read`, within the signed 64-bit
range [-2^63, 2^63 - 1]. -/
def readSigned (read : List Char → Except IntegerProblem Nat) (text : List Char) :
    Except IntegerProblem Int :=
  if text = [] then .error .malformed
  else
    let (negative, body) :=
      match text with
      | '-' :: rest => (true, rest)
      | '+' :: rest => (false, rest)
      | other => (false, other)
    match read body with
    | .error .malformed => .error .malformed
    | .error .range => .error .range
    | .ok magnitude =>
      if negative then
        if magnitude > Nat.pow 2 63 then .error .range else .ok (-(magnitude : Int))
      else if magnitude ≥ Nat.pow 2 63 then .error .range else .ok magnitude

/-- A signed whole number with an optional base prefix, in the signed 64-bit range. -/
def readIntLiteral (text : List Char) : Except IntegerProblem Int :=
  readSigned readNatLiteral text

/-- A signed decimal whole number in the signed 64-bit range. -/
def readInt64 (text : String) : Except IntegerProblem Int64 :=
  (readSigned (readDigits 10) text.toList).map Int64.ofInt

end LosslessBuffer.Text
