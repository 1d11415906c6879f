/-!
# Timestamps

A timestamp is a date and time of day in the proleptic Gregorian calendar, with
nanoseconds and the offset of its zone from UTC.

`Timestamp.parse?` accepts the YAML timestamp shapes: a date `YYYY-M-D` alone, or
followed by `T`, `t` or spaces and a time `H:M:S` with an optional fraction and, after
`T` or `t`, a zone (`Z` or `±hh:mm`). Month, day, hour, minute and second take one or two
digits and must be in range for the date; a fraction keeps its first nine digits.

`Timestamp.rfc3339` writes the instant with two-digit fields, the fraction without
trailing zeros, and `Z` for a zero offset; `Timestamp.toUtc` moves it to offset zero.

Besides its offset a timestamp knows where its zone came from (`Zone`), which decides
when two timestamps are one map key (`Timestamp.sameKey`): the same instant in the same
zone. UTC is one zone and the machine's zone another; a fixed offset of whole hours from
-12 to +14 is one zone per offset, and any other fixed offset is a zone of its own each
time it is read, so such timestamps are never the same key. The machine's zone is UTC:
a zero offset written in digits names it.
-/

set_option autoImplicit false

namespace LosslessBuffer.Calendar

/-- Where the zone of a timestamp came from. -/
inductive Zone where
  /-- UTC: written `Z`, or no zone given. -/
  | utc
  /-- The machine's zone, UTC: a zero offset written in digits. -/
  | machine
  /-- A fixed offset written in digits. -/
  | fixed
  deriving Repr, DecidableEq, Inhabited

/-- Whether fixed zones of an offset are one zone: whole hours from -12 to +14. -/
def sharedOffset (offset : Int) : Bool :=
  offset % 3600 == 0 && -43200 ≤ offset && offset ≤ 50400

/-- A date and time with nanoseconds, and the zone's offset from UTC in seconds. -/
structure Timestamp where
  year : Int
  month : Nat
  day : Nat
  hour : Nat := 0
  minute : Nat := 0
  second : Nat := 0
  nanos : Nat := 0
  /-- Offset of the zone from UTC, in seconds. -/
  offset : Int := 0
  zone : Zone := .utc
  deriving Repr, DecidableEq, Inhabited

/-- Whether a year is a leap year. -/
def isLeapYear (year : Int) : Bool :=
  year % 4 == 0 && (year % 100 != 0 || year % 400 == 0)

/-- The number of days in a month of a year. -/
def daysInMonth (year : Int) (month : Nat) : Nat :=
  match month with
  | 2 => if isLeapYear year then 29 else 28
  | 4 | 6 | 9 | 11 => 30
  | _ => 31

/-- Days from 1970-01-01 to a date. -/
def daysFromCivil (year : Int) (month day : Nat) : Int :=
  let y := if month ≤ 2 then year - 1 else year
  let era := (if y ≥ 0 then y else y - 399) / 400
  let yoe := y - era * 400
  let m : Int := month
  let doy := (153 * (if m > 2 then m - 3 else m + 9) + 2) / 5 + (day : Int) - 1
  let doe := yoe * 365 + yoe / 4 - yoe / 100 + doy
  era * 146097 + doe - 719468

/-- The date of a day counted from 1970-01-01. -/
def civilFromDays (days : Int) : Int × Nat × Nat :=
  let z := days + 719468
  let era := (if z ≥ 0 then z else z - 146096) / 146097
  let doe := z - era * 146097
  let yoe := (doe - doe / 1460 + doe / 36524 - doe / 146096) / 365
  let y := yoe + era * 400
  let doy := doe - (365 * yoe + yoe / 4 - yoe / 100)
  let mp := (5 * doy + 2) / 153
  let d := doy - (153 * mp + 2) / 5 + 1
  let m := if mp < 10 then mp + 3 else mp - 9
  ((if m ≤ 2 then y + 1 else y), m.toNat, d.toNat)

/-- Whole seconds from 1970-01-01T00:00:00Z to the instant. -/
def Timestamp.unixSeconds (t : Timestamp) : Int :=
  (daysFromCivil t.year t.month t.day) * 86400 +
    (t.hour * 3600 + t.minute * 60 + t.second : Nat) - t.offset

/-- The same instant at offset zero. -/
def Timestamp.toUtc (t : Timestamp) : Timestamp :=
  let seconds := t.unixSeconds
  let days := seconds / 86400
  let rest := (seconds % 86400).toNat
  let (year, month, day) := civilFromDays days
  { year, month, day, hour := rest / 3600, minute := rest / 60 % 60, second := rest % 60,
    nanos := t.nanos, offset := 0, zone := .utc }

/-- Whether two timestamps are one map key: the same instant in the same zone. -/
def Timestamp.sameKey (a b : Timestamp) : Bool :=
  a.toUtc == b.toUtc &&
    match a.zone, b.zone with
    | .utc, .utc | .machine, .machine => true
    | .fixed, .fixed => a.offset == b.offset && sharedOffset a.offset
    | _, _ => false

/-- A number written with at least `width` digits. -/
def padded (width : Nat) (n : Nat) : String :=
  let digits := Nat.toDigits 10 n
  String.ofList (List.replicate (width - digits.length) '0' ++ digits)

/-- The timestamp in RFC 3339 form with nanoseconds. -/
def Timestamp.rfc3339 (t : Timestamp) : String :=
  let year := if t.year < 0 then "-" ++ padded 4 t.year.natAbs else padded 4 t.year.toNat
  let date := year ++ "-" ++ padded 2 t.month ++ "-" ++ padded 2 t.day
  let time := padded 2 t.hour ++ ":" ++ padded 2 t.minute ++ ":" ++ padded 2 t.second
  let fraction :=
    if t.nanos = 0 then ""
    else "." ++ String.ofList ((padded 9 t.nanos).toList.reverse.dropWhile (· = '0')).reverse
  let zone :=
    if t.offset = 0 then "Z"
    else
      let magnitude := t.offset.natAbs / 60
      (if t.offset < 0 then "-" else "+") ++ padded 2 (magnitude / 60) ++ ":" ++
        padded 2 (magnitude % 60)
  date ++ "T" ++ time ++ fraction ++ zone

/-! ## Reading -/

/-- Whether a character is an ASCII digit. -/
def isDigit (c : Char) : Bool := '0' ≤ c && c ≤ '9'

/-- The value of an ASCII digit. -/
def digitOf (c : Char) : Nat := c.toNat - '0'.toNat

/-- One or two digits. -/
def number12 : List Char → Option (Nat × List Char)
  | a :: b :: rest =>
    if isDigit a then (if isDigit b then some (digitOf a * 10 + digitOf b, rest)
      else some (digitOf a, b :: rest)) else none
  | [a] => if isDigit a then some (digitOf a, []) else none
  | [] => none

/-- An expected character. -/
def expect (c : Char) : List Char → Option (List Char)
  | d :: rest => if c = d then some rest else none
  | [] => none

/-- A fraction of a second after `.` or `,`: its first nine digits as nanoseconds. -/
def fractionOf (text : List Char) : Nat × List Char :=
  match text with
  | p :: d :: rest =>
    if (p = '.' ∨ p = ',') ∧ isDigit d then
      let digits := (d :: rest).takeWhile isDigit
      let after := (d :: rest).dropWhile isDigit
      let nine := (digits.take 9 ++ List.replicate (9 - min 9 digits.length) '0')
      (nine.foldl (fun acc c => acc * 10 + digitOf c) 0, after)
    else (0, text)
  | _ => (0, text)

/-- A zone `Z` or `±hh:mm`, as an offset in seconds and where it came from. -/
def zoneOf : List Char → Option ((Int × Zone) × List Char)
  | 'Z' :: rest => some ((0, .utc), rest)
  | s :: h1 :: h2 :: ':' :: m1 :: m2 :: rest =>
    if (s = '+' ∨ s = '-') ∧ isDigit h1 ∧ isDigit h2 ∧ isDigit m1 ∧ isDigit m2 then
      let hours := digitOf h1 * 10 + digitOf h2
      let minutes := digitOf m1 * 10 + digitOf m2
      if hours > 24 ∨ minutes > 60 then none
      else
        let magnitude : Int := (hours * 60 + minutes) * 60
        let offset := if s = '-' then -magnitude else magnitude
        some ((offset, if offset = 0 then .machine else .fixed), rest)
    else none
  | _ => none

/-- The separator between date and time, and whether a zone follows the time. -/
def separatorOf : List Char → Option (Bool × List Char)
  | 'T' :: rest => some (true, rest)
  | 't' :: rest => some (true, rest)
  | ' ' :: rest => some (false, rest.dropWhile (· = ' '))
  | _ => none

/-- Reads a timestamp in one of the YAML shapes. -/
def Timestamp.parse? (text : String) : Option Timestamp := do
  let chars := text.toList
  let yearDigits := chars.take 4
  if !(yearDigits.length = 4 ∧ yearDigits.all isDigit) then none
  let rest ← expect '-' (chars.drop 4)
  let (month, rest) ← number12 rest
  let rest ← expect '-' rest
  let (day, rest) ← number12 rest
  let year : Int := yearDigits.foldl (fun acc c => acc * 10 + digitOf c) 0
  let date : Timestamp := { year, month, day }
  let stamp ← if rest = [] then some date
    else do
      let (zoned, rest) ← separatorOf rest
      let (hour, rest) ← number12 rest
      let rest ← expect ':' rest
      let (minute, rest) ← number12 rest
      let rest ← expect ':' rest
      let (second, rest) ← number12 rest
      let (nanos, rest) := fractionOf rest
      let ((offset, zone), rest) ← if zoned then zoneOf rest else some ((0, .utc), rest)
      if rest ≠ [] then none
      if hour ≥ 24 ∨ minute ≥ 60 ∨ second ≥ 60 then none
      some { date with hour, minute, second, nanos, offset, zone }
  if stamp.month < 1 ∨ stamp.month > 12 then none
  if stamp.day < 1 ∨ stamp.day > daysInMonth stamp.year stamp.month then none
  some stamp

end LosslessBuffer.Calendar
