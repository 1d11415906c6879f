import LosslessBuffer.Toml.Token
import LosslessBuffer.Calendar.Timestamp
/-!
# TOML date-times

A TOML date-time is of one of four kinds (`MomentKind`), which its characters show: a
date and a time with a zone, a date and a time, a date alone, or a time alone.
`Moment.read` reads the written text as the kind it showed:

* a date is `YYYY-MM-DD`, exactly ten characters, naming a day of the calendar;
* a time is `HH:MM:SS`, hours up to 23, minutes up to 59 and seconds up to 60, with an
  optional fraction of at least one digit, of which the first nine count;
* a date and a time stand on either side of `T`, `t` or a space;
* a zone is `Z`, `z` or `±hh:mm`, hours up to 23 and minutes up to 59.

Each broken rule has a message of its own, and the rules are checked in the order the
text is read, so the first problem met is the one reported.

A date-time with a zone is an instant (`Moment.offset`), its fields brought into range:
a sixtieth second is the first second of the next minute. The other kinds are kept as
read and written back in one canonical form (`Moment.text`): `T` between date and time,
and a fraction with as many digits as were written, up to nine.
-/

set_option autoImplicit false

namespace LosslessBuffer.Toml

open LosslessBuffer.Calendar

/-- A day of the calendar. -/
structure Day where
  year : Nat
  month : Nat
  day : Nat
  deriving Repr, DecidableEq, Inhabited

/-- A time of day as read: `precision` digits of the fraction were written and kept,
at most nine, and `nanos` is the fraction in nanoseconds. -/
structure Clock where
  hour : Nat
  minute : Nat
  /-- The second, 0 to 60. -/
  second : Nat
  nanos : Nat := 0
  /-- How many digits of the fraction were kept. -/
  precision : Nat := 0
  deriving Repr, DecidableEq, Inhabited

/-- A date-time value. -/
inductive Moment where
  /-- An instant: a date and a time with a zone. -/
  | offset (stamp : Timestamp)
  | localDateTime (date : Day) (clock : Clock)
  | localDate (date : Day)
  | localTime (clock : Clock)
  deriving Repr, Inhabited

/-! ## Reading -/

/-- The number that a run of decimal digits writes; any other character is refused. -/
def decimalDigits (cs : List Char) : Except String Nat :=
  cs.foldlM (fun acc c =>
    if c.isDigit then .ok (acc * 10 + (c.toNat - '0'.toNat)) else .error "expected digit (0-9)") 0

/-- Reads a date: exactly ten characters `YYYY-MM-DD` that name a day of the calendar. -/
def Day.read (cs : List Char) : Except String Day := do
  if cs.length != 10 || cs[4]? != some '-' || cs[7]? != some '-' then
    throw "dates are expected to have the format YYYY-MM-DD"
  let year ← decimalDigits (cs.take 4)
  let month ← decimalDigits ((cs.drop 5).take 2)
  let day ← decimalDigits ((cs.drop 8).take 2)
  if month = 0 || month > 12 || day = 0 || day > daysInMonth year month then
    throw "impossible date"
  return { year, month, day }

/-- Reads a fraction of a second after its point: at least one digit, the first nine
kept; gives the clock with it and the text after the digits. -/
def Clock.withFraction (clock : Clock) (cs : List Char) : Except String (Clock × List Char) := do
  let digits := cs.takeWhile Char.isDigit
  if digits.isEmpty then
    throw (if cs.isEmpty then "nanoseconds need at least one digit"
      else "need at least one digit after fraction point")
  let kept := digits.take 9
  let value := kept.foldl (fun acc c => acc * 10 + (c.toNat - '0'.toNat)) 0
  return ({ clock with nanos := value * Nat.pow 10 (9 - kept.length), precision := kept.length },
    cs.drop digits.length)

/-- Reads a time `HH:MM:SS` with an optional fraction, giving the clock and the text
after it. -/
def Clock.read (cs : List Char) : Except String (Clock × List Char) := do
  if cs.length < 8 then throw "times are expected to have the format HH:MM:SS[.NNNNNN]"
  let hour ← decimalDigits (cs.take 2)
  if hour > 23 then throw "hour cannot be greater 23"
  if cs[2]? != some ':' then throw "expecting colon between hours and minutes"
  let minute ← decimalDigits ((cs.drop 3).take 2)
  if minute > 59 then throw "minutes cannot be greater 59"
  if cs[5]? != some ':' then throw "expecting colon between minutes and seconds"
  let second ← decimalDigits ((cs.drop 6).take 2)
  if second > 60 then throw "seconds cannot be greater 60"
  match cs.drop 8 with
  | '.' :: fraction => Clock.withFraction { hour, minute, second } fraction
  | rest => return ({ hour, minute, second }, rest)

/-- Reads a date and a time on either side of `T`, `t` or a space, giving them and the
text after the time. -/
def readDateAndClock (cs : List Char) : Except String (Day × Clock × List Char) := do
  if cs.length < 11 then
    throw "local datetimes are expected to have the format YYYY-MM-DDTHH:MM:SS[.NNNNNNNNN]"
  let date ← Day.read (cs.take 10)
  let separator := cs[10]?
  if separator != some 'T' && separator != some ' ' && separator != some 't' then
    throw "datetime separator is expected to be T or a space"
  let (clock, rest) ← Clock.read (cs.drop 11)
  return (date, clock, rest)

/-- Reads the zone that ends a date-time: `Z`, `z`, or `±hh:mm`, as an offset in
seconds. -/
def readZone (cs : List Char) : Except String Int := do
  match cs with
  | [] => throw "invalid date-time timezone"
  | c :: rest =>
    if c = 'Z' || c = 'z' then
      if rest.isEmpty then return 0 else throw "extra bytes at the end of the timezone"
    else
      if cs.length != 6 then throw "invalid date-time timezone"
      let sign : Int ←
        if c = '-' then pure (-1) else if c = '+' then pure 1
        else throw "invalid timezone offset character"
      if cs[3]? != some ':' then throw "expected a : separator"
      let hours ← decimalDigits ((cs.drop 1).take 2)
      if hours > 23 then throw "invalid timezone offset hours"
      let minutes ← decimalDigits ((cs.drop 4).take 2)
      if minutes > 59 then throw "invalid timezone offset minutes"
      return sign * ((hours * 3600 + minutes * 60 : Nat) : Int)

/-- The same instant with its fields in range: a second of 60 is carried into the next
minute. -/
def Timestamp.normalized (t : Timestamp) : Timestamp :=
  { ({ t with offset := 0 } : Timestamp).toUtc with offset := t.offset, zone := t.zone }

/-- Reads a date-time as the kind its characters showed. -/
def Moment.read (kind : MomentKind) (text : String) : Except String Moment := do
  let cs := text.toList
  match kind with
  | .localDate => return .localDate (← Day.read cs)
  | .localTime =>
    let (clock, rest) ← Clock.read cs
    if !rest.isEmpty then throw "extra characters at the end of a local time"
    return .localTime clock
  | .localDateTime =>
    let (date, clock, rest) ← readDateAndClock cs
    if !rest.isEmpty then throw "extra characters at the end of a local date time"
    return .localDateTime date clock
  | .offsetDateTime =>
    let (date, clock, rest) ← readDateAndClock cs
    let offset ← readZone rest
    return .offset (Timestamp.normalized
      { year := date.year, month := date.month, day := date.day, hour := clock.hour,
        minute := clock.minute, second := clock.second, nanos := clock.nanos, offset,
        zone := if offset = 0 then .utc else .fixed })

/-! ## Writing -/

/-- A date as `YYYY-MM-DD`. -/
def Day.text (d : Day) : String :=
  padded 4 d.year ++ "-" ++ padded 2 d.month ++ "-" ++ padded 2 d.day

/-- A time as `HH:MM:SS`, then the kept digits of its fraction. -/
def Clock.text (c : Clock) : String :=
  padded 2 c.hour ++ ":" ++ padded 2 c.minute ++ ":" ++ padded 2 c.second ++
    (if c.precision > 0 then "." ++ String.ofList ((padded 9 c.nanos).toList.take c.precision)
     else "")

end LosslessBuffer.Toml
