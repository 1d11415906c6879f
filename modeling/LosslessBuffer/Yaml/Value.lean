import LosslessBuffer.Calendar.Timestamp
import LosslessBuffer.Decimal.Format
import LosslessBuffer.Text.Bytes

/-!
# Decoded YAML values

A `Value` is what a YAML node becomes when nothing more specific is asked of it: null, a
boolean, an integer, a double, a string, a timestamp, a list, or a map. A string is a
byte string: a `!!binary` scalar gives its decoded bytes, which need not be UTF-8. Integers keep the
width they were read with: `int` holds the signed 64-bit range and `uint` the values from
`2^63` up to `2^64 - 1` that only an unsigned word holds.

A map is a list of entries with pairwise distinct keys (`Value.sameKey`); writing a key
that is already present replaces its value in place (`Value.setEntry`). Two texts of a
value are given here: `Value.keyText`, the plain text of a scalar used where a map key
must become a string, and `Value.literal`, a typed literal used in messages about keys
that cannot be map keys.
-/

set_option autoImplicit false

namespace LosslessBuffer.Yaml

open LosslessBuffer.Calendar
open LosslessBuffer.Decimal
open LosslessBuffer.Text

/-- A decoded YAML value. -/
inductive Value where
  | null
  | bool (value : Bool)
  /-- An integer in the signed 64-bit range. -/
  | int (value : Int)
  /-- An integer in `[2^63, 2^64)`. -/
  | uint (value : Nat)
  | float (value : Float)
  /-- A string, as bytes. -/
  | string (value : Bytes)
  | time (value : Timestamp)
  | list (items : List Value)
  /-- A mapping, keys pairwise distinct; `textKeys` says whether its keys are typed as
  text, which every key written as a string gives. -/
  | map (entries : List (Value × Value)) (textKeys : Bool)
  deriving Inhabited

namespace Value

/-- Whether two values are the same map key: equal scalars of the same kind, doubles
compared as numbers (so a NaN key never matches). -/
def sameKey : Value → Value → Bool
  | .null, .null => true
  | .bool a, .bool b => a == b
  | .int a, .int b => a == b
  | .uint a, .uint b => a == b
  | .float a, .float b => a == b
  | .string a, .string b => a == b
  | .time a, .time b => a.sameKey b
  | _, _ => false

/-- Sets a key in a list of map entries: a present key keeps its place and takes the new
value, a new key goes last. -/
def setEntry (entries : List (Value × Value)) (key value : Value) : List (Value × Value) :=
  if entries.any (fun entry => sameKey entry.1 key) then
    entries.map fun entry => if sameKey entry.1 key then (entry.1, value) else entry
  else entries ++ [(key, value)]

/-- Whether a value is a list or a map. -/
def isCollection : Value → Bool
  | .list _ | .map _ _ => true
  | _ => false

/-- Whether a value is a string. -/
def isString : Value → Bool
  | .string _ => true
  | _ => false

/-- A signed number in decimal. -/
def decimalText (value : Int) : String :=
  if value < 0 then "-" ++ toString value.natAbs else toString value.toNat

/-- The zone of a timestamp as `±hhmm`. -/
def zoneDigits (offset : Int) : String :=
  let magnitude := offset.natAbs / 60
  (if offset < 0 then "-" else "+") ++ padded 2 (magnitude / 60) ++ padded 2 (magnitude % 60)

/-- A timestamp as date, time, numeric zone and zone name; a zone other than UTC has no
name and repeats its numeric form. -/
def timeText (t : Timestamp) : String :=
  let year := if t.year < 0 then "-" ++ padded 4 t.year.natAbs else padded 4 t.year.toNat
  let fraction :=
    if t.nanos = 0 then ""
    else "." ++ String.ofList ((padded 9 t.nanos).toList.reverse.dropWhile (· = '0')).reverse
  year ++ "-" ++ padded 2 t.month ++ "-" ++ padded 2 t.day ++ " " ++ padded 2 t.hour ++ ":" ++
    padded 2 t.minute ++ ":" ++ padded 2 t.second ++ fraction ++ " " ++ zoneDigits t.offset ++
    " " ++ (if t.offset = 0 then "UTC" else zoneDigits t.offset)

/-- The plain text of a scalar: what a map key becomes when keys must be strings. -/
def keyText : Value → Bytes
  | .null => "<nil>"
  | .bool b => if b then "true" else "false"
  | .int i => decimalText i
  | .uint n => toString n
  | .float f => generalText f
  | .string s => s
  | .time t => timeText t
  | .list _ => "[]"
  | .map _ _ => "map[]"

/-- Lower-case hexadecimal digits of a number. -/
def hexText (n : Nat) : String :=
  String.ofList (Nat.toDigits 16 n)

/-- Month names, January first. -/
def monthNames : List String :=
  ["January", "February", "March", "April", "May", "June", "July", "August", "September",
    "October", "November", "December"]

/-- A timestamp as a constructor call. -/
def timeLiteral (t : Timestamp) : String :=
  let zone := match t.zone with
    | .utc => "time.UTC"
    | .machine => "time.Local"
    | .fixed => "time.Location(\"\")"
  "time.Date(" ++ decimalText t.year ++ ", time." ++ monthNames.getD (t.month - 1) "" ++ ", " ++
    toString t.day ++ ", " ++ toString t.hour ++ ", " ++ toString t.minute ++ ", " ++
    toString t.second ++ ", " ++ toString t.nanos ++ ", " ++ zone ++ ")"

/-- The type a map's literal names: keys typed as text give a string-keyed map. -/
def mapTypeName (textKeys : Bool) : String :=
  if textKeys then "map[string]interface \x7b\x7d"
  else "map[interface \x7b\x7d]interface \x7b\x7d"

/-- The rank of a key's kind when the keys of a map are listed in order: kinds by the
names of their types, null first. -/
def typeNameRank : Value → Nat
  | .null => 0
  | .bool _ => 1
  | .float _ => 2
  | .int _ => 3
  | .string _ => 4
  | .time _ => 5
  | .uint _ => 6
  | .list _ => 7
  | .map _ _ => 8

/-- The rank of a timestamp's zone among keys: UTC, then the machine's zone, then fixed
offsets. -/
def zoneRank : Calendar.Zone → Nat
  | .utc => 0
  | .machine => 1
  | .fixed => 2

/-- The order in which the keys of a map are listed: by kind, then by value. False comes
before true, numbers go by size with NaN first, texts by their bytes, and
timestamps by nanoseconds, then instant, then zone. -/
def listingOrder : Value → Value → Ordering
  | .bool a, .bool b => compare a b
  | .int a, .int b => compare a b
  | .uint a, .uint b => compare a b
  | .float a, .float b =>
    if a.isNaN then (if b.isNaN then .eq else .lt)
    else if b.isNaN then .gt
    else if a < b then .lt
    else if b < a then .gt
    else .eq
  | .string a, .string b => compare a b
  | .time a, .time b =>
    (compare a.nanos b.nanos).then ((compare a.unixSeconds b.unixSeconds).then
      ((compare (zoneRank a.zone) (zoneRank b.zone)).then (compare a.offset b.offset)))
  | a, b => compare (typeNameRank a) (typeNameRank b)

/-- A typed literal of a value, as messages about invalid map keys show it. Entries of a
map are listed in `listingOrder` of their keys. -/
def literal : Value → String
  | .null => "interface \x7b\x7d(nil)"
  | .bool b => if b then "true" else "false"
  | .int i => decimalText i
  | .uint n => "0x" ++ hexText n
  | .float f => generalText f
  | .string s => s.quote
  | .time t => timeLiteral t
  | .list items =>
    "[]interface \x7b\x7d\x7b" ++ ", ".intercalate (items.attach.map fun ⟨item, _⟩ => literal item) ++
      "\x7d"
  | .map entries textKeys =>
    let shown := entries.attach.map fun ⟨entry, _⟩ =>
      (entry.1, literal entry.1 ++ ":" ++ literal entry.2)
    let listed := shown.mergeSort fun a b => listingOrder a.1 b.1 != .gt
    mapTypeName textKeys ++ "\x7b" ++ ", ".intercalate (listed.map (·.2)) ++ "\x7d"
termination_by value => sizeOf value
decreasing_by
  all_goals simp_wf
  · have := List.sizeOf_lt_of_mem ‹_ ∈ items›; omega
  · have := List.sizeOf_lt_of_mem ‹_ ∈ entries›; cases entry; simp at this ⊢; omega
  · have := List.sizeOf_lt_of_mem ‹_ ∈ entries›; cases entry; simp at this ⊢; omega

end Value

end LosslessBuffer.Yaml
