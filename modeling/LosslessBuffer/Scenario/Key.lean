import LosslessBuffer.Fault
import LosslessBuffer.Buffer.BindingKey
/-!
# Scenario keys

A scenario is one row of expected thresholds, keyed by port speed and cable length:
`100000_5m` is 100000 Mb/s over 5 m. `ScenarioKey.parse` accepts exactly one or more
ASCII digits, `_`, one or more ASCII digits and `m`, both numbers at most 2^63 - 1;
leading zeros are allowed, so numerically equal keys may be written differently.

Keys are ordered by speed, then cable length, then the key text (`ScenarioKey.compare`),
a total order. `nearestTo` picks the reference scenario for a target: a numerically
equal key if there is one, else the next larger key, else the largest.
-/

set_option autoImplicit false

namespace LosslessBuffer

/-- A parsed scenario key. -/
structure ScenarioKey where
  /-- Port speed in Mb/s. -/
  speed : Int64
  /-- Cable length in meters. -/
  cableLength : Int64
  raw : String
  deriving Repr, DecidableEq, Inhabited

/-- The speed and cable length of a key, or the fault of an invalid key. -/
def ScenarioKey.parse (s : String) : Except Fault ScenarioKey :=
  let invalid : Except Fault ScenarioKey := .error (.broken .invalidScenarioKey (Text.quote s))
  let chars := s.toList
  let speedDigits := chars.takeWhile isAsciiDigit
  match chars.dropWhile isAsciiDigit with
  | '_' :: rest =>
    let lengthDigits := rest.takeWhile isAsciiDigit
    match rest.dropWhile isAsciiDigit with
    | ['m'] =>
      match readIndex speedDigits, readIndex lengthDigits with
      | some speed, some length => .ok ⟨speed, length, s⟩
      | _, _ => invalid
    | _ => invalid
  | _ => invalid

/-- The scenario key a byte string names; bytes that are not UTF-8 name none. -/
def ScenarioKey.ofBytes (b : Text.Bytes) : Except Fault ScenarioKey :=
  match b.toString? with
  | some s => ScenarioKey.parse s
  | none => .error (.broken .invalidScenarioKey b.quote)

/-- Orders by speed and cable length only. -/
def ScenarioKey.compareNumeric (a b : ScenarioKey) : Ordering :=
  (compare a.speed b.speed).then (compare a.cableLength b.cableLength)

/-- Orders by speed, then cable length, then the key text. -/
def ScenarioKey.compare (a b : ScenarioKey) : Ordering :=
  (a.compareNumeric b).then (Ord.compare a.raw b.raw)

/-- The sign of a comparison: -1, 0 or 1. -/
def Ordering.sign : Ordering → Int
  | .lt => -1
  | .eq => 0
  | .gt => 1

/-- The names that parse as scenario keys, in key order. -/
def ScenarioKey.sortedOf (names : List String) : List ScenarioKey :=
  let keys := names.filterMap fun name =>
    match ScenarioKey.parse name with
    | .ok key => some key
    | .error _ => none
  keys.mergeSort fun a b => a.compare b != .gt

/-- The reference scenario for `target` among sorted keys, and whether it is numerically
equal to the target. At least two keys are needed. -/
def ScenarioKey.nearestTo (keys : List ScenarioKey) (target : ScenarioKey) :
    Except Fault (ScenarioKey × Bool) :=
  if keys.length < 2 then
    .error (.broken .insufficientReferenceData
      s!"defaulting {target.raw} from {keys.length} known scenario(s), need at least 2")
  else
    let candidates := keys.filter fun k => k.raw != target.raw
    match candidates.find? (fun k => k.compareNumeric target == .eq) with
    | some k => .ok (k, true)
    | none =>
      match candidates.find? (fun k => k.compareNumeric target == .gt) with
      | some k => .ok (k, false)
      | none =>
        match candidates.getLast? with
        | some k => .ok (k, false)
        | none => .ok (default, false)

end LosslessBuffer
