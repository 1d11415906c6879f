import LosslessBuffer.Params.Defaults
import LosslessBuffer.Text.Quoted
/-!
# Writing watermarks into a scenario

The watermarks of a calculation, in cells, are written into the sub-profiles of a
complete scenario (`Scenario.assemble`):

* both xoff sub-profiles trigger PFC at `pgMinCells + availableSharedCells` packets and
  drop at that plus the headroom;
* both xon sub-profiles trigger PFC at the same count and dismiss it at the reset
  offset;
* the headroom-pool sub-profile, if there is one, triggers PFC at the same count, is full
  at the headroom, keeps its margin if above `defaultMargin` and takes `defaultMargin`
  otherwise, and is partly full at the headroom less that margin; it is marked dynamic
  when the pool is.

A missing xoff or xon sub-profile is a fault. A field that already holds its value is not
written, so assembling twice writes nothing the second time. Each write is returned,
traced and logged; a partial fill below zero is kept, traced as a warning and logged.
-/

set_option autoImplicit false

namespace LosslessBuffer

/-- The cell quantities written into the sub-profiles of a scenario. -/
structure Watermarks where
  pgMinCells : Int64 := 0
  /-- The shared buffer one priority group may still claim. -/
  availableSharedCells : Int64 := 0
  headroomCells : Int64 := 0
  pgResetOffsetCells : Int64 := 0
  dynamicPool : Bool := false
  deriving Repr, DecidableEq, Inhabited

/-- The packets that trigger PFC: the minimum and the available shared buffer. -/
def Watermarks.trigPfc (w : Watermarks) : Int64 :=
  w.pgMinCells + w.availableSharedCells

/-- Traces and logs one write. -/
def recordUpdate (u : UpdateRecord) : Step Unit := do
  Step.traced (Trace.addUpdate u)
  let before := if u.before = "" then "<unset>" else u.before
  Step.log .info ("update " ++ profilePath u.scenario u.profile ++ "[" ++ Text.quote u.field ++
    "] from " ++ before ++ " to " ++ u.after)

/-- Writes a count of a sub-profile unless it holds the value already, giving the write
made, if any. -/
def SubProfile.writeCount (t : SubProfile) (scenario profile : String) (count : Count)
    (value : Int64) : Step (SubProfile × List UpdateRecord) := do
  if t.get count == some value then return (t, [])
  let update : UpdateRecord :=
    ⟨scenario, profile, count.key, countText (t.get count), toString value⟩
  recordUpdate update
  return (t.set count (some value), [update])

/-- The text of a flag. -/
def flagText (b : Bool) : String :=
  if b then "true" else "false"

/-- Writes the dynamic-threshold flag of a sub-profile unless it holds the value already. -/
def SubProfile.writeFlag (t : SubProfile) (scenario profile : String) (value : Bool) :
    Step (SubProfile × List UpdateRecord) := do
  if t.dynamicThreshold == some value then return (t, [])
  let update : UpdateRecord :=
    ⟨scenario, profile, dynamicThresholdKey, (t.dynamicThreshold.map flagText).getD "",
      flagText value⟩
  recordUpdate update
  return ({ t with dynamicThreshold := some value }, [update])

/-- Writes counts of a sub-profile in order, giving the writes made. -/
def SubProfile.writeCounts (t : SubProfile) (scenario profile : String) :
    List (Count × Int64) → Step (SubProfile × List UpdateRecord)
  | [] => return (t, [])
  | (count, value) :: rest => do
    let (t, first) ← t.writeCount scenario profile count value
    let (t, later) ← t.writeCounts scenario profile rest
    return (t, first ++ later)

/-- Writes the headroom-pool watermarks into its sub-profile. -/
def SubProfile.assembleHeadroomPool (t : SubProfile) (scenario : String) (w : Watermarks) :
    Step (SubProfile × List UpdateRecord) := do
  let (t, first) ← t.writeCounts scenario headroomPoolProfile
    [(.trigPfc, w.trigPfc), (.hdrmFull, w.headroomCells)]
  let margin := match t.margin with
    | some m => if m > defaultMargin then m else defaultMargin
    | none => defaultMargin
  let partialFill := w.headroomCells - margin
  let (t, second) ← t.writeCounts scenario headroomPoolProfile
    [(.margin, margin), (.hdrmPartial, partialFill)]
  if partialFill < 0 then
    Step.traced (Trace.addWarning ⟨scenario, headroomPoolProfile, Count.hdrmPartial.key,
      partialFill, "headroom is smaller than the margin"⟩)
    Step.log .warning (profilePath scenario headroomPoolProfile ++ "[" ++
      Text.quote Count.hdrmPartial.key ++ "] is " ++ toString partialFill ++ ": headroom " ++
      toString w.headroomCells ++ " cells is smaller than margin " ++ toString margin)
  if w.dynamicPool then
    let (t, third) ← t.writeFlag scenario headroomPoolProfile true
    return (t, first ++ second ++ third)
  return (t, first ++ second)

/-- Writes counts into each of the named sub-profiles in turn; a missing one is a fault. -/
def Scenario.assembleProfiles (s : Scenario) (scenario : String) (counts : List (Count × Int64)) :
    List String → Step (Scenario × List UpdateRecord)
  | [] => return (s, [])
  | name :: rest => do
    match s.profiles.get? name with
    | none => Step.fail (.broken .missingSubProfile (profilePath scenario name))
    | some t =>
      let (t, first) ← t.writeCounts scenario name counts
      let (s, later) ← (s.putProfile name t).assembleProfiles scenario counts rest
      return (s, first ++ later)

/-- Writes watermarks into the sub-profiles of a scenario, giving the writes made. -/
def Scenario.assemble (s : Scenario) (scenario : String) (w : Watermarks) :
    Step (Scenario × List UpdateRecord) := do
  let (s, xoff) ← s.assembleProfiles scenario
    [(.trigPfc, w.trigPfc), (.trigIngrDrp, w.trigPfc + w.headroomCells)] xoffProfiles
  let (s, xon) ← s.assembleProfiles scenario
    [(.trigPfc, w.trigPfc), (.dismissPfc, w.pgResetOffsetCells)] xonProfiles
  match s.profiles.get? headroomPoolProfile with
  | none => return (s, xoff ++ xon)
  | some t =>
    let (t, pool) ← t.assembleHeadroomPool scenario w
    return (s.putProfile headroomPoolProfile t, xoff ++ xon ++ pool)

end LosslessBuffer
