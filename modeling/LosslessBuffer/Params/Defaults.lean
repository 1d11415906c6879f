import LosslessBuffer.Params.Basic
import LosslessBuffer.Scenario.Key
import LosslessBuffer.Journal
/-!
# Completing a scenario from defaults

Before its watermarks are written, the target scenario of a parameter table is made
complete (`ParamTable.prepareDefaults`):

1. a target the table lacks is copied whole from the reference scenario;
2. each xoff and xon sub-profile the target lacks is copied from the top-level default of
   that name, else from the reference scenario; one that neither has is a missing
   sub-profile;
3. a missing headroom-pool sub-profile is copied the same way, but its absence is no
   fault, and neither is a table with too few scenarios to choose a reference from;
4. every xoff and xon sub-profile gets a packet margin of at least `defaultMargin`.

The reference scenario is the nearest other scenario of the table
(`ScenarioKey.nearestTo`), chosen when first needed and then kept. Each copy, the choice
of the reference and each margin written are logged and traced; the margin writes are
also returned.
-/

set_option autoImplicit false

namespace LosslessBuffer

/-- The least packet margin of the xoff, xon and headroom-pool sub-profiles. -/
def defaultMargin : Int64 := 4

/-- The decimal text of an optional count, empty when unset. -/
def countText : Option Int64 → String
  | some value => toString value
  | none => ""

/-- The name of a sub-profile of a scenario, as logs write it. -/
def profilePath (scenario profile : String) : String :=
  "qos_params[" ++ scenario ++ "][" ++ profile ++ "]"

namespace ParamTable

/-- The keys of the scenarios, in key order; names that are not keys are left out. -/
def scenarioKeys (p : ParamTable) : List ScenarioKey :=
  ScenarioKey.sortedOf p.scenarios.keys

/-- Applies a change to a scenario of the table, if it has it. -/
def modifyScenario (p : ParamTable) (key : String) (change : Scenario → Scenario) :
    ParamTable :=
  { p with scenarios := p.scenarios.modify key change }

end ParamTable

/-- Puts a sub-profile into a scenario, replacing one of the same name. -/
def Scenario.putProfile (s : Scenario) (name : String) (t : SubProfile) : Scenario :=
  { s with profiles := s.profiles.insert name t }

/-- The completion of one scenario of a table: the table so far, the target, and the
reference scenario once chosen. -/
structure Completion where
  table : ParamTable
  target : ScenarioKey
  reference : Option ScenarioKey := none

namespace Completion

/-- The reference scenario: chosen, traced and, when numerically equal to the target,
warned about the first time it is needed. -/
def referenceKey (c : Completion) : Step (ScenarioKey × Completion) := do
  match c.reference with
  | some key => return (key, c)
  | none =>
    let (key, equivalent) ← Step.ofExcept (ScenarioKey.nearestTo c.table.scenarioKeys c.target)
    Step.traced (Trace.addReference ⟨c.target.raw, key.raw, equivalent⟩)
    if equivalent then
      Step.log .warning ("scenario " ++ key.raw ++ " is numerically equal to " ++ c.target.raw ++
        "; using it as the default reference")
    return (key, { c with reference := some key })

/-- Puts a copied sub-profile into the target, tracing and logging where it came from. -/
def copyProfile (c : Completion) (name source : String) (t : SubProfile) : Step Completion := do
  Step.traced (Trace.addClone ⟨c.target.raw, name, source⟩)
  Step.log .info ("clone default parameters from " ++ source ++ " to " ++
    profilePath c.target.raw name)
  return { c with table := c.table.modifyScenario c.target.raw (·.putProfile name t) }

/-- Copies sub-profile `name` into the target from the top-level defaults, else from the
reference scenario, telling whether either had it. When `optional`, too few scenarios
to choose a reference from is no fault. -/
def cloneProfile (c : Completion) (name : String) (optional : Bool) :
    Step (Bool × Completion) := do
  match c.table.defaults.get? name with
  | some t => return (true, ← c.copyProfile name ("qos_params[" ++ name ++ "]") t)
  | none =>
    let chosen ← tryCatch (some <$> c.referenceKey) fun fault =>
      if optional && fault.cause? == some .insufficientReferenceData then pure none
      else throw fault
    match chosen with
    | none => return (false, c)
    | some (ref, c) =>
      match (c.table.scenarios.get? ref.raw).bind (·.profiles.get? name) with
      | none => return (false, c)
      | some t => return (true, ← c.copyProfile name (profilePath ref.raw name) t)

/-- The sub-profile `name` of the target, if it has one. -/
def targetProfile? (c : Completion) (name : String) : Option SubProfile :=
  (c.table.scenarios.get? c.target.raw).bind (·.profiles.get? name)

/-- Writes the default margin into a sub-profile of the target. -/
def writeMargin (c : Completion) (name : String) (t : SubProfile) :
    Step (Option UpdateRecord × Completion) := do
  let update : UpdateRecord := ⟨c.target.raw, name, Count.pktsMargin.key,
    countText t.pktsMargin, toString defaultMargin⟩
  Step.traced (Trace.addUpdate update)
  Step.log .info ("add/increase default margin for " ++ profilePath c.target.raw name ++
    " to " ++ toString defaultMargin)
  let raised := { t with pktsMargin := some defaultMargin }
  let table := c.table.modifyScenario c.target.raw (·.putProfile name raised)
  return (some update, { c with table })

/-- Raises the packet margin of sub-profile `name` of the target to `defaultMargin`,
giving the write made, if any. -/
def raiseMargin (c : Completion) (name : String) : Step (Option UpdateRecord × Completion) := do
  match c.targetProfile? name with
  | none => return (none, c)
  | some t =>
    match t.pktsMargin with
    | some margin => if margin ≥ defaultMargin then return (none, c) else c.writeMargin name t
    | none => c.writeMargin name t

end Completion

/-- Completes the target scenario of a table from defaults, giving the completed table
and the margins written. -/
def ParamTable.prepareDefaults (table : ParamTable) (target : ScenarioKey) :
    Step (ParamTable × List UpdateRecord) := do
  let mut c : Completion := { table, target }
  if !table.scenarios.contains target.raw then
    let (ref, chosen) ← c.referenceKey
    let copy := (table.scenarios.get? ref.raw).getD {}
    c := { chosen with table := { chosen.table with
      scenarios := chosen.table.scenarios.insert target.raw copy } }
    Step.log .info ("clone default speed cable length parameters from qos_params[" ++ ref.raw ++
      "] to qos_params[" ++ target.raw ++ "]")
  for name in marginProfiles do
    if (c.targetProfile? name).isNone then
      let (cloned, next) ← c.cloneProfile name false
      c := next
      if !cloned then
        Step.fail (.broken .missingSubProfile (profilePath target.raw name))
  if (c.targetProfile? headroomPoolProfile).isNone then
    let (cloned, next) ← c.cloneProfile headroomPoolProfile true
    c := next
    if !cloned then
      Step.log .info "qos_params don't support headroom pool size parameters"
  let mut updates : List UpdateRecord := []
  for name in marginProfiles do
    let (update, next) ← c.raiseMargin name
    c := next
    updates := updates ++ update.toList
  return (c.table, updates)

end LosslessBuffer
