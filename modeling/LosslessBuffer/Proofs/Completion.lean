import Mathlib.Logic.Function.Basic
import LosslessBuffer.Proofs.Assembly
import LosslessBuffer.Proofs.ScenarioOrder
import LosslessBuffer.Proofs.KeyBytes
/-!
# What completing a scenario leaves

`ParamTable.prepareDefaults` completes the target scenario of a table in four passes, each
reading the table the previous one left. Its effect is nevertheless a function of the table
it started from, stated here by lookups:

* the target is the table's own scenario, or else a copy of the reference scenario
  (`ParamTable.baseScenario`);
* each xoff, xon and headroom-pool sub-profile the target lacks is the top-level default of
  that name, else the reference scenario's (`ParamTable.sourceProfile`); the reference is the
  one of the starting table, since completion never changes which scenarios other than the
  target there are;
* the xoff and xon sub-profiles then carry a packet margin of at least `defaultMargin`
  (`SubProfile.withMargin`);
* nothing else of the table changes (`ParamTable.EditsTarget`).

`prepareDefaults_ensures` says so of every successful run. The passes are proved one at a
time against one invariant of the completion in progress (`Completion.Within`): it names
the sub-profiles the target has so far, and each step of a pass updates one of them.

A table whose target completion would not touch (`ParamTable.Complete`) comes back as it
is, with no margin written (`prepareDefaults_of_complete`). Completion fails only for an
xoff or xon sub-profile that neither the base scenario nor its source has
(`prepareDefaults_safe`).
-/

set_option autoImplicit false

namespace LosslessBuffer

open Step

/-! ## The specification -/

namespace SubProfile

/-- A sub-profile with its packet margin raised to `defaultMargin` when unset or lower. -/
def withMargin (t : SubProfile) : SubProfile :=
  match t.pktsMargin with
  | some m => if m ≥ defaultMargin then t else { t with pktsMargin := some defaultMargin }
  | none => { t with pktsMargin := some defaultMargin }

theorem withMargin_pktsMargin (t : SubProfile) :
    ∃ m, t.withMargin.pktsMargin = some m ∧ defaultMargin ≤ m := by
  unfold withMargin
  split
  next m hm =>
    split
    next high => exact ⟨m, hm, high⟩
    next => exact ⟨defaultMargin, rfl, Int64.le_refl _⟩
  next => exact ⟨defaultMargin, rfl, Int64.le_refl _⟩

/-- A margin of at least `defaultMargin` is kept. -/
theorem withMargin_of_le {t : SubProfile} {m : Int64} (h : t.pktsMargin = some m)
    (high : defaultMargin ≤ m) : t.withMargin = t := by
  unfold withMargin
  rw [h]
  exact if_pos high

/-- The margin completion leaves is the larger of the old one and `defaultMargin`, and
`defaultMargin` when there was none. -/
theorem withMargin_pktsMargin_eq (t : SubProfile) :
    t.withMargin.pktsMargin = some ((t.pktsMargin.map (max defaultMargin)).getD defaultMargin) := by
  unfold withMargin
  split
  next m set =>
    have larger : max defaultMargin m = if defaultMargin ≤ m then m else defaultMargin := rfl
    rw [set, Option.map_some, Option.getD_some, larger]
    split
    next => exact set
    next => rfl
  next unset => rw [unset]; rfl

/-- Whether completion raises the packet margin of a sub-profile: it is unset, or below
`defaultMargin`. -/
def marginLow (t : SubProfile) : Bool :=
  match t.pktsMargin with
  | some m => decide (m < defaultMargin)
  | none => true

/-- The record of raising the packet margin of sub-profile `name` of scenario `scenario`, when
it is low: from the margin's text, empty when unset, to `4`. -/
def marginRecord (t : SubProfile) (scenario name : String) : Option UpdateRecord :=
  if t.marginLow then some ⟨scenario, name, Count.pktsMargin.key, countText t.pktsMargin, "4"⟩
  else none

end SubProfile

namespace ParamTable

/-- Sub-profile `name` of scenario `key` of a table, if both are there. -/
def subProfile? (p : ParamTable) (key : ScenarioKey) (name : String) : Option SubProfile :=
  (p.scenarios[key.raw]?).bind (·.profiles[name]?)

/-- Where a sub-profile missing from the target is copied from: the top-level default of
that name, else the reference scenario's. -/
def sourceProfile (p : ParamTable) (t : ScenarioKey) (name : String) : Option SubProfile :=
  p.defaults[name]? <|> (p.reference t).bind fun ref => p.subProfile? ref name

/-- The scenario the target is completed from: its own, else a copy of the reference
scenario; none when the target is missing and there is no reference. -/
def baseScenario (p : ParamTable) (t : ScenarioKey) : Option Scenario :=
  match p.scenarios[t.raw]? with
  | some s => some s
  | none => (p.reference t).map fun ref => (p.scenarios[ref.raw]?).getD {}

/-- Sub-profile `name` of the target over `base` once the sub-profiles `names` are filled
from their sources. -/
def filledProfile (p : ParamTable) (t : ScenarioKey) (base : Scenario) (names : List String)
    (name : String) : Option SubProfile :=
  if name ∈ names then base.profiles[name]? <|> p.sourceProfile t name else base.profiles[name]?

/-- Sub-profile `name` of the completed target over `base`. -/
def completedProfile (p : ParamTable) (t : ScenarioKey) (base : Scenario) (name : String) :
    Option SubProfile :=
  let filled := p.filledProfile t base (marginProfiles ++ [headroomPoolProfile]) name
  if name ∈ marginProfiles then filled.map SubProfile.withMargin else filled

/-- Filling one more name updates that name only. -/
theorem filledProfile_append_singleton (p : ParamTable) (t : ScenarioKey) (base : Scenario)
    (names : List String) (x : String) :
    p.filledProfile t base (names ++ [x]) =
      Function.update (p.filledProfile t base names) x
        (base.profiles[x]? <|> p.sourceProfile t x) := by
  funext name
  by_cases same : name = x
  · subst same
    simp [filledProfile]
  · simp [filledProfile, same]

/-- `q` is `p` with only target `t` rewritten, over the scenario `base`: the defaults and
other settings are `p`'s, the scenarios are `p`'s and the target, each scenario other than
the target is `p`'s, and the target keeps the other settings of `base` and has the
sub-profiles `profiles`. -/
structure EditsTarget (p : ParamTable) (t : ScenarioKey) (base : Scenario)
    (profiles : String → Option SubProfile) (q : ParamTable) : Prop where
  defaults : q.defaults = p.defaults
  other : q.other = p.other
  mem : ∀ k, k ∈ q.scenarios ↔ k ∈ p.scenarios ∨ k = t.raw
  others : ∀ k, k ≠ t.raw → q.scenarios[k]? = p.scenarios[k]?
  scenario : ∃ s, q.scenarios[t.raw]? = some s ∧ s.other = base.other ∧
    ∀ name, s.profiles[name]? = profiles name

/-- A table whose target completion leaves as it is: the target is there, its xoff and
xon sub-profiles are there with a margin of at least `defaultMargin`, and a missing
headroom-pool sub-profile has no source either. -/
structure Complete (p : ParamTable) (t : ScenarioKey) : Prop where
  present : t.raw ∈ p.scenarios
  margins : ∀ name ∈ marginProfiles, ∃ sub m, p.subProfile? t name = some sub ∧
    sub.pktsMargin = some m ∧ defaultMargin ≤ m
  pool : p.subProfile? t headroomPoolProfile = none →
    p.sourceProfile t headroomPoolProfile = none

/-- What a successful completion of target `t` of `p` gives: `p` with only the target
rewritten, over its base scenario, to the completed sub-profiles, the xoff and xon ones all
there. -/
def Completed (p : ParamTable) (t : ScenarioKey) (q : ParamTable) : Prop :=
  ∃ base, p.baseScenario t = some base ∧ EditsTarget p t base (p.completedProfile t base) q ∧
    ∀ name ∈ marginProfiles, (p.completedProfile t base name).isSome

/-- The margin writes completing target `t` over `base` logs: one for each xoff and xon
sub-profile, in order, whose margin is low once it is filled. -/
def marginRecords (p : ParamTable) (t : ScenarioKey) (base : Scenario) : List UpdateRecord :=
  marginProfiles.filterMap fun name =>
    (p.filledProfile t base (marginProfiles ++ [headroomPoolProfile]) name).bind
      (·.marginRecord t.raw name)

end ParamTable

/-! ## A completion in progress -/

namespace Completion

/-- A completion of target `t` of table `p` part way, over the scenario `base`: its table
rewrites only the target, whose sub-profiles are `profiles` so far, and the reference it has
chosen, or would choose, is the one of `p`. -/
structure Within (p : ParamTable) (t : ScenarioKey) (base : Scenario)
    (profiles : String → Option SubProfile) (c : Completion) : Prop where
  target : c.target = t
  table : ParamTable.EditsTarget p t base profiles c.table
  reference : (c.reference <|> c.table.reference t) = p.reference t

/-- The completion with sub-profile `name` of the target put in. -/
def putTarget (c : Completion) (name : String) (sub : SubProfile) : Completion :=
  { c with table := c.table.modifyScenario c.target.raw (·.putProfile name sub) }

variable {p : ParamTable} {t : ScenarioKey} {base : Scenario}
  {profiles : String → Option SubProfile} {c : Completion}

theorem Within.targetProfile? (h : c.Within p t base profiles) (name : String) :
    c.targetProfile? name = profiles name := by
  obtain ⟨s, found, _, named⟩ := h.table.scenario
  simp [Completion.targetProfile?, h.target, found, named]

/-- The completion reads the reference scenario as `p` has it. -/
theorem Within.referenceProfile (h : c.Within p t base profiles) {ref : ScenarioKey}
    (chosen : p.reference t = some ref) (name : String) :
    (c.table.scenarios.get? ref.raw).bind (·.profiles.get? name) = p.subProfile? ref name := by
  have other := (ParamTable.reference_mem chosen).2
  simp [ParamTable.subProfile?, h.table.others ref.raw other]

/-- A table that has the target starts a completion over the target itself. -/
theorem Within.start {s : Scenario} (found : p.scenarios[t.raw]? = some s) :
    ({ table := p, target := t } : Completion).Within p t s fun name => s.profiles[name]? := by
  have present : t.raw ∈ p.scenarios := Std.TreeMap.mem_of_getElem?_eq_some found
  refine ⟨rfl, ⟨rfl, rfl, fun k => ⟨.inl, ?_⟩, fun _ _ => rfl, ⟨s, found, rfl, fun _ => rfl⟩⟩, by simp⟩
  rintro (mem | rfl)
  · exact mem
  · exact present

/-- A table that lacks the target starts a completion over a copy of the reference
scenario, put in as the target. -/
theorem Within.copy {ref : ScenarioKey} (chosen : p.reference t = some ref) :
    ({ table := { p with scenarios := p.scenarios.insert t.raw ((p.scenarios[ref.raw]?).getD {}) },
       target := t, reference := some ref } : Completion).Within p t ((p.scenarios[ref.raw]?).getD {})
      fun name => ((p.scenarios[ref.raw]?).getD {}).profiles[name]? where
  target := rfl
  table := ⟨rfl, rfl, fun k => by
      simp only [Std.TreeMap.mem_insert, Std.compare_eq_iff_eq]
      exact ⟨fun h => h.elim (fun same => .inr same.symm) .inl,
        fun h => h.elim .inr fun same => .inl same.symm⟩,
    fun k other => by simp [Std.TreeMap.getElem?_insert, Ne.symm other],
    ⟨_, by simp, rfl, fun _ => rfl⟩⟩
  reference := by simp [chosen]

/-- Putting a sub-profile into the target updates that sub-profile only. -/
theorem Within.put (h : c.Within p t base profiles) (name : String) (sub : SubProfile) :
    (c.putTarget name sub).Within p t base (Function.update profiles name (some sub)) := by
  unfold putTarget
  obtain ⟨s, found, other, named⟩ := h.table.scenario
  have keys : ∀ k, k ∈ (c.table.modifyScenario c.target.raw (·.putProfile name sub)).scenarios ↔
      k ∈ c.table.scenarios := fun k => Std.TreeMap.mem_modify
  refine ⟨h.target, ⟨h.table.defaults, h.table.other, fun k => (keys k).trans (h.table.mem k),
    fun k notTarget => ?_, ⟨s.putProfile name sub, ?_, other, fun n => ?_⟩⟩, ?_⟩
  · simp only [ParamTable.modifyScenario, Std.TreeMap.getElem?_modify, h.target]
    rw [if_neg (by simpa using Ne.symm notTarget)]
    exact h.table.others k notTarget
  · simp [ParamTable.modifyScenario, h.target, found]
  · rw [Scenario.putProfile_profiles, named n]
    by_cases same : n = name
    · subst same
      simp
    · simp [Function.update_of_ne same, Ne.symm same]
  · show (c.reference <|> (c.table.modifyScenario _ _).reference t) = _
    rw [ParamTable.reference_eq_of_mem_iff t keys]
    exact h.reference

/-- Choosing the reference of `p` keeps the invariant. -/
theorem Within.choose (h : c.Within p t base profiles) {ref : ScenarioKey}
    (chosen : p.reference t = some ref) : Within p t base profiles { c with reference := some ref } :=
  ⟨h.target, h.table, by simp [chosen]⟩

/-! ## The steps of a completion -/

/-- The reference is the one already chosen, else the one `nearestTo` chooses now, and it is
kept from then on. -/
theorem referenceKey_ensures (c : Completion) :
    c.referenceKey.Ensures fun r => (c.reference <|> c.table.reference c.target) = some r.1 ∧
      r.2 = { c with reference := some r.1 } := by
  unfold referenceKey
  split
  next key chosen =>
    refine ensures_pure ⟨by simp [chosen], ?_⟩
    cases c
    simp_all
  next unchosen =>
    refine ensures_bind (ensures_ofExcept _) ?_
    rintro ⟨key, equivalent⟩ found
    have chosen : (c.reference <|> c.table.reference c.target) = some key := by
      simp [unchosen, ParamTable.reference_eq_some found]
    dsimp only
    refine ensures_bind_of_yields (yields_traced _) (ensures_ite (fun _ => ?_) fun _ => ?_)
    · exact ensures_bind_of_yields (yields_log _ _) (ensures_pure ⟨chosen, rfl⟩)
    · exact ensures_pure ⟨chosen, rfl⟩

/-- The reference is asked for only while none is chosen, and fails only when `nearestTo`
does. -/
theorem referenceKey_fails {c : Completion} {e : Fault} (h : c.referenceKey.Fails e) :
    c.reference = none ∧ ScenarioKey.nearestTo c.table.scenarioKeys c.target = .error e := by
  unfold referenceKey at h
  split at h
  next => exact absurd h (yields_pure _).not_fails
  next unchosen =>
    refine ⟨unchosen, (h.of_bind_yields fun ⟨key, equivalent⟩ _ =>
      ⟨(key, { c with reference := some key }), ?_⟩).ofExcept⟩
    dsimp only
    exact yields_bind (yields_traced _) (yields_ite
      (fun _ => yields_bind (yields_log _ _) (yields_pure _)) fun _ => yields_pure _)

theorem copyProfile_yields (c : Completion) (name source : String) (sub : SubProfile) :
    (c.copyProfile name source sub).Yields (c.putTarget name sub) :=
  yields_bind (yields_traced _) (yields_bind (yields_log _ _) (yields_pure _))

theorem writeMargin_yields_record (c : Completion) (name : String) (sub : SubProfile) :
    (c.writeMargin name sub).Yields (some ⟨c.target.raw, name, Count.pktsMargin.key,
      countText sub.pktsMargin, toString defaultMargin⟩,
      c.putTarget name { sub with pktsMargin := some defaultMargin }) :=
  yields_bind (yields_traced _) (yields_bind (yields_log _ _) (yields_pure _))

theorem writeMargin_yields (c : Completion) (name : String) (sub : SubProfile) :
    ∃ update, (c.writeMargin name sub).Yields
      (some update, c.putTarget name { sub with pktsMargin := some defaultMargin }) :=
  ⟨_, writeMargin_yields_record c name sub⟩

/-- Asking for the reference while cloning gives the reference of `p`, and nothing only
when a clone is optional and `p` has too few scenarios to choose from. -/
theorem Within.askReference (h : c.Within p t base profiles) (optional : Bool) :
    (tryCatch (some <$> c.referenceKey) fun fault =>
      if (optional && fault.cause? == some .insufficientReferenceData) = true then pure none
      else throw fault).Ensures fun chosen => chosen.elim (p.reference t = none)
        fun r => p.reference t = some r.1 ∧ r.2 = { c with reference := some r.1 } := by
  refine ensures_tryCatch (ensures_map ((referenceKey_ensures c).mono ?_)) fun e failed => ?_
  · rintro ⟨key, c'⟩ ⟨chosen, same⟩
    dsimp only at chosen same
    subst same
    show p.reference t = some key ∧ _
    rw [← h.reference, ← h.target]
    exact ⟨chosen, rfl⟩
  · obtain ⟨unchosen, missing⟩ := referenceKey_fails failed.map
    refine ensures_ite (fun _ => ensures_pure ?_) fun _ => ensures_throw
    show p.reference t = none
    rw [← h.reference, unchosen, ← h.target, ParamTable.reference_eq_none missing]
    rfl

/-- Cloning a sub-profile the target lacks puts in its source, if it has one, and tells
whether it did. -/
theorem Within.cloneProfile (h : c.Within p t base profiles) (name : String) (optional : Bool)
    (absent : profiles name = none) :
    (c.cloneProfile name optional).Ensures fun r => r.1 = (p.sourceProfile t name).isSome ∧
      r.2.Within p t base (Function.update profiles name (p.sourceProfile t name)) := by
  unfold Completion.cloneProfile
  split
  next sub found =>
    have source : p.sourceProfile t name = some sub := by
      simp_all [ParamTable.sourceProfile, ← h.table.defaults]
    rw [source]
    exact ensures_bind_of_yields (copyProfile_yields c name _ sub)
      (ensures_pure ⟨rfl, h.put name sub⟩)
  next found =>
    have noDefault : p.defaults[name]? = none := by
      rw [← h.table.defaults]
      simpa using found
    refine ensures_bind (h.askReference optional) ?_
    rintro (_ | ⟨ref, c'⟩) chosen
    · have source : p.sourceProfile t name = none := by
        simp [ParamTable.sourceProfile, noDefault, show p.reference t = none from chosen]
      refine ensures_pure ⟨by simp [source], ?_⟩
      rw [source, Function.update_eq_self_iff.2 absent.symm]
      exact h
    · obtain ⟨chosen, same⟩ := chosen
      dsimp only at chosen same
      subst same
      have h' := h.choose chosen
      have source : p.sourceProfile t name = p.subProfile? ref name := by
        simp [ParamTable.sourceProfile, noDefault, show p.reference t = some ref from chosen]
      dsimp only
      split
      next missing =>
        rw [h'.referenceProfile chosen] at missing
        refine ensures_pure ⟨by simp [source, missing], ?_⟩
        rw [source, missing, Function.update_eq_self_iff.2 absent.symm]
        exact h'
      next sub found =>
        rw [h'.referenceProfile chosen] at found
        refine ensures_bind_of_yields (copyProfile_yields _ name _ sub)
          (ensures_pure ⟨by simp [source, found], ?_⟩)
        rw [source, found]
        exact h'.put name sub

/-- Raising the margin of a sub-profile of the target replaces it by `withMargin` of it, and
gives its `marginRecord` as the write made. -/
theorem Within.raiseMargin_records (h : c.Within p t base profiles) (name : String) :
    (c.raiseMargin name).Ensures fun r => r.1 = (profiles name).bind (·.marginRecord t.raw name) ∧
      r.2.Within p t base (Function.update profiles name ((profiles name).map SubProfile.withMargin)) := by
  unfold Completion.raiseMargin
  rw [h.targetProfile? name]
  split
  next missing =>
    rw [missing, Option.map_none, Option.bind_none, Function.update_eq_self_iff.2 missing.symm]
    exact ensures_pure ⟨rfl, h⟩
  next sub found =>
    rw [found, Option.map_some, Option.bind_some]
    have wrote := writeMargin_yields_record c name sub
    have record : ∀ low : sub.marginLow = true, some ⟨c.target.raw, name, Count.pktsMargin.key,
        countText sub.pktsMargin, toString defaultMargin⟩ = sub.marginRecord t.raw name := by
      intro low
      rw [SubProfile.marginRecord, if_pos low, h.target]
      rfl
    split
    next m set =>
      split
      next high =>
        have notLow : sub.marginLow = false := by
          simp [SubProfile.marginLow, set, Int64.not_lt.2 high]
        rw [SubProfile.withMargin_of_le set high, ← found, Function.update_eq_self]
        exact ensures_pure ⟨by simp [SubProfile.marginRecord, notLow], h⟩
      next below =>
        have raised : sub.withMargin = { sub with pktsMargin := some defaultMargin } := by
          simp [SubProfile.withMargin, set, below]
        have low : sub.marginLow = true := by
          simpa [SubProfile.marginLow, set] using Int64.not_le.1 below
        rw [raised]
        exact ensures_of_yields wrote ⟨record low, h.put name _⟩
    next unset =>
      have raised : sub.withMargin = { sub with pktsMargin := some defaultMargin } := by
        simp [SubProfile.withMargin, unset]
      have low : sub.marginLow = true := by simp [SubProfile.marginLow, unset]
      rw [raised]
      exact ensures_of_yields wrote ⟨record low, h.put name _⟩

/-- Raising the margin of a sub-profile of the target replaces it by `withMargin` of it. -/
theorem Within.raiseMargin (h : c.Within p t base profiles) (name : String) :
    (c.raiseMargin name).Ensures fun r => r.2.Within p t base
      (Function.update profiles name ((profiles name).map SubProfile.withMargin)) :=
  (h.raiseMargin_records name).mono fun _ raised => raised.2

/-! ## Steps that change nothing -/

theorem referenceKey_yields {c : Completion} {key : ScenarioKey} {equivalent : Bool}
    (unchosen : c.reference = none)
    (found : ScenarioKey.nearestTo c.table.scenarioKeys c.target = .ok (key, equivalent)) :
    c.referenceKey.Yields (key, { c with reference := some key }) := by
  unfold referenceKey
  simp only [unchosen]
  refine yields_bind (yields_ofExcept found) ?_
  dsimp only
  exact yields_bind (yields_traced _) (yields_ite
    (fun _ => yields_bind (yields_log _ _) (yields_pure _)) fun _ => yields_pure _)

theorem referenceKey_throws {c : Completion} {e : Fault} (unchosen : c.reference = none)
    (missing : ScenarioKey.nearestTo c.table.scenarioKeys c.target = .error e) :
    c.referenceKey.Throws e := by
  unfold referenceKey
  simp only [unchosen]
  exact throws_bind (throws_ofExcept missing)

/-- An optional clone with nothing to copy from copies nothing, whether or not there is a
reference to look in. -/
theorem cloneProfile_of_unsourced {c : Completion} {name : String}
    (unchosen : c.reference = none) (unsourced : c.table.sourceProfile c.target name = none) :
    ∃ c', (c.cloneProfile name true).Yields (false, c') ∧ c'.table = c.table ∧
      c'.target = c.target := by
  simp only [ParamTable.sourceProfile, Option.orElse_eq_orElse, Option.orElse_eq_or,
    Option.or_eq_none_iff] at unsourced
  obtain ⟨noDefault, noReference⟩ := unsourced
  unfold cloneProfile
  simp only [Std.TreeMap.get?_eq_getElem?, noDefault]
  cases chosen : ScenarioKey.nearestTo c.table.scenarioKeys c.target with
  | error e =>
    have insufficient := (ScenarioKey.nearestTo_error chosen).2
    refine ⟨c, yields_bind (yields_tryCatch_of_throws
      (throws_map _ (referenceKey_throws unchosen chosen)) ?_ : Step.Yields _ none) ?_, rfl, rfl⟩
    · simp only [insufficient, beq_self_eq_true, Bool.and_self, ↓reduceIte]
      exact yields_pure none
    · exact yields_pure _
  | ok r =>
    obtain ⟨key, equivalent⟩ := r
    rw [ParamTable.reference_eq_some chosen] at noReference
    refine ⟨{ c with reference := some key }, yields_bind (yields_tryCatch _
      (yields_map some (referenceKey_yields unchosen chosen))) ?_, rfl, rfl⟩
    simp only [ParamTable.subProfile?, Option.bind_some] at noReference
    simp only [noReference]
    exact yields_pure _

/-- A margin of at least `defaultMargin` is not raised. -/
theorem raiseMargin_of_le {c : Completion} {name : String} {sub : SubProfile} {m : Int64}
    (found : c.targetProfile? name = some sub) (set : sub.pktsMargin = some m)
    (high : defaultMargin ≤ m) : (c.raiseMargin name).Yields (none, c) := by
  unfold raiseMargin
  simp only [found, set]
  rw [if_pos high]
  exact yields_pure _

/-! ## Steps that cannot fail -/

/-- The reference can be asked for once one is chosen or can be chosen. -/
theorem referenceKey_safe (h : (c.reference <|> c.table.reference c.target).isSome) :
    c.referenceKey.Safe := by
  cases chosen : c.reference with
  | some key =>
    unfold referenceKey
    rw [chosen]
    exact (yields_pure _).safe
  | none =>
    rw [chosen, Option.orElse_eq_orElse, Option.orElse_none] at h
    unfold ParamTable.reference at h
    split at h
    next key equivalent found => exact (referenceKey_yields chosen found).safe
    next => cases h

/-- Cloning a sub-profile fails only when it is not optional, has no default, and no
reference is chosen or can be chosen. -/
theorem cloneProfile_safe {name : String} {optional : Bool}
    (h : optional = true ∨ (c.table.defaults[name]?).isSome ∨
      (c.reference <|> c.table.reference c.target).isSome) :
    (c.cloneProfile name optional).Safe := by
  unfold Completion.cloneProfile
  split
  next sub found => exact safe_bind_of_yields (copyProfile_yields c name _ sub) (yields_pure _).safe
  next found =>
    refine safe_bind (safe_tryCatch fun e failed => ?_) fun chosen _ => ?_
    · obtain ⟨unchosen, missing⟩ := referenceKey_fails failed.map
      have insufficient := (ScenarioKey.nearestTo_error missing).2
      rcases h with optional | defaulted | possible
      · subst optional
        simp only [Bool.true_and, insufficient, beq_self_eq_true, ↓reduceIte]
        exact (yields_pure none).safe
      · simp [show c.table.defaults[name]? = none by simpa using found] at defaulted
      · rw [unchosen, ParamTable.reference_eq_none missing] at possible
        cases possible
    · rcases chosen with _ | ⟨ref, c'⟩
      · exact (yields_pure _).safe
      · dsimp only
        split
        · exact (yields_pure _).safe
        · exact safe_bind_of_yields (copyProfile_yields _ name _ _) (yields_pure _).safe

/-- A sub-profile with a source is cloned into the target without fail. -/
theorem Within.cloneProfile_safe (h : c.Within p t base profiles) {name : String}
    {optional : Bool} (sourced : (p.sourceProfile t name).isSome) :
    (c.cloneProfile name optional).Safe := by
  refine Completion.cloneProfile_safe (.inr ?_)
  rw [h.table.defaults, h.target, h.reference]
  cases defaulted : p.defaults[name]? with
  | some sub => exact .inl rfl
  | none =>
    simp only [ParamTable.sourceProfile, defaulted, Option.orElse_eq_orElse]
      at sourced
    exact .inr (Option.isSome_of_isSome_bind sourced)

/-- Copying in a sub-profile the target lacks and that has a source succeeds, so a step that
goes on from the copy is safe and ensures what it ensures from every such copy. -/
theorem Within.cloneProfile_bind_sourced {β : Type} (h : c.Within p t base profiles)
    {name : String} {optional : Bool} (absent : profiles name = none)
    (sourced : (p.sourceProfile t name).isSome) {k : Bool × Completion → Step β} {Q : β → Prop}
    (next : ∀ c', c'.Within p t base (Function.update profiles name (p.sourceProfile t name)) →
      (k (true, c')).Safe ∧ (k (true, c')).Ensures Q) :
    (c.cloneProfile name optional >>= k).Safe ∧ (c.cloneProfile name optional >>= k).Ensures Q := by
  have cloned := h.cloneProfile name optional absent
  rw [sourced] at cloned
  refine ⟨safe_bind (h.cloneProfile_safe sourced) fun r returned => ?_, ensures_bind cloned ?_⟩
  · obtain ⟨wasCloned, within⟩ := cloned r returned
    obtain ⟨copied, c'⟩ := r
    dsimp only at wasCloned within
    subst wasCloned
    exact (next c' within).1
  · rintro ⟨copied, c'⟩ ⟨wasCloned, within⟩
    dsimp only at wasCloned within
    subst wasCloned
    exact (next c' within).2

theorem raiseMargin_safe (c : Completion) (name : String) : (c.raiseMargin name).Safe := by
  unfold Completion.raiseMargin
  split
  next => exact (yields_pure _).safe
  next sub found =>
    obtain ⟨update, wrote⟩ := writeMargin_yields c name sub
    split
    next m set =>
      split
      next => exact (yields_pure _).safe
      next => exact wrote.safe
    next => exact wrote.safe

end Completion

/-- A name read as a key names it as bytes too. -/
theorem ScenarioKey.ofBytes_of_ofName? {name : String} {k : ScenarioKey}
    (h : ScenarioKey.ofName? name = some k) : ScenarioKey.ofBytes (Text.Bytes.ofString name) = .ok k :=
  ScenarioKey.ofBytes_ofString (ScenarioKey.ofName?_eq_some_iff.1 h)

/-! ## The whole completion -/

namespace ParamTable

theorem marginProfiles_nodup : marginProfiles.Nodup := by decide

theorem headroomPoolProfile_not_mem : headroomPoolProfile ∉ marginProfiles := by decide

/-- A table that lacks the target completes it over a copy of its reference scenario. -/
theorem baseScenario_of_missing {p : ParamTable} {t : ScenarioKey} {base : Scenario}
    (missing : p.scenarios[t.raw]? = none) (based : p.baseScenario t = some base) :
    ∃ ref, p.reference t = some ref ∧ base = (p.scenarios[ref.raw]?).getD {} := by
  simp only [baseScenario, missing] at based
  obtain ⟨ref, chosen, copy⟩ := Option.map_eq_some_iff.1 based
  exact ⟨ref, chosen, copy.symm⟩

/-- Every successful completion gives the table `Completed` describes, and the margin writes
`marginRecords` lists. -/
theorem prepareDefaults_ensures_records (p : ParamTable) (t : ScenarioKey) :
    (p.prepareDefaults t).Ensures fun r => p.Completed t r.1 ∧
      ∀ base, p.baseScenario t = some base → r.2 = p.marginRecords t base := by
  unfold ParamTable.prepareDefaults
  extract_lets start noUpdates raise fill
  -- the last pass raises the margins of the xoff and xon sub-profiles, one name at a time;
  -- the names `done` so far carry their raised sub-profiles and have logged their records
  have raised : ∀ base c, p.baseScenario t = some base →
      (∀ name ∈ marginProfiles, (base.profiles[name]? <|> p.sourceProfile t name).isSome) →
      c.Within p t base (p.filledProfile t base (marginProfiles ++ [headroomPoolProfile])) →
      (raise () c).Ensures fun r => p.Completed t r.1 ∧
        ∀ base, p.baseScenario t = some base → r.2 = p.marginRecords t base := by
    intro base c based present within
    let filled := p.filledProfile t base (marginProfiles ++ [headroomPoolProfile])
    let I (rest : List String) (s : Completion × List UpdateRecord) : Prop :=
      ∃ done, done ++ rest = marginProfiles ∧
        s.1.Within p t base (fun n => if n ∈ done then (filled n).map SubProfile.withMargin
          else filled n) ∧
        s.2 = done.filterMap fun n => (filled n).bind (·.marginRecord t.raw n)
    have start : I marginProfiles (c, noUpdates) := ⟨[], rfl, by simpa using within, rfl⟩
    refine ensures_bind (ensures_forIn marginProfiles (c, noUpdates) _ I start
      fun name rest ⟨c', updates⟩ ⟨done, split, within', logged⟩ => ?_) ?_
    · have fresh : name ∉ done := by
        have distinct := marginProfiles_nodup
        rw [← split] at distinct
        exact fun mem => (List.nodup_append.1 distinct).2.2 name mem name List.mem_cons_self rfl
      refine ensures_bind (within'.raiseMargin_records name) ?_
      rintro ⟨update, next⟩ ⟨wrote, within''⟩
      simp only [fresh, if_false] at wrote within''
      refine ensures_pure ⟨_, rfl, done ++ [name], by simpa using split, ?_, ?_⟩
      · have visited : (fun n => if n ∈ done ++ [name] then (filled n).map SubProfile.withMargin
            else filled n) = Function.update (fun n => if n ∈ done then
              (filled n).map SubProfile.withMargin else filled n) name
              ((filled name).map SubProfile.withMargin) := by
          funext n
          by_cases same : n = name
          · subst same
            simp
          · simp [same]
        rw [visited]
        exact within''
      · rw [logged, wrote, List.filterMap_append, List.filterMap_cons, List.filterMap_nil]
        generalize (filled name).bind (·.marginRecord t.raw name) = record
        cases record <;> rfl
    · rintro ⟨c', updates⟩ ⟨done, split, within', logged⟩
      rw [List.append_nil] at split
      subst split
      have completed : (fun n => if n ∈ marginProfiles then (filled n).map SubProfile.withMargin
          else filled n) = p.completedProfile t base := rfl
      rw [completed] at within'
      refine ensures_pure ⟨⟨base, based, within'.table, fun name member => ?_⟩, ?_⟩
      · have kept : p.filledProfile t base (marginProfiles ++ [headroomPoolProfile]) name =
            (base.profiles[name]? <|> p.sourceProfile t name) := by
          simp [filledProfile, member]
        simpa [completedProfile, member, kept] using present name member
      · intro base' based'
        rw [based] at based'
        cases based'
        exact logged
  have filling : ∀ base c, p.baseScenario t = some base →
      c.Within p t base (fun name => base.profiles[name]?) →
      (fill () c).Ensures fun r => p.Completed t r.1 ∧
        ∀ base, p.baseScenario t = some base → r.2 = p.marginRecords t base := by
    intro base c based within
    refine ensures_bind (ensures_forIn_update marginProfiles marginProfiles_nodup c _
      (fun f c => c.Within p t base f) (fun _ sub => sub.isSome) (fun name => base.profiles[name]?)
      (fun name sub => sub <|> p.sourceProfile t name) within
      fun name _ f' c' same within' => ?_) ?_
    · dsimp only
      rw [within'.targetProfile? name, same]
      cases found : base.profiles[name]? with
      | none =>
        simp only [Option.isNone_none, ↓reduceIte]
        refine ensures_bind (within'.cloneProfile name false (same.trans found)) ?_
        rintro ⟨cloned, next⟩ ⟨wasCloned, within''⟩
        dsimp only
        split
        next => exact ensures_fail_bind
        next copied =>
          have copied' : cloned = true := by simpa using copied
          refine ensures_pure ⟨next, rfl, ?_, ?_⟩
          · simpa [← wasCloned] using copied'
          · simpa using within''
      | some sub =>
        simp only [Option.isNone_some, Bool.false_eq_true, ↓reduceIte]
        refine ensures_pure ⟨c', rfl, rfl, ?_⟩
        simp only [Option.orElse_eq_orElse, Option.orElse_some]
        rw [← found, ← same, Function.update_eq_self]
        exact within'
    · rintro c' ⟨within', present⟩
      have filled := p.filledProfile_append_singleton t base marginProfiles headroomPoolProfile
      have pool : p.filledProfile t base marginProfiles headroomPoolProfile =
          base.profiles[headroomPoolProfile]? := by
        simp [filledProfile, headroomPoolProfile_not_mem]
      dsimp only
      rw [within'.targetProfile?, if_neg headroomPoolProfile_not_mem]
      cases found : base.profiles[headroomPoolProfile]? with
      | none =>
        simp only [Option.isNone_none, ↓reduceIte]
        refine ensures_bind (within'.cloneProfile headroomPoolProfile true (pool.trans found)) ?_
        rintro ⟨cloned, next⟩ ⟨-, within''⟩
        have ready : next.Within p t base
            (p.filledProfile t base (marginProfiles ++ [headroomPoolProfile])) := by
          rw [filled, found]
          simp only [Option.orElse_eq_orElse, Option.orElse_none]
          exact within''
        dsimp only
        split
        · exact ensures_bind_of_yields (yields_log _ _) (raised base next based present ready)
        · exact raised base next based present ready
      | some sub =>
        simp only [Option.isNone_some, Bool.false_eq_true, ↓reduceIte]
        have ready : c'.Within p t base
            (p.filledProfile t base (marginProfiles ++ [headroomPoolProfile])) := by
          rw [filled, found]
          simp only [Option.orElse_eq_orElse, Option.orElse_some]
          rw [← found, ← pool, Function.update_eq_self]
          exact within'
        exact raised base c' based present ready
  split
  next absent =>
    have missing : p.scenarios[t.raw]? = none :=
      Std.TreeMap.getElem?_eq_none_of_contains_eq_false (by simpa using absent)
    refine ensures_bind (Completion.referenceKey_ensures start) ?_
    rintro ⟨ref, chosen⟩ ⟨found, same⟩
    dsimp only at found same
    subst same
    have found' : p.reference t = some ref := by simpa [start] using found
    have based : p.baseScenario t = some ((p.scenarios[ref.raw]?).getD {}) := by
      simp [baseScenario, missing, found']
    exact ensures_bind_of_yields (yields_log _ _) (filling _ _ based (Completion.Within.copy found'))
  next present =>
    have there : (p.scenarios[t.raw]?).isSome := by
      rw [← Std.TreeMap.contains_eq_isSome_getElem?]
      simpa using present
    obtain ⟨s, found⟩ := Option.isSome_iff_exists.1 there
    have based : p.baseScenario t = some s := by simp [baseScenario, found]
    exact filling s start based (Completion.Within.start found)

/-- Every successful completion gives the table `Completed` describes. -/
theorem prepareDefaults_ensures (p : ParamTable) (t : ScenarioKey) :
    (p.prepareDefaults t).Ensures fun r => p.Completed t r.1 :=
  (prepareDefaults_ensures_records p t).mono fun _ completed => completed.1

/-- Completion fails only for an xoff or xon sub-profile with no source: given a base
scenario over which every xoff and xon sub-profile is completed, it succeeds. -/
theorem prepareDefaults_safe {p : ParamTable} {t : ScenarioKey} {base : Scenario}
    (based : p.baseScenario t = some base)
    (present : ∀ name ∈ marginProfiles, (p.completedProfile t base name).isSome) :
    (p.prepareDefaults t).Safe := by
  have sourced : ∀ name ∈ marginProfiles,
      (base.profiles[name]? <|> p.sourceProfile t name).isSome := fun name member => by
    simpa [completedProfile, filledProfile, member] using present name member
  unfold ParamTable.prepareDefaults
  extract_lets start noUpdates raise fill
  have raising : ∀ c, (raise () c).Safe := by
    intro c
    refine safe_bind (safe_forIn _ _ _ (fun _ _ => True) trivial fun name rest s _ => ⟨?_, ?_⟩)
      fun _ _ => (yields_pure _).safe
    · exact safe_bind (Completion.raiseMargin_safe _ _) fun _ _ => (yields_pure _).safe
    · exact ensures_bind (ensures_returns _) fun _ _ => ensures_pure ⟨_, rfl, trivial⟩
  -- filling visits each xoff and xon name once; the ones still to visit are the base's
  have filling : ∀ c, c.Within p t base (fun name => base.profiles[name]?) → (fill () c).Safe := by
    intro c within
    let I (rest : List String) (c : Completion) : Prop :=
      rest.Nodup ∧ (∀ n ∈ rest, (base.profiles[n]? <|> p.sourceProfile t n).isSome) ∧
        ∃ f, c.Within p t base f ∧ ∀ n ∈ rest, f n = base.profiles[n]?
    refine safe_bind (safe_forIn marginProfiles c _ I
      ⟨marginProfiles_nodup, sourced, _, within, fun _ _ => rfl⟩
      fun name rest c' ⟨distinct, present, f, within', untouched⟩ => ?_) fun c' _ => ?_
    · have fresh : name ∉ rest := (List.nodup_cons.1 distinct).1
      have same : f name = base.profiles[name]? := untouched name List.mem_cons_self
      have kept : ∀ n ∈ rest, Function.update f name (p.sourceProfile t name) n =
          base.profiles[n]? := fun n member => by
        rw [Function.update_of_ne (fun same => fresh (by rw [← same]; exact member))]
        exact untouched n (List.mem_cons_of_mem _ member)
      dsimp only
      rw [within'.targetProfile? name, same]
      cases found : base.profiles[name]? with
      | none =>
        simp only [Option.isNone_none, ↓reduceIte]
        have source : (p.sourceProfile t name).isSome := by
          simpa [found] using present name List.mem_cons_self
        refine within'.cloneProfile_bind_sourced (same.trans found) source fun next within'' => ?_
        exact ⟨(yields_pure _).safe, ensures_pure ⟨next, rfl, (List.nodup_cons.1 distinct).2,
          fun n member => present n (List.mem_cons_of_mem _ member), _, within'', kept⟩⟩
      | some sub =>
        simp only [Option.isNone_some, Bool.false_eq_true, ↓reduceIte]
        exact ⟨(yields_pure _).safe, ensures_pure ⟨c', rfl, (List.nodup_cons.1 distinct).2,
          fun n member => present n (List.mem_cons_of_mem _ member), f, within',
          fun n member => untouched n (List.mem_cons_of_mem _ member)⟩⟩
    · refine safe_ite (fun _ => ?_) fun _ => raising _
      refine safe_bind (Completion.cloneProfile_safe (.inl rfl)) fun r _ => ?_
      exact safe_ite (fun _ => safe_bind_of_yields (yields_log _ _) (raising _)) fun _ => raising _
  split
  next absent =>
    have missing : p.scenarios[t.raw]? = none :=
      Std.TreeMap.getElem?_eq_none_of_contains_eq_false (by simpa using absent)
    obtain ⟨ref, chosen, rfl⟩ := baseScenario_of_missing missing based
    refine safe_bind (Completion.referenceKey_safe (by simp [start, chosen])) ?_
    rintro ⟨key, c'⟩ returned
    obtain ⟨found, same⟩ := Completion.referenceKey_ensures start _ returned
    dsimp only at found same
    subst same
    have found' : key = ref := by
      simp only [start, Option.orElse_eq_orElse, Option.orElse_none] at found
      rw [chosen] at found
      exact (Option.some.inj found).symm
    subst found'
    exact safe_bind_of_yields (yields_log _ _) (filling _ (Completion.Within.copy chosen))
  next present =>
    have there : (p.scenarios[t.raw]?).isSome := by
      rw [← Std.TreeMap.contains_eq_isSome_getElem?]
      simpa using present
    obtain ⟨s, found⟩ := Option.isSome_iff_exists.1 there
    have same : base = s := by
      simp only [baseScenario, found, Option.some.injEq] at based
      exact based.symm
    subst same
    exact filling start (Completion.Within.start found)

/-! ## Completing over the reference scenario -/

section Reference

variable {p : ParamTable} {t R : ScenarioKey} {sR : Scenario}

/-- The reference scenario of a target is a key of the table, so its name, as bytes, reads
back as it. -/
theorem ofBytes_reference (chosen : p.reference t = some R) :
    ScenarioKey.ofBytes (Text.Bytes.ofString R.raw) = .ok R := by
  unfold reference at chosen
  split at chosen
  next key equivalent found =>
    cases chosen
    exact ScenarioKey.ofBytes_of_ofName?
      (mem_scenarioKeys.1 (ScenarioKey.nearestTo_mem p.scenarioKeys_distinct found).1).2
  next => cases chosen

theorem exists_of_reference (chosen : p.reference t = some R) :
    ∃ sR, p.scenarios[R.raw]? = some sR :=
  Option.isSome_iff_exists.1 (Std.TreeMap.mem_iff_isSome_getElem?.1 (reference_mem chosen).1)

theorem baseScenario_of_mem (found : p.scenarios[R.raw]? = some sR) :
    p.baseScenario R = some sR := by
  simp [baseScenario, found]

/-- A target the table lacks is completed over its reference scenario. -/
theorem baseScenario_of_reference (absent : t.raw ∉ p.scenarios)
    (chosen : p.reference t = some R) (found : p.scenarios[R.raw]? = some sR) :
    p.baseScenario t = some sR := by
  simp [baseScenario, Std.TreeMap.getElem?_eq_none absent, chosen, found]

/-- A target cloned from `R` takes a missing sub-profile from the defaults, else from `R`. -/
theorem sourceProfile_of_reference (chosen : p.reference t = some R)
    (found : p.scenarios[R.raw]? = some sR) (name : String) :
    p.sourceProfile t name = (p.defaults[name]? <|> sR.profiles[name]?) := by
  simp [sourceProfile, chosen, subProfile?, found]

end Reference

/-! ## Tables that only rewrite the target -/

variable {p q : ParamTable} {t : ScenarioKey} {base : Scenario}
  {profiles : String → Option SubProfile}

/-- Rewriting only the target keeps the reference, once there is a base scenario: a table
that had the target keeps its keys, and one that lacked it had a reference, which adding
the target does not change. -/
theorem EditsTarget.reference (h : EditsTarget p t base profiles q)
    (based : p.baseScenario t = some base) : q.reference t = p.reference t := by
  by_cases present : t.raw ∈ p.scenarios
  · refine reference_eq_of_mem_iff t fun k => (h.mem k).trans ⟨?_, .inl⟩
    rintro (mem | rfl)
    · exact mem
    · exact present
  · obtain ⟨ref, chosen, -⟩ :=
      baseScenario_of_missing (Std.TreeMap.getElem?_eq_none present) based
    rw [chosen]
    exact reference_of_insert present h.mem chosen

theorem EditsTarget.sourceProfile (h : EditsTarget p t base profiles q)
    (based : p.baseScenario t = some base) (name : String) :
    q.sourceProfile t name = p.sourceProfile t name := by
  unfold ParamTable.sourceProfile
  rw [h.reference based, h.defaults]
  cases chosen : p.reference t with
  | none => rfl
  | some ref =>
    have other := (reference_mem chosen).2
    simp [subProfile?, h.others ref.raw other]

/-- Putting another scenario in as the target. -/
theorem EditsTarget.putTarget (h : EditsTarget p t base profiles q) {s : Scenario}
    {profiles' : String → Option SubProfile} (other : s.other = base.other)
    (named : ∀ name, s.profiles[name]? = profiles' name) :
    EditsTarget p t base profiles' { q with scenarios := q.scenarios.insert t.raw s } where
  defaults := h.defaults
  other := h.other
  mem k := by
    simp only [Std.TreeMap.mem_insert, Std.compare_eq_iff_eq]
    rw [h.mem k]
    exact ⟨fun holds => holds.elim (fun same => .inr same.symm) id,
      fun holds => holds.elim (fun mem => .inr (.inl mem)) fun same => .inl same.symm⟩
  others k notTarget := by
    simp [Std.TreeMap.getElem?_insert, Ne.symm notTarget, h.others k notTarget]
  scenario := ⟨s, by simp, other, named⟩

/-- The target of a table that rewrites only the target holds the given sub-profiles. -/
theorem EditsTarget.subProfile?_target (h : EditsTarget p t base profiles q) (name : String) :
    q.subProfile? t name = profiles name := by
  obtain ⟨s, found, -, named⟩ := h.scenario
  simp [subProfile?, found, named]

/-- A table that rewrites only the target is complete when the target's xoff and xon
sub-profiles carry margins of at least `defaultMargin` and a missing headroom-pool
sub-profile has no source. -/
theorem EditsTarget.complete (h : EditsTarget p t base profiles q)
    (based : p.baseScenario t = some base)
    (margins : ∀ name ∈ marginProfiles, ∃ sub m, profiles name = some sub ∧
      sub.pktsMargin = some m ∧ defaultMargin ≤ m)
    (pool : profiles headroomPoolProfile = none → p.sourceProfile t headroomPoolProfile = none) :
    q.Complete t := by
  have target := h.subProfile?_target
  refine ⟨(h.mem t.raw).2 (.inr rfl), fun name member => ?_, fun missing => ?_⟩
  · rw [target]
    exact margins name member
  · rw [h.sourceProfile based]
    exact pool ((target _).symm.trans missing)

/-- A completed xoff or xon sub-profile carries a margin of at least `defaultMargin`. -/
theorem completedProfile_pktsMargin {name : String} {sub : SubProfile}
    (member : name ∈ marginProfiles) (h : p.completedProfile t base name = some sub) :
    ∃ m, sub.pktsMargin = some m ∧ defaultMargin ≤ m := by
  simp only [completedProfile, if_pos member] at h
  obtain ⟨filled, -, rfl⟩ := Option.map_eq_some_iff.1 h
  exact filled.withMargin_pktsMargin

/-- A completed target lacks the headroom pool only when it has no source. -/
theorem sourceProfile_of_completedProfile_pool
    (h : p.completedProfile t base headroomPoolProfile = none) :
    p.sourceProfile t headroomPoolProfile = none := by
  simp only [completedProfile, filledProfile, headroomPoolProfile_not_mem, if_false,
    List.mem_append, List.mem_singleton, or_true, if_true, Option.orElse_eq_orElse,
    Option.orElse_eq_or, Option.or_eq_none_iff] at h
  exact h.2

/-- Completing a complete table gives it back and writes no margin. -/
theorem prepareDefaults_of_complete (h : p.Complete t) : (p.prepareDefaults t).Yields (p, []) := by
  unfold ParamTable.prepareDefaults
  extract_lets start noUpdates raise fill
  have target : ∀ name, start.targetProfile? name = p.subProfile? t name := by
    intro name
    simp [Completion.targetProfile?, start, subProfile?]
  have raised : ∀ c : Completion, c.table = p → c.target = t → (raise () c).Yields (p, []) := by
    intro c table targeted
    refine yields_bind (yields_forIn_const _ _ _ fun name member => ?_) ?_
    · obtain ⟨sub, m, found, set, high⟩ := h.margins name member
      have found' : c.targetProfile? name = some sub := by
        simpa [Completion.targetProfile?, table, targeted, subProfile?] using found
      exact yields_bind (Completion.raiseMargin_of_le found' set high) (yields_pure _)
    · rw [← table]
      exact yields_pure _
  rw [if_neg (by simpa using Std.TreeMap.contains_iff_mem.2 h.present)]
  refine yields_bind (yields_forIn_const _ _ _ fun name member => ?_) ?_
  · obtain ⟨sub, m, found, -⟩ := h.margins name member
    simp only [target, found, Option.isNone_some, Bool.false_eq_true, ↓reduceIte]
    exact yields_pure _
  dsimp only
  cases pool : p.subProfile? t headroomPoolProfile with
  | some sub =>
    simp only [target, pool, Option.isNone_some, Bool.false_eq_true, ↓reduceIte]
    exact raised start rfl rfl
  | none =>
    simp only [target, pool, Option.isNone_none, ↓reduceIte]
    have unsourced : start.table.sourceProfile start.target headroomPoolProfile = none :=
      h.pool pool
    obtain ⟨c', cloned, table, targeted⟩ := Completion.cloneProfile_of_unsourced rfl unsourced
    refine yields_bind cloned ?_
    dsimp only
    exact yields_bind (yields_log _ _) (raised c' table targeted)

end ParamTable

end LosslessBuffer
