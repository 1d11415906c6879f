import LosslessBuffer.Proofs.CompletionTrace
/-!
# Completing a scenario, case by case

`ParamTable.prepareDefaults` completes target `t` of table `p` over its base scenario
(`ParamTable.baseScenario`): the target itself, else a copy of the reference scenario. Which
way a completion ends is decided by the table alone:

* with no base scenario (the target is missing and there are too few scenarios to choose a
  reference from) it fails as the choice of the reference does
  (`ParamTable.prepareDefaults_throws_of_baseless`);
* with a base scenario, it fails at the first xoff or xon sub-profile found neither in the
  base nor at its source (`ParamTable.unsourced`): for lack of a reference when there is
  none, and otherwise for that missing sub-profile
  (`ParamTable.prepareDefaults_throws_of_unsourced`);
* otherwise it succeeds, rewriting only the target to its completed sub-profiles and
  returning the margin writes `ParamTable.marginRecords`
  (`ParamTable.prepareDefaults_succeeds_of_sourced`).

The failures are proved with the rules for steps that fail with a known fault
(`Step.throws_forIn`): the filling pass visits the names before the first unsourced one
without failing, and fails at it (`Completion.Within.cloneProfile_bind_unsourced`).
`ParamTable.prepareDefaults_completes_target` puts the three cases together with the margins
written and the one reference record traced.
-/

set_option autoImplicit false

namespace LosslessBuffer

open Step

namespace ParamTable

variable {p : ParamTable} {t : ScenarioKey} {base : Scenario}

/-- Sub-profile `name` is in neither the base scenario nor at its source. -/
def unsourced (p : ParamTable) (t : ScenarioKey) (base : Scenario) (name : String) : Bool :=
  (base.profiles[name]? <|> p.sourceProfile t name).isNone

theorem unsourced_eq_false_iff {name : String} :
    p.unsourced t base name = false ↔
      (base.profiles[name]? <|> p.sourceProfile t name).isSome := by
  unfold unsourced
  cases base.profiles[name]? <|> p.sourceProfile t name <;> simp

theorem unsourced_eq_true_iff {name : String} :
    p.unsourced t base name = true ↔
      base.profiles[name]? = none ∧ p.defaults[name]? = none ∧
        (p.reference t).bind (fun ref => p.subProfile? ref name) = none := by
  simp [unsourced, sourceProfile, Option.orElse_eq_orElse, Option.orElse_eq_or]

/-- A table has no base scenario for the target only when it lacks the target and has no
reference. -/
theorem baseScenario_eq_none (h : p.baseScenario t = none) :
    p.scenarios[t.raw]? = none ∧ p.reference t = none := by
  unfold baseScenario at h
  split at h
  next => cases h
  next missing => exact ⟨missing, Option.map_eq_none_iff.1 h⟩

/-- A table without a reference has its target when it has a base scenario. -/
theorem mem_of_baseScenario (based : p.baseScenario t = some base)
    (unchosen : p.reference t = none) :
    t.raw ∈ p.scenarios := by
  unfold baseScenario at based
  split at based
  next s found => exact Std.TreeMap.mem_of_getElem?_eq_some found
  next => rw [unchosen] at based; cases based

theorem nearestTo_error_of_reference (unchosen : p.reference t = none) :
    ∃ e, ScenarioKey.nearestTo p.scenarioKeys t = .error e := by
  unfold reference at unchosen
  split at unchosen
  next => cases unchosen
  next e found => exact ⟨e, found⟩

end ParamTable

namespace Completion

variable {p : ParamTable} {t : ScenarioKey} {base : Scenario}
  {profiles : String → Option SubProfile} {c : Completion}

/-- A required sub-profile with no top-level default, asked for while no reference is chosen
and none can be, fails as the choice of the reference does. -/
theorem cloneProfile_throws {name : String} {e : Fault} (unchosen : c.reference = none)
    (undefaulted : c.table.defaults[name]? = none)
    (missing : ScenarioKey.nearestTo c.table.scenarioKeys c.target = .error e) :
    (c.cloneProfile name false).Throws e := by
  unfold cloneProfile
  simp only [Std.TreeMap.get?_eq_getElem?, undefaulted]
  refine throws_bind (throws_tryCatch (throws_map _ (referenceKey_throws unchosen missing)) ?_)
  simp only [Bool.false_and, Bool.false_eq_true, ↓reduceIte]
  exact fun _ => rfl

/-- Completion over a base scenario, asked for a required sub-profile the target lacks and
that has no source, fails: as the choice of the reference fails when the table has no
reference, and as the step after the empty copy fails when it has one. -/
theorem Within.cloneProfile_bind_unsourced {β : Type} (h : c.Within p t base profiles)
    (based : p.baseScenario t = some base) {name : String} (absent : profiles name = none)
    (undefaulted : p.defaults[name]? = none)
    (noCopy : (p.reference t).bind (fun ref => p.subProfile? ref name) = none)
    {k : Bool × Completion → Step β} {e : Fault}
    (unreferenced : p.reference t = none → ScenarioKey.nearestTo p.scenarioKeys t = .error e)
    (next : p.reference t ≠ none → ∀ c', (k (false, c')).Throws e) :
    (c.cloneProfile name false >>= k).Throws e := by
  have noDefault : c.table.defaults[name]? = none := by
    rw [h.table.defaults]
    exact undefaulted
  cases chosen : p.reference t with
  | none =>
    have present := ParamTable.mem_of_baseScenario based chosen
    have keys : c.table.scenarioKeys = p.scenarioKeys :=
      ParamTable.scenarioKeys_eq_of_mem_iff fun k => by
        rw [h.table.mem k]
        exact ⟨fun held => held.elim id fun same => same ▸ present, .inl⟩
    have unchosen : c.reference = none := by
      have := h.reference
      rw [chosen, Option.orElse_apply, Option.orElse_eq_or, Option.or_eq_none_iff] at this
      exact this.1
    refine throws_bind (cloneProfile_throws unchosen noDefault ?_)
    rw [keys, h.target]
    exact unreferenced chosen
  | some ref =>
    have possible : (c.reference <|> c.table.reference c.target).isSome := by
      rw [h.target, h.reference, chosen]
      rfl
    have copied := h.cloneProfile name false absent
    have unsourced : p.sourceProfile t name = none := by
      simp [ParamTable.sourceProfile, undefaulted, noCopy]
    refine throws_bind_of_safe (Completion.cloneProfile_safe (.inr (.inr possible)))
      fun r returned => ?_
    obtain ⟨notCloned, -⟩ := copied r returned
    rw [unsourced, Option.isSome_none] at notCloned
    obtain ⟨cloned, c'⟩ := r
    dsimp only at notCloned
    subst notCloned
    exact next (by simp [chosen]) c'

end Completion

namespace ParamTable

variable {p : ParamTable} {t : ScenarioKey} {base : Scenario}

/-- A table that lacks the target and has no reference fails to complete it, as the choice of
the reference fails. -/
theorem prepareDefaults_throws_of_baseless (h : p.baseScenario t = none) :
    ∃ e, ScenarioKey.nearestTo p.scenarioKeys t = .error e ∧
      (p.prepareDefaults t).Throws e := by
  obtain ⟨missing, unchosen⟩ := baseScenario_eq_none h
  obtain ⟨e, failed⟩ := nearestTo_error_of_reference unchosen
  refine ⟨e, failed, ?_⟩
  unfold ParamTable.prepareDefaults
  extract_lets start noUpdates raise fill
  split
  next => exact throws_bind (Completion.referenceKey_throws rfl failed)
  next present =>
    have there : t.raw ∈ p.scenarios := by simpa using present
    exact absurd (Std.TreeMap.mem_iff_isSome_getElem?.1 there) (by simp [missing])

/-- Completion over a base scenario fails at the first xoff or xon sub-profile found neither in
the base nor at its source: as the choice of the reference fails when the table has no
reference, and for the missing sub-profile when it has one. -/
theorem prepareDefaults_throws_of_unsourced {name : String}
    (based : p.baseScenario t = some base)
    (first : marginProfiles.find? (p.unsourced t base) = some name) :
    ∃ e, (p.prepareDefaults t).Throws e ∧
      (p.reference t = none → ScenarioKey.nearestTo p.scenarioKeys t = .error e) ∧
      (p.reference t ≠ none → e = .broken .missingSubProfile (profilePath t.raw name)) := by
  obtain ⟨e, noReference, someReference⟩ : ∃ e : Fault,
      (p.reference t = none → ScenarioKey.nearestTo p.scenarioKeys t = .error e) ∧
      (p.reference t ≠ none → e = .broken .missingSubProfile (profilePath t.raw name)) := by
    cases chosen : p.reference t with
    | none =>
      obtain ⟨e, failed⟩ := nearestTo_error_of_reference chosen
      exact ⟨e, fun _ => failed, fun other => absurd rfl other⟩
    | some ref => exact ⟨_, (by simp), fun _ => rfl⟩
  refine ⟨e, ?_, noReference, someReference⟩
  obtain ⟨unsourcedName, before, after, split, sourcedBefore⟩ :=
    List.find?_eq_some_iff_append.1 first
  obtain ⟨baseless, undefaulted, noCopy⟩ := unsourced_eq_true_iff.1 unsourcedName
  unfold ParamTable.prepareDefaults
  extract_lets start noUpdates raise fill
  -- the filling pass visits the sourced names before `name` without failing, and fails at it;
  -- `pre` are the names still to visit before it
  have filling : ∀ c, c.Within p t base (fun n => base.profiles[n]?) →
      (fill () c).Throws e := by
    intro c within
    let I (rest : List String) (c : Completion) : Prop :=
      rest.Nodup ∧ ∃ pre, rest = pre ++ name :: after ∧
        (∀ n ∈ pre, p.unsourced t base n = false) ∧
        ∃ f, c.Within p t base f ∧ ∀ n ∈ rest, f n = base.profiles[n]?
    have start : I marginProfiles c := ⟨marginProfiles_nodup, before, split,
      fun n member => by simpa using sourcedBefore n member, _, within, fun _ _ => rfl⟩
    refine throws_bind (throws_forIn marginProfiles c _ I start ?_ ?_)
    rotate_left
    · rintro c' ⟨-, pre, shape, -⟩
      simp at shape
    rintro x rest c' ⟨distinct, pre, shape, sourced, f, within', untouched⟩
    have same : f x = base.profiles[x]? := untouched x List.mem_cons_self
    cases pre with
    | nil =>
      obtain ⟨rfl, -⟩ := List.cons_eq_cons.1 shape
      left
      dsimp only
      rw [within'.targetProfile? x, same, baseless]
      simp only [Option.isNone_none, ↓reduceIte]
      refine within'.cloneProfile_bind_unsourced based (same.trans baseless) undefaulted noCopy
        noReference fun other c'' => ?_
      simp only [Bool.not_false, ↓reduceIte]
      rw [someReference other]
      exact throws_bind (throws_fail _)
    | cons a pre =>
      obtain ⟨rfl, rfl⟩ := List.cons_eq_cons.1 shape
      right
      have fresh : x ∉ pre ++ name :: after := (List.nodup_cons.1 distinct).1
      have kept : I (pre ++ name :: after) c' := ⟨(List.nodup_cons.1 distinct).2, pre, rfl,
        fun n member => sourced n (List.mem_cons_of_mem _ member), f, within',
        fun n member => untouched n (List.mem_cons_of_mem _ member)⟩
      dsimp only
      rw [within'.targetProfile? x, same]
      cases found : base.profiles[x]? with
      | some sub =>
        simp only [Option.isNone_some, Bool.false_eq_true, ↓reduceIte]
        exact ⟨(yields_pure _).safe, ensures_pure ⟨c', rfl, kept⟩⟩
      | none =>
        simp only [Option.isNone_none, ↓reduceIte]
        have source : (p.sourceProfile t x).isSome := by
          simpa [found] using unsourced_eq_false_iff.1 (sourced x List.mem_cons_self)
        refine within'.cloneProfile_bind_sourced (same.trans found) source fun next within'' => ?_
        refine ⟨(yields_pure _).safe, ensures_pure ⟨next, rfl, (List.nodup_cons.1 distinct).2,
          pre, rfl, fun n member => sourced n (List.mem_cons_of_mem _ member), _, within'',
          fun n member => ?_⟩⟩
        rw [Function.update_of_ne (fun same => fresh (by rw [← same]; exact member))]
        exact untouched n (List.mem_cons_of_mem _ member)
  split
  next absent =>
    have missing : p.scenarios[t.raw]? = none :=
      Std.TreeMap.getElem?_eq_none_of_contains_eq_false (by simpa using absent)
    obtain ⟨ref, chosen, rfl⟩ := baseScenario_of_missing missing based
    obtain ⟨equivalent, found⟩ : ∃ equivalent,
        ScenarioKey.nearestTo p.scenarioKeys t = .ok (ref, equivalent) := by
      unfold reference at chosen
      split at chosen
      next key equivalent found => cases chosen; exact ⟨equivalent, found⟩
      next => cases chosen
    refine throws_bind_of_yields (Completion.referenceKey_yields rfl found) ?_
    exact throws_bind_of_yields (yields_log _ _) (filling _ (Completion.Within.copy chosen))
  next present =>
    have there : (p.scenarios[t.raw]?).isSome := by
      rw [← Std.TreeMap.contains_eq_isSome_getElem?]
      simpa using present
    obtain ⟨s, found⟩ := Option.isSome_iff_exists.1 there
    have same : base = s := by
      simp only [baseScenario, found, Option.some.injEq] at based
      exact based.symm
    subst same
    exact filling start (Completion.Within.start found)

/-- A completed xoff or xon sub-profile that has a source is the filled one with its margin
raised to `defaultMargin`, or set to it when unset. -/
theorem completedProfile_margin {name : String} (member : name ∈ marginProfiles)
    (sourced : p.unsourced t base name = false) :
    ∃ old new,
      p.filledProfile t base (marginProfiles ++ [headroomPoolProfile]) name = some old ∧
      p.completedProfile t base name = some new ∧
      new.pktsMargin = some ((old.pktsMargin.map (max defaultMargin)).getD defaultMargin) := by
  obtain ⟨old, found⟩ := Option.isSome_iff_exists.1 (unsourced_eq_false_iff.1 sourced)
  have filled :
      p.filledProfile t base (marginProfiles ++ [headroomPoolProfile]) name = some old := by
    rw [filledProfile, if_pos (List.mem_append_left _ member), found]
  refine ⟨old, old.withMargin, filled, ?_, old.withMargin_pktsMargin_eq⟩
  simp only [completedProfile, if_pos member, filled, Option.map_some]

/-- Completion over a base scenario in which every xoff and xon sub-profile is found in the base
or at its source succeeds: it rewrites only the target, to its completed sub-profiles, whose
xoff and xon margins are raised to `defaultMargin`, and returns the margin writes. -/
theorem prepareDefaults_succeeds_of_sourced (based : p.baseScenario t = some base)
    (sourced : marginProfiles.find? (p.unsourced t base) = none) :
    (p.prepareDefaults t).Succeeds fun r =>
      EditsTarget p t base (p.completedProfile t base) r.1 ∧
      (∀ name ∈ marginProfiles, ∃ old new,
        p.filledProfile t base (marginProfiles ++ [headroomPoolProfile]) name = some old ∧
        r.1.subProfile? t name = some new ∧
        new.pktsMargin = some ((old.pktsMargin.map (max defaultMargin)).getD defaultMargin)) ∧
      r.2 = p.marginRecords t base := by
  have each : ∀ name ∈ marginProfiles, p.unsourced t base name = false := fun name member => by
    simpa using List.find?_eq_none.1 sourced name member
  have present : ∀ name ∈ marginProfiles, (p.completedProfile t base name).isSome := by
    intro name member
    obtain ⟨_, _, _, completed, _⟩ := completedProfile_margin member (each name member)
    simp [completed]
  refine (prepareDefaults_safe based present).succeeds
    ((prepareDefaults_ensures_records p t).mono ?_)
  rintro r ⟨⟨base', based', edits, -⟩, logged⟩
  rw [based] at based'
  cases based'
  refine ⟨edits, fun name member => ?_, logged base based⟩
  obtain ⟨old, new, filled, completed, margin⟩ :=
    completedProfile_margin member (each name member)
  exact ⟨old, new, filled, (edits.subProfile?_target name).trans completed, margin⟩

/-- Completing the target, case by case. With no base scenario it fails for lack of reference
data. Over a base scenario it fails at the first xoff or xon sub-profile with no source: for
lack of reference data when the table has no reference, and for that sub-profile otherwise.
When each has a source it succeeds, rewriting only the target to its completed sub-profiles,
with every xoff and xon margin raised to `defaultMargin` (set to it when unset), and returns
one margin write per sub-profile whose margin was low or unset. Whichever way it ends, it
traces at most the one reference record. -/
theorem prepareDefaults_completes_target (p : ParamTable) (t : ScenarioKey) :
    (p.baseScenario t = none → ∃ e, (p.prepareDefaults t).Throws e ∧
      e.cause? = some .insufficientReferenceData) ∧
    (∀ base, p.baseScenario t = some base →
      (∀ name, marginProfiles.find? (p.unsourced t base) = some name → ∃ e,
        (p.prepareDefaults t).Throws e ∧
        (p.reference t = none → e.cause? = some .insufficientReferenceData) ∧
        (p.reference t ≠ none → e = .broken .missingSubProfile (profilePath t.raw name))) ∧
      (marginProfiles.find? (p.unsourced t base) = none → (p.prepareDefaults t).Succeeds fun r =>
        EditsTarget p t base (p.completedProfile t base) r.1 ∧
        (∀ name ∈ marginProfiles, ∃ old new,
          p.filledProfile t base (marginProfiles ++ [headroomPoolProfile]) name = some old ∧
          r.1.subProfile? t name = some new ∧
          new.pktsMargin = some ((old.pktsMargin.map (max defaultMargin)).getD defaultMargin)) ∧
        r.2 = p.marginRecords t base)) ∧
    (p.prepareDefaults t).Writes fun _ d => d.references = (p.referenceRecord? t).toList := by
  refine ⟨fun baseless => ?_, fun base based => ⟨fun name first => ?_,
    prepareDefaults_succeeds_of_sourced based⟩,
    (prepareDefaults_writes p t).mono fun _ _ _ traced => traced.1⟩
  · obtain ⟨e, failed, throws⟩ := prepareDefaults_throws_of_baseless baseless
    exact ⟨e, throws, (ScenarioKey.nearestTo_error failed).2⟩
  · obtain ⟨e, throws, noReference, someReference⟩ :=
      prepareDefaults_throws_of_unsourced based first
    exact ⟨e, throws, fun unchosen => (ScenarioKey.nearestTo_error (noReference unchosen)).2,
      someReference⟩

end ParamTable

/-! ## The margin floor on a present target

The target `100000_40m` has xoff sub-profiles with margins 2 and unset; its xon sub-profiles
come from top-level defaults with margins 6 and unset. -/

namespace MarginSample

def block : Scenario :=
  { profiles := ((∅ : Std.TreeMap String SubProfile).insert "xoff_1"
      { pktsMargin := some 2 }).insert "xoff_2" {} }

def table : ParamTable :=
  { scenarios := (∅ : Std.TreeMap String Scenario).insert "100000_40m" block
    defaults := ((∅ : Std.TreeMap String SubProfile).insert "xon_1"
      { pktsMargin := some 6 }).insert "xon_2" {} }

def target : ScenarioKey := ⟨100000, 40, "100000_40m"⟩

theorem based : table.baseScenario target = some block := by
  simp only [ParamTable.baseScenario, table, target, Std.TreeMap.getElem?_insert_self]

theorem sourced : marginProfiles.find? (table.unsourced target block) = none := by
  decide

theorem records : table.marginRecords target block =
    [⟨"100000_40m", "xoff_1", "pkts_num_margin", "2", "4"⟩,
      ⟨"100000_40m", "xoff_2", "pkts_num_margin", "", "4"⟩,
      ⟨"100000_40m", "xon_2", "pkts_num_margin", "", "4"⟩] := by
  decide

end MarginSample

/-- The sample completes, writing in name order the three margins that were low or unset;
the xon margin of 6 needs no write. -/
theorem prepareDefaults_completes_target_sample :
    (MarginSample.table.prepareDefaults MarginSample.target).Succeeds fun r =>
      r.2 = [⟨"100000_40m", "xoff_1", "pkts_num_margin", "2", "4"⟩,
        ⟨"100000_40m", "xoff_2", "pkts_num_margin", "", "4"⟩,
        ⟨"100000_40m", "xon_2", "pkts_num_margin", "", "4"⟩] :=
  (((ParamTable.prepareDefaults_completes_target MarginSample.table MarginSample.target).2.1
    MarginSample.block MarginSample.based).2 MarginSample.sourced).mono
    fun _ done => done.2.2.trans MarginSample.records

end LosslessBuffer
