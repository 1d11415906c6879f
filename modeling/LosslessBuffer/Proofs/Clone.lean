import LosslessBuffer.Proofs.Outcome
/-!
# A cloned scenario and its recomputed source

A target the parameter table lacks is cloned from its reference scenario `R`
(`ParamTable.reference`): its completion starts from a copy of `R` and fills each sub-profile
the copy lacks from the top-level defaults, else from `R` itself, which has nothing more to
give. Calculating `R` itself starts from the same scenario and fills from the defaults, else
from the reference of `R`. The two completions therefore agree wherever the clone has a
sub-profile (`ParamTable.completedProfile_reference`): on the xoff and xon sub-profiles, which
both must have, and on every sub-profile that is not filled at all. They part only at the
headroom pool, which is optional: one that neither `R` nor the defaults have is left out of
the clone but is taken from the reference of `R` when `R` is calculated
(`ParamTable.completedProfile_reference_pool`).

`generate_recomputes_reference` lifts this to whole calculations. When the calculation of a
cloned target succeeds under a named ingress lossless profile, calculating `R` on the same
inputs succeeds as well, with the same sizing, and writes into `R` what the clone was written,
except that a missing headroom pool is filled from the reference of `R`. In the sample table
below that reference has a headroom pool, so the two scenarios differ there
(`recomputed_reference_gains_pool`).
-/

set_option autoImplicit false

namespace LosslessBuffer

open LosslessBuffer.Text
open Step

/-! ## Completing a scenario and a clone of it -/

namespace ParamTable

variable {p : ParamTable} {t R : ScenarioKey} {sR : Scenario}

/-- Filled over the scenario of `R`, `R` itself falls back on its own reference where a
target cloned from `R` is left with nothing. -/
theorem filledProfile_reference (chosen : p.reference t = some R)
    (found : p.scenarios[R.raw]? = some sR) (names : List String) (name : String) :
    p.filledProfile R sR names name = (p.filledProfile t sR names name <|>
      if name ∈ names then (p.reference R).bind (p.subProfile? · name) else none) := by
  unfold filledProfile
  split
  · rw [sourceProfile_of_reference chosen found, sourceProfile]
    cases sR.profiles[name]? <;> cases p.defaults[name]? <;> rfl
  · cases sR.profiles[name]? <;> rfl

/-- Where a target cloned from `R` has a sub-profile, or where it is not filled at all, `R`
completed on its own has the same sub-profile, save the headroom pool. -/
theorem completedProfile_reference (chosen : p.reference t = some R)
    (found : p.scenarios[R.raw]? = some sR) {name : String} (other : name ≠ headroomPoolProfile)
    (present : name ∈ marginProfiles → (p.completedProfile t sR name).isSome) :
    p.completedProfile R sR name = p.completedProfile t sR name := by
  unfold completedProfile
  dsimp only
  rw [filledProfile_reference chosen found]
  split
  next member =>
    have filled := present member
    simp only [completedProfile, if_pos member, Option.isSome_map] at filled
    obtain ⟨sub, is⟩ := Option.isSome_iff_exists.1 filled
    rw [is]
    rfl
  next notMargin =>
    rw [if_neg (by simp [notMargin, other])]
    cases p.filledProfile t sR _ name <;> rfl

/-- The headroom pool of `R` completed on its own is the clone's, else the one of the
reference of `R`. -/
theorem completedProfile_reference_pool (chosen : p.reference t = some R)
    (found : p.scenarios[R.raw]? = some sR) :
    p.completedProfile R sR headroomPoolProfile =
      (p.completedProfile t sR headroomPoolProfile <|>
        (p.reference R).bind (p.subProfile? · headroomPoolProfile)) := by
  simp only [completedProfile, if_neg headroomPoolProfile_not_mem]
  rw [filledProfile_reference chosen found, if_pos (by simp)]

end ParamTable

/-! ## Calculating the reference scenario -/

namespace Run

variable {r : Request} {lookup : Option (Bytes → Except Fault Family)} (run : Run r lookup)
  {R : ScenarioKey}

/-- The target scenario a run writes, over its base scenario. -/
theorem outcome_target_profiles {base : Scenario}
    (based : run.table.baseScenario run.sizing.target = some base) :
    ∃ s, run.outcome.params.scenarios[run.sizing.target.raw]? = some s ∧ s.other = base.other ∧
      ∀ name, s.profiles[name]? = (run.table.completedProfile run.sizing.target base name).map
        (SubProfile.assembledAs run.sizing.watermarks name) := by
  obtain ⟨base', based', edits, -⟩ := run.edits
  obtain rfl : base' = base := Option.some.inj (based'.symm.trans based)
  exact edits.scenario

/-- A run that cloned its target from `R` under a named ingress lossless profile sizes the
calculation of `R` too. -/
def recomputeSizing (named : r.ingressProfile.isEmpty = false)
    (chosen : run.table.reference run.sizing.target = some R) :
    Request.Sizing { r with scenario := Bytes.ofString R.raw } lookup :=
  run.sizing.move (ParamTable.ofBytes_reference chosen)
    (by rw [ingressProfileName_of_named named, ingressProfileName_of_named named])

/-- The calculation of the scenario a run cloned its target from cannot fail. -/
theorem recompute_safe (absent : run.sizing.target.raw ∉ run.table.scenarios)
    (named : r.ingressProfile.isEmpty = false)
    (chosen : run.table.reference run.sizing.target = some R) :
    (generate { r with scenario := Bytes.ofString R.raw } lookup).Safe := by
  obtain ⟨sR, found⟩ := ParamTable.exists_of_reference chosen
  obtain ⟨base, based, -, present⟩ := run.edits
  obtain rfl : sR = base := Option.some.inj
    ((ParamTable.baseScenario_of_reference absent chosen found).symm.trans based)
  refine generate_safe (run.recomputeSizing named chosen) run.table_eq
    (ParamTable.prepareDefaults_safe (ParamTable.baseScenario_of_mem found) fun name member => ?_)
  have other : name ≠ headroomPoolProfile := fun same =>
    ParamTable.headroomPoolProfile_not_mem (same ▸ member)
  show (run.table.completedProfile R sR name).isSome
  rw [ParamTable.completedProfile_reference chosen found other fun _ => present name member]
  exact present name member

/-- A calculation of the scenario a run cloned its target from reads the same table and has
the same watermarks. -/
theorem recomputed (named : r.ingressProfile.isEmpty = false)
    (chosen : run.table.reference run.sizing.target = some R)
    (run' : Run { r with scenario := Bytes.ofString R.raw } lookup) :
    run'.table = run.table ∧ run'.sizing.target = R ∧
      run'.sizing.watermarks = run.sizing.watermarks := by
  have same : run'.sizing = run.recomputeSizing named chosen := Subsingleton.elim _ _
  rw [same]
  exact ⟨Option.some.inj (run'.table_eq.symm.trans run.table_eq), rfl, rfl⟩

/-- A run that cloned its target from `R`, and a calculation of `R`, write over the scenario
of `R` the sub-profiles that completing the target, and completing `R`, give it, assembled
with the same watermarks. -/
theorem clone_and_source (absent : run.sizing.target.raw ∉ run.table.scenarios)
    (named : r.ingressProfile.isEmpty = false)
    (chosen : run.table.reference run.sizing.target = some R) {sR : Scenario}
    (found : run.table.scenarios[R.raw]? = some sR)
    (run' : Run { r with scenario := Bytes.ofString R.raw } lookup) :
    ∃ s s', run.outcome.params.scenarios[run.sizing.target.raw]? = some s ∧
      run'.outcome.params.scenarios[R.raw]? = some s' ∧ s'.other = s.other ∧
      ∀ name, s.profiles[name]? = (run.table.completedProfile run.sizing.target sR name).map
          (SubProfile.assembledAs run.sizing.watermarks name) ∧
        s'.profiles[name]? = (run.table.completedProfile R sR name).map
          (SubProfile.assembledAs run.sizing.watermarks name) := by
  obtain ⟨sameTable, targeted, sameMarks⟩ := run.recomputed named chosen run'
  obtain ⟨s, cloned, other, profiles⟩ :=
    run.outcome_target_profiles (ParamTable.baseScenario_of_reference absent chosen found)
  obtain ⟨s', recomputed, other', profiles'⟩ := run'.outcome_target_profiles
    (by rw [sameTable, targeted]; exact ParamTable.baseScenario_of_mem found)
  rw [sameTable, targeted, sameMarks] at profiles'
  rw [targeted] at recomputed
  exact ⟨s, s', cloned, recomputed, other'.trans other.symm,
    fun name => ⟨profiles name, profiles' name⟩⟩

end Run

/-- Calculating the reference scenario `R` of a cloned target, under the same named ingress
lossless profile, succeeds, and writes into `R` what the calculation of the clone wrote into
the target: the same other settings and the same sub-profiles, save a headroom pool the
clone lacks, which `R` takes from its own reference. -/
theorem generate_recomputes_reference {r : Request} {lookup : Option (Bytes → Except Fault Family)}
    {o : Outcome} (h : (generate r lookup).Returns o) {table : ParamTable} {t R : ScenarioKey}
    (given : r.params = some table) (keyed : ScenarioKey.ofBytes r.scenario = .ok t)
    (absent : t.raw ∉ table.scenarios) (named : r.ingressProfile.isEmpty = false)
    (chosen : table.reference t = some R) :
    (generate { r with scenario := Bytes.ofString R.raw } lookup).Succeeds fun o' =>
      ∃ s s', o.params.scenarios[t.raw]? = some s ∧ o'.params.scenarios[R.raw]? = some s' ∧
        s'.other = s.other ∧
        (∀ name, name ≠ headroomPoolProfile → s'.profiles[name]? = s.profiles[name]?) ∧
        s'.profiles[headroomPoolProfile]? = (s.profiles[headroomPoolProfile]? <|>
          ((table.reference R).bind (table.subProfile? · headroomPoolProfile)).map
            (SubProfile.assembledAs o.calculation.watermarks headroomPoolProfile)) := by
  obtain ⟨run, rfl⟩ := generate_ensures r lookup o h
  obtain rfl : run.table = table := Option.some.inj (run.table_eq.symm.trans given)
  obtain rfl : run.sizing.target = t := Except.ok.inj (run.sizing.target_eq.symm.trans keyed)
  obtain ⟨sR, found⟩ := ParamTable.exists_of_reference chosen
  obtain ⟨base, based, -, present⟩ := run.edits
  obtain rfl : sR = base := Option.some.inj
    ((ParamTable.baseScenario_of_reference absent chosen found).symm.trans based)
  refine (run.recompute_safe absent named chosen).succeeds ((generate_ensures _ _).mono ?_)
  rintro _ ⟨run', rfl⟩
  obtain ⟨s, s', cloned, recomputed, other, profiles⟩ :=
    run.clone_and_source absent named chosen found run'
  refine ⟨s, s', cloned, recomputed, other, fun name notPool => ?_, ?_⟩
  · rw [(profiles name).2, (profiles name).1, ParamTable.completedProfile_reference chosen found
      notPool fun member => present name member]
  · rw [(profiles _).2, (profiles _).1, ParamTable.completedProfile_reference_pool chosen found]
    simp only [Option.orElse_eq_orElse, Option.orElse_eq_or, Option.map_or]
    rfl

/-! ## A reference whose own reference has a headroom pool

Three scenarios with xoff sub-profiles, the largest one with a headroom pool as well, and
top-level xon defaults. The target `100000_5m` is missing; its reference is `100000_40m`,
whose own reference is `100000_300m`. -/

namespace CloneSample

def margined : SubProfile := { pktsMargin := some 4 }

def xoffOnly : Scenario :=
  { profiles := ((∅ : Std.TreeMap String SubProfile).insert "xoff_1" margined).insert "xoff_2"
      margined }

def pooled : Scenario :=
  { profiles := xoffOnly.profiles.insert headroomPoolProfile { trigPfc := some 1 } }

def table : ParamTable :=
  { scenarios := (((∅ : Std.TreeMap String Scenario).insert "40000_5m" xoffOnly).insert
      "100000_40m" xoffOnly).insert "100000_300m" pooled
    defaults := ((∅ : Std.TreeMap String SubProfile).insert "xon_1" margined).insert "xon_2"
      margined }

def request : Request :=
  { Sample.request with
    params := some table
    ingressProfile := Bytes.ofString "pg_lossless_100000_5m_profile" }

def target : ScenarioKey := ⟨100000, 5, "100000_5m"⟩

def source : ScenarioKey := ⟨100000, 40, "100000_40m"⟩

def pooledKey : ScenarioKey := ⟨100000, 300, "100000_300m"⟩

def shortKey : ScenarioKey := ⟨40000, 5, "40000_5m"⟩

-- `mergeSort` does not reduce by `decide`, so the sorted keys are found by uniqueness
theorem scenarioKeys_eq : table.scenarioKeys = [shortKey, source, pooledKey] := by
  refine ScenarioKey.eq_of_perm_of_sorted (ScenarioKey.sortedOf_pairwise _) (by decide) ?_
  refine (ScenarioKey.sortedOf_perm _).trans ?_
  decide

theorem reference_target : table.reference target = some source := by
  rw [ParamTable.reference, scenarioKeys_eq]
  decide

theorem reference_source : table.reference source = some pooledKey := by
  rw [ParamTable.reference, scenarioKeys_eq]
  decide

theorem keyed : ScenarioKey.ofBytes request.scenario = .ok target :=
  ScenarioKey.ofBytes_of_ofName? (by decide)

theorem named : request.ingressProfile.isEmpty = false := by
  show (Bytes.ofString "pg_lossless_100000_5m_profile").isEmpty = false
  rw [Bytes.isEmpty_ofString]
  decide

/-- The profile named here is the one named after the target. -/
theorem profile_named :
    ingressProfileName request.ingressProfile target = ingressProfileName (Bytes.ofString "") target := by
  have unnamed : (Bytes.ofString "").isEmpty = true := by
    rw [Bytes.isEmpty_ofString]
    decide
  rw [ingressProfileName_of_named named, ingressProfileName, if_pos unnamed]
  exact congrArg Bytes.ofString (by decide)

theorem absent : target.raw ∉ table.scenarios := by decide

theorem found : table.scenarios[source.raw]? = some xoffOnly := by
  show table.scenarios["100000_40m"]? = some xoffOnly
  rw [table, Std.TreeMap.getElem?_insert, if_neg (by decide),
    Std.TreeMap.getElem?_insert_self]

theorem present :
    ∀ name ∈ marginProfiles, (table.completedProfile target xoffOnly name).isSome := by
  simp only [ParamTable.completedProfile, ParamTable.filledProfile,
    ParamTable.sourceProfile_of_reference reference_target found]
  decide

theorem cloned_pool : table.completedProfile target xoffOnly headroomPoolProfile = none := by
  simp only [ParamTable.completedProfile, ParamTable.filledProfile,
    ParamTable.sourceProfile_of_reference reference_target found]
  decide

theorem source_pool :
    ((table.reference source).bind (table.subProfile? · headroomPoolProfile)).isSome := by
  rw [reference_source]
  decide

theorem request_runs : ∃ o, (generate request (some Family.lookup)).Returns o := by
  obtain ⟨o, runs⟩ := Sample.request_runs
  obtain ⟨run, rfl⟩ := generate_ensures _ _ _ runs
  have targeted : run.sizing.target = target :=
    Except.ok.inj (run.sizing.target_eq.symm.trans keyed)
  let z : request.Sizing (some Family.lookup) :=
    run.sizing.move keyed (by rw [targeted]; exact profile_named)
  exact (generate_safe z rfl (ParamTable.prepareDefaults_safe
    (ParamTable.baseScenario_of_reference absent reference_target found) present)).exists_returns

end CloneSample

theorem generate_recomputes_reference_sample :
    ∃ o, (generate CloneSample.request (some Family.lookup)).Returns o ∧
      (generate { CloneSample.request with scenario := Bytes.ofString CloneSample.source.raw }
        (some Family.lookup)).Succeeds fun o' =>
      ∃ s s', o.params.scenarios[CloneSample.target.raw]? = some s ∧
        o'.params.scenarios[CloneSample.source.raw]? = some s' ∧ s'.other = s.other ∧
        (∀ name, name ≠ headroomPoolProfile → s'.profiles[name]? = s.profiles[name]?) ∧
        s'.profiles[headroomPoolProfile]? = (s.profiles[headroomPoolProfile]? <|>
          ((CloneSample.table.reference CloneSample.source).bind
            (CloneSample.table.subProfile? · headroomPoolProfile)).map
            (SubProfile.assembledAs o.calculation.watermarks headroomPoolProfile)) := by
  obtain ⟨o, runs⟩ := CloneSample.request_runs
  exact ⟨o, runs, generate_recomputes_reference runs rfl CloneSample.keyed CloneSample.absent
    CloneSample.named CloneSample.reference_target⟩

/-- Calculating `100000_5m` clones it from `100000_40m` without a headroom pool, while
calculating `100000_40m` itself fills one in from `100000_300m`. -/
theorem recomputed_reference_gains_pool :
    ∃ o o', (generate CloneSample.request (some Family.lookup)).Returns o ∧
      (generate { CloneSample.request with scenario := Bytes.ofString "100000_40m" }
        (some Family.lookup)).Returns o' ∧
      (o.params.scenarios["100000_5m"]?).bind (·.profiles[headroomPoolProfile]?) = none ∧
      ((o'.params.scenarios["100000_40m"]?).bind (·.profiles[headroomPoolProfile]?)).isSome := by
  obtain ⟨o, runs⟩ := CloneSample.request_runs
  obtain ⟨run, rfl⟩ := generate_ensures _ _ _ runs
  have tabled : run.table = CloneSample.table := Option.some.inj run.table_eq.symm
  have targeted : run.sizing.target = CloneSample.target :=
    Except.ok.inj (run.sizing.target_eq.symm.trans CloneSample.keyed)
  have absent : run.sizing.target.raw ∉ run.table.scenarios := by
    rw [tabled, targeted]
    exact CloneSample.absent
  have chosen : run.table.reference run.sizing.target = some CloneSample.source := by
    rw [tabled, targeted]
    exact CloneSample.reference_target
  have found : run.table.scenarios[CloneSample.source.raw]? = some CloneSample.xoffOnly := by
    rw [tabled]
    exact CloneSample.found
  obtain ⟨o', runs'⟩ := (run.recompute_safe absent CloneSample.named chosen).exists_returns
  obtain ⟨run', rfl⟩ := generate_ensures _ _ _ runs'
  obtain ⟨s, s', cloned, recomputed, -, profiles⟩ :=
    run.clone_and_source absent CloneSample.named chosen found run'
  rw [targeted] at cloned
  refine ⟨run.outcome, run'.outcome, runs, runs', ?_, ?_⟩
  · rw [show "100000_5m" = CloneSample.target.raw from rfl, cloned, Option.bind_some,
      (profiles _).1, tabled, targeted, CloneSample.cloned_pool, Option.map_none]
  · rw [show "100000_40m" = CloneSample.source.raw from rfl, recomputed, Option.bind_some,
      (profiles _).2, tabled, ParamTable.completedProfile_reference_pool
      CloneSample.reference_target CloneSample.found, CloneSample.cloned_pool, Option.isSome_map]
    exact CloneSample.source_pool

end LosslessBuffer
