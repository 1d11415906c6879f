import LosslessBuffer.Proofs.Completion
import LosslessBuffer.Proofs.Records
/-!
# What completing a scenario traces

Completing a scenario puts three kinds of records into the trace: the reference scenario,
when it is first asked for; each sub-profile copied; and each margin raised. A step of a
completion from `c` to `c'` is described by `Completion.Traced c c' updates d`: the
reference records of `c`, then those the step put in, are those of `c'`, whose reference
the step may have chosen; the margins it wrote are `updates`; and nothing else but copies
is recorded. Steps compose (`Completion.Traced.trans`).

Completion asks for the reference when the table lacks the target, or when the base
scenario lacks a sub-profile that has no top-level default (`ParamTable.needsReference`).
The first ask records the reference, if the table has one, and later asks reuse it. A
successful completion therefore records at most one reference, exactly when it asked and
there was one to choose, flagged as equivalent exactly when it has the target's speed and
cable length (`ParamTable.prepareDefaults_writes`).
-/

set_option autoImplicit false

namespace LosslessBuffer

open Step

/-- The record of the reference scenario `ref` chosen for target `t`, with whether it has the
target's speed and cable length. -/
def referenceRecord (t ref : ScenarioKey) : ReferenceRecord :=
  ⟨t.raw, ref.raw, decide (ref.speed = t.speed ∧ ref.cableLength = t.cableLength)⟩

namespace Completion

/-- The reference records of a completion: one once it has chosen a reference. -/
def references (c : Completion) : List ReferenceRecord :=
  (c.reference.map (referenceRecord c.target)).toList

/-- What a part of a completion from `c` to `c'` that writes the margins `updates` puts into
the trace, copies of sub-profiles aside: the reference `c'` has chosen if `c` had none, and
the margins. The target stays. -/
structure Traced (c c' : Completion) (updates : List UpdateRecord) (d : Records) : Prop where
  target : c'.target = c.target
  references : c.references ++ d.references = c'.references
  updates : d.updates = updates
  terms : d.terms = []
  skips : d.skips = []
  overrides : d.overrides = []
  warnings : d.warnings = []

variable {c c' c'' : Completion} {u u' : List UpdateRecord} {d d' : Records}

theorem Traced.refl (c : Completion) : c.Traced c [] {} :=
  ⟨rfl, List.append_nil _, rfl, rfl, rfl, rfl, rfl⟩

theorem Traced.trans (h : c.Traced c' u d) (h' : c'.Traced c'' u' d') :
    c.Traced c'' (u ++ u') (d ++ d') where
  target := h'.target.trans h.target
  references := by rw [Records.references_append, ← List.append_assoc, h.references, h'.references]
  updates := by rw [Records.updates_append, h.updates, h'.updates]
  terms := by rw [Records.terms_append, h.terms, h'.terms, List.append_nil]
  skips := by rw [Records.skips_append, h.skips, h'.skips, List.append_nil]
  overrides := by rw [Records.overrides_append, h.overrides, h'.overrides, List.append_nil]
  warnings := by rw [Records.warnings_append, h.warnings, h'.warnings, List.append_nil]

/-- Changing the table and recording copies of sub-profiles puts nothing else in. -/
theorem Traced.copies (c : Completion) (table : ParamTable) (clones : List CloneRecord) :
    c.Traced { c with table } [] { clones } :=
  ⟨rfl, List.append_nil _, rfl, rfl, rfl, rfl, rfl⟩

/-- The reference, when first asked for, is recorded. -/
theorem referenceKey_writes (c : Completion) :
    c.referenceKey.Writes fun r d => c.Traced r.2 [] d := by
  unfold referenceKey
  split
  next => exact writes_pure (Traced.refl c)
  next unchosen =>
    refine writes_bind (P := fun _ d => d = {}) (writes_ofExcept fun _ _ => rfl)
      fun ⟨key, equivalent⟩ d returned empty => ?_
    subst empty
    have flag := ScenarioKey.nearestTo_equivalent c.table.scenarioKeys_distinct
      (ensures_ofExcept _ _ returned)
    have traced : c.Traced { c with reference := some key } []
        { references := [⟨c.target.raw, key.raw, equivalent⟩] } :=
      ⟨rfl, by simp [references, unchosen, referenceRecord, flag], rfl, rfl, rfl, rfl, rfl⟩
    dsimp only
    refine writes_traced_bind _ (Trace.addReference_eq _) (writes_ite
      (fun _ => writes_log_bind (writes_pure ?_)) fun _ => writes_pure ?_) <;> simpa using traced

theorem referenceKey_failsQuietly (c : Completion) : c.referenceKey.FailsQuietly := by
  intro j e j' failed
  obtain ⟨unchosen, missing⟩ := referenceKey_fails ⟨j, j', failed⟩
  unfold referenceKey at failed
  simp only [unchosen] at failed
  rw [run'_bind, run'_ofExcept, missing] at failed
  cases failed
  rfl

theorem copyProfile_writes (c : Completion) (name source : String) (sub : SubProfile) :
    (c.copyProfile name source sub).Writes fun c' d => c.Traced c' [] d :=
  writes_traced_bind _ (Trace.addClone_eq _)
    (writes_log_bind (writes_pure (by simpa using Traced.copies c _ _)))

/-- Cloning a sub-profile records the reference when it is first asked for then. Without a
top-level default of that name, the reference it leaves is the one chosen, else the one the
table gives, if any. -/
theorem cloneProfile_writes (c : Completion) (name : String) (optional : Bool) :
    (c.cloneProfile name optional).Writes fun r d => c.Traced r.2 [] d ∧
      r.2.reference = if (c.table.defaults[name]?).isNone then
        (c.reference <|> c.table.reference c.target) else c.reference := by
  unfold cloneProfile
  split
  next sub found =>
    have defaulted : c.table.defaults[name]? = some sub := by simpa using found
    simp only [defaulted, Option.isNone_some, Bool.false_eq_true, ↓reduceIte]
    refine writes_bind (copyProfile_writes c name _ sub) fun c' d returned traced =>
      writes_pure ⟨by simpa using traced, ?_⟩
    rw [returned.eq_of_yields (copyProfile_yields c name _ sub)]
    rfl
  next found =>
    have undefaulted : c.table.defaults[name]? = none := by simpa using found
    simp only [undefaulted, Option.isNone_none, ↓reduceIte]
    have asked : (tryCatch (some <$> c.referenceKey) fun fault =>
        if (optional && fault.cause? == some .insufficientReferenceData) = true then pure none
        else throw fault).Writes fun chosen d => c.Traced ((chosen.map Prod.snd).getD c) [] d ∧
          ((chosen.map Prod.snd).getD c).reference = (c.reference <|> c.table.reference c.target) := by
      refine writes_tryCatch (writes_map ((referenceKey_writes c).mono
        fun r d returned traced => ⟨traced, ?_⟩)) (failsQuietly_map _ (referenceKey_failsQuietly c))
        fun e failed => ?_
      · obtain ⟨chosen, same⟩ := referenceKey_ensures c r returned
        show r.2.reference = _
        rw [same]
        exact chosen.symm
      · obtain ⟨unchosen, missing⟩ := referenceKey_fails failed.map
        refine writes_ite (fun _ => writes_pure ⟨Traced.refl c, ?_⟩) fun _ => writes_throw
        simp [unchosen, ParamTable.reference_eq_none missing]
    refine writes_bind asked fun chosen d _ ⟨traced, chose⟩ => ?_
    rcases chosen with _ | ⟨ref, c'⟩
    · exact writes_pure ⟨by simpa using traced, by simpa using chose⟩
    · dsimp only at traced chose ⊢
      split
      · exact writes_pure ⟨by simpa using traced, chose⟩
      · refine writes_bind (copyProfile_writes c' name _ _) fun c'' d' returned traced' =>
          writes_pure ⟨by simpa using traced.trans traced', ?_⟩
        rw [returned.eq_of_yields (copyProfile_yields _ _ _ _)]
        exact chose

theorem writeMargin_writes (c : Completion) (name : String) (sub : SubProfile) :
    (c.writeMargin name sub).Writes fun r d =>
      c.Traced r.2 r.1.toList d ∧ r.2.reference = c.reference :=
  writes_traced_bind _ (Trace.addUpdate_eq _) (writes_log_bind (writes_pure
    ⟨⟨rfl, List.append_nil _, rfl, rfl, rfl, rfl, rfl⟩, rfl⟩))

/-- Raising a margin records the write, if any, and keeps the reference. -/
theorem raiseMargin_writes (c : Completion) (name : String) :
    (c.raiseMargin name).Writes fun r d =>
      c.Traced r.2 r.1.toList d ∧ r.2.reference = c.reference := by
  unfold raiseMargin
  split
  next => exact writes_pure ⟨Traced.refl c, rfl⟩
  next sub _ =>
    split
    next =>
      split
      next => exact writes_pure ⟨Traced.refl c, rfl⟩
      next => exact writeMargin_writes c name sub
    next => exact writeMargin_writes c name sub

end Completion

namespace ParamTable

/-- Whether completing target `t` of `p` asks for a reference scenario: `p` lacks the target,
or the target lacks an xoff, xon or headroom-pool sub-profile with no top-level default. -/
def needsReference (p : ParamTable) (t : ScenarioKey) : Bool :=
  !p.scenarios.contains t.raw || (marginProfiles ++ [headroomPoolProfile]).any fun name =>
    (p.subProfile? t name).isNone && (p.defaults[name]?).isNone

/-- The reference record completing target `t` of `p` puts into the trace: the reference of
`p`, when completion asks for one and `p` has one. -/
def referenceRecord? (p : ParamTable) (t : ScenarioKey) : Option ReferenceRecord :=
  if p.needsReference t then (p.reference t).map (referenceRecord t) else none

/-- Whether completion over the scenario `base` asks for the reference to fill sub-profile
`name`: `base` lacks it and there is no top-level default of that name. -/
def asksReference (p : ParamTable) (base : Scenario) (name : String) : Bool :=
  (base.profiles[name]?).isNone && (p.defaults[name]?).isNone

/-- Over its base scenario, completion asks for a reference when the table lacks the target
or one of the names needs it. -/
theorem needsReference_eq {p : ParamTable} {t : ScenarioKey} {base : Scenario}
    (based : p.baseScenario t = some base) :
    p.needsReference t = (!p.scenarios.contains t.raw ||
      (marginProfiles ++ [headroomPoolProfile]).any (p.asksReference base)) := by
  cases present : p.scenarios.contains t.raw with
  | false => simp [needsReference, present]
  | true =>
    obtain ⟨s, found⟩ := Option.isSome_iff_exists.1
      (by rwa [← Std.TreeMap.contains_eq_isSome_getElem?] : (p.scenarios[t.raw]?).isSome)
    have same : base = s := by
      simp only [baseScenario, found, Option.some.injEq] at based
      exact based.symm
    subst same
    simp only [needsReference, present, subProfile?, found, Option.bind_some]
    rfl

end ParamTable

namespace Completion

variable {p : ParamTable} {t : ScenarioKey} {base : Scenario}
  {profiles : String → Option SubProfile} {c : Completion}

/-- Cloning a sub-profile the base lacks asks for the reference exactly when the name has no
top-level default; the reference is then the table's. -/
theorem Within.cloneProfile_reference (h : c.Within p t base profiles) {asked : Bool}
    (chosen : c.reference = if asked then p.reference t else none) {name : String}
    (missing : base.profiles[name]? = none) {c' : Completion}
    (chose : c'.reference = if (c.table.defaults[name]?).isNone then
      (c.reference <|> c.table.reference c.target) else c.reference) :
    c'.reference = if (asked || p.asksReference base name) then p.reference t else none := by
  rw [chose, h.table.defaults, h.target, h.reference]
  cases undefaulted : (p.defaults[name]?).isNone
  · simp [ParamTable.asksReference, missing, undefaulted, chosen]
  · simp [ParamTable.asksReference, missing, undefaulted]

end Completion

namespace ParamTable

theorem prepareDefaults_traced (p : ParamTable) (t : ScenarioKey) :
    (p.prepareDefaults t).Writes fun r d => ∃ c : Completion,
      Completion.Traced { table := p, target := t } c r.2 d ∧
        c.reference = if p.needsReference t then p.reference t else none := by
  unfold ParamTable.prepareDefaults
  extract_lets start noUpdates raise fill
  have raising : ∀ c, (raise () c).Writes fun r d =>
      ∃ c', c.Traced c' r.2 d ∧ c'.reference = c.reference := by
    intro c
    refine writes_bind (writes_forIn marginProfiles (c, noUpdates) _
      (fun _ s d => c.Traced s.1 s.2 d ∧ s.1.reference = c.reference)
      ⟨Completion.Traced.refl c, rfl⟩ fun name rest s d ⟨traced, kept⟩ => ?_) ?_
    · refine writes_bind (Completion.raiseMargin_writes s.1 name)
        fun ⟨update, next⟩ d' _ ⟨traced', kept'⟩ => writes_pure ⟨_, rfl, ?_, kept'.trans kept⟩
      simpa using traced.trans traced'
    · rintro ⟨c', updates⟩ d _ ⟨traced, kept⟩
      exact writes_pure ⟨c', by simpa using traced, kept⟩
  have filling : ∀ base c, c.Within p t base (fun name => base.profiles[name]?) →
      c.reference = (if !p.scenarios.contains t.raw then p.reference t else none) →
      (fill () c).Writes fun r d => ∃ c', c.Traced c' r.2 d ∧
        c'.reference = if (!p.scenarios.contains t.raw ||
          (marginProfiles ++ [headroomPoolProfile]).any (p.asksReference base))
        then p.reference t else none := by
    intro base c within chosen
    let I (rest : List String) (c' : Completion) (d : Records) : Prop :=
      ∃ done f, done ++ rest = marginProfiles ∧ c'.Within p t base f ∧
        (∀ n, n ∉ done → f n = base.profiles[n]?) ∧ c.Traced c' [] d ∧
        c'.reference = if (!p.scenarios.contains t.raw || done.any (p.asksReference base))
          then p.reference t else none
    refine writes_bind (writes_forIn marginProfiles c _ I
      ⟨[], _, rfl, within, fun _ _ => rfl, Completion.Traced.refl c, by simpa using chosen⟩
      fun name rest c' d ⟨done, f, split, within', untouched, traced, chosen'⟩ => ?_) ?_
    · have distinct := marginProfiles_nodup
      rw [← split] at distinct
      have fresh : name ∉ done := fun mem =>
        (List.nodup_append.1 distinct).2.2 name mem name List.mem_cons_self rfl
      have same : f name = base.profiles[name]? := untouched name fresh
      dsimp only
      rw [within'.targetProfile? name, same]
      cases found : base.profiles[name]? with
      | some sub =>
        simp only [Option.isNone_some, Bool.false_eq_true, ↓reduceIte]
        refine writes_pure ⟨c', rfl, done ++ [name], f, by simpa using split, within',
          fun n out => untouched n fun m => out (List.mem_append_left _ m), by simpa using traced, ?_⟩
        simp [chosen', asksReference, found]
      | none =>
        simp only [Option.isNone_none, ↓reduceIte]
        refine writes_bind (Completion.cloneProfile_writes c' name false)
          fun ⟨cloned, next⟩ d' returned ⟨traced', chose⟩ => ?_
        obtain ⟨-, within''⟩ := within'.cloneProfile name false (same.trans found) _ returned
        dsimp only at within'' chose ⊢
        split
        · exact writes_fail_bind
        · refine writes_pure ⟨next, rfl, done ++ [name], _, by simpa using split, within'',
            fun n out => ?_, by simpa using traced.trans traced', ?_⟩
          · have other : n ≠ name := fun same => out (by simp [same])
            rw [Function.update_of_ne other]
            exact untouched n fun m => out (List.mem_append_left _ m)
          · rw [within'.cloneProfile_reference chosen' found chose]
            simp only [List.any_append, List.any_cons, List.any_nil, Bool.or_false, Bool.or_assoc]
    · rintro c2 d _ ⟨done, f, split, within2, untouched, traced, chosen2⟩
      rw [List.append_nil] at split
      subst split
      have same : f headroomPoolProfile = base.profiles[headroomPoolProfile]? :=
        untouched _ headroomPoolProfile_not_mem
      dsimp only
      rw [within2.targetProfile?, same]
      cases found : base.profiles[headroomPoolProfile]? with
      | some sub =>
        simp only [Option.isNone_some, Bool.false_eq_true, ↓reduceIte]
        refine (raising c2).mono fun r d' _ ⟨c', traced', kept⟩ =>
          ⟨c', by simpa using traced.trans traced', ?_⟩
        rw [kept, chosen2]
        simp [asksReference, found]
      | none =>
        simp only [Option.isNone_none, ↓reduceIte]
        refine writes_bind (Completion.cloneProfile_writes c2 _ true)
          fun ⟨cloned, next⟩ d' _ ⟨traced', chose⟩ => ?_
        have chosen3 := within2.cloneProfile_reference chosen2 found chose
        have finish : (raise () next).Writes fun r d'' => ∃ c', c.Traced c' r.2 (d ++ (d' ++ d'')) ∧
            c'.reference = if (!p.scenarios.contains t.raw ||
              (marginProfiles ++ [headroomPoolProfile]).any (p.asksReference base))
            then p.reference t else none :=
          (raising next).mono fun r d'' _ ⟨c', traced'', kept⟩ =>
            ⟨c', by simpa [Records.append_assoc] using (traced.trans traced').trans traced'', by
              rw [kept, chosen3]
              simp only [List.any_append, List.any_cons, List.any_nil, Bool.or_false, Bool.or_assoc]⟩
        dsimp only
        split
        · exact writes_log_bind finish
        · exact finish
  split
  next absent =>
    have missing : p.scenarios[t.raw]? = none :=
      Std.TreeMap.getElem?_eq_none_of_contains_eq_false (by simpa using absent)
    refine writes_bind (Completion.referenceKey_writes start)
      fun ⟨ref, chosen⟩ d₁ returned traced₁ => ?_
    obtain ⟨found, same⟩ := Completion.referenceKey_ensures start _ returned
    dsimp only at found same traced₁
    subst same
    have found' : p.reference t = some ref := by simpa [start] using found
    have based : p.baseScenario t = some ((p.scenarios[ref.raw]?).getD {}) := by
      simp [baseScenario, missing, found']
    refine writes_log_bind ((filling _ _ (Completion.Within.copy found') ?_).mono ?_)
    · simp [absent, found']
    · rintro r d₂ _ ⟨c', traced₂, chosen'⟩
      refine ⟨c', by simpa using traced₁.trans ((Completion.Traced.copies _ _ []).trans traced₂), ?_⟩
      rw [chosen', needsReference_eq based]
  next present =>
    have there : (p.scenarios[t.raw]?).isSome := by
      rw [← Std.TreeMap.contains_eq_isSome_getElem?]
      simpa using present
    obtain ⟨s, found⟩ := Option.isSome_iff_exists.1 there
    have based : p.baseScenario t = some s := by simp [baseScenario, found]
    refine (filling s start (Completion.Within.start found) (by rw [if_neg present])).mono ?_
    rintro r d _ ⟨c', traced, chosen⟩
    refine ⟨c', traced, ?_⟩
    rw [chosen, needsReference_eq based]

/-- Completing a scenario traces its margin writes and, when it asks for a reference and the
table has one, that reference; nothing of the other kinds. -/
theorem prepareDefaults_writes (p : ParamTable) (t : ScenarioKey) :
    (p.prepareDefaults t).Writes fun r d => d.references = (p.referenceRecord? t).toList ∧
      d.updates = r.2 ∧ d.terms = [] ∧ d.skips = [] ∧ d.overrides = [] ∧ d.warnings = [] := by
  refine (prepareDefaults_traced p t).mono fun r d _ ⟨c, traced, chosen⟩ =>
    ⟨?_, traced.updates, traced.terms, traced.skips, traced.overrides, traced.warnings⟩
  have recorded := traced.references
  rw [show ({ table := p, target := t } : Completion).references = [] from rfl,
    List.nil_append] at recorded
  rw [recorded, Completion.references, chosen, traced.target, referenceRecord?]
  split <;> rfl

end ParamTable

end LosslessBuffer
