import LosslessBuffer.Proofs.Accounting
import LosslessBuffer.Proofs.CompletionTrace
import LosslessBuffer.Proofs.Outcome
import LosslessBuffer.Proofs.Watermarks
/-!
# The calculation trace agrees with the outcome

A calculation run with a trace attached records its decisions there, and returns most of
them in its outcome as well: the writes, the skipped bindings and the override decision.
Each step's records are stated as what it writes (`Step.Writes`): a write of a field records
it (`SubProfile.writeCount_writes`), assembly records its writes and the warning of a
headroom pool filled below its margin (`Scenario.assemble_writes`), the accounting its
terms and skips (`recordAccounting_writes`), the override its decision
(`applyOverride_writes`), and completion its margins and its reference
(`ParamTable.prepareDefaults_writes`). Put together along the calculation, a run records
exactly what `Run.Traced` lists (`generate_writes`).

A fresh trace then agrees with the outcome (`generate_trace_agrees`, `Run.TraceAgrees`). At
level `""` or `none` it stays empty. At any other level it holds the outcome's writes, skips
and override decision, at most one reference record, and one warning exactly when the
headroom pool is there and its margin exceeds the headroom. The accounting terms are kept at
level `terms` only, and their cells add up to the shared cells under both strategies
(`Family.sharedBuffer_balanced`).
-/

set_option autoImplicit false

namespace LosslessBuffer

open LosslessBuffer.Text
open Step

/-! ## What assembly traces -/

/-- The warning assembly records for a headroom pool of margin `margin` whose partial fill,
the headroom less the margin, is negative. -/
def headroomWarning (scenario : String) (w : Watermarks) (margin : Int64) :
    Option WarningRecord :=
  if w.headroomCells - margin < 0 then
    some ⟨scenario, headroomPoolProfile, Count.hdrmPartial.key, w.headroomCells - margin,
      "headroom is smaller than the margin"⟩
  else none

theorem recordUpdate_writes (u : UpdateRecord) :
    (recordUpdate u).Writes fun _ d => d = { updates := [u] } :=
  writes_traced_bind _ (Trace.addUpdate_eq u) (writes_log (Records.append_nil _))

namespace SubProfile

variable (scenario profile : String)

theorem writeCount_writes (t : SubProfile) (c : Count) (v : Int64) :
    (t.writeCount scenario profile c v).Writes fun r d => d = { updates := r.2 } := by
  unfold writeCount
  split
  next => exact writes_pure rfl
  next =>
    exact writes_bind (recordUpdate_writes _) fun _ d _ same =>
      writes_pure (by rw [Records.append_nil, same])

theorem writeCounts_writes (t : SubProfile) (counts : List (Count × Int64)) :
    (t.writeCounts scenario profile counts).Writes fun r d => d = { updates := r.2 } := by
  induction counts generalizing t with
  | nil => exact writes_pure rfl
  | cons head rest ih =>
    obtain ⟨c, v⟩ := head
    refine writes_bind (writeCount_writes _ _ t c v) fun ⟨t1, first⟩ d _ same => ?_
    refine writes_bind (ih t1) fun ⟨t2, later⟩ d' _ same' => writes_pure ?_
    rw [Records.append_nil, same, same']
    rfl

theorem writeFlag_writes (t : SubProfile) (v : Bool) :
    (t.writeFlag scenario profile v).Writes fun r d => d = { updates := r.2 } := by
  unfold writeFlag
  split
  next => exact writes_pure rfl
  next =>
    exact writes_bind (recordUpdate_writes _) fun _ d _ same =>
      writes_pure (by rw [Records.append_nil, same])

/-- Assembling the headroom pool records its writes, and a warning when the partial fill is
negative. -/
theorem assembleHeadroomPool_writes (t : SubProfile) (scenario : String) (w : Watermarks) :
    (t.assembleHeadroomPool scenario w).Writes fun r d =>
      d = { updates := r.2, warnings := (headroomWarning scenario w t.poolMargin).toList } := by
  unfold assembleHeadroomPool
  refine writes_bind (writeCounts_writes _ _ t _) fun ⟨t1, first⟩ d1 returned1 same1 => ?_
  have set1 := writeCounts_ensures _ _ t _ _ returned1
  dsimp only at set1 same1
  subst set1 same1
  refine writes_bind (writeCounts_writes _ _ _ _) fun ⟨t2, second⟩ d2 _ same2 => ?_
  dsimp only at same2
  subst same2
  dsimp -zeta only
  extract_lets flagged
  have flaggedSpec : (flagged ()).Writes fun r d =>
      ∃ third, r.2 = first ++ second ++ third ∧ d = { updates := third } := by
    refine writes_ite (fun _ => ?_) (fun _ => writes_pure ⟨[], by simp, rfl⟩)
    exact writes_bind (writeFlag_writes _ _ _ _) fun ⟨t3, third⟩ d _ same =>
      writes_pure ⟨third, rfl, by rw [Records.append_nil, same]⟩
  refine writes_ite (fun negative => ?_) (fun nonneg => ?_)
  · have warned : headroomWarning scenario w t.poolMargin = some ⟨scenario, headroomPoolProfile,
        Count.hdrmPartial.key, w.headroomCells - t.poolMargin,
        "headroom is smaller than the margin"⟩ := if_pos negative
    refine writes_traced_bind _ (Trace.addWarning_eq _) (writes_log_bind (flaggedSpec.mono ?_))
    rintro r d _ ⟨third, split, rfl⟩
    rw [split, warned]
    apply Records.ext <;> simp
    rfl
  · have quiet : headroomWarning scenario w t.poolMargin = none := if_neg nonneg
    refine flaggedSpec.mono ?_
    rintro r d _ ⟨third, split, rfl⟩
    rw [split, quiet]
    ext <;> simp

end SubProfile

namespace Scenario

theorem assembleProfiles_writes (s : Scenario) (scenario : String)
    (counts : List (Count × Int64)) (names : List String) :
    (s.assembleProfiles scenario counts names).Writes fun r d => d = { updates := r.2 } := by
  induction names generalizing s with
  | nil => exact writes_pure rfl
  | cons name rest ih =>
    unfold assembleProfiles
    split
    next => exact writes_fail
    next t _ =>
      refine writes_bind (SubProfile.writeCounts_writes _ _ t _) fun ⟨t', first⟩ d _ same => ?_
      refine writes_bind (ih _) fun ⟨s', later⟩ d' _ same' => writes_pure ?_
      rw [Records.append_nil, same, same']
      rfl

/-- Assembling a scenario records its writes, and the warning of its headroom pool, if any. -/
theorem assemble_writes (s : Scenario) (scenario : String) (w : Watermarks) :
    (s.assemble scenario w).Writes fun r d => d =
      { updates := r.2
        warnings := ((s.profiles[headroomPoolProfile]?).bind fun t =>
          headroomWarning scenario w t.poolMargin).toList } := by
  unfold assemble
  refine writes_bind (assembleProfiles_writes _ _ _ _) ?_
  rintro ⟨s1, xoff⟩ d1 returned1 same1
  refine writes_bind (assembleProfiles_writes _ _ _ _) ?_
  rintro ⟨s2, xon⟩ d2 returned2 same2
  have untouched : s2.profiles[headroomPoolProfile]? = s.profiles[headroomPoolProfile]? := by
    obtain ⟨-, -, profiles1⟩ :=
      assembleProfiles_ensures s scenario _ xoffProfiles (by decide) _ returned1
    obtain ⟨-, -, profiles2⟩ :=
      assembleProfiles_ensures s1 scenario _ xonProfiles (by decide) _ returned2
    rw [profiles2, profiles1]
    simp [xonProfiles, xoffProfiles, headroomPoolProfile]
  dsimp only at same1 same2 untouched ⊢
  subst same1 same2
  split
  next found =>
    have missing : s.profiles[headroomPoolProfile]? = none := by
      rw [← untouched]
      simpa using found
    refine writes_pure ?_
    rw [missing]
    ext <;> simp
  next t found =>
    have present : s.profiles[headroomPoolProfile]? = some t := by
      rw [← untouched]
      simpa using found
    refine writes_bind (SubProfile.assembleHeadroomPool_writes t scenario w) ?_
    rintro ⟨t', pool⟩ d3 _ same3
    refine writes_pure ?_
    rw [present, same3]
    ext <;> simp

end Scenario

/-! ## What the accounting and the override trace -/

/-- The accounting puts in its terms and its skipped bindings, in order. -/
theorem recordAccounting_writes (acct : SharedBuffer) :
    (recordAccounting acct).Writes fun _ d => d = { terms := acct.terms, skips := acct.skips } := by
  unfold recordAccounting
  refine writes_traced_bind _ (Trace.addTerms_eq _) ?_
  -- the first loop records the skipped bindings visited so far
  refine writes_bind (writes_forIn acct.skips _ _
    (fun rest _ d => ∃ done, done ++ rest = acct.skips ∧ d = { skips := done }) ⟨[], rfl, rfl⟩
    fun s rest _ d ⟨done, split, recorded⟩ => ?_) ?_
  · refine writes_traced_bind _ (Trace.addSkip_eq s)
      (writes_log_bind (writes_pure ⟨_, rfl, done ++ [s], by simpa using split, ?_⟩))
    rw [recorded]
    rfl
  · rintro _ d _ ⟨done, split, rfl⟩
    rw [List.append_nil] at split
    subst split
    refine writes_bind (writes_forIn acct.terms _ _ (fun _ _ d => d = {}) rfl
      fun _ _ _ d empty => writes_log_bind (writes_pure ⟨_, rfl, by rw [empty]; rfl⟩))
      fun _ d' _ empty => writes_pure ?_
    rw [empty]
    ext <;> simp

/-- The override decision, if any, is recorded. -/
theorem applyOverride_writes (computed : Int64) (o : Option OverrideRecord) :
    (applyOverride computed o).Writes fun _ d => d = { overrides := o.toList } := by
  cases o with
  | none => exact writes_pure rfl
  | some o =>
    refine writes_traced_bind _ (Trace.addOverride_eq o) (writes_ite
      (fun _ => writes_log_bind (writes_pure ?_)) fun _ => writes_ite
        (fun _ => writes_log_bind (writes_pure ?_)) fun _ => writes_pure ?_) <;> simp

/-! ## What a run traces -/

namespace Run

variable {r : Request} {lookup : Option (Bytes → Except Fault Family)}

/-- The target scenario a run assembles: the completed one. -/
def completedTarget (run : Run r lookup) : Scenario :=
  (run.completed.scenarios[run.sizing.target.raw]?).getD {}

/-- What a run puts into the trace, copies of sub-profiles aside: the reference record of the
completion, the accounting terms, the skipped bindings, the override decision, every write,
and the warning of a headroom pool filled below its margin. -/
structure Traced (run : Run r lookup) (d : Records) : Prop where
  references : d.references = (run.table.referenceRecord? run.sizing.target).toList
  terms : d.terms = run.sizing.acct.terms
  skips : d.skips = run.outcome.skips
  overrides : d.overrides = run.outcome.override.toList
  updates : d.updates = run.outcome.updates
  warnings : d.warnings = ((run.completedTarget.profiles[headroomPoolProfile]?).bind fun t =>
    headroomWarning run.sizing.target.raw run.sizing.watermarks t.poolMargin).toList

end Run

/-- Every successful calculation traces what its run does. -/
theorem generate_writes (r : Request) (lookup : Option (Bytes → Except Fault Family)) :
    (generate r lookup).Writes fun o d => ∃ run : Run r lookup, o = run.outcome ∧ run.Traced d := by
  unfold generate
  split
  next gate gate_eq =>
    split
    next table cfg inputs =>
      simp only [Prod.mk.injEq] at inputs
      split
      next find =>
        refine writes_ofExcept_bind fun family family_eq => ?_
        refine writes_ofExcept_bind fun target target_eq => ?_
        refine writes_bind (table.prepareDefaults_writes target) ?_
        rintro ⟨completed, margins⟩ d₁ completes ⟨references, updates₁, terms₁, skips₁, overrides₁,
          warnings₁⟩
        dsimp only at updates₁ ⊢
        split
        next pool pool_eq =>
          refine writes_ite (fun _ => writes_fail_bind) fun dynamic => ?_
          split
          next profile profile_eq =>
            split
            next xoff xonOffset offsets =>
              simp only [Prod.mk.injEq] at offsets
              refine writes_ofExcept_bind fun alpha alpha_eq => ?_
              refine writes_ofExcept_bind fun quantizer quantizer_eq => ?_
              refine writes_ofExcept_bind fun acct acct_eq => ?_
              refine writes_bind_of_yields (recordAccounting_writes acct)
                (recordAccounting_yields acct) fun d₂ accounted => ?_
              refine writes_bind_of_yields (applyOverride_writes _ _)
                (applyOverride_yields _ _) fun d₃ overridden => ?_
              refine writes_ite (fun _ => writes_fail_bind) fun committed => ?_
              refine writes_ofExcept_bind fun sizeCells sizeCells_eq => ?_
              refine writes_ofExcept_bind fun headroom headroom_eq => ?_
              refine writes_ofExcept_bind fun resetOffset resetOffset_eq => ?_
              refine writes_ofExcept_bind fun available available_eq => ?_
              refine writes_log_bind (writes_bind (Scenario.assemble_writes _ _ _) ?_)
              rintro ⟨assembled, written⟩ d₄ assembles assembledRecords
              let z : r.Sizing (some find) :=
                { gate, gate_eq, cfg, cfg_eq := inputs.2, find, find_eq := rfl, family,
                  family_eq, target, target_eq, pool, pool_eq := by simpa using pool_eq,
                  dynamic := of_not_not dynamic, profile,
                  profile_eq := by simpa [ingressProfileName] using profile_eq,
                  xoff, xoff_eq := offsets.1, xonOffset, xonOffset_eq := offsets.2, alpha,
                  alpha_eq := mapError_eq_ok.1 alpha_eq, quantizer, quantizer_eq, acct, acct_eq,
                  committed, sizeCells, sizeCells_eq, headroom, headroom_eq, resetOffset,
                  resetOffset_eq, available, available_eq }
              refine writes_pure ⟨⟨z, table, inputs.1, completed, margins, completes, assembled,
                written, assembles⟩, rfl, ?_⟩
              subst accounted overridden assembledRecords
              constructor <;> simp [references, terms₁, skips₁, overrides₁, updates₁, warnings₁] <;> rfl
            next => exact writes_fail
          next => exact writes_fail
        next => exact writes_fail
      next => exact writes_fail
    next => exact writes_fail
  next => exact writes_fail

namespace Run

variable {r : Request} {lookup : Option (Bytes → Except Fault Family)} (run : Run r lookup)

/-- The margin of the headroom pool of the outcome is the one assembly found in the completed
target. -/
theorem outcome_poolMargin :
    (run.outcome.params.subProfile? run.sizing.target headroomPoolProfile).bind (·.margin) =
      (run.completedTarget.profiles[headroomPoolProfile]?).map (·.poolMargin) := by
  obtain ⟨-, -, profiles⟩ := Scenario.assemble_ensures _ _ _ _ run.assembles
  rw [ParamTable.subProfile?, run.outcome_target, Option.bind_some, profiles]
  change (Option.map _ run.completedTarget.profiles[headroomPoolProfile]?).bind _ = _
  cases run.completedTarget.profiles[headroomPoolProfile]? with
  | none => rfl
  | some t =>
    rw [Option.map_some, Option.bind_some, SubProfile.assembledAs_pool]
    exact (SubProfile.assembledPool_written _ _).2.2.1

/-- A request that ran once runs from every journal: its completion cannot fail. -/
theorem generate_safe (run : Run r lookup) : (generate r lookup).Safe := by
  obtain ⟨base, based, -, present⟩ := run.completed_spec
  exact LosslessBuffer.generate_safe run.sizing run.table_eq
    (ParamTable.prepareDefaults_safe based present)

/-- The trace `T` of a run at level `level` agrees with what the run gives. Disabled, at `""`
or `none`, it holds nothing. Enabled, it holds the writes, skipped bindings and override
decision of the outcome; the reference record of the completion; and the warning of a
headroom pool whose margin exceeds the headroom. At level `terms` it holds the terms of the
accounting, whose cells add up to the shared cells, and at every other level no term. -/
structure TraceAgrees (level : String) (T : Trace) : Prop where
  level_eq : T.level = level
  disabled : level = "" ∨ level = "none" → T = Trace.empty level
  updates : level ≠ "" → level ≠ "none" → T.updates = run.outcome.updates
  skips : level ≠ "" → level ≠ "none" → T.skips = run.outcome.skips
  overrides : level ≠ "" → level ≠ "none" → T.overrides = run.outcome.override.toList
  references : level ≠ "" → level ≠ "none" →
    T.references = (run.table.referenceRecord? run.sizing.target).toList
  warnings : level ≠ "" → level ≠ "none" →
    T.warnings = (((run.outcome.params.subProfile? run.sizing.target headroomPoolProfile).bind
      (·.margin)).bind (headroomWarning run.sizing.target.raw
        run.outcome.calculation.watermarks)).toList
  terms : T.terms = if level = "terms" then run.sizing.acct.terms else []
  balanced : level = "terms" →
    (T.terms.map (·.cells)).sum = run.outcome.calculation.sharedBufferCells

end Run

/-- A calculation run with a fresh trace leaves a trace that agrees with its outcome. -/
theorem generate_trace_agrees {r : Request} {lookup : Option (Bytes → Except Fault Family)}
    {level : String} {entries : List LogEntry} {o : Outcome} {j : Journal}
    (ran : (generate r lookup).run' { entries, trace := some (Trace.empty level) } = (.ok o, j)) :
    ∃ run : Run r lookup, o = run.outcome ∧ ∃ T, j.trace = some T ∧ run.TraceAgrees level T := by
  obtain ⟨d, traced, run, rfl, recorded⟩ := generate_writes r lookup _ o j ran
  refine ⟨run, rfl, _, by rw [traced, Option.map_some], ?_⟩
  have warnings : d.warnings = (((run.outcome.params.subProfile? run.sizing.target
      headroomPoolProfile).bind (·.margin)).bind (headroomWarning run.sizing.target.raw
        run.outcome.calculation.watermarks)).toList := by
    rw [recorded.warnings, run.outcome_poolMargin, Option.bind_map]
    rfl
  have balanced : (run.sizing.acct.terms.map (·.cells)).sum =
      run.outcome.calculation.sharedBufferCells := Family.sharedBuffer_balanced run.sizing.acct_eq
  rw [Trace.empty_record]
  by_cases on : (level != "none" && level != "") = true
  · have shown : level ≠ "none" ∧ level ≠ "" := by simpa using on
    rw [if_pos on]
    refine ⟨rfl, fun off => ?_, fun _ _ => recorded.updates, fun _ _ => recorded.skips,
      fun _ _ => recorded.overrides, fun _ _ => recorded.references, fun _ _ => warnings, ?_, ?_⟩
    · rcases off with off | off
      · exact absurd off shown.2
      · exact absurd off shown.1
    · simp only [recorded.terms]
    · intro terms
      simp only [terms, if_true, recorded.terms]
      exact balanced
  · have hidden : level = "none" ∨ level = "" := by
      by_cases off : level = "none"
      · exact .inl off
      · exact .inr (by simpa [off] using on)
    have notTerms : level ≠ "terms" := by rintro rfl; simp at hidden
    rw [if_neg on]
    refine ⟨rfl, fun _ => rfl, ?_, ?_, ?_, ?_, ?_, by simp [Trace.empty, notTerms],
      fun terms => absurd terms notTerms⟩ <;>
    · intro h1 h2
      rcases hidden with off | off
      · exact absurd off h2
      · exact absurd off h1

theorem generate_trace_agrees_sample : ∃ o j,
    (generate (DualTorSample.request DualTorSample.table) (some Family.lookup)).run'
      { trace := some (Trace.empty "terms") } = (.ok o, j) ∧
    ∃ run : Run (DualTorSample.request DualTorSample.table) (some Family.lookup),
      o = run.outcome ∧ ∃ T, j.trace = some T ∧ run.TraceAgrees "terms" T := by
  obtain ⟨o, runs, -⟩ := DualTorSample.request_runs
  obtain ⟨run, -⟩ := generate_ensures _ _ o runs
  obtain ⟨o', j, ran⟩ := run.generate_safe { trace := some (Trace.empty "terms") }
  exact ⟨o', j, ran, generate_trace_agrees ran⟩

end LosslessBuffer
