import LosslessBuffer.Proofs.Calculation
/-!
# What a calculation does to its table

A successful calculation changes its parameter table at the target scenario only
(`generate_edits_target`). The defaults, the other settings and every other scenario stay
as they were, and the target is added when the table lacks it. Inside the target, the
other settings are those of its base scenario, and each sub-profile is its source as
completion and assembly leave it: the base scenario's own, else the top-level default,
else the reference scenario's, with a raised margin and the watermarks written.

The table a calculation gives back is a fixed point (`generate_idempotent`). Calculating
again on it gives the same outcome and writes nothing. The second run takes other paths
than the first. The target is there now, so nothing is copied, and no sub-profile is
missing. A missing headroom pool is looked for again, in the same reference scenario,
since adding the target does not change the reference. Every margin is high enough and
every watermark is written already, so completion (`prepareDefaults_of_complete`) and
assembly (`Scenario.assemble_of_assembled`) give their input back.
-/

set_option autoImplicit false

namespace LosslessBuffer

open LosslessBuffer.Text
open Step

/-- A successful calculation rewrites only the target scenario of its table, over the
target's base scenario, to the sub-profiles completion and assembly write. -/
theorem generate_edits_target {r : Request} {lookup : Option (Bytes → Except Fault Family)}
    {o : Outcome} (h : (generate r lookup).Returns o) :
    ∃ table t base, r.params = some table ∧ ScenarioKey.ofBytes r.scenario = .ok t ∧
      table.baseScenario t = some base ∧
      ParamTable.EditsTarget table t base (fun name => (table.completedProfile t base name).map
        (SubProfile.assembledAs o.calculation.watermarks name)) o.params := by
  obtain ⟨run, rfl⟩ := generate_ensures r lookup o h
  obtain ⟨base, based, edits, -⟩ := run.edits
  exact ⟨run.table, run.sizing.target, base, run.table_eq, run.sizing.target_eq, based, edits⟩

/-- On the dual-ToR sample the target is cloned into a table with other scenarios, defaults
and settings: completed over the scenario of `100000_40m`, it is the one scenario rewritten. -/
theorem generate_edits_target_sample :
    ∃ o, (generate (DualTorSample.request DualTorSample.table) (some Family.lookup)).Returns o ∧
      DualTorSample.target.raw ∉ DualTorSample.table.scenarios ∧
      ParamTable.EditsTarget DualTorSample.table DualTorSample.target DualTorSample.source
        (fun name => (DualTorSample.table.completedProfile DualTorSample.target
          DualTorSample.source name).map (SubProfile.assembledAs o.calculation.watermarks name))
        o.params := by
  obtain ⟨o, runs, -⟩ := DualTorSample.request_runs
  obtain ⟨table, t, base, given, keyed, based, edits⟩ := generate_edits_target runs
  obtain rfl : table = DualTorSample.table := Option.some.inj given.symm
  obtain rfl : t = DualTorSample.target := Except.ok.inj (keyed.symm.trans (DualTorSample.keyed _))
  obtain rfl : base = DualTorSample.source := Option.some.inj (based.symm.trans DualTorSample.based)
  exact ⟨o, runs, DualTorSample.absent, edits⟩

namespace Run

variable {r : Request} {lookup : Option (Bytes → Except Fault Family)} (run : Run r lookup)

theorem outcome_target :
    run.outcome.params.scenarios[run.sizing.target.raw]? = some run.assembled := by
  simp [Run.outcome, Sizing.outcome]

/-- The table a run gives back is complete at its target: assembly keeps the raised
margins and adds no sub-profile. -/
theorem outcome_complete : run.outcome.params.Complete run.sizing.target := by
  obtain ⟨base, based, edits, present⟩ := run.edits
  refine edits.complete based (fun name member => ?_) fun missing => ?_
  · obtain ⟨sub, found⟩ := Option.isSome_iff_exists.1 (present name member)
    obtain ⟨m, set, high⟩ := ParamTable.completedProfile_pktsMargin member found
    refine ⟨sub.assembledAs run.sizing.watermarks name, m, by rw [found]; rfl, ?_, high⟩
    rw [SubProfile.assembledAs_pktsMargin _ member, set]
  · exact ParamTable.sourceProfile_of_completedProfile_pool (Option.map_eq_none_iff.1 missing)

/-- Assembling the target of the table a run gives back writes nothing. -/
theorem outcome_reassembles :
    (((run.outcome.params.scenarios[run.sizing.target.raw]?).getD {}).assemble
      run.sizing.target.raw run.sizing.watermarks).Yields (run.assembled, []) := by
  obtain ⟨base, -, edits, present⟩ := run.edits
  obtain ⟨s, found, -, named⟩ := edits.scenario
  rw [run.outcome_target] at found ⊢
  cases found
  exact Scenario.assemble_of_assembled _ present named

/-- A second run on the table a run gave back ends where the first did, with no write. -/
theorem outcome_rerun :
    run.sizing.outcome run.outcome.params [] run.assembled [] =
      { run.outcome with updates := [] } := by
  have kept := Std.TreeMap.insert_eq_self_of_getElem? run.outcome_target
  simp only [Sizing.outcome, kept]
  rfl

end Run

/-- Calculating again on the table a calculation gave back succeeds, gives the same table,
quantities, skips and override decision, and writes nothing. -/
theorem generate_idempotent {r : Request} {lookup : Option (Bytes → Except Fault Family)}
    {o : Outcome} (h : (generate r lookup).Returns o) :
    (generate { r with params := some o.params } lookup).Yields { o with updates := [] } := by
  obtain ⟨run, rfl⟩ := generate_ensures r lookup o h
  let again : Request.Sizing { r with params := some run.outcome.params } lookup := run.sizing
  have rerun := generate_yields again rfl
    (ParamTable.prepareDefaults_of_complete run.outcome_complete) run.outcome_reassembles
  rw [show again.outcome _ _ _ _ = _ from run.outcome_rerun] at rerun
  exact rerun

theorem generate_idempotent_sample :
    ∃ o, (generate (DualTorSample.request DualTorSample.table) (some Family.lookup)).Returns o ∧
      (generate { DualTorSample.request DualTorSample.table with params := some o.params }
        (some Family.lookup)).Yields { o with updates := [] } := by
  obtain ⟨o, runs, -⟩ := DualTorSample.request_runs
  exact ⟨o, runs, generate_idempotent runs⟩

end LosslessBuffer
