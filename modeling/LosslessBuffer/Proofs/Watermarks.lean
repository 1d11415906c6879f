import LosslessBuffer.Proofs.Cells
import LosslessBuffer.Proofs.Calculation
/-!
# The watermarks a calculation writes

A successful calculation reads a family, a target key, the ingress lossless pool and
profile and the family's quantizer (`Request.Reads`), sizes its watermarks from them
(`Calculation.SizedBy`) and leaves them in the target scenario (`Scenario.Carries`):

* the headroom and the reset offset are the cells of the profile's `xoff` and `xon_offset`,
  and the priority-group minimum is the family's, from the cells of the profile's size;
* the exponent is the profile's own, else the pool's, and the available shared buffer is
  the share of the shared cells in effect under it;
* both xoff sub-profiles trigger PFC at the minimum plus the available shared buffer and
  drop at that plus the headroom, both xon sub-profiles trigger PFC at the same count and
  dismiss it at the reset offset, all four with a packet margin of at least
  `defaultMargin`, and the headroom pool, when the target has one, is written as assembly
  writes it.

`generate_sizes_watermarks` says all of this of every successful calculation.

The quantities are words, and a calculation succeeds whatever they hold. The cells of a
byte count near `2^63` wrap to a negative count, and so can the thresholds that add them.
With the profile's byte quantities and the shared cells in effect below `2^62`, every
quantity is the integer its formula means and the thresholds are in order
(`generate_thresholds_exact`). Without those bounds they need not be: an `xoff` of
`2^63 - 1` bytes gives a negative headroom and a drop threshold below the PFC threshold
(`generate_wraps_ingress_drop`).
-/

set_option autoImplicit false

namespace LosslessBuffer

open LosslessBuffer.Text
open Step

/-! ## What a calculation reads and writes -/

/-- The inputs a calculation of request `r` reads: the family `lookup` finds for its ASIC,
the target key, the ingress lossless pool and profile of its buffer configuration, and the
quantizer of the family's cells. -/
structure Request.Reads (r : Request) (lookup : Option (Bytes → Except Fault Family))
    (family : Family) (t : ScenarioKey) (pool : Pool) (profile : Profile) (q : Quantizer) :
    Prop where
  finds : ∃ find, lookup = some find ∧ find r.asic = .ok family
  keyed : ScenarioKey.ofBytes r.scenario = .ok t
  configured : ∃ cfg, r.bufferConfig = some cfg ∧
    cfg.pools[Bytes.ofString ingressLosslessPool]? = some pool ∧
    cfg.profiles[ingressProfileName r.ingressProfile t]? = some profile
  quantized : Quantizer.ofCellSize family.cellSize = .ok q

/-- The quantities of calculation `c` as a family, its quantizer, the ingress lossless pool
and profile give them: the headroom, reset offset and priority-group minimum from the cells
of the profile, the exponent of the profile or else the pool, the share of the shared cells
in effect under it, and a dynamic pool. -/
structure Calculation.SizedBy (c : Calculation) (family : Family) (q : Quantizer) (pool : Pool)
    (profile : Profile) : Prop where
  headroom : ∃ xoff, profile.xoff = some xoff ∧
    q.bytesToCells xoff = .ok c.watermarks.headroomCells
  resetOffset : ∃ xonOffset, profile.xonOffset = some xonOffset ∧
    q.bytesToCells xonOffset = .ok c.watermarks.pgResetOffsetCells
  pgMin : ∃ size, q.bytesToCells profile.size = .ok size ∧
    c.watermarks.pgMinCells = family.pgMinCells size c.watermarks.pgResetOffsetCells
  alpha : (profile.dynamicTh <|> pool.dynamicTh) = some c.alpha
  available :
    availableShared c.effectiveSharedCells c.alpha = .ok c.watermarks.availableSharedCells
  dynamic : c.watermarks.dynamicPool = true

/-- Scenario `s` carries watermarks `w`: both xoff sub-profiles trigger PFC at `w.trigPfc`
and drop at that plus the headroom, both xon sub-profiles trigger PFC at `w.trigPfc` and
dismiss it at the reset offset, all four with a packet margin of at least `defaultMargin`;
a headroom-pool sub-profile, if there is one, triggers PFC at `w.trigPfc`, is full at the
headroom and partly full at the headroom less its margin of at least `defaultMargin`, and is
marked dynamic when the pool is. -/
structure Scenario.Carries (s : Scenario) (w : Watermarks) : Prop where
  xoff : ∀ name ∈ xoffProfiles, ∃ sub, s.profiles[name]? = some sub ∧
    sub.trigPfc = some w.trigPfc ∧ sub.trigIngrDrp = some (w.trigPfc + w.headroomCells) ∧
    ∃ m, sub.pktsMargin = some m ∧ defaultMargin ≤ m
  xon : ∀ name ∈ xonProfiles, ∃ sub, s.profiles[name]? = some sub ∧
    sub.trigPfc = some w.trigPfc ∧ sub.dismissPfc = some w.pgResetOffsetCells ∧
    ∃ m, sub.pktsMargin = some m ∧ defaultMargin ≤ m
  pool : ∀ sub, s.profiles[headroomPoolProfile]? = some sub →
    sub.trigPfc = some w.trigPfc ∧ sub.hdrmFull = some w.headroomCells ∧
    (∃ m, sub.margin = some m ∧ defaultMargin ≤ m ∧
      sub.hdrmPartial = some (w.headroomCells - m)) ∧
    (w.dynamicPool = true → sub.dynamicThreshold = some true)

/-! ## The sub-profiles assembly writes -/

namespace SubProfile

variable (w : Watermarks) (t : SubProfile)

theorem assembledAs_xoff {name : String} (member : name ∈ xoffProfiles) :
    (t.assembledAs w name).trigPfc = some w.trigPfc ∧
      (t.assembledAs w name).trigIngrDrp = some (w.trigPfc + w.headroomCells) := by
  simp [assembledAs, member, Watermarks.xoffCounts, set]

theorem assembledAs_xon {name : String} (member : name ∈ xonProfiles) :
    (t.assembledAs w name).trigPfc = some w.trigPfc ∧
      (t.assembledAs w name).dismissPfc = some w.pgResetOffsetCells := by
  simp [assembledAs, not_mem_xoffProfiles_of_mem_xonProfiles member, member,
    Watermarks.xonCounts, set]

theorem assembledAs_pool : t.assembledAs w headroomPoolProfile = t.assembledPool w := by
  simp [assembledAs, xoffProfiles, xonProfiles, headroomPoolProfile]

/-- The headroom pool as assembly writes it. -/
theorem assembledPool_written :
    (t.assembledPool w).trigPfc = some w.trigPfc ∧
      (t.assembledPool w).hdrmFull = some w.headroomCells ∧
      (t.assembledPool w).margin = some t.poolMargin ∧
      (t.assembledPool w).hdrmPartial = some (w.headroomCells - t.poolMargin) ∧
      (w.dynamicPool = true → (t.assembledPool w).dynamicThreshold = some true) := by
  unfold assembledPool
  split
  next dynamic => simp [set]
  next static => simp [set, static]

end SubProfile

/-! ## The values a successful calculation finds -/

/-- The exponent of a profile is its own, else its pool's. -/
theorem resolveAlpha_eq_ok {profile : Profile} {pool : Pool} {alpha : Int64} :
    resolveAlpha profile pool = .ok alpha ↔
      (profile.dynamicTh <|> pool.dynamicTh) = some alpha := by
  unfold resolveAlpha
  cases profile.dynamicTh <;> cases pool.dynamicTh <;> simp

/-- A dynamic pool shares its cells as `availableShared` says. -/
theorem Pool.availableShared_of_dynamic {pool : Pool}
    (dynamic : pool.mode = Bytes.ofString dynamicMode) (shared alpha : Int64) :
    pool.availableShared shared alpha = LosslessBuffer.availableShared shared alpha := by
  simp [Pool.availableShared, dynamic]

namespace Sizing

variable {gateName asic scenario ingressProfile : Bytes} {config : Option BufferConfig}
  {registers : Option RegisterSnapshot} {topology : Topology}
  {lookup : Option (Bytes → Except Fault Family)}
  (z : Sizing gateName config registers asic scenario ingressProfile topology lookup)

theorem sizedBy : z.calculation.SizedBy z.family z.quantizer z.pool z.profile where
  headroom := ⟨z.xoff, z.xoff_eq, z.headroom_eq⟩
  resetOffset := ⟨z.xonOffset, z.xonOffset_eq, z.resetOffset_eq⟩
  pgMin := ⟨z.sizeCells, z.sizeCells_eq, rfl⟩
  alpha := resolveAlpha_eq_ok.1 z.alpha_eq
  available := Pool.availableShared_of_dynamic z.dynamic _ _ ▸ z.available_eq
  dynamic := decide_eq_true z.dynamic

end Sizing

theorem Sizing.reads {r : Request} {lookup : Option (Bytes → Except Fault Family)}
    (z : r.Sizing lookup) : r.Reads lookup z.family z.target z.pool z.profile z.quantizer where
  finds := ⟨z.find, z.find_eq, z.family_eq⟩
  keyed := z.target_eq
  configured := ⟨z.cfg, z.cfg_eq, z.pool_eq, z.profile_eq⟩
  quantized := z.quantizer_eq

/-- The target of the table a run gives back carries the run's watermarks. -/
theorem Run.carries {r : Request} {lookup : Option (Bytes → Except Fault Family)}
    (run : Run r lookup) : ∃ s, run.outcome.params.scenarios[run.sizing.target.raw]? = some s ∧
      s.Carries run.sizing.watermarks := by
  obtain ⟨base, -, edits, present⟩ := run.edits
  obtain ⟨s, found, -, named⟩ := edits.scenario
  have written : ∀ name ∈ marginProfiles, ∃ sub : SubProfile, s.profiles[name]? =
      some (sub.assembledAs run.sizing.watermarks name) ∧
      ∃ m, (sub.assembledAs run.sizing.watermarks name).pktsMargin = some m ∧
        defaultMargin ≤ m := by
    intro name member
    obtain ⟨sub, completed⟩ := Option.isSome_iff_exists.1 (present name member)
    refine ⟨sub, by rw [named, completed]; rfl, ?_⟩
    rw [SubProfile.assembledAs_pktsMargin _ member]
    exact ParamTable.completedProfile_pktsMargin member completed
  refine ⟨s, found, ⟨fun name member => ?_, fun name member => ?_, fun sub pooled => ?_⟩⟩
  · obtain ⟨sub, is, margin⟩ := written name (List.mem_append_left _ member)
    obtain ⟨pfc, drop⟩ := sub.assembledAs_xoff run.sizing.watermarks member
    exact ⟨_, is, pfc, drop, margin⟩
  · obtain ⟨sub, is, margin⟩ := written name (List.mem_append_right _ member)
    obtain ⟨pfc, dismiss⟩ := sub.assembledAs_xon run.sizing.watermarks member
    exact ⟨_, is, pfc, dismiss, margin⟩
  · rw [named] at pooled
    obtain ⟨t, -, rfl⟩ := Option.map_eq_some_iff.1 pooled
    rw [SubProfile.assembledAs_pool]
    obtain ⟨pfc, full, margin, partialFill, dynamic⟩ :=
      t.assembledPool_written run.sizing.watermarks
    exact ⟨pfc, full, ⟨t.poolMargin, margin, t.defaultMargin_le_poolMargin, partialFill⟩,
      dynamic⟩

/-- A successful calculation sizes its watermarks from the family, the ingress lossless
pool and profile it reads, and writes them into the target scenario. -/
theorem generate_sizes_watermarks {r : Request} {lookup : Option (Bytes → Except Fault Family)}
    {o : Outcome} (h : (generate r lookup).Returns o) :
    ∃ family t pool profile q, r.Reads lookup family t pool profile q ∧
      o.calculation.SizedBy family q pool profile ∧
      ∃ s, o.params.scenarios[t.raw]? = some s ∧ s.Carries o.calculation.watermarks := by
  obtain ⟨run, rfl⟩ := generate_ensures r lookup o h
  obtain ⟨s, found, carries⟩ := run.carries
  exact ⟨_, _, _, _, _, run.sizing.reads, run.sizing.sizedBy, s, found, carries⟩

theorem generate_sizes_watermarks_sample :
    ∃ o, (generate (DualTorSample.request DualTorSample.table) (some Family.lookup)).Returns o ∧
      ∃ family t pool profile q,
        (DualTorSample.request DualTorSample.table).Reads (some Family.lookup) family t pool
          profile q ∧
        o.calculation.SizedBy family q pool profile ∧
        ∃ s, o.params.scenarios[t.raw]? = some s ∧ s.Carries o.calculation.watermarks := by
  obtain ⟨o, runs, -⟩ := DualTorSample.request_runs
  exact ⟨o, runs, generate_sizes_watermarks runs⟩

/-! ## Quantities that do not wrap -/

/-- A profile whose byte quantities are below `2^62`. -/
structure Profile.Moderate (p : Profile) : Prop where
  size : p.size.toInt < 2 ^ 62
  xoff : ∀ x ∈ p.xoff, x.toInt < 2 ^ 62
  xonOffset : ∀ x ∈ p.xonOffset, x.toInt < 2 ^ 62

/-- The quantities of calculation `c` are the integers their formulas mean, for a family and
an ingress lossless profile: the headroom and the reset offset are the cells of the
profile's `xoff` and `xon_offset`, the minimum is the cells of its size or, on `td2`, half
the reset offset, and both thresholds are integer sums. -/
structure Calculation.Exact (c : Calculation) (family : Family) (profile : Profile) : Prop where
  headroom : ∃ xoff, profile.xoff = some xoff ∧
    c.watermarks.headroomCells.toInt = cellsOf family.cellSize.toInt xoff.toInt
  resetOffset : ∃ xonOffset, profile.xonOffset = some xonOffset ∧
    c.watermarks.pgResetOffsetCells.toInt = cellsOf family.cellSize.toInt xonOffset.toInt
  pgMin : c.watermarks.pgMinCells.toInt =
    if family = .td2 then c.watermarks.pgResetOffsetCells.toInt / 2
    else cellsOf family.cellSize.toInt profile.size.toInt
  trigPfc : c.watermarks.trigPfc.toInt =
    c.watermarks.pgMinCells.toInt + c.watermarks.availableSharedCells.toInt
  trigIngrDrp : (c.watermarks.trigPfc + c.watermarks.headroomCells).toInt =
    c.watermarks.trigPfc.toInt + c.watermarks.headroomCells.toInt

/-- Watermarks in order under `shared` shared cells: no cell count is negative, the PFC
threshold lies between the minimum and the drop threshold, and the available shared buffer
is below a positive `shared`. -/
structure Watermarks.Ordered (w : Watermarks) (shared : Int64) : Prop where
  pgMin_nonneg : 0 ≤ w.pgMinCells
  pgMin_le_trigPfc : w.pgMinCells ≤ w.trigPfc
  trigPfc_le_trigIngrDrp : w.trigPfc ≤ w.trigPfc + w.headroomCells
  headroom_nonneg : 0 ≤ w.headroomCells
  resetOffset_nonneg : 0 ≤ w.pgResetOffsetCells
  available_nonneg : 0 ≤ w.availableSharedCells
  available_lt : 0 < shared → w.availableSharedCells < shared

namespace Sizing

variable {gateName asic scenario ingressProfile : Bytes} {config : Option BufferConfig}
  {registers : Option RegisterSnapshot} {topology : Topology}
  {lookup : Option (Bytes → Except Fault Family)}
  (z : Sizing gateName config registers asic scenario ingressProfile topology lookup)

/-- The cells of a byte quantity below `2^62` are the exact ceiling, below `2^60`. -/
theorem toInt_cells {n k : Int64} (h : z.quantizer.bytesToCells n = .ok k)
    (bound : n.toInt < 2 ^ 62) :
    k.toInt = cellsOf z.family.cellSize.toInt n.toInt ∧ 0 ≤ k.toInt ∧ k.toInt < 2 ^ 60 := by
  have cell := Quantizer.ofCellSize_cellSize z.quantizer_eq
  have nonneg : 0 ≤ n.toInt := Int64.le_iff_toInt_le.1 (Quantizer.bytesToCells_eq_ok.1 h).1
  have exact : k.toInt = cellsOf z.family.cellSize.toInt n.toInt := by
    rw [← cell]
    exact Quantizer.toInt_bytesToCells h
      (by rw [cell]; rcases z.family.cellSize_toInt with c | c <;> omega)
  rw [exact]
  exact ⟨rfl, z.family.cellsOf_lt nonneg bound⟩

/-- Under a moderate profile and fewer than `2^62` shared cells in effect, a sizing computes
every quantity exactly and keeps its watermarks in order. -/
theorem exact (moderate : z.profile.Moderate) (shared : z.effective.toInt < 2 ^ 62) :
    z.calculation.Exact z.family z.profile ∧ z.watermarks.Ordered z.effective := by
  obtain ⟨headroom, headroomNonneg, headroomBound⟩ :=
    z.toInt_cells z.headroom_eq (moderate.xoff _ z.xoff_eq)
  obtain ⟨reset, resetNonneg, resetBound⟩ :=
    z.toInt_cells z.resetOffset_eq (moderate.xonOffset _ z.xonOffset_eq)
  obtain ⟨size, sizeNonneg, sizeBound⟩ := z.toInt_cells z.sizeCells_eq moderate.size
  have pgMin : (z.family.pgMinCells z.sizeCells z.resetOffset).toInt =
      if z.family = .td2 then z.resetOffset.toInt / 2 else z.sizeCells.toInt := by
    unfold Family.pgMinCells
    split
    · exact Int64.toInt_div_of_nonneg resetNonneg (by decide)
    · rfl
  have pgMinBound : 0 ≤ (z.family.pgMinCells z.sizeCells z.resetOffset).toInt ∧
      (z.family.pgMinCells z.sizeCells z.resetOffset).toInt < 2 ^ 60 := by
    rw [pgMin]
    split <;> omega
  have shares : availableShared z.effective z.alpha = .ok z.available :=
    Pool.availableShared_of_dynamic z.dynamic _ _ ▸ z.available_eq
  obtain ⟨-, -, alphaAtMost⟩ := availableShared_domain shares
  have power : (2 : Int) ^ z.alpha.toInt.toNat ≤ 2 ^ 62 :=
    pow_le_pow_right₀ (by norm_num) (by omega)
  obtain ⟨availableNonneg, availableAtMost, availableBelow⟩ :=
    availableShared_bounds shares fun _ => by omega
  rw [Int64.le_iff_toInt_le, Int64.toInt_zero] at availableNonneg
  rw [Int64.le_iff_toInt_le] at availableAtMost
  have trigPfc : (z.family.pgMinCells z.sizeCells z.resetOffset + z.available).toInt =
      (z.family.pgMinCells z.sizeCells z.resetOffset).toInt + z.available.toInt :=
    Int64.toInt_add_of_lt (by omega) (by omega)
  have trigIngrDrp :
      (z.family.pgMinCells z.sizeCells z.resetOffset + z.available + z.headroom).toInt =
        (z.family.pgMinCells z.sizeCells z.resetOffset + z.available).toInt + z.headroom.toInt :=
    Int64.toInt_add_of_lt (by omega) (by omega)
  refine ⟨⟨⟨z.xoff, z.xoff_eq, headroom⟩, ⟨z.xonOffset, z.xonOffset_eq, reset⟩, ?_,
    trigPfc, trigIngrDrp⟩, ⟨?_, ?_, ?_, ?_, ?_, ?_, availableBelow⟩⟩
  · rw [calculation_watermarks, watermarks_pgMinCells, watermarks_pgResetOffsetCells, pgMin, size]
  all_goals
    simp only [Int64.le_iff_toInt_le, Int64.toInt_zero, Watermarks.trigPfc, watermarks_pgMinCells,
      watermarks_availableSharedCells, watermarks_headroomCells, watermarks_pgResetOffsetCells]
    omega

end Sizing

/-- With the profile's byte quantities and the shared cells in effect below `2^62`, a
successful calculation computes every quantity as the integer its formula means, keeps its
thresholds in order, and writes them into the target scenario. -/
theorem generate_thresholds_exact {r : Request} {lookup : Option (Bytes → Except Fault Family)}
    {o : Outcome} (h : (generate r lookup).Returns o)
    (moderate : ∀ cfg ∈ r.bufferConfig, ∀ t, ScenarioKey.ofBytes r.scenario = .ok t →
      ∀ profile ∈ cfg.profiles[ingressProfileName r.ingressProfile t]?, profile.Moderate)
    (shared : o.calculation.effectiveSharedCells.toInt < 2 ^ 62) :
    ∃ family t pool profile q, r.Reads lookup family t pool profile q ∧
      o.calculation.Exact family profile ∧
      o.calculation.watermarks.Ordered o.calculation.effectiveSharedCells ∧
      ∃ s, o.params.scenarios[t.raw]? = some s ∧ s.Carries o.calculation.watermarks := by
  obtain ⟨run, rfl⟩ := generate_ensures r lookup o h
  obtain ⟨s, found, carries⟩ := run.carries
  have profileModerate : run.sizing.profile.Moderate :=
    moderate _ run.sizing.cfg_eq _ run.sizing.target_eq _ run.sizing.profile_eq
  obtain ⟨exact, ordered⟩ := run.sizing.exact profileModerate shared
  exact ⟨_, _, _, _, _, run.sizing.reads, exact, ordered, s, found, carries⟩

/-- The ingress lossless profile of the dual-ToR sample is moderate. -/
theorem DualTorSample.ingress_moderate (p : ParamTable) :
    ∀ cfg ∈ (DualTorSample.request p).bufferConfig, ∀ t,
      ScenarioKey.ofBytes (DualTorSample.request p).scenario = .ok t →
      ∀ profile ∈ cfg.profiles[ingressProfileName (DualTorSample.request p).ingressProfile t]?,
        profile.Moderate := by
  intro cfg configured t keyed profile found
  cases configured
  obtain rfl : t = DualTorSample.target := Except.ok.inj (keyed.symm.trans (DualTorSample.keyed p))
  have named : DualTorSample.config.profiles[ingressProfileName (Bytes.ofString "")
      DualTorSample.target]? = some { size := 1280, xoff := some 23040, xonOffset := some 2560 } := by
    decide +kernel
  cases named.symm.trans found
  exact ⟨by decide, fun x given => by cases given; decide, fun x given => by cases given; decide⟩

theorem generate_thresholds_exact_sample :
    ∃ o, (generate (DualTorSample.request DualTorSample.table) (some Family.lookup)).Returns o ∧
      (∀ cfg ∈ (DualTorSample.request DualTorSample.table).bufferConfig, ∀ t,
        ScenarioKey.ofBytes (DualTorSample.request DualTorSample.table).scenario = .ok t →
        ∀ profile ∈ cfg.profiles[ingressProfileName
          (DualTorSample.request DualTorSample.table).ingressProfile t]?, profile.Moderate) ∧
      o.calculation.effectiveSharedCells.toInt < 2 ^ 62 ∧
      ∃ family t pool profile q,
        (DualTorSample.request DualTorSample.table).Reads (some Family.lookup) family t pool
          profile q ∧
        o.calculation.Exact family profile ∧
        o.calculation.watermarks.Ordered o.calculation.effectiveSharedCells ∧
        ∃ s, o.params.scenarios[t.raw]? = some s ∧ s.Carries o.calculation.watermarks := by
  obtain ⟨o, runs, -, shared⟩ := DualTorSample.request_runs
  have small : o.calculation.effectiveSharedCells.toInt < 2 ^ 62 := by
    rw [shared]
    decide
  exact ⟨o, runs, DualTorSample.ingress_moderate _, small,
    generate_thresholds_exact runs (DualTorSample.ingress_moderate _) small⟩

namespace Sample

/-- The sample configuration with a headroom of `2^63 - 1` bytes. -/
def wrappingConfig : BufferConfig :=
  { config with
    profiles := (∅ : Std.TreeMap Bytes Profile).insert
      (Bytes.ofString "pg_lossless_100000_5m_profile")
      { size := 1248, xoff := some 9223372036854775807, xonOffset := some 2496 } }

/-- The sample request over the configuration with the largest headroom. -/
def wrappingRequest : Request := { request with bufferConfig := some wrappingConfig }

end Sample

/-- A headroom of `2^63 - 1` bytes wraps to a negative count of cells: the calculation
succeeds and writes into `xoff_1` a drop threshold below its PFC threshold. -/
theorem generate_wraps_ingress_drop :
    ∃ o, (generate Sample.wrappingRequest (some Family.lookup)).Returns o ∧
      ∃ s sub pfc drop, o.params.scenarios["100000_5m"]? = some s ∧
        s.profiles["xoff_1"]? = some sub ∧ sub.trigPfc = some pfc ∧
        sub.trigIngrDrp = some drop ∧ drop < pfc := by
  have evaluated : ((generate Sample.wrappingRequest (some Family.lookup)).run' {}).1.toOption.map
      (fun o => (((o.params.scenarios["100000_5m"]?).bind (·.profiles["xoff_1"]?)).bind fun sub =>
        sub.trigPfc.bind fun pfc => sub.trigIngrDrp.map fun drop => decide (drop < pfc)) ==
        some true) = some true := by
    decide +kernel
  obtain ⟨o, runs, written⟩ := exists_returns_of_test evaluated
  simp only [beq_iff_eq, Option.bind_eq_some_iff, Option.map_eq_some_iff,
    decide_eq_true_eq] at written
  obtain ⟨sub, ⟨s, found, named⟩, pfc, triggers, drop, drops, below⟩ := written
  exact ⟨o, runs, s, sub, pfc, drop, found, named, triggers, drops, below⟩

end LosslessBuffer
