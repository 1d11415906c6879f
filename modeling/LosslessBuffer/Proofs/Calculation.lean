import LosslessBuffer.Calculation
import LosslessBuffer.Proofs.Completion
/-!
# A successful calculation, taken apart

`generate` runs a long chain of checks, each of which may end it with a fault, around two
steps that read and write the parameter table: the completion of the target scenario and
the assembly of its watermarks. Everything else it computes depends on the request's other
inputs alone. This module names those values once:

* `Sizing` gathers the values a successful calculation finds before it writes the table,
  each with the equation that produced it: the override gate, the buffer configuration,
  the family, the target, the ingress lossless pool and profile, the exponent, the
  accounting, and the cells of the profile and of the shared buffer available to it;
* `Run` adds the completion and the assembly a successful run made, and `Run.outcome` is
  what the run gives back.

`generate_ensures` says that every outcome of `generate` is the outcome of a run, and
`generate_yields` runs `generate` forwards from a sizing and from a completion and an
assembly that cannot fail; `generate_safe` needs only a completion that cannot fail. A
sizing is determined by the inputs it reads, and one for a target serves another with the
same ingress lossless profile (`Sizing.move`). Every property of the calculation is proved from these two
rather than from the definition of `generate`.
-/

set_option autoImplicit false

namespace LosslessBuffer

open LosslessBuffer.Text
open Step

/-! ## Steps that only write the journal -/

/-- The shared cells in effect under an override decision: the register's when the
override is applied, else the computed ones. -/
def effectiveCells (computed : Int64) : Option OverrideRecord → Int64
  | some o => if o.applied then o.register else computed
  | none => computed

theorem applyOverride_yields (computed : Int64) (o : Option OverrideRecord) :
    (applyOverride computed o).Yields (effectiveCells computed o) := by
  cases o with
  | none => exact yields_pure _
  | some o =>
    refine yields_bind (yields_traced _) (yields_ite (fun applied => ?_) fun held => ?_)
    · rw [effectiveCells, if_pos applied]
      exact yields_bind (yields_log _ _) (yields_pure _)
    · rw [effectiveCells, if_neg held]
      exact yields_ite (fun _ => yields_bind (yields_log _ _) (yields_pure _))
        fun _ => yields_pure _

theorem recordAccounting_yields (acct : SharedBuffer) : (recordAccounting acct).Yields () := by
  refine yields_bind (yields_traced _) (yields_bind (yields_forIn_const _ _ _ fun _ _ => ?_)
    (yields_bind (yields_forIn_const _ _ _ fun _ _ => ?_) (yields_pure _)))
  · exact yields_bind (yields_traced _) (yields_bind (yields_log _ _) (yields_pure _))
  · exact yields_bind (yields_log _ _) (yields_pure _)

/-! ## The sizing of a calculation -/

/-- The ingress lossless profile of a calculation: the one given, else the one named after
the target. -/
def ingressProfileName (given : Bytes) (target : ScenarioKey) : Bytes :=
  if given.isEmpty then Bytes.ofString (losslessProfileName target) else given

theorem ingressProfileName_of_named {given : Bytes} (named : given.isEmpty = false)
    (target : ScenarioKey) : ingressProfileName given target = given := by
  simp [ingressProfileName, named]

/-- What a successful calculation finds before it writes the table, from the inputs it
reads: the override gate named `gateName`, the buffer configuration, the register
snapshot, the family named `asic` as `lookup` finds it, the target key `scenario`, the
ingress lossless profile `ingressProfile` and the testbed. Each value comes with the
equation that produced it, so a sizing exists only for inputs that pass every check. -/
structure Sizing (gateName : Bytes) (config : Option BufferConfig)
    (registers : Option RegisterSnapshot) (asic scenario ingressProfile : Bytes)
    (topology : Topology) (lookup : Option (Bytes → Except Fault Family)) where
  gate : OverrideGate
  gate_eq : gateName.toString?.bind OverrideGate.ofName? = some gate
  cfg : BufferConfig
  cfg_eq : config = some cfg
  find : Bytes → Except Fault Family
  find_eq : lookup = some find
  family : Family
  family_eq : find asic = .ok family
  target : ScenarioKey
  target_eq : ScenarioKey.ofBytes scenario = .ok target
  pool : Pool
  pool_eq : cfg.pools[Bytes.ofString ingressLosslessPool]? = some pool
  dynamic : pool.mode = Bytes.ofString dynamicMode
  profile : Profile
  profile_eq : cfg.profiles[ingressProfileName ingressProfile target]? = some profile
  xoff : Int64
  xoff_eq : profile.xoff = some xoff
  xonOffset : Int64
  xonOffset_eq : profile.xonOffset = some xonOffset
  alpha : Int64
  alpha_eq : resolveAlpha profile pool = .ok alpha
  quantizer : Quantizer
  quantizer_eq : Quantizer.ofCellSize family.cellSize = .ok quantizer
  acct : SharedBuffer
  acct_eq : family.sharedBuffer cfg pool quantizer = .ok acct
  committed : ¬ effectiveCells acct.cells
    (registerOverride registers topology family acct.cells gate) < 0
  sizeCells : Int64
  sizeCells_eq : quantizer.bytesToCells profile.size = .ok sizeCells
  headroom : Int64
  headroom_eq : quantizer.bytesToCells xoff = .ok headroom
  resetOffset : Int64
  resetOffset_eq : quantizer.bytesToCells xonOffset = .ok resetOffset
  available : Int64
  available_eq : pool.availableShared
    (effectiveCells acct.cells (registerOverride registers topology family acct.cells gate))
    alpha = .ok available

/-- The sizing of the calculation a request asks for. -/
abbrev Request.Sizing (r : Request) (lookup : Option (Bytes → Except Fault Family)) : Type :=
  LosslessBuffer.Sizing r.gate r.bufferConfig r.registers r.asic r.scenario r.ingressProfile
    r.topology lookup

namespace Sizing

variable {gateName asic scenario ingressProfile : Bytes} {config : Option BufferConfig}
  {registers : Option RegisterSnapshot} {topology : Topology}
  {lookup : Option (Bytes → Except Fault Family)}
  (z : Sizing gateName config registers asic scenario ingressProfile topology lookup)

/-- The register override decision of a sizing. -/
def override : Option OverrideRecord :=
  registerOverride registers topology z.family z.acct.cells z.gate

/-- The shared cells in effect. -/
def effective : Int64 :=
  effectiveCells z.acct.cells z.override

/-- The watermarks a sizing gives. -/
def watermarks : Watermarks where
  pgMinCells := z.family.pgMinCells z.sizeCells z.resetOffset
  availableSharedCells := z.available
  headroomCells := z.headroom
  pgResetOffsetCells := z.resetOffset
  dynamicPool := decide (z.pool.mode = Bytes.ofString dynamicMode)

theorem watermarks_pgMinCells :
    z.watermarks.pgMinCells = z.family.pgMinCells z.sizeCells z.resetOffset := rfl

theorem watermarks_availableSharedCells : z.watermarks.availableSharedCells = z.available := rfl

theorem watermarks_headroomCells : z.watermarks.headroomCells = z.headroom := rfl

theorem watermarks_pgResetOffsetCells : z.watermarks.pgResetOffsetCells = z.resetOffset := rfl

/-- The intermediate quantities a sizing gives. -/
def calculation : Calculation where
  cellSizeBytes := z.family.cellSize
  sharedBufferCells := z.acct.cells
  effectiveSharedCells := z.effective
  alpha := z.alpha
  watermarks := z.watermarks

theorem calculation_watermarks : z.calculation.watermarks = z.watermarks := rfl

/-- The outcome of a calculation with this sizing, given the completed table, the margins
written, the assembled target and the watermarks written. -/
def outcome (completed : ParamTable) (margins : List UpdateRecord) (assembled : Scenario)
    (written : List UpdateRecord) : Outcome where
  params := { completed with scenarios := completed.scenarios.insert z.target.raw assembled }
  calculation := z.calculation
  updates := margins ++ written
  skips := z.acct.skips
  override := z.override

/-- A sizing is determined by its inputs: each value is fixed by its equation once the ones
before it are. -/
instance : Subsingleton (Sizing gateName config registers asic scenario ingressProfile topology
    lookup) := by
  constructor
  intro a b
  obtain ⟨gate, gate_eq, cfg, cfg_eq, find, find_eq, family, family_eq, target, target_eq, pool,
    pool_eq, dynamic, profile, profile_eq, xoff, xoff_eq, xonOffset, xonOffset_eq, alpha, alpha_eq,
    quantizer, quantizer_eq, acct, acct_eq, committed, sizeCells, sizeCells_eq, headroom,
    headroom_eq, resetOffset, resetOffset_eq, available, available_eq⟩ := a
  obtain ⟨gate', gate_eq', cfg', cfg_eq', find', find_eq', family', family_eq', target', target_eq',
    pool', pool_eq', -, profile', profile_eq', xoff', xoff_eq', xonOffset', xonOffset_eq', alpha',
    alpha_eq', quantizer', quantizer_eq', acct', acct_eq', -, sizeCells', sizeCells_eq', headroom',
    headroom_eq', resetOffset', resetOffset_eq', available', available_eq'⟩ := b
  obtain rfl := Option.some.inj (gate_eq.symm.trans gate_eq')
  obtain rfl := Option.some.inj (cfg_eq.symm.trans cfg_eq')
  obtain rfl := Option.some.inj (find_eq.symm.trans find_eq')
  obtain rfl := Except.ok.inj (family_eq.symm.trans family_eq')
  obtain rfl := Except.ok.inj (target_eq.symm.trans target_eq')
  obtain rfl := Option.some.inj (pool_eq.symm.trans pool_eq')
  obtain rfl := Option.some.inj (profile_eq.symm.trans profile_eq')
  obtain rfl := Option.some.inj (xoff_eq.symm.trans xoff_eq')
  obtain rfl := Option.some.inj (xonOffset_eq.symm.trans xonOffset_eq')
  obtain rfl := Except.ok.inj (alpha_eq.symm.trans alpha_eq')
  obtain rfl := Except.ok.inj (quantizer_eq.symm.trans quantizer_eq')
  obtain rfl := Except.ok.inj (acct_eq.symm.trans acct_eq')
  obtain rfl := Except.ok.inj (sizeCells_eq.symm.trans sizeCells_eq')
  obtain rfl := Except.ok.inj (headroom_eq.symm.trans headroom_eq')
  obtain rfl := Except.ok.inj (resetOffset_eq.symm.trans resetOffset_eq')
  obtain rfl := Except.ok.inj (available_eq.symm.trans available_eq')
  rfl

/-- The sizing of a calculation for another target with the same ingress lossless profile:
nothing else a sizing finds depends on the target. -/
def move {scenario' ingressProfile' : Bytes} {target' : ScenarioKey}
    (keyed : ScenarioKey.ofBytes scenario' = .ok target')
    (same : ingressProfileName ingressProfile' target' = ingressProfileName ingressProfile z.target) :
    Sizing gateName config registers asic scenario' ingressProfile' topology lookup :=
  { z with target := target', target_eq := keyed, profile_eq := same ▸ z.profile_eq }

end Sizing

/-! ## Runs -/

/-- A successful run of `generate` on request `r`: its sizing, the completion of the
request's table, and the assembly of the completed target. -/
structure Run (r : Request) (lookup : Option (Bytes → Except Fault Family)) where
  sizing : r.Sizing lookup
  table : ParamTable
  table_eq : r.params = some table
  completed : ParamTable
  margins : List UpdateRecord
  completes : (table.prepareDefaults sizing.target).Returns (completed, margins)
  assembled : Scenario
  written : List UpdateRecord
  assembles : (((completed.scenarios[sizing.target.raw]?).getD {}).assemble sizing.target.raw
    sizing.watermarks).Returns (assembled, written)

/-- What a run gives back. -/
def Run.outcome {r : Request} {lookup : Option (Bytes → Except Fault Family)}
    (run : Run r lookup) : Outcome :=
  run.sizing.outcome run.completed run.margins run.assembled run.written

theorem mapError_eq_ok {ε ε' α : Type} {f : ε → ε'} {x : Except ε α} {a : α} :
    x.mapError f = .ok a ↔ x = .ok a := by
  cases x with
  | error e => exact ⟨fun h => (nomatch h), fun h => (nomatch h)⟩
  | ok b =>
    constructor
    · intro h
      cases h
      rfl
    · intro h
      cases h
      rfl

/-- Every outcome of `generate` is the outcome of a run. -/
theorem generate_ensures (r : Request) (lookup : Option (Bytes → Except Fault Family)) :
    (generate r lookup).Ensures fun o => ∃ run : Run r lookup, o = run.outcome := by
  unfold generate
  split
  next gate gate_eq =>
    split
    next table cfg inputs =>
      simp only [Prod.mk.injEq] at inputs
      split
      next find =>
        refine ensures_bind (ensures_ofExcept _) fun family family_eq => ?_
        refine ensures_bind (ensures_ofExcept _) fun target target_eq => ?_
        refine ensures_bind (ensures_returns _) ?_
        rintro ⟨completed, margins⟩ completes
        dsimp only
        split
        next pool pool_eq =>
          refine ensures_ite (fun _ => ensures_fail_bind) fun dynamic => ?_
          split
          next profile profile_eq =>
            split
            next xoff xonOffset offsets =>
              simp only [Prod.mk.injEq] at offsets
              refine ensures_bind (ensures_ofExcept _) fun alpha alpha_eq => ?_
              refine ensures_bind (ensures_ofExcept _) fun quantizer quantizer_eq => ?_
              refine ensures_bind (ensures_ofExcept _) fun acct acct_eq => ?_
              refine ensures_bind_of_yields (recordAccounting_yields acct) ?_
              refine ensures_bind_of_yields (applyOverride_yields _ _) ?_
              refine ensures_ite (fun _ => ensures_fail_bind) fun committed => ?_
              refine ensures_bind (ensures_ofExcept _) fun sizeCells sizeCells_eq => ?_
              refine ensures_bind (ensures_ofExcept _) fun headroom headroom_eq => ?_
              refine ensures_bind (ensures_ofExcept _) fun resetOffset resetOffset_eq => ?_
              refine ensures_bind (ensures_ofExcept _) fun available available_eq => ?_
              refine ensures_bind_of_yields (yields_log _ _) ?_
              refine ensures_bind (ensures_returns _) ?_
              rintro ⟨assembled, written⟩ assembles
              let z : r.Sizing (some find) :=
                { gate, gate_eq, cfg, cfg_eq := inputs.2, find, find_eq := rfl, family,
                  family_eq, target, target_eq, pool, pool_eq := by simpa using pool_eq,
                  dynamic := of_not_not dynamic, profile,
                  profile_eq := by simpa [ingressProfileName] using profile_eq,
                  xoff, xoff_eq := offsets.1, xonOffset, xonOffset_eq := offsets.2, alpha,
                  alpha_eq := mapError_eq_ok.1 alpha_eq, quantizer, quantizer_eq, acct, acct_eq,
                  committed, sizeCells, sizeCells_eq, headroom, headroom_eq, resetOffset,
                  resetOffset_eq, available, available_eq }
              exact ensures_pure ⟨⟨z, table, inputs.1, completed, margins, completes, assembled,
                written, assembles⟩, rfl⟩
            next => exact ensures_fail
          next => exact ensures_fail
        next => exact ensures_fail
      next => exact ensures_fail
    next => exact ensures_fail
  next => exact ensures_fail

/-- A request with a sizing, whose completion and assembly cannot fail, gives the outcome
of that sizing. -/
theorem generate_yields {r : Request} {lookup : Option (Bytes → Except Fault Family)}
    (z : r.Sizing lookup) {table completed : ParamTable} {margins written : List UpdateRecord}
    {assembled : Scenario} (table_eq : r.params = some table)
    (completes : (table.prepareDefaults z.target).Yields (completed, margins))
    (assembles : (((completed.scenarios[z.target.raw]?).getD {}).assemble z.target.raw
      z.watermarks).Yields (assembled, written)) :
    (generate r lookup).Yields (z.outcome completed margins assembled written) := by
  have profile_eq := z.profile_eq
  unfold ingressProfileName at profile_eq
  unfold generate
  simp only [z.gate_eq, table_eq, z.cfg_eq, z.find_eq]
  refine yields_bind (yields_ofExcept z.family_eq) (yields_bind (yields_ofExcept z.target_eq)
    (yields_bind completes ?_))
  simp only [Std.TreeMap.get?_eq_getElem?, z.pool_eq]
  rw [if_neg (not_not_intro z.dynamic)]
  simp only [profile_eq, z.xoff_eq, z.xonOffset_eq]
  refine yields_bind (yields_ofExcept (mapError_eq_ok.2 z.alpha_eq))
    (yields_bind (yields_ofExcept z.quantizer_eq) (yields_bind (yields_ofExcept z.acct_eq)
    (yields_bind (recordAccounting_yields _) (yields_bind (applyOverride_yields _ _) ?_))))
  rw [if_neg z.committed]
  refine yields_bind (yields_ofExcept z.sizeCells_eq) (yields_bind (yields_ofExcept
    z.headroom_eq) (yields_bind (yields_ofExcept z.resetOffset_eq) (yields_bind
    (yields_ofExcept z.available_eq) (yields_bind (yields_log _ _) ?_))))
  exact yields_bind assembles (yields_pure _)

/-- A completed target is assembled without fail: its xoff and xon sub-profiles are there. -/
theorem ParamTable.Completed.assemble_safe {p q : ParamTable} {t : ScenarioKey}
    (h : p.Completed t q) (w : Watermarks) :
    (((q.scenarios[t.raw]?).getD {}).assemble t.raw w).Safe := by
  obtain ⟨base, -, edits, present⟩ := h
  obtain ⟨s, found, -, named⟩ := edits.scenario
  rw [found, Option.getD_some]
  refine Scenario.assemble_safe _ _ fun name member => ?_
  rw [Std.TreeMap.mem_iff_isSome_getElem?, named]
  exact present name member

/-- A request with a sizing fails only where the completion of its table fails. -/
theorem generate_safe {r : Request} {lookup : Option (Bytes → Except Fault Family)}
    (z : r.Sizing lookup) {table : ParamTable} (table_eq : r.params = some table)
    (completes : (table.prepareDefaults z.target).Safe) : (generate r lookup).Safe := by
  have profile_eq := z.profile_eq
  unfold ingressProfileName at profile_eq
  unfold generate
  simp only [z.gate_eq, table_eq, z.cfg_eq, z.find_eq]
  refine safe_bind_of_yields (yields_ofExcept z.family_eq) (safe_bind_of_yields
    (yields_ofExcept z.target_eq) (safe_bind completes fun ⟨completed, margins⟩ returned => ?_))
  have completed := ParamTable.prepareDefaults_ensures _ _ _ returned
  dsimp only
  simp only [Std.TreeMap.get?_eq_getElem?, z.pool_eq]
  rw [if_neg (not_not_intro z.dynamic)]
  simp only [profile_eq, z.xoff_eq, z.xonOffset_eq]
  refine safe_bind_of_yields (yields_ofExcept (mapError_eq_ok.2 z.alpha_eq))
    (safe_bind_of_yields (yields_ofExcept z.quantizer_eq) (safe_bind_of_yields
    (yields_ofExcept z.acct_eq) (safe_bind_of_yields (recordAccounting_yields _)
    (safe_bind_of_yields (applyOverride_yields _ _) ?_))))
  rw [if_neg z.committed]
  refine safe_bind_of_yields (yields_ofExcept z.sizeCells_eq) (safe_bind_of_yields
    (yields_ofExcept z.headroom_eq) (safe_bind_of_yields (yields_ofExcept z.resetOffset_eq)
    (safe_bind_of_yields (yields_ofExcept z.available_eq) (safe_bind_of_yields
    (yields_log _ _) ?_))))
  exact safe_bind (completed.assemble_safe _) fun ⟨_, _⟩ _ => (yields_pure _).safe

/-! ## What a run does to the table -/

namespace Run

variable {r : Request} {lookup : Option (Bytes → Except Fault Family)} (run : Run r lookup)

/-- The completed table of a run is as `Completed` describes. -/
theorem completed_spec : run.table.Completed run.sizing.target run.completed :=
  ParamTable.prepareDefaults_ensures _ _ _ run.completes

/-- A run rewrites only the target of its table: each sub-profile of the target is the
completed one as assembly writes it. -/
theorem edits : ∃ base, run.table.baseScenario run.sizing.target = some base ∧
    ParamTable.EditsTarget run.table run.sizing.target base
      (fun name => (run.table.completedProfile run.sizing.target base name).map
        (SubProfile.assembledAs run.sizing.watermarks name)) run.outcome.params ∧
    ∀ name ∈ marginProfiles, (run.table.completedProfile run.sizing.target base name).isSome := by
  obtain ⟨base, based, edits, present⟩ := run.completed_spec
  obtain ⟨s, found, other, named⟩ := edits.scenario
  obtain ⟨-, assembledOther, assembledProfiles⟩ :=
    Scenario.assemble_ensures _ _ _ _ run.assembles
  refine ⟨base, based, edits.putTarget ?_ fun name => ?_, present⟩
  · rw [assembledOther, found]
    exact other
  · rw [assembledProfiles, found, Option.getD_some, named]

end Run

/-- The quantities a calculation computes do not depend on its parameter table: its sizing
reads none. -/
theorem generate_calculation_of_params {r : Request}
    {lookup : Option (Bytes → Except Fault Family)} {table : ParamTable} {o o' : Outcome}
    (h : (generate r lookup).Returns o)
    (h' : (generate { r with params := some table } lookup).Returns o') :
    o'.calculation = o.calculation := by
  obtain ⟨run, rfl⟩ := generate_ensures r lookup o h
  obtain ⟨run', rfl⟩ := generate_ensures _ lookup o' h'
  have same : run'.sizing = run.sizing := @Subsingleton.elim (r.Sizing lookup) _ _ _
  show run'.sizing.calculation = run.sizing.calculation
  rw [same]

/-! ## Sample calculations

A Tomahawk table with one scenario whose xoff and xon sub-profiles carry their margins, and
an ingress lossless pool of a thousand cells over four engines, which divide it evenly. -/

namespace Sample

def subProfile : SubProfile := { pktsMargin := some 4 }

def scenario : Scenario :=
  { profiles := ((((∅ : Std.TreeMap String SubProfile).insert "xoff_1" subProfile).insert "xoff_2"
      subProfile).insert "xon_1" subProfile).insert "xon_2" subProfile }

def table : ParamTable :=
  { scenarios := (∅ : Std.TreeMap String Scenario).insert "100000_5m" scenario }

def config : BufferConfig :=
  { pools := (∅ : Std.TreeMap Bytes Pool).insert (Bytes.ofString ingressLosslessPool)
      { mode := Bytes.ofString dynamicMode, size := 208000, dynamicTh := some 0 }
    profiles := (∅ : Std.TreeMap Bytes Profile).insert
      (Bytes.ofString "pg_lossless_100000_5m_profile")
      { size := 1248, xoff := some 20800, xonOffset := some 2496 } }

def request : Request :=
  { params := some table, bufferConfig := some config, asic := Bytes.ofString "th",
    scenario := Bytes.ofString "100000_5m" }

theorem request_runs : ∃ o, (generate request (some Family.lookup)).Returns o :=
  exists_returns_of_isOk
    (by decide +kernel : ((generate request (some Family.lookup)).run' {}).1.isOk = true)

end Sample

/-! ## A cloned target on a dual-ToR switch

A Trident 3 switch, which accounts subtractively, on a dual-ToR testbed whose register
snapshot reports a shared limit. Its buffer configuration carves two queue ranges and a
lossless priority group out of the pool; a queue binding without an index range and one
naming a missing profile are skipped, and a lossy priority group is not carved. The
parameter table lacks the target `100000_5m`, which is cloned from `100000_40m`, among
scenarios with settings and extra fields of their own, next to top-level defaults and
settings. -/

namespace DualTorSample

def pool : Pool :=
  { mode := Bytes.ofString dynamicMode, size := 1048576, xoff := some 65536, dynamicTh := some 0 }

def config : BufferConfig :=
  { pools := (∅ : Std.TreeMap Bytes Pool).insert (Bytes.ofString ingressLosslessPool) pool
    profiles := ((((∅ : Std.TreeMap Bytes Profile).insert
      (Bytes.ofString "pg_lossless_100000_5m_profile")
      { size := 1280, xoff := some 23040, xonOffset := some 2560 }).insert
      (Bytes.ofString "egress_lossless_profile") { size := 1792 }).insert
      (Bytes.ofString "egress_lossy_profile") { size := 512 }).insert
      (Bytes.ofString "ingress_lossy_profile") { size := 0 }
    queues := ((((∅ : Std.TreeMap Bytes Binding).insert (Bytes.ofString "Ethernet0|3-4")
      ⟨Bytes.ofString "[BUFFER_PROFILE|egress_lossless_profile]"⟩).insert
      (Bytes.ofString "Ethernet0|0-2") ⟨Bytes.ofString "egress_lossy_profile"⟩).insert
      (Bytes.ofString "Ethernet4") ⟨Bytes.ofString "egress_lossless_profile"⟩).insert
      (Bytes.ofString "Ethernet8|5") ⟨Bytes.ofString "egress_missing_profile"⟩
    pgs := ((∅ : Std.TreeMap Bytes Binding).insert (Bytes.ofString "Ethernet0|3-4")
      ⟨Bytes.ofString "[BUFFER_PROFILE|pg_lossless_100000_5m_profile]"⟩).insert
      (Bytes.ofString "Ethernet0|0") ⟨Bytes.ofString "ingress_lossy_profile"⟩ }

def request (table : ParamTable) : Request :=
  { params := some table, bufferConfig := some config,
    registers := some { sharedLimitSp0 := some 3700 }, asic := Bytes.ofString "td3",
    scenario := Bytes.ofString "100000_5m",
    topology := { testbed := Bytes.ofString "vms-kvm-dualtor" }, gate := Bytes.ofString "dualtor" }

def margined : SubProfile := { pktsMargin := some 4 }

/-- The target alone, with the sub-profiles it needs: a table that sizes the calculation. -/
def complete : ParamTable :=
  { scenarios := (∅ : Std.TreeMap String Scenario).insert "100000_5m"
      { profiles := ((((∅ : Std.TreeMap String SubProfile).insert "xoff_1" margined).insert
          "xoff_2" margined).insert "xon_1" margined).insert "xon_2" margined } }

/-- The accounting leaves 3810 shared cells and the register's 3700 are in effect. -/
theorem complete_runs : ∃ o, (generate (request complete) (some Family.lookup)).Returns o ∧
    o.calculation.sharedBufferCells = 3810 ∧ o.calculation.effectiveSharedCells = 3700 := by
  have evaluated : ((generate (request complete) (some Family.lookup)).run' {}).1.toOption.map
      (fun o => o.calculation.sharedBufferCells == 3810 &&
        o.calculation.effectiveSharedCells == 3700) = some true := by
    decide +kernel
  obtain ⟨o, runs, cells⟩ := exists_returns_of_test evaluated
  simp only [Bool.and_eq_true, beq_iff_eq] at cells
  exact ⟨o, runs, cells⟩

def xoff : SubProfile :=
  { pktsMargin := some 2,
    extra := (∅ : Std.TreeMap Bytes Yaml.Value).insert (Bytes.ofString "dscp") (.int 3) }

def source : Scenario :=
  { profiles := (((∅ : Std.TreeMap String SubProfile).insert "xoff_1" xoff).insert "xoff_2"
      xoff).insert "wm_pg_shared_lossless"
        { extra := (∅ : Std.TreeMap Bytes Yaml.Value).insert (Bytes.ofString "pg") (.int 3) }
    other := (∅ : Std.TreeMap String Yaml.Value).insert "pkts_num_leak_out" (.int 36) }

def pooled : Scenario :=
  { source with profiles := source.profiles.insert headroomPoolProfile { trigPfc := some 1 } }

def table : ParamTable :=
  { scenarios := (((∅ : Std.TreeMap String Scenario).insert "40000_5m" source).insert
      "100000_40m" source).insert "100000_300m" pooled
    defaults := (((∅ : Std.TreeMap String SubProfile).insert "xon_1" margined).insert "xon_2"
      margined).insert headroomPoolProfile { margin := some 2 }
    other := (∅ : Std.TreeMap String Yaml.Value).insert "hdrm_pool_wm_multiplier" (.int 4) }

def target : ScenarioKey := ⟨100000, 5, "100000_5m"⟩

def sourceKey : ScenarioKey := ⟨100000, 40, "100000_40m"⟩

-- `mergeSort` does not reduce by `decide`, so the sorted keys are found by uniqueness
theorem scenarioKeys_eq :
    table.scenarioKeys = [⟨40000, 5, "40000_5m"⟩, sourceKey, ⟨100000, 300, "100000_300m"⟩] := by
  refine ScenarioKey.eq_of_perm_of_sorted (ScenarioKey.sortedOf_pairwise _) (by decide) ?_
  refine (ScenarioKey.sortedOf_perm _).trans ?_
  decide

theorem reference_target : table.reference target = some sourceKey := by
  rw [ParamTable.reference, scenarioKeys_eq]
  decide

theorem keyed (p : ParamTable) : ScenarioKey.ofBytes (request p).scenario = .ok target :=
  ScenarioKey.ofBytes_of_ofName? (by decide)

theorem absent : target.raw ∉ table.scenarios := by decide

theorem found : table.scenarios[sourceKey.raw]? = some source := by
  show table.scenarios["100000_40m"]? = some source
  rw [table, Std.TreeMap.getElem?_insert, if_neg (by decide),
    Std.TreeMap.getElem?_insert_self]

theorem based : table.baseScenario target = some source :=
  ParamTable.baseScenario_of_reference absent reference_target found

theorem present :
    ∀ name ∈ marginProfiles, (table.completedProfile target source name).isSome := by
  simp only [ParamTable.completedProfile, ParamTable.filledProfile,
    ParamTable.sourceProfile_of_reference reference_target found]
  decide

/-- The calculation over the full table succeeds, with the quantities of the one over the
target alone. -/
theorem request_runs : ∃ o, (generate (request table) (some Family.lookup)).Returns o ∧
    o.calculation.sharedBufferCells = 3810 ∧ o.calculation.effectiveSharedCells = 3700 := by
  obtain ⟨o, runs, cells⟩ := complete_runs
  obtain ⟨run, rfl⟩ := generate_ensures _ _ _ runs
  have targeted : run.sizing.target = target :=
    Except.ok.inj (run.sizing.target_eq.symm.trans (keyed _))
  -- the sizing reads no table, so the one over the target alone serves
  let z : (request table).Sizing (some Family.lookup) :=
    run.sizing.move (keyed _) (by rw [targeted]; rfl)
  obtain ⟨o', runs'⟩ := (generate_safe z rfl
    (ParamTable.prepareDefaults_safe based present)).exists_returns
  rw [← generate_calculation_of_params runs runs'] at cells
  exact ⟨o', runs', cells⟩

end DualTorSample

end LosslessBuffer
