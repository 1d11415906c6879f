import LosslessBuffer.Params.Assembly
import LosslessBuffer.Asic.Accounting
import LosslessBuffer.Asic.Registers
import LosslessBuffer.DynamicThreshold
import LosslessBuffer.Override
/-!
# Calculating the expected watermarks of a scenario

`generate` computes the expected watermarks of one scenario of a parameter table and
gives the table with that scenario complete and written. In order:

1. the override gate is known, parameters and buffer configuration are given, family
   strategies are available, the family is known and the scenario key is valid;
2. the scenario is completed from defaults (`ParamTable.prepareDefaults`);
3. the ingress lossless pool is configured and dynamic, and the ingress lossless profile
   (named, or `pg_lossless_<speed>_<length>m_profile`) is configured with headroom and
   reset offset; its dynamic-threshold exponent is its own or the pool's;
4. the family's accounting gives the shared cells of the pool; a register snapshot may
   report a shared limit that replaces them (`registerOverride`);
5. the shared cells must not be negative; the profile's size, headroom and reset offset
   are taken to cells, and the available shared buffer follows from the exponent;
6. the watermarks are written into the scenario (`Scenario.assemble`).

The first failing check ends the calculation with its fault; what was logged and traced
up to it stays in the journal.
-/

set_option autoImplicit false

namespace LosslessBuffer

open LosslessBuffer.Text

/-- The testbed thresholds are computed for. -/
structure Topology where
  dualTor : Bool := false
  dutTopo : Bytes := Bytes.ofString ""
  testbed : Bytes := Bytes.ofString ""
  deriving Repr, Inhabited

/-- Whether a testbed is dual top-of-rack: marked so, or named so in either topology. -/
def Topology.isDualTor (t : Topology) : Bool :=
  t.dualTor || t.testbed.contains "dualtor" || t.dutTopo.contains "dualtor"

/-- What one calculation consumes. -/
structure Request where
  params : Option ParamTable
  bufferConfig : Option BufferConfig
  registers : Option RegisterSnapshot := none
  asic : Bytes
  scenario : Bytes
  /-- The ingress lossless profile; empty for the one named after the scenario. -/
  ingressProfile : Bytes := Bytes.ofString ""
  topology : Topology := {}
  /-- The override gate name; empty for `always`. -/
  gate : Bytes := Bytes.ofString ""

/-- The intermediate cell quantities of a calculation: the shared cells the family's
accounting gives and those in effect after a register override. -/
structure Calculation where
  cellSizeBytes : Int64
  sharedBufferCells : Int64
  effectiveSharedCells : Int64
  alpha : Int64
  watermarks : Watermarks
  deriving Repr

/-- What a calculation gives. -/
structure Outcome where
  params : ParamTable
  calculation : Calculation
  updates : List UpdateRecord
  skips : List SkipRecord
  override : Option OverrideRecord

/-- Whether a register-reported shared limit replaces the computed shared cells, and
why; none without a register value. A value equal to the computed one or negative is
not applied; under the `dualtor` gate, neither is one on another testbed or on a family
other than `td2` and `td3`. -/
def registerOverride (registers : Option RegisterSnapshot) (topology : Topology)
    (family : Family) (computed : Int64) (gate : OverrideGate) : Option OverrideRecord := do
  let register ← (← registers).sharedLimitSp0
  let decided (applied : Bool) (reason : String) : OverrideRecord :=
    ⟨computed, register, applied, reason⟩
  if register = computed then decided false "register matches computed value"
  else if register < 0 then decided false "negative register value"
  else if gate = .dualTor ∧ !topology.isDualTor then decided false "not a dual-ToR testbed"
  else if gate = .dualTor ∧ family ≠ .td2 ∧ family ≠ .td3 then
    decided false ("family " ++ family.name ++ " not gated for dual-ToR override")
  else decided true ("override gate " ++ gate.name)

/-- The ingress lossless profile named after a scenario. -/
def losslessProfileName (key : ScenarioKey) : String :=
  "pg_lossless_" ++ toString key.speed ++ "_" ++ toString key.cableLength ++ "m_profile"

/-- Adds the override decision to the journal and gives the shared cells in effect. -/
def applyOverride (computed : Int64) : Option OverrideRecord → Step Int64
  | none => return computed
  | some o => do
    Step.traced (Trace.addOverride o)
    if o.applied then
      Step.log .warning ("shared_limit_sp0 register (" ++ toString o.register ++
        " cells) overrides computed shared buffer (" ++ toString o.computed ++ " cells)")
      return o.register
    if o.register ≠ o.computed then
      Step.log .warning ("shared_limit_sp0 register (" ++ toString o.register ++
        " cells) disagrees with computed shared buffer (" ++ toString o.computed ++
        " cells), not applied: " ++ o.reason)
    return computed

/-- Adds the accounting of the shared buffer to the journal. -/
def recordAccounting (acct : SharedBuffer) : Step Unit := do
  Step.traced (Trace.addTerms acct.terms)
  for s in acct.skips do
    Step.traced (Trace.addSkip s)
    Step.log .warning ("skip " ++ s.table ++ "|" ++ s.key ++ " (profile " ++ s.profile.quote ++
      "): " ++ s.reason)
  for t in acct.terms do
    Step.log .debug ("shared_buffer term " ++ t.label ++ ": " ++ toString t.bytes ++ " bytes x " ++
      toString t.multiplier ++ " = " ++ toString t.cells ++ " cells")

/-- Computes the expected watermarks of the requested scenario. `lookup` finds the
family of a name; without it no family strategies are available. -/
def generate (r : Request) (lookup : Option (Bytes → Except Fault Family)) : Step Outcome := do
  let some gate := r.gate.toString?.bind OverrideGate.ofName?
    | Step.fail (.broken .unknownOverrideGate r.gate.quote)
  let (some table, some cfg) := (r.params, r.bufferConfig)
    | Step.fail (.broken .missingInput "qos params and buffer config")
  let some lookup := lookup
    | Step.fail (.broken .noFamilyStrategies "import qos/asic")
  let family ← Step.ofExcept (lookup r.asic)
  let target ← Step.ofExcept (ScenarioKey.ofBytes r.scenario)
  let (table, margins) ← table.prepareDefaults target
  let poolName := "BUFFER_POOL|" ++ ingressLosslessPool
  let some pool := cfg.pools.get? (Bytes.ofString ingressLosslessPool)
    | Step.fail (.broken .missingPool poolName)
  if pool.mode ≠ Bytes.ofString dynamicMode then
    Step.fail (.broken .unsupportedPoolMode (poolName ++ " mode " ++ pool.mode.quote))
  let profileName : Bytes :=
    if r.ingressProfile.isEmpty then losslessProfileName target else r.ingressProfile
  let profileRef := "BUFFER_PROFILE|" ++ profileName.lossy
  let some profile := cfg.profiles.get? profileName
    | Step.fail (.broken .missingProfileReference profileRef)
  let (some xoff, some xonOffset) := (profile.xoff, profile.xonOffset)
    | Step.fail (.broken .incompleteProfile (profileRef ++ " needs xoff and xon_offset"))
  let alpha ← Step.ofExcept ((resolveAlpha profile pool).mapError (.within profileRef))
  let q ← Step.ofExcept (Quantizer.ofCellSize family.cellSize)
  let acct ← Step.ofExcept (family.sharedBuffer cfg pool q)
  recordAccounting acct
  let override := registerOverride r.registers r.topology family acct.cells gate
  let effective ← applyOverride acct.cells override
  if effective < 0 then
    Step.fail (.broken .bufferOvercommitted
      (family.name ++ " shared buffer is " ++ toString acct.cells ++ " cells"))
  let sizeCells ← Step.ofExcept (q.bytesToCells profile.size)
  let headroom ← Step.ofExcept (q.bytesToCells xoff)
  let resetOffset ← Step.ofExcept (q.bytesToCells xonOffset)
  let available ← Step.ofExcept (pool.availableShared effective alpha)
  let w : Watermarks :=
    { pgMinCells := family.pgMinCells sizeCells resetOffset, availableSharedCells := available,
      headroomCells := headroom, pgResetOffsetCells := resetOffset,
      dynamicPool := pool.mode = Bytes.ofString dynamicMode }
  Step.log .info ("calculation result: pg_min_cells " ++ toString w.pgMinCells ++
    ", available_shared_buffer_cells " ++ toString w.availableSharedCells ++
    ", shared_buffer_cells(calc) " ++ toString acct.cells ++
    ", shared_buffer_cells(effective) " ++ toString effective ++ ", headroom_cells " ++
    toString w.headroomCells ++ ", pg_reset_offset_cells " ++ toString w.pgResetOffsetCells)
  let scenario := (table.scenarios.get? target.raw).getD {}
  let (scenario, written) ← scenario.assemble target.raw w
  return { params := { table with scenarios := table.scenarios.insert target.raw scenario }
           calculation := { cellSizeBytes := family.cellSize, sharedBufferCells := acct.cells
                            effectiveSharedCells := effective, alpha, watermarks := w }
           updates := margins ++ written
           skips := acct.skips
           override }

end LosslessBuffer
