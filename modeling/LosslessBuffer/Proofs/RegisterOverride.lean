import LosslessBuffer.Proofs.Calculation
/-!
# The register override decides the shared buffer in effect

A calculation that reaches the accounting of the ingress lossless pool (`Accounted`) has
computed shared cells `C`. From there on, one decision and one check remain before the
watermarks are computed:

* a register snapshot may report a shared limit `R`. Without one there is no override
  decision; with one, `R` replaces `C` exactly when it differs from `C`, is not negative, and
  the gate allows it: the gate is `always` (named `""` or `"always"`), or it is `dualtor`,
  the testbed is dual top-of-rack and the family is `td2` or `td3` (`override_eq_some`);
* the calculation fails as overcommitted exactly when the cells in effect are negative
  (`generate_throws_overcommitted`, `overcommitted_of_generate_fails`). So a negative register,
  never applied, cannot rescue an overcommitted pool, and an applied register always does;
* past that check the available shared buffer can fail only for an exponent outside
  `[-62, 62]` (`Pool.availableShared_error_iff`): the pool is dynamic and the cells in
  effect are not negative.

The failures of a calculation are followed with one more judgement on steps, `FailsWith`:
every fault the step can stop with satisfies a predicate. Its rules mirror those of
`Yields` and `Safe`, and the proof that no later step fails as overcommitted walks
`generate` as `generate_safe` does.
-/

set_option autoImplicit false

namespace LosslessBuffer

open LosslessBuffer.Text
open Step

/-! ## Faults a step can stop with -/

namespace Step

variable {α β : Type}

/-- Every fault the step can stop with satisfies `P`. -/
def FailsWith (x : Step α) (P : Fault → Prop) : Prop :=
  ∀ e, x.Fails e → P e

theorem Safe.not_fails {x : Step α} {e : Fault} (h : x.Safe) : ¬ x.Fails e := by
  rintro ⟨j, j', failed⟩
  obtain ⟨a, j'', ran⟩ := h j
  rw [failed] at ran
  cases ran

theorem Throws.fails {x : Step α} {e : Fault} (h : x.Throws e) : x.Fails e :=
  ⟨{}, (x.run' {}).2, Prod.ext (h {}) rfl⟩

theorem failsWith_of_safe {x : Step α} {P : Fault → Prop} (h : x.Safe) : x.FailsWith P :=
  fun _ failed => absurd failed h.not_fails

theorem failsWith_ofExcept {x : Except Fault α} {P : Fault → Prop}
    (h : ∀ e, x = .error e → P e) : (Step.ofExcept x).FailsWith P :=
  fun e failed => h e failed.ofExcept

theorem failsWith_bind {x : Step α} {f : α → Step β} {P : Fault → Prop} (hx : x.FailsWith P)
    (hf : ∀ a, x.Returns a → (f a).FailsWith P) : (x >>= f).FailsWith P := by
  intro e failed
  rcases failed.bind with first | ⟨a, returned, rest⟩
  · exact hx e first
  · exact hf a returned e rest

theorem failsWith_bind_of_yields {x : Step α} {f : α → Step β} {a : α} {P : Fault → Prop}
    (hx : x.Yields a) (hf : (f a).FailsWith P) : (x >>= f).FailsWith P :=
  failsWith_bind (failsWith_of_safe hx.safe) fun _ returned => returned.eq_of_yields hx ▸ hf

theorem failsWith_bind_of_safe {x : Step α} {f : α → Step β} {P : Fault → Prop}
    (hx : x.Safe) (hf : ∀ a, x.Returns a → (f a).FailsWith P) : (x >>= f).FailsWith P :=
  failsWith_bind (failsWith_of_safe hx) hf

end Step

/-! ## Faults of the steps after the accounting -/

theorem Quantizer.bytesToCells_error {q : Quantizer} {n : Int64} {e : Fault}
    (h : q.bytesToCells n = .error e) : e.cause? = some .invalidSize := by
  unfold Quantizer.bytesToCells at h
  split at h
  · cases h
    rfl
  · cases h

/-- A dynamic pool with shared cells that are not negative fails the available shared buffer
exactly for an exponent outside `[-62, 62]`, with that fault. -/
theorem Pool.availableShared_error_iff {pool : Pool} {shared alpha : Int64} {e : Fault}
    (dynamic : pool.mode = Bytes.ofString dynamicMode) (nonneg : ¬ shared < 0) :
    pool.availableShared shared alpha = .error e ↔
      (62 < alpha ∨ alpha < -62) ∧
        e = .broken .invalidDynamicThreshold s!"alpha {alpha} outside [-62, 62]" := by
  have mode : ¬ pool.mode ≠ dynamicMode := fun different => different dynamic
  rw [Pool.availableShared, if_neg mode, LosslessBuffer.availableShared, if_neg nonneg]
  by_cases outside : alpha > maxAlpha ∨ alpha < -maxAlpha
  · rw [if_pos outside]
    exact ⟨fun h => ⟨outside, (Except.error.inj h).symm⟩, fun h => by rw [h.2]⟩
  · rw [if_neg outside]
    constructor
    · intro h
      split at h <;> cases h
    · rintro ⟨inside, -⟩
      exact absurd inside outside

/-! ## A calculation that reaches the accounting -/

/-- What a calculation finds up to the accounting of the ingress lossless pool, from the
request's inputs: each value with the equation that produced it, and a completion of the
table that cannot fail. It is the first half of a `Sizing`. -/
structure Accounted (r : Request) (lookup : Option (Bytes → Except Fault Family)) where
  gate : OverrideGate
  gate_eq : r.gate.toString?.bind OverrideGate.ofName? = some gate
  table : ParamTable
  table_eq : r.params = some table
  cfg : BufferConfig
  cfg_eq : r.bufferConfig = some cfg
  find : Bytes → Except Fault Family
  find_eq : lookup = some find
  family : Family
  family_eq : find r.asic = .ok family
  target : ScenarioKey
  target_eq : ScenarioKey.ofBytes r.scenario = .ok target
  completes : (table.prepareDefaults target).Safe
  pool : Pool
  pool_eq : cfg.pools[Bytes.ofString ingressLosslessPool]? = some pool
  dynamic : pool.mode = Bytes.ofString dynamicMode
  profile : Profile
  profile_eq : cfg.profiles[ingressProfileName r.ingressProfile target]? = some profile
  xoff : Int64
  xoff_eq : profile.xoff = some xoff
  xonOffset : Int64
  xonOffset_eq : profile.xonOffset = some xonOffset
  alpha : Int64
  alpha_eq : resolveAlpha profile pool = .ok alpha
  quantizer : Quantizer
  quantizer_eq : Quantizer.ofCellSize family.cellSize = .ok quantizer
  acct : SharedBuffer
  acct_eq : family.sharedBuffer cfg pool quantizer = .ok acct

namespace Accounted

variable {r : Request} {lookup : Option (Bytes → Except Fault Family)}

/-- What a calculation finds up to the accounting is determined by its inputs. -/
instance : Subsingleton (Accounted r lookup) := by
  constructor
  intro a b
  obtain ⟨gate, gate_eq, table, table_eq, cfg, cfg_eq, find, find_eq, family, family_eq, target,
    target_eq, completes, pool, pool_eq, dynamic, profile, profile_eq, xoff, xoff_eq, xonOffset,
    xonOffset_eq, alpha, alpha_eq, quantizer, quantizer_eq, acct, acct_eq⟩ := a
  obtain ⟨gate', gate_eq', table', table_eq', cfg', cfg_eq', find', find_eq', family', family_eq',
    target', target_eq', -, pool', pool_eq', -, profile', profile_eq', xoff', xoff_eq', xonOffset',
    xonOffset_eq', alpha', alpha_eq', quantizer', quantizer_eq', acct', acct_eq'⟩ := b
  obtain rfl := Option.some.inj (gate_eq.symm.trans gate_eq')
  obtain rfl := Option.some.inj (table_eq.symm.trans table_eq')
  obtain rfl := Option.some.inj (cfg_eq.symm.trans cfg_eq')
  obtain rfl := Option.some.inj (find_eq.symm.trans find_eq')
  obtain rfl := Except.ok.inj (family_eq.symm.trans family_eq')
  obtain rfl := Except.ok.inj (target_eq.symm.trans target_eq')
  obtain rfl := Option.some.inj (pool_eq.symm.trans pool_eq')
  obtain rfl := Option.some.inj (profile_eq.symm.trans profile_eq')
  obtain rfl := Option.some.inj (xoff_eq.symm.trans xoff_eq')
  obtain rfl := Option.some.inj (xonOffset_eq.symm.trans xonOffset_eq')
  obtain rfl := Except.ok.inj (alpha_eq.symm.trans alpha_eq')
  obtain rfl := Except.ok.inj (quantizer_eq.symm.trans quantizer_eq')
  obtain rfl := Except.ok.inj (acct_eq.symm.trans acct_eq')
  rfl

end Accounted

/-- Every successful run reached the accounting. -/
def Run.accounted {r : Request} {lookup : Option (Bytes → Except Fault Family)}
    (run : Run r lookup) : Accounted r lookup where
  gate := run.sizing.gate
  gate_eq := run.sizing.gate_eq
  table := run.table
  table_eq := run.table_eq
  cfg := run.sizing.cfg
  cfg_eq := run.sizing.cfg_eq
  find := run.sizing.find
  find_eq := run.sizing.find_eq
  family := run.sizing.family
  family_eq := run.sizing.family_eq
  target := run.sizing.target
  target_eq := run.sizing.target_eq
  completes := by
    obtain ⟨base, based, -, present⟩ := run.completed_spec
    exact ParamTable.prepareDefaults_safe based present
  pool := run.sizing.pool
  pool_eq := run.sizing.pool_eq
  dynamic := run.sizing.dynamic
  profile := run.sizing.profile
  profile_eq := run.sizing.profile_eq
  xoff := run.sizing.xoff
  xoff_eq := run.sizing.xoff_eq
  xonOffset := run.sizing.xonOffset
  xonOffset_eq := run.sizing.xonOffset_eq
  alpha := run.sizing.alpha
  alpha_eq := run.sizing.alpha_eq
  quantizer := run.sizing.quantizer
  quantizer_eq := run.sizing.quantizer_eq
  acct := run.sizing.acct
  acct_eq := run.sizing.acct_eq

/-- When a register value `register` replaces the computed cells: it differs from them and is
not negative, and the gate named `gateName` is `always`, or it is `dualtor` on a dual
top-of-rack testbed for `td2` or `td3`. -/
def OverrideApplies (gateName : Bytes) (topology : Topology) (family : Family)
    (computed register : Int64) : Prop :=
  register ≠ computed ∧ 0 ≤ register ∧
    (gateName.toString? = some "" ∨ gateName.toString? = some "always" ∨
      (gateName.toString? = some "dualtor" ∧ topology.isDualTor = true ∧
        (family = .td2 ∨ family = .td3)))

theorem OverrideGate.ofName?_eq_some_always {name : String} :
    OverrideGate.ofName? name = some .always ↔ name = "" ∨ name = "always" := by
  unfold OverrideGate.ofName?
  by_cases always : name = "" ∨ name = "always"
  · rw [if_pos always]
    exact ⟨fun _ => always, fun _ => rfl⟩
  · by_cases dualTor : name = "dualtor" <;> simp [always, dualTor]

theorem OverrideGate.ofName?_eq_some_dualTor {name : String} :
    OverrideGate.ofName? name = some .dualTor ↔ name = "dualtor" := by
  unfold OverrideGate.ofName?
  by_cases always : name = "" ∨ name = "always"
  · rcases always with rfl | rfl <;> decide
  · by_cases dualTor : name = "dualtor" <;> simp [always, dualTor]

namespace Accounted

variable {r : Request} {lookup : Option (Bytes → Except Fault Family)} (a : Accounted r lookup)

/-- The register override decision of a calculation. -/
def override : Option OverrideRecord :=
  registerOverride r.registers r.topology a.family a.acct.cells a.gate

/-- The shared cells in effect. -/
def effective : Int64 :=
  effectiveCells a.acct.cells a.override

theorem gate_always_iff :
    a.gate = .always ↔ r.gate.toString? = some "" ∨ r.gate.toString? = some "always" := by
  rw [← Option.some.injEq, ← a.gate_eq]
  cases r.gate.toString? with
  | none => simp
  | some name => simpa using OverrideGate.ofName?_eq_some_always

theorem gate_dualTor_iff : a.gate = .dualTor ↔ r.gate.toString? = some "dualtor" := by
  rw [← Option.some.injEq, ← a.gate_eq]
  cases r.gate.toString? with
  | none => simp
  | some name => simpa using OverrideGate.ofName?_eq_some_dualTor

/-- The gate allows an override in the words of the gate's value. -/
theorem overrideApplies_iff {register : Int64} :
    OverrideApplies r.gate r.topology a.family a.acct.cells register ↔
      register ≠ a.acct.cells ∧ 0 ≤ register ∧
        (a.gate = .always ∨ (a.gate = .dualTor ∧ r.topology.isDualTor = true ∧
          (a.family = .td2 ∨ a.family = .td3))) := by
  rw [OverrideApplies, a.gate_always_iff, a.gate_dualTor_iff, or_assoc]

/-- With a register value, the decision records it with the computed cells, and applies it
exactly when `OverrideApplies`. -/
theorem override_eq_some {register : Int64}
    (h : r.registers.bind RegisterSnapshot.sharedLimitSp0 = some register) :
    ∃ o, a.override = some o ∧ o.computed = a.acct.cells ∧ o.register = register ∧
      (o.applied = true ↔ OverrideApplies r.gate r.topology a.family a.acct.cells register) := by
  obtain ⟨snapshot, found, limit⟩ := Option.bind_eq_some_iff.1 h
  rw [a.overrideApplies_iff]
  unfold override registerOverride
  simp only [found, limit, bind, Option.bind_some]
  by_cases same : register = a.acct.cells
  · rw [if_pos same]
    exact ⟨_, rfl, rfl, rfl, by simp [same]⟩
  rw [if_neg same]
  by_cases negative : register < 0
  · rw [if_pos negative]
    refine ⟨_, rfl, rfl, rfl, ?_⟩
    simp only [Bool.false_eq_true, false_iff, not_and]
    exact fun _ nonneg => absurd negative (Int64.not_lt.2 nonneg)
  rw [if_neg negative]
  by_cases elsewhere : a.gate = .dualTor ∧ !r.topology.isDualTor
  · rw [if_pos elsewhere]
    refine ⟨_, rfl, rfl, rfl, ?_⟩
    obtain ⟨dualTor, single⟩ := elsewhere
    simp only [Bool.not_eq_true'] at single
    simp [dualTor, single]
  rw [if_neg elsewhere]
  by_cases ungated : a.gate = .dualTor ∧ a.family ≠ .td2 ∧ a.family ≠ .td3
  · rw [if_pos ungated]
    refine ⟨_, rfl, rfl, rfl, ?_⟩
    obtain ⟨dualTor, notTd2, notTd3⟩ := ungated
    simp [dualTor, notTd2, notTd3]
  rw [if_neg ungated]
  refine ⟨_, rfl, rfl, rfl, ?_⟩
  simp only [true_iff]
  refine ⟨same, Int64.not_lt.1 negative, ?_⟩
  cases gate : a.gate with
  | always => exact .inl rfl
  | dualTor =>
    simp only [gate, true_and, Bool.not_eq_true', not_and, Ne, Classical.not_not,
      reduceCtorEq, false_or] at elsewhere ungated ⊢
    exact ⟨Bool.not_eq_false _ ▸ elsewhere, Decidable.or_iff_not_imp_left.2 ungated⟩

theorem override_eq_none_iff :
    a.override = none ↔ r.registers.bind RegisterSnapshot.sharedLimitSp0 = none := by
  constructor
  · intro absent
    cases limit : r.registers.bind RegisterSnapshot.sharedLimitSp0 with
    | none => rfl
    | some register =>
      obtain ⟨o, decided, -⟩ := a.override_eq_some limit
      rw [decided] at absent
      cases absent
  · intro limit
    unfold override registerOverride
    cases found : r.registers with
    | none => rfl
    | some snapshot =>
      rw [found, Option.bind_some] at limit
      simp only [bind, Option.bind_some, limit, Option.bind_none]

/-- With negative cells in effect, the calculation fails as overcommitted, naming the computed
cells. -/
theorem generate_throws_overcommitted (negative : a.effective < 0) :
    (generate r lookup).Throws (.broken .bufferOvercommitted
      (a.family.name ++ " shared buffer is " ++ toString a.acct.cells ++ " cells")) := by
  have profile_eq := a.profile_eq
  unfold ingressProfileName at profile_eq
  unfold generate
  simp only [a.gate_eq, a.table_eq, a.cfg_eq, a.find_eq]
  refine throws_bind_of_yields (yields_ofExcept a.family_eq) (throws_bind_of_yields
    (yields_ofExcept a.target_eq) (throws_bind_of_safe a.completes fun _ _ => ?_))
  simp only [Std.TreeMap.get?_eq_getElem?, a.pool_eq]
  rw [if_neg (not_not_intro a.dynamic)]
  simp only [profile_eq, a.xoff_eq, a.xonOffset_eq]
  refine throws_bind_of_yields (yields_ofExcept (mapError_eq_ok.2 a.alpha_eq))
    (throws_bind_of_yields (yields_ofExcept a.quantizer_eq) (throws_bind_of_yields
    (yields_ofExcept a.acct_eq) (throws_bind_of_yields (recordAccounting_yields _)
    (throws_bind_of_yields (applyOverride_yields _ _) ?_))))
  rw [effective, override] at negative
  rw [if_pos negative]
  exact throws_bind (throws_fail _)

/-- The calculation fails as overcommitted only with negative cells in effect: every step
after the check fails with another cause. -/
theorem overcommitted_of_generate_fails :
    (generate r lookup).FailsWith fun e => e.cause? = some .bufferOvercommitted →
      a.effective < 0 := by
  have profile_eq := a.profile_eq
  unfold ingressProfileName at profile_eq
  unfold generate
  simp only [a.gate_eq, a.table_eq, a.cfg_eq, a.find_eq]
  refine failsWith_bind_of_yields (yields_ofExcept a.family_eq) (failsWith_bind_of_yields
    (yields_ofExcept a.target_eq) (failsWith_bind_of_safe a.completes fun _ returned => ?_))
  have completed := ParamTable.prepareDefaults_ensures _ _ _ returned
  simp only [Std.TreeMap.get?_eq_getElem?, a.pool_eq]
  rw [if_neg (not_not_intro a.dynamic)]
  simp only [profile_eq, a.xoff_eq, a.xonOffset_eq]
  refine failsWith_bind_of_yields (yields_ofExcept (mapError_eq_ok.2 a.alpha_eq))
    (failsWith_bind_of_yields (yields_ofExcept a.quantizer_eq) (failsWith_bind_of_yields
    (yields_ofExcept a.acct_eq) (failsWith_bind_of_yields (recordAccounting_yields _)
    (failsWith_bind_of_yields (applyOverride_yields _ _) ?_))))
  by_cases negative : a.effective < 0
  · exact fun _ _ _ => negative
  have committed := negative
  rw [effective, override] at committed
  rw [if_neg committed]
  have cells : ∀ n : Int64, (Step.ofExcept (a.quantizer.bytesToCells n)).FailsWith
      fun e => e.cause? = some .bufferOvercommitted → a.effective < 0 :=
    fun n => failsWith_ofExcept fun e failed overcommitted => by
      rw [Quantizer.bytesToCells_error failed] at overcommitted
      cases overcommitted
  refine failsWith_bind (cells _) fun _ _ => failsWith_bind (cells _) fun _ _ =>
    failsWith_bind (cells _) fun _ _ => failsWith_bind (failsWith_ofExcept fun e failed => ?_)
      fun _ _ => failsWith_bind_of_yields (yields_log _ _) (failsWith_bind_of_safe
        (completed.assemble_safe _) fun _ _ => failsWith_of_safe (yields_pure _).safe)
  obtain ⟨-, rfl⟩ := (Pool.availableShared_error_iff a.dynamic committed).1 failed
  intro overcommitted
  cases overcommitted

/-- The outcome of a calculation carries the decision, the computed cells and the cells in
effect. -/
theorem outcome_of_returns {o : Outcome} (h : (generate r lookup).Returns o) :
    o.override = a.override ∧ o.calculation.sharedBufferCells = a.acct.cells ∧
      o.calculation.effectiveSharedCells = a.effective := by
  obtain ⟨run, rfl⟩ := generate_ensures r lookup o h
  obtain rfl : a = run.accounted := Subsingleton.elim _ _
  exact ⟨rfl, rfl, rfl⟩

end Accounted

/-- For a calculation that reaches the accounting with computed cells `C`: there is an override
decision exactly when a register value `R` is given; it records `C` and `R`, and applies `R`
exactly when `OverrideApplies`, so that `R` is in effect if applied and `C` otherwise. The
outcome carries these. The calculation fails as overcommitted exactly when the cells in effect
are negative, and past that check the available shared buffer fails only for an exponent
outside `[-62, 62]`. -/
theorem generate_override_decides {r : Request} {lookup : Option (Bytes → Except Fault Family)}
    (a : Accounted r lookup) :
    (a.override = none ↔ r.registers.bind RegisterSnapshot.sharedLimitSp0 = none) ∧
    (a.override = none → a.effective = a.acct.cells) ∧
    (∀ register, r.registers.bind RegisterSnapshot.sharedLimitSp0 = some register →
      ∃ o, a.override = some o ∧ o.computed = a.acct.cells ∧ o.register = register ∧
        (o.applied = true ↔ OverrideApplies r.gate r.topology a.family a.acct.cells register) ∧
        a.effective = if o.applied then register else a.acct.cells) ∧
    (∀ o, (generate r lookup).Returns o → o.override = a.override ∧
      o.calculation.sharedBufferCells = a.acct.cells ∧
      o.calculation.effectiveSharedCells = a.effective) ∧
    ((∃ e, (generate r lookup).Fails e ∧ e.cause? = some .bufferOvercommitted) ↔
      a.effective < 0) ∧
    (¬ a.effective < 0 → ((∃ e, a.pool.availableShared a.effective a.alpha = .error e) ↔
        (62 < a.alpha ∨ a.alpha < -62)) ∧
      ∀ e, a.pool.availableShared a.effective a.alpha = .error e →
        e.cause? = some .invalidDynamicThreshold) := by
  refine ⟨a.override_eq_none_iff, fun absent => ?_, fun register given => ?_,
    fun o returned => a.outcome_of_returns returned, ⟨?_, ?_⟩, fun committed => ⟨?_, ?_⟩⟩
  · rw [Accounted.effective, absent]
    rfl
  · obtain ⟨o, decided, computed, registered, applied⟩ := a.override_eq_some given
    refine ⟨o, decided, computed, registered, applied, ?_⟩
    rw [Accounted.effective, decided, effectiveCells, registered]
  · rintro ⟨e, failed, overcommitted⟩
    exact a.overcommitted_of_generate_fails e failed overcommitted
  · intro negative
    exact ⟨_, (a.generate_throws_overcommitted negative).fails, rfl⟩
  · constructor
    · rintro ⟨e, failed⟩
      exact ((Pool.availableShared_error_iff a.dynamic committed).1 failed).1
    · intro outside
      exact ⟨_, (Pool.availableShared_error_iff a.dynamic committed).2 ⟨outside, rfl⟩⟩
  · intro e failed
    obtain ⟨-, rfl⟩ := (Pool.availableShared_error_iff a.dynamic committed).1 failed
    rfl

/-- On the dual-ToR sample the register's 3700 cells replace the 3810 the accounting gives. -/
theorem generate_override_decides_sample :
    ∃ a : Accounted (DualTorSample.request DualTorSample.table) (some Family.lookup),
      a.acct.cells = 3810 ∧ ∃ o, a.override = some o ∧ o.register = 3700 ∧
        (o.applied = true ↔ OverrideApplies (DualTorSample.request DualTorSample.table).gate
          (DualTorSample.request DualTorSample.table).topology a.family a.acct.cells 3700) ∧
        a.effective = (if o.applied then 3700 else a.acct.cells) ∧ a.effective = 3700 := by
  obtain ⟨o, runs, shared, effective⟩ := DualTorSample.request_runs
  obtain ⟨run, -⟩ := generate_ensures _ _ o runs
  have decides := generate_override_decides run.accounted
  obtain ⟨-, computed, inEffect⟩ := decides.2.2.2.1 o runs
  obtain ⟨d, decided, -, registered, applied, chosen⟩ := decides.2.2.1 3700 rfl
  exact ⟨run.accounted, computed.symm.trans shared, d, decided, registered, applied, chosen,
    inEffect.symm.trans effective⟩

end LosslessBuffer
