import LosslessBuffer.Proofs.Step
/-!
# What a step writes into the trace

Every change a calculation makes to its trace appends records to some of its lists, and
only when the trace is enabled; accounting terms only at level `terms`. So a trace after a
step is the trace before it with a batch of records put in (`Trace.record`), and batches
put in one after the other are their concatenation (`Trace.record_record`). The batch is
`Records`, with one list for each list of a trace.

`Step.Writes x Q` says that whatever journal `x` starts from and whatever it returns, it
put one batch into the trace, and `Q` holds of the value and the batch. Its rules mirror
those of `Step.Ensures`: a bind writes the batch of its first step, then the batch of the
continuation (`writes_bind`); a loop writes what its invariant accumulates
(`writes_forIn`). A handler runs after a failure, so its rule asks that the failure wrote
nothing (`writes_tryCatch`).
-/

set_option autoImplicit false

namespace LosslessBuffer

/-- A batch of trace records, one list for each list of a trace. -/
@[ext] structure Records where
  references : List ReferenceRecord := []
  clones : List CloneRecord := []
  terms : List AccountingTerm := []
  skips : List SkipRecord := []
  overrides : List OverrideRecord := []
  updates : List UpdateRecord := []
  warnings : List WarningRecord := []

namespace Records

/-- One batch, then another. -/
instance : Append Records where
  append d d' :=
    { references := d.references ++ d'.references, clones := d.clones ++ d'.clones,
      terms := d.terms ++ d'.terms, skips := d.skips ++ d'.skips,
      overrides := d.overrides ++ d'.overrides, updates := d.updates ++ d'.updates,
      warnings := d.warnings ++ d'.warnings }

variable (d d' d'' : Records)

@[simp] theorem references_append : (d ++ d').references = d.references ++ d'.references := rfl
@[simp] theorem clones_append : (d ++ d').clones = d.clones ++ d'.clones := rfl
@[simp] theorem terms_append : (d ++ d').terms = d.terms ++ d'.terms := rfl
@[simp] theorem skips_append : (d ++ d').skips = d.skips ++ d'.skips := rfl
@[simp] theorem overrides_append : (d ++ d').overrides = d.overrides ++ d'.overrides := rfl
@[simp] theorem updates_append : (d ++ d').updates = d.updates ++ d'.updates := rfl
@[simp] theorem warnings_append : (d ++ d').warnings = d.warnings ++ d'.warnings := rfl

@[simp] theorem nil_append : ({} : Records) ++ d = d := rfl

@[simp] theorem append_nil : d ++ ({} : Records) = d := by
  ext <;> simp

theorem append_assoc : d ++ d' ++ d'' = d ++ (d' ++ d'') := by
  ext <;> simp

end Records

namespace Trace

/-- Puts a batch of records into a trace: nothing when it is disabled, and the terms only
at level `terms`. -/
def record (t : Trace) (d : Records) : Trace :=
  if t.enabled then
    { t with references := t.references ++ d.references, clones := t.clones ++ d.clones,
             terms := if t.level == "terms" then t.terms ++ d.terms else t.terms,
             skips := t.skips ++ d.skips, overrides := t.overrides ++ d.overrides,
             updates := t.updates ++ d.updates, warnings := t.warnings ++ d.warnings }
  else t

variable (t : Trace) (d d' : Records)

@[simp] theorem level_record : (t.record d).level = t.level := by
  unfold record
  split <;> rfl

@[simp] theorem enabled_record : (t.record d).enabled = t.enabled := by
  simp [enabled]

@[simp] theorem record_nil : t.record {} = t := by
  unfold record
  split
  · cases t
    simp
  · rfl

/-- Two batches put in one after the other are their concatenation. -/
theorem record_record : (t.record d).record d' = t.record (d ++ d') := by
  obtain ⟨level, references, clones, terms, skips, overrides, updates, warnings⟩ := t
  by_cases on : (level != "none" && level != "") = true
  · by_cases kept : (level == "terms") = true
    · simp [record, enabled, on, kept]
    · simp [record, enabled, on, kept]
  · simp [record, enabled, on]

/-- A fresh trace with a batch put in: nothing when it is disabled, else the batch, with its
terms only at level `terms`. -/
theorem empty_record (level : String) (d : Records) :
    (Trace.empty level).record d = if (level != "none" && level != "") = true then
      { level, references := d.references, clones := d.clones,
        terms := if level = "terms" then d.terms else [], skips := d.skips,
        overrides := d.overrides, updates := d.updates, warnings := d.warnings }
    else Trace.empty level := by
  have enabled_eq : (Trace.empty level).enabled = (level != "none" && level != "") := rfl
  unfold record
  rw [enabled_eq]
  split
  · simp [empty]
  · rfl

theorem addReference_eq (r : ReferenceRecord) :
    Trace.addReference r = (·.record { references := [r] }) := by
  funext t
  unfold addReference record
  split
  · cases t
    simp
  · rfl

theorem addClone_eq (r : CloneRecord) : Trace.addClone r = (·.record { clones := [r] }) := by
  funext t
  unfold addClone record
  split
  · cases t
    simp
  · rfl

theorem addTerms_eq (rs : List AccountingTerm) :
    Trace.addTerms rs = (·.record { terms := rs }) := by
  funext t
  unfold addTerms record
  by_cases on : t.enabled
  · by_cases terms : (t.level == "terms") = true
    · cases t
      simp_all
    · cases t
      simp_all
  · simp [on]

theorem addSkip_eq (r : SkipRecord) : Trace.addSkip r = (·.record { skips := [r] }) := by
  funext t
  unfold addSkip record
  split
  · cases t
    simp
  · rfl

theorem addOverride_eq (r : OverrideRecord) :
    Trace.addOverride r = (·.record { overrides := [r] }) := by
  funext t
  unfold addOverride record
  split
  · cases t
    simp
  · rfl

theorem addUpdate_eq (r : UpdateRecord) : Trace.addUpdate r = (·.record { updates := [r] }) := by
  funext t
  unfold addUpdate record
  split
  · cases t
    simp
  · rfl

theorem addWarning_eq (r : WarningRecord) :
    Trace.addWarning r = (·.record { warnings := [r] }) := by
  funext t
  unfold addWarning record
  split
  · cases t
    simp
  · rfl

end Trace

namespace Step

variable {α β σ γ : Type}

/-- Whatever journal the step starts from, when it returns `a` it has put one batch `d` of
records into the trace, and `Q a d` holds. -/
def Writes (x : Step α) (Q : α → Records → Prop) : Prop :=
  ∀ j a j', x.run' j = (.ok a, j') → ∃ d, j'.trace = j.trace.map (·.record d) ∧ Q a d

theorem Writes.mono {x : Step α} {P Q : α → Records → Prop} (h : x.Writes P)
    (hpq : ∀ a d, x.Returns a → P a d → Q a d) : x.Writes Q := by
  intro j a j' ran
  obtain ⟨d, traced, holds⟩ := h j a j' ran
  exact ⟨d, traced, hpq a d ⟨j, j', ran⟩ holds⟩

theorem writes_pure {a : α} {Q : α → Records → Prop} (h : Q a {}) : (pure a : Step α).Writes Q := by
  intro j b j' ran
  simp only [run'_pure, Prod.mk.injEq, Except.ok.injEq] at ran
  obtain ⟨rfl, rfl⟩ := ran
  exact ⟨{}, by simp, h⟩

theorem writes_fail {e : Fault} {Q : α → Records → Prop} : (Step.fail e : Step α).Writes Q := by
  intro j a j' ran
  simp at ran

theorem writes_throw {e : Fault} {Q : α → Records → Prop} : (throw e : Step α).Writes Q :=
  writes_fail

theorem writes_ofExcept {x : Except Fault α} {Q : α → Records → Prop}
    (h : ∀ a, x = .ok a → Q a {}) : (Step.ofExcept x).Writes Q := by
  intro j a j' ran
  simp only [run'_ofExcept, Prod.mk.injEq] at ran
  obtain ⟨rfl, rfl⟩ := ran
  exact ⟨{}, by simp, h a rfl⟩

theorem writes_log {severity : Severity} {message : Text.Bytes} {Q : Unit → Records → Prop}
    (h : Q () {}) : (Step.log severity message).Writes Q := by
  intro j a j' ran
  cases ran
  exact ⟨{}, by simp, h⟩

/-- A change of the trace that puts in a batch writes that batch. -/
theorem writes_traced {change : Trace → Trace} (d : Records) (same : change = (·.record d))
    {Q : Unit → Records → Prop} (h : Q () d) : (Step.traced change).Writes Q := by
  intro j a j' ran
  cases ran
  exact ⟨d, by rw [← same], h⟩

theorem writes_bind {x : Step α} {f : α → Step β} {P : α → Records → Prop}
    {Q : β → Records → Prop} (hx : x.Writes P)
    (hf : ∀ a d, x.Returns a → P a d → (f a).Writes fun b d' => Q b (d ++ d')) :
    (x >>= f).Writes Q := by
  intro j b j'' ran
  rw [run'_bind] at ran
  rcases hr : x.run' j with ⟨_ | a, j'⟩
  · rw [hr] at ran
    cases ran
  · rw [hr] at ran
    obtain ⟨d, traced, holds⟩ := hx j a j' hr
    obtain ⟨d', traced', holds'⟩ := hf a d ⟨j, j', hr⟩ holds j' b j'' ran
    refine ⟨d ++ d', ?_, holds'⟩
    rw [traced', traced, Option.map_map]
    congr 1
    funext t
    exact Trace.record_record t d d'

theorem writes_bind_of_yields {x : Step α} {f : α → Step β} {a : α} {P : α → Records → Prop}
    {Q : β → Records → Prop} (hx : x.Writes P) (ha : x.Yields a)
    (hf : ∀ d, P a d → (f a).Writes fun b d' => Q b (d ++ d')) : (x >>= f).Writes Q :=
  writes_bind hx fun _ d returned holds => returned.eq_of_yields ha ▸ hf d (returned.eq_of_yields ha ▸ holds)

theorem writes_fail_bind {e : Fault} {f : α → Step β} {Q : β → Records → Prop} :
    (Step.fail e >>= f).Writes Q :=
  writes_bind (P := fun _ _ => False) writes_fail fun _ _ _ impossible => impossible.elim

theorem writes_ofExcept_bind {x : Except Fault α} {f : α → Step β} {Q : β → Records → Prop}
    (hf : ∀ a, x = .ok a → (f a).Writes Q) : (Step.ofExcept x >>= f).Writes Q := by
  cases x with
  | error e => exact writes_fail_bind
  | ok a =>
    intro j b j' ran
    rw [run'_bind, run'_ofExcept] at ran
    exact hf a rfl j b j' ran

/-- A change of the trace that puts in a batch, then a step: the batch comes first. -/
theorem writes_traced_bind {change : Trace → Trace} {f : Unit → Step β} {Q : β → Records → Prop}
    (d : Records) (same : change = (·.record d)) (hf : (f ()).Writes fun b d' => Q b (d ++ d')) :
    (Step.traced change >>= f).Writes Q :=
  writes_bind (P := fun _ d' => d' = d) (writes_traced d same rfl) fun _ _ _ written => by
    subst written
    exact hf

/-- A log line puts nothing into the trace. -/
theorem writes_log_bind {severity : Severity} {message : Text.Bytes} {f : Unit → Step β}
    {Q : β → Records → Prop} (hf : (f ()).Writes Q) : (Step.log severity message >>= f).Writes Q :=
  writes_bind (P := fun _ d => d = {}) (writes_log rfl) fun _ _ _ written => by
    subst written
    exact hf.mono fun _ _ _ holds => by rwa [Records.nil_append]

theorem writes_ite {c : Prop} [Decidable c] {x y : Step α} {Q : α → Records → Prop}
    (hx : c → x.Writes Q) (hy : ¬c → y.Writes Q) : (if c then x else y).Writes Q := by
  split
  next holds => exact hx holds
  next fails => exact hy fails

theorem writes_map {x : Step α} {f : α → β} {Q : β → Records → Prop}
    (hx : x.Writes fun a d => Q (f a) d) : (f <$> x).Writes Q := by
  rw [← bind_pure_comp]
  exact writes_bind hx fun a d _ holds => writes_pure (by rw [Records.append_nil]; exact holds)

/-- Every failure of the step leaves the trace as it was. -/
def FailsQuietly (x : Step α) : Prop :=
  ∀ j e j', x.run' j = (.error e, j') → j'.trace = j.trace

theorem failsQuietly_map {x : Step α} (f : α → β) (hx : x.FailsQuietly) :
    (f <$> x).FailsQuietly := by
  intro j e j' failed
  rw [← bind_pure_comp, run'_bind] at failed
  rcases hr : x.run' j with ⟨_ | a, j''⟩
  · rw [hr] at failed
    cases failed
    exact hx j _ _ hr
  · rw [hr] at failed
    cases failed

/-- A handler that writes `Q`, after a step that fails quietly, keeps `Q`. -/
theorem writes_tryCatch {x : Step α} {handler : Fault → Step α} {Q : α → Records → Prop}
    (hx : x.Writes Q) (quiet : x.FailsQuietly) (hh : ∀ e, x.Fails e → (handler e).Writes Q) :
    (tryCatch x handler).Writes Q := by
  intro j a j'' ran
  rw [run'_tryCatch] at ran
  rcases hr : x.run' j with ⟨_ | b, j'⟩
  · rename_i e
    rw [hr] at ran
    obtain ⟨d, traced, holds⟩ := hh e ⟨j, j', hr⟩ j' a j'' ran
    exact ⟨d, by rw [traced, quiet j e j' hr], holds⟩
  · rw [hr] at ran
    cases ran
    exact hx j a j'' hr

/-- A loop writes what its invariant accumulates: from `I (x :: rest) s d` the body continues
with a state in `I rest`, the records so far extended by the body's. -/
theorem writes_forIn (xs : List γ) (init : σ) (body : γ → σ → Step (ForInStep σ))
    (I : List γ → σ → Records → Prop) (hinit : I xs init {})
    (hstep : ∀ x rest s d, I (x :: rest) s d →
      (body x s).Writes fun r d' => ∃ s', r = .yield s' ∧ I rest s' (d ++ d')) :
    (forIn xs init body).Writes (I []) := by
  suffices general : ∀ d, I xs init d → (forIn xs init body).Writes fun s d' => I [] s (d ++ d') by
    exact (general {} hinit).mono fun s d' _ holds => by rwa [Records.nil_append] at holds
  clear hinit
  induction xs generalizing init with
  | nil =>
    intro d holds
    rw [List.forIn_nil]
    exact writes_pure (by rwa [Records.append_nil])
  | cons x rest ih =>
    intro d holds
    rw [List.forIn_cons]
    refine writes_bind (hstep x rest init d holds) ?_
    rintro r d' - ⟨s', rfl, holds'⟩
    exact (ih s' (d ++ d') holds').mono fun s d'' _ done => by rwa [Records.append_assoc] at done

end Step

end LosslessBuffer
