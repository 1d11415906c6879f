import Mathlib.Logic.Function.Basic
import LosslessBuffer.Journal
/-!
# Reasoning about steps

A step writes a journal and returns a value or stops with a fault. No step of the
calculation reads the journal it writes, so what a step returns is a question about values
alone. Three judgements say it, each with its rules for `pure`, `Step.fail`,
`Step.ofExcept`, the journal writes, binds, handlers and loops over lists:

* `Step.Returns x a`: started from some journal, `x` returned `a`;
* `Step.Ensures x Q`: every value `x` returns satisfies `Q`, whatever journal it starts from;
* `Step.Yields x a`: from every journal `x` returns `a`, so it cannot fail.

`Returns` is what a successful run leaves to reason about; `Ensures` is how a specification
of a step is stated and composed along its binds (`ensures_bind`); `Yields` is how a step is
shown to succeed (`yields_bind`), and a step that yields returns nothing else
(`Returns.eq_of_yields`). The specifications of the calculation are built from these rules
and never from the definition of the monad.

A step whose value depends on where it is reached cannot yield one value, but it may still
be unable to fail: `Step.Safe x` says so, and `Step.Succeeds x Q` adds that what it returns
satisfies `Q`. Their rules for binds and loops take what the earlier steps ensure, so a step
need only be safe in the states it can be reached in.

A step that stops with a known fault `e` from every journal is `Step.Throws x e`. Its rules
follow a run up to the fault: through binds whose first step yields or is safe
(`throws_bind_of_yields`, `throws_bind_of_safe`), through handlers that rethrow
(`throws_tryCatch`), and through a loop whose invariant holds on the way and fails at some
element (`throws_forIn`).
-/

set_option autoImplicit false

namespace LosslessBuffer
namespace Step

variable {α β σ γ : Type}

/-! ## Running a bind -/

/-- A bind runs its first step, then the continuation from the journal that step left, unless
the first step failed. -/
theorem run'_bind (x : Step α) (f : α → Step β) (j : Journal) :
    (x >>= f).run' j = match x.run' j with
      | (.ok a, j') => (f a).run' j'
      | (.error e, j') => (.error e, j') := by
  unfold Step.run'
  rw [ExceptT.run_bind, StateT.run_bind]
  rcases (ExceptT.run x).run j with ⟨_ | _, _⟩ <;> rfl

@[simp] theorem run'_pure (a : α) (j : Journal) : (pure a : Step α).run' j = (.ok a, j) := rfl

@[simp] theorem run'_fail (e : Fault) (j : Journal) :
    (Step.fail e : Step α).run' j = (.error e, j) := rfl

@[simp] theorem run'_throw (e : Fault) (j : Journal) :
    (throw e : Step α).run' j = (.error e, j) := rfl

@[simp] theorem run'_ofExcept (x : Except Fault α) (j : Journal) :
    (Step.ofExcept x).run' j = (x, j) := by
  cases x <;> rfl

/-- A handler runs from the journal the failed step left. -/
theorem run'_tryCatch (x : Step α) (handler : Fault → Step α) (j : Journal) :
    (tryCatch x handler).run' j = match x.run' j with
      | (.ok a, j') => (.ok a, j')
      | (.error e, j') => (handler e).run' j' := by
  show (ExceptT.tryCatch x handler).run.run j = _
  unfold Step.run'
  simp only [ExceptT.tryCatch, ExceptT.run_mk, StateT.run_bind]
  change (do let p ← (ExceptT.run x).run j; _) = _
  rcases (ExceptT.run x).run j with ⟨_ | _, _⟩ <;> rfl

/-! ## The three judgements -/

/-- Started from some journal, the step returned `a`. -/
def Returns (x : Step α) (a : α) : Prop :=
  ∃ j j', x.run' j = (.ok a, j')

/-- Every value the step returns satisfies `Q`, whatever journal it starts from. -/
def Ensures (x : Step α) (Q : α → Prop) : Prop :=
  ∀ a, x.Returns a → Q a

/-- From every journal the step returns `a`. -/
def Yields (x : Step α) (a : α) : Prop :=
  ∀ j, (x.run' j).1 = .ok a

theorem Yields.returns {x : Step α} {a : α} (h : x.Yields a) : x.Returns a := by
  refine ⟨{}, (x.run' {}).2, ?_⟩
  rw [← h {}]

/-- A step that returned from one journal returned some value. -/
theorem exists_returns_of_isOk {x : Step α} {j : Journal} (h : (x.run' j).1.isOk = true) :
    ∃ a, x.Returns a := by
  rcases hx : x.run' j with ⟨_ | a, j'⟩
  · rw [hx] at h
    cases h
  · exact ⟨a, j, j', hx⟩

/-- A step whose run from one journal returned a value that passes a test returned some
value that passes it. -/
theorem exists_returns_of_test {x : Step α} {j : Journal} {test : α → Bool}
    (h : (x.run' j).1.toOption.map test = some true) : ∃ a, x.Returns a ∧ test a = true := by
  rcases hx : x.run' j with ⟨_ | a, j'⟩
  · rw [hx] at h
    cases h
  · rw [hx] at h
    exact ⟨a, ⟨j, j', hx⟩, Option.some.inj h⟩

/-- A step that yields a value returns no other. -/
theorem Returns.eq_of_yields {x : Step α} {a b : α} (hr : x.Returns a) (hy : x.Yields b) :
    a = b := by
  obtain ⟨j, j', hj⟩ := hr
  have hb := hy j
  rw [hj] at hb
  exact Except.ok.inj hb

theorem Ensures.mono {x : Step α} {P Q : α → Prop} (h : x.Ensures P) (hpq : ∀ a, P a → Q a) :
    x.Ensures Q :=
  fun a ha => hpq a (h a ha)

theorem Ensures.and {x : Step α} {P Q : α → Prop} (hp : x.Ensures P) (hq : x.Ensures Q) :
    x.Ensures fun a => P a ∧ Q a :=
  fun a ha => ⟨hp a ha, hq a ha⟩

theorem Returns.bind {x : Step α} {f : α → Step β} {b : β} (h : (x >>= f).Returns b) :
    ∃ a, x.Returns a ∧ (f a).Returns b := by
  obtain ⟨j, j'', hj⟩ := h
  rw [run'_bind] at hj
  rcases hx : x.run' j with ⟨_ | a, j'⟩
  · rw [hx] at hj; cases hj
  · rw [hx] at hj
    exact ⟨a, ⟨j, j', hx⟩, ⟨j', j'', hj⟩⟩

/-! ## Rules for partial correctness -/

/-- Every step ensures that it returned what it returned; binding it keeps the run at hand. -/
theorem ensures_returns (x : Step α) : x.Ensures x.Returns :=
  fun _ h => h

theorem ensures_pure {a : α} {Q : α → Prop} (h : Q a) : (pure a : Step α).Ensures Q := by
  rintro b ⟨j, j', hj⟩
  simp only [run'_pure, Prod.mk.injEq, Except.ok.injEq] at hj
  exact hj.1 ▸ h

theorem ensures_fail {e : Fault} {Q : α → Prop} : (Step.fail e : Step α).Ensures Q := by
  rintro b ⟨j, j', hj⟩
  simp at hj

theorem ensures_throw {e : Fault} {Q : α → Prop} : (throw e : Step α).Ensures Q :=
  ensures_fail

theorem ensures_ofExcept (x : Except Fault α) : (Step.ofExcept x).Ensures (x = .ok ·) := by
  rintro b ⟨j, j', hj⟩
  simp only [run'_ofExcept, Prod.mk.injEq] at hj
  exact hj.1

theorem ensures_of_yields {x : Step α} {a : α} {Q : α → Prop} (hx : x.Yields a) (h : Q a) :
    x.Ensures Q :=
  fun _ hb => hb.eq_of_yields hx ▸ h

theorem ensures_fail_bind {e : Fault} {f : α → Step β} {Q : β → Prop} :
    (Step.fail e >>= f).Ensures Q := by
  rintro b ⟨j, j', hj⟩
  rw [run'_bind, run'_fail] at hj
  cases hj

theorem ensures_bind {x : Step α} {f : α → Step β} {P : α → Prop} {Q : β → Prop}
    (hx : x.Ensures P) (hf : ∀ a, P a → (f a).Ensures Q) : (x >>= f).Ensures Q := by
  intro b hb
  obtain ⟨a, ha, hfa⟩ := hb.bind
  exact hf a (hx a ha) b hfa

/-! ## Rules for success -/

theorem yields_pure (a : α) : (pure a : Step α).Yields a :=
  fun _ => rfl

theorem yields_ofExcept {x : Except Fault α} {a : α} (h : x = .ok a) :
    (Step.ofExcept x).Yields a := by
  intro j
  simp [h]

theorem yields_log (severity : Severity) (message : Text.Bytes) :
    (Step.log severity message).Yields () :=
  fun _ => rfl

theorem yields_traced (change : Trace → Trace) : (Step.traced change).Yields () :=
  fun _ => rfl

theorem yields_bind {x : Step α} {f : α → Step β} {a : α} {b : β} (hx : x.Yields a)
    (hf : (f a).Yields b) : (x >>= f).Yields b := by
  intro j
  rw [run'_bind]
  rcases hj : x.run' j with ⟨r, j'⟩
  have ha : r = .ok a := by rw [← hx j, hj]
  subst ha
  exact hf j'

theorem ensures_ite {c : Prop} [Decidable c] {x y : Step α} {Q : α → Prop}
    (hx : c → x.Ensures Q) (hy : ¬c → y.Ensures Q) : (if c then x else y).Ensures Q := by
  split
  next holds => exact hx holds
  next fails => exact hy fails

/-- A step that cannot fail passes its value on. -/
theorem ensures_bind_of_yields {x : Step α} {f : α → Step β} {a : α} {Q : β → Prop}
    (hx : x.Yields a) (hf : (f a).Ensures Q) : (x >>= f).Ensures Q :=
  ensures_bind (fun _ hb => hb.eq_of_yields hx) fun _ same => same ▸ hf

theorem yields_ite {c : Prop} [Decidable c] {x y : Step α} {a : α} (hx : c → x.Yields a)
    (hy : ¬c → y.Yields a) : (if c then x else y).Yields a := by
  split
  next holds => exact hx holds
  next fails => exact hy fails

theorem ensures_map {x : Step α} {f : α → β} {Q : β → Prop} (hx : x.Ensures fun a => Q (f a)) :
    (f <$> x).Ensures Q := by
  rw [← bind_pure_comp]
  exact ensures_bind hx fun a ha => ensures_pure ha

theorem yields_map {x : Step α} {a : α} (f : α → β) (hx : x.Yields a) : (f <$> x).Yields (f a) := by
  rw [← bind_pure_comp]
  exact yields_bind hx (yields_pure _)

/-! ## Failures and handlers

`Fails` and `Throws` are the failing twins of `Returns` and `Yields`. A handler is reached
only from a failure of the step it guards (`ensures_tryCatch`). -/

/-- Started from some journal, the step failed with `e`. -/
def Fails (x : Step α) (e : Fault) : Prop :=
  ∃ j j', x.run' j = (.error e, j')

/-- From every journal the step fails with `e`. -/
def Throws (x : Step α) (e : Fault) : Prop :=
  ∀ j, (x.run' j).1 = .error e

theorem Yields.not_fails {x : Step α} {a : α} {e : Fault} (hy : x.Yields a) : ¬ x.Fails e := by
  rintro ⟨j, j', hj⟩
  have ha := hy j
  rw [hj] at ha
  cases ha

theorem Fails.bind {x : Step α} {f : α → Step β} {e : Fault} (h : (x >>= f).Fails e) :
    x.Fails e ∨ ∃ a, x.Returns a ∧ (f a).Fails e := by
  obtain ⟨j, j'', hj⟩ := h
  rw [run'_bind] at hj
  rcases hx : x.run' j with ⟨_ | a, j'⟩
  · rw [hx] at hj
    cases hj
    exact .inl ⟨j, _, hx⟩
  · rw [hx] at hj
    exact .inr ⟨a, ⟨j, j', hx⟩, ⟨j', j'', hj⟩⟩

/-- A failure after a step that cannot fail is a failure of the step. -/
theorem Fails.of_bind_yields {x : Step α} {f : α → Step β} {e : Fault} (h : (x >>= f).Fails e)
    (hf : ∀ a, x.Returns a → ∃ b, (f a).Yields b) : x.Fails e := by
  rcases h.bind with failed | ⟨a, returned, rest⟩
  · exact failed
  · obtain ⟨b, hb⟩ := hf a returned
    exact absurd rest hb.not_fails

theorem Fails.map {x : Step α} {f : α → β} {e : Fault} (h : (f <$> x).Fails e) : x.Fails e := by
  rw [← bind_pure_comp] at h
  exact h.of_bind_yields fun a _ => ⟨f a, yields_pure _⟩

theorem Fails.ofExcept {x : Except Fault α} {e : Fault} (h : (Step.ofExcept x).Fails e) :
    x = .error e := by
  obtain ⟨j, j', hj⟩ := h
  simp only [run'_ofExcept, Prod.mk.injEq] at hj
  exact hj.1

theorem throws_ofExcept {x : Except Fault α} {e : Fault} (h : x = .error e) :
    (Step.ofExcept x).Throws e := by
  intro j
  simp [h]

theorem throws_bind {x : Step α} {f : α → Step β} {e : Fault} (hx : x.Throws e) :
    (x >>= f).Throws e := by
  intro j
  rw [run'_bind]
  rcases hj : x.run' j with ⟨r, j'⟩
  have he : r = .error e := by rw [← hx j, hj]
  subst he
  rfl

theorem ensures_tryCatch {x : Step α} {handler : Fault → Step α} {Q : α → Prop}
    (hx : x.Ensures Q) (hh : ∀ e, x.Fails e → (handler e).Ensures Q) :
    (tryCatch x handler).Ensures Q := by
  rintro a ⟨j, j'', hj⟩
  rw [run'_tryCatch] at hj
  rcases hr : x.run' j with ⟨_ | b, j'⟩
  · rw [hr] at hj
    exact hh _ ⟨j, j', hr⟩ a ⟨j', j'', hj⟩
  · rw [hr] at hj
    cases hj
    exact hx a ⟨j, j'', hr⟩

theorem yields_tryCatch {x : Step α} {a : α} (handler : Fault → Step α) (hx : x.Yields a) :
    (tryCatch x handler).Yields a := by
  intro j
  rw [run'_tryCatch]
  rcases hj : x.run' j with ⟨r, j'⟩
  have ha : r = .ok a := by rw [← hx j, hj]
  subst ha
  rfl

theorem yields_tryCatch_of_throws {x : Step α} {handler : Fault → Step α} {e : Fault} {a : α}
    (hx : x.Throws e) (hh : (handler e).Yields a) : (tryCatch x handler).Yields a := by
  intro j
  rw [run'_tryCatch]
  rcases hj : x.run' j with ⟨r, j'⟩
  have he : r = .error e := by rw [← hx j, hj]
  subst he
  exact hh j'

theorem throws_map {x : Step α} {e : Fault} (f : α → β) (hx : x.Throws e) :
    (f <$> x).Throws e := by
  rw [← bind_pure_comp]
  exact throws_bind hx

theorem throws_fail (e : Fault) : (Step.fail e : Step α).Throws e :=
  fun _ => rfl

/-- A failure after a step that yields a value is a failure of the whole. -/
theorem throws_bind_of_yields {x : Step α} {f : α → Step β} {a : α} {e : Fault}
    (hx : x.Yields a) (hf : (f a).Throws e) : (x >>= f).Throws e := by
  intro j
  rw [run'_bind]
  rcases hj : x.run' j with ⟨r, j'⟩
  have ha : r = .ok a := by rw [← hx j, hj]
  subst ha
  exact hf j'

/-- A handler that fails where the guarded step fails makes the whole fail. -/
theorem throws_tryCatch {x : Step α} {handler : Fault → Step α} {e e' : Fault} (hx : x.Throws e)
    (hh : (handler e).Throws e') : (tryCatch x handler).Throws e' := by
  intro j
  rw [run'_tryCatch]
  rcases hj : x.run' j with ⟨r, j'⟩
  have he : r = .error e := by rw [← hx j, hj]
  subst he
  exact hh j'

/-! ## Loops over lists

A loop body that never breaks is specified by an invariant indexed by the elements still to
visit: from `I (x :: rest) s` the body continues with a state in `I rest`. -/

theorem ensures_forIn (xs : List γ) (init : σ) (body : γ → σ → Step (ForInStep σ))
    (I : List γ → σ → Prop) (hinit : I xs init)
    (hstep : ∀ x rest s, I (x :: rest) s →
      (body x s).Ensures fun r => ∃ s', r = .yield s' ∧ I rest s') :
    (forIn xs init body).Ensures (I []) := by
  induction xs generalizing init with
  | nil =>
    simpa only [List.forIn_nil] using ensures_pure hinit
  | cons x rest ih =>
    rw [List.forIn_cons]
    refine ensures_bind (hstep x rest init hinit) ?_
    rintro r ⟨s', rfl, hs'⟩
    exact ih s' hs'

/-- A loop over distinct elements whose body changes, at each element, the value a function
gives that element and nothing else: at the end every element visited has its new value.
`W` ties the values so far to the state, and `P` holds of each new value. -/
theorem ensures_forIn_update {δ : Type} [DecidableEq γ] (xs : List γ) (distinct : xs.Nodup)
    (init : σ) (body : γ → σ → Step (ForInStep σ)) (W : (γ → δ) → σ → Prop)
    (P : γ → δ → Prop) (f : γ → δ) (g : γ → δ → δ) (hinit : W f init)
    (hstep : ∀ x ∈ xs, ∀ f' s, f' x = f x → W f' s → (body x s).Ensures fun r =>
      ∃ s', r = .yield s' ∧ P x (g x (f x)) ∧ W (Function.update f' x (g x (f x))) s') :
    (forIn xs init body).Ensures fun s =>
      W (fun x => if x ∈ xs then g x (f x) else f x) s ∧ ∀ x ∈ xs, P x (g x (f x)) := by
  -- the invariant names the elements visited so far, a prefix of the list
  let I (rest : List γ) (s : σ) : Prop := ∃ done, done ++ rest = xs ∧
    W (fun x => if x ∈ done then g x (f x) else f x) s ∧ ∀ x ∈ done, P x (g x (f x))
  have start : I xs init := ⟨[], rfl, by simpa using hinit, by simp⟩
  refine (ensures_forIn xs init body I start fun x rest s ⟨done, split, holds, good⟩ => ?_).mono ?_
  · have fresh : x ∉ done := by
      rw [← split] at distinct
      exact fun mem => (List.nodup_append.1 distinct).2.2 x mem x List.mem_cons_self rfl
    have member : x ∈ xs := split ▸ List.mem_append_right _ List.mem_cons_self
    refine (hstep x member _ s (by simp [fresh]) holds).mono ?_
    rintro r ⟨s', rfl, new, holds'⟩
    have visited : (fun y => if y ∈ done ++ [x] then g y (f y) else f y) =
        Function.update (fun y => if y ∈ done then g y (f y) else f y) x (g x (f x)) := by
      funext y
      by_cases same : y = x
      · subst same
        simp
      · simp [same]
    refine ⟨s', rfl, done ++ [x], by simpa using split, visited ▸ holds', fun y hy => ?_⟩
    rcases List.mem_append.1 hy with hy | hy
    · exact good y hy
    · rw [List.mem_singleton.1 hy]
      exact new
  · rintro s ⟨done, split, holds, good⟩
    rw [List.append_nil] at split
    subst split
    exact ⟨holds, good⟩

/-- A loop whose body leaves the state as it is yields that state. -/
theorem yields_forIn_const (xs : List γ) (s : σ) (body : γ → σ → Step (ForInStep σ))
    (hbody : ∀ x ∈ xs, (body x s).Yields (.yield s)) : (forIn xs s body).Yields s := by
  induction xs with
  | nil => exact yields_pure s
  | cons x rest ih =>
    rw [List.forIn_cons]
    exact yields_bind (hbody x List.mem_cons_self)
      (ih fun y hy => hbody y (List.mem_cons_of_mem x hy))

/-! ## Rules for total correctness -/

/-- From every journal the step returns some value. -/
def Safe (x : Step α) : Prop :=
  ∀ j, ∃ a j', x.run' j = (.ok a, j')

/-- From every journal the step returns a value that satisfies `Q`. -/
def Succeeds (x : Step α) (Q : α → Prop) : Prop :=
  ∀ j, ∃ a j', x.run' j = (.ok a, j') ∧ Q a

theorem Safe.succeeds {x : Step α} {Q : α → Prop} (hs : x.Safe) (he : x.Ensures Q) :
    x.Succeeds Q := by
  intro j
  obtain ⟨a, j', hj⟩ := hs j
  exact ⟨a, j', hj, he a ⟨j, j', hj⟩⟩

theorem Succeeds.ensures {x : Step α} {Q : α → Prop} (h : x.Succeeds Q) : x.Ensures Q := by
  rintro a ⟨j, j', hj⟩
  obtain ⟨b, j'', hb, holds⟩ := h j
  rw [hj, Prod.mk.injEq, Except.ok.injEq] at hb
  exact hb.1 ▸ holds

theorem Succeeds.mono {x : Step α} {P Q : α → Prop} (h : x.Succeeds P) (hpq : ∀ a, P a → Q a) :
    x.Succeeds Q := by
  intro j
  obtain ⟨a, j', ran, holds⟩ := h j
  exact ⟨a, j', ran, hpq a holds⟩

theorem Safe.exists_returns {x : Step α} (h : x.Safe) : ∃ a, x.Returns a := by
  obtain ⟨a, j', ran⟩ := h {}
  exact ⟨a, {}, j', ran⟩

theorem Yields.safe {x : Step α} {a : α} (h : x.Yields a) : x.Safe :=
  fun j => ⟨a, (x.run' j).2, Prod.ext (h j) rfl⟩

theorem safe_bind {x : Step α} {f : α → Step β} (hx : x.Safe)
    (hf : ∀ a, x.Returns a → (f a).Safe) : (x >>= f).Safe := by
  intro j
  obtain ⟨a, j', hj⟩ := hx j
  obtain ⟨b, j'', hb⟩ := hf a ⟨j, j', hj⟩ j'
  refine ⟨b, j'', ?_⟩
  rw [run'_bind, hj]
  exact hb

theorem safe_bind_of_yields {x : Step α} {f : α → Step β} {a : α} (hx : x.Yields a)
    (hf : (f a).Safe) : (x >>= f).Safe :=
  safe_bind hx.safe fun _ returned => returned.eq_of_yields hx ▸ hf

theorem safe_ite {c : Prop} [Decidable c] {x y : Step α} (hx : c → x.Safe) (hy : ¬c → y.Safe) :
    (if c then x else y).Safe := by
  split
  next holds => exact hx holds
  next fails => exact hy fails

/-- A handler that cannot fail where the guarded step fails makes the whole safe. -/
theorem safe_tryCatch {x : Step α} {handler : Fault → Step α}
    (hh : ∀ e, x.Fails e → (handler e).Safe) : (tryCatch x handler).Safe := by
  intro j
  rw [run'_tryCatch]
  rcases hr : x.run' j with ⟨_ | a, j'⟩
  · exact hh _ ⟨j, j', hr⟩ j'
  · exact ⟨a, j', rfl⟩

/-- A loop is safe when its body is safe in every state the invariant allows, and keeps it. -/
theorem safe_forIn (xs : List γ) (init : σ) (body : γ → σ → Step (ForInStep σ))
    (I : List γ → σ → Prop) (hinit : I xs init)
    (hstep : ∀ x rest s, I (x :: rest) s →
      (body x s).Safe ∧ (body x s).Ensures fun r => ∃ s', r = .yield s' ∧ I rest s') :
    (forIn xs init body).Safe := by
  induction xs generalizing init with
  | nil =>
    rw [List.forIn_nil]
    exact (yields_pure init).safe
  | cons x rest ih =>
    rw [List.forIn_cons]
    obtain ⟨safe, kept⟩ := hstep x rest init hinit
    refine safe_bind safe fun r returned => ?_
    obtain ⟨s', rfl, holds⟩ := kept r returned
    exact ih s' holds

/-- A failure after each value a step that cannot fail returns is a failure of the whole. -/
theorem throws_bind_of_safe {x : Step α} {f : α → Step β} {e : Fault} (hx : x.Safe)
    (hf : ∀ a, x.Returns a → (f a).Throws e) : (x >>= f).Throws e := by
  intro j
  obtain ⟨a, j', hj⟩ := hx j
  rw [run'_bind, hj]
  exact hf a ⟨j, j', hj⟩ j'

/-- A loop fails with `e` when, in every state its invariant allows, the body either fails with
`e` or cannot fail and keeps the invariant, and the invariant cannot outlast the list. -/
theorem throws_forIn {e : Fault} (xs : List γ) (init : σ) (body : γ → σ → Step (ForInStep σ))
    (I : List γ → σ → Prop) (hinit : I xs init)
    (hstep : ∀ x rest s, I (x :: rest) s → (body x s).Throws e ∨
      ((body x s).Safe ∧ (body x s).Ensures fun r => ∃ s', r = .yield s' ∧ I rest s'))
    (hend : ∀ s, ¬ I [] s) : (forIn xs init body).Throws e := by
  induction xs generalizing init with
  | nil => exact absurd hinit (hend init)
  | cons x rest ih =>
    rw [List.forIn_cons]
    rcases hstep x rest init hinit with fails | ⟨safe, kept⟩
    · exact throws_bind fails
    · refine throws_bind_of_safe safe fun r returned => ?_
      obtain ⟨s', rfl, holds⟩ := kept r returned
      exact ih s' holds

end Step
end LosslessBuffer
