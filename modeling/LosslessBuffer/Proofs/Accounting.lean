import LosslessBuffer.Asic.Accounting
/-!
# The terms of an accounting add up to its cells

An accounting of the shared buffer (`SharedBuffer`) gives the shared cells of the pool with
the terms they were derived from, in the order evaluated. Each step that changes the cells
adds a term of exactly that change: the pool size in cells, less its headroom, less the
cells of each binding subtracted. So the cells of the terms add up, in signed 64-bit words,
to the shared cells under both strategies (`Family.sharedBuffer_balanced`); a binding
skipped, or not subtracted, changes neither.
-/

set_option autoImplicit false

namespace LosslessBuffer

theorem Except.exists_of_bind_eq_ok {ε α β : Type} {x : Except ε α} {f : α → Except ε β} {b : β}
    (h : x >>= f = .ok b) : ∃ a, x = .ok a ∧ f a = .ok b := by
  cases x with
  | error e => cases h
  | ok a => exact ⟨a, rfl, h⟩

namespace SharedBuffer

/-- The cells of the terms of an accounting add up to its cells. -/
def Balanced (acct : SharedBuffer) : Prop :=
  (acct.terms.map (·.cells)).sum = acct.cells

/-- Lowering the cells by as much as a new term of negative cells keeps the balance. -/
theorem Balanced.subtract {acct : SharedBuffer} (h : acct.Balanced) (cells : Int64)
    (term : AccountingTerm) (negative : term.cells = -cells) :
    ({ acct with cells := acct.cells - cells, terms := acct.terms ++ [term] } : SharedBuffer).Balanced := by
  unfold Balanced at h ⊢
  rw [List.map_append, List.sum_append, h, List.map_singleton, List.sum_singleton, negative,
    Int64.sub_eq_add_neg]

/-- Subtracting the bindings of a table keeps the balance. -/
theorem subtractBindings_balanced {table : String} {profiles : Std.TreeMap Text.Bytes Profile}
    {matches_ : Text.Bytes → Bool} {q : Quantizer} {bindings : List (Text.Bytes × Binding)} :
    ∀ {start acct : SharedBuffer}, start.subtractBindings table bindings profiles matches_ q = .ok acct →
      start.Balanced → acct.Balanced := by
  induction bindings with
  | nil =>
    intro start acct h balanced
    cases h
    exact balanced
  | cons binding rest ih =>
    intro start acct h balanced
    unfold subtractBindings at h
    rw [List.foldlM_cons] at h
    obtain ⟨mid, first, later⟩ := Except.exists_of_bind_eq_ok h
    refine ih (by unfold subtractBindings; exact later) ?_
    obtain ⟨key, b⟩ := binding
    simp only at first
    split at first
    · cases first
      exact balanced
    · split at first
      · cases first
        exact balanced
      · split at first
        · cases first
          exact balanced
        · obtain ⟨cells, -, subtracted⟩ := Except.exists_of_bind_eq_ok first
          cases subtracted
          exact balanced.subtract _ _ (Int64.neg_mul _ _)

end SharedBuffer

open SharedBuffer

theorem engineDividedShare_balanced {family : Family} {pool : Pool} {q : Quantizer}
    {acct : SharedBuffer} (h : engineDividedShare family pool q = .ok acct) : acct.Balanced := by
  unfold engineDividedShare at h
  obtain ⟨poolCells, -, divided⟩ := Except.exists_of_bind_eq_ok h
  cases divided
  simp [SharedBuffer.Balanced]

theorem subtractiveShare_balanced {cfg : BufferConfig} {pool : Pool} {q : Quantizer}
    {acct : SharedBuffer} (h : subtractiveShare cfg pool q = .ok acct) : acct.Balanced := by
  unfold subtractiveShare at h
  obtain ⟨poolCells, -, h⟩ := Except.exists_of_bind_eq_ok h
  obtain ⟨xoffCells, -, h⟩ := Except.exists_of_bind_eq_ok h
  obtain ⟨afterQueues, queued, pgs⟩ := Except.exists_of_bind_eq_ok h
  refine subtractBindings_balanced pgs (subtractBindings_balanced queued ?_)
  simp [SharedBuffer.Balanced, Int64.sub_eq_add_neg]

/-- Under either strategy, the cells of the accounting terms add up to the shared cells. -/
theorem Family.sharedBuffer_balanced {family : Family} {cfg : BufferConfig} {pool : Pool}
    {q : Quantizer} {acct : SharedBuffer} (h : family.sharedBuffer cfg pool q = .ok acct) :
    acct.Balanced := by
  unfold Family.sharedBuffer at h
  split at h
  · exact engineDividedShare_balanced h
  · exact subtractiveShare_balanced h

end LosslessBuffer
