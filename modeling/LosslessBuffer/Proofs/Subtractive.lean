import LosslessBuffer.Proofs.BindingKeys
import LosslessBuffer.Proofs.Cells
import LosslessBuffer.Proofs.Maps
/-!
# Subtractive accounting, in closed form

Subtractive families carve the static allocations of queues and priority groups out of the
ingress lossless pool (`subtractiveShare`). Each table of bindings is visited in key order,
and each binding passes three filters in turn:

1. its key must have a port and an index range, or the binding is skipped as an
   unrecognized key;
2. its profile must be configured, or the binding is skipped for the missing profile;
3. its profile's name must pass the table's test (`isEgressProfile` for queues,
   `isLosslessPgProfile` for priority groups), or the binding takes no part, silently.

A binding that passes all three is carved out (`carved`, `carved_eq_some_iff`): the cells of
its profile's size times the width of its range. This module states the result of the
accounting in closed form over the bindings (`subtractiveClosed`), rather than as a loop:

* the accounting fails, with an invalid size, exactly when the pool's size or headroom, or
  the size of a carved binding's profile, is negative (`subtractiveShare_of_invalid`);
* otherwise its cells are the pool's cells, less its headroom's, less the carve-outs of both
  tables, in 64-bit words; its skips are the skipped bindings of the queue table and then of
  the priority-group table, each in ascending key order (`tableSkips_ascending`); and its
  terms are the pool's two terms and then one term per carved binding
  (`subtractiveShare_of_valid`).

`subtractiveShare_follows_formula` puts the two cases together. The loop over one table is
one induction over its bindings (`subtractBindings_of_nonneg`, `subtractBindings_of_neg`), whose
step is one binding: skipped or left out (`subtractBindings_single_of_none`), carved
(`subtractBindings_single_of_some`), or failing (`subtractBindings_single_of_neg`). Word sums do
not depend on the order of their summands, so neither do the cells a table takes
(`tableCells_perm`, `subtractBindings_cells_perm`); the skips do, and the key order the tables
are kept in fixes them.
-/

set_option autoImplicit false

namespace LosslessBuffer

open LosslessBuffer.Text

/-! ## One binding -/

/-- The cells of a byte count, in words, as `bytesToCells` gives them for a count that is not
negative. -/
def Quantizer.wordCells (q : Quantizer) (n : Int64) : Int64 :=
  (n + q.cellSize - 1) / q.cellSize

/-- The profile and range of a binding that the accounting of a table carves out of the pool:
its key has a range, its profile is configured, and the profile's name passes the table's
test. -/
def carved (profiles : Std.TreeMap Bytes Profile) (test : Bytes → Bool) (entry : Bytes × Binding) :
    Option (Profile × BindingRange) :=
  (BindingRange.parse? entry.1).bind fun range =>
    (profiles.get? (profileName entry.2.profile)).bind fun profile =>
      if test (profileName entry.2.profile) then some (profile, range) else none

/-- The record of a binding that the accounting of `table` leaves out: its key has no range,
or its profile is not configured. -/
def skipOf (table : String) (profiles : Std.TreeMap Bytes Profile) (entry : Bytes × Binding) :
    Option SkipRecord :=
  if (BindingRange.parse? entry.1).isNone then
    some ⟨table, entry.1, profileName entry.2.profile, "unrecognized binding key"⟩
  else if (profiles.get? (profileName entry.2.profile)).isNone then
    some ⟨table, entry.1, profileName entry.2.profile, Cause.missingProfileReference.phrase⟩
  else none

/-- The term of a carved binding: its profile's size and cells, times its width. -/
def carvedTerm (table : String) (q : Quantizer) (entry : Bytes × Binding)
    (carve : Profile × BindingRange) : AccountingTerm :=
  { label := table ++ "|" ++ entry.1.lossy, profile := profileName entry.2.profile,
    bytes := carve.1.size, multiplier := carve.2.width,
    cells := -q.wordCells carve.1.size * carve.2.width }

/-- The cells a carved binding takes out of the pool. -/
def carvedCells (q : Quantizer) (carve : Profile × BindingRange) : Int64 :=
  q.wordCells carve.1.size * carve.2.width

/-- The cells the carved bindings of a table take out of the pool, in words. -/
def tableCells (q : Quantizer) (profiles : Std.TreeMap Bytes Profile) (test : Bytes → Bool)
    (bindings : List (Bytes × Binding)) : Int64 :=
  ((bindings.filterMap (carved profiles test)).map (carvedCells q)).sum

/-- The terms of the carved bindings of a table, in order. -/
def tableTerms (table : String) (q : Quantizer) (profiles : Std.TreeMap Bytes Profile)
    (test : Bytes → Bool) (bindings : List (Bytes × Binding)) : List AccountingTerm :=
  bindings.filterMap fun entry => (carved profiles test entry).map (carvedTerm table q entry)

/-- The records of the bindings of a table that the accounting leaves out, in order. -/
def tableSkips (table : String) (profiles : Std.TreeMap Bytes Profile)
    (bindings : List (Bytes × Binding)) : List SkipRecord :=
  bindings.filterMap (skipOf table profiles)

/-- Some carved binding of a table has a profile of negative size. -/
def NegativeCarve (profiles : Std.TreeMap Bytes Profile) (test : Bytes → Bool)
    (bindings : List (Bytes × Binding)) : Prop :=
  ∃ entry ∈ bindings, ∃ carve, carved profiles test entry = some carve ∧ carve.1.size < 0

/-- A binding is carved exactly when it passes the three filters, with its profile and range. -/
theorem carved_eq_some_iff {profiles : Std.TreeMap Bytes Profile} {test : Bytes → Bool}
    {entry : Bytes × Binding} {carve : Profile × BindingRange} :
    carved profiles test entry = some carve ↔
      BindingRange.parse? entry.1 = some carve.2 ∧
        profiles.get? (profileName entry.2.profile) = some carve.1 ∧
        test (profileName entry.2.profile) = true := by
  obtain ⟨profile, range⟩ := carve
  unfold carved
  cases BindingRange.parse? entry.1 <;> cases profiles.get? (profileName entry.2.profile) <;>
    cases test (profileName entry.2.profile) <;> simp [eq_comm, and_comm]

theorem Quantizer.cellsIn_of_nonneg (q : Quantizer) (context : String) {n : Int64}
    (nonneg : 0 ≤ n) :
    q.cellsIn context n = .ok (q.wordCells n) := by
  rw [Quantizer.cellsIn, Quantizer.bytesToCells_eq_ok.2 ⟨nonneg, rfl⟩]
  rfl

theorem Quantizer.cellsIn_of_neg (q : Quantizer) (context : String) {n : Int64} (negative : n < 0) :
    ∃ e, q.cellsIn context n = .error e ∧ e.cause? = some .invalidSize := by
  rw [Quantizer.cellsIn, Quantizer.bytesToCells_of_neg q negative]
  exact ⟨_, rfl, rfl⟩

/-! ## One table -/

namespace SharedBuffer

variable {table : String} {profiles : Std.TreeMap Bytes Profile} {test : Bytes → Bool}
  {q : Quantizer}

theorem tableCells_nil : tableCells q profiles test [] = 0 := rfl

theorem tableCells_cons_of_none {entry : Bytes × Binding} {rest : List (Bytes × Binding)}
    (uncarved : carved profiles test entry = none) :
    tableCells q profiles test (entry :: rest) = tableCells q profiles test rest := by
  rw [tableCells, List.filterMap_cons_none uncarved, tableCells]

theorem tableCells_cons_of_some {entry : Bytes × Binding} {rest : List (Bytes × Binding)}
    {carve : Profile × BindingRange} (carving : carved profiles test entry = some carve) :
    tableCells q profiles test (entry :: rest) =
      carvedCells q carve + tableCells q profiles test rest := by
  rw [tableCells, List.filterMap_cons_some carving, List.map_cons, List.sum_cons, tableCells]

/-- The closed form of the loop over a table, from a start. -/
def subtracted (table : String) (profiles : Std.TreeMap Bytes Profile) (test : Bytes → Bool)
    (q : Quantizer) (bindings : List (Bytes × Binding)) (start : SharedBuffer) : SharedBuffer where
  cells := start.cells - tableCells q profiles test bindings
  terms := start.terms ++ tableTerms table q profiles test bindings
  skips := start.skips ++ tableSkips table profiles bindings

/-- A binding left out records its skip, if it has one, before the rest of the table. -/
theorem subtracted_cons_of_none {entry : Bytes × Binding} {rest : List (Bytes × Binding)}
    {start : SharedBuffer} (uncarved : carved profiles test entry = none) :
    subtracted table profiles test q (entry :: rest) start =
      subtracted table profiles test q rest
        { start with skips := start.skips ++ (skipOf table profiles entry).toList } := by
  simp only [subtracted, tableTerms, tableSkips, tableCells_cons_of_none uncarved,
    List.filterMap_cons, uncarved,
    Option.map_none, List.append_assoc, SharedBuffer.mk.injEq, true_and]
  cases skipOf table profiles entry <;> rfl

/-- A carved binding is subtracted, with its term, before the rest of the table. -/
theorem subtracted_cons_of_some {entry : Bytes × Binding} {rest : List (Bytes × Binding)}
    {start : SharedBuffer} {carve : Profile × BindingRange}
    (carving : carved profiles test entry = some carve)
    (kept : skipOf table profiles entry = none) :
    subtracted table profiles test q (entry :: rest) start =
      subtracted table profiles test q rest
        { start with cells := start.cells - carvedCells q carve,
                     terms := start.terms ++ [carvedTerm table q entry carve] } := by
  simp only [subtracted, tableTerms, tableSkips, tableCells_cons_of_some carving,
    List.filterMap_cons, carving, kept,
    Option.map_some, List.append_assoc, List.singleton_append, SharedBuffer.mk.injEq, and_true]
  exact (Int64.sub_sub _ _ _).symm

theorem subtractBindings_append (pre post : List (Bytes × Binding)) (start : SharedBuffer) :
    start.subtractBindings table (pre ++ post) profiles test q =
      start.subtractBindings table pre profiles test q >>= fun acct =>
        acct.subtractBindings table post profiles test q := by
  simp only [subtractBindings, List.foldlM_append]

/-- A carved binding is not skipped. -/
theorem skipOf_of_carved {entry : Bytes × Binding} {carve : Profile × BindingRange}
    (carving : carved profiles test entry = some carve) : skipOf table profiles entry = none := by
  obtain ⟨parsed, found, -⟩ := carved_eq_some_iff.1 carving
  simp only [skipOf, parsed, found, Option.isNone_some, Bool.false_eq_true, if_false]

/-- A binding that is not carved records its skip, if it has one, and nothing else. -/
theorem subtractBindings_single_of_none {entry : Bytes × Binding}
    (uncarved : carved profiles test entry = none) (start : SharedBuffer) :
    start.subtractBindings table [entry] profiles test q =
      .ok { start with skips := start.skips ++ (skipOf table profiles entry).toList } := by
  obtain ⟨key, b⟩ := entry
  simp only [subtractBindings, List.foldlM_cons, List.foldlM_nil]
  cases parsed : BindingRange.parse? key with
  | none =>
    simp only [skipOf, parsed, Option.isNone_none, if_true, Option.toList_some]
    rfl
  | some range =>
    cases found : profiles.get? (profileName b.profile) with
    | none =>
      simp only [skipOf, parsed, found, Option.isNone_some, Option.isNone_none,
        Bool.false_eq_true, if_false, if_true, Option.toList_some]
      rfl
    | some profile =>
      have fails : test (profileName b.profile) = false := by
        refine Bool.eq_false_iff.2 fun passes => ?_
        have carving : carved profiles test (key, b) = some (profile, range) :=
          carved_eq_some_iff.2 ⟨parsed, found, passes⟩
        cases uncarved.symm.trans carving
      simp only [skipOf, parsed, found, fails, Option.isNone_some, Bool.false_eq_true, if_false,
        Bool.not_false, if_true, Option.toList_none, List.append_nil]
      rfl

/-- A carved binding of size zero or more is subtracted, with its term. -/
theorem subtractBindings_single_of_some {entry : Bytes × Binding}
    {carve : Profile × BindingRange} (carving : carved profiles test entry = some carve)
    (nonneg : 0 ≤ carve.1.size) (start : SharedBuffer) :
    start.subtractBindings table [entry] profiles test q =
      .ok { start with cells := start.cells - carvedCells q carve,
                       terms := start.terms ++ [carvedTerm table q entry carve] } := by
  obtain ⟨parsed, found, passes⟩ := carved_eq_some_iff.1 carving
  obtain ⟨key, b⟩ := entry
  simp only at parsed found passes
  simp only [subtractBindings, List.foldlM_cons, List.foldlM_nil, parsed, found, passes,
    Bool.not_true, Bool.false_eq_true, if_false, Quantizer.cellsIn_of_nonneg q _ nonneg]
  rfl

/-- Over a table whose carved bindings all have profiles of size zero or more, the loop is its
closed form: each carved binding subtracted with its term, each skipped binding recorded, in
order. -/
theorem subtractBindings_of_nonneg {bindings : List (Bytes × Binding)}
    (sizes : ∀ entry ∈ bindings, ∀ carve, carved profiles test entry = some carve →
      0 ≤ carve.1.size) (start : SharedBuffer) :
    start.subtractBindings table bindings profiles test q =
      .ok (subtracted table profiles test q bindings start) := by
  induction bindings generalizing start with
  | nil =>
    simp only [subtractBindings, List.foldlM_nil, subtracted, tableCells_nil, tableTerms,
      tableSkips, Int64.sub_zero, List.filterMap_nil, List.append_nil]
    rfl
  | cons entry rest ih =>
    have later := ih fun e member => sizes e (List.mem_cons_of_mem _ member)
    cases carving : carved profiles test entry with
    | none =>
      rw [subtracted_cons_of_none carving, ← List.singleton_append, subtractBindings_append,
        subtractBindings_single_of_none carving]
      exact later _
    | some carve =>
      have nonneg := sizes entry List.mem_cons_self carve carving
      rw [subtracted_cons_of_some carving (skipOf_of_carved carving), ← List.singleton_append,
        subtractBindings_append, subtractBindings_single_of_some carving nonneg]
      exact later _

/-- A carved binding whose profile has a negative size stops the loop with an invalid size. -/
theorem subtractBindings_single_of_neg {entry : Bytes × Binding} {carve : Profile × BindingRange}
    (carving : carved profiles test entry = some carve) (negative : carve.1.size < 0)
    (start : SharedBuffer) :
    ∃ e, start.subtractBindings table [entry] profiles test q = .error e ∧
      e.cause? = some .invalidSize := by
  obtain ⟨parsed, found, passes⟩ := carved_eq_some_iff.1 carving
  obtain ⟨e, fails, cause⟩ := Quantizer.cellsIn_of_neg q
    (table ++ "|" ++ entry.1.lossy ++ " profile " ++ (profileName entry.2.profile).lossy) negative
  refine ⟨e, ?_, cause⟩
  obtain ⟨key, b⟩ := entry
  simp only at parsed found passes
  simp only [subtractBindings, List.foldlM_cons, List.foldlM_nil, parsed, found, passes,
    Bool.not_true, Bool.false_eq_true, if_false, fails]
  rfl

/-- A table with a carved binding of negative size fails with an invalid size, whatever the
bindings around it. -/
theorem subtractBindings_of_neg {bindings : List (Bytes × Binding)}
    (negative : NegativeCarve profiles test bindings) (start : SharedBuffer) :
    ∃ e, start.subtractBindings table bindings profiles test q = .error e ∧
      e.cause? = some .invalidSize := by
  induction bindings generalizing start with
  | nil =>
    obtain ⟨entry, member, _⟩ := negative
    exact absurd member List.not_mem_nil
  | cons entry rest ih =>
    rw [← List.singleton_append, subtractBindings_append]
    by_cases here : ∃ carve, carved profiles test entry = some carve ∧ carve.1.size < 0
    · obtain ⟨carve, carving, below⟩ := here
      obtain ⟨e, fails, cause⟩ : ∃ e, start.subtractBindings table [entry] profiles test q =
          .error e ∧ e.cause? = some .invalidSize :=
        subtractBindings_single_of_neg carving below start
      exact ⟨e, by rw [fails]; rfl, cause⟩
    · have sizes : ∀ e ∈ [entry], ∀ carve, carved profiles test e = some carve →
          0 ≤ carve.1.size := by
        intro e member carve carving
        rw [List.mem_singleton.1 member] at carving
        exact Int64.not_lt.1 fun below => here ⟨carve, carving, below⟩
      have later : NegativeCarve profiles test rest := by
        obtain ⟨e, member, carve, carving, below⟩ := negative
        rcases List.mem_cons.1 member with rfl | member
        · exact absurd ⟨carve, carving, below⟩ here
        · exact ⟨e, member, carve, carving, below⟩
      rw [subtractBindings_of_nonneg sizes]
      exact ih later _

/-- A sum of words does not depend on the order of its summands. -/
theorem sum_perm {l l' : List Int64} (h : l.Perm l') : l.sum = l'.sum := by
  unfold List.sum
  refine h.foldr_eq' (fun x _ y _ z => ?_) 0
  rw [← Int64.add_assoc, Int64.add_comm y x, Int64.add_assoc]

/-- The cells a table takes out of the pool do not depend on the order of its bindings. -/
theorem tableCells_perm {bindings bindings' : List (Bytes × Binding)}
    (h : bindings.Perm bindings') :
    tableCells q profiles test bindings = tableCells q profiles test bindings' :=
  sum_perm ((h.filterMap (carved profiles test)).map (carvedCells q))

/-- Visited in any order, the bindings of a table leave the same cells. -/
theorem subtractBindings_cells_perm {bindings bindings' : List (Bytes × Binding)}
    (h : bindings.Perm bindings')
    (sizes : ∀ entry ∈ bindings, ∀ carve, carved profiles test entry = some carve →
      0 ≤ carve.1.size) (start : SharedBuffer) :
    ∃ acct acct', start.subtractBindings table bindings profiles test q = .ok acct ∧
      start.subtractBindings table bindings' profiles test q = .ok acct' ∧
      acct.cells = acct'.cells := by
  have sizes' : ∀ entry ∈ bindings', ∀ carve, carved profiles test entry = some carve →
      0 ≤ carve.1.size := fun entry member => sizes entry (h.mem_iff.2 member)
  refine ⟨_, _, subtractBindings_of_nonneg sizes start,
    subtractBindings_of_nonneg sizes' start, ?_⟩
  simp only [subtracted, tableCells_perm h]

/-- A skip records the key of its binding. -/
theorem key_of_skipOf {entry : Bytes × Binding} {skip : SkipRecord}
    (h : skipOf table profiles entry = some skip) : skip.key = entry.1 := by
  unfold skipOf at h
  split_ifs at h <;> cases h <;> rfl

/-- The skips of a table kept in key order come in ascending key order. -/
theorem tableSkips_ascending (bindings : Std.TreeMap Bytes Binding) :
    (tableSkips table profiles bindings.toList).Pairwise fun a b => compare a.key b.key = .lt := by
  refine List.Pairwise.filterMap _ (fun a a' before skip found skip' found' => ?_)
    Std.TreeMap.ordered_keys_toList
  rw [key_of_skipOf found, key_of_skipOf found']
  exact before

/-- Without a carved binding of negative size, every carved binding has a size of zero or
more. -/
theorem nonneg_of_not_negativeCarve {bindings : List (Bytes × Binding)}
    (none : ¬ NegativeCarve profiles test bindings) :
    ∀ entry ∈ bindings, ∀ carve, carved profiles test entry = some carve →
      0 ≤ carve.1.size :=
  fun entry member carve carving =>
    Int64.not_lt.1 fun below => none ⟨entry, member, carve, carving, below⟩

end SharedBuffer

/-! ## The pool -/

open SharedBuffer

/-- The subtractive accounting of `pool` fails: its size or headroom, or the profile of a
carved binding of either table, is negative. -/
def SubtractiveInvalid (cfg : BufferConfig) (pool : Pool) : Prop :=
  pool.size < 0 ∨ pool.xoff.getD 0 < 0 ∨
    NegativeCarve cfg.profiles isEgressProfile cfg.queues.toList ∨
    NegativeCarve cfg.profiles isLosslessPgProfile cfg.pgs.toList

/-- The two terms of the pool itself: its size, and its headroom taken off. -/
def poolTerms (pool : Pool) (q : Quantizer) : List AccountingTerm :=
  [{ label := ingressLosslessPool ++ ".size", bytes := pool.size, multiplier := 1,
     cells := q.wordCells pool.size },
   { label := ingressLosslessPool ++ ".xoff", bytes := pool.xoff.getD 0, multiplier := 1,
     cells := -q.wordCells (pool.xoff.getD 0) }]

/-- The subtractive accounting of a pool, in closed form: the pool's cells less its
headroom's, less the carve-outs of the queue table and then of the priority-group table. -/
def subtractiveClosed (cfg : BufferConfig) (pool : Pool) (q : Quantizer) : SharedBuffer where
  cells := q.wordCells pool.size - q.wordCells (pool.xoff.getD 0)
    - tableCells q cfg.profiles isEgressProfile cfg.queues.toList
    - tableCells q cfg.profiles isLosslessPgProfile cfg.pgs.toList
  terms := poolTerms pool q
    ++ tableTerms "BUFFER_QUEUE" q cfg.profiles isEgressProfile cfg.queues.toList
    ++ tableTerms "BUFFER_PG" q cfg.profiles isLosslessPgProfile cfg.pgs.toList
  skips := tableSkips "BUFFER_QUEUE" cfg.profiles cfg.queues.toList
    ++ tableSkips "BUFFER_PG" cfg.profiles cfg.pgs.toList

section Pool

variable {cfg : BufferConfig} {pool : Pool} {q : Quantizer}

theorem subtractiveShare_of_valid (valid : ¬ SubtractiveInvalid cfg pool) :
    subtractiveShare cfg pool q = .ok (subtractiveClosed cfg pool q) := by
  simp only [SubtractiveInvalid, not_or] at valid
  obtain ⟨size, xoff, queues, pgs⟩ := valid
  unfold subtractiveShare
  simp only [Quantizer.cellsIn_of_nonneg q _ (Int64.not_lt.1 size),
    Quantizer.cellsIn_of_nonneg q _ (Int64.not_lt.1 xoff), bind, Except.bind,
    subtractBindings_of_nonneg (nonneg_of_not_negativeCarve queues),
    subtractBindings_of_nonneg (nonneg_of_not_negativeCarve pgs)]
  simp only [subtracted, subtractiveClosed, poolTerms, List.append_assoc, List.nil_append]

theorem subtractiveShare_of_invalid (invalid : SubtractiveInvalid cfg pool) :
    ∃ e, subtractiveShare cfg pool q = .error e ∧ e.cause? = some .invalidSize := by
  unfold subtractiveShare
  by_cases size : pool.size < 0
  · obtain ⟨e, fails, cause⟩ :=
      Quantizer.cellsIn_of_neg q (ingressLosslessPool ++ ".size") size
    exact ⟨e, by simp only [fails, bind, Except.bind], cause⟩
  simp only [Quantizer.cellsIn_of_nonneg q _ (Int64.not_lt.1 size), bind, Except.bind]
  by_cases xoff : pool.xoff.getD 0 < 0
  · obtain ⟨e, fails, cause⟩ :=
      Quantizer.cellsIn_of_neg q (ingressLosslessPool ++ ".xoff") xoff
    exact ⟨e, by simp only [fails], cause⟩
  simp only [Quantizer.cellsIn_of_nonneg q _ (Int64.not_lt.1 xoff)]
  by_cases queues : NegativeCarve cfg.profiles isEgressProfile cfg.queues.toList
  · let start : SharedBuffer :=
      { cells := q.wordCells pool.size - q.wordCells (pool.xoff.getD 0), terms := poolTerms pool q }
    obtain ⟨e, fails, cause⟩ : ∃ e, start.subtractBindings "BUFFER_QUEUE" cfg.queues.toList
        cfg.profiles isEgressProfile q = .error e ∧ e.cause? = some .invalidSize :=
      subtractBindings_of_neg queues start
    exact ⟨e, by simp only [start, poolTerms] at fails; simp only [fails], cause⟩
  have pgs : NegativeCarve cfg.profiles isLosslessPgProfile cfg.pgs.toList := by
    simp only [SubtractiveInvalid] at invalid
    tauto
  simp only [subtractBindings_of_nonneg (nonneg_of_not_negativeCarve queues)]
  exact subtractBindings_of_neg pgs _

/-- An accounting that succeeds had valid sizes and is the closed form. -/
theorem subtractiveShare_eq_ok {acct : SharedBuffer} (h : subtractiveShare cfg pool q = .ok acct) :
    ¬ SubtractiveInvalid cfg pool ∧ acct = subtractiveClosed cfg pool q := by
  by_cases invalid : SubtractiveInvalid cfg pool
  · obtain ⟨e, fails, -⟩ : ∃ e, subtractiveShare cfg pool q = .error e ∧
        e.cause? = some .invalidSize :=
      subtractiveShare_of_invalid invalid
    rw [h] at fails
    cases fails
  · rw [subtractiveShare_of_valid invalid] at h
    cases h
    exact ⟨invalid, rfl⟩

end Pool

/-- The subtractive accounting of a pool: it fails, with an invalid size, exactly when the
pool's size or headroom or a carved binding's profile is negative; otherwise it is its closed
form, whose skips come table by table, each in ascending key order. -/
theorem subtractiveShare_follows_formula (cfg : BufferConfig) (pool : Pool) (q : Quantizer) :
    (match subtractiveShare cfg pool q with
      | .ok acct => ¬ SubtractiveInvalid cfg pool ∧ acct = subtractiveClosed cfg pool q
      | .error e => SubtractiveInvalid cfg pool ∧ e.cause? = some .invalidSize) ∧
    (tableSkips "BUFFER_QUEUE" cfg.profiles cfg.queues.toList).Pairwise
      (fun a b => compare a.key b.key = .lt) ∧
    (tableSkips "BUFFER_PG" cfg.profiles cfg.pgs.toList).Pairwise
      (fun a b => compare a.key b.key = .lt) := by
  refine ⟨?_, tableSkips_ascending _, tableSkips_ascending _⟩
  by_cases invalid : SubtractiveInvalid cfg pool
  · obtain ⟨e, fails, cause⟩ := subtractiveShare_of_invalid invalid (q := q)
    rw [fails]
    exact ⟨invalid, cause⟩
  · rw [subtractiveShare_of_valid invalid]
    exact ⟨invalid, rfl⟩

end LosslessBuffer
