import Mathlib.Data.String.Basic
import LosslessBuffer.Proofs.ScenarioOrder
/-!
# The reference scenario is the adjacent one

A target scenario missing sub-profiles takes them from a reference scenario of the table,
chosen by `ScenarioKey.nearestTo` among the table's keys other than the target's
(`ParamTable.Candidate`). Said without the search, the choice is `ScenarioKey.Adjacent`, one
of three cases:

* a candidate of the target's speed and cable length, the one written least, flagged as
  equivalent;
* else the next candidate above the target by speed and then cable length, with nothing in
  between, the one written least among those of its size;
* else a greatest candidate, the one written last.

The three cases exclude one another and each fixes the key, so at most one key is adjacent
(`ScenarioKey.Adjacent.unique`). The search finds it because it scans the keys in their
sorted order: the first key that passes a test is below every other that does
(`find?_rel_of_pairwise`), and the last key is above every other (`getLast?_rel_of_pairwise`).
So the choice is the adjacent key whenever there are two keys to choose from, it fails
otherwise, and it does not depend on the order the table's names come in
(`ParamTable.nearestTo_picks_adjacent`).
-/

set_option autoImplicit false

namespace LosslessBuffer

/-! ## Searching a sorted list -/

section Sorted

variable {α : Type} {R : α → α → Prop} {l : List α} {a b : α}

/-- In a list ordered by `R`, an element that passes a test is the first one that passes it,
or comes after it. -/
theorem find?_rel_of_pairwise {test : α → Bool} (sorted : l.Pairwise R)
    (found : l.find? test = some b) (member : a ∈ l) (passes : test a = true) : a = b ∨ R b a := by
  obtain ⟨-, before, after, rfl, failing⟩ := List.find?_eq_some_iff_append.1 found
  rw [List.pairwise_append, List.pairwise_cons] at sorted
  rcases List.mem_append.1 member with early | late
  · exact absurd passes (by simpa using failing a early)
  · rcases List.mem_cons.1 late with same | later
    · exact .inl same
    · exact .inr (sorted.2.1.1 a later)

/-- In a list ordered by `R`, an element is the last one, or comes before it. -/
theorem getLast?_rel_of_pairwise (sorted : l.Pairwise R) (last : l.getLast? = some b)
    (member : a ∈ l) : a = b ∨ R a b := by
  obtain ⟨init, rfl⟩ := List.getLast?_eq_some_iff.1 last
  rw [List.pairwise_append] at sorted
  rcases List.mem_append.1 member with early | late
  · exact .inr (sorted.2.2 a early b (List.mem_singleton_self b))
  · exact .inl (List.mem_singleton.1 late)

end Sorted

namespace ScenarioKey

/-! ## Speed and cable length -/

/-- Keys of the same speed and cable length, however they are written. -/
def NumEq (a b : ScenarioKey) : Prop :=
  a.speed = b.speed ∧ a.cableLength = b.cableLength

/-- `a` is below `b` by speed, then by cable length. -/
def NumLt (a b : ScenarioKey) : Prop :=
  a.speed < b.speed ∨ (a.speed = b.speed ∧ a.cableLength < b.cableLength)

variable {a b c : ScenarioKey}

theorem NumEq.symm (h : a.NumEq b) : b.NumEq a :=
  ⟨h.1.symm, h.2.symm⟩

theorem NumEq.trans (h : a.NumEq b) (h' : b.NumEq c) : a.NumEq c :=
  ⟨h.1.trans h'.1, h.2.trans h'.2⟩

theorem NumLt.not_numEq (h : a.NumLt b) : ¬ a.NumEq b := by
  simp only [NumLt, NumEq, Int64.lt_iff_toInt_lt, ← Int64.toInt_inj] at *
  omega

theorem NumLt.asymm (h : a.NumLt b) : ¬ b.NumLt a := by
  simp only [NumLt, Int64.lt_iff_toInt_lt, ← Int64.toInt_inj] at *
  omega

theorem NumLt.of_numEq_right (h : a.NumLt b) (same : b.NumEq c) : a.NumLt c := by
  simp only [NumLt, NumEq, Int64.lt_iff_toInt_lt, ← Int64.toInt_inj] at *
  omega

theorem numLt_trichotomy (a b : ScenarioKey) : a.NumLt b ∨ a.NumEq b ∨ b.NumLt a := by
  simp only [NumLt, NumEq, Int64.lt_iff_toInt_lt, ← Int64.toInt_inj]
  omega

theorem compareNumeric_eq_lt_iff : a.compareNumeric b = .lt ↔ a.NumLt b := by
  simp only [compareNumeric, Ordering.then_eq_lt, Std.LawfulEqCmp.compare_eq_iff_eq,
    Std.compare_eq_lt, NumLt]

theorem compareNumeric_eq_gt_iff : a.compareNumeric b = .gt ↔ b.NumLt a := by
  simp only [compareNumeric, Ordering.then_eq_gt, Std.LawfulEqCmp.compare_eq_iff_eq,
    Std.compare_eq_gt, NumLt]
  constructor <;> rintro (below | ⟨same, below⟩)
  exacts [.inl below, .inr ⟨same.symm, below⟩, .inl below, .inr ⟨same.symm, below⟩]

/-- A key sorts at or before another when it is smaller by speed and cable length, or of the
same size and written no later. -/
theorem isLE_compare_iff : (a.compare b).isLE ↔ a.NumLt b ∨ (a.NumEq b ∧ a.raw ≤ b.raw) := by
  rw [← compareNumeric_eq_lt_iff, NumEq, ← compareNumeric_eq_iff]
  simp only [compare, Ordering.isLE_then_iff_and]
  cases a.compareNumeric b <;> simp [Std.LawfulBCmp.isLE_iff_le]

/-- Keys of one size in sorted order are written in order. -/
theorem raw_le_of_isLE (le : (a.compare b).isLE) (same : a.NumEq b) : a.raw ≤ b.raw := by
  rcases isLE_compare_iff.1 le with below | ⟨-, written⟩
  · exact absurd same below.not_numEq
  · exact written

/-- A key that sorts at or before another is not above it. -/
theorem not_numLt_of_isLE (le : (a.compare b).isLE) : ¬ b.NumLt a := by
  rcases isLE_compare_iff.1 le with below | ⟨same, -⟩
  · exact below.asymm
  · exact fun above => above.not_numEq same.symm

/-! ## The adjacent key -/

/-- The reference for target `t` among the keys `C`, with whether it is flagged as
equivalent: a key of `C` with the target's speed and cable length, the one written least;
else the next key of `C` above the target, with no key of `C` in between, the one written
least among those of its size; else a greatest key of `C`, the one written last. -/
inductive Adjacent (C : ScenarioKey → Prop) (t : ScenarioKey) : ScenarioKey → Bool → Prop
  /-- A key of the target's size. -/
  | equal {ref : ScenarioKey} (mem : C ref) (same : ref.NumEq t)
      (least : ∀ k, C k → k.NumEq t → ref.raw ≤ k.raw) : Adjacent C t ref true
  /-- The next key above the target. -/
  | next {ref : ScenarioKey} (mem : C ref) (unmatched : ∀ k, C k → ¬ k.NumEq t)
      (above : t.NumLt ref) (nearest : ∀ k, C k → t.NumLt k → ¬ k.NumLt ref)
      (least : ∀ k, C k → k.NumEq ref → ref.raw ≤ k.raw) : Adjacent C t ref false
  /-- A greatest key, when every key is below the target. -/
  | last {ref : ScenarioKey} (mem : C ref) (unmatched : ∀ k, C k → ¬ k.NumEq t)
      (below : ∀ k, C k → ¬ t.NumLt k) (greatest : ∀ k, C k → ¬ ref.NumLt k)
      (latest : ∀ k, C k → k.NumEq ref → k.raw ≤ ref.raw) : Adjacent C t ref false

/-- At most one key is adjacent to the target, when a key of `C` is fixed by how it is
written: the three cases exclude one another, and each fixes its key. -/
theorem Adjacent.unique {C : ScenarioKey → Prop} {t ref ref' : ScenarioKey} {e e' : Bool}
    (determined : ∀ a b, C a → C b → a.raw = b.raw → a = b) (h : Adjacent C t ref e)
    (h' : Adjacent C t ref' e') : ref = ref' ∧ e = e' := by
  cases h with
  | equal mem same least =>
    cases h' with
    | equal mem' same' least' =>
      exact ⟨determined _ _ mem mem'
        (String.le_antisymm (least _ mem' same') (least' _ mem same)), rfl⟩
    | next _ unmatched' => exact absurd same (unmatched' _ mem)
    | last _ unmatched' => exact absurd same (unmatched' _ mem)
  | next mem unmatched above nearest least =>
    cases h' with
    | equal mem' same' => exact absurd same' (unmatched _ mem')
    | next mem' _ above' nearest' least' =>
      have notAbove := nearest' _ mem above
      have notBelow := nearest _ mem' above'
      have same : ref.NumEq ref' := by
        rcases numLt_trichotomy ref ref' with lt | eq | gt
        exacts [absurd lt notAbove, eq, absurd gt notBelow]
      exact ⟨determined _ _ mem mem'
        (String.le_antisymm (least _ mem' same.symm) (least' _ mem same)), rfl⟩
    | last _ _ below' => exact absurd above (below' _ mem)
  | last mem unmatched below greatest latest =>
    cases h' with
    | equal mem' same' => exact absurd same' (unmatched _ mem')
    | next mem' _ above' => exact absurd above' (below _ mem')
    | last mem' _ _ greatest' latest' =>
      have same : ref.NumEq ref' := by
        rcases numLt_trichotomy ref ref' with lt | eq | gt
        exacts [absurd lt (greatest _ mem'), eq, absurd gt (greatest' _ mem)]
      exact ⟨determined _ _ mem mem'
        (String.le_antisymm (latest' _ mem same) (latest _ mem' same.symm)), rfl⟩

/-! ## The search finds the adjacent key -/

/-- Among keys in sorted order and written distinctly, the choice is the key adjacent to the
target among the keys not written as the target. -/
theorem nearestTo_adjacent {keys : List ScenarioKey} {t ref : ScenarioKey} {equivalent : Bool}
    (sorted : keys.Pairwise fun a b => (a.compare b).isLE)
    (distinct : keys.Pairwise (·.raw ≠ ·.raw)) (h : nearestTo keys t = .ok (ref, equivalent)) :
    Adjacent (fun k => k ∈ keys ∧ k.raw ≠ t.raw) t ref equivalent := by
  have chosen := nearestTo_mem distinct h
  have candidate : ∀ k, k ∈ keys.filter (·.raw != t.raw) ↔ k ∈ keys ∧ k.raw ≠ t.raw := by
    simp
  have sorted' := sorted.filter (·.raw != t.raw)
  unfold nearestTo at h
  split at h
  next => cases h
  next =>
    simp only at h
    split at h
    next k found =>
      cases h
      have same : ref.NumEq t := by
        simpa [compareNumeric_eq_iff, NumEq] using List.find?_some found
      refine .equal chosen same fun k member same' => ?_
      rcases find?_rel_of_pairwise sorted' found ((candidate k).2 member)
        (by simpa [compareNumeric_eq_iff, NumEq] using same') with rfl | le
      · exact String.le_refl _
      · exact raw_le_of_isLE le (same.trans same'.symm)
    next unequal =>
      have unmatched : ∀ k, k ∈ keys ∧ k.raw ≠ t.raw → ¬ k.NumEq t := fun k member same => by
        have := List.find?_eq_none.1 unequal k ((candidate k).2 member)
        simp [compareNumeric_eq_iff, same.1, same.2] at this
      split at h
      next k found =>
        cases h
        have above : t.NumLt ref := by
          simpa [compareNumeric_eq_gt_iff] using List.find?_some found
        have after : ∀ k, k ∈ keys ∧ k.raw ≠ t.raw → t.NumLt k →
            k = ref ∨ (ref.compare k).isLE := fun k member higher =>
          find?_rel_of_pairwise sorted' found ((candidate k).2 member)
            (by simpa [compareNumeric_eq_gt_iff] using higher)
        refine .next chosen unmatched above (fun k member higher => ?_) fun k member same => ?_
        · rcases after k member higher with rfl | le
          · exact fun below => below.asymm below
          · exact not_numLt_of_isLE le
        · rcases after k member (above.of_numEq_right same.symm) with rfl | le
          · exact String.le_refl _
          · exact raw_le_of_isLE le same.symm
      next noneAbove =>
        have below : ∀ k, k ∈ keys ∧ k.raw ≠ t.raw → ¬ t.NumLt k := fun k member higher => by
          have := List.find?_eq_none.1 noneAbove k ((candidate k).2 member)
          simp [compareNumeric_eq_gt_iff, higher] at this
        split at h
        next k last =>
          cases h
          have before : ∀ k, k ∈ keys ∧ k.raw ≠ t.raw → k = ref ∨ (k.compare ref).isLE :=
            fun k member => getLast?_rel_of_pairwise sorted' last ((candidate k).2 member)
          refine .last chosen unmatched below (fun k member => ?_) fun k member same => ?_
          · rcases before k member with rfl | le
            · exact fun below => below.asymm below
            · exact not_numLt_of_isLE le
          · rcases before k member with rfl | le
            · exact String.le_refl _
            · exact raw_le_of_isLE le same
        next empty =>
          cases h
          rw [List.getLast?_eq_none_iff] at empty
          exact absurd ((candidate _).2 chosen) (by simp [empty])

end ScenarioKey

namespace ParamTable

/-! ## The reference of a table -/

/-- A candidate reference for target `t`: a key read from one of the table's scenario names,
and not written as the target. -/
def Candidate (p : ParamTable) (t k : ScenarioKey) : Prop :=
  k.raw ∈ p.scenarios ∧ ScenarioKey.parse k.raw = .ok k ∧ k.raw ≠ t.raw

theorem candidate_iff {p : ParamTable} {t k : ScenarioKey} :
    p.Candidate t k ↔ k ∈ p.scenarioKeys ∧ k.raw ≠ t.raw := by
  rw [mem_scenarioKeys_iff_parse, Candidate, and_assoc]

/-- A candidate is fixed by how it is written. -/
theorem Candidate.eq_of_raw {p : ParamTable} {t a b : ScenarioKey} (ha : p.Candidate t a)
    (hb : p.Candidate t b) (same : a.raw = b.raw) : a = b := by
  have parsed := hb.2.1
  rw [← same, ha.2.1] at parsed
  exact Except.ok.inj parsed

/-- The reference scenario of a target: with fewer than two scenario keys there is none to
choose and the choice fails with too little reference data; otherwise it is the one key
adjacent to the target among the other keys, flagged as equivalent exactly when it has the
target's size. Sorting the names in any other order of enumeration chooses the same. -/
theorem nearestTo_picks_adjacent (p : ParamTable) (t : ScenarioKey) :
    (p.scenarioKeys.length < 2 → ScenarioKey.nearestTo p.scenarioKeys t =
      .error (.broken .insufficientReferenceData
        s!"defaulting {t.raw} from {p.scenarioKeys.length} known scenario(s), need at least 2")) ∧
    (2 ≤ p.scenarioKeys.length → ∃ ref equivalent,
      ScenarioKey.nearestTo p.scenarioKeys t = .ok (ref, equivalent) ∧
      ScenarioKey.Adjacent (p.Candidate t) t ref equivalent ∧
      ∀ ref' equivalent', ScenarioKey.Adjacent (p.Candidate t) t ref' equivalent' →
        ref' = ref ∧ equivalent' = equivalent) ∧
    ∀ names : List String, names.Perm p.scenarios.keys →
      ScenarioKey.nearestTo (ScenarioKey.sortedOf names) t = ScenarioKey.nearestTo p.scenarioKeys t := by
  refine ⟨fun few => by rw [ScenarioKey.nearestTo, if_pos few], fun enough => ?_,
    fun names reordered => by rw [scenarioKeys, ScenarioKey.sortedOf_congr reordered]⟩
  obtain ⟨⟨ref, equivalent⟩, found⟩ : ∃ r, ScenarioKey.nearestTo p.scenarioKeys t = .ok r :=
    ScenarioKey.nearestTo_ok_iff.2 enough
  have candidates : (fun k => k ∈ p.scenarioKeys ∧ k.raw ≠ t.raw) = p.Candidate t := by
    funext k
    exact propext candidate_iff.symm
  have adjacent : ScenarioKey.Adjacent (fun k => k ∈ p.scenarioKeys ∧ k.raw ≠ t.raw) t ref
      equivalent :=
    ScenarioKey.nearestTo_adjacent (ScenarioKey.sortedOf_pairwise _) p.scenarioKeys_distinct found
  rw [candidates] at adjacent
  refine ⟨ref, equivalent, found, adjacent, fun ref' equivalent' adjacent' => ?_⟩
  obtain ⟨same, flagged⟩ := ScenarioKey.Adjacent.unique (fun _ _ => Candidate.eq_of_raw)
    adjacent adjacent'
  exact ⟨same.symm, flagged.symm⟩

/-- A table whose two scenarios of the target's size are written with leading zeros. -/
def tieSample : ParamTable :=
  { scenarios := (((∅ : Std.TreeMap String Scenario).insert "100000_05m" {}).insert
      "100000_005m" {}).insert "40000_5m" {} }

/-- Choosing a reference for `100000_5m` among `100000_05m`, `100000_005m` and `40000_5m`. -/
theorem nearestTo_picks_adjacent_among_ties :
    2 ≤ tieSample.scenarioKeys.length ∧ ∃ ref equivalent,
      ScenarioKey.nearestTo tieSample.scenarioKeys ⟨100000, 5, "100000_5m"⟩ = .ok (ref, equivalent) ∧
      ScenarioKey.Adjacent (tieSample.Candidate ⟨100000, 5, "100000_5m"⟩) ⟨100000, 5, "100000_5m"⟩
        ref equivalent := by
  have enough : 2 ≤ tieSample.scenarioKeys.length := by
    rw [scenarioKeys, (ScenarioKey.sortedOf_perm _).length_eq]
    decide
  obtain ⟨ref, equivalent, found, adjacent, -⟩ := (nearestTo_picks_adjacent tieSample _).2.1 enough
  exact ⟨enough, ref, equivalent, found, adjacent⟩

end ParamTable

end LosslessBuffer
