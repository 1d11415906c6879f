import LosslessBuffer.Proofs.ScenarioOrder
/-!
# The scenario keys of a table, in order

Scenario keys are compared three ways, and a comparison is read as the integer -1, 0 or 1
(`Ordering.sign`). As such a comparison `ScenarioKey.compare` is the lexicographic order on
speed, cable length and the key as written: it is antisymmetric in sign, transitive, and 0
exactly on keys that agree in all three parts.

The keys of a table (`ParamTable.scenarioKeys`) are the names of its scenarios that read as
keys, each once and in strictly ascending order. Nothing else is left to chance: whatever
order the names are enumerated in, every list that an in-place sort, stable or not, may
leave (`ScenarioKey.SortsTo`) is that same list (`scenarioKeys_lex_sorted_unique`).
-/

set_option autoImplicit false

namespace LosslessBuffer

/-! ## Three-way comparisons as integers -/

@[simp] theorem Ordering.sign_swap (o : Ordering) : Ordering.sign o.swap = -Ordering.sign o := by
  cases o <;> rfl

@[simp] theorem Ordering.sign_eq_zero_iff {o : Ordering} : Ordering.sign o = 0 ↔ o = .eq := by
  cases o <;> decide

@[simp] theorem Ordering.sign_neg_iff {o : Ordering} : Ordering.sign o < 0 ↔ o = .lt := by
  cases o <;> decide

theorem Ordering.sign_nonpos_iff {o : Ordering} : Ordering.sign o ≤ 0 ↔ o.isLE := by
  cases o <;> decide

namespace ScenarioKey

/-! ## The comparison of keys -/

theorem compare_eq_lt_iff {a b : ScenarioKey} :
    a.compare b = .lt ↔ a.speed < b.speed ∨ (a.speed = b.speed ∧ a.cableLength < b.cableLength) ∨
      (a.speed = b.speed ∧ a.cableLength = b.cableLength ∧ a.raw < b.raw) := by
  -- the text has no lawful-order instance, so its comparison is read off its definition
  have text : Ord.compare a.raw b.raw = .lt ↔ a.raw < b.raw := compareOfLessAndEq_eq_lt
  simp only [ScenarioKey.compare, compareNumeric, Ordering.then_eq_lt, Ordering.then_eq_eq,
    Std.compare_eq_lt, Std.LawfulEqOrd.compare_eq_iff_eq, text, or_assoc, and_assoc]

theorem sign_compare_swap (a b : ScenarioKey) :
    Ordering.sign (a.compare b) = -Ordering.sign (b.compare a) := by
  have swapped : a.compare b = (b.compare a).swap := Std.OrientedCmp.eq_swap
  rw [swapped, Ordering.sign_swap]

theorem sign_compare_eq_zero_iff {a b : ScenarioKey} :
    Ordering.sign (a.compare b) = 0 ↔
      a.speed = b.speed ∧ a.cableLength = b.cableLength ∧ a.raw = b.raw := by
  rw [Ordering.sign_eq_zero_iff, Std.LawfulEqCmp.compare_eq_iff_eq]
  cases a
  cases b
  simp

theorem sign_compare_trans_nonpos {a b c : ScenarioKey} (hab : Ordering.sign (a.compare b) ≤ 0)
    (hbc : Ordering.sign (b.compare c) ≤ 0) : Ordering.sign (a.compare c) ≤ 0 := by
  rw [Ordering.sign_nonpos_iff] at hab hbc ⊢
  exact Std.TransCmp.isLE_trans hab hbc

theorem sign_compare_trans_neg {a b c : ScenarioKey} (hab : Ordering.sign (a.compare b) < 0)
    (hbc : Ordering.sign (b.compare c) < 0) : Ordering.sign (a.compare c) < 0 := by
  rw [Ordering.sign_neg_iff] at hab hbc ⊢
  exact Std.TransCmp.lt_trans hab hbc

/-! ## What a sort may leave -/

/-- The lists that sorting `keys` in place by "compares below" may leave, stable or not:
the keys rearranged so that no key compares below one before it. -/
structure SortsTo (keys out : List ScenarioKey) : Prop where
  perm : out.Perm keys
  ascending : out.Pairwise fun a b => ¬ Ordering.sign (b.compare a) < 0

theorem isLE_compare_of_not_lt {a b : ScenarioKey} (h : ¬ Ordering.sign (b.compare a) < 0) :
    (a.compare b).isLE := by
  rw [← Ordering.sign_nonpos_iff, sign_compare_swap]
  omega

/-! ## The names that read as keys -/

theorem isSome_ofName? (name : String) : (ofName? name).isSome = (parse name).isOk := by
  unfold ofName?
  cases parse name <;> rfl

/-- Reading the names as keys and writing them back keeps the names that read as keys. -/
theorem map_raw_filterMap_ofName? (names : List String) :
    (names.filterMap ofName?).map (·.raw) = names.filter fun name => (parse name).isOk := by
  induction names with
  | nil => rfl
  | cons name names ih =>
    rw [List.filterMap_cons, List.filter_cons, ← isSome_ofName?]
    cases h : ofName? name with
    | none => simpa using ih
    | some k => simpa [raw_of_ofName? h] using ih

end ScenarioKey

namespace ParamTable

/-! ## The keys of a table -/

/-- Each name of the table that reads as a key is written by exactly one key. -/
theorem scenarioKeys_raw_perm (p : ParamTable) :
    (p.scenarioKeys.map (·.raw)).Perm
      (p.scenarios.keys.filter fun name => (ScenarioKey.parse name).isOk) := by
  rw [← ScenarioKey.map_raw_filterMap_ofName?]
  exact (ScenarioKey.sortedOf_perm _).map _

theorem scenarioKeys_ascending (p : ParamTable) :
    p.scenarioKeys.Pairwise fun a b => Ordering.sign (a.compare b) < 0 := by
  refine (p.scenarioKeys_distinct.and (ScenarioKey.sortedOf_pairwise _)).imp ?_
  rintro a b ⟨different, below⟩
  rw [Ordering.sign_neg_iff]
  cases h : a.compare b with
  | lt => rfl
  | eq => exact absurd (congrArg ScenarioKey.raw (Std.LawfulEqCmp.eq_of_compare h)) different
  | gt => simp [h] at below

/-- Whatever order the names come in and however a sort settles ties, it leaves the keys of
the table. -/
theorem eq_scenarioKeys_of_sortsTo {p : ParamTable} {names : List String} {out : List ScenarioKey}
    (enumerated : names.Perm p.scenarios.keys)
    (sorted : ScenarioKey.SortsTo (names.filterMap ScenarioKey.ofName?) out) :
    out = p.scenarioKeys := by
  refine ScenarioKey.eq_of_perm_of_sorted
    (sorted.ascending.imp ScenarioKey.isLE_compare_of_not_lt) (ScenarioKey.sortedOf_pairwise _) ?_
  exact sorted.perm.trans ((enumerated.filterMap _).trans (ScenarioKey.sortedOf_perm _).symm)

/-- Comparing scenario keys is the lexicographic order on speed, cable length and the key as
written, read as -1, 0 or 1: antisymmetric in sign, transitive, and 0 only on keys equal in
all three parts. The keys of a table are the names that read as keys, each exactly once, in
strictly ascending order; and for every order in which the names are enumerated, every list a
sort by "compares below" may leave, stable or not, is that list. -/
theorem scenarioKeys_lex_sorted_unique :
    (∀ a b : ScenarioKey,
      (Ordering.sign (a.compare b) < 0 ↔ a.speed < b.speed ∨
        (a.speed = b.speed ∧ a.cableLength < b.cableLength) ∨
        (a.speed = b.speed ∧ a.cableLength = b.cableLength ∧ a.raw < b.raw)) ∧
      Ordering.sign (a.compare b) = -Ordering.sign (b.compare a) ∧
      (Ordering.sign (a.compare b) = 0 ↔
        a.speed = b.speed ∧ a.cableLength = b.cableLength ∧ a.raw = b.raw)) ∧
    (∀ a b c : ScenarioKey,
      (Ordering.sign (a.compare b) ≤ 0 → Ordering.sign (b.compare c) ≤ 0 →
        Ordering.sign (a.compare c) ≤ 0) ∧
      (Ordering.sign (a.compare b) < 0 → Ordering.sign (b.compare c) < 0 →
        Ordering.sign (a.compare c) < 0)) ∧
    ∀ p : ParamTable,
      (∀ k, k ∈ p.scenarioKeys ↔ k.raw ∈ p.scenarios ∧ ScenarioKey.parse k.raw = .ok k) ∧
      (p.scenarioKeys.map (·.raw)).Perm
        (p.scenarios.keys.filter fun name => (ScenarioKey.parse name).isOk) ∧
      p.scenarioKeys.Pairwise (fun a b => Ordering.sign (a.compare b) < 0) ∧
      ∀ names : List String, names.Perm p.scenarios.keys →
        ∀ out, ScenarioKey.SortsTo (names.filterMap ScenarioKey.ofName?) out →
          out = p.scenarioKeys := by
  refine ⟨fun a b => ⟨?_, ScenarioKey.sign_compare_swap a b, ScenarioKey.sign_compare_eq_zero_iff⟩,
    fun a b c => ⟨ScenarioKey.sign_compare_trans_nonpos, ScenarioKey.sign_compare_trans_neg⟩,
    fun p => ⟨fun k => mem_scenarioKeys_iff_parse, p.scenarioKeys_raw_perm,
      p.scenarioKeys_ascending, fun names enumerated out sorted =>
        eq_scenarioKeys_of_sortsTo enumerated sorted⟩⟩
  rw [Ordering.sign_neg_iff]
  exact ScenarioKey.compare_eq_lt_iff

/-- Two spellings of one scenario and a name that is no key, enumerated in reverse. -/
def spellingSample : ParamTable :=
  { scenarios := ((((∅ : Std.TreeMap String Scenario).insert "100000_5m" {}).insert
      "100000_05m" {}).insert "40000_300m" {}).insert "vendor" {} }

/-- Enumerated in reverse and sorted, the names give `40000_300m` first and the two spellings of
`100000_5m` in text order. -/
theorem scenarioKeys_lex_sorted_unique_sample :
    ["vendor", "40000_300m", "100000_5m", "100000_05m"].Perm spellingSample.scenarios.keys ∧
    ScenarioKey.SortsTo
      (["vendor", "40000_300m", "100000_5m", "100000_05m"].filterMap ScenarioKey.ofName?)
      [⟨40000, 300, "40000_300m"⟩, ⟨100000, 5, "100000_05m"⟩, ⟨100000, 5, "100000_5m"⟩] ∧
    spellingSample.scenarioKeys =
      [⟨40000, 300, "40000_300m"⟩, ⟨100000, 5, "100000_05m"⟩, ⟨100000, 5, "100000_5m"⟩] := by
  have enumerated :
      ["vendor", "40000_300m", "100000_5m", "100000_05m"].Perm spellingSample.scenarios.keys := by
    decide
  have sorted : ScenarioKey.SortsTo
      (["vendor", "40000_300m", "100000_5m", "100000_05m"].filterMap ScenarioKey.ofName?)
      [⟨40000, 300, "40000_300m"⟩, ⟨100000, 5, "100000_05m"⟩, ⟨100000, 5, "100000_5m"⟩] :=
    ⟨by decide, by decide⟩
  exact ⟨enumerated, sorted,
    ((scenarioKeys_lex_sorted_unique.2.2 spellingSample).2.2.2 _ enumerated _ sorted).symm⟩

end ParamTable

end LosslessBuffer
