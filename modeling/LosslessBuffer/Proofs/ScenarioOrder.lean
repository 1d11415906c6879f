import LosslessBuffer.Params.Defaults
import LosslessBuffer.Proofs.Maps
/-!
# The order of scenario keys and the choice of a reference

`ScenarioKey.compare` is the lexicographic order on speed, cable length and the key as
written, so it is a lawful total order: transitive, oriented, and equal only on equal keys.
Sorting the keys of a table by it (`ScenarioKey.sortedOf`) therefore gives the one ascending
list of the keys, whatever order the names came in (`sortedOf_congr`), and leaving out the
keys written one way commutes with sorting (`filter_sortedOf`).

The reference scenario of a target (`ParamTable.reference`) is chosen by
`ScenarioKey.nearestTo` among the other keys. Its choice depends on the table only through
those other keys once the table has two (`nearestTo_congr`), it is one of them
(`ParamTable.reference_mem`), and it fails only for lack of keys. So adding the target to
a table that lacks it leaves the reference as it was (`ParamTable.reference_of_insert`):
a completed table chooses the same reference as the table it was completed from.
-/

set_option autoImplicit false

namespace LosslessBuffer

namespace ScenarioKey

/-! ## A lawful total order -/

instance : Std.TransCmp ScenarioKey.compare :=
  inferInstanceAs (Std.TransCmp (compareLex (compareLex (compareOn ScenarioKey.speed)
    (compareOn ScenarioKey.cableLength)) (compareOn ScenarioKey.raw)))

instance : Std.LawfulEqCmp ScenarioKey.compare where
  eq_of_compare {a b} h := by
    simp only [ScenarioKey.compare, ScenarioKey.compareNumeric, Ordering.then_eq_eq,
      Std.LawfulEqOrd.compare_eq_iff_eq] at h
    cases a; cases b
    simp_all

theorem eq_of_isLE_of_isLE {a b : ScenarioKey} (hab : (a.compare b).isLE)
    (hba : (b.compare a).isLE) : a = b := by
  have same : a.compare b = .eq := Std.OrientedCmp.isLE_antisymm hab hba
  exact Std.LawfulEqCmp.eq_of_compare same

/-- Lists ascending in key order that hold the same keys are equal. -/
theorem eq_of_perm_of_sorted {l l' : List ScenarioKey}
    (hl : l.Pairwise fun a b => (a.compare b).isLE)
    (hl' : l'.Pairwise fun a b => (a.compare b).isLE) (hperm : l.Perm l') : l = l' :=
  hperm.eq_of_pairwise (fun _ _ _ _ hab hba => eq_of_isLE_of_isLE hab hba) hl hl'

/-! ## Reading and sorting names -/

/-- A name read as a scenario key, if it is one. -/
def ofName? (name : String) : Option ScenarioKey :=
  match parse name with
  | .ok key => some key
  | .error _ => none

/-- A key keeps the text it was read from. -/
theorem raw_of_parse {s : String} {k : ScenarioKey} (h : parse s = .ok k) : k.raw = s := by
  unfold parse at h
  simp only at h
  split at h
  next =>
    split at h
    next =>
      split at h
      next => cases h; rfl
      next => cases h
    next => cases h
  next => cases h

theorem ofName?_eq_some_iff {name : String} {k : ScenarioKey} :
    ofName? name = some k ↔ parse name = .ok k := by
  unfold ofName?
  cases parse name with
  | ok k' => simp
  | error e => simp

theorem raw_of_ofName? {name : String} {k : ScenarioKey} (h : ofName? name = some k) :
    k.raw = name :=
  raw_of_parse (ofName?_eq_some_iff.1 h)

theorem sortedOf_eq (names : List String) :
    sortedOf names = (names.filterMap ofName?).mergeSort fun a b => a.compare b != .gt := rfl

theorem ne_gt_eq_isLE (a b : ScenarioKey) : (a.compare b != .gt) = (a.compare b).isLE := by
  cases a.compare b <;> rfl

theorem sortedOf_pairwise (names : List String) :
    (sortedOf names).Pairwise fun a b => (a.compare b).isLE := by
  have sorted : ((names.filterMap ofName?).mergeSort fun a b => a.compare b != .gt).Pairwise
      fun a b => (a.compare b != .gt) = true := List.pairwise_mergeSort
    (fun a b c hab hbc => by
      rw [ne_gt_eq_isLE] at *
      exact Std.TransCmp.isLE_trans hab hbc)
    (fun a b => by
      rw [ne_gt_eq_isLE, ne_gt_eq_isLE]
      cases h : a.compare b
      · simp
      · simp
      · rw [Std.OrientedCmp.gt_iff_lt.mp h]; simp)
    (names.filterMap ofName?)
  simpa only [sortedOf_eq, ne_gt_eq_isLE] using sorted

theorem sortedOf_perm (names : List String) :
    (sortedOf names).Perm (names.filterMap ofName?) :=
  List.mergeSort_perm _ _

/-- Sorting does not see the order the names came in. -/
theorem sortedOf_congr {names names' : List String} (h : names.Perm names') :
    sortedOf names = sortedOf names' :=
  eq_of_perm_of_sorted (sortedOf_pairwise names) (sortedOf_pairwise names')
    (((sortedOf_perm names).trans (h.filterMap _)).trans (sortedOf_perm names').symm)

/-- Leaving out the keys written as `r` after sorting is sorting without the name `r`. -/
theorem filter_sortedOf (names : List String) (r : String) :
    (sortedOf names).filter (fun k => k.raw != r) = sortedOf (names.filter (· != r)) := by
  have parsed : (names.filterMap ofName?).filter (fun k => k.raw != r) =
      (names.filter (· != r)).filterMap ofName? := by
    rw [List.filter_filterMap, List.filterMap_filter]
    congr 1
    funext name
    cases h : ofName? name with
    | none => simp
    | some k => simp [Option.filter, raw_of_ofName? h]
  refine eq_of_perm_of_sorted ((sortedOf_pairwise names).filter _) (sortedOf_pairwise _) ?_
  refine ((sortedOf_perm names).filter _).trans ?_
  rw [parsed]
  exact (sortedOf_perm _).symm

theorem mem_sortedOf {names : List String} {k : ScenarioKey} :
    k ∈ sortedOf names ↔ k.raw ∈ names ∧ ofName? k.raw = some k := by
  rw [(sortedOf_perm names).mem_iff, List.mem_filterMap]
  constructor
  · rintro ⟨name, hname, hk⟩
    rw [raw_of_ofName? hk]
    exact ⟨hname, hk⟩
  · rintro ⟨hname, hk⟩
    exact ⟨k.raw, hname, hk⟩

/-- Distinct names give keys written distinctly. -/
theorem sortedOf_distinct {names : List String} (h : names.Nodup) :
    (sortedOf names).Pairwise (·.raw ≠ ·.raw) := by
  have raws : ((names.filterMap ofName?).map (·.raw)).Nodup := by
    rw [List.map_filterMap]
    refine List.Pairwise.filterMap _ (fun a a' different b hb b' hb' => ?_) h
    simp only [Option.map_eq_some_iff] at hb hb'
    obtain ⟨k, hk, rfl⟩ := hb
    obtain ⟨k', hk', rfl⟩ := hb'
    rwa [raw_of_ofName? hk, raw_of_ofName? hk']
  exact List.pairwise_map.1 (((sortedOf_perm names).map _).nodup_iff.2 raws)

/-! ## The choice of a reference -/

/-- The choice depends on the keys only through the other keys, once there are two. -/
theorem nearestTo_congr {keys keys' : List ScenarioKey} {t : ScenarioKey}
    (enough : 2 ≤ keys.length) (enough' : 2 ≤ keys'.length)
    (same : keys.filter (·.raw != t.raw) = keys'.filter (·.raw != t.raw)) :
    nearestTo keys t = nearestTo keys' t := by
  simp only [nearestTo, show ¬ keys.length < 2 by omega, show ¬ keys'.length < 2 by omega,
    if_false, same]

/-- The choice fails only for lack of keys. -/
theorem nearestTo_error {keys : List ScenarioKey} {t : ScenarioKey} {fault : Fault}
    (h : nearestTo keys t = .error fault) :
    keys.length < 2 ∧ fault.cause? = some .insufficientReferenceData := by
  unfold nearestTo at h
  split at h
  next few => cases h; exact ⟨few, rfl⟩
  next =>
    simp only at h
    split at h
    · cases h
    · split at h
      · cases h
      · split at h <;> cases h

theorem nearestTo_ok_iff {keys : List ScenarioKey} {t : ScenarioKey} :
    (∃ r, nearestTo keys t = .ok r) ↔ 2 ≤ keys.length := by
  constructor
  · rintro ⟨r, h⟩
    rcases Nat.lt_or_ge keys.length 2 with few | enough
    · unfold nearestTo at h
      rw [if_pos few] at h
      cases h
    · exact enough
  · intro enough
    cases h : nearestTo keys t with
    | ok r => exact ⟨r, rfl⟩
    | error f => exact absurd (nearestTo_error h).1 (by omega)

/-- The reference is one of the other keys, when no two keys are written alike. -/
theorem nearestTo_mem {keys : List ScenarioKey} {t ref : ScenarioKey} {equivalent : Bool}
    (distinct : keys.Pairwise (·.raw ≠ ·.raw)) (h : nearestTo keys t = .ok (ref, equivalent)) :
    ref ∈ keys ∧ ref.raw ≠ t.raw := by
  have candidate : ∀ k, k ∈ keys.filter (·.raw != t.raw) → k ∈ keys ∧ k.raw ≠ t.raw := by
    intro k hk
    simpa using hk
  unfold nearestTo at h
  split at h
  next => cases h
  next enough =>
    simp only at h
    split at h
    next k found => cases h; exact candidate _ (List.mem_of_find?_eq_some found)
    next =>
      split at h
      next k found => cases h; exact candidate _ (List.mem_of_find?_eq_some found)
      next =>
        split at h
        next k last => cases h; exact candidate _ (List.mem_of_getLast? last)
        next none =>
          exfalso
          rw [List.getLast?_eq_none_iff, List.filter_eq_nil_iff] at none
          match keys, distinct, enough, none with
          | [], _, enough, _ => simp at enough
          | [_], _, enough, _ => simp at enough
          | a :: b :: _, distinct, _, none =>
            have ha : a.raw = t.raw := by simpa using none a (by simp)
            have hb : b.raw = t.raw := by simpa using none b (by simp)
            exact (List.rel_of_pairwise_cons distinct (by simp)) (ha.trans hb.symm)

theorem compareNumeric_eq_iff (a b : ScenarioKey) :
    a.compareNumeric b = .eq ↔ a.speed = b.speed ∧ a.cableLength = b.cableLength := by
  simp only [compareNumeric, Ordering.then_eq_eq, Std.LawfulEqOrd.compare_eq_iff_eq]

/-- The choice reports a reference as equivalent exactly when it has the target's speed and
cable length. -/
theorem nearestTo_equivalent {keys : List ScenarioKey} {t ref : ScenarioKey} {equivalent : Bool}
    (distinct : keys.Pairwise (·.raw ≠ ·.raw)) (h : nearestTo keys t = .ok (ref, equivalent)) :
    equivalent = decide (ref.speed = t.speed ∧ ref.cableLength = t.cableLength) := by
  have candidate : ref ∈ keys.filter (·.raw != t.raw) := by
    obtain ⟨member, other⟩ := nearestTo_mem distinct h
    simpa [member] using other
  simp only [← compareNumeric_eq_iff]
  unfold nearestTo at h
  split at h
  next => cases h
  next =>
    simp only at h
    split at h
    next k found =>
      cases h
      simpa using List.find?_some found
    next none =>
      have unequal := List.find?_eq_none.1 none ref candidate
      split at h
      next => cases h; simpa using unequal
      next => split at h <;> (cases h; simpa using unequal)

end ScenarioKey

namespace ParamTable

/-! ## The keys of a table -/

theorem scenarioKeys_eq_of_mem_iff {p q : ParamTable}
    (h : ∀ k, k ∈ p.scenarios ↔ k ∈ q.scenarios) : p.scenarioKeys = q.scenarioKeys := by
  unfold scenarioKeys
  rw [Std.TreeMap.keys_eq_of_mem_iff h]

theorem mem_scenarioKeys {p : ParamTable} {k : ScenarioKey} :
    k ∈ p.scenarioKeys ↔ k.raw ∈ p.scenarios ∧ ScenarioKey.ofName? k.raw = some k := by
  rw [scenarioKeys, ScenarioKey.mem_sortedOf, Std.TreeMap.mem_keys]

theorem mem_scenarioKeys_iff_parse {p : ParamTable} {k : ScenarioKey} :
    k ∈ p.scenarioKeys ↔ k.raw ∈ p.scenarios ∧ ScenarioKey.parse k.raw = .ok k := by
  rw [mem_scenarioKeys, ScenarioKey.ofName?_eq_some_iff]

theorem scenarioKeys_distinct (p : ParamTable) : p.scenarioKeys.Pairwise (·.raw ≠ ·.raw) :=
  ScenarioKey.sortedOf_distinct p.scenarios.nodup_keys

/-- Tables whose scenarios agree off the name `r` have the same keys not written `r`. -/
theorem scenarioKeys_filter_congr {p q : ParamTable} {r : String}
    (h : ∀ k, k ≠ r → (k ∈ p.scenarios ↔ k ∈ q.scenarios)) :
    p.scenarioKeys.filter (·.raw != r) = q.scenarioKeys.filter (·.raw != r) := by
  unfold scenarioKeys
  rw [ScenarioKey.filter_sortedOf, ScenarioKey.filter_sortedOf]
  apply ScenarioKey.sortedOf_congr
  refine (List.perm_ext_iff_of_nodup (p.scenarios.nodup_keys.filter _)
    (q.scenarios.nodup_keys.filter _)).2 fun k => ?_
  by_cases hk : k = r
  · simp [hk]
  · simp [hk, h k hk]

/-! ## The reference scenario of a target -/

/-- The reference scenario of a target: the key `nearestTo` chooses among the keys of the
table, if the table has enough scenarios to choose from. -/
def reference (p : ParamTable) (t : ScenarioKey) : Option ScenarioKey :=
  match ScenarioKey.nearestTo p.scenarioKeys t with
  | .ok (key, _) => some key
  | .error _ => none

theorem reference_eq_some {p : ParamTable} {t ref : ScenarioKey} {equivalent : Bool}
    (h : ScenarioKey.nearestTo p.scenarioKeys t = .ok (ref, equivalent)) :
    p.reference t = some ref := by
  simp [reference, h]

theorem reference_eq_none {p : ParamTable} {t : ScenarioKey} {fault : Fault}
    (h : ScenarioKey.nearestTo p.scenarioKeys t = .error fault) : p.reference t = none := by
  simp [reference, h]

/-- The reference is another scenario of the table. -/
theorem reference_mem {p : ParamTable} {t ref : ScenarioKey} (h : p.reference t = some ref) :
    ref.raw ∈ p.scenarios ∧ ref.raw ≠ t.raw := by
  unfold reference at h
  split at h
  next key equivalent found =>
    cases h
    have chosen := ScenarioKey.nearestTo_mem p.scenarioKeys_distinct found
    exact ⟨(mem_scenarioKeys.1 chosen.1).1, chosen.2⟩
  next => cases h

theorem reference_eq_of_mem_iff {p q : ParamTable} (t : ScenarioKey)
    (h : ∀ k, k ∈ p.scenarios ↔ k ∈ q.scenarios) : p.reference t = q.reference t := by
  simp only [reference, scenarioKeys_eq_of_mem_iff h]

/-- Adding the target to a table that lacks it leaves the reference as it was. -/
theorem reference_of_insert {p q : ParamTable} {t ref : ScenarioKey}
    (absent : t.raw ∉ p.scenarios) (added : ∀ k, k ∈ q.scenarios ↔ k ∈ p.scenarios ∨ k = t.raw)
    (h : p.reference t = some ref) : q.reference t = some ref := by
  have others : p.scenarioKeys.filter (·.raw != t.raw) = q.scenarioKeys.filter (·.raw != t.raw) :=
    scenarioKeys_filter_congr fun k hk => by simp [added k, hk]
  have whole : p.scenarioKeys.filter (·.raw != t.raw) = p.scenarioKeys := by
    refine List.filter_eq_self.2 fun k hk => ?_
    have present := (mem_scenarioKeys.1 hk).1
    simp only [bne_iff_ne, ne_eq]
    rintro same
    exact absent (same ▸ present)
  unfold reference at h ⊢
  split at h
  next key equivalent found =>
    have enough : 2 ≤ p.scenarioKeys.length := ScenarioKey.nearestTo_ok_iff.1 ⟨_, found⟩
    have enough' : 2 ≤ q.scenarioKeys.length := by
      have := List.length_filter_le (·.raw != t.raw) q.scenarioKeys
      rw [← others, whole] at this
      omega
    rw [ScenarioKey.nearestTo_congr enough' enough others.symm, found]
    exact h
  next => cases h

end ParamTable

end LosslessBuffer
