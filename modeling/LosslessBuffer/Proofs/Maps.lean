import Std.Data.TreeMap
import LosslessBuffer.Text.Bytes
/-!
# Ordered maps

The tables of the calculation are `Std.TreeMap`s, compared as values: two runs that write
the same bindings must give equal maps, not only maps with the same lookups. Two facts
carry that:

* writing a key with the value it already has gives back the same map, tree and all
  (`Std.TreeMap.insert_eq_self_of_getElem?`); the insertion descends to the node of the key
  and replaces it by a node with the same key and value, and every rebalancing on the way
  back up is the identity on a tree that was balanced before;
* the list of keys is determined by which keys are present
  (`Std.TreeMap.keys_eq_of_mem_iff`), since it is strictly ascending.

Inserting the entries of one map into another, as a table is flattened, gives each key of
the first its value there and leaves the other keys as they were
(`Std.TreeMap.getElem?_foldl_insert`).

The buffer configuration keys its maps by byte strings. Their order is the lexicographic
order of the lists of bytes (`Bytes.compare_eq`), so it is a lawful total order and the
library's lemmas about maps apply to them.
-/

set_option autoImplicit false

namespace Std.DTreeMap.Internal.Impl

variable {α β : Type} [Ord α] [LawfulEqOrd α]

/-- Inserting a binding a balanced tree already has returns the tree. -/
theorem insert_impl_eq_self_of_get? {k : α} {v : β} :
    ∀ (t : Impl α (fun _ => β)) (hb : t.Balanced), Impl.Const.get? t k = some v →
      (t.insert k v hb).impl = t
  | .leaf, _, h => by simp [Impl.Const.get?] at h
  | .inner sz k' v' l r, hb, h => by
    rw [Impl.insert]
    unfold Impl.Const.get? at h
    split
    next below =>
      rw [below] at h
      have ih := insert_impl_eq_self_of_get? l hb.left h
      simp only [balanceL_eq_balance, ih]
      exact balance_eq_inner hb
    next above =>
      rw [above] at h
      have ih := insert_impl_eq_self_of_get? r hb.right h
      simp only [balanceR_eq_balance, ih]
      exact balance_eq_inner hb
    next here =>
      rw [here] at h
      cases h
      rw [compare_eq_iff_eq.mp here]

end Std.DTreeMap.Internal.Impl

namespace Std.TreeMap

variable {α β : Type} {cmp : α → α → Ordering}

theorem mem_of_getElem?_eq_some [TransCmp cmp] {m : TreeMap α β cmp} {k : α} {v : β}
    (found : m[k]? = some v) : k ∈ m :=
  mem_iff_isSome_getElem?.2 (by rw [found]; rfl)

theorem getElem?_ne_none_of_mem [TransCmp cmp] {m : TreeMap α β cmp} {k : α} (member : k ∈ m) :
    m[k]? ≠ none :=
  Option.isSome_iff_ne_none.1 (mem_iff_isSome_getElem?.1 member)

/-- Writing a key with the value it already has gives back the same map. -/
theorem insert_eq_self_of_getElem? [LawfulEqCmp cmp] {m : TreeMap α β cmp} {k : α} {v : β}
    (h : m[k]? = some v) : m.insert k v = m := by
  let _ : Ord α := ⟨cmp⟩
  have _ : LawfulEqOrd α := ‹LawfulEqCmp cmp›
  obtain ⟨⟨t, wf⟩⟩ := m
  show TreeMap.mk ⟨_, _⟩ = _
  congr 2
  exact DTreeMap.Internal.Impl.insert_impl_eq_self_of_get? t wf.balanced h

theorem getElem?_foldl_insert_list [TransCmp cmp] [LawfulEqCmp cmp] {γ : Type} (f : β → γ)
    (k : α) : ∀ (l : List (α × β)) (init : TreeMap α γ cmp),
    l.Pairwise (fun a b => ¬ cmp a.1 b.1 = .eq) →
    (l.foldl (fun out entry => out.insert entry.1 (f entry.2)) init)[k]? =
      ((l.find? (cmp ·.1 k == .eq)).map (f ·.2)).or init[k]?
  | [], init, _ => rfl
  | entry :: rest, init, distinct => by
    obtain ⟨fresh, distinct⟩ := List.pairwise_cons.1 distinct
    rw [List.foldl_cons, getElem?_foldl_insert_list f k rest _ distinct]
    by_cases here : cmp entry.1 k = .eq
    · -- the later entries have other keys, so this one is the last write of `k`
      have later : rest.find? (cmp ·.1 k == .eq) = none := by
        refine List.find?_eq_none.2 fun other member same => ?_
        have := fresh other member
        simp only [beq_iff_eq] at same
        exact this (by rw [LawfulEqCmp.compare_eq_iff_eq.1 here,
          LawfulEqCmp.compare_eq_iff_eq.1 same, LawfulEqCmp.compare_eq_iff_eq])
      simp [later, LawfulEqCmp.compare_eq_iff_eq.1 here]
    · simp [here, getElem?_insert]

/-- Inserting every entry of `m`, mapped by `f`, into `init`: the keys of `m` take their
mapped values, and every other key keeps its value in `init`. -/
theorem getElem?_foldl_insert [TransCmp cmp] [LawfulEqCmp cmp] {γ : Type} (m : TreeMap α β cmp)
    (init : TreeMap α γ cmp) (f : β → γ) (k : α) :
    (m.foldl (fun out key v => out.insert key (f v)) init)[k]? = (m[k]?.map f).or init[k]? := by
  rw [foldl_eq_foldl_toList, getElem?_foldl_insert_list f k _ _ distinct_keys_toList]
  cases found : m[k]? with
  | none =>
    have absent : m.toList.find? (cmp ·.1 k == .eq) = none :=
      find?_toList_eq_none_iff_not_mem.2 fun member =>
        absurd found (getElem?_ne_none_of_mem member)
    rw [absent]
    rfl
  | some v =>
    obtain ⟨k', v', listed⟩ : ∃ k' v', m.toList.find? (cmp ·.1 k == .eq) = some (k', v') := by
      cases h : m.toList.find? (cmp ·.1 k == .eq) with
      | none =>
        exact absurd (mem_of_getElem?_eq_some found) (find?_toList_eq_none_iff_not_mem.1 h)
      | some entry => exact ⟨entry.1, entry.2, rfl⟩
    rw [listed]
    obtain ⟨-, same⟩ := find?_toList_eq_some_iff_getKey?_eq_some_and_getElem?_eq_some.1 listed
    rw [found] at same
    cases same
    rfl

/-- Two maps with the same keys list them alike. -/
theorem keys_eq_of_mem_iff [TransCmp cmp] [LawfulEqCmp cmp] {m m' : TreeMap α β cmp}
    (h : ∀ k, k ∈ m ↔ k ∈ m') : m.keys = m'.keys := by
  have hperm : m.keys.Perm m'.keys :=
    (List.perm_ext_iff_of_nodup m.nodup_keys m'.nodup_keys).2 fun k => by simp [h k]
  -- both lists ascend strictly, so no two of their elements are ordered both ways
  refine hperm.eq_of_pairwise (fun a b _ _ hab hba => ?_) m.ordered_keys m'.ordered_keys
  have swapped : cmp b a = (cmp a b).swap := OrientedCmp.eq_swap
  rw [swapped, hab] at hba
  cases hba

end Std.TreeMap

namespace LosslessBuffer.Text

theorem compareBytes_eq_compare : ∀ a b : List UInt8, compareBytes a b = compare a b
  | [], [] => rfl
  | [], _ :: _ => rfl
  | _ :: _, [] => rfl
  | x :: xs, y :: ys => by
    rw [compareBytes, List.compare_cons_cons, compareBytes_eq_compare xs ys]

/-- Byte strings are ordered as their lists of bytes. -/
theorem Bytes.compare_eq (a b : Bytes) : compare a b = compare a.toList b.toList :=
  compareBytes_eq_compare a.toList b.toList

instance : Std.OrientedCmp (compare : Bytes → Bytes → Ordering) where
  eq_swap {a b} := by
    rw [Bytes.compare_eq, Bytes.compare_eq]
    exact Std.OrientedCmp.eq_swap

instance : Std.TransCmp (compare : Bytes → Bytes → Ordering) where
  isLE_trans {a b c} hab hbc := by
    rw [Bytes.compare_eq] at hab hbc ⊢
    exact Std.TransCmp.isLE_trans hab hbc

instance : Std.LawfulEqCmp (compare : Bytes → Bytes → Ordering) where
  eq_of_compare {a b} h := by
    rw [Bytes.compare_eq] at h
    cases a
    cases b
    congr
    exact Std.LawfulEqCmp.eq_of_compare h

end LosslessBuffer.Text
