import LosslessBuffer.Params.Text
import LosslessBuffer.Proofs.ScenarioKeys
/-!
# Writing a parameter table and reading it back

A parameter table is written by flattening it into one mapping (`ParamTable.marshal`) and
handing that to a YAML library, and read back by routing the entries of the text's root
mapping (`ParamTable.readWith`). Of the library only this is assumed
(`YamlCodec.ReadsBack`): the text it writes for a mapping has a root mapping with one entry
per key written; a sub-profile comes back as a mapping that decodes to its counts, its flag,
and its extra values as the library's `reread` turns them; a scenario block comes back as a
mapping whose entries show its own the same way; and any other value comes back as a node
that is no mapping and decodes to it as `reread` turns it. A library need not give back the
values it was given: one that writes a whole double without a point reads it back as an
integer.

Under that assumption the table read back is the one written, entry by entry, with each
value as `reread` turns it (`ParamTable.ReadsAs`). It is the same table (`ParamTable.Same`)
exactly when the table keeps its values (`ParamTable.Keeps`): its scenarios, defaults and
other values share no key, nor do the sub-profiles and settings of a scenario block, since
flattening lets one part replace another; and every value it holds reads back as the same
value (`table_round_trip`). Values are the same when they are equal, except that maps are
compared by their entries in any order, as a decoder's maps are.
-/

set_option autoImplicit false

namespace LosslessBuffer

open LosslessBuffer.Yaml
open LosslessBuffer.Text

/-! ## The same table -/

mutual

/-- Two decoded values are the same value: equal, except that maps are compared by their
entries in any order. -/
def Yaml.Value.Same : Value → Value → Prop
  | .null, .null => True
  | .bool a, .bool b => a = b
  | .int a, .int b => a = b
  | .uint a, .uint b => a = b
  | .float a, .float b => a = b
  | .string a, .string b => a = b
  | .time a, .time b => a = b
  | .list items, .list items' => Yaml.Value.SameItems items items'
  | .map entries textKeys, .map entries' textKeys' =>
    textKeys = textKeys' ∧ ∃ reordered, reordered.Perm entries' ∧
      Yaml.Value.SameEntries entries reordered
  | _, _ => False

/-- Two lists of values that are the same item by item. -/
def Yaml.Value.SameItems : List Value → List Value → Prop
  | [], [] => True
  | v :: items, v' :: items' => v.Same v' ∧ Yaml.Value.SameItems items items'
  | _, _ => False

/-- Two lists of map entries that are the same entry by entry. -/
def Yaml.Value.SameEntries : List (Value × Value) → List (Value × Value) → Prop
  | [], [] => True
  | (k, v) :: entries, (k', v') :: entries' =>
    k.Same k' ∧ v.Same v' ∧ Yaml.Value.SameEntries entries entries'
  | _, _ => False

end

mutual

theorem Yaml.Value.same_refl : ∀ v : Value, v.Same v
  | .null => trivial
  | .bool _ => rfl
  | .int _ => rfl
  | .uint _ => rfl
  | .float _ => rfl
  | .string _ => rfl
  | .time _ => rfl
  | .list items => Yaml.Value.sameItems_refl items
  | .map entries _ => ⟨rfl, entries, List.Perm.refl _, Yaml.Value.sameEntries_refl entries⟩

theorem Yaml.Value.sameItems_refl : ∀ items : List Value, Yaml.Value.SameItems items items
  | [] => trivial
  | v :: items => ⟨Yaml.Value.same_refl v, Yaml.Value.sameItems_refl items⟩

theorem Yaml.Value.sameEntries_refl :
    ∀ entries : List (Value × Value), Yaml.Value.SameEntries entries entries
  | [] => trivial
  | (k, v) :: entries =>
    ⟨Yaml.Value.same_refl k, Yaml.Value.same_refl v, Yaml.Value.sameEntries_refl entries⟩

end

/-- Two sub-profiles are the same: the same counts and flag, and the same extra values under
the same keys. -/
structure SubProfile.Same (a b : SubProfile) : Prop where
  counts : ∀ c, a.get c = b.get c
  flag : a.dynamicThreshold = b.dynamicThreshold
  extra : ∀ key : Bytes, Option.Rel Value.Same a.extra[key]? b.extra[key]?

/-- Two scenario blocks are the same: the same sub-profiles and settings under the same
keys. -/
structure Scenario.Same (s s' : Scenario) : Prop where
  profiles : ∀ key : String, Option.Rel SubProfile.Same s.profiles[key]? s'.profiles[key]?
  other : ∀ key : String, Option.Rel Value.Same s.other[key]? s'.other[key]?

/-- Two tables are the same: the same scenario blocks, defaults and other values under the
same keys. -/
structure ParamTable.Same (p q : ParamTable) : Prop where
  scenarios : ∀ key : String, Option.Rel Scenario.Same p.scenarios[key]? q.scenarios[key]?
  defaults : ∀ key : String, Option.Rel SubProfile.Same p.defaults[key]? q.defaults[key]?
  other : ∀ key : String, Option.Rel Value.Same p.other[key]? q.other[key]?

/-! ## The entries of a flattened table -/

def BlockItem.setting? : BlockItem → Option Value
  | .setting v => some v
  | .profile _ => none

def BlockItem.profile? : BlockItem → Option SubProfile
  | .setting _ => none
  | .profile t => some t

def TableItem.setting? : TableItem → Option Value
  | .setting v => some v
  | _ => none

def TableItem.profile? : TableItem → Option SubProfile
  | .profile t => some t
  | _ => none

def TableItem.block? : TableItem → Option (Std.TreeMap String BlockItem)
  | .block items => some items
  | _ => none

/-- Under `key` an entry of a table is read back into its own part: a scenario block's key
parses as a scenario key, and a default's does not. -/
def TableItem.RoutedAt (key : String) : TableItem → Prop
  | .setting _ => True
  | .profile _ => (ScenarioKey.parse key).toBool = false
  | .block _ => (ScenarioKey.parse key).toBool = true

namespace Scenario

variable (s : Scenario) (key : String)

/-- A flattened scenario block holds its sub-profiles, and its settings under the other
keys. -/
theorem marshal_getElem? :
    s.marshal[key]? = (s.profiles[key]?.map .profile).or (s.other[key]?.map .setting) := by
  unfold marshal
  rw [Std.TreeMap.getElem?_foldl_insert, Std.TreeMap.getElem?_foldl_insert,
    Std.TreeMap.getElem?_emptyc, Option.or_none]

theorem marshal_profile? : s.marshal[key]?.bind BlockItem.profile? = s.profiles[key]? := by
  rw [marshal_getElem?]
  cases s.profiles[key]? <;> cases s.other[key]? <;> rfl

theorem marshal_setting? :
    s.marshal[key]?.bind BlockItem.setting? =
      if key ∈ s.profiles then none else s.other[key]? := by
  simp only [marshal_getElem?, Std.TreeMap.mem_iff_isSome_getElem?]
  cases s.profiles[key]? <;> cases s.other[key]? <;> rfl

end Scenario

namespace ParamTable

variable (p : ParamTable) (key : String)

/-- A flattened table holds its scenario blocks, its defaults under the other keys, and its
other values under the keys left. -/
theorem marshal_getElem? :
    p.marshal[key]? = (p.scenarios[key]?.map fun s => .block s.marshal).or
      ((p.defaults[key]?.map .profile).or (p.other[key]?.map .setting)) := by
  unfold marshal
  rw [Std.TreeMap.getElem?_foldl_insert, Std.TreeMap.getElem?_foldl_insert,
    Std.TreeMap.getElem?_foldl_insert, Std.TreeMap.getElem?_emptyc, Option.or_none]

theorem marshal_block? :
    p.marshal[key]?.bind TableItem.block? = p.scenarios[key]?.map Scenario.marshal := by
  rw [marshal_getElem?]
  cases p.scenarios[key]? <;> cases p.defaults[key]? <;> cases p.other[key]? <;> rfl

theorem marshal_profile? :
    p.marshal[key]?.bind TableItem.profile? =
      if key ∈ p.scenarios then none else p.defaults[key]? := by
  simp only [marshal_getElem?, Std.TreeMap.mem_iff_isSome_getElem?]
  cases p.scenarios[key]? <;> cases p.defaults[key]? <;> cases p.other[key]? <;> rfl

theorem marshal_setting? :
    p.marshal[key]?.bind TableItem.setting? =
      if key ∈ p.scenarios ∨ key ∈ p.defaults then none else p.other[key]? := by
  simp only [marshal_getElem?, Std.TreeMap.mem_iff_isSome_getElem?]
  cases p.scenarios[key]? <;> cases p.defaults[key]? <;> cases p.other[key]? <;> rfl

end ParamTable

/-! ## What is read back, and when it is the same -/

variable {reread : Value → Value}

/-- `a` is sub-profile `t` read back: the same counts and flag, and its extra values as
`reread` turns them. -/
structure SubProfile.ReadsAs (reread : Value → Value) (a t : SubProfile) : Prop where
  counts : ∀ c, a.get c = t.get c
  flag : a.dynamicThreshold = t.dynamicThreshold
  extra : ∀ key : Bytes, a.extra[key]? = t.extra[key]?.map reread

/-- `s` is the flattened scenario block `items` read back: the sub-profiles read back, and
the settings as `reread` turns them. -/
structure Scenario.ReadsAs (reread : Value → Value) (s : Scenario)
    (items : Std.TreeMap String BlockItem) : Prop where
  profiles : ∀ key : String,
    Option.Rel (SubProfile.ReadsAs reread) s.profiles[key]? (items[key]?.bind BlockItem.profile?)
  other : ∀ key : String, s.other[key]? = (items[key]?.bind BlockItem.setting?).map reread

/-- `q` is the flattened table `items` read back: its scenario blocks, defaults and other
values each read back as the entries of their kind. -/
structure ParamTable.ReadsAs (reread : Value → Value) (q : ParamTable)
    (items : Std.TreeMap String TableItem) : Prop where
  scenarios : ∀ key : String,
    Option.Rel (Scenario.ReadsAs reread) q.scenarios[key]? (items[key]?.bind TableItem.block?)
  defaults : ∀ key : String,
    Option.Rel (SubProfile.ReadsAs reread) q.defaults[key]? (items[key]?.bind TableItem.profile?)
  other : ∀ key : String, q.other[key]? = (items[key]?.bind TableItem.setting?).map reread

/-- Every extra value of `t` reads back as the same value. -/
def SubProfile.Kept (reread : Value → Value) (t : SubProfile) : Prop :=
  ∀ (key : Bytes) (v : Value), t.extra[key]? = some v → (reread v).Same v

/-- A scenario block keeps its values: no key holds both a sub-profile and a setting, and
every value reads back as the same value. -/
structure Scenario.Keeps (reread : Value → Value) (s : Scenario) : Prop where
  disjoint : ∀ key, key ∈ s.profiles → key ∉ s.other
  profiles : ∀ (key : String) (t : SubProfile), s.profiles[key]? = some t → t.Kept reread
  other : ∀ (key : String) (v : Value), s.other[key]? = some v → (reread v).Same v

/-- A table keeps its values: its scenario blocks, defaults and other values share no key,
and every scenario block, default and other value keeps its values. -/
structure ParamTable.Keeps (reread : Value → Value) (p : ParamTable) : Prop where
  scenariosDefaults : ∀ key, key ∈ p.scenarios → key ∉ p.defaults
  scenariosOther : ∀ key, key ∈ p.scenarios → key ∉ p.other
  defaultsOther : ∀ key, key ∈ p.defaults → key ∉ p.other
  scenarios : ∀ (key : String) (s : Scenario), p.scenarios[key]? = some s → s.Keeps reread
  defaults : ∀ (key : String) (t : SubProfile), p.defaults[key]? = some t → t.Kept reread
  other : ∀ (key : String) (v : Value), p.other[key]? = some v → (reread v).Same v

/-- Values read back are the same exactly when each reads back as the same value. -/
theorem optionRel_same_map_iff (o : Option Value) :
    Option.Rel Value.Same (o.map reread) o ↔ ∀ v, o = some v → (reread v).Same v := by
  cases o with
  | none => exact ⟨fun _ _ absent => (nomatch absent), fun _ => .none⟩
  | some v =>
    refine ⟨fun same w found => ?_, fun kept => .some (kept v rfl)⟩
    cases found
    cases same with
    | some same => exact same

theorem SubProfile.ReadsAs.same_iff {a t : SubProfile} (h : a.ReadsAs reread t) :
    a.Same t ↔ t.Kept reread := by
  constructor
  · intro same key v found
    have extra := same.extra key
    rw [h.extra key, found] at extra
    exact (optionRel_same_map_iff (some v)).1 extra v rfl
  · intro kept
    refine ⟨h.counts, h.flag, fun key => ?_⟩
    rw [h.extra key]
    exact (optionRel_same_map_iff _).2 (kept key)

/-- Sub-profiles read back are the same exactly when each keeps its values. -/
theorem optionRel_readsAs_same_iff {o : Option SubProfile} {o' : Option SubProfile}
    (h : Option.Rel (SubProfile.ReadsAs reread) o' o) :
    Option.Rel SubProfile.Same o' o ↔ ∀ t, o = some t → t.Kept reread := by
  cases h with
  | none => exact ⟨fun _ _ absent => (nomatch absent), fun _ => .none⟩
  | some reads =>
    refine ⟨fun same t found => ?_, fun kept => .some (reads.same_iff.2 (kept _ rfl))⟩
    cases found
    cases same with
    | some same => exact reads.same_iff.1 same

/-- Nothing is the same as something. -/
theorem optionRel_none_left {α β : Type} {r : α → β → Prop} {o : Option β} :
    Option.Rel r none o ↔ o = none := by
  cases o with
  | none => exact ⟨fun _ => rfl, fun _ => .none⟩
  | some b => exact ⟨fun h => (nomatch h), fun h => (nomatch h)⟩

theorem optionRel_none_right {α β : Type} {r : α → β → Prop} {o : Option α} :
    Option.Rel r o none ↔ o = none := by
  cases o with
  | none => exact ⟨fun _ => rfl, fun _ => .none⟩
  | some a => exact ⟨fun h => (nomatch h), fun h => (nomatch h)⟩

/-- Values read back from a part that an earlier part shadows where `hidden` holds are the
same exactly when nothing there is shadowed and every value reads back as the same value. -/
theorem optionRel_shadowed_same_iff {hidden : Prop} [Decidable hidden] {o : Option Value} :
    Option.Rel Value.Same ((if hidden then none else o).map reread) o ↔
      (hidden → o = none) ∧ ∀ v, o = some v → (reread v).Same v := by
  by_cases shadowed : hidden
  · rw [if_pos shadowed, Option.map_none, optionRel_none_left]
    exact ⟨fun absent => ⟨fun _ => absent,
      fun v found => (Option.some_ne_none v (found.symm.trans absent)).elim⟩,
      fun kept => kept.1 shadowed⟩
  · rw [if_neg shadowed, optionRel_same_map_iff]
    exact ⟨fun kept => ⟨fun hid => absurd hid shadowed, kept⟩, fun kept => kept.2⟩

/-- Sub-profiles read back from a part that an earlier part shadows where `hidden` holds are
the same exactly when nothing there is shadowed and each keeps its values. -/
theorem optionRel_shadowed_readsAs_same_iff {hidden : Prop} [Decidable hidden]
    {o o' : Option SubProfile}
    (h : Option.Rel (SubProfile.ReadsAs reread) o' (if hidden then none else o)) :
    Option.Rel SubProfile.Same o' o ↔ (hidden → o = none) ∧ ∀ t, o = some t → t.Kept reread := by
  by_cases shadowed : hidden
  · rw [if_pos shadowed, optionRel_none_right] at h
    rw [h, optionRel_none_left]
    exact ⟨fun absent => ⟨fun _ => absent,
      fun t found => (Option.some_ne_none t (found.symm.trans absent)).elim⟩,
      fun kept => kept.1 shadowed⟩
  · rw [if_neg shadowed] at h
    rw [optionRel_readsAs_same_iff h]
    exact ⟨fun kept => ⟨fun hid => absurd hid shadowed, kept⟩, fun kept => kept.2⟩

/-- A scenario block read back is the same block exactly when the block keeps its values. -/
theorem Scenario.ReadsAs.same_iff {s' s : Scenario} (h : s'.ReadsAs reread s.marshal) :
    s'.Same s ↔ s.Keeps reread := by
  have profiles := fun key => optionRel_readsAs_same_iff (by
    simpa only [Scenario.marshal_profile?] using h.profiles key)
  have other : ∀ key, Option.Rel Value.Same s'.other[key]? s.other[key]? ↔
      (key ∈ s.profiles → s.other[key]? = none) ∧ ∀ v, s.other[key]? = some v → (reread v).Same v :=
    fun key => by rw [h.other key, Scenario.marshal_setting?, optionRel_shadowed_same_iff]
  constructor
  · intro same
    have kept := fun key => (other key).1 (same.other key)
    exact ⟨fun key member present =>
        Std.TreeMap.getElem?_ne_none_of_mem present ((kept key).1 member),
      fun key => (profiles key).1 (same.profiles key), fun key => (kept key).2⟩
  · intro keeps
    exact ⟨fun key => (profiles key).2 (keeps.profiles key), fun key => (other key).2
      ⟨fun member => Std.TreeMap.getElem?_eq_none (keeps.disjoint key member), keeps.other key⟩⟩

/-- Scenario blocks read back are the same exactly when each keeps its values. -/
theorem optionRel_scenario_same_iff {o : Option Scenario} {o' : Option Scenario}
    (h : Option.Rel (Scenario.ReadsAs reread) o' (o.map Scenario.marshal)) :
    Option.Rel Scenario.Same o' o ↔ ∀ s, o = some s → s.Keeps reread := by
  cases o with
  | none =>
    rw [Option.map_none, optionRel_none_right] at h
    subst h
    exact ⟨fun _ _ absent => (nomatch absent), fun _ => .none⟩
  | some s =>
    cases h with
    | some reads =>
      refine ⟨fun same s' found => ?_, fun keeps => .some (reads.same_iff.2 (keeps s rfl))⟩
      cases found
      cases same with
      | some same => exact reads.same_iff.1 same

/-- A table read back is the same table exactly when the table keeps its values. -/
theorem ParamTable.ReadsAs.same_iff {q p : ParamTable} (h : q.ReadsAs reread p.marshal) :
    q.Same p ↔ p.Keeps reread := by
  have scenarios := fun key => optionRel_scenario_same_iff (by
    simpa only [ParamTable.marshal_block?] using h.scenarios key)
  have read : ∀ key, Option.Rel (SubProfile.ReadsAs reread) q.defaults[key]?
      (if key ∈ p.scenarios then none else p.defaults[key]?) := fun key => by
    rw [← ParamTable.marshal_profile?]
    exact h.defaults key
  have defaults := fun key => optionRel_shadowed_readsAs_same_iff (read key)
  have other : ∀ key, Option.Rel Value.Same q.other[key]? p.other[key]? ↔
      (key ∈ p.scenarios ∨ key ∈ p.defaults → p.other[key]? = none) ∧
        ∀ v, p.other[key]? = some v → (reread v).Same v :=
    fun key => by rw [h.other key, ParamTable.marshal_setting?, optionRel_shadowed_same_iff]
  constructor
  · intro same
    have defaultsKept := fun key => (defaults key).1 (same.defaults key)
    have otherKept := fun key => (other key).1 (same.other key)
    exact ⟨fun key member present =>
        Std.TreeMap.getElem?_ne_none_of_mem present ((defaultsKept key).1 member),
      fun key member present =>
        Std.TreeMap.getElem?_ne_none_of_mem present ((otherKept key).1 (.inl member)),
      fun key member present =>
        Std.TreeMap.getElem?_ne_none_of_mem present ((otherKept key).1 (.inr member)),
      fun key => (scenarios key).1 (same.scenarios key), fun key => (defaultsKept key).2,
      fun key => (otherKept key).2⟩
  · intro keeps
    refine ⟨fun key => (scenarios key).2 (keeps.scenarios key),
      fun key => (defaults key).2 ⟨fun member =>
        Std.TreeMap.getElem?_eq_none (keeps.scenariosDefaults key member), keeps.defaults key⟩,
      fun key => (other key).2 ⟨fun shadowed => ?_, keeps.other key⟩⟩
    rcases shadowed with member | member
    · exact Std.TreeMap.getElem?_eq_none (keeps.scenariosOther key member)
    · exact Std.TreeMap.getElem?_eq_none (keeps.defaultsOther key member)

/-! ## What the library reads back -/

namespace YamlCodec

variable (C : YamlCodec) (reread : Value → Value)

/-- The entries `pairs` read from a mapping show the entries of `items`: each key once, and
each node as `shows` says of the item under its key. -/
structure ShowsEntries {α : Type} (shows : C.Node → α → Prop) (pairs : List (String × C.Node))
    (items : Std.TreeMap String α) : Prop where
  keys : (pairs.map Prod.fst).Perm items.keys
  entries : ∀ key node, (key, node) ∈ pairs → ∃ item, items[key]? = some item ∧ shows node item

/-- How the library reads back a node it wrote for an entry of a scenario block: a setting
as a node that is no mapping and decodes to it as `reread` turns it, a sub-profile as a
mapping that decodes to it read back. -/
def ShowsBlockItem (node : C.Node) : BlockItem → Prop
  | .setting v => C.kind node ≠ .mapping ∧ C.dynamic node = .ok (reread v)
  | .profile t => C.kind node = .mapping ∧ ∃ a, C.subProfile node = .ok a ∧ a.ReadsAs reread t

/-- How the library reads back a node it wrote for an entry of a table: a setting and a
sub-profile as in a scenario block, and a scenario block as a mapping whose entries show
its own. -/
def ShowsTableItem (node : C.Node) : TableItem → Prop
  | .setting v => C.kind node ≠ .mapping ∧ C.dynamic node = .ok (reread v)
  | .profile t => C.kind node = .mapping ∧ ∃ a, C.subProfile node = .ok a ∧ a.ReadsAs reread t
  | .block items => C.kind node = .mapping ∧
      ∃ pairs, C.pairs node = .ok pairs ∧ C.ShowsEntries (C.ShowsBlockItem reread) pairs items

/-- The library reads back the text it writes for `items`: its root is a mapping whose
entries show those of `items`. -/
def ReadsBack (items : Std.TreeMap String TableItem) : Prop :=
  ∃ root, C.root (C.write items) = .ok (some root) ∧
    ∃ pairs, C.pairs root = .ok pairs ∧ C.ShowsEntries (C.ShowsTableItem reread) pairs items

end YamlCodec

/-! ## Reading the entries back -/

/-- The entries of `items` under the keys of `done`: those read so far. -/
def itemsRead {α β : Type} (items : Std.TreeMap String α) (done : List (String × β)) :
    Std.TreeMap String α :=
  items.filter fun key _ => key ∈ done.map Prod.fst

section ItemsRead

variable {α β : Type} {items : Std.TreeMap String α} {done : List (String × β)} {key k : String}

theorem itemsRead_getElem? :
    (itemsRead items done)[k]? = if k ∈ done.map Prod.fst then items[k]? else none := by
  rw [itemsRead, Std.TreeMap.getElem?_filter']
  by_cases listed : k ∈ done.map Prod.fst
  · rw [if_pos listed]
    cases items[k]? <;> simp [listed]
  · rw [if_neg listed]
    cases items[k]? <;> simp [listed]

theorem itemsRead_nil : (itemsRead items ([] : List (String × β)))[k]? = none := by
  simp [itemsRead_getElem?]

theorem itemsRead_snoc {node : β} :
    (itemsRead items (done ++ [(key, node)]))[k]? =
      if k = key then items[k]? else (itemsRead items done)[k]? := by
  by_cases same : k = key
  · simp [itemsRead_getElem?, same]
  · have listed : k ∈ (done ++ [(key, node)]).map Prod.fst ↔ k ∈ done.map Prod.fst := by
      simp [same]
    simp only [itemsRead_getElem?, listed, if_neg same]

theorem itemsRead_fresh (fresh : key ∉ done.map Prod.fst) :
    (itemsRead items done)[key]? = none := by
  rw [itemsRead_getElem?, if_neg fresh]

theorem itemsRead_of_perm (keys : (done.map Prod.fst).Perm items.keys) :
    (itemsRead items done)[k]? = items[k]? := by
  rw [itemsRead_getElem?]
  by_cases listed : k ∈ done.map Prod.fst
  · rw [if_pos listed]
  · rw [if_neg listed, Std.TreeMap.getElem?_eq_none]
    exact fun member => listed (keys.mem_iff.2 (Std.TreeMap.mem_keys.2 member))

/-- Reading the entry under `key` shows its item there and changes no other key. -/
theorem itemsRead_snoc_bind {γ : Type} {node : β} {item : α} (proj : α → Option γ)
    (listed : items[key]? = some item) :
    ((itemsRead items (done ++ [(key, node)]))[k]?).bind proj =
      if k = key then proj item else ((itemsRead items done)[k]?).bind proj := by
  rw [itemsRead_snoc]
  by_cases same : k = key
  · rw [if_pos same, if_pos same, same, listed]
    rfl
  · rw [if_neg same, if_neg same]

/-- Reading an entry under a fresh key leaves the parts its item does not belong to. -/
theorem itemsRead_snoc_bind_of_none {γ : Type} {node : β} {item : α} {proj : α → Option γ}
    (listed : items[key]? = some item) (other : proj item = none)
    (before : (itemsRead items done)[key]? = none) :
    ((itemsRead items (done ++ [(key, node)]))[k]?).bind proj =
      ((itemsRead items done)[k]?).bind proj := by
  rw [itemsRead_snoc_bind proj listed]
  by_cases same : k = key
  · rw [if_pos same, other, same, before]
    rfl
  · rw [if_neg same]

/-- A key read next was not read before, when no key is read twice. -/
theorem fresh_of_nodup {pairs rest : List (String × β)} {node : β}
    (distinct : (pairs.map Prod.fst).Nodup) (whole : done ++ (key, node) :: rest = pairs) :
    key ∉ done.map Prod.fst := by
  rw [← whole, List.map_append, List.map_cons] at distinct
  exact fun member => List.disjoint_of_nodup_append distinct member List.mem_cons_self

end ItemsRead

variable {C : YamlCodec}

/-- Reading an entry of a scenario block that the library shows as `item`, under a key not
read before, reads `item` back. -/
theorem Scenario.ReadsAs.readEntry {s : Scenario} {items : Std.TreeMap String BlockItem}
    {done : List (String × C.Node)} {key : String} {node : C.Node} {item : BlockItem}
    (holds : s.ReadsAs reread (itemsRead items done)) (fresh : key ∉ done.map Prod.fst)
    (listed : items[key]? = some item) (shows : C.ShowsBlockItem reread node item) :
    ∃ s', Scenario.readEntry C s (key, node) = .ok s' ∧
      s'.ReadsAs reread (itemsRead items (done ++ [(key, node)])) := by
  have before : (itemsRead items done)[key]? = none := itemsRead_fresh fresh
  cases item with
  | setting v =>
    obtain ⟨scalar, decoded⟩ := shows
    refine ⟨{ s with other := s.other.insert key (reread v) }, ?_, fun k => ?_, fun k => ?_⟩
    · simp only [Scenario.readEntry, if_neg scalar, decoded]
      rfl
    · rw [itemsRead_snoc_bind_of_none listed rfl before]
      exact holds.profiles k
    · rw [itemsRead_snoc_bind _ listed]
      by_cases same : k = key
      · simp [same, BlockItem.setting?]
      · simpa [same, Std.TreeMap.getElem?_insert, Ne.symm same] using holds.other k
  | profile t =>
    obtain ⟨mapping, a, decoded, reads⟩ := shows
    refine ⟨{ s with profiles := s.profiles.insert key a }, ?_, fun k => ?_, fun k => ?_⟩
    · simp only [Scenario.readEntry, if_pos mapping, decoded]
      rfl
    · rw [itemsRead_snoc_bind _ listed]
      by_cases same : k = key
      · simpa [same, BlockItem.profile?] using Option.Rel.some reads
      · simpa [same, Std.TreeMap.getElem?_insert, Ne.symm same] using holds.profiles k
    · rw [itemsRead_snoc_bind_of_none listed rfl before]
      exact holds.other k

/-- A scenario block whose entries the library shows reads back as them. -/
theorem Scenario.readWith_of_shows {node : C.Node} {pairs : List (String × C.Node)}
    {items : Std.TreeMap String BlockItem} (paired : C.pairs node = .ok pairs)
    (shows : C.ShowsEntries (C.ShowsBlockItem reread) pairs items) :
    ∃ s, Scenario.readWith C node = .ok s ∧ s.ReadsAs reread items := by
  have distinct : (pairs.map Prod.fst).Nodup := shows.keys.nodup_iff.2 Std.TreeMap.nodup_keys
  -- the entries are read in order, the block read so far showing the items of their keys
  obtain ⟨s, ran, holds⟩ := Except.foldlM_total pairs {} (Scenario.readEntry C)
    (fun done s => s.ReadsAs reread (itemsRead items done))
    ⟨fun k => by simp [itemsRead_nil], fun k => by simp [itemsRead_nil]⟩
    fun done ⟨key, node⟩ rest s whole holds => by
      obtain ⟨item, listed, shown⟩ := shows.entries key node (whole ▸ by simp)
      exact holds.readEntry (fresh_of_nodup distinct whole) listed shown
  refine ⟨s, by rw [Scenario.readWith, paired]; exact ran, fun k => ?_, fun k => ?_⟩
  · simpa [itemsRead_of_perm shows.keys] using holds.profiles k
  · simpa [itemsRead_of_perm shows.keys] using holds.other k

/-- Reading an entry of a table that the library shows as `item`, under a key not read
before that routes it back to its part, reads `item` back. -/
theorem ParamTable.ReadsAs.readEntry {q : ParamTable} {items : Std.TreeMap String TableItem}
    {done : List (String × C.Node)} {key : String} {node : C.Node} {item : TableItem}
    (holds : q.ReadsAs reread (itemsRead items done)) (fresh : key ∉ done.map Prod.fst)
    (listed : items[key]? = some item) (shows : C.ShowsTableItem reread node item)
    (routed : item.RoutedAt key) :
    ∃ q', ParamTable.readEntry C q (key, node) = .ok q' ∧
      q'.ReadsAs reread (itemsRead items (done ++ [(key, node)])) := by
  have before : (itemsRead items done)[key]? = none := itemsRead_fresh fresh
  cases item with
  | setting v =>
    obtain ⟨scalar, decoded⟩ := shows
    refine ⟨{ q with other := q.other.insert key (reread v) }, ?_, fun k => ?_, fun k => ?_,
      fun k => ?_⟩
    · simp only [ParamTable.readEntry, if_neg scalar, decoded]
      rfl
    · rw [itemsRead_snoc_bind_of_none listed rfl before]
      exact holds.scenarios k
    · rw [itemsRead_snoc_bind_of_none listed rfl before]
      exact holds.defaults k
    · rw [itemsRead_snoc_bind _ listed]
      by_cases same : k = key
      · simp [same, TableItem.setting?]
      · simpa [same, Std.TreeMap.getElem?_insert, Ne.symm same] using holds.other k
  | profile t =>
    obtain ⟨mapping, a, decoded, reads⟩ := shows
    have rejected : (ScenarioKey.parse key).toBool = false := routed
    refine ⟨{ q with defaults := q.defaults.insert key a }, ?_, fun k => ?_, fun k => ?_,
      fun k => ?_⟩
    · simp only [ParamTable.readEntry, if_pos mapping, rejected, decoded]
      rfl
    · rw [itemsRead_snoc_bind_of_none listed rfl before]
      exact holds.scenarios k
    · rw [itemsRead_snoc_bind _ listed]
      by_cases same : k = key
      · simpa [same, TableItem.profile?] using Option.Rel.some reads
      · simpa [same, Std.TreeMap.getElem?_insert, Ne.symm same] using holds.defaults k
    · rw [itemsRead_snoc_bind_of_none listed rfl before]
      exact holds.other k
  | block entries =>
    obtain ⟨mapping, pairs, paired, entriesShown⟩ := shows
    have parses : (ScenarioKey.parse key).toBool = true := routed
    obtain ⟨block, read, reads⟩ := Scenario.readWith_of_shows paired entriesShown
    refine ⟨{ q with scenarios := q.scenarios.insert key block }, ?_, fun k => ?_, fun k => ?_,
      fun k => ?_⟩
    · simp only [ParamTable.readEntry, if_pos mapping, parses, read]
      rfl
    · rw [itemsRead_snoc_bind _ listed]
      by_cases same : k = key
      · simpa [same, TableItem.block?] using Option.Rel.some reads
      · simpa [same, Std.TreeMap.getElem?_insert, Ne.symm same] using holds.scenarios k
    · rw [itemsRead_snoc_bind_of_none listed rfl before]
      exact holds.defaults k
    · rw [itemsRead_snoc_bind_of_none listed rfl before]
      exact holds.other k

/-- A table whose entries the library shows, each under a key that routes it back to its
part, reads back as them. -/
theorem ParamTable.readWith_of_shows {root : C.Node} {pairs : List (String × C.Node)}
    {items : Std.TreeMap String TableItem} (paired : C.pairs root = .ok pairs)
    (shows : C.ShowsEntries (C.ShowsTableItem reread) pairs items)
    (routed : ∀ (key : String) (item : TableItem), items[key]? = some item → item.RoutedAt key) :
    ∃ q, ParamTable.readWith C root = .ok q ∧ q.ReadsAs reread items := by
  have distinct : (pairs.map Prod.fst).Nodup := shows.keys.nodup_iff.2 Std.TreeMap.nodup_keys
  obtain ⟨q, ran, holds⟩ := Except.foldlM_total pairs {} (ParamTable.readEntry C)
    (fun done q => q.ReadsAs reread (itemsRead items done))
    ⟨fun k => by simp [itemsRead_nil], fun k => by simp [itemsRead_nil],
      fun k => by simp [itemsRead_nil]⟩
    fun done ⟨key, node⟩ rest q whole holds => by
      obtain ⟨item, listed, shown⟩ := shows.entries key node (whole ▸ by simp)
      exact holds.readEntry (fresh_of_nodup distinct whole) listed shown
        (routed key item listed)
  refine ⟨q, by rw [ParamTable.readWith, paired]; exact ran, fun k => ?_, fun k => ?_,
    fun k => ?_⟩
  · simpa [itemsRead_of_perm shows.keys] using holds.scenarios k
  · simpa [itemsRead_of_perm shows.keys] using holds.defaults k
  · simpa [itemsRead_of_perm shows.keys] using holds.other k

/-! ## The round trip -/

/-- Flattening a table read from text keys each entry so that it is read back into its own
part. -/
theorem ParamTable.marshal_routedAt {text : String} {p : ParamTable}
    (loaded : ParamTable.loadWith C text = .ok p) :
    ∀ (key : String) (item : TableItem), p.marshal[key]? = some item → item.RoutedAt key := by
  intro key item found
  rw [ParamTable.marshal_getElem?] at found
  cases scenario : p.scenarios[key]? with
  | some s =>
    rw [scenario] at found
    cases found
    obtain ⟨k, parsed⟩ := ParamTable.loadWith_scenarios_parse loaded key
      (Std.TreeMap.mem_of_getElem?_eq_some scenario)
    show (ScenarioKey.parse key).toBool = true
    rw [parsed]
    rfl
  | none =>
    rw [scenario] at found
    cases default : p.defaults[key]? with
    | some t =>
      rw [default] at found
      cases found
      exact ParamTable.loadWith_defaults_reject loaded key
        (Std.TreeMap.mem_of_getElem?_eq_some default)
    | none =>
      rw [default] at found
      obtain ⟨v, -, rfl⟩ := Option.map_eq_some_iff.1 (by simpa using found)
      trivial

/-- Written by a YAML library that reads back what it writes, with each value as `reread`
turns it, a table read from text is read back entry by entry as the library turned its
values; and it comes back the same table exactly when its scenario blocks, defaults and
other values share no key, nor the sub-profiles and settings of any block, and every value
it holds reads back as the same value. -/
theorem table_round_trip (C : YamlCodec) (reread : Value → Value) {text : String}
    {p : ParamTable} (loaded : ParamTable.loadWith C text = .ok p)
    (readsBack : C.ReadsBack reread p.marshal) :
    ∃ q, ParamTable.loadWith C (C.write p.marshal) = .ok q ∧ q.ReadsAs reread p.marshal ∧
      (q.Same p ↔ p.Keeps reread) := by
  obtain ⟨root, rooted, pairs, paired, shows⟩ := readsBack
  obtain ⟨q, read, reads⟩ :=
    ParamTable.readWith_of_shows paired shows (ParamTable.marshal_routedAt loaded)
  refine ⟨q, ?_, reads, reads.same_iff⟩
  rw [ParamTable.loadWith, rooted]
  exact mapError_eq_ok.2 read

/-! ## The order keys are written in

Mappings are written with their keys sorted by a merge sort that recurses on a bound of the
list's length, so that it can be run by evaluation; it is `List.mergeSort`, the same halves
merged the same way. -/

theorem Yaml.mergeBy_eq_merge {α : Type} (le : α → α → Bool) :
    ∀ xs ys : List α, Yaml.mergeBy le xs ys = xs.merge ys le
  | [], ys => by simp [Yaml.mergeBy]
  | x :: xs, [] => by simp [Yaml.mergeBy, Yaml.mergeBy_eq_merge le xs []]
  | x :: xs, y :: ys => by
    by_cases first : le x y
    · simp [Yaml.mergeBy, first, Yaml.mergeBy_eq_merge le xs (y :: ys)]
    · have later := Yaml.mergeBy_eq_merge le (x :: xs) ys
      simp only [Yaml.mergeBy] at later
      simp [Yaml.mergeBy, first, later]

theorem Yaml.mergeSortWithin_eq_mergeSort {α : Type} (le : α → α → Bool) :
    ∀ (bound : Nat) (xs : List α), xs.length ≤ bound →
      Yaml.mergeSortWithin le bound xs = xs.mergeSort le
  | 0, [], _ | _ + 1, [], _ => by simp [Yaml.mergeSortWithin]
  | 0, [_], _ | _ + 1, [_], _ => by simp [Yaml.mergeSortWithin]
  | 0, _ :: _ :: _, bounded => by simp at bounded
  | bound + 1, a :: b :: rest, bounded => by
    rw [List.mergeSort]
    simp only [List.length_cons] at bounded
    simp only [Yaml.mergeSortWithin, List.MergeSort.Internal.splitInTwo_fst,
      List.MergeSort.Internal.splitInTwo_snd, List.splitAt_eq, Yaml.mergeBy_eq_merge,
      List.length_cons]
    rw [Yaml.mergeSortWithin_eq_mergeSort le bound _ (by simp; omega),
      Yaml.mergeSortWithin_eq_mergeSort le bound _ (by simp; omega)]

theorem Yaml.sortBy_eq_mergeSort {α : Type} (le : α → α → Bool) (xs : List α) :
    Yaml.sortBy le xs = xs.mergeSort le :=
  Yaml.mergeSortWithin_eq_mergeSort le xs.length xs le_rfl

/-! ## Checking a library on one table

What a library reads back for one table can be checked by running it: values are compared
by `Value.identical`, which never finds two doubles equal, so a check that passes proves
`YamlCodec.ReadsBack`. -/

mutual

/-- Whether two values are equal, found by comparing them; doubles are never found equal. -/
def Yaml.Value.identical : Value → Value → Bool
  | .null, .null => true
  | .bool a, .bool b => a == b
  | .int a, .int b => a == b
  | .uint a, .uint b => a == b
  | .string a, .string b => a == b
  | .time a, .time b => decide (a = b)
  | .list items, .list items' => Yaml.Value.identicalItems items items'
  | .map entries textKeys, .map entries' textKeys' =>
    textKeys == textKeys' && Yaml.Value.identicalEntries entries entries'
  | _, _ => false

def Yaml.Value.identicalItems : List Value → List Value → Bool
  | [], [] => true
  | v :: items, v' :: items' => v.identical v' && Yaml.Value.identicalItems items items'
  | _, _ => false

def Yaml.Value.identicalEntries : List (Value × Value) → List (Value × Value) → Bool
  | [], [] => true
  | (k, v) :: entries, (k', v') :: entries' =>
    k.identical k' && v.identical v' && Yaml.Value.identicalEntries entries entries'
  | _, _ => false

end

mutual

theorem Yaml.Value.eq_of_identical : ∀ (a b : Value), a.identical b = true → a = b
  | .null, b, h => by cases b <;> simp_all [Yaml.Value.identical]
  | .bool _, b, h => by cases b <;> simp_all [Yaml.Value.identical]
  | .int _, b, h => by cases b <;> simp_all [Yaml.Value.identical]
  | .uint _, b, h => by cases b <;> simp_all [Yaml.Value.identical]
  | .float _, b, h => by cases b <;> simp_all [Yaml.Value.identical]
  | .string _, b, h => by cases b <;> simp_all [Yaml.Value.identical]
  | .time _, b, h => by cases b <;> simp_all [Yaml.Value.identical]
  | .list items, b, h => by
    cases b with
    | list items' =>
      rw [Yaml.Value.eq_of_identicalItems items items' h]
    | _ => simp [Yaml.Value.identical] at h
  | .map entries textKeys, b, h => by
    cases b with
    | map entries' textKeys' =>
      simp only [Yaml.Value.identical, Bool.and_eq_true, beq_iff_eq] at h
      rw [h.1, Yaml.Value.eq_of_identicalEntries entries entries' h.2]
    | _ => simp [Yaml.Value.identical] at h

theorem Yaml.Value.eq_of_identicalItems :
    ∀ (items items' : List Value), Yaml.Value.identicalItems items items' = true → items = items'
  | [], [], _ => rfl
  | v :: items, v' :: items', h => by
    simp only [Yaml.Value.identicalItems, Bool.and_eq_true] at h
    rw [Yaml.Value.eq_of_identical v v' h.1, Yaml.Value.eq_of_identicalItems items items' h.2]
  | [], _ :: _, h | _ :: _, [], h => by simp [Yaml.Value.identicalItems] at h

theorem Yaml.Value.eq_of_identicalEntries : ∀ (entries entries' : List (Value × Value)),
    Yaml.Value.identicalEntries entries entries' = true → entries = entries'
  | [], [], _ => rfl
  | (k, v) :: entries, (k', v') :: entries', h => by
    simp only [Yaml.Value.identicalEntries, Bool.and_eq_true] at h
    rw [Yaml.Value.eq_of_identical k k' h.1.1, Yaml.Value.eq_of_identical v v' h.1.2,
      Yaml.Value.eq_of_identicalEntries entries entries' h.2]
  | [], _ :: _, h | _ :: _, [], h => by simp [Yaml.Value.identicalEntries] at h

end

/-- Whether two lists of keyed values are equal, found by comparing. -/
def Yaml.Value.identicalKeyed {κ : Type} [DecidableEq κ] :
    List (κ × Value) → List (κ × Value) → Bool
  | [], [] => true
  | (k, v) :: rest, (k', v') :: rest' =>
    decide (k = k') && v.identical v' && Yaml.Value.identicalKeyed rest rest'
  | _, _ => false

theorem Yaml.Value.eq_of_identicalKeyed {κ : Type} [DecidableEq κ] :
    ∀ (xs ys : List (κ × Value)), Yaml.Value.identicalKeyed xs ys = true → xs = ys
  | [], [], _ => rfl
  | (k, v) :: rest, (k', v') :: rest', h => by
    simp only [Yaml.Value.identicalKeyed, Bool.and_eq_true, decide_eq_true_eq] at h
    rw [h.1.1, Yaml.Value.eq_of_identical v v' h.1.2,
      Yaml.Value.eq_of_identicalKeyed rest rest' h.2]
  | [], _ :: _, h | _ :: _, [], h => by simp [Yaml.Value.identicalKeyed] at h

/-- Whether `a` is sub-profile `t` read back, found by comparing. -/
def SubProfile.readsAsB (reread : Value → Value) (a t : SubProfile) : Bool :=
  Count.all.all (fun c => decide (a.get c = t.get c)) &&
    decide (a.dynamicThreshold = t.dynamicThreshold) &&
    Yaml.Value.identicalKeyed a.extra.toList (t.extra.map fun _ v => reread v).toList

theorem SubProfile.ReadsAs.of_readsAsB {a t : SubProfile} (accepted : a.readsAsB reread t = true) :
    a.ReadsAs reread t := by
  simp only [SubProfile.readsAsB, Bool.and_eq_true, List.all_eq_true, decide_eq_true_eq]
    at accepted
  obtain ⟨⟨counts, flag⟩, extras⟩ := accepted
  have listed : a.extra.toList = (t.extra.map fun _ v => reread v).toList :=
    Yaml.Value.eq_of_identicalKeyed _ _ extras
  refine ⟨fun c => counts c (by cases c <;> decide), flag, fun key => ?_⟩
  rw [(Std.TreeMap.equiv_iff_toList_eq.2 listed).getElem?_eq, Std.TreeMap.getElem?_map]

namespace YamlCodec

variable (C : YamlCodec) (reread : Value → Value)

/-- Whether `pairs` shows the entries of `items`, each node checked by `shows`. -/
def showsEntriesB {α : Type} (shows : C.Node → α → Bool) (pairs : List (String × C.Node))
    (items : Std.TreeMap String α) : Bool :=
  (pairs.map Prod.fst).isPerm items.keys &&
    pairs.all fun entry => items[entry.1]?.any (shows entry.2)

/-- Whether the library reads a node back as an entry of a scenario block. -/
def showsBlockItemB (node : C.Node) : BlockItem → Bool
  | .setting v => decide (C.kind node ≠ .mapping) &&
      (C.dynamic node).toOption.any fun w => w.identical (reread v)
  | .profile t => decide (C.kind node = .mapping) &&
      (C.subProfile node).toOption.any fun a => a.readsAsB reread t

/-- Whether the library reads a node back as an entry of a table. -/
def showsTableItemB (node : C.Node) : TableItem → Bool
  | .setting v => C.showsBlockItemB reread node (.setting v)
  | .profile t => C.showsBlockItemB reread node (.profile t)
  | .block items => decide (C.kind node = .mapping) &&
      (C.pairs node).toOption.any fun pairs =>
        C.showsEntriesB (C.showsBlockItemB reread) pairs items

/-- Whether the library reads back the text it writes for `items`. -/
def readsBackB (items : Std.TreeMap String TableItem) : Bool :=
  match C.root (C.write items) with
  | .ok (some root) =>
    (C.pairs root).toOption.any fun pairs => C.showsEntriesB (C.showsTableItemB reread) pairs items
  | _ => false

variable {C reread}

theorem ShowsEntries.of_showsEntriesB {α : Type} {showsB : C.Node → α → Bool}
    {shows : C.Node → α → Prop} (sound : ∀ node item, showsB node item = true → shows node item)
    {pairs : List (String × C.Node)} {items : Std.TreeMap String α}
    (accepted : C.showsEntriesB showsB pairs items = true) : C.ShowsEntries shows pairs items := by
  simp only [showsEntriesB, Bool.and_eq_true, List.isPerm_iff, List.all_eq_true] at accepted
  obtain ⟨keys, entries⟩ := accepted
  refine ⟨keys, fun key node listed => ?_⟩
  obtain ⟨item, found, shown⟩ := (Option.any_eq_true _ _).1 (entries (key, node) listed)
  exact ⟨item, found, sound node item shown⟩

theorem toOption_any_eq_true {ε α : Type} {x : Except ε α} {p : α → Bool}
    (accepted : x.toOption.any p = true) : ∃ a, x = .ok a ∧ p a = true := by
  cases x with
  | error e => simp [Except.toOption] at accepted
  | ok a => exact ⟨a, rfl, by simpa [Except.toOption] using accepted⟩

theorem showsBlockItem_of_showsBlockItemB (node : C.Node) (item : BlockItem)
    (accepted : C.showsBlockItemB reread node item = true) : C.ShowsBlockItem reread node item := by
  cases item with
  | setting v =>
    simp only [showsBlockItemB, Bool.and_eq_true, decide_eq_true_eq] at accepted
    obtain ⟨w, decoded, same⟩ := toOption_any_eq_true accepted.2
    exact ⟨accepted.1, by rw [decoded, Yaml.Value.eq_of_identical w _ same]⟩
  | profile t =>
    simp only [showsBlockItemB, Bool.and_eq_true, decide_eq_true_eq] at accepted
    obtain ⟨a, decoded, reads⟩ := toOption_any_eq_true accepted.2
    exact ⟨accepted.1, a, decoded, SubProfile.ReadsAs.of_readsAsB reads⟩

theorem showsTableItem_of_showsTableItemB (node : C.Node) (item : TableItem)
    (accepted : C.showsTableItemB reread node item = true) : C.ShowsTableItem reread node item := by
  cases item with
  | setting v => exact C.showsBlockItem_of_showsBlockItemB node (.setting v) accepted
  | profile t => exact C.showsBlockItem_of_showsBlockItemB node (.profile t) accepted
  | block items =>
    simp only [showsTableItemB, Bool.and_eq_true, decide_eq_true_eq] at accepted
    obtain ⟨pairs, paired, shown⟩ := toOption_any_eq_true accepted.2
    exact ⟨accepted.1, pairs, paired,
      ShowsEntries.of_showsEntriesB C.showsBlockItem_of_showsBlockItemB shown⟩

theorem ReadsBack.of_readsBackB {items : Std.TreeMap String TableItem}
    (accepted : C.readsBackB reread items = true) : C.ReadsBack reread items := by
  unfold readsBackB at accepted
  split at accepted
  · rename_i root rooted
    obtain ⟨pairs, paired, shown⟩ := toOption_any_eq_true accepted
    exact ⟨root, rooted, pairs, paired,
      ShowsEntries.of_showsEntriesB C.showsTableItem_of_showsTableItemB shown⟩
  · cases accepted

end YamlCodec

/-- Whether a table's scenario blocks, defaults and other values share no key, nor the
sub-profiles and settings of any block. -/
def ParamTable.disjointB (p : ParamTable) : Bool :=
  p.scenarios.keys.all (fun key => !p.defaults.contains key && !p.other.contains key) &&
    p.defaults.keys.all (fun key => !p.other.contains key) &&
    p.scenarios.toList.all fun entry =>
      entry.2.profiles.keys.all fun key => !entry.2.other.contains key

/-- A table whose parts share no key keeps its values when the library gives them back as
they were. -/
theorem ParamTable.keeps_of_disjointB {p : ParamTable} (accepted : p.disjointB = true) :
    p.Keeps id := by
  simp only [ParamTable.disjointB, Bool.and_eq_true, List.all_eq_true, Bool.not_eq_true',
    Std.TreeMap.mem_keys] at accepted
  obtain ⟨⟨scenarios, defaults⟩, blocks⟩ := accepted
  have absent : ∀ {β : Type} {m : Std.TreeMap String β} {key : String},
      m.contains key = false → key ∉ m := fun unlisted member => by
    rw [Std.TreeMap.mem_iff_contains.1 member] at unlisted
    cases unlisted
  refine ⟨fun key member => absent (scenarios key member).1,
    fun key member => absent (scenarios key member).2,
    fun key member => absent (defaults key member),
    fun key s found => ⟨fun k member => ?_, fun _ _ _ _ v _ => Value.same_refl v,
      fun _ v _ => Value.same_refl v⟩,
    fun _ _ _ _ v _ => Value.same_refl v, fun _ v _ => Value.same_refl v⟩
  exact absent (blocks (key, s) (Std.TreeMap.mem_toList_iff_getElem?_eq_some.2 found) k member)

/-- A table with an other value, a default, and a scenario block holding a setting and a
sub-profile with a count, the flag and a list among its extra values. -/
def ParamTable.roundTripSample : String :=
  "hdrm_pool_wm_multiplier: 4\nxon_1:\n  pkts_num_margin: 2\n" ++
    "100000_5m:\n  pkts_num_leak_out: 36\n" ++
    "  xoff_1:\n    pkts_num_trig_pfc: 1458\n    dynamic_threshold: true\n    pgs: [3, 4]\n"

/-- This library reads back what it writes for the sample table, values unchanged, so the
sample comes back the same table. -/
theorem table_round_trip_sample :
    ∃ p, ParamTable.loadWith YamlCodec.standard ParamTable.roundTripSample = .ok p ∧
      YamlCodec.standard.ReadsBack id p.marshal ∧
      ∃ q, ParamTable.loadWith YamlCodec.standard (YamlCodec.standard.write p.marshal) = .ok q ∧
        q.ReadsAs id p.marshal ∧ (q.Same p ↔ p.Keeps id) ∧ p.Keeps id ∧ q.Same p := by
  have checked : ((ParamTable.loadWith YamlCodec.standard ParamTable.roundTripSample).toOption.map
      fun p => YamlCodec.standard.readsBackB id p.marshal && p.disjointB) = some true := by
    decide +kernel
  cases loaded : ParamTable.loadWith YamlCodec.standard ParamTable.roundTripSample with
  | error e =>
    rw [loaded] at checked
    cases checked
  | ok p =>
    rw [loaded] at checked
    simp only [Except.toOption, Option.map_some, Option.some.injEq, Bool.and_eq_true] at checked
    have readsBack := YamlCodec.ReadsBack.of_readsBackB checked.1
    have keeps := ParamTable.keeps_of_disjointB checked.2
    obtain ⟨q, written, reads, same⟩ := table_round_trip YamlCodec.standard id loaded readsBack
    exact ⟨p, rfl, readsBack, q, written, reads, same, keeps, same.2 keeps⟩

end LosslessBuffer
