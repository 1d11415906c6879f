import LosslessBuffer.Proofs.Assembly
import Mathlib.Data.List.Basic
import Mathlib.Data.List.Nodup
import Std.Data.String.ToInt
/-!
# The log of an assembly

`Scenario.assemble` returns one record for each field it writes. Which records these are is
said here: the log is the difference between the scenario before and after, sub-profile by
sub-profile and field by field, in the order assembly writes them (`Scenario.assemblyLog`).
Such a log is exact (`ExactLog`):

* no two records name the same field of the same sub-profile;
* a record carries the field's text before and after (`SubProfile.fieldText`: decimal, or
  `true`/`false`, and empty when unset), and the two differ;
* a field is logged exactly when its value changes, and nothing else of the scenario changes.

Texts are faithful (`SubProfile.fieldText_eq_iff`), so a difference of texts is a difference
of values. The log is built step by step: every write of a sub-profile changes only its own
fields and logs their difference (`SubProfile.Logs`), and two such steps over disjoint
fields make one (`SubProfile.Logs.append`).

`Scenario.assemble_logs_exactly` puts it together: with its xoff and xon sub-profiles present
assembly succeeds with this log, and assembling the result again writes nothing; with one of
them missing it fails, naming the first.
-/

set_option autoImplicit false

namespace LosslessBuffer

open Step

/-! ## Fields and their texts -/

/-- A field that assembly writes: one of the counts, or the dynamic-threshold flag. -/
inductive Field where
  | count (c : Count)
  | dynamicThreshold
  deriving DecidableEq

namespace Field

/-- The key of a field in a sub-profile. -/
def key : Field → String
  | .count c => c.key
  | .dynamicThreshold => dynamicThresholdKey

theorem key_injective : Function.Injective key := by
  intro f g same
  cases f with
  | count c =>
    cases g with
    | count d => cases c <;> cases d <;> first | rfl | exact absurd same (by decide)
    | dynamicThreshold => cases c <;> exact absurd same (by decide)
  | dynamicThreshold =>
    cases g with
    | count d => cases d <;> exact absurd same (by decide)
    | dynamicThreshold => rfl

/-- The fields of counts written in order. -/
def ofCounts (counts : List (Count × Int64)) : List Field :=
  counts.map fun cv => .count cv.1

end Field

theorem toString_ne_empty (v : Int64) : toString v ≠ "" := by
  show Int.repr v.toInt ≠ ""
  cases v.toInt with
  | ofNat m => exact Nat.repr_ne_empty
  | negSucc m =>
    intro empty
    have length := congrArg String.length empty
    simp [Int.repr] at length

theorem countText_injective : Function.Injective countText := by
  rintro (_ | a) (_ | b) same
  · rfl
  · exact absurd same.symm (toString_ne_empty b)
  · exact absurd same (toString_ne_empty a)
  · have texts : Int.repr a.toInt = Int.repr b.toInt := same
    exact congrArg some (Int64.toInt_inj.1 (Int.repr_injective texts))

theorem flagText_injective :
    Function.Injective fun flag : Option Bool => (flag.map flagText).getD "" := by
  rintro (_ | _ | _) (_ | _ | _) same <;> first | rfl | exact absurd same (by decide)

namespace SubProfile

/-- The text of a field: decimal for a count, `true` or `false` for the flag, empty when
unset. -/
def fieldText (t : SubProfile) : Field → String
  | .count c => countText (t.get c)
  | .dynamicThreshold => (t.dynamicThreshold.map flagText).getD ""

/-- Two sub-profiles hold the same value in a field. -/
def SameAt (t t' : SubProfile) : Field → Prop
  | .count c => t.get c = t'.get c
  | .dynamicThreshold => t.dynamicThreshold = t'.dynamicThreshold

theorem SameAt.refl (t : SubProfile) (f : Field) : t.SameAt t f := by
  cases f <;> exact rfl

theorem SameAt.trans {t t' t'' : SubProfile} {f : Field} (h : t.SameAt t' f)
    (h' : t'.SameAt t'' f) : t.SameAt t'' f := by
  cases f <;> exact Eq.trans h h'

/-- Texts are faithful: two sub-profiles have the same text in a field exactly when they hold
the same value there. -/
theorem fieldText_eq_iff {t t' : SubProfile} {f : Field} :
    t.fieldText f = t'.fieldText f ↔ t.SameAt t' f := by
  cases f with
  | count c => exact countText_injective.eq_iff
  | dynamicThreshold => exact flagText_injective.eq_iff

/-- Sub-profiles that hold the same values in every field and the same extra fields are
equal. -/
theorem eq_of_sameAt {t t' : SubProfile} (same : ∀ f, t.SameAt t' f)
    (extra : t.extra = t'.extra) : t = t' := by
  have count : ∀ c, t.get c = t'.get c := fun c => same (.count c)
  have flag : t.dynamicThreshold = t'.dynamicThreshold := same .dynamicThreshold
  cases t
  cases t'
  simp only [get] at count
  simp only at flag extra
  simp only [count .trigPfc, count .trigIngrDrp, count .dismissPfc, count .hdrmFull,
    count .hdrmPartial, count .margin, count .pktsMargin, flag, extra]

theorem sameAt_set (t : SubProfile) {c : Count} (v : Option Int64) {f : Field}
    (other : f ≠ .count c) : t.SameAt (t.set c v) f := by
  cases f with
  | count d => exact (get_set_of_ne t v fun same => other (congrArg Field.count same.symm)).symm
  | dynamicThreshold => exact (set_dynamicThreshold t c v).symm

theorem sameAt_setAll (t : SubProfile) {counts : List (Count × Int64)} {f : Field}
    (other : f ∉ Field.ofCounts counts) : t.SameAt (t.setAll counts) f := by
  induction counts generalizing t with
  | nil => exact SameAt.refl t f
  | cons head rest ih =>
    obtain ⟨c, v⟩ := head
    simp only [Field.ofCounts, List.map_cons, List.mem_cons, not_or] at other
    exact (sameAt_set t (some v) other.1).trans (ih _ other.2)

theorem setAll_extra (t : SubProfile) (counts : List (Count × Int64)) :
    (t.setAll counts).extra = t.extra := by
  induction counts generalizing t with
  | nil => rfl
  | cons head rest ih => exact (ih _).trans (set_extra t head.1 _)

/-! ## The log of a rewrite of one sub-profile -/

/-- The log of rewriting sub-profile `profile` of scenario `scenario` from `t` to `t'`, over
`fields` in order: one record for each field whose text changes. -/
def diff (scenario profile : String) (t t' : SubProfile) (fields : List Field) :
    List UpdateRecord :=
  fields.filterMap fun f =>
    if t.fieldText f = t'.fieldText f then none
    else some ⟨scenario, profile, f.key, t.fieldText f, t'.fieldText f⟩

variable {scenario profile : String}

theorem mem_diff {t t' : SubProfile} {fields : List Field} {u : UpdateRecord} :
    u ∈ diff scenario profile t t' fields ↔
      ∃ f ∈ fields, t.fieldText f ≠ t'.fieldText f ∧
        u = ⟨scenario, profile, f.key, t.fieldText f, t'.fieldText f⟩ := by
  simp only [diff, List.mem_filterMap]
  constructor
  · rintro ⟨f, member, written⟩
    split at written
    · cases written
    · exact ⟨f, member, ‹_›, (Option.some.inj written).symm⟩
  · rintro ⟨f, member, changed, rfl⟩
    exact ⟨f, member, by rw [if_neg changed]⟩

theorem diff_congr {t t' u u' : SubProfile} {fields : List Field}
    (before : ∀ f ∈ fields, t.fieldText f = u.fieldText f)
    (after : ∀ f ∈ fields, t'.fieldText f = u'.fieldText f) :
    diff scenario profile t t' fields = diff scenario profile u u' fields := by
  unfold diff
  refine List.filterMap_congr fun f member => ?_
  rw [before f member, after f member]

theorem diff_self (t : SubProfile) (fields : List Field) :
    diff scenario profile t t fields = [] := by
  simp [diff]

/-- Two rewrites in a row log the fields of each: the second leaves the first one's fields
alone, and the first left the second one's as they were. -/
theorem diff_append {t t₁ t₂ : SubProfile} {F G : List Field}
    (untouched : ∀ f ∈ G, t₁.fieldText f = t.fieldText f)
    (kept : ∀ f ∈ F, t₂.fieldText f = t₁.fieldText f) :
    diff scenario profile t t₁ F ++ diff scenario profile t₁ t₂ G =
      diff scenario profile t t₂ (F ++ G) := by
  have first : diff scenario profile t t₁ F = diff scenario profile t t₂ F :=
    diff_congr (fun _ _ => rfl) fun f member => (kept f member).symm
  have second : diff scenario profile t₁ t₂ G = diff scenario profile t t₂ G :=
    diff_congr untouched fun _ _ => rfl
  rw [first, second, diff, diff, diff, List.filterMap_append]

/-- Keys of the records of a rewrite of one sub-profile: among those of its fields, in order. -/
theorem diff_keys_sublist (t t' : SubProfile) (fields : List Field) :
    List.Sublist ((diff scenario profile t t' fields).map fun u => (u.profile, u.field))
      (fields.map fun f => (profile, f.key)) := by
  induction fields with
  | nil => exact List.Sublist.slnil
  | cons f rest ih =>
    by_cases same : t.fieldText f = t'.fieldText f
    · simpa [diff, same] using ih.cons (profile, f.key)
    · simpa [diff, same] using ih.cons_cons (profile, f.key)

/-- A step that rewrites sub-profile `t` of scenario `scenario`, named `profile`, changing
only `fields`, and returns the sub-profile and its log: the difference over `fields`. -/
structure Logs (scenario profile : String) (t : SubProfile) (fields : List Field)
    (r : SubProfile × List UpdateRecord) : Prop where
  only : ∀ f ∉ fields, t.SameAt r.1 f
  log : r.2 = diff scenario profile t r.1 fields

/-- A step that writes nothing logs nothing, whichever fields it may write. -/
theorem Logs.unchanged (t : SubProfile) (fields : List Field) :
    Logs scenario profile t fields (t, []) :=
  ⟨fun f _ => SameAt.refl t f, (diff_self t fields).symm⟩

/-- Two logged steps over disjoint fields make one. -/
theorem Logs.append {t t₁ t₂ : SubProfile} {F G : List Field} {l₁ l₂ : List UpdateRecord}
    (first : Logs scenario profile t F (t₁, l₁))
    (second : Logs scenario profile t₁ G (t₂, l₂)) (disjoint : ∀ f ∈ F, f ∉ G) :
    Logs scenario profile t (F ++ G) (t₂, l₁ ++ l₂) where
  only f outside := by
    simp only [List.mem_append, not_or] at outside
    exact (first.only f outside.1).trans (second.only f outside.2)
  log := by
    have logged₁ : l₁ = diff scenario profile t t₁ F := first.log
    have logged₂ : l₂ = diff scenario profile t₁ t₂ G := second.log
    show l₁ ++ l₂ = diff scenario profile t t₂ (F ++ G)
    rw [logged₁, logged₂]
    refine diff_append (fun f member => ?_) fun f member => ?_
    · exact (fieldText_eq_iff.2 (first.only f fun inF => disjoint f inF member)).symm
    · exact (fieldText_eq_iff.2 (second.only f (disjoint f member))).symm

/-! ## Writing the fields of a sub-profile -/

theorem writeCount_logs (t : SubProfile) (c : Count) (v : Int64) :
    (t.writeCount scenario profile c v).Ensures (Logs scenario profile t [.count c]) := by
  unfold writeCount
  split
  next => exact ensures_pure (Logs.unchanged t _)
  next differs =>
    have changed : countText (t.get c) ≠ countText (some v) :=
      fun same => differs (by simp [countText_injective same])
    refine ensures_bind (fun _ _ => trivial) fun _ _ => ensures_pure ⟨fun f outside => ?_, ?_⟩
    · exact sameAt_set t _ (by simpa using outside)
    · simp [diff, fieldText, Field.key, changed]
      rfl

theorem writeCounts_logs (t : SubProfile) (counts : List (Count × Int64))
    (distinct : (counts.map Prod.fst).Nodup) :
    (t.writeCounts scenario profile counts).Ensures
      (Logs scenario profile t (Field.ofCounts counts)) := by
  induction counts generalizing t with
  | nil => exact ensures_pure (Logs.unchanged t [])
  | cons head rest ih =>
    obtain ⟨c, v⟩ := head
    obtain ⟨fresh, distinct⟩ := List.nodup_cons.1 distinct
    refine ensures_bind (writeCount_logs t c v) ?_
    rintro ⟨t₁, first⟩ logged₁
    refine ensures_bind (ih t₁ distinct) ?_
    rintro ⟨t₂, later⟩ logged₂
    refine ensures_pure (logged₁.append logged₂ fun f written => ?_)
    simp only [List.mem_singleton] at written
    subst written
    simpa [Field.ofCounts] using fresh

theorem writeFlag_logs (t : SubProfile) (v : Bool) :
    (t.writeFlag scenario profile v).Ensures (Logs scenario profile t [.dynamicThreshold]) := by
  unfold writeFlag
  split
  next => exact ensures_pure (Logs.unchanged t _)
  next differs =>
    have changed : (t.dynamicThreshold.map flagText).getD "" ≠ flagText v :=
      fun same => differs (by simp [@flagText_injective t.dynamicThreshold (some v) same])
    refine ensures_bind (fun _ _ => trivial) fun _ _ => ensures_pure ⟨fun f outside => ?_, ?_⟩
    · cases f with
      | count c => rfl
      | dynamicThreshold => exact absurd List.mem_cons_self outside
    · simp [diff, fieldText, Field.key, changed]

/-- The fields of the headroom-pool sub-profile that assembly writes, in order. -/
def poolFields (w : Watermarks) : List Field :=
  [.count .trigPfc, .count .hdrmFull, .count .margin, .count .hdrmPartial] ++
    if w.dynamicPool then [.dynamicThreshold] else []

theorem assembleHeadroomPool_logs (t : SubProfile) (scenario : String) (w : Watermarks) :
    (t.assembleHeadroomPool scenario w).Ensures
      (Logs scenario headroomPoolProfile t (poolFields w)) := by
  unfold assembleHeadroomPool
  refine ensures_bind (writeCounts_logs t _ (by simp)) ?_
  rintro ⟨t₁, first⟩ logged₁
  refine ensures_bind (writeCounts_logs _ _ (by simp)) ?_
  rintro ⟨t₂, second⟩ logged₂
  dsimp -zeta only
  extract_lets flagged
  have counted := logged₁.append logged₂ (by simp [Field.ofCounts])
  have flaggedLogs : (flagged ()).Ensures (Logs scenario headroomPoolProfile t (poolFields w)) := by
    refine ensures_ite (fun dynamic => ?_) (fun static => ?_)
    · refine ensures_bind (writeFlag_logs _ _) ?_
      rintro ⟨t₃, third⟩ logged₃
      rw [poolFields, if_pos dynamic]
      exact ensures_pure (counted.append logged₃ (by simp [Field.ofCounts]))
    · rw [poolFields, if_neg static, List.append_nil]
      exact ensures_pure counted
  refine ensures_ite (fun _ => ?_) (fun _ => flaggedLogs)
  exact ensures_bind_of_yields (yields_traced _)
    (ensures_bind_of_yields (yields_log _ _) flaggedLogs)

end SubProfile

/-! ## The log of a rewrite of a scenario -/

namespace Scenario

/-- The log of rewriting each of the sub-profiles `names` of scenario `s`, named `scenario`,
by `post`, over its own fields, in order; a missing sub-profile logs nothing. -/
def diff (scenario : String) (s : Scenario) (post : String → SubProfile → SubProfile)
    (fields : String → List Field) (names : List String) : List UpdateRecord :=
  names.flatMap fun n =>
    (s.profiles[n]?).elim [] fun t => SubProfile.diff scenario n t (post n t) (fields n)

variable {scenario : String} {post : String → SubProfile → SubProfile}
  {fields : String → List Field}

theorem mem_diff {s : Scenario} {names : List String} {u : UpdateRecord} :
    u ∈ s.diff scenario post fields names ↔ ∃ n ∈ names, ∃ t, s.profiles[n]? = some t ∧
      u ∈ SubProfile.diff scenario n t (post n t) (fields n) := by
  simp only [diff, List.mem_flatMap]
  constructor
  · rintro ⟨n, member, logged⟩
    cases found : s.profiles[n]? with
    | none => simp [found] at logged
    | some t => exact ⟨n, member, t, found, by simpa [found] using logged⟩
  · rintro ⟨n, member, t, found, logged⟩
    exact ⟨n, member, by simpa [found] using logged⟩

theorem diff_congr {s s' : Scenario} {post' : String → SubProfile → SubProfile}
    {fields' : String → List Field} {names : List String}
    (profiles : ∀ n ∈ names, s.profiles[n]? = s'.profiles[n]?)
    (posts : ∀ n ∈ names, ∀ t, post n t = post' n t)
    (same : ∀ n ∈ names, fields n = fields' n) :
    s.diff scenario post fields names = s'.diff scenario post' fields' names := by
  unfold diff
  refine List.flatMap_congr fun n member => ?_
  rw [profiles n member, same n member]
  cases s'.profiles[n]? with
  | none => rfl
  | some t => simp only [Option.elim_some, posts n member t]

end Scenario

/-! ## Exact logs -/

/-- `log` is the exact log of rewriting scenario `s`, named `scenario`, into `s'`. -/
structure ExactLog (scenario : String) (s s' : Scenario) (log : List UpdateRecord) : Prop where
  other : s'.other = s.other
  present : ∀ n, n ∈ s'.profiles ↔ n ∈ s.profiles
  unlogged : ∀ n, (∀ u ∈ log, u.profile ≠ n) → s'.profiles[n]? = s.profiles[n]?
  extra : ∀ (n : String) (t t' : SubProfile), s.profiles[n]? = some t →
    s'.profiles[n]? = some t' → t'.extra = t.extra
  /-- No two records name the same field of the same sub-profile. -/
  distinct : (log.map fun u => (u.profile, u.field)).Nodup
  /-- A record names the scenario and a field, with the field's texts before and after, which
  differ. -/
  recorded : ∀ u ∈ log, u.scenario = scenario ∧ ∃ (t t' : SubProfile) (f : Field),
    s.profiles[u.profile]? = some t ∧
    s'.profiles[u.profile]? = some t' ∧ u.field = f.key ∧ u.before = t.fieldText f ∧
    u.after = t'.fieldText f ∧ u.before ≠ u.after
  /-- A field is logged exactly when its value changes. -/
  logged_iff : ∀ (n : String) (t t' : SubProfile) (f : Field), s.profiles[n]? = some t →
    s'.profiles[n]? = some t' →
    ((∃ u ∈ log, u.profile = n ∧ u.field = f.key) ↔ ¬ t.SameAt t' f)

namespace ExactLog

variable {scenario : String} {s s' : Scenario} {post : String → SubProfile → SubProfile}
  {fields : String → List Field} {names : List String}

theorem profile_of_mem_diff {profile : String} {t t' : SubProfile} {fields : List Field}
    {u : UpdateRecord} (logged : u ∈ SubProfile.diff scenario profile t t' fields) :
    u.profile = profile := by
  obtain ⟨f, -, -, rfl⟩ := SubProfile.mem_diff.1 logged
  rfl

/-- The records of a rewrite of one sub-profile over distinct fields name distinct fields. -/
theorem keys_nodup {profile : String} {t t' : SubProfile} {fields : List Field}
    (distinct : fields.Nodup) :
    ((SubProfile.diff scenario profile t t' fields).map fun u => (u.profile, u.field)).Nodup :=
  (SubProfile.diff_keys_sublist t t' fields).nodup
    (distinct.map fun _ _ same => Field.key_injective (congrArg Prod.snd same))

theorem profile_of_mem_keys {n : String} {p : String × String}
    (logged : p ∈ ((s.profiles[n]?).elim [] fun t => SubProfile.diff scenario n t (post n t)
      (fields n)).map fun u => (u.profile, u.field)) : p.1 = n := by
  obtain ⟨u, member, rfl⟩ := List.mem_map.1 logged
  cases found : s.profiles[n]? with
  | none => simp [found] at member
  | some t =>
    rw [found, Option.elim_some] at member
    exact profile_of_mem_diff member

/-- A field that `post` changes is logged, when its sub-profile is one of `names`. -/
theorem logged_of_changed (unnamed : ∀ n ∉ names, fields n = [])
    (outside : ∀ (n : String) (t : SubProfile) (f : Field), f ∉ fields n →
      t.SameAt (post n t) f)
    {n : String} {t : SubProfile}
    {f : Field} (found : s.profiles[n]? = some t) (changed : ¬ t.SameAt (post n t) f) :
    ∃ u ∈ s.diff scenario post fields names, u.profile = n ∧ u.field = f.key := by
  have written : f ∈ fields n := by
    by_contra untouched
    exact changed (outside n t f untouched)
  have named : n ∈ names := by
    by_contra other
    rw [unnamed n other] at written
    cases written
  refine ⟨⟨scenario, n, f.key, t.fieldText f, (post n t).fieldText f⟩, ?_, rfl, rfl⟩
  refine Scenario.mem_diff.2
    ⟨n, named, t, found, SubProfile.mem_diff.2 ⟨f, written, ?_, rfl⟩⟩
  exact fun same => changed (SubProfile.fieldText_eq_iff.1 same)

/-- The log of a rewrite of a scenario by `post` over distinct sub-profiles, each over
distinct fields, is exact, when `post` changes only those fields and keeps extra fields. -/
theorem of_diff (other : s'.other = s.other)
    (profiles : ∀ n, s'.profiles[n]? = (s.profiles[n]?).map (post n))
    (extra : ∀ (n : String) (t : SubProfile), (post n t).extra = t.extra)
    (distinctNames : names.Nodup) (distinctFields : ∀ n, (fields n).Nodup)
    (unnamed : ∀ n ∉ names, fields n = [])
    (outside : ∀ (n : String) (t : SubProfile) (f : Field), f ∉ fields n →
      t.SameAt (post n t) f) :
    ExactLog scenario s s' (s.diff scenario post fields names) where
  other := other
  present n := by
    rw [Std.TreeMap.mem_iff_isSome_getElem?, Std.TreeMap.mem_iff_isSome_getElem?, profiles,
      Option.isSome_map]
  unlogged n untouched := by
    rw [profiles]
    cases found : s.profiles[n]? with
    | none => rfl
    | some t =>
      refine congrArg some (SubProfile.eq_of_sameAt (fun f => ?_) (extra n t).symm).symm
      by_contra changed
      obtain ⟨u, logged, named, -⟩ := logged_of_changed unnamed outside found changed
      exact untouched u logged named
  extra n t t' found found' := by
    rw [profiles, found, Option.map_some, Option.some.injEq] at found'
    rw [← found', extra]
  distinct := by
    unfold Scenario.diff
    rw [List.map_flatMap, List.nodup_flatMap]
    refine ⟨fun n _ => ?_, distinctNames.imp fun {a b} different => ?_⟩
    · cases s.profiles[n]? with
      | none => exact List.nodup_nil
      | some t => exact keys_nodup (distinctFields n)
    · exact List.disjoint_left.2 fun p inA inB =>
        different ((profile_of_mem_keys inA).symm.trans (profile_of_mem_keys inB))
  recorded u logged := by
    obtain ⟨n, -, t, found, logged⟩ := Scenario.mem_diff.1 logged
    obtain ⟨f, -, changed, rfl⟩ := SubProfile.mem_diff.1 logged
    exact ⟨rfl, t, post n t, f, found, by rw [profiles, found]; rfl, rfl, rfl, rfl, changed⟩
  logged_iff n t t' f found found' := by
    rw [profiles, found, Option.map_some, Option.some.injEq] at found'
    subst found'
    constructor
    · rintro ⟨u, logged, named, keyed⟩ same
      obtain ⟨n', -, t'', found'', logged⟩ := Scenario.mem_diff.1 logged
      obtain ⟨f', -, changed, rfl⟩ := SubProfile.mem_diff.1 logged
      cases named
      cases Field.key_injective keyed
      rw [found, Option.some.injEq] at found''
      subst found''
      exact changed (SubProfile.fieldText_eq_iff.2 same)
    · exact logged_of_changed unnamed outside found

end ExactLog

/-! ## What assembly writes and logs -/

/-- The fields assembly writes into sub-profile `name`, in order. -/
def assemblyFields (w : Watermarks) (name : String) : List Field :=
  if name ∈ xoffProfiles then Field.ofCounts w.xoffCounts
  else if name ∈ xonProfiles then Field.ofCounts w.xonCounts
  else if name = headroomPoolProfile then SubProfile.poolFields w
  else []

theorem assemblyFields_nodup (w : Watermarks) (name : String) : (assemblyFields w name).Nodup := by
  unfold assemblyFields SubProfile.poolFields
  split_ifs <;> simp [Field.ofCounts, Watermarks.xoffCounts, Watermarks.xonCounts]

theorem assemblyFields_of_not_mem {w : Watermarks} {name : String}
    (other : name ∉ marginProfiles ++ [headroomPoolProfile]) : assemblyFields w name = [] := by
  simp only [marginProfiles, List.mem_append, List.mem_singleton, not_or] at other
  simp [assemblyFields, other.1.1, other.1.2, other.2]

namespace SubProfile

theorem sameAt_assembledPool (w : Watermarks) (t : SubProfile) {f : Field}
    (other : f ∉ poolFields w) : t.SameAt (t.assembledPool w) f := by
  have counted : f ∉ Field.ofCounts [(.trigPfc, w.trigPfc), (.hdrmFull, w.headroomCells),
      (.margin, t.poolMargin), (.hdrmPartial, w.headroomCells - t.poolMargin)] :=
    fun written => other (List.mem_append_left _ written)
  unfold assembledPool
  split
  next dynamic =>
    cases f with
    | count c => cases c <;> exact sameAt_setAll t counted
    | dynamicThreshold => exact absurd (by simp [poolFields, dynamic]) other
  next => exact sameAt_setAll t counted

/-- Assembly changes only the fields it writes. -/
theorem sameAt_assembledAs (w : Watermarks) (name : String) (t : SubProfile) {f : Field}
    (other : f ∉ assemblyFields w name) : t.SameAt (t.assembledAs w name) f := by
  unfold assembledAs
  unfold assemblyFields at other
  split_ifs at other ⊢
  · exact sameAt_setAll t other
  · exact sameAt_setAll t other
  · exact sameAt_assembledPool w t other
  · exact SameAt.refl t f

theorem assembledAs_extra (w : Watermarks) (name : String) (t : SubProfile) :
    (t.assembledAs w name).extra = t.extra := by
  unfold assembledAs assembledPool
  split_ifs <;> simp [setAll_extra]

end SubProfile

namespace Scenario

/-- The log assembly makes of scenario `s`, named `scenario`: the difference each written
sub-profile undergoes, over the fields written into it, in the order they are written. -/
def assemblyLog (s : Scenario) (scenario : String) (w : Watermarks) : List UpdateRecord :=
  s.diff scenario (SubProfile.assembledAs w) (assemblyFields w)
    (marginProfiles ++ [headroomPoolProfile])

theorem diff_append {s : Scenario} {scenario : String} {post : String → SubProfile → SubProfile}
    {fields : String → List Field} (names names' : List String) :
    s.diff scenario post fields (names ++ names') =
      s.diff scenario post fields names ++ s.diff scenario post fields names' := by
  simp [diff, List.flatMap_append]

theorem assembleProfiles_log (s : Scenario) (scenario : String) (counts : List (Count × Int64))
    (distinctCounts : (counts.map Prod.fst).Nodup) (names : List String) (distinct : names.Nodup) :
    (s.assembleProfiles scenario counts names).Ensures fun r =>
      r.2 = s.diff scenario (fun _ t => t.setAll counts) (fun _ => Field.ofCounts counts)
        names := by
  induction names generalizing s with
  | nil => exact ensures_pure rfl
  | cons name rest ih =>
    obtain ⟨fresh, distinct⟩ := List.nodup_cons.1 distinct
    unfold assembleProfiles
    split
    next => exact ensures_fail
    next t found =>
      have found' : s.profiles[name]? = some t := by simpa using found
      refine ensures_bind ((SubProfile.writeCounts_ensures _ _ t _).and
        (SubProfile.writeCounts_logs t counts distinctCounts)) ?_
      rintro ⟨t', first⟩ ⟨rfl, logged⟩
      refine ensures_bind (ih _ distinct) ?_
      rintro ⟨s', later⟩ rfl
      refine ensures_pure ?_
      have others : (s.putProfile name (t.setAll counts)).diff scenario (fun _ t => t.setAll counts)
          (fun _ => Field.ofCounts counts) rest =
          s.diff scenario (fun _ t => t.setAll counts) (fun _ => Field.ofCounts counts) rest :=
        diff_congr (fun n member => by
          rw [putProfile_profiles, if_neg fun same => fresh (by rw [same]; exact member)])
          (fun _ _ _ => rfl) fun _ _ => rfl
      have logged' : first = SubProfile.diff scenario name t (t.setAll counts)
          (Field.ofCounts counts) := logged.log
      show first ++ _ = _
      rw [others, logged']
      simp [diff, found']

theorem assemble_log (s : Scenario) (scenario : String) (w : Watermarks) :
    (s.assemble scenario w).Ensures fun r => r.2 = s.assemblyLog scenario w := by
  unfold assemble
  refine ensures_bind ((assembleProfiles_ensures s scenario w.xoffCounts xoffProfiles
    (by decide)).and (assembleProfiles_log s scenario w.xoffCounts
      (by simp [Watermarks.xoffCounts]) xoffProfiles (by decide))) ?_
  rintro ⟨s₁, xoff⟩ ⟨⟨-, -, profiles₁⟩, rfl⟩
  dsimp only
  refine ensures_bind ((assembleProfiles_ensures s₁ scenario w.xonCounts xonProfiles
    (by decide)).and (assembleProfiles_log s₁ scenario w.xonCounts
      (by simp [Watermarks.xonCounts]) xonProfiles (by decide))) ?_
  rintro ⟨s₂, xon⟩ ⟨⟨-, -, profiles₂⟩, rfl⟩
  dsimp only
  have xoffPart : s.diff scenario (fun _ t => t.setAll w.xoffCounts)
      (fun _ => Field.ofCounts w.xoffCounts) xoffProfiles =
      s.diff scenario (SubProfile.assembledAs w) (assemblyFields w) xoffProfiles :=
    diff_congr (fun _ _ => rfl) (fun n member t => by simp [SubProfile.assembledAs, member])
      fun n member => by simp [assemblyFields, member]
  have xonPart : s₁.diff scenario (fun _ t => t.setAll w.xonCounts)
      (fun _ => Field.ofCounts w.xonCounts) xonProfiles =
      s.diff scenario (SubProfile.assembledAs w) (assemblyFields w) xonProfiles := by
    refine diff_congr (fun n member => ?_) (fun n member t => ?_) fun n member => ?_
    · rw [profiles₁, if_neg (not_mem_xoffProfiles_of_mem_xonProfiles member)]
    · simp [SubProfile.assembledAs, not_mem_xoffProfiles_of_mem_xonProfiles member, member]
    · simp [assemblyFields, not_mem_xoffProfiles_of_mem_xonProfiles member, member]
  have poolUntouched : s₂.profiles[headroomPoolProfile]? = s.profiles[headroomPoolProfile]? := by
    rw [profiles₂, profiles₁]
    simp [xonProfiles, xoffProfiles, headroomPoolProfile]
  rw [assemblyLog, marginProfiles, diff_append, diff_append, ← xoffPart, ← xonPart]
  split
  next found =>
    have missing : s.profiles[headroomPoolProfile]? = none := by
      rw [← poolUntouched]
      simpa using found
    exact ensures_pure (by simp [diff, missing])
  next t found =>
    have present : s.profiles[headroomPoolProfile]? = some t := by
      rw [← poolUntouched]
      simpa using found
    refine ensures_bind ((SubProfile.assembleHeadroomPool_logs t scenario w).and
      (SubProfile.assembleHeadroomPool_ensures t scenario w)) ?_
    rintro ⟨t', pool⟩ ⟨logged, rfl⟩
    have logged' : pool = SubProfile.diff scenario headroomPoolProfile t (t.assembledPool w)
        (SubProfile.poolFields w) := logged.log
    have assembled : t.assembledAs w headroomPoolProfile = t.assembledPool w := by
      simp [SubProfile.assembledAs, xoffProfiles, xonProfiles, headroomPoolProfile]
    have poolFields : assemblyFields w headroomPoolProfile = SubProfile.poolFields w := by
      simp [assemblyFields, xoffProfiles, xonProfiles, headroomPoolProfile]
    refine ensures_pure ?_
    show _ ++ _ ++ pool = _
    simp [logged', diff, present, assembled, poolFields]

/-- Putting in a sub-profile the scenario has already keeps which names it contains. -/
theorem contains_putProfile {s : Scenario} {name : String} (t : SubProfile)
    (there : name ∈ s.profiles) (n : String) :
    (s.putProfile name t).profiles.contains n = s.profiles.contains n := by
  rw [Bool.eq_iff_iff, Std.TreeMap.contains_iff_mem, Std.TreeMap.contains_iff_mem, mem_putProfile]
  exact ⟨fun held => held.elim (fun same => by rw [← same]; exact there) id, .inr⟩

/-- Writing named sub-profiles fails at the first one missing, naming it. -/
theorem assembleProfiles_throws {s : Scenario} (scenario : String)
    (counts : List (Count × Int64)) {names : List String} {name : String}
    (first : names.find? (fun n => !s.profiles.contains n) = some name) :
    (s.assembleProfiles scenario counts names).Throws
      (.broken .missingSubProfile (profilePath scenario name)) := by
  induction names generalizing s with
  | nil => cases first
  | cons head rest ih =>
    unfold assembleProfiles
    split
    next missing =>
      have absent : (!s.profiles.contains head) = true := by
        rw [Std.TreeMap.contains_eq_isSome_getElem?, ← Std.TreeMap.get?_eq_getElem?, missing]
        rfl
      have found : (head :: rest).find? (fun n => !s.profiles.contains n) = some head :=
        List.find?_cons_of_pos absent
      rw [found, Option.some.injEq] at first
      subst first
      exact throws_fail _
    next t found =>
      have there : head ∈ s.profiles :=
        Std.TreeMap.mem_iff_isSome_getElem?.2 (by simp [← Std.TreeMap.get?_eq_getElem?, found])
      have passed : (head :: rest).find? (fun n => !s.profiles.contains n) =
          rest.find? (fun n => !s.profiles.contains n) :=
        List.find?_cons_of_neg (by simpa [Std.TreeMap.contains_iff_mem] using there)
      rw [passed] at first
      refine throws_bind_of_safe (SubProfile.writeCounts_safe _ _ t _) ?_
      rintro ⟨t', written⟩ -
      refine throws_bind (ih ?_)
      simp only [contains_putProfile t' there]
      exact first

/-- Assembly fails at the first xoff or xon sub-profile missing, naming it. -/
theorem assemble_throws {s : Scenario} (scenario : String) (w : Watermarks) {name : String}
    (first : marginProfiles.find? (fun n => !s.profiles.contains n) = some name) :
    (s.assemble scenario w).Throws (.broken .missingSubProfile (profilePath scenario name)) := by
  unfold assemble
  rw [marginProfiles, List.find?_append] at first
  cases xoffFirst : xoffProfiles.find? (fun n => !s.profiles.contains n) with
  | some name' =>
    rw [xoffFirst, Option.some_or, Option.some.injEq] at first
    subst first
    exact throws_bind (assembleProfiles_throws scenario _ xoffFirst)
  | none =>
    rw [xoffFirst, Option.none_or] at first
    have xoffPresent : ∀ n ∈ xoffProfiles, n ∈ s.profiles := fun n member => by
      simpa [Std.TreeMap.contains_iff_mem] using List.find?_eq_none.1 xoffFirst n member
    refine throws_bind_of_safe (assembleProfiles_safe scenario _ xoffPresent) ?_
    rintro ⟨s₁, xoff⟩ returned
    obtain ⟨-, -, profiles₁⟩ :=
      assembleProfiles_ensures s scenario w.xoffCounts xoffProfiles (by decide) _ returned
    have kept : ∀ n, s₁.profiles.contains n = s.profiles.contains n := fun n => by
      rw [Std.TreeMap.contains_eq_isSome_getElem?, Std.TreeMap.contains_eq_isSome_getElem?,
        profiles₁]
      split <;> simp
    refine throws_bind (assembleProfiles_throws scenario _ ?_)
    simp only [kept]
    exact first

/-- Assembly's log is exact. With its xoff and xon sub-profiles present, assembly of scenario
`s`, named `scenario`, succeeds; it logs `assemblyLog`, which is the exact log of its rewrite
of `s`: each written sub-profile as `assembledAs` leaves it, and all else as it was. The
result is left as it is by a second assembly, which logs nothing. With one of them missing,
assembly fails at the first, naming it. -/
theorem assemble_logs_exactly (s : Scenario) (scenario : String) (w : Watermarks) :
    ((∀ n ∈ marginProfiles, n ∈ s.profiles) → (s.assemble scenario w).Succeeds fun r =>
      r.2 = s.assemblyLog scenario w ∧ ExactLog scenario s r.1 r.2 ∧
      (∀ n, r.1.profiles[n]? = (s.profiles[n]?).map (SubProfile.assembledAs w n)) ∧
      (r.1.assemble scenario w).Yields (r.1, [])) ∧
    (∀ name, marginProfiles.find? (fun n => !s.profiles.contains n) = some name →
      (s.assemble scenario w).Throws (.broken .missingSubProfile (profilePath scenario name))) := by
  refine ⟨fun present => (assemble_safe scenario w present).succeeds ?_,
    fun name first => assemble_throws scenario w first⟩
  refine ((assemble_log s scenario w).and (assemble_ensures s scenario w)).mono ?_
  rintro ⟨s', log⟩ ⟨rfl, -, other, profiles⟩
  refine ⟨rfl, ExactLog.of_diff other profiles (SubProfile.assembledAs_extra w) (by decide)
    (assemblyFields_nodup w) (fun _ => assemblyFields_of_not_mem)
    (fun n t _ => SubProfile.sameAt_assembledAs w n t), profiles, ?_⟩
  exact assemble_of_assembled scenario
    (fun n member => Std.TreeMap.mem_iff_isSome_getElem?.1 (present n member)) profiles

end Scenario

/-! ## Assembling a scenario with one field in place

The xoff sub-profile `xoff_1` already triggers PFC where assembly would; every other field
of the xoff and xon sub-profiles is unset, and there is no headroom-pool sub-profile. -/

namespace LogSample

def triggered : SubProfile := { trigPfc := some 3185 }

def block : Scenario :=
  { profiles := ((((∅ : Std.TreeMap String SubProfile).insert "xoff_1" triggered).insert
      "xoff_2" {}).insert "xon_1" {}).insert "xon_2" {} }

/-- The same scenario without `xon_2`. -/
def short : Scenario := { profiles := block.profiles.erase "xon_2" }

def watermarks : Watermarks :=
  { pgMinCells := 4, availableSharedCells := 3181, headroomCells := 152, pgResetOffsetCells := 52 }

theorem present : ∀ n ∈ marginProfiles, n ∈ block.profiles := by decide

theorem log : block.assemblyLog "100000_5m" watermarks =
    [⟨"100000_5m", "xoff_1", "pkts_num_trig_ingr_drp", "", "3337"⟩,
      ⟨"100000_5m", "xoff_2", "pkts_num_trig_pfc", "", "3185"⟩,
      ⟨"100000_5m", "xoff_2", "pkts_num_trig_ingr_drp", "", "3337"⟩,
      ⟨"100000_5m", "xon_1", "pkts_num_trig_pfc", "", "3185"⟩,
      ⟨"100000_5m", "xon_1", "pkts_num_dismiss_pfc", "", "52"⟩,
      ⟨"100000_5m", "xon_2", "pkts_num_trig_pfc", "", "3185"⟩,
      ⟨"100000_5m", "xon_2", "pkts_num_dismiss_pfc", "", "52"⟩] := by
  decide

theorem missing : marginProfiles.find? (fun n => !short.profiles.contains n) = some "xon_2" := by
  decide

end LogSample

/-- The sample logs the seven fields assembly changes and not the one already in place, and
without `xon_2` it fails naming that sub-profile. -/
theorem assemble_logs_exactly_sample :
    (LogSample.block.assemble "100000_5m" LogSample.watermarks).Succeeds (fun r => r.2 =
      [⟨"100000_5m", "xoff_1", "pkts_num_trig_ingr_drp", "", "3337"⟩,
        ⟨"100000_5m", "xoff_2", "pkts_num_trig_pfc", "", "3185"⟩,
        ⟨"100000_5m", "xoff_2", "pkts_num_trig_ingr_drp", "", "3337"⟩,
        ⟨"100000_5m", "xon_1", "pkts_num_trig_pfc", "", "3185"⟩,
        ⟨"100000_5m", "xon_1", "pkts_num_dismiss_pfc", "", "52"⟩,
        ⟨"100000_5m", "xon_2", "pkts_num_trig_pfc", "", "3185"⟩,
        ⟨"100000_5m", "xon_2", "pkts_num_dismiss_pfc", "", "52"⟩]) ∧
    (LogSample.short.assemble "100000_5m" LogSample.watermarks).Throws
      (.broken .missingSubProfile (profilePath "100000_5m" "xon_2")) :=
  ⟨((Scenario.assemble_logs_exactly _ _ _).1 LogSample.present).mono
      fun _ done => done.1.trans LogSample.log,
    (Scenario.assemble_logs_exactly _ _ _).2 _ LogSample.missing⟩

end LosslessBuffer
