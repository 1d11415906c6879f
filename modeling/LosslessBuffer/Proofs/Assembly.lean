import LosslessBuffer.Params.Assembly
import LosslessBuffer.Proofs.Step
import LosslessBuffer.Proofs.Maps
/-!
# What assembly writes

`Scenario.assemble` writes the watermarks of a calculation into the sub-profiles of a
scenario, one field at a time, skipping a field that holds its value already. Its effect on
the scenario is a pure function of each sub-profile (`SubProfile.assembledAs`):

* the xoff sub-profiles get the PFC trigger and the ingress-drop trigger;
* the xon sub-profiles get the PFC trigger and the PFC dismissal;
* the headroom-pool sub-profile gets the PFC trigger, its fill, a margin of at least
  `defaultMargin` (`SubProfile.poolMargin`) and the partial fill under that margin, and is
  marked dynamic when the pool is;
* every other sub-profile, every other field, the extra fields and the other settings of the
  scenario stay as they were.

`Scenario.assemble_ensures` says so of every successful run, and a run fails only when an
xoff or xon sub-profile is missing (`Scenario.assemble_safe`). Each written field then holds
its value, so assembling the result again writes nothing and gives back the same scenario
(`assembledAs_idem`, `Scenario.assemble_of_fixed`).
-/

set_option autoImplicit false

namespace LosslessBuffer

open Step

/-! ## Counts of a sub-profile -/

namespace SubProfile

@[simp] theorem get_set_self (t : SubProfile) (c : Count) (v : Option Int64) :
    (t.set c v).get c = v := by
  cases c <;> rfl

theorem get_set_of_ne (t : SubProfile) {c c' : Count} (v : Option Int64) (h : c ≠ c') :
    (t.set c v).get c' = t.get c' := by
  cases c <;> cases c' <;> first | rfl | exact absurd rfl h

@[simp] theorem set_get_self (t : SubProfile) (c : Count) : t.set c (t.get c) = t := by
  cases c <;> rfl

@[simp] theorem set_extra (t : SubProfile) (c : Count) (v : Option Int64) :
    (t.set c v).extra = t.extra := by
  cases c <;> rfl

@[simp] theorem set_dynamicThreshold (t : SubProfile) (c : Count) (v : Option Int64) :
    (t.set c v).dynamicThreshold = t.dynamicThreshold := by
  cases c <;> rfl

/-- A sub-profile with counts set in order. -/
def setAll (t : SubProfile) : List (Count × Int64) → SubProfile
  | [] => t
  | (c, v) :: rest => (t.set c (some v)).setAll rest

@[simp] theorem setAll_nil (t : SubProfile) : t.setAll [] = t := rfl

@[simp] theorem setAll_cons (t : SubProfile) (c : Count) (v : Int64)
    (rest : List (Count × Int64)) : t.setAll ((c, v) :: rest) = (t.set c (some v)).setAll rest :=
  rfl

/-- The margin of the headroom pool: the sub-profile's own when above `defaultMargin`, else
`defaultMargin`. -/
def poolMargin (t : SubProfile) : Int64 :=
  match t.margin with
  | some m => if m > defaultMargin then m else defaultMargin
  | none => defaultMargin

theorem defaultMargin_le_poolMargin (t : SubProfile) : defaultMargin ≤ t.poolMargin := by
  unfold poolMargin
  split
  next m _ =>
    split
    next above => exact Int64.le_of_lt above
    next => exact Int64.le_refl _
  next => exact Int64.le_refl _

/-- A margin of at least `defaultMargin` is kept. -/
theorem poolMargin_of_le {t : SubProfile} {m : Int64} (h : t.margin = some m)
    (hm : defaultMargin ≤ m) : t.poolMargin = m := by
  unfold poolMargin
  rw [h]
  simp only
  split
  next => rfl
  next below => exact Int64.le_antisymm hm (Int64.not_lt.1 below)

end SubProfile

/-- The counts written into both xoff sub-profiles. -/
def Watermarks.xoffCounts (w : Watermarks) : List (Count × Int64) :=
  [(.trigPfc, w.trigPfc), (.trigIngrDrp, w.trigPfc + w.headroomCells)]

/-- The counts written into both xon sub-profiles. -/
def Watermarks.xonCounts (w : Watermarks) : List (Count × Int64) :=
  [(.trigPfc, w.trigPfc), (.dismissPfc, w.pgResetOffsetCells)]

namespace SubProfile

/-- The headroom-pool sub-profile as assembly leaves it. -/
def assembledPool (w : Watermarks) (t : SubProfile) : SubProfile :=
  let written := t.setAll [(.trigPfc, w.trigPfc), (.hdrmFull, w.headroomCells),
    (.margin, t.poolMargin), (.hdrmPartial, w.headroomCells - t.poolMargin)]
  if w.dynamicPool then { written with dynamicThreshold := some true } else written

/-- The sub-profile `name` as assembly leaves it. -/
def assembledAs (w : Watermarks) (name : String) (t : SubProfile) : SubProfile :=
  if name ∈ xoffProfiles then t.setAll w.xoffCounts
  else if name ∈ xonProfiles then t.setAll w.xonCounts
  else if name = headroomPoolProfile then t.assembledPool w
  else t

end SubProfile

/-! ## Writing one field -/

theorem recordUpdate_yields (u : UpdateRecord) : (recordUpdate u).Yields () :=
  yields_bind (yields_traced _) (yields_log _ _)

namespace SubProfile

variable (scenario profile : String)

theorem writeCount_ensures (t : SubProfile) (c : Count) (v : Int64) :
    (t.writeCount scenario profile c v).Ensures (·.1 = t.set c (some v)) := by
  unfold writeCount
  split
  next holds =>
    have same : t.get c = some v := by simpa using holds
    exact ensures_pure (by simp [← same])
  next =>
    exact ensures_bind (fun _ _ => trivial) fun _ _ => ensures_pure rfl

/-- A field holding its value is not written. -/
theorem writeCount_of_get {t : SubProfile} {c : Count} {v : Int64} (h : t.get c = some v) :
    (t.writeCount scenario profile c v).Yields (t, []) := by
  unfold writeCount
  rw [if_pos (by simp [h])]
  exact yields_pure _

theorem writeCounts_ensures (t : SubProfile) (counts : List (Count × Int64)) :
    (t.writeCounts scenario profile counts).Ensures (·.1 = t.setAll counts) := by
  induction counts generalizing t with
  | nil => exact ensures_pure rfl
  | cons head rest ih =>
    obtain ⟨c, v⟩ := head
    refine ensures_bind (writeCount_ensures scenario profile t c v) ?_
    rintro ⟨t', first⟩ rfl
    exact ensures_bind (ih _) fun ⟨t'', later⟩ written => ensures_pure written

theorem writeCounts_of_get {t : SubProfile} {counts : List (Count × Int64)}
    (h : ∀ cv ∈ counts, t.get cv.1 = some cv.2) :
    (t.writeCounts scenario profile counts).Yields (t, []) := by
  induction counts with
  | nil => exact yields_pure _
  | cons head rest ih =>
    obtain ⟨c, v⟩ := head
    exact yields_bind (writeCount_of_get scenario profile (h (c, v) List.mem_cons_self))
      (yields_bind (ih fun cv hcv => h cv (List.mem_cons_of_mem _ hcv)) (yields_pure _))

theorem writeFlag_ensures (t : SubProfile) (v : Bool) :
    (t.writeFlag scenario profile v).Ensures (·.1 = { t with dynamicThreshold := some v }) := by
  unfold writeFlag
  split
  next holds =>
    have same : t.dynamicThreshold = some v := by simpa using holds
    exact ensures_pure (by rw [← same])
  next =>
    exact ensures_bind (fun _ _ => trivial) fun _ _ => ensures_pure rfl

theorem writeFlag_of_get {t : SubProfile} {v : Bool} (h : t.dynamicThreshold = some v) :
    (t.writeFlag scenario profile v).Yields (t, []) := by
  unfold writeFlag
  rw [if_pos (by simp [h])]
  exact yields_pure _

theorem writeCount_safe (t : SubProfile) (c : Count) (v : Int64) :
    (t.writeCount scenario profile c v).Safe := by
  unfold writeCount
  split
  next => exact (yields_pure _).safe
  next => exact safe_bind_of_yields (recordUpdate_yields _) (yields_pure _).safe

theorem writeCounts_safe (t : SubProfile) (counts : List (Count × Int64)) :
    (t.writeCounts scenario profile counts).Safe := by
  induction counts generalizing t with
  | nil => exact (yields_pure _).safe
  | cons head rest ih =>
    obtain ⟨c, v⟩ := head
    exact safe_bind (writeCount_safe _ _ t c v) fun _ _ =>
      safe_bind (ih _) fun _ _ => (yields_pure _).safe

theorem writeFlag_safe (t : SubProfile) (v : Bool) : (t.writeFlag scenario profile v).Safe := by
  unfold writeFlag
  split
  next => exact (yields_pure _).safe
  next => exact safe_bind_of_yields (recordUpdate_yields _) (yields_pure _).safe

/-! ## The headroom-pool sub-profile -/

theorem assembleHeadroomPool_ensures (t : SubProfile) (scenario : String) (w : Watermarks) :
    (t.assembleHeadroomPool scenario w).Ensures (·.1 = t.assembledPool w) := by
  unfold assembleHeadroomPool
  refine ensures_bind (writeCounts_ensures _ _ t _) ?_
  rintro ⟨t1, first⟩ rfl
  refine ensures_bind (writeCounts_ensures _ _ _ _) ?_
  rintro ⟨t2, second⟩ rfl
  dsimp -zeta only
  extract_lets flagged
  -- the margin the code matches on is `t.poolMargin`: the first writes leave `margin` alone
  have flaggedSpec : (flagged ()).Ensures (·.1 = t.assembledPool w) := by
    refine ensures_ite (fun dynamic => ?_) (fun static => ?_)
    · refine ensures_bind (writeFlag_ensures _ _ _ _) ?_
      rintro ⟨t3, third⟩ rfl
      exact ensures_pure (by simp [assembledPool, dynamic, set]; rfl)
    · exact ensures_pure (by simp [assembledPool, static, set]; rfl)
  refine ensures_ite (fun _ => ?_) (fun _ => flaggedSpec)
  exact ensures_bind_of_yields (yields_traced _)
    (ensures_bind_of_yields (yields_log _ _) flaggedSpec)

/-- A margin kept by the pool is kept again. -/
theorem poolMargin_assembledPool (w : Watermarks) (t : SubProfile) :
    (t.assembledPool w).poolMargin = t.poolMargin := by
  apply poolMargin_of_le _ (defaultMargin_le_poolMargin t)
  unfold assembledPool
  split <;> simp [set]

/-- On a sub-profile it has assembled, assembly writes nothing. -/
theorem assembleHeadroomPool_of_fixed {t : SubProfile} {w : Watermarks} (scenario : String)
    (fixed : t.assembledPool w = t) : (t.assembleHeadroomPool scenario w).Yields (t, []) := by
  have field : ∀ c v, (t.assembledPool w).get c = some v → t.get c = some v := by
    intro c v h
    rwa [fixed] at h
  have hfirst : ∀ cv ∈ [(Count.trigPfc, w.trigPfc), (Count.hdrmFull, w.headroomCells)],
      t.get cv.1 = some cv.2 := by
    simp only [List.mem_cons, List.not_mem_nil, or_false, forall_eq_or_imp, forall_eq]
    refine ⟨field _ _ ?_, field _ _ ?_⟩ <;> unfold assembledPool <;> split <;> simp [get, set]
  have hsecond : ∀ cv ∈ [(Count.margin, t.poolMargin),
      (Count.hdrmPartial, w.headroomCells - t.poolMargin)], t.get cv.1 = some cv.2 := by
    simp only [List.mem_cons, List.not_mem_nil, or_false, forall_eq_or_imp, forall_eq]
    refine ⟨field _ _ ?_, field _ _ ?_⟩ <;> unfold assembledPool <;> split <;> simp [get, set]
  have flag : w.dynamicPool = true → t.dynamicThreshold = some true := by
    intro dynamic
    rw [← fixed]
    simp [assembledPool, dynamic]
  unfold assembleHeadroomPool
  refine yields_bind (writeCounts_of_get _ _ hfirst) ?_
  refine yields_bind (writeCounts_of_get _ _ hsecond) ?_
  dsimp -zeta only
  extract_lets flagged
  have flaggedSpec : (flagged ()).Yields (t, []) := by
    refine yields_ite (fun dynamic => ?_) (fun _ => yields_pure _)
    exact yields_bind (writeFlag_of_get _ _ (flag dynamic)) (yields_pure _)
  refine yields_ite (fun _ => ?_) (fun _ => flaggedSpec)
  exact yields_bind (yields_traced _) (yields_bind (yields_log _ _) flaggedSpec)

theorem assembleHeadroomPool_safe (t : SubProfile) (scenario : String) (w : Watermarks) :
    (t.assembleHeadroomPool scenario w).Safe := by
  unfold assembleHeadroomPool
  refine safe_bind (writeCounts_safe _ _ t _) fun _ _ => ?_
  refine safe_bind (writeCounts_safe _ _ _ _) fun _ _ => ?_
  dsimp -zeta only
  extract_lets flagged
  have flaggedSafe : (flagged ()).Safe :=
    safe_ite (fun _ => safe_bind (writeFlag_safe _ _ _ _) fun _ _ => (yields_pure _).safe)
      fun _ => (yields_pure _).safe
  exact safe_ite (fun _ => safe_bind_of_yields (yields_traced _)
    (safe_bind_of_yields (yields_log _ _) flaggedSafe)) fun _ => flaggedSafe

end SubProfile

/-! ## Sub-profiles of a scenario -/

namespace Scenario

@[simp] theorem putProfile_other (s : Scenario) (name : String) (t : SubProfile) :
    (s.putProfile name t).other = s.other := rfl

theorem putProfile_profiles (s : Scenario) (name n : String) (t : SubProfile) :
    (s.putProfile name t).profiles[n]? = if name = n then some t else s.profiles[n]? := by
  simp [putProfile, Std.TreeMap.getElem?_insert]

theorem mem_putProfile (s : Scenario) (name n : String) (t : SubProfile) :
    n ∈ (s.putProfile name t).profiles ↔ name = n ∨ n ∈ s.profiles := by
  simp [putProfile, Std.TreeMap.mem_insert]

/-- Writing a sub-profile a scenario already has gives back the scenario. -/
theorem putProfile_eq_self {s : Scenario} {name : String} {t : SubProfile}
    (h : s.profiles[name]? = some t) : s.putProfile name t = s := by
  unfold putProfile
  rw [Std.TreeMap.insert_eq_self_of_getElem? h]

theorem assembleProfiles_ensures (s : Scenario) (scenario : String)
    (counts : List (Count × Int64)) (names : List String) (distinct : names.Nodup) :
    (s.assembleProfiles scenario counts names).Ensures fun r =>
      (∀ n ∈ names, n ∈ s.profiles) ∧ r.1.other = s.other ∧
        ∀ n, r.1.profiles[n]? =
          if n ∈ names then (s.profiles[n]?).map (·.setAll counts) else s.profiles[n]? := by
  induction names generalizing s with
  | nil => exact ensures_pure ⟨by simp, rfl, by simp⟩
  | cons name rest ih =>
    have fresh : name ∉ rest := (List.nodup_cons.1 distinct).1
    unfold assembleProfiles
    split
    next => exact ensures_fail
    next t found =>
      have found' : s.profiles[name]? = some t := by simpa using found
      refine ensures_bind (SubProfile.writeCounts_ensures _ _ t _) ?_
      rintro ⟨t', first⟩ rfl
      refine ensures_bind (ih _ (List.nodup_cons.1 distinct).2) ?_
      rintro ⟨s', later⟩ ⟨present, other, profiles⟩
      refine ensures_pure ⟨?_, other, fun n => ?_⟩
      · intro n hn
        rcases List.mem_cons.1 hn with rfl | hn
        · exact Std.TreeMap.mem_of_getElem?_eq_some found'
        · rcases (mem_putProfile _ _ _ _).1 (present n hn) with rfl | there
          · exact Std.TreeMap.mem_of_getElem?_eq_some found'
          · exact there
      · simp only [profiles, putProfile_profiles, List.mem_cons]
        by_cases here : n = name
        · subst here
          simp [fresh, found']
        · have ne : name ≠ n := Ne.symm here
          by_cases later : n ∈ rest <;> simp [here, ne, later]

theorem assembleProfiles_of_fixed {s : Scenario} (scenario : String)
    {counts : List (Count × Int64)} {names : List String}
    (fixed : ∀ n ∈ names, ∃ t, s.profiles[n]? = some t ∧ ∀ cv ∈ counts, t.get cv.1 = some cv.2) :
    (s.assembleProfiles scenario counts names).Yields (s, []) := by
  induction names with
  | nil => exact yields_pure _
  | cons name rest ih =>
    obtain ⟨t, found, holds⟩ := fixed name List.mem_cons_self
    unfold assembleProfiles
    rw [show s.profiles.get? name = some t by simpa using found]
    refine yields_bind (SubProfile.writeCounts_of_get _ _ holds) ?_
    dsimp only
    rw [putProfile_eq_self found]
    exact yields_bind (ih fun n hn => fixed n (List.mem_cons_of_mem _ hn)) (yields_pure _)

/-- The scenario a successful assembly leaves: every sub-profile as `assembledAs` writes it,
the other settings as they were; and the xoff and xon sub-profiles were there. -/
theorem assemble_ensures (s : Scenario) (scenario : String) (w : Watermarks) :
    (s.assemble scenario w).Ensures fun r =>
      (∀ n ∈ marginProfiles, n ∈ s.profiles) ∧ r.1.other = s.other ∧
        ∀ n, r.1.profiles[n]? = (s.profiles[n]?).map (SubProfile.assembledAs w n) := by
  unfold assemble
  refine ensures_bind (assembleProfiles_ensures s scenario w.xoffCounts xoffProfiles
    (by decide)) ?_
  rintro ⟨s1, xoff⟩ ⟨present1, other1, profiles1⟩
  dsimp only
  refine ensures_bind (assembleProfiles_ensures s1 scenario w.xonCounts xonProfiles
    (by decide)) ?_
  rintro ⟨s2, xon⟩ ⟨present2, other2, profiles2⟩
  dsimp only
  have present : ∀ n ∈ marginProfiles, n ∈ s.profiles := by
    intro n hn
    simp only [marginProfiles, List.mem_append] at hn
    rcases hn with hn | hn
    · exact present1 n hn
    · have there := present2 n hn
      have notXoff : n ∉ xoffProfiles := by
        simp only [xonProfiles, xoffProfiles, List.mem_cons, List.not_mem_nil, or_false] at hn ⊢
        rcases hn with rfl | rfl <;> decide
      rw [Std.TreeMap.mem_iff_isSome_getElem?, profiles1, if_neg notXoff] at there
      exact Std.TreeMap.mem_iff_isSome_getElem?.2 there
  have passes : ∀ n, n ≠ headroomPoolProfile →
      s2.profiles[n]? = (s.profiles[n]?).map (SubProfile.assembledAs w n) := by
    intro n notPool
    rw [profiles2, profiles1]
    unfold SubProfile.assembledAs
    by_cases inXoff : n ∈ xoffProfiles
    · have notXon : n ∉ xonProfiles := by
        simp only [xonProfiles, xoffProfiles, List.mem_cons, List.not_mem_nil, or_false]
          at inXoff ⊢
        rcases inXoff with rfl | rfl <;> decide
      simp [inXoff, notXon]
    · by_cases inXon : n ∈ xonProfiles
      · simp [inXoff, inXon]
      · simp [inXoff, inXon, notPool]
  have poolUntouched : s2.profiles[headroomPoolProfile]? = s.profiles[headroomPoolProfile]? := by
    rw [profiles2, profiles1]
    simp [xonProfiles, xoffProfiles, headroomPoolProfile]
  split
  next found =>
    refine ensures_pure ⟨present, other2.trans other1, fun n => ?_⟩
    by_cases isPool : n = headroomPoolProfile
    · subst isPool
      rw [← poolUntouched, show s2.profiles[headroomPoolProfile]? = none by simpa using found]
      rfl
    · exact passes n isPool
  next t found =>
    refine ensures_bind (SubProfile.assembleHeadroomPool_ensures t scenario w) ?_
    rintro ⟨t', pool⟩ rfl
    dsimp only
    refine ensures_pure ⟨present, other2.trans other1, fun n => ?_⟩
    simp only [putProfile_profiles]
    by_cases isPool : headroomPoolProfile = n
    · subst isPool
      rw [if_pos rfl, ← poolUntouched, show s2.profiles[headroomPoolProfile]? = some t by
        simpa using found]
      simp [SubProfile.assembledAs, xoffProfiles, xonProfiles, headroomPoolProfile]
    · rw [if_neg isPool]
      exact passes n (Ne.symm isPool)

theorem assembleProfiles_safe {s : Scenario} (scenario : String) (counts : List (Count × Int64))
    {names : List String} (present : ∀ n ∈ names, n ∈ s.profiles) :
    (s.assembleProfiles scenario counts names).Safe := by
  induction names generalizing s with
  | nil => exact (yields_pure _).safe
  | cons name rest ih =>
    unfold assembleProfiles
    split
    next missing =>
      have there := Std.TreeMap.mem_iff_isSome_getElem?.1 (present name List.mem_cons_self)
      simp_all
    next t found =>
      refine safe_bind (SubProfile.writeCounts_safe _ _ t _) fun ⟨t', first⟩ _ => ?_
      refine safe_bind (ih fun n member => ?_) fun _ _ => (yields_pure _).safe
      exact (mem_putProfile _ _ _ _).2 (.inr (present n (List.mem_cons_of_mem _ member)))

/-- Assembly fails only for a missing xoff or xon sub-profile. -/
theorem assemble_safe {s : Scenario} (scenario : String) (w : Watermarks)
    (present : ∀ n ∈ marginProfiles, n ∈ s.profiles) : (s.assemble scenario w).Safe := by
  unfold assemble
  refine safe_bind (assembleProfiles_safe scenario _ fun n member =>
    present n (List.mem_append_left _ member)) fun ⟨s1, xoff⟩ returned => ?_
  obtain ⟨-, -, profiles1⟩ := assembleProfiles_ensures s scenario w.xoffCounts xoffProfiles
    (by decide) _ returned
  refine safe_bind (assembleProfiles_safe scenario _ fun n member => ?_) fun ⟨s2, xon⟩ _ => ?_
  · rw [Std.TreeMap.mem_iff_isSome_getElem?, profiles1]
    have there := Std.TreeMap.mem_iff_isSome_getElem?.1
      (present n (List.mem_append_right _ member))
    split <;> simp [there]
  · dsimp only
    split
    next => exact (yields_pure _).safe
    next t _ =>
      exact safe_bind (SubProfile.assembleHeadroomPool_safe _ _ _) fun _ _ => (yields_pure _).safe

end Scenario

namespace SubProfile

theorem assembledPool_idem (w : Watermarks) (t : SubProfile) :
    (t.assembledPool w).assembledPool w = t.assembledPool w := by
  have kept := poolMargin_assembledPool w t
  unfold assembledPool at kept ⊢
  rw [kept]
  split <;> simp [set]

/-- Assembling an assembled sub-profile changes nothing. -/
theorem assembledAs_idem (w : Watermarks) (name : String) (t : SubProfile) :
    (t.assembledAs w name).assembledAs w name = t.assembledAs w name := by
  unfold assembledAs
  by_cases inXoff : name ∈ xoffProfiles
  · simp [inXoff, Watermarks.xoffCounts, set]
  · by_cases inXon : name ∈ xonProfiles
    · simp [inXoff, inXon, Watermarks.xonCounts, set]
    · by_cases isPool : name = headroomPoolProfile
      · subst isPool
        simpa [xoffProfiles, xonProfiles, headroomPoolProfile] using assembledPool_idem w t
      · simp [inXoff, inXon, isPool]

end SubProfile

namespace Scenario

/-- On a scenario whose sub-profiles assembly would leave as they are, assembly writes nothing
and gives back the scenario. -/
theorem assemble_of_fixed {s : Scenario} (scenario : String) {w : Watermarks}
    (present : ∀ n ∈ marginProfiles, n ∈ s.profiles)
    (fixed : ∀ (n : String) (t : SubProfile), s.profiles[n]? = some t → t.assembledAs w n = t) :
    (s.assemble scenario w).Yields (s, []) := by
  have holds : ∀ (names : List String) (counts : List (Count × Int64)), names ⊆ marginProfiles →
      (∀ n ∈ names, ∀ t : SubProfile, t.assembledAs w n = t → ∀ cv ∈ counts, t.get cv.1 = some cv.2) →
      ∀ n ∈ names, ∃ t, s.profiles[n]? = some t ∧ ∀ cv ∈ counts, t.get cv.1 = some cv.2 := by
    intro names counts sub written n hn
    obtain ⟨t, found⟩ := Option.isSome_iff_exists.1
      (Std.TreeMap.mem_iff_isSome_getElem?.1 (present n (sub hn)))
    exact ⟨t, found, written n hn t (fixed n t found)⟩
  unfold assemble
  refine yields_bind (assembleProfiles_of_fixed scenario (holds xoffProfiles w.xoffCounts
    (by simp [marginProfiles]) fun n hn t same => ?_)) ?_
  · rw [← same]
    simp [SubProfile.assembledAs, hn, Watermarks.xoffCounts, SubProfile.get, SubProfile.set]
  refine yields_bind (assembleProfiles_of_fixed scenario (holds xonProfiles w.xonCounts
    (by simp [marginProfiles]) fun n hn t same => ?_)) ?_
  · have notXoff : n ∉ xoffProfiles := by
      simp only [xonProfiles, xoffProfiles, List.mem_cons, List.not_mem_nil, or_false] at hn ⊢
      rcases hn with rfl | rfl <;> decide
    rw [← same]
    simp [SubProfile.assembledAs, hn, notXoff, Watermarks.xonCounts, SubProfile.get,
      SubProfile.set]
  dsimp only
  split
  next => exact yields_pure _
  next t found =>
    have found' : s.profiles[headroomPoolProfile]? = some t := by simpa using found
    have pool : t.assembledPool w = t := by
      have := fixed _ t found'
      simpa [SubProfile.assembledAs, xoffProfiles, xonProfiles, headroomPoolProfile] using this
    refine yields_bind (SubProfile.assembleHeadroomPool_of_fixed scenario pool) ?_
    rw [putProfile_eq_self found']
    exact yields_pure _

/-- A scenario assembly has written already is assembled again to itself, with no write. -/
theorem assemble_of_assembled {s : Scenario} (scenario : String) {w : Watermarks}
    {source : String → Option SubProfile}
    (present : ∀ n ∈ marginProfiles, (source n).isSome)
    (written : ∀ n, s.profiles[n]? = (source n).map (SubProfile.assembledAs w n)) :
    (s.assemble scenario w).Yields (s, []) := by
  refine assemble_of_fixed scenario (fun n member => ?_) fun n t found => ?_
  · rw [Std.TreeMap.mem_iff_isSome_getElem?, written, Option.isSome_map]
    exact present n member
  · rw [written] at found
    obtain ⟨t', -, rfl⟩ := Option.map_eq_some_iff.1 found
    exact SubProfile.assembledAs_idem w n t'

end Scenario

theorem not_mem_xoffProfiles_of_mem_xonProfiles {name : String} (member : name ∈ xonProfiles) :
    name ∉ xoffProfiles := by
  simp only [xonProfiles, List.mem_cons, List.not_mem_nil, or_false] at member
  rcases member with rfl | rfl <;> decide

/-- Assembly leaves the packet margin of the xoff and xon sub-profiles alone. -/
theorem SubProfile.assembledAs_pktsMargin (w : Watermarks) {name : String}
    (member : name ∈ marginProfiles) (t : SubProfile) :
    (t.assembledAs w name).pktsMargin = t.pktsMargin := by
  simp only [marginProfiles, List.mem_append] at member
  unfold assembledAs
  rcases member with xoff | xon
  · simp [xoff, Watermarks.xoffCounts, set]
  · simp [not_mem_xoffProfiles_of_mem_xonProfiles xon, xon, Watermarks.xonCounts, set]

end LosslessBuffer
