import Metering.Proofs.Way
import Metering.Proofs.Hot.Acts

/-!
# How a counter stays in the active index

A counter that is never seeded is renewed together with the active index, so the index lasts at
least as long as the counter. An unsettled counter is therefore active for as long as it is live,
and so is one that a cycle has listed and not yet handled.

Results:
1. `Enlists.of_live_eq`: acts that neither settle nor change a counter keep it in the index.
2. `Enlists.increment`, `Enlists.commit` and `Enlists.settle`: what the other acts do.
-/

namespace Metering.Hot.Store

open Std

/-- The active index lasts at least as long as the live record of `key`. -/
def Dated (s : Store) (now : Instant) (key : Key) : Prop :=
  ∀ entry, s.live? now key = some entry →
    ∃ expiry, s.activeExpiry = some expiry ∧ entry.expiry ≤ expiry ∧
      expiry ≤ now.addNanos s.lifespan

/-- The live record of `key` is active if it is not settled, or if it is `claimed` anyway. -/
structure Enlists (s : Store) (now : Instant) (key : Key) (claimed : Prop) : Prop where
  dated : s.Dated now key
  active : ∀ entry, s.live? now key = some entry → entry.isSettled = false ∨ claimed →
    key ∈ s.active

variable {s : Store} {now : Instant} {key : Key} {a : Act} {claimed : Prop}

/-! ## The expiry of the index -/

theorem Dated.not_overdue (h : s.Dated now key) {entry : Entry}
    (live : s.live? now key = some entry) : ¬ s.Overdue now := by
  rintro ⟨expiry, same, due⟩
  obtain ⟨expiry', same', within, -⟩ := h entry live
  cases Option.some.inj (same.symm.trans same')
  exact Int.not_le.2 (live?_eq_some.1 live).2 (Int.le_trans within due)

theorem Dated.pass (h : s.Dated now key) {later : Instant} (le : now ≤ later) :
    s.Dated later key := by
  intro entry live
  obtain ⟨expiry, same, within, bound⟩ := h entry (live?_of_le le live)
  exact ⟨expiry, same, within, Int.le_trans bound (Int.add_le_add_right le s.lifespan)⟩

/-- A record that is live after an act and was not grown by it was live before. -/
theorem live_of_act (hs : s.Scheduled) (other : ¬ a.Increments key) (unseeded : ¬ a.Seeds key)
    {entry : Entry} (live : (s.act now a).live? now key = some entry) :
    ∃ old, s.live? now key = some old ∧ old.expiry = entry.expiry := by
  obtain ⟨found, later⟩ := live?_eq_some.1 live
  have becomes := becomes_of_records hs found
  cases becomes with
  | kept _ _ _ found _ => exact ⟨entry, live?_eq_some.2 ⟨found, later⟩, rfl⟩
  | grown nonzero => exact (other ⟨rfl, nonzero⟩).elim
  | marked before => exact ⟨_, before, rfl⟩
  | seeded => exact (unseeded rfl).elim

theorem Dated.act (hs : s.Scheduled) (h : s.Dated now key) (unseeded : ¬ a.Seeds key) :
    (s.act now a).Dated now key := by
  intro entry live
  rw [lifespan_act hs]
  by_cases increments : ∃ key', a.Increments key'
  · obtain ⟨key', touches⟩ := increments
    cases a with
    | increment other traffic =>
      refine ⟨_, congrArg Prod.snd (times_increment touches.2), ?_, Int.le_refl _⟩
      cases becomes_of_records hs (live?_eq_some.1 live).1 with
      | kept untouched _ _ found _ =>
        -- another key was counted: that gives the index the latest expiry there can be
        have before := live?_eq_some.2 ⟨found, (live?_eq_some.1 live).2⟩
        obtain ⟨expiry, -, within, bound⟩ := h entry before
        exact Int.le_trans within bound
      | grown _ => exact Int.le_refl _
    | _ => exact touches.elim
  · obtain ⟨old, before, same⟩ := live_of_act hs (not_exists.1 increments key) unseeded live
    obtain ⟨expiry, found, within, bound⟩ := h old before
    refine ⟨expiry, (activeExpiry_act hs (not_exists.1 increments)).2 ⟨?_, found⟩, ?_, bound⟩
    · exact fun _ => h.not_overdue before
    · exact same ▸ within

/-! ## Membership -/

theorem Enlists.mono (h : s.Enlists now key claimed) {claimed' : Prop} (le : claimed' → claimed) :
    s.Enlists now key claimed' :=
  ⟨h.dated, fun entry live must => h.active entry live (must.imp_right le)⟩

theorem Enlists.pass (h : s.Enlists now key claimed) {later : Instant} (le : now ≤ later) :
    s.Enlists later key claimed :=
  ⟨h.dated.pass le, fun entry live => h.active entry (live?_of_le le live)⟩

theorem Enlists.of_none (absent : s.live? now key = none) : s.Enlists now key claimed :=
  ⟨fun _ live => (nomatch absent.symm.trans live), fun _ live => (nomatch absent.symm.trans live)⟩

/-- A live record whose key is active stays so unless the act takes it out. -/
theorem Dated.mem_active (hs : s.Scheduled) (h : s.Dated now key) {entry : Entry}
    (live : s.live? now key = some entry) (member : key ∈ s.active)
    (stays : ¬ s.Deactivates now key a) : key ∈ (s.act now a).active :=
  (mem_active_act hs).2 (.inr ⟨fun _ => h.not_overdue live, member, stays⟩)

theorem Enlists.of_live_eq (hs : s.Scheduled) (h : s.Enlists now key claimed)
    (unseeded : ¬ a.Seeds key) (same : (s.act now a).live? now key = s.live? now key)
    (stays : ¬ s.Deactivates now key a) : (s.act now a).Enlists now key claimed := by
  refine ⟨h.dated.act hs unseeded, fun entry live must => ?_⟩
  rw [same] at live
  exact h.dated.mem_active hs live (h.active entry live must) stays

theorem Enlists.increment (hs : s.Scheduled) (h : s.Enlists now key claimed) (key' : Key)
    (traffic : Traffic) : (s.increment now key' traffic).Enlists now key claimed := by
  by_cases own : key' = key ∧ traffic ≠ 0
  · refine ⟨h.dated.act (a := .increment key' traffic) hs id, fun _ _ _ => ?_⟩
    exact mem_active_increment.2 (.inl own)
  · refine h.of_live_eq (a := .increment key' traffic) hs id ?_ id
    exact live?_congr ((records_increment ..).trans (if_neg fun h => own ⟨h.1.symm, h.2⟩)) now

theorem Enlists.incrementAll (hs : s.Scheduled) (h : s.Enlists now key claimed)
    (entries : List (Key × Traffic)) : (s.incrementAll now entries).Enlists now key claimed := by
  induction entries generalizing s with
  | nil => exact h
  | cons entry entries ih =>
    exact ih (hs.increment now entry.1 entry.2) (h.increment hs entry.1 entry.2)

/-- A commit that leaves a record unsettled leaves it active. -/
theorem Enlists.commit (hs : s.Scheduled) (h : s.Enlists now key True) (counter : Traffic) :
    (s.commit now key counter counter).2.Enlists now key False := by
  refine ⟨h.dated.act (a := .commit key counter counter) hs id, fun entry live must => ?_⟩
  have same := live?_commit hs now key counter counter
  rw [same] at live
  obtain ⟨old, before, rfl⟩ := Option.map_eq_some_iff.1 live
  refine h.dated.mem_active (a := .commit key counter counter) hs before
    (h.active old before (.inr trivial)) ?_
  rintro ⟨-, settled⟩
  -- a commit takes the key out only where its markers reach the counter
  have unsettled := must.resolve_right id
  rw [← Bool.not_eq_true, Entry.isSettled_iff] at unsettled
  exact unsettled (settled old before)

theorem Enlists.settle (hs : s.Scheduled) (h : s.Enlists now key claimed) (purge : Bool) :
    (s.settle now key purge).2.Enlists now key False := by
  refine ⟨h.dated.act (a := .settle key purge) hs id, fun entry live must => ?_⟩
  have unsettled := must.resolve_right id
  rw [live?_settle hs] at live
  split at live
  · cases live
  · refine h.dated.mem_active (a := .settle key purge) hs live ?_ ?_
    · exact h.active entry live (.inl unsettled)
    · rintro ⟨-, settled⟩
      exact Bool.false_ne_true (unsettled.symm.trans (settled entry live))

theorem Enlists.takeBucket (hs : s.Scheduled) (h : s.Enlists now key claimed) (bucket : Bucket) :
    (s.takeBucket now bucket).2.Enlists now key claimed := by
  have same := live?_takeBucket hs now bucket key
  by_cases member : key ∈ (s.expire now).membersOf bucket
  · exact .of_none (same.trans (if_pos member))
  · exact h.of_live_eq (a := .take bucket) hs id (same.trans (if_neg member)) member

theorem Enlists.forget (hs : s.Scheduled) (h : s.Enlists now key claimed) (key' : Key) :
    (s.forget key').2.Enlists now key claimed := by
  have same := live?_forget s now key key'
  by_cases own : key = key'
  · exact .of_none (same.trans (if_pos own))
  · exact h.of_live_eq (a := .forget key') hs id (same.trans (if_neg own)) (Ne.symm own)

/-! ## The size of the index -/

/-- Only increments make the index larger. -/
theorem size_active_act_le (hs : s.Scheduled) (now : Instant) {a : Act}
    (other : ∀ key, ¬ a.Increments key) : (s.act now a).active.size ≤ s.active.size := by
  have subset : (s.act now a).active.toList ⊆ s.active.toList := by
    intro key member
    rw [ExtTreeSet.mem_toList] at member ⊢
    exact ((mem_active_act hs).1 member).elim (fun increments => (other key increments).elim)
      fun kept => kept.2.1
  rw [← ExtTreeSet.length_toList, ← ExtTreeSet.length_toList]
  refine List.Nodup.length_le_of_subset ?_ subset
  refine ExtTreeSet.distinct_toList.imp ?_
  rintro a b distinct rfl
  exact distinct ReflOrd.compare_self

end Metering.Hot.Store
