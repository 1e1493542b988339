import Metering.Proofs.Hot.ActiveIndex

/-!
# Expiry in passes

`expire` drops all slots that are due at once. The same is left when they are dropped in passes, of
which each takes the earliest slot, for as long as that one is due. A pass leaves one due slot less,
so the passes come to an end, whatever the store.

That they drop the records that have expired, and no other, rests on the agreement of the records
with the expiry index. Every call keeps it, also when the clock goes back.

Results:
1. `expire_dropSlot`: a pass changes nothing about what `expire` leaves.
2. `exists_passes`, `Passes.unique`: the passes end, in one way, after one for each due slot.
3. `Passes.expire_eq`, `Passes.records_eq`: they drop what `expire` drops, which leaves the live
   records.
4. `slots_match_and_passes_end`: the expiry index and the passes in every store that calls leave.
-/

namespace Metering.Hot.Store

open Std ExpiryLemmas

variable {s t u : Store} {now expiry : Instant} {key : Key} {entry : Entry} {n m : Nat}

/-! ## Due slots -/

/-- The slots that are due. -/
def dueSlots (s : Store) (now : Instant) : ExtTreeMap Instant (ExtTreeSet Key) :=
  s.expiries.filter fun expiry _ => decide (expiry ≤ now)

/-- The expiry of the earliest slot, if that slot is due. -/
def firstDue? (s : Store) (now : Instant) : Option Instant :=
  s.expiries.minKey?.filter fun expiry => decide (expiry ≤ now)

theorem mem_dueSlots : expiry ∈ s.dueSlots now ↔ expiry ∈ s.expiries ∧ expiry ≤ now := by
  simp only [dueSlots, ExtTreeMap.mem_filter, ExtTreeMap.getKey_eq, decide_eq_true_eq, exists_prop]

theorem mem_dueSlots_of_firstDue? (first : s.firstDue? now = some expiry) :
    expiry ∈ s.dueSlots now := by
  obtain ⟨least, due⟩ := Option.filter_eq_some_iff.1 first
  exact mem_dueSlots.2 ⟨ExtTreeMap.minKey?_mem least, of_decide_eq_true due⟩

/-- No slot is due if the earliest one is not. -/
theorem firstDue?_eq_none_iff : s.firstDue? now = none ↔ s.dueSlots now = ∅ := by
  constructor
  · intro none
    refine ExtTreeMap.eq_empty_iff_forall_not_mem.2 fun expiry mem => ?_
    obtain ⟨there, due⟩ := mem_dueSlots.1 mem
    obtain ⟨first, least⟩ := Option.isSome_iff_exists.1 (ExtTreeMap.isSome_minKey?_of_mem there)
    have le : first ≤ expiry :=
      Int.isLE_compare.1 ((ExtTreeMap.minKey?_eq_some_iff_mem_and_forall.1 least).2 expiry there)
    have late := Option.filter_eq_none_iff.1 none first least
    exact late (decide_eq_true (Int.le_trans le due))
  · intro empty
    refine Option.eq_none_iff_forall_ne_some.2 fun expiry first => ?_
    exact ExtTreeMap.not_mem_empty (empty ▸ mem_dueSlots_of_firstDue? first)

/-! ## One pass -/

/-- Takes a slot out of the expiry index, and its keys out of the records. -/
def dropSlot (s : Store) (expiry : Instant) : Store :=
  { s with
    records := (s.slot expiry).foldl (·.erase ·) s.records
    expiries := s.expiries.erase expiry }

theorem records_dropSlot :
    (s.dropSlot expiry).records[key]? = some entry ↔
      ¬ s.Slotted key expiry ∧ s.records[key]? = some entry := by
  rw [dropSlot, ExtTreeSet.foldl_eq_foldl_toList, getElem?_foldl_erase, ExtTreeSet.mem_toList,
    mem_slot]

theorem expiries_dropSlot {later : Instant} :
    (s.dropSlot expiry).expiries[later]? =
      if expiry = later then none else s.expiries[later]? := by
  simp only [dropSlot, ExtTreeMap.getElem?_erase, LawfulEqOrd.compare_eq_iff_eq]

theorem slotted_dropSlot {later : Instant} :
    (s.dropSlot expiry).Slotted key later ↔ s.Slotted key later ∧ later ≠ expiry := by
  unfold Slotted
  rw [expiries_dropSlot]
  by_cases same : expiry = later
  · simp [same]
  · simp [same, Ne.symm same]

/-- A pass leaves one due slot less. -/
theorem dueSlots_dropSlot : (s.dropSlot expiry).dueSlots now = (s.dueSlots now).erase expiry := by
  refine ExtTreeMap.ext_getElem? fun later => ?_
  simp only [dueSlots, ExtTreeMap.getElem?_filter', ExtTreeMap.getElem?_erase, expiries_dropSlot,
    LawfulEqOrd.compare_eq_iff_eq]
  split <;> rfl

/-- A pass over a due slot changes nothing about what is left once all that is due is dropped. -/
theorem expire_dropSlot (due : expiry ≤ now) : (s.dropSlot expiry).expire now = s.expire now := by
  have records : ((s.dropSlot expiry).expire now).records = (s.expire now).records := by
    refine ExtTreeMap.ext_getElem? fun key => Option.ext fun entry => ?_
    rw [records_expire_of_slots, records_expire_of_slots, records_dropSlot, ← and_assoc]
    refine and_congr_left fun _ => ⟨?_, fun later => ⟨?_, ?_⟩⟩
    · rintro ⟨later, apart⟩ expiry' slotted
      exact later expiry' (slotted_dropSlot.2 ⟨slotted, fun same => apart (same ▸ slotted)⟩)
    · exact fun expiry' slotted => later expiry' (slotted_dropSlot.1 slotted).1
    · exact fun slotted => Int.not_lt.2 due (later expiry slotted)
  have expiries : ((s.dropSlot expiry).expire now).expiries = (s.expire now).expiries := by
    refine ExtTreeMap.ext_getElem? fun later => ?_
    simp only [expire, ExtTreeMap.getElem?_filter', expiries_dropSlot]
    split
    · next same =>
      have past : ¬ now < later := Int.not_lt.2 (same ▸ due)
      simp [past]
    · rfl
  exact (Store.mk.injEq ..).mpr ⟨rfl, records, expiries, rfl, rfl, rfl⟩

/-! ## All passes -/

/-- Drops the indexes that have expired. -/
def dropIndexes (s : Store) (now : Instant) : Store :=
  let activeDue := s.activeExpiry.any fun expiry => decide (expiry ≤ now)
  { s with
    buckets := s.buckets.filter fun _ index => decide (now < index.expiry)
    active := if activeDue then ∅ else s.active
    activeExpiry := if activeDue then none else s.activeExpiry }

/-- Where no slot is due only indexes are dropped. -/
theorem expire_of_firstDue?_eq_none (none : s.firstDue? now = none) :
    s.expire now = s.dropIndexes now := by
  have later (expiry : Instant) (there : expiry ∈ s.expiries) : now < expiry := by
    refine Int.not_le.1 fun due => ?_
    have mem : expiry ∈ s.dueSlots now := mem_dueSlots.2 ⟨there, due⟩
    exact ExtTreeMap.not_mem_empty (firstDue?_eq_none_iff.1 none ▸ mem)
  have records : (s.expire now).records = s.records := by
    refine ExtTreeMap.ext_getElem? fun key => Option.ext fun entry => ?_
    rw [records_expire_of_slots, and_iff_right]
    rintro expiry ⟨slot, stored, -⟩
    exact later expiry (ExtTreeMap.mem_iff_isSome_getElem?.2 (Option.isSome_of_eq_some stored))
  have expiries : (s.expire now).expiries = s.expiries := by
    refine ExtTreeMap.filter_eq_self_iff.2 fun expiry there => ?_
    rw [ExtTreeMap.getKey_eq, decide_eq_true_eq]
    exact later expiry there
  exact (Store.mk.injEq ..).mpr ⟨rfl, records, expiries, rfl, rfl, rfl⟩

/-- The passes at an instant, from one store to another. Each drops the earliest slot, which is due,
and after the last of them no slot is due. -/
inductive Passes (now : Instant) : Store → Nat → Store → Prop
  | done {s : Store} (none : s.firstDue? now = none) : Passes now s 0 s
  | more {s t : Store} {n : Nat} {expiry : Instant} (due : s.firstDue? now = some expiry)
      (rest : Passes now (s.dropSlot expiry) n t) : Passes now s (n + 1) t

/-- There are as many passes as due slots. -/
theorem exists_passes (s : Store) (now : Instant) : ∃ t, Passes now s (s.dueSlots now).size t := by
  generalize size : (s.dueSlots now).size = n
  induction n generalizing s with
  | zero =>
    have empty : s.dueSlots now = ∅ := ExtTreeMap.eq_empty_iff_size_eq_zero.2 size
    exact ⟨s, .done (firstDue?_eq_none_iff.2 empty)⟩
  | succ n ih =>
    cases first : s.firstDue? now with
    | none =>
      rw [firstDue?_eq_none_iff.1 first] at size
      cases size
    | some expiry =>
      have mem : (s.dueSlots now).contains expiry = true := mem_dueSlots_of_firstDue? first
      have left : ((s.dropSlot expiry).dueSlots now).size = n := by
        rw [dueSlots_dropSlot, ExtTreeMap.size_erase, if_pos mem, size]
        rfl
      obtain ⟨t, rest⟩ := ih (s.dropSlot expiry) left
      exact ⟨t, .more first rest⟩

/-- There is one way to make the passes. -/
theorem Passes.unique (first : Passes now s n t) (second : Passes now s m u) : m = n ∧ u = t := by
  induction first generalizing m with
  | done none =>
    cases second with
    | done _ => exact ⟨rfl, rfl⟩
    | more due _ => cases none.symm.trans due
  | more due _ ih =>
    cases second with
    | done none => cases none.symm.trans due
    | more due' rest =>
      cases due.symm.trans due'
      obtain ⟨same, same'⟩ := ih rest
      exact ⟨congrArg (· + 1) same, same'⟩

/-- The passes, and the drop of the indexes after them, leave what `expire` leaves. -/
theorem Passes.expire_eq (passes : Passes now s n t) : s.expire now = t.dropIndexes now := by
  induction passes with
  | done none => exact expire_of_firstDue?_eq_none none
  | more first _ ih =>
    rw [← ih, expire_dropSlot (mem_dueSlots.1 (mem_dueSlots_of_firstDue? first)).2]

/-- Where records and slots agree the passes leave just the live records. -/
theorem Passes.records_eq (hs : s.Scheduled) (passes : Passes now s n t) (key : Key) :
    t.records[key]? = s.live? now key := by
  rw [← records_expire hs, passes.expire_eq]
  rfl

/-! ## Stores that calls leave -/

/-- A record stands in the slot of its expiry and in no other. -/
theorem Scheduled.slotted_iff_eq (hs : s.Scheduled) (found : s.records[key]? = some entry) :
    s.Slotted key expiry ↔ expiry = entry.expiry := by
  rw [hs.slotted_iff, found]
  simp [eq_comm]

/-- In every store that calls leave, by whatever clock, a record stands in one slot of the expiry
index, that of its own expiry. Each slot holds a key, and only keys whose records expire then. So
the passes at any instant end, after one for each due slot, and drop the records that have expired
then and no other. -/
theorem slots_match_and_passes_end (lifespan : Int) (calls : List Call) :
    let s := (empty lifespan).afterCalls calls
    (∀ (key : Key) (entry : Entry), s.records[key]? = some entry →
      ∀ expiry, s.Slotted key expiry ↔ expiry = entry.expiry) ∧
    (∀ (expiry : Instant) (slot : ExtTreeSet Key), s.expiries[expiry]? = some slot →
      slot ≠ ∅ ∧ ∀ key ∈ slot, ∃ entry : Entry,
        s.records[key]? = some entry ∧ entry.expiry = expiry) ∧
    ∀ now, ∃ t,
      (∀ n u, Passes now s n u ↔ n = (s.dueSlots now).size ∧ u = t) ∧
      (∀ (key : Key) (entry : Entry), t.records[key]? = some entry ↔
        s.records[key]? = some entry ∧ now < entry.expiry) ∧
      s.expire now = t.dropIndexes now := by
  intro s
  have hs : s.Scheduled := scheduled_afterCalls lifespan calls
  refine ⟨fun key entry found expiry => hs.slotted_iff_eq found, fun expiry slot stored => ?_,
    fun now => ?_⟩
  · refine ⟨hs.filled expiry slot stored, fun key mem => ?_⟩
    exact (hs.slotted_iff key expiry).1 ⟨slot, stored, mem⟩
  · obtain ⟨t, passes⟩ := exists_passes s now
    refine ⟨t, fun n u => ⟨fun other => passes.unique other, ?_⟩, fun key entry => ?_,
      passes.expire_eq⟩
    · rintro ⟨rfl, rfl⟩
      exact passes
    · rw [passes.records_eq hs, live?_eq_some]

end Metering.Hot.Store
