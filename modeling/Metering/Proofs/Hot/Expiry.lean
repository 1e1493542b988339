import Metering.Hot.Request

/-!
# The expiry index

Every record of a hot store stands in exactly one slot of the expiry index, the slot of its own
expiry. That is what makes late expiry exact: dropping the due slots leaves the live records and
nothing else.

Results:
1. `Scheduled`, the agreement of records and slots, with one lemma per operation that changes
   either.
2. `records_expire`: what `expire` leaves under a key is what was live there.
-/

namespace Metering.Hot.Store

open Std

/-- `key` stands in the slot of `expiry`. -/
def Slotted (s : Store) (key : Key) (expiry : Instant) : Prop :=
  ∃ slot, s.expiries[expiry]? = some slot ∧ key ∈ slot

/-- The keys whose records expire at an instant. -/
def slot (s : Store) (expiry : Instant) : ExtTreeSet Key := (s.expiries[expiry]?).getD ∅

theorem mem_slot {s : Store} {key : Key} {expiry : Instant} :
    key ∈ s.slot expiry ↔ s.Slotted key expiry := by
  unfold slot Slotted
  cases s.expiries[expiry]? <;> simp

/-- No slot is kept empty. -/
def SlotsFilled (s : Store) : Prop :=
  ∀ (expiry : Instant) (slot : ExtTreeSet Key), s.expiries[expiry]? = some slot → slot ≠ ∅

/-- The records and the expiry index tell the same. -/
structure Scheduled (s : Store) : Prop where
  slotted_iff : ∀ key expiry,
    s.Slotted key expiry ↔ ∃ entry, s.records[key]? = some entry ∧ entry.expiry = expiry
  filled : s.SlotsFilled

namespace ExpiryLemmas

theorem getElem?_foldl_erase {β : Type} {keys : List Key} {table : ExtTreeMap Key β} {key : Key}
    {value : β} : (keys.foldl (·.erase ·) table)[key]? = some value ↔
      key ∉ keys ∧ table[key]? = some value := by
  induction keys generalizing table with
  | nil => simp
  | cons head keys ih =>
    rw [List.foldl_cons, ih, ExtTreeMap.getElem?_erase, List.mem_cons]
    by_cases h : key = head
    · simp [h]
    · simp [h, Ne.symm h]

theorem getElem?_foldl_foldl_erase {β : Type} {slots : List (Instant × ExtTreeSet Key)}
    {table : ExtTreeMap Key β} {key : Key} {value : β} :
    (slots.foldl (fun table slot => slot.2.foldl (·.erase ·) table) table)[key]? = some value ↔
      (∀ slot ∈ slots, key ∉ slot.2) ∧ table[key]? = some value := by
  induction slots generalizing table with
  | nil => simp
  | cons head slots ih =>
    rw [List.foldl_cons, ih, ExtTreeSet.foldl_eq_foldl_toList, getElem?_foldl_erase,
      ExtTreeSet.mem_toList, List.forall_mem_cons]
    exact and_left_comm.trans and_assoc.symm

end ExpiryLemmas

open ExpiryLemmas

/-! ## Expiry -/

/-- A record survives `expire` unless it stands in a slot that is due. -/
theorem records_expire_of_slots {s : Store} {now : Instant} {key : Key} {entry : Entry} :
    (s.expire now).records[key]? = some entry ↔
      (∀ expiry, s.Slotted key expiry → now < expiry) ∧ s.records[key]? = some entry := by
  simp only [expire, ExtTreeMap.foldl_eq_foldl_toList]
  rw [getElem?_foldl_foldl_erase]
  refine and_congr_left fun _ => ?_
  simp only [Prod.forall, ExtTreeMap.mem_toList_iff_getElem?_eq_some,
    ExtTreeMap.getElem?_filter', Option.filter_eq_some_iff, decide_eq_true_eq, Slotted]
  constructor
  · rintro h expiry ⟨slot, hslot, mem⟩
    rw [Instant.lt_def, ← Int.not_le]
    exact fun due => h expiry slot ⟨hslot, due⟩ mem
  · rintro h expiry slot ⟨hslot, due⟩ mem
    exact Int.not_lt.2 due (h expiry ⟨slot, hslot, mem⟩)

theorem slotted_expire (s : Store) (now : Instant) (key : Key) (expiry : Instant) :
    (s.expire now).Slotted key expiry ↔ s.Slotted key expiry ∧ now < expiry := by
  simp only [Slotted, expire, ExtTreeMap.getElem?_filter', Option.filter_eq_some_iff,
    decide_eq_true_eq]
  constructor
  · rintro ⟨slot, ⟨h, later⟩, mem⟩
    exact ⟨⟨slot, h, mem⟩, later⟩
  · rintro ⟨⟨slot, h, mem⟩, later⟩
    exact ⟨slot, ⟨h, later⟩, mem⟩

/-- Dropping the due slots leaves just the live records. -/
theorem records_expire {s : Store} (hs : s.Scheduled) (now : Instant) (key : Key) :
    (s.expire now).records[key]? = s.live? now key := by
  apply Option.ext
  intro entry
  rw [records_expire_of_slots, live?, Option.filter_eq_some_iff, decide_eq_true_eq, and_comm]
  refine and_congr_right fun h => ?_
  constructor
  · exact fun later => later _ ((hs.slotted_iff key entry.expiry).2 ⟨entry, h, rfl⟩)
  · intro later expiry slotted
    obtain ⟨found, hfound, rfl⟩ := (hs.slotted_iff key expiry).1 slotted
    cases Option.some.inj (h.symm.trans hfound)
    exact later

theorem Scheduled.expire {s : Store} (hs : s.Scheduled) (now : Instant) :
    (s.expire now).Scheduled := by
  constructor
  · intro key expiry
    rw [slotted_expire, hs.slotted_iff, records_expire hs, live?]
    constructor
    · rintro ⟨⟨entry, h, rfl⟩, later⟩
      exact ⟨entry, by simp [h, later], rfl⟩
    · rintro ⟨entry, h, rfl⟩
      obtain ⟨h, later⟩ := Option.filter_eq_some_iff.1 h
      exact ⟨⟨entry, h, rfl⟩, of_decide_eq_true later⟩
  · intro expiry slot h
    simp only [Store.expire, ExtTreeMap.getElem?_filter', Option.filter_eq_some_iff] at h
    exact hs.filled expiry slot h.1

/-! ## Slots -/

theorem slotted_schedule (s : Store) (key : Key) (expiry : Instant) (key' : Key)
    (expiry' : Instant) :
    (s.schedule key expiry).Slotted key' expiry' ↔
      s.Slotted key' expiry' ∨ (key' = key ∧ expiry' = expiry) := by
  simp only [Slotted, schedule, ExtTreeMap.getElem?_alter, LawfulEqOrd.compare_eq_iff_eq,
    Function.comp_apply]
  by_cases he : expiry = expiry'
  · subst he
    simp only [if_true, Option.some.injEq, exists_eq_left', ExtTreeSet.mem_insert,
      LawfulEqOrd.compare_eq_iff_eq, and_true]
    cases h : s.expiries[expiry]? with
    | none => simp [eq_comm]
    | some slot => simp [or_comm, eq_comm]
  · simp [he, Ne.symm he]

theorem slotted_unschedule (s : Store) (key : Key) (expiry : Instant) (key' : Key)
    (expiry' : Instant) :
    (s.unschedule key expiry).Slotted key' expiry' ↔
      s.Slotted key' expiry' ∧ ¬ (key' = key ∧ expiry' = expiry) := by
  simp only [Slotted, unschedule, ExtTreeMap.getElem?_alter, LawfulEqOrd.compare_eq_iff_eq]
  by_cases he : expiry = expiry'
  · subst he
    simp only [if_true, and_true]
    cases h : s.expiries[expiry]? with
    | none => simp
    | some slot =>
      have leave : ∀ rest, (if (slot.erase key).isEmpty then none else some (slot.erase key)) =
          some rest ↔ slot.erase key ≠ ∅ ∧ slot.erase key = rest := by
        intro rest
        by_cases empty : slot.erase key = ∅
        · simp [empty]
        · simp [empty, ExtTreeSet.isEmpty_iff]
      simp only [Option.bind_some, leave, Option.some.injEq, exists_eq_left']
      constructor
      · rintro ⟨rest, ⟨-, rfl⟩, mem⟩
        rw [ExtTreeSet.mem_erase, ne_eq, LawfulEqOrd.compare_eq_iff_eq] at mem
        exact ⟨mem.2, fun h => mem.1 h.symm⟩
      · rintro ⟨mem, ne⟩
        have mem' : key' ∈ slot.erase key := by
          rw [ExtTreeSet.mem_erase, ne_eq, LawfulEqOrd.compare_eq_iff_eq]
          exact ⟨fun h => ne h.symm, mem⟩
        refine ⟨_, ⟨?_, rfl⟩, mem'⟩
        -- the slot is kept, since it still holds `key'`
        intro empty
        rw [empty] at mem'
        exact ExtTreeSet.not_mem_empty mem'
  · simp [he, Ne.symm he]

theorem SlotsFilled.schedule {s : Store} (hs : s.SlotsFilled) (key : Key) (expiry : Instant) :
    (s.schedule key expiry).SlotsFilled := by
  intro expiry' slot h empty
  simp only [Store.schedule, ExtTreeMap.getElem?_alter, LawfulEqOrd.compare_eq_iff_eq,
    Function.comp_apply] at h
  split at h
  · cases h
    exact ExtTreeSet.not_mem_empty (empty ▸ ExtTreeSet.mem_insert_self)
  · exact hs expiry' slot h empty

theorem SlotsFilled.unschedule {s : Store} (hs : s.SlotsFilled) (key : Key) (expiry : Instant) :
    (s.unschedule key expiry).SlotsFilled := by
  intro expiry' slot h empty
  simp only [Store.unschedule, ExtTreeMap.getElem?_alter, LawfulEqOrd.compare_eq_iff_eq] at h
  split at h
  · obtain ⟨old, -, hold⟩ := Option.bind_eq_some_iff.1 h
    split at hold
    · cases hold
    · next rest =>
      cases hold
      exact rest (ExtTreeSet.isEmpty_iff.2 empty)
  · exact hs expiry' slot h empty

@[simp] theorem records_unschedule (s : Store) (key : Key) (expiry : Instant) :
    (s.unschedule key expiry).records = s.records := rfl

@[simp] theorem records_reschedule (s : Store) (key : Key) (previous : Option Instant)
    (expiry : Instant) : (s.reschedule key previous expiry).records = s.records := by
  unfold reschedule
  split
  · rfl
  · cases previous <;> rfl

theorem SlotsFilled.reschedule {s : Store} (hs : s.SlotsFilled) (key : Key)
    (previous : Option Instant) (expiry : Instant) :
    (s.reschedule key previous expiry).SlotsFilled := by
  unfold Store.reschedule
  split
  · exact hs
  · cases previous with
    | none => exact hs.schedule key expiry
    | some old => exact (hs.unschedule key old).schedule key expiry

/-- Rescheduling takes a key out of its previous slot and puts it into the new one. -/
theorem slotted_reschedule (s : Store) (key : Key) (previous : Option Instant) (expiry : Instant)
    (there : ∀ old, previous = some old → s.Slotted key old) (key' : Key) (expiry' : Instant) :
    (s.reschedule key previous expiry).Slotted key' expiry' ↔
      (s.Slotted key' expiry' ∧ ¬ (key' = key ∧ previous = some expiry')) ∨
        (key' = key ∧ expiry' = expiry) := by
  unfold reschedule
  split
  · -- the slot stays the same, so the key is in it already
    next same =>
    constructor
    · intro h
      by_cases he : key' = key ∧ expiry' = expiry
      · exact .inr he
      · refine .inl ⟨h, fun hp => he ⟨hp.1, ?_⟩⟩
        exact Option.some.inj (hp.2.symm.trans same)
    · rintro (⟨h, -⟩ | ⟨rfl, rfl⟩)
      · exact h
      · exact there expiry' same
  · cases previous with
    | none => simp [slotted_schedule]
    | some old => simp [slotted_schedule, slotted_unschedule, eq_comm]

/-! ## Records -/

/-- The agreement depends on the records and on the expiry index only. -/
theorem Scheduled.of_eq {s t : Store} (hs : s.Scheduled) (records : t.records = s.records)
    (expiries : t.expiries = s.expiries) : t.Scheduled := by
  constructor
  · intro key expiry
    unfold Slotted
    rw [records, expiries]
    exact hs.slotted_iff key expiry
  · unfold SlotsFilled
    rw [expiries]
    exact hs.filled

theorem records_dropRecord (s : Store) (key key' : Key) :
    (s.dropRecord key).records[key']? = if key' = key then none else s.records[key']? := by
  unfold dropRecord
  split
  · rw [records_unschedule, ExtTreeMap.getElem?_erase]
    by_cases same : key' = key
    · simp [same]
    · simp [same, Ne.symm same]
  · next h =>
    split
    · next same => rw [same, h]
    · rfl

theorem Scheduled.dropRecord {s : Store} (hs : s.Scheduled) (key : Key) :
    (s.dropRecord key).Scheduled := by
  cases h : s.records[key]? with
  | none =>
    have same : s.dropRecord key = s := by simp [Store.dropRecord, h]
    rwa [same]
  | some entry =>
    have dropped : s.dropRecord key =
        { s with records := s.records.erase key }.unschedule key entry.expiry := by
      simp [Store.dropRecord, h]
    constructor
    · intro key' expiry
      rw [records_dropRecord, dropped, slotted_unschedule]
      change s.Slotted key' expiry ∧ _ ↔ _
      rw [hs.slotted_iff]
      by_cases hk : key' = key
      · subst hk
        simp [h, eq_comm]
      · simp [hk]
    · rw [dropped]
      exact SlotsFilled.unschedule hs.filled key entry.expiry

theorem records_put (s : Store) (now : Instant) (key : Key) (entry : Entry) (key' : Key) :
    (s.put now key entry).records[key']? =
      if key' = key then some { entry with expiry := now.addNanos s.lifespan }
      else s.records[key']? := by
  simp only [put, touchBucket, records_reschedule, ExtTreeMap.getElem?_insert]
  by_cases same : key' = key
  · simp [same]
  · simp [same, Ne.symm same]

theorem Scheduled.put {s : Store} (hs : s.Scheduled) (now : Instant) (key : Key) (entry : Entry) :
    (s.put now key entry).Scheduled := by
  constructor
  · intro key' expiry
    rw [records_put]
    refine (slotted_reschedule _ key _ _ ?_ key' expiry).trans ?_
    · intro old h
      obtain ⟨previous, hp, rfl⟩ := Option.map_eq_some_iff.1 h
      exact (hs.slotted_iff key previous.expiry).2 ⟨previous, hp, rfl⟩
    · change (s.Slotted key' expiry ∧ _) ∨ _ ↔ _
      rw [hs.slotted_iff]
      by_cases hk : key' = key
      · subst hk
        cases h : s.records[key']? <;> simp [eq_comm]
      · simp [hk]
  · change SlotsFilled (Store.reschedule _ key _ _)
    apply SlotsFilled.reschedule
    exact hs.filled

end Metering.Hot.Store
