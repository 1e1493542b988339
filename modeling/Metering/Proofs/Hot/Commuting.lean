import Metering.Proofs.Hot.ActiveIndex
import Metering.Proofs.Hot.Buckets

/-!
# The order of increments

Increments at one instant can be made in any order: counters add up, the indexes are sets, and every
write gives the same expiry. The expiry index follows from the records, as the two tell the same.

Where records do not live at all, since their life span is zero, an increment finds the record of
the one before expired and starts anew. There the order matters, but only for the counter of a key
that is counted more than once, which no reader at that instant is told.

Results:
1. `Scheduled.expiries_eq`: the expiries of the records determine the expiry index.
2. `increment_comm`: what two increments leave in either order.
3. `incrementAll_perm`, any two orders of some increments; `zero_lifespan_keeps_last`, two orders
   that leave different counters.
-/

namespace Metering.Hot

open Std

/-- The entry but for what it has counted. -/
def Entry.uncounted (e : Entry) : Entry := { e with traffic := 0 }

namespace Store

variable {s t u : Store} {now : Instant} {key : Key} {entries entries' : List (Key × Traffic)}

/-! ## The expiry index -/

theorem SlotsFilled.getElem?_expiries (filled : s.SlotsFilled) (expiry : Instant) :
    s.expiries[expiry]? = if s.slot expiry = ∅ then none else some (s.slot expiry) := by
  have nonempty := filled expiry
  unfold slot
  cases h : s.expiries[expiry]? with
  | none => simp
  | some keys => simp [nonempty keys h]

/-- The index tells no more than the expiries of the records. -/
theorem Scheduled.expiries_eq (hs : s.Scheduled) (ht : t.Scheduled)
    (same : ∀ key : Key, (t.records[key]?).map Entry.expiry = (s.records[key]?).map Entry.expiry) :
    t.expiries = s.expiries := by
  have slots (expiry : Instant) : t.slot expiry = s.slot expiry := by
    refine ExtTreeSet.ext_mem fun key => ?_
    have told : t.Slotted key expiry ↔ s.Slotted key expiry := by
      rw [ht.slotted_iff, hs.slotted_iff]
      simp only [← Option.map_eq_some_iff, same key]
    exact mem_slot.trans (told.trans mem_slot.symm)
  refine ExtTreeMap.ext_getElem? fun expiry => ?_
  rw [ht.filled.getElem?_expiries, hs.filled.getElem?_expiries, slots]

/-! ## Stores that match -/

/-- The stores are the same but for the counters of records that have expired. -/
structure MatchesAt (now : Instant) (s t : Store) : Prop where
  lifespan : t.lifespan = s.lifespan
  live : ∀ key, t.live? now key = s.live? now key
  records : ∀ key : Key,
    (t.records[key]?).map Entry.uncounted = (s.records[key]?).map Entry.uncounted
  expiries : t.expiries = s.expiries
  buckets : t.buckets = s.buckets
  active : t.active = s.active
  activeExpiry : t.activeExpiry = s.activeExpiry

namespace MatchesAt

theorem refl (now : Instant) (s : Store) : MatchesAt now s s :=
  ⟨rfl, fun _ => rfl, fun _ => rfl, rfl, rfl, rfl, rfl⟩

theorem trans (first : MatchesAt now s t) (second : MatchesAt now t u) : MatchesAt now s u where
  lifespan := second.lifespan.trans first.lifespan
  live key := (second.live key).trans (first.live key)
  records key := (second.records key).trans (first.records key)
  expiries := second.expiries.trans first.expiries
  buckets := second.buckets.trans first.buckets
  active := second.active.trans first.active
  activeExpiry := second.activeExpiry.trans first.activeExpiry

theorem counter (h : MatchesAt now s t) (key : Key) : t.counter now key = s.counter now key := by
  unfold Store.counter
  rw [h.live, h.lifespan]

/-- Stores that match and have the same records are the same. -/
theorem eq (h : MatchesAt now s t) (records : ∀ key : Key, t.records[key]? = s.records[key]?) :
    t = s := by
  obtain ⟨lifespan, -, -, expiries, buckets, active, activeExpiry⟩ := h
  have records := ExtTreeMap.ext_getElem? records
  cases s
  cases t
  subst lifespan expiries buckets active activeExpiry records
  rfl

end MatchesAt

theorem expiry_of_uncounted {e? e?' : Option Entry}
    (same : e?'.map Entry.uncounted = e?.map Entry.uncounted) :
    e?'.map Entry.expiry = e?.map Entry.expiry := by
  have told := congrArg (Option.map Entry.expiry) same
  rw [Option.map_map, Option.map_map] at told
  exact told

/-! ## One increment -/

theorem active_increment {traffic : Traffic} (nonzero : traffic ≠ 0) (s : Store) (now : Instant)
    (key : Key) :
    (s.increment now key traffic).active = s.active.insert key ∧
      (s.increment now key traffic).activeExpiry = some (now.addNanos s.lifespan) := by
  rw [increment, if_neg (mt Traffic.isZero_iff.1 nonzero)]
  exact ⟨(active_add ..).1, (active_add ..).2.1⟩

/-- Matching stores match after an increment. -/
theorem MatchesAt.increment (h : MatchesAt now s t) (hs : s.Scheduled) (ht : t.Scheduled)
    (key : Key) (traffic : Traffic) :
    MatchesAt now (s.increment now key traffic) (t.increment now key traffic) := by
  by_cases zero : traffic = 0
  · subst zero
    exact h
  · have records (key' : Key) : ((t.increment now key traffic).records[key']?).map Entry.uncounted =
        ((s.increment now key traffic).records[key']?).map Entry.uncounted := by
      rw [records_increment, records_increment, h.counter, h.lifespan]
      split
      · rfl
      · exact h.records key'
    have live (key' : Key) : (t.increment now key traffic).live? now key' =
        (s.increment now key traffic).live? now key' := by
      by_cases own : key = key'
      · subst own
        rw [live?, live?, records_increment, records_increment, h.counter, h.lifespan]
        simp [zero]
      · rw [live?_increment_of_ne t now own, live?_increment_of_ne s now own]
        exact h.live key'
    refine ⟨?_, live, records, ?_, ?_, ?_, ?_⟩
    · rw [lifespan_increment, lifespan_increment, h.lifespan]
    · exact (hs.increment now key traffic).expiries_eq (ht.increment now key traffic)
        fun key' => expiry_of_uncounted (records key')
    · rw [buckets_increment t now key zero, buckets_increment s now key zero, touchBucket,
        touchBucket, h.buckets, h.lifespan]
    · rw [(active_increment zero t now key).1, (active_increment zero s now key).1, h.active]
    · rw [(active_increment zero t now key).2, (active_increment zero s now key).2, h.lifespan]

/-! ## Two increments -/

theorem insert_comm (keys : ExtTreeSet Key) (a b : Key) :
    (keys.insert a).insert b = (keys.insert b).insert a := by
  refine ExtTreeSet.ext_mem fun key => ?_
  simp only [ExtTreeSet.mem_insert]
  exact or_left_comm

theorem buckets_touchBucket_comm (s : Store) (a b : Key) (expiry : Instant) :
    ((s.touchBucket a expiry).touchBucket b expiry).buckets =
      ((s.touchBucket b expiry).touchBucket a expiry).buckets := by
  refine ExtTreeMap.ext_getElem? fun bucket => ?_
  simp only [touchBucket, ExtTreeMap.getElem?_alter, LawfulEqOrd.compare_eq_iff_eq,
    Function.comp_apply]
  by_cases own : a.bucket = bucket
  · subst own
    by_cases own' : b.bucket = a.bucket
    · simp [own', insert_comm _ b a]
    · simp [own']
  · by_cases own' : b.bucket = bucket
    · subst own'
      simp [own]
    · simp [own, own']

theorem counter_increment_of_ne {a b : Key} (ne : a ≠ b) (s : Store) (now : Instant)
    (traffic : Traffic) : (s.increment now a traffic).counter now b = s.counter now b := by
  unfold counter
  rw [live?_increment_of_ne s now ne, lifespan_increment]

/-- An increment goes on from the record that one before has left, if records live. -/
theorem counter_increment_self {traffic : Traffic} (nonzero : traffic ≠ 0)
    (lives : 0 < s.lifespan) (now : Instant) (key : Key) :
    (s.increment now key traffic).counter now key =
      { s.counter now key with
        traffic := (s.counter now key).traffic + traffic
        expiry := now.addNanos s.lifespan } := by
  have later : now < now.addNanos s.lifespan := Int.lt_add_of_pos_right _ lives
  unfold counter
  rw [live?, records_increment, if_pos ⟨rfl, nonzero⟩]
  simp only [Option.filter_some, later, decide_true, if_true, Option.getD_some]
  rfl

/-- Two increments leave the same records in either order. Only of one key in a store in which
records do not live they need not. -/
theorem records_increment_comm (s : Store) (now : Instant) {a b : Key} {x y : Traffic}
    (apart : a ≠ b ∨ 0 < s.lifespan) (key : Key) :
    ((s.increment now b y).increment now a x).records[key]? =
      ((s.increment now a x).increment now b y).records[key]? := by
  by_cases zero : x = 0
  · rw [zero, increment_zero, increment_zero]
  by_cases zero' : y = 0
  · rw [zero', increment_zero, increment_zero]
  by_cases own : a = b
  · subst own
    have lives := apart.resolve_left fun ne => ne rfl
    simp only [records_increment, counter_increment_self zero lives,
      counter_increment_self zero' lives, lifespan_increment]
    by_cases told : key = a
    · simp [told, zero, zero', Traffic.add_assoc, Traffic.add_comm x y]
    · simp [told]
  · simp only [records_increment, counter_increment_of_ne own,
      counter_increment_of_ne (Ne.symm own), lifespan_increment]
    by_cases first : key = a
    · subst first
      simp [own]
    · simp [first]

/-- Where records do not live, an increment leaves none that is live. -/
theorem live?_increment_of_nonpos (lives : ¬ 0 < s.lifespan) {traffic : Traffic}
    (nonzero : traffic ≠ 0) (now : Instant) (key : Key) :
    (s.increment now key traffic).live? now key = none := by
  have past : ¬ now < now.addNanos s.lifespan := by
    change ¬ now.nanos < now.nanos + s.lifespan
    omega
  rw [live?, records_increment, if_pos ⟨rfl, nonzero⟩]
  simp [past]

/-- What two increments leave matches, in either order. -/
theorem increment_comm (hs : s.Scheduled) (now : Instant) (a b : Key) (x y : Traffic) :
    MatchesAt now ((s.increment now a x).increment now b y)
      ((s.increment now b y).increment now a x) := by
  by_cases zero : x = 0
  · rw [zero, increment_zero, increment_zero]
    exact .refl now _
  by_cases zero' : y = 0
  · rw [zero', increment_zero, increment_zero]
    exact .refl now _
  have seen (key : Key) :
      ((s.increment now b y).increment now a x).live? now key =
          ((s.increment now a x).increment now b y).live? now key ∧
        (((s.increment now b y).increment now a x).records[key]?).map Entry.uncounted =
          (((s.increment now a x).increment now b y).records[key]?).map Entry.uncounted := by
    by_cases apart : a ≠ b ∨ 0 < s.lifespan
    · have same := records_increment_comm s now (x := x) (y := y) apart key
      exact ⟨live?_congr same now, congrArg (Option.map Entry.uncounted) same⟩
    -- Each increment starts anew, and what it leaves has expired at once.
    · obtain ⟨own, lives⟩ := not_or.1 apart
      obtain rfl := Classical.not_not.1 own
      have still (traffic : Traffic) : ¬ 0 < (s.increment now a traffic).lifespan := by
        rwa [lifespan_increment]
      have anew {traffic : Traffic} (nonzero : traffic ≠ 0) :
          (s.increment now a traffic).counter now a = .fresh (now.addNanos s.lifespan) := by
        rw [counter, live?_increment_of_nonpos lives nonzero, lifespan_increment]
        rfl
      by_cases told : a = key
      · subst told
        rw [live?_increment_of_nonpos (still y) zero, live?_increment_of_nonpos (still x) zero']
        simp [records_increment, anew zero, anew zero', zero, zero', lifespan_increment,
          Entry.uncounted]
      · rw [live?_increment_of_ne _ now told, live?_increment_of_ne _ now told,
          live?_increment_of_ne _ now told, live?_increment_of_ne _ now told]
        simp [records_increment, Ne.symm told]
  have hab := (hs.increment now a x).increment now b y
  have hba := (hs.increment now b y).increment now a x
  refine ⟨?_, fun key => (seen key).1, fun key => (seen key).2,
    hab.expiries_eq hba fun key => expiry_of_uncounted (seen key).2, ?_, ?_, ?_⟩
  · simp only [lifespan_increment]
  · simp only [buckets_increment _ now _ zero, buckets_increment _ now _ zero', touchBucket,
      lifespan_increment]
    exact buckets_touchBucket_comm s b a (now.addNanos s.lifespan)
  · rw [(active_increment zero _ now a).1, (active_increment zero' _ now b).1,
      (active_increment zero' _ now b).1, (active_increment zero _ now a).1, insert_comm]
  · rw [(active_increment zero _ now a).2, (active_increment zero' _ now b).2,
      lifespan_increment, lifespan_increment]

/-! ## Many increments -/

/-- The counts of one key. -/
def countsOf (key : Key) (entries : List (Key × Traffic)) : List (Key × Traffic) :=
  entries.filter fun entry => decide (entry.1 = key ∧ entry.2 ≠ 0)

/-- The record of a key depends on its own counts alone. -/
theorem records_incrementAll_countsOf (now : Instant) (lifespan : t.lifespan = s.lifespan)
    (records : t.records[key]? = s.records[key]?) (entries : List (Key × Traffic)) :
    (t.incrementAll now (countsOf key entries)).records[key]? =
      (s.incrementAll now entries).records[key]? := by
  induction entries generalizing s t with
  | nil => exact records
  | cons entry rest ih =>
    by_cases own : entry.1 = key ∧ entry.2 ≠ 0
    · rw [countsOf, List.filter_cons_of_pos (by simpa using own)]
      refine ih (by rw [lifespan_increment, lifespan_increment, lifespan]) ?_
      rw [records_increment, records_increment, records, counter, counter, live?_congr (own.1 ▸ records),
        lifespan]
    · rw [countsOf, List.filter_cons_of_neg (by simpa using own)]
      refine ih (by rw [lifespan_increment, lifespan]) ?_
      rw [records_increment, if_neg fun told => own ⟨told.1.symm, told.2⟩, records]

theorem MatchesAt.incrementAll (h : MatchesAt now s t) (hs : s.Scheduled) (ht : t.Scheduled)
    (entries : List (Key × Traffic)) :
    MatchesAt now (s.incrementAll now entries) (t.incrementAll now entries) := by
  induction entries generalizing s t with
  | nil => exact h
  | cons entry rest ih =>
    exact ih (h.increment hs ht entry.1 entry.2) (hs.increment now entry.1 entry.2)
      (ht.increment now entry.1 entry.2)

/-- Increments that are made in another order leave a store that matches. -/
theorem matchesAt_of_perm (perm : entries.Perm entries') (hs : s.Scheduled) :
    MatchesAt now (s.incrementAll now entries) (s.incrementAll now entries') := by
  induction perm generalizing s with
  | nil => exact .refl now s
  | cons entry _ ih => exact ih (hs.increment now entry.1 entry.2)
  | swap first second rest =>
    exact (increment_comm hs now second.1 first.1 second.2 first.2).incrementAll
      ((hs.increment now ..).increment now ..) ((hs.increment now ..).increment now ..) rest
  | trans _ _ ih ih' => exact (ih hs).trans (ih' hs)

/-- Where records live, it is the same store. -/
theorem incrementAll_eq_of_perm (perm : entries.Perm entries') (hs : s.Scheduled)
    (lives : 0 < s.lifespan) : s.incrementAll now entries' = s.incrementAll now entries := by
  induction perm generalizing s with
  | nil => rfl
  | cons entry _ ih =>
    exact ih (hs.increment now entry.1 entry.2) (by rwa [lifespan_increment])
  | swap first second rest =>
    have swapped := (increment_comm hs now second.1 first.1 second.2 first.2).eq
      (records_increment_comm s now (.inr lives))
    exact congrArg (·.incrementAll now rest) swapped
  | trans _ _ ih ih' => rw [ih' hs lives, ih hs lives]

/-- A key that is counted at most once has one list of counts. -/
theorem countsOf_eq_of_perm (perm : entries.Perm entries')
    (once : (countsOf key entries).length ≤ 1) : countsOf key entries' = countsOf key entries := by
  have perm : (countsOf key entries).Perm (countsOf key entries') := perm.filter _
  match h : countsOf key entries with
  | [] => exact (h ▸ perm).nil_eq.symm
  | [entry] => exact (h ▸ perm).singleton_eq.symm
  | _ :: _ :: _ => rw [h] at once; simp at once

/-- Increments at one instant can be made in any order. They leave the same counters where records
live, and of each key that is counted at most once; and in any case the same live records, markers,
expiries and indexes. -/
theorem incrementAll_perm (lifespan : Int) (calls : List Call) (now : Instant)
    (perm : entries.Perm entries') :
    let s := (empty lifespan).afterCalls calls
    MatchesAt now (s.incrementAll now entries) (s.incrementAll now entries') ∧
      (∀ key : Key, 0 < lifespan ∨ (countsOf key entries).length ≤ 1 →
        (s.incrementAll now entries').records[key]? =
          (s.incrementAll now entries).records[key]?) ∧
      (0 < lifespan → s.incrementAll now entries' = s.incrementAll now entries) := by
  intro s
  have scheduled : s.Scheduled := by
    rw [show s = (empty lifespan).after (Call.history calls) from (after_history ..).symm]
    exact (scheduled_empty lifespan).after _
  have span : s.lifespan = lifespan := by
    rw [show s = (empty lifespan).after (Call.history calls) from (after_history ..).symm]
    exact lifespan_after (scheduled_empty lifespan) _
  have same (lives : 0 < lifespan) : s.incrementAll now entries' = s.incrementAll now entries :=
    incrementAll_eq_of_perm perm scheduled (span ▸ lives)
  refine ⟨matchesAt_of_perm perm scheduled, fun key told => ?_, same⟩
  rcases told with lives | once
  · rw [same lives]
  · rw [← records_incrementAll_countsOf now rfl rfl entries', countsOf_eq_of_perm perm once,
      records_incrementAll_countsOf now rfl rfl entries]

/-- Two resources are counted while an expired record of one of them is still there. -/
theorem incrementAll_perm_expired :
    let key : Key := ⟨⟨default, 474804⟩, 1, .node, 1⟩
    let other : Key := ⟨⟨default, 474804⟩, 1, .node, 2⟩
    let s := (empty 10).afterCalls [.request ⟨1⟩ (.increment key (.ofNats 7 7))]
    s.records[key]? = some ⟨.ofNats 7 7, none, none, ⟨11⟩⟩ ∧ s.live? ⟨20⟩ key = none ∧
      s.incrementAll ⟨20⟩ [(key, .ofNats 2 0), (other, .ofNats 4 4), (key, .ofNats 1 1)] =
        s.incrementAll ⟨20⟩ [(key, .ofNats 1 1), (key, .ofNats 2 0), (other, .ofNats 4 4)] := by
  intro key other s
  refine ⟨by decide +kernel, by decide +kernel, ?_⟩
  have perm : [(key, Traffic.ofNats 1 1), (key, .ofNats 2 0), (other, .ofNats 4 4)].Perm
      [(key, .ofNats 2 0), (other, .ofNats 4 4), (key, .ofNats 1 1)] := by decide +kernel
  exact (incrementAll_perm 10 [.request ⟨1⟩ (.increment key (.ofNats 7 7))] ⟨20⟩ perm).2.2
    (by decide)

/-- Records that do not live keep what was counted last, so two orders leave two counters. -/
theorem zero_lifespan_keeps_last :
    let key : Key := ⟨⟨default, 474804⟩, 1, .node, 1⟩
    let entries := [(key, Traffic.ofNats 10 10), (key, .ofNats 20 20)]
    let s := (empty 0).afterCalls []
    entries.reverse.Perm entries ∧
      (s.incrementAll ⟨5⟩ entries).records[key]? = some ⟨.ofNats 20 20, none, none, ⟨5⟩⟩ ∧
      (s.incrementAll ⟨5⟩ entries.reverse).records[key]? =
        some ⟨.ofNats 10 10, none, none, ⟨5⟩⟩ ∧
      s.incrementAll ⟨5⟩ entries.reverse ≠ s.incrementAll ⟨5⟩ entries := by
  intro key entries s
  have last : (s.incrementAll ⟨5⟩ entries).records[key]? =
      some ⟨.ofNats 20 20, none, none, ⟨5⟩⟩ := by decide +kernel
  have last' : (s.incrementAll ⟨5⟩ entries.reverse).records[key]? =
      some ⟨.ofNats 10 10, none, none, ⟨5⟩⟩ := by decide +kernel
  refine ⟨List.reverse_perm entries, last, last', fun same => ?_⟩
  rw [same, last] at last'
  exact absurd last' (by decide +kernel)

end Store

end Metering.Hot
