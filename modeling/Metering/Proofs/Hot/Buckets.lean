import Metering.Proofs.Hot.ActiveIndex

/-!
# The bucket indexes

A bucket is enumerated through its index, which expires as a whole. Each write gives the index the
latest expiry there can be, so it lasts at least as long as any record of the bucket. The index may
keep members whose records have expired, and those come back to life with the next write; what it
tells is looked up among the records, so it tells the live records of the bucket and nothing else.

Results:
1. `Indexed.after`: in every history with a clock that does not go back each record stands in the
   index of its bucket, which outlasts it.
2. `mem_recordsOf`: the records that an enumeration tells are those that are live in the bucket.
-/

namespace Metering.Hot.Store

open Std

/-- `key` is in the index of its bucket, which lasts until `expiry` at least. -/
def Listed (s : Store) (key : Key) (expiry : Instant) : Prop :=
  ∃ index, s.buckets[key.bucket]? = some index ∧ key ∈ index.members ∧ expiry ≤ index.expiry

/-- The records stand in the indexes of their buckets, and no index or record lasts longer than if
it had been written just now. -/
structure Indexed (s : Store) (now : Instant) : Prop where
  member : ∀ bucket, ∀ key ∈ s.membersOf bucket, key.bucket = bucket
  listed : ∀ (key : Key) (entry : Entry), s.records[key]? = some entry →
    s.Listed key entry.expiry
  dated : ∀ (key : Key) (entry : Entry), s.records[key]? = some entry →
    entry.expiry ≤ now.addNanos s.lifespan

variable {s : Store} {now : Instant} {key : Key} {expiry : Instant}

/-! ## Members -/

theorem mem_membersOf {bucket : Bucket} : key ∈ s.membersOf bucket ↔
    ∃ index, s.buckets[bucket]? = some index ∧ key ∈ index.members := by
  unfold membersOf
  cases s.buckets[bucket]? with
  | none => simp
  | some index => simp [ExtTreeSet.mem_toList]

theorem mem_membersOf_of_expire {bucket : Bucket} (h : key ∈ (s.expire now).membersOf bucket) :
    key ∈ s.membersOf bucket := by
  obtain ⟨index, found, member⟩ := mem_membersOf.1 h
  simp only [expire, ExtTreeMap.getElem?_filter', Option.filter_eq_some_iff] at found
  exact mem_membersOf.2 ⟨index, found.1, member⟩

theorem mem_membersOf_of_touchBucket {key' : Key} {bucket : Bucket}
    (h : key ∈ (s.touchBucket key' expiry).membersOf bucket) :
    key ∈ s.membersOf bucket ∨ key.bucket = bucket := by
  obtain ⟨index, found, member⟩ := mem_membersOf.1 h
  simp only [touchBucket, ExtTreeMap.getElem?_alter, LawfulEqOrd.compare_eq_iff_eq,
    Function.comp_apply] at found
  split at found
  · next same =>
    subst same
    cases found
    rw [ExtTreeSet.mem_insert, LawfulEqOrd.compare_eq_iff_eq] at member
    rcases member with rfl | before
    · exact .inr rfl
    · left
      rw [mem_membersOf]
      cases old : s.buckets[key'.bucket]? with
      | none => simp [old] at before
      | some index => exact ⟨index, rfl, by simpa [old] using before⟩
  · exact .inl (mem_membersOf.2 ⟨index, found, member⟩)

theorem mem_membersOf_of_forgetMember {key' : Key} {bucket : Bucket}
    (h : key ∈ (s.forgetMember key').membersOf bucket) : key ∈ s.membersOf bucket := by
  obtain ⟨index, found, member⟩ := mem_membersOf.1 h
  simp only [forgetMember, ExtTreeMap.getElem?_modify, LawfulEqOrd.compare_eq_iff_eq] at found
  split at found
  · next same =>
    subst same
    obtain ⟨old, hold, rfl⟩ := Option.map_eq_some_iff.1 found
    exact mem_membersOf.2 ⟨old, hold, ExtTreeSet.mem_of_mem_erase member⟩
  · exact mem_membersOf.2 ⟨index, found, member⟩

/-! ## Listed keys -/

theorem Listed.expire (h : s.Listed key expiry) (later : now < expiry) :
    (s.expire now).Listed key expiry := by
  obtain ⟨index, found, member, within⟩ := h
  have later : now < index.expiry := Int.lt_of_lt_of_le later within
  refine ⟨index, ?_, member, within⟩
  simp [Store.expire, found, later]

theorem listed_touchBucket (s : Store) (key : Key) (expiry : Instant) :
    (s.touchBucket key expiry).Listed key expiry := by
  unfold Listed touchBucket
  simp only [ExtTreeMap.getElem?_alter_self, Function.comp_apply]
  exact ⟨_, rfl, ExtTreeSet.mem_insert_self, Int.le_refl _⟩

/-- A later write of the bucket keeps what was listed. -/
theorem Listed.touchBucket (h : s.Listed key expiry) {key' : Key} {later : Instant}
    (le : expiry ≤ later) : (s.touchBucket key' later).Listed key expiry := by
  obtain ⟨index, found, member, within⟩ := h
  unfold Listed Store.touchBucket
  simp only [ExtTreeMap.getElem?_alter, LawfulEqOrd.compare_eq_iff_eq, Function.comp_apply]
  split
  · next same =>
    refine ⟨_, rfl, ?_, le⟩
    rw [same, found]
    exact ExtTreeSet.mem_insert.2 (.inr member)
  · exact ⟨index, found, member, within⟩

theorem Listed.forgetMember (h : s.Listed key expiry) {key' : Key} (ne : key' ≠ key) :
    (s.forgetMember key').Listed key expiry := by
  obtain ⟨index, found, member, within⟩ := h
  unfold Listed Store.forgetMember
  simp only [ExtTreeMap.getElem?_modify, LawfulEqOrd.compare_eq_iff_eq]
  split
  · next same =>
    rw [same, found]
    refine ⟨_, rfl, ?_, within⟩
    rw [ExtTreeSet.mem_erase, ne_eq, LawfulEqOrd.compare_eq_iff_eq]
    exact ⟨ne, member⟩
  · exact ⟨index, found, member, within⟩

/-! ## Operations -/

/-- What is listed depends on the bucket indexes only. -/
theorem Listed.of_eq {t : Store} (h : s.Listed key expiry) (same : t.buckets = s.buckets) :
    t.Listed key expiry := by
  unfold Listed
  rw [same]
  exact h

theorem membersOf_congr {t : Store} (same : t.buckets = s.buckets) (bucket : Bucket) :
    t.membersOf bucket = s.membersOf bucket := by
  rw [membersOf, membersOf, same]

theorem buckets_dropRecord (s : Store) (key : Key) : (s.dropRecord key).buckets = s.buckets := by
  unfold dropRecord
  split <;> rfl

theorem buckets_put (s : Store) (now : Instant) (key : Key) (entry : Entry) :
    (s.put now key entry).buckets = (s.touchBucket key (now.addNanos s.lifespan)).buckets := by
  unfold put reschedule
  dsimp only
  split
  · rfl
  · cases s.records[key]? <;> rfl

theorem buckets_increment (s : Store) (now : Instant) (key : Key) {traffic : Traffic}
    (nonzero : traffic ≠ 0) :
    (s.increment now key traffic).buckets =
      (s.touchBucket key (now.addNanos s.lifespan)).buckets := by
  rw [increment, if_neg (mt Traffic.isZero_iff.1 nonzero)]
  refine (buckets_put ..).trans ?_
  split
  · unfold touchBucket
    rw [buckets_dropRecord, (sameIndex_dropRecord s key).lifespan]
  · rfl

theorem buckets_commit {s : Store} (hs : s.Scheduled) (now : Instant) (key : Key)
    (expected markers : Traffic) :
    (s.commit now key expected markers).2.buckets = (s.expire now).buckets := by
  cases h : s.live? now key with
  | none => rw [commit_of_absent hs h]; rfl
  | some entry =>
    rw [commit_of_live hs h]
    split <;> rfl

/-- A purge leaves the index of the bucket without its key; other settlements leave it as it is. -/
theorem buckets_settle {s : Store} (hs : s.Scheduled) (now : Instant) (key : Key) (purge : Bool) :
    (s.settle now key purge).2.buckets =
      if purge = true ∧ (s.live? now key).all (·.isSettled) = true then
        ((s.expire now).forgetMember key).buckets
      else (s.expire now).buckets := by
  unfold settle
  dsimp only
  rw [records_expire hs]
  by_cases settled : (s.live? now key).all (·.isSettled) = true
  · cases purge with
    | false => simp [settled, deactivate]
    | true =>
      simp only [settled, if_true, and_self, forgetMember, buckets_dropRecord]
      rfl
  · simp [settled]

theorem buckets_seed (s : Store) (now : Instant) (key : Key) (baseline : Traffic) :
    (s.seed now key baseline).2.buckets =
      ((s.expire now).touchBucket key (now.addNanos s.lifespan)).buckets :=
  buckets_put ..

theorem buckets_forget (s : Store) (key : Key) :
    (s.forget key).2.buckets = (s.forgetMember key).buckets :=
  buckets_dropRecord ..

theorem buckets_takeBucket (s : Store) (now : Instant) (bucket : Bucket) :
    (s.takeBucket now bucket).2.buckets = (s.expire now).buckets.erase bucket := by
  have dropped : ∀ (keys : List Key) (t : Store), (t.dropMembers keys).buckets = t.buckets := by
    intro keys
    unfold dropMembers
    induction keys with
    | nil => exact fun _ => rfl
    | cons head keys ih => exact fun t => (ih _).trans (buckets_dropRecord t head)
  exact congrArg (·.erase bucket) (dropped _ _)

/-! ## Acts -/

/-- Only members of a bucket enter its index. -/
theorem mem_membersOf_of_act (hs : s.Scheduled) {a : Act} {bucket : Bucket}
    (h : key ∈ (s.act now a).membersOf bucket) :
    key ∈ s.membersOf bucket ∨ key.bucket = bucket := by
  cases a with
  | increment key' traffic =>
    by_cases zero : traffic = 0
    · rw [act, increment, if_pos (Traffic.isZero_iff.2 zero)] at h
      exact .inl h
    · rw [act, membersOf_congr (buckets_increment s now key' zero)] at h
      exact mem_membersOf_of_touchBucket h
  | commit key' expected markers =>
    rw [act, membersOf_congr (buckets_commit hs now key' expected markers)] at h
    exact .inl (mem_membersOf_of_expire h)
  | settle key' purge =>
    have buckets := buckets_settle hs now key' purge
    split at buckets
    · rw [act, membersOf_congr buckets] at h
      exact .inl (mem_membersOf_of_expire (mem_membersOf_of_forgetMember h))
    · rw [act, membersOf_congr buckets] at h
      exact .inl (mem_membersOf_of_expire h)
  | seed key' baseline =>
    rw [act, membersOf_congr (buckets_seed ..)] at h
    exact (mem_membersOf_of_touchBucket h).imp_left mem_membersOf_of_expire
  | forget key' =>
    rw [act, membersOf_congr (buckets_forget s key')] at h
    exact .inl (mem_membersOf_of_forgetMember h)
  | take bucket' =>
    obtain ⟨index, found, member⟩ := mem_membersOf.1 h
    rw [act, buckets_takeBucket, ExtTreeMap.getElem?_erase] at found
    split at found
    · cases found
    · exact .inl (mem_membersOf_of_expire (mem_membersOf.2 ⟨index, found, member⟩))
  | snapshot keys => exact .inl h
  | sweep => exact .inl (mem_membersOf_of_expire h)

/-- A listed key stays listed for as long as its record stays. -/
theorem Listed.act (hs : s.Scheduled) {a : Act} (h : s.Listed key expiry)
    (dated : expiry ≤ now.addNanos s.lifespan) (live : a.Sweeps → now < expiry)
    (stays : (s.act now a).records[key]? ≠ none) : (s.act now a).Listed key expiry := by
  cases a with
  | increment key' traffic =>
    by_cases zero : traffic = 0
    · rwa [Store.act, increment, if_pos (Traffic.isZero_iff.2 zero)]
    · exact (h.touchBucket dated).of_eq (buckets_increment s now key' zero)
  | commit key' expected markers =>
    exact (h.expire (live trivial)).of_eq (buckets_commit hs now key' expected markers)
  | settle key' purge =>
    have buckets := buckets_settle hs now key' purge
    split at buckets
    · next purged =>
      refine ((h.expire (live trivial)).forgetMember ?_).of_eq buckets
      rintro rfl
      exact stays ((records_settle hs ..).trans (if_pos ⟨rfl, purged⟩))
    · exact (h.expire (live trivial)).of_eq buckets
  | seed key' baseline =>
    exact ((h.expire (live trivial)).touchBucket dated).of_eq (buckets_seed ..)
  | forget key' =>
    refine (h.forgetMember ?_).of_eq (buckets_forget s key')
    rintro rfl
    exact stays ((records_forget ..).trans (if_pos rfl))
  | take bucket =>
    obtain ⟨index, found, member, within⟩ := h.expire (live trivial)
    refine ⟨index, ?_, member, within⟩
    have ne : bucket ≠ key.bucket := by
      rintro rfl
      refine stays ((records_takeBucket hs ..).trans (if_pos ?_))
      exact mem_membersOf.2 ⟨index, found, member⟩
    rw [Store.act, buckets_takeBucket, ExtTreeMap.getElem?_erase, if_neg, found]
    rwa [LawfulEqOrd.compare_eq_iff_eq]
  | snapshot keys => exact h
  | sweep => exact h.expire (live trivial)

theorem Indexed.act (hs : s.Scheduled) (h : s.Indexed now) (a : Act) :
    (s.act now a).Indexed now := by
  have stays : ∀ {key : Key} {entry : Entry}, (s.act now a).records[key]? = some entry →
      (s.act now a).records[key]? ≠ none :=
    fun found absent => nomatch found.symm.trans absent
  constructor
  · intro bucket key member
    exact (mem_membersOf_of_act hs member).elim (h.member bucket key) id
  · intro key entry found
    cases becomes_of_records hs found with
    | kept _ _ _ before live =>
      exact (h.listed key entry before).act hs (h.dated key entry before) live (stays found)
    | grown nonzero => exact (listed_touchBucket ..).of_eq (buckets_increment s now key nonzero)
    | @marked _ _ old live =>
      obtain ⟨before, later⟩ := live?_eq_some.1 live
      exact (h.listed key old before).act hs (h.dated key old before) (fun _ => later) (stays found)
    | seeded => exact (listed_touchBucket ..).of_eq (buckets_seed ..)
  · intro key entry found
    rw [lifespan_act hs]
    cases becomes_of_records hs found with
    | kept _ _ _ before _ => exact h.dated key entry before
    | grown _ => exact Int.le_refl _
    | @marked _ _ old live => exact h.dated key old (live?_eq_some.1 live).1
    | seeded => exact Int.le_refl _

/-- A store that finds its due records, and finds its live records through their buckets. -/
structure Enumerable (s : Store) (now : Instant) : Prop where
  scheduled : s.Scheduled
  indexed : s.Indexed now

theorem Enumerable.answer (h : s.Enumerable now) {α : Type} (request : Request α) :
    (s.answer now request).2.Enumerable now := by
  rw [answer_snd]
  generalize request.acts = acts
  induction acts generalizing s with
  | nil => exact h
  | cons act acts ih => exact ih ⟨h.scheduled.act now act, h.indexed.act h.scheduled act⟩

theorem Indexed.answer (hs : s.Scheduled) (h : s.Indexed now) {α : Type} (request : Request α) :
    (s.answer now request).2.Indexed now :=
  (Enumerable.answer ⟨hs, h⟩ request).indexed

theorem Indexed.pass (h : s.Indexed now) {later : Instant} (le : now ≤ later) :
    s.Indexed later :=
  ⟨h.member, h.listed,
    fun key entry found => Int.le_trans (h.dated key entry found) (Int.add_le_add_right le _)⟩

theorem indexed_empty (lifespan : Int) (now : Instant) : (empty lifespan).Indexed now := by
  refine ⟨?_, ?_, ?_⟩ <;> simp [empty, membersOf]

/-- Each record of a store that started empty stands in the index of its bucket. -/
theorem Indexed.after {lifespan : Int} {history : History} (clocked : history.Clocked now) :
    ((empty lifespan).after history).Indexed now := by
  induction history generalizing now with
  | nil => exact indexed_empty lifespan now
  | cons step earlier ih =>
    obtain ⟨time, a⟩ := step
    exact ((ih clocked.2).act ((scheduled_empty lifespan).after earlier) a).pass clocked.1

theorem Enumerable.afterCalls {lifespan : Int} {calls : List Call}
    (clocked : Call.Clocked calls now) : ((empty lifespan).afterCalls calls).Enumerable now := by
  rw [← after_history]
  exact ⟨(scheduled_empty lifespan).after _, .after clocked.history⟩

/-! ## Enumeration -/

/-- Records that were written live for some time. -/
theorem Indexed.lifespan_pos (h : s.Indexed now) {entry : Entry}
    (live : s.live? now key = some entry) : 0 < s.lifespan := by
  obtain ⟨found, later⟩ := live?_eq_some.1 live
  have within : now.nanos < now.nanos + s.lifespan :=
    Int.lt_of_lt_of_le later (h.dated key entry found)
  omega

/-- A live record is in the index of its bucket. -/
theorem Indexed.mem_membersOf (h : s.Indexed now) {entry : Entry}
    (live : s.live? now key = some entry) : key ∈ (s.expire now).membersOf key.bucket := by
  obtain ⟨found, later⟩ := live?_eq_some.1 live
  obtain ⟨index, hindex, member, -⟩ := (h.listed key entry found).expire later
  exact Store.mem_membersOf.2 ⟨index, hindex, member⟩

/-- The enumeration of a bucket tells its live records. -/
theorem mem_recordsOf (hs : s.Scheduled) (h : s.Indexed now) {bucket : Bucket} {r : Record} :
    r ∈ (s.expire now).recordsOf bucket ↔
      r.key.bucket = bucket ∧ (s.live? now r.key).map (·.toRecord r.key) = some r := by
  unfold recordsOf
  simp only [List.mem_filterMap, records_expire hs]
  constructor
  · rintro ⟨key, member, told⟩
    obtain ⟨entry, live, rfl⟩ := Option.map_eq_some_iff.1 told
    exact ⟨h.member bucket key (mem_membersOf_of_expire member), told⟩
  · rintro ⟨rfl, told⟩
    obtain ⟨entry, live, -⟩ := Option.map_eq_some_iff.1 told
    exact ⟨r.key, h.mem_membersOf live, told⟩

/-- The enumeration of a bucket tells of each member what is live. -/
theorem Indexed.find?_recordsOf (h : s.Indexed now) (hs : s.Scheduled) (key : Key) :
    ((s.expire now).recordsOf key.bucket).find? (·.key = key) =
      (s.live? now key).map (·.toRecord key) := by
  refine (find?_takeBucket hs now key.bucket key).trans ?_
  split
  · rfl
  · next absent =>
    cases live : s.live? now key with
    | none => rfl
    | some entry => exact (absent (h.mem_membersOf live)).elim

/-- A drained bucket keeps no live record. -/
theorem Indexed.live?_takeBucket (h : s.Indexed now) (hs : s.Scheduled) (bucket : Bucket)
    (key : Key) :
    (s.takeBucket now bucket).2.live? now key =
      if key.bucket = bucket then none else s.live? now key := by
  rw [Store.live?_takeBucket hs]
  split
  · next member => rw [if_pos (h.member bucket key (mem_membersOf_of_expire member))]
  · next absent =>
    split
    · next same =>
      cases live : s.live? now key with
      | none => rfl
      | some entry => exact (absent (same ▸ h.mem_membersOf live)).elim
    · rfl

end Metering.Hot.Store
