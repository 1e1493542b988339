import Metering.Proofs.Hot.Expiry

/-!
# What the operations do to the records

One lemma per operation says which record stands under each key afterwards, in terms of the records
that were live before, and that the agreement with the expiry index is kept. Later arguments never
open an operation again.

Results:
1. `records_increment`, `records_commit`, `records_settle`, `records_seed`, `records_forget` and
   `records_takeBucket`, with `Scheduled` kept by each.
2. `settle_fst`, `seed_fst`: what the answers tell about the live record.
3. `takeBucket_nodup`: a drained bucket tells each key once.
4. `live?_commit` and the lemmas next to it: which record is live after an operation.
-/

namespace Metering.Hot.Store

open Std

/-- The counter of `key`, a new one if none is live. -/
def counter (s : Store) (now : Instant) (key : Key) : Entry :=
  (s.live? now key).getD (.fresh (now.addNanos s.lifespan))

/-! ## Reads of the records -/

theorem live?_eq_some {s : Store} {now : Instant} {key : Key} {entry : Entry} :
    s.live? now key = some entry ↔ s.records[key]? = some entry ∧ now < entry.expiry := by
  rw [live?, Option.filter_eq_some_iff, decide_eq_true_eq]

/-- A record that is live at some time was live before. -/
theorem live?_of_le {s : Store} {now later : Instant} (le : now ≤ later) {key : Key}
    {entry : Entry} (h : s.live? later key = some entry) : s.live? now key = some entry := by
  rw [live?_eq_some] at h ⊢
  exact ⟨h.1, Int.lt_of_le_of_lt le h.2⟩

/-- What is live later is what is live now, less what expires in between. -/
theorem live?_later {s : Store} {now later : Instant} (le : now ≤ later) {key : Key} :
    s.live? later key =
      (s.live? now key).filter fun entry => decide (later < entry.expiry) := by
  apply Option.ext
  intro entry
  rw [Option.filter_eq_some_iff, decide_eq_true_eq]
  constructor
  · exact fun live => ⟨live?_of_le le live, (live?_eq_some.1 live).2⟩
  · rintro ⟨live, later⟩
    exact live?_eq_some.2 ⟨(live?_eq_some.1 live).1, later⟩

theorem live?_congr {s t : Store} {key : Key} (h : t.records[key]? = s.records[key]?)
    (now : Instant) : t.live? now key = s.live? now key := by
  rw [live?, live?, h]

theorem live?_expire {s : Store} (hs : s.Scheduled) (now : Instant) (key : Key) :
    (s.expire now).live? now key = s.live? now key := by
  rw [live?, records_expire hs, live?, Option.filter_filter]
  simp

@[simp] theorem records_touchActive (s : Store) (key : Key) (expiry : Instant) :
    (s.touchActive key expiry).records = s.records := rfl

@[simp] theorem records_deactivate (s : Store) (key : Key) :
    (s.deactivate key).records = s.records := rfl

@[simp] theorem records_forgetMember (s : Store) (key : Key) :
    (s.forgetMember key).records = s.records := rfl

theorem Scheduled.touchActive {s : Store} (hs : s.Scheduled) (key : Key) (expiry : Instant) :
    (s.touchActive key expiry).Scheduled :=
  hs.of_eq rfl rfl

theorem Scheduled.deactivate {s : Store} (hs : s.Scheduled) (key : Key) :
    (s.deactivate key).Scheduled :=
  hs.of_eq rfl rfl

theorem Scheduled.forgetMember {s : Store} (hs : s.Scheduled) (key : Key) :
    (s.forgetMember key).Scheduled :=
  hs.of_eq rfl rfl

theorem scheduled_empty (lifespan : Int) : Scheduled { lifespan } := by
  constructor
  · intro key expiry
    simp [Slotted]
  · intro expiry slot h
    simp at h

/-! ## Increments -/

theorem records_add (s : Store) (now : Instant) (key : Key) (traffic : Traffic) (key' : Key) :
    (s.add now key traffic).records[key']? =
      if key' = key then
        some { s.counter now key with
          traffic := (s.counter now key).traffic + traffic
          expiry := now.addNanos s.lifespan }
      else s.records[key']? := by
  have lifespan : ∀ t : Store, t = (if (s.live? now key).isNone then s.dropRecord key else s) →
      t.lifespan = s.lifespan := by
    rintro t rfl
    split
    · unfold dropRecord
      split <;> rfl
    · rfl
  unfold add
  simp only [records_touchActive]
  rw [records_put, lifespan _ rfl]
  cases h : s.live? now key with
  | none =>
    by_cases same : key' = key
    · simp [same, counter, h, records_dropRecord]
    · simp [same, records_dropRecord]
  | some entry =>
    by_cases same : key' = key
    · simp [same, counter, h, (live?_eq_some.1 h).1]
    · simp [same]

theorem Scheduled.add {s : Store} (hs : s.Scheduled) (now : Instant) (key : Key)
    (traffic : Traffic) : (s.add now key traffic).Scheduled := by
  unfold Store.add
  apply Scheduled.touchActive
  apply Scheduled.put
  split
  · exact hs.dropRecord key
  · exact hs

theorem records_increment (s : Store) (now : Instant) (key : Key) (traffic : Traffic)
    (key' : Key) :
    (s.increment now key traffic).records[key']? =
      if key' = key ∧ traffic ≠ 0 then
        some { s.counter now key with
          traffic := (s.counter now key).traffic + traffic
          expiry := now.addNanos s.lifespan }
      else s.records[key']? := by
  unfold increment
  by_cases zero : traffic = 0
  · simp [zero, Traffic.isZero_iff]
  · rw [if_neg (mt Traffic.isZero_iff.1 zero), records_add]
    simp [zero]

theorem Scheduled.increment {s : Store} (hs : s.Scheduled) (now : Instant) (key : Key)
    (traffic : Traffic) : (s.increment now key traffic).Scheduled := by
  unfold Store.increment
  split
  · exact hs
  · exact hs.add now key traffic

theorem Scheduled.incrementAll {s : Store} (hs : s.Scheduled) (now : Instant)
    (entries : List (Key × Traffic)) : (s.incrementAll now entries).Scheduled := by
  unfold Store.incrementAll
  induction entries generalizing s with
  | nil => exact hs
  | cons entry entries ih => exact ih (hs.increment now entry.1 entry.2)

/-! ## Commits -/

/-- The store with another record under `key`, which keeps its expiry. -/
def overwrite (s : Store) (key : Key) (entry : Entry) : Store :=
  { s with records := s.records.insert key entry }

theorem records_overwrite (s : Store) (key : Key) (entry : Entry) (key' : Key) :
    (s.overwrite key entry).records[key']? =
      if key' = key then some entry else s.records[key']? := by
  rw [overwrite, ExtTreeMap.getElem?_insert]
  by_cases same : key' = key
  · simp [same]
  · simp [same, Ne.symm same]

theorem Scheduled.overwrite {s : Store} (hs : s.Scheduled) {key : Key} {old entry : Entry}
    (h : s.records[key]? = some old) (expiry : entry.expiry = old.expiry) :
    (s.overwrite key entry).Scheduled := by
  constructor
  · intro key' at'
    rw [records_overwrite]
    refine (hs.slotted_iff key' at').trans ?_
    by_cases same : key' = key
    · simp [same, h, expiry]
    · simp [same]
  · exact hs.filled

theorem commit_of_live {s : Store} (hs : s.Scheduled) {now : Instant} {key : Key} {entry : Entry}
    (h : s.live? now key = some entry) (expected markers : Traffic) :
    s.commit now key expected markers =
      if entry.traffic = expected then
        (.settled, ((s.expire now).overwrite key (entry.mark markers)).deactivate key)
      else (.retained, (s.expire now).overwrite key (entry.mark markers)) := by
  rw [← records_expire hs] at h
  simp only [commit, h]
  rfl

theorem commit_of_absent {s : Store} (hs : s.Scheduled) {now : Instant} {key : Key}
    (h : s.live? now key = none) (expected markers : Traffic) :
    s.commit now key expected markers = (.missing, (s.expire now).deactivate key) := by
  rw [← records_expire hs] at h
  simp only [commit, h]

theorem records_commit {s : Store} (hs : s.Scheduled) (now : Instant) (key : Key)
    (expected markers : Traffic) (key' : Key) :
    (s.commit now key expected markers).2.records[key']? =
      if key' = key then (s.live? now key).map (·.mark markers) else s.live? now key' := by
  cases h : s.live? now key with
  | none =>
    rw [commit_of_absent hs h, records_deactivate, records_expire hs]
    by_cases same : key' = key
    · simp [same, h]
    · simp [same]
  | some entry =>
    have written : (s.commit now key expected markers).2.records =
        ((s.expire now).overwrite key (entry.mark markers)).records := by
      rw [commit_of_live hs h]
      split <;> rfl
    rw [written, records_overwrite, records_expire hs]
    rfl

theorem Scheduled.commit {s : Store} (hs : s.Scheduled) (now : Instant) (key : Key)
    (expected markers : Traffic) : (s.commit now key expected markers).2.Scheduled := by
  cases h : s.live? now key with
  | none =>
    rw [commit_of_absent hs h]
    exact (hs.expire now).deactivate key
  | some entry =>
    have kept : ((s.expire now).overwrite key (entry.mark markers)).Scheduled :=
      (hs.expire now).overwrite ((records_expire hs now key).trans h) rfl
    rw [commit_of_live hs h]
    split
    · exact kept.deactivate key
    · exact kept

/-! ## Settling -/

theorem settle_fst {s : Store} (hs : s.Scheduled) (now : Instant) (key : Key) (purge : Bool) :
    (s.settle now key purge).1 = (s.live? now key).all (·.isSettled) := by
  unfold settle
  dsimp only
  rw [records_expire hs]
  split
  · next h => rw [h]
  · next h => rw [Bool.not_eq_true] at h; rw [h]

theorem records_settle {s : Store} (hs : s.Scheduled) (now : Instant) (key : Key) (purge : Bool)
    (key' : Key) :
    (s.settle now key purge).2.records[key']? =
      if key' = key ∧ purge = true ∧ (s.live? now key).all (·.isSettled) = true then none
      else s.live? now key' := by
  unfold settle
  dsimp only
  rw [records_expire hs]
  by_cases settled : (s.live? now key).all (·.isSettled) = true
  · rw [if_pos settled]
    cases purge with
    | false => simp [records_expire hs]
    | true =>
      simp only [if_true, records_forgetMember, records_dropRecord, records_deactivate,
        records_expire hs, settled, and_true]
  · rw [if_neg settled, records_expire hs]
    simp [settled]

theorem Scheduled.settle {s : Store} (hs : s.Scheduled) (now : Instant) (key : Key)
    (purge : Bool) : (s.settle now key purge).2.Scheduled := by
  have left : ((s.expire now).deactivate key).Scheduled := (hs.expire now).deactivate key
  unfold Store.settle
  dsimp only
  split
  · cases purge with
    | false => exact left
    | true => exact (left.dropRecord key).forgetMember key
  · exact hs.expire now

/-! ## Seeds -/

theorem seed_fst {s : Store} (hs : s.Scheduled) (now : Instant) (key : Key) (baseline : Traffic) :
    (s.seed now key baseline).1 = (s.counter now key).unseeded := by
  unfold seed
  dsimp only
  rw [records_expire hs]
  rfl

theorem records_seed {s : Store} (hs : s.Scheduled) (now : Instant) (key : Key)
    (baseline : Traffic) (key' : Key) :
    (s.seed now key baseline).2.records[key']? =
      if key' = key then
        some { (s.counter now key).seed baseline with expiry := now.addNanos s.lifespan }
      else s.live? now key' := by
  unfold seed
  dsimp only
  rw [records_put, records_expire hs, records_expire hs]
  rfl

theorem Scheduled.seed {s : Store} (hs : s.Scheduled) (now : Instant) (key : Key)
    (baseline : Traffic) : (s.seed now key baseline).2.Scheduled :=
  (hs.expire now).put now key _

/-! ## Removals -/

theorem records_forget (s : Store) (key key' : Key) :
    (s.forget key).2.records[key']? = if key' = key then none else s.records[key']? :=
  records_dropRecord ..

theorem Scheduled.forget {s : Store} (hs : s.Scheduled) (key : Key) :
    (s.forget key).2.Scheduled :=
  ((hs.deactivate key).forgetMember key).dropRecord key

/-- Removes the members of a bucket. -/
def dropMembers (s : Store) (keys : List Key) : Store :=
  keys.foldl (fun s key => (s.dropRecord key).deactivate key) s

theorem records_dropMembers (s : Store) (keys : List Key) (key : Key) :
    (s.dropMembers keys).records[key]? = if key ∈ keys then none else s.records[key]? := by
  unfold dropMembers
  induction keys generalizing s with
  | nil => simp
  | cons head keys ih =>
    rw [List.foldl_cons, ih, records_deactivate, records_dropRecord]
    by_cases same : key = head
    · simp [same]
    · simp [same]

theorem Scheduled.dropMembers {s : Store} (hs : s.Scheduled) (keys : List Key) :
    (s.dropMembers keys).Scheduled := by
  unfold Store.dropMembers
  induction keys generalizing s with
  | nil => exact hs
  | cons head keys ih => exact ih ((hs.dropRecord head).deactivate head)

theorem records_takeBucket {s : Store} (hs : s.Scheduled) (now : Instant) (bucket : Bucket)
    (key : Key) :
    (s.takeBucket now bucket).2.records[key]? =
      if key ∈ (s.expire now).membersOf bucket then none else s.live? now key := by
  rw [← records_expire hs]
  exact records_dropMembers ..

theorem Scheduled.takeBucket {s : Store} (hs : s.Scheduled) (now : Instant) (bucket : Bucket) :
    (s.takeBucket now bucket).2.Scheduled :=
  ((hs.expire now).dropMembers _).of_eq rfl rfl

theorem nodup_toList (keys : ExtTreeSet Key) : keys.toList.Nodup := by
  refine ExtTreeSet.distinct_toList.imp ?_
  rintro a b distinct rfl
  exact distinct ReflOrd.compare_self

theorem membersOf_nodup (s : Store) (bucket : Bucket) : (s.membersOf bucket).Nodup := by
  unfold membersOf
  split
  · exact nodup_toList _
  · exact List.nodup_nil

theorem activeKeys_nodup (s : Store) (now : Instant) (limit : Nat) :
    (s.activeKeys now limit).1.Nodup :=
  (nodup_toList _).sublist (List.take_sublist limit _)

/-- A drained bucket tells its live members, each once. -/
theorem takeBucket_fst {s : Store} (hs : s.Scheduled) (now : Instant) (bucket : Bucket) :
    (s.takeBucket now bucket).1 = ((s.expire now).membersOf bucket).filterMap fun key =>
      (s.live? now key).map (·.toRecord key) := by
  unfold takeBucket recordsOf
  simp only [records_expire hs]

theorem takeBucket_nodup {s : Store} (hs : s.Scheduled) (now : Instant) (bucket : Bucket) :
    ((s.takeBucket now bucket).1.map Record.key).Nodup := by
  have keys : (s.takeBucket now bucket).1.map Record.key =
      ((s.expire now).membersOf bucket).filter fun key => (s.live? now key).isSome := by
    rw [takeBucket_fst hs, List.map_filterMap, ← List.filterMap_eq_filter]
    congr 1
    funext key
    cases h : s.live? now key with
    | none => simp [Option.guard, h]
    | some entry => simp [Option.guard, h, Entry.toRecord]
  rw [keys]
  exact (membersOf_nodup _ bucket).filter _

/-! ## Live records -/

/-- A record that was just found live is live. -/
theorem live?_of_records {s t : Store} {now : Instant} {key : Key}
    (h : t.records[key]? = s.live? now key) : t.live? now key = s.live? now key := by
  rw [live?, h, live?, Option.filter_filter]
  simp

theorem live?_increment_of_ne (s : Store) (now : Instant) {key key' : Key} (ne : key' ≠ key)
    (traffic : Traffic) : (s.increment now key' traffic).live? now key = s.live? now key :=
  live?_congr ((records_increment ..).trans (if_neg fun h => ne h.1.symm)) now

theorem live?_commit {s : Store} (hs : s.Scheduled) (now : Instant) (key : Key)
    (expected markers : Traffic) :
    (s.commit now key expected markers).2.live? now key =
      (s.live? now key).map (·.mark markers) := by
  rw [live?, records_commit hs, if_pos rfl]
  cases h : s.live? now key with
  | none => rfl
  | some entry =>
    have later : now < (entry.mark markers).expiry := (live?_eq_some.1 h).2
    simp [later]

theorem live?_commit_of_ne {s : Store} (hs : s.Scheduled) (now : Instant) {key key' : Key}
    (ne : key' ≠ key) (expected markers : Traffic) :
    (s.commit now key' expected markers).2.live? now key = s.live? now key :=
  live?_of_records ((records_commit hs ..).trans (if_neg (Ne.symm ne)))

theorem live?_settle {s : Store} (hs : s.Scheduled) (now : Instant) (key : Key) (purge : Bool) :
    (s.settle now key purge).2.live? now key =
      if purge = true ∧ (s.live? now key).all (·.isSettled) = true then none
      else s.live? now key := by
  have records := records_settle hs now key purge key
  split
  · next purged =>
    rw [if_pos ⟨rfl, purged⟩] at records
    rw [live?, records]
    rfl
  · next kept =>
    rw [if_neg fun h => kept h.2] at records
    exact live?_of_records records

theorem live?_settle_of_ne {s : Store} (hs : s.Scheduled) (now : Instant) {key key' : Key}
    (ne : key' ≠ key) (purge : Bool) :
    (s.settle now key' purge).2.live? now key = s.live? now key :=
  live?_of_records ((records_settle hs ..).trans (if_neg fun h => ne h.1.symm))

theorem live?_seed_of_ne {s : Store} (hs : s.Scheduled) (now : Instant) {key key' : Key}
    (ne : key' ≠ key) (baseline : Traffic) :
    (s.seed now key' baseline).2.live? now key = s.live? now key :=
  live?_of_records ((records_seed hs ..).trans (if_neg (Ne.symm ne)))

theorem live?_forget (s : Store) (now : Instant) (key key' : Key) :
    (s.forget key').2.live? now key = if key = key' then none else s.live? now key := by
  have records := records_forget s key' key
  split
  · next same =>
    rw [if_pos same] at records
    rw [live?, records]
    rfl
  · next other =>
    rw [if_neg other] at records
    exact live?_congr records now

theorem live?_takeBucket {s : Store} (hs : s.Scheduled) (now : Instant) (bucket : Bucket)
    (key : Key) :
    (s.takeBucket now bucket).2.live? now key =
      if key ∈ (s.expire now).membersOf bucket then none else s.live? now key := by
  have records := records_takeBucket hs now bucket key
  split
  · next member =>
    rw [if_pos member] at records
    rw [live?, records]
    rfl
  · next absent =>
    rw [if_neg absent] at records
    exact live?_of_records records

/-- Of a drained bucket each member that is live is told. -/
theorem find?_takeBucket {s : Store} (hs : s.Scheduled) (now : Instant) (bucket : Bucket)
    (key : Key) :
    (s.takeBucket now bucket).1.find? (·.key = key) =
      if key ∈ (s.expire now).membersOf bucket then (s.live? now key).map (·.toRecord key)
      else none := by
  rw [takeBucket_fst hs]
  induction (s.expire now).membersOf bucket with
  | nil => rfl
  | cons head keys ih =>
    cases found : s.live? now head with
    | none =>
      rw [List.filterMap_cons_none (by rw [found]; rfl), ih]
      by_cases same : key = head
      · simp [same, found]
      · simp [same]
    | some entry =>
      rw [List.filterMap_cons_some (by rw [found]; rfl), List.find?_cons, ih]
      by_cases same : head = key
      · simp [← same, found, Entry.toRecord]
      · simp [same, Ne.symm same, Entry.toRecord]

end Metering.Hot.Store
