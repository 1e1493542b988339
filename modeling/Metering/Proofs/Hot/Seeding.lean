import Metering.Proofs.Hot.ActiveIndex

/-!
# Seeding is all or nothing

The two markers of a counter are written by commits and by seeds, always both together, so a counter
has both or neither. A baseline is therefore taken in both directions or in none, and since it
counts as traffic and as flushed alike, the pending part of the counter stays what it was.

A second seed finds the markers of the first one, unless the record has expired by then. A life span
that is not positive lets a record expire as it is written.

Results:
1. `Paired.act`: no act sets one marker without the other.
2. `Entry.Paired.seed_cases`: a counter takes a baseline whole or not at all.
3. `seed_whole_or_none`: what seeding does to the counter, to the active index and to a second seed.
4. `zero_lifespan_seeds_again`: records that do not live are seeded each time.
-/

namespace Metering.Hot

open Std

/-! ## Counters -/

namespace Entry

variable {e : Entry}

/-- Both markers are set, or neither is. -/
def Paired (e : Entry) : Prop := e.flushedUpload.isNone = e.flushedDownload.isNone

theorem paired_fresh (expiry : Instant) : (fresh expiry).Paired := rfl

theorem paired_mark (e : Entry) (markers : Traffic) : (e.mark markers).Paired := rfl

/-- A seeded counter has both markers, whatever it had before. -/
theorem paired_seed (e : Entry) (baseline : Traffic) : (e.seed baseline).Paired := by
  simp [Paired, seed]

theorem unseeded_seed (e : Entry) (baseline : Traffic) : (e.seed baseline).unseeded = 0 := by
  simp [unseeded, seed]

/-- Where nothing is left to seed a baseline changes nothing. -/
theorem seed_of_unseeded (h : e.unseeded = 0) (baseline : Traffic) : e.seed baseline = e := by
  obtain ⟨traffic, _ | upload, _ | download, expiry⟩ := e
  · simp [unseeded] at h
  · simp [unseeded] at h
  · simp [unseeded] at h
  · simp [seed]

/-- The counter took the whole baseline and had no marker before. -/
structure TookAll (e : Entry) (baseline : Traffic) (seeded : Entry) : Prop where
  unmarked : ∀ d, e.marker d = none
  counted : ∀ d, seeded.traffic.bytes d = e.traffic.bytes d + baseline.bytes d
  upload : seeded.flushedUpload = some baseline.upload
  download : seeded.flushedDownload = some baseline.download

/-- The counter had both markers, and neither they nor the count have changed. -/
structure TookNone (e : Entry) (seeded : Entry) : Prop where
  marked : ∀ d, e.marker d ≠ none
  traffic : seeded.traffic = e.traffic
  markers : ∀ d, seeded.marker d = e.marker d

/-- A counter with both markers or neither takes a baseline whole or not at all. -/
theorem Paired.seed_cases (paired : e.Paired) {baseline : Traffic}
    (room : ∀ d, e.traffic.bytes d + baseline.bytes d ≤ Count.top) :
    e.unseeded = 2 ∧ e.TookAll baseline (e.seed baseline) ∨
      e.unseeded = 0 ∧ e.TookNone (e.seed baseline) := by
  obtain ⟨traffic, _ | upload, _ | download, expiry⟩ := e
  · refine .inl ⟨rfl, ⟨?_, fun d => ?_, rfl, rfl⟩⟩
    · rintro (_ | _) <;> rfl
    · exact Traffic.bytes_add_of_lt d (room d)
  · cases paired
  · cases paired
  · refine .inr ⟨rfl, ⟨?_, by simp [seed], ?_⟩⟩
    · rintro (_ | _) <;> exact Option.some_ne_none _
    · rintro (_ | _) <;> rfl

/-- A baseline that fits counts as traffic and as flushed alike. -/
theorem pending_seed {baseline : Traffic}
    (room : ∀ d, e.traffic.bytes d + baseline.bytes d ≤ Count.top) :
    (e.seed baseline).pending = e.pending := by
  refine Traffic.ext_bytes fun d => ?_
  have part : (e.takes baseline).bytes d ≤ baseline.bytes d := by
    cases d with
    | upload => simp only [takes, Traffic.bytes]; split <;> simp
    | download => simp only [takes, Traffic.bytes]; split <;> simp
  have fits := room d
  rw [bytes_pending, bytes_pending, bytes_traffic_seed, bytes_flushed_seed]
  omega

end Entry

/-! ## Stores -/

namespace Store

variable {s : Store} {now : Instant} {key : Key}

/-- Every record has both markers or neither. -/
def Paired (s : Store) : Prop :=
  ∀ (key : Key) (entry : Entry), s.records[key]? = some entry → entry.Paired

theorem Paired.counter (h : s.Paired) (now : Instant) (key : Key) : (s.counter now key).Paired := by
  rcases counter_cases s now key with live | fresh
  · exact h key _ (live?_eq_some.1 live).1
  · exact fresh ▸ Entry.paired_fresh _

/-- No act sets one marker without the other. -/
theorem Paired.act (hs : s.Scheduled) (h : s.Paired) (now : Instant) (a : Act) :
    (s.act now a).Paired := by
  intro key entry found
  cases becomes_of_records hs found with
  | kept _ _ _ before _ => exact h key entry before
  | grown _ => exact h.counter now key
  | marked _ => exact Entry.paired_mark ..
  | seeded => exact Entry.paired_seed ..

theorem Paired.after (hs : s.Scheduled) (h : s.Paired) (history : History) :
    (s.after history).Paired := by
  induction history with
  | nil => exact h
  | cons step earlier ih => exact ih.act (hs.after earlier) step.1 step.2

theorem paired_afterCalls (lifespan : Int) (calls : List Call) :
    ((empty lifespan).afterCalls calls).Paired := by
  rw [← after_history]
  refine Paired.after (scheduled_empty lifespan) ?_ _
  exact fun key entry found => nomatch (records_empty lifespan key).symm.trans found

/-! ## The active index -/

/-- What has expired can be dropped early without a trace in the active index. -/
theorem active_expire_expire (s : Store) {later : Instant} (le : now ≤ later) :
    ((s.expire now).expire later).active = (s.expire later).active := by
  refine ExtTreeSet.ext_mem fun key => ?_
  rw [mem_active_expire, mem_active_expire, mem_active_expire, ← and_assoc]
  refine and_congr_left fun _ => ⟨fun still overdue => ?_, fun still => ⟨?_, ?_⟩⟩
  · obtain ⟨expiry, same, due⟩ := overdue
    exact still.1 ⟨expiry, activeExpiry_expire.2 ⟨still.2, same⟩, due⟩
  · rintro ⟨expiry, same, due⟩
    exact still ⟨expiry, (activeExpiry_expire.1 same).2, due⟩
  · rintro ⟨expiry, same, due⟩
    exact still ⟨expiry, same, Int.le_trans due le⟩

theorem SameIndex.active_expire {t : Store} (same : s.SameIndex t) (now : Instant) :
    (t.expire now).active = (s.expire now).active := by
  refine ExtTreeSet.ext_mem fun key => ?_
  rw [mem_active_expire, mem_active_expire, same.active, Overdue, Overdue, same.activeExpiry]

/-- A seed leaves the active index as it finds it. -/
theorem active_expire_seed (s : Store) {later : Instant} (le : now ≤ later) (key : Key)
    (baseline : Traffic) :
    ((s.seed now key baseline).2.expire later).active = (s.expire later).active :=
  ((sameIndex_put ..).active_expire later).trans (active_expire_expire s le)

/-! ## Pending traffic -/

/-- What is told to be pending under a key. -/
def pendingAt (s : Store) (now : Instant) (key : Key) : Traffic :=
  ((s.live? now key).map Entry.pending).getD 0

theorem pendingAt_eq_counter (s : Store) (now : Instant) (key : Key) :
    s.pendingAt now key = (s.counter now key).pending := by
  unfold pendingAt counter
  cases s.live? now key with
  | none => rfl
  | some entry => rfl

/-- The record of a seeded counter. -/
theorem seeded_record (hs : s.Scheduled) (now : Instant) (key : Key) (baseline : Traffic) :
    (s.seed now key baseline).2.records[key]? =
      some { (s.counter now key).seed baseline with expiry := now.addNanos s.lifespan } :=
  (records_seed hs ..).trans (if_pos rfl)

theorem lifespan_seed (s : Store) (now : Instant) (key : Key) (baseline : Traffic) :
    (s.seed now key baseline).2.lifespan = s.lifespan :=
  (sameIndex_put ..).lifespan

/-- A record that was seeded is live for one life span. -/
theorem live?_seed (hs : s.Scheduled) (now next : Instant) (key : Key) (baseline : Traffic) :
    (s.seed now key baseline).2.live? next key =
      if next < now.addNanos s.lifespan then
        some { (s.counter now key).seed baseline with expiry := now.addNanos s.lifespan }
      else none := by
  rw [live?, seeded_record hs, Option.filter_some]
  simp only [decide_eq_true_eq]

/-- Where records do not live, what is written has expired. -/
theorem addNanos_le {lifespan : Int} (none : lifespan ≤ 0) (now : Instant) :
    now.addNanos lifespan ≤ now := by
  change now.nanos + lifespan ≤ now.nanos
  omega

/-- What is told to be pending stays where records live, and where there was no live record. -/
theorem pendingAt_seed (hs : s.Scheduled) {baseline : Traffic}
    (room : ∀ d, (s.counter now key).traffic.bytes d + baseline.bytes d ≤ Count.top)
    (lives : 0 < s.lifespan ∨ s.live? now key = none) :
    (s.seed now key baseline).2.pendingAt now key = s.pendingAt now key := by
  by_cases positive : 0 < s.lifespan
  · have live : now < now.addNanos s.lifespan := Int.lt_add_of_pos_right now.nanos positive
    rw [pendingAt_eq_counter s, pendingAt, live?_seed hs, if_pos live]
    exact Entry.pending_seed room
  · have expired : ¬ now < now.addNanos s.lifespan :=
      Int.not_lt.2 (addNanos_le (Int.not_lt.1 positive) now)
    rw [pendingAt, pendingAt, live?_seed hs, if_neg expired, lives.resolve_left positive]

/-- A record that is live when it is seeded again has both markers already. -/
theorem seed_again_of_live (hs : s.Scheduled) {now next : Instant} (key : Key)
    (baseline again : Traffic) (live : next < now.addNanos s.lifespan) :
    let t := (s.seed now key baseline).2
    (t.seed next key again).1 = 0 ∧
      (t.seed next key again).2.records[key]? = (t.records[key]?).map fun entry =>
        { entry with expiry := next.addNanos s.lifespan } := by
  intro t
  have ht : t.Scheduled := hs.seed now key baseline
  have counter : t.counter next key =
      { (s.counter now key).seed baseline with expiry := now.addNanos s.lifespan } :=
    counter_of_live ((live?_seed hs ..).trans (if_pos live))
  have marked : (t.counter next key).unseeded = 0 := counter ▸ Entry.unseeded_seed ..
  refine ⟨(seed_fst ht ..).trans marked, ?_⟩
  rw [seeded_record ht, Entry.seed_of_unseeded marked, counter, seeded_record hs, lifespan_seed]
  rfl

/-- A record that has expired when it is seeded again starts anew. -/
theorem seed_again_of_expired (hs : s.Scheduled) {now next : Instant} {key : Key}
    {baseline again : Traffic} (expired : now.addNanos s.lifespan ≤ next) :
    ((s.seed now key baseline).2.seed next key again).1 = 2 := by
  have dead : (s.seed now key baseline).2.live? next key = none :=
    (live?_seed hs ..).trans (if_neg (Int.not_lt.2 expired))
  rw [seed_fst (hs.seed now key baseline), counter, dead]
  rfl

/-! ## Seeding -/

variable {lifespan : Int} {calls : List Call}

/-- A store that has run for some time holds no live record if records do not live. -/
theorem live?_eq_none_of_lifespan (clocked : Call.Clocked calls now) (none : lifespan ≤ 0)
    (key : Key) : ((empty lifespan).afterCalls calls).live? now key = .none := by
  rw [← after_history, Option.eq_none_iff_forall_ne_some]
  intro entry live
  obtain ⟨found, later⟩ := live?_eq_some.1 live
  have bound : entry.expiry ≤ now.addNanos lifespan :=
    expiry_le (scheduled_empty lifespan) (records_empty lifespan key) clocked.history found
  exact Int.not_le.2 later (Int.le_trans bound (addNanos_le none now))

/-- A baseline that fits is taken in both directions or in none. What is pending stays, and so do
the active keys. A second baseline finds both markers set, unless the record has expired by then. -/
theorem seed_whole_or_none (lifespan : Int) (calls : List Call) (now : Instant) (key : Key)
    (baseline : Traffic) :
    let s := (empty lifespan).afterCalls calls
    let e := s.counter now key
    let t := (s.seed now key baseline).2
    (∀ d, e.traffic.bytes d + baseline.bytes d ≤ Count.top) →
    (∃ seeded, t.records[key]? = some seeded ∧ seeded.pending = e.pending ∧
      ((s.seed now key baseline).1 = 2 ∧ e.TookAll baseline seeded ∨
        (s.seed now key baseline).1 = 0 ∧ e.TookNone seeded)) ∧
    (0 < lifespan ∨ Call.Clocked calls now → t.pendingAt now key = s.pendingAt now key) ∧
    (∀ later, now ≤ later →
      (∀ key', (t.isActive later key').1 = (s.isActive later key').1) ∧
      ∀ limit, (t.activeKeys later limit).1 = (s.activeKeys later limit).1) ∧
    (∀ next again, next < now.addNanos lifespan →
      (t.seed next key again).1 = 0 ∧
      (t.seed next key again).2.records[key]? = (t.records[key]?).map (fun entry =>
        { entry with expiry := next.addNanos lifespan }) ∧
      ∀ key', key' ≠ key → (t.seed next key again).2.live? next key' = t.live? next key') ∧
    (∀ next again, now.addNanos lifespan ≤ next → (t.seed next key again).1 = 2) := by
  intro s e t room
  have hs : s.Scheduled := scheduled_afterCalls lifespan calls
  have span : s.lifespan = lifespan := lifespan_afterCalls lifespan calls
  have stored := seeded_record hs now key baseline
  have paired : e.Paired := (paired_afterCalls lifespan calls).counter now key
  refine ⟨⟨_, stored, Entry.pending_seed room, ?_⟩, fun lives => ?_,
    fun later le => ?_, fun next again live => ?_, fun next again expired => ?_⟩
  · rw [seed_fst hs]
    obtain ⟨two, took⟩ | ⟨zero, took⟩ := paired.seed_cases room
    · exact .inl ⟨two, took.unmarked, took.counted, took.upload, took.download⟩
    · exact .inr ⟨zero, took.marked, took.traffic, took.markers⟩
  · refine pendingAt_seed hs room ?_
    by_cases positive : 0 < lifespan
    · exact .inl (span ▸ positive)
    · have clocked := lives.resolve_left positive
      exact .inr (live?_eq_none_of_lifespan clocked (Int.not_lt.1 positive) key)
  · have same : (t.expire later).active = (s.expire later).active :=
      active_expire_seed s le key baseline
    exact ⟨fun key' => congrArg (·.contains key') same,
      fun limit => congrArg (fun active => active.toList.take limit) same⟩
  · obtain ⟨none, kept⟩ := seed_again_of_live hs key baseline again (span ▸ live)
    refine ⟨none, span ▸ kept, fun key' other => ?_⟩
    exact live?_seed_of_ne (hs.seed now key baseline) next other.symm again
  · exact seed_again_of_expired hs (span ▸ expired)

/-- A baseline comes after an increment and before a second baseline. -/
theorem seed_after_increment :
    let key : Key := ⟨⟨default, 474804⟩, 1, .node, 1⟩
    let s := (empty 100).afterCalls [.request ⟨1⟩ (.increment key (.ofNats 10 20))]
    let t := (s.seed ⟨5⟩ key (.ofNats 7 3)).2
    (∀ d, (s.counter ⟨5⟩ key).traffic.bytes d + (Traffic.ofNats 7 3).bytes d ≤ Count.top) ∧
      (s.seed ⟨5⟩ key (.ofNats 7 3)).1 = 2 ∧ s.pendingAt ⟨5⟩ key = .ofNats 10 20 ∧
      t.pendingAt ⟨5⟩ key = s.pendingAt ⟨5⟩ key ∧
      (t.isActive ⟨5⟩ key).1 = (s.isActive ⟨5⟩ key).1 ∧
      (t.seed ⟨5⟩ key (.ofNats 1 1)).1 = 0 := by
  intro key s t
  have room : ∀ d, (s.counter ⟨5⟩ key).traffic.bytes d + (Traffic.ofNats 7 3).bytes d ≤
      Count.top := by decide +kernel
  obtain ⟨-, pending, active, again, -⟩ := seed_whole_or_none 100
    [.request ⟨1⟩ (.increment key (.ofNats 10 20))] ⟨5⟩ key (.ofNats 7 3) room
  refine ⟨room, by decide +kernel, by decide +kernel, pending (.inl (by decide)), ?_, ?_⟩
  · exact (active ⟨5⟩ (Int.le_refl _)).1 key
  · exact (again ⟨5⟩ (.ofNats 1 1) (by decide)).1

/-- A record that does not live has expired at once, so the next baseline is taken as well. -/
theorem zero_lifespan_seeds_again :
    let key : Key := ⟨⟨default, 474804⟩, 1, .node, 1⟩
    let s := (empty 0).afterCalls []
    let t := (s.seed ⟨1709266200000000000⟩ key (.ofNats 10 10)).2
    (∀ d, (s.counter ⟨1709266200000000000⟩ key).traffic.bytes d +
        (Traffic.ofNats 10 10).bytes d ≤ Count.top) ∧
      (s.seed ⟨1709266200000000000⟩ key (.ofNats 10 10)).1 = 2 ∧
      (t.seed ⟨1709266200000000000⟩ key (.ofNats 3 3)).1 = 2 := by
  decide +kernel

end Store

end Metering.Hot
