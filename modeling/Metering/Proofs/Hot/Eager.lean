import Mathlib.Data.List.Nodup
import Mathlib.Data.Multiset.Basic
import Metering.Proofs.Hot.Buckets

/-!
# Late expiry is not seen

The reference model is a map from keys to counters with the time of the last increment or seed. A
counter vanishes from it as soon as it is one life span old, and a bucket is enumerated by going
through all the counters. A hot store drops what has expired late, and only in some of its
operations, and it finds the records of a bucket through an index with an expiry of its own. None of
that can be told from its answers.

Results:
1. `Shows.request`: one request to a store is answered as by the model, and the store then shows
   what the model holds.
2. `refines_eager`: every call after every sequence of calls is answered as by the model. So the
   ways to read agree, a live record is found through its bucket, calls leave the records of other
   keys alone, and calls that only look, or only drop what has expired, can be left out.
-/

namespace Metering.Hot

open Std

/-! ## The reference model -/

/-- A counter with the time of its last increment or seed. -/
structure Sheet where
  traffic : Traffic
  flushedUpload : Option Count
  flushedDownload : Option Count
  touched : Instant
deriving DecidableEq

/-- A map of counters that vanish one life span after they were touched. -/
structure Eager where
  /-- Life span of a counter, in nanoseconds. -/
  lifespan : Int
  sheets : ExtTreeMap Key Sheet := ∅

namespace Sheet

/-- A new counter. -/
def blank (now : Instant) : Sheet := ⟨0, none, none, now⟩

/-- The flushed part; nothing in a direction without a marker. -/
def flushed (sheet : Sheet) : Traffic :=
  ⟨sheet.flushedUpload.getD 0, sheet.flushedDownload.getD 0⟩

/-- The counter as it is told. -/
def record (sheet : Sheet) (key : Key) : Record := ⟨key, sheet.traffic, sheet.flushed⟩

/-- A direction with a baseline, which counts as traffic and as flushed where there is no marker. -/
def based (count : Count) (marker? : Option Count) (baseline : Count) : Count × Option Count :=
  match marker? with
  | none => (count + baseline, some baseline)
  | some marker => (count, some marker)

/-- The counter with a baseline in both directions. -/
def seed (sheet : Sheet) (now : Instant) (baseline : Traffic) : Sheet :=
  let upload := based sheet.traffic.upload sheet.flushedUpload baseline.upload
  let download := based sheet.traffic.download sheet.flushedDownload baseline.download
  ⟨⟨upload.1, download.1⟩, upload.2, download.2, now⟩

/-- Number of directions without a marker. -/
def unmarked (sheet : Sheet) : Nat :=
  [sheet.flushedUpload, sheet.flushedDownload].countP (·.isNone)

end Sheet

/-- What a call tells. The set of active keys is not part of the reference model, nor is whether a
removal met a record that had already expired. -/
inductive Outcome
  | reading (reading : Reading)
  | records (records : Multiset Record)
  | snapshot (records : List (Option Record))
  | commit (found : Commit)
  | settled (isSettled : Bool)
  | number (n : Nat)
  | unobserved

namespace Eager

/-- A model without counters. -/
def empty (lifespan : Int) : Eager := { lifespan }

/-- The model at `now`, without the counters that have vanished. -/
def prune (m : Eager) (now : Instant) : Eager :=
  { m with
    sheets := m.sheets.filter fun _ sheet => decide (now < sheet.touched.addNanos m.lifespan) }

/-- The model with another counter under `key`. -/
def write (m : Eager) (key : Key) (sheet : Sheet) : Eager :=
  { m with sheets := m.sheets.insert key sheet }

/-- The model without a counter under `key`. -/
def remove (m : Eager) (key : Key) : Eager := { m with sheets := m.sheets.erase key }

/-- Counts traffic; nothing happens where there is none. -/
def increment (m : Eager) (now : Instant) (key : Key) (traffic : Traffic) : Eager :=
  let m := m.prune now
  let sheet := m.sheets[key]?.getD (.blank now)
  if traffic.isZero then m
  else m.write key { sheet with traffic := sheet.traffic + traffic, touched := now }

/-- Counts the traffic of several keys. -/
def incrementAll (m : Eager) (now : Instant) (entries : List (Key × Traffic)) : Eager :=
  entries.foldl (fun m entry => m.increment now entry.1 entry.2) m

/-- Writes the markers of a counter, and tells whether the counter is as expected. -/
def commit (m : Eager) (now : Instant) (key : Key) (expected markers : Traffic) : Commit × Eager :=
  let m := m.prune now
  match m.sheets[key]? with
  | none => (.missing, m)
  | some sheet =>
    (if sheet.traffic = expected then .settled else .retained,
      m.write key { sheet with
        flushedUpload := some markers.upload, flushedDownload := some markers.download })

/-- Tells whether nothing is pending under `key`; if so, and with `purge`, removes the counter. -/
def settle (m : Eager) (now : Instant) (key : Key) (purge : Bool) : Bool × Eager :=
  let m := m.prune now
  let isSettled := m.sheets[key]?.all fun sheet => sheet.traffic = sheet.flushed
  (isSettled, if isSettled && purge then m.remove key else m)

/-- Seeds a counter with a baseline; tells how many directions took it. -/
def seed (m : Eager) (now : Instant) (key : Key) (baseline : Traffic) : Nat × Eager :=
  let m := m.prune now
  let sheet := m.sheets[key]?.getD (.blank now)
  (sheet.unmarked, m.write key (sheet.seed now baseline))

/-- Reads one counter. -/
def read (m : Eager) (now : Instant) (key : Key) : Reading :=
  match (m.prune now).sheets[key]? with
  | some sheet => ⟨sheet.traffic, true⟩
  | none => .absent

/-- The record of `key`. -/
def record? (m : Eager) (now : Instant) (key : Key) : Option Record :=
  (m.prune now).sheets[key]?.map (·.record key)

/-- The records of all counters whose bucket is `bucket`. -/
def recordsIn (m : Eager) (now : Instant) (bucket : Bucket) : Multiset Record :=
  ((m.prune now).sheets.toList.filter (·.1.bucket = bucket)).map fun (key, sheet) =>
    sheet.record key

/-- The model without the counters of a bucket. -/
def clear (m : Eager) (now : Instant) (bucket : Bucket) : Eager :=
  let m := m.prune now
  { m with sheets := m.sheets.filter fun key _ => key.bucket ≠ bucket }

/-- What the model tells on a request, and the model after it. -/
def answer {α : Type} (m : Eager) (now : Instant) : Request α → Outcome × Eager
  | .increment key traffic => (.unobserved, m.increment now key traffic)
  | .incrementAll entries => (.unobserved, m.incrementAll now entries)
  | .read key => (.reading (m.read now key), m)
  | .readBucket bucket => (.records (m.recordsIn now bucket), m)
  | .takeBucket bucket => (.records (m.recordsIn now bucket), m.clear now bucket)
  | .clearBucket bucket => (.number (m.recordsIn now bucket).card, m.clear now bucket)
  | .snapshot keys => (.snapshot (keys.map fun key => m.record? now key), m)
  | .commit key expected markers => (m.commit now key expected markers).map .commit id
  | .settle key purge => (m.settle now key purge).map .settled id
  | .seed key baseline => (m.seed now key baseline).map .number id
  | .forget key => (.unobserved, (m.prune now).remove key)
  | .activeKeys _ | .activeBuckets => (.unobserved, m)

/-- What the model tells on a call. -/
def outcome (m : Eager) : Call → Outcome
  | .request now r => (m.answer now r).1
  | .size now => .number (m.prune now).sheets.size
  | .expire _ | .isActive _ _ => .unobserved

/-- The model after a call. -/
def run (m : Eager) : Call → Eager
  | .request now r => (m.answer now r).2
  | .expire _ | .size _ | .isActive _ _ => m

/-- The model after some calls, the newest first. -/
def afterCalls (m : Eager) : List Call → Eager
  | [] => m
  | call :: earlier => (m.afterCalls earlier).run call

end Eager

/-! ## Calls -/

/-- What an answer tells. -/
def Request.outcome {α : Type} : Request α → α → Outcome
  | .read _, reading => .reading reading
  | .readBucket _, records | .takeBucket _, records => .records records
  | .snapshot _, records => .snapshot records
  | .commit _ _ _, found => .commit found
  | .settle _ _, isSettled => .settled isSettled
  | .clearBucket _, n | .seed _ _, n => .number n
  | .increment _ _, _ | .incrementAll _, _ | .forget _, _ | .activeKeys _, _ | .activeBuckets, _ =>
    .unobserved

namespace Call

/-- What a store tells on a call. -/
def outcome (s : Store) : Call → Outcome
  | request now r => r.outcome (s.answer now r).1
  | size now => .number (s.size now).1
  | expire _ | isActive _ _ => .unobserved

/-- The call is about `key`, or about the whole bucket of it. -/
def Concerns (key : Key) : Call → Prop
  | request _ (.increment key' _) | request _ (.commit key' _ _) | request _ (.settle key' _)
  | request _ (.seed key' _) | request _ (.forget key') => key' = key
  | request _ (.incrementAll entries) => key ∈ entries.map Prod.fst
  | request _ (.takeBucket bucket) | request _ (.clearBucket bucket) => key.bucket = bucket
  | _ => False

/-- The call does more than to look, and to drop what has expired. -/
def writes : Call → Bool
  | request _ (.read _) | request _ (.readBucket _) | request _ (.activeKeys _)
  | request _ (.snapshot _) | request _ .activeBuckets | expire _ | size _ | isActive _ _ => false
  | _ => true

end Call

/-! ## Look-ups in the model -/

namespace Sheet

/-- The stored counter that `sheet` stands for. -/
def entry (sheet : Sheet) (lifespan : Int) : Entry :=
  ⟨sheet.traffic, sheet.flushedUpload, sheet.flushedDownload, sheet.touched.addNanos lifespan⟩

theorem entry_seed (sheet : Sheet) (lifespan : Int) (now : Instant) (baseline : Traffic) :
    (sheet.seed now baseline).entry lifespan =
      { (sheet.entry lifespan).seed baseline with expiry := now.addNanos lifespan } := by
  obtain ⟨traffic, flushedUpload, flushedDownload, touched⟩ := sheet
  cases flushedUpload <;> cases flushedDownload <;> rfl

theorem unmarked_eq (sheet : Sheet) (lifespan : Int) :
    sheet.unmarked = (sheet.entry lifespan).unseeded := by
  obtain ⟨traffic, flushedUpload, flushedDownload, touched⟩ := sheet
  cases flushedUpload <;> cases flushedDownload <;> rfl

end Sheet

namespace Eager

variable {m : Eager} {now : Instant} {key : Key}

theorem sheets_prune (m : Eager) (now : Instant) (key : Key) :
    (m.prune now).sheets[key]? =
      m.sheets[key]?.filter fun sheet => decide (now < sheet.touched.addNanos m.lifespan) := by
  rw [prune, ExtTreeMap.getElem?_filter']

theorem prune_prune {later : Instant} (le : now ≤ later) :
    (m.prune now).prune later = m.prune later := by
  have sheets : ((m.prune now).prune later).sheets = (m.prune later).sheets := by
    refine ExtTreeMap.ext_getElem? fun key => ?_
    rw [sheets_prune, sheets_prune, sheets_prune, Option.filter_filter]
    refine congrArg (Option.filter · _) (funext fun sheet => ?_)
    rw [← Bool.decide_and]
    refine decide_eq_decide.2 (and_iff_right_of_imp ?_)
    exact fun later => Int.lt_of_le_of_lt le later
  unfold prune at sheets ⊢
  simpa using sheets

/-- A counter that is taken over from what was left is left. -/
theorem sheets_prune_of_eq {m' : Eager} (lifespan : m'.lifespan = m.lifespan)
    (same : m'.sheets[key]? = (m.prune now).sheets[key]?) :
    (m'.prune now).sheets[key]? = (m.prune now).sheets[key]? := by
  rw [sheets_prune, same, lifespan]
  exact (sheets_prune (m.prune now) now key).symm.trans (by rw [prune_prune (Int.le_refl _)])

theorem sheets_write (m : Eager) (key : Key) (sheet : Sheet) (key' : Key) :
    (m.write key sheet).sheets[key']? = if key' = key then some sheet else m.sheets[key']? := by
  rw [write, ExtTreeMap.getElem?_insert]
  by_cases same : key' = key
  · simp [same]
  · simp [same, Ne.symm same]

theorem sheets_remove (m : Eager) (key key' : Key) :
    (m.remove key).sheets[key']? = if key' = key then none else m.sheets[key']? := by
  rw [remove, ExtTreeMap.getElem?_erase]
  by_cases same : key' = key
  · simp [same]
  · simp [same, Ne.symm same]

theorem sheets_clear (m : Eager) (now : Instant) (bucket : Bucket) (key : Key) :
    (m.clear now bucket).sheets[key]? =
      if key.bucket = bucket then none else (m.prune now).sheets[key]? := by
  rw [clear, ExtTreeMap.getElem?_filter']
  cases (m.prune now).sheets[key]? <;> by_cases inside : key.bucket = bucket <;> simp [inside]

theorem mem_recordsIn {bucket : Bucket} {r : Record} :
    r ∈ m.recordsIn now bucket ↔ r.key.bucket = bucket ∧ m.record? now r.key = some r := by
  simp only [recordsIn, record?, Multiset.mem_coe, List.mem_map, List.mem_filter,
    decide_eq_true_eq, Prod.exists, ExtTreeMap.mem_toList_iff_getElem?_eq_some,
    Option.map_eq_some_iff]
  constructor
  · rintro ⟨key, sheet, ⟨found, same⟩, rfl⟩
    exact ⟨same, sheet, found, rfl⟩
  · rintro ⟨same, sheet, found, told⟩
    exact ⟨r.key, sheet, ⟨found, same⟩, told⟩

theorem nodup_recordsIn (m : Eager) (now : Instant) (bucket : Bucket) :
    (m.recordsIn now bucket).Nodup := by
  refine Multiset.coe_nodup.2 (List.Nodup.of_map Record.key ?_)
  rw [List.map_map]
  have distinct : ((m.prune now).sheets.toList.map Prod.fst).Nodup := by
    refine List.Pairwise.map _ ?_ ExtTreeMap.distinct_keys_toList
    rintro a b distinct same
    exact distinct (same ▸ ReflOrd.compare_self)
  exact (List.filter_sublist.map Prod.fst).nodup distinct

end Eager

/-! ## Simulation -/

/-- What is live in the store at `now` is what is left in the model. -/
structure Shows (s : Store) (now : Instant) (m : Eager) : Prop where
  scheduled : s.Scheduled
  indexed : s.Indexed now
  lifespan : m.lifespan = s.lifespan
  live : ∀ key, s.live? now key = (m.prune now).sheets[key]?.map (·.entry s.lifespan)

namespace Shows

open Store

variable {s : Store} {now : Instant} {m : Eager}

theorem pass (h : Shows s now m) {later : Instant} (le : now ≤ later) : Shows s later m := by
  refine ⟨h.scheduled, h.indexed.pass le, h.lifespan, fun key => ?_⟩
  rw [live?_later le, h.live, ← Eager.prune_prune le, Eager.sheets_prune _ later, Option.filter_map,
    ← h.lifespan]
  rfl

/-- The records under `key` after an act agree, and the act left the other keys alone. -/
theorem act (h : Shows s now m) (a : Act) {key : Key} {m' : Eager}
    (lifespan : m'.lifespan = m.lifespan)
    (own : (s.act now a).records[key]? = m'.sheets[key]?.map (·.entry s.lifespan))
    (others : ∀ key', key' ≠ key → (s.act now a).live? now key' = s.live? now key' ∧
      m'.sheets[key']? = (m.prune now).sheets[key']?) :
    Shows (s.act now a) now m' := by
  have kept := lifespan_act h.scheduled now a
  refine ⟨h.scheduled.act now a, h.indexed.act h.scheduled a,
    lifespan.trans (h.lifespan.trans kept.symm), fun key' => ?_⟩
  rw [kept]
  by_cases same : key' = key
  · subst same
    rw [live?, own, Option.filter_map, Eager.sheets_prune, lifespan, h.lifespan]
    rfl
  · obtain ⟨live, sheets⟩ := others key' same
    rw [live, h.live, Eager.sheets_prune_of_eq lifespan sheets]

theorem write (h : Shows s now m) {a : Act} {key : Key} {sheet : Sheet}
    (own : (s.act now a).records[key]? = some (sheet.entry s.lifespan))
    (others : ∀ key', key' ≠ key → (s.act now a).live? now key' = s.live? now key') :
    Shows (s.act now a) now ((m.prune now).write key sheet) := by
  refine h.act a rfl ?_ fun key' ne => ⟨others key' ne, ?_⟩
  · rw [own, Eager.sheets_write, if_pos rfl]
    rfl
  · rw [Eager.sheets_write, if_neg ne]

theorem remove (h : Shows s now m) {a : Act} {key : Key}
    (own : (s.act now a).records[key]? = none)
    (others : ∀ key', key' ≠ key → (s.act now a).live? now key' = s.live? now key') :
    Shows (s.act now a) now ((m.prune now).remove key) := by
  refine h.act a rfl ?_ fun key' ne => ⟨others key' ne, ?_⟩
  · rw [own, Eager.sheets_remove, if_pos rfl]
    rfl
  · rw [Eager.sheets_remove, if_neg ne]

theorem still (h : Shows s now m) {a : Act}
    (live : ∀ key, (s.act now a).live? now key = s.live? now key) :
    Shows (s.act now a) now m := by
  have kept := lifespan_act h.scheduled now a
  refine ⟨h.scheduled.act now a, h.indexed.act h.scheduled a, h.lifespan.trans kept.symm, ?_⟩
  intro key
  rw [live, h.live, kept]

theorem pruned (h : Shows s now m) : Shows s now (m.prune now) := by
  refine ⟨h.scheduled, h.indexed, h.lifespan, fun key => ?_⟩
  rw [h.live, Eager.prune_prune (Int.le_refl _)]

/-- The counters of a key agree, also where there is none yet. -/
theorem counter (h : Shows s now m) (key : Key) :
    s.counter now key =
      ((m.prune now).sheets[key]?.getD (.blank now)).entry s.lifespan := by
  rw [Store.counter, h.live]
  cases (m.prune now).sheets[key]? <;> rfl

theorem told (h : Shows s now m) (key : Key) :
    (s.live? now key).map (·.toRecord key) = m.record? now key := by
  rw [h.live, Eager.record?, Option.map_map]
  rfl

/-! ## Operations -/

theorem read (h : Shows s now m) (key : Key) : s.read now key = m.read now key := by
  rw [Store.read, Eager.read, h.live]
  cases (m.prune now).sheets[key]? <;> rfl

theorem recordsOf (h : Shows s now m) (bucket : Bucket) :
    ((s.expire now).recordsOf bucket : Multiset Record) = m.recordsIn now bucket := by
  have nodup : ((s.expire now).recordsOf bucket).Nodup :=
    List.Nodup.of_map Record.key (takeBucket_nodup h.scheduled now bucket)
  refine (Multiset.Nodup.ext (Multiset.coe_nodup.2 nodup) (m.nodup_recordsIn now bucket)).2 ?_
  intro r
  rw [Multiset.mem_coe, mem_recordsOf h.scheduled h.indexed, Eager.mem_recordsIn, h.told]

theorem size (h : Shows s now m) : (s.size now).1 = (m.prune now).sheets.size := by
  have records : (s.expire now).records =
      (m.prune now).sheets.map fun _ sheet => sheet.entry s.lifespan := by
    refine ExtTreeMap.ext_getElem? fun key => ?_
    rw [records_expire h.scheduled, h.live, ExtTreeMap.getElem?_map]
  rw [Store.size, records, ExtTreeMap.size_map]

theorem increment (h : Shows s now m) (key : Key) (traffic : Traffic) :
    Shows (s.increment now key traffic) now (m.increment now key traffic) := by
  unfold Eager.increment
  dsimp only
  split
  · next zero =>
    rw [Store.increment, if_pos zero]
    exact h.pruned
  · next nonzero =>
    refine h.write (a := .increment key traffic) ?_ fun key' ne => ?_
    · rw [Store.act, records_increment,
        if_pos ⟨rfl, fun zero => nonzero (Traffic.isZero_iff.2 zero)⟩, h.counter]
      rfl
    · exact live?_increment_of_ne s now (Ne.symm ne) traffic

theorem incrementAll (h : Shows s now m) (entries : List (Key × Traffic)) :
    Shows (s.incrementAll now entries) now (m.incrementAll now entries) := by
  induction entries generalizing s m with
  | nil => exact h
  | cons entry entries ih => exact ih (h.increment entry.1 entry.2)

theorem commit (h : Shows s now m) (key : Key) (expected markers : Traffic) :
    (s.commit now key expected markers).1 = (m.commit now key expected markers).1 ∧
      Shows (s.commit now key expected markers).2 now (m.commit now key expected markers).2 := by
  have others : ∀ key', key' ≠ key →
      (s.act now (.commit key expected markers)).live? now key' = s.live? now key' :=
    fun key' ne => live?_commit_of_ne h.scheduled now (Ne.symm ne) expected markers
  have live := h.live key
  have records := records_commit h.scheduled now key expected markers key
  rw [if_pos rfl] at records
  unfold Eager.commit
  dsimp only
  cases found : (m.prune now).sheets[key]? with
  | none =>
    rw [found] at live
    refine ⟨by rw [commit_of_absent h.scheduled live], ?_⟩
    refine h.act (a := .commit key expected markers) rfl ?_ fun key' ne => ⟨others key' ne, rfl⟩
    rw [found]
    exact records.trans (by rw [live]; rfl)
  | some sheet =>
    rw [found] at live
    constructor
    · rw [commit_of_live h.scheduled live]
      change (if sheet.traffic = expected then _ else _ : Commit × Store).1 =
        if sheet.traffic = expected then .settled else .retained
      split <;> rfl
    · refine h.write (a := .commit key expected markers) ?_ others
      exact records.trans (by rw [live]; rfl)

theorem settle (h : Shows s now m) (key : Key) (purge : Bool) :
    (s.settle now key purge).1 = (m.settle now key purge).1 ∧
      Shows (s.settle now key purge).2 now (m.settle now key purge).2 := by
  have settled : (s.live? now key).all (·.isSettled) =
      (m.settle now key purge).1 := by
    rw [h.live, Eager.settle, Option.all_map]
    rfl
  refine ⟨(settle_fst h.scheduled ..).trans settled, ?_⟩
  have live := live?_settle h.scheduled now key purge
  rw [settled] at live
  change Shows _ now (if (m.settle now key purge).1 && purge then _ else _)
  split
  · next purged =>
    rw [Bool.and_eq_true] at purged
    refine h.remove (a := .settle key purge) ?_ fun key' ne => ?_
    · rw [Store.act, records_settle h.scheduled, if_pos ⟨rfl, purged.2, settled ▸ purged.1⟩]
    · exact live?_settle_of_ne h.scheduled now (Ne.symm ne) purge
  · next kept =>
    refine (h.still (a := .settle key purge) fun key' => ?_).pruned
    by_cases same : key' = key
    · subst same
      refine live.trans (if_neg fun purged => kept ?_)
      rw [Bool.and_eq_true]
      exact purged.symm
    · exact live?_settle_of_ne h.scheduled now (Ne.symm same) purge

theorem seed (h : Shows s now m) (key : Key) (baseline : Traffic) :
    (s.seed now key baseline).1 = (m.seed now key baseline).1 ∧
      Shows (s.seed now key baseline).2 now (m.seed now key baseline).2 := by
  constructor
  · rw [seed_fst h.scheduled, h.counter, Eager.seed, Sheet.unmarked_eq _ s.lifespan]
  · refine h.write (a := .seed key baseline) ?_ fun key' ne => ?_
    · rw [Store.act, records_seed h.scheduled, if_pos rfl, h.counter, Sheet.entry_seed]
    · exact live?_seed_of_ne h.scheduled now (Ne.symm ne) baseline

theorem forget (h : Shows s now m) (key : Key) :
    Shows (s.forget key).2 now ((m.prune now).remove key) := by
  refine h.remove (a := .forget key) ?_ fun key' ne => ?_
  · rw [Store.act, records_forget, if_pos rfl]
  · exact (live?_forget s now key' key).trans (if_neg ne)

theorem takeBucket (h : Shows s now m) (bucket : Bucket) :
    Shows (s.takeBucket now bucket).2 now (m.clear now bucket) := by
  have kept : (s.takeBucket now bucket).2.lifespan = s.lifespan :=
    lifespan_act h.scheduled now (.take bucket)
  refine ⟨h.scheduled.act now (.take bucket), h.indexed.act h.scheduled (.take bucket),
    h.lifespan.trans kept.symm, fun key => ?_⟩
  rw [h.indexed.live?_takeBucket h.scheduled, kept]
  split
  · next inside => rw [Eager.sheets_prune, Eager.sheets_clear, if_pos inside]; rfl
  · next outside =>
    have lifespan : (m.clear now bucket).lifespan = m.lifespan := rfl
    have sheets := m.sheets_clear now bucket key
    rw [if_neg outside] at sheets
    rw [h.live, Eager.sheets_prune_of_eq lifespan sheets]

theorem expire (h : Shows s now m) : Shows (s.expire now) now m :=
  h.still (a := .sweep) (live?_expire h.scheduled now)

/-! ## Calls -/

/-- A request is answered as by the model, and the store then shows what the model holds. -/
theorem request {α : Type} (h : Shows s now m) (r : Request α) :
    r.outcome (s.answer now r).1 = (m.answer now r).1 ∧
      Shows (s.answer now r).2 now (m.answer now r).2 := by
  cases r with
  | increment key traffic => exact ⟨rfl, h.increment key traffic⟩
  | incrementAll entries => exact ⟨rfl, h.incrementAll entries⟩
  | read key => exact ⟨congrArg Outcome.reading (h.read key), h⟩
  | readBucket bucket => exact ⟨congrArg Outcome.records (h.recordsOf bucket), h.expire⟩
  | takeBucket bucket => exact ⟨congrArg Outcome.records (h.recordsOf bucket), h.takeBucket bucket⟩
  | clearBucket bucket =>
    refine ⟨?_, h.takeBucket bucket⟩
    exact congrArg (fun records => Outcome.number (Multiset.card records)) (h.recordsOf bucket)
  | activeKeys limit => exact ⟨rfl, h.expire⟩
  | snapshot keys =>
    exact ⟨congrArg Outcome.snapshot (List.map_congr_left fun key _ => h.told key), h⟩
  | commit key expected markers =>
    obtain ⟨found, after⟩ := h.commit key expected markers
    exact ⟨congrArg Outcome.commit found, after⟩
  | settle key purge =>
    obtain ⟨isSettled, after⟩ := h.settle key purge
    exact ⟨congrArg Outcome.settled isSettled, after⟩
  | seed key baseline =>
    obtain ⟨taken, after⟩ := h.seed key baseline
    exact ⟨congrArg Outcome.number taken, after⟩
  | forget key => exact ⟨rfl, h.forget key⟩
  | activeBuckets => exact ⟨rfl, h.expire⟩

theorem outcome (h : Shows s now m) {call : Call} (same : call.now = now) :
    call.outcome s = m.outcome call := by
  subst same
  cases call with
  | request now r => exact (h.request r).1
  | size now => exact congrArg Outcome.number h.size
  | _ => rfl

theorem run (h : Shows s now m) {call : Call} (same : call.now = now) :
    Shows (call.run s) now (m.run call) := by
  subst same
  cases call with
  | request now r => exact (h.request r).2
  | _ => exact h.expire

/-- After the same calls the store shows what the model holds. -/
theorem afterCalls (lifespan : Int) {calls : List Call} {now : Instant}
    (clocked : Call.Clocked calls now) :
    Shows ((Store.empty lifespan).afterCalls calls) now
      ((Eager.empty lifespan).afterCalls calls) := by
  induction calls generalizing now with
  | nil =>
    refine ⟨scheduled_empty lifespan, indexed_empty lifespan now, rfl, fun key => ?_⟩
    rw [Store.afterCalls, live?, records_empty, Eager.sheets_prune]
    simp [Eager.afterCalls, Eager.empty]
  | cons call earlier ih =>
    obtain ⟨le, clocked⟩ := clocked
    exact ((ih clocked).run rfl).pass le

end Shows

namespace Eager

variable {m : Eager} {now : Instant}

/-! ## Calls that only look -/

theorem incrementAll_congr {m m' : Eager} (same : m.prune now = m'.prune now)
    (entries : List (Key × Traffic)) :
    (m.incrementAll now entries).prune now = (m'.incrementAll now entries).prune now := by
  unfold incrementAll
  induction entries generalizing m m' with
  | nil => exact same
  | cons entry entries ih =>
    have first : m.increment now entry.1 entry.2 = m'.increment now entry.1 entry.2 := by
      rw [increment, increment, same]
    exact ih (congrArg (prune · now) first)

/-- A call depends on what is left of the model only, and so does what it leaves. -/
theorem run_congr {m m' : Eager} {call : Call} (same : m.prune call.now = m'.prune call.now) :
    m.outcome call = m'.outcome call ∧
      (m.run call).prune call.now = (m'.run call).prune call.now := by
  cases call with
  | request now r =>
    change m.prune now = m'.prune now at same
    change (m.answer now r).1 = (m'.answer now r).1 ∧
      (m.answer now r).2.prune now = (m'.answer now r).2.prune now
    cases r with
    | incrementAll entries => exact ⟨rfl, incrementAll_congr same entries⟩
    | _ =>
      simp only [answer, increment, read, record?, recordsIn, clear, commit, settle, seed, same,
        and_self]
  | size now =>
    change m.prune now = m'.prune now at same
    exact ⟨by rw [outcome, outcome, same], same⟩
  | _ => exact ⟨rfl, same⟩

/-- What a call that only looks leaves is what was there. -/
theorem run_of_not_writes {call : Call} (looks : call.writes = false) : m.run call = m := by
  cases call with
  | request now r => cases r <;> first | rfl | cases looks
  | _ => rfl

/-- Calls that only look leave nothing behind. -/
theorem prune_afterCalls_filter {calls : List Call} (clocked : Call.Clocked calls now) :
    (m.afterCalls calls).prune now = (m.afterCalls (calls.filter Call.writes)).prune now := by
  induction calls generalizing now with
  | nil => rfl
  | cons call earlier ih =>
    obtain ⟨le, clocked⟩ := clocked
    have before := ih clocked
    rw [← prune_prune le, ← prune_prune (m := afterCalls _ _) le]
    refine congrArg (prune · now) ?_
    cases writes : call.writes with
    | true =>
      rw [List.filter_cons_of_pos writes]
      exact (run_congr before).2
    | false =>
      rw [List.filter_cons_of_neg (by simp [writes]), afterCalls, run_of_not_writes writes]
      exact before

end Eager

namespace Call

open Store

theorem live?_incrementAll_of_not_mem (s : Store) (now : Instant) {key : Key}
    {entries : List (Key × Traffic)} (other : key ∉ entries.map Prod.fst) :
    (s.incrementAll now entries).live? now key = s.live? now key := by
  unfold incrementAll
  induction entries generalizing s with
  | nil => rfl
  | cons entry entries ih =>
    rw [List.map_cons, List.mem_cons, not_or] at other
    exact (ih _ other.2).trans (live?_increment_of_ne s now (Ne.symm other.1) entry.2)

/-- A call leaves the records of the keys alone that it does not concern. -/
theorem live?_run {s : Store} (hs : s.Scheduled) {call : Call} (h : s.Indexed call.now) {key : Key}
    (other : ¬ call.Concerns key) {now : Instant} (le : call.now ≤ now) :
    (call.run s).live? now key = s.live? now key := by
  rw [live?_later le, live?_later le]
  refine congrArg (Option.filter _) ?_
  cases call with
  | request now r =>
    cases r with
    | increment key' traffic => exact live?_increment_of_ne s now other traffic
    | incrementAll entries => exact live?_incrementAll_of_not_mem s now other
    | read _ | snapshot _ => rfl
    | readBucket _ | activeKeys _ | activeBuckets => exact live?_expire hs now key
    | takeBucket bucket | clearBucket bucket =>
      exact (h.live?_takeBucket hs bucket key).trans (if_neg other)
    | commit key' expected markers => exact live?_commit_of_ne hs now other expected markers
    | settle key' purge => exact live?_settle_of_ne hs now other purge
    | seed key' baseline => exact live?_seed_of_ne hs now other baseline
    | forget key' => exact (live?_forget s now key key').trans (if_neg (Ne.symm other))
  | _ => exact live?_expire hs _ key

end Call

namespace Store

/-- Every call after every sequence of calls is answered as by the reference model. The ways to read
a counter agree, a live record is found through the index of its bucket, a call leaves the records
of other keys as they are, and the answers stay the same if calls are left out or put in that only
look, or only drop what has expired. -/
theorem refines_eager {lifespan : Int} {calls : List Call} {call : Call}
    (clocked : Call.Clocked calls call.now) :
    let s := (empty lifespan).afterCalls calls
    let m := (Eager.empty lifespan).afterCalls calls
    call.outcome s = m.outcome call ∧
    (∀ key, s.read call.now key = m.read call.now key ∧
      s.snapshot call.now [key] = [m.record? call.now key] ∧
      (s.readBucket call.now key.bucket).1.find? (·.key = key) = m.record? call.now key) ∧
    (∀ key entry, s.live? call.now key = some entry →
      key ∈ (s.expire call.now).membersOf key.bucket) ∧
    (∀ key, ¬ call.Concerns key → ∀ now, call.now ≤ now →
      (call.run s).live? now key = s.live? now key) ∧
    ∀ others, Call.Clocked others call.now →
      others.filter Call.writes = calls.filter Call.writes →
      call.outcome ((empty lifespan).afterCalls others) = call.outcome s := by
  intro s m
  have shows := Shows.afterCalls lifespan clocked
  refine ⟨shows.outcome rfl, fun key => ⟨shows.read key, ?_, ?_⟩, ?_, ?_, ?_⟩
  · exact congrArg (fun record => [record]) (shows.told key)
  · exact (shows.indexed.find?_recordsOf shows.scheduled key).trans (shows.told key)
  · exact fun key entry live => shows.indexed.mem_membersOf live
  · exact fun key other now le => Call.live?_run shows.scheduled shows.indexed other le
  · intro others clocked' same
    rw [(Shows.afterCalls lifespan clocked').outcome rfl, shows.outcome rfl]
    refine (Eager.run_congr ?_).1
    rw [Eager.prune_afterCalls_filter clocked', same, ← Eager.prune_afterCalls_filter clocked]

/-- Records live for a hundred nanoseconds. Of two counters of a bucket one expires, which the next
increment of the other does not drop; the reader of the bucket is told the other one only. -/
theorem records_after_expiry :
    let early : Key := ⟨⟨default, 474804⟩, 1, .node, 1⟩
    let late : Key := ⟨⟨default, 474804⟩, 2, .node, 1⟩
    let calls : List Call := [
      .request ⟨120⟩ (.increment late (.ofNats 3 4)),
      .request ⟨50⟩ (.increment late (.ofNats 1 1)),
      .expire ⟨10⟩,
      .request ⟨5⟩ (.increment early (.ofNats 7 7))]
    let s := (empty 100).afterCalls calls
    Call.outcome s (.request ⟨130⟩ (.readBucket early.bucket)) =
      ((Eager.empty 100).afterCalls calls).outcome (.request ⟨130⟩ (.readBucket early.bucket)) ∧
    (s.readBucket ⟨130⟩ early.bucket).1 = [⟨late, .ofNats 4 5, 0⟩] ∧
    s.records.size = 2 := by
  intro early late calls s
  have clocked : Call.Clocked calls (Call.request ⟨130⟩ (.readBucket early.bucket)).now := by
    refine ⟨?_, ?_, ?_, ?_, trivial⟩ <;> decide
  refine ⟨(refines_eager clocked).1, ?_, ?_⟩
  · decide +kernel
  · decide +kernel

end Store

end Metering.Hot
