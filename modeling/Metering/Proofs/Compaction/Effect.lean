import Metering.Proofs.Compaction.Stage
import Metering.Proofs.Hot.Acts

/-!
# What a request does to a key

For one key a stage is three things: its phase, its live record, and its row in the cold tier.
`Effect` lists what an answer can make of them, one constructor for each outcome of a request that
the protocol allows. Invariants of a key are kept if each effect keeps them.

Results:
1. `Stage.effect_answer`: an answer to a request that is allowed has one of these effects.
2. `Stage.accrues_increment`: what an increment makes of the record, apart from the work.
3. `apart_of_neutral`, `Stage.answer_of_apart`: a request that is neutral to the protocol of a key
   leaves its data alone.
-/

namespace Metering.Compaction

open Hot (Entry Record)

/-! ## Records -/

/-- Pending bytes of a record, none if there is no record. -/
def pendingOf (d : Way) (live? : Option Entry) : Nat :=
  live?.elim 0 (·.pending.bytes d)

/-- Flushed bytes of a record, none if there is no record. -/
def flushedOf (d : Way) (live? : Option Entry) : Nat :=
  live?.elim 0 (·.flushed.bytes d)

/-- Counted bytes of a record, none if there is no record. -/
def trafficOf (d : Way) (live? : Option Entry) : Nat :=
  live?.elim 0 (·.traffic.bytes d)

theorem pendingOf_eq (d : Way) (live? : Option Entry) :
    pendingOf d live? = trafficOf d live? - flushedOf d live? := by
  cases live? with
  | none => rfl
  | some entry => exact entry.bytes_pending d

theorem trafficOf_of_settled {live? : Option Entry} (settled : live?.all (·.isSettled) = true)
    (d : Way) : trafficOf d live? = flushedOf d live? := by
  cases live? with
  | none => rfl
  | some entry => exact congrArg (Traffic.bytes · d) (Entry.isSettled_iff.1 settled)

theorem pendingOf_of_settled {live? : Option Entry} (settled : live?.all (·.isSettled) = true)
    (d : Way) : pendingOf d live? = 0 := by
  rw [pendingOf_eq, trafficOf_of_settled settled, Nat.sub_self]

/-- Bytes of a key among some increments. -/
def counted (key : Key) (d : Way) : List (Key × Traffic) → Nat
  | [] => 0
  | (key', traffic) :: entries =>
    (if key' = key then traffic.bytes d else 0) + counted key d entries

/-- A record after some traffic has been added to it, or to a new one. -/
structure Grows (live? : Option Entry) (traffic : Traffic) (entry : Entry) : Prop where
  flushed : ∀ d, entry.flushed.bytes d = flushedOf d live?
  traffic : ∀ d, entry.traffic.bytes d = min (trafficOf d live? + traffic.bytes d) Count.top

/-- A record after it has taken a baseline, or a new one has. -/
structure Takes (live? : Option Entry) (taken : Traffic) (entry : Entry) : Prop where
  flushed : ∀ d, entry.flushed.bytes d = flushedOf d live? + taken.bytes d
  traffic : ∀ d, entry.traffic.bytes d = min (trafficOf d live? + taken.bytes d) Count.top

/-- The live record after an increment; `lost` tells of records that were not live even then. -/
inductive Accrues (lost : Entry → Prop) (live? : Option Entry) (traffic : Traffic) :
    Option Entry → Prop
  | nothing (zero : traffic = 0) : Accrues lost live? traffic live?
  | grown (entry : Entry) (nonzero : traffic ≠ 0) (grows : Grows live? traffic entry) :
      Accrues lost live? traffic (some entry)
  | lost (entry : Entry) (nonzero : traffic ≠ 0) (grows : Grows live? traffic entry)
      (expired : lost entry) : Accrues lost live? traffic none

theorem Accrues.mono {lost lost' : Entry → Prop} {live? live?' : Option Entry} {traffic : Traffic}
    (h : Accrues lost live? traffic live?') (le : ∀ entry, lost entry → lost' entry) :
    Accrues lost' live? traffic live?' := by
  cases h with
  | nothing zero => exact .nothing zero
  | grown entry nonzero grows => exact .grown entry nonzero grows
  | lost entry nonzero grows expired => exact .lost entry nonzero grows (le entry expired)

/-- What a commit finds. -/
def commitOf (live? : Option Entry) (expected : Traffic) : Hot.Commit :=
  match live? with
  | none => .missing
  | some entry => if entry.traffic = expected then .settled else .retained

/-! ## Phases -/

namespace Phase

/-- The record that is being flushed. -/
def Holds (φ : Phase) (record : Record) : Prop := φ = observed (some record) ∨ φ = written record

/-- Bytes that are in the cold tier while the hot tier still counts them as pending. -/
def ahead (d : Way) : Phase → Nat
  | written record => record.pending.bytes d
  | _ => 0

theorem ahead_of_not_owes {φ : Phase} (free : ¬ φ.Owes) (d : Way) : φ.ahead d = 0 := by
  cases φ with
  | written record => exact (free trivial).elim
  | _ => rfl

/-- No record is being flushed or drained. -/
inductive IsPlain : Phase → Prop
  | waiting : IsPlain waiting
  | listed : IsPlain listed
  | missing : IsPlain (observed none)
  | rest : IsPlain rest

theorem IsPlain.not_holds {φ : Phase} (plain : φ.IsPlain) (record : Record) : ¬ φ.Holds record := by
  cases plain <;> rintro (⟨⟨⟩⟩ | ⟨⟨⟩⟩)

theorem IsPlain.ahead_eq {φ : Phase} (plain : φ.IsPlain) (d : Way) : φ.ahead d = 0 := by
  cases plain <;> rfl

theorem Settles.after_settling {φ : Phase} (settles : φ.Settles) (key : Key) (purge : Bool)
    (result : Except Error Bool) : φ.after key (.settling key purge result) = .rest := by
  obtain rfl | ⟨record?, rfl, -⟩ := settles
  · rfl
  · exact if_pos rfl

end Phase

/-! ## Effects -/

/-- The occurrence does not touch `key`. -/
def Occurrence.Apart (key : Key) : Occurrence → Prop
  | .observation records => records.lookup key = none
  | .write row _ _ => row ≠ .ofKey key
  | .commit key' _ _ | .settling key' _ _ | .restoring key' _ _ | .forgetting key' _ => key' ≠ key
  | .other => True
  | .arrival _ | .seeding _ _ | .beginning | .listing _ | .taking _ => False

theorem Phase.after_of_apart {key : Key} {o : Occurrence} (apart : o.Apart key) (φ : Phase) :
    φ.after key o = φ := by
  cases o with
  | observation records =>
    change records.lookup key = none at apart
    cases φ <;> simp [Phase.after, apart]
  | settling key' purge result =>
    cases φ with
    | observed record? => exact if_neg apart
    | _ => rfl
  | write | commit | restoring | forgetting => exact if_neg apart
  | other => rfl
  | _ => exact apart.elim

/-- What an answer makes of the record and the row of `key` in some phase. `fails` tells of failures
of a call, and `lost` of records that were not live when they were counted. -/
inductive Effect (key : Key) (fails : Error → Prop) (lost : Entry → Prop) :
    Phase → Option Entry → Traffic → Occurrence → Option Entry → Traffic → Prop
  | apart {φ : Phase} {live? : Option Entry} {row : Traffic} {o : Occurrence}
      (apart : o.Apart key) :
      Effect key fails lost φ live? row o live? row
  | list {live? : Option Entry} {row : Traffic} (keys : List Key) :
      Effect key fails lost .waiting live? row (.listing keys) live? row
  | glance {φ : Phase} {live? : Option Entry} {row : Traffic}
      (records : List (Key × Option Record)) (unlisted : φ ≠ .listed) :
      Effect key fails lost φ live? row (.observation records) live? row
  | read {live? : Option Entry} {row : Traffic} (records : List (Key × Option Record))
      (told : records.lookup key = some (live?.map (·.toRecord key))) :
      Effect key fails lost .listed live? row (.observation records) live? row
  | write {φ : Phase} {live? : Option Entry} {row : Traffic} (traffic : Traffic)
      (writes : φ.Writes traffic) :
      Effect key fails lost φ live? row (.write (.ofKey key) traffic (.ok ())) live?
        (row + traffic)
  | writeFails {φ : Phase} {live? : Option Entry} {row : Traffic} (traffic : Traffic) (e : Error)
      (writes : φ.Writes traffic) (failure : fails e) :
      Effect key fails lost φ live? row (.write (.ofKey key) traffic (.error e)) live? row
  | commit {φ : Phase} {live? : Option Entry} {row : Traffic} (record : Record)
      (commits : φ.Commits record) :
      Effect key fails lost φ live? row
        (.commit key record.traffic (.ok (commitOf live? record.traffic)))
        (live?.map (·.mark record.traffic)) row
  | commitFails {φ : Phase} {live? : Option Entry} {row : Traffic} (record : Record) (e : Error)
      (commits : φ.Commits record) (failure : fails e) :
      Effect key fails lost φ live? row (.commit key record.traffic (.error e)) live? row
  | settle {φ : Phase} {live? : Option Entry} {row : Traffic} (purge : Bool)
      (settles : φ.Settles) :
      Effect key fails lost φ live? row (.settling key purge (.ok (live?.all (·.isSettled))))
        (if purge = true ∧ live?.all (·.isSettled) = true then none else live?) row
  | settleFails {φ : Phase} {live? : Option Entry} {row : Traffic} (purge : Bool) (e : Error)
      (settles : φ.Settles) (failure : fails e) :
      Effect key fails lost φ live? row (.settling key purge (.error e)) live? row
  | take {live? : Option Entry} {row : Traffic} (records : List Record)
      (told : records.find? (·.key = key) = live?.map (·.toRecord key)) :
      Effect key fails lost .waiting live? row (.taking records) none row
  | leave {live? : Option Entry} {row : Traffic} (records : List Record)
      (untold : records.find? (·.key = key) = none) :
      Effect key fails lost .waiting live? row (.taking records) live? row
  | restore {live? : Option Entry} {row : Traffic} (traffic : Traffic) (live?' : Option Entry)
      (accrues : Accrues lost live? traffic live?') :
      Effect key fails lost (.refused traffic) live? row (.restoring key traffic (.ok ())) live?'
        row
  | restoreFails {live? : Option Entry} {row : Traffic} (traffic : Traffic) (e : Error)
      (failure : fails e) :
      Effect key fails lost (.refused traffic) live? row (.restoring key traffic (.error e)) live?
        row
  | forget {live? : Option Entry} {row : Traffic} (result : Except Error Bool)
      (live?' : Option Entry) (left : live?' = none ∨ live?' = live?) :
      Effect key fails lost .gone live? row (.forgetting key result) live?' row

/-! ## Requests that leave a key alone -/

/-- The request does not touch `key`. -/
def Apart (key : Key) {β : Type} (request : Request β) : Prop :=
  match request with
  | .hot (.commit key' _ _) | .hot (.settle key' _) | .hot (.increment key' _)
  | .hot (.forget key') => key' ≠ key
  | .hot (.snapshot keys) => key ∉ keys
  | .hot .activeBuckets => True
  | .hot _ | .side _ => False
  | .cold (.accumulate target bucket _) => (⟨bucket, target⟩ : Cold.RowKey) ≠ .ofKey key
  | .cold _ => False
  | .now | .isCancelled | .record _ => True

/-- A request that is neutral to the protocol of a key does not touch it. -/
theorem apart_of_neutral {key : Key} {terms : Terms} {β : Type} {request : Request β}
    (neutral : (monitor key terms).Neutral request) : Apart key request := by
  have never : ∀ φ, Allows key terms request φ := fun φ => (neutral φ).1
  have same : ∀ (φ : Phase) (b : β), φ.after key (occurrence request b) = φ :=
    fun φ => (neutral φ).2
  cases request with
  | hot r =>
    cases r with
    | commit key' expected markers =>
      -- neutral requests are allowed in every phase, and there are some that forbid this one
      rintro rfl
      obtain ⟨record, called | ⟨called, -⟩, -⟩ := never .rest rfl <;> cases called
    | settle key' purge =>
      rintro rfl
      obtain called | ⟨record?, called, -⟩ := never .waiting rfl <;> cases called
    | increment key' traffic =>
      rintro rfl
      exact nomatch (never .rest).2 rfl
    | forget key' =>
      rintro rfl
      exact nomatch never .rest rfl
    | snapshot keys =>
      -- any answer that tells of the key would begin its flush
      intro member
      have told : (keys.zip (keys.map fun _ => (none : Option Record))).lookup key = some none :=
        lookup_zip_map.trans (if_pos member)
      have moved := same .listed (.ok (keys.map fun _ => none))
      change Phase.after key .listed (.observation _) = .listed at moved
      simp only [Phase.after, told] at moved
      cases moved
    | activeKeys limit => exact nomatch (never .rest).1
    | takeBucket bucket => exact nomatch (never .rest).1
    | activeBuckets => trivial
    | _ => exact never .rest
  | cold r =>
    cases r with
    | accumulate target bucket traffic =>
      intro mine
      obtain ⟨record, called, -⟩ | called := never .rest mine <;> cases called
    | _ => exact never .rest
  | side r => exact never .rest
  | _ => trivial

/-! ## Answers -/

/-- A counter that is not live starts with nothing. -/
theorem bytes_counter (s : Hot.Store) (now : Instant) (key : Key) (d : Way) :
    (s.counter now key).flushed.bytes d = flushedOf d (s.live? now key) ∧
      (s.counter now key).traffic.bytes d = trafficOf d (s.live? now key) := by
  unfold Hot.Store.counter
  cases s.live? now key with
  | none => exact ⟨Traffic.bytes_zero d, Traffic.bytes_zero d⟩
  | some entry => exact ⟨rfl, rfl⟩

/-- The counter of a key after an increment. -/
theorem grows_counter (s : Hot.Store) (now : Instant) (key : Key) (traffic : Traffic)
    (expiry : Instant) :
    Grows (s.live? now key) traffic { s.counter now key with
      traffic := (s.counter now key).traffic + traffic
      expiry } := by
  refine ⟨fun d => (bytes_counter s now key d).1, fun d => ?_⟩
  rw [← (bytes_counter s now key d).2]
  exact Traffic.bytes_add ..

/-- The counter of a key after it was seeded. -/
theorem takes_counter (s : Hot.Store) (now : Instant) (key : Key) (baseline : Traffic)
    (expiry : Instant) :
    Takes (s.live? now key) ((s.counter now key).takes baseline)
      { (s.counter now key).seed baseline with expiry } := by
  refine ⟨fun d => ?_, fun d => ?_⟩
  · rw [← (bytes_counter s now key d).1]
    exact Entry.bytes_flushed_seed ..
  · rw [← (bytes_counter s now key d).2]
    exact Entry.bytes_traffic_seed ..

namespace Stage

/-- A record that was just written stands under the key, and has expired at once. -/
def Lost (key : Key) (s : Stage) (entry : Entry) : Prop :=
  s.world.hot.records[key]? = some entry ∧ entry.expiry ≤ s.world.now ∧
    s.world.hot.lifespan ≤ 0

theorem accrues_increment {s : Hot.Store} (hs : s.Scheduled) (now : Instant) (key : Key)
    (traffic : Traffic) :
    Accrues (fun entry => (s.increment now key traffic).records[key]? = some entry ∧
        entry.expiry ≤ now ∧ (s.increment now key traffic).lifespan ≤ 0)
      (s.live? now key) traffic ((s.increment now key traffic).live? now key) := by
  have records := Hot.Store.records_increment s now key traffic key
  have lifespan := Hot.Store.lifespan_act hs now (.increment key traffic)
  have grows := grows_counter s now key traffic (now.addNanos s.lifespan)
  by_cases zero : traffic = 0
  · rw [if_neg fun h => h.2 zero] at records
    rw [Hot.Store.live?_congr records]
    exact .nothing zero
  · rw [if_pos ⟨rfl, zero⟩] at records
    by_cases lives : now < now.addNanos s.lifespan
    · rw [Hot.Store.live?_eq_some.2 ⟨records, lives⟩]
      exact .grown _ zero grows
    · have lost : (s.increment now key traffic).live? now key = none := by
        rw [Hot.Store.live?, records]
        simp [lives]
      rw [lost]
      refine .lost _ zero grows ⟨records, Int.not_lt.1 lives, ?_⟩
      rw [show (s.increment now key traffic).lifespan = s.lifespan from lifespan]
      have brief : ¬ now.nanos < now.nanos + s.lifespan := lives
      omega

variable {key : Key}

/-- A call that is apart from a key leaves its record alone. -/
theorem live?_answer_of_apart {hot : Hot.Store} (hs : hot.Scheduled) (now : Instant) {α : Type}
    {request : Hot.Request α} (apart : Apart key (.hot request)) :
    (hot.answer now request).2.live? now key = hot.live? now key := by
  cases request with
  | increment key' traffic => exact Hot.Store.live?_increment_of_ne hot now apart traffic
  | commit key' expected markers => exact Hot.Store.live?_commit_of_ne hs now apart expected markers
  | settle key' purge => exact Hot.Store.live?_settle_of_ne hs now apart purge
  | forget key' => exact (Hot.Store.live?_forget hot now key key').trans (if_neg (Ne.symm apart))
  | activeBuckets => exact Hot.Store.live?_expire hs now key
  | snapshot keys => rfl
  | _ => exact apart.elim

theorem records_answer_of_apart {hot : Hot.Store} (hs : hot.Scheduled) (now : Instant) {α : Type}
    {request : Hot.Request α} (apart : Apart key (.hot request)) :
    (hot.answer now request).2.records[key]? = hot.records[key]? ∨
      (hot.answer now request).2.records[key]? = hot.live? now key := by
  cases request with
  | increment key' traffic =>
    exact .inl ((Hot.Store.records_increment ..).trans (if_neg fun h => apart h.1.symm))
  | commit key' expected markers =>
    exact .inr ((Hot.Store.records_commit hs ..).trans (if_neg (Ne.symm apart)))
  | settle key' purge =>
    exact .inr ((Hot.Store.records_settle hs ..).trans (if_neg fun h => apart h.1.symm))
  | forget key' => exact .inl ((Hot.Store.records_forget ..).trans (if_neg (Ne.symm apart)))
  | activeBuckets => exact .inr (Hot.Store.records_expire hs now key)
  | snapshot keys => exact .inl rfl
  | _ => exact apart.elim

theorem occurrence_of_apart {s : Stage} {failure? : Option Error} {β : Type} {request : Request β}
    (apart : Apart key request) :
    (occurrence request (Stage.answer failure? request s).1).Apart key := by
  cases request with
  | hot r =>
    cases r with
    | snapshot keys =>
      cases failure? with
      | none => exact lookup_zip_map.trans (if_neg apart)
      | some e => trivial
    | commit | settle | increment | forget => exact apart
    | activeBuckets => trivial
    | _ => exact apart.elim
  | cold r =>
    cases r with
    | accumulate => exact apart
    | _ => exact apart.elim
  | side r => exact apart.elim
  | _ => trivial

/-- A request that is apart from a key leaves its record and its row alone. -/
theorem answer_of_apart {s : Stage} (hs : s.world.hot.Scheduled) (failure? : Option Error) {β : Type}
    {request : Request β} (apart : Apart key request) :
    (Stage.answer failure? request s).2.live? key = s.live? key ∧
      (Stage.answer failure? request s).2.row key = s.row key := by
  cases request with
  | hot r =>
    cases failure? with
    | none => exact ⟨live?_answer_of_apart hs s.world.now apart, rfl⟩
    | some e => exact ⟨rfl, rfl⟩
  | cold r =>
    cases r with
    | accumulate target bucket traffic =>
      cases failure? with
      | none =>
        obtain ⟨-, rows⟩ | ⟨e, -, same, -⟩ :=
          accumulate_cases s.world.cold target bucket traffic
        · exact ⟨rfl, (rows (.ofKey key)).trans (if_neg (Ne.symm apart))⟩
        · exact ⟨rfl, congrArg (fun cold => (cold.row (.ofKey key) key.bucket).getD 0) same⟩
      | some e => exact ⟨rfl, rfl⟩
    | _ => exact apart.elim
  | side r => exact apart.elim
  | _ => cases failure? <;> exact ⟨rfl, rfl⟩

/-- The answer to a request has an effect on a key; calls fail where they are made to, or where the
cold store does not take a write. -/
def Affects (key : Key) (failure? : Option Error) {β : Type} (request : Request β) (s : Stage) :
    Prop :=
  Effect key (fun e => IsOpen s.world.cold → failure? = some e) ((Stage.answer failure? request s).2.Lost key)
    (s.phase key) (s.live? key) (s.row key)
    (occurrence request (Stage.answer failure? request s).1)
    ((Stage.answer failure? request s).2.live? key) ((Stage.answer failure? request s).2.row key)

theorem affects_of {s : Stage} {failure? : Option Error} {β : Type} {request : Request β}
    {o : Occurrence} {live? : Option Entry} {row : Traffic}
    (effect : Effect key (fun e => IsOpen s.world.cold → failure? = some e)
      ((Stage.answer failure? request s).2.Lost key)
      (s.phase key) (s.live? key) (s.row key) o live? row)
    (told : occurrence request (Stage.answer failure? request s).1 = o)
    (entry : (Stage.answer failure? request s).2.live? key = live?)
    (rows : (Stage.answer failure? request s).2.row key = row) :
    s.Affects key failure? request := by
  subst told entry rows
  exact effect

variable {s : Stage} (hs : s.world.hot.Scheduled) (failure? : Option Error)
include hs

theorem affects_of_apart {β : Type} {request : Request β} (apart : Apart key request) :
    s.Affects key failure? request := by
  obtain ⟨entry, row⟩ := answer_of_apart hs failure? apart
  exact affects_of (.apart (occurrence_of_apart apart)) rfl entry row

theorem affects_activeKeys {limit : Nat} (waiting : s.phase key = .waiting) :
    s.Affects key failure? (.hot (.activeKeys limit)) := by
  cases failure? with
  | some e => exact .apart trivial
  | none =>
    refine affects_of (waiting ▸ Effect.list _) rfl ?_ rfl
    exact Hot.Store.live?_expire hs s.world.now key

theorem affects_takeBucket {bucket : Bucket} (waiting : s.phase key = .waiting) :
    s.Affects key failure? (.hot (.takeBucket bucket)) := by
  cases failure? with
  | some e => exact .apart trivial
  | none =>
    have entry := Hot.Store.live?_takeBucket hs s.world.now bucket key
    have found := Hot.Store.find?_takeBucket hs s.world.now bucket key
    split at entry
    · next member =>
      rw [if_pos member] at found
      exact affects_of (waiting ▸ .take _ found) rfl entry rfl
    · next absent =>
      rw [if_neg absent] at found
      exact affects_of (waiting ▸ .leave _ found) rfl entry rfl

theorem affects_snapshot (keys : List Key) : s.Affects key failure? (.hot (.snapshot keys)) := by
  by_cases member : key ∈ keys
  · cases failure? with
    | some e => exact .apart trivial
    | none =>
      by_cases listed : s.phase key = .listed
      · exact affects_of (listed ▸ .read _ (lookup_zip_map.trans (if_pos member))) rfl rfl rfl
      · exact .glance _ listed
  · exact affects_of_apart hs failure? member

theorem affects_commit {record : Record} (commits : (s.phase key).Commits record) :
    s.Affects key failure? (.hot (.commit key record.traffic record.traffic)) := by
  cases failure? with
  | some e => exact .commitFails record e commits fun _ => rfl
  | none =>
    have result : (s.world.hot.commit s.world.now key record.traffic record.traffic).1 =
        commitOf (s.live? key) record.traffic := by
      cases found : s.live? key with
      | none => rw [Hot.Store.commit_of_absent hs found]; rfl
      | some entry =>
        rw [Hot.Store.commit_of_live hs found, commitOf]
        split <;> rfl
    refine affects_of (.commit record commits) ?_ ?_ rfl
    · exact congrArg (fun result => Occurrence.commit key record.traffic (.ok result)) result
    · exact Hot.Store.live?_commit hs s.world.now key record.traffic record.traffic

theorem affects_settle {purge : Bool} (settles : (s.phase key).Settles) :
    s.Affects key failure? (.hot (.settle key purge)) := by
  cases failure? with
  | some e => exact .settleFails purge e settles fun _ => rfl
  | none =>
    refine affects_of (.settle purge settles) ?_ ?_ rfl
    · exact congrArg (fun result => Occurrence.settling key purge (.ok result))
        (Hot.Store.settle_fst hs s.world.now key purge)
    · exact Hot.Store.live?_settle hs s.world.now key purge

theorem affects_increment {traffic : Traffic} (refused : s.phase key = .refused traffic) :
    s.Affects key failure? (.hot (.increment key traffic)) := by
  cases failure? with
  | some e => exact affects_of (refused ▸ .restoreFails traffic e fun _ => rfl) rfl rfl rfl
  | none =>
    have accrues := accrues_increment hs s.world.now key traffic
    exact affects_of (refused ▸ .restore traffic _ accrues) rfl rfl rfl

omit hs in
theorem affects_forget (gone : s.phase key = .gone) :
    s.Affects key failure? (.hot (.forget key)) := by
  cases failure? with
  | some e => exact affects_of (gone ▸ .forget _ _ (.inr rfl)) rfl rfl rfl
  | none =>
    refine affects_of (gone ▸ .forget _ _ (.inl ?_)) rfl rfl rfl
    exact (Hot.Store.live?_forget ..).trans (if_pos rfl)

omit hs in
theorem affects_accumulate {target : Cold.Target} {bucket : Bucket} {traffic : Traffic}
    (own : (⟨bucket, target⟩ : Cold.RowKey) = .ofKey key) (writes : (s.phase key).Writes traffic) :
    s.Affects key failure? (.cold (.accumulate target bucket traffic)) := by
  cases failure? with
  | some e =>
    exact affects_of (.writeFails traffic e writes fun _ => rfl) (by rw [← own]; rfl) rfl rfl
  | none =>
    have told : ∀ result, (s.world.cold.accumulate target bucket traffic).1 = result →
        occurrence (.cold (.accumulate target bucket traffic))
          (Stage.answer none (.cold (.accumulate target bucket traffic)) s).1 =
            .write (.ofKey key) traffic result := by
      rintro _ rfl
      rw [← own]
      rfl
    obtain ⟨ok, rows⟩ | ⟨e, refused, same, closed⟩ :=
      accumulate_cases s.world.cold target bucket traffic
    · refine affects_of (.write traffic writes) (told _ ok) rfl ?_
      exact (rows (.ofKey key)).trans (if_pos own.symm)
    · refine affects_of (.writeFails traffic e writes fun isOpen => (closed isOpen).elim)
        (told _ refused) rfl ?_
      exact congrArg (fun cold => (cold.row (.ofKey key) key.bucket).getD 0) same

/-- An answer to a request that the protocol allows has one of the effects. -/
theorem effect_answer {terms : Terms} {β : Type} {request : Request β}
    (allowed : Allows key terms request (s.phase key)) :
    s.Affects key failure? request := by
  cases request with
  | hot r =>
    cases r with
    | activeKeys limit => exact affects_activeKeys hs failure? allowed.1
    | takeBucket bucket => exact affects_takeBucket hs failure? allowed.1
    | snapshot keys => exact affects_snapshot hs failure? keys
    | commit key' expected markers =>
      by_cases own : key' = key
      · subst own
        obtain ⟨record, commits, rfl, rfl⟩ := allowed rfl
        exact affects_commit hs failure? commits
      · exact affects_of_apart hs failure? own
    | settle key' purge =>
      by_cases own : key' = key
      · subst own
        exact affects_settle hs failure? (allowed rfl)
      · exact affects_of_apart hs failure? own
    | increment key' traffic =>
      by_cases own : key' = key
      · subst own
        exact affects_increment hs failure? (allowed.2 rfl)
      · exact affects_of_apart hs failure? own
    | forget key' =>
      by_cases own : key' = key
      · subst own
        exact affects_forget failure? (allowed rfl)
      · exact affects_of_apart hs failure? own
    | activeBuckets => exact affects_of_apart hs failure? trivial
    | _ => exact allowed.elim
  | cold r =>
    cases r with
    | accumulate target bucket traffic =>
      by_cases own : (⟨bucket, target⟩ : Cold.RowKey) = .ofKey key
      · exact affects_accumulate failure? own (allowed own)
      · exact affects_of_apart hs failure? own
    | _ => exact allowed.elim
  | side r => exact allowed.elim
  | _ => exact affects_of_apart hs failure? trivial

end Stage

end Metering.Compaction
