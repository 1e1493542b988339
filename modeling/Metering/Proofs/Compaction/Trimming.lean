import Metering.Compaction.Flusher
import Metering.Proofs.Compaction.Draining
import Metering.Proofs.Compaction.Starvation
import Metering.Proofs.Hot.Buckets
import Metering.Proofs.Program.Inversion

/-!
# Trimming

A round of the flush service runs a cycle, which handles some of the active keys, and then drains
each bucket that lies before the retention window. A drained bucket is found through the bucket
indexes, so it does not matter which of its keys are active, and which of them the cycle has
handled: a key that was flushed has nothing pending any more when its bucket is drained.

Results:
1. `trimmed_of_drain`, `Trimmed.trans`: a drain, and drains in a row.
2. `round_trims`.
-/

namespace Metering

open Compaction Program

/-! ## Listed buckets -/

namespace Hot.Store

variable {s : Store} {now : Instant} {bucket bucket' : Bucket}

theorem isEmpty_iff_not_mem {members : Std.ExtTreeSet Key} :
    members.isEmpty = true ↔ ∀ key, key ∉ members := by
  rw [Std.ExtTreeSet.isEmpty_iff]
  constructor
  · rintro rfl _
    exact Std.ExtTreeSet.not_mem_empty
  · exact fun none => Std.ExtTreeSet.ext_mem fun key =>
      iff_of_false (none key) Std.ExtTreeSet.not_mem_empty

/-- The listed buckets are those with members. -/
theorem mem_activeBuckets :
    bucket ∈ (s.activeBuckets now).1 ↔ ∃ key, key ∈ (s.expire now).membersOf bucket := by
  simp only [activeBuckets, List.mem_filterMap, mem_membersOf]
  constructor
  · rintro ⟨⟨bucket', index⟩, listed, filled⟩
    rw [Std.ExtTreeMap.mem_toList_iff_getElem?_eq_some] at listed
    obtain ⟨some, filled⟩ := Option.ite_none_left_eq_some.1 filled
    cases filled
    obtain ⟨key, member⟩ := not_forall_not.1 (mt isEmpty_iff_not_mem.2 some)
    exact ⟨key, index, listed, member⟩
  · rintro ⟨key, index, listed, member⟩
    refine ⟨(bucket, index), Std.ExtTreeMap.mem_toList_iff_getElem?_eq_some.2 listed, ?_⟩
    exact if_neg fun none => isEmpty_iff_not_mem.1 none key member

theorem mem_activeBuckets_of_expire (h : bucket ∈ ((s.expire now).activeBuckets now).1) :
    bucket ∈ (s.activeBuckets now).1 := by
  obtain ⟨key, member⟩ := mem_activeBuckets.1 h
  exact mem_activeBuckets.2 ⟨key, mem_membersOf_of_expire member⟩

/-- A drained bucket is not listed any more, and no other bucket comes in. -/
theorem mem_activeBuckets_of_takeBucket
    (h : bucket' ∈ ((s.takeBucket now bucket).2.activeBuckets now).1) :
    bucket' ∈ (s.activeBuckets now).1 ∧ bucket' ≠ bucket := by
  obtain ⟨key, member⟩ := mem_activeBuckets.1 h
  obtain ⟨index, found, member⟩ := mem_membersOf.1 (mem_membersOf_of_expire member)
  rw [buckets_takeBucket, Std.ExtTreeMap.getElem?_erase] at found
  obtain ⟨apart, found⟩ := Option.ite_none_left_eq_some.1 found
  rw [Std.LawfulEqOrd.compare_eq_iff_eq] at apart
  exact ⟨mem_activeBuckets.2 ⟨key, mem_membersOf.2 ⟨index, found, member⟩⟩, Ne.symm apart⟩

end Hot.Store

namespace Compaction

/-! ## One drain -/

/-- Nothing fails. -/
abbrev spared : Outage := .ofRows unfailing

theorem answer_spared : @Outage.answer spared = @World.answer := by
  funext β request w
  cases request with
  | cold r => cases r <;> rfl
  | _ => rfl

theorem enumerable_answer (o : Outage) {w : World} (h : w.hot.Enumerable w.now) {β : Type}
    (request : Request β) : (o.answer request w).2.hot.Enumerable (o.answer request w).2.now := by
  unfold Outage.answer
  cases request with
  | hot r =>
    cases o.failure? (.hot r) with
    | none => exact h.answer r
    | some e => exact h
  | cold r => cases o.failure? (.cold r) <;> exact h
  | side r => cases o.failure? (.side r) <;> exact h
  | now => cases o.failure? .now <;> exact h
  | isCancelled => cases o.failure? .isCancelled <;> exact h
  | record event => cases o.failure? (.record event) <;> exact h

/-- Stores that answer at one instant, with a hot tier that finds its records in either way. -/
structure Orderly (now : Instant) (w : World) : Prop where
  serves : Serves now [] w
  enumerable : w.hot.Enumerable now

/-- Stores that answer, while nothing happens in the hot tier. -/
structure Writes (now : Instant) (hot : Hot.Store) (w : World) : Prop where
  serves : Serves now [] w
  hot : w.hot = hot

variable {c : Settings} {now : Instant} {hot : Hot.Store} {w w' : World} {bucket : Bucket}

theorem serves_write (serves : Serves now [] w) (key : Key) (traffic : Traffic) :
    (spared.answer (.cold (.accumulate (.ofKey key) key.bucket traffic)) w).1 = .ok () ∧
    Serves now [] (spared.answer (.cold (.accumulate (.ofKey key) key.bucket traffic)) w).2 ∧
    ∀ key', ((spared.answer (.cold (.accumulate (.ofKey key) key.bucket traffic)) w).2.sight
      key').row = if key' = key then (w.sight key').row + traffic else (w.sight key').row := by
  obtain ⟨written, rows⟩ := Stage.accumulate_of_open ⟨serves.retired, serves.online⟩ (.ofKey key)
    key.bucket traffic
  obtain ⟨retired, online⟩ :=
    Stage.cold_answer w.cold (.accumulate (.ofKey key) key.bucket traffic)
  refine ⟨written, ⟨serves.now, serves.uncancelled, serves.scheduled,
    online.trans serves.online, retired.trans serves.retired⟩, fun key' => ?_⟩
  have sight := World.sight_write (w := w) rows key'
  refine (congrArg Sight.row sight).trans ?_
  split <;> rfl

/-- Of a drained record the write is taken. -/
theorem onCell_drainWrite (key : Key) (pending : Traffic) (d : Traffic) :
    OnCell spared.answer (Writes now hot) (fun w key => (w.sight key).row) key
      (drainRecord key pending) d fun _ d' => d' = d + pending := by
  refine (OnCell.ask (Q := fun result d' => result = .ok () ∧ d' = d + pending)
    fun w writes own => ?_).bind ?_
  · subst own
    obtain ⟨written, serves, rows⟩ := serves_write writes.serves key pending
    refine ⟨⟨⟨serves, writes.hot⟩, fun key' ne => ?_⟩, written, ?_⟩
    · exact (rows key').trans (if_neg ne)
    · exact (rows key).trans (if_pos rfl)
  · rintro _ _ ⟨rfl, rfl⟩
    exact .pure rfl

/-- The record is gone, and what was pending in it is in the row. -/
structure Drained (before after : Sight) : Prop where
  gone : after.live? = none
  row : after.row = before.row + before.pending

/-- Record and row are as they were. -/
structure Left (before after : Sight) : Prop where
  live? : after.live? = before.live?
  row : after.row = before.row

/-- Some buckets were drained, and all else is as it was. -/
structure Trimmed (now : Instant) (w : World) (buckets : List Bucket) (w' : World) : Prop where
  orderly : Orderly now w'
  drained : ∀ key : Key, key.bucket ∈ buckets → Drained (w.sight key) (w'.sight key)
  left : ∀ key : Key, key.bucket ∉ buckets → Left (w.sight key) (w'.sight key)
  listed : ∀ bucket ∈ (w'.hot.activeBuckets now).1,
    bucket ∈ (w.hot.activeBuckets now).1 ∧ bucket ∉ buckets

/-- The records with something pending are written, in whatever order. -/
theorem rows_of_drainAll {width : Nat} {records : List Hot.Record}
    {results : List (Traffic × DrainOutcome)} (writes : Writes now hot w)
    (nodup : (records.map (·.key)).Nodup)
    (reached : Reaches spared.answer
      (Program.all width (records.map fun r => drainRecord r.key r.pending)) w (.pure results) w') :
    Writes now hot w' ∧
    (∀ r ∈ records, (w'.sight r.key).row = (w.sight r.key).row + r.pending) ∧
    ∀ key ∉ records.map (·.key), (w'.sight key).row = (w.sight key).row :=
  (OnCells.all (v := fun key => (w.sight key).row) width Hot.Record.key
    (fun (r : Hot.Record) row => row = (w.sight r.key).row + r.pending) nodup fun r _ =>
      onCell_drainWrite r.key r.pending _).reaches writes reached

theorem pending_of_told {d : Sight} {r : Hot.Record}
    (told : d.live?.map (·.toRecord r.key) = some r) : d.pending = r.pending := by
  obtain ⟨e, live, same⟩ := Option.map_eq_some_iff.1 told
  rw [Sight.pending, live, ← same]
  rfl

/-- The taken records with something pending are those of the keys with something pending. -/
theorem nonzero_taken (enumerable : w.hot.Enumerable w.now) (bucket : Bucket) :
    (∀ r ∈ nonzero (w.hot.takeBucket w.now bucket).1,
      r.key.bucket = bucket ∧ (w.sight r.key).pending = r.pending) ∧
    ∀ key ∉ (nonzero (w.hot.takeBucket w.now bucket).1).map (·.key),
      key.bucket = bucket → (w.sight key).pending = 0 := by
  have sound {r : Hot.Record} : r ∈ (w.hot.takeBucket w.now bucket).1 ↔
      r.key.bucket = bucket ∧ (w.sight r.key).live?.map (·.toRecord r.key) = some r :=
    Hot.Store.mem_recordsOf enumerable.scheduled enumerable.indexed
  constructor
  · intro r member
    obtain ⟨own, told⟩ := sound.1 (mem_nonzero.1 member).1
    exact ⟨own, pending_of_told told⟩
  · intro key absent own
    by_contra pending
    cases live : (w.sight key).live? with
    | none => exact pending (by rw [Sight.pending, live]; rfl)
    | some e =>
      have told : (w.sight key).live?.map (·.toRecord key) = some (e.toRecord key) := live ▸ rfl
      refine absent (List.mem_map.2 ⟨e.toRecord key, mem_nonzero.2 ⟨?_, ?_⟩, rfl⟩)
      · exact sound.2 ⟨own, told⟩
      · exact pending_of_told (r := e.toRecord key) told ▸ pending

theorem trimmed_of_drain (orderly : Orderly now w) {memory memory' : Compactor}
    {result : Except Error DrainReport}
    (reached : Reaches spared.answer (drain c memory bucket) w (.pure (memory', result)) w') :
    (∃ report, result = .ok report) ∧ Trimmed now w [bucket] w' := by
  obtain ⟨serves, enumerable⟩ := orderly
  obtain rfl := serves.now
  have rest := reached.of_ask_bind
  have took : spared.answer (.hot (.takeBucket bucket)) w =
      (.ok (w.hot.takeBucket w.now bucket).1,
        { w with hot := (w.hot.takeBucket w.now bucket).2 }) := rfl
  rw [took] at rest
  have writes : Writes w.now (w.hot.takeBucket w.now bucket).2
      { w with hot := (w.hot.takeBucket w.now bucket).2 } :=
    ⟨⟨rfl, serves.uncancelled, serves.scheduled.takeBucket .., serves.online, serves.retired⟩, rfl⟩
  have nodup := Hot.Store.takeBucket_nodup serves.scheduled w.now bucket
  obtain ⟨results, u, ran, ended⟩ := rest.of_bind
  obtain ⟨eq, rfl⟩ := ended.of_pure
  obtain ⟨-, rfl⟩ := Prod.mk.inj eq
  obtain ⟨⟨serves', hot⟩, written, others⟩ :=
    rows_of_drainAll writes (nodup.sublist (List.filter_sublist.map _)) ran
  obtain ⟨told, zero⟩ := nonzero_taken enumerable bucket
  have live? (key : Key) : (w'.sight key).live? =
      if key.bucket = bucket then none else (w.sight key).live? := by
    rw [World.sight, serves'.now, hot]
    exact enumerable.indexed.live?_takeBucket enumerable.scheduled bucket key
  refine ⟨⟨_, rfl⟩, ⟨serves', hot ▸ enumerable.answer (.takeBucket bucket)⟩, fun key own => ?_,
    fun key other => ?_, fun bucket' listed => ?_⟩
  · rw [List.mem_singleton] at own
    refine ⟨(live? key).trans (if_pos own), ?_⟩
    by_cases among : key ∈ (nonzero (w.hot.takeBucket w.now bucket).1).map (·.key)
    · obtain ⟨r, member, rfl⟩ := List.mem_map.1 among
      rw [(told r member).2]
      exact written r member
    · rw [zero key among own, Traffic.add_zero]
      exact others key among
  · rw [List.mem_singleton] at other
    refine ⟨(live? key).trans (if_neg other), others key fun among => ?_⟩
    obtain ⟨r, member, rfl⟩ := List.mem_map.1 among
    exact other (told r member).1
  · rw [hot] at listed
    rw [List.mem_singleton]
    exact Hot.Store.mem_activeBuckets_of_takeBucket listed

/-! ## Drains in a row -/

theorem Left.trans {d₁ d₂ d₃ : Sight} (h : Left d₁ d₂) (h' : Left d₂ d₃) : Left d₁ d₃ :=
  ⟨h'.live?.trans h.live?, h'.row.trans h.row⟩

theorem Left.drained {d₁ d₂ d₃ : Sight} (h : Left d₁ d₂) (h' : Drained d₂ d₃) : Drained d₁ d₃ := by
  refine ⟨h'.gone, h'.row.trans ?_⟩
  rw [h.row, Sight.pending, h.live?]
  rfl

theorem Drained.left {d₁ d₂ d₃ : Sight} (h : Drained d₁ d₂) (h' : Left d₂ d₃) : Drained d₁ d₃ :=
  ⟨h'.live?.trans h.gone, h'.row.trans h.row⟩

/-- There is nothing to drain twice. -/
theorem Drained.trans {d₁ d₂ d₃ : Sight} (h : Drained d₁ d₂) (h' : Drained d₂ d₃) :
    Drained d₁ d₃ := by
  refine ⟨h'.gone, h'.row.trans ?_⟩
  rw [Sight.pending, h.gone]
  exact (Traffic.add_zero _).trans h.row

theorem Trimmed.refl (orderly : Orderly now w) : Trimmed now w [] w :=
  ⟨orderly, fun _ member => (List.not_mem_nil member).elim, fun _ _ => ⟨rfl, rfl⟩,
    fun _ listed => ⟨listed, List.not_mem_nil⟩⟩

theorem Trimmed.trans {w₁ w₂ : World} {buckets : List Bucket} (first : Trimmed now w [bucket] w₁)
    (rest : Trimmed now w₁ buckets w₂) : Trimmed now w (bucket :: buckets) w₂ := by
  refine ⟨rest.orderly, fun key member => ?_, fun key absent => ?_, fun bucket' listed => ?_⟩
  · by_cases here : key.bucket = bucket
    · have drained := first.drained key (List.mem_singleton.2 here)
      by_cases again : key.bucket ∈ buckets
      · exact drained.trans (rest.drained key again)
      · exact drained.left (rest.left key again)
    · have later := (List.mem_cons.1 member).resolve_left here
      exact (first.left key (mt List.mem_singleton.1 here)).drained (rest.drained key later)
  · obtain ⟨apart, later⟩ := not_or.1 (mt List.mem_cons.2 absent)
    exact (first.left key (mt List.mem_singleton.1 apart)).trans (rest.left key later)
  · obtain ⟨listed, later⟩ := rest.listed bucket' listed
    obtain ⟨listed, apart⟩ := first.listed bucket' listed
    refine ⟨listed, fun member => ?_⟩
    exact (List.mem_cons.1 member).elim (fun same => apart (List.mem_singleton.2 same)) later

theorem trimmed_of_drainEach {buckets : List Bucket} (orderly : Orderly now w)
    {memory memory' : Flusher.Memory} {result : Except Error Unit}
    (reached : Reaches spared.answer (Flusher.drainEach c buckets memory) w
      (.pure (memory', result)) w') :
    result = .ok () ∧ Trimmed now w buckets w' := by
  induction buckets generalizing memory w with
  | nil =>
    obtain ⟨eq, rfl⟩ := reached.of_pure
    exact ⟨(Prod.mk.inj eq).2, .refl orderly⟩
  | cons bucket rest ih =>
    have later := reached.of_ask_bind
    have uncancelled : spared.answer .isCancelled w = (false, w) :=
      congrArg (·, w) orderly.serves.uncancelled
    rw [uncancelled] at later
    obtain ⟨⟨compactor, drained⟩, w₁, ran, later⟩ := later.of_bind
    obtain ⟨⟨report, rfl⟩, trimmed⟩ := trimmed_of_drain orderly ran
    obtain ⟨ok, others⟩ := ih trimmed.orderly later
    exact ⟨ok, trimmed.trans others⟩

/-! ## A round -/

/-- What trimming makes of the stores: nothing is left before the retention window, and nothing else
was touched. -/
structure Cleared (now : Instant) (w : World) (boundary : Bucket) (w' : World) : Prop where
  clock : w'.now = now
  drained : ∀ key : Key, key.bucket < boundary → Drained (w.sight key) (w'.sight key)
  left : ∀ key : Key, ¬ key.bucket < boundary → Left (w.sight key) (w'.sight key)
  listed : ∀ bucket ∈ (w'.hot.activeBuckets now).1, ¬ bucket < boundary

/-- A live record is found through its bucket, so draining all listed buckets misses none. -/
theorem cleared_of_trimmed {boundary : Bucket} (orderly : Orderly now w)
    (trimmed : Trimmed now { w with hot := w.hot.expire now }
      ((w.hot.activeBuckets now).1.filter (· < boundary)) w') : Cleared now w boundary w' := by
  obtain rfl := orderly.serves.now
  have same (key : Key) :
      ({ w with hot := w.hot.expire w.now } : World).sight key = w.sight key :=
    World.sight_expire orderly.serves.scheduled
  refine ⟨trimmed.orderly.serves.now, fun key old => ?_, fun key young => ?_,
    fun bucket listed old => ?_⟩
  · by_cases member : key.bucket ∈ (w.hot.activeBuckets w.now).1.filter (· < boundary)
    · exact same key ▸ trimmed.drained key member
    · have left := same key ▸ trimmed.left key member
      have absent : (w.sight key).live? = none := by
        cases live : (w.sight key).live? with
        | none => rfl
        | some e =>
          refine (member (List.mem_filter.2 ⟨?_, decide_eq_true old⟩)).elim
          exact Hot.Store.mem_activeBuckets.2
            ⟨key, orderly.enumerable.indexed.mem_membersOf live⟩
      refine ⟨left.live?.trans absent, left.row.trans ?_⟩
      rw [Sight.pending, absent]
      exact (Traffic.add_zero _).symm
  · refine same key ▸ trimmed.left key fun member => young ?_
    exact of_decide_eq_true (List.mem_filter.1 member).2
  · obtain ⟨before, apart⟩ := trimmed.listed bucket listed
    have before := Hot.Store.mem_activeBuckets_of_expire before
    exact apart (List.mem_filter.2 ⟨before, decide_eq_true old⟩)

theorem cleared_of_trim (orderly : Orderly now w) {memory memory' : Flusher.Memory}
    {result : Except Error Unit}
    (reached : Reaches spared.answer (Flusher.trim c memory) w (.pure (memory', result)) w') :
    result = .ok () ∧ Cleared now w (c.boundaryAt now) w' := by
  obtain rfl := orderly.serves.now
  obtain ⟨boundary, w₁, told, rest⟩ := reached.of_bind
  obtain ⟨rfl, same⟩ := told.of_ask_bind.of_pure
  obtain rfl : w = w₁ := same.symm
  have rest := rest.of_ask_bind
  have listed : spared.answer (.hot .activeBuckets) w =
      (.ok (w.hot.activeBuckets w.now).1, { w with hot := w.hot.expire w.now }) := rfl
  have begins : Orderly w.now { w with hot := w.hot.expire w.now } :=
    ⟨⟨rfl, orderly.serves.uncancelled, orderly.serves.scheduled.expire _, orderly.serves.online,
      orderly.serves.retired⟩, orderly.enumerable.answer .activeBuckets⟩
  rw [listed] at rest
  obtain ⟨ok, trimmed⟩ := trimmed_of_drainEach begins rest
  exact ⟨ok, cleared_of_trimmed orderly trimmed⟩

/-- What was flushed before is not written again. -/
theorem Drained.of_flushed {d d' d'' : Sight} {key : Key} {boundary : Bucket}
    (flushed : d.Flushed key boundary d') (h : Drained d' d'') : Drained d d'' := by
  refine ⟨h.gone, h.row.trans ?_⟩
  rw [flushed.pending_eq, Traffic.add_zero]
  exact flushed.row

/-- A run of the compactor moves what is pending of the keys that it handles, and leaves the others
alone. -/
theorem sight_of_run (orderly : Orderly now w) {memory memory' : Compactor}
    {result : Except Error Report}
    (reached : Reaches spared.answer (memory.run c) w (.pure (memory', result)) w') :
    (∃ report, result = .ok report ∧ report.isCancelled = false) ∧ Orderly now w' ∧
      ∀ key, w'.sight key = w.sight key ∨
        (w.sight key).Flushed key (c.boundaryAt now) (w'.sight key) := by
  obtain ⟨serves, ⟨report, ok, covers⟩, sight⟩ :=
    sight_of_cycle transient_unfailing orderly.serves (fun _ _ _ => rfl) reached
  have enumerable : w'.hot.Enumerable w'.now :=
    Reaches.keeps (P := fun w => w.hot.Enumerable w.now)
      (fun request _ h => enumerable_answer spared h request)
      (orderly.serves.now.symm ▸ orderly.enumerable) reached
  refine ⟨⟨report, ok, covers.uncancelled⟩, ⟨serves, serves.now ▸ enumerable⟩, fun key => ?_⟩
  rw [sight, sightsAfter]
  split
  · exact .inr Sight.flushed_handled
  · exact .inl rfl

/-- A round of the flush service in stores that answer, at one instant, with nobody else at work.
Before the retention window no record is left and no bucket is listed, and the rows have grown by
just what was pending. In the window the counters are as they were. -/
theorem round_trims {lifespan : Int} {calls : List Hot.Call} {w : World}
    (history : w.hot = (Hot.Store.empty lifespan).afterCalls calls)
    (clocked : Hot.Call.Clocked calls w.now) (online : w.cold.isOffline = false)
    (unretired : w.cold.retired = []) (uncancelled : w.isCancelled = false) {c : Settings}
    (trims : c.config.trimExpiredBuckets = true) (memory : Flusher.Memory) :
    (∃ ended w', Reaches World.answer (Flusher.runOnce c memory) w (.pure ended) w') ∧
    ∀ memory' result w',
      Reaches World.answer (Flusher.runOnce c memory) w (.pure (memory', result)) w' →
      result = .ok () ∧
      (∀ bucket ∈ (w'.hot.activeBuckets w'.now).1, ¬ bucket < c.boundaryAt w.now) ∧
      ∀ key : Key, if key.bucket < c.boundaryAt w.now then
          (w'.sight key).live? = none ∧
            (w'.sight key).row = (w.sight key).row + (w.sight key).pending
        else (w'.sight key).live?.map (·.traffic) = (w.sight key).live?.map (·.traffic) := by
  refine ⟨⟨_, _, reaches_settle _ _⟩, fun memory' result w' reached => ?_⟩
  rw [← answer_spared] at reached
  have orderly : Orderly w.now w := by
    have enumerable : w.hot.Enumerable w.now := history ▸ .afterCalls clocked
    exact ⟨⟨rfl, uncancelled, enumerable.scheduled, online, unretired⟩, enumerable⟩
  obtain ⟨⟨compactor, _⟩, w₁, ran, rest⟩ := reached.of_bind
  obtain ⟨⟨report, rfl, entered⟩, orderly, sights⟩ := sight_of_run orderly ran
  dsimp only at rest
  rw [entered, trims] at rest
  obtain ⟨ok, cleared⟩ := cleared_of_trim orderly rest
  refine ⟨ok, cleared.clock.symm ▸ cleared.listed, fun key => ?_⟩
  split
  · next old =>
    have drained : Drained (w.sight key) (w'.sight key) := by
      rcases sights key with same | flushed
      · exact same ▸ cleared.drained key old
      · exact .of_flushed flushed (cleared.drained key old)
    exact ⟨drained.gone, drained.row⟩
  · next young =>
    rw [(cleared.left key young).live?]
    rcases sights key with same | flushed
    · rw [same]
    · exact flushed.traffic_eq young

/-- Two old buckets, and a cycle that handles one key. The record of the first bucket has left the
active index with everything pending, that of the second has no place in the cycle, and both are in
their rows after the round. -/
theorem round_trims_inactive :
    let key (hour : Int) (node : Id) : Key := ⟨⟨default, hour⟩, 1, .node, node⟩
    let calls : List Hot.Call := [.request ⟨2⟩ (.commit (key 0 1) (.ofNats 10 10) 0),
      .request ⟨1⟩ (.incrementAll [(key 0 1, .ofNats 10 10), (key 0 2, .ofNats 20 20),
        (key 1 3, .ofNats 30 30), (key 2 4, .ofNats 40 40)])]
    let w : World := {
      now := ⟨7200000000000⟩
      hot := (Hot.Store.empty 36000000000000).afterCalls calls }
    let c : Settings := ⟨default, 0, { maxKeysPerCycle := 1, trimExpiredBuckets := true }⟩
    (w.sight (key 0 1)).isActive = false ∧ (w.sight (key 0 1)).pending = .ofNats 10 10 ∧
    ∃ memory' w',
      Reaches World.answer (Flusher.runOnce c default) w (.pure (memory', .ok ())) w' ∧
      (w'.sight (key 0 1)).row = .ofNats 10 10 ∧ (w'.sight (key 1 3)).row = .ofNats 30 30 ∧
      (w'.sight (key 2 4)).live?.map (·.traffic) = some (.ofNats 40 40) ∧
      ∀ bucket ∈ (w'.hot.activeBuckets w'.now).1, ¬ bucket < (key 2 4).bucket := by
  intro key calls w c
  have history : w.hot = (Hot.Store.empty 36000000000000).afterCalls calls := rfl
  have clocked : Hot.Call.Clocked calls w.now := ⟨by decide, by decide, trivial⟩
  obtain ⟨⟨⟨memory', result⟩, w', ran⟩, all⟩ :=
    round_trims history clocked rfl rfl rfl (c := c) rfl default
  obtain ⟨rfl, listed, counted⟩ := all _ _ _ ran
  have first := counted (key 0 1)
  have second := counted (key 1 3)
  have third := counted (key 2 4)
  rw [if_pos (by decide +kernel)] at first second
  rw [if_neg (by decide +kernel)] at third
  refine ⟨by decide +kernel, by decide +kernel, memory', w', ran, first.2.trans ?_,
    second.2.trans ?_, third.trans ?_, listed⟩
  · decide +kernel
  · decide +kernel
  · decide +kernel

end Compaction

end Metering
