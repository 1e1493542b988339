import Metering.Proofs.Compaction.Arrivals
import Metering.Proofs.Ledger.Spans
import Metering.Proofs.Ledger.Window

/-!
# The hot tier covers the retention window

Queries read a bucket from the hot tier as long as it is in the retention window. A record is there
to be read as long as it has not expired, which it does a fixed time after its last write. So it is
there for the whole stay of its bucket in the window if the write was within the grace of the end of
the bucket. A grace of an hour or more makes that so for every write. A shorter one does not, and a
configuration may have one.

Results:
1. `Stage.Lasts.attend`: a record lasts until a deadline whatever else happens.
2. `live_in_window`: what was reported is found in the hot tier while its bucket is in the window.
3. `record_expires_in_window`: a run in which a record expires before its bucket leaves the window.
-/

namespace Metering

/-! ## Records that last -/

namespace Hot.Store

/-- The record of `key` is live, and does not expire before `deadline`. -/
def Lasts (s : Store) (now : Instant) (key : Key) (deadline : Instant) : Prop :=
  ∃ entry, s.live? now key = some entry ∧ deadline ≤ entry.expiry

variable {s t : Store} {now deadline : Instant} {key : Key}

theorem Lasts.of_eq (h : s.Lasts now key deadline) (same : t.live? now key = s.live? now key) :
    t.Lasts now key deadline := by
  unfold Lasts at h ⊢
  rwa [same]

/-- What has just been written lasts for a life span. -/
theorem lasts_of_written {entry : Entry} (written : t.records[key]? = some entry)
    (renewed : deadline ≤ entry.expiry) (early : now < deadline) : t.Lasts now key deadline :=
  ⟨entry, live?_eq_some.2 ⟨written, Int.lt_of_lt_of_le early renewed⟩, renewed⟩

theorem lasts_increment (renews : deadline ≤ now.addNanos s.lifespan) (early : now < deadline)
    {traffic : Traffic} (nonzero : traffic ≠ 0) :
    (s.increment now key traffic).Lasts now key deadline :=
  lasts_of_written ((records_increment ..).trans (if_pos ⟨rfl, nonzero⟩)) renews early

theorem Lasts.increment (h : s.Lasts now key deadline)
    (renews : deadline ≤ now.addNanos s.lifespan) (early : now < deadline) (key' : Key)
    (traffic : Traffic) : (s.increment now key' traffic).Lasts now key deadline := by
  by_cases own : key = key' ∧ traffic ≠ 0
  · obtain ⟨rfl, nonzero⟩ := own
    exact lasts_increment renews early nonzero
  · refine h.of_eq (live?_congr ?_ now)
    rw [records_increment, if_neg own]

theorem Lasts.incrementAll (h : s.Lasts now key deadline) (hs : s.Scheduled)
    (renews : deadline ≤ now.addNanos s.lifespan) (early : now < deadline)
    (entries : List (Key × Traffic)) : (s.incrementAll now entries).Lasts now key deadline := by
  induction entries generalizing s with
  | nil => exact h
  | cons entry entries ih =>
    refine ih (h.increment renews early entry.1 entry.2) (hs.increment now entry.1 entry.2) ?_
    rwa [lifespan_increment]

theorem Lasts.seed (h : s.Lasts now key deadline) (hs : s.Scheduled)
    (renews : deadline ≤ now.addNanos s.lifespan) (early : now < deadline) (key' : Key)
    (baseline : Traffic) : (s.seed now key' baseline).2.Lasts now key deadline := by
  by_cases own : key' = key
  · subst own
    exact lasts_of_written ((records_seed hs ..).trans (if_pos rfl)) renews early
  · exact h.of_eq (live?_seed_of_ne hs now own baseline)

theorem Lasts.pass (h : s.Lasts now key deadline) {later : Instant} (early : later < deadline) :
    s.Lasts later key deadline := by
  obtain ⟨entry, live, lasts⟩ := h
  exact lasts_of_written (live?_eq_some.1 live).1 lasts early

/-- A record that lasts is told by a point read and by the enumeration of its bucket. -/
theorem Lasts.found (h : s.Lasts now key deadline) (hs : s.Scheduled) (indexed : s.Indexed now) :
    (s.read now key).isPresent = true ∧
      ∃ record ∈ (s.readBucket now key.bucket).1, record.key = key := by
  obtain ⟨entry, live, -⟩ := h
  refine ⟨?_, entry.toRecord key, ?_, rfl⟩
  · simp only [read, live]
  · refine (mem_recordsOf hs indexed).2 ⟨rfl, ?_⟩
    exact congrArg (Option.map (·.toRecord key)) live

end Hot.Store

/-! ## Stages -/

/-- The record of `key` is not removed from outside. -/
def Occasion.Spares (key : Key) : Occasion → Prop
  | .incident (.removal key') => key' ≠ key
  | .clearing bucket => bucket ≠ key.bucket
  | _ => True

instance (key : Key) : DecidablePred (Occasion.Spares key)
  | .incident (.removal key') => inferInstanceAs (Decidable (key' ≠ key))
  | .clearing bucket => inferInstanceAs (Decidable (bucket ≠ key.bucket))
  | .incident (.arrival _ _) | .incident (.arrivals _) | .incident (.seeding _ _)
  | .incident (.passing _) | .incident .cancellation | .report _ _ | .reports _ _
  | .retirement _ _ | .sweep => .isTrue trivial

namespace Compaction

/-- The record of `key` was removed because its resource is gone. -/
def Occurrence.forgets (key : Key) : Occurrence → Bool
  | .forgetting key' (.ok _) => key' = key
  | _ => false

theorem Occurrence.ne_forgetting {key : Key} {o : Occurrence} (present : o.forgets key = false)
    (removed : Bool) : o ≠ .forgetting key (.ok removed) := by
  rintro rfl
  exact of_decide_eq_false present rfl

namespace Stage

/-- The record of `key` is live, and does not expire before `deadline`. -/
def Lasts (key : Key) (deadline : Instant) (s : Stage) : Prop :=
  s.world.hot.Lasts s.world.now key deadline

variable {key : Key} {deadline : Instant} {lifespan : Int} {s : Stage}

theorem Lasts.attend {l : Ledger} {occasion : Occasion} (h : s.Lasts key deadline)
    (orderly : s.Orderly lifespan) (spares : occasion.Spares key)
    (renews : deadline ≤ s.world.now.addNanos lifespan)
    (early : (s.attend l occasion).world.now < deadline) :
    (s.attend l occasion).Lasts key deadline := by
  have hs := orderly.scheduled
  have renews : deadline ≤ s.world.now.addNanos s.world.hot.lifespan :=
    orderly.lifespan.symm ▸ renews
  have now : s.world.now < deadline :=
    Int.lt_of_le_of_lt (Station.now_le_attend s occasion) early
  cases occasion with
  | incident incident =>
    cases incident with
    | arrival key' traffic => exact Hot.Store.Lasts.increment h renews now key' traffic
    | arrivals entries => exact Hot.Store.Lasts.incrementAll h hs renews now entries
    | seeding key' baseline => exact Hot.Store.Lasts.seed h hs renews now key' baseline
    | removal key' =>
      refine Hot.Store.Lasts.of_eq h ?_
      exact (Hot.Store.live?_forget ..).trans (if_neg (Ne.symm spares))
    | passing nanos => exact Hot.Store.Lasts.pass h early
    | cancellation => exact h
  | report lag e =>
    obtain ⟨side, metrics, eq⟩ := s.attend_report l lag e
    rw [eq]
    exact Hot.Store.Lasts.incrementAll h hs renews now _
  | reports lag entries =>
    obtain ⟨side, metrics, eq⟩ := s.attend_reports l lag entries
    rw [eq]
    exact Hot.Store.Lasts.incrementAll h hs renews now _
  | clearing bucket =>
    refine Hot.Store.Lasts.of_eq h ?_
    exact (orderly.indexed.live?_takeBucket hs bucket key).trans (if_neg (Ne.symm spares))
  | retirement type resource => exact h
  | sweep => exact Hot.Store.Lasts.of_eq h (Hot.Store.live?_expire hs _ key)

/-- A request that spares the bucket of a record lets it last. -/
theorem Lasts.answer (h : s.Lasts key deadline) (orderly : s.Orderly lifespan)
    {failure? : Option Error} {β : Type} {request : Request β} (spares : Spares key.bucket request)
    (present : (occurrence request (Stage.answer failure? request s).1).forgets key = false) :
    (Stage.answer failure? request s).2.Lasts key deadline := by
  obtain ⟨entry, live, lasts⟩ := h
  obtain same | ⟨markers, marked⟩ :=
    live?_of_spares orderly spares (Occurrence.ne_forgetting present)
  · exact ⟨entry, same.trans live, lasts⟩
  · exact ⟨entry.mark markers, marked.trans (congrArg (Option.map _) live), lasts⟩

/-- Since the log was `base`, the record of `key` lasts, unless its resource was found gone. -/
def LastsSince (base : List Occurrence) (key : Key) (deadline : Instant) (s : Stage) : Prop :=
  ∃ log, s.log = log ++ base ∧
    ((∀ o ∈ log, o.forgets key = false) → s.Lasts key deadline)

end Stage

end Compaction

namespace Station

open Compaction

/-- The record of `key` is not removed from outside, and its bucket not drained. -/
def Choice.Spares (key : Key) : Choice → Prop
  | .occasion o => o.Spares key
  | .drain bucket => bucket ≠ key.bucket
  | _ => True

instance (key : Key) : DecidablePred (Choice.Spares key)
  | .occasion o => inferInstanceAs (Decidable (o.Spares key))
  | .drain bucket => inferInstanceAs (Decidable (bucket ≠ key.bucket))
  | .cycle _ | .round _ | .trim _ | .move _ _ => .isTrue trivial

variable {l : Ledger} {key : Key} {deadline start : Instant} {lifespan : Int}
  {base : List Occurrence}

theorem ward_lasts (renews : deadline ≤ start.addNanos lifespan) :
    Ward l key.bucket lifespan (fun now => start ≤ now ∧ now < deadline) (Choice.Spares key)
      (Stage.LastsSince base key deadline) where
  drains spares := spares
  attends {s occasion} spares h within within' := by
    obtain ⟨log, eq, lasts⟩ := h
    have renews : deadline ≤ s.world.now.addNanos lifespan :=
      Int.le_trans renews (Int.add_le_add_right within.clock.1 lifespan)
    have attended : s.Lasts key deadline → (s.attend l occasion).Lasts key deadline :=
      fun lasts => lasts.attend within.toOrderly spares renews within'.clock.2
    obtain ⟨more, told⟩ := log_suffix_attend (l := l) s occasion
    refine ⟨more ++ log, by rw [← told, eq, List.append_assoc], fun present => ?_⟩
    exact attended (lasts fun o member => present o (List.mem_append_right more member))
  begins isCancelled h := by
    obtain ⟨log, eq, lasts⟩ := h
    refine ⟨.beginning :: log, congrArg (List.cons _) eq, fun present => ?_⟩
    exact lasts fun o member => present o (List.mem_cons_of_mem _ member)
  answers {s} failure? β request spares h within := by
    obtain ⟨log, eq, lasts⟩ := h
    refine ⟨occurrence request (Stage.answer failure? request s).1 :: log,
      congrArg (List.cons _) eq, fun present => ?_⟩
    refine Stage.Lasts.answer (lasts fun o member => ?_) within.toOrderly spares ?_
    · exact present o (List.mem_cons_of_mem _ member)
    · exact present _ List.mem_cons_self

/-- A bucket that is in the window at the end of a run was in it all the time. -/
theorem throughout_within {s : Station} (orderly : s.Orderly lifespan) {schedule : List Choice}
    {kept : Bucket} {clock : Instant → Prop}
    (inside : l.compaction.boundaryAt (s.play l schedule).world.now ≤ kept)
    (clocked : ∀ t, s.world.now ≤ t → t ≤ (s.play l schedule).world.now →
      l.compaction.boundaryAt t ≤ kept → clock t) :
    s.Throughout l (·.Within l.compaction kept lifespan clock) schedule := by
  have times := Throughout.of_now (l := l) (s := s)
    (P := fun t => l.compaction.boundaryAt t ≤ kept ∧ clock t) fun t from' until' => by
      have inside := Int.le_trans (Compaction.Settings.boundaryAt_mono until') inside
      exact ⟨inside, clocked t from' until' inside⟩
  exact ((throughout_orderly orderly schedule).and times).mono
    fun _ good => ⟨good.1, good.2.1, good.2.2⟩

/-- Work that begins after the station was idle spares a bucket in the window, unless it drains
it. -/
theorem working_shield {kept : Bucket} {s : Station} {schedule : List Choice} (idle : s.IsIdle)
    (undrained : ∀ choice ∈ schedule, choice ≠ .drain kept)
    (within : s.Throughout l (·.Within l.compaction kept lifespan fun _ => True) schedule) :
    Invariant.Working (shield l.compaction kept) (fun _ => ()) (fun _ => True)
      (s.play l schedule) := by
  have ward : Ward l kept lifespan (fun _ => True) (· ≠ .drain kept) fun _ => True :=
    { drains := fun other same => other (congrArg _ same)
      attends := fun _ _ _ _ => trivial
      begins := fun _ _ => trivial
      answers := fun _ _ _ _ _ _ => trivial }
  refine (ward.invariant.play undrained within trivial ?_).2
  unfold Invariant.Working
  rw [idle]
  trivial

/-- A report lasts for a life span, if its bucket is in the window for so long and no one removes or
drains it. -/
theorem lasts_of_report {before after : List Choice} {s₀ s s' : Station}
    (orderly : s₀.Orderly lifespan) (idle : s₀.IsIdle) (reached : s₀.play l before = s)
    {lag : Nat} {e : Ledger.Entry}
    (keyed : e.keyed (l.zone.bucketOf (s.world.now.addNanos (-lag))) = .ok (key, e.traffic))
    (nonzero : e.traffic ≠ 0)
    (reached' : s.play l (.occasion (.report lag e) :: after) = s')
    (undrained : ∀ choice ∈ before, choice ≠ .drain key.bucket)
    (spared : ∀ choice ∈ after, choice.Spares key)
    {log : List Occurrence} (told : s'.log = log ++ s.log)
    (present : ∀ o ∈ log, o.forgets key = false)
    (inside : l.compaction.boundaryAt s'.world.now ≤ key.bucket)
    (early : s'.world.now < s.world.now.addNanos lifespan) :
    s'.Lasts key (s.world.now.addNanos lifespan) := by
  let report : Choice := .occasion (.report lag e)
  have time : s.world.now = (s.step l report).world.now := by
    obtain ⟨side, metrics, eq⟩ := s.attend_report l lag e
    exact (congrArg (·.world.now) eq).symm
  have order : (s.step l report).world.now ≤ s'.world.now :=
    reached' ▸ now_le_play (s.step l report) after
  -- until the report, work has come to spare the bucket
  have played : s₀.play l (before ++ [report]) = s.step l report := by
    rw [← reached]
    exact List.foldl_append
  have spares : ∀ choice ∈ before ++ [report], choice ≠ .drain key.bucket := by
    intro choice member
    rcases List.mem_append.1 member with earlier | last
    · exact undrained choice earlier
    · rintro rfl
      exact nomatch List.mem_singleton.1 last
  have within : s₀.Throughout l (·.Within l.compaction key.bucket lifespan fun _ => True)
      (before ++ [report]) := by
    refine throughout_within orderly ?_ fun _ _ _ _ => trivial
    rw [played]
    exact Int.le_trans (Compaction.Settings.boundaryAt_mono order) inside
  have working := working_shield idle spares within
  rw [played] at working
  -- the report is the first that lasts, and what comes after spares it
  have orderly : s.Orderly lifespan := reached ▸ (throughout_orderly orderly before).last
  have start : (s.step l report).LastsSince s.log key (s.world.now.addNanos lifespan) := by
    obtain ⟨side, metrics, eq⟩ := s.attend_report l lag e
    refine ⟨[.arrival (s.writes l lag [e])], congrArg Stage.log eq, fun _ => ?_⟩
    have counted : (s.attend l (.report lag e)).Lasts key (s.world.now.addNanos lifespan) := by
      rw [eq]
      unfold Stage.writes
      rw [Ledger.writesOf_of_keyed keyed nonzero]
      refine Hot.Store.lasts_increment ?_ ?_ nonzero
      · exact orderly.lifespan.symm ▸ Int.le_refl _
      · exact Int.lt_of_le_of_lt (time ▸ order) early
    exact counted
  have within : (s.step l report).Throughout l (·.Within l.compaction key.bucket lifespan
      fun now => s.world.now ≤ now ∧ now < s.world.now.addNanos lifespan) after := by
    have played : (s.step l report).play l after = s' := reached'
    have orderly : (s.step l report).Orderly lifespan := orderly.attend l (.report lag e)
    refine throughout_within orderly (played ▸ inside) fun t from' until' _ => ?_
    rw [played] at until'
    exact ⟨time ▸ from', Int.lt_of_le_of_lt until' early⟩
  obtain ⟨⟨log', told', lasts⟩, -⟩ :=
    (ward_lasts (Int.le_refl _)).invariant.play spared within start working
  have played : (s.step l report).play l after = s' := reached'
  rw [played] at told' lasts
  have same : log' = log := List.append_cancel_right (told'.symm.trans told)
  exact lasts (same ▸ present)

/-- What a ledger counts for a resource stands in the hot tier as long as its bucket is in the
retention window, if no one removes or drains it and the write was within the grace of the end of
the bucket. That is so for every write if the grace is an hour or more. -/
theorem live_in_window {config : Config} {hasColdStore : Bool} {resolver : Resolver}
    (built : Ledger.build config hasColdStore resolver = .ok l)
    (fits : config.hot.recordTtlSecs * Instant.nanosPerSecond ≤ Side.longestSpan)
    {earlier before after : List Choice} {now : Instant} {s s' : Station}
    (idle : ((Station.empty l.emptyHotStore.lifespan now).play l earlier).IsIdle)
    (reached : (Station.empty l.emptyHotStore.lifespan now).play l (earlier ++ before) = s)
    {lag : Nat} {e : Ledger.Entry}
    (keyed : e.keyed (l.zone.bucketOf (s.world.now.addNanos (-lag))) = .ok (key, e.traffic))
    (nonzero : e.traffic ≠ 0)
    (reached' : s.play l (.occasion (.report lag e) :: after) = s')
    (undrained : ∀ choice ∈ before, choice ≠ .drain key.bucket)
    (spared : ∀ choice ∈ after, choice.Spares key)
    {log : List Occurrence} (told : s'.log = log ++ s.log)
    (present : ∀ o ∈ log, o.forgets key = false)
    (inside : l.query.boundaryAt s'.world.now ≤ key.bucket)
    (covers : 3600 ≤ config.hot.ttlGraceSecs ∨
      key.bucket.stop ≤ s.world.now.addSeconds config.hot.ttlGraceSecs ∨
      s'.world.now < s.world.now.addSeconds config.hot.recordTtlSecs) :
    (s'.world.hot.read s'.world.now key).isPresent = true ∧
      ∃ record ∈ (s'.world.hot.readBucket s'.world.now key.bucket).1, record.key = key := by
  have aligned := Ledger.aligned_of_build built fits
  have bucket := Ledger.Entry.bucket_of_keyed keyed
  have same : key.bucket.zone = l.zone := congrArg Bucket.zone bucket
  have started : key.bucket.start ≤ s.world.now := by
    rw [bucket]
    exact Int.le_trans Zone.start_bucketOf_le (s.world.now.ago_le lag)
  have inside : l.compaction.boundaryAt s'.world.now ≤ key.bucket := aligned.boundary _ ▸ inside
  have early : s'.world.now < s.world.now.addNanos l.emptyHotStore.lifespan := by
    rcases covers with hour | covers | early
    · refine aligned.outlives same (Ledger.Aligned.covers_of_hour ?_ started) inside
      simp only [Instant.nanosPerSecond]
      omega
    · exact aligned.outlives same covers inside
    · rwa [Ledger.lifespan_of_build built fits]
  have start := throughout_orderly (l := l) (orderly_empty l.emptyHotStore.lifespan now) earlier
  have split : ((Station.empty l.emptyHotStore.lifespan now).play l earlier).play l before = s := by
    rw [← reached]
    exact List.foldl_append.symm
  have lasts := lasts_of_report start.last idle split keyed nonzero reached' undrained spared told
    present inside early
  have orderly := reached' ▸ (throughout_orderly (l := l)
    (split ▸ (throughout_orderly start.last before).last : s.Orderly _)
    (.occasion (.report lag e) :: after)).last
  exact lasts.found orderly.scheduled orderly.indexed

/-- A record that was flushed is found until its hour leaves the window, a day later. -/
theorem live_after_a_day :
    let zone : Zone := { offset := 28800 }
    let e : Ledger.Entry := ⟨1, "node", 1, .ofNats 10 10⟩
    let key : Key := ⟨⟨zone, 474804⟩, 1, .node, 1⟩
    let l : Ledger := {
      config := {}, zone, compaction := ⟨zone, 86400000000000, {}⟩
      query := ⟨zone, 86400000000000, {}, .passthrough⟩
      quota := ⟨"traffic", 2678400000000000⟩
      alert := ⟨"traffic", [80, 90, 100], 2678400000000000⟩ }
    let day : List Choice := .cycle false :: (Choice.moves 12 ++
      [.occasion (.incident (.passing 89340000000000)), .occasion .sweep])
    let s := (Station.empty l.emptyHotStore.lifespan (.ofSeconds 1709266200)).play l
      (.occasion (.report 0 e) :: day)
    Ledger.build {} true .passthrough = .ok l ∧ s.row key = .ofNats 10 10 ∧
      l.query.boundaryAt s.world.now ≤ key.bucket ∧
      (s.world.hot.read s.world.now key).isPresent = true ∧
      ∃ record ∈ (s.world.hot.readBucket s.world.now key.bucket).1, record.key = key := by
  intro zone e key l day s
  have built : Ledger.build {} true .passthrough = .ok l :=
    Ledger.build_eq (by decide +kernel) rfl rfl
  have inside : l.query.boundaryAt s.world.now ≤ key.bucket := by decide +kernel
  have keyed : e.keyed key.bucket = .ok (key, e.traffic) :=
    Ledger.Entry.keyed_eq (by decide +kernel)
  refine ⟨built, by decide +kernel, inside, ?_⟩
  -- nothing has happened before the report
  let s₀ := Station.empty l.emptyHotStore.lifespan (.ofSeconds 1709266200)
  have idle : (s₀.play l []).IsIdle := rfl
  have reached : s₀.play l ([] ++ []) = s₀ := rfl
  have reached' : s₀.play l (.occasion (.report 0 e) :: day) = s := rfl
  have told : s.log = s.log ++ s₀.log := (List.append_nil _).symm
  refine live_in_window built (by decide +kernel) idle reached keyed (by decide +kernel) reached'
    (List.forall_mem_nil _) ?_ told ?_ inside (.inl (by decide +kernel))
  · decide +kernel
  · decide +kernel

/-- With a retention of an hour and a grace of 61 seconds, a record that was written as its hour
began has expired 3661 seconds later, while the hour is in the window for almost an hour more. -/
theorem record_expires_in_window :
    let zone : Zone := { offset := 28800 }
    let config : Config := { hot := { retentionHours := 1, ttlGraceSecs := 61 } }
    let key : Key := ⟨⟨zone, 474804⟩, 1, .node, 1⟩
    let l : Ledger := {
      config, zone, compaction := ⟨zone, 3600000000000, {}⟩
      query := ⟨zone, 3600000000000, {}, .passthrough⟩
      quota := ⟨"traffic", 2678400000000000⟩
      alert := ⟨"traffic", [80, 90, 100], 2678400000000000⟩ }
    let s := (Station.empty l.emptyHotStore.lifespan key.bucket.start).play l
      [.occasion (.report 0 ⟨1, "node", 1, .ofNats 10 10⟩),
        .occasion (.incident (.passing 3661000000000))]
    Ledger.build config true .passthrough = .ok l ∧
      l.query.boundaryAt s.world.now ≤ key.bucket ∧
      (s.world.hot.read s.world.now key).isPresent = false ∧
      (s.world.hot.readBucket s.world.now key.bucket).1 = [] := by
  intro zone config key l s
  have built : Ledger.build { hot := { retentionHours := 1, ttlGraceSecs := 61 } } true
      .passthrough = .ok l := Ledger.build_eq (by decide +kernel) rfl rfl
  refine ⟨built, ?_, ?_, ?_⟩ <;> decide +kernel

end Station

end Metering
