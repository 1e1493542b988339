import Metering.Proofs.Hot.Buckets
import Metering.Proofs.Ledger.Rounds

/-!
# Work spares the retention window

A cycle deletes records of buckets before the retention window only, and a round drains such buckets
only. So as long as a bucket is in the window, no work takes its records out of the hot store unless
it is told to drain that bucket. A record may be marked, but its counter and its expiry stay.

Here no key is followed on its own. `shield` is a monitor without a state, which work obeys as long
as a bucket is in the window. It also says that work writes to the rows of hot counters only.

Results:
1. `ensures_shield_run`, `ensures_shield_runOnce`, `ensures_shield_drain`: all work but a drain of
   the bucket spares it.
2. `Stage.live?_of_spares`: what a request that spares a bucket does to a record in it.
3. `Ward.invariant`: what such requests keep is an invariant of a station.
-/

namespace Metering

namespace Compaction

open Monitor

/-- The request leaves the records of a bucket where they are, but for those of a gone resource, and
writes to rows of hot counters only. -/
def Spares (kept : Bucket) {β : Type} (request : Request β) : Prop :=
  match request with
  | .hot (.settle key purge) => key.bucket = kept → purge = false
  | .hot (.takeBucket bucket) => bucket ≠ kept
  | .hot (.increment key _) => key.bucket ≠ kept
  | .hot (.activeKeys _) | .hot (.snapshot _) | .hot (.commit _ _ _) | .hot (.forget _)
  | .hot .activeBuckets => True
  | .cold (.accumulate target bucket _) => ∃ key, (⟨bucket, target⟩ : Cold.RowKey) = .ofKey key
  | .hot _ | .cold _ | .side _ => False
  | .now | .isCancelled | .record _ => True

/-- The bucket is in the window at the time, and the records of a bucket are its own. -/
def Faithful (c : Settings) (kept : Bucket) {β : Type} (request : Request β) (answer : β) : Prop :=
  match request, answer with
  | .now, now => c.boundaryAt now ≤ kept
  | .hot (.takeBucket bucket), .ok records => ∀ r ∈ records, r.key.bucket = bucket
  | _, _ => True

/-- Allows what spares a bucket. -/
def shield (c : Settings) (kept : Bucket) : Monitor Request Unit where
  allows request _ := Spares kept request
  sound := Faithful c kept
  after _ _ _ := ()

variable {c : Settings} {kept boundary : Bucket} {key : Key}

theorem neutral_shield {β : Type} {request : Request β} (spares : Spares kept request) :
    (shield c kept).Neutral request :=
  fun _ => ⟨spares, fun _ => rfl⟩

theorem ne_of_before {bucket : Bucket} (old : bucket < boundary) (le : boundary ≤ kept) :
    bucket ≠ kept := by
  rintro rfl
  exact Int.not_le.2 old le

/-- What the work on a key asks for spares a bucket that is not before the boundary. -/
theorem ignores_shield (le : boundary ≤ kept) (key : Key) :
    Ignores (shield c kept) key boundary where
  settle := neutral_shield fun _ => rfl
  purge old := neutral_shield fun same => (ne_of_before old le same).elim
  commit _ _ := neutral_shield trivial
  forget := neutral_shield trivial
  write _ := neutral_shield ⟨key, rfl⟩
  isCancelled := neutral_shield trivial
  record _ := neutral_shield trivial

/-! ## Cycles -/

theorem overlooks_shield (le : boundary ≤ kept) : Overlooks (shield c kept) boundary where
  ignores := ignores_shield le
  snapshot _ := neutral_shield trivial

/-- Where work reads the clock, the bucket is in the window. -/
theorem ensures_shield_boundary :
    (shield c kept).Ensures () c.boundary fun boundary _ => boundary ≤ kept :=
  Ensures.bind (P := fun now _ => c.boundaryAt now ≤ kept)
    (.ask trivial fun _ faithful => faithful) fun _ _ le => .pure le

theorem ensures_shield_cycle (streaks : Streaks) :
    (shield c kept).Ensures () (cycle c streaks) fun _ _ => True := by
  refine Ensures.bind (P := fun _ _ => True) (.ask trivial fun _ _ => trivial) ?_
  rintro (e | keys) _ -
  · exact .pure trivial
  · refine Ensures.bind ensures_shield_boundary fun boundary _ le => ?_
    exact .silent (silent_batches (overlooks_shield le) c _ _) fun _ => trivial

theorem ensures_shield_run (memory : Compactor) :
    (shield c kept).Ensures () (memory.run c) fun _ _ => True := by
  refine Ensures.bind (P := fun _ _ => True) (.ask trivial fun _ _ => trivial) ?_
  intro isCancelled _ _
  split
  · exact .pure trivial
  · refine Ensures.bind (ensures_shield_cycle memory.streaks) ?_
    rintro ⟨streaks, result⟩ _ -
    refine .silent (silent_conclude (fun _ => ?_) c memory streaks result) fun _ => trivial
    exact neutral_shield trivial

/-! ## Drains -/

/-- The drain of another bucket counts again only what it took from there. -/
theorem ensures_shield_drain {bucket : Bucket} (other : bucket ≠ kept) (memory : Compactor) :
    (shield c kept).Ensures () (drain c memory bucket) fun _ _ => True := by
  refine Ensures.bind (P := fun result _ => Faithful c kept (.hot (.takeBucket bucket)) result)
    (.ask other fun _ faithful => faithful) ?_
  rintro (e | records) _ faithful
  · exact .pure trivial
  · refine Ensures.bind (P := fun _ _ => True) (.all_silent ?_ fun _ => trivial) fun _ _ _ =>
      .pure trivial
    intro task made
    obtain ⟨record, member, rfl⟩ := List.mem_map.1 made
    have own : record.key.bucket = bucket := faithful record (List.mem_filter.1 member).1
    have apart : record.key.bucket ≠ kept := own ▸ other
    exact silent_drainRecord (ignores_shield (Int.le_refl _) record.key) _ (neutral_shield apart)

theorem ensures_shield_drainEach {buckets : List Bucket}
    (others : ∀ bucket ∈ buckets, bucket ≠ kept) (memory : Flusher.Memory) :
    (shield c kept).Ensures () (Flusher.drainEach c buckets memory) fun _ _ => True := by
  induction buckets generalizing memory with
  | nil => exact .pure trivial
  | cons bucket rest ih =>
    refine Ensures.bind (P := fun _ _ => True) (.ask trivial fun _ _ => trivial) ?_
    intro isCancelled _ _
    split
    · exact .pure trivial
    · refine Ensures.bind (ensures_shield_drain (others bucket List.mem_cons_self) memory.2) ?_
      rintro ⟨compactor, result⟩ _ -
      cases result with
      | error e => exact .pure trivial
      | ok report => exact ih (fun bucket member => others bucket (List.mem_cons_of_mem _ member)) _

/-- A round drains only buckets that have left the window. -/
theorem ensures_shield_runOnce (memory : Flusher.Memory) :
    (shield c kept).Ensures () (Flusher.runOnce c memory) fun _ _ => True := by
  refine Ensures.bind (ensures_shield_run memory.2) ?_
  rintro ⟨compactor, result⟩ _ -
  cases result with
  | error e => exact .pure trivial
  | ok report =>
    dsimp only
    split
    · exact .pure trivial
    · refine Ensures.bind ensures_shield_boundary fun boundary _ le => ?_
      refine Ensures.bind (P := fun _ _ => True) (.ask trivial fun _ _ => trivial) ?_
      intro result _ _
      cases result with
      | error e => exact .pure trivial
      | ok buckets =>
        refine ensures_shield_drainEach (fun bucket member => ?_) _
        exact ne_of_before (of_decide_eq_true (List.mem_filter.1 member).2) le

/-! ## Stages -/

namespace Stage

/-- What no request and no occasion changes of a hot store: it finds what is due, it finds the
records of a bucket, and records live as long as they did. -/
structure Orderly (lifespan : Int) (s : Stage) : Prop where
  scheduled : s.world.hot.Scheduled
  indexed : s.world.hot.Indexed s.world.now
  lifespan : s.world.hot.lifespan = lifespan

variable {lifespan : Int} {s : Stage}

/-- A call at a stage keeps its order. -/
theorem Orderly.call (h : s.Orderly lifespan) {α : Type} (request : Hot.Request α) {s' : Stage}
    (now : s'.world.now = s.world.now)
    (hot : s'.world.hot = (s.world.hot.answer s.world.now request).2) : s'.Orderly lifespan := by
  refine ⟨?_, ?_, ?_⟩
  · rw [hot]
    exact scheduled_answer h.scheduled _ request
  · rw [hot, now]
    exact h.indexed.answer h.scheduled request
  · rw [hot]
    exact (Hot.Store.lifespan_answer h.scheduled _ request).trans h.lifespan

theorem Orderly.answer (h : s.Orderly lifespan) (failure? : Option Error) {β : Type}
    (request : Request β) : (Stage.answer failure? request s).2.Orderly lifespan := by
  cases request with
  | hot r =>
    cases failure? with
    | none => exact h.call r rfl rfl
    | some e => exact ⟨h.scheduled, h.indexed, h.lifespan⟩
  | _ => cases failure? <;> exact ⟨h.scheduled, h.indexed, h.lifespan⟩

theorem Orderly.attend (h : s.Orderly lifespan) (l : Ledger) (occasion : Occasion) :
    (s.attend l occasion).Orderly lifespan := by
  have meets : ∀ incident, (s.meet incident).Orderly lifespan := by
    intro incident
    cases incident with
    | arrival key traffic => exact h.call (.increment key traffic) rfl rfl
    | arrivals entries => exact h.call (.incrementAll entries) rfl rfl
    | seeding key baseline => exact h.call (.seed key baseline) rfl rfl
    | removal key => exact h.call (.forget key) rfl rfl
    | passing nanos =>
      exact ⟨h.scheduled, h.indexed.pass (Int.le_add_of_nonneg_right (Int.natCast_nonneg nanos)),
        h.lifespan⟩
    | cancellation => exact ⟨h.scheduled, h.indexed, h.lifespan⟩
  cases occasion with
  | incident incident => exact meets incident
  | report lag e =>
    obtain ⟨side, metrics, eq⟩ := s.attend_report l lag e
    rw [eq]
    obtain ⟨scheduled, indexed, lifespan⟩ := meets (.arrivals (s.writes l lag [e]))
    exact ⟨scheduled, indexed, lifespan⟩
  | reports lag entries =>
    obtain ⟨side, metrics, eq⟩ := s.attend_reports l lag entries
    rw [eq]
    obtain ⟨scheduled, indexed, lifespan⟩ := meets (.arrivals (s.writes l lag entries))
    exact ⟨scheduled, indexed, lifespan⟩
  | clearing bucket => exact h.call (.takeBucket bucket) rfl rfl
  | retirement type resource => exact ⟨h.scheduled, h.indexed, h.lifespan⟩
  | sweep => exact h.call .activeBuckets rfl rfl

/-- A request that spares its bucket leaves a record live, unless it finds the resource gone; it may
mark the record. -/
theorem live?_of_spares (h : s.Orderly lifespan) {failure? : Option Error} {β : Type}
    {request : Request β} (spares : Spares key.bucket request)
    (present : ∀ removed, occurrence request (Stage.answer failure? request s).1 ≠
      .forgetting key (.ok removed)) :
    (Stage.answer failure? request s).2.live? key = s.live? key ∨
      ∃ markers, (Stage.answer failure? request s).2.live? key =
        (s.live? key).map (·.mark markers) := by
  have hs := h.scheduled
  cases request with
  | hot r =>
    cases failure? with
    | some e => exact .inl rfl
    | none =>
      cases r with
      | activeKeys limit => exact .inl (Hot.Store.live?_expire hs _ key)
      | activeBuckets => exact .inl (Hot.Store.live?_expire hs _ key)
      | snapshot keys => exact .inl rfl
      | commit key' expected markers =>
        by_cases own : key' = key
        · subst own
          exact .inr ⟨markers, Hot.Store.live?_commit hs _ key' expected markers⟩
        · exact .inl (Hot.Store.live?_commit_of_ne hs _ own expected markers)
      | settle key' purge =>
        by_cases own : key' = key
        · subst own
          obtain rfl := spares rfl
          exact .inl (Hot.Store.live?_settle hs _ key' false)
        · exact .inl (Hot.Store.live?_settle_of_ne hs _ own purge)
      | increment key' traffic =>
        have ne : key' ≠ key := fun same => spares (congrArg Key.bucket same)
        exact .inl (Hot.Store.live?_increment_of_ne _ _ ne traffic)
      | takeBucket bucket =>
        have left := h.indexed.live?_takeBucket hs bucket key
        exact .inl (left.trans (if_neg (Ne.symm spares)))
      | forget key' =>
        have ne : key ≠ key' := by
          rintro rfl
          exact present _ rfl
        exact .inl ((Hot.Store.live?_forget ..).trans (if_neg ne))
      | _ => exact spares.elim
  | _ => cases failure? <;> exact .inl rfl

/-! ## Wards -/

/-- The bucket is in the window, at a time as `clock` says. -/
structure Within (c : Settings) (kept : Bucket) (lifespan : Int) (clock : Instant → Prop)
    (s : Stage) : Prop extends s.Orderly lifespan where
  early : c.boundaryAt s.world.now ≤ kept
  clock : clock s.world.now

variable {clock : Instant → Prop}

theorem Within.answer (h : s.Within c kept lifespan clock) (failure? : Option Error) {β : Type}
    (request : Request β) : (Stage.answer failure? request s).2.Within c kept lifespan clock := by
  have now : (Stage.answer failure? request s).2.world.now = s.world.now := now_answer request
  exact ⟨h.toOrderly.answer failure? request, now ▸ h.early, now ▸ h.clock⟩

theorem Within.begun (h : s.Within c kept lifespan clock) (isCancelled : Bool) :
    (s.begun isCancelled).Within c kept lifespan clock :=
  ⟨⟨h.scheduled, h.indexed, h.lifespan⟩, h.early, h.clock⟩

theorem Within.faithful (h : s.Within c kept lifespan clock) (failure? : Option Error) {β : Type}
    (request : Request β) : Faithful c kept request (Stage.answer failure? request s).1 := by
  cases request with
  | hot r =>
    cases r with
    | takeBucket bucket =>
      cases failure? with
      | none =>
        intro r member
        exact ((Hot.Store.mem_recordsOf h.scheduled h.indexed).1 member).1
      | some e => trivial
    | _ => trivial
  | now => cases failure? <;> exact h.early
  | _ => trivial

end Stage

end Compaction

namespace Station

open Compaction Monitor

variable {l : Ledger} {lifespan : Int}

theorem throughout_orderly {s : Station} (h : s.Orderly lifespan) (schedule : List Choice) :
    s.Throughout l (·.Orderly lifespan) schedule := by
  have fit : ∀ choice ∈ schedule, (fun _ => True) choice := fun _ _ => trivial
  refine throughout ?_ ?_ ?_ fit h
  · exact fun _ h => h.attend l _
  · exact fun _ h => ⟨h.scheduled, h.indexed, h.lifespan⟩
  · exact fun _ _ request _ h => h.answer _ request

theorem orderly_empty (lifespan : Int) (now : Instant) :
    (Station.empty lifespan now).Orderly lifespan :=
  ⟨Hot.Store.scheduled_empty lifespan, Hot.Store.indexed_empty lifespan now, rfl⟩

/-- What has to be shown of requests that spare a bucket. -/
structure Ward (l : Ledger) (kept : Bucket) (lifespan : Int) (clock : Instant → Prop)
    (fits : Choice → Prop) (inv : Stage → Prop) : Prop where
  drains : ∀ {bucket : Bucket}, fits (.drain bucket) → bucket ≠ kept
  attends : ∀ {s : Stage} {occasion : Occasion}, fits (.occasion occasion) → inv s →
    s.Within l.compaction kept lifespan clock →
    (s.attend l occasion).Within l.compaction kept lifespan clock → inv (s.attend l occasion)
  begins : ∀ {s : Stage} (isCancelled : Bool), inv s → inv (s.begun isCancelled)
  answers : ∀ {s : Stage} (failure? : Option Error) {β : Type} {request : Request β},
    Spares kept request → inv s → s.Within l.compaction kept lifespan clock →
      inv (Stage.answer failure? request s).2

variable {kept : Bucket} {clock : Instant → Prop} {fits : Choice → Prop} {inv : Stage → Prop}

/-- All work spares a bucket in the window, so what is kept step by step is an invariant. -/
theorem Ward.invariant (h : Ward l kept lifespan clock fits inv) :
    Invariant l (shield l.compaction kept) (fun _ => ()) () (fun _ => True) fits
      (·.Within l.compaction kept lifespan clock) inv where
  attends fit held within within' := ⟨h.attends fit held within within', rfl⟩
  begins isCancelled _ held := ⟨h.begins isCancelled held, rfl⟩
  cycles memory _ := ensures_shield_run memory
  rounds memory _ := ensures_shield_runOnce memory
  drains memory fit := ensures_shield_drain (h.drains fit) memory
  trims memory _ within old := ensures_shield_drain (ne_of_before old within.early) memory
  follows {path failure?} _ := {
    tracks := fun _ _ => rfl
    neutral := fun request s _ within => by
      refine Stage.Within.answer ?_ failure? request
      exact Stage.before_keeps (fun within => within.begun _) within
    allowed := fun request s spares held within _ => by
      have ready : inv (s.before request) ∧
          (s.before request).Within l.compaction kept lifespan clock :=
        ⟨Stage.before_keeps (h.begins _) held,
          Stage.before_keeps (fun within => within.begun _) within⟩
      exact ⟨h.answers failure? spares ready.1 ready.2, ready.2.faithful failure? request⟩ }

end Station

end Metering
