import Metering.Compaction.Flusher
import Metering.Proofs.Compaction.Protocol
import Metering.Proofs.Compaction.Stage
import Metering.Proofs.Ledger.Writing

/-!
# A ledger at its stores

A station is a ledger at its stores, with the work of its compactor or its flush service that is
under way, if any. A schedule says what happens next: an occasion apart from the work, work that
begins, or one move of the work under way, in which a call may fail.

The work of a flush service is a whole round, a cycle and the drains after it. A round lets other
work in between its parts; such runs are covered too, with a cycle and drains of their own in its
place.

Results:
1. `Stage.attend_report`, `Stage.attend_reports`: a report to the ledger is an arrival of its
   writes.
2. `Throughout.of_log`: what the log of a run does not tell did not happen at any time in it.
3. `Invariant.play`: what all that can happen keeps holds throughout a schedule, while the work
   under way obeys a monitor.
-/

namespace Metering

open Compaction Monitor

/-- Something that happens apart from the work of the compactor. -/
inductive Occasion
  | incident (incident : Incident)
  /-- The ledger counts the traffic of a resource, which it was told some nanoseconds ago. -/
  | report (lag : Nat) (entry : Ledger.Entry)
  /-- The ledger counts the traffic of a batch. -/
  | reports (lag : Nat) (entries : List Ledger.Entry)
  /-- A bucket is removed. -/
  | clearing (bucket : Bucket)
  /-- The cold tier takes no more writes for a resource. -/
  | retirement (type : ResourceType) (resource : Id)
  /-- What has expired is dropped. -/
  | sweep

/-- The occasion offers a baseline. -/
def Occasion.Seeds : Occasion → Prop
  | .incident (.seeding _ _) => True
  | _ => False

namespace Compaction.Stage

variable (l : Ledger)

/-- The writes of a batch that is told to the ledger now, or was some nanoseconds ago. -/
def writes (s : Stage) (lag : Nat) (entries : List Ledger.Entry) : List (Key × Traffic) :=
  Ledger.writesOf (l.zone.bucketOf (s.world.now.addNanos (-lag))) entries

/-- The stage after an occasion. -/
def attend (s : Stage) : Occasion → Stage
  | .incident incident => s.meet incident
  | .report lag e =>
    { world := ((l.increment e.subscription e.tag e.resource e.traffic).run.settle
        (World.late lag) s.world).2
      log := .arrival (s.writes l lag [e]) :: s.log }
  | .reports lag entries =>
    { world := ((l.incrementAll entries).run.settle (World.late lag) s.world).2
      log := .arrival (s.writes l lag entries) :: s.log }
  | .clearing bucket =>
    { s with world := { s.world with hot := (s.world.hot.takeBucket s.world.now bucket).2 } }
  | .retirement type resource =>
    { s with world := { s.world with
        cold := { s.world.cold with retired := (type, resource) :: s.world.cold.retired } } }
  | .sweep => { s with world := { s.world with hot := s.world.hot.expire s.world.now } }

/-- The stage when some work begins. -/
def begun (s : Stage) (isCancelled : Bool) : Stage :=
  ⟨{ s.world with isCancelled }, .beginning :: s.log⟩

/-- A drain begins when it takes its bucket, also where it is part of a round. -/
def before {β : Type} (request : Request β) (s : Stage) : Stage :=
  match request with
  | .hot (.takeBucket _) => s.begun s.world.isCancelled
  | _ => s

theorem before_keeps {P : Stage → Prop} {s : Stage}
    (begins : P s → P (s.begun s.world.isCancelled)) {β : Type} {request : Request β} (h : P s) :
    P (s.before request) := by
  cases request with
  | hot r =>
    cases r with
    | takeBucket bucket => exact begins h
    | _ => exact h
  | _ => exact h

/-- The answer to a request of the work under way. -/
def serve (failure? : Option Error) {β : Type} (request : Request β) (s : Stage) : β × Stage :=
  answer failure? request (s.before request)

/-- The stage with another side store and other metrics. -/
def aside (s : Stage) (side : Side.Store) (metrics : Metrics) : Stage :=
  { s with world := { s.world with side, metrics } }

/-- A report, late or not, is an arrival of its writes. -/
theorem attend_report (s : Stage) (lag : Nat) (e : Ledger.Entry) : ∃ side metrics,
    s.attend l (.report lag e) = (s.meet (.arrivals (s.writes l lag [e]))).aside side metrics :=
  ⟨_, _, congrArg (Stage.mk · _) (l.alike_increment e lag s.world).eq⟩

theorem attend_reports (s : Stage) (lag : Nat) (entries : List Ledger.Entry) : ∃ side metrics,
    s.attend l (.reports lag entries) =
      (s.meet (.arrivals (s.writes l lag entries))).aside side metrics :=
  ⟨_, _, congrArg (Stage.mk · _) (l.alike_incrementAll entries lag s.world).eq⟩

end Compaction.Stage

/-- A ledger at its stores. -/
structure Station extends Stage where
  memory : Flusher.Memory := default
  work? : Option (Procedure Flusher.Memory) := none

namespace Station

/-- What happens next at a station. -/
inductive Choice
  | occasion (occasion : Occasion)
  /-- A cycle begins, which may have been cancelled before. -/
  | cycle (isCancelled : Bool)
  /-- A round of the flush service begins. -/
  | round (isCancelled : Bool)
  | drain (bucket : Bucket)
  /-- A bucket is drained if it has left the retention window. -/
  | trim (bucket : Bucket)
  /-- The work makes a move along a path; a call in it may fail. -/
  | move (path : List Nat) (failure? : Option Error)

/-- The choice offers a baseline. -/
def Choice.Seeds : Choice → Prop
  | .occasion o => o.Seeds
  | _ => False

instance : DecidablePred Choice.Seeds
  | .occasion (.incident (.seeding _ _)) => .isTrue trivial
  | .occasion (.incident (.arrival _ _)) | .occasion (.incident (.arrivals _))
  | .occasion (.incident (.removal _)) | .occasion (.incident (.passing _))
  | .occasion (.incident .cancellation) | .occasion (.report _ _) | .occasion (.reports _ _)
  | .occasion (.clearing _) | .occasion (.retirement _ _) | .occasion .sweep => .isFalse id
  | .cycle _ | .round _ | .drain _ | .trim _ | .move _ _ => .isFalse id

/-- Moves along the first task under way, in which no call fails. -/
def Choice.moves (count : Nat) : List Choice := List.replicate count (.move [] none)

variable (l : Ledger)

/-- Stores without any content. -/
def empty (lifespan : Int) (now : Instant) : Station := { world := { now, hot := { lifespan } } }

/-- Nothing is under way. -/
def IsIdle (s : Station) : Prop := s.work? = none

instance (s : Station) : Decidable s.IsIdle := inferInstanceAs (Decidable (s.work? = none))

/-- The station after some work has begun; where other work is under way, it does not. -/
def begin (s : Station) (isCancelled : Bool) (work : Procedure Flusher.Memory) : Station :=
  match s.work? with
  | some _ => s
  | none => { s with toStage := s.begun isCancelled, work? := some work }

/-- The work of a compactor at a station. -/
def keeping {α : Type} (memory : Flusher.Memory) (work : Procedure (Compactor × α)) :
    Procedure Flusher.Memory :=
  (fun result => (memory.1, result.1)) <$> work

/-- The station after the work under way has made a move; work that has ended is taken away. -/
def move (s : Station) (path : List Nat) (failure? : Option Error) : Station :=
  match s.work? with
  | none => s
  | some work =>
    match work.result? with
    | some memory => { s with memory, work? := none }
    | none =>
      let (work, stage) := work.move (Stage.serve failure?) path s.toStage
      { s with toStage := stage, work? := some work }

/-- The station when the drain of a bucket has begun. -/
def drain (s : Station) (bucket : Bucket) : Station :=
  s.begin s.world.isCancelled (keeping s.memory (Compaction.drain l.compaction s.memory.2 bucket))

/-- The station after a choice. -/
def step (s : Station) : Choice → Station
  | .occasion occasion => { s with toStage := s.attend l occasion }
  | .cycle isCancelled => s.begin isCancelled (keeping s.memory (s.memory.2.run l.compaction))
  | .round isCancelled =>
    s.begin isCancelled (Prod.fst <$> Flusher.runOnce l.compaction s.memory)
  | .drain bucket => s.drain l bucket
  | .trim bucket => if bucket < l.compaction.boundaryAt s.world.now then s.drain l bucket else s
  | .move path failure? => s.move path failure?

/-- The station after a schedule. -/
def play (s : Station) (schedule : List Choice) : Station := schedule.foldl (step l) s

/-- `P` holds at the beginning of a schedule and after each of its choices. -/
def Throughout (P : Stage → Prop) (s : Station) : List Choice → Prop
  | [] => P s.toStage
  | choice :: schedule => P s.toStage ∧ Throughout P (s.step l choice) schedule

variable {l}

theorem Throughout.last {P : Stage → Prop} {s : Station} {schedule : List Choice}
    (h : Throughout l P s schedule) : P (s.play l schedule).toStage := by
  induction schedule generalizing s with
  | nil => exact h
  | cons choice schedule ih => exact ih h.2

theorem Throughout.first {P : Stage → Prop} {s : Station} {schedule : List Choice}
    (h : Throughout l P s schedule) : P s.toStage := by
  cases schedule with
  | nil => exact h
  | cons choice schedule => exact h.1

theorem play_append (s : Station) (before during : List Choice) :
    s.play l (before ++ during) = (s.play l before).play l during :=
  List.foldl_append

theorem Throughout.split {P : Stage → Prop} {s : Station} {before during : List Choice}
    (h : Throughout l P s (before ++ during)) :
    Throughout l P s before ∧ Throughout l P (s.play l before) during := by
  induction before generalizing s with
  | nil => exact ⟨h.first, h⟩
  | cons choice before ih => exact ⟨⟨h.1, (ih h.2).1⟩, (ih h.2).2⟩

theorem Throughout.and {P Q : Stage → Prop} {s : Station} {schedule : List Choice}
    (h : Throughout l P s schedule) (h' : Throughout l Q s schedule) :
    Throughout l (fun s => P s ∧ Q s) s schedule := by
  induction schedule generalizing s with
  | nil => exact ⟨h, h'⟩
  | cons choice schedule ih => exact ⟨⟨h.1, h'.1⟩, ih h.2 h'.2⟩

theorem Throughout.mono {P Q : Stage → Prop} (le : ∀ s, P s → Q s) {s : Station}
    {schedule : List Choice} (h : Throughout l P s schedule) : Throughout l Q s schedule := by
  induction schedule generalizing s with
  | nil => exact le _ h
  | cons choice schedule ih => exact ⟨le _ h.1, ih h.2⟩

instance Throughout.decidable {P : Stage → Prop} [DecidablePred P] :
    (s : Station) → (schedule : List Choice) → Decidable (Throughout l P s schedule)
  | s, [] => inferInstanceAs (Decidable (P s.toStage))
  | s, choice :: schedule =>
    let _ := Throughout.decidable (P := P) (s.step l choice) schedule
    inferInstanceAs (Decidable (P s.toStage ∧ Throughout l P (s.step l choice) schedule))

/-- What occasions, beginnings and answers keep is kept by a choice that fits. -/
theorem step_keeps {P : Stage → Prop} {fits : Choice → Prop}
    (attends : ∀ {s : Stage} {occasion : Occasion}, fits (.occasion occasion) → P s →
      P (s.attend l occasion))
    (begins : ∀ {s : Stage} (isCancelled : Bool), P s → P (s.begun isCancelled))
    (answers : ∀ {path : List Nat} {failure? : Option Error}, fits (.move path failure?) →
      ∀ {β : Type} (request : Request β) (s : Stage), P s → P (Stage.answer failure? request s).2)
    {s : Station} {choice : Choice} (fit : fits choice) (start : P s.toStage) :
    P (s.step l choice).toStage := by
  have begun : ∀ isCancelled work, P (s.begin isCancelled work).toStage := by
    intro isCancelled work
    unfold begin
    split
    · exact start
    · exact begins isCancelled start
  cases choice with
  | occasion occasion => exact attends fit start
  | cycle isCancelled => exact begun _ _
  | round isCancelled => exact begun _ _
  | drain bucket => exact begun _ _
  | trim bucket =>
    unfold step
    dsimp only
    split
    · exact begun _ _
    · exact start
  | move path failure? =>
    unfold step move
    dsimp only
    split
    · exact start
    · split
      · exact start
      · next work _ _ _ =>
        exact Program.move_keeps (fun request s h =>
          answers fit request _ (Stage.before_keeps (begins _) h)) work path start

/-- What occasions, beginnings and answers keep holds throughout a schedule that fits. -/
theorem throughout {P : Stage → Prop} {fits : Choice → Prop}
    (attends : ∀ {s : Stage} {occasion : Occasion}, fits (.occasion occasion) → P s →
      P (s.attend l occasion))
    (begins : ∀ {s : Stage} (isCancelled : Bool), P s → P (s.begun isCancelled))
    (answers : ∀ {path : List Nat} {failure? : Option Error}, fits (.move path failure?) →
      ∀ {β : Type} (request : Request β) (s : Stage), P s → P (Stage.answer failure? request s).2)
    {s : Station} {schedule : List Choice} (fit : ∀ choice ∈ schedule, fits choice)
    (start : P s.toStage) : s.Throughout l P schedule := by
  induction schedule generalizing s with
  | nil => exact start
  | cons choice schedule ih =>
    refine ⟨start, ih (fun choice member => fit choice (List.mem_cons_of_mem _ member)) ?_⟩
    exact step_keeps attends begins answers (fit choice List.mem_cons_self) start

/-! ## Clocks and logs -/

theorem now_le_attend (s : Stage) (occasion : Occasion) :
    s.world.now ≤ (s.attend l occasion).world.now := by
  cases occasion with
  | incident incident =>
    cases incident with
    | passing nanos => exact Int.le_add_of_nonneg_right (Int.natCast_nonneg nanos)
    | _ => exact Int.le_refl _
  | report lag e =>
    obtain ⟨side, metrics, eq⟩ := s.attend_report l lag e
    exact eq ▸ Int.le_refl _
  | reports lag entries =>
    obtain ⟨side, metrics, eq⟩ := s.attend_reports l lag entries
    exact eq ▸ Int.le_refl _
  | clearing | retirement | sweep => exact Int.le_refl _

theorem now_le_play (s : Station) (schedule : List Choice) :
    s.world.now ≤ (s.play l schedule).world.now := by
  induction schedule generalizing s with
  | nil => exact Int.le_refl _
  | cons choice schedule ih =>
    refine Int.le_trans ?_ (ih (s.step l choice))
    let all : Choice → Prop := fun _ => True
    have fit : all choice := trivial
    exact step_keeps (P := fun s' => s.world.now ≤ s'.world.now)
      (fun _ before => Int.le_trans before (now_le_attend _ _)) (fun _ before => before)
      (fun _ _ request s' before => Stage.now_answer (s := s') request ▸ before) fit
      (Int.le_refl _)

/-- What holds of all instants of a run holds throughout it. -/
theorem Throughout.of_now {P : Instant → Prop} {s : Station} {schedule : List Choice}
    (h : ∀ t, s.world.now ≤ t → t ≤ (s.play l schedule).world.now → P t) :
    s.Throughout l (fun s => P s.world.now) schedule := by
  induction schedule generalizing s with
  | nil => exact h _ (Int.le_refl _) (Int.le_refl _)
  | cons choice schedule ih =>
    refine ⟨h _ (Int.le_refl _) (now_le_play s (choice :: schedule)), ih fun t le => h t ?_⟩
    exact Int.le_trans (now_le_play s [choice]) le

theorem log_suffix_attend (s : Stage) (occasion : Occasion) :
    s.log <:+ (s.attend l occasion).log := by
  cases occasion with
  | incident incident =>
    cases incident with
    | arrival | arrivals | seeding => exact List.suffix_cons _ _
    | removal | passing | cancellation => exact List.suffix_rfl
  | report | reports => exact List.suffix_cons _ _
  | clearing | retirement | sweep => exact List.suffix_rfl

/-- A log goes on; it never forgets. -/
theorem log_suffix_step (s : Station) (choice : Choice) : s.log <:+ (s.step l choice).log := by
  let all : Choice → Prop := fun _ => True
  have fit : all choice := trivial
  exact step_keeps (P := fun s' => s.log <:+ s'.log)
    (fun _ before => before.trans (log_suffix_attend _ _))
    (fun _ before => before.trans (List.suffix_cons _ _))
    (fun _ _ _ _ before => before.trans (List.suffix_cons _ _))
    fit List.suffix_rfl

theorem log_suffix_play (s : Station) (schedule : List Choice) :
    s.log <:+ (s.play l schedule).log := by
  induction schedule generalizing s with
  | nil => exact List.suffix_rfl
  | cons choice schedule ih => exact (log_suffix_step s choice).trans (ih _)

/-- What a log keeps when its newest occurrences are taken away holds throughout a run at whose end
it holds. -/
theorem Throughout.of_suffix {P : List Occurrence → Prop}
    (down : ∀ {log log' : List Occurrence}, log <:+ log' → P log' → P log) {s : Station}
    {schedule : List Choice} (h : P (s.play l schedule).log) :
    s.Throughout l (fun s => P s.log) schedule := by
  induction schedule generalizing s with
  | nil => exact h
  | cons choice schedule ih => exact ⟨down (log_suffix_play s (choice :: schedule)) h, ih h⟩

/-- What never happened until the end had not happened before. -/
theorem Throughout.of_log {Q : Occurrence → Prop} {s : Station} {schedule : List Choice}
    (h : ∀ o ∈ (s.play l schedule).log, Q o) :
    s.Throughout l (fun s => ∀ o ∈ s.log, Q o) schedule :=
  .of_suffix (P := fun log => ∀ o ∈ log, Q o)
    (fun suffix h o member => h o (suffix.subset member)) h

/-! ## Invariants -/

/-- `inv` is kept by every choice that `fits`, as long as the stage stays `good`. A monitor watches
the work, which it starts in one state and leaves as `done` says. -/
structure Invariant {μ : Type} (l : Ledger) (m : Monitor Request μ) (view : Stage → μ) (start : μ)
    (done : μ → Prop) (fits : Choice → Prop) (good inv : Stage → Prop) : Prop where
  attends : ∀ {s : Stage} {occasion : Occasion}, fits (.occasion occasion) → inv s → good s →
    good (s.attend l occasion) → inv (s.attend l occasion) ∧ view (s.attend l occasion) = view s
  begins : ∀ {s : Stage} (isCancelled : Bool), done (view s) → inv s →
    inv (s.begun isCancelled) ∧ view (s.begun isCancelled) = start
  cycles : ∀ {isCancelled : Bool} (memory : Compactor), fits (.cycle isCancelled) →
    m.Ensures start (memory.run l.compaction) fun _ => done
  rounds : ∀ {isCancelled : Bool} (memory : Flusher.Memory), fits (.round isCancelled) →
    m.Ensures start (Flusher.runOnce l.compaction memory) fun _ => done
  drains : ∀ {bucket : Bucket} (memory : Compactor), fits (.drain bucket) →
    m.Ensures start (Compaction.drain l.compaction memory bucket) fun _ => done
  trims : ∀ {s : Stage} {bucket : Bucket} (memory : Compactor), fits (.trim bucket) → good s →
    bucket < l.compaction.boundaryAt s.world.now →
    m.Ensures start (Compaction.drain l.compaction memory bucket) fun _ => done
  follows : ∀ {path : List Nat} {failure? : Option Error}, fits (.move path failure?) →
    m.Follows (Stage.serve failure?) view inv good

namespace Invariant

variable {μ : Type} {m : Monitor Request μ} {view : Stage → μ} {start : μ} {done : μ → Prop}
  {fits : Choice → Prop} {good inv : Stage → Prop}

/-- The work under way obeys the monitor; where none is, it has been left as it should be. -/
def Working (m : Monitor Request μ) (view : Stage → μ) (done : μ → Prop) (s : Station) : Prop :=
  match s.work? with
  | none => done (view s.toStage)
  | some work => m.Ensures (view s.toStage) work fun _ => done

theorem Working.of_idle {s : Station} (working : Working m view done s) (idle : s.IsIdle) :
    done (view s.toStage) := by
  unfold Working at working
  rwa [idle] at working

theorem ensures_map {α β : Type} {φ : μ} {p : Procedure α} (f : α → β)
    (h : m.Ensures φ p fun _ => done) : m.Ensures φ (f <$> p) fun _ => done :=
  Ensures.bind h fun _ _ ended => .pure ended

theorem working_begin (h : Invariant l m view start done fits good inv) {s : Station}
    {isCancelled : Bool} {work : Procedure Flusher.Memory}
    (obeys : m.Ensures start work fun _ => done) (held : inv s.toStage)
    (working : Working m view done s) :
    inv (s.begin isCancelled work).toStage ∧ Working m view done (s.begin isCancelled work) := by
  obtain ⟨stage, memory, work?⟩ := s
  cases work? with
  | some other => exact ⟨held, working⟩
  | none =>
    obtain ⟨held, started⟩ := h.begins isCancelled working held
    refine ⟨held, ?_⟩
    unfold Working begin
    dsimp only
    rwa [started]

/-- One choice keeps the invariant, and the work under way goes on obeying the monitor. -/
theorem step (h : Invariant l m view start done fits good inv) {s : Station} {choice : Choice}
    (fit : fits choice) (fine : good s.toStage) (fine' : good (s.step l choice).toStage)
    (held : inv s.toStage) (working : Working m view done s) :
    inv (s.step l choice).toStage ∧ Working m view done (s.step l choice) := by
  cases choice with
  | occasion occasion =>
    -- an occasion is no part of the work, so the monitor stands where it stood
    obtain ⟨kept, same⟩ := h.attends fit held fine fine'
    refine ⟨kept, ?_⟩
    unfold Working Station.step at *
    dsimp only
    rwa [same]
  | cycle isCancelled =>
    exact h.working_begin (ensures_map _ (h.cycles _ fit)) held working
  | round isCancelled =>
    exact h.working_begin (ensures_map _ (h.rounds _ fit)) held working
  | drain bucket => exact h.working_begin (ensures_map _ (h.drains _ fit)) held working
  | trim bucket =>
    unfold Station.step
    dsimp only
    split
    · next old => exact h.working_begin (ensures_map _ (h.trims _ fit fine old)) held working
    · exact ⟨held, working⟩
  | move path failure? =>
    obtain ⟨stage, memory, work?⟩ := s
    cases work? with
    | none => exact ⟨held, working⟩
    | some work =>
      cases ended : work.result? with
      | some memory' =>
        have moved : (Station.step l ⟨stage, memory, some work⟩ (.move path failure?)) =
            ⟨stage, memory', none⟩ := by
          simp only [Station.step, Station.move, ended]
        rw [moved]
        have pure := Program.eq_pure_of_result? ended
        subst pure
        exact ⟨held, working memory' rfl⟩
      | none =>
        have moved : (Station.step l ⟨stage, memory, some work⟩ (.move path failure?)) =
            ⟨(work.move (Stage.serve failure?) path stage).2, memory,
              some (work.move (Stage.serve failure?) path stage).1⟩ := by
          simp only [Station.step, Station.move, ended]
        rw [moved] at fine' ⊢
        exact Obeys.move (h.follows fit) working held fine fine'

/-- All that fits keeps the invariant throughout a schedule. -/
theorem play (h : Invariant l m view start done fits good inv) {s : Station}
    {schedule : List Choice} (fit : ∀ choice ∈ schedule, fits choice)
    (fine : s.Throughout l good schedule) (held : inv s.toStage)
    (working : Working m view done s) :
    inv (s.play l schedule).toStage ∧ Working m view done (s.play l schedule) := by
  induction schedule generalizing s with
  | nil => exact ⟨held, working⟩
  | cons choice schedule ih =>
    obtain ⟨held, working⟩ :=
      h.step (fit choice List.mem_cons_self) fine.1 fine.2.first held working
    exact ih (fun choice member => fit choice (List.mem_cons_of_mem _ member)) fine.2 held working

end Invariant

end Station

end Metering
