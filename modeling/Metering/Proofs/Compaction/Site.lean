import Metering.Proofs.Compaction.Protocol
import Metering.Proofs.Compaction.Stage

/-!
# A compactor at its stores

A site is a compactor at its stage, with the work that it has under way, if any. A schedule says
what happens next, and nothing else decides that: an incident, work that begins, or one move of the
work under way, in which a call may fail. Work that should begin while other work is under way
waits for it, so such a choice does nothing.

Results: `Invariant.play`, what all that can happen keeps holds throughout a schedule, while the work
under way keeps the protocol of every key.
-/

namespace Metering.Compaction

open Monitor

/-- A compactor at its stores. -/
structure Site extends Stage where
  memory : Compactor := {}
  work? : Option (Procedure Compactor) := none

/-- What happens next at a site. -/
inductive Choice
  | incident (incident : Incident)
  /-- A cycle begins, which may have been cancelled before. -/
  | cycle (settings : Settings) (isCancelled : Bool)
  | drain (settings : Settings) (bucket : Bucket)
  /-- The work makes a move along a path; a call in it may fail. -/
  | move (path : List Nat) (failure? : Option Error)

/-- Moves along the first task under way, in which no call fails. -/
def Choice.moves (count : Nat) : List Choice := List.replicate count (.move [] none)

namespace Site

/-- Stores without any content. -/
def empty (lifespan : Int) (now : Instant) : Site :=
  { world := { now, hot := { lifespan } } }

/-- Nothing is under way. -/
def IsIdle (s : Site) : Prop := s.work? = none

instance (s : Site) : Decidable s.IsIdle := inferInstanceAs (Decidable (s.work? = none))

/-- The site after some work has begun. -/
def begin (s : Site) (world : World) (work : Procedure Compactor) : Site :=
  match s.work? with
  | some _ => s
  | none => { s with world, log := .beginning :: s.log, work? := some work }

/-- The site after the work under way has made a move; work that has ended is taken away. -/
def move (s : Site) (path : List Nat) (failure? : Option Error) : Site :=
  match s.work? with
  | none => s
  | some work =>
    match work.result? with
    | some memory => { s with memory, work? := none }
    | none =>
      let (work, stage) := work.move (Stage.answer failure?) path s.toStage
      { s with toStage := stage, work? := some work }

/-- The site after a choice. -/
def step (s : Site) : Choice → Site
  | .incident incident => { s with toStage := s.toStage.meet incident }
  | .cycle c isCancelled =>
    s.begin { s.world with isCancelled } (Prod.fst <$> s.memory.run c)
  | .drain c bucket => s.begin s.world (Prod.fst <$> drain c s.memory bucket)
  | .move path failure? => s.move path failure?

/-- The site after a schedule. -/
def play (s : Site) (schedule : List Choice) : Site := schedule.foldl step s

/-- `P` holds at the beginning of a schedule and after each of its choices. -/
def Throughout (P : Site → Prop) (s : Site) : List Choice → Prop
  | [] => P s
  | choice :: schedule => P s ∧ Throughout P (s.step choice) schedule

theorem Throughout.last {P : Site → Prop} {s : Site} {schedule : List Choice}
    (h : Throughout P s schedule) : P (s.play schedule) := by
  induction schedule generalizing s with
  | nil => exact h
  | cons choice schedule ih => exact ih h.2

theorem Throughout.and {P Q : Site → Prop} {s : Site} {schedule : List Choice}
    (h : Throughout P s schedule) (h' : Throughout Q s schedule) :
    Throughout (fun s => P s ∧ Q s) s schedule := by
  induction schedule generalizing s with
  | nil => exact ⟨h, h'⟩
  | cons choice schedule ih => exact ⟨⟨h.1, h'.1⟩, ih h.2 h'.2⟩

instance Throughout.decidable {P : Site → Prop} [DecidablePred P] :
    (s : Site) → (schedule : List Choice) → Decidable (Throughout P s schedule)
  | s, [] => inferInstanceAs (Decidable (P s))
  | s, choice :: schedule =>
    let _ := Throughout.decidable (P := P) (s.step choice) schedule
    inferInstanceAs (Decidable (P s ∧ Throughout P (s.step choice) schedule))

theorem Throughout.first {P : Site → Prop} {s : Site} {schedule : List Choice}
    (h : Throughout P s schedule) : P s := by
  cases schedule with
  | nil => exact h
  | cons choice schedule => exact h.1

/-- What incidents, beginnings and answers keep holds throughout a schedule that fits. -/
theorem throughout {P : Stage → Prop} {fits : Choice → Prop}
    (meets : ∀ {s : Stage} {incident : Incident}, fits (.incident incident) → P s →
      P (s.meet incident))
    (begins : ∀ {s : Stage} (isCancelled : Bool), P s →
      P ⟨{ s.world with isCancelled }, .beginning :: s.log⟩)
    (answers : ∀ {path : List Nat} {failure? : Option Error}, fits (.move path failure?) →
      ∀ {β : Type} (request : Request β) (s : Stage), P s → P (Stage.answer failure? request s).2)
    {s : Site} {schedule : List Choice} (fit : ∀ choice ∈ schedule, fits choice)
    (start : P s.toStage) : s.Throughout (fun s => P s.toStage) schedule := by
  induction schedule generalizing s with
  | nil => exact start
  | cons choice schedule ih =>
    refine ⟨start, ih (fun choice member => fit choice (List.mem_cons_of_mem _ member)) ?_⟩
    have fit := fit choice List.mem_cons_self
    obtain ⟨stage, memory, work?⟩ := s
    cases choice with
    | incident incident => exact meets fit start
    | cycle c isCancelled =>
      cases work? with
      | none => exact begins isCancelled start
      | some work => exact start
    | drain c bucket =>
      cases work? with
      | none => exact begins stage.world.isCancelled start
      | some work => exact start
    | move path failure? =>
      cases work? with
      | none => exact start
      | some work =>
        unfold step move
        dsimp only
        split
        · exact start
        · exact Program.move_keeps (fun op s h => answers fit op s h) work path start

theorem throughout_grounded {s : Site} (h : s.Grounded) (schedule : List Choice) :
    s.Throughout (fun s => s.Grounded) schedule := by
  have fit : ∀ choice ∈ schedule, (fun _ => True) choice := fun _ _ => trivial
  refine throughout ?_ ?_ ?_ fit h
  · exact fun _ h => h.meet _
  · exact fun _ h => ⟨h.scheduled, h.unretired, h.online⟩
  · exact fun _ _ request _ h => h.answer _ request

theorem grounded_empty (lifespan : Int) (now : Instant) : (empty lifespan now).Grounded :=
  ⟨Hot.Store.scheduled_empty lifespan, rfl, rfl⟩

/-- The work under way keeps the protocol of a key; where none is, the key is done with. -/
def Working (key : Key) (terms : Terms) (s : Site) : Prop :=
  match s.work? with
  | none => Ended terms.calm (s.phase key)
  | some work => (monitor key terms).Ensures (s.phase key) work fun _ => Ended terms.calm

theorem Working.ended {key : Key} {terms : Terms} {s : Site} (working : s.Working key terms)
    (idle : s.IsIdle) : Ended terms.calm (s.phase key) := by
  unfold Working at working
  rwa [idle] at working

end Site

/-! ## Invariants -/

/-- `inv` is kept by every choice that `fits`, as long as the stage stays `good`. -/
structure Invariant (key : Key) (terms : Terms) (fits : Choice → Prop) (good inv : Stage → Prop) :
    Prop where
  meets : ∀ {s : Stage} {incident : Incident}, fits (.incident incident) → inv s → good s →
    good (s.meet incident) → inv (s.meet incident)
  cycles : ∀ {s : Stage} {c : Settings} {isCancelled : Bool}, fits (.cycle c isCancelled) →
    Ended terms.calm (s.phase key) → inv s → inv ⟨{ s.world with isCancelled }, .beginning :: s.log⟩
  drains : ∀ {s : Stage} {c : Settings} {bucket : Bucket}, fits (.drain c bucket) →
    Ended terms.calm (s.phase key) → inv s → inv ⟨s.world, .beginning :: s.log⟩
  enough : ∀ {c : Settings} {isCancelled : Bool}, fits (.cycle c isCancelled) →
    terms.cap ≤ c.config.maxKeysPerCycle
  mayDrain : ∀ {c : Settings} {bucket : Bucket}, fits (.drain c bucket) → terms.drains
  follows : ∀ {path : List Nat} {failure? : Option Error}, fits (.move path failure?) →
    (monitor key terms).Follows (Stage.answer failure?) (Stage.phase key) inv good

namespace Invariant

variable {key : Key} {terms : Terms} {fits : Choice → Prop} {good inv : Stage → Prop}

theorem phase_meet (s : Stage) (incident : Incident) :
    (s.meet incident).phase key = s.phase key := by
  cases incident <;> rfl

theorem ensures_fst {α β : Type} {φ : Phase} {p : Procedure (α × β)}
    (h : (monitor key terms).Ensures φ p fun _ => Ended terms.calm) :
    (monitor key terms).Ensures φ (Prod.fst <$> p) fun _ => Ended terms.calm :=
  Ensures.bind h fun _ _ ended => .pure ended

/-- One choice keeps the invariant, and what is under way keeps the protocol. -/
theorem step (h : Invariant key terms fits good inv) {s : Site} {choice : Choice}
    (fit : fits choice) (fine : good s.toStage) (fine' : good (s.step choice).toStage)
    (held : inv s.toStage) (working : s.Working key terms) :
    inv (s.step choice).toStage ∧ (s.step choice).Working key terms := by
  obtain ⟨stage, memory, work?⟩ := s
  cases choice with
  | incident incident =>
    -- incidents are no part of the work, so its protocol stands where it stood
    refine ⟨h.meets fit held fine fine', ?_⟩
    unfold Site.Working at working ⊢
    cases work? with
    | none => exact (phase_meet stage incident).symm ▸ working
    | some work => exact (phase_meet stage incident).symm ▸ working
  | cycle c isCancelled =>
    cases work? with
    | none =>
      refine ⟨h.cycles fit working held, ensures_fst ?_⟩
      exact ensures_run (h.enough fit) memory
    | some work => exact ⟨held, working⟩
  | drain c bucket =>
    cases work? with
    | none =>
      refine ⟨h.drains fit working held, ensures_fst ?_⟩
      exact ensures_drain (h.mayDrain fit) c memory bucket
    | some work => exact ⟨held, working⟩
  | move path failure? =>
    cases work? with
    | none => exact ⟨held, working⟩
    | some work =>
      cases ended : work.result? with
      | some memory' =>
        have pure := Program.eq_pure_of_result? ended
        subst pure
        exact ⟨held, working memory' rfl⟩
      | none =>
        have moved : (Site.step ⟨stage, memory, some work⟩ (.move path failure?)) =
            ⟨(work.move (Stage.answer failure?) path stage).2, memory,
              some (work.move (Stage.answer failure?) path stage).1⟩ := by
          simp only [Site.step, Site.move, ended]
        rw [moved] at fine' ⊢
        exact Obeys.move (h.follows fit) working held fine fine'

/-- All that fits keeps the invariant throughout a schedule. -/
theorem play (h : Invariant key terms fits good inv) {s : Site} {schedule : List Choice}
    (fit : ∀ choice ∈ schedule, fits choice)
    (fine : s.Throughout (fun s => good s.toStage) schedule) (held : inv s.toStage)
    (working : s.Working key terms) :
    inv (s.play schedule).toStage ∧ (s.play schedule).Working key terms := by
  induction schedule generalizing s with
  | nil => exact ⟨held, working⟩
  | cons choice schedule ih =>
    obtain ⟨held, working⟩ :=
      h.step (fit choice List.mem_cons_self) fine.1 fine.2.first held working
    exact ih (fun choice member => fit choice (List.mem_cons_of_mem _ member)) fine.2 held working

end Invariant

end Metering.Compaction
