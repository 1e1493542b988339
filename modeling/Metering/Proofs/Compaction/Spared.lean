import Metering.Proofs.Compaction.Effect
import Metering.Proofs.Compaction.Notes
import Metering.Proofs.Hot.Acts

/-!
# Keys that a cycle leaves alone

A key about which a cycle makes no call is spared. Other keys are worked on, expired records are
dropped, and traffic of any key may arrive meanwhile. To tell the work from what happens anyway, the
stage is compared with one on which the same incidents happen and no call is made. For a spared key
both show the same record, and its row is as it was.

Results:
1. `AgreesOn.increment` and the lemmas next to it: stores that show the same of a key go on to do so.
2. `parallel_meet`, `parallel_answer`: so do stages, through incidents and through the calls of a
   cycle about other keys.
3. `alone_of_run`.
-/

namespace Metering

/-! ## Stores that agree on a key -/

namespace Hot.Store

/-- At an instant two stores show the same record of a key, and new ones live equally long. -/
structure AgreesOn (key : Key) (now : Instant) (s t : Store) : Prop where
  lifespan : t.lifespan = s.lifespan
  live : t.live? now key = s.live? now key
  scheduled : s.Scheduled ∧ t.Scheduled

namespace AgreesOn

variable {key : Key} {now : Instant} {s t : Store}

theorem counter (h : AgreesOn key now s t) : t.counter now key = s.counter now key := by
  unfold Store.counter
  rw [h.live, h.lifespan]

theorem increment (h : AgreesOn key now s t) (key' : Key) (traffic : Traffic) :
    AgreesOn key now (s.increment now key' traffic) (t.increment now key' traffic) := by
  refine ⟨?_, ?_, h.scheduled.1.increment now key' traffic, h.scheduled.2.increment now key' traffic⟩
  · rw [lifespan_increment, lifespan_increment, h.lifespan]
  · rcases eq_or_ne key' key with rfl | ne
    · rcases eq_or_ne traffic 0 with rfl | nonzero
      · exact h.live
      · rw [live?, live?, records_increment, records_increment, if_pos ⟨rfl, nonzero⟩,
          if_pos ⟨rfl, nonzero⟩, h.counter, h.lifespan]
    · rw [live?_increment_of_ne t now ne, live?_increment_of_ne s now ne, h.live]

theorem incrementAll (h : AgreesOn key now s t) (entries : List (Key × Traffic)) :
    AgreesOn key now (s.incrementAll now entries) (t.incrementAll now entries) := by
  induction entries generalizing s t with
  | nil => exact h
  | cons entry rest ih => exact ih (h.increment entry.1 entry.2)

theorem seed (h : AgreesOn key now s t) (key' : Key) (baseline : Traffic) :
    AgreesOn key now (s.seed now key' baseline).2 (t.seed now key' baseline).2 := by
  obtain ⟨hs, ht⟩ := h.scheduled
  refine ⟨?_, ?_, hs.seed now key' baseline, ht.seed now key' baseline⟩
  · rw [show (t.seed now key' baseline).2.lifespan = t.lifespan from
      lifespan_answer ht now (.seed key' baseline),
      show (s.seed now key' baseline).2.lifespan = s.lifespan from
        lifespan_answer hs now (.seed key' baseline), h.lifespan]
  · rcases eq_or_ne key' key with rfl | ne
    · rw [live?, live?, records_seed ht, records_seed hs, if_pos rfl, if_pos rfl, h.counter,
        h.lifespan]
    · rw [live?_seed_of_ne ht now ne, live?_seed_of_ne hs now ne, h.live]

theorem forget (h : AgreesOn key now s t) (key' : Key) :
    AgreesOn key now (s.forget key').2 (t.forget key').2 := by
  obtain ⟨hs, ht⟩ := h.scheduled
  refine ⟨?_, ?_, hs.forget key', ht.forget key'⟩
  · rw [show (t.forget key').2.lifespan = t.lifespan from lifespan_answer ht now (.forget key'),
      show (s.forget key').2.lifespan = s.lifespan from lifespan_answer hs now (.forget key'),
      h.lifespan]
  · rw [live?_forget, live?_forget, h.live]

theorem later (h : AgreesOn key now s t) {later : Instant} (le : now ≤ later) :
    AgreesOn key later s t where
  lifespan := h.lifespan
  live := by rw [live?_later le, live?_later le, h.live]
  scheduled := h.scheduled

end AgreesOn

end Hot.Store

namespace Compaction

open Monitor Program Procedure

variable {key : Key}

/-! ## Parallel stages -/

namespace Stage

/-- As far as one key goes, a stage looks like another; it has the same row as before. -/
structure Parallel (key : Key) (row : Traffic) (s t : Stage) : Prop where
  now : t.world.now = s.world.now
  hot : Hot.Store.AgreesOn key s.world.now s.world.hot t.world.hot
  row : t.row key = row

variable {row : Traffic} {s t : Stage}

theorem Parallel.live (h : Parallel key row s t) : t.live? key = s.live? key := by
  unfold live?
  rw [h.now, h.hot.live]

theorem parallel_meet (h : Parallel key row s t) (incident : Incident) :
    Parallel key row (s.meet incident) (t.meet incident) := by
  obtain ⟨now, hot, row⟩ := h
  cases incident with
  | arrival key' traffic => exact ⟨now, by simpa only [meet, now] using hot.increment key' traffic, row⟩
  | arrivals entries => exact ⟨now, by simpa only [meet, now] using hot.incrementAll entries, row⟩
  | seeding key' baseline => exact ⟨now, by simpa only [meet, now] using hot.seed key' baseline, row⟩
  | removal key' => exact ⟨now, hot.forget key', row⟩
  | passing nanos =>
    refine ⟨congrArg (·.addNanos nanos) now, hot.later ?_, row⟩
    exact Int.le_add_of_nonneg_right (Int.natCast_nonneg nanos)
  | cancellation => exact ⟨now, hot, row⟩

theorem parallel_meets (h : Parallel key row s t) (incidents : List Incident) :
    Parallel key row (incidents.foldl meet s) (incidents.foldl meet t) := by
  induction incidents generalizing s t with
  | nil => exact h
  | cons incident rest ih => exact ih (parallel_meet h incident)

end Stage

/-! ## The calls of a cycle -/

/-- The request is one of those that cycles make. -/
def IsRoutine {β : Type} (request : Request β) : Prop :=
  match request with
  | .hot (.activeKeys _) | .hot (.snapshot _) | .hot (.commit _ _ _) | .hot (.settle _ _)
  | .hot (.forget _) | .cold (.accumulate _ _ _) | .now | .isCancelled | .record _ => True
  | .hot _ | .cold _ | .side _ => False

/-- Allows what cycles ask for. -/
def routine : Monitor Request Unit where
  allows request _ := IsRoutine request
  sound _ _ := True
  after _ _ _ := ()

theorem neutral_routine {β : Type} {request : Request β} (asks : IsRoutine request) :
    routine.Neutral request :=
  fun _ => ⟨asks, fun _ => rfl⟩

theorem overlooks_routine (boundary : Bucket) : Overlooks routine boundary where
  ignores _ :=
    { settle := neutral_routine trivial
      purge := fun _ => neutral_routine trivial
      commit := fun _ _ => neutral_routine trivial
      forget := neutral_routine trivial
      write := fun _ => neutral_routine trivial
      isCancelled := neutral_routine trivial
      record := fun _ => neutral_routine trivial }
  snapshot _ := neutral_routine trivial

theorem silent_routine_run (c : Settings) (memory : Compactor) : routine.Silent (memory.run c) :=
  silent_run overlooks_routine (neutral_routine trivial) c (neutral_routine trivial) memory

namespace Stage

variable {row : Traffic} {s t : Stage}

/-- A call of a cycle that is not about the key leaves its record and its row alone. -/
theorem answer_of_routine (hs : s.world.hot.Scheduled) (failure? : Option Error) {β : Type}
    {request : Request β} (asks : IsRoutine request)
    (other : (occurrence request (Stage.answer failure? request s).1).isCall key = false) :
    (Stage.answer failure? request s).2.live? key = s.live? key ∧
      (Stage.answer failure? request s).2.row key = s.row key := by
  cases request with
  | hot r =>
    cases r with
    | activeKeys limit =>
      cases failure? with
      | none => exact ⟨Hot.Store.live?_expire hs s.world.now key, rfl⟩
      | some e => exact ⟨rfl, rfl⟩
    | snapshot keys => cases failure? <;> exact ⟨rfl, rfl⟩
    | commit | settle | forget => exact answer_of_apart hs failure? (of_decide_eq_false other)
    | _ => exact asks.elim
  | cold r =>
    cases r with
    | accumulate => exact answer_of_apart hs failure? (of_decide_eq_false other)
    | _ => exact asks.elim
  | side r => exact asks.elim
  | _ => cases failure? <;> exact ⟨rfl, rfl⟩

theorem lifespan_answer_world (hs : s.world.hot.Scheduled) (failure? : Option Error) {β : Type}
    (request : Request β) :
    (Stage.answer failure? request s).2.world.hot.lifespan = s.world.hot.lifespan ∧
      (Stage.answer failure? request s).2.world.hot.Scheduled := by
  cases request with
  | hot r =>
    cases failure? with
    | none => exact ⟨Hot.Store.lifespan_answer hs _ r, scheduled_answer hs _ r⟩
    | some e => exact ⟨rfl, hs⟩
  | _ => cases failure? <;> exact ⟨rfl, hs⟩

theorem parallel_answer (h : Parallel key row s t) (failure? : Option Error) {β : Type}
    {request : Request β} (asks : IsRoutine request)
    (other : (occurrence request (Stage.answer failure? request t).1).isCall key = false) :
    Parallel key row s (Stage.answer failure? request t).2 := by
  have ht := h.hot.scheduled.2
  have now : (Stage.answer failure? request t).2.world.now = t.world.now := now_answer request
  obtain ⟨live, same⟩ := answer_of_routine ht failure? asks other
  obtain ⟨lifespan, scheduled⟩ := lifespan_answer_world ht failure? request
  refine ⟨now.trans h.now, ⟨lifespan.trans h.hot.lifespan, ?_, h.hot.scheduled.1, scheduled⟩,
    same.trans h.row⟩
  rw [live?, live?, now, h.now, h.hot.live] at live
  exact live

end Stage

/-! ## Runs -/

namespace Course

/-- The incidents that happened from one point of a course to a later one. -/
def incidentsTo (s t : Course) : List Incident :=
  (s.fates.take (s.fates.length - t.fates.length)).flatMap (·.incidents)

/-- The stage to which these incidents alone would have led, without any call. -/
def alone (s t : Course) : Stage := (s.incidentsTo t).foldl Stage.meet s.stage

/-- What is left of a course, next to a stage on which the incidents so far have happened and no
call was made. -/
def Spares (key : Key) (s t : Course) : Prop :=
  ∃ passed, s.fates = passed ++ t.fates ∧
    ((t.traces key).calls = [] →
      Stage.Parallel key (s.stage.row key)
        ((passed.flatMap (·.incidents)).foldl Stage.meet s.stage) t.stage)

variable {s t : Course}

theorem Spares.start (hs : s.stage.world.hot.Scheduled) : s.Spares key s :=
  ⟨[], rfl, fun _ => ⟨rfl, ⟨rfl, rfl, hs, hs⟩, rfl⟩⟩

theorem Spares.answer (h : s.Spares key t) {β : Type} {request : Request β}
    (asks : IsRoutine request) : s.Spares key (Course.answer request t).2 := by
  obtain ⟨passed, split, parallel⟩ := h
  refine ⟨passed ++ t.fates.take 1, ?_, fun uncalled => ?_⟩
  · have first : t.fates = t.fates.take 1 ++ t.fates.tail := by cases t.fates <;> rfl
    rw [split, List.append_assoc]
    exact congrArg (passed ++ ·) first
  · rw [traces_answer lawful_answer] at uncalled
    have other : (occurrence request (Course.answer request t).1).isCall key = false := by
      by_contra called
      rw [Trace.extend, if_pos (Bool.not_eq_false _ ▸ called)] at uncalled
      cases uncalled
    rw [Trace.extend, other] at uncalled
    have ahead := Stage.parallel_meets (parallel uncalled) t.fate.incidents
    have met : (t.fates.take 1).flatMap (·.incidents) = t.fate.incidents := by
      unfold fate
      cases t.fates <;> simp
    rw [List.flatMap_append, List.foldl_append, met]
    exact Stage.parallel_answer ahead t.fate.failure? asks other

theorem Spares.alone_eq (h : s.Spares key t) (uncalled : (t.traces key).calls = []) :
    t.stage.live? key = (s.alone t).live? key ∧ t.stage.row key = s.stage.row key := by
  obtain ⟨passed, split, parallel⟩ := h
  have same : s.fates.take (s.fates.length - t.fates.length) = passed := by
    rw [split, List.length_append, Nat.add_sub_cancel, List.take_left]
  rw [alone, incidentsTo, same]
  exact ⟨(parallel uncalled).live, (parallel uncalled).row⟩

/-- Of a key about which a run has made no call, the stores show what they would show without the
run. -/
theorem alone_of_run (hs : s.stage.world.hot.Scheduled) {c : Settings} {memory : Compactor}
    {ended : Compactor × Except Error Report}
    (reached : Reaches Course.answer (memory.run c) s (.pure ended) t)
    (uncalled : (t.traces key).calls = []) :
    t.stage.live? key = (s.alone t).live? key ∧ t.stage.row key = s.stage.row key := by
  have follows : routine.Follows Course.answer (fun _ => ()) (s.Spares key) fun _ => True :=
    { tracks := fun _ _ => rfl
      neutral := fun _ _ _ _ => trivial
      allowed := fun _ _ asks spares _ _ => ⟨spares.answer asks, trivial⟩ }
  obtain ⟨spares, -⟩ := reaches_of_silent follows (silent_routine_run c memory) (.start hs) trivial
    reached
  exact spares.alone_eq uncalled

end Course

end Compaction

end Metering
