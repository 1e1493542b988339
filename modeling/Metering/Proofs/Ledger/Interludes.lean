import Metering.Proofs.Compaction.Claims
import Metering.Proofs.Ledger.Ceiling

/-!
# Counting between the work

Traffic that is counted while a record is being flushed is safe as long as the record stands. Where
the record was lost and made anew, the commit gives the new one the markers of the old, and it looks
as if it had been reset. If traffic is counted only while nothing is under way, the record that is
being flushed is as it was read, or is gone: the markers of a record stay within its counter.

Results:
1. `throughout_timely`: a commit finds what was read, where counting waits for the work to end.
2. `intact_between`: the markers of a record are within its counter, and a record that is not
   settled is active.
-/

namespace Metering

namespace Compaction

open Hot (Entry Record)

/-! ## Logs -/

/-- Nothing was counted since some work began, or since the log did. -/
def IsQuiet : List Occurrence → Prop
  | [] | .beginning :: _ => True
  | .arrival _ :: _ => False
  | _ :: log => IsQuiet log

/-- No commit of the markers of a key came after something was counted during the work. -/
def IsTimely (key : Key) : List Occurrence → Prop
  | [] => True
  | .commit key' _ _ :: log => (key' = key → IsQuiet log) ∧ IsTimely key log
  | _ :: log => IsTimely key log

variable {key : Key} {log : List Occurrence}

theorem isQuiet_told {β : Type} (request : Request β) (answer : β) :
    IsQuiet (occurrence request answer :: log) ↔ IsQuiet log := by
  cases request with
  | hot r => cases r <;> cases answer <;> exact Iff.rfl
  | cold r => cases r <;> exact Iff.rfl
  | _ => exact Iff.rfl

theorem IsTimely.cons (h : IsTimely key log) (quiet : IsQuiet log) (o : Occurrence) :
    IsTimely key (o :: log) := by
  cases o with
  | commit => exact ⟨fun _ => quiet, h⟩
  | _ => exact h

theorem IsTimely.of_apart (h : IsTimely key log) {o : Occurrence} (apart : o.Apart key) :
    IsTimely key (o :: log) := by
  cases o with
  | commit => exact ⟨fun own => (apart own).elim, h⟩
  | _ => exact h

/-! ## Records -/

/-- After a write that failed no record is being flushed. -/
theorem Phase.Writes.drains {φ : Phase} {traffic : Traffic} (writes : φ.Writes traffic)
    (e : Error) : (φ.afterWrite (.error e)).Drains := by
  obtain ⟨record, rfl, -⟩ | rfl := writes <;>
  · unfold Phase.afterWrite
    dsimp only
    split <;> trivial

/-- A record whose markers are within its counter was not reset. -/
theorem not_reset_of_covered {entry : Entry}
    (covered : ∀ d, entry.flushed.bytes d ≤ entry.traffic.bytes d) (key : Key) :
    (entry.toRecord key).isReset = false := by
  refine Bool.eq_false_iff.2 fun reset => ?_
  obtain ⟨d, below⟩ := Hot.Record.isReset_iff.1 reset
  exact Nat.not_lt.2 (covered d) below

/-- The markers of a record are within its counter. As long as it is quiet, a record that is being
flushed has not changed since it was read. -/
structure Intact (quiet : Prop) (φ : Phase) (live? : Option Entry) : Prop where
  covered : ∀ entry, live? = some entry → ∀ d, entry.flushed.bytes d ≤ entry.traffic.bytes d
  current : quiet → ∀ record, φ.Holds record → ∀ entry, live? = some entry →
    entry.traffic = record.traffic

namespace Intact

variable {quiet : Prop} {φ ψ : Phase} {live? live?' : Option Entry}

/-- Without a record there is nothing to say. -/
theorem of_none : Intact quiet φ none := ⟨nofun, fun _ _ _ => nofun⟩

theorem not_reset (h : Intact quiet φ live?) {entry : Entry} (live : live? = some entry) :
    (entry.toRecord key).isReset = false :=
  not_reset_of_covered (h.covered entry live) key

theorem mono {quiet' : Prop} (h : Intact quiet φ live?) (le : quiet' → quiet) :
    Intact quiet' φ live? :=
  ⟨h.covered, fun quiet' => h.current (le quiet')⟩

/-- No record is being flushed any more. -/
theorem leave {quiet' : Prop} (h : Intact quiet φ live?) (drains : ψ.Drains) :
    Intact quiet' ψ live? :=
  ⟨h.covered, fun _ record holds => (drains.free record holds).elim⟩

/-- A record is lost or stays. -/
theorem stays (h : Intact quiet φ live?) (stays : live?' = live? ∨ live?' = none) :
    Intact quiet φ live?' := by
  obtain rfl | rfl := stays
  · exact h
  · exact of_none

/-- Counting is not quiet. -/
theorem accrue {lost : Entry → Prop} {traffic : Traffic} (h : Intact quiet φ live?)
    (accrues : Accrues lost live? traffic live?') : Intact False φ live?' := by
  refine ⟨fun entry live d => ?_, False.elim⟩
  cases accrues with
  | nothing zero => exact h.covered entry live d
  | lost => cases live
  | grown entry nonzero grows =>
    cases live
    rw [grows.flushed d, grows.traffic d]
    cases live? with
    | none => exact Nat.zero_le _
    | some old =>
      have covered := h.covered old rfl d
      have top := old.traffic.bytes_le_top d
      simp only [flushedOf, trafficOf, Option.elim_some]
      omega

/-- A record is read. -/
theorem read (h : Intact quiet φ live?) : Intact quiet (.observed (live?.map (·.toRecord key)))
    live? := by
  refine ⟨h.covered, ?_⟩
  rintro - record (holds | ⟨⟨⟩⟩) entry rfl
  obtain rfl : entry.toRecord key = record := Option.some.inj (Phase.observed.inj holds)
  rfl

/-- What was read is written. -/
theorem write {record : Record} (h : Intact quiet (.observed (some record)) live?) :
    Intact quiet (.written record) live? := by
  refine ⟨h.covered, fun calm other holds => ?_⟩
  obtain rfl : record = other := Phase.Holds.eq holds (.inr rfl)
  exact h.current calm record (.inl rfl)

/-- The commit marks just what is there. -/
theorem commit {quiet' : Prop} {record : Record} (h : Intact quiet φ live?)
    (commits : φ.Commits record) (calm : quiet) :
    Intact quiet' .rest (live?.map (·.mark record.traffic)) := by
  have mine : φ.Holds record := commits.symm.imp And.left id
  refine ⟨fun entry live d => ?_, fun _ record holds => ?_⟩
  · obtain ⟨old, stands, rfl⟩ := Option.map_eq_some_iff.1 live
    refine Nat.le_of_eq (congrArg (Traffic.bytes · d) ?_)
    rw [Entry.flushed_mark, Entry.traffic_mark, h.current calm record mine old stands]
  · obtain ⟨⟨⟩⟩ | ⟨⟨⟩⟩ := holds

/-- Every effect keeps a record intact, if commits are timely. -/
theorem effect (h : Intact quiet φ live?) {fails : Error → Prop} {lost : Entry → Prop}
    {o : Occurrence} {row row' : Traffic}
    (effect : Effect key fails lost φ live? row o live?' row')
    (timely : ∀ markers result, o = .commit key markers result → quiet) :
    Intact quiet (φ.after key o) live?' := by
  have rests : Intact quiet .rest live? := h.leave trivial
  cases effect with
  | apart apart => rwa [Phase.after_of_apart apart]
  | list keys =>
    unfold Phase.after
    dsimp only
    split
    · exact h.leave trivial
    · exact rests
  | glance records unlisted =>
    cases φ with
    | listed => exact (unlisted rfl).elim
    | _ => exact h
  | read records told =>
    have phase : Phase.after key .listed (.observation records) =
        .observed (live?.map (·.toRecord key)) := by
      simp [Phase.after, told]
    rw [phase]
    exact h.read
  | write traffic writes =>
    rw [Phase.after, if_pos rfl]
    obtain ⟨record, rfl, -⟩ | rfl := writes
    · exact h.write
    · exact rests
  | writeFails traffic e writes failure =>
    rw [Phase.after, if_pos rfl]
    exact h.leave (writes.drains e)
  | commit record commits =>
    rw [Phase.after, if_pos rfl]
    exact h.commit commits (timely _ _ rfl)
  | commitFails record e commits failure =>
    rw [Phase.after, if_pos rfl]
    exact rests
  | settle purge settles =>
    rw [settles.after_settling]
    split
    · exact of_none
    · exact rests
  | settleFails purge e settles failure =>
    rw [settles.after_settling]
    exact rests
  | take records told => exact of_none
  | leave records untold =>
    rw [Phase.after, untold]
    exact rests
  | restore traffic live?' accrues =>
    rw [Phase.after, if_pos rfl]
    exact (h.accrue accrues).leave trivial
  | restoreFails traffic e failure =>
    rw [Phase.after, if_pos rfl]
    exact rests
  | forget result live?' left =>
    rw [Phase.after, if_pos rfl]
    exact rests.stays left.symm

end Intact

/-! ## Stages -/

namespace Stage

variable {l : Ledger} {s : Stage}

/-- The record of `key` is intact. -/
def IsIntact (key : Key) (s : Stage) : Prop := Intact (IsQuiet s.log) (s.phase key) (s.live? key)

theorem intact_incrementAll {φ : Phase} {quiet : Prop} {now : Instant} {hot : Hot.Store}
    (hs : hot.Scheduled) (entries : List (Key × Traffic)) (h : Intact quiet φ (hot.live? now key)) :
    Intact False φ ((hot.incrementAll now entries).live? now key) := by
  induction entries generalizing hot quiet with
  | nil => exact h.mono False.elim
  | cons entry entries ih =>
    obtain ⟨key', traffic⟩ := entry
    refine ih (hs.increment now key' traffic) (?_ : Intact False φ _)
    by_cases own : key' = key
    · subst own
      exact h.accrue (accrues_increment hs now key' traffic)
    · rw [Hot.Store.live?_increment_of_ne hot now own]
      exact h.mono False.elim

theorem IsIntact.attend (hs : s.world.hot.Scheduled) (h : s.IsIntact key) {occasion : Occasion}
    (unseeded : ¬ occasion.Seeds) : (s.attend l occasion).IsIntact key := by
  obtain ⟨writes, side, metrics, eq⟩ | ⟨log, -, stays⟩ := attend_cases key hs unseeded
  · rw [eq]
    exact intact_incrementAll hs writes h
  · unfold IsIntact phase at h ⊢
    rw [log]
    exact h.stays stays

/-- Apart from the work a key leaves the active index only with its record. -/
theorem IsEnlisted.attend (hs : s.world.hot.Scheduled) (h : s.IsEnlisted key)
    {occasion : Occasion} (unseeded : ¬ occasion.Seeds) : (s.attend l occasion).IsEnlisted key := by
  unfold IsEnlisted at h ⊢
  rw [phase_attend]
  cases occasion with
  | incident incident =>
    cases incident with
    | arrival key' traffic => exact h.increment hs key' traffic
    | arrivals entries => exact h.incrementAll hs entries
    | seeding key' baseline => exact (unseeded trivial).elim
    | removal key' => exact h.forget hs key'
    | passing nanos => exact h.pass (Int.le_add_of_nonneg_right (Int.natCast_nonneg nanos))
    | cancellation => exact h
  | report lag e =>
    obtain ⟨side, metrics, eq⟩ := s.attend_report l lag e
    rw [eq]
    exact h.incrementAll hs _
  | reports lag entries =>
    obtain ⟨side, metrics, eq⟩ := s.attend_reports l lag entries
    rw [eq]
    exact h.incrementAll hs _
  | clearing bucket => exact h.takeBucket hs bucket
  | retirement type resource => exact h
  | sweep =>
    exact h.of_live_eq (a := .sweep) hs id (Hot.Store.live?_expire hs s.world.now key) id

end Stage

end Compaction

/-! ## Schedules -/

/-- The occasion counts traffic. -/
def Occasion.Counts : Occasion → Prop
  | .incident (.arrival _ _) | .incident (.arrivals _) | .report _ _ | .reports _ _ => True
  | _ => False

namespace Compaction.Stage

variable {l : Ledger} {key : Key} {s : Stage} {occasion : Occasion}

theorem timely_attend (h : IsTimely key s.log) : IsTimely key (s.attend l occasion).log := by
  cases occasion with
  | incident incident => cases incident <;> exact h
  | _ => exact h

theorem quiet_attend (h : IsQuiet s.log) (silent : ¬ occasion.Counts) :
    IsQuiet (s.attend l occasion).log := by
  cases occasion with
  | incident incident =>
    cases incident with
    | arrival | arrivals => exact (silent trivial).elim
    | _ => exact h
  | report | reports => exact (silent trivial).elim
  | _ => exact h

/-- Where it is quiet, it stays so until the work ends, and commits are timely. -/
theorem timely_serve (h : IsTimely key s.log ∧ IsQuiet s.log) (failure? : Option Error) {β : Type}
    (request : Request β) : IsTimely key (serve failure? request s).2.log ∧
      IsQuiet (serve failure? request s).2.log := by
  obtain ⟨past, quiet⟩ : IsTimely key (s.before request).log ∧ IsQuiet (s.before request).log :=
    before_keeps (P := fun s => IsTimely key s.log ∧ IsQuiet s.log) (fun h => ⟨h.1, trivial⟩) h
  exact ⟨past.cons quiet _, (isQuiet_told request _).2 quiet⟩

end Compaction.Stage

namespace Station

open Compaction

/-- The choice counts traffic. -/
def Choice.Counts : Choice → Prop
  | .occasion o => o.Counts
  | _ => False

instance : DecidablePred Choice.Counts
  | .occasion (.incident (.arrival _ _)) | .occasion (.incident (.arrivals _))
  | .occasion (.report _ _) | .occasion (.reports _ _) => .isTrue trivial
  | .occasion (.incident (.seeding _ _)) | .occasion (.incident (.removal _))
  | .occasion (.incident (.passing _)) | .occasion (.incident .cancellation)
  | .occasion (.clearing _) | .occasion (.retirement _ _) | .occasion .sweep => .isFalse id
  | .cycle _ | .round _ | .drain _ | .trim _ | .move _ _ => .isFalse id

variable {l : Ledger} {key : Key} {s : Station}

/-- Traffic is counted only while nothing is under way. -/
def CountsBetween (l : Ledger) (s : Station) : List Choice → Prop
  | [] => True
  | choice :: schedule =>
    (choice.Counts → s.IsIdle) ∧ CountsBetween l (s.step l choice) schedule

instance CountsBetween.decidable :
    (s : Station) → (schedule : List Choice) → Decidable (s.CountsBetween l schedule)
  | _, [] => .isTrue trivial
  | s, choice :: schedule =>
    let _ := CountsBetween.decidable (s.step l choice) schedule
    inferInstanceAs (Decidable ((choice.Counts → s.IsIdle) ∧
      CountsBetween l (s.step l choice) schedule))

/-- Commits were timely, and it is quiet for those that are due. -/
structure Timely (key : Key) (s : Station) : Prop where
  past : IsTimely key s.log
  quiet : ¬ s.IsIdle → IsQuiet s.log

namespace Timely

theorem begin (h : s.Timely key) (isCancelled : Bool) (work : Procedure Flusher.Memory) :
    (s.begin isCancelled work).Timely key := by
  unfold Station.begin
  split
  · exact h
  · exact ⟨h.past, fun _ => trivial⟩

theorem move (h : s.Timely key) (path : List Nat) (failure? : Option Error) :
    (s.move path failure?).Timely key := by
  unfold Station.move
  split
  · exact h
  · next work busy =>
    have quiet : IsQuiet s.log := h.quiet fun idle => nomatch busy.symm.trans idle
    split
    · exact ⟨h.past, fun busy => (busy rfl).elim⟩
    · have kept := Program.move_keeps (P := fun s : Stage => IsTimely key s.log ∧ IsQuiet s.log)
        (fun request _ h => Stage.timely_serve h failure? request) work path ⟨h.past, quiet⟩
      exact ⟨kept.1, fun _ => kept.2⟩

theorem step (h : s.Timely key) {choice : Choice} (between : choice.Counts → s.IsIdle) :
    (s.step l choice).Timely key := by
  cases choice with
  | occasion o =>
    refine ⟨Stage.timely_attend h.past, fun busy => Stage.quiet_attend (h.quiet busy) ?_⟩
    exact fun counts => busy (between counts)
  | cycle isCancelled => exact h.begin _ _
  | round isCancelled => exact h.begin _ _
  | drain bucket => exact h.begin _ _
  | trim bucket =>
    unfold Station.step
    dsimp only
    split
    · exact h.begin _ _
    · exact h
  | move path failure? => exact h.move path failure?

end Timely

theorem throughout_timely {schedule : List Choice} (h : s.Timely key)
    (between : s.CountsBetween l schedule) :
    s.Throughout l (fun s => IsTimely key s.log) schedule := by
  induction schedule generalizing s with
  | nil => exact h.past
  | cons choice schedule ih => exact ⟨h.past, ih (h.step between.1) between.2⟩

/-! ## Upkeep -/

theorem upkeep_intact : Upkeep l key (fun choice => ¬ choice.Seeds)
    (fun s => s.world.hot.Scheduled ∧ IsTimely key s.log)
    (fun s => s.IsEnlisted key ∧ s.IsIntact key) where
  scheduled good := good.1
  begun _ good := good
  apart failure? β request apart good :=
    ⟨Stage.scheduled_answer_world good.1 failure? request,
      good.2.of_apart (Stage.occurrence_of_apart apart)⟩
  attends unseeded h good _ := ⟨h.1.attend good.1 unseeded, h.2.attend good.1 unseeded⟩
  begins _ _ h := ⟨h.1.mono False.elim, h.2.leave (ψ := .waiting) trivial⟩
  answers {_ failure?} _ s β request called effect h good good' := by
    refine ⟨h.1.answer good.1 called, ?_⟩
    have kept := Intact.effect h.2 effect fun markers result told => by
      -- the commit is the newest occurrence of a log in which commits are timely
      have timely : IsTimely key
          (occurrence request (Stage.answer failure? request s).1 :: s.log) := good'.2
      rw [told] at timely
      exact timely.1 rfl
    exact kept.mono (isQuiet_told request _).1

/-- At every moment of a run from empty stores, in which traffic is counted only between the work,
a record that is not settled is active, and its markers are within its counter. -/
theorem intact_between {lifespan : Int} {now : Instant} {schedule : List Choice}
    (unseeded : ∀ choice ∈ schedule, ¬ choice.Seeds)
    (between : (Station.empty lifespan now).CountsBetween l schedule) {s : Station}
    (reached : (Station.empty lifespan now).play l schedule = s) (key : Key) :
    s.IsEnlisted key ∧ s.IsIntact key := by
  subst reached
  have scheduled := throughout_scheduled (l := l) (s := .empty lifespan now)
    (Hot.Store.scheduled_empty lifespan) schedule
  have timely : (Station.empty lifespan now).Timely key := ⟨trivial, fun busy => (busy rfl).elim⟩
  have absent : (Station.empty lifespan now).live? key = none := by
    simp [Station.empty, Stage.live?, Hot.Store.live?]
  have start : (Station.empty lifespan now).IsEnlisted key ∧
      (Station.empty lifespan now).IsIntact key := by
    refine ⟨.of_none absent, ?_⟩
    unfold Stage.IsIntact
    rw [absent]
    exact .of_none
  exact (upkeep_intact.invariant.play unseeded
    (scheduled.and (throughout_timely timely between)) start ended_rest).1

end Station

end Metering
