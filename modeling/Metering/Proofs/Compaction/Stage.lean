import Metering.Proofs.Compaction.Phase
import Metering.Proofs.Way
import Metering.Proofs.Hot.Records

/-!
# The stage of a compactor

The stores that a compactor works on, their clock, and the log of what has happened there.
Incidents happen apart from the work: traffic arrives, a counter is seeded or removed, time passes.
Requests are answered by the stores, or fail without reaching them.

Results:
1. `Grounded.meet`, `Grounded.answer`: what no incident and no request changes.
2. `Grounded.sound`: the answers are sound, and in calm none of them tells a failure.
3. `accumulate_of_open`: what a write does to the rows of the cold store.
-/

namespace Metering.Compaction

/-- Stores, clock and flag, and the log of what happened, the newest occurrence first. -/
structure Stage where
  world : World
  log : List Occurrence := []

/-- Something that happens apart from the work of the compactor. -/
inductive Incident
  | arrival (key : Key) (traffic : Traffic)
  | arrivals (entries : List (Key × Traffic))
  | seeding (key : Key) (baseline : Traffic)
  | removal (key : Key)
  | passing (nanos : Nat)
  | cancellation

namespace Stage

/-- The phase of a key. -/
def phase (key : Key) (s : Stage) : Phase := .ofLog key s.log

/-- The record of a key, if it is live. -/
def live? (key : Key) (s : Stage) : Option Hot.Entry := s.world.hot.live? s.world.now key

/-- What the cold tier does not have of a key, nothing if there is no record. -/
def pending (key : Key) (s : Stage) : Traffic := (s.live? key).elim 0 (·.pending)

/-- The row of a key in the cold tier. -/
def row (key : Key) (s : Stage) : Traffic := (s.world.cold.row (.ofKey key) key.bucket).getD 0

/-- The stage after an incident. -/
def meet (s : Stage) : Incident → Stage
  | .arrival key traffic =>
    { world := { s.world with hot := s.world.hot.increment s.world.now key traffic }
      log := .arrival [(key, traffic)] :: s.log }
  | .arrivals entries =>
    { world := { s.world with hot := s.world.hot.incrementAll s.world.now entries }
      log := .arrival entries :: s.log }
  | .seeding key baseline =>
    { world := { s.world with hot := (s.world.hot.seed s.world.now key baseline).2 }
      log := .seeding key ((s.world.hot.counter s.world.now key).takes baseline) :: s.log }
  | .removal key => { s with world := { s.world with hot := (s.world.hot.forget key).2 } }
  | .passing nanos => { s with world := { s.world with now := s.world.now.addNanos nanos } }
  | .cancellation => { s with world := { s.world with isCancelled := true } }

/-- The answer of the world, or a failure of the store that is called. -/
def reply (failure? : Option Error) {β : Type} (request : Request β) (w : World) : β × World :=
  match failure?, request with
  | some e, .hot _ => (.error e, w)
  | some e, .cold _ => (.error e, w)
  | some e, .side _ => (.error e, w)
  | _, request => w.answer request

/-- The answer to a request, which the log takes note of. -/
def answer (failure? : Option Error) {β : Type} (request : Request β) (s : Stage) : β × Stage :=
  let (b, world) := reply failure? request s.world
  (b, { world, log := occurrence request b :: s.log })

end Stage

/-! ## Answers -/

namespace Stage

/-- Requests take no time. -/
theorem now_answer {s : Stage} {failure? : Option Error} {β : Type} (request : Request β) :
    (Stage.answer failure? request s).2.world.now = s.world.now := by
  cases request <;> cases failure? <;> rfl

/-- What no request and no incident changes: the hot store finds its due records, and the cold store
takes writes. -/
structure Grounded (s : Stage) : Prop where
  scheduled : s.world.hot.Scheduled
  unretired : s.world.cold.retired = []
  online : s.world.cold.isOffline = false

theorem Grounded.meet {s : Stage} (h : s.Grounded) (incident : Incident) :
    (s.meet incident).Grounded := by
  refine ⟨?_, ?_, ?_⟩
  · cases incident with
    | arrival key traffic => exact h.scheduled.increment _ key traffic
    | arrivals entries => exact h.scheduled.incrementAll _ entries
    | seeding key baseline => exact h.scheduled.seed _ key baseline
    | removal key => exact h.scheduled.forget key
    | _ => exact h.scheduled
  · cases incident <;> exact h.unretired
  · cases incident <;> exact h.online

theorem scheduled_answer {hot : Hot.Store} (hs : hot.Scheduled) (now : Instant) {α : Type}
    (request : Hot.Request α) : (hot.answer now request).2.Scheduled := by
  cases request with
  | increment key traffic => exact hs.increment now key traffic
  | incrementAll entries => exact hs.incrementAll now entries
  | takeBucket bucket | clearBucket bucket => exact hs.takeBucket now bucket
  | readBucket _ | activeKeys _ | activeBuckets => exact hs.expire now
  | read _ | snapshot _ => exact hs
  | commit key expected markers => exact hs.commit now key expected markers
  | settle key purge => exact hs.settle now key purge
  | seed key baseline => exact hs.seed now key baseline
  | forget key => exact hs.forget key

theorem cold_answer (cold : Cold.Store) {α : Type} (request : Cold.Request α) :
    (cold.answer request).2.retired = cold.retired ∧
      (cold.answer request).2.isOffline = cold.isOffline := by
  cases request with
  | accumulate target bucket traffic =>
    unfold Cold.Store.answer Cold.Store.accumulate
    dsimp only
    split
    · exact ⟨rfl, rfl⟩
    · split
      · exact ⟨rfl, rfl⟩
      · split <;> exact ⟨rfl, rfl⟩
  | _ => exact ⟨rfl, rfl⟩

theorem Grounded.answer {s : Stage} (h : s.Grounded) (failure? : Option Error) {β : Type}
    (request : Request β) : (Stage.answer failure? request s).2.Grounded := by
  cases request with
  | hot r =>
    cases failure? with
    | none => exact ⟨scheduled_answer h.scheduled _ r, h.unretired, h.online⟩
    | some e => exact ⟨h.scheduled, h.unretired, h.online⟩
  | cold r =>
    cases failure? with
    | none =>
      obtain ⟨retired, offline⟩ := cold_answer s.world.cold r
      exact ⟨h.scheduled, retired.trans h.unretired, offline.trans h.online⟩
    | some e => exact ⟨h.scheduled, h.unretired, h.online⟩
  | side r => cases failure? <;> exact ⟨h.scheduled, h.unretired, h.online⟩
  | _ => cases failure? <;> exact ⟨h.scheduled, h.unretired, h.online⟩

theorem soundHot_answer {hot : Hot.Store} (hs : hot.Scheduled) (now : Instant) {α : Type}
    (request : Hot.Request α) : SoundHot request (hot.answer now request).1 := by
  cases request with
  | activeKeys limit => exact Hot.Store.activeKeys_nodup hot now limit
  | snapshot keys =>
    refine ⟨fun key => (hot.live? now key).map (·.toRecord key), rfl, ?_⟩
    intro key record found
    obtain ⟨entry, -, rfl⟩ := Option.map_eq_some_iff.1 found
    rfl
  | takeBucket bucket => exact Hot.Store.takeBucket_nodup hs now bucket
  | _ => trivial

/-- The cold store takes all writes. -/
def IsOpen (cold : Cold.Store) : Prop := cold.retired = [] ∧ cold.isOffline = false

theorem Grounded.isOpen {s : Stage} (h : s.Grounded) : IsOpen s.world.cold :=
  ⟨h.unretired, h.online⟩

/-- A write adds to one row, or the store refuses it. -/
theorem accumulate_cases (cold : Cold.Store) (target : Cold.Target) (bucket : Bucket)
    (traffic : Traffic) :
    ((cold.accumulate target bucket traffic).1 = .ok () ∧
      ∀ row : Cold.RowKey, ((cold.accumulate target bucket traffic).2.rows[row]?).getD 0 =
        if row = ⟨bucket, target⟩ then (cold.rows[row]?).getD 0 + traffic
        else (cold.rows[row]?).getD 0) ∨
    ∃ e, (cold.accumulate target bucket traffic).1 = .error e ∧
      (cold.accumulate target bucket traffic).2 = cold ∧ ¬ IsOpen cold := by
  unfold Cold.Store.accumulate
  split
  · next offline =>
    exact .inr ⟨_, rfl, rfl, fun isOpen => Bool.false_ne_true (isOpen.2.symm.trans offline)⟩
  · split
    · -- nothing is written, which is the same as adding nothing
      next zero =>
      refine .inl ⟨rfl, fun row => ?_⟩
      split
      · rw [Traffic.isZero_iff.1 zero, Traffic.add_zero]
      · rfl
    · split
      · next retired =>
        refine .inr ⟨_, rfl, rfl, fun isOpen => ?_⟩
        rw [isOpen.1] at retired
        cases retired
      · refine .inl ⟨rfl, fun row => ?_⟩
        simp only [Cold.Sums.add, Std.ExtTreeMap.getElem?_alter,
          Std.LawfulEqOrd.compare_eq_iff_eq]
        by_cases same : row = ⟨bucket, target⟩
        · subst same
          simp
        · simp [same, Ne.symm same]

/-- A write to a store that takes writes adds to one row. -/
theorem accumulate_of_open {cold : Cold.Store} (isOpen : IsOpen cold) (target : Cold.Target)
    (bucket : Bucket) (traffic : Traffic) :
    (cold.accumulate target bucket traffic).1 = .ok () ∧
      ∀ row : Cold.RowKey, ((cold.accumulate target bucket traffic).2.rows[row]?).getD 0 =
        if row = ⟨bucket, target⟩ then (cold.rows[row]?).getD 0 + traffic
        else (cold.rows[row]?).getD 0 :=
  (accumulate_cases cold target bucket traffic).resolve_right fun ⟨_, _, _, closed⟩ => closed isOpen

theorem cold_answer_ok {cold : Cold.Store} (isOpen : IsOpen cold) {α : Type}
    (request : Cold.Request α) : ∃ a, (cold.answer request).1 = .ok a := by
  have online := isOpen.2
  cases request with
  | accumulate target bucket traffic =>
    exact ⟨(), (accumulate_of_open isOpen target bucket traffic).1⟩
  | sumByGroup query =>
    exact ⟨_, by simp only [Cold.Store.answer, Cold.Store.sumByGroup, online]; rfl⟩
  | top query count =>
    exact ⟨_, by simp only [Cold.Store.answer, Cold.Store.top, Cold.Store.sumByGroup, online]; rfl⟩
  | trend filter range granularity rowCap =>
    exact ⟨_, by simp only [Cold.Store.answer, Cold.Store.trend, online]; rfl⟩

/-- The answers at a stage are sound, whatever fails. -/
theorem sound_of_scheduled {s : Stage} (hs : s.world.hot.Scheduled) (failure? : Option Error)
    {β : Type} (request : Request β) : Sound False request (Stage.answer failure? request s).1 := by
  cases request with
  | hot r =>
    cases failure? with
    | none =>
      refine ⟨False.elim, ?_⟩
      rintro _ ⟨⟩
      exact soundHot_answer hs s.world.now r
    | some e => exact ⟨False.elim, nofun⟩
  | cold r => exact False.elim
  | isCancelled => exact False.elim
  | _ => trivial

/-- The answers at a stage are sound, and in calm they tell no failure. -/
theorem Grounded.sound {s : Stage} (h : s.Grounded) {failure? : Option Error} {calm : Prop}
    (calmly : calm → failure? = none ∧ s.world.isCancelled = false) {β : Type}
    (request : Request β) : Sound calm request (Stage.answer failure? request s).1 := by
  cases request with
  | hot r =>
    cases failure? with
    | none =>
      refine ⟨fun _ => ⟨_, rfl⟩, ?_⟩
      rintro _ ⟨⟩
      exact soundHot_answer h.scheduled s.world.now r
    | some e => exact ⟨fun calm => (nomatch (calmly calm).1), nofun⟩
  | cold r =>
    cases failure? with
    | none => exact fun _ => cold_answer_ok h.isOpen r
    | some e => exact fun calm => nomatch (calmly calm).1
  | isCancelled => cases failure? <;> exact fun calm => (calmly calm).2
  | _ => trivial

end Stage

end Metering.Compaction
