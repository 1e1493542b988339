import Metering.Proofs.Cold.Sums
import Metering.Proofs.Ledger.Ceiling
import Metering.Proofs.Ledger.Coverage

/-!
# Calm runs

In a calm run a ledger counts traffic, and its compactor flushes, purges and drains it, but no call
fails and nothing else is done to the stores. What was counted for a key in such a run is in its
row, pending in its record, or held by a drain that has taken it, unless some of it expired
unflushed.

Results:
1. `Tally.accepted_eq`: what was accepted for a key are its increments.
2. `Station.kept_of_calm`: the accounts of a key agree throughout a calm run in which no pending
   traffic of it expires.
3. `Stage.IsKept.row_eq`: where nothing of a key is pending, its row is what was counted for it.
-/

namespace Metering

open Compaction

/-! ## Calm -/

/-- Nothing is done to the stores but that the ledger counts traffic. -/
def Occasion.IsCalm : Occasion → Prop
  | .report _ _ | .reports _ _ | .incident (.passing _) | .incident .cancellation | .sweep => True
  | _ => False

instance : DecidablePred Occasion.IsCalm
  | .report _ _ | .reports _ _ | .incident (.passing _) | .incident .cancellation | .sweep =>
    .isTrue trivial
  | .incident (.arrival _ _) | .incident (.arrivals _) | .incident (.seeding _ _)
  | .incident (.removal _) | .clearing _ | .retirement _ _ => .isFalse id

/-- The ledger counts traffic, or its compactor works on the buckets that are its to work on, and no
call fails. -/
def Station.Choice.IsCalm : Station.Choice → Prop
  | .occasion o => o.IsCalm
  | .cycle _ | .round _ | .trim _ => True
  | .drain _ => False
  | .move _ failure? => failure? = none

instance : DecidablePred Station.Choice.IsCalm
  | .occasion o => inferInstanceAs (Decidable o.IsCalm)
  | .cycle _ | .round _ | .trim _ => .isTrue trivial
  | .drain _ => .isFalse id
  | .move _ failure? => inferInstanceAs (Decidable (failure? = none))

namespace Compaction.Stage

variable {l : Ledger} {s : Stage} {key : Key} {d : Way}

/-- A calm occasion is an arrival of the writes of a batch, or changes at most the time, the flag
and what has expired. -/
theorem attend_calm {occasion : Occasion} (calm : occasion.IsCalm) :
    (∃ lag entries side metrics, s.attend l occasion =
      (s.meet (.arrivals (s.writes l lag entries))).aside side metrics) ∨
    ((s.attend l occasion).log = s.log ∧ (s.attend l occasion).world.cold = s.world.cold ∧
      ((s.attend l occasion).world.hot = s.world.hot ∨
        s.attend l occasion =
          { s with world := { s.world with hot := s.world.hot.expire s.world.now } })) := by
  cases occasion with
  | report lag e => exact .inl ⟨lag, [e], s.attend_report l lag e⟩
  | reports lag entries => exact .inl ⟨lag, entries, s.attend_reports l lag entries⟩
  | sweep => exact .inr ⟨rfl, rfl, .inr rfl⟩
  | incident incident =>
    cases incident with
    | passing nanos => exact .inr ⟨rfl, rfl, .inl rfl⟩
    | cancellation => exact .inr ⟨rfl, rfl, .inl rfl⟩
    | _ => exact calm.elim
  | _ => exact calm.elim

theorem cold_attend {occasion : Occasion} (calm : occasion.IsCalm) :
    (s.attend l occasion).world.cold = s.world.cold := by
  obtain ⟨lag, entries, side, metrics, eq⟩ | ⟨-, cold, -⟩ := attend_calm (l := l) (s := s) calm
  · rw [eq]
    rfl
  · exact cold

theorem grounded_attend (h : s.Grounded) {occasion : Occasion} (calm : occasion.IsCalm) :
    (s.attend l occasion).Grounded := by
  have cold := cold_attend (l := l) (s := s) calm
  exact ⟨scheduled_attend h.scheduled occasion, cold ▸ h.unretired, cold ▸ h.online⟩

/-- Nothing was seeded for a key, no commit of it failed, and no drain lost any of it. -/
structure IsClean (key : Key) (s : Stage) : Prop where
  unseeded : ∀ d, (s.tally key).seeded d = 0
  landed : ∀ d, (s.tally key).resent d = 0
  restored : ∀ o ∈ s.log, o.loses key = false

theorem IsClean.tell (h : s.IsClean key) {o : Occurrence} {world : World}
    (unseeded : ∀ key' taken, o ≠ .seeding key' taken)
    (landed : ∀ key' markers e, o ≠ .commit key' markers (.error e))
    (restored : o.loses key = false) : IsClean key ⟨world, o :: s.log⟩ := by
  have tally : Stage.tally key ⟨world, o :: s.log⟩ = (s.tally key).after key (s.phase key) o := rfl
  refine ⟨fun d => ?_, fun d => ?_, ?_⟩
  · rw [tally, Tally.after_seeded unseeded]
    exact h.unseeded d
  · rw [tally, Tally.after_resent landed]
    exact h.landed d
  · rintro o' (_ | ⟨_, member⟩)
    · exact restored
    · exact h.restored o' member

theorem IsClean.of_log {t : Stage} (h : s.IsClean key) (same : t.log = s.log) : t.IsClean key := by
  obtain ⟨unseeded, landed, restored⟩ := h
  unfold Stage.tally at unseeded landed
  rw [← same] at unseeded landed restored
  exact ⟨unseeded, landed, restored⟩

theorem IsClean.attend (h : s.IsClean key) {occasion : Occasion} (calm : occasion.IsCalm) :
    (s.attend l occasion).IsClean key := by
  obtain ⟨lag, entries, side, metrics, eq⟩ | ⟨log, -⟩ := attend_calm (l := l) (s := s) calm
  · rw [eq]
    refine h.tell (o := .arrival (s.writes l lag entries)) ?_ ?_ rfl
    · rintro _ _ ⟨⟩
    · rintro _ _ _ ⟨⟩
  · exact h.of_log log

theorem IsClean.answer (h : s.IsClean key) {β : Type} (request : Request β) :
    (Stage.answer none request s).2.IsClean key := by
  refine h.tell (occurrence_ne_seeding request _) ?_ ?_
  · intro key' markers e told
    cases request with
    | hot r => cases r <;> cases told
    | cold r => cases r <;> cases told
    | _ => cases told
  · cases request with
    | hot r => cases r <;> rfl
    | cold r => cases r <;> rfl
    | _ => rfl

end Compaction.Stage

/-! ## Increments -/

namespace Compaction

/-- What was counted in an occurrence, apart from the work. -/
def Occurrence.increments : Occurrence → List (Key × Traffic)
  | .arrival entries => entries
  | _ => []

/-- All that was counted, apart from the work. -/
def Stage.increments (s : Stage) : List (Key × Traffic) := s.log.flatMap (·.increments)

open Cold (bytesWhere bytesWhere_append bytesWhere_cons)

variable {key : Key} {d : Way}

theorem counted_eq_bytesWhere (entries : List (Key × Traffic)) :
    counted key d entries = bytesWhere (· = key) d entries := by
  induction entries with
  | nil => rfl
  | cons entry entries ih => rw [bytesWhere_cons, counted, ih]

theorem Occurrence.increments_eq_nil {o : Occurrence} (other : ∀ entries, o ≠ .arrival entries) :
    o.increments = [] := by
  cases o with
  | arrival entries => exact (other entries rfl).elim
  | _ => rfl

/-- What was accepted for a key are its increments. -/
theorem Tally.accepted_eq (log : List Occurrence) :
    (Tally.ofLog key log).accepted d = bytesWhere (· = key) d (log.flatMap (·.increments)) := by
  induction log with
  | nil => rfl
  | cons o log ih =>
    rw [List.flatMap_cons, bytesWhere_append, ← ih, Tally.ofLog]
    by_cases arrives : ∃ entries, o = .arrival entries
    · obtain ⟨entries, rfl⟩ := arrives
      rw [Nat.add_comm]
      exact congrArg (_ + ·) (counted_eq_bytesWhere entries)
    · have other : ∀ entries, o ≠ .arrival entries := fun entries told => arrives ⟨entries, told⟩
      rw [Tally.after_accepted other, Occurrence.increments_eq_nil other]
      exact (Nat.zero_add _).symm

theorem Tally.accepted_mono {log log' : List Occurrence} (suffix : log <:+ log') (d : Way) :
    (Tally.ofLog key log).accepted d ≤ (Tally.ofLog key log').accepted d := by
  obtain ⟨newer, rfl⟩ := suffix
  rw [Tally.accepted_eq, Tally.accepted_eq, List.flatMap_append, bytesWhere_append]
  exact Nat.le_add_left ..

end Compaction

/-! ## Buckets before the window -/

namespace Compaction

variable {key : Key}

theorem Occurrence.not_forgets_of_apart {o : Occurrence} (apart : o.Apart key) :
    o.forgets key = false := by
  cases o with
  | forgetting key' result =>
    cases result with
    | ok _ => exact decide_eq_false apart
    | error e => rfl
  | _ => rfl

/-- Only a key whose resource is gone is forgotten. -/
theorem Effect.not_forgets {fails : Error → Prop} {lost : Hot.Entry → Prop} {φ : Phase}
    {live? live?' : Option Hot.Entry} {row row' : Traffic} {o : Occurrence}
    (effect : Effect key fails lost φ live? row o live?' row') (known : φ ≠ .gone) :
    o.forgets key = false := by
  cases effect with
  | apart apart => exact Occurrence.not_forgets_of_apart apart
  | forget => exact (known rfl).elim
  | _ => rfl

/-- The accounts of a key agree, and its record was never removed because its resource is gone. -/
def Stage.IsKept (key : Key) (s : Stage) : Prop :=
  s.IsBalanced key ∧ ∀ o ∈ s.log, o.forgets key = false

theorem Stage.IsKept.tell {s : Stage} (forgets : ∀ o ∈ s.log, o.forgets key = false)
    {o : Occurrence} {world : World} (balanced : Stage.IsBalanced key ⟨world, o :: s.log⟩)
    (present : o.forgets key = false) : Stage.IsKept key ⟨world, o :: s.log⟩ := by
  refine ⟨balanced, ?_⟩
  rintro o' (_ | ⟨_, member⟩)
  · exact present
  · exact forgets o' member

/-- Of a key of which nothing is pending or under way, the row is what was counted. -/
theorem Stage.IsKept.row_eq {s : Stage} (h : s.IsKept key)
    (clean : s.IsClean key) (still : ∀ d, (s.phase key).inTransit d = 0)
    (flushed : ∀ d, pendingOf d (s.live? key) = 0) (d : Way) :
    (s.row key).bytes d = (s.tally key).accepted d := by
  have ahead : (s.phase key).ahead d = 0 := by
    cases phase : s.phase key with
    | written record =>
      have le := h.1.ahead_le (.inr phase) d
      exact Nat.le_zero.1 (flushed d ▸ le)
    | _ => rfl
  have balance := h.1.balance d
  have risk := h.1.risk d
  rw [flushed, still, ahead, clean.landed] at balance
  rw [clean.unseeded] at risk
  omega

end Compaction

namespace Station

variable {l : Ledger} {key : Key}

theorem balanced_attend {s : Stage} {occasion : Occasion} (calm : occasion.IsCalm)
    (good : s.Grounded ∧ s.Regular key) (h : s.IsKept key)
    (good' : (s.attend l occasion).Grounded ∧ (s.attend l occasion).Regular key) :
    (s.attend l occasion).IsKept key := by
  obtain ⟨lag, entries, side, metrics, eq⟩ | ⟨log, cold, same | same⟩ :=
    Stage.attend_calm (l := l) (s := s) calm
  · have regular := good'.2
    rw [eq] at regular ⊢
    have met : (s.meet (.arrivals (s.writes l lag entries))).IsBalanced key :=
      balanced_meet trivial good.1 h.1 ⟨regular.held, regular.restored, regular.room⟩
    exact .tell h.2 met rfl
  · refine ⟨?_, log ▸ h.2⟩
    have kept := balanced_passing (now_le_attend (l := l) s occasion) h.1 (same ▸ good'.2.held)
    unfold Stage.IsBalanced Stage.phase Stage.tally Stage.row Stage.live?
    rw [log, cold, same]
    exact kept
  · rw [same]
    refine ⟨?_, h.2⟩
    have kept := Hot.Store.live?_expire good.1.scheduled s.world.now key
    unfold Stage.IsBalanced Stage.live?
    rw [kept]
    exact h.1

theorem upkeep_kept : Upkeep l key Choice.IsCalm (fun s => s.Grounded ∧ s.Regular key)
    (Stage.IsKept key) where
  scheduled good := good.1.scheduled
  begun isCancelled good := by
    refine ⟨⟨good.1.scheduled, good.1.unretired, good.1.online⟩, good.2.held, ?_, good.2.room⟩
    rintro o (_ | ⟨_, member⟩)
    · rfl
    · exact good.2.restored o member
  apart failure? β request apart good :=
    ⟨good.1.answer failure? request, good.2.answer_of_apart good.1 apart⟩
  attends calm h good good' := balanced_attend calm good h good'
  begins isCancelled free h := by
    have ended : Ended False _ := ⟨free, False.elim⟩
    exact .tell h.2 (h.1.relax (still_of_ended ended) .waiting) rfl
  answers {_ failure?} calm s β request _ effect h good good' := by
    obtain rfl : failure? = none := calm
    refine .tell h.2 ?_ (effect.not_forgets h.1.known)
    refine Balanced.effect h.1 effect ?_ ?_ ?_ good.2.room
    · exact fun e fails => nomatch fails good.1.isOpen
    · -- a record that was counted and is not live is forfeited where something of it is pending
      rintro entry ⟨found, expired, -⟩
      refine Decidable.byContradiction fun pending => good'.2.held ?_
      exact ⟨entry, found, expired, pending⟩
    · intro traffic e told
      have restored := good'.2.restored _ List.mem_cons_self
      rw [told] at restored
      exact of_decide_eq_false restored rfl

section Empty

variable {lifespan : Int} {now : Instant} {schedule : List Choice} {s : Station}

theorem throughout_grounded (lifespan : Int) (now : Instant)
    (calm : ∀ choice ∈ schedule, choice.IsCalm) :
    (Station.empty lifespan now).Throughout l Stage.Grounded schedule := by
  have start : (Station.empty lifespan now).Grounded :=
    ⟨Hot.Store.scheduled_empty lifespan, rfl, rfl⟩
  refine throughout ?_ ?_ ?_ calm start
  · exact fun calm h => Stage.grounded_attend h calm
  · exact fun _ h => ⟨h.scheduled, h.unretired, h.online⟩
  · exact fun _ _ request _ h => h.answer _ request

theorem throughout_clean (key : Key) (lifespan : Int) (now : Instant)
    (calm : ∀ choice ∈ schedule, choice.IsCalm) :
    (Station.empty lifespan now).Throughout l (Stage.IsClean key) schedule := by
  have start : (Station.empty lifespan now).IsClean key :=
    ⟨fun _ => rfl, fun _ => rfl, List.forall_mem_nil _⟩
  refine throughout ?_ ?_ ?_ calm start
  · exact fun calm h => h.attend calm
  · intro s isCancelled h
    refine h.tell (o := .beginning) ?_ ?_ rfl
    · rintro _ _ ⟨⟩
    · rintro _ _ _ ⟨⟩
  · rintro path failure? rfl β request s h
    exact h.answer request

/-- The accounts of a key agree throughout a calm run in which no pending traffic of it expires, and
no drain holds any of it when nothing is under way. -/
theorem kept_of_calm (calm : ∀ choice ∈ schedule, choice.IsCalm)
    (reached : (Station.empty lifespan now).play l schedule = s)
    (held : (Station.empty lifespan now).Throughout l
      (fun s => ¬ s.world.hot.Forfeits s.world.now key) schedule)
    (room : ∀ d, (s.tally key).accepted d ≤ Count.top) :
    s.IsKept key ∧ (s.IsIdle → ∀ d, (s.phase key).inTransit d = 0) := by
  subst reached
  have grounded := throughout_grounded (l := l) lifespan now calm
  have clean := throughout_clean (l := l) key lifespan now calm
  have room := Throughout.of_suffix (l := l) (s := .empty lifespan now)
    (P := fun log => ∀ d, (Tally.ofLog key log).accepted d ≤ Count.top)
    (fun suffix le d => Nat.le_trans (Tally.accepted_mono suffix d) (le d)) room
  have start : (Station.empty lifespan now).IsKept key :=
    ⟨(balanced_empty : (Site.empty lifespan now).IsBalanced key), List.forall_mem_nil _⟩
  have fine := ((grounded.and held).and (clean.and room)).mono
    (Q := fun s => s.Grounded ∧ s.Regular key) fun s good => by
      obtain ⟨⟨grounded, held⟩, clean, room⟩ := good
      refine ⟨grounded, held, clean.restored, fun d => ?_⟩
      rw [clean.landed, clean.unseeded]
      exact room d
  obtain ⟨kept, working⟩ := upkeep_kept.invariant.play calm fine start ended_rest
  exact ⟨kept, fun idle d => (still_of_ended (working.of_idle idle) d).1⟩

end Empty

end Station

end Metering
