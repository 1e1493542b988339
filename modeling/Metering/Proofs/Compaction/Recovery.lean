import Metering.Proofs.Compaction.Aftermath
import Metering.Proofs.Compaction.Arrivals
import Metering.Proofs.Compaction.Claims
import Metering.Proofs.Compaction.Site

/-!
# What is counted after a loss

A record is lost when it is removed or expires. What is counted for its key from then on stays in
the new record or comes to the cold tier, but for what the markers of the old record hide, and the
key stays in the active index.

Results:
1. `Undisturbed.answer_of_apart`: requests about other keys do not disturb a key.
2. `invariant_cycles`: without drains the work on a key is that of a cycle.
3. `invariant_recovers`: the recovery goes on under all that spares the new record.
-/

namespace Metering.Compaction

open Hot (Entry Record)

variable {key : Key}

theorem Aftermath.ofLog_of_early {start : Nat} {log : List Occurrence}
    (early : log.length ≤ start) : Aftermath.ofLog key start log = {} := by
  cases log with
  | nil => rfl
  | cons o log => exact if_pos early

/-! ## Recovery -/

namespace Stage

/-- The aftermath of a key since an earlier stage. -/
def aftermath (key : Key) (s base : Stage) : Aftermath := .ofLog key base.log.length s.log

/-- No record of `key` has expired since an earlier stage, and its sums stay in the range of a
counter. -/
structure Undisturbed (key : Key) (s base : Stage) : Prop where
  lives : 0 < s.world.hot.lifespan
  spared : ∀ entry ∈ s.world.hot.records[key]?,
    s.world.now < entry.expiry ∨ entry.expiry ≤ base.world.now
  room : ∀ d, (base.row key).bytes d + (s.aftermath key base).carried d +
    (s.aftermath key base).accepted d + (s.aftermath key base).resent d ≤ Count.top

instance (s base : Stage) : Decidable (s.Undisturbed key base) :=
  decidable_of_iff (0 < s.world.hot.lifespan ∧ (∀ entry ∈ s.world.hot.records[key]?,
      s.world.now < entry.expiry ∨ entry.expiry ≤ base.world.now) ∧
      ∀ d, (base.row key).bytes d + (s.aftermath key base).carried d +
        (s.aftermath key base).accepted d + (s.aftermath key base).resent d ≤ Count.top)
    ⟨fun h => ⟨h.1, h.2.1, h.2.2⟩, fun h => ⟨h.lives, h.spared, h.room⟩⟩

/-- What was counted since an earlier stage, at which `key` had no record, is not lost. -/
structure Recovers (key : Key) (s base : Stage) : Prop where
  later : base.world.now ≤ s.world.now
  longer : base.log.length ≤ s.log.length
  survives : Survives (base.row key).bytes (s.phase key) (s.live? key) (s.row key)
    (s.aftermath key base)
  enlisted : s.IsEnlisted key

variable {s base : Stage}

theorem aftermath_cons (longer : base.log.length ≤ s.log.length) (o : Occurrence) (world : World) :
    Stage.aftermath key ⟨world, o :: s.log⟩ base =
      (s.aftermath key base).after key (s.phase key) o :=
  if_neg (Nat.not_lt.2 longer)

/-- At a loss the recovery begins. -/
theorem Recovers.begins (absent : base.live? key = none) (known : (base.phase key).Cycles) :
    base.Recovers key base where
  later := Int.le_refl _
  longer := Nat.le_refl _
  survives := by
    have fresh : base.aftermath key base = {} := Aftermath.ofLog_of_early (Nat.le_refl _)
    rw [absent, fresh]
    exact .lost known fun _ => rfl
  enlisted := .of_none absent

end Stage

/-! ## Incidents -/

theorem survives_incrementAll {base : Way → Nat} {φ : Phase} {row : Traffic} {a : Aftermath}
    {now : Instant} (entries : List (Key × Traffic)) {hot : Hot.Store} (hs : hot.Scheduled)
    (lives : 0 < hot.lifespan) (h : Survives base φ (hot.live? now key) row a)
    (room : ∀ d, a.accepted d + counted key d entries ≤ Count.top) :
    Survives base φ ((hot.incrementAll now entries).live? now key) row
      { a with accepted := fun d => a.accepted d + counted key d entries } := by
  have lost : ∀ entry : Entry, hot.lifespan ≤ 0 →
      (entry.pending ≠ 0 → (hot.incrementAll now entries).Forfeits now key) → False :=
    fun _ brief _ => Int.not_lt.2 brief lives
  refine incrementAll_keeps
    (P := fun n live? => Survives base φ live? row { a with accepted := n }) hs entries lost ?_
    (fun d => Nat.le_refl _) h
  intro n live? traffic live?' h within accrues
  cases accrues with
  | nothing zero => simpa [zero] using h
  | grown entry nonzero grows => exact h.arrive grows fun d => Nat.le_trans (within d) (room d)
  | lost entry nonzero grows expired => exact expired.elim

/-- No record but that of another key is seeded or removed. -/
def Choice.Spares (key : Key) : Choice → Prop
  | .incident (.seeding key' _) | .incident (.removal key') => key' ≠ key
  | _ => True

instance : DecidablePred (Choice.Spares key)
  | .incident (.seeding key' _) | .incident (.removal key') =>
    inferInstanceAs (Decidable (key' ≠ key))
  | .incident (.arrival _ _) | .incident (.arrivals _) | .incident (.passing _)
  | .incident .cancellation | .cycle _ _ | .drain _ _ | .move _ _ => .isTrue trivial

/-- No bucket is drained, and no failure tells that a resource is gone. -/
def Choice.Flushes : Choice → Prop
  | .drain _ _ => False
  | .move _ failure? => ∀ e ∈ failure?, e.isNotFound = false
  | _ => True

instance : DecidablePred Choice.Flushes
  | .drain _ _ => .isFalse id
  | .move _ failure? => inferInstanceAs (Decidable (∀ e ∈ failure?, e.isNotFound = false))
  | .incident _ | .cycle _ _ => .isTrue trivial

namespace Stage

variable {s base : Stage}

/-- The new record outlives the passing of time. -/
theorem entry_passing (h : s.Recovers key base) {nanos : Nat}
    (fine : (s.meet (.passing nanos)).Undisturbed key base) :
    (s.meet (.passing nanos)).live? key = s.live? key := by
  have le : s.world.now ≤ s.world.now.addNanos nanos :=
    Int.le_add_of_nonneg_right (Int.natCast_nonneg nanos)
  cases before : s.live? key with
  | none =>
    cases after : (s.meet (.passing nanos)).live? key with
    | none => rfl
    | some entry => exact nomatch before.symm.trans (Hot.Store.live?_of_le le after)
  | some entry =>
    obtain ⟨found, lives⟩ := Hot.Store.live?_eq_some.1 before
    refine Hot.Store.live?_eq_some.2 ⟨found, (fine.spared entry found).resolve_right fun past => ?_⟩
    exact Int.not_le.2 lives (Int.le_trans past h.later)

theorem Recovers.arrive (grounded : s.Grounded) (h : s.Recovers key base)
    (entries : List (Key × Traffic)) (lives : 0 < s.world.hot.lifespan)
    (fine : (s.meet (.arrivals entries)).Undisturbed key base) :
    (s.meet (.arrivals entries)).Recovers key base := by
  have aftermath : (s.meet (.arrivals entries)).aftermath key base =
      { s.aftermath key base with
        accepted := fun d => (s.aftermath key base).accepted d + counted key d entries } :=
    aftermath_cons h.longer _ _
  have hs := grounded.scheduled
  refine ⟨h.later, Nat.le_succ_of_le h.longer, ?_, h.enlisted.incrementAll hs entries⟩
  rw [aftermath]
  refine survives_incrementAll entries hs lives h.survives fun d => ?_
  have room := fine.room d
  rw [aftermath] at room
  exact Nat.le_trans (Nat.le_trans (Nat.le_add_left ..) (Nat.le_add_right ..)) room

theorem Recovers.meet (grounded : s.Grounded) (h : s.Recovers key base) {incident : Incident}
    (spares : (Choice.incident incident).Spares key) (lives : 0 < s.world.hot.lifespan)
    (fine : (s.meet incident).Undisturbed key base) : (s.meet incident).Recovers key base := by
  have hs := grounded.scheduled
  cases incident with
  | arrival key' traffic => exact h.arrive grounded [(key', traffic)] lives fine
  | arrivals entries => exact h.arrive grounded entries lives fine
  | seeding key' baseline =>
    have same : (s.meet (.seeding key' baseline)).live? key = s.live? key :=
      Hot.Store.live?_seed_of_ne hs s.world.now spares baseline
    refine ⟨h.later, Nat.le_succ_of_le h.longer, ?_, ?_⟩
    · have aftermath : (s.meet (.seeding key' baseline)).aftermath key base =
          s.aftermath key base := aftermath_cons h.longer _ _
      rw [same, aftermath]
      exact h.survives
    · exact h.enlisted.of_live_eq (a := .seed key' baseline) hs spares same id
  | removal key' =>
    have same : (s.meet (.removal key')).live? key = s.live? key :=
      (Hot.Store.live?_forget ..).trans (if_neg (Ne.symm spares))
    refine ⟨h.later, h.longer, ?_, h.enlisted.forget hs key'⟩
    rw [same]
    exact h.survives
  | passing nanos =>
    have le : s.world.now ≤ s.world.now.addNanos nanos :=
      Int.le_add_of_nonneg_right (Int.natCast_nonneg nanos)
    refine ⟨Int.le_trans h.later le, h.longer, ?_, h.enlisted.pass le⟩
    rw [entry_passing h fine]
    exact h.survives
  | cancellation => exact ⟨h.later, h.longer, h.survives, h.enlisted⟩

/-- Work begins where none is under way. -/
theorem Recovers.beginning (h : s.Recovers key base) (still : ∀ d, (s.phase key).ahead d = 0)
    (isCancelled : Bool) :
    Stage.Recovers key ⟨{ s.world with isCancelled }, .beginning :: s.log⟩ base := by
  refine ⟨h.later, Nat.le_succ_of_le h.longer, ?_, h.enlisted.mono False.elim⟩
  rw [aftermath_cons h.longer]
  refine h.survives.relax (fun d => ?_) .waiting
  rw [Aftermath.ahead, still d, ite_self]

/-! ## Answers -/

theorem aftermath_answer (longer : base.log.length ≤ s.log.length) (failure? : Option Error)
    {β : Type} (request : Request β) :
    (Stage.answer failure? request s).2.aftermath key base =
      (s.aftermath key base).after key (s.phase key)
        (occurrence request (Stage.answer failure? request s).1) :=
  aftermath_cons longer _ _

/-- Without drains and without a resource found gone, the new record stays where it is. -/
theorem not_removes {terms : Terms} (whole : ¬ terms.drains) (failure? : Option Error)
    (found : ∀ e ∈ failure?, e.isNotFound = false) (grounded : s.Grounded) {β : Type}
    {request : Request β} (allowed : Allows key terms request (s.phase key)) :
    (occurrence request (Stage.answer failure? request s).1).removes key = false := by
  cases request with
  | hot r =>
    cases r with
    | takeBucket bucket => exact (whole allowed.2).elim
    | _ => cases failure? <;> rfl
  | cold r =>
    cases r with
    | accumulate target bucket traffic =>
      cases failure? with
      | none =>
        have told : (Stage.answer none (.cold (.accumulate target bucket traffic)) s).1 = .ok () :=
          (accumulate_of_open grounded.isOpen target bucket traffic).1
        rw [told]
        rfl
      | some e =>
        change (_ && e.isNotFound) = false
        rw [found e rfl, Bool.and_false]
    | _ => exact allowed.elim
  | side r => exact allowed.elim
  | _ => cases failure? <;> rfl

theorem Recovers.answer (grounded : s.Grounded) (h : s.Recovers key base)
    {failure? : Option Error} {terms : Terms} {β : Type} {request : Request β}
    (allowed : Allows key terms request (s.phase key))
    (stays : (occurrence request (Stage.answer failure? request s).1).removes key = false)
    (fine : (Stage.answer failure? request s).2.Undisturbed key base) :
    (Stage.answer failure? request s).2.Recovers key base := by
  refine ⟨?_, Nat.le_succ_of_le h.longer, ?_, h.enlisted.answer grounded.scheduled allowed⟩
  · rw [now_answer]
    exact h.later
  · have room := fine.room
    rw [aftermath_answer h.longer] at room ⊢
    exact h.survives.effect (effect_answer grounded.scheduled failure? allowed) stays room

/-- A request about another key does not disturb this one. -/
theorem Undisturbed.answer_of_apart (grounded : s.Grounded) (h : s.Undisturbed key base)
    {failure? : Option Error} {β : Type} {request : Request β} (apart : Apart key request) :
    (Stage.answer failure? request s).2.Undisturbed key base := by
  have aftermath : (Stage.answer failure? request s).2.aftermath key base =
      s.aftermath key base := by
    by_cases longer : base.log.length ≤ s.log.length
    · exact (aftermath_answer longer failure? request).trans
        (Aftermath.after_of_apart (occurrence_of_apart apart) _ _)
    · -- before the loss there is no aftermath, and one occurrence more does not make one
      have early := Nat.lt_of_not_le longer
      exact (Aftermath.ofLog_of_early early).trans
        (Aftermath.ofLog_of_early (Nat.le_of_lt early)).symm
  refine ⟨?_, ?_, ?_⟩
  · rw [lifespan_answer grounded]
    exact h.lives
  · intro entry found
    rw [now_answer]
    cases request with
    | hot r =>
      cases failure? with
      | some e => exact h.spared entry found
      | none =>
        -- where the call has swept the store, what stands under the key is live
        rcases records_answer_of_apart grounded.scheduled s.world.now apart with same | live
        · exact h.spared entry (same.symm.trans found)
        · exact .inl (Hot.Store.live?_eq_some.1 (live.symm.trans found)).2
    | _ => cases failure? <;> exact h.spared entry found
  · rw [aftermath]
    exact h.room

end Stage

/-! ## Invariants -/

theorem Phase.Cycles.after {φ : Phase} (h : φ.Cycles) {o : Occurrence}
    (stays : o.removes key = false) : (φ.after key o).Cycles := by
  have ended : ∀ {p : Prop} [Decidable p], (if p then rest else φ).Cycles := by
    intro p _
    split
    · trivial
    · exact h
  cases o with
  | listing keys =>
    cases φ with
    | waiting =>
      unfold Phase.after
      dsimp only
      split <;> trivial
    | _ => exact h
  | observation records =>
    unfold Phase.after
    dsimp only
    split
    · trivial
    · exact h
  | write row traffic result =>
    unfold Phase.after
    dsimp only
    split
    · next own =>
      cases result with
      | ok _ =>
        cases φ with
        | observed record? => cases record? <;> trivial
        | taken pending => exact h.elim
        | _ => exact h
      | error e =>
        have found : e.isNotFound = false := by simpa [Occurrence.removes, own] using stays
        cases φ with
        | observed record? =>
          cases record? with
          | none => trivial
          | some record =>
            simp only [afterWrite, found]
            trivial
        | taken pending => exact h.elim
        | _ => exact h
    · exact h
  | settling key' purge result =>
    cases φ with
    | observed record? => exact ended
    | _ => exact h
  | taking records => cases stays
  | commit | restoring | forgetting => exact ended
  | beginning => trivial
  | arrival | seeding | other => exact h

/-- A cycle may be under way, no drain. -/
def Terms.cycles : Terms := ⟨False, 0, False⟩

/-- Without drains, and while no resource is found gone, the work on a key is that of a cycle. -/
theorem invariant_cycles (key : Key) :
    Invariant key .cycles Choice.Flushes Stage.Grounded (fun s => (s.phase key).Cycles) where
  meets {s incident} _ h _ _ := (Invariant.phase_meet s incident).symm ▸ h
  cycles _ _ _ := trivial
  enough _ := Nat.zero_le _
  mayDrain flushes := flushes
  drains flushes _ _ := flushes.elim
  follows {path failure?} flushes := {
    tracks := fun _ _ => rfl
    neutral := fun op _ _ grounded => grounded.answer failure? op
    allowed := by
      rintro β op s allowed h grounded -
      refine ⟨?_, grounded.sound False.elim op⟩
      exact Phase.Cycles.after h (Stage.not_removes id failure? flushes grounded allowed) }

/-- The recovery of a key goes on under all that spares its record. -/
theorem invariant_recovers {base : Stage} :
    Invariant key .cycles (fun choice => choice.Flushes ∧ choice.Spares key)
      (fun s => s.Grounded ∧ s.Undisturbed key base) (fun s => s.Recovers key base) where
  meets fit h fine fine' := h.meet fine.1 fit.2 fine.2.lives fine'.2
  cycles _ ended h := h.beginning (Phase.ahead_of_not_owes ended.1) _
  enough _ := Nat.zero_le _
  mayDrain fit := fit.1
  drains fit _ _ := fit.1.elim
  follows {path failure?} fit := {
    tracks := fun _ _ => rfl
    neutral := fun op _ neutral ⟨grounded, undisturbed⟩ =>
      ⟨grounded.answer failure? op, undisturbed.answer_of_apart grounded (apart_of_neutral neutral)⟩
    allowed := by
      rintro β op s allowed h ⟨grounded, -⟩ ⟨-, fine⟩
      refine ⟨h.answer grounded allowed ?_ fine, grounded.sound False.elim op⟩
      exact Stage.not_removes id failure? fit.1 grounded allowed }

end Metering.Compaction
