import Metering.Proofs.Compaction.Arrivals
import Metering.Proofs.Compaction.Balance
import Metering.Proofs.Compaction.Site

/-!
# No byte is lost or counted twice

Traffic that was counted for a key is in the row of the key or pending in its record whenever the
compactor is idle, whatever came between its calls.

Results:
1. `row_add_pending`: without baselines, row and pending traffic are what was counted, and what was
   written again because its commit failed.
2. `row_add_pending_of_seeded`: with baselines, what is written too much is just the baselines that
   were seeded between the reading of a record and its commit.
3. `seed_is_flushed`: a run in which a baseline is written to the cold tier a second time.
-/

namespace Metering

namespace Compaction

open Hot (Entry Record)

/-- The tally of a key. -/
def Stage.tally (key : Key) (s : Stage) : Tally := .ofLog key s.log

/-- A drain could not count again what it could not write. -/
def Occurrence.loses (key : Key) : Occurrence → Bool
  | .restoring key' _ (.error _) => key' = key
  | _ => false

/-- No traffic of `key` was lost outside of the tiers, and its sums stay in range. -/
structure Stage.Regular (key : Key) (s : Stage) : Prop where
  held : ¬ s.world.hot.Forfeits s.world.now key
  restored : ∀ o ∈ s.log, o.loses key = false
  room : ∀ d, (s.tally key).accepted d + (s.tally key).resent d + (s.tally key).seeded d ≤ Count.top

instance (key : Key) (s : Stage) : Decidable (s.Regular key) :=
  decidable_of_iff (¬ s.world.hot.Forfeits s.world.now key ∧
      (∀ o ∈ s.log, o.loses key = false) ∧
      ∀ d, (s.tally key).accepted d + (s.tally key).resent d + (s.tally key).seeded d ≤ Count.top)
    ⟨fun h => ⟨h.1, h.2.1, h.2.2⟩, fun h => ⟨h.held, h.restored, h.room⟩⟩

/-- Nothing is removed, and no failure tells that a resource is gone. -/
def Choice.Keeps : Choice → Prop
  | .incident (.removal _) => False
  | .move _ failure? => ∀ e ∈ failure?, e.isNotFound = false
  | _ => True

instance : DecidablePred Choice.Keeps
  | .incident (.removal _) => .isFalse id
  | .incident (.arrival _ _) | .incident (.arrivals _) | .incident (.seeding _ _)
  | .incident (.passing _) | .incident .cancellation | .cycle _ _ | .drain _ _ => .isTrue trivial
  | .move _ failure? => inferInstanceAs (Decidable (∀ e ∈ failure?, e.isNotFound = false))

/-! ## Incidents -/

/-- Row and record of a key agree with what the log tells. -/
def Stage.IsBalanced (key : Key) (s : Stage) : Prop :=
  Balanced (s.phase key) (s.live? key) (s.row key) (s.tally key)

section Incidents

variable {key : Key}

theorem balanced_incrementAll {φ : Phase} {row : Traffic} {t : Tally} {now : Instant}
    (entries : List (Key × Traffic)) {hot : Hot.Store} (hs : hot.Scheduled)
    (h : Balanced φ (hot.live? now key) row t)
    (held : ¬ (hot.incrementAll now entries).Forfeits now key)
    (room : ∀ d, t.accepted d + counted key d entries + t.resent d + t.seeded d ≤ Count.top) :
    Balanced φ ((hot.incrementAll now entries).live? now key) row
      { t with accepted := fun d => t.accepted d + counted key d entries } := by
  have lost : ∀ entry : Entry, hot.lifespan ≤ 0 →
      (entry.pending ≠ 0 → (hot.incrementAll now entries).Forfeits now key) → entry.pending = 0 :=
    fun _ _ forfeits => Decidable.byContradiction fun pending => held (forfeits pending)
  refine incrementAll_keeps (P := fun n live? => Balanced φ live? row { t with accepted := n }) hs
    entries lost ?_ (fun d => Nat.le_refl _) h
  intro n live? traffic live?' h within accrues
  have room : ∀ d, n d + traffic.bytes d + t.resent d + t.seeded d ≤ Count.top := by
    intro d
    have room := room d
    have within := within d
    omega
  cases accrues with
  | nothing zero => simpa [zero] using h
  | grown entry nonzero grows => exact h.arrive grows room
  | lost entry nonzero grows idle =>
    refine (h.pending_of_grows grows nonzero (fun d => ?_) idle).elim
    have le : _ ≤ n d + t.resent d + t.seeded d := h.traffic_le d
    have room := room d
    omega

theorem balanced_seed {φ : Phase} {row : Traffic} {t : Tally} {now : Instant} {hot : Hot.Store}
    (hs : hot.Scheduled) {baseline taken : Traffic}
    (same : (hot.counter now key).takes baseline = taken)
    (h : Balanced φ (hot.live? now key) row t)
    (held : ¬ (hot.seed now key baseline).2.Forfeits now key)
    (room : ∀ d, t.accepted d + t.resent d + (t.seeded d + taken.bytes d) ≤ Count.top) :
    Balanced φ ((hot.seed now key baseline).2.live? now key) row
      { t with
        seeded := fun d => t.seeded d + taken.bytes d
        window := fun d => t.window d + taken.bytes d } := by
  subst same
  have records := Hot.Store.records_seed hs now key baseline key
  rw [if_pos rfl] at records
  have seeded := h.seed (takes_counter hot now key baseline (now.addNanos hot.lifespan)) room
  by_cases lives : now < now.addNanos hot.lifespan
  · rw [Hot.Store.live?_eq_some.2 ⟨records, lives⟩]
    exact seeded
  · -- records that expire at once leave nothing behind, so nothing may have been pending
    have lost : (hot.seed now key baseline).2.live? now key = none := by
      rw [Hot.Store.live?, records]
      simp [lives]
    rw [lost]
    refine seeded.lose fun d => ?_
    have idle : Entry.pending { (hot.counter now key).seed baseline with
        expiry := now.addNanos hot.lifespan } = 0 := by
      refine Decidable.byContradiction fun pending => held ⟨_, records, ?_, pending⟩
      exact Int.not_lt.1 lives
    exact (congrArg (Traffic.bytes · d) idle).trans (Traffic.bytes_zero d)

theorem balanced_passing {φ : Phase} {row : Traffic} {t : Tally} {now later : Instant}
    {hot : Hot.Store} (le : now ≤ later) (h : Balanced φ (hot.live? now key) row t)
    (held : ¬ hot.Forfeits later key) : Balanced φ (hot.live? later key) row t := by
  cases found : hot.live? later key with
  | some entry =>
    rw [Hot.Store.live?_of_le le found] at h
    exact h
  | none =>
    refine h.lose fun d => ?_
    cases before : hot.live? now key with
    | none => rfl
    | some entry =>
      have stands := (Hot.Store.live?_eq_some.1 before).1
      have idle : entry.pending = 0 := by
        refine Decidable.byContradiction fun pending => held ⟨entry, stands, ?_, pending⟩
        refine Int.not_lt.1 fun lives => ?_
        cases found.symm.trans (Hot.Store.live?_eq_some.2 ⟨stands, lives⟩)
      exact (congrArg (Traffic.bytes · d) idle).trans (Traffic.bytes_zero d)

theorem balanced_meet {s : Stage} {incident : Incident} (keeps : (Choice.incident incident).Keeps)
    (grounded : s.Grounded) (h : s.IsBalanced key) (regular : (s.meet incident).Regular key) :
    (s.meet incident).IsBalanced key := by
  cases incident with
  | arrival key' traffic =>
    exact balanced_incrementAll [(key', traffic)] grounded.scheduled h regular.held regular.room
  | arrivals entries =>
    exact balanced_incrementAll entries grounded.scheduled h regular.held regular.room
  | seeding key' baseline =>
    have room := regular.room
    have tally : (s.meet (.seeding key' baseline)).tally key = (s.tally key).after key (s.phase key)
        (.seeding key' ((s.world.hot.counter s.world.now key').takes baseline)) := rfl
    rw [tally] at room
    change Balanced (s.phase key) _ (s.row key) ((s.meet (.seeding key' baseline)).tally key)
    rw [tally]
    by_cases own : key' = key
    · subst own
      simp only [Tally.after, if_true] at room ⊢
      exact balanced_seed grounded.scheduled rfl h regular.held room
    · simp only [Tally.after, if_neg own]
      have same : (s.meet (.seeding key' baseline)).live? key = s.live? key :=
        Hot.Store.live?_seed_of_ne grounded.scheduled s.world.now own baseline
      rw [same]
      exact h
  | removal key' => exact keeps.elim
  | passing nanos =>
    refine balanced_passing ?_ h regular.held
    exact Int.le_add_of_nonneg_right (Int.natCast_nonneg nanos)
  | cancellation => exact h

end Incidents

/-! ## Runs -/

theorem still_of_ended {φ : Phase} {calm : Prop} (ended : Ended calm φ) (d : Way) :
    φ.inTransit d = 0 ∧ φ.ahead d = 0 := by
  refine ⟨?_, Phase.ahead_of_not_owes ended.1 d⟩
  cases φ with
  | taken | refused => exact (ended.1 trivial).elim
  | _ => rfl

variable {key : Key}

theorem not_forfeits_of_apart {s : Stage} (grounded : s.Grounded) {failure? : Option Error}
    {β : Type} {request : Request β} (apart : Apart key request)
    (held : ¬ s.world.hot.Forfeits s.world.now key) :
    ¬ (Stage.answer failure? request s).2.world.hot.Forfeits
      (Stage.answer failure? request s).2.world.now key := by
  cases request with
  | hot r =>
    cases failure? with
    | some e => exact held
    | none =>
      rintro ⟨entry, found, expired, pending⟩
      rcases Stage.records_answer_of_apart grounded.scheduled s.world.now apart with same | live
      · exact held ⟨entry, same.symm.trans found, expired, pending⟩
      · have later := (Hot.Store.live?_eq_some.1 (live.symm.trans found)).2
        exact Int.not_le.2 later expired
  | _ => cases failure? <;> exact held

theorem Occurrence.not_loses_of_apart {o : Occurrence} (apart : o.Apart key) :
    o.loses key = false := by
  cases o with
  | restoring key' traffic result =>
    cases result with
    | ok _ => rfl
    | error e => exact decide_eq_false apart
  | _ => rfl

theorem Stage.Regular.answer_of_apart {s : Stage} (grounded : s.Grounded) (h : s.Regular key)
    {failure? : Option Error} {β : Type} {request : Request β} (apart : Apart key request) :
    (Stage.answer failure? request s).2.Regular key := by
  have told : (occurrence request (Stage.answer failure? request s).1).Apart key :=
    Stage.occurrence_of_apart apart
  refine ⟨not_forfeits_of_apart grounded apart h.held, ?_, ?_⟩
  · rintro o (_ | ⟨_, member⟩)
    · exact Occurrence.not_loses_of_apart told
    · exact h.restored o member
  · have same : (Stage.answer failure? request s).2.tally key = s.tally key :=
      Tally.after_of_apart told _ _
    rw [same]
    exact h.room

/-- The balance of a key is kept by all that keeps its traffic. -/
theorem invariant_balanced :
    Invariant key .any Choice.Keeps (fun s => s.Grounded ∧ s.Regular key)
      (fun s => s.IsBalanced key) where
  meets keeps h good good' := balanced_meet keeps good.1 h good'.2
  cycles _ ended h := h.relax (still_of_ended ended) .waiting
  enough _ := Nat.zero_le _
  mayDrain _ := trivial
  drains _ ended h := h.relax (still_of_ended ended) .waiting
  follows {path failure?} keeps := {
    tracks := fun _ _ => rfl
    neutral := fun op _ neutral ⟨grounded, regular⟩ =>
      ⟨grounded.answer failure? op, regular.answer_of_apart grounded (apart_of_neutral neutral)⟩
    allowed := by
      rintro β op s allowed h ⟨grounded, regular⟩ ⟨-, regular'⟩
      refine ⟨?_, grounded.sound False.elim op⟩
      refine Balanced.effect h (Stage.effect_answer grounded.scheduled failure? allowed)
        ?_ ?_ ?_ regular.room
      · exact fun e fails => keeps e (fails grounded.isOpen)
      · -- a record that was counted and is not live is forfeited where something of it is pending
        rintro entry ⟨found, expired, -⟩
        refine Decidable.byContradiction fun pending => regular'.held ?_
        exact ⟨entry, found, expired, pending⟩
      · intro traffic e told
        have kept := regular'.restored _ List.mem_cons_self
        rw [told] at kept
        exact of_decide_eq_false kept rfl }

/-! ## From empty stores -/

section Empty

variable {lifespan : Int} {now : Instant} {schedule : List Choice}

theorem balanced_empty : (Site.empty lifespan now).IsBalanced key := by
  have entry : (Site.empty lifespan now).live? key = none := by
    simp [Site.empty, Stage.live?, Hot.Store.live?]
  have row : (Site.empty lifespan now).row key = 0 := by
    simp [Site.empty, Stage.row, Cold.Store.row]
  change Balanced .rest _ _ {}
  rw [entry, row]
  exact .empty

theorem bytes_pending (s : Stage) (d : Way) :
    (s.pending key).bytes d = pendingOf d (s.live? key) := by
  unfold Stage.pending
  cases s.live? key with
  | none => exact Traffic.bytes_zero d
  | some entry => rfl

/-- Whenever the compactor is idle, row and pending traffic are what was counted, what was written
again, and the baselines whose markers were set back. -/
theorem row_add_pending_of_keeps (keeps : ∀ choice ∈ schedule, choice.Keeps)
    (regular : (Site.empty lifespan now).Throughout (fun s => s.Regular key) schedule) {s : Site}
    (reached : (Site.empty lifespan now).play schedule = s) (idle : s.IsIdle) (d : Way) :
    (s.row key).bytes d + (s.pending key).bytes d =
        (s.tally key).accepted d + (s.tally key).resent d + (s.tally key).exposed d ∧
      (s.tally key).exposed d ≤ (s.tally key).seeded d := by
  have grounded := Site.throughout_grounded (Site.grounded_empty lifespan now) schedule
  obtain ⟨h, working⟩ := invariant_balanced.play keeps (grounded.and regular) balanced_empty
    ended_rest
  rw [reached] at h working
  obtain ⟨transit, ahead⟩ := still_of_ended (working.ended idle) d
  have balance := h.balance d
  have risk := h.risk d
  rw [bytes_pending]
  omega

/-- The choice offers a baseline. -/
def Choice.Seeds : Choice → Prop
  | .incident (.seeding _ _) => True
  | _ => False

instance : DecidablePred Choice.Seeds
  | .incident (.seeding _ _) => .isTrue trivial
  | .incident (.arrival _ _) | .incident (.arrivals _) | .incident (.removal _)
  | .incident (.passing _) | .incident .cancellation | .cycle _ _ | .drain _ _ | .move _ _ =>
    .isFalse id

/-- No call fails in the choice. -/
def Choice.Succeeds : Choice → Prop
  | .move _ failure? => failure? = none
  | _ => True

instance : DecidablePred Choice.Succeeds
  | .move _ failure? => inferInstanceAs (Decidable (failure? = none))
  | .incident _ | .cycle _ _ | .drain _ _ => .isTrue trivial

theorem Tally.after_seeded {o : Occurrence} (other : ∀ key' taken, o ≠ .seeding key' taken)
    (φ : Phase) (t : Tally) : (t.after key φ o).seeded = t.seeded := by
  cases o with
  | seeding key' taken => exact (other key' taken rfl).elim
  | observation records =>
    unfold Tally.after
    dsimp only
    split <;> rfl
  | commit key' markers result =>
    cases φ with
    | written record =>
      unfold Tally.after
      dsimp only
      split
      · cases result <;> rfl
      · rfl
    | _ => rfl
  | _ => rfl

theorem Tally.after_resent {o : Occurrence}
    (landed : ∀ key' markers e, o ≠ .commit key' markers (.error e)) (φ : Phase) (t : Tally) :
    (t.after key φ o).resent = t.resent := by
  cases o with
  | seeding key' taken =>
    unfold Tally.after
    dsimp only
    split <;> rfl
  | observation records =>
    unfold Tally.after
    dsimp only
    split <;> rfl
  | commit key' markers result =>
    cases φ with
    | written record =>
      unfold Tally.after
      dsimp only
      split
      · cases result with
        | ok _ => rfl
        | error e => exact (landed key' markers e rfl).elim
      · rfl
    | _ => rfl
  | _ => rfl

theorem occurrence_ne_seeding {β : Type} (request : Request β) (answer : β) (key' : Key)
    (taken : Traffic) : occurrence request answer ≠ .seeding key' taken := by
  cases request with
  | hot r => cases r <;> cases answer <;> exact nofun
  | cold r => cases r <;> exact nofun
  | _ => exact nofun

theorem seeded_eq_zero (unseeded : ∀ choice ∈ schedule, ¬ choice.Seeds) :
    (Site.empty lifespan now).Throughout (fun s => (s.tally key).seeded = fun _ => 0) schedule := by
  refine Site.throughout (P := fun s => (s.tally key).seeded = fun _ => 0) ?_ ?_ ?_ unseeded rfl
  · intro s incident other h
    cases incident with
    | seeding key' baseline => exact (other trivial).elim
    | _ => exact h
  · exact fun _ h => h
  · intro path failure? _ β request s h
    exact (Tally.after_seeded (occurrence_ne_seeding request _) _ _).trans h

theorem resent_eq_zero (succeeds : ∀ choice ∈ schedule, choice.Succeeds) :
    (Site.empty lifespan now).Throughout (fun s => (s.tally key).resent = fun _ => 0) schedule := by
  refine Site.throughout (P := fun s => (s.tally key).resent = fun _ => 0) ?_ ?_ ?_ succeeds rfl
  · intro s incident _ h
    cases incident with
    | seeding key' baseline => exact (Tally.after_resent (by rintro _ _ _ ⟨⟩) _ _).trans h
    | _ => exact h
  · exact fun _ h => h
  · rintro path _ rfl β request s h
    refine (Tally.after_resent (fun key' markers e told => ?_) _ _).trans h
    cases request with
    | hot r => cases r <;> cases told
    | cold r => cases r <;> cases told
    | _ => cases told

/-- Without baselines, row and pending traffic of a key are what was counted for it, and what was
written but whose commit failed. -/
theorem row_add_pending (fit : ∀ choice ∈ schedule, choice.Keeps ∧ ¬ choice.Seeds)
    (regular : (Site.empty lifespan now).Throughout (fun s => s.Regular key) schedule)
    {s : Site} (reached : (Site.empty lifespan now).play schedule = s) (idle : s.IsIdle)
    (d : Way) :
    (s.row key).bytes d + (s.pending key).bytes d =
      (s.tally key).accepted d + (s.tally key).resent d := by
  obtain ⟨balance, exposed⟩ :=
    row_add_pending_of_keeps (fun choice member => (fit choice member).1) regular reached idle d
  have unseeded : (s.tally key).seeded = fun _ => 0 := by
    rw [← reached]
    exact (seeded_eq_zero fun choice member => (fit choice member).2).last
  simp only [unseeded] at exposed
  omega

/-- A commit fails after its write, and more traffic arrives while the next cycle is under way. -/
theorem row_after_failed_commit :
    let key : Key := ⟨⟨default, 474804⟩, 1, .node, 1⟩
    let c : Settings := { zone := default, retention := 86400000000000, config := {} }
    let s := (Site.empty 10800000000000 (.ofSeconds 1709266200)).play
      (.incident (.arrival key (.ofNats 10 10)) :: .cycle c false :: (Choice.moves 8 ++
        .move [] (some (.unavailable .hot "timeout")) :: (Choice.moves 15 ++
        .cycle c false :: (Choice.moves 5 ++
        .incident (.arrival key (.ofNats 5 0)) :: Choice.moves 10))))
    s.row key = .ofNats 20 20 ∧ s.pending key = .ofNats 5 0 ∧
      ∀ d, (s.row key).bytes d + (s.pending key).bytes d =
        (s.tally key).accepted d + (s.tally key).resent d := by
  intro key c s
  refine ⟨by decide +kernel, by decide +kernel, row_add_pending ?_ ?_ rfl ?_⟩
  · decide +kernel
  · decide +kernel
  · decide +kernel

/-- Where no call fails, what is written too much is the baselines that were seeded between the
reading of a record and its commit, whose markers that commit set back. -/
theorem row_add_pending_of_seeded (fit : ∀ choice ∈ schedule, choice.Keeps ∧ choice.Succeeds)
    (regular : (Site.empty lifespan now).Throughout (fun s => s.Regular key) schedule)
    {s : Site} (reached : (Site.empty lifespan now).play schedule = s) (idle : s.IsIdle)
    (d : Way) :
    (s.row key).bytes d + (s.pending key).bytes d =
      (s.tally key).accepted d + (s.tally key).exposed d := by
  obtain ⟨balance, -⟩ :=
    row_add_pending_of_keeps (fun choice member => (fit choice member).1) regular reached idle d
  have landed : (s.tally key).resent = fun _ => 0 := by
    rw [← reached]
    exact (resent_eq_zero fun choice member => (fit choice member).2).last
  simp only [landed] at balance
  omega

/-- A baseline that is seeded before the record is read stays out of the row. -/
theorem row_after_early_seed :
    let key : Key := ⟨⟨default, 474804⟩, 1, .node, 1⟩
    let c : Settings := { zone := default, retention := 86400000000000, config := {} }
    let s := (Site.empty 10800000000000 (.ofSeconds 1709266200)).play
      (.incident (.arrival key (.ofNats 10 10)) :: .incident (.seeding key (.ofNats 100 100)) ::
        .cycle c false :: Choice.moves 15)
    s.row key = .ofNats 10 10 ∧ s.pending key = 0 ∧
      ∀ d, (s.row key).bytes d + (s.pending key).bytes d =
        (s.tally key).accepted d + (s.tally key).exposed d := by
  intro key c s
  refine ⟨by decide +kernel, by decide +kernel, row_add_pending_of_seeded ?_ ?_ rfl ?_⟩
  · decide +kernel
  · decide +kernel
  · decide +kernel

/-- A baseline of a hundred bytes lands between the reading of a record of ten bytes and its commit.
The next cycle writes it to the cold tier, which had it already. -/
theorem seed_is_flushed :
    let key : Key := ⟨⟨default, 474804⟩, 1, .node, 1⟩
    let c : Settings := { zone := default, retention := 86400000000000, config := {} }
    let schedule := .incident (.arrival key (.ofNats 10 10)) :: .cycle c false ::
      (Choice.moves 5 ++ .incident (.seeding key (.ofNats 100 100)) :: (Choice.moves 10 ++
        .cycle c false :: Choice.moves 15))
    let s := (Site.empty 10800000000000 (.ofSeconds 1709266200)).play schedule
    (∀ choice ∈ schedule, choice.Keeps ∧ choice.Succeeds) ∧
      (Site.empty 10800000000000 (.ofSeconds 1709266200)).Throughout (·.Regular key) schedule ∧
      s.IsIdle ∧ (∀ d, (s.tally key).accepted d = 10) ∧
      s.row key = .ofNats 110 110 ∧ s.pending key = 0 := by
  intro key c schedule s
  refine ⟨?_, ?_, ?_, ?_, ?_, ?_⟩
  · decide +kernel
  · decide +kernel
  · decide +kernel
  · decide +kernel
  · decide +kernel
  · decide +kernel

end Empty

end Compaction

end Metering
