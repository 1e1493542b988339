import Metering.Proofs.Compaction.Recovery

/-!
# Increments after a loss reach the cold tier

A cycle that nothing disturbs flushes every key. After a loss the row of a key has then all that
was counted since, next to what was still written of the old record, but for the bytes that the
markers of the old record hide.

Results:
1. `invariant_clears`: after a cycle in calm nothing of a key is pending.
2. `row_after_loss`: what the row has when such a cycle has run.
3. `loss_hides_increments`: a run in which increments are hidden, and never reach the row.
-/

namespace Metering.Compaction

open Hot (Entry Record)

variable {key : Key}

/-! ## A cycle in calm -/

/-- The phase tells of the record as it is; at the end nothing of it is pending. -/
def Phase.Mirrors (live? : Option Entry) (key : Key) : Phase → Prop
  | waiting | listed => True
  | observed record? => record? = live?.map (·.toRecord key)
  | written record => ∃ entry, live? = some entry ∧ entry.traffic = record.traffic
  | rest => ∀ d, pendingOf d live? = 0
  | _ => False

theorem pendingOf_mark (entry : Entry) (d : Way) :
    pendingOf d (some (entry.mark entry.traffic)) = 0 := by
  rw [pendingOf_eq]
  exact Nat.sub_self _

/-- Where no call fails and nothing is removed, a cycle leaves nothing of the record pending. -/
theorem Phase.Mirrors.effect {φ : Phase} {live? live?' : Option Entry} {row row' : Traffic}
    {o : Occurrence} {fails : Error → Prop} {lost : Entry → Prop} (h : φ.Mirrors live? key)
    (effect : Effect key fails lost φ live? row o live?' row') (succeeds : ∀ e, ¬ fails e)
    (stays : o.removes key = false)
    (unlisted : ∀ keys, o = .listing keys → key ∉ keys → ∀ d, pendingOf d live? = 0) :
    (φ.after key o).Mirrors live?' key := by
  cases effect with
  | apart apart => rwa [Phase.after_of_apart apart]
  | list keys =>
    unfold Phase.after
    dsimp only
    split
    · trivial
    · -- a key that is passed over is done with, so it must have had nothing to flush
      next absent => exact unlisted keys rfl absent
  | glance records other =>
    cases φ with
    | listed => exact (other rfl).elim
    | _ => exact h
  | read records told =>
    simp only [Phase.after, told]
    rfl
  | write traffic writes =>
    obtain ⟨record, rfl, rfl, -⟩ | rfl := writes
    · obtain ⟨entry, rfl, rfl⟩ := Option.map_eq_some_iff.1 (Eq.symm h)
      rw [Phase.after, if_pos rfl]
      exact ⟨entry, rfl, rfl⟩
    · exact h.elim
  | writeFails traffic e writes failure => exact (succeeds e failure).elim
  | commit record commits =>
    rw [Phase.after, if_pos rfl]
    obtain rfl | ⟨rfl, -, -⟩ := commits
    · obtain ⟨entry, rfl, same⟩ := h
      exact same ▸ pendingOf_mark entry
    · obtain ⟨entry, rfl, rfl⟩ := Option.map_eq_some_iff.1 (Eq.symm h)
      exact pendingOf_mark entry
  | commitFails record e commits failure => exact (succeeds e failure).elim
  | settle purge settles =>
    have idle : ∀ d, pendingOf d live? = 0 := by
      obtain rfl | ⟨record?, rfl, still⟩ := settles
      · exact h
      · intro d
        cases live? with
        | none => rfl
        | some entry =>
          have pending := (still _ h).1
          exact (congrArg (Traffic.bytes · d) pending).trans (Traffic.bytes_zero d)
    rw [settles.after_settling]
    split
    · exact fun _ => rfl
    · exact idle
  | settleFails purge e settles failure => exact (succeeds e failure).elim
  | take records told => cases stays
  | leave records untold => cases stays
  | restore => exact h.elim
  | restoreFails => exact h.elim
  | forget => exact h.elim

/-- Time passes, or the work under way makes a move in which no call fails. -/
def Choice.IsQuiet : Choice → Prop
  | .incident (.passing _) => True
  | .move _ failure? => failure? = none
  | _ => False

instance : DecidablePred Choice.IsQuiet
  | .incident (.passing _) => .isTrue trivial
  | .move _ failure? => inferInstanceAs (Decidable (failure? = none))
  | .incident (.arrival _ _) | .incident (.arrivals _) | .incident (.seeding _ _)
  | .incident (.removal _) | .incident .cancellation | .cycle _ _ | .drain _ _ => .isFalse id

/-- A cycle is under way in calm, and it lists all active keys if they are no more than `cap`. -/
def Terms.uncapped (cap : Nat) : Terms := ⟨True, cap, False⟩

namespace Stage

/-- The work under way is about to flush `key`, or has done so. -/
structure Clears (key : Key) (cap : Nat) (s : Stage) : Prop where
  uncancelled : s.world.isCancelled = false
  few : s.world.hot.active.size ≤ cap
  mirrors : (s.phase key).Mirrors (s.live? key) key

variable {s base : Stage} {cap : Nat}

theorem isCancelled_answer (failure? : Option Error) {β : Type} (request : Request β) :
    (Stage.answer failure? request s).2.world.isCancelled = s.world.isCancelled := by
  cases request <;> cases failure? <;> rfl

/-- A cycle does not make any key active. -/
theorem size_active_answer_le (grounded : s.Grounded) {β : Type} {request : Request β}
    (allowed : Allows key (.uncapped cap) request (s.phase key)) :
    (Stage.answer none request s).2.world.hot.active.size ≤ s.world.hot.active.size := by
  have shrinks := fun a => Hot.Store.size_active_act_le (a := a) grounded.scheduled s.world.now
  cases request with
  | hot r =>
    cases r with
    | activeKeys _ | activeBuckets => exact shrinks .sweep fun _ => id
    | snapshot keys => exact Nat.le_refl _
    | commit key' expected markers => exact shrinks (.commit key' expected markers) fun _ => id
    | settle key' purge => exact shrinks (.settle key' purge) fun _ => id
    | forget key' => exact shrinks (.forget key') fun _ => id
    | takeBucket bucket => exact allowed.2.elim
    | increment key' traffic => exact allowed.1.elim
    | _ => exact allowed.elim
  | _ => exact Nat.le_refl _

/-- A key that an uncapped listing does not tell has nothing pending. -/
theorem pendingOf_of_unlisted (grounded : s.Grounded) {limit : Nat}
    (few : s.world.hot.active.size ≤ limit)
    (enlisted : (Stage.answer none (.hot (.activeKeys limit)) s).2.IsEnlisted key)
    (unlisted : key ∉ (s.world.hot.activeKeys s.world.now limit).1) (d : Way) :
    pendingOf d (s.live? key) = 0 := by
  have shrinks := Hot.Store.size_active_act_le (a := .sweep) grounded.scheduled s.world.now
    fun _ => id
  -- the listing has room for all active keys, so what it does not tell is not active
  rw [Hot.Store.mem_activeKeys (Nat.le_trans shrinks few)] at unlisted
  refine pendingOf_of_settled ?_ d
  cases live : s.live? key with
  | none => rfl
  | some entry =>
    rw [Option.all_some]
    refine Decidable.byContradiction fun unsettled => unlisted (enlisted.active entry ?_ ?_)
    · exact (Hot.Store.live?_expire grounded.scheduled s.world.now key).trans live
    · exact .inl (Bool.not_eq_true _ ▸ unsettled)

theorem Clears.answer (grounded : s.Grounded) (h : s.Clears key cap) {β : Type}
    {request : Request β} (allowed : Allows key (.uncapped cap) request (s.phase key))
    (stays : (occurrence request (Stage.answer none request s).1).removes key = false)
    (enlisted : (Stage.answer none request s).2.IsEnlisted key) :
    (Stage.answer none request s).2.Clears key cap := by
  refine ⟨?_, Nat.le_trans (size_active_answer_le grounded allowed) h.few, ?_⟩
  · rw [isCancelled_answer]
    exact h.uncancelled
  · refine h.mirrors.effect (effect_answer grounded.scheduled none allowed)
      (fun _ fails => nomatch fails grounded.isOpen) stays ?_
    intro keys told
    cases request with
    | hot r =>
      cases r with
      | activeKeys limit =>
        cases told
        exact pendingOf_of_unlisted grounded (Nat.le_trans h.few allowed.2) enlisted
      | _ => cases told
    | cold r => cases r <;> cases told
    | _ => cases told

end Stage

/-- In calm the recovery goes on, until nothing of the key is pending. -/
theorem invariant_clears {base : Stage} {cap : Nat} :
    Invariant key (.uncapped cap) Choice.IsQuiet
      (fun s => s.Grounded ∧ s.Undisturbed key base)
      (fun s => s.Recovers key base ∧ s.Clears key cap) where
  meets {s incident} quiet := by
    rintro ⟨recovers, clears⟩ ⟨grounded, calm⟩ ⟨-, fine⟩
    cases incident with
    | passing nanos =>
      refine ⟨recovers.meet grounded trivial calm.lives fine, clears.uncancelled, clears.few, ?_⟩
      rw [Stage.entry_passing recovers fine]
      exact clears.mirrors
    | _ => exact quiet.elim
  cycles quiet := quiet.elim
  drains quiet := quiet.elim
  enough quiet := quiet.elim
  mayDrain quiet := quiet.elim
  follows {path failure?} quiet := {
    tracks := fun _ _ => rfl
    neutral := fun op _ neutral ⟨grounded, undisturbed⟩ =>
      ⟨grounded.answer failure? op, undisturbed.answer_of_apart grounded (apart_of_neutral neutral)⟩
    allowed := by
      rintro β op s allowed ⟨recovers, clears⟩ ⟨grounded, -⟩ ⟨-, fine⟩
      obtain rfl : failure? = none := quiet
      have stays := Stage.not_removes id none (by rintro _ ⟨⟩) grounded allowed
      have recovers := recovers.answer grounded allowed stays fine
      refine ⟨⟨recovers, clears.answer grounded allowed stays recovers.enlisted⟩, ?_⟩
      exact grounded.sound (fun _ => ⟨rfl, clears.uncancelled⟩) op }

/-! ## Runs -/

/-- A cycle in calm that begins while none is under way leaves nothing of the key pending. -/
theorem clears_of_cycle {base : Stage} {s t : Site} {c : Settings} {closing : List Choice}
    (grounded : s.Grounded) (idle : s.IsIdle) (free : ¬ (s.phase key).Owes)
    (recovers : s.Recovers key base)
    (uncapped : s.world.hot.active.size ≤ c.config.maxKeysPerCycle)
    (quiet : ∀ choice ∈ closing, choice.IsQuiet)
    (undisturbed : s.Throughout (fun s => s.Undisturbed key base) (.cycle c false :: closing))
    (ended : s.play (.cycle c false :: closing) = t) (idle' : t.IsIdle) :
    t.Recovers key base ∧ t.phase key = .rest ∧ ∀ d, pendingOf d (t.live? key) = 0 := by
  have grounded := Site.throughout_grounded grounded (.cycle c false :: closing)
  have begun : s.step (.cycle c false) =
      { s with
        world := { s.world with isCancelled := false }
        log := .beginning :: s.log
        work? := some (Prod.fst <$> s.memory.run c) } := by
    rw [Site.step, Site.begin, idle]
  have fine := grounded.2.and undisturbed.2
  change (s.step (.cycle c false)).play closing = t at ended
  rw [begun] at fine ended
  obtain ⟨⟨recovers, clears⟩, working⟩ := invariant_clears.play quiet fine
    ⟨recovers.beginning (Phase.ahead_of_not_owes free) false, rfl, uncapped, trivial⟩
    (Invariant.ensures_fst (ensures_run (Nat.le_refl c.config.maxKeysPerCycle) s.memory))
  rw [ended] at recovers clears working
  have rest : t.phase key = .rest := (working.ended idle').2 trivial
  have mirrors := clears.mirrors
  rw [rest] at mirrors
  exact ⟨recovers, rest, mirrors⟩

section Runs

variable {lifespan : Int} {now : Instant} {before during closing : List Choice}

/-- What is counted for a key after its record was lost is in its row after the next cycle in calm,
next to what was still written of the old record, but for the bytes that are masked by markers of
the old record. -/
theorem row_after_loss {s₁ s₂ s₃ : Site} {c : Settings}
    (flushes : ∀ choice ∈ before, choice.Flushes)
    (lost : (Site.empty lifespan now).play before = s₁) (absent : s₁.live? key = none)
    (spares : ∀ choice ∈ during, choice.Flushes ∧ choice.Spares key)
    (undisturbed : s₁.Throughout (fun s => s.Undisturbed key s₁.toStage) during)
    (later : s₁.play during = s₂) (idle : s₂.IsIdle)
    (uncapped : s₂.world.hot.active.size ≤ c.config.maxKeysPerCycle)
    (quiet : ∀ choice ∈ closing, choice.IsQuiet)
    (undisturbed' : s₂.Throughout (fun s => s.Undisturbed key s₁.toStage)
      (.cycle c false :: closing))
    (ended : s₂.play (.cycle c false :: closing) = s₃) (idle' : s₃.IsIdle) (d : Way) :
    (s₃.row key).bytes d + (s₃.aftermath key s₁.toStage).masked (s₃.live? key) d =
      (s₁.row key).bytes d + (s₃.aftermath key s₁.toStage).carried d +
        (s₃.aftermath key s₁.toStage).accepted d + (s₃.aftermath key s₁.toStage).resent d := by
  -- up to the loss only the kind of work is known, from then on that it recovers
  have grounded := Site.throughout_grounded (Site.grounded_empty lifespan now) before
  obtain ⟨known, working⟩ := (invariant_cycles key).play flushes grounded trivial ended_rest
  have grounded := grounded.last
  rw [lost] at known working grounded
  have grounded := Site.throughout_grounded grounded during
  obtain ⟨recovers, working⟩ := invariant_recovers.play spares (grounded.and undisturbed)
    (.begins absent known) working
  have grounded := grounded.last
  rw [later] at recovers working grounded
  have free : ¬ (s₂.phase key).Owes := (working.ended idle).1
  obtain ⟨recovers, rest, cleared⟩ :=
    clears_of_cycle grounded idle free recovers uncapped quiet undisturbed' ended idle'
  have balance := recovers.survives.balance d
  have still : (s₃.aftermath key s₁.toStage).ahead .rest d = 0 := ite_self 0
  rw [rest, still, cleared d] at balance
  exact balance

/-- A record of ten bytes is removed between its reading and its commit, and seven more bytes arrive
after the commit. -/
theorem row_after_late_arrival :
    let key : Key := ⟨⟨default, 474804⟩, 1, .node, 1⟩
    let c : Settings := { zone := default, retention := 86400000000000, config := {} }
    let s₁ := (Site.empty 10800000000000 (.ofSeconds 1709266200)).play
      (.incident (.arrival key (.ofNats 10 10)) :: .cycle c false :: (Choice.moves 5 ++
        [.incident (.removal key)]))
    let s₂ := s₁.play (Choice.moves 10 ++ [.incident (.arrival key (.ofNats 7 7))])
    let s₃ := s₂.play (.cycle c false :: Choice.moves 15)
    s₃.row key = .ofNats 17 17 ∧
      ∀ d, (s₃.row key).bytes d + (s₃.aftermath key s₁.toStage).masked (s₃.live? key) d =
        (s₁.row key).bytes d + (s₃.aftermath key s₁.toStage).carried d +
          (s₃.aftermath key s₁.toStage).accepted d + (s₃.aftermath key s₁.toStage).resent d := by
  intro key c s₁ s₂ s₃
  refine ⟨by decide +kernel, row_after_loss ?_ rfl ?_ ?_ ?_ rfl ?_ ?_ ?_ ?_ rfl ?_⟩
  · decide +kernel
  · decide +kernel
  · decide +kernel
  · decide +kernel
  · decide +kernel
  · decide +kernel
  · decide +kernel
  · decide +kernel
  · decide +kernel

/-- A record of a hundred bytes is removed between its reading and its commit, and a hundred bytes
arrive before the commit. The row gets only the bytes of the old record: those of the new one are
marked as flushed, and the record counts as settled. -/
theorem loss_hides_increments :
    let key : Key := ⟨⟨default, 474804⟩, 1, .node, 1⟩
    let c : Settings := { zone := default, retention := 86400000000000, config := {} }
    let before := .incident (.arrival key (.ofNats 100 100)) :: .cycle c false ::
      (Choice.moves 5 ++ [.incident (.removal key)])
    let during := .incident (.arrival key (.ofNats 100 100)) :: Choice.moves 10
    let closing := Choice.moves 15
    let s₁ := (Site.empty 10800000000000 (.ofSeconds 1709266200)).play before
    let s₂ := s₁.play during
    let s₃ := s₂.play (.cycle c false :: closing)
    (∀ choice ∈ before, choice.Flushes) ∧ s₁.live? key = none ∧
      (∀ choice ∈ during, choice.Flushes ∧ choice.Spares key) ∧
      s₁.Throughout (fun s => s.Undisturbed key s₁.toStage) during ∧ s₂.IsIdle ∧
      s₂.world.hot.active.size ≤ c.config.maxKeysPerCycle ∧
      (∀ choice ∈ closing, choice.IsQuiet) ∧
      s₂.Throughout (fun s => s.Undisturbed key s₁.toStage) (.cycle c false :: closing) ∧
      s₃.IsIdle ∧ s₁.row key = 0 ∧ (∀ d, (s₃.aftermath key s₁.toStage).carried d = 100) ∧
      (∀ d, (s₃.aftermath key s₁.toStage).accepted d = 100) ∧
      s₃.row key = .ofNats 100 100 ∧ s₃.pending key = 0 := by
  intro key c before during closing s₁ s₂ s₃
  refine ⟨?_, ?_, ?_, ?_, ?_, ?_, ?_, ?_, ?_, ?_, ?_, ?_, ?_, ?_⟩ <;> decide +kernel

end Runs

end Metering.Compaction
