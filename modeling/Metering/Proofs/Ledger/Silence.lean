import Metering.Proofs.Compaction.Starvation
import Metering.Proofs.Ledger.Interludes
import Metering.Proofs.Program.Inversion

/-!
# Cycles drain the hot tier and fall silent

Where traffic was counted only between the work, what is pending is active, and no record looks as
if it had been reset. Cycles that have a place for every active key then flush all that is pending
and take the old ones of these records out of the store. With no active key left, a cycle scans none
and changes nothing.

Results:
1. `Cycles.handled_at_once`: what cycles make of an active key, at one instant.
2. `untouched_by_run`: a cycle without active keys changes nothing.
3. `cycles_fall_silent`.
-/

namespace Metering

open Compaction Program

/-! ## Active keys -/

theorem Hot.Store.Enlists.contains {s : Store} {now : Instant} {key : Key} {claimed : Prop}
    (h : s.Enlists now key claimed) {entry : Entry} (live : s.live? now key = some entry)
    (unsettled : entry.isSettled = false) : (s.expire now).active.contains key = true :=
  Std.ExtTreeSet.contains_iff_mem.2 <| mem_active_expire.2
    ⟨h.dated.not_overdue live, h.active entry live (.inl unsettled)⟩

namespace World

variable {w : World} {key : Key}

theorem length_ahead_lt (member : key ∈ w.queue) : (w.ahead key).length < w.queue.length := by
  obtain ⟨rest, split⟩ := queue_eq member
  rw [split, List.length_append, List.length_cons]
  omega

theorem stuckAhead_unfailing : w.stuckAhead unfailing key = 0 :=
  List.countP_eq_zero.2 fun _ _ => Bool.false_ne_true

end World

/-- An old key is gone after it was handled, unless its record looks as if it had been reset. -/
theorem Sight.handled_gone {d : Sight} {key : Key}
    (kept : ∀ e, d.live? = some e → (e.toRecord key).isReset = false) :
    (d.handled key false true).live? = none := by
  cases live : d.live? with
  | none =>
    rw [handled_missing live]
    exact live
  | some e =>
    by_cases idle : e.pending = 0
    · rw [handled_idle live idle (kept e live)]
      rfl
    · rw [handled_pending live idle]
      rfl

namespace Compaction

variable {c : Settings} {memory memory' : Compactor} {w w' : World} {key : Key}

/-! ## At one instant -/

/-- Each active key is handled, if there is a place for each. -/
theorem Cycles.handled_at_once {k : Nat} (cycles : Cycles unfailing c k memory w memory' w')
    {retired : List (ResourceType × Id)} (meets : Meets unfailing retired w)
    (instant : w'.now = w.now) (enough : w.queue.length ≤ k * c.config.maxKeysPerCycle)
    (member : key ∈ w.queue) : w'.sight key =
      (w.sight key).handled key false (key.bucket < c.boundaryAt w.now) := by
  have near : (w.ahead key).length < w.stuckAhead unfailing key +
      k * (c.config.maxKeysPerCycle - w.stuckAhead unfailing key) := by
    rw [World.stuckAhead_unfailing, Nat.sub_zero, Nat.zero_add]
    exact Nat.lt_of_lt_of_le (World.length_ahead_lt member) enough
  obtain ⟨turn, after, before, handled⟩ := cycles.handled_of_near meets member rfl near
  have same : turn = w.now := by
    rw [instant] at before
    exact congrArg Instant.mk (Int.le_antisymm before after)
  rw [handled, same]

/-! ## Without active keys -/

/-- The stores answer as before; only what has expired may have been dropped. -/
structure Untouched (w w' : World) : Prop where
  cold : w'.cold = w.cold
  hot : w'.hot = w.hot.expire w.now
  now : w'.now = w.now

theorem untouched_by_prune {streaks streaks' : Streaks}
    (ran : Reaches World.answer (pruneStreaks streaks) w (.pure streaks') w') : w' = w := by
  unfold pruneStreaks at ran
  split at ran
  · exact ran.of_pure.2
  · exact ran.of_ask_bind.of_pure.2

/-- Without active keys there are no batches, and the report is empty. -/
theorem untouched_by_cycle (silent : w.queue = []) {streaks streaks' : Streaks}
    {result : Except Error Report}
    (ran : Reaches World.answer (cycle c streaks) w (.pure (streaks', result)) w') :
    result = .ok {} ∧ Untouched w w' := by
  have ran := ran.of_ask_bind
  have listed : World.answer (.hot (.activeKeys c.config.maxKeysPerCycle)) w =
      (.ok (w.queue.take c.config.maxKeysPerCycle), { w with hot := w.hot.expire w.now }) := rfl
  rw [listed, silent, List.take_nil] at ran
  obtain ⟨boundary, w₁, told, ran⟩ := ran.of_bind
  obtain ⟨-, rfl⟩ := told.of_ask_bind.of_pure
  obtain ⟨⟨streaks, report⟩, w₂, batches, ran⟩ := ran.of_bind
  simp only [chunks, runBatches] at batches
  obtain ⟨same, rfl⟩ := batches.of_pure
  cases same
  obtain ⟨streaks, w₃, pruned, ran⟩ := ran.of_bind
  obtain rfl := untouched_by_prune pruned
  obtain ⟨same, rfl⟩ := ran.of_pure
  cases same
  exact ⟨rfl, rfl, rfl, rfl⟩

/-- A cycle without active keys changes nothing but the metrics. -/
theorem untouched_by_run (silent : w.queue = []) (uncancelled : w.isCancelled = false)
    {result : Except Error Report}
    (ran : Reaches World.answer (memory.run c) w (.pure (memory', result)) w') :
    result = .ok {} ∧ Untouched w w' := by
  have ran := ran.of_ask_bind
  have entered : World.answer .isCancelled w = (false, w) := congrArg (·, w) uncancelled
  rw [entered] at ran
  obtain ⟨⟨streaks, told⟩, w₁, cycled, ran⟩ := ran.of_bind
  obtain ⟨rfl, untouched⟩ := untouched_by_cycle silent cycled
  obtain ⟨same, rfl⟩ := ran.of_ask_bind.of_ask_bind.of_pure
  cases same
  exact ⟨rfl, untouched.cold, untouched.hot, untouched.now⟩

theorem Untouched.sight (h : Untouched w w') (hs : w.hot.Scheduled) : w'.sight = w.sight := by
  refine funext fun key => Eq.trans ?_ (World.sight_expire hs)
  unfold World.sight
  rw [h.cold, h.hot, h.now]

end Compaction

/-! ## Silence -/

/-- What is pending is active, and no record looks as if it had been reset. -/
structure World.Tidy (w : World) : Prop where
  scheduled : w.hot.Scheduled
  active : ∀ key, (w.sight key).pending ≠ 0 → (w.sight key).isActive = true
  kept : ∀ key e, (w.sight key).live? = some e → (e.toRecord key).isReset = false

namespace Station

variable {l : Ledger} {lifespan : Int} {now : Instant} {schedule : List Choice} {s : Station}

theorem tidy_between (unseeded : ∀ choice ∈ schedule, ¬ choice.Seeds)
    (between : (Station.empty lifespan now).CountsBetween l schedule)
    (reached : (Station.empty lifespan now).play l schedule = s) {w : World}
    (hot : w.hot = s.world.hot) (clock : w.now = s.world.now) : w.Tidy := by
  have intact := intact_between unseeded between reached
  have same (key : Key) : (w.sight key).live? = s.live? key := by
    change w.hot.live? w.now key = _
    rw [hot, clock]
    rfl
  refine ⟨?_, fun key pending => ?_, fun key e live => ?_⟩
  · rw [hot, ← reached]
    exact (throughout_scheduled (Hot.Store.scheduled_empty lifespan) schedule).last
  · rw [Sight.pending, same] at pending
    cases live : s.live? key with
    | none =>
      rw [live] at pending
      exact (pending rfl).elim
    | some e =>
      rw [live] at pending
      change (w.hot.expire w.now).active.contains key = true
      rw [hot, clock]
      refine (intact key).1.contains live (Bool.eq_false_iff.2 fun settled => ?_)
      exact pending (Hot.Entry.pending_of_isSettled settled)
  · exact (intact key).2.not_reset ((same key).symm.trans live)

end Station

namespace Compaction

variable {c : Settings} {k : Nat} {memory memory' : Compactor} {w w' : World}

/-- What some cycles make of a key: nothing is pending any more, and it is in the row. The counter
of a key in the retention window stays; an older record that was active is gone. -/
structure Finished (boundary : Bucket) (key : Key) (before after : Sight) : Prop where
  inactive : after.isActive = false
  pending : after.pending = 0
  row : after.row = before.row + before.pending
  young : ¬ key.bucket < boundary → after.live?.map (·.traffic) = before.live?.map (·.traffic)
  old : key.bucket < boundary → before.isActive = true → after.live? = none

theorem Cycles.finished (cycles : Cycles unfailing c k memory w memory' w')
    {retired : List (ResourceType × Id)} (meets : Meets unfailing retired w) (tidy : w.Tidy)
    (instant : w'.now = w.now) (enough : w.queue.length ≤ k * c.config.maxKeysPerCycle)
    (key : Key) : Finished (c.boundaryAt w.now) key (w.sight key) (w'.sight key) := by
  by_cases member : key ∈ w.queue
  · have handled := cycles.handled_at_once meets instant enough member
    have flushed : (w.sight key).Flushed key (c.boundaryAt w.now) _ := Sight.flushed_handled
    rw [← handled] at flushed
    refine ⟨flushed.inactive, flushed.pending_eq, flushed.row, flushed.traffic_eq, fun old _ => ?_⟩
    rw [handled, decide_eq_true old]
    exact Sight.handled_gone (tidy.kept key)
  · have inactive : (w.sight key).isActive = false :=
      Bool.eq_false_iff.2 (mt World.mem_queue.2 member)
    have nothing : (w.sight key).pending = 0 :=
      Decidable.byContradiction fun pending =>
        nomatch (tidy.active key pending).symm.trans inactive
    rw [cycles.sight_of_inactive meets inactive]
    refine ⟨inactive, nothing, ?_, fun _ => rfl, fun _ active => nomatch active.symm.trans inactive⟩
    rw [nothing, Traffic.add_zero]

theorem silent_of_finished {boundary : Bucket}
    (finished : ∀ key, Finished boundary key (w.sight key) (w'.sight key)) : w'.queue = [] :=
  List.eq_nil_iff_forall_not_mem.2 fun key member =>
    Bool.eq_false_iff.1 (finished key).inactive (World.mem_queue.1 member)

end Compaction

namespace Station

variable {l : Ledger} {lifespan : Int} {now : Instant} {schedule : List Choice} {s : Station}

/-- In the stores of a run in which traffic was counted only between the work, as many cycles at one
instant as have a place for each active key, of which no call fails, leave nothing pending and no
key active. The counters in the retention window are as they were, and the older records that were
active are gone. One cycle more scans no key and leaves both tiers as they are. -/
theorem cycles_fall_silent (unseeded : ∀ choice ∈ schedule, ¬ choice.Seeds)
    (between : (Station.empty lifespan now).CountsBetween l schedule)
    (reached : (Station.empty lifespan now).play l schedule = s) {w : World}
    (hot : w.hot = s.world.hot) (clock : w.now = s.world.now)
    (online : w.cold.isOffline = false) (uncancelled : w.isCancelled = false)
    (known : ∀ key ∈ w.queue, w.cold.retired.contains (key.type, key.resource) = false)
    {c : Settings} {k : Nat} (enough : w.queue.length ≤ k * c.config.maxKeysPerCycle)
    (memory : Compactor) :
    (∃ memory' w', Cycles unfailing c k memory w memory' w' ∧ w'.now = w.now) ∧
    ∀ memory' w', Cycles unfailing c k memory w memory' w' → w'.now = w.now →
      (∀ limit, (w'.hot.activeKeys w'.now limit).1 = []) ∧
      (∀ key, Finished (c.boundaryAt w.now) key (w.sight key) (w'.sight key)) ∧
      (∃ ended w'', Reaches World.answer (memory'.run c) w' (.pure ended) w'') ∧
      ∀ memory'' result w'',
        Reaches World.answer (memory'.run c) w' (.pure (memory'', result)) w'' →
        result = .ok {} ∧ Untouched w' w'' ∧ w''.sight = w'.sight := by
  have tidy := tidy_between unseeded between reached hot clock
  have meets : Meets unfailing w.cold.retired w :=
    ⟨⟨rfl, uncancelled, tidy.scheduled, online, rfl⟩, transient_unfailing,
      fun key member _ => known key member⟩
  refine ⟨exists_cycles_at_once unfailing c k memory w, fun memory' w' cycles instant => ?_⟩
  have finished := cycles.finished meets tidy instant enough
  have silent := silent_of_finished finished
  refine ⟨fun limit => ?_, finished, ⟨_, _, reaches_settle _ _⟩, fun memory'' result w'' ran => ?_⟩
  · change w'.queue.take limit = []
    rw [silent, List.take_nil]
  · have serves := (cycles.meets meets).serves
    obtain ⟨ok, untouched⟩ := untouched_by_run silent serves.uncancelled ran
    exact ⟨ok, untouched, untouched.sight serves.scheduled⟩

/-- One key a cycle. A commit has failed, so ten bytes that are in the row are still pending in an
old record, and a record has expired whose key is still active. There are three active keys; after
three cycles the old record is gone, the other one has its counter, and nothing is left to do. -/
theorem silent_after_failed_commit :
    let key (hour : Int) (node : Id) : Key := ⟨⟨default, hour⟩, 1, .node, node⟩
    let c : Settings := {
      zone := default, retention := 3600000000000, config := { maxKeysPerCycle := 1 } }
    let l : Ledger := {
      config := {}, zone := default, compaction := c, quota := ⟨"traffic", 0⟩
      query := ⟨default, 86400000000000, {}, .passthrough⟩, alert := ⟨"traffic", [], 0⟩ }
    let s := (Station.empty 10800000000000 (.ofSeconds 1709266200)).play l
      (.occasion (.incident (.arrival (key 474796 9) (.ofNats 1 1))) ::
        .occasion (.incident (.passing 7200000000000)) ::
        .occasion (.incident (.arrivals
          [(key 474790 1, .ofNats 10 10), (key 474799 2, .ofNats 20 20)])) ::
        .cycle false :: (Choice.moves 8 ++ .move [] (some (.unavailable .hot "timeout")) ::
        (Choice.moves 9 ++ [.occasion (.incident (.arrival (key 474799 2) (.ofNats 5 0))),
          .occasion (.incident (.passing 5400000000000))])))
    s.world.queue = [key 474790 1, key 474796 9, key 474799 2] ∧
    (s.world.sight (key 474796 9)).live? = none ∧
    (s.world.sight (key 474790 1)).row = .ofNats 10 10 ∧
    (s.world.sight (key 474790 1)).pending = .ofNats 10 10 ∧
    ∃ memory' w', Cycles unfailing c 3 {} s.world memory' w' ∧
      (w'.sight (key 474790 1)).live? = none ∧
      (w'.sight (key 474799 2)).live?.map (·.traffic) = some (.ofNats 25 20) ∧
      (∀ limit, (w'.hot.activeKeys w'.now limit).1 = []) ∧
      ∃ memory'' w'', w''.sight = w'.sight ∧
        Reaches World.answer (memory'.run c) w' (.pure (memory'', .ok {})) w'' := by
  intro key c l s
  have unretired : s.world.cold.retired = [] := by decide +kernel
  have known : ∀ key ∈ s.world.queue,
      s.world.cold.retired.contains (key.type, key.resource) = false := by
    intro key _
    rw [unretired]
    rfl
  obtain ⟨⟨memory', w', cycles, instant⟩, all⟩ := cycles_fall_silent (l := l) (s := s)
    (by decide +kernel) (by decide +kernel) rfl rfl rfl (by decide +kernel) (by decide +kernel)
    known (c := c) (k := 3) (by decide +kernel) {}
  obtain ⟨inactive, finished, ⟨⟨memory'', result⟩, w'', ran⟩, still⟩ := all memory' w' cycles instant
  obtain ⟨rfl, -, same⟩ := still memory'' result w'' ran
  have young := (finished (key 474799 2)).young (by decide +kernel)
  refine ⟨by decide +kernel, by decide +kernel, by decide +kernel, by decide +kernel, memory', w',
    cycles, ?_, young.trans ?_, inactive, memory'', w'', same, ran⟩
  · exact (finished (key 474790 1)).old (by decide +kernel) (by decide +kernel)
  · decide +kernel

end Station

end Metering
