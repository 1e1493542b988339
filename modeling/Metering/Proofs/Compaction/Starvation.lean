import Metering.Proofs.Compaction.Sight
import Metering.Proofs.Hot.ActiveIndex
import Metering.Proofs.Ledger.Spans

/-!
# Keys behind failing keys

A cycle handles the first active keys, up to its limit `m`. A key whose writes fail stays where it
is in the queue, so `f` such keys ahead of a key take `f` of the `m` places in every cycle, and the
key gets `m - f` places nearer to its turn with each one. If they take all the places its turn never
comes.

Results:
1. `mem_take_queue_iff`, `length_ahead_step`, `stuckAhead_step`: who is handled in a cycle, and how
   the others move up.
2. `Cycles.handled_of_near`, `Cycles.sight_of_crowded`: some cycles in a row.
3. `flushed_unless_crowded`.
-/

namespace Metering

open Compaction Program

/-! ## The queue -/

namespace World

variable {w : World} {key : Key}

theorem mem_queue : key ∈ w.queue ↔ (w.sight key).isActive = true :=
  Std.ExtTreeSet.mem_toList.trans Std.ExtTreeSet.contains_iff_mem.symm

theorem ordered_queue (w : World) : w.queue.Pairwise fun a b => compare a b = .lt :=
  Std.ExtTreeSet.ordered_toList

/-- The active keys that are handled before a key. -/
def ahead (w : World) (key : Key) : List Key := w.queue.filter fun other => compare other key = .lt

theorem mem_ahead {other : Key} :
    other ∈ w.ahead key ↔ other ∈ w.queue ∧ compare other key = .lt := by
  rw [ahead, List.mem_filter, decide_eq_true_eq]

theorem nodup_queue (w : World) : w.queue.Nodup :=
  w.ordered_queue.imp fun lt eq => by
    rw [eq, Std.ReflOrd.compare_self] at lt
    cases lt

theorem nodup_ahead (w : World) (key : Key) : (w.ahead key).Nodup := w.nodup_queue.filter _

theorem not_mem_ahead_self : key ∉ w.ahead key := fun member => by
  have lt := (mem_ahead.1 member).2
  rw [Std.ReflOrd.compare_self] at lt
  cases lt

theorem queue_eq (member : key ∈ w.queue) : ∃ rest, w.queue = w.ahead key ++ key :: rest := by
  obtain ⟨before, rest, split⟩ := List.append_of_mem member
  have ordered := w.ordered_queue
  rw [split, List.pairwise_append] at ordered
  obtain ⟨-, after, earlier⟩ := ordered
  refine ⟨rest, ?_⟩
  suffices same : w.ahead key = before by rw [same, split]
  rw [ahead, split, List.filter_append, List.filter_eq_self.2, List.filter_eq_nil_iff.2,
    List.append_nil]
  · intro other listed
    rw [decide_eq_true_eq]
    rcases List.mem_cons.1 listed with rfl | listed
    · rw [Std.ReflOrd.compare_self]
      exact nofun
    · rw [Std.OrientedCmp.gt_of_lt (List.rel_of_pairwise_cons after listed)]
      exact nofun
  · exact fun other listed => decide_eq_true (earlier other listed key List.mem_cons_self)

/-- The keys ahead of a key that is not handled in a cycle take all places. -/
theorem take_queue (member : key ∈ w.queue) {m : Nat} (far : m ≤ (w.ahead key).length) :
    w.queue.take m = (w.ahead key).take m := by
  obtain ⟨rest, split⟩ := queue_eq member
  rw [split, List.take_append_of_le_length far]

/-- A key is handled if there are fewer keys ahead of it than places. -/
theorem mem_take_queue_iff (member : key ∈ w.queue) {m : Nat} :
    key ∈ w.queue.take m ↔ (w.ahead key).length < m := by
  constructor
  · intro first
    by_contra far
    rw [take_queue member (Nat.not_lt.1 far)] at first
    exact not_mem_ahead_self (List.mem_of_mem_take first)
  · intro near
    obtain ⟨rest, split⟩ := queue_eq member
    obtain ⟨left, eq⟩ := Nat.exists_eq_succ_of_ne_zero (Nat.sub_ne_zero_of_lt near)
    rw [split, List.take_append, eq, List.take_succ_cons]
    exact List.mem_append_right _ List.mem_cons_self

end World

/-! ## One cycle -/

namespace Sight

variable {key : Key} {d : Sight} {isDown isOld : Bool} {boundary later : Bucket}

/-- A key that is active once it was handled is as it was: its pending traffic could not be
written. -/
theorem handled_of_isActive (active : (d.handled key isDown isOld).isActive = true) :
    d.handled key isDown isOld = d ∧ isDown = true ∧ d.pending ≠ 0 := by
  unfold handled at active ⊢
  unfold pending
  cases live : d.live? with
  | none =>
    rw [live] at active
    cases active
  | some e =>
    rw [live] at active
    dsimp only at active ⊢
    split at active
    · next pending =>
      cases isDown with
      | true => exact ⟨by rw [if_pos pending]; rfl, rfl, pending⟩
      | false => cases active
    · split at active <;> cases active

theorem handled_of_stuck (pending : d.pending ≠ 0) : d.handled key true isOld = d := by
  unfold Sight.pending at pending
  cases live : d.live? with
  | none =>
    rw [live] at pending
    exact (pending rfl).elim
  | some e =>
    rw [live] at pending
    exact handled_pending live pending

/-- What was pending is in the row, and the markers are where the counter is. The record is gone if
there was none, or if its bucket lies before the retention window. -/
structure Flushed (before : Sight) (key : Key) (boundary : Bucket) (after : Sight) : Prop where
  inactive : after.isActive = false
  row : after.row = before.row + before.pending
  settled : ∀ e, after.live? = some e →
    e.isSettled = true ∧ before.live?.map (·.traffic) = some e.traffic
  gone : after.live? = none → before.live? = none ∨ key.bucket < boundary

theorem Flushed.mono {d' : Sight} (h : d.Flushed key boundary d') (le : boundary ≤ later) :
    d.Flushed key later d' :=
  ⟨h.inactive, h.row, h.settled, fun none =>
    (h.gone none).imp_right fun old => Int.lt_of_lt_of_le old le⟩

theorem Flushed.of_live (isOld : Bool) {e e' : Hot.Entry} {row : Traffic}
    (live : d.live? = some e) (same : e'.traffic = e.traffic) (settled : e'.isSettled = true)
    (written : row = d.row + d.pending) (old : isOld = true → key.bucket < boundary) :
    d.Flushed key boundary ⟨false, if isOld then none else some e', row⟩ := by
  refine ⟨rfl, written, fun e'' found => ?_, fun none => .inr ?_⟩
  · obtain ⟨-, kept⟩ := Option.ite_none_left_eq_some.1 found
    cases kept
    exact ⟨settled, by rw [live, same]; rfl⟩
  · cases isOld with
    | true => exact old rfl
    | false => cases none

theorem Flushed.pending_eq {d' : Sight} (h : d.Flushed key boundary d') : d'.pending = 0 := by
  rw [pending]
  cases live : d'.live? with
  | none => rfl
  | some e => exact Hot.Entry.pending_of_isSettled (h.settled e live).1

/-- The counter of a key in the retention window stays as it is. -/
theorem Flushed.traffic_eq {d' : Sight} (h : d.Flushed key boundary d')
    (young : ¬ key.bucket < boundary) : d'.live?.map (·.traffic) = d.live?.map (·.traffic) := by
  cases live : d'.live? with
  | none => rw [(h.gone live).resolve_right young]
  | some e => exact (h.settled e live).2.symm

/-- A key that is handled is flushed, unless its writes fail. -/
theorem flushed_handled : d.Flushed key boundary (d.handled key false (key.bucket < boundary)) := by
  cases live : d.live? with
  | none =>
    rw [handled_missing live]
    have nothing : d.pending = 0 := by rw [pending, live]; rfl
    refine ⟨rfl, by rw [nothing, Traffic.add_zero], fun e found => ?_, fun _ => .inl live⟩
    rw [live] at found
    cases found
  | some e =>
    have own : d.pending = e.pending := by rw [pending, live]; rfl
    by_cases idle : e.pending = 0
    · have written : d.row = d.row + d.pending := by rw [own, idle, Traffic.add_zero]
      cases reset : (e.toRecord key).isReset with
      | true =>
        rw [handled_reset live idle reset]
        exact .of_live false live rfl (Hot.Entry.isSettled_iff.2 rfl) written nofun
      | false =>
        rw [handled_idle live idle reset]
        exact .of_live _ live rfl (isSettled_of_idle idle reset) written of_decide_eq_true
    · rw [handled_pending live idle]
      exact .of_live _ live rfl (Hot.Entry.isSettled_iff.2 rfl) (by rw [own]) of_decide_eq_true

end Sight

/-- The write of what is pending of a key fails. -/
def World.isStuck (failing : Cold.RowKey → Option Error) (w : World) (key : Key) : Bool :=
  IsDown failing key && (w.sight key).pending ≠ 0

/-- The number of keys ahead of a key that stay where they are. -/
def World.stuckAhead (failing : Cold.RowKey → Option Error) (w : World) (key : Key) : Nat :=
  (w.ahead key).countP (w.isStuck failing)

namespace Compaction

variable {failing : Cold.RowKey → Option Error} {boundary : Bucket} {m : Nat} {w w' : World}
  {key : Key}

section Step

variable (step : w'.sight = sightsAfter failing boundary (w.queue.take m) w.sight)
include step

theorem sight_of_mem_take (first : key ∈ w.queue.take m) :
    w'.sight key = (w.sight key).handled key (IsDown failing key) (key.bucket < boundary) := by
  rw [step, sightsAfter, if_pos first]

theorem sight_of_not_mem_take (later : key ∉ w.queue.take m) : w'.sight key = w.sight key := by
  rw [step, sightsAfter, if_neg later]

/-- Nothing happens to a key that is not active. -/
theorem sight_of_inactive (inactive : (w.sight key).isActive = false) :
    w'.sight key = w.sight key :=
  sight_of_not_mem_take step fun first =>
    Bool.eq_false_iff.1 inactive (World.mem_queue.1 (List.mem_of_mem_take first))

/-- What is still active is as it was. -/
theorem sight_of_mem_queue (member : key ∈ w'.queue) :
    w'.sight key = w.sight key ∧ (key ∈ w.queue.take m → w.isStuck failing key = true) := by
  by_cases first : key ∈ w.queue.take m
  · -- being handled has left it active, so its write has failed
    have active := World.mem_queue.1 member
    have handled := sight_of_mem_take step first
    rw [handled] at active
    obtain ⟨same, down, pending⟩ := Sight.handled_of_isActive active
    refine ⟨handled.trans same, fun _ => ?_⟩
    rw [World.isStuck, down, Bool.true_and, decide_eq_true pending]
  · exact ⟨sight_of_not_mem_take step first, fun member => (first member).elim⟩

theorem mem_queue_step :
    key ∈ w'.queue ↔ key ∈ w.queue ∧ (key ∈ w.queue.take m → w.isStuck failing key = true) := by
  constructor
  · intro member
    obtain ⟨same, stuck⟩ := sight_of_mem_queue step member
    rw [World.mem_queue, same] at member
    exact ⟨World.mem_queue.2 member, stuck⟩
  · rintro ⟨member, stuck⟩
    rw [World.mem_queue]
    by_cases first : key ∈ w.queue.take m
    · have stuck := stuck first
      rw [World.isStuck, Bool.and_eq_true, decide_eq_true_eq] at stuck
      rw [sight_of_mem_take step first, stuck.1, Sight.handled_of_stuck stuck.2]
      exact World.mem_queue.1 member
    · rw [sight_of_not_mem_take step first]
      exact World.mem_queue.1 member

theorem isStuck_step (member : key ∈ w'.queue) :
    w'.isStuck failing key = w.isStuck failing key := by
  rw [World.isStuck, World.isStuck, (sight_of_mem_queue step member).1]

/-- A key without a place in the cycle stays in the queue as it was. -/
theorem stays_of_far (member : key ∈ w.queue) (far : m ≤ (w.ahead key).length) :
    w'.sight key = w.sight key ∧ key ∈ w'.queue := by
  have later : key ∉ w.queue.take m := mt (World.mem_take_queue_iff member).1 (Nat.not_lt.2 far)
  have still := (mem_queue_step step).2 ⟨member, fun first => (later first).elim⟩
  exact ⟨sight_of_not_mem_take step later, still⟩

/-- Ahead of a key that was not handled are the stuck ones of those that were, and all others. -/
theorem ahead_step (member : key ∈ w.queue) (far : m ≤ (w.ahead key).length) :
    (w'.ahead key).Perm
      (((w.ahead key).take m).filter (w.isStuck failing) ++ (w.ahead key).drop m) := by
  have parts := w.nodup_ahead key
  rw [← List.take_append_drop m (w.ahead key), List.nodup_append] at parts
  obtain ⟨nodup_take, nodup_drop, apart⟩ := parts
  -- neither side has a key twice, so it is enough to tell the keys
  refine (List.perm_ext_iff_of_nodup (w'.nodup_ahead key) ?_).2 fun other => ?_
  · rw [List.nodup_append]
    exact ⟨nodup_take.filter _, nodup_drop, fun a ha => apart a (List.mem_of_mem_filter ha)⟩
  · have split : other ∈ w.ahead key ↔
        other ∈ (w.ahead key).take m ∨ other ∈ (w.ahead key).drop m := by
      rw [← List.mem_append, List.take_append_drop]
    rw [World.mem_ahead, mem_queue_step step, World.take_queue member far, List.mem_append,
      List.mem_filter, and_right_comm, ← World.mem_ahead, split]
    constructor
    · rintro ⟨first | later, stuck⟩
      · exact .inl ⟨first, stuck first⟩
      · exact .inr later
    · rintro (⟨first, stuck⟩ | later)
      · exact ⟨.inl first, fun _ => stuck⟩
      · exact ⟨.inr later, fun first => (apart other first other later rfl).elim⟩

theorem stuckAhead_step (member : key ∈ w.queue) (far : m ≤ (w.ahead key).length) :
    w'.stuckAhead failing key = w.stuckAhead failing key := by
  have same : w'.stuckAhead failing key = (w'.ahead key).countP (w.isStuck failing) :=
    List.countP_congr fun other listed => by
      rw [isStuck_step step (World.mem_ahead.1 listed).1]
  rw [same, (ahead_step step member far).countP_eq, List.countP_append, List.countP_filter]
  simp only [Bool.and_self]
  rw [← List.countP_append, List.take_append_drop, World.stuckAhead]

/-- A key gets nearer by the places that stuck keys do not take. -/
theorem length_ahead_step (member : key ∈ w.queue) (far : m ≤ (w.ahead key).length) :
    (w'.ahead key).length + m ≤ (w.ahead key).length + w.stuckAhead failing key := by
  have stuck : ((w.ahead key).take m).countP (w.isStuck failing) ≤ w.stuckAhead failing key :=
    (List.take_sublist ..).countP_le
  rw [(ahead_step step member far).length_eq, List.length_append, ← List.countP_eq_length_filter,
    List.length_drop]
  omega

end Step

/-! ## Cycles in a row -/

/-- Some cycles, one after another, while writes to some rows fail. After each of them time may
pass, in which nothing expires; nothing else happens. -/
inductive Cycles (failing : Cold.RowKey → Option Error) (c : Settings) :
    Nat → Compactor → World → Compactor → World → Prop
  | zero (memory : Compactor) (w : World) : Cycles failing c 0 memory w memory w
  | more {k : Nat} {memory memory₁ memory₂ : Compactor} {w w₁ w₂ : World}
      {result : Except Error Report} {later : Instant}
      (ran : Reaches (Outage.ofRows failing).answer (memory.run c) w (.pure (memory₁, result)) w₁)
      (le : w₁.now ≤ later) (alive : ({ w₁ with now := later } : World).sight = w₁.sight)
      (rest : Cycles failing c k memory₁ { w₁ with now := later } memory₂ w₂) :
      Cycles failing c (k + 1) memory w memory₂ w₂

/-- Requests take no time, so there are cycles that take none. -/
theorem exists_cycles_at_once (failing : Cold.RowKey → Option Error) (c : Settings) (k : Nat)
    (memory : Compactor) (w : World) :
    ∃ memory' w', Cycles failing c k memory w memory' w' ∧ w'.now = w.now := by
  induction k generalizing memory w with
  | zero => exact ⟨memory, w, .zero memory w, rfl⟩
  | succ k ih =>
    have ran : Reaches (Outage.ofRows failing).answer (memory.run c) w _ _ :=
      reaches_settle (memory.run c) w
    have stands := ran.keeps (P := fun later => later.now = w.now)
      (fun request later same => (Stage.now_answer (s := ⟨later, []⟩) request).trans same) rfl
    obtain ⟨memory', w', rest, same⟩ := ih _ _
    exact ⟨memory', w', .more ran (Int.le_refl _) rfl rest, same.trans stands⟩

theorem exists_cycles (failing : Cold.RowKey → Option Error) (c : Settings) (k : Nat)
    (memory : Compactor) (w : World) : ∃ memory' w', Cycles failing c k memory w memory' w' := by
  obtain ⟨memory', w', cycles, -⟩ := exists_cycles_at_once failing c k memory w
  exact ⟨memory', w', cycles⟩

/-- What cycles meet: only the writes to some rows fail, and none because its resource is gone. -/
structure Meets (failing : Cold.RowKey → Option Error) (retired : List (ResourceType × Id))
    (w : World) : Prop where
  serves : Serves w.now retired w
  transient : ∀ row e, failing row = some e → e.isNotFound = false
  known : ∀ key ∈ w.queue, IsDown failing key = false →
    retired.contains (key.type, key.resource) = false

variable {c : Settings} {retired : List (ResourceType × Id)} {memory memory' : Compactor} {k : Nat}

/-- A cycle with the time that passes after it. -/
theorem Meets.step {result : Compactor × Except Error Report} {later : Instant}
    (meets : Meets failing retired w)
    (ran : Reaches (Outage.ofRows failing).answer (memory.run c) w (.pure result) w')
    (alive : ({ w' with now := later } : World).sight = w'.sight) :
    Meets failing retired { w' with now := later } ∧ w'.now = w.now ∧
      ({ w' with now := later } : World).sight = sightsAfter failing (c.boundaryAt w.now)
        (w.queue.take c.config.maxKeysPerCycle) w.sight := by
  obtain ⟨serves, -, sight⟩ := sight_of_cycle meets.transient meets.serves meets.known ran
  have step := alive.trans sight
  refine ⟨⟨⟨rfl, serves.uncancelled, serves.scheduled, serves.online, serves.retired⟩,
    meets.transient, fun key member => ?_⟩, serves.now, step⟩
  exact meets.known key ((mem_queue_step step).1 member).1

theorem Cycles.meets (cycles : Cycles failing c k memory w memory' w')
    (meets : Meets failing retired w) : Meets failing retired w' := by
  induction cycles with
  | zero => exact meets
  | more ran le alive rest ih => exact ih (meets.step ran alive).1

theorem Cycles.now_le (cycles : Cycles failing c k memory w memory' w')
    (meets : Meets failing retired w) : w.now ≤ w'.now := by
  induction cycles with
  | zero => exact Int.le_refl _
  | more ran le alive rest ih =>
    obtain ⟨meets, stands, -⟩ := meets.step ran alive
    exact Int.le_trans (stands ▸ le) (ih meets)

theorem Cycles.sight_of_inactive (cycles : Cycles failing c k memory w memory' w')
    (meets : Meets failing retired w) (inactive : (w.sight key).isActive = false) :
    w'.sight key = w.sight key := by
  induction cycles with
  | zero => rfl
  | more ran le alive rest ih =>
    obtain ⟨meets, -, step⟩ := meets.step ran alive
    have same := Compaction.sight_of_inactive step inactive
    exact (ih meets (same ▸ inactive)).trans same

/-- A key gets its turn as soon as the cycles have places for all keys ahead of it, where those of
which the writes fail take a place in each of them. -/
theorem Cycles.handled_of_near (cycles : Cycles failing c k memory w memory' w')
    (meets : Meets failing retired w) (member : key ∈ w.queue) (up : IsDown failing key = false)
    (near : (w.ahead key).length < w.stuckAhead failing key +
      k * (c.config.maxKeysPerCycle - w.stuckAhead failing key)) :
    ∃ turn, w.now ≤ turn ∧ turn ≤ w'.now ∧ w'.sight key =
      (w.sight key).handled key false (key.bucket < c.boundaryAt turn) := by
  have stuck (w : World) : w.stuckAhead failing key ≤ (w.ahead key).length :=
    List.countP_le_length
  induction cycles with
  | zero memory w =>
    have stuck := stuck w
    omega
  | @more k memory memory₁ memory₂ w w₁ w₂ result later ran le alive rest ih =>
    -- with no free place the bound is the same for any number of cycles
    have free : w.stuckAhead failing key < c.config.maxKeysPerCycle := by
      have stuck := stuck w
      by_contra crowded
      rw [Nat.sub_eq_zero_of_le (Nat.not_lt.1 crowded)] at near
      omega
    obtain ⟨meets₁, stands, step⟩ := meets.step ran alive
    have le : w.now ≤ later := stands ▸ le
    by_cases turn : (w.ahead key).length < c.config.maxKeysPerCycle
    · have handled := sight_of_mem_take step ((World.mem_take_queue_iff member).2 turn)
      rw [up] at handled
      have flushed : (w.sight key).Flushed key (c.boundaryAt w.now) _ := Sight.flushed_handled
      rw [← handled] at flushed
      -- the key is not active any more, so the other cycles leave it alone
      have same := rest.sight_of_inactive meets₁ flushed.inactive
      exact ⟨w.now, Int.le_refl _, Int.le_trans le (rest.now_le meets₁), same.trans handled⟩
    · have far := Nat.not_lt.1 turn
      obtain ⟨same, still⟩ := stays_of_far step member far
      have closer := length_ahead_step step member far
      rw [Nat.succ_mul] at near
      rw [← same]
      obtain ⟨turn, after, before, handled⟩ := ih meets₁ still (by
        rw [stuckAhead_step step member far]
        omega)
      exact ⟨turn, Int.le_trans le after, before, handled⟩

theorem Cycles.flushed_of_near (cycles : Cycles failing c k memory w memory' w')
    (meets : Meets failing retired w) (member : key ∈ w.queue) (up : IsDown failing key = false)
    (near : (w.ahead key).length < w.stuckAhead failing key +
      k * (c.config.maxKeysPerCycle - w.stuckAhead failing key)) :
    (w.sight key).Flushed key (c.boundaryAt w'.now) (w'.sight key) := by
  obtain ⟨turn, -, before, handled⟩ := cycles.handled_of_near meets member up near
  rw [handled]
  exact Sight.flushed_handled.mono (Settings.boundaryAt_mono before)

/-- A key with stuck keys ahead of it in all places never gets its turn. -/
theorem Cycles.sight_of_crowded (cycles : Cycles failing c k memory w memory' w')
    (meets : Meets failing retired w) (member : key ∈ w.queue)
    (crowded : c.config.maxKeysPerCycle ≤ w.stuckAhead failing key) :
    w'.sight key = w.sight key := by
  induction cycles with
  | zero => rfl
  | @more k memory memory₁ memory₂ w w₁ w₂ result later ran le alive rest ih =>
    obtain ⟨meets₁, -, step⟩ := meets.step ran alive
    have far := Nat.le_trans crowded List.countP_le_length
    obtain ⟨same, still⟩ := stays_of_far step member far
    rw [← same]
    exact ih meets₁ still (stuckAhead_step step member far ▸ crowded)

theorem meets_of_history {lifespan : Int} {calls : List Hot.Call}
    (history : w.hot = (Hot.Store.empty lifespan).afterCalls calls)
    (online : w.cold.isOffline = false) (uncancelled : w.isCancelled = false)
    (transient : ∀ row e, failing row = some e → e.isNotFound = false)
    (known : ∀ key ∈ w.queue, IsDown failing key = false →
      w.cold.retired.contains (key.type, key.resource) = false) :
    Meets failing w.cold.retired w := by
  rw [← Hot.Store.after_history] at history
  have scheduled : w.hot.Scheduled := history ▸ (Hot.Store.scheduled_empty lifespan).after _
  exact ⟨⟨rfl, uncancelled, scheduled, online, rfl⟩, transient, known⟩

/-- Some cycles in a row, in stores that answer, while writes to some rows fail. Of a key of which
they do not fail, whatever was pending is in its row and its markers are set, once the cycles have
places for all keys ahead of it; those of them that are stuck take a place in each cycle. If they
take all places nothing happens to the key, however many the cycles are. -/
theorem flushed_unless_crowded (failing : Cold.RowKey → Option Error) (c : Settings)
    (memory : Compactor) (k : Nat) {lifespan : Int} {calls : List Hot.Call} {w : World}
    (history : w.hot = (Hot.Store.empty lifespan).afterCalls calls)
    (online : w.cold.isOffline = false) (uncancelled : w.isCancelled = false)
    (transient : ∀ row e, failing row = some e → e.isNotFound = false)
    (known : ∀ key ∈ w.queue, IsDown failing key = false →
      w.cold.retired.contains (key.type, key.resource) = false) :
    (∃ memory' w', Cycles failing c k memory w memory' w') ∧
    ∀ memory' w', Cycles failing c k memory w memory' w' →
      ∀ key ∈ w.queue, IsDown failing key = false →
        ((w.ahead key).length < w.stuckAhead failing key +
            k * (c.config.maxKeysPerCycle - w.stuckAhead failing key) →
          (w.sight key).Flushed key (c.boundaryAt w'.now) (w'.sight key)) ∧
        (c.config.maxKeysPerCycle ≤ w.stuckAhead failing key → w'.sight key = w.sight key) := by
  have meets := meets_of_history history online uncancelled transient known
  refine ⟨exists_cycles failing c k memory w, fun memory' w' cycles key member up => ⟨?_, ?_⟩⟩
  · exact cycles.flushed_of_near meets member up
  · exact cycles.sight_of_crowded meets member

/-- Writes to the row of one key time out. -/
def timeoutOf (key : Key) : Cold.RowKey → Option Error := fun row =>
  if row = .ofKey key then some (.unavailable .cold "timed out") else none

theorem isNotFound_timeoutOf (key : Key) (row : Cold.RowKey) (e : Error)
    (fails : timeoutOf key row = some e) : e.isNotFound = false := by
  unfold timeoutOf at fails
  split at fails
  · cases fails
    rfl
  · cases fails

/-- Two keys a cycle, and writes to the first of three fail. The third has its turn in the second
cycle. -/
theorem flushed_behind_stuck :
    let key (node : Id) : Key := ⟨⟨default, 474804⟩, 1, .node, node⟩
    let counted : List (Key × Traffic) :=
      [(key 1, .ofNats 10 10), (key 2, .ofNats 20 20), (key 3, .ofNats 30 30)]
    let w : World := {
      now := ⟨5⟩
      hot := (Hot.Store.empty 100).afterCalls [.request ⟨1⟩ (.incrementAll counted)] }
    let c : Settings := ⟨default, 0, { maxKeysPerCycle := 2 }⟩
    ∃ memory' w', Cycles (timeoutOf (key 1)) c 2 {} w memory' w' ∧
      (w'.sight (key 3)).row = .ofNats 30 30 ∧ (w'.sight (key 3)).isActive = false := by
  intro key counted w c
  have known : ∀ key' ∈ w.queue, IsDown (timeoutOf (key 1)) key' = false →
      w.cold.retired.contains (key'.type, key'.resource) = false := fun _ _ _ => rfl
  obtain ⟨⟨memory', w', cycles⟩, all⟩ :=
    flushed_unless_crowded (timeoutOf (key 1)) c {} 2 (w := w) rfl rfl rfl
      (isNotFound_timeoutOf (key 1)) known
  have flushed := (all memory' w' cycles (key 3) (by decide +kernel) (by decide +kernel)).1
    (by decide +kernel)
  have row : (w.sight (key 3)).row + (w.sight (key 3)).pending = .ofNats 30 30 := by
    decide +kernel
  exact ⟨memory', w', cycles, flushed.row.trans row, flushed.inactive⟩

/-- One key a cycle, and writes to the first of two fail. The cycles have places for both keys, and
the second one is as it was after them. -/
theorem starved_behind_stuck :
    let key (node : Id) : Key := ⟨⟨default, 474804⟩, 1, .node, node⟩
    let w : World := {
      now := ⟨5⟩
      hot := (Hot.Store.empty 100).afterCalls
        [.request ⟨1⟩ (.incrementAll [(key 1, .ofNats 10 10), (key 2, .ofNats 20 20)])] }
    let c : Settings := ⟨default, 0, { maxKeysPerCycle := 1 }⟩
    w.queue = [key 1, key 2] ∧
    (∃ memory' w', Cycles (timeoutOf (key 1)) c 2 {} w memory' w') ∧
    ∀ memory' w', Cycles (timeoutOf (key 1)) c 2 {} w memory' w' →
      (w'.sight (key 2)).row = 0 ∧ (w'.sight (key 2)).pending = .ofNats 20 20 ∧
        (w'.sight (key 2)).isActive = true := by
  intro key w c
  have known : ∀ key' ∈ w.queue, IsDown (timeoutOf (key 1)) key' = false →
      w.cold.retired.contains (key'.type, key'.resource) = false := fun _ _ _ => rfl
  have meets : Meets (timeoutOf (key 1)) w.cold.retired w :=
    meets_of_history rfl rfl rfl (isNotFound_timeoutOf (key 1)) known
  refine ⟨by decide +kernel, exists_cycles .., fun memory' w' cycles => ?_⟩
  have active : key 2 ∈ w.queue := by decide +kernel
  rw [cycles.sight_of_crowded meets active (by decide +kernel)]
  decide +kernel

end Compaction

end Metering
