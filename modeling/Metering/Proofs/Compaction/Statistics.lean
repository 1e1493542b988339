import Metering.Proofs.Cold.RollUp
import Metering.Proofs.Compaction.Notes
import Metering.Proofs.Hot.ActiveIndex

/-!
# What the statistics count

A key is flushed when a write to its row is taken and then the commit of its markers is. The log of
a cycle tells its flushes. A report counts exactly these, in whatever order the keys are handled and
whatever fails or is cancelled. But a cycle that cannot read one of its batches ends without a
report, and the statistics are added up from reports; so the flushes of its earlier batches are not
in them.

Results:
1. `counts_tally`: a tally of outcomes counts the flushes that these tell.
2. `counts_of_run`: the report of a cycle counts its flushes.
3. `stats_count_reported`: what the statistics tell of a series of calls; `stats_miss_flush`, a
   flush that they do not tell.
-/

namespace Metering.Compaction

open Program Procedure

/-! ## Tallies -/

/-- A report counts some flushes. -/
structure Counts (report : Report) (done : List (Key × Traffic)) : Prop where
  keys : report.flushed = done.length
  bytes : report.bytesFlushed = .sum (done.map (·.2))

theorem Counts.count {report : Report} {done : List (Key × Traffic)} (h : Counts report done)
    (key : Key) (outcome : Outcome) :
    Counts (report.count outcome) (done ++ outcome.flushes key) := by
  cases outcome with
  | flushed traffic commit =>
    constructor
    · simp [Report.count, Outcome.flushes, h.keys]
    · simp [Report.count, Outcome.flushes, h.bytes, Traffic.sum]
  | _ => exact (List.append_nil done).symm ▸ ⟨h.keys, h.bytes⟩

theorem Counts.perm {report : Report} {done done' : List (Key × Traffic)}
    (h : Counts report done) (perm : done.Perm done') : Counts report done' :=
  ⟨h.keys.trans perm.length_eq, h.bytes.trans (Traffic.sum_perm (perm.map _))⟩

/-- The flushes that the outcomes of some keys tell. -/
def flushesOf (outcome : Key → Outcome) (keys : List Key) : List (Key × Traffic) :=
  keys.flatMap fun key => (outcome key).flushes key

theorem counts_tally (outcome : Key → Outcome) (keys : List Key) {report : Report}
    {done : List (Key × Traffic)} (h : Counts report done) :
    Counts (report.tally (keys.map outcome)) (done ++ flushesOf outcome keys) := by
  induction keys generalizing report done with
  | nil => exact (List.append_nil done).symm ▸ h
  | cons key rest ih =>
    have counted := ih (h.count key (outcome key))
    rwa [List.append_assoc] at counted

theorem filter_flushes (outcome : Outcome) (key key' : Key) :
    (outcome.flushes key').filter (·.1 = key) = if key' = key then outcome.flushes key' else [] := by
  cases outcome with
  | flushed traffic commit =>
    by_cases same : key' = key <;> simp [Outcome.flushes, same]
  | _ => simp [Outcome.flushes]

/-- Of the flushes that the outcomes of distinct keys tell, those of a key are its own. -/
theorem filter_flushesOf (outcome : Key → Outcome) {keys : List Key} (nodup : keys.Nodup)
    (key : Key) :
    (flushesOf outcome keys).filter (·.1 = key) =
      if key ∈ keys then (outcome key).flushes key else [] := by
  induction keys with
  | nil => rfl
  | cons first rest ih =>
    rw [List.nodup_cons] at nodup
    have others := ih nodup.2
    rw [flushesOf] at others
    rw [flushesOf, List.flatMap_cons, List.filter_append, filter_flushes, others]
    rcases eq_or_ne first key with rfl | ne
    · rw [if_pos rfl, if_neg nodup.1, if_pos List.mem_cons_self, List.append_nil]
    · simp only [ne, if_false, List.nil_append, List.mem_cons, Ne.symm ne, false_or]

/-- The same flushes for each key are the same flushes. -/
theorem perm_of_filter {done done' : List (Key × Traffic)}
    (same : ∀ key, done.filter (·.1 = key) = done'.filter (·.1 = key)) : done.Perm done' := by
  refine List.perm_iff_count.2 fun flush => ?_
  have own : decide (flush.1 = flush.1) = true := decide_eq_true rfl
  have kept (l : List (Key × Traffic)) :
      (l.filter fun other => other.1 = flush.1).count flush = l.count flush :=
    List.count_filter own
  rw [← kept done, same, kept]

/-! ## Cycles -/

variable {s t : Course} {c : Settings}

/-- The flushes of a log are those that the verdicts of the keys tell, if no call was made about any
other key. -/
theorem perm_flushes {keys : List Key} (nodup : keys.Nodup)
    (ordered : ∀ key, (t.traces key).Ordered key)
    (unlisted : ∀ key ∉ keys, (t.traces key).calls = []) :
    (flushesOf (fun key => (t.traces key).verdict) keys).Perm (flushes t.stage.log) := by
  refine perm_of_filter fun key => ?_
  rw [filter_flushesOf _ nodup, ← Trace.flushes_calls]
  split
  · exact (ordered key).flushed.symm
  · next absent =>
    have uncalled : (Trace.ofLog key t.stage.log).calls = [] := unlisted key absent
    rw [uncalled]
    rfl

/-- A run that is not cancelled before adds its result to the statistics, and a report that it gives
counts its flushes. -/
theorem counts_of_run {memory memory' : Compactor} {result : Except Error Report}
    (fresh : s.stage.log = [])
    (reached : Reaches Course.answer (memory.run c) s (.pure (memory', result)) t) :
    if (Course.answer .isCancelled s).1 then memory' = memory ∧ result = .error .cancelled
    else memory'.stats = memory.stats.add result ∧
      ∀ report, result = .ok report → Counts report (flushes t.stage.log) := by
  have ran := of_run reached
  split at ran
  · next cancelled =>
    rw [if_pos cancelled]
    exact ⟨ran.1, ran.2.1⟩
  · next entered =>
    rw [if_neg entered]
    obtain ⟨streaks, u, rfl, cycled, events, rfl⟩ := ran
    refine ⟨rfl, ?_⟩
    rintro report rfl
    have untouched (key : Key) : (Course.answer .isCancelled s).2.traces key = {} := by
      rw [traces_aside Course.lawful_answer isAside_isCancelled, Course.traces, fresh]
      rfl
    obtain ⟨-, ordered, reported⟩ := of_cycle Course.lawful_answer untouched cycled
    obtain ⟨keys, -, nodup, unlisted, once⟩ := reported report rfl
    have same := traces_records Course.lawful_answer events u
    generalize events.foldl (fun s event => (Course.answer (.record event) s).2) u = t
      at reached same ⊢
    rw [← same] at ordered unlisted once
    refine Counts.perm ?_ (perm_flushes nodup ordered unlisted)
    have counted := counts_tally (fun key => (t.traces key).verdict) keys
      (⟨rfl, rfl⟩ : Counts {} [])
    rw [← once, List.nil_append] at counted
    exact ⟨counted.keys, counted.bytes⟩

/-! ## Series of calls -/

/-- A call of a compactor, from its start to its end. -/
structure Attempt where
  start : Course
  result : Except Error Report
  finish : Course

namespace Attempt

/-- The call finds at once that it was not cancelled, and so enters a cycle. -/
def entered (a : Attempt) : Bool := !(Course.answer .isCancelled a.start).1

/-- The flushes of the call. -/
def flushes (a : Attempt) : List (Key × Traffic) := Compaction.flushes a.finish.stage.log

end Attempt

/-- Some calls of one compactor, one after another. Each of them begins in a world of its own with
an empty log, and anything may happen between its requests. -/
inductive Attempts (c : Settings) : Compactor → List Attempt → Compactor → Prop
  | none (memory : Compactor) : Attempts c memory [] memory
  | more {memory memory₁ memory₂ : Compactor} {a : Attempt} {attempts : List Attempt}
      (fresh : a.start.stage.log = [])
      (ran : Reaches Course.answer (memory.run c) a.start (.pure (memory₁, a.result)) a.finish)
      (rest : Attempts c memory₁ attempts memory₂) : Attempts c memory (a :: attempts) memory₂

/-- The call in which the keys of a batch are handled one after another. -/
def Attempt.settled (c : Settings) (memory : Compactor) (start : Course) : Attempt :=
  let ended := (memory.run c).settle Course.answer start
  ⟨start, ended.1.2, ended.2⟩

/-- Every call comes to its end, whatever it meets. -/
theorem Attempts.settled {c : Settings} {memory' : Compactor} {attempts : List Attempt}
    (memory : Compactor) (start : Course) (fresh : start.stage.log = [])
    (rest : Attempts c ((memory.run c).settle Course.answer start).1.1 attempts memory') :
    Attempts c memory (.settled c memory start :: attempts) memory' :=
  .more fresh (reaches_settle (memory.run c) start) rest

/-- The flushes of the calls that gave a report. -/
def reported (attempts : List Attempt) : List (Key × Traffic) :=
  (attempts.filter (·.result.isOk)).flatMap Attempt.flushes

theorem reported_cons (a : Attempt) (attempts : List Attempt) :
    reported (a :: attempts) =
      (if a.result.isOk then a.flushes else []) ++ reported attempts := by
  unfold reported
  rw [List.filter_cons]
  split <;> rfl

/-- What the statistics tell after some calls, in which anything may fail or be cancelled. They count
the keys and bytes of all flushes in calls that gave a report, and of no others; and each call that
entered a cycle is counted once, as completed, cancelled or failed. -/
theorem stats_count_reported {c : Settings} {memory memory' : Compactor} {attempts : List Attempt}
    (calls : Attempts c memory attempts memory') :
    memory'.stats.keysFlushed = memory.stats.keysFlushed + (reported attempts).length ∧
    memory'.stats.bytesFlushed =
      memory.stats.bytesFlushed + .sum ((reported attempts).map (·.2)) ∧
    memory'.stats.completed + memory'.stats.cancelled + memory'.stats.failed =
      memory.stats.completed + memory.stats.cancelled + memory.stats.failed +
        attempts.countP (·.entered) := by
  induction calls with
  | none => exact ⟨rfl, (Traffic.add_zero _).symm, rfl⟩
  | @more memory memory₁ memory₂ a attempts fresh ran _ ih =>
    obtain ⟨keys, bytes, cycles⟩ := ih
    obtain ⟨start, result, finish⟩ := a
    have counted := counts_of_run fresh ran
    rw [reported_cons, List.length_append, List.map_append, Traffic.sum_append,
      List.countP_cons, keys, bytes, cycles, Attempt.entered]
    dsimp only at counted ⊢
    split at counted
    · next cancelled =>
      obtain ⟨rfl, rfl⟩ := counted
      simp [cancelled, Except.isOk, Except.toBool, Traffic.sum, Traffic.zero_add]
    · next entered =>
      obtain ⟨stats, counts⟩ := counted
      rw [stats, Bool.eq_false_iff.2 entered]
      cases result with
      | error e =>
        -- nothing but the number of failed cycles changes
        refine ⟨?_, ?_, ?_⟩
        · simp [Stats.add, Except.isOk, Except.toBool]
        · simp [Stats.add, Except.isOk, Except.toBool, Traffic.sum, Traffic.zero_add]
        · simp only [Stats.add, Bool.not_false, if_true]
          omega
      | ok report =>
        have counts := counts report rfl
        refine ⟨?_, ?_, ?_⟩
        · simp [Stats.add, Except.isOk, Except.toBool, Attempt.flushes, counts.keys, Nat.add_assoc]
        · simp [Stats.add, Except.isOk, Except.toBool, Attempt.flushes, counts.bytes,
            Traffic.add_assoc]
        · simp only [Stats.add, Bool.not_false, if_true]
          split <;> omega

/-- Two keys in batches of one. The second batch of the first call cannot be read, and the second
call is spared: it handles both keys, as it begins in the same world. -/
theorem stats_after_failed_call :
    let key (node : Id) : Key := ⟨⟨default, 474804⟩, 1, .node, node⟩
    let w : World := {
      now := ⟨5⟩
      hot := (Hot.Store.empty 100).afterCalls
        [.request ⟨1⟩ (.incrementAll [(key 1, .ofNats 10 10), (key 2, .ofNats 20 20)])] }
    let c : Settings := ⟨default, 0, { snapshotBatch := 1 }⟩
    let fates : List Fate :=
      List.replicate 10 ⟨[], none⟩ ++ [⟨[], some (.unavailable .hot "timed out")⟩]
    ∃ first second memory, first.start = ⟨⟨w, []⟩, fates⟩ ∧ second.start = ⟨⟨w, []⟩, []⟩ ∧
      Attempts c {} [first, second] memory ∧ first.result.isOk = false ∧
      memory.stats.keysFlushed = 2 ∧ memory.stats.bytesFlushed = .ofNats 30 30 ∧
      memory.stats.completed + memory.stats.cancelled + memory.stats.failed = 2 := by
  intro key w c fates
  have calls := Attempts.settled (c := c) {} ⟨⟨w, []⟩, fates⟩ rfl
    (.settled _ ⟨⟨w, []⟩, []⟩ rfl (.none _))
  obtain ⟨keys, bytes, cycles⟩ := stats_count_reported calls
  refine ⟨_, _, _, rfl, rfl, calls, by decide +kernel, keys.trans ?_, bytes.trans ?_,
    cycles.trans ?_⟩
  · decide +kernel
  · decide +kernel
  · decide +kernel

/-- Of the first of these calls the statistics do not tell the flush of the first key, whose write
and commit were both taken before the call failed. -/
theorem stats_miss_flush :
    let key (node : Id) : Key := ⟨⟨default, 474804⟩, 1, .node, node⟩
    let w : World := {
      now := ⟨5⟩
      hot := (Hot.Store.empty 100).afterCalls
        [.request ⟨1⟩ (.incrementAll [(key 1, .ofNats 10 10), (key 2, .ofNats 20 20)])] }
    let c : Settings := ⟨default, 0, { snapshotBatch := 1 }⟩
    let fates : List Fate :=
      List.replicate 10 ⟨[], none⟩ ++ [⟨[], some (.unavailable .hot "timed out")⟩]
    ∃ a memory, a.start = ⟨⟨w, []⟩, fates⟩ ∧ Attempts c {} [a] memory ∧ a.entered = true ∧
      a.flushes = [(key 1, .ofNats 10 10)] ∧
      memory.stats.keysFlushed = 0 ∧ memory.stats.bytesFlushed = 0 := by
  intro key w c fates
  refine ⟨.settled c {} ⟨⟨w, []⟩, fates⟩, _, rfl, .settled _ _ rfl (.none _),
    ?_, ?_, ?_, ?_⟩
  · decide +kernel
  · decide +kernel
  · decide +kernel
  · decide +kernel

end Metering.Compaction
