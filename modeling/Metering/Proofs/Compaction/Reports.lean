import Metering.Proofs.Cold.RollUp
import Metering.Proofs.Compaction.Spared
import Metering.Proofs.Hot.ActiveIndex

/-!
# A report accounts for every active key

The report of a cycle is the tally of the verdicts of its active keys, so each of them is counted
once: by its outcome, or as skipped. A key that was flushed while more traffic arrived is counted as
flushed and as busy; a key whose record was deleted is counted as settled and as purged.

Results:
1. `balanced_tally`: what the counts of a tally add up to.
2. `reports_each_key`.
-/

namespace Metering.Compaction

open Program

/-! ## Tallies -/

/-- The key was flushed and stays active, as more traffic has arrived. -/
def Outcome.isRetained : Outcome → Bool
  | .flushed _ .retained => true
  | _ => false

/-- What was flushed. -/
def Outcome.moved : Outcome → Traffic
  | .flushed traffic _ => traffic
  | _ => 0

namespace Report

/-- The report counts some keys once each, apart from those that were flushed and stay active: these
are busy besides. -/
structure Balanced (r : Report) (keys retained : Nat) : Prop where
  total : keys + retained = r.flushed + r.settled + r.missing + r.counterResets + r.resourcesGone +
    r.failed + r.skipped + r.busy
  retained_le : retained ≤ r.busy
  purged_le : r.purged ≤ r.settled
  cancelled : r.isCancelled = true ↔ 0 < r.skipped

theorem Balanced.count {r : Report} {keys retained : Nat} (h : r.Balanced keys retained)
    (outcome : Outcome) :
    (r.count outcome).Balanced (keys + 1) (retained + outcome.isRetained.toNat) := by
  obtain ⟨total, retained_le, purged_le, cancelled⟩ := h
  rcases outcome with ⟨traffic, _ | _ | _⟩ | _ | _ | _ | _ | _ | _ | _ | _
  all_goals
    refine ⟨?_, ?_, ?_, ?_⟩ <;>
    simp only [Report.count, Outcome.isRetained, Bool.toNat_true, Bool.toNat_false, reduceCtorEq,
      if_true, if_false, cancelled, Nat.succ_pos] <;> omega

theorem balanced_tally (outcomes : List Outcome) {r : Report} {keys retained : Nat}
    (h : r.Balanced keys retained) :
    (r.tally outcomes).Balanced (keys + outcomes.length)
      (retained + outcomes.countP (·.isRetained)) := by
  induction outcomes generalizing r keys retained with
  | nil => exact h
  | cons outcome rest ih =>
    have counted := ih (h.count outcome)
    rw [List.length_cons, List.countP_cons, Nat.add_comm rest.length, ← Nat.add_assoc]
    have own : (if outcome.isRetained = true then 1 else 0) = outcome.isRetained.toNat := by
      cases outcome.isRetained <;> rfl
    rw [own, Nat.add_comm (rest.countP _), ← Nat.add_assoc]
    exact counted

theorem bytesFlushed_tally (outcomes : List Outcome) (r : Report) :
    (r.tally outcomes).bytesFlushed = r.bytesFlushed + .sum (outcomes.map (·.moved)) := by
  induction outcomes generalizing r with
  | nil => exact (Traffic.add_zero _).symm
  | cons outcome rest ih =>
    refine (ih (r.count outcome)).trans ?_
    rw [List.map_cons, Traffic.sum_cons, ← Traffic.add_assoc]
    refine congrArg (· + _) ?_
    cases outcome with
    | flushed traffic commit => rfl
    | _ => exact (Traffic.add_zero _).symm

end Report

/-! ## Cycles -/

/-- The report of a run from `s` to `t` accounts for its active keys. -/
structure Reconciles (report : Report) (s t : Course) (keys : List Key) : Prop where
  /-- Each key is counted once, with the verdict that the log gives it. -/
  once : report.counts = ({} : Report).tally (keys.map fun key => (t.traces key).verdict)
  retained_le : keys.countP (fun key => (t.traces key).verdict.isRetained) ≤ report.busy
  /-- A key that was flushed and stays active is counted as flushed, and not as busy once more. -/
  total : keys.length = report.flushed + report.settled + report.missing + report.counterResets +
    report.resourcesGone + report.failed + report.skipped +
      (report.busy - keys.countP fun key => (t.traces key).verdict.isRetained)
  purged_le : report.purged ≤ report.settled
  cancelled : report.isCancelled = true ↔ 0 < report.skipped
  bytes : report.bytesFlushed = .sum (keys.map fun key => (t.traces key).verdict.moved)
  /-- What was flushed of a key is what was pending in its record when that was read. -/
  delta : ∀ key ∈ keys, (t.traces key).verdict.Moves (t.traces key).reading
  /-- The run leaves a skipped key alone: its record is what it would be without the run, and its
  row is what it was. -/
  skipped : ∀ key ∈ keys, (t.traces key).verdict = .cancelled →
    t.stage.live? key = (s.alone t).live? key ∧ t.stage.row key = s.stage.row key

/-- The report of a cycle accounts for every active key, once. This holds whatever the sizes of the
batches and the number of tasks are, whatever arrives, which calls fail, and when the cycle is
cancelled, as long as it gives a report. -/
theorem reports_each_key {lifespan : Int} {calls : List Hot.Call} {w : World}
    (history : w.hot = (Hot.Store.empty lifespan).afterCalls calls) (fates : List Fate)
    (c : Settings) (memory : Compactor) {memory' : Compactor} {report : Report} {t : Course}
    (reached : Reaches Course.answer (memory.run c) ⟨⟨w, []⟩, fates⟩
      (.pure (memory', .ok report)) t) :
    let start : Course := ⟨⟨w, []⟩, fates⟩
    ∃ keys, (Course.answer (.hot (.activeKeys c.config.maxKeysPerCycle))
        (Course.answer .isCancelled start).2).1 = .ok keys ∧
      keys.Nodup ∧ Reconciles report start t keys := by
  intro start
  have scheduled : w.hot.Scheduled := by
    rw [history, ← Hot.Store.after_history]
    exact (Hot.Store.scheduled_empty lifespan).after _
  have ran := of_run reached
  split at ran
  · exact nomatch ran.2.1
  · obtain ⟨streaks, u, -, cycled, events, rfl⟩ := ran
    have fresh (key : Key) : (Course.answer .isCancelled start).2.traces key = {} :=
      congrFun (traces_aside Course.lawful_answer isAside_isCancelled start) key
    obtain ⟨-, ordered, reported⟩ := of_cycle Course.lawful_answer fresh cycled
    obtain ⟨keys, listed, nodup, -, once⟩ := reported report rfl
    have same := traces_records Course.lawful_answer events u
    generalize events.foldl (fun s event => (Course.answer (.record event) s).2) u = t
      at reached same ⊢
    rw [← same] at once ordered
    refine ⟨keys, listed, nodup, ?_⟩
    have none : ({} : Report).Balanced 0 0 := ⟨rfl, Nat.le_refl 0, Nat.le_refl 0, by decide⟩
    have balanced := Report.balanced_tally (keys.map fun key => (t.traces key).verdict) none
    rw [← once, List.length_map, List.countP_map, Nat.zero_add, Nat.zero_add] at balanced
    have bytes := Report.bytesFlushed_tally (keys.map fun key => (t.traces key).verdict) {}
    rw [← once, List.map_map] at bytes
    obtain ⟨total, retained_le, purged_le, cancelled⟩ := balanced
    refine ⟨once, retained_le, ?_, purged_le, cancelled, bytes.trans (Traffic.zero_add _), ?_, ?_⟩
    · exact Nat.eq_sub_of_add_eq total |>.trans (Nat.add_sub_assoc retained_le _)
    · exact fun key _ => (ordered key).delta
    · exact fun key _ skipped =>
        Course.alone_of_run scheduled reached (Trace.calls_of_verdict skipped)

/-- Three keys in batches of one. Traffic of the first arrives before its commit, the write of the
second fails, and the third is skipped, as the cycle is cancelled; traffic of it arrives then. -/
theorem report_of_cancelled_cycle :
    let key (node : Id) : Key := ⟨⟨default, 474804⟩, 1, .node, node⟩
    let calls : List Hot.Call := [.request ⟨1⟩ (.incrementAll
      [(key 1, .ofNats 10 10), (key 2, .ofNats 20 20), (key 3, .ofNats 30 30)])]
    let w : World := { now := ⟨5⟩, hot := (Hot.Store.empty 100).afterCalls calls }
    let c : Settings := ⟨default, 0, { snapshotBatch := 1 }⟩
    let fates : List Fate :=
      List.replicate 7 ⟨[], none⟩ ++ [⟨[.arrival (key 1) (.ofNats 1 1)], none⟩] ++
        List.replicate 4 ⟨[], none⟩ ++ [⟨[], some (.unavailable .cold "timed out")⟩, ⟨[], none⟩,
          ⟨[.cancellation, .arrival (key 3) (.ofNats 3 0)], none⟩]
    ∃ memory' report t,
      Reaches Course.answer (Compactor.run c {}) ⟨⟨w, []⟩, fates⟩ (.pure (memory', .ok report)) t ∧
      Reconciles report ⟨⟨w, []⟩, fates⟩ t [key 1, key 2, key 3] ∧
      report.flushed = 1 ∧ report.busy = 1 ∧ report.failed = 1 ∧ report.skipped = 1 ∧
      report.bytesFlushed = .ofNats 10 10 ∧
      (t.stage.live? (key 3)).map (·.traffic) = some (.ofNats 33 30) := by
  intro key calls w c fates
  let ended := (Compactor.run c {}).settle Course.answer ⟨⟨w, []⟩, fates⟩
  have counts : ended.1.2.toOption.map (fun r => (r.flushed, r.busy, r.failed, r.skipped,
      r.bytesFlushed)) = some (1, 1, 1, 1, .ofNats 10 10) := by decide +kernel
  rcases told : ended.1.2 with e | report
  · rw [told] at counts
    cases counts
  · rw [told] at counts
    obtain ⟨flushed, busy, failed, skipped, bytes⟩ :
        report.flushed = 1 ∧ report.busy = 1 ∧ report.failed = 1 ∧ report.skipped = 1 ∧
          report.bytesFlushed = .ofNats 10 10 := by
      simpa [Except.toOption] using counts
    have reached : Reaches Course.answer (Compactor.run c {}) ⟨⟨w, []⟩, fates⟩
        (.pure (ended.1.1, .ok report)) ended.2 := by
      rw [← told]
      exact reaches_settle _ _
    obtain ⟨keys, listed, -, reconciles⟩ := reports_each_key rfl fates c {} reached
    have active : (.ok keys : Except Error (List Key)) = .ok [key 1, key 2, key 3] :=
      listed.symm.trans (by decide +kernel)
    cases active
    refine ⟨_, report, _, reached, reconciles, flushed, busy, failed, skipped, bytes, ?_⟩
    decide +kernel

end Metering.Compaction
