import Metering.Compaction.Flusher
import Metering.Proofs.Compaction.Phase
import Metering.Proofs.Program.Delivery

/-!
# Resets that a cycle reports

A counter below its markers was reset, and a key is rebased only where such a record was read. So as
long as no record is read that was reset, no report counts a reset, whatever turns the work on the
keys takes.

Results: `delivers_run`, `delivers_runOnce`, `delivers_drain`, the last report of the statistics
tells no reset after a cycle, a round or a drain.
-/

namespace Metering

namespace Compaction

open Program Procedure

/-- No record that is told of `key` was reset. -/
def Occurrence.Unreset (key : Key) : Occurrence → Prop
  | .observation records => ∀ record, (key, some record) ∈ records → record.isReset = false
  | _ => True

/-- No record that is told was reset. -/
def TellsUnreset {β : Type} (request : Request β) (answer : β) : Prop :=
  ∀ key, (occurrence request answer).Unreset key

/-! ## Keys -/

theorem delivers_ask {β : Type} (request : Request β) :
    Delivers TellsUnreset (Program.ask request) fun _ => True :=
  Delivers.ask fun _ _ => trivial

/-- The outcome tells no reset. -/
def Outcome.Unreset (outcome : Outcome) : Prop := outcome ≠ .rebased

theorem delivers_settleMissing (key : Key) :
    Delivers TellsUnreset (settleMissing key) Outcome.Unreset := by
  refine Delivers.bind (delivers_ask _) fun result _ => ?_
  cases result <;> exact Delivers.pure nofun

theorem delivers_settleIdle (key : Key) (boundary : Bucket) :
    Delivers TellsUnreset (settleIdle key boundary) Outcome.Unreset := by
  refine Delivers.bind (delivers_ask _) fun result _ => ?_
  rcases result with e | settled
  · exact Delivers.pure nofun
  · cases settled with
    | false => exact Delivers.pure nofun
    | true =>
      refine Delivers.pure ?_
      split <;> exact nofun

theorem delivers_commitFlushed (key : Key) (observed pending : Traffic) (boundary : Bucket) :
    Delivers TellsUnreset (commitFlushed key observed pending boundary) Outcome.Unreset := by
  refine Delivers.bind (delivers_ask _) fun result _ => ?_
  cases result with
  | error e => exact Delivers.pure nofun
  | ok commit =>
    dsimp only
    split
    · exact Delivers.bind (delivers_ask _) fun _ _ => Delivers.pure nofun
    · exact Delivers.pure nofun

theorem delivers_writePending (key : Key) (observed pending : Traffic) (boundary : Bucket) :
    Delivers TellsUnreset (writePending key observed pending boundary) Outcome.Unreset := by
  refine Delivers.bind (delivers_ask _) fun result _ => ?_
  cases result with
  | ok _ => exact delivers_commitFlushed key observed pending boundary
  | error e =>
    dsimp only
    split
    · refine Delivers.bind (delivers_ask _) fun result _ => ?_
      cases result <;> exact Delivers.pure nofun
    · exact Delivers.pure nofun

theorem delivers_flushRecord {record : Hot.Record} (unreset : record.isReset = false)
    (boundary : Bucket) : Delivers TellsUnreset (flushRecord record boundary) Outcome.Unreset := by
  unfold flushRecord
  simp only [unreset, Bool.false_eq_true, if_false]
  split
  · exact delivers_writePending _ _ _ _
  · exact delivers_settleIdle _ _

theorem delivers_handleKey {key : Key} {record? : Option Hot.Record}
    (unreset : ∀ record, record? = some record → record.isReset = false) (boundary : Bucket) :
    Delivers TellsUnreset (handleKey key record? boundary) fun result => result.2.Unreset := by
  refine Delivers.bind (delivers_ask _) fun cancelled _ => ?_
  split
  · exact Delivers.pure nofun
  · cases record? with
    | none => exact Delivers.bind (delivers_settleMissing key) fun _ told => .pure told
    | some record =>
      exact Delivers.bind (delivers_flushRecord (unreset record rfl) boundary)
        fun _ told => .pure told

/-! ## Batches -/

theorem counterResets_count {outcome : Outcome} (unreset : outcome.Unreset) (r : Report) :
    (r.count outcome).counterResets = r.counterResets := by
  cases outcome with
  | rebased => exact absurd rfl unreset
  | _ => rfl

theorem counterResets_note {outcomes : List (Key × Outcome)}
    (unreset : ∀ result ∈ outcomes, result.2.Unreset) (p : Progress) :
    (outcomes.foldl (fun p (key, outcome) => p.note key outcome) p).report.counterResets =
      p.report.counterResets := by
  induction outcomes generalizing p with
  | nil => rfl
  | cons result outcomes ih =>
    obtain ⟨first, rest⟩ := List.forall_mem_cons.1 unreset
    exact (ih rest _).trans (counterResets_count first _)

variable {c : Settings} {boundary : Bucket}

theorem delivers_handleBatch {batch : List (Key × Option Hot.Record)}
    (unreset : ∀ key record, (key, some record) ∈ batch → record.isReset = false) (p : Progress) :
    Delivers TellsUnreset (handleBatch c boundary p batch) fun p' =>
      p'.report.counterResets = p.report.counterResets := by
  refine Delivers.bind (P := fun outcomes => ∀ result ∈ outcomes, result.2.Unreset)
    (Delivers.all fun task member => ?_) fun outcomes told => ?_
  · obtain ⟨⟨key, record?⟩, read, rfl⟩ := List.mem_map.1 member
    refine delivers_handleKey (fun record found => ?_) boundary
    exact unreset key record (found ▸ read)
  · refine Delivers.bind (Delivers.forM (fun _ => delivers_ask _) outcomes) fun _ _ => ?_
    exact Delivers.pure (counterResets_note told _)

theorem delivers_readBatch (batch : List Key) :
    Delivers TellsUnreset (readBatch batch) fun result? => ∀ records,
      result? = some (.ok records) →
        ∀ key record, (key, some record) ∈ batch.zip records → record.isReset = false := by
  refine Delivers.bind (delivers_ask _) fun cancelled _ => ?_
  split
  · exact Delivers.pure nofun
  · refine Delivers.abandonIf (Delivers.ask fun result told => ?_) nofun
    rintro records ⟨⟩ key record member
    exact told key record member

/-- The report tells no reset. -/
def Report.Unreset (r : Report) : Prop := r.counterResets = 0

theorem delivers_runBatches {batches : List (List Key)} {p : Progress}
    (unreset : p.report.Unreset) :
    Delivers TellsUnreset (runBatches c boundary batches p) fun result =>
      ∀ report, result.2 = .ok report → report.Unreset := by
  induction batches generalizing p with
  | nil =>
    refine Delivers.pure ?_
    rintro _ ⟨⟩
    exact unreset
  | cons batch rest ih =>
    refine Delivers.bind (delivers_readBatch batch) fun result? told => ?_
    rcases result? with _ | (e | records)
    · exact ih unreset
    · exact Delivers.pure nofun
    · refine Delivers.bind (delivers_handleBatch (told records rfl) p) fun p' same => ?_
      exact ih (same.trans unreset)

/-! ## Cycles -/

theorem delivers_pruneStreaks (streaks : Streaks) :
    Delivers TellsUnreset (pruneStreaks streaks) fun _ => True := by
  unfold pruneStreaks
  split
  · trivial
  · refine Delivers.bind (delivers_ask _) fun result _ => ?_
    cases result <;> trivial

theorem delivers_cycle (streaks : Streaks) :
    Delivers TellsUnreset (cycle c streaks) fun result =>
      ∀ report, result.2 = .ok report → report.Unreset := by
  refine Delivers.bind (delivers_ask _) fun listed _ => ?_
  cases listed with
  | error e => exact Delivers.pure nofun
  | ok keys =>
    refine Delivers.bind (P := fun _ => True) ?_ fun boundary _ => ?_
    · exact Delivers.bind (delivers_ask _) fun _ _ => trivial
    · refine Delivers.bind (delivers_runBatches rfl) fun result told => ?_
      obtain ⟨streaks', result⟩ := result
      cases result with
      | error e => exact Delivers.pure told
      | ok report =>
        dsimp only
        split
        · exact Delivers.pure told
        · exact Delivers.bind (delivers_pruneStreaks _) fun _ _ => .pure told

/-- The last report of the statistics tells no reset. -/
def Stats.Unreset (stats : Stats) : Prop := ∀ report, stats.last = some report → report.Unreset

theorem Stats.Unreset.add {stats : Stats} {result : Except Error Report} (before : stats.Unreset)
    (unreset : ∀ report, result = .ok report → report.Unreset) : (stats.add result).Unreset := by
  cases result with
  | error e => exact before
  | ok report =>
    rintro _ ⟨⟩
    exact unreset report rfl

/-- A cycle that reads no record that was reset reports no reset. -/
theorem delivers_run {memory : Compactor} (before : memory.stats.Unreset) :
    Delivers TellsUnreset (memory.run c) fun result => result.1.stats.Unreset := by
  refine Delivers.bind (delivers_ask _) fun cancelled _ => ?_
  split
  · exact Delivers.pure before
  · refine Delivers.bind (delivers_cycle memory.streaks) fun result told => ?_
    obtain ⟨streaks, result⟩ := result
    refine Delivers.bind (delivers_ask _) fun _ _ => ?_
    refine Delivers.bind (delivers_ask _) fun _ _ => ?_
    have after : (memory.stats.add result).Unreset := before.add told
    split
    · exact Delivers.bind (delivers_ask _) fun _ _ => .pure after
    · exact Delivers.pure after

/-! ## Drains and rounds -/

theorem stats_forget (records : List Hot.Record) (memory : Compactor) :
    (records.foldl (fun memory r => memory.forget r.key) memory).stats = memory.stats := by
  induction records generalizing memory with
  | nil => rfl
  | cons r records ih => exact ih (memory.forget r.key)

theorem delivers_drainRecord (key : Key) (pending : Traffic) :
    Delivers TellsUnreset (drainRecord key pending) fun _ => True := by
  refine Delivers.bind (delivers_ask _) fun result _ => ?_
  cases result with
  | ok _ => trivial
  | error e =>
    dsimp only
    split
    · trivial
    · refine Delivers.bind (delivers_ask _) fun result _ => ?_
      cases result with
      | ok _ => trivial
      | error e => exact Delivers.bind (delivers_ask _) fun _ _ => trivial

/-- A drain adds no report. -/
theorem delivers_drain {memory : Compactor} (before : memory.stats.Unreset) (bucket : Bucket) :
    Delivers TellsUnreset (drain c memory bucket) fun result => result.1.stats.Unreset := by
  refine Delivers.bind (delivers_ask _) fun taken _ => ?_
  cases taken with
  | error e => exact Delivers.pure before
  | ok records =>
    refine Delivers.bind (P := fun _ => True) ?_ fun _ _ => Delivers.pure ?_
    · refine (Delivers.all (P := fun _ => True) fun task member => ?_).mono fun _ _ => trivial
      obtain ⟨r, -, rfl⟩ := List.mem_map.1 member
      exact delivers_drainRecord _ _
    · dsimp only
      rw [stats_forget]
      exact before

theorem delivers_drainEach {buckets : List Bucket} {memory : Flusher.Memory}
    (before : memory.2.stats.Unreset) :
    Delivers TellsUnreset (Flusher.drainEach c buckets memory)
      fun result => result.1.2.stats.Unreset := by
  induction buckets generalizing memory with
  | nil => exact Delivers.pure before
  | cons bucket rest ih =>
    refine Delivers.bind (delivers_ask _) fun cancelled _ => ?_
    split
    · exact Delivers.pure before
    · refine Delivers.bind (delivers_drain before bucket) fun result told => ?_
      obtain ⟨compactor, result⟩ := result
      cases result with
      | error e => exact Delivers.pure told
      | ok report => exact ih told

theorem delivers_trim {memory : Flusher.Memory} (before : memory.2.stats.Unreset) :
    Delivers TellsUnreset (Flusher.trim c memory) fun result => result.1.2.stats.Unreset := by
  refine Delivers.bind (P := fun _ => True) ?_ fun boundary _ => ?_
  · exact Delivers.bind (delivers_ask _) fun _ _ => trivial
  · refine Delivers.bind (delivers_ask _) fun listed _ => ?_
    cases listed with
    | error e => exact Delivers.pure before
    | ok buckets => exact delivers_drainEach before

/-- A round that reads no record that was reset reports no reset. -/
theorem delivers_runOnce {memory : Flusher.Memory} (before : memory.2.stats.Unreset) :
    Delivers TellsUnreset (Flusher.runOnce c memory) fun result => result.1.2.stats.Unreset := by
  refine Delivers.bind (delivers_run before) fun result told => ?_
  obtain ⟨compactor, result⟩ := result
  cases result with
  | error e => exact Delivers.pure told
  | ok report =>
    dsimp only
    split
    · exact Delivers.pure told
    · exact delivers_trim told

end Compaction

end Metering
