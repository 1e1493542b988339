import Metering.Proofs.Compaction.Course
import Metering.Proofs.Compaction.Protocol
import Metering.Proofs.Program.Inversion

/-!
# What the log tells of a key

The trace of a key is what a cycle has read of it and the calls that it has made about it. Its
verdict is the outcome that these stand for: a key about which no call was made was skipped, a write
and then a commit that are both taken flush it, and a call that fails at the end fails it.

The work on a key makes calls about that key only, so its outcome is the verdict of its trace,
however the keys of a batch take turns and whatever the calls meet.

Results:
1. `flushes_transfers`, `flushes_calls`: the flushes of a key are told by its own calls.
2. `judged_handleKey`: the outcome of the work on a key is the verdict of its trace.
-/

namespace Metering.Compaction

open Program Procedure

/-! ## Flushes -/

/-- The flush that ends with an occurrence: a commit that is taken, right after a write for the key
that was. -/
def flushOf (o : Occurrence) (older : List Occurrence) : Option (Key × Traffic) :=
  match o with
  | .commit key _ (.ok _) =>
    match (transfers older key).head? with
    | some (.write _ traffic (.ok _)) => some (key, traffic)
    | _ => none
  | _ => none

/-- The flushes of a log: their keys, and what was written. -/
def flushes : List Occurrence → List (Key × Traffic)
  | [] => []
  | o :: older => (flushOf o older).toList ++ flushes older

/-- The flushes that an outcome tells of its key. -/
def Outcome.flushes (key : Key) : Outcome → List (Key × Traffic)
  | .flushed traffic _ => [(key, traffic)]
  | _ => []

section Flushes

variable {key : Key} {log : List Occurrence}

theorem transfers_transfers : transfers (transfers log key) key = transfers log key := by
  unfold transfers
  rw [List.filter_filter]
  simp only [Bool.and_self]

theorem flushOf_eq_some {o : Occurrence} {flush : Key × Traffic} (h : flushOf o log = some flush) :
    o.isTransfer flush.1 = true := by
  unfold flushOf at h
  split at h
  · split at h
    · cases h
      exact decide_eq_true rfl
    · cases h
  · cases h

theorem flushOf_transfers {o : Occurrence} (own : o.isTransfer key = true) :
    flushOf o (transfers log key) = flushOf o log := by
  unfold flushOf
  split
  · obtain rfl := of_decide_eq_true own
    rw [transfers_transfers]
  · rfl

/-- The flushes of a key are told by its own transfers. -/
theorem flushes_transfers (key : Key) (log : List Occurrence) :
    flushes (transfers log key) = (flushes log).filter (·.1 = key) := by
  induction log with
  | nil => rfl
  | cons o older ih =>
    rw [flushes, List.filter_append, ← ih]
    by_cases own : o.isTransfer key = true
    · have told : transfers (o :: older) key = o :: transfers older key :=
        List.filter_cons_of_pos own
      rw [told, flushes, flushOf_transfers own]
      refine congrArg (· ++ _) (List.filter_eq_self.2 fun flush told => ?_).symm
      exact decide_eq_true (Occurrence.isTransfer_unique own
        (flushOf_eq_some (Option.mem_toList.1 told)))
    · have told : transfers (o :: older) key = transfers older key :=
        List.filter_cons_of_neg own
      rw [told, List.filter_eq_nil_iff.2]
      · rfl
      · intro flush told same
        have transfer := flushOf_eq_some (Option.mem_toList.1 told)
        rw [of_decide_eq_true same] at transfer
        exact own transfer

end Flushes

/-! ## Traces -/

/-- What an outcome says was flushed is what was pending in the record that was read. -/
def Outcome.Moves (reading : Option (Option Hot.Record)) : Outcome → Prop
  | .flushed traffic _ => ∃ record, reading = some (some record) ∧ traffic = record.pending
  | _ => True

namespace Occurrence

/-- The call is about a key. -/
def isCall (key : Key) : Occurrence → Bool
  | .write row _ _ => row = .ofKey key
  | .commit key' _ _ | .settling key' _ _ | .restoring key' _ _ | .forgetting key' _ => key' = key
  | _ => false

/-- What was read of a key. -/
def reading? (key : Key) : Occurrence → Option (Option Hot.Record)
  | .observation records => records.lookup key
  | _ => none

end Occurrence

/-- What a log tells of one key. -/
structure Trace where
  /-- What was read of the key first, if it was read. -/
  reading : Option (Option Hot.Record) := none
  /-- The calls about the key, the newest first. -/
  calls : List Occurrence := []

namespace Trace

/-- The trace after an occurrence. -/
def extend (trace : Trace) (key : Key) (o : Occurrence) : Trace where
  reading := trace.reading.or (o.reading? key)
  calls := if o.isCall key then o :: trace.calls else trace.calls

/-- The trace of a key in a log. -/
def ofLog (key : Key) : List Occurrence → Trace
  | [] => {}
  | o :: older => (ofLog key older).extend key o

/-- The outcome that the calls of a key stand for. -/
def verdict (trace : Trace) : Outcome :=
  match trace.calls with
  | [] => .cancelled
  | [.settling _ purge (.ok settled)] =>
    match trace.reading with
    | some (some _) => if settled then (if purge then .purged else .settled) else .busy
    | _ => .missing
  | [.commit _ _ (.ok _)] => .rebased
  | [.commit _ _ (.ok commit), .write _ traffic (.ok _)] => .flushed traffic commit
  | [.settling _ _ _, .commit _ _ (.ok commit), .write _ traffic (.ok _)] =>
    .flushed traffic commit
  | [.forgetting _ (.ok _), .write _ _ (.error _)] => .resourceGone
  | _ => .failed

/-- No call was made before the key was read, what was flushed is what was pending then, and the
calls tell of no other flush. -/
structure Ordered (key : Key) (trace : Trace) : Prop where
  read : trace.calls = [] ∨ trace.reading.isSome = true
  delta : trace.verdict.Moves trace.reading
  flushed : flushes (transfers trace.calls key) = trace.verdict.flushes key

variable {trace : Trace} {key : Key} {o : Occurrence}

theorem verdict_of_calls (none : trace.calls = []) : trace.verdict = .cancelled := by
  unfold verdict
  rw [none]

theorem ordered_of_calls (none : trace.calls = []) : trace.Ordered key where
  read := .inl none
  delta := by
    rw [verdict_of_calls none]
    trivial
  flushed := by
    rw [verdict_of_calls none, none]
    rfl

theorem calls_of_verdict (cancelled : trace.verdict = .cancelled) : trace.calls = [] := by
  unfold verdict at cancelled
  split at cancelled
  · assumption
  · split at cancelled
    · split at cancelled
      · split at cancelled <;> cases cancelled
      · cases cancelled
    · cases cancelled
  all_goals cases cancelled

theorem extend_of_aside (reading : o.reading? key = none) (call : o.isCall key = false) :
    trace.extend key o = trace := by
  unfold extend
  rw [reading, call, Option.or_none]
  rfl

theorem extend_of_call (reading : o.reading? key = none) (call : o.isCall key = true) :
    trace.extend key o = ⟨trace.reading, o :: trace.calls⟩ := by
  unfold extend
  rw [reading, call, Option.or_none]
  rfl

/-- To read a key once more does not change its verdict. -/
theorem Ordered.reread (ordered : trace.Ordered key) (reading : Option (Option Hot.Record)) :
    Ordered key ⟨trace.reading.or reading, trace.calls⟩ ∧
      verdict ⟨trace.reading.or reading, trace.calls⟩ = trace.verdict := by
  rcases ordered.read with none | read
  · refine ⟨ordered_of_calls none, ?_⟩
    rw [verdict_of_calls none]
    exact verdict_of_calls none
  · obtain ⟨record?, read⟩ := Option.isSome_iff_exists.1 read
    have same : trace.reading.or reading = trace.reading := by
      rw [read]
      rfl
    rw [same]
    exact ⟨ordered, rfl⟩

/-- All transfers of a key are calls about it. -/
theorem transfers_calls (key : Key) (log : List Occurrence) :
    transfers (ofLog key log).calls key = transfers log key := by
  induction log with
  | nil => rfl
  | cons o older ih =>
    by_cases own : o.isTransfer key = true
    · have call : o.isCall key = true := by cases o <;> first | exact own | cases own
      have calls : (ofLog key (o :: older)).calls = o :: (ofLog key older).calls := if_pos call
      rw [calls]
      unfold transfers at ih ⊢
      rw [List.filter_cons_of_pos own, List.filter_cons_of_pos own, ih]
    · have skipped : transfers (ofLog key (o :: older)).calls key =
          transfers (ofLog key older).calls key := by
        show transfers (if o.isCall key then o :: (ofLog key older).calls else _) key = _
        split
        · exact List.filter_cons_of_neg own
        · rfl
      rw [skipped, ih]
      exact (List.filter_cons_of_neg own).symm

/-- The flushes of a key are told by the calls about it. -/
theorem flushes_calls (key : Key) (log : List Occurrence) :
    flushes (transfers (ofLog key log).calls key) = (flushes log).filter (·.1 = key) := by
  rw [transfers_calls, flushes_transfers]

end Trace

/-! ## Answers -/

/-- Every answer is one that the stage gives, after some incidents or none, unless the call fails. -/
def Course.Lawful (answer : {β : Type} → Request β → Course → β × Course) : Prop :=
  ∀ {β : Type} (request : Request β) (s : Course), ∃ fate : Fate,
    (answer request s).1 = (Course.answer request ⟨s.stage, [fate]⟩).1 ∧
      (answer request s).2.stage = (Course.answer request ⟨s.stage, [fate]⟩).2.stage

theorem Course.lawful_answer : Course.Lawful Course.answer :=
  fun _ s => ⟨s.fate, rfl, rfl⟩

/-- The traces of all keys. -/
def Course.traces (s : Course) (key : Key) : Trace := .ofLog key s.stage.log

theorem ofLog_meet (key : Key) (s : Stage) (incidents : List Incident) :
    Trace.ofLog key (incidents.foldl Stage.meet s).log = .ofLog key s.log := by
  induction incidents generalizing s with
  | nil => rfl
  | cons incident rest ih =>
    refine (ih (s.meet incident)).trans ?_
    cases incident with
    | arrival | arrivals | seeding => exact Trace.extend_of_aside rfl rfl
    | removal | passing | cancellation => rfl

section Answers

variable {answer : {β : Type} → Request β → Course → β × Course} (lawful : Course.Lawful answer)
  {β : Type} {request : Request β} {key : Key} {trace : Trace} {inv : Course → Prop}
include lawful

theorem traces_answer (request : Request β) (s : Course) (key : Key) :
    (answer request s).2.traces key =
      (s.traces key).extend key (occurrence request (answer request s).1) := by
  obtain ⟨fate, answered, stage⟩ := lawful request s
  unfold Course.traces
  rw [stage, answered, ← ofLog_meet key s.stage fate.incidents]
  rfl

/-- The request is no call about a key and reads none, however it is answered. -/
def IsAside (request : Request β) : Prop :=
  ∀ b key, (occurrence request b).reading? key = none ∧ (occurrence request b).isCall key = false

theorem traces_aside (aside : IsAside request) (s : Course) :
    (answer request s).2.traces = s.traces := by
  funext key
  obtain ⟨reading, call⟩ := aside (answer request s).1 key
  rw [traces_answer lawful, Trace.extend_of_aside reading call]

theorem onCell_aside (aside : IsAside request) :
    OnCell answer (fun _ => True) Course.traces key (ask request) trace
      fun _ trace' => trace' = trace := by
  refine OnCell.ask fun s _ same => ?_
  rw [traces_aside lawful aside]
  exact ⟨⟨trivial, fun _ _ => rfl⟩, same⟩

/-- The request is a call about a key, and so about no other. -/
def IsCallOf (key : Key) (request : Request β) : Prop :=
  ∀ b key', (occurrence request b).reading? key' = none ∧
    (occurrence request b).isCall key' = decide (key = key')

theorem onCell_call (call : IsCallOf key request) :
    OnCell answer (fun _ => True) Course.traces key (ask request) trace
      fun b trace' => trace' = ⟨trace.reading, occurrence request b :: trace.calls⟩ := by
  refine OnCell.ask fun s _ same => ⟨⟨trivial, fun key' ne => ?_⟩, ?_⟩
  · obtain ⟨reading, called⟩ := call (answer request s).1 key'
    rw [traces_answer lawful, Trace.extend_of_aside reading]
    rw [called]
    exact decide_eq_false (Ne.symm ne)
  · obtain ⟨reading, called⟩ := call (answer request s).1 key
    rw [traces_answer lawful, Trace.extend_of_call reading, same]
    rw [called]
    exact decide_eq_true rfl

theorem onCells_aside {v : Key → Trace} (aside : IsAside request) :
    OnCells answer (fun _ => True) Course.traces (ask request) v fun _ v' => v' = v := by
  refine OnCells.ask fun s _ same => ?_
  rw [traces_aside lawful aside]
  exact ⟨trivial, same⟩

end Answers

/-! ## One key -/

theorem isCallOf_settle (key : Key) (purge : Bool) : IsCallOf key (.hot (.settle key purge)) :=
  fun _ _ => ⟨rfl, rfl⟩

theorem isCallOf_commit (key : Key) (expected markers : Traffic) :
    IsCallOf key (.hot (.commit key expected markers)) :=
  fun _ _ => ⟨rfl, rfl⟩

theorem isCallOf_forget (key : Key) : IsCallOf key (.hot (.forget key)) :=
  fun _ _ => ⟨rfl, rfl⟩

theorem isCallOf_write (key : Key) (traffic : Traffic) :
    IsCallOf key (.cold (.accumulate (.ofKey key) key.bucket traffic)) := by
  refine fun _ key' => ⟨rfl, decide_eq_decide.2 ⟨fun same => ?_, fun same => same ▸ rfl⟩⟩
  exact Cold.RowKey.ofKey_injective same

theorem isAside_isCancelled : IsAside .isCancelled := fun _ _ => ⟨rfl, rfl⟩

theorem isAside_record (event : Event) : IsAside (.record event) := fun _ _ => ⟨rfl, rfl⟩

theorem isAside_now : IsAside .now := fun _ _ => ⟨rfl, rfl⟩

theorem isAside_activeKeys (limit : Nat) : IsAside (.hot (.activeKeys limit)) := fun b _ => by
  cases b <;> exact ⟨rfl, rfl⟩

section Handle

variable {answer : {β : Type} → Request β → Course → β × Course} (lawful : Course.Lawful answer)
  {key : Key} {boundary : Bucket} {trace : Trace}

/-- What is known of a key once the work on it has come to an outcome: what was read of it stays as
it was, the calls about it stand for the outcome, and they flushed what was pending then, if anything. -/
structure Ends (key : Key) (before : Trace) (outcome : Outcome) (after : Trace) : Prop where
  reading : after.reading = before.reading
  judged : after.verdict = outcome
  delta : outcome.Moves before.reading
  flushed : flushes (transfers after.calls key) = outcome.flushes key

theorem Ends.ordered {record? : Option Hot.Record} {calls : List Occurrence} {outcome : Outcome}
    (h : Ends key ⟨some record?, calls⟩ outcome trace) : trace.Ordered key where
  read := .inr (h.reading ▸ rfl)
  delta := by
    rw [h.judged, h.reading]
    exact h.delta
  flushed := h.judged ▸ h.flushed

theorem flushes_commit (key : Key) (markers : Traffic) (result : Except Error Hot.Commit) :
    flushes (transfers [.commit key markers result] key) = [] := by
  cases result <;> simp [flushes, flushOf, transfers, Occurrence.isTransfer]

theorem flushes_write (key : Key) (row : Cold.RowKey) (traffic : Traffic)
    (result : Except Error Unit) : flushes (transfers [.write row traffic result] key) = [] := by
  unfold transfers
  rw [List.filter_singleton]
  cases Occurrence.isTransfer key (.write row traffic result) <;> rfl

theorem flushes_write_commit (key : Key) (traffic markers : Traffic)
    (result : Except Error Hot.Commit) :
    flushes (transfers [.commit key markers result, .write (.ofKey key) traffic (.ok ())] key) =
      match result with
      | .ok _ => [(key, traffic)]
      | .error _ => [] := by
  cases result <;> simp [flushes, flushOf, transfers, Occurrence.isTransfer]

/-- The task makes calls about the key only, and they stand for its outcome. -/
def Judged (answer : {β : Type} → Request β → Course → β × Course) (key : Key)
    (task : Procedure Outcome) (trace : Trace) : Prop :=
  OnCell answer (fun _ => True) Course.traces key task trace (Ends key trace)

include lawful

theorem judged_settleMissing : Judged answer key (settleMissing key) ⟨some none, []⟩ := by
  refine (onCell_call lawful (isCallOf_settle key false)).bind ?_
  rintro result _ rfl
  cases result <;> exact .pure ⟨rfl, rfl, trivial, rfl⟩

theorem judged_settleIdle (record : Hot.Record) :
    Judged answer key (settleIdle key boundary) ⟨some (some record), []⟩ := by
  refine (onCell_call lawful (isCallOf_settle key _)).bind ?_
  rintro result _ rfl
  rcases result with _ | _ | _
  · exact .pure ⟨rfl, rfl, trivial, rfl⟩
  · exact .pure ⟨rfl, rfl, trivial, rfl⟩
  · dsimp only
    split
    · next old => exact .pure ⟨rfl, if_pos old, trivial, rfl⟩
    · next recent => exact .pure ⟨rfl, if_neg recent, trivial, rfl⟩

theorem judged_rebase (observed : Traffic) (reading : Option (Option Hot.Record)) :
    Judged answer key (rebase key observed) ⟨reading, []⟩ := by
  refine (onCell_call lawful (isCallOf_commit key observed observed)).bind ?_
  rintro result _ rfl
  cases result <;> exact .pure ⟨rfl, rfl, trivial, flushes_commit ..⟩

theorem judged_purgeGone (reading : Option (Option Hot.Record)) (row : Cold.RowKey)
    (pending : Traffic) (e : Error) :
    OnCell answer (fun _ => True) Course.traces key (purgeGone key)
      ⟨reading, [.write row pending (.error e)]⟩ (Ends key ⟨reading, []⟩) := by
  refine (onCell_call lawful (isCallOf_forget key)).bind ?_
  rintro result _ rfl
  cases result <;> exact .pure ⟨rfl, rfl, trivial, flushes_write key row pending _⟩

theorem judged_commitFlushed (record : Hot.Record) (observed : Traffic) :
    OnCell answer (fun _ => True) Course.traces key
      (commitFlushed key observed record.pending boundary)
      ⟨some (some record), [.write (.ofKey key) record.pending (.ok ())]⟩
      (Ends key ⟨some (some record), []⟩) := by
  refine (onCell_call lawful (isCallOf_commit key observed observed)).bind ?_
  rintro result _ rfl
  have flushed := flushes_write_commit key record.pending observed result
  cases result with
  | error e => exact .pure ⟨rfl, rfl, trivial, flushed⟩
  | ok commit =>
    dsimp only
    split
    · -- what the deletion is answered does not matter
      refine (onCell_call lawful (isCallOf_settle key true)).bind ?_
      rintro result _ rfl
      cases result <;> exact .pure ⟨rfl, rfl, ⟨record, rfl, rfl⟩, flushed⟩
    · exact .pure ⟨rfl, rfl, ⟨record, rfl, rfl⟩, flushed⟩

theorem judged_writePending (record : Hot.Record) (observed : Traffic) :
    Judged answer key (writePending key observed record.pending boundary)
      ⟨some (some record), []⟩ := by
  refine (onCell_call lawful (isCallOf_write key record.pending)).bind ?_
  rintro result _ rfl
  cases result with
  | ok _ => exact judged_commitFlushed lawful record observed
  | error e =>
    dsimp only
    split
    · exact judged_purgeGone lawful _ _ record.pending e
    · exact .pure ⟨rfl, rfl, trivial, flushes_write key _ record.pending _⟩

theorem judged_flushRecord {record : Hot.Record} (own : record.key = key) :
    Judged answer key (flushRecord record boundary) ⟨some (some record), []⟩ := by
  have moves : Judged answer key (movePending record boundary) ⟨some (some record), []⟩ := by
    unfold movePending
    rw [own]
    split
    · exact judged_writePending lawful record _
    · split
      · exact judged_rebase lawful _ _
      · exact judged_settleIdle lawful record
  rw [flushRecord_eq]
  split
  · refine (onCell_aside lawful (isAside_record _)).bind ?_
    rintro _ _ rfl
    exact moves
  · exact moves

/-- The work on a key tells the key, and the verdict of its trace. -/
theorem judged_handleKey {record? : Option Hot.Record}
    (own : ∀ record, record? = some record → record.key = key) :
    OnCell answer (fun _ => True) Course.traces key (handleKey key record? boundary)
      ⟨some record?, []⟩ fun result trace =>
        result.1 = key ∧ Ends key ⟨some record?, []⟩ result.2 trace := by
  refine (onCell_aside lawful isAside_isCancelled).bind ?_
  rintro isCancelled _ rfl
  split
  · exact .pure ⟨rfl, rfl, rfl, trivial, rfl⟩
  · cases record? with
    | none => exact (judged_settleMissing lawful).bind fun _ _ ended => .pure ⟨rfl, ended⟩
    | some record =>
      exact (judged_flushRecord lawful (own record rfl)).bind fun _ _ ended => .pure ⟨rfl, ended⟩

end Handle

end Metering.Compaction
