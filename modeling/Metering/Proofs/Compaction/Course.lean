import Metering.Proofs.Compaction.Stage
import Metering.Proofs.Program.Cells

/-!
# Calls and their fates

Anything may happen at the stores before a call, and the call may fail without reaching them. That
is the fate of the call. A course is a stage with the fates of the calls to come, in the order in
which they will be made, so the fates are any disturbance of the work, wherever it strikes.

Of all that the log tells, the transfers of a key are the calls that move its traffic: writes to its
row, commits of its markers, and restoring increments. Incidents are none of them, and a task that
makes transfers of one key only does not disturb the others.

Results: `Course.transfers_answer`; `Course.onCell_transfer`, `Course.onCell_quiet`, calls in the task of a
key.
-/

namespace Metering.Compaction

open Program

/-- What a call meets: incidents before it, and perhaps a failure of the store that it calls. -/
structure Fate where
  incidents : List Incident := []
  failure? : Option Error := none

/-- A stage, with the fates of the calls to come; the calls after these are spared. -/
structure Course where
  stage : Stage
  fates : List Fate := []

/-- The call moves traffic of a key. -/
def Occurrence.isTransfer (key : Key) : Occurrence → Bool
  | .write row _ _ => row = .ofKey key
  | .commit key' _ _ | .restoring key' _ _ => key' = key
  | _ => false

/-- The calls of a log that move traffic of a key. -/
def transfers (log : List Occurrence) (key : Key) : List Occurrence :=
  log.filter (·.isTransfer key)

theorem Occurrence.isTransfer_unique {o : Occurrence} {key key' : Key}
    (h : o.isTransfer key = true) (h' : o.isTransfer key' = true) : key' = key := by
  cases o with
  | write row traffic result =>
    exact Cold.RowKey.ofKey_injective ((of_decide_eq_true h').symm.trans (of_decide_eq_true h))
  | commit own markers result =>
    exact (of_decide_eq_true h').symm.trans (of_decide_eq_true h)
  | restoring own traffic result =>
    exact (of_decide_eq_true h').symm.trans (of_decide_eq_true h)
  | _ => cases h

namespace Course

/-- The fate of the next call. -/
def fate (s : Course) : Fate := s.fates.headD {}

/-- The stage at which the next call is made. -/
def ahead (s : Course) : Stage := s.fate.incidents.foldl Stage.meet s.stage

/-- The answer to a call, which has its fate. -/
def answer {β : Type} (request : Request β) (s : Course) : β × Course :=
  let (b, stage) := s.ahead.answer s.fate.failure? request
  (b, ⟨stage, s.fates.tail⟩)

/-- The transfers of a key so far, the newest first. -/
def transfers (s : Course) (key : Key) : List Occurrence := Compaction.transfers s.stage.log key

theorem transfers_meet (s : Stage) (incident : Incident) (key : Key) :
    Compaction.transfers (s.meet incident).log key = Compaction.transfers s.log key := by
  cases incident <;> rfl

theorem transfers_ahead (s : Course) (key : Key) :
    Compaction.transfers s.ahead.log key = s.transfers key := by
  unfold ahead transfers
  induction s.fate.incidents generalizing s with
  | nil => rfl
  | cons incident rest ih => exact (ih ⟨s.stage.meet incident, []⟩).trans (transfers_meet ..)

/-- A call is a transfer of a key, or leaves its transfers alone. -/
theorem transfers_answer {β : Type} (request : Request β) (s : Course) (key : Key) :
    (answer request s).2.transfers key =
      Compaction.transfers [occurrence request (answer request s).1] key ++ s.transfers key := by
  rw [← transfers_ahead s]
  exact List.filter_append [occurrence request (answer request s).1] s.ahead.log

/-! ## Tasks of one key -/

section Tasks

variable {inv : Course → Prop} {key : Key} {log : List Occurrence} {β : Type} {request : Request β}

/-- A call that is a transfer of the key, and so of no other key. -/
theorem onCell_transfer (keeps : ∀ s, inv s → inv (answer request s).2)
    (own : ∀ b, (occurrence request b).isTransfer key = true) :
    OnCell answer inv transfers key (ask request) log fun b log' =>
      log' = occurrence request b :: log := by
  refine OnCell.ask fun s kept same => ⟨⟨keeps s kept, fun key' ne => ?_⟩, ?_⟩
  · have apart : ¬ (occurrence request (answer request s).1).isTransfer key' = true :=
      fun transfer => ne (Occurrence.isTransfer_unique (own _) transfer)
    rw [transfers_answer, Compaction.transfers, List.filter_cons_of_neg apart]
    rfl
  · rw [transfers_answer, Compaction.transfers, List.filter_cons_of_pos (own _), same]
    rfl

/-- The call is no transfer, however it is answered. -/
def IsQuiet (request : Request β) : Prop :=
  ∀ b key, (occurrence request b).isTransfer key = false

theorem transfers_quiet (quiet : IsQuiet request) (s : Course) :
    (answer request s).2.transfers = s.transfers := by
  funext key
  have apart : ¬ (occurrence request (answer request s).1).isTransfer key = true :=
    Bool.eq_false_iff.1 (quiet _ key)
  rw [transfers_answer, Compaction.transfers, List.filter_cons_of_neg apart]
  rfl

theorem onCell_quiet (keeps : ∀ s, inv s → inv (answer request s).2) (quiet : IsQuiet request) :
    OnCell answer inv transfers key (ask request) log fun _ log' => log' = log := by
  refine OnCell.ask fun s kept same => ?_
  rw [transfers_quiet quiet]
  exact ⟨⟨keeps s kept, fun _ _ => rfl⟩, same⟩

end Tasks

theorem isTransfer_write (key : Key) (traffic : Traffic) (result : Except Error Unit) :
    (occurrence (.cold (.accumulate (.ofKey key) key.bucket traffic)) result).isTransfer key = true :=
  decide_eq_true rfl

theorem isTransfer_increment (key : Key) (traffic : Traffic) (result : Except Error Unit) :
    (occurrence (.hot (.increment key traffic)) result).isTransfer key = true :=
  decide_eq_true rfl

theorem quiet_record (event : Event) : IsQuiet (.record event) := fun _ _ => rfl

/-! ## Answers -/

/-- A snapshot tells a record of its own for each key, if the call does not fail. -/
theorem snapshot_sound (keys : List Key) (s : Course) {records : List (Option Hot.Record)}
    (told : (answer (.hot (.snapshot keys)) s).1 = .ok records) :
    ∃ find : Key → Option Hot.Record, records = keys.map find ∧
      ∀ key record, find key = some record → record.key = key := by
  unfold answer Stage.answer at told
  cases failing : s.fate.failure? with
  | some e => cases failing ▸ told
  | none =>
    rw [failing] at told
    cases told
    refine ⟨fun key => (s.ahead.world.hot.live? s.ahead.world.now key).map (·.toRecord key), rfl, ?_⟩
    intro key record found
    obtain ⟨entry, -, rfl⟩ := Option.map_eq_some_iff.1 found
    rfl

/-- The active keys are told once each, if the call does not fail. -/
theorem activeKeys_sound (limit : Nat) (s : Course) {keys : List Key}
    (told : (answer (.hot (.activeKeys limit)) s).1 = .ok keys) : keys.Nodup := by
  unfold answer Stage.answer at told
  cases failing : s.fate.failure? with
  | some e => cases failing ▸ told
  | none =>
    rw [failing] at told
    cases told
    exact Hot.Store.activeKeys_nodup ..

end Course

end Metering.Compaction
