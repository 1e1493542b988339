import Metering.Proofs.Hot.ActiveIndex

/-!
# What a removal tells

A removal tells whether a record stood under its key. It is the one call that removes a record
without a look at the clock, so a record that has expired and that no call has dropped yet is told
like a live one. What a removal tells is therefore what a read would have told when expired records
were last dropped.

Results:
1. `lastSweep_lt_expiry`: what is stored was live when expired records were last dropped.
2. `forget_tells_last_sweep`: a removal tells every live record, and tells the same as a read unless
   an expired record is left over.
3. `forget_tells_leftover`: an expired record that is told.
-/

namespace Metering.Hot

instance : DecidablePred Act.Sweeps
  | .increment _ _ | .forget _ | .snapshot _ => .isFalse id
  | .commit _ _ _ | .settle _ _ | .seed _ _ | .take _ | .sweep => .isTrue trivial

/-- The instant at which a history last dropped what had expired. -/
def History.lastSweep : History → Option Instant
  | [] => none
  | (now, act) :: earlier => if act.Sweeps then some now else lastSweep earlier

theorem History.lastSweep_le {history : History} {now time : Instant}
    (clocked : history.Clocked now) (swept : history.lastSweep = some time) : time ≤ now := by
  induction history generalizing now with
  | nil => cases swept
  | cons step earlier ih =>
    obtain ⟨at', act⟩ := step
    rw [lastSweep] at swept
    split at swept
    · cases swept
      exact clocked.1
    · exact Int.le_trans (ih clocked.2 swept) clocked.1

namespace Store

variable {s : Store} {key : Key} {now time : Instant}

/-- A write at or after `time` lives past it. -/
theorem lt_addNanos {lifespan : Int} (lives : 0 < lifespan) (le : time ≤ now) :
    time < now.addNanos lifespan :=
  Int.lt_of_le_of_lt le (Int.lt_add_of_pos_right now.nanos lives)

/-- What is stored was live when expired records were last dropped. -/
theorem lastSweep_lt_expiry (hs : s.Scheduled) (lives : 0 < s.lifespan) {history : History}
    (clocked : history.Clocked now) (swept : history.lastSweep = some time) {entry : Entry}
    (h : (s.after history).records[key]? = some entry) : time < entry.expiry := by
  induction history generalizing now entry with
  | nil => cases swept
  | cons step earlier ih =>
    obtain ⟨at', act⟩ := step
    have span := lifespan_after hs earlier
    have before : time ≤ at' := by
      have clocked' : History.Clocked ((at', act) :: earlier) at' := ⟨Int.le_refl _, clocked.2⟩
      exact History.lastSweep_le clocked' swept
    have written : time < at'.addNanos (s.after earlier).lifespan :=
      lt_addNanos (span ▸ lives) before
    cases becomes_of_records (hs.after earlier) h with
    | kept _ _ _ found live =>
      rw [History.lastSweep] at swept
      split at swept
      · next sweeps =>
        cases swept
        exact live sweeps
      · exact ih clocked.2 swept found
    | grown _ => exact written
    | marked live => exact Int.lt_of_le_of_lt before (live?_eq_some.1 live).2
    | seeded => exact written

/-- A record is stored under `key` that has expired at `now`. -/
def Leftover (s : Store) (now : Instant) (key : Key) : Prop :=
  ∃ entry, s.records[key]? = some entry ∧ entry.expiry ≤ now

theorem isPresent_read : (s.read now key).isPresent = (s.live? now key).isSome := by
  unfold read
  cases s.live? now key <;> rfl

/-- A removal tells the same as a read unless it finds a leftover. -/
theorem forget_fst_eq_read_iff :
    (s.forget key).1 = (s.read now key).isPresent ↔ ¬ s.Leftover now key := by
  rw [isPresent_read, live?, forget, Leftover]
  cases s.records[key]? with
  | none => simp
  | some entry =>
    by_cases live : now < entry.expiry
    · simp [live, show ¬ entry.expiry ≤ now from Int.not_le.2 live]
    · simp [live, show entry.expiry ≤ now from Int.not_lt.1 live]

/-- A removal tells every live record, and the same as a read unless it finds a leftover. Where
records live, it tells what a read would have told when expired records were last dropped. -/
theorem forget_tells_last_sweep {lifespan : Int} {calls : List Call}
    (clocked : Call.Clocked calls now) (key : Key) :
    let s := (empty lifespan).afterCalls calls
    ((s.read now key).isPresent = true → (s.forget key).1 = true) ∧
      ((s.forget key).1 = (s.read now key).isPresent ↔ ¬ s.Leftover now key) ∧
      (0 < lifespan → ∀ time, (Call.history calls).lastSweep = some time →
        (s.forget key).1 = (s.read time key).isPresent) := by
  intro s
  refine ⟨fun present => ?_, forget_fst_eq_read_iff, fun lives time swept => ?_⟩
  · rw [isPresent_read, Option.isSome_iff_exists] at present
    obtain ⟨entry, live⟩ := present
    simp [forget, (live?_eq_some.1 live).1]
  · rw [forget_fst_eq_read_iff]
    rintro ⟨entry, found, due⟩
    have found : ((empty lifespan).after (Call.history calls)).records[key]? = some entry := by
      rw [after_history]
      exact found
    have later := lastSweep_lt_expiry (scheduled_empty lifespan) lives clocked.history swept found
    exact Int.not_lt.2 due later

/-- Expired records were last dropped while the record was live, and then it expired. -/
theorem forget_tells_earlier_read :
    let key : Key := ⟨⟨default, 474804⟩, 1, .node, 1⟩
    let calls : List Call := [.expire ⟨5⟩, .request ⟨1⟩ (.increment key (.ofNats 10 10))]
    let s := (empty 10).afterCalls calls
    Call.Clocked calls ⟨20⟩ ∧ (Call.history calls).lastSweep = some ⟨5⟩ ∧
      (s.forget key).1 = (s.read ⟨5⟩ key).isPresent ∧ (s.read ⟨5⟩ key).isPresent = true ∧
      (s.read ⟨20⟩ key).isPresent = false := by
  intro key calls s
  have clocked : Call.Clocked calls ⟨20⟩ := by
    refine ⟨?_, ?_, trivial⟩ <;> decide
  refine ⟨clocked, by decide +kernel, ?_, by decide +kernel, by decide +kernel⟩
  exact (forget_tells_last_sweep clocked key).2.2 (by decide) ⟨5⟩ (by decide +kernel)

/-- A record that expired after three hours is not read any more, and its removal tells it. -/
theorem forget_tells_leftover :
    let key : Key := ⟨⟨default, 474804⟩, 1, .node, 1⟩
    let start : Instant := ⟨1709266200000000000⟩
    let later : Instant := ⟨1709277000000000000⟩
    let calls : List Call := [.request later (.read key),
      .request start (.increment key (.ofNats 10 10))]
    let s := (empty 10800000000000).afterCalls calls
    Call.Clocked calls later ∧ (s.read later key).isPresent = false ∧
      (s.forget key).1 = true := by
  intro key start later calls s
  refine ⟨?_, by decide +kernel, by decide +kernel⟩
  refine ⟨?_, ?_, trivial⟩ <;> decide

end Store

end Metering.Hot
