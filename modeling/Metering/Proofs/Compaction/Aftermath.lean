import Metering.Proofs.Compaction.Effect

/-!
# After a record was lost

A record can be removed, or expire, while a cycle is flushing it. What the cycle read is then
written all the same, and its commit marks whatever record stands under the key by then. A new
record that is marked so counts bytes as flushed that never were.

`Aftermath` counts what the log tells since the loss. `Survives` says how the aftermath, the row
and the new record belong together.

Results:
1. `Survives.arrive`: what is counted after the loss is pending, or is hidden by the markers.
2. `Survives.effect`: each effect of a request keeps this up.
-/

namespace Metering.Compaction

open Hot (Entry Record)

/-- What a log tells of a key since its record was lost, in bytes by direction. -/
structure Aftermath where
  /-- Counted for the key from outside. -/
  accepted : Way → Nat := fun _ => 0
  /-- Written from a record that was read before the loss. -/
  carried : Way → Nat := fun _ => 0
  /-- Written without the commit that should follow. -/
  resent : Way → Nat := fun _ => 0
  /-- Taken for flushed, and never written. -/
  hidden : Way → Nat := fun _ => 0
  /-- The markers that the commit of an older record left on the new one. -/
  debt : Option Traffic := none
  /-- A record was read since the loss. -/
  isFresh : Bool := false

namespace Aftermath

/-- Bytes of the markers of an older record. -/
def owed (a : Aftermath) (d : Way) : Nat := a.debt.elim 0 (·.bytes d)

/-- The aftermath after a commit in some phase. -/
def afterCommit (a : Aftermath) (φ : Phase) (markers : Traffic) :
    Except Error Hot.Commit → Aftermath
  | .ok .missing => a
  | .ok _ =>
    if a.isFresh then
      { a with hidden := fun d => a.hidden d + min (a.owed d) (markers.bytes d), debt := none }
    else { a with debt := some markers }
  | .error _ =>
    match φ with
    | .written record =>
      if a.isFresh then { a with resent := fun d => a.resent d + record.pending.bytes d } else a
    | _ => a

/-- The aftermath for `key` after an occurrence in some phase. -/
def after (key : Key) (φ : Phase) (a : Aftermath) : Occurrence → Aftermath
  | .arrival entries => { a with accepted := fun d => a.accepted d + counted key d entries }
  | .observation records =>
    match φ, records.lookup key with
    | .listed, some _ => { a with isFresh := true }
    | _, _ => a
  | .write row traffic (.ok _) =>
    if row = .ofKey key ∧ a.isFresh = false then
      { a with carried := fun d => a.carried d + traffic.bytes d }
    else a
  | .commit key' markers result => if key' = key then a.afterCommit φ markers result else a
  | .settling key' purge (.ok isSettled) =>
    if key' = key ∧ purge = true ∧ isSettled = true then
      { a with hidden := fun d => a.hidden d + a.owed d, debt := none }
    else a
  | _ => a

/-- The aftermath that a log tells from its occurrence number `start` on, the newest first. -/
def ofLog (key : Key) (start : Nat) : List Occurrence → Aftermath
  | [] => {}
  | o :: log =>
    if log.length < start then {} else (ofLog key start log).after key (.ofLog key log) o

/-- Bytes that a record hides: they count as flushed and were never written. -/
def masked (a : Aftermath) (live? : Option Entry) (d : Way) : Nat :=
  a.hidden d + min (a.owed d) (trafficOf d live?)

/-- Bytes in the cold tier that the new record still counts as pending. -/
def ahead (a : Aftermath) (φ : Phase) (d : Way) : Nat := if a.isFresh then φ.ahead d else 0

theorem after_of_apart {key : Key} {o : Occurrence} (apart : o.Apart key) (φ : Phase)
    (a : Aftermath) : a.after key φ o = a := by
  cases o with
  | observation records =>
    change records.lookup key = none at apart
    cases φ <;> simp [after, apart]
  | write row traffic result =>
    cases result with
    | ok _ => exact if_neg fun h => apart h.1
    | error e => rfl
  | commit key' markers result => exact if_neg apart
  | settling key' purge result =>
    cases result with
    | ok _ => exact if_neg fun h => apart h.1
    | error e => rfl
  | arrival => exact apart.elim
  | _ => rfl

end Aftermath

/-- Records are removed: a bucket is drained, or the resource of `key` is found gone. -/
def Occurrence.removes (key : Key) : Occurrence → Bool
  | .taking _ => true
  | .write row _ (.error e) => row = .ofKey key && e.isNotFound
  | _ => false

/-- The phase is one of a cycle in which no resource was found gone. -/
def Phase.Cycles : Phase → Prop
  | taken _ | refused _ | gone => False
  | _ => True

theorem Phase.IsPlain.cycles {φ : Phase} (plain : φ.IsPlain) : φ.Cycles := by
  cases plain <;> trivial

/-- Row and record agree with the aftermath of a loss, at which `base` was in the row. -/
structure Survives (base : Way → Nat) (φ : Phase) (live? : Option Entry) (row : Traffic)
    (a : Aftermath) : Prop where
  known : φ.Cycles
  /-- A record that was read before the loss meets a record without markers. -/
  stale : a.isFresh = false → ∀ record, φ.Holds record →
    a.debt = none ∧ ∀ d, flushedOf d live? = 0
  /-- A record that was read after the loss is still there. -/
  kept : a.isFresh = true → ∀ record, φ.Holds record → ∃ entry, live? = some entry ∧
    ∀ d, entry.flushed.bytes d = record.flushed.bytes d ∧
      record.traffic.bytes d ≤ entry.traffic.bytes d
  seen : a.isFresh = true → a.debt = none → ∀ record, φ.Holds record →
    ∀ d, record.flushed.bytes d ≤ record.traffic.bytes d
  indebted : ∀ markers, a.debt = some markers → ∃ entry, live? = some entry ∧
    ∀ d, entry.flushed.bytes d = markers.bytes d
  covered : a.debt = none → ∀ d, flushedOf d live? ≤ trafficOf d live?
  counter : ∀ d, trafficOf d live? ≤ a.accepted d
  balance : ∀ d, row.bytes d + pendingOf d live? + a.masked live? d =
    base d + a.carried d + a.accepted d + a.resent d + a.ahead φ d

namespace Survives

variable {base : Way → Nat} {φ : Phase} {live? : Option Entry} {row : Traffic}
  {a : Aftermath}

/-- No record is left, and nothing was told yet. -/
theorem lost (known : φ.Cycles) (same : ∀ d, base d = row.bytes d) :
    Survives base φ none row {} where
  known := known
  stale _ _ _ := ⟨rfl, fun _ => rfl⟩
  kept := by rintro ⟨⟩
  seen := by rintro ⟨⟩
  indebted := by rintro _ ⟨⟩
  covered _ _ := Nat.le_refl _
  counter _ := Nat.le_refl _
  balance d := by
    have same := same d
    simp [pendingOf, Aftermath.masked, Aftermath.owed, Aftermath.ahead, trafficOf, same]

/-- What is counted is flushed, pending or hidden. -/
theorem split (h : Survives base φ live? row a) (d : Way) :
    (a.debt = none → a.owed d = 0 ∧ pendingOf d live? + flushedOf d live? = trafficOf d live?) ∧
    (∀ markers, a.debt = some markers → flushedOf d live? = markers.bytes d ∧
      a.owed d = markers.bytes d) := by
  constructor
  · intro free
    have covered := h.covered free d
    refine ⟨by rw [Aftermath.owed, free]; rfl, ?_⟩
    rw [pendingOf_eq]
    omega
  · intro markers debt
    obtain ⟨entry, rfl, same⟩ := h.indebted markers debt
    exact ⟨same d, by rw [Aftermath.owed, debt]; rfl⟩

/-! ## Steps -/

theorem arrive (h : Survives base φ live? row a) {traffic : Traffic} {entry : Entry}
    (grows : Grows live? traffic entry)
    (room : ∀ d, a.accepted d + traffic.bytes d ≤ Count.top) :
    Survives base φ (some entry) row
      { a with accepted := fun d => a.accepted d + traffic.bytes d } := by
  have exact_traffic : ∀ d, entry.traffic.bytes d = trafficOf d live? + traffic.bytes d := by
    intro d
    have counter := h.counter d
    have room := room d
    rw [grows.traffic, Nat.min_eq_left (by omega)]
  refine ⟨h.known, ?_, ?_, h.seen, ?_, ?_, ?_, ?_⟩
  · intro old record holds
    obtain ⟨free, unmarked⟩ := h.stale old record holds
    exact ⟨free, fun d => (grows.flushed d).trans (unmarked d)⟩
  · intro fresh record holds
    obtain ⟨old, rfl, within⟩ := h.kept fresh record holds
    refine ⟨entry, rfl, fun d => ?_⟩
    obtain ⟨flushed, le⟩ := within d
    refine ⟨(grows.flushed d).trans flushed, ?_⟩
    rw [exact_traffic]
    exact Nat.le_trans le (Nat.le_add_right ..)
  · intro markers debt
    exact ⟨entry, rfl, fun d => (grows.flushed d).trans ((h.split d).2 markers debt).1⟩
  · intro free d
    have covered := h.covered free d
    change entry.flushed.bytes d ≤ entry.traffic.bytes d
    rw [grows.flushed, exact_traffic]
    omega
  · intro d
    have counter := h.counter d
    change entry.traffic.bytes d ≤ a.accepted d + traffic.bytes d
    rw [exact_traffic]
    omega
  · intro d
    have balance := h.balance d
    have pending := pendingOf_eq d (some entry)
    have before := pendingOf_eq d live?
    change _ = entry.traffic.bytes d - entry.flushed.bytes d at pending
    rw [grows.flushed, exact_traffic] at pending
    change _ + (a.hidden d + min (a.owed d) (entry.traffic.bytes d)) =
      _ + a.carried d + (a.accepted d + traffic.bytes d) + a.resent d + a.ahead φ d
    rw [Aftermath.masked] at balance
    rw [exact_traffic]
    cases debt : a.debt with
    | none =>
      obtain ⟨owed, -⟩ := (h.split d).1 debt
      have covered := h.covered debt d
      omega
    | some markers =>
      -- the counter moves on below the old markers, or past them
      obtain ⟨flushed, owed⟩ := (h.split d).2 markers debt
      omega

/-- While no record is held, it matters only what the row and the new record count. -/
theorem of_plain {ψ : Phase} (plain : ψ.IsPlain)
    (indebted : ∀ markers, a.debt = some markers → ∃ entry, live? = some entry ∧
      ∀ d, entry.flushed.bytes d = markers.bytes d)
    (covered : a.debt = none → ∀ d, flushedOf d live? ≤ trafficOf d live?)
    (counter : ∀ d, trafficOf d live? ≤ a.accepted d)
    (balance : ∀ d, row.bytes d + pendingOf d live? + a.masked live? d =
      base d + a.carried d + a.accepted d + a.resent d) : Survives base ψ live? row a := by
  refine ⟨plain.cycles, ?_, ?_, ?_, indebted, covered, counter, fun d => ?_⟩
  · exact fun _ record holds => (plain.not_holds record holds).elim
  · exact fun _ record holds => (plain.not_holds record holds).elim
  · exact fun _ _ record holds => (plain.not_holds record holds).elim
  · have none : a.ahead ψ d = 0 := by
      rw [Aftermath.ahead, plain.ahead_eq]
      exact ite_self 0
    rw [none]
    exact balance d

/-- Work that holds no record can begin, go on or come to its end. -/
theorem relax (h : Survives base φ live? row a) (still : ∀ d, a.ahead φ d = 0) {ψ : Phase}
    (plain : ψ.IsPlain) : Survives base ψ live? row a := by
  refine .of_plain plain h.indebted h.covered h.counter fun d => ?_
  rw [h.balance d, still d]
  rfl

/-- A record is read. -/
theorem observe (h : Survives base .listed live? row a) (key : Key) :
    Survives base (.observed (live?.map (·.toRecord key))) live? row
      { a with isFresh := true } := by
  have own : ∀ record, Phase.Holds (.observed (live?.map (·.toRecord key))) record →
      ∃ entry, live? = some entry ∧ record = entry.toRecord key := by
    rintro record (read | read)
    · obtain ⟨entry, found, rfl⟩ := Option.map_eq_some_iff.1 (Phase.observed.inj read)
      exact ⟨entry, found, rfl⟩
    · cases read
  refine ⟨trivial, (by rintro ⟨⟩), ?_, ?_, h.indebted, h.covered, h.counter, fun d => ?_⟩
  · intro _ record holds
    obtain ⟨entry, rfl, rfl⟩ := own record holds
    exact ⟨entry, rfl, fun d => ⟨rfl, Nat.le_refl _⟩⟩
  · intro _ free record holds d
    obtain ⟨entry, rfl, rfl⟩ := own record holds
    exact h.covered free d
  · have balance := h.balance d
    have none : a.ahead .listed d = 0 := ite_self 0
    rw [none] at balance
    exact balance

/-- What a record that was read before the loss holds is written. -/
theorem writeStale {record : Record} (h : Survives base (.observed (some record)) live? row a)
    (old : a.isFresh = false)
    (room : ∀ d, base d + (a.carried d + record.pending.bytes d) + a.accepted d + a.resent d ≤
      Count.top) :
    Survives base (.written record) live? (row + record.pending)
      { a with carried := fun d => a.carried d + record.pending.bytes d } := by
  refine ⟨trivial, ?_, ?_, ?_, h.indebted, h.covered, h.counter, fun d => ?_⟩
  · exact fun _ other _ => h.stale old record (.inl rfl)
  · exact fun fresh => nomatch old.symm.trans fresh
  · exact fun fresh => nomatch old.symm.trans fresh
  · have balance := h.balance d
    have room := room d
    simp only [Aftermath.ahead, old, Aftermath.masked] at balance
    have fits : row.bytes d + record.pending.bytes d ≤ Count.top := by
      simp only [Bool.false_eq_true, if_false] at balance
      omega
    rw [Traffic.bytes_add_of_lt d fits]
    simp only [Aftermath.ahead, old, Aftermath.masked, Aftermath.owed, Bool.false_eq_true,
      if_false] at balance ⊢
    omega

/-- The pending part of a record that was read after the loss is written. -/
theorem writeFresh {record : Record} (h : Survives base (.observed (some record)) live? row a)
    (fresh : a.isFresh = true)
    (room : ∀ d, base d + a.carried d + a.accepted d + a.resent d ≤ Count.top) :
    Survives base (.written record) live? (row + record.pending) a := by
  obtain ⟨entry, rfl, within⟩ := h.kept fresh record (.inl rfl)
  have own : ∀ {other}, Phase.Holds (.written record) other → other = record := by
    rintro other (⟨⟨⟩⟩ | ⟨⟨⟩⟩)
    rfl
  refine ⟨trivial, ?_, ?_, ?_, h.indebted, h.covered, h.counter, fun d => ?_⟩
  · exact fun old => nomatch old.symm.trans fresh
  · intro _ other holds
    exact own holds ▸ ⟨entry, rfl, within⟩
  · intro _ free other holds
    exact own holds ▸ h.seen fresh free record (.inl rfl)
  · have balance := h.balance d
    have room := room d
    obtain ⟨flushed, le⟩ := within d
    have pending := entry.bytes_pending d
    have written := record.bytes_pending d
    change _ + entry.pending.bytes d + _ = _ at balance
    change _ + entry.pending.bytes d + _ = _
    have none : a.ahead (.observed (some record)) d = 0 := ite_self 0
    have ahead : a.ahead (.written record) d = record.pending.bytes d := if_pos fresh
    rw [none] at balance
    rw [ahead, Traffic.bytes_add_of_lt d (by omega)]
    omega

/-- The commit of a record that was read before the loss marks the new one. -/
theorem commitStale {record : Record} {entry : Entry} (h : Survives base φ (some entry) row a)
    (holds : φ.Holds record) (old : a.isFresh = false) :
    Survives base .rest (some (entry.mark record.traffic)) row
      { a with debt := some record.traffic } := by
  obtain ⟨free, unmarked⟩ := h.stale old record holds
  refine .of_plain .rest ?_ (by rintro ⟨⟩) h.counter fun d => ?_
  · rintro _ ⟨⟩
    exact ⟨_, rfl, fun d => rfl⟩
  · -- what has been counted by now is masked, up to the markers of the old record
    have balance := h.balance d
    have unmarked : entry.flushed.bytes d = 0 := unmarked d
    have pending := entry.bytes_pending d
    have after := (entry.mark record.traffic).bytes_pending d
    rw [Entry.traffic_mark, Entry.flushed_mark] at after
    have owed := ((h.split d).1 free).1
    have none : a.ahead φ d = 0 := by rw [Aftermath.ahead, old]; rfl
    rw [Aftermath.masked, owed, none] at balance
    change _ + entry.pending.bytes d + _ = _ at balance
    change _ + (entry.mark record.traffic).pending.bytes d +
      (a.hidden d + min (record.traffic.bytes d) (entry.traffic.bytes d)) =
      _ + a.carried d + a.accepted d + a.resent d
    omega

/-- The commit of a record that was read after the loss marks what was written, and covers up what
the older markers hid. -/
theorem commitFresh {record : Record} (h : Survives base φ live? row a)
    (commits : φ.Commits record) (fresh : a.isFresh = true) :
    ∃ entry, live? = some entry ∧ Survives base .rest (some (entry.mark record.traffic)) row
      { a with
        hidden := fun d => a.hidden d + min (a.owed d) (record.traffic.bytes d)
        debt := none } := by
  have holds : φ.Holds record := commits.symm.imp And.left id
  obtain ⟨entry, rfl, within⟩ := h.kept fresh record holds
  refine ⟨entry, rfl, .of_plain .rest (by rintro _ ⟨⟩) ?_ h.counter fun d => ?_⟩
  · exact fun _ d => (within d).2
  · have balance := h.balance d
    obtain ⟨flushed, le⟩ := within d
    have pending := entry.bytes_pending d
    have after := (entry.mark record.traffic).bytes_pending d
    rw [Entry.traffic_mark, Entry.flushed_mark] at after
    have ahead : a.ahead φ d = record.traffic.bytes d - record.flushed.bytes d := by
      rw [Aftermath.ahead, if_pos fresh, ← record.bytes_pending]
      obtain rfl | ⟨rfl, idle, -⟩ := commits
      · rfl
      · rw [idle]
        exact (Traffic.bytes_zero d).symm
    rw [Aftermath.masked, ahead] at balance
    change _ + entry.pending.bytes d + (_ + min _ (entry.traffic.bytes d)) = _ at balance
    change _ + (entry.mark record.traffic).pending.bytes d +
      (a.hidden d + min (a.owed d) (record.traffic.bytes d) + min 0 (entry.traffic.bytes d)) =
      _ + a.carried d + a.accepted d + a.resent d
    cases debt : a.debt with
    | none =>
      -- nothing is masked, and the markers move from `flushed` to `traffic` of what was read
      obtain ⟨owed, -⟩ := (h.split d).1 debt
      have seen := h.seen fresh debt record holds d
      omega
    | some markers =>
      obtain ⟨marked, owed⟩ := (h.split d).2 markers debt
      change entry.flushed.bytes d = _ at marked
      omega

/-- The commit of what was written fails, so it is pending still. -/
theorem miss {record : Record} (h : Survives base (.written record) live? row a)
    (fresh : a.isFresh = true) :
    Survives base .rest live? row
      { a with resent := fun d => a.resent d + record.pending.bytes d } := by
  refine .of_plain .rest h.indebted h.covered h.counter fun d => ?_
  have balance := h.balance d
  have ahead : a.ahead (.written record) d = record.pending.bytes d := if_pos fresh
  rw [ahead] at balance
  change _ + _ + a.masked live? d =
    _ + a.carried d + a.accepted d + (a.resent d + record.pending.bytes d)
  omega

/-- A settled record is removed, and what it hid stays hidden. -/
theorem purge (h : Survives base .rest live? row a)
    (settled : live?.all (·.isSettled) = true) :
    Survives base .rest none row
      { a with hidden := fun d => a.hidden d + a.owed d, debt := none } := by
  refine .of_plain .rest (by rintro _ ⟨⟩) (fun _ _ => Nat.le_refl _) (fun _ => Nat.zero_le _)
    fun d => ?_
  have balance := h.balance d
  have idle := pendingOf_of_settled settled d
  have eq := trafficOf_of_settled settled d
  -- the record is settled, so its counter has come up to the old markers
  have whole : min (a.owed d) (trafficOf d live?) = a.owed d := by
    cases debt : a.debt with
    | none => rw [((h.split d).1 debt).1, Nat.zero_min]
    | some markers =>
      obtain ⟨flushed, owed⟩ := (h.split d).2 markers debt
      omega
  have still : a.ahead .rest d = 0 := ite_self 0
  rw [Aftermath.masked, whole, idle, still] at balance
  change _ + 0 + (a.hidden d + a.owed d + min 0 _) = _ + a.carried d + a.accepted d + a.resent d
  rw [Nat.zero_min]
  exact balance

theorem not_ahead_of_stale (old : a.isFresh = false) (ψ : Phase) (d : Way) :
    a.ahead ψ d = 0 := by
  rw [Aftermath.ahead, old]
  rfl

/-! ## Effects -/

theorem commit {record : Record} (h : Survives base φ live? row a)
    (commits : φ.Commits record) :
    Survives base .rest (live?.map (·.mark record.traffic)) row
      (a.afterCommit φ record.traffic (.ok (commitOf live? record.traffic))) := by
  have holds : φ.Holds record := commits.symm.imp And.left id
  have landed : ∀ entry, live? = some entry →
      a.afterCommit φ record.traffic (.ok (commitOf live? record.traffic)) =
        if a.isFresh then
          { a with
            hidden := fun d => a.hidden d + min (a.owed d) (record.traffic.bytes d)
            debt := none }
        else { a with debt := some record.traffic } := by
    rintro entry rfl
    unfold commitOf
    dsimp only
    split <;> rfl
  cases fresh : a.isFresh with
  | true =>
    obtain ⟨entry, rfl, committed⟩ := h.commitFresh commits fresh
    rw [landed entry rfl, if_pos fresh]
    exact committed
  | false =>
    cases live? with
    | none => exact h.relax (not_ahead_of_stale fresh φ) .rest
    | some entry =>
      rw [landed entry rfl, if_neg (by simp [fresh])]
      exact h.commitStale holds fresh

theorem commitFails {record : Record} (h : Survives base φ live? row a)
    (commits : φ.Commits record) (e : Error) :
    Survives base .rest live? row (a.afterCommit φ record.traffic (.error e)) := by
  obtain rfl | ⟨rfl, -⟩ := commits
  · by_cases fresh : a.isFresh = true
    · simp only [Aftermath.afterCommit, if_pos fresh]
      exact h.miss fresh
    · simp only [Aftermath.afterCommit, if_neg fresh]
      exact h.relax (not_ahead_of_stale (Bool.not_eq_true _ ▸ fresh) _) .rest
  · exact h.relax (fun d => ite_self 0) .rest

theorem settle {purge : Bool} (h : Survives base φ live? row a) (settles : φ.Settles) (key : Key) :
    Survives base .rest
      (if purge = true ∧ live?.all (·.isSettled) = true then none else live?) row
      (a.after key φ (.settling key purge (.ok (live?.all (·.isSettled))))) := by
  have rest : Survives base .rest live? row a := by
    obtain rfl | ⟨record?, rfl, -⟩ := settles <;> exact h.relax (fun d => ite_self 0) .rest
  by_cases purged : purge = true ∧ live?.all (·.isSettled) = true
  · rw [if_pos purged, Aftermath.after, if_pos ⟨rfl, purged⟩]
    exact rest.purge purged.2
  · rw [if_neg purged, Aftermath.after, if_neg fun h => purged h.2]
    exact rest

/-- The aftermath goes on with every effect, as long as nothing else is removed and no sum leaves
the range of a counter. -/
theorem effect (h : Survives base φ live? row a) {key : Key} {fails : Error → Prop}
    {lost : Entry → Prop} {o : Occurrence} {live?' : Option Entry} {row' : Traffic}
    (effect : Effect key fails lost φ live? row o live?' row') (stays : o.removes key = false)
    (room : ∀ d, base d + (a.after key φ o).carried d + (a.after key φ o).accepted d +
      (a.after key φ o).resent d ≤ Count.top) :
    Survives base (φ.after key o) live?' row' (a.after key φ o) := by
  cases effect with
  | apart apart => rw [Phase.after_of_apart apart, Aftermath.after_of_apart apart]; exact h
  | list keys =>
    refine h.relax (fun d => ite_self 0) ?_
    unfold Phase.after
    dsimp only
    split
    · exact .listed
    · exact .rest
  | glance records unlisted =>
    cases φ with
    | listed => exact (unlisted rfl).elim
    | _ => exact h
  | read records told =>
    have phase : Phase.after key .listed (.observation records) =
        .observed (live?.map (·.toRecord key)) := by
      simp [Phase.after, told]
    have aftermath : a.after key .listed (.observation records) = { a with isFresh := true } := by
      simp [Aftermath.after, told]
    rw [phase, aftermath]
    exact h.observe key
  | write traffic writes =>
    obtain ⟨record, rfl, rfl, pending⟩ | rfl := writes
    · rw [Phase.after, if_pos rfl]
      rw [Aftermath.after] at room ⊢
      by_cases old : a.isFresh = false
      · rw [if_pos ⟨rfl, old⟩] at room ⊢
        exact h.writeStale old room
      · rw [if_neg fun both => old both.2] at room ⊢
        exact h.writeFresh (Bool.not_eq_false _ ▸ old) room
    · exact h.known.elim
  | writeFails traffic e writes failure =>
    have found : e.isNotFound = false := by simpa [Occurrence.removes] using stays
    rw [Phase.after, if_pos rfl]
    obtain ⟨record, rfl, rfl, pending⟩ | rfl := writes
    · simp only [Phase.afterWrite, found]
      exact h.relax (fun d => ite_self 0) .rest
    · exact h.known.elim
  | commit record commits =>
    rw [Phase.after, if_pos rfl, Aftermath.after, if_pos rfl]
    exact h.commit commits
  | commitFails record e commits failure =>
    rw [Phase.after, if_pos rfl, Aftermath.after, if_pos rfl]
    exact h.commitFails commits e
  | settle purge settles =>
    rw [settles.after_settling]
    exact h.settle settles key
  | settleFails purge e settles failure =>
    rw [settles.after_settling]
    obtain rfl | ⟨record?, rfl, -⟩ := settles <;> exact h.relax (fun d => ite_self 0) .rest
  | take records told => cases stays
  | leave records untold => cases stays
  | restore => exact h.known.elim
  | restoreFails => exact h.known.elim
  | forget => exact h.known.elim

end Survives

end Metering.Compaction
