import Metering.Proofs.Compaction.Phase

/-!
# Cycles and drains keep the protocol

The work on one key is a small program among many that run side by side, and each of the others is
silent: none of its requests concerns the key. So the protocol of a key is shown procedure by
procedure, from the last calls of the work on a record to whole cycles and drains.

Results:
1. `silent_handleKey`, `silent_drainRecord`: the work on a key does not concern any other key.
2. `ensures_handleKey`, `ensures_drainRecord`: the work on a key keeps its protocol.
3. `ensures_run`, `ensures_drain`: cycles and drains keep the protocol of every key, and in calm
   they are done with it at their end.
4. `silent_run`: a cycle makes requests of a few kinds only.
-/

namespace Metering.Compaction

open Monitor PhaseLemmas Procedure

variable {key : Key} {calm : Prop} {terms : Terms}

/-! ## Other keys -/

/-- What the work on a key asks for does not concern a monitor; before `boundary` that includes the
deletion of its record. -/
structure Ignores {μ : Type} (m : Monitor Request μ) (key : Key) (boundary : Bucket) : Prop where
  settle : m.Neutral (.hot (.settle key false))
  purge : key.bucket < boundary → m.Neutral (.hot (.settle key true))
  commit : ∀ expected markers, m.Neutral (.hot (.commit key expected markers))
  forget : m.Neutral (.hot (.forget key))
  write : ∀ traffic, m.Neutral (.cold (.accumulate (.ofKey key) key.bucket traffic))
  isCancelled : m.Neutral .isCancelled
  record : ∀ event, m.Neutral (.record event)

/-- The protocol of a key is not concerned with any other key. -/
theorem ignores_of_ne {key' : Key} (ne : key' ≠ key) (boundary : Bucket) :
    Ignores (monitor key terms) key' boundary where
  settle := neutral_settle ne false
  purge _ := neutral_settle ne true
  commit := neutral_commit ne
  forget := neutral_forget ne
  write := neutral_write ne
  isCancelled := neutral_isCancelled
  record := neutral_record

section Silent

variable {μ : Type} {m : Monitor Request μ} {boundary : Bucket} (h : Ignores m key boundary)
include h

theorem silent_settleMissing : m.Silent (settleMissing key) := by
  refine Silent.bind (.ask h.settle) fun result => ?_
  cases result <;> trivial

theorem silent_settleIdle : m.Silent (settleIdle key boundary) := by
  have settle : m.Neutral (.hot (.settle key (decide (key.bucket < boundary)))) := by
    by_cases old : key.bucket < boundary
    · rw [decide_eq_true old]
      exact h.purge old
    · rw [decide_eq_false old]
      exact h.settle
  refine Silent.bind (.ask settle) fun result => ?_
  split <;> trivial

theorem silent_rebase (observed : Traffic) : m.Silent (rebase key observed) := by
  refine Silent.bind (.ask (h.commit _ _)) fun result => ?_
  cases result <;> trivial

theorem silent_purgeGone : m.Silent (purgeGone key) := by
  refine Silent.bind (.ask h.forget) fun result => ?_
  cases result <;> trivial

theorem silent_commitFlushed (observed pending : Traffic) :
    m.Silent (commitFlushed key observed pending boundary) := by
  refine Silent.bind (.ask (h.commit _ _)) fun result => ?_
  cases result with
  | error e => trivial
  | ok commit =>
    dsimp only
    split
    · next old => exact Silent.bind (.ask (h.purge old.2)) fun _ => trivial
    · trivial

theorem silent_writePending (observed pending : Traffic) :
    m.Silent (writePending key observed pending boundary) := by
  refine Silent.bind (.ask (h.write pending)) fun result => ?_
  cases result with
  | ok _ => exact silent_commitFlushed h observed pending
  | error e =>
    dsimp only
    split
    · exact silent_purgeGone h
    · trivial

end Silent

/-- The end of the work on a record: what is pending is written, or a reset counter is marked anew,
or an idle key is settled. -/
def movePending (record : Hot.Record) (boundary : Bucket) : Procedure Outcome :=
  if !record.pending.isZero then writePending record.key record.traffic record.pending boundary
  else if record.isReset then rebase record.key record.traffic
  else settleIdle record.key boundary

theorem flushRecord_eq (record : Hot.Record) (boundary : Bucket) :
    flushRecord record boundary =
      if record.isReset then do
        Procedure.record (.counterReset record.key.type.tag)
        movePending record boundary
      else movePending record boundary := rfl

section Silent

variable {μ : Type} {m : Monitor Request μ} {boundary : Bucket}

theorem silent_movePending {record : Hot.Record} (h : Ignores m record.key boundary) :
    m.Silent (movePending record boundary) := by
  unfold movePending
  split
  · exact silent_writePending h _ _
  · split
    · exact silent_rebase h _
    · exact silent_settleIdle h

theorem silent_flushRecord {record : Hot.Record} (h : Ignores m record.key boundary) :
    m.Silent (flushRecord record boundary) := by
  rw [flushRecord_eq]
  split
  · exact Silent.bind (.ask (h.record _)) fun _ => silent_movePending h
  · exact silent_movePending h

theorem silent_handleKey (h : Ignores m key boundary) {record? : Option Hot.Record}
    (flush : ∀ record, record? = some record → Ignores m record.key boundary) :
    m.Silent (handleKey key record? boundary) := by
  refine Silent.bind (.ask h.isCancelled) fun isCancelled => ?_
  split
  · trivial
  · cases record? with
    | none => exact Silent.bind (silent_settleMissing h) fun _ => trivial
    | some record => exact Silent.bind (silent_flushRecord (flush record rfl)) fun _ => trivial

theorem silent_drainRecord (h : Ignores m key boundary) (pending : Traffic)
    (restore : m.Neutral (.hot (.increment key pending))) : m.Silent (drainRecord key pending) := by
  refine Silent.bind (.ask (h.write pending)) fun result => ?_
  cases result with
  | ok _ => trivial
  | error e =>
    dsimp only
    split
    · trivial
    · refine Silent.bind (.ask restore) fun result => ?_
      cases result with
      | ok _ => trivial
      | error e => exact Silent.bind (.ask (h.record _)) fun _ => trivial

end Silent

/-! ## One key -/

/-- The work on a key has come to its end, or never began; in calm the key is done with. -/
def Ended (calm : Prop) (φ : Phase) : Prop := ¬ φ.Owes ∧ (calm → φ = .rest)

theorem ended_rest : Ended calm .rest := ⟨id, fun _ => rfl⟩

theorem ensures_settleMissing :
    (monitor key terms).Ensures (.observed none) (settleMissing key) fun _ φ => φ = .rest := by
  refine Ensures.bind (P := fun _ φ => φ = .rest) (.ask ?_ ?_) ?_
  · refine fun _ => .inr ⟨none, rfl, ?_⟩
    rintro _ ⟨⟩
  · exact fun _ _ => if_pos rfl
  · rintro result _ rfl
    cases result <;> exact .pure rfl

theorem ensures_settleIdle {record : Hot.Record} (idle : record.pending = 0)
    (notReset : record.isReset = false) (boundary : Bucket) :
    (monitor key terms).Ensures (.observed (some record)) (settleIdle key boundary)
      fun _ φ => φ = .rest := by
  refine Ensures.bind (P := fun _ φ => φ = .rest) (.ask ?_ ?_) ?_
  · refine fun _ => .inr ⟨some record, rfl, ?_⟩
    rintro _ ⟨⟩
    exact ⟨idle, notReset⟩
  · exact fun _ _ => if_pos rfl
  · rintro result _ rfl
    split <;> exact .pure rfl

theorem ensures_rebase {record : Hot.Record} (idle : record.pending = 0)
    (reset : record.isReset = true) :
    (monitor key terms).Ensures (.observed (some record)) (rebase key record.traffic)
      fun _ φ => φ = .rest := by
  refine Ensures.bind (P := fun _ φ => φ = .rest) (.ask ?_ ?_) ?_
  · exact fun _ => ⟨record, .inr ⟨rfl, idle, reset⟩, rfl, rfl⟩
  · exact fun _ _ => if_pos rfl
  · rintro result _ rfl
    cases result <;> exact .pure rfl

theorem ensures_purgeGone :
    (monitor key terms).Ensures .gone (purgeGone key) fun _ φ => φ = .rest := by
  refine Ensures.bind (P := fun _ φ => φ = .rest) (.ask ?_ ?_) ?_
  · exact fun _ => rfl
  · exact fun _ _ => if_pos rfl
  · rintro result _ rfl
    cases result <;> exact .pure rfl

theorem ensures_commitFlushed (record : Hot.Record) (pending : Traffic) (boundary : Bucket) :
    (monitor key terms).Ensures (.written record)
      (commitFlushed key record.traffic pending boundary) fun _ φ => φ = .rest := by
  refine Ensures.bind (P := fun _ φ => φ = .rest) (.ask ?_ ?_) ?_
  · exact fun _ => ⟨record, .inl rfl, rfl, rfl⟩
  · exact fun _ _ => if_pos rfl
  · rintro result _ rfl
    cases result with
    | error e => exact .pure rfl
    | ok commit =>
      dsimp only
      split
      · refine Ensures.bind (P := fun _ φ => φ = .rest) (.ask ?_ ?_) ?_
        · exact fun _ => .inl rfl
        · exact fun _ _ => rfl
        · rintro _ _ rfl
          exact .pure rfl
      · exact .pure rfl

theorem ensures_writePending {record : Hot.Record} (pending : record.pending ≠ 0)
    (boundary : Bucket) :
    (monitor key terms).Ensures (.observed (some record))
      (writePending key record.traffic record.pending boundary) fun _ φ => φ = .rest := by
  refine Ensures.bind (P := fun result φ => φ = Phase.afterWrite (.observed (some record)) result)
    (.ask ?_ ?_) ?_
  · exact fun _ => .inl ⟨record, rfl, rfl, pending⟩
  · exact fun _ _ => if_pos rfl
  · rintro result _ rfl
    cases result with
    | ok _ => exact ensures_commitFlushed record record.pending boundary
    | error e =>
      dsimp only [Phase.afterWrite]
      split
      · exact ensures_purgeGone
      · exact .pure rfl

theorem ensures_movePending {record : Hot.Record} (own : record.key = key) (boundary : Bucket) :
    (monitor key terms).Ensures (.observed (some record)) (movePending record boundary)
      fun _ φ => φ = .rest := by
  unfold movePending
  rw [own]
  split
  · next pending =>
    refine ensures_writePending (fun zero => ?_) boundary
    rw [Traffic.isZero_iff.2 zero] at pending
    cases pending
  · next idle =>
    have idle : record.pending = 0 := by simpa [Traffic.isZero_iff] using idle
    split
    · next reset => exact ensures_rebase idle reset
    · next notReset => exact ensures_settleIdle idle (Bool.not_eq_true _ ▸ notReset) boundary

theorem ensures_flushRecord {record : Hot.Record} (own : record.key = key) (boundary : Bucket) :
    (monitor key terms).Ensures (.observed (some record)) (flushRecord record boundary)
      fun _ φ => φ = .rest := by
  rw [flushRecord_eq]
  split
  · refine Ensures.bind (P := fun _ φ => φ = .observed (some record)) ?_ ?_
    · exact .silent (.ask (neutral_record _)) fun _ => rfl
    · rintro _ _ rfl
      exact ensures_movePending own boundary
  · exact ensures_movePending own boundary

theorem ensures_handleKey {record? : Option Hot.Record}
    (own : ∀ record, record? = some record → record.key = key) (boundary : Bucket) :
    (monitor key terms).Ensures (.observed record?) (handleKey key record? boundary)
      fun _ => Ended terms.calm := by
  refine Ensures.bind
    (P := fun isCancelled φ => φ = .observed record? ∧ (terms.calm → isCancelled = false))
    (.ask trivial fun _ sound => ⟨rfl, sound⟩) ?_
  rintro isCancelled _ ⟨rfl, calmly⟩
  split
  · next h =>
    refine .pure ⟨id, fun calm => ?_⟩
    exact (Bool.false_ne_true ((calmly calm).symm.trans h)).elim
  · cases record? with
    | none =>
      refine Ensures.bind ensures_settleMissing ?_
      rintro _ _ rfl
      exact .pure ended_rest
    | some record =>
      refine Ensures.bind (ensures_flushRecord (own record rfl) boundary) ?_
      rintro _ _ rfl
      exact .pure ended_rest

theorem ensures_drainRecord (drains : terms.drains) (pending : Traffic) :
    (monitor key terms).Ensures (.taken pending) (drainRecord key pending)
      fun _ φ => φ = .rest := by
  refine Ensures.bind (P := fun result φ => φ = Phase.afterWrite (.taken pending) result)
    (.ask ?_ ?_) ?_
  · exact fun _ => .inr rfl
  · exact fun _ _ => if_pos rfl
  · rintro result _ rfl
    cases result with
    | ok _ => exact .pure rfl
    | error e =>
      dsimp only [Phase.afterWrite]
      split
      · exact .pure rfl
      · refine Ensures.bind (P := fun _ φ => φ = .rest) (.ask ?_ ?_) ?_
        · exact ⟨drains, fun _ => rfl⟩
        · exact fun _ _ => if_pos rfl
        · rintro result _ rfl
          cases result with
          | ok _ => exact .pure rfl
          | error e =>
            refine Ensures.bind (P := fun _ φ => φ = .rest) ?_ ?_
            · exact .silent (.ask (neutral_record _)) fun _ => rfl
            · rintro _ _ rfl
              exact .pure rfl

/-! ## Batches -/

/-- A batch as it was read: each key once, each record under its own key. -/
structure BatchRead (batch : List (Key × Option Hot.Record)) : Prop where
  nodup : (batch.map Prod.fst).Nodup
  own : ∀ entry ∈ batch, ∀ record, entry.2 = some record → record.key = entry.1

/-- Two places of a list hold different keys. -/
theorem ne_of_nodup {α : Type} {f : α → Key} {as : List α} (nodup : (as.map f).Nodup) {i j : Nat}
    (hi : i < as.length) (hj : j < as.length) (ne : j ≠ i) : f as[j] ≠ f as[i] := by
  intro eq
  refine ne ((List.getElem?_inj (by simpa using hj) nodup).1 ?_)
  simp [hi, hj, eq]

/-- The end of a batch: the outcomes are reported and counted. -/
theorem ensures_countOutcomes {φ : Phase} {P : Phase → Prop} (h : P φ)
    (outcomes : List (Key × Outcome)) (p : Progress) :
    (monitor key terms).Ensures φ (do
      outcomes.forM fun (_, outcome) => Procedure.record (.compactedKey outcome.label)
      return outcomes.foldl (fun p (key, outcome) => p.note key outcome) p) fun _ => P := by
  refine Ensures.bind (P := fun _ φ => P φ) ?_ fun _ _ h => .pure h
  exact .silent (Silent.forM (fun _ => .ask (neutral_record _)) outcomes) fun _ => h

theorem ensures_handleBatch_other {φ : Phase} {c : Settings} {boundary : Bucket} {p : Progress}
    {batch : List (Key × Option Hot.Record)} (read : BatchRead batch)
    (absent : key ∉ batch.map Prod.fst) :
    (monitor key terms).Ensures φ (handleBatch c boundary p batch) fun _ φ' => φ' = φ := by
  refine Ensures.bind (P := fun _ φ' => φ' = φ) (.all_silent ?_ fun _ => rfl) ?_
  · intro task made
    obtain ⟨entry, member, rfl⟩ := List.mem_map.1 made
    have ne : entry.1 ≠ key := fun eq => absent (eq ▸ List.mem_map_of_mem member)
    refine silent_handleKey (ignores_of_ne ne boundary) fun record found => ?_
    exact ignores_of_ne (read.own entry member record found ▸ ne) boundary
  · rintro outcomes _ rfl
    exact ensures_countOutcomes (P := (· = _)) rfl outcomes _

theorem ensures_handleBatch {record? : Option Hot.Record} {c : Settings} {boundary : Bucket}
    {p : Progress} {batch : List (Key × Option Hot.Record)} (read : BatchRead batch)
    (member : (key, record?) ∈ batch) :
    (monitor key terms).Ensures (.observed record?) (handleBatch c boundary p batch)
      fun _ => Ended terms.calm := by
  obtain ⟨i, lt, at_i⟩ := List.getElem_of_mem member
  refine Ensures.bind (P := fun _ => Ended terms.calm) (.all_one i (by simpa using lt) ?_ ?_) ?_
  · intro j hj ne
    rw [List.length_map] at hj
    rw [List.getElem_map]
    have ne : batch[j].1 ≠ key := by
      have ne := ne_of_nodup read.nodup lt hj ne
      rwa [at_i] at ne
    refine silent_handleKey (ignores_of_ne ne boundary) fun record found => ?_
    exact ignores_of_ne (read.own _ (List.getElem_mem hj) record found ▸ ne) boundary
  · rw [List.getElem_map, at_i]
    refine (ensures_handleKey ?_ boundary).mono fun _ _ ended _ => ended
    exact read.own _ member
  · intro outcomes φ ended
    exact ensures_countOutcomes ended outcomes _

/-! ## Silent cycles -/

/-- What a cycle asks for does not concern a monitor, whatever the key is. -/
structure Overlooks {μ : Type} (m : Monitor Request μ) (boundary : Bucket) : Prop where
  ignores : ∀ key, Ignores m key boundary
  snapshot : ∀ keys, m.Neutral (.hot (.snapshot keys))

section Silent

variable {μ : Type} {m : Monitor Request μ} {boundary : Bucket}

theorem silent_readBatch (h : Overlooks m boundary) (batch : List Key) :
    m.Silent (readBatch batch) := by
  have isCancelled := (h.ignores default).isCancelled
  refine Silent.bind (.ask isCancelled) fun _ => ?_
  split
  · trivial
  · exact ⟨.ask isCancelled, .ask (h.snapshot batch), fun _ => trivial⟩

theorem silent_handleBatch (h : Overlooks m boundary) (c : Settings) (p : Progress)
    (batch : List (Key × Option Hot.Record)) : m.Silent (handleBatch c boundary p batch) := by
  have tasks : ∀ task ∈ batch.map fun entry => handleKey entry.1 entry.2 boundary,
      m.Silent task := by
    intro task made
    obtain ⟨entry, -, rfl⟩ := List.mem_map.1 made
    exact silent_handleKey (h.ignores _) fun _ _ => h.ignores _
  refine Silent.bind ⟨fun _ => tasks _ (List.getElem_mem _), fun _ => trivial⟩ fun outcomes => ?_
  refine Silent.bind (Silent.forM (fun _ => ?_) outcomes) fun _ => trivial
  exact .ask ((h.ignores default).record _)

theorem silent_runBatches (h : Overlooks m boundary) (c : Settings) (batches : List (List Key))
    (p : Progress) : m.Silent (runBatches c boundary batches p) := by
  induction batches generalizing p with
  | nil => trivial
  | cons batch rest ih =>
    refine Silent.bind (silent_readBatch h batch) fun result? => ?_
    rcases result? with _ | (e | records)
    · exact ih _
    · trivial
    · exact Silent.bind (silent_handleBatch h c p _) fun _ => ih _

theorem silent_pruneStreaks (snapshot : ∀ keys, m.Neutral (.hot (.snapshot keys)))
    (streaks : Streaks) : m.Silent (pruneStreaks streaks) := by
  unfold pruneStreaks
  split
  · trivial
  · refine Silent.bind (.ask (snapshot _)) fun result => ?_
    cases result <;> trivial

/-- What follows the list of the active keys and the reading of the clock. -/
theorem silent_batches (h : Overlooks m boundary) (c : Settings) (batches : List (List Key))
    (p : Progress) :
    m.Silent (do
      let (streaks, result) ← runBatches c boundary batches p
      match result with
      | .ok report =>
        if report.isCancelled then return (streaks, result)
        return (← pruneStreaks streaks, result)
      | .error _ => return (streaks, result)) := by
  refine Silent.bind (silent_runBatches h c batches p) ?_
  rintro ⟨streaks, result⟩
  cases result with
  | error e => trivial
  | ok report =>
    dsimp only
    split
    · trivial
    · exact Silent.bind (silent_pruneStreaks h.snapshot streaks) fun _ => trivial

/-- The end of a run. -/
theorem silent_conclude (record : ∀ event, m.Neutral (.record event)) (c : Settings)
    (memory : Compactor) (streaks : Streaks) (result : Except Error Report) :
    m.Silent (do
      Procedure.record (.compactionCycle 0 (result matches .ok _))
      Procedure.record (.failingKeys (streaks.failing c.config.failureWarnThreshold).length)
      if result matches .error _ then
        Procedure.record (.failure "tier_unavailable" "compaction")
      return ((⟨streaks, memory.stats.add result⟩ : Compactor), result)) := by
  have record : ∀ event, m.Silent (Procedure.record event) := fun event => .ask (record event)
  refine Silent.bind (record _) fun _ => Silent.bind (record _) fun _ => ?_
  split
  · exact Silent.bind (record _) fun _ => trivial
  · trivial

theorem silent_run (h : ∀ boundary, Overlooks m boundary) (now : m.Neutral .now) (c : Settings)
    (activeKeys : m.Neutral (.hot (.activeKeys c.config.maxKeysPerCycle))) (memory : Compactor) :
    m.Silent (memory.run c) := by
  have ignores := (h default).ignores default
  refine Silent.bind (.ask ignores.isCancelled) fun _ => ?_
  split
  · trivial
  · refine Silent.bind (Silent.bind (.ask activeKeys) ?_) fun _ =>
      silent_conclude ignores.record c memory _ _
    rintro (e | keys)
    · trivial
    · exact Silent.bind (Silent.bind (.ask now) fun _ => trivial) fun boundary =>
        silent_batches (h boundary) c _ _

end Silent

/-! ## Cycles -/

theorem mem_zip_map {keys : List Key} {find : Key → Option Hot.Record}
    {record? : Option Hot.Record} :
    (key, record?) ∈ keys.zip (keys.map find) ↔ key ∈ keys ∧ record? = find key := by
  induction keys with
  | nil => simp
  | cons head keys ih =>
    rw [List.map_cons, List.zip_cons_cons, List.mem_cons, List.mem_cons, ih, Prod.mk.injEq]
    constructor
    · rintro (⟨rfl, rfl⟩ | ⟨member, rfl⟩)
      · exact ⟨.inl rfl, rfl⟩
      · exact ⟨.inr member, rfl⟩
    · rintro ⟨rfl | member, rfl⟩
      · exact .inl ⟨rfl, rfl⟩
      · exact .inr ⟨member, rfl⟩

theorem batchRead_zip {keys : List Key} (nodup : keys.Nodup) {find : Key → Option Hot.Record}
    (own : ∀ key record, find key = some record → record.key = key) :
    BatchRead (keys.zip (keys.map find)) := by
  constructor
  · rw [List.map_fst_zip (by simp)]
    exact nodup
  · rintro ⟨k, record?⟩ member record found
    exact own k record ((mem_zip_map.1 member).2.symm.trans found)

theorem flatten_chunks {α : Type} (size : Nat) (as : List α) : (chunks size as).flatten = as := by
  induction as using chunks.induct size with
  | case1 => simp [chunks]
  | case2 a as ih => simp [chunks, ih]

/-- What reading a batch tells: nothing if it was given up, and else a record for each key. -/
def ReadTells (calm : Prop) (key : Key) (batch : List Key) (before : Phase)
    (result? : Option (Except Error (List (Option Hot.Record)))) (φ : Phase) : Prop :=
  match result? with
  | some (.ok records) => ∃ find : Key → Option Hot.Record, records = batch.map find ∧
    (∀ key record, find key = some record → record.key = key) ∧
      φ = before.after key (.observation (batch.zip records))
  | _ => φ = before ∧ ¬ calm

theorem ensures_readBatch (φ : Phase) (batch : List Key) :
    (monitor key terms).Ensures φ (readBatch batch) (ReadTells terms.calm key batch φ) := by
  refine Ensures.bind (P := fun isCancelled φ' => φ' = φ ∧ (terms.calm → isCancelled = false))
    (.ask trivial fun _ sound => ⟨rfl, sound⟩) ?_
  rintro isCancelled _ ⟨rfl, calmly⟩
  split
  · next h =>
    exact .pure ⟨rfl, fun calm => Bool.false_ne_true ((calmly calm).symm.trans h)⟩
  · refine .abandonIf (.ask neutral_isCancelled) trivial ?_ ?_
    · by_cases h : terms.calm
      · exact .inl fun _ sound => sound h
      · exact .inr ⟨rfl, h⟩
    · rintro (e | records) ⟨succeeds, sound⟩
      · exact ⟨rfl, fun calm => nomatch succeeds calm⟩
      · obtain ⟨find, rfl, own⟩ := sound records rfl
        exact ⟨find, rfl, own, rfl⟩

/-- Where the key stands before some batches: in one of them if it was listed. -/
structure Ready (calm : Prop) (key : Key) (batches : List (List Key)) (φ : Phase) : Prop where
  listed : key ∈ batches.flatten → φ = .listed
  ended : key ∉ batches.flatten → Ended calm φ

theorem ended_after_observation {φ : Phase} (ended : Ended calm φ)
    (records : List (Key × Option Hot.Record)) :
    Ended calm (φ.after key (.observation records)) := by
  unfold Phase.after
  dsimp only
  split
  · exact ⟨id, fun calm => nomatch ended.2 calm⟩
  · exact ended

theorem Ready.not_owes {batches : List (List Key)} {φ : Phase} (ready : Ready calm key batches φ) :
    ¬ φ.Owes := by
  by_cases member : key ∈ batches.flatten
  · rw [ready.listed member]
    exact id
  · exact (ready.ended member).1

/-- The first batch can be passed over if it does not hold the key, or if there is no calm. -/
theorem Ready.tail {batch : List Key} {rest : List (List Key)} {φ : Phase}
    (ready : Ready calm key (batch :: rest) φ) (passed : key ∉ batch ∨ ¬ calm) :
    Ready calm key rest φ := by
  constructor
  · exact fun later => ready.listed (List.mem_append_right batch later)
  · refine fun never => ⟨ready.not_owes, fun calm => (ready.ended fun member => ?_).2 calm⟩
    rcases List.mem_append.1 member with now | later
    · exact passed.elim (fun absent => absent now) fun notCalm => notCalm calm
    · exact never later

theorem ensures_runBatches {c : Settings} {boundary : Bucket} {batches : List (List Key)}
    (nodup : batches.flatten.Nodup) {p : Progress} {φ : Phase}
    (ready : Ready terms.calm key batches φ) :
    (monitor key terms).Ensures φ (runBatches c boundary batches p) fun _ => Ended terms.calm := by
  induction batches generalizing p φ with
  | nil => exact .pure (ready.ended (List.not_mem_nil))
  | cons batch rest ih =>
    rw [List.flatten_cons, List.nodup_append] at nodup
    obtain ⟨batch_nodup, rest_nodup, apart⟩ := nodup
    refine Ensures.bind (ensures_readBatch φ batch) ?_
    rintro (_ | (e | records)) φ' told
    · -- a batch that was given up is skipped, which only a cycle without calm does
      obtain ⟨rfl, notCalm⟩ := told
      exact ih rest_nodup (ready.tail (.inr notCalm))
    · obtain ⟨rfl, notCalm⟩ := told
      exact .pure ⟨ready.not_owes, fun calm => (notCalm calm).elim⟩
    · obtain ⟨find, rfl, own, rfl⟩ := told
      have read := batchRead_zip batch_nodup own
      by_cases member : key ∈ batch
      · -- the batch of the key: it is in no later one, so from here on it is done with
        have listed : φ = .listed := ready.listed (List.mem_append_left _ member)
        have observed : φ.after key (.observation (batch.zip (batch.map find))) =
            .observed (find key) := by
          simp [listed, Phase.after, lookup_zip_map, member]
        rw [observed]
        refine Ensures.bind (ensures_handleBatch read (mem_zip_map.2 ⟨member, rfl⟩)) ?_
        intro p φ' ended
        have absent : key ∉ rest.flatten := fun later => apart key member key later rfl
        exact ih rest_nodup ⟨fun later => (absent later).elim, fun _ => ended⟩
      · have same : φ.after key (.observation (batch.zip (batch.map find))) = φ := by
          simp [Phase.after, lookup_zip_map, member]
        rw [same]
        refine Ensures.bind (ensures_handleBatch_other read ?_) ?_
        · rwa [List.map_fst_zip (by simp)]
        · rintro p _ rfl
          exact ih rest_nodup (ready.tail (.inl member))

theorem ensures_pruneStreaks {φ : Phase} (ended : Ended terms.calm φ) (streaks : Streaks) :
    (monitor key terms).Ensures φ (pruneStreaks streaks) fun _ => Ended terms.calm := by
  unfold pruneStreaks
  split
  · exact .pure ended
  · refine Ensures.bind (P := fun _ => Ended terms.calm) (.ask trivial ?_) ?_
    · rintro (e | records) -
      · exact ended
      · exact ended_after_observation ended _
    · intro result φ ended
      cases result <;> exact .pure ended

theorem ensures_cycle {c : Settings} (enough : terms.cap ≤ c.config.maxKeysPerCycle)
    (streaks : Streaks) :
    (monitor key terms).Ensures .waiting (cycle c streaks) fun _ => Ended terms.calm := by
  refine Ensures.bind (P := fun result φ =>
    Sound terms.calm (.hot (.activeKeys c.config.maxKeysPerCycle)) result ∧
      φ = Phase.after key .waiting (occurrence (.hot (.activeKeys _)) result))
    (.ask ⟨rfl, enough⟩ fun _ sound => ⟨sound, rfl⟩) ?_
  rintro (e | keys) _ ⟨⟨succeeds, sound⟩, rfl⟩
  · exact .pure ⟨id, fun calm => nomatch succeeds calm⟩
  · have nodup : keys.Nodup := sound keys rfl
    refine Ensures.bind (P := fun _ φ => φ = if key ∈ keys then .listed else .rest) ?_ ?_
    · exact .silent (Silent.bind (.ask neutral_now) fun _ => trivial) fun _ => rfl
    · rintro boundary _ rfl
      refine Ensures.bind (P := fun _ => Ended terms.calm) (ensures_runBatches ?_ ?_) ?_
      · rwa [flatten_chunks]
      · constructor
        · exact fun member => if_pos (by rwa [flatten_chunks] at member)
        · intro absent
          rw [flatten_chunks] at absent
          rw [if_neg absent]
          exact ended_rest
      · rintro ⟨streaks, result⟩ φ ended
        cases result with
        | error e => exact .pure ended
        | ok report =>
          dsimp only
          split
          · exact .pure ended
          · exact Ensures.bind (ensures_pruneStreaks ended streaks) fun _ _ ended => .pure ended

/-- A cycle keeps the protocol of every key, and a calm one is done with it. -/
theorem ensures_run {c : Settings} (enough : terms.cap ≤ c.config.maxKeysPerCycle)
    (memory : Compactor) :
    (monitor key terms).Ensures .waiting (Compactor.run c memory) fun _ => Ended terms.calm := by
  refine Ensures.bind (P := fun isCancelled φ => φ = .waiting ∧ (terms.calm → isCancelled = false))
    (.ask trivial fun _ sound => ⟨rfl, sound⟩) ?_
  rintro isCancelled _ ⟨rfl, calmly⟩
  split
  · next h =>
    exact .pure ⟨id, fun calm => (Bool.false_ne_true ((calmly calm).symm.trans h)).elim⟩
  · refine Ensures.bind (ensures_cycle enough memory.streaks) ?_
    rintro ⟨streaks, result⟩ φ ended
    exact .silent (silent_conclude neutral_record c memory streaks result) fun _ => ended

/-! ## Drains -/

theorem find?_eq_of_nodup {records : List Hot.Record} (nodup : (records.map Hot.Record.key).Nodup)
    {record : Hot.Record} (member : record ∈ records) :
    records.find? (·.key = record.key) = some record := by
  induction records with
  | nil => cases member
  | cons head records ih =>
    rw [List.map_cons, List.nodup_cons] at nodup
    cases member with
    | head => simp
    | tail _ member =>
      have ne : head.key ≠ record.key := fun eq => nodup.1 (eq ▸ List.mem_map_of_mem member)
      rw [List.find?_cons_of_neg (by simpa using ne)]
      exact ih nodup.2 member

/-- At most one of the drained records belongs to the key, and it is the one that was taken. -/
theorem ensures_drainRecords {width : Nat} {records : List Hot.Record} (drains : terms.drains)
    (nodup : (records.map Hot.Record.key).Nodup) :
    (monitor key terms).Ensures (.ofTaken (records.find? (·.key = key)))
      (Program.all width ((records.filter fun r => !r.pending.isZero).map fun r =>
        drainRecord r.key r.pending)) fun _ => Ended terms.calm := by
  have kept : ((records.filter fun r => !r.pending.isZero).map Hot.Record.key).Nodup :=
    (List.filter_sublist.map _).nodup nodup
  by_cases own : ∃ record ∈ records.filter fun r => !r.pending.isZero, record.key = key
  · obtain ⟨record, member, rfl⟩ := own
    obtain ⟨i, lt, at_i⟩ := List.getElem_of_mem member
    obtain ⟨member, pending⟩ := List.mem_filter.1 member
    have pending : record.pending ≠ 0 := by simpa [← Traffic.isZero_iff] using pending
    rw [find?_eq_of_nodup nodup member, Phase.ofTaken, if_neg pending]
    refine .all_one i (by simpa using lt) ?_ ?_
    · intro j hj ne
      rw [List.length_map] at hj
      rw [List.getElem_map]
      have ne := ne_of_nodup kept lt hj ne
      rw [at_i] at ne
      exact silent_drainRecord (ignores_of_ne ne default) _ (neutral_increment ne drains _)
    · rw [List.getElem_map, at_i]
      exact (ensures_drainRecord drains record.pending).mono fun _ _ done _ => done ▸ ended_rest
  · -- nothing of the key was taken, or nothing of it was pending
    have rest : Phase.ofTaken (records.find? (·.key = key)) = .rest := by
      cases found : records.find? (·.key = key) with
      | none => rfl
      | some record =>
        refine if_pos (Decidable.byContradiction fun pending => own ⟨record, ?_, ?_⟩)
        · refine List.mem_filter.2 ⟨List.mem_of_find?_eq_some found, ?_⟩
          simpa [← Traffic.isZero_iff] using pending
        · simpa using List.find?_some found
    rw [rest]
    refine .all_silent ?_ fun _ => ended_rest
    intro task made
    obtain ⟨record, member, rfl⟩ := List.mem_map.1 made
    have ne : record.key ≠ key := fun eq => own ⟨record, member, eq⟩
    exact silent_drainRecord (ignores_of_ne ne default) _ (neutral_increment ne drains _)

/-- A drain keeps the protocol of every key. -/
theorem ensures_drain (drains : terms.drains) (c : Settings) (memory : Compactor)
    (bucket : Bucket) :
    (monitor key terms).Ensures .waiting (drain c memory bucket) fun _ => Ended terms.calm := by
  refine Ensures.bind (P := fun result φ => Sound terms.calm (.hot (.takeBucket bucket)) result ∧
    φ = Phase.after key .waiting (occurrence (.hot (.takeBucket bucket)) result))
    (.ask ⟨rfl, drains⟩ fun _ sound => ⟨sound, rfl⟩) ?_
  rintro (e | records) _ ⟨⟨succeeds, sound⟩, rfl⟩
  · exact .pure ⟨id, fun calm => nomatch succeeds calm⟩
  · have nodup : (records.map Hot.Record.key).Nodup := sound records rfl
    exact Ensures.bind (ensures_drainRecords drains nodup) fun _ _ ended => .pure ended

end Metering.Compaction
