import Metering.Proofs.Compaction.Effect

/-!
# The balance of a key

`Tally` counts what a log tells of a key: bytes that were accepted, bytes that reached the cold
tier and will reach it again because their commit failed, and baselines, with the part of them that
a commit of an older record took out of the markers again.

`Balanced` says how the tally, the row in the cold tier, the record in the hot tier and the phase
of the key belong together. It is about these data only; one lemma per kind of step shows how it
goes on.

Results:
1. `Balanced.arrive`, `Balanced.seed`, `Balanced.lose`, `Balanced.take` and `Balanced.restore`:
   steps that change the record.
2. `Balanced.observe`, `Balanced.write`, `Balanced.commit` and `Balanced.miss`: steps of the work on
   the key.
3. `Balanced.effect`: the balance goes on with every effect.
-/

namespace Metering.Compaction

/-- What a log tells of a key, in bytes by direction. -/
structure Tally where
  /-- Counted for the key from outside. -/
  accepted : Way → Nat := fun _ => 0
  /-- Written to the cold tier without the commit that should follow. -/
  resent : Way → Nat := fun _ => 0
  /-- Seeded as already flushed. -/
  seeded : Way → Nat := fun _ => 0
  /-- Seeded since the record was read that is being flushed. -/
  window : Way → Nat := fun _ => 0
  /-- Seeded between the reading of a record and its commit, which set the markers back. -/
  exposed : Way → Nat := fun _ => 0

/-- The tally of a key after an occurrence in some phase. -/
def Tally.after (key : Key) (φ : Phase) (t : Tally) : Occurrence → Tally
  | .arrival entries => { t with accepted := fun d => t.accepted d + counted key d entries }
  | .seeding key' taken =>
    if key' = key then
      { t with
        seeded := fun d => t.seeded d + taken.bytes d
        window := fun d => t.window d + taken.bytes d }
    else t
  | .observation records =>
    match φ, records.lookup key with
    | .listed, some _ => { t with window := fun _ => 0 }
    | _, _ => t
  | .commit key' _ result =>
    match φ with
    | .written record =>
      if key' = key then
        match result with
        | .ok _ => { t with exposed := fun d => t.exposed d + t.window d }
        | .error _ => { t with resent := fun d => t.resent d + record.pending.bytes d }
      else t
    | _ => t
  | _ => t

/-- The tally that a log tells, the newest occurrence first. -/
def Tally.ofLog (key : Key) : List Occurrence → Tally
  | [] => {}
  | o :: log => (ofLog key log).after key (.ofLog key log) o

theorem Tally.after_of_apart {key : Key} {o : Occurrence} (apart : o.Apart key) (φ : Phase)
    (t : Tally) : t.after key φ o = t := by
  cases o with
  | observation records =>
    change records.lookup key = none at apart
    cases φ <;> simp [Tally.after, apart]
  | commit key' markers result =>
    cases φ with
    | written record => exact if_neg apart
    | _ => rfl
  | arrival | seeding => exact apart.elim
  | _ => rfl

namespace Phase

variable (d : Way)

/-- Bytes that are in neither tier. -/
def inTransit : Phase → Nat
  | taken pending | refused pending => pending.bytes d
  | _ => 0

/-- Baselines that the next commit would take out of the markers. -/
def atRisk (t : Tally) : Phase → Nat
  | observed (some _) | written _ => t.window d
  | _ => 0

end Phase

/-- No record is being flushed, but one may be drained. -/
def Phase.Drains : Phase → Prop
  | .observed (some _) | .written _ => False
  | _ => True

theorem Phase.drains_of_isPlain {φ : Phase} (plain : φ.IsPlain) : φ.Drains := by
  cases plain <;> trivial

theorem Phase.Drains.eq_zero {φ : Phase} (drains : φ.Drains) (d : Way) (t : Tally) :
    φ.ahead d = 0 ∧ φ.atRisk d t = 0 ∧ ∀ record, ¬ φ.Holds record := by
  cases φ with
  | observed record? =>
    cases record? with
    | none =>
      refine ⟨rfl, rfl, ?_⟩
      rintro record (⟨⟨⟩⟩ | ⟨⟨⟩⟩)
    | some record => exact drains.elim
  | written record => exact drains.elim
  | _ =>
    refine ⟨rfl, rfl, ?_⟩
    rintro record (⟨⟨⟩⟩ | ⟨⟨⟩⟩)

/-- A row and a record agree with the tally of their key, in the phase in which the key is. -/
structure Balanced (φ : Phase) (live? : Option Hot.Entry) (row : Traffic) (t : Tally) : Prop where
  known : φ ≠ .gone
  covered : ∀ entry, live? = some entry → ∀ d, entry.flushed.bytes d ≤ entry.traffic.bytes d
  seen : ∀ record, φ.Holds record → ∀ d, record.flushed.bytes d ≤ record.traffic.bytes d
  -- since a record was read its key was only counted and seeded, and seeding moves both numbers
  kept : ∀ record, φ.Holds record → record.pending ≠ 0 → ∃ entry, live? = some entry ∧
    ∀ d, entry.flushed.bytes d = record.flushed.bytes d + t.window d ∧
      record.traffic.bytes d + t.window d ≤ entry.traffic.bytes d
  nonzero : ∀ record, φ = .written record → record.pending ≠ 0
  -- what the tiers and the work hold is what was accepted, and what was counted twice
  balance : ∀ d, row.bytes d + pendingOf d live? + φ.inTransit d =
    t.accepted d + t.resent d + t.exposed d + φ.ahead d
  bound : ∀ d, flushedOf d live? + t.exposed d + φ.ahead d ≤ row.bytes d + t.seeded d
  risk : ∀ d, t.exposed d + φ.atRisk d t ≤ t.seeded d

namespace Balanced

variable {φ : Phase} {live? : Option Hot.Entry} {row : Traffic} {t : Tally}

theorem empty : Balanced .rest none 0 {} where
  known := by rintro ⟨⟩
  covered := by rintro _ ⟨⟩
  seen := by rintro _ (⟨⟨⟩⟩ | ⟨⟨⟩⟩)
  kept := by rintro _ (⟨⟨⟩⟩ | ⟨⟨⟩⟩)
  nonzero := by rintro _ ⟨⟩
  balance d := by simp [pendingOf, Phase.inTransit, Phase.ahead]
  bound d := by simp [flushedOf, Phase.ahead]
  risk d := by simp [Phase.atRisk]

theorem traffic_eq (h : Balanced φ live? row t) (d : Way) :
    trafficOf d live? = flushedOf d live? + pendingOf d live? := by
  cases live? with
  | none => rfl
  | some entry =>
    have covered := h.covered entry rfl d
    simp only [trafficOf, flushedOf, pendingOf, Option.elim_some, Hot.Entry.bytes_pending]
    omega

/-- A counter does not go beyond what was accepted, resent and seeded. -/
theorem traffic_le (h : Balanced φ live? row t) (d : Way) :
    trafficOf d live? + φ.inTransit d ≤ t.accepted d + t.resent d + t.seeded d := by
  have split := h.traffic_eq d
  have balance := h.balance d
  have bound := h.bound d
  omega

/-- What is being flushed is still pending. -/
theorem ahead_le (h : Balanced φ live? row t) {record : Hot.Record} (holds : φ.Holds record)
    (d : Way) : record.pending.bytes d ≤ pendingOf d live? := by
  by_cases idle : record.pending = 0
  · rw [idle, Traffic.bytes_zero]
    exact Nat.zero_le _
  · obtain ⟨entry, rfl, within⟩ := h.kept record holds idle
    have within := within d
    simp only [pendingOf, Option.elim_some, Hot.Entry.bytes_pending, Hot.Record.bytes_pending]
    omega

/-- A record that is being flushed was not reset. -/
theorem not_reset (h : Balanced φ live? row t) {record : Hot.Record} (holds : φ.Holds record) :
    record.isReset ≠ true := by
  intro reset
  obtain ⟨d, below⟩ := Hot.Record.isReset_iff.1 reset
  exact Nat.not_le.2 below (h.seen record holds d)

/-- What has just been counted is pending. -/
theorem pending_of_grows (h : Balanced φ live? row t) {traffic : Traffic} {entry : Hot.Entry}
    (grows : Grows live? traffic entry) (nonzero : traffic ≠ 0)
    (room : ∀ d, trafficOf d live? + traffic.bytes d ≤ Count.top) : entry.pending ≠ 0 := by
  obtain ⟨d, pos⟩ := Traffic.ne_zero_iff.1 nonzero
  have split := h.traffic_eq d
  refine Traffic.ne_zero_iff.2 ⟨d, ?_⟩
  rw [Hot.Entry.bytes_pending, grows.flushed, grows.traffic, Nat.min_eq_left (room d)]
  omega

/-! ## Records -/

theorem arrive (h : Balanced φ live? row t) {traffic : Traffic} {entry : Hot.Entry}
    (grows : Grows live? traffic entry)
    (room : ∀ d, t.accepted d + traffic.bytes d + t.resent d + t.seeded d ≤ Count.top) :
    Balanced φ (some entry) row
      { t with accepted := fun d => t.accepted d + traffic.bytes d } := by
  have exact_traffic : ∀ d, entry.traffic.bytes d = trafficOf d live? + traffic.bytes d := by
    intro d
    have room := room d
    have le := h.traffic_le d
    rw [grows.traffic, Nat.min_eq_left (by omega)]
  refine ⟨h.known, ?_, h.seen, ?_, h.nonzero, ?_, ?_, h.risk⟩
  · rintro _ ⟨⟩ d
    have split := h.traffic_eq d
    rw [grows.flushed, exact_traffic]
    omega
  · intro record holds pending
    obtain ⟨old, rfl, within⟩ := h.kept record holds pending
    refine ⟨entry, rfl, fun d => ?_⟩
    have within := within d
    rw [grows.flushed, exact_traffic]
    simp only [flushedOf, trafficOf, Option.elim_some]
    omega
  · intro d
    have split := h.traffic_eq d
    have balance := h.balance d
    have flushed := grows.flushed d
    have traffic := exact_traffic d
    simp only [pendingOf, Option.elim_some, Hot.Entry.bytes_pending] at balance split ⊢
    omega
  · intro d
    have bound := h.bound d
    have flushed := grows.flushed d
    simp only [flushedOf, Option.elim_some] at bound flushed ⊢
    omega

theorem seed (h : Balanced φ live? row t) {taken : Traffic} {entry : Hot.Entry}
    (takes : Takes live? taken entry)
    (room : ∀ d, t.accepted d + t.resent d + (t.seeded d + taken.bytes d) ≤ Count.top) :
    Balanced φ (some entry) row
      { t with
        seeded := fun d => t.seeded d + taken.bytes d
        window := fun d => t.window d + taken.bytes d } := by
  have exact_traffic : ∀ d, entry.traffic.bytes d = trafficOf d live? + taken.bytes d := by
    intro d
    have room := room d
    have le := h.traffic_le d
    rw [takes.traffic, Nat.min_eq_left (by omega)]
  refine ⟨h.known, ?_, h.seen, ?_, h.nonzero, ?_, ?_, ?_⟩
  · rintro _ ⟨⟩ d
    have split := h.traffic_eq d
    rw [takes.flushed, exact_traffic]
    omega
  · intro record holds pending
    obtain ⟨old, rfl, within⟩ := h.kept record holds pending
    refine ⟨entry, rfl, fun d => ?_⟩
    have within := within d
    rw [takes.flushed, exact_traffic]
    simp only [flushedOf, trafficOf, Option.elim_some]
    omega
  · intro d
    have split := h.traffic_eq d
    have balance := h.balance d
    have flushed := takes.flushed d
    have traffic := exact_traffic d
    simp only [pendingOf, Option.elim_some, Hot.Entry.bytes_pending] at balance split ⊢
    omega
  · intro d
    have bound := h.bound d
    have flushed := takes.flushed d
    simp only [flushedOf, Option.elim_some] at bound flushed ⊢
    omega
  · intro d
    have risk := h.risk d
    cases φ with
    | observed record? =>
      cases record? with
      | none => simp only [Phase.atRisk] at risk ⊢; omega
      | some record => simp only [Phase.atRisk] at risk ⊢; omega
    | _ => simp only [Phase.atRisk] at risk ⊢; omega

/-- A record without pending traffic can go. -/
theorem lose (h : Balanced φ live? row t) (idle : ∀ d, pendingOf d live? = 0) :
    Balanced φ none row t := by
  refine ⟨h.known, by rintro _ ⟨⟩, h.seen, ?_, h.nonzero, ?_, ?_, h.risk⟩
  · -- a record that is being flushed would still be pending
    intro record holds pending
    obtain ⟨d, pos⟩ := Traffic.ne_zero_iff.1 pending
    have le := h.ahead_le holds d
    have idle := idle d
    omega
  · intro d
    have balance := h.balance d
    have idle := idle d
    simp only [pendingOf, Option.elim_none] at balance idle ⊢
    omega
  · intro d
    have bound := h.bound d
    simp only [flushedOf, Option.elim_none] at bound ⊢
    omega

/-! ## Phases -/

/-- While no record is being flushed, it matters only what the tiers and a drain hold. -/
theorem of_drains {ψ : Phase} (known : ψ ≠ .gone) (drains : ψ.Drains)
    (covered : ∀ entry, live? = some entry → ∀ d, entry.flushed.bytes d ≤ entry.traffic.bytes d)
    (balance : ∀ d, row.bytes d + pendingOf d live? + ψ.inTransit d =
      t.accepted d + t.resent d + t.exposed d)
    (bound : ∀ d, flushedOf d live? + t.exposed d ≤ row.bytes d + t.seeded d)
    (risk : ∀ d, t.exposed d ≤ t.seeded d) : Balanced ψ live? row t := by
  have none : ∀ record, ¬ ψ.Holds record := (drains.eq_zero .upload t).2.2
  refine ⟨known, covered, fun _ held => (none _ held).elim, fun _ held => (none _ held).elim,
    fun record eq => (none record (.inr eq)).elim, ?_, ?_, ?_⟩
  · intro d
    rw [(drains.eq_zero d t).1]
    exact balance d
  · intro d
    rw [(drains.eq_zero d t).1]
    exact bound d
  · intro d
    rw [(drains.eq_zero d t).2.1]
    exact risk d

/-- Traffic moves between a row, a record and a drain. -/
theorem transfer (h : Balanced φ live? row t) {ψ : Phase} {live?' : Option Hot.Entry}
    {row' : Traffic} (known : ψ ≠ .gone) (still : ∀ d, φ.ahead d = 0) (drains : ψ.Drains)
    (covered : ∀ entry, live?' = some entry → ∀ d, entry.flushed.bytes d ≤ entry.traffic.bytes d)
    (balance : ∀ d, row'.bytes d + pendingOf d live?' + ψ.inTransit d =
      row.bytes d + pendingOf d live? + φ.inTransit d)
    (bound : ∀ d, flushedOf d live?' ≤ flushedOf d live?)
    (grows : ∀ d, row.bytes d ≤ row'.bytes d) : Balanced ψ live?' row' t := by
  refine .of_drains known drains covered ?_ ?_ ?_
  · intro d
    have before := h.balance d
    have balance := balance d
    have still := still d
    omega
  · intro d
    have before := h.bound d
    have bound := bound d
    have grows := grows d
    omega
  · intro d
    have risk := h.risk d
    omega

/-- Work on a key that is owed nothing can begin, go on or come to its end. -/
theorem relax (h : Balanced φ live? row t) (still : ∀ d, φ.inTransit d = 0 ∧ φ.ahead d = 0)
    {ψ : Phase} (plain : ψ.IsPlain) : Balanced ψ live? row t := by
  refine h.transfer ?_ (fun d => (still d).2) (Phase.drains_of_isPlain plain) h.covered ?_
    (fun d => Nat.le_refl _) fun d => Nat.le_refl _
  · rintro rfl
    cases plain
  · intro d
    have none : ψ.inTransit d = 0 := by cases plain <;> rfl
    rw [none, (still d).1]

/-- A record is read. -/
theorem observe (h : Balanced .listed live? row t) (key : Key) :
    Balanced (.observed (live?.map (·.toRecord key))) live? row
      { t with window := fun _ => 0 } := by
  have balance := h.balance
  have bound := h.bound
  have risk := h.risk
  refine ⟨by rintro ⟨⟩, h.covered, ?_, ?_, by rintro _ ⟨⟩, balance, bound, ?_⟩
  · rintro record (read | read)
    · obtain ⟨entry, found, rfl⟩ := Option.map_eq_some_iff.1 (Phase.observed.inj read)
      exact h.covered entry found
    · cases read
  · rintro record (read | read) -
    · obtain ⟨entry, found, rfl⟩ := Option.map_eq_some_iff.1 (Phase.observed.inj read)
      exact ⟨entry, found, fun d => ⟨rfl, Nat.le_refl _⟩⟩
    · cases read
  · intro d
    have risk := risk d
    cases live? with
    | none => exact risk
    | some entry => exact risk

/-- The pending part of a record is written. -/
theorem write {record : Hot.Record} (h : Balanced (.observed (some record)) live? row t)
    (pending : record.pending ≠ 0)
    (room : ∀ d, t.accepted d + t.resent d + t.seeded d ≤ Count.top) :
    Balanced (.written record) live? (row + record.pending) t := by
  have exact_row : ∀ d, (row + record.pending).bytes d = row.bytes d + record.pending.bytes d := by
    intro d
    have balance := h.balance d
    have risk := h.risk d
    have le := h.ahead_le (.inl rfl) d
    have room := room d
    refine Traffic.bytes_add_of_lt d ?_
    simp only [Phase.inTransit, Phase.ahead, Phase.atRisk] at balance risk
    omega
  have holds : ∀ {other}, Phase.Holds (.written record) other →
      Phase.Holds (.observed (some record)) other := by
    rintro other (⟨⟨⟩⟩ | ⟨⟨⟩⟩)
    exact .inl rfl
  refine ⟨by rintro ⟨⟩, h.covered, fun _ held => h.seen _ (holds held),
    fun _ held => h.kept _ (holds held), ?_, ?_, ?_, h.risk⟩
  · rintro _ ⟨⟩
    exact pending
  · intro d
    have balance := h.balance d
    rw [exact_row]
    simp only [Phase.inTransit, Phase.ahead] at balance ⊢
    omega
  · intro d
    have bound := h.bound d
    rw [exact_row]
    simp only [Phase.ahead] at bound ⊢
    omega

/-- The counter that was written is committed. -/
theorem commit {record : Hot.Record} (h : Balanced (.written record) live? row t) :
    ∃ entry, live? = some entry ∧ Balanced .rest (some (entry.mark record.traffic)) row
      { t with exposed := fun d => t.exposed d + t.window d } := by
  have holds : Phase.Holds (.written record) record := .inr rfl
  obtain ⟨entry, rfl, within⟩ := h.kept record holds (h.nonzero record rfl)
  refine ⟨entry, rfl, .of_drains (by rintro ⟨⟩) trivial ?_ ?_ ?_ ?_⟩
  · -- baselines of the window leave the markers here, so they are exposed from now on
    rintro _ ⟨⟩ d
    have within := within d
    rw [Hot.Entry.flushed_mark, Hot.Entry.traffic_mark]
    omega
  · intro d
    have balance := h.balance d
    have within := within d
    have seen := h.seen record holds d
    simp only [pendingOf, Option.elim_some, Hot.Entry.bytes_pending, Hot.Entry.traffic_mark,
      Hot.Entry.flushed_mark, Phase.inTransit, Phase.ahead, Hot.Record.bytes_pending] at balance ⊢
    omega
  · intro d
    have bound := h.bound d
    have within := within d
    have seen := h.seen record holds d
    simp only [flushedOf, Option.elim_some, Hot.Entry.flushed_mark, Phase.ahead,
      Hot.Record.bytes_pending] at bound ⊢
    omega
  · intro d
    have risk := h.risk d
    simp only [Phase.atRisk] at risk ⊢
    omega

/-- The commit of what was written fails, so it is pending still. -/
theorem miss {record : Hot.Record} (h : Balanced (.written record) live? row t) :
    Balanced .rest live? row
      { t with resent := fun d => t.resent d + record.pending.bytes d } := by
  refine .of_drains (by rintro ⟨⟩) trivial h.covered ?_ ?_ ?_
  · intro d
    have balance := h.balance d
    simp only [Phase.inTransit, Phase.ahead] at balance ⊢
    omega
  · intro d
    have bound := h.bound d
    simp only [Phase.ahead] at bound ⊢
    omega
  · intro d
    have risk := h.risk d
    simp only [Phase.atRisk] at risk ⊢
    omega

/-! ## Drains -/

/-- A record is drained. -/
theorem take (h : Balanced .waiting live? row t) {pending : Traffic}
    (taken : ∀ d, pending.bytes d = pendingOf d live?) : Balanced (.taken pending) none row t := by
  refine h.transfer (by rintro ⟨⟩) (fun _ => rfl) trivial (by rintro _ ⟨⟩) ?_ ?_ ?_
  · intro d
    have taken := taken d
    simp only [pendingOf, Option.elim_none, Phase.inTransit] at taken ⊢
    omega
  · exact fun d => Nat.zero_le _
  · exact fun d => Nat.le_refl _

/-- Drained traffic reaches the cold tier. -/
theorem deliver {pending : Traffic} (h : Balanced (.taken pending) live? row t)
    (room : ∀ d, t.accepted d + t.resent d + t.seeded d ≤ Count.top) :
    Balanced .rest live? (row + pending) t := by
  have exact_row : ∀ d, (row + pending).bytes d = row.bytes d + pending.bytes d := by
    intro d
    have balance := h.balance d
    have risk := h.risk d
    have room := room d
    refine Traffic.bytes_add_of_lt d ?_
    simp only [Phase.inTransit, Phase.ahead, Phase.atRisk] at balance risk
    omega
  refine h.transfer (by rintro ⟨⟩) (fun _ => rfl) trivial h.covered ?_ (fun d => Nat.le_refl _) ?_
  · intro d
    rw [exact_row]
    simp only [Phase.inTransit]
    omega
  · intro d
    rw [exact_row]
    omega

/-- Drained traffic does not reach the cold tier. -/
theorem refuse {pending : Traffic} (h : Balanced (.taken pending) live? row t) :
    Balanced (.refused pending) live? row t :=
  h.transfer (by rintro ⟨⟩) (fun _ => rfl) trivial h.covered (fun _ => rfl) (fun _ => Nat.le_refl _)
    fun _ => Nat.le_refl _

/-- Drained traffic is counted in the hot tier again. -/
theorem restore {pending : Traffic} (h : Balanced (.refused pending) live? row t)
    {entry : Hot.Entry} (grows : Grows live? pending entry)
    (room : ∀ d, t.accepted d + t.resent d + t.seeded d ≤ Count.top) :
    Balanced .rest (some entry) row t := by
  have exact_traffic : ∀ d, entry.traffic.bytes d = trafficOf d live? + pending.bytes d := by
    intro d
    have le := h.traffic_le d
    have room := room d
    simp only [Phase.inTransit] at le
    rw [grows.traffic, Nat.min_eq_left (by omega)]
  refine h.transfer (by rintro ⟨⟩) (fun _ => rfl) trivial ?_ ?_ ?_ fun d => Nat.le_refl _
  · rintro _ ⟨⟩ d
    have split := h.traffic_eq d
    rw [grows.flushed, exact_traffic]
    omega
  · intro d
    have split := h.traffic_eq d
    have flushed := grows.flushed d
    have traffic := exact_traffic d
    simp only [pendingOf, Option.elim_some, Hot.Entry.bytes_pending, Phase.inTransit] at split ⊢
    omega
  · intro d
    simp only [flushedOf, Option.elim_some]
    exact Nat.le_of_eq (grows.flushed d)

/-! ## Effects -/

/-- The balance goes on with every effect, if no sum leaves the range of a counter and nothing that
is to be restored is lost. -/
theorem effect (h : Balanced φ live? row t) {key : Key} {fails : Error → Prop}
    {lost : Hot.Entry → Prop} {o : Occurrence} {live?' : Option Hot.Entry} {row' : Traffic}
    (effect : Effect key fails lost φ live? row o live?' row')
    (found : ∀ e, fails e → e.isNotFound = false) (held : ∀ entry, lost entry → entry.pending = 0)
    (restored : ∀ traffic e, o ≠ .restoring key traffic (.error e))
    (room : ∀ d, t.accepted d + t.resent d + t.seeded d ≤ Count.top) :
    Balanced (φ.after key o) live?' row' (t.after key φ o) := by
  cases effect with
  | apart apart => rw [Phase.after_of_apart apart, Tally.after_of_apart apart]; exact h
  | list keys =>
    refine h.relax (fun d => ⟨rfl, rfl⟩) ?_
    unfold Phase.after
    dsimp only
    split
    · exact .listed
    · exact .rest
  | glance records ne =>
    cases φ with
    | listed => exact (ne rfl).elim
    | _ => exact h
  | read records told =>
    have phase : Phase.after key .listed (.observation records) =
        .observed (live?.map (·.toRecord key)) := by
      simp [Phase.after, told]
    have tally : t.after key .listed (.observation records) = { t with window := fun _ => 0 } := by
      simp [Tally.after, told]
    rw [phase, tally]
    exact h.observe key
  | write traffic writes =>
    rw [Phase.after, if_pos rfl]
    obtain ⟨record, rfl, rfl, pending⟩ | rfl := writes
    · exact h.write pending room
    · exact h.deliver room
  | writeFails traffic e writes failure =>
    have known := found e failure
    rw [Phase.after, if_pos rfl]
    obtain ⟨record, rfl, rfl, pending⟩ | rfl := writes
    · simp only [Phase.afterWrite, known]
      exact h.relax (fun d => ⟨rfl, rfl⟩) .rest
    · simp only [Phase.afterWrite, known]
      exact h.refuse
  | commit record commits =>
    rw [Phase.after, if_pos rfl]
    obtain rfl | ⟨rfl, idle, reset⟩ := commits
    · obtain ⟨entry, rfl, committed⟩ := h.commit
      simp only [Tally.after, if_pos]
      exact committed
    · -- a commit of an idle record mends a reset counter, and none was reset
      exact (h.not_reset (.inl rfl) reset).elim
  | commitFails record e commits failure =>
    rw [Phase.after, if_pos rfl]
    obtain rfl | ⟨rfl, idle, reset⟩ := commits
    · simp only [Tally.after, if_pos]
      exact h.miss
    · exact (h.not_reset (.inl rfl) reset).elim
  | settle purge settles =>
    have rest : Balanced .rest live? row t := by
      obtain rfl | ⟨record?, rfl, -⟩ := settles <;> exact h.relax (fun d => ⟨rfl, rfl⟩) .rest
    rw [settles.after_settling]
    split
    · next settled => exact rest.lose (pendingOf_of_settled settled.2)
    · exact rest
  | settleFails purge e settles failure =>
    rw [settles.after_settling]
    obtain rfl | ⟨record?, rfl, -⟩ := settles <;> exact h.relax (fun d => ⟨rfl, rfl⟩) .rest
  | take records told =>
    rw [Phase.after, told]
    cases live? with
    | none => exact h.relax (fun d => ⟨rfl, rfl⟩) .rest
    | some entry =>
      rw [Option.map_some, Phase.ofTaken]
      by_cases idle : (entry.toRecord key).pending = 0
      · rw [if_pos idle]
        refine (h.lose fun d => ?_).relax (fun d => ⟨rfl, rfl⟩) .rest
        exact (congrArg (Traffic.bytes · d) idle).trans (Traffic.bytes_zero d)
      · rw [if_neg idle]
        exact h.take fun d => rfl
  | leave records untold =>
    rw [Phase.after, untold]
    exact h.relax (fun d => ⟨rfl, rfl⟩) .rest
  | restore traffic live?' accrues =>
    rw [Phase.after, if_pos rfl]
    cases accrues with
    | nothing zero =>
      subst zero
      exact h.relax (fun d => ⟨Traffic.bytes_zero d, rfl⟩) .rest
    | grown entry nonzero grows => exact h.restore grows room
    | lost entry nonzero grows expired =>
      -- what is restored is pending, and such records do not expire
      refine (h.pending_of_grows grows nonzero (fun d => ?_) (held entry expired)).elim
      exact Nat.le_trans (h.traffic_le d) (room d)
  | restoreFails traffic e failure => exact (restored _ _ rfl).elim
  | forget result live?' => exact (h.known rfl).elim

end Balanced

end Metering.Compaction
