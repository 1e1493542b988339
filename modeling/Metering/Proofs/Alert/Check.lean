import Metering.Ledger
import Metering.Proofs.Alert.Race

/-!
# The right alert

A check reads the usage of a subscription and evaluates it. As long as no one else changes the two
records of the subscription, it raises an alert in just one case: usage has reached some threshold,
and the greatest of these is above the level in the record. Percents are whole and rounded down,
which loses nothing: a threshold is a whole number too, so it is reached when the products say so.

Results:
1. `Quota.Status.le_percent_iff`, `Quota.Status.exceeded_iff_percent`: percents against products.
2. `Settings.levelFor_eq_some_iff`: the greatest threshold that is reached.
3. `Ledger.checkQuota_alerts`: when a check raises an alert, and what the alert and the record tell.
-/

namespace Metering

/-! ## Percents -/

namespace Quota

namespace Status

variable {status : Status} {limit : Count}

theorem percent_eq (known : status.limit = some limit) (finite : 0 < limit.toNat) :
    status.percent = some (min (status.used.total.toNat * 100 / limit.toNat) Count.top) := by
  unfold percent finiteLimit
  rw [known, Option.filter_some, if_pos (decide_eq_true finite)]
  rfl

/-- Percents are rounded down, but a whole number is reached where the product says so. -/
theorem le_percent_iff (known : status.limit = some limit) (finite : 0 < limit.toNat)
    {percent n : Nat} (told : status.percent = some percent) (fits : n ≤ Count.top) :
    n ≤ percent ↔ n * limit.toNat ≤ 100 * status.used.total.toNat := by
  rw [percent_eq known finite] at told
  cases told
  rw [Nat.le_min, Nat.le_div_iff_mul_le finite, Nat.mul_comm 100]
  exact and_iff_left fits

/-- An allowance is used up from 100 percent on. -/
theorem exceeded_iff_percent (known : status.limit = some limit) (finite : 0 < limit.toNat) :
    status.exceeded = true ↔ ∃ percent, status.percent = some percent ∧ 100 ≤ percent := by
  have told := percent_eq known finite
  have reached := le_percent_iff known finite told (n := 100) (by decide)
  unfold exceeded
  rw [told, known]
  simp only [Option.some.injEq, exists_eq_left', reached, Option.any_some, decide_eq_true_eq,
    Count.le_def]
  omega

end Status

/-- A field holds at most 63 bits. -/
theorem le_maxField_of_readField {fields : Side.Fields} {name : String} {n : Count}
    (read : readField fields name = .ok (some n)) : n.toNat ≤ maxField := by
  unfold readField at read
  split at read
  · cases read
  · next text _ =>
    split at read
    · next number accepted =>
      cases read
      unfold Decimal.int64? Decimal.signed? at accepted
      have fits := of_decide_eq_true (Option.filter_eq_some_iff.1 accepted).2
      refine Nat.le_trans (Nat.min_le_left _ _) ?_
      unfold maxField
      omega
    · cases read

/-- What is told as used fits into a counter, so that its total is the plain sum. -/
theorem toNat_total_of_statusOf {fields : Side.Fields} {status : Status}
    (told : statusOf fields = .ok status) :
    status.used.total.toNat = status.used.upload.toNat + status.used.download.toNat := by
  unfold statusOf at told
  simp only [bind_eq_ok_iff] at told
  obtain ⟨limit, -, upload, up, download, down, same⟩ := told
  cases same
  have fits {name : String} {n? : Option Count} (read : readField fields name = .ok n?) :
      (n?.getD 0).toNat ≤ maxField := by
    cases n? with
    | none => exact Nat.zero_le _
    | some n => exact le_maxField_of_readField read
  have most := fits up
  have most' := fits down
  refine Nat.min_eq_left ?_
  unfold maxField at most most'
  unfold Count.top
  dsimp only
  omega

end Quota

namespace Alert

/-! ## Thresholds -/

/-- The greatest threshold that usage has reached. -/
structure Reaches (thresholds : List Level) (used : Traffic) (limit : Count) (level : Level) :
    Prop where
  threshold : level ∈ thresholds
  reached : level.toNat * limit.toNat ≤ 100 * (used.upload.toNat + used.download.toNat)
  greatest : ∀ other ∈ thresholds,
    other.toNat * limit.toNat ≤ 100 * (used.upload.toNat + used.download.toNat) → other ≤ level

theorem Reaches.unique {thresholds : List Level} {used : Traffic} {limit : Count}
    {level level' : Level} (h : Reaches thresholds used limit level)
    (h' : Reaches thresholds used limit level') : level = level' :=
  UInt8.le_antisymm (h'.greatest _ h.threshold h.reached) (h.greatest _ h'.threshold h'.reached)

/-- The search starts at the top, so it passes over thresholds that are not reached only. -/
theorem Settings.greatest_of_levelFor {c : Settings} (ascending : c.thresholds.Pairwise (· < ·))
    {percent : Nat} {level : Level} (found : c.levelFor percent = some level) :
    level ∈ c.thresholds ∧ level.toNat ≤ percent ∧
      ∀ other ∈ c.thresholds, other.toNat ≤ percent → other ≤ level := by
  unfold levelFor at found
  obtain ⟨fits, above, below, split, missed⟩ := List.find?_eq_some_iff_append.1 found
  have descending : (above ++ level :: below).Pairwise (· > ·) :=
    split ▸ List.pairwise_reverse.2 ascending
  refine ⟨List.mem_reverse.1 (List.mem_of_find?_eq_some found), of_decide_eq_true fits, ?_⟩
  intro other member reached
  have member : other ∈ above ++ level :: below := split ▸ List.mem_reverse.2 member
  rcases List.mem_append.1 member with passed | member
  · exact absurd reached (by simpa using missed other passed)
  · rcases List.mem_cons.1 member with rfl | later
    · exact UInt8.le_refl _
    · have lower := (List.pairwise_append.1 descending).2.1
      exact UInt8.le_of_lt (List.rel_of_pairwise_cons lower later)

/-- What is found is the greatest threshold that is not above a percentage. -/
theorem Settings.levelFor_eq_some_iff {c : Settings} (ascending : c.thresholds.Pairwise (· < ·))
    {percent : Nat} {level : Level} : c.levelFor percent = some level ↔
      level ∈ c.thresholds ∧ level.toNat ≤ percent ∧
        ∀ other ∈ c.thresholds, other.toNat ≤ percent → other ≤ level := by
  refine ⟨greatest_of_levelFor ascending, fun ⟨member, fits, greatest⟩ => ?_⟩
  cases found : c.levelFor percent with
  | none =>
    have missed := List.find?_eq_none.1 found level (List.mem_reverse.2 member)
    exact absurd (decide_eq_true fits) missed
  | some level' =>
    obtain ⟨member', fits', greatest'⟩ := greatest_of_levelFor ascending found
    exact congrArg some (UInt8.le_antisymm (greatest _ member' fits') (greatest' _ member fits))

theorem any_le_eq_false_iff {previous : Option Level} {level : Level} :
    previous.any (level ≤ ·) = false ↔ ∀ p ∈ previous, p < level := by
  cases previous with
  | none => simp
  | some p => simp [UInt8.not_le]

/-- The level that a percentage reaches is the greatest threshold reached by what is used. -/
theorem levelFor_eq_some_iff_reaches {c : Settings} {status : Quota.Status} {limit : Count}
    (ascending : c.thresholds.Pairwise (· < ·))
    (total : status.used.total.toNat = status.used.upload.toNat + status.used.download.toNat)
    (known : status.limit = some limit) (finite : 0 < limit.toNat) {percent : Nat}
    (told : status.percent = some percent) {level : Level} :
    c.levelFor percent = some level ↔ Reaches c.thresholds status.used limit level := by
  have reached (level : Level) : level.toNat ≤ percent ↔
      level.toNat * limit.toNat ≤
        100 * (status.used.upload.toNat + status.used.download.toNat) := by
    have small := level.toNat_lt
    rw [Quota.Status.le_percent_iff known finite told (by unfold Count.top; omega), total]
  rw [Settings.levelFor_eq_some_iff ascending]
  simp only [reached]
  exact ⟨fun ⟨a, b, c⟩ => ⟨a, b, c⟩, fun ⟨a, b, c⟩ => ⟨a, b, c⟩⟩

end Alert

/-! ## Undisturbed programs -/

/-- What is read of some records is what it was. -/
def World.ReadsSame (keys : List String) (w w' : World) : Prop :=
  ∀ key ∈ keys, Side.Store.fields w'.side w'.now key = Side.Store.fields w.side w.now key

section Undisturbed

variable {keys : List String} {key : String} {w : World}

theorem World.ReadsSame.trans {w' w'' : World} (h : w.ReadsSame keys w')
    (h' : w'.ReadsSame keys w'') : w.ReadsSame keys w'' :=
  fun key member => (h' key member).trans (h key member)

theorem always_read (member : key ∈ keys) :
    Program.Always World.answer (World.ReadsSame keys) (Task.side (.fields key)).run w
      fun result t => result = .ok (Side.Store.fields w.side w.now key) ∧ w.ReadsSame keys t :=
  Program.Always.ask fun _ same => ⟨congrArg Except.ok (same key member), same⟩

/-- The usage that a record tells, if it is there. -/
def Quota.known (fields : Side.Fields) : Except Error (Option Status) :=
  if fields.isEmpty then .ok none else (statusOf fields).map some

theorem always_status {c : Quota.Settings} {s : Id} (member : c.key s ∈ keys) :
    Program.Always World.answer (World.ReadsSame keys) (Quota.status c s).run w
      fun result t =>
        result = Quota.known (w.side.fields w.now (c.key s)) ∧ w.ReadsSame keys t := by
  unfold Quota.status Quota.known
  refine Program.Always.task_bind ((always_read member).mono ?_)
  rintro _ t ⟨rfl, same⟩
  dsimp only
  split
  · exact ⟨rfl, same⟩
  · cases Quota.statusOf (w.side.fields w.now (c.key s)) with
    | ok status => exact ⟨rfl, same⟩
    | error e => exact ⟨rfl, same⟩

namespace Alert

variable {c : Settings} {s : Id} {previous : Option Level} {status : Quota.Status} {limit : Count}
  {level : Level}

theorem always_current (member : c.key s ∈ keys)
    (stored : (w.side.fields w.now (c.key s))[levelField]? = previous.map fieldText) :
    Program.Always World.answer (World.ReadsSame keys) (current c s).run w
      fun result t => result = .ok previous ∧ w.ReadsSame keys t := by
  unfold current
  refine Program.Always.task_bind ((always_read member).mono ?_)
  rintro _ t ⟨rfl, same⟩
  dsimp only
  rw [stored]
  cases previous with
  | none => exact ⟨rfl, same⟩
  | some level =>
    simp only [Option.map_some, parseLevel_fieldText]
    exact ⟨rfl, same⟩

/-- A swap that finds what was read writes the level, and the alert tells it. -/
theorem always_swapping (member : c.key s ∈ keys)
    (stored : (w.side.fields w.now (c.key s))[levelField]? = previous.map fieldText) :
    Program.Always World.answer (World.ReadsSame keys)
      (swapping c s status limit level previous) w fun result t =>
        result = .ok (some ⟨s, level, previous, status.used, limit⟩) ∧
        t.side[c.key s]? = some
          ⟨(w.side.fields w.now (c.key s)).insert levelField (fieldText level),
            t.now.addNanos (Side.boundedSpan c.lifespan 0)⟩ := by
  unfold swapping
  refine Program.Always.task_bind (Program.Always.ask fun t same => ?_)
  have read := same (c.key s) member
  unfold World.answer Side.Store.answer Side.Store.swap
  simp only [read, stored, if_pos]
  exact ⟨rfl, by simp [Side.Store.write]⟩

/-- An evaluation for a finite allowance: it ends where no threshold is reached, or none above the
level in the record, and raises an alert otherwise. -/
theorem always_evaluate (member : c.key s ∈ keys)
    (stored : (w.side.fields w.now (c.key s))[levelField]? = previous.map fieldText)
    (known : status.limit = some limit) {percent : Nat} (told : status.percent = some percent) :
    Program.Always World.answer (World.ReadsSame keys) (evaluate c s status).run w
      fun result t =>
        (result = .ok none ∧ w.ReadsSame keys t ∧
          ∀ level, c.levelFor percent = some level → previous.any (level ≤ ·) = true) ∨
        ∃ level, c.levelFor percent = some level ∧ previous.any (level ≤ ·) = false ∧
          result = .ok (some ⟨s, level, previous, status.used, limit⟩) ∧
          t.side[c.key s]? = some
            ⟨(w.side.fields w.now (c.key s)).insert levelField (fieldText level),
              t.now.addNanos (Side.boundedSpan c.lifespan 0)⟩ := by
  unfold evaluate
  cases reached : c.levelFor percent with
  | none =>
    simp only [known, told, reached]
    exact .inl ⟨rfl, fun _ _ => rfl, nofun⟩
  | some level =>
    simp only [known, told, reached]
    refine Program.Always.task_bind ((always_current member stored).mono ?_)
    rintro _ t ⟨rfl, same⟩
    dsimp only
    cases above : previous.any (level ≤ ·) with
    | true =>
      refine .inl ⟨rfl, same, fun _ found => ?_⟩
      cases found
      exact above
    | false =>
      -- no one else has changed the record since it was read, so the swap finds what it expects
      have read := same (c.key s) member
      refine (always_swapping member (read ▸ stored)).mono ?_
      rintro _ t' ⟨rfl, written⟩
      exact .inr ⟨level, rfl, above, rfl, read ▸ written⟩

end Alert

theorem Quota.statusOf_of_known {fields : Side.Fields} {status : Status}
    (told : known fields = .ok (some status)) : statusOf fields = .ok status := by
  unfold known at told
  split at told
  · cases told
  · cases read : statusOf fields with
    | ok status' =>
      rw [read] at told
      cases told
      rfl
    | error e =>
      rw [read] at told
      cases told

end Undisturbed

namespace Ledger

open Alert (Reaches fieldText levelField)

/-- A check of a subscription whose two records no one else changes raises an alert if, and only if,
usage has reached a threshold, in exact numbers, and the greatest of these is above the level in the
record. The alert tells that threshold, the level before, the usage and the allowance; the record
then holds the threshold, and otherwise stays as it was. And an allowance is used up when nothing
remains of it, which is from 100 percent on. -/
theorem checkQuota_alerts {l : Ledger} {s : Id} {w : World} {status : Quota.Status} {limit : Count}
    {stored : Option Alert.Level} (ascending : l.alert.thresholds.Pairwise (· < ·))
    (reported : ((Quota.status l.quota s).run.settle World.answer w).1 = .ok (some status))
    (known : status.limit = some limit) (finite : 0 < limit.toNat)
    (level : (w.side.fields w.now (l.alert.key s))[levelField]? = stored.map fieldText) :
    Program.Always World.answer (World.ReadsSame [l.quota.key s, l.alert.key s])
      (l.checkQuota s).run w (fun result t => ∃ notice?, result = .ok notice? ∧
        (notice?.isSome = true ↔ ∃ level, Reaches l.alert.thresholds status.used limit level ∧
          ∀ p ∈ stored, p < level) ∧
        (∀ notice ∈ notice?, Reaches l.alert.thresholds status.used limit notice.level ∧
          notice = ⟨s, notice.level, stored, status.used, limit⟩ ∧
          t.side[l.alert.key s]? = some
            ⟨(w.side.fields w.now (l.alert.key s)).insert levelField (fieldText notice.level),
              t.now.addNanos (Side.boundedSpan l.alert.lifespan 0)⟩) ∧
        (notice? = none → w.ReadsSame [l.alert.key s] t)) ∧
    ∀ (status : Quota.Status) (limit : Count), status.limit = some limit → 0 < limit.toNat →
      (status.exceeded = true ↔ status.remaining = some 0) ∧
      (status.exceeded = true ↔ ∃ percent, status.percent = some percent ∧ 100 ≤ percent) := by
  refine ⟨?_, fun status limit known finite =>
    ⟨status.exceeded_iff_remaining, Quota.Status.exceeded_iff_percent known finite⟩⟩
  have quotaMember : l.quota.key s ∈ [l.quota.key s, l.alert.key s] := List.mem_cons_self
  have alertMember : l.alert.key s ∈ [l.quota.key s, l.alert.key s] :=
    List.mem_cons_of_mem _ List.mem_cons_self
  -- the check begins with the same read as a plain question for the usage
  have usage : Quota.known (w.side.fields w.now (l.quota.key s)) = .ok (some status) :=
    (Program.Always.settle (fun _ _ _ => rfl) (always_status quotaMember)).1.symm.trans reported
  have told := Quota.Status.percent_eq known finite
  have total := Quota.toNat_total_of_statusOf (Quota.statusOf_of_known usage)
  have reaches (level : Alert.Level) :
      l.alert.levelFor _ = some level ↔ Reaches l.alert.thresholds status.used limit level :=
    Alert.levelFor_eq_some_iff_reaches ascending total known finite told
  unfold checkQuota
  refine Program.Always.task_bind ((always_status quotaMember).mono ?_)
  rintro _ t ⟨rfl, same⟩
  rw [usage]
  have read := same _ alertMember
  refine (Alert.always_evaluate alertMember (read ▸ level) known told).mono ?_
  rintro _ t' (⟨rfl, same', covered⟩ | ⟨raised, found, above, rfl, written⟩)
  · refine ⟨none, rfl, iff_of_false nofun ?_, nofun, fun _ key member => ?_⟩
    · rintro ⟨level, reached, above⟩
      have stays := covered level ((reaches level).2 reached)
      rw [Alert.any_le_eq_false_iff.2 above] at stays
      cases stays
    · rw [List.mem_singleton.1 member]
      exact (same.trans same') _ alertMember
  · have reached := (reaches raised).1 found
    refine ⟨_, rfl, iff_of_true rfl ⟨raised, reached, Alert.any_le_eq_false_iff.1 above⟩, ?_, nofun⟩
    rintro _ ⟨⟩
    exact ⟨reached, rfl, read ▸ written⟩

/-- Of 1000 bytes just 900 are used, and the last alert was for 80 percent: the next one is for 90.
Nothing remains of an allowance of which 1000 of 1000 bytes are used. -/
theorem checkQuota_at_ninety :
    let zone : Zone := { offset := 28800 }
    let l : Ledger := {
      config := {}, zone, compaction := ⟨zone, 86400000000000, {}⟩
      query := ⟨zone, 86400000000000, {}, .passthrough⟩
      quota := ⟨"traffic", 2678400000000000⟩
      alert := ⟨"traffic", [80, 90, 100], 2678400000000000⟩ }
    let expiry : Instant := .ofSeconds 1709269800
    let quota : Side.Fields := .ofList [("limit", "1000"), ("used_u", "650"), ("used_d", "250")]
    let side : Side.Store := (∅ : Side.Store).insert (l.quota.key 7) ⟨quota, expiry⟩
      |>.insert (l.alert.key 7) ⟨.ofList [("level", "80")], expiry⟩
    let w : World := { now := .ofSeconds 1709266200, hot := l.emptyHotStore, side }
    let status : Quota.Status := ⟨some (.ofNat 1000), .ofNats 650 250⟩
    let full : Quota.Status := ⟨some (.ofNat 1000), .ofNats 600 400⟩
    ((Quota.status l.quota 7).run.settle World.answer w).1 = .ok (some status) ∧
      (w.side.fields w.now (l.alert.key 7))[levelField]? =
        (some 80 : Option Alert.Level).map fieldText ∧
      Program.Always World.answer (World.ReadsSame [l.quota.key 7, l.alert.key 7])
        (l.checkQuota 7).run w (fun result t =>
          result = .ok (some ⟨7, 90, some 80, .ofNats 650 250, .ofNat 1000⟩) ∧
          (t.recorded (l.alert.key 7))[levelField]? = some "90") ∧
      (full.remaining = some 0 ∧ ∃ percent, full.percent = some percent ∧ 100 ≤ percent) := by
  intro zone l expiry quota side w status full
  have reported : ((Quota.status l.quota 7).run.settle World.answer w).1 = .ok (some status) := by
    decide +kernel
  have stored : (w.side.fields w.now (l.alert.key 7))[levelField]? =
      (some 80 : Option Alert.Level).map fieldText := by decide +kernel
  have ascending : l.alert.thresholds.Pairwise (· < ·) := by decide
  have reached : Reaches l.alert.thresholds status.used (.ofNat 1000) 90 :=
    ⟨by decide, by decide, by decide +kernel⟩
  obtain ⟨raises, used⟩ := checkQuota_alerts ascending reported rfl (by decide) stored
  obtain ⟨nothing, percent⟩ := used full (.ofNat 1000) rfl (by decide)
  have spent : full.exceeded = true := by decide +kernel
  refine ⟨reported, stored, raises.mono ?_, nothing.1 spent, percent.1 spent⟩
  rintro _ t ⟨notice?, rfl, called, told, -⟩
  have above : ∀ p ∈ (some 80 : Option Alert.Level), p < 90 := by
    rintro _ ⟨⟩
    decide
  obtain ⟨notice, rfl⟩ := Option.isSome_iff_exists.1 (called.2 ⟨90, reached, above⟩)
  obtain ⟨reached', tells, written⟩ := told notice rfl
  have same : notice.level = 90 := reached'.unique reached
  constructor
  · rw [tells, same]
  · have text : fieldText 90 = "90" := by decide +kernel
    unfold World.recorded
    rw [written, same, text]
    simp

end Ledger

end Metering
