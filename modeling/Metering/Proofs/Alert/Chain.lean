import Metering.Proofs.Alert.Race

/-!
# Alerts climb

However many evaluations of a subscription race, the alerts between two resets form a chain: each
names the level of the one before it, which is what its swap found in the record. So levels climb
strictly, and no threshold is told twice. Nothing is asked of the thresholds.

Results: `alerts_climb`, by `Chained.concat` for a swap that wins and `Race.Keeps.step` for whatever
happens next.
-/

namespace Metering.Alert

/-! ## Chains -/

/-- The alerts of a subscription since its last reset, each with the status that its evaluation was
given. -/
def Event.extend (s : Id) (alerts : List (Quota.Status × Notice)) :
    Event → List (Quota.Status × Notice)
  | .reset t => if t = s then [] else alerts
  | .returned t status (.ok (some notice)) =>
    if t = s then alerts ++ [(status, notice)] else alerts
  | .returned .. => alerts

/-- The alerts of a subscription since its last reset, in the order of their swaps. -/
def alertsOf (s : Id) (log : List Event) : List (Quota.Status × Notice) :=
  log.foldl (Event.extend s) []

/-- The level of the last alert. -/
def lastLevel (alerts : List (Quota.Status × Notice)) : Option Level :=
  alerts.getLast?.map fun alert => alert.2.level

/-- Each alert is called for, names the level of the one before it, and is above that. -/
structure Chained (c : Settings) (s : Id) (alerts : List (Quota.Status × Notice)) : Prop where
  linked : alerts.map (fun alert => alert.2.previous) ++ [lastLevel alerts] =
    none :: alerts.map fun alert => some alert.2.level
  climbs : (alerts.map fun alert => alert.2.level).Pairwise (· < ·)
  due : ∀ alert ∈ alerts, Due c alert.1 alert.2.limit alert.2.level
  tells : ∀ alert ∈ alerts, alert.2.subscription = s ∧ alert.2.used = alert.1.used

theorem alertsOf_concat (s : Id) (log : List Event) (event : Event) :
    alertsOf s (log ++ [event]) = event.extend s (alertsOf s log) := by
  unfold alertsOf
  rw [List.foldl_append]
  rfl

theorem lastLevel_concat (alerts : List (Quota.Status × Notice)) (status : Quota.Status)
    (notice : Notice) : lastLevel (alerts ++ [(status, notice)]) = some notice.level := by
  unfold lastLevel
  rw [List.getLast?_concat]
  rfl

variable {c : Settings} {s : Id}

theorem Chained.nil : Chained c s [] where
  linked := rfl
  climbs := .nil
  due _ := nofun
  tells _ := nofun

/-- All levels are at most the last. -/
theorem Chained.le_last {alerts : List (Quota.Status × Notice)} (h : Chained c s alerts)
    {last : Level} (is_last : lastLevel alerts = some last) :
    ∀ alert ∈ alerts, alert.2.level ≤ last := by
  intro alert member
  have climbs := h.climbs
  obtain ⟨final, found, rfl⟩ := Option.map_eq_some_iff.1 is_last
  obtain ⟨initial, rfl⟩ := List.getLast?_eq_some_iff.1 found
  rw [List.map_append, List.pairwise_append] at climbs
  rcases List.mem_append.1 member with member | member
  · exact UInt8.le_of_lt (climbs.2.2 _ (List.mem_map_of_mem member) _ List.mem_cons_self)
  · rw [List.mem_singleton.1 member]
    exact UInt8.le_refl _

/-- An alert that names the last level and is above it carries the chain on. -/
theorem Chained.concat {alerts : List (Quota.Status × Notice)} (h : Chained c s alerts)
    {status : Quota.Status} {notice : Notice} (link : notice.previous = lastLevel alerts)
    (above : notice.previous.any (notice.level ≤ ·) = false)
    (due : Due c status notice.limit notice.level)
    (tells : notice.subscription = s ∧ notice.used = status.used) :
    Chained c s (alerts ++ [(status, notice)]) where
  linked := by
    rw [lastLevel_concat, List.map_append, List.map_append, ← List.cons_append, ← h.linked, ← link]
    rfl
  climbs := by
    rw [List.map_append, List.pairwise_append]
    refine ⟨h.climbs, List.pairwise_singleton _ _, fun level member level' last => ?_⟩
    obtain ⟨alert, present, rfl⟩ := List.mem_map.1 member
    rw [List.mem_singleton.1 last]
    cases stored : lastLevel alerts with
    | none =>
      rw [lastLevel, Option.map_eq_none_iff, List.getLast?_eq_none_iff] at stored
      subst stored
      cases present
    | some top =>
      rw [link, stored] at above
      exact UInt8.lt_of_le_of_lt (h.le_last stored alert present)
        (UInt8.not_le.1 (of_decide_eq_false above))
  due alert member := by
    rcases List.mem_append.1 member with member | member
    · exact h.due alert member
    · rw [List.mem_singleton.1 member]
      exact due
  tells alert member := by
    rcases List.mem_append.1 member with member | member
    · exact h.tells alert member
    · rw [List.mem_singleton.1 member]
      exact tells

/-! ## Races -/

namespace Race

/-- What a race keeps for a subscription: its alerts are a chain, its record holds the last level,
and its evaluations could read that. -/
structure Keeps (c : Settings) (s : Id) (r : Race) : Prop where
  chained : Chained c s (alertsOf s r.log)
  stored : (r.world.recorded (c.key s))[levelField]? =
    (lastLevel (alertsOf s r.log)).map fieldText
  callers : ∀ caller ∈ r.callers, Stands c caller.subscription caller.status caller.rest
  results : ∀ status result, .returned s status result ∈ r.log → ∃ notice?, result = .ok notice?

variable {r : Race} {world : World}

theorem extend_returned_some (status : Quota.Status) (notice : Notice)
    (alerts : List (Quota.Status × Notice)) :
    (Event.returned s status (.ok (some notice))).extend s alerts = alerts ++ [(status, notice)] :=
  if_pos rfl

theorem extend_of_ne {t : Id} (other : t ≠ s) (status : Quota.Status)
    (result : Except Error (Option Notice)) (alerts : List (Quota.Status × Notice)) :
    (Event.returned t status result).extend s alerts = alerts := by
  unfold Event.extend
  split
  · next same => cases same
  · next same =>
    cases same
    exact if_neg other
  · rfl

/-- An evaluation that has ended returns: nothing changes but for what it tells. -/
theorem Keeps.returns (h : r.Keeps c s) {number : Nat} {t : Id} {status : Quota.Status}
    {result : Except Error (Option Notice)}
    (readable : t = s → ∃ notice?, result = .ok notice?)
    (chained : Chained c s ((Event.returned t status result).extend s (alertsOf s r.log)))
    (stored : (world.recorded (c.key s))[levelField]? =
      (lastLevel ((Event.returned t status result).extend s (alertsOf s r.log))).map fieldText) :
    Keeps c s ⟨world, r.callers.eraseIdx number, r.log ++ [.returned t status result]⟩ where
  chained := by
    rw [alertsOf_concat]
    exact chained
  stored := by
    rw [alertsOf_concat]
    exact stored
  callers caller member := h.callers caller (List.mem_of_mem_eraseIdx member)
  results status' result' member := by
    rcases List.mem_append.1 member with member | member
    · exact h.results status' result' member
    · cases List.mem_singleton.1 member
      exact readable rfl

/-- An evaluation has one request behind it. -/
theorem Keeps.goesOn (h : r.Keeps c s) {number : Nat} {caller : Caller}
    {rest : Procedure (Except Error (Option Notice))}
    (stands : Stands c caller.subscription caller.status rest) :
    Keeps c s ⟨r.world, r.callers.set number { caller with rest }, r.log⟩ where
  chained := h.chained
  stored := h.stored
  callers caller' member := by
    rcases List.mem_or_eq_of_mem_set member with member | rfl
    · exact h.callers caller' member
    · exact stands
  results := h.results

/-- The level that an evaluation reads is the last one. -/
theorem Keeps.storedLevel (h : r.Keeps c s) (spared : r.world.Spares (c.key s) r.world) :
    Alert.storedLevel (r.world.side.fields r.world.now (c.key s)) =
      .ok (lastLevel (alertsOf s r.log)) := by
  unfold Alert.storedLevel
  rw [spared.fields, h.stored]
  cases lastLevel (alertsOf s r.log) with
  | none => rfl
  | some level =>
    simp only [Option.map_some, parseLevel_fieldText]
    rfl

/-- The first move of an evaluation keeps what a race keeps. -/
theorem Keeps.move_evaluate (h : r.Keeps c s) (spared : r.world.Spares (c.key s) r.world)
    {number : Nat} {caller : Caller} (found : r.callers[number]? = some caller)
    (begins : caller.rest = (evaluate c caller.subscription caller.status).run) :
    (r.move number).Keeps c s := by
  have nothing : Keeps c s ⟨r.world, r.callers.eraseIdx number,
      r.log ++ [.returned caller.subscription caller.status (.ok none)]⟩ :=
    h.returns (fun _ => ⟨_, rfl⟩) h.chained h.stored
  obtain moved | ⟨limit, level, due, moved⟩ :=
    Alert.move_evaluate c caller.subscription caller.status r.world
  · rw [move_eq found (begins ▸ moved)]
    exact nothing
  · rw [move_eq found (begins ▸ moved)]
    cases read : Alert.storedLevel
        (r.world.side.fields r.world.now (c.key caller.subscription)) with
    | error e =>
      -- the record of `s` can be read, so this is another one
      have other : caller.subscription ≠ s := fun own => by
        rw [own, h.storedLevel spared] at read
        cases read
      refine h.returns (fun own => absurd own other) ?_ ?_
      · rw [extend_of_ne other]
        exact h.chained
      · rw [extend_of_ne other]
        exact h.stored
    | ok previous =>
      cases above : previous.any (level ≤ ·) with
      | true =>
        simp only [above]
        exact nothing
      | false =>
        simp only [above]
        exact h.goesOn (.swaps due above rfl)

/-- The last move of an evaluation keeps what a race keeps, as a swap that wins carries the chain
on. -/
theorem Keeps.move_swapping (h : r.Keeps c s) (spared : r.world.Spares (c.key s) r.world)
    {number : Nat} {caller : Caller} (found : r.callers[number]? = some caller) {limit : Count}
    {level : Level} {previous : Option Level} (due : Due c caller.status limit level)
    (above : previous.any (level ≤ ·) = false)
    (swaps : caller.rest = swapping c caller.subscription caller.status limit level previous) :
    (r.move number).Keeps c s := by
  rw [move_eq found (swaps ▸ Alert.move_swapping limit level previous r.world)]
  by_cases own : caller.subscription = s
  · have recorded := recorded_swap spared levelField (previous.map fieldText) (fieldText level)
      c.lifespan
    rw [own, spared.fields, h.stored]
    rw [h.stored] at recorded
    by_cases same : (lastLevel (alertsOf s r.log)).map fieldText = previous.map fieldText
    · -- the swap found what was read, so what was read is the last level
      have link : previous = lastLevel (alertsOf s r.log) :=
        (Option.map_injective (fun _ _ => fieldText_inj) same).symm
      rw [if_pos same] at recorded ⊢
      refine h.returns (fun _ => ⟨_, rfl⟩) ?_ ?_
      · rw [extend_returned_some]
        exact h.chained.concat link above due ⟨rfl, rfl⟩
      · rw [extend_returned_some, lastLevel_concat, recorded]
        simp
    · rw [if_neg same] at recorded ⊢
      refine h.returns (fun _ => ⟨_, rfl⟩) h.chained ?_
      rw [recorded]
      exact h.stored
  · have elsewhere : Request.IsElsewhere (c.key s) (.side (.swap (c.key caller.subscription)
        levelField (previous.map fieldText) (fieldText level) c.lifespan)) :=
      fun same => own (c.key_inj same)
    refine h.returns (fun _ => ⟨_, rfl⟩) ?_ ?_
    · rw [extend_of_ne own]
      exact h.chained
    · rw [extend_of_ne own]
      exact (congrArg (·[levelField]?) (recorded_answer _ elsewhere r.world)).trans h.stored

/-- A move of any evaluation keeps what a race keeps. -/
theorem Keeps.move (h : r.Keeps c s) (spared : r.world.Spares (c.key s) r.world) (number : Nat) :
    (r.move number).Keeps c s := by
  cases found : r.callers[number]? with
  | none =>
    have idle : r.move number = r := by
      unfold Race.move
      rw [found]
    rw [idle]
    exact h
  | some caller =>
    cases h.callers caller (List.mem_of_getElem? found) with
    | begins all => exact h.move_evaluate spared found all
    | swaps due above last => exact h.move_swapping spared found due above last

/-- A reset begins a new chain, and leaves those of other subscriptions alone. -/
theorem Keeps.reset (h : r.Keeps c s) (t : Id) : (r.step c (.reset t)).Keeps c s := by
  have results : ∀ status result,
      .returned s status result ∈ r.log ++ [.reset t] → ∃ notice?, result = .ok notice? := by
    intro status result member
    rcases List.mem_append.1 member with member | member
    · exact h.results status result member
    · cases List.mem_singleton.1 member
  by_cases own : t = s
  · have forgotten : alertsOf s (r.log ++ [.reset t]) = [] := by
      rw [alertsOf_concat]
      exact if_pos own
    have deleted : (r.step c (.reset t)).world.recorded (c.key s) = ∅ := by
      subst own
      exact recorded_delete r.world
    refine ⟨forgotten.symm ▸ .nil, ?_, h.callers, results⟩
    change ((r.step c (.reset t)).world.recorded (c.key s))[levelField]? =
      (lastLevel (alertsOf s (r.log ++ [.reset t]))).map fieldText
    rw [deleted, forgotten]
    exact Std.ExtTreeMap.getElem?_empty
  · have same : alertsOf s (r.log ++ [.reset t]) = alertsOf s r.log := by
      rw [alertsOf_concat]
      exact if_neg own
    have elsewhere : Request.IsElsewhere (c.key s) (.side (.delete (c.key t))) :=
      fun same => own (c.key_inj same)
    refine ⟨same.symm ▸ h.chained, ?_, h.callers, results⟩
    change ((World.answer (.side (.delete (c.key t))) r.world).2.recorded (c.key s))[levelField]? =
      (lastLevel (alertsOf s (r.log ++ [.reset t]))).map fieldText
    rw [recorded_answer _ elsewhere, same]
    exact h.stored

/-- Whatever happens next keeps what a race keeps. -/
theorem Keeps.step (h : r.Keeps c s) {choice : Choice} (fits : r.Fits (c.key s) choice) :
    (r.step c choice).Keeps c s := by
  cases choice with
  | evaluate t status =>
    refine ⟨h.chained, h.stored, fun caller member => ?_, h.results⟩
    rcases List.mem_append.1 member with member | member
    · exact h.callers caller member
    · rw [List.mem_singleton.1 member]
      exact .begins rfl
  | move number => exact h.move fits number
  | reset t => exact h.reset t
  | others world =>
    refine ⟨h.chained, ?_, h.callers, h.results⟩
    exact (congrArg (·[levelField]?) (World.Spares.recorded fits)).trans h.stored

theorem Keeps.play (h : r.Keeps c s) {schedule : List Choice}
    (fits : r.FitsAll c (c.key s) schedule) : (r.play c schedule).Keeps c s := by
  induction schedule generalizing r with
  | nil => exact h
  | cons choice schedule ih => exact ih (h.step fits.1) fits.2

end Race

/-- However many evaluations race, in any order and with any status: since the last reset of a
subscription, the alerts that its evaluations returned have strictly climbing levels, each names the
level of the one before it, each level is a threshold that the usage of its evaluation had reached,
and the record holds the level of the last. No threshold is told twice, and no evaluation fails. -/
theorem alerts_climb {c : Settings} {s : Id} {w : World} (fresh : w.side[c.key s]? = none)
    {schedule : List Choice} (fits : (Race.mk w [] []).FitsAll c (c.key s) schedule) {r : Race}
    (reached : (Race.mk w [] []).play c schedule = r) {alerts : List (Quota.Status × Notice)}
    (told : alertsOf s r.log = alerts) :
    (alerts.map fun alert => alert.2.level).Pairwise (· < ·) ∧
    alerts.map (fun alert => alert.2.previous) ++ [lastLevel alerts] =
      none :: (alerts.map fun alert => some alert.2.level) ∧
    (∀ alert ∈ alerts, (alert.2.subscription = s ∧ alert.2.used = alert.1.used ∧
        alert.1.limit = some alert.2.limit) ∧ alert.2.level ∈ c.thresholds ∧
      ∃ percent, alert.1.percent = some percent ∧ alert.2.level.toNat ≤ percent) ∧
    (r.world.recorded (c.key s))[levelField]? = (lastLevel alerts).map fieldText ∧
    (∀ status result, .returned s status result ∈ r.log → ∃ notice?, result = .ok notice?) ∧
    (alerts.map fun alert => alert.2.level).Nodup := by
  have start : (Race.mk w [] []).Keeps c s := by
    refine ⟨.nil, ?_, fun _ => nofun, fun _ _ => nofun⟩
    unfold World.recorded
    rw [fresh]
    exact Std.ExtTreeMap.getElem?_empty
  have keeps := start.play fits
  rw [reached] at keeps
  obtain ⟨chained, stored, -, results⟩ := keeps
  rw [told] at chained stored
  refine ⟨chained.climbs, chained.linked, fun alert member => ?_, stored, results, ?_⟩
  · have due := chained.due alert member
    obtain ⟨own, used⟩ := chained.tells alert member
    exact ⟨⟨own, used, due.limit⟩, due.mem_thresholds⟩
  · exact chained.climbs.imp fun below => UInt8.ne_of_lt below

/-- Two evaluations read no level. The one with less usage swaps second and loses; a third, later
one names the level of the winner. -/
theorem alerts_of_three :
    let c : Settings := ⟨"traffic", [80, 90, 100], 2678400000000000⟩
    let status (used : Nat) : Quota.Status := ⟨some (.ofNat 1000), .ofNats used 0⟩
    let w : World := { now := .ofSeconds 1709266200, hot := { lifespan := 0 } }
    let first := (Race.mk w [] []).play c [.evaluate 1 (status 850), .evaluate 1 (status 950),
      .move 0, .move 1, .move 1, .move 0]
    let later : World := { first.world with now := .ofSeconds 1709269800 }
    let schedule : List Choice := [
      .evaluate 1 (status 850), .evaluate 1 (status 950), .move 0, .move 1, .move 1, .move 0,
      .others later, .evaluate 1 (status 1000), .move 0, .move 0]
    let r := (Race.mk w [] []).play c schedule
    let alerts : List (Quota.Status × Notice) := [
      (status 950, ⟨1, 90, none, .ofNats 950 0, .ofNat 1000⟩),
      (status 1000, ⟨1, 100, some 90, .ofNats 1000 0, .ofNat 1000⟩)]
    alertsOf 1 r.log = alerts ∧ (Race.mk w [] []).FitsAll c (c.key 1) schedule ∧
      (alerts.map fun alert => alert.2.level).Nodup ∧
      (r.world.recorded (c.key 1))[levelField]? = (lastLevel alerts).map fieldText := by
  intro c status w first later schedule r alerts
  have told : alertsOf 1 r.log = alerts := by decide +kernel
  have fits : (Race.mk w [] []).FitsAll c (c.key 1) schedule := by
    refine ⟨⟨rfl, ?_⟩, ⟨rfl, ?_⟩, ⟨rfl, ?_⟩, ⟨rfl, ?_⟩, ⟨rfl, ?_⟩, ⟨rfl, ?_⟩, ⟨rfl, ?_⟩, ⟨rfl, ?_⟩,
      ⟨rfl, ?_⟩, ⟨rfl, ?_⟩, trivial⟩ <;> decide +kernel
  obtain ⟨-, -, -, stored, -, once⟩ := alerts_climb Std.ExtTreeMap.getElem?_empty fits rfl told
  exact ⟨told, fits, once, stored⟩

end Metering.Alert
