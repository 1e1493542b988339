import Metering.Proofs.Service.Restarts

/-!
# The budget of restarts

The life of a supervisor is a sequence of operations, in any order, between which services may change
their statuses as they like. The restarts of a service are counted from its registration on, and each
was allowed when it was made. So a service under a limit is never started again more often than that,
the delays grow with the number of the restart, and a service without restarts is left alone.

Results:
1. `Supervisor.Accounts.meet`, `Supervisor.Accounts.play`: the accounts agree with the restarts that
   were made, over one event and over a whole life.
2. `Supervisor.restarts_in_budget`: what a call for restarts does, after any life.
3. `Supervisor.restarts_running`: a call that starts a service again which is running by then.
-/

namespace Metering.Service

/-- What can happen to a supervisor. -/
inductive Event
  | register (name : String) (script : Script)
  | startAll
  | start (name : String)
  | wait (ms : Nat)
  /-- A service says something else of itself. -/
  | report (name : String) (status : Status)
  | shutdown
  | restartFailed

namespace Supervisor

/-- A service has another status. -/
def report (s : Supervisor) (name : String) (status : Status) : Supervisor :=
  { s with slots := s.slots.modify name fun slot => { slot with status } }

/-- The services that an event starts again, and the supervisor after it. What is refused changes
nothing. -/
def meet (s : Supervisor) : Event → List String × Supervisor
  | .register name script => ([], (s.register name script).toOption.getD s)
  | .startAll => ([], s.startAll.toOption.getD s)
  | .start name => ([], (s.start name).toOption.getD s)
  | .wait ms => ([], s.wait ms)
  | .report name status => ([], s.report name status)
  | .shutdown => ([], s.shutdown)
  | .restartFailed => s.restartFailed

/-- The services that were started again over a life, from the first restart on, and the supervisor
at its end. -/
def play : List Event → Supervisor → List String × Supervisor
  | [], s => ([], s)
  | event :: later, s =>
    let (names, s) := s.meet event
    let (others, s) := play later s
    (names ++ others, s)

/-! ## Other operations -/

/-- No restart is made and no service is told to stop. -/
structure Leaves (s s' : Supervisor) : Prop where
  settings : s'.settings = s.settings
  isShutdown : s'.isShutdown = s.isShutdown
  account? : s'.account? = s.account?

theorem Leaves.refl (s : Supervisor) : s.Leaves s := ⟨rfl, rfl, rfl⟩

theorem Leaves.trans {a b c : Supervisor} (h : a.Leaves b) (h' : b.Leaves c) : a.Leaves c :=
  ⟨h'.settings.trans h.settings, h'.isShutdown.trans h.isShutdown, h'.account?.trans h.account?⟩

theorem Idles.account? {s s' : Supervisor} (h : s.Idles s') : s'.account? = s.account? := by
  funext name
  rw [Supervisor.account?, h.entryOf?]
  rfl

theorem Idles.leaves {s s' : Supervisor} (h : s.Idles s') : s.Leaves s' :=
  ⟨h.settings, h.isShutdown, h.account?⟩

theorem leaves_start {s s' : Supervisor} {name : String} (started : s.start name = .ok s') :
    s.Leaves s' := by
  have known : (s.entryOf? name).isSome = true := by
    unfold start at started
    cases found : s.slots[name]? with
    | none =>
      rw [found] at started
      cases started
    | some slot =>
      rw [entryOf?, found]
      rfl
  obtain ⟨_, same, ordered⟩ := start_of_entry known
  obtain rfl := Except.ok.inj (started.symm.trans same)
  refine ⟨ordered.settings, ordered.isShutdown, funext fun other => ?_⟩
  unfold account?
  by_cases same : other = name
  · rw [same, ordered.entryOf?_self, Option.map_map]
    rfl
  · rw [ordered.entryOf?_ne other same]

theorem leaves_startEach {names : List String} {s s' : Supervisor}
    (started : startEach names s = .ok s') : s.Leaves s' := by
  induction names generalizing s with
  | nil =>
    cases started
    exact .refl _
  | cons name rest ih =>
    unfold startEach at started
    cases first : s.start name with
    | error e =>
      rw [first] at started
      cases started
    | ok s₁ =>
      rw [first] at started
      exact (leaves_start first).trans (ih started)

theorem leaves_startAll {s s' : Supervisor} (started : s.startAll = .ok s') : s.Leaves s' := by
  unfold startAll at started
  split at started
  · cases started
  · have leaves := leaves_startEach started
    exact ⟨leaves.settings, leaves.isShutdown, leaves.account?⟩

/-- What is refused changes nothing. -/
theorem leaves_getD {s : Supervisor} {result : Except Refusal Supervisor}
    (done : ∀ s', result = .ok s' → s.Leaves s') : s.Leaves (result.toOption.getD s) := by
  cases result with
  | ok s' => exact done s' rfl
  | error e => exact .refl s

theorem leaves_report (s : Supervisor) (name : String) (status : Status) :
    s.Leaves (s.report name status) := by
  refine ⟨rfl, rfl, funext fun other => ?_⟩
  unfold account? entryOf? report
  rw [Std.ExtTreeMap.getElem?_modify]
  split
  · next same =>
    rw [Std.LawfulEqOrd.eq_of_compare same, Option.map_map, Option.map_map, Option.map_map]
    rfl
  · rfl

theorem shutdown_keeps (s : Supervisor) : s.shutdown.settings = s.settings ∧
    s.shutdown.isShutdown = true ∧ s.shutdown.account? = s.account? := by
  let told : Supervisor := { s with
    isShutdown := true
    slots := s.slots.map fun _ slot => { slot with task := none } }
  have account : told.account? = s.account? := by
    funext name
    unfold account? entryOf?
    rw [Std.ExtTreeMap.getElem?_map, Option.map_map, Option.map_map, Option.map_map]
    rfl
  obtain ⟨s', idle, ended⟩ : ∃ s', told.Idles s' ∧ s.shutdown = { s' with isDown := true } := by
    unfold shutdown
    dsimp only
    split
    · exact ⟨told, .refl _, rfl⟩
    · exact ⟨_, (idles_turn told).trans (idles_awaitEnd ..), rfl⟩
  rw [ended]
  exact ⟨idle.settings, idle.isShutdown, idle.account?.trans account⟩

/-! ## Accounts -/

/-- The restarts that were made over a life are those that are counted, and each was allowed. -/
structure Accounts (settings : Settings) (life : List Event) (restarted : List String)
    (s : Supervisor) : Prop where
  settings : s.settings = settings
  isShutdown : s.isShutdown = true ↔ .shutdown ∈ life
  counted : ∀ name, restarted.count name = ((s.account? name).map Account.restarts).getD 0
  allowed : ∀ name a, s.account? name = some a →
    a.restarts = 0 ∨ ∃ delay, a.policy.Allows a.restarts delay

theorem shutdown_mem_iff_concat {life : List Event} {event : Event} (other : event ≠ .shutdown) :
    .shutdown ∈ life ↔ .shutdown ∈ life ++ [event] := by
  rw [List.mem_append, List.mem_singleton]
  exact (or_iff_left (Ne.symm other)).symm

namespace Accounts

variable {settings : Settings} {life : List Event} {restarted : List String} {s s' : Supervisor}

theorem empty (settings : Settings) : Accounts settings [] [] { settings } where
  settings := rfl
  isShutdown := by simp
  counted name := by simp [account?, entryOf?]
  allowed name a found := by simp [account?, entryOf?] at found

/-- An event without restarts changes no account. -/
theorem leave (h : Accounts settings life restarted s) (leaves : s.Leaves s') {event : Event}
    (other : event ≠ .shutdown) : Accounts settings (life ++ [event]) restarted s' where
  settings := leaves.settings.trans h.settings
  isShutdown := by
    rw [leaves.isShutdown, h.isShutdown]
    exact shutdown_mem_iff_concat other
  counted := leaves.account? ▸ h.counted
  allowed := leaves.account? ▸ h.allowed

theorem shutdown (h : Accounts settings life restarted s) :
    Accounts settings (life ++ [.shutdown]) restarted s.shutdown := by
  obtain ⟨kept, told, account⟩ := s.shutdown_keeps
  exact ⟨kept.trans h.settings, iff_of_true told (List.mem_append_right _ List.mem_cons_self),
    account ▸ h.counted, account ▸ h.allowed⟩

/-- The account of a new service is empty. -/
theorem register (h : Accounts settings life restarted s) {name : String} {script : Script}
    (added : s.register name script = .ok s') :
    Accounts settings (life ++ [.register name script]) restarted s' := by
  unfold Supervisor.register at added
  split at added
  · cases added
  next new =>
  cases added
  have unknown : s.account? name = none := by
    rw [account?, entryOf?, Std.ExtTreeMap.getElem?_eq_none_of_contains_eq_false
      (Bool.eq_false_iff.2 new)]
    rfl
  have account (other : String) : account? { s with slots := s.slots.insert name { script } } other =
      if other = name then some ⟨script.policy, 0⟩ else s.account? other := by
    unfold account?
    rw [entryOf?, entryOf?_insert]
    split <;> rfl
  refine ⟨h.settings, h.isShutdown.trans (shutdown_mem_iff_concat (by rintro ⟨⟩)), fun other => ?_,
    fun other a found => ?_⟩
  · rw [h.counted, account]
    split
    · next same => rw [same, unknown]; rfl
    · rfl
  · rw [account] at found
    split at found
    · cases found
      exact .inl rfl
    · exact h.allowed other a found

/-- A call for restarts counts those that it makes, and makes only such as are allowed. -/
theorem restart (h : Accounts settings life restarted s) :
    Accounts settings (life ++ [.restartFailed]) (restarted ++ s.restartFailed.1)
      s.restartFailed.2 := by
  rw [restartFailed_eq]
  split
  · obtain ⟨names, sees⟩ := seesTo_restartEach s.registered_due
    rw [names]
    refine ⟨sees.settings.trans h.settings, ?_, fun name => ?_, fun name a found => ?_⟩
    · rw [sees.isShutdown, h.isShutdown]
      exact shutdown_mem_iff_concat nofun
    · rw [List.count_append, h.counted, sees.counts]
      cases known : s.account? name with
      | none =>
        have unnamed : name ∉ named s.due := by
          intro member
          obtain ⟨slot, -, found, -⟩ := mem_named_due.1 member
          rw [account?, entryOf?, found] at known
          cases known
        rw [List.count_eq_zero_of_not_mem unnamed]
        rfl
      | some a => rfl
    · rw [sees.counts] at found
      obtain ⟨a, before, rfl⟩ := Option.map_eq_some_iff.1 found
      rw [s.nodup_named_due.count]
      split
      · next member =>
        obtain ⟨slot, delay, present, -, allows⟩ := mem_named_due.1 member
        rw [account?, entryOf?, present] at before
        cases before
        exact .inr ⟨delay, allows⟩
      · exact h.allowed name a before
  · rw [List.append_nil]
    exact h.leave (.refl s) nofun

/-- One event. -/
theorem meet (h : Accounts settings life restarted s) (event : Event) :
    Accounts settings (life ++ [event]) (restarted ++ (s.meet event).1) (s.meet event).2 := by
  cases event with
  | restartFailed => exact h.restart
  | register name script =>
    simp only [Supervisor.meet, List.append_nil]
    cases added : s.register name script with
    | ok s' => exact h.register added
    | error e => exact h.leave (.refl s) nofun
  | startAll =>
    simp only [Supervisor.meet, List.append_nil]
    exact h.leave (leaves_getD fun _ => leaves_startAll) nofun
  | start name =>
    simp only [Supervisor.meet, List.append_nil]
    exact h.leave (leaves_getD fun _ => leaves_start) nofun
  | wait ms =>
    simp only [Supervisor.meet, List.append_nil]
    exact h.leave (s.idles_wait ms).leaves nofun
  | report name status =>
    simp only [Supervisor.meet, List.append_nil]
    exact h.leave (s.leaves_report name status) nofun
  | shutdown =>
    simp only [Supervisor.meet, List.append_nil]
    exact h.shutdown

/-- A whole life. -/
theorem play (h : Accounts settings life restarted s) (events : List Event) :
    Accounts settings (life ++ events) (restarted ++ (play events s).1) (play events s).2 := by
  induction events generalizing life restarted s with
  | nil =>
    rw [List.append_nil, Supervisor.play, List.append_nil]
    exact h
  | cons event later ih =>
    rw [List.append_cons, Supervisor.play, ← List.append_assoc]
    exact ih (h.meet event)

end Accounts

section Slots

variable {settings : Settings} {life : List Event} {restarted : List String} {s : Supervisor}
  {name : String} {slot : Slot}

/-- The restarts of a service are counted in its slot. -/
theorem Accounts.count_eq (h : Accounts settings life restarted s)
    (found : s.slots[name]? = some slot) : restarted.count name = slot.restarts := by
  rw [h.counted, account?, entryOf?, found]
  rfl

/-- They are within its budget. -/
theorem Accounts.within (h : Accounts settings life restarted s)
    (found : s.slots[name]? = some slot) :
    (slot.script.policy = .never → restarted.count name = 0) ∧
      ∀ maxRetries backoff, slot.script.policy = .onFailure maxRetries backoff →
        restarted.count name ≤ maxRetries := by
  have account : s.account? name = some ⟨slot.script.policy, slot.restarts⟩ := by
    rw [account?, entryOf?, found]
    rfl
  rw [h.count_eq found]
  obtain none | ⟨delay, allows⟩ := h.allowed name _ account
  · exact ⟨fun _ => none, fun _ _ _ => Nat.le_trans (Nat.le_of_eq none) (Nat.zero_le _)⟩
  · refine ⟨fun never => ?_, fun maxRetries backoff limited => ?_⟩
    · rw [never] at allows
      cases allows
    · rw [limited] at allows
      cases allows
      assumption

/-- A service may be started again if its policy allows one restart more than it has had. -/
theorem Accounts.mem_named_due (h : Accounts settings life restarted s) :
    name ∈ named s.due ↔ ∃ slot delay, s.slots[name]? = some slot ∧
      slot.status.isFailed = true ∧
      slot.script.policy.Allows (restarted.count name + 1) delay := by
  rw [Supervisor.mem_named_due]
  refine exists_congr fun slot => exists_congr fun delay => and_congr_right fun found => ?_
  rw [h.count_eq found]

end Slots

/-- After any life of a supervisor, with any services and whatever they have said of themselves, a
call for restarts does the following. Unless restarts are switched off or the services were told to
stop, it starts those services again that have failed at the time of the call and whose policy allows
one restart more than they have had, and no others; runs of these are ordered, in the order of the
names. When the turn of a service has come, its run is ordered after the delay that the policy sets
for this restart, whatever the service says of itself by then. And a service under a limit has had no
more restarts than the limit, one without restarts none. -/
theorem restarts_in_budget (settings : Settings) (life : List Event) :
    let restarted := (play life { settings }).1
    let s := (play life { settings }).2
    let names := s.restartFailed.1
    let s' := s.restartFailed.2
    (∀ name, name ∈ names ↔ (settings.autoRestart = true ∧ .shutdown ∉ life) ∧
      ∃ slot delay, s.slots[name]? = some slot ∧ slot.status.isFailed = true ∧
        slot.script.policy.Allows (restarted.count name + 1) delay) ∧
    names.Pairwise (· < ·) ∧ s'.orders = s.orders ++ names ∧
    (∀ name ∈ names, ∃ slot delay ahead behind, s.slots[name]? = some slot ∧
      slot.script.policy.Allows (restarted.count name + 1) delay ∧
      s.due = ahead ++ (name, some delay) :: behind ∧
      (s'.entryOf? name).bind Entry.orderedAt = some ((restartEach ahead s).2.now + delay)) ∧
    ∀ name slot, s.slots[name]? = some slot →
      (slot.script.policy = .never → restarted.count name = 0) ∧
      ∀ maxRetries backoff, slot.script.policy = .onFailure maxRetries backoff →
        restarted.count name ≤ maxRetries := by
  intro restarted s names s'
  have accounts : Accounts settings life restarted s := (Accounts.empty settings).play life
  have active : (s.settings.autoRestart = true ∧ s.isShutdown = false) ↔
      settings.autoRestart = true ∧ .shutdown ∉ life := by
    rw [accounts.settings, ← accounts.isShutdown, Bool.not_eq_true]
  by_cases works : s.settings.autoRestart = true ∧ s.isShutdown = false
  · have call : s.restartFailed = restartEach s.due s := s.restartFailed_eq.trans (if_pos works)
    obtain ⟨same, sees⟩ := seesTo_restartEach s.registered_due
    rw [← call] at same sees
    have names_eq : names = named s.due := same
    refine ⟨fun name => ?_, names_eq ▸ pairwise_named s.pairwise_due, names_eq ▸ sees.orders,
      fun name again => ?_, fun name slot => accounts.within⟩
    · rw [names_eq]
      exact accounts.mem_named_due.trans (and_iff_right (active.1 works)).symm
    · obtain ⟨delay, listed⟩ := mem_named.1 (names_eq ▸ again)
      obtain ⟨slot, found, -, told⟩ := mem_due.1 listed
      obtain ⟨ahead, behind, split, ordered⟩ := orderedAt_due listed
      rw [← call] at ordered
      refine ⟨slot, delay, ahead, behind, found, ?_, split, ordered⟩
      rw [accounts.count_eq found]
      exact RestartPolicy.delay?_eq_some_iff.1 told
  · have call : s.restartFailed = ([], s) := s.restartFailed_eq.trans (if_neg works)
    have none : names = [] := by
      show s.restartFailed.1 = []
      rw [call]
    have still : s' = s := by
      show s.restartFailed.2 = s
      rw [call]
    rw [none, still]
    refine ⟨fun name => iff_of_false List.not_mem_nil fun h => works (active.2 h.1), .nil,
      (List.append_nil _).symm, nofun, fun name slot => accounts.within⟩

/-- Two runs of a service are under way, of which the first has failed. While a call waits for the
service before it, the second one gets to work. The service is started again all the same, although it
is running when its turn has come and after its delay. -/
theorem restarts_running :
    let s := (play [.register "a" { policy := .always 1000, failingRuns := 9 },
      .register "b" { policy := .onFailure 3 10, failingRuns := 1, startup := 150 },
      .startAll, .start "b"] {}).2
    let turn := (restartEach [("a", some 1000)] s).2
    s.due = [("a", some 1000), ("b", some 10)] ∧
      (turn.slots["b"]?).map (·.status) = some .running ∧
      ((turn.wait 10).slots["b"]?).map (·.status) = some .running ∧
      s.restartFailed.1 = ["a", "b"] ∧ s.restartFailed.2.orders = s.orders ++ ["a", "b"] := by
  decide +kernel

example : (play [.register "a" { policy := .onFailure 1 10, failingRuns := 9 },
    .register "b" { policy := .never, failingRuns := 9 }, .startAll, .restartFailed, .restartFailed]
    {}).1 = ["a"] := by decide +kernel

end Supervisor

end Metering.Service
