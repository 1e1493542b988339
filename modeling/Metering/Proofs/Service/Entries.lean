import Metering.Service.Supervisor

/-!
# Entries of a supervisor

A supervisor keeps an entry of each service: its policy, how often it was started again, and when its
latest run was ordered. The services write their statuses themselves, whenever they get their turn;
they never write to their entries. So an entry changes only where the supervisor orders a run or
counts a restart.

Results:
1. `Supervisor.idles_wait`, `Supervisor.now_wait`: what waiting leaves alone, and for how long it goes.
2. `Supervisor.start_of_entry`: what the start of a service changes.
3. `Supervisor.respawn`: what waiting, counting and starting come to.
-/

namespace Metering.Service

/-- How often a service was started again, and how often it may be. -/
structure Account where
  policy : RestartPolicy
  restarts : Nat
deriving DecidableEq

/-- The account with some more restarts. -/
def Account.add (restarts : Nat) (a : Account) : Account :=
  { a with restarts := a.restarts + restarts }

/-- What a supervisor keeps of a service. -/
structure Entry extends Account where
  orderedAt : Option Nat
deriving DecidableEq

/-- The entry in a slot. -/
def Slot.entry (slot : Slot) : Entry := ⟨⟨slot.script.policy, slot.restarts⟩, slot.startedAt⟩

namespace Supervisor

/-- The entry of a service, if it is registered. -/
def entryOf? (s : Supervisor) (name : String) : Option Entry := (s.slots[name]?).map Slot.entry

/-- The account of a service, if it is registered. -/
def account? (s : Supervisor) (name : String) : Option Account :=
  (s.entryOf? name).map Entry.toAccount

/-- The services of which runs were ordered, from the first order on. -/
def orders (s : Supervisor) : List String := s.runs.map (·.name)

/-- Services may have gone on, but the supervisor itself has done nothing. -/
structure Idles (s s' : Supervisor) : Prop where
  settings : s'.settings = s.settings
  isShutdown : s'.isShutdown = s.isShutdown
  entryOf? : s'.entryOf? = s.entryOf?
  orders : s'.orders = s.orders

theorem Idles.refl (s : Supervisor) : s.Idles s := ⟨rfl, rfl, rfl, rfl⟩

theorem Idles.trans {a b c : Supervisor} (h : a.Idles b) (h' : b.Idles c) : a.Idles c :=
  ⟨h'.settings.trans h.settings, h'.isShutdown.trans h.isShutdown, h'.entryOf?.trans h.entryOf?,
    h'.orders.trans h.orders⟩

/-! ## Turns of services -/

theorem entry_advance (now : Nat) (isShutdown : Bool) (number : Nat) (slot : Slot) (phase : Phase) :
    (advance now isShutdown number slot phase).2.1.entry = slot.entry := by
  cases phase with
  | queued | ended => rfl
  | starting due =>
    simp only [advance]
    split
    · rfl
    · split
      · rfl
      · split <;> rfl
  | serving | stopping due =>
    simp only [advance]
    split <;> rfl

theorem entry_goOn (now : Nat) (isShutdown : Bool) (steps : Nat) (state : Nat × Slot × Phase) :
    (goOn now isShutdown steps state).2.1.entry = state.2.1.entry := by
  induction steps generalizing state with
  | zero => rfl
  | succ steps ih => exact (ih _).trans (entry_advance ..)

theorem turnRuns_keeps (now : Nat) (isShutdown : Bool) (runs : List Run)
    (slots : Std.ExtTreeMap String Slot) :
    (turnRuns now isShutdown runs slots).1.map (·.name) = runs.map (·.name) ∧
      ∀ name : String, ((turnRuns now isShutdown runs slots).2[name]?).map Slot.entry =
        (slots[name]?).map Slot.entry := by
  induction runs generalizing slots with
  | nil => exact ⟨rfl, fun _ => rfl⟩
  | cons run rest ih =>
    unfold turnRuns
    cases found : slots[run.name]? with
    | none =>
      obtain ⟨names, entries⟩ := ih slots
      exact ⟨congrArg (run.name :: ·) names, entries⟩
    | some slot =>
      dsimp only
      have kept := entry_goOn now isShutdown 4 (run.number, slot, run.phase)
      obtain ⟨names, entries⟩ := ih (slots.insert run.name
        (goOn now isShutdown 4 (run.number, slot, run.phase)).2.1)
      refine ⟨congrArg (run.name :: ·) names, fun name => (entries name).trans ?_⟩
      rw [Std.ExtTreeMap.getElem?_insert]
      split
      · next same =>
        rw [← Std.LawfulEqOrd.eq_of_compare same, found]
        exact congrArg some kept
      · rfl

theorem idles_turn (s : Supervisor) : s.Idles s.turn := by
  obtain ⟨names, entries⟩ := turnRuns_keeps s.now s.isShutdown s.runs s.slots
  exact ⟨rfl, rfl, funext entries, names⟩

/-- So it is after time has moved on. -/
theorem idles_turnAt (now : Nat) (s : Supervisor) : s.Idles { s with now }.turn :=
  have moved : s.Idles { s with now } := ⟨rfl, rfl, rfl, rfl⟩
  moved.trans (idles_turn _)

theorem idles_moveTo (target waits : Nat) (s : Supervisor) : s.Idles (moveTo target waits s) := by
  induction waits generalizing s with
  | zero => exact ⟨rfl, rfl, rfl, rfl⟩
  | succ waits ih =>
    unfold moveTo
    split
    · split
      · exact (idles_turnAt _ s).trans (ih _)
      · exact ⟨rfl, rfl, rfl, rfl⟩
    · exact ⟨rfl, rfl, rfl, rfl⟩

theorem idles_wait (s : Supervisor) (ms : Nat) : s.Idles (s.wait ms) := by
  unfold wait
  split
  · exact .refl s
  · exact (idles_turn s).trans (idles_moveTo ..)

theorem now_moveTo (target waits : Nat) (s : Supervisor) : (moveTo target waits s).now = target := by
  induction waits generalizing s with
  | zero => rfl
  | succ waits ih =>
    unfold moveTo
    split
    · split
      · exact ih _
      · rfl
    · rfl

/-- Waiting takes its time. -/
theorem now_wait (s : Supervisor) (ms : Nat) : (s.wait ms).now = s.now + ms := by
  unfold wait
  split
  · next none => rw [none, Nat.add_zero]
  · exact now_moveTo ..

theorem idles_awaitUp (name : String) (looks : Nat) (s : Supervisor) :
    s.Idles (awaitUp name looks s) := by
  induction looks generalizing s with
  | zero => exact .refl s
  | succ looks ih =>
    unfold awaitUp
    split
    · exact .refl s
    · exact (idles_wait s _).trans (ih _)

theorem idles_awaitEnd (tasks : List Nat) (deadline waits : Nat) (s : Supervisor) :
    s.Idles (awaitEnd tasks deadline waits s) := by
  induction waits generalizing s with
  | zero => exact .refl s
  | succ waits ih =>
    unfold awaitEnd
    split
    · exact .refl s
    · split
      · split
        · exact (idles_turnAt _ s).trans (ih _)
        · exact ⟨rfl, rfl, rfl, rfl⟩
      · exact ⟨rfl, rfl, rfl, rfl⟩

/-! ## Orders -/

/-- One run of a service was ordered, and nothing else done but what `f` says of its entry. -/
structure Orders (s : Supervisor) (name : String) (f : Entry → Entry) (s' : Supervisor) : Prop where
  settings : s'.settings = s.settings
  isShutdown : s'.isShutdown = s.isShutdown
  entryOf?_self : s'.entryOf? name = (s.entryOf? name).map f
  entryOf?_ne : ∀ other ≠ name, s'.entryOf? other = s.entryOf? other
  orders : s'.orders = s.orders ++ [name]

theorem entryOf?_insert (s : Supervisor) (name other : String) (slot : Slot) :
    (((s.slots.insert name slot)[other]?).map Slot.entry) =
      if other = name then some slot.entry else s.entryOf? other := by
  rw [Std.ExtTreeMap.getElem?_insert]
  by_cases same : other = name
  · rw [if_pos same, if_pos (by rw [same, Std.ReflOrd.compare_self])]
    rfl
  · rw [if_neg same, if_neg fun equal => same (Std.LawfulEqOrd.eq_of_compare equal).symm]
    rfl

/-- A service that is registered can be started, at any time. -/
theorem start_of_entry {s : Supervisor} {name : String} (registered : (s.entryOf? name).isSome = true) :
    ∃ s', s.start name = .ok s' ∧
      s.Orders name (fun e => ⟨e.toAccount, some s.now⟩) s' := by
  obtain ⟨slot, found⟩ : ∃ slot, s.slots[name]? = some slot := by
    rw [entryOf?, Option.isSome_map] at registered
    exact Option.isSome_iff_exists.1 registered
  unfold start
  rw [found]
  dsimp only
  have idle := idles_awaitUp name maxLooks { s with
    slots := s.slots.insert name { slot with startedAt := some s.now, task := some s.runs.length }
    runs := s.runs ++ [⟨name, 0, .queued⟩] }
  refine ⟨_, rfl, idle.settings, idle.isShutdown, ?_, fun other ne => ?_, ?_⟩
  · rw [idle.entryOf?, entryOf?, entryOf?_insert, if_pos rfl, entryOf?, found]
    rfl
  · rw [idle.entryOf?, entryOf?, entryOf?_insert, if_neg ne]
  · rw [idle.orders]
    exact List.map_append

theorem entryOf?_countRestart (s : Supervisor) (name other : String) :
    (s.countRestart name).entryOf? other = if other = name then
      (s.entryOf? name).map (fun e => ⟨e.add 1, e.orderedAt⟩) else s.entryOf? other := by
  unfold entryOf? countRestart
  rw [Std.ExtTreeMap.getElem?_modify]
  by_cases same : other = name
  · rw [if_pos same, if_pos (by rw [same, Std.ReflOrd.compare_self]), Option.map_map,
      Option.map_map]
    rfl
  · rw [if_neg same, if_neg fun equal => same (Std.LawfulEqOrd.eq_of_compare equal).symm]

/-- A restart: the supervisor waits out the delay, counts, and orders the run. -/
theorem respawn {s : Supervisor} {name : String} (delay : Nat)
    (registered : (s.entryOf? name).isSome = true) :
    ∃ s', ((s.wait delay).countRestart name).start name = .ok s' ∧
      s.Orders name (fun e => ⟨e.add 1, some (s.now + delay)⟩) s' := by
  have idle := s.idles_wait delay
  have counted (other : String) := (s.wait delay).entryOf?_countRestart name other
  have known : (((s.wait delay).countRestart name).entryOf? name).isSome = true := by
    rw [counted, if_pos rfl, idle.entryOf?, Option.isSome_map]
    exact registered
  obtain ⟨s', started, ordered⟩ := start_of_entry known
  refine ⟨s', started, ordered.settings.trans idle.settings,
    ordered.isShutdown.trans idle.isShutdown, ?_, fun other ne => ?_,
    ordered.orders.trans (congrArg (· ++ [name]) idle.orders)⟩
  · rw [ordered.entryOf?_self, counted, if_pos rfl, idle.entryOf?, Option.map_map]
    have now : ((s.wait delay).countRestart name).now = s.now + delay := s.now_wait delay
    rw [now]
    rfl
  · rw [ordered.entryOf?_ne other ne, counted, if_neg ne, idle.entryOf?]

end Supervisor

end Metering.Service
