import Metering.Service.Status
import Std.Data.ExtTreeMap

/-!
# Supervision of services

A supervisor starts services, stops them with a deadline, and starts failed ones again as their
policies allow. Time is a number of milliseconds that moves only while the supervisor waits; the
services come to their turn then, in the order in which their waits end.

A service follows a script: it takes some time to start, fails in its first runs, ends by itself or
runs until it is told to stop, and takes some time to stop.
-/

namespace Metering.Service

/-- How a service behaves; times in milliseconds. -/
structure Script where
  policy : RestartPolicy := .standard
  /-- Number of runs that fail, from the first one on. -/
  failingRuns : Nat := 0
  /-- A run ends by itself once it has started. -/
  exits : Bool := false
  startup : Nat := 0
  stop : Nat := 0

/-- How far a run of a service has come. -/
inductive Phase
  /-- Not begun. -/
  | queued
  | starting (due : Nat)
  | serving
  | stopping (due : Nat)
  | ended
deriving DecidableEq

/-- A run of a service. -/
structure Run where
  name : String
  number : Nat
  phase : Phase

/-- A registered service. -/
structure Slot where
  script : Script
  status : Status := .stopped
  /-- Runs begun. -/
  runs : Nat := 0
  /-- Restarts made, without a bound; a counter of 32 bits agrees with it up to 4294967295. -/
  restarts : Nat := 0
  /-- When the latest run was ordered. -/
  startedAt : Option Nat := none
  /-- Place of the run to be joined in the list of runs. -/
  task : Option Nat := none

/-- Settings of a supervisor. -/
structure Settings where
  /-- Milliseconds that all services together have to stop. -/
  shutdownTimeout : Nat := 30000
  autoRestart : Bool := true

/-- A supervisor with its services. -/
structure Supervisor where
  settings : Settings := {}
  now : Nat := 0
  slots : Std.ExtTreeMap String Slot := ∅
  runs : List Run := []
  isStarted : Bool := false
  /-- Services have been told to stop. -/
  isShutdown : Bool := false
  /-- The shutdown is complete. -/
  isDown : Bool := false

instance : Inhabited Supervisor := ⟨{}⟩

/-- Why the supervisor refuses. -/
inductive Refusal
  | duplicate (name : String)
  | alreadyStarted
  | unknown (name : String)
deriving DecidableEq

/-- The wording of a refusal. -/
def Refusal.message : Refusal → String
  | duplicate name => s!"service {name} is already registered"
  | alreadyStarted => "services were already started"
  | unknown name => s!"no service named {name}"

namespace Supervisor

/-! ## Runs -/

/-- A slot after one step of its run, with the phase that the run is in then. -/
def advance (now : Nat) (isShutdown : Bool) (number : Nat) (slot : Slot) :
    Phase → Nat × Slot × Phase
  | .queued =>
    (slot.runs + 1, { slot with runs := slot.runs + 1, status := .starting },
      .starting (now + slot.script.startup))
  | .starting due =>
    if now < due then (number, slot, .starting due)
    else if number ≤ slot.script.failingRuns then
      (number, { slot with status := .failed s!"run {number}" }, .ended)
    else if slot.script.exits then (number, { slot with status := .stopped }, .ended)
    else (number, { slot with status := .running }, .serving)
  | .serving =>
    if isShutdown then
      (number, { slot with status := .stopping }, .stopping (now + slot.script.stop))
    else (number, slot, .serving)
  | .stopping due =>
    if now < due then (number, slot, .stopping due)
    else (number, { slot with status := .stopped }, .ended)
  | .ended => (number, slot, .ended)

/-- Lets a run go on until it waits; no run takes more than four steps. -/
def goOn (now : Nat) (isShutdown : Bool) : Nat → Nat × Slot × Phase → Nat × Slot × Phase
  | 0, state => state
  | steps + 1, (number, slot, phase) =>
    goOn now isShutdown steps (advance now isShutdown number slot phase)

/-- Gives each run its turn, in the order of the list. -/
def turnRuns (now : Nat) (isShutdown : Bool) :
    List Run → Std.ExtTreeMap String Slot → List Run × Std.ExtTreeMap String Slot
  | [], slots => ([], slots)
  | run :: rest, slots =>
    match slots[run.name]? with
    | none =>
      let (rest, slots) := turnRuns now isShutdown rest slots
      (run :: rest, slots)
    | some slot =>
      let (number, slot, phase) := goOn now isShutdown 4 (run.number, slot, run.phase)
      let (rest, slots) := turnRuns now isShutdown rest (slots.insert run.name slot)
      ({ run with number, phase } :: rest, slots)

/-- Gives each run its turn. -/
def turn (s : Supervisor) : Supervisor :=
  let (runs, slots) := turnRuns s.now s.isShutdown s.runs s.slots
  { s with runs, slots }

/-- When a run goes on by itself. -/
def Run.due? (run : Run) : Option Nat :=
  match run.phase with
  | .starting due | .stopping due => some due
  | _ => none

/-- The earliest time after now at which a run goes on. -/
def nextDue? (s : Supervisor) : Option Nat :=
  ((s.runs.filterMap Run.due?).filter (s.now < ·)).min?

/-- Moves time to `target`, giving the runs their turns on the way; `waits` bounds their number. -/
def moveTo (target : Nat) : Nat → Supervisor → Supervisor
  | 0, s => { s with now := target }
  | waits + 1, s =>
    match s.nextDue? with
    | some due =>
      if due < target then moveTo target waits { s with now := due }.turn
      else { s with now := target }
    | none => { s with now := target }

/-- Waits for some milliseconds; without waiting no run gets its turn. Each run waits at most
twice by itself. -/
def wait (s : Supervisor) (ms : Nat) : Supervisor :=
  if ms = 0 then s else moveTo (s.now + ms) (2 * s.runs.length) s.turn

/-! ## Operations -/

/-- Adds a service; its name must be new. -/
def register (s : Supervisor) (name : String) (script : Script) : Except Refusal Supervisor :=
  if s.slots.contains name then .error (.duplicate name)
  else .ok { s with slots := s.slots.insert name { script } }

/-- The service is at work. -/
def isUp (s : Supervisor) (name : String) : Bool := (s.slots[name]?).any (·.status.isHealthy)

/-- Milliseconds between two looks at a starting service. -/
def lookInterval : Nat := 5

/-- Most looks at a starting service. -/
def maxLooks : Nat := 20

/-- Waits until a service is at work, but not for long. -/
def awaitUp (name : String) : Nat → Supervisor → Supervisor
  | 0, s => s
  | looks + 1, s => if s.isUp name then s else awaitUp name looks (s.wait lookInterval)

/-- Orders a run of a service and waits briefly for it to be at work. -/
def start (s : Supervisor) (name : String) : Except Refusal Supervisor :=
  match s.slots[name]? with
  | none => .error (.unknown name)
  | some slot =>
    let slot := { slot with startedAt := some s.now, task := some s.runs.length }
    .ok (awaitUp name maxLooks { s with
      slots := s.slots.insert name slot
      runs := s.runs ++ [⟨name, 0, .queued⟩] })

/-- Starts some services one after another. -/
def startEach : List String → Supervisor → Except Refusal Supervisor
  | [], s => .ok s
  | name :: rest, s => do startEach rest (← s.start name)

/-- Starts all services in the order of their names, once. -/
def startAll (s : Supervisor) : Except Refusal Supervisor :=
  if s.isStarted then .error .alreadyStarted
  else startEach s.slots.keys { s with isStarted := true }

/-- A run has ended. -/
def hasEnded (s : Supervisor) (task : Nat) : Bool :=
  (s.runs[task]?).all (·.phase == .ended)

/-- Moves time on until some runs have ended, or to the deadline. -/
def awaitEnd (tasks : List Nat) (deadline : Nat) : Nat → Supervisor → Supervisor
  | 0, s => s
  | waits + 1, s =>
    if tasks.all s.hasEnded then s
    else
      match s.nextDue? with
      | some due =>
        if due < deadline then awaitEnd tasks deadline waits { s with now := due }.turn
        else { s with now := deadline }
      | none => { s with now := deadline }

/-- Tells all services to stop and waits for them until the deadline. -/
def shutdown (s : Supervisor) : Supervisor :=
  let s := { s with isShutdown := true }
  let tasks := s.slots.values.filterMap (·.task)
  let s := { s with slots := s.slots.map fun _ slot => { slot with task := none } }
  let timeout := s.settings.shutdownTimeout
  let s := if timeout = 0 ∨ tasks.all s.hasEnded then s
    else awaitEnd tasks (s.now + timeout) (2 * s.runs.length + 1) s.turn
  { s with isDown := true }

/-- Waits for the shutdown to be complete, but not for long; tells whether it is. -/
def awaitDown (s : Supervisor) : Bool × Supervisor :=
  if s.isDown then (true, s) else (false, s.wait 10)

/-- The failed services with the delays that their policies set. -/
def due (s : Supervisor) : List (String × Option Nat) :=
  (s.slots.toList.filter (·.2.status.isFailed)).map fun (name, slot) =>
    (name, slot.script.policy.delay? slot.restarts)

/-- Counts a restart. -/
def countRestart (s : Supervisor) (name : String) : Supervisor :=
  { s with slots := s.slots.modify name fun slot => { slot with restarts := slot.restarts + 1 } }

/-- Waits out the delay of each service and starts it; tells which ones were started. -/
def restartEach : List (String × Option Nat) → Supervisor → List String × Supervisor
  | [], s => ([], s)
  | (_, none) :: rest, s => restartEach rest s
  | (name, some delay) :: rest, s =>
    match ((s.wait delay).countRestart name).start name with
    | .ok s =>
      let (names, s) := restartEach rest s
      (name :: names, s)
    | .error _ => restartEach rest ((s.wait delay).countRestart name)

/-- Starts the failed services again that may be. -/
def restartFailed (s : Supervisor) : List String × Supervisor :=
  if !s.settings.autoRestart || s.isShutdown then ([], s) else restartEach s.due s

/-- Every service is at work. -/
def isHealthy (s : Supervisor) : Bool := s.slots.values.all (·.status.isHealthy)

/-- Milliseconds since the latest run of a service was ordered. -/
def uptime (s : Supervisor) (name : String) : Option Nat :=
  ((s.slots[name]?).bind (·.startedAt)).map (s.now - ·)

end Supervisor

end Metering.Service
