import Metering.Request

/-!
# Interruptions

Between any two calls of a program other things can happen: traffic arrives, a record is removed, time
passes, the work is cancelled, other tasks get their turn, or the call fails and never reaches its
store. A `Scene` is a world with a plan of such interruptions. Each call is met by the first planned
interruption that fits it; what it holds happens right before the call.

A failing swap is one that comes second: another writer makes the same swap before.
-/

namespace Metering

/-- Where an interruption comes in: the name of a call, and what the call is about. -/
structure Place where
  call : String
  subject : String := ""
deriving DecidableEq, Inhabited

namespace Hot.Request

/-- The place of a call to the hot tier. -/
def place {α : Type} : Hot.Request α → Place
  | increment key _ => ⟨"hot.increment", key.encode⟩
  | incrementAll _ => ⟨"hot.batch_increment", ""⟩
  | read key => ⟨"hot.get", key.encode⟩
  | readBucket bucket => ⟨"hot.get_all", bucket.label⟩
  | takeBucket bucket => ⟨"hot.get_and_cleanup", bucket.label⟩
  | clearBucket bucket => ⟨"hot.cleanup", bucket.label⟩
  | activeKeys _ => ⟨"hot.active_keys", ""⟩
  | snapshot _ => ⟨"hot.snapshot", ""⟩
  | commit key _ _ => ⟨"hot.compare_and_commit", key.encode⟩
  | settle key _ => ⟨"hot.remove_if_settled", key.encode⟩
  | seed key _ => ⟨"hot.init_baseline", key.encode⟩
  | forget key => ⟨"hot.cleanup_resource", key.encode⟩
  | activeBuckets => ⟨"hot.active_buckets", ""⟩

end Hot.Request

namespace Cold.Request

/-- The place of a call to the cold tier. -/
def place {α : Type} : Cold.Request α → Place
  | accumulate target _ _ =>
    ⟨"cold.accumulate", target.type.tag ++ ":" ++ Nat.repr target.resource.toNat⟩
  | sumByGroup _ => ⟨"cold.sum_by_group", ""⟩
  | top _ _ => ⟨"cold.top_n", ""⟩
  | trend _ _ _ _ => ⟨"cold.trend", ""⟩

end Cold.Request

namespace Side.Request

/-- The place of a call to the side store. -/
def place {α : Type} : Side.Request α → Place
  | increment key _ _ _ => ⟨"state.incr_field", key⟩
  | setIfAbsent key _ _ _ => ⟨"state.set_field_if_absent", key⟩
  | swap key _ _ _ _ => ⟨"state.compare_and_set_field", key⟩
  | fields key => ⟨"state.get_all", key⟩
  | delete key => ⟨"state.delete", key⟩

end Side.Request

/-- Something that happens right before a call. -/
inductive Disturbance
  | arrival (key : Key) (traffic : Traffic)
  | removal (key : Key)
  /-- Time passes, in nanoseconds. -/
  | passing (span : Int)
  | cancellation
  /-- The other tasks get some turns. -/
  | yielding (turns : Nat)
  | failure (why : Error)

/-- What is planned for some calls. -/
structure Interruption where
  call : String
  /-- What the call has to be about; anything where it is absent. -/
  subject : Option String := none
  /-- Calls that it still meets; any number where it is absent. -/
  uses : Option Nat := some 1
  disturbances : List Disturbance

/-- The interruption fits a place. -/
def Interruption.fits (i : Interruption) (place : Place) : Bool :=
  i.call == place.call && i.subject.all (· == place.subject)

/-- What is left of an interruption after a use. -/
def Interruption.used (i : Interruption) : Option Interruption :=
  match i.uses with
  | none => some i
  | some n => if n ≤ 1 then none else some { i with uses := some (n - 1) }

/-- Takes the first interruption that fits a place out of a plan, or one use of it. -/
def takeInterruption (place : Place) :
    List Interruption → List Disturbance × List Interruption
  | [] => ([], [])
  | i :: rest =>
    if i.fits place then (i.disturbances, i.used.toList ++ rest)
    else
      let (found, rest) := takeInterruption place rest
      (found, i :: rest)

/-- A world with a plan of interruptions. -/
structure Scene where
  world : World
  plan : List Interruption := []

instance : Inhabited Scene := ⟨{ world := default }⟩

namespace Scene

/-- What happens at once in a scene. -/
inductive Step : Type → Type 1
  /-- A program comes to a place and learns what is planned for it. -/
  | enter (place : Place) : Step (List Disturbance)
  | disturb (disturbance : Disturbance) : Step Unit
  | answer {α : Type} (request : Request α) : Step α

/-- A world after a disturbance; turns and failures do not change it. -/
def disturbed (w : World) : Disturbance → World
  | .arrival key traffic => { w with hot := w.hot.increment w.now key traffic }
  | .removal key => { w with hot := (w.hot.forget key).2 }
  | .passing span => { w with now := w.now.addNanos span }
  | .cancellation => { w with isCancelled := true }
  | .yielding _ | .failure _ => w

/-- What a step answers. -/
def answerStep {α : Type} (step : Step α) (s : Scene) : α × Scene :=
  match step with
  | .enter place =>
    let (disturbances, plan) := takeInterruption place s.plan
    (disturbances, { s with plan })
  | .disturb disturbance => ((), { s with world := disturbed s.world disturbance })
  | .answer request =>
    let (answer, world) := s.world.answer request
    (answer, { s with world })

/-- Gives way some times. -/
def yield : Nat → Program Step Unit
  | 0 => pure ()
  | turns + 1 => .pause (yield turns)

/-- Lets disturbances happen; tells the failure of the call, if there is one. -/
def suffer : List Disturbance → Program Step (Option Error)
  | [] => return none
  | .failure why :: _ => return some why
  | .yielding turns :: rest => do
    yield turns
    suffer rest
  | d :: rest => do
    .ask (.disturb d)
    suffer rest

/-- Makes a call after what is planned for it. -/
def call {α : Type} (place : Place) (request : Request (Except Error α)) :
    Program Step (Except Error α) := do
  match ← suffer (← .ask (.enter place)) with
  | some why => return .error why
  | none => .ask (.answer request)

/-- Makes a swap after what is planned for it. -/
def contend {α : Type} (place : Place) (request : Request (Except Error α)) :
    Program Step (Except Error α) := do
  if (← suffer (← .ask (.enter place))).isSome then
    let _ ← .ask (.answer request)
  .ask (.answer request)

/-- A request in a scene. -/
def perform {α : Type} (request : Request α) : Program Step α :=
  match request with
  | .hot r => call r.place (.hot r)
  | .cold r => call r.place (.cold r)
  | .side r@(.swap ..) => contend r.place (.side r)
  | .side r => call r.place (.side r)
  | .now => .ask (.answer .now)
  | .isCancelled => .ask (.answer .isCancelled)
  | .record event => .ask (.answer (.record event))

/-- Turns that a program gets before it runs on undisturbed by other tasks. -/
def maxTurns : Nat := 100000

/-- Runs a program of the ledger. -/
def run {α : Type} (s : Scene) (p : Procedure α) : α × Scene :=
  (p.expand perform).run answerStep maxTurns s

/-- Moves the clock. -/
def setClock (s : Scene) (now : Instant) : Scene := { s with world := { s.world with now } }

/-- Says whether the work that follows is cancelled. -/
def setCancelled (s : Scene) (isCancelled : Bool) : Scene :=
  { s with world := { s.world with isCancelled } }

end Scene

end Metering
