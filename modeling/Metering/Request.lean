import Metering.Cold.Request
import Metering.Hot.Request
import Metering.Metrics
import Metering.Program
import Metering.Side.Request

/-!
# Requests of the ledger

A program of the ledger calls the three stores, any of which may fail, reads the clock, asks whether
it was cancelled, and reports events. `Task` is a program that may end with an error.

`World` is the plain environment of such programs: stores in memory, a clock that stands still, a
flag and the metrics.
-/

namespace Metering

/-- What a program of the ledger can ask for. -/
inductive Request : Type → Type 1
  | hot {α : Type} (request : Hot.Request α) : Request (Except Error α)
  | cold {α : Type} (request : Cold.Request α) : Request (Except Error α)
  | side {α : Type} (request : Side.Request α) : Request (Except Error α)
  | now : Request Instant
  | isCancelled : Request Bool
  | record (event : Event) : Request Unit

/-- A program of the ledger. -/
abbrev Procedure := Program Request

/-- A program of the ledger that may fail. -/
abbrev Task := ExceptT Error Procedure

namespace Procedure

/-- Reads the clock. -/
def now : Procedure Instant := .ask .now

/-- Asks whether the work was cancelled. -/
def isCancelled : Procedure Bool := .ask .isCancelled

/-- Reports an event. -/
def record (event : Event) : Procedure Unit := .ask (.record event)

/-- Calls the hot tier. -/
def hot {α : Type} (request : Hot.Request α) : Procedure (Except Error α) := .ask (.hot request)

/-- Calls the cold tier. -/
def cold {α : Type} (request : Cold.Request α) : Procedure (Except Error α) := .ask (.cold request)

/-- Calls the side store. -/
def side {α : Type} (request : Side.Request α) : Procedure (Except Error α) := .ask (.side request)

end Procedure

namespace Task

/-- Calls the hot tier, and fails if it does. -/
def hot {α : Type} (request : Hot.Request α) : Task α := .mk (Procedure.hot request)

/-- Calls the cold tier, and fails if it does. -/
def cold {α : Type} (request : Cold.Request α) : Task α := .mk (Procedure.cold request)

/-- Calls the side store, and fails if it does. -/
def side {α : Type} (request : Side.Request α) : Task α := .mk (Procedure.side request)

/-- Fails if a check does. -/
def check {α : Type} (result : Except Rejection α) : Task α :=
  .mk (pure (result.mapError .rejected))

/-- Runs a procedure, which never fails. -/
def perform {α : Type} (p : Procedure α) : Task α := ExceptT.lift p

end Task

/-- Stores in memory, and what stands around them. -/
structure World where
  now : Instant
  hot : Hot.Store
  cold : Cold.Store := {}
  side : Side.Store := ∅
  isCancelled : Bool := false
  metrics : Metrics := {}

instance : Inhabited World := ⟨{ now := default, hot := default }⟩

/-- What the stores in memory answer. -/
def World.answer {α : Type} (request : Request α) (w : World) : α × World :=
  match request with
  | .hot r =>
    let (a, hot) := w.hot.answer w.now r
    (.ok a, { w with hot })
  | .cold r =>
    let (a, cold) := w.cold.answer r
    (a, { w with cold })
  | .side r =>
    let (a, side) := Side.Store.answer w.side w.now r
    (a, { w with side })
  | .now => (w.now, w)
  | .isCancelled => (w.isCancelled, w)
  | .record event => ((), { w with metrics := w.metrics.record event })

end Metering
