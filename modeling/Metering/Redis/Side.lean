import Metering.Redis.Attempt

/-!
# The side store on a Redis server

Each record is a table on the server, and each change of one field a script that renews the record's
life span. The connection is shared with the hot tier, but an outage is told as one of the side store.
-/

namespace Metering.Redis.Side

/-- A life span in seconds as the server takes it; no record expires at once. -/
def lifespanText (lifespan : Int) : String :=
  Nat.repr (max (lifespan / Instant.nanosPerSecond).toNat 1)

/-- An outage of the shared connection, told of the side store. -/
def sideError : Error → Error
  | .unavailable .hot why => .unavailable .state why
  | e => e

/-- Makes a call and goes on with what came back. -/
def perform {α β : Type} (s : Settings) (repetition : Repetition) (call : Call α) (f : α → β) :
    Program Exchange (Except Error β) := do
  return ((← Redis.perform s repetition call).mapError sideError).map f

/-- What the store on the server answers to a request. -/
def answer {α : Type} (s : Settings) : Metering.Side.Request α → Program Exchange (Except Error α)
  | .increment key field delta lifespan =>
    perform s .forbidden (Call.count .addToField [key] [field, toString delta, lifespanText lifespan])
      id
  | .setIfAbsent key field value lifespan =>
    perform s .forbidden (Call.count .setIfAbsent [key] [field, value, lifespanText lifespan])
      (· = 1)
  | .swap key field expected value lifespan =>
    perform s .forbidden (Call.count .swapField [key]
      [field, expected.getD "", value, lifespanText lifespan]) (· = 1)
  | .fields key => perform s .harmless (do Call.reading (← Call.ask ["HGETALL", key]).table)
      (Std.ExtTreeMap.ofList ·)
  | .delete key => perform s .harmless (do Call.reading (← Call.ask ["DEL", key]).int64) (0 < ·)

end Metering.Redis.Side
