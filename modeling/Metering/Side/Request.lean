import Metering.Side.Store

/-!
# Requests to the side store

The calls that quotas and alerts make, with the type of the answer as index. Life spans are in
nanoseconds.
-/

namespace Metering.Side

/-- A call to the side store. -/
inductive Request : Type → Type
  | increment (key field : String) (delta : Int) (lifespan : Int) : Request Int
  | setIfAbsent (key field value : String) (lifespan : Int) : Request Bool
  | swap (key field : String) (expected : Option String) (value : String) (lifespan : Int) :
      Request Bool
  | fields (key : String) : Request Fields
  | delete (key : String) : Request Bool

/-- The answer of a store to a request at `now`, and the store after it. -/
def Store.answer {α : Type} (s : Store) (now : Instant) : Request α → Except Error α × Store
  | .increment key field delta lifespan => s.increment now key field delta lifespan
  | .setIfAbsent key field value lifespan =>
    let (set, s) := s.setIfAbsent now key field value lifespan
    (.ok set, s)
  | .swap key field expected value lifespan =>
    let (swapped, s) := s.swap now key field expected value lifespan
    (.ok swapped, s)
  | .fields key => (.ok (s.fields now key), s)
  | .delete key =>
    let (deleted, s) := s.delete now key
    (.ok deleted, s)

end Metering.Side
