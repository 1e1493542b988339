import Metering.Cold.Store

/-!
# Requests to the cold tier

The calls that the ledger makes to the durable store, with the type of the answer as index.
-/

namespace Metering.Cold

/-- A call to the cold tier. -/
inductive Request : Type → Type
  | accumulate (target : Target) (bucket : Bucket) (traffic : Traffic) : Request Unit
  | sumByGroup (query : Query) : Request (Capped (Sums Group))
  | top (query : Query) (count : Nat) : Request (Capped (List (Group × Traffic)))
  | trend (filter : Option ResourceType) (range : BucketRange) (granularity : Granularity)
      (rowCap : Nat) : Request (Capped (List (Moment × Traffic)))

/-- The answer of a store to a request, and the store after it. -/
def Store.answer {α : Type} (s : Store) : Request α → Except Error α × Store
  | .accumulate target bucket traffic => s.accumulate target bucket traffic
  | .sumByGroup query => (s.sumByGroup query, s)
  | .top query count => (s.top query count, s)
  | .trend filter range granularity rowCap => (s.trend filter range granularity rowCap, s)

end Metering.Cold
