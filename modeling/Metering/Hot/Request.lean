import Metering.Hot.Store

/-!
# Requests to the hot tier

Each constructor is one call that happens at once; its index is the type of the answer. `Store.answer`
says what a hot store does with a request at a given instant.
-/

namespace Metering.Hot

/-- A call to the hot tier. -/
inductive Request : Type → Type
  | increment (key : Key) (traffic : Traffic) : Request Unit
  | incrementAll (entries : List (Key × Traffic)) : Request Unit
  | read (key : Key) : Request Reading
  | readBucket (bucket : Bucket) : Request (List Record)
  | takeBucket (bucket : Bucket) : Request (List Record)
  | clearBucket (bucket : Bucket) : Request Nat
  | activeKeys (limit : Nat) : Request (List Key)
  | snapshot (keys : List Key) : Request (List (Option Record))
  | commit (key : Key) (expected markers : Traffic) : Request Commit
  | settle (key : Key) (purge : Bool) : Request Bool
  | seed (key : Key) (baseline : Traffic) : Request Nat
  | forget (key : Key) : Request Bool
  | activeBuckets : Request (List Bucket)

/-- The answer of a store to a request at `now`, and the store after it. -/
def Store.answer {α : Type} (s : Store) (now : Instant) : Request α → α × Store
  | .increment key traffic => ((), s.increment now key traffic)
  | .incrementAll entries => ((), s.incrementAll now entries)
  | .read key => (s.read now key, s)
  | .readBucket bucket => s.readBucket now bucket
  | .takeBucket bucket => s.takeBucket now bucket
  | .clearBucket bucket =>
    let (records, s) := s.takeBucket now bucket
    (records.length, s)
  | .activeKeys limit => s.activeKeys now limit
  | .snapshot keys => (s.snapshot now keys, s)
  | .commit key expected markers => s.commit now key expected markers
  | .settle key purge => s.settle now key purge
  | .seed key baseline => s.seed now key baseline
  | .forget key => s.forget key
  | .activeBuckets => s.activeBuckets now

end Metering.Hot
