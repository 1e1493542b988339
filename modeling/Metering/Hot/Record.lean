import Metering.Key
import Metering.Traffic

/-!
# Hot records

What the hot tier tells about one counter: the traffic counted so far and the part of it that the
cold tier already has. The rest is pending. A counter below its flushed part has been reset.
-/

namespace Metering.Hot

/-- A counter together with its flushed part. -/
@[ext]
structure Record where
  key : Key
  traffic : Traffic
  flushed : Traffic
deriving DecidableEq, Inhabited

namespace Record

/-- What the cold tier does not have yet, zero in a direction that was reset. -/
def pending (r : Record) : Traffic := r.traffic - r.flushed

/-- A direction has counted less than was flushed of it. -/
def isReset (r : Record) : Bool :=
  r.traffic.upload < r.flushed.upload || r.traffic.download < r.flushed.download

end Record

/-- Answer to a point read. -/
structure Reading where
  traffic : Traffic
  isPresent : Bool
deriving DecidableEq, Inhabited

/-- The answer where there is no record. -/
def Reading.absent : Reading := ⟨0, false⟩

/-- What a marker commit found. -/
inductive Commit
  /-- The counter was as expected; the key is no longer active. -/
  | settled
  /-- The counter had moved on; the key stays active. -/
  | retained
  /-- There was no record. -/
  | missing
deriving DecidableEq, Repr

/-- The markers were written. -/
def Commit.isWritten : Commit → Bool
  | .settled | .retained => true
  | .missing => false

end Metering.Hot
