import Metering.Proofs.Compaction.Stage
import Metering.Proofs.Program.Completion

/-!
# Stores of which some calls fail

An outage says of each request whether it fails, and how, for as long as the outage lasts. What does
not fail is answered by the stores in memory.
-/

namespace Metering

open Program (Reaches)

/-- The requests that fail, each with its failure. -/
structure Outage where
  failure? : {β : Type} → Request β → Option Error

/-- What stores answer during an outage; only calls of a store can fail. -/
def Outage.answer (o : Outage) {β : Type} (request : Request β) (w : World) : β × World :=
  Compaction.Stage.reply (o.failure? request) request w

/-- Outages of some rows of the cold tier: writes to them fail. -/
def Outage.ofRows (failure? : Cold.RowKey → Option Error) : Outage :=
  ⟨fun request => match request with
    | .cold (.accumulate target bucket _) => failure? ⟨bucket, target⟩
    | _ => none⟩

/-- Outages of some hours of the hot tier, and of the cold tier as a whole. -/
def Outage.ofTiers (hour? : Bucket → Option Error) (cold? : Option Error) : Outage :=
  ⟨fun request => match request with
    | .hot (.readBucket bucket) => hour? bucket
    | .cold _ => cold?
    | _ => none⟩

/-- The task comes to its end, with one result in whatever order its requests come in. -/
def Outage.Gives (o : Outage) {α : Type} (task : Task α) (w : World) (result : Except Error α) :
    Prop :=
  (∃ t, Reaches o.answer task.run w (.pure result) t) ∧
    ∀ result' t, Reaches o.answer task.run w (.pure result') t → result' = result

theorem Outage.Gives.unique {o : Outage} {α : Type} {task : Task α} {w : World}
    {result result' : Except Error α} (h : o.Gives task w result) (h' : o.Gives task w result') :
    result = result' := by
  obtain ⟨⟨t, reached⟩, -⟩ := h
  exact h'.2 result t reached

end Metering
