import Metering.Group
import Metering.Time.Range
import Std.Data.ExtTreeMap
import Std.Data.ExtTreeSet

/-!
# The cold store

Rows that only grow: one per hour and target, where a target is a resource with, or without, the
subscription it is charged to. Reads walk the rows of a range in the order of hours and targets,
keep those that pass, and sum the first of them up to a cap; the number that passed is told too.

A resource can be retired, after which it takes no more writes, and the whole store can be offline.
-/

namespace Metering.Cold

/-- A resource, with the subscription it is charged to if there is one. -/
@[ext]
structure Target where
  type : ResourceType
  resource : Id
  subscription : Option Id
deriving DecidableEq, Inhabited

namespace Target

instance : Ord Target :=
  ⟨compareLex (compareOn type) (compareLex (compareOn resource) (compareOn subscription))⟩

instance : Std.TransOrd Target :=
  inferInstanceAs (Std.TransCmp (compareLex (compareOn type)
    (compareLex (compareOn resource) (compareOn subscription))))

instance : Std.LawfulEqOrd Target where
  eq_of_compare {a b} h := by
    have h₁ := Ordering.then_eq_eq.1 (show (compare a.type b.type).then
      ((compare a.resource b.resource).then (compare a.subscription b.subscription)) = .eq from h)
    have h₂ := Ordering.then_eq_eq.1 h₁.2
    exact Target.ext (Std.LawfulEqCmp.eq_of_compare h₁.1) (Std.LawfulEqCmp.eq_of_compare h₂.1)
      (Std.LawfulEqCmp.eq_of_compare h₂.2)

/-- The target of a hot counter. -/
def ofKey (key : Key) : Target := ⟨key.type, key.resource, some key.subscription⟩

/-- The group of a target; without a subscription it belongs to no group of subscriptions. -/
def group? (t : Target) (dimension : Dimension) : Option Group :=
  match dimension, t.subscription with
  | .subscription, none => none
  | _, subscription => some (.of dimension (subscription.getD 0) t.type t.resource)

end Target

/-- Address of a row: the hour, then the target. -/
@[ext]
structure RowKey where
  bucket : Bucket
  target : Target
deriving DecidableEq, Inhabited

namespace RowKey

instance : Ord RowKey := ⟨compareLex (compareOn bucket) (compareOn target)⟩

instance : Std.TransOrd RowKey :=
  inferInstanceAs (Std.TransCmp (compareLex (compareOn bucket) (compareOn target)))

instance : Std.LawfulEqOrd RowKey where
  eq_of_compare {a b} h := by
    have h' := Ordering.then_eq_eq.1 (show (compare a.bucket b.bucket).then
      (compare a.target b.target) = .eq from h)
    exact RowKey.ext (Std.LawfulEqCmp.eq_of_compare h'.1) (Std.LawfulEqCmp.eq_of_compare h'.2)

/-- The row to which a hot counter is flushed. -/
def ofKey (key : Key) : RowKey := ⟨key.bucket, .ofKey key⟩

end RowKey

/-- A row with its address. -/
abbrev Row := RowKey × Traffic

/-- A result, and how many rows passed before the cap was applied. -/
structure Capped (α : Type) where
  value : α
  totalRows : Nat
  isTruncated : Bool

/-- Rows that a read takes at most where nothing else is said. -/
def defaultRowCap : Nat := 100000

/-- What to sum. -/
structure Query where
  dimension : Dimension
  type : Option ResourceType
  range : BucketRange
  rowCap : Nat

/-- A type passes a filter: no filter lets all types pass. -/
def passes (filter : Option ResourceType) (type : ResourceType) : Bool :=
  filter.all (· == type)

/-- Sum of traffic by a key. -/
abbrev Sums (κ : Type) [Ord κ] := Std.ExtTreeMap κ Traffic

/-- Adds to the sum of one key. -/
def Sums.add {κ : Type} [Ord κ] [Std.TransOrd κ] (sums : Sums κ) (key : κ) (traffic : Traffic) :
    Sums κ :=
  sums.alter key fun sum? => some (sum?.getD 0 + traffic)

/-- Sums the traffic of a list by the keys given to its elements. -/
def Sums.ofList {κ : Type} [Ord κ] [Std.TransOrd κ] (parts : List (κ × Traffic)) : Sums κ :=
  parts.foldl (fun sums part => sums.add part.1 part.2) ∅

/-- A cold store. -/
structure Store where
  rows : Std.ExtTreeMap RowKey Traffic := ∅
  /-- Resources that take no more writes. -/
  retired : List (ResourceType × Id) := []
  isOffline : Bool := false
  /-- Number of writes that reached a row. -/
  writes : Nat := 0

instance : Inhabited Store := ⟨{}⟩

namespace Store

/-- What every call answers while the store is offline. -/
def offlineError : Error := .unavailable .cold "cold store offline"

/-- What a write for a retired resource answers. -/
def goneError (target : Target) : Error :=
  .notFound s!"{target.type.tag} {target.resource.toNat} no longer exists"

/-- Adds traffic to a row. -/
def accumulate (s : Store) (target : Target) (bucket : Bucket) (traffic : Traffic) :
    Except Error Unit × Store :=
  if s.isOffline then (.error offlineError, s)
  else if traffic.isZero then (.ok (), s)
  else if s.retired.contains (target.type, target.resource) then (.error (goneError target), s)
  else
    (.ok (), { s with
      rows := Sums.add s.rows ⟨bucket, target⟩ traffic
      writes := s.writes + 1 })

/-- The rows of a range that pass, in the order of hours and targets. -/
def scan (s : Store) (range : BucketRange) (keep : Target → Bool) : List Row :=
  s.rows.toList.filter fun row => range.contains row.1.bucket && keep row.1.target

/-- The first rows up to the cap, and whether there were more. -/
def capped (rows : List Row) (rowCap : Nat) : Capped (List Row) :=
  ⟨rows.take rowCap, rows.length, rowCap < rows.length⟩

/-- Sums per group. -/
def grouped (s : Store) (q : Query) : Capped (Sums Group) :=
  let rows := capped (s.scan q.range fun target =>
    passes q.type target.type && (target.group? q.dimension).isSome) q.rowCap
  { rows with value := .ofList (rows.value.filterMap fun (key, traffic) =>
      (key.target.group? q.dimension).map (·, traffic)) }

/-- Sums per group, if the store can be reached. -/
def sumByGroup (s : Store) (q : Query) : Except Error (Capped (Sums Group)) :=
  if s.isOffline then .error offlineError else .ok (s.grouped q)

/-- The `n` groups with the largest totals. -/
def top (s : Store) (q : Query) (n : Nat) : Except Error (Capped (List (Group × Traffic))) := do
  let sums ← s.sumByGroup q
  return { sums with value := (Group.ranked sums.value.toList).take n }

/-- Sums per period, oldest first. -/
def trend (s : Store) (filter : Option ResourceType) (range : BucketRange) (g : Granularity)
    (rowCap : Nat) : Except Error (Capped (List (Moment × Traffic))) :=
  if s.isOffline then .error offlineError
  else
    let rows := capped (s.scan range fun target => passes filter target.type) rowCap
    let sums : Sums Moment := .ofList (rows.value.map fun (key, traffic) =>
      (key.bucket.periodStart g, traffic))
    .ok { rows with value := sums.toList }

/-- The row of a target in an hour. -/
def row (s : Store) (target : Target) (bucket : Bucket) : Option Traffic :=
  s.rows[(⟨bucket, target⟩ : RowKey)]?

/-- Everything counted for a target. -/
def totalFor (s : Store) (target : Target) : Traffic :=
  .sum ((s.rows.toList.filter fun row => row.1.target == target).map (·.2))

end Store

end Metering.Cold
