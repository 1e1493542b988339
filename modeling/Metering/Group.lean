import Metering.Key
import Metering.Traffic

/-!
# Groups

A report sums traffic per subscription, per resource or over the whole platform. The groups of a
report are ranked by their total, the largest first; groups of one total are in the order of their
keys.
-/

namespace Metering

/-- What a report groups by. -/
inductive Dimension
  | subscription
  | resource
  | platform
deriving DecidableEq, Repr

/-- Word for a dimension. -/
def Dimension.word : Dimension → String
  | subscription => "subscription"
  | resource => "resource"
  | platform => "platform_total"

/-- A group of a report. -/
inductive Group
  | total
  | subscription (id : Id)
  | resource (type : ResourceType) (id : Id)
deriving DecidableEq, Inhabited

namespace Group

/-- The group of a resource of a subscription. -/
def of (dimension : Dimension) (subscription : Id) (type : ResourceType) (resource : Id) : Group :=
  match dimension with
  | .subscription => .subscription subscription
  | .resource => .resource type resource
  | .platform => .total

/-- The group to which a hot counter belongs. -/
def ofKey (dimension : Dimension) (key : Key) : Group :=
  of dimension key.subscription key.type key.resource

/-- The written form. -/
def text : Group → String
  | total => "total"
  | subscription id => "subscription:" ++ Nat.repr id.toNat
  | resource type id => type.tag ++ ":" ++ Nat.repr id.toNat

/-- The total first, then subscriptions, then resources. -/
def rank : Group → Nat
  | total => 0
  | subscription _ => 1
  | resource .. => 2

/-- The type of a resource group; any type for the others. -/
def sortType : Group → ResourceType
  | resource type _ => type
  | _ => .node

/-- The identifier of a group; zero for the total. -/
def sortId : Group → Id
  | total => 0
  | subscription id => id
  | resource _ id => id

instance : Ord Group :=
  ⟨compareLex (compareOn rank) (compareLex (compareOn sortType) (compareOn sortId))⟩

instance : Std.TransOrd Group :=
  inferInstanceAs (Std.TransCmp (compareLex (compareOn rank)
    (compareLex (compareOn sortType) (compareOn sortId))))

instance : Std.LawfulEqOrd Group where
  eq_of_compare {a b} h := by
    have h₁ := Ordering.then_eq_eq.1 (show (compare a.rank b.rank).then
      ((compare a.sortType b.sortType).then (compare a.sortId b.sortId)) = .eq from h)
    have h₂ := Ordering.then_eq_eq.1 h₁.2
    have hr := Std.LawfulEqCmp.eq_of_compare h₁.1
    have ht := Std.LawfulEqCmp.eq_of_compare h₂.1
    have hi := Std.LawfulEqCmp.eq_of_compare h₂.2
    cases a <;> cases b <;> simp_all [rank, sortType, sortId]

/-- Larger totals first, then smaller keys. -/
def before (a b : Group × Traffic) : Bool :=
  b.2.total < a.2.total || (a.2.total == b.2.total && (compare a.1 b.1).isLE)

/-- Groups by total, the largest first, and by key where totals agree. -/
def ranked (groups : List (Group × Traffic)) : List (Group × Traffic) :=
  groups.mergeSort before

end Group

end Metering
