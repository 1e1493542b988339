import Metering.Error
import Metering.Text.Blank

/-!
# Resource types

What is metered is named by a tag. Three tags are known; any other acceptable tag stands for itself.
A tag is acceptable when it has 1 to 32 bytes, no colon, no white space and no control character.

The order puts the known types first, then the others by their bytes.
-/

namespace Metering

/-- Identifier of a subscription or of a resource. -/
abbrev Id := UInt64

/-- Kind of metered resource. -/
inductive ResourceType
  | node
  | forwardRule
  | subscription
  | custom (tag : String)
deriving DecidableEq, Inhabited

namespace ResourceType

/-- The stored tag. -/
def tag : ResourceType → String
  | node => "node"
  | forwardRule => "forward_rule"
  | subscription => "subscription"
  | custom tag => tag

/-- The type that an acceptable tag names. -/
def ofTag (tag : String) : ResourceType :=
  if tag = "node" then node
  else if tag = "forward_rule" then forwardRule
  else if tag = "subscription" then subscription
  else custom tag

/-- The first rule that a tag breaks. -/
def fault? (tag : String) : Option Rejection :=
  if tag = "" then some .emptyType
  else if tag.utf8ByteSize > maxTypeBytes then some (.longType tag)
  else if tag.toList.contains ':' then some (.delimitedType tag)
  else if tag.toList.any fun c => isBlank c || isControl c then some (.blankType tag)
  else none

/-- The type with a given tag. -/
def parse (tag : String) : Except Rejection ResourceType :=
  match fault? tag with
  | some why => .error why
  | none => .ok (ofTag tag)

/-- Place of the known types before all others. -/
def rank : ResourceType → Nat
  | node => 0
  | forwardRule => 1
  | subscription => 2
  | custom _ => 3

instance : Ord ResourceType := ⟨compareLex (compareOn rank) (compareOn tag)⟩

instance : Std.TransOrd ResourceType :=
  inferInstanceAs (Std.TransCmp (compareLex (compareOn rank) (compareOn tag)))

instance : Std.LawfulEqOrd ResourceType where
  eq_of_compare {a b} h := by
    have h' := Ordering.then_eq_eq.1 (show (compare a.rank b.rank).then
      (compare a.tag b.tag) = .eq from h)
    have hr := Std.LawfulEqCmp.eq_of_compare h'.1
    have ht := Std.LawfulEqCmp.eq_of_compare h'.2
    cases a <;> cases b <;> simp_all [rank, tag]

/-- Name of the constructor. -/
def variant : ResourceType → String
  | node => "Node"
  | forwardRule => "ForwardRule"
  | subscription => "Subscription"
  | custom _ => "Custom"

theorem tag_ofTag (tag : String) : (ofTag tag).tag = tag := by
  unfold ofTag
  split
  · next h => exact h.symm
  · split
    · next h => exact h.symm
    · split
      · next h => exact h.symm
      · rfl

end ResourceType

end Metering
