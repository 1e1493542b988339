import Metering.Error

/-!
# Pages

A page of a list is given by its number, from 1 on, and its size.
-/

namespace Metering

/-- Size of a machine word, less one. -/
def maxWord : Nat := 0xffffffffffffffff

/-- A request for a page. -/
structure Page where
  number : Nat
  size : Nat
deriving DecidableEq

namespace Page

/-- The page of that number and size; neither may be zero. -/
def of (number size : Nat) : Except Rejection Page :=
  if number = 0 ∨ size = 0 then .error (.page number size) else .ok ⟨number, size⟩

/-- Number of elements before the page, at most the largest word. -/
def offset (p : Page) : Nat := min ((p.number - 1) * p.size) maxWord

/-- The elements on the page. -/
def slice {α : Type} (p : Page) (xs : List α) : List α := (xs.drop p.offset).take p.size

end Page

end Metering
