/-!
# Tables of code points

Properties of characters are kept as ranges of code points in ascending order. A look-up halves the
part of the table that is left.
-/

namespace Metering

/-- The entry whose range holds `n`, among those from number `low` on, below number `high`. -/
def searchRanges {α : Type} (bounds : α → Nat × Nat) (table : Array α) (n low high : Nat) :
    Option α :=
  if low < high then
    let middle := (low + high) / 2
    match table[middle]? with
    | none => none
    | some entry =>
      if n < (bounds entry).1 then searchRanges bounds table n low middle
      else if (bounds entry).2 < n then searchRanges bounds table n (middle + 1) high
      else some entry
  else none
termination_by high - low

/-- The entry whose range holds `n`. -/
def findRange? {α : Type} (bounds : α → Nat × Nat) (table : Array α) (n : Nat) : Option α :=
  searchRanges bounds table n 0 table.size

/-- A character lies in one of some ranges. -/
def inRanges (ranges : Array (Nat × Nat)) (c : Char) : Bool := (findRange? id ranges c.toNat).isSome

/-- The value of the range in which a character lies. -/
def rangeValue? {α : Type} (ranges : Array (Nat × Nat × α)) (c : Char) : Option α :=
  (findRange? (fun range => (range.1, range.2.1)) ranges c.toNat).map (·.2.2)

end Metering
