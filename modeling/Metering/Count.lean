/-!
# Byte counters

A counter holds between `0` and `2^64 - 1` bytes and sticks at the top instead of wrapping.
Saturating addition makes the counters a commutative monoid, so a sum of counters does not depend
on the order in which its parts arrive.

Results: `Count.add_comm`, `Count.add_assoc`, `Count.zero_add`, and `Count.toNat_add`, which turns
a question about counters into one about natural numbers.
-/

namespace Metering

/-- A byte counter of 64 bits. -/
structure Count where
  /-- The number of bytes. -/
  toNat : Nat
  toNat_lt : toNat < 0x10000000000000000 := by omega
deriving DecidableEq

namespace Count

/-- The largest counter. -/
def top : Nat := 0xffffffffffffffff

/-- The counter nearest to `n`. -/
def ofNat (n : Nat) : Count :=
  ⟨min n top, by unfold top; omega⟩

instance : Zero Count := ⟨⟨0, by omega⟩⟩
instance : Inhabited Count := ⟨0⟩

/-- Addition that stops at `top`. -/
instance : Add Count := ⟨fun a b => ofNat (a.toNat + b.toNat)⟩

/-- Subtraction that stops at zero. -/
instance : Sub Count := ⟨fun a b => ⟨a.toNat - b.toNat, by have := a.toNat_lt; omega⟩⟩

instance : LT Count := ⟨fun a b => a.toNat < b.toNat⟩
instance : LE Count := ⟨fun a b => a.toNat ≤ b.toNat⟩
instance (a b : Count) : Decidable (a < b) := inferInstanceAs (Decidable (a.toNat < b.toNat))
instance (a b : Count) : Decidable (a ≤ b) := inferInstanceAs (Decidable (a.toNat ≤ b.toNat))
instance : Ord Count := ⟨fun a b => compare a.toNat b.toNat⟩

@[ext]
theorem ext {a b : Count} (h : a.toNat = b.toNat) : a = b := by
  cases a; cases b; cases h; rfl

@[simp] theorem toNat_ofNat (n : Nat) : (ofNat n).toNat = min n top := rfl

@[simp] theorem toNat_zero : (0 : Count).toNat = 0 := rfl

@[simp] theorem toNat_add (a b : Count) : (a + b).toNat = min (a.toNat + b.toNat) top := rfl

@[simp] theorem toNat_sub (a b : Count) : (a - b).toNat = a.toNat - b.toNat := rfl

theorem le_def {a b : Count} : a ≤ b ↔ a.toNat ≤ b.toNat := Iff.rfl

theorem lt_def {a b : Count} : a < b ↔ a.toNat < b.toNat := Iff.rfl

theorem toNat_le_top (a : Count) : a.toNat ≤ top := by
  have := a.toNat_lt
  unfold top
  omega

theorem add_comm (a b : Count) : a + b = b + a := by
  ext
  simp [Nat.add_comm]

theorem add_assoc (a b c : Count) : a + b + c = a + (b + c) := by
  ext
  simp only [toNat_add]
  omega

theorem zero_add (a : Count) : 0 + a = a := by
  ext
  have := a.toNat_le_top
  simp only [toNat_add, toNat_zero]
  omega

end Count

end Metering
