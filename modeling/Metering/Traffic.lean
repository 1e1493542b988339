import Metering.Count

/-!
# Traffic

Uploaded and downloaded bytes as one value. Sums are taken per direction and saturate, so they form
a commutative monoid like the counters they are made of.

Results: `Traffic.add_comm`, `Traffic.add_assoc`, `Traffic.zero_add`, `Traffic.isZero_iff`.
-/

namespace Metering

/-- Bytes in both directions. -/
@[ext]
structure Traffic where
  upload : Count
  download : Count
deriving DecidableEq, Inhabited

namespace Traffic

/-- Traffic from two numbers of bytes. -/
def ofNats (upload download : Nat) : Traffic := ⟨.ofNat upload, .ofNat download⟩

instance : Zero Traffic := ⟨⟨0, 0⟩⟩
instance : Add Traffic := ⟨fun a b => ⟨a.upload + b.upload, a.download + b.download⟩⟩

/-- What `a` has beyond `b`, per direction. -/
instance : Sub Traffic := ⟨fun a b => ⟨a.upload - b.upload, a.download - b.download⟩⟩

/-- Both directions together. -/
def total (t : Traffic) : Count := t.upload + t.download

/-- Nothing in either direction. -/
def isZero (t : Traffic) : Bool := t.upload == 0 && t.download == 0

@[simp] theorem upload_zero : (0 : Traffic).upload = 0 := rfl
@[simp] theorem download_zero : (0 : Traffic).download = 0 := rfl
@[simp] theorem upload_add (a b : Traffic) : (a + b).upload = a.upload + b.upload := rfl
@[simp] theorem download_add (a b : Traffic) : (a + b).download = a.download + b.download := rfl
@[simp] theorem upload_sub (a b : Traffic) : (a - b).upload = a.upload - b.upload := rfl
@[simp] theorem download_sub (a b : Traffic) : (a - b).download = a.download - b.download := rfl

theorem isZero_iff {t : Traffic} : t.isZero = true ↔ t = 0 := by
  simp [isZero, Traffic.ext_iff]

theorem add_comm (a b : Traffic) : a + b = b + a := by
  ext1
  · exact Count.add_comm ..
  · exact Count.add_comm ..

theorem add_assoc (a b c : Traffic) : a + b + c = a + (b + c) := by
  ext1
  · exact Count.add_assoc ..
  · exact Count.add_assoc ..

theorem zero_add (a : Traffic) : 0 + a = a := by
  ext1
  · exact Count.zero_add _
  · exact Count.zero_add _

theorem add_zero (a : Traffic) : a + 0 = a := by
  rw [add_comm, zero_add]

/-- The saturating sum of a list. -/
def sum (ts : List Traffic) : Traffic := ts.foldl (· + ·) 0

end Traffic

end Metering
