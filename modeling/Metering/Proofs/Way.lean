import Metering.Hot.Store

/-!
# One direction at a time

Uploads and downloads never mix: every operation on a counter acts on both directions in the same
way. A fact about a counter is therefore stated once, for a direction, in natural numbers.

Results:
1. `Traffic.bytes`, the bytes of one direction, with its value on sums and differences.
2. `Entry.bytes_traffic_seed`, `Entry.bytes_flushed_seed`: what seeding does in a direction.
-/

namespace Metering

/-- A way that bytes go. -/
inductive Way
  | upload
  | download
deriving DecidableEq

instance Way.decidableForall {p : Way → Prop} [DecidablePred p] :
    Decidable (∀ d, p d) :=
  decidable_of_iff (p .upload ∧ p .download)
    ⟨fun h d => d.casesOn h.1 h.2, fun h => ⟨h .upload, h .download⟩⟩

namespace Traffic

/-- The bytes of one direction. -/
def bytes (t : Traffic) : Way → Nat
  | .upload => t.upload.toNat
  | .download => t.download.toNat

variable (d : Way)

@[simp] theorem bytes_zero : (0 : Traffic).bytes d = 0 := by
  cases d <;> rfl

@[simp] theorem bytes_add (a b : Traffic) :
    (a + b).bytes d = min (a.bytes d + b.bytes d) Count.top := by
  cases d <;> rfl

@[simp] theorem bytes_sub (a b : Traffic) : (a - b).bytes d = a.bytes d - b.bytes d := by
  cases d <;> rfl

theorem bytes_le_top (t : Traffic) : t.bytes d ≤ Count.top := by
  cases d
  · exact t.upload.toNat_le_top
  · exact t.download.toNat_le_top

/-- A sum that stays in range is exact. -/
theorem bytes_add_of_lt {a b : Traffic} (h : a.bytes d + b.bytes d ≤ Count.top) :
    (a + b).bytes d = a.bytes d + b.bytes d := by
  rw [bytes_add, Nat.min_eq_left h]

theorem ext_bytes {a b : Traffic} (h : ∀ d, a.bytes d = b.bytes d) : a = b := by
  ext1
  · exact Count.ext (h .upload)
  · exact Count.ext (h .download)

theorem ne_zero_iff {t : Traffic} : t ≠ 0 ↔ ∃ d, 0 < t.bytes d := by
  constructor
  · intro ne
    refine Classical.byContradiction fun none => ne (ext_bytes fun d => ?_)
    rw [bytes_zero]
    exact Nat.eq_zero_of_not_pos fun pos => none ⟨d, pos⟩
  · rintro ⟨d, pos⟩ rfl
    rw [bytes_zero] at pos
    exact Nat.lt_irrefl 0 pos

theorem add_ne_zero (a : Traffic) {b : Traffic} (h : b ≠ 0) : a + b ≠ 0 := by
  obtain ⟨d, pos⟩ := ne_zero_iff.1 h
  have top := b.bytes_le_top d
  refine ne_zero_iff.2 ⟨d, ?_⟩
  rw [bytes_add]
  omega

end Traffic

namespace Hot

theorem Record.bytes_pending (r : Record) (d : Way) :
    r.pending.bytes d = r.traffic.bytes d - r.flushed.bytes d :=
  Traffic.bytes_sub d ..

theorem Record.isReset_iff {r : Record} :
    r.isReset = true ↔ ∃ d, r.traffic.bytes d < r.flushed.bytes d := by
  rw [isReset, Bool.or_eq_true, decide_eq_true_eq, decide_eq_true_eq]
  constructor
  · rintro (up | down)
    · exact ⟨.upload, up⟩
    · exact ⟨.download, down⟩
  · rintro ⟨_ | _, below⟩
    · exact .inl below
    · exact .inr below

namespace Entry

/-- The marker of one direction. -/
def marker (e : Entry) : Way → Option Count
  | .upload => e.flushedUpload
  | .download => e.flushedDownload

/-- What the cold tier does not have yet. -/
def pending (e : Entry) : Traffic := e.traffic - e.flushed

theorem bytes_flushed (e : Entry) (d : Way) :
    e.flushed.bytes d = ((e.marker d).getD 0).toNat := by
  cases d <;> rfl

theorem bytes_pending (e : Entry) (d : Way) :
    e.pending.bytes d = e.traffic.bytes d - e.flushed.bytes d :=
  Traffic.bytes_sub d ..

@[simp] theorem traffic_mark (e : Entry) (markers : Traffic) :
    (e.mark markers).traffic = e.traffic := rfl

@[simp] theorem flushed_mark (e : Entry) (markers : Traffic) :
    (e.mark markers).flushed = markers := rfl

@[simp] theorem flushed_fresh (expiry : Instant) : (fresh expiry).flushed = 0 := rfl

@[simp] theorem traffic_fresh (expiry : Instant) : (fresh expiry).traffic = 0 := rfl

theorem isSettled_iff {e : Entry} : e.isSettled = true ↔ e.traffic = e.flushed := by
  rw [isSettled, beq_iff_eq]

theorem pending_of_isSettled {e : Entry} (settled : e.isSettled = true) : e.pending = 0 := by
  refine Traffic.ext_bytes fun d => ?_
  rw [bytes_pending, isSettled_iff.1 settled, Nat.sub_self, Traffic.bytes_zero]

/-- The part of a baseline that a counter takes: nothing in a direction that has a marker. -/
def takes (e : Entry) (baseline : Traffic) : Traffic where
  upload := if e.flushedUpload.isNone then baseline.upload else 0
  download := if e.flushedDownload.isNone then baseline.download else 0

/-- A seed counts what it takes. -/
theorem bytes_traffic_seed (e : Entry) (baseline : Traffic) (d : Way) :
    (e.seed baseline).traffic.bytes d =
      min (e.traffic.bytes d + (e.takes baseline).bytes d) Count.top := by
  have top := e.traffic.bytes_le_top d
  cases d with
  | upload => cases h : e.flushedUpload <;> simp_all [seed, takes, Traffic.bytes]
  | download => cases h : e.flushedDownload <;> simp_all [seed, takes, Traffic.bytes]

/-- A seed marks what it takes as flushed. -/
theorem bytes_flushed_seed (e : Entry) (baseline : Traffic) (d : Way) :
    (e.seed baseline).flushed.bytes d = e.flushed.bytes d + (e.takes baseline).bytes d := by
  cases d with
  | upload => cases h : e.flushedUpload <;> simp [seed, flushed, takes, h, Traffic.bytes]
  | download => cases h : e.flushedDownload <;> simp [seed, flushed, takes, h, Traffic.bytes]

end Entry

end Hot

end Metering
