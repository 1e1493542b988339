import Metering.Proofs.Compaction.Effect

/-!
# Batches of increments

A batch is counted one increment after another. For one key that is a chain of the steps that
`Accrues` tells. Where records do not live at all, what is counted has expired at once, and the
store forfeits it.

Results: `incrementAll_keeps`, what each step of the chain keeps is kept by the batch.
-/

namespace Metering

/-! ## Forfeited traffic -/

namespace Hot.Store

/-- A record of `key` has expired with traffic that was not flushed. -/
def Forfeits (s : Store) (now : Instant) (key : Key) : Prop :=
  ∃ entry ∈ s.records[key]?, entry.expiry ≤ now ∧ entry.pending ≠ 0

instance (s : Store) (now : Instant) (key : Key) : Decidable (s.Forfeits now key) :=
  inferInstanceAs (Decidable (∃ entry ∈ s.records[key]?, _ ∧ _))

variable {s : Store} {now : Instant} {key : Key}

theorem Forfeits.not_live (h : s.Forfeits now key) : s.live? now key = none := by
  obtain ⟨entry, found, expired, -⟩ := h
  have late : ¬ now < entry.expiry := fun later => Int.not_le.2 later expired
  rw [live?, show s.records[key]? = some entry from found]
  simp [late]

/-- Where records do not live at all, counting more does not bring anything back. -/
theorem Forfeits.increment (h : s.Forfeits now key) (brief : s.lifespan ≤ 0) (key' : Key)
    (traffic : Traffic) : (s.increment now key' traffic).Forfeits now key := by
  have records := records_increment s now key' traffic key
  by_cases own : key = key' ∧ traffic ≠ 0
  · rw [if_pos own] at records
    obtain ⟨rfl, nonzero⟩ := own
    refine ⟨_, records, ?_, ?_⟩
    · change now.nanos + s.lifespan ≤ now.nanos
      omega
    · obtain ⟨d, pos⟩ := Traffic.ne_zero_iff.1 nonzero
      have fresh : s.counter now key = .fresh (now.addNanos s.lifespan) := by
        rw [counter, h.not_live]
        rfl
      have top := traffic.bytes_le_top d
      refine Traffic.ne_zero_iff.2 ⟨d, ?_⟩
      rw [fresh, Entry.bytes_pending]
      change 0 < ((0 : Traffic) + traffic).bytes d - (0 : Traffic).bytes d
      rw [Traffic.bytes_add, Traffic.bytes_zero]
      omega
  · rw [if_neg own] at records
    obtain ⟨entry, found, expired⟩ := h
    exact ⟨entry, records.trans found, expired⟩

theorem Forfeits.incrementAll (h : s.Forfeits now key) (hs : s.Scheduled) (brief : s.lifespan ≤ 0)
    (entries : List (Key × Traffic)) : (s.incrementAll now entries).Forfeits now key := by
  induction entries generalizing s with
  | nil => exact h
  | cons entry entries ih =>
    refine ih (h.increment brief entry.1 entry.2) (hs.increment now entry.1 entry.2) ?_
    rw [lifespan_increment]
    exact brief

end Hot.Store

namespace Compaction

open Hot (Entry)

/-! ## Batches -/

/-- What each increment of a key keeps is kept by a batch. `P` tells of the bytes that were counted
so far and of the live record; `lost` tells of records that are not live when they have been
counted. -/
theorem incrementAll_keeps {now : Instant} {key : Key} {hot : Hot.Store} (hs : hot.Scheduled)
    (entries : List (Key × Traffic)) {P : (Way → Nat) → Option Entry → Prop} {lost : Entry → Prop}
    {n total : Way → Nat}
    (brief : ∀ entry, hot.lifespan ≤ 0 →
      (entry.pending ≠ 0 → (hot.incrementAll now entries).Forfeits now key) → lost entry)
    (step : ∀ {n : Way → Nat} {live? : Option Entry} {traffic : Traffic} {live?' : Option Entry},
      P n live? → (∀ d, n d + traffic.bytes d ≤ total d) → Accrues lost live? traffic live?' →
      P (fun d => n d + traffic.bytes d) live?')
    (within : ∀ d, n d + counted key d entries ≤ total d) (start : P n (hot.live? now key)) :
    P (fun d => n d + counted key d entries) ((hot.incrementAll now entries).live? now key) := by
  induction entries generalizing hot n with
  | nil => exact start
  | cons entry entries ih =>
    obtain ⟨key', traffic⟩ := entry
    have scheduled := hs.increment now key' traffic
    have lifespan := Hot.Store.lifespan_increment hot now key' traffic
    have sum : ∀ d, counted key d ((key', traffic) :: entries) =
        (if key' = key then traffic.bytes d else 0) + counted key d entries := fun d => rfl
    simp only [sum, ← Nat.add_assoc] at within ⊢
    refine ih scheduled (fun entry short => brief entry (lifespan ▸ short)) within ?_
    by_cases own : key' = key
    · subst own
      simp only [if_true] at within ⊢
      refine step start (fun d => Nat.le_trans (Nat.le_add_right ..) (within d)) ?_
      refine (Stage.accrues_increment hs now key' traffic).mono fun entry expired => ?_
      obtain ⟨found, expired, short⟩ := expired
      -- what is lost here is still forfeited when the rest of the batch has been counted
      refine brief entry (lifespan ▸ short) fun pending => ?_
      exact Hot.Store.Forfeits.incrementAll ⟨entry, found, expired, pending⟩ scheduled short entries
    · rw [Hot.Store.live?_increment_of_ne hot now own]
      simpa [own] using start

end Compaction

end Metering
