import Metering.Proofs.Compaction.Effect
import Metering.Proofs.Hot.Enlistment

/-!
# Keys that a cycle has claimed

From the listing of a key to the commit of its record nothing takes the key out of the active index,
also where its record happens to be settled in between. A record that is unsettled, or claimed, is
therefore found by the next cycle.

Results:
1. `Phase.claims_of_after`: only a listing claims a key.
2. `Stage.IsEnlisted.answer`: every request that the protocol allows keeps the key in the index.
-/

namespace Metering.Compaction

open Hot (Entry Record)

/-! ## Claims -/

/-- The key was listed and its record is still to be handled. -/
def Phase.Claims : Phase → Prop
  | listed | observed (some _) | written _ => True
  | _ => False

theorem Phase.Holds.claims {φ : Phase} {record : Record} (holds : φ.Holds record) : φ.Claims := by
  obtain rfl | rfl := holds <;> trivial

variable {key : Key}

theorem Phase.claims_of_afterWrite {φ : Phase} {result : Except Error Unit}
    (h : (φ.afterWrite result).Claims) : φ.Claims := by
  unfold afterWrite at h
  split at h
  · trivial
  · trivial
  · exact h.elim
  · split at h <;> exact h.elim
  · exact h

theorem Phase.not_claims_ofTaken (record? : Option Record) : ¬ (ofTaken record?).Claims := by
  cases record? with
  | none => exact id
  | some record =>
    unfold ofTaken
    dsimp only
    split <;> exact id

/-- Only a listing claims a key anew. -/
theorem Phase.claims_of_after {φ : Phase} {o : Occurrence} (h : (φ.after key o).Claims) :
    φ.Claims ∨ ∃ keys, o = .listing keys ∧ key ∈ keys := by
  have ended : ∀ {p : Prop} [Decidable p], (if p then rest else φ).Claims → φ.Claims := by
    intro p _ h
    split at h
    · exact h.elim
    · exact h
  cases o with
  | beginning => exact h.elim
  | listing keys =>
    by_cases member : key ∈ keys
    · exact .inr ⟨keys, rfl, member⟩
    · cases φ with
      | waiting =>
        rw [after, if_neg member] at h
        exact h.elim
      | _ => exact .inl h
  | observation records =>
    cases φ with
    | listed => exact .inl trivial
    | _ => exact .inl h
  | write row traffic result =>
    refine .inl ?_
    unfold after at h
    dsimp only at h
    split at h
    · exact claims_of_afterWrite h
    · exact h
  | settling key' purge result =>
    cases φ with
    | observed record? => exact .inl (ended h)
    | _ => exact .inl h
  | taking records =>
    cases φ with
    | waiting => exact (not_claims_ofTaken _ h).elim
    | _ => exact .inl h
  | commit | restoring | forgetting => exact .inl (ended h)
  | arrival | seeding | other => exact .inl h

/-! ## The active index -/

namespace Stage

variable {s : Stage} {failure? : Option Error}

theorem lifespan_answer (h : s.Grounded) {β : Type} (request : Request β) :
    (Stage.answer failure? request s).2.world.hot.lifespan = s.world.hot.lifespan := by
  cases request with
  | hot r =>
    cases failure? with
    | none => exact Hot.Store.lifespan_answer h.scheduled s.world.now r
    | some e => rfl
  | _ => cases failure? <;> rfl

/-- The record of `key` is active as long as it is unsettled, or is claimed. -/
def IsEnlisted (key : Key) (s : Stage) : Prop :=
  s.world.hot.Enlists s.world.now key (s.phase key).Claims

theorem claims_of_answer {β : Type} {request : Request β}
    (h : ((Stage.answer failure? request s).2.phase key).Claims) :
    (s.phase key).Claims ∨
      ∃ keys, occurrence request (Stage.answer failure? request s).1 = .listing keys ∧ key ∈ keys :=
  @Phase.claims_of_after key (s.phase key) _ h

theorem claims_of_unlisted {β : Type} {request : Request β}
    (unlisted : ∀ keys, occurrence request (Stage.answer failure? request s).1 ≠ .listing keys)
    (h : ((Stage.answer failure? request s).2.phase key).Claims) : (s.phase key).Claims := by
  obtain before | ⟨keys, told, -⟩ := claims_of_answer h
  · exact before
  · exact (unlisted keys told).elim

/-- Where the record and the index are as before, it matters only that no key was listed. -/
theorem IsEnlisted.of_eq (h : s.IsEnlisted key) {β : Type} {request : Request β}
    (hot : (Stage.answer failure? request s).2.world.hot = s.world.hot)
    (unlisted : ∀ keys, occurrence request (Stage.answer failure? request s).1 ≠ .listing keys) :
    (Stage.answer failure? request s).2.IsEnlisted key := by
  unfold IsEnlisted
  rw [hot, now_answer]
  exact h.mono (claims_of_unlisted unlisted)

theorem enlists_activeKeys (hs : s.world.hot.Scheduled) (h : s.IsEnlisted key) (limit : Nat)
    (waiting : s.phase key = .waiting) :
    (Stage.answer none (.hot (.activeKeys limit)) s).2.IsEnlisted key := by
  have kept := h.of_live_eq (a := .sweep) hs id (Hot.Store.live?_expire hs s.world.now key) id
  refine ⟨kept.dated, fun entry live must => ?_⟩
  rcases must with unsettled | claims
  · exact kept.active entry live (.inl unsettled)
  · -- a key that is claimed by this listing was told by it, so it is active
    obtain before | ⟨keys, told, member⟩ := claims_of_answer claims
    · rw [waiting] at before
      exact before.elim
    · cases told
      exact Std.ExtTreeSet.mem_toList.1 (List.mem_of_mem_take member)

theorem enlists_commit (hs : s.world.hot.Scheduled) (h : s.IsEnlisted key) {record : Record}
    (commits : (s.phase key).Commits record) :
    (Stage.answer none (.hot (.commit key record.traffic record.traffic)) s).2.IsEnlisted key := by
  have holds : (s.phase key).Holds record := commits.symm.imp And.left id
  have kept := (h.mono fun _ => holds.claims).commit hs record.traffic
  refine kept.mono fun claims => ?_
  have rest : (Stage.answer none (.hot (.commit key record.traffic record.traffic)) s).2.phase key =
      .rest := if_pos rfl
  rw [rest] at claims
  exact claims

theorem IsEnlisted.answer (hs : s.world.hot.Scheduled) (h : s.IsEnlisted key) {terms : Terms}
    {β : Type} {request : Request β} (allowed : Allows key terms request (s.phase key)) :
    (Stage.answer failure? request s).2.IsEnlisted key := by
  cases request with
  | hot r =>
    cases failure? with
    | some e => exact h.of_eq rfl (by cases r <;> exact nofun)
    | none =>
      cases r with
      | activeKeys limit => exact enlists_activeKeys hs h limit allowed.1
      | takeBucket bucket => exact (h.takeBucket hs bucket).mono (claims_of_unlisted nofun)
      | snapshot keys => exact h.of_eq rfl nofun
      | activeBuckets =>
        exact (h.of_live_eq (a := .sweep) hs id
          (Hot.Store.live?_expire hs s.world.now key) id).mono (claims_of_unlisted nofun)
      | increment key' traffic =>
        exact (h.increment hs key' traffic).mono (claims_of_unlisted nofun)
      | forget key' => exact (h.forget hs key').mono (claims_of_unlisted nofun)
      | commit key' expected markers =>
        by_cases own : key' = key
        · subst own
          obtain ⟨record, commits, rfl, rfl⟩ := allowed rfl
          exact enlists_commit hs h commits
        · refine (h.of_live_eq (a := .commit key' expected markers) hs id ?_ ?_).mono
            (claims_of_unlisted nofun)
          · exact Hot.Store.live?_commit_of_ne hs s.world.now own expected markers
          · exact fun leaves => own leaves.1
      | settle key' purge =>
        by_cases own : key' = key
        · subst own
          refine (h.settle hs purge).mono fun claims => ?_
          have rest : (Stage.answer none (.hot (.settle key' purge)) s).2.phase key' = .rest :=
            (allowed rfl).after_settling key' purge
              (.ok (s.world.hot.settle s.world.now key' purge).1)
          rw [rest] at claims
          exact claims
        · refine (h.of_live_eq (a := .settle key' purge) hs id ?_ ?_).mono
            (claims_of_unlisted nofun)
          · exact Hot.Store.live?_settle_of_ne hs s.world.now own purge
          · exact fun leaves => own leaves.1
      | _ => exact allowed.elim
  | cold r =>
    refine h.of_eq ?_ (by cases r <;> exact nofun)
    cases failure? <;> rfl
  | side r => exact allowed.elim
  | _ => exact h.of_eq (by cases failure? <;> rfl) nofun

end Stage

end Metering.Compaction
