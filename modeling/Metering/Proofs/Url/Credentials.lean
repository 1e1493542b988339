import Mathlib.Data.List.TakeWhile
import Metering.Url.Reader

/-!
# Credentials in URLs

A user name and a password stand in front of the last `@` of an authority. Where they are made of
characters that mean nothing in a URL, reading sets them apart: what the rest of the text denotes,
and whether it denotes anything, does not depend on them.

Results:
1. `Url.exists_splitLast`: a text is cut at the same place, whatever stands in front of it.
2. `Url.exists_readServer?`: host and port are read the same for all credentials.
3. `Url.exists_parse?`: a URL with credentials is what the rest of its text denotes, with them.
-/

namespace Metering.Url

/-! ## Characters without a meaning -/

/-- Stands for itself in every part of a URL. -/
def isUnreserved (c : Char) : Bool := c.isAlphanum || ['-', '.', '_', '~'].contains c

/-- A text that can be a user name or a password as it stands. -/
structure IsCredential (cs : List Char) : Prop where
  filled : cs ≠ []
  unreserved : ∀ c ∈ cs, isUnreserved c = true

instance (cs : List Char) : Decidable (IsCredential cs) :=
  decidable_of_iff (cs.isEmpty = false ∧ cs.all isUnreserved = true)
    ⟨fun h => ⟨List.isEmpty_eq_false_iff.1 h.1, List.all_eq_true.1 h.2⟩,
      fun h => ⟨List.isEmpty_eq_false_iff.2 h.filled, List.all_eq_true.2 h.unreserved⟩⟩

variable {c : Char} {cs : List Char}

theorem toNat_of_isUnreserved (plain : isUnreserved c = true) : 45 ≤ c.toNat ∧ c.toNat ≤ 126 := by
  delta isUnreserved Char.isAlphanum Char.isAlpha Char.isUpper Char.isLower Char.isDigit at plain
  simp only [Bool.or_eq_true, Bool.and_eq_true, decide_eq_true_eq, UInt32.le_iff_toNat_le, ge_iff_le,
    List.contains_iff_mem, List.mem_cons, List.not_mem_nil, or_false] at plain
  change ((((65 ≤ c.toNat ∧ c.toNat ≤ 90) ∨ (97 ≤ c.toNat ∧ c.toNat ≤ 122)) ∨
    (48 ≤ c.toNat ∧ c.toNat ≤ 57)) ∨ _) at plain
  obtain letterOrDigit | rfl | rfl | rfl | rfl := plain
  · omega
  all_goals decide

theorem blank_lt_of_isUnreserved (plain : isUnreserved c = true) : ' ' < c :=
  Nat.lt_of_lt_of_le (by decide : ' '.toNat < 45) (toNat_of_isUnreserved plain).1

theorem ne_of_isUnreserved {mark : Char} (reserved : isUnreserved mark = false)
    (plain : isUnreserved c = true) : c ≠ mark := by
  rintro rfl
  simp [plain] at reserved

theorem not_inUserinfo (plain : isUnreserved c = true) : inUserinfo c = false := by
  obtain ⟨least, most⟩ := toNat_of_isUnreserved plain
  have native : isForeign c = false := by
    simp only [isForeign, Bool.or_eq_false_iff, decide_eq_false_iff_not, Char.not_lt]
    exact ⟨Nat.le_trans (by decide : ' '.toNat ≤ 45) least, most⟩
  have others {marks : List Char} (reserved : marks.any isUnreserved = false) :
      marks.contains c = false := by
    rw [Bool.eq_false_iff, ne_eq, List.contains_iff_mem]
    intro member
    exact Bool.eq_false_iff.1 reserved (List.any_eq_true.2 ⟨c, member, plain⟩)
  simp only [inUserinfo, inPath, inFragment, native, Bool.false_or, Bool.or_eq_false_iff]
  exact ⟨⟨others (by decide), others (by decide)⟩, others (by decide)⟩

theorem encode_of_unreserved (plain : ∀ c ∈ cs, isUnreserved c = true) :
    encode inUserinfo cs = cs := by
  induction cs with
  | nil => rfl
  | cons c cs ih =>
    obtain ⟨first, rest⟩ := List.forall_mem_cons.1 plain
    change encodeChar inUserinfo c ++ encode inUserinfo cs = _
    rw [ih rest, encodeChar, if_neg (Bool.eq_false_iff.1 (not_inUserinfo first))]
    rfl

/-- What holds of the characters without a meaning, of the colon and of the `@` holds of all
characters of credentials. -/
theorem IsCredential.forall_userinfo {user password : List Char} (given : IsCredential user)
    (given' : IsCredential password) {p : Char → Prop} (plain : ∀ c, isUnreserved c = true → p c)
    (colon : p ':') (sign : p '@') : ∀ c ∈ user ++ ':' :: password ++ ['@'], p c := by
  intro c member
  simp only [List.mem_append, List.mem_cons, List.not_mem_nil, or_false] at member
  obtain (member | rfl | member) | rfl := member
  · exact plain c (given.unreserved c member)
  · exact colon
  · exact plain c (given'.unreserved c member)
  · exact sign

/-! ## Blanks and schemes -/

theorem trimmed_append {front rest : List Char} (filled : front ≠ [])
    (visible : ∀ c ∈ front, ' ' < c) :
    trimmed (front ++ rest) = front ++ (rest.reverse.dropWhile (· ≤ ' ')).reverse := by
  have stops {cs tail : List Char} (some : cs ≠ []) (visible : ∀ c ∈ cs, ' ' < c) :
      (cs ++ tail).dropWhile (· ≤ ' ') = cs ++ tail := by
    cases cs with
    | nil => exact absurd rfl some
    | cons c cs =>
      have first := visible c List.mem_cons_self
      exact List.dropWhile_cons_of_neg (by simpa using first)
  have back : ∀ c ∈ front.reverse, ' ' < c := fun c member => visible c (List.mem_reverse.1 member)
  unfold trimmed
  dsimp only
  rw [stops filled visible, List.reverse_append, List.dropWhile_append]
  split
  · next blank =>
    have unmoved : front.reverse.dropWhile (· ≤ ' ') = front.reverse := by
      rw [← List.append_nil front.reverse]
      exact stops (List.reverse_ne_nil_iff.2 filled) back
    rw [unmoved, List.reverse_reverse, List.isEmpty_iff.1 blank]
    simp
  · rw [List.reverse_append, List.reverse_reverse]

theorem withoutIgnored_append {front rest : List Char} (visible : ∀ c ∈ front, ' ' < c) :
    withoutIgnored (front ++ rest) = front ++ withoutIgnored rest := by
  unfold withoutIgnored
  rw [List.filter_append, List.filter_eq_self.2]
  intro c member
  have above := visible c member
  have kept : isIgnored c = false := by
    simp only [isIgnored, Bool.or_eq_false_iff, decide_eq_false_iff_not]
    refine ⟨⟨?_, ?_⟩, ?_⟩ <;> rintro rfl <;> exact absurd above (by decide)
  rw [kept]
  rfl

/-- Schemes of addresses over a network. -/
def networkSchemes : List String := ["redis", "rediss"]

theorem splitScheme_network {scheme : String} (known : scheme ∈ networkSchemes)
    (rest : List Char) : splitScheme (scheme.toList ++ ':' :: rest) = some (scheme, rest) := by
  obtain rfl | rfl : scheme = "redis" ∨ scheme = "rediss" := by
    simpa [networkSchemes] using known
  · rfl
  · rfl

theorem visible_network {scheme : String} (known : scheme ∈ networkSchemes) :
    ∀ c ∈ scheme.toList, ' ' < c := by
  have letters : ∀ scheme ∈ networkSchemes, scheme.toList.all isUnreserved = true := by decide
  exact fun c member =>
    blank_lt_of_isUnreserved (List.all_eq_true.1 (letters scheme known) c member)

theorem schemeKind_network {scheme : String} (known : scheme ∈ networkSchemes) :
    schemeKind scheme = .other := by
  revert known scheme
  decide

/-! ## Authorities -/

theorem all_ne_of_notMem (free : c ∉ cs) : ∀ x ∈ cs, decide (x ≠ c) = true :=
  fun _ member => decide_eq_true fun same => free (same ▸ member)

theorem splitLast_of_split {before after : List Char} (free : c ∉ after) :
    splitLast c (before ++ c :: after) = some (before, after) := by
  have all := all_ne_of_notMem (mt List.mem_reverse.1 free)
  have last : (before ++ c :: after).reverse.takeWhile (· ≠ c) = after.reverse := by
    rw [List.reverse_append, List.reverse_cons, List.append_assoc, List.takeWhile_append_of_pos all]
    simp
  unfold splitLast
  rw [last, List.reverse_reverse]
  have length : (before ++ c :: after).length - after.length - 1 = before.length := by
    simp
    omega
  simp only [length, List.take_left]
  refine if_neg ?_
  rw [List.length_append, List.length_cons]
  omega

/-- Where a text is cut at the last of some marks, and there is one, what stands in front of the
text only stands in front of the first part. -/
theorem exists_splitLast (c : Char) (cs : List Char) : ∃ extra server,
    ∀ front, splitLast c (front ++ c :: cs) = some (front ++ extra, server) := by
  by_cases member : c ∈ cs
  · obtain ⟨after, before, parts, free⟩ := List.eq_append_cons_of_mem (List.mem_reverse.2 member)
    have split : cs = before.reverse ++ c :: after.reverse := by
      rw [← List.reverse_reverse cs, parts]
      simp
    refine ⟨c :: before.reverse, after.reverse, fun front => ?_⟩
    rw [split, ← List.cons_append, ← List.append_assoc]
    exact splitLast_of_split fun behind => free (List.mem_reverse.1 behind)
  · refine ⟨[], cs, fun front => ?_⟩
    rw [List.append_nil]
    exact splitLast_of_split member

theorem readUserinfo_append {user password : List Char} (free : ':' ∉ user)
    (filled : password ≠ []) :
    readUserinfo (user ++ ':' :: password) =
      (encode inUserinfo user, some (encode inUserinfo password)) := by
  have all := all_ne_of_notMem free
  unfold readUserinfo
  rw [List.takeWhile_append_of_pos all, List.dropWhile_append_of_pos all]
  cases password with
  | nil => exact absurd rfl filled
  | cons c cs => simp

/-- Host and port, and what follows them, are the same for all credentials. -/
theorem exists_readServer? (scheme : String) (cs : List Char) :
    ∃ found : Option (String × Option Nat × List Char), ∀ user, user ≠ ([], none) →
      readServer? scheme user cs =
        found.map fun (host, port, tail) => (⟨user.1, user.2, host, port⟩, tail) := by
  let span := spanHost (schemeKind scheme) false cs
  refine ⟨(readHost? (schemeKind scheme) span.1).bind fun host =>
    if host = "" then none else (readPort? scheme span.2).map (host, ·), fun user some => ?_⟩
  unfold readServer?
  dsimp only
  cases readHost? (schemeKind scheme) span.1 with
  | none => rfl
  | some host =>
    by_cases absent : host = ""
    · simp [absent, some]
    · cases readPort? scheme span.2 <;> simp [absent]

variable {scheme : String} {user password : List Char}

/-- Of an authority with credentials all but these is read the same for all of them. What stands
between their `@` and the last one is taken to be more of the password. -/
theorem exists_readAuthority? (known : scheme ∈ networkSchemes) (cs : List Char) :
    ∃ (extra : List Char) (found : Option (String × Option Nat × List Char)), ∀ user password,
      IsCredential user → IsCredential password →
      readAuthority? scheme (user ++ ':' :: password ++ '@' :: cs) = found.map
        fun (host, port, tail) =>
          (⟨user, some (password ++ encode inUserinfo extra), host, port⟩, tail) := by
  let stays (c : Char) : Bool := !((schemeKind scheme).isSlash c || endsPath c)
  obtain ⟨extra, server, cut⟩ := exists_splitLast '@' (cs.takeWhile stays)
  obtain ⟨found, read⟩ := exists_readServer? scheme (server ++ cs.dropWhile stays)
  refine ⟨extra, found, fun user password given given' => ?_⟩
  have colon : ':' ∉ user := fun member => absurd (given.unreserved ':' member) (by decide)
  have inner {c : Char} (slash : c ≠ '/') (mark : c ≠ '?') (sign : c ≠ '#') : stays c = true := by
    simp [stays, schemeKind_network known, SchemeKind.isSlash, endsPath, slash, mark, sign]
  -- the authority cannot end before the sign that ends the credentials
  have front : ∀ c ∈ user ++ ':' :: password ++ ['@'], stays c = true :=
    given.forall_userinfo given'
      (fun c plain => inner (ne_of_isUnreserved (by decide) plain)
        (ne_of_isUnreserved (by decide) plain) (ne_of_isUnreserved (by decide) plain))
      (inner (by decide) (by decide) (by decide)) (inner (by decide) (by decide) (by decide))
  have inside : (user ++ ':' :: password ++ '@' :: cs).takeWhile stays =
      user ++ ':' :: password ++ '@' :: cs.takeWhile stays := by
    rw [List.append_cons, List.takeWhile_append_of_pos front, ← List.append_cons]
  have beyond : (user ++ ':' :: password ++ '@' :: cs).drop
      (user ++ ':' :: password ++ '@' :: cs.takeWhile stays).length = cs.dropWhile stays := by
    have whole : user ++ ':' :: password ++ '@' :: cs =
        user ++ ':' :: password ++ '@' :: cs.takeWhile stays ++ cs.dropWhile stays := by
      rw [List.append_assoc _ ('@' :: _), List.cons_append, List.takeWhile_append_dropWhile]
    rw [whole, List.drop_left]
  have userinfo : readUserinfo (user ++ ':' :: password ++ extra) =
      (user, some (password ++ encode inUserinfo extra)) := by
    rw [List.append_assoc, List.cons_append, readUserinfo_append colon (by simp [given'.filled]),
      encode_append, encode_of_unreserved given.unreserved, encode_of_unreserved given'.unreserved]
  unfold readAuthority?
  dsimp only
  rw [inside, beyond, cut]
  dsimp only
  rw [if_neg (by simp), userinfo, read _ (by simp)]

/-! ## URLs -/

/-- The text of a URL that starts with a user name and a password. -/
def withCredentials (scheme user password rest : String) : String :=
  scheme ++ "://" ++ user ++ ":" ++ password ++ "@" ++ rest

/-- The rest of a text with credentials tells for all of them whether it is a URL, and which one
but for the credentials. -/
theorem exists_parse? (known : scheme ∈ networkSchemes) (rest : String) :
    ∃ (extra : List Char) (found : Option (String × Option Nat × List Char)),
      ∀ user password : String, IsCredential user.toList → IsCredential password.toList →
        parse? (withCredentials scheme user password rest) = found.map fun (host, port, tail) =>
          assemble scheme
            (some ⟨user.toList, some (password.toList ++ encode inUserinfo extra), host, port⟩)
            (readPathAfter .other) tail := by
  let cs := withoutIgnored (rest.toList.reverse.dropWhile (· ≤ ' ')).reverse
  obtain ⟨extra, found, read⟩ := exists_readAuthority? known cs
  refine ⟨extra, found, fun user password given given' => ?_⟩
  let front := scheme.toList ++ ':' :: '/' :: '/' ::
    (user.toList ++ ':' :: password.toList ++ ['@'])
  have text : (withCredentials scheme user password rest).toList = front ++ rest.toList := by
    simp [withCredentials, front]
  have visible : ∀ c ∈ front, ' ' < c := by
    rw [List.forall_mem_append]
    refine ⟨visible_network known, ?_⟩
    rw [List.forall_mem_cons, List.forall_mem_cons, List.forall_mem_cons]
    exact ⟨by decide, by decide, by decide, given.forall_userinfo given'
      (fun c => blank_lt_of_isUnreserved) (by decide) (by decide)⟩
  have filled : front ≠ [] := by simp [front]
  unfold parse?
  rw [text, trimmed_append filled visible]
  dsimp only
  rw [withoutIgnored_append visible]
  have parts : front ++ cs = scheme.toList ++ ':' :: '/' :: '/' ::
      (user.toList ++ ':' :: password.toList ++ '@' :: cs) := by simp [front]
  change (splitScheme (front ++ cs)).bind _ = _
  rw [parts, splitScheme_network known, Option.bind_some]
  dsimp only
  rw [schemeKind_network known]
  change withAuthority? scheme (user.toList ++ ':' :: password.toList ++ '@' :: cs) = _
  rw [withAuthority?, read _ _ given given', schemeKind_network known]
  cases found <;> rfl

end Metering.Url
