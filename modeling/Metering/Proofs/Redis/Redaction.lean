import Metering.Proofs.Url.Credentials
import Metering.Redis.Address

/-!
# What is printed of an address

Everything that is printed about a server is made of its masked URL. Two addresses that differ in
user name and password alone have one masked URL, or both are none. So they print alike, as addresses,
as targets and in failures, and what is printed holds masks where the credentials stood.

Results:
1. `alike_of_mask`: the masked URL decides all that is printed.
2. `credentials_unprinted`: no credentials show in what is printed.
-/

namespace Metering.Redis

open Url (IsCredential networkSchemes withCredentials)

theorem ofUrl?_mask (u : Url) : Target.ofUrl? (mask u) = Target.ofUrl? u := by
  obtain ⟨scheme, authority, path, query, fragment⟩ := u
  cases authority <;> rfl

theorem sanitized_eq (url : String) :
    sanitized url = ((Url.parse? url).map mask).elim invalidText Url.text := by
  unfold sanitized
  cases Url.parse? url <;> rfl

theorem target?_eq (url : String) :
    target? url = ((Url.parse? url).map mask).bind Target.ofUrl? := by
  unfold target?
  cases Url.parse? url with
  | none => rfl
  | some u => exact (ofUrl?_mask u).symm

/-- The masked URL decides all that is printed. -/
theorem alike_of_mask {a b : String} (same : (Url.parse? a).map mask = (Url.parse? b).map mask) :
    sanitized a = sanitized b ∧ target? a = target? b ∧
      ∀ f, failureText a f = failureText b f := by
  have shown : sanitized a = sanitized b := by rw [sanitized_eq, sanitized_eq, same]
  have target : target? a = target? b := by rw [target?_eq, target?_eq, same]
  refine ⟨shown, target, fun f => ?_⟩
  unfold failureText serverText
  rw [shown, target]

/-- The rest of an address decides its masked URL. -/
theorem exists_masked {scheme : String} (known : scheme ∈ networkSchemes) (rest : String) :
    ∃ found : Option (String × Option Nat × List Char), ∀ user password : String,
      IsCredential user.toList → IsCredential password.toList →
      (Url.parse? (withCredentials scheme user password rest)).map mask =
        found.map fun (host, port, tail) => Url.assemble scheme
          (some ⟨maskText, some maskText, host, port⟩) (Url.readPathAfter .other) tail := by
  obtain ⟨extra, found, read⟩ := Url.exists_parse? known rest
  refine ⟨found, fun user password given given' => ?_⟩
  rw [read user password given given', Option.map_map]
  refine congrArg (Option.map · found) (funext fun (host, port, tail) => ?_)
  simp [Url.assemble, mask, maskAuthority, given.filled]

theorem exists_text_of_masks (scheme host : String) (port : Option Nat)
    (path : List Char → Url.Path) (tail : List Char) : ∃ shown,
    (Url.assemble scheme (some ⟨maskText, some maskText, host, port⟩) path tail).text =
      withCredentials scheme "***" "***" shown := by
  obtain ⟨before, query, fragment, parts⟩ :
      ∃ before query fragment, Url.splitTail (Url.schemeKind scheme) tail =
        (before, query, fragment) := ⟨_, _, _, rfl⟩
  refine ⟨String.ofList (host.toList ++ (port.elim [] fun port => ':' :: (Nat.repr port).toList) ++
    (path before).text ++ query.elim [] ('?' :: ·) ++ fragment.elim [] ('#' :: ·)), ?_⟩
  rw [← String.toList_inj]
  simp [Url.assemble, parts, Url.text, Url.guardText, Url.Authority.text,
    Url.Authority.userinfoText, maskText, withCredentials]

/-- Two addresses that differ in user name and password alone are printed alike, as addresses, as
targets and in failures. They are printed as no URL at all or with masks for their credentials. -/
theorem credentials_unprinted {scheme : String} (known : scheme ∈ networkSchemes)
    {user password user' password' : String}
    (given : IsCredential user.toList ∧ IsCredential password.toList)
    (given' : IsCredential user'.toList ∧ IsCredential password'.toList) (rest : String) :
    let url := withCredentials scheme user password rest
    let url' := withCredentials scheme user' password' rest
    (sanitized url = sanitized url' ∧ target? url = target? url' ∧
      ∀ f, failureText url f = failureText url' f) ∧
    (sanitized url = invalidText ∨
      ∃ shown, sanitized url = withCredentials scheme "***" "***" shown) := by
  intro url url'
  obtain ⟨found, masked⟩ := exists_masked known rest
  have first := masked user password given.1 given.2
  have second := masked user' password' given'.1 given'.2
  refine ⟨alike_of_mask (first.trans second.symm), ?_⟩
  rw [sanitized_eq, first]
  cases found with
  | none => exact .inl rfl
  | some found => exact .inr (exists_text_of_masks ..)

/-- The last `@` ends the password, which may be as long as it likes. -/
theorem credentials_unprinted_twice :
    let url := withCredentials "rediss" "admin" "s3cret" "x:y@[2001:db8:0:0:1::]:07000/3?db=1#a@b"
    let url' := withCredentials "rediss" "a" "b" "x:y@[2001:db8:0:0:1::]:07000/3?db=1#a@b"
    (sanitized url = sanitized url' ∧ target? url = target? url' ∧
      failureText url .timeout = failureText url' .timeout) ∧
    sanitized url' = "rediss://***:***@[2001:db8:0:0:1::]:7000/3?db=1#a@b" ∧
    failureText url' .timeout = "Redis [2001:db8:0:0:1::]:7000: timeout" := by
  have known : "rediss" ∈ networkSchemes := by decide
  have given : IsCredential "admin".toList ∧ IsCredential "s3cret".toList := by decide
  have given' : IsCredential "a".toList ∧ IsCredential "b".toList := by decide
  obtain ⟨⟨shown, target, failure⟩, -⟩ :=
    credentials_unprinted known given given' "x:y@[2001:db8:0:0:1::]:07000/3?db=1#a@b"
  exact ⟨⟨shown, target, failure .timeout⟩, by decide +kernel, by decide +kernel⟩

end Metering.Redis
