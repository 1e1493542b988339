import Metering.Url.Basic
import Metering.Url.Host

/-!
# Authorities of URLs

An authority ends at the first slash, question mark or number sign. The user name and the password end
at its last `@`, and the host at the first colon outside brackets, after which a port may follow.
-/

namespace Metering.Url

/-- The text before the last occurrence of a character, and the text after it. -/
def splitLast (c : Char) (cs : List Char) : Option (List Char × List Char) :=
  let after := (cs.reverse.takeWhile (· ≠ c)).reverse
  if after.length = cs.length then none
  else some (cs.take (cs.length - after.length - 1), after)

/-- A user name and a password, as they stand before the `@`. -/
def readUserinfo (cs : List Char) : List Char × Option (List Char) :=
  let name := cs.takeWhile (· ≠ ':')
  match cs.dropWhile (· ≠ ':') with
  | [] | [_] => (encode inUserinfo name, none)
  | _ :: password => (encode inUserinfo name, some (encode inUserinfo password))

/-- Takes a host off the front of a text: all up to a colon outside brackets or the end of the
authority. -/
def spanHost (k : SchemeKind) : Bool → List Char → List Char × List Char
  | _, [] => ([], [])
  | inBrackets, c :: cs =>
    if (c = ':' && !inBrackets) || k.isSlash c || endsPath c then ([], c :: cs)
    else
      let inBrackets := if c = '[' then true else if c = ']' then false else inBrackets
      let (host, rest) := spanHost k inBrackets cs
      (c :: host, rest)

/-- Takes a port off the front of a text. -/
def readPort? (scheme : String) (cs : List Char) : Option (Option Nat × List Char) :=
  match cs with
  | ':' :: rest =>
    let digits := rest.takeWhile (·.isDigit)
    let rest := rest.dropWhile (·.isDigit)
    let port := digits.foldl (fun n c => n * 10 + (c.toNat - '0'.toNat)) 0
    if 65535 < port ∨ rest.head?.any (fun c => !(c = '/' || c = '\\' || endsPath c)) then none
    else if digits = [] ∨ defaultPort? scheme = some port then some (none, rest)
    else some (some port, rest)
  | _ => some (none, cs)

/-- The written form of a host. -/
def readHost? (k : SchemeKind) (cs : List Char) : Option String :=
  match k with
  | .other => opaqueHost? cs
  | .file | .special => domainHost? cs

/-- Takes a host and a port off the front of a text. -/
def readServer? (scheme : String) (user : List Char × Option (List Char)) (cs : List Char) :
    Option (Authority × List Char) := do
  let k := schemeKind scheme
  let (host, rest) := spanHost k false cs
  let host ← readHost? k host
  if host = "" ∧ (rest.head? = some ':' ∨ user ≠ ([], none)) then none
  let (port, rest) ← readPort? scheme rest
  return (⟨user.1, user.2, host, port⟩, rest)

/-- Takes an authority off the front of a text. -/
def readAuthority? (scheme : String) (cs : List Char) : Option (Authority × List Char) :=
  let k := schemeKind scheme
  let inside := cs.takeWhile fun c => !(k.isSlash c || endsPath c)
  let beyond := cs.drop inside.length
  match splitLast '@' inside with
  | none => readServer? scheme ([], none) cs
  | some (user, server) =>
    if user = [] ∧ server = [] ∧ beyond ≠ [] then none
    else readServer? scheme (readUserinfo user) (server ++ beyond)

end Metering.Url
