import Metering.Domain.Basic
import Metering.Url.Percent

/-!
# Hosts of URLs

A host in brackets is an IPv6 address. Any other host of a special URL is a domain name, or an IPv4
address where its last label is a number; in other URLs it is an opaque text. All are given in their
written form.
-/

namespace Metering.Url

/-! ## IPv6 -/

/-- Number of leading characters of a group: up to four hexadecimal digits. -/
def groupDigits (cs : List Char) : List Char := (cs.take 4).takeWhile fun c => (hexValue? c).isSome

/-- Value of hexadecimal digits. -/
def hexNumber (cs : List Char) : Nat := cs.foldl (fun n c => n * 16 + (hexValue? c).getD 0) 0

/-- A number up to 255 without leading zeros. -/
def octet? (cs : List Char) : Option Nat :=
  if cs ≠ [] ∧ cs.all (·.isDigit) ∧ (cs.length = 1 ∨ cs.head? ≠ some '0') then
    let n := cs.foldl (fun n c => n * 10 + (c.toNat - '0'.toNat)) 0
    if n ≤ 255 then some n else none
  else none

/-- The two groups that four octets with dots between them stand for. -/
def dottedGroups? (cs : List Char) : Option (List Nat) := do
  match ← (partsBetween '.' cs).mapM octet? with
  | [a, b, c, d] => some [a * 256 + b, c * 256 + d]
  | _ => none

/-- Groups of an IPv6 address, in which a gap stands for one or more groups of zero. -/
structure Groups where
  before : List Nat
  /-- The groups after the gap, if there is one. -/
  after : Option (List Nat)

/-- The groups with one more in front. -/
def Groups.cons (n : Nat) (g : Groups) : Groups := { g with before := n :: g.before }

/-- Reads groups with colons between them; `groups` bounds their number and `mayGap` allows a gap. -/
def readGroups (mayGap : Bool) : Nat → List Char → Option Groups
  | 0, _ => none
  | groups + 1, cs =>
    match cs with
    | [] => some ⟨[], none⟩
    | ':' :: rest =>
      if mayGap then (readGroups false groups rest).map fun g => ⟨[], some g.before⟩ else none
    | _ =>
      let digits := groupDigits cs
      match cs.drop digits.length with
      | [] => some ⟨[hexNumber digits], none⟩
      | ':' :: [] => none
      | ':' :: rest => (readGroups mayGap groups rest).map (.cons (hexNumber digits))
      | '.' :: _ => if digits = [] then none else (dottedGroups? cs).map (⟨·, none⟩)
      | _ => none

/-- The eight groups of an IPv6 address. -/
def ipv6? (cs : List Char) : Option (List Nat) := do
  let g ← match cs with
    | ':' :: ':' :: rest => (readGroups false 9 rest).map fun g => Groups.mk [] (some g.before)
    | ':' :: _ => none
    | _ => readGroups true 10 cs
  match g.after with
  | none => if g.before.length = 8 then some g.before else none
  | some after =>
    let given := g.before.length + after.length
    if given ≤ 7 then some (g.before ++ List.replicate (8 - given) 0 ++ after) else none

/-- Length of the run of zeros at the front. -/
def zeroRun (groups : List Nat) : Nat := (groups.takeWhile (· = 0)).length

/-- Place and length of the first longest run of zeros. -/
def longestZeros : Nat → List Nat → Nat × Nat
  | _, [] => (0, 0)
  | place, n :: rest =>
    let later := longestZeros (place + 1) rest
    let run := zeroRun (n :: rest)
    if later.2 ≤ run ∧ run ≠ 0 then (place, run) else later

/-- Groups in hexadecimal digits with colons between them. -/
def groupsText (groups : List Nat) : String := ":".intercalate (groups.map hexDigits)

/-- The written form of an IPv6 address: the first longest run of zeros is left out. -/
def ipv6Text (groups : List Nat) : String :=
  let (place, run) := longestZeros 0 groups
  if run < 2 then "[" ++ groupsText groups ++ "]"
  else "[" ++ groupsText (groups.take place) ++ "::" ++ groupsText (groups.drop (place + run)) ++ "]"

/-! ## IPv4 -/

/-- A number in base ten, sixteen or eight, as its start tells. -/
def ipv4Number? (cs : List Char) : Option Nat :=
  let read (base : Nat) (digits : List Char) : Option Nat := do
    let values ← digits.mapM hexValue?
    if values.all (· < base) then some (values.foldl (fun n d => n * base + d) 0) else none
  match cs with
  | [] => none
  | '0' :: 'x' :: rest | '0' :: 'X' :: rest => read 16 rest
  | '0' :: c :: rest => read 8 (c :: rest)
  | _ => read 10 cs

/-- Labels of a domain, without an empty one at the end. -/
def labels (cs : List Char) : List (List Char) :=
  let parts := partsBetween '.' cs
  if parts.getLast? = some [] then parts.dropLast else parts

/-- The last label is a number, so the host has to be an IPv4 address. -/
def endsInNumber (cs : List Char) : Bool :=
  match (labels cs).getLast? with
  | none => false
  | some last => (last ≠ [] && last.all (·.isDigit)) || (ipv4Number? last).isSome

/-- The written form of an IPv4 address; its last number fills the rest of the address. -/
def ipv4Text? (cs : List Char) : Option String := do
  let numbers ← (labels cs).mapM ipv4Number?
  let last ← numbers.getLast?
  let first := numbers.dropLast
  if 4 < numbers.length ∨ first.any (255 < ·) ∨ Nat.pow 256 (4 - first.length) ≤ last then none
  else
    let high := (first ++ List.replicate (4 - first.length) 0).foldl (fun n d => n * 256 + d) 0
    let address := high + last
    return ".".intercalate ([16777216, 65536, 256, 1].map fun unit => Nat.repr (address / unit % 256))

/-! ## All hosts -/

/-- May not stand in any host without brackets. -/
def isForbidden (c : Char) : Bool :=
  ['\x00', '\t', '\n', '\r', ' ', '#', '/', ':', '<', '>', '?', '@', '[', '\\', ']', '^', '|'].contains c

/-- The written form of a host between brackets. -/
def bracketed? (cs : List Char) : Option String :=
  if cs.getLast? = some ']' then (ipv6? cs.dropLast).map ipv6Text else none

/-- The written form of an opaque host. -/
def opaqueHost? (cs : List Char) : Option String :=
  match cs with
  | '[' :: rest => bracketed? rest
  | _ => if cs.any isForbidden then none else some (String.ofList (encode isForeign cs))

/-- The written form of a domain or an address. -/
def domainHost? (cs : List Char) : Option String :=
  match cs with
  | '[' :: rest => bracketed? rest
  | _ => do
    let name ← Domain.toAscii? (← decode? cs)
    if endsInNumber name then ipv4Text? name else some (String.ofList name)

end Metering.Url
