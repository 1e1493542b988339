import Metering.Url.Basic
import Metering.Url.Percent

/-!
# Paths, queries and fragments of URLs

A path is written as segments with slashes between them. A segment of one dot stands for no step, and
one of two dots for a step back; neither is kept.
-/

namespace Metering.Url

/-- The parts of a path between its slashes. -/
def splitSlashes (k : SchemeKind) : List Char → List (List Char)
  | [] => [[]]
  | c :: cs =>
    let parts := splitSlashes k cs
    if k.isSlash c then [] :: parts
    else
      match parts with
      | [] => [[c]]
      | part :: parts => (c :: part) :: parts

/-- A segment with `%2e` read as a dot, for the dots alone. -/
def undotted : List Char → List Char
  | '%' :: '2' :: c :: rest =>
    if c = 'e' ∨ c = 'E' then '.' :: undotted rest else '%' :: undotted ('2' :: c :: rest)
  | c :: rest => c :: undotted rest
  | [] => []

/-- Is a letter with a colon or a bar after it, which names a drive. -/
def isDrive : List Char → Bool
  | [c, mark] => c.isAlpha && (mark = ':' || mark = '|')
  | _ => false

/-- A path on its way. -/
structure Trail where
  done : List (List Char) := []
  /-- The path begins with a drive, so that it belongs to no host. -/
  onDrive : Bool := false

/-- One step back. No step leads back from a drive. -/
def Trail.back (t : Trail) : Trail :=
  if t.done.getLast?.any isDrive then t else { t with done := t.done.dropLast }

/-- Adds a segment to the end of a path. -/
def Trail.add (t : Trail) (segment : List Char) : Trail := { t with done := t.done ++ [segment] }

/-- Follows the segments of a path: one dot stays, two dots go back. A last segment of dots leaves an
empty one. `add` says how any other segment is added. -/
def follow (add : Trail → List Char → Trail) : Trail → List (List Char) → Trail
  | t, [] => t
  | t, [last] =>
    let plain := undotted (withoutIgnored last)
    if plain = ['.'] then t.add [] else if plain = ['.', '.'] then t.back.add [] else add t last
  | t, segment :: rest =>
    let plain := undotted (withoutIgnored segment)
    if plain = ['.'] then follow add t rest
    else if plain = ['.', '.'] then follow add t.back rest
    else follow add (add t segment) rest

/-- A path without its first slash, which may be absent. -/
def withoutSlash (k : SchemeKind) (cs : List Char) : List Char :=
  match cs with
  | c :: rest => if k.isSlash c then rest else cs
  | [] => []

/-- The path that a text stands for; its first slash may be absent. -/
def readPath (k : SchemeKind) (cs : List Char) : Path :=
  let add (t : Trail) (segment : List Char) : Trail := t.add (encode inPath segment)
  .segments (follow add {} (splitSlashes k (withoutSlash k cs))).done

/-- The path after an authority; one that is absent stays so in URLs without rules of their own. -/
def readPathAfter (k : SchemeKind) (cs : List Char) : Path :=
  if cs = [] ∧ k = .other then .segments [] else readPath k cs

/-! ## Query and fragment -/

/-- Takes query and fragment off the end of a text. -/
def splitTail (k : SchemeKind) (cs : List Char) :
    List Char × Option (List Char) × Option (List Char) :=
  let fragment := match cs.dropWhile (· ≠ '#') with
    | [] => none
    | _ :: fragment => some (encode inFragment fragment)
  let cs := cs.takeWhile (· ≠ '#')
  let barred := if k = .other then inQuery else inSpecialQuery
  let query := match cs.dropWhile (· ≠ '?') with
    | [] => none
    | _ :: query => some (encode barred query)
  (cs.takeWhile (· ≠ '?'), query, fragment)

end Metering.Url
