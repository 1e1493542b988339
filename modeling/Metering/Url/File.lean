import Metering.Url.Host
import Metering.Url.Path

/-!
# URLs of files

A file has a host and a path, either of which may be absent. A path may begin with the name of a drive,
and then it belongs to no host.

Tabs and line ends count for nothing here too, with one exception: where one stands right after the
colon of a drive, the drive ends there.
-/

namespace Metering.Url

/-- What follows a drive in a segment, where the drive ends at a tab or a line end. -/
def afterDrive? (segment : List Char) : Option (List Char) :=
  match withoutIgnored segment, segment.dropWhile (· ≠ ':') with
  | c :: ':' :: d :: rest, _ :: next :: _ =>
    if c.isAlpha && isIgnored next then some (d :: rest) else none
  | _, _ => none

/-- Adds a segment to the end of the path of a file. -/
def addToFile (t : Trail) (segment : List Char) : Trail :=
  let plain := withoutIgnored segment
  match t.done, afterDrive? segment with
  | [], some rest => (t.add (plain.take 2)).add (encode inPath rest)
  | [], none => if isDrive plain then ⟨[plain.take 1 ++ [':']], true⟩ else t.add (encode inPath plain)
  | _ :: _, _ => t.add (encode inPath plain)

/-- The path of a file, followed to its end. -/
def fileTrail (cs : List Char) : Trail :=
  follow addToFile {} (splitSlashes .file (withoutSlash .file (cs.dropWhile isIgnored)))

/-- Segments without the empty ones at the front. One segment is left in any case. -/
def withoutEmptyFront (segments : List (List Char)) : List (List Char) :=
  match segments.dropWhile (· = []) with
  | [] => [[]]
  | rest => rest

/-- What follows a slash, if there is one at the front. -/
def afterSlash? (cs : List Char) : Option (List Char) :=
  match cs.dropWhile isIgnored with
  | c :: rest => if SchemeKind.file.isSlash c then some rest else none
  | [] => none

/-- The host of a file, and the text of its path and what follows. Two slashes announce a host, unless a
drive follows them. -/
def readFileHost? (cs : List Char) : Option (String × List Char) :=
  match (afterSlash? cs).bind afterSlash? with
  | none => some ("", cs)
  | some inner =>
    let text := inner.takeWhile fun c => !(SchemeKind.file.isSlash c || endsPath c)
    let host := withoutIgnored text
    if host = [] ∨ isDrive host then some ("", inner)
    else (domainHost? host).map fun host =>
      (if host = "localhost" then "" else host, inner.drop text.length)

/-- The URL of a file, from the text after its scheme. -/
def fileUrl? (cs : List Char) : Option Url := do
  let (host, cs) ← readFileHost? cs
  let trail := fileTrail (cs.takeWhile fun c => !endsPath c)
  let (_, query, fragment) := splitTail .file (withoutIgnored (cs.dropWhile fun c => !endsPath c))
  let authority : Authority := { host := if trail.onDrive then "" else host }
  return ⟨"file", some authority, .segments (withoutEmptyFront trail.done), query, fragment⟩

end Metering.Url
