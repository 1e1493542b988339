import Metering.Url.Authority
import Metering.Url.File

/-!
# Reading URLs

`Url.parse?` takes a text apart: it drops blanks and control characters around the text and tabs and
line ends in it, reads the scheme, and splits the rest at the first character that ends each part. The
scheme decides whether a backslash counts as a slash, what a host is and which port goes without saying.
-/

namespace Metering.Url

/-- A text without blanks and control characters at its ends. -/
def trimmed (cs : List Char) : List Char :=
  let trim (cs : List Char) : List Char := (cs.dropWhile (· ≤ ' ')).reverse
  trim (trim cs)

/-- The scheme in lower case, and what follows its colon. -/
def splitScheme (cs : List Char) : Option (String × List Char) :=
  let isPart (c : Char) : Bool := c.isAlphanum || c = '+' || c = '-' || c = '.'
  match cs, cs.dropWhile isPart with
  | first :: _, ':' :: rest =>
    if first.isAlpha then some (String.ofList ((cs.takeWhile isPart).map Char.toLower), rest)
    else none
  | _, _ => none

/-- The URL with a given authority and the rest of its text. -/
def assemble (scheme : String) (authority : Option Authority) (path : List Char → Path)
    (rest : List Char) : Url :=
  let (cs, query, fragment) := splitTail (schemeKind scheme) rest
  ⟨scheme, authority, path cs, query, fragment⟩

/-- The URL with an authority. -/
def withAuthority? (scheme : String) (cs : List Char) : Option Url := do
  let (authority, rest) ← readAuthority? scheme cs
  return assemble scheme (some authority) (readPathAfter (schemeKind scheme)) rest

/-- The URL that a text denotes. -/
def parse? (text : String) : Option Url := do
  let text := trimmed text.toList
  let (scheme, rest) ← splitScheme (withoutIgnored text)
  match schemeKind scheme with
  | .special => withAuthority? scheme (rest.dropWhile (SchemeKind.special.isSlash))
  | .file => fileUrl? ((text.dropWhile (· ≠ ':')).drop 1)
  | .other =>
    match rest with
    | '/' :: '/' :: inner => withAuthority? scheme inner
    | '/' :: _ => return assemble scheme none (readPath .other) rest
    | _ => return assemble scheme none (.opaqueText ∘ encode isForeign) rest

end Metering.Url
