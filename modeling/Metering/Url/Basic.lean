/-!
# URLs

A URL has a scheme and then either an authority and a path of segments, or only a path, which may be
opaque; a query and a fragment may follow. The parts are kept in their written form.
-/

namespace Metering

/-- The part of a URL that names the server and who connects to it. -/
structure Url.Authority where
  username : List Char := []
  /-- Absent where it is empty. -/
  password : Option (List Char) := none
  /-- Empty where there is none. -/
  host : String := ""
  port : Option Nat := none
deriving DecidableEq

/-- The path of a URL. -/
inductive Url.Path
  | opaqueText (text : List Char)
  | segments (all : List (List Char))
deriving DecidableEq

/-- A URL in its parts. -/
structure Url where
  scheme : String
  authority : Option Url.Authority
  path : Url.Path
  query : Option (List Char)
  fragment : Option (List Char)
deriving DecidableEq

namespace Url

/-! ## Written form -/

/-- The user name and the password, with what separates them from the host. -/
def Authority.userinfoText (a : Authority) : List Char :=
  match a.username, a.password with
  | [], none => []
  | username, none => username ++ ['@']
  | username, some password => username ++ ':' :: password ++ ['@']

/-- The written form of an authority. -/
def Authority.text (a : Authority) : List Char :=
  a.userinfoText ++ a.host.toList ++ (a.port.elim [] fun port => ':' :: (Nat.repr port).toList)

/-- The written form of a path. -/
def Path.text : Path → List Char
  | .opaqueText text => text
  | .segments all => all.flatMap ('/' :: ·)

/-- Stands in front of a path that would look like an authority. -/
def guardText (u : Url) : List Char :=
  match u.authority, u.path with
  | none, .segments ([] :: _ :: _) => ['/', '.']
  | _, _ => []

/-- The written form of a URL. -/
def text (u : Url) : String :=
  String.ofList (u.scheme.toList ++ ':' ::
    (u.authority.elim [] fun a => '/' :: '/' :: a.text) ++ u.guardText ++ u.path.text ++
    (u.query.elim [] ('?' :: ·)) ++ (u.fragment.elim [] ('#' :: ·)))

/-! ## Schemes -/

/-- Schemes with rules of their own. -/
inductive SchemeKind
  | file
  | special
  | other
deriving DecidableEq

/-- The port that goes without saying, for a special scheme. -/
def defaultPort? (scheme : String) : Option Nat :=
  if scheme = "http" ∨ scheme = "ws" then some 80
  else if scheme = "https" ∨ scheme = "wss" then some 443
  else if scheme = "ftp" then some 21
  else none

/-- The kind of a scheme. -/
def schemeKind (scheme : String) : SchemeKind :=
  if scheme = "file" then .file
  else if (defaultPort? scheme).isSome then .special
  else .other

/-- Counts as a slash. -/
def SchemeKind.isSlash (k : SchemeKind) (c : Char) : Bool := c = '/' || (c = '\\' && k ≠ .other)

/-- Begins the query or the fragment. -/
def endsPath (c : Char) : Bool := c = '?' || c = '#'

/-! ## What counts as nothing -/

/-- A tab or a line end. -/
def isIgnored (c : Char) : Bool := c = '\t' || c = '\n' || c = '\r'

/-- A text without tabs and line ends. -/
def withoutIgnored (cs : List Char) : List Char := cs.filter fun c => !isIgnored c

end Url

end Metering
