import Metering.Decimal.Integer
import Metering.Error
import Metering.Redis.Failure
import Metering.Url.Reader

/-!
# Addresses of Redis servers

A server is addressed by a URL, which often holds a password. What is printed about a server comes from
its host and port alone, or from the URL with the user name and the password masked.
-/

namespace Metering.Redis

/-- Port of a server where none is given. -/
def defaultPort : Nat := 6379

/-- Stands for a user name or a password. -/
def maskText : List Char := ['*', '*', '*']

/-- An authority with its user name and its password masked. -/
def maskAuthority (a : Url.Authority) : Url.Authority :=
  { a with
    username := if a.username = [] then [] else maskText
    password := a.password.map fun _ => maskText }

/-- A URL with its user name and its password masked. -/
def mask (u : Url) : Url := { u with authority := u.authority.map maskAuthority }

/-- What stands for a text that is no URL. -/
def invalidText : String := "[invalid-url]"

/-- A URL as it may be printed. -/
def sanitized (url : String) : String := (Url.parse? url).elim invalidText fun u => (mask u).text

/-- Host and port of a URL, if it names a host. -/
def Target.ofUrl? (u : Url) : Option String := do
  let a ← u.authority
  if a.host = "" then none else some (a.host ++ ":" ++ Nat.repr (a.port.getD defaultPort))

/-- Host and port of a server. -/
def target? (url : String) : Option String := (Url.parse? url).bind Target.ofUrl?

/-- What is printed for a server: its target, or else its URL. -/
def serverText (url : String) : String := (target? url).getD (sanitized url)

/-- What is printed for a failure: the server and the class. -/
def failureText (url : String) (f : Failure) : String :=
  "Redis " ++ serverText url ++ ": " ++ f.text

/-! ## Acceptable addresses -/

/-- The bytes that a percent-encoded text stands for are a text. -/
def isEncodedText (cs : List Char) : Bool := (Url.decode? cs).isSome

/-- Names and values of a query; one that is no text reads as a replacement character. -/
def queryPairs (query : List Char) : List (List Char × List Char) :=
  let plain (cs : List Char) : List Char :=
    (Url.decode? (cs.map fun c => if c = '+' then ' ' else c)).getD ['\ufffd']
  (partsBetween '&' query).map fun part =>
    (plain (part.takeWhile (· ≠ '=')), plain ((part.dropWhile (· ≠ '=')).drop 1))

/-- The value of a name in a query, the last one if there are several. -/
def queryValue? (u : Url) (name : String) : Option String :=
  let pairs := queryPairs (u.query.getD [])
  (pairs.reverse.find? fun pair => pair.1 == name.toList).map fun pair => String.ofList pair.2

/-- The protocol that a URL asks for is known. -/
def hasKnownProtocol (u : Url) : Bool :=
  (queryValue? u "protocol").all fun protocol => ["2", "resp2", "3", "resp3"].contains protocol

/-- A number of a database. -/
def isDatabase (text : String) : Bool := (Decimal.int64? text).isSome

/-- A path without the slashes at its ends. -/
def trimmedPath (u : Url) : String :=
  let trim (cs : List Char) : List Char := (cs.dropWhile (· = '/')).reverse
  String.ofList (trim (trim u.path.text))

/-- Can be connected to over a network. -/
def isNetworkAddress (u : Url) : Bool :=
  match u.authority with
  | none => false
  | some a =>
    a.host ≠ "" && (trimmedPath u = "" || isDatabase (trimmedPath u)) && isEncodedText a.username &&
      a.password.all isEncodedText && hasKnownProtocol u

/-- Can be connected to on the same machine. -/
def isLocalAddress (u : Url) : Bool :=
  let host := (u.authority.map (·.host)).getD ""
  let isPath := match u.path with
    | .segments all => all ≠ []
    | .opaqueText _ => false
  (host = "" || host = "localhost") && isPath && (queryValue? u "db").all isDatabase &&
    hasKnownProtocol u

/-- Is an address that the client can use. Encrypted connections are not available. -/
def isAcceptable (u : Url) : Bool :=
  if u.scheme = "redis" ∨ u.scheme = "valkey" then isNetworkAddress u
  else if u.scheme = "unix" ∨ u.scheme = "redis+unix" ∨ u.scheme = "valkey+unix" then
    isLocalAddress u
  else false

/-- The address that a text denotes. -/
def parseAddress (url : String) : Except Failure Url :=
  match Url.parse? url with
  | some u => if isAcceptable u then .ok u else .error .clientConfig
  | none => .error .clientConfig

end Metering.Redis
