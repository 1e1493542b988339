import Metering.Redis.Address
import Metering.Redis.Settings

/-!
# Connecting to a Redis server

Before anything is sent the settings and the address are checked, in this order. Whatever fails after
that makes the hot tier unavailable, and the message names the server and the class of the failure; but
a stored value of the wrong shape is no outage.
-/

namespace Metering.Redis

/-- A failure of the server at `url`, as an error of the hot tier. -/
def hotError (url : String) (f : Failure) : Error := .unavailable .hot (failureText url f)

/-- Why a connection could not be opened. -/
def connectError (url : String) : Lapse → Error
  | .failure why => hotError url why
  | .silence => .unavailable .hot ("Redis " ++ (target? url).getD invalidText ++ " connect timeout")

/-- Why a command has no result. -/
def commandError (url : String) : Lapse → Error
  | .failure why => if why.isShape then .undecodable (failureText url why) else hotError url why
  | .silence => .unavailable .hot "Redis command timeout"

/-- The address of the server, if the settings are sound and the client can use it. -/
def Settings.address (s : Settings) : Except Error Url :=
  match s.fault? with
  | some text => .error (.misconfigured (.setting text))
  | none => (parseAddress s.url).mapError (hotError s.url)

/-- Opens a connection by some way to reach an address. -/
def Settings.connect {α : Type} (s : Settings) (reach : Url → Except Lapse α) : Except Error α := do
  (reach (← s.address)).mapError (connectError s.url)

end Metering.Redis
