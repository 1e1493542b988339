import Metering.Redis.Reply
import Metering.Redis.Script
import Metering.Request
import Metering.Text.Digest

/-!
# Calls to a Redis server

A call sends commands over an open connection and reads the replies. Several commands can be sent at
once; the first error among their replies is the result of them all. A script is called by the hash of
its text, and is sent itself only where the server does not know it yet.
-/

namespace Metering.Redis

/-- A command with its arguments. -/
abbrev Command := List String

/-- What a program beside a connection can ask for. -/
inductive Exchange : Type → Type 1
  | isConnected : Exchange Bool
  | connect : Exchange (Except Lapse Unit)
  | disconnect : Exchange Unit
  /-- Sends commands at once and takes one reply for each. -/
  | send (commands : List Command) : Exchange (Except Lapse (List Reply))
  /-- Lets some milliseconds pass. -/
  | wait (span : Nat) : Exchange Unit
  /-- Asks for what is not on the server. -/
  | beside {α : Type} (request : Request α) : Exchange α

/-- Commands and what their replies say. -/
abbrev Call := ExceptT Lapse (Program Exchange)

namespace Call

/-- What a reply was read as. -/
def reading {α : Type} (result : Except Failure α) : Call α :=
  .mk (pure (result.mapError .failure))

/-- The reply itself, unless it is an error. -/
def accepted : Reply → Except Failure Reply
  | .failure code => .error (.ofCode code)
  | r => .ok r

/-- Sends commands at once. -/
def askAll (commands : List Command) : Call (List Reply) := do
  reading ((← ExceptT.mk (.ask (.send commands))).mapM accepted)

/-- Sends one command. -/
def ask (command : Command) : Call Reply := do
  match ← askAll [command] with
  | [reply] => return reply
  | _ => reading (.error .response)

/-- The command that makes a script known. -/
def load (s : Script) : Command := ["SCRIPT", "LOAD", s.text]

/-- The command that runs a known script. -/
def evaluation (s : Script) (keys arguments : List String) : Command :=
  ["EVALSHA", Digest.ofText s.text, Nat.repr keys.length] ++ keys ++ arguments

/-- Runs a script, which is sent if the server does not know it. -/
def invoke (s : Script) (keys arguments : List String) : Call Reply := .mk do
  match ← (ask (evaluation s keys arguments)).run with
  | .error (.failure .noScript) => ExceptT.run do
    let _ ← ask (load s)
    ask (evaluation s keys arguments)
  | result => return result

/-- Runs a script that answers with a number. -/
def count (s : Script) (keys arguments : List String) : Call Int := do
  reading (← invoke s keys arguments).int64

end Call

end Metering.Redis
