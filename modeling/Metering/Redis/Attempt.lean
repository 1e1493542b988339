import Metering.Redis.Call
import Metering.Redis.Connection

/-!
# Attempts

A call is tried again when that can help and cannot hurt. Reads, and writes whose repetition changes
nothing, are repeated after any failure that may pass. A write that must not happen twice is repeated
only where the first attempt certainly did nothing: there was no connection, or the server refused it.
-/

namespace Metering.Redis

/-- Whether a call may happen twice. -/
inductive Repetition
  | harmless
  | forbidden
deriving DecidableEq

/-- Why an attempt failed. -/
inductive Setback
  /-- There was no connection to send anything over. -/
  | unsent (why : Error)
  | lapse (why : Lapse)

namespace Setback

/-- Word for the kind of a setback. -/
def cause : Setback → String
  | unsent _ => "connect"
  | lapse (.failure _) => "command"
  | lapse .silence => "timeout"

/-- Another attempt can help and cannot hurt. -/
def isRetriable : Setback → Repetition → Bool
  | unsent _, _ => true
  | lapse (.failure why), .harmless => why.isTransient
  | lapse (.failure why), .forbidden => why.isUnexecuted
  | lapse .silence, repetition => repetition = .harmless

/-- A setback as an error of the ledger. -/
def toError (url : String) : Setback → Error
  | unsent why => why
  | lapse why => commandError url why

end Setback

variable {α : Type}

/-- Reports an event. -/
def report (event : Event) : Program Exchange Unit := .ask (.beside (.record event))

/-- Opens the connection where there is none. -/
def ensureConnected (s : Settings) : Program Exchange (Except Error Unit) := do
  if ← .ask .isConnected then return .ok ()
  let opened ← .ask .connect
  report (.redisConnection (opened matches .ok _))
  return opened.mapError (connectError s.url)

/-- Tries a call once. -/
def attempt (s : Settings) (call : Call α) : Program Exchange (Except Setback α) := do
  match ← ensureConnected s with
  | .error why => return .error (.unsent why)
  | .ok _ =>
    match ← call.run with
    | .ok a =>
      report (.redisCommand true)
      return .ok a
    | .error why =>
      report (.redisCommand false)
      if why.breaksConnection then .ask .disconnect
      return .error (.lapse why)

/-- Tries a call again up to `left` times, after `failures` failures. -/
def attempts (s : Settings) (repetition : Repetition) (call : Call α) :
    (left failures : Nat) → Program Exchange (Except Error α)
  | 0, _ => do return (← attempt s call).mapError (·.toError s.url)
  | left + 1, failures => do
    match ← attempt s call with
    | .ok a => return .ok a
    | .error setback =>
      if !setback.isRetriable repetition then return .error (setback.toError s.url)
      report (.redisRetry setback.cause)
      .ask (.wait (s.retryPolicy.delay failures))
      attempts s repetition call left (failures + 1)

/-- Makes a call, with as many attempts as the settings allow. -/
def perform (s : Settings) (repetition : Repetition) (call : Call α) :
    Program Exchange (Except Error α) := attempts s repetition call s.retryPolicy.maxRetries 0

/-- Asks the server for a sign of life. -/
def ping (s : Settings) : Program Exchange (Except Error Unit) :=
  perform s .harmless do
    let _ ← Call.reading (← Call.ask ["PING"]).string

end Metering.Redis
