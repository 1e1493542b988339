/-!
# Services

What a background service tells about itself, and when it is started again after a failure. Numbers
of restarts and times are not bounded.
-/

namespace Metering.Service

/-- State of a service. -/
inductive Status
  | starting
  | running
  | stopping
  | stopped
  | failed (why : String)
deriving DecidableEq, Inhabited

namespace Status

/-- The service does its work. -/
def isHealthy : Status → Bool
  | running => true
  | _ => false

/-- The service has ended, one way or the other. -/
def isStopped : Status → Bool
  | stopped | failed _ => true
  | _ => false

/-- The service has ended with a failure. -/
def isFailed : Status → Bool
  | failed _ => true
  | _ => false

end Status

/-- When a failed service is started again; times in milliseconds. -/
inductive RestartPolicy
  | never
  | always (backoff : Nat)
  /-- A limited number of times, waiting longer each time. -/
  | onFailure (maxRetries backoff : Nat)
deriving DecidableEq, Inhabited

namespace RestartPolicy

/-- The policy of a service that does not say otherwise. -/
def standard : RestartPolicy := .onFailure 3 5000

/-- Milliseconds to wait before the next start, if there may be one after so many restarts. -/
def delay? (p : RestartPolicy) (restarts : Nat) : Option Nat :=
  match p with
  | never => none
  | always backoff => some backoff
  | onFailure maxRetries backoff =>
    if restarts < maxRetries then some (backoff * (restarts + 1)) else none

end RestartPolicy

end Metering.Service
