/-!
# Failures of the Redis client

What can go wrong between the client and the server. Of a failure only its class is ever told: the
server's own words may repeat keys or passwords.
-/

namespace Metering.Redis

/-- Why a command or a connection failed. -/
inductive Failure
  | response
  | parse
  | authentication
  | type
  | scriptAborted
  | busyLoading
  | noScript
  | clientConfig
  | moved
  | ask
  | tryAgain
  | clusterDown
  | crossSlot
  | masterDown
  | client
  | readOnly
  /-- A code that the client does not know. -/
  | extension
  | timeout
  | refused
  | dropped
  | io
deriving DecidableEq

namespace Failure

/-- Words for a class of failures. -/
def text : Failure → String
  | response => "response error"
  | parse => "parse error"
  | authentication => "authentication failed"
  | type => "type error"
  | scriptAborted => "script execution aborted"
  | busyLoading => "busy loading"
  | noScript => "no script"
  | clientConfig => "invalid client config"
  | moved => "key moved"
  | ask => "key moved (ask)"
  | tryAgain => "try again"
  | clusterDown => "cluster down"
  | crossSlot => "cross-slot"
  | masterDown => "master down"
  | client => "client error"
  | readOnly => "read-only"
  | extension => "extension error"
  | timeout => "timeout"
  | refused => "connection refused"
  | dropped => "connection dropped"
  | io => "I/O error"

/-- The class of an error reply, by the code that it starts with. -/
def ofCode : String → Failure
  | "ERR" => response
  | "EXECABORT" => scriptAborted
  | "LOADING" => busyLoading
  | "NOSCRIPT" => noScript
  | "MOVED" => moved
  | "ASK" => ask
  | "TRYAGAIN" => tryAgain
  | "CLUSTERDOWN" => clusterDown
  | "CROSSSLOT" => crossSlot
  | "MASTERDOWN" => masterDown
  | "READONLY" => readOnly
  | _ => extension

/-- The command was certainly not executed. -/
def isUnexecuted : Failure → Bool
  | refused | busyLoading | tryAgain => true
  | _ => false

/-- The connection itself failed. -/
def isConnection : Failure → Bool
  | timeout | refused | dropped | io => true
  | _ => false

/-- The same command may succeed later. -/
def isTransient (f : Failure) : Bool := f.isConnection || f.isUnexecuted

/-- A stored value has the wrong shape. -/
def isShape : Failure → Bool
  | type | parse => true
  | _ => false

end Failure

/-- Why nothing usable came back in time. -/
inductive Lapse
  | failure (why : Failure)
  /-- There was no answer in the time allowed. -/
  | silence
deriving DecidableEq

/-- The connection is of no more use. -/
def Lapse.breaksConnection : Lapse → Bool
  | failure why => why.isConnection
  | silence => false

end Metering.Redis
