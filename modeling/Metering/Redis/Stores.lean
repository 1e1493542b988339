import Metering.Ledger
import Metering.Redis.Hot
import Metering.Redis.Side

/-!
# A ledger over a Redis server

With both stores on a server, a request of the ledger becomes a program of exchanges: requests to the
two stores are calls, and everything else is asked for beside the server. The hot store takes its
prefix, its life span and its zone from the ledger.
-/

namespace Metering.Redis

/-- The hot store of a ledger. -/
def Hot.ofLedger (l : Ledger) : Hot :=
  ⟨l.config.hot.keyPrefix, l.config.hot.recordTtlSecs, l.zone⟩

/-- A request of a ledger whose stores are on a server. -/
def exchange {α : Type} (h : Hot) (s : Settings) : Request α → Program Exchange α
  | .hot r => h.answer s r
  | .side r => Side.answer s r
  | r => .ask (.beside r)

/-- A program of a ledger whose stores are on a server. -/
def procedure {α : Type} (l : Ledger) (p : Procedure α) : Program Exchange α :=
  p.expand (exchange (Hot.ofLedger l) l.config.redis)

end Metering.Redis
