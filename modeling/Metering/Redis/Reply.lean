import Metering.Decimal.Integer
import Metering.Redis.Failure

/-!
# Replies of a Redis server

What a server answers to a command, and how a reply is read as a number, a text, a list or a table. A
reply that cannot be read so is a failure of its type.
-/

namespace Metering.Redis

/-- An answer of the server. -/
inductive Reply
  | integer (n : Int)
  | text (s : String)
  | status (s : String)
  | null
  | list (items : List Reply)
  /-- An error, by the code that it starts with. -/
  | failure (code : String)

namespace Reply

/-- The failure of a reply that is not of the wanted type. -/
def mismatch {α : Type} : Except Failure α := .error .type

/-- What was found, if anything was. -/
def found {α : Type} : Option α → Except Failure α
  | some a => .ok a
  | none => mismatch

/-- Reads a number of 64 bits that may be negative. -/
def int64 : Reply → Except Failure Int
  | integer n => .ok n
  | text s | status s => found (Decimal.int64? s)
  | _ => mismatch

/-- Reads a number of 64 bits. -/
def word : Reply → Except Failure Nat
  | integer n => .ok (n % 0x10000000000000000).toNat
  | text s | status s => found ((Decimal.word? s).map UInt64.toNat)
  | _ => mismatch

/-- Reads something that may be absent. -/
def optional {α : Type} (read : Reply → Except Failure α) : Reply → Except Failure (Option α)
  | null => .ok none
  | r => some <$> read r

/-- Reads a text. -/
def string : Reply → Except Failure String
  | text s | status s => .ok s
  | integer n => .ok (toString n)
  | _ => mismatch

/-- Reads a list of texts; a text alone is a list of one. -/
def strings : Reply → Except Failure (List String)
  | list items => items.mapM string
  | text s => .ok [s]
  | null => .ok []
  | _ => mismatch

/-- Pairs each name with the value that follows it. -/
def paired : List Reply → Except Failure (List (String × String))
  | [] => .ok []
  | [_] => mismatch
  | name :: value :: rest => do return (← name.string, ← value.string) :: (← paired rest)

/-- Reads named texts. -/
def table : Reply → Except Failure (List (String × String))
  | list items => paired items
  | null => .ok []
  | _ => mismatch

/-- Reads a list of exactly `size` items. -/
def tuple (size : Nat) : Reply → Except Failure (List Reply)
  | list items => if items.length = size then .ok items else mismatch
  | _ => mismatch

example : (match word (.text "+007") with | .ok n => n == 7 | .error _ => false) = true := by decide

end Reply

end Metering.Redis
