import Metering.Compaction.Report
import Std.Data.ExtTreeMap

/-!
# Failure streaks

For each key, how many cycles in a row have failed to flush it. Any other outcome ends the streak,
and so does losing sight of the key's pending traffic.

Streaks are counted without a bound. A counter of 32 bits agrees with them up to a streak of
4294967295 failures, which at one cycle per second takes 136 years.
-/

namespace Metering.Compaction

/-- Failures in a row by key, as natural numbers; a key without a streak is absent. -/
abbrev Streaks := Std.ExtTreeMap Key Nat

namespace Streaks

/-- Length of a streak. -/
def length (s : Streaks) (key : Key) : Nat := (s[key]?).getD 0

/-- Takes note of what happened to a key in a cycle. -/
def note (s : Streaks) (key : Key) : Outcome → Streaks
  | .failed => s.insert key (s.length key + 1)
  | .cancelled => s
  | _ => s.erase key

/-- The keys whose streaks have at least a given length, in order. -/
def failing (s : Streaks) (threshold : Nat) : List (Key × Nat) :=
  s.toList.filter fun entry => threshold ≤ entry.2

/-- Ends the streaks of keys that were read without pending traffic. -/
def prune (s : Streaks) (readings : List (Key × Option Hot.Record)) : Streaks :=
  readings.foldl (fun s (key, record?) =>
    if record?.any fun record => !record.pending.isZero then s else s.erase key) s

end Streaks

end Metering.Compaction
