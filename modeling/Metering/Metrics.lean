import Metering.Decimal.Shortest
import Metering.Traffic
import Std.Data.ExtTreeMap

/-!
# Metrics

Events that the ledger counts, the series that they feed, and the exposition of the series as lines
of text: a name, labels in braces, and a number. A series appears with its first event; the gauge of
failing keys is always there. A histogram writes one line per bound, then its sum and its count.
-/

namespace Metering

/-- Something that is counted. -/
inductive Event
  | increment (traffic : Traffic) (success : Bool)
  | compactedKey (outcome : String)
  | compactionCycle (seconds : Float) (success : Bool)
  | failingKeys (count : Nat)
  | counterReset (type : String)
  | tierRead (tier : String) (success : Bool)
  | query (operation : String) (seconds : Float)
  | redisCommand (success : Bool)
  | redisRetry (cause : String)
  | redisConnection (success : Bool)
  | failure (type operation : String)

/-- A name with labels. -/
structure Series where
  name : String
  labels : List (String × String)

namespace Series

/-- A label value with its backslashes, line feeds and quotes escaped. -/
def escaped (s : String) : String :=
  String.join (s.toList.map fun c =>
    if c = '\\' then "\\\\" else if c = '\n' then "\\n" else if c = '"' then "\\\"" else c.toString)

/-- The series as it stands in front of its number. -/
def text (s : Series) : String :=
  if s.labels.isEmpty then s.name
  else
    s.name ++ "\x7b" ++
      ",".intercalate (s.labels.map fun (name, value) => name ++ "=\"" ++ escaped value ++ "\"") ++
      "\x7d"

end Series

/-- Observations below each of some bounds, all of them, and their sum. -/
structure Histogram where
  bounds : List Float
  /-- Per bound, the observations that are not above it. -/
  below : List Nat
  count : Nat
  sum : Float

namespace Histogram

/-- A histogram without observations. -/
def empty (bounds : List Float) : Histogram := ⟨bounds, bounds.map fun _ => 0, 0, 0⟩

/-- Adds an observation. -/
def observe (h : Histogram) (x : Float) : Histogram :=
  { h with
    below := List.zipWith (fun n bound => if x ≤ bound then n + 1 else n) h.below h.bounds
    count := h.count + 1
    sum := h.sum + x }

/-- The line with the number of observations. -/
def countLine (h : Histogram) (s : Series) : String :=
  Series.text ⟨s.name ++ "_count", s.labels⟩ ++ " " ++ Nat.repr h.count

/-- The lines of a histogram. -/
def lines (h : Histogram) (s : Series) : List String :=
  let bucket (bound : String) (n : Nat) :=
    Series.text ⟨s.name ++ "_bucket", s.labels ++ [("le", bound)]⟩ ++ " " ++ Nat.repr n
  List.zipWith (fun bound n => bucket (Decimal.floatText bound) n) h.bounds h.below ++
    [bucket "+Inf" h.count,
      Series.text ⟨s.name ++ "_sum", s.labels⟩ ++ " " ++ Decimal.floatText h.sum, h.countLine s]

end Histogram

/-- All series that have been fed. -/
structure Metrics where
  /-- Counters by their text. -/
  counters : Std.ExtTreeMap String Float := ∅
  /-- Histograms by their text. -/
  histograms : Std.ExtTreeMap String (Series × Histogram) := ∅
  failingKeys : Float := 0

instance : Inhabited Metrics := ⟨{}⟩

namespace Metrics

/-- Adds to a counter. -/
def bump (m : Metrics) (name : String) (labels : List (String × String)) (amount : Float) : Metrics :=
  let add (old? : Option Float) : Float := old?.getD 0 + amount
  { m with counters := m.counters.alter (Series.text ⟨name, labels⟩) (some ∘ add) }

/-- Adds an observation to a histogram. -/
def observe (m : Metrics) (name : String) (labels : List (String × String)) (bounds : List Float)
    (x : Float) : Metrics :=
  let s : Series := ⟨name, labels⟩
  let add (old? : Option (Series × Histogram)) : Series × Histogram :=
    (s, ((old?.map Prod.snd).getD (.empty bounds)).observe x)
  { m with histograms := m.histograms.alter s.text (some ∘ add) }

/-- Word for an outcome. -/
def status (success : Bool) : String := if success then "success" else "error"

/-- Bounds of the durations of compaction cycles, in seconds. -/
def cycleBounds : List Float := [0.01, 0.1, 0.5, 1, 5, 30]

/-- Bounds of the durations of queries, in seconds. -/
def queryBounds : List Float := [0.001, 0.01, 0.1, 0.5, 1, 5]

/-- Feeds an event to its series. -/
def record (m : Metrics) : Event → Metrics
  | .increment traffic success =>
    let m := m.bump "ledger_increments_total" [("status", status success)] 1
    if success then
      (m.bump "ledger_increment_bytes_total" [("direction", "upload")]
        (UInt64.ofNat traffic.upload.toNat).toFloat).bump
        "ledger_increment_bytes_total" [("direction", "download")]
        (UInt64.ofNat traffic.download.toNat).toFloat
    else m
  | .compactedKey outcome => m.bump "ledger_compaction_keys_total" [("outcome", outcome)] 1
  | .compactionCycle seconds success =>
    m.observe "ledger_compaction_duration_seconds" [("status", status success)] cycleBounds seconds
  | .failingKeys count => { m with failingKeys := (UInt64.ofNat count).toFloat }
  | .counterReset type => m.bump "ledger_counter_resets_total" [("resource_type", type)] 1
  | .tierRead tier success =>
    m.bump "ledger_query_tier_reads_total" [("status", status success), ("tier", tier)] 1
  | .query operation seconds =>
    m.observe "ledger_query_duration_seconds" [("operation", operation)] queryBounds seconds
  | .redisCommand success => m.bump "ledger_redis_commands_total" [("status", status success)] 1
  | .redisRetry cause => m.bump "ledger_redis_retries_total" [("cause", cause)] 1
  | .redisConnection success =>
    m.bump "ledger_redis_connections_total" [("status", status success)] 1
  | .failure type operation =>
    m.bump "ledger_errors_total" [("error_type", type), ("operation", operation)] 1

/-- The lines of the counters and of the gauge. -/
def plainLines (m : Metrics) : List String :=
  ("ledger_failing_keys " ++ Decimal.floatText m.failingKeys) ::
    m.counters.toList.map fun (text, x) => text ++ " " ++ Decimal.floatText x

/-- All lines, sorted as texts. -/
def lines (m : Metrics) : List String :=
  let histograms := m.histograms.toList.flatMap fun entry => entry.2.2.lines entry.2.1
  (m.plainLines ++ histograms).mergeSort

/-- The lines that do not depend on how long anything took, sorted as texts. -/
def timelessLines (m : Metrics) : List String :=
  let histograms := m.histograms.toList.map fun entry => entry.2.2.countLine entry.2.1
  (m.plainLines ++ histograms).mergeSort

end Metrics

end Metering
