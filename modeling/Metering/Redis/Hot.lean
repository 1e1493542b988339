import Metering.Redis.Attempt

/-!
# The hot store on a Redis server

Records, the bucket indexes, the active index and the registry of buckets under a common prefix; the
scripts change them together. Numbers above the range of the server are cut to its largest. Keys and
labels that cannot be read are passed over.
-/

namespace Metering.Redis

/-- What the hot store needs to know. -/
structure Hot where
  keyPrefix : String
  /-- Life span of a record in seconds. -/
  lifespan : Nat
  zone : Zone

namespace Hot

/-! ## Names -/

/-- What the keys of all records start with. -/
def recordPrefix (h : Hot) : String := h.keyPrefix ++ ":rec:"

/-- Key of a record. -/
def recordKey (h : Hot) (key : Key) : String := h.recordPrefix ++ key.encode

/-- Key of the index of a bucket. -/
def bucketKey (h : Hot) (bucket : Bucket) : String := h.keyPrefix ++ ":bucket:" ++ bucket.label

/-- Key of the active index. -/
def activeKey (h : Hot) : String := h.keyPrefix ++ ":active"

/-- Key of the registry of buckets. -/
def registryKey (h : Hot) : String := h.keyPrefix ++ ":buckets"

/-- A counter as the server holds it. -/
def countText (c : Count) : String := Nat.repr (min c.toNat 0x7fffffffffffffff)

/-- A flag as the server holds it. -/
def flagText (b : Bool) : String := if b then "1" else "0"

/-- The life span as the server takes it; no record expires at once. -/
def lifespanText (h : Hot) : String := Nat.repr (max h.lifespan 1)

/-! ## Reading what came back -/

/-- Reads a counter; below zero nothing was counted. -/
def parseCounter (text : String) : Except Error Count :=
  match Decimal.int64? text with
  | some n => .ok (.ofNat n.toNat)
  | none => .error (.undecodable ("non-integer counter value: " ++ text))

/-- Reads records from five texts each; a record whose key cannot be read is passed over. -/
def decodeRecords (z : Zone) : List String → Except Error (List Metering.Hot.Record)
  | [] => .ok []
  | member :: up :: down :: flushedUp :: flushedDown :: rest =>
    match Key.decode z member with
    | .error _ => decodeRecords z rest
    | .ok key => do
      let record := ⟨key, ⟨← parseCounter up, ← parseCounter down⟩,
        ⟨← parseCounter flushedUp, ← parseCounter flushedDown⟩⟩
      return record :: (← decodeRecords z rest)
  | _ => .error (.undecodable "bucket scan returned a partial record")

/-- Keys among some texts. -/
def decodeKeys (z : Zone) (members : List String) : List Key :=
  members.filterMap fun member => (Key.decode z member).toOption

/-- A counter that may be absent. -/
def readCounter (r : Reply) : Except Failure (Option Count) := do
  return (← r.optional Reply.word).map Count.ofNat

/-- Reads the two counters of a record. -/
def readReading (r : Reply) : Except Failure Metering.Hot.Reading := do
  match ← (← r.tuple 2).mapM readCounter with
  | [up, down] => return ⟨⟨up.getD 0, down.getD 0⟩, up.isSome || down.isSome⟩
  | _ => Reply.mismatch

/-- Reads the counters and the markers of a record, if there is one. -/
def readRecord (key : Key) (r : Reply) : Except Failure (Option Metering.Hot.Record) := do
  match ← (← r.tuple 4).mapM readCounter with
  | [up, down, flushedUp, flushedDown] =>
    if up.isNone && down.isNone then return none
    return some ⟨key, ⟨up.getD 0, down.getD 0⟩, ⟨flushedUp.getD 0, flushedDown.getD 0⟩⟩
  | _ => Reply.mismatch

/-- Reads one record for each key. -/
def readRecords : List Key → List Reply → Except Failure (List (Option Metering.Hot.Record))
  | key :: keys, r :: rs => do return (← readRecord key r) :: (← readRecords keys rs)
  | _, _ => .ok []

/-- What a marker commit found, by its number. -/
def commitOf (n : Int) : Metering.Hot.Commit :=
  if n = 1 then .settled else if n = 0 then .retained else .missing

/-! ## Calls -/

/-- Keys and arguments of an increment. -/
def incrementParts (h : Hot) (key : Key) (traffic : Traffic) : List String × List String :=
  ([h.recordKey key, h.bucketKey key.bucket, h.activeKey, h.registryKey],
    [key.encode, countText traffic.upload, countText traffic.download, h.lifespanText,
      toString key.bucket.score, key.bucket.label])

/-- Adds to one record. -/
def increment (h : Hot) (key : Key) (traffic : Traffic) : Call Int :=
  let (keys, arguments) := h.incrementParts key traffic
  Call.count .increment keys arguments

/-- Adds to many records at once. -/
def incrementAll (h : Hot) (entries : List (Key × Traffic)) : Call Unit := do
  let _ ← Call.askAll (Call.load .increment :: entries.map fun (key, traffic) =>
    let (keys, arguments) := h.incrementParts key traffic
    Call.evaluation .increment keys arguments)

/-- Reads the records of a bucket, and deletes them if `delete` is set. -/
def collect (h : Hot) (bucket : Bucket) (delete : Bool) : Call (List String) := do
  Call.reading (← Call.invoke .collect [h.bucketKey bucket, h.activeKey, h.registryKey]
    [h.recordPrefix, bucket.label, flagText delete]).strings

/-- Reads some fields of a record. -/
def fieldsCommand (h : Hot) (key : Key) (fields : List String) : Command :=
  ["HMGET", h.recordKey key] ++ fields

/-- Members that one page of a scan asks for. -/
def pageSize : Nat := 512

/-- One page of the active index: where the next one starts, and the members. -/
def activePage (h : Hot) (cursor : Nat) : Call (Nat × List String) := do
  let reply ← Call.ask ["SSCAN", h.activeKey, Nat.repr cursor, "COUNT", Nat.repr pageSize]
  Call.reading do
    match ← reply.tuple 2 with
    | [next, members] => return (← next.word, ← members.strings)
    | _ => Reply.mismatch

/-- Keys in their order, each once. -/
def distinct (keys : List Key) : List Key := (Std.ExtTreeSet.ofList keys).toList

/-- Pages that a scan reads at most; a server with as many keys does not exist. -/
def maxPages : Nat := 0x10000000000000000

/-- Reads pages from `cursor` on until the scan is at its end or has found enough keys. -/
def scan (h : Hot) (s : Settings) (limit : Nat) :
    (pages cursor : Nat) → List Key → Program Exchange (Except Error (List Key))
  | 0, _, keys => return .ok keys
  | pages + 1, cursor, keys => do
    match ← perform s .harmless (h.activePage cursor) with
    | .error e => return .error e
    | .ok (next, members) =>
      let keys := keys ++ decodeKeys h.zone members
      if next = 0 ∨ limit ≤ keys.length then return .ok keys
      scan h s limit pages next keys

/-! ## Requests -/

/-- Makes a call and goes on with what came back. -/
def after {α β : Type} (p : Program Exchange (Except Error α)) (f : α → Except Error β) :
    Program Exchange (Except Error β) := do return (← p).bind f

/-- What the store on the server answers to a request. -/
def answer {α : Type} (h : Hot) (s : Settings) :
    Metering.Hot.Request α → Program Exchange (Except Error α)
  | .increment key traffic =>
    if traffic.isZero then return .ok ()
    else after (perform s .forbidden (h.increment key traffic)) fun _ => .ok ()
  | .incrementAll entries =>
    let entries := entries.filter fun entry => !entry.2.isZero
    if entries.isEmpty then return .ok () else perform s .forbidden (h.incrementAll entries)
  | .read key => perform s .harmless do
    Call.reading (readReading (← Call.ask (h.fieldsCommand key ["u", "d"])))
  | .readBucket bucket =>
    after (perform s .harmless (h.collect bucket false)) (decodeRecords h.zone)
  | .takeBucket bucket =>
    after (perform s .forbidden (h.collect bucket true)) (decodeRecords h.zone)
  | .clearBucket bucket =>
    after (perform s .harmless (Call.count .clear
      [h.bucketKey bucket, h.activeKey, h.registryKey] [h.recordPrefix, bucket.label]))
      fun removed => .ok removed.toNat
  | .activeKeys limit =>
    after (h.scan s limit maxPages 0 []) fun keys => .ok ((distinct keys).take limit)
  | .snapshot keys =>
    if keys.isEmpty then return .ok []
    else perform s .harmless do
      let replies ← Call.askAll (keys.map (h.fieldsCommand · ["u", "d", "fu", "fd"]))
      Call.reading (readRecords keys replies)
  | .commit key expected markers =>
    after (perform s .harmless (Call.count .commit [h.recordKey key, h.activeKey]
      [key.encode, countText expected.upload, countText expected.download,
        countText markers.upload, countText markers.download])) fun n => .ok (commitOf n)
  | .settle key purge =>
    after (perform s .harmless (Call.count .settle
      [h.recordKey key, h.activeKey, h.bucketKey key.bucket] [key.encode, flagText purge]))
      fun n => .ok (n = 1)
  | .seed key baseline =>
    after (perform s .harmless (Call.count .seed
      [h.recordKey key, h.bucketKey key.bucket, h.registryKey]
      [key.encode, countText baseline.upload, countText baseline.download, h.lifespanText,
        toString key.bucket.score, key.bucket.label])) fun n => .ok (min n.toNat 2)
  | .forget key =>
    after (perform s .harmless (Call.count .forget
      [h.recordKey key, h.activeKey, h.bucketKey key.bucket] [key.encode])) fun n => .ok (0 < n)
  | .activeBuckets =>
    after (perform s .harmless do
      Call.reading (← Call.ask ["ZRANGE", h.registryKey, "0", "-1"]).strings)
      fun labels => .ok (labels.filterMap fun label => (h.zone.bucket? label).toOption)

end Hot

end Metering.Redis
