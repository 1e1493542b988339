import Metering.Hot.Record
import Std.Data.ExtTreeMap
import Std.Data.ExtTreeSet

/-!
# The hot store

Counters that expire. Next to the records the store keeps

* an expiry index, from an instant to the keys that expire then;
* one index per bucket, which enumerates the keys of the bucket and expires as a whole;
* the active index of keys that may have pending traffic, with one expiry for all of it.

A write gives the record and the indexes that it touches a new expiry, one life span from now.
Expired data is dropped late: `expire` runs at the start of the operations that enumerate or commit,
while point reads only look past what has expired.

The keys of a store are of one zone, as the ledger over it makes them. In two zones an hour can start
at the same instant under two labels; such hours are one bucket where buckets are told apart by their
starts alone, and two in a store here.
-/

namespace Metering.Hot

/-- A stored counter; a direction has a marker once something of it was flushed or seeded. -/
@[ext]
structure Entry where
  traffic : Traffic
  flushedUpload : Option Count
  flushedDownload : Option Count
  expiry : Instant
deriving DecidableEq

namespace Entry

/-- An empty counter. -/
def fresh (expiry : Instant) : Entry := ⟨0, none, none, expiry⟩

/-- The flushed part; nothing in a direction without a marker. -/
def flushed (e : Entry) : Traffic := ⟨e.flushedUpload.getD 0, e.flushedDownload.getD 0⟩

/-- Nothing is pending and nothing was reset. -/
def isSettled (e : Entry) : Bool := e.traffic == e.flushed

/-- The counter as it is told. -/
def toRecord (e : Entry) (key : Key) : Record := ⟨key, e.traffic, e.flushed⟩

/-- The counter with both markers set. -/
def mark (e : Entry) (markers : Traffic) : Entry :=
  { e with flushedUpload := some markers.upload, flushedDownload := some markers.download }

/-- Adds a baseline, as counted and as flushed, in each direction without a marker. -/
def seed (e : Entry) (baseline : Traffic) : Entry where
  traffic := {
    upload := if e.flushedUpload.isNone then e.traffic.upload + baseline.upload
      else e.traffic.upload
    download := if e.flushedDownload.isNone then e.traffic.download + baseline.download
      else e.traffic.download }
  flushedUpload := e.flushedUpload.or (some baseline.upload)
  flushedDownload := e.flushedDownload.or (some baseline.download)
  expiry := e.expiry

/-- Number of directions that a baseline would seed. -/
def unseeded (e : Entry) : Nat := e.flushedUpload.isNone.toNat + e.flushedDownload.isNone.toNat

end Entry

/-- The keys of a bucket. -/
structure BucketIndex where
  members : Std.ExtTreeSet Key
  expiry : Instant

/-- A hot store. -/
structure Store where
  /-- Life span of a written record, in nanoseconds. -/
  lifespan : Int
  records : Std.ExtTreeMap Key Entry := ∅
  /-- Keys by the instant at which their records expire. -/
  expiries : Std.ExtTreeMap Instant (Std.ExtTreeSet Key) := ∅
  buckets : Std.ExtTreeMap Bucket BucketIndex := ∅
  active : Std.ExtTreeSet Key := ∅
  activeExpiry : Option Instant := none

instance : Inhabited Store := ⟨{ lifespan := 0 }⟩

namespace Store

/-! ## Expiry -/

/-- Drops what has expired at `now`. -/
def expire (s : Store) (now : Instant) : Store :=
  let due := s.expiries.filter fun expiry _ => decide (expiry ≤ now)
  let activeDue := s.activeExpiry.any fun expiry => decide (expiry ≤ now)
  { s with
    records := due.foldl (fun records _ keys => keys.foldl (·.erase ·) records) s.records
    expiries := s.expiries.filter fun expiry _ => decide (now < expiry)
    buckets := s.buckets.filter fun _ index => decide (now < index.expiry)
    active := if activeDue then ∅ else s.active
    activeExpiry := if activeDue then none else s.activeExpiry }

/-- Takes `key` out of a slot of the expiry index, and the slot away once it is empty. -/
def unschedule (s : Store) (key : Key) (expiry : Instant) : Store :=
  let leave (slot : Std.ExtTreeSet Key) : Option (Std.ExtTreeSet Key) :=
    if (slot.erase key).isEmpty then none else some (slot.erase key)
  { s with expiries := s.expiries.alter expiry (·.bind leave) }

/-- Puts `key` into a slot of the expiry index. -/
def schedule (s : Store) (key : Key) (expiry : Instant) : Store :=
  let enter (slot? : Option (Std.ExtTreeSet Key)) : Std.ExtTreeSet Key :=
    (slot?.getD ∅).insert key
  { s with expiries := s.expiries.alter expiry (some ∘ enter) }

/-- Moves `key` between two slots of the expiry index. -/
def reschedule (s : Store) (key : Key) (previous : Option Instant) (expiry : Instant) : Store :=
  if previous = some expiry then s
  else
    match previous with
    | some old => (s.unschedule key old).schedule key expiry
    | none => s.schedule key expiry

/-- Removes a record from the records and from the expiry index. -/
def dropRecord (s : Store) (key : Key) : Store :=
  match s.records[key]? with
  | some entry => { s with records := s.records.erase key }.unschedule key entry.expiry
  | none => s

/-- The entry of `key` if it has not expired. -/
def live? (s : Store) (now : Instant) (key : Key) : Option Entry :=
  s.records[key]?.filter fun entry => decide (now < entry.expiry)

/-! ## Indexes -/

/-- Enters `key` into the index of its bucket. -/
def touchBucket (s : Store) (key : Key) (expiry : Instant) : Store :=
  let enter (index? : Option BucketIndex) : BucketIndex :=
    ⟨((index?.map BucketIndex.members).getD ∅).insert key, expiry⟩
  { s with buckets := s.buckets.alter key.bucket (some ∘ enter) }

/-- Enters `key` into the active index. -/
def touchActive (s : Store) (key : Key) (expiry : Instant) : Store :=
  { s with active := s.active.insert key, activeExpiry := some expiry }

/-- Takes `key` out of the active index. -/
def deactivate (s : Store) (key : Key) : Store := { s with active := s.active.erase key }

/-- Takes `key` out of the index of its bucket. -/
def forgetMember (s : Store) (key : Key) : Store :=
  let leave (index : BucketIndex) : BucketIndex :=
    { index with members := index.members.erase key }
  { s with buckets := s.buckets.modify key.bucket leave }

/-! ## Writes -/

/-- Writes an entry under `key` that lives for one life span from `now`. -/
def put (s : Store) (now : Instant) (key : Key) (entry : Entry) : Store :=
  let expiry := now.addNanos s.lifespan
  let previous := s.records[key]?.map (·.expiry)
  ({ s with records := s.records.insert key { entry with expiry } }.reschedule key previous
    expiry).touchBucket key expiry

/-- Adds traffic to a counter; an expired counter starts anew. -/
def add (s : Store) (now : Instant) (key : Key) (traffic : Traffic) : Store :=
  let expiry := now.addNanos s.lifespan
  let s := if (s.live? now key).isNone then s.dropRecord key else s
  let entry := (s.records[key]?).getD (.fresh expiry)
  (s.put now key { entry with traffic := entry.traffic + traffic }).touchActive key expiry

/-- Counts traffic; nothing happens where there is none. -/
def increment (s : Store) (now : Instant) (key : Key) (traffic : Traffic) : Store :=
  if traffic.isZero then s else s.add now key traffic

/-- Counts the traffic of several keys. -/
def incrementAll (s : Store) (now : Instant) (entries : List (Key × Traffic)) : Store :=
  entries.foldl (fun s entry => s.increment now entry.1 entry.2) s

/-- Writes markers, and settles the key if its counter still is as expected. -/
def commit (s : Store) (now : Instant) (key : Key) (expected markers : Traffic) :
    Commit × Store :=
  let s := s.expire now
  match s.records[key]? with
  | none => (.missing, s.deactivate key)
  | some entry =>
    let s := { s with records := s.records.insert key (entry.mark markers) }
    if entry.traffic = expected then (.settled, s.deactivate key) else (.retained, s)

/-- Takes a key without pending traffic out of the active index, and with `purge` its record out
of the store. -/
def settle (s : Store) (now : Instant) (key : Key) (purge : Bool) : Bool × Store :=
  let s := s.expire now
  if (s.records[key]?).all (·.isSettled) then
    let s := s.deactivate key
    (true, if purge then (s.dropRecord key).forgetMember key else s)
  else (false, s)

/-- Seeds a counter with a baseline that the cold tier has; tells how many directions it took. -/
def seed (s : Store) (now : Instant) (key : Key) (baseline : Traffic) : Nat × Store :=
  let s := s.expire now
  let entry := (s.records[key]?).getD (.fresh (now.addNanos s.lifespan))
  (entry.unseeded, s.put now key (entry.seed baseline))

/-- Removes a key from the records and from the indexes; tells whether a record was there. -/
def forget (s : Store) (key : Key) : Bool × Store :=
  ((s.records[key]?).isSome, ((s.deactivate key).forgetMember key).dropRecord key)

/-! ## Reads -/

/-- Reads one counter. -/
def read (s : Store) (now : Instant) (key : Key) : Reading :=
  match s.live? now key with
  | some entry => ⟨entry.traffic, true⟩
  | none => .absent

/-- The keys in the index of a bucket. -/
def membersOf (s : Store) (bucket : Bucket) : List Key :=
  match s.buckets[bucket]? with
  | some index => index.members.toList
  | none => []

/-- The records of a bucket, by way of its index. -/
def recordsOf (s : Store) (bucket : Bucket) : List Record :=
  (s.membersOf bucket).filterMap fun key => (s.records[key]?).map (·.toRecord key)

/-- Reads the records of a bucket. -/
def readBucket (s : Store) (now : Instant) (bucket : Bucket) : List Record × Store :=
  let s := s.expire now
  (s.recordsOf bucket, s)

/-- Removes every member of a bucket and its index. -/
def dropBucket (s : Store) (bucket : Bucket) : Store :=
  let s := (s.membersOf bucket).foldl (fun s key => (s.dropRecord key).deactivate key) s
  { s with buckets := s.buckets.erase bucket }

/-- Reads the records of a bucket and removes them with its index. -/
def takeBucket (s : Store) (now : Instant) (bucket : Bucket) : List Record × Store :=
  let s := s.expire now
  (s.recordsOf bucket, s.dropBucket bucket)

/-- The first `limit` active keys. -/
def activeKeys (s : Store) (now : Instant) (limit : Nat) : List Key × Store :=
  let s := s.expire now
  (s.active.toList.take limit, s)

/-- The records of some keys. -/
def snapshot (s : Store) (now : Instant) (keys : List Key) : List (Option Record) :=
  keys.map fun key => (s.live? now key).map (·.toRecord key)

/-- The buckets with members, oldest first. -/
def activeBuckets (s : Store) (now : Instant) : List Bucket × Store :=
  let s := s.expire now
  (s.buckets.toList.filterMap fun (bucket, index) =>
    if index.members.isEmpty then none else some bucket, s)

/-- Number of live records. -/
def size (s : Store) (now : Instant) : Nat × Store :=
  let s := s.expire now
  (s.records.size, s)

/-- `key` is in the active index. -/
def isActive (s : Store) (now : Instant) (key : Key) : Bool × Store :=
  let s := s.expire now
  (s.active.contains key, s)

end Store

end Metering.Hot
