import Metering.Compaction.Cycle
import Metering.Proofs.Program.Monitor

/-!
# Where a key stands in a cycle or drain

What happens at the stores is told by a log, the newest occurrence first. For one key the log says
how far the work under way has come with it: `Phase` is that, from the enumeration of the active
keys over the record that was read and the write to the cold tier to the commit of the markers.

`monitor` is the protocol of a key. It allows a request where the phase calls for it: a write of
just what was pending in the record that was read, a commit of just the counter that was read, a
restoring increment of just what could not be written.

Results: `ofKey_injective`, every counter has a row of its own; `neutral_commit` and the lemmas next
to it, requests about another key do not concern the protocol.
-/

namespace Metering

theorem Cold.RowKey.ofKey_injective {a b : Key} (h : Cold.RowKey.ofKey a = .ofKey b) : a = b := by
  cases a
  cases b
  simp_all [ofKey, Cold.Target.ofKey]

namespace Compaction

/-- Something that happened at the stores. -/
inductive Occurrence
  /-- Traffic was counted from outside. -/
  | arrival (entries : List (Key × Traffic))
  /-- A counter took a baseline, in the directions in which it had no marker. -/
  | seeding (key : Key) (taken : Traffic)
  /-- A cycle or drain began. -/
  | beginning
  | listing (keys : List Key)
  | observation (records : List (Key × Option Hot.Record))
  | write (row : Cold.RowKey) (traffic : Traffic) (result : Except Error Unit)
  | commit (key : Key) (markers : Traffic) (result : Except Error Hot.Commit)
  | settling (key : Key) (purge : Bool) (result : Except Error Bool)
  | taking (records : List Hot.Record)
  | restoring (key : Key) (traffic : Traffic) (result : Except Error Unit)
  | forgetting (key : Key) (result : Except Error Bool)
  | other

/-- What the answer to a request tells. -/
def occurrence {β : Type} (request : Request β) (answer : β) : Occurrence :=
  match request, answer with
  | .hot (.activeKeys _), .ok keys => .listing keys
  | .hot (.activeKeys _), .error _ => .other
  | .hot (.snapshot keys), .ok records => .observation (keys.zip records)
  | .hot (.snapshot _), .error _ => .other
  | .hot (.commit key _ markers), result => .commit key markers result
  | .hot (.settle key purge), result => .settling key purge result
  | .hot (.takeBucket _), .ok records => .taking records
  | .hot (.takeBucket _), .error _ => .other
  | .hot (.increment key traffic), result => .restoring key traffic result
  | .hot (.forget key), result => .forgetting key result
  | .cold (.accumulate target bucket traffic), result => .write ⟨bucket, target⟩ traffic result
  | .hot (.incrementAll _), _ | .hot (.read _), _ | .hot (.readBucket _), _
  | .hot (.clearBucket _), _ | .hot (.seed _ _), _ | .hot .activeBuckets, _ => .other
  | .cold (.sumByGroup _), _ | .cold (.top _ _), _ | .cold (.trend _ _ _ _), _ => .other
  | .side _, _ | .now, _ | .isCancelled, _ | .record _, _ => .other

/-- How far a cycle or drain has come with a key. -/
inductive Phase
  /-- The keys have not been enumerated yet. -/
  | waiting
  | listed
  | observed (record? : Option Hot.Record)
  /-- The pending part of the record was written and its counter is to be committed. -/
  | written (record : Hot.Record)
  /-- The record was drained with this much pending. -/
  | taken (pending : Traffic)
  /-- The drained traffic could not be written and is to be counted again. -/
  | refused (pending : Traffic)
  /-- The cold tier does not know the resource any more. -/
  | gone
  /-- Nothing is left to do. -/
  | rest

namespace Phase

variable (key : Key)

/-- The phase after the answer to a write. -/
def afterWrite (φ : Phase) (result : Except Error Unit) : Phase :=
  match φ, result with
  | observed (some record), .ok _ => written record
  | observed (some _), .error e => if e.isNotFound then gone else rest
  | taken _, .ok _ => rest
  | taken pending, .error e => if e.isNotFound then rest else refused pending
  | φ, _ => φ

/-- The phase of a key whose record may have been drained. -/
def ofTaken (record? : Option Hot.Record) : Phase :=
  match record? with
  | some record => if record.pending = 0 then rest else taken record.pending
  | none => rest

/-- The phase of `key` after an occurrence. -/
def after (φ : Phase) : Occurrence → Phase
  | .beginning => waiting
  | .listing keys =>
    match φ with
    | waiting => if key ∈ keys then listed else rest
    | _ => φ
  | .observation records =>
    match φ, records.lookup key with
    | listed, some record? => observed record?
    | _, _ => φ
  | .write row _ result => if row = .ofKey key then φ.afterWrite result else φ
  | .commit key' _ _ => if key' = key then rest else φ
  | .settling key' _ _ =>
    match φ with
    | observed _ => if key' = key then rest else φ
    | _ => φ
  | .taking records =>
    match φ with
    | waiting => ofTaken (records.find? (·.key = key))
    | _ => φ
  | .restoring key' _ _ => if key' = key then rest else φ
  | .forgetting key' _ => if key' = key then rest else φ
  | .arrival _ | .seeding _ _ | .other => φ

/-- The phase of `key` that a log tells, the newest occurrence first. -/
def ofLog : List Occurrence → Phase
  | [] => rest
  | o :: log => (ofLog log).after key o

/-- Traffic is in the cold tier whose markers are not committed, or is in neither tier. -/
def Owes : Phase → Prop
  | written _ | taken _ | refused _ => True
  | _ => False

/-- A commit of the counter of `record` is called for. -/
def Commits (φ : Phase) (record : Hot.Record) : Prop :=
  φ = written record ∨
    (φ = observed (some record) ∧ record.pending = 0 ∧ record.isReset = true)

/-- A write of `traffic` is called for. -/
def Writes (φ : Phase) (traffic : Traffic) : Prop :=
  (∃ record, φ = observed (some record) ∧ record.pending = traffic ∧ traffic ≠ 0) ∨
    φ = taken traffic

/-- The key may be taken out of the active index. -/
def Settles (φ : Phase) : Prop :=
  φ = rest ∨ ∃ record?, φ = observed record? ∧
    ∀ record, record? = some record → record.pending = 0 ∧ record.isReset = false

end Phase

/-- A snapshot tells its keys in their order. -/
theorem lookup_zip_map {key : Key} {keys : List Key} {find : Key → Option Hot.Record} :
    (keys.zip (keys.map find)).lookup key = if key ∈ keys then some (find key) else none := by
  induction keys with
  | nil => rfl
  | cons head keys ih =>
    rw [List.map_cons, List.zip_cons_cons, List.lookup_cons, ih]
    by_cases same : key = head
    · simp [same]
    · simp [same, beq_false_of_ne same]

/-! ## The protocol of a key -/

/-- What is known of the work that is watched. -/
structure Terms where
  /-- No call fails and nothing is cancelled. -/
  calm : Prop
  /-- A listing asks for so many keys or more. -/
  cap : Nat
  /-- Buckets may be drained. -/
  drains : Prop

/-- Any work, in any weather. -/
def Terms.any : Terms := ⟨False, 0, True⟩

/-- The requests that the phase of `key` calls for, and those that do not concern it. -/
def Allows (key : Key) (terms : Terms) {β : Type} (request : Request β) (φ : Phase) : Prop :=
  match request with
  | .hot (.activeKeys limit) => φ = .waiting ∧ terms.cap ≤ limit
  | .hot (.takeBucket _) => φ = .waiting ∧ terms.drains
  | .hot (.snapshot _) | .hot .activeBuckets => True
  | .hot (.commit key' expected markers) =>
    key' = key → ∃ record, φ.Commits record ∧ expected = record.traffic ∧ markers = record.traffic
  | .hot (.settle key' _) => key' = key → φ.Settles
  | .hot (.increment key' traffic) => terms.drains ∧ (key' = key → φ = .refused traffic)
  | .hot (.forget key') => key' = key → φ = .gone
  | .cold (.accumulate target bucket traffic) =>
    (⟨bucket, target⟩ : Cold.RowKey) = .ofKey key → φ.Writes traffic
  | .hot _ | .cold _ | .side _ => False
  | .now | .isCancelled | .record _ => True

/-- What the answers of a hot tier have in common. -/
def SoundHot {α : Type} (request : Hot.Request α) (answer : α) : Prop :=
  match request, answer with
  | .activeKeys _, keys => keys.Nodup
  | .snapshot keys, records => ∃ find : Key → Option Hot.Record, records = keys.map find ∧
    ∀ key record, find key = some record → record.key = key
  | .takeBucket _, records => (records.map Hot.Record.key).Nodup
  | _, _ => True

/-- What the answers have in common; `calm` says that no call fails and nothing is cancelled. -/
def Sound (calm : Prop) {β : Type} (request : Request β) (answer : β) : Prop :=
  match request, answer with
  | .hot r, answer => (calm → ∃ a, answer = .ok a) ∧ ∀ a, answer = .ok a → SoundHot r a
  | .cold _, answer => calm → ∃ a, answer = .ok a
  | .isCancelled, answer => calm → answer = false
  | _, _ => True

/-- The protocol of a key. -/
def monitor (key : Key) (terms : Terms) : Monitor Request Phase where
  allows := Allows key terms
  sound := Sound terms.calm
  after request answer φ := φ.after key (occurrence request answer)

namespace PhaseLemmas

variable {key key' : Key} {terms : Terms}

theorem neutral_commit (ne : key' ≠ key) (expected markers : Traffic) :
    (monitor key terms).Neutral (.hot (.commit key' expected markers)) :=
  fun _ => ⟨fun eq => (ne eq).elim, fun _ => if_neg ne⟩

theorem neutral_settle (ne : key' ≠ key) (purge : Bool) :
    (monitor key terms).Neutral (.hot (.settle key' purge)) := by
  refine fun φ => ⟨fun eq => (ne eq).elim, fun b => ?_⟩
  change φ.after key (.settling key' purge b) = φ
  cases φ with
  | observed record? => exact if_neg ne
  | _ => rfl

theorem neutral_forget (ne : key' ≠ key) :
    (monitor key terms).Neutral (.hot (.forget key')) :=
  fun _ => ⟨fun eq => (ne eq).elim, fun _ => if_neg ne⟩

theorem neutral_increment (ne : key' ≠ key) (drains : terms.drains) (traffic : Traffic) :
    (monitor key terms).Neutral (.hot (.increment key' traffic)) :=
  fun _ => ⟨⟨drains, fun eq => (ne eq).elim⟩, fun _ => if_neg ne⟩

theorem neutral_write (ne : key' ≠ key) (traffic : Traffic) :
    (monitor key terms).Neutral (.cold (.accumulate (.ofKey key') key'.bucket traffic)) := by
  have ne : (⟨key'.bucket, .ofKey key'⟩ : Cold.RowKey) ≠ .ofKey key :=
    fun eq => ne (Cold.RowKey.ofKey_injective eq)
  exact fun _ => ⟨fun eq => (ne eq).elim, fun _ => if_neg ne⟩

theorem neutral_isCancelled : (monitor key terms).Neutral .isCancelled :=
  fun _ => ⟨trivial, fun _ => rfl⟩

theorem neutral_now : (monitor key terms).Neutral .now :=
  fun _ => ⟨trivial, fun _ => rfl⟩

theorem neutral_record (event : Event) : (monitor key terms).Neutral (.record event) :=
  fun _ => ⟨trivial, fun _ => rfl⟩

end PhaseLemmas

end Compaction

end Metering
