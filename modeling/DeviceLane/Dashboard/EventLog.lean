/-
**The event journal.**

The journal keeps the latest events of all activities in the order they were appended, bounded in
number and size. It remembers which idempotency keys and which sequence numbers it has seen, and
where its subscribers are. Appending an event reserves its place, runs the caller's precommit work,
and only then publishes it; when the table of activities is full, a new epoch is begun first.

Main definitions:

* `Dashboard.EventJournal` — the journal, `Dashboard.EventJournal.withBounds` a new one.
-/

import DeviceLane.Dashboard.Model
import DeviceLane.Library.Effect
import DeviceLane.Library.Map
import DeviceLane.Library.Sha256

namespace Dashboard

open Effect

def maxEvents : ℕ := 1000

def maxEventBytes : ℕ := 8 * 1024 * 1024

def maxSubscribers : ℕ := 32

def subscriberIdleMs : ℕ := 15000

inductive AppendOutcome
  | appended
  | duplicateCollapsed
  deriving DecidableEq, Repr

inductive AppendError
  | invalidEvent (text : String)
  | emptyIdempotencyKey
  | idempotencyKeyTooLong
  | idempotencyConflict
  | nonMonotonicSequence (expected : ℕ)
  | sequenceOverflow
  | epochOverflow
  | limitExceeded (serializedBytes maximumBytes : ℕ)
  deriving DecidableEq, Repr

inductive AppendTransactionError (ε : Type)
  | append (error : AppendError)
  | precommit (error : ε)
  deriving DecidableEq, Repr

def AppendTransactionError.appendError : AppendTransactionError Empty → AppendError
  | .append error => error

inductive SubscribeError
  | alreadyExists
  | limitExceeded
  deriving DecidableEq, Repr

inductive AcknowledgeError
  | unknownSubscriber
  | cursorAhead
  | wrongEpoch
  | resyncRequired (oldestAvailable : EventCursor) (snapshotRevision : ℕ)
  deriving DecidableEq, Repr

inductive RotateError
  | epochNotIncreasing
  deriving DecidableEq, Repr

structure IdempotencyRecord where
  eventDigest : Digest
  deriving DecidableEq

structure StoredEvent where
  cursorSequence : ℕ
  event : ActivityEvent
  serializedBytes : ℕ
  idempotencyKey : String
  deriving DecidableEq

structure Subscriber where
  acknowledged : EventCursor
  lastActiveMs : ℕ
  deriving DecidableEq

structure EventJournal where
  epoch : ℕ
  snapshotRevision : ℕ
  nextCursorSequence : ℕ
  events : List StoredEvent
  serializedBytes : ℕ
  idempotency : Map String IdempotencyRecord
  activitySequences : Map ActivityId ℕ
  subscribers : Map SubscriberId Subscriber
  maxEvents : ℕ
  maxBytes : ℕ
  deriving DecidableEq

namespace EventJournal

def withBounds (epoch snapshotRevision maxEvents maxBytes : ℕ) : EventJournal :=
  { epoch
    snapshotRevision
    nextCursorSequence := 1
    events := []
    serializedBytes := 0
    idempotency := ∅
    activitySequences := ∅
    subscribers := ∅
    maxEvents := min maxEvents Dashboard.maxEvents
    maxBytes := min maxBytes maxEventBytes }

def new (epoch snapshotRevision : ℕ) : EventJournal :=
  withBounds epoch snapshotRevision Dashboard.maxEvents maxEventBytes

/-- A new epoch: nothing is retained, and nothing is remembered. -/
def rotateLocked (inner : EventJournal) (epoch snapshotRevision : ℕ) : EventJournal :=
  { inner with
    epoch
    snapshotRevision
    nextCursorSequence := 1
    events := []
    serializedBytes := 0
    idempotency := ∅
    activitySequences := ∅
    subscribers := ∅ }

/-! ### Appending -/

def checkEvent (idempotencyKey : String) (event : ActivityEvent) :
    Except AppendError (List UInt8) := do
  event.validate.mapError fun error => .invalidEvent error.code
  failIf (trim idempotencyKey = "") .emptyIdempotencyKey
  failIf (idempotencyKey.utf8ByteSize > 256) .idempotencyKeyTooLong
  event.toVec.mapError fun error => .invalidEvent error.display

def expectedSequence : Option ℕ → Option ℕ
  | none => some 1
  | some value => checkedAdd value 1

/-- A new activity that no longer fits the table of activities. -/
def needsRotation (inner : EventJournal) (event : ActivityEvent) : Prop :=
  inner.activitySequences.lookup event.activityId = none ∧
    inner.activitySequences.len ≥ Dashboard.maxEvents

instance (inner : EventJournal) (event : ActivityEvent) : Decidable (inner.needsRotation event) :=
  inferInstanceAs (Decidable (_ ∧ _))

/-- The loop that drops the oldest events until one of the given size fits, over the events that are
left. The code panics where no event is left to drop; a journal within its bounds never gets
there. -/
def evict (size : ℕ) (inner : EventJournal) : List StoredEvent → EventJournal
  | [] => { inner with events := [] }
  | removed :: events =>
    if events.length + 1 ≥ inner.maxEvents ∨ inner.serializedBytes > inner.maxBytes - size then
      evict size
        { inner with
          serializedBytes := inner.serializedBytes - removed.serializedBytes
          idempotency := inner.idempotency.erase removed.idempotencyKey }
        events
    else
      { inner with events := removed :: events }

/-- The last part of an append: the event is stored under the reserved cursor. -/
def publish [Sha256] (inner : EventJournal) (idempotencyKey : String) (event : ActivityEvent)
    (eventJson : List UInt8) (nextCursorSequence : ℕ) : EventJournal :=
  let inner := evict eventJson.length inner inner.events
  { inner with
    nextCursorSequence
    serializedBytes := inner.serializedBytes + eventJson.length
    activitySequences := inner.activitySequences.insert event.activityId event.sequence
    idempotency := inner.idempotency.insert idempotencyKey ⟨Sha256.digest eventJson⟩
    events := inner.events ++
      [⟨inner.nextCursorSequence, event, eventJson.length, idempotencyKey⟩] }

variable {σ ε : Type}

/-- The step of an append that makes room in the table of activities. The activity has no previous
sequence then, so there is none that the code could carry over to the new epoch. -/
def rotateIfFull (event : ActivityEvent) :
    Eff (EventJournal × σ) (AppendTransactionError ε) Unit := do
  let (inner, _) ← get
  if inner.needsRotation event then do
    let nextEpoch ← okOr (checkedAdd inner.epoch 1) (.append .epochOverflow)
    modify fun s => (inner.rotateLocked nextEpoch inner.snapshotRevision, s.2)
  else
    pure ()

/-- Reserves the journal position, runs the precommit work on the caller's state, and only then
publishes the event. -/
def appendWithPrecommit [Sha256] (idempotencyKey : String) (event : ActivityEvent)
    (precommit : Eff σ ε Unit) :
    Eff (EventJournal × σ) (AppendTransactionError ε) AppendOutcome := do
  let eventJson ← orThrow .append (checkEvent idempotencyKey event)
  let (inner, _) ← get
  match inner.idempotency.lookup idempotencyKey with
  | some existing =>
    if existing.eventDigest = Sha256.digest eventJson then
      pure .duplicateCollapsed
    else
      throw (.append .idempotencyConflict)
  | none =>
    throwIf (event.sequence = u64Max) (.append .sequenceOverflow)
    throwIf (inner.maxEvents = 0 ∨ eventJson.length > inner.maxBytes)
      (.append (.limitExceeded eventJson.length inner.maxBytes))
    let expected ← okOr (expectedSequence (inner.activitySequences.lookup event.activityId))
      (.append .sequenceOverflow)
    throwIf (event.sequence ≠ expected) (.append (.nonMonotonicSequence expected))
    -- The journal is given up here, before the precommit work has been run.
    rotateIfFull event
    let (inner, _) ← get
    let nextCursorSequence ← okOr (checkedAdd inner.nextCursorSequence 1)
      (.append .sequenceOverflow)
    onPart Prod.snd (fun t s => (s.1, t)) .precommit precommit
    modify fun s => (inner.publish idempotencyKey event eventJson nextCursorSequence, s.2)
    pure .appended

/-- Appending without precommit work. -/
def append [Sha256] (idempotencyKey : String) (event : ActivityEvent) :
    Eff EventJournal AppendError AppendOutcome :=
  ofRun fun inner =>
    let run := (appendWithPrecommit idempotencyKey event (pure () : Eff Unit Empty Unit)).exec
      (inner, ())
    (run.1.mapError AppendTransactionError.appendError, run.2.1)

def preflightAppend [Sha256] (inner : EventJournal) (idempotencyKey : String)
    (event : ActivityEvent) : Except AppendError Unit := do
  let eventJson ← checkEvent idempotencyKey event
  failIf (event.sequence = u64Max) .sequenceOverflow
  failIf (inner.maxEvents = 0 ∨ eventJson.length > inner.maxBytes)
    (.limitExceeded eventJson.length inner.maxBytes)
  match inner.idempotency.lookup idempotencyKey with
  | some existing =>
    if existing.eventDigest = Sha256.digest eventJson then
      pure ()
    else
      throw .idempotencyConflict
  | none =>
    match expectedSequence (inner.activitySequences.lookup event.activityId) with
    | none => throw .sequenceOverflow
    | some expected => failIf (event.sequence ≠ expected) (.nonMonotonicSequence expected)

/-! ### The other calls -/

def subscribe (id : SubscriberId) (nowMs : ℕ) : Eff EventJournal SubscribeError Unit := do
  let inner ← get
  throwIf (inner.subscribers.lookup id).isSome .alreadyExists
  throwIf (inner.subscribers.len ≥ maxSubscribers) .limitExceeded
  set { inner with subscribers := inner.subscribers.insert id ⟨⟨inner.epoch, 0⟩, nowMs⟩ }

def restoreActivitySequence (activityId : ActivityId) (sequence : ℕ) :
    Eff EventJournal AppendError Unit := do
  throwIf (sequence = 0 ∨ sequence = u64Max) .sequenceOverflow
  let inner ← get
  throwIf (inner.activitySequences.len ≥ Dashboard.maxEvents ∧
    inner.activitySequences.lookup activityId = none) (.limitExceeded 0 Dashboard.maxEvents)
  throwIf (∃ existing ∈ inner.activitySequences.lookup activityId, existing ≠ sequence)
    .idempotencyConflict
  set { inner with activitySequences := inner.activitySequences.insert activityId sequence }

def acknowledge (id : SubscriberId) (cursor : EventCursor) (nowMs : ℕ) :
    Eff EventJournal AcknowledgeError Unit := do
  let inner ← get
  throwIf (cursor.epoch ≠ inner.epoch) .wrongEpoch
  throwIf (cursor.sequence ≥ inner.nextCursorSequence) .cursorAhead
  if let some oldest := inner.events.head? then
    throwIf (cursor.sequence < oldest.cursorSequence - 1)
      (.resyncRequired ⟨inner.epoch, oldest.cursorSequence - 1⟩ inner.snapshotRevision)
  match inner.subscribers.lookup id with
  | none => throw .unknownSubscriber
  | some subscriber =>
    let acknowledged :=
      if cursor.sequence ≥ subscriber.acknowledged.sequence then cursor
      else subscriber.acknowledged
    set { inner with subscribers := inner.subscribers.insert id ⟨acknowledged, nowMs⟩ }

def expireIdle (inner : EventJournal) (nowMs : ℕ) : ℕ × EventJournal :=
  let subscribers := inner.subscribers.retain fun _ subscriber =>
    nowMs - subscriber.lastActiveMs ≤ subscriberIdleMs
  (inner.subscribers.len - subscribers.len, { inner with subscribers })

def rotateEpoch (epoch snapshotRevision : ℕ) : Eff EventJournal RotateError Unit := do
  let inner ← get
  throwIf (epoch ≤ inner.epoch) .epochNotIncreasing
  set (inner.rotateLocked epoch snapshotRevision)

end EventJournal

end Dashboard
