/-
**The history of the event journal.**

What a journal holds is determined by what it has taken in: the events it has published and the
sequence numbers it was given. It retains the newest events of its epoch under consecutive cursors,
remembers exactly their idempotency keys, and numbers the events of every activity one after the
other; its counters account for what it retains, so that dropping old events never runs out of them.

Main definitions:

* `Dashboard.EventJournal.Entry`, `Dashboard.EventJournal.Step` — what one call takes in.

Main results:

* `Dashboard.EventJournal.consistent_of_history` — **a journal is consistent with its history**.
-/

import DeviceLane.Dashboard.EventLogAppend
import Mathlib.Data.List.Chain

namespace Dashboard

open Effect

/-- What the journal remembers of a stored event. -/
def StoredEvent.record [Sha256] (stored : StoredEvent) : IdempotencyRecord :=
  ⟨Sha256.digest stored.event.toJson.toVec⟩

namespace EventJournal

variable {σ ε : Type}

/-! ### Histories -/

/-- What a journal takes in: an event it publishes, or a sequence number that is restored. -/
inductive Entry
  | published (epoch : ℕ) (idempotencyKey : String) (event : ActivityEvent)
  | restored (epoch : ℕ) (activityId : ActivityId) (sequence : ℕ)

/-- The epoch in which something was taken in. -/
def Entry.epoch : Entry → ℕ
  | .published epoch _ _ => epoch
  | .restored epoch _ _ => epoch

def appended (outcome : Except (AppendTransactionError ε) AppendOutcome) (epoch : ℕ)
    (idempotencyKey : String) (event : ActivityEvent) : List Entry :=
  match outcome with
  | .ok .appended => [.published epoch idempotencyKey event]
  | .ok .duplicateCollapsed => []
  | .error _ => []

@[simp] theorem appended_appended (epoch : ℕ) (idempotencyKey : String) (event : ActivityEvent) :
    appended (.ok .appended : Except (AppendTransactionError ε) AppendOutcome) epoch idempotencyKey
      event = [.published epoch idempotencyKey event] := rfl

def restored (outcome : Except AppendError Unit) (epoch : ℕ) (activityId : ActivityId)
    (sequence : ℕ) : List Entry :=
  match outcome with
  | .ok _ => [.restored epoch activityId sequence]
  | .error _ => []

inductive Step [Sha256] : EventJournal → List Entry → EventJournal → Prop
  | appendWithPrecommit (inner : EventJournal) {σ ε : Type} (idempotencyKey : String)
      (event : ActivityEvent) (precommit : Eff σ ε Unit) (s : σ) :
      Step inner
        (appended ((appendWithPrecommit idempotencyKey event precommit).exec (inner, s)).1
          ((appendWithPrecommit idempotencyKey event precommit).exec (inner, s)).2.1.epoch
          idempotencyKey event)
        ((appendWithPrecommit idempotencyKey event precommit).exec (inner, s)).2.1
  | subscribe (inner : EventJournal) (id : SubscriberId) (nowMs : ℕ) :
      Step inner [] ((subscribe id nowMs).exec inner).2
  | restoreActivitySequence (inner : EventJournal) (activityId : ActivityId) (sequence : ℕ) :
      Step inner
        (restored ((restoreActivitySequence activityId sequence).exec inner).1 inner.epoch
          activityId sequence)
        ((restoreActivitySequence activityId sequence).exec inner).2
  | acknowledge (inner : EventJournal) (id : SubscriberId) (cursor : EventCursor) (nowMs : ℕ) :
      Step inner [] ((acknowledge id cursor nowMs).exec inner).2
  | expireIdle (inner : EventJournal) (nowMs : ℕ) : Step inner [] (inner.expireIdle nowMs).2
  | rotateEpoch (inner : EventJournal) (epoch snapshotRevision : ℕ) :
      Step inner [] ((rotateEpoch epoch snapshotRevision).exec inner).2

/-- A journal that was opened with the given bounds, with everything it has taken in since. -/
inductive History [Sha256] (maxEvents maxBytes : ℕ) : EventJournal → List Entry → Prop
  | withBounds (epoch snapshotRevision : ℕ) :
      History maxEvents maxBytes (withBounds epoch snapshotRevision maxEvents maxBytes) []
  | step {inner inner' : EventJournal} {log entries : List Entry}
      (h : History maxEvents maxBytes inner log) (hstep : Step inner entries inner') :
      History maxEvents maxBytes inner' (log ++ entries)

theorem Reachable.step [Sha256] {inner inner' : EventJournal} {entries : List Entry}
    (h : Reachable inner) (hstep : Step inner entries inner') : Reachable inner' := by
  cases hstep with
  | appendWithPrecommit idempotencyKey event precommit s =>
    exact h.appendWithPrecommit idempotencyKey event precommit s
  | subscribe id nowMs => exact h.subscribe id nowMs
  | restoreActivitySequence activityId sequence =>
    exact h.restoreActivitySequence activityId sequence
  | acknowledge id cursor nowMs => exact h.acknowledge id cursor nowMs
  | expireIdle nowMs => exact h.expireIdle nowMs
  | rotateEpoch epoch snapshotRevision => exact h.rotateEpoch epoch snapshotRevision

theorem History.exists_step [Sha256] {inner inner' : EventJournal} {entries : List Entry}
    (h : ∃ maxEvents maxBytes log, History maxEvents maxBytes inner log)
    (hstep : Step inner entries inner') :
    ∃ maxEvents maxBytes log, History maxEvents maxBytes inner' log := by
  obtain ⟨maxEvents, maxBytes, log, hlog⟩ := h
  exact ⟨maxEvents, maxBytes, log ++ entries, hlog.step hstep⟩

theorem reachable_iff_history [Sha256] {inner : EventJournal} :
    Reachable inner ↔ ∃ maxEvents maxBytes log, History maxEvents maxBytes inner log := by
  constructor
  · intro h
    induction h with
    | withBounds epoch snapshotRevision maxEvents maxBytes =>
      exact ⟨maxEvents, maxBytes, [], History.withBounds epoch snapshotRevision⟩
    | appendWithPrecommit idempotencyKey event precommit s _ ih =>
      exact History.exists_step ih (Step.appendWithPrecommit _ idempotencyKey event precommit s)
    | subscribe id nowMs _ ih => exact History.exists_step ih (Step.subscribe _ id nowMs)
    | restoreActivitySequence activityId sequence _ ih =>
      exact History.exists_step ih (Step.restoreActivitySequence _ activityId sequence)
    | acknowledge id cursor nowMs _ ih =>
      exact History.exists_step ih (Step.acknowledge _ id cursor nowMs)
    | expireIdle nowMs _ ih => exact History.exists_step ih (Step.expireIdle _ nowMs)
    | rotateEpoch epoch snapshotRevision _ ih =>
      exact History.exists_step ih (Step.rotateEpoch _ epoch snapshotRevision)
  · rintro ⟨maxEvents, maxBytes, log, h⟩
    induction h with
    | withBounds => exact Reachable.withBounds _ _ _ _
    | step _ hstep ih => exact ih.step hstep

/-! ### Dropping the oldest events -/

theorem evict_eq (size : ℕ) (inner : EventJournal) (events : List StoredEvent) :
    ∃ dropped retained, events = dropped ++ retained ∧
      evict size inner events =
        { inner with
          events := retained
          serializedBytes :=
            dropped.foldl (fun bytes removed => bytes - removed.serializedBytes)
              inner.serializedBytes
          idempotency :=
            dropped.foldl (fun keys removed => keys.erase removed.idempotencyKey)
              inner.idempotency } := by
  induction events generalizing inner with
  | nil => exact ⟨[], [], rfl, rfl⟩
  | cons removed events ih =>
    rw [evict]
    by_cases hfull : events.length + 1 ≥ inner.maxEvents ∨
        inner.serializedBytes > inner.maxBytes - size
    · rw [if_pos hfull]
      obtain ⟨dropped, retained, hevents, heq⟩ :=
        ih
          { inner with
            serializedBytes := inner.serializedBytes - removed.serializedBytes
            idempotency := inner.idempotency.erase removed.idempotencyKey }
      refine ⟨removed :: dropped, retained, ?_, heq⟩
      rw [hevents, List.cons_append]
    · rw [if_neg hfull]
      exact ⟨[], removed :: events, rfl, rfl⟩

/-- The subtraction of counters, which must not go below zero. -/
def checkedSub (a b : ℕ) : Option ℕ := if b ≤ a then some (a - b) else none

/-- The eviction loop with its panics: where the event is larger than the journal may be, where no
event is left to drop, and where more bytes would be taken away than are counted. -/
def evictOrPanic (size : ℕ) (inner : EventJournal) : List StoredEvent → Option EventJournal
  | [] => do
      let room ← checkedSub inner.maxBytes size
      if 0 ≥ inner.maxEvents ∨ inner.serializedBytes > room then
        none
      else
        some { inner with events := [] }
  | removed :: events => do
      let room ← checkedSub inner.maxBytes size
      if events.length + 1 ≥ inner.maxEvents ∨ inner.serializedBytes > room then do
        let serializedBytes ← checkedSub inner.serializedBytes removed.serializedBytes
        evictOrPanic size
          { inner with
            serializedBytes
            idempotency := inner.idempotency.erase removed.idempotencyKey }
          events
      else
        some { inner with events := removed :: events }

theorem publish_eq [Sha256] (inner : EventJournal) (idempotencyKey : String)
    (event : ActivityEvent) (eventJson : List UInt8) (cursor : ℕ) :
    ∃ dropped retained serializedBytes, inner.events = dropped ++ retained ∧
      inner.publish idempotencyKey event eventJson cursor =
        { inner with
          nextCursorSequence := cursor
          events := retained ++
            [⟨inner.nextCursorSequence, event, eventJson.length, idempotencyKey⟩]
          serializedBytes
          idempotency :=
            (dropped.foldl (fun keys removed => keys.erase removed.idempotencyKey)
              inner.idempotency).insert idempotencyKey ⟨Sha256.digest eventJson⟩
          activitySequences := inner.activitySequences.insert event.activityId event.sequence } := by
  obtain ⟨dropped, retained, hevents, heq⟩ := evict_eq eventJson.length inner inner.events
  exact ⟨dropped, retained, _, hevents, by rw [publish, heq]⟩

@[simp] theorem epoch_publish [Sha256] (inner : EventJournal) (idempotencyKey : String)
    (event : ActivityEvent) (eventJson : List UInt8) (cursor : ℕ) :
    (inner.publish idempotencyKey event eventJson cursor).epoch = inner.epoch := by
  obtain ⟨_, _, _, -, heq⟩ :=
    publish_eq inner idempotencyKey event eventJson cursor
  rw [heq]

theorem lookup_foldl_erase (dropped : List StoredEvent) (keys : Map String IdempotencyRecord)
    (key : String) :
    (dropped.foldl (fun keys removed => keys.erase removed.idempotencyKey) keys).lookup key =
      if key ∈ dropped.map StoredEvent.idempotencyKey then none else keys.lookup key := by
  induction dropped generalizing keys with
  | nil => rfl
  | cons removed dropped ih =>
    rw [List.foldl_cons, ih, Map.lookup_erase, List.map_cons]
    by_cases hkey : key = removed.idempotencyKey
    · rw [if_pos hkey, ite_self, if_pos (List.mem_cons.2 (Or.inl hkey))]
    · rw [if_neg hkey]
      simp only [List.mem_cons, hkey, false_or]

/-! ### What a call does -/

/-- The changes a call makes to a journal, with what it takes in: it leaves all but the subscribers
alone, begins an epoch, publishes an event that the journal accepts, or sets a sequence number. -/
inductive Change [Sha256] (inner : EventJournal) : List Entry → EventJournal → Prop
  | subscribers (subscribers : Map SubscriberId Subscriber) :
      Change inner [] { inner with subscribers }
  | rotated {epoch : ℕ} (snapshotRevision : ℕ) (h : inner.epoch < epoch) :
      Change inner [] (inner.rotateLocked epoch snapshotRevision)
  | published {idempotencyKey : String} {event : ActivityEvent} {eventJson : List UInt8}
      (h : inner.Accepts idempotencyKey event eventJson) :
      Change inner [.published (inner.opened event).epoch idempotencyKey event]
        ((inner.opened event).publish idempotencyKey event eventJson
          ((inner.opened event).nextCursorSequence + 1))
  | restored {activityId : ActivityId} {sequence : ℕ}
      (h : ∀ existing ∈ inner.activitySequences.lookup activityId, existing = sequence)
      (hroom : (inner.activitySequences.insert activityId sequence).len ≤ Dashboard.maxEvents) :
      Change inner [.restored inner.epoch activityId sequence]
        { inner with activitySequences := inner.activitySequences.insert activityId sequence }

theorem change_opened [Sha256] (inner : EventJournal) (event : ActivityEvent) :
    Change inner [] (inner.opened event) := by
  rw [opened]
  by_cases hfull : inner.needsRotation event
  · rw [if_pos hfull]
    exact Change.rotated _ (Nat.lt_succ_self _)
  · rw [if_neg hfull]
    exact Change.subscribers inner.subscribers

theorem Step.of_accepts [Sha256] {inner : EventJournal} {idempotencyKey : String}
    {event : ActivityEvent} {eventJson : List UInt8}
    (h : inner.Accepts idempotencyKey event eventJson) (precommit : Eff σ ε Unit) (s : σ)
    (hrun : (precommit.exec s).1 = .ok ()) :
    Step inner [.published (inner.opened event).epoch idempotencyKey event]
      ((inner.opened event).publish idempotencyKey event eventJson
        ((inner.opened event).nextCursorSequence + 1)) := by
  have hstep := Step.appendWithPrecommit inner idempotencyKey event precommit s
  rw [exec_appendWithPrecommit, plan_eq_some_iff.2 h, hrun] at hstep
  dsimp only at hstep
  rw [appended_appended, epoch_publish] at hstep
  exact hstep

theorem Step.change [Sha256] {inner inner' : EventJournal} {entries : List Entry}
    (hstep : Step inner entries inner') (hbounded : inner.Bounded) :
    Change inner entries inner' := by
  have hsame : Change inner [] inner := Change.subscribers inner.subscribers
  cases hstep with
  | appendWithPrecommit idempotencyKey event precommit s =>
    rw [exec_appendWithPrecommit]
    cases hplan : inner.plan idempotencyKey event with
    | error => exact hsame
    | ok planned =>
      cases planned with
      | none => exact hsame
      | some =>
        cases hrun : (precommit.exec s).1 with
        | error => exact change_opened inner event
        | ok =>
          dsimp only
          rw [appended_appended, epoch_publish]
          exact Change.published (plan_eq_some_iff.1 hplan)
  | subscribe =>
    rw [exec_subscribe]
    split_ifs
    · exact hsame
    · exact hsame
    · exact Change.subscribers _
  | restoreActivitySequence activityId sequence =>
    rw [exec_restoreActivitySequence]
    split_ifs with hsequence hfull hconflict
    · exact hsame
    · exact hsame
    · exact hsame
    · refine Change.restored ?_ (hbounded.len_insert_restored hfull sequence)
      intro existing hexisting
      by_contra hne
      exact hconflict ⟨existing, hexisting, hne⟩
  | acknowledge id cursor nowMs =>
    rcases exec_acknowledge inner id cursor nowMs with ⟨error, heq⟩ | ⟨_, -, -, -, heq⟩
    · rw [heq]
      exact hsame
    · rw [heq]
      exact Change.subscribers _
  | expireIdle => exact Change.subscribers _
  | rotateEpoch =>
    rw [exec_rotateEpoch]
    split_ifs with hepoch
    · exact hsame
    · exact Change.rotated _ (Nat.lt_of_not_le hepoch)

/-! ### What a history says -/

def Entry.publishedIn (epoch : ℕ) : Entry → Option (String × ActivityEvent)
  | .published e idempotencyKey event => if e = epoch then some (idempotencyKey, event) else none
  | .restored _ _ _ => none

def Entry.acceptedIn (epoch : ℕ) (activityId : ActivityId) : Entry → Option ℕ
  | .published e _ event =>
    if e = epoch ∧ event.activityId = activityId then some event.sequence else none
  | .restored _ _ _ => none

def Entry.numberIn (epoch : ℕ) (activityId : ActivityId) : Entry → Option ℕ
  | .published e _ event =>
    if e = epoch ∧ event.activityId = activityId then some event.sequence else none
  | .restored e id sequence => if e = epoch ∧ id = activityId then some sequence else none

/-- The events of an epoch, with their keys, in the order they were published. -/
def published (log : List Entry) (epoch : ℕ) : List (String × ActivityEvent) :=
  log.filterMap (Entry.publishedIn epoch)

/-- The sequence numbers of the events of an activity that were accepted in an epoch, in order. -/
def accepted (log : List Entry) (epoch : ℕ) (activityId : ActivityId) : List ℕ :=
  log.filterMap (Entry.acceptedIn epoch activityId)

/-- The sequence numbers that were accepted or restored for an activity in an epoch, in order. -/
def numbers (log : List Entry) (epoch : ℕ) (activityId : ActivityId) : List ℕ :=
  log.filterMap (Entry.numberIn epoch activityId)

/-- What a journal holds of its history. -/
structure Consistent [Sha256] (inner : EventJournal) (log : List Entry) : Prop where
  bounded : inner.Bounded
  epoch_le : ∀ entry ∈ log, entry.epoch ≤ inner.epoch
  cursor_eq : inner.nextCursorSequence = (published log inner.epoch).length + 1
  retained : inner.events.map (fun stored => (stored.idempotencyKey, stored.event)) <:+
    published log inner.epoch
  nonempty : inner.events = [] → published log inner.epoch = []
  consecutive : inner.events.map StoredEvent.cursorSequence =
    List.range' (inner.nextCursorSequence - inner.events.length) inner.events.length
  sizes : ∀ stored ∈ inner.events, stored.serializedBytes = stored.event.toJson.toVec.length
  keys_nodup : (inner.events.map StoredEvent.idempotencyKey).Nodup
  idempotency_iff : ∀ key record, inner.idempotency.lookup key = some record ↔
    ∃ stored ∈ inner.events, stored.idempotencyKey = key ∧ record = stored.record
  numbered : ∀ epoch id, (accepted log epoch id).IsChain fun m n => n = m + 1
  last : ∀ id, inner.activitySequences.lookup id = (numbers log inner.epoch id).getLast?
  last_accepted : ∀ id, ∀ n ∈ (accepted log inner.epoch id).getLast?,
    inner.activitySequences.lookup id = some n

/-! ### Going on with a history -/

theorem published_append (log entries : List Entry) (epoch : ℕ) :
    published (log ++ entries) epoch = published log epoch ++ published entries epoch :=
  List.filterMap_append

theorem accepted_append (log entries : List Entry) (epoch : ℕ) (id : ActivityId) :
    accepted (log ++ entries) epoch id = accepted log epoch id ++ accepted entries epoch id :=
  List.filterMap_append

theorem numbers_append (log entries : List Entry) (epoch : ℕ) (id : ActivityId) :
    numbers (log ++ entries) epoch id = numbers log epoch id ++ numbers entries epoch id :=
  List.filterMap_append

theorem accepted_append_published (log : List Entry) (e epoch : ℕ) (key : String)
    (event : ActivityEvent) (id : ActivityId) :
    accepted (log ++ [.published e key event]) epoch id =
      if e = epoch ∧ event.activityId = id then accepted log epoch id ++ [event.sequence]
      else accepted log epoch id := by
  rw [accepted_append]
  by_cases hsame : e = epoch ∧ event.activityId = id
  · simp [accepted, Entry.acceptedIn, hsame]
  · simp [accepted, Entry.acceptedIn, hsame]

theorem getLast?_numbers_append_published (log : List Entry) (e epoch : ℕ) (key : String)
    (event : ActivityEvent) (id : ActivityId) :
    (numbers (log ++ [.published e key event]) epoch id).getLast? =
      if e = epoch ∧ event.activityId = id then some event.sequence
      else (numbers log epoch id).getLast? := by
  rw [numbers_append]
  by_cases hsame : e = epoch ∧ event.activityId = id
  · simp [numbers, Entry.numberIn, hsame]
  · simp [numbers, Entry.numberIn, hsame]

theorem getLast?_numbers_append_restored (log : List Entry) (e epoch : ℕ) (a id : ActivityId)
    (sequence : ℕ) :
    (numbers (log ++ [.restored e a sequence]) epoch id).getLast? =
      if e = epoch ∧ a = id then some sequence else (numbers log epoch id).getLast? := by
  rw [numbers_append]
  by_cases hsame : e = epoch ∧ a = id
  · simp [numbers, Entry.numberIn, hsame]
  · simp [numbers, Entry.numberIn, hsame]

theorem published_eq_nil {log : List Entry} {epoch : ℕ} (h : ∀ entry ∈ log, entry.epoch < epoch) :
    published log epoch = [] := by
  rw [published, List.filterMap_eq_nil_iff]
  intro entry hentry
  have hne := Nat.ne_of_lt (h entry hentry)
  cases entry with
  | published => exact if_neg hne
  | restored => rfl

theorem accepted_eq_nil {log : List Entry} {epoch : ℕ} (h : ∀ entry ∈ log, entry.epoch < epoch)
    (id : ActivityId) : accepted log epoch id = [] := by
  rw [accepted, List.filterMap_eq_nil_iff]
  intro entry hentry
  have hne := Nat.ne_of_lt (h entry hentry)
  cases entry with
  | published => exact if_neg fun hsame => hne hsame.1
  | restored => rfl

theorem numbers_eq_nil {log : List Entry} {epoch : ℕ} (h : ∀ entry ∈ log, entry.epoch < epoch)
    (id : ActivityId) : numbers log epoch id = [] := by
  rw [numbers, List.filterMap_eq_nil_iff]
  intro entry hentry
  have hne := Nat.ne_of_lt (h entry hentry)
  cases entry with
  | published | restored => exact if_neg fun hsame => hne hsame.1

section

variable [Sha256] {inner : EventJournal} {log : List Entry}

theorem Consistent.length_le (h : inner.Consistent log) :
    inner.events.length < inner.nextCursorSequence := by
  have hlength := h.retained.length_le
  rw [List.length_map] at hlength
  rw [h.cursor_eq]
  omega

theorem consistent_withBounds (epoch snapshotRevision maxEvents maxBytes : ℕ) :
    (withBounds epoch snapshotRevision maxEvents maxBytes).Consistent [] :=
  { bounded := bounded_withBounds _ _ _ _
    epoch_le := List.forall_mem_nil _
    cursor_eq := rfl
    retained := List.suffix_refl _
    nonempty := fun _ => rfl
    consecutive := rfl
    sizes := List.forall_mem_nil _
    keys_nodup := List.nodup_nil
    idempotency_iff := by
      intro _ _
      constructor
      · intro h
        cases h
      · rintro ⟨stored, hstored, -, -⟩
        cases hstored
    numbered := fun epoch id => List.IsChain.nil
    last := fun id => rfl
    last_accepted := fun id n h => absurd h (Option.not_mem_none n) }

theorem Consistent.subscribers (h : inner.Consistent log)
    (subscribers : Map SubscriberId Subscriber) :
    ({ inner with subscribers } : EventJournal).Consistent log :=
  ⟨⟨h.bounded.1, h.bounded.2, h.bounded.3, h.bounded.4⟩, h.epoch_le, h.cursor_eq, h.retained,
    h.nonempty, h.consecutive, h.sizes, h.keys_nodup, h.idempotency_iff, h.numbered, h.last, h.last_accepted⟩

theorem Consistent.rotateLocked (h : inner.Consistent log) {epoch : ℕ} (snapshotRevision : ℕ)
    (hepoch : inner.epoch < epoch) : (inner.rotateLocked epoch snapshotRevision).Consistent log := by
  have hlt : ∀ entry ∈ log, entry.epoch < epoch := fun entry hentry =>
    Nat.lt_of_le_of_lt (h.epoch_le entry hentry) hepoch
  refine
    { bounded := bounded_rotateLocked inner _ _
      epoch_le := fun entry hentry => Nat.le_of_lt (hlt entry hentry)
      cursor_eq := ?_
      retained := List.nil_suffix
      nonempty := fun _ => published_eq_nil hlt
      consecutive := rfl
      sizes := List.forall_mem_nil _
      keys_nodup := List.nodup_nil
      idempotency_iff := ?_
      numbered := h.numbered
      last := ?_
      last_accepted := ?_ }
  · change 1 = (published log epoch).length + 1
    rw [published_eq_nil hlt, List.length_nil]
  · intro _ _
    constructor
    · intro hlookup
      cases hlookup
    · rintro ⟨stored, hstored, -, -⟩
      cases hstored
  · intro id
    change none = (numbers log epoch id).getLast?
    rw [numbers_eq_nil hlt, List.getLast?_nil]
  · intro id n hn
    change n ∈ (accepted log epoch id).getLast? at hn
    rw [accepted_eq_nil hlt] at hn
    cases hn

theorem Consistent.restored (h : inner.Consistent log) {activityId : ActivityId} {sequence : ℕ}
    (hsame : ∀ existing ∈ inner.activitySequences.lookup activityId, existing = sequence)
    (hroom : (inner.activitySequences.insert activityId sequence).len ≤ Dashboard.maxEvents) :
    ({ inner with
        activitySequences := inner.activitySequences.insert activityId sequence } :
      EventJournal).Consistent (log ++ [.restored inner.epoch activityId sequence]) := by
  have hpublished : ∀ epoch, published (log ++ [.restored inner.epoch activityId sequence]) epoch
      = published log epoch := by
    intro epoch
    rw [published_append]
    exact List.append_nil _
  have haccepted : ∀ epoch id,
      accepted (log ++ [.restored inner.epoch activityId sequence]) epoch id
        = accepted log epoch id := by
    intro epoch id
    rw [accepted_append]
    exact List.append_nil _
  refine
    { bounded := ⟨h.bounded.1, h.bounded.2, h.bounded.3, hroom⟩
      epoch_le := ?_
      cursor_eq := by rw [hpublished]; exact h.cursor_eq
      retained := by rw [hpublished]; exact h.retained
      nonempty := by rw [hpublished]; exact h.nonempty
      consecutive := h.consecutive
      sizes := h.sizes
      keys_nodup := h.keys_nodup
      idempotency_iff := h.idempotency_iff
      numbered := fun epoch id => by rw [haccepted]; exact h.numbered epoch id
      last := ?_
      last_accepted := ?_ }
  · intro entry hentry
    rcases List.mem_append.1 hentry with hold | hnew
    · exact h.epoch_le entry hold
    · rw [List.mem_singleton.1 hnew]
      exact Nat.le_refl _
  · intro id
    change (inner.activitySequences.insert activityId sequence).lookup id = _
    rw [Map.lookup_insert, getLast?_numbers_append_restored]
    by_cases hid : id = activityId
    · rw [if_pos hid, if_pos ⟨rfl, hid.symm⟩]
    · rw [if_neg hid, if_neg fun hsame => hid hsame.2.symm]
      exact h.last id
  · intro id n hn
    change (inner.activitySequences.insert activityId sequence).lookup id = _
    rw [haccepted] at hn
    have hlookup := h.last_accepted id n hn
    rw [Map.lookup_insert]
    by_cases hid : id = activityId
    · -- The number that is restored is the one the activity has.
      subst hid
      rw [if_pos rfl, hsame n hlookup]
    · rw [if_neg hid]
      exact hlookup

structure Publishable (inner : EventJournal) (idempotencyKey : String) (event : ActivityEvent)
    (eventJson : List UInt8) : Prop where
  bytes_eq : eventJson = event.toJson.toVec
  fresh : inner.idempotency.lookup idempotencyKey = none
  capacity : inner.maxEvents ≠ 0
  fits : eventJson.length ≤ inner.maxBytes
  expected : expectedSequence (inner.activitySequences.lookup event.activityId)
    = some event.sequence
  room : (inner.activitySequences.insert event.activityId event.sequence).len ≤ Dashboard.maxEvents

omit [Sha256] in
theorem eq_succ_of_expectedSequence {n sequence : ℕ} (h : expectedSequence (some n) = some sequence) :
    sequence = n + 1 := by
  rw [expectedSequence, checkedAdd] at h
  split_ifs at h
  exact (Option.some.inj h).symm

omit [Sha256] in
theorem consecutive_push {dropped retained : List StoredEvent} {stored : StoredEvent} {cursor : ℕ}
    (h : (dropped ++ retained).map StoredEvent.cursorSequence =
      List.range' (cursor - (dropped ++ retained).length) (dropped ++ retained).length)
    (hlength : (dropped ++ retained).length ≤ cursor) (hstored : stored.cursorSequence = cursor) :
    (retained ++ [stored]).map StoredEvent.cursorSequence =
      List.range' (cursor + 1 - (retained ++ [stored]).length) (retained ++ [stored]).length := by
  have hdrop := congrArg (List.drop dropped.length) h
  rw [List.length_append] at hlength
  rw [List.map_append, List.drop_left' (List.length_map _), List.drop_range',
    List.length_append, Nat.add_sub_cancel_left, Nat.mul_one] at hdrop
  have hstart : cursor - (dropped.length + retained.length) + dropped.length
      = cursor - retained.length := by
    omega
  have hnext : cursor + 1 - (retained.length + 1) = cursor - retained.length := by omega
  have hcursor : cursor - retained.length + retained.length = cursor := by omega
  rw [hstart] at hdrop
  rw [List.map_append, hdrop, List.map_singleton, hstored, List.length_append,
    List.length_singleton, hnext, List.range'_1_concat, hcursor]

theorem Consistent.publish (h : inner.Consistent log) {idempotencyKey : String}
    {event : ActivityEvent} {eventJson : List UInt8}
    (hevent : inner.Publishable idempotencyKey event eventJson) :
    (inner.publish idempotencyKey event eventJson (inner.nextCursorSequence + 1)).Consistent
      (log ++ [.published inner.epoch idempotencyKey event]) := by
  have hbounded := @h.bounded.publish _ _ idempotencyKey event eventJson
    (inner.nextCursorSequence + 1) hevent.capacity hevent.fits hevent.room
  have hlength := h.length_le
  obtain ⟨dropped, retained, _, hevents, heq⟩ :=
    publish_eq inner idempotencyKey event eventJson (inner.nextCursorSequence + 1)
  rw [heq] at hbounded ⊢
  have hpublished : published (log ++ [.published inner.epoch idempotencyKey event]) inner.epoch
      = published log inner.epoch ++ [(idempotencyKey, event)] := by
    rw [published_append]
    simp [published, Entry.publishedIn]
  have hnodup := h.keys_nodup
  rw [hevents, List.map_append, List.nodup_append] at hnodup
  refine
    { bounded := hbounded
      epoch_le := ?_
      cursor_eq := ?_
      retained := ?_
      nonempty := fun hempty => absurd hempty (List.append_ne_nil_of_right_ne_nil _ (List.cons_ne_nil _ _))
      consecutive := ?_
      sizes := ?_
      keys_nodup := ?_
      idempotency_iff := ?_
      numbered := ?_
      last := ?_
      last_accepted := ?_ }
  · intro entry hentry
    rcases List.mem_append.1 hentry with hold | hnew
    · exact h.epoch_le entry hold
    · rw [List.mem_singleton.1 hnew]
      exact Nat.le_refl _
  · change inner.nextCursorSequence + 1 = _
    rw [hpublished, List.length_append, List.length_singleton, ← h.cursor_eq]
  · obtain ⟨front, hfront⟩ := h.retained
    refine ⟨front ++ dropped.map fun stored => (stored.idempotencyKey, stored.event), ?_⟩
    rw [hpublished, ← hfront, hevents]
    simp only [List.map_append, List.map_cons, List.map_nil, List.append_assoc]
  · have hconsecutive := h.consecutive
    rw [hevents] at hconsecutive hlength
    exact consecutive_push hconsecutive (Nat.le_of_lt hlength) rfl
  · intro stored hstored
    rcases List.mem_append.1 hstored with hold | hnew
    · exact h.sizes stored (by rw [hevents]; exact List.mem_append_right _ hold)
    · rw [List.mem_singleton.1 hnew]
      exact congrArg List.length hevent.bytes_eq
  · change ((retained ++ [_]).map StoredEvent.idempotencyKey).Nodup
    rw [List.map_append, List.nodup_append]
    refine ⟨hnodup.2.1, List.nodup_singleton _, ?_⟩
    intro key hkey _ hkey' hsame
    obtain ⟨stored, hstored, hstoredKey⟩ := List.mem_map.1 hkey
    rw [List.map_singleton, List.mem_singleton] at hkey'
    -- The key is new, so that none of the events that are left has it.
    have hlookup := (h.idempotency_iff key stored.record).2
      ⟨stored, by rw [hevents]; exact List.mem_append_right _ hstored, hstoredKey, rfl⟩
    rw [hsame, hkey', hevent.fresh] at hlookup
    cases hlookup
  · intro key record
    change (Map.insert _ _ _).lookup key = some record ↔ ∃ stored ∈ retained ++ [_], _
    rw [Map.lookup_insert, lookup_foldl_erase]
    have hold : ∀ stored ∈ retained, stored ∈ inner.events := fun stored hstored => by
      rw [hevents]
      exact List.mem_append_right _ hstored
    by_cases hkey : key = idempotencyKey
    · rw [if_pos hkey, Option.some_inj]
      constructor
      · rintro rfl
        refine ⟨_, List.mem_append_right _ (List.mem_singleton_self _), hkey.symm, ?_⟩
        rw [StoredEvent.record, hevent.bytes_eq]
      · rintro ⟨stored, hstored, hstoredKey, rfl⟩
        rcases List.mem_append.1 hstored with hleft | hnew
        · have hlookup := (h.idempotency_iff key stored.record).2
            ⟨stored, hold stored hleft, hstoredKey, rfl⟩
          rw [hkey, hevent.fresh] at hlookup
          cases hlookup
        · rw [List.mem_singleton.1 hnew, StoredEvent.record, hevent.bytes_eq]
    · rw [if_neg hkey]
      by_cases hdropped : key ∈ dropped.map StoredEvent.idempotencyKey
      · rw [if_pos hdropped]
        constructor
        · intro hnone
          cases hnone
        · rintro ⟨stored, hstored, hstoredKey, -⟩
          rcases List.mem_append.1 hstored with hleft | hnew
          · exact absurd hstoredKey.symm
              (hnodup.2.2 key hdropped _ (List.mem_map_of_mem hleft))
          · rw [List.mem_singleton.1 hnew] at hstoredKey
            exact absurd hstoredKey.symm hkey
      · rw [if_neg hdropped, h.idempotency_iff, hevents]
        constructor
        · rintro ⟨stored, hstored, hstoredKey, hrecord⟩
          rcases List.mem_append.1 hstored with hgone | hleft
          · exact absurd (hstoredKey ▸ List.mem_map_of_mem hgone) hdropped
          · exact ⟨stored, List.mem_append_left _ hleft, hstoredKey, hrecord⟩
        · rintro ⟨stored, hstored, hstoredKey, hrecord⟩
          rcases List.mem_append.1 hstored with hleft | hnew
          · exact ⟨stored, List.mem_append_right _ hleft, hstoredKey, hrecord⟩
          · rw [List.mem_singleton.1 hnew] at hstoredKey
            exact absurd hstoredKey.symm hkey
  · intro epoch id
    rw [accepted_append_published]
    by_cases hsame : inner.epoch = epoch ∧ event.activityId = id
    · obtain ⟨rfl, rfl⟩ := hsame
      rw [if_pos ⟨rfl, rfl⟩, List.isChain_append]
      refine ⟨h.numbered _ _, List.isChain_singleton _, ?_⟩
      intro m hm n hn
      have hexpected := hevent.expected
      rw [h.last_accepted _ m hm] at hexpected
      cases hn
      exact eq_succ_of_expectedSequence hexpected
    · rw [if_neg hsame]
      exact h.numbered epoch id
  · intro id
    change (inner.activitySequences.insert event.activityId event.sequence).lookup id = _
    rw [Map.lookup_insert, getLast?_numbers_append_published]
    by_cases hid : id = event.activityId
    · rw [if_pos hid, if_pos ⟨rfl, hid.symm⟩]
    · rw [if_neg hid, if_neg fun hsame => hid hsame.2.symm]
      exact h.last id
  · intro id n hn
    change (inner.activitySequences.insert event.activityId event.sequence).lookup id = _
    change n ∈ (accepted _ inner.epoch id).getLast? at hn
    rw [accepted_append_published] at hn
    rw [Map.lookup_insert]
    by_cases hid : id = event.activityId
    · rw [if_pos ⟨rfl, hid.symm⟩, List.getLast?_concat] at hn
      rw [if_pos hid]
      exact hn
    · rw [if_neg fun hsame => hid hsame.2.symm] at hn
      rw [if_neg hid]
      exact h.last_accepted id n hn

omit [Sha256] in
theorem eq_toVec_of_checkEvent {idempotencyKey : String} {event : ActivityEvent}
    {eventJson : List UInt8} (h : checkEvent idempotencyKey event = .ok eventJson) :
    eventJson = event.toJson.toVec :=
  (toVec_eq_ok.1 (checkEvent_inv h).2.2).2.2

omit [Sha256] in
theorem Accepts.publishable (hbounded : inner.Bounded) {idempotencyKey : String}
    {event : ActivityEvent} {eventJson : List UInt8}
    (h : inner.Accepts idempotencyKey event eventJson) :
    (inner.opened event).Publishable idempotencyKey event eventJson := by
  refine
    { bytes_eq := eq_toVec_of_checkEvent h.checked
      fresh := ?_
      capacity := by rw [maxEvents_opened]; exact h.capacity
      fits := by rw [maxBytes_opened]; exact h.fits
      expected := ?_
      room := hbounded.len_insert_opened event }
  · rw [opened]
    split
    · rfl
    · exact h.fresh
  · rw [opened]
    split
    · rename_i hfull
      -- The activity is new in the old epoch as well as in the new one.
      rw [← h.expected, hfull.1]
      rfl
    · exact h.expected

theorem Consistent.opened (h : inner.Consistent log) (event : ActivityEvent) :
    (inner.opened event).Consistent log := by
  rw [EventJournal.opened]
  split
  · exact h.rotateLocked _ (Nat.lt_succ_self _)
  · exact h

theorem Consistent.change (h : inner.Consistent log) {inner' : EventJournal} {entries : List Entry}
    (hchange : Change inner entries inner') : inner'.Consistent (log ++ entries) := by
  cases hchange with
  | subscribers subscribers =>
    rw [List.append_nil]
    exact h.subscribers subscribers
  | rotated snapshotRevision hepoch =>
    rw [List.append_nil]
    exact h.rotateLocked snapshotRevision hepoch
  | published haccepts => exact (h.opened _).publish (haccepts.publishable h.bounded)
  | restored hsame hroom => exact h.restored hsame hroom

variable {maxEvents maxBytes : ℕ}

/-- **A journal is consistent with its history.** -/
theorem consistent_of_history (h : History maxEvents maxBytes inner log) :
    inner.Consistent log := by
  induction h with
  | withBounds => exact consistent_withBounds _ _ _ _
  | step _ hstep ih => exact ih.change (hstep.change ih.bounded)

/-! ### The eviction loop -/

theorem Change.bounds {inner' : EventJournal} {entries : List Entry}
    (h : Change inner entries inner') :
    inner'.maxEvents = inner.maxEvents ∧ inner'.maxBytes = inner.maxBytes := by
  cases h with
  | subscribers | rotated | restored => exact ⟨rfl, rfl⟩
  | @published idempotencyKey event eventJson haccepts =>
    obtain ⟨_, _, _, -, heq⟩ := publish_eq (inner.opened event) idempotencyKey
      event eventJson ((inner.opened event).nextCursorSequence + 1)
    rw [heq]
    exact ⟨maxEvents_opened inner event, maxBytes_opened inner event⟩

theorem bounds_of_history (h : History maxEvents maxBytes inner log) :
    inner.maxEvents = min maxEvents Dashboard.maxEvents ∧
      inner.maxBytes = min maxBytes maxEventBytes := by
  induction h with
  | withBounds => exact ⟨rfl, rfl⟩
  | step hprevious hstep ih =>
    have hbounds := (hstep.change (consistent_of_history hprevious).bounded).bounds
    exact ⟨hbounds.1.trans ih.1, hbounds.2.trans ih.2⟩

omit [Sha256] in
theorem evictOrPanic_eq {size : ℕ} {events : List StoredEvent} (hmax : inner.maxEvents ≠ 0)
    (hfits : size ≤ inner.maxBytes)
    (hbytes : inner.serializedBytes = (events.map StoredEvent.serializedBytes).sum) :
    evictOrPanic size inner events = some (evict size inner events) := by
  -- The events that are left account for the bytes that are counted.
  induction events generalizing inner with
  | nil =>
    have hzero : inner.serializedBytes = 0 := hbytes
    have hcondition : ¬(0 ≥ inner.maxEvents ∨
        inner.serializedBytes > inner.maxBytes - size) := by omega
    rw [evictOrPanic, checkedSub, if_pos hfits, Option.bind_eq_bind, Option.bind_some,
      if_neg hcondition, evict]
  | cons removed events ih =>
    rw [List.map_cons, List.sum_cons] at hbytes
    rw [evictOrPanic, checkedSub, if_pos hfits, Option.bind_eq_bind, Option.bind_some, evict]
    by_cases hfull : events.length + 1 ≥ inner.maxEvents ∨
        inner.serializedBytes > inner.maxBytes - size
    · have hcount : removed.serializedBytes ≤ inner.serializedBytes := by omega
      rw [if_pos hfull, if_pos hfull, checkedSub, if_pos hcount, Option.bind_some]
      have hrest : inner.serializedBytes - removed.serializedBytes
          = (events.map StoredEvent.serializedBytes).sum := by
        omega
      exact @ih
        { inner with
          serializedBytes := inner.serializedBytes - removed.serializedBytes
          idempotency := inner.idempotency.erase removed.idempotencyKey } hmax hfits hrest
    · rw [if_neg hfull, if_neg hfull]

/-- A journal is consistent with its history and within the bounds it was opened with, and the
eviction loop of every append that it accepts runs without a panic. -/
theorem sound_of_history (h : History maxEvents maxBytes inner log) :
    inner.Consistent log ∧ inner.maxEvents = min maxEvents Dashboard.maxEvents ∧
      inner.maxBytes = min maxBytes maxEventBytes ∧
      ∀ idempotencyKey event eventJson, inner.Accepts idempotencyKey event eventJson →
        evictOrPanic eventJson.length (inner.opened event) (inner.opened event).events =
          some (evict eventJson.length (inner.opened event) (inner.opened event).events) := by
  have hconsistent := consistent_of_history h
  have hbounds := bounds_of_history h
  refine ⟨hconsistent, hbounds.1, hbounds.2, ?_⟩
  intro idempotencyKey event eventJson haccepts
  have hevent := haccepts.publishable hconsistent.bounded
  exact evictOrPanic_eq hevent.capacity hevent.fits
    (hconsistent.bounded.opened event).serializedBytes_eq

end

/-! ### The history of one event -/

theorem accepts_new {idempotencyKey : String} {event : ActivityEvent} {eventJson : List UInt8}
    (hchecked : checkEvent idempotencyKey event = .ok eventJson)
    (hfits : eventJson.length ≤ (new 1 0).maxBytes) (hsequence : event.sequence = 1) :
    (new 1 0).Accepts idempotencyKey event eventJson :=
  { checked := hchecked
    fresh := rfl
    sequence_ne := by
      rw [hsequence]
      exact Nat.ne_of_lt (by decide : 1 < u64Max)
    capacity := Nat.succ_ne_zero _
    fits := hfits
    expected := by
      rw [hsequence]
      rfl
    epoch_lt := fun hfull => absurd hfull.2 (Nat.not_lt_of_le (Nat.zero_le _))
    cursor_lt := fun _ => Nat.succ_le_of_lt (by decide : 1 < u64Max) }

abbrev eventHash : Sha256 :=
  ⟨fun _ => ⟨[200, 137, 106, 88, 29, 206, 113, 214, 222, 230, 23, 238, 184, 25, 237, 177, 138, 244, 161,
    5, 252, 136, 137, 144, 251, 14, 95, 128, 232, 202, 209, 81], by decide⟩⟩

def sampleJournal [Sha256] : EventJournal :=
  (new 1 0).publish "key" sampleEvent sampleEvent.toJson.toVec 2

theorem history_sampleJournal [Sha256] :
    History Dashboard.maxEvents maxEventBytes sampleJournal [.published 1 "key" sampleEvent] :=
  (History.withBounds 1 0).step
    (Step.of_accepts (accepts_new checkEvent_sampleEvent length_sampleEvent_le rfl)
      (pure () : Eff Unit Unit Unit) () rfl)

theorem sampleJournal_sound : letI := eventHash
    sampleJournal.Consistent [.published 1 "key" sampleEvent] ∧
      sampleJournal.maxEvents = 1000 ∧ sampleJournal.maxBytes = 8 * 1024 * 1024 := by
  let _ := eventHash
  obtain ⟨hconsistent, hevents, hbytes, -⟩ := sound_of_history history_sampleJournal
  exact ⟨hconsistent, hevents, hbytes⟩

end EventJournal

end Dashboard
