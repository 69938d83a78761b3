/-
**Appending to the event journal.**

An append is determined by what it decides from the journal as it finds it: to refuse the event, to
collapse it with an earlier one, or to publish it. Only in the last case is anything written, and
there the journal begins a new epoch *before* the precommit work is run, so that a failure of that
work leaves an emptied journal behind.

Main definitions:

* `Dashboard.EventJournal.plan` — what an append decides before anything is written.

Main results:

* `Dashboard.EventJournal.exec_appendWithPrecommit` — **an append is its plan, then the new epoch if
  one is due, then the precommit work, then the publication**.
-/

import DeviceLane.Dashboard.EventLog
import DeviceLane.Dashboard.ModelSize

namespace Dashboard

open Effect

namespace EventJournal

variable {σ ε : Type}

variable {event : ActivityEvent} {eventJson : List UInt8} {idempotencyKey : String}
  {inner : EventJournal}

/-! ### The plan of an append -/

/-- What an append decides before anything is written: to fail, to collapse the event, or to publish
it with the given bytes. -/
def plan [Sha256] (inner : EventJournal) (idempotencyKey : String) (event : ActivityEvent) :
    Except AppendError (Option (List UInt8)) := do
  let eventJson ← checkEvent idempotencyKey event
  match inner.idempotency.lookup idempotencyKey with
  | some existing =>
    if existing.eventDigest = Sha256.digest eventJson then
      pure none
    else
      throw .idempotencyConflict
  | none =>
    failIf (event.sequence = u64Max) .sequenceOverflow
    failIf (inner.maxEvents = 0 ∨ eventJson.length > inner.maxBytes)
      (.limitExceeded eventJson.length inner.maxBytes)
    match expectedSequence (inner.activitySequences.lookup event.activityId) with
    | none => throw .sequenceOverflow
    | some expected =>
      failIf (event.sequence ≠ expected) (.nonMonotonicSequence expected)
      failIf (inner.needsRotation event ∧ u64Max < inner.epoch + 1) .epochOverflow
      failIf (¬inner.needsRotation event ∧ u64Max < inner.nextCursorSequence + 1)
        .sequenceOverflow
      pure (some eventJson)

/-- The journal an event is published in: a new epoch of it, if one is due. -/
def opened (inner : EventJournal) (event : ActivityEvent) : EventJournal :=
  if inner.needsRotation event then
    inner.rotateLocked (inner.epoch + 1) inner.snapshotRevision
  else
    inner

theorem exec_rotateIfFull (inner : EventJournal) (s : σ) (event : ActivityEvent) :
    (rotateIfFull event : Eff (EventJournal × σ) (AppendTransactionError ε) Unit).exec (inner, s) =
      if inner.needsRotation event ∧ u64Max < inner.epoch + 1 then
        (.error (.append .epochOverflow), (inner, s))
      else
        (.ok (), (inner.opened event, s)) := by
  rw [rotateIfFull, exec_bind_ok (exec_get _), opened]
  dsimp only
  by_cases hfull : inner.needsRotation event
  · rw [if_pos hfull, if_pos hfull, checkedAdd]
    by_cases hepoch : inner.epoch + 1 ≤ u64Max
    · rw [if_pos hepoch, if_neg (by omega), exec_okOr_some_bind]
      rfl
    · rw [if_neg hepoch, if_pos ⟨hfull, by omega⟩, exec_okOr_none_bind]
  · rw [if_neg hfull, if_neg hfull, if_neg (fun h => hfull h.1)]
    rfl

theorem checkedAdd_opened (inner : EventJournal) (event : ActivityEvent) :
    checkedAdd (inner.opened event).nextCursorSequence 1 =
      if ¬inner.needsRotation event ∧ u64Max < inner.nextCursorSequence + 1 then
        none
      else
        some ((inner.opened event).nextCursorSequence + 1) := by
  rw [checkedAdd, opened]
  by_cases hfull : inner.needsRotation event
  · have hroom : (inner.rotateLocked (inner.epoch + 1) inner.snapshotRevision).nextCursorSequence + 1
        ≤ u64Max := by
      change 1 + 1 ≤ u64Max
      decide
    rw [if_pos hfull, if_pos hroom, if_neg fun h => h.1 hfull]
  · rw [if_neg hfull]
    by_cases hcursor : inner.nextCursorSequence + 1 ≤ u64Max
    · rw [if_pos hcursor, if_neg (by omega)]
    · rw [if_neg hcursor, if_pos ⟨hfull, by omega⟩]

/-- **An append is its plan, then the new epoch if one is due, then the precommit work, then the
publication.** -/
theorem exec_appendWithPrecommit [Sha256] (inner : EventJournal) (s : σ) (idempotencyKey : String)
    (event : ActivityEvent) (precommit : Eff σ ε Unit) :
    (appendWithPrecommit idempotencyKey event precommit).exec (inner, s) =
      match inner.plan idempotencyKey event with
      | .error error => (.error (.append error), (inner, s))
      | .ok none => (.ok .duplicateCollapsed, (inner, s))
      | .ok (some eventJson) =>
        match (precommit.exec s).1 with
        | .error error => (.error (.precommit error), (inner.opened event, (precommit.exec s).2))
        | .ok _ => (.ok .appended,
            ((inner.opened event).publish idempotencyKey event eventJson
              ((inner.opened event).nextCursorSequence + 1), (precommit.exec s).2)) := by
  rw [appendWithPrecommit, plan]
  cases hcheck : checkEvent idempotencyKey event with
  | error => rw [exec_bind]; rfl
  | ok eventJson =>
    have hread : ∀ f : List UInt8 → Eff (EventJournal × σ) (AppendTransactionError ε) AppendOutcome,
        (orThrow AppendTransactionError.append (.ok eventJson) >>= f).exec (inner, s)
          = (f eventJson).exec (inner, s) :=
      fun f => exec_bind_ok rfl
    rw [hread, exec_bind_ok (exec_get _), ok_bind]
    dsimp only
    cases hkey : inner.idempotency.lookup idempotencyKey with
    | some existing =>
      dsimp only
      by_cases hdigest : existing.eventDigest = Sha256.digest eventJson
      · rw [if_pos hdigest, if_pos hdigest]
        rfl
      · rw [if_neg hdigest, if_neg hdigest]
        rfl
    | none =>
      simp only [exec_throwIf_bind, failIf_bind]
      by_cases hmax : event.sequence = u64Max
      · rw [if_pos hmax, if_pos hmax]
      rw [if_neg hmax, if_neg hmax]
      by_cases hfits : inner.maxEvents = 0 ∨ eventJson.length > inner.maxBytes
      · rw [if_pos hfits, if_pos hfits]
      rw [if_neg hfits, if_neg hfits]
      cases hexpected : expectedSequence (inner.activitySequences.lookup event.activityId) with
      | none => rfl
      | some expected =>
        rw [exec_okOr_some_bind, exec_throwIf_bind]
        dsimp only
        by_cases hseq : event.sequence ≠ expected
        · rw [if_pos hseq, if_pos hseq]
        rw [if_neg hseq, if_neg hseq, exec_bind, exec_rotateIfFull]
        by_cases hepoch : inner.needsRotation event ∧ u64Max < inner.epoch + 1
        · rw [if_pos hepoch, if_pos hepoch]
        rw [if_neg hepoch, if_neg hepoch]
        dsimp only
        rw [exec_bind_ok (exec_get _)]
        dsimp only
        rw [checkedAdd_opened]
        by_cases hcursor : ¬inner.needsRotation event ∧ u64Max < inner.nextCursorSequence + 1
        · rw [if_pos hcursor, if_pos hcursor, exec_okOr_none_bind]
          simp [opened, hcursor.1]
        rw [if_neg hcursor, if_neg hcursor, exec_okOr_some_bind, exec_bind, exec_onPart]
        cases hrun : (precommit.exec s).1 with
        | error | ok => rfl

/-- The appends that publish their event, with the bytes they publish it with. -/
structure Accepts (inner : EventJournal) (idempotencyKey : String) (event : ActivityEvent)
    (eventJson : List UInt8) : Prop where
  checked : checkEvent idempotencyKey event = .ok eventJson
  fresh : inner.idempotency.lookup idempotencyKey = none
  sequence_ne : event.sequence ≠ u64Max
  capacity : inner.maxEvents ≠ 0
  fits : eventJson.length ≤ inner.maxBytes
  expected : expectedSequence (inner.activitySequences.lookup event.activityId)
    = some event.sequence
  epoch_lt : inner.needsRotation event → inner.epoch + 1 ≤ u64Max
  cursor_lt : ¬inner.needsRotation event → inner.nextCursorSequence + 1 ≤ u64Max

theorem plan_eq_some_iff [Sha256] :
    inner.plan idempotencyKey event = .ok (some eventJson) ↔
      inner.Accepts idempotencyKey event eventJson := by
  constructor
  · intro h
    rw [plan] at h
    cases hcheck : checkEvent idempotencyKey event with
    | error => rw [hcheck] at h; cases h
    | ok =>
      rw [hcheck, ok_bind] at h
      cases hkey : inner.idempotency.lookup idempotencyKey with
      | some =>
        simp only [hkey] at h
        split at h <;> cases h
      | none =>
        simp only [hkey, failIf_bind] at h
        cases hexpected : expectedSequence (inner.activitySequences.lookup event.activityId) with
        | none =>
          simp only [hexpected] at h
          split_ifs at h
        | some expected =>
          simp only [hexpected] at h
          split_ifs at h with hmax hfits hseq hepoch hcursor
          rw [not_or] at hfits
          rw [not_not] at hseq
          cases h
          exact
            { checked := hcheck
              fresh := hkey
              sequence_ne := hmax
              capacity := hfits.1
              fits := Nat.le_of_not_lt hfits.2
              expected := by rw [hexpected, hseq]
              epoch_lt := fun hfull => Nat.le_of_not_lt fun hlt => hepoch ⟨hfull, hlt⟩
              cursor_lt := fun hfull => Nat.le_of_not_lt fun hlt => hcursor ⟨hfull, hlt⟩ }
  · intro h
    have hfits : ¬(inner.maxEvents = 0 ∨ eventJson.length > inner.maxBytes) := by
      rintro (hzero | hlong)
      · exact h.capacity hzero
      · exact Nat.not_lt_of_le h.fits hlong
    have hepoch : ¬(inner.needsRotation event ∧ u64Max < inner.epoch + 1) := fun hfull =>
      Nat.not_lt_of_le (h.epoch_lt hfull.1) hfull.2
    have hcursor : ¬(¬inner.needsRotation event ∧ u64Max < inner.nextCursorSequence + 1) :=
      fun hfull => Nat.not_lt_of_le (h.cursor_lt hfull.1) hfull.2
    rw [plan, h.checked, ok_bind]
    simp only [h.fresh, h.expected, failIf_bind]
    rw [if_neg h.sequence_ne, if_neg hfits, if_neg (not_not_intro rfl), if_neg hepoch,
      if_neg hcursor]
    rfl

theorem lookup_of_plan_eq_none [Sha256] (h : inner.plan idempotencyKey event = .ok none) :
    ∃ existing, inner.idempotency.lookup idempotencyKey = some existing := by
  rw [plan] at h
  cases hcheck : checkEvent idempotencyKey event with
  | error => rw [hcheck] at h; cases h
  | ok =>
    rw [hcheck, ok_bind] at h
    cases hkey : inner.idempotency.lookup idempotencyKey with
    | some existing => exact ⟨existing, rfl⟩
    | none =>
      simp only [hkey, failIf_bind] at h
      cases hexpected : expectedSequence (inner.activitySequences.lookup event.activityId) with
      | none =>
        simp only [hexpected] at h
        split_ifs at h
      | some =>
        simp only [hexpected] at h
        split_ifs at h
        cases h

/-- **An event out of turn is refused.** -/
theorem plan_of_out_of_turn [Sha256] {inner : EventJournal} {idempotencyKey : String}
    {event : ActivityEvent} (hfresh : inner.idempotency.lookup idempotencyKey = none)
    (hturn : expectedSequence (inner.activitySequences.lookup event.activityId)
      ≠ some event.sequence) :
    ∃ error, inner.plan idempotencyKey event = .error error := by
  cases hplan : inner.plan idempotencyKey event with
  | error error => exact ⟨error, rfl⟩
  | ok planned =>
    cases planned with
    | none =>
      obtain ⟨_, hexisting⟩ := lookup_of_plan_eq_none hplan
      rw [hfresh] at hexisting
      cases hexisting
    | some => exact absurd (plan_eq_some_iff.1 hplan).expected hturn

/-! ### The bounds of a journal -/

/-- A journal within its bounds, which accounts for the size of its events. -/
structure Bounded (inner : EventJournal) : Prop where
  events_le : inner.events.length ≤ inner.maxEvents
  serializedBytes_eq : inner.serializedBytes = (inner.events.map StoredEvent.serializedBytes).sum
  serializedBytes_le : inner.serializedBytes ≤ inner.maxBytes
  activities_le : inner.activitySequences.len ≤ Dashboard.maxEvents

/-- What dropping the oldest events leaves: the newest of them, with the loop's condition false. In
particular an event is left to drop whenever the loop asks for one. -/
structure Evicted (size : ℕ) (inner : EventJournal) (events : List StoredEvent)
    (evicted : EventJournal) : Prop where
  suffix : evicted.events <:+ events
  serializedBytes_eq :
    evicted.serializedBytes = (evicted.events.map StoredEvent.serializedBytes).sum
  fits : evicted.events.length < inner.maxEvents ∧
    evicted.serializedBytes ≤ inner.maxBytes - size
  maxEvents_eq : evicted.maxEvents = inner.maxEvents
  maxBytes_eq : evicted.maxBytes = inner.maxBytes
  activitySequences_eq : evicted.activitySequences = inner.activitySequences

theorem evicted_evict {size : ℕ} {events : List StoredEvent} (hmax : inner.maxEvents ≠ 0)
    (hbytes : inner.serializedBytes = (events.map StoredEvent.serializedBytes).sum) :
    Evicted size inner events (evict size inner events) := by
  -- The events that are left account for the size, so that the last one dropped leaves nothing.
  induction events generalizing inner with
  | nil =>
    have hzero : inner.serializedBytes = 0 := hbytes
    exact
      { suffix := List.suffix_refl _
        serializedBytes_eq := hbytes
        fits := ⟨Nat.pos_of_ne_zero hmax, by
          change inner.serializedBytes ≤ _
          omega⟩
        maxEvents_eq := rfl
        maxBytes_eq := rfl
        activitySequences_eq := rfl }
  | cons removed events ih =>
    rw [List.map_cons, List.sum_cons] at hbytes
    rw [evict]
    by_cases hfull : events.length + 1 ≥ inner.maxEvents ∨
        inner.serializedBytes > inner.maxBytes - size
    · rw [if_pos hfull]
      obtain ⟨hsuffix, heq, hfits, hevents, hlimit, hsequences⟩ :=
        @ih
          { inner with
            serializedBytes := inner.serializedBytes - removed.serializedBytes
            idempotency := inner.idempotency.erase removed.idempotencyKey } hmax (by
          change inner.serializedBytes - removed.serializedBytes = _
          omega)
      exact ⟨hsuffix.trans (List.suffix_cons _ _), heq, hfits, hevents, hlimit, hsequences⟩
    · rw [if_neg hfull]
      refine ⟨List.suffix_refl _, ?_, ?_, rfl, rfl, rfl⟩
      · rw [List.map_cons, List.sum_cons]
        exact hbytes
      · rw [List.length_cons]
        change events.length + 1 < inner.maxEvents ∧ inner.serializedBytes ≤ _
        omega

theorem bounded_withBounds (epoch snapshotRevision maxEvents maxBytes : ℕ) :
    (withBounds epoch snapshotRevision maxEvents maxBytes).Bounded :=
  ⟨Nat.zero_le _, rfl, Nat.zero_le _, Nat.zero_le _⟩

theorem bounded_rotateLocked (inner : EventJournal) (epoch snapshotRevision : ℕ) :
    (inner.rotateLocked epoch snapshotRevision).Bounded :=
  ⟨Nat.zero_le _, rfl, Nat.zero_le _, Nat.zero_le _⟩

theorem Bounded.opened (h : inner.Bounded) (event : ActivityEvent) : (inner.opened event).Bounded := by
  rw [EventJournal.opened]
  by_cases hfull : inner.needsRotation event
  · rw [if_pos hfull]
    exact bounded_rotateLocked inner _ _
  · rw [if_neg hfull]
    exact h

@[simp] theorem maxEvents_opened (inner : EventJournal) (event : ActivityEvent) :
    (inner.opened event).maxEvents = inner.maxEvents := by
  rw [EventJournal.opened]
  split <;> rfl

@[simp] theorem maxBytes_opened (inner : EventJournal) (event : ActivityEvent) :
    (inner.opened event).maxBytes = inner.maxBytes := by
  rw [EventJournal.opened]
  split <;> rfl

/-- The table of activities has room for the event's activity once a new epoch has begun. -/
theorem Bounded.len_insert_opened (h : inner.Bounded) (event : ActivityEvent) :
    ((inner.opened event).activitySequences.insert event.activityId event.sequence).len
      ≤ Dashboard.maxEvents := by
  rw [EventJournal.opened]
  by_cases hfull : inner.needsRotation event
  · rw [if_pos hfull]
    refine Nat.le_trans (Map.len_insert_le _ _ _) ?_
    change 0 + 1 ≤ Dashboard.maxEvents
    decide
  · rw [if_neg hfull]
    cases hlookup : inner.activitySequences.lookup event.activityId with
    | none =>
      have hlt : ¬inner.activitySequences.len ≥ Dashboard.maxEvents := fun hge =>
        hfull ⟨hlookup, hge⟩
      rw [Map.len_insert_of_none hlookup]
      omega
    | some =>
      rw [Map.len_insert_of_some hlookup]
      exact h.activities_le

theorem Bounded.publish [Sha256] {inner : EventJournal} (h : inner.Bounded) {key : String}
    {event : ActivityEvent} {eventJson : List UInt8} {cursor : ℕ} (hmax : inner.maxEvents ≠ 0)
    (hfits : eventJson.length ≤ inner.maxBytes)
    (hroom : (inner.activitySequences.insert event.activityId event.sequence).len
      ≤ Dashboard.maxEvents) : (inner.publish key event eventJson cursor).Bounded := by
  have hevicted : Evicted eventJson.length inner inner.events
      (evict eventJson.length inner inner.events) :=
    evicted_evict hmax h.serializedBytes_eq
  have hmaxEvents := hevicted.maxEvents_eq
  have hmaxBytes := hevicted.maxBytes_eq
  have hroomLeft := hevicted.fits
  rw [EventJournal.publish]
  refine ⟨?_, ?_, ?_, ?_⟩
  · change (_ ++ [_]).length ≤ (evict eventJson.length inner inner.events).maxEvents
    rw [List.length_append, List.length_singleton]
    omega
  · change _ = ((_ ++ [_]).map StoredEvent.serializedBytes).sum
    rw [List.map_append, List.sum_append, ← hevicted.serializedBytes_eq]
    rfl
  · change _ + eventJson.length ≤ (evict eventJson.length inner inner.events).maxBytes
    omega
  · change (Map.insert _ _ _).len ≤ _
    rw [hevicted.activitySequences_eq]
    exact hroom

/-! ### Reachable journals -/

/-- The journals that arise from new ones by any calls. -/
inductive Reachable [Sha256] : EventJournal → Prop
  | withBounds (epoch snapshotRevision maxEvents maxBytes : ℕ) :
      Reachable (withBounds epoch snapshotRevision maxEvents maxBytes)
  | appendWithPrecommit {inner : EventJournal} {σ ε : Type} (idempotencyKey : String)
      (event : ActivityEvent) (precommit : Eff σ ε Unit) (s : σ) (h : Reachable inner) :
      Reachable ((appendWithPrecommit idempotencyKey event precommit).exec (inner, s)).2.1
  | subscribe {inner : EventJournal} (id : SubscriberId) (nowMs : ℕ) (h : Reachable inner) :
      Reachable ((subscribe id nowMs).exec inner).2
  | restoreActivitySequence {inner : EventJournal} (activityId : ActivityId) (sequence : ℕ)
      (h : Reachable inner) :
      Reachable ((restoreActivitySequence activityId sequence).exec inner).2
  | acknowledge {inner : EventJournal} (id : SubscriberId) (cursor : EventCursor) (nowMs : ℕ)
      (h : Reachable inner) : Reachable ((acknowledge id cursor nowMs).exec inner).2
  | expireIdle {inner : EventJournal} (nowMs : ℕ) (h : Reachable inner) :
      Reachable (inner.expireIdle nowMs).2
  | rotateEpoch {inner : EventJournal} (epoch snapshotRevision : ℕ) (h : Reachable inner) :
      Reachable ((rotateEpoch epoch snapshotRevision).exec inner).2

theorem exec_restoreActivitySequence (inner : EventJournal) (activityId : ActivityId)
    (sequence : ℕ) : (restoreActivitySequence activityId sequence).exec inner =
      if sequence = 0 ∨ sequence = u64Max then
        (.error .sequenceOverflow, inner)
      else if inner.activitySequences.len ≥ Dashboard.maxEvents ∧
          inner.activitySequences.lookup activityId = none then
        (.error (.limitExceeded 0 Dashboard.maxEvents), inner)
      else if ∃ existing ∈ inner.activitySequences.lookup activityId, existing ≠ sequence then
        (.error .idempotencyConflict, inner)
      else
        (.ok (), { inner with
          activitySequences := inner.activitySequences.insert activityId sequence }) := by
  rw [restoreActivitySequence, exec_throwIf_bind, exec_bind_ok (exec_get _), exec_throwIf_bind,
    exec_throwIf_bind, exec_set]

theorem Bounded.len_insert_restored (h : inner.Bounded) {activityId : ActivityId}
    (hroom : ¬(inner.activitySequences.len ≥ Dashboard.maxEvents ∧
      inner.activitySequences.lookup activityId = none)) (sequence : ℕ) :
    (inner.activitySequences.insert activityId sequence).len ≤ Dashboard.maxEvents := by
  cases hlookup : inner.activitySequences.lookup activityId with
  | none =>
    have hlt : ¬inner.activitySequences.len ≥ Dashboard.maxEvents := fun hge =>
      hroom ⟨hge, hlookup⟩
    rw [Map.len_insert_of_none hlookup]
    omega
  | some =>
    rw [Map.len_insert_of_some hlookup]
    exact h.activities_le

theorem exec_subscribe (inner : EventJournal) (id : SubscriberId) (nowMs : ℕ) :
    (subscribe id nowMs).exec inner =
      if (inner.subscribers.lookup id).isSome then
        (.error .alreadyExists, inner)
      else if inner.subscribers.len ≥ maxSubscribers then
        (.error .limitExceeded, inner)
      else
        (.ok (), { inner with
          subscribers := inner.subscribers.insert id ⟨⟨inner.epoch, 0⟩, nowMs⟩ }) := by
  rw [subscribe, exec_bind_ok (exec_get _), exec_throwIf_bind, exec_throwIf_bind, exec_set]

theorem exec_rotateEpoch (inner : EventJournal) (epoch snapshotRevision : ℕ) :
    (rotateEpoch epoch snapshotRevision).exec inner =
      if epoch ≤ inner.epoch then (.error .epochNotIncreasing, inner)
      else (.ok (), inner.rotateLocked epoch snapshotRevision) := by
  rw [rotateEpoch, exec_bind_ok (exec_get _), exec_throwIf_bind, exec_set]

/-- What acknowledging a cursor does: it is refused and nothing has changed, or the cursor is one of
the epoch's and the subscriber is brought up to it. -/
theorem exec_acknowledge (inner : EventJournal) (id : SubscriberId) (cursor : EventCursor)
    (nowMs : ℕ) :
    (∃ error, (acknowledge id cursor nowMs).exec inner = (.error error, inner)) ∨
      ∃ subscriber, inner.subscribers.lookup id = some subscriber ∧ cursor.epoch = inner.epoch ∧
        cursor.sequence < inner.nextCursorSequence ∧
        (acknowledge id cursor nowMs).exec inner =
          (.ok (), { inner with
            subscribers := inner.subscribers.insert id
              ⟨if cursor.sequence ≥ subscriber.acknowledged.sequence then cursor
                else subscriber.acknowledged, nowMs⟩ }) := by
  rw [acknowledge, exec_bind_ok (exec_get _), exec_throwIf_bind, exec_throwIf_bind]
  by_cases hepoch : cursor.epoch ≠ inner.epoch
  · rw [if_pos hepoch]
    exact Or.inl ⟨_, rfl⟩
  by_cases hahead : cursor.sequence ≥ inner.nextCursorSequence
  · rw [if_neg hepoch, if_pos hahead]
    exact Or.inl ⟨_, rfl⟩
  rw [if_neg hepoch, if_neg hahead]
  have hcursor : cursor.epoch = inner.epoch ∧ cursor.sequence < inner.nextCursorSequence :=
    ⟨not_not.1 hepoch, Nat.lt_of_not_le hahead⟩
  cases hhead : inner.events.head? with
  | none =>
    cases hfound : inner.subscribers.lookup id with
    | none => exact Or.inl ⟨_, rfl⟩
    | some subscriber => exact Or.inr ⟨subscriber, rfl, hcursor.1, hcursor.2, rfl⟩
  | some oldest =>
    dsimp only
    rw [exec_throwIf_bind]
    by_cases hold : cursor.sequence < oldest.cursorSequence - 1
    · rw [if_pos hold]
      exact Or.inl ⟨_, rfl⟩
    rw [if_neg hold]
    cases hfound : inner.subscribers.lookup id with
    | none => exact Or.inl ⟨_, rfl⟩
    | some subscriber => exact Or.inr ⟨subscriber, rfl, hcursor.1, hcursor.2, rfl⟩

/-! ### Failing appends -/

/-- The appends that begin a new epoch: those that publish their event once the table of activities
has been emptied for it. -/
structure StartsEpoch (inner : EventJournal) (idempotencyKey : String) (event : ActivityEvent) :
    Prop where
  accepts : ∃ eventJson, inner.Accepts idempotencyKey event eventJson
  full : inner.needsRotation event

theorem opened_ne (h : inner.needsRotation event) : inner.opened event ≠ inner := by
  intro heq
  have hepoch := congrArg EventJournal.epoch heq
  rw [opened, if_pos h] at hepoch
  exact absurd hepoch (Nat.succ_ne_self _)

theorem not_unchanged_of_startsEpoch [Sha256] {precommit : Eff σ ε Unit} {s : σ} {error : ε}
    (hstarts : inner.StartsEpoch idempotencyKey event) (hrun : (precommit.exec s).1 = .error error) :
    ¬∀ error,
      ((appendWithPrecommit idempotencyKey event precommit).exec (inner, s)).1 = .error error →
      ((appendWithPrecommit idempotencyKey event precommit).exec (inner, s)).2.1 = inner := by
  obtain ⟨⟨_, haccepts⟩, hfull⟩ := hstarts
  rw [exec_appendWithPrecommit, plan_eq_some_iff.2 haccepts, hrun]
  intro hunchanged
  exact opened_ne hfull (hunchanged _ rfl)

/-- A failing append leaves the journal as it was exactly if it did not begin a new epoch. -/
theorem append_unchanged_iff [Sha256] (inner : EventJournal) (idempotencyKey : String)
    (event : ActivityEvent) (precommit : Eff σ ε Unit) (s : σ) :
    (∀ error,
        ((appendWithPrecommit idempotencyKey event precommit).exec (inner, s)).1 = .error error →
        ((appendWithPrecommit idempotencyKey event precommit).exec (inner, s)).2.1 = inner) ↔
      ¬(inner.StartsEpoch idempotencyKey event ∧ ∃ error, (precommit.exec s).1 = .error error) := by
  constructor
  · rintro hunchanged ⟨hstarts, error, hrun⟩
    exact not_unchanged_of_startsEpoch hstarts hrun hunchanged
  · intro hstarts
    rw [exec_appendWithPrecommit]
    cases hplan : inner.plan idempotencyKey event with
    | error error => exact fun _ _ => rfl
    | ok planned =>
      cases planned with
      | none => exact fun _ _ => rfl
      | some eventJson =>
        cases hrun : (precommit.exec s).1 with
        | ok u => exact fun _ h => nomatch h
        | error error =>
          intro _ _
          have hroom : ¬inner.needsRotation event := fun hfull =>
            hstarts ⟨⟨⟨eventJson, plan_eq_some_iff.1 hplan⟩, hfull⟩, error, hrun⟩
          change inner.opened event = inner
          rw [opened, if_neg hroom]

/-- Failing appends leave every reachable journal as it was. -/
def AppendAtomic [Sha256] : Prop :=
  ∀ inner, Reachable inner → ∀ (σ ε : Type) (idempotencyKey : String) (event : ActivityEvent)
    (precommit : Eff σ ε Unit) (s : σ) (error : AppendTransactionError ε),
    ((appendWithPrecommit idempotencyKey event precommit).exec (inner, s)).1 = .error error →
    ((appendWithPrecommit idempotencyKey event precommit).exec (inner, s)).2.1 = inner

/-! ### A full journal -/

theorem checkEvent_of_valid (h : event.validate = .ok ()) : checkEvent idempotencyKey event =
      if trim idempotencyKey = "" then .error .emptyIdempotencyKey
      else if idempotencyKey.utf8ByteSize > 256 then .error .idempotencyKeyTooLong
      else event.toVec.mapError fun error => .invalidEvent error.display := by
  rw [checkEvent, h, Except.mapError, ok_bind, failIf_bind, failIf_bind]

theorem toVec_eq_ok :
    event.toVec = .ok eventJson ↔ event.validate = .ok () ∧
      (∀ m ∈ event.message, m.validate = .ok ()) ∧ eventJson = event.toJson.toVec := by
  rw [ActivityEvent.toVec]
  cases hvalid : event.validate with
  | error => simp [error_bind]
  | ok u =>
    rw [ok_bind]
    cases hmessage : event.message with
    | none =>
      constructor
      · intro h
        cases h
        exact ⟨rfl, fun _ hm => absurd hm (Option.not_mem_none _), rfl⟩
      · rintro ⟨-, -, rfl⟩
        rfl
    | some message =>
      dsimp only
      cases hm : message.validate with
      | error =>
        constructor
        · intro h
          cases h
        · rintro ⟨-, hall, -⟩
          rw [hall message rfl] at hm
          cases hm
      | ok =>
        constructor
        · intro h
          cases h
          refine ⟨rfl, fun other hother => ?_, rfl⟩
          cases hother
          exact hm
        · rintro ⟨-, -, rfl⟩
          rfl

theorem checkEvent_eq_ok {idempotencyKey : String} {event : ActivityEvent}
    (hvalid : event.validate = .ok ()) (hmessage : ∀ m ∈ event.message, m.validate = .ok ())
    (hblank : trim idempotencyKey ≠ "") (hsize : idempotencyKey.utf8ByteSize ≤ 256) :
    checkEvent idempotencyKey event = .ok event.toJson.toVec := by
  rw [checkEvent_of_valid hvalid, if_neg hblank, if_neg (Nat.not_lt_of_le hsize),
    toVec_eq_ok.2 ⟨hvalid, hmessage, rfl⟩, Except.mapError]

theorem checkEvent_inv (h : checkEvent idempotencyKey event = .ok eventJson) :
    trim idempotencyKey ≠ "" ∧ idempotencyKey.utf8ByteSize ≤ 256 ∧ event.toVec = .ok eventJson := by
  cases hvalid : event.validate with
  | error =>
    rw [checkEvent, hvalid] at h
    cases h
  | ok =>
    rw [checkEvent_of_valid hvalid] at h
    split_ifs at h with hblank hsize
    refine ⟨hblank, Nat.le_of_not_lt hsize, ?_⟩
    cases hbytes : event.toVec with
    | error =>
      rw [hbytes] at h
      cases h
    | ok =>
      rw [hbytes] at h
      cases h
      rfl

def numbered (n : ℕ) : ActivityId :=
  ⟨String.ofList [Nat.digitChar (n / 100 % 10), Nat.digitChar (n / 10 % 10), Nat.digitChar (n % 10)], by
    have hdigit : ∀ k : Fin 10, isWhiteSpace (Nat.digitChar k) = false := by decide
    refine idText_ofList (by simp) (by simp) ?_
    simp only [List.forall_mem_cons, List.not_mem_nil, false_imp_iff, implies_true, and_true]
    exact ⟨hdigit ⟨_, Nat.mod_lt _ (by omega)⟩, hdigit ⟨_, Nat.mod_lt _ (by omega)⟩,
      hdigit ⟨_, Nat.mod_lt _ (by omega)⟩⟩⟩

theorem numbered_injective {m n : ℕ} (hm : m < 1000) (hn : n < 1000)
    (h : numbered m = numbered n) : m = n := by
  have hdigit : ∀ a b : ℕ, Nat.digitChar (a % 10) = Nat.digitChar (b % 10) → a % 10 = b % 10 :=
    fun a b hab => digitChar_injective_of_lt (by omega) (by omega) hab
  have htext := String.ofList_injective (congrArg ValidatedId.text h)
  simp only [List.cons.injEq, and_true] at htext
  have hhundreds := hdigit _ _ htext.1
  have htens := hdigit _ _ htext.2.1
  have hones := hdigit _ _ htext.2.2
  omega

def filled : ℕ → EventJournal
  | 0 => new 1 0
  | n + 1 => ((restoreActivitySequence (numbered n) 1).exec (filled n)).2

theorem reachable_filled [Sha256] (n : ℕ) : Reachable (filled n) := by
  induction n with
  | zero => exact Reachable.withBounds _ _ _ _
  | succ n ih => exact ih.restoreActivitySequence _ _

theorem filled_eq {n : ℕ} (hn : n ≤ 1000) :
    ∃ activitySequences : Map ActivityId ℕ,
      filled n = { new 1 0 with activitySequences } ∧ activitySequences.len = n ∧
        ∀ id, (∀ m < n, id ≠ numbered m) → activitySequences.lookup id = none := by
  induction n with
  | zero => exact ⟨∅, rfl, rfl, fun _ _ => rfl⟩
  | succ n ih =>
    obtain ⟨activitySequences, heq, hlen, hlookup⟩ := ih (by omega)
    have hnew : activitySequences.lookup (numbered n) = none := by
      apply hlookup
      intro m hm hsame
      have := numbered_injective (by omega) (by omega) hsame
      omega
    refine ⟨activitySequences.insert (numbered n) 1, ?_, ?_, ?_⟩
    · have hroom : ¬(activitySequences.len ≥ Dashboard.maxEvents ∧
          activitySequences.lookup (numbered n) = none) := by
        rintro ⟨_, -⟩
        have : Dashboard.maxEvents = 1000 := rfl
        omega
      have hconflict : ¬∃ existing ∈ activitySequences.lookup (numbered n), existing ≠ 1 := by
        rw [hnew]
        rintro ⟨existing, hmem, -⟩
        cases hmem
      rw [filled, heq, exec_restoreActivitySequence, if_neg (by decide), if_neg hroom,
        if_neg hconflict]
    · rw [Map.len_insert_of_none hnew, hlen]
    · intro id hid
      rw [Map.lookup_insert_ne (hid n (by omega))]
      exact hlookup id fun m hm => hid m (by omega)

def sampleEvent : ActivityEvent :=
  { activityId := ⟨"build", by decide⟩
    sequence := 1
    occurredAtMs := 0
    principalId := ⟨"user", by decide⟩
    sourceHostId := ⟨"host", by decide⟩
    targetHostId := ⟨"host", by decide⟩
    deviceId := none
    operation := ⟨"run", by decide⟩
    resources := []
    remoteOperationSha256 := none
    authorization := ⟨.allow, none, none⟩
    state := .queued
    message := none
    metrics := ⟨.available 0, .available 0, .available 0, .available 0⟩
    startedAtMs := none
    finishedAtMs := none }

theorem validate_sampleEvent : sampleEvent.validate = .ok () := by rfl

theorem inU64_sampleEvent : sampleEvent.InU64 :=
  { sequence_le := by decide
    occurredAtMs_le := by decide
    metrics := ⟨Nat.zero_le _, Nat.zero_le _, Nat.zero_le _, Nat.zero_le _⟩
    startedAtMs_le := nofun
    finishedAtMs_le := nofun
    digest_le := nofun }

theorem checkEvent_sampleEvent : checkEvent "key" sampleEvent = .ok sampleEvent.toJson.toVec :=
  checkEvent_eq_ok validate_sampleEvent nofun (by decide) (by decide)

theorem checkEvent_first : checkEvent "first" sampleEvent = .ok sampleEvent.toJson.toVec :=
  checkEvent_eq_ok validate_sampleEvent nofun (by decide) (by decide)

theorem length_sampleEvent : sampleEvent.toJson.toVec.length + 2 ≤ 2 ^ 18 :=
  ActivityEvent.length_toJson_le inU64_sampleEvent validate_sampleEvent nofun

theorem length_sampleEvent_le : sampleEvent.toJson.toVec.length ≤ (new 1 0).maxBytes := by
  have hlength := length_sampleEvent
  have hmax : (new 1 0).maxBytes = 8 * 1024 * 1024 := rfl
  omega

theorem startsEpoch_sampleEvent : (filled 1000).StartsEpoch "key" sampleEvent := by
  obtain ⟨activitySequences, heq, hlen, hlookup⟩ := filled_eq (Nat.le_refl 1000)
  have hnew : activitySequences.lookup sampleEvent.activityId = none := by
    apply hlookup
    intro _ _ hsame
    have hlength := congrArg (fun id : ActivityId => id.text.toList.length) hsame
    rw [numbered, String.toList_ofList] at hlength
    exact absurd hlength (by decide : ¬sampleEvent.activityId.text.toList.length = 3)
  have hfull : (filled 1000).needsRotation sampleEvent := by
    rw [heq]
    exact ⟨hnew, Nat.le_of_eq hlen.symm⟩
  refine ⟨⟨sampleEvent.toJson.toVec, ?_⟩, hfull⟩
  rw [heq] at hfull ⊢
  exact
    { checked := checkEvent_sampleEvent
      fresh := rfl
      sequence_ne := by decide
      capacity := (by decide : (new 1 0).maxEvents ≠ 0)
      fits := length_sampleEvent_le
      expected := by
        change expectedSequence (activitySequences.lookup sampleEvent.activityId) = _
        rw [hnew]
        rfl
      epoch_lt := fun _ => by
        change 1 + 1 ≤ u64Max
        decide
      cursor_lt := fun h => absurd hfull h }

/-- An append to a full journal whose precommit work fails empties the journal. -/
theorem not_appendAtomic : ¬∃ _ : Sha256, AppendAtomic := by
  rintro ⟨_, hatomic⟩
  have hunchanged := hatomic (filled 1000) (reachable_filled 1000) Unit Unit "key" sampleEvent
    (throw ()) ()
  exact not_unchanged_of_startsEpoch startsEpoch_sampleEvent rfl hunchanged

end EventJournal

end Dashboard
