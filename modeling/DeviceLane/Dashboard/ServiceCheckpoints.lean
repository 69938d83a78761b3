/-
**A service that writes checkpoints.**

A service that keeps nothing but activities writes a checkpoint with every event it records, as long
as the activities are small and at most a thousand.

Main definitions:

* `Dashboard.DashboardService.Plain` — such a service, on a file that can be written.

Main results:

* `Plain.recordActivity` — **a plain service records every event that its journal accepts**.
-/

import DeviceLane.Dashboard.ServiceProgress

namespace Dashboard

open Effect

structure ActivityEvent.Small (event : ActivityEvent) : Prop where
  serializes : event.toVec.isOk = true
  size_le : event.toJson.sizeBound ≤ 8000

namespace DashboardService

variable [Sha256]

variable {payload : ActivityCheckpointPayload} {s : DashboardService} {event : ActivityEvent}

/-! ### The size of a checkpoint -/

omit [Sha256] in
theorem perm_sortedActivities (activities : Map ActivityId ActivityEvent) :
    (sortedActivities activities).Perm activities.values := List.mergeSort_perm _ _

omit [Sha256] in
theorem length_sortedActivities (activities : Map ActivityId ActivityEvent) :
    (sortedActivities activities).length = activities.len := by
  rw [(perm_sortedActivities activities).length_eq, Map.values, List.length_map, Map.length_toList]

def digestOf (payload : ActivityCheckpointPayload) : String :=
  hex (Sha256.digest (Json.obj payload.fields).toVec).toList

structure OnlyActivities (payload : ActivityCheckpointPayload) : Prop where
  version : payload.version = 2
  auditSequence_le : payload.auditSequence ≤ u64Max
  activities_le : payload.activities.length ≤ 1000
  small : ∀ event ∈ payload.activities, event.Small
  pending : payload.pending = ∅
  adminGrants : payload.adminGrants = ∅
  policy : payload.policy = PolicyEngine.new

theorem OnlyActivities.serializes (h : OnlyActivities payload) :
    payload.Serializes where
  activities event hmem := (h.small event hmem).serializes
  pending pending hmem := by
    rw [h.pending] at hmem
    exact absurd hmem List.not_mem_nil
  adminGrants grant hmem := by
    rw [h.adminGrants] at hmem
    exact absurd hmem List.not_mem_nil
  rules rule hmem := by
    rw [h.policy] at hmem
    exact absurd hmem List.not_mem_nil

theorem OnlyActivities.digest_eq (h : OnlyActivities payload) :
    payload.digest = .ok (digestOf payload) := by
  rw [ActivityCheckpointPayload.digest, failIf_bind, if_neg (not_not_intro h.serializes)]
  rfl

omit [Sha256] in
/-- **A checkpoint of small activities fits its file.** -/
theorem length_checkpoint_le (h : OnlyActivities payload) {digest : String}
    (hdigest : digest.utf8ByteSize ≤ 64) :
    (ActivityCheckpoint.toVec ⟨payload, digest⟩).length ≤ maxActivityCheckpointBytes := by
  have hitems : Json.sizeBoundItems (payload.activities.map ActivityEvent.toJson)
      ≤ payload.activities.length * (8000 + 1) :=
    sizeBoundItems_map_le fun event hmem => (h.small event hmem).size_le
  have hsequence := sizeBound_num h.auditSequence_le
  have hcount := h.activities_le
  have hpaused : (JsonCodec.toJson payload.paused).sizeBound ≤ 5 := by
    cases payload.paused <;> decide
  have hactivities : (Json.arr (payload.activities.map ActivityEvent.toJson)).sizeBound
      = Json.sizeBoundItems (payload.activities.map ActivityEvent.toJson) + 2 := by
    rw [Json.sizeBound]
  have hengine : (PolicyEngine.toJson PolicyEngine.new).sizeBound ≤ 200 := by decide
  have htext : (Json.str digest).sizeBound = 6 * digest.utf8ByteSize + 2 := by
    rw [Json.sizeBound]
  have hfields : payload.fields ++ [("digest", .str digest)] =
      [("version", .num 2), ("audit_sequence", JsonCodec.toJson payload.auditSequence),
        ("activities", .arr (payload.activities.map ActivityEvent.toJson)), ("pending", .obj []),
        ("admin_grants", .obj []), ("policy", PolicyEngine.toJson PolicyEngine.new),
        ("paused", JsonCodec.toJson payload.paused), ("digest", .str digest)] := by
    rw [ActivityCheckpointPayload.fields, h.version, h.pending, h.adminGrants, h.policy,
      Map.inOrder_empty, Map.inOrder_empty]
    rfl
  -- Apart from the activities there are only a few short fields.
  have hrest : (Json.obj (payload.fields ++ [("digest", .str digest)])).sizeBound
      = Json.sizeBoundFields (payload.fields ++ [("digest", .str digest)]) + 2 := by
    rw [Json.sizeBound]
  have hbound := Json.length_toVec_le (Json.obj (payload.fields ++ [("digest", .str digest)]))
  have hlimit : maxActivityCheckpointBytes = 8388608 := rfl
  have hkeys : "version".utf8ByteSize = 7 ∧ "audit_sequence".utf8ByteSize = 14 ∧
      "activities".utf8ByteSize = 10 ∧ "pending".utf8ByteSize = 7 ∧
      "admin_grants".utf8ByteSize = 12 ∧ "policy".utf8ByteSize = 6 ∧ "paused".utf8ByteSize = 6 ∧
      "digest".utf8ByteSize = 6 := by decide
  have hnumber : (Json.num 2).sizeBound = 1 := by decide
  have hempty : (Json.obj []).sizeBound = 2 := by decide
  rw [hrest, hfields] at hbound
  simp only [Json.sizeBoundFields, hkeys, hnumber, hempty, hactivities, htext] at hbound
  rw [ActivityCheckpoint.toVec, hfields]
  omega

/-! ### Recording -/

structure Plain (s : DashboardService) : Prop where
  file : ∃ content, s.checkpoint = some ⟨content, []⟩
  next_le : s.nextAuditSequence - 1 ≤ u64Max
  small : ∀ event ∈ s.activities.values, event.Small
  pending : s.pending = ∅
  adminGrants : s.adminGrants = ∅
  policy : s.policy = PolicyEngine.new

omit [Sha256] in
theorem Plain.onlyActivities (h : s.Plain) {activities : Map ActivityId ActivityEvent}
    (hlen : activities.len ≤ 1000) (hsmall : ∀ event ∈ activities.values, event.Small) :
    OnlyActivities (s.payloadOf activities) where
  version := rfl
  auditSequence_le := h.next_le
  activities_le := by
    change (sortedActivities activities).length ≤ 1000
    rwa [length_sortedActivities]
  small event hmem := hsmall event ((perm_sortedActivities activities).mem_iff.1 hmem)
  pending := h.pending
  adminGrants := h.adminGrants
  policy := h.policy

def recorded (s : DashboardService) (event : ActivityEvent) (idempotencyKey : String) :
    DashboardService :=
  { s with
    events := (s.events.opened event).publish idempotencyKey event event.toJson.toVec
      ((s.events.opened event).nextCursorSequence + 1)
    activities := s.activities.insert event.activityId event
    checkpoint := some
      ⟨some ⟨s.payloadOf (s.activities.insert event.activityId event),
        digestOf (s.payloadOf (s.activities.insert event.activityId event))⟩, []⟩ }

/-- **A plain service records every event that its journal accepts.** -/
theorem Plain.recordActivity (h : s.Plain) {idempotencyKey : String}
    (hsmall : event.toJson.sizeBound ≤ 8000)
    (haccepts : s.events.Accepts idempotencyKey event event.toJson.toVec)
    (hlen : (s.activities.insert event.activityId event).len ≤ 1000) :
    (recordActivity event idempotencyKey).exec s = (.ok (), s.recorded event idempotencyKey) ∧
      (s.recorded event idempotencyKey).Plain := by
  obtain ⟨_, hfile⟩ := h.file
  have hserializes : event.toVec.isOk = true := by
    rw [(EventJournal.checkEvent_inv haccepts.checked).2.2]
    rfl
  have hall : ∀ other ∈ (s.activities.insert event.activityId event).values, other.Small := by
    intro other hmem
    obtain ⟨id, hlookup⟩ := Map.mem_values.1 hmem
    rw [Map.lookup_insert] at hlookup
    split at hlookup
    · cases hlookup
      exact ⟨hserializes, hsmall⟩
    · exact h.small other (Map.mem_values.2 ⟨id, hlookup⟩)
  have honly := h.onlyActivities hlen hall
  have hdigest : (digestOf (s.payloadOf (s.activities.insert event.activityId event))).utf8ByteSize
      = 64 := by
    rw [digestOf, Json.utf8ByteSize_hex, Endian.Block.toList_length]
  refine ⟨?_, ⟨⟨_, rfl⟩, h.next_le, hall, h.pending, h.adminGrants, h.policy⟩⟩
  rw [exec_recordActivity_accepted haccepts]
  · rfl
  · exact written_of_fits hfile hlen (by rw [h.pending]; exact Nat.zero_le _)
      (by rw [h.adminGrants]; exact Nat.zero_le _) honly.digest_eq
      (length_checkpoint_le honly (Nat.le_of_eq hdigest))

theorem events_recorded {count : ℕ} (h : s.events.Roomy count) (hcount : count < 31)
    (hsize : event.toJson.toVec.length ≤ 2 ^ 18) (idempotencyKey : String) :
    (s.recorded event idempotencyKey).events = s.events.pushed idempotencyKey event := by
  have hopened : s.events.opened event = s.events := if_neg (h.not_needsRotation hcount event)
  rw [recorded]
  dsimp only
  rw [hopened, h.publish_eq_pushed hcount hsize]

theorem roomy_recorded {count : ℕ} (h : s.events.Roomy count) (hcount : count < 31)
    (hsize : event.toJson.toVec.length ≤ 2 ^ 18) (idempotencyKey : String) :
    (s.recorded event idempotencyKey).events.Roomy (count + 1) := by
  rw [events_recorded h hcount hsize]
  exact h.pushed hsize

omit [Sha256] in
def persistentService : DashboardService := { sampleService with checkpoint := some ⟨none, []⟩ }

omit [Sha256] in
theorem plain_persistentService : persistentService.Plain where
  file := ⟨none, rfl⟩
  next_le := Nat.zero_le _
  small _ hmem := absurd hmem List.not_mem_nil
  pending := rfl
  adminGrants := rfl
  policy := rfl

/-! ### Many activities -/

omit [Sha256] in
def numberedEvent (n : ℕ) : ActivityEvent :=
  { EventJournal.sampleEvent with
    activityId := EventJournal.numbered n
    state := .succeeded
    startedAtMs := some 0
    finishedAtMs := some 0 }

omit [Sha256] in
theorem sizeBound_numberedEvent (n : ℕ) : (numberedEvent n).toJson.sizeBound ≤ 8000 := by
  have hid := sizeBound_id (EventJournal.numbered n)
  have hkey : "activity_id".utf8ByteSize = 11 := by decide
  -- The fields after the identifier are the same for all of them.
  have hrest : Json.sizeBoundFields (numberedEvent 0).fields.tail ≤ 6000 := by decide
  have hfields : (numberedEvent n).fields
      = ("activity_id", JsonCodec.toJson (EventJournal.numbered n)) :: (numberedEvent 0).fields.tail :=
    rfl
  rw [ActivityEvent.toJson, hfields, Json.sizeBound, Json.sizeBoundFields, hkey]
  omega

omit [Sha256] in
theorem checkEvent_numberedEvent (n : ℕ) :
    EventJournal.checkEvent (EventJournal.numbered n).text (numberedEvent n)
      = .ok (numberedEvent n).toJson.toVec := by
  have hid := (EventJournal.numbered n).valid
  refine EventJournal.checkEvent_eq_ok rfl (fun _ hm => absurd hm (Option.not_mem_none _)) ?_
    hid.size_le
  rw [hid.trimmed]
  exact hid.ne_empty

def manyRecorded : ℕ → DashboardService
  | 0 => persistentService
  | n + 1 => (manyRecorded n).recorded (numberedEvent n) (EventJournal.numbered n).text

/-- What there is then: the activities, and nothing else. -/
structure Numbered (s : DashboardService) (n : ℕ) : Prop where
  plain : s.Plain
  len : s.activities.len = n
  free : ∀ id, (∀ m < n, id ≠ EventJournal.numbered m) → s.activities.lookup id = none
  sequences_len : s.events.activitySequences.len = n
  sequences_free : ∀ id, (∀ m < n, id ≠ EventJournal.numbered m) →
    s.events.activitySequences.lookup id = none
  keys_free : ∀ key, (∀ m < n, key ≠ (EventJournal.numbered m).text) →
    s.events.idempotency.lookup key = none
  cursor : s.events.nextCursorSequence = n + 1
  maxEvents : s.events.maxEvents = 1000
  maxBytes : s.events.maxBytes = 8388608

omit [Sha256] in
theorem lookup_eraseAll_of_none {removed : List StoredEvent} {keys : Map String IdempotencyRecord}
    {key : String} (h : keys.lookup key = none) :
    (removed.foldl (fun keys removed => keys.erase removed.idempotencyKey) keys).lookup key = none := by
  induction removed generalizing keys with
  | nil => exact h
  | cons stored removed ih =>
    refine ih ?_
    rw [Map.lookup_erase]
    split
    · rfl
    · exact h

namespace Numbered

variable {s : DashboardService} {n : ℕ}

section

omit [Sha256]

theorem persistentService : persistentService.Numbered 0 where
  plain := plain_persistentService
  len := rfl
  free _ _ := rfl
  sequences_len := rfl
  sequences_free _ _ := rfl
  keys_free _ _ := rfl
  cursor := rfl
  maxEvents := rfl
  maxBytes := rfl

theorem numbered_ne (hn : n < 1000) : ∀ m < n, EventJournal.numbered n ≠ EventJournal.numbered m := by
  intro m _ hsame
  have := EventJournal.numbered_injective hn (by omega) hsame
  omega

theorem not_needsRotation (h : s.Numbered n) (hn : n < 1000) (event : ActivityEvent) :
    ¬s.events.needsRotation event := by
  rintro ⟨-, _⟩
  have hlen := h.sequences_len
  have hmax : Dashboard.maxEvents = 1000 := rfl
  omega

end

theorem exec_next (h : s.Numbered n) (hn : n < 1000) :
    (DashboardService.recordActivity (numberedEvent n) (EventJournal.numbered n).text).exec s =
      (.ok (), s.recorded (numberedEvent n) (EventJournal.numbered n).text) ∧
      (s.recorded (numberedEvent n) (EventJournal.numbered n).text).Plain := by
  have hfresh := numbered_ne hn
  have hsize := sizeBound_numberedEvent n
  have hlength := Json.length_toVec_le (numberedEvent n).toJson
  have hcursor := h.cursor
  have hmaxBytes := h.maxBytes
  have hlen := h.len
  refine h.plain.recordActivity hsize ?_ ?_
  · refine
      { checked := checkEvent_numberedEvent n
        fresh := h.keys_free _ fun m hm hsame => hfresh m hm (ValidatedId.ext hsame)
        sequence_ne := (by decide : (1 : ℕ) ≠ u64Max)
        capacity := by rw [h.maxEvents]; decide
        fits := by omega
        expected := ?_
        epoch_lt := fun hfull => absurd hfull (h.not_needsRotation hn _)
        cursor_lt := fun _ => ?_ }
    · rw [show s.events.activitySequences.lookup (numberedEvent n).activityId = none from
        h.sequences_free _ hfresh]
      rfl
    · have hmax : u64Max = 18446744073709551615 := rfl
      omega
  · have hnone : s.activities.lookup (numberedEvent n).activityId = none := h.free _ hfresh
    rw [Map.len_insert_of_none hnone]
    omega

theorem next (h : s.Numbered n) (hn : n < 1000) :
    (s.recorded (numberedEvent n) (EventJournal.numbered n).text).Numbered (n + 1) := by
  have hfresh := numbered_ne hn
  have hopened : s.events.opened (numberedEvent n) = s.events :=
    if_neg (h.not_needsRotation hn _)
  obtain ⟨_, _, _, -, hpublish⟩ := EventJournal.publish_eq s.events
    (EventJournal.numbered n).text (numberedEvent n) (numberedEvent n).toJson.toVec
    (s.events.nextCursorSequence + 1)
  have hevents : (s.recorded (numberedEvent n) (EventJournal.numbered n).text).events
      = s.events.publish (EventJournal.numbered n).text (numberedEvent n)
        (numberedEvent n).toJson.toVec (s.events.nextCursorSequence + 1) := by
    rw [recorded]
    dsimp only
    rw [hopened]
  rw [hpublish] at hevents
  refine ⟨(h.exec_next hn).2, ?_, ?_, ?_, ?_, ?_, ?_, ?_, ?_⟩
  · exact (Map.len_insert_of_none (h.free _ hfresh) _).trans (by rw [h.len])
  · intro id hid
    refine (Map.lookup_insert_ne (hid n (by omega)) _).trans (h.free id fun m hm => hid m (by omega))
  · rw [hevents]
    exact (Map.len_insert_of_none (h.sequences_free _ hfresh) _).trans (by rw [h.sequences_len])
  · intro id hid
    rw [hevents]
    exact (Map.lookup_insert_ne (hid n (by omega)) _).trans
      (h.sequences_free id fun m hm => hid m (by omega))
  · intro key hkey
    rw [hevents]
    refine (Map.lookup_insert_ne (hkey n (by omega)) _).trans ?_
    exact lookup_eraseAll_of_none (h.keys_free key fun m hm => hkey m (by omega))
  · rw [hevents]
    exact congrArg (· + 1) h.cursor
  · rw [hevents]
    exact h.maxEvents
  · rw [hevents]
    exact h.maxBytes

end Numbered

theorem numbered_manyRecorded {n : ℕ} (hn : n ≤ 1000) : (manyRecorded n).Numbered n := by
  induction n with
  | zero => exact .persistentService
  | succ n ih => exact (ih (by omega)).next (by omega)

def recordMany : ℕ → List ServiceCall
  | 0 => []
  | n + 1 => recordMany n ++ [.recordActivity (numberedEvent n) (EventJournal.numbered n).text]

theorem runCalls_recordMany {n : ℕ} (hn : n ≤ 1000) :
    runCalls (recordMany n) persistentService = manyRecorded n := by
  induction n with
  | zero => rfl
  | succ n ih =>
    rw [recordMany, runCalls_append, ih (by omega), runCalls_cons, runCalls_nil]
    have hexec := ((numbered_manyRecorded (by omega : n ≤ 1000)).exec_next (by omega)).1
    rw [← program_recordActivity] at hexec
    exact next_of_exec hexec

end DashboardService

end Dashboard
