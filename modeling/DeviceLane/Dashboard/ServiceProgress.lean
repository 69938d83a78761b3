/-
**When the writes of the service succeed.**

A journal and an audit store that are far from their bounds take whatever passes the checks. A
service on top of them that has no checkpoint succeeds in every write, and stays far from the bounds
for a while.

Main definitions:

* `Dashboard.DashboardService.Calm` — a service on top of such a journal and such a store.

Main results:

* `Calm.recordActivity`, `Calm.appendAudit` — **the writes of a calm service succeed**.
-/

import DeviceLane.Dashboard.AuditRuns
import DeviceLane.Dashboard.ServiceFrames

namespace Dashboard

open Effect

/-! ### The journal -/

namespace EventJournal

structure Roomy (inner : EventJournal) (count : ℕ) : Prop where
  maxEvents : inner.maxEvents = 1000
  maxBytes : inner.maxBytes = 8388608
  events_le : inner.events.length ≤ count
  bytes_le : inner.serializedBytes ≤ count * 2 ^ 18
  activities_le : inner.activitySequences.len ≤ count
  cursor_le : inner.nextCursorSequence ≤ count + 1

theorem roomy_new (epoch snapshotRevision : ℕ) : (new epoch snapshotRevision).Roomy 0 :=
  ⟨rfl, rfl, Nat.le_refl _, Nat.le_refl _, Nat.le_refl _, Nat.le_refl _⟩

def pushed [Sha256] (inner : EventJournal) (idempotencyKey : String) (event : ActivityEvent) :
    EventJournal :=
  { inner with
    nextCursorSequence := inner.nextCursorSequence + 1
    serializedBytes := inner.serializedBytes + event.toJson.toVec.length
    activitySequences := inner.activitySequences.insert event.activityId event.sequence
    idempotency := inner.idempotency.insert idempotencyKey ⟨Sha256.digest event.toJson.toVec⟩
    events := inner.events ++
      [⟨inner.nextCursorSequence, event, event.toJson.toVec.length, idempotencyKey⟩] }

namespace Roomy

variable {inner : EventJournal} {count : ℕ} {idempotencyKey : String} {event : ActivityEvent}

theorem mono (h : inner.Roomy count) {count' : ℕ} (hle : count ≤ count') : inner.Roomy count' where
  maxEvents := h.maxEvents
  maxBytes := h.maxBytes
  events_le := Nat.le_trans h.events_le hle
  bytes_le := Nat.le_trans h.bytes_le (Nat.mul_le_mul_right _ hle)
  activities_le := Nat.le_trans h.activities_le hle
  cursor_le := Nat.le_trans h.cursor_le (Nat.succ_le_succ hle)

theorem not_needsRotation (h : inner.Roomy count) (hcount : count < 31) (event : ActivityEvent) :
    ¬inner.needsRotation event := by
  rintro ⟨-, _⟩
  have hle := h.activities_le
  have hmax : Dashboard.maxEvents = 1000 := rfl
  omega

theorem accepts (h : inner.Roomy count) (hcount : count < 31)
    (hchecked : checkEvent idempotencyKey event = .ok event.toJson.toVec)
    (hsize : event.toJson.toVec.length ≤ 2 ^ 18)
    (hfresh : inner.idempotency.lookup idempotencyKey = none)
    (hsequence : event.sequence ≠ u64Max)
    (hexpected : expectedSequence (inner.activitySequences.lookup event.activityId)
      = some event.sequence) :
    inner.Accepts idempotencyKey event event.toJson.toVec where
  checked := hchecked
  fresh := hfresh
  sequence_ne := hsequence
  capacity := by
    rw [h.maxEvents]
    omega
  fits := by
    rw [h.maxBytes]
    omega
  expected := hexpected
  epoch_lt hrotation := absurd hrotation (h.not_needsRotation hcount event)
  cursor_lt _ := by
    have hle := h.cursor_le
    have hmax : u64Max = 18446744073709551615 := rfl
    omega

theorem publish_eq_pushed [Sha256] (h : inner.Roomy count) (hcount : count < 31)
    (hsize : event.toJson.toVec.length ≤ 2 ^ 18) :
    inner.publish idempotencyKey event event.toJson.toVec (inner.nextCursorSequence + 1)
      = inner.pushed idempotencyKey event := by
  have hkeeps : evict event.toJson.toVec.length inner inner.events = inner := by
    have hevents := h.events_le
    have hbytes := h.bytes_le
    cases hstored : inner.events with
    | nil =>
      rw [evict, ← hstored]
    | cons =>
      rw [hstored, List.length_cons] at hevents
      rw [evict, if_neg, ← hstored]
      rw [h.maxEvents, h.maxBytes]
      omega
  rw [publish, hkeeps, pushed]

theorem pushed [Sha256] (h : inner.Roomy count) (hsize : event.toJson.toVec.length ≤ 2 ^ 18) :
    (inner.pushed idempotencyKey event).Roomy (count + 1) where
  maxEvents := h.maxEvents
  maxBytes := h.maxBytes
  events_le := by
    rw [EventJournal.pushed, List.length_append, List.length_singleton]
    exact Nat.succ_le_succ h.events_le
  bytes_le := by
    have hle := h.bytes_le
    change inner.serializedBytes + event.toJson.toVec.length ≤ _
    omega
  activities_le :=
    Nat.le_trans (Map.len_insert_le _ _ _) (Nat.succ_le_succ h.activities_le)
  cursor_le := Nat.succ_le_succ h.cursor_le

end Roomy

theorem trim_ne_empty {text : String} {c : Char} (hhead : text.toList.head? = some c)
    (hc : isWhiteSpace c = false) : trim text ≠ "" := by
  obtain ⟨rest, htext⟩ : ∃ rest, text.toList = c :: rest := by
    cases htext : text.toList with
    | nil =>
      rw [htext] at hhead
      cases hhead
    | cons d rest =>
      rw [htext] at hhead
      cases hhead
      exact ⟨rest, rfl⟩
  have hkeeps : text.toList.dropWhile isWhiteSpace = c :: rest := by
    rw [htext, List.dropWhile_cons_of_neg (by simp [hc])]
  intro hempty
  have hchars : trimChars text.toList = [] := by
    have hlist := congrArg String.toList hempty
    rwa [trim, String.toList_ofList] at hlist
  rw [trimChars, hkeeps, List.rdropWhile_eq_nil_iff] at hchars
  rw [hchars c List.mem_cons_self] at hc
  cases hc

theorem trim_append_ne_empty (start rest : String) {c : Char} (hhead : start.toList.head? = some c)
    (hc : isWhiteSpace c = false) : trim (start ++ rest) ≠ "" := by
  refine trim_ne_empty ?_ hc
  rw [String.toList_append, List.head?_append, hhead, Option.some_or]

end EventJournal

/-! ### The audit store -/

namespace AuditStore

variable [Sha256]

structure Quiet (s : AuditState) (count : ℕ) : Prop where
  coherent : ∃ tail, Coherent s [] tail ∧ (framesOf tail).length ≤ count * 2 ^ 20
  available : s.store.available = true
  limit : s.store.maxSegmentBytes = Dashboard.maxSegmentBytes
  day : ∀ day ∈ s.store.currentDay, day = 0
  last_le : ∀ last ∈ s.store.records.getLast?, last.sequence ≤ count

theorem quiet_sampleFresh : Quiet sampleFresh 0 where
  coherent := ⟨[], coherent_sampleFresh, Nat.le_refl _⟩
  available := rfl
  limit := rfl
  day _ hday := absurd hday (Option.not_mem_none _)
  last_le _ hlast := absurd hlast (Option.not_mem_none _)

theorem Quiet.append {s : AuditState} {count : ℕ} (h : Quiet s count) (hcount : count < 31)
    {raw : RawAuditRecord} (hsequence : raw.sequence = count + 1) (hday : raw.occurredAtMs < dayMs)
    (hresources : validateUniqueResources raw.resources = .ok ()) :
    ∃ s', (append raw).exec s = (.ok (), s') ∧ Quiet s' (count + 1) ∧
      s'.store.records = s.store.records ++ [s.store.redactor.redact raw] := by
  obtain ⟨tail, hcoherent, _⟩ := h.coherent
  have hvalid : (s.store.redactor.redact raw).validate = .ok () := hresources
  have hmessage := Redactor.validMessage_redact s.store.redactor raw
  have hdayMs : dayMs = 86400000 := rfl
  have hmax : u64Max = 18446744073709551615 := rfl
  have hlimit : Dashboard.maxSegmentBytes = 67108864 := rfl
  have hnum : (s.store.redactor.redact raw).InU64 := by
    constructor
    · change raw.sequence ≤ u64Max
      omega
    · change raw.occurredAtMs ≤ u64Max
      omega
  have hsize : (StoredEntry.record (s.store.redactor.redact raw)).toJson.toVec.length ≤ 2 ^ 19 :=
    AuditRecord.length_toJson_le hnum hvalid hmessage
  have hlast : ∀ last ∈ s.store.records.getLast?, last.sequence < raw.sequence := by
    intro last hmem
    have hle := h.last_le last hmem
    omega
  have htakes : Takes s.store raw := by
    refine ⟨h.available, hlast, hvalid, ?_⟩
    rw [h.limit]
    omega
  have hfirst : raw.occurredAtMs / dayMs = 0 := Nat.div_eq_of_lt hday
  have hroom : ¬Overflows s tail (s.store.redactor.redact raw) := by
    rintro (hlarge | ⟨old, hold, hother⟩)
    · rw [h.limit] at hlarge
      omega
    · exact hother ((h.day old hold).trans hfirst.symm)
  have hstored : Stored (.record (s.store.redactor.redact raw)) := ⟨⟨hvalid, hmessage⟩, by omega⟩
  refine ⟨recorded (s.store.redactor.redact raw) s (framesOf tail), ?_, ?_, rfl⟩
  · rw [exec_append_of_takes (le_of_eq h.limit) htakes]
    exact exec_orUnavailable_ok (hcoherent.exec_appendInner_of_room hroom)
  · refine ⟨⟨_, hcoherent.recorded hstored hlast hnum.sequence_le, ?_⟩, h.available, h.limit, ?_, ?_⟩
    · rw [framesOf_append, List.length_append, framesOf_singleton, Frames.frame_length]
      omega
    · intro _ hmem
      cases hmem
      exact hfirst
    · intro last hmem
      rw [recorded, indexed, List.getLast?_concat] at hmem
      cases hmem
      exact le_of_eq hsequence

end AuditStore

/-! ### The service -/

namespace DashboardService

variable [Sha256]

variable {access : AccessRequest} {nonce : Digest} {nowMs count n : ℕ} {s : DashboardService}
  {approval : PendingApproval} {session : AuthenticatedTargetSession}

omit [Sha256] in
theorem validateUniqueResources_of_request [Sha256] (h : validateRequest access = .ok ()) :
    validateUniqueResources access.resources = .ok () := by
  obtain ⟨hlen, hnodup, -⟩ := validateRequest_eq_ok.1 h
  exact validateUniqueResources_eq_ok.2 ⟨hlen, hnodup⟩

theorem digest_le_of_request (h : validateRequest access = .ok ()) :
    ∀ text ∈ access.remoteOperation.map RemoteOperationGrant.canonicalSha256,
      text.utf8ByteSize ≤ 64 := by
  intro text htext
  obtain ⟨-, -, hremote⟩ := validateRequest_eq_ok.1 h
  obtain ⟨grant, hgrant, rfl⟩ := Option.mem_map.1 htext
  have hvalid := (hremote grant hgrant).1
  rw [RemoteOperationGrant.validate] at hvalid
  obtain ⟨-, -, hdigest⟩ := bind_eq_ok.1 hvalid
  rw [failIf] at hdigest
  split at hdigest
  · cases hdigest
  · rename_i hcomputed
    rw [not_not.1 hcomputed, RemoteOperationGrant.computeDigest, Json.utf8ByteSize_hex,
      Endian.Block.toList_length]

structure Calm (s : DashboardService) (count : ℕ) : Prop where
  checkpoint : s.checkpoint = none
  auditHealthy : s.auditHealthy = true
  events : s.events.Roomy count
  audit : AuditStore.Quiet s.audit (s.nextAuditSequence - 1)
  next_pos : 0 < s.nextAuditSequence
  next_le : s.nextAuditSequence ≤ count + 1

namespace Calm

variable {s : DashboardService} {count : ℕ}

variable {nowMs : ℕ}

theorem core (h : s.Calm count) (policy : PolicyEngine) (pending : Map ApprovalId Pending)
    (adminGrants : Map String AdminGrant) (paused : Bool) :
    ({ s with policy, pending, adminGrants, paused } : DashboardService).Calm count :=
  ⟨h.checkpoint, h.auditHealthy, h.events, h.audit, h.next_pos, h.next_le⟩

/-- **A calm service records every event that passes the checks.** -/
theorem recordActivity (h : s.Calm count) (hcount : count < 31) {event : ActivityEvent}
    {idempotencyKey : String}
    (hchecked : EventJournal.checkEvent idempotencyKey event = .ok event.toJson.toVec)
    (hsize : event.toJson.toVec.length ≤ 2 ^ 18)
    (hfresh : s.events.idempotency.lookup idempotencyKey = none)
    (hsequence : event.sequence ≠ u64Max)
    (hexpected : EventJournal.expectedSequence (s.events.activitySequences.lookup event.activityId)
      = some event.sequence) :
    (recordActivity event idempotencyKey).exec s =
        (.ok (), { s with
          events := s.events.pushed idempotencyKey event
          activities := s.activities.insert event.activityId event }) ∧
      ({ s with
        events := s.events.pushed idempotencyKey event
        activities := s.activities.insert event.activityId event } : DashboardService).Calm
        (count + 1) := by
  have haccepts := h.events.accepts hcount hchecked hsize hfresh hsequence hexpected
  have hopened : s.events.opened event = s.events :=
    if_neg (h.events.not_needsRotation hcount event)
  constructor
  · rw [exec_recordActivity_accepted haccepts (written_none h.checkpoint _), hopened,
      h.events.publish_eq_pushed hcount hsize, ← h.checkpoint]
  · exact ⟨h.checkpoint, h.auditHealthy, h.events.pushed hsize, h.audit, h.next_pos,
      Nat.le_succ_of_le h.next_le⟩

/-- **A calm service appends every valid audit record.** -/
theorem appendAudit (h : s.Calm count) (hcount : count < 31) {record : RawAuditRecord}
    (hsequence : record.sequence = s.nextAuditSequence) (hday : record.occurredAtMs < dayMs)
    (hresources : validateUniqueResources record.resources = .ok ()) :
    ∃ audit, (appendAudit record).exec s =
        (.ok (), { s with audit, nextAuditSequence := s.nextAuditSequence + 1 }) ∧
      ({ s with audit, nextAuditSequence := s.nextAuditSequence + 1 } : DashboardService).Calm
        (count + 1) := by
  have hpos := h.next_pos
  have hle := h.next_le
  have hmax : u64Max = 18446744073709551615 := rfl
  obtain ⟨audit, hexec, hquiet, -⟩ :=
    h.audit.append (by omega) (hsequence.trans (by omega)) hday hresources
  refine ⟨audit, ?_, ?_⟩
  · have hhealthy := h.auditHealthy
    rw [exec_appendAudit, hexec, if_neg (by simp [hhealthy])]
    dsimp only
    rw [checkedAdd, if_pos (by omega)]
  · have hnumber : s.nextAuditSequence - 1 + 1 = s.nextAuditSequence + 1 - 1 := by omega
    rw [hnumber] at hquiet
    exact ⟨h.checkpoint, h.auditHealthy, h.events.mono (Nat.le_succ _), hquiet, Nat.succ_pos _,
      Nat.succ_le_succ h.next_le⟩

/-- **A calm service audits every access.** -/
theorem auditAccess (h : s.Calm count) (hcount : count < 31) {access : AccessRequest}
    (effect : PolicyEffect) (result : AuditResult) (hday : nowMs < dayMs)
    (hresources : validateUniqueResources access.resources = .ok ()) :
    ∃ audit, (auditAccess access effect result nowMs).exec s =
        (.ok (), { s with audit, nextAuditSequence := s.nextAuditSequence + 1 }) ∧
      ({ s with audit, nextAuditSequence := s.nextAuditSequence + 1 } : DashboardService).Calm
        (count + 1) := by
  rw [DashboardService.auditAccess, auditAccessWithMessage, exec_bind_ok (exec_get _)]
  exact h.appendAudit hcount rfl hday hresources

/-- **A calm service records every valid access of the host.** -/
theorem recordAccess (h : s.Calm count) (hcount : count < 31) {access : AccessRequest}
    (hrequest : validateRequest access = .ok ()) {sequence : ℕ} (authorization : Authorization)
    {state : ActivityState} (hstate : state = .awaitingApproval ∨ state = .queued)
    {idempotencyKey : String} (hblank : trim idempotencyKey ≠ "")
    (hkey : idempotencyKey.utf8ByteSize ≤ 256)
    (hfresh : s.events.idempotency.lookup idempotencyKey = none) (hsequence : sequence < u64Max)
    (hnow : nowMs ≤ u64Max)
    (hexpected : EventJournal.expectedSequence (s.events.activitySequences.lookup access.activityId)
      = some sequence) :
    let event := accessEvent access sequence nowMs authorization state none none none
    (DashboardService.recordActivity event idempotencyKey).exec s =
        (.ok (), { s with
          events := s.events.pushed idempotencyKey event
          activities := s.activities.insert access.activityId event }) ∧
      ({ s with
        events := s.events.pushed idempotencyKey event
        activities := s.activities.insert access.activityId event } : DashboardService).Calm
        (count + 1) := by
  intro event
  have hnum : event.InU64 :=
    { sequence_le := Nat.le_of_lt hsequence
      occurredAtMs_le := hnow
      metrics := ⟨trivial, trivial, trivial, trivial⟩
      startedAtMs_le := fun _ ht => absurd ht (Option.not_mem_none _)
      finishedAtMs_le := fun _ ht => absurd ht (Option.not_mem_none _)
      digest_le := digest_le_of_request hrequest }
  have hvalid : event.validate = .ok () := by
    rw [ActivityEvent.validate]
    change (validateUniqueResources access.resources >>= fun _ => _) = _
    rw [validateUniqueResources_of_request hrequest]
    rcases hstate with rfl | rfl
    · rfl
    · rfl
  have hmessage : ∀ m ∈ event.message, m.validate = .ok () :=
    fun _ hm => absurd hm (Option.not_mem_none _)
  have hlength := ActivityEvent.length_toJson_le hnum hvalid hmessage
  exact h.recordActivity hcount (EventJournal.checkEvent_eq_ok hvalid hmessage hblank hkey) (by omega)
    hfresh (Nat.ne_of_lt hsequence) hexpected

/-- **A calm service audits what is done to an activity.** -/
theorem auditAccessFromEvent (h : s.Calm count) (hcount : count < 31) {event : ActivityEvent}
    (result : AuditResult) (message : Option MessageCode) (hday : nowMs < dayMs)
    (hresources : validateUniqueResources event.resources = .ok ()) :
    ∃ audit, (auditAccessFromEventWithMessage event result message nowMs).exec s =
        (.ok (), { s with audit, nextAuditSequence := s.nextAuditSequence + 1 }) ∧
      ({ s with audit, nextAuditSequence := s.nextAuditSequence + 1 } : DashboardService).Calm
        (count + 1) := by
  rw [auditAccessFromEventWithMessage, exec_bind_ok (exec_get _)]
  exact h.appendAudit hcount rfl hday hresources

/-- **A calm service cancels an activity**, if the event of its end passes the checks. -/
theorem cancelActivityInner (h : s.Calm count) (hcount : count < 29) {id : ActivityId}
    {current : ActivityEvent} (hlookup : s.activities.lookup id = some current)
    (hactive : current.state.isTerminal = false)
    (hresources : validateUniqueResources current.resources = .ok ()) (hday : nowMs < dayMs)
    (hchecked : EventJournal.checkEvent ("cancel:" ++ id.text) (current.cancelled nowMs)
      = .ok (current.cancelled nowMs).toJson.toVec)
    (hsize : (current.cancelled nowMs).toJson.toVec.length ≤ 2 ^ 18)
    (hfresh : s.events.idempotency.lookup ("cancel:" ++ id.text) = none)
    (hsequence : (current.cancelled nowMs).sequence ≠ u64Max)
    (hexpected : EventJournal.expectedSequence (s.events.activitySequences.lookup current.activityId)
      = some (current.cancelled nowMs).sequence) :
    ∃ audit, (DashboardService.cancelActivityInner id nowMs).exec s =
      (.ok true, { s with
        audit
        nextAuditSequence := s.nextAuditSequence + 2
        events := s.events.pushed ("cancel:" ++ id.text) (current.cancelled nowMs)
        activities := s.activities.insert current.activityId (current.cancelled nowMs) }) := by
  obtain ⟨audit, hattempted, hcalm⟩ := h.auditAccessFromEvent (by omega) .attempted none hday hresources
  have hrecorded := hcalm.recordActivity (by omega) hchecked hsize hfresh hsequence hexpected
  obtain ⟨audit', hcancelled, -⟩ := hrecorded.2.auditAccessFromEvent (by omega) .cancelled
    (some .operationCancelled) hday hresources
  refine ⟨audit', ?_⟩
  rw [DashboardService.cancelActivityInner, exec_bind_ok (exec_get s), hlookup]
  dsimp only
  rw [exec_ite, if_neg (by rw [hactive]; exact Bool.noConfusion)]
  refine exec_bind_of hattempted (exec_bind_of (exec_attempt_of hrecorded.1) ?_)
  exact exec_bind_of hcancelled rfl

end Calm

/-! ### Requests and decisions -/

omit [Sha256] in
theorem keyOfNonce (start : String) {c : Char} (hhead : start.toList.head? = some c)
    (hc : isWhiteSpace c = false) (hsize : start.utf8ByteSize ≤ 192) (nonce : Digest) :
    trim (start ++ hex nonce.toList) ≠ "" ∧ (start ++ hex nonce.toList).utf8ByteSize ≤ 256 := by
  constructor
  · exact EventJournal.trim_append_ne_empty _ _ hhead hc
  · have hhex := Json.utf8ByteSize_hex nonce.toList
    rw [Endian.Block.toList_length] at hhex
    rw [String.utf8ByteSize_append]
    omega

omit [Sha256] in
theorem requestKey_ne_decisionKey (nonce : String) :
    "approval-decision:" ++ nonce ≠ "approval-request:" ++ nonce := by
  intro heq
  have hchar := congrArg (fun text : String => text.toList[9]?) heq
  simp only [String.toList_append] at hchar
  rw [List.getElem?_append_left (by decide), List.getElem?_append_left (by decide)] at hchar
  exact absurd hchar (by decide)

def waitId (nonce : Digest) : ApprovalId :=
  ⟨_, PolicyEngine.idText_approval nonce (by decide : 16 ≤ 32)⟩

omit [Sha256] in
theorem approvalIdOf_hex (nonce : Digest) :
    approvalIdOf (hex nonce.toList) = .ok (waitId nonce) := by
  have htext : "approval-" ++ String.ofList ((nonce.toList.flatMap hexChars).take 16)
      = (waitId nonce).text := by
    change _ = String.ofList (_ ++ _)
    rw [String.ofList_append, String.ofList_toList]
  rw [approvalIdOf, PolicyEngine.takeBytes_hex nonce (by decide : 16 ≤ 64)]
  dsimp only
  rw [parseId, htext, ValidatedId.parse_text]
  rfl

def requestEvent (access : AccessRequest) (sequence nowMs : ℕ) (id : ApprovalId) : ActivityEvent :=
  accessEvent access sequence nowMs ⟨.allow, none, some id⟩ .awaitingApproval none none none

def requested (s : DashboardService) (audit : AuditState) (access : AccessRequest)
    (lifetimeMs nowMs : ℕ) (nonce : Digest) : DashboardService :=
  { s with
    audit
    nextAuditSequence := s.nextAuditSequence + 1
    policy := s.policy.offer (hex nonce.toList) access (PolicyEngine.expiry nowMs lifetimeMs)
    pending := s.pending.insert (waitId nonce)
      (pendingFor (waitId nonce) ⟨hex nonce.toList, PolicyEngine.expiry nowMs lifetimeMs⟩ access nowMs)
    events := s.events.pushed ("approval-request:" ++ hex nonce.toList)
      (requestEvent access (s.nextSequence access.activityId) nowMs (waitId nonce))
    activities := s.activities.insert access.activityId
      (requestEvent access (s.nextSequence access.activityId) nowMs (waitId nonce)) }

structure Asks (s : DashboardService) (access : AccessRequest) (nowMs : ℕ) (nonce : Digest) :
    Prop where
  running : s.paused = false
  host : access.targetHostId = s.localHostId
  undecided : ∃ reason, s.policy.evaluate access nowMs = .ok (.approvalRequired reason)
  valid : validateRequest access = .ok ()
  plain : access.remoteOperation = none
  first : s.policy.approvals = ∅
  free : ∀ rule ∈ s.policy.rules, rule.id ≠ PolicyEngine.approvalId nonce
  firstDay : nowMs < dayMs
  sequence_lt : s.nextSequence access.activityId < u64Max
  fresh : s.events.idempotency.lookup ("approval-request:" ++ hex nonce.toList) = none
  expected : EventJournal.expectedSequence (s.events.activitySequences.lookup access.activityId)
    = some (s.nextSequence access.activityId)

structure Submits (s : DashboardService) (access : AccessRequest) (nowMs : ℕ) (nonce : Digest) :
    Prop where
  running : s.paused = false
  host : access.targetHostId = s.localHostId
  undenied : ∃ verdict, s.policy.evaluate access nowMs = .ok verdict ∧ ∀ ruleId, verdict ≠ .denied ruleId
  valid : validateRequest access = .ok ()
  first : s.policy.approvals = ∅
  free : ∀ rule ∈ s.policy.rules, rule.id ≠ PolicyEngine.approvalId nonce
  firstDay : nowMs < dayMs
  sequence_lt : s.nextSequence access.activityId < u64Max
  fresh : s.events.idempotency.lookup ("approval-request:" ++ hex nonce.toList) = none
  expected : EventJournal.expectedSequence (s.events.activitySequences.lookup access.activityId)
    = some (s.nextSequence access.activityId)

theorem Asks.submits (h : s.Asks access nowMs nonce) : s.Submits access nowMs nonce where
  running := h.running
  host := h.host
  undenied := by
    obtain ⟨_, hundecided⟩ := h.undecided
    exact ⟨_, hundecided, fun _ heq => by cases heq⟩
  valid := h.valid
  first := h.first
  free := h.free
  firstDay := h.firstDay
  sequence_lt := h.sequence_lt
  fresh := h.fresh
  expected := h.expected

/-- **A calm service waits for the approval of what is submitted to it.** -/
theorem Calm.submit (h : s.Calm count) (hcount : count < 30) {lifetimeMs : ℕ} (random : ℕ → Digest)
    (hlifetime : lifetimeMs ≠ 0) (hasks : s.Submits access nowMs (random 0)) :
    ∃ audit, (requestApproval access lifetimeMs nowMs random).exec s =
        (.ok ⟨hex (random 0).toList, PolicyEngine.expiry nowMs lifetimeMs⟩,
          s.requested audit access lifetimeMs nowMs (random 0)) ∧
      (s.requested audit access lifetimeMs nowMs (random 0)).Calm (count + 2) := by
  obtain ⟨verdict, hverdict, hundenied⟩ := hasks.undenied
  have hresources := validateUniqueResources_of_request hasks.valid
  have hdayMs : dayMs = 86400000 := rfl
  have hmax : u64Max = 18446744073709551615 := rfl
  have hday := hasks.firstDay
  obtain ⟨audit, haudited, hcalm⟩ := h.auditAccess (by omega) .allow .attempted hday hresources
  refine ⟨audit, ?_⟩
  have hcreated : (PolicyEngine.createApproval access nowMs lifetimeMs random).exec s.policy
      = (.ok ⟨hex (random 0).toList, PolicyEngine.expiry nowMs lifetimeMs⟩,
          s.policy.offer (hex (random 0).toList) access (PolicyEngine.expiry nowMs lifetimeMs)) :=
    PolicyEngine.exec_createApproval_of_empty hasks.first hasks.valid hlifetime nowMs hasks.free
  obtain ⟨hblank, hkey⟩ := keyOfNonce "approval-request:" (rfl : _ = some 'a') (by decide)
    (by decide) (random 0)
  -- The approval is waited for before the event is published.
  have hwaiting := hcalm.core
    (s.policy.offer (hex (random 0).toList) access (PolicyEngine.expiry nowMs lifetimeMs))
    (s.pending.insert (waitId (random 0)) (pendingFor (waitId (random 0))
      ⟨hex (random 0).toList, PolicyEngine.expiry nowMs lifetimeMs⟩ access nowMs))
    s.adminGrants s.paused
  have hpublished := hwaiting.recordAccess (by omega) hasks.valid
    ⟨.allow, none, some (waitId (random 0))⟩ (.inl rfl) hblank hkey hasks.fresh
    hasks.sequence_lt (by omega : nowMs ≤ u64Max) hasks.expected
  refine ⟨?_, hpublished.2⟩
  rw [DashboardService.requestApproval, exec_bind_ok (exec_get _), exec_throwIf_bind, if_neg]
  · have hwaits : (createPending access lifetimeMs nowMs random).exec s =
        (.ok ⟨hex (random 0).toList, PolicyEngine.expiry nowMs lifetimeMs⟩,
          s.requested audit access lifetimeMs nowMs (random 0)) := by
      rw [createPending, exec_bind_ok haudited, exec_bind_ok (exec_get _)]
      dsimp only
      rw [hcreated]
      dsimp only
      rw [awaitApproval, approvalIdOf_hex, exec_bind_ok (exec_orThrow _ _ _),
        exec_bind_ok (exec_get _), exec_bind_ok (exec_modify _ _)]
      exact exec_bind_of (exec_attempt_of hpublished.1) rfl
    rw [hverdict]
    cases verdict with
    | denied ruleId => exact absurd rfl (hundenied ruleId)
    | allowed | approvalRequired => exact hwaits
  · rintro (⟨hpaused, -⟩ | hhost)
    · rw [hasks.running] at hpaused
      cases hpaused
    · exact hhost hasks.host

/-- **A calm service waits for the approval of what it is asked.** -/
theorem Calm.requestApproval (h : s.Calm count) (hcount : count < 30) {lifetimeMs : ℕ}
    (random : ℕ → Digest) (hlifetime : lifetimeMs ≠ 0) (hasks : s.Asks access nowMs (random 0)) :
    ∃ audit, (requestApproval access lifetimeMs nowMs random).exec s =
        (.ok ⟨hex (random 0).toList, PolicyEngine.expiry nowMs lifetimeMs⟩,
          s.requested audit access lifetimeMs nowMs (random 0)) ∧
      (s.requested audit access lifetimeMs nowMs (random 0)).Calm (count + 2) :=
  h.submit hcount random hlifetime hasks.submits

def allowedEvent (s : DashboardService) (access : AccessRequest) (nowMs : ℕ) (nonce : Digest) :
    ActivityEvent :=
  accessEvent access (s.nextSequence access.activityId) nowMs
    ⟨.allow, none, (s.decidedPending (hex nonce.toList) access).map Prod.fst⟩ .queued none none none

/-- The service when an access has been let through once. -/
def allowed (s : DashboardService) (audit : AuditState) (access : AccessRequest) (nowMs : ℕ)
    (nonce : Digest) (approval : PendingApproval) : DashboardService :=
  { s with
    audit
    nextAuditSequence := s.nextAuditSequence + 1
    policy := s.policy.use (hex nonce.toList) approval
    pending := erasePending (s.decidedPending (hex nonce.toList) access) s.pending
    adminGrants := s.grantsAfter (hex nonce.toList) (s.decidedPending (hex nonce.toList) access) access
      .allow nowMs
    events := s.events.pushed ("approval-decision:" ++ hex nonce.toList)
      (s.allowedEvent access nowMs nonce)
    activities := s.activities.insert access.activityId (s.allowedEvent access nowMs nonce) }

/-- What a decision asks of a calm service for the access to be let through. -/
structure Allows (s : DashboardService) (session : AuthenticatedTargetSession)
    (access : AccessRequest) (nowMs : ℕ) (nonce : Digest) (approval : PendingApproval) : Prop where
  running : s.paused = false
  undecided : ∃ reason, s.policy.evaluate access nowMs = .ok (.approvalRequired reason)
  redeems : PolicyEngine.Redeems s.policy (hex nonce.toList) session access .allowOnce nowMs approval
  plain : access.remoteOperation = none
  firstDay : nowMs < dayMs
  sequence_lt : s.nextSequence access.activityId < u64Max
  fresh : s.events.idempotency.lookup ("approval-decision:" ++ hex nonce.toList) = none
  expected : EventJournal.expectedSequence (s.events.activitySequences.lookup access.activityId)
    = some (s.nextSequence access.activityId)

structure Admittable (s : DashboardService) (session : AuthenticatedTargetSession)
    (access : AccessRequest) (nowMs : ℕ) (nonce : Digest) (approval : PendingApproval) : Prop where
  running : s.paused = false
  undenied : ∃ verdict, s.policy.evaluate access nowMs = .ok verdict ∧ ∀ ruleId, verdict ≠ .denied ruleId
  redeems : PolicyEngine.Redeems s.policy (hex nonce.toList) session access .allowOnce nowMs approval
  firstDay : nowMs < dayMs
  sequence_lt : s.nextSequence access.activityId < u64Max
  fresh : s.events.idempotency.lookup ("approval-decision:" ++ hex nonce.toList) = none
  expected : EventJournal.expectedSequence (s.events.activitySequences.lookup access.activityId)
    = some (s.nextSequence access.activityId)

theorem Allows.admittable (h : s.Allows session access nowMs nonce approval) :
    s.Admittable session access nowMs nonce approval where
  running := h.running
  undenied := by
    obtain ⟨_, hundecided⟩ := h.undecided
    exact ⟨_, hundecided, fun _ heq => by cases heq⟩
  redeems := h.redeems
  firstDay := h.firstDay
  sequence_lt := h.sequence_lt
  fresh := h.fresh
  expected := h.expected

/-- **A calm service lets an access through whose nonce can be redeemed.** -/
theorem Calm.letThrough (h : s.Calm count) (hcount : count < 30)
    (hallows : s.Admittable session access nowMs nonce approval) :
    ∃ audit, (decideApproval (hex nonce.toList) session access .allowOnce nowMs).exec s =
        (.ok none, s.allowed audit access nowMs nonce approval) ∧
      (s.allowed audit access nowMs nonce approval).Calm (count + 2) := by
  obtain ⟨verdict, hverdict, hundenied⟩ := hallows.undenied
  have hresources := validateUniqueResources_of_request hallows.redeems.valid
  have hdayMs : dayMs = 86400000 := rfl
  have hmax : u64Max = 18446744073709551615 := rfl
  have hday := hallows.firstDay
  obtain ⟨audit, haudited, hcalm⟩ := h.auditAccess (by omega) .allow .attempted hday hresources
  refine ⟨audit, ?_⟩
  have hdecided : (PolicyEngine.decide (hex nonce.toList) session access .allowOnce nowMs).exec s.policy
      = (.ok ⟨.allowOnce, none⟩, s.policy.use (hex nonce.toList) approval) := by
    rw [PolicyEngine.exec_decide_of_redeems hallows.redeems, PolicyEngine.exec_createRule_none rfl]
  obtain ⟨hblank, hkey⟩ := keyOfNonce "approval-decision:" (rfl : _ = some 'a') (by decide)
    (by decide) nonce
  -- Nothing is waited for any more before the event is published.
  have hsettled := hcalm.core (s.policy.use (hex nonce.toList) approval)
    (erasePending (s.decidedPending (hex nonce.toList) access) s.pending)
    (s.grantsAfter (hex nonce.toList) (s.decidedPending (hex nonce.toList) access) access .allow nowMs)
    s.paused
  have hpublished := hsettled.recordAccess (by omega) hallows.redeems.valid
    ⟨.allow, none, (s.decidedPending (hex nonce.toList) access).map Prod.fst⟩ (.inr rfl) hblank hkey
    hallows.fresh hallows.sequence_lt (by omega : nowMs ≤ u64Max) hallows.expected
  refine ⟨?_, hpublished.2⟩
  rw [DashboardService.decideApproval, exec_bind_ok (exec_get _), exec_throwIf_bind, if_neg]
  · have hlets : (decideUndenied (hex nonce.toList) session access .allowOnce nowMs).exec s =
        (.ok none, s.allowed audit access nowMs nonce approval) := by
      rw [decideUndenied, exec_bind_ok (exec_get _)]
      refine exec_bind_of haudited ?_
      rw [hdecided]
      dsimp only
      rw [applyDecision, exec_bind_ok (exec_get _), exec_bind_ok (exec_modify _ _)]
      exact exec_bind_of (exec_attempt_of hpublished.1) rfl
    rw [hverdict]
    cases verdict with
    | denied ruleId => exact absurd rfl (hundenied ruleId)
    | allowed | approvalRequired => exact hlets
  · rintro ⟨hpaused, -⟩
    rw [hallows.running] at hpaused
    cases hpaused

theorem Calm.decideApproval (h : s.Calm count) (hcount : count < 30)
    (hallows : s.Allows session access nowMs nonce approval) :
    ∃ audit, (decideApproval (hex nonce.toList) session access .allowOnce nowMs).exec s =
        (.ok none, s.allowed audit access nowMs nonce approval) ∧
      (s.allowed audit access nowMs nonce approval).Calm (count + 2) :=
  h.letThrough hcount hallows.admittable

/-! ### Administration -/

omit [Sha256] in
theorem parseId_of_idText {kind : IdKind} {text : String} (h : IdText text) :
    (parseId text : Except (Fault DashboardServiceError) (ValidatedId kind)) = .ok ⟨text, h⟩ := by
  rw [parseId, ValidatedId.parse_text ⟨text, h⟩]
  rfl

def managedRule : PolicyRule :=
  { id := ⟨"user", PolicyEngine.idText_user⟩
    revision := 1
    effect := .allow
    principalId := none
    sourceHostId := none
    targetHostId := none
    deviceId := none
    operation := none
    resources := []
    expiresAtMs := none
    requireUserPresence := false
    userPresence := none
    physicalDevice := none
    matchDeviceExact := false
    matchResourcesExact := false
    enabled := true
    origin := .managed }

theorem exec_authorizeAdmin_of_managed (hrules : s.policy.rules = [managedRule])
    (hnext : s.nextAuditSequence = n) (hid : IdText ("admin-auth-" ++ Nat.repr n))
    (operation : OperationId) (resource : ResourceClass) (mutationDigest : Option String) (nowMs : ℕ) :
    (authorizeAdmin operation resource mutationDigest nowMs).exec s = (.ok (), s) := by
  subst hnext
  have hallowed : s.policy.evaluate (adminRequest s.localHostId
      ⟨"admin-auth-" ++ Nat.repr s.nextAuditSequence, hid⟩ operation resource) nowMs
      = .ok (.allowed managedRule.id) := by
    rw [PolicyEngine.evaluate, hrules]
    change Except.ok () >>= _ = _
    rw [ok_bind]
    generalize isHighRisk _ = risk
    cases risk with
    | true | false => rfl
  have hmanaged : s.policy.isVerifiedManagedRule managedRule.id = true := by
    rw [PolicyEngine.isVerifiedManagedRule, hrules]
    decide
  rw [authorizeAdmin, exec_bind_ok (exec_get _), parseId_of_idText hid,
    exec_bind_ok (exec_orThrow _ _ _)]
  dsimp only
  rw [hallowed]
  dsimp only
  rw [if_pos hmanaged, exec_pure]

theorem exec_authorizeAdmin_of_no_rules (hrules : s.policy.rules = []) (hgrants : s.adminGrants = ∅)
    (hnext : s.nextAuditSequence = n) (hid : IdText ("admin-auth-" ++ Nat.repr n))
    (operation : OperationId) (resource : ResourceClass) (mutationDigest : Option String) (nowMs : ℕ) :
    ((authorizeAdmin operation resource mutationDigest nowMs).exec s).1
      = .error (.returned .permissionDenied) := by
  subst hnext
  obtain ⟨_, hrequired⟩ := PolicyEngine.evaluate_of_no_rules hrules
    (rfl : validateRequest (adminRequest s.localHostId
      ⟨"admin-auth-" ++ Nat.repr s.nextAuditSequence, hid⟩ operation resource) = .ok ()) nowMs
  rw [authorizeAdmin, exec_bind_ok (exec_get _), parseId_of_idText hid,
    exec_bind_ok (exec_orThrow _ _ _)]
  dsimp only
  rw [hrequired]
  dsimp only
  have hnone : findKey id (fun grant => AdminGrant.covers grant (adminRequest s.localHostId
      ⟨"admin-auth-" ++ Nat.repr s.nextAuditSequence, hid⟩ operation resource) mutationDigest)
      (s.adminGrants.retain fun _ grant => grant.expiresAtMs > nowMs) = none := by
    refine findKey_of_forall fun a b hlookup => ?_
    rw [Map.lookup_retain, hgrants] at hlookup
    cases hlookup
  rw [spendGrant, exec_bind_ok (exec_modify _ _), exec_bind_ok (exec_get _)]
  dsimp only
  rw [hnone, exec_okOr_none_bind]

theorem Calm.auditLocal (h : s.Calm count) (hcount : count < 31) (operation : OperationId)
    (result : AuditResult) (hday : nowMs < dayMs) :
    ∃ audit, (auditLocal operation result nowMs).exec s =
        (.ok (), { s with audit, nextAuditSequence := s.nextAuditSequence + 1 }) ∧
      ({ s with audit, nextAuditSequence := s.nextAuditSequence + 1 } : DashboardService).Calm
        (count + 1) := by
  rw [DashboardService.auditLocal, exec_bind_ok (exec_get _)]
  exact h.appendAudit hcount rfl hday rfl

def localKey (activity : String) (operation : OperationId) : String :=
  "local-mutation:" ++ activity ++ ":" ++ operation.text

omit [Sha256] in
theorem checkEvent_localEvent (host : HostId) (activityId : ActivityId) (operation : OperationId)
    (hnow : nowMs ≤ u64Max) :
    (∀ key, trim key ≠ "" → key.utf8ByteSize ≤ 256 →
        EventJournal.checkEvent key (localEvent host activityId operation nowMs)
          = .ok (localEvent host activityId operation nowMs).toJson.toVec) ∧
      (localEvent host activityId operation nowMs).toJson.toVec.length ≤ 2 ^ 18 := by
  have hnum : (localEvent host activityId operation nowMs).InU64 :=
    { sequence_le := by
        change 1 ≤ u64Max
        decide
      occurredAtMs_le := hnow
      metrics := ⟨trivial, trivial, trivial, trivial⟩
      startedAtMs_le := fun t ht => by
        cases ht
        exact hnow
      finishedAtMs_le := fun t ht => by
        cases ht
        exact hnow
      digest_le := fun _ ht => absurd ht (Option.not_mem_none _) }
  have hvalid : (localEvent host activityId operation nowMs).validate = .ok () := by
    rw [ActivityEvent.validate]
    change validateLifecycle .succeeded (some nowMs) (some nowMs) (some nowMs) = _
    simp [validateLifecycle]
    rfl
  have hmessage : ∀ m ∈ (localEvent host activityId operation nowMs).message, m.validate = .ok () :=
    fun _ hm => absurd hm (Option.not_mem_none _)
  have hlength := ActivityEvent.length_toJson_le hnum hvalid hmessage
  exact ⟨fun key hblank hkey => EventJournal.checkEvent_eq_ok hvalid hmessage hblank hkey, by omega⟩

/-- **A calm service publishes what is done from the local user interface.** -/
theorem Calm.appendLocalEvent (h : s.Calm count) (hcount : count < 31) {operation : OperationId}
    {activityId : ActivityId} (hnext : s.nextAuditSequence = n + 1)
    (hactivity : "admin-" ++ Nat.repr n ++ "-" ++ operation.text = activityId.text)
    (hkey : (localKey activityId.text operation).utf8ByteSize ≤ 256)
    (hfresh : s.events.idempotency.lookup (localKey activityId.text operation) = none)
    (hnone : s.events.activitySequences.lookup activityId = none) (hnow : nowMs ≤ u64Max) :
    (DashboardService.appendLocalEvent operation nowMs).exec s =
        (.ok (), { s with
          events := s.events.pushed (localKey activityId.text operation)
            (localEvent s.localHostId activityId operation nowMs)
          activities := s.activities.insert activityId
            (localEvent s.localHostId activityId operation nowMs) }) ∧
      ({ s with
        events := s.events.pushed (localKey activityId.text operation)
          (localEvent s.localHostId activityId operation nowMs)
        activities := s.activities.insert activityId
          (localEvent s.localHostId activityId operation nowMs) } : DashboardService).Calm
        (count + 1) := by
  obtain ⟨hchecked, hlength⟩ := checkEvent_localEvent s.localHostId activityId operation hnow
  have hblank : trim (localKey activityId.text operation) ≠ "" := by
    change trim ("local-mutation:" ++ activityId.text ++ ":" ++ operation.text) ≠ ""
    rw [String.append_assoc, String.append_assoc]
    exact @EventJournal.trim_append_ne_empty _ _ 'l' (by decide) (by decide)
  have hexpected : EventJournal.expectedSequence (s.events.activitySequences.lookup activityId)
      = some 1 := by
    rw [hnone]
    rfl
  have hparse : parseId ("admin-" ++ Nat.repr (s.nextAuditSequence - 1) ++ "-" ++ operation.text)
      = .ok activityId := by
    rw [hnext, Nat.add_sub_cancel, hactivity]
    exact parseId_of_idText activityId.valid
  have hrecorded := h.recordActivity hcount (hchecked _ hblank hkey) hlength hfresh
    (by decide : (1 : ℕ) ≠ u64Max) hexpected
  refine ⟨?_, hrecorded.2⟩
  rw [DashboardService.appendLocalEvent, exec_bind_ok (exec_get _), hparse,
    exec_bind_ok (exec_orThrow _ _ _)]
  exact hrecorded.1

def sampleService : DashboardService :=
  new ⟨"host", PolicyEngine.idText_host⟩ (EventJournal.new 1 0) AuditStore.sampleFresh
    PolicyEngine.new

theorem calm_sampleService : sampleService.Calm 0 :=
  ⟨rfl, rfl, EventJournal.roomy_new 1 0, AuditStore.quiet_sampleFresh, Nat.one_pos, Nat.le_refl _⟩

end DashboardService

end Dashboard
