/-
**Requests for a target that is not online.**

Such a request is audited and recorded as a failed activity, under a key that is the same for every
refusal of one identifier and with the number that follows whatever record there is. So the refusal of an
identifier that has been refused before is not recorded, and the record of an activity that is under way
is replaced.

Main definitions:

* `Dashboard.DashboardService.Refusable` — the refusals that can be recorded, of an identifier not in use;
* `Daemon.DaemonState.RefusesOnly` — nothing but the refusal comes of a request.

Main results:

* `Daemon.System.refusesOnly_iff_of_run` — **nothing else comes of a request exactly if its refusal can be
  recorded and its identifier is not in use**.
-/

import DeviceLane.Daemon.Approved
import DeviceLane.Dashboard.EventLogPreflight

namespace Dashboard

open Effect

variable [Sha256]

/-! ### What the audit store takes -/

namespace AuditStore

def HasRoom (s : AuditState) (raw : RawAuditRecord) : Prop :=
  ∀ segment ∈ s.dir.segments.lookup s.store.current,
    s.store.needsSegment segment.length
        ((StoredEntry.record (s.store.redactor.redact raw)).toJson.toVec.length + 36)
        (raw.occurredAtMs / dayMs) →
      s.dir.segments.lookup (s.store.current + 1) = none

def OneRecordMore (s s' : AuditState) : Prop :=
  (∃ layout tail, Coherent s' layout tail) ∧
    ∃ record, s'.store.records = s.store.records ++ [record]

variable {s : AuditState} {layout : Layout} {tail : List StoredEntry} {raw : RawAuditRecord}

theorem isOk_append_of_hasRoom (h : Coherent s layout tail) (htakes : Takes s.store raw)
    (hroom : HasRoom s raw) : ((append raw).exec s).1 = .ok () := by
  rw [exec_append_of_takes h.limit.2 htakes]
  by_cases hover : Overflows s tail (s.store.redactor.redact raw)
  · have hnext := hroom _ h.current_segment hover
    rw [exec_orUnavailable_ok (h.exec_appendInner_of_overflows hover hnext)]
  · rw [exec_orUnavailable_ok (h.exec_appendInner_of_room hover)]

theorem hasRoom_of_isOk_append (h : Coherent s layout tail) (htakes : Takes s.store raw)
    (hok : ((append raw).exec s).1 = .ok ()) : HasRoom s raw := by
  intro _ hsegment hneeds
  obtain rfl := Option.some.inj (h.current_segment.symm.trans hsegment)
  cases hnext : s.dir.segments.lookup (s.store.current + 1) with
  | none => rfl
  | some =>
    rw [exec_append_of_takes h.limit.2 htakes,
      exec_orUnavailable_error (h.exec_appendInner_of_blocked hneeds hnext)] at hok
    cases hok

/-- **A store takes a record** exactly if it is a valid one and there is room for it. -/
theorem append_cases (h : Coherent s layout tail) (hbound : raw.sequence ≤ u64Max) :
    ((Takes s.store raw ∧ HasRoom s raw) ∧
        ∃ s', (append raw).exec s = (.ok (), s') ∧ OneRecordMore s s') ∨
      (¬(Takes s.store raw ∧ HasRoom s raw) ∧ ∃ error s', (append raw).exec s = (.error error, s')) := by
  by_cases hok : ((append raw).exec s).1 = .ok ()
  · left
    have hroom := fun htakes => hasRoom_of_isOk_append h htakes hok
    have happended := h.append hbound
    generalize (append raw).exec s = run at hok happended
    cases happended with
    | refused | blocked => cases hok
    | @written s' layout' tail' htakes coherent store =>
      exact ⟨⟨htakes, hroom htakes⟩, s', rfl, ⟨_, _, coherent⟩, _, by rw [store]⟩
  · right
    refine ⟨fun hfits => hok (isOk_append_of_hasRoom h hfits.1 hfits.2), ?_⟩
    rcases hexec : (append raw).exec s with ⟨outcome, s'⟩
    rw [hexec] at hok
    cases outcome with
    | error error => exact ⟨error, s', rfl⟩
    | ok => exact absurd rfl hok

end AuditStore

namespace DashboardService

variable {s : DashboardService} {access : AccessRequest} {nowMs : ℕ}

/-- The audit store and the file of the checkpoint work. -/
structure Works (s : DashboardService) : Prop where
  healthy : s.auditHealthy = true
  coherent : ∃ layout tail, Coherent s.audit layout tail
  stores : s.Stores

structure CanAudit (s : DashboardService) (record : RawAuditRecord) : Prop where
  next_lt : s.nextAuditSequence < u64Max
  takes : Takes s.audit.store record
  room : AuditStore.HasRoom s.audit record

theorem appendAudit_cases (h : s.Works) {record : RawAuditRecord}
    (hsequence : record.sequence = s.nextAuditSequence) :
    (s.CanAudit record ∧ ∃ audit, AuditStore.OneRecordMore s.audit audit ∧
        (appendAudit record).exec s =
          (.ok (), { s with audit, nextAuditSequence := s.nextAuditSequence + 1 })) ∨
      (¬s.CanAudit record ∧ ∃ e s', (appendAudit record).exec s = (.error e, s')) := by
  obtain ⟨_, _, hcoherent⟩ := h.coherent
  have hhealthy : ¬s.auditHealthy = false := by simp [h.healthy]
  rw [exec_appendAudit, if_neg hhealthy]
  by_cases hlt : s.nextAuditSequence < u64Max
  · rcases AuditStore.append_cases hcoherent (hsequence ▸ Nat.le_of_lt hlt) with
      ⟨⟨htakes, hroom⟩, audit, hexec, hmore⟩ | ⟨hnot, _, audit, hexec⟩
    · rw [hexec]
      dsimp only
      rw [checkedAdd, if_pos (Nat.succ_le_of_lt hlt)]
      exact .inl ⟨⟨hlt, htakes, hroom⟩, audit, hmore, rfl⟩
    · rw [hexec]
      exact .inr ⟨fun hcan => hnot ⟨hcan.takes, hcan.room⟩, _, _, rfl⟩
  · refine .inr ⟨fun hcan => hlt hcan.next_lt, ?_⟩
    have hfull : checkedAdd s.nextAuditSequence 1 = none := if_neg hlt
    split
    · exact ⟨_, _, rfl⟩
    · rw [hfull]
      exact ⟨_, _, rfl⟩

/-! ### What the journal and the checkpoint take -/

def CanSave (s : DashboardService) (activities : Map ActivityId ActivityEvent) : Prop :=
  s.checkpoint = none ∨
    (activities.len ≤ 1000 ∧ s.pending.len ≤ 1000 ∧ Writable (s.payloadOf activities))

theorem digest_cases (payload : ActivityCheckpointPayload) :
    (payload.Serializes ∧ payload.digest = .ok (digestOf payload)) ∨
      (¬payload.Serializes ∧ ∃ e, payload.digest = .error e) := by
  rw [ActivityCheckpointPayload.digest, failIf_bind]
  by_cases hserializes : payload.Serializes
  · rw [if_neg (not_not_intro hserializes)]
    exact .inl ⟨hserializes, rfl⟩
  · rw [if_pos hserializes]
    exact .inr ⟨hserializes, _, rfl⟩

/-- **The checkpoint is written** exactly if what it holds is within its bounds. -/
theorem isOk_written_iff (h : s.Stores) (activities : Map ActivityId ActivityEvent) :
    (s.written activities).1 = .ok () ↔ s.CanSave activities := by
  cases hfile : s.checkpoint with
  | none =>
    rw [written_none hfile]
    exact iff_of_true rfl (.inl hfile)
  | some file =>
    obtain ⟨content, faults⟩ := file
    obtain rfl : faults = [] := h _ hfile
    have hsome : s.checkpoint ≠ none := by simp [hfile]
    constructor
    · intro hok
      rw [written, persistState, exec_bind_ok (exec_get s), hfile] at hok
      simp only [exec_throwIf_bind, length_sortedActivities] at hok
      split at hok
      · cases hok
      rename_i hactivities
      split at hok
      · cases hok
      rename_i hlens
      rw [not_or] at hlens
      rcases digest_cases (s.payloadOf activities) with ⟨hserializes, hdigest⟩ | ⟨-, e, hdigest⟩
      · rw [hdigest, exec_bind_ok (exec_orThrow _ _ _), onCheckpoint, exec_onPart,
          writeActivityCheckpoint, exec_throwIf_bind] at hok
        split at hok
        · cases hok
        rename_i hsize
        exact .inr ⟨Nat.le_of_not_lt hactivities, Nat.le_of_not_lt hlens.1,
          Nat.le_of_not_lt hlens.2, hserializes, Nat.le_of_not_lt hsize⟩
      · rw [hdigest] at hok
        cases hok
    · rintro (hnone | ⟨hactivities, hpending, hwritable⟩)
      · exact absurd hnone hsome
      rcases digest_cases (s.payloadOf activities) with ⟨-, hdigest⟩ | ⟨hnot, -⟩
      · rw [written_of_fits hfile hactivities hpending hwritable.grants_le hdigest hwritable.size_le]
      · exact absurd hwritable.serializes hnot

def CanRecord (s : DashboardService) (event : ActivityEvent) (idempotencyKey : String) : Prop :=
  (∃ eventJson existing, EventJournal.checkEvent idempotencyKey event = .ok eventJson ∧
      s.events.idempotency.lookup idempotencyKey = some existing ∧
      existing.eventDigest = Sha256.digest eventJson) ∨
    (s.events.Accepts idempotencyKey event event.toJson.toVec ∧
      s.CanSave (s.activities.insert event.activityId event))

theorem recordActivity_cases (h : s.Stores) (event : ActivityEvent) (idempotencyKey : String) :
    (s.CanRecord event idempotencyKey ∧ ∃ events checkpoint,
        (recordActivity event idempotencyKey).exec s = (.ok (), { s with
          events
          activities := s.activities.insert event.activityId event
          checkpoint })) ∨
      (¬s.CanRecord event idempotencyKey ∧
        ∃ e s', (recordActivity event idempotencyKey).exec s = (.error e, s')) := by
  rw [exec_recordActivity, CanRecord, ← EventJournal.plan_eq_none_iff, ← EventJournal.plan_eq_some_iff,
    ← isOk_written_iff h]
  cases hplan : s.events.plan idempotencyKey event with
  | error => exact .inr ⟨by simp, _, _, rfl⟩
  | ok planned =>
    cases planned with
    | none => exact .inl ⟨.inl rfl, s.events, s.checkpoint, rfl⟩
    | some =>
      obtain rfl := EventJournal.eq_toVec_of_checkEvent (EventJournal.plan_eq_some_iff.1 hplan).checked
      rcases s.written (s.activities.insert event.activityId event) with ⟨outcome, checkpoint⟩
      cases outcome with
      | error => exact .inr ⟨by simp, _, _, rfl⟩
      | ok => exact .inl ⟨.inr ⟨rfl, rfl⟩, _, _, rfl⟩

/-! ### Refusals -/

def isAccepted : ActivityState → Bool
  | .awaitingApproval | .queued | .running | .reconnecting | .succeeded => true
  | .failed | .denied | .cancelled => false

def offlineRecord (s : DashboardService) (access : AccessRequest) (nowMs : ℕ) : RawAuditRecord :=
  { sequence := s.nextAuditSequence
    occurredAtMs := nowMs
    activityId := some access.activityId
    principalId := access.principalId
    sourceHostId := access.sourceHostId
    targetHostId := access.targetHostId
    deviceId := access.deviceId
    operation := access.operation
    resources := access.resources
    decision := .deny
    result := .failed
    message := some MessageCode.targetOffline.asStr }

def offlineEvent (s : DashboardService) (access : AccessRequest) (nowMs : ℕ) : ActivityEvent :=
  accessEvent access (s.nextSequence access.activityId) nowMs ⟨.deny, none, none⟩ .failed
    (some ⟨.targetOffline, []⟩) (some nowMs) (some nowMs)

def offlineKey (access : AccessRequest) : String :=
  "target-offline-preapproval:" ++ access.activityId.text

structure Recordable (s : DashboardService) (access : AccessRequest) (nowMs : ℕ) : Prop where
  audited : s.CanAudit (s.offlineRecord access nowMs)
  recorded : CanRecord { s with nextAuditSequence := s.nextAuditSequence + 1 }
    (s.offlineEvent access nowMs) (offlineKey access)

/-- The refusal of an access can be recorded, and its identifier is not in use. -/
structure Refusable (s : DashboardService) (access : AccessRequest) (nowMs : ℕ) : Prop
    extends Recordable s access nowMs where
  unused : ∀ event ∈ s.activities.lookup access.activityId, isAccepted event.state = false

/-- **A refusal that can be recorded** becomes the current record of its identifier. -/
theorem recordPreapprovalTargetOffline_cases (h : s.Works) (access : AccessRequest) (nowMs : ℕ) :
    (s.Recordable access nowMs ∧ ∃ audit events checkpoint,
        AuditStore.OneRecordMore s.audit audit ∧
        (recordPreapprovalTargetOffline access nowMs).exec s = (.ok (), { s with
          audit
          nextAuditSequence := s.nextAuditSequence + 1
          events
          activities := s.activities.insert access.activityId (s.offlineEvent access nowMs)
          checkpoint })) ∨
      (¬s.Recordable access nowMs ∧
        ∃ e s', (recordPreapprovalTargetOffline access nowMs).exec s = (.error e, s')) := by
  have haudits : (auditAccessWithMessage access .deny .failed (some .targetOffline) nowMs).exec s
      = (appendAudit (s.offlineRecord access nowMs)).exec s := exec_bind_of (exec_get s) rfl
  rcases appendAudit_cases h (rfl : (s.offlineRecord access nowMs).sequence = _) with
    ⟨haudited, audit, hmore, hexec⟩ | ⟨hnot, e, s', hexec⟩
  · have hrecords := recordActivity_cases (s := { s with
      audit
      nextAuditSequence := s.nextAuditSequence + 1 }) h.stores (s.offlineEvent access nowMs)
      (offlineKey access)
    rw [recordPreapprovalTargetOffline, exec_bind_ok (haudits.trans hexec), exec_bind_ok (exec_get _)]
    rcases hrecords with ⟨hrecorded, events, checkpoint, hexec'⟩ | ⟨hnot, e, s', hexec'⟩
    · exact .inl ⟨⟨haudited, hrecorded⟩, audit, events, checkpoint, hmore, hexec'⟩
    · exact .inr ⟨fun hrecordable => hnot hrecordable.recorded, e, s', hexec'⟩
  · rw [recordPreapprovalTargetOffline, exec_bind_error (haudits.trans hexec)]
    exact .inr ⟨fun hrecordable => hnot hrecordable.audited, e, s', rfl⟩

end DashboardService

end Dashboard

namespace Daemon

open Dashboard Effect

namespace DaemonState

variable [Sha256]

variable {d : DaemonState} {c : Circumstances} {session : AuthenticatedTargetSession}
  {access : AccessRequest} {request : LocalRequest}

/-- The registry says, by way of the daemon's connection, that the target of an access is there. -/
def SeesOnline (d : DaemonState) (c : Circumstances) (access : AccessRequest) : Prop :=
  d.remoteExecution.isSome = true ∧ d.hasRemoteExecutionBoundary = true
    ∧ isOnline c.listed access = true

/-- A request passes the checks of its identity, and asks for a target that is not online. -/
inductive AsksOffline (d : DaemonState) (session : AuthenticatedTargetSession) (c : Circumstances)
    (access : AccessRequest) : LocalRequest → Prop
  | requested (lifetimeMs : ℕ) (hremote : requiresRemoteTarget access = true)
      (hidentity : d.remoteExecution.isSome = true ∧ c.hasMeshIdentity = true →
        access.sourceHostId = d.dashboard.localHostId)
      (hoffline : ¬d.SeesOnline c access) :
      AsksOffline d session c access (.requestApproval access lifetimeMs)
  | vouched (lifetimeMs : ℕ) (hconfig : d.remoteExecution.isSome = true)
      (hvouched : c.vouchedFor = some access) (hsession : session.localHostId = d.dashboard.localHostId)
      (hoffline : ¬d.SeesOnline c access) :
      AsksOffline d session c access (.requestAuthenticatedApproval lifetimeMs)

/-- Nothing but the refusal comes of a request: one audit record, no approval, and no change to an activity
that has been accepted. -/
structure RefusesOnly (d : DaemonState)
    (result : Except (Fault LocalProtocolError) LocalResponse × DaemonState) : Prop where
  answer : result.1 = .error (.returned .targetOffline)
  audited : AuditStore.OneRecordMore d.dashboard.audit result.2.dashboard.audit
  pending : result.2.dashboard.pending = d.dashboard.pending
  policy : result.2.dashboard.policy = d.dashboard.policy
  accepted : ∀ id event, d.dashboard.activities.lookup id = some event →
    DashboardService.isAccepted event.state = true →
      result.2.dashboard.activities.lookup id = some event

/-- **Every request for a target that is not online is refused in one way.** -/
theorem AsksOffline.exec_handleAuthorized (h : d.AsksOffline session c access request) :
    (handleAuthorized request c session).exec d = (refuseOffline access c.nowMs).exec d := by
  cases h with
  | requested lifetimeMs hremote hidentity hoffline =>
    change (requestApproval access lifetimeMs c session).exec d = _
    rw [requestApproval, exec_bind_ok (exec_get d), exec_throwIf_bind, if_neg, exec_ite,
      if_pos ⟨hremote, hoffline⟩]
    rintro ⟨-, hmesh, hhost⟩
    exact hhost (hidentity hmesh)
  | vouched lifetimeMs hconfig hvouched hsession hoffline =>
    change (requestAuthenticatedApproval lifetimeMs c session).exec d = _
    rw [requestAuthenticatedApproval, exec_bind_ok (exec_get d), exec_throwIf_bind,
      if_neg (by simp [hconfig]), hvouched, exec_okOr_some_bind, exec_throwIf_bind,
      if_neg (not_not_intro hsession), exec_ite, if_neg]
    exact fun honline => hoffline ⟨hconfig, honline⟩

omit [Sha256] in
theorem mapDashboardFault_ne_targetOffline (fault : Fault DashboardServiceError) :
    mapDashboardFault fault ≠ .returned .targetOffline := by
  cases fault with
  | panicked => simp [mapDashboardFault]
  | returned error => cases error <;> simp [mapDashboardFault, mapDashboardError]

/-- **Nothing else comes of a refusal** exactly if it can be recorded, and its identifier is not in
use. -/
theorem refuses_iff (hworks : d.dashboard.Works) (access : AccessRequest) (nowMs : ℕ) :
    d.RefusesOnly ((refuseOffline access nowMs).exec d) ↔ d.dashboard.Refusable access nowMs := by
  rcases DashboardService.recordPreapprovalTargetOffline_cases hworks access nowMs with
    ⟨hrecordable, _, _, _, hmore, hexec⟩ | ⟨hnot, e, s', hexec⟩
  · rw [refuseOffline, exec_bind_ok (exec_onDashboard_ok hexec)]
    constructor
    · intro hrefuses
      refine ⟨hrecordable, fun event hevent => ?_⟩
      by_contra haccepted
      -- The refusal has taken the place of the record, and is not an accepted activity.
      have hkept := hrefuses.accepted _ _ hevent (Bool.eq_true_of_not_eq_false haccepted)
      obtain rfl := Option.some.inj ((Map.lookup_insert_self _ _ _).symm.trans hkept)
      exact haccepted rfl
    · intro hrefusable
      refine ⟨rfl, hmore, rfl, rfl, fun id event hevent haccepted => ?_⟩
      have hne : id ≠ access.activityId := by
        rintro rfl
        rw [hrefusable.unused event hevent] at haccepted
        cases haccepted
      exact (Map.lookup_insert_ne hne _).trans hevent
  · have hfailed : (refuseOffline access nowMs).exec d
        = (.error (mapDashboardFault e), { d with dashboard := s' }) :=
      exec_bind_error (by rw [exec_onDashboard, hexec]; rfl)
    rw [hfailed]
    constructor
    · intro hrefuses
      exact absurd (Except.error.inj hrefuses.answer) (mapDashboardFault_ne_targetOffline e)
    · intro hrefusable
      exact absurd hrefusable.toRecordable hnot

end DaemonState

namespace System

open DashboardService

variable [Sha256]

/-- **In every run, nothing but the refusal comes of a request for a target that is not online** exactly if
the refusal can be recorded and its identifier is not in use. -/
theorem refusesOnly_iff_of_run {start : System} (inputs : List Input) {c : Circumstances}
    {session : AuthenticatedTargetSession} {access : AccessRequest} {request : LocalRequest}
    (hworks : (run inputs start).daemon.dashboard.Works)
    (hoffline : (run inputs start).daemon.AsksOffline session c access request) :
    (run inputs start).daemon.RefusesOnly
        ((DaemonState.handleAuthorized request c session).exec (run inputs start).daemon) ↔
      (run inputs start).daemon.dashboard.Refusable access c.nowMs := by
  rw [hoffline.exec_handleAuthorized]
  exact DaemonState.refuses_iff hworks access c.nowMs

/-! ### An activity whose identifier comes back -/

/-- Nothing but the refusal comes of any request for a target that is not online. -/
def AlwaysRefusesOnly : Prop :=
  ∀ start inputs c session access request, Fresh start →
    (run inputs start).daemon.dashboard.Works →
    (run inputs start).daemon.AsksOffline session c access request →
    (run inputs start).daemon.RefusesOnly
      ((DaemonState.handleAuthorized request c session).exec (run inputs start).daemon)

omit [Sha256] in
def unlisted : Circumstances := { sampleCircumstances with listed := .error .registryDisconnected }

theorem asksOffline_unlisted (d : DaemonState) (session : AuthenticatedTargetSession) (id : ActivityId) :
    d.AsksOffline session unlisted (sampleAccess id) (.requestApproval (sampleAccess id) 1000) :=
  .requested 1000 rfl (fun hmesh => Bool.noConfusion hmesh.2) fun honline => Bool.noConfusion honline.2.2

theorem works_of_calm {s : DashboardService} {count : ℕ} (h : s.Calm count) : s.Works where
  healthy := h.auditHealthy
  coherent := by
    obtain ⟨_, hcoherent, -⟩ := h.audit.coherent
    exact ⟨_, _, hcoherent⟩
  stores file hfile := by
    rw [h.checkpoint] at hfile
    cases hfile

omit [Sha256] in
/-- The record of an activity that waits to be executed is replaced. -/
theorem not_alwaysRefusesOnly : ¬∃ _ : Sha256, AlwaysRefusesOnly := by
  rintro ⟨_, hrefuses⟩
  obtain ⟨audit, audit', hrun, hcalm⟩ := run_sampleApproval ⟨"phone", idText_phone⟩
  have hworks : (run (sampleApproval ⟨"phone", idText_phone⟩) sampleSystem).daemon.dashboard.Works := by
    rw [hrun]
    exact works_of_calm hcalm
  have hoffline := asksOffline_unlisted
    (run (sampleApproval ⟨"phone", idText_phone⟩) sampleSystem).daemon sampleSystem.daemon.session
    ⟨"phone", idText_phone⟩
  have honly := hrefuses _ _ _ _ _ _ fresh_sampleSystem hworks hoffline
  rw [hoffline.exec_handleAuthorized, DaemonState.refuses_iff hworks] at honly
  have hunused := honly.unused (sampleEvent ⟨"phone", idText_phone⟩ audit) (by
    rw [hrun]
    exact Map.lookup_insert_self _ _ _)
  cases hunused

theorem recordable_managedService (id : ActivityId) (hsize : id.text.utf8ByteSize ≤ 200) :
    managedService.Recordable (sampleAccess id) 0 := by
  have hnum : (managedService.offlineEvent (sampleAccess id) 0).InU64 :=
    { sequence_le := (by decide : 1 ≤ u64Max)
      occurredAtMs_le := Nat.zero_le _
      metrics := ⟨trivial, trivial, trivial, trivial⟩
      startedAtMs_le := fun t ht => by cases ht; exact Nat.zero_le _
      finishedAtMs_le := fun t ht => by cases ht; exact Nat.zero_le _
      digest_le := DashboardService.digest_le_of_request (validate_sampleAccess id) }
  have hvalid : (managedService.offlineEvent (sampleAccess id) 0).validate = .ok () := by
    rw [ActivityEvent.validate]
    change (validateUniqueResources (sampleAccess id).resources >>= fun _ => _) = _
    rw [validateUniqueResources_of_request (validate_sampleAccess id)]
    rfl
  have hmessage : ∀ m ∈ (managedService.offlineEvent (sampleAccess id) 0).message,
      m.validate = .ok () := by
    intro m hm
    cases hm
    rfl
  have hblank : trim (DashboardService.offlineKey (sampleAccess id)) ≠ "" :=
    @EventJournal.trim_append_ne_empty _ _ 't' (by decide) (by decide)
  have hkey : ("target-offline-preapproval:" ++ id.text).utf8ByteSize ≤ 256 := by
    have hstart : "target-offline-preapproval:".utf8ByteSize = 27 := by decide
    rw [String.utf8ByteSize_append, hstart]
    omega
  have hlength := ActivityEvent.length_toJson_le hnum hvalid hmessage
  have hworks := works_of_calm calm_managedService
  have hresources := validateUniqueResources_of_request (validate_sampleAccess id)
  obtain ⟨_, haudited, hcalm⟩ := calm_managedService.appendAudit (by decide)
    (rfl : (managedService.offlineRecord (sampleAccess id) 0).sequence = _) (by decide : 0 < dayMs)
    hresources
  have hrecorded := hcalm.recordActivity (by decide)
    (EventJournal.checkEvent_eq_ok hvalid hmessage hblank hkey) (by omega) rfl
    (by decide : (1 : ℕ) ≠ u64Max) rfl
  constructor
  · rcases appendAudit_cases hworks
      (rfl : (managedService.offlineRecord (sampleAccess id) 0).sequence = _) with
      ⟨haudits, -⟩ | ⟨-, e, s', hfailed⟩
    · exact haudits
    · rw [haudited] at hfailed
      cases hfailed
  · rcases recordActivity_cases (works_of_calm hcalm).stores
      (managedService.offlineEvent (sampleAccess id) 0) (offlineKey (sampleAccess id)) with
      ⟨hrecords, -⟩ | ⟨-, e, s', hfailed⟩
    · exact hrecords
    · rw [hrecorded.1] at hfailed
      cases hfailed

omit [Sha256] in
/-- The refusal of an identifier that is new. -/
theorem unlisted_refusesOnly : letI := EventJournal.eventHash
    sampleSystem.daemon.RefusesOnly
      ((DaemonState.handleAuthorized
        (.requestApproval (sampleAccess ⟨"phone", idText_phone⟩) 1000) unlisted
        sampleSystem.daemon.session).exec sampleSystem.daemon) := by
  let _ := EventJournal.eventHash
  refine (@refusesOnly_iff_of_run _ sampleSystem [] _ _ _ _ (works_of_calm calm_managedService)
    (asksOffline_unlisted _ _ _)).2 ⟨recordable_managedService _ (by decide), fun event hevent => ?_⟩
  exact absurd hevent (Option.not_mem_none _)

end System

end Daemon
