/-
**The dashboard service.**

The service ties the journal, the audit store and the policy engine together. It keeps the current
record of every activity, the approvals it waits for and the grants that approvals have given, writes
all of it to its checkpoint before an event is published, and numbers its audit records itself.

Main definitions:

* `Dashboard.DashboardService` — the state of the service, and `Dashboard.DashboardService.new`.
-/

import DeviceLane.Dashboard.AuditStore
import DeviceLane.Dashboard.Checkpoint
import DeviceLane.Dashboard.EventLog

namespace Dashboard

open Effect

inductive ExistingJobs
  | finish
  | cancel
  deriving DecidableEq, Repr

/-- The order in which a hash map is gone through, which may be any. -/
structure HashOrder (α : Type) where
  order : List α → List α
  perm : ∀ l, (order l).Perm l

/-- The service. Its view of the network topology is left out. -/
structure DashboardService where
  localHostId : HostId
  events : EventJournal
  audit : AuditState
  policy : PolicyEngine
  pending : Map ApprovalId Pending
  adminGrants : Map String AdminGrant
  activities : Map ActivityId ActivityEvent
  paused : Bool
  nextAuditSequence : ℕ
  auditHealthy : Bool
  checkpoint : Option CheckpointFile
  deriving DecidableEq

abbrev ServiceEff (α : Type) : Type := Eff DashboardService (Fault DashboardServiceError) α

def mapAuditError : AuditError → DashboardServiceError
  | .cursorAhead => .cursorAhead
  | .limitExceeded | .frameTooLarge => .limitExceeded
  | _ => .auditUnavailable

def mapApprovalError : ApprovalError → DashboardServiceError
  | .expired => .approvalExpired
  | .ruleLimitExceeded | .approvalLimitExceeded => .limitExceeded
  | _ => .permissionDenied

def mapAppendError :
    AppendTransactionError (Fault DashboardServiceError) → Fault DashboardServiceError
  | .append _ => .returned .limitExceeded
  | .precommit fault => fault

def observerUnavailable : SafeCode := ⟨"observer_unavailable", by decide⟩

def unavailableMetrics : MetricSnapshot :=
  ⟨.unavailable observerUnavailable, .unavailable observerUnavailable,
    .unavailable observerUnavailable, .unavailable observerUnavailable⟩

def ActivityState.isTerminal : ActivityState → Bool
  | .succeeded | .failed | .denied | .cancelled => true
  | .awaitingApproval | .queued | .running | .reconnecting => false

theorem idText_localUser : IdText "local-user" := by decide

def localUser : PrincipalId := ⟨"local-user", idText_localUser⟩

def parseId {kind : IdKind} (value : String) :
    Except (Fault DashboardServiceError) (ValidatedId kind) :=
  (ValidatedId.parse value).mapError fun _ => .returned .invalidRequest

def AdminGrant.covers (grant : AdminGrant) (request : AccessRequest)
    (mutationDigest : Option String) : Bool :=
  grant.access.operation = request.operation
    && grant.access.resources = request.resources
    && grant.access.sourceHostId = request.sourceHostId
    && grant.access.targetHostId = request.targetHostId
    && grant.adminMutationDigest = mutationDigest

namespace DashboardService

/-- A service without a checkpoint. -/
def new (localHostId : HostId) (events : EventJournal) (audit : AuditState) (policy : PolicyEngine) :
    DashboardService :=
  { localHostId
    events
    audit
    policy
    pending := ∅
    adminGrants := ∅
    activities := ∅
    paused := false
    nextAuditSequence := saturatingAdd audit.store.lastSequence 1
    auditHealthy := true
    checkpoint := none }

/-! ### The checkpoint -/

def sortedActivities (activities : Map ActivityId ActivityEvent) : List ActivityEvent :=
  activities.values.mergeSort fun left right => left.activityId.text ≤ right.activityId.text

def payloadOf (s : DashboardService) (activities : Map ActivityId ActivityEvent) :
    ActivityCheckpointPayload :=
  { version := 2
    auditSequence := s.nextAuditSequence - 1
    activities := sortedActivities activities
    pending := s.pending
    adminGrants := s.adminGrants
    policy := s.policy
    paused := s.paused }

def onCheckpoint (file : CheckpointFile) (m : Eff CheckpointFile AuditError Unit) :
    ServiceEff Unit :=
  onPart (fun _ => file) (fun file s => { s with checkpoint := some file })
    (fun _ => .returned .auditUnavailable) m

variable [Sha256]

/-- Writes the checkpoint, if there is one. All callers pass the parts of the service itself, but for
the activities, among which there may be an event that is about to be published. -/
def persistState (activities : Map ActivityId ActivityEvent) : ServiceEff Unit := do
  let s ← get
  match s.checkpoint with
  | none => pure ()
  | some file => do
      throwIf ((sortedActivities activities).length > 1000) (.returned .limitExceeded)
      throwIf (s.pending.len > 1000 ∨ s.adminGrants.len > 1000) (.returned .limitExceeded)
      let payload := s.payloadOf activities
      let digest ← orThrow .returned payload.digest
      onCheckpoint file (writeActivityCheckpoint ⟨payload, digest⟩)

/-! ### Activities -/

def onEvents (m : Eff (EventJournal × DashboardService)
    (AppendTransactionError (Fault DashboardServiceError)) AppendOutcome) :
    ServiceEff AppendOutcome :=
  onPart (fun s => (s.events, s)) (fun p _ => { p.2 with events := p.1 }) mapAppendError m

/-- Publishes an event once the checkpoint has been written, and makes it the current record of its
activity. An event that collapses with an earlier one is neither written nor published, but it
becomes the current record all the same. -/
def recordActivity (event : ActivityEvent) (idempotencyKey : String) : ServiceEff Unit := do
  let s ← get
  let next := s.activities.insert event.activityId event
  let _ ← onEvents (EventJournal.appendWithPrecommit idempotencyKey event (persistState next))
  modify fun s => { s with activities := next }

/-- The number of an event that follows the current record of an activity. -/
def nextSequence (s : DashboardService) (id : ActivityId) : ℕ :=
  match s.activities.lookup id with
  | none => 1
  | some event => saturatingAdd event.sequence 1

def accessEvent (access : AccessRequest) (sequence nowMs : ℕ) (authorization : Authorization)
    (state : ActivityState) (message : Option DisplayMessage) (startedAtMs finishedAtMs : Option ℕ) :
    ActivityEvent :=
  { activityId := access.activityId
    sequence
    occurredAtMs := nowMs
    principalId := access.principalId
    sourceHostId := access.sourceHostId
    targetHostId := access.targetHostId
    deviceId := access.deviceId
    operation := access.operation
    resources := access.resources
    remoteOperationSha256 := access.remoteOperation.map RemoteOperationGrant.canonicalSha256
    authorization
    state
    message
    metrics := unavailableMetrics
    startedAtMs
    finishedAtMs }

def localEvent (host : HostId) (activityId : ActivityId) (operation : OperationId) (nowMs : ℕ) :
    ActivityEvent :=
  { activityId
    sequence := 1
    occurredAtMs := nowMs
    principalId := localUser
    sourceHostId := host
    targetHostId := host
    deviceId := none
    operation
    resources := []
    remoteOperationSha256 := none
    authorization := ⟨.allow, none, none⟩
    state := .succeeded
    message := none
    metrics := unavailableMetrics
    startedAtMs := some nowMs
    finishedAtMs := some nowMs }

def appendLocalEvent (operation : OperationId) (nowMs : ℕ) : ServiceEff Unit := do
  let s ← get
  let activityId ← orThrow id
    (parseId ("admin-" ++ Nat.repr (s.nextAuditSequence - 1) ++ "-" ++ operation.text))
  recordActivity (localEvent s.localHostId activityId operation nowMs)
    ("local-mutation:" ++ activityId.text ++ ":" ++ operation.text)

/-! ### Audit records -/

def onAudit {α : Type} (m : Eff AuditState AuditError α) : ServiceEff α :=
  onPart DashboardService.audit (fun audit s => { s with audit })
    (fun error => .returned (mapAuditError error)) m

def appendAudit (record : RawAuditRecord) : ServiceEff Unit := do
  let s ← get
  throwIf (s.auditHealthy = false) (.returned .auditUnavailable)
  match ← attempt (onAudit (AuditStore.append record)) with
  | .error fault => do
      modify fun s => { s with auditHealthy := false }
      throw fault
  | .ok _ => do
      let next ← okOr (checkedAdd s.nextAuditSequence 1) (.returned .auditUnavailable)
      modify fun s => { s with nextAuditSequence := next }

def auditAccessWithMessage (access : AccessRequest) (effect : PolicyEffect) (result : AuditResult)
    (message : Option MessageCode) (nowMs : ℕ) : ServiceEff Unit := do
  let s ← get
  appendAudit
    { sequence := s.nextAuditSequence
      occurredAtMs := nowMs
      activityId := some access.activityId
      principalId := access.principalId
      sourceHostId := access.sourceHostId
      targetHostId := access.targetHostId
      deviceId := access.deviceId
      operation := access.operation
      resources := access.resources
      decision := effect
      result
      message := message.map MessageCode.asStr }

def auditAccess (access : AccessRequest) (effect : PolicyEffect) (result : AuditResult)
    (nowMs : ℕ) : ServiceEff Unit :=
  auditAccessWithMessage access effect result none nowMs

def auditAccessFromEventWithMessage (event : ActivityEvent) (result : AuditResult)
    (message : Option MessageCode) (nowMs : ℕ) : ServiceEff Unit := do
  let s ← get
  appendAudit
    { sequence := s.nextAuditSequence
      occurredAtMs := nowMs
      activityId := some event.activityId
      principalId := event.principalId
      sourceHostId := event.sourceHostId
      targetHostId := event.targetHostId
      deviceId := event.deviceId
      operation := event.operation
      resources := event.resources
      decision := event.authorization.effect
      result
      message := message.map MessageCode.asStr }

def auditAccessFromEvent (event : ActivityEvent) (result : AuditResult) (nowMs : ℕ) :
    ServiceEff Unit :=
  auditAccessFromEventWithMessage event result none nowMs

def auditLocal (operation : OperationId) (result : AuditResult) (nowMs : ℕ) : ServiceEff Unit := do
  let s ← get
  appendAudit
    { sequence := s.nextAuditSequence
      occurredAtMs := nowMs
      activityId := none
      principalId := localUser
      sourceHostId := s.localHostId
      targetHostId := s.localHostId
      deviceId := none
      operation
      resources := []
      decision := .allow
      result
      message := none }

/-! ### Grants -/

def adminRequest (host : HostId) (activityId : ActivityId) (operation : OperationId)
    (resource : ResourceClass) : AccessRequest :=
  { activityId
    principalId := localUser
    sourceHostId := host
    targetHostId := host
    deviceId := none
    operation
    resources := [resource]
    remoteOperation := none
    physicalDevice := false
    userPresent := true }

/-- The first of the entries of a map, in the order of the keys, that satisfies a test. -/
def findKey {α β : Type} (rank : α → String) (p : β → Bool) (m : Map α β) : Option (α × β) :=
  (m.inOrder rank).find? fun entry => p entry.2

/-- The last part of the authorization: a grant is spent, unless that cannot be written. -/
def spendGrant (request : AccessRequest) (mutationDigest : Option String) (nowMs : ℕ) :
    ServiceEff Unit := do
  modify fun s =>
    { s with adminGrants := s.adminGrants.retain fun _ grant => grant.expiresAtMs > nowMs }
  let s ← get
  let (nonce, grant) ← okOr
    (findKey id (fun grant => AdminGrant.covers grant request mutationDigest) s.adminGrants)
    (.returned .permissionDenied)
  modify fun s => { s with adminGrants := s.adminGrants.erase nonce }
  match ← attempt (persistState s.activities) with
  | .ok _ => pure ()
  | .error fault => do
      modify fun s => { s with adminGrants := s.adminGrants.insert nonce grant }
      throw fault

def authorizeAdmin (operation : OperationId) (resource : ResourceClass)
    (mutationDigest : Option String) (nowMs : ℕ) : ServiceEff Unit := do
  let s ← get
  let activityId ← orThrow id (parseId ("admin-auth-" ++ Nat.repr s.nextAuditSequence))
  let request := adminRequest s.localHostId activityId operation resource
  match s.policy.evaluate request nowMs with
  | .ok (.denied _) => do
      auditAccess request .deny .denied nowMs
      throw (.returned .permissionDenied)
  | .ok (.allowed ruleId) =>
    if s.policy.isVerifiedManagedRule ruleId then pure ()
    else spendGrant request mutationDigest nowMs
  | .ok (.approvalRequired _) => spendGrant request mutationDigest nowMs
  | .error _ => throw (.returned .invalidRequest)

end DashboardService

end Dashboard
