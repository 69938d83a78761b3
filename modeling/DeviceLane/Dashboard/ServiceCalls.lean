/-
**The calls of the dashboard service.**

Approvals are requested and decided, activities observed and cancelled, the policy and the audit store
changed, and remote access paused and resumed. A call whose event cannot be published takes back what
it has changed in memory.

Main definitions:

* `putPolicyRuleExact`, `deletePolicyRuleIfRevision`, `deleteAuditExact`, `applyConnectionChange`,
  `pause` and `resume`.
-/

import DeviceLane.Dashboard.Service

namespace Dashboard

open Effect

/-! ### Operations of the local user -/

theorem idText_servicePause : IdText "devicelane.service.pause" := by decide

theorem idText_serviceResume : IdText "devicelane.service.resume" := by decide

theorem idText_activityCancel : IdText "devicelane.activity.cancel" := by decide

theorem idText_localPolicyPut : IdText "policy-put" := by decide

theorem idText_localPolicyDelete : IdText "policy-delete" := by decide

theorem idText_localPause : IdText "remote-access-pause" := by decide

theorem idText_localResume : IdText "remote-access-resume" := by decide

theorem idText_localConnectionSet : IdText "connection-set" := by decide

theorem codeText_targetConfirmation : CodeText "target_confirmation" := by decide

def policyPut : OperationId := ⟨"policy-put", idText_localPolicyPut⟩

def policyDelete : OperationId := ⟨"policy-delete", idText_localPolicyDelete⟩

def remoteAccessPause : OperationId := ⟨"remote-access-pause", idText_localPause⟩

def remoteAccessResume : OperationId := ⟨"remote-access-resume", idText_localResume⟩

def connectionSet : OperationId := ⟨"connection-set", idText_localConnectionSet⟩

def isLocalResume (host : HostId) (access : AccessRequest) : Bool :=
  access.sourceHostId = host && access.targetHostId = host
    && access.operation.text = "devicelane.service.resume"
    && access.resources = [.deviceLaneService]

def ApprovalDecision.effect : ApprovalDecision → PolicyEffect
  | .allowOnce | .allowAndRemember => .allow
  | .denyOnce | .denyAndBlock => .deny

def ActivityState.debugName : ActivityState → String
  | .awaitingApproval => "AwaitingApproval"
  | .queued => "Queued"
  | .running => "Running"
  | .reconnecting => "Reconnecting"
  | .succeeded => "Succeeded"
  | .failed => "Failed"
  | .denied => "Denied"
  | .cancelled => "Cancelled"

/-- The identifier of the approval with a nonce. The code panics where the nonce is too short. -/
def approvalIdOf (nonce : String) : Except (Fault DashboardServiceError) ApprovalId :=
  match takeBytes 16 nonce.toList with
  | none => .error .panicked
  | some start => parseId ("approval-" ++ String.ofList start)

def pendingFor (id : ApprovalId) (challenge : ApprovalChallenge) (access : AccessRequest)
    (nowMs : ℕ) : Pending :=
  { nonce := challenge.nonce
    request :=
      { id
        activityId := access.activityId
        principalId := access.principalId
        sourceHostId := access.sourceHostId
        targetHostId := access.targetHostId
        deviceId := access.deviceId
        operation := access.operation
        resources := access.resources
        remoteOperationSha256 := access.remoteOperation.map RemoteOperationGrant.canonicalSha256
        requestedAtMs := nowMs
        expiresAtMs := challenge.expiresAtMs
        risk := ⟨"target_confirmation", codeText_targetConfirmation⟩ }
    access
    adminMutationDigest := none }

/-- An allowed request of the local user for one of the service's own resources. -/
def isAdministrative (host : HostId) (access : AccessRequest) (effect : PolicyEffect) : Bool :=
  effect = .allow && access.sourceHostId = host && access.targetHostId = host
    && access.resources.length = 1
    && access.resources.all fun resource =>
      resource = .deviceLanePolicy || resource = .deviceLaneService

def validTransition : ActivityState → ActivityState → Bool
  | .queued, .running => true
  | .awaitingApproval, .failed => true
  | .queued, .reconnecting => true
  | .running, .reconnecting => true
  | .running, .succeeded => true
  | .running, .failed => true
  | .reconnecting, .running => true
  | .reconnecting, .succeeded => true
  | .reconnecting, .failed => true
  | _, _ => false

def ActivityState.auditResult : ActivityState → Option AuditResult
  | .succeeded => some .succeeded
  | .failed => some .failed
  | _ => none

namespace ActivityEvent

def observed (current : ActivityEvent) (sequence : ℕ) (state : ActivityState)
    (metrics : MetricSnapshot) (message : Option DisplayMessage) (nowMs : ℕ) : ActivityEvent :=
  { current with
    sequence
    occurredAtMs := nowMs
    state
    metrics
    message
    startedAtMs := some (current.startedAtMs.getD nowMs)
    finishedAtMs := if state = .running ∨ state = .reconnecting then none else some nowMs }

def failedWith (current : ActivityEvent) (code : MessageCode) (nowMs : ℕ) : ActivityEvent :=
  { current with
    sequence := saturatingAdd current.sequence 1
    occurredAtMs := nowMs
    state := .failed
    message := some ⟨code, []⟩
    startedAtMs := some (current.startedAtMs.getD nowMs)
    finishedAtMs := some nowMs }

/-- What follows a record when its activity is cancelled. -/
def cancelled (current : ActivityEvent) (nowMs : ℕ) : ActivityEvent :=
  { current with
    sequence := saturatingAdd current.sequence 1
    occurredAtMs := nowMs
    state := .cancelled
    message := some ⟨.operationCancelled, []⟩
    finishedAtMs := some nowMs }

end ActivityEvent

namespace DashboardService

variable [Sha256]

/-! ### Requesting approvals -/

def recordPreapprovalTargetOffline (access : AccessRequest) (nowMs : ℕ) : ServiceEff Unit := do
  auditAccessWithMessage access .deny .failed (some .targetOffline) nowMs
  let s ← get
  recordActivity
    (accessEvent access (s.nextSequence access.activityId) nowMs ⟨.deny, none, none⟩ .failed
      (some ⟨.targetOffline, []⟩) (some nowMs) (some nowMs))
    ("target-offline-preapproval:" ++ access.activityId.text)

def recordDenied (access : AccessRequest) (nowMs : ℕ) : ServiceEff Unit := do
  auditAccessWithMessage access .deny .denied (some .policyDenied) nowMs
  let s ← get
  let sequence := s.nextSequence access.activityId
  recordActivity
    (accessEvent access sequence nowMs ⟨.deny, none, none⟩ .denied (some ⟨.policyDenied, []⟩) none
      (some nowMs))
    ("policy-denied:" ++ access.activityId.text ++ ":" ++ Nat.repr sequence)

def awaitApproval (access : AccessRequest) (challenge : ApprovalChallenge)
    (nextPolicy : PolicyEngine) (nowMs : ℕ) : ServiceEff ApprovalChallenge := do
  let id ← orThrow id (approvalIdOf challenge.nonce)
  let previous ← get
  modify fun s =>
    { s with
      policy := nextPolicy
      pending := s.pending.insert id (pendingFor id challenge access nowMs) }
  let published ← attempt <| recordActivity
    (accessEvent access (previous.nextSequence access.activityId) nowMs ⟨.allow, none, some id⟩
      .awaitingApproval none none none)
    ("approval-request:" ++ challenge.nonce)
  match published with
  | .ok _ => pure challenge
  | .error fault => do
      modify fun s => { s with policy := previous.policy, pending := s.pending.erase id }
      auditAccess access .allow .failed nowMs
      throw fault

def createPending (access : AccessRequest) (lifetimeMs nowMs : ℕ) (random : ℕ → Digest) :
    ServiceEff ApprovalChallenge := do
  auditAccess access .allow .attempted nowMs
  let s ← get
  match (PolicyEngine.createApproval access nowMs lifetimeMs random).exec s.policy with
  | (.error .panicked, _) => throw .panicked
  | (.error (.returned error), _) => do
      auditAccess access .allow .failed nowMs
      throw (.returned (mapApprovalError error))
  | (.ok challenge, nextPolicy) => awaitApproval access challenge nextPolicy nowMs

def requestApproval (access : AccessRequest) (lifetimeMs nowMs : ℕ) (random : ℕ → Digest) :
    ServiceEff ApprovalChallenge := do
  let s ← get
  throwIf ((s.paused = true ∧ isLocalResume s.localHostId access = false)
      ∨ access.targetHostId ≠ s.localHostId)
    (.returned .permissionDenied)
  match s.policy.evaluate access nowMs with
  | .error _ => throw (.returned .invalidRequest)
  | .ok (.denied _) => do
      recordDenied access nowMs
      throw (.returned .permissionDenied)
  | .ok (.allowed _) => createPending access lifetimeMs nowMs random
  | .ok (.approvalRequired _) => createPending access lifetimeMs nowMs random

def bindMutation (nonce digest : String) : ServiceEff Unit := do
  let s ← get
  let (id, pending) ← okOr
    (findKey ValidatedId.text (fun pending => Pending.nonce pending = nonce) s.pending)
    (.returned .invalidRequest)
  modify fun s =>
    { s with pending := s.pending.insert id { pending with adminMutationDigest := some digest } }
  match ← attempt (persistState s.activities) with
  | .ok _ => pure ()
  | .error fault => do
      modify fun s =>
        { s with pending := s.pending.insert id { pending with adminMutationDigest := none } }
      throw fault

def requestAdminMutationApproval (mutation : AdminMutation) (lifetimeMs nowMs : ℕ)
    (random : ℕ → Digest) : ServiceEff ApprovalChallenge := do
  let digest ← orThrow .returned mutation.digest
  let start ← okOr (takeBytes 16 digest.toList) .panicked
  let activityId ← orThrow id (parseId ("admin-" ++ String.ofList start))
  let s ← get
  let access := adminRequest s.localHostId activityId mutation.operationAndResource.1
    mutation.operationAndResource.2
  let created ← requestApproval access lifetimeMs nowMs random
  bindMutation created.nonce digest
  pure created

/-! ### Activities -/

def transitionActivity (id : ActivityId) (state : ActivityState) (metrics : MetricSnapshot)
    (message : Option DisplayMessage) (nowMs : ℕ) : ServiceEff Bool := do
  let s ← get
  let current ← okOr (s.activities.lookup id) (.returned .notFound)
  if current.state = state then
    pure false
  else do
    throwIf (validTransition current.state state = false) (.returned .invalidRequest)
    let sequence ← okOr (checkedAdd current.sequence 1) (.returned .limitExceeded)
    let next := current.observed sequence state metrics message nowMs
    throwIf (next.validate ≠ .ok ()) (.returned .invalidRequest)
    match state.auditResult with
    | none => pure ()
    | some result =>
      auditAccessFromEventWithMessage next result
        (if result = .failed then next.message.map DisplayMessage.code else none) nowMs
    recordActivity next
      ("observer:" ++ id.text ++ ":" ++ Nat.repr sequence ++ ":" ++ state.debugName)
    pure true

def recordAuditUnavailableTerminal (id : ActivityId) (metrics : MetricSnapshot) (nowMs : ℕ) :
    ServiceEff Bool := do
  let s ← get
  let current ← okOr (s.activities.lookup id) (.returned .notFound)
  if current.state.isTerminal then
    pure false
  else do
    modify fun s => { s with auditHealthy := false }
    recordActivity { current.failedWith .auditUnavailable nowMs with metrics }
      ("audit-unavailable:" ++ id.text ++ ":" ++ Nat.repr nowMs)
    pure true

def cancelActivityInner (id : ActivityId) (nowMs : ℕ) : ServiceEff Bool := do
  let s ← get
  match s.activities.lookup id with
  | none => pure false
  | some current =>
    if current.state.isTerminal then
      pure false
    else do
      auditAccessFromEvent current .attempted nowMs
      match ← attempt (recordActivity (current.cancelled nowMs) ("cancel:" ++ id.text)) with
      | .error fault => do
          auditAccessFromEvent current .failed nowMs
          throw fault
      | .ok _ => do
          auditAccessFromEventWithMessage current .cancelled (some .operationCancelled) nowMs
          pure true

def cancelActivity (id : ActivityId) (nowMs : ℕ) : ServiceEff Bool := do
  authorizeAdmin ⟨"devicelane.activity.cancel", idText_activityCancel⟩ .deviceLaneService none nowMs
  cancelActivityInner id nowMs

def reconcile (nowMs : ℕ) : List ActivityEvent → ServiceEff Unit
  | [] => pure ()
  | event :: events => do
      let event := event.failedWith .daemonRestarted nowMs
      auditAccessFromEventWithMessage event .failed (some .daemonRestarted) nowMs
      recordActivity event
        ("restart:" ++ event.activityId.text ++ ":" ++ Nat.repr event.sequence)
      reconcile nowMs events

def activeActivities (s : DashboardService) : List ActivityEvent :=
  s.activities.values.filter fun event => event.state = .queued || event.state = .running

def reconcileAfterRestart (hash : HashOrder ActivityEvent) (nowMs : ℕ) : ServiceEff ℕ := do
  let s ← get
  let active := hash.order s.activeActivities
  reconcile nowMs active
  pure active.length

/-! ### Deciding approvals -/

/-- The approval that a decision is about: it has the nonce, and was requested for just this access. -/
def decidedPending (s : DashboardService) (nonce : String) (access : AccessRequest) :
    Option (ApprovalId × Pending) :=
  findKey ValidatedId.text
    (fun pending => Pending.nonce pending = nonce && Pending.access pending = access) s.pending

def erasePending (entry : Option (ApprovalId × Pending)) (pending : Map ApprovalId Pending) :
    Map ApprovalId Pending :=
  match entry with
  | none => pending
  | some (id, _) => pending.erase id

/-- A decision that the engine refuses. One that comes too late fails the activity of the access. -/
def refuseDecision (entry : Option (ApprovalId × Pending)) (access : AccessRequest)
    (effect : PolicyEffect) (error : ApprovalError) (nowMs : ℕ) :
    ServiceEff (Option PolicyRule) := do
  if mapApprovalError error = .approvalExpired then do
    modify fun s => { s with pending := erasePending entry s.pending }
    let _ ← transitionActivity access.activityId .failed unavailableMetrics
      (some ⟨.approvalExpired, []⟩) nowMs
    throw (.returned (mapApprovalError error))
  else do
    auditAccess access effect .failed nowMs
    throw (.returned (mapApprovalError error))

def grantsAfter (s : DashboardService) (nonce : String) (entry : Option (ApprovalId × Pending))
    (access : AccessRequest) (effect : PolicyEffect) (nowMs : ℕ) : Map String AdminGrant :=
  if isAdministrative s.localHostId access effect then
    s.adminGrants.insert nonce
      ⟨access, saturatingAdd nowMs (5 * 60 * 1000), entry.bind fun e => e.2.adminMutationDigest⟩
  else
    s.adminGrants

def applyDecision (nonce : String) (entry : Option (ApprovalId × Pending)) (access : AccessRequest)
    (effect : PolicyEffect) (createdRule : Option PolicyRule) (nextPolicy : PolicyEngine)
    (nowMs : ℕ) : ServiceEff (Option PolicyRule) := do
  let previous ← get
  modify fun s =>
    { s with
      policy := nextPolicy
      pending := erasePending entry s.pending
      adminGrants := s.grantsAfter nonce entry access effect nowMs }
  let published ← attempt <| recordActivity
    (accessEvent access (previous.nextSequence access.activityId) nowMs
      ⟨effect, createdRule.map PolicyRule.id, entry.map Prod.fst⟩
      (if effect = .deny then .denied else .queued) none none
      (if effect = .deny then some nowMs else none))
    ("approval-decision:" ++ nonce)
  match published with
  | .ok _ => pure createdRule
  | .error fault => do
      modify fun s =>
        { s with
          policy := previous.policy
          adminGrants := previous.adminGrants
          pending := previous.pending }
      auditAccess access effect .failed nowMs
      throw fault

def decideUndenied (nonce : String) (session : AuthenticatedTargetSession) (access : AccessRequest)
    (decision : ApprovalDecision) (nowMs : ℕ) : ServiceEff (Option PolicyRule) := do
  let s ← get
  let entry := s.decidedPending nonce access
  auditAccess access decision.effect .attempted nowMs
  match (PolicyEngine.decide nonce session access decision nowMs).exec s.policy with
  | (.error .panicked, _) => throw .panicked
  | (.error (.returned error), _) => refuseDecision entry access decision.effect error nowMs
  | (.ok outcome, nextPolicy) =>
    applyDecision nonce entry access decision.effect outcome.createdRule nextPolicy nowMs

def decideApproval (nonce : String) (session : AuthenticatedTargetSession) (access : AccessRequest)
    (decision : ApprovalDecision) (nowMs : ℕ) : ServiceEff (Option PolicyRule) := do
  let s ← get
  throwIf (s.paused = true ∧ isLocalResume s.localHostId access = false)
    (.returned .permissionDenied)
  match s.policy.evaluate access nowMs with
  | .ok (.denied _) => do
      auditAccess access .deny .denied nowMs
      throw (.returned .permissionDenied)
  | .ok (.allowed _) => decideUndenied nonce session access decision nowMs
  | .ok (.approvalRequired _) => decideUndenied nonce session access decision nowMs
  | .error _ => decideUndenied nonce session access decision nowMs

def decidePendingApproval (approvalId : ApprovalId) (session : AuthenticatedTargetSession)
    (decision : ApprovalDecision) (nowMs : ℕ) : ServiceEff (Option PolicyRule) := do
  let s ← get
  let pending ← okOr (s.pending.lookup approvalId) (.returned .notFound)
  decideApproval pending.nonce session pending.access decision nowMs

/-! ### Administration -/

def changePolicy {α : Type} (operation : OperationId) (m : Eff PolicyEngine PolicyConfigurationError α)
    (nowMs : ℕ) : ServiceEff α := do
  auditLocal operation .attempted nowMs
  let previous ← get
  match m.exec previous.policy with
  | (.error _, _) => do
      auditLocal operation .failed nowMs
      throw (.returned .permissionDenied)
  | (.ok a, nextPolicy) => do
      modify fun s => { s with policy := nextPolicy }
      match ← attempt (appendLocalEvent operation nowMs) with
      | .ok _ => pure a
      | .error fault => do
          modify fun s => { s with policy := previous.policy }
          auditLocal operation .failed nowMs
          throw fault

def putPolicyRuleExact (rule : PolicyRule) (expectedRevision nowMs : ℕ) : ServiceEff Unit := do
  let mutation := AdminMutation.policyPut rule expectedRevision
  let digest ← orThrow .returned mutation.digest
  authorizeAdmin mutation.operationAndResource.1 .deviceLanePolicy (some digest) nowMs
  let s ← get
  match s.policy.rules.find? fun current => current.id = rule.id with
  | some current => throwIf (current.revision ≠ expectedRevision) (.returned .revisionConflict)
  | none => throwIf (expectedRevision ≠ 0) (.returned .revisionConflict)
  changePolicy policyPut (PolicyEngine.putUserRule rule) nowMs

def putPolicyRule (rule : PolicyRule) (nowMs : ℕ) : ServiceEff Unit :=
  putPolicyRuleExact rule (rule.revision - 1) nowMs

def deletePolicyRuleAuthorized (id : RuleId) (nowMs : ℕ) : ServiceEff Bool :=
  changePolicy policyDelete (PolicyEngine.deleteUserRule id) nowMs

def deletePolicyRule (id : RuleId) (nowMs : ℕ) : ServiceEff Bool := do
  let mutation := AdminMutation.policyDelete id 0
  let digest ← orThrow .returned mutation.digest
  authorizeAdmin mutation.operationAndResource.1 .deviceLanePolicy (some digest) nowMs
  deletePolicyRuleAuthorized id nowMs

def deletePolicyRuleExact (id : RuleId) (expectedRevision nowMs : ℕ) : ServiceEff Bool := do
  let mutation := AdminMutation.policyDelete id expectedRevision
  let digest ← orThrow .returned mutation.digest
  authorizeAdmin mutation.operationAndResource.1 .deviceLanePolicy (some digest) nowMs
  let s ← get
  let current ← okOr (s.policy.rules.find? fun rule => rule.id = id) (.returned .notFound)
  throwIf (current.revision ≠ expectedRevision) (.returned .revisionConflict)
  deletePolicyRuleAuthorized id nowMs

def deletePolicyRuleIfRevision (id : RuleId) (expectedRevision nowMs : ℕ) : ServiceEff Bool :=
  deletePolicyRuleExact id expectedRevision nowMs

def deleteAuditExact (scope : AuditDeletionScope) (filter : AuditFilter) (nowMs : ℕ) :
    ServiceEff ℕ := do
  let mutation := AdminMutation.auditDelete scope filter
  let digest ← orThrow .returned mutation.digest
  authorizeAdmin mutation.operationAndResource.1 .deviceLanePolicy (some digest) nowMs
  let effectiveFilter :=
    match scope with
    | .currentFilter => filter
    | .allRetained => AuditFilter.default
  onAudit (AuditStore.delete effectiveFilter nowMs)

def deleteAudit (filter : AuditFilter) (nowMs : ℕ) : ServiceEff ℕ :=
  deleteAuditExact .currentFilter filter nowMs

def applyConnectionChange (configuration : ConnectionConfig)
    (persisted : Except DashboardServiceError Unit) (nowMs : ℕ) : ServiceEff Unit := do
  let mutation := AdminMutation.connectionSet configuration
  let digest ← orThrow .returned mutation.digest
  authorizeAdmin mutation.operationAndResource.1 .deviceLaneService (some digest) nowMs
  auditLocal connectionSet .attempted nowMs
  match persisted with
  | .ok _ => auditLocal connectionSet .succeeded nowMs
  | .error error => do
      auditLocal connectionSet .failed nowMs
      throw (.returned error)

def cancelAll (nowMs : ℕ) : List ActivityId → ServiceEff Unit
  | [] => pure ()
  | id :: ids => do
      let _ ← cancelActivityInner id nowMs
      cancelAll nowMs ids

def publishPaused (operation : OperationId) (m : ServiceEff Unit) (previous : Bool) (nowMs : ℕ) :
    ServiceEff Unit := do
  match ← attempt m with
  | .ok _ => pure ()
  | .error fault => do
      modify fun s => { s with paused := previous }
      auditLocal operation .failed nowMs
      throw fault

def pause (existing : ExistingJobs) (hash : HashOrder ActivityId) (nowMs : ℕ) :
    ServiceEff Unit := do
  authorizeAdmin ⟨"devicelane.service.pause", idText_servicePause⟩ .deviceLaneService none nowMs
  auditLocal remoteAccessPause .attempted nowMs
  modify fun s => { s with paused := true }
  let s ← get
  if existing = .cancel then
    publishPaused remoteAccessPause (cancelAll nowMs (hash.order s.activities.keys)) false nowMs
  publishPaused remoteAccessPause (appendLocalEvent remoteAccessPause nowMs) false nowMs

def resume (nowMs : ℕ) : ServiceEff Unit := do
  authorizeAdmin ⟨"devicelane.service.resume", idText_serviceResume⟩ .deviceLaneService none nowMs
  auditLocal remoteAccessResume .attempted nowMs
  modify fun s => { s with paused := false }
  publishPaused remoteAccessResume (appendLocalEvent remoteAccessResume nowMs) true nowMs

/-! ### Subscribers -/

omit [Sha256] in
def expireIdle (nowMs : ℕ) : ServiceEff Unit :=
  modify fun s => { s with events := (s.events.expireIdle nowMs).2 }

def mapAcknowledgeError : AcknowledgeError → DashboardServiceError
  | .cursorAhead => .cursorAhead
  | .resyncRequired _ _ | .wrongEpoch => .resyncRequired
  | .unknownSubscriber => .invalidRequest

def acknowledge (subscriberId : SubscriberId) (cursor : EventCursor) (nowMs : ℕ) :
    ServiceEff Unit := do
  expireIdle nowMs
  match ← attempt (onPart DashboardService.events (fun events s => { s with events }) id
      (EventJournal.subscribe subscriberId nowMs)) with
  | .error .limitExceeded => throw (.returned .limitExceeded)
  | .error .alreadyExists => pure ()
  | .ok _ => pure ()
  onPart DashboardService.events (fun events s => { s with events })
    (fun error => .returned (mapAcknowledgeError error))
    (EventJournal.acknowledge subscriberId cursor nowMs)

/-! ### A service from its checkpoint -/

def restoreActivities : List ActivityEvent → ServiceEff Unit
  | [] => pure ()
  | activity :: activities => do
      throwIf (activity.validate ≠ .ok ()) (.returned .auditUnavailable)
      let s ← get
      throwIf (s.activities.lookup activity.activityId).isSome (.returned .auditUnavailable)
      onPart DashboardService.events (fun events s => { s with events })
        (fun _ => .returned .auditUnavailable)
        (EventJournal.restoreActivitySequence activity.activityId activity.sequence)
      modify fun s => { s with activities := s.activities.insert activity.activityId activity }
      restoreActivities activities

def Oversized (payload : ActivityCheckpointPayload) : Prop :=
  payload.version ≠ 2 ∨ payload.activities.length > 1000 ∨ payload.pending.len > 1000 ∨
    payload.adminGrants.len > 1000

instance (payload : ActivityCheckpointPayload) : Decidable (Oversized payload) :=
  inferInstanceAs (Decidable (_ ∨ _ ∨ _ ∨ _))

def restore (checkpoint : ActivityCheckpoint) (hash : HashOrder ActivityEvent) (nowMs : ℕ) :
    ServiceEff Unit := do
  let payload := checkpoint.payload
  throwIf (Oversized payload) (.returned .auditUnavailable)
  let s ← get
  throwIf (payload.auditSequence > s.audit.store.lastSequence) (.returned .auditUnavailable)
  let digest ← orThrow .returned payload.digest
  throwIf (digest ≠ checkpoint.digest) (.returned .auditUnavailable)
  restoreActivities payload.activities
  throwIf (∃ entry ∈ payload.pending.toList, entry.2.request.id ≠ entry.1 ∨ entry.2.nonce = "" ∨
      entry.2.request.expiresAtMs = 0)
    (.returned .auditUnavailable)
  throwIf (∃ entry ∈ payload.adminGrants.toList, entry.1 = "" ∨ entry.2.expiresAtMs = 0 ∨
      entry.2.access.targetHostId ≠ s.localHostId)
    (.returned .auditUnavailable)
  modify fun s => { s with pending := payload.pending, adminGrants := payload.adminGrants }
  onPart DashboardService.policy (fun policy s => { s with policy })
    (fun _ => .returned .auditUnavailable) (PolicyEngine.restoreCheckpoint payload.policy)
  modify fun s => { s with paused := payload.paused }
  let _ ← reconcileAfterRestart hash nowMs
  pure ()

/-- A service with a checkpoint, given what reading the file of the checkpoint gives: the outcome,
and the service that is returned if it is a success. -/
def newPersistent (localHostId : HostId) (events : EventJournal) (audit : AuditState)
    (policy : PolicyEngine) (file : CheckpointFile)
    (read : Except AuditError (Option ActivityCheckpoint)) (hash : HashOrder ActivityEvent)
    (nowMs : ℕ) : Except (Fault DashboardServiceError) Unit × DashboardService :=
  let s := { new localHostId events audit policy with checkpoint := some file }
  match read with
  | .error _ => (.error (.returned .auditUnavailable), s)
  | .ok none => (.ok (), s)
  | .ok (some checkpoint) => (restore checkpoint hash nowMs).exec s

end DashboardService

/-! ### Runs -/

/-- The calls that may change the service. -/
inductive ServiceCall
  | recordPreapprovalTargetOffline (access : AccessRequest) (nowMs : ℕ)
  | requestApproval (access : AccessRequest) (lifetimeMs nowMs : ℕ) (random : ℕ → Digest)
  | requestAdminMutationApproval (mutation : AdminMutation) (lifetimeMs nowMs : ℕ)
      (random : ℕ → Digest)
  | decideApproval (nonce : String) (session : AuthenticatedTargetSession) (access : AccessRequest)
      (decision : ApprovalDecision) (nowMs : ℕ)
  | decidePendingApproval (approvalId : ApprovalId) (session : AuthenticatedTargetSession)
      (decision : ApprovalDecision) (nowMs : ℕ)
  | putPolicyRule (rule : PolicyRule) (nowMs : ℕ)
  | putPolicyRuleExact (rule : PolicyRule) (expectedRevision nowMs : ℕ)
  | deletePolicyRule (id : RuleId) (nowMs : ℕ)
  | deletePolicyRuleIfRevision (id : RuleId) (expectedRevision nowMs : ℕ)
  | deleteAudit (filter : AuditFilter) (nowMs : ℕ)
  | deleteAuditExact (scope : AuditDeletionScope) (filter : AuditFilter) (nowMs : ℕ)
  | recordActivity (event : ActivityEvent) (idempotencyKey : String)
  | transitionActivity (id : ActivityId) (state : ActivityState) (metrics : MetricSnapshot)
      (message : Option DisplayMessage) (nowMs : ℕ)
  | recordAuditUnavailableTerminal (id : ActivityId) (metrics : MetricSnapshot) (nowMs : ℕ)
  | cancelActivity (id : ActivityId) (nowMs : ℕ)
  | reconcileAfterRestart (hash : HashOrder ActivityEvent) (nowMs : ℕ)
  | pause (existing : ExistingJobs) (hash : HashOrder ActivityId) (nowMs : ℕ)
  | resume (nowMs : ℕ)
  | applyConnectionChange (configuration : ConnectionConfig)
      (persisted : Except DashboardServiceError Unit) (nowMs : ℕ)
  | acknowledge (subscriberId : SubscriberId) (cursor : EventCursor) (nowMs : ℕ)
  | readEvents (nowMs : ℕ)

namespace ServiceCall

def isAboutApprovals : ServiceCall → Bool
  | requestApproval _ _ _ _ | requestAdminMutationApproval _ _ _ _ | decideApproval _ _ _ _ _
  | decidePendingApproval _ _ _ _ => true
  | _ => false

def setsPause : ServiceCall → Bool
  | pause _ _ _ | resume _ => true
  | _ => false

def dropValue {α : Type} (m : ServiceEff α) : ServiceEff Unit := do
  let _ ← m
  pure ()

def program [Sha256] : ServiceCall → ServiceEff Unit
  | recordPreapprovalTargetOffline access nowMs =>
    DashboardService.recordPreapprovalTargetOffline access nowMs
  | requestApproval access lifetimeMs nowMs random =>
    dropValue (DashboardService.requestApproval access lifetimeMs nowMs random)
  | requestAdminMutationApproval mutation lifetimeMs nowMs random =>
    dropValue (DashboardService.requestAdminMutationApproval mutation lifetimeMs nowMs random)
  | decideApproval nonce session access decision nowMs =>
    dropValue (DashboardService.decideApproval nonce session access decision nowMs)
  | decidePendingApproval approvalId session decision nowMs =>
    dropValue (DashboardService.decidePendingApproval approvalId session decision nowMs)
  | putPolicyRule rule nowMs => DashboardService.putPolicyRule rule nowMs
  | putPolicyRuleExact rule expectedRevision nowMs =>
    DashboardService.putPolicyRuleExact rule expectedRevision nowMs
  | deletePolicyRule id nowMs => dropValue (DashboardService.deletePolicyRule id nowMs)
  | deletePolicyRuleIfRevision id expectedRevision nowMs =>
    dropValue (DashboardService.deletePolicyRuleIfRevision id expectedRevision nowMs)
  | deleteAudit filter nowMs => dropValue (DashboardService.deleteAudit filter nowMs)
  | deleteAuditExact scope filter nowMs =>
    dropValue (DashboardService.deleteAuditExact scope filter nowMs)
  | recordActivity event idempotencyKey => DashboardService.recordActivity event idempotencyKey
  | transitionActivity id state metrics message nowMs =>
    dropValue (DashboardService.transitionActivity id state metrics message nowMs)
  | recordAuditUnavailableTerminal id metrics nowMs =>
    dropValue (DashboardService.recordAuditUnavailableTerminal id metrics nowMs)
  | cancelActivity id nowMs => dropValue (DashboardService.cancelActivity id nowMs)
  | reconcileAfterRestart hash nowMs =>
    dropValue (DashboardService.reconcileAfterRestart hash nowMs)
  | pause existing hash nowMs => DashboardService.pause existing hash nowMs
  | resume nowMs => DashboardService.resume nowMs
  | applyConnectionChange configuration persisted nowMs =>
    DashboardService.applyConnectionChange configuration persisted nowMs
  | acknowledge subscriberId cursor nowMs =>
    DashboardService.acknowledge subscriberId cursor nowMs
  | readEvents nowMs => DashboardService.expireIdle nowMs

/-- The service after a call. -/
def next [Sha256] (call : ServiceCall) (s : DashboardService) : DashboardService :=
  (call.program.exec s).2

end ServiceCall

namespace DashboardService

/-- The service after a run of calls. -/
def runCalls [Sha256] (calls : List ServiceCall) (s : DashboardService) : DashboardService :=
  calls.foldl (fun s call => call.next s) s

end DashboardService

end Dashboard
