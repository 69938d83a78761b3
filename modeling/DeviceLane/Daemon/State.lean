/-
**The state of the daemon.**

The daemon keeps its dashboard service, a flag of its own that says whether remote access is paused, and
a cancel token for each remote execution that is in flight. Requests change them under one lock. An
execution is prepared from the current record of its activity, and is then handed to a worker.

Main definitions:

* `Daemon.DaemonState` — the state, with the dashboard enabled.
-/

import DeviceLane.Daemon.Protocol

namespace Daemon

open Dashboard Effect

/-- The state. Of what the daemon tells about itself only the pause is kept. Tokens are numbered as they
are issued, and the ones that have been set are listed. -/
structure DaemonState where
  hasConnectionStorage : Bool
  remoteAccessPaused : Bool
  dashboard : DashboardService
  remoteExecution : Option RemoteExecutionConfig
  remoteExecutionGeneration : ℕ
  hasRemoteExecutionBoundary : Bool
  inflightExecutions : Map ActivityId Token
  issued : Token
  raised : List Token
  publicIdentity : String
  deriving DecidableEq

abbrev DaemonEff (α : Type) : Type := Eff DaemonState (Fault LocalProtocolError) α

def ActivityEvent.isExecutable (activity : ActivityEvent) (session : AuthenticatedTargetSession)
    (grant : RemoteOperationGrant) : Bool :=
  activity.state = .queued && activity.authorization.effect = .allow
    && activity.targetHostId = session.localHostId && activity.deviceId.isSome
    && activity.operation.text = "apple.install_app"
    && activity.resources.contains .workspaceRead && activity.resources.contains .deviceLease
    && activity.resources.contains .applicationInstall
    && activity.remoteOperationSha256 = some grant.canonicalSha256

namespace DaemonState

/-- A daemon whose service has just been enabled. -/
def new (dashboard : DashboardService) (publicIdentity : String) : DaemonState :=
  { hasConnectionStorage := false
    remoteAccessPaused := false
    dashboard
    remoteExecution := none
    remoteExecutionGeneration := 0
    hasRemoteExecutionBoundary := false
    inflightExecutions := ∅
    issued := 0
    raised := []
    publicIdentity }

/-- The session of the requests that come in locally. -/
def session (d : DaemonState) : AuthenticatedTargetSession := ⟨d.dashboard.localHostId⟩

def onDashboard {α : Type} (m : ServiceEff α) : DaemonEff α :=
  onPart dashboard (fun dashboard d => { d with dashboard }) mapDashboardFault m

/-! ### The connection -/

def enableRemoteExecution (config : RemoteExecutionConfig) (d : DaemonState) : DaemonState :=
  { d with
    remoteExecution := some config
    remoteExecutionGeneration := d.remoteExecutionGeneration + 1
    hasRemoteExecutionBoundary := true }

def reconcileConnectionWrite (target : ConnectionConfig) (reconciled : Reconciled) (d : DaemonState) :
    DaemonState :=
  match reconciled with
  | .activated =>
    d.enableRemoteExecution ⟨target.registryAddress, target.registryPeerId, d.publicIdentity⟩
  | .kept => d
  | .dropped =>
    { d with
      remoteExecution := none
      remoteExecutionGeneration := d.remoteExecutionGeneration + 1
      hasRemoteExecutionBoundary := false }

variable [Sha256]

def beforeConnectionWrite (configuration : ConnectionConfig) (nowMs : ℕ) : ServiceEff Unit := do
  let mutation := AdminMutation.connectionSet configuration
  let digest ← orThrow .returned mutation.digest
  DashboardService.authorizeAdmin mutation.operationAndResource.1 .deviceLaneService (some digest) nowMs
  DashboardService.auditLocal connectionSet .attempted nowMs

def reachesFile (configuration : ConnectionConfig) (nowMs : ℕ) (dashboard : DashboardService) : Bool :=
  ((beforeConnectionWrite configuration nowMs).exec dashboard).1.isOk

/-- A change of the connection is reconciled with the disk whether it succeeds or not. -/
def setConnection (configuration : ConnectionConfig) (c : Circumstances) : DaemonEff LocalResponse := do
  let d ← get
  throwIf (d.hasConnectionStorage = false) (.returned .featureUnavailable)
  let result ← attempt
    (onDashboard (DashboardService.applyConnectionChange configuration c.persisted c.nowMs))
  onlyIf (reachesFile configuration c.nowMs d.dashboard = true)
    (modify (reconcileConnectionWrite configuration c.reconciled))
  match result with
  | .ok _ => pure .acknowledged
  | .error fault => throw fault

/-! ### Starting an execution -/

def prepareRemoteExecution (activityId : ActivityId) (workspacePath requestId appPath : String)
    (session : AuthenticatedTargetSession) : DaemonEff RemoteExecutionJob := do
  throwIf (validRemoteComponent workspacePath = false ∨ validRemoteComponent appPath = false
      ∨ validRemoteIdentifier requestId = false)
    (.returned .invalidFrame)
  let d ← get
  let config ← okOr d.remoteExecution (.returned .featureUnavailable)
  let activity ← okOr (d.dashboard.activities.lookup activityId) (.returned .permissionDenied)
  let grant ← orThrow (fun _ => .returned .permissionDenied)
    (RemoteOperationGrant.new requestId workspacePath activity.deviceId (.installApp appPath))
  throwIf (ActivityEvent.isExecutable activity session grant = false) (.returned .permissionDenied)
  throwIf (d.inflightExecutions.lookup activityId).isSome (.returned .revisionConflict)
  modify fun d =>
    { d with
      inflightExecutions := d.inflightExecutions.insert activityId d.issued
      issued := d.issued + 1 }
  throwIf (d.hasRemoteExecutionBoundary = false) (.returned .featureUnavailable)
  pure
    { generation := d.remoteExecutionGeneration
      config
      activity
      workspacePath
      requestId
      appPath
      cancelled := d.issued }

/-! ### Approvals -/

def requiresRemoteTarget (access : AccessRequest) : Bool :=
  access.resources.contains .workspaceRead && access.resources.contains .deviceLease

def refuseOffline (access : AccessRequest) (nowMs : ℕ) : DaemonEff LocalResponse := do
  onDashboard (DashboardService.recordPreapprovalTargetOffline access nowMs)
  throw (.returned .targetOffline)

def requestApproval (access : AccessRequest) (lifetimeMs : ℕ) (c : Circumstances)
    (session : AuthenticatedTargetSession) : DaemonEff LocalResponse := do
  let d ← get
  throwIf (requiresRemoteTarget access = true
      ∧ (d.remoteExecution.isSome = true ∧ c.hasMeshIdentity = true)
      ∧ access.sourceHostId ≠ d.dashboard.localHostId)
    (.returned .meshIdentityMismatch)
  if requiresRemoteTarget access = true
      ∧ ¬(d.remoteExecution.isSome = true ∧ d.hasRemoteExecutionBoundary = true
        ∧ isOnline c.listed access = true) then
    refuseOffline access c.nowMs
  else do
    throwIf (session.localHostId ≠ d.dashboard.localHostId
        ∨ access.targetHostId ≠ d.dashboard.localHostId)
      (.returned .unauthorized)
    let challenge ← onDashboard
      (DashboardService.requestApproval access lifetimeMs c.nowMs c.random)
    pure (.approvalCreated challenge)

def requestAuthenticatedApproval (lifetimeMs : ℕ) (c : Circumstances)
    (session : AuthenticatedTargetSession) : DaemonEff LocalResponse := do
  let d ← get
  throwIf (d.remoteExecution.isSome = false) (.returned .meshIdentityMismatch)
  let access ← okOr c.vouchedFor (.returned .meshIdentityMismatch)
  throwIf (session.localHostId ≠ d.dashboard.localHostId) (.returned .meshIdentityMismatch)
  if d.hasRemoteExecutionBoundary = true ∧ isOnline c.listed access = true then do
    let challenge ← onDashboard
      (DashboardService.requestApproval access lifetimeMs c.nowMs c.random)
    pure (.approvalCreated challenge)
  else
    refuseOffline access c.nowMs

/-! ### Pausing and cancelling -/

def raise (token : Token) (d : DaemonState) : DaemonState := { d with raised := token :: d.raised }

def cancelActivity (activityId : ActivityId) (nowMs : ℕ) : DaemonEff LocalResponse := do
  let cancelled ← onDashboard (DashboardService.cancelActivity activityId nowMs)
  if cancelled then
    modify fun d =>
      match d.inflightExecutions.lookup activityId with
      | none => d
      | some token => d.raise token
  pure (.cancellation cancelled)

def pauseRemoteAccessWithJobs (existingJobs : ExistingJobs) (c : Circumstances) :
    DaemonEff LocalResponse := do
  onDashboard (DashboardService.pause existingJobs c.hash c.nowMs)
  modify fun d => { d with remoteAccessPaused := true }
  pure .acknowledged

omit [Sha256] in
def pauseRemoteAccess : DaemonEff LocalResponse := do
  modify fun d => { d with remoteAccessPaused := true }
  pure .acknowledged

def resumeRemoteAccess (nowMs : ℕ) : DaemonEff LocalResponse := do
  onDashboard (DashboardService.resume nowMs)
  modify fun d => { d with remoteAccessPaused := false }
  pure .acknowledged

/-! ### Requests -/

def handleAuthorized (request : LocalRequest) (c : Circumstances)
    (session : AuthenticatedTargetSession) : DaemonEff LocalResponse :=
  match request with
  | .pauseRemoteAccess => pauseRemoteAccess
  | .resumeRemoteAccess => resumeRemoteAccess c.nowMs
  | .setConnection configuration => setConnection configuration c
  | .requestApproval access lifetimeMs => requestApproval access lifetimeMs c session
  | .requestAuthenticatedApproval lifetimeMs => requestAuthenticatedApproval lifetimeMs c session
  | .requestAdminMutationApproval mutation lifetimeMs => do
      let challenge ← onDashboard
        (DashboardService.requestAdminMutationApproval mutation lifetimeMs c.nowMs c.random)
      pure (.approvalCreated challenge)
  | .decideApproval nonce access decision => do
      let createdRule ← onDashboard
        (DashboardService.decideApproval nonce session access decision c.nowMs)
      pure (.approvalDecided decision createdRule)
  | .decidePendingApproval approvalId decision => do
      let createdRule ← onDashboard
        (DashboardService.decidePendingApproval approvalId session decision c.nowMs)
      pure (.approvalDecided decision createdRule)
  | .activityEvents => do
      onDashboard (DashboardService.expireIdle c.nowMs)
      pure .acknowledged
  | .acknowledgeEvents subscriberId cursor => do
      onDashboard (DashboardService.acknowledge subscriberId cursor c.nowMs)
      pure .acknowledged
  | .putPolicyRule rule => do
      onDashboard (DashboardService.putPolicyRule rule c.nowMs)
      pure .acknowledged
  | .deletePolicyRule ruleId => do
      let deleted ← onDashboard (DashboardService.deletePolicyRule ruleId c.nowMs)
      pure (.ruleDeleted deleted)
  | .deletePolicyRuleIfRevision ruleId expectedRevision => do
      let deleted ← onDashboard
        (DashboardService.deletePolicyRuleIfRevision ruleId expectedRevision c.nowMs)
      pure (.ruleDeleted deleted)
  | .auditDelete scope filter => do
      let deleted ← onDashboard (DashboardService.deleteAuditExact scope filter c.nowMs)
      pure (.auditDeleted deleted)
  | .cancelActivity activityId => cancelActivity activityId c.nowMs
  | .pauseRemoteAccessWithJobs existingJobs => pauseRemoteAccessWithJobs existingJobs c
  | .startRemoteExecution _ _ _ _ => throw (.returned .featureUnavailable)

end DaemonState

end Daemon
