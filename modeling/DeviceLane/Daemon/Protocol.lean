/-
**The messages of the daemon.**

The user interface and the command line send requests to the daemon of their own host. The daemon asks
the registry over the mesh, on behalf of the executions that it has been told to start, and sorts what
comes back into the kinds of failure that it reports.

Main definitions:

* `Daemon.RemoteExecutionFailure`, `Daemon.classifyRemoteRejection` — how executions fail.
-/

import DeviceLane.Dashboard.ServiceCalls
import DeviceLane.Registry.Protocol

namespace Daemon

open Dashboard Effect

/-! ### Errors -/

inductive LocalProtocolError
  | invalidFrame
  | io
  | unauthorized
  | featureUnavailable
  | permissionDenied
  | approvalExpired
  | auditUnavailable
  | cursorAhead
  | resyncRequired
  | limitExceeded
  | revisionConflict
  | targetOffline
  | meshIdentityMismatch
  deriving DecidableEq, Repr

def mapDashboardError : DashboardServiceError → LocalProtocolError
  | .permissionDenied => .permissionDenied
  | .approvalExpired => .approvalExpired
  | .auditUnavailable => .auditUnavailable
  | .configurationUnavailable => .io
  | .cursorAhead => .cursorAhead
  | .resyncRequired => .resyncRequired
  | .limitExceeded => .limitExceeded
  | .revisionConflict => .revisionConflict
  | .invalidRequest | .notFound => .invalidFrame

def mapDashboardFault : Fault DashboardServiceError → Fault LocalProtocolError
  | .returned error => .returned (mapDashboardError error)
  | .panicked => .panicked

inductive RemoteExecutionFailure
  | operationFailed
  | targetOffline
  | registryDisconnected
  | daemonRestarted
  | observerUnavailable
  | eventResyncRequired
  | auditUnavailable
  | approvalExpired
  | policyDenied
  | staleLease
  | cancelled
  | agentIncompatible
  deriving DecidableEq, Repr

def RemoteExecutionFailure.messageCode : RemoteExecutionFailure → MessageCode
  | operationFailed => .operationFailed
  | targetOffline => .targetOffline
  | registryDisconnected => .registryDisconnected
  | daemonRestarted => .daemonRestarted
  | observerUnavailable => .observerUnavailable
  | eventResyncRequired => .eventResyncRequired
  | auditUnavailable => .auditUnavailable
  | approvalExpired => .approvalExpired
  | policyDenied => .policyDenied
  | staleLease => .leaseStale
  | cancelled => .operationCancelled
  | agentIncompatible => .agentIncompatible

/-- A transition that is refused ends an execution; the loss of the audit store is told apart. -/
def mapTransitionFailure : Fault LocalProtocolError → RemoteExecutionFailure
  | .returned .auditUnavailable => .auditUnavailable
  | _ => .registryDisconnected

/-! ### Texts -/

def toAsciiLowercase (value : String) : String := String.ofList (value.toList.map Char.toLower)

def containsText (value part : String) : Bool := part.toList <:+: value.toList

/-- The kind of failure that a text of the registry or of an agent stands for. -/
def classifyRemoteRejection (value : Option String) : RemoteExecutionFailure :=
  let value := toAsciiLowercase (value.getD "")
  if value = "artifact_publish_failed" then .operationFailed
  else if containsText value "observer_unavailable" then .observerUnavailable
  else if containsText value "resync" || containsText value "overflow" then .eventResyncRequired
  else if containsText value "daemon_restarted" then .daemonRestarted
  else if containsText value "audit_unavailable" then .auditUnavailable
  else if containsText value "lease" && (containsText value "stale" || containsText value "expired") then
    .staleLease
  else if containsText value "version" || containsText value "unsupported"
      || containsText value "incompatible" then
    .agentIncompatible
  else if containsText value "denied" || containsText value "policy" then .policyDenied
  else .registryDisconnected

def validRemoteIdentifier (value : String) : Bool :=
  value ≠ "" && value.utf8ByteSize ≤ 128
    && value.toList.all fun c => c.isAlphanum || c = '-' || c = '_' || c = '.'

def isBelow : Registry.PathComponent → Bool
  | .normal _ | .curDir => true
  | .rootDir | .parentDir => false

def validRemoteComponent (value : String) : Bool :=
  value ≠ "" && value.utf8ByteSize ≤ 1024 && !Registry.isAbsolutePath value
    && (value.toList.all fun c => c ≠ '\r' && c ≠ '\n' && c ≠ '\x00')
    && (Registry.pathComponents value).all isBelow

/-! ### Executions -/

structure RemoteExecutionConfig where
  registryAddress : String
  registryPeerId : String
  clientId : String
  deriving DecidableEq, Repr

/-- The name of a cancel token. A worker and the map of the executions share the token itself. -/
abbrev Token : Type := ℕ

/-- What a worker has been told. The boundary to the mesh and the time it has are not part of it. -/
structure RemoteExecutionJob where
  generation : ℕ
  config : RemoteExecutionConfig
  activity : ActivityEvent
  workspacePath : String
  requestId : String
  appPath : String
  cancelled : Token
  deriving DecidableEq

/-! ### Requests -/

inductive LocalRequest
  | pauseRemoteAccess
  | resumeRemoteAccess
  | setConnection (configuration : ConnectionConfig)
  | requestApproval (access : AccessRequest) (lifetimeMs : ℕ)
  | requestAuthenticatedApproval (lifetimeMs : ℕ)
  | requestAdminMutationApproval (mutation : AdminMutation) (lifetimeMs : ℕ)
  | decideApproval (nonce : String) (access : AccessRequest) (decision : ApprovalDecision)
  | decidePendingApproval (approvalId : ApprovalId) (decision : ApprovalDecision)
  | activityEvents
  | acknowledgeEvents (subscriberId : SubscriberId) (cursor : EventCursor)
  | putPolicyRule (rule : PolicyRule)
  | deletePolicyRule (ruleId : RuleId)
  | deletePolicyRuleIfRevision (ruleId : RuleId) (expectedRevision : ℕ)
  | auditDelete (scope : AuditDeletionScope) (filter : AuditFilter)
  | cancelActivity (activityId : ActivityId)
  | pauseRemoteAccessWithJobs (existingJobs : ExistingJobs)
  | startRemoteExecution (activityId : ActivityId) (workspacePath requestId appPath : String)

inductive LocalResponse
  | acknowledged
  | approvalCreated (challenge : ApprovalChallenge)
  | approvalDecided (decision : ApprovalDecision) (createdRule : Option PolicyRule)
  | auditDeleted (deleted : ℕ)
  | cancellation (cancelled : Bool)
  | ruleDeleted (deleted : Bool)

inductive Reconciled
  | activated
  | kept
  | dropped
  deriving DecidableEq, Repr

/-- What a request meets besides the state of the daemon: the time, the random bytes and the order of the
hash maps; what the registry answers when it is asked for its hosts; whether the host has the files of
a mesh identity; the access that the signatures of an assertion vouch for; and what comes of writing a
connection. -/
structure Circumstances where
  nowMs : ℕ
  random : ℕ → Digest
  hash : HashOrder ActivityId
  listed : Except RemoteExecutionFailure Registry.Response
  hasMeshIdentity : Bool
  vouchedFor : Option AccessRequest
  persisted : Except DashboardServiceError Unit
  reconciled : Reconciled

def isOnline (listed : Except RemoteExecutionFailure Registry.Response) (access : AccessRequest) :
    Bool :=
  match listed with
  | .error _ => false
  | .ok response =>
    response.accepted && response.hosts.any fun host =>
      host.id = access.targetHostId.text && host.status = "online"
        && access.deviceId.all fun deviceId =>
          host.devices.any fun device => device.id = deviceId.text && device.state = "connected"

end Daemon
