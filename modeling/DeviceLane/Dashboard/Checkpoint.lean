/-
**The checkpoint of the dashboard service.**

The service keeps its activities, the approvals it waits for, the grants that approvals have given to
administrative calls, and the policy in one file, which every call that changes them replaces. The
file carries a digest of all of it.

Main definitions:

* `Dashboard.AdminMutation`, `Dashboard.AdminMutation.digest` — what a grant may be bound to.
-/

import DeviceLane.Dashboard.AuditFiles
import DeviceLane.Dashboard.Policy

namespace Dashboard

open Effect JsonCodec

inductive DashboardServiceError
  | configurationUnavailable
  | permissionDenied
  | approvalExpired
  | auditUnavailable
  | cursorAhead
  | resyncRequired
  | limitExceeded
  | invalidRequest
  | notFound
  | revisionConflict
  deriving DecidableEq, Repr

/-! ### Approvals and grants -/

def ApprovalRequest.toJson (request : ApprovalRequest) : Json :=
  .obj
    ([("id", JsonCodec.toJson request.id), ("activity_id", JsonCodec.toJson request.activityId),
      ("principal_id", JsonCodec.toJson request.principalId),
      ("source_host_id", JsonCodec.toJson request.sourceHostId),
      ("target_host_id", JsonCodec.toJson request.targetHostId),
      ("device_id", optionToJson request.deviceId),
      ("operation", JsonCodec.toJson request.operation),
      ("resources", JsonCodec.toJson request.resources)]
    ++ skipNone "remote_operation_sha256" request.remoteOperationSha256
    ++ [("requested_at_ms", JsonCodec.toJson request.requestedAtMs),
      ("expires_at_ms", JsonCodec.toJson request.expiresAtMs),
      ("risk", JsonCodec.toJson request.risk)])

structure Pending where
  nonce : String
  request : ApprovalRequest
  access : AccessRequest
  adminMutationDigest : Option String
  deriving DecidableEq

def Pending.toJson (pending : Pending) : Json :=
  .obj
    [("nonce", .str pending.nonce), ("request", pending.request.toJson),
      ("access", pending.access.toJson),
      ("admin_mutation_digest", optionToJson pending.adminMutationDigest)]

structure AdminGrant where
  access : AccessRequest
  expiresAtMs : ℕ
  adminMutationDigest : Option String
  deriving DecidableEq

def AdminGrant.toJson (grant : AdminGrant) : Json :=
  .obj
    [("access", grant.access.toJson), ("expires_at_ms", JsonCodec.toJson grant.expiresAtMs),
      ("admin_mutation_digest", optionToJson grant.adminMutationDigest)]

/-! ### Mutations -/

/-- How to reach the registry. There is one version of it. -/
structure ConnectionConfig where
  registryAddress : String
  registryPeerId : String
  deriving DecidableEq

def ConnectionConfig.toJson (configuration : ConnectionConfig) : Json :=
  .obj
    [("version", JsonCodec.toJson 1), ("registry_address", .str configuration.registryAddress),
      ("registry_peer_id", .str configuration.registryPeerId)]

inductive AdminMutation
  | connectionSet (configuration : ConnectionConfig)
  | policyPut (rule : PolicyRule) (expectedRevision : ℕ)
  | policyDelete (ruleId : RuleId) (expectedRevision : ℕ)
  | auditDelete (scope : AuditDeletionScope) (filter : AuditFilter)
  deriving DecidableEq

namespace AdminMutation

def toJson : AdminMutation → Json
  | connectionSet configuration =>
    .obj [("mutation", .str "connection_set"), ("configuration", configuration.toJson)]
  | policyPut rule expectedRevision =>
    .obj
      [("mutation", .str "policy_put"), ("rule", rule.toJson),
        ("expected_revision", JsonCodec.toJson expectedRevision)]
  | policyDelete ruleId expectedRevision =>
    .obj
      [("mutation", .str "policy_delete"), ("rule_id", JsonCodec.toJson ruleId),
        ("expected_revision", JsonCodec.toJson expectedRevision)]
  | auditDelete scope filter =>
    .obj
      [("mutation", .str "audit_delete"), ("scope", .str scope.name), ("filter", filter.toJson)]

def digest [Sha256] (mutation : AdminMutation) : Except DashboardServiceError String := do
  match mutation with
  | policyPut rule _ => rule.validate.mapError fun _ => .invalidRequest
  | connectionSet _ | policyDelete _ _ | auditDelete _ _ => pure ()
  pure (hex (Sha256.digest mutation.toJson.toVec).toList)

theorem idText_connectionSet : IdText "devicelane.service.connection.set" := by decide

theorem idText_policyPut : IdText "devicelane.policy.put" := by decide

theorem idText_policyDelete : IdText "devicelane.policy.delete" := by decide

theorem idText_auditDelete : IdText "devicelane.audit.delete" := by decide

def operationAndResource : AdminMutation → OperationId × ResourceClass
  | connectionSet _ => (⟨"devicelane.service.connection.set", idText_connectionSet⟩, .deviceLaneService)
  | policyPut _ _ => (⟨"devicelane.policy.put", idText_policyPut⟩, .deviceLanePolicy)
  | policyDelete _ _ => (⟨"devicelane.policy.delete", idText_policyDelete⟩, .deviceLanePolicy)
  | auditDelete _ _ => (⟨"devicelane.audit.delete", idText_auditDelete⟩, .deviceLanePolicy)

end AdminMutation

/-! ### Checkpoints -/

def PendingApproval.toJson (approval : PendingApproval) : Json :=
  .obj
    [("request_digest", .arr (approval.requestDigest.toList.map fun b => .num b.toNat)),
      ("target_host_id", JsonCodec.toJson approval.targetHostId),
      ("expires_at_ms", JsonCodec.toJson approval.expiresAtMs),
      ("used", JsonCodec.toJson approval.used)]

/-- The form of an engine. Its approvals are in a hash map, and come in the order of that map. -/
def PolicyEngine.toJson (engine : PolicyEngine) : Json :=
  .obj
    [("rules", .arr (engine.rules.map PolicyRule.toJson)),
      ("approvals", .obj (engine.approvals.toList.map fun entry => (entry.1, entry.2.toJson)))]

structure ActivityCheckpointPayload where
  version : ℕ
  auditSequence : ℕ
  activities : List ActivityEvent
  pending : Map ApprovalId Pending
  adminGrants : Map String AdminGrant
  policy : PolicyEngine
  paused : Bool
  deriving DecidableEq

namespace ActivityCheckpointPayload

def fields (payload : ActivityCheckpointPayload) : List (String × Json) :=
  [("version", JsonCodec.toJson payload.version),
    ("audit_sequence", JsonCodec.toJson payload.auditSequence),
    ("activities", .arr (payload.activities.map ActivityEvent.toJson)),
    ("pending", .obj ((payload.pending.inOrder ValidatedId.text).map fun entry =>
      (entry.1.text, entry.2.toJson))),
    ("admin_grants", .obj ((payload.adminGrants.inOrder id).map fun entry =>
      (entry.1, entry.2.toJson))),
    ("policy", payload.policy.toJson), ("paused", JsonCodec.toJson payload.paused)]

structure Serializes [Sha256] (payload : ActivityCheckpointPayload) : Prop where
  activities : ∀ event ∈ payload.activities, event.toVec.isOk = true
  pending : ∀ pending ∈ payload.pending.values,
    pending.request.validate = .ok () ∧ validateRequest pending.access = .ok ()
  adminGrants : ∀ grant ∈ payload.adminGrants.values, validateRequest grant.access = .ok ()
  rules : ∀ rule ∈ payload.policy.rules, rule.validate = .ok ()

instance [Sha256] (payload : ActivityCheckpointPayload) : Decidable payload.Serializes :=
  decidable_of_iff
    ((∀ event ∈ payload.activities, event.toVec.isOk = true) ∧
      (∀ pending ∈ payload.pending.values,
        pending.request.validate = .ok () ∧ validateRequest pending.access = .ok ()) ∧
      (∀ grant ∈ payload.adminGrants.values, validateRequest grant.access = .ok ()) ∧
      ∀ rule ∈ payload.policy.rules, rule.validate = .ok ())
    ⟨fun ⟨h₁, h₂, h₃, h₄⟩ => ⟨h₁, h₂, h₃, h₄⟩,
      fun h => ⟨h.activities, h.pending, h.adminGrants, h.rules⟩⟩

def digest [Sha256] (payload : ActivityCheckpointPayload) : Except DashboardServiceError String := do
  failIf (¬payload.Serializes) .auditUnavailable
  pure (hex (Sha256.digest (Json.obj payload.fields).toVec).toList)

end ActivityCheckpointPayload

structure ActivityCheckpoint where
  payload : ActivityCheckpointPayload
  digest : String
  deriving DecidableEq

def ActivityCheckpoint.toVec (checkpoint : ActivityCheckpoint) : List UInt8 :=
  (Json.obj (checkpoint.payload.fields ++ [("digest", .str checkpoint.digest)])).toVec

/-! ### The file -/

def maxActivityCheckpointBytes : ℕ := 8 * 1024 * 1024

/-- The file of the checkpoint, as what its bytes hold, with what the writes to it will meet. -/
structure CheckpointFile where
  content : Option ActivityCheckpoint
  faults : List (Option IoFault)
  deriving DecidableEq

/-- Replaces the checkpoint. The bytes go to a file of their own, which then takes the place of the
old one, so that an interrupted write has either not begun or replaced everything. -/
def replaceCheckpoint (checkpoint : ActivityCheckpoint) : Eff CheckpointFile AuditError Unit :=
  ofRun fun file =>
    match file.faults with
    | some .failed :: faults => (.error .io, { file with faults })
    | some (.interrupted _) :: faults => (.error .io, ⟨some checkpoint, faults⟩)
    | none :: faults => (.ok (), ⟨some checkpoint, faults⟩)
    | [] => (.ok (), ⟨some checkpoint, []⟩)

def writeActivityCheckpoint (checkpoint : ActivityCheckpoint) :
    Eff CheckpointFile AuditError Unit := do
  throwIf (checkpoint.toVec.length > maxActivityCheckpointBytes) .limitExceeded
  replaceCheckpoint checkpoint

end Dashboard
