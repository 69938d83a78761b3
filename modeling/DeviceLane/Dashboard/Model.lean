/-
**The records of the dashboard.**

Activities, approval requests, policy rules and audit records, the enumerations they are made of,
what makes a record valid, and the JSON form of each.

Main definitions:

* `Dashboard.ActivityEvent`, `Dashboard.ActivityEvent.validate` — one state of an activity.

Main results:

* `Dashboard.AuditRecord.fromJson_toJson` — a valid audit record is read back from its JSON form.
-/

import DeviceLane.Dashboard.Identifiers
import DeviceLane.Library.JsonCodec

namespace Dashboard

open JsonCodec

/-- The largest value of the source's `u64`; its values are natural numbers here. -/
def u64Max : ℕ := 2 ^ 64 - 1

def saturatingAdd (a b : ℕ) : ℕ := min (a + b) u64Max

def checkedAdd (a b : ℕ) : Option ℕ := if a + b ≤ u64Max then some (a + b) else none

def maxCollectionItems : ℕ := 128

instance {kind : IdKind} : JsonCodec (ValidatedId kind) where
  toJson id := .str id.text
  fromJson
    | .str s => (ValidatedId.parse s).toOption
    | _ => none
  fromJson_toJson id := by simp [Except.toOption]
  toJson_ne_null _ := nofun

instance : JsonCodec SafeCode where
  toJson code := .str code.text
  fromJson
    | .str s => (SafeCode.parse s).toOption
    | _ => none
  fromJson_toJson code := by simp [Except.toOption]
  toJson_ne_null _ := nofun

/-! ### Enumerations -/

inductive ResourceClass
  | workspaceRead
  | workspaceWrite
  | artifactUpload
  | artifactDownload
  | deviceLease
  | applicationInstall
  | applicationLaunch
  | debugger
  | signing
  | microphone
  | screenCapture
  | networkEndpoint
  | deviceLanePolicy
  | deviceLaneService
  deriving DecidableEq, Repr

def ResourceClass.name : ResourceClass → String
  | .workspaceRead => "workspace_read"
  | .workspaceWrite => "workspace_write"
  | .artifactUpload => "artifact_upload"
  | .artifactDownload => "artifact_download"
  | .deviceLease => "device_lease"
  | .applicationInstall => "application_install"
  | .applicationLaunch => "application_launch"
  | .debugger => "debugger"
  | .signing => "signing"
  | .microphone => "microphone"
  | .screenCapture => "screen_capture"
  | .networkEndpoint => "network_endpoint"
  | .deviceLanePolicy => "device_lane_policy"
  | .deviceLaneService => "device_lane_service"

instance : JsonName ResourceClass where
  all := [.workspaceRead, .workspaceWrite, .artifactUpload, .artifactDownload, .deviceLease,
    .applicationInstall, .applicationLaunch, .debugger, .signing, .microphone, .screenCapture,
    .networkEndpoint, .deviceLanePolicy, .deviceLaneService]
  name := ResourceClass.name
  mem_all := by intro a; cases a <;> decide
  name_injective := by intro a b; cases a <;> cases b <;> simp [ResourceClass.name]

inductive ActivityState
  | awaitingApproval
  | queued
  | running
  | reconnecting
  | succeeded
  | failed
  | denied
  | cancelled
  deriving DecidableEq, Repr

def ActivityState.name : ActivityState → String
  | .awaitingApproval => "awaiting_approval"
  | .queued => "queued"
  | .running => "running"
  | .reconnecting => "reconnecting"
  | .succeeded => "succeeded"
  | .failed => "failed"
  | .denied => "denied"
  | .cancelled => "cancelled"

instance : JsonName ActivityState where
  all := [.awaitingApproval, .queued, .running, .reconnecting, .succeeded, .failed, .denied,
    .cancelled]
  name := ActivityState.name
  mem_all := by intro a; cases a <;> decide
  name_injective := by intro a b; cases a <;> cases b <;> simp [ActivityState.name]

inductive PolicyEffect
  | allow
  | deny
  deriving DecidableEq, Repr

def PolicyEffect.name : PolicyEffect → String
  | .allow => "allow"
  | .deny => "deny"

instance : JsonName PolicyEffect where
  all := [.allow, .deny]
  name := PolicyEffect.name
  mem_all := by intro a; cases a <;> decide
  name_injective := by intro a b; cases a <;> cases b <;> simp [PolicyEffect.name]

inductive ApprovalDecision
  | allowOnce
  | allowAndRemember
  | denyOnce
  | denyAndBlock
  deriving DecidableEq, Repr

inductive PolicyOrigin
  | user
  | managed
  deriving DecidableEq, Repr

def PolicyOrigin.name : PolicyOrigin → String
  | .user => "user"
  | .managed => "managed"

instance : JsonName PolicyOrigin where
  all := [.user, .managed]
  name := PolicyOrigin.name
  mem_all := by intro a; cases a <;> decide
  name_injective := by intro a b; cases a <;> cases b <;> simp [PolicyOrigin.name]

inductive AuditResult
  | attempted
  | succeeded
  | failed
  | denied
  | cancelled
  | deleted
  deriving DecidableEq, Repr

def AuditResult.name : AuditResult → String
  | .attempted => "attempted"
  | .succeeded => "succeeded"
  | .failed => "failed"
  | .denied => "denied"
  | .cancelled => "cancelled"
  | .deleted => "deleted"

instance : JsonName AuditResult where
  all := [.attempted, .succeeded, .failed, .denied, .cancelled, .deleted]
  name := AuditResult.name
  mem_all := by intro a; cases a <;> decide
  name_injective := by intro a b; cases a <;> cases b <;> simp [AuditResult.name]

inductive MessageCode
  | activityStarted
  | registryStale
  | observerUnavailable
  | operationSucceeded
  | operationFailed
  | targetOffline
  | registryDisconnected
  | daemonRestarted
  | eventResyncRequired
  | auditUnavailable
  | approvalExpired
  | policyDenied
  | leaseStale
  | operationCancelled
  | agentIncompatible
  | accessDenied
  | targetConfirmationRequired
  | redacted
  deriving DecidableEq, Repr

def MessageCode.asStr : MessageCode → String
  | .activityStarted => "activity_started"
  | .registryStale => "registry_stale"
  | .observerUnavailable => "observer_unavailable"
  | .operationSucceeded => "operation_succeeded"
  | .operationFailed => "operation_failed"
  | .targetOffline => "target_offline"
  | .registryDisconnected => "registry_disconnected"
  | .daemonRestarted => "daemon_restarted"
  | .eventResyncRequired => "event_resync_required"
  | .auditUnavailable => "audit_unavailable"
  | .approvalExpired => "approval_expired"
  | .policyDenied => "policy_denied"
  | .leaseStale => "lease_stale"
  | .operationCancelled => "operation_cancelled"
  | .agentIncompatible => "agent_incompatible"
  | .accessDenied => "access_denied"
  | .targetConfirmationRequired => "target_confirmation_required"
  | .redacted => "redacted"

instance : JsonName MessageCode where
  all := [.activityStarted, .registryStale, .observerUnavailable, .operationSucceeded,
    .operationFailed, .targetOffline, .registryDisconnected, .daemonRestarted,
    .eventResyncRequired, .auditUnavailable, .approvalExpired, .policyDenied, .leaseStale,
    .operationCancelled, .agentIncompatible, .accessDenied, .targetConfirmationRequired, .redacted]
  name := MessageCode.asStr
  mem_all := by intro a; cases a <;> decide
  name_injective := by intro a b; cases a <;> cases b <;> simp [MessageCode.asStr]

def MessageCode.fromSafeStr (value : String) : Option MessageCode := ofName value

inductive MessageParam
  | local
  | remote
  | allowed
  | denied
  | unavailable
  deriving DecidableEq, Repr

def MessageParam.name : MessageParam → String
  | .local => "local"
  | .remote => "remote"
  | .allowed => "allowed"
  | .denied => "denied"
  | .unavailable => "unavailable"

instance : JsonName MessageParam where
  all := [.local, .remote, .allowed, .denied, .unavailable]
  name := MessageParam.name
  mem_all := by intro a; cases a <;> decide
  name_injective := by intro a b; cases a <;> cases b <;> simp [MessageParam.name]

/-! ### The checks the records share -/

def validateLen (length : ℕ) (path : String) : Except ValidationError Unit :=
  if length > maxCollectionItems then .error (.at "collection_too_large" path) else .ok ()

def validateUnique (seen : List ResourceClass) (index : ℕ) :
    List ResourceClass → Except ValidationError Unit
  | [] => .ok ()
  | resource :: resources =>
    if resource ∈ seen then
      .error (.atIndex "duplicate_resource_class" "resources" index)
    else
      validateUnique (resource :: seen) (index + 1) resources

def validateUniqueResources (resources : List ResourceClass) : Except ValidationError Unit := do
  validateLen resources.length "resources"
  validateUnique [] 0 resources

theorem validateUnique_eq_ok {seen resources : List ResourceClass} {index : ℕ} :
    validateUnique seen index resources = .ok () ↔
      resources.Nodup ∧ ∀ r ∈ resources, r ∉ seen := by
  induction resources generalizing seen index with
  | nil => simp [validateUnique]
  | cons resource resources ih =>
    rw [validateUnique]
    by_cases hmem : resource ∈ seen
    · rw [if_pos hmem]
      simp [hmem]
    · rw [if_neg hmem, ih, List.nodup_cons]
      constructor
      · rintro ⟨hnodup, hseen⟩
        refine ⟨⟨fun hin => hseen resource hin List.mem_cons_self, hnodup⟩, ?_⟩
        intro r hr
        rcases List.mem_cons.1 hr with rfl | hr
        · exact hmem
        · exact fun hin => hseen r hr (List.mem_cons_of_mem _ hin)
      · rintro ⟨⟨hnot, hnodup⟩, hseen⟩
        refine ⟨hnodup, fun r hr hin => ?_⟩
        rcases List.mem_cons.1 hin with rfl | hin
        · exact hnot hr
        · exact hseen r (List.mem_cons_of_mem _ hr) hin

theorem validateUniqueResources_eq_ok {resources : List ResourceClass} :
    validateUniqueResources resources = .ok () ↔
      resources.length ≤ maxCollectionItems ∧ resources.Nodup := by
  rw [validateUniqueResources, validateLen]
  by_cases hlen : resources.length > maxCollectionItems
  · rw [if_pos hlen]
    constructor
    · intro h
      cases h
    · rintro ⟨_, -⟩
      omega
  · rw [if_neg hlen]
    change validateUnique [] 0 resources = .ok () ↔ _
    rw [validateUnique_eq_ok]
    simp only [List.not_mem_nil, not_false_eq_true, implies_true, and_true]
    exact ⟨fun h => ⟨by omega, h⟩, fun h => h.2⟩

def validateLifecycle (state : ActivityState) (startedAtMs finishedAtMs occurredAtMs : Option ℕ) :
    Except ValidationError Unit := do
  match state with
  | .awaitingApproval | .queued =>
    if startedAtMs.isSome then
      throw (.at "unexpected_started_at" "started_at_ms")
    if finishedAtMs.isSome then
      throw (.at "unexpected_finished_at" "finished_at_ms")
  | .running | .reconnecting =>
    if startedAtMs.isNone then
      throw (.at "missing_started_at" "started_at_ms")
    if finishedAtMs.isSome then
      throw (.at "unexpected_finished_at" "finished_at_ms")
  | .succeeded | .failed =>
    if startedAtMs.isNone then
      throw (.at "missing_started_at" "started_at_ms")
    if finishedAtMs.isNone then
      throw (.at "missing_finished_at" "finished_at_ms")
  | .denied | .cancelled =>
    if finishedAtMs.isNone then
      throw (.at "missing_finished_at" "finished_at_ms")
  if let (some started, some occurred) := (startedAtMs, occurredAtMs) then
    if started > occurred then
      throw (.at "non_monotonic_time" "occurred_at_ms")
  if let (some started, some finished) := (startedAtMs, finishedAtMs) then
    if started > finished then
      throw (.at "non_monotonic_time" "finished_at_ms")
  if let (some occurred, some finished) := (occurredAtMs, finishedAtMs) then
    if occurred > finished then
      throw (.at "non_monotonic_time" "finished_at_ms")

/-! ### Messages and metrics -/

structure DisplayMessage where
  code : MessageCode
  params : List MessageParam
  deriving DecidableEq, Repr

def DisplayMessage.validate (message : DisplayMessage) : Except ValidationError Unit :=
  validateLen message.params.length "params"

def DisplayMessage.toJson (message : DisplayMessage) : Json :=
  .obj [("code", JsonCodec.toJson message.code), ("params", JsonCodec.toJson message.params)]

def DisplayMessage.fromJson (j : Json) : Option DisplayMessage := do
  let fields ← j.fieldsOf ["code", "params"]
  let code ← Json.required fields "code"
  let params ← Json.required fields "params"
  let message : DisplayMessage := { code, params }
  match message.validate with
  | .ok _ => some message
  | .error _ => none

theorem DisplayMessage.fromJson_toJson {message : DisplayMessage} (h : message.validate = .ok ()) :
    fromJson message.toJson = some message := by
  obtain ⟨code, params⟩ := message
  have hfields : Json.fieldsOf ["code", "params"] (DisplayMessage.toJson ⟨code, params⟩)
      = some [("code", JsonCodec.toJson code), ("params", JsonCodec.toJson params)] := by
    simp [DisplayMessage.toJson, Json.fieldsOf]
  rw [fromJson, hfields]
  refine Json.bind_of_eq_some rfl <| Json.bind_of_eq_some (Json.required_of_lookup rfl) <|
    Json.bind_of_eq_some (Json.required_of_lookup rfl) ?_
  dsimp only
  rw [h]

inductive MetricValue
  | available (value : ℕ)
  | unavailable (reason : SafeCode)
  deriving DecidableEq

def MetricValue.toJson : MetricValue → Json
  | .available value => .obj [("available", .obj [("value", JsonCodec.toJson value)])]
  | .unavailable reason => .obj [("unavailable", .obj [("reason", JsonCodec.toJson reason)])]

structure MetricSnapshot where
  currentMemoryBytes : MetricValue
  peakMemoryBytes : MetricValue
  cpuTimeMs : MetricValue
  processCount : MetricValue
  deriving DecidableEq

def MetricSnapshot.validate (metrics : MetricSnapshot) : Except ValidationError Unit :=
  match metrics.currentMemoryBytes, metrics.peakMemoryBytes with
  | .available current, .available peak =>
    if peak < current then
      .error (.at "invalid_metric_snapshot" "metrics.peak_memory_bytes")
    else
      .ok ()
  | _, _ => .ok ()

def MetricSnapshot.toJson (metrics : MetricSnapshot) : Json :=
  .obj
    [("current_memory_bytes", metrics.currentMemoryBytes.toJson),
      ("peak_memory_bytes", metrics.peakMemoryBytes.toJson),
      ("cpu_time_ms", metrics.cpuTimeMs.toJson), ("process_count", metrics.processCount.toJson)]

/-! ### Activities -/

structure Authorization where
  effect : PolicyEffect
  ruleId : Option RuleId
  approvalId : Option ApprovalId
  deriving DecidableEq

def Authorization.toJson (authorization : Authorization) : Json :=
  .obj
    [("effect", JsonCodec.toJson authorization.effect),
      ("rule_id", optionToJson authorization.ruleId),
      ("approval_id", optionToJson authorization.approvalId)]

structure ActivityEvent where
  activityId : ActivityId
  sequence : ℕ
  occurredAtMs : ℕ
  principalId : PrincipalId
  sourceHostId : HostId
  targetHostId : HostId
  deviceId : Option DeviceId
  operation : OperationId
  resources : List ResourceClass
  remoteOperationSha256 : Option String
  authorization : Authorization
  state : ActivityState
  message : Option DisplayMessage
  metrics : MetricSnapshot
  startedAtMs : Option ℕ
  finishedAtMs : Option ℕ
  deriving DecidableEq

def ActivityEvent.validate (event : ActivityEvent) : Except ValidationError Unit := do
  validateUniqueResources event.resources
  event.metrics.validate
  validateLifecycle event.state event.startedAtMs event.finishedAtMs (some event.occurredAtMs)

def skipNone {α : Type} [JsonCodec α] (key : String) : Option α → List (String × Json)
  | none => []
  | some a => [(key, toJson a)]

def ActivityEvent.fieldNames : List String :=
  ["activity_id", "sequence", "occurred_at_ms", "principal_id", "source_host_id",
    "target_host_id", "device_id", "operation", "resources", "remote_operation_sha256",
    "authorization", "state", "message", "metrics", "started_at_ms", "finished_at_ms"]

def ActivityEvent.fields (event : ActivityEvent) : List (String × Json) :=
  [("activity_id", JsonCodec.toJson event.activityId),
    ("sequence", JsonCodec.toJson event.sequence),
    ("occurred_at_ms", JsonCodec.toJson event.occurredAtMs),
    ("principal_id", JsonCodec.toJson event.principalId),
    ("source_host_id", JsonCodec.toJson event.sourceHostId),
    ("target_host_id", JsonCodec.toJson event.targetHostId),
    ("device_id", optionToJson event.deviceId),
    ("operation", JsonCodec.toJson event.operation),
    ("resources", JsonCodec.toJson event.resources)]
  ++ skipNone "remote_operation_sha256" event.remoteOperationSha256
  ++ [("authorization", event.authorization.toJson),
    ("state", JsonCodec.toJson event.state),
    ("message", (event.message.map DisplayMessage.toJson).getD .null),
    ("metrics", event.metrics.toJson),
    ("started_at_ms", optionToJson event.startedAtMs),
    ("finished_at_ms", optionToJson event.finishedAtMs)]

def ActivityEvent.toJson (event : ActivityEvent) : Json := .obj event.fields

/-- The bytes of an event. Serialization checks the event again, and its message. -/
def ActivityEvent.toVec (event : ActivityEvent) : Except ValidationError (List UInt8) := do
  event.validate
  if let some message := event.message then
    message.validate
  pure event.toJson.toVec

structure EventCursor where
  epoch : ℕ
  sequence : ℕ
  deriving DecidableEq, Repr

/-! ### Approval requests -/

structure ApprovalRequest where
  id : ApprovalId
  activityId : ActivityId
  principalId : PrincipalId
  sourceHostId : HostId
  targetHostId : HostId
  deviceId : Option DeviceId
  operation : OperationId
  resources : List ResourceClass
  remoteOperationSha256 : Option String
  requestedAtMs : ℕ
  expiresAtMs : ℕ
  risk : SafeCode
  deriving DecidableEq

def ApprovalRequest.validate (request : ApprovalRequest) : Except ValidationError Unit := do
  validateUniqueResources request.resources
  if request.requestedAtMs ≥ request.expiresAtMs then
    throw (.at "non_monotonic_time" "expires_at_ms")

/-! ### Policy rules -/

structure PolicyRule where
  id : RuleId
  revision : ℕ
  effect : PolicyEffect
  principalId : Option PrincipalId
  sourceHostId : Option HostId
  targetHostId : Option HostId
  deviceId : Option DeviceId
  operation : Option OperationId
  resources : List ResourceClass
  expiresAtMs : Option ℕ
  requireUserPresence : Bool
  userPresence : Option Bool
  physicalDevice : Option Bool
  matchDeviceExact : Bool
  matchResourcesExact : Bool
  enabled : Bool
  origin : PolicyOrigin
  deriving DecidableEq

def PolicyRule.validate (rule : PolicyRule) : Except ValidationError Unit := do
  validateUniqueResources rule.resources
  if rule.requireUserPresence ∧ rule.userPresence.isSome then
    throw (.at "redundant_presence_constraints" "user_presence")

def PolicyRule.toJson (rule : PolicyRule) : Json :=
  .obj
    ([("id", JsonCodec.toJson rule.id), ("revision", JsonCodec.toJson rule.revision),
      ("effect", JsonCodec.toJson rule.effect), ("principal_id", optionToJson rule.principalId),
      ("source_host_id", optionToJson rule.sourceHostId),
      ("target_host_id", optionToJson rule.targetHostId),
      ("device_id", optionToJson rule.deviceId), ("operation", optionToJson rule.operation),
      ("resources", JsonCodec.toJson rule.resources),
      ("expires_at_ms", optionToJson rule.expiresAtMs),
      ("require_user_presence", JsonCodec.toJson rule.requireUserPresence)]
    ++ skipNone "user_presence" rule.userPresence
    ++ skipNone "physical_device" rule.physicalDevice
    ++ [("match_device_exact", JsonCodec.toJson rule.matchDeviceExact),
      ("match_resources_exact", JsonCodec.toJson rule.matchResourcesExact),
      ("enabled", JsonCodec.toJson rule.enabled), ("origin", JsonCodec.toJson rule.origin)])

/-! ### Audit records -/

structure AuditRecord where
  sequence : ℕ
  occurredAtMs : ℕ
  activityId : Option ActivityId
  principalId : PrincipalId
  sourceHostId : HostId
  targetHostId : HostId
  deviceId : Option DeviceId
  operation : OperationId
  resources : List ResourceClass
  decision : PolicyEffect
  result : AuditResult
  redactedMessage : Option DisplayMessage
  deriving DecidableEq

def AuditRecord.validate (record : AuditRecord) : Except ValidationError Unit :=
  validateUniqueResources record.resources

def AuditRecord.fieldNames : List String :=
  ["sequence", "occurred_at_ms", "activity_id", "principal_id", "source_host_id",
    "target_host_id", "device_id", "operation", "resources", "decision", "result",
    "redacted_message"]

def AuditRecord.fields (record : AuditRecord) : List (String × Json) :=
  [("sequence", JsonCodec.toJson record.sequence),
    ("occurred_at_ms", JsonCodec.toJson record.occurredAtMs),
    ("activity_id", optionToJson record.activityId),
    ("principal_id", JsonCodec.toJson record.principalId),
    ("source_host_id", JsonCodec.toJson record.sourceHostId),
    ("target_host_id", JsonCodec.toJson record.targetHostId),
    ("device_id", optionToJson record.deviceId),
    ("operation", JsonCodec.toJson record.operation),
    ("resources", JsonCodec.toJson record.resources),
    ("decision", JsonCodec.toJson record.decision),
    ("result", JsonCodec.toJson record.result),
    ("redacted_message", (record.redactedMessage.map DisplayMessage.toJson).getD .null)]

def AuditRecord.toJson (record : AuditRecord) : Json := .obj record.fields

def optionalMessage (fields : List (String × Json)) (key : String) :
    Option (Option DisplayMessage) :=
  match fields.lookup key with
  | none => some none
  | some .null => some none
  | some j => (DisplayMessage.fromJson j).map some

def AuditRecord.fromJson (j : Json) : Option AuditRecord := do
  let fields ← j.fieldsOf fieldNames
  let sequence ← Json.required fields "sequence"
  let occurredAtMs ← Json.required fields "occurred_at_ms"
  let activityId ← Json.optional fields "activity_id"
  let principalId ← Json.required fields "principal_id"
  let sourceHostId ← Json.required fields "source_host_id"
  let targetHostId ← Json.required fields "target_host_id"
  let deviceId ← Json.optional fields "device_id"
  let operation ← Json.required fields "operation"
  let resources ← Json.required fields "resources"
  let decision ← Json.required fields "decision"
  let result ← Json.required fields "result"
  let redactedMessage ← optionalMessage fields "redacted_message"
  let record : AuditRecord :=
    { sequence, occurredAtMs, activityId, principalId, sourceHostId, targetHostId, deviceId,
      operation, resources, decision, result, redactedMessage }
  match record.validate with
  | .ok _ => some record
  | .error _ => none

theorem optionalMessage_eq_some {fields : List (String × Json)} {key : String}
    {message : Option DisplayMessage} (hvalid : ∀ m ∈ message, m.validate = .ok ())
    (h : fields.lookup key = some ((message.map DisplayMessage.toJson).getD .null)) :
    optionalMessage fields key = some message := by
  rw [optionalMessage, h]
  cases message with
  | none => rfl
  | some m =>
    have hread : DisplayMessage.fromJson m.toJson = some m :=
      DisplayMessage.fromJson_toJson (hvalid m rfl)
    simp only [Option.map_some, Option.getD_some]
    split
    · rename_i hnone
      cases hnone
    · rename_i hnull
      cases hnull
    · rename_i j _ hj
      cases hj
      rw [hread]
      rfl

/-- **A valid audit record is read back from its JSON form.** -/
theorem AuditRecord.fromJson_toJson {record : AuditRecord} (h : record.validate = .ok ())
    (hmessage : ∀ m ∈ record.redactedMessage, m.validate = .ok ()) :
    fromJson record.toJson = some record := by
  have hfields : record.toJson.fieldsOf fieldNames = some record.fields := by
    simp [toJson, Json.fieldsOf, fields, fieldNames]
  have hSequence : Json.required record.fields "sequence" = some record.sequence :=
    Json.required_of_lookup rfl
  have hOccurredAt : Json.required record.fields "occurred_at_ms" = some record.occurredAtMs :=
    Json.required_of_lookup rfl
  have hActivity : Json.optional record.fields "activity_id" = some record.activityId :=
    Json.optional_of_lookup rfl
  have hPrincipal : Json.required record.fields "principal_id" = some record.principalId :=
    Json.required_of_lookup rfl
  have hSource : Json.required record.fields "source_host_id" = some record.sourceHostId :=
    Json.required_of_lookup rfl
  have hTarget : Json.required record.fields "target_host_id" = some record.targetHostId :=
    Json.required_of_lookup rfl
  have hDevice : Json.optional record.fields "device_id" = some record.deviceId :=
    Json.optional_of_lookup rfl
  have hOperation : Json.required record.fields "operation" = some record.operation :=
    Json.required_of_lookup rfl
  have hResources : Json.required record.fields "resources" = some record.resources :=
    Json.required_of_lookup rfl
  have hDecision : Json.required record.fields "decision" = some record.decision :=
    Json.required_of_lookup rfl
  have hResult : Json.required record.fields "result" = some record.result :=
    Json.required_of_lookup rfl
  have hMessage : optionalMessage record.fields "redacted_message" = some record.redactedMessage :=
    optionalMessage_eq_some hmessage rfl
  have hvalid : (match record.validate with
      | .ok _ => some record
      | .error _ => none) = some record := by
    rw [h]
  rw [fromJson]
  exact Json.bind_of_eq_some hfields <| Json.bind_of_eq_some hSequence <|
    Json.bind_of_eq_some hOccurredAt <| Json.bind_of_eq_some hActivity <|
    Json.bind_of_eq_some hPrincipal <| Json.bind_of_eq_some hSource <|
    Json.bind_of_eq_some hTarget <| Json.bind_of_eq_some hDevice <|
    Json.bind_of_eq_some hOperation <| Json.bind_of_eq_some hResources <|
    Json.bind_of_eq_some hDecision <| Json.bind_of_eq_some hResult <|
    Json.bind_of_eq_some hMessage hvalid

end Dashboard
