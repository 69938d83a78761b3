/-
**Reading policy rules and filters.**

The readers that the daemon derives for the values that user interfaces send to it. Numbers are read from
numbers of at most 64 bits, never from texts; a field that may be absent may be left out; a rule is checked
as it is read.

Main definitions:

* `Dashboard.PolicyRule.fromJson`, `Dashboard.AuditFilter.fromJson` — the readers.

Main results:

* `Dashboard.PolicyRule.fromJson_toJson` — a valid rule is read back from its JSON form.
-/

import DeviceLane.Dashboard.Audit

open Dashboard JsonCodec

namespace Json

variable {fields : List (String × Json)} {key : String}

/-! ### Fields -/

def requiredU64 (fields : List (String × Json)) (key : String) : Option ℕ := do
  let n : ℕ ← required fields key
  if n ≤ u64Max then some n else none

def optionalU64 (fields : List (String × Json)) (key : String) : Option (Option ℕ) := do
  let n : Option ℕ ← optional fields key
  if ∀ m ∈ n, m ≤ u64Max then some n else none

def flag (fields : List (String × Json)) (key : String) : Option Bool :=
  match fields.lookup key with
  | none => some false
  | some j => fromJson j

theorem requiredU64_of_lookup {n : ℕ} (hn : n ≤ u64Max) (h : fields.lookup key = some (toJson n)) :
    requiredU64 fields key = some n :=
  bind_of_eq_some (required_of_lookup h) (if_pos hn)

theorem optionalU64_of_lookup {n : Option ℕ} (hn : ∀ m ∈ n, m ≤ u64Max)
    (h : fields.lookup key = some (optionToJson n)) : optionalU64 fields key = some n :=
  bind_of_eq_some (optional_of_lookup h) (if_pos hn)

theorem flag_of_lookup {b : Bool} (h : fields.lookup key = some (toJson b)) :
    flag fields key = some b := by
  rw [flag, h]
  exact fromJson_toJson b

theorem requiredU64_of_text {text : String} (h : fields.lookup key = some (.str text)) :
    requiredU64 fields key = none := by
  rw [requiredU64, required, h]
  rfl

theorem optionalU64_of_text {text : String} (h : fields.lookup key = some (.str text)) :
    optionalU64 fields key = none := by
  rw [optionalU64, optional, h]
  rfl

end Json

namespace Dashboard

/-! ### Policy rules -/

/-- The numbers of the rule fit into 64 bits. -/
structure PolicyRule.InU64 (rule : PolicyRule) : Prop where
  revision_le : rule.revision ≤ u64Max
  expiresAtMs_le : ∀ expiresAtMs ∈ rule.expiresAtMs, expiresAtMs ≤ u64Max

def PolicyRule.fieldNames : List String :=
  ["id", "revision", "effect", "principal_id", "source_host_id", "target_host_id", "device_id",
    "operation", "resources", "expires_at_ms", "require_user_presence", "user_presence",
    "physical_device", "match_device_exact", "match_resources_exact", "enabled", "origin"]

def PolicyRule.fromJson (j : Json) : Option PolicyRule := do
  let fields ← j.fieldsOf fieldNames
  let id ← Json.required fields "id"
  let revision ← Json.requiredU64 fields "revision"
  let effect ← Json.required fields "effect"
  let principalId ← Json.optional fields "principal_id"
  let sourceHostId ← Json.optional fields "source_host_id"
  let targetHostId ← Json.optional fields "target_host_id"
  let deviceId ← Json.optional fields "device_id"
  let operation ← Json.optional fields "operation"
  let resources ← Json.required fields "resources"
  let expiresAtMs ← Json.optionalU64 fields "expires_at_ms"
  let requireUserPresence ← Json.required fields "require_user_presence"
  let userPresence ← Json.optional fields "user_presence"
  let physicalDevice ← Json.optional fields "physical_device"
  let matchDeviceExact ← Json.flag fields "match_device_exact"
  let matchResourcesExact ← Json.flag fields "match_resources_exact"
  let enabled ← Json.required fields "enabled"
  let origin ← Json.required fields "origin"
  let rule : PolicyRule :=
    { id, revision, effect, principalId, sourceHostId, targetHostId, deviceId, operation, resources,
      expiresAtMs, requireUserPresence, userPresence, physicalDevice, matchDeviceExact,
      matchResourcesExact, enabled, origin }
  match rule.validate with
  | .ok _ => some rule
  | .error _ => none

def PolicyRule.fields (rule : PolicyRule) : List (String × Json) :=
  [("id", JsonCodec.toJson rule.id), ("revision", JsonCodec.toJson rule.revision),
    ("effect", JsonCodec.toJson rule.effect), ("principal_id", optionToJson rule.principalId),
    ("source_host_id", optionToJson rule.sourceHostId),
    ("target_host_id", optionToJson rule.targetHostId), ("device_id", optionToJson rule.deviceId),
    ("operation", optionToJson rule.operation), ("resources", JsonCodec.toJson rule.resources),
    ("expires_at_ms", optionToJson rule.expiresAtMs),
    ("require_user_presence", JsonCodec.toJson rule.requireUserPresence)]
  ++ skipNone "user_presence" rule.userPresence
  ++ skipNone "physical_device" rule.physicalDevice
  ++ [("match_device_exact", JsonCodec.toJson rule.matchDeviceExact),
    ("match_resources_exact", JsonCodec.toJson rule.matchResourcesExact),
    ("enabled", JsonCodec.toJson rule.enabled), ("origin", JsonCodec.toJson rule.origin)]

theorem PolicyRule.fieldsOf_toJson (rule : PolicyRule) :
    rule.toJson.fieldsOf fieldNames = some rule.fields := by
  change Json.fieldsOf fieldNames (.obj rule.fields) = _
  rw [Json.fieldsOf, fields]
  cases rule.userPresence <;> cases rule.physicalDevice <;> simp [skipNone, fieldNames]

/-- **A valid rule is read back from its JSON form.** -/
theorem PolicyRule.fromJson_toJson {rule : PolicyRule} (h : rule.validate = .ok ())
    (hu64 : rule.InU64) : fromJson rule.toJson = some rule := by
  have hId : Json.required rule.fields "id" = some rule.id := Json.required_of_lookup rfl
  have hRevision : Json.requiredU64 rule.fields "revision" = some rule.revision :=
    Json.requiredU64_of_lookup hu64.revision_le rfl
  have hEffect : Json.required rule.fields "effect" = some rule.effect := Json.required_of_lookup rfl
  have hPrincipal : Json.optional rule.fields "principal_id" = some rule.principalId :=
    Json.optional_of_lookup rfl
  have hSource : Json.optional rule.fields "source_host_id" = some rule.sourceHostId :=
    Json.optional_of_lookup rfl
  have hTarget : Json.optional rule.fields "target_host_id" = some rule.targetHostId :=
    Json.optional_of_lookup rfl
  have hDevice : Json.optional rule.fields "device_id" = some rule.deviceId :=
    Json.optional_of_lookup rfl
  have hOperation : Json.optional rule.fields "operation" = some rule.operation :=
    Json.optional_of_lookup rfl
  have hResources : Json.required rule.fields "resources" = some rule.resources :=
    Json.required_of_lookup rfl
  have hExpires : Json.optionalU64 rule.fields "expires_at_ms" = some rule.expiresAtMs :=
    Json.optionalU64_of_lookup hu64.expiresAtMs_le rfl
  have hRequire : Json.required rule.fields "require_user_presence" = some rule.requireUserPresence :=
    Json.required_of_lookup rfl
  -- What stands behind the two fields that are left out when they are absent moves with them.
  have hPresence : Json.optional rule.fields "user_presence" = some rule.userPresence := by
    rw [fields]
    cases rule.userPresence <;> cases rule.physicalDevice <;> rfl
  have hPhysical : Json.optional rule.fields "physical_device" = some rule.physicalDevice := by
    rw [fields]
    cases rule.userPresence <;> cases rule.physicalDevice <;> rfl
  have hDeviceExact : Json.flag rule.fields "match_device_exact" = some rule.matchDeviceExact := by
    rw [fields]
    cases rule.userPresence <;> cases rule.physicalDevice <;> exact Json.flag_of_lookup rfl
  have hResourcesExact : Json.flag rule.fields "match_resources_exact"
      = some rule.matchResourcesExact := by
    rw [fields]
    cases rule.userPresence <;> cases rule.physicalDevice <;> exact Json.flag_of_lookup rfl
  have hEnabled : Json.required rule.fields "enabled" = some rule.enabled := by
    rw [fields]
    cases rule.userPresence <;> cases rule.physicalDevice <;> exact Json.required_of_lookup rfl
  have hOrigin : Json.required rule.fields "origin" = some rule.origin := by
    rw [fields]
    cases rule.userPresence <;> cases rule.physicalDevice <;> exact Json.required_of_lookup rfl
  have hvalid : (match rule.validate with
      | .ok _ => some rule
      | .error _ => none) = some rule := by
    rw [h]
  rw [fromJson]
  exact Json.bind_of_eq_some rule.fieldsOf_toJson <| Json.bind_of_eq_some hId <|
    Json.bind_of_eq_some hRevision <| Json.bind_of_eq_some hEffect <|
    Json.bind_of_eq_some hPrincipal <| Json.bind_of_eq_some hSource <|
    Json.bind_of_eq_some hTarget <| Json.bind_of_eq_some hDevice <|
    Json.bind_of_eq_some hOperation <| Json.bind_of_eq_some hResources <|
    Json.bind_of_eq_some hExpires <| Json.bind_of_eq_some hRequire <|
    Json.bind_of_eq_some hPresence <| Json.bind_of_eq_some hPhysical <|
    Json.bind_of_eq_some hDeviceExact <| Json.bind_of_eq_some hResourcesExact <|
    Json.bind_of_eq_some hEnabled <| Json.bind_of_eq_some hOrigin hvalid

theorem PolicyRule.fromJson_of_revision {fields : List (String × Json)} {text : String}
    (h : fields.lookup "revision" = some (.str text)) : fromJson (.obj fields) = none := by
  rw [fromJson, Json.fieldsOf]
  split_ifs
  · change (Json.required fields "id" >>= fun _ => Json.requiredU64 fields "revision" >>= _) = none
    rw [Json.requiredU64_of_text h]
    cases Json.required (α := RuleId) fields "id" <;> rfl
  · rfl

/-! ### Filters -/

/-- The numbers of the filter fit into 64 bits. -/
structure AuditFilter.InU64 (filter : AuditFilter) : Prop where
  fromMs_le : ∀ fromMs ∈ filter.fromMs, fromMs ≤ u64Max
  throughMs_le : ∀ throughMs ∈ filter.throughMs, throughMs ≤ u64Max

def AuditFilter.fieldNames : List String :=
  ["from_ms", "through_ms", "principal_id", "source_host_id", "target_host_id", "device_id",
    "operation", "resource", "decision", "result"]

def AuditFilter.fromJson (j : Json) : Option AuditFilter := do
  let fields ← j.fieldsOf fieldNames
  let fromMs ← Json.optionalU64 fields "from_ms"
  let throughMs ← Json.optionalU64 fields "through_ms"
  let principalId ← Json.optional fields "principal_id"
  let sourceHostId ← Json.optional fields "source_host_id"
  let targetHostId ← Json.optional fields "target_host_id"
  let deviceId ← Json.optional fields "device_id"
  let operation ← Json.optional fields "operation"
  let resource ← Json.optional fields "resource"
  let decision ← Json.optional fields "decision"
  let result ← Json.optional fields "result"
  some
    { fromMs, throughMs, principalId, sourceHostId, targetHostId, deviceId, operation, resource,
      decision, result }

/-- **A filter is read back from its JSON form.** -/
theorem AuditFilter.fromJson_toJson {filter : AuditFilter} (h : filter.InU64) :
    fromJson filter.toJson = some filter := by
  rw [fromJson, toJson]
  exact Json.bind_of_eq_some (by simp [Json.fieldsOf, fieldNames]; rfl) <|
    Json.bind_of_eq_some (Json.optionalU64_of_lookup h.fromMs_le rfl) <|
    Json.bind_of_eq_some (Json.optionalU64_of_lookup h.throughMs_le rfl) <|
    Json.bind_of_eq_some (Json.optional_of_lookup rfl) <|
    Json.bind_of_eq_some (Json.optional_of_lookup rfl) <|
    Json.bind_of_eq_some (Json.optional_of_lookup rfl) <|
    Json.bind_of_eq_some (Json.optional_of_lookup rfl) <|
    Json.bind_of_eq_some (Json.optional_of_lookup rfl) <|
    Json.bind_of_eq_some (Json.optional_of_lookup rfl) <|
    Json.bind_of_eq_some (Json.optional_of_lookup rfl) <|
    Json.bind_of_eq_some (Json.optional_of_lookup rfl) rfl

theorem AuditFilter.fromJson_of_time {fields : List (String × Json)} {key text : String}
    (hkey : key = "from_ms" ∨ key = "through_ms") (h : fields.lookup key = some (.str text)) :
    fromJson (.obj fields) = none := by
  rw [fromJson, Json.fieldsOf]
  split_ifs
  · change (Json.optionalU64 fields "from_ms" >>= fun _ =>
      Json.optionalU64 fields "through_ms" >>= _) = none
    rcases hkey with rfl | rfl
    · rw [Json.optionalU64_of_text h]
      rfl
    · rw [Json.optionalU64_of_text h]
      cases Json.optionalU64 fields "from_ms" <;> rfl
  · rfl

/-! ### Scopes of deletions -/

def AuditDeletionScope.fromJson : Json → Option AuditDeletionScope
  | .str text => [currentFilter, allRetained].find? fun scope => scope.name = text
  | _ => none

@[simp] theorem AuditDeletionScope.fromJson_name (scope : AuditDeletionScope) :
    fromJson (.str scope.name) = some scope := by
  cases scope <;> rfl

end Dashboard
