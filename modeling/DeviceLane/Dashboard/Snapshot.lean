/-
**Snapshots of the dashboard.**

A snapshot lists the hosts with their devices, the activities, the leases of devices and the approvals
that are waited for. It is sent and received only if it is valid: its lists are short, what they hold
is valid, and each lease is for a device that is listed under the host of the lease.

Main definitions:

* `Dashboard.DashboardDevice`, `Dashboard.DashboardHost` — what is shown of a device and a host.

Main results:

* `DashboardSnapshot.validate_eq_ok` — **the check accepts exactly the valid snapshots**.
-/

import DeviceLane.Dashboard.Model

namespace Dashboard

def maxTextBytes : ℕ := 4096

def ValidationError.prepend (error : ValidationError) (start : String) : ValidationError :=
  { error with path := if error.path = "" then start else start ++ "." ++ error.path }

inductive DashboardScope
  | local
  | mesh
  deriving DecidableEq, Repr

inductive Presence
  | offline
  | connecting
  | online
  | busy
  | attentionRequired
  | remoteAccessPaused
  deriving DecidableEq, Repr

inductive Freshness
  | live
  | stale (lastSeenAtMs : ℕ)
  | unknown
  deriving DecidableEq, Repr

def Freshness.isStale : Freshness → Bool
  | stale _ => true
  | live | unknown => false

inductive LeaseState
  | active
  | uncertain
  deriving DecidableEq, Repr

inductive TrustState
  | local
  | trusted
  | untrusted
  | revoked
  deriving DecidableEq, Repr

inductive ConnectionPath
  | local
  | direct
  | registry
  | unavailable
  deriving DecidableEq, Repr

def ConnectionPath.debugName : ConnectionPath → String
  | .local => "Local"
  | .direct => "Direct"
  | .registry => "Registry"
  | .unavailable => "Unavailable"

/-! ### Checks of fields -/

def validateText (value path : String) : Except ValidationError Unit :=
  if trim value = "" then
    .error (.at "empty_text" path)
  else if value.utf8ByteSize > maxTextBytes then
    .error (.at "text_too_long" path)
  else
    .ok ()

def validatePresence (presence : Presence) (freshness : Freshness) : Except ValidationError Unit :=
  if presence = .offline ∧ freshness.isStale = false then
    .error (.at "missing_last_seen_at" "freshness")
  else
    .ok ()

theorem validateText_eq_ok {value path : String} :
    validateText value path = .ok () ↔ trim value ≠ "" ∧ value.utf8ByteSize ≤ maxTextBytes := by
  rw [validateText]
  split_ifs with hempty hlong
  · simp [hempty]
  · simp only [false_iff, not_and]
    omega
  · simp only [true_iff]
    exact ⟨hempty, by omega⟩

theorem validatePresence_eq_ok {presence : Presence} {freshness : Freshness} :
    validatePresence presence freshness = .ok () ↔
      (presence = .offline → freshness.isStale = true) := by
  rw [validatePresence]
  split_ifs with hmissing
  · simp [hmissing.1, hmissing.2]
  · simp only [true_iff]
    intro hoffline
    cases hstale : freshness.isStale with
    | true => rfl
    | false => exact absurd ⟨hoffline, hstale⟩ hmissing

theorem validateLen_eq_ok {length : ℕ} {path : String} :
    validateLen length path = .ok () ↔ length ≤ maxCollectionItems := by
  rw [validateLen]
  split_ifs with hlong
  · simp only [false_iff]
    omega
  · simp only [true_iff]
    omega

theorem check_bind_eq_ok {ε α : Type} {first : Except ε Unit} {rest : Except ε α} {a : α} :
    (first >>= fun _ => rest) = .ok a ↔ first = .ok () ∧ rest = .ok a := by
  cases first with
  | error error =>
    change Except.error error = _ ↔ _
    simp
  | ok =>
    change rest = _ ↔ _
    simp

theorem mapError_eq_ok {ε ε' α : Type} {f : ε → ε'} {r : Except ε α} {a : α} :
    r.mapError f = .ok a ↔ r = .ok a := by
  cases r with
  | error | ok => simp [Except.mapError]

def validateEach {α : Type} (field : String) (check : α → Except ValidationError Unit) (index : ℕ) :
    List α → Except ValidationError Unit
  | [] => .ok ()
  | item :: items => do
      (check item).mapError fun error => error.prepend (field ++ "[" ++ Nat.repr index ++ "]")
      validateEach field check (index + 1) items

/-- **The loop accepts the items that pass their check.** -/
theorem validateEach_eq_ok {α : Type} {field : String} {check : α → Except ValidationError Unit}
    {index : ℕ} {items : List α} :
    validateEach field check index items = .ok () ↔ ∀ item ∈ items, check item = .ok () := by
  induction items generalizing index with
  | nil => simp [validateEach]
  | cons item items ih => rw [validateEach, check_bind_eq_ok, mapError_eq_ok, ih, List.forall_mem_cons]

/-! ### Hosts and devices -/

structure DashboardDevice where
  id : DeviceId
  hostId : HostId
  displayName : String
  platform : SafeCode
  presence : Presence
  freshness : Freshness
  capabilities : List CapabilityCode
  permissions : List SafeCode
  deriving DecidableEq

def DashboardDevice.validate (device : DashboardDevice) : Except ValidationError Unit := do
  validateText device.displayName "display_name"
  validatePresence device.presence device.freshness
  validateLen device.capabilities.length "capabilities"
  validateLen device.permissions.length "permissions"

structure DashboardHost where
  id : HostId
  displayName : String
  platform : SafeCode
  architecture : SafeCode
  presence : Presence
  freshness : Freshness
  trust : TrustState
  connectionPath : ConnectionPath
  capabilities : List CapabilityCode
  permissions : List SafeCode
  devices : List DashboardDevice
  deriving DecidableEq

def DashboardHost.validateDevice (id : HostId) (device : DashboardDevice) :
    Except ValidationError Unit := do
  device.validate
  if device.hostId ≠ id then .error (.at "device_host_mismatch" "host_id") else .ok ()

def DashboardHost.validate (host : DashboardHost) : Except ValidationError Unit := do
  validateText host.displayName "display_name"
  validatePresence host.presence host.freshness
  validateLen host.capabilities.length "capabilities"
  validateLen host.permissions.length "permissions"
  validateLen host.devices.length "devices"
  validateEach "devices" (DashboardHost.validateDevice host.id) 0 host.devices

theorem DashboardDevice.validate_eq_ok {device : DashboardDevice} :
    device.validate = .ok () ↔
      (trim device.displayName ≠ "" ∧ device.displayName.utf8ByteSize ≤ maxTextBytes) ∧
        (device.presence = .offline → device.freshness.isStale = true) ∧
        device.capabilities.length ≤ maxCollectionItems ∧
        device.permissions.length ≤ maxCollectionItems := by
  rw [validate]
  simp only [check_bind_eq_ok, validateText_eq_ok, validatePresence_eq_ok, validateLen_eq_ok]

theorem DashboardHost.validateDevice_eq_ok {id : HostId} {device : DashboardDevice} :
    validateDevice id device = .ok () ↔ device.validate = .ok () ∧ device.hostId = id := by
  rw [validateDevice, check_bind_eq_ok]
  simp

theorem DashboardHost.validate_eq_ok {host : DashboardHost} :
    host.validate = .ok () ↔
      (trim host.displayName ≠ "" ∧ host.displayName.utf8ByteSize ≤ maxTextBytes) ∧
        (host.presence = .offline → host.freshness.isStale = true) ∧
        host.capabilities.length ≤ maxCollectionItems ∧
        host.permissions.length ≤ maxCollectionItems ∧
        host.devices.length ≤ maxCollectionItems ∧
        ∀ device ∈ host.devices, device.validate = .ok () ∧ device.hostId = host.id := by
  rw [validate]
  simp only [check_bind_eq_ok, validateText_eq_ok, validatePresence_eq_ok, validateLen_eq_ok,
    validateEach_eq_ok, validateDevice_eq_ok]

/-! ### Lifecycles -/

def LifecycleTimes (state : ActivityState) (startedAtMs finishedAtMs : Option ℕ) : Prop :=
  match state with
  | .awaitingApproval | .queued => startedAtMs = none ∧ finishedAtMs = none
  | .running | .reconnecting => startedAtMs.isSome = true ∧ finishedAtMs = none
  | .succeeded | .failed => startedAtMs.isSome = true ∧ finishedAtMs.isSome = true
  | .denied | .cancelled => finishedAtMs.isSome = true

theorem error_bind_eq {ε α β : Type} (e : ε) (f : α → Except ε β) :
    ((Except.error e : Except ε α) >>= f) = .error e := rfl

theorem throw_eq_error {ε α : Type} (e : ε) : (throw e : Except ε α) = .error e := rfl

theorem pure_eq_ok {ε α : Type} (a : α) : (pure a : Except ε α) = .ok a := rfl

theorem ite_error_eq_ok {ε α : Type} {c : Prop} [Decidable c] {e : ε} {r : Except ε α} {a : α} :
    (if c then .error e else r) = .ok a ↔ ¬c ∧ r = .ok a := by
  split_ifs with hc
  · simp [hc]
  · simp [hc]

/-- **What the check of a lifecycle accepts**: the times that belong to the state, in their order. -/
theorem validateLifecycle_eq_ok {state : ActivityState}
    {startedAtMs finishedAtMs occurredAtMs : Option ℕ} :
    validateLifecycle state startedAtMs finishedAtMs occurredAtMs = .ok () ↔
      LifecycleTimes state startedAtMs finishedAtMs ∧
        (∀ started ∈ startedAtMs, ∀ occurred ∈ occurredAtMs, started ≤ occurred) ∧
        (∀ started ∈ startedAtMs, ∀ finished ∈ finishedAtMs, started ≤ finished) ∧
        ∀ occurred ∈ occurredAtMs, ∀ finished ∈ finishedAtMs, occurred ≤ finished := by
  unfold validateLifecycle
  cases state <;> rcases startedAtMs with - | started <;> rcases finishedAtMs with - | finished <;>
    rcases occurredAtMs with - | occurred <;>
    simp [LifecycleTimes, error_bind_eq, throw_eq_error, pure_eq_ok, ite_error_eq_ok]

/-! ### Activities, leases and warnings -/

structure ActivitySummary where
  activityId : ActivityId
  principalId : PrincipalId
  sourceHostId : HostId
  targetHostId : HostId
  deviceId : Option DeviceId
  operation : OperationId
  resources : List ResourceClass
  remoteOperationSha256 : Option String
  state : ActivityState
  startedAtMs : Option ℕ
  finishedAtMs : Option ℕ
  deriving DecidableEq

def ActivityEvent.summary (event : ActivityEvent) : ActivitySummary :=
  { activityId := event.activityId
    principalId := event.principalId
    sourceHostId := event.sourceHostId
    targetHostId := event.targetHostId
    deviceId := event.deviceId
    operation := event.operation
    resources := event.resources
    remoteOperationSha256 := event.remoteOperationSha256
    state := event.state
    startedAtMs := event.startedAtMs
    finishedAtMs := event.finishedAtMs }

def ActivitySummary.validate (summary : ActivitySummary) : Except ValidationError Unit := do
  validateUniqueResources summary.resources
  validateLifecycle summary.state summary.startedAtMs summary.finishedAtMs none

structure DashboardLease where
  id : LeaseId
  ownerHostId : HostId
  deviceId : DeviceId
  state : LeaseState
  deriving DecidableEq

structure DashboardWarning where
  code : SafeCode
  message : DisplayMessage
  hostId : Option HostId
  deriving DecidableEq

def DashboardWarning.validate (warning : DashboardWarning) : Except ValidationError Unit :=
  warning.message.validate

/-! ### Snapshots -/

structure DashboardSnapshot where
  revision : ℕ
  generatedAtMs : ℕ
  scope : DashboardScope
  hosts : List DashboardHost
  activities : List ActivitySummary
  leases : List DashboardLease
  pendingApprovals : List ApprovalRequest
  warnings : List DashboardWarning
  deriving DecidableEq

def DashboardLease.isListed (hosts : List DashboardHost) (lease : DashboardLease) : Bool :=
  match hosts.find? fun host => host.id = lease.ownerHostId with
  | none => false
  | some host => host.devices.any fun device => device.id = lease.deviceId

def validateLeases (hosts : List DashboardHost) (seen : List LeaseId) (index : ℕ) :
    List DashboardLease → Except ValidationError Unit
  | [] => .ok ()
  | lease :: leases =>
    if lease.id ∈ seen then
      .error (.atIndex "duplicate_lease_id" "leases" index)
    else if lease.isListed hosts = false then
      .error (.at "lease_device_mismatch" ("leases[" ++ Nat.repr index ++ "].device_id"))
    else
      validateLeases hosts (lease.id :: seen) (index + 1) leases

def DashboardSnapshot.validate (snapshot : DashboardSnapshot) : Except ValidationError Unit := do
  validateLen snapshot.hosts.length "hosts"
  validateLen snapshot.activities.length "activities"
  validateLen snapshot.leases.length "leases"
  validateLen snapshot.pendingApprovals.length "pending_approvals"
  validateLen snapshot.warnings.length "warnings"
  validateEach "hosts" DashboardHost.validate 0 snapshot.hosts
  validateEach "activities" ActivitySummary.validate 0 snapshot.activities
  validateLeases snapshot.hosts [] 0 snapshot.leases
  validateEach "pending_approvals" ApprovalRequest.validate 0 snapshot.pendingApprovals
  validateEach "warnings" DashboardWarning.validate 0 snapshot.warnings

theorem validateLeases_eq_ok {hosts : List DashboardHost} {seen : List LeaseId} {index : ℕ}
    {leases : List DashboardLease} :
    validateLeases hosts seen index leases = .ok () ↔
      (leases.map DashboardLease.id).Nodup ∧ (∀ lease ∈ leases, lease.id ∉ seen) ∧
        ∀ lease ∈ leases, lease.isListed hosts = true := by
  induction leases generalizing seen index with
  | nil => simp [validateLeases]
  | cons lease leases ih =>
    rw [validateLeases]
    split_ifs with hseen hlisted
    · simp [hseen]
    · simp [hlisted]
    · rw [ih, List.map_cons, List.nodup_cons, List.forall_mem_cons, List.forall_mem_cons]
      rw [Bool.not_eq_false] at hlisted
      constructor
      · rintro ⟨hnodup, hnew, hlists⟩
        refine ⟨⟨fun hmem => ?_, hnodup⟩, ⟨hseen, fun other hother hin => ?_⟩, hlisted, hlists⟩
        · obtain ⟨other, hother, hid⟩ := List.mem_map.1 hmem
          exact hnew other hother (hid ▸ List.mem_cons_self)
        · exact hnew other hother (List.mem_cons_of_mem _ hin)
      · rintro ⟨⟨hfresh, hnodup⟩, ⟨-, hnew⟩, -, hlists⟩
        refine ⟨hnodup, fun other hother hin => ?_, hlists⟩
        rcases List.mem_cons.1 hin with hid | hin
        · exact hfresh (List.mem_map.2 ⟨other, hother, hid⟩)
        · exact hnew other hother hin

/-- What a snapshot has to satisfy. -/
structure DashboardSnapshot.Valid (snapshot : DashboardSnapshot) : Prop where
  hosts_le : snapshot.hosts.length ≤ maxCollectionItems
  activities_le : snapshot.activities.length ≤ maxCollectionItems
  leases_le : snapshot.leases.length ≤ maxCollectionItems
  pendingApprovals_le : snapshot.pendingApprovals.length ≤ maxCollectionItems
  warnings_le : snapshot.warnings.length ≤ maxCollectionItems
  hosts : ∀ host ∈ snapshot.hosts, host.validate = .ok ()
  activities : ∀ activity ∈ snapshot.activities, activity.validate = .ok ()
  leaseIds : (snapshot.leases.map DashboardLease.id).Nodup
  leases : ∀ lease ∈ snapshot.leases, lease.isListed snapshot.hosts = true
  pendingApprovals : ∀ approval ∈ snapshot.pendingApprovals, approval.validate = .ok ()
  warnings : ∀ warning ∈ snapshot.warnings, warning.validate = .ok ()

/-- **The check accepts exactly the valid snapshots.** -/
theorem DashboardSnapshot.validate_eq_ok {snapshot : DashboardSnapshot} :
    snapshot.validate = .ok () ↔ snapshot.Valid := by
  rw [validate]
  simp only [check_bind_eq_ok, validateLen_eq_ok, validateEach_eq_ok, validateLeases_eq_ok]
  constructor
  · rintro ⟨hhosts, hactivities, hleases, happrovals, hwarnings, hhost, hactivity, ⟨hids, -, hlease⟩,
      happroval, hwarning⟩
    exact ⟨hhosts, hactivities, hleases, happrovals, hwarnings, hhost, hactivity, hids, hlease,
      happroval, hwarning⟩
  · intro h
    exact ⟨h.hosts_le, h.activities_le, h.leases_le, h.pendingApprovals_le, h.warnings_le, h.hosts,
      h.activities, ⟨h.leaseIds, fun _ _ => List.not_mem_nil, h.leases⟩, h.pendingApprovals,
      h.warnings⟩

end Dashboard
