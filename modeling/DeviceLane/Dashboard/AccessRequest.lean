/-
**Access requests.**

A request asks for an operation of a principal between two hosts, with the resources it needs and, for
a remote operation, the grant that describes it. Approvals are bound to a request by the digest of
its canonical form, in which the resources are sorted.

Main definitions:

* `Dashboard.AccessRequest`, `Dashboard.validateRequest` — requests and their check.

Main results:

* `Dashboard.AccessRequest.same_of_canonical_eq` — **valid requests with one canonical form are the
  same request**.
-/

import DeviceLane.Dashboard.Model
import DeviceLane.Library.Effect
import DeviceLane.Library.Sha256
import Mathlib.Data.List.Destutter

namespace Dashboard

open Effect JsonCodec

/-! ### Remote operations -/

inductive AppleOperation
  | discovery
  | physicalDevice
  | diagnostics
  | discoverProject (container : String)
  | discoverSimulator
  | buildApp (container scheme destination : String)
  | installApp (appPath : String)
  | launchApp (bundleId : String)
  | readAppLogs (bundleId : String)
  | runXcTest (container scheme destination : String)
  | hardwareGate (teamId : String)
  deriving DecidableEq, Repr

namespace AppleOperation

def requiresDevice : AppleOperation → Bool
  | .physicalDevice | .diagnostics | .installApp _ | .launchApp _ | .readAppLogs _
  | .runXcTest _ _ _ | .hardwareGate _ => true
  | .discovery | .discoverProject _ | .discoverSimulator | .buildApp _ _ _ => false

def expectedOperation : AppleOperation → String
  | .installApp _ => "apple.install_app"
  | .launchApp _ => "apple.launch_app"
  | .readAppLogs _ => "apple.read_app_logs"
  | .buildApp _ _ _ => "apple.build_app"
  | .runXcTest _ _ _ => "apple.run_xctest"
  | .hardwareGate _ => "apple.hardware_gate"
  | .discovery => "apple.discovery"
  | .physicalDevice => "apple.physical_device"
  | .diagnostics => "apple.diagnostics"
  | .discoverProject _ => "apple.discover_project"
  | .discoverSimulator => "apple.discover_simulator"

def kind : AppleOperation → String
  | .discovery => "discovery"
  | .physicalDevice => "physical_device"
  | .diagnostics => "diagnostics"
  | .discoverProject _ => "discover_project"
  | .discoverSimulator => "discover_simulator"
  | .buildApp _ _ _ => "build_app"
  | .installApp _ => "install_app"
  | .launchApp _ => "launch_app"
  | .readAppLogs _ => "read_app_logs"
  | .runXcTest _ _ _ => "run_xc_test"
  | .hardwareGate _ => "hardware_gate"

def fields : AppleOperation → List (String × Json)
  | .discovery | .physicalDevice | .diagnostics | .discoverSimulator => []
  | .discoverProject container => [("container", .str container)]
  | .buildApp container scheme destination | .runXcTest container scheme destination =>
    [("container", .str container), ("scheme", .str scheme), ("destination", .str destination)]
  | .installApp appPath => [("app_path", .str appPath)]
  | .launchApp bundleId | .readAppLogs bundleId => [("bundle_id", .str bundleId)]
  | .hardwareGate teamId => [("team_id", .str teamId)]

def toJson (operation : AppleOperation) : Json := .obj (("kind", .str operation.kind) :: operation.fields)

theorem toJson_injective : Function.Injective toJson := by
  intro a b h
  simp only [toJson, Json.obj.injEq, List.cons.injEq, Prod.mk.injEq, Json.str.injEq, true_and] at h
  obtain ⟨_, _⟩ := h
  cases a <;> cases b <;> simp_all [kind, fields]

end AppleOperation

/-! ### Grants -/

structure RemoteOperationGrant where
  requestId : String
  workspacePath : String
  deviceId : Option DeviceId
  operation : AppleOperation
  canonicalSha256 : String
  deriving DecidableEq

inductive PolicyError
  | invalidRequest
  deriving DecidableEq, Repr

def isSeparator (c : Char) : Bool := c = '/' || c = '\\'

def validRelativeRemotePath (value : String) : Bool :=
  value ≠ "" && value.utf8ByteSize ≤ 1024 && !value.toList.head?.any isSeparator
    && !value.toList.contains '\x00'
    && (value.toList.splitOnP isSeparator).all fun part => part ≠ [] && part ≠ ['.'] && part ≠ ['.', '.']

def isRequestIdChar (c : Char) : Bool := c.isAlphanum || c = '.' || c = '_' || c = '-'

namespace RemoteOperationGrant

def envelope (grant : RemoteOperationGrant) : Json :=
  .obj
    [("request_id", .str grant.requestId), ("workspace_path", .str grant.workspacePath),
      ("device_id", optionToJson grant.deviceId), ("operation", grant.operation.toJson)]

def computeDigest [Sha256] (grant : RemoteOperationGrant) : String :=
  hex (Sha256.digest grant.envelope.toVec).toList

def validateFields (grant : RemoteOperationGrant) : Except PolicyError Unit :=
  failIf
    (grant.requestId = "" ∨ grant.requestId.utf8ByteSize > 128
      ∨ ¬grant.requestId.toList.all isRequestIdChar
      ∨ ¬validRelativeRemotePath grant.workspacePath
      ∨ grant.operation.requiresDevice ≠ grant.deviceId.isSome)
    .invalidRequest

def new [Sha256] (requestId workspacePath : String) (deviceId : Option DeviceId)
    (operation : AppleOperation) : Except PolicyError RemoteOperationGrant := do
  let grant : RemoteOperationGrant := ⟨requestId, workspacePath, deviceId, operation, ""⟩
  grant.validateFields
  pure { grant with canonicalSha256 := grant.computeDigest }

def validate [Sha256] (grant : RemoteOperationGrant) : Except PolicyError Unit := do
  grant.validateFields
  failIf (grant.canonicalSha256 ≠ grant.computeDigest) .invalidRequest

def toJson (grant : RemoteOperationGrant) : Json :=
  .obj
    [("request_id", .str grant.requestId), ("workspace_path", .str grant.workspacePath),
      ("device_id", optionToJson grant.deviceId), ("operation", grant.operation.toJson),
      ("canonical_sha256", .str grant.canonicalSha256)]

theorem toJson_injective : Function.Injective toJson := by
  rintro ⟨_, _, _, _, _⟩ ⟨_, _, _, _, _⟩ h
  simp only [toJson, Json.obj.injEq, List.cons.injEq, Prod.mk.injEq, Json.str.injEq, true_and,
    and_true] at h
  obtain ⟨rfl, rfl, hdevice, hoperation, rfl⟩ := h
  rw [optionToJson_injective hdevice, AppleOperation.toJson_injective hoperation]

theorem validate_of_new [Sha256] {requestId workspacePath : String} {deviceId : Option DeviceId}
    {operation : AppleOperation} {grant : RemoteOperationGrant}
    (h : new requestId workspacePath deviceId operation = .ok grant) : grant.validate = .ok () := by
  rw [new, validateFields, failIf_bind] at h
  split at h
  · cases h
  · rename_i hfields
    cases h
    rw [validate, validateFields, failIf_bind, if_neg hfields]
    exact if_neg (not_not.2 rfl)

end RemoteOperationGrant

/-! ### Requests -/

structure AccessRequest where
  activityId : ActivityId
  principalId : PrincipalId
  sourceHostId : HostId
  targetHostId : HostId
  deviceId : Option DeviceId
  operation : OperationId
  resources : List ResourceClass
  remoteOperation : Option RemoteOperationGrant
  physicalDevice : Bool
  userPresent : Bool
  deriving DecidableEq

def holdsInstallResources (resources : List ResourceClass) : Prop :=
  .workspaceRead ∈ resources ∧ .deviceLease ∈ resources ∧ .applicationInstall ∈ resources

instance (resources : List ResourceClass) : Decidable (holdsInstallResources resources) :=
  inferInstanceAs (Decidable (_ ∧ _ ∧ _))

def AppleOperation.isInstallApp : AppleOperation → Bool
  | .installApp _ => true
  | _ => false

def validateRequest [Sha256] (request : AccessRequest) : Except PolicyError Unit := do
  failIf (request.resources.length > maxCollectionItems) .invalidRequest
  failIf (request.resources.dedup.length ≠ request.resources.length) .invalidRequest
  match request.remoteOperation with
  | none => .ok ()
  | some remote => do
      remote.validate
      failIf
        (request.operation.text ≠ remote.operation.expectedOperation
          ∨ request.deviceId ≠ remote.deviceId
          ∨ remote.operation.isInstallApp ∧ ¬holdsInstallResources request.resources)
        .invalidRequest

namespace AccessRequest

/-- The form of a request. The grant is left out where there is none. -/
def toJson (request : AccessRequest) : Json :=
  .obj
    ([("activity_id", JsonCodec.toJson request.activityId),
      ("principal_id", JsonCodec.toJson request.principalId),
      ("source_host_id", JsonCodec.toJson request.sourceHostId),
      ("target_host_id", JsonCodec.toJson request.targetHostId),
      ("device_id", optionToJson request.deviceId),
      ("operation", JsonCodec.toJson request.operation),
      ("resources", JsonCodec.toJson request.resources)]
    ++ (request.remoteOperation.map fun remote => ("remote_operation", remote.toJson)).toList
    ++ [("physical_device", JsonCodec.toJson request.physicalDevice),
      ("user_present", JsonCodec.toJson request.userPresent)])

theorem toJson_injective : Function.Injective toJson := by
  rintro ⟨_, _, _, _, _, _, _, remote, a₈, a₉⟩ ⟨_, _, _, _, _, _, _, remote', b₈, b₉⟩ h
  simp only [toJson, Json.obj.injEq, List.cons_append, List.nil_append, List.cons.injEq,
    Prod.mk.injEq, true_and] at h
  obtain ⟨h₁, h₂, h₃, h₄, h₅, h₆, h₇, hrest⟩ := h
  have htail : remote = remote' ∧ a₈ = b₈ ∧ a₉ = b₉ := by
    cases remote with
    | none =>
      cases remote' with
      | none =>
        simp only [Option.map_none, Option.toList_none, List.nil_append, List.cons.injEq,
          Prod.mk.injEq, true_and, and_true] at hrest
        exact ⟨rfl, JsonCodec.toJson_injective hrest.1, JsonCodec.toJson_injective hrest.2⟩
      | some => simp at hrest
    | some =>
      cases remote' with
      | none => simp at hrest
      | some =>
        simp only [Option.map_some, Option.toList_some, List.cons_append, List.nil_append,
          List.cons.injEq, Prod.mk.injEq, true_and, and_true] at hrest
        exact ⟨congrArg some (RemoteOperationGrant.toJson_injective hrest.1),
          JsonCodec.toJson_injective hrest.2.1, JsonCodec.toJson_injective hrest.2.2⟩
  obtain ⟨rfl, rfl, rfl⟩ := htail
  rw [JsonCodec.toJson_injective h₁, JsonCodec.toJson_injective h₂, JsonCodec.toJson_injective h₃,
    JsonCodec.toJson_injective h₄, optionToJson_injective h₅, JsonCodec.toJson_injective h₆,
    JsonCodec.toJson_injective h₇]

end AccessRequest

theorem validateRequest_eq_ok [Sha256] {request : AccessRequest} :
    validateRequest request = .ok () ↔
      request.resources.length ≤ maxCollectionItems ∧ request.resources.Nodup ∧
        ∀ remote ∈ request.remoteOperation, remote.validate = .ok () ∧
          request.operation.text = remote.operation.expectedOperation ∧
          request.deviceId = remote.deviceId ∧
          (remote.operation.isInstallApp → holdsInstallResources request.resources) := by
  have hunique : request.resources.dedup.length = request.resources.length ↔
      request.resources.Nodup :=
    ⟨fun h => List.dedup_eq_self.1 ((List.dedup_sublist _).eq_of_length h),
      fun h => congrArg List.length (List.dedup_eq_self.2 h)⟩
  rw [validateRequest, failIf_bind, failIf_bind, ← hunique, ← not_lt]
  by_cases hlen : maxCollectionItems < request.resources.length
  · simp [hlen]
  · by_cases hdup : request.resources.dedup.length = request.resources.length
    · rw [if_neg hlen, if_neg (not_not.2 hdup)]
      cases request.remoteOperation with
      | none => simp [hlen, hdup]
      | some remote =>
        cases hremote : remote.validate with
        | error => simp [hremote, error_bind]
        | ok =>
          have hneg : ¬(request.operation.text ≠ remote.operation.expectedOperation
              ∨ request.deviceId ≠ remote.deviceId
              ∨ remote.operation.isInstallApp ∧ ¬holdsInstallResources request.resources) ↔
              request.operation.text = remote.operation.expectedOperation ∧
                request.deviceId = remote.deviceId ∧
                (remote.operation.isInstallApp → holdsInstallResources request.resources) := by
            tauto
          simp only [hremote, ok_bind, hlen, hdup, Option.mem_def, Option.some.injEq,
            forall_eq', ← hneg, not_false_eq_true, true_and]
          rw [failIf]
          split <;> simp_all
    · simp [hlen, hdup]

/-! ### Canonical requests -/

def ResourceClass.rank (resource : ResourceClass) : ℕ := resource.ctorIdx

def sortDedup (resources : List ResourceClass) : List ResourceClass :=
  (resources.mergeSort fun a b => a.rank ≤ b.rank).destutter (· ≠ ·)

def AccessRequest.canonical (request : AccessRequest) : AccessRequest :=
  { request with resources := sortDedup request.resources }

def requestDigest [Sha256] (request : AccessRequest) : Digest :=
  Sha256.digest request.canonical.toJson.toVec

theorem perm_sortDedup {resources : List ResourceClass} (h : resources.Nodup) :
    (sortDedup resources).Perm resources := by
  have hperm := List.mergeSort_perm resources fun a b => decide (a.rank ≤ b.rank)
  have hnodup := hperm.nodup_iff.2 h
  rwa [sortDedup, List.destutter_of_isChain _ _ (List.Pairwise.isChain hnodup)]

theorem sortDedup_eq_of_perm {a b : List ResourceClass} (h : a.Perm b) : sortDedup a = sortDedup b := by
  have hrank : ∀ x y : ResourceClass, x.rank ≤ y.rank → y.rank ≤ x.rank → x = y := by
    intro x y hle hge
    have hsame := Nat.le_antisymm hle hge
    revert hsame
    cases x <;> cases y <;> decide
  have hsorted : ∀ l : List ResourceClass,
      (l.mergeSort fun a b => a.rank ≤ b.rank).Pairwise fun a b => a.rank ≤ b.rank := by
    intro l
    have hpairwise := @List.pairwise_mergeSort _ (fun a b : ResourceClass => a.rank ≤ b.rank)
      (fun a b c hab hbc => by simp only [decide_eq_true_eq] at *; omega)
      (fun a b => by simp only [Bool.or_eq_true, decide_eq_true_eq]; omega) l
    simpa using hpairwise
  have hsort : (a.mergeSort fun a b => a.rank ≤ b.rank) = b.mergeSort fun a b => a.rank ≤ b.rank := by
    refine List.Perm.eq_of_pairwise (fun x y _ _ => hrank x y) (hsorted _) (hsorted _) ?_
    exact (List.mergeSort_perm _ _).trans (h.trans (List.mergeSort_perm _ _).symm)
  rw [sortDedup, sortDedup, hsort]

def AccessRequest.Same (a b : AccessRequest) : Prop :=
  { a with resources := b.resources } = b ∧ a.resources.Perm b.resources

namespace AccessRequest

theorem Same.refl (a : AccessRequest) : a.Same a := ⟨rfl, List.Perm.refl _⟩

/-- **Valid requests with one canonical form are the same request.** -/
theorem same_of_canonical_eq [Sha256] {a b : AccessRequest} (ha : validateRequest a = .ok ())
    (hb : validateRequest b = .ok ()) (h : a.canonical = b.canonical) : a.Same b := by
  have hresources : sortDedup a.resources = sortDedup b.resources := congrArg resources h
  have hpermA := perm_sortDedup (validateRequest_eq_ok.1 ha).2.1
  have hpermB := perm_sortDedup (validateRequest_eq_ok.1 hb).2.1
  rw [← hresources] at hpermB
  have hperm : a.resources.Perm b.resources := hpermA.symm.trans hpermB
  refine ⟨?_, hperm⟩
  cases a
  cases b
  simp_all [canonical]

/-- **The canonical form does not depend on the order of the resources.** -/
theorem Same.canonical_eq {a b : AccessRequest} (h : a.Same b) : a.canonical = b.canonical := by
  rw [canonical, canonical, ← h.1, sortDedup_eq_of_perm h.2]

end AccessRequest

end Dashboard
