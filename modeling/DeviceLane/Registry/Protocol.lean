/-
**The messages of the registry.**

Agents and clients send requests to the registry, one on a line, and get one response each. A request
names jobs, devices, leases and artifacts by texts; who sends it is known from the certificate of the
connection and is not part of the request.

Main definitions:

* `Registry.LeaseRequest`, `Registry.LeaseGrant` — leases of devices.
-/

import DeviceLane.Dashboard.Topology
import DeviceLane.Library.Sha256
import Mathlib.Data.Finset.Basic

namespace Registry

open Dashboard (HostSnapshot trim)
open Effect

/-! ### Paths -/

inductive PathComponent
  | rootDir
  | curDir
  | parentDir
  | normal (name : String)
  deriving DecidableEq, Repr

def isAbsolutePath (path : String) : Bool := path.toList.head? = some '/'

def pathComponent (part : String) (index : ℕ) : Option PathComponent :=
  if part = "" then none
  else if part = "." then
    if index = 0 then some .curDir else none
  else if part = ".." then some .parentDir
  else some (.normal part)

def pathComponents (path : String) : List PathComponent :=
  (if isAbsolutePath path then [.rootDir] else []) ++
    ((path.toList.splitOn '/').map String.ofList).zipIdx.filterMap fun part =>
      pathComponent part.1 part.2

def PathComponent.isNormal : PathComponent → Bool
  | normal _ => true
  | _ => false

def isRelativePath (path : String) : Bool :=
  !isAbsolutePath path && (pathComponents path).all PathComponent.isNormal

def validId (value : String) : Bool := value ≠ "" && isRelativePath value

/-! ### Jobs -/

structure ManifestUpload where
  path : String
  contents : String
  deriving DecidableEq, Repr

structure RunRequest where
  principalId : String
  hostId : String
  deviceId : String
  workspaceId : String
  requestId : String
  manifest : List ManifestUpload
  deriving DecidableEq, Repr

structure NetworkEvent where
  sequence : ℕ
  kind : String
  payload : String
  deriving DecidableEq, Repr

structure AuditRecord where
  principalId : String
  hostId : String
  deviceId : String
  workspaceId : String
  jobId : String
  result : String
  deriving DecidableEq, Repr

structure RemoteProtocolVersion where
  major : ℕ
  minor : ℕ
  deriving DecidableEq, Repr

inductive AppleOperation
  | discovery
  | physicalDevice
  | diagnostics
  | discoverProject (container : String)
  | discoverSimulator
  | buildApp (container scheme destination : String)
  | installApp (appPath : String)
  | launchApp (bundleId : String)
  | readAppLogs (bundleId : String)
  | runXcTest (container scheme destination : String)
  | hardwareGate (teamId : String)
  deriving DecidableEq, Repr

namespace AppleOperation

def capability : AppleOperation → String
  | discovery => "apple.discovery@1"
  | physicalDevice => "apple.device@1"
  | diagnostics => "apple.diagnostics@1"
  | discoverProject _ => "apple.project@1"
  | discoverSimulator => "apple.simulator@1"
  | buildApp _ _ _ => "apple.build@1"
  | installApp _ => "apple.simulator@1"
  | launchApp _ => "apple.simulator@1"
  | readAppLogs _ => "apple.simulator@1"
  | runXcTest _ _ _ => "apple.xctest@1"
  | hardwareGate _ => "apple.hardware-gate@1"

def requiresDevice : AppleOperation → Bool
  | physicalDevice => true
  | diagnostics => true
  | installApp _ => true
  | launchApp _ => true
  | readAppLogs _ => true
  | runXcTest _ _ _ => true
  | hardwareGate _ => true
  | _ => false

def mutatesDevice : AppleOperation → Bool
  | physicalDevice => true
  | diagnostics => true
  | installApp _ => true
  | launchApp _ => true
  | runXcTest _ _ _ => true
  | hardwareGate _ => true
  | _ => false

end AppleOperation

structure AppleRequest where
  version : RemoteProtocolVersion
  requestId : String
  idempotencyKey : String
  capability : String
  workspacePath : String
  deviceId : Option String
  leaseId : Option String
  operation : AppleOperation
  deriving DecidableEq, Repr

structure ProtocolError where
  code : String
  message : String
  deriving DecidableEq, Repr

def validText (value : String) : Bool := trim value ≠ ""

def validBundle (value : String) : Bool :=
  value.toList.contains '.' && value.toList.all fun c => c.isAlphanum || c = '.' || c = '-'

def AppleOperation.validParameters : AppleOperation → Bool
  | discoverProject container => validId container
  | buildApp container scheme destination =>
    validId container && validText scheme && validText destination
  | runXcTest container scheme destination =>
    validId container && validText scheme && validText destination
  | installApp appPath => validId appPath
  | launchApp bundleId => validBundle bundleId
  | readAppLogs bundleId => validBundle bundleId
  | hardwareGate teamId =>
    teamId.utf8ByteSize = 10 && teamId.toList.all fun c => c.isUpper || c.isDigit
  | _ => true

def validIdentifier (identifier : String) : Bool :=
  identifier ≠ "" &&
    identifier.toList.all fun c => c.isAlphanum || c = '-' || c = '_' || c = '.'

def validateRequestEnvelope (request : AppleRequest) : Except ProtocolError Unit := do
  failIf (request.version ≠ ⟨1, 0⟩) ⟨"unsupported_version", "unsupported protocol version"⟩
  failIf (request.requestId = "" ∨ request.idempotencyKey = "")
    ⟨"invalid_request", "request identifiers must not be empty"⟩
  failIf (request.capability ≠ request.operation.capability)
    ⟨"unsupported_capability", "capability does not match the operation"⟩
  failIf (validId request.workspacePath = false)
    ⟨"workspace_path_denied", "workspace path is outside the workspace"⟩
  failIf (request.operation.requiresDevice = true ∧ request.deviceId = none)
    ⟨"unknown_device", "device is not available"⟩
  failIf (request.operation.validParameters = false)
    ⟨"invalid_apple_parameter", "apple operation parameter is invalid"⟩
  failIf (request.deviceId.all validIdentifier = false ∨ request.leaseId.all validIdentifier = false)
    ⟨"invalid_request", "device or lease identifier is invalid"⟩

/-! ### Leases -/

structure LeaseGrant where
  leaseId : String
  deviceId : String
  clientId : String
  jobId : String
  expiresAtMs : ℕ
  signature : List UInt8
  deriving DecidableEq, Repr

/-- What is signed of a grant: its fields, with zero bytes between them. -/
def LeaseGrant.signedPayload (grant : LeaseGrant) : List UInt8 :=
  Endian.textBytes (grant.leaseId ++ "\x00" ++ grant.deviceId ++ "\x00" ++ grant.clientId ++ "\x00"
    ++ grant.jobId ++ "\x00" ++ Nat.repr grant.expiresAtMs)

inductive LeaseRequest
  | acquire (deviceId : String) (lifetimeMs : ℕ)
  | renew (leaseId : String) (lifetimeMs : ℕ)
  | queue (deviceId : String) (lifetimeMs : ℕ)
  | release (leaseId : String)
  | revoke (leaseId : String)
  | validate (grant : LeaseGrant)
  | disconnect
  | agentDetach (deviceId : String)
  deriving DecidableEq, Repr

/-! ### Artifacts -/

structure NetworkArtifactMetadata where
  id : String
  jobId : String
  name : String
  mediaType : String
  totalSize : ℕ
  sha256 : String
  deriving DecidableEq, Repr

structure ArtifactChunk where
  offset : ℕ
  totalSize : ℕ
  sha256 : String
  bytes : List UInt8
  deriving DecidableEq, Repr

/-! ### Requests and responses -/

/-- A request. Of a claim for access to a dashboard, what comes of it is given: the assertion that is
issued, if one is. -/
inductive Request
  | heartbeat (host : HostSnapshot)
  | complete (jobId artifact : String) (events : List NetworkEvent)
  | list
  | authenticateDashboardAccess (assertion : Option String)
  | run (operation : RunRequest)
  | events (jobId : String) (after : ℕ)
  | appleRun (operation : AppleRequest)
  | appleProgress (jobId : String) (events : List NetworkEvent) (terminal : Bool)
  | appleCancel (jobId : String)
  | artifactRegister (jobId name mediaType : String) (totalSize : ℕ) (sha256 : String)
  | artifactWrite (artifactId : String) (offset totalSize : ℕ) (sha256 chunkSha256 : String)
      (bytes : List UInt8)
  | artifactRead (artifactId : String) (offset length totalSize : ℕ) (sha256 : String)
  | artifactInfo (artifactId : String)
  | lease (operation : LeaseRequest)
  deriving DecidableEq

/-- A response. The jobs to be cancelled come in no particular order. -/
structure Response where
  accepted : Bool
  hosts : List HostSnapshot
  jobId : Option String
  events : List NetworkEvent
  audit : List AuditRecord
  artifact : Option String
  error : Option String
  operation : Option RunRequest
  appleOperation : Option AppleRequest
  cancelJobs : Finset String
  artifactMetadata : Option NetworkArtifactMetadata
  artifactChunk : Option ArtifactChunk
  confirmedOffset : Option ℕ
  leaseGrant : Option LeaseGrant
  leaseStatus : Option String
  deriving DecidableEq

def response : Response :=
  { accepted := true
    hosts := []
    jobId := none
    events := []
    audit := []
    artifact := none
    error := none
    operation := none
    appleOperation := none
    cancelJobs := ∅
    artifactMetadata := none
    artifactChunk := none
    confirmedOffset := none
    leaseGrant := none
    leaseStatus := none }

def errorResponse (error : String) : Response :=
  { response with
    accepted := false
    error := some error }

end Registry
