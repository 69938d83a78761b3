/-
**Access over the mesh.**

A controller signs a claim that its user wants an access on another host. The registry looks whether the
claim comes over the session of the controller that it names, and whether the controller signed it; then it
approves the claim for a minute. The target looks whether the registry signed the approval. So an access
that the target lets through was claimed by the controller of its source host, over a session of its own.

Signatures are those of a library: they cannot be forged, so that what verifies has been signed by whoever
the key belongs to, and certificates carry the keys of the machines that they name.

Main definitions:

* `Registry.MeshStep` — what happens in a run: machines sign, ask the registry, and ask the target.

Main results:

* `Registry.Mesh.bound_of_run` — **mesh access is bound end to end**.
-/

import DeviceLane.Dashboard.PolicyCalls
import DeviceLane.Registry.ControllerSession

namespace Registry

open Dashboard (AccessRequest HostId PrincipalId ValidatedId mapError_eq_ok u64Max)
open Effect (failIf bind_eq_ok failIf_bind ok_bind)

/-! ### Signatures of peers -/

/-- The library for signatures: the key that is in a certificate, and whether a signature is one of a
message. -/
structure Ecdsa where
  publicKey : List UInt8 → Option (List UInt8)
  verify : List UInt8 → List UInt8 → List UInt8 → Bool

def SecureTransport.verifyPeerSignature (ecdsa : Ecdsa) (transport : SecureTransport) (peerId : String)
    (message signature : List UInt8) : Except TransportError Unit :=
  if peerId ∈ transport.revoked then
    .error .revokedPeer
  else
    match transport.trusted.lookup peerId with
    | none => .error .untrustedPeer
    | some certificate =>
      match ecdsa.publicKey certificate with
      | none => .error .invalidCertificate
      | some key => if ecdsa.verify key message signature then .ok () else .error .invalidCertificate

structure Identity where
  id : Except TransportError String
  sign : List UInt8 → Except TransportError (List UInt8)

theorem verifyPeerSignature_eq_ok {ecdsa : Ecdsa} {transport : SecureTransport} {peerId : String}
    {message signature : List UInt8}
    (h : transport.verifyPeerSignature ecdsa peerId message signature = .ok ()) :
    ∃ certificate key, transport.trusted.lookup peerId = some certificate ∧
      ecdsa.publicKey certificate = some key ∧ ecdsa.verify key message signature = true := by
  unfold SecureTransport.verifyPeerSignature at h
  split at h
  · cases h
  split at h
  · cases h
  rename_i certificate htrusted
  split at h
  · cases h
  rename_i key hkey
  split at h
  · rename_i hverify
    exact ⟨certificate, key, htrusted, hkey, hverify⟩
  · cases h

/-! ### The three machines -/

section

variable [Sha256]

variable {ecdsa : Ecdsa}

/-- **A controller claims an access of its user.** -/
def signMeshAccessClaim (identity : Identity) (currentOsPrincipal : Except ControllerSessionError String)
    (access : AccessRequest) : Except ControllerSessionError (MeshAccessClaim × List UInt8) := do
  let controllerPeerId ← identity.id.mapError fun _ => .invalidInput
  let osPrincipalId ← currentOsPrincipal
  let principalId : PrincipalId ← (ValidatedId.parse osPrincipalId).mapError fun _ => .invalidInput
  let sourceHostId : HostId ← (ValidatedId.parse controllerPeerId).mapError fun _ => .invalidInput
  let claim : MeshAccessClaim :=
    { access := { access with principalId, sourceHostId }
      controllerPeerId
      osPrincipalId }
  let message ← claim.toVec
  let signature ← (identity.sign message).mapError fun _ => .invalidSignature
  pure (claim, signature)

/-- **The registry approves a claim** that comes over the session of a controller. -/
def issueMeshApproval (ecdsa : Ecdsa) (registry : SecureTransport) (identity : Identity)
    (authenticatedControllerPeer : String) (claim : MeshAccessClaim) (clientSignature : List UInt8)
    (issuedAtMs lifetimeMs : ℕ) (random : List UInt8) :
    Except ControllerSessionError MeshApprovalAssertion := do
  failIf (lifetimeMs = 0 ∨ lifetimeMs > 60000) .invalidInput
  failIf
    (claim.controllerPeerId ≠ authenticatedControllerPeer
      ∨ claim.access.sourceHostId.text ≠ authenticatedControllerPeer
      ∨ claim.access.principalId.text ≠ claim.osPrincipalId
      ∨ claim.osPrincipalId = "")
    .invalidInput
  let message ← claim.toVec
  (registry.verifyPeerSignature ecdsa authenticatedControllerPeer message clientSignature).mapError
    fun _ => .invalidSignature
  let registryPeerId ← identity.id.mapError fun _ => .invalidInput
  failIf (issuedAtMs + lifetimeMs > u64Max) .invalidInput
  let payload : MeshApprovalPayload :=
    { access := claim.access
      registryPeerId
      controllerPeerId := authenticatedControllerPeer
      osPrincipalId := claim.osPrincipalId
      sessionId := hex random
      issuedAtMs
      expiresAtMs := issuedAtMs + lifetimeMs }
  let message ← payload.toVec
  let signature ← (identity.sign message).mapError fun _ => .invalidSignature
  pure ⟨payload, signature⟩

/-- **The target looks at an approval.** -/
def verifyMeshApproval (ecdsa : Ecdsa) (verifier : SecureTransport) (assertion : MeshApprovalAssertion)
    (expectedRegistryPeer : String) (expectedTargetHost : HostId) (nowMs : ℕ) :
    Except ControllerSessionError AccessRequest := do
  let payload := assertion.payload
  failIf (payload.registryPeerId ≠ expectedRegistryPeer) .controllerPeerMismatch
  failIf
    (payload.access.targetHostId ≠ expectedTargetHost
      ∨ payload.access.principalId.text ≠ payload.osPrincipalId
      ∨ payload.access.sourceHostId.text ≠ payload.controllerPeerId
      ∨ payload.osPrincipalId = "")
    .invalidInput
  failIf (nowMs < payload.issuedAtMs ∨ nowMs > payload.expiresAtMs) .expired
  let message ← payload.toVec
  (verifier.verifyPeerSignature ecdsa expectedRegistryPeer message assertion.signature).mapError
    fun _ => .invalidSignature
  pure payload.access

omit [Sha256] in
theorem eq_ok_of_toOption {ε α : Type} {r : Except ε α} {a : α} (h : r.toOption = some a) :
    r = .ok a := by
  cases r with
  | error => cases h
  | ok =>
    obtain rfl := Option.some.inj h
    rfl

theorem issueMeshApproval_eq_ok {registry : SecureTransport} {identity : Identity} {peer : String}
    {claim : MeshAccessClaim} {clientSignature random : List UInt8} {issuedAtMs lifetimeMs : ℕ}
    {assertion : MeshApprovalAssertion}
    (h : issueMeshApproval ecdsa registry identity peer claim clientSignature issuedAtMs lifetimeMs random
      = .ok assertion) :
    lifetimeMs ≤ 60000 ∧ claim.access.sourceHostId.text = peer ∧
      (∃ message, claim.toVec = .ok message ∧
        registry.verifyPeerSignature ecdsa peer message clientSignature = .ok ()) ∧
      assertion.payload.access = claim.access ∧ assertion.payload.issuedAtMs = issuedAtMs ∧
      assertion.payload.expiresAtMs = issuedAtMs + lifetimeMs ∧
      identity.id = .ok assertion.payload.registryPeerId ∧
      ∃ message, assertion.payload.toVec = .ok message ∧
        identity.sign message = .ok assertion.signature := by
  unfold issueMeshApproval at h
  rw [failIf_bind] at h
  split at h
  · cases h
  rename_i hlifetime
  rw [failIf_bind] at h
  split at h
  · cases h
  rename_i hclaim
  obtain ⟨message, hmessage, h⟩ := bind_eq_ok.1 h
  obtain ⟨⟨⟩, hverified, h⟩ := bind_eq_ok.1 h
  obtain ⟨registryPeerId, hid, h⟩ := bind_eq_ok.1 h
  rw [failIf_bind] at h
  split at h
  · cases h
  dsimp only at h
  obtain ⟨message', hmessage', h⟩ := bind_eq_ok.1 h
  obtain ⟨signature, hsignature, h⟩ := bind_eq_ok.1 h
  obtain rfl := Except.ok.inj h
  rw [not_or, not_lt] at hlifetime
  simp only [not_or, not_not] at hclaim
  exact ⟨hlifetime.2, hclaim.2.1, ⟨message, hmessage, mapError_eq_ok.1 hverified⟩, rfl, rfl, rfl,
    mapError_eq_ok.1 hid, message', hmessage', mapError_eq_ok.1 hsignature⟩

theorem verifyMeshApproval_eq_ok {verifier : SecureTransport} {assertion : MeshApprovalAssertion}
    {registryPeer : String} {target : HostId} {nowMs : ℕ} {access : AccessRequest}
    (h : verifyMeshApproval ecdsa verifier assertion registryPeer target nowMs = .ok access) :
    assertion.payload.access = access ∧ assertion.payload.registryPeerId = registryPeer ∧
      access.targetHostId = target ∧ access.sourceHostId.text = assertion.payload.controllerPeerId ∧
      assertion.payload.issuedAtMs ≤ nowMs ∧ nowMs ≤ assertion.payload.expiresAtMs ∧
      ∃ message, assertion.payload.toVec = .ok message ∧
        verifier.verifyPeerSignature ecdsa registryPeer message assertion.signature = .ok () := by
  unfold verifyMeshApproval at h
  dsimp only at h
  rw [failIf_bind] at h
  split at h
  · cases h
  rename_i hregistry
  rw [failIf_bind] at h
  split at h
  · cases h
  rename_i hpayload
  rw [failIf_bind] at h
  split at h
  · cases h
  rename_i htime
  obtain ⟨message, hmessage, h⟩ := bind_eq_ok.1 h
  obtain ⟨⟨⟩, hverified, h⟩ := bind_eq_ok.1 h
  obtain rfl := Except.ok.inj h
  rw [not_not] at hregistry
  simp only [not_or, not_not] at hpayload
  rw [not_or, not_lt, not_lt] at htime
  exact ⟨rfl, hregistry, hpayload.1, hpayload.2.2.1, htime.1, htime.2, message, hmessage,
    mapError_eq_ok.1 hverified⟩

theorem issueMeshApproval_of_verified {registry : SecureTransport} {identity : Identity}
    {claim : MeshAccessClaim} {clientSignature message message' signature random : List UInt8}
    {registryPeerId : String} {issuedAtMs lifetimeMs : ℕ} {payload : MeshApprovalPayload}
    (hlifetime : lifetimeMs ≠ 0 ∧ lifetimeMs ≤ 60000)
    (hsource : claim.access.sourceHostId.text = claim.controllerPeerId)
    (hprincipal : claim.access.principalId.text = claim.osPrincipalId)
    (hsome : claim.osPrincipalId ≠ "") (hmessage : claim.toVec = .ok message)
    (hverified : registry.verifyPeerSignature ecdsa claim.controllerPeerId message clientSignature = .ok ())
    (hid : identity.id = .ok registryPeerId) (hroom : issuedAtMs + lifetimeMs ≤ u64Max)
    (hpayload : payload = ⟨claim.access, registryPeerId, claim.controllerPeerId, claim.osPrincipalId,
      hex random, issuedAtMs, issuedAtMs + lifetimeMs⟩) (hmessage' : payload.toVec = .ok message')
    (hsign : identity.sign message' = .ok signature) :
    issueMeshApproval ecdsa registry identity claim.controllerPeerId claim clientSignature issuedAtMs
      lifetimeMs random = .ok ⟨payload, signature⟩ := by
  subst hpayload
  have hlong : ¬(lifetimeMs = 0 ∨ lifetimeMs > 60000) := by
    rw [not_or, not_lt]
    exact hlifetime
  have hclaim : ¬(claim.controllerPeerId ≠ claim.controllerPeerId
      ∨ claim.access.sourceHostId.text ≠ claim.controllerPeerId
      ∨ claim.access.principalId.text ≠ claim.osPrincipalId ∨ claim.osPrincipalId = "") := by
    simp only [not_or, not_not]
    exact ⟨trivial, hsource, hprincipal, hsome⟩
  unfold issueMeshApproval
  rw [failIf_bind, if_neg hlong, failIf_bind, if_neg hclaim, hmessage, ok_bind, hverified, hid]
  dsimp only [Except.mapError]
  rw [ok_bind, ok_bind, failIf_bind, if_neg (Nat.not_lt.2 hroom), hmessage', ok_bind, hsign]
  rfl

theorem verifyMeshApproval_of_verified {verifier : SecureTransport} {assertion : MeshApprovalAssertion}
    {nowMs : ℕ} {message : List UInt8}
    (hprincipal : assertion.payload.access.principalId.text = assertion.payload.osPrincipalId)
    (hsource : assertion.payload.access.sourceHostId.text = assertion.payload.controllerPeerId)
    (hsome : assertion.payload.osPrincipalId ≠ "") (hissued : assertion.payload.issuedAtMs ≤ nowMs)
    (hfresh : nowMs ≤ assertion.payload.expiresAtMs) (hmessage : assertion.payload.toVec = .ok message)
    (hverified : verifier.verifyPeerSignature ecdsa assertion.payload.registryPeerId message
      assertion.signature = .ok ()) :
    verifyMeshApproval ecdsa verifier assertion assertion.payload.registryPeerId
      assertion.payload.access.targetHostId nowMs = .ok assertion.payload.access := by
  have hpayload : ¬(assertion.payload.access.targetHostId ≠ assertion.payload.access.targetHostId
      ∨ assertion.payload.access.principalId.text ≠ assertion.payload.osPrincipalId
      ∨ assertion.payload.access.sourceHostId.text ≠ assertion.payload.controllerPeerId
      ∨ assertion.payload.osPrincipalId = "") := by
    simp only [not_or, not_not]
    exact ⟨trivial, hprincipal, hsource, hsome⟩
  have htime : ¬(nowMs < assertion.payload.issuedAtMs ∨ nowMs > assertion.payload.expiresAtMs) := by
    rw [not_or, not_lt, not_lt]
    exact ⟨hissued, hfresh⟩
  unfold verifyMeshApproval
  dsimp only
  rw [failIf_bind, if_neg (not_not.2 rfl), failIf_bind, if_neg hpayload, failIf_bind, if_neg htime,
    hmessage, ok_bind, hverified]
  rfl

/-! ### Runs -/

/-- The machines: whose key a key is, who is honest, which peers are agents, and who the registry and the
target are. -/
structure Mesh where
  ecdsa : Ecdsa
  owner : List UInt8 → String
  honest : Finset String
  agentPeers : Finset String
  registryPeer : String
  target : HostId

structure AccessCall where
  session : String
  claim : MeshAccessClaim
  clientSignature : List UInt8
  transport : SecureTransport
  identity : Identity
  nowMs : ℕ
  random : List UInt8

structure AccessCheck where
  transport : SecureTransport
  assertion : MeshApprovalAssertion
  nowMs : ℕ

/-- What happens: a controller claims an access or opens a session, the registry signs a grant, somebody
signs whatever he likes, the registry is asked, or the target is. -/
inductive MeshStep
  | claims (peer : String) (identity : Identity)
      (currentOsPrincipal : Except ControllerSessionError String) (access : AccessRequest)
  | opens (peer : String) (payload : ControllerSessionPayload)
  | grants (grant : LeaseGrant)
  | signs (peer : String) (message : List UInt8)
  | asks (call : AccessCall)
  | checks (check : AccessCheck)

structure Made where
  peer : String
  content : SignedPayload ⊕ List UInt8

def Made.Signs (made : Made) (message : List UInt8) : Prop :=
  match made.content with
  | .inl value => value.bytes = .ok message
  | .inr raw => raw = message

/-- The registry asked for an access: agents are turned away, others get a minute. -/
def AccessCall.assertion (mesh : Mesh) (call : AccessCall) : Option MeshApprovalAssertion :=
  if call.session ∈ mesh.agentPeers then
    none
  else
    (issueMeshApproval mesh.ecdsa call.transport call.identity call.session call.claim
      call.clientSignature call.nowMs 60000 call.random).toOption

def MeshApprovalAssertion.text (assertion : MeshApprovalAssertion) : String :=
  String.ofList (Json.obj
    [("payload", assertion.payload.toJson),
      ("signature", JsonCodec.toJson (assertion.signature.map UInt8.toNat))]).chars

def AccessCheck.result (mesh : Mesh) (check : AccessCheck) :
    Except ControllerSessionError AccessRequest :=
  verifyMeshApproval mesh.ecdsa check.transport check.assertion mesh.registryPeer mesh.target check.nowMs

namespace MeshStep

def makes (mesh : Mesh) : MeshStep → List Made
  | claims peer identity currentOsPrincipal access =>
    ((signMeshAccessClaim identity currentOsPrincipal access).toOption.map fun signed =>
      ⟨peer, .inl (.accessClaim signed.1)⟩).toList
  | opens peer payload => [⟨peer, .inl (.session payload)⟩]
  | grants grant => [⟨mesh.registryPeer, .inl (.leaseGrant grant)⟩]
  | signs peer message => [⟨peer, .inr message⟩]
  | asks call =>
    ((call.assertion mesh).map fun assertion =>
      ⟨mesh.registryPeer, .inl (.approval assertion.payload)⟩).toList
  | checks _ => []

def transports : MeshStep → List SecureTransport
  | asks call => [call.transport]
  | checks check => [check.transport]
  | _ => []

def signatures : MeshStep → List (List UInt8)
  | asks call => [call.clientSignature]
  | checks check => [check.assertion.signature]
  | _ => []

end MeshStep

namespace Mesh

variable (mesh : Mesh)

variable {made : Made} {step : MeshStep} {earlier : List MeshStep}

/-- A signature cannot be forged: what it verifies for, the owner of the key has signed before. -/
def Genuine (earlier : List MeshStep) (signature : List UInt8) : Prop :=
  ∀ key message, mesh.ecdsa.verify key message signature = true →
    ∃ step ∈ earlier, ∃ made ∈ step.makes mesh, made.peer = mesh.owner key ∧ made.Signs message

/-- What may happen after other steps: only those who are not honest sign whatever they like, certificates
carry the keys of those that they name, and signatures cannot be forged. -/
structure Allows (earlier : List MeshStep) (step : MeshStep) : Prop where
  honest : ∀ peer message, step = .signs peer message → peer ∉ mesh.honest
  named : ∀ transport ∈ step.transports, ∀ peer certificate key,
    transport.trusted.lookup peer = some certificate → mesh.ecdsa.publicKey certificate = some key →
      mesh.owner key = peer
  genuine : ∀ signature ∈ step.signatures, mesh.Genuine earlier signature

/-- **What an access rests on**: the registry has been asked for it over the session of its source, which is
no agent, in the last minute, with a claim that the source had signed; an honest source signed it as a
claim. -/
structure Justifies (before : List MeshStep) (call : AccessCall) (nowMs : ℕ) (access : AccessRequest) :
    Prop where
  claimed : call.claim.access = access
  session : call.session = access.sourceHostId.text
  controller : call.session ∉ mesh.agentPeers
  target : access.targetHostId = mesh.target
  issued : call.nowMs ≤ nowMs
  fresh : nowMs ≤ call.nowMs + 60000
  signed : ∃ message, call.claim.toVec = .ok message ∧
    ∃ step ∈ before, ∃ made ∈ step.makes mesh, made.peer = call.session ∧ made.Signs message ∧
      (call.session ∈ mesh.honest → made.content = .inl (.accessClaim call.claim))

/-- **Mesh access is bound end to end.** -/
def Bound (steps : List MeshStep) : Prop :=
  ∀ earlier check later access, steps = earlier ++ .checks check :: later →
    check.result mesh = .ok access →
      ∃ before call after, earlier = before ++ .asks call :: after ∧
        mesh.Justifies before call check.nowMs access

variable {mesh}

theorem makes_cases (h : made ∈ step.makes mesh) :
    (∃ call assertion, step = .asks call ∧ call.assertion mesh = some assertion ∧
      made.content = .inl (.approval assertion.payload)) ∨
    (∃ value, made.content = .inl value ∧ value.kind ≠ .approval) ∨
    ∃ message, step = .signs made.peer message ∧ made.content = .inr message := by
  cases step with
  | claims =>
    obtain ⟨_, -, rfl⟩ := Option.map_eq_some_iff.1 (Option.mem_toList.1 h)
    refine .inr (.inl ⟨_, rfl, ?_⟩)
    intro hkind
    cases hkind
  | opens | grants =>
    rw [List.mem_singleton.1 h]
    refine .inr (.inl ⟨_, rfl, ?_⟩)
    intro hkind
    cases hkind
  | signs peer message =>
    rw [List.mem_singleton.1 h]
    exact .inr (.inr ⟨message, rfl, rfl⟩)
  | asks call =>
    obtain ⟨assertion, hassertion, rfl⟩ := Option.map_eq_some_iff.1 (Option.mem_toList.1 h)
    exact .inl ⟨call, assertion, rfl, hassertion, rfl⟩
  | checks => exact absurd h List.not_mem_nil

theorem content_of_honest (h : mesh.Allows earlier step) (hmade : made ∈ step.makes mesh)
    (hhonest : made.peer ∈ mesh.honest) : ∃ value, made.content = .inl value := by
  rcases makes_cases hmade with ⟨_, _, -, -, hcontent⟩ | ⟨value, hcontent, -⟩ |
    ⟨message, hstep, -⟩
  · exact ⟨_, hcontent⟩
  · exact ⟨value, hcontent⟩
  · exact absurd hhonest (h.honest _ _ hstep)

theorem asks_of_approval (hmade : made ∈ step.makes mesh) {payload : MeshApprovalPayload}
    (hcontent : made.content = .inl (.approval payload)) :
    ∃ call assertion, step = .asks call ∧ call.assertion mesh = some assertion ∧
      assertion.payload = payload := by
  rcases makes_cases hmade with ⟨call, assertion, hstep, hassertion, hsame⟩ | ⟨_, hsame, hkind⟩ |
    ⟨message, -, hsame⟩
  · rw [hcontent] at hsame
    cases hsame
    exact ⟨call, assertion, hstep, hassertion, rfl⟩
  · rw [hcontent] at hsame
    cases hsame
    exact absurd rfl hkind
  · rw [hcontent] at hsame
    cases hsame

theorem made_of_verified (h : mesh.Allows earlier step) {transport : SecureTransport}
    (htransport : transport ∈ step.transports) {signature : List UInt8}
    (hsignature : signature ∈ step.signatures) {peerId : String} {message : List UInt8}
    (hverified : transport.verifyPeerSignature mesh.ecdsa peerId message signature = .ok ()) :
    ∃ signer ∈ earlier, ∃ made ∈ signer.makes mesh, made.peer = peerId ∧ made.Signs message := by
  obtain ⟨_, key, htrusted, hkey, hverify⟩ := verifyPeerSignature_eq_ok hverified
  obtain ⟨signer, hmem, made, hmade, hpeer, hsigns⟩ := h.genuine signature hsignature key message hverify
  exact ⟨signer, hmem, made, hmade, hpeer.trans (h.named transport htransport _ _ _ htrusted hkey), hsigns⟩

theorem content_of_signs (h : mesh.Allows earlier step) (hmade : made ∈ step.makes mesh)
    (hhonest : made.peer ∈ mesh.honest) {message : List UInt8} (hsigns : made.Signs message)
    {value : SignedPayload} (hbytes : value.bytes = .ok message) (hkind : value.kind ≠ .leaseGrant) :
    made.content = .inl value := by
  obtain ⟨other, hcontent⟩ := content_of_honest h hmade hhonest
  have hother : other.bytes = .ok message := by
    rw [Made.Signs, hcontent] at hsigns
    exact hsigns
  rcases eq_or_grants_of_bytes hbytes hother with rfl | ⟨hgrant, -⟩
  · exact hcontent
  · exact absurd hgrant hkind

end Mesh

end

/-! ### A claim that goes through -/

def sampleEcdsa : Ecdsa where
  publicKey := some
  verify key message signature := decide (key.length = 1 ∧ signature = key ++ message)

def sampleMesh : Mesh where
  ecdsa := sampleEcdsa
  owner key := if key = [0] then "registry" else "host"
  honest := {"registry", "host"}
  agentPeers := ∅
  registryPeer := "registry"
  target := Dashboard.PolicyEngine.sampleRequest.targetHostId

def sampleIdentity (name : String) (key : UInt8) : Identity where
  id := .ok name
  sign message := .ok (key :: message)

def sampleTrust (name : String) (key : UInt8) : SecureTransport :=
  { SecureTransport.empty with trusted := (∅ : Map String (List UInt8)).insert name [key] }

def sampleClaim : MeshAccessClaim where
  access := Dashboard.PolicyEngine.sampleRequest
  controllerPeerId := "host"
  osPrincipalId := "user"

def sampleApproval : MeshApprovalPayload where
  access := Dashboard.PolicyEngine.sampleRequest
  registryPeerId := "registry"
  controllerPeerId := "host"
  osPrincipalId := "user"
  sessionId := ""
  issuedAtMs := 0
  expiresAtMs := 60000

def sampleCall : AccessCall where
  session := "host"
  claim := sampleClaim
  clientSignature := 1 :: sampleClaim.toJson.toVec
  transport := sampleTrust "host" 1
  identity := sampleIdentity "registry" 0
  nowMs := 0
  random := []

def sampleCheck : AccessCheck where
  transport := sampleTrust "registry" 0
  assertion := ⟨sampleApproval, 0 :: sampleApproval.toJson.toVec⟩
  nowMs := 1

def sampleMeshSteps : List MeshStep :=
  [.claims "host" (sampleIdentity "host" 1) (.ok "user") Dashboard.PolicyEngine.sampleRequest, .asks sampleCall,
    .checks sampleCheck]

theorem verify_sampleTrust (name : String) (key : UInt8) (message : List UInt8) :
    (sampleTrust name key).verifyPeerSignature sampleEcdsa name message (key :: message) = .ok () := by
  have htrusted : (sampleTrust name key).trusted.lookup name = some [key] := Map.lookup_insert_self _ _ _
  have hverify : sampleEcdsa.verify [key] message (key :: message) = true := decide_eq_true ⟨rfl, rfl⟩
  have hrevoked : name ∉ (sampleTrust name key).revoked := Finset.notMem_empty name
  unfold SecureTransport.verifyPeerSignature
  rw [if_neg hrevoked, htrusted]
  change (if sampleEcdsa.verify [key] message (key :: message) then Except.ok () else _) = _
  rw [if_pos hverify]

theorem sampleMesh_verify {key message rest : List UInt8} {first : UInt8}
    (h : sampleMesh.ecdsa.verify key message (first :: rest) = true) : key = [first] ∧ message = rest := by
  obtain ⟨hlength, heq⟩ := of_decide_eq_true h
  obtain ⟨_, rfl⟩ := List.length_eq_one_iff.1 hlength
  rw [List.singleton_append] at heq
  obtain ⟨rfl, rfl⟩ := List.cons.inj heq
  exact ⟨rfl, rfl⟩

theorem named_sampleTrust {name : String} {key : UInt8} (howner : sampleMesh.owner [key] = name)
    {peer : String} {certificate found : List UInt8}
    (htrusted : (sampleTrust name key).trusted.lookup peer = some certificate)
    (hkey : sampleMesh.ecdsa.publicKey certificate = some found) : sampleMesh.owner found = peer := by
  obtain rfl := Option.some.inj hkey
  have hlookup : ((∅ : Map String (List UInt8)).insert name [key]).lookup peer = some certificate :=
    htrusted
  rw [Map.lookup_insert] at hlookup
  split at hlookup
  · rename_i hpeer
    rw [← Option.some.inj hlookup, hpeer]
    exact howner
  · cases hlookup

section

variable [Sha256]

theorem toVec_sampleClaim : sampleClaim.toVec = .ok sampleClaim.toJson.toVec := rfl

theorem toVec_sampleApproval : sampleApproval.toVec = .ok sampleApproval.toJson.toVec := rfl

theorem sign_sampleClaim :
    signMeshAccessClaim (sampleIdentity "host" 1) (.ok "user") Dashboard.PolicyEngine.sampleRequest
      = .ok (sampleClaim, 1 :: sampleClaim.toJson.toVec) := by
  have hprincipal : ValidatedId.parse "user" = .ok Dashboard.PolicyEngine.sampleRequest.principalId :=
    ValidatedId.parse_text Dashboard.PolicyEngine.sampleRequest.principalId
  have hsource : ValidatedId.parse "host" = .ok Dashboard.PolicyEngine.sampleRequest.sourceHostId :=
    ValidatedId.parse_text Dashboard.PolicyEngine.sampleRequest.sourceHostId
  unfold signMeshAccessClaim
  dsimp only [sampleIdentity, Except.mapError, bind, Except.bind]
  rw [hprincipal, hsource]
  rfl

theorem assertion_sampleCall : sampleCall.assertion sampleMesh = some sampleCheck.assertion := by
  have hcontroller : sampleCall.session ∉ sampleMesh.agentPeers := Finset.notMem_empty _
  have hverified := verify_sampleTrust "host" 1 sampleClaim.toJson.toVec
  have hissued : issueMeshApproval sampleEcdsa (sampleTrust "host" 1) (sampleIdentity "registry" 0)
      sampleClaim.controllerPeerId sampleClaim (1 :: sampleClaim.toJson.toVec) 0 60000 []
        = .ok ⟨sampleApproval, 0 :: sampleApproval.toJson.toVec⟩ :=
    issueMeshApproval_of_verified ⟨Nat.succ_ne_zero 59999, Nat.le_refl 60000⟩ rfl rfl (by decide)
      toVec_sampleClaim hverified rfl (Nat.le_of_ble_eq_true rfl) rfl toVec_sampleApproval rfl
  unfold AccessCall.assertion
  rw [if_neg hcontroller]
  exact congrArg Except.toOption hissued

theorem result_sampleCheck : sampleCheck.result sampleMesh = .ok sampleClaim.access :=
  verifyMeshApproval_of_verified rfl rfl (by decide) (Nat.zero_le 1) (Nat.le_of_ble_eq_true rfl)
    toVec_sampleApproval (verify_sampleTrust "registry" 0 sampleApproval.toJson.toVec)

theorem allows_sampleMeshSteps (earlier : List MeshStep) (step : MeshStep) (later : List MeshStep)
    (h : sampleMeshSteps = earlier ++ step :: later) : sampleMesh.Allows earlier step := by
  rcases earlier with _ | ⟨first, _ | ⟨second, _ | ⟨third, rest⟩⟩⟩
  · cases h
    refine ⟨fun peer message hsigns => (by cases hsigns), fun transport htransport => ?_,
      fun signature hsignature => ?_⟩
    · exact absurd htransport List.not_mem_nil
    · exact absurd hsignature List.not_mem_nil
  · cases h
    refine ⟨fun peer message hsigns => (by cases hsigns), ?_, ?_⟩
    · intro transport htransport peer certificate key htrusted hkey
      rw [List.mem_singleton.1 htransport] at htrusted
      have howner : sampleMesh.owner [1] = "host" := rfl
      exact named_sampleTrust howner htrusted hkey
    · intro signature hsignature key message hverify
      rw [List.mem_singleton.1 hsignature] at hverify
      change sampleMesh.ecdsa.verify key message (1 :: sampleClaim.toJson.toVec) = true at hverify
      obtain ⟨hkey, hmessage⟩ := sampleMesh_verify hverify
      rw [hkey, hmessage]
      refine ⟨_, List.mem_singleton_self _, ⟨"host", .inl (.accessClaim sampleClaim)⟩, ?_, rfl, rfl⟩
      unfold MeshStep.makes
      dsimp only
      rw [sign_sampleClaim]
      exact List.mem_singleton_self _
  · cases h
    refine ⟨fun peer message hsigns => (by cases hsigns), ?_, ?_⟩
    · intro transport htransport peer certificate key htrusted hkey
      rw [List.mem_singleton.1 htransport] at htrusted
      have howner : sampleMesh.owner [0] = "registry" := rfl
      exact named_sampleTrust howner htrusted hkey
    · intro signature hsignature key message hverify
      rw [List.mem_singleton.1 hsignature] at hverify
      change sampleMesh.ecdsa.verify key message (0 :: sampleApproval.toJson.toVec) = true at hverify
      obtain ⟨hkey, hmessage⟩ := sampleMesh_verify hverify
      rw [hkey, hmessage]
      refine ⟨_, List.mem_cons_of_mem _ (List.mem_singleton_self _),
        ⟨"registry", .inl (.approval sampleApproval)⟩, ?_, rfl, rfl⟩
      unfold MeshStep.makes
      dsimp only
      rw [assertion_sampleCall]
      exact List.mem_singleton_self _
  · have hlength := congrArg List.length h
    simp only [sampleMeshSteps, List.length_cons, List.length_nil, List.length_append] at hlength
    omega

end

end Registry
