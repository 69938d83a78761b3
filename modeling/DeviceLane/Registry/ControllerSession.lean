/-
**What machines sign.**

Machines sign four kinds of values with one key: grants of leases, claims of access, approvals of claims,
and the sessions of controllers. None of them carries a mark of its kind. A grant is signed as a text
with zeros in it, and the others as JSON, where a control character never stands as it is; the objects of
the three other kinds have different fields. So the bytes that are signed tell the kind of the value, and
for the JSON kinds the value.

Main definitions:

* `Registry.SignedPayload` — whatever is signed, with the bytes that are signed for it.

Main results:

* `Registry.separated` — **the bytes that are signed tell the kind of a value**.
-/

import DeviceLane.Dashboard.AccessRequest
import DeviceLane.Library.JsonText
import DeviceLane.Registry.GrantSignatures

theorem Json.zero_notMem_toVec {j : Json} {text : String} (h : j.toVec = Endian.textBytes text) :
    '\x00' ∉ text.toList := by
  intro hmem
  rw [← Endian.textBytes_injective h, String.toList_ofList] at hmem
  exact absurd (Json.space_le_of_mem_chars j hmem) (by decide)

namespace Registry

open Dashboard (AccessRequest validateRequest)

/-! ### Claims, approvals and sessions -/

inductive ControllerSessionError
  | invalidInput
  | principalUnavailable
  | invalidSignature
  | controllerEndpointMismatch
  | controllerPeerMismatch
  | challengeMismatch
  | expired
  | replayDetected
  | replayCacheUnavailable
  deriving DecidableEq, Repr

structure MeshAccessClaim where
  access : AccessRequest
  controllerPeerId : String
  osPrincipalId : String
  deriving DecidableEq

structure MeshApprovalPayload where
  access : AccessRequest
  registryPeerId : String
  controllerPeerId : String
  osPrincipalId : String
  sessionId : String
  issuedAtMs : ℕ
  expiresAtMs : ℕ
  deriving DecidableEq

structure MeshApprovalAssertion where
  payload : MeshApprovalPayload
  signature : List UInt8
  deriving DecidableEq

structure ControllerSessionPayload where
  controllerEndpoint : String
  controllerPeerId : String
  principalId : String
  sourceHostId : String
  sessionId : String
  challenge : String
  issuedAtMs : ℕ
  expiresAtMs : ℕ
  deriving DecidableEq

def MeshAccessClaim.toJson (claim : MeshAccessClaim) : Json :=
  .obj
    [("access", claim.access.toJson), ("controller_peer_id", .str claim.controllerPeerId),
      ("os_principal_id", .str claim.osPrincipalId)]

def MeshApprovalPayload.toJson (payload : MeshApprovalPayload) : Json :=
  .obj
    [("access", payload.access.toJson), ("registry_peer_id", .str payload.registryPeerId),
      ("controller_peer_id", .str payload.controllerPeerId),
      ("os_principal_id", .str payload.osPrincipalId), ("session_id", .str payload.sessionId),
      ("issued_at_ms", .num payload.issuedAtMs), ("expires_at_ms", .num payload.expiresAtMs)]

def ControllerSessionPayload.toJson (payload : ControllerSessionPayload) : Json :=
  .obj
    [("controller_endpoint", .str payload.controllerEndpoint),
      ("controller_peer_id", .str payload.controllerPeerId),
      ("principal_id", .str payload.principalId), ("source_host_id", .str payload.sourceHostId),
      ("session_id", .str payload.sessionId), ("challenge", .str payload.challenge),
      ("issued_at_ms", .num payload.issuedAtMs), ("expires_at_ms", .num payload.expiresAtMs)]

def written [Sha256] (access : AccessRequest) (json : Json) :
    Except ControllerSessionError (List UInt8) :=
  match validateRequest access with
  | .error _ => .error .invalidInput
  | .ok () => .ok json.toVec

def MeshAccessClaim.toVec [Sha256] (claim : MeshAccessClaim) :
    Except ControllerSessionError (List UInt8) :=
  written claim.access claim.toJson

def MeshApprovalPayload.toVec [Sha256] (payload : MeshApprovalPayload) :
    Except ControllerSessionError (List UInt8) :=
  written payload.access payload.toJson

def ControllerSessionPayload.canonical (payload : ControllerSessionPayload) :
    Except ControllerSessionError (List UInt8) :=
  .ok payload.toJson.toVec

theorem written_eq_ok [Sha256] {access : AccessRequest} {json : Json} {message : List UInt8}
    (h : written access json = .ok message) : message = json.toVec := by
  unfold written at h
  split at h
  · cases h
  · exact (Except.ok.inj h).symm

theorem MeshAccessClaim.toJson_injective : Function.Injective toJson := by
  rintro ⟨_, _, _⟩ ⟨_, _, _⟩ h
  simp only [toJson, Json.obj.injEq, List.cons.injEq, Prod.mk.injEq, Json.str.injEq, true_and,
    and_true] at h
  obtain ⟨haccess, rfl, rfl⟩ := h
  rw [AccessRequest.toJson_injective haccess]

theorem MeshApprovalPayload.toJson_injective : Function.Injective toJson := by
  rintro ⟨_, _, _, _, _, _, _⟩ ⟨_, _, _, _, _, _, _⟩ h
  simp only [toJson, Json.obj.injEq, List.cons.injEq, Prod.mk.injEq, Json.str.injEq, Json.num.injEq,
    true_and, and_true] at h
  obtain ⟨haccess, rfl, rfl, rfl, rfl, rfl, rfl⟩ := h
  rw [AccessRequest.toJson_injective haccess]

theorem ControllerSessionPayload.toJson_injective : Function.Injective toJson := by
  rintro ⟨_, _, _, _, _, _, _, _⟩ ⟨_, _, _, _, _, _, _, _⟩ h
  simp only [toJson, Json.obj.injEq, List.cons.injEq, Prod.mk.injEq, Json.str.injEq, Json.num.injEq,
    true_and, and_true] at h
  obtain ⟨rfl, rfl, rfl, rfl, rfl, rfl, rfl, rfl⟩ := h
  rfl

/-! ### Kinds -/

inductive SignedKind
  | leaseGrant
  | accessClaim
  | approval
  | session
  deriving DecidableEq, Repr

inductive SignedPayload
  | leaseGrant (grant : LeaseGrant)
  | accessClaim (claim : MeshAccessClaim)
  | approval (payload : MeshApprovalPayload)
  | session (payload : ControllerSessionPayload)
  deriving DecidableEq

namespace SignedPayload

def kind : SignedPayload → SignedKind
  | leaseGrant _ => .leaseGrant
  | accessClaim _ => .accessClaim
  | approval _ => .approval
  | session _ => .session

/-- **The bytes that are signed.** -/
def bytes [Sha256] : SignedPayload → Except ControllerSessionError (List UInt8)
  | leaseGrant grant => .ok grant.signedPayload
  | accessClaim claim => claim.toVec
  | approval payload => payload.toVec
  | session payload => payload.canonical

def json : SignedPayload → Option Json
  | leaseGrant _ => none
  | accessClaim claim => some claim.toJson
  | approval payload => some payload.toJson
  | session payload => some payload.toJson

end SignedPayload

theorem bytes_cases [Sha256] {value : SignedPayload} {message : List UInt8}
    (h : value.bytes = .ok message) :
    (∃ grant, value = .leaseGrant grant ∧ message = grant.signedPayload) ∨
      value.kind ≠ .leaseGrant ∧ ∃ json, value.json = some json ∧ message = json.toVec := by
  cases value with
  | leaseGrant grant => exact .inl ⟨grant, rfl, (Except.ok.inj h).symm⟩
  | accessClaim | approval =>
    refine .inr ⟨?_, _, rfl, written_eq_ok h⟩
    intro hkind
    cases hkind
  | session =>
    refine .inr ⟨?_, _, rfl, (Except.ok.inj h).symm⟩
    intro hkind
    cases hkind

theorem zero_mem_signedPayload (grant : LeaseGrant) :
    ∃ text, grant.signedPayload = Endian.textBytes text ∧ '\x00' ∈ text.toList := by
  refine ⟨_, signedPayload_eq grant, ?_⟩
  rw [String.toList_ofList]
  exact List.mem_append_right _ List.mem_cons_self

/-- **JSON values with one form are the same value**: they have the same fields. -/
theorem json_injective {value value' : SignedPayload} {form : Json} (h : value.json = some form)
    (h' : value'.json = some form) : value = value' := by
  cases value with
  | leaseGrant => cases h
  | accessClaim =>
    obtain rfl := Option.some.inj h
    cases value' with
    | leaseGrant => cases h'
    | accessClaim =>
      rw [MeshAccessClaim.toJson_injective (Option.some.inj h')]
    | approval =>
      simp [SignedPayload.json, MeshAccessClaim.toJson, MeshApprovalPayload.toJson] at h'
    | session =>
      simp [SignedPayload.json, MeshAccessClaim.toJson, ControllerSessionPayload.toJson] at h'
  | approval =>
    obtain rfl := Option.some.inj h
    cases value' with
    | leaseGrant => cases h'
    | accessClaim =>
      simp [SignedPayload.json, MeshAccessClaim.toJson, MeshApprovalPayload.toJson] at h'
    | approval => rw [MeshApprovalPayload.toJson_injective (Option.some.inj h')]
    | session =>
      simp [SignedPayload.json, MeshApprovalPayload.toJson, ControllerSessionPayload.toJson] at h'
  | session =>
    obtain rfl := Option.some.inj h
    cases value' with
    | leaseGrant => cases h'
    | accessClaim =>
      simp [SignedPayload.json, MeshAccessClaim.toJson, ControllerSessionPayload.toJson] at h'
    | approval =>
      simp [SignedPayload.json, MeshApprovalPayload.toJson, ControllerSessionPayload.toJson] at h'
    | session => rw [ControllerSessionPayload.toJson_injective (Option.some.inj h')]

theorem eq_or_grants_of_bytes [Sha256] {value value' : SignedPayload} {message : List UInt8}
    (h : value.bytes = .ok message) (h' : value'.bytes = .ok message) :
    value = value' ∨ value.kind = .leaseGrant ∧ value'.kind = .leaseGrant := by
  -- a grant has zeros, and JSON has none
  have hapart : ∀ {grant : LeaseGrant} {form : Json}, grant.signedPayload = form.toVec → False := by
    intro grant form heq
    obtain ⟨_, htext, hzero⟩ := zero_mem_signedPayload grant
    exact Json.zero_notMem_toVec (heq.symm.trans htext) hzero
  rcases bytes_cases h with ⟨grant, rfl, hgrant⟩ | ⟨-, form, hform, hbytes⟩
  · rcases bytes_cases h' with ⟨grant', rfl, hgrant'⟩ | ⟨-, form, hform, hbytes⟩
    · exact .inr ⟨rfl, rfl⟩
    · exact (hapart (hgrant.symm.trans hbytes)).elim
  · rcases bytes_cases h' with ⟨grant', rfl, hgrant'⟩ | ⟨-, _, hform', hbytes'⟩
    · exact (hapart (hgrant'.symm.trans hbytes)).elim
    · obtain rfl := Json.toVec_injective (hbytes.symm.trans hbytes')
      exact .inl (json_injective hform hform')

/-- **Signatures of different kinds never coincide.** -/
structure Separated [Sha256] : Prop where
  /-- The bytes that are signed tell the kind. -/
  kinds : ∀ (value value' : SignedPayload) (message : List UInt8), value.bytes = .ok message →
    value'.bytes = .ok message → value.kind = value'.kind
  /-- For what is signed as JSON they tell the value. -/
  values : ∀ (value value' : SignedPayload) (message : List UInt8), value.bytes = .ok message →
    value'.bytes = .ok message → value.kind ≠ .leaseGrant → value = value'
  /-- A signature for one purpose never verifies for another, where it verifies for one message only. -/
  purposes : ∀ verify : List UInt8 → List UInt8 → List UInt8 → Bool,
    (∀ key message message' signature, verify key message signature = true →
      verify key message' signature = true → message = message') →
    ∀ (key signature : List UInt8) (value value' : SignedPayload) (message message' : List UInt8),
      value.bytes = .ok message → value'.bytes = .ok message' → verify key message signature = true →
        value.kind ≠ value'.kind → verify key message' signature = false

/-- The bytes that are signed tell the kind of a value, and the value if it is signed as JSON. -/
theorem separated [Sha256] : Separated := by
  have hkinds : ∀ (value value' : SignedPayload) (message : List UInt8), value.bytes = .ok message →
      value'.bytes = .ok message → value.kind = value'.kind := by
    intro value value' message h h'
    rcases eq_or_grants_of_bytes h h' with rfl | ⟨hgrant, hgrant'⟩
    · rfl
    · exact hgrant.trans hgrant'.symm
  refine ⟨hkinds, fun value value' message h h' hjson => ?_, ?_⟩
  · rcases eq_or_grants_of_bytes h h' with hsame | ⟨hgrant, -⟩
    · exact hsame
    · exact absurd hgrant hjson
  · intro verify hone key signature value value' message message' h h' hverified hdifferent
    refine Bool.eq_false_iff.2 fun hverified' => hdifferent ?_
    obtain rfl := hone key message message' signature hverified hverified'
    exact hkinds value value' message h h'

end Registry
