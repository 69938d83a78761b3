/-
**Trusted machines.**

A machine keeps the certificates of the machines that it trusts, one file for each, under the name that
is in the certificate. A certificate comes in when a machine is paired, and only under a name of plain
letters; a name with anything else in it never becomes the name of a peer.

A certificate is written in place, so that a part of it may be left when its write fails. What the
library for certificates reads off a part, it reads off the whole certificate, too.

Main definitions:

* `Registry.SecureTransport` — the certificates that a machine trusts, in memory and on the disk.

Main results:

* `Registry.validMachineId_of_admitted` — **peers have valid names**.
-/

import Mathlib.Data.Finset.Basic
import DeviceLane.Library.Map

namespace Registry

/-- How the library for certificates reads the first DNS name of a certificate. Bytes behind the
certificate are ignored. -/
structure X509 where
  dnsName : List UInt8 → Option String
  dnsName_of_take : ∀ certificate n name, dnsName (certificate.take n) = some name →
    dnsName certificate = some name

inductive TransportError
  | invalidCode
  | codeExpired
  | codeReused
  | untrustedPeer
  | revokedPeer
  | invalidCertificate
  | io
  deriving DecidableEq, Repr

def validMachineId (id : String) : Bool :=
  id ≠ "" && id.toList.all fun c => c.isAlphanum || c = '-' || c = '_' || c = '.'

structure PairingCode where
  value : String
  lifetimeMs : ℕ
  consumed : Bool

structure SecureTransport where
  trusted : Map String (List UInt8)
  revoked : Finset String
  pairingCode : Option PairingCode
  stored : Map String (List UInt8)

inductive SecretWrite
  | stored
  | cut (length : Option ℕ)

namespace SecureTransport

def empty : SecureTransport :=
  { trusted := ∅
    revoked := ∅
    pairingCode := none
    stored := ∅ }

def leave (transport : SecureTransport) (peerId : String) (certificate : List UInt8) :
    Option ℕ → SecureTransport
  | none => transport
  | some length => { transport with stored := transport.stored.insert peerId (certificate.take length) }

/-- **A certificate is trusted from now on.** -/
def trust (x509 : X509) (peerId : String) (certificate : List UInt8) (write : SecretWrite)
    (transport : SecureTransport) : Except TransportError Unit × SecureTransport :=
  if validMachineId peerId = false ∨ x509.dnsName certificate ≠ some peerId then
    (.error .invalidCertificate, transport)
  else
    match write with
    | .cut length => (.error .io, transport.leave peerId certificate length)
    | .stored =>
      (.ok (),
        { transport with
          trusted := transport.trusted.insert peerId certificate
          stored := transport.stored.insert peerId certificate })

def issuePairingCode (value : String) (lifetimeMs : ℕ) (transport : SecureTransport) : SecureTransport :=
  { transport with
    pairingCode := some
      { value
        lifetimeMs
        consumed := false } }

def acceptPairing (x509 : X509) (code : String) (certificate : List UInt8) (elapsedMs : ℕ)
    (write : SecretWrite) (transport : SecureTransport) :
    Except TransportError Unit × SecureTransport :=
  match transport.pairingCode with
  | none => (.error .invalidCode, transport)
  | some pairing =>
    if pairing.value ≠ code then (.error .invalidCode, transport)
    else if pairing.consumed then (.error .codeReused, transport)
    else if elapsedMs > pairing.lifetimeMs then (.error .codeExpired, transport)
    else
      let consumed := { transport with pairingCode := some { pairing with consumed := true } }
      match x509.dnsName certificate with
      | none => (.error .invalidCertificate, consumed)
      | some peerId => consumed.trust x509 peerId certificate write

def revoke (peerId : String) (transport : SecureTransport) : SecureTransport :=
  { transport with revoked := insert peerId transport.revoked }

/-- The files are read. -/
def load (revoked : Finset String) (transport : SecureTransport) : SecureTransport :=
  { transport with
    trusted := transport.stored
    revoked
    pairingCode := none }

def authorizePeer (hash : KeyOrder String) (certificate : List UInt8) (transport : SecureTransport) :
    Except TransportError Unit :=
  match (transport.trusted.entriesIn hash).find? fun entry => entry.2 = certificate with
  | none => .error .untrustedPeer
  | some entry => if entry.1 ∈ transport.revoked then .error .revokedPeer else .ok ()

/-- **The name of a peer**, with the certificate that it has shown. -/
def peerId (x509 : X509) (hash : KeyOrder String) (certificate : List UInt8)
    (transport : SecureTransport) : Except TransportError String :=
  match transport.authorizePeer hash certificate with
  | .error error => .error error
  | .ok () =>
    match x509.dnsName certificate with
    | none => .error .invalidCertificate
    | some name => .ok name

/-! ### Runs -/

/-- What may happen to the certificates. -/
inductive Call
  | issuePairingCode (value : String) (lifetimeMs : ℕ)
  | acceptPairing (code : String) (certificate : List UInt8) (elapsedMs : ℕ) (write : SecretWrite)
  | trust (peerId : String) (certificate : List UInt8) (write : SecretWrite)
  | revoke (peerId : String)
  | load (revoked : Finset String)

def next (x509 : X509) (transport : SecureTransport) : Call → SecureTransport
  | .issuePairingCode value lifetimeMs => transport.issuePairingCode value lifetimeMs
  | .acceptPairing code certificate elapsedMs write =>
    (transport.acceptPairing x509 code certificate elapsedMs write).2
  | .trust peerId certificate write => (transport.trust x509 peerId certificate write).2
  | .revoke peerId => transport.revoke peerId
  | .load revoked => transport.load revoked

def runCalls (x509 : X509) (calls : List Call) (transport : SecureTransport) : SecureTransport :=
  calls.foldl (next x509) transport

/-! ### Valid names -/

variable {x509 : X509} {transport : SecureTransport}

def ValidNames (x509 : X509) (certificates : Map String (List UInt8)) : Prop :=
  ∀ key certificate, certificates.lookup key = some certificate →
    ∀ name, x509.dnsName certificate = some name → validMachineId name = true

theorem ValidNames.insert {certificates : Map String (List UInt8)} (h : ValidNames x509 certificates)
    {peerId : String} {certificate : List UInt8}
    (hvalid : ∀ name, x509.dnsName certificate = some name → validMachineId name = true) :
    ValidNames x509 (certificates.insert peerId certificate) := by
  intro key found hlookup
  rw [Map.lookup_insert] at hlookup
  split at hlookup
  · obtain rfl := Option.some.inj hlookup
    exact hvalid
  · exact h key found hlookup

/-- Valid names, in memory and on the disk. -/
structure Valid (x509 : X509) (transport : SecureTransport) : Prop where
  trusted : ValidNames x509 transport.trusted
  stored : ValidNames x509 transport.stored

theorem valid_empty : Valid x509 empty := by
  refine ⟨fun key certificate hlookup => ?_, fun key certificate hlookup => ?_⟩
  · cases hlookup
  · cases hlookup

theorem Valid.consume (h : Valid x509 transport) (pairingCode : Option PairingCode) :
    Valid x509 { transport with pairingCode } :=
  ⟨h.trusted, h.stored⟩

theorem Valid.trust (h : Valid x509 transport) (peerId : String) (certificate : List UInt8)
    (write : SecretWrite) : Valid x509 (transport.trust x509 peerId certificate write).2 := by
  unfold SecureTransport.trust
  split
  · exact h
  · rename_i hgood
    rw [not_or, not_not, Bool.not_eq_false] at hgood
    obtain ⟨hvalid, hname⟩ := hgood
    have hwhole : ∀ name, x509.dnsName certificate = some name → validMachineId name = true := by
      intro name hdns
      rw [hname] at hdns
      exact Option.some.inj hdns ▸ hvalid
    cases write with
    | stored => exact ⟨h.trusted.insert hwhole, h.stored.insert hwhole⟩
    | cut length =>
      cases length with
      | none => exact h
      | some =>
        -- a part of the certificate has no other name
        refine ⟨h.trusted, h.stored.insert fun name hdns => ?_⟩
        exact hwhole name (x509.dnsName_of_take _ _ _ hdns)

theorem Valid.next (h : Valid x509 transport) (call : Call) : Valid x509 (transport.next x509 call) := by
  cases call with
  | issuePairingCode => exact ⟨h.trusted, h.stored⟩
  | acceptPairing code certificate elapsedMs write =>
    change Valid x509 (transport.acceptPairing x509 code certificate elapsedMs write).2
    unfold acceptPairing
    split
    · exact h
    · split
      · exact h
      · split
        · exact h
        · split
          · exact h
          · dsimp only
            split
            · exact ⟨h.trusted, h.stored⟩
            · exact Valid.trust (h.consume _) _ _ _
  | trust peerId certificate write => exact h.trust peerId certificate write
  | revoke => exact ⟨h.trusted, h.stored⟩
  | load => exact ⟨h.stored, h.stored⟩

theorem valid_runCalls (x509 : X509) (calls : List Call) : Valid x509 (empty.runCalls x509 calls) := by
  have hruns : ∀ {transport : SecureTransport}, Valid x509 transport →
      Valid x509 (transport.runCalls x509 calls) := by
    induction calls with
    | nil => exact id
    | cons call calls ih => exact fun h => ih (h.next call)
  exact hruns valid_empty

theorem Valid.peerId (h : Valid x509 transport) {hash : KeyOrder String} {certificate : List UInt8}
    {name : String} (hpeer : transport.peerId x509 hash certificate = .ok name) :
    validMachineId name = true := by
  unfold SecureTransport.peerId authorizePeer at hpeer
  split at hpeer
  · cases hpeer
  · rename_i hauthorized
    split at hauthorized
    · cases hauthorized
    · rename_i entry hentry
      have hfound := List.find?_some hentry
      have hcertificate : entry.2 = certificate := of_decide_eq_true hfound
      have hlookup := Map.mem_entriesIn.1 (List.mem_of_find?_eq_some hentry)
      split at hpeer
      · cases hpeer
      · rename_i found hname
        obtain rfl := Except.ok.inj hpeer
        exact h.trusted entry.1 entry.2 hlookup _ (hcertificate ▸ hname)

end SecureTransport

/-- **The names that a peer may have**: some certificate is trusted at some time. -/
def Admitted (x509 : X509) (name : String) : Prop :=
  ∃ calls hash certificate,
    (SecureTransport.empty.runCalls x509 calls).peerId x509 hash certificate = .ok name

/-- **Peers have valid names.** -/
theorem validMachineId_of_admitted {x509 : X509} {name : String} (h : Admitted x509 name) :
    validMachineId name = true := by
  obtain ⟨calls, _, _, hpeer⟩ := h
  exact (SecureTransport.valid_runCalls x509 calls).peerId hpeer

end Registry
