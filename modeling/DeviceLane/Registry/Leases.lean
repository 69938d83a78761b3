/-
**Leases of devices.**

A device is leased to one client at a time, for a lifetime that the client may renew. Clients wait in one
queue for all devices; when the lease of a device ends, the first client in the queue that waits for this
device gets the next one. A job that changes a device is the writer of the device while it runs, and the
end of a lease is put off until the writer has finished.

Main definitions:

* `Registry.LeaseBook` — the leases, the queue, the writers, and the ends that are put off.
-/

import DeviceLane.Registry.Protocol

namespace Registry

open Dashboard (saturatingAdd)

structure DeviceLease where
  id : String
  deviceId : String
  clientId : String
  expiresAtMs : ℕ
  deriving DecidableEq, Repr

structure WaitingLease where
  deviceId : String
  clientId : String
  lifetimeMs : ℕ
  deriving DecidableEq, Repr

structure DeviceWriter where
  jobId : String
  deriving DecidableEq, Repr

/-- The counter of the identifiers does not wrap around: a lease beyond the last one is a panic. -/
structure LeaseBook where
  nextId : ℕ
  active : Map String DeviceLease
  waiting : List WaitingLease
  writers : Map String DeviceWriter
  pendingRelease : Finset String
  pendingDetach : Finset String
  deriving DecidableEq

def leaseIdOf (n : ℕ) : String := "lease-" ++ Nat.repr n

namespace LeaseBook

def empty : LeaseBook :=
  { nextId := 0
    active := ∅
    waiting := []
    writers := ∅
    pendingRelease := ∅
    pendingDetach := ∅ }

/-! ### The ends of leases -/

def insert (book : LeaseBook) (deviceId clientId : String) (lifetimeMs nowMs : ℕ) : LeaseBook :=
  { book with
    nextId := book.nextId + 1
    active := book.active.insert deviceId
      { id := leaseIdOf (book.nextId + 1)
        deviceId
        clientId
        expiresAtMs := saturatingAdd nowMs lifetimeMs } }

/-- The first client in the queue that waits for a device gets a lease of it. -/
def promote (book : LeaseBook) (deviceId : String) (nowMs : ℕ) : LeaseBook :=
  match book.waiting.find? fun waiting => waiting.deviceId = deviceId with
  | none => book
  | some next =>
    insert { book with waiting := book.waiting.eraseP fun waiting => waiting.deviceId = deviceId }
      next.deviceId next.clientId next.lifetimeMs nowMs

def releaseDeviceNow (book : LeaseBook) (deviceId : String) (nowMs : ℕ) : LeaseBook :=
  promote { book with active := book.active.erase deviceId } deviceId nowMs

def releaseDevice (book : LeaseBook) (deviceId : String) (nowMs : ℕ) : LeaseBook :=
  if (book.writers.lookup deviceId).isSome then
    { book with pendingRelease := Insert.insert deviceId book.pendingRelease }
  else
    book.releaseDeviceNow deviceId nowMs

def releaseDevices (book : LeaseBook) (deviceIds : List String) (nowMs : ℕ) : LeaseBook :=
  deviceIds.foldl (fun book deviceId => book.releaseDevice deviceId nowMs) book

def expired (book : LeaseBook) (hash : KeyOrder String) (nowMs : ℕ) : List String :=
  ((book.active.entriesIn hash).filter fun entry => nowMs ≥ entry.2.expiresAtMs).map Prod.fst

def expire (book : LeaseBook) (hash : KeyOrder String) (nowMs : ℕ) : LeaseBook :=
  book.releaseDevices (book.expired hash nowMs) nowMs

def forceReleaseDevice (book : LeaseBook) (deviceId : String) (nowMs : ℕ) : LeaseBook :=
  releaseDeviceNow
    { book with
      writers := book.writers.erase deviceId
      pendingRelease := book.pendingRelease.erase deviceId
      pendingDetach := book.pendingDetach.erase deviceId }
    deviceId nowMs

def detachInventory (book : LeaseBook) (deviceId : String) (nowMs : ℕ) : LeaseBook :=
  releaseDevice
    (if (book.writers.lookup deviceId).isSome then
      { book with pendingDetach := Insert.insert deviceId book.pendingDetach }
    else
      book)
    deviceId nowMs

def finishWriter (book : LeaseBook) (deviceId : String) (nowMs : ℕ) : LeaseBook :=
  let finished := { book with writers := book.writers.erase deviceId }
  let released :=
    if deviceId ∈ finished.pendingRelease then
      releaseDevice { finished with pendingRelease := finished.pendingRelease.erase deviceId } deviceId
        nowMs
    else
      finished
  { released with pendingDetach := released.pendingDetach.erase deviceId }

/-! ### What clients ask for -/

inductive Reply
  | answered (response : Response)
  | granted (leaseId status : String)
  deriving DecidableEq

def leaseStatus (status : String) : Response := { response with leaseStatus := some status }

def acquire (book : LeaseBook) (peerId deviceId : String) (lifetimeMs nowMs : ℕ) :
    Reply × LeaseBook :=
  if (book.active.lookup deviceId).isSome then
    (.answered (errorResponse "device_already_leased"), book)
  else
    (.granted (leaseIdOf (book.nextId + 1)) "acquired", book.insert deviceId peerId lifetimeMs nowMs)

def queue (book : LeaseBook) (peerId deviceId : String) (lifetimeMs nowMs : ℕ) :
    Reply × LeaseBook :=
  match book.active.lookup deviceId with
  | some active =>
    if active.clientId = peerId then
      (.granted active.id "acquired", book)
    else if (book.waiting.any fun waiting =>
        waiting.deviceId = deviceId && waiting.clientId = peerId) then
      (.answered (leaseStatus "queued"), book)
    else
      (.answered (leaseStatus "queued"),
        { book with waiting := book.waiting ++ [{ deviceId, clientId := peerId, lifetimeMs }] })
  | none =>
    (.granted (leaseIdOf (book.nextId + 1)) "acquired", book.insert deviceId peerId lifetimeMs nowMs)

def ownedLease (book : LeaseBook) (hash : KeyOrder String) (peerId leaseId : String) :
    Option (String × DeviceLease) :=
  (book.active.entriesIn hash).find? fun entry => entry.2.id = leaseId && entry.2.clientId = peerId

def renew (book : LeaseBook) (hash : KeyOrder String) (peerId leaseId : String)
    (lifetimeMs nowMs : ℕ) : Reply × LeaseBook :=
  match book.ownedLease hash peerId leaseId with
  | none => (.answered (errorResponse "lease_inactive"), book)
  | some (key, lease) =>
    (.granted lease.id "renewed",
      { book with
        active := book.active.insert key
          { lease with expiresAtMs := saturatingAdd nowMs lifetimeMs } })

def release (book : LeaseBook) (hash : KeyOrder String) (peerId leaseId status : String)
    (nowMs : ℕ) : Reply × LeaseBook :=
  match book.ownedLease hash peerId leaseId with
  | none => (.answered (errorResponse "lease_inactive"), book)
  | some (_, lease) => (.answered (leaseStatus status), book.releaseDevice lease.deviceId nowMs)

def leasedDevices (book : LeaseBook) (hash : KeyOrder String) (peerId : String) : List String :=
  ((book.active.entriesIn hash).filter fun entry => entry.2.clientId = peerId).map fun entry =>
    entry.2.deviceId

def disconnect (book : LeaseBook) (hash : KeyOrder String) (peerId : String) (nowMs : ℕ) :
    Reply × LeaseBook :=
  (.answered (leaseStatus "disconnected"),
    releaseDevices
      { book with waiting := book.waiting.filter fun waiting => waiting.clientId ≠ peerId }
      (book.leasedDevices hash peerId) nowMs)

def isActive (book : LeaseBook) (grant : LeaseGrant) : Bool :=
  (book.active.lookup grant.deviceId).any fun lease =>
    lease.id = grant.leaseId && lease.clientId = grant.clientId

def ownsDevice (agentPeers : Finset String) (devicePeers : Map String String)
    (peerId deviceId : String) : Bool :=
  peerId ∈ agentPeers && devicePeers.lookup deviceId = some peerId

def apply (book : LeaseBook) (agentPeers : Finset String) (devicePeers : Map String String)
    (hash : KeyOrder String) (peerId : String) (operation : LeaseRequest) (nowMs : ℕ) :
    Reply × LeaseBook :=
  match operation with
  | .acquire deviceId lifetimeMs => book.acquire peerId deviceId lifetimeMs nowMs
  | .queue deviceId lifetimeMs => book.queue peerId deviceId lifetimeMs nowMs
  | .renew leaseId lifetimeMs => book.renew hash peerId leaseId lifetimeMs nowMs
  | .release leaseId => book.release hash peerId leaseId "released" nowMs
  | .revoke leaseId => book.release hash peerId leaseId "revoked" nowMs
  | .validate grant =>
    (.answered
      (if ownsDevice agentPeers devicePeers peerId grant.deviceId then
        if book.isActive grant then leaseStatus "active" else errorResponse "lease_inactive"
      else
        errorResponse "lease_validation_access_denied"),
      book)
  | .disconnect => book.disconnect hash peerId nowMs
  | .agentDetach deviceId =>
    if ownsDevice agentPeers devicePeers peerId deviceId then
      (.answered (leaseStatus "detached"), book.forceReleaseDevice deviceId nowMs)
    else
      (.answered (errorResponse "agent_detach_access_denied"), book)

end LeaseBook

/-! ### Grants -/

def grantOf (sign : List UInt8 → List UInt8) (lease : DeviceLease) (jobId : String) (nowMs : ℕ) :
    LeaseGrant :=
  let grant : LeaseGrant :=
    { leaseId := lease.id
      deviceId := lease.deviceId
      clientId := lease.clientId
      jobId
      expiresAtMs := lease.expiresAtMs - nowMs
      signature := [] }
  { grant with signature := sign grant.signedPayload }

def detachedDevice (agentPeers : Finset String) (devicePeers : Map String String) (peerId : String) :
    LeaseRequest → Option String
  | .agentDetach deviceId =>
    if LeaseBook.ownsDevice agentPeers devicePeers peerId deviceId then some deviceId else none
  | _ => none

/-- **A request about leases.**  Without a value it has panicked: a lease that was to be granted is not
there. -/
def lease (sign : List UInt8 → List UInt8) (agentPeers : Finset String) (hash : KeyOrder String)
    (operation : LeaseRequest) (peerId : String) (devicePeers : Map String String) (book : LeaseBook)
    (nowMs : ℕ) : Option (Response × Map String String × LeaseBook) :=
  let applied := (book.expire hash nowMs).apply agentPeers devicePeers hash peerId operation nowMs
  let devicePeers' :=
    match detachedDevice agentPeers devicePeers peerId operation with
    | none => devicePeers
    | some deviceId => devicePeers.erase deviceId
  match applied.1 with
  | .answered response => some (response, devicePeers', applied.2)
  | .granted leaseId status =>
    ((applied.2.active.entriesIn hash).find? fun entry => entry.2.id = leaseId).map fun entry =>
      ({ response with
          leaseGrant := some (grantOf sign entry.2 "" nowMs)
          leaseStatus := some status }, devicePeers', applied.2)

end Registry
