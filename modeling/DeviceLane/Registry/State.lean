/-
**The durable state of the registry.**

What the registry knows of jobs, hosts and agents is kept in one state, and the leases of devices in
another; both are written to the disk as a whole, one after the other. A job that changes a device is
the writer of the device from when it is given to an agent until it ends, and the two states are made to
agree again where one of them could not be written.

Main definitions:

* `Registry.DurableState` — jobs, hosts and agents.
-/

import DeviceLane.Registry.Artifacts
import DeviceLane.Registry.Leases

namespace Registry

open Dashboard (HostSnapshot TopologyError)

structure DurableState where
  requests : Map String String
  jobs : Map String (List NetworkEvent)
  artifacts : Map String String
  audit : List AuditRecord
  pending : Map String RunRequest
  applePending : Map String AppleRequest
  appleRequests : Map String String
  appleOperations : Map String AppleRequest
  appleHosts : Map String String
  jobClients : Map String String
  jobAgents : Map String String
  hostPeers : Map String String
  devicePeers : Map String String
  dispatched : Finset String
  acknowledged : Finset String
  cancelled : Finset String
  recoveryError : Option String
  deriving DecidableEq

structure Orders where
  pending : KeyOrder String
  applePending : KeyOrder String
  active : KeyOrder String
  writers : KeyOrder String
  devicePeers : KeyOrder String
  entries : KeyOrder String

/-! ### Hosts -/

structure Entry where
  host : HostSnapshot
  heartbeat : ℕ
  deriving DecidableEq

def appleHostIsCurrent (entry : Entry) (now offline : ℕ) : Bool := now - entry.heartbeat < offline

def validateHostSnapshot (snapshot : HostSnapshot) : Except TopologyError Unit :=
  (Dashboard.projectHost snapshot none .untrusted .registry [] .unknown 0).map fun _ => ()

def connectedDevices (host : HostSnapshot) : List String :=
  (host.devices.filter fun device => device.state = "connected").map fun device => device.id

def Entry.eligible (entry : Entry) (now offline : ℕ) (operation : AppleRequest) : Bool :=
  appleHostIsCurrent entry now offline && entry.host.capabilities.contains operation.capability &&
    operation.deviceId.all fun deviceId =>
      entry.host.devices.any fun device => device.id = deviceId && device.state = "connected"

namespace DurableState

def empty : DurableState :=
  { requests := ∅
    jobs := ∅
    artifacts := ∅
    audit := []
    pending := ∅
    applePending := ∅
    appleRequests := ∅
    appleOperations := ∅
    appleHosts := ∅
    jobClients := ∅
    jobAgents := ∅
    hostPeers := ∅
    devicePeers := ∅
    dispatched := ∅
    acknowledged := ∅
    cancelled := ∅
    recoveryError := none }

def ownedByAnother (state : DurableState) (peerId hostId : String) (connected : List String) : Bool :=
  (state.hostPeers.lookup hostId).any (fun owner => owner ≠ peerId) ||
    connected.any fun deviceId => (state.devicePeers.lookup deviceId).any fun owner => owner ≠ peerId

def claim (state : DurableState) (peerId hostId : String) (connected : List String) : DurableState :=
  { state with
    hostPeers := state.hostPeers.insert hostId peerId
    devicePeers := connected.foldl (fun peers deviceId => peers.insert deviceId peerId)
      state.devicePeers }

def detachedDevices (state : DurableState) (orders : Orders) (peerId : String)
    (connected : List String) : List String :=
  ((state.devicePeers.entriesIn orders.devicePeers).filter fun entry =>
    entry.2 = peerId && !connected.contains entry.1).map Prod.fst

/-! ### Jobs that wait -/

def nextRun (state : DurableState) (orders : Orders) (hostId : String) : Option (String × RunRequest) :=
  (state.pending.entriesIn orders.pending).find? fun entry =>
    entry.2.hostId = hostId && entry.1 ∉ state.dispatched

def writerFree (leases : LeaseBook) (jobId : String) (operation : AppleRequest) : Bool :=
  !operation.operation.mutatesDevice ||
    operation.deviceId.all fun deviceId =>
      (leases.writers.lookup deviceId).all fun writer => writer.jobId = jobId

def nextApple (state : DurableState) (leases : LeaseBook) (orders : Orders) (hostId : String) :
    Option (String × AppleRequest) :=
  (state.applePending.entriesIn orders.applePending).find? fun entry =>
    state.appleHosts.lookup entry.1 = some hostId && entry.1 ∉ state.acknowledged &&
      writerFree leases entry.1 entry.2

/-! ### Changes of the state -/

def dispatch (state : DurableState) (jobId : String) : DurableState :=
  { state with dispatched := insert jobId state.dispatched }

def undispatch (state : DurableState) (jobId : String) : DurableState :=
  { state with dispatched := state.dispatched.erase jobId }

def dismiss (state : DurableState) (jobId kind payload : String) : DurableState :=
  { state with
    applePending := state.applePending.erase jobId
    jobs := state.jobs.insert jobId
      ((state.jobs.lookup jobId).getD [] ++ [{ sequence := 1, kind, payload }]) }

def acceptRun (state : DurableState) (jobId : String) (operation : RunRequest) : DurableState :=
  { state with
    requests := state.requests.insert operation.requestId jobId
    pending := state.pending.insert jobId operation }

def complete (state : DurableState) (jobId artifact : String) (events : List NetworkEvent)
    (operation : RunRequest) : DurableState :=
  let succeeded := events.getLast?.any fun event => event.kind = "exit" && event.payload = "0"
  { state with
    pending := state.pending.erase jobId
    jobs := state.jobs.insert jobId events
    artifacts := state.artifacts.insert jobId artifact
    audit := state.audit ++
      [{ principalId := operation.principalId
         hostId := operation.hostId
         deviceId := operation.deviceId
         workspaceId := operation.workspaceId
         jobId
         result := if succeeded then "succeeded" else "failed" }] }

def acceptApple (state : DurableState) (peerId jobId target : String) (operation : AppleRequest) :
    DurableState :=
  { state with
    appleRequests := state.appleRequests.insert operation.idempotencyKey jobId
    appleOperations := state.appleOperations.insert operation.idempotencyKey operation
    applePending := state.applePending.insert jobId operation
    appleHosts := state.appleHosts.insert jobId target
    jobClients := state.jobClients.insert jobId peerId
    jobAgents := (state.hostPeers.lookup target).elim state.jobAgents fun agent =>
      state.jobAgents.insert jobId agent
    jobs := state.jobs.insert jobId [] }

/-- The events of a job with those that are new; the first one with a number stays. -/
def mergeEvents (existing events : List NetworkEvent) : List NetworkEvent :=
  events.foldl (fun existing event =>
    if existing.any fun current => current.sequence = event.sequence then existing
    else existing ++ [event]) existing

def progress (state : DurableState) (jobId : String) (events : List NetworkEvent) : DurableState :=
  { state with
    jobs := state.jobs.insert jobId (mergeEvents ((state.jobs.lookup jobId).getD []) events) }

def acknowledge (state : DurableState) (jobId : String) : DurableState :=
  { state with acknowledged := insert jobId state.acknowledged }

def finish (state : DurableState) (jobId : String) : DurableState :=
  { state with
    applePending := state.applePending.erase jobId
    cancelled := state.cancelled.erase jobId }

def cancel (state : DurableState) (jobId : String) : DurableState :=
  { state with cancelled := insert jobId state.cancelled }

def loseDevice (state : DurableState) (deviceId : String) : DurableState :=
  { state with devicePeers := state.devicePeers.erase deviceId }

end DurableState

/-! ### Writers -/

structure Locked where
  state : DurableState
  leases : LeaseBook
  deriving DecidableEq

namespace Locked

def finishWriter (locked : Locked) (nowMs : ℕ) (deviceId : String) : Locked :=
  { state :=
      if deviceId ∈ locked.leases.pendingDetach then locked.state.loseDevice deviceId
      else locked.state
    leases := locked.leases.finishWriter deviceId nowMs }

def finishWriters (locked : Locked) (deviceIds : List String) (nowMs : ℕ) : Locked :=
  deviceIds.foldl (fun locked deviceId => locked.finishWriter nowMs deviceId) locked

def detach (locked : Locked) (nowMs : ℕ) (deviceId : String) : Locked :=
  { state :=
      if (locked.leases.writers.lookup deviceId).isSome then locked.state
      else locked.state.loseDevice deviceId
    leases := locked.leases.detachInventory deviceId nowMs }

def inventory (locked : Locked) (orders : Orders) (nowMs : ℕ) (peerId hostId : String)
    (connected : List String) : Locked :=
  let claimed : Locked :=
    { state := locked.state.claim peerId hostId connected
      leases :=
        { locked.leases with
          pendingDetach := connected.foldl (fun pending deviceId => pending.erase deviceId)
            locked.leases.pendingDetach } }
  (locked.state.detachedDevices orders peerId connected).foldl
    (fun locked deviceId => locked.detach nowMs deviceId) claimed

end Locked

def orphanedDevices (locked : Locked) (orders : Orders) : List String :=
  ((locked.leases.writers.entriesIn orders.writers).filter fun entry =>
    entry.2.jobId ∉ locked.state.acknowledged ||
      (locked.state.applePending.lookup entry.2.jobId).isNone).map Prod.fst

def reconcileRuntimeState (locked : Locked) (orders : Orders) (nowMs : ℕ) : Bool × Locked :=
  (orphanedDevices locked orders ≠ [],
    locked.finishWriters (orphanedDevices locked orders) nowMs)

def writtenDevices (leases : LeaseBook) (orders : Orders) (jobId : String) : List String :=
  ((leases.writers.entriesIn orders.writers).filter fun entry => entry.2.jobId = jobId).map Prod.fst

def LeaseBook.leaseOf (leases : LeaseBook) (deviceId leaseId : String) (clientId : Option String) :
    Option DeviceLease :=
  (leases.active.lookup deviceId).filter fun lease =>
    lease.id = leaseId && clientId = some lease.clientId

def LeaseBook.setWriter (leases : LeaseBook) (deviceId jobId : String) : LeaseBook :=
  { leases with writers := leases.writers.insert deviceId ⟨jobId⟩ }

/-- The writers of a job are taken away, and nothing else is done. -/
def LeaseBook.dropWriters (leases : LeaseBook) (jobId : String) : LeaseBook :=
  { leases with writers := leases.writers.retain fun _ writer => writer.jobId ≠ jobId }

def restoreAcknowledgedWriter (state : DurableState) (leases : LeaseBook) (orders : Orders)
    (nowMs : ℕ) (jobId : String) : Except String Bool × LeaseBook :=
  match state.applePending.lookup jobId with
  | none => (.error "unknown_job", leases)
  | some operation =>
    if operation.operation.mutatesDevice = false then
      (.ok false, leases)
    else
      let leases := leases.expire orders.active nowMs
      match operation.deviceId, operation.leaseId, state.jobClients.lookup jobId with
      | some deviceId, some leaseId, some clientId =>
        if (leases.leaseOf deviceId leaseId (some clientId)).isNone then
          (.error "lease_inactive", leases)
        else
          match leases.writers.lookup deviceId with
          | some writer =>
            if writer.jobId = jobId then (.ok false, leases)
            else (.error "device_writer_busy", leases)
          | none => (.ok true, leases.setWriter deviceId jobId)
      | _, _, _ => (.error "lease_inactive", leases)

end Registry
