/-
**The registry at work.**

Every connection to the registry has a thread of its own, and the threads share the state, the leases, the
hosts that are online, and the artifacts, each behind a lock. A thread answers a request in sections:
within a section it keeps the locks that it needs, and between two of its sections other threads may come.
A thread that keeps the lock of the state while it gives the lock of the leases away keeps out all others
that need the state. After a crash the registry starts with what is on the disk.

Main definitions:

* `Registry.Runtime` — the registry with its disk, and with the requests that are not answered yet.
-/

import DeviceLane.Registry.State

namespace Registry

open Dashboard (HostSnapshot u64Max)

/-- What the registry is started with: the peers that are agents, for how long a host counts as online,
and the signature of the registry. -/
structure Config where
  agentPeers : Finset String
  offline : ℕ
  sign : List UInt8 → List UInt8

/-- What a section meets. -/
structure Env where
  nowMs : ℕ
  instant : ℕ
  orders : Orders
  stateWrite : DiskWrite
  leasesWrite : DiskWrite
  artifactsWrite : DiskWrite
  access : FileAccess

inductive Flight
  | inventoried (host : HostSnapshot)
  | expired (host : HostSnapshot)
  | online (hostId : String)
  | leased (peerId : String) (operation : AppleRequest)
  | registering (metadata : NetworkArtifactMetadata) (participants : Finset String)
  | running (jobId : String)
  deriving DecidableEq

/-- Why the lock of the state is kept between two sections: something is left to be done with the leases,
or the thread has panicked. -/
inductive Holder
  | reconciling
  | rollingBack (jobId : String)
  | storingLeases
  | panicked
  deriving DecidableEq

structure Runtime where
  state : DurableState
  leases : LeaseBook
  entries : Map String Entry
  artifacts : NetworkArtifacts
  storedState : DurableState
  storedLeases : LeaseBook
  flights : List Flight
  holder : Option Holder

namespace Runtime

def empty : Runtime :=
  { state := DurableState.empty
    leases := LeaseBook.empty
    entries := ∅
    artifacts := NetworkArtifacts.empty
    storedState := DurableState.empty
    storedLeases := LeaseBook.empty
    flights := []
    holder := none }

def locked (runtime : Runtime) : Locked := ⟨runtime.state, runtime.leases⟩

def setLocked (runtime : Runtime) (locked : Locked) : Runtime :=
  { runtime with
    state := locked.state
    leases := locked.leases }

def storeLeases (runtime : Runtime) (env : Env) : Runtime :=
  if env.leasesWrite.lands then { runtime with storedLeases := runtime.leases } else runtime

/-- The state is written to the disk, unless it is in place of one that could not be read. -/
def storeState (runtime : Runtime) (env : Env) : Runtime :=
  if runtime.state.recoveryError = none ∧ env.stateWrite.lands then
    { runtime with storedState := runtime.state }
  else
    runtime

def storesState (runtime : Runtime) (env : Env) : Prop :=
  runtime.state.recoveryError = none ∧ env.stateWrite = .stored

instance (runtime : Runtime) (env : Env) : Decidable (runtime.storesState env) :=
  inferInstanceAs (Decidable (_ ∧ _))

def fly (runtime : Runtime) (flight : Flight) : Runtime :=
  { runtime with flights := flight :: runtime.flights }

def hold (runtime : Runtime) (holder : Holder) : Runtime := { runtime with holder := some holder }

def storeStateOrPanic (runtime : Runtime) (env : Env) (response : Response) :
    Runtime × Option Response :=
  let stored := runtime.storeState env
  if runtime.storesState env then (stored, some response) else (stored.hold .panicked, none)

end Runtime

def persistenceFailed : Response := errorResponse "persistence_failed"

/-! ### Heartbeats -/

def heartbeatInventory (config : Config) (env : Env) (peerId : String) (host : HostSnapshot)
    (runtime : Runtime) : Runtime × Option Response :=
  if peerId ∉ config.agentPeers then
    (runtime, some (errorResponse "agent_access_denied"))
  else if (validateHostSnapshot host).isOk = false then
    (runtime, some (errorResponse "invalid_host_inventory"))
  else if runtime.state.ownedByAnother peerId host.id (connectedDevices host) then
    (runtime, some (errorResponse "agent_identity_mismatch"))
  else
    let taken := runtime.setLocked
      (runtime.locked.inventory env.orders env.nowMs peerId host.id (connectedDevices host))
    let stored := taken.storeLeases env
    if env.leasesWrite = .stored then
      (stored.fly (.inventoried host), none)
    else
      (stored, some persistenceFailed)

def heartbeatExpire (env : Env) (host : HostSnapshot) (runtime : Runtime) :
    Runtime × Option Response :=
  let stored : Runtime :=
    { runtime with leases := runtime.leases.expire env.orders.active env.nowMs }.storeLeases env
  if env.leasesWrite = .stored then
    (stored.fly (.expired host), none)
  else
    (stored, some persistenceFailed)

def heartbeatOnline (env : Env) (host : HostSnapshot) (runtime : Runtime) :
    Runtime × Option Response :=
  ({ runtime with
      entries := runtime.entries.insert host.id
        { host := { host with status := "online" }
          heartbeat := env.instant } }.fly (.online host.id), none)

/-- The end of a heartbeat: the jobs that are to be cancelled are named, and the state is stored. -/
def heartbeatAnswer (env : Env) (response : Response) (runtime : Runtime) :
    Runtime × Option Response :=
  let stored := runtime.storeState env
  if runtime.storesState env then
    (stored, some { response with cancelJobs := runtime.state.cancelled })
  else
    match response.jobId with
    | none => (stored, some persistenceFailed)
    | some jobId =>
      ({ stored with state := stored.state.undispatch jobId }.hold .reconciling, none)

def leaseNeeded (operation : AppleRequest) : Option (String × String) :=
  if operation.operation.mutatesDevice then
    match operation.deviceId, operation.leaseId with
    | some deviceId, some leaseId => some (deviceId, leaseId)
    | _, _ => none
  else
    none

def dispatchApple (config : Config) (env : Env) (jobId : String) (operation : AppleRequest)
    (response : Response) (runtime : Runtime) : Runtime × Option Response :=
  match leaseNeeded operation with
  | none =>
    heartbeatAnswer env { response with appleOperation := some operation, jobId := some jobId }
      { runtime with state := runtime.state.dispatch jobId }
  | some (deviceId, leaseId) =>
    let leases := runtime.leases.expire env.orders.active env.nowMs
    match leases.leaseOf deviceId leaseId (runtime.state.jobClients.lookup jobId) with
    | none =>
      heartbeatAnswer env { response with jobId := some jobId }
        { runtime with
          state := runtime.state.dismiss jobId "rejected" "lease_inactive"
          leases }
    | some lease =>
      let stored : Runtime :=
        { runtime with leases := leases.setWriter deviceId jobId }.storeLeases env
      if env.leasesWrite = .stored then
        heartbeatAnswer env
          { response with
            appleOperation := some operation
            jobId := some jobId
            leaseGrant := some (grantOf config.sign lease jobId env.nowMs) }
          { stored with state := stored.state.dispatch jobId }
      else
        (stored, some persistenceFailed)

/-- **Jobs are given out.** -/
def heartbeatDispatch (config : Config) (env : Env) (hostId : String) (runtime : Runtime) :
    Runtime × Option Response :=
  let run := runtime.state.nextRun env.orders hostId
  let apple := runtime.state.nextApple runtime.leases env.orders hostId
  let response : Response :=
    run.elim response fun job =>
      { response with
        operation := some job.2
        jobId := some job.1 }
  let given : Runtime :=
    { runtime with state := run.elim runtime.state fun job => runtime.state.dispatch job.1 }
  match apple with
  | none => heartbeatAnswer env response given
  | some (jobId, operation) => dispatchApple config env jobId operation response given

/-! ### Jobs -/

def jobResponse (state : DurableState) (jobId : String) : Response :=
  { response with
    events := (state.jobs.lookup jobId).getD []
    audit := state.audit.filter fun event => event.jobId = jobId
    jobId := some jobId
    artifact := state.artifacts.lookup jobId }

def completeJob (env : Env) (jobId artifact : String) (events : List NetworkEvent) (runtime : Runtime) :
    Runtime × Option Response :=
  match runtime.state.pending.lookup jobId with
  | none => (runtime, some response)
  | some operation =>
    { runtime with state := runtime.state.complete jobId artifact events operation }.storeStateOrPanic
      env response

def jobEvents (state : DurableState) (jobId : String) (after : ℕ) : Response :=
  { response with
    jobId := some jobId
    events := ((state.jobs.lookup jobId).getD []).filter fun event => event.sequence > after
    audit := state.audit.filter fun event => event.jobId = jobId
    artifact := state.artifacts.lookup jobId }

section

variable [Sha256]

def runJobId (requestId : String) : String := "job-" ++ digestText (Endian.textBytes requestId)

def appleJobId (idempotencyKey : String) : String :=
  "apple-" ++ digestText (Endian.textBytes idempotencyKey)

/-- A job is accepted, and its client waits for it. -/
def run (env : Env) (operation : RunRequest) (runtime : Runtime) : Runtime × Option Response :=
  match runtime.state.requests.lookup operation.requestId with
  | some jobId => (runtime, some (jobResponse runtime.state jobId))
  | none =>
    if validId operation.hostId = false ∨ validId operation.workspaceId = false then
      (runtime, some { response with accepted := false })
    else if (operation.manifest.all fun file => isRelativePath file.path) = false then
      (runtime, some (errorResponse "invalid_manifest_path"))
    else
      let jobId := runJobId operation.requestId
      let accepted : Runtime := { runtime with state := runtime.state.acceptRun jobId operation }
      let stored := accepted.storeState env
      if accepted.storesState env then (stored.fly (.running jobId), none)
      else (stored.hold .panicked, none)

def runWait (jobId : String) (runtime : Runtime) : Runtime × Option Response :=
  if (runtime.state.jobs.lookup jobId).isSome then
    (runtime, some (jobResponse runtime.state jobId))
  else
    (runtime, some { errorResponse "agent_timeout" with jobId := some jobId })

def appleRunAccept (config : Config) (env : Env) (peerId : String) (operation : AppleRequest)
    (runtime : Runtime) : Runtime × Option Response :=
  match runtime.state.appleRequests.lookup operation.idempotencyKey with
  | some jobId =>
    if (runtime.state.appleOperations.lookup operation.idempotencyKey).any
        (fun existing => existing ≠ operation) then
      (runtime, some (errorResponse "idempotency_conflict"))
    else
      (runtime, some { response with jobId := some jobId })
  | none =>
    match (runtime.entries.entriesIn env.orders.entries).find? fun entry =>
        entry.2.eligible env.instant config.offline operation with
    | none => (runtime, some (errorResponse "no_eligible_host"))
    | some entry =>
      let jobId := appleJobId operation.idempotencyKey
      { runtime with
        state := runtime.state.acceptApple peerId jobId entry.2.host.id operation }.storeStateOrPanic
          env { response with jobId := some jobId }

def appleRunLease (env : Env) (peerId : String) (operation : AppleRequest) (runtime : Runtime) :
    Runtime × Option Response :=
  let stored : Runtime :=
    { runtime with leases := runtime.leases.expire env.orders.active env.nowMs }.storeLeases env
  let lease := operation.deviceId.bind fun deviceId =>
    operation.leaseId.bind fun leaseId => stored.leases.leaseOf deviceId leaseId (some peerId)
  if env.leasesWrite ≠ .stored then
    (stored, some persistenceFailed)
  else if lease.isNone then
    (stored, some (errorResponse "lease_inactive"))
  else
    (stored.fly (.leased peerId operation), none)

/-- **A client asks for an Apple job.** -/
def appleRun (config : Config) (env : Env) (peerId : String) (operation : AppleRequest)
    (runtime : Runtime) : Runtime × Option Response :=
  match validateRequestEnvelope operation with
  | .error error => (runtime, some (errorResponse error.code))
  | .ok () =>
    if operation.operation.mutatesDevice then appleRunLease env peerId operation runtime
    else appleRunAccept config env peerId operation runtime

end

def progressOngoing (env : Env) (jobId : String) (events : List NetworkEvent) (runtime : Runtime) :
    Runtime × Option Response :=
  let restored := restoreAcknowledgedWriter runtime.state runtime.leases env.orders env.nowMs jobId
  let stored : Runtime := { runtime with leases := restored.2 }.storeLeases env
  match restored.1 with
  | .error error => (stored, some (errorResponse error))
  | .ok restored =>
    if env.leasesWrite ≠ .stored then
      (stored, some persistenceFailed)
    else
      let progressed : Runtime :=
        { stored with state := (stored.state.progress jobId events).acknowledge jobId }
      if progressed.storesState env then
        (progressed.storeState env, some response)
      else if restored then
        ((progressed.storeState env).hold (.rollingBack jobId), none)
      else
        (progressed.storeState env, some persistenceFailed)

def progressTerminal (env : Env) (jobId : String) (events : List NetworkEvent) (runtime : Runtime) :
    Runtime × Option Response :=
  let locked : Locked := ⟨runtime.state.progress jobId events, runtime.leases⟩
  let finished := locked.finishWriters (writtenDevices runtime.leases env.orders jobId) env.nowMs
  let ended := runtime.setLocked { finished with state := finished.state.finish jobId }
  let stored := ended.storeState env
  if ended.storesState env then (stored.hold .storingLeases, none)
  else (stored, some persistenceFailed)

/-- **An agent reports on a job.** -/
def appleProgress (env : Env) (peerId jobId : String) (events : List NetworkEvent) (terminal : Bool)
    (runtime : Runtime) : Runtime × Option Response :=
  if runtime.state.jobAgents.lookup jobId ≠ some peerId then
    (runtime, some (errorResponse "apple_progress_access_denied"))
  else if terminal then
    progressTerminal env jobId events runtime
  else
    progressOngoing env jobId events runtime

def appleCancel (env : Env) (peerId jobId : String) (runtime : Runtime) : Runtime × Option Response :=
  if runtime.state.jobClients.lookup jobId ≠ some peerId then
    (runtime, some (errorResponse "apple_cancel_access_denied"))
  else if (runtime.state.applePending.lookup jobId).isNone then
    (runtime, some (errorResponse "unknown_job"))
  else
    let cancelled :=
      if jobId ∈ runtime.state.dispatched then runtime.state.cancel jobId
      else runtime.state.dismiss jobId "cancelled" ""
    { runtime with state := cancelled }.storeStateOrPanic env response

/-! ### Other requests -/

def listHosts (config : Config) (env : Env) (runtime : Runtime) : Response :=
  let hosts := (runtime.entries.entriesIn env.orders.entries).map fun entry =>
    { entry.2.host with
      status :=
        if config.offline ≤ env.instant - entry.2.heartbeat then "offline" else "online" }
  { response with hosts := hosts.mergeSort fun a b => a.id ≤ b.id }

def authenticateDashboardAccess (config : Config) (peerId : String) (assertion : Option String) :
    Response :=
  if peerId ∈ config.agentPeers then
    errorResponse "controller_identity_required"
  else
    match assertion with
    | none => errorResponse "mesh_identity_mismatch"
    | some assertion =>
      { response with
        events := [{ sequence := 1, kind := "authenticated_dashboard_access", payload := assertion }] }

def leaseRequest (config : Config) (env : Env) (peerId : String) (operation : LeaseRequest)
    (runtime : Runtime) : Runtime × Option Response :=
  match lease config.sign config.agentPeers env.orders.active operation peerId runtime.state.devicePeers
      runtime.leases env.nowMs with
  | none => (runtime.hold .panicked, none)
  | some (response, devicePeers, leases) =>
    let applied : Runtime :=
      { runtime with
        state := { runtime.state with devicePeers }
        leases }
    let stored := applied.storeLeases env
    if env.leasesWrite ≠ .stored then
      (stored, some persistenceFailed)
    else if stored.storesState env then
      (stored.storeState env, some response)
    else
      (stored.storeState env, some persistenceFailed)

def registerArtifact [Sha256] (peerId jobId name mediaType : String) (totalSize : ℕ) (sha256 : String)
    (runtime : Runtime) : Runtime × Option Response :=
  match registration peerId (runtime.state.jobAgents.lookup jobId)
      (runtime.state.jobClients.lookup jobId) jobId name mediaType totalSize sha256 with
  | .error response => (runtime, some response)
  | .ok (metadata, participants) => (runtime.fly (.registering metadata participants), none)

/-! ### Events -/

def readOnlyDuringRecovery : Request → Bool
  | .list => true
  | .events _ _ => true
  | .artifactRead _ _ _ _ _ => true
  | .artifactInfo _ => true
  | _ => false

section

variable [Sha256]

/-- The first section of a request. -/
def request (config : Config) (env : Env) (peerId : String) (runtime : Runtime) :
    Request → Runtime × Option Response
  | .heartbeat host => heartbeatInventory config env peerId host runtime
  | .complete jobId artifact events => completeJob env jobId artifact events runtime
  | .list => (runtime, some (listHosts config env runtime))
  | .authenticateDashboardAccess assertion =>
    (runtime, some (authenticateDashboardAccess config peerId assertion))
  | .run operation => run env operation runtime
  | .events jobId after =>
    (runtime, some
      (runtime.state.recoveryError.elim (jobEvents runtime.state jobId after) errorResponse))
  | .appleRun operation => appleRun config env peerId operation runtime
  | .appleProgress jobId events terminal => appleProgress env peerId jobId events terminal runtime
  | .appleCancel jobId => appleCancel env peerId jobId runtime
  | .artifactRegister jobId name mediaType totalSize sha256 =>
    registerArtifact peerId jobId name mediaType totalSize sha256 runtime
  | .artifactWrite artifactId offset totalSize sha256 chunkSha256 bytes =>
    let result := runtime.artifacts.write peerId artifactId offset
      ⟨totalSize, sha256, chunkSha256, bytes⟩ env.access env.artifactsWrite
    ({ runtime with artifacts := result.2 }, result.1)
  | .artifactRead artifactId offset length totalSize sha256 =>
    (runtime, some
      (runtime.artifacts.read peerId artifactId offset length totalSize sha256 env.access))
  | .artifactInfo artifactId => (runtime, some (runtime.artifacts.info peerId artifactId))
  | .lease operation => leaseRequest config env peerId operation runtime

def Flight.needsState : Flight → Bool
  | online _ => true
  | leased _ _ => true
  | running _ => true
  | _ => false

def resume (config : Config) (env : Env) (runtime : Runtime) : Flight → Runtime × Option Response
  | .inventoried host => heartbeatExpire env host runtime
  | .expired host => heartbeatOnline env host runtime
  | .online hostId => heartbeatDispatch config env hostId runtime
  | .leased peerId operation => appleRunAccept config env peerId operation runtime
  | .registering metadata participants =>
    let result := runtime.artifacts.register metadata participants env.artifactsWrite
    ({ runtime with artifacts := result.2 }, some result.1)
  | .running jobId => runWait jobId runtime

end

def settle (env : Env) (runtime : Runtime) : Holder → Runtime × Option Response
  | .reconciling =>
    let reconciled := runtime.setLocked
      (reconcileRuntimeState runtime.locked env.orders env.nowMs).2
    ({ reconciled.storeLeases env with holder := none }, some persistenceFailed)
  | .rollingBack jobId =>
    let dropped : Runtime := { runtime with leases := runtime.leases.dropWriters jobId }
    ({ dropped.storeLeases env with holder := none }, some persistenceFailed)
  | .storingLeases =>
    ({ runtime.storeLeases env with holder := none },
      some (if env.leasesWrite = .stored then response else persistenceFailed))
  | .panicked => (runtime, none)

/-- What happens next: a request comes, a request goes on, or the thread that keeps the state does. -/
inductive Event
  | request (peerId : String) (request : Request)
  | resume (flight : Flight)
  | settle
  deriving DecidableEq

section

variable [Sha256]

/-- The section that an event asks for; one that has to wait for a lock does nothing. -/
def perform (config : Config) (env : Env) (event : Event) (runtime : Runtime) :
    Runtime × Option Response :=
  match event with
  | .request peerId req =>
    if runtime.holder.isSome then
      (runtime, none)
    else if readOnlyDuringRecovery req then
      request config env peerId runtime req
    else
      match runtime.state.recoveryError with
      | none => request config env peerId runtime req
      | some error => (runtime, some (errorResponse error))
  | .resume flight =>
    if flight ∉ runtime.flights ∨ (flight.needsState ∧ runtime.holder.isSome) then
      (runtime, none)
    else
      resume config env { runtime with flights := runtime.flights.erase flight } flight
  | .settle =>
    match runtime.holder with
    | none => (runtime, none)
    | some holder => settle env runtime holder

/-- **What an event does.**  A section that runs out of numbers for leases panics; then it does
nothing. -/
def handle (config : Config) (env : Env) (event : Event) (runtime : Runtime) :
    Runtime × Option Response :=
  if (perform config env event runtime).1.leases.nextId ≤ u64Max then
    perform config env event runtime
  else
    (runtime, none)

end

/-! ### Starts -/

/-- The state that is on the disk, or an empty one that tells why it could not be read. -/
def loadState (stored : DurableState) (unreadable : Option String) : DurableState :=
  match unreadable with
  | none => { stored with recoveryError := none }
  | some error => { DurableState.empty with recoveryError := some error }

def loaded (env : Env) (unreadable : Option String) (debris : String → List UInt8)
    (runtime : Runtime) : Runtime :=
  { state := loadState runtime.storedState unreadable
    leases := runtime.storedLeases.expire env.orders.active env.nowMs
    entries := ∅
    artifacts := runtime.artifacts.restart debris
    storedState := runtime.storedState
    storedLeases := runtime.storedLeases
    flights := []
    holder := none }

/-- The registry starts after a crash. The leases are written twice where writers are taken away; if
something cannot be written, the registry does not start. -/
def start (env : Env) (again : DiskWrite) (unreadable : Option String) (debris : String → List UInt8)
    (runtime : Runtime) : Runtime :=
  let found := (loaded env unreadable debris runtime).storeLeases env
  if env.leasesWrite ≠ .stored then
    found.hold .panicked
  else
    let reconciled := reconcileRuntimeState found.locked env.orders env.nowMs
    if reconciled.1 = false then
      found
    else
      let changed := found.setLocked reconciled.2
      let stored := changed.storeState env
      if ¬ changed.storesState env then
        stored.hold .panicked
      else if again ≠ .stored then
        (stored.storeLeases { env with leasesWrite := again }).hold .panicked
      else
        stored.storeLeases { env with leasesWrite := again }

/-- What happens to the registry, crashes included. -/
inductive Input
  | event (env : Env) (event : Event)
  | start (env : Env) (again : DiskWrite) (unreadable : Option String)
      (debris : String → List UInt8)

section

variable [Sha256]

namespace Runtime

def next (config : Config) (runtime : Runtime) : Input → Runtime
  | .event env event => (handle config env event runtime).1
  | .start env again unreadable debris =>
    if (Registry.start env again unreadable debris runtime).leases.nextId ≤ u64Max then
      Registry.start env again unreadable debris runtime
    else
      runtime

def runInputs (config : Config) (inputs : List Input) (runtime : Runtime) : Runtime :=
  inputs.foldl (next config) runtime

/-- The registry after an event, where it does not crash. -/
def step (config : Config) (runtime : Runtime) (input : Env × Event) : Runtime :=
  (handle config input.1 input.2 runtime).1

theorem runInputs_events (config : Config) (steps : List (Env × Event)) (runtime : Runtime) :
    runtime.runInputs config (steps.map fun input => .event input.1 input.2)
      = steps.foldl (step config) runtime :=
  List.foldl_map

end Runtime

end

end Registry
