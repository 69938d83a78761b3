/-
**The view of the network.**

The projector keeps what has been observed of the hosts of the network, from the local host, a
registry's inventory or a connection to the controller of the registry, and the leases of their devices.
What is observed is checked and brought into the form of a snapshot. A host that is no longer observed
is stale, and its leases are uncertain.

Main definitions:

* `Dashboard.TopologyProjector` — the state, `Dashboard.TopologyProjector.snapshot` the snapshot of it.
-/

import DeviceLane.Dashboard.Snapshot
import DeviceLane.Library.Effect
import DeviceLane.Library.Map
import Mathlib.Data.List.Dedup
import Mathlib.Data.List.Destutter

namespace Dashboard

open Effect

/-! ### Observations -/

structure DeviceSnapshot where
  id : String
  platform : String
  state : String
  deriving DecidableEq

structure HostSnapshot where
  id : String
  operatingSystem : String
  architecture : String
  status : String
  capabilities : List String
  devices : List DeviceSnapshot
  deriving DecidableEq

structure DeviceDetails where
  id : String
  displayName : String
  capabilities : List String
  permissions : List String
  deriving DecidableEq

/-- A row of an inventory. -/
structure RegistryHost where
  snapshot : HostSnapshot
  displayName : String
  trust : TrustState
  connectionPath : ConnectionPath
  permissions : List String
  devices : List DeviceDetails
  deriving DecidableEq

inductive TopologyErrorKind
  | invalidField
  | invalidTrust
  | invalidConnectionPath
  | unauthenticatedRegistry
  | invalidRegistryEpoch
  | limitExceeded
  | revisionExhausted
  deriving DecidableEq, Repr

structure TopologyError where
  kind : TopologyErrorKind
  field : String
  value : String
  deriving DecidableEq, Repr

def TopologyError.invalid (field value : String) : TopologyError := ⟨.invalidField, field, value⟩

/-! ### Checks of what is observed -/

/-- The control characters of Unicode. -/
def isControl (c : Char) : Bool := c.toNat < 0x20 || (0x7F ≤ c.toNat && c.toNat ≤ 0x9F)

def validateIdentifier (field value : String) : Except TopologyError Unit :=
  failIf (trim value = "" ∨ value.utf8ByteSize > maxIdBytes ∨ value.toList.any isControl = true)
    (.invalid field "invalid identifier")

def validateDisplay (field value : String) : Except TopologyError Unit :=
  failIf (trim value = "" ∨ value.utf8ByteSize > maxTextBytes ∨ value.toList.any isControl = true)
    (.invalid field (Nat.repr value.utf8ByteSize))

def validateCodeInput (field value : String) : Except TopologyError Unit :=
  failIf (value.utf8ByteSize > 128) (.invalid field (Nat.repr value.utf8ByteSize))

def validateCodeInputs (field : String) (values : List String) : Except TopologyError Unit :=
  match values.find? fun value => value.utf8ByteSize > 128 with
  | some value => .error (.invalid field (Nat.repr value.utf8ByteSize))
  | none => .ok ()

def validateRawText (field value : String) : Except TopologyError Unit :=
  failIf (value.utf8ByteSize > maxTextBytes) (.invalid field (Nat.repr value.utf8ByteSize))

def ensureLimit (field : String) (length : ℕ) : Except TopologyError Unit :=
  failIf (length > maxCollectionItems) ⟨.limitExceeded, field, Nat.repr length⟩

/-! ### Parsing -/

def parseHostId (value : String) : Except TopologyError HostId := do
  validateIdentifier "host_id" value
  (ValidatedId.parse value).mapError fun error => .invalid "host_id" error.display

def parseDeviceId (value : String) : Except TopologyError DeviceId :=
  (ValidatedId.parse value).mapError fun error => .invalid "device_id" error.display

def normalizeCode (value : String) : String :=
  String.ofList ((toAsciiLowercase (trim value)).toList.map fun c =>
    if c = ' ' ∨ c = '/' then '_' else c)

def parseCode (value field : String) : Except TopologyError SafeCode :=
  (SafeCode.parse (normalizeCode value)).mapError fun error => .invalid field error.display

def parseCodes (values : List String) (field : String) : Except TopologyError (List SafeCode) :=
  values.mapM fun value => parseCode value field

def parseCapabilities (values : List String) (field : String) :
    Except TopologyError (List CapabilityCode) :=
  values.mapM fun value =>
    (CapabilityCode.parse (normalizeCode value)).mapError fun error => .invalid field error.display

def sortedCodes {α : Type} [DecidableEq α] (rank : α → String) (codes : List α) : List α :=
  (codes.mergeSort fun a b => rank a ≤ rank b).destutter (· ≠ ·)

theorem sortedCodes_nil {α : Type} [DecidableEq α] (rank : α → String) : sortedCodes rank [] = [] := by
  simp [sortedCodes]

theorem sortedCodes_singleton {α : Type} [DecidableEq α] (rank : α → String) (a : α) :
    sortedCodes rank [a] = [a] := by
  simp [sortedCodes]

def parsePresence (value : String) : Presence :=
  match toAsciiLowercase (trim value) with
  | "online" | "connected" | "available" => .online
  | "busy" | "leased" => .busy
  | "connecting" => .connecting
  | "attention_required" | "attention-required" => .attentionRequired
  | "remote_access_paused" | "paused" => .remoteAccessPaused
  | _ => .offline

def freshnessForPresence (presence : Presence) (freshness : Freshness) (observedAtMs : ℕ) :
    Freshness :=
  if presence = .offline then .stale observedAtMs else freshness

/-! ### Projection -/

def projectDevice (hostId : HostId) (snapshot : DeviceSnapshot) (details : Option DeviceDetails)
    (freshness : Freshness) (observedAtMs : ℕ) : Except TopologyError DashboardDevice := do
  validateCodeInput "device_platform" snapshot.platform
  validateRawText "device_state" snapshot.state
  validateIdentifier "device_id" snapshot.id
  let id ← parseDeviceId snapshot.id
  let displayName := (details.map DeviceDetails.displayName).getD snapshot.id
  let capabilities ← parseCapabilities ((details.map DeviceDetails.capabilities).getD [])
    "device_capability"
  let permissions ← parseCodes ((details.map DeviceDetails.permissions).getD []) "device_permission"
  let presence := parsePresence snapshot.state
  let platform ← parseCode snapshot.platform "device_platform"
  pure
    { id
      hostId
      displayName
      platform
      presence
      freshness := freshnessForPresence presence freshness observedAtMs
      capabilities := sortedCodes CapabilityCode.text capabilities
      permissions := sortedCodes SafeCode.text permissions }

def indexDeviceDetails (devices : List DeviceDetails) : Map String DeviceDetails :=
  devices.foldl (fun indexed details => indexed.insert details.id details) ∅

def validateDeviceDetails (device : DeviceDetails) : Except TopologyError Unit := do
  validateIdentifier "device_details.id" device.id
  validateDisplay "device_details.display_name" device.displayName
  ensureLimit "device_details.capabilities" device.capabilities.length
  ensureLimit "device_details.permissions" device.permissions.length
  validateCodeInputs "device_capability" device.capabilities
  validateCodeInputs "device_permission" device.permissions

/-- The checks of what is told of a host besides what it tells of itself. -/
def validateDetails : Option (String × List DeviceDetails) → Except TopologyError Unit
  | none => .ok ()
  | some (displayName, devices) => do
      ensureLimit "device_details" devices.length
      devices.forM validateDeviceDetails
      validateDisplay "display_name" displayName

def projectHost (snapshot : HostSnapshot) (details : Option (String × List DeviceDetails))
    (trust : TrustState) (connectionPath : ConnectionPath) (permissions : List String)
    (freshness : Freshness) (observedAtMs : ℕ) : Except TopologyError DashboardHost := do
  validateCodeInput "operating_system" snapshot.operatingSystem
  validateCodeInput "architecture" snapshot.architecture
  validateRawText "status" snapshot.status
  ensureLimit "devices" snapshot.devices.length
  ensureLimit "capabilities" snapshot.capabilities.length
  ensureLimit "permissions" permissions.length
  validateCodeInputs "capability" snapshot.capabilities
  validateCodeInputs "permission" permissions
  validateDetails details
  let id ← parseHostId snapshot.id
  let displayName := (details.map Prod.fst).getD snapshot.id
  let deviceDetails := indexDeviceDetails ((details.map Prod.snd).getD [])
  let devices ← snapshot.devices.mapM fun device =>
    projectDevice id device (deviceDetails.lookup device.id) freshness observedAtMs
  let capabilities ← parseCapabilities snapshot.capabilities "capability"
  let permissions ← parseCodes permissions "permission"
  let presence := parsePresence snapshot.status
  let platform ← parseCode snapshot.operatingSystem "operating_system"
  let architecture ← parseCode snapshot.architecture "architecture"
  let dashboard : DashboardHost :=
    { id
      displayName
      platform
      architecture
      presence
      freshness := freshnessForPresence presence freshness observedAtMs
      trust
      connectionPath
      capabilities := sortedCodes CapabilityCode.text capabilities
      permissions := sortedCodes SafeCode.text permissions
      devices := devices.mergeSort fun a b => a.id.text ≤ b.id.text }
  dashboard.validate.mapError fun error => .invalid "host" error.display
  pure dashboard

/-! ### The state -/

structure StoredHost where
  dashboard : DashboardHost
  lastSeenAtMs : ℕ
  isLocal : Bool
  isController : Bool
  deriving DecidableEq

structure StoredLease where
  ownerHostId : HostId
  deviceId : DeviceId
  state : LeaseState
  deriving DecidableEq

structure LeaseKey where
  text : String
  valid : validateIdentifier "lease_id" text = .ok ()
  deriving DecidableEq

theorem validateIdentifier_eq_ok {field value : String} :
    validateIdentifier field value = .ok () ↔
      trim value ≠ "" ∧ value.utf8ByteSize ≤ maxIdBytes ∧ value.toList.any isControl = false := by
  rw [validateIdentifier, failIf]
  split_ifs with hbad
  · simp only [false_iff, not_and, Bool.not_eq_false]
    intro hne _
    rcases hbad with hempty | hlong | hcontrol
    · exact absurd hempty hne
    · omega
    · exact hcontrol
  · simp only [not_or, Bool.not_eq_true] at hbad
    simp only [true_iff]
    exact ⟨hbad.1, by omega, hbad.2.2⟩

/-- The identifier of a lease. Stored texts are checked, so that they parse. -/
def LeaseKey.leaseId (key : LeaseKey) : LeaseId :=
  ⟨trim key.text, Nat.le_trans (utf8ByteSize_trim_le _) (validateIdentifier_eq_ok.1 key.valid).2.1,
    trim_trim _, (validateIdentifier_eq_ok.1 key.valid).1⟩

structure TopologyProjector where
  hosts : Map HostId StoredHost
  leases : Map LeaseKey StoredLease
  localHostId : Option HostId
  localRevision : Option ℕ
  registryRevision : Option ℕ
  registryAuthenticated : Bool
  authenticatedRegistry : Option (String × ℕ)
  revision : ℕ
  deriving DecidableEq

abbrev TopologyEff : Type → Type := Eff TopologyProjector TopologyError

namespace TopologyProjector

def newAtRevision (revision : ℕ) : TopologyProjector :=
  { hosts := ∅
    leases := ∅
    localHostId := none
    localRevision := none
    registryRevision := none
    registryAuthenticated := false
    authenticatedRegistry := none
    revision }

def new : TopologyProjector := newAtRevision 0

def preflightRevision : TopologyEff Unit := do
  let s ← get
  throwIf ((checkedAdd s.revision 1).isNone) ⟨.revisionExhausted, "revision", Nat.repr s.revision⟩

def commitRevision : TopologyEff Unit := modify fun s => { s with revision := s.revision + 1 }

/-! ### Hosts that are no longer observed -/

def staleDevice (lastSeenAtMs : ℕ) (device : DashboardDevice) : DashboardDevice :=
  { device with
    presence := .offline
    freshness := if device.freshness.isStale then device.freshness else .stale lastSeenAtMs }

def staleHost (host : StoredHost) : StoredHost :=
  { host with
    dashboard :=
      { host.dashboard with
        presence := .offline
        freshness := .stale host.lastSeenAtMs
        devices := host.dashboard.devices.map (staleDevice host.lastSeenAtMs) } }

def downgrade (hostId : HostId) (lease : StoredLease) : StoredLease :=
  if lease.ownerHostId = hostId ∧ lease.state = .active then
    { lease with state := .uncertain }
  else
    lease

def markHostStale (s : TopologyProjector) (hostId : HostId) : TopologyProjector :=
  match s.hosts.lookup hostId with
  | none => s
  | some host =>
    { s with
      hosts := s.hosts.insert hostId (staleHost host)
      leases := s.leases.mapValues fun _ lease => downgrade hostId lease }

def markHostsStale (s : TopologyProjector) (ids : List HostId) : TopologyProjector :=
  ids.foldl markHostStale s

def hostsWith (hosts : Map HostId StoredHost) (p : HostId → StoredHost → Bool) : List HostId :=
  (hosts.toList.filter fun entry => p entry.1 entry.2).map Prod.fst

def markAllRemoteStale (s : TopologyProjector) : TopologyProjector :=
  s.markHostsStale (hostsWith s.hosts fun _ host => !host.isLocal)

/-! ### Connections to a registry -/

def isNewEpoch (stored : Option (String × ℕ)) (sessionId : String) (epoch : ℕ) :
    Except TopologyError Bool :=
  match stored with
  | none => .ok true
  | some (storedSession, storedEpoch) =>
    if storedSession = sessionId then do
      failIf (epoch < storedEpoch) ⟨.invalidRegistryEpoch, "registry_epoch", Nat.repr epoch⟩
      pure (epoch > storedEpoch)
    else do
      failIf (epoch ≤ storedEpoch) ⟨.invalidRegistryEpoch, "registry_epoch", Nat.repr epoch⟩
      pure true

def beginEpoch (sessionId : String) (epoch : ℕ) (s : TopologyProjector) : TopologyProjector :=
  let trusted :=
    if s.authenticatedRegistry.any fun stored => stored.1 ≠ sessionId then
      let stale := s.markAllRemoteStale
      { stale with hosts := stale.hosts.retain fun _ host => !host.isController }
    else
      s
  { trusted with registryRevision := none, authenticatedRegistry := some (sessionId, epoch) }

def dropRegistry : TopologyEff Unit := do
  preflightRevision
  modify fun s => markAllRemoteStale { s with registryAuthenticated := false }
  commitRevision

def connectRegistry (sessionId : String) (epoch : ℕ) (authenticated : Bool) : TopologyEff Unit := do
  if authenticated = false then
    dropRegistry
  else do
    orThrow id (validateIdentifier "registry_session_id" sessionId)
    let s ← get
    let newEpoch ← orThrow id (isNewEpoch s.authenticatedRegistry sessionId epoch)
    preflightRevision
    if newEpoch then
      modify (beginEpoch sessionId epoch)
    modify fun s => { s with registryAuthenticated := true }
    commitRevision

def disconnectRegistry (_detectedAtMs : ℕ) : TopologyEff Unit := dropRegistry

/-! ### Observing hosts -/

def observedFreshness (s : TopologyProjector) (hostId : HostId) : Freshness :=
  if (s.hosts.lookup hostId).isSome then .live else .unknown

def placeLocal (hostId : HostId) (dashboard : DashboardHost) (sourceRevision observedAtMs : ℕ)
    (s : TopologyProjector) : TopologyProjector :=
  let others :=
    match s.localHostId with
    | none => s.hosts
    | some previous => if previous ≠ hostId then s.hosts.erase previous else s.hosts
  { s with
    hosts := others.insert hostId
      { dashboard, lastSeenAtMs := observedAtMs, isLocal := true, isController := false }
    localHostId := some hostId
    localRevision := some sourceRevision }

def observeLocal (sourceRevision observedAtMs : ℕ) (snapshot : HostSnapshot) :
    TopologyEff Unit := do
  let s ← get
  if s.localRevision.any fun stored => sourceRevision ≤ stored then
    pure ()
  else do
    let hostId ← orThrow id (parseHostId snapshot.id)
    let dashboard ← orThrow id
      (projectHost snapshot none .local .local [] (s.observedFreshness hostId) observedAtMs)
    preflightRevision
    modify (placeLocal hostId dashboard sourceRevision observedAtMs)
    commitRevision

def seenBefore (s : TopologyProjector) (hostId : HostId) (dashboard : DashboardHost)
    (observedAtMs : ℕ) : DashboardHost × ℕ :=
  if dashboard.freshness.isStale then
    let lastSeen := ((s.hosts.lookup hostId).map StoredHost.lastSeenAtMs).getD observedAtMs
    ({ dashboard with
        freshness := .stale lastSeen
        devices := dashboard.devices.map fun device =>
          { device with presence := .offline, freshness := .stale lastSeen } },
      lastSeen)
  else
    (dashboard, observedAtMs)

def deviceSeenBefore (previous : StoredHost) (device : DashboardDevice) : DashboardDevice :=
  if device.freshness.isStale then
    match previous.dashboard.devices.find? fun other => other.id = device.id with
    | none => device
    | some other =>
      { device with
        freshness :=
          if other.freshness.isStale then other.freshness else .stale previous.lastSeenAtMs }
  else
    device

def devicesSeenBefore (s : TopologyProjector) (hostId : HostId) (dashboard : DashboardHost) :
    DashboardHost :=
  match s.hosts.lookup hostId with
  | none => dashboard
  | some previous =>
    { dashboard with devices := dashboard.devices.map (deviceSeenBefore previous) }

/-- The projection of a row of an inventory; rows about the local host or a controller are skipped. -/
def projectRow (s : TopologyProjector) (observedAtMs : ℕ) (host : RegistryHost) :
    Except TopologyError (Option (HostId × DashboardHost × ℕ)) := do
  failIf (host.trust = .local) ⟨.invalidTrust, "trust", "remote hosts cannot claim local trust"⟩
  failIf (host.connectionPath ≠ .direct ∧ host.connectionPath ≠ .registry)
    ⟨.invalidConnectionPath, "connection_path", host.connectionPath.debugName⟩
  let hostId ← parseHostId host.snapshot.id
  if s.localHostId = some hostId ∨ (s.hosts.lookup hostId).any StoredHost.isController then
    pure none
  else do
    let dashboard ← projectHost host.snapshot (some (host.displayName, host.devices)) host.trust
      host.connectionPath host.permissions (s.observedFreshness hostId) observedAtMs
    let seen := s.seenBefore hostId dashboard observedAtMs
    pure (some (hostId, s.devicesSeenBefore hostId seen.1, seen.2))

def projectRows (s : TopologyProjector) (observedAtMs : ℕ) :
    List RegistryHost → Except TopologyError (List (HostId × DashboardHost × ℕ))
  | [] => .ok []
  | host :: hosts => do
      let row ← s.projectRow observedAtMs host
      let rows ← s.projectRows observedAtMs hosts
      pure (row.toList ++ rows)

def isAbsent (observedIds : List HostId) (id : HostId) (host : StoredHost) : Bool :=
  !host.isLocal && !host.isController && !decide (id ∈ observedIds)

def storeRows (hosts : Map HostId StoredHost) (rows : List (HostId × DashboardHost × ℕ)) :
    Map HostId StoredHost :=
  rows.foldl
    (fun hosts row => hosts.insert row.1
      { dashboard := row.2.1, lastSeenAtMs := row.2.2, isLocal := false, isController := false })
    hosts

def oldestAbsent (hosts : Map HostId StoredHost) (observedIds : List HostId) : List HostId :=
  (((hosts.toList.filter fun entry => isAbsent observedIds entry.1 entry.2).map fun entry =>
    (entry.2.lastSeenAtMs, entry.1)).mergeSort fun a b =>
      a.1 < b.1 || (a.1 = b.1 && a.2.text ≤ b.2.text)).map Prod.snd

def pruneHosts (hosts : Map HostId StoredHost) : List HostId → Map HostId StoredHost
  | [] => hosts
  | id :: ids => if hosts.len ≤ maxCollectionItems then hosts else pruneHosts (hosts.erase id) ids

def pruneAbsentHosts (hosts : Map HostId StoredHost) (observedIds : List HostId) :
    Map HostId StoredHost :=
  if hosts.len ≤ maxCollectionItems then hosts else pruneHosts hosts (oldestAbsent hosts observedIds)

def placeRows (rows : List (HostId × DashboardHost × ℕ)) (sourceRevision : ℕ) (authenticated : Bool)
    (s : TopologyProjector) : TopologyProjector :=
  let observedIds := rows.map Prod.fst
  let stale := s.markHostsStale (hostsWith s.hosts (isAbsent observedIds))
  { stale with
    hosts := pruneAbsentHosts (storeRows stale.hosts rows) observedIds
    registryRevision := some sourceRevision
    registryAuthenticated := authenticated }

def reservedSlots (s : TopologyProjector) : ℕ :=
  (hostsWith s.hosts fun _ host => host.isLocal || host.isController).length

def observeRegistry (sourceRevision observedAtMs : ℕ) (authenticated : Bool)
    (hosts : List RegistryHost) : TopologyEff Unit := do
  let s ← get
  if authenticated = false ∨ s.registryAuthenticated = false then do
    dropRegistry
    throwIf (hosts ≠ [])
      ⟨.unauthenticatedRegistry, "registry", "registry snapshot requires an authenticated session"⟩
  else do
    orThrow id (ensureLimit "hosts" hosts.length)
    if s.registryRevision.any fun stored => sourceRevision ≤ stored then
      pure ()
    else do
      let rows ← orThrow id (s.projectRows observedAtMs hosts)
      orThrow id (ensureLimit "hosts" ((rows.map Prod.fst).dedup.length + s.reservedSlots))
      preflightRevision
      modify (placeRows rows sourceRevision authenticated)
      commitRevision

def controllerSnapshot (controllerId : String) : HostSnapshot :=
  { id := controllerId
    operatingSystem := "unknown"
    architecture := "unknown"
    status := "online"
    capabilities := []
    devices := [] }

def observeController (controllerId : String) (observedAtMs : ℕ) : TopologyEff Unit := do
  let s ← get
  throwIf (s.registryAuthenticated = false ∨
      s.authenticatedRegistry.all fun stored => stored.1 ≠ controllerId)
    (.invalid "controller" "unauthenticated controller")
  let hostId ← orThrow id (parseHostId controllerId)
  if s.localHostId = some hostId then
    pure ()
  else do
    orThrow id (ensureLimit "hosts"
      (s.hosts.len + if (s.hosts.lookup hostId).isSome then 0 else 1))
    let dashboard ← orThrow id
      (projectHost (controllerSnapshot controllerId) (some ("Paired controller", [])) .trusted
        .registry [] (s.observedFreshness hostId) observedAtMs)
    preflightRevision
    modify fun s =>
      { s with
        hosts := s.hosts.insert hostId
          { dashboard, lastSeenAtMs := observedAtMs, isLocal := false, isController := true } }
    commitRevision

def markDisconnected (hostId : HostId) (_detectedAtMs : ℕ) : TopologyEff Unit := do
  let s ← get
  if (s.hosts.lookup hostId).isNone then
    pure ()
  else do
    preflightRevision
    modify fun s => s.markHostStale hostId
    commitRevision

/-! ### Leases -/

def hostIsConnected (s : TopologyProjector) (hostId : HostId) : Bool :=
  (s.hosts.lookup hostId).any fun host =>
    !host.dashboard.freshness.isStale && host.dashboard.presence ≠ .offline

def hostIsLive (s : TopologyProjector) (hostId : HostId) : Bool :=
  (s.hosts.lookup hostId).any fun host =>
    host.dashboard.freshness = .live && host.dashboard.presence = .online

def hostOwnsDevice (s : TopologyProjector) (hostId : HostId) (deviceId : DeviceId) : Bool :=
  (s.hosts.lookup hostId).any fun host => host.dashboard.devices.any fun device =>
    device.id = deviceId && device.hostId = hostId && device.presence = .online
      && device.freshness = .live

def hostIsAuthorized (s : TopologyProjector) (hostId : HostId) : Bool :=
  (s.hosts.lookup hostId).any fun host =>
    if host.isLocal then
      s.localHostId = some hostId && host.dashboard.trust = .local
    else
      s.registryAuthenticated && host.dashboard.trust = .trusted

def leaseAuthorizable (s : TopologyProjector) (key : LeaseKey) : Bool :=
  (s.leases.lookup key).any fun lease =>
    lease.state = .active && s.hostIsLive lease.ownerHostId
      && s.hostOwnsDevice lease.ownerHostId lease.deviceId && s.hostIsAuthorized lease.ownerHostId

/-- The lease that makes room for another one, if room is needed and there is an uncertain one. -/
def staleToRemove (s : TopologyProjector) (key : LeaseKey) : Option LeaseKey :=
  if (s.leases.lookup key).isNone ∧ s.leases.len ≥ maxCollectionItems then
    ((s.leases.inOrder LeaseKey.text).find? fun entry => entry.2.state = .uncertain).map Prod.fst
  else
    none

def placeLease (key : LeaseKey) (lease : StoredLease) (s : TopologyProjector) : TopologyProjector :=
  let others :=
    match s.staleToRemove key with
    | none => s.leases
    | some stale => s.leases.erase stale
  { s with leases := others.insert key lease }

def parseLeaseKey (leaseId : String) : Except TopologyError LeaseKey :=
  match hvalid : validateIdentifier "lease_id" leaseId with
  | .error error => .error error
  | .ok _ => .ok ⟨leaseId, hvalid⟩

def trackActiveLease (leaseId ownerHostId deviceId : String) : TopologyEff Unit := do
  let key ← orThrow id (parseLeaseKey leaseId)
  let ownerHostId ← orThrow id (parseHostId ownerHostId)
  let deviceId ← orThrow id (parseDeviceId deviceId)
  let s ← get
  let state := if s.hostIsConnected ownerHostId then LeaseState.active else .uncertain
  if (s.leases.lookup key).isNone ∧ (s.staleToRemove key).isNone then
    orThrow id (ensureLimit "leases" (s.leases.len + 1))
  preflightRevision
  modify (placeLease key { ownerHostId, deviceId, state })
  commitRevision

/-! ### The snapshot -/

def snapshot (s : TopologyProjector) (generatedAtMs : ℕ) : DashboardSnapshot :=
  { revision := s.revision
    generatedAtMs
    scope := if s.registryAuthenticated then .mesh else .local
    hosts := (s.hosts.values.mergeSort fun left right =>
      (left.isLocal && !right.isLocal)
        || (left.isLocal = right.isLocal && left.dashboard.id.text ≤ right.dashboard.id.text)).map
      StoredHost.dashboard
    activities := []
    leases := (s.leases.inOrder LeaseKey.text).map fun entry =>
      { id := entry.1.leaseId
        ownerHostId := entry.2.ownerHostId
        deviceId := entry.2.deviceId
        state := entry.2.state }
    pendingApprovals := []
    warnings := [] }

end TopologyProjector

/-! ### Runs -/

inductive TopologyCall
  | connectRegistry (sessionId : String) (epoch : ℕ) (authenticated : Bool)
  | disconnectRegistry (detectedAtMs : ℕ)
  | observeLocal (sourceRevision observedAtMs : ℕ) (snapshot : HostSnapshot)
  | observeRegistry (sourceRevision observedAtMs : ℕ) (authenticated : Bool)
      (hosts : List RegistryHost)
  | observeController (controllerId : String) (observedAtMs : ℕ)
  | markDisconnected (hostId : HostId) (detectedAtMs : ℕ)
  | trackActiveLease (leaseId ownerHostId deviceId : String)

namespace TopologyCall

def program : TopologyCall → TopologyEff Unit
  | connectRegistry sessionId epoch authenticated =>
    TopologyProjector.connectRegistry sessionId epoch authenticated
  | disconnectRegistry detectedAtMs => TopologyProjector.disconnectRegistry detectedAtMs
  | observeLocal sourceRevision observedAtMs snapshot =>
    TopologyProjector.observeLocal sourceRevision observedAtMs snapshot
  | observeRegistry sourceRevision observedAtMs authenticated hosts =>
    TopologyProjector.observeRegistry sourceRevision observedAtMs authenticated hosts
  | observeController controllerId observedAtMs =>
    TopologyProjector.observeController controllerId observedAtMs
  | markDisconnected hostId detectedAtMs =>
    TopologyProjector.markDisconnected hostId detectedAtMs
  | trackActiveLease leaseId ownerHostId deviceId =>
    TopologyProjector.trackActiveLease leaseId ownerHostId deviceId

/-- The projector after a call, whether it succeeds or not. -/
def next (call : TopologyCall) (s : TopologyProjector) : TopologyProjector :=
  (call.program.exec s).2

end TopologyCall

namespace TopologyProjector

/-- The projector after a run of calls. -/
def runCalls (calls : List TopologyCall) (s : TopologyProjector) : TopologyProjector :=
  calls.foldl (fun s call => call.next s) s

end TopologyProjector

end Dashboard
