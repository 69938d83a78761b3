/-
**What the calls of the projector do.**

A call either leaves the hosts and the leases as they are, or makes one of a few moves: hosts become
stale, a host or an inventory takes its place, or a lease is stored. All that is said about runs is said
about these moves.

Main definitions:

* `Dashboard.TopologyProjector.WellFormed` — every host is valid and kept under its identifier, and
  there is at most one local host.

Main results:

* `next_moves` — **a call makes one of its moves**.
-/

import DeviceLane.Dashboard.TopologyHosts

namespace Dashboard

open Effect

namespace TopologyProjector

variable {s : TopologyProjector} {sourceRevision observedAtMs : ℕ}

/-! ### Calls that are not refused -/

def HasNextRevision (s : TopologyProjector) : Prop := s.revision + 1 ≤ u64Max

structure AcceptsLocal (s : TopologyProjector) (sourceRevision observedAtMs : ℕ)
    (snapshot : HostSnapshot) (hostId : HostId) (dashboard : DashboardHost) : Prop where
  newer : ∀ stored ∈ s.localRevision, stored < sourceRevision
  id : parseHostId snapshot.id = .ok hostId
  projected : projectHost snapshot none .local .local [] (s.observedFreshness hostId) observedAtMs
    = .ok dashboard
  revision : s.HasNextRevision

structure AcceptsInventory (s : TopologyProjector) (sourceRevision observedAtMs : ℕ)
    (authenticated : Bool) (hosts : List RegistryHost) (rows : List (HostId × DashboardHost × ℕ)) :
    Prop where
  authenticated : authenticated = true
  registry : s.registryAuthenticated = true
  newer : ∀ stored ∈ s.registryRevision, stored < sourceRevision
  length_le : hosts.length ≤ maxCollectionItems
  projected : s.projectRows observedAtMs hosts = .ok rows
  slots_le : (rows.map Prod.fst).dedup.length + s.reservedSlots ≤ maxCollectionItems
  revision : s.HasNextRevision

structure AcceptsController (s : TopologyProjector) (controllerId : String) (observedAtMs : ℕ)
    (hostId : HostId) (dashboard : DashboardHost) : Prop where
  registry : s.registryAuthenticated = true
  connected : ∃ epoch, s.authenticatedRegistry = some (controllerId, epoch)
  id : parseHostId controllerId = .ok hostId
  remote : s.localHostId ≠ some hostId
  len_le : s.hosts.len + (if (s.hosts.lookup hostId).isSome then 0 else 1) ≤ maxCollectionItems
  projected : projectHost (controllerSnapshot controllerId) (some ("Paired controller", [])) .trusted
    .registry [] (s.observedFreshness hostId) observedAtMs = .ok dashboard
  revision : s.HasNextRevision

structure AcceptsLease (s : TopologyProjector) (leaseId ownerHostId deviceId : String)
    (key : LeaseKey) (owner : HostId) (device : DeviceId) : Prop where
  parsedKey : parseLeaseKey leaseId = .ok key
  parsedOwner : parseHostId ownerHostId = .ok owner
  parsedDevice : parseDeviceId deviceId = .ok device
  room : s.leases.lookup key = none → s.staleToRemove key = none →
    s.leases.len + 1 ≤ maxCollectionItems
  revision : s.HasNextRevision

def trackedLease (s : TopologyProjector) (owner : HostId) (device : DeviceId) : StoredLease :=
  { ownerHostId := owner
    deviceId := device
    state := if s.hostIsConnected owner then .active else .uncertain }

def retireControllers (s : TopologyProjector) : TopologyProjector :=
  { s.markAllRemoteStale with
    hosts := s.markAllRemoteStale.hosts.retain fun _ host => !host.isController }

def placeController (hostId : HostId) (dashboard : DashboardHost) (observedAtMs : ℕ)
    (s : TopologyProjector) : TopologyProjector :=
  { s with
    hosts := s.hosts.insert hostId
      { dashboard, lastSeenAtMs := observedAtMs, isLocal := false, isController := true } }

/-- **The moves of a call**: what becomes of the hosts and the leases. -/
inductive Move (s : TopologyProjector) : TopologyCall → TopologyProjector → Prop
  | unchanged (call : TopologyCall) : Move s call s
  | droppedRegistry (call : TopologyCall) :
      Move s call (markAllRemoteStale { s with registryAuthenticated := false })
  | retiredControllers (sessionId : String) (epoch : ℕ) :
      Move s (.connectRegistry sessionId epoch true) s.retireControllers
  | placedLocal {sourceRevision observedAtMs : ℕ} {snapshot : HostSnapshot} {hostId : HostId}
      {dashboard : DashboardHost}
      (h : s.AcceptsLocal sourceRevision observedAtMs snapshot hostId dashboard) :
      Move s (.observeLocal sourceRevision observedAtMs snapshot)
        (s.placeLocal hostId dashboard sourceRevision observedAtMs)
  | placedRows {sourceRevision observedAtMs : ℕ} {authenticated : Bool} {hosts : List RegistryHost}
      {rows : List (HostId × DashboardHost × ℕ)}
      (h : s.AcceptsInventory sourceRevision observedAtMs authenticated hosts rows) :
      Move s (.observeRegistry sourceRevision observedAtMs authenticated hosts)
        (s.placeRows rows sourceRevision authenticated)
  | placedController {controllerId : String} {observedAtMs : ℕ} {hostId : HostId}
      {dashboard : DashboardHost}
      (h : s.AcceptsController controllerId observedAtMs hostId dashboard) :
      Move s (.observeController controllerId observedAtMs)
        (s.placeController hostId dashboard observedAtMs)
  | disconnected (hostId : HostId) (detectedAtMs : ℕ) :
      Move s (.markDisconnected hostId detectedAtMs) (s.markHostsStale [hostId])
  | placedLease {leaseId ownerHostId deviceId : String} {key : LeaseKey} {owner : HostId}
      {device : DeviceId} (h : s.AcceptsLease leaseId ownerHostId deviceId key owner device) :
      Move s (.trackActiveLease leaseId ownerHostId deviceId)
        (s.placeLease key (s.trackedLease owner device))

structure SameView (s s' : TopologyProjector) : Prop where
  hosts : s'.hosts = s.hosts
  leases : s'.leases = s.leases
  localHostId : s'.localHostId = s.localHostId

def Moves (s : TopologyProjector) (call : TopologyCall) (s' : TopologyProjector) : Prop :=
  ∃ t, Move s call t ∧ SameView t s'

theorem moves_self (s : TopologyProjector) (call : TopologyCall) : Moves s call s :=
  ⟨s, .unchanged call, rfl, rfl, rfl⟩

section Programs

variable {s : TopologyProjector} {call : TopologyCall}

theorem exec_preflightRevision (s : TopologyProjector) :
    preflightRevision.exec s =
      (failIf (checkedAdd s.revision 1).isNone
        ⟨.revisionExhausted, "revision", Nat.repr s.revision⟩, s) := by
  rw [preflightRevision, exec_bind_ok (exec_get s), exec_throwIf]

theorem moves_preflight {rest : TopologyEff Unit}
    (h : s.HasNextRevision → Moves s call (rest.exec s).2) :
    Moves s call ((preflightRevision >>= fun _ => rest).exec s).2 := by
  have hexec := exec_preflightRevision s
  rw [failIf] at hexec
  split at hexec
  · rw [exec_bind_error hexec]
    exact moves_self s call
  · rename_i hroom
    rw [exec_bind_ok hexec]
    refine h ?_
    rw [checkedAdd] at hroom
    by_contra hmax
    exact hroom (by rw [if_neg (show ¬s.revision + 1 ≤ u64Max from hmax)]; rfl)

theorem moves_orThrow {α : Type} {r : Except TopologyError α} {rest : α → TopologyEff Unit}
    (h : ∀ a, r = .ok a → Moves s call ((rest a).exec s).2) :
    Moves s call ((orThrow id r >>= rest).exec s).2 := by
  rw [exec_orThrow_bind]
  cases r with
  | error => exact moves_self s call
  | ok a => exact h a rfl

theorem moves_dropRegistry : Moves s call (dropRegistry.exec s).2 := by
  refine moves_preflight fun _ => ?_
  exact ⟨_, .droppedRegistry call, rfl, rfl, rfl⟩

theorem moves_connectRegistry (sessionId : String) (epoch : ℕ) (authenticated : Bool) :
    Moves s (.connectRegistry sessionId epoch authenticated)
      ((connectRegistry sessionId epoch authenticated).exec s).2 := by
  rw [connectRegistry]
  cases authenticated with
  | false => exact moves_dropRegistry
  | true =>
    rw [if_neg (by decide)]
    refine moves_orThrow fun _ _ => ?_
    rw [exec_bind_ok (exec_get s)]
    refine moves_orThrow fun newEpoch _ => moves_preflight fun _ => ?_
    cases newEpoch with
    | false => exact ⟨s, .unchanged _, rfl, rfl, rfl⟩
    | true =>
      have hview : ∃ t, Move s (.connectRegistry sessionId epoch true) t ∧
          SameView t (beginEpoch sessionId epoch s) := by
        rw [beginEpoch]
        split
        · exact ⟨_, .retiredControllers sessionId epoch, rfl, rfl, rfl⟩
        · exact ⟨_, .unchanged _, rfl, rfl, rfl⟩
      obtain ⟨t, hmove, hsame⟩ := hview
      exact ⟨t, hmove, hsame.hosts, hsame.leases, hsame.localHostId⟩

theorem any_of_newer {stored : Option ℕ} {sourceRevision : ℕ}
    (h : ¬(stored.any fun stored => sourceRevision ≤ stored) = true) :
    ∀ value ∈ stored, value < sourceRevision := by
  intro value hvalue
  rw [Option.mem_def.1 hvalue, Option.any_some, decide_eq_true_eq] at h
  omega

theorem moves_observeLocal (sourceRevision observedAtMs : ℕ) (snapshot : HostSnapshot) :
    Moves s (.observeLocal sourceRevision observedAtMs snapshot)
      ((observeLocal sourceRevision observedAtMs snapshot).exec s).2 := by
  rw [observeLocal, exec_bind_ok (exec_get s)]
  split
  · exact moves_self s _
  · rename_i hnewer
    refine moves_orThrow fun hostId hid => moves_orThrow fun dashboard hprojected => ?_
    refine moves_preflight fun hrevision => ?_
    exact ⟨_, .placedLocal ⟨any_of_newer hnewer, hid, hprojected, hrevision⟩, rfl, rfl, rfl⟩

theorem ensureLimit_eq_ok {field : String} {length : ℕ} {u : Unit}
    (h : ensureLimit field length = .ok u) : length ≤ maxCollectionItems := by
  rw [ensureLimit, failIf] at h
  split at h
  · cases h
  · omega

theorem moves_observeRegistry (sourceRevision observedAtMs : ℕ) (authenticated : Bool)
    (hosts : List RegistryHost) :
    Moves s (.observeRegistry sourceRevision observedAtMs authenticated hosts)
      ((observeRegistry sourceRevision observedAtMs authenticated hosts).exec s).2 := by
  rw [observeRegistry, exec_bind_ok (exec_get s)]
  split
  · -- The registry is dropped before the rows are refused.
    have hdropped := @moves_dropRegistry s
      (.observeRegistry sourceRevision observedAtMs authenticated hosts)
    rcases hexec : dropRegistry.exec s with ⟨outcome, s'⟩
    rw [hexec] at hdropped
    cases outcome with
    | error =>
      rw [exec_bind_error hexec]
      exact hdropped
    | ok =>
      rw [exec_bind_ok hexec, exec_throwIf]
      exact hdropped
  · rename_i htrusted
    rw [not_or, Bool.not_eq_false, Bool.not_eq_false] at htrusted
    refine moves_orThrow fun _ hlength => ?_
    split
    · exact moves_self s _
    · rename_i hnewer
      refine moves_orThrow fun rows hrows => moves_orThrow fun _ hslots => ?_
      refine moves_preflight fun hrevision => ?_
      exact ⟨_, .placedRows ⟨htrusted.1, htrusted.2, any_of_newer hnewer, ensureLimit_eq_ok hlength,
        hrows, ensureLimit_eq_ok hslots, hrevision⟩, rfl, rfl, rfl⟩

theorem moves_observeController (controllerId : String) (observedAtMs : ℕ) :
    Moves s (.observeController controllerId observedAtMs)
      ((observeController controllerId observedAtMs).exec s).2 := by
  rw [observeController, exec_bind_ok (exec_get s), exec_throwIf_bind]
  split
  · exact moves_self s _
  · rename_i htrusted
    refine moves_orThrow fun hostId hid => ?_
    split
    · exact moves_self s _
    · rename_i hremote
      refine moves_orThrow fun _ hlen => moves_orThrow fun dashboard hprojected => ?_
      refine moves_preflight fun hrevision => ?_
      rw [not_or, Bool.not_eq_false, Bool.not_eq_true] at htrusted
      have hconnected : ∃ epoch, s.authenticatedRegistry = some (controllerId, epoch) := by
        cases hstored : s.authenticatedRegistry with
        | none =>
          rw [hstored] at htrusted
          cases htrusted.2
        | some stored =>
          rw [hstored, Option.all_some, decide_eq_false_iff_not, not_not] at htrusted
          exact ⟨stored.2, by rw [← htrusted.2]⟩
      exact ⟨_, .placedController ⟨htrusted.1, hconnected, hid, hremote, ensureLimit_eq_ok hlen,
        hprojected, hrevision⟩, rfl, rfl, rfl⟩

theorem moves_markDisconnected (hostId : HostId) (detectedAtMs : ℕ) :
    Moves s (.markDisconnected hostId detectedAtMs)
      ((markDisconnected hostId detectedAtMs).exec s).2 := by
  rw [markDisconnected, exec_bind_ok (exec_get s)]
  split
  · exact moves_self s _
  · refine moves_preflight fun _ => ?_
    exact ⟨_, .disconnected hostId detectedAtMs, rfl, rfl, rfl⟩

theorem moves_trackActiveLease (leaseId ownerHostId deviceId : String) :
    Moves s (.trackActiveLease leaseId ownerHostId deviceId)
      ((trackActiveLease leaseId ownerHostId deviceId).exec s).2 := by
  refine moves_orThrow fun key hkey => moves_orThrow fun owner howner => ?_
  refine moves_orThrow fun device hdevice => ?_
  rw [exec_bind_ok (exec_get s)]
  dsimp only
  split
  · rename_i hfull
    refine moves_orThrow fun _ hlen => moves_preflight fun hrevision => ?_
    exact ⟨_, .placedLease ⟨hkey, howner, hdevice, fun _ _ => ensureLimit_eq_ok hlen, hrevision⟩, rfl,
      rfl, rfl⟩
  · rename_i hroom
    refine moves_preflight fun hrevision => ?_
    refine ⟨_, .placedLease ⟨hkey, howner, hdevice, fun hnew hnone => ?_, hrevision⟩, rfl, rfl, rfl⟩
    exact absurd ⟨by rw [hnew]; rfl, by rw [hnone]; rfl⟩ hroom

/-- **A call makes one of its moves**, whether it succeeds or not. -/
theorem next_moves (s : TopologyProjector) (call : TopologyCall) : Moves s call (call.next s) := by
  cases call with
  | connectRegistry => exact moves_connectRegistry _ _ _
  | disconnectRegistry => exact moves_dropRegistry
  | observeLocal => exact moves_observeLocal _ _ _
  | observeRegistry =>
    exact moves_observeRegistry _ _ _ _
  | observeController => exact moves_observeController _ _
  | markDisconnected => exact moves_markDisconnected _ _
  | trackActiveLease => exact moves_trackActiveLease _ _ _

end Programs

/-! ### Observations that are accepted -/

theorem exec_preflight_bind (h : s.HasNextRevision) (rest : TopologyEff Unit) :
    (preflightRevision >>= fun _ => rest).exec s = rest.exec s := by
  have hexec : preflightRevision.exec s = (.ok (), s) := by
    rw [exec_preflightRevision, checkedAdd, if_pos (show s.revision + 1 ≤ u64Max from h)]
    rfl
  exact exec_bind_ok hexec

theorem any_newer {stored : Option ℕ} (h : ∀ value ∈ stored, value < sourceRevision) :
    ¬(stored.any fun stored => sourceRevision ≤ stored) = true := by
  cases stored with
  | none => exact Bool.false_ne_true
  | some value =>
    have hlt := h value rfl
    rw [Option.any_some, decide_eq_true_eq]
    omega

/-- **An observation of the local host that is accepted** makes its move. -/
theorem next_observeLocal {snapshot : HostSnapshot} {hostId : HostId} {dashboard : DashboardHost}
    (h : s.AcceptsLocal sourceRevision observedAtMs snapshot hostId dashboard) :
    TopologyCall.next (.observeLocal sourceRevision observedAtMs snapshot) s =
      { s.placeLocal hostId dashboard sourceRevision observedAtMs with
        revision := s.revision + 1 } := by
  rw [TopologyCall.next, TopologyCall.program, observeLocal, exec_bind_ok (exec_get s),
    if_neg (any_newer h.newer), exec_orThrow_bind, h.id]
  dsimp only
  rw [exec_orThrow_bind, h.projected]
  dsimp only
  rw [exec_preflight_bind h.revision]
  rfl

/-- **An inventory that is accepted** makes its move. -/
theorem next_observeRegistry {authenticated : Bool} {hosts : List RegistryHost}
    {rows : List (HostId × DashboardHost × ℕ)}
    (h : s.AcceptsInventory sourceRevision observedAtMs authenticated hosts rows) :
    TopologyCall.next (.observeRegistry sourceRevision observedAtMs authenticated hosts) s =
      { s.placeRows rows sourceRevision authenticated with
        revision := (s.placeRows rows sourceRevision authenticated).revision + 1 } := by
  have htrusted : ¬(authenticated = false ∨ s.registryAuthenticated = false) := by
    rw [h.authenticated, h.registry]
    decide
  have hlength : ensureLimit "hosts" hosts.length = .ok () := if_neg (Nat.not_lt_of_le h.length_le)
  have hslots : ensureLimit "hosts" ((rows.map Prod.fst).dedup.length + s.reservedSlots) = .ok () :=
    if_neg (Nat.not_lt_of_le h.slots_le)
  rw [TopologyCall.next, TopologyCall.program, observeRegistry, exec_bind_ok (exec_get s),
    if_neg htrusted, exec_orThrow_bind, hlength]
  dsimp only
  rw [if_neg (any_newer h.newer), exec_orThrow_bind, h.projected]
  dsimp only
  rw [exec_orThrow_bind, hslots]
  dsimp only
  rw [exec_preflight_bind h.revision]
  rfl

/-- **A connection to a controller that is accepted** makes its move. -/
theorem next_observeController {controllerId : String} {hostId : HostId} {dashboard : DashboardHost}
    (h : s.AcceptsController controllerId observedAtMs hostId dashboard) :
    TopologyCall.next (.observeController controllerId observedAtMs) s =
      { s.placeController hostId dashboard observedAtMs with revision := s.revision + 1 } := by
  obtain ⟨_, hstored⟩ := h.connected
  have htrusted : ¬(s.registryAuthenticated = false ∨
      (s.authenticatedRegistry.all fun stored => stored.1 ≠ controllerId) = true) := by
    rw [h.registry, hstored]
    simp
  have hlen : ensureLimit "hosts" (s.hosts.len + if (s.hosts.lookup hostId).isSome then 0 else 1)
      = .ok () := if_neg (Nat.not_lt_of_le h.len_le)
  rw [TopologyCall.next, TopologyCall.program, observeController, exec_bind_ok (exec_get s),
    exec_throwIf_bind, if_neg htrusted, exec_orThrow_bind, h.id]
  dsimp only
  rw [if_neg h.remote, exec_orThrow_bind, hlen]
  dsimp only
  rw [exec_orThrow_bind, h.projected]
  dsimp only
  rw [exec_preflight_bind h.revision]
  rfl

/-- **A lease that is accepted** is stored. -/
theorem next_trackActiveLease {leaseId ownerHostId deviceId : String} {key : LeaseKey} {owner : HostId}
    {device : DeviceId} (h : s.AcceptsLease leaseId ownerHostId deviceId key owner device) :
    TopologyCall.next (.trackActiveLease leaseId ownerHostId deviceId) s =
      { s.placeLease key (s.trackedLease owner device) with revision := s.revision + 1 } := by
  rw [TopologyCall.next, TopologyCall.program, trackActiveLease, exec_orThrow_bind, h.parsedKey]
  dsimp only
  rw [exec_orThrow_bind, h.parsedOwner]
  dsimp only
  rw [exec_orThrow_bind, h.parsedDevice]
  dsimp only
  rw [exec_bind_ok (exec_get s)]
  split
  · rename_i hfull
    have hlen : ensureLimit "leases" (s.leases.len + 1) = .ok () := by
      rw [Option.isNone_iff_eq_none, Option.isNone_iff_eq_none] at hfull
      exact if_neg (Nat.not_lt_of_le (h.room hfull.1 hfull.2))
    rw [exec_orThrow_bind, hlen]
    dsimp only
    rw [exec_preflight_bind h.revision]
    rfl
  · rw [exec_preflight_bind h.revision]
    rfl

/-! ### The lease that takes its place -/

theorem staleToRemove_eq_some {key stale : LeaseKey} (h : s.staleToRemove key = some stale) :
    s.leases.lookup key = none ∧ ∃ lease, s.leases.lookup stale = some lease := by
  rw [staleToRemove] at h
  split at h
  · rename_i hfull
    obtain ⟨entry, hfind, rfl⟩ := Option.map_eq_some_iff.1 h
    exact ⟨Option.isNone_iff_eq_none.1 hfull.1, entry.2,
      Map.mem_inOrder.1 (List.mem_of_find?_eq_some hfind)⟩
  · cases h

/-- **The leases when one of them has taken its place.** -/
theorem lookup_placeLease (s : TopologyProjector) (key : LeaseKey) (lease : StoredLease)
    (other : LeaseKey) :
    (s.placeLease key lease).leases.lookup other =
      if other = key then some lease
      else if s.staleToRemove key = some other then none else s.leases.lookup other := by
  change (Map.insert _ _ _).lookup other = _
  rw [Map.lookup_insert]
  by_cases hkey : other = key
  · rw [if_pos hkey, if_pos hkey]
  · rw [if_neg hkey, if_neg hkey]
    cases s.staleToRemove key with
    | none => simp
    | some =>
      dsimp only
      rw [Map.lookup_erase]
      simp only [Option.some.injEq, eq_comm]

/-! ### Well-formed projectors -/

/-- A valid host that is kept under its identifier. Of a controller no devices are known. -/
structure GoodHost (localHostId : Option HostId) (id : HostId) (host : StoredHost) : Prop where
  named : host.dashboard.id = id
  validate : host.dashboard.validate = .ok ()
  isLocal : host.isLocal = true ↔ localHostId = some id
  controller : host.isController = true → host.isLocal = false ∧ host.dashboard.devices = []

/-- All hosts are good, and the local host is among them. -/
structure WellFormed (s : TopologyProjector) : Prop where
  hosts : ∀ id host, s.hosts.lookup id = some host → GoodHost s.localHostId id host
  localHost : ∀ id, s.localHostId = some id → ∃ host, s.hosts.lookup id = some host

theorem GoodHost.stale {localHostId : Option HostId} {id : HostId} {host : StoredHost}
    (h : GoodHost localHostId id host) : GoodHost localHostId id (staleHost host) where
  named := h.named
  validate := validate_staleHost h.validate
  isLocal := h.isLocal
  controller hcontroller := by
    obtain ⟨hremote, hdevices⟩ := h.controller hcontroller
    refine ⟨hremote, ?_⟩
    change host.dashboard.devices.map _ = []
    rw [hdevices, List.map_nil]

namespace WellFormed

variable {s s' : TopologyProjector}

theorem sameHosts (h : s.WellFormed) (hhosts : s'.hosts = s.hosts)
    (hlocal : s'.localHostId = s.localHostId) : s'.WellFormed where
  hosts id host hlookup := by
    rw [hhosts] at hlookup
    rw [hlocal]
    exact h.hosts id host hlookup
  localHost id hid := by
    rw [hhosts]
    rw [hlocal] at hid
    exact h.localHost id hid

theorem markHostsStale (h : s.WellFormed) (ids : List HostId) : (s.markHostsStale ids).WellFormed where
  hosts id host hlookup := by
    rw [(len_markHostsStale ids s).2.2]
    rw [lookup_hosts_markHostsStale] at hlookup
    split at hlookup
    · obtain ⟨original, horiginal, rfl⟩ := Option.map_eq_some_iff.1 hlookup
      exact (h.hosts id original horiginal).stale
    · exact h.hosts id host hlookup
  localHost id hlocal := by
    rw [(len_markHostsStale ids s).2.2] at hlocal
    obtain ⟨host, hhost⟩ := h.localHost id hlocal
    rw [lookup_hosts_markHostsStale, hhost]
    split
    · exact ⟨_, rfl⟩
    · exact ⟨_, rfl⟩

theorem retireControllers (h : s.WellFormed) : s.retireControllers.WellFormed := by
  have hstale : s.markAllRemoteStale.WellFormed := h.markHostsStale _
  refine ⟨fun id host hlookup => ?_, fun id hlocal => ?_⟩
  · change (Map.retain _ _).lookup id = some host at hlookup
    rw [Map.lookup_retain, Option.filter_eq_some_iff] at hlookup
    exact hstale.hosts id host hlookup.1
  · obtain ⟨host, hhost⟩ := hstale.localHost id hlocal
    refine ⟨host, ?_⟩
    change (Map.retain _ _).lookup id = some host
    rw [Map.lookup_retain, Option.filter_eq_some_iff]
    refine ⟨hhost, ?_⟩
    have hgood := hstale.hosts id host hhost
    have hlocal' := hgood.isLocal.2 hlocal
    cases hcontroller : host.isController with
    | false => rfl
    | true =>
      have hremote := (hgood.controller hcontroller).1
      rw [hlocal'] at hremote
      cases hremote

theorem placeLocal (h : s.WellFormed) {sourceRevision : ℕ} {snapshot : HostSnapshot} {hostId : HostId}
    {dashboard : DashboardHost}
    (haccepts : s.AcceptsLocal sourceRevision observedAtMs snapshot hostId dashboard) :
    (s.placeLocal hostId dashboard sourceRevision observedAtMs).WellFormed := by
  have hprojects := projectHost_ok haccepts.projected
  refine ⟨fun id host hlookup => ?_, fun id hlocal => ?_⟩
  · change GoodHost (some hostId) id host
    rw [lookup_placeLocal] at hlookup
    split at hlookup
    · rename_i hid
      cases hlookup
      refine ⟨?_, hprojects.validate, ⟨fun _ => by rw [hid], fun _ => rfl⟩, fun h => (by cases h)⟩
      have hparsed := hprojects.id
      rw [haccepts.id] at hparsed
      exact (Except.ok.inj hparsed).symm.trans hid.symm
    · rename_i hid
      split at hlookup
      · cases hlookup
      · rename_i hremote
        have hgood := h.hosts id host hlookup
        refine ⟨hgood.named, hgood.validate, ⟨fun hlocal => ?_, fun hlocal => ?_⟩, hgood.controller⟩
        · exact absurd (hgood.isLocal.1 hlocal) hremote
        · exact absurd (Option.some.inj hlocal).symm hid
  · cases hlocal
    exact ⟨_, by rw [lookup_placeLocal, if_pos rfl]⟩

theorem placeRows (h : s.WellFormed) {hosts : List RegistryHost}
    {rows : List (HostId × DashboardHost × ℕ)} (hrows : s.projectRows observedAtMs hosts = .ok rows)
    (sourceRevision : ℕ) (authenticated : Bool) :
    (s.placeRows rows sourceRevision authenticated).WellFormed := by
  have hgoodRows := goodRow_of_projectRows hrows
  have hsame : (s.placeRows rows sourceRevision authenticated).localHostId = s.localHostId :=
    (len_markHostsStale _ s).2.2
  refine ⟨fun id host hlookup => ?_, fun id hlocal => ?_⟩
  · rw [hsame]
    rw [lookup_placeRows] at hlookup
    split at hlookup
    · cases hlookup
    · cases hrow : rowOf rows id with
      | some row =>
        rw [hrow] at hlookup
        cases hlookup
        have hgood := hgoodRows (id, row) (rowOf_eq_some hrow)
        refine ⟨hgood.id, hgood.validate, ⟨fun h => (by cases h), fun hlocal => ?_⟩, fun h => (by cases h)⟩
        exact absurd hlocal hgood.remote
      | none =>
        rw [hrow] at hlookup
        obtain ⟨original, horiginal, rfl⟩ := Option.map_eq_some_iff.1 hlookup
        rw [staleIfAbsent]
        split
        · exact (h.hosts id original horiginal).stale
        · exact h.hosts id original horiginal
  · rw [hsame] at hlocal
    obtain ⟨host, hhost⟩ := h.localHost id hlocal
    have hnotRow : rowOf rows id = none := by
      cases hrow : rowOf rows id with
      | none => rfl
      | some row => exact absurd hlocal (hgoodRows (id, row) (rowOf_eq_some hrow)).remote
    have hkept : id ∉ (oldestAbsent s.hosts (rows.map Prod.fst)).take (s.excess rows) := by
      intro hmem
      obtain ⟨other, hother, habsent⟩ := mem_oldestAbsent.1 (List.mem_of_mem_take hmem)
      rw [isAbsent, (h.hosts id other hother).isLocal.2 hlocal] at habsent
      cases habsent
    exact ⟨_, by rw [lookup_placeRows, if_neg hkept, hnotRow, hhost]; rfl⟩

theorem placeController (h : s.WellFormed) {controllerId : String} {hostId : HostId}
    {dashboard : DashboardHost}
    (haccepts : s.AcceptsController controllerId observedAtMs hostId dashboard) :
    (s.placeController hostId dashboard observedAtMs).WellFormed := by
  have hprojects := projectHost_ok haccepts.projected
  refine ⟨fun id host hlookup => ?_, fun id hlocal => ?_⟩
  · change (Map.insert _ _ _).lookup id = some host at hlookup
    rw [Map.lookup_insert] at hlookup
    split at hlookup
    · rename_i hid
      cases hlookup
      refine ⟨?_, hprojects.validate, ⟨fun h => (by cases h), fun hlocal => ?_⟩, fun _ => ⟨rfl, ?_⟩⟩
      · have hparsed := hprojects.id
        change parseHostId controllerId = _ at hparsed
        rw [haccepts.id] at hparsed
        exact (Except.ok.inj hparsed).symm.trans hid.symm
      · exact absurd (hid ▸ hlocal) haccepts.remote
      · exact List.length_eq_zero_iff.1 (Nat.le_zero.1 hprojects.devices_le)
    · exact h.hosts id host hlookup
  · obtain ⟨host, hhost⟩ := h.localHost id hlocal
    change ∃ host, (Map.insert _ _ _).lookup id = some host
    rw [Map.lookup_insert]
    split
    · exact ⟨_, rfl⟩
    · exact ⟨host, hhost⟩

theorem move (h : s.WellFormed) {call : TopologyCall} (hmove : Move s call s') : s'.WellFormed := by
  cases hmove with
  | unchanged => exact h
  | droppedRegistry =>
    have hdropped : WellFormed { s with registryAuthenticated := false } := h.sameHosts rfl rfl
    exact hdropped.markHostsStale _
  | retiredControllers => exact h.retireControllers
  | placedLocal haccepts => exact h.placeLocal haccepts
  | placedRows haccepts => exact h.placeRows haccepts.projected _ _
  | placedController haccepts => exact h.placeController haccepts
  | disconnected => exact h.markHostsStale _
  | placedLease => exact h.sameHosts rfl rfl

theorem next (h : s.WellFormed) (call : TopologyCall) : (call.next s).WellFormed := by
  obtain ⟨_, hmove, hview⟩ := next_moves s call
  exact (h.move hmove).sameHosts hview.hosts hview.localHostId

end WellFormed

theorem wellFormed_new : new.WellFormed where
  hosts id host hlookup := by cases hlookup
  localHost id hlocal := by cases hlocal

/-- **Runs keep the projector well formed.** -/
theorem WellFormed.runCalls (h : s.WellFormed) (calls : List TopologyCall) :
    (runCalls calls s).WellFormed :=
  Preserves.foldl (P := WellFormed) (fun _ call hs => hs.next call) calls s h

end TopologyProjector

end Dashboard
