/-
**Leases of hosts that are gone.**

A lease is active while its host is connected. When a host becomes stale its leases become uncertain,
and an uncertain lease stays uncertain until it is stored again. Two observations miss this: one that
says itself that a host is offline, and one of a new local host, which takes the place of the one before.

Main definitions:

* `Dashboard.TopologyProjector.LeasesLive` — the active leases are of connected hosts.

Main results:

* `leaseSafe_iff_spares` — **the leases of a run are safe exactly if every call spares them**.
-/

import DeviceLane.Dashboard.TopologyMoves
import DeviceLane.Library.Runs

namespace Dashboard

open Effect Runs

namespace TopologyProjector

variable {s : TopologyProjector} {key : LeaseKey} {lease : StoredLease}
  {observedAtMs sourceRevision : ℕ} {call : TopologyCall} {presence : Presence}

/-! ### Active leases -/

def NoActive (s : TopologyProjector) (id : HostId) : Prop :=
  ∀ key lease, s.leases.lookup key = some lease → lease.ownerHostId = id → lease.state ≠ .active

def LeasesLive (s : TopologyProjector) : Prop :=
  ∀ key lease, s.leases.lookup key = some lease → lease.state = .active →
    s.hostIsConnected lease.ownerHostId = true

/-- The calls that neither miss an active lease of a host that is offline nor one of a local host that
is replaced. -/
def Spares (s : TopologyProjector) : TopologyCall → Prop
  | .observeLocal sourceRevision observedAtMs snapshot => ∀ hostId dashboard,
      s.AcceptsLocal sourceRevision observedAtMs snapshot hostId dashboard →
        (∀ previous, s.localHostId = some previous → previous ≠ hostId → s.NoActive previous) ∧
          (parsePresence snapshot.status = .offline → s.NoActive hostId)
  | .observeRegistry sourceRevision observedAtMs authenticated hosts => ∀ rows,
      s.AcceptsInventory sourceRevision observedAtMs authenticated hosts rows →
        ∀ id row, rowOf rows id = some row → row.1.presence = .offline → s.NoActive id
  | _ => True

/-! ### What a call does to an active lease -/

theorem hostIsConnected_iff {id : HostId} :
    s.hostIsConnected id = true ↔ ∃ host, s.hosts.lookup id = some host ∧
      host.dashboard.freshness.isStale = false ∧ host.dashboard.presence ≠ .offline := by
  rw [hostIsConnected]
  cases s.hosts.lookup id with
  | none | some => simp

theorem active_of_markHostsStale {ids : List HostId}
    (hlookup : (s.markHostsStale ids).leases.lookup key = some lease) (hactive : lease.state = .active) :
    s.leases.lookup key = some lease ∧
      ¬(lease.ownerHostId ∈ ids ∧ (s.hosts.lookup lease.ownerHostId).isSome) := by
  rw [lookup_leases_markHostsStale] at hlookup
  obtain ⟨original, horiginal, rfl⟩ := Option.map_eq_some_iff.1 hlookup
  rw [fade] at hactive ⊢
  split at hactive
  · cases hactive
  · rename_i hother
    rw [if_neg hother]
    exact ⟨horiginal, hother⟩

theorem LeasesLive.markHostsStale (h : s.LeasesLive) (ids : List HostId) :
    (s.markHostsStale ids).LeasesLive := by
  intro key lease hlookup hactive
  obtain ⟨hbefore, hother⟩ := active_of_markHostsStale hlookup hactive
  obtain ⟨host, hhost, hconnected⟩ := hostIsConnected_iff.1 (h key lease hbefore hactive)
  have hkept : lease.ownerHostId ∉ ids := fun hmem => hother ⟨hmem, by rw [hhost]; rfl⟩
  refine hostIsConnected_iff.2 ⟨host, ?_, hconnected⟩
  rw [lookup_hosts_markHostsStale, if_neg hkept, hhost]

theorem LeasesLive.retireControllers (h : s.LeasesLive) (hformed : s.WellFormed) :
    s.retireControllers.LeasesLive := by
  intro key lease hlookup hactive
  obtain ⟨hbefore, hother⟩ := active_of_markHostsStale hlookup hactive
  obtain ⟨host, hhost, hconnected⟩ := hostIsConnected_iff.1 (h key lease hbefore hactive)
  have hkept : lease.ownerHostId ∉ hostsWith s.hosts fun _ host => !host.isLocal :=
    fun hmem => hother ⟨hmem, by rw [hhost]; rfl⟩
  have hlocal : host.isLocal = true := by
    by_contra hremote
    rw [Bool.not_eq_true] at hremote
    exact hkept (mem_hostsWith.2 ⟨host, hhost, by rw [hremote]; rfl⟩)
  have hagent : host.isController = false := by
    by_contra hcontroller
    rw [Bool.not_eq_false] at hcontroller
    rw [((hformed.hosts _ host hhost).controller hcontroller).1] at hlocal
    cases hlocal
  refine hostIsConnected_iff.2 ⟨host, ?_, hconnected⟩
  change (Map.retain _ _).lookup _ = _
  rw [Map.lookup_retain, Option.filter_eq_some_iff]
  refine ⟨?_, by rw [hagent]; rfl⟩
  exact (lookup_hosts_markHostsStale _ s _).trans (by rw [if_neg hkept, hhost])

theorem LeasesLive.placeLocal (h : s.LeasesLive) {snapshot : HostSnapshot} {hostId : HostId}
    {dashboard : DashboardHost}
    (haccepts : s.AcceptsLocal sourceRevision observedAtMs snapshot hostId dashboard)
    (hspares : s.Spares (.observeLocal sourceRevision observedAtMs snapshot)) :
    (s.placeLocal hostId dashboard sourceRevision observedAtMs).LeasesLive := by
  intro key lease hlookup hactive
  have hprojects := projectHost_ok haccepts.projected
  obtain ⟨hreplaced, hoffline⟩ := hspares hostId dashboard haccepts
  have hbefore : s.leases.lookup key = some lease := hlookup
  rw [hostIsConnected_iff, lookup_placeLocal]
  by_cases howner : lease.ownerHostId = hostId
  · rw [if_pos howner]
    have honline : dashboard.presence ≠ .offline := by
      rw [hprojects.presence]
      exact fun hpresence => hoffline hpresence key lease hbefore howner hactive
    exact ⟨_, rfl, Projects.fresh hprojects honline, honline⟩
  · have hother : ¬s.localHostId = some lease.ownerHostId :=
      fun hprevious => hreplaced _ hprevious howner key lease hbefore rfl hactive
    rw [if_neg howner, if_neg hother, ← hostIsConnected_iff]
    exact h key lease hbefore hactive

theorem LeasesLive.placeRows (h : s.LeasesLive) {authenticated : Bool} {hosts : List RegistryHost}
    {rows : List (HostId × DashboardHost × ℕ)}
    (haccepts : s.AcceptsInventory sourceRevision observedAtMs authenticated hosts rows)
    (hspares : s.Spares (.observeRegistry sourceRevision observedAtMs authenticated hosts)) :
    (s.placeRows rows sourceRevision authenticated).LeasesLive := by
  intro key lease hlookup hactive
  obtain ⟨hbefore, hother⟩ := active_of_markHostsStale hlookup hactive
  obtain ⟨host, hhost, hconnected⟩ := hostIsConnected_iff.1 (h key lease hbefore hactive)
  have hpresent : isAbsent (rows.map Prod.fst) lease.ownerHostId host = false := by
    by_contra habsent
    rw [Bool.not_eq_false] at habsent
    exact hother ⟨mem_hostsWith.2 ⟨host, hhost, habsent⟩, by rw [hhost]; rfl⟩
  have hkept : lease.ownerHostId ∉
      (oldestAbsent s.hosts (rows.map Prod.fst)).take (s.excess rows) := by
    intro hmem
    obtain ⟨_, hhost', habsent⟩ := mem_oldestAbsent.1 (List.mem_of_mem_take hmem)
    rw [hhost] at hhost'
    cases hhost'
    rw [hpresent] at habsent
    cases habsent
  rw [hostIsConnected_iff, lookup_placeRows, if_neg hkept]
  cases hrow : rowOf rows lease.ownerHostId with
  | some row =>
    have hgood := goodRow_of_projectRows haccepts.projected _ (rowOf_eq_some hrow)
    have honline : row.1.presence ≠ .offline :=
      fun hoffline => hspares rows haccepts _ row hrow hoffline key lease hbefore rfl hactive
    exact ⟨rowHost row, rfl, hgood.fresh honline, honline⟩
  | none =>
    refine ⟨host, ?_, hconnected⟩
    rw [hhost, Option.map_none, Option.none_or, Option.map_some, staleIfAbsent, hpresent]
    rfl

theorem LeasesLive.placeController (h : s.LeasesLive) {controllerId : String} {hostId : HostId}
    {dashboard : DashboardHost}
    (haccepts : s.AcceptsController controllerId observedAtMs hostId dashboard) :
    (s.placeController hostId dashboard observedAtMs).LeasesLive := by
  intro key lease hlookup hactive
  have hprojects := projectHost_ok haccepts.projected
  have honline : dashboard.presence ≠ .offline := by
    rw [hprojects.presence]
    change parsePresence "online" ≠ .offline
    decide
  rw [hostIsConnected_iff]
  change ∃ host, (Map.insert _ _ _).lookup _ = _ ∧ _
  rw [Map.lookup_insert]
  split
  · exact ⟨_, rfl, Projects.fresh hprojects honline, honline⟩
  · rw [← hostIsConnected_iff]
    exact h key lease hlookup hactive

theorem lookup_placeLease_ne {other : LeaseKey} (hother : other ≠ key) {found : StoredLease}
    (hlookup : (s.placeLease key lease).leases.lookup other = some found) :
    s.leases.lookup other = some found ∧ s.staleToRemove key ≠ some other := by
  rw [lookup_placeLease, if_neg hother] at hlookup
  split at hlookup
  · cases hlookup
  · rename_i hkept
    exact ⟨hlookup, hkept⟩

theorem LeasesLive.placeLease (h : s.LeasesLive) (key : LeaseKey) (owner : HostId) (device : DeviceId) :
    (s.placeLease key (s.trackedLease owner device)).LeasesLive := by
  intro other lease hlookup hactive
  change s.hostIsConnected lease.ownerHostId = true
  by_cases hkey : other = key
  · rw [lookup_placeLease, if_pos hkey] at hlookup
    cases hlookup
    change (if s.hostIsConnected owner = true then LeaseState.active else .uncertain) = .active
      at hactive
    split at hactive
    · assumption
    · cases hactive
  · exact h other lease (lookup_placeLease_ne hkey hlookup).1 hactive

theorem LeasesLive.move {s' : TopologyProjector} (h : s.LeasesLive) (hformed : s.WellFormed)
    (hspares : s.Spares call) (hmove : Move s call s') : s'.LeasesLive := by
  cases hmove with
  | unchanged => exact h
  | droppedRegistry =>
    have hdropped : LeasesLive { s with registryAuthenticated := false } := h
    exact hdropped.markHostsStale _
  | retiredControllers => exact h.retireControllers hformed
  | placedLocal haccepts => exact h.placeLocal haccepts hspares
  | placedRows haccepts => exact h.placeRows haccepts hspares
  | placedController haccepts => exact h.placeController haccepts
  | disconnected => exact h.markHostsStale _
  | placedLease => exact h.placeLease _ _ _

theorem LeasesLive.sameView {s' : TopologyProjector} (h : s.LeasesLive) (hview : SameView s s') :
    s'.LeasesLive := by
  intro key lease hlookup hactive
  rw [hview.leases] at hlookup
  rw [hostIsConnected, hview.hosts]
  exact h key lease hlookup hactive

theorem spares_of_leasesLive (h : (call.next s).LeasesLive) : s.Spares call := by
  cases call with
  | observeLocal sourceRevision observedAtMs =>
    intro hostId dashboard haccepts
    have hnext := next_observeLocal haccepts
    have hprojects := projectHost_ok haccepts.projected
    have hconnected : ∀ key lease, s.leases.lookup key = some lease → lease.state = .active →
        ∃ host, (s.placeLocal hostId dashboard sourceRevision observedAtMs).hosts.lookup
          lease.ownerHostId = some host ∧ host.dashboard.freshness.isStale = false ∧
            host.dashboard.presence ≠ .offline := by
      intro key lease hlookup hactive
      have hlive := h key lease (by rw [hnext]; exact hlookup) hactive
      rw [hostIsConnected_iff, hnext] at hlive
      exact hlive
    constructor
    · intro _ hprevious hother key lease hlookup howner hactive
      obtain ⟨host, hhost, -⟩ := hconnected key lease hlookup hactive
      rw [lookup_placeLocal, howner, if_neg hother, if_pos hprevious] at hhost
      cases hhost
    · intro hoffline key lease hlookup howner hactive
      obtain ⟨host, hhost, -, honline⟩ := hconnected key lease hlookup hactive
      rw [lookup_placeLocal, howner, if_pos rfl] at hhost
      cases hhost
      exact honline (hprojects.presence.trans hoffline)
  | observeRegistry sourceRevision observedAtMs authenticated =>
    intro rows haccepts id row hrow hoffline key lease hlookup howner hactive
    have hnext := next_observeRegistry haccepts
    have hobserved : id ∈ rows.map Prod.fst := List.mem_map.2 ⟨(id, row), rowOf_eq_some hrow, rfl⟩
    have hnever : ∀ host, ¬isAbsent (rows.map Prod.fst) id host = true := by
      intro host
      simp [isAbsent, hobserved]
    have hobservedHost : id ∉ hostsWith s.hosts (isAbsent (rows.map Prod.fst)) := by
      intro hmem
      obtain ⟨host, -, habsent⟩ := mem_hostsWith.1 hmem
      exact hnever host habsent
    have hkept : id ∉ (oldestAbsent s.hosts (rows.map Prod.fst)).take (s.excess rows) := by
      intro hmem
      obtain ⟨host, -, habsent⟩ := mem_oldestAbsent.1 (List.mem_of_mem_take hmem)
      exact hnever host habsent
    have hafter : (s.placeRows rows sourceRevision authenticated).leases.lookup key
        = some lease := by
      refine (lookup_leases_markHostsStale _ s key).trans ?_
      rw [hlookup, Option.map_some, fade, howner, if_neg fun hmem => hobservedHost hmem.1]
    have hlive := h key lease (by rw [hnext]; exact hafter) hactive
    rw [hostIsConnected_iff, hnext] at hlive
    obtain ⟨host, hhost, -, honline⟩ := hlive
    rw [lookup_placeRows, howner, if_neg hkept, hrow] at hhost
    cases hhost
    exact honline hoffline
  | _ => trivial

/-- **A call keeps the active leases live exactly if it spares them.** -/
theorem leasesLive_next_iff (hformed : s.WellFormed) (h : s.LeasesLive) (call : TopologyCall) :
    (call.next s).LeasesLive ↔ s.Spares call := by
  constructor
  · exact spares_of_leasesLive
  · intro hspares
    obtain ⟨_, hmove, hview⟩ := next_moves s call
    exact (h.move hformed hspares hmove).sameView hview

/-! ### Leases since they were stored -/

def Tracks (key : LeaseKey) : TopologyCall → Prop
  | .trackActiveLease leaseId _ _ => leaseId = key.text
  | _ => False

theorem text_of_parseLeaseKey {leaseId : String} (h : parseLeaseKey leaseId = .ok key) :
    leaseId = key.text := by
  rw [parseLeaseKey] at h
  split at h
  · cases h
  · cases h
    rfl

theorem active_of_next (htracks : ¬Tracks key call)
    (hlookup : (call.next s).leases.lookup key = some lease) (hactive : lease.state = .active) :
    s.leases.lookup key = some lease := by
  obtain ⟨_, hmove, hview⟩ := next_moves s call
  rw [hview.leases] at hlookup
  cases hmove with
  | unchanged => exact hlookup
  | droppedRegistry | retiredControllers => exact (active_of_markHostsStale hlookup hactive).1
  | placedLocal => exact hlookup
  | placedRows => exact (active_of_markHostsStale hlookup hactive).1
  | placedController => exact hlookup
  | disconnected => exact (active_of_markHostsStale hlookup hactive).1
  | @placedLease leaseId ownerHostId deviceId stored owner device haccepts =>
    have hother : key ≠ stored := by
      intro heq
      exact htracks (heq ▸ text_of_parseLeaseKey haccepts.parsedKey)
    exact (lookup_placeLease_ne hother hlookup).1

/-- **An active lease has been active since it was stored.** -/
theorem active_of_runCalls (hactive : lease.state = .active) {calls : List TopologyCall}
    (htracks : ∀ call ∈ calls, ¬Tracks key call)
    (hlookup : (runCalls calls s).leases.lookup key = some lease) :
    s.leases.lookup key = some lease := by
  induction calls generalizing s with
  | nil => exact hlookup
  | cons call calls ih =>
    have hnext := ih (List.forall_mem_cons.1 htracks).2 hlookup
    exact active_of_next (htracks call List.mem_cons_self) hnext hactive

/-! ### Whole runs -/

/-- The leases of a run are safe: in every state the active ones are of connected hosts, and a lease of
a host that is gone in some state (stale, offline or removed) is not authorizable in any later one,
until it is stored again. -/
def LeaseSafe (calls : List TopologyCall) : Prop :=
  ∀ before middle after, calls = before ++ middle ++ after →
    (runCalls before new).LeasesLive ∧
      ∀ key lease, (runCalls before new).leases.lookup key = some lease →
        (runCalls before new).hostIsConnected lease.ownerHostId = false →
        (∀ call ∈ middle, ¬Tracks key call) →
        (runCalls (before ++ middle) new).leaseAuthorizable key = false

theorem leasesLive_new : new.LeasesLive := by
  intro _ _ hlookup
  cases hlookup

/-- **The leases of a run are safe exactly if every call spares them.** -/
theorem leaseSafe_iff_spares (calls : List TopologyCall) :
    LeaseSafe calls ↔
      AllSteps (fun s call => TopologyCall.next call s) Spares calls new := by
  rw [← always_iff_allSteps (W := WellFormed) (I := LeasesLive) (fun s call h => h.next call)
    (fun s call hformed hlive => leasesLive_next_iff hformed hlive call) wellFormed_new leasesLive_new]
  constructor
  · intro h before after happend
    exact (h before [] after (by rw [List.append_nil, happend])).1
  · intro h before middle after happend
    have hlive : (runCalls before new).LeasesLive :=
      h before (middle ++ after) (by rw [happend, List.append_assoc])
    refine ⟨hlive, fun key lease hlookup hgone htracks => ?_⟩
    cases hauthorizable : (runCalls (before ++ middle) new).leaseAuthorizable key with
    | false => rfl
    | true =>
      -- The lease would be active, and would have been active when its host was gone.
      rw [leaseAuthorizable] at hauthorizable
      cases hlater : (runCalls (before ++ middle) new).leases.lookup key with
      | none =>
        rw [hlater] at hauthorizable
        cases hauthorizable
      | some later =>
        rw [hlater, Option.any_some] at hauthorizable
        simp only [Bool.and_eq_true, decide_eq_true_eq] at hauthorizable
        have hactive : later.state = .active := hauthorizable.1.1.1
        have happended : runCalls (before ++ middle) new
            = runCalls middle (runCalls before new) := List.foldl_append
        rw [happended] at hlater
        have hbefore := active_of_runCalls hactive htracks hlater
        rw [hlookup] at hbefore
        cases hbefore
        rw [hlive key lease hlookup hactive] at hgone
        cases hgone

/-! ### A host that says it is offline -/

theorem idText_agent : IdText "agent" := by decide

theorem codeText_linux : CodeText "linux" := by decide

theorem codeText_arm : CodeText "arm" := by decide

def agentId : HostId := ⟨"agent", idText_agent⟩

def agentSnapshot (status : String) : HostSnapshot :=
  { id := "agent"
    operatingSystem := "linux"
    architecture := "arm"
    status
    capabilities := []
    devices := [] }

def agentHost (presence : Presence) (freshness : Freshness) : DashboardHost :=
  { id := agentId
    displayName := "agent"
    platform := ⟨"linux", codeText_linux⟩
    architecture := ⟨"arm", codeText_arm⟩
    presence
    freshness
    trust := .local
    connectionPath := .local
    capabilities := []
    permissions := []
    devices := [] }

theorem validate_agentHost {freshness : Freshness} (h : presence = .offline → freshness.isStale = true) :
    (agentHost presence freshness).validate = .ok () := by
  have hname : trim "agent" ≠ "" ∧ "agent".utf8ByteSize ≤ maxTextBytes := by decide
  refine DashboardHost.validate_eq_ok.2 ⟨hname, h, ?_, ?_, ?_, ?_⟩
  · exact Nat.zero_le _
  · exact Nat.zero_le _
  · exact Nat.zero_le _
  · exact List.forall_mem_nil _

theorem parseHostId_agent : parseHostId "agent" = .ok agentId := by decide

theorem hasNextRevision_of_le (h : s.revision ≤ 2) : s.HasNextRevision :=
  Nat.le_trans (Nat.succ_le_succ h) (by decide)

theorem hasNextRevision_new : new.HasNextRevision := hasNextRevision_of_le (Nat.zero_le 2)

theorem projectHost_agent {status : String} (hstatus : status.utf8ByteSize ≤ maxTextBytes)
    (hpresence : parsePresence status = presence) (freshness : Freshness) (observedAtMs : ℕ) :
    projectHost (agentSnapshot status) none .local .local [] freshness observedAtMs
      = .ok (agentHost presence (freshnessForPresence presence freshness observedAtMs)) := by
  have hraw : validateRawText "status" status = .ok () := if_neg (Nat.not_lt_of_le hstatus)
  have hoffline : presence = .offline →
      (freshnessForPresence presence freshness observedAtMs).isStale = true := by
    intro hoffline
    rw [freshnessForPresence, if_pos hoffline]
    rfl
  have hplatform : parseCode "linux" "operating_system" = .ok ⟨"linux", codeText_linux⟩ := by decide
  have harchitecture : parseCode "arm" "architecture" = .ok ⟨"arm", codeText_arm⟩ := by decide
  have hos : validateCodeInput "operating_system" "linux" = .ok () := by decide
  have harch : validateCodeInput "architecture" "arm" = .ok () := by decide
  have hdevices : ensureLimit "devices" 0 = .ok () := by decide
  have hcapabilities : ensureLimit "capabilities" 0 = .ok () := by decide
  have hpermissions : ensureLimit "permissions" 0 = .ok () := by decide
  have hpure : ∀ {α : Type} (a : α), (pure a : Except TopologyError α) = .ok a := fun a => rfl
  simp only [projectHost, agentSnapshot, hraw, parseHostId_agent, hos, harch, List.length_nil, hdevices,
    hcapabilities, hpermissions, validateCodeInputs, List.find?_nil, ok_bind, validateDetails,
    List.mapM_nil, parseCapabilities, parseCodes, hplatform, harchitecture, hpresence, hpure,
    sortedCodes_nil, List.mergeSort_nil, Option.map_none, Option.getD_none]
  change (Except.mapError _ (agentHost presence _).validate >>= fun _ => _) = _
  rw [validate_agentHost hoffline]
  rfl

theorem acceptsLocal_agent {status : String}
    (hnewer : ∀ stored ∈ s.localRevision, stored < sourceRevision) (hrevision : s.HasNextRevision)
    (hstatus : status.utf8ByteSize ≤ maxTextBytes) (hpresence : parsePresence status = presence) :
    s.AcceptsLocal sourceRevision observedAtMs (agentSnapshot status) agentId
      (agentHost presence
        (freshnessForPresence presence (s.observedFreshness agentId) observedAtMs)) where
  newer := hnewer
  id := parseHostId_agent
  projected := projectHost_agent hstatus hpresence _ _
  revision := hrevision

/-! ### A lease of a host that says it is offline -/

theorem validate_leaseText : validateIdentifier "lease_id" "lease" = .ok () := by decide

def sampleLeaseKey : LeaseKey := ⟨"lease", validate_leaseText⟩

theorem parseLeaseKey_sample : parseLeaseKey "lease" = .ok sampleLeaseKey := by decide

theorem idText_device : IdText "device" := by decide

def sampleDeviceId : DeviceId := ⟨"device", idText_device⟩

theorem parseDeviceId_sample : parseDeviceId "device" = .ok sampleDeviceId := by decide

theorem acceptsLease_sample (hleases : s.leases = ∅) (hrevision : s.HasNextRevision) :
    s.AcceptsLease "lease" "agent" "device" sampleLeaseKey agentId sampleDeviceId where
  parsedKey := parseLeaseKey_sample
  parsedOwner := parseHostId_agent
  parsedDevice := parseDeviceId_sample
  room := by
    intro _ _
    rw [hleases]
    decide
  revision := hrevision

def offlineRun : List TopologyCall :=
  [.observeLocal 1 0 (agentSnapshot "online"), .trackActiveLease "lease" "agent" "device",
    .observeLocal 2 1 (agentSnapshot "offline")]

theorem parsePresence_online : parsePresence "online" = .online := by decide

theorem parsePresence_offline : parsePresence "offline" = .offline := by decide

/-- A lease of a host that says it is offline stays active. -/
theorem not_leaseSafe : ¬∀ calls, LeaseSafe calls := by
  intro hsafe
  have hlive : (runCalls offlineRun new).LeasesLive := (hsafe offlineRun offlineRun [] [] (by simp)).1
  rw [runCalls, offlineRun, List.foldl_cons, List.foldl_cons, List.foldl_cons, List.foldl_nil] at hlive
  -- The local host is connected.
  rw [next_observeLocal (acceptsLocal_agent (fun stored hstored => by cases hstored)
    hasNextRevision_new (by decide) parsePresence_online)] at hlive
  generalize hs : ({ new.placeLocal agentId _ 1 0 with revision := new.revision + 1 } :
    TopologyProjector) = s at hlive
  have hhost : s.hosts.lookup agentId = some
      { dashboard := agentHost .online .unknown, lastSeenAtMs := 0, isLocal := true,
        isController := false } := by
    rw [← hs]
    exact (lookup_placeLocal new agentId _ 1 0 agentId).trans (if_pos rfl)
  have hconnected : s.hostIsConnected agentId = true :=
    hostIsConnected_iff.2 ⟨_, hhost, rfl, by decide⟩
  have hleases : s.leases = ∅ := by rw [← hs]; rfl
  have hlocal : s.localRevision = some 1 := by rw [← hs]; rfl
  have hrevision : s.revision = 1 := by rw [← hs]; rfl
  -- The lease is active.
  rw [next_trackActiveLease (acceptsLease_sample hleases (hasNextRevision_of_le (by omega)))] at hlive
  generalize ht : ({ s.placeLease sampleLeaseKey (s.trackedLease agentId sampleDeviceId) with
    revision := s.revision + 1 } : TopologyProjector) = t at hlive
  have hlease : t.leases.lookup sampleLeaseKey = some (s.trackedLease agentId sampleDeviceId) := by
    rw [← ht]
    exact Map.lookup_insert_self _ _ _
  have hactive : (s.trackedLease agentId sampleDeviceId).state = .active := if_pos hconnected
  have hlocal' : t.localRevision = some 1 := by rw [← ht]; exact hlocal
  have hrevision' : t.revision = 2 := by
    rw [← ht]
    change s.revision + 1 = 2
    rw [hrevision]
  -- The host is offline, and the lease is as it was.
  have hnewer : ∀ stored ∈ t.localRevision, stored < 2 := by
    intro stored hstored
    rw [hlocal'] at hstored
    cases hstored
    decide
  have haccepts : t.AcceptsLocal 2 1 (agentSnapshot "offline") agentId (agentHost .offline (.stale 1)) :=
    acceptsLocal_agent hnewer (hasNextRevision_of_le (by omega)) (by decide) parsePresence_offline
  rw [next_observeLocal haccepts] at hlive
  have hconnected' := hlive sampleLeaseKey _ hlease hactive
  obtain ⟨host, hhost', -, honline⟩ := hostIsConnected_iff.1 hconnected'
  have hoffline := (lookup_placeLocal t agentId _ 2 1 agentId).symm.trans hhost'
  rw [if_pos rfl] at hoffline
  cases hoffline
  exact honline rfl

end TopologyProjector

end Dashboard
