/-
**Snapshots of the network.**

A snapshot is checked before it is shown: it may hold only so many hosts and leases, and every lease has
to be of a device that is listed under the host of the lease. Leases stay when their hosts are removed,
replaced or observed without their devices, and a lease of a host that is not known is stored like any
other.

Main definitions:

* `Dashboard.TopologyProjector.Listed` — few enough hosts and leases, and every lease is of a device
  that is listed.

Main results:

* `snapshotsValid_iff_keeps` — **the snapshots of a run are accepted exactly if every call keeps the
  leases listed**.
-/

import DeviceLane.Dashboard.TopologyLeases

namespace Dashboard

open Effect Runs

namespace TopologyProjector

variable {s : TopologyProjector}

/-! ### Snapshots that are accepted -/

def Lists (dashboard : DashboardHost) (device : DeviceId) : Prop :=
  ∃ listed ∈ dashboard.devices, listed.id = device

def ListsDevice (s : TopologyProjector) (owner : HostId) (device : DeviceId) : Prop :=
  ∃ host, s.hosts.lookup owner = some host ∧ Lists host.dashboard device

def DistinctLeases (s : TopologyProjector) : Prop :=
  ∀ key lease key' lease', s.leases.lookup key = some lease → s.leases.lookup key' = some lease' →
    key.leaseId = key'.leaseId → key = key'

/-- Few enough hosts and leases, and every lease is of a device that is listed. -/
structure Listed (s : TopologyProjector) : Prop where
  hosts_le : s.hosts.len ≤ maxCollectionItems
  leases_le : s.leases.len ≤ maxCollectionItems
  distinct : s.DistinctLeases
  listed : ∀ key lease, s.leases.lookup key = some lease →
    s.ListsDevice lease.ownerHostId lease.deviceId

theorem mem_snapshot_hosts {generatedAtMs : ℕ} {dashboard : DashboardHost} :
    dashboard ∈ (s.snapshot generatedAtMs).hosts ↔
      ∃ id host, s.hosts.lookup id = some host ∧ host.dashboard = dashboard := by
  change dashboard ∈ List.map _ _ ↔ _
  rw [List.mem_map]
  constructor
  · rintro ⟨host, hmem, rfl⟩
    obtain ⟨id, hlookup⟩ := Map.mem_values.1 (List.mem_mergeSort.1 hmem)
    exact ⟨id, host, hlookup, rfl⟩
  · rintro ⟨id, host, hlookup, rfl⟩
    exact ⟨host, List.mem_mergeSort.2 (Map.mem_values.2 ⟨id, hlookup⟩), rfl⟩

theorem find_snapshot_host (h : s.WellFormed) (generatedAtMs : ℕ) (id : HostId) :
    (s.snapshot generatedAtMs).hosts.find? (fun host => host.id = id)
      = (s.hosts.lookup id).map StoredHost.dashboard := by
  cases hfind : (s.snapshot generatedAtMs).hosts.find? (fun host => host.id = id) with
  | none =>
    rw [List.find?_eq_none] at hfind
    cases hlookup : s.hosts.lookup id with
    | none => rfl
    | some host =>
      have hmem : host.dashboard ∈ (s.snapshot generatedAtMs).hosts :=
        mem_snapshot_hosts.2 ⟨id, host, hlookup, rfl⟩
      exact absurd (decide_eq_true (h.hosts id host hlookup).named) (hfind _ hmem)
  | some dashboard =>
    have hid : dashboard.id = id := by
      have hfound := List.find?_some hfind
      exact of_decide_eq_true hfound
    obtain ⟨key, host, hlookup, rfl⟩ := mem_snapshot_hosts.1 (List.mem_of_find?_eq_some hfind)
    rw [(h.hosts key host hlookup).named] at hid
    rw [← hid, hlookup, Option.map_some]

theorem isListed_snapshot (h : s.WellFormed) (generatedAtMs : ℕ) {lease : DashboardLease} :
    lease.isListed (s.snapshot generatedAtMs).hosts = true ↔
      s.ListsDevice lease.ownerHostId lease.deviceId := by
  simp only [DashboardLease.isListed, find_snapshot_host h, ListsDevice, Lists]
  cases s.hosts.lookup lease.ownerHostId with
  | none | some => simp

theorem nodup_snapshot_leases (generatedAtMs : ℕ) :
    ((s.snapshot generatedAtMs).leases.map DashboardLease.id).Nodup ↔ s.DistinctLeases := by
  change (List.map _ (List.map _ _)).Nodup ↔ _
  rw [List.map_map]
  exact Map.nodup_map_inOrder LeaseKey.leaseId

/-- **A snapshot is accepted exactly if the leases are listed.** -/
theorem snapshot_validate_iff (h : s.WellFormed) (generatedAtMs : ℕ) :
    (s.snapshot generatedAtMs).validate = .ok () ↔ s.Listed := by
  have hhosts : (s.snapshot generatedAtMs).hosts.length = s.hosts.len := by
    change (List.map _ _).length = _
    rw [List.length_map, List.length_mergeSort, Map.values, List.length_map, Map.length_toList]
  have hleases : (s.snapshot generatedAtMs).leases.length = s.leases.len := by
    change (List.map _ _).length = _
    rw [List.length_map, Map.length_inOrder]
  rw [DashboardSnapshot.validate_eq_ok]
  constructor
  · intro hvalid
    refine ⟨hhosts ▸ hvalid.hosts_le, hleases ▸ hvalid.leases_le,
      (nodup_snapshot_leases generatedAtMs).1 hvalid.leaseIds, fun key lease hlookup => ?_⟩
    have hmem : (⟨key.leaseId, lease.ownerHostId, lease.deviceId, lease.state⟩ : DashboardLease) ∈
        (s.snapshot generatedAtMs).leases :=
      List.mem_map.2 ⟨(key, lease), Map.mem_inOrder.2 hlookup, rfl⟩
    exact (isListed_snapshot h generatedAtMs).1 (hvalid.leases _ hmem)
  · intro hlisted
    exact
      { hosts_le := hhosts ▸ hlisted.hosts_le
        activities_le := Nat.zero_le _
        leases_le := hleases ▸ hlisted.leases_le
        pendingApprovals_le := Nat.zero_le _
        warnings_le := Nat.zero_le _
        hosts := by
          intro _ hmem
          obtain ⟨id, host, hlookup, rfl⟩ := mem_snapshot_hosts.1 hmem
          exact (h.hosts id host hlookup).validate
        activities := List.forall_mem_nil _
        leaseIds := (nodup_snapshot_leases generatedAtMs).2 hlisted.distinct
        leases := by
          intro lease hmem
          obtain ⟨entry, hentry, rfl⟩ := List.mem_map.1 hmem
          rw [isListed_snapshot h]
          exact hlisted.listed entry.1 entry.2 (Map.mem_inOrder.1 hentry)
        pendingApprovals := List.forall_mem_nil _
        warnings := List.forall_mem_nil _ }

/-! ### Calls that keep the leases listed -/

/-- The calls that keep the leases listed. -/
def Keeps (s : TopologyProjector) : TopologyCall → Prop
  | .observeLocal sourceRevision observedAtMs snapshot => ∀ hostId dashboard,
      s.AcceptsLocal sourceRevision observedAtMs snapshot hostId dashboard →
        (s.localHostId = none → s.hosts.lookup hostId = none → s.hosts.len < maxCollectionItems) ∧
          ∀ key lease, s.leases.lookup key = some lease →
            (lease.ownerHostId = hostId → Lists dashboard lease.deviceId) ∧
              (s.localHostId = some lease.ownerHostId → lease.ownerHostId = hostId)
  | .observeRegistry sourceRevision observedAtMs authenticated hosts => ∀ rows,
      s.AcceptsInventory sourceRevision observedAtMs authenticated hosts rows →
        ∀ key lease, s.leases.lookup key = some lease →
          lease.ownerHostId ∉ (oldestAbsent s.hosts (rows.map Prod.fst)).take (s.excess rows) ∧
            ∀ row, rowOf rows lease.ownerHostId = some row → Lists row.1 lease.deviceId
  | .observeController controllerId observedAtMs => ∀ hostId dashboard,
      s.AcceptsController controllerId observedAtMs hostId dashboard →
        ∀ key lease, s.leases.lookup key = some lease → lease.ownerHostId ≠ hostId
  | .trackActiveLease leaseId ownerHostId deviceId => ∀ key owner device,
      s.AcceptsLease leaseId ownerHostId deviceId key owner device →
        s.ListsDevice owner device ∧ ∀ other lease, s.leases.lookup other = some lease →
          other.leaseId = key.leaseId → other = key ∨ s.staleToRemove key = some other
  | _ => True

section Stale

variable {s : TopologyProjector} {ids : List HostId}

theorem lists_staleHost {host : StoredHost} {device : DeviceId} :
    Lists (staleHost host).dashboard device ↔ Lists host.dashboard device := by
  change (∃ listed ∈ host.dashboard.devices.map (staleDevice host.lastSeenAtMs), _) ↔ _
  simp only [List.mem_map, exists_exists_and_eq_and]
  rfl

theorem listsDevice_markHostsStale {owner : HostId} {device : DeviceId} :
    (s.markHostsStale ids).ListsDevice owner device ↔ s.ListsDevice owner device := by
  rw [ListsDevice, ListsDevice, lookup_hosts_markHostsStale]
  split
  · cases s.hosts.lookup owner with
    | none => simp
    | some => simp [lists_staleHost]
  · rfl

theorem forall_leases_markHostsStale {p : HostId → DeviceId → Prop} :
    (∀ key lease, (s.markHostsStale ids).leases.lookup key = some lease →
        p lease.ownerHostId lease.deviceId) ↔
      ∀ key lease, s.leases.lookup key = some lease → p lease.ownerHostId lease.deviceId := by
  have hfade : ∀ lease : StoredLease, (s.fade ids lease).ownerHostId = lease.ownerHostId ∧
      (s.fade ids lease).deviceId = lease.deviceId := by
    intro lease
    rw [fade]
    split
    · exact ⟨rfl, rfl⟩
    · exact ⟨rfl, rfl⟩
  simp only [lookup_leases_markHostsStale, Option.map_eq_some_iff, forall_exists_index, and_imp,
    forall_apply_eq_imp_iff₂, (hfade _).1, (hfade _).2]

theorem distinctLeases_markHostsStale :
    (s.markHostsStale ids).DistinctLeases ↔ s.DistinctLeases := by
  rw [DistinctLeases, DistinctLeases]
  simp only [lookup_leases_markHostsStale, Option.map_eq_some_iff]
  constructor
  · intro h key lease key' lease' hkey hkey'
    exact h key _ key' _ ⟨lease, hkey, rfl⟩ ⟨lease', hkey', rfl⟩
  · rintro h key _ key' _ ⟨lease, hkey, rfl⟩ ⟨lease', hkey', rfl⟩
    exact h key lease key' lease' hkey hkey'

theorem Listed.markHostsStale (h : s.Listed) (ids : List HostId) : (s.markHostsStale ids).Listed where
  hosts_le := (len_markHostsStale ids s).1 ▸ h.hosts_le
  leases_le := (len_markHostsStale ids s).2.1 ▸ h.leases_le
  distinct := distinctLeases_markHostsStale.2 h.distinct
  listed := by
    simp only [listsDevice_markHostsStale]
    exact forall_leases_markHostsStale.2 h.listed

theorem Listed.retireControllers (h : s.Listed) (hformed : s.WellFormed) :
    s.retireControllers.Listed where
  hosts_le := Nat.le_trans (Map.len_retain_le _ _) (h.markHostsStale _).hosts_le
  leases_le := (h.markHostsStale _).leases_le
  distinct := (h.markHostsStale _).distinct
  listed key lease hlookup := by
    obtain ⟨host, hhost, device, hdevice, hid⟩ := (h.markHostsStale _).listed key lease hlookup
    refine ⟨host, ?_, device, hdevice, hid⟩
    have hagent : host.isController = false := by
      by_contra hcontroller
      rw [Bool.not_eq_false] at hcontroller
      rw [((hformed.markHostsStale _).hosts _ host hhost).controller hcontroller |>.2] at hdevice
      exact List.not_mem_nil hdevice
    change (Map.retain _ _).lookup _ = _
    rw [Map.lookup_retain, Option.filter_eq_some_iff]
    exact ⟨hhost, by rw [hagent]; rfl⟩

end Stale

section Placed

variable {s : TopologyProjector}

theorem len_placeLocal_le_iff (hformed : s.WellFormed) (hle : s.hosts.len ≤ maxCollectionItems)
    (hostId : HostId) (dashboard : DashboardHost) (sourceRevision observedAtMs : ℕ) :
    (s.placeLocal hostId dashboard sourceRevision observedAtMs).hosts.len ≤ maxCollectionItems ↔
      (s.localHostId = none → s.hosts.lookup hostId = none → s.hosts.len < maxCollectionItems) := by
  rw [placeLocal]
  cases hlocal : s.localHostId with
  | none =>
    dsimp only
    cases hlookup : s.hosts.lookup hostId with
    | none =>
      rw [Map.len_insert_of_none hlookup]
      exact ⟨fun h _ _ => h, fun h => h rfl rfl⟩
    | some =>
      rw [Map.len_insert_of_some hlookup]
      exact ⟨fun _ _ h => (by cases h), fun _ => hle⟩
  | some previous =>
    obtain ⟨host, hhost⟩ := hformed.localHost previous hlocal
    refine ⟨fun _ h => (by cases h), fun _ => ?_⟩
    dsimp only
    split
    · have hinsert := Map.len_insert_le (s.hosts.erase previous) hostId
        { dashboard, lastSeenAtMs := observedAtMs, isLocal := true, isController := false }
      have herase := Map.len_erase_of_some hhost
      omega
    · rename_i hsame
      rw [← not_not.1 hsame, Map.len_insert_of_some hhost]
      exact hle

theorem listed_placeLocal_iff (hformed : s.WellFormed) (h : s.Listed) (hostId : HostId)
    (dashboard : DashboardHost) (sourceRevision observedAtMs : ℕ) :
    (s.placeLocal hostId dashboard sourceRevision observedAtMs).Listed ↔
      (s.localHostId = none → s.hosts.lookup hostId = none → s.hosts.len < maxCollectionItems) ∧
        ∀ key lease, s.leases.lookup key = some lease →
          (lease.ownerHostId = hostId → Lists dashboard lease.deviceId) ∧
            (s.localHostId = some lease.ownerHostId → lease.ownerHostId = hostId) := by
  have hlists : ∀ key lease, s.leases.lookup key = some lease →
      ((s.placeLocal hostId dashboard sourceRevision observedAtMs).ListsDevice lease.ownerHostId
          lease.deviceId ↔
        (lease.ownerHostId = hostId → Lists dashboard lease.deviceId) ∧
          (s.localHostId = some lease.ownerHostId → lease.ownerHostId = hostId)) := by
    intro key lease hlookup
    rw [ListsDevice, lookup_placeLocal]
    by_cases howner : lease.ownerHostId = hostId
    · rw [if_pos howner]
      simp [howner]
    · rw [if_neg howner]
      by_cases hlocal : s.localHostId = some lease.ownerHostId
      · simp [hlocal, howner]
      · rw [if_neg hlocal]
        simp only [howner, hlocal, false_implies, true_and, iff_true]
        exact h.listed key lease hlookup
  rw [← len_placeLocal_le_iff hformed h.hosts_le hostId dashboard sourceRevision observedAtMs]
  constructor
  · intro hnext
    exact ⟨hnext.hosts_le, fun key lease hlookup =>
      (hlists key lease hlookup).1 (hnext.listed key lease hlookup)⟩
  · rintro ⟨hle, hkeeps⟩
    exact ⟨hle, h.leases_le, h.distinct, fun key lease hlookup =>
      (hlists key lease hlookup).2 (hkeeps key lease hlookup)⟩

theorem listed_placeRows_iff (h : s.Listed) {rows : List (HostId × DashboardHost × ℕ)}
    (hslots : (rows.map Prod.fst).dedup.length + s.reservedSlots ≤ maxCollectionItems)
    (sourceRevision : ℕ) (authenticated : Bool) :
    (s.placeRows rows sourceRevision authenticated).Listed ↔
      ∀ key lease, s.leases.lookup key = some lease →
        lease.ownerHostId ∉ (oldestAbsent s.hosts (rows.map Prod.fst)).take (s.excess rows) ∧
          ∀ row, rowOf rows lease.ownerHostId = some row → Lists row.1 lease.deviceId := by
  have hlists : ∀ key lease, s.leases.lookup key = some lease →
      ((s.placeRows rows sourceRevision authenticated).ListsDevice lease.ownerHostId
          lease.deviceId ↔
        lease.ownerHostId ∉ (oldestAbsent s.hosts (rows.map Prod.fst)).take (s.excess rows) ∧
          ∀ row, rowOf rows lease.ownerHostId = some row → Lists row.1 lease.deviceId) := by
    intro key lease hlookup
    rw [ListsDevice, lookup_placeRows]
    split
    · rename_i hpruned
      simp [hpruned]
    · rename_i hkept
      cases hrow : rowOf rows lease.ownerHostId with
      | some => simp [hkept, rowHost]
      | none =>
        obtain ⟨host, hhost, hdevice⟩ := h.listed key lease hlookup
        have hlisted : Lists (staleIfAbsent (rows.map Prod.fst) lease.ownerHostId host).dashboard
            lease.deviceId := by
          rw [staleIfAbsent]
          split
          · exact lists_staleHost.2 hdevice
          · exact hdevice
        simp [hkept, hhost, hlisted]
  have hnext : (∀ key lease, (s.placeRows rows sourceRevision authenticated).leases.lookup key =
      some lease → (s.placeRows rows sourceRevision authenticated).ListsDevice lease.ownerHostId
        lease.deviceId) ↔ _ := forall_leases_markHostsStale
  constructor
  · intro hplaced key lease hlookup
    exact (hlists key lease hlookup).1 (hnext.1 hplaced.listed key lease hlookup)
  · intro hkeeps
    have hstale := h.markHostsStale (hostsWith s.hosts (isAbsent (rows.map Prod.fst)))
    refine ⟨len_placeRows_le hslots _ _, hstale.leases_le, hstale.distinct, hnext.2 ?_⟩
    intro key lease hlookup
    exact (hlists key lease hlookup).2 (hkeeps key lease hlookup)

theorem listed_placeController_iff (h : s.Listed) {controllerId : String} {observedAtMs : ℕ}
    {hostId : HostId} {dashboard : DashboardHost}
    (haccepts : s.AcceptsController controllerId observedAtMs hostId dashboard) :
    (s.placeController hostId dashboard observedAtMs).Listed ↔
      ∀ key lease, s.leases.lookup key = some lease → lease.ownerHostId ≠ hostId := by
  have hdevices : dashboard.devices = [] :=
    List.length_eq_zero_iff.1 (Nat.le_zero.1 (projectHost_ok haccepts.projected).devices_le)
  constructor
  · intro hnext key lease hlookup howner
    obtain ⟨host, hhost, _, hdevice, -⟩ := hnext.listed key lease hlookup
    change (Map.insert _ _ _).lookup _ = some host at hhost
    rw [howner, Map.lookup_insert_self] at hhost
    cases hhost
    rw [hdevices] at hdevice
    exact List.not_mem_nil hdevice
  · intro hkeeps
    refine ⟨?_, h.leases_le, h.distinct, fun key lease hlookup => ?_⟩
    · change (Map.insert _ _ _).len ≤ _
      have hlen := haccepts.len_le
      cases hlookup : s.hosts.lookup hostId with
      | none =>
        rw [Map.len_insert_of_none hlookup]
        rw [hlookup] at hlen
        exact hlen
      | some =>
        rw [Map.len_insert_of_some hlookup]
        exact h.hosts_le
    · obtain ⟨host, hhost, hdevice⟩ := h.listed key lease hlookup
      refine ⟨host, ?_, hdevice⟩
      change (Map.insert _ _ _).lookup _ = some host
      rw [Map.lookup_insert_ne (hkeeps key lease hlookup)]
      exact hhost

theorem len_placeLease_le (hle : s.leases.len ≤ maxCollectionItems) {key : LeaseKey}
    (hroom : s.leases.lookup key = none → s.staleToRemove key = none →
      s.leases.len + 1 ≤ maxCollectionItems) (lease : StoredLease) :
    (s.placeLease key lease).leases.len ≤ maxCollectionItems := by
  change (Map.insert _ _ _).len ≤ _
  cases hstale : s.staleToRemove key with
  | none =>
    dsimp only
    cases hlookup : s.leases.lookup key with
    | none =>
      rw [Map.len_insert_of_none hlookup]
      exact hroom hlookup hstale
    | some =>
      rw [Map.len_insert_of_some hlookup]
      exact hle
  | some stale =>
    dsimp only
    obtain ⟨-, _, hstored⟩ := staleToRemove_eq_some hstale
    have hinsert := Map.len_insert_le (s.leases.erase stale) key lease
    have herase := Map.len_erase_of_some hstored
    omega

theorem listed_placeLease_iff (h : s.Listed) {key : LeaseKey} {lease : StoredLease}
    (hroom : s.leases.lookup key = none → s.staleToRemove key = none →
      s.leases.len + 1 ≤ maxCollectionItems) :
    (s.placeLease key lease).Listed ↔
      s.ListsDevice lease.ownerHostId lease.deviceId ∧
        ∀ other stored, s.leases.lookup other = some stored → other.leaseId = key.leaseId →
          other = key ∨ s.staleToRemove key = some other := by
  have hself : (s.placeLease key lease).leases.lookup key = some lease := by
    rw [lookup_placeLease, if_pos rfl]
  constructor
  · intro hnext
    refine ⟨hnext.listed key lease hself, fun other stored hlookup hid => ?_⟩
    by_contra hapart
    rw [not_or] at hapart
    have hkept : (s.placeLease key lease).leases.lookup other = some stored := by
      rw [lookup_placeLease, if_neg hapart.1, if_neg hapart.2, hlookup]
    exact hapart.1 (hnext.distinct other stored key lease hkept hself hid)
  · rintro ⟨hlists, hdistinct⟩
    -- Another lease with the identifier would have made room.
    have hapart : ∀ other stored, other ≠ key →
        (s.placeLease key lease).leases.lookup other = some stored →
          other.leaseId ≠ key.leaseId := by
      intro other stored hother hlookup hid
      obtain ⟨hstored, hkept⟩ := lookup_placeLease_ne hother hlookup
      rcases hdistinct other stored hstored hid with hsame | hremoved
      · exact hother hsame
      · exact hkept hremoved
    refine ⟨h.hosts_le, len_placeLease_le h.leases_le hroom lease, ?_, ?_⟩
    · intro first stored second stored' hfirst hsecond hid
      by_cases hfirstKey : first = key
      · by_contra hne
        have hsecondKey : second ≠ key := fun heq => hne (hfirstKey.trans heq.symm)
        exact hapart second stored' hsecondKey hsecond (by rw [← hid, hfirstKey])
      · by_cases hsecondKey : second = key
        · exact absurd (by rw [hid, hsecondKey]) (hapart first stored hfirstKey hfirst)
        · exact h.distinct first stored second stored' (lookup_placeLease_ne hfirstKey hfirst).1
            (lookup_placeLease_ne hsecondKey hsecond).1 hid
    · intro other stored hlookup
      by_cases hother : other = key
      · rw [hother, hself] at hlookup
        cases hlookup
        exact hlists
      · exact h.listed other stored (lookup_placeLease_ne hother hlookup).1

end Placed

theorem Listed.sameView {s' : TopologyProjector} (hview : SameView s s') : s'.Listed ↔ s.Listed := by
  have hlists : s'.ListsDevice = s.ListsDevice := by
    funext owner device
    rw [ListsDevice, ListsDevice, hview.hosts]
  have hdistinct : s'.DistinctLeases = s.DistinctLeases := by
    rw [DistinctLeases, DistinctLeases, hview.leases]
  constructor
  · intro h
    have hlisted := h.listed
    rw [hview.leases, hlists] at hlisted
    exact ⟨hview.hosts ▸ h.hosts_le, hview.leases ▸ h.leases_le, hdistinct ▸ h.distinct, hlisted⟩
  · intro h
    have hlisted := h.listed
    rw [← hview.leases, ← hlists] at hlisted
    exact ⟨hview.hosts ▸ h.hosts_le, hview.leases ▸ h.leases_le, hdistinct ▸ h.distinct, hlisted⟩

theorem listed_withRevision (s : TopologyProjector) (revision : ℕ) :
    ({ s with revision } : TopologyProjector).Listed ↔ s.Listed :=
  Listed.sameView ⟨rfl, rfl, rfl⟩

/-! ### Runs -/

theorem keeps_of_listed (hformed : s.WellFormed) (h : s.Listed) {call : TopologyCall}
    (hnext : (call.next s).Listed) : s.Keeps call := by
  cases call with
  | observeLocal sourceRevision observedAtMs =>
    intro hostId dashboard haccepts
    rw [next_observeLocal haccepts] at hnext
    have hplaced : (s.placeLocal hostId dashboard sourceRevision observedAtMs).Listed :=
      (listed_withRevision _ _).1 hnext
    exact (listed_placeLocal_iff hformed h _ _ _ _).1 hplaced
  | observeRegistry sourceRevision observedAtMs authenticated =>
    intro rows haccepts
    rw [next_observeRegistry haccepts] at hnext
    have hplaced : (s.placeRows rows sourceRevision authenticated).Listed :=
      (listed_withRevision _ _).1 hnext
    exact (listed_placeRows_iff h haccepts.slots_le _ _).1 hplaced
  | observeController controllerId observedAtMs =>
    intro hostId dashboard haccepts
    rw [next_observeController haccepts] at hnext
    have hplaced : (s.placeController hostId dashboard observedAtMs).Listed :=
      (listed_withRevision _ _).1 hnext
    exact (listed_placeController_iff h haccepts).1 hplaced
  | trackActiveLease =>
    intro key owner device haccepts
    rw [next_trackActiveLease haccepts] at hnext
    have hplaced : (s.placeLease key (s.trackedLease owner device)).Listed :=
      (listed_withRevision _ _).1 hnext
    exact (listed_placeLease_iff h haccepts.room).1 hplaced
  | _ => trivial

theorem Listed.move {s' : TopologyProjector} (h : s.Listed) (hformed : s.WellFormed)
    {call : TopologyCall} (hkeeps : s.Keeps call) (hmove : Move s call s') : s'.Listed := by
  cases hmove with
  | unchanged => exact h
  | droppedRegistry =>
    have hview : SameView s { s with registryAuthenticated := false } := ⟨rfl, rfl, rfl⟩
    exact ((Listed.sameView hview).2 h).markHostsStale _
  | retiredControllers => exact h.retireControllers hformed
  | placedLocal haccepts =>
    exact (listed_placeLocal_iff hformed h _ _ _ _).2 (hkeeps _ _ haccepts)
  | placedRows haccepts =>
    exact (listed_placeRows_iff h haccepts.slots_le _ _).2 (hkeeps _ haccepts)
  | placedController haccepts =>
    exact (listed_placeController_iff h haccepts).2 (hkeeps _ _ haccepts)
  | disconnected => exact h.markHostsStale _
  | placedLease haccepts =>
    exact (listed_placeLease_iff h haccepts.room).2 (hkeeps _ _ _ haccepts)

/-- **A call leaves the leases listed exactly if it keeps them listed.** -/
theorem listed_next_iff (hformed : s.WellFormed) (h : s.Listed) (call : TopologyCall) :
    (call.next s).Listed ↔ s.Keeps call := by
  constructor
  · exact keeps_of_listed hformed h
  · intro hkeeps
    obtain ⟨_, hmove, hview⟩ := next_moves s call
    exact (Listed.sameView hview).2 (h.move hformed hkeeps hmove)

theorem listed_new : new.Listed where
  hosts_le := Nat.zero_le _
  leases_le := Nat.zero_le _
  distinct _ _ _ _ hlookup := by cases hlookup
  listed _ _ hlookup := by cases hlookup

/-- Every snapshot of every state of a run is accepted. -/
def SnapshotsValid (calls : List TopologyCall) : Prop :=
  ∀ before after generatedAtMs, calls = before ++ after →
    ((runCalls before new).snapshot generatedAtMs).validate = .ok ()

/-- **The snapshots of a run are accepted exactly if every call keeps the leases listed.** -/
theorem snapshotsValid_iff_keeps (calls : List TopologyCall) :
    SnapshotsValid calls ↔
      AllSteps (fun s call => TopologyCall.next call s) Keeps calls new := by
  rw [← always_iff_allSteps (W := WellFormed) (I := Listed) (fun s call h => h.next call)
    (fun s call hformed hlisted => listed_next_iff hformed hlisted call) wellFormed_new listed_new]
  constructor
  · intro h before after happend
    exact (snapshot_validate_iff (wellFormed_new.runCalls before) 0).1 (h before after 0 happend)
  · intro h before after generatedAtMs happend
    exact (snapshot_validate_iff (wellFormed_new.runCalls before) generatedAtMs).2
      (h before after happend)

/-! ### A lease of a host that is not known -/

def unknownHostRun : List TopologyCall := [.trackActiveLease "lease" "agent" "device"]

/-- The lease is of no device that is listed. -/
theorem not_snapshotsValid : ¬∀ calls, SnapshotsValid calls := by
  intro hvalid
  have hlisted : (runCalls unknownHostRun new).Listed :=
    (snapshot_validate_iff (wellFormed_new.runCalls _) 0).1
      (hvalid unknownHostRun unknownHostRun [] 0 (List.append_nil _).symm)
  have haccepts : new.AcceptsLease "lease" "agent" "device" sampleLeaseKey agentId sampleDeviceId :=
    acceptsLease_sample rfl hasNextRevision_new
  have hkeeps : new.Keeps (.trackActiveLease "lease" "agent" "device") :=
    keeps_of_listed wellFormed_new listed_new hlisted
  obtain ⟨host, hhost, -⟩ := (hkeeps _ _ _ haccepts).1
  cases hhost

end TopologyProjector

end Dashboard
