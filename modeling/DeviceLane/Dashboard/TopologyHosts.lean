/-
**The hosts of the projector.**

What the parts of a call make of the hosts, said by what can be looked up afterwards: hosts that become
stale, the rows of an inventory that are stored, the absent hosts that make room for them, and the local
host that takes its place.

Main definitions:

* `Dashboard.TopologyProjector.fade` — what a lease is when hosts become stale.

Main results:

* `oldestAbsent_congr` — **which hosts make room depends only on when they were seen**.
-/

import DeviceLane.Dashboard.Topology
import Mathlib.Data.String.Basic

namespace Dashboard

open Effect

/-! ### Projection -/

theorem length_of_mapM {α β ε : Type} {f : α → Except ε β} {items : List α} {results : List β}
    (h : items.mapM f = .ok results) : results.length = items.length := by
  induction items generalizing results with
  | nil =>
    cases h
    rfl
  | cons item items ih =>
    rw [List.mapM_cons] at h
    obtain ⟨_, -, h⟩ := bind_eq_ok.1 h
    obtain ⟨_, hrest, h⟩ := bind_eq_ok.1 h
    cases h
    rw [List.length_cons, List.length_cons, ih hrest]

/-- **What an accepted observation looks like.** -/
structure Projects (snapshot : HostSnapshot) (freshness : Freshness) (observedAtMs : ℕ)
    (dashboard : DashboardHost) : Prop where
  id : parseHostId snapshot.id = .ok dashboard.id
  presence : dashboard.presence = parsePresence snapshot.status
  freshness : dashboard.freshness
    = freshnessForPresence dashboard.presence freshness observedAtMs
  devices_le : dashboard.devices.length ≤ snapshot.devices.length
  validate : dashboard.validate = .ok ()

theorem projectHost_ok {snapshot : HostSnapshot} {details : Option (String × List DeviceDetails)}
    {trust : TrustState} {connectionPath : ConnectionPath} {permissions : List String}
    {freshness : Freshness} {observedAtMs : ℕ} {dashboard : DashboardHost}
    (h : projectHost snapshot details trust connectionPath permissions freshness observedAtMs
      = .ok dashboard) : Projects snapshot freshness observedAtMs dashboard := by
  rw [projectHost] at h
  simp only [bind_eq_ok] at h
  obtain ⟨-, -, -, -, -, -, -, -, -, -, -, -, -, -, -, -, -, -, _, hid, h⟩ := h
  obtain ⟨_, hdevices, _, -, _, -, _, -, _, -, h⟩ := h
  generalize hpresence : parsePresence snapshot.status = presence at h
  obtain ⟨_, hvalid, h⟩ := h
  cases h
  refine ⟨hid, hpresence.symm, rfl, ?_, mapError_eq_ok.1 hvalid⟩
  change (List.mergeSort _ _).length ≤ _
  rw [List.length_mergeSort]
  exact le_of_eq (length_of_mapM hdevices)

namespace TopologyProjector

variable {hosts : Map HostId StoredHost} {id : HostId} {rows : List (HostId × DashboardHost × ℕ)}
  {observedIds : List HostId} {observedAtMs : ℕ} {s : TopologyProjector}

/-! ### Hosts that become stale -/

theorem staleDevice_staleDevice (lastSeenAtMs : ℕ) (device : DashboardDevice) :
    staleDevice lastSeenAtMs (staleDevice lastSeenAtMs device) = staleDevice lastSeenAtMs device := by
  unfold staleDevice
  cases hfreshness : device.freshness with
  | live | stale | unknown => rfl

@[simp] theorem staleHost_staleHost (host : StoredHost) :
    staleHost (staleHost host) = staleHost host := by
  have hdevices : (host.dashboard.devices.map (staleDevice host.lastSeenAtMs)).map
      (staleDevice host.lastSeenAtMs) = host.dashboard.devices.map (staleDevice host.lastSeenAtMs) := by
    rw [List.map_map]
    exact List.map_congr_left fun device _ => staleDevice_staleDevice _ device
  unfold staleHost
  simp only [hdevices]

theorem validate_device {device : DashboardDevice} (h : device.validate = .ok ()) {presence : Presence}
    {freshness : Freshness} (hstale : presence = .offline → freshness.isStale = true) :
    ({ device with presence, freshness } : DashboardDevice).validate = .ok () := by
  obtain ⟨hname, -, hcodes⟩ := DashboardDevice.validate_eq_ok.1 h
  exact DashboardDevice.validate_eq_ok.2 ⟨hname, hstale, hcodes⟩

theorem validate_host {dashboard : DashboardHost} (h : dashboard.validate = .ok ())
    {presence : Presence} {freshness : Freshness} {f : DashboardDevice → DashboardDevice}
    (hstale : presence = .offline → freshness.isStale = true)
    (hdevice : ∀ device, device.validate = .ok () →
      (f device).validate = .ok () ∧ (f device).hostId = device.hostId) :
    ({ dashboard with presence, freshness, devices := dashboard.devices.map f } :
      DashboardHost).validate = .ok () := by
  obtain ⟨htext, -, hcapabilities, hpermissions, hlength, hdevices⟩ := DashboardHost.validate_eq_ok.1 h
  refine DashboardHost.validate_eq_ok.2
    ⟨htext, hstale, hcapabilities, hpermissions, ?_, fun device hmem => ?_⟩
  · change (List.map _ _).length ≤ _
    rw [List.length_map]
    exact hlength
  · obtain ⟨original, horiginal, rfl⟩ := List.mem_map.1 hmem
    obtain ⟨hvalid, hhost⟩ := hdevices original horiginal
    exact ⟨(hdevice original hvalid).1, (hdevice original hvalid).2.trans hhost⟩

theorem validate_staleHost {host : StoredHost} (h : host.dashboard.validate = .ok ()) :
    (staleHost host).dashboard.validate = .ok () := by
  refine validate_host h (fun _ => rfl) fun device hvalid => ⟨validate_device hvalid fun _ => ?_, rfl⟩
  split
  · assumption
  · rfl

theorem lookup_hosts_markHostStale (s : TopologyProjector) (hostId id : HostId) :
    (s.markHostStale hostId).hosts.lookup id =
      if id = hostId then (s.hosts.lookup id).map staleHost else s.hosts.lookup id := by
  rw [markHostStale]
  cases hhost : s.hosts.lookup hostId with
  | none =>
    dsimp only
    split
    · rename_i hid
      rw [hid, hhost]
      rfl
    · rfl
  | some =>
    dsimp only
    rw [Map.lookup_insert]
    split
    · rename_i hid
      rw [hid, hhost]
      rfl
    · rfl

def fade (s : TopologyProjector) (ids : List HostId) (lease : StoredLease) : StoredLease :=
  if lease.ownerHostId ∈ ids ∧ (s.hosts.lookup lease.ownerHostId).isSome then
    { lease with state := .uncertain }
  else
    lease

theorem downgrade_eq (hostId : HostId) (lease : StoredLease) :
    downgrade hostId lease =
      if lease.ownerHostId = hostId then { lease with state := .uncertain } else lease := by
  cases lease with
  | mk owner device state =>
    unfold downgrade
    cases state with
    | active | uncertain => simp

theorem lookup_leases_markHostStale (s : TopologyProjector) (hostId : HostId) (key : LeaseKey) :
    (s.markHostStale hostId).leases.lookup key = (s.leases.lookup key).map (s.fade [hostId]) := by
  rw [markHostStale]
  cases hhost : s.hosts.lookup hostId with
  | none =>
    have hsame : s.fade [hostId] = id := by
      funext lease
      refine if_neg ?_
      rintro ⟨hmem, hsome⟩
      rw [List.mem_singleton.1 hmem, hhost] at hsome
      cases hsome
    rw [hsame, Option.map_id, id]
  | some =>
    have hsame : s.fade [hostId] = downgrade hostId := by
      funext lease
      rw [downgrade_eq, fade]
      by_cases howner : lease.ownerHostId = hostId
      · rw [if_pos howner, if_pos ⟨List.mem_singleton.2 howner, by rw [howner, hhost]; rfl⟩]
      · rw [if_neg howner, if_neg fun hmem => howner (List.mem_singleton.1 hmem.1)]
    rw [hsame]
    exact Map.lookup_mapValues _ _ _

/-- **What the hosts are when some of them have become stale.** -/
theorem lookup_hosts_markHostsStale (ids : List HostId) (s : TopologyProjector) (id : HostId) :
    (s.markHostsStale ids).hosts.lookup id =
      if id ∈ ids then (s.hosts.lookup id).map staleHost else s.hosts.lookup id := by
  induction ids generalizing s with
  | nil => rw [if_neg List.not_mem_nil]; rfl
  | cons hostId ids ih =>
    change ((s.markHostStale hostId).markHostsStale ids).hosts.lookup id = _
    rw [ih, lookup_hosts_markHostStale]
    by_cases hid : id = hostId
    · rw [if_pos hid, if_pos (List.mem_cons.2 (Or.inl hid))]
      split
      · rw [Option.map_map]
        congr 1
        funext host
        exact staleHost_staleHost host
      · rfl
    · rw [if_neg hid]
      by_cases hmem : id ∈ ids
      · rw [if_pos hmem, if_pos (List.mem_cons_of_mem _ hmem)]
      · rw [if_neg hmem, if_neg fun h => (List.mem_cons.1 h).elim hid hmem]

/-- **What the leases are then.** -/
theorem lookup_leases_markHostsStale (ids : List HostId) (s : TopologyProjector) (key : LeaseKey) :
    (s.markHostsStale ids).leases.lookup key = (s.leases.lookup key).map (s.fade ids) := by
  induction ids generalizing s with
  | nil =>
    have hsame : s.fade [] = id := by
      funext lease
      exact if_neg fun h => List.not_mem_nil h.1
    rw [hsame, Option.map_id, id]
    rfl
  | cons hostId ids ih =>
    change ((s.markHostStale hostId).markHostsStale ids).leases.lookup key = _
    rw [ih, lookup_leases_markHostStale, Option.map_map]
    congr 1
    funext lease
    have hsome : ((s.markHostStale hostId).hosts.lookup lease.ownerHostId).isSome
        = (s.hosts.lookup lease.ownerHostId).isSome := by
      rw [lookup_hosts_markHostStale]
      split
      · rw [Option.isSome_map]
      · rfl
    rw [Function.comp]
    unfold fade
    by_cases hfirst : lease.ownerHostId ∈ [hostId] ∧ (s.hosts.lookup lease.ownerHostId).isSome
    · have hall : lease.ownerHostId ∈ hostId :: ids ∧ (s.hosts.lookup lease.ownerHostId).isSome :=
        ⟨List.mem_cons.2 (Or.inl (List.mem_singleton.1 hfirst.1)), hfirst.2⟩
      rw [if_pos hfirst, if_pos hall]
      split <;> rfl
    · rw [if_neg hfirst, hsome]
      congr 1
      rw [List.mem_singleton] at hfirst
      rw [List.mem_cons]
      apply propext
      tauto

theorem len_markHostsStale (ids : List HostId) (s : TopologyProjector) :
    (s.markHostsStale ids).hosts.len = s.hosts.len ∧
      (s.markHostsStale ids).leases.len = s.leases.len ∧
      (s.markHostsStale ids).localHostId = s.localHostId := by
  induction ids generalizing s with
  | nil => exact ⟨rfl, rfl, rfl⟩
  | cons hostId ids ih =>
    have hone : (s.markHostStale hostId).hosts.len = s.hosts.len ∧
        (s.markHostStale hostId).leases.len = s.leases.len ∧
        (s.markHostStale hostId).localHostId = s.localHostId := by
      rw [markHostStale]
      cases hhost : s.hosts.lookup hostId with
      | none => exact ⟨rfl, rfl, rfl⟩
      | some =>
        exact ⟨Map.len_insert_of_some hhost _, Map.len_mapValues _ _, rfl⟩
    obtain ⟨hhosts, hleases, hlocal⟩ := ih (s.markHostStale hostId)
    exact ⟨hhosts.trans hone.1, hleases.trans hone.2.1, hlocal.trans hone.2.2⟩

theorem mem_hostsWith {p : HostId → StoredHost → Bool} :
    id ∈ hostsWith hosts p ↔ ∃ host, hosts.lookup id = some host ∧ p id host = true := by
  rw [hostsWith, List.mem_map]
  constructor
  · rintro ⟨⟨_, host⟩, hmem, rfl⟩
    obtain ⟨hentry, htest⟩ := List.mem_filter.1 hmem
    exact ⟨host, Map.mem_toList.1 hentry, htest⟩
  · rintro ⟨host, hlookup, htest⟩
    exact ⟨(id, host), List.mem_filter.2 ⟨Map.mem_toList.2 hlookup, htest⟩, rfl⟩

/-! ### Rows that are stored -/

def rowOf (rows : List (HostId × DashboardHost × ℕ)) (id : HostId) :
    Option (DashboardHost × ℕ) :=
  (rows.reverse.find? fun row => row.1 = id).map Prod.snd

def rowHost (row : DashboardHost × ℕ) : StoredHost :=
  { dashboard := row.1, lastSeenAtMs := row.2, isLocal := false, isController := false }

theorem rowOf_eq_some {row : DashboardHost × ℕ} (h : rowOf rows id = some row) : (id, row) ∈ rows := by
  obtain ⟨entry, hfind, rfl⟩ := Option.map_eq_some_iff.1 h
  have hid : entry.1 = id := by simpa using List.find?_some hfind
  rw [← hid]
  exact List.mem_reverse.1 (List.mem_of_find?_eq_some hfind)

theorem rowOf_eq_none : rowOf rows id = none ↔ id ∉ rows.map Prod.fst := by
  rw [rowOf, Option.map_eq_none_iff, List.find?_eq_none]
  constructor
  · intro h hmem
    obtain ⟨row, hrow, hid⟩ := List.mem_map.1 hmem
    exact h row (List.mem_reverse.2 hrow) (by simpa using hid)
  · intro h row hrow htest
    exact h (List.mem_map.2 ⟨row, List.mem_reverse.1 hrow, by simpa using htest⟩)

/-- **What the hosts are when rows have been stored.** -/
theorem lookup_storeRows (hosts : Map HostId StoredHost) (rows : List (HostId × DashboardHost × ℕ))
    (id : HostId) : (storeRows hosts rows).lookup id =
      ((rowOf rows id).map rowHost).or (hosts.lookup id) := by
  induction rows using List.reverseRecOn with
  | nil => rfl
  | append_singleton rows row ih =>
    have hstore : storeRows hosts (rows ++ [row])
        = (storeRows hosts rows).insert row.1 (rowHost row.2) := by
      rw [storeRows, List.foldl_append]
      rfl
    rw [hstore, Map.lookup_insert, ih, rowOf, rowOf, List.reverse_append, List.reverse_singleton,
      List.singleton_append, List.find?_cons]
    by_cases hid : row.1 = id
    · simp [hid]
    · simp [hid, Ne.symm hid]

/-! ### Hosts that are removed -/

theorem pruneHosts_eq {ids : List HostId} (hnodup : ids.Nodup)
    (hthere : ∀ id ∈ ids, (hosts.lookup id).isSome) :
    (∀ id, (pruneHosts hosts ids).lookup id =
      if id ∈ ids.take (hosts.len - maxCollectionItems) then none else hosts.lookup id) ∧
      (pruneHosts hosts ids).len = hosts.len - min (hosts.len - maxCollectionItems) ids.length := by
  induction ids generalizing hosts with
  | nil => simp [pruneHosts]
  | cons first ids ih =>
    rw [pruneHosts]
    split
    · rename_i hfew
      have hzero : hosts.len - maxCollectionItems = 0 := by omega
      simp [hzero]
    · rename_i hmany
      obtain ⟨hfirst, hrest⟩ := List.nodup_cons.1 hnodup
      obtain ⟨host, hhost⟩ := Option.isSome_iff_exists.1 (hthere first List.mem_cons_self)
      have hlen : (hosts.erase first).len + 1 = hosts.len := Map.len_erase_of_some hhost
      have hothers : ∀ id ∈ ids, ((hosts.erase first).lookup id).isSome := by
        intro id hid
        rw [Map.lookup_erase, if_neg fun heq : id = first => hfirst (heq ▸ hid)]
        exact hthere id (List.mem_cons_of_mem _ hid)
      obtain ⟨hlookup, hcount⟩ := ih hrest hothers
      have hexcess : hosts.len - maxCollectionItems
          = ((hosts.erase first).len - maxCollectionItems) + 1 := by omega
      refine ⟨fun id => ?_, ?_⟩
      · rw [hlookup, hexcess, List.take_succ_cons, Map.lookup_erase]
        by_cases hid : id = first
        · simp [hid]
        · simp [hid]
      · rw [hcount, hexcess, List.length_cons]
        omega

def absentEntries (hosts : Map HostId StoredHost) (observedIds : List HostId) : List (ℕ × HostId) :=
  (hosts.toList.filter fun entry => isAbsent observedIds entry.1 entry.2).map fun entry =>
    (entry.2.lastSeenAtMs, entry.1)

/-- Of two absent hosts the one that was seen earlier is removed first. -/
def earlier (a b : ℕ × HostId) : Bool := a.1 < b.1 || (a.1 = b.1 && a.2.text ≤ b.2.text)

theorem earlier_iff {a b : ℕ × HostId} :
    earlier a b = true ↔ a.1 < b.1 ∨ (a.1 = b.1 ∧ a.2.text ≤ b.2.text) := by
  simp [earlier]

theorem mem_absentEntries {entry : ℕ × HostId} : entry ∈ absentEntries hosts observedIds ↔
      ∃ host, hosts.lookup entry.2 = some host ∧ isAbsent observedIds entry.2 host = true ∧
        host.lastSeenAtMs = entry.1 := by
  rw [absentEntries, List.mem_map]
  constructor
  · rintro ⟨⟨_, host⟩, hmem, rfl⟩
    obtain ⟨hentry, htest⟩ := List.mem_filter.1 hmem
    exact ⟨host, Map.mem_toList.1 hentry, htest, rfl⟩
  · rintro ⟨host, hlookup, htest, hseen⟩
    exact ⟨(entry.2, host), List.mem_filter.2 ⟨Map.mem_toList.2 hlookup, htest⟩,
      Prod.ext hseen rfl⟩

theorem nodup_absentEntries (hosts : Map HostId StoredHost) (observedIds : List HostId) :
    ((absentEntries hosts observedIds).map Prod.snd).Nodup := by
  have hkeys : (absentEntries hosts observedIds).map Prod.snd
      = (hosts.toList.filter fun entry => isAbsent observedIds entry.1 entry.2).map Prod.fst := by
    rw [absentEntries, List.map_map]
    rfl
  rw [hkeys]
  exact (Map.nodup_keys hosts).sublist (List.Sublist.map _ List.filter_sublist)

theorem perm_oldestAbsent (hosts : Map HostId StoredHost) (observedIds : List HostId) :
    (oldestAbsent hosts observedIds).Perm ((absentEntries hosts observedIds).map Prod.snd) :=
  (List.mergeSort_perm _ _).map _

theorem nodup_oldestAbsent (hosts : Map HostId StoredHost) (observedIds : List HostId) :
    (oldestAbsent hosts observedIds).Nodup :=
  (perm_oldestAbsent hosts observedIds).nodup_iff.2 (nodup_absentEntries hosts observedIds)

theorem mem_oldestAbsent :
    id ∈ oldestAbsent hosts observedIds ↔
      ∃ host, hosts.lookup id = some host ∧ isAbsent observedIds id host = true := by
  rw [(perm_oldestAbsent hosts observedIds).mem_iff, List.mem_map]
  constructor
  · rintro ⟨_, hentry, rfl⟩
    obtain ⟨host, hlookup, htest, -⟩ := mem_absentEntries.1 hentry
    exact ⟨host, hlookup, htest⟩
  · rintro ⟨host, hlookup, htest⟩
    exact ⟨(host.lastSeenAtMs, id), mem_absentEntries.2 ⟨host, hlookup, htest, rfl⟩, rfl⟩

/-- **The order in which absent hosts are removed** depends only on when they were seen. -/
theorem oldestAbsent_congr {hosts' : Map HostId StoredHost}
    (h : ∀ entry, entry ∈ absentEntries hosts observedIds ↔ entry ∈ absentEntries hosts' observedIds) :
    oldestAbsent hosts observedIds = oldestAbsent hosts' observedIds := by
  have htrans : ∀ a b c : ℕ × HostId, earlier a b → earlier b c → earlier a c := by
    intro a b c hab hbc
    rw [earlier_iff] at hab hbc ⊢
    rcases hab with hab | ⟨hab, hab'⟩
    · rcases hbc with hbc | ⟨hbc, -⟩ <;> exact Or.inl (by omega)
    · rcases hbc with hbc | ⟨hbc, hbc'⟩
      · exact Or.inl (by omega)
      · exact Or.inr ⟨hab.trans hbc, le_trans hab' hbc'⟩
  have htotal : ∀ a b : ℕ × HostId, (earlier a b || earlier b a) = true := by
    intro a b
    rw [Bool.or_eq_true, earlier_iff, earlier_iff]
    rcases Nat.lt_trichotomy a.1 b.1 with hlt | heq | hgt
    · exact Or.inl (Or.inl hlt)
    · rcases le_total a.2.text b.2.text with hle | hle
      · exact Or.inl (Or.inr ⟨heq, hle⟩)
      · exact Or.inr (Or.inr ⟨heq.symm, hle⟩)
    · exact Or.inr (Or.inl hgt)
  have hantisymm : ∀ a b : ℕ × HostId, earlier a b → earlier b a → a = b := by
    intro a b hab hba
    rw [earlier_iff] at hab hba
    have hseen : a.1 = b.1 := by omega
    have htext : a.2.text = b.2.text := by
      refine le_antisymm ?_ ?_
      · exact (hab.resolve_left (by omega)).2
      · exact (hba.resolve_left (by omega)).2
    exact Prod.ext hseen (ValidatedId.ext htext)
  have hperm : (absentEntries hosts observedIds).Perm (absentEntries hosts' observedIds) :=
    (List.perm_ext_iff_of_nodup (List.Nodup.of_map _ (nodup_absentEntries hosts observedIds))
      (List.Nodup.of_map _ (nodup_absentEntries hosts' observedIds))).2 h
  have hsorted : (absentEntries hosts observedIds).mergeSort earlier
      = (absentEntries hosts' observedIds).mergeSort earlier := by
    refine List.Perm.eq_of_pairwise (fun a b _ _ => hantisymm a b)
      (List.pairwise_mergeSort htrans htotal _) (List.pairwise_mergeSort htrans htotal _) ?_
    exact (List.mergeSort_perm _ _).trans (hperm.trans (List.mergeSort_perm _ _).symm)
  exact congrArg (List.map Prod.snd) hsorted

/-- **What is left of the hosts**: the absent ones that were seen earliest make room. -/
theorem lookup_pruneAbsentHosts (hosts : Map HostId StoredHost) (observedIds : List HostId)
    (id : HostId) : (pruneAbsentHosts hosts observedIds).lookup id =
      if id ∈ (oldestAbsent hosts observedIds).take (hosts.len - maxCollectionItems) then none
      else hosts.lookup id := by
  rw [pruneAbsentHosts]
  split
  · rename_i hfew
    have hzero : hosts.len - maxCollectionItems = 0 := by omega
    simp [hzero]
  · refine (pruneHosts_eq (nodup_oldestAbsent hosts observedIds) fun id hid => ?_).1 id
    obtain ⟨host, hlookup, -⟩ := mem_oldestAbsent.1 hid
    exact Option.isSome_of_eq_some hlookup

theorem len_pruneAbsentHosts (hosts : Map HostId StoredHost) (observedIds : List HostId) :
    (pruneAbsentHosts hosts observedIds).len =
      hosts.len - min (hosts.len - maxCollectionItems) (oldestAbsent hosts observedIds).length := by
  rw [pruneAbsentHosts]
  split
  · rename_i hfew
    have hzero : hosts.len - maxCollectionItems = 0 := by omega
    simp [hzero]
  · refine (pruneHosts_eq (nodup_oldestAbsent hosts observedIds) fun id hid => ?_).2
    obtain ⟨host, hlookup, -⟩ := mem_oldestAbsent.1 hid
    exact Option.isSome_of_eq_some hlookup

/-! ### The local host -/

/-- **The hosts when the local one has taken its place.** -/
theorem lookup_placeLocal (s : TopologyProjector) (hostId : HostId) (dashboard : DashboardHost)
    (sourceRevision observedAtMs : ℕ) (id : HostId) :
    (s.placeLocal hostId dashboard sourceRevision observedAtMs).hosts.lookup id =
      if id = hostId then some
        { dashboard, lastSeenAtMs := observedAtMs, isLocal := true, isController := false }
      else if s.localHostId = some id then none else s.hosts.lookup id := by
  rw [placeLocal]
  cases hlocal : s.localHostId with
  | none =>
    dsimp only
    rw [Map.lookup_insert]
    simp
  | some previous =>
    dsimp only
    rw [Map.lookup_insert]
    by_cases hid : id = hostId
    · rw [if_pos hid, if_pos hid]
    · rw [if_neg hid, if_neg hid]
      by_cases hprevious : previous = hostId
      · have hother : ¬some previous = some id := fun h =>
          hid ((Option.some.inj h).symm.trans hprevious)
        rw [if_neg (not_not_intro hprevious), if_neg hother]
      · rw [if_pos hprevious, Map.lookup_erase]
        simp only [Option.some.injEq, eq_comm]

/-! ### The rows of an inventory -/

structure GoodRow (s : TopologyProjector) (row : HostId × DashboardHost × ℕ) : Prop where
  id : row.2.1.id = row.1
  validate : row.2.1.validate = .ok ()
  remote : s.localHostId ≠ some row.1
  agent : ∀ host, s.hosts.lookup row.1 = some host → host.isController = false
  fresh : row.2.1.presence ≠ .offline → row.2.1.freshness.isStale = false

theorem seenBefore_spec {s : TopologyProjector} {hostId : HostId} {dashboard : DashboardHost}
    {observedAtMs : ℕ} (h : dashboard.validate = .ok ()) :
    (s.seenBefore hostId dashboard observedAtMs).1.validate = .ok () ∧
      (s.seenBefore hostId dashboard observedAtMs).1.id = dashboard.id ∧
      (s.seenBefore hostId dashboard observedAtMs).1.presence = dashboard.presence ∧
      (s.seenBefore hostId dashboard observedAtMs).1.freshness.isStale
        = dashboard.freshness.isStale := by
  rw [seenBefore]
  split
  · rename_i hstale
    refine ⟨?_, rfl, rfl, hstale.symm⟩
    exact validate_host h (fun _ => rfl) fun device hvalid => ⟨validate_device hvalid fun _ => rfl, rfl⟩
  · exact ⟨h, rfl, rfl, rfl⟩

theorem deviceSeenBefore_spec {previous : StoredHost} {device : DashboardDevice}
    (h : device.validate = .ok ()) :
    (deviceSeenBefore previous device).validate = .ok () ∧
      (deviceSeenBefore previous device).hostId = device.hostId := by
  rw [deviceSeenBefore]
  split
  · split
    · exact ⟨h, rfl⟩
    · refine ⟨validate_device h fun _ => ?_, rfl⟩
      split
      · assumption
      · rfl
  · exact ⟨h, rfl⟩

theorem devicesSeenBefore_spec {s : TopologyProjector} {hostId : HostId} {dashboard : DashboardHost}
    (h : dashboard.validate = .ok ()) :
    (s.devicesSeenBefore hostId dashboard).validate = .ok () ∧
      (s.devicesSeenBefore hostId dashboard).id = dashboard.id ∧
      (s.devicesSeenBefore hostId dashboard).presence = dashboard.presence ∧
      (s.devicesSeenBefore hostId dashboard).freshness = dashboard.freshness := by
  rw [devicesSeenBefore]
  split
  · exact ⟨h, rfl, rfl, rfl⟩
  · have hfresh := (DashboardHost.validate_eq_ok.1 h).2.1
    exact ⟨validate_host h hfresh fun device hvalid => deviceSeenBefore_spec hvalid, rfl, rfl, rfl⟩

theorem Projects.fresh {snapshot : HostSnapshot} {hostId : HostId} {dashboard : DashboardHost}
    (h : Projects snapshot (s.observedFreshness hostId) observedAtMs dashboard)
    (honline : dashboard.presence ≠ .offline) : dashboard.freshness.isStale = false := by
  rw [h.freshness, freshnessForPresence, if_neg honline, observedFreshness]
  split <;> rfl

theorem projectRow_ok {host : RegistryHost} {row : HostId × DashboardHost × ℕ}
    (h : s.projectRow observedAtMs host = .ok (some row)) :
    host.trust ≠ .local ∧ parseHostId host.snapshot.id = .ok row.1 ∧ s.localHostId ≠ some row.1 ∧
      ¬(s.hosts.lookup row.1).any StoredHost.isController ∧
      ∃ dashboard, projectHost host.snapshot (some (host.displayName, host.devices)) host.trust
          host.connectionPath host.permissions (s.observedFreshness row.1) observedAtMs
            = .ok dashboard ∧
        row.2 = (s.devicesSeenBefore row.1 (s.seenBefore row.1 dashboard observedAtMs).1,
          (s.seenBefore row.1 dashboard observedAtMs).2) := by
  rw [projectRow, failIf_bind] at h
  split at h
  · cases h
  · rename_i htrust
    simp only [bind_eq_ok] at h
    obtain ⟨-, -, hostId, hid, h⟩ := h
    split at h
    · cases h
    · rename_i hagent
      rw [not_or] at hagent
      obtain ⟨dashboard, hprojected, h⟩ := bind_eq_ok.1 h
      cases h
      exact ⟨htrust, hid, hagent.1, hagent.2, dashboard, hprojected, rfl⟩

theorem mem_projectRows {hosts : List RegistryHost} (h : s.projectRows observedAtMs hosts = .ok rows) :
    ∀ row ∈ rows, ∃ host ∈ hosts, s.projectRow observedAtMs host = .ok (some row) := by
  induction hosts generalizing rows with
  | nil =>
    cases h
    exact List.forall_mem_nil _
  | cons host hosts ih =>
    rw [projectRows] at h
    obtain ⟨_, hfirst, h⟩ := bind_eq_ok.1 h
    obtain ⟨_, hrest, h⟩ := bind_eq_ok.1 h
    cases h
    intro row hrow
    rcases List.mem_append.1 hrow with hrow | hrow
    · rw [Option.mem_toList] at hrow
      exact ⟨host, List.mem_cons_self, by rw [hfirst, hrow]⟩
    · obtain ⟨other, hother, hproject⟩ := ih hrest row hrow
      exact ⟨other, List.mem_cons_of_mem host hother, hproject⟩

theorem goodRow_of_projectRows {hosts : List RegistryHost}
    (h : s.projectRows observedAtMs hosts = .ok rows) : ∀ row ∈ rows, GoodRow s row := by
  intro row hrow
  obtain ⟨_, -, hproject⟩ := mem_projectRows h row hrow
  obtain ⟨-, hid, hremote, hagent, dashboard, hprojected, hseen⟩ := projectRow_ok hproject
  have hprojects := projectHost_ok hprojected
  obtain ⟨hvalid, hseenId, hpresence, hstale⟩ :=
    @seenBefore_spec s row.1 dashboard observedAtMs hprojects.validate
  obtain ⟨hvalid', hid', hpresence', hfreshness'⟩ := @devicesSeenBefore_spec s row.1 _ hvalid
  have hdashboard := congrArg Prod.fst hseen
  dsimp only at hdashboard
  refine ⟨?_, hdashboard ▸ hvalid', hremote, fun stored hlookup => ?_, fun honline => ?_⟩
  · have hsame := hprojects.id
    rw [hid] at hsame
    rw [hdashboard]
    exact hid'.trans (hseenId.trans (Except.ok.inj hsame).symm)
  · rw [hlookup, Option.any_some, Bool.not_eq_true] at hagent
    exact hagent
  · rw [hdashboard, hpresence', hpresence] at honline
    rw [hdashboard, hfreshness', hstale]
    exact Projects.fresh hprojects honline

/-! ### The hosts after an inventory -/

def refreshed (s : TopologyProjector) (rows : List (HostId × DashboardHost × ℕ)) :
    Map HostId StoredHost :=
  storeRows (s.markHostsStale (hostsWith s.hosts (isAbsent (rows.map Prod.fst)))).hosts rows

def staleIfAbsent (observedIds : List HostId) (id : HostId) (host : StoredHost) : StoredHost :=
  if isAbsent observedIds id host then staleHost host else host

theorem lookup_refreshed (s : TopologyProjector) (rows : List (HostId × DashboardHost × ℕ))
    (id : HostId) : (s.refreshed rows).lookup id =
      ((rowOf rows id).map rowHost).or
        ((s.hosts.lookup id).map (staleIfAbsent (rows.map Prod.fst) id)) := by
  rw [refreshed, lookup_storeRows, lookup_hosts_markHostsStale]
  congr 1
  cases hhost : s.hosts.lookup id with
  | none => split <;> rfl
  | some host =>
    rw [Option.map_some, Option.map_some, staleIfAbsent]
    by_cases habsent : isAbsent (rows.map Prod.fst) id host = true
    · rw [if_pos (mem_hostsWith.2 ⟨host, hhost, habsent⟩), if_pos habsent]
    · rw [if_neg habsent, if_neg]
      intro hmem
      obtain ⟨_, hother, htest⟩ := mem_hostsWith.1 hmem
      rw [hhost] at hother
      cases hother
      exact habsent htest

theorem isAbsent_staleIfAbsent (observedIds : List HostId) (id : HostId) (host : StoredHost) :
    isAbsent observedIds id (staleIfAbsent observedIds id host) = isAbsent observedIds id host ∧
      (staleIfAbsent observedIds id host).lastSeenAtMs = host.lastSeenAtMs := by
  rw [staleIfAbsent]
  split <;> exact ⟨rfl, rfl⟩

theorem oldestAbsent_refreshed (s : TopologyProjector) (rows : List (HostId × DashboardHost × ℕ)) :
    oldestAbsent (s.refreshed rows) (rows.map Prod.fst)
      = oldestAbsent s.hosts (rows.map Prod.fst) := by
  refine oldestAbsent_congr fun entry => ?_
  rw [mem_absentEntries, mem_absentEntries, lookup_refreshed]
  by_cases hmem : entry.2 ∈ rows.map Prod.fst
  · have hnever : ∀ host, ¬isAbsent (rows.map Prod.fst) entry.2 host = true := by
      intro host
      simp [isAbsent, hmem]
    constructor
    · rintro ⟨host, -, habsent, -⟩
      exact absurd habsent (hnever host)
    · rintro ⟨host, -, habsent, -⟩
      exact absurd habsent (hnever host)
  · rw [rowOf_eq_none.2 hmem]
    change (∃ host, (s.hosts.lookup entry.2).map _ = some host ∧ _) ↔ _
    constructor
    · rintro ⟨host, hlookup, habsent, hseen⟩
      obtain ⟨original, horiginal, rfl⟩ := Option.map_eq_some_iff.1 hlookup
      obtain ⟨hsame, hlast⟩ := isAbsent_staleIfAbsent (rows.map Prod.fst) entry.2 original
      exact ⟨original, horiginal, hsame ▸ habsent, hlast ▸ hseen⟩
    · rintro ⟨host, hlookup, habsent, hseen⟩
      obtain ⟨hsame, hlast⟩ := isAbsent_staleIfAbsent (rows.map Prod.fst) entry.2 host
      exact ⟨_, by rw [hlookup]; rfl, hsame.trans habsent, hlast.trans hseen⟩

/-- How many hosts are too many once an inventory is stored. -/
def excess (s : TopologyProjector) (rows : List (HostId × DashboardHost × ℕ)) : ℕ :=
  s.hosts.len + ((rows.map Prod.fst).dedup.filter fun id => (s.hosts.lookup id).isNone).length
    - maxCollectionItems

theorem keys_refreshed (s : TopologyProjector) (rows : List (HostId × DashboardHost × ℕ)) :
    (s.refreshed rows).keys.Perm
      (s.hosts.keys ++ (rows.map Prod.fst).dedup.filter fun id => (s.hosts.lookup id).isNone) := by
  have hnodup : (s.hosts.keys ++ (rows.map Prod.fst).dedup.filter
      fun id => (s.hosts.lookup id).isNone).Nodup := by
    refine List.Nodup.append (Map.nodup_keys _) ((List.nodup_dedup _).filter _) fun id hid hnew => ?_
    obtain ⟨host, hhost⟩ := Map.mem_keys.1 hid
    have hnone := (List.mem_filter.1 hnew).2
    rw [hhost] at hnone
    cases hnone
  rw [List.perm_ext_iff_of_nodup (Map.nodup_keys _) hnodup]
  intro id
  rw [Map.mem_keys, lookup_refreshed, List.mem_append, Map.mem_keys, List.mem_filter, List.mem_dedup]
  cases hrow : rowOf rows id with
  | none =>
    have hnot := rowOf_eq_none.1 hrow
    change (∃ host, (s.hosts.lookup id).map _ = some host) ↔ _
    cases s.hosts.lookup id with
    | none => simp [hnot]
    | some => simp
  | some row =>
    have hmem : id ∈ rows.map Prod.fst := List.mem_map.2 ⟨(id, row), rowOf_eq_some hrow, rfl⟩
    cases s.hosts.lookup id with
    | none => simp [hmem]
    | some => simp

theorem len_refreshed (s : TopologyProjector) (rows : List (HostId × DashboardHost × ℕ)) :
    (s.refreshed rows).len - maxCollectionItems = s.excess rows := by
  have hlen := (keys_refreshed s rows).length_eq
  rw [List.length_append] at hlen
  have hkeys : ∀ hosts : Map HostId StoredHost, hosts.keys.length = hosts.len := by
    intro hosts
    rw [Map.keys, List.length_map, Map.length_toList]
  rw [hkeys, hkeys] at hlen
  rw [excess, hlen]

/-- **The hosts after an inventory**: the rows, and what was known of the other hosts, but for the
absent ones that make room. -/
theorem lookup_placeRows (s : TopologyProjector) (rows : List (HostId × DashboardHost × ℕ))
    (sourceRevision : ℕ) (authenticated : Bool) (id : HostId) :
    (s.placeRows rows sourceRevision authenticated).hosts.lookup id =
      if id ∈ (oldestAbsent s.hosts (rows.map Prod.fst)).take (s.excess rows) then none
      else ((rowOf rows id).map rowHost).or
        ((s.hosts.lookup id).map (staleIfAbsent (rows.map Prod.fst) id)) := by
  change (pruneAbsentHosts (s.refreshed rows) (rows.map Prod.fst)).lookup id = _
  rw [lookup_pruneAbsentHosts, oldestAbsent_refreshed, len_refreshed, lookup_refreshed]

/-- **An inventory leaves few enough hosts**, if its own and the reserved ones are few enough. -/
theorem len_placeRows_le
    (hslots : (rows.map Prod.fst).dedup.length + s.reservedSlots ≤ maxCollectionItems)
    (sourceRevision : ℕ) (authenticated : Bool) :
    (s.placeRows rows sourceRevision authenticated).hosts.len ≤ maxCollectionItems := by
  have hsubset : (s.refreshed rows).keys ⊆ oldestAbsent s.hosts (rows.map Prod.fst) ++
      ((rows.map Prod.fst).dedup ++
        hostsWith s.hosts fun _ host => host.isLocal || host.isController) := by
    intro id hid
    rw [List.mem_append, List.mem_append, List.mem_dedup, mem_oldestAbsent, mem_hostsWith]
    rcases List.mem_append.1 ((keys_refreshed s rows).subset hid) with hold | hnew
    · obtain ⟨host, hhost⟩ := Map.mem_keys.1 hold
      by_cases hobserved : id ∈ rows.map Prod.fst
      · exact Or.inr (Or.inl hobserved)
      · cases hreserved : host.isLocal || host.isController with
        | true => exact Or.inr (Or.inr ⟨host, hhost, hreserved⟩)
        | false =>
          rw [Bool.or_eq_false_iff] at hreserved
          exact Or.inl ⟨host, hhost, by simp [isAbsent, hreserved.1, hreserved.2, hobserved]⟩
    · exact Or.inr (Or.inl (List.mem_dedup.1 (List.mem_filter.1 hnew).1))
  have hcount := (List.subperm_of_subset (Map.nodup_keys _) hsubset).length_le
  rw [List.length_append, List.length_append, Map.keys, List.length_map, Map.length_toList] at hcount
  change (pruneAbsentHosts (s.refreshed rows) (rows.map Prod.fst)).len ≤ _
  rw [len_pruneAbsentHosts, oldestAbsent_refreshed]
  change _ + (hostsWith s.hosts _).length ≤ _ at hslots
  omega

end TopologyProjector

end Dashboard
