/-
**When hosts and devices were last seen.**

A host or device that is shown as stale is shown with a time, which should be that of the last observation
that showed it as something else than offline. Each entry keeps the time of its host; inventories and
disconnections fall back on that time and on what the previous entry said. A local observation does not:
what it reports as offline gets the time of the report, every time anew.

Main definitions:

* `Dashboard.TopologyProjector.Seen` — the time of the last observation that showed something.

Main results:

* `Dashboard.TopologyProjector.showsLastSeen_of_steady` — **in steady runs last seen is the last time
  seen**.
-/

import DeviceLane.Dashboard.TopologyOwners
import DeviceLane.Dashboard.TopologySnapshots

namespace Dashboard

open Effect

/-! ### The devices of a host that is projected -/

theorem mem_of_mapM {α β ε : Type} {f : α → Except ε β} {items : List α} {results : List β}
    (h : items.mapM f = .ok results) :
    (∀ result ∈ results, ∃ item ∈ items, f item = .ok result) ∧
      ∀ item ∈ items, ∃ result ∈ results, f item = .ok result := by
  induction items generalizing results with
  | nil =>
    cases h
    simp
  | cons item items ih =>
    rw [List.mapM_cons] at h
    obtain ⟨first, hfirst, h⟩ := bind_eq_ok.1 h
    obtain ⟨_, hrest, h⟩ := bind_eq_ok.1 h
    cases h
    obtain ⟨hresults, hitems⟩ := ih hrest
    constructor
    · intro result hmem
      rcases List.mem_cons.1 hmem with rfl | hmem
      · exact ⟨item, List.mem_cons_self, hfirst⟩
      · obtain ⟨other, hother, hresult⟩ := hresults result hmem
        exact ⟨other, List.mem_cons_of_mem item hother, hresult⟩
    · intro other hmem
      rcases List.mem_cons.1 hmem with rfl | hmem
      · exact ⟨first, List.mem_cons_self, hfirst⟩
      · obtain ⟨result, hresult, hother⟩ := hitems other hmem
        exact ⟨result, List.mem_cons_of_mem first hresult, hother⟩

theorem projectDevice_ok {hostId : HostId} {reported : DeviceSnapshot} {details : Option DeviceDetails}
    {freshness : Freshness} {observedAtMs : ℕ} {device : DashboardDevice}
    (h : projectDevice hostId reported details freshness observedAtMs = .ok device) :
    parseDeviceId reported.id = .ok device.id ∧ device.presence = parsePresence reported.state ∧
      device.freshness = freshnessForPresence device.presence freshness observedAtMs := by
  rw [projectDevice] at h
  generalize parsePresence reported.state = presence at h ⊢
  simp only [bind_eq_ok] at h
  obtain ⟨-, -, -, -, -, -, _, hdeviceId, _, -, _, -, _, -, h⟩ := h
  cases h
  exact ⟨hdeviceId, rfl, rfl⟩

structure ProjectsDevices (reported : List DeviceSnapshot) (freshness : Freshness) (observedAtMs : ℕ)
    (devices : List DashboardDevice) : Prop where
  device : ∀ device ∈ devices,
    (∃ report ∈ reported, parseDeviceId report.id = .ok device.id ∧
      device.presence = parsePresence report.state) ∧
    device.freshness = freshnessForPresence device.presence freshness observedAtMs
  report : ∀ report ∈ reported, ∃ device ∈ devices,
    parseDeviceId report.id = .ok device.id ∧ device.presence = parsePresence report.state

theorem projectHost_devices {snapshot : HostSnapshot} {details : Option (String × List DeviceDetails)}
    {trust : TrustState} {connectionPath : ConnectionPath} {permissions : List String}
    {freshness : Freshness} {observedAtMs : ℕ} {dashboard : DashboardHost}
    (h : projectHost snapshot details trust connectionPath permissions freshness observedAtMs
      = .ok dashboard) :
    ProjectsDevices snapshot.devices freshness observedAtMs dashboard.devices := by
  rw [projectHost] at h
  simp only [bind_eq_ok] at h
  obtain ⟨-, -, -, -, -, -, -, -, -, -, -, -, -, -, -, -, -, -, _, hid, h⟩ := h
  obtain ⟨devices, hdevices, _, -, _, -, _, -, _, -, h⟩ := h
  generalize parsePresence snapshot.status = presence at h
  obtain ⟨_, -, h⟩ := h
  cases h
  obtain ⟨hresults, hreports⟩ := mem_of_mapM hdevices
  constructor
  · intro device hdevice
    obtain ⟨report, hreport, hprojected⟩ :=
      hresults device ((List.mergeSort_perm devices _).mem_iff.1 hdevice)
    obtain ⟨hid, hpresence, hfreshness⟩ := projectDevice_ok hprojected
    exact ⟨⟨report, hreport, hid, hpresence⟩, hfreshness⟩
  · intro report hreport
    obtain ⟨device, hdevice, hprojected⟩ := hreports report hreport
    obtain ⟨hid, hpresence, -⟩ := projectDevice_ok hprojected
    exact ⟨device, (List.mergeSort_perm devices _).mem_iff.2 hdevice, hid, hpresence⟩

namespace TopologyProjector

/-! ### What is seen -/

inductive Observes (s : TopologyProjector) : TopologyCall → HostId → ℕ → Prop
  | fromLocal {sourceRevision observedAtMs : ℕ} {snapshot : HostSnapshot} {hostId : HostId}
      {dashboard : DashboardHost}
      (h : s.AcceptsLocal sourceRevision observedAtMs snapshot hostId dashboard) :
      Observes s (.observeLocal sourceRevision observedAtMs snapshot) hostId observedAtMs
  | fromInventory {sourceRevision observedAtMs : ℕ} {authenticated : Bool} {hosts : List RegistryHost}
      {rows : List (HostId × DashboardHost × ℕ)} {row : DashboardHost × ℕ} {hostId : HostId}
      (h : s.AcceptsInventory sourceRevision observedAtMs authenticated hosts rows)
      (hrow : rowOf rows hostId = some row) :
      Observes s (.observeRegistry sourceRevision observedAtMs authenticated hosts) hostId observedAtMs
  | fromController {controllerId : String} {observedAtMs : ℕ} {hostId : HostId}
      {dashboard : DashboardHost}
      (h : s.AcceptsController controllerId observedAtMs hostId dashboard) :
      Observes s (.observeController controllerId observedAtMs) hostId observedAtMs

/-- The projector after some calls. -/
abbrev after (revision : ℕ) (calls : List TopologyCall) : TopologyProjector :=
  runCalls calls (newAtRevision revision)

/-- **The time of the last observation that showed something** about a host, where the projector has kept
listing it since. -/
inductive Seen (revision : ℕ) (id : HostId) (lists shows : DashboardHost → Prop) :
    List TopologyCall → ℕ → Prop
  | now {calls : List TopologyCall} {call : TopologyCall} {t : ℕ} {host : StoredHost}
      (hobserves : Observes (after revision calls) call id t)
      (hlookup : (after revision (calls ++ [call])).hosts.lookup id = some host)
      (hshows : shows host.dashboard) : Seen revision id lists shows (calls ++ [call]) t
  | before {calls : List TopologyCall} {call : TopologyCall} {t : ℕ} {host : StoredHost}
      (h : Seen revision id lists shows calls t)
      (hlookup : (after revision (calls ++ [call])).hosts.lookup id = some host)
      (hlists : lists host.dashboard)
      (hnot : (∃ t, Observes (after revision calls) call id t) → ¬shows host.dashboard) :
      Seen revision id lists shows (calls ++ [call]) t

def HostSeen (revision : ℕ) (calls : List TopologyCall) (id : HostId) (t : ℕ) : Prop :=
  Seen revision id (fun _ => True) (fun dashboard => dashboard.presence ≠ .offline) calls t

def ShowsDevice (id : DeviceId) (dashboard : DashboardHost) : Prop :=
  ∃ device ∈ dashboard.devices, device.id = id ∧ device.presence ≠ .offline

def DeviceSeen (revision : ℕ) (calls : List TopologyCall) (id : HostId) (device : DeviceId) (t : ℕ) :
    Prop :=
  Seen revision id (fun dashboard => Lists dashboard device) (ShowsDevice device) calls t

/-- **Last seen is the last time seen**, for every host and device that a snapshot shows as stale. -/
def ShowsLastSeen (revision : ℕ) (calls : List TopologyCall) : Prop :=
  ∀ generatedAtMs, ∀ dashboard ∈ ((after revision calls).snapshot generatedAtMs).hosts,
    (∀ t shown, HostSeen revision calls dashboard.id t → dashboard.freshness = .stale shown →
      shown = t) ∧
    ∀ device ∈ dashboard.devices, ∀ t shown, DeviceSeen revision calls dashboard.id device.id t →
      device.freshness = .stale shown → shown = t

def ReportsOffline (reported : List DeviceSnapshot) (device : DeviceId) : Prop :=
  (∃ report ∈ reported, parseDeviceId report.id = .ok device) ∧
    ∀ report ∈ reported, parseDeviceId report.id = .ok device → parsePresence report.state = .offline

/-- A local observation that is taken reports nothing as offline that was seen at another time, and an
inventory that is taken lists no device of a host both as offline and as not. -/
def Steady (revision : ℕ) (calls : List TopologyCall) : TopologyCall → Prop
  | .observeLocal sourceRevision observedAtMs snapshot => ∀ hostId dashboard,
      (after revision calls).AcceptsLocal sourceRevision observedAtMs snapshot hostId dashboard →
        (parsePresence snapshot.status = .offline →
          ∀ t, HostSeen revision calls hostId t → t = observedAtMs) ∧
        ∀ device, ReportsOffline snapshot.devices device →
          ∀ t, DeviceSeen revision calls hostId device t → t = observedAtMs
  | .observeRegistry sourceRevision observedAtMs authenticated hosts => ∀ rows,
      (after revision calls).AcceptsInventory sourceRevision observedAtMs authenticated hosts rows →
        ∀ host ∈ hosts, parsePresence host.snapshot.status ≠ .offline →
          ∀ a ∈ host.snapshot.devices, ∀ b ∈ host.snapshot.devices,
            parseDeviceId a.id = parseDeviceId b.id → parsePresence a.state = .offline →
              parsePresence b.state = .offline
  | _ => True

variable {revision t : ℕ} {calls : List TopologyCall} {call : TopologyCall} {id : HostId}
  {lists shows : DashboardHost → Prop} {host : StoredHost}

theorem after_concat (revision : ℕ) (calls : List TopologyCall) (call : TopologyCall) :
    after revision (calls ++ [call]) = call.next (after revision calls) := by
  rw [after, runCalls, List.foldl_append]
  rfl

theorem seen_concat (h : Seen revision id lists shows (calls ++ [call]) t) :
    ∃ host, (call.next (after revision calls)).hosts.lookup id = some host ∧
      (Observes (after revision calls) call id t ∧ shows host.dashboard ∨
        Seen revision id lists shows calls t ∧ lists host.dashboard ∧
          ((∃ t, Observes (after revision calls) call id t) → ¬shows host.dashboard)) := by
  generalize hrun : calls ++ [call] = run at h
  cases h with
  | now hobserves hlookup hshows =>
    obtain ⟨rfl, hcall⟩ := List.append_inj' hrun rfl
    cases hcall
    rw [after_concat] at hlookup
    exact ⟨_, hlookup, .inl ⟨hobserves, hshows⟩⟩
  | before h hlookup hlists hnot =>
    obtain ⟨rfl, hcall⟩ := List.append_inj' hrun rfl
    cases hcall
    rw [after_concat] at hlookup
    exact ⟨_, hlookup, .inr ⟨h, hlists, hnot⟩⟩

theorem Seen.listed (h : Seen revision id lists shows calls t)
    (himp : ∀ dashboard, shows dashboard → lists dashboard) :
    ∃ host, (after revision calls).hosts.lookup id = some host ∧ lists host.dashboard := by
  cases h with
  | now _ hlookup hshows => exact ⟨_, hlookup, himp _ hshows⟩
  | before _ hlookup hlists => exact ⟨_, hlookup, hlists⟩

/-! ### What a call does to an entry -/

variable {s : TopologyProjector}

theorem lookup_next_of_unobserved (h : ¬∃ t, Observes s call id t)
    (hlookup : (call.next s).hosts.lookup id = some host) :
    ∃ before, s.hosts.lookup id = some before ∧ (host = before ∨ host = staleHost before) := by
  have hstale : ∀ (ids : List HostId) (s' : TopologyProjector), s'.hosts = s.hosts →
      (s'.markHostsStale ids).hosts.lookup id = some host →
        ∃ before, s.hosts.lookup id = some before ∧ (host = before ∨ host = staleHost before) := by
    intro ids s' hsame hlookup
    rw [lookup_hosts_markHostsStale, hsame] at hlookup
    split at hlookup
    · obtain ⟨before, hbefore, rfl⟩ := Option.map_eq_some_iff.1 hlookup
      exact ⟨before, hbefore, .inr rfl⟩
    · exact ⟨host, hlookup, .inl rfl⟩
  obtain ⟨moved, hmove, hview⟩ := next_moves s call
  rw [hview.hosts] at hlookup
  cases hmove with
  | unchanged => exact ⟨host, hlookup, .inl rfl⟩
  | droppedRegistry => exact hstale _ { s with registryAuthenticated := false } rfl hlookup
  | retiredControllers =>
    change (Map.retain _ _).lookup id = some host at hlookup
    rw [Map.lookup_retain, Option.filter_eq_some_iff] at hlookup
    exact hstale _ s rfl hlookup.1
  | placedLocal haccepts =>
    rw [lookup_placeLocal] at hlookup
    split at hlookup
    · rename_i hid
      subst hid
      exact absurd ⟨_, .fromLocal haccepts⟩ h
    · split at hlookup
      · cases hlookup
      · exact ⟨host, hlookup, .inl rfl⟩
  | @placedRows _ _ _ _ rows haccepts =>
    rw [lookup_placeRows] at hlookup
    split at hlookup
    · cases hlookup
    · cases hrow : rowOf rows id with
      | some => exact absurd ⟨_, .fromInventory haccepts hrow⟩ h
      | none =>
        rw [hrow] at hlookup
        obtain ⟨before, hbefore, rfl⟩ := Option.map_eq_some_iff.1 hlookup
        refine ⟨before, hbefore, ?_⟩
        rw [staleIfAbsent]
        split
        · exact .inr rfl
        · exact .inl rfl
  | placedController haccepts =>
    change (Map.insert _ _ _).lookup id = some host at hlookup
    rw [Map.lookup_insert] at hlookup
    split at hlookup
    · rename_i hid
      subst hid
      exact absurd ⟨_, .fromController haccepts⟩ h
    · exact ⟨host, hlookup, .inl rfl⟩
  | disconnected => exact hstale _ s rfl hlookup
  | placedLease => exact ⟨host, hlookup, .inl rfl⟩

/-! ### Right times -/

/-- An entry keeps the time of its host, and of each device what it needs for its time. -/
structure Dated (revision : ℕ) (calls : List TopologyCall) (id : HostId) (host : StoredHost) : Prop where
  shown : ∀ shown, host.dashboard.freshness = .stale shown → shown = host.lastSeenAtMs
  hostSeen : ∀ t, HostSeen revision calls id t → host.lastSeenAtMs = t
  deviceSeen : ∀ device ∈ host.dashboard.devices, ∀ t, DeviceSeen revision calls id device.id t →
    device.freshness = .stale t ∨ device.freshness.isStale = false ∧ host.lastSeenAtMs = t

theorem Dated.staleHost (h : Dated revision calls id host) :
    Dated revision calls id (staleHost host) where
  shown shown hshown := (Freshness.stale.inj hshown).symm
  hostSeen := h.hostSeen
  deviceSeen device hdevice t hseen := by
    obtain ⟨before, hbefore, rfl⟩ := List.mem_map.1 hdevice
    left
    rcases h.deviceSeen before hbefore t hseen with hstale | ⟨hfresh, htime⟩
    · simp [staleDevice, hstale, Freshness.isStale]
    · simp [staleDevice, hfresh, htime]

theorem Dated.unobserved (h : Dated revision calls id host)
    (hnone : ¬∃ t, Observes (after revision calls) call id t) :
    Dated revision (calls ++ [call]) id host where
  shown := h.shown
  hostSeen t hseen := by
    obtain ⟨-, -, ⟨hobserves, -⟩ | ⟨hbefore, -⟩⟩ := seen_concat hseen
    · exact absurd ⟨t, hobserves⟩ hnone
    · exact h.hostSeen t hbefore
  deviceSeen device hdevice t hseen := by
    obtain ⟨-, -, ⟨hobserves, -⟩ | ⟨hbefore, -⟩⟩ := seen_concat hseen
    · exact absurd ⟨t, hobserves⟩ hnone
    · exact h.deviceSeen device hdevice t hbefore

/-! ### Observations -/

theorem Observes.time {t t' : ℕ} (h : Observes s call id t) (h' : Observes s call id t') : t = t' := by
  cases h with
  | fromLocal | fromInventory | fromController => cases h'; rfl

theorem dated_of_observes (hobserves : Observes (after revision calls) call id t)
    (hlookup : (call.next (after revision calls)).hosts.lookup id = some host)
    (hshown : ∀ shown, host.dashboard.freshness = .stale shown → shown = host.lastSeenAtMs)
    (hnow : host.dashboard.presence ≠ .offline → host.lastSeenAtMs = t)
    (hbefore : host.dashboard.presence = .offline →
      ∀ t, HostSeen revision calls id t → host.lastSeenAtMs = t)
    (hdeviceNow : ∀ device ∈ host.dashboard.devices, ShowsDevice device.id host.dashboard →
      device.freshness = .stale t ∨ device.freshness.isStale = false ∧ host.lastSeenAtMs = t)
    (hdeviceBefore : ∀ device ∈ host.dashboard.devices, ¬ShowsDevice device.id host.dashboard →
      ∀ t, DeviceSeen revision calls id device.id t → device.freshness = .stale t) :
    Dated revision (calls ++ [call]) id host where
  shown := hshown
  hostSeen time hseen := by
    obtain ⟨other, hother, hcases⟩ := seen_concat hseen
    rw [hlookup] at hother
    cases hother
    rcases hcases with ⟨htime, hshows⟩ | ⟨hprevious, -, hnot⟩
    · rw [htime.time hobserves]
      exact hnow hshows
    · exact hbefore (not_not.1 (hnot ⟨t, hobserves⟩)) time hprevious
  deviceSeen device hdevice time hseen := by
    obtain ⟨other, hother, hcases⟩ := seen_concat hseen
    rw [hlookup] at hother
    cases hother
    rcases hcases with ⟨htime, hshows⟩ | ⟨hprevious, -, hnot⟩
    · rw [htime.time hobserves]
      exact hdeviceNow device hdevice hshows
    · exact .inl (hdeviceBefore device hdevice (hnot ⟨t, hobserves⟩) time hprevious)

theorem observedFreshness_isStale (s : TopologyProjector) (id : HostId) :
    (s.observedFreshness id).isStale = false := by
  rw [observedFreshness]
  split <;> rfl

theorem freshnessForPresence_observed (s : TopologyProjector) (id : HostId) (presence : Presence)
    (t : ℕ) :
    presence = .offline ∧
        freshnessForPresence presence (s.observedFreshness id) t = .stale t ∨
      presence ≠ .offline ∧
        (freshnessForPresence presence (s.observedFreshness id) t).isStale = false := by
  by_cases hoffline : presence = .offline
  · exact .inl ⟨hoffline, if_pos hoffline⟩
  · rw [freshnessForPresence, if_neg hoffline]
    exact .inr ⟨hoffline, observedFreshness_isStale s id⟩

theorem not_isStale_of_stale {freshness : Freshness} {shown : ℕ} (h : freshness = .stale shown) :
    ¬freshness.isStale = false := by
  rw [h]
  exact Bool.noConfusion

theorem reportsOffline_of_not_showsDevice {reported : List DeviceSnapshot} {freshness : Freshness}
    {dashboard : DashboardHost} (h : ProjectsDevices reported freshness t dashboard.devices)
    {device : DashboardDevice} (hdevice : device ∈ dashboard.devices)
    (hnot : ¬ShowsDevice device.id dashboard) : ReportsOffline reported device.id := by
  obtain ⟨⟨report, hreport, hid, -⟩, -⟩ := h.device device hdevice
  refine ⟨⟨report, hreport, hid⟩, fun other hother hsame => ?_⟩
  obtain ⟨listed, hlisted, hlistedId, hpresence⟩ := h.report other hother
  rw [hsame] at hlistedId
  rw [← hpresence]
  by_contra honline
  exact hnot ⟨listed, hlisted, (Except.ok.inj hlistedId).symm, honline⟩

theorem dated_observeLocal {sourceRevision observedAtMs : ℕ} {snapshot : HostSnapshot}
    {dashboard : DashboardHost}
    (haccepts : (after revision calls).AcceptsLocal sourceRevision observedAtMs snapshot id dashboard)
    (hsteady : Steady revision calls (.observeLocal sourceRevision observedAtMs snapshot))
    (hlookup : (TopologyCall.next (.observeLocal sourceRevision observedAtMs snapshot)
      (after revision calls)).hosts.lookup id = some host) :
    Dated revision (calls ++ [.observeLocal sourceRevision observedAtMs snapshot]) id host := by
  have hhost := hlookup
  rw [next_observeLocal haccepts] at hhost
  change (placeLocal id dashboard sourceRevision observedAtMs _).hosts.lookup id = some host at hhost
  rw [lookup_placeLocal, if_pos rfl] at hhost
  cases hhost
  obtain ⟨hhostBefore, hdevicesBefore⟩ := hsteady id dashboard haccepts
  have hprojects := projectHost_ok haccepts.projected
  have hdevices := projectHost_devices haccepts.projected
  refine dated_of_observes (.fromLocal haccepts) hlookup ?_ (fun _ => rfl) ?_ ?_ ?_
  · intro _ hshown
    have hobserved := freshnessForPresence_observed (after revision calls) id dashboard.presence
      observedAtMs
    rw [← hprojects.freshness] at hobserved
    rcases hobserved with ⟨-, hstale⟩ | ⟨-, hfresh⟩
    · exact Freshness.stale.inj (hshown.symm.trans hstale)
    · exact absurd hfresh (not_isStale_of_stale hshown)
  · intro hoffline t hseen
    rw [hprojects.presence] at hoffline
    exact (hhostBefore hoffline t hseen).symm
  · intro device hdevice _
    have hobserved := freshnessForPresence_observed (after revision calls) id device.presence
      observedAtMs
    rw [← (hdevices.device device hdevice).2] at hobserved
    rcases hobserved with ⟨-, hstale⟩ | ⟨-, hfresh⟩
    · exact .inl hstale
    · exact .inr ⟨hfresh, rfl⟩
  · intro device hdevice hnot t hseen
    have hoffline : device.presence = .offline := by
      by_contra honline
      exact hnot ⟨device, hdevice, rfl, honline⟩
    rw [hdevicesBefore device.id (reportsOffline_of_not_showsDevice hdevices hdevice hnot) t hseen,
      (hdevices.device device hdevice).2, freshnessForPresence, if_pos hoffline]

theorem dated_observeController {controllerId : String} {observedAtMs : ℕ} {dashboard : DashboardHost}
    (haccepts : (after revision calls).AcceptsController controllerId observedAtMs id dashboard)
    (hlookup : (TopologyCall.next (.observeController controllerId observedAtMs)
      (after revision calls)).hosts.lookup id = some host) :
    Dated revision (calls ++ [.observeController controllerId observedAtMs]) id host := by
  have hhost := hlookup
  rw [next_observeController haccepts] at hhost
  change (Map.insert _ _ _).lookup id = some host at hhost
  rw [Map.lookup_insert, if_pos rfl] at hhost
  cases hhost
  have hprojects := projectHost_ok haccepts.projected
  have honline : dashboard.presence ≠ .offline := by
    rw [hprojects.presence]
    exact (by decide : parsePresence "online" ≠ .offline)
  have hnone : dashboard.devices = [] :=
    List.length_eq_zero_iff.1 (Nat.le_zero.1 hprojects.devices_le)
  refine dated_of_observes (.fromController haccepts) hlookup ?_ (fun _ => rfl) ?_ ?_ ?_
  · intro _ hshown
    exact absurd (Projects.fresh hprojects honline) (not_isStale_of_stale hshown)
  · exact fun hoffline => absurd hoffline honline
  · simp [hnone]
  · simp [hnone]

/-! ### Rows of an inventory -/

theorem freshness_deviceSeenBefore {previous : StoredHost}
    (hlookup : (after revision calls).hosts.lookup id = some previous)
    (hdated : Dated revision calls id previous) {device : DashboardDevice}
    (hstale : device.freshness.isStale = true) (hseen : DeviceSeen revision calls id device.id t) :
    (deviceSeenBefore previous device).freshness = .stale t := by
  obtain ⟨_, hlisting, listed, hlisted, hid⟩ := hseen.listed fun _ h =>
    ⟨h.choose, h.choose_spec.1, h.choose_spec.2.1⟩
  rw [hlookup] at hlisting
  cases hlisting
  rw [deviceSeenBefore, if_pos hstale]
  cases hfind : previous.dashboard.devices.find? fun other => other.id = device.id with
  | none => exact absurd hid (by simpa using List.find?_eq_none.1 hfind listed hlisted)
  | some other =>
    have hother : other.id = device.id := by simpa using List.find?_some hfind
    rw [← hother] at hseen
    rcases hdated.deviceSeen other (List.mem_of_find?_eq_some hfind) t hseen with hshown | hfresh
    · simp [hshown, Freshness.isStale]
    · simp [hfresh.1, hfresh.2]

theorem deviceSeenBefore_of_fresh {previous : StoredHost} {device : DashboardDevice}
    (h : device.freshness.isStale = false) : deviceSeenBefore previous device = device :=
  if_neg (by rw [h]; exact Bool.false_ne_true)

theorem deviceSeenBefore_same (previous : StoredHost) (device : DashboardDevice) :
    (deviceSeenBefore previous device).id = device.id ∧
      (deviceSeenBefore previous device).presence = device.presence := by
  rw [deviceSeenBefore]
  split
  · split <;> exact ⟨rfl, rfl⟩
  · exact ⟨rfl, rfl⟩

theorem mem_devicesSeenBefore {dashboard : DashboardHost} {device : DashboardDevice}
    (h : device ∈ (s.devicesSeenBefore id dashboard).devices) :
    ∃ original ∈ dashboard.devices,
      device.id = original.id ∧ device.presence = original.presence ∧
      (original.freshness.isStale = false → device.freshness = original.freshness) ∧
      ∀ previous, s.hosts.lookup id = some previous → device = deviceSeenBefore previous original := by
  rw [devicesSeenBefore] at h
  cases hlookup : s.hosts.lookup id with
  | none =>
    rw [hlookup] at h
    exact ⟨device, h, rfl, rfl, fun _ => rfl, fun previous hprevious => by cases hprevious⟩
  | some previous =>
    rw [hlookup] at h
    obtain ⟨original, horiginal, rfl⟩ := List.mem_map.1 h
    obtain ⟨hid, hpresence⟩ := deviceSeenBefore_same previous original
    refine ⟨original, horiginal, hid, hpresence, fun hfresh => ?_, fun other hother => ?_⟩
    · rw [deviceSeenBefore_of_fresh hfresh]
    · rw [Option.some.inj hother]

structure RowTimes (revision : ℕ) (calls : List TopologyCall) (id : HostId) (t : ℕ)
    (row : DashboardHost × ℕ) : Prop where
  shown : ∀ shown, row.1.freshness = .stale shown → shown = row.2
  now : row.1.presence ≠ .offline → row.2 = t
  before : row.1.presence = .offline → ∀ t, HostSeen revision calls id t → row.2 = t
  stale : ∀ device ∈ row.1.devices, device.presence = .offline → device.freshness.isStale = true
  fresh : ∀ device ∈ row.1.devices, ∀ other ∈ row.1.devices, other.id = device.id →
    other.presence ≠ .offline → device.freshness.isStale = false ∧ row.2 = t

theorem rowTimes_seenBefore {snapshot : HostSnapshot} {details : Option (String × List DeviceDetails)}
    {trust : TrustState} {connectionPath : ConnectionPath} {permissions : List String}
    {dashboard : DashboardHost}
    (hprojected : projectHost snapshot details trust connectionPath permissions
      ((after revision calls).observedFreshness id) t = .ok dashboard)
    (hsteady : parsePresence snapshot.status ≠ .offline → ∀ a ∈ snapshot.devices,
      ∀ b ∈ snapshot.devices, parseDeviceId a.id = parseDeviceId b.id →
        parsePresence a.state = .offline → parsePresence b.state = .offline)
    (hbefore : ∀ previous, (after revision calls).hosts.lookup id = some previous →
      Dated revision calls id previous) :
    RowTimes revision calls id t ((after revision calls).seenBefore id dashboard t) := by
  have hprojects := projectHost_ok hprojected
  have hdevices := projectHost_devices hprojected
  have hobserved := freshnessForPresence_observed (after revision calls) id dashboard.presence t
  rw [← hprojects.freshness] at hobserved
  rcases hobserved with ⟨hoffline, hstale⟩ | ⟨honline, hfresh⟩
  · rw [seenBefore, if_pos (by rw [hstale]; rfl)]
    refine ⟨fun shown hshown => (Freshness.stale.inj hshown).symm, fun h => absurd hoffline h,
      fun _ time hseen => ?_, fun device hdevice _ => ?_, fun _ _ other hother _ honline => ?_⟩
    · obtain ⟨previous, hlookup, -⟩ := hseen.listed fun _ _ => trivial
      dsimp only
      rw [hlookup]
      exact (hbefore previous hlookup).hostSeen time hseen
    · obtain ⟨original, -, rfl⟩ := List.mem_map.1 hdevice
      rfl
    · obtain ⟨original, -, rfl⟩ := List.mem_map.1 hother
      exact absurd rfl honline
  · rw [seenBefore, if_neg (by rw [hfresh]; exact Bool.false_ne_true)]
    refine ⟨fun shown hshown => absurd hfresh (not_isStale_of_stale hshown), fun _ => rfl,
      fun h => absurd h honline, fun device hdevice hoffline => ?_,
      fun device hdevice other hother hid hshows => ?_⟩
    · rw [(hdevices.device device hdevice).2, freshnessForPresence, if_pos hoffline]
      rfl
    · obtain ⟨⟨report, hreport, hreportId, hpresence⟩, hdeviceFresh⟩ := hdevices.device device hdevice
      obtain ⟨⟨report', hreport', hreportId', hpresence'⟩, -⟩ := hdevices.device other hother
      have hdeviceOnline : device.presence ≠ .offline := by
        intro hoffline
        rw [hprojects.presence] at honline
        rw [hpresence] at hoffline
        rw [hid, ← hreportId] at hreportId'
        exact hshows (hpresence'.trans
          (hsteady honline report hreport report' hreport' hreportId'.symm hoffline))
      rw [hdeviceFresh, freshnessForPresence, if_neg hdeviceOnline]
      exact ⟨observedFreshness_isStale _ _, rfl⟩

theorem dated_observeRegistry {sourceRevision observedAtMs : ℕ} {authenticated : Bool}
    {hosts : List RegistryHost} {rows : List (HostId × DashboardHost × ℕ)} {row : DashboardHost × ℕ}
    (haccepts : (after revision calls).AcceptsInventory sourceRevision observedAtMs authenticated hosts
      rows)
    (hrow : rowOf rows id = some row)
    (hsteady : Steady revision calls
      (.observeRegistry sourceRevision observedAtMs authenticated hosts))
    (hbefore : ∀ previous, (after revision calls).hosts.lookup id = some previous →
      Dated revision calls id previous)
    (hlookup : (TopologyCall.next (.observeRegistry sourceRevision observedAtMs authenticated hosts)
      (after revision calls)).hosts.lookup id = some host) :
    Dated revision (calls ++ [.observeRegistry sourceRevision observedAtMs authenticated hosts]) id
      host := by
  have hhost := hlookup
  rw [next_observeRegistry haccepts] at hhost
  change (placeRows rows sourceRevision authenticated _).hosts.lookup id = some host at hhost
  rw [lookup_placeRows] at hhost
  split at hhost
  · cases hhost
  · rw [hrow] at hhost
    cases hhost
    obtain ⟨reporter, hreporter, hproject⟩ :=
      mem_projectRows haccepts.projected _ (rowOf_eq_some hrow)
    obtain ⟨-, -, -, -, projected, hprojected, hseen⟩ := projectRow_ok hproject
    dsimp only at hprojected hseen
    subst hseen
    have htimes := rowTimes_seenBefore hprojected (hsteady rows haccepts reporter hreporter) hbefore
    have hvalid := (@seenBefore_spec (after revision calls) id projected observedAtMs
      (projectHost_ok hprojected).validate).1
    obtain ⟨-, -, hpresence, hfreshness⟩ := @devicesSeenBefore_spec (after revision calls) id _ hvalid
    refine dated_of_observes (.fromInventory haccepts hrow) hlookup ?_ ?_ ?_ ?_ ?_
    · exact fun shown hshown => htimes.shown shown (hfreshness ▸ hshown)
    · exact fun honline => htimes.now (hpresence ▸ honline)
    · exact fun hoffline => htimes.before (hpresence ▸ hoffline)
    · intro device hdevice hshows
      obtain ⟨_, hother, hid, honline⟩ := hshows
      obtain ⟨original, horiginal, horiginalId, -, hfresh, -⟩ := mem_devicesSeenBefore hdevice
      obtain ⟨shown, hshown, hshownId, hshownPresence, -⟩ := mem_devicesSeenBefore hother
      obtain ⟨hlive, htime⟩ := htimes.fresh original horiginal shown hshown
        (hshownId.symm.trans (hid.trans horiginalId)) (hshownPresence ▸ honline)
      right
      rw [hfresh hlive]
      exact ⟨hlive, htime⟩
    · intro device hdevice hnot _ hdeviceSeen
      obtain ⟨previous, hprevious, -⟩ := hdeviceSeen.listed fun _ h =>
        ⟨h.choose, h.choose_spec.1, h.choose_spec.2.1⟩
      obtain ⟨original, horiginal, horiginalId, horiginalPresence, -, hkept⟩ :=
        mem_devicesSeenBefore hdevice
      have hoffline : original.presence = .offline := by
        rw [← horiginalPresence]
        by_contra honline
        exact hnot ⟨device, hdevice, rfl, honline⟩
      rw [horiginalId] at hdeviceSeen
      rw [hkept previous hprevious]
      exact freshness_deviceSeenBefore hprevious (hbefore previous hprevious)
        (htimes.stale original horiginal hoffline) hdeviceSeen

/-! ### Runs -/

/-- **One call keeps the times right**, if it is steady. -/
theorem Dated.next (hbefore : ∀ previous, (after revision calls).hosts.lookup id = some previous →
      Dated revision calls id previous)
    (hsteady : Steady revision calls call)
    (hlookup : (after revision (calls ++ [call])).hosts.lookup id = some host) :
    Dated revision (calls ++ [call]) id host := by
  rw [after_concat] at hlookup
  by_cases hobserves : ∃ t, Observes (after revision calls) call id t
  · obtain ⟨t, hobserves⟩ := hobserves
    cases hobserves with
    | fromLocal haccepts => exact dated_observeLocal haccepts hsteady hlookup
    | fromInventory haccepts hrow => exact dated_observeRegistry haccepts hrow hsteady hbefore hlookup
    | fromController haccepts => exact dated_observeController haccepts hlookup
  · obtain ⟨previous, hprevious, rfl | rfl⟩ := lookup_next_of_unobserved hobserves hlookup
    · exact (hbefore _ hprevious).unobserved hobserves
    · exact (hbefore _ hprevious).staleHost.unobserved hobserves

/-- A run whose calls are all steady. -/
def AllSteady (revision : ℕ) (calls : List TopologyCall) : Prop :=
  ∀ before call rest, calls = before ++ call :: rest → Steady revision before call

theorem allSteady_concat :
    AllSteady revision (calls ++ [call]) ↔ AllSteady revision calls ∧ Steady revision calls call := by
  constructor
  · intro h
    refine ⟨?_, h calls call [] rfl⟩
    rintro before step rest rfl
    exact h before step (rest ++ [call]) (by simp)
  · rintro ⟨hcalls, hcall⟩ before step rest hrun
    rcases List.eq_nil_or_concat rest with rfl | ⟨rest, last, rfl⟩
    · obtain ⟨rfl, hstep⟩ := List.append_inj' hrun rfl
      cases hstep
      exact hcall
    · rw [List.concat_eq_append, ← List.cons_append, ← List.append_assoc] at hrun
      exact hcalls before step rest (List.append_inj' hrun rfl).1

theorem dated_of_allSteady (calls : List TopologyCall) (h : AllSteady revision calls)
    (hlookup : (after revision calls).hosts.lookup id = some host) : Dated revision calls id host := by
  induction calls using List.reverseRecOn generalizing host with
  | nil => cases hlookup
  | append_singleton calls call ih =>
    obtain ⟨hcalls, hcall⟩ := allSteady_concat.1 h
    exact Dated.next (fun previous => ih hcalls) hcall hlookup

/-- **In steady runs last seen is the last time seen.** -/
theorem showsLastSeen_of_steady (calls : List TopologyCall) (h : AllSteady revision calls) :
    ShowsLastSeen revision calls := by
  intro generatedAtMs dashboard hdashboard
  obtain ⟨id, host, hlookup, rfl⟩ := mem_snapshot_hosts.1 hdashboard
  have hformed := (wellFormed_newAtRevision revision).runCalls calls
  rw [(hformed.hosts id host hlookup).named]
  have hdated := dated_of_allSteady calls h hlookup
  constructor
  · intro t shown hseen hshown
    exact (hdated.shown shown hshown).trans (hdated.hostSeen t hseen)
  · intro device hdevice t shown hseen hshown
    rcases hdated.deviceSeen device hdevice t hseen with hstale | ⟨hfresh, -⟩
    · exact Freshness.stale.inj (hshown.symm.trans hstale)
    · exact absurd hfresh (not_isStale_of_stale hshown)

/-- The local host is online, and is disconnected later. -/
def disconnectedRun : List TopologyCall :=
  [.observeLocal 1 1 (agentSnapshot "online"), .markDisconnected agentId 9]

theorem steady_agentOnline (calls : List TopologyCall) :
    Steady 0 calls (.observeLocal 1 1 (agentSnapshot "online")) := by
  refine fun hostId dashboard _ => ⟨fun hoffline => ?_, fun device hreported => ?_⟩
  · exact absurd (parsePresence_online.symm.trans hoffline) (by decide)
  · obtain ⟨⟨_, hreport, -⟩, -⟩ := hreported
    cases hreport

theorem showsLastSeen_disconnectedRun : ShowsLastSeen 0 disconnectedRun := by
  refine showsLastSeen_of_steady disconnectedRun ?_
  refine (@allSteady_concat 0 [_] _).2 ⟨(@allSteady_concat 0 [] _).2 ⟨?_, ?_⟩, trivial⟩
  · rintro before call rest hrun
    exact absurd hrun (by simp)
  · exact steady_agentOnline []

def reportedOfflineRun : List TopologyCall :=
  [.observeLocal 1 1 (agentSnapshot "online"), .observeLocal 2 2 (agentSnapshot "offline")]

/-- What the local host says of itself moves the time at which it was last seen. -/
theorem not_showsLastSeen : ¬∀ revision calls, ShowsLastSeen revision calls := by
  intro hshows
  have honline : (newAtRevision 0).AcceptsLocal 1 1 (agentSnapshot "online") agentId
      (agentHost .online .unknown) :=
    acceptsLocal_agent (fun stored hstored => by cases hstored) (hasNextRevision_of_le (Nat.zero_le 2))
      (by decide) parsePresence_online
  have hfirst := next_observeLocal honline
  have hseen : HostSeen 0 [.observeLocal 1 1 (agentSnapshot "online")] agentId 1 := by
    refine @Seen.now 0 agentId _ _ [] _ 1
      ⟨agentHost .online .unknown, 1, true, false⟩ (.fromLocal honline) ?_ ?_
    · rw [after_concat]
      change (TopologyCall.next _ (newAtRevision 0)).hosts.lookup agentId = _
      rw [hfirst]
      exact (lookup_placeLocal (newAtRevision 0) agentId _ 1 1 agentId).trans (if_pos rfl)
    · exact Presence.noConfusion
  generalize hs : after 0 [.observeLocal 1 1 (agentSnapshot "online")] = s
  have hstate : s.localRevision = some 1 ∧ s.revision = 1 := by
    rw [← hs]
    change (TopologyCall.next _ (newAtRevision 0)).localRevision = _ ∧
      (TopologyCall.next _ (newAtRevision 0)).revision = _
    rw [hfirst]
    exact ⟨rfl, rfl⟩
  have hoffline : s.AcceptsLocal 2 2 (agentSnapshot "offline") agentId
      (agentHost .offline (.stale 2)) := by
    refine acceptsLocal_agent (fun stored hstored => ?_)
      (hasNextRevision_of_le (by rw [hstate.2]; decide)) (by decide) parsePresence_offline
    rw [hstate.1] at hstored
    cases hstored
    decide
  have hlookup : (after 0 reportedOfflineRun).hosts.lookup agentId = some
      { dashboard := agentHost .offline (.stale 2), lastSeenAtMs := 2, isLocal := true,
        isController := false } := by
    have hrun := after_concat 0 [.observeLocal 1 1 (agentSnapshot "online")]
      (.observeLocal 2 2 (agentSnapshot "offline"))
    rw [hs, next_observeLocal hoffline] at hrun
    exact (congrArg (fun t => t.hosts.lookup agentId) hrun).trans
      ((lookup_placeLocal s agentId _ 2 2 agentId).trans (if_pos rfl))
  have hlater : HostSeen 0 reportedOfflineRun agentId 1 :=
    @Seen.before 0 agentId _ _ [.observeLocal 1 1 (agentSnapshot "online")] _ 1 _ hseen hlookup trivial
      fun _ hshown => hshown rfl
  have hshown := (hshows 0 reportedOfflineRun 0 _ (mem_snapshot_hosts.2 ⟨agentId, _, hlookup, rfl⟩)).1
    1 2 hlater rfl
  cases hshown

end TopologyProjector

end Dashboard
