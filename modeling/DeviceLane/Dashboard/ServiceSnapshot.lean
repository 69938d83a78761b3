/-
**The snapshots of the service.**

A snapshot of the service is that of the network with the activities and the approvals that are waited
for. Nothing takes finished activities out of the service, while a snapshot is valid only if each of
its lists is short.

Main definitions:

* `Dashboard.DashboardService.snapshot` — the snapshot in a scope.

Main results:

* `validate_snapshot_iff` — **on a valid topology the snapshot is valid exactly if the activities and
  the approvals can be listed**.
-/

import DeviceLane.Dashboard.ServiceRecords
import DeviceLane.Dashboard.Topology

namespace Dashboard

open Effect

namespace DashboardService

/-! ### The snapshot -/

def pendingApprovals (s : DashboardService) (nowMs : ℕ) : List ApprovalRequest :=
  (((s.pending.inOrder ValidatedId.text).map Prod.snd).filter fun pending =>
    pending.request.expiresAtMs > nowMs).map Pending.request

def inScope (s : DashboardService) (scope : DashboardScope) (activity : ActivitySummary) : Bool :=
  match scope with
  | .mesh => true
  | .local => activity.sourceHostId = s.localHostId || activity.targetHostId = s.localHostId

def topologyIn (s : DashboardService) (scope : DashboardScope) (snapshot : DashboardSnapshot) :
    DashboardSnapshot :=
  match scope with
  | .mesh => snapshot
  | .local =>
    { snapshot with
      scope := .local
      hosts := snapshot.hosts.filter fun host => host.id = s.localHostId
      leases := snapshot.leases.filter fun lease => lease.ownerHostId = s.localHostId }

/-- The snapshot of the service, given its view of the network. -/
def snapshot (s : DashboardService) (topology : TopologyProjector) (hash : HashOrder ActivityEvent)
    (scope : DashboardScope) (nowMs : ℕ) : DashboardSnapshot :=
  { s.topologyIn scope (topology.snapshot nowMs) with
    activities := ((hash.order s.activities.values).map ActivityEvent.summary).filter (s.inScope scope)
    pendingApprovals := s.pendingApprovals nowMs }

/-! ### Summaries -/

theorem validate_summary {event : ActivityEvent} (h : event.validate = .ok ()) :
    event.summary.validate = .ok () := by
  rw [ActivityEvent.validate, check_bind_eq_ok, check_bind_eq_ok] at h
  obtain ⟨hresources, -, hlifecycle⟩ := h
  obtain ⟨htimes, -, hordered, -⟩ := validateLifecycle_eq_ok.1 hlifecycle
  rw [ActivitySummary.validate, check_bind_eq_ok]
  refine ⟨hresources, validateLifecycle_eq_ok.2 ⟨htimes, ?_, hordered, ?_⟩⟩
  · intro _ _ occurred hoccurred
    cases hoccurred
  · intro occurred hoccurred
    cases hoccurred

section

variable [Sha256]

/-! ### Snapshots that can be published -/

omit [Sha256] in
/-- What is recorded and waited for can be listed, and no approval has expired when it was asked for. -/
structure Listable (s : DashboardService) (scope : DashboardScope) (nowMs : ℕ) : Prop where
  activities_le : (s.activities.values.filter fun event => s.inScope scope event.summary).length
    ≤ maxCollectionItems
  pending_le : (s.pendingApprovals nowMs).length ≤ maxCollectionItems
  lasting : ∀ request ∈ s.pendingApprovals nowMs, request.requestedAtMs < request.expiresAtMs

section

omit [Sha256]

theorem mem_pendingApprovals {s : DashboardService} {nowMs : ℕ} {request : ApprovalRequest}
    (h : request ∈ s.pendingApprovals nowMs) :
    ∃ id pending, s.pending.lookup id = some pending ∧ pending.request = request := by
  rw [pendingApprovals, List.mem_map] at h
  obtain ⟨pending, hmem, hrequest⟩ := h
  obtain ⟨⟨id, pending⟩, hentry, rfl⟩ := List.mem_map.1 (List.mem_of_mem_filter hmem)
  exact ⟨id, pending, Map.mem_inOrder.1 hentry, hrequest⟩

theorem isListed_filter {hosts : List DashboardHost} {lease : DashboardLease} {id : HostId}
    (hid : lease.ownerHostId = id) (h : lease.isListed hosts = true) :
    lease.isListed (hosts.filter fun host => host.id = id) = true := by
  have hfind : (hosts.filter fun host => host.id = id).find? (fun host => host.id = lease.ownerHostId)
      = hosts.find? fun host => host.id = lease.ownerHostId := by
    rw [List.find?_filter, hid]
    simp
  rwa [DashboardLease.isListed, hfind]

theorem valid_topologyIn {s : DashboardService} {snapshot : DashboardSnapshot}
    (h : snapshot.Valid) (scope : DashboardScope) : (s.topologyIn scope snapshot).Valid := by
  cases scope with
  | mesh => exact h
  | «local» =>
    refine
      { hosts_le := Nat.le_trans (List.length_filter_le _ _) h.hosts_le
        activities_le := h.activities_le
        leases_le := Nat.le_trans (List.length_filter_le _ _) h.leases_le
        pendingApprovals_le := h.pendingApprovals_le
        warnings_le := h.warnings_le
        hosts := fun host hmem => h.hosts host (List.mem_of_mem_filter hmem)
        activities := h.activities
        leaseIds := List.Nodup.sublist (List.Sublist.map _ List.filter_sublist) h.leaseIds
        leases := fun lease hmem => ?_
        pendingApprovals := h.pendingApprovals
        warnings := h.warnings }
    obtain ⟨hmem, howner⟩ := List.mem_filter.1 hmem
    exact isListed_filter (of_decide_eq_true howner) (h.leases lease hmem)

theorem length_activities_snapshot (s : DashboardService) (topology : TopologyProjector)
    (hash : HashOrder ActivityEvent) (scope : DashboardScope) (nowMs : ℕ) :
    (s.snapshot topology hash scope nowMs).activities.length
      = (s.activities.values.filter fun event => s.inScope scope event.summary).length := by
  have hperm := ((hash.perm s.activities.values).map ActivityEvent.summary).filter (s.inScope scope)
  rw [snapshot, hperm.length_eq, List.filter_map, List.length_map]
  rfl

end

theorem validate_snapshot_eq_ok {s : DashboardService} (h : s.Reachable) {topology : TopologyProjector}
    {hash : HashOrder ActivityEvent} {scope : DashboardScope} {nowMs : ℕ} :
    (s.snapshot topology hash scope nowMs).validate = .ok ()
      ↔ (s.topologyIn scope (topology.snapshot nowMs)).Valid ∧ s.Listable scope nowMs := by
  have hlength := length_activities_snapshot s topology hash scope nowMs
  rw [DashboardSnapshot.validate_eq_ok]
  constructor
  · intro hvalid
    refine ⟨?_, hlength ▸ hvalid.activities_le, hvalid.pendingApprovals_le, fun request hmem => ?_⟩
    · -- The projector lists neither activities nor approvals.
      have hactivities : (s.topologyIn scope (topology.snapshot nowMs)).activities = [] := by
        cases scope <;> rfl
      have happrovals : (s.topologyIn scope (topology.snapshot nowMs)).pendingApprovals = [] := by
        cases scope <;> rfl
      exact
        { hvalid with
          activities_le := hactivities ▸ Nat.zero_le _
          pendingApprovals_le := happrovals ▸ Nat.zero_le _
          activities := fun activity hmem => absurd (hactivities ▸ hmem) List.not_mem_nil
          pendingApprovals := fun request hmem => absurd (happrovals ▸ hmem) List.not_mem_nil }
    · have hrequest := hvalid.pendingApprovals request hmem
      rw [ApprovalRequest.validate, check_bind_eq_ok] at hrequest
      by_contra hlate
      rw [if_pos (Nat.le_of_not_lt hlate)] at hrequest
      cases hrequest.2
  · rintro ⟨hnetwork, hlistable⟩
    refine
      { hosts_le := hnetwork.hosts_le
        activities_le := hlength.symm ▸ hlistable.activities_le
        leases_le := hnetwork.leases_le
        pendingApprovals_le := hlistable.pending_le
        warnings_le := hnetwork.warnings_le
        hosts := hnetwork.hosts
        activities := fun activity hmem => ?_
        leaseIds := hnetwork.leaseIds
        leases := hnetwork.leases
        pendingApprovals := fun request hmem => ?_
        warnings := hnetwork.warnings }
    · obtain ⟨event, hevent, rfl⟩ := List.mem_map.1 (List.mem_of_mem_filter hmem)
      obtain ⟨id, hlookup⟩ := Map.mem_values.1 ((hash.perm _).mem_iff.1 hevent)
      obtain ⟨-, hbytes⟩ := soundActivities_of_reachable h id event hlookup
      exact validate_summary (toVec_isOk_iff.1 hbytes).1
    · obtain ⟨id, pending, hlookup, rfl⟩ := mem_pendingApprovals hmem
      rw [ApprovalRequest.validate, check_bind_eq_ok]
      refine ⟨(restorable_of_reachable h id pending hlookup).resources, ?_⟩
      rw [if_neg (Nat.not_le_of_lt (hlistable.lasting _ hmem))]
      rfl

/-- **On a valid network a snapshot of the service is valid exactly if what is recorded and waited for
can be listed.** -/
theorem validate_snapshot_iff {s : DashboardService} (h : s.Reachable) {topology : TopologyProjector}
    {nowMs : ℕ} (htopology : (topology.snapshot nowMs).validate = .ok ())
    (hash : HashOrder ActivityEvent) (scope : DashboardScope) :
    (s.snapshot topology hash scope nowMs).validate = .ok () ↔ s.Listable scope nowMs := by
  rw [validate_snapshot_eq_ok h]
  exact and_iff_right (valid_topologyIn (DashboardSnapshot.validate_eq_ok.1 htopology) scope)

/-! ### A service with many activities -/

/-- Every snapshot on a valid network is valid. -/
def AlwaysPublishable : Prop :=
  ∀ s topology hash scope nowMs, Reachable s → (topology.snapshot nowMs).validate = .ok () →
    (s.snapshot topology hash scope nowMs).validate = .ok ()

omit [Sha256] in
theorem validate_snapshot_new (nowMs : ℕ) : (TopologyProjector.new.snapshot nowMs).validate = .ok () := by
  have hhosts : (TopologyProjector.new.snapshot nowMs).hosts = [] := by
    rw [TopologyProjector.snapshot]
    exact List.map_eq_nil_iff.2 List.mergeSort_nil
  have hleases : (TopologyProjector.new.snapshot nowMs).leases = [] := by
    rw [TopologyProjector.snapshot]
    exact List.map_eq_nil_iff.2 (Map.inOrder_empty _)
  have hactivities : (TopologyProjector.new.snapshot nowMs).activities = [] := rfl
  have happrovals : (TopologyProjector.new.snapshot nowMs).pendingApprovals = [] := rfl
  have hwarnings : (TopologyProjector.new.snapshot nowMs).warnings = [] := rfl
  rw [DashboardSnapshot.validate, hhosts, hleases, hactivities, happrovals, hwarnings]
  rfl

theorem reachable_manyRecorded {n : ℕ} (hn : n ≤ 1000) : (manyRecorded n).Reachable :=
  ⟨persistentService, recordMany n, started_persistentService, (runCalls_recordMany hn).symm⟩

omit [Sha256] in
/-- **After 129 activities, all of them finished, there is no valid snapshot of the service.** -/
theorem not_alwaysPublishable : ¬∃ _ : Sha256, AlwaysPublishable := by
  rintro ⟨_, hpublishable⟩
  have hvalid := hpublishable (manyRecorded 129) .new ⟨id, fun l => List.Perm.refl l⟩ .mesh 0
    (reachable_manyRecorded (by omega)) (validate_snapshot_new 0)
  have hle := (DashboardSnapshot.validate_eq_ok.1 hvalid).activities_le
  have hlen := (numbered_manyRecorded (by omega : 129 ≤ 1000)).len
  have hshown : ((manyRecorded 129).activities.values.filter fun event =>
      (manyRecorded 129).inScope .mesh event.summary) = (manyRecorded 129).activities.values :=
    List.filter_eq_self.2 fun _ _ => rfl
  rw [length_activities_snapshot, hshown, Map.values, List.length_map, Map.length_toList, hlen] at hle
  exact absurd hle (by decide)

omit [Sha256] in
/-- The snapshot of a new service is valid. -/
theorem validate_snapshot_persistentService : letI := EventJournal.eventHash
    (persistentService.snapshot .new ⟨id, fun l => List.Perm.refl l⟩ .local 0).validate = .ok () := by
  let _ := EventJournal.eventHash
  have hreachable : persistentService.Reachable :=
    ⟨persistentService, [], started_persistentService, rfl⟩
  refine (validate_snapshot_iff hreachable (validate_snapshot_new 0) _ _).2 ⟨Nat.zero_le _, ?_, ?_⟩
  · have hnone : persistentService.pendingApprovals 0 = [] := by
      rw [pendingApprovals, show persistentService.pending = ∅ from rfl, Map.inOrder_empty]
      rfl
    rw [hnone]
    exact Nat.zero_le _
  · intro request hmem
    obtain ⟨id, pending, hlookup, -⟩ := mem_pendingApprovals hmem
    cases hlookup

end

end DashboardService

end Dashboard
