/-
**What a restart makes of the activities.**

A service takes over the activities of its checkpoint, and then fails those that the restart has
ended. It looks for them among the activities that are queued or running. An activity may also be
reconnecting, and such an activity is left as it was.

Main definitions:

* `Dashboard.ActivityState.isInFlight` — the states of an activity that is on its way.

Main results:

* `settled_iff_no_reconnecting` — **a restart settles a checkpoint exactly if no activity of it is
  reconnecting**.
-/

import DeviceLane.Dashboard.ServiceCheckpoints
import DeviceLane.Dashboard.ServiceJournal

namespace Dashboard

open Effect

variable {event : ActivityEvent}

/-! ### Activities on their way -/

def ActivityState.isInFlight : ActivityState → Bool
  | .queued | .running | .reconnecting => true
  | .awaitingApproval | .succeeded | .failed | .denied | .cancelled => false

def ActivityEvent.isActive (event : ActivityEvent) : Bool :=
  event.state = .queued || event.state = .running

structure ActivityEvent.Ended (before after : ActivityEvent) : Prop where
  state : after.state = .failed
  message : after.message = some ⟨.daemonRestarted, []⟩
  sequence : after.sequence = before.sequence + 1
  activityId : after.activityId = before.activityId
  principalId : after.principalId = before.principalId
  sourceHostId : after.sourceHostId = before.sourceHostId
  targetHostId : after.targetHostId = before.targetHostId
  deviceId : after.deviceId = before.deviceId
  operation : after.operation = before.operation
  resources : after.resources = before.resources
  remoteOperationSha256 : after.remoteOperationSha256 = before.remoteOperationSha256
  authorization : after.authorization = before.authorization

theorem ActivityEvent.ended_failedWith (h : event.sequence < u64Max) (nowMs : ℕ) :
    event.Ended (event.failedWith .daemonRestarted nowMs) := by
  refine ⟨rfl, rfl, ?_, rfl, rfl, rfl, rfl, rfl, rfl, rfl, rfl, rfl⟩
  exact Nat.min_eq_left h

def ActivityEvent.restarted (event : ActivityEvent) (nowMs : ℕ) : ActivityEvent :=
  if event.isActive then event.failedWith .daemonRestarted nowMs else event

theorem ActivityEvent.isActive_of_isInFlight (h : event.state.isInFlight = true)
    (hstate : event.state ≠ .reconnecting) : event.isActive = true := by
  rw [ActivityEvent.isActive]
  cases hcase : event.state with
  | queued | running => rfl
  | reconnecting => exact absurd hcase hstate
  | awaitingApproval | succeeded | failed | denied | cancelled =>
    rw [hcase] at h
    cases h

theorem ActivityEvent.isInFlight_of_isActive (h : event.isActive = true) :
    event.state.isInFlight = true := by
  rw [ActivityEvent.isActive, Bool.or_eq_true, decide_eq_true_eq, decide_eq_true_eq] at h
  rcases h with hstate | hstate
  · rw [hstate]
    rfl
  · rw [hstate]
    rfl

namespace DashboardService

variable [Sha256]

variable {s s' : DashboardService} {nowMs : ℕ} {activities : List ActivityEvent}
  {checkpoint : ActivityCheckpoint} {hash : HashOrder ActivityEvent}

/-! ### The writes of a restart -/

def SameActivities (s s' : DashboardService) : Prop := s'.activities = s.activities

theorem sameActivities_appendAudit (record : RawAuditRecord) :
    Within SameActivities (appendAudit record) := by
  intro _
  rw [exec_appendAudit]
  split
  · rfl
  split
  · rfl
  · split
    · rfl
    · rfl

theorem sameActivities_auditAccessFromEvent (event : ActivityEvent) (result : AuditResult)
    (message : Option MessageCode) (nowMs : ℕ) :
    Within SameActivities (auditAccessFromEventWithMessage event result message nowMs) :=
  Within.get fun s => sameActivities_appendAudit _ s

theorem activities_of_recordActivity {idempotencyKey : String}
    (h : (recordActivity event idempotencyKey).exec s = (.ok (), s')) :
    s'.activities = s.activities.insert event.activityId event := by
  rw [exec_recordActivity] at h
  split at h
  · cases h
  · cases h
    rfl
  · split at h
    · cases h
    · cases h
      rfl

/-- **What the loop over the activities that have ended does to the activities.** -/
theorem reconcile_ok {events : List ActivityEvent} (h : (reconcile nowMs events).exec s = (.ok (), s'))
    (hnodup : (events.map ActivityEvent.activityId).Nodup) :
    (∀ event ∈ events,
        s'.activities.lookup event.activityId = some (event.failedWith .daemonRestarted nowMs)) ∧
      ∀ id, id ∉ events.map ActivityEvent.activityId →
        s'.activities.lookup id = s.activities.lookup id := by
  induction events generalizing s with
  | nil =>
    cases h
    exact ⟨List.forall_mem_nil _, fun _ _ => rfl⟩
  | cons event events ih =>
    rw [List.map_cons, List.nodup_cons] at hnodup
    obtain ⟨⟨⟩, audited, haudited, h⟩ := exec_bind_inv h
    obtain ⟨⟨⟩, _, hrecorded, h⟩ := exec_bind_inv h
    obtain ⟨hfailed, hother⟩ := ih h hnodup.2
    have hsame : audited.activities = s.activities := by
      have hmove := sameActivities_auditAccessFromEvent
        (event.failedWith .daemonRestarted nowMs) .failed (some .daemonRestarted) nowMs s
      rwa [haudited] at hmove
    have hinsert := activities_of_recordActivity hrecorded
    rw [hsame] at hinsert
    constructor
    · intro other hmem
      rcases List.mem_cons.1 hmem with rfl | hmem
      · -- The rest of the loop is about other activities.
        rw [hother _ hnodup.1, hinsert]
        exact Map.lookup_insert_self _ _ _
      · exact hfailed other hmem
    · intro id hid
      rw [List.map_cons, List.mem_cons, not_or] at hid
      rw [hother id hid.2, hinsert]
      exact Map.lookup_insert_ne hid.1 _

section

omit [Sha256]

theorem within_restoreActivities {R : DashboardService → DashboardService → Prop} [Std.Refl R]
    [IsTrans DashboardService R] (hevents : ∀ s events, R s { s with events })
    (hactivities : ∀ s activities, R s { s with activities }) (activities : List ActivityEvent) :
    Within R (restoreActivities activities) := by
  induction activities with
  | nil => exact .pure _
  | cons activity activities ih =>
    refine Within.bind (.throwIf _ _) fun _ => Within.get fun s => ?_
    refine Within.bind (R := R) (.throwIf _ _) (fun _ => ?_) s
    have hrestore : Within R (onPart DashboardService.events (fun events s => { s with events })
        (fun _ => .returned .auditUnavailable)
        (EventJournal.restoreActivitySequence activity.activityId activity.sequence) :
        ServiceEff Unit) := fun s => hevents s _
    exact Within.bind hrestore fun _ => Within.bind (.modify fun s => hactivities s _) fun _ => ih

/-- **What the loop over the activities of a checkpoint does.** -/
theorem restoreActivities_ok (h : (restoreActivities activities).exec s = (.ok (), s')) :
    SameCore s s' ∧ (activities.map ActivityEvent.activityId).Nodup ∧
      (∀ event ∈ activities, (event.validate = .ok () ∧ event.sequence ≠ u64Max) ∧
        s.activities.lookup event.activityId = none ∧
        s'.activities.lookup event.activityId = some event) ∧
      ∀ id, id ∉ activities.map ActivityEvent.activityId →
        s'.activities.lookup id = s.activities.lookup id := by
  induction activities generalizing s with
  | nil =>
    cases h
    exact ⟨refl _, List.nodup_nil, List.forall_mem_nil _, fun _ _ => rfl⟩
  | cons activity activities ih =>
    obtain ⟨hvalid, h⟩ := exec_throwIf_inv h
    rw [exec_bind_ok (exec_get s)] at h
    obtain ⟨hnew, h⟩ := exec_throwIf_inv h
    obtain ⟨⟨⟩, _, hnumbered, h⟩ := exec_bind_inv h
    obtain ⟨_, hrestored, rfl⟩ := exec_onPart_inv hnumbered
    rw [exec_bind_ok (exec_modify _ _)] at h
    obtain ⟨hcore, hnodup, hall, hother⟩ := ih h
    have hnone : s.activities.lookup activity.activityId = none := by
      rwa [Option.not_isSome_iff_eq_none] at hnew
    have hne : activity.sequence ≠ u64Max := by
      intro hmax
      rw [EventJournal.exec_restoreActivitySequence, if_pos (Or.inr hmax)] at hrestored
      cases hrestored
    -- The activities that follow are different ones, since the map has this one now.
    have hlater : ∀ event ∈ activities, event.activityId ≠ activity.activityId := by
      intro event hmem hsame
      have hfree := (hall event hmem).2.1
      rw [hsame, Map.lookup_insert_self] at hfree
      cases hfree
    have hfirst : activity.activityId ∉ activities.map ActivityEvent.activityId := by
      intro hmem
      obtain ⟨event, hevent, hsame⟩ := List.mem_map.1 hmem
      exact hlater event hevent hsame
    refine ⟨⟨hcore.localHostId, hcore.policy, hcore.pending, hcore.adminGrants, hcore.paused⟩,
      List.nodup_cons.2 ⟨hfirst, hnodup⟩, ?_, ?_⟩
    · intro event hmem
      rcases List.mem_cons.1 hmem with rfl | hmem
      · refine ⟨⟨not_not.1 hvalid, hne⟩, hnone, ?_⟩
        rw [hother _ hfirst]
        exact Map.lookup_insert_self _ _ _
      · obtain ⟨hchecked, hfree, hrecord⟩ := hall event hmem
        rw [Map.lookup_insert_ne (hlater event hmem)] at hfree
        exact ⟨hchecked, hfree, hrecord⟩
    · intro id hid
      rw [List.map_cons, List.mem_cons, not_or] at hid
      rw [hother id hid.2]
      exact Map.lookup_insert_ne hid.1 _

theorem mem_of_restored {restored : DashboardService} (hempty : s.activities = ∅)
    (h : (restoreActivities activities).exec s = (.ok (), restored)) {id : ActivityId}
    (hlookup : restored.activities.lookup id = some event) :
    event ∈ activities ∧ event.activityId = id := by
  obtain ⟨-, -, hall, hother⟩ := restoreActivities_ok h
  by_cases hid : id ∈ activities.map ActivityEvent.activityId
  · obtain ⟨before, hmem, rfl⟩ := List.mem_map.1 hid
    rw [(hall before hmem).2.2] at hlookup
    cases hlookup
    exact ⟨hmem, rfl⟩
  · rw [hother id hid, hempty] at hlookup
    cases hlookup

theorem nodup_activeActivities
    (hids : ∀ id event, s.activities.lookup id = some event → event.activityId = id)
    (hash : HashOrder ActivityEvent) :
    ((hash.order s.activeActivities).map ActivityEvent.activityId).Nodup := by
  have hvalues : s.activities.values.map ActivityEvent.activityId = s.activities.keys := by
    rw [Map.values, Map.keys, List.map_map]
    refine List.map_congr_left fun entry hentry => ?_
    exact hids entry.1 entry.2 (Map.mem_toList.1 hentry)
  rw [((hash.perm s.activeActivities).map _).nodup_iff]
  refine List.Nodup.sublist (List.Sublist.map _ List.filter_sublist) ?_
  rw [hvalues]
  exact Map.nodup_keys _

theorem events_of_restoreActivities (h : (restoreActivities activities).exec s = (.ok (), s')) :
    (∃ activitySequences, s'.events = { s.events with activitySequences }) ∧
      (∀ event ∈ activities,
        s'.events.activitySequences.lookup event.activityId = some event.sequence) ∧
      ∀ id, id ∉ activities.map ActivityEvent.activityId →
        s'.events.activitySequences.lookup id = s.events.activitySequences.lookup id := by
  have hnodup := (restoreActivities_ok h).2.1
  induction activities generalizing s with
  | nil =>
    cases h
    exact ⟨⟨_, rfl⟩, List.forall_mem_nil _, fun _ _ => rfl⟩
  | cons activity activities ih =>
    rw [List.map_cons, List.nodup_cons] at hnodup
    obtain ⟨-, h⟩ := exec_throwIf_inv h
    rw [exec_bind_ok (exec_get s)] at h
    obtain ⟨-, h⟩ := exec_throwIf_inv h
    obtain ⟨⟨⟩, _, hnumbered, h⟩ := exec_bind_inv h
    obtain ⟨events, hrestored, rfl⟩ := exec_onPart_inv hnumbered
    rw [exec_bind_ok (exec_modify _ _)] at h
    obtain ⟨⟨sequences, hevents⟩, hall, hother⟩ := ih h hnodup.2
    have hfirst : events = { s.events with
        activitySequences :=
          s.events.activitySequences.insert activity.activityId activity.sequence } := by
      rw [EventJournal.exec_restoreActivitySequence] at hrestored
      split at hrestored
      · cases hrestored
      split at hrestored
      · cases hrestored
      split at hrestored
      · cases hrestored
      · cases hrestored
        rfl
    subst hfirst
    refine ⟨⟨sequences, hevents⟩, ?_, ?_⟩
    · intro event hmem
      rcases List.mem_cons.1 hmem with rfl | hmem
      · rw [hother _ hnodup.1]
        exact Map.lookup_insert_self _ _ _
      · exact hall event hmem
    · intro id hid
      rw [List.map_cons, List.mem_cons, not_or] at hid
      rw [hother id hid.2]
      exact Map.lookup_insert_ne hid.1 _

end

/-! ### A restart that succeeds -/

def withPayload (s : DashboardService) (payload : ActivityCheckpointPayload) (policy : PolicyEngine) :
    DashboardService :=
  { s with
    pending := payload.pending
    adminGrants := payload.adminGrants
    policy
    paused := payload.paused }

/-- The checks and the steps of a restart: the activities are restored, then the rest, and then the
activities that have ended are failed. -/
structure TakenOver (checkpoint : ActivityCheckpoint) (hash : HashOrder ActivityEvent) (nowMs : ℕ)
    (s restored : DashboardService) (engine : PolicyEngine) (s' : DashboardService) : Prop where
  fits : ¬Oversized checkpoint.payload
  recorded : checkpoint.payload.auditSequence ≤ s.audit.store.lastSequence
  digest : checkpoint.payload.digest = .ok checkpoint.digest
  activities : (restoreActivities checkpoint.payload.activities).exec s = (.ok (), restored)
  pending : ∀ entry ∈ checkpoint.payload.pending.toList,
    entry.2.request.id = entry.1 ∧ entry.2.nonce ≠ "" ∧ entry.2.request.expiresAtMs ≠ 0
  adminGrants : ∀ entry ∈ checkpoint.payload.adminGrants.toList,
    entry.1 ≠ "" ∧ entry.2.expiresAtMs ≠ 0 ∧ entry.2.access.targetHostId = s.localHostId
  policy : (PolicyEngine.restoreCheckpoint checkpoint.payload.policy).exec restored.policy
    = (.ok ⟨⟩, engine)
  reconciled : (reconcile nowMs (hash.order restored.activeActivities)).exec
    (restored.withPayload checkpoint.payload engine) = (.ok (), s')

/-- **What a restart that succeeds has checked and done.** -/
theorem restore_ok (h : (restore checkpoint hash nowMs).exec s = (.ok (), s')) :
    ∃ restored policy, TakenOver checkpoint hash nowMs s restored policy s' := by
  obtain ⟨hfits, h⟩ := exec_throwIf_inv h
  rw [exec_bind_ok (exec_get s)] at h
  obtain ⟨hrecorded, h⟩ := exec_throwIf_inv h
  obtain ⟨_, hdigest, h⟩ := exec_orThrow_inv h
  obtain ⟨hsame, h⟩ := exec_throwIf_inv h
  obtain ⟨⟨⟩, restored, hrestored, h⟩ := exec_bind_inv h
  obtain ⟨hpending, h⟩ := exec_throwIf_inv h
  obtain ⟨hgrants, h⟩ := exec_throwIf_inv h
  rw [exec_bind_ok (exec_modify _ _)] at h
  obtain ⟨⟨⟩, _, hconfigured, h⟩ := exec_bind_inv h
  obtain ⟨policy, hpolicy, rfl⟩ := exec_onPart_inv hconfigured
  rw [exec_bind_ok (exec_modify _ _)] at h
  obtain ⟨_, _, hreconciled, h⟩ := exec_bind_inv h
  cases h
  rw [reconcileAfterRestart, exec_bind_ok (exec_get _)] at hreconciled
  obtain ⟨⟨⟩, _, hfinal, hcount⟩ := exec_bind_inv hreconciled
  cases hcount
  push Not at hpending hgrants
  refine ⟨restored, policy, ⟨hfits, Nat.le_of_not_lt hrecorded, ?_, hrestored, hpending, hgrants,
    hpolicy, hfinal⟩⟩
  rw [hdigest, not_not.1 hsame]

/-- **The activities after a restart.** -/
theorem activities_of_restore (hempty : s.activities = ∅)
    (h : (restore checkpoint hash nowMs).exec s = (.ok (), s')) :
    (∀ event ∈ checkpoint.payload.activities, event.sequence ≠ u64Max ∧
        s'.activities.lookup event.activityId = some (event.restarted nowMs)) ∧
      ∀ id event, s'.activities.lookup id = some event →
        ∃ before ∈ checkpoint.payload.activities, before.activityId = id ∧
          event = before.restarted nowMs := by
  obtain ⟨restored, policy, htaken⟩ := restore_ok h
  obtain ⟨-, -, hall, hother⟩ := restoreActivities_ok htaken.activities
  have hfrom : ∀ id event, restored.activities.lookup id = some event →
      event ∈ checkpoint.payload.activities ∧ event.activityId = id :=
    fun id event hlookup => mem_of_restored hempty htaken.activities hlookup
  have hperm := hash.perm restored.activeActivities
  have hnodup := nodup_activeActivities (fun id event hlookup => (hfrom id event hlookup).2) hash
  obtain ⟨hfailed, hkept⟩ := reconcile_ok htaken.reconciled hnodup
  have hactive : ∀ event, event ∈ hash.order restored.activeActivities ↔
      event ∈ checkpoint.payload.activities ∧ event.isActive = true := by
    intro event
    rw [hperm.mem_iff, activeActivities, List.mem_filter, Map.mem_values]
    constructor
    · rintro ⟨⟨id, hlookup⟩, hstate⟩
      exact ⟨(hfrom id event hlookup).1, hstate⟩
    · rintro ⟨hmem, hstate⟩
      exact ⟨⟨_, (hall event hmem).2.2⟩, hstate⟩
  have hpayload : ∀ event ∈ checkpoint.payload.activities,
      s'.activities.lookup event.activityId = some (event.restarted nowMs) := by
    intro event hmem
    rw [ActivityEvent.restarted]
    split
    · exact hfailed event ((hactive event).2 ⟨hmem, ‹_›⟩)
    · rename_i hidle
      rw [hkept, ← (hall event hmem).2.2]
      · rfl
      · intro hid
        obtain ⟨other, hother, hsame⟩ := List.mem_map.1 hid
        obtain ⟨hother, hstate⟩ := (hactive other).1 hother
        have hlookup := (hall other hother).2.2
        rw [hsame, (hall event hmem).2.2] at hlookup
        cases hlookup
        exact hidle hstate
  refine ⟨fun event hmem => ⟨(hall event hmem).1.2, hpayload event hmem⟩, fun id event hlookup => ?_⟩
  by_cases hid : id ∈ checkpoint.payload.activities.map ActivityEvent.activityId
  · obtain ⟨before, hmem, rfl⟩ := List.mem_map.1 hid
    rw [hpayload before hmem] at hlookup
    exact ⟨before, hmem, rfl, (Option.some.inj hlookup).symm⟩
  · have hnone : restored.activities.lookup id = none := by
      rw [hother id hid, hempty]
      rfl
    have hidle : id ∉ (hash.order restored.activeActivities).map ActivityEvent.activityId := by
      intro hmem
      obtain ⟨other, hother, rfl⟩ := List.mem_map.1 hmem
      exact hid (List.mem_map_of_mem ((hactive other).1 hother).1)
    rw [hkept id hidle] at hlookup
    exact absurd (hnone.symm.trans hlookup) (by simp)

/-! ### Settled activities -/

/-- Nothing is on its way any more, and all else is as a checkpoint holds it. -/
structure Settled (payload : ActivityCheckpointPayload) (s : DashboardService) : Prop where
  landed : ∀ id event, s.activities.lookup id = some event → event.state.isInFlight = false
  ended : ∀ before ∈ payload.activities, before.state.isInFlight = true →
    ∃ after, s.activities.lookup before.activityId = some after ∧ before.Ended after
  kept : ∀ event ∈ payload.activities, event.state.isInFlight = false →
    s.activities.lookup event.activityId = some event
  only : ∀ id event, s.activities.lookup id = some event →
    ∃ before ∈ payload.activities, before.activityId = id
  userRules : (s.policy.rules.filter fun rule => rule.origin = .user)
    = payload.policy.rules.filter fun rule => rule.origin = .user
  approvals : s.policy.approvals = payload.policy.approvals
  pending : s.pending = payload.pending
  adminGrants : s.adminGrants = payload.adminGrants
  paused : s.paused = payload.paused

omit [Sha256] in
theorem userRules_of_restoreCheckpoint {engine checkpoint policy : PolicyEngine}
    (h : (PolicyEngine.restoreCheckpoint checkpoint).exec engine = (.ok ⟨⟩, policy)) :
    (policy.rules.filter fun rule => rule.origin = .user)
        = (checkpoint.rules.filter fun rule => rule.origin = .user) ∧
      policy.approvals = checkpoint.approvals := by
  rcases PolicyEngine.exec_restoreCheckpoint engine checkpoint with ⟨_, hexec⟩ | ⟨-, -, -, hexec⟩
  · rw [hexec] at h
    cases h
  · rw [hexec] at h
    cases h
    refine ⟨?_, rfl⟩
    have hmanaged : (engine.rules.filter isManaged).filter
        (fun rule => rule.origin = .user) = [] := by
      rw [List.filter_filter, List.filter_eq_nil_iff]
      intro rule _ hboth
      rw [Bool.and_eq_true, decide_eq_true_eq, isManaged, decide_eq_true_eq] at hboth
      exact absurd (hboth.1.symm.trans hboth.2) (by decide)
    rw [List.filter_append, hmanaged, List.append_nil, List.filter_filter]
    simp

theorem not_settled_of_reconnecting (hempty : s.activities = ∅)
    (h : (restore checkpoint hash nowMs).exec s = (.ok (), s'))
    (hmem : event ∈ checkpoint.payload.activities) (hstate : event.state = .reconnecting) :
    ¬Settled checkpoint.payload s' := by
  intro hsettled
  have hlookup := ((activities_of_restore hempty h).1 event hmem).2
  have hidle : event.restarted nowMs = event := by
    rw [ActivityEvent.restarted, ActivityEvent.isActive, hstate]
    rfl
  rw [hidle] at hlookup
  have hlanded := hsettled.landed _ _ hlookup
  rw [hstate] at hlanded
  cases hlanded

/-- **A restart that succeeds settles the checkpoint exactly if no activity of it is reconnecting.**
The sequence numbers of a checkpoint fit their type. -/
theorem settled_iff_no_reconnecting {localHostId : HostId} {events : EventJournal}
    {audit : AuditState} {policy : PolicyEngine} {file : CheckpointFile}
    {checkpoint : ActivityCheckpoint} {hash : HashOrder ActivityEvent} {nowMs : ℕ}
    (hnum : ∀ event ∈ checkpoint.payload.activities, event.sequence ≤ u64Max)
    (hok : (newPersistent localHostId events audit policy file (.ok (some checkpoint)) hash nowMs).1
      = .ok ()) :
    Settled checkpoint.payload
        (newPersistent localHostId events audit policy file (.ok (some checkpoint)) hash nowMs).2 ↔
      ∀ event ∈ checkpoint.payload.activities, event.state ≠ .reconnecting := by
  have hexec : (restore checkpoint hash nowMs).exec
      { new localHostId events audit policy with checkpoint := some file } = (.ok (),
        (newPersistent localHostId events audit policy file (.ok (some checkpoint)) hash nowMs).2) :=
    Prod.ext hok rfl
  revert hexec
  generalize (newPersistent localHostId events audit policy file (.ok (some checkpoint)) hash nowMs).2
    = s
  intro hexec
  obtain ⟨hall, honly⟩ := activities_of_restore rfl hexec
  constructor
  · intro hsettled event hmem hstate
    exact not_settled_of_reconnecting rfl hexec hmem hstate hsettled
  · intro hnone
    obtain ⟨restored, engine, htaken⟩ := restore_ok hexec
    have hcore := writes_sameCore.reconcile nowMs (hash.order restored.activeActivities)
      (restored.withPayload checkpoint.payload engine)
    rw [htaken.reconciled] at hcore
    obtain ⟨hrules, happrovals⟩ := userRules_of_restoreCheckpoint htaken.policy
    have hfails : ∀ event ∈ checkpoint.payload.activities, event.state.isInFlight = true →
        event.restarted nowMs = event.failedWith .daemonRestarted nowMs := fun event hmem hflight =>
      if_pos (ActivityEvent.isActive_of_isInFlight hflight (hnone event hmem))
    have hkeeps : ∀ event : ActivityEvent, event.state.isInFlight = false →
        event.restarted nowMs = event := by
      intro event hflight
      refine if_neg fun hactive => ?_
      rw [ActivityEvent.isInFlight_of_isActive hactive] at hflight
      cases hflight
    refine
      { landed := ?_
        ended := ?_
        kept := ?_
        only := fun id event hlookup => ?_
        userRules := (congrArg (fun engine : PolicyEngine => engine.rules.filter _) hcore.policy).trans
          hrules
        approvals := (congrArg PolicyEngine.approvals hcore.policy).trans happrovals
        pending := hcore.pending
        adminGrants := hcore.adminGrants
        paused := hcore.paused }
    · intro id event hlookup
      obtain ⟨before, hmem, -, rfl⟩ := honly id event hlookup
      cases hflight : before.state.isInFlight with
      | true =>
        rw [hfails before hmem hflight]
        rfl
      | false => rwa [hkeeps before hflight]
    · intro before hmem hflight
      obtain ⟨hne, hlookup⟩ := hall before hmem
      have hle := hnum before hmem
      refine ⟨_, hlookup, ?_⟩
      rw [hfails before hmem hflight]
      exact ActivityEvent.ended_failedWith (by omega) nowMs
    · intro event hmem hflight
      rw [(hall event hmem).2, hkeeps event hflight]
    · obtain ⟨before, hmem, hid, -⟩ := honly id event hlookup
      exact ⟨before, hmem, hid⟩

/-! ### A checkpoint with an activity that is reconnecting -/

theorem exec_restore_idle {payload : ActivityCheckpointPayload} (h : OnlyActivities payload)
    (hactivities : payload.activities = [event]) (hvalid : event.validate = .ok ())
    (hsequence : ¬(event.sequence = 0 ∨ event.sequence = u64Max)) (hidle : event.isActive = false)
    (hempty : s.activities = ∅) (hsequences : s.events.activitySequences = ∅)
    (hpolicy : s.policy = PolicyEngine.new)
    (haudit : payload.auditSequence ≤ s.audit.store.lastSequence) (hash : HashOrder ActivityEvent)
    (nowMs : ℕ) : ((restore ⟨payload, digestOf payload⟩ hash nowMs).exec s).1 = .ok () := by
  have hsize : ¬Oversized payload := by
    rintro (hversion | hmany | hmany | hmany)
    · exact hversion h.version
    · exact Nat.not_lt_of_le h.activities_le hmany
    · rw [h.pending] at hmany
      exact absurd hmany (by decide)
    · rw [h.adminGrants] at hmany
      exact absurd hmany (by decide)
  have hnone : s.activities.lookup event.activityId = none := by
    rw [hempty]
    rfl
  have hfree : s.events.activitySequences.lookup event.activityId = none := by
    rw [hsequences]
    rfl
  have hrestored : (restoreActivities payload.activities).exec s =
      (.ok (), { s with
        events := { s.events with
          activitySequences := s.events.activitySequences.insert event.activityId event.sequence }
        activities := s.activities.insert event.activityId event }) := by
    rw [hactivities, restoreActivities, exec_throwIf_bind, if_neg (not_not_intro hvalid),
      exec_bind_ok (exec_get s), exec_throwIf_bind, if_neg (by simp [hnone]), exec_bind, exec_onPart,
      EventJournal.exec_restoreActivitySequence, if_neg hsequence, if_neg, if_neg]
    · rfl
    · rintro ⟨_, hexisting, -⟩
      rw [hfree] at hexisting
      cases hexisting
    · rintro ⟨hfull, -⟩
      rw [hsequences] at hfull
      exact absurd hfull (by decide)
  have hpending : ¬∃ entry ∈ payload.pending.toList, entry.2.request.id ≠ entry.1 ∨
      entry.2.nonce = "" ∨ entry.2.request.expiresAtMs = 0 := by
    rw [h.pending]
    rintro ⟨entry, hentry, -⟩
    exact absurd hentry List.not_mem_nil
  have hgrants : ¬∃ entry ∈ payload.adminGrants.toList, entry.1 = "" ∨ entry.2.expiresAtMs = 0 ∨
      entry.2.access.targetHostId ≠ s.localHostId := by
    rw [h.adminGrants]
    rintro ⟨entry, hentry, -⟩
    exact absurd hentry List.not_mem_nil
  have hengine : (PolicyEngine.restoreCheckpoint payload.policy).exec s.policy
      = (.ok ⟨⟩, PolicyEngine.new) := by
    rw [h.policy, hpolicy]
    rfl
  rw [restore, exec_throwIf_bind, if_neg hsize, exec_bind_ok (exec_get s), exec_throwIf_bind,
    if_neg (Nat.not_lt_of_le haudit), exec_orThrow_bind, h.digest_eq]
  dsimp only
  rw [exec_throwIf_bind, if_neg (not_not_intro rfl), exec_bind_ok hrestored, exec_throwIf_bind,
    if_neg hpending, exec_throwIf_bind, if_neg hgrants, exec_bind_ok (exec_modify _ _), exec_bind,
    exec_onPart, hengine]
  dsimp only [Except.mapError]
  rw [exec_bind_ok (exec_modify _ _), reconcileAfterRestart, exec_bind, exec_bind_ok (exec_get _)]
  -- The restart looks for nothing.
  have hnobody : ∀ s : DashboardService, s.activities = Map.insert ∅ event.activityId event →
      hash.order s.activeActivities = [] := by
    intro s hs
    have hactive : s.activeActivities = [] := by
      rw [activeActivities, hs, List.filter_eq_nil_iff]
      intro other hother
      rw [List.mem_singleton.1 (hother : other ∈ [event])]
      exact Bool.eq_false_iff.1 hidle
    have hperm := hash.perm s.activeActivities
    rw [hactive] at hperm ⊢
    exact hperm.eq_nil
  rw [hnobody _ (by rw [hempty])]
  rfl

def HasWritten (s : DashboardService) (checkpoint : ActivityCheckpoint) : Prop :=
  ∃ faults, s.checkpoint = some ⟨some checkpoint, faults⟩

/-- Whatever a service writes is settled by a restart that succeeds. -/
def RestartSettles : Prop :=
  ∀ s checkpoint, Reachable s → s.HasWritten checkpoint →
    ∀ epoch snapshotRevision audit policy file hash nowMs,
      (newPersistent s.localHostId (EventJournal.new epoch snapshotRevision) audit policy file
        (.ok (some checkpoint)) hash nowMs).1 = .ok () →
      Settled checkpoint.payload
        (newPersistent s.localHostId (EventJournal.new epoch snapshotRevision) audit policy file
          (.ok (some checkpoint)) hash nowMs).2

theorem started_persistentService : Started persistentService :=
  .newPersistent _ (.withBounds 1 0 Dashboard.maxEvents maxEventBytes) _ _ ⟨none, []⟩ (.ok none)
    ⟨id, fun l => List.Perm.refl l⟩ 0 rfl

def reconnectingEvent : ActivityEvent :=
  EventJournal.sampleEvent.observed 2 .reconnecting unavailableMetrics none 0

def observedKey : String :=
  "observer:" ++ EventJournal.sampleEvent.activityId.text ++ ":" ++ Nat.repr 2 ++ ":"
    ++ ActivityState.reconnecting.debugName

theorem exec_transitionActivity_unaudited {id : ActivityId} {current : ActivityEvent}
    {state : ActivityState} {metrics : MetricSnapshot} {message : Option DisplayMessage}
    (hcurrent : s.activities.lookup id = some current)
    (htransition : validTransition current.state state = true) (hsequence : current.sequence < u64Max)
    (hvalid : (current.observed (current.sequence + 1) state metrics message nowMs).validate = .ok ())
    (hunaudited : state.auditResult = none) :
    (transitionActivity id state metrics message nowMs).exec s =
      (recordActivity (current.observed (current.sequence + 1) state metrics message nowMs)
        ("observer:" ++ id.text ++ ":" ++ Nat.repr (current.sequence + 1) ++ ":" ++ state.debugName)
        >>= fun _ => pure true).exec s := by
  have hne : current.state ≠ state := by
    intro hsame
    rw [hsame] at htransition
    cases state <;> cases htransition
  have hnext : checkedAdd current.sequence 1 = some (current.sequence + 1) := if_pos hsequence
  rw [transitionActivity, exec_bind_ok (exec_get _), hcurrent, exec_okOr_some_bind, exec_ite,
    if_neg hne, exec_throwIf_bind, if_neg (by rw [htransition]; exact Bool.noConfusion), hnext,
    exec_okOr_some_bind, exec_throwIf_bind, if_neg (not_not_intro hvalid), hunaudited]

def queuedService : DashboardService := persistentService.recorded EventJournal.sampleEvent "first"

def reconnectingService : DashboardService := queuedService.recorded reconnectingEvent observedKey

omit [Sha256] in
theorem size_reconnectingEvent : reconnectingEvent.validate = .ok () ∧
    reconnectingEvent.toJson.toVec.length ≤ 2 ^ 18 := by
  have hvalid : reconnectingEvent.validate = .ok () := by rfl
  have hnum : reconnectingEvent.InU64 :=
    { sequence_le := by decide
      occurredAtMs_le := by decide
      metrics := ⟨trivial, trivial, trivial, trivial⟩
      startedAtMs_le := fun t ht => by
        cases ht
        exact Nat.zero_le _
      finishedAtMs_le := fun _ ht => absurd ht (Option.not_mem_none _)
      digest_le := fun _ ht => absurd ht (Option.not_mem_none _) }
  have hlength := ActivityEvent.length_toJson_le hnum hvalid
    (fun _ hm => absurd hm (Option.not_mem_none _))
  exact ⟨hvalid, by omega⟩

theorem exec_queued :
    (recordActivity EventJournal.sampleEvent "first").exec persistentService
        = (.ok (), queuedService) ∧ queuedService.Plain ∧ queuedService.events.Roomy 1 ∧
      queuedService.events = (EventJournal.new 1 0).pushed "first" EventJournal.sampleEvent := by
  have hlength := EventJournal.length_sampleEvent
  have hsize : EventJournal.sampleEvent.toJson.toVec.length ≤ 2 ^ 18 := by omega
  have haccepts := (EventJournal.roomy_new 1 0).accepts (by omega) EventJournal.checkEvent_first hsize
    rfl (by decide) rfl
  have hrecorded := plain_persistentService.recordActivity (by decide) haccepts (by decide)
  exact ⟨hrecorded.1, hrecorded.2, roomy_recorded (EventJournal.roomy_new 1 0) (by omega) hsize _,
    events_recorded (EventJournal.roomy_new 1 0) (by omega) hsize _⟩

theorem exec_reconnecting :
    (transitionActivity EventJournal.sampleEvent.activityId .reconnecting unavailableMetrics none 0).exec
        queuedService = (.ok true, reconnectingService) ∧ reconnectingService.Plain := by
  obtain ⟨hvalid, hsize⟩ := size_reconnectingEvent
  obtain ⟨-, hplain, hroomy, hevents⟩ := exec_queued
  have hfresh : queuedService.events.idempotency.lookup observedKey = none := by
    rw [hevents]
    exact Map.lookup_insert_ne (by decide) _
  have hone : queuedService.events.activitySequences.lookup reconnectingEvent.activityId = some 1 := by
    rw [hevents]
    exact Map.lookup_insert_self _ _ _
  have hchecked := EventJournal.checkEvent_eq_ok hvalid
    (fun _ hmessage => absurd hmessage (Option.not_mem_none _)) (by decide : trim observedKey ≠ "")
    (by decide)
  have haccepts := hroomy.accepts (by omega) hchecked hsize hfresh (by decide) (by rw [hone]; rfl)
  have hlen : (queuedService.activities.insert reconnectingEvent.activityId reconnectingEvent).len
      ≤ 1000 := by
    change ((Map.insert ∅ EventJournal.sampleEvent.activityId EventJournal.sampleEvent).insert
      reconnectingEvent.activityId reconnectingEvent).len ≤ 1000
    decide
  have hrecorded := hplain.recordActivity (by decide) haccepts hlen
  refine ⟨?_, hrecorded.2⟩
  have hcurrent : queuedService.activities.lookup EventJournal.sampleEvent.activityId
      = some EventJournal.sampleEvent := Map.lookup_insert_self _ _ _
  rw [exec_transitionActivity_unaudited hcurrent rfl (by decide) hvalid rfl]
  exact exec_bind_of hrecorded.1 rfl

def singlePayload (event : ActivityEvent) : ActivityCheckpointPayload :=
  { version := 2
    auditSequence := 0
    activities := [event]
    pending := ∅
    adminGrants := ∅
    policy := PolicyEngine.new
    paused := false }

omit [Sha256] in
theorem onlyActivities_singlePayload (hvalid : event.validate = .ok ())
    (hmessage : event.message = none) (hsize : event.toJson.sizeBound ≤ 8000) :
    OnlyActivities (singlePayload event) where
  version := rfl
  auditSequence_le := Nat.zero_le _
  activities_le := Nat.le_of_ble_eq_true rfl
  small other hmem := by
    rw [List.mem_singleton.1 hmem]
    refine ⟨?_, hsize⟩
    rw [EventJournal.toVec_eq_ok.2 ⟨hvalid, fun _ hm => absurd hm (by simp [hmessage]), rfl⟩]
    rfl
  pending := rfl
  adminGrants := rfl
  policy := rfl

theorem hasWritten_reconnectingService : reconnectingService.HasWritten
    ⟨singlePayload reconnectingEvent, digestOf (singlePayload reconnectingEvent)⟩ := by
  have hpayload : queuedService.payloadOf
      (queuedService.activities.insert reconnectingEvent.activityId reconnectingEvent)
      = singlePayload reconnectingEvent := by
    have hsorted : sortedActivities
        (queuedService.activities.insert reconnectingEvent.activityId reconnectingEvent)
        = [reconnectingEvent] := List.mergeSort_singleton _
    rw [payloadOf, hsorted]
    rfl
  refine ⟨[], ?_⟩
  rw [reconnectingService, recorded, hpayload]

theorem newPersistent_singlePayload (hvalid : event.validate = .ok ())
    (hmessage : event.message = none) (hsize : event.toJson.sizeBound ≤ 8000)
    (hsequence : ¬(event.sequence = 0 ∨ event.sequence = u64Max)) (hidle : event.isActive = false)
    (file : CheckpointFile) (hash : HashOrder ActivityEvent) (nowMs : ℕ) :
    (newPersistent sampleService.localHostId (EventJournal.new 1 0) AuditStore.sampleFresh
      PolicyEngine.new file (.ok (some ⟨singlePayload event, digestOf (singlePayload event)⟩)) hash
      nowMs).1 = .ok () :=
  exec_restore_idle (onlyActivities_singlePayload hvalid hmessage hsize) rfl hvalid hsequence hidle rfl
    rfl rfl (Nat.zero_le _) hash nowMs

omit [Sha256] in
/-- An activity that waits for its approval is left as it is. -/
theorem settled_awaiting : letI := EventJournal.eventHash
    let event := { EventJournal.sampleEvent with state := .awaitingApproval }
    Settled (singlePayload event) (newPersistent sampleService.localHostId (EventJournal.new 1 0)
      AuditStore.sampleFresh PolicyEngine.new ⟨none, []⟩
      (.ok (some ⟨singlePayload event, digestOf (singlePayload event)⟩))
      ⟨id, fun l => List.Perm.refl l⟩ 0).2 := by
  let _ := EventJournal.eventHash
  intro event
  have hnum : ∀ other ∈ (singlePayload event).activities, other.sequence ≤ u64Max := by
    intro other hmem
    rw [List.mem_singleton.1 hmem]
    decide
  have hstates : ∀ other ∈ (singlePayload event).activities, other.state ≠ .reconnecting := by
    intro other hmem
    rw [List.mem_singleton.1 hmem]
    exact ActivityState.noConfusion
  have hok := newPersistent_singlePayload (rfl : event.validate = .ok ()) rfl (by decide) (by decide)
    rfl ⟨none, []⟩ ⟨id, fun l => List.Perm.refl l⟩ 0
  exact (settled_iff_no_reconnecting hnum hok).2 hstates

omit [Sha256] in
/-- **A checkpoint with an activity that is reconnecting is not settled by the restart.** -/
theorem not_restartSettles : ¬∃ _ : Sha256, RestartSettles := by
  rintro ⟨_, hsettles⟩
  have hqueued : (ServiceCall.program (.recordActivity EventJournal.sampleEvent "first")).exec
      persistentService = (.ok (), queuedService) := by
    rw [program_recordActivity, exec_queued.1]
  have hlost : (ServiceCall.next (.transitionActivity EventJournal.sampleEvent.activityId
      .reconnecting unavailableMetrics none 0)) queuedService = reconnectingService := by
    rw [ServiceCall.next]
    change ((ServiceCall.dropValue (transitionActivity _ _ _ _ _)).exec queuedService).2 = _
    rw [exec_dropValue, exec_reconnecting.1]
  have hreachable : reconnectingService.Reachable := by
    refine ⟨persistentService, [.recordActivity EventJournal.sampleEvent "first",
      .transitionActivity EventJournal.sampleEvent.activityId .reconnecting unavailableMetrics none 0],
      started_persistentService, ?_⟩
    rw [runCalls_cons, next_of_exec hqueued, runCalls_cons, hlost, runCalls_nil]
  have hok := newPersistent_singlePayload size_reconnectingEvent.1 rfl (by decide) (by decide) rfl
    ⟨none, []⟩ ⟨id, fun l => List.Perm.refl l⟩ 0
  have hrestore : (restore
      ⟨singlePayload reconnectingEvent, digestOf (singlePayload reconnectingEvent)⟩
      ⟨id, fun l => List.Perm.refl l⟩ 0).exec { new sampleService.localHostId (EventJournal.new 1 0)
        AuditStore.sampleFresh PolicyEngine.new with checkpoint := some ⟨none, []⟩ } = (.ok (), _) :=
    Prod.ext hok rfl
  refine not_settled_of_reconnecting rfl hrestore (List.mem_singleton_self _) rfl ?_
  exact hsettles reconnectingService _ hreachable hasWritten_reconnectingService 1 0
    AuditStore.sampleFresh PolicyEngine.new ⟨none, []⟩ ⟨id, fun l => List.Perm.refl l⟩ 0 hok

end DashboardService

end Dashboard
