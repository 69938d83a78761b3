/-
**When the writes of the service have room.**

The checkpoint has bounds of its own, and is written with every event. Here is what the service has to
hold for its next checkpoint to fit, whatever grants are spent and whatever audit records are appended in
the meantime, and what follows for an event that the journal accepts. The audit store is taken to work:
the results are about calls after which it still does.

Main definitions:

* `Dashboard.DashboardService.Stores` — the file of the checkpoint has no faults ahead.

Main results:

* `recordActivity_ok` — **an accepted event that has room is recorded**.
-/

import DeviceLane.Dashboard.ServiceAuditLoss
import DeviceLane.Dashboard.ServiceCheckpoints

namespace Dashboard

open Effect

variable [Sha256]

namespace DashboardService

variable {s s' : DashboardService}

/-! ### Room for the checkpoint -/

def GrantsWithin (grants grants' : Map String AdminGrant) : Prop :=
  ∀ nonce grant, grants.lookup nonce = some grant → grants'.lookup nonce = some grant

/-- What a service may write with some activities, when it has spent grants, has appended audit records,
and is paused or not. -/
def payloadWith (s : DashboardService) (activities : Map ActivityId ActivityEvent)
    (grants : Map String AdminGrant) (auditSequence : ℕ) (paused : Bool) :
    ActivityCheckpointPayload :=
  { version := 2
    auditSequence
    activities := sortedActivities activities
    pending := s.pending
    adminGrants := grants
    policy := s.policy
    paused }

structure Writable (payload : ActivityCheckpointPayload) : Prop where
  grants_le : payload.adminGrants.len ≤ 1000
  serializes : payload.Serializes
  size_le : (ActivityCheckpoint.toVec ⟨payload, digestOf payload⟩).length
    ≤ maxActivityCheckpointBytes

structure Fits (s : DashboardService) (activities : Map ActivityId ActivityEvent) : Prop where
  activities_le : activities.len ≤ 1000
  pending_le : s.pending.len ≤ 1000
  writable : ∀ grants auditSequence paused, GrantsWithin grants s.adminGrants →
    auditSequence ≤ u64Max → Writable (s.payloadWith activities grants auditSequence paused)

def Room (s : DashboardService) (activities : Map ActivityId ActivityEvent) : Prop :=
  s.checkpoint = none ∨ s.Fits activities

/-- The file of the checkpoint works. -/
def Stores (s : DashboardService) : Prop := ∀ file ∈ s.checkpoint, file.faults = []

structure SameRoom (s s' : DashboardService) : Prop where
  checkpoint : s'.checkpoint = none ↔ s.checkpoint = none
  pending : s'.pending = s.pending
  policy : s'.policy = s.policy
  grants : GrantsWithin s'.adminGrants s.adminGrants

instance : Std.Refl SameRoom := ⟨fun _ => ⟨Iff.rfl, rfl, rfl, fun _ _ h => h⟩⟩

instance : IsTrans DashboardService SameRoom where
  trans _ _ _ h h' :=
    ⟨h'.checkpoint.trans h.checkpoint, h'.pending.trans h.pending, h'.policy.trans h.policy,
      fun nonce grant hlookup => h.grants nonce grant (h'.grants nonce grant hlookup)⟩

theorem SameRoom.room (h : SameRoom s s') {activities : Map ActivityId ActivityEvent}
    (hroom : s.Room activities) : s'.Room activities := by
  rcases hroom with hnone | hfits
  · exact .inl (h.checkpoint.2 hnone)
  · refine .inr ⟨hfits.activities_le, h.pending ▸ hfits.pending_le, fun grants n paused hwithin hn => ?_⟩
    have hwritable := hfits.writable grants n paused
      (fun nonce grant hlookup => h.grants nonce grant (hwithin nonce grant hlookup)) hn
    rwa [payloadWith, h.pending, h.policy]

theorem written_ok {activities : Map ActivityId ActivityEvent} (hstores : s.Stores)
    (hroom : s.Room activities) (hnext : s.nextAuditSequence - 1 ≤ u64Max) :
    ∃ checkpoint, s.written activities = (.ok (), checkpoint) ∧
      (checkpoint = none ↔ s.checkpoint = none) ∧ ∀ file ∈ checkpoint, file.faults = [] := by
  cases hfile : s.checkpoint with
  | none => exact ⟨none, written_none hfile _, Iff.rfl, fun _ h => absurd h (Option.not_mem_none _)⟩
  | some file =>
    obtain ⟨_, faults⟩ := file
    obtain rfl : faults = [] := hstores _ hfile
    rcases hroom with hnone | hfits
    · rw [hfile] at hnone
      cases hnone
    have hwritable : Writable (s.payloadOf activities) :=
      hfits.writable s.adminGrants (s.nextAuditSequence - 1) s.paused (fun _ _ h => h) hnext
    have hdigest : (s.payloadOf activities).digest = .ok (digestOf (s.payloadOf activities)) := by
      rw [ActivityCheckpointPayload.digest, failIf_bind,
        if_neg (not_not_intro hwritable.serializes)]
      rfl
    refine ⟨_, written_of_fits hfile hfits.activities_le hfits.pending_le hwritable.grants_le hdigest
      hwritable.size_le, by simp, fun file hmem => ?_⟩
    cases hmem
    rfl

/-! ### Recording an event -/

/-- What recording an event has changed. -/
structure Recorded (s : DashboardService) (event : ActivityEvent) (idempotencyKey : String)
    (s' : DashboardService) : Prop extends SameCore s s' where
  events : s'.events = (s.events.opened event).publish idempotencyKey event event.toJson.toVec
    ((s.events.opened event).nextCursorSequence + 1)
  activities : s'.activities = s.activities.insert event.activityId event
  audit : s'.audit = s.audit
  nextAuditSequence : s'.nextAuditSequence = s.nextAuditSequence
  auditHealthy : s'.auditHealthy = s.auditHealthy
  checkpoint : s'.checkpoint = none ↔ s.checkpoint = none
  stores : s'.Stores

/-- **An accepted event that has room is recorded.** -/
theorem recordActivity_ok {event : ActivityEvent} {idempotencyKey : String}
    (haccepts : s.events.Accepts idempotencyKey event event.toJson.toVec) (hstores : s.Stores)
    (hroom : s.Room (s.activities.insert event.activityId event))
    (hnext : s.nextAuditSequence - 1 ≤ u64Max) :
    ∃ s', (recordActivity event idempotencyKey).exec s = (.ok (), s') ∧
      Recorded s event idempotencyKey s' := by
  obtain ⟨_, hwritten, hnone, hworks⟩ := written_ok hstores hroom hnext
  exact ⟨_, exec_recordActivity_accepted haccepts hwritten,
    ⟨⟨rfl, rfl, rfl, rfl, rfl⟩, rfl, rfl, rfl, rfl, rfl, hnone, hworks⟩⟩

omit [Sha256] in
theorem SameCore.sameRoom (h : SameCore s s')
    (hcheckpoint : s'.checkpoint = none ↔ s.checkpoint = none) : SameRoom s s' :=
  ⟨hcheckpoint, h.pending, h.policy, fun _ _ hlookup => by rwa [h.adminGrants] at hlookup⟩

/-! ### The audit store -/

omit [Sha256] in
theorem checkedAdd_inv {a b c : ℕ} (h : checkedAdd a b = some c) : a + b = c := by
  rw [checkedAdd] at h
  split at h
  · cases h
    rfl
  · cases h

structure AuditWorks (s : DashboardService) : Prop where
  healthy : s.auditHealthy = true
  next_lt : s.nextAuditSequence < u64Max

def AuditWorked (s s' : DashboardService) : Prop := s'.AuditWorks → s.AuditWorks

instance : Std.Refl AuditWorked := ⟨fun _ h => h⟩

instance : IsTrans DashboardService AuditWorked where
  trans _ _ _ h h' hworks := h (h' hworks)

theorem fullFrame_auditWorked : FullFrame AuditWorked where
  appendAudit record s := by
    intro hworks
    rw [exec_appendAudit] at hworks
    split at hworks
    · exact hworks
    · have hbefore : s.auditHealthy = true := Bool.eq_true_of_not_eq_false ‹_›
      split at hworks
      · cases hworks.healthy
      · split at hworks
        · exact ⟨hbefore, hworks.next_lt⟩
        · have hnext := hworks.next_lt
          have hadd : s.nextAuditSequence + 1 = _ := checkedAdd_inv ‹checkedAdd _ 1 = some _›
          dsimp only at hnext
          exact ⟨hbefore, by omega⟩
  recordActivity event idempotencyKey s := by
    intro hworks
    rw [exec_recordActivity] at hworks
    split at hworks
    · exact hworks
    · exact ⟨hworks.healthy, hworks.next_lt⟩
    · split at hworks
      · exact ⟨hworks.healthy, hworks.next_lt⟩
      · exact ⟨hworks.healthy, hworks.next_lt⟩
  persistState activities s := by
    intro hworks
    rw [exec_persistState] at hworks
    exact ⟨hworks.healthy, hworks.next_lt⟩
  deleteAudit _ _ _ h := ⟨h.healthy, h.next_lt⟩
  unhealthy _ h := by cases h.healthy
  adminGrants _ _ h := ⟨h.healthy, h.next_lt⟩
  paused _ _ h := ⟨h.healthy, h.next_lt⟩
  rules _ _ h := ⟨h.healthy, h.next_lt⟩
  subscribers _ _ h := ⟨h.healthy, h.next_lt⟩
  core _ _ _ _ h := ⟨h.healthy, h.next_lt⟩

def Audited (s s' : DashboardService) : Prop :=
  ∃ audit, s' = { s with audit, nextAuditSequence := s.nextAuditSequence + 1 }

omit [Sha256] in
/-- A program that appends one audit record, or finds that the audit store does not work. -/
def Audits (m : ServiceEff Unit) : Prop :=
  ∀ s, (∃ s', m.exec s = (.ok (), s') ∧ Audited s s') ∨
    ∃ fault s', m.exec s = (.error fault, s') ∧ ¬s'.AuditWorks

theorem audits_appendAudit (record : RawAuditRecord) : Audits (appendAudit record) := by
  intro s
  rw [exec_appendAudit]
  split
  · rename_i hunhealthy
    exact .inr ⟨_, _, rfl, fun hworks => absurd (hunhealthy.symm.trans hworks.healthy) (by simp)⟩
  split
  · exact .inr ⟨_, _, rfl, fun hworks => absurd hworks.healthy (by simp)⟩
  · split
    · rename_i hfull
      refine .inr ⟨_, _, rfl, fun hworks => ?_⟩
      have hadd : checkedAdd s.nextAuditSequence 1 = some (s.nextAuditSequence + 1) :=
        if_pos hworks.next_lt
      rw [hadd] at hfull
      cases hfull
    · rename_i next hnext
      obtain rfl := checkedAdd_inv hnext
      exact .inl ⟨_, rfl, _, rfl⟩

theorem audits_auditAccessFromEvent (event : ActivityEvent) (result : AuditResult)
    (message : Option MessageCode) (nowMs : ℕ) :
    Audits (auditAccessFromEventWithMessage event result message nowMs) := by
  intro s
  rw [auditAccessFromEventWithMessage, exec_bind_ok (exec_get s)]
  exact audits_appendAudit _ s

theorem audits_auditLocal (operation : OperationId) (result : AuditResult) (nowMs : ℕ) :
    Audits (auditLocal operation result nowMs) := by
  intro s
  rw [auditLocal, exec_bind_ok (exec_get s)]
  exact audits_appendAudit _ s

omit [Sha256] in
/-- **If the audit store works after a program, its first record has been appended.** -/
theorem Audits.bind {m : ServiceEff Unit} (hm : Audits m) {α : Type} {f : Unit → ServiceEff α}
    (hworks : ((m >>= f).exec s).2.AuditWorks) :
    ∃ s', Audited s s' ∧ (m >>= f).exec s = (f ()).exec s' := by
  rcases hm s with ⟨s', hexec, haudited⟩ | ⟨_, s', hexec, hbroken⟩
  · exact ⟨s', haudited, exec_bind_ok hexec⟩
  · rw [exec_bind_error hexec] at hworks
    exact absurd hworks hbroken

omit [Sha256] in
theorem auditWorks_of_bind {α β : Type} {m : ServiceEff α} {f : α → ServiceEff β}
    (hf : ∀ a, Within AuditWorked (f a)) (hworks : ((m >>= f).exec s).2.AuditWorks) :
    (m.exec s).2.AuditWorks := by
  rw [exec_bind] at hworks
  revert hworks
  rcases m.exec s with ⟨outcome, s'⟩
  intro hworks
  cases outcome with
  | ok a => exact hf a s' hworks
  | error => exact hworks

/-! ### The authorization -/

/-- What an authorization that succeeds has changed: grants are gone, and the checkpoint says so. -/
structure Authorized (s s' : DashboardService) : Prop where
  eq : ∃ adminGrants checkpoint, s' = { s with adminGrants, checkpoint }
  grants : GrantsWithin s'.adminGrants s.adminGrants
  checkpoint : s'.checkpoint = none ↔ s.checkpoint = none
  stores : s.Stores → s'.Stores

omit [Sha256] in
theorem authorized_refl (s : DashboardService) : Authorized s s :=
  ⟨⟨s.adminGrants, s.checkpoint, rfl⟩, fun _ _ h => h, Iff.rfl, fun h => h⟩

structure SameFile (s s' : DashboardService) : Prop where
  checkpoint : s'.checkpoint = none ↔ s.checkpoint = none
  stores : s.Stores → s'.Stores

theorem sameFile_persistState (activities : Map ActivityId ActivityEvent) :
    Within SameFile (persistState activities) := by
  intro s
  rw [persistState, exec_bind_ok (exec_get s)]
  cases hfile : s.checkpoint with
  | none => exact ⟨Iff.rfl, fun h => h⟩
  | some file =>
    simp only [exec_throwIf_bind]
    split
    · exact ⟨Iff.rfl, fun h => h⟩
    split
    · exact ⟨Iff.rfl, fun h => h⟩
    cases (s.payloadOf activities).digest with
    | error => exact ⟨Iff.rfl, fun h => h⟩
    | ok =>
      rw [exec_bind_ok (exec_orThrow _ _ _), onCheckpoint, exec_onPart, writeActivityCheckpoint,
        exec_throwIf_bind]
      refine ⟨by simp [hfile], fun hstores written hmem => ?_⟩
      obtain ⟨_, faults⟩ := file
      obtain rfl : faults = [] := hstores _ hfile
      dsimp only at hmem
      cases hmem
      split
      · rfl
      · rfl

theorem spendGrant_ok {request : AccessRequest} {mutationDigest : Option String} {nowMs : ℕ}
    (h : (spendGrant request mutationDigest nowMs).exec s = (.ok (), s')) : Authorized s s' := by
  rw [spendGrant, exec_bind_ok (exec_modify _ _), exec_bind_ok (exec_get _)] at h
  obtain ⟨⟨nonce, grant⟩, -, h⟩ := exec_okOr_inv h
  rw [exec_bind_ok (exec_modify _ _), exec_bind_ok (exec_attempt _ _)] at h
  have hfile := sameFile_persistState s.activities { s with adminGrants :=
    (s.adminGrants.retain fun _ grant => grant.expiresAtMs > nowMs).erase nonce }
  rw [exec_persistState] at h hfile
  split at h
  · cases h
    refine ⟨⟨_, _, rfl⟩, fun nonce' grant' hlookup => ?_, hfile.checkpoint, hfile.stores⟩
    dsimp only at hlookup
    rw [Map.lookup_erase] at hlookup
    split at hlookup
    · cases hlookup
    · rw [Map.lookup_retain, Option.filter_eq_some_iff] at hlookup
      exact hlookup.1
  · rw [exec_bind_ok (exec_modify _ _)] at h
    cases h

/-- **What an authorization that succeeds has changed.** -/
theorem authorizeAdmin_ok {operation : OperationId} {resource : ResourceClass}
    {mutationDigest : Option String} {nowMs : ℕ}
    (h : (authorizeAdmin operation resource mutationDigest nowMs).exec s = (.ok (), s')) :
    Authorized s s' := by
  rw [authorizeAdmin, exec_bind_ok (exec_get s)] at h
  obtain ⟨_, -, h⟩ := exec_orThrow_inv h
  dsimp only at h
  split at h
  · obtain ⟨⟨⟩, _, -, h⟩ := exec_bind_inv h
    cases h
  · split at h
    · cases h
      exact authorized_refl s
    · exact spendGrant_ok h
  · exact spendGrant_ok h
  · cases h

end DashboardService

end Dashboard
