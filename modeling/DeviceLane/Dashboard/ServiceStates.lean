/-
**The states of the records that the calls write.**

Each call of the service puts records in a few states only. A call that fails before its event has been
published leaves the records; what it has appended to the audit store stays there.

Main definitions:

* `Dashboard.ServiceCall.states` — the states of the records that a call may put.

Main results:

* `Dashboard.ServiceCall.state_mem_of_puts` — **a call puts records in its own states only**.
-/

import DeviceLane.Dashboard.ServiceIdentities

namespace Dashboard

open Effect

namespace DashboardService

variable [Sha256]

variable {s t : DashboardService} {nowMs : ℕ} {id : ActivityId}

/-! ### The audit records of a cancellation -/

structure AuditsAlike (s t : DashboardService) : Prop where
  audit : s.audit = t.audit
  nextAuditSequence : s.nextAuditSequence = t.nextAuditSequence
  auditHealthy : s.auditHealthy = t.auditHealthy

theorem AuditsAlike.appendAudit (h : AuditsAlike s t) (record : RawAuditRecord) :
    ((appendAudit record).exec s).1 = ((appendAudit record).exec t).1 ∧
      AuditsAlike ((appendAudit record).exec s).2 ((appendAudit record).exec t).2 := by
  obtain ⟨haudit, hnext, hhealthy⟩ := h
  rw [exec_appendAudit, exec_appendAudit, haudit, hnext, hhealthy]
  split
  · exact ⟨rfl, haudit, hnext, hhealthy⟩
  split
  · exact ⟨rfl, rfl, rfl, rfl⟩
  · split
    · exact ⟨rfl, rfl, rfl, rfl⟩
    · exact ⟨rfl, rfl, rfl, rfl⟩

theorem AuditsAlike.auditAccessFromEvent (h : AuditsAlike s t) (event : ActivityEvent)
    (result : AuditResult) (message : Option MessageCode) (nowMs : ℕ) :
    ((auditAccessFromEventWithMessage event result message nowMs).exec s).1
        = ((auditAccessFromEventWithMessage event result message nowMs).exec t).1 ∧
      AuditsAlike ((auditAccessFromEventWithMessage event result message nowMs).exec s).2
        ((auditAccessFromEventWithMessage event result message nowMs).exec t).2 := by
  rw [auditAccessFromEventWithMessage, exec_bind_ok (exec_get s), exec_bind_ok (exec_get t),
    h.nextAuditSequence]
  exact h.appendAudit _

/-- An audit store that takes the attempt of a cancellation takes its result as well. -/
def AuditsCancel (s : DashboardService) (current : ActivityEvent) (nowMs : ℕ) : Prop :=
  ((auditAccessFromEvent current .attempted nowMs).exec s).1 = .ok () →
    ((auditAccessFromEventWithMessage current .cancelled (some .operationCancelled) nowMs).exec
      ((auditAccessFromEvent current .attempted nowMs).exec s).2).1 = .ok ()

theorem AuditsCancel.congr {current : ActivityEvent} (h : s.AuditsCancel current nowMs)
    (hsame : AuditsAlike t s) : t.AuditsCancel current nowMs := by
  obtain ⟨hfirst, hafter⟩ := hsame.auditAccessFromEvent current .attempted none nowMs
  intro hattempted
  have hresult := (hafter.auditAccessFromEvent current .cancelled (some .operationCancelled) nowMs).1
  exact hresult.trans (h (hfirst.symm.trans hattempted))

/-! ### Cancellations that are refused -/

theorem fails_recordActivity (event : ActivityEvent) (idempotencyKey : String) :
    FailsWithin SameActivities (recordActivity event idempotencyKey) := by
  intro _ _ hfail
  rw [exec_recordActivity] at hfail ⊢
  split at hfail
  · rfl
  · cases hfail
  · split at hfail
    · rfl
    · cases hfail

/-- Where the audit store takes both records, a cancellation that does not succeed leaves the records. -/
theorem cancelActivityInner_refused
    (haudits : ∀ current, s.activities.lookup id = some current → current.state.isTerminal = false →
      s.AuditsCancel current nowMs) (hrefused : ((cancelActivityInner id nowMs).exec s).1 ≠ .ok true) :
    ((cancelActivityInner id nowMs).exec s).2.activities = s.activities := by
  rw [cancelActivityInner, exec_bind_ok (exec_get s)] at hrefused ⊢
  cases hlookup : s.activities.lookup id with
  | none => rfl
  | some current =>
    rw [hlookup] at hrefused
    dsimp only at hrefused ⊢
    rw [exec_ite] at hrefused ⊢
    split
    · rfl
    rename_i hactive
    rw [if_neg hactive] at hrefused
    rw [Bool.not_eq_true] at hactive
    have hboth := haudits current hlookup hactive
    rw [AuditsCancel] at hboth
    have hkept : ((auditAccessFromEvent current .attempted nowMs).exec s).2.activities = s.activities :=
      Within.get (fun s => sameActivities_appendAudit _ s) s
    rcases hattempted : (auditAccessFromEvent current .attempted nowMs).exec s with ⟨outcome, s₁⟩
    rw [hattempted] at hboth hkept
    cases outcome with
    | error =>
      rw [exec_bind_error hattempted]
      exact hkept
    | ok u =>
      rw [exec_bind_ok hattempted] at hrefused ⊢
      rcases hrecorded : (recordActivity (current.cancelled nowMs) ("cancel:" ++ id.text)).exec s₁
        with ⟨outcome, s₂⟩
      rw [exec_bind_ok (exec_attempt_of hrecorded)] at hrefused ⊢
      cases outcome with
      | error fault =>
        have hunpublished := fails_recordActivity (current.cancelled nowMs) ("cancel:" ++ id.text)
          s₁ fault (congrArg Prod.fst hrecorded)
        rw [hrecorded] at hunpublished
        have hfailed : Within SameActivities (do
            auditAccessFromEvent current .failed nowMs
            (throw fault : ServiceEff Bool)) :=
          Within.bind (sameActivities_auditAccessFromEvent _ _ _ _) fun _ => .throw _
        exact (hfailed s₂).trans (hunpublished.trans hkept)
      | ok =>
        -- Both records have been appended, and the cancellation has succeeded.
        have hsame := sameAudit_recordActivity (current.cancelled nowMs) ("cancel:" ++ id.text) s₁
        rw [hrecorded] at hsame
        have halike : AuditsAlike s₂ s₁ :=
          ⟨hsame.audit, hsame.nextAuditSequence, hsame.auditHealthy⟩
        have hok := (halike.auditAccessFromEvent current .cancelled (some .operationCancelled)
          nowMs).1.trans (hboth rfl)
        refine absurd ?_ hrefused
        rw [exec_bind_ok (Prod.ext hok rfl)]
        rfl

theorem cancelActivity_refused (haudits : s.IsAuthorized (.cancelActivity id nowMs) → ∀ current,
      s.activities.lookup id = some current → current.state.isTerminal = false →
        s.AuditsCancel current nowMs) (hrefused : ((cancelActivity id nowMs).exec s).1 ≠ .ok true) :
    ((cancelActivity id nowMs).exec s).2.activities = s.activities := by
  rcases hauthorize : (authorizeAdmin ⟨"devicelane.activity.cancel", idText_activityCancel⟩
      .deviceLaneService none nowMs).exec s with ⟨outcome, s₁⟩
  have hkept : s₁.activities = s.activities := by
    have hsame := sameActivities_authorizeAdmin ⟨"devicelane.activity.cancel", idText_activityCancel⟩
      .deviceLaneService none nowMs s
    rwa [hauthorize] at hsame
  cases outcome with
  | error =>
    rw [cancelActivity, exec_bind_error hauthorize]
    exact hkept
  | ok =>
    rw [cancelActivity, exec_bind_ok hauthorize] at hrefused ⊢
    obtain ⟨⟨_, _, rfl⟩, -, -, -⟩ := authorizeAdmin_ok hauthorize
    have hauthorized : s.IsAuthorized (.cancelActivity id nowMs) := by
      intro _ hask
      cases hask
      exact congrArg Prod.fst hauthorize
    refine cancelActivityInner_refused (fun current hlookup hactive => ?_) hrefused
    exact (haudits hauthorized current hlookup hactive).congr ⟨rfl, rfl, rfl⟩

theorem sameActivities_of_not_announced
    (h : ¬s.Announced ⟨"devicelane.service.pause", idText_servicePause⟩ remoteAccessPause nowMs)
    (existing : ExistingJobs) (hash : HashOrder ActivityId) :
    ((ServiceCall.pause existing hash nowMs).next s).activities = s.activities := by
  have hprogram : ServiceCall.program (.pause existing hash nowMs) = _ := (bind_assoc _ _ _).symm
  have hkept : Within SameActivities (do
      authorizeAdmin ⟨"devicelane.service.pause", idText_servicePause⟩ .deviceLaneService none nowMs
      auditLocal remoteAccessPause .attempted nowMs : ServiceEff Unit) :=
    Within.bind (sameActivities_authorizeAdmin _ _ _ _) fun _ => sameActivities_auditLocal _ _ _
  have hsame := hkept s
  rw [Announced] at h
  rw [ServiceCall.next, hprogram]
  revert h hsame
  generalize hannounce : (do
    authorizeAdmin ⟨"devicelane.service.pause", idText_servicePause⟩ .deviceLaneService none nowMs
    auditLocal remoteAccessPause .attempted nowMs : ServiceEff Unit) = announce
  intro h hsame
  rcases hexec : announce.exec s with ⟨outcome, _⟩
  rw [hexec] at h hsame
  cases outcome with
  | error =>
    rw [exec_bind_error hexec]
    exact hsame
  | ok => exact absurd rfl h

/-! ### Decisions that fail -/

def KeepsQueue (s s' : DashboardService) : Prop :=
  ∀ id record, s'.activities.lookup id = some record → record.state = .queued →
    s.activities.lookup id = some record

instance : Std.Refl KeepsQueue := ⟨fun _ _ _ hlookup _ => hlookup⟩

instance : IsTrans DashboardService KeepsQueue where
  trans _ _ _ h h' id record hlookup hqueued := h id record (h' id record hlookup hqueued) hqueued

section

omit [Sha256]

theorem SameActivities.keepsQueue {s' : DashboardService} (h : SameActivities s s') :
    KeepsQueue s s' := by
  intro _ _ hlookup _
  rwa [h] at hlookup

theorem keepsQueue_of_within {α : Type} {m : ServiceEff α} (h : Within SameActivities m) :
    Within KeepsQueue m :=
  fun s => (h s).keepsQueue

theorem mem_of_validTransition {current state : ActivityState}
    (h : validTransition current state = true) :
    state ∈ [ActivityState.running, .reconnecting, .succeeded, .failed] := by
  cases state with
  | awaitingApproval | queued | denied | cancelled => cases current <;> cases h
  | _ => simp

end

theorem keepsQueue_recordActivity {event : ActivityEvent} (hstate : event.state ≠ .queued)
    (idempotencyKey : String) : Within KeepsQueue (recordActivity event idempotencyKey) := by
  have hput : ∀ (s s' : DashboardService),
      s'.activities = s.activities.insert event.activityId event → KeepsQueue s s' := by
    intro s s' hactivities _ _ hlookup hqueued
    rw [hactivities, Map.lookup_insert] at hlookup
    split at hlookup
    · cases hlookup
      exact absurd hqueued hstate
    · exact hlookup
  intro s
  rw [exec_recordActivity]
  split
  · exact Std.Refl.refl _
  · exact hput _ _ rfl
  · split
    · exact SameActivities.keepsQueue rfl
    · exact hput _ _ rfl

theorem keepsQueue_transitionActivity (id : ActivityId) (state : ActivityState)
    (metrics : MetricSnapshot) (message : Option DisplayMessage) (nowMs : ℕ) :
    Within KeepsQueue (transitionActivity id state metrics message nowMs) := by
  refine Within.get fun s => Within.bind (R := KeepsQueue) (.okOr _ _) (fun current => ?_) s
  split
  · exact .pure _
  intro t
  rw [exec_throwIf_bind]
  split
  · exact Std.Refl.refl _
  rename_i hvalid
  rw [Bool.not_eq_false] at hvalid
  have hstate : state ≠ .queued := by
    rintro rfl
    have hmem := mem_of_validTransition hvalid
    simp at hmem
  refine Within.bind (R := KeepsQueue) (.okOr _ _) (fun sequence => ?_) t
  refine Within.bind (.throwIf _ _) fun _ => ?_
  have hrecorded : Within KeepsQueue (do
      recordActivity (current.observed sequence state metrics message nowMs)
        ("observer:" ++ id.text ++ ":" ++ Nat.repr sequence ++ ":" ++ state.debugName)
      pure true) :=
    Within.bind (keepsQueue_recordActivity hstate _) fun _ => .pure _
  split
  · exact hrecorded
  · exact Within.bind (keepsQueue_of_within (sameActivities_auditAccessFromEvent _ _ _ _)) fun _ =>
      hrecorded

theorem keepsQueue_refuseDecision (entry : Option (ApprovalId × Pending)) (access : AccessRequest)
    (effect : PolicyEffect) (error : ApprovalError) (nowMs : ℕ) :
    Within KeepsQueue (refuseDecision entry access effect error nowMs) := by
  rw [refuseDecision]
  split
  · refine Within.bind (.modify fun _ _ _ hlookup _ => hlookup) fun _ => ?_
    exact Within.bind (keepsQueue_transitionActivity _ _ _ _ _) fun _ => .throw _
  · exact Within.bind (keepsQueue_of_within (sameActivities_auditAccess _ _ _ _)) fun _ => .throw _

theorem keepsQueue_applyDecision (nonce : String) (entry : Option (ApprovalId × Pending))
    (access : AccessRequest) (effect : PolicyEffect) (createdRule : Option PolicyRule)
    (nextPolicy : PolicyEngine) (nowMs : ℕ) :
    FailsWithin KeepsQueue
      (applyDecision nonce entry access effect createdRule nextPolicy nowMs) := by
  refine .get fun s e hfail => ?_
  rw [exec_bind_ok (exec_modify _ s), exec_bind_ok (exec_attempt _ _)] at hfail ⊢
  generalize hevent : accessEvent access (s.nextSequence access.activityId) nowMs _ _ _ _ _ = event
    at hfail ⊢
  have hunpublished := fails_recordActivity event ("approval-decision:" ++ nonce)
    { s with
      policy := nextPolicy
      pending := erasePending entry s.pending
      adminGrants := s.grantsAfter nonce entry access effect nowMs }
  revert hunpublished hfail
  generalize (recordActivity event ("approval-decision:" ++ nonce)).exec _ = published
  rcases published with ⟨result, s'⟩
  intro hfail hunpublished
  cases result with
  | ok => cases hfail
  | error fault =>
    dsimp only
    rw [exec_bind_ok (exec_modify _ s')]
    have hsame : s'.activities = s.activities := hunpublished fault rfl
    have hfailed : Within SameActivities (do
        auditAccess access effect .failed nowMs
        (throw fault : ServiceEff (Option PolicyRule))) :=
      Within.bind (sameActivities_auditAccess _ _ _ _) fun _ => .throw _
    exact SameActivities.keepsQueue ((hfailed _).trans hsame)

/-- **A decision that fails lets nothing through.** -/
theorem keepsQueue_decideApproval (nonce : String) (session : AuthenticatedTargetSession)
    (access : AccessRequest) (decision : ApprovalDecision) (nowMs : ℕ) :
    FailsWithin KeepsQueue (decideApproval nonce session access decision nowMs) := by
  have haudited : ∀ effect result, Within KeepsQueue (auditAccess access effect result nowMs) :=
    fun _ _ => keepsQueue_of_within (sameActivities_auditAccess _ _ _ _)
  have hundenied : FailsWithin KeepsQueue (decideUndenied nonce session access decision nowMs) := by
    refine .get fun s e => FailsWithin.bind_within (R := KeepsQueue) (haudited _ _) (fun _ => ?_) s e
    split
    · exact .of_within (.throw _)
    · exact .of_within (keepsQueue_refuseDecision _ _ _ _ _)
    · exact keepsQueue_applyDecision _ _ _ _ _ _ _
  refine .get fun s e => FailsWithin.bind_within (R := KeepsQueue) (.throwIf _ _) (fun _ => ?_) s e
  split
  · exact .of_within (Within.bind (haudited _ _) fun _ => .throw _)
  · exact hundenied
  · exact hundenied
  · exact hundenied

theorem Started.not_queued (h : Started s) {record : ActivityEvent}
    (hlookup : s.activities.lookup id = some record) : record.state ≠ .queued := by
  cases h with
  | new => cases hlookup
  | newPersistent localHostId hevents audit policy file read hash nowMs hok =>
    cases read with
    | error => cases hok
    | ok read =>
      cases read with
      | none => cases hlookup
      | some =>
        obtain ⟨before, -, -, rfl⟩ :=
          (activities_of_restore rfl (Prod.ext hok rfl)).2 id record hlookup
        rw [ActivityEvent.restarted]
        split
        · exact fun heq => by cases heq
        · rename_i hidle
          intro hqueued
          exact hidle (ActivityEvent.isActive_of_isInFlight (by rw [hqueued]; rfl)
            (by rw [hqueued]; exact ActivityState.noConfusion))

end DashboardService

/-! ### The states that are put -/

namespace ServiceCall

def states : ServiceCall → List ActivityState
  | recordPreapprovalTargetOffline _ _ | recordAuditUnavailableTerminal _ _ _
  | reconcileAfterRestart _ _ => [.failed]
  | requestApproval _ _ _ _ | requestAdminMutationApproval _ _ _ _ => [.denied, .awaitingApproval]
  | decideApproval _ _ _ _ _ | decidePendingApproval _ _ _ _ => [.denied, .queued, .failed]
  | putPolicyRule _ _ | putPolicyRuleExact _ _ _ | deletePolicyRule _ _
  | deletePolicyRuleIfRevision _ _ _ | pause .finish _ _ | resume _ => [.succeeded]
  | transitionActivity _ _ _ _ _ => [.running, .reconnecting, .succeeded, .failed]
  | cancelActivity _ _ => [.cancelled]
  | pause .cancel _ _ => [.cancelled, .succeeded]
  | recordActivity event _ => [event.state]
  | deleteAudit _ _ | deleteAuditExact _ _ _ | applyConnectionChange _ _ _ | acknowledge _ _ _
  | readEvents _ => []

variable [Sha256] {s : DashboardService} {current : Option ActivityEvent} {event : ActivityEvent}

theorem state_mem_of_requestPut {access : AccessRequest} {nowMs : ℕ}
    (h : s.RequestPut access nowMs current event) :
    event.state ∈ [ActivityState.denied, .awaitingApproval] := by
  rcases h.state with hstate | hstate <;> simp [hstate]

theorem state_mem_of_decisionPut {nonce : String} {session : AuthenticatedTargetSession}
    {access : AccessRequest} {decision : ApprovalDecision} {nowMs : ℕ}
    (h : s.DecisionPut nonce session access decision nowMs current event) :
    event.state ∈ [ActivityState.denied, .queued, .failed] := by
  cases h with
  | decided _ _ _ _ _ _ hstate =>
    rw [hstate]
    split <;> simp
  | expired _ _ _ _ _ _ _ hstate => simp [hstate]

/-- **A call puts records in its own states only.** -/
theorem state_mem_of_puts {call : ServiceCall} (h : call.Puts s current event) :
    event.state ∈ call.states := by
  have hlocal : ∀ {host : HostId} {number : ℕ} {operation : OperationId},
      DashboardService.LocalPut host number operation event → event.state = .succeeded :=
    fun hput => hput.state
  cases call with
  | recordPreapprovalTargetOffline => simp [states, h.2.2]
  | requestApproval => exact state_mem_of_requestPut h
  | requestAdminMutationApproval =>
    obtain ⟨_, -, hput⟩ := h
    exact state_mem_of_requestPut hput
  | decideApproval => exact state_mem_of_decisionPut h
  | decidePendingApproval =>
    obtain ⟨_, -, hput⟩ := h
    exact state_mem_of_decisionPut hput
  | putPolicyRule | putPolicyRuleExact | deletePolicyRule | deletePolicyRuleIfRevision =>
    simp [states, hlocal h]
  | recordActivity put =>
    obtain rfl : event = put := h
    simp [states]
  | transitionActivity =>
    obtain ⟨record, -, hput⟩ := h
    rw [hput.state]
    exact DashboardService.mem_of_validTransition hput.valid
  | recordAuditUnavailableTerminal | cancelActivity | reconcileAfterRestart =>
    obtain ⟨record, -, -, hput⟩ := h
    simp [states, hput.state]
  | pause existing =>
    rcases h with ⟨rfl, record, -, hput⟩ | hput
    · simp [states, hput.state]
    · cases existing <;> simp [states, hlocal hput]
  | resume => simp [states, hlocal h]
  | _ => exact h.elim

end ServiceCall

end Dashboard
