/-
**What is left of a call that fails.**

A change of the policy, a decision, a pause and a resumption are published by an event. Where that
cannot be published the call takes its change back, from what it has kept of the service or, for the
pause, by setting the flag the other way.

Main definitions:

* `Dashboard.DashboardService.SameControls` — the pause and the rules are as they were.

Main results:

* `sameControls_iff_rollsBack` — **a call that fails leaves the pause and the rules as they were exactly
  if it does not set the flag to what it was already**.
-/

import DeviceLane.Dashboard.ServiceJournal

namespace Dashboard

open Effect

variable [Sha256]

namespace DashboardService

variable {s : DashboardService} {m : ServiceEff Unit} {nowMs : ℕ} {operation : OperationId}

/-! ### What has to be restored -/

/-- The pause and the rules are as they were. -/
structure SameControls (s s' : DashboardService) : Prop where
  paused : s'.paused = s.paused
  rules : s'.policy.rules = s.policy.rules

instance : Std.Refl SameControls := ⟨fun _ => ⟨rfl, rfl⟩⟩

instance : IsTrans DashboardService SameControls where
  trans _ _ _ h h' := ⟨h'.paused.trans h.paused, h'.rules.trans h.rules⟩

omit [Sha256] in
theorem SameCore.sameControls {s' : DashboardService} (h : SameCore s s') : SameControls s s' :=
  ⟨h.paused, congrArg PolicyEngine.rules h.policy⟩

theorem spends_sameControls : Spends SameControls where
  appendAudit record := (sameCore_appendAudit record).mono fun _ _ h => h.sameControls
  recordActivity event key := (sameCore_recordActivity event key).mono fun _ _ h => h.sameControls
  persistState activities := (sameCore_persistState activities).mono fun _ _ h => h.sameControls
  adminGrants _ _ := ⟨rfl, rfl⟩

/-! ### The policy -/

omit [Sha256] in
theorem fails_throw {α : Type} (hm : Within SameCore m) (fault : Fault DashboardServiceError) :
    Within SameControls (m >>= fun _ => (throw fault : ServiceEff α)) :=
  Within.bind (hm.mono fun _ _ h => h.sameControls) fun _ => .throw _

/-- **A policy that cannot be published is taken back.** -/
theorem fails_changePolicy {α : Type} (operation : OperationId)
    (m : Eff PolicyEngine PolicyConfigurationError α) (nowMs : ℕ) :
    FailsWithin SameControls (changePolicy operation m nowMs) := by
  refine .bind_within (spends_sameControls.auditLocal _ _ _) fun _ => .get fun s e hfail => ?_
  rcases hexec : m.exec s.policy with ⟨outcome, engine⟩
  rw [hexec] at hfail
  cases outcome with
  | error => exact fails_throw (writes_sameCore.auditLocal _ _ _) _ s
  | ok =>
    dsimp only at hfail ⊢
    rw [exec_bind_ok (exec_modify _ s), exec_bind_ok (exec_attempt _ _)] at hfail ⊢
    have hcore := writes_sameCore.appendLocalEvent operation nowMs { s with policy := engine }
    revert hcore hfail
    generalize (appendLocalEvent operation nowMs).exec _ = published
    rcases published with ⟨result, s'⟩
    intro hfail hcore
    cases result with
    | ok => cases hfail
    | error fault =>
      dsimp only
      rw [exec_bind_ok (exec_modify _ s')]
      have hback : SameControls s { s' with policy := s.policy } := ⟨hcore.paused, rfl⟩
      exact IsTrans.trans _ _ _ hback (fails_throw (writes_sameCore.auditLocal _ _ _) fault _)

theorem fails_putPolicyRuleExact (rule : PolicyRule) (expectedRevision nowMs : ℕ) :
    FailsWithin SameControls (putPolicyRuleExact rule expectedRevision nowMs) := by
  refine .bind_within (.orThrow _ _) fun digest => ?_
  refine .bind_within (spends_sameControls.authorizeAdmin _ _ _ _) fun _ => .get fun s e => ?_
  split
  · exact FailsWithin.bind_within (R := SameControls) (.throwIf _ _)
      (fun _ => fails_changePolicy _ _ _) s e
  · exact FailsWithin.bind_within (R := SameControls) (.throwIf _ _)
      (fun _ => fails_changePolicy _ _ _) s e

theorem fails_deletePolicyRuleExact (id : RuleId) (expectedRevision nowMs : ℕ) :
    FailsWithin SameControls (deletePolicyRuleExact id expectedRevision nowMs) := by
  refine .bind_within (.orThrow _ _) fun digest => ?_
  refine .bind_within (spends_sameControls.authorizeAdmin _ _ _ _) fun _ => .get fun s e => ?_
  refine FailsWithin.bind_within (R := SameControls) (.okOr _ _) (fun current => ?_) s e
  exact .bind_within (.throwIf _ _) fun _ => fails_changePolicy _ _ _

/-! ### Decisions -/

theorem fails_applyDecision (nonce : String) (entry : Option (ApprovalId × Pending))
    (access : AccessRequest) (effect : PolicyEffect) (createdRule : Option PolicyRule)
    (nextPolicy : PolicyEngine) (nowMs : ℕ) :
    FailsWithin SameControls
      (applyDecision nonce entry access effect createdRule nextPolicy nowMs) := by
  refine .get fun s e hfail => ?_
  rw [exec_bind_ok (exec_modify _ s), exec_bind_ok (exec_attempt _ _)] at hfail ⊢
  generalize hevent : accessEvent access (s.nextSequence access.activityId) nowMs _ _ _ _ _ = event
    at hfail ⊢
  have hcore := sameCore_recordActivity event ("approval-decision:" ++ nonce)
    { s with
      policy := nextPolicy
      pending := erasePending entry s.pending
      adminGrants := s.grantsAfter nonce entry access effect nowMs }
  revert hcore hfail
  generalize (recordActivity event ("approval-decision:" ++ nonce)).exec _ = published
  rcases published with ⟨result, s'⟩
  intro hfail hcore
  cases result with
  | ok => cases hfail
  | error fault =>
    dsimp only
    rw [exec_bind_ok (exec_modify _ s')]
    have hback : SameControls s { s' with
        policy := s.policy
        adminGrants := s.adminGrants
        pending := s.pending } := ⟨hcore.paused, rfl⟩
    exact IsTrans.trans _ _ _ hback (fails_throw (writes_sameCore.auditAccess _ _ _ _) fault _)

theorem within_refuseDecision (entry : Option (ApprovalId × Pending)) (access : AccessRequest)
    (effect : PolicyEffect) (error : ApprovalError) (nowMs : ℕ) :
    Within SameControls (refuseDecision entry access effect error nowMs) := by
  refine Within.ite (fun _ => ?_) fun _ => fails_throw (writes_sameCore.auditAccess _ _ _ _) _
  refine Within.bind (.modify fun _ => ⟨rfl, rfl⟩) fun _ => ?_
  exact Within.bind (spends_sameControls.transitionActivity _ _ _ _ _) fun _ => .throw _

/-- **A decision that cannot be published is taken back.** -/
theorem fails_decideApproval (nonce : String) (session : AuthenticatedTargetSession)
    (access : AccessRequest) (decision : ApprovalDecision) (nowMs : ℕ) :
    FailsWithin SameControls (decideApproval nonce session access decision nowMs) := by
  have hundenied : FailsWithin SameControls (decideUndenied nonce session access decision nowMs) := by
    refine .get fun s e => ?_
    refine FailsWithin.bind_within (R := SameControls) (spends_sameControls.auditAccess _ _ _ _)
      (fun _ => ?_) s e
    split
    · exact .of_within (.throw _)
    · exact .of_within (within_refuseDecision _ _ _ _ _)
    · exact fails_applyDecision _ _ _ _ _ _ _
  refine .get fun s e => FailsWithin.bind_within (R := SameControls) (.throwIf _ _) (fun _ => ?_) s e
  split
  · exact .of_within (fails_throw (writes_sameCore.auditAccess _ _ _ _) _)
  · exact hundenied
  · exact hundenied
  · exact hundenied

/-! ### The pause -/

def Sets (value : Bool) (s s' : DashboardService) : Prop :=
  s'.paused = value ∧ s'.policy.rules = s.policy.rules

theorem fails_publishPaused (operation : OperationId) (hm : Within SameCore m) (previous : Bool)
    (nowMs : ℕ) : FailsWithin (Sets previous) (publishPaused operation m previous nowMs) := by
  intro s _ hfail
  rw [publishPaused, exec_bind_ok (exec_attempt _ _)] at hfail ⊢
  have hcore := hm s
  rcases hexec : m.exec s with ⟨result, s'⟩
  rw [hexec] at hfail hcore
  cases result with
  | ok => cases hfail
  | error fault =>
    dsimp only
    rw [exec_bind_ok (exec_modify _ s')]
    have hback := fails_throw (α := Unit) (writes_sameCore.auditLocal operation .failed nowMs) fault
      { s' with paused := previous }
    exact ⟨hback.paused, hback.rules.trans hcore.sameControls.rules⟩

theorem sameControls_publishPaused (hm : Within SameCore m) {previous : Bool}
    (hok : ((publishPaused operation m previous nowMs).exec s).1 = .ok ()) :
    SameControls s ((publishPaused operation m previous nowMs).exec s).2 := by
  rw [publishPaused, exec_bind_ok (exec_attempt _ _)] at hok ⊢
  have hcore := hm s
  rcases hrun : m.exec s with ⟨result, s'⟩
  rw [hrun] at hok hcore
  cases result with
  | ok => exact hcore.sameControls
  | error =>
    dsimp only at hok
    rw [exec_bind_ok (exec_modify _ s')] at hok
    rcases haudit : (auditLocal operation .failed nowMs).exec { s' with paused := previous } with
      ⟨audited, _⟩
    cases audited with
    | ok =>
      rw [exec_bind_ok haudit] at hok
      cases hok
    | error =>
      rw [exec_bind_error haudit] at hok
      cases hok

theorem publishPaused_of_refused {previous : Bool} {s' s'' : DashboardService}
    {fault : Fault DashboardServiceError} (hrefused : m.exec s = (.error fault, s'))
    (haudited : (auditLocal operation .failed nowMs).exec { s' with paused := previous }
      = (.ok (), s'')) : ((publishPaused operation m previous nowMs).exec s).1 = .error fault := by
  rw [publishPaused, exec_bind_ok (exec_attempt_of hrefused)]
  dsimp only
  rw [exec_bind_ok (exec_modify _ _), exec_bind_ok haudited, exec_throw]

/-- The steps before the flag is set: the authorization and the first audit record. -/
def Announced (s : DashboardService) (operation announced : OperationId) (nowMs : ℕ) : Prop :=
  ((do
    authorizeAdmin operation .deviceLaneService none nowMs
    auditLocal announced .attempted nowMs : ServiceEff Unit).exec s).1 = .ok ()

theorem within_announce (operation announced : OperationId) (nowMs : ℕ) :
    Within SameControls (do
      authorizeAdmin operation .deviceLaneService none nowMs
      auditLocal announced .attempted nowMs : ServiceEff Unit) :=
  Within.bind (spends_sameControls.authorizeAdmin _ _ _ _) fun _ => spends_sameControls.auditLocal _ _ _

/-- **A call that sets the flag and fails** has been announced and leaves the flag at its other value,
or it has changed nothing. -/
theorem sameControls_of_announced {announced : OperationId} {rest : ServiceEff Unit} {value : Bool}
    (hrest : FailsWithin (Sets value) rest) {e : Fault DashboardServiceError} (hfail : (((do
      authorizeAdmin operation .deviceLaneService none nowMs
      auditLocal announced .attempted nowMs : ServiceEff Unit) >>= fun _ => rest).exec s).1 = .error e) :
    SameControls s (((do
      authorizeAdmin operation .deviceLaneService none nowMs
      auditLocal announced .attempted nowMs : ServiceEff Unit) >>= fun _ => rest).exec s).2 ↔
        (s.paused = !value → ¬s.Announced operation announced nowMs) := by
  have hsame := within_announce operation announced nowMs s
  rw [Announced]
  revert hfail hsame
  generalize hprogram : (do
    authorizeAdmin operation .deviceLaneService none nowMs
    auditLocal announced .attempted nowMs : ServiceEff Unit) = announce
  intro hfail hsame
  rcases hexec : announce.exec s with ⟨outcome, s₁⟩
  rw [hexec] at hsame
  cases outcome with
  | error =>
    rw [exec_bind_error hexec]
    exact ⟨fun _ _ hok => (by cases hok), fun _ => hsame⟩
  | ok =>
    rw [exec_bind_ok hexec] at hfail ⊢
    obtain ⟨hpaused, hrules⟩ := hrest s₁ e hfail
    constructor
    · intro hback hother _
      rw [hback.paused, hother] at hpaused
      cases value <;> cases hpaused
    · intro hnot
      refine ⟨?_, hrules.trans hsame.rules⟩
      rw [hpaused]
      cases hflag : s.paused <;> cases value <;> first | rfl | exact absurd rfl (hnot hflag)

omit [Sha256] in
theorem fails_set {rest : ServiceEff Unit} {value : Bool} (hrest : FailsWithin (Sets value) rest)
    (set : Bool) :
    FailsWithin (Sets value) (do
      modify fun s => { s with paused := set }
      rest : ServiceEff Unit) := by
  refine FailsWithin.bind (S := fun s s' => s'.policy.rules = s.policy.rules) ?_ ?_ (fun _ => hrest) ?_
  · intro s _ herror
    cases herror
  · intro s u _
    rfl
  · intro s _ u hrules hsets
    exact ⟨hsets.1, hsets.2.trans hrules⟩

theorem fails_pause (existing : ExistingJobs) (hash : HashOrder ActivityId) (nowMs : ℕ) :
    FailsWithin (Sets false) (do
      let s ← get
      if existing = .cancel then
        publishPaused remoteAccessPause (cancelAll nowMs (hash.order s.activities.keys)) false nowMs
      publishPaused remoteAccessPause (appendLocalEvent remoteAccessPause nowMs) false nowMs :
        ServiceEff Unit) := by
  have hlast : FailsWithin (Sets false)
      (publishPaused remoteAccessPause (appendLocalEvent remoteAccessPause nowMs) false nowMs) :=
    fails_publishPaused _ (writes_sameCore.appendLocalEvent _ _) _ _
  refine .get fun s e => ?_
  split
  · refine FailsWithin.bind (R := Sets false) (S := SameControls)
      (fails_publishPaused _ (writes_sameCore.cancelAll _ _) _ _) (fun s _ hok => ?_)
      (fun _ => hlast) (fun s t u h h' => ⟨h'.1, h'.2.trans h.rules⟩) s e
    exact sameControls_publishPaused (writes_sameCore.cancelAll _ _) hok
  · exact hlast s e

end DashboardService

/-! ### The calls -/

namespace ServiceCall

/-- The calls on the pause, the rules and the approvals that are decided. -/
def isControl : ServiceCall → Bool
  | pause _ _ _ | resume _ | putPolicyRuleExact _ _ _ | deletePolicyRuleIfRevision _ _ _
  | decideApproval _ _ _ _ _ => true
  | _ => false

/-- The calls that restore what they have changed where they fail: all but a pause while remote access
is paused, and a resumption while it is not, that have been announced. -/
def RollsBack (s : DashboardService) : ServiceCall → Prop
  | pause _ _ nowMs => s.paused = true →
      ¬s.Announced ⟨"devicelane.service.pause", idText_servicePause⟩ remoteAccessPause nowMs
  | resume nowMs => s.paused = false →
      ¬s.Announced ⟨"devicelane.service.resume", idText_serviceResume⟩ remoteAccessResume nowMs
  | _ => True

end ServiceCall

namespace DashboardService

omit [Sha256] in
theorem fails_dropValue {R : DashboardService → DashboardService → Prop} {α : Type} {m : ServiceEff α}
    (hm : FailsWithin R m) : FailsWithin R (ServiceCall.dropValue m) := by
  intro s _ hfail
  rw [ServiceCall.dropValue, exec_bind] at hfail ⊢
  cases hrun : (m.exec s).1 with
  | ok =>
    rw [hrun] at hfail
    cases hfail
  | error fault => exact hm s fault hrun

theorem sameControls_pause_iff {s : DashboardService} {existing : ExistingJobs}
    {hash : HashOrder ActivityId} {nowMs : ℕ} {e : Fault DashboardServiceError}
    (hfail : ((ServiceCall.program (.pause existing hash nowMs)).exec s).1 = .error e) :
    SameControls s (ServiceCall.next (.pause existing hash nowMs) s) ↔
      ServiceCall.RollsBack s (.pause existing hash nowMs) := by
  rw [ServiceCall.next]
  have hprogram : ServiceCall.program (.pause existing hash nowMs) = _ :=
    (bind_assoc _ _ _).symm
  rw [hprogram] at hfail ⊢
  exact sameControls_of_announced (fails_set (fails_pause existing hash nowMs) true) hfail

/-- **A call that fails leaves the pause and the rules as they were exactly if it does not set the flag
to what it was already.** -/
theorem sameControls_iff_rollsBack {s : DashboardService} {call : ServiceCall}
    (hcall : call.isControl = true) {e : Fault DashboardServiceError}
    (hfail : (call.program.exec s).1 = .error e) :
    SameControls s (call.next s) ↔ call.RollsBack s := by
  cases call with
  | pause existing hash nowMs => exact sameControls_pause_iff hfail
  | resume nowMs =>
    rw [ServiceCall.next]
    have hprogram : ServiceCall.program (.resume nowMs) = _ := (bind_assoc _ _ _).symm
    rw [hprogram] at hfail ⊢
    exact sameControls_of_announced (fails_set
      (fails_publishPaused _ (writes_sameCore.appendLocalEvent _ _) _ _) false) hfail
  | putPolicyRuleExact rule expectedRevision nowMs =>
    exact ⟨fun _ => trivial, fun _ => fails_putPolicyRuleExact _ _ _ s e hfail⟩
  | deletePolicyRuleIfRevision id expectedRevision nowMs =>
    exact ⟨fun _ => trivial, fun _ => fails_dropValue (fails_deletePolicyRuleExact _ _ _) s e hfail⟩
  | decideApproval nonce session access decision nowMs =>
    exact ⟨fun _ => trivial, fun _ => fails_dropValue (fails_decideApproval _ _ _ _ _) s e hfail⟩
  | _ => cases hcall

/-! ### A pause that fails while remote access is paused -/

section

omit [Sha256]

theorem idText_adminAuth1 : IdText ("admin-auth-" ++ Nat.repr 1) := by decide

theorem idText_adminAuth2 : IdText ("admin-auth-" ++ Nat.repr 2) := by decide

theorem idText_admin1 : IdText "admin-1-remote-access-pause" := by decide

theorem idText_admin2 : IdText "admin-2-remote-access-pause" := by decide

end

def firstPause : ActivityId := ⟨"admin-1-remote-access-pause", idText_admin1⟩

def secondPause : ActivityId := ⟨"admin-2-remote-access-pause", idText_admin2⟩

def managedService : DashboardService :=
  new ⟨"host", PolicyEngine.idText_host⟩ (EventJournal.new 1 0) AuditStore.sampleFresh
    ⟨[managedRule], ∅⟩

theorem calm_managedService : managedService.Calm 0 := calm_sampleService.core _ _ _ _

def takenEvent : ActivityEvent :=
  localEvent managedService.localHostId secondPause remoteAccessPause 0

def takenService : DashboardService :=
  { managedService with
    events := managedService.events.pushed "taken" takenEvent
    activities := managedService.activities.insert secondPause takenEvent }

theorem exec_taken :
    (recordActivity takenEvent "taken").exec managedService = (.ok (), takenService) ∧
      takenService.Calm 1 := by
  obtain ⟨hchecked, hlength⟩ := checkEvent_localEvent managedService.localHostId secondPause
    remoteAccessPause (Nat.zero_le u64Max)
  exact calm_managedService.recordActivity (by decide) (hchecked "taken" (by decide) (by decide))
    hlength rfl (by decide : (1 : ℕ) ≠ u64Max) rfl

def pausedService (audit : AuditState) : DashboardService :=
  { takenService with
    audit
    nextAuditSequence := 2
    paused := true
    events := takenService.events.pushed (localKey firstPause.text remoteAccessPause)
      (localEvent takenService.localHostId firstPause remoteAccessPause 0)
    activities := takenService.activities.insert firstPause
      (localEvent takenService.localHostId firstPause remoteAccessPause 0) }

theorem exec_pause_taken (hash : HashOrder ActivityId) :
    ∃ audit, (pause .finish hash 0).exec takenService = (.ok (), pausedService audit) ∧
      (pausedService audit).Calm 3 := by
  obtain ⟨audit, haudited, hcalm⟩ := exec_taken.2.auditLocal (by decide) remoteAccessPause .attempted
    (by decide : 0 < dayMs)
  have hnone : takenService.events.activitySequences.lookup firstPause = none := by
    change (Map.insert ∅ secondPause _).lookup _ = none
    rw [Map.lookup_insert_ne (by decide), Map.lookup_empty]
  have hfresh : takenService.events.idempotency.lookup (localKey firstPause.text remoteAccessPause)
      = none := by
    change (Map.insert ∅ "taken" _).lookup _ = none
    rw [Map.lookup_insert_ne (by decide), Map.lookup_empty]
  have hpublished := (hcalm.core takenService.policy takenService.pending takenService.adminGrants
    true).appendLocalEvent (by decide) (rfl : _ = 1 + 1) (by decide : _ = firstPause.text)
      (by decide) hfresh hnone (Nat.zero_le u64Max)
  refine ⟨audit, ?_, hpublished.2⟩
  have hauthorized := exec_authorizeAdmin_of_managed (s := takenService) (n := 1) rfl rfl
    idText_adminAuth1 ⟨"devicelane.service.pause", idText_servicePause⟩ .deviceLaneService none 0
  rw [pause, exec_bind_ok hauthorized, exec_bind_ok haudited, exec_bind_ok (exec_modify _ _),
    exec_bind_ok (exec_get _)]
  dsimp only
  rw [if_neg (by decide), publishPaused]
  exact exec_bind_of (exec_attempt_of hpublished.1) rfl

theorem exec_appendLocalEvent_again {s : DashboardService} (hnext : s.nextAuditSequence = 2 + 1)
    (hfresh : s.events.idempotency.lookup (localKey secondPause.text remoteAccessPause) = none)
    (hthere : s.events.activitySequences.lookup secondPause = some 1) :
    (appendLocalEvent remoteAccessPause 0).exec s = (.error (.returned .limitExceeded), s) := by
  have hparse : parseId ("admin-" ++ Nat.repr (s.nextAuditSequence - 1) ++ "-"
      ++ remoteAccessPause.text) = .ok secondPause := by
    rw [hnext, Nat.add_sub_cancel]
    exact parseId_of_idText idText_admin2
  have hturn : EventJournal.expectedSequence (s.events.activitySequences.lookup secondPause)
      ≠ some 1 := by
    rw [hthere]
    decide
  obtain ⟨_, hplan⟩ := @EventJournal.plan_of_out_of_turn _ _ _
    (localEvent s.localHostId secondPause remoteAccessPause 0) hfresh hturn
  rw [appendLocalEvent, exec_bind_ok (exec_get _), hparse, exec_bind_ok (exec_orThrow _ _ _)]
  exact exec_recordActivity_refused hplan

theorem exec_pause_again {audit : AuditState} (hcalm : (pausedService audit).Calm 3)
    (hash : HashOrder ActivityId) :
    ((pause .finish hash 0).exec (pausedService audit)).1 = .error (.returned .limitExceeded) ∧
      (pausedService audit).Announced ⟨"devicelane.service.pause", idText_servicePause⟩
        remoteAccessPause 0 := by
  obtain ⟨audit₁, haudited, hcalm₁⟩ := hcalm.auditLocal (by decide) remoteAccessPause .attempted
    (by decide : 0 < dayMs)
  obtain ⟨_, hfailed, -⟩ := (hcalm₁.core managedService.policy managedService.pending
    managedService.adminGrants false).auditLocal (by decide) remoteAccessPause .failed
    (by decide : 0 < dayMs)
  have hauthorized := exec_authorizeAdmin_of_managed (s := pausedService audit) (n := 2) rfl
    rfl idText_adminAuth2 ⟨"devicelane.service.pause", idText_servicePause⟩ .deviceLaneService none 0
  constructor
  · have hfresh : (pausedService audit).events.idempotency.lookup
        (localKey secondPause.text remoteAccessPause) = none := by
      change (Map.insert (Map.insert ∅ "taken" _) (localKey firstPause.text remoteAccessPause)
        _).lookup _ = none
      rw [Map.lookup_insert_ne (by decide), Map.lookup_insert_ne (by decide), Map.lookup_empty]
    have hthere : (pausedService audit).events.activitySequences.lookup secondPause = some 1 := by
      change (Map.insert (Map.insert ∅ secondPause 1) firstPause 1).lookup _ = some 1
      rw [Map.lookup_insert_ne (by decide), Map.lookup_insert_self]
    have hrefused := exec_appendLocalEvent_again (s := { pausedService audit with
      audit := audit₁, nextAuditSequence := 3, paused := true }) rfl hfresh hthere
    rw [pause, exec_bind_ok hauthorized, exec_bind_ok haudited, exec_bind_ok (exec_modify _ _),
      exec_bind_ok (exec_get _)]
    dsimp only
    rw [if_neg (by decide)]
    exact publishPaused_of_refused hrefused hfailed
  · rw [Announced, exec_bind_ok hauthorized, haudited]

/-- A control call that fails leaves the pause and the rules as they were. -/
def FailuresRollBack : Prop :=
  ∀ (s : DashboardService) (call : ServiceCall) (error : DashboardServiceError), s.Reachable →
    call.isControl = true → (call.program.exec s).1 = .error (.returned error) →
    SameControls s (call.next s)

omit [Sha256] in
/-- A pause that fails while remote access is paused resumes it. -/
theorem not_failuresRollBack : ¬∃ _ : Sha256, FailuresRollBack := by
  rintro ⟨_, hrolls⟩
  let hash : HashOrder ActivityId := ⟨fun ids => ids, fun ids => .refl ids⟩
  obtain ⟨audit, hexec, hcalm⟩ := exec_pause_taken hash
  have hpaused : (ServiceCall.pause .finish hash 0).program.exec takenService
      = (.ok (), pausedService audit) := hexec
  have htaken : (ServiceCall.recordActivity takenEvent "taken").program.exec managedService
      = (.ok (), takenService) := exec_taken.1
  have hreachable : (pausedService audit).Reachable := by
    refine ⟨managedService, [.recordActivity takenEvent "taken", .pause .finish hash 0],
      .new _ (.withBounds 1 0 Dashboard.maxEvents maxEventBytes) _ _, ?_⟩
    rw [runCalls_cons, next_of_exec htaken, runCalls_cons, next_of_exec hpaused, runCalls_nil]
  obtain ⟨hfail, hannounced⟩ := exec_pause_again hcalm hash
  have hagain : ((ServiceCall.pause .finish hash 0).program.exec (pausedService audit)).1
      = .error (.returned .limitExceeded) := hfail
  have hsame := hrolls (pausedService audit) (.pause .finish hash 0) _ hreachable rfl hagain
  exact (sameControls_pause_iff hagain).1 hsame rfl hannounced

omit [Sha256] in
/-- A pause that is not authorized changes neither. -/
theorem refusedPause_sameControls : letI := EventJournal.eventHash
    SameControls sampleService
      (ServiceCall.next (.pause .finish ⟨fun ids => ids, fun ids => .refl ids⟩ 0) sampleService) := by
  let _ := EventJournal.eventHash
  have hfail : ((ServiceCall.program (.pause .finish ⟨fun ids => ids, fun ids => .refl ids⟩ 0)).exec
      sampleService).1 = .error (.returned .permissionDenied) := by
    have hrefused := exec_authorizeAdmin_of_no_rules (s := sampleService) (n := 1) rfl rfl rfl
      idText_adminAuth1 ⟨"devicelane.service.pause", idText_servicePause⟩ .deviceLaneService none 0
    exact congrArg Prod.fst (exec_bind_error (Prod.ext hrefused rfl))
  exact (sameControls_iff_rollsBack rfl hfail).2 fun hpaused => absurd hpaused (by decide)

end DashboardService

end Dashboard
