/-
**After the loss of the audit store.**

Once an audit record could not be written the service is not healthy, and stays so. Calls that have to
be audited are refused from then on. But whether the service is healthy is looked at only where a record
is written: an administrative call has spent its grant by then, the deletion of audit records writes none,
and neither does the cancellation of an activity that has ended.

Main definitions:

* `Dashboard.DashboardService.Kept` — what the loss of the store has to leave as it is.

Main results:

* `failsClosed_of_run` — **a run whose calls are all defended fails closed**.
-/

import DeviceLane.Dashboard.ServiceRollback
import DeviceLane.Library.Runs

namespace Dashboard

open Effect Runs

/-! ### The times of the calls -/

def ServiceCall.time : ServiceCall → ℕ
  | recordPreapprovalTargetOffline _ nowMs => nowMs
  | requestApproval _ _ nowMs _ => nowMs
  | requestAdminMutationApproval _ _ nowMs _ => nowMs
  | decideApproval _ _ _ _ nowMs => nowMs
  | decidePendingApproval _ _ _ nowMs => nowMs
  | putPolicyRule _ nowMs => nowMs
  | putPolicyRuleExact _ _ nowMs => nowMs
  | deletePolicyRule _ nowMs => nowMs
  | deletePolicyRuleIfRevision _ _ nowMs => nowMs
  | deleteAudit _ nowMs => nowMs
  | deleteAuditExact _ _ nowMs => nowMs
  | recordActivity _ _ => 0
  | transitionActivity _ _ _ _ nowMs => nowMs
  | recordAuditUnavailableTerminal _ _ nowMs => nowMs
  | cancelActivity _ nowMs => nowMs
  | reconcileAfterRestart _ nowMs => nowMs
  | pause _ _ nowMs => nowMs
  | resume nowMs => nowMs
  | applyConnectionChange _ _ nowMs => nowMs
  | acknowledge _ _ nowMs => nowMs
  | readEvents nowMs => nowMs

def ServiceCall.isGuarded : ServiceCall → Bool
  | recordPreapprovalTargetOffline _ _ | recordActivity _ _ | transitionActivity _ _ _ _ _
  | recordAuditUnavailableTerminal _ _ _ | reconcileAfterRestart _ _ | acknowledge _ _ _
  | readEvents _ => false
  | _ => true

namespace DashboardService

variable {s : DashboardService}

/-! ### What is left as it is -/

/-- The policy, the approvals, the pause and the audit store are as they were, and so are the grants,
but for those that have expired at one of the times. -/
structure Kept (times : List ℕ) (s s' : DashboardService) : Prop where
  policy : s'.policy = s.policy
  pending : s'.pending = s.pending
  paused : s'.paused = s.paused
  audit : s'.audit = s.audit
  auditHealthy : s'.auditHealthy = s.auditHealthy
  granted : ∀ nonce grant, s'.adminGrants.lookup nonce = some grant →
    s.adminGrants.lookup nonce = some grant
  grants : ∀ nonce grant, s.adminGrants.lookup nonce = some grant →
    (∀ t ∈ times, t < grant.expiresAtMs) → s'.adminGrants.lookup nonce = some grant

theorem Kept.refl (s : DashboardService) : Kept [] s s :=
  ⟨rfl, rfl, rfl, rfl, rfl, fun _ _ h => h, fun _ _ h _ => h⟩

theorem Kept.trans {times times' : List ℕ} {s' s'' : DashboardService} (h : Kept times s s')
    (h' : Kept times' s' s'') : Kept (times ++ times') s s'' where
  policy := h'.policy.trans h.policy
  pending := h'.pending.trans h.pending
  paused := h'.paused.trans h.paused
  audit := h'.audit.trans h.audit
  auditHealthy := h'.auditHealthy.trans h.auditHealthy
  granted nonce grant hlookup := h.granted nonce grant (h'.granted nonce grant hlookup)
  grants nonce grant hlookup halive := by
    have hfirst := h.grants nonce grant hlookup (List.forall_mem_append.1 halive).1
    exact h'.grants nonce grant hfirst (List.forall_mem_append.1 halive).2

theorem Kept.at {s' : DashboardService} (h : Kept [] s s') (times : List ℕ) : Kept times s s' where
  policy := h.policy
  pending := h.pending
  paused := h.paused
  audit := h.audit
  auditHealthy := h.auditHealthy
  granted := h.granted
  grants nonce grant hlookup _ := h.grants nonce grant hlookup (List.forall_mem_nil _)

def Frozen (s s' : DashboardService) : Prop := s.auditHealthy = false → Kept [] s s'

instance : Std.Refl Frozen := ⟨fun s _ => .refl s⟩

instance : IsTrans DashboardService Frozen where
  trans _ _ _ h h' hunhealthy :=
    (h hunhealthy).trans (h' ((h hunhealthy).auditHealthy.trans hunhealthy))

variable [Sha256]

theorem exec_appendAudit_unhealthy (h : s.auditHealthy = false) (record : RawAuditRecord) :
    (appendAudit record).exec s = (.error (.returned .auditUnavailable), s) := by
  rw [exec_appendAudit, if_pos h]

theorem writes_frozen : Writes Frozen where
  appendAudit record s h := by
    rw [exec_appendAudit_unhealthy h]
    exact .refl s
  recordActivity event idempotencyKey s _ := by
    rw [exec_recordActivity]
    split
    · exact .refl s
    · exact ⟨rfl, rfl, rfl, rfl, rfl, fun _ _ h => h, fun _ _ h _ => h⟩
    · split
      · exact ⟨rfl, rfl, rfl, rfl, rfl, fun _ _ h => h, fun _ _ h _ => h⟩
      · exact ⟨rfl, rfl, rfl, rfl, rfl, fun _ _ h => h, fun _ _ h _ => h⟩

omit [Sha256] in
theorem frozen_subscribers (s : DashboardService) (subscribers : Map SubscriberId Subscriber) :
    Frozen s { s with events := { s.events with subscribers } } :=
  fun _ => ⟨rfl, rfl, rfl, rfl, rfl, fun _ _ h => h, fun _ _ h _ => h⟩

/-! ### Programs that are refused -/

def Refused {α : Type} (m : ServiceEff α) : Prop :=
  ∀ s, s.auditHealthy = false → ∃ fault, m.exec s = (.error fault, s)

def Still {α : Type} (m : ServiceEff α) : Prop := ∀ s, (m.exec s).2 = s

section

omit [Sha256]

theorem still_orThrow {ε α : Type} (onError : ε → Fault DashboardServiceError) (r : Except ε α) :
    Still (orThrow onError r) := fun _ => rfl

theorem still_okOr {α : Type} (o : Option α) (fault : Fault DashboardServiceError) :
    Still (okOr o fault) := by
  intro _
  cases o with
  | none | some => rfl

theorem still_throwIf (c : Prop) [Decidable c] (fault : Fault DashboardServiceError) :
    Still (throwIf c fault) := by
  intro _
  rw [exec_throwIf]

end

namespace Refused

variable {α β : Type}

section

omit [Sha256]

theorem bind {m : ServiceEff α} (h : Refused m) (f : α → ServiceEff β) : Refused (m >>= f) := by
  intro s hunhealthy
  obtain ⟨fault, hexec⟩ := h s hunhealthy
  exact ⟨fault, exec_bind_error hexec⟩

theorem after {m : ServiceEff α} (h : Still m) {f : α → ServiceEff β} (hf : ∀ a, Refused (f a)) :
    Refused (m >>= f) := by
  intro s hunhealthy
  have hsame := h s
  rcases hexec : m.exec s with ⟨outcome, s'⟩
  rw [hexec] at hsame
  obtain rfl : s' = s := hsame
  cases outcome with
  | error fault => exact ⟨fault, exec_bind_error hexec⟩
  | ok a =>
    rw [exec_bind_ok hexec]
    exact hf a s' hunhealthy

theorem get {f : DashboardService → ServiceEff α} (hf : ∀ s, Refused (f s)) :
    Refused (MonadState.get >>= f) := by
  intro s hunhealthy
  rw [exec_bind_ok (exec_get s)]
  exact hf s s hunhealthy

theorem throw (fault : Fault DashboardServiceError) :
    Refused (MonadExcept.throw fault : ServiceEff α) := fun s _ => ⟨fault, exec_throw fault s⟩

theorem dropValue {m : ServiceEff α} (h : Refused m) : Refused (ServiceCall.dropValue m) := h.bind _

end

end Refused

theorem refused_appendAudit (record : RawAuditRecord) : Refused (appendAudit record) :=
  fun _ h => ⟨_, exec_appendAudit_unhealthy h record⟩

theorem refused_auditAccessWithMessage (access : AccessRequest) (effect : PolicyEffect)
    (result : AuditResult) (message : Option MessageCode) (nowMs : ℕ) :
    Refused (auditAccessWithMessage access effect result message nowMs) :=
  .get fun _ => refused_appendAudit _

theorem refused_auditAccess (access : AccessRequest) (effect : PolicyEffect) (result : AuditResult)
    (nowMs : ℕ) : Refused (auditAccess access effect result nowMs) :=
  refused_auditAccessWithMessage _ _ _ _ _

theorem refused_auditAccessFromEvent (event : ActivityEvent) (result : AuditResult) (nowMs : ℕ) :
    Refused (auditAccessFromEvent event result nowMs) :=
  .get fun _ => refused_appendAudit _

theorem refused_auditLocal (operation : OperationId) (result : AuditResult) (nowMs : ℕ) :
    Refused (auditLocal operation result nowMs) :=
  .get fun _ => refused_appendAudit _

theorem refused_changePolicy {α : Type} (operation : OperationId)
    (m : Eff PolicyEngine PolicyConfigurationError α) (nowMs : ℕ) :
    Refused (changePolicy operation m nowMs) := (refused_auditLocal _ _ _).bind _

theorem refused_createPending (access : AccessRequest) (lifetimeMs nowMs : ℕ) (random : ℕ → Digest) :
    Refused (createPending access lifetimeMs nowMs random) := (refused_auditAccess _ _ _ _).bind _

theorem refused_recordDenied (access : AccessRequest) (nowMs : ℕ) :
    Refused (recordDenied access nowMs) := (refused_auditAccessWithMessage _ _ _ _ _).bind _

theorem refused_requestApproval (access : AccessRequest) (lifetimeMs nowMs : ℕ)
    (random : ℕ → Digest) : Refused (requestApproval access lifetimeMs nowMs random) := by
  refine .get fun s => .after (still_throwIf _ _) fun _ => ?_
  split
  · exact .throw _
  · exact (refused_recordDenied _ _).bind _
  · exact refused_createPending _ _ _ _
  · exact refused_createPending _ _ _ _

theorem refused_requestAdminMutationApproval (mutation : AdminMutation) (lifetimeMs nowMs : ℕ)
    (random : ℕ → Digest) : Refused (requestAdminMutationApproval mutation lifetimeMs nowMs random) := by
  refine .after (still_orThrow _ _) fun digest => .after (still_okOr _ _) fun start => ?_
  refine .after (still_orThrow _ _) fun activityId => .get fun s => ?_
  exact (refused_requestApproval _ _ _ _).bind _

theorem refused_decideUndenied (nonce : String) (session : AuthenticatedTargetSession)
    (access : AccessRequest) (decision : ApprovalDecision) (nowMs : ℕ) :
    Refused (decideUndenied nonce session access decision nowMs) :=
  .get fun _ => (refused_auditAccess _ _ _ _).bind _

theorem refused_decideApproval (nonce : String) (session : AuthenticatedTargetSession)
    (access : AccessRequest) (decision : ApprovalDecision) (nowMs : ℕ) :
    Refused (decideApproval nonce session access decision nowMs) := by
  refine .get fun s => .after (still_throwIf _ _) fun _ => ?_
  split
  · exact (refused_auditAccess _ _ _ _).bind _
  · exact refused_decideUndenied _ _ _ _ _
  · exact refused_decideUndenied _ _ _ _ _
  · exact refused_decideUndenied _ _ _ _ _

theorem refused_decidePendingApproval (approvalId : ApprovalId) (session : AuthenticatedTargetSession)
    (decision : ApprovalDecision) (nowMs : ℕ) :
    Refused (decidePendingApproval approvalId session decision nowMs) :=
  .get fun _ => .after (still_okOr _ _) fun _ => refused_decideApproval _ _ _ _ _

/-! ### Authorizations -/

structure AdminAsk where
  operation : OperationId
  resource : ResourceClass
  mutationDigest : Option String
  nowMs : ℕ

def IsRequest (s : DashboardService) (ask : AdminAsk) (request : AccessRequest) : Prop :=
  ∃ activityId, parseId ("admin-auth-" ++ Nat.repr s.nextAuditSequence) = .ok activityId ∧
    request = adminRequest s.localHostId activityId ask.operation ask.resource

def ManagedAllows (s : DashboardService) (ask : AdminAsk) : Prop :=
  ∃ request ruleId, s.IsRequest ask request ∧
    s.policy.evaluate request ask.nowMs = .ok (.allowed ruleId) ∧
    s.policy.isVerifiedManagedRule ruleId = true

def NeedsGrant (s : DashboardService) (request : AccessRequest) (nowMs : ℕ) : Prop :=
  match s.policy.evaluate request nowMs with
  | .ok (.allowed ruleId) => s.policy.isVerifiedManagedRule ruleId = false
  | .ok (.approvalRequired _) => True
  | _ => False

def TakesGrant (s : DashboardService) (ask : AdminAsk) : Prop :=
  ∃ request nonce grant, s.IsRequest ask request ∧ s.NeedsGrant request ask.nowMs ∧
    s.adminGrants.lookup nonce = some grant ∧ ask.nowMs < grant.expiresAtMs ∧
    grant.covers request ask.mutationDigest = true

theorem exec_spendGrant_uncovered {ask : AdminAsk} {request : AccessRequest}
    (hrequest : s.IsRequest ask request) (hneeds : s.NeedsGrant request ask.nowMs)
    (htakes : ¬s.TakesGrant ask) :
    ∃ fault, ∃ s', (spendGrant request ask.mutationDigest ask.nowMs).exec s = (.error fault, s') ∧
      Kept [ask.nowMs] s s' := by
  let alive := s.adminGrants.retain fun _ grant => grant.expiresAtMs > ask.nowMs
  have halive : ∀ nonce grant, alive.lookup nonce = some grant ↔
      s.adminGrants.lookup nonce = some grant ∧ ask.nowMs < grant.expiresAtMs := by
    intro nonce grant
    rw [Map.lookup_retain, Option.filter_eq_some_iff, decide_eq_true_eq]
  have hnone : findKey id (fun grant => AdminGrant.covers grant request ask.mutationDigest) alive
      = none := by
    refine findKey_of_forall fun nonce grant hlookup => ?_
    obtain ⟨hstored, hexpires⟩ := (halive nonce grant).1 hlookup
    by_contra hcovers
    rw [Bool.not_eq_false] at hcovers
    exact htakes ⟨request, nonce, grant, hrequest, hneeds, hstored, hexpires, hcovers⟩
  refine ⟨.returned .permissionDenied, { s with adminGrants := alive }, ?_, ?_⟩
  · rw [spendGrant, exec_bind_ok (exec_modify _ s), exec_bind_ok (exec_get _)]
    change (okOr (findKey id _ alive) _ >>= _).exec _ = _
    rw [hnone]
    rfl
  · refine ⟨rfl, rfl, rfl, rfl, rfl, fun nonce grant hlookup => ?_, fun nonce grant hlookup ht => ?_⟩
    · exact ((halive nonce grant).1 hlookup).1
    · exact (halive nonce grant).2 ⟨hlookup, ht _ (List.mem_singleton_self _)⟩

/-- **An authorization that spends no grant** is refused, or the management allows the call. -/
theorem exec_authorizeAdmin_unhealthy (h : s.auditHealthy = false) {ask : AdminAsk}
    (htakes : ¬s.TakesGrant ask) :
    (∃ fault, ∃ s', (authorizeAdmin ask.operation ask.resource ask.mutationDigest ask.nowMs).exec s
        = (.error fault, s') ∧ Kept [ask.nowMs] s s') ∨
      s.ManagedAllows ask ∧
        (authorizeAdmin ask.operation ask.resource ask.mutationDigest ask.nowMs).exec s
          = (.ok (), s) := by
  rw [authorizeAdmin, exec_bind_ok (exec_get s), exec_orThrow_bind]
  cases hparse : (parseId ("admin-auth-" ++ Nat.repr s.nextAuditSequence) :
      Except (Fault DashboardServiceError) ActivityId) with
  | error fault => exact Or.inl ⟨fault, s, rfl, (Kept.refl s).at _⟩
  | ok activityId =>
    dsimp only
    have hrequest : s.IsRequest ask
        (adminRequest s.localHostId activityId ask.operation ask.resource) :=
      ⟨activityId, hparse, rfl⟩
    cases hevaluate : s.policy.evaluate
        (adminRequest s.localHostId activityId ask.operation ask.resource) ask.nowMs with
    | error error => exact Or.inl ⟨_, s, rfl, (Kept.refl s).at _⟩
    | ok outcome =>
      cases outcome with
      | denied =>
        obtain ⟨fault, hexec⟩ := (refused_auditAccess (adminRequest s.localHostId activityId
          ask.operation ask.resource) .deny .denied ask.nowMs) s h
        exact Or.inl ⟨fault, s, exec_bind_error hexec, (Kept.refl s).at _⟩
      | approvalRequired =>
        refine Or.inl (exec_spendGrant_uncovered hrequest ?_ htakes)
        rw [NeedsGrant, hevaluate]
        trivial
      | allowed ruleId =>
        dsimp only
        split
        · rename_i hmanaged
          exact Or.inr ⟨⟨_, ruleId, hrequest, hevaluate, hmanaged⟩, rfl⟩
        · rename_i hunmanaged
          refine Or.inl (exec_spendGrant_uncovered hrequest ?_ htakes)
          rw [NeedsGrant, hevaluate]
          exact Bool.eq_false_iff.2 hunmanaged

/-! ### Defended calls -/

def mutationAsk (mutation : AdminMutation) (resource : ResourceClass) (nowMs : ℕ) : Option AdminAsk :=
  match mutation.digest with
  | .error _ => none
  | .ok digest => some ⟨mutation.operationAndResource.1, resource, some digest, nowMs⟩

end DashboardService

open DashboardService in
def ServiceCall.ask [Sha256] : ServiceCall → Option AdminAsk
  | putPolicyRule rule nowMs =>
    mutationAsk (.policyPut rule (rule.revision - 1)) .deviceLanePolicy nowMs
  | putPolicyRuleExact rule expectedRevision nowMs =>
    mutationAsk (.policyPut rule expectedRevision) .deviceLanePolicy nowMs
  | deletePolicyRule id nowMs => mutationAsk (.policyDelete id 0) .deviceLanePolicy nowMs
  | deletePolicyRuleIfRevision id expectedRevision nowMs =>
    mutationAsk (.policyDelete id expectedRevision) .deviceLanePolicy nowMs
  | deleteAudit filter nowMs =>
    mutationAsk (.auditDelete .currentFilter filter) .deviceLanePolicy nowMs
  | deleteAuditExact scope filter nowMs =>
    mutationAsk (.auditDelete scope filter) .deviceLanePolicy nowMs
  | cancelActivity _ nowMs =>
    some ⟨⟨"devicelane.activity.cancel", idText_activityCancel⟩, .deviceLaneService, none, nowMs⟩
  | pause _ _ nowMs =>
    some ⟨⟨"devicelane.service.pause", idText_servicePause⟩, .deviceLaneService, none, nowMs⟩
  | resume nowMs =>
    some ⟨⟨"devicelane.service.resume", idText_serviceResume⟩, .deviceLaneService, none, nowMs⟩
  | applyConnectionChange configuration _ nowMs =>
    mutationAsk (.connectionSet configuration) .deviceLaneService nowMs
  | _ => none

namespace DashboardService

variable [Sha256]

variable {call : ServiceCall} {s : DashboardService}

/-- The calls that write an audit record once they are authorized: not the deletions of audit records,
and of the cancellations those of activities that have not ended. -/
def WritesRecord (s : DashboardService) : ServiceCall → Prop
  | .deleteAudit _ _ | .deleteAuditExact _ _ _ => False
  | .cancelActivity id _ => ∃ current, s.activities.lookup id = some current ∧
      current.state.isTerminal = false
  | _ => True

/-- The calls that meet the check before they have an effect: they spend no grant, and if the management
allows them, they write an audit record. -/
def Defended (s : DashboardService) (call : ServiceCall) : Prop :=
  ∀ ask ∈ call.ask, ¬s.TakesGrant ask ∧ (s.ManagedAllows ask → s.WritesRecord call)

structure Closed (s : DashboardService) (call : ServiceCall) : Prop where
  kept : Kept [call.time] s (call.next s)
  refused : call.isGuarded = true → (call.program.exec s).1 ≠ .ok ()

theorem closed_of_refused (h : s.auditHealthy = false) (hrefused : Refused call.program) :
    Closed s call := by
  obtain ⟨_, hexec⟩ := hrefused s h
  refine ⟨?_, fun _ hok => ?_⟩
  · rw [ServiceCall.next, hexec]
    exact (Kept.refl s).at _
  · rw [hexec] at hok
    cases hok

theorem closed_of_frozen (h : s.auditHealthy = false) (hguarded : call.isGuarded = false)
    (hfrozen : Within Frozen call.program) : Closed s call := by
  refine ⟨(hfrozen s h).at _, fun hcall => ?_⟩
  rw [hguarded] at hcall
  cases hcall

theorem closed_of_error {t : ℕ} (htime : call.time = t) {α : Type} {m : ServiceEff α}
    (hprogram : ∀ fault s', m.exec s = (.error fault, s') →
      call.program.exec s = (.error fault, s'))
    (hexec : ∃ fault s', m.exec s = (.error fault, s') ∧ Kept [t] s s') : Closed s call := by
  obtain ⟨fault, s', hm, hkept⟩ := hexec
  have hcall := hprogram fault s' hm
  refine ⟨?_, fun _ hok => ?_⟩
  · rw [ServiceCall.next, hcall, htime]
    exact hkept
  · rw [hcall] at hok
    cases hok

theorem exec_authorized (h : s.auditHealthy = false) {ask : AdminAsk} (htakes : ¬s.TakesGrant ask)
    {α : Type} {rest : ServiceEff α}
    (hrest : s.ManagedAllows ask → ∃ fault, rest.exec s = (.error fault, s)) :
    ∃ fault s', (authorizeAdmin ask.operation ask.resource ask.mutationDigest ask.nowMs >>=
      fun _ => rest).exec s = (.error fault, s') ∧ Kept [ask.nowMs] s s' := by
  rcases exec_authorizeAdmin_unhealthy h htakes with
    ⟨fault, s', hauthorize, hkept⟩ | ⟨hmanaged, hauthorize⟩
  · exact ⟨fault, s', exec_bind_error hauthorize, hkept⟩
  · obtain ⟨fault, hrefused⟩ := hrest hmanaged
    exact ⟨fault, s, (exec_bind_ok hauthorize).trans hrefused, (Kept.refl s).at _⟩

theorem exec_mutation (h : s.auditHealthy = false) (mutation : AdminMutation)
    (resource : ResourceClass) (nowMs : ℕ) {p : Prop}
    (hdefended : ∀ ask ∈ mutationAsk mutation resource nowMs, ¬s.TakesGrant ask ∧
      (s.ManagedAllows ask → p)) {α : Type} {rest : ServiceEff α}
    (hrest : p → ∃ fault, rest.exec s = (.error fault, s)) :
    ∃ fault s', (orThrow .returned mutation.digest >>= fun digest =>
      authorizeAdmin mutation.operationAndResource.1 resource (some digest) nowMs >>=
        fun _ => rest).exec s = (.error fault, s') ∧ Kept [nowMs] s s' := by
  rw [mutationAsk] at hdefended
  rw [exec_orThrow_bind]
  cases hdigest : mutation.digest with
  | error => exact ⟨_, s, rfl, (Kept.refl s).at _⟩
  | ok =>
    rw [hdigest] at hdefended
    obtain ⟨htakes, hmanaged⟩ := hdefended _ rfl
    exact exec_authorized h htakes fun hallows => hrest (hmanaged hallows)

theorem exec_cancelActivityInner_refused (h : s.auditHealthy = false) {id : ActivityId} {nowMs : ℕ}
    {current : ActivityEvent} (hlookup : s.activities.lookup id = some current)
    (hactive : current.state.isTerminal = false) :
    ∃ fault, (cancelActivityInner id nowMs).exec s = (.error fault, s) := by
  rw [cancelActivityInner, exec_bind_ok (exec_get s), hlookup]
  dsimp only
  rw [hactive, if_neg Bool.false_ne_true]
  exact (refused_auditAccessFromEvent _ _ _).bind _ s h

theorem refused_putExact {rule : PolicyRule} {expectedRevision nowMs : ℕ} : Refused (do
    let s ← get
    match s.policy.rules.find? fun current => current.id = rule.id with
    | some current => throwIf (current.revision ≠ expectedRevision) (.returned .revisionConflict)
    | none => throwIf (expectedRevision ≠ 0) (.returned .revisionConflict)
    changePolicy policyPut (PolicyEngine.putUserRule rule) nowMs) := by
  refine .get fun s => ?_
  split
  · exact .after (still_throwIf _ _) fun _ => refused_changePolicy _ _ _
  · exact .after (still_throwIf _ _) fun _ => refused_changePolicy _ _ _

/-- **A defended call of a service that is not healthy fails closed.** -/
theorem closed_of_defended (h : s.auditHealthy = false) (hdefended : s.Defended call) :
    Closed s call := by
  cases call with
  | recordPreapprovalTargetOffline =>
    exact closed_of_frozen h rfl (writes_frozen.recordPreapprovalTargetOffline _ _)
  | requestApproval =>
    exact closed_of_refused h (refused_requestApproval _ _ _ _).dropValue
  | requestAdminMutationApproval =>
    exact closed_of_refused h (refused_requestAdminMutationApproval _ _ _ _).dropValue
  | decideApproval =>
    exact closed_of_refused h (refused_decideApproval _ _ _ _ _).dropValue
  | decidePendingApproval =>
    exact closed_of_refused h (refused_decidePendingApproval _ _ _ _).dropValue
  | putPolicyRule rule nowMs =>
    exact closed_of_error rfl (fun _ _ hexec => hexec)
      (exec_mutation h (.policyPut rule (rule.revision - 1)) .deviceLanePolicy nowMs hdefended fun _ => refused_putExact s h)
  | putPolicyRuleExact rule expectedRevision nowMs =>
    exact closed_of_error rfl (fun _ _ hexec => hexec)
      (exec_mutation h (.policyPut rule expectedRevision) .deviceLanePolicy nowMs hdefended fun _ => refused_putExact s h)
  | deletePolicyRule id nowMs =>
    have hexec : ∃ fault s', (deletePolicyRule id nowMs).exec s = (.error fault, s') ∧
        Kept [nowMs] s s' :=
      exec_mutation h (.policyDelete id 0) .deviceLanePolicy nowMs hdefended fun _ => refused_changePolicy _ _ _ s h
    exact closed_of_error rfl (fun _ _ hexec => exec_bind_error hexec) hexec
  | deletePolicyRuleIfRevision id expectedRevision nowMs =>
    have hrest : Refused (do
        let s ← get
        let current ← okOr (s.policy.rules.find? fun rule => rule.id = id) (.returned .notFound)
        throwIf (current.revision ≠ expectedRevision) (.returned .revisionConflict)
        deletePolicyRuleAuthorized id nowMs) :=
      .get fun _ => .after (still_okOr _ _) fun _ => .after (still_throwIf _ _) fun _ =>
        refused_changePolicy _ _ _
    have hexec : ∃ fault s', (deletePolicyRuleExact id expectedRevision nowMs).exec s
        = (.error fault, s') ∧ Kept [nowMs] s s' :=
      exec_mutation h (.policyDelete id expectedRevision) .deviceLanePolicy nowMs hdefended fun _ => hrest s h
    exact closed_of_error rfl (fun _ _ hexec => exec_bind_error hexec) hexec
  | deleteAudit filter nowMs =>
    have hexec : ∃ fault s', (deleteAudit filter nowMs).exec s = (.error fault, s') ∧
        Kept [nowMs] s s' :=
      exec_mutation h (.auditDelete .currentFilter filter) .deviceLanePolicy nowMs hdefended fun hwrites : False => hwrites.elim
    exact closed_of_error rfl (fun _ _ hexec => exec_bind_error hexec) hexec
  | deleteAuditExact scope filter nowMs =>
    have hexec : ∃ fault s', (deleteAuditExact scope filter nowMs).exec s = (.error fault, s') ∧
        Kept [nowMs] s s' :=
      exec_mutation h (.auditDelete scope filter) .deviceLanePolicy nowMs hdefended fun hwrites : False => hwrites.elim
    exact closed_of_error rfl (fun _ _ hexec => exec_bind_error hexec) hexec
  | recordActivity =>
    exact closed_of_frozen h rfl (writes_frozen.recordActivity _ _)
  | transitionActivity =>
    exact closed_of_frozen h rfl (within_dropValue (writes_frozen.transitionActivity _ _ _ _ _))
  | recordAuditUnavailableTerminal =>
    refine closed_of_frozen h rfl (within_dropValue
      (writes_frozen.recordAuditUnavailableTerminal (fun s hunhealthy => ?_) _ _ _))
    exact ⟨rfl, rfl, rfl, rfl, hunhealthy.symm, fun _ _ h => h, fun _ _ h _ => h⟩
  | cancelActivity =>
    obtain ⟨htakes, hmanaged⟩ := hdefended _ rfl
    refine closed_of_error rfl (fun _ _ hexec => exec_bind_error hexec)
      (exec_authorized h htakes fun hallows => ?_)
    obtain ⟨current, hlookup, hactive⟩ := hmanaged hallows
    exact exec_cancelActivityInner_refused h hlookup hactive
  | reconcileAfterRestart =>
    exact closed_of_frozen h rfl (within_dropValue (writes_frozen.reconcileAfterRestart _ _))
  | pause | resume =>
    obtain ⟨htakes, -⟩ := hdefended _ rfl
    exact closed_of_error rfl (fun _ _ hexec => hexec)
      (exec_authorized h htakes fun _ => (refused_auditLocal _ _ _).bind _ s h)
  | applyConnectionChange configuration persisted nowMs =>
    exact closed_of_error rfl (fun _ _ hexec => hexec)
      (exec_mutation h (.connectionSet configuration) .deviceLaneService nowMs hdefended fun _ => (refused_auditLocal _ _ _).bind _ s h)
  | acknowledge =>
    exact closed_of_frozen h rfl (within_acknowledge frozen_subscribers _ _ _)
  | readEvents => exact closed_of_frozen h rfl (within_expireIdle frozen_subscribers _)

/-! ### Runs -/

/-- Along a run the service stays unhealthy, nothing is changed, and the calls that have to be audited are
refused. -/
def FailsClosed (s : DashboardService) (calls : List ServiceCall) : Prop :=
  ∀ before after, calls = before ++ after →
    (runCalls before s).auditHealthy = false ∧
      Kept (before.map ServiceCall.time) s (runCalls before s) ∧
      ∀ call ∈ after.head?, call.isGuarded = true →
        (call.program.exec (runCalls before s)).1 ≠ .ok ()

/-- **A run whose calls are all defended fails closed.** -/
theorem failsClosed_of_run {s : DashboardService} (h : s.auditHealthy = false)
    {calls : List ServiceCall}
    (hdefended : AllSteps (fun s call => ServiceCall.next call s) Defended calls s) :
    FailsClosed s calls := by
  induction calls generalizing s with
  | nil =>
    intro before after happend
    obtain ⟨rfl, rfl⟩ := List.append_eq_nil_iff.1 happend.symm
    exact ⟨h, .refl s, fun call hcall => by cases hcall⟩
  | cons call calls ih =>
    have hclosed := closed_of_defended h hdefended.1
    have hnext : (call.next s).auditHealthy = false := hclosed.kept.auditHealthy.trans h
    intro before after happend
    cases before with
    | nil =>
      rw [List.nil_append] at happend
      subst happend
      refine ⟨h, .refl s, fun other hother hguarded => ?_⟩
      cases hother
      exact hclosed.refused hguarded
    | cons first before =>
      rw [List.cons_append, List.cons.injEq] at happend
      obtain ⟨rfl, happend⟩ := happend
      obtain ⟨hunhealthy, hkept, hrefused⟩ := ih hnext hdefended.2 before after happend
      exact ⟨hunhealthy, hclosed.kept.trans hkept, hrefused⟩

/-! ### A deletion after the loss of the store -/

structure SameAudit (s s' : DashboardService) : Prop where
  audit : s'.audit = s.audit
  policy : s'.policy = s.policy
  nextAuditSequence : s'.nextAuditSequence = s.nextAuditSequence
  auditHealthy : s'.auditHealthy = s.auditHealthy

instance : Std.Refl SameAudit := ⟨fun _ => ⟨rfl, rfl, rfl, rfl⟩⟩

instance : IsTrans DashboardService SameAudit where
  trans _ _ _ h h' := ⟨h'.audit.trans h.audit, h'.policy.trans h.policy,
    h'.nextAuditSequence.trans h.nextAuditSequence, h'.auditHealthy.trans h.auditHealthy⟩

theorem sameAudit_recordActivity (event : ActivityEvent) (idempotencyKey : String) :
    Within SameAudit (recordActivity event idempotencyKey) := by
  intro _
  rw [exec_recordActivity]
  split
  · exact ⟨rfl, rfl, rfl, rfl⟩
  · exact ⟨rfl, rfl, rfl, rfl⟩
  · split
    · exact ⟨rfl, rfl, rfl, rfl⟩
    · exact ⟨rfl, rfl, rfl, rfl⟩

theorem next_recordAuditUnavailableTerminal {id : ActivityId} {current : ActivityEvent}
    (hlookup : s.activities.lookup id = some current) (hactive : current.state.isTerminal = false)
    (metrics : MetricSnapshot) (nowMs : ℕ) :
    SameAudit { s with auditHealthy := false }
      (ServiceCall.next (.recordAuditUnavailableTerminal id metrics nowMs) s) := by
  have hwithin : Within SameAudit (do
      recordActivity { current.failedWith .auditUnavailable nowMs with metrics }
        ("audit-unavailable:" ++ id.text ++ ":" ++ Nat.repr nowMs)
      pure true) := Within.bind (sameAudit_recordActivity _ _) fun _ => .pure _
  have hexec : (recordAuditUnavailableTerminal id metrics nowMs).exec s = (do
      recordActivity { current.failedWith .auditUnavailable nowMs with metrics }
        ("audit-unavailable:" ++ id.text ++ ":" ++ Nat.repr nowMs)
      pure true : ServiceEff Bool).exec { s with auditHealthy := false } := by
    rw [recordAuditUnavailableTerminal, exec_bind_ok (exec_get s), hlookup, exec_okOr_some_bind,
      hactive, if_neg Bool.false_ne_true, exec_bind_ok (exec_modify _ s)]
  have hnext : ServiceCall.next (.recordAuditUnavailableTerminal id metrics nowMs) s =
      ((recordAuditUnavailableTerminal id metrics nowMs).exec s).2 := exec_dropValue _ _
  rw [hnext, hexec]
  exact hwithin _

theorem exec_deleteAudit_of_managed (hrules : s.policy.rules = [managedRule])
    (hnext : s.nextAuditSequence = 1) (haudit : s.audit = AuditStore.sampleFresh) :
    ((ServiceCall.program (.deleteAudit .default 0)).exec s).1 = .ok () := by
  have hdelete : (onAudit (AuditStore.delete .default 0)).exec s = (.ok 0, s) := by
    have hsame : (AuditStore.delete .default 0).exec s.audit = (.ok 0, s.audit) := by
      rw [haudit]
      rfl
    rw [onAudit, exec_onPart, hsame]
    rfl
  obtain ⟨digest, hdigest⟩ : ∃ digest, (AdminMutation.auditDelete .currentFilter .default).digest
      = .ok digest := ⟨_, rfl⟩
  have hauthorized := exec_authorizeAdmin_of_managed hrules hnext idText_adminAuth1
    (AdminMutation.auditDelete .currentFilter .default).operationAndResource.1 .deviceLanePolicy
    (some digest) 0
  have hexec : (deleteAudit .default 0).exec s = (.ok 0, s) := by
    rw [deleteAudit, deleteAuditExact, exec_orThrow_bind, hdigest]
    exact (exec_bind_ok hauthorized).trans hdelete
  rw [ServiceCall.program, ServiceCall.dropValue, exec_bind_ok hexec, exec_pure]

def lostCalls : List ServiceCall :=
  [.recordActivity EventJournal.sampleEvent "first",
    .recordAuditUnavailableTerminal EventJournal.sampleEvent.activityId unavailableMetrics 0]

theorem sameAudit_lostCalls :
    SameAudit { managedService with auditHealthy := false } (runCalls lostCalls managedService) := by
  have hlength := EventJournal.length_sampleEvent
  have hrecorded := calm_managedService.recordActivity (by omega) EventJournal.checkEvent_first
    (by omega) rfl (by decide) rfl
  have hfirst : ServiceCall.next (.recordActivity EventJournal.sampleEvent "first") managedService
      = _ := next_of_exec hrecorded.1
  rw [lostCalls, runCalls_cons, hfirst, runCalls_cons, runCalls_nil]
  have hlost := next_recordAuditUnavailableTerminal (s := { managedService with
      events := managedService.events.pushed "first" EventJournal.sampleEvent
      activities := managedService.activities.insert EventJournal.sampleEvent.activityId
        EventJournal.sampleEvent }) (Map.lookup_insert_self _ _ _) rfl unavailableMetrics 0
  exact ⟨hlost.audit, hlost.policy, hlost.nextAuditSequence, hlost.auditHealthy⟩

omit [Sha256] in
/-- Audit records are deleted after the loss of the store. -/
theorem not_failsClosed : ¬∃ _ : Sha256, ∀ (s : DashboardService) (calls : List ServiceCall),
    s.Reachable → s.auditHealthy = false → FailsClosed s calls := by
  rintro ⟨_, hcloses⟩
  have hlost := sameAudit_lostCalls
  have hreachable : (runCalls lostCalls managedService).Reachable :=
    ⟨managedService, lostCalls, .new _ (.withBounds 1 0 Dashboard.maxEvents maxEventBytes) _ _, rfl⟩
  obtain ⟨-, -, hrefused⟩ := hcloses _ [.deleteAudit .default 0] hreachable hlost.auditHealthy [] _ rfl
  have hok := exec_deleteAudit_of_managed (s := runCalls lostCalls managedService)
    (congrArg PolicyEngine.rules hlost.policy) hlost.nextAuditSequence hlost.audit
  rw [runCalls_nil] at hrefused
  exact hrefused _ rfl rfl hok

omit [Sha256] in
/-- A resumption is refused after the loss of the store, where there are no grants. -/
theorem lostService_failsClosed : letI := EventJournal.eventHash
    FailsClosed { sampleService with auditHealthy := false } [.resume 0] := by
  let _ := EventJournal.eventHash
  refine failsClosed_of_run rfl ⟨fun ask hask => ?_, trivial⟩
  cases hask
  refine ⟨?_, fun _ => trivial⟩
  rintro ⟨request, nonce, grant, -, -, hgrant, -⟩
  cases hgrant

end DashboardService

end Dashboard
