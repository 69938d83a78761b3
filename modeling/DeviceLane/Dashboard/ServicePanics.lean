/-
**The service does not panic over nonces.**

A nonce that the service generates is long and hexadecimal, and two identifiers are made from its first
bytes: that of the approval, and that of the rule which the approval may create. The second one is
made again and again, from every nonce the engine holds, whenever a new approval is created. A
checkpoint may hold approvals under other nonces, which the restart takes over as they are.

Main definitions:

* `Dashboard.NoncesGenerate` — every approval that can still be decided has a nonce of which an
  identifier can be made.

Main results:

* `panicFree_program` — a call from such a state does not panic, and leaves such a state.
-/

import DeviceLane.Dashboard.ServiceRestart
import DeviceLane.Library.Panics

namespace Dashboard

open Effect

variable {approvals : Map String PendingApproval}

/-! ### Nonces of which identifiers are made -/

/-- An approval that is neither used nor expired at all times has a nonce that generates a rule. -/
def NoncesGenerate (approvals : Map String PendingApproval) : Prop :=
  ∀ nonce approval, approvals.lookup nonce = some approval → approval.used = false →
    approval.expiresAtMs ≠ 0 → (generatedRuleId nonce).isSome

theorem noncesGenerate_empty : NoncesGenerate ∅ := by
  intro _ _ hlookup
  cases hlookup

theorem NoncesGenerate.insert (h : NoncesGenerate approvals) {nonce : String}
    {approval : PendingApproval} (hnonce : approval.used = false → (generatedRuleId nonce).isSome) :
    NoncesGenerate (approvals.insert nonce approval) := by
  intro other entry hlookup hunused hexpires
  rw [Map.lookup_insert] at hlookup
  split at hlookup
  · rename_i hsame
    cases hlookup
    rw [hsame]
    exact hnonce hunused
  · exact h other entry hlookup hunused hexpires

theorem NoncesGenerate.opened (h : NoncesGenerate approvals) (nowMs : ℕ) :
    NoncesGenerate (PolicyEngine.openApprovals approvals nowMs) := by
  intro nonce approval hlookup
  rw [PolicyEngine.openApprovals, Map.lookup_retain] at hlookup
  exact h nonce approval (Option.filter_eq_some_iff.1 hlookup).1

theorem NoncesGenerate.of_open (h : NoncesGenerate approvals) (nowMs : ℕ) :
    ∀ nonce ∈ (PolicyEngine.openApprovals approvals nowMs).keys, (generatedRuleId nonce).isSome := by
  intro nonce hnonce
  obtain ⟨approval, hlookup⟩ := Map.mem_keys.1 hnonce
  rw [PolicyEngine.openApprovals, Map.lookup_retain] at hlookup
  obtain ⟨hbefore, hopen⟩ := Option.filter_eq_some_iff.1 hlookup
  simp only [Bool.and_eq_true, Bool.not_eq_true', decide_eq_true_eq] at hopen
  exact h nonce approval hbefore hopen.1 (by omega)

namespace PolicyEngine

variable {engine : PolicyEngine}

theorem isSome_generatedRuleId_hex (nonce : Digest) : (generatedRuleId (hex nonce.toList)).isSome := by
  rw [generatedRuleId_hex]
  rfl

/-! ### The search for a nonce -/

theorem regular_noneGenerates (ruleId : RuleId) {nonces : List String}
    (h : ∀ nonce ∈ nonces, (generatedRuleId nonce).isSome) :
    Regular (noneGenerates ruleId nonces) := by
  induction nonces with
  | nil => exact regular_ok true
  | cons nonce nonces ih =>
    obtain ⟨hnonce, hnonces⟩ := List.forall_mem_cons.1 h
    obtain ⟨_, hid⟩ := Option.isSome_iff_exists.1 hnonce
    rw [noneGenerates, hid]
    dsimp only
    split
    · exact regular_ok false
    · exact ih hnonces

theorem regular_acceptsNonce (h : ∀ nonce ∈ engine.approvals.keys, (generatedRuleId nonce).isSome)
    {candidate : String} (hcandidate : (generatedRuleId candidate).isSome) :
    Regular (engine.acceptsNonce candidate) := by
  obtain ⟨ruleId, hid⟩ := Option.isSome_iff_exists.1 hcandidate
  have hnone := regular_noneGenerates ruleId h
  rw [acceptsNonce, hid]
  dsimp only
  split
  · exact regular_ok false
  split
  · rename_i fault hfault
    rw [hfault] at hnone
    exact hnone.error
  · exact regular_ok false
  · exact regular_ok _

theorem regular_findNonce (h : ∀ nonce ∈ engine.approvals.keys, (generatedRuleId nonce).isSome)
    {candidates : List String}
    (hcandidates : ∀ candidate ∈ candidates, (generatedRuleId candidate).isSome) :
    Regular (engine.findNonce candidates) := by
  induction candidates with
  | nil => exact regular_returned _
  | cons candidate candidates ih =>
    obtain ⟨hcandidate, hrest⟩ := List.forall_mem_cons.1 hcandidates
    have haccepts := regular_acceptsNonce h hcandidate
    rw [findNonce]
    split
    · rename_i fault hfault
      rw [hfault] at haccepts
      exact haccepts.error
    · exact regular_ok candidate
    · exact ih hrest

/-! ### Approvals are created and decided -/

def Generates (engine : PolicyEngine) : Prop := NoncesGenerate engine.approvals

variable [Sha256]

theorem regular_createApproval (h : engine.Generates) (request : AccessRequest) (nowMs lifetimeMs : ℕ)
    (random : ℕ → Digest) :
    Regular ((createApproval request nowMs lifetimeMs random).exec engine).1 := by
  cases hvalid : validateRequest request with
  | error =>
    rw [createApproval, hvalid, exec_bind_error (exec_orThrow _ _ _)]
    exact regular_returned _
  | ok =>
    by_cases hlifetime : lifetimeMs = 0
    · rw [createApproval, hvalid, exec_bind_ok (exec_orThrow _ _ _), exec_throwIf_bind,
        if_pos hlifetime]
      exact regular_returned _
    rw [exec_createApproval_of_valid engine hvalid nowMs hlifetime random]
    have hcandidates : ∀ candidate ∈ nonceCandidates random,
        (generatedRuleId candidate).isSome := by
      intro candidate hcandidate
      obtain ⟨attempt, -, rfl⟩ := List.mem_map.1 hcandidate
      exact isSome_generatedRuleId_hex _
    have hfind : Regular ((engine.drop nowMs).findNonce (nonceCandidates random)) :=
      regular_findNonce (h.of_open nowMs) hcandidates
    split
    · exact regular_returned _
    split
    · rename_i fault hfault
      rw [hfault] at hfind
      exact hfind.error
    · exact regular_ok _

theorem generates_createApproval (h : engine.Generates) (request : AccessRequest)
    (nowMs lifetimeMs : ℕ) (random : ℕ → Digest) :
    ((createApproval request nowMs lifetimeMs random).exec engine).2.Generates := by
  rcases exec_createApproval engine request nowMs lifetimeMs random with
    ⟨fault, hexec⟩ | ⟨fault, hexec⟩ | ⟨_, _, -, -, -, -, hoffers, hexec⟩
  · rw [hexec]
    exact h
  · rw [hexec]
    exact h.opened nowMs
  · rw [hexec]
    exact (h.opened nowMs).insert fun _ => by rw [hoffers.generates]; rfl

/-- **An approval that can be redeemed is decided, whatever the decision.** -/
theorem decide_of_redeems (h : engine.Generates) {nonce : String}
    {session : AuthenticatedTargetSession} {request : AccessRequest} (decision : ApprovalDecision)
    {nowMs : ℕ} {pending : PendingApproval}
    (hredeems : Redeems engine nonce session request decision nowMs pending) :
    ∃ outcome, ((decide nonce session request decision nowMs).exec engine).1 = .ok outcome := by
  obtain ⟨_, hid⟩ := Option.isSome_iff_exists.1
    (h nonce pending hredeems.lookup hredeems.unused (by have := hredeems.now_lt; omega))
  rw [exec_decide_of_redeems hredeems]
  cases heffect : decision.createdEffect with
  | none =>
    rw [exec_createRule_none heffect]
    exact ⟨_, rfl⟩
  | some =>
    rw [exec_createRule_some heffect, exactRule, hid]
    exact ⟨_, rfl⟩

theorem regular_decide (h : engine.Generates) (nonce : String) (session : AuthenticatedTargetSession)
    (request : AccessRequest) (decision : ApprovalDecision) (nowMs : ℕ) :
    Regular ((decide nonce session request decision nowMs).exec engine).1 := by
  rcases exec_decide engine nonce session request decision nowMs with
    ⟨-, error, hexec⟩ | ⟨_, hredeems, -⟩
  · rw [hexec]
    exact regular_returned error
  · obtain ⟨outcome, hexec⟩ := decide_of_redeems h decision hredeems
    rw [hexec]
    exact regular_ok outcome

theorem generates_decide (h : engine.Generates) (nonce : String) (session : AuthenticatedTargetSession)
    (request : AccessRequest) (decision : ApprovalDecision) (nowMs : ℕ) :
    ((decide nonce session request decision nowMs).exec engine).2.Generates := by
  rcases exec_decide engine nonce session request decision nowMs with
    ⟨-, _, hexec⟩ | ⟨pending, hredeems, -⟩
  · rw [hexec]
    exact h
  · have hused : (engine.use nonce pending).Generates := h.insert fun hunused => by cases hunused
    rw [exec_decide_of_redeems hredeems]
    cases heffect : decision.createdEffect with
    | none =>
      rw [exec_createRule_none heffect]
      exact hused
    | some =>
      rw [exec_createRule_some heffect]
      split
      · exact hused
      · exact hused

end PolicyEngine

namespace DashboardService

variable [Sha256]

def Generates (s : DashboardService) : Prop := s.policy.Generates

omit [Sha256] in
theorem panicFree_of_sameCore {α : Type} {m : ServiceEff α} (hcore : Within SameCore m)
    (hregular : ∀ s, Regular (m.exec s).1) : PanicFree Generates m := by
  intro s hs
  refine ⟨hregular s, ?_⟩
  rw [Generates, (hcore s).policy]
  exact hs

/-! ### The writes -/

theorem panicFree_appendAudit (record : RawAuditRecord) :
    PanicFree Generates (appendAudit record) := by
  refine panicFree_of_sameCore (sameCore_appendAudit record) fun s => ?_
  rw [exec_appendAudit]
  split
  · exact regular_returned _
  split
  · exact regular_returned _
  · split
    · exact regular_returned _
    · exact regular_ok _

theorem panicFree_persistState (activities : Map ActivityId ActivityEvent) :
    PanicFree Generates (persistState activities) := by
  refine .get fun s _ => ?_
  cases s.checkpoint with
  | none => exact .pure ()
  | some =>
    refine .bind (.throwIf _ _) fun _ => .bind (.throwIf _ _) fun _ => ?_
    refine .bind (.orThrow (regular_mapError_returned id _)) fun digest => ?_
    exact .onPart (fun _ => regular_mapError_returned _ _) fun _ hs => hs

theorem panicFree_recordActivity (event : ActivityEvent) (idempotencyKey : String) :
    PanicFree Generates (recordActivity event idempotencyKey) := by
  intro s hs
  have hpolicy := (sameCore_recordActivity event idempotencyKey s).policy
  refine ⟨?_, by rw [Generates, hpolicy]; exact hs⟩
  rw [exec_recordActivity]
  split
  · exact regular_returned _
  · exact regular_ok _
  · have hwritten := (panicFree_persistState (s.activities.insert event.activityId event) s hs).1
    split
    · rename_i fault checkpoint hfault
      rw [exec_persistState, hfault] at hwritten
      exact hwritten
    · exact regular_ok _

theorem panicFree_auditAccessWithMessage (access : AccessRequest) (effect : PolicyEffect)
    (result : AuditResult) (message : Option MessageCode) (nowMs : ℕ) :
    PanicFree Generates (auditAccessWithMessage access effect result message nowMs) :=
  .get fun _ _ => panicFree_appendAudit _

theorem panicFree_auditAccess (access : AccessRequest) (effect : PolicyEffect) (result : AuditResult)
    (nowMs : ℕ) : PanicFree Generates (auditAccess access effect result nowMs) :=
  panicFree_auditAccessWithMessage _ _ _ _ _

theorem panicFree_auditAccessFromEventWithMessage (event : ActivityEvent) (result : AuditResult)
    (message : Option MessageCode) (nowMs : ℕ) :
    PanicFree Generates (auditAccessFromEventWithMessage event result message nowMs) :=
  .get fun _ _ => panicFree_appendAudit _

theorem panicFree_auditLocal (operation : OperationId) (result : AuditResult) (nowMs : ℕ) :
    PanicFree Generates (auditLocal operation result nowMs) :=
  .get fun _ _ => panicFree_appendAudit _

omit [Sha256] in
theorem panicFree_parseId {kind : IdKind} (value : String) :
    PanicFree Generates (orThrow id (parseId value) : ServiceEff (ValidatedId kind)) := by
  refine .orThrow ?_
  rw [parseId]
  cases (ValidatedId.parse value : Except ValidationError (ValidatedId kind)) with
  | ok parsed => exact regular_ok parsed
  | error => exact regular_returned _

theorem panicFree_appendLocalEvent (operation : OperationId) (nowMs : ℕ) :
    PanicFree Generates (appendLocalEvent operation nowMs) :=
  .get fun _ _ => .bind (panicFree_parseId _) fun _ => panicFree_recordActivity _ _

/-! ### Activities -/

theorem panicFree_recordPreapprovalTargetOffline (access : AccessRequest) (nowMs : ℕ) :
    PanicFree Generates (recordPreapprovalTargetOffline access nowMs) :=
  .bind (panicFree_auditAccessWithMessage _ _ _ _ _) fun _ => .get fun _ _ =>
    panicFree_recordActivity _ _

theorem panicFree_transitionActivity (id : ActivityId) (state : ActivityState)
    (metrics : MetricSnapshot) (message : Option DisplayMessage) (nowMs : ℕ) :
    PanicFree Generates (transitionActivity id state metrics message nowMs) := by
  refine .get fun s _ => .bind (.okOr _ _) fun current => ?_
  refine .ite (fun _ => .pure _) fun _ => ?_
  refine .bind (.throwIf _ _) fun _ => .bind (.okOr _ _) fun sequence => ?_
  refine .bind (.throwIf _ _) fun _ => ?_
  cases state.auditResult with
  | none => exact .bind (panicFree_recordActivity _ _) fun _ => .pure _
  | some =>
    exact .bind (panicFree_auditAccessFromEventWithMessage _ _ _ _) fun _ =>
      .bind (panicFree_recordActivity _ _) fun _ => .pure _

theorem panicFree_recordAuditUnavailableTerminal (id : ActivityId) (metrics : MetricSnapshot)
    (nowMs : ℕ) : PanicFree Generates (recordAuditUnavailableTerminal id metrics nowMs) := by
  refine .get fun s _ => .bind (.okOr _ _) fun current => ?_
  refine .ite (fun _ => .pure _) fun _ => ?_
  exact .bind (.modify fun _ hs => hs) fun _ => .bind (panicFree_recordActivity _ _) fun _ => .pure _

theorem panicFree_cancelActivityInner (id : ActivityId) (nowMs : ℕ) :
    PanicFree Generates (cancelActivityInner id nowMs) := by
  refine .get fun s _ => ?_
  cases s.activities.lookup id with
  | none => exact .pure _
  | some =>
    refine .ite (fun _ => .pure _) fun _ => ?_
    refine .bind (panicFree_auditAccessFromEventWithMessage _ _ _ _) fun _ => ?_
    refine .attempt_bind (panicFree_recordActivity _ _) fun r hr => ?_
    cases r with
    | error =>
      exact .bind (panicFree_auditAccessFromEventWithMessage _ _ _ _) fun _ => .throw hr.error
    | ok =>
      exact .bind (panicFree_auditAccessFromEventWithMessage _ _ _ _) fun _ => .pure _

theorem panicFree_cancelAll (nowMs : ℕ) (ids : List ActivityId) :
    PanicFree Generates (cancelAll nowMs ids) := by
  induction ids with
  | nil => exact .pure _
  | cons id ids ih => exact .bind (panicFree_cancelActivityInner id nowMs) fun _ => ih

theorem panicFree_reconcile (nowMs : ℕ) (events : List ActivityEvent) :
    PanicFree Generates (reconcile nowMs events) := by
  induction events with
  | nil => exact .pure _
  | cons event events ih =>
    exact .bind (panicFree_auditAccessFromEventWithMessage _ _ _ _) fun _ =>
      .bind (panicFree_recordActivity _ _) fun _ => ih

theorem panicFree_reconcileAfterRestart (hash : HashOrder ActivityEvent) (nowMs : ℕ) :
    PanicFree Generates (reconcileAfterRestart hash nowMs) :=
  .get fun _ _ => .bind (panicFree_reconcile _ _) fun _ => .pure _

/-! ### Administration -/

theorem panicFree_spendGrant (request : AccessRequest) (mutationDigest : Option String) (nowMs : ℕ) :
    PanicFree Generates (spendGrant request mutationDigest nowMs) := by
  refine .bind (.modify fun _ hs => hs) fun _ => .get fun s _ => ?_
  refine .bind (.okOr _ _) fun entry => .bind (.modify fun _ hs => hs) fun _ => ?_
  refine .attempt_bind (panicFree_persistState _) fun r hr => ?_
  cases r with
  | error => exact .bind (.modify fun _ hs => hs) fun _ => .throw hr.error
  | ok => exact .pure _

theorem panicFree_authorizeAdmin (operation : OperationId) (resource : ResourceClass)
    (mutationDigest : Option String) (nowMs : ℕ) :
    PanicFree Generates (authorizeAdmin operation resource mutationDigest nowMs) := by
  refine .get fun s _ => .bind (panicFree_parseId _) fun activityId => ?_
  dsimp only
  split
  · exact .bind (panicFree_auditAccess _ _ _ _) fun _ => .throwReturned _
  · exact .ite (fun _ => .pure _) fun _ => panicFree_spendGrant _ _ _
  · exact panicFree_spendGrant _ _ _
  · exact .throwReturned _

theorem panicFree_changePolicy {α : Type} (operation : OperationId)
    {m : Eff PolicyEngine PolicyConfigurationError α}
    (hm : ∀ engine, ∃ rules, (m.exec engine).2 = { engine with rules }) (nowMs : ℕ) :
    PanicFree Generates (changePolicy operation m nowMs) := by
  refine .bind (panicFree_auditLocal _ _ _) fun _ => .get fun previous hprevious => ?_
  obtain ⟨rules, hrules⟩ := hm previous.policy
  rcases hexec : m.exec previous.policy with ⟨outcome, engine⟩
  rw [hexec] at hrules
  obtain rfl : engine = { previous.policy with rules } := hrules
  cases outcome with
  | error => exact .bind (panicFree_auditLocal _ _ _) fun _ => .throwReturned _
  | ok =>
    refine .bind (.modify fun _ _ => hprevious) fun _ => ?_
    refine .attempt_bind (panicFree_appendLocalEvent _ _) fun r hr => ?_
    cases r with
    | ok => exact .pure _
    | error =>
      exact .bind (.modify fun _ _ => hprevious) fun _ =>
        .bind (panicFree_auditLocal _ _ _) fun _ => .throw hr.error

theorem panicFree_digest (mutation : AdminMutation) :
    PanicFree Generates (orThrow .returned mutation.digest : ServiceEff String) :=
  .orThrow (regular_mapError_returned id _)

theorem panicFree_putPolicyRuleExact (rule : PolicyRule) (expectedRevision nowMs : ℕ) :
    PanicFree Generates (putPolicyRuleExact rule expectedRevision nowMs) := by
  refine .bind (panicFree_digest _) fun digest => .bind (panicFree_authorizeAdmin _ _ _ _) fun _ => ?_
  refine .get fun s _ => ?_
  have hchange := panicFree_changePolicy policyPut (Moves.rules_putUserRule rule) nowMs
  cases s.policy.rules.find? fun current => current.id = rule.id with
  | some | none => exact .bind (.throwIf _ _) fun _ => hchange

theorem panicFree_deletePolicyRule (id : RuleId) (nowMs : ℕ) :
    PanicFree Generates (deletePolicyRule id nowMs) :=
  .bind (panicFree_digest _) fun _ => .bind (panicFree_authorizeAdmin _ _ _ _) fun _ =>
    panicFree_changePolicy _ (Moves.rules_deleteUserRule id) _

theorem panicFree_deletePolicyRuleExact (id : RuleId) (expectedRevision nowMs : ℕ) :
    PanicFree Generates (deletePolicyRuleExact id expectedRevision nowMs) :=
  .bind (panicFree_digest _) fun _ => .bind (panicFree_authorizeAdmin _ _ _ _) fun _ =>
    .get fun _ _ => .bind (.okOr _ _) fun _ => .bind (.throwIf _ _) fun _ =>
      panicFree_changePolicy _ (Moves.rules_deleteUserRule id) _

theorem panicFree_deleteAuditExact (scope : AuditDeletionScope) (filter : AuditFilter) (nowMs : ℕ) :
    PanicFree Generates (deleteAuditExact scope filter nowMs) :=
  .bind (panicFree_digest _) fun _ => .bind (panicFree_authorizeAdmin _ _ _ _) fun _ =>
    .onPart (fun _ => regular_mapError_returned _ _) fun _ hs => hs

theorem panicFree_applyConnectionChange (configuration : ConnectionConfig)
    (persisted : Except DashboardServiceError Unit) (nowMs : ℕ) :
    PanicFree Generates (applyConnectionChange configuration persisted nowMs) := by
  refine .bind (panicFree_digest _) fun digest => .bind (panicFree_authorizeAdmin _ _ _ _) fun _ => ?_
  refine .bind (panicFree_auditLocal _ _ _) fun _ => ?_
  cases persisted with
  | ok => exact panicFree_auditLocal _ _ _
  | error => exact .bind (panicFree_auditLocal _ _ _) fun _ => .throwReturned _

theorem panicFree_publishPaused (operation : OperationId) {m : ServiceEff Unit}
    (hm : PanicFree Generates m) (previous : Bool) (nowMs : ℕ) :
    PanicFree Generates (publishPaused operation m previous nowMs) := by
  refine .attempt_bind hm fun r hr => ?_
  cases r with
  | ok => exact .pure _
  | error =>
    exact .bind (.modify fun _ hs => hs) fun _ => .bind (panicFree_auditLocal _ _ _) fun _ =>
      .throw hr.error

theorem panicFree_pause (existing : ExistingJobs) (hash : HashOrder ActivityId) (nowMs : ℕ) :
    PanicFree Generates (pause existing hash nowMs) := by
  refine .bind (panicFree_authorizeAdmin _ _ _ _) fun _ => .bind (panicFree_auditLocal _ _ _) fun _ => ?_
  refine .bind (.modify fun _ hs => hs) fun _ => .get fun s _ => ?_
  have hpublish := panicFree_publishPaused remoteAccessPause
    (panicFree_appendLocalEvent remoteAccessPause nowMs) false nowMs
  refine .ite (fun _ => ?_) fun _ => hpublish
  exact .bind (panicFree_publishPaused _ (panicFree_cancelAll _ _) _ _) fun _ => hpublish

theorem panicFree_resume (nowMs : ℕ) : PanicFree Generates (resume nowMs) :=
  .bind (panicFree_authorizeAdmin _ _ _ _) fun _ => .bind (panicFree_auditLocal _ _ _) fun _ =>
    .bind (.modify fun _ hs => hs) fun _ =>
      panicFree_publishPaused _ (panicFree_appendLocalEvent _ _) _ _

/-! ### Requesting and deciding approvals -/

omit [Sha256] in
theorem panicFree_approvalIdOf (bytes : Digest) :
    PanicFree Generates (orThrow id (approvalIdOf (hex bytes.toList)) : ServiceEff ApprovalId) := by
  rw [approvalIdOf, PolicyEngine.takeBytes_hex bytes (by decide)]
  exact panicFree_parseId _

theorem panicFree_awaitApproval (access : AccessRequest) (bytes : Digest) (expiresAtMs : ℕ)
    {nextPolicy : PolicyEngine} (hpolicy : nextPolicy.Generates) (nowMs : ℕ) :
    PanicFree Generates
      (awaitApproval access ⟨hex bytes.toList, expiresAtMs⟩ nextPolicy nowMs) := by
  refine .bind (panicFree_approvalIdOf bytes) fun id => .get fun previous hprevious => ?_
  refine .bind (.modify fun _ _ => hpolicy) fun _ => ?_
  refine .attempt_bind (panicFree_recordActivity _ _) fun r hr => ?_
  cases r with
  | ok => exact .pure _
  | error =>
    exact .bind (.modify fun _ _ => hprevious) fun _ => .bind (panicFree_auditAccess _ _ _ _) fun _ =>
      .throw hr.error

theorem panicFree_createPending (access : AccessRequest) (lifetimeMs nowMs : ℕ)
    (random : ℕ → Digest) : PanicFree Generates (createPending access lifetimeMs nowMs random) := by
  refine .bind (panicFree_auditAccess _ _ _ _) fun _ => .get fun s hs => ?_
  have hregular := PolicyEngine.regular_createApproval hs access nowMs lifetimeMs random
  have hgenerates := PolicyEngine.generates_createApproval hs access nowMs lifetimeMs random
  have hcases := PolicyEngine.exec_createApproval s.policy access nowMs lifetimeMs random
  split
  · rename_i engine hexec
    rw [hexec] at hregular
    exact absurd rfl hregular
  · exact .bind (panicFree_auditAccess _ _ _ _) fun _ => .throwReturned _
  · rename_i challenge engine hexec
    rw [hexec] at hgenerates hcases
    -- Only one of the three ways in which it may end returns a challenge.
    rcases hcases with ⟨fault, hcase⟩ | ⟨fault, hcase⟩ |
      ⟨nonce, ruleId, -, -, -, ⟨attempt, hattempt⟩, -, hcase⟩
    · cases hcase
    · cases hcase
    · cases hcase
      subst hattempt
      exact panicFree_awaitApproval access (random attempt) _ hgenerates nowMs

theorem panicFree_requestApproval (access : AccessRequest) (lifetimeMs nowMs : ℕ)
    (random : ℕ → Digest) : PanicFree Generates (requestApproval access lifetimeMs nowMs random) := by
  refine .get fun s _ => .bind (.throwIf _ _) fun _ => ?_
  split
  · exact .throwReturned _
  · refine .bind ?_ fun _ => .throwReturned _
    exact .bind (panicFree_auditAccessWithMessage _ _ _ _ _) fun _ => .get fun _ _ =>
      panicFree_recordActivity _ _
  · exact panicFree_createPending _ _ _ _
  · exact panicFree_createPending _ _ _ _

theorem panicFree_bindMutation (nonce digest : String) :
    PanicFree Generates (bindMutation nonce digest) := by
  refine .get fun s _ => .bind (.okOr _ _) fun entry => .bind (.modify fun _ hs => hs) fun _ => ?_
  refine .attempt_bind (panicFree_persistState _) fun r hr => ?_
  cases r with
  | ok => exact .pure _
  | error => exact .bind (.modify fun _ hs => hs) fun _ => .throw hr.error

omit [Sha256] in
theorem exists_hex_of_digest [Sha256] {mutation : AdminMutation} {digest : String}
    (h : mutation.digest = .ok digest) : ∃ bytes : Digest, digest = hex bytes.toList := by
  cases mutation with
  | policyPut rule =>
    cases hvalid : rule.validate with
    | error =>
      rw [AdminMutation.digest, hvalid] at h
      cases h
    | ok =>
      rw [AdminMutation.digest, hvalid] at h
      cases h
      exact ⟨_, rfl⟩
  | _ =>
    cases h
    exact ⟨_, rfl⟩

theorem panicFree_requestAdminMutationApproval (mutation : AdminMutation) (lifetimeMs nowMs : ℕ)
    (random : ℕ → Digest) :
    PanicFree Generates (requestAdminMutationApproval mutation lifetimeMs nowMs random) := by
  refine .orThrow_bind (regular_mapError_returned id _) fun digest hdigest => ?_
  obtain ⟨bytes, rfl⟩ := exists_hex_of_digest hdigest
  refine .bind (.okOr_some ?_ _) fun start => .bind (panicFree_parseId _) fun activityId => ?_
  · rw [PolicyEngine.takeBytes_hex bytes (by decide)]
    rfl
  · exact .get fun s _ => .bind (panicFree_requestApproval _ _ _ _) fun created =>
      .bind (panicFree_bindMutation _ _) fun _ => .pure _

theorem panicFree_refuseDecision (entry : Option (ApprovalId × Pending)) (access : AccessRequest)
    (effect : PolicyEffect) (error : ApprovalError) (nowMs : ℕ) :
    PanicFree Generates (refuseDecision entry access effect error nowMs) := by
  refine .ite (fun _ => ?_) fun _ => ?_
  · exact .bind (.modify fun _ hs => hs) fun _ =>
      .bind (panicFree_transitionActivity _ _ _ _ _) fun _ => .throwReturned _
  · exact .bind (panicFree_auditAccess _ _ _ _) fun _ => .throwReturned _

theorem panicFree_applyDecision (nonce : String) (entry : Option (ApprovalId × Pending))
    (access : AccessRequest) (effect : PolicyEffect) (createdRule : Option PolicyRule)
    {nextPolicy : PolicyEngine} (hpolicy : nextPolicy.Generates) (nowMs : ℕ) :
    PanicFree Generates (applyDecision nonce entry access effect createdRule nextPolicy nowMs) := by
  refine .get fun previous hprevious => .bind (.modify fun _ _ => hpolicy) fun _ => ?_
  refine .attempt_bind (panicFree_recordActivity _ _) fun r hr => ?_
  cases r with
  | ok => exact .pure _
  | error =>
    exact .bind (.modify fun _ _ => hprevious) fun _ => .bind (panicFree_auditAccess _ _ _ _) fun _ =>
      .throw hr.error

theorem panicFree_decideUndenied (nonce : String) (session : AuthenticatedTargetSession)
    (access : AccessRequest) (decision : ApprovalDecision) (nowMs : ℕ) :
    PanicFree Generates (decideUndenied nonce session access decision nowMs) := by
  refine .get fun s hs => .bind (panicFree_auditAccess _ _ _ _) fun _ => ?_
  have hregular := PolicyEngine.regular_decide hs nonce session access decision nowMs
  have hgenerates := PolicyEngine.generates_decide hs nonce session access decision nowMs
  split
  · rename_i engine hexec
    rw [hexec] at hregular
    exact absurd rfl hregular
  · exact panicFree_refuseDecision _ _ _ _ _
  · rename_i outcome engine hexec
    rw [hexec] at hgenerates
    exact panicFree_applyDecision _ _ _ _ _ hgenerates _

theorem panicFree_decideApproval (nonce : String) (session : AuthenticatedTargetSession)
    (access : AccessRequest) (decision : ApprovalDecision) (nowMs : ℕ) :
    PanicFree Generates (decideApproval nonce session access decision nowMs) := by
  refine .get fun s _ => .bind (.throwIf _ _) fun _ => ?_
  split
  · exact .bind (panicFree_auditAccess _ _ _ _) fun _ => .throwReturned _
  · exact panicFree_decideUndenied _ _ _ _ _
  · exact panicFree_decideUndenied _ _ _ _ _
  · exact panicFree_decideUndenied _ _ _ _ _

/-! ### Every call -/

omit [Sha256] in
theorem panicFree_acknowledge (subscriberId : SubscriberId) (cursor : EventCursor) (nowMs : ℕ) :
    PanicFree Generates (acknowledge subscriberId cursor nowMs) := by
  refine .bind (.modify fun _ hs => hs) fun _ => .attempt_bind_of (fun _ hs => hs) fun r => ?_
  have hacknowledge : PanicFree Generates
      (onPart DashboardService.events (fun events s => { s with events })
        (fun error => .returned (mapAcknowledgeError error))
        (EventJournal.acknowledge subscriberId cursor nowMs) : ServiceEff Unit) :=
    .onPart (fun _ => regular_mapError_returned _ _) fun _ hs => hs
  cases r with
  | error error =>
    cases error with
    | alreadyExists => exact hacknowledge
    | limitExceeded => exact .throwReturned _
  | ok => exact hacknowledge

omit [Sha256] in
theorem panicFree_dropValue {α : Type} {m : ServiceEff α} (h : PanicFree Generates m) :
    PanicFree Generates (ServiceCall.dropValue m) :=
  .bind h fun _ => .pure _

/-- **No call panics, if every nonce generates a rule, and the nonces do so after it.** -/
theorem panicFree_program (call : ServiceCall) : PanicFree Generates call.program := by
  cases call with
  | recordPreapprovalTargetOffline => exact panicFree_recordPreapprovalTargetOffline _ _
  | requestApproval =>
    exact panicFree_dropValue (panicFree_requestApproval _ _ _ _)
  | requestAdminMutationApproval =>
    exact panicFree_dropValue (panicFree_requestAdminMutationApproval _ _ _ _)
  | decideApproval =>
    exact panicFree_dropValue (panicFree_decideApproval _ _ _ _ _)
  | decidePendingApproval =>
    exact panicFree_dropValue (.get fun _ _ => .bind (.okOr _ _) fun _ => panicFree_decideApproval _ _ _ _ _)
  | putPolicyRule | putPolicyRuleExact => exact panicFree_putPolicyRuleExact _ _ _
  | deletePolicyRule => exact panicFree_dropValue (panicFree_deletePolicyRule _ _)
  | deletePolicyRuleIfRevision =>
    exact panicFree_dropValue (panicFree_deletePolicyRuleExact _ _ _)
  | deleteAudit | deleteAuditExact => exact panicFree_dropValue (panicFree_deleteAuditExact _ _ _)
  | recordActivity => exact panicFree_recordActivity _ _
  | transitionActivity =>
    exact panicFree_dropValue (panicFree_transitionActivity _ _ _ _ _)
  | recordAuditUnavailableTerminal =>
    exact panicFree_dropValue (panicFree_recordAuditUnavailableTerminal _ _ _)
  | cancelActivity =>
    exact panicFree_dropValue (.bind (panicFree_authorizeAdmin _ _ _ _) fun _ =>
      panicFree_cancelActivityInner _ _)
  | reconcileAfterRestart => exact panicFree_dropValue (panicFree_reconcileAfterRestart _ _)
  | pause => exact panicFree_pause _ _ _
  | resume => exact panicFree_resume _
  | applyConnectionChange => exact panicFree_applyConnectionChange _ _ _
  | acknowledge => exact panicFree_acknowledge _ _ _
  | readEvents => exact .modify fun _ hs => hs

/-! ### Counters -/

/-- What the arithmetic of a journal needs: one can be taken from the number of the next event and from
the number of each retained event, and every append finds as many events and bytes as it drops. -/
structure Counted (inner : EventJournal) : Prop where
  next_pos : 1 ≤ inner.nextCursorSequence
  cursor_pos : ∀ stored ∈ inner.events, 1 ≤ stored.cursorSequence
  evicts : ∀ idempotencyKey event eventJson, inner.Accepts idempotencyKey event eventJson →
    EventJournal.evictOrPanic eventJson.length (inner.opened event) (inner.opened event).events ≠ none

theorem counted_of_consistent {inner : EventJournal} {log : List EventJournal.Entry}
    (h : inner.Consistent log) : Counted inner where
  next_pos := by
    rw [h.cursor_eq]
    omega
  cursor_pos stored hstored := by
    have hlength : inner.events.length < inner.nextCursorSequence := by
      have hretained := h.retained.length_le
      rw [List.length_map] at hretained
      rw [h.cursor_eq]
      omega
    have hmem : stored.cursorSequence ∈ inner.events.map StoredEvent.cursorSequence :=
      List.mem_map_of_mem hstored
    rw [h.consecutive, List.mem_range'_1] at hmem
    omega
  evicts idempotencyKey event eventJson haccepts := by
    have hevent := haccepts.publishable h.bounded
    rw [EventJournal.evictOrPanic_eq hevent.capacity hevent.fits
      (h.bounded.opened event).serializedBytes_eq]
    exact Option.some_ne_none _

/-! ### After a restart -/

/-- A service of which no call panics: every approval it holds can be decided as one likes, and no
counter of its journal goes below zero. -/
structure Serviceable (s : DashboardService) : Prop where
  calls : ∀ call : ServiceCall, (call.program.exec s).1 ≠ .error .panicked
  decides : ∀ nonce session request decision nowMs pending,
    PolicyEngine.Redeems s.policy nonce session request decision nowMs pending →
      ∃ outcome, ((PolicyEngine.decide nonce session request decision nowMs).exec s.policy).1
        = .ok outcome
  counted : Counted s.events

theorem generates_of_takenOver {checkpoint : ActivityCheckpoint} {hash : HashOrder ActivityEvent}
    {nowMs : ℕ} {s restored s' : DashboardService} {engine : PolicyEngine}
    (h : TakenOver checkpoint hash nowMs s restored engine s')
    (hnonces : NoncesGenerate checkpoint.payload.policy.approvals) : s'.Generates := by
  have hengine : engine.Generates := by
    rcases PolicyEngine.exec_restoreCheckpoint restored.policy checkpoint.payload.policy with
      ⟨_, hexec⟩ | ⟨-, -, -, hexec⟩
    · rw [h.policy] at hexec
      cases hexec
    · rw [h.policy] at hexec
      cases hexec
      exact hnonces
  have hreconciled := (panicFree_reconcile nowMs (hash.order restored.activeActivities)
    (restored.withPayload checkpoint.payload engine) hengine).2
  rwa [h.reconciled] at hreconciled

/-- **After a restart from a checkpoint whose nonces generate rules, the service never panics**, whatever
is done with it. -/
theorem serviceable_of_noncesGenerate {localHostId : HostId} {events : EventJournal}
    (hevents : events.Reachable) {audit : AuditState} {policy : PolicyEngine} {file : CheckpointFile}
    {checkpoint : ActivityCheckpoint} {hash : HashOrder ActivityEvent} {nowMs : ℕ}
    (hok : (newPersistent localHostId events audit policy file (.ok (some checkpoint)) hash nowMs).1
      = .ok ())
    (hnonces : NoncesGenerate checkpoint.payload.policy.approvals) (calls : List ServiceCall) :
    (runCalls calls (newPersistent localHostId events audit policy file (.ok (some checkpoint)) hash
      nowMs).2).Serviceable := by
  obtain ⟨restored, engine, htaken⟩ := restore_ok (Prod.ext hok rfl)
  have hgenerates := PanicFree.foldl panicFree_program calls (generates_of_takenOver htaken hnonces)
  have hreachable : (runCalls calls (newPersistent localHostId events audit policy file
      (.ok (some checkpoint)) hash nowMs).2).Reachable :=
    ⟨_, calls, .newPersistent localHostId hevents audit policy file _ hash nowMs hok, rfl⟩
  obtain ⟨log, hlog⟩ := (soundJournal_of_reachable hreachable).consistent
  exact
    { calls := fun call => (panicFree_program call _ hgenerates).1
      decides := fun _ _ _ decision _ _ hredeems => PolicyEngine.decide_of_redeems hgenerates decision
        hredeems
      counted := counted_of_consistent hlog }

/-! ### A checkpoint with a short nonce -/

/-- Whatever a service is started from, it never panics. -/
def NeverPanics : Prop :=
  ∀ localHostId events, EventJournal.Reachable events → ∀ audit policy file checkpoint hash nowMs,
    (newPersistent localHostId events audit policy file (.ok (some checkpoint)) hash nowMs).1
      = .ok () →
    ∀ calls, (runCalls calls (newPersistent localHostId events audit policy file
      (.ok (some checkpoint)) hash nowMs).2).Serviceable

def approvalUnder (nonce : String) : Map String PendingApproval :=
  Map.insert ∅ nonce
    ⟨requestDigest PolicyEngine.sampleRequest, PolicyEngine.sampleRequest.targetHostId, 1000, false⟩

def approvalPayload (nonce : String) : ActivityCheckpointPayload :=
  { version := 2
    auditSequence := 0
    activities := []
    pending := ∅
    adminGrants := ∅
    policy := ⟨[], approvalUnder nonce⟩
    paused := false }

theorem digest_approvalPayload (nonce : String) :
    (approvalPayload nonce).digest = .ok (digestOf (approvalPayload nonce)) := by
  have hserializes : (approvalPayload nonce).Serializes :=
    { activities := List.forall_mem_nil _
      pending := List.forall_mem_nil _
      adminGrants := List.forall_mem_nil _
      rules := List.forall_mem_nil _ }
  rw [ActivityCheckpointPayload.digest, failIf_bind, if_neg (not_not_intro hserializes)]
  rfl

theorem exec_restore_approvalPayload (nonce : String) {s : DashboardService}
    (hempty : s.activities = ∅) (hpolicy : s.policy = PolicyEngine.new) (hash : HashOrder ActivityEvent)
    (nowMs : ℕ) :
    (restore ⟨approvalPayload nonce, digestOf (approvalPayload nonce)⟩ hash nowMs).exec s =
      (.ok (), s.withPayload (approvalPayload nonce) ⟨[], approvalUnder nonce⟩) := by
  have hsize : ¬Oversized (approvalPayload nonce) := by
    rintro (hversion | hmany | hmany | hmany)
    · exact hversion rfl
    · exact absurd hmany (Nat.not_lt_zero _)
    · exact absurd hmany (Nat.not_lt_zero _)
    · exact absurd hmany (Nat.not_lt_zero _)
  have hpending : ¬∃ entry ∈ (approvalPayload nonce).pending.toList, entry.2.request.id ≠ entry.1 ∨
      entry.2.nonce = "" ∨ entry.2.request.expiresAtMs = 0 := by
    rintro ⟨entry, hentry, -⟩
    exact absurd hentry List.not_mem_nil
  have hgrants : ¬∃ entry ∈ (approvalPayload nonce).adminGrants.toList, entry.1 = "" ∨
      entry.2.expiresAtMs = 0 ∨ entry.2.access.targetHostId ≠ s.localHostId := by
    rintro ⟨entry, hentry, -⟩
    exact absurd hentry List.not_mem_nil
  have hengine : (PolicyEngine.restoreCheckpoint (approvalPayload nonce).policy).exec s.policy
      = (.ok ⟨⟩, ⟨[], approvalUnder nonce⟩) := by
    rw [hpolicy]
    rfl
  have hnobody : hash.order
      (s.withPayload (approvalPayload nonce) ⟨[], approvalUnder nonce⟩).activeActivities = [] := by
    have hactive : (s.withPayload (approvalPayload nonce)
        ⟨[], approvalUnder nonce⟩).activeActivities = [] := by
      rw [activeActivities, withPayload, hempty]
      rfl
    have hperm := hash.perm
      (s.withPayload (approvalPayload nonce) ⟨[], approvalUnder nonce⟩).activeActivities
    rw [hactive] at hperm ⊢
    exact hperm.eq_nil
  have hrecorded : (approvalPayload nonce).auditSequence ≤ s.audit.store.lastSequence :=
    Nat.zero_le _
  have hreconciled : (reconcileAfterRestart hash nowMs).exec
      (s.withPayload (approvalPayload nonce) ⟨[], approvalUnder nonce⟩) =
      (.ok 0, s.withPayload (approvalPayload nonce) ⟨[], approvalUnder nonce⟩) := by
    rw [reconcileAfterRestart, exec_bind_ok (exec_get _), hnobody]
    rfl
  rw [restore, exec_throwIf_bind, if_neg hsize, exec_bind_ok (exec_get s), exec_throwIf_bind,
    if_neg (Nat.not_lt_of_le hrecorded), exec_orThrow_bind, digest_approvalPayload]
  dsimp only
  rw [exec_throwIf_bind, if_neg (not_not_intro rfl), exec_bind_ok (rfl : (restoreActivities
    (approvalPayload nonce).activities).exec s = (.ok (), s)), exec_throwIf_bind, if_neg hpending,
    exec_throwIf_bind, if_neg hgrants, exec_bind_ok (exec_modify _ _), exec_bind, exec_onPart, hengine]
  dsimp only [Except.mapError]
  rw [exec_bind_ok (exec_modify _ _)]
  exact exec_bind_of hreconciled rfl

def restarted (nonce : String) : Except (Fault DashboardServiceError) Unit × DashboardService :=
  newPersistent sampleService.localHostId (EventJournal.new 1 0) AuditStore.sampleFresh
    PolicyEngine.new ⟨none, []⟩ (.ok (some ⟨approvalPayload nonce, digestOf (approvalPayload nonce)⟩))
    ⟨id, fun l => List.Perm.refl l⟩ 0

theorem restarted_eq (nonce : String) :
    (restarted nonce).1 = .ok () ∧ (restarted nonce).2.policy = ⟨[], approvalUnder nonce⟩ := by
  rw [restarted, newPersistent]
  dsimp only
  rw [exec_restore_approvalPayload nonce rfl rfl]
  exact ⟨rfl, rfl⟩

omit [Sha256] in
/-- A nonce that the service has generated is restored without harm. -/
theorem serviceable_restarted : letI := PolicyEngine.approvalHash
    (restarted (hex PolicyEngine.sampleNonce.toList)).2.Serviceable := by
  let _ := PolicyEngine.approvalHash
  exact serviceable_of_noncesGenerate (.withBounds 1 0 Dashboard.maxEvents maxEventBytes)
    (restarted_eq _).1
    (noncesGenerate_empty.insert fun _ =>
      PolicyEngine.isSome_generatedRuleId_hex PolicyEngine.sampleNonce) []

omit [Sha256] in
/-- **The approval under the nonce `x` is restored, and cannot be remembered.** -/
theorem not_neverPanics : ¬∃ _ : Sha256, NeverPanics := by
  rintro ⟨_, hnever⟩
  obtain ⟨hok, hpolicy⟩ := restarted_eq "x"
  have hserviceable := hnever _ _ (.withBounds 1 0 Dashboard.maxEvents maxEventBytes) _ _ _ _ _ _ hok []
  have hredeems : PolicyEngine.Redeems (restarted "x").2.policy "x"
      ⟨PolicyEngine.sampleRequest.targetHostId⟩ PolicyEngine.sampleRequest .allowAndRemember 1
      ⟨requestDigest PolicyEngine.sampleRequest, PolicyEngine.sampleRequest.targetHostId, 1000,
        false⟩ := by
    rw [hpolicy]
    exact
      { valid := PolicyEngine.validate_sampleRequest
        lookup := Map.lookup_insert_self _ _ _
        unused := rfl
        now_lt := (by decide : 1 < 1000)
        target := rfl
        digest := rfl
        room := fun _ => (by decide : 0 < maxPolicyRules) }
  obtain ⟨outcome, houtcome⟩ := hserviceable.decides _ _ _ _ _ _ hredeems
  change ((PolicyEngine.decide _ _ _ _ _).exec (restarted "x").2.policy).1 = _ at houtcome
  rw [PolicyEngine.exec_decide_of_redeems hredeems, PolicyEngine.exec_createRule_some rfl, exactRule,
    generatedRuleId] at houtcome
  cases houtcome

end DashboardService

end Dashboard
