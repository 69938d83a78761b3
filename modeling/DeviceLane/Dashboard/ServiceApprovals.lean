/-
**The approvals of the service and those of its policy engine.**

The service waits for an approval that it finds by its nonce and the very access it was requested for;
the engine holds an approval under the nonce, for any access with the same digest, which does not
depend on the order of the resources. The two stay in step as long as nobody makes use of the
difference, and a nonce is not offered whose beginning names an approval that is still waited for.

Main definitions:

* `Dashboard.DashboardService.InStep` — the invariant of the calls.

Main results:

* `oneToOne_of_run` — **in every run of such calls the approvals correspond to each other**.
-/

import DeviceLane.Dashboard.PolicyApprovals
import DeviceLane.Dashboard.ServiceProgress

namespace Dashboard

open Effect

variable [Sha256]

/-! ### The two calls on the engine -/

namespace PolicyEngine

variable {engine : PolicyEngine} {nowMs : ℕ} {request : AccessRequest}

theorem createApproval_ok {engine' : PolicyEngine} {lifetimeMs : ℕ} {random : ℕ → Digest}
    {challenge : ApprovalChallenge}
    (h : (createApproval request nowMs lifetimeMs random).exec engine = (.ok challenge, engine')) :
    (engine.drop nowMs).findNonce (nonceCandidates random) = .ok challenge.nonce ∧
      (∃ attempt, challenge.nonce = hex (random attempt).toList) ∧
      engine' = (engine.drop nowMs).offer challenge.nonce request challenge.expiresAtMs := by
  cases hvalid : validateRequest request with
  | error =>
    rw [createApproval, hvalid, exec_bind_error (exec_orThrow _ _ _)] at h
    cases h
  | ok =>
    by_cases hlifetime : lifetimeMs = 0
    · rw [createApproval, hvalid, exec_bind_ok (exec_orThrow _ _ _), exec_throwIf_bind,
        if_pos hlifetime] at h
      cases h
    rw [exec_createApproval_of_valid engine hvalid nowMs hlifetime random] at h
    split_ifs at h with hroom
    · cases h
    cases hnonce : (engine.drop nowMs).findNonce (nonceCandidates random) with
    | error =>
      rw [hnonce] at h
      cases h
    | ok =>
      rw [hnonce] at h
      cases h
      obtain ⟨attempt, -, hattempt⟩ := List.mem_map.1 (findNonce_ok hnonce).1
      exact ⟨rfl, ⟨attempt, hattempt.symm⟩, rfl⟩

theorem decide_ok {engine' : PolicyEngine} {nonce : String} {session : AuthenticatedTargetSession}
    {decision : ApprovalDecision} {outcome : ApprovalOutcome}
    (h : (decide nonce session request decision nowMs).exec engine = (.ok outcome, engine')) :
    ∃ approval, Redeems engine nonce session request decision nowMs approval ∧
      engine'.approvals = engine.approvals.insert nonce { approval with used := true } := by
  rcases exec_decide engine nonce session request decision nowMs with
    ⟨-, _, hexec⟩ | ⟨approval, hredeems, ⟨-, hexec⟩ | ⟨_, -, ⟨-, hexec⟩ | ⟨_, -, hexec⟩⟩⟩
  · rw [hexec] at h
    cases h
  · rw [hexec] at h
    cases h
    exact ⟨approval, hredeems, rfl⟩
  · rw [hexec] at h
    cases h
  · rw [hexec] at h
    cases h
    exact ⟨approval, hredeems, rfl⟩

theorem decide_expired {nonce : String} {session : AuthenticatedTargetSession}
    {decision : ApprovalDecision} (h : ((decide nonce session request decision nowMs).exec engine).1
      = .error (.returned .expired)) :
    ∃ approval, engine.approvals.lookup nonce = some approval ∧ approval.expiresAtMs ≤ nowMs := by
  rw [decide] at h
  cases hvalid : validateRequest request with
  | error =>
    rw [hvalid, exec_bind_error (exec_orThrow _ _ _)] at h
    cases h
  | ok =>
    rw [hvalid, exec_bind_ok (exec_orThrow _ _ _), exec_bind_ok (exec_get _)] at h
    cases hlookup : engine.approvals.lookup nonce with
    | none =>
      rw [hlookup, exec_okOr_none_bind] at h
      cases h
    | some approval =>
      by_cases hnow : nowMs ≥ approval.expiresAtMs
      · exact ⟨approval, rfl, hnow⟩
      simp only [hlookup, exec_okOr_some_bind, exec_throwIf_bind, if_neg hnow] at h
      split_ifs at h with hused htarget hdigest hroom
      · cases h
      · cases h
      · cases h
      · cases h
      rw [exec_bind_ok (exec_modify _ _)] at h
      cases heffect : decision.createdEffect with
      | none =>
        rw [exec_createRule_none heffect] at h
        cases h
      | some =>
        rw [exec_createRule_some heffect] at h
        split at h
        · cases h
        · cases h

end PolicyEngine

def Pending.core (pending : Pending) : String × ApprovalRequest × AccessRequest :=
  (pending.nonce, pending.request, pending.access)

namespace DashboardService

variable {s s' : DashboardService}

/-! ### What has to agree -/

structure SameApprovals (s s' : DashboardService) : Prop where
  pending : ∀ id, (s'.pending.lookup id).map Pending.core = (s.pending.lookup id).map Pending.core
  approvals : s'.policy.approvals = s.policy.approvals

instance : Std.Refl SameApprovals := ⟨fun _ => ⟨fun _ => rfl, rfl⟩⟩

instance : IsTrans DashboardService SameApprovals where
  trans _ _ _ h h' :=
    ⟨fun id => (h'.pending id).trans (h.pending id), h'.approvals.trans h.approvals⟩

section

omit [Sha256]

theorem SameApprovals.lookup (h : SameApprovals s s') {id : ApprovalId} {pending : Pending}
    (hlookup : s'.pending.lookup id = some pending) :
    ∃ before, s.pending.lookup id = some before ∧ before.core = pending.core := by
  have hcore := h.pending id
  rw [hlookup, Option.map_some] at hcore
  exact Option.map_eq_some_iff.1 hcore.symm

theorem SameApprovals.symm (h : SameApprovals s s') : SameApprovals s' s :=
  ⟨fun id => (h.pending id).symm, h.approvals.symm⟩

theorem SameCore.sameApprovals (h : SameCore s s') : SameApprovals s s' :=
  ⟨fun id => by rw [h.pending], by rw [h.policy]⟩

end

theorem frame_sameApprovals : Frame SameApprovals where
  appendAudit record := (sameCore_appendAudit record).mono fun _ _ h => h.sameApprovals
  recordActivity event key := (sameCore_recordActivity event key).mono fun _ _ h => h.sameApprovals
  persistState activities := (sameCore_persistState activities).mono fun _ _ h => h.sameApprovals
  deleteAudit _ _ _ := ⟨fun _ => rfl, rfl⟩
  unhealthy _ := ⟨fun _ => rfl, rfl⟩
  adminGrants _ _ := ⟨fun _ => rfl, rfl⟩
  paused _ _ := ⟨fun _ => rfl, rfl⟩
  rules _ _ := ⟨fun _ => rfl, rfl⟩
  subscribers _ _ := ⟨fun _ => rfl, rfl⟩

def Awaits (s : DashboardService) (t : ℕ) (id : ApprovalId) (pending : Pending) : Prop :=
  s.pending.lookup id = some pending ∧ t < pending.request.expiresAtMs

def Holds (s : DashboardService) (t : ℕ) (nonce : String) (approval : PendingApproval) : Prop :=
  s.policy.approvals.lookup nonce = some approval ∧ approval.used = false ∧ t < approval.expiresAtMs

structure Corresponds (pending : Pending) (approval : PendingApproval) : Prop where
  request : approval.requestDigest = requestDigest pending.access
  target : approval.targetHostId = pending.access.targetHostId
  expires : approval.expiresAtMs = pending.request.expiresAtMs

/-- At a time, what the service waits for is what the engine holds. -/
structure OneToOne (s : DashboardService) (t : ℕ) : Prop where
  held : ∀ id pending, s.Awaits t id pending →
    ∃ approval, s.Holds t pending.nonce approval ∧ Corresponds pending approval
  awaited : ∀ nonce approval, s.Holds t nonce approval →
    ∃ id pending, s.Awaits t id pending ∧ pending.nonce = nonce ∧ Corresponds pending approval
  unique : ∀ id id' pending pending', s.Awaits t id pending → s.Awaits t id' pending' →
    pending.nonce = pending'.nonce → id = id'

/-- The invariant: every approval that is waited for has its identifier from its nonce, and the
approvals that have not expired by the time `t` correspond to each other. -/
structure InStep (t : ℕ) (s : DashboardService) : Prop where
  named : ∀ id pending, s.pending.lookup id = some pending → approvalIdOf pending.nonce = .ok id
  held : ∀ id pending, s.Awaits t id pending →
    ∃ approval, s.Holds t pending.nonce approval ∧ Corresponds pending approval
  awaited : ∀ nonce approval, s.Holds t nonce approval →
    ∃ id pending, s.Awaits t id pending ∧ pending.nonce = nonce ∧ Corresponds pending approval

namespace InStep

variable {t : ℕ} {s s' : DashboardService}

variable {id : ApprovalId}

theorem eq_of_nonce (h : InStep t s) {id' : ApprovalId} {pending pending' : Pending}
    (hlookup : s.pending.lookup id = some pending) (hlookup' : s.pending.lookup id' = some pending')
    (hnonce : pending.nonce = pending'.nonce) : id = id' ∧ pending = pending' := by
  have hid := h.named id pending hlookup
  rw [hnonce, h.named id' pending' hlookup'] at hid
  obtain rfl : id' = id := Except.ok.inj hid
  exact ⟨rfl, Option.some.inj (hlookup.symm.trans hlookup')⟩

theorem oneToOne (h : InStep t s) : s.OneToOne t where
  held := h.held
  awaited := h.awaited
  unique _ _ _ _ hawaits hawaits' hnonce := (h.eq_of_nonce hawaits.1 hawaits'.1 hnonce).1

theorem same (h : InStep t s) (hsame : SameApprovals s s') : InStep t s' := by
  have hcore : ∀ {before after : Pending}, before.core = after.core → before.nonce = after.nonce ∧
      before.request = after.request ∧ before.access = after.access := by
    intro before after heq
    simpa only [Pending.core, Prod.mk.injEq] using heq
  constructor
  · intro id pending hlookup
    obtain ⟨before, hbefore, heq⟩ := hsame.lookup hlookup
    rw [← (hcore heq).1]
    exact h.named id before hbefore
  · rintro id pending ⟨hlookup, hlt⟩
    obtain ⟨before, hbefore, heq⟩ := hsame.lookup hlookup
    obtain ⟨hnonce, hrequest, haccess⟩ := hcore heq
    obtain ⟨approval, hholds, hcorresponds⟩ := h.held id before ⟨hbefore, hrequest ▸ hlt⟩
    refine ⟨approval, ⟨?_, hholds.2⟩, ⟨?_, ?_, ?_⟩⟩
    · rw [hsame.approvals, ← hnonce]
      exact hholds.1
    · rw [← haccess]
      exact hcorresponds.request
    · rw [← haccess]
      exact hcorresponds.target
    · rw [← hrequest]
      exact hcorresponds.expires
  · rintro nonce approval ⟨hlookup, hopen⟩
    rw [hsame.approvals] at hlookup
    obtain ⟨id, before, hawaits, rfl, hcorresponds⟩ := h.awaited nonce approval ⟨hlookup, hopen⟩
    obtain ⟨after, hafter, heq⟩ := hsame.symm.lookup hawaits.1
    obtain ⟨hnonce, hrequest, haccess⟩ := hcore heq
    refine ⟨id, after, ⟨hafter, hrequest ▸ hawaits.2⟩, hnonce, ⟨?_, ?_, ?_⟩⟩
    · rw [haccess]
      exact hcorresponds.request
    · rw [haccess]
      exact hcorresponds.target
    · rw [hrequest]
      exact hcorresponds.expires

theorem erase (h : InStep t s) (hclosed : ∀ pending, ¬s.Awaits t id pending)
    (hpending : ∀ id', s'.pending.lookup id' = if id' = id then none else s.pending.lookup id')
    (happrovals : s'.policy.approvals = s.policy.approvals) : InStep t s' := by
  have hlookup : ∀ {id' pending}, s'.pending.lookup id' = some pending →
      s.pending.lookup id' = some pending := by
    intro id' pending hafter
    rw [hpending] at hafter
    split at hafter
    · cases hafter
    · exact hafter
  constructor
  · intro id' pending hafter
    exact h.named id' pending (hlookup hafter)
  · rintro id' pending ⟨hafter, hlt⟩
    obtain ⟨approval, hholds, hcorresponds⟩ := h.held id' pending ⟨hlookup hafter, hlt⟩
    refine ⟨approval, ⟨?_, hholds.2⟩, hcorresponds⟩
    rw [happrovals]
    exact hholds.1
  · rintro nonce approval ⟨hafter, hopen⟩
    rw [happrovals] at hafter
    obtain ⟨id', pending, hawaits, hnonce, hcorresponds⟩ := h.awaited nonce approval ⟨hafter, hopen⟩
    refine ⟨id', pending, ⟨?_, hawaits.2⟩, hnonce, hcorresponds⟩
    have hne : id' ≠ id := by
      rintro rfl
      exact hclosed pending hawaits
    rw [hpending, if_neg hne]
    exact hawaits.1

/-- A new approval is offered and waited for: the engine has dropped none that is open, and the
identifier is not that of an open one. -/
theorem offer (h : InStep t s) {access : AccessRequest} {nowMs : ℕ} {challenge : ApprovalChallenge}
    (hid : approvalIdOf challenge.nonce = .ok id)
    (hcurrent : ∀ id' pending, s.Awaits t id' pending → nowMs < pending.request.expiresAtMs)
    (hclosed : ∀ pending, ¬s.Awaits t id pending)
    (hpending : s'.pending = s.pending.insert id (pendingFor id challenge access nowMs))
    (happrovals : s'.policy.approvals
      = ((s.policy.drop nowMs).offer challenge.nonce access challenge.expiresAtMs).approvals) :
    InStep t s' := by
  -- The new approval corresponds to itself, and no other one has its nonce or its identifier.
  have hnew : Corresponds (pendingFor id challenge access nowMs)
      ⟨requestDigest access, access.targetHostId, challenge.expiresAtMs, false⟩ := ⟨rfl, rfl, rfl⟩
  have hother : ∀ {id' pending}, s.pending.lookup id' = some pending → id' ≠ id →
      pending.nonce ≠ challenge.nonce := by
    intro id' pending hlookup hne hnonce
    have hnamed := h.named id' pending hlookup
    rw [hnonce, hid] at hnamed
    exact hne (Except.ok.inj hnamed).symm
  constructor
  · intro id' pending hlookup
    rw [hpending, Map.lookup_insert] at hlookup
    split at hlookup
    · cases hlookup
      rw [‹id' = id›]
      exact hid
    · exact h.named id' pending hlookup
  · rintro id' pending ⟨hlookup, hlt⟩
    rw [hpending, Map.lookup_insert] at hlookup
    split at hlookup
    · cases hlookup
      refine ⟨_, ⟨?_, rfl, hlt⟩, hnew⟩
      rw [happrovals]
      exact Map.lookup_insert_self _ _ _
    · rename_i hne
      obtain ⟨approval, ⟨hheld, hunused, happroval⟩, hcorresponds⟩ := h.held id' pending ⟨hlookup, hlt⟩
      have hnow : nowMs < approval.expiresAtMs := by
        rw [hcorresponds.expires]
        exact hcurrent id' pending ⟨hlookup, hlt⟩
      refine ⟨approval, ⟨?_, hunused, happroval⟩, hcorresponds⟩
      rw [happrovals, PolicyEngine.offer, Map.lookup_insert_ne (hother hlookup hne), PolicyEngine.drop,
        PolicyEngine.openApprovals, Map.lookup_retain, hheld]
      simp [hunused, hnow]
  · rintro nonce approval ⟨hlookup, hopen⟩
    rw [happrovals, PolicyEngine.offer, Map.lookup_insert] at hlookup
    split at hlookup
    · cases hlookup
      refine ⟨id, _, ⟨?_, hopen.2⟩, Eq.symm ‹nonce = challenge.nonce›, hnew⟩
      rw [hpending]
      exact Map.lookup_insert_self _ _ _
    · have hheld := PolicyEngine.lookup_of_openApprovals hlookup
      obtain ⟨id', pending, hawaits, hnonce, hcorresponds⟩ := h.awaited nonce approval ⟨hheld, hopen⟩
      refine ⟨id', pending, ⟨?_, hawaits.2⟩, hnonce, hcorresponds⟩
      have hne : id' ≠ id := by
        rintro rfl
        exact hclosed pending hawaits
      rw [hpending, Map.lookup_insert_ne hne]
      exact hawaits.1

theorem use (h : InStep t s) {nonce : String} {approval : PendingApproval}
    (hkeeps : ∀ id pending, s'.pending.lookup id = some pending ↔
      s.pending.lookup id = some pending ∧ pending.nonce ≠ nonce)
    (happrovals : s'.policy.approvals
      = s.policy.approvals.insert nonce { approval with used := true }) : InStep t s' := by
  constructor
  · intro id pending hlookup
    exact h.named id pending ((hkeeps id pending).1 hlookup).1
  · rintro id pending ⟨hlookup, hlt⟩
    obtain ⟨hbefore, hne⟩ := (hkeeps id pending).1 hlookup
    obtain ⟨held, hholds, hcorresponds⟩ := h.held id pending ⟨hbefore, hlt⟩
    refine ⟨held, ⟨?_, hholds.2⟩, hcorresponds⟩
    rw [happrovals, Map.lookup_insert_ne hne]
    exact hholds.1
  · rintro nonce' held ⟨hlookup, hunused, hlt⟩
    rw [happrovals, Map.lookup_insert] at hlookup
    split at hlookup
    · cases hlookup
      cases hunused
    · obtain ⟨id, pending, hawaits, rfl, hcorresponds⟩ :=
        h.awaited nonce' held ⟨hlookup, hunused, hlt⟩
      exact ⟨id, pending, ⟨(hkeeps id pending).2 ⟨hawaits.1, ‹_›⟩, hawaits.2⟩, rfl, hcorresponds⟩

end InStep

/-! ### Asking for an approval -/

/-- What a request does to the approvals of both sides: nothing, or it offers an approval, which is
then waited for or, where that cannot be published, withdrawn. -/
inductive Requests (access : AccessRequest) (nowMs : ℕ) (random : ℕ → Digest)
    (s s' : DashboardService) : Prop
  | same (hsame : SameApprovals s s')
  | published (challenge : ApprovalChallenge) (id : ApprovalId)
      (hnonce : (s.policy.drop nowMs).findNonce (PolicyEngine.nonceCandidates random)
        = .ok challenge.nonce)
      (hid : approvalIdOf challenge.nonce = .ok id)
      (hpending : s'.pending = s.pending.insert id (pendingFor id challenge access nowMs))
      (happrovals : s'.policy.approvals
        = ((s.policy.drop nowMs).offer challenge.nonce access challenge.expiresAtMs).approvals)
  | withdrawn (nonce : String) (id : ApprovalId)
      (hnonce : (s.policy.drop nowMs).findNonce (PolicyEngine.nonceCandidates random) = .ok nonce)
      (hid : approvalIdOf nonce = .ok id)
      (hpending : ∀ id', s'.pending.lookup id' = if id' = id then none else s.pending.lookup id')
      (happrovals : s'.policy.approvals = s.policy.approvals)

theorem Requests.of_sameCore {access : AccessRequest} {nowMs : ℕ} {random : ℕ → Digest}
    {s₁ : DashboardService} (hcore : SameCore s s₁) (h : Requests access nowMs random s₁ s') :
    Requests access nowMs random s s' := by
  cases h with
  | same hsame => exact .same (IsTrans.trans _ _ _ hcore.sameApprovals hsame)
  | published challenge id hnonce hid hpending happrovals =>
    rw [hcore.policy] at hnonce happrovals
    rw [hcore.pending] at hpending
    exact .published challenge id hnonce hid hpending happrovals
  | withdrawn nonce id hnonce hid hpending happrovals =>
    rw [hcore.policy] at hnonce happrovals
    rw [hcore.pending] at hpending
    exact .withdrawn nonce id hnonce hid hpending happrovals

theorem awaitApproval_cases (access : AccessRequest) (challenge : ApprovalChallenge)
    (nextPolicy : PolicyEngine) (nowMs : ℕ) (s : DashboardService) {s' : DashboardService}
    (hs' : ((awaitApproval access challenge nextPolicy nowMs).exec s).2 = s') :
    SameCore s s' ∨ ∃ id, approvalIdOf challenge.nonce = .ok id ∧
      (s'.pending = s.pending.insert id (pendingFor id challenge access nowMs) ∧
          s'.policy = nextPolicy ∨
        (∀ id', s'.pending.lookup id' = if id' = id then none else s.pending.lookup id') ∧
          s'.policy = s.policy) := by
  subst hs'
  rw [awaitApproval]
  cases hid : approvalIdOf challenge.nonce with
  | error =>
    rw [exec_bind_error (exec_orThrow _ _ _)]
    exact .inl (refl s)
  | ok id =>
    rw [exec_bind_ok (exec_orThrow _ _ _), exec_bind_ok (exec_get _),
      exec_bind_ok (exec_modify _ _), exec_bind_ok (exec_attempt _ _)]
    -- Publishing keeps both sides as they have just been set.
    have hcore := sameCore_recordActivity
      (accessEvent access (s.nextSequence access.activityId) nowMs ⟨.allow, none, some id⟩
        .awaitingApproval none none none) ("approval-request:" ++ challenge.nonce)
      { s with
        policy := nextPolicy
        pending := s.pending.insert id (pendingFor id challenge access nowMs) }
    revert hcore
    generalize (recordActivity _ ("approval-request:" ++ challenge.nonce)).exec _ = published
    rcases published with ⟨outcome, s'⟩
    intro hcore
    refine .inr ⟨id, rfl, ?_⟩
    cases outcome with
    | ok => exact .inl ⟨hcore.pending, hcore.policy⟩
    | error fault =>
      have hback : SameCore { s' with policy := s.policy, pending := s'.pending.erase id }
          ((auditAccess access .allow .failed nowMs >>= fun _ =>
            (throw fault : ServiceEff ApprovalChallenge)).exec
              { s' with policy := s.policy, pending := s'.pending.erase id }).2 :=
        Within.bind (writes_sameCore.auditAccess _ _ _ _) (fun _ => .throw _) _
      dsimp only
      rw [exec_bind_ok (exec_modify _ _)]
      refine .inr ⟨fun id' => ?_, hback.policy⟩
      have hpending : s'.pending = s.pending.insert id (pendingFor id challenge access nowMs) :=
        hcore.pending
      rw [hback.pending, Map.lookup_erase, hpending]
      split
      · rfl
      · exact Map.lookup_insert_ne ‹_› _

theorem requestApproval_cases (access : AccessRequest) (lifetimeMs nowMs : ℕ) (random : ℕ → Digest)
    (s : DashboardService) :
    SameCore s ((requestApproval access lifetimeMs nowMs random).exec s).2 ∨
      ∃ s₁ challenge nextPolicy, SameCore s s₁ ∧
        (PolicyEngine.createApproval access nowMs lifetimeMs random).exec s₁.policy
          = (.ok challenge, nextPolicy) ∧
        ((requestApproval access lifetimeMs nowMs random).exec s).2
          = ((awaitApproval access challenge nextPolicy nowMs).exec s₁).2 := by
  have hpending : SameCore s ((createPending access lifetimeMs nowMs random).exec s).2 ∨
      ∃ s₁ challenge nextPolicy, SameCore s s₁ ∧
        (PolicyEngine.createApproval access nowMs lifetimeMs random).exec s₁.policy
          = (.ok challenge, nextPolicy) ∧
        ((createPending access lifetimeMs nowMs random).exec s).2
          = ((awaitApproval access challenge nextPolicy nowMs).exec s₁).2 := by
    have haudited := writes_sameCore.auditAccess access .allow .attempted nowMs s
    rw [createPending]
    rcases haudit : (auditAccess access .allow .attempted nowMs).exec s with ⟨outcome, s₁⟩
    rw [haudit] at haudited
    cases outcome with
    | error =>
      rw [exec_bind_error haudit]
      exact .inl haudited
    | ok =>
      rw [exec_bind_ok haudit, exec_bind_ok (exec_get _)]
      split
      · exact .inl haudited
      · refine .inl (IsTrans.trans _ _ _ haudited ?_)
        exact Within.bind (writes_sameCore.auditAccess _ _ _ _) (fun _ => .throw _) _
      · exact .inr ⟨s₁, _, _, haudited, ‹_›, rfl⟩
  rw [requestApproval, exec_bind_ok (exec_get _), exec_throwIf_bind]
  split
  · exact .inl (refl s)
  split
  · exact .inl (refl s)
  · exact .inl (Within.bind (writes_sameCore.recordDenied _ _) (fun _ => .throw _) s)
  · exact hpending
  · exact hpending

/-- **What a request does to the approvals of both sides.** -/
theorem requests_requestApproval (access : AccessRequest) (lifetimeMs nowMs : ℕ)
    (random : ℕ → Digest) (s : DashboardService) :
    Requests access nowMs random s
      ((requestApproval access lifetimeMs nowMs random).exec s).2 := by
  rcases requestApproval_cases access lifetimeMs nowMs random s with
    hsame | ⟨s₁, challenge, nextPolicy, hcore, hcreated, hexec⟩
  · exact .same hsame.sameApprovals
  obtain ⟨hnonce, -, hoffered⟩ := PolicyEngine.createApproval_ok hcreated
  rw [hexec]
  refine .of_sameCore hcore ?_
  rcases awaitApproval_cases access challenge nextPolicy nowMs s₁ rfl with
    hsame | ⟨id, hid, ⟨hpending, hpolicy⟩ | ⟨hpending, hpolicy⟩⟩
  · exact .same hsame.sameApprovals
  · refine .published challenge id hnonce hid hpending ?_
    rw [hpolicy, hoffered]
  · exact .withdrawn challenge.nonce id hnonce hid hpending (congrArg PolicyEngine.approvals hpolicy)

theorem sameApprovals_bindMutation (nonce digest : String) :
    Within SameApprovals (bindMutation nonce digest) := by
  intro s
  rw [bindMutation, exec_bind_ok (exec_get _)]
  cases hfind : findKey ValidatedId.text (fun pending => Pending.nonce pending = nonce) s.pending with
  | none =>
    rw [exec_okOr_none_bind]
    exact refl s
  | some entry =>
    obtain ⟨id, pending⟩ := entry
    have hlookup := (findKey_eq_some hfind).1
    have hbound : ∀ (s' : DashboardService) (bound : Option String), SameApprovals s s' →
        SameApprovals s { s' with
          pending := s'.pending.insert id { pending with adminMutationDigest := bound } } := by
      intro s' bound hsame
      refine ⟨fun id' => ?_, hsame.approvals⟩
      rw [Map.lookup_insert]
      split
      · rw [‹id' = id›, hlookup]
        rfl
      · exact hsame.pending id'
    rw [exec_okOr_some_bind, exec_bind_ok (exec_modify _ _), exec_bind_ok (exec_attempt _ _)]
    have hwritten := IsTrans.trans _ _ _ (hbound s (some digest) (refl s))
      (frame_sameApprovals.persistState s.activities _)
    revert hwritten
    generalize (persistState s.activities).exec _ = written
    rcases written with ⟨outcome, s'⟩
    intro hwritten
    cases outcome with
    | ok => exact hwritten
    | error => exact hbound s' none hwritten

/-! ### Deciding about an approval -/

/-- What a decision does to the approvals of both sides: nothing, or what is waited for with its nonce
and its access is not waited for any more, because it has expired or because the nonce is used up. -/
inductive Decides (nonce : String) (session : AuthenticatedTargetSession) (access : AccessRequest)
    (decision : ApprovalDecision) (nowMs : ℕ) (s : DashboardService) :
    Except (Fault DashboardServiceError) (Option PolicyRule) × DashboardService → Prop
  | refused (fault : Fault DashboardServiceError) {s' : DashboardService}
      (hsame : SameApprovals s s') :
      Decides nonce session access decision nowMs s (.error fault, s')
  | expired (fault : Fault DashboardServiceError) {s' : DashboardService}
      (approval : PendingApproval) (hlookup : s.policy.approvals.lookup nonce = some approval)
      (hexpired : approval.expiresAtMs ≤ nowMs)
      (hpending : s'.pending = erasePending (s.decidedPending nonce access) s.pending)
      (happrovals : s'.policy.approvals = s.policy.approvals) :
      Decides nonce session access decision nowMs s (.error fault, s')
  | redeemed (createdRule : Option PolicyRule) {s' : DashboardService} (approval : PendingApproval)
      (hredeems : PolicyEngine.Redeems s.policy nonce session access decision nowMs approval)
      (hpending : s'.pending = erasePending (s.decidedPending nonce access) s.pending)
      (happrovals : s'.policy.approvals
        = s.policy.approvals.insert nonce { approval with used := true }) :
      Decides nonce session access decision nowMs s (.ok createdRule, s')

section

variable {nonce : String} {session : AuthenticatedTargetSession} {access : AccessRequest}
  {decision : ApprovalDecision} {nowMs : ℕ} {s s₁ : DashboardService}

theorem Decides.congr
    {r : Except (Fault DashboardServiceError) (Option PolicyRule) × DashboardService}
    (hpolicy : s₁.policy = s.policy) (hpending₁ : s₁.pending = s.pending)
    (h : Decides nonce session access decision nowMs s₁ r) :
    Decides nonce session access decision nowMs s r := by
  have hdecided : s₁.decidedPending nonce access = s.decidedPending nonce access := by
    rw [decidedPending, decidedPending, hpending₁]
  cases h with
  | refused fault hsame =>
    refine .refused fault (IsTrans.trans s s₁ _ ⟨fun id => ?_, ?_⟩ hsame)
    · rw [hpending₁]
    · rw [hpolicy]
  | expired fault approval hlookup hexpired hpending happrovals =>
    rw [hpolicy] at hlookup happrovals
    rw [hpending₁, hdecided] at hpending
    exact .expired fault approval hlookup hexpired hpending happrovals
  | redeemed createdRule approval hredeems hpending happrovals =>
    rw [hpolicy] at hredeems happrovals
    rw [hpending₁, hdecided] at hpending
    exact .redeemed createdRule approval hredeems hpending happrovals

theorem Decides.of_throw {m : ServiceEff Unit} (hm : Within SameCore m)
    (fault : Fault DashboardServiceError) (s : DashboardService) :
    Decides nonce session access decision nowMs s
      ((m >>= fun _ => (throw fault : ServiceEff (Option PolicyRule))).exec s) := by
  have hsame := hm s
  rcases hexec : m.exec s with ⟨outcome, _⟩
  rw [hexec] at hsame
  cases outcome with
  | error fault' =>
    rw [exec_bind_error hexec]
    exact .refused fault' hsame.sameApprovals
  | ok =>
    rw [exec_bind_ok hexec]
    exact .refused fault hsame.sameApprovals

omit [Sha256] in
theorem eq_expired_of_mapApprovalError {error : ApprovalError}
    (h : mapApprovalError error = .approvalExpired) : error = .expired := by
  cases error <;> first | rfl | cases h

theorem decides_refuseDecision (effect : PolicyEffect) {error : ApprovalError}
    (herror : ((PolicyEngine.decide nonce session access decision nowMs).exec s.policy).1
      = .error (.returned error)) :
    Decides nonce session access decision nowMs s
      ((refuseDecision (s.decidedPending nonce access) access effect error nowMs).exec s) := by
  rw [refuseDecision]
  split
  · rename_i hexpired
    obtain rfl := eq_expired_of_mapApprovalError hexpired
    obtain ⟨approval, hlookup, hlate⟩ := PolicyEngine.decide_expired herror
    rw [exec_bind_ok (exec_modify _ _)]
    have hcore := writes_sameCore.transitionActivity access.activityId .failed unavailableMetrics
      (some ⟨.approvalExpired, []⟩) nowMs
      { s with pending := erasePending (s.decidedPending nonce access) s.pending }
    rcases hexec : (transitionActivity access.activityId .failed unavailableMetrics
      (some ⟨.approvalExpired, []⟩) nowMs).exec
      { s with pending := erasePending (s.decidedPending nonce access) s.pending } with ⟨outcome, s'⟩
    rw [hexec] at hcore
    cases outcome with
    | error fault =>
      rw [exec_bind_error hexec]
      exact .expired fault approval hlookup hlate hcore.pending
        (congrArg PolicyEngine.approvals hcore.policy)
    | ok =>
      rw [exec_bind_ok hexec]
      exact .expired _ approval hlookup hlate hcore.pending
        (congrArg PolicyEngine.approvals hcore.policy)
  · exact .of_throw (writes_sameCore.auditAccess _ _ _ _) _ _

theorem decides_applyDecision (effect : PolicyEffect) {outcome : ApprovalOutcome}
    {nextPolicy : PolicyEngine}
    (hdecided : (PolicyEngine.decide nonce session access decision nowMs).exec s.policy
      = (.ok outcome, nextPolicy)) :
    Decides nonce session access decision nowMs s
      ((applyDecision nonce (s.decidedPending nonce access) access effect outcome.createdRule
        nextPolicy nowMs).exec s) := by
  obtain ⟨approval, hredeems, happrovals⟩ := PolicyEngine.decide_ok hdecided
  rw [applyDecision, exec_bind_ok (exec_get _), exec_bind_ok (exec_modify _ _),
    exec_bind_ok (exec_attempt _ _)]
  generalize hevent : accessEvent access (s.nextSequence access.activityId) nowMs _ _ _ _ _ = event
  have hcore := sameCore_recordActivity event ("approval-decision:" ++ nonce)
    { s with
      policy := nextPolicy
      pending := erasePending (s.decidedPending nonce access) s.pending
      adminGrants := s.grantsAfter nonce (s.decidedPending nonce access) access effect nowMs }
  revert hcore
  generalize (recordActivity event ("approval-decision:" ++ nonce)).exec _ = published
  rcases published with ⟨result, s'⟩
  intro hcore
  cases result with
  | ok =>
    exact .redeemed _ approval hredeems hcore.pending
      ((congrArg PolicyEngine.approvals hcore.policy).trans happrovals)
  | error fault =>
    dsimp only
    rw [exec_bind_ok (exec_modify _ _)]
    refine Decides.congr (s := s) ?_ ?_ (.of_throw
      (writes_sameCore.auditAccess access effect .failed nowMs) fault
      { s' with policy := s.policy, adminGrants := s.adminGrants, pending := s.pending })
    · rfl
    · rfl

theorem decides_decideUndenied (nonce : String) (session : AuthenticatedTargetSession)
    (access : AccessRequest) (decision : ApprovalDecision) (nowMs : ℕ) (s : DashboardService) :
    Decides nonce session access decision nowMs s
      ((decideUndenied nonce session access decision nowMs).exec s) := by
  have haudited := writes_sameCore.auditAccess access decision.effect .attempted nowMs s
  rw [decideUndenied, exec_bind_ok (exec_get _)]
  dsimp only
  rcases haudit : (auditAccess access decision.effect .attempted nowMs).exec s with ⟨outcome, s₁⟩
  rw [haudit] at haudited
  have hdecided : s₁.decidedPending nonce access = s.decidedPending nonce access := by
    rw [decidedPending, decidedPending, haudited.pending]
  cases outcome with
  | error fault =>
    rw [exec_bind_error haudit]
    exact .refused fault haudited.sameApprovals
  | ok =>
    rw [exec_bind_ok haudit, ← hdecided, ← haudited.policy]
    refine .congr haudited.policy haudited.pending ?_
    split
    · exact .refused _ (refl s₁)
    · rename_i hrefused
      exact decides_refuseDecision _ (by rw [hrefused])
    · exact decides_applyDecision _ ‹_›

/-- **What a decision does to the approvals of both sides.** -/
theorem decides_decideApproval (nonce : String) (session : AuthenticatedTargetSession)
    (access : AccessRequest) (decision : ApprovalDecision) (nowMs : ℕ) (s : DashboardService) :
    Decides nonce session access decision nowMs s
      ((decideApproval nonce session access decision nowMs).exec s) := by
  rw [decideApproval, exec_bind_ok (exec_get _), exec_throwIf_bind]
  split
  · exact .refused _ (refl s)
  split
  · exact .of_throw (writes_sameCore.auditAccess _ _ _ _) _ _
  · exact decides_decideUndenied _ _ _ _ _ _
  · exact decides_decideUndenied _ _ _ _ _ _
  · exact decides_decideUndenied _ _ _ _ _ _

end

/-! ### The calls that keep both sides in step -/

/-- A request for which the engine drops no approval that is open, and offers a nonce whose identifier
is not that of an open approval. -/
structure OffersFresh (t : ℕ) (s : DashboardService) (nowMs : ℕ) (random : ℕ → Digest) : Prop where
  current : ∀ id pending, s.Awaits t id pending → nowMs < pending.request.expiresAtMs
  fresh : ∀ nonce id pending,
    (s.policy.drop nowMs).findNonce (PolicyEngine.nonceCandidates random) = .ok nonce →
      approvalIdOf nonce = .ok id → ¬s.Awaits t id pending

/-- A decision that does not come too late for an approval that is open, and that redeems the nonce
for just the access it was requested for. -/
structure DecidesExactly (t : ℕ) (s : DashboardService) (nonce : String)
    (session : AuthenticatedTargetSession) (access : AccessRequest) (decision : ApprovalDecision)
    (nowMs : ℕ) : Prop where
  current : ∀ id pending, s.Awaits t id pending → pending.nonce = nonce →
    nowMs < pending.request.expiresAtMs
  access_eq : ∀ approval,
    PolicyEngine.Redeems s.policy nonce session access decision nowMs approval →
      ∀ id pending, s.pending.lookup id = some pending → pending.nonce = nonce →
        pending.access = access

namespace InStep

variable {t : ℕ} {s : DashboardService}

variable {nowMs : ℕ}

theorem requestApproval (h : InStep t s) {access : AccessRequest} {lifetimeMs : ℕ}
    {random : ℕ → Digest} (hfresh : OffersFresh t s nowMs random) :
    InStep t ((requestApproval access lifetimeMs nowMs random).exec s).2 := by
  cases requests_requestApproval access lifetimeMs nowMs random s with
  | same hsame => exact h.same hsame
  | published challenge id hnonce hid hpending happrovals =>
    exact h.offer hid hfresh.current (fun pending => hfresh.fresh _ id pending hnonce hid) hpending
      happrovals
  | withdrawn nonce id hnonce hid hpending happrovals =>
    exact h.erase (fun pending => hfresh.fresh _ id pending hnonce hid) hpending happrovals

theorem requestAdminMutationApproval (h : InStep t s) {mutation : AdminMutation} {lifetimeMs : ℕ}
    {random : ℕ → Digest} (hfresh : OffersFresh t s nowMs random) :
    InStep t ((requestAdminMutationApproval mutation lifetimeMs nowMs random).exec s).2 := by
  rw [DashboardService.requestAdminMutationApproval]
  cases mutation.digest with
  | error => exact h
  | ok digest =>
    rw [exec_bind_ok (exec_orThrow _ _ _)]
    cases takeBytes 16 digest.toList with
    | none => exact h
    | some start =>
      rw [exec_okOr_some_bind]
      cases (parseId ("admin-" ++ String.ofList start) :
        Except (Fault DashboardServiceError) ActivityId) with
      | error fault => exact h
      | ok activityId =>
        rw [exec_bind_ok (exec_orThrow _ _ _), exec_bind_ok (exec_get _)]
        dsimp only
        generalize adminRequest s.localHostId activityId _ _ = access
        have hrequested : InStep t
            ((DashboardService.requestApproval access lifetimeMs nowMs random).exec s).2 :=
          h.requestApproval hfresh
        rw [exec_bind]
        revert hrequested
        generalize (DashboardService.requestApproval access lifetimeMs nowMs random).exec s
          = requested
        rcases requested with ⟨outcome, s₁⟩
        intro hrequested
        cases outcome with
        | error => exact hrequested
        | ok created =>
          refine hrequested.same ?_
          exact Within.bind (sameApprovals_bindMutation created.nonce digest)
            (fun _ => .pure _) s₁

/-- **A decision keeps both sides in step**, and once it has succeeded nothing is waited for with its
nonce. -/
theorem decides (h : InStep t s) {nonce : String} {session : AuthenticatedTargetSession}
    {access : AccessRequest} {decision : ApprovalDecision}
    (hexact : DecidesExactly t s nonce session access decision nowMs)
    {r : Except (Fault DashboardServiceError) (Option PolicyRule) × DashboardService}
    (hdecides : Decides nonce session access decision nowMs s r) :
    InStep t r.2 ∧ ∀ createdRule, r.1 = .ok createdRule →
      ∀ id pending, r.2.pending.lookup id = some pending → pending.nonce ≠ nonce := by
  have hfound : ∀ {id pending}, s.decidedPending nonce access = some (id, pending) →
      s.pending.lookup id = some pending ∧ pending.nonce = nonce := by
    intro id pending hfind
    obtain ⟨hlookup, htest⟩ := findKey_eq_some hfind
    simp only [Bool.and_eq_true, decide_eq_true_eq] at htest
    exact ⟨hlookup, htest.1⟩
  cases hdecides with
  | refused fault hsame => exact ⟨h.same hsame, fun _ hok => by cases hok⟩
  | @expired fault s' approval hlookup hexpired hpending happrovals =>
    refine ⟨?_, fun _ hok => by cases hok⟩
    cases hentry : s.decidedPending nonce access with
    | none =>
      rw [hentry] at hpending
      exact h.same ⟨fun _ => by rw [hpending]; rfl, happrovals⟩
    | some entry =>
      obtain ⟨id, pending⟩ := entry
      obtain ⟨hwaiting, hnonce⟩ := hfound hentry
      rw [hentry] at hpending
      refine InStep.erase h ?_ (fun id' => by rw [hpending]; exact Map.lookup_erase _ _ _)
        happrovals
      -- What has expired for the engine has expired for the service.
      intro pending' hawaits
      obtain rfl : pending = pending' := Option.some.inj (hwaiting.symm.trans hawaits.1)
      obtain ⟨approval', hholds, hcorresponds⟩ := h.held id pending hawaits
      rw [hnonce] at hholds
      obtain rfl : approval = approval' := Option.some.inj (hlookup.symm.trans hholds.1)
      have hlate := hexact.current id pending hawaits hnonce
      have hexpires := hcorresponds.expires
      omega
  | @redeemed createdRule s' approval hredeems hpending happrovals =>
    have hkeeps : ∀ id pending, s'.pending.lookup id = some pending ↔
        s.pending.lookup id = some pending ∧ pending.nonce ≠ nonce := by
      intro id pending
      cases hentry : s.decidedPending nonce access with
      | none =>
        rw [hpending, hentry, erasePending]
        refine ⟨fun hlookup => ⟨hlookup, fun hnonce => ?_⟩, fun hboth => hboth.1⟩
        have haccess := hexact.access_eq approval hredeems id pending hlookup hnonce
        have htest := findKey_eq_none hentry hlookup
        simp [hnonce, haccess] at htest
      | some entry =>
        obtain ⟨id₀, pending₀⟩ := entry
        obtain ⟨hwaiting, hnonce₀⟩ := hfound hentry
        rw [hpending, hentry, erasePending, Map.lookup_erase]
        constructor
        · intro hlookup
          split at hlookup
          · cases hlookup
          · refine ⟨hlookup, fun hnonce => ?_⟩
            exact ‹¬id = id₀› (h.eq_of_nonce hlookup hwaiting (hnonce.trans hnonce₀.symm)).1
        · rintro ⟨hlookup, hne⟩
          rw [if_neg]
          · exact hlookup
          · rintro rfl
            obtain rfl : pending₀ = pending := Option.some.inj (hwaiting.symm.trans hlookup)
            exact hne hnonce₀
    exact ⟨h.use hkeeps happrovals, fun _ _ id pending hlookup => ((hkeeps id pending).1 hlookup).2⟩

end InStep

end DashboardService

/-- The calls that keep both sides in step: a request offers a fresh nonce, and a decision is about
just the access that was requested. -/
def ServiceCall.KeepsInStep (t : ℕ) (s : DashboardService) : ServiceCall → Prop
  | .requestApproval _ _ nowMs random => s.OffersFresh t nowMs random
  | .requestAdminMutationApproval _ _ nowMs random => s.OffersFresh t nowMs random
  | .decideApproval nonce session access decision nowMs =>
    s.DecidesExactly t nonce session access decision nowMs
  | .decidePendingApproval approvalId _ _ nowMs =>
    ∀ pending, s.Awaits t approvalId pending → nowMs < pending.request.expiresAtMs
  | _ => True

namespace DashboardService

/-- The runs of calls that keep both sides in step. -/
def KeepsInStep (t : ℕ) : List ServiceCall → DashboardService → Prop
  | [], _ => True
  | call :: calls, s => call.KeepsInStep t s ∧ KeepsInStep t calls (call.next s)

namespace InStep

variable {t : ℕ} {s : DashboardService}

theorem decidePendingApproval (h : InStep t s) {approvalId : ApprovalId}
    {session : AuthenticatedTargetSession} {decision : ApprovalDecision} {nowMs : ℕ}
    (hcurrent : ∀ pending, s.Awaits t approvalId pending → nowMs < pending.request.expiresAtMs) :
    InStep t ((decidePendingApproval approvalId session decision nowMs).exec s).2 := by
  rw [DashboardService.decidePendingApproval, exec_bind_ok (exec_get _)]
  cases hlookup : s.pending.lookup approvalId with
  | none =>
    rw [exec_okOr_none_bind]
    exact h
  | some pending =>
    rw [exec_okOr_some_bind]
    have hexact : DecidesExactly t s pending.nonce session pending.access decision nowMs := by
      constructor
      · intro id pending' hawaits hnonce
        obtain ⟨rfl, rfl⟩ := h.eq_of_nonce hawaits.1 hlookup hnonce
        exact hcurrent pending' hawaits
      · intro _ _ id pending' hlookup' hnonce
        rw [(h.eq_of_nonce hlookup' hlookup hnonce).2]
    exact (h.decides hexact (decides_decideApproval _ _ _ _ _ s)).1

/-- **One call.** -/
theorem next (h : InStep t s) {call : ServiceCall} (hcall : call.KeepsInStep t s) :
    InStep t (call.next s) := by
  rw [ServiceCall.next]
  cases habout : call.isAboutApprovals with
  | false => exact h.same (frame_sameApprovals.program habout s)
  | true =>
    cases call with
    | requestApproval =>
      rw [ServiceCall.program, exec_dropValue]
      exact h.requestApproval hcall
    | requestAdminMutationApproval =>
      rw [ServiceCall.program, exec_dropValue]
      exact h.requestAdminMutationApproval hcall
    | decideApproval =>
      rw [ServiceCall.program, exec_dropValue]
      exact (h.decides hcall (decides_decideApproval _ _ _ _ _ s)).1
    | decidePendingApproval =>
      rw [ServiceCall.program, exec_dropValue]
      exact h.decidePendingApproval hcall
    | _ => cases habout

/-- **A run of calls.** -/
theorem runCalls (h : InStep t s) {calls : List ServiceCall} (hcalls : KeepsInStep t calls s) :
    InStep t (runCalls calls s) := by
  induction calls generalizing s with
  | nil => exact h
  | cons call calls ih =>
    rw [runCalls_cons]
    exact ih (h.next hcalls.1) hcalls.2

end InStep

/-- A new service waits for nothing, and where its engine has no open approval both sides agree. -/
theorem inStep_new (localHostId : HostId) (events : EventJournal) (audit : AuditState)
    {policy : PolicyEngine} {t : ℕ}
    (hclosed : ∀ nonce approval, policy.approvals.lookup nonce = some approval →
      approval.used = true ∨ approval.expiresAtMs ≤ t) :
    InStep t (new localHostId events audit policy) := by
  have hnone : ∀ {id pending}, (new localHostId events audit policy).pending.lookup id ≠ some pending :=
    fun hlookup => absurd hlookup (Option.some_ne_none _).symm
  constructor
  · intro id pending hlookup
    exact absurd hlookup hnone
  · rintro id pending ⟨hlookup, -⟩
    exact absurd hlookup hnone
  · rintro nonce approval ⟨hlookup, hunused, hlt⟩
    rcases hclosed nonce approval hlookup with hused | hexpired
    · rw [hused] at hunused
      cases hunused
    · omega

/-- **What the service waits for is what its engine holds**, in every run of calls that keep both
sides in step; and after a successful decision nothing is waited for with its nonce. -/
theorem oneToOne_of_run {s : DashboardService} {localHostId : HostId} {events : EventJournal}
    {audit : AuditState} {policy : PolicyEngine} {calls : List ServiceCall} {t : ℕ}
    (hs : s = runCalls calls (new localHostId events audit policy))
    (hclosed : ∀ nonce approval, policy.approvals.lookup nonce = some approval →
      approval.used = true ∨ approval.expiresAtMs ≤ t)
    (hcalls : KeepsInStep t calls (new localHostId events audit policy)) :
    s.OneToOne t ∧ ∀ nonce session access decision nowMs createdRule,
      s.DecidesExactly t nonce session access decision nowMs →
        ((decideApproval nonce session access decision nowMs).exec s).1 = .ok createdRule →
          ∀ id pending, ((decideApproval nonce session access decision nowMs).exec s).2.pending.lookup
            id = some pending → pending.nonce ≠ nonce := by
  have hinStep : InStep t s := hs ▸ (inStep_new localHostId events audit hclosed).runCalls hcalls
  refine ⟨hinStep.oneToOne, ?_⟩
  intro nonce session access decision nowMs createdRule hexact hok
  exact (hinStep.decides hexact (decides_decideApproval _ _ _ _ _ s)).2 createdRule hok

/-! ### A decision about the same resources in another order -/

/-- At every time what the service waits for is what its engine holds, and a decision that succeeds
ends the wait for its nonce. -/
def ApprovalsInStep : Prop :=
  ∀ localHostId events audit policy calls t, events.Reachable → policy.approvals = ∅ →
    let s := runCalls calls (new localHostId events audit policy)
    s.OneToOne t ∧ ∀ nonce session access decision nowMs createdRule,
      ((decideApproval nonce session access decision nowMs).exec s).1 = .ok createdRule →
        ∀ id pending, ((decideApproval nonce session access decision nowMs).exec s).2.pending.lookup
          id = some pending → pending.nonce ≠ nonce

def orderedRequest : AccessRequest :=
  { PolicyEngine.sampleRequest with resources := [.workspaceRead, .workspaceWrite] }

def reorderedRequest : AccessRequest :=
  { PolicyEngine.sampleRequest with resources := [.workspaceWrite, .workspaceRead] }

omit [Sha256] in
theorem same_reorderedRequest : orderedRequest.Same reorderedRequest := ⟨rfl, .swap _ _ _⟩

theorem validate_orderedRequest : validateRequest orderedRequest = .ok () := rfl

theorem validate_reorderedRequest : validateRequest reorderedRequest = .ok () := rfl

def waiting (audit : AuditState) : DashboardService :=
  sampleService.requested audit orderedRequest 1000 0 PolicyEngine.sampleNonce

theorem asks_orderedRequest : sampleService.Asks orderedRequest 0 PolicyEngine.sampleNonce where
  running := rfl
  host := rfl
  undecided := PolicyEngine.evaluate_of_no_rules rfl validate_orderedRequest 0
  valid := validate_orderedRequest
  plain := rfl
  first := rfl
  free _ hrule := absurd hrule List.not_mem_nil
  firstDay := by decide
  sequence_lt := by decide
  fresh := rfl
  expected := rfl

theorem exec_orderedRequest : ∃ audit, (waiting audit).Calm 2 ∧
    ServiceCall.next (.requestApproval orderedRequest 1000 0 fun _ => PolicyEngine.sampleNonce)
      sampleService = waiting audit := by
  obtain ⟨audit, hexec, hcalm⟩ := calm_sampleService.requestApproval (by decide : 0 < 30)
    (fun _ => PolicyEngine.sampleNonce) (by decide : 1000 ≠ 0) asks_orderedRequest
  refine ⟨audit, hcalm, ?_⟩
  rw [ServiceCall.next, ServiceCall.program, exec_dropValue]
  exact congrArg Prod.snd hexec

def orderedApproval : PendingApproval :=
  ⟨requestDigest orderedRequest, orderedRequest.targetHostId, PolicyEngine.expiry 0 1000, false⟩

theorem allows_of_same {access : AccessRequest} (hsame : orderedRequest.Same access)
    (hvalid : validateRequest access = .ok ()) (audit : AuditState) :
    (waiting audit).Allows ⟨orderedRequest.targetHostId⟩ access 1 PolicyEngine.sampleNonce
      orderedApproval := by
  have hactivity : access.activityId = orderedRequest.activityId := by rw [← hsame.1]
  have hplain : access.remoteOperation = none := by
    rw [← hsame.1]
    rfl
  have hlookup : (waiting audit).activities.lookup access.activityId
      = some (requestEvent orderedRequest 1 0 (waitId PolicyEngine.sampleNonce)) := by
    rw [hactivity]
    exact Map.lookup_insert_self _ _ _
  have hsequence : (waiting audit).events.activitySequences.lookup access.activityId = some 1 := by
    rw [hactivity]
    exact Map.lookup_insert_self _ _ _
  have hnext : (waiting audit).nextSequence access.activityId = 2 := by
    rw [nextSequence, hlookup]
    rfl
  constructor
  · rfl
  · exact PolicyEngine.evaluate_of_no_rules rfl hvalid 1
  · refine ⟨hvalid, Map.lookup_insert_self _ _ _, rfl,
      (by decide : 1 < PolicyEngine.expiry 0 1000), rfl, ?_, fun hsome => ?_⟩
    · rw [requestDigest, ← hsame.canonical_eq]
      rfl
    · cases hsome
  · exact hplain
  · decide
  · rw [hnext]
    decide
  · change (Map.insert ∅ _ _).lookup _ = none
    rw [Map.lookup_insert_ne (requestKey_ne_decisionKey _), Map.lookup_empty]
  · rw [hsequence, hnext]
    rfl

section

omit [Sha256]

theorem lookup_waiting [Sha256] {audit : AuditState} {id : ApprovalId} {pending : Pending}
    (h : (waiting audit).pending.lookup id = some pending) :
    id = waitId PolicyEngine.sampleNonce ∧ pending.access = orderedRequest ∧
      pending.request.expiresAtMs = PolicyEngine.expiry 0 1000 := by
  change (Map.insert ∅ _ _).lookup id = some pending at h
  rw [Map.lookup_insert] at h
  split at h
  · cases h
    exact ⟨‹_›, rfl, rfl⟩
  · rw [Map.lookup_empty] at h
    cases h

/-- The decision uses the nonce up, but the service goes on waiting. -/
theorem not_approvalsInStep : ¬∃ _ : Sha256, ApprovalsInStep := by
  rintro ⟨_, hinStep⟩
  obtain ⟨audit, hcalm, hrequested⟩ := exec_orderedRequest
  obtain ⟨audit', hexec, -⟩ := hcalm.decideApproval (by decide : 2 < 30)
    (allows_of_same same_reorderedRequest validate_reorderedRequest audit)
  have hdecided : ServiceCall.next (.decideApproval (hex PolicyEngine.sampleNonce.toList)
      ⟨orderedRequest.targetHostId⟩ reorderedRequest .allowOnce 1) (waiting audit)
      = (waiting audit).allowed audit' reorderedRequest 1 PolicyEngine.sampleNonce
          orderedApproval := by
    rw [ServiceCall.next, ServiceCall.program, exec_dropValue, hexec]
  have hnone : (waiting audit).decidedPending (hex PolicyEngine.sampleNonce.toList) reorderedRequest
      = none := by
    cases hfind : (waiting audit).decidedPending (hex PolicyEngine.sampleNonce.toList)
        reorderedRequest with
    | none => rfl
    | some entry =>
      obtain ⟨id, pending⟩ := entry
      obtain ⟨hlookup, htest⟩ := findKey_eq_some hfind
      simp only [(lookup_waiting hlookup).2.1, Bool.and_eq_true, decide_eq_true_eq] at htest
      exact absurd htest.2 (by decide)
  obtain ⟨honeToOne, -⟩ := hinStep ⟨"host", PolicyEngine.idText_host⟩ (EventJournal.new 1 0)
    AuditStore.sampleFresh PolicyEngine.new
    [.requestApproval orderedRequest 1000 0 fun _ => PolicyEngine.sampleNonce,
      .decideApproval (hex PolicyEngine.sampleNonce.toList) ⟨orderedRequest.targetHostId⟩
        reorderedRequest .allowOnce 1] 2
    (.withBounds 1 0 Dashboard.maxEvents maxEventBytes) rfl
  change (DashboardService.runCalls _ sampleService).OneToOne 2 at honeToOne
  rw [runCalls_cons, hrequested, runCalls_cons, hdecided, runCalls_nil] at honeToOne
  have hpending : ((waiting audit).allowed audit' reorderedRequest 1 PolicyEngine.sampleNonce
      orderedApproval).pending = (waiting audit).pending := by
    rw [allowed, hnone]
    rfl
  obtain ⟨approval, ⟨hlookup, hunused, -⟩, -⟩ := honeToOne.held (waitId PolicyEngine.sampleNonce) _
    ⟨by rw [hpending]; exact Map.lookup_insert_self _ _ _,
      (by decide : 2 < PolicyEngine.expiry 0 1000)⟩
  have hused : (((waiting audit).allowed audit' reorderedRequest 1 PolicyEngine.sampleNonce
      orderedApproval).policy.approvals.lookup (hex PolicyEngine.sampleNonce.toList))
      = some { orderedApproval with used := true } := Map.lookup_insert_self _ _ _
  obtain rfl : { orderedApproval with used := true } = approval :=
    Option.some.inj (hused.symm.trans hlookup)
  cases hunused

/-- The decision about the request as it was made keeps both sides in step. -/
theorem orderedRequest_oneToOne : letI := PolicyEngine.approvalHash
    ∃ s, s = runCalls [.requestApproval orderedRequest 1000 0 fun _ => PolicyEngine.sampleNonce]
        sampleService ∧
      s.OneToOne 2 ∧ ∀ id pending,
        ((decideApproval (hex PolicyEngine.sampleNonce.toList) ⟨orderedRequest.targetHostId⟩
          orderedRequest .allowOnce 1).exec s).2.pending.lookup id = some pending →
            pending.nonce ≠ hex PolicyEngine.sampleNonce.toList := by
  let _ := PolicyEngine.approvalHash
  have hnone : ∀ {id pending}, sampleService.pending.lookup id ≠ some pending :=
    fun hlookup => absurd hlookup (Option.some_ne_none _).symm
  obtain ⟨audit, hcalm, hrequested⟩ := exec_orderedRequest
  obtain ⟨audit', hexec, -⟩ := hcalm.decideApproval (by decide : 2 < 30)
    (allows_of_same (AccessRequest.Same.refl _) validate_orderedRequest audit)
  have hrun : waiting audit = runCalls
      [.requestApproval orderedRequest 1000 0 fun _ => PolicyEngine.sampleNonce] sampleService := by
    rw [runCalls_cons, hrequested, runCalls_nil]
  have hclosed : ∀ nonce approval, PolicyEngine.new.approvals.lookup nonce = some approval →
      approval.used = true ∨ approval.expiresAtMs ≤ 2 :=
    fun _ _ hlookup => absurd hlookup (Option.some_ne_none _).symm
  have hcalls : KeepsInStep 2
      [.requestApproval orderedRequest 1000 0 fun _ => PolicyEngine.sampleNonce] sampleService :=
    ⟨⟨fun _ _ hawaits => absurd hawaits.1 hnone, fun _ _ _ _ _ hawaits => absurd hawaits.1 hnone⟩,
      trivial⟩
  have hexact : (waiting audit).DecidesExactly 2 (hex PolicyEngine.sampleNonce.toList)
      ⟨orderedRequest.targetHostId⟩ orderedRequest .allowOnce 1 := by
    constructor
    · intro id pending hawaits _
      rw [(lookup_waiting hawaits.1).2.2]
      exact (by decide : 1 < PolicyEngine.expiry 0 1000)
    · intro _ _ id pending hlookup _
      exact (lookup_waiting hlookup).2.1
  obtain ⟨honeToOne, hended⟩ := oneToOne_of_run hrun hclosed hcalls
  exact ⟨waiting audit, hrun, honeToOne, hended _ _ _ _ _ none hexact (by rw [hexec])⟩

end

end DashboardService

end Dashboard
