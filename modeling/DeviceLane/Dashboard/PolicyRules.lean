/-
**The rules of the policy engine.**

The rules have different identifiers, are valid and not too many, and the managed ones are those of
the verified bundles. Every call keeps this but one: a decision that is to be remembered adds a rule
under an identifier that was free when the approval was created and need not be free any more.

Main definitions:

* `Dashboard.PolicyEngine.WellFormed` — what holds of the rules and approvals.

Main results:

* `Dashboard.PolicyEngine.wellFormed_of_history` — **the rules are well formed, and the engine can be
  restored, as long as no such decision is made**.
-/

import DeviceLane.Dashboard.PolicyCalls

namespace Dashboard

namespace PolicyEngine

open Effect

variable [Sha256]

variable {engine : PolicyEngine} {managed rules : List PolicyRule} {rule : PolicyRule} {nonce : String}
  {request : AccessRequest}

/-! ### Calls -/

inductive RuleCall
  | addVerifiedManagedRules (bundle : VerifiedManagedPolicyBundle)
  | putUserRule (rule : PolicyRule)
  | deleteUserRule (id : RuleId)
  | createApproval (request : AccessRequest) (nowMs lifetimeMs : ℕ) (random : ℕ → Digest)
  | decide (nonce : String) (session : AuthenticatedTargetSession) (request : AccessRequest)
      (decision : ApprovalDecision) (nowMs : ℕ)
  | restoreCheckpoint (checkpoint : PolicyEngine)

namespace RuleCall

/-- The engine after a call. -/
def exec (engine : PolicyEngine) : RuleCall → PolicyEngine
  | addVerifiedManagedRules bundle => ((PolicyEngine.addVerifiedManagedRules bundle).exec engine).2
  | putUserRule rule => ((PolicyEngine.putUserRule rule).exec engine).2
  | deleteUserRule id => ((PolicyEngine.deleteUserRule id).exec engine).2
  | createApproval request nowMs lifetimeMs random =>
    ((PolicyEngine.createApproval request nowMs lifetimeMs random).exec engine).2
  | decide nonce session request decision nowMs =>
    ((PolicyEngine.decide nonce session request decision nowMs).exec engine).2
  | restoreCheckpoint checkpoint => ((PolicyEngine.restoreCheckpoint checkpoint).exec engine).2

omit [Sha256] in
/-- The rules of the verified bundle that a call adds, if it succeeds. -/
def added (engine : PolicyEngine) : RuleCall → List PolicyRule
  | addVerifiedManagedRules bundle =>
    match ((PolicyEngine.addVerifiedManagedRules bundle).exec engine).1 with
    | .ok _ => bundle.rules
    | .error _ => []
  | putUserRule _ | deleteUserRule _ | createApproval _ _ _ _ | decide _ _ _ _ _
  | restoreCheckpoint _ => []

end RuleCall

/-- An engine after some calls, which all met a condition, with the rules of the verified bundles that
were added. -/
inductive RuleHistory (Meets : PolicyEngine → RuleCall → Prop) :
    PolicyEngine → List PolicyRule → Prop
  | new : RuleHistory Meets new []
  | withRules {rules : List PolicyRule} {engine : PolicyEngine} (h : withRules rules = .ok engine) :
      RuleHistory Meets engine []
  | call {engine : PolicyEngine} {managed : List PolicyRule} (h : RuleHistory Meets engine managed)
      (call : RuleCall) (hmeets : Meets engine call) :
      RuleHistory Meets (call.exec engine) (managed ++ call.added engine)

/-- What holds of the rules and the approvals, when the given managed rules have been added. -/
structure WellFormed (engine : PolicyEngine) (managed : List PolicyRule) : Prop where
  nodup : (engine.rules.map PolicyRule.id).Nodup
  rules_le : engine.rules.length ≤ maxPolicyRules
  valid : ∀ rule ∈ engine.rules, rule.validate = .ok ()
  approvals_le : engine.approvals.len ≤ maxPendingApprovals
  managed : engine.rules.filter isManaged = managed

/-- A call adds no rule under an identifier that is taken. Only a decision that is accepted and to
be remembered can do so. -/
def Distinct (engine : PolicyEngine) : RuleCall → Prop
  | .decide nonce session request decision nowMs =>
    (∃ pending, Redeems engine nonce session request decision nowMs pending) →
      decision.createdEffect.isSome → ∀ rule ∈ engine.rules, generatedRuleId nonce ≠ some rule.id
  | _ => True

/-! ### The rules after a call -/

section

omit [Sha256]

theorem WellFormed.fit (h : WellFormed engine managed) : RulesFit engine.rules :=
  ⟨h.rules_le, h.valid, h.nodup⟩

theorem map_id_replaceRule (rule : PolicyRule) (rules : List PolicyRule) :
    (replaceRule rule rules).map PolicyRule.id = rules.map PolicyRule.id := by
  induction rules with
  | nil => rfl
  | cons item rules ih =>
    rw [replaceRule]
    by_cases heq : item.id = rule.id
    · rw [if_pos heq, List.map_cons, List.map_cons, heq]
    · rw [if_neg heq, List.map_cons, List.map_cons, ih]

theorem mem_replaceRule {item : PolicyRule} (h : item ∈ replaceRule rule rules) :
    item = rule ∨ item ∈ rules := by
  induction rules with
  | nil => exact absurd h List.not_mem_nil
  | cons first rules ih =>
    rw [replaceRule] at h
    split at h
    · rcases List.mem_cons.1 h with rfl | hmem
      · exact .inl rfl
      · exact .inr (List.mem_cons_of_mem _ hmem)
    · rcases List.mem_cons.1 h with rfl | hmem
      · exact .inr List.mem_cons_self
      · exact (ih hmem).imp_right (List.mem_cons_of_mem _)

theorem filter_replaceRule {existing : PolicyRule}
    (hfind : rules.find? (fun item => item.id = rule.id) = some existing)
    (hexisting : isManaged existing = false) (hrule : isManaged rule = false) :
    (replaceRule rule rules).filter isManaged = rules.filter isManaged := by
  induction rules with
  | nil => rfl
  | cons item rules ih =>
    rw [replaceRule]
    rw [List.find?_cons] at hfind
    by_cases heq : item.id = rule.id
    · rw [decide_eq_true heq] at hfind
      obtain rfl := Option.some_inj.1 hfind
      rw [if_pos heq, List.filter_cons_of_neg (by simp [hrule]),
        List.filter_cons_of_neg (by simp [hexisting])]
    · rw [decide_eq_false heq] at hfind
      rw [if_neg heq, List.filter_cons, List.filter_cons, ih hfind]

theorem WellFormed.push (h : WellFormed engine managed) (hvalid : rule.validate = .ok ())
    (huser : isManaged rule = false) (hroom : engine.rules.length < maxPolicyRules)
    (hfree : rule.id ∉ engine.rules.map PolicyRule.id) : WellFormed (engine.push rule) managed where
  nodup := by
    have hids : (engine.push rule).rules.map PolicyRule.id
        = engine.rules.map PolicyRule.id ++ [rule.id] := List.map_append
    rw [hids, List.nodup_append]
    refine ⟨h.nodup, List.nodup_singleton _, ?_⟩
    intro _ hmem _ hmem' heq
    rw [heq, List.mem_singleton.1 hmem'] at hmem
    exact hfree hmem
  rules_le := by
    have hlen : (engine.push rule).rules.length = engine.rules.length + 1 := List.length_append
    omega
  valid := by
    intro item hmem
    rcases List.mem_append.1 hmem with hmem | hmem
    · exact h.valid item hmem
    · rw [List.mem_singleton.1 hmem]
      exact hvalid
  approvals_le := h.approvals_le
  managed := by
    have hfilter : (engine.push rule).rules.filter isManaged
        = engine.rules.filter isManaged ++ [rule].filter isManaged := List.filter_append _ _
    rw [hfilter, List.filter_cons_of_neg (by simp [huser]), List.filter_nil, List.append_nil, h.managed]

theorem WellFormed.approvals (h : WellFormed engine managed) {approvals : Map String PendingApproval}
    (hlen : approvals.len ≤ maxPendingApprovals) : WellFormed { engine with approvals } managed :=
  ⟨h.nodup, h.rules_le, h.valid, hlen, h.managed⟩

theorem WellFormed.use (h : WellFormed engine managed) {pending : PendingApproval}
    (hlookup : engine.approvals.lookup nonce = some pending) :
    WellFormed (engine.use nonce pending) managed := by
  apply h.approvals
  rw [Map.len_insert_of_some hlookup]
  exact h.approvals_le

theorem WellFormed.drop (h : WellFormed engine managed) (nowMs : ℕ) :
    WellFormed (engine.drop nowMs) managed :=
  h.approvals (Nat.le_trans (Map.len_retain_le _ _) h.approvals_le)

end

theorem validate_exactRule {effect : PolicyEffect} {revision : ℕ}
    (hvalid : validateRequest request = .ok ())
    (h : exactRule request effect revision nonce = some rule) :
    rule.validate = .ok () ∧ isManaged rule = false ∧ generatedRuleId nonce = some rule.id := by
  rw [exactRule] at h
  obtain ⟨_, hid, hrule⟩ := Option.bind_eq_some_iff.1 h
  cases hrule
  obtain ⟨hlen, hnodup, -⟩ := validateRequest_eq_ok.1 hvalid
  have hperm := perm_sortDedup hnodup
  have hresources : validateUniqueResources (sortDedup request.resources) = .ok () :=
    validateUniqueResources_eq_ok.2 ⟨hperm.length_eq.trans_le hlen, hperm.nodup_iff.2 hnodup⟩
  refine ⟨?_, rfl, hid⟩
  rw [PolicyRule.validate, hresources]
  rfl

/-! ### Every call -/

section

omit [Sha256]

theorem WellFormed.addVerifiedManagedRules (h : WellFormed engine managed)
    (bundle : VerifiedManagedPolicyBundle) :
    WellFormed (((addVerifiedManagedRules bundle).exec engine).2)
      (managed ++ RuleCall.added engine (.addVerifiedManagedRules bundle)) := by
  rw [RuleCall.added]
  rcases exec_addVerifiedManagedRules engine bundle with
    ⟨_, hexec⟩ | ⟨hfit, hmanaged, hlen, hfree, hexec⟩
  · rw [hexec, List.append_nil]
    exact h
  · rw [hexec]
    refine ⟨?_, hlen, ?_, h.approvals_le, ?_⟩
    · rw [List.map_append, List.nodup_append]
      refine ⟨h.nodup, hfit.nodup, ?_⟩
      rintro id hmem id' hmem' rfl
      obtain ⟨rule, hrule, rfl⟩ := List.mem_map.1 hmem'
      exact hfree rule hrule hmem
    · intro rule hmem
      rcases List.mem_append.1 hmem with hmem | hmem
      · exact h.valid rule hmem
      · exact hfit.valid rule hmem
    · rw [List.filter_append, h.managed, List.filter_eq_self.2 hmanaged]

theorem WellFormed.putUserRule (h : WellFormed engine managed) (rule : PolicyRule) :
    WellFormed (((putUserRule rule).exec engine).2) managed := by
  rcases exec_putUserRule engine rule with
    ⟨_, hexec⟩ | ⟨hvalid, huser, ⟨_, hfind, hexisting, -, hexec⟩ | ⟨hfree, hroom, hexec⟩⟩
  · rw [hexec]
    exact h
  · rw [hexec]
    have hids := map_id_replaceRule rule engine.rules
    refine ⟨hids ▸ h.nodup, ?_, ?_, h.approvals_le, ?_⟩
    · have hlen := congrArg List.length hids
      rw [List.length_map, List.length_map] at hlen
      exact hlen.trans_le h.rules_le
    · intro item hmem
      rcases mem_replaceRule hmem with rfl | hmem
      · exact hvalid
      · exact h.valid item hmem
    · exact (filter_replaceRule hfind hexisting huser).trans h.managed
  · rw [hexec]
    exact h.push hvalid huser hroom hfree

theorem WellFormed.deleteUserRule (h : WellFormed engine managed) (id : RuleId) :
    WellFormed (((deleteUserRule id).exec engine).2) managed := by
  rcases exec_deleteUserRule engine id with ⟨_, hexec⟩ | ⟨hmanaged, _, hexec⟩
  · rw [hexec]
    exact h
  · rw [hexec]
    have hsub : (engine.rules.filter fun rule => rule.id ≠ id).Sublist engine.rules :=
      List.filter_sublist
    refine ⟨(hsub.map PolicyRule.id).nodup h.nodup, hsub.length_le.trans h.rules_le,
      fun rule hmem => h.valid rule (hsub.subset hmem), h.approvals_le, ?_⟩
    -- No managed rule has the identifier, so that none of them is filtered out.
    rw [← h.managed, List.filter_filter]
    apply List.filter_congr
    intro rule hmem
    cases hrule : isManaged rule with
    | false => rfl
    | true => simpa using hmanaged rule hmem hrule

end

theorem WellFormed.createApproval (h : WellFormed engine managed) (request : AccessRequest)
    (nowMs lifetimeMs : ℕ) (random : ℕ → Digest) :
    WellFormed (((createApproval request nowMs lifetimeMs random).exec engine).2) managed := by
  rcases exec_createApproval engine request nowMs lifetimeMs random with
    ⟨fault, hexec⟩ | ⟨fault, hexec⟩ | ⟨_, _, -, -, hroom, -, -, hexec⟩
  · rw [hexec]
    exact h
  · rw [hexec]
    exact h.drop nowMs
  · rw [hexec]
    exact (h.drop nowMs).approvals (Nat.le_trans (Map.len_insert_le _ _ _) hroom)

theorem WellFormed.decide (h : WellFormed engine managed) {session : AuthenticatedTargetSession}
    {decision : ApprovalDecision} {nowMs : ℕ}
    (hdistinct : Distinct engine (.decide nonce session request decision nowMs)) :
    WellFormed (((decide nonce session request decision nowMs).exec engine).2) managed := by
  rcases exec_decide engine nonce session request decision nowMs with
    ⟨-, _, hexec⟩ | ⟨pending, hredeems, ⟨-, hexec⟩ | ⟨_, heffect, ⟨-, hexec⟩ | ⟨_, hrule, hexec⟩⟩⟩
  · rw [hexec]
    exact h
  · rw [hexec]
    exact h.use hredeems.lookup
  · rw [hexec]
    exact h.use hredeems.lookup
  · rw [hexec]
    have hsome : decision.createdEffect.isSome := Option.isSome_of_eq_some heffect
    obtain ⟨hvalid, huser, hid⟩ := validate_exactRule hredeems.valid hrule
    refine (h.use hredeems.lookup).push hvalid huser (hredeems.room hsome) ?_
    intro hmem
    obtain ⟨item, hitem, heq⟩ := List.mem_map.1 hmem
    apply hdistinct ⟨pending, hredeems⟩ hsome item hitem
    rw [hid, heq]

omit [Sha256] in
theorem WellFormed.restoreCheckpoint (h : WellFormed engine managed) (checkpoint : PolicyEngine) :
    WellFormed (((restoreCheckpoint checkpoint).exec engine).2) managed := by
  rcases exec_restoreCheckpoint engine checkpoint with
    ⟨_, hexec⟩ | ⟨happrovals, huser, hfit, hexec⟩
  · rw [hexec]
    exact h
  · rw [hexec]
    refine ⟨hfit.nodup, hfit.length_le, hfit.valid, happrovals, ?_⟩
    have hnone : (checkpoint.rules.filter fun rule => rule.origin = .user).filter isManaged = [] := by
      rw [List.filter_eq_nil_iff]
      intro rule hmem
      rw [huser rule hmem]
      exact Bool.false_ne_true
    rw [List.filter_append, hnone, List.nil_append, List.filter_filter]
    simp only [Bool.and_self]
    exact h.managed

/-- **Every call keeps the rules well formed, if it adds no rule under an identifier that is
taken.** -/
theorem WellFormed.call (h : WellFormed engine managed) {call : RuleCall}
    (hdistinct : Distinct engine call) :
    WellFormed (call.exec engine) (managed ++ call.added engine) := by
  cases call with
  | addVerifiedManagedRules bundle => exact h.addVerifiedManagedRules bundle
  | putUserRule rule =>
    rw [RuleCall.added, List.append_nil]
    exact h.putUserRule rule
  | deleteUserRule id =>
    rw [RuleCall.added, List.append_nil]
    exact h.deleteUserRule id
  | createApproval request nowMs lifetimeMs random =>
    rw [RuleCall.added, List.append_nil]
    exact h.createApproval request nowMs lifetimeMs random
  | decide =>
    rw [RuleCall.added, List.append_nil]
    exact h.decide hdistinct
  | restoreCheckpoint checkpoint =>
    rw [RuleCall.added, List.append_nil]
    exact h.restoreCheckpoint checkpoint

theorem not_nodup_of_decide {session : AuthenticatedTargetSession} {decision : ApprovalDecision}
    {nowMs : ℕ} {pending : PendingApproval}
    (hredeems : Redeems engine nonce session request decision nowMs pending) {effect : PolicyEffect}
    (heffect : decision.createdEffect = some effect) {item : PolicyRule} (hitem : item ∈ engine.rules)
    (hid : generatedRuleId nonce = some item.id) :
    ¬((((decide nonce session request decision nowMs).exec engine).2.rules).map
      PolicyRule.id).Nodup := by
  obtain ⟨rule, hrule⟩ : ∃ rule, exactRule request effect (nextRevision engine.rules) nonce
      = some rule := by
    rw [exactRule, hid]
    exact ⟨_, rfl⟩
  obtain ⟨-, -, hruleId⟩ := validate_exactRule hredeems.valid hrule
  rw [exec_decide_of_redeems hredeems, exec_createRule_some heffect, rules_use, hrule]
  intro hnodup
  have hids : ((engine.use nonce pending).push rule).rules.map PolicyRule.id
      = engine.rules.map PolicyRule.id ++ [rule.id] := List.map_append
  rw [hids, List.nodup_append] at hnodup
  have hsame : item.id = rule.id := Option.some_inj.1 (hid.symm.trans hruleId)
  exact hnodup.2.2 item.id (List.mem_map_of_mem hitem) rule.id (List.mem_singleton_self _) hsame

theorem WellFormed.call_iff (h : WellFormed engine managed) (call : RuleCall) :
    WellFormed (call.exec engine) (managed ++ call.added engine) ↔ Distinct engine call := by
  refine ⟨?_, h.call⟩
  intro hafter
  cases call with
  | decide =>
    rintro ⟨_, hredeems⟩ hsome item hitem hid
    obtain ⟨_, heffect⟩ := Option.isSome_iff_exists.1 hsome
    exact not_nodup_of_decide hredeems heffect hitem hid hafter.nodup
  | addVerifiedManagedRules | putUserRule | deleteUserRule | createApproval | restoreCheckpoint =>
    trivial

omit [Sha256] in
theorem wellFormed_new : WellFormed new [] :=
  ⟨List.nodup_nil, Nat.zero_le _, List.forall_mem_nil _, Nat.zero_le _, rfl⟩

omit [Sha256] in
theorem wellFormed_withRules (h : withRules rules = .ok engine) : WellFormed engine [] := by
  rw [withRules] at h
  cases hset : validateRuleSet rules false with
  | error =>
    rw [hset, error_bind] at h
    cases h
  | ok =>
    rw [hset, ok_bind] at h
    cases h
    obtain ⟨hfit, huser⟩ := validateRuleSet_eq_ok.1 hset
    refine ⟨hfit.nodup, hfit.length_le, hfit.valid, Nat.zero_le _, ?_⟩
    rw [List.filter_eq_nil_iff]
    intro rule hmem
    rw [huser rule hmem]
    exact Bool.false_ne_true

/-- **The rules are well formed, and the engine can be restored, as long as no remembered decision
is made under an identifier that is taken**; and the first such decision leaves them ill-formed. -/
theorem wellFormed_of_history {engine : PolicyEngine} {managed : List PolicyRule}
    (h : RuleHistory Distinct engine managed) :
    (WellFormed engine managed ∧ engine.validateRestored = .ok ()) ∧
      ∀ call, WellFormed (call.exec engine) (managed ++ call.added engine) ↔ Distinct engine call := by
  have hformed : WellFormed engine managed := by
    induction h with
    | new => exact wellFormed_new
    | withRules h => exact wellFormed_withRules h
    | call _ call hdistinct ih => exact ih.call hdistinct
  exact ⟨⟨hformed, validateRestored_eq_ok.2 ⟨hformed.fit, hformed.approvals_le⟩⟩, hformed.call_iff⟩

omit [Sha256] in
theorem sampleRules_wellFormed : letI := approvalHash
    let engine := RuleCall.exec (new.offer (hex sampleNonce.toList) sampleRequest (expiry 0 1000))
      (.decide (hex sampleNonce.toList) ⟨sampleRequest.targetHostId⟩ sampleRequest .allowAndRemember 1)
    WellFormed engine [] ∧ engine.validateRestored = .ok () := by
  let _ := approvalHash
  have hcreated := (@RuleHistory.new _ Distinct).call
    (.createApproval sampleRequest 0 1000 fun _ => sampleNonce) trivial
  rw [RuleCall.exec, exec_createApproval_sampleRequest] at hcreated
  have hdecided := hcreated.call (.decide (hex sampleNonce.toList) ⟨sampleRequest.targetHostId⟩
    sampleRequest .allowAndRemember 1) fun _ _ _ hmem => absurd hmem List.not_mem_nil
  exact (wellFormed_of_history hdecided).1

def takenRule (random : Digest) : PolicyRule :=
  { id := approvalId random
    revision := 1
    effect := .deny
    principalId := none
    sourceHostId := none
    targetHostId := none
    deviceId := none
    operation := none
    resources := []
    expiresAtMs := none
    requireUserPresence := false
    userPresence := none
    physicalDevice := none
    matchDeviceExact := false
    matchResourcesExact := false
    enabled := false
    origin := .user }

omit [Sha256] in
/-- The user puts a rule under the identifier of an approval that is pending. -/
theorem not_rulesWellFormed : ¬∃ _ : Sha256, ∀ engine managed,
    RuleHistory (fun _ _ => True) engine managed →
      WellFormed engine managed ∧ engine.validateRestored = .ok () := by
  rintro ⟨_, hclaim⟩
  have hcreated := (@RuleHistory.new _ fun _ _ => True).call
    (.createApproval sampleRequest 0 1000 fun _ => sampleNonce) trivial
  rw [RuleCall.exec, exec_createApproval_sampleRequest] at hcreated
  have hput := hcreated.call (.putUserRule (takenRule sampleNonce)) trivial
  have hexec : RuleCall.exec (new.offer (hex sampleNonce.toList) sampleRequest (expiry 0 1000))
      (.putUserRule (takenRule sampleNonce))
        = (new.offer (hex sampleNonce.toList) sampleRequest (expiry 0 1000)).push
            (takenRule sampleNonce) := rfl
  rw [hexec] at hput
  have hdecided := hput.call (.decide (hex sampleNonce.toList) ⟨sampleRequest.targetHostId⟩
    sampleRequest .allowAndRemember 1) trivial
  have hredeems := @redeems_sampleRequest _ sampleNonce .allowAndRemember
    ((new.offer (hex sampleNonce.toList) sampleRequest (expiry 0 1000)).push (takenRule sampleNonce))
    rfl (by decide : [takenRule sampleNonce].length < maxPolicyRules)
  exact not_nodup_of_decide hredeems rfl (List.mem_singleton_self _) (generatedRuleId_hex _)
    (hclaim _ _ hdecided).1.nodup

end PolicyEngine

end Dashboard
