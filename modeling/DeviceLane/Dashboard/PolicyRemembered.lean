/-
**Remembered decisions.**

A decision that is to be remembered makes a rule of the request. The rule covers the requests that agree
with it in everything the rule is made from, the resources up to their order, and no others, at any time.
It stays until it is withdrawn, and for as long it decides those requests.

Main definitions:

* `Dashboard.SameScope` — two requests agree in everything a remembered decision is about.

Main results:

* `Dashboard.covers_exactRule_iff` — **the rule covers the requests of the same scope, and no others**;
* `Dashboard.PolicyEngine.remembered` — **what a remembered decision comes to**.
-/

import DeviceLane.Dashboard.PolicyEvaluation
import DeviceLane.Dashboard.PolicyRules

namespace Dashboard

open Effect

/-! ### The scope of a decision -/

/-- Two requests agree in everything a remembered decision is about. -/
structure SameScope (request other : AccessRequest) : Prop where
  principal : other.principalId = request.principalId
  sourceHost : other.sourceHostId = request.sourceHostId
  targetHost : other.targetHostId = request.targetHostId
  device : other.deviceId = request.deviceId
  operation : other.operation = request.operation
  presence : other.userPresent = request.userPresent
  physical : other.physicalDevice = request.physicalDevice
  resources : ∀ resource, resource ∈ other.resources ↔ resource ∈ request.resources

variable {request other : AccessRequest} {effect : PolicyEffect} {revision nowMs : ℕ} {nonce : String}
  {rule : PolicyRule}

theorem sameResources_iff_of_nodup {left right : List ResourceClass} (hleft : left.Nodup)
    (hright : right.Nodup) :
    (left.length = right.length ∧ ∀ resource ∈ left, resource ∈ right) ↔
      ∀ resource, resource ∈ right ↔ resource ∈ left := by
  constructor
  · rintro ⟨hlength, hsubset⟩ resource
    have hperm := (List.subperm_of_subset hleft hsubset).perm_of_length_le hlength.ge
    exact hperm.mem_iff.symm
  · intro hmem
    have hperm := (List.perm_ext_iff_of_nodup hright hleft).2 hmem
    exact ⟨hperm.length_eq.symm, fun resource h => (hmem resource).2 h⟩

/-- **The rule covers the requests of the same scope, and no others**, at any time. -/
theorem covers_exactRule_iff [Sha256] (hvalid : validateRequest request = .ok ())
    (hother : validateRequest other = .ok ())
    (hrule : exactRule request effect revision nonce = some rule) :
    Covers rule other nowMs ↔ SameScope request other := by
  rw [exactRule] at hrule
  obtain ⟨id, -, hmade⟩ := Option.bind_eq_some_iff.1 hrule
  cases hmade
  have hnodup := (validateRequest_eq_ok.1 hvalid).2.1
  have hsorted := perm_sortDedup hnodup
  have hresources := sameResources_iff_of_nodup (hsorted.nodup_iff.2 hnodup)
    (validateRequest_eq_ok.1 hother).2.1
  constructor
  · intro h
    have hdevice : request.deviceId = other.deviceId := h.device
    have hexact := h.resources.resolve_left fun hopen => Bool.noConfusion hopen.1
    exact
      { principal := (h.principal _ rfl).symm
        sourceHost := (h.sourceHost _ rfl).symm
        targetHost := (h.targetHost _ rfl).symm
        device := hdevice.symm
        operation := (h.operation _ rfl).symm
        presence := (h.presence _ rfl).symm
        physical := (h.physical _ rfl).symm
        resources := fun resource => (hresources.1 hexact resource).trans hsorted.mem_iff }
  · intro h
    exact
      { enabled := rfl
        unexpired := fun expiry hexpiry => absurd hexpiry (Option.not_mem_none _)
        principal := fun id hid => (Option.mem_some_iff.1 hid).symm.trans h.principal.symm
        sourceHost := fun id hid => (Option.mem_some_iff.1 hid).symm.trans h.sourceHost.symm
        targetHost := fun id hid => (Option.mem_some_iff.1 hid).symm.trans h.targetHost.symm
        device := h.device.symm
        operation := fun operation hoperation =>
          (Option.mem_some_iff.1 hoperation).symm.trans h.operation.symm
        resources := .inr (hresources.2 fun resource => (h.resources resource).trans hsorted.mem_iff.symm)
        present := fun hrequired => Bool.noConfusion hrequired
        presence := fun present hpresent => (Option.mem_some_iff.1 hpresent).symm.trans h.presence.symm
        physical := fun physical hphysical =>
          (Option.mem_some_iff.1 hphysical).symm.trans h.physical.symm }

theorem effect_exactRule (hrule : exactRule request effect revision nonce = some rule) :
    rule.effect = effect ∧ rule.origin = .user := by
  rw [exactRule] at hrule
  obtain ⟨_, -, hmade⟩ := Option.bind_eq_some_iff.1 hrule
  cases hmade
  exact ⟨rfl, rfl⟩

namespace PolicyEngine

variable [Sha256] {engine engine' : PolicyEngine} {session : AuthenticatedTargetSession}
  {decision : ApprovalDecision} {outcome : ApprovalOutcome}

theorem createdRule_of_decide {effect : PolicyEffect} (heffect : decision.createdEffect = some effect)
    (hdecide : (decide nonce session request decision nowMs).exec engine = (.ok outcome, engine')) :
    validateRequest request = .ok () ∧ ∃ rule, outcome.createdRule = some rule ∧
      exactRule request effect (nextRevision engine.rules) nonce = some rule ∧ rule ∈ engine'.rules := by
  rcases exec_decide engine nonce session request decision nowMs with ⟨-, _, hexec⟩ |
    ⟨pending, hredeems, ⟨hnone, -⟩ | ⟨effect', heffect', ⟨-, hexec⟩ | ⟨rule, hrule, hexec⟩⟩⟩
  · rw [hexec] at hdecide
    cases hdecide
  · rw [hnone] at heffect
    cases heffect
  · rw [hexec] at hdecide
    cases hdecide
  · rw [heffect] at heffect'
    cases heffect'
    rw [hexec] at hdecide
    cases hdecide
    exact ⟨hredeems.valid, rule, rfl, hrule, List.mem_append_right _ List.mem_cons_self⟩

/-! ### How long a rule stays -/

/-- The calls that may take a rule away: deleting what has its identifier, putting a rule in its place,
and restoring a checkpoint that was written without it. -/
def Withdraws (rule : PolicyRule) : RuleCall → Prop
  | .deleteUserRule id => id = rule.id
  | .putUserRule item => item.id = rule.id
  | .restoreCheckpoint checkpoint => rule ∉ checkpoint.rules
  | _ => False

omit [Sha256] in
theorem mem_replaceRule_of_ne {item : PolicyRule} {rules : List PolicyRule} (h : rule ∈ rules)
    (hne : item.id ≠ rule.id) : rule ∈ replaceRule item rules := by
  induction rules with
  | nil => exact absurd h List.not_mem_nil
  | cons first rules ih =>
    rw [replaceRule]
    split
    · rename_i hfirst
      rcases List.mem_cons.1 h with rfl | hmem
      · exact absurd hfirst.symm hne
      · exact List.mem_cons_of_mem _ hmem
    · rcases List.mem_cons.1 h with rfl | hmem
      · exact List.mem_cons_self
      · exact List.mem_cons_of_mem _ (ih hmem)

/-- **One call** that does not withdraw a rule of the user leaves it where it is. -/
theorem mem_rules_of_call (hrule : rule ∈ engine.rules) (huser : rule.origin = .user) {call : RuleCall}
    (hkeeps : ¬Withdraws rule call) : rule ∈ (call.exec engine).rules := by
  cases call with
  | addVerifiedManagedRules bundle =>
    rw [RuleCall.exec]
    rcases exec_addVerifiedManagedRules engine bundle with ⟨error, hexec⟩ | ⟨-, -, -, -, hexec⟩
    · rw [hexec]
      exact hrule
    · rw [hexec]
      exact List.mem_append_left _ hrule
  | putUserRule item =>
    rw [RuleCall.exec]
    rcases exec_putUserRule engine item with
      ⟨error, hexec⟩ | ⟨-, -, ⟨_, -, -, -, hexec⟩ | ⟨-, -, hexec⟩⟩
    · rw [hexec]
      exact hrule
    · rw [hexec]
      exact mem_replaceRule_of_ne hrule hkeeps
    · rw [hexec]
      exact List.mem_append_left _ hrule
  | deleteUserRule id =>
    rw [RuleCall.exec]
    rcases exec_deleteUserRule engine id with ⟨error, hexec⟩ | ⟨-, _, hexec⟩
    · rw [hexec]
      exact hrule
    · rw [hexec]
      exact List.mem_filter.2 ⟨hrule, decide_eq_true fun heq => hkeeps heq.symm⟩
  | createApproval request nowMs lifetimeMs random =>
    rw [RuleCall.exec]
    rcases exec_createApproval engine request nowMs lifetimeMs random with
      ⟨fault, hexec⟩ | ⟨fault, hexec⟩ | ⟨nonce, _, -, -, -, -, -, hexec⟩
    all_goals
      rw [hexec]
      exact hrule
  | decide nonce session request decision nowMs =>
    rw [RuleCall.exec]
    rcases exec_decide engine nonce session request decision nowMs with ⟨-, error, hexec⟩ |
      ⟨pending, -, ⟨-, hexec⟩ | ⟨effect, -, ⟨-, hexec⟩ | ⟨created, -, hexec⟩⟩⟩
    · rw [hexec]
      exact hrule
    · rw [hexec]
      exact hrule
    · rw [hexec]
      exact hrule
    · rw [hexec]
      exact List.mem_append_left _ hrule
  | restoreCheckpoint checkpoint =>
    rw [RuleCall.exec]
    rcases exec_restoreCheckpoint engine checkpoint with ⟨error, hexec⟩ | ⟨-, -, -, hexec⟩
    · rw [hexec]
      exact hrule
    · rw [hexec]
      have hsaved : rule ∈ checkpoint.rules := not_not.1 hkeeps
      exact List.mem_append_left _ (List.mem_filter.2 ⟨hsaved, decide_eq_true huser⟩)

/-- **A rule of the user stays until it is withdrawn.** -/
theorem mem_rules_of_calls {calls : List RuleCall} (hrule : rule ∈ engine.rules)
    (huser : rule.origin = .user) (hkeeps : ∀ call ∈ calls, ¬Withdraws rule call) :
    rule ∈ (calls.foldl RuleCall.exec engine).rules := by
  induction calls generalizing engine with
  | nil => exact hrule
  | cons call calls ih =>
    exact ih (mem_rules_of_call hrule huser (hkeeps call List.mem_cons_self))
      (List.forall_mem_cons.1 hkeeps).2

/-! ### What a rule decides -/

theorem evaluate_of_denying (hvalid : validateRequest request = .ok ())
    (hdenying : Denying engine.rules request nowMs rule) :
    ∃ id, engine.evaluate request nowMs = .ok (.denied id) := by
  rw [evaluate_of_valid hvalid, verdict]
  cases hdeny : selectRule (candidates engine.rules request nowMs) .deny with
  | some top => exact ⟨top.id, rfl⟩
  | none =>
    have hmem := denying_iff.2 hdenying
    exact absurd hmem.2 (selectRule_eq_none_iff.1 hdeny rule hmem.1)

theorem evaluate_of_allowing (hvalid : validateRequest request = .ok ())
    (hallowing : Allowing engine.rules request nowMs rule)
    (hdenied : ¬∃ id, engine.evaluate request nowMs = .ok (.denied id)) :
    ∃ id, engine.evaluate request nowMs = .ok (.allowed id) := by
  rw [evaluate_of_valid hvalid, verdict] at hdenied ⊢
  cases hdeny : selectRule (candidates engine.rules request nowMs) .deny with
  | some top =>
    rw [hdeny] at hdenied
    exact absurd ⟨top.id, rfl⟩ hdenied
  | none =>
    dsimp only
    cases hallow : selectRule (allowCandidates engine.rules request nowMs) .allow with
    | some top => exact ⟨top.id, rfl⟩
    | none =>
      have hmem := allowing_iff.2 hallowing
      exact absurd hmem.2 (selectRule_eq_none_iff.1 hallow rule hmem.1)

/-- **A remembered decision has exactly the scope of its request**: the rule it makes covers the requests
of that scope and no others, at any time, and decides them until it is withdrawn. -/
theorem remembered
    (hdecide : (decide nonce session request decision nowMs).exec engine = (.ok outcome, engine'))
    (hremember : decision = .allowAndRemember ∨ decision = .denyAndBlock) :
    ∃ rule, outcome.createdRule = some rule ∧ rule ∈ engine'.rules ∧
      (∀ other, validateRequest other = .ok () → ∀ laterMs,
        ruleMatches rule other laterMs = true ↔ SameScope request other) ∧
      ∀ calls : List RuleCall, (∀ call ∈ calls, ¬Withdraws rule call) →
        ∀ other, validateRequest other = .ok () → SameScope request other → ∀ laterMs,
          (decision = .denyAndBlock →
            ∃ id, (calls.foldl RuleCall.exec engine').evaluate other laterMs = .ok (.denied id)) ∧
          (decision = .allowAndRemember → isHighRisk other = false →
            (¬∃ id, (calls.foldl RuleCall.exec engine').evaluate other laterMs = .ok (.denied id)) →
            ∃ id, (calls.foldl RuleCall.exec engine').evaluate other laterMs = .ok (.allowed id)) := by
  obtain ⟨effect, heffect⟩ : ∃ effect, decision.createdEffect = some effect := by
    rcases hremember with rfl | rfl
    · exact ⟨.allow, rfl⟩
    · exact ⟨.deny, rfl⟩
  obtain ⟨hvalid, rule, hcreated, hrule, hmem⟩ := createdRule_of_decide heffect hdecide
  obtain ⟨hruleEffect, huser⟩ := effect_exactRule hrule
  refine ⟨rule, hcreated, hmem, ?_, ?_⟩
  · intro other hother laterMs
    rw [ruleMatches_iff]
    exact covers_exactRule_iff hvalid hother hrule
  · intro calls hkeeps other hother hscope laterMs
    have hstays := mem_rules_of_calls hmem huser hkeeps
    have hcovers : Covers rule other laterMs := (covers_exactRule_iff hvalid hother hrule).2 hscope
    constructor
    · rintro rfl
      cases heffect
      exact evaluate_of_denying hother ⟨hstays, hcovers, hruleEffect⟩
    · rintro rfl hrisk hdenied
      cases heffect
      refine evaluate_of_allowing hother ⟨hstays, hcovers, hruleEffect, ?_⟩ hdenied
      intro hhigh
      rw [hrisk] at hhigh
      cases hhigh

omit [Sha256] in
theorem sampleRequest_remembered : letI := approvalHash
    ∃ outcome engine',
      (decide (hex sampleNonce.toList) ⟨sampleRequest.targetHostId⟩ sampleRequest .denyAndBlock 1).exec
        (new.offer (hex sampleNonce.toList) sampleRequest (expiry 0 1000)) = (.ok outcome, engine') ∧
      ∃ rule, outcome.createdRule = some rule ∧ rule ∈ engine'.rules ∧
        ∀ other, validateRequest other = .ok () → ∀ laterMs,
          ruleMatches rule other laterMs = true ↔ SameScope sampleRequest other := by
  let _ := approvalHash
  have hrules : (new.offer (hex sampleNonce.toList) sampleRequest (expiry 0 1000)).rules.length
      < maxPolicyRules := by decide
  have hredeems := redeems_sampleRequest sampleNonce .denyAndBlock rfl hrules
  have hexec := exec_decide_of_redeems hredeems
  rw [exec_createRule_some rfl, exactRule, generatedRuleId_hex] at hexec
  obtain ⟨rule, hcreated, hmem, hscope, -⟩ := remembered hexec (.inr rfl)
  exact ⟨_, _, hexec, rule, hcreated, hmem, hscope⟩

end PolicyEngine

end Dashboard
