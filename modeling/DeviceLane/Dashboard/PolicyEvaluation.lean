/-
**What the rules say about a request.**

A rule covers a request when every constraint that it states is met. A request is denied when a rule
that denies covers it, whatever else covers it; otherwise it is allowed when a rule that allows covers
it, which must be a managed one if the risk is high; otherwise it needs an approval. Among the rules
that decide, the one that is reported is the most specific, then the one with the highest revision,
then the one with the largest identifier; since identifiers are different there is only one.

Main definitions:

* `Dashboard.ruleKey` — the order among them.

Main results:

* `Dashboard.PolicyEngine.evaluate_meets` — **the evaluation says what is to be said**, and does not
  depend on the order of the rules.
-/

import DeviceLane.Dashboard.PolicyCalls
import DeviceLane.Library.Selection
import Mathlib.Data.Prod.Lex
import Mathlib.Data.String.Basic

namespace Dashboard

open Effect Selection

/-! ### Covering a request -/

/-- The device that a rule names is that of the request; an exact rule also excludes other devices when
it names none. -/
def CoversDevice (rule : PolicyRule) (request : AccessRequest) : Prop :=
  if rule.matchDeviceExact then
    rule.deviceId = request.deviceId
  else
    ∀ id ∈ rule.deviceId, request.deviceId = some id

/-- The resources of a rule are as many as those of the request, and among them; a rule that is not
exact may also name none. -/
def CoversResources (rule : PolicyRule) (request : AccessRequest) : Prop :=
  rule.matchResourcesExact = false ∧ rule.resources = [] ∨
    rule.resources.length = request.resources.length ∧
      ∀ resource ∈ rule.resources, resource ∈ request.resources

/-- **A rule covers a request**: every constraint that it states is met. -/
structure Covers (rule : PolicyRule) (request : AccessRequest) (nowMs : ℕ) : Prop where
  enabled : rule.enabled = true
  unexpired : ∀ expiry ∈ rule.expiresAtMs, nowMs < expiry
  principal : ∀ id ∈ rule.principalId, id = request.principalId
  sourceHost : ∀ id ∈ rule.sourceHostId, id = request.sourceHostId
  targetHost : ∀ id ∈ rule.targetHostId, id = request.targetHostId
  device : CoversDevice rule request
  operation : ∀ operation ∈ rule.operation, operation = request.operation
  resources : CoversResources rule request
  present : rule.requireUserPresence = true → request.userPresent = true
  presence : ∀ present ∈ rule.userPresence, present = request.userPresent
  physical : ∀ physical ∈ rule.physicalDevice, physical = request.physicalDevice

variable {rule : PolicyRule} {request : AccessRequest} {nowMs : ℕ} {rules : List PolicyRule}

theorem all_eq_true_iff {α : Type} {p : α → Bool} {o : Option α} :
    o.all p = true ↔ ∀ a ∈ o, p a = true := by
  cases o with
  | none | some => simp

theorem isNoneOr_iff {α : Type} [DecidableEq α] {constraint : Option α} {value : α} :
    isNoneOr constraint value = true ↔ ∀ a ∈ constraint, a = value := by
  rw [isNoneOr, all_eq_true_iff]
  simp only [decide_eq_true_eq]

theorem sameResources_iff {left right : List ResourceClass} : sameResources left right = true ↔
    left.length = right.length ∧ ∀ resource ∈ left, resource ∈ right := by
  rw [sameResources, Bool.and_eq_true, decide_eq_true_eq, List.all_eq_true]
  simp only [List.contains_iff_mem]

theorem device_iff :
    (if rule.matchDeviceExact then
        decide (rule.deviceId = request.deviceId)
      else
        rule.deviceId.all fun value => decide (request.deviceId = some value)) = true ↔
      CoversDevice rule request := by
  rw [CoversDevice]
  split
  · rw [decide_eq_true_eq]
  · rw [all_eq_true_iff]
    simp only [decide_eq_true_eq]

theorem resources_iff :
    (if rule.matchResourcesExact then
        sameResources rule.resources request.resources
      else
        rule.resources.isEmpty || sameResources rule.resources request.resources) = true ↔
      CoversResources rule request := by
  rw [CoversResources]
  split
  · rename_i hexact
    rw [sameResources_iff, hexact]
    simp
  · rename_i hexact
    rw [Bool.not_eq_true] at hexact
    rw [Bool.or_eq_true, sameResources_iff, List.isEmpty_iff, hexact]
    simp

/-- **The matcher finds the rules that cover a request.** -/
theorem ruleMatches_iff : ruleMatches rule request nowMs = true ↔ Covers rule request nowMs := by
  rw [ruleMatches]
  simp only [Bool.and_eq_true, isNoneOr_iff, device_iff, resources_iff, all_eq_true_iff,
    decide_eq_true_eq, gt_iff_lt, Bool.or_eq_true, Bool.not_eq_true']
  constructor
  · rintro ⟨⟨⟨⟨⟨⟨⟨⟨⟨⟨henabled, hexpiry⟩, hprincipal⟩, hsource⟩, htarget⟩, hdevice⟩, hoperation⟩,
      hresources⟩, hpresent⟩, hpresence⟩, hphysical⟩
    refine ⟨henabled, hexpiry, hprincipal, hsource, htarget, hdevice, hoperation, hresources, ?_,
      hpresence, hphysical⟩
    intro hrequired
    rw [hrequired] at hpresent
    exact hpresent.resolve_left Bool.noConfusion
  · intro h
    refine ⟨⟨⟨⟨⟨⟨⟨⟨⟨⟨h.enabled, h.unexpired⟩, h.principal⟩, h.sourceHost⟩, h.targetHost⟩, h.device⟩,
      h.operation⟩, h.resources⟩, ?_⟩, h.presence⟩, h.physical⟩
    cases hrequired : rule.requireUserPresence with
    | false => exact .inl rfl
    | true => exact .inr (h.present hrequired)

/-! ### The rules that decide -/

structure Denying (rules : List PolicyRule) (request : AccessRequest) (nowMs : ℕ) (rule : PolicyRule) :
    Prop where
  mem : rule ∈ rules
  covers : Covers rule request nowMs
  effect : rule.effect = .deny

/-- The rules that allow a request. If the risk is high, a rule of the user does not suffice. -/
structure Allowing (rules : List PolicyRule) (request : AccessRequest) (nowMs : ℕ) (rule : PolicyRule) :
    Prop where
  mem : rule ∈ rules
  covers : Covers rule request nowMs
  effect : rule.effect = .allow
  managed : isHighRisk request = true → rule.origin = .managed

def ruleKey (rule : PolicyRule) : ℕ ×ₗ ℕ ×ₗ String :=
  toLex (specificity rule, toLex (rule.revision, rule.id.text))

theorem keyLe_iff {a b : PolicyRule} : keyLe a b ↔ ruleKey a ≤ ruleKey b := by
  rw [keyLe, ruleKey, ruleKey, Prod.Lex.toLex_le_toLex, Prod.Lex.toLex_le_toLex]

theorem id_eq_of_ruleKey_eq {a b : PolicyRule} (h : ruleKey a = ruleKey b) : a.id = b.id := by
  have htail := congrArg Prod.snd (toLex.injective h)
  exact ValidatedId.ext (congrArg Prod.snd (toLex.injective htail))

theorem ruleKey_inj (hnodup : (rules.map PolicyRule.id).Nodup) :
    ∀ a ∈ rules, ∀ b ∈ rules, ruleKey a = ruleKey b → a = b := by
  intro a ha b hb hkey
  exact List.inj_on_of_nodup_map hnodup ha hb (id_eq_of_ruleKey_eq hkey)

theorem selectRule_eq_lastMax (effect : PolicyEffect) : selectRule rules effect =
    lastMax ruleKey (rules.filter fun rule => rule.effect = effect) := by
  rw [selectRule, lastMax, lastMaxFrom]
  congr 1
  funext best rule
  cases best with
  | none => rfl
  | some => simp only [keyLe_iff]

/-- **The selected rule is the one on top** of those that have the effect. -/
theorem selectRule_eq_some_iff (hnodup : (rules.map PolicyRule.id).Nodup) {effect : PolicyEffect} :
    selectRule rules effect = some rule ↔
      IsTop ruleKey (fun item => item ∈ rules ∧ item.effect = effect) rule := by
  have hkeys : ∀ a ∈ rules.filter (fun rule => rule.effect = effect),
      ∀ b ∈ rules.filter (fun rule => rule.effect = effect), ruleKey a = ruleKey b → a = b :=
    fun a ha b hb => ruleKey_inj hnodup a (List.mem_of_mem_filter ha) b (List.mem_of_mem_filter hb)
  rw [selectRule_eq_lastMax, lastMax_eq_some_iff hkeys]
  simp only [List.mem_filter, decide_eq_true_eq]

theorem selectRule_eq_none_iff {effect : PolicyEffect} :
    selectRule rules effect = none ↔ ∀ rule ∈ rules, rule.effect ≠ effect := by
  rw [selectRule_eq_lastMax, lastMax_eq_none_iff, List.filter_eq_nil_iff]
  simp only [decide_eq_true_eq, ne_eq]

/-! ### What is to be said -/

def approvalReason (request : AccessRequest) : String :=
  if isHighRisk request then "fresh_target_confirmation" else "no_matching_rule"

/-- **What is to be said about a request.**  The order of the rules plays no part in it. -/
inductive Judged (rules : List PolicyRule) (request : AccessRequest) (nowMs : ℕ) : PolicyDecision → Prop
  | denied {rule : PolicyRule} (h : IsTop ruleKey (Denying rules request nowMs) rule) :
      Judged rules request nowMs (.denied rule.id)
  | allowed {rule : PolicyRule} (hdenied : ¬∃ rule, Denying rules request nowMs rule)
      (h : IsTop ruleKey (Allowing rules request nowMs) rule) :
      Judged rules request nowMs (.allowed rule.id)
  | approvalRequired (hdenied : ¬∃ rule, Denying rules request nowMs rule)
      (hallowed : ¬∃ rule, Allowing rules request nowMs rule) :
      Judged rules request nowMs (.approvalRequired (approvalReason request))

/-- A decision is right: it denies when a rule denies, it allows when no rule denies and a rule allows,
it asks for an approval otherwise, and it names the one rule on top of those that decide. -/
structure Meets (rules : List PolicyRule) (request : AccessRequest) (nowMs : ℕ)
    (decision : PolicyDecision) : Prop where
  denied_iff : (∃ id, decision = .denied id) ↔ ∃ rule, Denying rules request nowMs rule
  allowed_iff : (∃ id, decision = .allowed id) ↔
    (¬∃ rule, Denying rules request nowMs rule) ∧ ∃ rule, Allowing rules request nowMs rule
  approval_iff : (∃ reason, decision = .approvalRequired reason) ↔
    (¬∃ rule, Denying rules request nowMs rule) ∧ ¬∃ rule, Allowing rules request nowMs rule
  denied_top : ∀ id, decision = .denied id →
    ∃ rule, rule.id = id ∧ IsTop ruleKey (Denying rules request nowMs) rule
  allowed_top : ∀ id, decision = .allowed id →
    ∃ rule, rule.id = id ∧ IsTop ruleKey (Allowing rules request nowMs) rule

theorem Judged.meets {decision : PolicyDecision} (h : Judged rules request nowMs decision) :
    Meets rules request nowMs decision := by
  cases h with
  | @denied rule htop =>
    have hdenied : ∃ rule, Denying rules request nowMs rule := ⟨rule, htop.mem⟩
    exact
      { denied_iff := ⟨fun _ => hdenied, fun _ => ⟨_, rfl⟩⟩
        allowed_iff := ⟨fun h => PolicyDecision.noConfusion h.choose_spec, fun h => absurd hdenied h.1⟩
        approval_iff := ⟨fun h => PolicyDecision.noConfusion h.choose_spec, fun h => absurd hdenied h.1⟩
        denied_top := fun id hid => ⟨rule, PolicyDecision.denied.inj hid, htop⟩
        allowed_top := fun id hid => PolicyDecision.noConfusion hid }
  | @allowed rule hdenied htop =>
    have hallowed : ∃ rule, Allowing rules request nowMs rule := ⟨rule, htop.mem⟩
    exact
      { denied_iff := ⟨fun h => PolicyDecision.noConfusion h.choose_spec, fun h => absurd h hdenied⟩
        allowed_iff := ⟨fun _ => ⟨hdenied, hallowed⟩, fun _ => ⟨_, rfl⟩⟩
        approval_iff := ⟨fun h => PolicyDecision.noConfusion h.choose_spec, fun h => absurd hallowed h.2⟩
        denied_top := fun id hid => PolicyDecision.noConfusion hid
        allowed_top := fun id hid => ⟨rule, PolicyDecision.allowed.inj hid, htop⟩ }
  | approvalRequired hdenied hallowed =>
    exact
      { denied_iff := ⟨fun h => PolicyDecision.noConfusion h.choose_spec, fun h => absurd h hdenied⟩
        allowed_iff := ⟨fun h => PolicyDecision.noConfusion h.choose_spec, fun h => absurd h.2 hallowed⟩
        approval_iff := ⟨fun _ => ⟨hdenied, hallowed⟩, fun _ => ⟨_, rfl⟩⟩
        denied_top := fun id hid => PolicyDecision.noConfusion hid
        allowed_top := fun id hid => PolicyDecision.noConfusion hid }

theorem Judged.perm {rules' : List PolicyRule} {decision : PolicyDecision}
    (h : Judged rules request nowMs decision) (hperm : rules.Perm rules') :
    Judged rules' request nowMs decision := by
  have hdenying : Denying rules request nowMs = Denying rules' request nowMs := by
    funext rule
    exact propext ⟨fun h => ⟨hperm.mem_iff.1 h.mem, h.covers, h.effect⟩,
      fun h => ⟨hperm.mem_iff.2 h.mem, h.covers, h.effect⟩⟩
  have hallowing : Allowing rules request nowMs = Allowing rules' request nowMs := by
    funext rule
    exact propext ⟨fun h => ⟨hperm.mem_iff.1 h.mem, h.covers, h.effect, h.managed⟩,
      fun h => ⟨hperm.mem_iff.2 h.mem, h.covers, h.effect, h.managed⟩⟩
  cases h with
  | denied htop => exact .denied (hdenying ▸ htop)
  | allowed hdenied htop => exact .allowed (hdenying ▸ hdenied) (hallowing ▸ htop)
  | approvalRequired hdenied hallowed => exact .approvalRequired (hdenying ▸ hdenied) (hallowing ▸ hallowed)

theorem Judged.unique {d d' : PolicyDecision} (h : Judged rules request nowMs d)
    (h' : Judged rules request nowMs d') : d = d' := by
  cases h with
  | denied htop =>
    cases h' with
    | denied htop' => rw [htop.unique htop']
    | allowed hdenied => exact absurd ⟨_, htop.mem⟩ hdenied
    | approvalRequired hdenied => exact absurd ⟨_, htop.mem⟩ hdenied
  | allowed hdenied htop =>
    cases h' with
    | denied htop' => exact absurd ⟨_, htop'.mem⟩ hdenied
    | allowed _ htop' => rw [htop.unique htop']
    | approvalRequired _ hallowed => exact absurd ⟨_, htop.mem⟩ hallowed
  | approvalRequired hdenied hallowed =>
    cases h' with
    | denied htop' => exact absurd ⟨_, htop'.mem⟩ hdenied
    | allowed _ htop' => exact absurd ⟨_, htop'.mem⟩ hallowed
    | approvalRequired => rfl

/-! ### The evaluation -/

def candidates (rules : List PolicyRule) (request : AccessRequest) (nowMs : ℕ) : List PolicyRule :=
  rules.filter fun rule => ruleMatches rule request nowMs

theorem mem_candidates : rule ∈ candidates rules request nowMs ↔
    rule ∈ rules ∧ Covers rule request nowMs := by
  rw [candidates, List.mem_filter, ruleMatches_iff]

theorem denying_iff : (rule ∈ candidates rules request nowMs ∧ rule.effect = .deny) ↔
    Denying rules request nowMs rule := by
  rw [mem_candidates]
  exact ⟨fun h => ⟨h.1.1, h.1.2, h.2⟩, fun h => ⟨⟨h.mem, h.covers⟩, h.effect⟩⟩

def allowCandidates (rules : List PolicyRule) (request : AccessRequest) (nowMs : ℕ) :
    List PolicyRule :=
  if isHighRisk request then
    (candidates rules request nowMs).filter isManaged
  else
    candidates rules request nowMs

theorem allowing_iff : (rule ∈ allowCandidates rules request nowMs ∧ rule.effect = .allow) ↔
    Allowing rules request nowMs rule := by
  rw [allowCandidates]
  split
  · rename_i hrisk
    rw [List.mem_filter, mem_candidates, isManaged, decide_eq_true_eq]
    exact ⟨fun h => ⟨h.1.1.1, h.1.1.2, h.2, fun _ => h.1.2⟩,
      fun h => ⟨⟨⟨h.mem, h.covers⟩, h.managed hrisk⟩, h.effect⟩⟩
  · rename_i hrisk
    rw [mem_candidates]
    exact ⟨fun h => ⟨h.1.1, h.1.2, h.2, fun hhigh => absurd hhigh hrisk⟩,
      fun h => ⟨⟨h.mem, h.covers⟩, h.effect⟩⟩

theorem nodup_candidates (hnodup : (rules.map PolicyRule.id).Nodup) :
    ((candidates rules request nowMs).map PolicyRule.id).Nodup :=
  hnodup.sublist (List.filter_sublist.map _)

theorem nodup_allowCandidates (hnodup : (rules.map PolicyRule.id).Nodup) :
    ((allowCandidates rules request nowMs).map PolicyRule.id).Nodup := by
  rw [allowCandidates]
  split
  · exact (nodup_candidates hnodup).sublist (List.filter_sublist.map _)
  · exact nodup_candidates hnodup

/-- What is said about a valid request: the rule that denies it, else the one that allows it. -/
def verdict (rules : List PolicyRule) (request : AccessRequest) (nowMs : ℕ) : PolicyDecision :=
  match selectRule (candidates rules request nowMs) .deny with
  | some rule => .denied rule.id
  | none =>
    match selectRule (allowCandidates rules request nowMs) .allow with
    | some rule => .allowed rule.id
    | none => .approvalRequired (approvalReason request)

/-- **What is said is what is to be said.** -/
theorem judged_verdict (hnodup : (rules.map PolicyRule.id).Nodup) (request : AccessRequest)
    (nowMs : ℕ) : Judged rules request nowMs (verdict rules request nowMs) := by
  rw [verdict]
  cases hdeny : selectRule (candidates rules request nowMs) .deny with
  | some =>
    have htop := (selectRule_eq_some_iff (nodup_candidates hnodup)).1 hdeny
    simp only [denying_iff] at htop
    exact .denied htop
  | none =>
    have hdenied : ¬∃ rule, Denying rules request nowMs rule := by
      rintro ⟨rule, hrule⟩
      have hmem := denying_iff.2 hrule
      exact selectRule_eq_none_iff.1 hdeny rule hmem.1 hmem.2
    cases hallow : selectRule (allowCandidates rules request nowMs) .allow with
    | some =>
      have htop := (selectRule_eq_some_iff (nodup_allowCandidates hnodup)).1 hallow
      simp only [allowing_iff] at htop
      exact .allowed hdenied htop
    | none =>
      refine .approvalRequired hdenied ?_
      rintro ⟨rule, hrule⟩
      have hmem := allowing_iff.2 hrule
      exact selectRule_eq_none_iff.1 hallow rule hmem.1 hmem.2

namespace PolicyEngine

variable [Sha256] {engine : PolicyEngine}

theorem evaluate_of_valid (hvalid : validateRequest request = .ok ()) (nowMs : ℕ) :
    engine.evaluate request nowMs = .ok (verdict engine.rules request nowMs) := by
  rw [evaluate, hvalid, ok_bind, verdict, allowCandidates, approvalReason]
  dsimp only
  rw [← candidates]
  cases selectRule (candidates engine.rules request nowMs) .deny with
  | some => rfl
  | none =>
    dsimp only
    by_cases hrisk : isHighRisk request = true
    · rw [if_pos hrisk, if_pos hrisk, if_pos hrisk]
      cases selectRule ((candidates engine.rules request nowMs).filter isManaged) .allow <;> rfl
    · rw [if_neg hrisk, if_neg hrisk, if_neg hrisk]
      cases selectRule (candidates engine.rules request nowMs) .allow <;> rfl

/-- **The evaluation meets its specification**, and says the same for the rules in any order. -/
theorem evaluate_meets (hnodup : (engine.rules.map PolicyRule.id).Nodup)
    (hvalid : validateRequest request = .ok ()) (nowMs : ℕ) :
    ∃ decision, engine.evaluate request nowMs = .ok decision ∧
      Meets engine.rules request nowMs decision ∧
      ∀ other : PolicyEngine, engine.rules.Perm other.rules →
        other.evaluate request nowMs = .ok decision := by
  have hjudged := judged_verdict hnodup request nowMs
  refine ⟨_, evaluate_of_valid hvalid nowMs, hjudged.meets, ?_⟩
  intro other hperm
  have hnodup' : (other.rules.map PolicyRule.id).Nodup := (hperm.map PolicyRule.id).nodup_iff.1 hnodup
  rw [evaluate_of_valid hvalid, (judged_verdict hnodup' request nowMs).unique (hjudged.perm hperm)]

def plainRule (id : RuleId) (effect : PolicyEffect) : PolicyRule :=
  { id
    revision := 1
    effect
    principalId := none
    sourceHostId := none
    targetHostId := none
    deviceId := none
    operation := none
    resources := []
    expiresAtMs := none
    requireUserPresence := false
    userPresence := none
    physicalDevice := none
    matchDeviceExact := false
    matchResourcesExact := false
    enabled := true
    origin := .user }

omit [Sha256] in
theorem idText_first : IdText "first" := by decide

omit [Sha256] in
theorem idText_second : IdText "second" := by decide

def plainEngine : PolicyEngine :=
  ⟨[plainRule ⟨"first", idText_first⟩ .allow, plainRule ⟨"second", idText_second⟩ .deny], ∅⟩

omit [Sha256] in
theorem plainEngine_meets : letI := approvalHash
    ∃ decision, plainEngine.evaluate sampleRequest 0 = .ok decision ∧
      Meets plainEngine.rules sampleRequest 0 decision ∧
      ∀ other : PolicyEngine, plainEngine.rules.Perm other.rules →
        other.evaluate sampleRequest 0 = .ok decision := by
  let _ := approvalHash
  exact evaluate_meets (by decide) validate_sampleRequest 0

end PolicyEngine

end Dashboard
