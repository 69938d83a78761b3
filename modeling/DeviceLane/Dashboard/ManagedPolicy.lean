/-
**Bundles of managed rules.**

What an administrator signs is a digest of the rules in a canonical order: the rules by their identifiers,
and the resources of each rule as they are declared. The evaluation filters and ranks the rules as they
stand in the bundle. Neither sees more than the other: the digest is the same exactly for the same rules,
and with the same rules every request gets the same answer.

Main definitions:

* `Dashboard.SameRules` — the same rules, up to their order and the order of their resources.

Main results:

* `Dashboard.managedRules_exact` — **the digest and the evaluation tell exactly the same bundles apart**.
-/

import DeviceLane.Dashboard.PolicyEvaluation
import Mathlib.Data.List.Perm.Basic

namespace Dashboard

open Effect JsonCodec Selection PolicyEngine

variable {a b : List PolicyRule} {rule rule' : PolicyRule}

/-! ### The digest -/

def PolicyRule.canonical (rule : PolicyRule) : PolicyRule :=
  { rule with resources := sortDedup rule.resources }

def idLe (left right : PolicyRule) : Bool := left.id.text ≤ right.id.text

def canonicalRules (rules : List PolicyRule) : List PolicyRule :=
  (rules.mergeSort idLe).map PolicyRule.canonical

def canonicalBytes (rules : List PolicyRule) : List UInt8 :=
  (Json.arr ((canonicalRules rules).map PolicyRule.toJson)).toVec

def canonicalRulesDigest [Sha256] (rules : List PolicyRule) : Digest :=
  Sha256.digest (canonicalBytes rules)

/-- The hash function has no collision between two bundles. -/
def NoCollision [Sha256] (a b : List PolicyRule) : Prop :=
  canonicalRulesDigest a = canonicalRulesDigest b → canonicalBytes a = canonicalBytes b

/-! ### The same rules -/

def PolicyRule.Rearranged (rule rule' : PolicyRule) : Prop :=
  { rule with resources := rule'.resources } = rule' ∧ rule.resources.Perm rule'.resources

/-- **The same rules**, up to their order and the order of their resources. -/
def SameRules (a b : List PolicyRule) : Prop :=
  ∃ c, a.Perm c ∧ List.Forall₂ PolicyRule.Rearranged c b

/-- The engine takes the rules of a bundle. -/
def Accepts (engine : PolicyEngine) (rules : List PolicyRule) : Prop :=
  ((addVerifiedManagedRules ⟨rules⟩).exec engine).1 = .ok ⟨⟩

/-- The engine with the rules of a bundle that it takes. -/
def added (engine : PolicyEngine) (rules : List PolicyRule) : PolicyEngine :=
  ((addVerifiedManagedRules ⟨rules⟩).exec engine).2

theorem Accepts.fit {engine : PolicyEngine} (h : Accepts engine a) :
    RulesFit a ∧ added engine a = { engine with rules := engine.rules ++ a } := by
  rcases exec_addVerifiedManagedRules engine ⟨a⟩ with ⟨_, hexec⟩ | ⟨hfit, -, -, -, hexec⟩
  · rw [Accepts, hexec] at h
    cases h
  · exact ⟨hfit, by rw [added, hexec]⟩

/-! ### Canonical rules -/

theorem PolicyRule.toJson_injective : Function.Injective PolicyRule.toJson := by
  intro a b h
  simp only [toJson, Json.obj.injEq, List.cons_append, List.nil_append, List.cons.injEq, Prod.mk.injEq,
    true_and, JsonCodec.toJson_injective.eq_iff, optionToJson_injective.eq_iff] at h
  have hpresence : a.userPresence = b.userPresence ∧ a.physicalDevice = b.physicalDevice := by
    replace h := h.2.2.2.2.2.2.2.2.2.2.2
    -- a field that is left out shifts those behind it, whose names differ
    cases ha : a.userPresence <;> cases hb : b.userPresence <;> cases ha' : a.physicalDevice <;>
      cases hb' : b.physicalDevice <;>
      simp_all [skipNone, JsonCodec.toJson_injective.eq_iff]
  simp only [hpresence, List.append_assoc, List.append_cancel_left_eq, List.cons.injEq, Prod.mk.injEq,
    true_and, and_true, JsonCodec.toJson_injective.eq_iff] at h
  cases a
  cases b
  simp_all

theorem PolicyRule.nodup_of_validate (h : rule.validate = .ok ()) : rule.resources.Nodup := by
  unfold PolicyRule.validate at h
  cases hresources : validateUniqueResources rule.resources with
  | error =>
    rw [hresources] at h
    cases h
  | ok => exact (validateUniqueResources_eq_ok.1 hresources).2

theorem PolicyRule.rearranged_of_canonical_eq (h : rule.resources.Nodup) (h' : rule'.resources.Nodup)
    (heq : rule.canonical = rule'.canonical) : rule.Rearranged rule' := by
  have hresources : sortDedup rule.resources = sortDedup rule'.resources := congrArg resources heq
  refine ⟨?_, (perm_sortDedup h).symm.trans (hresources ▸ perm_sortDedup h')⟩
  cases rule
  cases rule'
  simp_all [canonical]

theorem PolicyRule.Rearranged.canonical_eq (h : rule.Rearranged rule') :
    rule.canonical = rule'.canonical := by
  rw [canonical, canonical, ← h.1, sortDedup_eq_of_perm h.2]

theorem pairwise_mergeSort_idLe (rules : List PolicyRule) :
    (rules.mergeSort idLe).Pairwise fun left right => left.id.text ≤ right.id.text := by
  have hpairwise := @List.pairwise_mergeSort _ idLe
    (fun a b c hab hbc => by
      rw [idLe, decide_eq_true_eq] at *
      exact le_trans hab hbc)
    (fun a b => by
      rw [Bool.or_eq_true, idLe, idLe, decide_eq_true_eq, decide_eq_true_eq]
      exact le_total _ _) rules
  simpa [idLe] using hpairwise

theorem canonicalRules_eq_of_perm (hnodup : (a.map PolicyRule.id).Nodup) (h : a.Perm b) :
    canonicalRules a = canonicalRules b := by
  have hsort : a.mergeSort idLe = b.mergeSort idLe := by
    refine List.Perm.eq_of_pairwise (fun x y hx hy hle hge => ?_) (pairwise_mergeSort_idLe a)
      (pairwise_mergeSort_idLe b)
      ((List.mergeSort_perm _ _).trans (h.trans (List.mergeSort_perm _ _).symm))
    have hmemX := (List.mergeSort_perm _ _).mem_iff.1 hx
    have hmemY := h.mem_iff.2 ((List.mergeSort_perm _ _).mem_iff.1 hy)
    exact List.inj_on_of_nodup_map hnodup hmemX hmemY (ValidatedId.ext (le_antisymm hle hge))
  rw [canonicalRules, canonicalRules, hsort]

theorem canonicalRules_eq_of_forall₂ (h : List.Forall₂ PolicyRule.Rearranged a b) :
    canonicalRules a = canonicalRules b := by
  have hmap : a.map PolicyRule.canonical = b.map PolicyRule.canonical := by
    induction h with
    | nil => rfl
    | cons hhead _ ih => rw [List.map_cons, List.map_cons, hhead.canonical_eq, ih]
  have hsort : ∀ rules : List PolicyRule,
      canonicalRules rules = (rules.map PolicyRule.canonical).mergeSort idLe :=
    fun rules => List.map_mergeSort fun _ _ _ _ => rfl
  rw [hsort, hsort, hmap]

theorem forall₂_of_canonical (ha : ∀ rule ∈ a, rule.resources.Nodup)
    (hb : ∀ rule ∈ b, rule.resources.Nodup)
    (h : a.map PolicyRule.canonical = b.map PolicyRule.canonical) :
    List.Forall₂ PolicyRule.Rearranged a b := by
  induction a generalizing b with
  | nil =>
    rw [List.map_eq_nil_iff.1 h.symm]
    exact .nil
  | cons rule a ih =>
    cases b with
    | nil => cases h
    | cons =>
      rw [List.map_cons, List.map_cons, List.cons.injEq] at h
      rw [List.forall_mem_cons] at ha hb
      exact .cons (PolicyRule.rearranged_of_canonical_eq ha.1 hb.1 h.1) (ih ha.2 hb.2 h.2)

/-- **The canonical forms are equal exactly if the rules are the same.** -/
theorem canonicalRules_eq_iff (ha : RulesFit a) (hb : RulesFit b) :
    canonicalRules a = canonicalRules b ↔ SameRules a b := by
  constructor
  · intro h
    have hnodup : ∀ rules, RulesFit rules → ∀ rule ∈ rules.mergeSort idLe, rule.resources.Nodup := by
      intro rules hfit rule hmem
      exact PolicyRule.nodup_of_validate (hfit.valid rule ((List.mergeSort_perm _ _).mem_iff.1 hmem))
    have hsorted := forall₂_of_canonical (hnodup a ha) (hnodup b hb) h
    -- what is related in order is related up to an order of the left side
    have hcomp : Relation.Comp (List.Forall₂ PolicyRule.Rearranged) List.Perm (a.mergeSort idLe) b :=
      ⟨_, hsorted, List.mergeSort_perm _ _⟩
    rw [List.forall₂_comp_perm_eq_perm_comp_forall₂] at hcomp
    obtain ⟨c, hperm, hforall⟩ := hcomp
    exact ⟨c, (List.mergeSort_perm _ _).symm.trans hperm, hforall⟩
  · rintro ⟨c, hperm, hforall⟩
    rw [canonicalRules_eq_of_perm ha.nodup hperm, canonicalRules_eq_of_forall₂ hforall]

theorem canonicalRulesDigest_eq_iff [Sha256] (hfree : NoCollision a b) :
    canonicalRulesDigest a = canonicalRulesDigest b ↔ canonicalRules a = canonicalRules b := by
  constructor
  · intro h
    have hjson := Json.arr.inj (Json.toVec_injective (hfree h))
    exact List.map_injective_iff.2 PolicyRule.toJson_injective hjson
  · intro h
    rw [canonicalRulesDigest, canonicalRulesDigest, canonicalBytes, canonicalBytes, h]

/-! ### The evaluation -/

theorem PolicyRule.Rearranged.same (h : rule.Rearranged rule') (request : AccessRequest) (nowMs : ℕ) :
    ruleMatches rule request nowMs = ruleMatches rule' request nowMs ∧ ruleKey rule = ruleKey rule' ∧
      rule.effect = rule'.effect ∧ rule.origin = rule'.origin := by
  obtain ⟨resources, rfl, hperm⟩ : ∃ resources, rule' = { rule with resources := resources } ∧
      rule.resources.Perm resources := ⟨_, h.1.symm, h.2⟩
  have hsame : sameResources rule.resources request.resources =
      sameResources resources request.resources := by
    rw [Bool.eq_iff_iff, sameResources_iff, sameResources_iff, hperm.length_eq]
    simp only [hperm.mem_iff]
  refine ⟨?_, ?_, rfl, rfl⟩
  · simp only [ruleMatches, hsame, hperm.isEmpty_eq]
  · simp only [ruleKey, specificity, hperm.isEmpty_eq]

theorem SameRules.selectRule_eq (h : SameRules a b) {p : PolicyRule → Bool} {effect : PolicyEffect}
    (hp : ∀ {rule rule' : PolicyRule}, rule.Rearranged rule' →
      p rule = p rule' ∧ ruleKey rule = ruleKey rule' ∧ rule.effect = rule'.effect) :
    (selectRule (a.filter p) effect).map ruleKey = (selectRule (b.filter p) effect).map ruleKey := by
  obtain ⟨_, hperm, hforall⟩ := h
  rw [selectRule_eq_lastMax, selectRule_eq_lastMax, List.filter_filter, List.filter_filter]
  refine lastMax_key_congr (((hperm.filter _).map ruleKey).trans (List.Perm.of_eq ?_))
  clear hperm
  induction hforall with
  | nil => rfl
  | cons hhead _ ih =>
    obtain ⟨hsame, hkey, heffect⟩ := hp hhead
    rw [List.filter_cons, List.filter_cons, hsame, heffect]
    split
    · rw [List.map_cons, List.map_cons, hkey, ih]
    · exact ih

theorem SameRules.append_left (h : SameRules a b) (rules : List PolicyRule) :
    SameRules (rules ++ a) (rules ++ b) := by
  obtain ⟨c, hperm, hforall⟩ := h
  refine ⟨rules ++ c, hperm.append_left rules, List.rel_append ?_ hforall⟩
  exact List.forall₂_same.2 fun rule _ => ⟨rfl, List.Perm.refl _⟩

theorem allowCandidates_eq (rules : List PolicyRule) (request : AccessRequest) (nowMs : ℕ) :
    allowCandidates rules request nowMs = rules.filter fun rule =>
      ruleMatches rule request nowMs && (!isHighRisk request || isManaged rule) := by
  unfold allowCandidates candidates
  cases isHighRisk request with
  | false => simp
  | true =>
    rw [if_pos rfl, List.filter_filter]
    refine List.filter_congr fun rule _ => ?_
    rw [Bool.not_true, Bool.false_or, Bool.and_comm]

theorem verdict_congr {request : AccessRequest} {nowMs : ℕ}
    (hdeny : (selectRule (candidates a request nowMs) .deny).map ruleKey =
      (selectRule (candidates b request nowMs) .deny).map ruleKey)
    (hallow : (selectRule (allowCandidates a request nowMs) .allow).map ruleKey =
      (selectRule (allowCandidates b request nowMs) .allow).map ruleKey) :
    verdict a request nowMs = verdict b request nowMs := by
  unfold verdict
  cases ha : selectRule (candidates a request nowMs) .deny with
  | some =>
    rw [ha] at hdeny
    obtain ⟨rule', hb, hkey⟩ := Option.map_eq_some_iff.1 hdeny.symm
    rw [hb]
    exact congrArg PolicyDecision.denied (id_eq_of_ruleKey_eq hkey).symm
  | none =>
    rw [ha] at hdeny
    rw [Option.map_eq_none_iff.1 hdeny.symm]
    dsimp only
    cases ha' : selectRule (allowCandidates a request nowMs) .allow with
    | some =>
      rw [ha'] at hallow
      obtain ⟨rule', hb, hkey⟩ := Option.map_eq_some_iff.1 hallow.symm
      rw [hb]
      exact congrArg PolicyDecision.allowed (id_eq_of_ruleKey_eq hkey).symm
    | none =>
      rw [ha'] at hallow
      rw [Option.map_eq_none_iff.1 hallow.symm]

/-- **The same rules say the same about every request.** -/
theorem SameRules.verdict_eq (h : SameRules a b) (request : AccessRequest) (nowMs : ℕ) :
    verdict a request nowMs = verdict b request nowMs := by
  refine verdict_congr (h.selectRule_eq fun hrule => ?_) ?_
  · obtain ⟨hmatches, hkey, heffect, -⟩ := hrule.same request nowMs
    exact ⟨hmatches, hkey, heffect⟩
  · rw [allowCandidates_eq, allowCandidates_eq]
    refine h.selectRule_eq fun hrule => ?_
    obtain ⟨hmatches, hkey, heffect, horigin⟩ := hrule.same request nowMs
    exact ⟨by rw [hmatches, isManaged, isManaged, horigin], hkey, heffect⟩

theorem SameRules.evaluate_eq [Sha256] {engine : PolicyEngine} (h : SameRules a b)
    (ha : Accepts engine a) (hb : Accepts engine b) (request : AccessRequest) (nowMs : ℕ) :
    (added engine a).evaluate request nowMs = (added engine b).evaluate request nowMs := by
  rw [ha.fit.2, hb.fit.2]
  cases hvalid : validateRequest request with
  | error =>
    rw [evaluate, evaluate, hvalid]
    rfl
  | ok =>
    rw [evaluate_of_valid hvalid, evaluate_of_valid hvalid]
    exact congrArg Except.ok ((h.append_left engine.rules).verdict_eq request nowMs)

/-- **The digest and the evaluation tell exactly the same bundles apart**: two bundles have one digest
exactly if their rules are the same, and with the same rules an engine says the same, down to the rule
that it reports, about every request at every time. -/
theorem managedRules_exact [Sha256] {engine engine' : PolicyEngine} (hfree : NoCollision a b)
    (ha : Accepts engine a) (hb : Accepts engine' b) :
    (canonicalRulesDigest a = canonicalRulesDigest b ↔ SameRules a b) ∧
      (SameRules a b → ∀ e : PolicyEngine, Accepts e a → Accepts e b →
        ∀ request nowMs, (added e a).evaluate request nowMs = (added e b).evaluate request nowMs) := by
  refine ⟨?_, fun h e ha hb request nowMs => h.evaluate_eq ha hb request nowMs⟩
  rw [canonicalRulesDigest_eq_iff hfree, canonicalRules_eq_iff ha.fit.1 hb.fit.1]

/-! ### A bundle -/

def sampleManaged (resources : List ResourceClass) : PolicyRule :=
  { plainRule ⟨"first", idText_first⟩ .allow with origin := .managed, resources }

abbrev bundleHash : Sha256 :=
  ⟨fun _ => ⟨[17, 12, 10, 4, 51, 109, 63, 219, 6, 199, 8, 130, 214, 193, 152, 163, 24, 101, 228, 118, 88, 225,
    87, 147, 119, 142, 183, 225, 169, 190, 186, 203], by decide⟩⟩

theorem sameRules_sampleManaged :
    SameRules [sampleManaged [.debugger, .signing]] [sampleManaged [.signing, .debugger]] := by
  refine ⟨_, List.Perm.refl _, .cons ⟨rfl, ?_⟩ .nil⟩
  exact List.Perm.swap _ _ _

/-- The bundle whose rule names its resources in another order has the same digest. -/
theorem sampleManaged_exact : letI := bundleHash
    canonicalRulesDigest [sampleManaged [.debugger, .signing]] =
      canonicalRulesDigest [sampleManaged [.signing, .debugger]] := by
  let _ := bundleHash
  obtain ⟨c, hperm, hforall⟩ := sameRules_sampleManaged
  have hfree : NoCollision [sampleManaged [.debugger, .signing]]
      [sampleManaged [.signing, .debugger]] := by
    intro _
    rw [canonicalBytes, canonicalBytes, canonicalRules_eq_of_perm (by decide) hperm,
      canonicalRules_eq_of_forall₂ hforall]
  exact (@managedRules_exact _ _ _ ⟨[], ∅⟩ ⟨[], ∅⟩ hfree rfl rfl).1.2 sameRules_sampleManaged

end Dashboard
