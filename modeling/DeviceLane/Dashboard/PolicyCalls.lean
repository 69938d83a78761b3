/-
**What the calls on the policy engine do.**

Every call on the engine either returns with the engine as it was, or makes one change that can be
said in a line. The later proofs take the calls apart by these statements and never unfold them.

Main definitions:

* `Dashboard.PolicyEngine.Redeems` — when a nonce can be decided.

Main results:

* `Dashboard.PolicyEngine.decide_error` — **a decision that is refused leaves the engine as it was**.
-/

import DeviceLane.Dashboard.Policy

namespace Dashboard

namespace PolicyEngine

open Effect

variable {n : ℕ} {decision : ApprovalDecision} {nonce : String} {request : AccessRequest}
  {engine : PolicyEngine} {rules : List PolicyRule}

/-! ### Generated identifiers -/

theorem takeBytes_of_single {cs : List Char} (h : ∀ c ∈ cs, c.utf8Size = 1) (hn : n ≤ cs.length) :
    takeBytes n cs = some (cs.take n) := by
  induction cs generalizing n with
  | nil =>
    obtain rfl : n = 0 := Nat.le_zero.1 hn
    rfl
  | cons c cs ih =>
    rw [takeBytes]
    cases n with
    | zero => rfl
    | succ n =>
      rw [List.length_cons] at hn
      have hone : c.utf8Size = 1 := h c List.mem_cons_self
      rw [if_neg (Nat.succ_ne_zero n), hone, if_pos (by omega), Nat.add_sub_cancel,
        ih (List.forall_mem_cons.1 h).2 (by omega), List.take_succ_cons]
      rfl

theorem digitChar_facts {d : ℕ} (h : d < 16) :
    (Nat.digitChar d).utf8Size = 1 ∧ isWhiteSpace (Nat.digitChar d) = false := by
  have key : ∀ d : Fin 16, (Nat.digitChar d).utf8Size = 1 ∧ isWhiteSpace (Nat.digitChar d) = false := by
    decide
  exact key ⟨d, h⟩

theorem hex_facts (bytes : List UInt8) :
    ∀ c ∈ bytes.flatMap hexChars, c.utf8Size = 1 ∧ isWhiteSpace c = false := by
  intro c hmem
  obtain ⟨b, -, hc⟩ := List.mem_flatMap.1 hmem
  have hlt : b.toNat < 256 := b.toNat_lt
  simp only [hexChars, List.mem_cons, List.not_mem_nil, or_false] at hc
  rcases hc with rfl | rfl
  · exact digitChar_facts (Nat.div_lt_of_lt_mul hlt)
  · exact digitChar_facts (Nat.mod_lt _ (by omega))

theorem length_hexChars (bytes : List UInt8) : (bytes.flatMap hexChars).length = 2 * bytes.length := by
  induction bytes with
  | nil => rfl
  | cons b bytes ih =>
    have hpair : (hexChars b).length = 2 := rfl
    rw [List.flatMap_cons, List.length_append, ih, List.length_cons, hpair]
    omega

def approvalIdChars (nonce : Digest) : List Char :=
  "approval-".toList ++ (nonce.toList.flatMap hexChars).take 32

theorem idText_approval (nonce : Digest) (hn : n ≤ 32) :
    IdText (String.ofList ("approval-".toList ++ (nonce.toList.flatMap hexChars).take n)) := by
  have htake := List.length_take_le n (nonce.toList.flatMap hexChars)
  have hstart : "approval-".toList.length = 9 := by decide
  have hlen : ("approval-".toList ++ (nonce.toList.flatMap hexChars).take n).length
      = 9 + ((nonce.toList.flatMap hexChars).take n).length := by
    rw [List.length_append, hstart]
  apply idText_ofList
  · intro hnil
    rw [hnil, List.length_nil] at hlen
    omega
  · omega
  · intro c hmem
    rcases List.mem_append.1 hmem with hmem | hmem
    · have hblank : ("approval-".toList.all fun c => !isWhiteSpace c) = true := by decide
      simpa using List.all_eq_true.1 hblank c hmem
    · exact (hex_facts _ c (List.mem_of_mem_take hmem)).2

theorem idText_approvalIdChars (nonce : Digest) : IdText (String.ofList (approvalIdChars nonce)) :=
  idText_approval nonce (Nat.le_refl _)

theorem takeBytes_hex (nonce : Digest) (hn : n ≤ 64) :
    takeBytes n (hex nonce.toList).toList = some ((nonce.toList.flatMap hexChars).take n) := by
  have hlen : n ≤ (nonce.toList.flatMap hexChars).length := by
    rw [length_hexChars, Endian.Block.toList_length]
    exact hn
  rw [hex, String.toList_ofList]
  exact takeBytes_of_single (fun c hmem => (hex_facts _ c hmem).1) hlen

def approvalId (nonce : Digest) : RuleId :=
  ⟨String.ofList (approvalIdChars nonce), idText_approvalIdChars nonce⟩

theorem generatedRuleId_hex (nonce : Digest) :
    generatedRuleId (hex nonce.toList) = some (approvalId nonce) := by
  have htext : "approval-" ++ String.ofList ((nonce.toList.flatMap hexChars).take 32)
      = String.ofList (approvalIdChars nonce) := by
    unfold approvalIdChars
    rw [String.ofList_append, String.ofList_toList]
  have hparse := ValidatedId.parse_text (approvalId nonce)
  unfold approvalId at hparse
  rw [generatedRuleId, takeBytes_hex nonce (Nat.le_add_right 32 32), Option.bind_eq_bind,
    Option.bind_some, htext, hparse]
  rfl

/-! ### Deciding -/

structure Redeems [Sha256] (engine : PolicyEngine) (nonce : String)
    (session : AuthenticatedTargetSession) (request : AccessRequest) (decision : ApprovalDecision)
    (nowMs : ℕ) (pending : PendingApproval) : Prop where
  valid : validateRequest request = .ok ()
  lookup : engine.approvals.lookup nonce = some pending
  unused : pending.used = false
  now_lt : nowMs < pending.expiresAtMs
  target : session.localHostId = pending.targetHostId
  digest : Dashboard.requestDigest request = pending.requestDigest
  room : decision.createdEffect.isSome → engine.rules.length < maxPolicyRules

def use (engine : PolicyEngine) (nonce : String) (pending : PendingApproval) : PolicyEngine :=
  { engine with approvals := engine.approvals.insert nonce { pending with used := true } }

@[simp] theorem rules_use (engine : PolicyEngine) (nonce : String) (pending : PendingApproval) :
    (engine.use nonce pending).rules = engine.rules := rfl

def push (engine : PolicyEngine) (rule : PolicyRule) : PolicyEngine :=
  { engine with rules := engine.rules ++ [rule] }

theorem exec_createRule_none (h : decision.createdEffect = none) (engine : PolicyEngine) :
    (createRule nonce request decision).exec engine = (.ok ⟨decision, none⟩, engine) := by
  rw [createRule, exec_bind_ok (exec_get _), h, exec_pure]

theorem exec_createRule_some {effect : PolicyEffect} (h : decision.createdEffect = some effect)
    (engine : PolicyEngine) :
    (createRule nonce request decision).exec engine =
      match exactRule request effect (nextRevision engine.rules) nonce with
      | none => (.error .panicked, engine)
      | some rule => (.ok ⟨decision, some rule⟩, engine.push rule) := by
  rw [createRule, exec_bind_ok (exec_get _), h]
  dsimp only
  cases exactRule request effect (nextRevision engine.rules) nonce with
  | none => exact exec_okOr_none_bind _ _ _
  | some => exact exec_okOr_some_bind _ _ _ _

variable [Sha256]

/-- **The runs of `decide`.**  It is refused without a change, or it uses the nonce up and creates
the rule the decision asks for. -/
theorem exec_decide (engine : PolicyEngine) (nonce : String) (session : AuthenticatedTargetSession)
    (request : AccessRequest) (decision : ApprovalDecision) (nowMs : ℕ) :
    ((∀ pending, ¬Redeems engine nonce session request decision nowMs pending) ∧
        ∃ error, (decide nonce session request decision nowMs).exec engine
          = (.error (.returned error), engine)) ∨
      ∃ pending, Redeems engine nonce session request decision nowMs pending ∧
        (decision.createdEffect = none ∧
            (decide nonce session request decision nowMs).exec engine
              = (.ok ⟨decision, none⟩, engine.use nonce pending) ∨
          ∃ effect, decision.createdEffect = some effect ∧
            (exactRule request effect (nextRevision engine.rules) nonce = none ∧
                (decide nonce session request decision nowMs).exec engine
                  = (.error .panicked, engine.use nonce pending) ∨
              ∃ rule, exactRule request effect (nextRevision engine.rules) nonce = some rule ∧
                (decide nonce session request decision nowMs).exec engine
                  = (.ok ⟨decision, some rule⟩, (engine.use nonce pending).push rule))) := by
  rw [decide]
  cases hvalid : validateRequest request with
  | error =>
    refine .inl ⟨fun pending h => ?_, .invalidRequest, exec_bind_error (by rw [exec_orThrow]; rfl)⟩
    rw [h.valid] at hvalid
    cases hvalid
  | ok =>
    rw [exec_bind_ok (exec_orThrow _ _ _), exec_bind_ok (exec_get _)]
    cases hlookup : engine.approvals.lookup nonce with
    | none =>
      refine .inl ⟨fun pending h => ?_, .unknownNonce, exec_okOr_none_bind _ _ _⟩
      rw [h.lookup] at hlookup
      cases hlookup
    | some pending =>
      have hsame : ∀ {p}, Redeems engine nonce session request decision nowMs p → p = pending :=
        fun h => Option.some_inj.1 (h.lookup.symm.trans hlookup)
      simp only [exec_okOr_some_bind, exec_throwIf_bind]
      by_cases hused : pending.used = true
      · refine .inl ⟨fun p h => ?_, .alreadyUsed, by rw [if_pos hused]⟩
        exact absurd h.unused (hsame h ▸ Bool.not_eq_false _ ▸ hused)
      by_cases hnow : nowMs ≥ pending.expiresAtMs
      · refine .inl ⟨fun p h => ?_, .expired, by rw [if_neg hused, if_pos hnow]⟩
        exact absurd h.now_lt (hsame h ▸ not_lt.2 hnow)
      by_cases htarget : session.localHostId ≠ pending.targetHostId
      · refine .inl ⟨fun p h => ?_, .wrongTarget, by
          rw [if_neg hused, if_neg hnow, if_pos htarget]⟩
        exact absurd h.target (hsame h ▸ htarget)
      by_cases hdigest : Dashboard.requestDigest request ≠ pending.requestDigest
      · refine .inl ⟨fun p h => ?_, .requestMismatch, by
          rw [if_neg hused, if_neg hnow, if_neg htarget, if_pos hdigest]⟩
        exact absurd h.digest (hsame h ▸ hdigest)
      by_cases hroom : decision.createdEffect.isSome ∧ engine.rules.length ≥ maxPolicyRules
      · refine .inl ⟨fun p h => ?_, .ruleLimitExceeded, by
          rw [if_neg hused, if_neg hnow, if_neg htarget, if_neg hdigest, if_pos hroom]⟩
        exact absurd (h.room hroom.1) (not_lt.2 hroom.2)
      right
      refine ⟨pending, ⟨hvalid, hlookup, Bool.not_eq_true _ ▸ hused, not_le.1 hnow,
        not_not.1 htarget, not_not.1 hdigest,
        fun hsome => not_le.1 fun hle => hroom ⟨hsome, hle⟩⟩, ?_⟩
      rw [if_neg hused, if_neg hnow, if_neg htarget, if_neg hdigest, if_neg hroom,
        exec_bind_ok (exec_modify _ _)]
      change (_ ∧ (createRule nonce request decision).exec (engine.use nonce pending) = _) ∨ _
      cases heffect : decision.createdEffect with
      | none => exact .inl ⟨rfl, exec_createRule_none heffect _⟩
      | some effect =>
        refine .inr ⟨effect, rfl, ?_⟩
        change (_ ∧ (createRule nonce request decision).exec (engine.use nonce pending) = _) ∨
          ∃ rule, _ ∧ (createRule nonce request decision).exec (engine.use nonce pending) = _
        rw [exec_createRule_some heffect, rules_use]
        cases exactRule request effect (nextRevision engine.rules) nonce with
        | none => exact .inl ⟨rfl, rfl⟩
        | some rule => exact .inr ⟨rule, rfl, rfl⟩

theorem exec_decide_of_redeems {session : AuthenticatedTargetSession} {nowMs : ℕ}
    {pending : PendingApproval} (h : Redeems engine nonce session request decision nowMs pending) :
    (decide nonce session request decision nowMs).exec engine
      = (createRule nonce request decision).exec (engine.use nonce pending) := by
  rcases exec_decide engine nonce session request decision nowMs with
    ⟨hnone, -⟩ | ⟨pending', hredeems, hexec⟩
  · exact absurd h (hnone pending)
  obtain rfl : pending = pending' := Option.some_inj.1 (h.lookup.symm.trans hredeems.lookup)
  rcases hexec with ⟨hnone, hexec⟩ | ⟨_, hsome, ⟨hrule, hexec⟩ | ⟨_, hrule, hexec⟩⟩
  · rw [hexec, exec_createRule_none hnone]
  · rw [hexec, exec_createRule_some hsome, rules_use, hrule]
  · rw [hexec, exec_createRule_some hsome, rules_use, hrule]

/-- **A decision that is refused leaves the engine as it was.** -/
theorem decide_error {session : AuthenticatedTargetSession} {nowMs : ℕ} {error : ApprovalError}
    (h : ((decide nonce session request decision nowMs).exec engine).1 = .error (.returned error)) :
    ((decide nonce session request decision nowMs).exec engine).2 = engine := by
  rcases exec_decide engine nonce session request decision nowMs with
    ⟨-, _, hexec⟩ | ⟨_, _, ⟨_, hexec⟩ | ⟨_, _, ⟨_, hexec⟩ | ⟨_, _, hexec⟩⟩⟩
  · rw [hexec]
  all_goals
    rw [hexec] at h
    cases h

/-! ### Creating approvals -/

omit [Sha256] in
theorem noneGenerates_true {ruleId : RuleId} {nonces : List String}
    (h : noneGenerates ruleId nonces = .ok true) :
    ∀ nonce ∈ nonces, ∃ id, generatedRuleId nonce = some id ∧ id ≠ ruleId := by
  induction nonces with
  | nil => simp
  | cons nonce nonces ih =>
    rw [noneGenerates] at h
    split at h
    · cases h
    · rename_i id hid
      by_cases heq : id = ruleId
      · rw [if_pos heq] at h
        cases h
      · rw [if_neg heq] at h
        intro nonce' hmem
        rcases List.mem_cons.1 hmem with rfl | hmem
        · exact ⟨id, hid, heq⟩
        · exact ih h nonce' hmem

structure Offers (engine : PolicyEngine) (nonce : String) (ruleId : RuleId) : Prop where
  generates : generatedRuleId nonce = some ruleId
  new : engine.approvals.lookup nonce = none
  other : ∀ key ∈ engine.approvals.keys, ∃ id, generatedRuleId key = some id ∧ id ≠ ruleId
  free : ∀ rule ∈ engine.rules, rule.id ≠ ruleId

omit [Sha256] in
theorem acceptsNonce_true {candidate : String} (h : engine.acceptsNonce candidate = .ok true) :
    ∃ ruleId, Offers engine candidate ruleId := by
  rw [acceptsNonce] at h
  split at h
  · cases h
  · rename_i ruleId hid
    split at h
    · cases h
    · rename_i hnew
      split at h
      · cases h
      · cases h
      · rename_i hother
        refine ⟨ruleId, hid, Option.not_isSome_iff_eq_none.1 hnew, noneGenerates_true hother, ?_⟩
        simpa using h

omit [Sha256] in
theorem findNonce_ok {candidates : List String} (h : engine.findNonce candidates = .ok nonce) :
    nonce ∈ candidates ∧ ∃ ruleId, Offers engine nonce ruleId := by
  induction candidates with
  | nil => cases h
  | cons candidate candidates ih =>
    rw [findNonce] at h
    split at h
    · cases h
    · rename_i haccepts
      cases h
      exact ⟨List.mem_cons_self, acceptsNonce_true haccepts⟩
    · obtain ⟨hmem, hoffers⟩ := ih h
      exact ⟨List.mem_cons_of_mem _ hmem, hoffers⟩

def drop (engine : PolicyEngine) (nowMs : ℕ) : PolicyEngine :=
  { engine with approvals := openApprovals engine.approvals nowMs }

def expiry (nowMs lifetimeMs : ℕ) : ℕ :=
  saturatingAdd nowMs (min lifetimeMs maxApprovalLifetimeMs)

def offer (engine : PolicyEngine) (nonce : String) (request : AccessRequest) (expiresAtMs : ℕ) :
    PolicyEngine :=
  { engine with
    approvals := engine.approvals.insert nonce
      ⟨Dashboard.requestDigest request, request.targetHostId, expiresAtMs, false⟩ }

theorem exec_createApproval_of_valid (engine : PolicyEngine)
    (hvalid : validateRequest request = .ok ()) (nowMs : ℕ) {lifetimeMs : ℕ}
    (hlifetime : lifetimeMs ≠ 0) (random : ℕ → Digest) :
    (createApproval request nowMs lifetimeMs random).exec engine =
      if (engine.drop nowMs).approvals.len ≥ maxPendingApprovals then
        (.error (.returned .approvalLimitExceeded), engine.drop nowMs)
      else
        match (engine.drop nowMs).findNonce (nonceCandidates random) with
        | .error fault => (.error fault, engine.drop nowMs)
        | .ok nonce => (.ok ⟨nonce, expiry nowMs lifetimeMs⟩,
            (engine.drop nowMs).offer nonce request (expiry nowMs lifetimeMs)) := by
  rw [createApproval, hvalid, exec_bind_ok (exec_orThrow _ _ _), exec_throwIf_bind, if_neg hlifetime,
    exec_bind_ok (exec_modify _ _), exec_bind_ok (exec_get _), exec_throwIf_bind]
  change (if (engine.drop nowMs).approvals.len ≥ _ then _ else Eff.exec (do
    let nonce ← orThrow id ((engine.drop nowMs).findNonce (nonceCandidates random))
    _) (engine.drop nowMs)) = _
  cases (engine.drop nowMs).findNonce (nonceCandidates random) with
  | error | ok => rfl

/-- **The runs of `createApproval`.**  It stops at once, or after it has dropped the approvals that
can no longer be decided, or it adds one approval to those that are left. -/
theorem exec_createApproval (engine : PolicyEngine) (request : AccessRequest)
    (nowMs lifetimeMs : ℕ) (random : ℕ → Digest) :
    (∃ fault, (createApproval request nowMs lifetimeMs random).exec engine
        = (.error fault, engine)) ∨
      (∃ fault, (createApproval request nowMs lifetimeMs random).exec engine
        = (.error fault, engine.drop nowMs)) ∨
      ∃ nonce ruleId, validateRequest request = .ok () ∧ lifetimeMs ≠ 0 ∧
        (engine.drop nowMs).approvals.len < maxPendingApprovals ∧
        (∃ attempt, nonce = hex (random attempt).toList) ∧
        Offers (engine.drop nowMs) nonce ruleId ∧
        (createApproval request nowMs lifetimeMs random).exec engine
          = (.ok ⟨nonce, expiry nowMs lifetimeMs⟩,
              (engine.drop nowMs).offer nonce request (expiry nowMs lifetimeMs)) := by
  cases hvalid : validateRequest request with
  | error =>
    rw [createApproval, hvalid]
    exact .inl ⟨.returned .invalidRequest, exec_bind_error (exec_orThrow _ _ _)⟩
  | ok =>
    by_cases hlifetime : lifetimeMs = 0
    · rw [createApproval, hvalid, exec_bind_ok (exec_orThrow _ _ _), exec_throwIf_bind,
        if_pos hlifetime]
      exact .inl ⟨.returned .invalidLifetime, rfl⟩
    right
    rw [exec_createApproval_of_valid engine hvalid nowMs hlifetime random]
    by_cases hroom : (engine.drop nowMs).approvals.len ≥ maxPendingApprovals
    · exact .inl ⟨_, if_pos hroom⟩
    rw [if_neg hroom]
    cases hnonce : (engine.drop nowMs).findNonce (nonceCandidates random) with
    | error fault => exact .inl ⟨fault, rfl⟩
    | ok nonce =>
      obtain ⟨hmem, ruleId, hoffers⟩ := findNonce_ok hnonce
      obtain ⟨attempt, -, hattempt⟩ := List.mem_map.1 hmem
      exact .inr ⟨nonce, ruleId, rfl, hlifetime, not_le.1 hroom, ⟨attempt, hattempt.symm⟩,
        hoffers, rfl⟩

omit [Sha256] in
theorem findNonce_of_empty (hempty : engine.approvals = ∅) {random : ℕ → Digest}
    (hfree : ∀ rule ∈ engine.rules, rule.id ≠ approvalId (random 0)) :
    engine.findNonce (nonceCandidates random) = .ok (hex (random 0).toList) := by
  have hcandidates : nonceCandidates random
      = hex (random 0).toList :: (nonceCandidates random).tail := rfl
  have haccepts : engine.acceptsNonce (hex (random 0).toList) = .ok true := by
    have hfree' : (engine.rules.all fun rule => rule.id ≠ approvalId (random 0)) = true :=
      List.all_eq_true.2 fun rule hmem => decide_eq_true (hfree rule hmem)
    rw [acceptsNonce, generatedRuleId_hex, hempty]
    exact congrArg Except.ok hfree'
  rw [hcandidates, findNonce, haccepts]

theorem exec_createApproval_of_empty (hempty : engine.approvals = ∅)
    (hvalid : validateRequest request = .ok ()) {lifetimeMs : ℕ} (hlifetime : lifetimeMs ≠ 0)
    (nowMs : ℕ) {random : ℕ → Digest} (hfree : ∀ rule ∈ engine.rules, rule.id ≠ approvalId (random 0)) :
    (createApproval request nowMs lifetimeMs random).exec engine
      = (.ok ⟨hex (random 0).toList, expiry nowMs lifetimeMs⟩,
          engine.offer (hex (random 0).toList) request (expiry nowMs lifetimeMs)) := by
  have hdrop : engine.drop nowMs = engine := by
    rw [drop, hempty]
    cases engine
    cases hempty
    rfl
  have hroom : ¬engine.approvals.len ≥ maxPendingApprovals := by
    rw [hempty]
    decide
  rw [exec_createApproval_of_valid engine hvalid nowMs hlifetime, hdrop, if_neg hroom,
    findNonce_of_empty hempty hfree]

section

omit [Sha256]

theorem idText_build : IdText "build" := by decide

theorem idText_user : IdText "user" := by decide

theorem idText_host : IdText "host" := by decide

theorem idText_run : IdText "run" := by decide

end

theorem evaluate_of_no_rules (hrules : engine.rules = []) (hvalid : validateRequest request = .ok ())
    (nowMs : ℕ) : ∃ reason, engine.evaluate request nowMs = .ok (.approvalRequired reason) := by
  rw [evaluate, hvalid, hrules]
  cases isHighRisk request with
  | true => exact ⟨"fresh_target_confirmation", by simp [selectRule]⟩
  | false => exact ⟨"no_matching_rule", by simp [selectRule]⟩

def sampleRequest : AccessRequest :=
  { activityId := ⟨"build", idText_build⟩
    principalId := ⟨"user", idText_user⟩
    sourceHostId := ⟨"host", idText_host⟩
    targetHostId := ⟨"host", idText_host⟩
    deviceId := none
    operation := ⟨"run", idText_run⟩
    resources := []
    remoteOperation := none
    physicalDevice := false
    userPresent := false }

theorem validate_sampleRequest : validateRequest sampleRequest = .ok () := rfl

theorem exec_createApproval_sampleRequest (random : Digest) :
    (createApproval sampleRequest 0 1000 fun _ => random).exec new
      = (.ok ⟨hex random.toList, expiry 0 1000⟩,
          new.offer (hex random.toList) sampleRequest (expiry 0 1000)) :=
  exec_createApproval_of_empty rfl validate_sampleRequest (by decide) 0 (List.forall_mem_nil _)

theorem redeems_sampleRequest (random : Digest) (decision : ApprovalDecision) {engine : PolicyEngine}
    (happrovals : engine.approvals
      = (new.offer (hex random.toList) sampleRequest (expiry 0 1000)).approvals)
    (hrules : engine.rules.length < maxPolicyRules) :
    Redeems engine (hex random.toList) ⟨sampleRequest.targetHostId⟩ sampleRequest decision 1
      ⟨Dashboard.requestDigest sampleRequest, sampleRequest.targetHostId, expiry 0 1000, false⟩ where
  valid := validate_sampleRequest
  lookup := happrovals ▸ Map.lookup_insert_self _ _ _
  unused := rfl
  now_lt := by
    have hexpiry : 1 < expiry 0 1000 := by decide
    exact hexpiry
  target := rfl
  digest := rfl
  room _ := hrules

def sampleNonce : Digest := ⟨List.replicate 32 0, rfl⟩

abbrev approvalHash : Sha256 :=
  ⟨fun _ => ⟨[38, 6, 234, 51, 172, 116, 110, 140, 106, 40, 99, 144, 6, 22, 209, 250, 39, 134, 48, 226,
    31, 36, 154, 188, 236, 207, 85, 226, 75, 230, 121, 109], by decide⟩⟩

omit [Sha256] in
theorem validateRules_eq_ok {verifiedManaged : Option Bool} {ids : List RuleId} :
    validateRules verifiedManaged ids rules = .ok () ↔
      (∀ rule ∈ rules, rule.validate = .ok ()) ∧ (rules.map PolicyRule.id).Nodup ∧
        (∀ rule ∈ rules, rule.id ∉ ids) ∧
        ∀ rule ∈ rules, ∀ managed ∈ verifiedManaged, isManaged rule = managed := by
  induction rules generalizing ids with
  | nil => simp [validateRules]
  | cons rule rules ih =>
    rw [validateRules]
    cases hvalid : rule.validate with
    | error => simp [hvalid, Except.mapError, error_bind]
    | ok =>
      rw [Except.mapError, ok_bind, failIf_bind]
      by_cases hid : rule.id ∈ ids
      · rw [if_pos hid]
        simp [hid]
      rw [if_neg hid, failIf_bind]
      by_cases horigin : ∃ managed ∈ verifiedManaged, isManaged rule ≠ managed
      · rw [if_pos horigin]
        obtain ⟨managed, hmem, hne⟩ := horigin
        constructor
        · intro h
          cases h
        · intro h
          exact absurd (h.2.2.2 rule List.mem_cons_self managed hmem) hne
      rw [if_neg horigin, ih]
      have horigin' : ∀ managed ∈ verifiedManaged, isManaged rule = managed := by
        intro managed hmem
        by_contra hne
        exact horigin ⟨managed, hmem, hne⟩
      simp only [List.forall_mem_cons]
      simp only [List.map_cons, List.nodup_cons, List.mem_map, List.mem_cons, not_or]
      constructor
      · rintro ⟨hrules, hnodup, hids, horigins⟩
        have hfresh : ¬∃ r ∈ rules, r.id = rule.id := by
          rintro ⟨r, hr, heq⟩
          exact (hids r hr).1 heq
        exact ⟨⟨hvalid, hrules⟩, ⟨hfresh, hnodup⟩, ⟨hid, fun r hr => (hids r hr).2⟩, horigin',
          horigins⟩
      · rintro ⟨⟨-, hrules⟩, ⟨hfresh, hnodup⟩, ⟨-, hids⟩, -, horigins⟩
        exact ⟨hrules, hnodup, fun r hr => ⟨fun heq => hfresh ⟨r, hr, heq⟩, hids r hr⟩, horigins⟩

structure RulesFit (rules : List PolicyRule) : Prop where
  length_le : rules.length ≤ maxPolicyRules
  valid : ∀ rule ∈ rules, rule.validate = .ok ()
  nodup : (rules.map PolicyRule.id).Nodup

section

omit [Sha256]

theorem validateMixedRuleSet_eq_ok : validateMixedRuleSet rules = .ok () ↔ RulesFit rules := by
  rw [validateMixedRuleSet, failIf_bind]
  by_cases hlen : rules.length > maxPolicyRules
  · rw [if_pos hlen]
    exact ⟨nofun, fun h => absurd h.length_le (not_le.2 hlen)⟩
  · rw [if_neg hlen, validateRules_eq_ok]
    exact ⟨fun h => ⟨not_lt.1 hlen, h.1, h.2.1⟩, fun h => ⟨h.valid, h.nodup, by simp, by simp⟩⟩

theorem validateRuleSet_eq_ok {managed : Bool} :
    validateRuleSet rules managed = .ok () ↔
      RulesFit rules ∧ ∀ rule ∈ rules, isManaged rule = managed := by
  rw [validateRuleSet, failIf_bind]
  by_cases hlen : rules.length > maxPolicyRules
  · rw [if_pos hlen]
    exact ⟨nofun, fun h => absurd h.1.length_le (not_le.2 hlen)⟩
  · rw [if_neg hlen, validateRules_eq_ok]
    constructor
    · rintro ⟨hvalid, hnodup, -, horigin⟩
      exact ⟨⟨not_lt.1 hlen, hvalid, hnodup⟩, fun rule hmem => horigin rule hmem managed rfl⟩
    · rintro ⟨hfit, horigin⟩
      refine ⟨hfit.valid, hfit.nodup, by simp, fun rule hmem managed' hmem' => ?_⟩
      rw [horigin rule hmem, Option.mem_some.1 hmem']

theorem validateRestored_eq_ok :
    engine.validateRestored = .ok () ↔
      RulesFit engine.rules ∧ engine.approvals.len ≤ maxPendingApprovals := by
  rw [validateRestored, ← validateMixedRuleSet_eq_ok]
  cases hrules : validateMixedRuleSet engine.rules with
  | error => simp [error_bind]
  | ok =>
    rw [ok_bind, failIf]
    split
    · rename_i hlen
      constructor
      · intro h
        cases h
      · exact fun h => absurd h.2 (not_le.2 hlen)
    · rename_i hlen
      exact ⟨fun _ => ⟨rfl, not_lt.1 hlen⟩, fun _ => rfl⟩

end

/-! ### Changing the rules -/

section

omit [Sha256]

theorem exec_addVerifiedManagedRules (engine : PolicyEngine) (bundle : VerifiedManagedPolicyBundle) :
    (∃ error, (addVerifiedManagedRules bundle).exec engine = (.error error, engine)) ∨
      RulesFit bundle.rules ∧ (∀ rule ∈ bundle.rules, isManaged rule = true) ∧
        (engine.rules ++ bundle.rules).length ≤ maxPolicyRules ∧
        (∀ rule ∈ bundle.rules, rule.id ∉ engine.rules.map PolicyRule.id) ∧
        (addVerifiedManagedRules bundle).exec engine
          = (.ok ⟨⟩, { engine with rules := engine.rules ++ bundle.rules }) := by
  rw [addVerifiedManagedRules]
  cases hset : validateRuleSet bundle.rules true with
  | error e => exact .inl ⟨e, exec_bind_error (by rw [exec_orThrow]; rfl)⟩
  | ok =>
    rw [exec_bind_ok (exec_orThrow _ _ _), exec_bind_ok (exec_get _), exec_throwIf_bind,
      exec_throwIf_bind]
    by_cases hlen : engine.rules.length + bundle.rules.length > maxPolicyRules
    · exact .inl ⟨_, if_pos hlen⟩
    by_cases hids : ∃ rule ∈ bundle.rules, rule.id ∈ engine.rules.map PolicyRule.id
    · exact .inl ⟨_, by rw [if_neg hlen, if_pos hids]⟩
    obtain ⟨hfit, hmanaged⟩ := validateRuleSet_eq_ok.1 hset
    refine .inr ⟨hfit, hmanaged, ?_, fun rule hmem hin => hids ⟨rule, hmem, hin⟩, ?_⟩
    · rw [List.length_append]
      exact not_lt.1 hlen
    · rw [if_neg hlen, if_neg hids]
      rfl

theorem exec_putUserRule (engine : PolicyEngine) (rule : PolicyRule) :
    (∃ error, (putUserRule rule).exec engine = (.error error, engine)) ∨
      rule.validate = .ok () ∧ isManaged rule = false ∧
        ((∃ existing, engine.rules.find? (fun item => item.id = rule.id) = some existing ∧
            isManaged existing = false ∧ existing.revision < rule.revision ∧
            (putUserRule rule).exec engine
              = (.ok ⟨⟩, { engine with rules := replaceRule rule engine.rules })) ∨
          rule.id ∉ engine.rules.map PolicyRule.id ∧ engine.rules.length < maxPolicyRules ∧
            (putUserRule rule).exec engine = (.ok ⟨⟩, engine.push rule)) := by
  rw [putUserRule]
  cases hvalid : rule.validate with
  | error e => exact .inl ⟨.invalidRule e, exec_bind_error (by rw [exec_orThrow]; rfl)⟩
  | ok =>
    rw [exec_bind_ok (exec_orThrow _ _ _), exec_throwIf_bind]
    by_cases horigin : rule.origin ≠ .user
    · exact .inl ⟨_, if_pos horigin⟩
    have huser : isManaged rule = false := by
      rw [isManaged, not_not.1 horigin]
      rfl
    rw [if_neg horigin, exec_bind_ok (exec_get _)]
    cases hfind : engine.rules.find? (fun item => item.id = rule.id) with
    | some existing =>
      dsimp only
      rw [exec_throwIf_bind]
      by_cases hexisting : existing.origin = .managed ∨ rule.revision ≤ existing.revision
      · exact .inl ⟨_, if_pos hexisting⟩
      rw [if_neg hexisting]
      obtain ⟨hmanaged, hrevision⟩ := not_or.1 hexisting
      exact .inr ⟨rfl, huser, .inl ⟨existing, rfl, decide_eq_false hmanaged,
        not_le.1 hrevision, rfl⟩⟩
    | none =>
      dsimp only
      rw [exec_throwIf_bind]
      by_cases hroom : engine.rules.length ≥ maxPolicyRules
      · exact .inl ⟨_, if_pos hroom⟩
      rw [if_neg hroom]
      refine .inr ⟨rfl, huser, .inr ⟨?_, not_le.1 hroom, rfl⟩⟩
      rw [List.mem_map]
      rintro ⟨item, hmem, heq⟩
      exact absurd (decide_eq_true heq) (List.find?_eq_none.1 hfind item hmem)

theorem exec_deleteUserRule (engine : PolicyEngine) (id : RuleId) :
    (∃ error, (deleteUserRule id).exec engine = (.error error, engine)) ∨
      (∀ rule ∈ engine.rules, isManaged rule = true → rule.id ≠ id) ∧
        ∃ changed, (deleteUserRule id).exec engine
          = (.ok changed, { engine with rules := engine.rules.filter fun rule => rule.id ≠ id }) := by
  rw [deleteUserRule, exec_bind_ok (exec_get _), exec_throwIf_bind]
  by_cases hmanaged : engine.isVerifiedManagedRule id = true
  · exact .inl ⟨_, if_pos hmanaged⟩
  rw [if_neg hmanaged]
  refine .inr ⟨?_, _, rfl⟩
  intro rule hmem hrule heq
  apply hmanaged
  rw [isVerifiedManagedRule, List.any_eq_true]
  exact ⟨rule, hmem, by rw [hrule, Bool.and_true]; exact decide_eq_true heq⟩

theorem exec_restoreCheckpoint (engine checkpoint : PolicyEngine) :
    (∃ error, (restoreCheckpoint checkpoint).exec engine = (.error error, engine)) ∨
      let restoredRules := checkpoint.rules.filter fun rule => rule.origin = .user
      let trustedManaged := engine.rules.filter isManaged
      checkpoint.approvals.len ≤ maxPendingApprovals ∧
        (∀ rule ∈ restoredRules, isManaged rule = false) ∧
        RulesFit (restoredRules ++ trustedManaged) ∧
        (restoreCheckpoint checkpoint).exec engine
          = (.ok ⟨⟩, ⟨restoredRules ++ trustedManaged, checkpoint.approvals⟩) := by
  rw [restoreCheckpoint]
  cases hcheckpoint : checkpoint.validateRestored with
  | error e => exact .inl ⟨e, exec_bind_error (by rw [exec_orThrow]; rfl)⟩
  | ok u =>
    rw [exec_bind_ok (exec_orThrow _ _ _), exec_bind_ok (exec_get _)]
    dsimp only
    rw [exec_throwIf_bind]
    split
    · exact .inl ⟨_, rfl⟩
    cases huser : validateRuleSet (checkpoint.rules.filter fun rule => rule.origin = .user) false with
    | error e => exact .inl ⟨e, exec_bind_error (by rw [exec_orThrow]; rfl)⟩
    | ok u =>
      rw [exec_bind_ok (exec_orThrow _ _ _)]
      cases hmixed : validateMixedRuleSet ((checkpoint.rules.filter fun rule => rule.origin = .user)
          ++ engine.rules.filter isManaged) with
      | error e => exact .inl ⟨e, exec_bind_error (by rw [exec_orThrow]; rfl)⟩
      | ok u =>
        rw [exec_bind_ok (exec_orThrow _ _ _)]
        exact .inr ⟨(validateRestored_eq_ok.1 hcheckpoint).2, (validateRuleSet_eq_ok.1 huser).2,
          validateMixedRuleSet_eq_ok.1 hmixed, rfl⟩

end

end PolicyEngine

end Dashboard
