/-
**The policy engine.**

The engine holds the rules that decide requests and the approvals that are pending. An approval is
created for one request under a random nonce, and decided at most once by a session on its target
host; a decision to be remembered adds a rule whose identifier is made from the nonce.

Main definitions:

* `Dashboard.PolicyEngine` — rules and approvals, with `new` and `withRules`.
-/

import DeviceLane.Dashboard.AccessRequest
import DeviceLane.Library.Map

namespace Dashboard

open Effect

def maxApprovalLifetimeMs : ℕ := 5 * 60 * 1000

def maxPolicyRules : ℕ := maxCollectionItems

def maxPendingApprovals : ℕ := maxCollectionItems

def nonceGenerationAttempts : ℕ := 32

/-- A session of the local user interface, which is issued for the host it runs on. -/
structure AuthenticatedTargetSession where
  localHostId : HostId
  deriving DecidableEq

structure VerifiedManagedPolicyBundle where
  rules : List PolicyRule

inductive PolicyDecision
  | allowed (ruleId : RuleId)
  | denied (ruleId : RuleId)
  | approvalRequired (reason : String)
  deriving DecidableEq

structure ApprovalChallenge where
  nonce : String
  expiresAtMs : ℕ
  deriving DecidableEq, Repr

structure ApprovalOutcome where
  decision : ApprovalDecision
  createdRule : Option PolicyRule
  deriving DecidableEq

inductive ApprovalError
  | invalidRequest
  | invalidLifetime
  | unknownNonce
  | wrongTarget
  | requestMismatch
  | expired
  | alreadyUsed
  | approvalLimitExceeded
  | ruleLimitExceeded
  | nonceGenerationFailed
  | unauthenticatedTargetSession
  deriving DecidableEq, Repr

inductive PolicyConfigurationError
  | invalidRule (error : ValidationError)
  | ruleLimitExceeded
  | duplicateRuleId
  | managedOriginRequiresVerification
  deriving DecidableEq, Repr

structure PendingApproval where
  requestDigest : Digest
  targetHostId : HostId
  expiresAtMs : ℕ
  used : Bool
  deriving DecidableEq

structure PolicyEngine where
  rules : List PolicyRule
  approvals : Map String PendingApproval
  deriving DecidableEq

/-! ### Checking rules -/

def isManaged (rule : PolicyRule) : Bool := rule.origin = .managed

/-- The loop over the rules, with the identifiers seen so far; whether the rules must be managed, or
must not be, is left open for a mixed set. -/
def validateRules (verifiedManaged : Option Bool) (ids : List RuleId) :
    List PolicyRule → Except PolicyConfigurationError Unit
  | [] => .ok ()
  | rule :: rules => do
      rule.validate.mapError .invalidRule
      failIf (rule.id ∈ ids) .duplicateRuleId
      failIf (∃ managed ∈ verifiedManaged, isManaged rule ≠ managed)
        .managedOriginRequiresVerification
      validateRules verifiedManaged (rule.id :: ids) rules

def validateRuleSet (rules : List PolicyRule) (verifiedManaged : Bool) :
    Except PolicyConfigurationError Unit := do
  failIf (rules.length > maxPolicyRules) .ruleLimitExceeded
  validateRules (some verifiedManaged) [] rules

def validateMixedRuleSet (rules : List PolicyRule) : Except PolicyConfigurationError Unit := do
  failIf (rules.length > maxPolicyRules) .ruleLimitExceeded
  validateRules none [] rules

/-! ### Matching rules -/

def sameResources (left right : List ResourceClass) : Bool :=
  left.length = right.length && left.all right.contains

def isNoneOr {α : Type} [DecidableEq α] (constraint : Option α) (value : α) : Bool :=
  constraint.all (· = value)

def ruleMatches (rule : PolicyRule) (request : AccessRequest) (nowMs : ℕ) : Bool :=
  rule.enabled
    && rule.expiresAtMs.all (· > nowMs)
    && isNoneOr rule.principalId request.principalId
    && isNoneOr rule.sourceHostId request.sourceHostId
    && isNoneOr rule.targetHostId request.targetHostId
    && (if rule.matchDeviceExact then
          rule.deviceId = request.deviceId
        else
          rule.deviceId.all fun value => request.deviceId = some value)
    && isNoneOr rule.operation request.operation
    && (if rule.matchResourcesExact then
          sameResources rule.resources request.resources
        else
          rule.resources.isEmpty || sameResources rule.resources request.resources)
    && (!rule.requireUserPresence || request.userPresent)
    && isNoneOr rule.userPresence request.userPresent
    && isNoneOr rule.physicalDevice request.physicalDevice

def specificity (rule : PolicyRule) : ℕ :=
  rule.principalId.isSome.toNat + rule.sourceHostId.isSome.toNat + rule.targetHostId.isSome.toNat
    + (rule.deviceId.isSome || rule.matchDeviceExact).toNat
    + rule.operation.isSome.toNat
    + (!rule.resources.isEmpty || rule.matchResourcesExact).toNat
    + (rule.requireUserPresence || rule.userPresence.isSome).toNat
    + rule.physicalDevice.isSome.toNat

def keyLe (a b : PolicyRule) : Prop :=
  specificity a < specificity b
    ∨ specificity a = specificity b ∧ (a.revision < b.revision
      ∨ a.revision = b.revision ∧ a.id.text ≤ b.id.text)

instance (a b : PolicyRule) : Decidable (keyLe a b) := inferInstanceAs (Decidable (_ ∨ _ ∧ _))

def selectRule (rules : List PolicyRule) (effect : PolicyEffect) : Option PolicyRule :=
  (rules.filter fun rule => rule.effect = effect).foldl
    (fun best rule =>
      match best with
      | none => some rule
      | some best => if keyLe best rule then some rule else some best)
    none

def startsWith (start text : String) : Bool := start.toList.isPrefixOf text.toList

def isHighRisk (request : AccessRequest) : Bool :=
  (request.resources.any fun resource =>
      resource = .debugger || resource = .signing || resource = .microphone
        || resource = .screenCapture)
    || startsWith "keychain." request.operation.text
    || startsWith "devicelane.policy." request.operation.text
    || startsWith "devicelane.service." request.operation.text
    || request.physicalDevice && request.resources.contains .applicationInstall

/-! ### Generated rules -/

/-- The first `n` bytes of a text. There are none if the text is shorter, or if a character goes
beyond them. -/
def takeBytes (n : ℕ) : List Char → Option (List Char)
  | [] => if n = 0 then some [] else none
  | c :: cs =>
    if n = 0 then
      some []
    else if c.utf8Size ≤ n then
      (takeBytes (n - c.utf8Size) cs).map (c :: ·)
    else
      none

/-- The identifier of the rule an approval may create. The code panics where there is none. -/
def generatedRuleId (nonce : String) : Option RuleId := do
  let start ← takeBytes 32 nonce.toList
  (ValidatedId.parse ("approval-" ++ String.ofList start)).toOption

def nextRevision (rules : List PolicyRule) : ℕ :=
  saturatingAdd ((rules.map PolicyRule.revision).max?.getD 0) 1

def exactRule (request : AccessRequest) (effect : PolicyEffect) (revision : ℕ) (nonce : String) :
    Option PolicyRule := do
  let id ← generatedRuleId nonce
  pure
    { id
      revision
      effect
      principalId := some request.principalId
      sourceHostId := some request.sourceHostId
      targetHostId := some request.targetHostId
      deviceId := request.deviceId
      operation := some request.operation
      resources := sortDedup request.resources
      expiresAtMs := none
      requireUserPresence := false
      userPresence := some request.userPresent
      physicalDevice := some request.physicalDevice
      matchDeviceExact := true
      matchResourcesExact := true
      enabled := true
      origin := .user }

def ApprovalDecision.createdEffect : ApprovalDecision → Option PolicyEffect
  | .allowAndRemember => some .allow
  | .denyAndBlock => some .deny
  | .allowOnce | .denyOnce => none

namespace PolicyEngine

def new : PolicyEngine := ⟨[], ∅⟩

def withRules (rules : List PolicyRule) : Except PolicyConfigurationError PolicyEngine := do
  validateRuleSet rules false
  pure ⟨rules, ∅⟩

/-! ### Changing the rules -/

def addVerifiedManagedRules (bundle : VerifiedManagedPolicyBundle) :
    Eff PolicyEngine PolicyConfigurationError Unit := do
  orThrow id (validateRuleSet bundle.rules true)
  let engine ← get
  throwIf (engine.rules.length + bundle.rules.length > maxPolicyRules) .ruleLimitExceeded
  throwIf (∃ rule ∈ bundle.rules, rule.id ∈ engine.rules.map PolicyRule.id) .duplicateRuleId
  set { engine with rules := engine.rules ++ bundle.rules }

def isVerifiedManagedRule (engine : PolicyEngine) (id : RuleId) : Bool :=
  engine.rules.any fun rule => rule.id = id && isManaged rule

def validateRestored (engine : PolicyEngine) : Except PolicyConfigurationError Unit := do
  validateMixedRuleSet engine.rules
  failIf (engine.approvals.len > maxPendingApprovals) .ruleLimitExceeded

def restoreCheckpoint (checkpoint : PolicyEngine) :
    Eff PolicyEngine PolicyConfigurationError Unit := do
  orThrow id checkpoint.validateRestored
  let engine ← get
  let trustedManaged := engine.rules.filter isManaged
  let checkpointManaged := checkpoint.rules.filter isManaged
  throwIf (checkpointManaged.length ≠ trustedManaged.length
      ∨ ∃ rule ∈ checkpointManaged, rule ∉ trustedManaged)
    .managedOriginRequiresVerification
  let restoredRules := checkpoint.rules.filter fun rule => rule.origin = .user
  orThrow id (validateRuleSet restoredRules false)
  orThrow id (validateMixedRuleSet (restoredRules ++ trustedManaged))
  set (⟨restoredRules ++ trustedManaged, checkpoint.approvals⟩ : PolicyEngine)

def replaceRule (rule : PolicyRule) : List PolicyRule → List PolicyRule
  | [] => []
  | item :: rules => if item.id = rule.id then rule :: rules else item :: replaceRule rule rules

def putUserRule (rule : PolicyRule) : Eff PolicyEngine PolicyConfigurationError Unit := do
  orThrow .invalidRule rule.validate
  throwIf (rule.origin ≠ .user) .managedOriginRequiresVerification
  let engine ← get
  match engine.rules.find? fun item => item.id = rule.id with
  | some existing =>
    throwIf (existing.origin = .managed ∨ rule.revision ≤ existing.revision)
      .managedOriginRequiresVerification
    set { engine with rules := replaceRule rule engine.rules }
  | none =>
    throwIf (engine.rules.length ≥ maxPolicyRules) .ruleLimitExceeded
    set { engine with rules := engine.rules ++ [rule] }

def deleteUserRule (id : RuleId) : Eff PolicyEngine PolicyConfigurationError Bool := do
  let engine ← get
  throwIf (engine.isVerifiedManagedRule id) .managedOriginRequiresVerification
  let rules := engine.rules.filter fun rule => rule.id ≠ id
  set { engine with rules }
  pure (engine.rules.length ≠ rules.length)

/-! ### Evaluating requests -/

def evaluate [Sha256] (engine : PolicyEngine) (request : AccessRequest) (nowMs : ℕ) :
    Except PolicyError PolicyDecision := do
  validateRequest request
  let candidates := engine.rules.filter fun rule => ruleMatches rule request nowMs
  match selectRule candidates .deny with
  | some rule => pure (.denied rule.id)
  | none =>
    if isHighRisk request then
      match selectRule (candidates.filter isManaged) .allow with
      | some rule => pure (.allowed rule.id)
      | none => pure (.approvalRequired "fresh_target_confirmation")
    else
      match selectRule candidates .allow with
      | some rule => pure (.allowed rule.id)
      | none => pure (.approvalRequired "no_matching_rule")

/-! ### Approvals -/

def openApprovals (approvals : Map String PendingApproval) (nowMs : ℕ) :
    Map String PendingApproval :=
  approvals.retain fun _ approval => !approval.used && approval.expiresAtMs > nowMs

def noneGenerates (ruleId : RuleId) : List String → Except (Fault ApprovalError) Bool
  | [] => .ok true
  | nonce :: nonces =>
    match generatedRuleId nonce with
    | none => .error .panicked
    | some id => if id = ruleId then .ok false else noneGenerates ruleId nonces

def acceptsNonce (engine : PolicyEngine) (candidate : String) :
    Except (Fault ApprovalError) Bool :=
  match generatedRuleId candidate with
  | none => .error .panicked
  | some ruleId =>
    if (engine.approvals.lookup candidate).isSome then
      .ok false
    else
      match noneGenerates ruleId engine.approvals.keys with
      | .error fault => .error fault
      | .ok false => .ok false
      | .ok true => .ok (engine.rules.all fun rule => rule.id ≠ ruleId)

def findNonce (engine : PolicyEngine) : List String → Except (Fault ApprovalError) String
  | [] => .error (.returned .nonceGenerationFailed)
  | candidate :: candidates =>
    match engine.acceptsNonce candidate with
    | .error fault => .error fault
    | .ok true => .ok candidate
    | .ok false => findNonce engine candidates

def nonceCandidates (random : ℕ → Digest) : List String :=
  (List.range nonceGenerationAttempts).map fun attempt => hex (random attempt).toList

def createApproval [Sha256] (request : AccessRequest) (nowMs lifetimeMs : ℕ)
    (random : ℕ → Digest) : Eff PolicyEngine (Fault ApprovalError) ApprovalChallenge := do
  orThrow (fun _ => .returned .invalidRequest) (validateRequest request)
  throwIf (lifetimeMs = 0) (.returned .invalidLifetime)
  modify fun engine => { engine with approvals := openApprovals engine.approvals nowMs }
  let engine ← get
  throwIf (engine.approvals.len ≥ maxPendingApprovals) (.returned .approvalLimitExceeded)
  let expiresAtMs := saturatingAdd nowMs (min lifetimeMs maxApprovalLifetimeMs)
  let nonce ← orThrow id (engine.findNonce (nonceCandidates random))
  set { engine with
    approvals := engine.approvals.insert nonce
      ⟨requestDigest request, request.targetHostId, expiresAtMs, false⟩ }
  pure ⟨nonce, expiresAtMs⟩

def createRule (nonce : String) (request : AccessRequest) (decision : ApprovalDecision) :
    Eff PolicyEngine (Fault ApprovalError) ApprovalOutcome := do
  let engine ← get
  match decision.createdEffect with
  | none => pure ⟨decision, none⟩
  | some effect =>
    let rule ← okOr (exactRule request effect (nextRevision engine.rules) nonce) .panicked
    set { engine with rules := engine.rules ++ [rule] }
    pure ⟨decision, some rule⟩

def decide [Sha256] (nonce : String) (session : AuthenticatedTargetSession)
    (request : AccessRequest) (decision : ApprovalDecision) (nowMs : ℕ) :
    Eff PolicyEngine (Fault ApprovalError) ApprovalOutcome := do
  orThrow (fun _ => .returned .invalidRequest) (validateRequest request)
  let engine ← get
  let pending ← okOr (engine.approvals.lookup nonce) (.returned .unknownNonce)
  throwIf pending.used (.returned .alreadyUsed)
  throwIf (nowMs ≥ pending.expiresAtMs) (.returned .expired)
  throwIf (session.localHostId ≠ pending.targetHostId) (.returned .wrongTarget)
  throwIf (Dashboard.requestDigest request ≠ pending.requestDigest) (.returned .requestMismatch)
  throwIf (decision.createdEffect.isSome ∧ engine.rules.length ≥ maxPolicyRules)
    (.returned .ruleLimitExceeded)
  modify fun engine =>
    { engine with approvals := engine.approvals.insert nonce { pending with used := true } }
  createRule nonce request decision

end PolicyEngine

end Dashboard
