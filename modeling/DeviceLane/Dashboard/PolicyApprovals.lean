/-
**Approvals are decided once, and for their own request.**

A run of the policy engine is recorded as the list of the approvals it created and decided. Whatever
the times of the calls are, no nonce is decided twice, and every decision is for the request its nonce
was created for, on that request's target host and before the approval expires.

Main definitions:

* `Dashboard.PolicyEngine.ApprovalEntry`, `Dashboard.PolicyEngine.ApprovalStep` — what one call
  creates and decides.

Main results:

* `Dashboard.PolicyEngine.singleUse_of_history` — **approvals are single-use and bound**.
-/

import DeviceLane.Dashboard.PolicyCalls

namespace Dashboard

namespace PolicyEngine

open Effect

variable [Sha256]

variable {approvals : Map String PendingApproval} {nonce : String} {pending : PendingApproval}
  {start : PolicyEngine}

/-! ### Histories -/

/-- What happens to approvals: one is created, or one is decided. -/
inductive ApprovalEntry
  | created (nonce : String) (request : AccessRequest) (nowMs expiresAtMs : ℕ)
  | decided (nonce : String) (localHostId : HostId) (request : AccessRequest) (nowMs : ℕ)

namespace ApprovalEntry

def createdNonce : ApprovalEntry → Option String
  | created nonce _ _ _ => some nonce
  | decided _ _ _ _ => none

def decidedNonce : ApprovalEntry → Option String
  | created _ _ _ _ => none
  | decided nonce _ _ _ => some nonce

def request : ApprovalEntry → AccessRequest
  | created _ request _ _ => request
  | decided _ _ request _ => request

end ApprovalEntry

open ApprovalEntry

def decidedNonces (log : List ApprovalEntry) : List String := log.filterMap decidedNonce

def knownNonces (start : PolicyEngine) (log : List ApprovalEntry) : List String :=
  start.approvals.keys ++ log.filterMap createdNonce

def createdBy (outcome : Except (Fault ApprovalError) ApprovalChallenge) (request : AccessRequest)
    (nowMs : ℕ) : List ApprovalEntry :=
  match outcome with
  | .ok challenge => [created challenge.nonce request nowMs challenge.expiresAtMs]
  | .error _ => []

def decidedBy (outcome : Except (Fault ApprovalError) ApprovalOutcome) (nonce : String)
    (session : AuthenticatedTargetSession) (request : AccessRequest) (nowMs : ℕ) :
    List ApprovalEntry :=
  match outcome with
  | .ok _ => [decided nonce session.localHostId request nowMs]
  | .error _ => []

/-- One call on an engine, with what it creates and decides. The random generator never gives a nonce
that is known already. -/
inductive ApprovalStep (known : List String) :
    PolicyEngine → List ApprovalEntry → PolicyEngine → Prop
  | createApproval (engine : PolicyEngine) (request : AccessRequest) (nowMs lifetimeMs : ℕ)
      (random : ℕ → Digest) (hrandom : ∀ attempt, hex (random attempt).toList ∉ known) :
      ApprovalStep known engine
        (createdBy ((createApproval request nowMs lifetimeMs random).exec engine).1 request nowMs)
        ((createApproval request nowMs lifetimeMs random).exec engine).2
  | decide (engine : PolicyEngine) (nonce : String) (session : AuthenticatedTargetSession)
      (request : AccessRequest) (decision : ApprovalDecision) (nowMs : ℕ) :
      ApprovalStep known engine
        (decidedBy ((decide nonce session request decision nowMs).exec engine).1 nonce session
          request nowMs)
        ((decide nonce session request decision nowMs).exec engine).2
  | putUserRule (engine : PolicyEngine) (rule : PolicyRule) :
      ApprovalStep known engine [] ((putUserRule rule).exec engine).2
  | deleteUserRule (engine : PolicyEngine) (id : RuleId) :
      ApprovalStep known engine [] ((deleteUserRule id).exec engine).2
  | addVerifiedManagedRules (engine : PolicyEngine) (bundle : VerifiedManagedPolicyBundle) :
      ApprovalStep known engine [] ((addVerifiedManagedRules bundle).exec engine).2

/-- An engine that was started from another one, with everything it has created and decided since. -/
inductive ApprovalHistory (start : PolicyEngine) : PolicyEngine → List ApprovalEntry → Prop
  | start : ApprovalHistory start start []
  | step {engine engine' : PolicyEngine} {log entries : List ApprovalEntry}
      (h : ApprovalHistory start engine log)
      (hstep : ApprovalStep (knownNonces start log) engine entries engine') :
      ApprovalHistory start engine' (log ++ entries)

/-! ### What a call does to the approvals -/

inductive ApprovalChange (known : List String) (approvals : Map String PendingApproval) :
    List ApprovalEntry → Map String PendingApproval → Prop
  /-- Approvals are dropped. -/
  | dropped {approvals' : Map String PendingApproval}
      (h : ∀ nonce pending, approvals'.lookup nonce = some pending →
        approvals.lookup nonce = some pending) :
      ApprovalChange known approvals [] approvals'
  /-- An approval is created, after others have been dropped. -/
  | created {nonce : String} {request : AccessRequest} {nowMs lifetimeMs : ℕ}
      (hvalid : validateRequest request = .ok ()) (hnew : nonce ∉ known) :
      ApprovalChange known approvals [created nonce request nowMs (expiry nowMs lifetimeMs)]
        ((openApprovals approvals nowMs).insert nonce
          ⟨Dashboard.requestDigest request, request.targetHostId, expiry nowMs lifetimeMs, false⟩)
  /-- An approval is used up without a decision: the code panics. -/
  | lost {nonce : String} {pending : PendingApproval}
      (hlookup : approvals.lookup nonce = some pending) :
      ApprovalChange known approvals [] (approvals.insert nonce { pending with used := true })
  /-- An approval is decided. -/
  | decided {nonce : String} {pending : PendingApproval} {request : AccessRequest} {nowMs : ℕ}
      (hlookup : approvals.lookup nonce = some pending) (hunused : pending.used = false)
      (hvalid : validateRequest request = .ok ())
      (hdigest : Dashboard.requestDigest request = pending.requestDigest)
      (hnow : nowMs < pending.expiresAtMs) :
      ApprovalChange known approvals [decided nonce pending.targetHostId request nowMs]
        (approvals.insert nonce { pending with used := true })

theorem ApprovalChange.kept (known : List String) (approvals : Map String PendingApproval) :
    ApprovalChange known approvals [] approvals := .dropped fun _ _ h => h

omit [Sha256] in
theorem lookup_of_openApprovals {nowMs : ℕ}
    (h : (openApprovals approvals nowMs).lookup nonce = some pending) :
    approvals.lookup nonce = some pending := by
  rw [openApprovals, Map.lookup_retain, Option.filter_eq_some_iff] at h
  exact h.1

variable {entries : List ApprovalEntry}

/-- **The changes a call can make to the approvals.** -/
theorem ApprovalStep.change {known : List String} {engine engine' : PolicyEngine}
    (h : ApprovalStep known engine entries engine') :
    ApprovalChange known engine.approvals entries engine'.approvals := by
  cases h with
  | createApproval request nowMs lifetimeMs random hrandom =>
    rcases exec_createApproval engine request nowMs lifetimeMs random with
      ⟨fault, hexec⟩ | ⟨fault, hexec⟩ | ⟨nonce, _, hvalid, _, _, ⟨attempt, rfl⟩, _, hexec⟩
    · rw [hexec]
      exact .kept _ _
    · rw [hexec]
      exact .dropped fun _ _ => lookup_of_openApprovals
    · rw [hexec]
      exact .created hvalid (hrandom attempt)
  | decide nonce session request decision nowMs =>
    rcases exec_decide engine nonce session request decision nowMs with
      ⟨-, error, hexec⟩ | ⟨_, hredeems, ⟨-, hexec⟩ | ⟨_, -, ⟨-, hexec⟩ | ⟨rule, -, hexec⟩⟩⟩
    · rw [hexec]
      exact .kept _ _
    · rw [hexec, decidedBy, hredeems.target]
      exact .decided hredeems.lookup hredeems.unused hredeems.valid hredeems.digest hredeems.now_lt
    · rw [hexec]
      exact .lost hredeems.lookup
    · rw [hexec, decidedBy, hredeems.target]
      exact .decided hredeems.lookup hredeems.unused hredeems.valid hredeems.digest hredeems.now_lt
  | putUserRule rule =>
    rcases exec_putUserRule engine rule with
      ⟨error, hexec⟩ | ⟨-, -, ⟨_, -, -, -, hexec⟩ | ⟨-, -, hexec⟩⟩
    all_goals
      rw [hexec]
      exact .kept _ _
  | deleteUserRule id =>
    rcases exec_deleteUserRule engine id with ⟨error, hexec⟩ | ⟨-, _, hexec⟩
    all_goals
      rw [hexec]
      exact .kept _ _
  | addVerifiedManagedRules bundle =>
    rcases exec_addVerifiedManagedRules engine bundle with
      ⟨error, hexec⟩ | ⟨-, -, -, -, hexec⟩
    all_goals
      rw [hexec]
      exact .kept _ _

/-! ### What the approvals held say about the history -/

structure Tracks (start : PolicyEngine) (approvals : Map String PendingApproval)
    (log : List ApprovalEntry) : Prop where
  /-- Every nonce that is held is known. -/
  known : ∀ nonce pending, approvals.lookup nonce = some pending → nonce ∈ knownNonces start log
  /-- An approval that is held and not used has not been decided. -/
  unused : ∀ nonce pending, approvals.lookup nonce = some pending → pending.used = false →
    nonce ∉ decidedNonces log
  /-- An approval that is held is as it was created. -/
  created : ∀ nonce pending, approvals.lookup nonce = some pending →
    nonce ∈ start.approvals.keys ∨ ∃ request nowMs,
      ApprovalEntry.created nonce request nowMs pending.expiresAtMs ∈ log ∧
        validateRequest request = .ok () ∧ pending.requestDigest = Dashboard.requestDigest request ∧
        pending.targetHostId = request.targetHostId
  /-- What has been decided is known. -/
  decided_known : ∀ nonce ∈ decidedNonces log, nonce ∈ knownNonces start log
  known_nodup : (knownNonces start log).Nodup
  decided_nodup : (decidedNonces log).Nodup

/-- What a decision says about the part of the history before it. -/
def Bound (start : PolicyEngine) (before : List ApprovalEntry) (nonce : String) (localHostId : HostId)
    (request : AccessRequest) (nowMs : ℕ) : Prop :=
  nonce ∈ start.approvals.keys ∨ ∃ request' nowMs' expiresAtMs,
    ApprovalEntry.created nonce request' nowMs' expiresAtMs ∈ before ∧
      validateRequest request' = .ok () ∧ validateRequest request = .ok () ∧
      Dashboard.requestDigest request = Dashboard.requestDigest request' ∧
      localHostId = request'.targetHostId ∧ nowMs < expiresAtMs

structure Sound (start : PolicyEngine) (log : List ApprovalEntry) : Prop where
  lifetime : ∀ nonce request nowMs expiresAtMs,
    ApprovalEntry.created nonce request nowMs expiresAtMs ∈ log →
      expiresAtMs ≤ saturatingAdd nowMs maxApprovalLifetimeMs
  bound : ∀ before after nonce localHostId request nowMs,
    log = before ++ ApprovalEntry.decided nonce localHostId request nowMs :: after →
      Bound start before nonce localHostId request nowMs

omit [Sha256] in
theorem knownNonces_append (start : PolicyEngine) (log entries : List ApprovalEntry) :
    knownNonces start (log ++ entries) = knownNonces start log ++ entries.filterMap createdNonce := by
  rw [knownNonces, List.filterMap_append, ← List.append_assoc, ← knownNonces]

omit [Sha256] in
theorem decidedNonces_append (log entries : List ApprovalEntry) :
    decidedNonces (log ++ entries) = decidedNonces log ++ decidedNonces entries :=
  List.filterMap_append

theorem tracks_start (start : PolicyEngine) : Tracks start start.approvals [] where
  known nonce pending h := List.mem_append_left _ (Map.mem_keys.2 ⟨pending, h⟩)
  unused _ _ _ _ := List.not_mem_nil
  created nonce pending h := .inl (Map.mem_keys.2 ⟨pending, h⟩)
  decided_known _ h := absurd h List.not_mem_nil
  known_nodup := by
    rw [knownNonces, List.filterMap_nil, List.append_nil]
    exact Map.nodup_keys _
  decided_nodup := List.nodup_nil

omit [Sha256] in
theorem lookup_use {nonce' : String} {pending' : PendingApproval}
    (hlookup : approvals.lookup nonce = some pending)
    (h : (approvals.insert nonce { pending with used := true }).lookup nonce' = some pending') :
    ∃ held, approvals.lookup nonce' = some held ∧ pending' = { held with used := pending'.used } ∧
      (pending'.used = false → nonce' ≠ nonce ∧ held.used = false) := by
  by_cases heq : nonce' = nonce
  · subst heq
    rw [Map.lookup_insert_self] at h
    cases h
    exact ⟨pending, hlookup, rfl, nofun⟩
  · rw [Map.lookup_insert_ne heq] at h
    exact ⟨pending', h, rfl, fun hunused => ⟨heq, hunused⟩⟩

variable {log : List ApprovalEntry}

theorem Tracks.use (h : Tracks start approvals log) (hlookup : approvals.lookup nonce = some pending)
    (hcreated : entries.filterMap createdNonce = [])
    (hdecided : ∀ nonce' ∈ decidedNonces entries, nonce' = nonce)
    (hnodup : (decidedNonces (log ++ entries)).Nodup) :
    Tracks start (approvals.insert nonce { pending with used := true }) (log ++ entries) := by
  have hknown : knownNonces start (log ++ entries) = knownNonces start log := by
    rw [knownNonces_append, hcreated, List.append_nil]
  refine ⟨?_, ?_, ?_, ?_, ?_, hnodup⟩
  · intro nonce' pending' hlookup'
    obtain ⟨held, hheld, -, -⟩ := lookup_use hlookup hlookup'
    rw [hknown]
    exact h.known nonce' held hheld
  · intro nonce' pending' hlookup' hunused hmem
    obtain ⟨held, hheld, -, hfree⟩ := lookup_use hlookup hlookup'
    obtain ⟨hne, hheldUnused⟩ := hfree hunused
    rw [decidedNonces_append] at hmem
    rcases List.mem_append.1 hmem with hmem | hmem
    · exact h.unused nonce' held hheld hheldUnused hmem
    · exact hne (hdecided nonce' hmem)
  · intro nonce' pending' hlookup'
    obtain ⟨held, hheld, heq, -⟩ := lookup_use hlookup hlookup'
    rw [heq]
    rcases h.created nonce' held hheld with hstart | ⟨request, nowMs, hmem, hrest⟩
    · exact .inl hstart
    · exact .inr ⟨request, nowMs, List.mem_append_left _ hmem, hrest⟩
  · intro nonce' hmem
    rw [hknown]
    rw [decidedNonces_append] at hmem
    rcases List.mem_append.1 hmem with hmem | hmem
    · exact h.decided_known nonce' hmem
    · rw [hdecided nonce' hmem]
      exact h.known nonce pending hlookup
  · rw [hknown]
    exact h.known_nodup

/-- **Every change to the approvals goes on accounting for the history.** -/
theorem Tracks.change {approvals' : Map String PendingApproval} (h : Tracks start approvals log)
    (hchange : ApprovalChange (knownNonces start log) approvals entries approvals') :
    Tracks start approvals' (log ++ entries) := by
  cases hchange with
  | dropped hdropped =>
    rw [List.append_nil]
    exact ⟨fun nonce pending hlookup => h.known nonce pending (hdropped nonce pending hlookup),
      fun nonce pending hlookup => h.unused nonce pending (hdropped nonce pending hlookup),
      fun nonce pending hlookup => h.created nonce pending (hdropped nonce pending hlookup),
      h.decided_known, h.known_nodup, h.decided_nodup⟩
  | @created nonce request nowMs lifetimeMs hvalid hnew =>
    have hdecided : decidedNonces (log ++ [.created nonce request nowMs (expiry nowMs lifetimeMs)])
        = decidedNonces log := by
      rw [decidedNonces_append]
      exact List.append_nil _
    have hknown : knownNonces start (log ++ [.created nonce request nowMs (expiry nowMs lifetimeMs)])
        = knownNonces start log ++ [nonce] := knownNonces_append _ _ _
    -- What is held now is the new approval, or it was held before.
    have hheld : ∀ nonce' pending, ((openApprovals approvals nowMs).insert nonce
        ⟨Dashboard.requestDigest request, request.targetHostId, expiry nowMs lifetimeMs,
          false⟩).lookup nonce' = some pending →
        nonce' = nonce ∧ pending = ⟨Dashboard.requestDigest request, request.targetHostId,
          expiry nowMs lifetimeMs, false⟩ ∨ approvals.lookup nonce' = some pending := by
      intro nonce' pending hlookup
      rw [Map.lookup_insert] at hlookup
      split at hlookup
      · exact .inl ⟨‹_›, (Option.some_inj.1 hlookup).symm⟩
      · exact .inr (lookup_of_openApprovals hlookup)
    refine ⟨?_, ?_, ?_, ?_, ?_, hdecided ▸ h.decided_nodup⟩
    · intro nonce' pending hlookup
      rw [hknown]
      rcases hheld nonce' pending hlookup with ⟨rfl, -⟩ | hold
      · exact List.mem_append_right _ (List.mem_singleton_self _)
      · exact List.mem_append_left _ (h.known nonce' pending hold)
    · intro nonce' pending hlookup hunused
      rw [hdecided]
      rcases hheld nonce' pending hlookup with ⟨rfl, -⟩ | hold
      · exact fun hmem => hnew (h.decided_known nonce' hmem)
      · exact h.unused nonce' pending hold hunused
    · intro nonce' pending hlookup
      rcases hheld nonce' pending hlookup with ⟨rfl, rfl⟩ | hold
      · exact .inr ⟨request, nowMs, List.mem_append_right _ (List.mem_singleton_self _), hvalid,
          rfl, rfl⟩
      · rcases h.created nonce' pending hold with hstart | ⟨request', nowMs', hmem, hrest⟩
        · exact .inl hstart
        · exact .inr ⟨request', nowMs', List.mem_append_left _ hmem, hrest⟩
    · intro nonce' hmem
      rw [hdecided] at hmem
      rw [hknown]
      exact List.mem_append_left _ (h.decided_known nonce' hmem)
    · rw [hknown, List.nodup_append]
      refine ⟨h.known_nodup, List.nodup_singleton _, ?_⟩
      intro nonce' hmem nonce'' hmem'
      rw [List.mem_singleton.1 hmem']
      exact fun heq => hnew (heq ▸ hmem)
  | lost hlookup =>
    refine h.use hlookup rfl (List.forall_mem_nil _) ?_
    rw [List.append_nil]
    exact h.decided_nodup
  | @decided nonce pending request nowMs hlookup hunused hvalid hdigest hnow =>
    refine h.use hlookup rfl (fun nonce' hmem => List.mem_singleton.1 hmem) ?_
    rw [decidedNonces_append, List.nodup_append]
    refine ⟨h.decided_nodup, List.nodup_singleton _, ?_⟩
    intro nonce' hmem nonce'' hmem'
    rw [List.mem_singleton.1 hmem']
    exact fun heq => h.unused nonce pending hlookup hunused (heq ▸ hmem)

omit [Sha256] in
/-- A list that ends in one element, split at some element: the element is the last one, or the
split is one of the list before it. -/
theorem append_singleton_eq_append_cons {α : Type} {l before after : List α} {a b : α}
    (h : l ++ [a] = before ++ b :: after) :
    a = b ∧ l = before ∨ ∃ after', l = before ++ b :: after' := by
  rcases List.eq_nil_or_concat after with rfl | ⟨after', c, rfl⟩
  · obtain ⟨hl, hab⟩ := List.append_inj' h rfl
    exact .inl ⟨List.singleton_inj.1 hab, hl⟩
  · rw [List.concat_eq_append, ← List.cons_append, ← List.append_assoc] at h
    exact .inr ⟨after', (List.append_inj' h rfl).1⟩

/-- **Every change to the approvals is sound.** -/
theorem Sound.change {approvals' : Map String PendingApproval} (h : Sound start log)
    (htracks : Tracks start approvals log)
    (hchange : ApprovalChange (knownNonces start log) approvals entries approvals') :
    Sound start (log ++ entries) := by
  cases hchange with
  | dropped | lost =>
    rw [List.append_nil]
    exact h
  | @created nonce request nowMs lifetimeMs hvalid hnew =>
    refine ⟨?_, ?_⟩
    · intro nonce' request' nowMs' expiresAtMs hmem
      rcases List.mem_append.1 hmem with hmem | hmem
      · exact h.lifetime nonce' request' nowMs' expiresAtMs hmem
      · cases List.mem_singleton.1 hmem
        simp only [expiry, saturatingAdd]
        omega
    · intro before after nonce' localHostId request' nowMs' hlog
      rcases append_singleton_eq_append_cons hlog with ⟨hlast, -⟩ | ⟨after', hlog⟩
      · cases hlast
      · exact h.bound before after' nonce' localHostId request' nowMs' hlog
  | @decided nonce pending request nowMs hlookup hunused hvalid hdigest hnow =>
    refine ⟨?_, ?_⟩
    · intro nonce' request' nowMs' expiresAtMs hmem
      rcases List.mem_append.1 hmem with hmem | hmem
      · exact h.lifetime nonce' request' nowMs' expiresAtMs hmem
      · cases List.mem_singleton.1 hmem
    · intro before after nonce' localHostId request' nowMs' hlog
      rcases append_singleton_eq_append_cons hlog with ⟨hlast, rfl⟩ | ⟨after', hlog⟩
      · cases hlast
        rcases htracks.created nonce pending hlookup with
          hstart | ⟨request', nowMs', hmem, hvalid', hdigest', htarget'⟩
        · exact .inl hstart
        · exact .inr ⟨request', nowMs', pending.expiresAtMs, hmem, hvalid', hvalid,
            hdigest.trans hdigest', htarget', hnow⟩
      · exact h.bound before after' nonce' localHostId request' nowMs' hlog

/-- **The approvals held account for the history**, and its entries for those before them. -/
theorem tracks_of_history {engine : PolicyEngine} (h : ApprovalHistory start engine log) :
    Tracks start engine.approvals log ∧ Sound start log := by
  induction h with
  | start =>
    refine ⟨tracks_start start, ⟨?_, ?_⟩⟩
    · intro nonce request nowMs _ hmem
      exact absurd hmem List.not_mem_nil
    · intro _ _ nonce _ request nowMs hlog
      exact absurd hlog.symm (List.append_ne_nil_of_right_ne_nil _ (List.cons_ne_nil _ _))
  | step _ hstep ih =>
    obtain ⟨htracks, hsound⟩ := ih
    exact ⟨htracks.change hstep.change, hsound.change htracks hstep.change⟩

/-! ### Single use -/

/-- No two of the requests have one digest and different canonical bytes. -/
def CollisionFree (log : List ApprovalEntry) : Prop :=
  ∀ a ∈ log, ∀ b ∈ log,
    Sha256.digest a.request.canonical.toJson.toVec = Sha256.digest b.request.canonical.toJson.toVec →
      a.request.canonical.toJson.toVec = b.request.canonical.toJson.toVec

/-- Approvals are decided once, and for their own request. -/
structure SingleUse (start : PolicyEngine) (log : List ApprovalEntry) : Prop where
  /-- A nonce is created for one request, and is not one of those there were at the start. -/
  created_once : (start.approvals.keys ++ log.filterMap createdNonce).Nodup
  decided_once : (decidedNonces log).Nodup
  lifetime : ∀ nonce request nowMs expiresAtMs,
    ApprovalEntry.created nonce request nowMs expiresAtMs ∈ log →
      expiresAtMs ≤ saturatingAdd nowMs maxApprovalLifetimeMs
  bound : ∀ before after nonce localHostId request nowMs,
    log = before ++ ApprovalEntry.decided nonce localHostId request nowMs :: after →
      nonce ∈ start.approvals.keys ∨ ∃ request' nowMs' expiresAtMs,
        ApprovalEntry.created nonce request' nowMs' expiresAtMs ∈ before ∧
          AccessRequest.Same request request' ∧ localHostId = request'.targetHostId ∧
          nowMs < expiresAtMs

/-- **Approvals are single-use and bound to their request**, over every run of the calls on an
engine; and a decision that is refused leaves the engine as it was. -/
theorem singleUse_of_history {start engine : PolicyEngine} {log : List ApprovalEntry}
    (h : ApprovalHistory start engine log) (hcollision : CollisionFree log) :
    SingleUse start log ∧
      ∀ nonce session request decision nowMs error,
        ((decide nonce session request decision nowMs).exec engine).1 = .error (.returned error) →
          ((decide nonce session request decision nowMs).exec engine).2 = engine := by
  obtain ⟨htracks, hsound⟩ := tracks_of_history h
  refine ⟨⟨htracks.known_nodup, htracks.decided_nodup, hsound.lifetime, ?_⟩,
    fun _ _ _ _ _ _ => decide_error⟩
  intro before after nonce localHostId request nowMs hlog
  rcases hsound.bound before after nonce localHostId request nowMs hlog with
    hstart | ⟨request', nowMs', expiresAtMs, hmem, hvalid', hvalid, hdigest, htarget, hnow⟩
  · exact .inl hstart
  -- One digest means one canonical form, and that the same request.
  have hbytes := hcollision (.decided nonce localHostId request nowMs) (by simp [hlog])
    (.created nonce request' nowMs' expiresAtMs) (by simp [hlog, hmem]) hdigest
  have hcanonical := AccessRequest.toJson_injective (Json.toVec_injective hbytes)
  exact .inr ⟨request', nowMs', expiresAtMs, hmem,
    AccessRequest.same_of_canonical_eq hvalid hvalid' hcanonical, htarget, hnow⟩

theorem history_sampleRequest (random : Digest) : ∃ engine, ApprovalHistory new engine
    [created (hex random.toList) sampleRequest 0 (expiry 0 1000),
      decided (hex random.toList) sampleRequest.targetHostId sampleRequest 1] := by
  have hcreated := ApprovalHistory.start.step (ApprovalStep.createApproval new sampleRequest 0 1000
    (fun _ => random) fun _ => List.not_mem_nil)
  rw [exec_createApproval_sampleRequest] at hcreated
  have hredeems := redeems_sampleRequest random .allowOnce rfl
    (by decide : new.rules.length < maxPolicyRules)
  have hdecided := hcreated.step (ApprovalStep.decide
    (new.offer (hex random.toList) sampleRequest (expiry 0 1000)) (hex random.toList)
    ⟨sampleRequest.targetHostId⟩ sampleRequest .allowOnce 1)
  have hnone : ApprovalDecision.allowOnce.createdEffect = none := rfl
  rw [exec_decide_of_redeems hredeems, exec_createRule_none hnone] at hdecided
  exact ⟨_, hdecided⟩

omit [Sha256] in
theorem sampleApproval_singleUse : letI := approvalHash
    SingleUse new [created (hex sampleNonce.toList) sampleRequest 0 (expiry 0 1000),
      decided (hex sampleNonce.toList) sampleRequest.targetHostId sampleRequest 1] := by
  let _ := approvalHash
  obtain ⟨engine, hhistory⟩ := history_sampleRequest sampleNonce
  refine (singleUse_of_history hhistory ?_).1
  intro a ha b hb _
  simp only [List.mem_cons, List.not_mem_nil, or_false] at ha hb
  rcases ha with rfl | rfl <;> rcases hb with rfl | rfl <;> rfl

end PolicyEngine

end Dashboard
