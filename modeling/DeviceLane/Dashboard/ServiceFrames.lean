/-
**What the calls of the service change.**

The calls are made of three writes: the checkpoint, an event and an audit record. Their runs are given
once and for all, and so is what the longer calls are made of, so that a relation that contains the
elementary moves of a call contains the call.

Main definitions:

* `Dashboard.DashboardService.Moves`, `Frame` — a relation that contains the elementary moves, without
  and with the pause.

Main results:

* `Moves.changePolicy`, `Moves.authorizeAdmin`, `Frame.pause` and so on — the moves of the calls.
-/

import DeviceLane.Dashboard.EventLogHistory
import DeviceLane.Dashboard.PolicyCalls
import DeviceLane.Dashboard.ServiceCalls

namespace Dashboard

namespace DashboardService

open Effect

variable [Sha256]

variable {s : DashboardService}

/-! ### The search for an entry -/

section

omit [Sha256]

theorem findKey_eq_some {α β : Type} [DecidableEq α] {rank : α → String} {p : β → Bool}
    {m : Map α β} {a : α} {b : β} (h : findKey rank p m = some (a, b)) :
    m.lookup a = some b ∧ p b = true := by
  rw [findKey] at h
  exact ⟨Map.mem_inOrder.1 (List.mem_of_find?_eq_some h), by simpa using List.find?_some h⟩

theorem findKey_eq_none {α β : Type} [DecidableEq α] {rank : α → String} {p : β → Bool}
    {m : Map α β} (h : findKey rank p m = none) {a : α} {b : β} (hlookup : m.lookup a = some b) :
    p b = false :=
  Bool.eq_false_iff.2 (List.find?_eq_none.1 h (a, b) (Map.mem_inOrder.2 hlookup))

theorem findKey_of_forall {α β : Type} [DecidableEq α] {rank : α → String} {p : β → Bool}
    {m : Map α β} (h : ∀ a b, m.lookup a = some b → p b = false) : findKey rank p m = none := by
  rw [findKey, List.find?_eq_none]
  intro entry hentry
  simp [h entry.1 entry.2 (Map.mem_inOrder.1 hentry)]

end

/-! ### The three writes -/

def written (s : DashboardService) (activities : Map ActivityId ActivityEvent) :
    Except (Fault DashboardServiceError) Unit × Option CheckpointFile :=
  (((persistState activities).exec s).1, ((persistState activities).exec s).2.checkpoint)

def SameButCheckpoint (s s' : DashboardService) : Prop := ∃ checkpoint, s' = { s with checkpoint }

omit [Sha256] in
theorem SameButCheckpoint.refl (s : DashboardService) : SameButCheckpoint s s := ⟨s.checkpoint, rfl⟩

theorem within_persistState (activities : Map ActivityId ActivityEvent) :
    Within SameButCheckpoint (persistState activities) := by
  intro s
  rw [persistState, exec_bind_ok (exec_get s)]
  cases hfile : s.checkpoint with
  | none => exact .refl s
  | some =>
    simp only [exec_throwIf_bind]
    split
    · exact .refl s
    split
    · exact .refl s
    cases (s.payloadOf activities).digest with
    | error => exact .refl s
    | ok => exact ⟨_, rfl⟩

theorem exec_persistState (s : DashboardService) (activities : Map ActivityId ActivityEvent) :
    (persistState activities).exec s =
      ((s.written activities).1, { s with checkpoint := (s.written activities).2 }) := by
  obtain ⟨checkpoint, hmove⟩ := within_persistState activities s
  refine Prod.ext rfl ?_
  rw [written, hmove]

theorem written_none (h : s.checkpoint = none) (activities : Map ActivityId ActivityEvent) :
    s.written activities = (.ok (), none) := by
  have hexec : (persistState activities).exec s = (.ok (), s) := by
    rw [persistState, exec_bind_ok (exec_get s), h, exec_pure]
  rw [written, hexec, h]

theorem written_of_fits {activities : Map ActivityId ActivityEvent}
    {content : Option ActivityCheckpoint} {digest : String} (hfile : s.checkpoint = some ⟨content, []⟩)
    (hactivities : activities.len ≤ 1000) (hpending : s.pending.len ≤ 1000)
    (hgrants : s.adminGrants.len ≤ 1000) (hdigest : (s.payloadOf activities).digest = .ok digest)
    (hsize : (ActivityCheckpoint.toVec ⟨s.payloadOf activities, digest⟩).length
      ≤ maxActivityCheckpointBytes) :
    s.written activities = (.ok (), some ⟨some ⟨s.payloadOf activities, digest⟩, []⟩) := by
  have hlength : (sortedActivities activities).length = activities.len := by
    rw [sortedActivities, List.length_mergeSort, Map.values, List.length_map, Map.length_toList]
  have hexec : (persistState activities).exec s =
      (.ok (), { s with checkpoint := some ⟨some ⟨s.payloadOf activities, digest⟩, []⟩ }) := by
    rw [persistState, exec_bind_ok (exec_get s), hfile]
    dsimp only
    rw [exec_throwIf_bind, if_neg (by omega), exec_throwIf_bind, if_neg (by omega), hdigest,
      exec_bind_ok (exec_orThrow _ _ _), onCheckpoint, exec_onPart, writeActivityCheckpoint,
      exec_throwIf_bind, if_neg (by omega)]
    rfl
  rw [written, hexec]

/-- **The run of `recordActivity`**: the event is refused, collapses with an earlier one, or is
published once the checkpoint has been written. -/
theorem exec_recordActivity (s : DashboardService) (event : ActivityEvent) (idempotencyKey : String) :
    (recordActivity event idempotencyKey).exec s =
      match s.events.plan idempotencyKey event with
      | .error _ => (.error (.returned .limitExceeded), s)
      | .ok none => (.ok (), { s with activities := s.activities.insert event.activityId event })
      | .ok (some eventJson) =>
        match s.written (s.activities.insert event.activityId event) with
        | (.error fault, checkpoint) =>
          (.error fault, { s with events := s.events.opened event, checkpoint })
        | (.ok _, checkpoint) =>
          (.ok (), { s with
            events := (s.events.opened event).publish idempotencyKey event eventJson
              ((s.events.opened event).nextCursorSequence + 1)
            activities := s.activities.insert event.activityId event
            checkpoint }) := by
  rw [recordActivity, exec_bind_ok (exec_get s), exec_bind, onEvents, exec_onPart,
    EventJournal.exec_appendWithPrecommit, exec_persistState]
  cases s.events.plan idempotencyKey event with
  | error => rfl
  | ok planned =>
    cases planned with
    | none => rfl
    | some =>
      rcases s.written (s.activities.insert event.activityId event) with ⟨outcome, checkpoint⟩
      cases outcome with
      | error | ok => rfl

theorem exec_recordActivity_refused {event : ActivityEvent} {idempotencyKey : String}
    {error : AppendError} (hplan : s.events.plan idempotencyKey event = .error error) :
    (recordActivity event idempotencyKey).exec s = (.error (.returned .limitExceeded), s) := by
  rw [exec_recordActivity, hplan]

theorem exec_recordActivity_accepted {event : ActivityEvent} {idempotencyKey : String}
    {checkpoint : Option CheckpointFile}
    (haccepts : s.events.Accepts idempotencyKey event event.toJson.toVec)
    (hwritten : s.written (s.activities.insert event.activityId event) = (.ok (), checkpoint)) :
    (recordActivity event idempotencyKey).exec s =
      (.ok (), { s with
        events := (s.events.opened event).publish idempotencyKey event event.toJson.toVec
          ((s.events.opened event).nextCursorSequence + 1)
        activities := s.activities.insert event.activityId event
        checkpoint }) := by
  rw [exec_recordActivity, EventJournal.plan_eq_some_iff.2 haccepts]
  dsimp only
  rw [hwritten]

/-- **The run of `appendAudit`**: an unhealthy store is not used, and one whose append fails becomes
unhealthy. -/
theorem exec_appendAudit (s : DashboardService) (record : RawAuditRecord) :
    (appendAudit record).exec s =
      if s.auditHealthy = false then
        (.error (.returned .auditUnavailable), s)
      else
        match (AuditStore.append record).exec s.audit with
        | (.error error, audit) =>
          (.error (.returned (mapAuditError error)), { s with audit, auditHealthy := false })
        | (.ok _, audit) =>
          match checkedAdd s.nextAuditSequence 1 with
          | none => (.error (.returned .auditUnavailable), { s with audit })
          | some next => (.ok (), { s with audit, nextAuditSequence := next }) := by
  rw [appendAudit, exec_bind_ok (exec_get s), exec_throwIf_bind]
  by_cases hhealthy : s.auditHealthy = false
  · rw [if_pos hhealthy, if_pos hhealthy]
  · rw [if_neg hhealthy, if_neg hhealthy, exec_bind_ok (exec_attempt _ s), onAudit, exec_onPart]
    rcases (AuditStore.append record).exec s.audit with ⟨outcome, audit⟩
    cases outcome with
    | error => rfl
    | ok => cases checkedAdd s.nextAuditSequence 1 <;> rfl

/-! ### Runs -/

@[simp] theorem runCalls_nil (s : DashboardService) : runCalls [] s = s := rfl

@[simp] theorem runCalls_cons (call : ServiceCall) (calls : List ServiceCall) (s : DashboardService) :
    runCalls (call :: calls) s = runCalls calls (call.next s) := rfl

theorem runCalls_append (before calls : List ServiceCall) (s : DashboardService) :
    runCalls (before ++ calls) s = runCalls calls (runCalls before s) := List.foldl_append

theorem program_recordActivity (event : ActivityEvent) (idempotencyKey : String) :
    ServiceCall.program (.recordActivity event idempotencyKey) = recordActivity event idempotencyKey :=
  rfl

theorem next_of_exec {call : ServiceCall} {s' : DashboardService}
    {outcome : Except (Fault DashboardServiceError) Unit} (h : call.program.exec s = (outcome, s')) :
    call.next s = s' := by
  rw [ServiceCall.next, h]

/-! ### The policy, the approvals and the grants -/

structure SameCore (s s' : DashboardService) : Prop where
  localHostId : s'.localHostId = s.localHostId
  policy : s'.policy = s.policy
  pending : s'.pending = s.pending
  adminGrants : s'.adminGrants = s.adminGrants
  paused : s'.paused = s.paused

instance : Std.Refl SameCore := ⟨fun _ => ⟨rfl, rfl, rfl, rfl, rfl⟩⟩

instance : IsTrans DashboardService SameCore where
  trans _ _ _ h h' :=
    ⟨h'.localHostId.trans h.localHostId, h'.policy.trans h.policy, h'.pending.trans h.pending,
      h'.adminGrants.trans h.adminGrants, h'.paused.trans h.paused⟩

theorem sameCore_appendAudit (record : RawAuditRecord) : Within SameCore (appendAudit record) := by
  intro s
  rw [exec_appendAudit]
  split
  · exact refl s
  split
  · exact ⟨rfl, rfl, rfl, rfl, rfl⟩
  · split
    · exact ⟨rfl, rfl, rfl, rfl, rfl⟩
    · exact ⟨rfl, rfl, rfl, rfl, rfl⟩

theorem sameCore_recordActivity (event : ActivityEvent) (idempotencyKey : String) :
    Within SameCore (recordActivity event idempotencyKey) := by
  intro s
  rw [exec_recordActivity]
  split
  · exact refl s
  · exact ⟨rfl, rfl, rfl, rfl, rfl⟩
  · split
    · exact ⟨rfl, rfl, rfl, rfl, rfl⟩
    · exact ⟨rfl, rfl, rfl, rfl, rfl⟩

theorem sameCore_persistState (activities : Map ActivityId ActivityEvent) :
    Within SameCore (persistState activities) := by
  intro _
  rw [exec_persistState]
  exact ⟨rfl, rfl, rfl, rfl, rfl⟩

/-! ### Frames -/

structure Writes (R : DashboardService → DashboardService → Prop) : Prop where
  appendAudit : ∀ record, Within R (appendAudit record)
  recordActivity : ∀ event idempotencyKey, Within R (recordActivity event idempotencyKey)

theorem writes_sameCore : Writes SameCore := ⟨sameCore_appendAudit, sameCore_recordActivity⟩

section

variable {R : DashboardService → DashboardService → Prop}

variable {call : ServiceCall}

namespace Writes

theorem auditAccessWithMessage (h : Writes R) (access : AccessRequest) (effect : PolicyEffect)
    (result : AuditResult) (message : Option MessageCode) (nowMs : ℕ) :
    Within R (auditAccessWithMessage access effect result message nowMs) :=
  Within.get fun s => h.appendAudit _ s

theorem auditAccess (h : Writes R) (access : AccessRequest) (effect : PolicyEffect)
    (result : AuditResult) (nowMs : ℕ) : Within R (auditAccess access effect result nowMs) :=
  h.auditAccessWithMessage _ _ _ _ _

theorem auditAccessFromEventWithMessage (h : Writes R) (event : ActivityEvent) (result : AuditResult)
    (message : Option MessageCode) (nowMs : ℕ) :
    Within R (auditAccessFromEventWithMessage event result message nowMs) :=
  Within.get fun s => h.appendAudit _ s

theorem auditAccessFromEvent (h : Writes R) (event : ActivityEvent) (result : AuditResult)
    (nowMs : ℕ) : Within R (auditAccessFromEvent event result nowMs) :=
  h.auditAccessFromEventWithMessage _ _ _ _

theorem auditLocal (h : Writes R) (operation : OperationId) (result : AuditResult) (nowMs : ℕ) :
    Within R (auditLocal operation result nowMs) :=
  Within.get fun s => h.appendAudit _ s

variable [Std.Refl R] [IsTrans DashboardService R]

theorem appendLocalEvent (h : Writes R) (operation : OperationId) (nowMs : ℕ) :
    Within R (appendLocalEvent operation nowMs) :=
  Within.get fun s => Within.bind (.orThrow _ _) (fun _ => h.recordActivity _ _) s

omit [Std.Refl R] in
theorem recordPreapprovalTargetOffline (h : Writes R) (access : AccessRequest) (nowMs : ℕ) :
    Within R (recordPreapprovalTargetOffline access nowMs) :=
  Within.bind (h.auditAccessWithMessage _ _ _ _ _) fun _ =>
    Within.get fun s => h.recordActivity _ _ s

omit [Std.Refl R] in
theorem recordDenied (h : Writes R) (access : AccessRequest) (nowMs : ℕ) :
    Within R (recordDenied access nowMs) :=
  Within.bind (h.auditAccessWithMessage _ _ _ _ _) fun _ =>
    Within.get fun s => h.recordActivity _ _ s

theorem transitionActivity (h : Writes R) (id : ActivityId) (state : ActivityState)
    (metrics : MetricSnapshot) (message : Option DisplayMessage) (nowMs : ℕ) :
    Within R (transitionActivity id state metrics message nowMs) := by
  refine Within.get fun s => Within.bind (.okOr _ _) (fun current => ?_) s
  refine Within.ite (fun _ => .pure _) fun _ => ?_
  refine Within.bind (.throwIf _ _) fun _ => Within.bind (.okOr _ _) fun sequence => ?_
  refine Within.bind (.throwIf _ _) fun _ => ?_
  cases state.auditResult with
  | none => exact Within.bind (h.recordActivity _ _) fun _ => .pure _
  | some =>
    exact Within.bind (h.auditAccessFromEventWithMessage _ _ _ _) fun _ =>
      Within.bind (h.recordActivity _ _) fun _ => .pure _

theorem cancelActivityInner (h : Writes R) (id : ActivityId) (nowMs : ℕ) :
    Within R (cancelActivityInner id nowMs) := by
  refine Within.get fun s => ?_
  cases s.activities.lookup id with
  | none => exact refl s
  | some =>
    refine Within.ite (R := R) (fun _ => .pure _) (fun _ => ?_) s
    refine Within.bind (h.auditAccessFromEvent _ _ _) fun _ => ?_
    refine Within.bind (.attempt (h.recordActivity _ _)) fun outcome => ?_
    cases outcome with
    | error => exact Within.bind (h.auditAccessFromEvent _ _ _) fun _ => .throw _
    | ok => exact Within.bind (h.auditAccessFromEventWithMessage _ _ _ _) fun _ => .pure _

theorem cancelAll (h : Writes R) (nowMs : ℕ) (ids : List ActivityId) :
    Within R (cancelAll nowMs ids) := by
  induction ids with
  | nil => exact .pure _
  | cons id ids ih => exact Within.bind (h.cancelActivityInner id nowMs) fun _ => ih

theorem reconcile (h : Writes R) (nowMs : ℕ) (events : List ActivityEvent) :
    Within R (reconcile nowMs events) := by
  induction events with
  | nil => exact .pure _
  | cons event events ih =>
    exact Within.bind (h.auditAccessFromEventWithMessage _ _ _ _) fun _ =>
      Within.bind (h.recordActivity _ _) fun _ => ih

theorem reconcileAfterRestart (h : Writes R) (hash : HashOrder ActivityEvent) (nowMs : ℕ) :
    Within R (reconcileAfterRestart hash nowMs) :=
  Within.get fun s => Within.bind (h.reconcile nowMs _) (fun _ => .pure _) s

theorem recordAuditUnavailableTerminal (h : Writes R)
    (hunhealthy : ∀ s, R s { s with auditHealthy := false }) (id : ActivityId)
    (metrics : MetricSnapshot) (nowMs : ℕ) :
    Within R (recordAuditUnavailableTerminal id metrics nowMs) := by
  refine Within.get fun s => Within.bind (.okOr _ _) (fun current => ?_) s
  refine Within.ite (fun _ => .pure _) fun _ => ?_
  exact Within.bind (.modify hunhealthy) fun _ =>
    Within.bind (h.recordActivity _ _) fun _ => .pure _

end Writes

structure Spends (R : DashboardService → DashboardService → Prop) : Prop extends Writes R where
  persistState : ∀ activities, Within R (persistState activities)
  adminGrants : ∀ s adminGrants, R s { s with adminGrants }

namespace Spends

variable [Std.Refl R] [IsTrans DashboardService R]

theorem spendGrant (h : Spends R) (request : AccessRequest) (mutationDigest : Option String)
    (nowMs : ℕ) : Within R (spendGrant request mutationDigest nowMs) := by
  refine Within.bind (.modify fun s => h.adminGrants s _) fun _ => Within.get fun s => ?_
  refine Within.bind (R := R) (.okOr _ _) (fun entry => ?_) s
  refine Within.bind (.modify fun s => h.adminGrants s _) fun _ => ?_
  refine Within.bind (.attempt (h.persistState _)) fun outcome => ?_
  cases outcome with
  | ok => exact .pure _
  | error =>
    exact Within.bind (.modify fun s => h.adminGrants s _) fun _ => .throw _

theorem authorizeAdmin (h : Spends R) (operation : OperationId) (resource : ResourceClass)
    (mutationDigest : Option String) (nowMs : ℕ) :
    Within R (authorizeAdmin operation resource mutationDigest nowMs) := by
  refine Within.get fun s => Within.bind (.orThrow _ _) (fun activityId => ?_) s
  dsimp only
  split
  · exact Within.bind (h.auditAccess _ _ _ _) fun _ => .throw _
  · split
    · exact .pure _
    · exact h.spendGrant _ _ _
  · exact h.spendGrant _ _ _
  · exact .throw _

end Spends

/-- A relation that contains what the calls do besides: the other writes, and the changes of the
state that need none. -/
structure Moves (R : DashboardService → DashboardService → Prop) : Prop extends Writes R where
  persistState : ∀ activities, Within R (persistState activities)
  deleteAudit : ∀ filter nowMs, Within R (onAudit (AuditStore.delete filter nowMs))
  unhealthy : ∀ s, R s { s with auditHealthy := false }
  adminGrants : ∀ s adminGrants, R s { s with adminGrants }
  rules : ∀ s rules, R s { s with policy := { s.policy with rules } }
  subscribers : ∀ s subscribers, R s { s with events := { s.events with subscribers } }

structure Frame (R : DashboardService → DashboardService → Prop) : Prop extends Moves R where
  paused : ∀ s paused, R s { s with paused }

namespace Moves

variable [Std.Refl R] [IsTrans DashboardService R]

theorem recordAuditUnavailableTerminal (h : Moves R) (id : ActivityId) (metrics : MetricSnapshot)
    (nowMs : ℕ) : Within R (recordAuditUnavailableTerminal id metrics nowMs) :=
  h.toWrites.recordAuditUnavailableTerminal h.unhealthy _ _ _

theorem authorizeAdmin (h : Moves R) (operation : OperationId) (resource : ResourceClass)
    (mutationDigest : Option String) (nowMs : ℕ) :
    Within R (authorizeAdmin operation resource mutationDigest nowMs) :=
  Spends.authorizeAdmin ⟨h.toWrites, h.persistState, h.adminGrants⟩ _ _ _ _

theorem changePolicy (h : Moves R) {α : Type} (operation : OperationId)
    {m : Eff PolicyEngine PolicyConfigurationError α}
    (hm : ∀ engine, ∃ rules, (m.exec engine).2 = { engine with rules }) (nowMs : ℕ) :
    Within R (changePolicy operation m nowMs) := by
  refine Within.bind (h.auditLocal _ _ _) fun _ => Within.get fun s => ?_
  obtain ⟨rules, hrules⟩ := hm s.policy
  rcases hexec : m.exec s.policy with ⟨outcome, engine⟩
  rw [hexec] at hrules
  obtain rfl : engine = { s.policy with rules } := hrules
  cases outcome with
  | error =>
    exact Within.bind (R := R) (h.auditLocal _ _ _) (fun _ => .throw _) s
  | ok =>
    dsimp only
    rw [exec_bind_ok (exec_modify _ s), exec_bind_ok (exec_attempt _ _)]
    have hchanged := h.rules s rules
    have hpublished := h.appendLocalEvent operation nowMs { s with policy := { s.policy with rules } }
    have hcore := writes_sameCore.appendLocalEvent operation nowMs
      { s with policy := { s.policy with rules } }
    rcases hrun : (DashboardService.appendLocalEvent operation nowMs).exec
      { s with policy := { s.policy with rules } } with ⟨published, s'⟩
    rw [hrun] at hpublished hcore
    have hmoved : R s s' := IsTrans.trans _ _ _ hchanged hpublished
    cases published with
    | ok => exact hmoved
    | error =>
      have hback : R s' { s' with policy := s.policy } := by
        have hpolicy : s'.policy = { s.policy with rules } := hcore.policy
        have hrestore := h.rules s' s.policy.rules
        rwa [hpolicy] at hrestore
      dsimp only
      rw [exec_bind_ok (exec_modify _ s')]
      exact IsTrans.trans _ _ _ (IsTrans.trans _ _ _ hmoved hback)
        (Within.bind (h.auditLocal _ _ _) (fun _ => .throw _) _)

omit [Sha256] [Std.Refl R] [IsTrans DashboardService R] in
theorem rules_putUserRule (rule : PolicyRule) (engine : PolicyEngine) :
    ∃ rules, ((PolicyEngine.putUserRule rule).exec engine).2 = { engine with rules } := by
  rcases PolicyEngine.exec_putUserRule engine rule with
    ⟨_, hexec⟩ | ⟨-, -, ⟨_, -, -, -, hexec⟩ | ⟨-, -, hexec⟩⟩
  · exact ⟨engine.rules, by rw [hexec]⟩
  · exact ⟨_, by rw [hexec]⟩
  · exact ⟨engine.rules ++ [rule], by rw [hexec, PolicyEngine.push]⟩

omit [Sha256] [Std.Refl R] [IsTrans DashboardService R] in
theorem rules_deleteUserRule (id : RuleId) (engine : PolicyEngine) :
    ∃ rules, ((PolicyEngine.deleteUserRule id).exec engine).2 = { engine with rules } := by
  rcases PolicyEngine.exec_deleteUserRule engine id with ⟨_, hexec⟩ | ⟨-, _, hexec⟩
  · exact ⟨engine.rules, by rw [hexec]⟩
  · exact ⟨_, by rw [hexec]⟩

theorem putPolicyRuleExact (h : Moves R) (rule : PolicyRule) (expectedRevision nowMs : ℕ) :
    Within R (putPolicyRuleExact rule expectedRevision nowMs) := by
  refine Within.bind (.orThrow _ _) fun digest => Within.bind (h.authorizeAdmin _ _ _ _) fun _ => ?_
  refine Within.get fun s => ?_
  split
  · exact Within.bind (R := R) (.throwIf _ _) (fun _ => h.changePolicy _ (rules_putUserRule rule) _) s
  · exact Within.bind (R := R) (.throwIf _ _) (fun _ => h.changePolicy _ (rules_putUserRule rule) _) s

theorem deletePolicyRule (h : Moves R) (id : RuleId) (nowMs : ℕ) :
    Within R (deletePolicyRule id nowMs) :=
  Within.bind (.orThrow _ _) fun _ => Within.bind (h.authorizeAdmin _ _ _ _) fun _ =>
    h.changePolicy _ (rules_deleteUserRule id) _

theorem deletePolicyRuleExact (h : Moves R) (id : RuleId) (expectedRevision nowMs : ℕ) :
    Within R (deletePolicyRuleExact id expectedRevision nowMs) := by
  refine Within.bind (.orThrow _ _) fun digest => Within.bind (h.authorizeAdmin _ _ _ _) fun _ => ?_
  refine Within.get fun s => Within.bind (R := R) (.okOr _ _) (fun current => ?_) s
  exact Within.bind (.throwIf _ _) fun _ => h.changePolicy _ (rules_deleteUserRule id) _

theorem deleteAuditExact (h : Moves R) (scope : AuditDeletionScope) (filter : AuditFilter)
    (nowMs : ℕ) : Within R (deleteAuditExact scope filter nowMs) :=
  Within.bind (.orThrow _ _) fun _ => Within.bind (h.authorizeAdmin _ _ _ _) fun _ =>
    h.deleteAudit _ _

theorem applyConnectionChange (h : Moves R) (configuration : ConnectionConfig)
    (persisted : Except DashboardServiceError Unit) (nowMs : ℕ) :
    Within R (applyConnectionChange configuration persisted nowMs) := by
  refine Within.bind (.orThrow _ _) fun digest => Within.bind (h.authorizeAdmin _ _ _ _) fun _ => ?_
  refine Within.bind (h.auditLocal _ _ _) fun _ => ?_
  cases persisted with
  | ok => exact h.auditLocal _ _ _
  | error => exact Within.bind (h.auditLocal _ _ _) fun _ => .throw _

theorem cancelActivity (h : Moves R) (id : ActivityId) (nowMs : ℕ) :
    Within R (cancelActivity id nowMs) :=
  Within.bind (h.authorizeAdmin _ _ _ _) fun _ => h.cancelActivityInner _ _

end Moves

namespace Frame

variable [Std.Refl R] [IsTrans DashboardService R]

theorem publishPaused (h : Frame R) (operation : OperationId) {m : ServiceEff Unit}
    (hm : Within R m) (previous : Bool) (nowMs : ℕ) :
    Within R (publishPaused operation m previous nowMs) := by
  refine Within.bind (.attempt hm) fun outcome => ?_
  cases outcome with
  | ok => exact .pure _
  | error =>
    exact Within.bind (.modify fun s => h.paused s _) fun _ =>
      Within.bind (h.auditLocal _ _ _) fun _ => .throw _

theorem pause (h : Frame R) (existing : ExistingJobs) (hash : HashOrder ActivityId) (nowMs : ℕ) :
    Within R (pause existing hash nowMs) := by
  refine Within.bind (h.authorizeAdmin _ _ _ _) fun _ => Within.bind (h.auditLocal _ _ _) fun _ => ?_
  refine Within.bind (.modify fun s => h.paused s _) fun _ => Within.get fun s => ?_
  have hlast := h.publishPaused remoteAccessPause (h.appendLocalEvent remoteAccessPause nowMs) false nowMs
  split
  · exact Within.bind (R := R) (h.publishPaused _ (h.cancelAll _ _) _ _) (fun _ => hlast) s
  · exact hlast s

theorem resume (h : Frame R) (nowMs : ℕ) : Within R (resume nowMs) :=
  Within.bind (h.authorizeAdmin _ _ _ _) fun _ => Within.bind (h.auditLocal _ _ _) fun _ =>
    Within.bind (.modify fun s => h.paused s _) fun _ =>
      h.publishPaused _ (h.appendLocalEvent _ _) _ _

end Frame

/-! ### Frames of all calls -/

/-- A relation that contains every change of the policy, the approvals and the grants. -/
structure FullMoves (R : DashboardService → DashboardService → Prop) : Prop extends Moves R where
  core : ∀ s policy pending adminGrants, R s { s with policy, pending, adminGrants }

structure FullFrame (R : DashboardService → DashboardService → Prop) : Prop extends Frame R, FullMoves R

namespace FullMoves

variable [Std.Refl R] [IsTrans DashboardService R]

theorem awaitApproval (h : FullMoves R) (access : AccessRequest) (challenge : ApprovalChallenge)
    (nextPolicy : PolicyEngine) (nowMs : ℕ) :
    Within R (awaitApproval access challenge nextPolicy nowMs) := by
  refine Within.bind (.orThrow _ _) fun id => Within.get fun s => ?_
  refine Within.bind (R := R) (.modify fun s => h.core s _ _ _) (fun _ => ?_) s
  refine Within.bind (.attempt (h.recordActivity _ _)) fun published => ?_
  cases published with
  | ok => exact .pure _
  | error =>
    exact Within.bind (.modify fun s => h.core s _ _ _) fun _ =>
      Within.bind (h.auditAccess _ _ _ _) fun _ => .throw _

theorem createPending (h : FullMoves R) (access : AccessRequest) (lifetimeMs nowMs : ℕ)
    (random : ℕ → Digest) : Within R (createPending access lifetimeMs nowMs random) := by
  refine Within.bind (h.auditAccess _ _ _ _) fun _ => Within.get fun s => ?_
  split
  · exact refl s
  · exact Within.bind (R := R) (h.auditAccess _ _ _ _) (fun _ => .throw _) s
  · exact h.awaitApproval _ _ _ _ s

theorem requestApproval (h : FullMoves R) (access : AccessRequest) (lifetimeMs nowMs : ℕ)
    (random : ℕ → Digest) : Within R (requestApproval access lifetimeMs nowMs random) := by
  refine Within.get fun s => Within.bind (R := R) (.throwIf _ _) (fun _ => ?_) s
  split
  · exact .throw _
  · exact Within.bind (h.recordDenied _ _) fun _ => .throw _
  · exact h.createPending _ _ _ _
  · exact h.createPending _ _ _ _

theorem bindMutation (h : FullMoves R) (nonce digest : String) :
    Within R (bindMutation nonce digest) := by
  refine Within.get fun s => Within.bind (R := R) (.okOr _ _) (fun entry => ?_) s
  refine Within.bind (.modify fun s => h.core s _ _ _) fun _ => ?_
  refine Within.bind (.attempt (h.persistState _)) fun outcome => ?_
  cases outcome with
  | ok => exact .pure _
  | error => exact Within.bind (.modify fun s => h.core s _ _ _) fun _ => .throw _

theorem requestAdminMutationApproval (h : FullMoves R) (mutation : AdminMutation)
    (lifetimeMs nowMs : ℕ) (random : ℕ → Digest) :
    Within R (requestAdminMutationApproval mutation lifetimeMs nowMs random) := by
  refine Within.bind (.orThrow _ _) fun digest => Within.bind (.okOr _ _) fun start => ?_
  refine Within.bind (.orThrow _ _) fun activityId => Within.get fun s => ?_
  exact Within.bind (R := R) (h.requestApproval _ _ _ _)
    (fun created => Within.bind (h.bindMutation _ _) fun _ => .pure _) s

theorem refuseDecision (h : FullMoves R) (entry : Option (ApprovalId × Pending))
    (access : AccessRequest) (effect : PolicyEffect) (error : ApprovalError) (nowMs : ℕ) :
    Within R (refuseDecision entry access effect error nowMs) := by
  refine Within.ite (fun _ => ?_) fun _ => ?_
  · exact Within.bind (.modify fun s => h.core s _ _ _) fun _ =>
      Within.bind (h.transitionActivity _ _ _ _ _) fun _ => .throw _
  · exact Within.bind (h.auditAccess _ _ _ _) fun _ => .throw _

theorem applyDecision (h : FullMoves R) (nonce : String) (entry : Option (ApprovalId × Pending))
    (access : AccessRequest) (effect : PolicyEffect) (createdRule : Option PolicyRule)
    (nextPolicy : PolicyEngine) (nowMs : ℕ) :
    Within R (applyDecision nonce entry access effect createdRule nextPolicy nowMs) := by
  refine Within.get fun s => Within.bind (R := R) (.modify fun s => h.core s _ _ _) (fun _ => ?_) s
  refine Within.bind (.attempt (h.recordActivity _ _)) fun published => ?_
  cases published with
  | ok => exact .pure _
  | error =>
    exact Within.bind (.modify fun s => h.core s _ _ _) fun _ =>
      Within.bind (h.auditAccess _ _ _ _) fun _ => .throw _

theorem decideUndenied (h : FullMoves R) (nonce : String) (session : AuthenticatedTargetSession)
    (access : AccessRequest) (decision : ApprovalDecision) (nowMs : ℕ) :
    Within R (decideUndenied nonce session access decision nowMs) := by
  refine Within.get fun s => Within.bind (R := R) (h.auditAccess _ _ _ _) (fun _ => ?_) s
  split
  · exact .throw _
  · exact h.refuseDecision _ _ _ _ _
  · exact h.applyDecision _ _ _ _ _ _ _

theorem decideApproval (h : FullMoves R) (nonce : String) (session : AuthenticatedTargetSession)
    (access : AccessRequest) (decision : ApprovalDecision) (nowMs : ℕ) :
    Within R (decideApproval nonce session access decision nowMs) := by
  refine Within.get fun s => Within.bind (R := R) (.throwIf _ _) (fun _ => ?_) s
  split
  · exact Within.bind (h.auditAccess _ _ _ _) fun _ => .throw _
  · exact h.decideUndenied _ _ _ _ _
  · exact h.decideUndenied _ _ _ _ _
  · exact h.decideUndenied _ _ _ _ _

theorem decidePendingApproval (h : FullMoves R) (approvalId : ApprovalId)
    (session : AuthenticatedTargetSession) (decision : ApprovalDecision) (nowMs : ℕ) :
    Within R (decidePendingApproval approvalId session decision nowMs) :=
  Within.get fun s => Within.bind (R := R) (.okOr _ _) (fun _ => h.decideApproval _ _ _ _ _) s

end FullMoves

omit [Sha256] in
theorem within_expireIdle
    (hsubscribers : ∀ s subscribers, R s { s with events := { s.events with subscribers } })
    (nowMs : ℕ) : Within R (expireIdle nowMs) :=
  Within.modify fun s => hsubscribers s _

omit [Sha256] in
theorem within_acknowledge [Std.Refl R] [IsTrans DashboardService R]
    (hsubscribers : ∀ s subscribers, R s { s with events := { s.events with subscribers } })
    (subscriberId : SubscriberId) (cursor : EventCursor) (nowMs : ℕ) :
    Within R (acknowledge subscriberId cursor nowMs) := by
  have hsubscribe : Within R (onPart DashboardService.events (fun events s => { s with events }) id
      (EventJournal.subscribe subscriberId nowMs) : Eff DashboardService SubscribeError Unit) := by
    intro s
    rw [exec_onPart, EventJournal.exec_subscribe]
    split_ifs
    · exact hsubscribers s s.events.subscribers
    · exact hsubscribers s s.events.subscribers
    · exact hsubscribers s _
  have hacknowledge : Within R (onPart DashboardService.events (fun events s => { s with events })
      (fun error => .returned (mapAcknowledgeError error))
      (EventJournal.acknowledge subscriberId cursor nowMs) : ServiceEff Unit) := by
    intro s
    rw [exec_onPart]
    rcases EventJournal.exec_acknowledge s.events subscriberId cursor nowMs with
      ⟨error, hexec⟩ | ⟨_, -, -, -, hexec⟩
    · rw [hexec]
      exact hsubscribers s s.events.subscribers
    · rw [hexec]
      exact hsubscribers s _
  refine Within.bind (within_expireIdle hsubscribers _) fun _ => Within.bind (.attempt hsubscribe) fun outcome => ?_
  split
  · exact Within.bind (.throw _) fun _ => hacknowledge
  · exact hacknowledge
  · exact hacknowledge

namespace Moves

theorem expireIdle (h : Moves R) (nowMs : ℕ) : Within R (expireIdle nowMs) :=
  within_expireIdle h.subscribers nowMs

theorem acknowledge [Std.Refl R] [IsTrans DashboardService R] (h : Moves R)
    (subscriberId : SubscriberId) (cursor : EventCursor) (nowMs : ℕ) :
    Within R (acknowledge subscriberId cursor nowMs) :=
  within_acknowledge h.subscribers subscriberId cursor nowMs

end Moves

omit [Sha256] in
theorem exec_dropValue {α : Type} (m : ServiceEff α) (s : DashboardService) :
    ((ServiceCall.dropValue m).exec s).2 = (m.exec s).2 := by
  rw [ServiceCall.dropValue, exec_bind]
  cases (m.exec s).1 with
  | ok | error => rfl

omit [Sha256] in
theorem within_dropValue [IsTrans DashboardService R] [Std.Refl R] {α : Type} {m : ServiceEff α}
    (h : Within R m) : Within R (ServiceCall.dropValue m) :=
  Within.bind h fun _ => .pure _

/-- A relation that contains the moves that need not touch the approvals contains every call that is
not about them, nor sets the pause. -/
theorem Moves.program [Std.Refl R] [IsTrans DashboardService R] (h : Moves R)
    (hcall : call.isAboutApprovals = false) (hpause : call.setsPause = false) :
    Within R call.program := by
  cases call with
  | recordPreapprovalTargetOffline => exact h.recordPreapprovalTargetOffline _ _
  | requestApproval | requestAdminMutationApproval | decideApproval | decidePendingApproval =>
    cases hcall
  | putPolicyRule | putPolicyRuleExact => exact h.putPolicyRuleExact _ _ _
  | deletePolicyRule => exact within_dropValue (h.deletePolicyRule _ _)
  | deletePolicyRuleIfRevision =>
    exact within_dropValue (h.deletePolicyRuleExact _ _ _)
  | deleteAudit | deleteAuditExact => exact within_dropValue (h.deleteAuditExact _ _ _)
  | recordActivity => exact h.recordActivity _ _
  | transitionActivity =>
    exact within_dropValue (h.transitionActivity _ _ _ _ _)
  | recordAuditUnavailableTerminal =>
    exact within_dropValue (h.recordAuditUnavailableTerminal _ _ _)
  | cancelActivity => exact within_dropValue (h.cancelActivity _ _)
  | reconcileAfterRestart => exact within_dropValue (h.reconcileAfterRestart _ _)
  | pause | resume => cases hpause
  | applyConnectionChange => exact h.applyConnectionChange _ _ _
  | acknowledge => exact h.acknowledge _ _ _
  | readEvents => exact h.expireIdle _

theorem Frame.program [Std.Refl R] [IsTrans DashboardService R] (h : Frame R)
    (hcall : call.isAboutApprovals = false) : Within R call.program := by
  cases hpause : call.setsPause with
  | false => exact h.toMoves.program hcall hpause
  | true =>
    cases call with
    | pause => exact h.pause _ _ _
    | resume => exact h.resume _
    | _ => cases hpause

/-- **A relation that contains the elementary moves contains every call** that does not set the pause. -/
theorem FullMoves.program [Std.Refl R] [IsTrans DashboardService R] (h : FullMoves R)
    (hpause : call.setsPause = false) : Within R call.program := by
  cases hcall : call.isAboutApprovals with
  | false => exact h.toMoves.program hcall hpause
  | true =>
    cases call with
    | requestApproval =>
      exact within_dropValue (h.requestApproval _ _ _ _)
    | requestAdminMutationApproval =>
      exact within_dropValue (h.requestAdminMutationApproval _ _ _ _)
    | decideApproval =>
      exact within_dropValue (h.decideApproval _ _ _ _ _)
    | decidePendingApproval =>
      exact within_dropValue (h.decidePendingApproval _ _ _ _)
    | _ => cases hcall

/-- **A relation that contains them and the pause contains every call.** -/
theorem FullFrame.program [Std.Refl R] [IsTrans DashboardService R] (h : FullFrame R)
    (call : ServiceCall) : Within R call.program := by
  cases hpause : call.setsPause with
  | false => exact h.toFullMoves.program hpause
  | true =>
    refine h.toFrame.program ?_
    cases call with
    | pause | resume => rfl
    | _ => cases hpause

end

end DashboardService

end Dashboard
