/-
**The records that the calls of the service write.**

A call changes the current records by putting events in their place, one after the other. Each call puts
only events of a few kinds: events about an access, events that go on from a current record, and events
of the local user interface. What is known of all of them is known of every run.

Main definitions:

* `Dashboard.DashboardService.Puts` — a state comes about by such events.

Main results:

* `puts_next` — **a call puts nothing but the events of its kinds**.
-/

import DeviceLane.Dashboard.ServiceRecords
import DeviceLane.Dashboard.ServiceRoom

namespace Dashboard

open Effect

/-! ### Identities -/

structure Identity where
  principalId : PrincipalId
  sourceHostId : HostId
  targetHostId : HostId
  deviceId : Option DeviceId
  operation : OperationId
  resources : List ResourceClass
  remoteOperationSha256 : Option String
  deriving DecidableEq

def ActivityEvent.identity (event : ActivityEvent) : Identity :=
  ⟨event.principalId, event.sourceHostId, event.targetHostId, event.deviceId, event.operation,
    event.resources, event.remoteOperationSha256⟩

def AccessRequest.identity (access : AccessRequest) : Identity :=
  ⟨access.principalId, access.sourceHostId, access.targetHostId, access.deviceId, access.operation,
    access.resources, access.remoteOperation.map RemoteOperationGrant.canonicalSha256⟩

namespace ActivityEvent

structure About (event : ActivityEvent) (access : AccessRequest) : Prop where
  activityId : event.activityId = access.activityId
  identity : event.identity = access.identity

/-- The event goes on from a current record, and only its state is new. -/
structure GoesOn (event current : ActivityEvent) : Prop where
  activityId : event.activityId = current.activityId
  identity : event.identity = current.identity
  authorization : event.authorization = current.authorization

theorem about_accessEvent (access : AccessRequest) (sequence nowMs : ℕ)
    (authorization : Authorization) (state : ActivityState) (message : Option DisplayMessage)
    (startedAtMs finishedAtMs : Option ℕ) :
    (DashboardService.accessEvent access sequence nowMs authorization state message startedAtMs
      finishedAtMs).About access := ⟨rfl, rfl⟩

theorem goesOn_observed (current : ActivityEvent) (sequence : ℕ) (state : ActivityState)
    (metrics : MetricSnapshot) (message : Option DisplayMessage) (nowMs : ℕ) :
    (current.observed sequence state metrics message nowMs).GoesOn current := ⟨rfl, rfl, rfl⟩

theorem goesOn_cancelled (current : ActivityEvent) (nowMs : ℕ) :
    (current.cancelled nowMs).GoesOn current := ⟨rfl, rfl, rfl⟩

end ActivityEvent

namespace DashboardService

/-! ### Events put in the place of records -/

def Keyed (s : DashboardService) : Prop :=
  ∀ id event, s.activities.lookup id = some event → event.activityId = id

/-- One event, of which `P` holds and of the record that it replaces, becomes the current record of its
activity. -/
inductive Put (P : Option ActivityEvent → ActivityEvent → Prop)
    (activities : Map ActivityId ActivityEvent) : Map ActivityId ActivityEvent → Prop
  | of (event : ActivityEvent) (h : P (activities.lookup event.activityId) event) :
      Put P activities (activities.insert event.activityId event)

/-- The records have come about by events of which `P` holds. -/
structure Puts (P : Option ActivityEvent → ActivityEvent → Prop) (s s' : DashboardService) : Prop where
  keyed : s'.Keyed
  puts : Relation.ReflTransGen (Put P) s.activities s'.activities

section

variable {P Q : Option ActivityEvent → ActivityEvent → Prop} {s s₁ s' : DashboardService}

theorem Put.keyed {activities activities' : Map ActivityId ActivityEvent}
    (hput : Put P activities activities')
    (h : ∀ id event, activities.lookup id = some event → event.activityId = id) :
    ∀ id event, activities'.lookup id = some event → event.activityId = id := by
  cases hput with
  | of event =>
    intro id other hlookup
    rw [Map.lookup_insert] at hlookup
    split at hlookup
    · cases hlookup
      exact (‹id = event.activityId›).symm
    · exact h id other hlookup

namespace Puts

theorem of_same (hs : s.Keyed) (h : s'.activities = s.activities) : Puts P s s' := by
  constructor
  · rwa [Keyed, h]
  · rw [h]

theorem mono (h : Puts P s s') (hle : ∀ current event, P current event → Q current event) :
    Puts Q s s' := by
  refine ⟨h.keyed, Relation.ReflTransGen.mono (fun before after hput => ?_) _ _ h.puts⟩
  cases hput with
  | of event hevent => exact .of event (hle _ _ hevent)

theorem trans (h : Puts P s s₁) (h' : Puts P s₁ s') : Puts P s s' := ⟨h'.keyed, h.puts.trans h'.puts⟩

/-- **The rule of induction**: what every event keeps is kept. -/
theorem keeps {I : Map ActivityId ActivityEvent → Prop} (h : Puts P s s')
    (hput : ∀ activities event, I activities → P (activities.lookup event.activityId) event →
      I (activities.insert event.activityId event))
    (hs : I s.activities) : I s'.activities := by
  have hall : ∀ activities, Relation.ReflTransGen (Put P) s.activities activities → I activities := by
    intro activities hputs
    induction hputs with
    | refl => exact hs
    | tail _ hlast ih =>
      cases hlast with
      | of event hevent => exact hput _ event ih hevent
  exact hall _ h.puts

end Puts

variable [Sha256] {α β : Type}

/-- **An event that is recorded is put, if anything is.** -/
theorem puts_recordActivity (hs : s.Keyed) {event : ActivityEvent}
    (h : P (s.activities.lookup event.activityId) event) (idempotencyKey : String) :
    Puts P s ((recordActivity event idempotencyKey).exec s).2 := by
  have hput : Put P s.activities (s.activities.insert event.activityId event) := .of event h
  rw [exec_recordActivity]
  split
  · exact .of_same hs rfl
  · exact ⟨hput.keyed hs, .single hput⟩
  · split
    · exact .of_same hs rfl
    · exact ⟨hput.keyed hs, .single hput⟩

/-! ### Programs -/

omit [Sha256] in
/-- **The rule of sequence**, where the first program succeeds with records that are keyed. -/
theorem Puts.bind {m : ServiceEff α} {f : α → ServiceEff β} (hm : Puts P s (m.exec s).2)
    (hf : ∀ a s₁, m.exec s = (.ok a, s₁) → s₁.Keyed → Puts P s₁ ((f a).exec s₁).2) :
    Puts P s ((m >>= f).exec s).2 := by
  rcases hexec : m.exec s with ⟨outcome, s₁⟩
  rw [hexec] at hm
  cases outcome with
  | ok a =>
    rw [exec_bind_ok hexec]
    exact hm.trans (hf a s₁ hexec hm.keyed)
  | error =>
    rw [exec_bind_error hexec]
    exact hm

omit [Sha256] in
theorem Puts.after {m : ServiceEff α} {f : α → ServiceEff β} (hs : s.Keyed)
    (hm : Within SameActivities m)
    (hf : ∀ a s₁, m.exec s = (.ok a, s₁) → s₁.activities = s.activities →
      Puts P s₁ ((f a).exec s₁).2) :
    Puts P s ((m >>= f).exec s).2 := by
  have hsame : (m.exec s).2.activities = s.activities := hm s
  refine .bind (.of_same hs hsame) fun a s₁ hexec _ => hf a s₁ hexec ?_
  rwa [hexec] at hsame

end

/-! ### What keeps the records -/

instance : Std.Refl SameActivities := ⟨fun _ => rfl⟩

instance : IsTrans DashboardService SameActivities where
  trans _ _ _ h h' := Eq.trans h' h

variable [Sha256]

theorem sameActivities_auditAccessWithMessage (access : AccessRequest) (effect : PolicyEffect)
    (result : AuditResult) (message : Option MessageCode) (nowMs : ℕ) :
    Within SameActivities (auditAccessWithMessage access effect result message nowMs) :=
  Within.get fun s => sameActivities_appendAudit _ s

theorem sameActivities_auditAccess (access : AccessRequest) (effect : PolicyEffect)
    (result : AuditResult) (nowMs : ℕ) :
    Within SameActivities (auditAccess access effect result nowMs) :=
  sameActivities_auditAccessWithMessage _ _ _ _ _

theorem sameActivities_auditLocal (operation : OperationId) (result : AuditResult) (nowMs : ℕ) :
    Within SameActivities (auditLocal operation result nowMs) :=
  Within.get fun s => sameActivities_appendAudit _ s

theorem sameActivities_persistState (activities : Map ActivityId ActivityEvent) :
    Within SameActivities (persistState activities) := by
  intro _
  rw [exec_persistState]
  rfl

theorem sameActivities_spendGrant (request : AccessRequest) (mutationDigest : Option String)
    (nowMs : ℕ) : Within SameActivities (spendGrant request mutationDigest nowMs) := by
  refine Within.bind (.modify fun _ => rfl) fun _ => Within.get fun s => ?_
  refine Within.bind (R := SameActivities) (.okOr _ _) (fun entry => ?_) s
  refine Within.bind (.modify fun _ => rfl) fun _ => ?_
  refine Within.bind (.attempt (sameActivities_persistState _)) fun outcome => ?_
  cases outcome with
  | ok => exact .pure _
  | error => exact Within.bind (.modify fun _ => rfl) fun _ => .throw _

theorem sameActivities_authorizeAdmin (operation : OperationId) (resource : ResourceClass)
    (mutationDigest : Option String) (nowMs : ℕ) :
    Within SameActivities (authorizeAdmin operation resource mutationDigest nowMs) := by
  refine Within.get fun s => Within.bind (.orThrow _ _) (fun activityId => ?_) s
  dsimp only
  split
  · exact Within.bind (sameActivities_auditAccess _ _ _ _) fun _ => .throw _
  · split
    · exact .pure _
    · exact sameActivities_spendGrant _ _ _
  · exact sameActivities_spendGrant _ _ _
  · exact .throw _

theorem sameActivities_bindMutation (nonce digest : String) :
    Within SameActivities (bindMutation nonce digest) := by
  refine Within.get fun s => Within.bind (R := SameActivities) (.okOr _ _) (fun entry => ?_) s
  refine Within.bind (.modify fun _ => rfl) fun _ => ?_
  refine Within.bind (.attempt (sameActivities_persistState _)) fun outcome => ?_
  cases outcome with
  | ok => exact .pure _
  | error => exact Within.bind (.modify fun _ => rfl) fun _ => .throw _

/-! ### What is asked for and decided -/

def Admits (s : DashboardService) (access : AccessRequest) : Prop :=
  ¬(s.paused = true ∧ isLocalResume s.localHostId access = false)

structure LooksInto (s : DashboardService) (access : AccessRequest) (nowMs : ℕ) : Prop where
  healthy : s.auditHealthy = true
  admitted : s.Admits access
  target : access.targetHostId = s.localHostId
  valid : (s.policy.evaluate access nowMs).isOk = true

structure AsksEngine (s : DashboardService) (access : AccessRequest) (nowMs : ℕ) : Prop where
  healthy : s.auditHealthy = true
  admitted : s.Admits access
  undenied : ∀ ruleId, s.policy.evaluate access nowMs ≠ .ok (.denied ruleId)

def FindsExpired (s : DashboardService) (nonce : String) (nowMs : ℕ) : Prop :=
  ∃ approval, s.policy.approvals.lookup nonce = some approval ∧ approval.expiresAtMs ≤ nowMs

def TakesDecision (s : DashboardService) (nonce : String) (session : AuthenticatedTargetSession)
    (access : AccessRequest) (decision : ApprovalDecision) (nowMs : ℕ) : Prop :=
  ∃ approval, PolicyEngine.Redeems s.policy nonce session access decision nowMs approval

structure RequestPut (s : DashboardService) (access : AccessRequest) (nowMs : ℕ)
    (_current : Option ActivityEvent) (event : ActivityEvent) : Prop where
  looks : s.LooksInto access nowMs
  about : event.About access
  state : event.state = .denied ∨ event.state = .awaitingApproval

/-- What a decision puts: that the access is allowed or denied, or, where it comes too late, that the
activity that the access names has failed. -/
inductive DecisionPut (s : DashboardService) (nonce : String) (session : AuthenticatedTargetSession)
    (access : AccessRequest) (decision : ApprovalDecision) (nowMs : ℕ) :
    Option ActivityEvent → ActivityEvent → Prop
  | decided (current : Option ActivityEvent) (event : ActivityEvent)
      (asks : s.AsksEngine access nowMs)
      (takes : s.TakesDecision nonce session access decision nowMs)
      (about : event.About access) (effect : event.authorization.effect = decision.effect)
      (state : event.state = if decision.effect = .deny then .denied else .queued) :
      DecisionPut s nonce session access decision nowMs current event
  | expired (current event : ActivityEvent) (asks : s.AsksEngine access nowMs)
      (expired : s.FindsExpired nonce nowMs) (activityId : current.activityId = access.activityId)
      (goesOn : event.GoesOn current) (valid : validTransition current.state .failed = true)
      (state : event.state = .failed) :
      DecisionPut s nonce session access decision nowMs (some current) event

structure TransitionPut (id : ActivityId) (state : ActivityState) (current event : ActivityEvent) :
    Prop where
  activityId : current.activityId = id
  valid : validTransition current.state state = true
  goesOn : event.GoesOn current
  state : event.state = state

structure EndPut (state : ActivityState) (current event : ActivityEvent) : Prop where
  active : current.state.isTerminal = false
  goesOn : event.GoesOn current
  state : event.state = state

structure LocalPut (host : HostId) (number : ℕ) (operation : OperationId) (event : ActivityEvent) :
    Prop where
  activityId : parseId ("admin-" ++ Nat.repr number ++ "-" ++ operation.text) = .ok event.activityId
  identity : event.identity = ⟨localUser, host, host, none, operation, [], none⟩
  state : event.state = .succeeded

section

variable {s : DashboardService} {access : AccessRequest} {nowMs : ℕ}

variable {t s' : DashboardService} {m : ServiceEff Unit} {operation : OperationId}

theorem puts_recordDenied (hs : s.Keyed) (hlooks : s.LooksInto access nowMs) :
    Puts (s.RequestPut access nowMs) s ((recordDenied access nowMs).exec s).2 := by
  refine .after hs (sameActivities_auditAccessWithMessage _ _ _ _ _) fun _ s₁ _ hsame => ?_
  have hkeyed : s₁.Keyed := by rwa [Keyed, hsame]
  rw [exec_bind_ok (exec_get s₁)]
  exact puts_recordActivity hkeyed
    ⟨hlooks, ActivityEvent.about_accessEvent _ _ _ _ _ _ _ _, .inl rfl⟩ _

theorem puts_awaitApproval (hs : s.Keyed) (hlooks : t.LooksInto access nowMs)
    (challenge : ApprovalChallenge) (nextPolicy : PolicyEngine) :
    Puts (t.RequestPut access nowMs) s ((awaitApproval access challenge nextPolicy nowMs).exec s).2 := by
  refine .after hs (.orThrow _ _) fun id s₀ _ hsame₀ => ?_
  rw [exec_bind_ok (exec_get s₀)]
  refine .after (by rwa [Keyed, hsame₀]) (.modify fun _ => rfl) fun _ s₁ _ hsame => ?_
  have hkeyed : s₁.Keyed := by rwa [Keyed, hsame, hsame₀]
  refine .bind (puts_recordActivity hkeyed
    ⟨hlooks, ActivityEvent.about_accessEvent _ _ _ _ _ _ _ _, .inr rfl⟩ _) fun published s₂ _ hs₂ => ?_
  cases published with
  | ok => exact .of_same hs₂ rfl
  | error =>
    refine .of_same hs₂ (Within.bind (R := SameActivities) ?_ (fun _ => ?_) s₂)
    · exact .modify fun _ => rfl
    · exact Within.bind (sameActivities_auditAccess _ _ _ _) fun _ => .throw _

theorem puts_createPending (hs : s.Keyed) (hlooks : s.LooksInto access nowMs) (lifetimeMs : ℕ)
    (random : ℕ → Digest) :
    Puts (s.RequestPut access nowMs) s ((createPending access lifetimeMs nowMs random).exec s).2 := by
  refine .after hs (sameActivities_auditAccess _ _ _ _) fun _ s₁ _ hsame => ?_
  have hkeyed : s₁.Keyed := by rwa [Keyed, hsame]
  rw [exec_bind_ok (exec_get s₁)]
  split
  · exact .of_same hkeyed rfl
  · exact .of_same hkeyed
      (Within.bind (R := SameActivities) (sameActivities_auditAccess _ _ _ _) (fun _ => .throw _) s₁)
  · exact puts_awaitApproval hkeyed hlooks _ _

/-- **What a request puts.** -/
theorem puts_requestApproval (hs : s.Keyed) (access : AccessRequest) (lifetimeMs nowMs : ℕ)
    (random : ℕ → Digest) :
    Puts (s.RequestPut access nowMs) s
      ((requestApproval access lifetimeMs nowMs random).exec s).2 := by
  cases hhealthy : s.auditHealthy with
  | false =>
    obtain ⟨fault, hexec⟩ := refused_requestApproval access lifetimeMs nowMs random s hhealthy
    rw [hexec]
    exact .of_same hs rfl
  | true =>
    rw [requestApproval, exec_bind_ok (exec_get s), exec_throwIf_bind]
    split
    · exact .of_same hs rfl
    rename_i hguard
    rw [not_or, not_not] at hguard
    have hlooks : ∀ verdict, s.policy.evaluate access nowMs = .ok verdict →
        s.LooksInto access nowMs := by
      intro verdict hverdict
      exact ⟨hhealthy, hguard.1, hguard.2, by rw [hverdict]; rfl⟩
    split
    · exact .of_same hs rfl
    · exact .bind (puts_recordDenied hs (hlooks _ ‹_›)) fun _ s₁ _ hs₁ => .of_same hs₁ rfl
    · exact puts_createPending hs (hlooks _ ‹_›) _ _
    · exact puts_createPending hs (hlooks _ ‹_›) _ _

/-! ### Activities -/

/-- **What an observed state puts.** -/
theorem puts_transitionActivity (hs : s.Keyed) (id : ActivityId) (state : ActivityState)
    (metrics : MetricSnapshot) (message : Option DisplayMessage) (nowMs : ℕ) :
    Puts (fun current event => ∃ record, current = some record ∧ TransitionPut id state record event) s
      ((transitionActivity id state metrics message nowMs).exec s).2 := by
  rw [transitionActivity, exec_bind_ok (exec_get s)]
  cases hlookup : s.activities.lookup id with
  | none => exact .of_same hs rfl
  | some current =>
    rw [exec_okOr_some_bind, exec_ite]
    split
    · exact .of_same hs rfl
    rw [exec_throwIf_bind]
    split
    · exact .of_same hs rfl
    rename_i hvalid
    cases checkedAdd current.sequence 1 with
    | none => exact .of_same hs rfl
    | some sequence =>
      rw [exec_okOr_some_bind]
      dsimp only
      rw [exec_throwIf_bind]
      split
      · exact .of_same hs rfl
      have hid : current.activityId = id := hs id current hlookup
      have hput : TransitionPut id state current
          (current.observed sequence state metrics message nowMs) :=
        ⟨hid, Bool.eq_true_of_not_eq_false hvalid, ActivityEvent.goesOn_observed _ _ _ _ _ _, rfl⟩
      have hrecord : ∀ s₁ : DashboardService, s₁.activities = s.activities → ∀ key,
          Puts (fun before event => ∃ record, before = some record ∧
            TransitionPut id state record event) s₁
          ((recordActivity (current.observed sequence state metrics message nowMs) key >>=
            fun _ => (pure true : ServiceEff Bool)).exec s₁).2 := by
        intro s₁ hsame key
        have hkeyed : s₁.Keyed := by rwa [Keyed, hsame]
        refine .bind (puts_recordActivity hkeyed ⟨current, ?_, hput⟩ key) fun _ s₂ _ hs₂ =>
          .of_same hs₂ rfl
        rw [hsame, hput.goesOn.activityId, hid]
        exact hlookup
      cases state.auditResult with
      | none => exact hrecord s rfl _
      | some =>
        exact .after hs (sameActivities_auditAccessFromEvent _ _ _ _) fun _ s₁ _ hsame =>
          hrecord s₁ hsame _

theorem puts_ended (hs : s.Keyed) {current : ActivityEvent} {id : ActivityId}
    (hlookup : s.activities.lookup id = some current) (hactive : current.state.isTerminal = false)
    {event : ActivityEvent} {state : ActivityState} (hgoesOn : event.GoesOn current)
    (hstate : event.state = state) (idempotencyKey : String) :
    Puts (fun before event => ∃ record, before = some record ∧ record.activityId = id ∧
        EndPut state record event) s ((recordActivity event idempotencyKey).exec s).2 := by
  have hid : current.activityId = id := hs id current hlookup
  refine puts_recordActivity hs ⟨current, ?_, hid, hactive, hgoesOn, hstate⟩ _
  rw [hgoesOn.activityId, hid]
  exact hlookup

/-- **What the loss of the audit store puts.** -/
theorem puts_recordAuditUnavailableTerminal (hs : s.Keyed) (id : ActivityId)
    (metrics : MetricSnapshot) (nowMs : ℕ) :
    Puts (fun current event => ∃ record, current = some record ∧ record.activityId = id ∧
        EndPut .failed record event) s
      ((recordAuditUnavailableTerminal id metrics nowMs).exec s).2 := by
  rw [recordAuditUnavailableTerminal, exec_bind_ok (exec_get s)]
  cases hlookup : s.activities.lookup id with
  | none => exact .of_same hs rfl
  | some current =>
    rw [exec_okOr_some_bind, exec_ite]
    split
    · exact .of_same hs rfl
    rename_i hactive
    refine .after hs (.modify fun _ => rfl) fun _ s₁ _ hsame => ?_
    have hkeyed : s₁.Keyed := by rwa [Keyed, hsame]
    rw [← hsame] at hlookup
    have hgoesOn : ActivityEvent.GoesOn { current.failedWith .auditUnavailable nowMs with metrics }
        current := ⟨rfl, rfl, rfl⟩
    exact .bind (puts_ended hkeyed hlookup (Bool.eq_false_of_not_eq_true hactive) hgoesOn rfl _)
      fun _ s₂ _ hs₂ => .of_same hs₂ rfl

/-- **What a cancellation puts.** -/
theorem puts_cancelActivityInner (hs : s.Keyed) (id : ActivityId) (nowMs : ℕ) :
    Puts (fun current event => ∃ record, current = some record ∧ record.activityId = id ∧
        EndPut .cancelled record event) s ((cancelActivityInner id nowMs).exec s).2 := by
  rw [cancelActivityInner, exec_bind_ok (exec_get s)]
  cases hlookup : s.activities.lookup id with
  | none => exact .of_same hs rfl
  | some =>
    dsimp only
    rw [exec_ite]
    split
    · exact .of_same hs rfl
    rename_i hactive
    refine .after hs (sameActivities_auditAccessFromEvent _ _ _ _) fun _ s₁ _ hsame => ?_
    have hkeyed : s₁.Keyed := by rwa [Keyed, hsame]
    rw [← hsame] at hlookup
    refine .bind (puts_ended hkeyed hlookup (Bool.eq_false_of_not_eq_true hactive)
      (ActivityEvent.goesOn_cancelled _ _) rfl _) fun outcome s₂ _ hs₂ => ?_
    cases outcome with
    | ok =>
      exact .of_same hs₂ (Within.bind (R := SameActivities)
        (sameActivities_auditAccessFromEvent _ _ _ _) (fun _ => .pure _) s₂)
    | error =>
      exact .of_same hs₂ (Within.bind (R := SameActivities)
        (sameActivities_auditAccessFromEvent _ _ _ _) (fun _ => .throw _) s₂)

theorem puts_cancelAll (hs : s.Keyed) (nowMs : ℕ) (ids : List ActivityId) :
    Puts (fun current event => ∃ record, current = some record ∧ EndPut .cancelled record event) s
      ((cancelAll nowMs ids).exec s).2 := by
  induction ids generalizing s with
  | nil => exact .of_same hs rfl
  | cons id ids ih =>
    refine .bind ((puts_cancelActivityInner hs id nowMs).mono ?_) fun _ s₁ _ hs₁ => ih hs₁
    rintro current event ⟨record, hcurrent, -, hput⟩
    exact ⟨record, hcurrent, hput⟩

/-- **What the loop over the activities that a restart has ended puts.** -/
theorem puts_reconcile (hs : s.Keyed) (nowMs : ℕ) (events : List ActivityEvent) :
    Puts (fun _ event => ∃ record ∈ events, event.GoesOn record ∧ event.state = .failed) s
      ((reconcile nowMs events).exec s).2 := by
  induction events generalizing s with
  | nil => exact .of_same hs rfl
  | cons record events ih =>
    refine .after hs (sameActivities_auditAccessFromEvent _ _ _ _) fun _ s₁ _ hsame => ?_
    have hkeyed : s₁.Keyed := by rwa [Keyed, hsame]
    refine .bind (puts_recordActivity hkeyed ⟨record, List.mem_cons_self, ⟨rfl, rfl, rfl⟩, rfl⟩ _)
      fun _ s₂ _ hs₂ => (ih hs₂).mono ?_
    rintro - event ⟨other, hmem, hput⟩
    exact ⟨other, List.mem_cons_of_mem _ hmem, hput⟩

/-! ### Decisions -/

theorem puts_refuseDecision (hs : s.Keyed) {nonce : String} {session : AuthenticatedTargetSession}
    {decision : ApprovalDecision} {error : ApprovalError} (hasks : t.AsksEngine access nowMs)
    (herror : ((PolicyEngine.decide nonce session access decision nowMs).exec t.policy).1
      = .error (.returned error)) (entry : Option (ApprovalId × Pending)) (effect : PolicyEffect) :
    Puts (t.DecisionPut nonce session access decision nowMs) s
      ((refuseDecision entry access effect error nowMs).exec s).2 := by
  rw [refuseDecision, exec_ite]
  split
  · rename_i hexpired
    obtain rfl := eq_expired_of_mapApprovalError hexpired
    refine .after hs (.modify fun _ => rfl) fun _ s₁ _ hsame => ?_
    have hkeyed : s₁.Keyed := by rwa [Keyed, hsame]
    refine .bind ((puts_transitionActivity hkeyed _ _ _ _ _).mono ?_) fun _ s₂ _ hs₂ => .of_same hs₂ rfl
    rintro current event ⟨record, rfl, hput⟩
    exact .expired record event hasks (PolicyEngine.decide_expired herror) hput.activityId hput.goesOn
      hput.valid hput.state
  · exact .of_same hs
      (Within.bind (R := SameActivities) (sameActivities_auditAccess _ _ _ _) (fun _ => .throw _) s)

theorem puts_applyDecision (hs : s.Keyed) {nonce : String} {session : AuthenticatedTargetSession}
    {decision : ApprovalDecision} (hasks : t.AsksEngine access nowMs)
    (htakes : t.TakesDecision nonce session access decision nowMs)
    (entry : Option (ApprovalId × Pending)) (createdRule : Option PolicyRule)
    (nextPolicy : PolicyEngine) :
    Puts (t.DecisionPut nonce session access decision nowMs) s
      ((applyDecision nonce entry access decision.effect createdRule nextPolicy nowMs).exec s).2 := by
  rw [applyDecision, exec_bind_ok (exec_get s)]
  refine .after hs (.modify fun _ => rfl) fun _ s₁ _ hsame => ?_
  have hkeyed : s₁.Keyed := by rwa [Keyed, hsame]
  refine .bind (puts_recordActivity hkeyed (.decided _ _ hasks htakes
    (ActivityEvent.about_accessEvent _ _ _ _ _ _ _ _) rfl rfl) _) fun published s₂ _ hs₂ => ?_
  cases published with
  | ok => exact .of_same hs₂ rfl
  | error =>
    refine .of_same hs₂ (Within.bind (R := SameActivities) ?_ (fun _ => ?_) s₂)
    · exact .modify fun _ => rfl
    · exact Within.bind (sameActivities_auditAccess _ _ _ _) fun _ => .throw _

theorem puts_decideUndenied (hs : s.Keyed) (hasks : s.AsksEngine access nowMs) (nonce : String)
    (session : AuthenticatedTargetSession) (decision : ApprovalDecision) :
    Puts (s.DecisionPut nonce session access decision nowMs) s
      ((decideUndenied nonce session access decision nowMs).exec s).2 := by
  rw [decideUndenied, exec_bind_ok (exec_get s)]
  refine .after hs (sameActivities_auditAccess _ _ _ _) fun _ s₁ _ hsame => ?_
  have hkeyed : s₁.Keyed := by rwa [Keyed, hsame]
  split
  · exact .of_same hkeyed rfl
  · rename_i hrefused
    exact puts_refuseDecision hkeyed hasks (by rw [hrefused]) _ _
  · rename_i hdecided
    obtain ⟨approval, hredeems, -⟩ := PolicyEngine.decide_ok hdecided
    exact puts_applyDecision hkeyed hasks ⟨approval, hredeems⟩ _ _ _

/-- **What a decision puts.** -/
theorem puts_decideApproval (hs : s.Keyed) (nonce : String) (session : AuthenticatedTargetSession)
    (access : AccessRequest) (decision : ApprovalDecision) (nowMs : ℕ) :
    Puts (s.DecisionPut nonce session access decision nowMs) s
      ((decideApproval nonce session access decision nowMs).exec s).2 := by
  cases hhealthy : s.auditHealthy with
  | false =>
    obtain ⟨fault, hexec⟩ := refused_decideApproval nonce session access decision nowMs s hhealthy
    rw [hexec]
    exact .of_same hs rfl
  | true =>
    rw [decideApproval, exec_bind_ok (exec_get s), exec_throwIf_bind]
    split
    · exact .of_same hs rfl
    rename_i hadmitted
    have hasks : (∀ ruleId, s.policy.evaluate access nowMs ≠ .ok (.denied ruleId)) →
        s.AsksEngine access nowMs := fun hundenied => ⟨hhealthy, hadmitted, hundenied⟩
    split
    · exact .of_same hs
        (Within.bind (R := SameActivities) (sameActivities_auditAccess _ _ _ _) (fun _ => .throw _) s)
    all_goals
      rename_i hverdict
      refine puts_decideUndenied hs (hasks fun ruleId hdenied => ?_) _ _ _
      rw [hverdict] at hdenied
      cases hdenied

/-! ### The local user interface -/

omit [Sha256] in
theorem Audits.ok (h : Audits m) (hexec : m.exec s = (.ok (), s')) : Audited s s' := by
  rcases h s with ⟨_, hexec', haudited⟩ | ⟨_, _, hexec', -⟩
  · rw [hexec] at hexec'
    cases hexec'
    exact haudited
  · rw [hexec] at hexec'
    cases hexec'

/-- **What is recorded of the local user interface is put**, under the number of the last record. -/
theorem puts_appendLocalEvent (hs : s.Keyed) {host : HostId} {number : ℕ}
    (hhost : s.localHostId = host) (hnumber : s.nextAuditSequence = number + 1)
    (operation : OperationId) (nowMs : ℕ) :
    Puts (fun _ => LocalPut host number operation) s ((appendLocalEvent operation nowMs).exec s).2 := by
  rw [appendLocalEvent, exec_bind_ok (exec_get s), exec_orThrow_bind, hhost, hnumber,
    Nat.add_sub_cancel]
  split
  · rename_i activityId hparse
    exact puts_recordActivity hs ⟨hparse, rfl, rfl⟩ _
  · exact .of_same hs rfl

theorem puts_publishPaused {P : Option ActivityEvent → ActivityEvent → Prop}
    (hm : Puts P s (m.exec s).2) (operation : OperationId) (previous : Bool) (nowMs : ℕ) :
    Puts P s ((publishPaused operation m previous nowMs).exec s).2 := by
  refine .bind (m := attempt m) hm fun outcome s₁ _ hs₁ => ?_
  cases outcome with
  | ok => exact .of_same hs₁ rfl
  | error =>
    refine .of_same hs₁ (Within.bind (R := SameActivities) ?_ (fun _ => ?_) s₁)
    · exact .modify fun _ => rfl
    · exact Within.bind (sameActivities_auditLocal _ _ _) fun _ => .throw _

theorem Puts.audited {P : Option ActivityEvent → ActivityEvent → Prop} (hs : s.Keyed)
    {result : AuditResult} {α : Type} {f : Unit → ServiceEff α}
    (hf : ∀ s₁ : DashboardService, s₁.Keyed → s₁.localHostId = s.localHostId →
      s₁.nextAuditSequence = s.nextAuditSequence + 1 → s₁.activities = s.activities →
      Puts P s₁ ((f ()).exec s₁).2) :
    Puts P s ((auditLocal operation result nowMs >>= f).exec s).2 := by
  refine .after hs (sameActivities_auditLocal _ _ _) fun _ s₁ haudited _ => ?_
  obtain ⟨_, rfl⟩ := (audits_auditLocal _ _ _).ok haudited
  exact hf _ hs rfl rfl rfl

theorem puts_changePolicy (hs : s.Keyed) {α : Type} (operation : OperationId)
    (m : Eff PolicyEngine PolicyConfigurationError α) (nowMs : ℕ) :
    Puts (fun _ => LocalPut s.localHostId s.nextAuditSequence operation) s
      ((changePolicy operation m nowMs).exec s).2 := by
  refine .audited hs fun s₁ hs₁ hhost hnext _ => ?_
  rw [exec_bind_ok (exec_get s₁)]
  split
  · exact .of_same hs₁
      (Within.bind (R := SameActivities) (sameActivities_auditLocal _ _ _) (fun _ => .throw _) s₁)
  · rename_i nextPolicy _
    refine .after hs₁ (.modify fun _ => rfl) fun _ s₂ hmodify _ => ?_
    obtain rfl : { s₁ with policy := nextPolicy } = s₂ := congrArg Prod.snd hmodify
    have hs₂ : Keyed { s₁ with policy := nextPolicy } := hs₁
    refine .bind (m := attempt _) (puts_appendLocalEvent hs₂ hhost hnext operation nowMs)
      fun outcome s₃ _ hs₃ => ?_
    cases outcome with
    | ok => exact .of_same hs₃ rfl
    | error =>
      refine .of_same hs₃ (Within.bind (R := SameActivities) ?_ (fun _ => ?_) s₃)
      · exact .modify fun _ => rfl
      · exact Within.bind (sameActivities_auditLocal _ _ _) fun _ => .throw _

theorem Puts.authorized {P : Option ActivityEvent → ActivityEvent → Prop} (hs : s.Keyed)
    {resource : ResourceClass} {mutationDigest : Option String} {α : Type} {f : Unit → ServiceEff α}
    (hf : ∀ s₁ : DashboardService, s₁.Keyed → s₁.localHostId = s.localHostId →
      s₁.nextAuditSequence = s.nextAuditSequence → s₁.activities = s.activities →
      Puts P s₁ ((f ()).exec s₁).2) :
    Puts P s ((authorizeAdmin operation resource mutationDigest nowMs >>= f).exec s).2 := by
  refine .after hs (sameActivities_authorizeAdmin _ _ _ _) fun _ s₁ hauthorized hsame => ?_
  obtain ⟨_, _, rfl⟩ := (authorizeAdmin_ok hauthorized).eq
  exact hf _ hs rfl rfl rfl

theorem puts_putPolicyRuleExact (hs : s.Keyed) (rule : PolicyRule) (expectedRevision nowMs : ℕ) :
    Puts (fun _ => LocalPut s.localHostId s.nextAuditSequence policyPut) s
      ((putPolicyRuleExact rule expectedRevision nowMs).exec s).2 := by
  refine .after hs (.orThrow _ _) fun digest s₀ hdigest _ => ?_
  obtain rfl : s = s₀ := congrArg Prod.snd hdigest
  refine .authorized hs fun s₁ hs₁ hhost hnext _ => ?_
  rw [← hhost, ← hnext, exec_bind_ok (exec_get s₁)]
  split
  · rw [exec_throwIf_bind]
    split
    · exact .of_same hs₁ rfl
    · exact puts_changePolicy hs₁ _ _ _
  · rw [exec_throwIf_bind]
    split
    · exact .of_same hs₁ rfl
    · exact puts_changePolicy hs₁ _ _ _

theorem puts_deletePolicyRule (hs : s.Keyed) (id : RuleId) (nowMs : ℕ) :
    Puts (fun _ => LocalPut s.localHostId s.nextAuditSequence policyDelete) s
      ((deletePolicyRule id nowMs).exec s).2 := by
  refine .after hs (.orThrow _ _) fun digest s₀ hdigest _ => ?_
  obtain rfl : s = s₀ := congrArg Prod.snd hdigest
  refine .authorized hs fun s₁ hs₁ hhost hnext _ => ?_
  rw [← hhost, ← hnext]
  exact puts_changePolicy hs₁ _ _ _

theorem puts_deletePolicyRuleExact (hs : s.Keyed) (id : RuleId) (expectedRevision nowMs : ℕ) :
    Puts (fun _ => LocalPut s.localHostId s.nextAuditSequence policyDelete) s
      ((deletePolicyRuleExact id expectedRevision nowMs).exec s).2 := by
  refine .after hs (.orThrow _ _) fun digest s₀ hdigest _ => ?_
  obtain rfl : s = s₀ := congrArg Prod.snd hdigest
  refine .authorized hs fun s₁ hs₁ hhost hnext _ => ?_
  rw [← hhost, ← hnext, exec_bind_ok (exec_get s₁)]
  cases s₁.policy.rules.find? fun rule => rule.id = id with
  | none => exact .of_same hs₁ rfl
  | some =>
    rw [exec_okOr_some_bind, exec_throwIf_bind]
    split
    · exact .of_same hs₁ rfl
    · exact puts_changePolicy hs₁ _ _ _

theorem puts_resume (hs : s.Keyed) (nowMs : ℕ) :
    Puts (fun _ => LocalPut s.localHostId s.nextAuditSequence remoteAccessResume) s
      ((resume nowMs).exec s).2 := by
  refine .authorized hs fun s₁ hs₁ hhost hnext _ => .audited hs₁ fun s₂ hs₂ hhost' hnext' _ => ?_
  refine .after hs₂ (.modify fun _ => rfl) fun _ s₃ hmodify _ => ?_
  obtain rfl : { s₂ with paused := false } = s₃ := congrArg Prod.snd hmodify
  have hs₃ : Keyed { s₂ with paused := false } := hs₂
  refine puts_publishPaused (puts_appendLocalEvent hs₃ ?_ ?_ _ _) _ _ _
  · exact hhost'.trans hhost
  · exact hnext'.trans (congrArg (· + 1) hnext)

/-! ### Pausing -/

def isOpen (current : ActivityEvent) : Bool := !current.state.isTerminal

def openCount (s : DashboardService) : ℕ := s.activities.values.countP isOpen

def openAmong (s : DashboardService) (ids : List ActivityId) : ℕ :=
  ids.countP fun id => (s.activities.lookup id).any isOpen

omit [Sha256] in
theorem openAmong_keys (s : DashboardService) (hash : HashOrder ActivityId) :
    s.openAmong (hash.order s.activities.keys) = s.openCount := by
  rw [openAmong, (hash.perm _).countP_eq, openCount, Map.keys, Map.values, List.countP_map,
    List.countP_map]
  refine List.countP_congr fun entry hmem => ?_
  rw [Function.comp_apply, Function.comp_apply, Map.mem_toList.1 hmem, Option.any_some]

/-- **A cancellation that succeeds** has written two audit records if the activity was open, and has
left the other activities alone. -/
theorem cancelActivityInner_counts (hs : s.Keyed) {id : ActivityId} {cancelled : Bool}
    (h : (cancelActivityInner id nowMs).exec s = (.ok cancelled, s')) :
    s'.nextAuditSequence = s.nextAuditSequence + 2 * s.openAmong [id] ∧
      ∀ other, other ≠ id → s'.activities.lookup other = s.activities.lookup other := by
  rw [openAmong, List.countP_singleton]
  rw [cancelActivityInner, exec_bind_ok (exec_get s)] at h
  cases hlookup : s.activities.lookup id with
  | none =>
    rw [hlookup] at h
    cases h
    exact ⟨rfl, fun _ _ => rfl⟩
  | some current =>
    rw [hlookup] at h
    dsimp only at h
    rw [exec_ite] at h
    cases hterminal : current.state.isTerminal with
    | true =>
      rw [if_pos hterminal] at h
      cases h
      simp [isOpen, hterminal]
    | false =>
      rw [if_neg (by simp [hterminal])] at h
      obtain ⟨⟨⟩, _, haudited, h⟩ := exec_bind_inv h
      obtain ⟨audit, rfl⟩ := (audits_auditAccessFromEvent _ _ _ _).ok haudited
      rcases hpublish : (recordActivity (current.cancelled nowMs) ("cancel:" ++ id.text)).exec
        { s with audit, nextAuditSequence := s.nextAuditSequence + 1 } with ⟨published, s₂⟩
      rw [exec_bind_ok (exec_attempt_of hpublish)] at h
      cases published with
      | error =>
        obtain ⟨⟨⟩, s₃, -, h⟩ := exec_bind_inv h
        cases h
      | ok =>
        obtain ⟨⟨⟩, s₃, haudited', h⟩ := exec_bind_inv h
        obtain ⟨_, rfl⟩ := (audits_auditAccessFromEvent _ _ _ _).ok haudited'
        cases h
        have hnext := (sameAudit_recordActivity (current.cancelled nowMs) ("cancel:" ++ id.text)
          { s with audit, nextAuditSequence := s.nextAuditSequence + 1 }).nextAuditSequence
        rw [hpublish] at hnext
        have hactivities := activities_of_recordActivity hpublish
        have hid : (current.cancelled nowMs).activityId = id := hs id current hlookup
        constructor
        · dsimp only at hnext ⊢
          rw [hnext, Option.any_some, isOpen, hterminal]
          rfl
        · intro other _
          dsimp only
          rw [hactivities]
          exact Map.lookup_insert_ne (by rwa [hid]) _

/-- **A loop that succeeds** has written two audit records for each activity that was open. -/
theorem cancelAll_counts (hs : s.Keyed) {ids : List ActivityId} (hnodup : ids.Nodup)
    (h : (cancelAll nowMs ids).exec s = (.ok (), s')) :
    s'.nextAuditSequence = s.nextAuditSequence + 2 * s.openAmong ids := by
  induction ids generalizing s with
  | nil =>
    cases h
    rfl
  | cons id ids ih =>
    rw [List.nodup_cons] at hnodup
    obtain ⟨_, s₁, hcancelled, h⟩ := exec_bind_inv h
    obtain ⟨hnext, hothers⟩ := cancelActivityInner_counts hs hcancelled
    have hkeyed := (puts_cancelActivityInner hs id nowMs).keyed
    rw [hcancelled] at hkeyed
    -- The rest of the loop is about other activities, which are as they were.
    have hrest : s₁.openAmong ids = s.openAmong ids := by
      refine List.countP_congr fun other hmem => ?_
      rw [hothers other (ne_of_mem_of_not_mem hmem hnodup.1)]
    have hcons : s.openAmong (id :: ids) = s.openAmong [id] + s.openAmong ids := by
      rw [openAmong, openAmong, openAmong, ← List.singleton_append, List.countP_append]
    rw [ih hkeyed hnodup.2 h, hnext, hrest, hcons]
    omega

theorem publishPaused_inv {previous : Bool}
    (h : (publishPaused operation m previous nowMs).exec s = (.ok (), s')) :
    m.exec s = (.ok (), s') := by
  rcases hexec : m.exec s with ⟨outcome, _⟩
  rw [publishPaused, exec_bind_ok (exec_attempt_of hexec)] at h
  cases outcome with
  | ok =>
    cases h
    rfl
  | error =>
    rw [exec_bind_ok (exec_modify _ _)] at h
    obtain ⟨⟨⟩, _, -, h⟩ := exec_bind_inv h
    cases h

def pauseNumber (s : DashboardService) (existing : ExistingJobs) : ℕ :=
  s.nextAuditSequence + if existing = .cancel then 2 * s.openCount else 0

/-- **What a pause puts**: that the open activities are cancelled, where this is asked for, and the
event of the pause itself. -/
theorem puts_pause (hs : s.Keyed) (existing : ExistingJobs) (hash : HashOrder ActivityId) (nowMs : ℕ) :
    Puts (fun current event =>
        (existing = .cancel ∧ ∃ record, current = some record ∧ EndPut .cancelled record event) ∨
          LocalPut s.localHostId (s.pauseNumber existing) remoteAccessPause event) s
      ((pause existing hash nowMs).exec s).2 := by
  refine .authorized hs fun s₁ hs₁ hhost₁ hnext₁ hsame₁ =>
    .audited hs₁ fun s₂ hs₂ hhost₂ hnext₂ hsame₂ => ?_
  have hhost := hhost₂.trans hhost₁
  have hnext := hnext₂.trans (congrArg (· + 1) hnext₁)
  have hsame := hsame₂.trans hsame₁
  refine .after hs₂ (.modify fun _ => rfl) fun _ s₃ hmodify _ => ?_
  obtain rfl : { s₂ with paused := true } = s₃ := congrArg Prod.snd hmodify
  have hs₃ : Keyed { s₂ with paused := true } := hs₂
  have hlocal : ∀ s₄ : DashboardService, s₄.Keyed → s₄.localHostId = s.localHostId →
      s₄.nextAuditSequence = s.pauseNumber existing + 1 →
      Puts (fun current event =>
          (existing = .cancel ∧ ∃ record, current = some record ∧ EndPut .cancelled record event) ∨
            LocalPut s.localHostId (s.pauseNumber existing) remoteAccessPause event) s₄
        ((publishPaused remoteAccessPause (appendLocalEvent remoteAccessPause nowMs) false nowMs).exec
          s₄).2 := by
    intro s₄ hs₄ hhost₄ hnext₄
    exact (puts_publishPaused (puts_appendLocalEvent hs₄ hhost₄ hnext₄ _ _) _ _ _).mono
      fun _ _ h => .inr h
  rw [exec_bind_ok (exec_get _)]
  split
  · rename_i hcancel
    refine .bind ((puts_publishPaused (puts_cancelAll hs₃ nowMs _) _ _ _).mono fun _ _ h =>
      .inl ⟨hcancel, h⟩) fun _ s₄ hcancelled hs₄ => ?_
    have hloop := publishPaused_inv hcancelled
    have hcore := writes_sameCore.cancelAll nowMs (hash.order s₂.activities.keys)
      { s₂ with paused := true }
    rw [hloop] at hcore
    have hcount := cancelAll_counts hs₃ ((hash.perm _).nodup_iff.2 (Map.nodup_keys _)) hloop
    rw [openAmong_keys] at hcount
    refine hlocal s₄ hs₄ (hcore.localHostId.trans hhost) ?_
    rw [hcount, pauseNumber, if_pos hcancel, openCount, openCount, hsame]
    dsimp only
    omega
  · rename_i hcancel
    refine hlocal _ hs₃ hhost ?_
    rw [pauseNumber, if_neg hcancel]
    exact hnext

def AsksForMutation (s : DashboardService) (mutation : AdminMutation) (access : AccessRequest) : Prop :=
  ∃ digest start activityId, mutation.digest = .ok digest ∧
    takeBytes 16 digest.toList = some start ∧
    parseId ("admin-" ++ String.ofList start) = .ok activityId ∧
    access = adminRequest s.localHostId activityId mutation.operationAndResource.1
      mutation.operationAndResource.2

theorem AsksForMutation.unique {mutation : AdminMutation} {other : AccessRequest}
    (h : s.AsksForMutation mutation access) (h' : s.AsksForMutation mutation other) :
    access = other := by
  obtain ⟨digest, start, activityId, hdigest, hstart, hid, rfl⟩ := h
  obtain ⟨digest', start', activityId', hdigest', hstart', hid', rfl⟩ := h'
  obtain rfl : digest = digest' := Except.ok.inj (hdigest.symm.trans hdigest')
  obtain rfl : start = start' := Option.some.inj (hstart.symm.trans hstart')
  obtain rfl : activityId = activityId' := Except.ok.inj (hid.symm.trans hid')
  rfl

theorem puts_requestAdminMutationApproval (hs : s.Keyed) (mutation : AdminMutation)
    (lifetimeMs nowMs : ℕ) (random : ℕ → Digest) :
    Puts (fun current event => ∃ access, s.AsksForMutation mutation access ∧
        s.RequestPut access nowMs current event) s
      ((requestAdminMutationApproval mutation lifetimeMs nowMs random).exec s).2 := by
  rw [requestAdminMutationApproval, exec_orThrow_bind]
  cases hdigest : mutation.digest with
  | error => exact .of_same hs rfl
  | ok digest =>
    dsimp only
    cases hstart : takeBytes 16 digest.toList with
    | none => exact .of_same hs rfl
    | some start =>
      rw [exec_okOr_some_bind, exec_orThrow_bind]
      split
      · rename_i activityId hid
        rw [exec_bind_ok (exec_get s)]
        refine .bind ((puts_requestApproval hs _ _ _ _).mono fun _ _ h =>
          ⟨_, ⟨digest, start, activityId, hdigest, hstart, hid, rfl⟩, h⟩) fun created s₁ _ hs₁ => ?_
        exact .of_same hs₁ (Within.bind (R := SameActivities) (sameActivities_bindMutation _ _)
          (fun _ => .pure _) s₁)
      · exact .of_same hs rfl

theorem puts_decidePendingApproval (hs : s.Keyed) (approvalId : ApprovalId)
    (session : AuthenticatedTargetSession) (decision : ApprovalDecision) (nowMs : ℕ) :
    Puts (fun current event => ∃ pending, s.pending.lookup approvalId = some pending ∧
        s.DecisionPut pending.nonce session pending.access decision nowMs current event) s
      ((decidePendingApproval approvalId session decision nowMs).exec s).2 := by
  rw [decidePendingApproval, exec_bind_ok (exec_get s)]
  cases hlookup : s.pending.lookup approvalId with
  | none => exact .of_same hs rfl
  | some pending =>
    rw [exec_okOr_some_bind]
    exact (puts_decideApproval hs _ _ _ _ _).mono fun _ _ h => ⟨pending, rfl, h⟩

/-- **What a restart of the service puts.** -/
theorem puts_reconcileAfterRestart (hs : s.Keyed) (hash : HashOrder ActivityEvent) (nowMs : ℕ) :
    Puts (fun _ event => ∃ record, s.activities.lookup event.activityId = some record ∧
        (record.state = .queued ∨ record.state = .running) ∧ EndPut .failed record event) s
      ((reconcileAfterRestart hash nowMs).exec s).2 := by
  rw [reconcileAfterRestart, exec_bind_ok (exec_get s)]
  refine .bind ((puts_reconcile hs nowMs _).mono ?_) fun _ s₁ _ hs₁ => .of_same hs₁ rfl
  rintro - event ⟨record, hmem, hgoesOn, hstate⟩
  rw [(hash.perm _).mem_iff, activeActivities, List.mem_filter, Bool.or_eq_true, decide_eq_true_eq,
    decide_eq_true_eq] at hmem
  obtain ⟨id, hlookup⟩ := Map.mem_values.1 hmem.1
  have hopen : record.state.isTerminal = false := by
    rcases hmem.2 with hrecord | hrecord
    · rw [hrecord]
      rfl
    · rw [hrecord]
      rfl
  refine ⟨record, ?_, hmem.2, hopen, hgoesOn, hstate⟩
  rw [hgoesOn.activityId, hs id record hlookup]
  exact hlookup

end

end DashboardService

/-! ### Calls -/

variable [Sha256]

open DashboardService in
def ServiceCall.Puts (s : DashboardService) :
    ServiceCall → Option ActivityEvent → ActivityEvent → Prop
  | recordPreapprovalTargetOffline access _ => fun _ event =>
    s.auditHealthy = true ∧ event.About access ∧ event.state = .failed
  | requestApproval access _ nowMs _ => s.RequestPut access nowMs
  | requestAdminMutationApproval mutation _ nowMs _ => fun current event =>
    ∃ access, s.AsksForMutation mutation access ∧ s.RequestPut access nowMs current event
  | decideApproval nonce session access decision nowMs =>
    s.DecisionPut nonce session access decision nowMs
  | decidePendingApproval approvalId session decision nowMs => fun current event =>
    ∃ pending, s.pending.lookup approvalId = some pending ∧
      s.DecisionPut pending.nonce session pending.access decision nowMs current event
  | putPolicyRule _ _ | putPolicyRuleExact _ _ _ => fun _ =>
    LocalPut s.localHostId s.nextAuditSequence policyPut
  | deletePolicyRule _ _ | deletePolicyRuleIfRevision _ _ _ => fun _ =>
    LocalPut s.localHostId s.nextAuditSequence policyDelete
  | recordActivity event _ => fun _ put => put = event
  | transitionActivity id state _ _ _ => fun current event =>
    ∃ record, current = some record ∧ TransitionPut id state record event
  | recordAuditUnavailableTerminal id _ _ => fun current event =>
    ∃ record, current = some record ∧ record.activityId = id ∧ EndPut .failed record event
  | cancelActivity id _ => fun current event =>
    ∃ record, current = some record ∧ record.activityId = id ∧ EndPut .cancelled record event
  | reconcileAfterRestart _ _ => fun _ event =>
    ∃ record, s.activities.lookup event.activityId = some record ∧
      (record.state = .queued ∨ record.state = .running) ∧ EndPut .failed record event
  | pause existing _ _ => fun current event =>
    (existing = .cancel ∧ ∃ record, current = some record ∧ EndPut .cancelled record event) ∨
      LocalPut s.localHostId (s.pauseNumber existing) remoteAccessPause event
  | resume _ => fun _ => LocalPut s.localHostId s.nextAuditSequence remoteAccessResume
  | deleteAudit _ _ | deleteAuditExact _ _ _ | applyConnectionChange _ _ _ | acknowledge _ _ _
  | readEvents _ => fun _ _ => False

namespace DashboardService

omit [Sha256] in
theorem Puts.dropValue {P : Option ActivityEvent → ActivityEvent → Prop} {s : DashboardService}
    {α : Type} {m : ServiceEff α} (h : Puts P s (m.exec s).2) :
    Puts P s ((ServiceCall.dropValue m).exec s).2 := by
  rwa [exec_dropValue]

theorem sameActivities_deleteAuditExact (scope : AuditDeletionScope) (filter : AuditFilter)
    (nowMs : ℕ) : Within SameActivities (deleteAuditExact scope filter nowMs) :=
  Within.bind (.orThrow _ _) fun _ => Within.bind (sameActivities_authorizeAdmin _ _ _ _) fun _ =>
    fun _ => rfl

theorem sameActivities_applyConnectionChange (configuration : ConnectionConfig)
    (persisted : Except DashboardServiceError Unit) (nowMs : ℕ) :
    Within SameActivities (applyConnectionChange configuration persisted nowMs) := by
  refine Within.bind (.orThrow _ _) fun digest =>
    Within.bind (sameActivities_authorizeAdmin _ _ _ _) fun _ => ?_
  refine Within.bind (sameActivities_auditLocal _ _ _) fun _ => ?_
  cases persisted with
  | ok => exact sameActivities_auditLocal _ _ _
  | error => exact Within.bind (sameActivities_auditLocal _ _ _) fun _ => .throw _

/-- **A call puts nothing but the events of its kinds.** -/
theorem puts_next {s : DashboardService} (hs : s.Keyed) (call : ServiceCall) :
    Puts (call.Puts s) s (call.next s) := by
  cases call with
  | recordPreapprovalTargetOffline access nowMs =>
    cases hhealthy : s.auditHealthy with
    | false =>
      obtain ⟨_, hexec⟩ :=
        refused_auditAccessWithMessage access .deny .failed (some .targetOffline) nowMs s hhealthy
      refine .of_same hs ?_
      rw [ServiceCall.next, ServiceCall.program, recordPreapprovalTargetOffline,
        exec_bind_error hexec]
    | true =>
      refine .after hs (sameActivities_auditAccessWithMessage _ _ _ _ _) fun _ s₁ _ hsame => ?_
      have hkeyed : s₁.Keyed := by rwa [Keyed, hsame]
      rw [exec_bind_ok (exec_get s₁)]
      exact puts_recordActivity hkeyed
        ⟨hhealthy, ActivityEvent.about_accessEvent _ _ _ _ _ _ _ _, rfl⟩ _
  | requestApproval => exact (puts_requestApproval hs _ _ _ _).dropValue
  | requestAdminMutationApproval =>
    exact (puts_requestAdminMutationApproval hs _ _ _ _).dropValue
  | decideApproval =>
    exact (puts_decideApproval hs _ _ _ _ _).dropValue
  | decidePendingApproval =>
    exact (puts_decidePendingApproval hs _ _ _ _).dropValue
  | putPolicyRule | putPolicyRuleExact => exact puts_putPolicyRuleExact hs _ _ _
  | deletePolicyRule => exact (puts_deletePolicyRule hs _ _).dropValue
  | deletePolicyRuleIfRevision =>
    exact (puts_deletePolicyRuleExact hs _ _ _).dropValue
  | deleteAudit | deleteAuditExact =>
    exact .of_same hs (within_dropValue (sameActivities_deleteAuditExact _ _ _) s)
  | recordActivity => exact puts_recordActivity hs rfl _
  | transitionActivity =>
    exact (puts_transitionActivity hs _ _ _ _ _).dropValue
  | recordAuditUnavailableTerminal =>
    exact (puts_recordAuditUnavailableTerminal hs _ _ _).dropValue
  | cancelActivity id nowMs =>
    refine Puts.dropValue (.authorized hs fun s₁ hs₁ _ _ _ => ?_)
    exact puts_cancelActivityInner hs₁ id nowMs
  | reconcileAfterRestart => exact (puts_reconcileAfterRestart hs _ _).dropValue
  | pause => exact puts_pause hs _ _ _
  | resume => exact puts_resume hs _
  | applyConnectionChange =>
    exact .of_same hs (sameActivities_applyConnectionChange _ _ _ s)
  | acknowledge =>
    exact .of_same hs (within_acknowledge (R := SameActivities) (fun _ _ => rfl) _ _ _ s)
  | readEvents => exact .of_same hs rfl

end DashboardService

end Dashboard
