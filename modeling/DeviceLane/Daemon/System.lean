/-
**The daemon with its workers.**

Requests and the steps of the workers come in any order, each of them under the lock of the daemon. What
one of them may do is said once: a request makes at most one call of the service, and a step of a worker
observes the activity of its own execution or takes it out of the map.

Main definitions:

* `Daemon.LocalRequest.Calls` — the calls of the service that a request may make.

Main results:

* `Daemon.DaemonState.handled_handleAuthorized` — **what a request does to the daemon**;
* `Daemon.Worker.moved_step` — **what a step of a worker does to the daemon**.
-/

import DeviceLane.Daemon.Workers
import DeviceLane.Dashboard.ServiceIdentities

namespace Daemon

open Dashboard Effect

/-! ### The system -/

structure System where
  daemon : DaemonState
  workers : Map Token Worker

/-- What happens next: a request is handled, or a worker takes a step. -/
inductive Input
  | request (request : LocalRequest) (circumstances : Circumstances)
  | worker (token : Token) (outside : Outside)

namespace System

variable [Sha256]

def startRemoteExecution (activityId : ActivityId) (workspacePath requestId appPath : String)
    (s : System) : System :=
  match (DaemonState.prepareRemoteExecution activityId workspacePath requestId appPath
      s.daemon.session).exec s.daemon with
  | (.ok job, d) => ⟨d, s.workers.insert job.cancelled (.new job)⟩
  | (.error _, d) => ⟨d, s.workers⟩

def handle (request : LocalRequest) (c : Circumstances) (s : System) : System :=
  match request with
  | .startRemoteExecution activityId workspacePath requestId appPath =>
    s.startRemoteExecution activityId workspacePath requestId appPath
  | request => ⟨((DaemonState.handleAuthorized request c s.daemon.session).exec s.daemon).2, s.workers⟩

def stepWorker (token : Token) (o : Outside) (s : System) : System :=
  match s.workers.lookup token with
  | none => s
  | some w => ⟨(w.step o s.daemon).1, s.workers.insert token (w.step o s.daemon).2⟩

def next (s : System) : Input → System
  | .request request c => s.handle request c
  | .worker token o => s.stepWorker token o

/-- The system after a run. -/
def run (inputs : List Input) (s : System) : System := inputs.foldl next s

end System

/-! ### What a request does -/

inductive LocalRequest.Calls (c : Circumstances) (session : AuthenticatedTargetSession) :
    LocalRequest → ServiceCall → Prop
  | resume : Calls c session .resumeRemoteAccess (.resume c.nowMs)
  | applyConnectionChange (configuration : ConnectionConfig) :
      Calls c session (.setConnection configuration)
        (.applyConnectionChange configuration c.persisted c.nowMs)
  | requestApproval (access : AccessRequest) (lifetimeMs : ℕ) :
      Calls c session (.requestApproval access lifetimeMs)
        (.requestApproval access lifetimeMs c.nowMs c.random)
  | offline (access : AccessRequest) (lifetimeMs : ℕ) :
      Calls c session (.requestApproval access lifetimeMs)
        (.recordPreapprovalTargetOffline access c.nowMs)
  | requestAuthenticated (access : AccessRequest) (lifetimeMs : ℕ) (h : c.vouchedFor = some access) :
      Calls c session (.requestAuthenticatedApproval lifetimeMs)
        (.requestApproval access lifetimeMs c.nowMs c.random)
  | offlineAuthenticated (access : AccessRequest) (lifetimeMs : ℕ) (h : c.vouchedFor = some access) :
      Calls c session (.requestAuthenticatedApproval lifetimeMs)
        (.recordPreapprovalTargetOffline access c.nowMs)
  | requestAdminMutation (mutation : AdminMutation) (lifetimeMs : ℕ) :
      Calls c session (.requestAdminMutationApproval mutation lifetimeMs)
        (.requestAdminMutationApproval mutation lifetimeMs c.nowMs c.random)
  | decide (nonce : String) (access : AccessRequest) (decision : ApprovalDecision) :
      Calls c session (.decideApproval nonce access decision)
        (.decideApproval nonce session access decision c.nowMs)
  | decidePending (approvalId : ApprovalId) (decision : ApprovalDecision) :
      Calls c session (.decidePendingApproval approvalId decision)
        (.decidePendingApproval approvalId session decision c.nowMs)
  | readEvents : Calls c session .activityEvents (.readEvents c.nowMs)
  | acknowledge (subscriberId : SubscriberId) (cursor : EventCursor) :
      Calls c session (.acknowledgeEvents subscriberId cursor)
        (.acknowledge subscriberId cursor c.nowMs)
  | putPolicyRule (rule : PolicyRule) :
      Calls c session (.putPolicyRule rule) (.putPolicyRule rule c.nowMs)
  | deletePolicyRule (ruleId : RuleId) :
      Calls c session (.deletePolicyRule ruleId) (.deletePolicyRule ruleId c.nowMs)
  | deletePolicyRuleIfRevision (ruleId : RuleId) (expectedRevision : ℕ) :
      Calls c session (.deletePolicyRuleIfRevision ruleId expectedRevision)
        (.deletePolicyRuleIfRevision ruleId expectedRevision c.nowMs)
  | deleteAudit (scope : AuditDeletionScope) (filter : AuditFilter) :
      Calls c session (.auditDelete scope filter) (.deleteAuditExact scope filter c.nowMs)
  | cancelActivity (activityId : ActivityId) :
      Calls c session (.cancelActivity activityId) (.cancelActivity activityId c.nowMs)
  | pause (existingJobs : ExistingJobs) :
      Calls c session (.pauseRemoteAccessWithJobs existingJobs) (.pause existingJobs c.hash c.nowMs)

def LocalRequest.setsPause : LocalRequest → Bool
  | .pauseRemoteAccess | .resumeRemoteAccess | .pauseRemoteAccessWithJobs _ => true
  | _ => false

namespace DaemonState

section

variable {d : DaemonState}

theorem exec_onDashboard {α : Type} (m : ServiceEff α) (d : DaemonState) :
    (onDashboard m).exec d =
      ((m.exec d.dashboard).1.mapError mapDashboardFault,
        { d with dashboard := (m.exec d.dashboard).2 }) := rfl

theorem exec_onDashboard_ok {α : Type} {m : ServiceEff α} {a : α} {dashboard : DashboardService}
    (h : m.exec d.dashboard = (.ok a, dashboard)) :
    (onDashboard m).exec d = (.ok a, { d with dashboard }) := by
  rw [exec_onDashboard, h]
  rfl

theorem exec_onDashboard_bind {α β : Type} (m : ServiceEff α) {f : α → DaemonEff β}
    (hf : ∀ a d, ((f a).exec d).2 = d) (d : DaemonState) :
    ((onDashboard m >>= f).exec d).2 = { d with dashboard := (m.exec d.dashboard).2 } := by
  rcases hm : m.exec d.dashboard with ⟨outcome, dashboard⟩
  rw [exec_bind, exec_onDashboard, hm]
  cases outcome with
  | ok a => exact hf a _
  | error => rfl

end

variable [Sha256] {c : Circumstances} {session : AuthenticatedTargetSession} {request : LocalRequest}
  {d d' : DaemonState}

/-- What a request does: at most one call of the service; the executions in flight stay, and no token is
taken back. -/
structure Handled (c : Circumstances) (session : AuthenticatedTargetSession) (request : LocalRequest)
    (d d' : DaemonState) : Prop where
  dashboard : d'.dashboard = d.dashboard ∨
    ∃ call, request.Calls c session call ∧ d'.dashboard = call.next d.dashboard
  inflightExecutions : d'.inflightExecutions = d.inflightExecutions
  issued : d'.issued = d.issued
  raised : ∀ token ∈ d.raised, token ∈ d'.raised
  boundary : d.hasRemoteExecutionBoundary = d.remoteExecution.isSome →
    d'.hasRemoteExecutionBoundary = d'.remoteExecution.isSome
  remoteAccessPaused : request.setsPause = false → d'.remoteAccessPaused = d.remoteAccessPaused

namespace Handled

theorem refused : Handled c session request d d :=
  ⟨.inl rfl, rfl, rfl, fun _ h => h, id, fun _ => rfl⟩

theorem called {call : ServiceCall} (hcalls : request.Calls c session call)
    (h : d' = { d with dashboard := call.next d.dashboard }) : Handled c session request d d' := by
  subst h
  exact ⟨.inr ⟨call, hcalls, rfl⟩, rfl, rfl, fun _ h => h, id, fun _ => rfl⟩

theorem then_ {d₁ : DaemonState} (h : Handled c session request d d₁)
    (hdashboard : d'.dashboard = d₁.dashboard)
    (hinflight : d'.inflightExecutions = d₁.inflightExecutions) (hissued : d'.issued = d₁.issued)
    (hraised : ∀ token ∈ d₁.raised, token ∈ d'.raised)
    (hboundary : d₁.hasRemoteExecutionBoundary = d₁.remoteExecution.isSome →
      d'.hasRemoteExecutionBoundary = d'.remoteExecution.isSome)
    (hpaused : request.setsPause = false → d'.remoteAccessPaused = d₁.remoteAccessPaused) :
    Handled c session request d d' where
  dashboard := by
    rw [hdashboard]
    exact h.dashboard
  inflightExecutions := hinflight.trans h.inflightExecutions
  issued := hissued.trans h.issued
  raised token htoken := hraised token (h.raised token htoken)
  boundary hbefore := hboundary (h.boundary hbefore)
  remoteAccessPaused hset := (hpaused hset).trans (h.remoteAccessPaused hset)

theorem reconcile {d₁ : DaemonState} (h : Handled c session request d d₁) (target : ConnectionConfig)
    (reconciled : Reconciled) :
    Handled c session request d (reconcileConnectionWrite target reconciled d₁) := by
  cases reconciled with
  | activated => exact h.then_ rfl rfl rfl (fun _ h => h) (fun _ => rfl) fun _ => rfl
  | kept => exact h
  | dropped => exact h.then_ rfl rfl rfl (fun _ h => h) (fun _ => rfl) fun _ => rfl

end Handled

theorem handled_of_call {call : ServiceCall} (hcalls : request.Calls c session call) {α β : Type}
    {m : ServiceEff α} (hm : ∀ s : DashboardService, call.next s = (m.exec s).2) {f : α → DaemonEff β}
    (hf : ∀ a d, ((f a).exec d).2 = d) (d : DaemonState) :
    Handled c session request d ((onDashboard m >>= f).exec d).2 := by
  refine .called hcalls ?_
  rw [exec_onDashboard_bind m hf, hm]

theorem handled_setConnection (configuration : ConnectionConfig) (d : DaemonState) :
    Handled c session (.setConnection configuration) d ((setConnection configuration c).exec d).2 := by
  rw [setConnection, exec_bind_ok (exec_get d), exec_throwIf_bind]
  split
  · exact .refused
  rw [exec_bind_ok (exec_attempt _ d)]
  have hcalled : Handled c session (.setConnection configuration) d ((onDashboard
      (DashboardService.applyConnectionChange configuration c.persisted c.nowMs)).exec d).2 :=
    .called (.applyConnectionChange configuration) rfl
  generalize (onDashboard
    (DashboardService.applyConnectionChange configuration c.persisted c.nowMs)).exec d = result
    at hcalled ⊢
  obtain ⟨outcome, _⟩ := result
  -- Neither the file nor the outcome of the call touches the service.
  by_cases hreaches : reachesFile configuration c.nowMs d.dashboard = true
  · rw [exec_bind_of ((exec_onlyIf_of hreaches _ _).trans (exec_modify _ _)) rfl]
    cases outcome with
    | ok | error => exact hcalled.reconcile configuration c.reconciled
  · rw [exec_bind_of (exec_onlyIf_of_not hreaches _ _) rfl]
    cases outcome with
    | ok | error => exact hcalled

theorem handled_refuseOffline (access : AccessRequest) 
    (hcalls : request.Calls c session (.recordPreapprovalTargetOffline access c.nowMs)) (d : DaemonState) :
    Handled c session request d ((refuseOffline access c.nowMs).exec d).2 :=
  handled_of_call hcalls (fun _ => rfl) (fun _ _ => rfl) d

theorem handled_requestApproval (access : AccessRequest) (lifetimeMs : ℕ) (d : DaemonState) :
    Handled c session (.requestApproval access lifetimeMs) d
      ((requestApproval access lifetimeMs c session).exec d).2 := by
  rw [requestApproval, exec_bind_ok (exec_get d), exec_throwIf_bind]
  split
  · exact .refused
  rw [exec_ite]
  split
  · exact handled_refuseOffline access (.offline access lifetimeMs) d
  rw [exec_throwIf_bind]
  split
  · exact .refused
  · exact handled_of_call (.requestApproval access lifetimeMs) (fun s => DashboardService.exec_dropValue _ s)
      (fun _ _ => rfl) d

theorem handled_requestAuthenticatedApproval (lifetimeMs : ℕ) (d : DaemonState) :
    Handled c session (.requestAuthenticatedApproval lifetimeMs) d
      ((requestAuthenticatedApproval lifetimeMs c session).exec d).2 := by
  rw [requestAuthenticatedApproval, exec_bind_ok (exec_get d), exec_throwIf_bind]
  split
  · exact .refused
  cases hvouched : c.vouchedFor with
  | none => exact .refused
  | some access =>
    rw [exec_okOr_some_bind, exec_throwIf_bind]
    split
    · exact .refused
    rw [exec_ite]
    split
    · exact handled_of_call (.requestAuthenticated access lifetimeMs hvouched)
        (fun s => DashboardService.exec_dropValue _ s) (fun _ _ => rfl) d
    · exact handled_refuseOffline access (.offlineAuthenticated access lifetimeMs hvouched) d

theorem handled_cancelActivity (activityId : ActivityId) (d : DaemonState) :
    Handled c session (.cancelActivity activityId) d ((cancelActivity activityId c.nowMs).exec d).2 := by
  have hcalled : Handled c session (.cancelActivity activityId) d ((onDashboard
      (DashboardService.cancelActivity activityId c.nowMs)).exec d).2 :=
    .called (.cancelActivity activityId)
      (congrArg (fun dashboard => { d with dashboard }) (DashboardService.exec_dropValue _ _).symm)
  rw [cancelActivity, exec_bind]
  generalize (onDashboard (DashboardService.cancelActivity activityId c.nowMs)).exec d = result
    at hcalled ⊢
  obtain ⟨outcome, d₁⟩ := result
  cases outcome with
  | error => exact hcalled
  | ok cancelled =>
    cases cancelled with
    | false => exact hcalled
    | true =>
      dsimp only
      rw [if_pos rfl, exec_bind_ok (exec_modify _ _), exec_pure]
      dsimp only
      cases d₁.inflightExecutions.lookup activityId with
      | none => exact hcalled
      | some token =>
        exact hcalled.then_ rfl rfl rfl (fun _ h => List.mem_cons_of_mem token h) id fun _ => rfl

theorem handled_pauseRemoteAccessWithJobs (existingJobs : ExistingJobs) (d : DaemonState) :
    Handled c session (.pauseRemoteAccessWithJobs existingJobs) d
      ((pauseRemoteAccessWithJobs existingJobs c).exec d).2 := by
  have hcalled : Handled c session (.pauseRemoteAccessWithJobs existingJobs) d ((onDashboard
      (DashboardService.pause existingJobs c.hash c.nowMs)).exec d).2 := .called (.pause existingJobs) rfl
  rw [pauseRemoteAccessWithJobs, exec_bind]
  generalize (onDashboard (DashboardService.pause existingJobs c.hash c.nowMs)).exec d = result
    at hcalled ⊢
  obtain ⟨outcome, _⟩ := result
  cases outcome with
  | error => exact hcalled
  | ok => exact hcalled.then_ rfl rfl rfl (fun _ h => h) id Bool.noConfusion

theorem handled_resumeRemoteAccess (d : DaemonState) :
    Handled c session .resumeRemoteAccess d ((resumeRemoteAccess c.nowMs).exec d).2 := by
  have hcalled : Handled c session .resumeRemoteAccess d ((onDashboard
      (DashboardService.resume c.nowMs)).exec d).2 := .called .resume rfl
  rw [resumeRemoteAccess, exec_bind]
  generalize (onDashboard (DashboardService.resume c.nowMs)).exec d = result at hcalled ⊢
  obtain ⟨outcome, _⟩ := result
  cases outcome with
  | error => exact hcalled
  | ok => exact hcalled.then_ rfl rfl rfl (fun _ h => h) id Bool.noConfusion

/-- **What a request does to the daemon.** -/
theorem handled_handleAuthorized (request : LocalRequest) (d : DaemonState) :
    Handled c session request d ((handleAuthorized request c session).exec d).2 := by
  cases request with
  | pauseRemoteAccess => exact Handled.refused.then_ rfl rfl rfl (fun _ h => h) id Bool.noConfusion
  | resumeRemoteAccess => exact handled_resumeRemoteAccess d
  | setConnection configuration => exact handled_setConnection configuration d
  | requestApproval access lifetimeMs => exact handled_requestApproval access lifetimeMs d
  | requestAuthenticatedApproval lifetimeMs => exact handled_requestAuthenticatedApproval lifetimeMs d
  | requestAdminMutationApproval mutation lifetimeMs =>
    exact handled_of_call (.requestAdminMutation mutation lifetimeMs)
      (fun s => DashboardService.exec_dropValue _ s) (fun _ _ => rfl) d
  | decideApproval nonce access decision =>
    exact handled_of_call (.decide nonce access decision)
      (fun s => DashboardService.exec_dropValue _ s) (fun _ _ => rfl) d
  | decidePendingApproval approvalId decision =>
    exact handled_of_call (.decidePending approvalId decision)
      (fun s => DashboardService.exec_dropValue _ s) (fun _ _ => rfl) d
  | activityEvents => exact handled_of_call .readEvents (fun _ => rfl) (fun _ _ => rfl) d
  | acknowledgeEvents subscriberId cursor =>
    exact handled_of_call (.acknowledge subscriberId cursor) (fun _ => rfl) (fun _ _ => rfl) d
  | putPolicyRule rule =>
    exact handled_of_call (.putPolicyRule rule) (fun _ => rfl) (fun _ _ => rfl) d
  | deletePolicyRule ruleId =>
    exact handled_of_call (.deletePolicyRule ruleId)
      (fun s => DashboardService.exec_dropValue _ s) (fun _ _ => rfl) d
  | deletePolicyRuleIfRevision ruleId expectedRevision =>
    exact handled_of_call (.deletePolicyRuleIfRevision ruleId expectedRevision)
      (fun s => DashboardService.exec_dropValue _ s) (fun _ _ => rfl) d
  | auditDelete scope filter =>
    exact handled_of_call (.deleteAudit scope filter)
      (fun s => DashboardService.exec_dropValue _ s) (fun _ _ => rfl) d
  | cancelActivity activityId => exact handled_cancelActivity activityId d
  | pauseRemoteAccessWithJobs existingJobs => exact handled_pauseRemoteAccessWithJobs existingJobs d
  | startRemoteExecution => exact .refused

/-! ### What it takes to start an execution -/

structure Prepares (d : DaemonState) (activityId : ActivityId)
    (workspacePath requestId appPath : String) (config : RemoteExecutionConfig)
    (activity : ActivityEvent) (grant : RemoteOperationGrant) : Prop where
  config : d.remoteExecution = some config
  recorded : d.dashboard.activities.lookup activityId = some activity
  granted : RemoteOperationGrant.new requestId workspacePath activity.deviceId (.installApp appPath)
    = .ok grant
  executable : ActivityEvent.isExecutable activity d.session grant = true
  free : d.inflightExecutions.lookup activityId = none

omit [Sha256] in
theorem queued_of_executable {activity : ActivityEvent} {grant : RemoteOperationGrant}
    (h : ActivityEvent.isExecutable activity session grant = true) : activity.state = .queued := by
  simp only [ActivityEvent.isExecutable, Bool.and_eq_true, decide_eq_true_eq] at h
  exact h.1.1.1.1.1.1.1.1

def reserved (activityId : ActivityId) (d : DaemonState) : DaemonState :=
  { d with
    inflightExecutions := d.inflightExecutions.insert activityId d.issued
    issued := d.issued + 1 }

/-- **The run of `prepareRemoteExecution`**: it is refused, and nothing has changed, or the execution is
in flight. -/
theorem exec_prepareRemoteExecution (hboundary : d.hasRemoteExecutionBoundary = d.remoteExecution.isSome)
    (activityId : ActivityId) (workspacePath requestId appPath : String) :
    (∃ e, (prepareRemoteExecution activityId workspacePath requestId appPath d.session).exec d
        = (.error e, d)) ∨
      ∃ config activity grant,
        d.Prepares activityId workspacePath requestId appPath config activity grant ∧
        (prepareRemoteExecution activityId workspacePath requestId appPath d.session).exec d
          = (.ok
              { generation := d.remoteExecutionGeneration
                config
                activity
                workspacePath
                requestId
                appPath
                cancelled := d.issued }, d.reserved activityId) := by
  rw [prepareRemoteExecution, exec_throwIf_bind]
  split
  · exact .inl ⟨_, rfl⟩
  rw [exec_bind_ok (exec_get d)]
  cases hconfig : d.remoteExecution with
  | none => exact .inl ⟨_, rfl⟩
  | some config =>
    rw [exec_okOr_some_bind]
    cases hrecorded : d.dashboard.activities.lookup activityId with
    | none => exact .inl ⟨_, rfl⟩
    | some activity =>
      rw [exec_okOr_some_bind, exec_orThrow_bind]
      cases hgranted : RemoteOperationGrant.new requestId workspacePath activity.deviceId
          (.installApp appPath) with
      | error e => exact .inl ⟨_, rfl⟩
      | ok grant =>
        dsimp only
        rw [exec_throwIf_bind]
        split
        · exact .inl ⟨_, rfl⟩
        rename_i hexecutable
        rw [exec_throwIf_bind]
        split
        · exact .inl ⟨_, rfl⟩
        rename_i hfree
        rw [Bool.not_eq_false] at hexecutable
        rw [Option.not_isSome_iff_eq_none] at hfree
        rw [exec_bind_ok (exec_modify _ d), exec_throwIf_bind, if_neg]
        · exact .inr ⟨config, activity, grant, ⟨hconfig, hrecorded, hgranted, hexecutable, hfree⟩,
            rfl⟩
        · rw [hboundary, hconfig]
          exact Bool.noConfusion

theorem Prepares.exec_prepareRemoteExecution {activityId : ActivityId}
    {workspacePath requestId appPath : String} {config : RemoteExecutionConfig} {activity : ActivityEvent}
    {grant : RemoteOperationGrant}
    (h : d.Prepares activityId workspacePath requestId appPath config activity grant)
    (hboundary : d.hasRemoteExecutionBoundary = true)
    (hworkspace : validRemoteComponent workspacePath = true) (happ : validRemoteComponent appPath = true)
    (hrequest : validRemoteIdentifier requestId = true) :
    (prepareRemoteExecution activityId workspacePath requestId appPath d.session).exec d
      = (.ok
          { generation := d.remoteExecutionGeneration
            config
            activity
            workspacePath
            requestId
            appPath
            cancelled := d.issued }, d.reserved activityId) := by
  rw [prepareRemoteExecution, exec_throwIf_bind, if_neg (by simp [hworkspace, happ, hrequest]),
    exec_bind_ok (exec_get d), h.config, exec_okOr_some_bind, h.recorded, exec_okOr_some_bind,
    exec_orThrow_bind, h.granted]
  dsimp only
  rw [exec_throwIf_bind, if_neg (by simp [h.executable]), exec_throwIf_bind, if_neg (by simp [h.free]),
    exec_bind_ok (exec_modify _ d), exec_throwIf_bind, if_neg (by simp [hboundary])]
  rfl

end DaemonState

/-! ### What a step of a worker does -/

namespace Worker

variable [Sha256] {d : DaemonState} {w : Worker}

variable {w' : Worker}

/-- What a step of a worker does to the daemon: nothing, one call of the service about the activity of its
execution, or the execution is not in flight any more. -/
inductive Moved (w : Worker) (d : DaemonState) : DaemonState → Prop
  | kept : Moved w d d
  | observed (state : ActivityState) (message : MessageCode) (nowMs : ℕ) :
      Moved w d { d with
        dashboard := ServiceCall.next (.transitionActivity w.activityId state unavailableMetrics
          (some ⟨message, []⟩) nowMs) d.dashboard }
  | lost (nowMs : ℕ) :
      Moved w d { d with
        dashboard := ServiceCall.next (.recordAuditUnavailableTerminal w.activityId unavailableMetrics
          nowMs) d.dashboard }
  | left (hphase : w.phase = .leaving) :
      Moved w d { d with inflightExecutions := d.inflightExecutions.erase w.activityId }

theorem exec_transitionExecution (activityId : ActivityId) (state : ActivityState) (message : MessageCode)
    (nowMs : ℕ) (d : DaemonState) :
    ((transitionExecution activityId state message nowMs).exec d).2 = { d with
      dashboard := ServiceCall.next (.transitionActivity activityId state unavailableMetrics
        (some ⟨message, []⟩) nowMs) d.dashboard } := by
  rw [transitionExecution, DaemonState.exec_onDashboard_bind _ (fun _ _ => rfl)]
  exact congrArg (fun dashboard => { d with dashboard }) (DashboardService.exec_dropValue _ _).symm

theorem exec_recordAuditUnavailable (activityId : ActivityId) (nowMs : ℕ) (d : DaemonState) :
    ((recordAuditUnavailable activityId nowMs).exec d).2 = { d with
      dashboard := ServiceCall.next (.recordAuditUnavailableTerminal activityId unavailableMetrics nowMs)
        d.dashboard } := by
  rw [recordAuditUnavailable, DaemonState.exec_onDashboard_bind _ (fun _ _ => rfl)]
  exact congrArg (fun dashboard => { d with dashboard }) (DashboardService.exec_dropValue _ _).symm

theorem moved_transitionExecution (state : ActivityState) (message : MessageCode) (nowMs : ℕ) :
    Moved w d ((transitionExecution w.activityId state message nowMs).exec d).2 := by
  rw [exec_transitionExecution]
  exact .observed state message nowMs

theorem moved_observe (guard : RemoteCleanupGuard) (state : ActivityState) (message : MessageCode)
    (nowMs : ℕ) (onward : Worker → Worker) :
    Moved w d (w.observe guard state message nowMs onward d).1 := by
  have hmoved : Moved w d ((transitionExecution w.activityId state message nowMs).exec d).2 :=
    moved_transitionExecution state message nowMs
  rw [observe]
  split
  · rename_i d₁ hexec
    rwa [hexec] at hmoved
  · rename_i fault d₁ hexec
    rwa [hexec] at hmoved

/-- **What a step of a worker does to the daemon.** -/
theorem moved_step (o : Outside) : Moved w d (w.step o d).1 := by
  rw [step]
  split
  · exact .kept
  · rename_i guard stage _
    cases stage with
    | starting | stalling | resuming | ending => exact moved_observe _ _ _ _ _
    | _ => exact .kept
  · split
    · rw [exec_recordAuditUnavailable]
      exact .lost o.nowMs
    · exact .kept
  · split
    · exact .kept
    · exact .kept
  · split
    · exact moved_transitionExecution _ _ _
    · exact .kept
  · split
    · exact .kept
    · exact moved_transitionExecution _ _ _
  · exact .left ‹_›
  · exact .kept

/-! ### What a step keeps of a worker -/

structure Goes (w w' : Worker) : Prop where
  job : w'.job = w.job
  done : w'.phase = .done → w.phase = .leaving ∨ w.phase = .done

section

omit [Sha256]

theorem goes_enter (hjob : w'.job = w.job) {phase : Phase} (h : phase ≠ .done) :
    Goes w (w'.enter phase) :=
  ⟨hjob, fun hdone => absurd hdone h⟩

theorem goes_hold (hjob : w'.job = w.job) (guard : RemoteCleanupGuard) (stage : Stage) :
    Goes w (w'.hold guard stage) :=
  goes_enter hjob Phase.noConfusion

theorem goes_acquire (answer : Except RemoteExecutionFailure Registry.Response) (w : Worker) :
    Goes w (w.acquire answer) := by
  rw [acquire]
  split
  · exact goes_enter (by rfl) Phase.noConfusion
  · dsimp only
    split
    · exact goes_enter (by rfl) Phase.noConfusion
    · split
      · exact goes_enter (by rfl) Phase.noConfusion
      · exact goes_hold (by rfl) _ _

theorem goes_request (guard : RemoteCleanupGuard)
    (answer : Except RemoteExecutionFailure Registry.Response) (w : Worker) :
    Goes w (w.request guard answer) := by
  unfold request
  dsimp only
  split
  · exact goes_hold (by rfl) _ _
  · split
    · split
      · exact goes_hold (by rfl) _ _
      · exact goes_hold (by rfl) _ _
    · split
      · exact goes_hold (by rfl) _ _
      · exact goes_hold (by rfl) _ _

theorem goes_read (hjob : w'.job = w.job) (guard : RemoteCleanupGuard) (loop : Polling)
    (response : Registry.Response) : Goes w (w'.read guard loop response) := by
  rw [read]
  split
  · exact goes_hold hjob _ _
  · exact goes_hold hjob _ _

theorem goes_poll (guard : RemoteCleanupGuard) (loop : Polling) (cancelled : Bool) (o : Outside)
    (w : Worker) : Goes w (w.poll guard loop cancelled o) := by
  rw [poll]
  split
  · exact goes_hold (by rfl) _ _
  split
  · exact goes_hold (by rfl) _ _
  dsimp only
  split
  · split
    · exact goes_hold (by rfl) _ _
    · split
      · exact goes_hold (by rfl) _ _
      · exact goes_read (by rfl) _ _ _
  · split
    · exact goes_hold (by rfl) _ _
    · split
      · exact goes_hold (by rfl) _ _
      · exact goes_hold (by rfl) _ _

theorem goes_cleanUp (guard : RemoteCleanupGuard) (result : Except RemoteExecutionFailure Unit)
    (w : Worker) : Goes w (w.cleanUp guard result) := by
  unfold cleanUp
  cases guard.dispatchedJobId with
  | none | some => cases result <;> exact goes_enter (by rfl) Phase.noConfusion

end

theorem goes_observe (guard : RemoteCleanupGuard) (state : ActivityState) (message : MessageCode)
    (nowMs : ℕ) {onward : Worker → Worker} (h : Goes w (onward w)) (d : DaemonState) :
    Goes w (w.observe guard state message nowMs onward d).2 := by
  rw [observe]
  split
  · exact h
  · exact goes_hold (by rfl) _ _

theorem goes_stepHolding (guard : RemoteCleanupGuard) (o : Outside) (d : DaemonState) (w : Worker)
    (stage : Stage) : Goes w (w.stepHolding guard o d stage).2 := by
  cases stage with
  | granted =>
    dsimp only [stepHolding]
    split
    · exact goes_hold (by rfl) _ _
    · exact goes_hold (by rfl) _ _
  | observing =>
    dsimp only [stepHolding]
    split
    · exact goes_hold (by rfl) _ _
    · split
      · exact goes_hold (by rfl) _ _
      · exact goes_hold (by rfl) _ _
  | requesting => exact goes_request _ _ _
  | accepted =>
    dsimp only [stepHolding]
    split
    · exact goes_hold (by rfl) _ _
    · exact goes_hold (by rfl) _ _
  | starting => exact goes_observe _ _ _ _ (goes_hold (by rfl) _ _) _
  | polling => exact goes_poll _ _ _ _ _
  | stalling => exact goes_observe _ _ _ _ (goes_hold (by rfl) _ _) _
  | resuming => exact goes_observe _ _ _ _ (goes_read (by rfl) _ _ _) _
  | ending =>
    refine goes_observe _ _ _ _ ?_ _
    exact goes_hold (by rfl) _ _
  | dropping => exact goes_cleanUp _ _ _

theorem goes_step (o : Outside) (d : DaemonState) (w : Worker) : Goes w (w.step o d).2 := by
  rw [step]
  split
  · exact goes_acquire _ _
  · exact goes_stepHolding _ _ _ _ _
  · split
    · exact goes_enter (by rfl) Phase.noConfusion
    · exact goes_enter (by rfl) Phase.noConfusion
  · split
    · exact goes_enter (by rfl) Phase.noConfusion
    · exact goes_enter (by rfl) Phase.noConfusion
  · split
    · exact goes_enter (by rfl) Phase.noConfusion
    · exact goes_enter (by rfl) Phase.noConfusion
  · split
    · exact goes_enter (by rfl) Phase.noConfusion
    · exact goes_enter (by rfl) Phase.noConfusion
  · exact ⟨rfl, fun _ => .inl ‹_›⟩
  · exact ⟨rfl, fun _ => .inr ‹_›⟩

theorem step_of_leaving (hphase : w.phase = .leaving) (o : Outside) (d : DaemonState) :
    w.step o d = ({ d with inflightExecutions := d.inflightExecutions.erase w.activityId },
      w.enter .done) := by
  rw [step, hphase]

theorem step_of_done (hphase : w.phase = .done) (o : Outside) (d : DaemonState) :
    w.step o d = (d, w) := by
  rw [step, hphase]

end Worker

/-! ### Workers and executions in flight -/

namespace System

variable {token : Token} {w : Worker} {d : DaemonState}

/-- The executions in flight are those of the workers that are not done, each under its own token. -/
structure Sound (s : System) : Prop where
  keyed : s.daemon.dashboard.Keyed
  boundary : s.daemon.hasRemoteExecutionBoundary = s.daemon.remoteExecution.isSome
  named : ∀ token w, s.workers.lookup token = some w → w.job.cancelled = token
  issued : ∀ token w, s.workers.lookup token = some w → token < s.daemon.issued
  live : ∀ token w, s.workers.lookup token = some w → w.phase ≠ .done →
    s.daemon.inflightExecutions.lookup w.activityId = some token
  inflight : ∀ activityId token, s.daemon.inflightExecutions.lookup activityId = some token →
    ∃ w, s.workers.lookup token = some w ∧ w.phase ≠ .done ∧ w.activityId = activityId

variable [Sha256] {s : System}

theorem keyed_next {dashboard : DashboardService} (h : dashboard.Keyed) (call : ServiceCall) :
    (call.next dashboard).Keyed :=
  (DashboardService.puts_next h call).keyed

theorem next_worker (hw : s.workers.lookup token = some w) (o : Outside) :
    s.next (.worker token o)
      = ⟨(w.step o s.daemon).1, s.workers.insert token (w.step o s.daemon).2⟩ := by
  change s.stepWorker token o = _
  rw [stepWorker, hw]

theorem Sound.handled (h : s.Sound) {c : Circumstances} {session : AuthenticatedTargetSession}
    {request : LocalRequest} (hd : DaemonState.Handled c session request s.daemon d) :
    Sound ⟨d, s.workers⟩ where
  keyed := by
    rcases hd.dashboard with hsame | ⟨call, -, hcalled⟩
    · rw [hsame]
      exact h.keyed
    · rw [hcalled]
      exact keyed_next h.keyed call
  boundary := hd.boundary h.boundary
  named := h.named
  issued token w hw := by
    rw [hd.issued]
    exact h.issued token w hw
  live token w hw hlive := by
    rw [hd.inflightExecutions]
    exact h.live token w hw hlive
  inflight activityId token hlookup := by
    rw [hd.inflightExecutions] at hlookup
    exact h.inflight activityId token hlookup

theorem Sound.started (h : s.Sound) {activityId : ActivityId} {workspacePath requestId appPath : String}
    {config : RemoteExecutionConfig} {activity : ActivityEvent} {grant : RemoteOperationGrant}
    (hprepares : s.daemon.Prepares activityId workspacePath requestId appPath config activity grant)
    {job : RemoteExecutionJob} (hactivity : job.activity = activity)
    (htoken : job.cancelled = s.daemon.issued) :
    Sound ⟨s.daemon.reserved activityId, s.workers.insert job.cancelled (.new job)⟩ := by
  have hid : (Worker.new job).activityId = activityId := by
    change job.activity.activityId = activityId
    rw [hactivity]
    exact h.keyed activityId activity hprepares.recorded
  have hfresh : ∀ token w, s.workers.lookup token = some w → token ≠ job.cancelled := by
    intro token w hw heq
    have hlt := h.issued token w hw
    rw [heq, htoken] at hlt
    exact Nat.lt_irrefl _ hlt
  constructor
  · exact h.keyed
  · exact h.boundary
  · intro token w hw
    rw [Map.lookup_insert] at hw
    split at hw
    · cases hw
      exact (‹token = job.cancelled›).symm
    · exact h.named token w hw
  · intro token w hw
    change token < s.daemon.issued + 1
    rw [Map.lookup_insert] at hw
    split at hw
    · rw [‹token = job.cancelled›, htoken]
      exact Nat.lt_succ_self _
    · exact Nat.lt_succ_of_lt (h.issued token w hw)
  · intro token w hw hlive
    change (s.daemon.inflightExecutions.insert activityId s.daemon.issued).lookup w.activityId = _
    rw [Map.lookup_insert] at hw
    split at hw
    · cases hw
      rw [hid, Map.lookup_insert_self, ‹token = job.cancelled›, htoken]
    · have hold := h.live token w hw hlive
      rw [Map.lookup_insert_ne, hold]
      intro heq
      rw [heq, hprepares.free] at hold
      cases hold
  · intro other token hlookup
    change (s.daemon.inflightExecutions.insert activityId s.daemon.issued).lookup other = _ at hlookup
    change ∃ w, (s.workers.insert job.cancelled (.new job)).lookup token = some w ∧ _
    rw [Map.lookup_insert] at hlookup
    split at hlookup
    · cases hlookup
      refine ⟨.new job, ?_, ?_, hid.trans (‹other = activityId›).symm⟩
      · rw [← htoken, Map.lookup_insert_self]
      · exact Phase.noConfusion
    · obtain ⟨w, hw, hlive, hother⟩ := h.inflight other token hlookup
      exact ⟨w, by rw [Map.lookup_insert_ne (hfresh token w hw), hw], hlive, hother⟩

omit [Sha256] in
theorem Sound.stepped (h : s.Sound) {w' : Worker} (hw : s.workers.lookup token = some w)
    (hgoes : Worker.Goes w w') (hlive : w.phase ≠ .leaving) (hkeyed : d.dashboard.Keyed)
    (hdone : w.phase = .done → w'.phase = .done) (hd : d = { s.daemon with dashboard := d.dashboard }) :
    Sound ⟨d, s.workers.insert token w'⟩ := by
  have hactivity : w'.activityId = w.activityId :=
    congrArg (fun job => job.activity.activityId) hgoes.job
  have hphase : w'.phase ≠ .done → w.phase ≠ .done := fun hw' hdone' => hw' (hdone hdone')
  have hinflight : d.inflightExecutions = s.daemon.inflightExecutions := by rw [hd]
  constructor
  · exact hkeyed
  · rw [hd]
    exact h.boundary
  · intro other v hv
    rw [Map.lookup_insert] at hv
    split at hv
    · cases hv
      rw [hgoes.job, ‹other = token›]
      exact h.named token w hw
    · exact h.named other v hv
  · intro other v hv
    rw [hd]
    rw [Map.lookup_insert] at hv
    split at hv
    · rw [‹other = token›]
      exact h.issued token w hw
    · exact h.issued other v hv
  · intro other v hv hnot
    rw [hinflight]
    rw [Map.lookup_insert] at hv
    split at hv
    · cases hv
      rw [hactivity, ‹other = token›]
      exact h.live token w hw (hphase hnot)
    · exact h.live other v hv hnot
  · intro activityId other hlookup
    rw [hinflight] at hlookup
    obtain ⟨v, hv, hnot, hid⟩ := h.inflight activityId other hlookup
    by_cases heq : other = token
    · subst heq
      obtain rfl : v = w := Option.some.inj (hv.symm.trans hw)
      refine ⟨w', Map.lookup_insert_self _ _ _, fun hdone' => ?_, hactivity.trans hid⟩
      rcases hgoes.done hdone' with hleaving | hdone''
      · exact hlive hleaving
      · exact hnot hdone''
    · exact ⟨v, by rw [Map.lookup_insert_ne heq, hv], hnot, hid⟩

omit [Sha256] in
theorem Sound.left (h : s.Sound) (hw : s.workers.lookup token = some w) (hphase : w.phase = .leaving) :
    Sound ⟨{ s.daemon with inflightExecutions := s.daemon.inflightExecutions.erase w.activityId },
      s.workers.insert token (w.enter .done)⟩ := by
  have hown : s.daemon.inflightExecutions.lookup w.activityId = some token :=
    h.live token w hw (by rw [hphase]; exact fun heq => by cases heq)
  constructor
  · exact h.keyed
  · exact h.boundary
  · intro other v hv
    rw [Map.lookup_insert] at hv
    split at hv
    · cases hv
      rw [‹other = token›]
      exact h.named token w hw
    · exact h.named other v hv
  · intro other v hv
    rw [Map.lookup_insert] at hv
    split at hv
    · rw [‹other = token›]
      exact h.issued token w hw
    · exact h.issued other v hv
  · intro other v hv hnot
    rw [Map.lookup_insert] at hv
    split at hv
    · cases hv
      exact absurd rfl hnot
    · rename_i hne
      have hlookup := h.live other v hv hnot
      change (s.daemon.inflightExecutions.erase w.activityId).lookup v.activityId = some other
      rw [Map.lookup_erase, if_neg, hlookup]
      intro heq
      rw [heq, hown] at hlookup
      exact hne (Option.some.inj hlookup).symm
  · intro activityId other hlookup
    change (s.daemon.inflightExecutions.erase w.activityId).lookup activityId = some other at hlookup
    rw [Map.lookup_erase] at hlookup
    split at hlookup
    · cases hlookup
    · rename_i hne
      obtain ⟨v, hv, hnot, hid⟩ := h.inflight activityId other hlookup
      refine ⟨v, ?_, hnot, hid⟩
      change (s.workers.insert token (w.enter .done)).lookup other = some v
      rw [Map.lookup_insert_ne, hv]
      intro heq
      rw [heq, hw] at hv
      exact hne (by rw [← hid, ← Option.some.inj hv])

theorem keyed_moved {d' : DaemonState} (h : d.dashboard.Keyed) (hmoved : w.Moved d d') :
    d'.dashboard.Keyed := by
  cases hmoved with
  | kept => exact h
  | observed | lost => exact keyed_next h _
  | left => exact h

theorem sound_startRemoteExecution (h : s.Sound) (activityId : ActivityId)
    (workspacePath requestId appPath : String) :
    (s.startRemoteExecution activityId workspacePath requestId appPath).Sound := by
  rcases DaemonState.exec_prepareRemoteExecution h.boundary activityId workspacePath requestId appPath
    with ⟨e, hexec⟩ | ⟨config, activity, grant, hprepares, hexec⟩
  · rw [startRemoteExecution, hexec]
    exact h
  · rw [startRemoteExecution, hexec]
    exact h.started hprepares rfl rfl

theorem sound_handle (h : s.Sound) (request : LocalRequest) (c : Circumstances) :
    (s.handle request c).Sound := by
  cases request with
  | startRemoteExecution activityId workspacePath requestId appPath =>
    exact sound_startRemoteExecution h activityId workspacePath requestId appPath
  | _ => exact h.handled (DaemonState.handled_handleAuthorized _ _)

theorem sound_stepWorker (h : s.Sound) (token : Token) (o : Outside) : (s.stepWorker token o).Sound := by
  rw [stepWorker]
  cases hw : s.workers.lookup token with
  | none => exact h
  | some w =>
    change Sound ⟨(w.step o s.daemon).1, s.workers.insert token (w.step o s.daemon).2⟩
    have hmoved : w.Moved s.daemon (w.step o s.daemon).1 := Worker.moved_step o
    have hgoes := Worker.goes_step o s.daemon w
    by_cases hleaving : w.phase = .leaving
    · rw [Worker.step_of_leaving hleaving]
      exact h.left hw hleaving
    · have hdone : w.phase = .done → (w.step o s.daemon).2.phase = .done := by
        intro hphase
        rw [Worker.step_of_done hphase]
        exact hphase
      generalize (w.step o s.daemon).1 = d at hmoved ⊢
      refine h.stepped hw hgoes hleaving (keyed_moved h.keyed hmoved) hdone ?_
      cases hmoved with
      | kept | observed | lost => rfl
      | left hphase => exact absurd hphase hleaving

/-- **Workers and executions in flight belong together, whatever happens.** -/
theorem sound_next (h : s.Sound) (input : Input) : (s.next input).Sound := by
  cases input with
  | request request c => exact sound_handle h request c
  | worker token o => exact sound_stepWorker h token o

theorem sound_run (h : s.Sound) (inputs : List Input) : (run inputs s).Sound := by
  induction inputs generalizing s with
  | nil => exact h
  | cons input inputs ih => exact ih (sound_next h input)

/-- A daemon whose service has just been enabled, before any request. -/
structure Fresh (s : System) : Prop where
  started : s.daemon.dashboard.Started
  remoteAccessPaused : s.daemon.remoteAccessPaused = false
  boundary : s.daemon.hasRemoteExecutionBoundary = s.daemon.remoteExecution.isSome
  inflightExecutions : s.daemon.inflightExecutions = ∅
  workers : s.workers = ∅

theorem Fresh.keyed (h : s.Fresh) : s.daemon.dashboard.Keyed := by
  intro id event hlookup
  have hreachable : s.daemon.dashboard.Reachable := ⟨_, [], h.started, rfl⟩
  exact (DashboardService.soundActivities_of_reachable hreachable id event hlookup).1

theorem Fresh.sound (h : s.Fresh) : s.Sound where
  keyed := h.keyed
  boundary := h.boundary
  named token w hw := by
    rw [h.workers] at hw
    cases hw
  issued token w hw := by
    rw [h.workers] at hw
    cases hw
  live token w hw := by
    rw [h.workers] at hw
    cases hw
  inflight activityId token hlookup := by
    rw [h.inflightExecutions] at hlookup
    cases hlookup

end System

end Daemon
