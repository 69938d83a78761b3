/-
**Pausing remote access.**

Whether remote access is paused is kept twice, by the daemon for what it tells about itself and by the
service for what it admits. The older request to pause sets the one and not the other, a restart restores
the other and not the one, and the preparation of an execution looks at neither.

Main definitions:

* `Daemon.System.Agrees` — the two flags are the same.

Main results:

* `Daemon.System.pauses_of_run` — **where all steps keep to the pause, it is one**.
-/

import DeviceLane.Daemon.Approved

open Effect

/-! ### The flag of the service -/

namespace Dashboard.DashboardService

variable [Sha256] {s : DashboardService}

variable {nowMs : ℕ} {outcome : Except (Fault DashboardServiceError) Unit} {s' : DashboardService}
  {existing : ExistingJobs} {hash : HashOrder ActivityId} {access : AccessRequest}

def SamePaused (s s' : DashboardService) : Prop := s'.paused = s.paused

instance : Std.Refl SamePaused := ⟨fun _ => rfl⟩

instance : IsTrans DashboardService SamePaused where
  trans _ _ _ h h' := Eq.trans h' h

theorem fullMoves_samePaused : FullMoves SamePaused where
  appendAudit record := (sameCore_appendAudit record).mono fun _ _ h => h.paused
  recordActivity event key := (sameCore_recordActivity event key).mono fun _ _ h => h.paused
  persistState activities := (sameCore_persistState activities).mono fun _ _ h => h.paused
  deleteAudit _ _ _ := rfl
  unhealthy _ := rfl
  adminGrants _ _ := rfl
  rules _ _ := rfl
  subscribers _ _ := rfl
  core _ _ _ _ := rfl

/-- The authorization and the first audit record, before the flag is set. -/
abbrev announce (operation announced : OperationId) (nowMs : ℕ) : ServiceEff Unit := do
  authorizeAdmin operation .deviceLaneService none nowMs
  auditLocal announced .attempted nowMs

/-- **The flag after a call that sets it.**  Where the rest of the call does not fail when it sets the flag
to what it is already, a call that fails leaves it alone. -/
theorem paused_of_set {operation announced : OperationId} {value : Bool} {rest : ServiceEff Unit}
    (hfails : FailsWithin (Sets !value) rest)
    (hkeeps : ∀ s, (rest.exec s).1 = .ok () → SameControls s (rest.exec s).2)
    (hset : s.paused = value → ∀ s₁, (announce operation announced nowMs).exec s = (.ok (), s₁) →
      (rest.exec { s₁ with paused := value }).1 = .ok ())
    (hexec : (announce operation announced nowMs >>= fun _ => do
      modify fun s => { s with paused := value }
      rest).exec s = (outcome, s')) :
    (outcome = .ok () ∧ s'.paused = value) ∨ ((∃ e, outcome = .error e) ∧ s'.paused = s.paused) := by
  have hsame := within_announce operation announced nowMs s
  rcases hannounced : (announce operation announced nowMs).exec s with ⟨first, s₁⟩
  rw [hannounced] at hsame
  cases first with
  | error fault =>
    rw [exec_bind_error hannounced] at hexec
    cases hexec
    exact .inr ⟨⟨fault, rfl⟩, hsame.paused⟩
  | ok u =>
    rw [exec_bind_ok hannounced, exec_bind_ok (exec_modify _ _)] at hexec
    cases outcome with
    | ok =>
      have hkept := hkeeps _ (congrArg Prod.fst hexec)
      rw [hexec] at hkept
      exact .inl ⟨rfl, hkept.paused⟩
    | error e =>
      refine .inr ⟨⟨e, rfl⟩, ?_⟩
      have hsets := (hfails _ e (congrArg Prod.fst hexec)).1
      rw [hexec] at hsets
      -- The flag has been set back, which is to what it was.
      by_cases hvalue : s.paused = value
      · have hok := hset hvalue s₁ hannounced
        rw [hexec] at hok
        cases hok
      · rw [hsets]
        exact (Bool.eq_not_of_ne hvalue).symm

def publishPause (existing : ExistingJobs) (hash : HashOrder ActivityId) (nowMs : ℕ) :
    ServiceEff Unit := do
  let s ← get
  if existing = .cancel then
    cancelAll nowMs (hash.order s.activities.keys)
  appendLocalEvent remoteAccessPause nowMs

def WritesPause (s : DashboardService) (existing : ExistingJobs) (hash : HashOrder ActivityId)
    (nowMs : ℕ) : Prop :=
  s.paused = true → ∀ s₁, (announce servicePause remoteAccessPause nowMs).exec s = (.ok (), s₁) →
    ((publishPause existing hash nowMs).exec { s₁ with paused := true }).1 = .ok ()

def WritesResume (s : DashboardService) (nowMs : ℕ) : Prop :=
  s.paused = false →
    ∀ s₁, (announce ⟨"devicelane.service.resume", idText_serviceResume⟩ remoteAccessResume nowMs).exec s
      = (.ok (), s₁) →
        ((appendLocalEvent remoteAccessResume nowMs).exec { s₁ with paused := false }).1 = .ok ()

abbrev endPause (existing : ExistingJobs) (hash : HashOrder ActivityId) (nowMs : ℕ) :
    ServiceEff Unit := do
  let s ← get
  if existing = .cancel then
    publishPaused remoteAccessPause (cancelAll nowMs (hash.order s.activities.keys)) false nowMs
  publishPaused remoteAccessPause (appendLocalEvent remoteAccessPause nowMs) false nowMs

theorem endPause_ok (h : ((publishPause existing hash nowMs).exec s).1 = .ok ()) :
    ((endPause existing hash nowMs).exec s).1 = .ok () := by
  have hlast : ∀ s₁, ((appendLocalEvent remoteAccessPause nowMs).exec s₁).1 = .ok () →
      ((publishPaused remoteAccessPause (appendLocalEvent remoteAccessPause nowMs) false
        nowMs).exec s₁).1 = .ok () := fun s₁ hok =>
    congrArg Prod.fst (exec_publishPaused_ok (Prod.ext hok rfl))
  rw [publishPause, exec_bind_ok (exec_get s)] at h
  rw [endPause, exec_bind_ok (exec_get s)]
  cases existing with
  | finish => exact hlast s h
  | cancel =>
    simp only [if_pos] at h ⊢
    rcases hcancelled : (cancelAll nowMs (hash.order s.activities.keys)).exec s with ⟨outcome, s₁⟩
    cases outcome with
    | error =>
      rw [exec_bind_error hcancelled] at h
      cases h
    | ok =>
      rw [exec_bind_ok hcancelled] at h
      rw [exec_bind_ok (exec_publishPaused_ok hcancelled)]
      exact hlast s₁ h

theorem sameControls_endPause (s : DashboardService)
    (hok : ((endPause existing hash nowMs).exec s).1 = .ok ()) :
    SameControls s ((endPause existing hash nowMs).exec s).2 := by
  rw [endPause, exec_bind_ok (exec_get s)] at hok ⊢
  cases existing with
  | finish => exact sameControls_publishPaused (writes_sameCore.appendLocalEvent _ _) hok
  | cancel =>
    simp only [if_pos] at hok ⊢
    have hfirst : ((publishPaused remoteAccessPause (cancelAll nowMs (hash.order s.activities.keys))
        false nowMs).exec s).1 = .ok () →
        SameControls s ((publishPaused remoteAccessPause
          (cancelAll nowMs (hash.order s.activities.keys)) false nowMs).exec s).2 :=
      sameControls_publishPaused (writes_sameCore.cancelAll _ _)
    rcases hpublished : (publishPaused remoteAccessPause
      (cancelAll nowMs (hash.order s.activities.keys)) false nowMs).exec s with ⟨outcome, s₁⟩
    rw [hpublished] at hfirst
    cases outcome with
    | error =>
      rw [exec_bind_error hpublished] at hok
      cases hok
    | ok =>
      rw [exec_bind_ok hpublished] at hok ⊢
      exact IsTrans.trans _ _ _ (hfirst rfl)
        (sameControls_publishPaused (writes_sameCore.appendLocalEvent _ _) hok)

/-- **The flag after a pause**: it is set, or the pause has failed and it is as it was. -/
theorem paused_of_pause (hwrites : s.WritesPause existing hash nowMs)
    (hexec : (pause existing hash nowMs).exec s = (outcome, s')) :
    (outcome = .ok () ∧ s'.paused = true) ∨ ((∃ e, outcome = .error e) ∧ s'.paused = s.paused) := by
  have hprogram : pause existing hash nowMs = (announce servicePause remoteAccessPause nowMs >>=
      fun _ => do
        modify fun s => { s with paused := true }
        endPause existing hash nowMs) := (bind_assoc _ _ _).symm
  rw [hprogram] at hexec
  have hfails : FailsWithin (Sets !true) (endPause existing hash nowMs) := fails_pause _ _ _
  exact paused_of_set hfails sameControls_endPause
    (fun hpaused s₁ hannounced => endPause_ok (hwrites hpaused s₁ hannounced)) hexec

/-- **The flag after a resumption**: it is clear, or the resumption has failed and it is as it was. -/
theorem paused_of_resume (hwrites : s.WritesResume nowMs)
    (hexec : (resume nowMs).exec s = (outcome, s')) :
    (outcome = .ok () ∧ s'.paused = false) ∨ ((∃ e, outcome = .error e) ∧ s'.paused = s.paused) := by
  have hprogram : resume nowMs =
      (announce ⟨"devicelane.service.resume", idText_serviceResume⟩ remoteAccessResume nowMs >>=
        fun _ => do
          modify fun s => { s with paused := false }
          publishPaused remoteAccessResume (appendLocalEvent remoteAccessResume nowMs) true nowMs) :=
    (bind_assoc _ _ _).symm
  rw [hprogram] at hexec
  have hfails : FailsWithin (Sets !false)
      (publishPaused remoteAccessResume (appendLocalEvent remoteAccessResume nowMs) true nowMs) :=
    fails_publishPaused _ (writes_sameCore.appendLocalEvent _ _) _ _
  refine paused_of_set hfails
    (fun s => sameControls_publishPaused (writes_sameCore.appendLocalEvent _ _))
    (fun hpaused s₁ hannounced => ?_) hexec
  exact congrArg Prod.fst (exec_publishPaused_ok (Prod.ext (hwrites hpaused s₁ hannounced) rfl))

/-! ### What the service refuses -/

/-- **A paused service takes no request** but the one to resume. -/
theorem exec_requestApproval_paused (hpaused : s.paused = true)
    (haccess : isLocalResume s.localHostId access = false) (lifetimeMs nowMs : ℕ) (random : ℕ → Digest) :
    (requestApproval access lifetimeMs nowMs random).exec s = (.error (.returned .permissionDenied), s) := by
  rw [requestApproval, exec_bind_ok (exec_get s), exec_throwIf_bind, if_pos (.inl ⟨hpaused, haccess⟩)]

/-- **Nor a decision about another one.** -/
theorem exec_decideApproval_paused (hpaused : s.paused = true)
    (haccess : isLocalResume s.localHostId access = false) (nonce : String)
    (session : AuthenticatedTargetSession) (decision : ApprovalDecision) (nowMs : ℕ) :
    (decideApproval nonce session access decision nowMs).exec s
      = (.error (.returned .permissionDenied), s) := by
  rw [decideApproval, exec_bind_ok (exec_get s), exec_throwIf_bind, if_pos ⟨hpaused, haccess⟩]

theorem exec_decidePendingApproval_paused (hpaused : s.paused = true) {approvalId : ApprovalId}
    {pending : Pending} (hpending : s.pending.lookup approvalId = some pending)
    (haccess : isLocalResume s.localHostId pending.access = false)
    (session : AuthenticatedTargetSession) (decision : ApprovalDecision) (nowMs : ℕ) :
    (decidePendingApproval approvalId session decision nowMs).exec s
      = (.error (.returned .permissionDenied), s) := by
  rw [decidePendingApproval, exec_bind_ok (exec_get s), hpending, exec_okOr_some_bind]
  exact exec_decideApproval_paused hpaused haccess _ _ _ _

omit [Sha256] in
theorem isLocalResume_of_remote {host : HostId} (hremote : access.sourceHostId ≠ host) :
    isLocalResume host access = false := by
  simp [isLocalResume, hremote]

end Dashboard.DashboardService

/-! ### The two flags -/

namespace Daemon

open Dashboard DashboardService

variable [Sha256]

omit [Sha256] in
theorem LocalRequest.Calls.setsPause {c : Circumstances} {session : AuthenticatedTargetSession}
    {request : LocalRequest} {call : ServiceCall} (h : request.Calls c session call)
    (hrequest : request.setsPause = false) : call.setsPause = false := by
  cases h <;> first | rfl | cases hrequest

theorem paused_next {call : ServiceCall} (hcall : call.setsPause = false) (s : DashboardService) :
    (call.next s).paused = s.paused :=
  fullMoves_samePaused.program hcall s

namespace DaemonState

variable {d : DaemonState}

/-- What the daemon tells about the pause is what the service keeps to. -/
def Agrees (d : DaemonState) : Prop := d.remoteAccessPaused = d.dashboard.paused

omit [Sha256] in
theorem agrees_of_call (hagrees : d.Agrees) {m : ServiceEff Unit} {value : Bool}
    (hm : ∀ outcome s', m.exec d.dashboard = (outcome, s') →
      (outcome = .ok () ∧ s'.paused = value) ∨
        ((∃ e, outcome = .error e) ∧ s'.paused = d.dashboard.paused)) :
    ((do
      onDashboard m
      modify fun d => { d with remoteAccessPaused := value }
      pure .acknowledged : DaemonEff LocalResponse).exec d).2.Agrees := by
  rcases hexec : m.exec d.dashboard with ⟨outcome, s'⟩
  rcases hm outcome s' hexec with ⟨rfl, hpaused⟩ | ⟨⟨e, rfl⟩, hpaused⟩
  · rw [exec_bind_ok (exec_onDashboard_ok hexec)]
    exact hpaused.symm
  · have hcalled : (onDashboard m).exec d = (.error (mapDashboardFault e), { d with dashboard := s' }) := by
      rw [exec_onDashboard, hexec]
      rfl
    rw [exec_bind_error hcalled]
    exact hagrees.trans hpaused.symm

theorem agrees_of_handled (hagrees : d.Agrees) {c : Circumstances} {session : AuthenticatedTargetSession}
    {request : LocalRequest} (hrequest : request.setsPause = false) {d' : DaemonState}
    (h : Handled c session request d d') : d'.Agrees := by
  rw [Agrees, h.remoteAccessPaused hrequest]
  rcases h.dashboard with hsame | ⟨call, hcalls, hcalled⟩
  · rw [hsame]
    exact hagrees
  · rw [hcalled, paused_next (hcalls.setsPause hrequest)]
    exact hagrees

/-! ### What the daemon refuses -/

omit [Sha256] in
theorem isError_onDashboard {α : Type} {m : ServiceEff α} {f : α → DaemonEff LocalResponse}
    {fault : Fault DashboardServiceError} {s' : DashboardService}
    (hm : m.exec d.dashboard = (.error fault, s')) :
    ∃ e, ((onDashboard m >>= f).exec d).1 = .error e := by
  have hcalled : (onDashboard m).exec d
      = (.error (mapDashboardFault fault), { d with dashboard := s' }) := by
    rw [exec_onDashboard, hm]
    rfl
  exact ⟨_, congrArg Prod.fst (exec_bind_error hcalled)⟩

theorem isError_refuseOffline (access : AccessRequest) (nowMs : ℕ) :
    ∃ e, ((refuseOffline access nowMs).exec d).1 = .error e := by
  rw [refuseOffline, exec_bind]
  cases ((onDashboard (DashboardService.recordPreapprovalTargetOffline access nowMs)).exec d).1 with
  | ok => exact ⟨_, rfl⟩
  | error e => exact ⟨e, rfl⟩

variable {access : AccessRequest} {c : Circumstances}

theorem isError_requestApproval (hpaused : d.dashboard.paused = true)
    (hremote : access.sourceHostId ≠ d.dashboard.localHostId)
    (session : AuthenticatedTargetSession) (lifetimeMs : ℕ) :
    ∃ e, ((requestApproval access lifetimeMs c session).exec d).1 = .error e := by
  rw [requestApproval, exec_bind_ok (exec_get d), exec_throwIf_bind]
  split
  · exact ⟨_, rfl⟩
  rw [exec_ite]
  split
  · exact isError_refuseOffline _ _
  rw [exec_throwIf_bind]
  split
  · exact ⟨_, rfl⟩
  · exact isError_onDashboard
      (exec_requestApproval_paused hpaused (isLocalResume_of_remote hremote) _ _ _)

theorem isError_requestAuthenticatedApproval (hpaused : d.dashboard.paused = true)
    (hremote : access.sourceHostId ≠ d.dashboard.localHostId) (hvouched : c.vouchedFor = some access)
    (session : AuthenticatedTargetSession) (lifetimeMs : ℕ) :
    ∃ e, ((requestAuthenticatedApproval lifetimeMs c session).exec d).1 = .error e := by
  rw [requestAuthenticatedApproval, exec_bind_ok (exec_get d), exec_throwIf_bind]
  split
  · exact ⟨_, rfl⟩
  rw [hvouched, exec_okOr_some_bind, exec_throwIf_bind]
  split
  · exact ⟨_, rfl⟩
  rw [exec_ite]
  split
  · exact isError_onDashboard
      (exec_requestApproval_paused hpaused (isLocalResume_of_remote hremote) _ _ _)
  · exact isError_refuseOffline _ _

end DaemonState

namespace System

variable {s : System}

variable {input : Input}

/-- The flags agree, whoever sees them. -/
def Agrees (s : System) : Prop := s.daemon.Agrees

def Creates (s : System) (access : AccessRequest) : Input → Prop
  | .request (.requestApproval asked lifetimeMs) c => asked = access ∧ ∃ challenge,
      ((DaemonState.handleAuthorized (.requestApproval asked lifetimeMs) c s.daemon.session).exec
        s.daemon).1 = .ok (.approvalCreated challenge)
  | .request (.requestAuthenticatedApproval lifetimeMs) c => c.vouchedFor = some access ∧ ∃ challenge,
      ((DaemonState.handleAuthorized (.requestAuthenticatedApproval lifetimeMs) c s.daemon.session).exec
        s.daemon).1 = .ok (.approvalCreated challenge)
  | _ => False

/-- What a pause has to hold up: approvals are created for nobody from elsewhere, none of theirs is let
through, and nothing is started. -/
structure HoldsUp (s : System) (input : Input) : Prop where
  created : ∀ access, s.Creates access input →
    access.sourceHostId = s.daemon.dashboard.localHostId
  allowed : ∀ access, s.Allows access input → access.sourceHostId = s.daemon.dashboard.localHostId
  started : ∀ job, ¬s.Starts job input

/-- The flags agree in every state of a run, and where they are set the next step is held up. -/
structure Pauses (inputs : List Input) (s : System) : Prop where
  agrees : Runs.Always next Agrees inputs s
  holdsUp : ∀ before input after, inputs = before ++ input :: after →
    (run before s).daemon.remoteAccessPaused = true → (run before s).HoldsUp input

/-- The steps that keep to the pause. -/
def KeepsPause (s : System) : Input → Prop
  | .request .pauseRemoteAccess _ => s.daemon.dashboard.paused = true
  | .request (.pauseRemoteAccessWithJobs existingJobs) c =>
    s.daemon.dashboard.WritesPause existingJobs c.hash c.nowMs
  | .request .resumeRemoteAccess c => s.daemon.dashboard.WritesResume c.nowMs
  | .request (.startRemoteExecution activityId workspacePath requestId appPath) _ =>
    s.daemon.dashboard.paused = true → validRemoteComponent workspacePath = true →
      validRemoteComponent appPath = true → validRemoteIdentifier requestId = true →
        ∀ config activity grant,
          ¬s.daemon.Prepares activityId workspacePath requestId appPath config activity grant
  | _ => True

theorem agrees_handle (hsound : s.Sound) (hagrees : s.Agrees) {request : LocalRequest}
    {c : Circumstances} (hkeeps : s.KeepsPause (.request request c)) : (s.handle request c).Agrees := by
  have hhandled : DaemonState.Handled c s.daemon.session request s.daemon _ :=
    DaemonState.handled_handleAuthorized request s.daemon
  cases request with
  | pauseRemoteAccess => exact hkeeps.symm
  | resumeRemoteAccess =>
    exact DaemonState.agrees_of_call hagrees fun _ _ => paused_of_resume hkeeps
  | pauseRemoteAccessWithJobs =>
    exact DaemonState.agrees_of_call hagrees fun _ _ => paused_of_pause hkeeps
  | startRemoteExecution activityId workspacePath requestId appPath =>
    rcases DaemonState.exec_prepareRemoteExecution hsound.boundary activityId workspacePath requestId
      appPath with ⟨e, hexec⟩ | ⟨config, activity, grant, -, hexec⟩
    all_goals
      change (s.startRemoteExecution _ _ _ _).Agrees
      rw [startRemoteExecution, hexec]
      exact hagrees
  | _ => exact DaemonState.agrees_of_handled hagrees rfl hhandled

theorem agrees_next (hsound : s.Sound) (hagrees : s.Agrees) (hkeeps : s.KeepsPause input) :
    (s.next input).Agrees := by
  cases input with
  | request => exact agrees_handle hsound hagrees hkeeps
  | worker token o =>
    change (s.stepWorker token o).Agrees
    rw [stepWorker]
    cases hw : s.workers.lookup token with
    | none => exact hagrees
    | some w =>
      change (w.step o s.daemon).1.Agrees
      have hmoved := Worker.moved_step (w := w) (d := s.daemon) o
      generalize (w.step o s.daemon).1 = d at hmoved ⊢
      cases hmoved with
      | kept => exact hagrees
      | observed | lost => exact hagrees.trans (paused_next rfl _).symm
      | left => exact hagrees

theorem source_of_creates (hpaused : s.daemon.dashboard.paused = true) {access : AccessRequest}
    (hcreates : s.Creates access input) : access.sourceHostId = s.daemon.dashboard.localHostId := by
  by_contra hremote
  cases input with
  | worker => exact hcreates
  | request request c =>
    cases request with
    | requestApproval asked lifetimeMs =>
      obtain ⟨rfl, challenge, hok⟩ := hcreates
      obtain ⟨e, herror⟩ := DaemonState.isError_requestApproval (c := c) hpaused hremote
        s.daemon.session lifetimeMs
      rw [DaemonState.handleAuthorized, herror] at hok
      cases hok
    | requestAuthenticatedApproval lifetimeMs =>
      obtain ⟨hvouched, challenge, hok⟩ := hcreates
      obtain ⟨e, herror⟩ := DaemonState.isError_requestAuthenticatedApproval hpaused hremote
        hvouched s.daemon.session lifetimeMs
      rw [DaemonState.handleAuthorized, herror] at hok
      cases hok
    | _ => exact hcreates

theorem source_of_allows (hpaused : s.daemon.dashboard.paused = true) {access : AccessRequest}
    (hallows : s.Allows access input) : access.sourceHostId = s.daemon.dashboard.localHostId := by
  by_contra hremote
  have hresume := isLocalResume_of_remote hremote
  cases input with
  | worker => exact hallows
  | request request c =>
    cases request with
    | decideApproval nonce asked decision =>
      obtain ⟨rfl, hthrough⟩ := hallows
      obtain ⟨createdRule, hok⟩ := hthrough.answered
      obtain ⟨e, herror⟩ := DaemonState.isError_onDashboard
        (f := fun createdRule => pure (.approvalDecided decision createdRule))
        (exec_decideApproval_paused hpaused hresume nonce s.daemon.session decision c.nowMs)
      rw [DaemonState.handleAuthorized, herror] at hok
      cases hok
    | decidePendingApproval approvalId decision =>
      obtain ⟨_, hpending, rfl, hthrough⟩ := hallows
      obtain ⟨createdRule, hok⟩ := hthrough.answered
      obtain ⟨e, herror⟩ := DaemonState.isError_onDashboard
        (f := fun createdRule => pure (.approvalDecided decision createdRule))
        (exec_decidePendingApproval_paused hpaused hpending hresume s.daemon.session decision
          c.nowMs)
      rw [DaemonState.handleAuthorized, herror] at hok
      cases hok
    | _ => exact hallows

theorem not_starts_of_keeps (hsound : s.Sound) (hpaused : s.daemon.dashboard.paused = true)
    (hkeeps : s.KeepsPause input) (job : RemoteExecutionJob) : ¬s.Starts job input := by
  intro hstarts
  cases input with
  | worker => exact hstarts
  | request request =>
    cases request with
    | startRemoteExecution activityId workspacePath requestId appPath =>
      rw [Starts] at hstarts
      rcases DaemonState.exec_prepareRemoteExecution hsound.boundary activityId workspacePath
        requestId appPath with ⟨e, hexec⟩ | ⟨config, activity, grant, hprepares, -⟩
      · rw [hexec] at hstarts
        cases hstarts
      · -- It has been prepared, so its arguments are valid.
        rw [DaemonState.prepareRemoteExecution] at hstarts
        obtain ⟨hvalid, -⟩ := exec_throwIf_inv (Prod.ext hstarts rfl)
        rw [not_or, not_or, Bool.not_eq_false, Bool.not_eq_false, Bool.not_eq_false] at hvalid
        exact hkeeps hpaused hvalid.1 hvalid.2.1 hvalid.2.2 config activity grant hprepares
    | _ => exact hstarts

/-- **What the service is paused for is held up**, in a step that keeps to the pause. -/
theorem holdsUp_of_keeps (hsound : s.Sound) (hpaused : s.daemon.dashboard.paused = true)
    (hkeeps : s.KeepsPause input) : s.HoldsUp input :=
  ⟨fun _ => source_of_creates hpaused, fun _ => source_of_allows hpaused,
    not_starts_of_keeps hsound hpaused hkeeps⟩

/-- **Where all steps keep to the pause, it is one**: the flags agree, and what is asked for, let through
or started while they are set is not from elsewhere, or is not done. -/
theorem pauses_of_run (hfresh : s.Fresh) (hagrees : s.Agrees) {inputs : List Input}
    (hinputs : Runs.AllSteps next KeepsPause inputs s) : Pauses inputs s := by
  have halways : Runs.Always next (fun s => s.Sound ∧ s.Agrees) inputs s :=
    hinputs.always (fun s input h hkeeps => ⟨sound_next h.1 input, agrees_next h.1 h.2 hkeeps⟩)
      ⟨hfresh.sound, hagrees⟩
  refine ⟨fun before after happend => (halways before after happend).2,
    fun before input after happend hpaused => ?_⟩
  obtain ⟨hsound, hagrees'⟩ := halways before (input :: after) happend
  rw [happend, Runs.allSteps_append, Runs.AllSteps] at hinputs
  exact holdsUp_of_keeps hsound (hagrees'.symm.trans hpaused) hinputs.2.1

/-! ### A pause that the service does not know of -/

/-- In every run of a daemon whose service has been restored, a pause is one. -/
def AlwaysPauses : Prop := ∀ (s : System) (inputs : List Input), s.Fresh → Pauses inputs s

omit [Sha256] in
/-- The older request to pause sets one flag only. -/
theorem not_alwaysPauses : ¬∃ _ : Sha256, AlwaysPauses := by
  rintro ⟨_, halways⟩
  have hpauses := halways sampleSystem [.request .pauseRemoteAccess sampleCircumstances]
    fresh_sampleSystem
  cases hpauses.agrees.last

omit [Sha256] in
/-- A pause of the service, and a request that it refuses. -/
theorem samplePause_pauses : letI := EventJournal.eventHash
    Pauses [.request (.pauseRemoteAccessWithJobs .finish) sampleCircumstances,
      .request (.requestApproval (sampleAccess ⟨"phone", idText_phone⟩) 1000) sampleCircumstances]
        sampleSystem := by
  let _ := EventJournal.eventHash
  exact pauses_of_run fresh_sampleSystem rfl
    ⟨fun hpaused => (by cases hpaused), trivial, trivial⟩

end System

end Daemon
