/-
**Approved executions.**

An execution is started from a queued record, and a record is queued where the local user has let an access
through. What keeps an execution from being started again is that its record goes on, or that it is still
in flight. Neither holds of a worker that leaves while its record is as it was.

Main definitions:

* `Daemon.System.Starts`, `Daemon.System.Allows` — an execution is started, an access is let through.

Main results:

* `Daemon.System.queued_next` — **a record that has become queued was let through by that step**;
* `Daemon.System.approved_of_run` — **where the workers that leave have moved their records, what is started
  has been approved**.
-/

import DeviceLane.Daemon.System
import DeviceLane.Dashboard.ServiceEnds
import DeviceLane.Dashboard.ServiceStates

namespace Daemon

open Dashboard Effect DashboardService

structure RemoteExecutionJob.Carries [Sha256] (job : RemoteExecutionJob) (access : AccessRequest) :
    Prop where
  activityId : access.activityId = job.activity.activityId
  digest : ∃ grant, RemoteOperationGrant.new job.requestId job.workspacePath job.activity.deviceId
      (.installApp job.appPath) = .ok grant ∧
    access.remoteOperation.map RemoteOperationGrant.canonicalSha256 = some grant.canonicalSha256

namespace DaemonState

variable [Sha256] {d : DaemonState}

variable {id : ActivityId} {record : ActivityEvent} {access : AccessRequest}
  {decision : ApprovalDecision} {nonce : String} {nowMs : ℕ}

/-- The local user lets an access through: the nonce is good for the decision, and the answer is that it
has been taken. -/
structure LetsThrough (d : DaemonState) (nonce : String) (access : AccessRequest)
    (decision : ApprovalDecision) (request : LocalRequest) (c : Circumstances) : Prop where
  effect : decision.effect = .allow
  takes : d.dashboard.TakesDecision nonce d.session access decision c.nowMs
  answered : ∃ createdRule,
    ((handleAuthorized request c d.session).exec d).1 = .ok (.approvalDecided decision createdRule)

/-! ### Records that become queued -/

theorem queued_of_next (hkeyed : d.dashboard.Keyed) {call : ServiceCall}
    (hcall : .queued ∉ call.states)
    (hlookup : (call.next d.dashboard).activities.lookup id = some record)
    (hqueued : record.state = .queued) : d.dashboard.activities.lookup id = some record := by
  have hkept := (DashboardService.puts_next hkeyed call).keeps
    (I := fun activities => ∀ record, activities.lookup id = some record → record.state = .queued →
      d.dashboard.activities.lookup id = some record)
    (fun activities event hold hput record hlookup hqueued => by
      rw [Map.lookup_insert] at hlookup
      split at hlookup
      · cases hlookup
        exact absurd (hqueued ▸ ServiceCall.state_mem_of_puts hput) hcall
      · exact hold record hlookup hqueued)
    (fun record hlookup _ => hlookup)
  exact hkept record hlookup hqueued

theorem allowed_of_decisionPut {s : DashboardService} {session : AuthenticatedTargetSession}
    {current : Option ActivityEvent} {event : ActivityEvent}
    (hput : s.DecisionPut nonce session access decision nowMs current event)
    (hqueued : event.state = .queued) :
    decision.effect = .allow ∧ s.TakesDecision nonce session access decision nowMs ∧
      event.About access := by
  cases hput with
  | decided _ _ _ htakes habout _ hstate =>
    rw [hstate] at hqueued
    split at hqueued
    · cases hqueued
    · rename_i hallowed
      refine ⟨?_, htakes, habout⟩
      cases heffect : decision.effect with
      | allow => rfl
      | deny => exact absurd heffect hallowed
  | expired _ _ _ _ _ _ _ hstate =>
    rw [hstate] at hqueued
    cases hqueued

theorem queued_of_decisionPut {s s' : DashboardService} {session : AuthenticatedTargetSession}
    (hputs : DashboardService.Puts (s.DecisionPut nonce session access decision nowMs) s s')
    (hlookup : s'.activities.lookup id = some record) (hqueued : record.state = .queued) :
    s.activities.lookup id = some record ∨
      (decision.effect = .allow ∧ s.TakesDecision nonce session access decision nowMs ∧
        record.About access) := by
  have hkept := hputs.keeps
    (I := fun activities => ∀ record, activities.lookup id = some record → record.state = .queued →
      s.activities.lookup id = some record ∨
        (decision.effect = .allow ∧ s.TakesDecision nonce session access decision nowMs ∧
          record.About access))
    (fun activities event hold hput record hlookup hqueued => by
      rw [Map.lookup_insert] at hlookup
      split at hlookup
      · cases hlookup
        exact .inr (allowed_of_decisionPut hput hqueued)
      · exact hold record hlookup hqueued)
    (fun record hlookup _ => .inl hlookup)
  exact hkept record hlookup hqueued

theorem queued_of_decide (hkeyed : d.dashboard.Keyed) {m : ServiceEff (Option PolicyRule)}
    (hm : m.exec d.dashboard
      = (DashboardService.decideApproval nonce d.session access decision nowMs).exec d.dashboard)
    (hlookup : ((onDashboard m >>= fun createdRule =>
      pure (LocalResponse.approvalDecided decision createdRule) : DaemonEff LocalResponse).exec
        d).2.dashboard.activities.lookup id = some record) (hqueued : record.state = .queued) :
    d.dashboard.activities.lookup id = some record ∨
      (decision.effect = .allow ∧ d.dashboard.TakesDecision nonce d.session access decision nowMs ∧
        (∃ createdRule, ((onDashboard m >>= fun createdRule =>
          pure (LocalResponse.approvalDecided decision createdRule) : DaemonEff LocalResponse).exec d).1
            = .ok (.approvalDecided decision createdRule)) ∧
        record.About access) := by
  rw [exec_onDashboard_bind m fun _ _ => rfl, hm] at hlookup
  rcases queued_of_decisionPut (DashboardService.puts_decideApproval hkeyed _ _ _ _ _) hlookup hqueued
    with hkept | ⟨heffect, htakes, habout⟩
  · exact .inl hkept
  have hkeeps := DashboardService.keepsQueue_decideApproval nonce d.session access decision nowMs
    d.dashboard
  rw [exec_bind, exec_onDashboard, hm]
  revert hlookup hkeeps
  generalize (DashboardService.decideApproval nonce d.session access decision nowMs).exec d.dashboard
    = result
  intro hlookup hkeeps
  obtain ⟨outcome, _⟩ := result
  cases outcome with
  | error fault => exact .inl (hkeeps fault rfl id record hlookup hqueued)
  | ok createdRule => exact .inr ⟨heffect, htakes, ⟨createdRule, rfl⟩, habout⟩

end DaemonState

namespace System

variable [Sha256] {s : System}

variable {id : ActivityId} {input : Input} {job : RemoteExecutionJob} {audit : AuditState}
  {event : ActivityEvent}

/-! ### What is started and what is let through -/

def Starts (s : System) (job : RemoteExecutionJob) : Input → Prop
  | .request (.startRemoteExecution activityId workspacePath requestId appPath) _ =>
    ((DaemonState.prepareRemoteExecution activityId workspacePath requestId appPath
      s.daemon.session).exec s.daemon).1 = .ok job
  | _ => False

/-- A step in which the local user lets an access through, as it was asked for or as it is pending. -/
def Allows (s : System) (access : AccessRequest) : Input → Prop
  | .request (.decideApproval nonce asked decision) c =>
    asked = access ∧ s.daemon.LetsThrough nonce access decision (.decideApproval nonce asked decision) c
  | .request (.decidePendingApproval approvalId decision) c =>
    ∃ pending, s.daemon.dashboard.pending.lookup approvalId = some pending ∧
      pending.access = access ∧
      s.daemon.LetsThrough pending.nonce access decision (.decidePendingApproval approvalId decision) c
  | _ => False

def AllowsActivity (s : System) (id : ActivityId) (input : Input) : Prop :=
  ∃ access, s.Allows access input ∧ access.activityId = id

/-- What is started in a run has been let through before, and again between two starts of one activity. -/
structure Approved (inputs : List Input) (s : System) : Prop where
  allowed : ∀ before input after job, inputs = before ++ input :: after →
    (run before s).Starts job input →
      Runs.SomeStep next (fun s input => ∃ access, s.Allows access input ∧ job.Carries access) before s
  once : ∀ before first between second after job job',
    inputs = before ++ first :: (between ++ second :: after) →
    (run before s).Starts job first → (run between ((run before s).next first)).Starts job' second →
    job'.activity.activityId = job.activity.activityId →
      Runs.SomeStep next (fun s => s.AllowsActivity job.activity.activityId) between
        ((run before s).next first)

/-! ### Steps -/

theorem queued_handle (hsound : s.Sound) (request : LocalRequest) (c : Circumstances)
    {record : ActivityEvent}
    (hlookup : (s.handle request c).daemon.dashboard.activities.lookup id = some record)
    (hqueued : record.state = .queued) :
    s.daemon.dashboard.activities.lookup id = some record ∨
      ∃ access, s.Allows access (.request request c) ∧ record.About access := by
  have hnone : ∀ {d : DaemonState}, DaemonState.Handled c s.daemon.session request s.daemon d →
      d.dashboard.activities.lookup id = some record →
      (∀ call, request.Calls c s.daemon.session call → .queued ∉ call.states) →
      s.daemon.dashboard.activities.lookup id = some record := by
    intro d hd hlookup hcalls
    rcases hd.dashboard with hsame | ⟨call, hcall, hcalled⟩
    · rwa [hsame] at hlookup
    · rw [hcalled] at hlookup
      exact DaemonState.queued_of_next hsound.keyed (hcalls call hcall) hlookup hqueued
  cases request with
  | startRemoteExecution activityId workspacePath requestId appPath =>
    left
    rw [handle, startRemoteExecution] at hlookup
    rcases DaemonState.exec_prepareRemoteExecution hsound.boundary activityId workspacePath requestId
      appPath with ⟨e, hexec⟩ | ⟨config, activity, grant, hprepares, hexec⟩
    · rwa [hexec] at hlookup
    · rwa [hexec] at hlookup
  | decideApproval nonce access =>
    refine (DaemonState.queued_of_decide hsound.keyed rfl hlookup hqueued).imp_right ?_
    rintro ⟨heffect, htakes, hanswered, habout⟩
    exact ⟨access, ⟨rfl, heffect, htakes, hanswered⟩, habout⟩
  | decidePendingApproval approvalId decision =>
    cases hpending : s.daemon.dashboard.pending.lookup approvalId with
    | none =>
      left
      have hrefused : (DashboardService.decidePendingApproval approvalId s.daemon.session decision
          c.nowMs).exec s.daemon.dashboard = (.error (.returned .notFound),
            s.daemon.dashboard) := by
        rw [DashboardService.decidePendingApproval, exec_bind_ok (exec_get _), hpending]
        rfl
      change ((DaemonState.handleAuthorized _ c _).exec s.daemon).2.dashboard.activities.lookup id
        = some record at hlookup
      rw [DaemonState.handleAuthorized, DaemonState.exec_onDashboard_bind _ fun _ _ => rfl,
        hrefused] at hlookup
      exact hlookup
    | some pending =>
      have hexec : (DashboardService.decidePendingApproval approvalId s.daemon.session decision
          c.nowMs).exec s.daemon.dashboard = (DashboardService.decideApproval pending.nonce
            s.daemon.session pending.access decision c.nowMs).exec s.daemon.dashboard := by
        rw [DashboardService.decidePendingApproval, exec_bind_ok (exec_get _), hpending,
          exec_okOr_some_bind]
      refine (DaemonState.queued_of_decide hsound.keyed hexec hlookup hqueued).imp_right ?_
      rintro ⟨heffect, htakes, hanswered, habout⟩
      exact ⟨pending.access, ⟨pending, hpending, rfl, heffect, htakes, hanswered⟩, habout⟩
  | pauseRemoteAccessWithJobs existingJobs =>
    refine .inl (hnone (DaemonState.handled_handleAuthorized _ _) hlookup fun call hcall => ?_)
    cases hcall
    cases existingJobs <;> simp [ServiceCall.states]
  | _ =>
    refine .inl (hnone (DaemonState.handled_handleAuthorized _ _) hlookup fun call hcall => ?_)
    cases hcall <;> simp [ServiceCall.states]

/-- **A record that has become queued was let through by that step.** -/
theorem queued_next (hsound : s.Sound) (input : Input) {record : ActivityEvent}
    (hlookup : (s.next input).daemon.dashboard.activities.lookup id = some record)
    (hqueued : record.state = .queued) :
    s.daemon.dashboard.activities.lookup id = some record ∨
      ∃ access, s.Allows access input ∧ record.About access := by
  cases input with
  | request request c => exact queued_handle hsound request c hlookup hqueued
  | worker token o =>
    left
    change (s.stepWorker token o).daemon.dashboard.activities.lookup id = _ at hlookup
    rw [stepWorker] at hlookup
    cases hw : s.workers.lookup token with
    | none => rwa [hw] at hlookup
    | some w =>
      rw [hw] at hlookup
      change (w.step o s.daemon).1.dashboard.activities.lookup id = _ at hlookup
      have hmoved : w.Moved s.daemon (w.step o s.daemon).1 := Worker.moved_step o
      generalize (w.step o s.daemon).1 = d at hmoved hlookup
      cases hmoved with
      | kept => exact hlookup
      | observed | lost =>
        exact DaemonState.queued_of_next hsound.keyed (by simp [ServiceCall.states]) hlookup hqueued
      | left => exact hlookup

theorem prepares_of_starts (hsound : s.Sound) (h : s.Starts job input) :
    (∃ grant, s.daemon.Prepares job.activity.activityId job.workspacePath job.requestId job.appPath
        job.config job.activity grant) ∧
      s.next input = ⟨s.daemon.reserved job.activity.activityId,
        s.workers.insert job.cancelled (.new job)⟩ := by
  cases input with
  | worker => exact h.elim
  | request request =>
    cases request with
    | startRemoteExecution activityId workspacePath requestId appPath =>
      change ((DaemonState.prepareRemoteExecution activityId workspacePath requestId appPath
        s.daemon.session).exec s.daemon).1 = _ at h
      rcases DaemonState.exec_prepareRemoteExecution hsound.boundary activityId workspacePath
        requestId appPath with ⟨e, hexec⟩ | ⟨config, activity, grant, hprepares, hexec⟩
      · rw [hexec] at h
        cases h
      · rw [hexec] at h
        obtain rfl := Except.ok.inj h
        have hid : activity.activityId = activityId :=
          hsound.keyed activityId activity hprepares.recorded
        subst hid
        refine ⟨⟨grant, hprepares⟩, ?_⟩
        change s.startRemoteExecution _ _ _ _ = _
        rw [startRemoteExecution, hexec]
    | _ => exact h.elim

theorem worker_next (hsound : s.Sound) (input : Input) {token : Token} {w : Worker}
    (hw : s.workers.lookup token = some w) :
    ∃ w', (s.next input).workers.lookup token = some w' ∧ w'.job = w.job ∧
      (w'.phase = .done → w.phase = .done ∨ w.phase = .leaving ∧ ∃ o, input = .worker token o) := by
  have hkept : (s.next input).workers.lookup token = some w →
      ∃ w', (s.next input).workers.lookup token = some w' ∧ w'.job = w.job ∧
        (w'.phase = .done → w.phase = .done ∨ w.phase = .leaving ∧ ∃ o, input = .worker token o) :=
    fun hsame => ⟨w, hsame, rfl, .inl⟩
  cases input with
  | request request =>
    cases request with
    | startRemoteExecution activityId workspacePath requestId appPath =>
      refine hkept ?_
      change (s.startRemoteExecution _ _ _ _).workers.lookup token = _
      rcases DaemonState.exec_prepareRemoteExecution hsound.boundary activityId workspacePath
        requestId appPath with ⟨e, hexec⟩ | ⟨config, activity, grant, hprepares, hexec⟩
      · rw [startRemoteExecution, hexec]
        exact hw
      · rw [startRemoteExecution, hexec]
        change (s.workers.insert s.daemon.issued _).lookup token = _
        rw [Map.lookup_insert_ne (Nat.ne_of_lt (hsound.issued token w hw)), hw]
    | _ => exact hkept hw
  | worker other o =>
    by_cases hsame : token = other
    · subst hsame
      have hgoes := Worker.goes_step o s.daemon w
      refine ⟨(w.step o s.daemon).2, ?_, hgoes.job, fun hdone => ?_⟩
      · change (s.stepWorker token o).workers.lookup token = _
        rw [stepWorker, hw]
        exact Map.lookup_insert_self _ _ _
      · exact (hgoes.done hdone).symm.imp_right fun hleaving => ⟨hleaving, o, rfl⟩
    · refine hkept ?_
      change (s.stepWorker other o).workers.lookup token = _
      rw [stepWorker]
      cases hother : s.workers.lookup other with
      | none => exact hw
      | some =>
        change (s.workers.insert other _).lookup token = _
        rw [Map.lookup_insert_ne hsame, hw]

/-! ### What is started has been let through -/

def Unqueued (id : ActivityId) (digest : Option String) (s : System) : Prop :=
  ∀ record, s.daemon.dashboard.activities.lookup id = some record → record.state = .queued →
    record.remoteOperationSha256 ≠ digest

theorem unqueued_next (hsound : s.Sound) {digest : Option String} (h : s.Unqueued id digest)
    (input : Input) :
    (s.next input).Unqueued id digest ∨
      ∃ access, s.Allows access input ∧ access.activityId = id ∧
        access.remoteOperation.map RemoteOperationGrant.canonicalSha256 = digest := by
  by_cases hallows : ∃ access, s.Allows access input ∧ access.activityId = id ∧
      access.remoteOperation.map RemoteOperationGrant.canonicalSha256 = digest
  · exact .inr hallows
  · refine .inl fun record hlookup hqueued hdigest => ?_
    rcases queued_next hsound input hlookup hqueued with hbefore | ⟨access, hallowed, habout⟩
    · exact h record hbefore hqueued hdigest
    · have hid : record.activityId = id := (sound_next hsound input).keyed id record hlookup
      refine hallows ⟨access, hallowed, habout.activityId.symm.trans hid, ?_⟩
      exact (congrArg Identity.remoteOperationSha256 habout.identity).symm.trans hdigest

/-- **What is started in a run has been let through before.** -/
theorem allowed_of_starts (hfresh : s.Fresh) (inputs : List Input)
    (hstarts : (run inputs s).Starts job input) :
    Runs.SomeStep next (fun s input => ∃ access, s.Allows access input ∧ job.Carries access)
      inputs s := by
  have hsound : (run inputs s).Sound := sound_run hfresh.sound inputs
  obtain ⟨⟨grant, hprepares⟩, -⟩ := prepares_of_starts hsound hstarts
  have hexecutable := hprepares.executable
  have hdigest : job.activity.remoteOperationSha256 = some grant.canonicalSha256 := by
    simp only [ActivityEvent.isExecutable, Bool.and_eq_true, decide_eq_true_eq] at hexecutable
    exact hexecutable.2
  have hnone : s.Unqueued job.activity.activityId (some grant.canonicalSha256) :=
    fun record hlookup hqueued => absurd hqueued (hfresh.started.not_queued hlookup)
  rcases (Runs.allSteps_of_mem (P := fun _ _ => True) (fun _ _ _ => trivial) s).kept_or
    (I := fun s => s.Sound ∧ s.Unqueued job.activity.activityId (some grant.canonicalSha256))
    (fun s input h _ => (unqueued_next h.1 h.2 input).imp_left fun h' => ⟨sound_next h.1 input, h'⟩)
    ⟨hfresh.sound, hnone⟩ with ⟨-, hunqueued⟩ | ⟨before, other, after, happend, access, hallows, hid, hsame⟩
  · exact absurd hdigest (hunqueued _ hprepares.recorded
      (DaemonState.queued_of_executable hprepares.executable))
  · exact ⟨before, other, after, happend, access, hallows, hid, grant, hprepares.granted, hsame⟩

/-! ### What is started once -/

def Underway (job : RemoteExecutionJob) (s : System) : Prop :=
  ∀ record, s.daemon.dashboard.activities.lookup job.activity.activityId = some record →
    record.state = .queued → record = job.activity ∧
      ∃ w, s.workers.lookup job.cancelled = some w ∧ w.job = job ∧ w.phase ≠ .done

/-- A step in which no worker leaves a record as it was. -/
def LeavesTaken (s : System) : Input → Prop
  | .worker token _ => ∀ w, s.workers.lookup token = some w → w.phase = .leaving →
      s.daemon.dashboard.activities.lookup w.activityId ≠ some w.job.activity
  | .request _ _ => True

theorem underway_next (hsound : s.Sound) (h : s.Underway job) (hleaves : s.LeavesTaken input) :
    (s.next input).Underway job ∨ s.AllowsActivity job.activity.activityId input := by
  by_cases hallows : s.AllowsActivity job.activity.activityId input
  · exact .inr hallows
  · refine .inl fun record hlookup hqueued => ?_
    rcases queued_next hsound input hlookup hqueued with hbefore | ⟨access, hallowed, habout⟩
    · obtain ⟨rfl, w, hw, hjob, hlive⟩ := h record hbefore hqueued
      obtain ⟨w', hw', hjob', hdone⟩ := worker_next hsound input hw
      refine ⟨rfl, w', hw', hjob'.trans hjob, fun hphase => ?_⟩
      rcases hdone hphase with hdone | ⟨hleaving, o, rfl⟩
      · exact hlive hdone
      · -- The worker has left its record as it was.
        refine hleaves w hw hleaving ?_
        rw [Worker.activityId, hjob, hbefore]
    · have hid := (sound_next hsound input).keyed _ record hlookup
      exact absurd ⟨access, hallowed, habout.activityId.symm.trans hid⟩ hallows

theorem Underway.not_starts (hsound : s.Sound) {job' : RemoteExecutionJob} (h : s.Underway job)
    (hsame : job'.activity.activityId = job.activity.activityId) (input : Input) :
    ¬s.Starts job' input := by
  intro hstarts
  obtain ⟨⟨_, hprepares⟩, -⟩ := prepares_of_starts hsound hstarts
  have hrecorded := hprepares.recorded
  rw [hsame] at hrecorded
  obtain ⟨-, w, hw, hjob, hlive⟩ :=
    h _ hrecorded (DaemonState.queued_of_executable hprepares.executable)
  have hinflight := hsound.live job.cancelled w hw hlive
  rw [Worker.activityId, hjob, ← hsame, hprepares.free] at hinflight
  cases hinflight

theorem underway_of_starts (hsound : s.Sound) (hstarts : s.Starts job input) :
    (s.next input).Underway job := by
  obtain ⟨⟨_, hprepares⟩, hnext⟩ := prepares_of_starts hsound hstarts
  rw [hnext]
  intro _ hlookup _
  refine ⟨Option.some.inj (hlookup.symm.trans hprepares.recorded), .new job,
    Map.lookup_insert_self _ _ _, rfl, Phase.noConfusion⟩

/-- **Where the workers that leave have moved their records, what is started has been approved**, each
time anew. -/
theorem approved_of_run (hfresh : s.Fresh) {inputs : List Input}
    (hinputs : Runs.AllSteps next LeavesTaken inputs s) : Approved inputs s where
  allowed before input after job _ hstarts := allowed_of_starts hfresh before hstarts
  once before first between second after job job' happend hfirst hsecond hsame := by
    have hsound : (run before s).Sound := sound_run hfresh.sound before
    rw [happend, Runs.allSteps_append, Runs.AllSteps, Runs.allSteps_append] at hinputs
    have hbetween := hinputs.2.2.1
    rcases hbetween.kept_or (I := fun s => s.Sound ∧ s.Underway job)
      (fun s input h hleaves => (underway_next h.1 h.2 hleaves).imp_left fun h' =>
        ⟨sound_next h.1 input, h'⟩)
      ⟨sound_next hsound first, underway_of_starts hsound hfirst⟩ with ⟨hsound', hunderway⟩ | hallowed
    · exact absurd hsecond (hunderway.not_starts hsound' hsame second)
    · exact hallowed

/-! ### An execution that is approved -/

omit [Sha256] in
theorem idText_phone : IdText "phone" := by decide

omit [Sha256] in
theorem idText_installApp : IdText "apple.install_app" := by decide

def samplePhone : DeviceId := ⟨"phone", idText_phone⟩

def sampleGrant : RemoteOperationGrant :=
  { requestId := "build-1"
    workspacePath := "app"
    deviceId := some samplePhone
    operation := .installApp "App.app"
    canonicalSha256 := RemoteOperationGrant.computeDigest
      ⟨"build-1", "app", some samplePhone, .installApp "App.app", ""⟩ }

theorem new_sampleGrant : RemoteOperationGrant.new "build-1" "app" (some samplePhone)
    (.installApp "App.app") = .ok sampleGrant := by
  rw [RemoteOperationGrant.new, RemoteOperationGrant.validateFields, failIf_bind, if_neg (by decide)]
  rfl

omit [Sha256] in
def sampleResources : List ResourceClass := [.workspaceRead, .deviceLease, .applicationInstall]

def sampleAccess (id : ActivityId) : AccessRequest :=
  { activityId := id
    principalId := localUser
    sourceHostId := managedService.localHostId
    targetHostId := managedService.localHostId
    deviceId := some samplePhone
    operation := ⟨"apple.install_app", idText_installApp⟩
    resources := sampleResources
    remoteOperation := some sampleGrant
    physicalDevice := false
    userPresent := false }

theorem validate_sampleAccess (id : ActivityId) : validateRequest (sampleAccess id) = .ok () := by
  obtain ⟨hlength, hnodup, hholds⟩ : sampleResources.length ≤ maxCollectionItems ∧
      sampleResources.Nodup ∧ holdsInstallResources sampleResources := by decide
  refine validateRequest_eq_ok.2 ⟨hlength, hnodup, fun remote hremote => ?_⟩
  cases hremote
  exact ⟨RemoteOperationGrant.validate_of_new new_sampleGrant, rfl, rfl, fun _ => hholds⟩

theorem evaluate_sampleAccess {engine : PolicyEngine} (hrules : engine.rules = [managedRule])
    (id : ActivityId) : engine.evaluate (sampleAccess id) 0 = .ok (.allowed managedRule.id) := by
  rw [PolicyEngine.evaluate, hrules, validate_sampleAccess, ok_bind]
  generalize isHighRisk _ = risk
  cases risk with
  | true | false => rfl

def sampleSystem : System :=
  ⟨(DaemonState.new managedService "daemon").enableRemoteExecution ⟨"registry", "peer", "daemon"⟩, ∅⟩

theorem fresh_sampleSystem : sampleSystem.Fresh :=
  ⟨.new _ (.withBounds 1 0 Dashboard.maxEvents maxEventBytes) _ _, rfl, rfl, rfl, rfl⟩

omit [Sha256] in
def sampleCircumstances : Circumstances :=
  { nowMs := 0
    random := fun _ => PolicyEngine.sampleNonce
    hash := ⟨fun ids => ids, fun ids => .refl ids⟩
    listed := .ok { Registry.response with
      hosts := [⟨"host", "linux", "x86_64", "online", [], [⟨"phone", "ios", "connected"⟩]⟩] }
    hasMeshIdentity := false
    vouchedFor := none
    persisted := .ok ()
    reconciled := .kept }

def sampleApproval (id : ActivityId) : List Input :=
  [.request (.requestApproval (sampleAccess id) 1000) sampleCircumstances,
    .request (.decideApproval (hex PolicyEngine.sampleNonce.toList) (sampleAccess id) .allowOnce)
      sampleCircumstances]

def sampleStart (id : ActivityId) : Input :=
  .request (.startRemoteExecution id "app" "build-1" "App.app") sampleCircumstances

def samplePending (id : ActivityId) : PendingApproval :=
  ⟨requestDigest (sampleAccess id), managedService.localHostId, PolicyEngine.expiry 0 1000, false⟩

def requestedService (id : ActivityId) (audit : AuditState) : DashboardService :=
  managedService.requested audit (sampleAccess id) 1000 0 PolicyEngine.sampleNonce

def approvedService (id : ActivityId) (audit audit' : AuditState) : DashboardService :=
  (requestedService id audit).allowed audit' (sampleAccess id) 0 PolicyEngine.sampleNonce
    (samplePending id)

theorem submits_sampleAccess (id : ActivityId) :
    managedService.Submits (sampleAccess id) 0 PolicyEngine.sampleNonce where
  running := rfl
  host := rfl
  undenied := ⟨_, evaluate_sampleAccess rfl id, fun _ heq => by cases heq⟩
  valid := validate_sampleAccess id
  first := rfl
  free rule hrule := by
    cases List.mem_singleton.1 hrule
    decide
  firstDay := by decide
  sequence_lt := (by decide : 1 < u64Max)
  fresh := rfl
  expected := rfl

theorem admittable_sampleAccess (id : ActivityId) (audit : AuditState) :
    (requestedService id audit).Admittable ⟨managedService.localHostId⟩ (sampleAccess id) 0
      PolicyEngine.sampleNonce (samplePending id) where
  running := rfl
  undenied := ⟨_, evaluate_sampleAccess rfl id, fun _ heq => by cases heq⟩
  redeems :=
    { valid := validate_sampleAccess id
      lookup := Map.lookup_insert_self _ _ _
      unused := rfl
      now_lt := (by decide : 0 < PolicyEngine.expiry 0 1000)
      target := rfl
      digest := rfl
      room := fun h => by cases h }
  firstDay := by decide
  sequence_lt := by
    have hlookup : (requestedService id audit).activities.lookup id = some _ :=
      Map.lookup_insert_self _ _ _
    change (requestedService id audit).nextSequence id < u64Max
    rw [nextSequence, hlookup]
    exact (by decide : 2 < u64Max)
  fresh := Map.lookup_insert_ne (requestKey_ne_decisionKey _) _
  expected := by
    have hlookup : (requestedService id audit).activities.lookup id = some _ :=
      Map.lookup_insert_self _ _ _
    have hsequence : (requestedService id audit).events.activitySequences.lookup id = some 1 :=
      Map.lookup_insert_self _ _ _
    change EventJournal.expectedSequence ((requestedService id audit).events.activitySequences.lookup
      id) = some ((requestedService id audit).nextSequence id)
    rw [hsequence, nextSequence, hlookup]
    rfl

theorem next_requestApproval (h : (DashboardService.requestApproval (sampleAccess id) 1000 0 fun _ =>
      PolicyEngine.sampleNonce).exec managedService
        = (.ok ⟨hex PolicyEngine.sampleNonce.toList, PolicyEngine.expiry 0 1000⟩,
          requestedService id audit)) :
    sampleSystem.next (.request (.requestApproval (sampleAccess id) 1000) sampleCircumstances)
      = ⟨{ sampleSystem.daemon with dashboard := requestedService id audit }, ∅⟩ := by
  have hexec : (DaemonState.requestApproval (sampleAccess id) 1000 sampleCircumstances
      sampleSystem.daemon.session).exec sampleSystem.daemon
        = (.ok (.approvalCreated ⟨hex PolicyEngine.sampleNonce.toList, PolicyEngine.expiry 0 1000⟩),
          { sampleSystem.daemon with dashboard := requestedService id audit }) := by
    have honline : isOnline sampleCircumstances.listed (sampleAccess id) = true := rfl
    rw [DaemonState.requestApproval, exec_bind_ok (exec_get _), exec_throwIf_bind, if_neg, exec_ite,
      if_neg, exec_throwIf_bind, if_neg]
    · exact exec_bind_of (DaemonState.exec_onDashboard_ok h) rfl
    · rintro (hhost | hhost)
      · exact hhost rfl
      · exact hhost rfl
    · rintro ⟨-, hoffline⟩
      exact hoffline ⟨rfl, rfl, honline⟩
    · rintro ⟨-, -, hhost⟩
      exact hhost rfl
  exact congrArg (fun result => System.mk result.2 ∅) hexec

theorem run_sampleApproval (id : ActivityId) : ∃ audit audit',
    run (sampleApproval id) sampleSystem
        = ⟨{ sampleSystem.daemon with dashboard := approvedService id audit audit' }, ∅⟩ ∧
      (approvedService id audit audit').Calm 4 := by
  obtain ⟨audit, hrequested, hcalm⟩ := calm_managedService.submit (by decide)
    (fun _ => PolicyEngine.sampleNonce) (by decide : 1000 ≠ 0) (submits_sampleAccess id)
  obtain ⟨audit', hallowed, hcalm'⟩ := hcalm.letThrough (by decide) (admittable_sampleAccess id audit)
  refine ⟨audit, audit', ?_, hcalm'⟩
  have hdecided : (DaemonState.handleAuthorized (.decideApproval (hex PolicyEngine.sampleNonce.toList)
      (sampleAccess id) .allowOnce) sampleCircumstances sampleSystem.daemon.session).exec
        { sampleSystem.daemon with dashboard := requestedService id audit }
          = (.ok (.approvalDecided .allowOnce none),
            { sampleSystem.daemon with dashboard := approvedService id audit audit' }) :=
    exec_bind_of (DaemonState.exec_onDashboard_ok hallowed) rfl
  rw [run, sampleApproval, List.foldl_cons, List.foldl_cons, List.foldl_nil,
    next_requestApproval hrequested]
  exact congrArg (fun result => System.mk result.2 ∅) hdecided

def sampleEvent (id : ActivityId) (audit : AuditState) : ActivityEvent :=
  (requestedService id audit).allowedEvent (sampleAccess id) 0 PolicyEngine.sampleNonce

theorem sequence_sampleEvent (id : ActivityId) (audit : AuditState) :
    (sampleEvent id audit).sequence = 2 := by
  have hlookup : (requestedService id audit).activities.lookup id = some _ :=
    Map.lookup_insert_self _ _ _
  change (requestedService id audit).nextSequence id = 2
  rw [nextSequence, hlookup]
  rfl

structure Offers (id : ActivityId) (event : ActivityEvent) (d : DaemonState) : Prop where
  remoteExecution : d.remoteExecution = some ⟨"registry", "peer", "daemon"⟩
  boundary : d.hasRemoteExecutionBoundary = true
  host : d.dashboard.localHostId = managedService.localHostId
  recorded : d.dashboard.activities.lookup id = some event

theorem offers_sampleApproval (id : ActivityId) : ∃ audit,
    Offers id (sampleEvent id audit) (run (sampleApproval id) sampleSystem).daemon ∧
      (run (sampleApproval id) sampleSystem).daemon.inflightExecutions.lookup id = none ∧
      (run (sampleApproval id) sampleSystem).daemon.issued = 0 := by
  obtain ⟨audit, _, hrun, -⟩ := run_sampleApproval id
  rw [hrun]
  exact ⟨audit, ⟨rfl, rfl, rfl, Map.lookup_insert_self _ _ _⟩, rfl, rfl⟩

theorem Offers.starts (h : Offers id (sampleEvent id audit) s.daemon)
    (hfree : s.daemon.inflightExecutions.lookup id = none) :
    ∃ job : RemoteExecutionJob, s.Starts job (sampleStart id) ∧
      job.activity = sampleEvent id audit ∧ job.cancelled = s.daemon.issued := by
  have hprepares : s.daemon.Prepares id "app" "build-1" "App.app" ⟨"registry", "peer", "daemon"⟩
      (sampleEvent id audit) sampleGrant := by
    refine ⟨h.remoteExecution, h.recorded, new_sampleGrant, ?_, hfree⟩
    have hsession : s.daemon.session = ⟨managedService.localHostId⟩ := congrArg _ h.host
    simp only [hsession, ActivityEvent.isExecutable, Bool.and_eq_true, decide_eq_true_eq]
    exact ⟨⟨⟨⟨⟨⟨⟨⟨rfl, rfl⟩, rfl⟩, rfl⟩, rfl⟩, rfl⟩, rfl⟩, rfl⟩, rfl⟩
  exact ⟨_, congrArg Prod.fst (hprepares.exec_prepareRemoteExecution h.boundary (by decide) (by decide)
    (by decide)), rfl, rfl⟩

/-! ### An approval that is used twice -/

omit [Sha256] in
theorem plan_long (hlong : id.text.utf8ByteSize = 256) [Sha256] (inner : EventJournal)
    (event : ActivityEvent) (rest : String) :
    ∃ error, inner.plan ("observer:" ++ id.text ++ rest) event = .error error := by
  cases hvalid : event.validate with
  | error e =>
    refine ⟨.invalidEvent e.code, ?_⟩
    rw [EventJournal.plan, EventJournal.checkEvent, hvalid]
    rfl
  | ok =>
    refine ⟨.idempotencyKeyTooLong, ?_⟩
    rw [EventJournal.plan, checkEvent_long hlong hvalid]
    rfl

theorem sameActivities_transition_long (hlong : id.text.utf8ByteSize = 256) (state : ActivityState)
    (metrics : MetricSnapshot) (message : Option DisplayMessage) (nowMs : ℕ) :
    Within SameActivities (transitionActivity id state metrics message nowMs) := by
  have hrecorded : ∀ (event : ActivityEvent) (rest : String),
      Within SameActivities (do
        recordActivity event ("observer:" ++ id.text ++ rest)
        pure true) := by
    intro event rest s
    obtain ⟨_, hplan⟩ := plan_long hlong s.events event rest
    rw [exec_bind_error (exec_recordActivity_refused hplan)]
    exact rfl
  refine Within.get fun s => Within.bind (R := SameActivities) (.okOr _ _) (fun current => ?_) s
  refine Within.ite (fun _ => .pure _) fun _ => ?_
  refine Within.bind (.throwIf _ _) fun _ => Within.bind (.okOr _ _) fun sequence => ?_
  refine Within.bind (.throwIf _ _) fun _ => ?_
  have hkept := hrecorded (current.observed sequence state metrics message nowMs)
    (":" ++ Nat.repr sequence ++ ":" ++ state.debugName)
  simp only [← String.append_assoc] at hkept
  cases state.auditResult with
  | none => exact hkept
  | some => exact Within.bind (sameActivities_auditAccessFromEvent _ _ _ _) fun _ => hkept

omit [Sha256] in
def sampleOutside : Outside := ⟨.error .registryDisconnected, .ok (), false, 0⟩

theorem Offers.transition (hlong : id.text.utf8ByteSize = 256) {d : DaemonState}
    (h : Offers id event d) (state : ActivityState) (message : MessageCode) :
    Offers id event ((transitionExecution id state message 0).exec d).2 := by
  have hsame := within_dropValue
    (sameActivities_transition_long hlong state unavailableMetrics (some ⟨message, []⟩) 0) d.dashboard
  have hcore := within_dropValue (writes_sameCore.transitionActivity id state
    unavailableMetrics (some ⟨message, []⟩) 0) d.dashboard
  rw [Worker.exec_transitionExecution]
  refine ⟨h.remoteExecution, h.boundary, hcore.localHostId.trans h.host, ?_⟩
  exact (congrArg (fun activities => activities.lookup id) hsame).trans h.recorded

structure Stuck (id : ActivityId) (event : ActivityEvent) (phase : Phase) (s : System) : Prop where
  offers : Offers id event s.daemon
  worker : ∃ w, s.workers.lookup 0 = some w ∧ w.job.activity = event ∧ w.phase = phase

theorem Stuck.next {phase phase' : Phase} (h : Stuck id event phase s)
    (hstep : ∀ w : Worker, w.job.activity = event → w.phase = phase →
      Offers id event (w.step sampleOutside s.daemon).1 ∧
        (w.step sampleOutside s.daemon).2.phase = phase') :
    Stuck id event phase' (s.next (.worker 0 sampleOutside)) := by
  obtain ⟨w, hw, hactivity, hphase⟩ := h.worker
  obtain ⟨hoffers, hphase'⟩ := hstep w hactivity hphase
  rw [next_worker hw]
  refine ⟨hoffers, _, Map.lookup_insert_self _ _ _, ?_, hphase'⟩
  rw [(Worker.goes_step sampleOutside s.daemon w).job, hactivity]

theorem Stuck.leaves (hlong : id.text.utf8ByteSize = 256) (hid : event.activityId = id)
    (hqueued : event.state = .queued) (hdevice : event.deviceId.isSome)
    (h : Stuck id event .acquiring s) :
    Stuck id event .leaving (run (List.replicate 5 (.worker 0 sampleOutside)) s) := by
  have hname : ∀ w : Worker, w.job.activity = event → w.activityId = id :=
    fun w hactivity => (congrArg ActivityEvent.activityId hactivity).trans hid
  have hfailed : Stuck id event (.failed .targetOffline) _ := h.next fun w hactivity hphase => by
    rw [Worker.step, hphase]
    refine ⟨h.offers, ?_⟩
    obtain ⟨_, hdeviceId⟩ := Option.isSome_iff_exists.1 hdevice
    rw [← hactivity] at hdeviceId
    dsimp only
    rw [Worker.acquire, hdeviceId]
    rfl
  have hlooking : Stuck id event (.looking .targetOffline) _ := hfailed.next fun w _ hphase => by
    rw [Worker.step, hphase]
    exact ⟨hfailed.offers, rfl⟩
  have hclosing : Stuck id event (.closing .targetOffline event) _ :=
    hlooking.next fun w hactivity hphase => by
      rw [Worker.step, hphase]
      dsimp only
      rw [hname w hactivity, hlooking.offers.recorded]
      exact ⟨hlooking.offers, rfl⟩
  have hconcluding : Stuck id event (.concluding .targetOffline event) _ :=
    hclosing.next fun w hactivity hphase => by
      rw [Worker.step, hphase]
      dsimp only
      rw [if_pos hqueued, hname w hactivity]
      exact ⟨hclosing.offers.transition hlong _ _, rfl⟩
  exact hconcluding.next fun w hactivity hphase => by
    rw [Worker.step, hphase]
    dsimp only
    rw [hqueued, hname w hactivity]
    exact ⟨hconcluding.offers.transition hlong _ _, rfl⟩

def sampleSteps : List Input := List.replicate 6 (.worker 0 sampleOutside)

theorem offers_sampleSteps (hlong : id.text.utf8ByteSize = 256) (hsound : s.Sound)
    (h : Offers id (sampleEvent id audit) s.daemon) (hstarts : s.Starts job (sampleStart id))
    (hactivity : job.activity = sampleEvent id audit) (htoken : job.cancelled = 0) :
    Offers id (sampleEvent id audit) (run sampleSteps (s.next (sampleStart id))).daemon ∧
      (run sampleSteps (s.next (sampleStart id))).daemon.inflightExecutions.lookup id = none ∧
      ∃ w, (run sampleSteps (s.next (sampleStart id))).workers.lookup 0 = some w ∧
        w.job.activity = sampleEvent id audit ∧ w.phase = .done := by
  have hacquiring : Stuck id (sampleEvent id audit) .acquiring (s.next (sampleStart id)) := by
    rw [(prepares_of_starts hsound hstarts).2, htoken]
    exact ⟨⟨h.remoteExecution, h.boundary, h.host, h.recorded⟩, _, Map.lookup_insert_self _ _ _,
      hactivity, rfl⟩
  have hleaving := hacquiring.leaves hlong rfl rfl rfl
  have hsteps : sampleSteps = List.replicate 5 (.worker 0 sampleOutside) ++ [.worker 0 sampleOutside] :=
    rfl
  have hlast : run sampleSteps (s.next (sampleStart id))
      = (run (List.replicate 5 (.worker 0 sampleOutside)) (s.next (sampleStart id))).next
          (.worker 0 sampleOutside) := by
    rw [hsteps, run, List.foldl_append, List.foldl_cons, List.foldl_nil, run]
  rw [hlast]
  generalize run (List.replicate 5 (.worker 0 sampleOutside)) (s.next (sampleStart id)) = last
    at hleaving ⊢
  obtain ⟨w, hw, hrecord, hphase⟩ := hleaving.worker
  rw [next_worker hw, Worker.step_of_leaving hphase]
  have hid : w.activityId = id := congrArg ActivityEvent.activityId hrecord
  refine ⟨⟨hleaving.offers.remoteExecution, hleaving.offers.boundary, hleaving.offers.host,
    hleaving.offers.recorded⟩, ?_, _, Map.lookup_insert_self _ _ _, hrecord, rfl⟩
  change (Map.erase _ w.activityId).lookup id = none
  rw [hid, Map.lookup_erase, if_pos rfl]

/-- In every run what is started has been approved, each time anew. -/
def AlwaysApproved : Prop := ∀ (s : System) (inputs : List Input), s.Fresh → Approved inputs s

omit [Sha256] in
/-- An approval is used twice where its record cannot be changed. -/
theorem not_alwaysApproved : ¬∃ _ : Sha256, AlwaysApproved := by
  rintro ⟨_, halways⟩
  obtain ⟨id, hlong⟩ := exists_longId
  obtain ⟨audit, hoffers, hfree, hissued⟩ := offers_sampleApproval id
  have hsound := sound_run fresh_sampleSystem.sound (sampleApproval id)
  obtain ⟨job, hstarts, hactivity, htoken⟩ := hoffers.starts hfree
  obtain ⟨hoffers', hfree', -⟩ :=
    offers_sampleSteps hlong hsound hoffers hstarts hactivity (htoken.trans hissued)
  obtain ⟨job', hstarts', hactivity', -⟩ := hoffers'.starts hfree'
  have happroved := halways sampleSystem
    (sampleApproval id ++ sampleStart id :: (sampleSteps ++ [sampleStart id])) fresh_sampleSystem
  obtain ⟨before, input, after, happend, access, hallows, -⟩ := happroved.once _ _ _ _ _ job job' rfl
    hstarts hstarts' (by rw [hactivity, hactivity'])
  -- In between there are only steps of the worker.
  have hmem : input ∈ sampleSteps := happend ▸ List.mem_append_right before List.mem_cons_self
  cases List.eq_of_mem_replicate hmem
  exact hallows

theorem allSteps_sampleStart {P : System → Input → Prop}
    (hrequest : ∀ s, P s (.request (.requestApproval (sampleAccess id) 1000) sampleCircumstances))
    (hdecide : ∀ s, P s (.request (.decideApproval (hex PolicyEngine.sampleNonce.toList)
      (sampleAccess id) .allowOnce) sampleCircumstances)) (hstart : ∀ s, P s (sampleStart id))
    (s : System) : Runs.AllSteps next P (sampleApproval id ++ [sampleStart id]) s := by
  refine Runs.allSteps_of_mem (fun s input hmem => ?_) s
  rcases List.mem_append.1 hmem with hmem | hmem
  · rcases List.mem_pair.1 hmem with rfl | rfl
    · exact hrequest s
    · exact hdecide s
  · cases List.mem_singleton.1 hmem
    exact hstart s

omit [Sha256] in
/-- The one execution that is started has been approved. -/
theorem sampleStart_approved : letI := EventJournal.eventHash
    Approved (sampleApproval ⟨"phone", idText_phone⟩ ++ [sampleStart ⟨"phone", idText_phone⟩])
      sampleSystem := by
  let _ := EventJournal.eventHash
  exact approved_of_run fresh_sampleSystem (allSteps_sampleStart (fun _ => trivial)
    (fun _ => trivial) (fun _ => trivial) _)

/-! ### One worker for an activity -/

/-- An activity is in flight exactly while a worker works for it, which is the only one. -/
structure OneWorker (s : System) : Prop where
  unique : ∀ token token' w w', s.workers.lookup token = some w → s.workers.lookup token' = some w' →
    w.phase ≠ .done → w'.phase ≠ .done → w.activityId = w'.activityId → token = token'
  inflight : ∀ activityId, (s.daemon.inflightExecutions.lookup activityId).isSome ↔
    ∃ token w, s.workers.lookup token = some w ∧ w.phase ≠ .done ∧ w.activityId = activityId
  starts : ∀ job input, s.Starts job input → ∀ token w, s.workers.lookup token = some w →
    w.activityId = job.activity.activityId → w.phase = .done

/-- **In every run an activity has one worker at a time**, and nothing is started while it is there. -/
theorem oneWorker_of_run (h : s.Fresh) (inputs : List Input) : OneWorker (run inputs s) := by
  have hsound := sound_run h.sound inputs
  constructor
  · intro token token' w w' hw hw' hlive hlive' hsame
    have hinflight := hsound.live token w hw hlive
    rw [hsame, hsound.live token' w' hw' hlive'] at hinflight
    exact (Option.some.inj hinflight).symm
  · intro activityId
    constructor
    · intro hsome
      obtain ⟨token, htoken⟩ := Option.isSome_iff_exists.1 hsome
      exact ⟨token, hsound.inflight activityId token htoken⟩
    · rintro ⟨token, w, hw, hlive, rfl⟩
      rw [hsound.live token w hw hlive]
      rfl
  · intro _ _ hstarts token w hw hsame
    obtain ⟨⟨_, hprepares⟩, -⟩ := prepares_of_starts hsound hstarts
    by_contra hlive
    have hinflight := hsound.live token w hw hlive
    rw [hsame, hprepares.free] at hinflight
    cases hinflight

omit [Sha256] in
theorem sampleStart_oneWorker : letI := EventJournal.eventHash
    OneWorker (run (sampleApproval ⟨"phone", idText_phone⟩ ++ [sampleStart ⟨"phone", idText_phone⟩])
      sampleSystem) := by
  let _ := EventJournal.eventHash
  exact oneWorker_of_run fresh_sampleSystem _

end System

end Daemon
