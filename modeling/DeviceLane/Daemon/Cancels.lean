/-
**Cancelled activities and their workers.**

The record of an activity is cancelled by the service, and its worker is told by the daemon, which sets the
token of the execution. The two are not one: a pause that cancels the activities sets no token, and a
cancellation that fails after the record has been written sets none either.

Main definitions:

* `Daemon.System.Told` — the tokens of cancelled executions are set.

Main results:

* `Daemon.System.told_of_run` — **where all steps tell, the workers of cancelled activities are told**.
-/

import DeviceLane.Daemon.Approved

namespace Daemon

open Dashboard Effect

namespace DaemonState

variable [Sha256] {d d' : DaemonState}

/-! ### What the workers are told -/

omit [Sha256] in
/-- The token of every execution in flight whose activity has been cancelled is set. -/
def Told (d : DaemonState) : Prop :=
  ∀ activityId token current, d.inflightExecutions.lookup activityId = some token →
    d.dashboard.activities.lookup activityId = some current → current.state = .cancelled →
      token ∈ d.raised

omit [Sha256] in
theorem Told.of_same (h : d.Told) (hactivities : d'.dashboard.activities = d.dashboard.activities)
    (hinflight : d'.inflightExecutions = d.inflightExecutions)
    (hraised : ∀ token ∈ d.raised, token ∈ d'.raised) : d'.Told := by
  intro activityId token current htoken hlookup hcancelled
  rw [hinflight] at htoken
  rw [hactivities] at hlookup
  exact hraised token (h activityId token current htoken hlookup hcancelled)

omit [Sha256] in
theorem Told.of_puts (h : d.Told) {P : Option ActivityEvent → ActivityEvent → Prop}
    (hputs : DashboardService.Puts P d.dashboard d'.dashboard)
    (hinflight : d'.inflightExecutions = d.inflightExecutions)
    (hraised : ∀ token ∈ d.raised, token ∈ d'.raised)
    (hP : ∀ current event, P current event → event.state = .cancelled → ∀ token,
      d.inflightExecutions.lookup event.activityId = some token → token ∈ d'.raised) : d'.Told := by
  have hkept := hputs.keeps
    (I := fun activities => ∀ activityId token current,
      d.inflightExecutions.lookup activityId = some token →
        activities.lookup activityId = some current → current.state = .cancelled → token ∈ d'.raised)
    (fun activities event hold hput activityId token current htoken hlookup hcancelled => by
      rw [Map.lookup_insert] at hlookup
      split at hlookup
      · cases hlookup
        rw [‹activityId = event.activityId›] at htoken
        exact hP _ event hput hcancelled token htoken
      · exact hold activityId token current htoken hlookup hcancelled)
    (fun activityId token current htoken hlookup hcancelled =>
      hraised token (h activityId token current htoken hlookup hcancelled))
  intro activityId token current htoken hlookup hcancelled
  rw [hinflight] at htoken
  exact hkept activityId token current htoken hlookup hcancelled

theorem Told.of_next (h : d.Told) (hkeyed : d.dashboard.Keyed) {call : ServiceCall}
    (hcall : .cancelled ∉ call.states) (hdashboard : d'.dashboard = call.next d.dashboard)
    (hinflight : d'.inflightExecutions = d.inflightExecutions)
    (hraised : ∀ token ∈ d.raised, token ∈ d'.raised) : d'.Told := by
  have hputs := DashboardService.puts_next hkeyed call
  rw [← hdashboard] at hputs
  refine h.of_puts hputs hinflight hraised fun current event hput hcancelled => ?_
  exact absurd (hcancelled ▸ ServiceCall.state_mem_of_puts hput) hcall

def AllTold (d : DaemonState) : Prop :=
  ∀ activityId token current, d.inflightExecutions.lookup activityId = some token →
    d.dashboard.activities.lookup activityId = some current → current.state.isTerminal = false →
      token ∈ d.raised

theorem Told.of_pause (h : d.Told) (hkeyed : d.dashboard.Keyed) (hall : d.AllTold)
    {existing : ExistingJobs} {hash : HashOrder ActivityId} {nowMs : ℕ}
    (hdashboard : d'.dashboard = (ServiceCall.pause existing hash nowMs).next d.dashboard)
    (hinflight : d'.inflightExecutions = d.inflightExecutions)
    (hraised : ∀ token ∈ d.raised, token ∈ d'.raised) : d'.Told := by
  have hputs := DashboardService.puts_next hkeyed (.pause existing hash nowMs)
  rw [← hdashboard] at hputs
  -- A record that has not ended is replaced by a cancelled one of the same activity.
  have hkept := hputs.keeps
    (I := fun activities => ∀ activityId token current,
      d.inflightExecutions.lookup activityId = some token →
        activities.lookup activityId = some current →
          current.state = .cancelled ∨ current.state.isTerminal = false → token ∈ d'.raised)
    (fun activities event hold hput activityId token current htoken hlookup hstate => by
      rw [Map.lookup_insert] at hlookup
      split at hlookup
      · cases hlookup
        rcases hput with ⟨-, record, hrecord, hend⟩ | hlocal
        · rw [‹activityId = event.activityId›] at htoken
          exact hold event.activityId token record htoken hrecord (.inr hend.active)
        · rw [hlocal.state] at hstate
          rcases hstate with hstate | hstate <;> cases hstate
      · exact hold activityId token current htoken hlookup hstate)
    (fun activityId token current htoken hlookup hstate => by
      refine hraised token ?_
      rcases hstate with hcancelled | hactive
      · exact h activityId token current htoken hlookup hcancelled
      · exact hall activityId token current htoken hlookup hactive)
  intro activityId token current htoken hlookup hcancelled
  rw [hinflight] at htoken
  exact hkept activityId token current htoken hlookup (.inl hcancelled)

theorem raised_cancelActivity {activityId : ActivityId} {nowMs : ℕ}
    (h : ((DashboardService.cancelActivity activityId nowMs).exec d.dashboard).1 = .ok true)
    {token : Token} (htoken : d.inflightExecutions.lookup activityId = some token) :
    token ∈ ((cancelActivity activityId nowMs).exec d).2.raised := by
  rcases hexec : (DashboardService.cancelActivity activityId nowMs).exec d.dashboard
    with ⟨outcome, dashboard⟩
  rw [hexec] at h
  obtain rfl : outcome = .ok true := h
  have hcalled : (onDashboard (DashboardService.cancelActivity activityId nowMs)).exec d
      = (.ok true, { d with dashboard }) := by
    rw [exec_onDashboard, hexec]
    rfl
  rw [cancelActivity, exec_bind_ok hcalled, if_pos rfl, exec_bind_ok (exec_modify _ _), exec_pure]
  dsimp only
  rw [htoken]
  exact List.mem_cons_self

/-- The execution of a cancelled activity has been told already, or the audit store lets the cancellation
succeed that it lets begin. -/
def TellsCancel (d : DaemonState) (activityId : ActivityId) (nowMs : ℕ) : Prop :=
  d.dashboard.IsAuthorized (.cancelActivity activityId nowMs) → ∀ token current,
    d.inflightExecutions.lookup activityId = some token →
      d.dashboard.activities.lookup activityId = some current → current.state.isTerminal = false →
        token ∈ d.raised ∨ d.dashboard.AuditsCancel current nowMs

theorem Told.of_cancelActivity (h : d.Told) (hkeyed : d.dashboard.Keyed) {c : Circumstances}
    {activityId : ActivityId} (htells : d.TellsCancel activityId c.nowMs) :
    ((cancelActivity activityId c.nowMs).exec d).2.Told := by
  have hhandled : Handled c d.session (.cancelActivity activityId) d
      ((cancelActivity activityId c.nowMs).exec d).2 := handled_cancelActivity activityId d
  by_cases htold : ∀ token, d.inflightExecutions.lookup activityId = some token →
      token ∈ ((cancelActivity activityId c.nowMs).exec d).2.raised
  · rcases hhandled.dashboard with hsame | ⟨call, hcalls, hcalled⟩
    · exact h.of_same (congrArg _ hsame) hhandled.inflightExecutions hhandled.raised
    · cases hcalls
      have hputs := DashboardService.puts_next hkeyed (.cancelActivity activityId c.nowMs)
      rw [← hcalled] at hputs
      refine h.of_puts hputs hhandled.inflightExecutions hhandled.raised ?_
      rintro current event ⟨record, -, hrecord, hend⟩ - token htoken
      rw [hend.goesOn.activityId, hrecord] at htoken
      exact htold token htoken
  · push Not at htold
    obtain ⟨token, htoken, hunset⟩ := htold
    -- The token is not set, so that the cancellation has not succeeded.
    have hrefused : ((DashboardService.cancelActivity activityId c.nowMs).exec d.dashboard).1 ≠ .ok true :=
      fun hok => hunset (raised_cancelActivity hok htoken)
    have hkept := DashboardService.cancelActivity_refused (fun hauthorized current hlookup hactive => by
      rcases htells hauthorized token current htoken hlookup hactive with hraised | haudits
      · exact absurd (hhandled.raised token hraised) hunset
      · exact haudits) hrefused
    rcases hhandled.dashboard with hsame | ⟨call, hcalls, hcalled⟩
    · exact h.of_same (congrArg _ hsame) hhandled.inflightExecutions hhandled.raised
    · cases hcalls
      refine h.of_same ?_ hhandled.inflightExecutions hhandled.raised
      rw [hcalled, ServiceCall.next, ServiceCall.program, DashboardService.exec_dropValue]
      exact hkept

end DaemonState

/-! ### Runs -/

namespace System

variable [Sha256] {s : System}

omit [Sha256] in
/-- The workers of cancelled activities have been told. -/
def Told (s : System) : Prop := s.daemon.Told

/-- A step that does not cancel an activity behind the back of its worker: a pause that cancels the
activities finds all executions told, and the audit store does not fail halfway through a cancellation. -/
def Tells (s : System) : Input → Prop
  | .request (.cancelActivity activityId) c => s.daemon.TellsCancel activityId c.nowMs
  | .request (.pauseRemoteAccessWithJobs .cancel) c =>
    s.daemon.dashboard.Announced ⟨"devicelane.service.pause", idText_servicePause⟩ remoteAccessPause
      c.nowMs → s.daemon.AllTold
  | _ => True

theorem told_of_handled (hsound : s.Sound) (h : s.Told) {c : Circumstances}
    {session : AuthenticatedTargetSession} {request : LocalRequest} {d : DaemonState}
    (hd : DaemonState.Handled c session request s.daemon d)
    (hcalls : ∀ call, request.Calls c session call → .cancelled ∉ call.states) : d.Told := by
  rcases hd.dashboard with hsame | ⟨call, hcall, hcalled⟩
  · exact DaemonState.Told.of_same h (congrArg _ hsame) hd.inflightExecutions hd.raised
  · exact DaemonState.Told.of_next h hsound.keyed (hcalls call hcall) hcalled hd.inflightExecutions
      hd.raised

theorem told_pause (hsound : s.Sound) (h : s.Told) {c : Circumstances}
    {session : AuthenticatedTargetSession} {existing : ExistingJobs} {d : DaemonState}
    (hd : DaemonState.Handled c session (.pauseRemoteAccessWithJobs existing) s.daemon d)
    (htells : s.Tells (.request (.pauseRemoteAccessWithJobs existing) c)) : d.Told := by
  rcases hd.dashboard with hsame | ⟨call, hcall, hcalled⟩
  · exact DaemonState.Told.of_same h (congrArg _ hsame) hd.inflightExecutions hd.raised
  · cases hcall
    cases existing with
    | finish =>
      exact DaemonState.Told.of_next h hsound.keyed (by simp [ServiceCall.states]) hcalled
        hd.inflightExecutions hd.raised
    | cancel =>
      by_cases hannounced : s.daemon.dashboard.Announced
          ⟨"devicelane.service.pause", idText_servicePause⟩ remoteAccessPause c.nowMs
      · exact DaemonState.Told.of_pause h hsound.keyed (htells hannounced) hcalled
          hd.inflightExecutions hd.raised
      · refine DaemonState.Told.of_same h ?_ hd.inflightExecutions hd.raised
        rw [hcalled]
        exact DashboardService.sameActivities_of_not_announced hannounced _ _

theorem told_startRemoteExecution (hsound : s.Sound) (h : s.Told) (activityId : ActivityId)
    (workspacePath requestId appPath : String) :
    (s.startRemoteExecution activityId workspacePath requestId appPath).Told := by
  rcases DaemonState.exec_prepareRemoteExecution hsound.boundary activityId workspacePath requestId
    appPath with ⟨e, hexec⟩ | ⟨config, activity, grant, hprepares, hexec⟩
  · rw [startRemoteExecution, hexec]
    exact h
  · rw [startRemoteExecution, hexec]
    intro other token current htoken hlookup hcancelled
    change (s.daemon.inflightExecutions.insert activityId s.daemon.issued).lookup other = _ at htoken
    rw [Map.lookup_insert] at htoken
    split at htoken
    · obtain rfl : activity = current := by
        rw [‹other = activityId›] at hlookup
        exact Option.some.inj (hprepares.recorded.symm.trans hlookup)
      have hqueued := DaemonState.queued_of_executable hprepares.executable
      rw [hqueued] at hcancelled
      cases hcancelled
    · exact h other token current htoken hlookup hcancelled

theorem told_handle (hsound : s.Sound) (h : s.Told) {request : LocalRequest} {c : Circumstances}
    (htells : s.Tells (.request request c)) : (s.handle request c).Told := by
  have hhandled : ∀ request, DaemonState.Handled c s.daemon.session request s.daemon
      ((DaemonState.handleAuthorized request c s.daemon.session).exec s.daemon).2 :=
    fun request => DaemonState.handled_handleAuthorized request s.daemon
  cases request with
  | startRemoteExecution =>
    exact told_startRemoteExecution hsound h _ _ _ _
  | cancelActivity => exact DaemonState.Told.of_cancelActivity h hsound.keyed htells
  | pauseRemoteAccessWithJobs => exact told_pause hsound h (hhandled _) htells
  | _ =>
    refine told_of_handled hsound h (hhandled _) fun call hcall => ?_
    cases hcall <;> simp [ServiceCall.states]

theorem told_stepWorker (hsound : s.Sound) (h : s.Told) (token : Token) (o : Outside) :
    (s.stepWorker token o).Told := by
  rw [stepWorker]
  cases hw : s.workers.lookup token with
  | none => exact h
  | some w =>
    change (w.step o s.daemon).1.Told
    have hmoved : w.Moved s.daemon (w.step o s.daemon).1 := Worker.moved_step o
    generalize (w.step o s.daemon).1 = d at hmoved ⊢
    cases hmoved with
    | kept => exact h
    | observed | lost =>
      exact DaemonState.Told.of_next h hsound.keyed (by simp [ServiceCall.states]) rfl rfl
        fun _ hraised => hraised
    | left =>
      intro activityId other current htoken hlookup hcancelled
      change (s.daemon.inflightExecutions.erase w.activityId).lookup activityId = _ at htoken
      rw [Map.lookup_erase] at htoken
      split at htoken
      · cases htoken
      · exact h activityId other current htoken hlookup hcancelled

/-- **Where all steps tell, the workers of cancelled activities are told**, in every state of a run. -/
theorem told_of_run (hfresh : s.Fresh) {inputs : List Input}
    (hinputs : Runs.AllSteps next Tells inputs s) : Runs.Always next Told inputs s := by
  have hboth : Runs.Always next (fun s => s.Sound ∧ s.Told) inputs s := by
    refine hinputs.always (fun s input hs htells => ?_) ⟨hfresh.sound, ?_⟩
    · refine ⟨sound_next hs.1 input, ?_⟩
      cases input with
      | request request c => exact told_handle hs.1 hs.2 htells
      | worker token o => exact told_stepWorker hs.1 hs.2 token o
    · intro activityId token current htoken
      rw [hfresh.inflightExecutions] at htoken
      cases htoken
  exact fun before after happend => (hboth before after happend).2

/-! ### A pause that cancels without a word -/

omit [Sha256] in
theorem idText_build : IdText "build" := by decide

omit [Sha256] in
def sampleBuild : ActivityId := ⟨"build", idText_build⟩

def sampleCancelled (audit : AuditState) : ActivityEvent := (sampleEvent sampleBuild audit).cancelled 0

theorem checkEvent_sampleCancelled (audit : AuditState) :
    EventJournal.checkEvent ("cancel:" ++ sampleBuild.text) (sampleCancelled audit)
        = .ok (sampleCancelled audit).toJson.toVec ∧
      (sampleCancelled audit).toJson.toVec.length ≤ 2 ^ 18 := by
  have hnum : (sampleCancelled audit).InU64 :=
    { sequence_le := Nat.min_le_right _ _
      occurredAtMs_le := Nat.zero_le _
      metrics := ⟨trivial, trivial, trivial, trivial⟩
      startedAtMs_le := fun _ ht => absurd ht (Option.not_mem_none _)
      finishedAtMs_le := fun t ht => by
        cases ht
        exact Nat.zero_le _
      digest_le := DashboardService.digest_le_of_request (validate_sampleAccess sampleBuild) }
  have hvalid : (sampleCancelled audit).validate = .ok () := rfl
  have hmessage : ∀ m ∈ (sampleCancelled audit).message, m.validate = .ok () := by
    intro m hm
    cases hm
    rfl
  have hlength := ActivityEvent.length_toJson_le hnum hvalid hmessage
  exact ⟨EventJournal.checkEvent_eq_ok hvalid hmessage (by decide) (by decide), by omega⟩

omit [Sha256] in
theorem idText_auth3 : IdText ("admin-auth-" ++ Nat.repr 3) := by decide

omit [Sha256] in
theorem idText_pause5 : IdText ("admin-" ++ Nat.repr 5 ++ "-" ++ remoteAccessPause.text) := by decide

theorem kept_of_announcement {s : DashboardService} (hkeyed : s.Keyed)
    (hnumber : s.nextAuditSequence = 5 + 1) {record : ActivityEvent}
    (hlookup : s.activities.lookup sampleBuild = some record) :
    ((DashboardService.publishPaused remoteAccessPause
      (DashboardService.appendLocalEvent remoteAccessPause 0) false 0).exec s).2.activities.lookup
        sampleBuild = some record := by
  refine (DashboardService.puts_publishPaused (DashboardService.puts_appendLocalEvent hkeyed rfl hnumber
    remoteAccessPause 0) remoteAccessPause false 0).keeps
      (I := fun activities => activities.lookup sampleBuild = some record) ?_ hlookup
  intro activities event hkept hput
  have hparse : Except.ok ⟨_, idText_pause5⟩ = Except.ok event.activityId :=
    (DashboardService.parseId_of_idText idText_pause5).symm.trans hput.activityId
  rw [Map.lookup_insert_ne, hkept]
  intro heq
  rw [← heq] at hparse
  exact absurd (congrArg ValidatedId.text (Except.ok.inj hparse)) (by decide)

theorem cancelled_of_pause {audit audit' : AuditState}
    (hcalm : (approvedService sampleBuild audit audit').Calm 4)
    (hkeyed : (approvedService sampleBuild audit audit').Keyed) :
    ∃ record, ((DashboardService.pause .cancel sampleCircumstances.hash 0).exec
      (approvedService sampleBuild audit audit')).2.activities.lookup sampleBuild = some record ∧
        record.state = .cancelled := by
  obtain ⟨_, hannounced, hcalm₁⟩ := hcalm.auditLocal (by decide) remoteAccessPause .attempted
    (by decide : 0 < dayMs)
  have hpaused := hcalm₁.core (approvedService sampleBuild audit audit').policy
    (approvedService sampleBuild audit audit').pending
    (approvedService sampleBuild audit audit').adminGrants true
  obtain ⟨hchecked, hsize⟩ := checkEvent_sampleCancelled audit
  have hlookup : (approvedService sampleBuild audit audit').activities.lookup sampleBuild
      = some (sampleEvent sampleBuild audit) := Map.lookup_insert_self _ _ _
  have hsequence := sequence_sampleEvent sampleBuild audit
  have hexpected : EventJournal.expectedSequence ((approvedService sampleBuild audit
      audit').events.activitySequences.lookup sampleBuild) = some (sampleCancelled audit).sequence := by
    have hlast : (approvedService sampleBuild audit audit').events.activitySequences.lookup sampleBuild
        = some (sampleEvent sampleBuild audit).sequence := Map.lookup_insert_self _ _ _
    rw [hlast, hsequence]
    exact congrArg (fun n => some (saturatingAdd n 1)) (sequence_sampleEvent sampleBuild audit).symm
  have hfresh : (approvedService sampleBuild audit audit').events.idempotency.lookup
      ("cancel:" ++ sampleBuild.text) = none := by
    change (Map.insert (Map.insert ∅ ("approval-request:" ++ hex PolicyEngine.sampleNonce.toList) _)
      ("approval-decision:" ++ hex PolicyEngine.sampleNonce.toList) _).lookup _ = none
    rw [Map.lookup_insert_ne (by decide), Map.lookup_insert_ne (by decide), Map.lookup_empty]
  obtain ⟨_, hcancelled⟩ := hpaused.cancelActivityInner (by decide) hlookup rfl rfl (by decide)
    hchecked hsize hfresh (congrArg (fun n => saturatingAdd n 1) hsequence |>.trans_ne (by decide))
    hexpected
  have hauthorized := DashboardService.exec_authorizeAdmin_of_managed
    (s := approvedService sampleBuild audit audit') (n := 3) rfl rfl idText_auth3
    ⟨"devicelane.service.pause", idText_servicePause⟩ .deviceLaneService none 0
  have hall : ∀ t : DashboardService, t.activities.keys = [sampleBuild] →
      ∀ t', (DashboardService.cancelActivityInner sampleBuild 0).exec t = (.ok true, t') →
        (DashboardService.cancelAll 0 (sampleCircumstances.hash.order t.activities.keys)).exec t
          = (.ok (), t') := by
    intro t hkeys t' hexec
    have horder : sampleCircumstances.hash.order t.activities.keys = [sampleBuild] := hkeys
    rw [horder, DashboardService.cancelAll, exec_bind_ok hexec]
    rfl
  rw [DashboardService.pause, exec_bind_ok hauthorized, exec_bind_ok hannounced,
    exec_bind_ok (exec_modify _ _), exec_bind_ok (exec_get _)]
  dsimp only
  rw [if_pos rfl, exec_bind_ok (DashboardService.exec_publishPaused_ok (hall _ rfl _ hcancelled))]
  refine ⟨sampleCancelled audit, kept_of_announcement ?_ rfl (Map.lookup_insert_self _ _ _), rfl⟩
  exact (DashboardService.Put.of (P := fun _ _ => True) (sampleCancelled audit) trivial).keyed hkeyed

theorem exec_pauseRemoteAccessWithJobs (existing : ExistingJobs) (c : Circumstances)
    (d : DaemonState) :
    ((DaemonState.pauseRemoteAccessWithJobs existing c).exec d).2.dashboard
        = ((DashboardService.pause existing c.hash c.nowMs).exec d.dashboard).2 ∧
      ((DaemonState.pauseRemoteAccessWithJobs existing c).exec d).2.inflightExecutions
        = d.inflightExecutions ∧
      ((DaemonState.pauseRemoteAccessWithJobs existing c).exec d).2.raised = d.raised := by
  rw [DaemonState.pauseRemoteAccessWithJobs, exec_bind, DaemonState.exec_onDashboard]
  rcases (DashboardService.pause existing c.hash c.nowMs).exec d.dashboard with ⟨outcome, _⟩
  cases outcome with
  | ok | error => exact ⟨rfl, rfl, rfl⟩

theorem run_sampleStart : ∃ audit audit',
    (approvedService sampleBuild audit audit').Calm 4 ∧
      (approvedService sampleBuild audit audit').Keyed ∧
      run (sampleApproval sampleBuild ++ [sampleStart sampleBuild]) sampleSystem =
        ⟨DaemonState.reserved sampleBuild
          { sampleSystem.daemon with dashboard := approvedService sampleBuild audit audit' },
          (run (sampleApproval sampleBuild ++ [sampleStart sampleBuild]) sampleSystem).workers⟩ := by
  obtain ⟨audit, audit', hrun, hcalm⟩ := run_sampleApproval sampleBuild
  have hsound := sound_run fresh_sampleSystem.sound (sampleApproval sampleBuild)
  have hoffers : Offers sampleBuild (sampleEvent sampleBuild audit)
      (run (sampleApproval sampleBuild) sampleSystem).daemon := by
    rw [hrun]
    exact ⟨rfl, rfl, rfl, Map.lookup_insert_self _ _ _⟩
  obtain ⟨_, hstarts, hactivity, -⟩ := hoffers.starts (by rw [hrun]; rfl)
  have hnext := (prepares_of_starts hsound hstarts).2
  refine ⟨audit, audit', hcalm, ?_, ?_⟩
  · have hkeyed := hsound.keyed
    rwa [hrun] at hkeyed
  · have hlast : run (sampleApproval sampleBuild ++ [sampleStart sampleBuild]) sampleSystem
        = (run (sampleApproval sampleBuild) sampleSystem).next (sampleStart sampleBuild) := by
      rw [run, List.foldl_append, List.foldl_cons, List.foldl_nil, run]
    rw [hlast, hnext, hactivity, hrun]
    rfl

/-- In every run the workers of cancelled activities have been told. -/
def AlwaysTold : Prop :=
  ∀ (s : System) (inputs : List Input), s.Fresh → Runs.Always next Told inputs s

omit [Sha256] in
/-- A pause cancels the activity of a worker that it does not tell. -/
theorem not_alwaysTold : ¬∃ _ : Sha256, AlwaysTold := by
  rintro ⟨_, halways⟩
  obtain ⟨audit, audit', hcalm, hkeyed, hrun⟩ := run_sampleStart
  have htold := (halways sampleSystem (sampleApproval sampleBuild ++ [sampleStart sampleBuild]
    ++ [.request (.pauseRemoteAccessWithJobs .cancel) sampleCircumstances]) fresh_sampleSystem).last
  rw [List.foldl_append, List.foldl_cons, List.foldl_nil] at htold
  change (next (run _ _) _).Told at htold
  rw [hrun] at htold
  obtain ⟨hdashboard, hinflight, hraised⟩ := exec_pauseRemoteAccessWithJobs .cancel sampleCircumstances
    (DaemonState.reserved sampleBuild
      { sampleSystem.daemon with dashboard := approvedService sampleBuild audit audit' })
  obtain ⟨record, hrecord, hcancelled⟩ := cancelled_of_pause hcalm hkeyed
  have hset := htold sampleBuild 0 record
    ((congrArg (fun inflight => inflight.lookup sampleBuild) hinflight).trans
      (Map.lookup_insert_self _ _ _))
    ((congrArg (fun dashboard => dashboard.activities.lookup sampleBuild) hdashboard).trans hrecord)
    hcancelled
  exact absurd (hraised ▸ hset) List.not_mem_nil

theorem auditsCancel_of_calm {s : DashboardService} (hcalm : s.Calm 4) {current : ActivityEvent}
    (hresources : validateUniqueResources current.resources = .ok ()) : s.AuditsCancel current 0 := by
  obtain ⟨_, hattempted, hcalm'⟩ := hcalm.auditAccessFromEvent (by decide) .attempted none
    (by decide : 0 < dayMs) hresources
  obtain ⟨_, hcancelled, -⟩ := hcalm'.auditAccessFromEvent (by decide) .cancelled
    (some .operationCancelled) (by decide : 0 < dayMs) hresources
  intro _
  change ((DashboardService.auditAccessFromEventWithMessage current .cancelled _ 0).exec
    ((DashboardService.auditAccessFromEventWithMessage current .attempted none 0).exec s).2).1 = _
  rw [hattempted, hcancelled]

omit [Sha256] in
/-- The worker of an activity that is cancelled by its name has been told. -/
theorem sampleCancel_told : letI := EventJournal.eventHash
    Runs.Always next Told (sampleApproval sampleBuild ++ [sampleStart sampleBuild]
      ++ [.request (.cancelActivity sampleBuild) sampleCircumstances]) sampleSystem := by
  let _ := EventJournal.eventHash
  obtain ⟨audit, audit', hcalm, -, hrun⟩ := run_sampleStart
  have htells : Tells (run (sampleApproval sampleBuild ++ [sampleStart sampleBuild]) sampleSystem)
      (.request (.cancelActivity sampleBuild) sampleCircumstances) := by
    rw [hrun]
    intro _ token current _ hlookup _
    obtain rfl : sampleEvent sampleBuild audit = current :=
      Option.some.inj ((Map.lookup_insert_self _ _ _).symm.trans hlookup)
    exact .inr (auditsCancel_of_calm hcalm rfl)
  refine told_of_run fresh_sampleSystem (Runs.allSteps_append.2
    ⟨allSteps_sampleStart (fun _ => trivial) (fun _ => trivial) (fun _ => trivial) _, htells, trivial⟩)

end System

end Daemon
