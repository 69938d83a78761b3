/-
**The journal of the service.**

The service starts without a checkpoint or from one, and goes on by its calls. Whatever they are, its
journal stays sound: what is retained in it was checked, and is found by its key.

An event that is recorded a second time is recognized by the journal, which takes nothing in. The
service makes it the current record of its activity all the same.

Main definitions:

* `Dashboard.DashboardService.SoundJournal` — the invariant of the journal.

Main results:

* `harmless_iff_current` — **recording a retained event again changes nothing exactly if the event is
  the current record of its activity**.
-/

import DeviceLane.Dashboard.ServiceProgress

namespace Dashboard

namespace EventJournal

open Effect

variable [Sha256]

variable {inner : EventJournal}

/-! ### Retained events -/

def Checked (inner : EventJournal) : Prop :=
  ∀ stored ∈ inner.events,
    checkEvent stored.idempotencyKey stored.event = .ok stored.event.toJson.toVec

omit [Sha256] in
theorem Checked.rotateLocked (inner : EventJournal) (epoch snapshotRevision : ℕ) :
    (inner.rotateLocked epoch snapshotRevision).Checked :=
  List.forall_mem_nil _

theorem Checked.change {inner' : EventJournal} {entries : List Entry} (h : inner.Checked)
    (hchange : Change inner entries inner') : inner'.Checked := by
  cases hchange with
  | subscribers => exact h
  | rotated => exact .rotateLocked inner _ _
  | restored => exact h
  | @published idempotencyKey event eventJson haccepts =>
    have hopened : (inner.opened event).Checked := by
      rw [opened]
      split
      · exact .rotateLocked inner _ _
      · exact h
    obtain ⟨_, _, _, hevents, hpublish⟩ :=
      publish_eq (inner.opened event) idempotencyKey event eventJson
        ((inner.opened event).nextCursorSequence + 1)
    rw [hpublish]
    intro stored hstored
    rcases List.mem_append.1 hstored with hretained | hnew
    · exact hopened stored (hevents ▸ List.mem_append_right _ hretained)
    · rw [List.mem_singleton.1 hnew, haccepts.checked, eq_toVec_of_checkEvent haccepts.checked]

structure Sound (inner : EventJournal) : Prop where
  consistent : ∃ log, inner.Consistent log
  checked : inner.Checked

theorem Sound.change {inner' : EventJournal} {entries : List Entry} (h : inner.Sound)
    (hchange : Change inner entries inner') : inner'.Sound := by
  obtain ⟨log, hlog⟩ := h.consistent
  exact ⟨⟨log ++ entries, hlog.change hchange⟩, h.checked.change hchange⟩

theorem sound_of_reachable (h : Reachable inner) : inner.Sound := by
  obtain ⟨_, _, log, hhistory⟩ := reachable_iff_history.1 h
  induction hhistory with
  | withBounds =>
    exact ⟨⟨[], consistent_withBounds _ _ _ _⟩, List.forall_mem_nil _⟩
  | @step inner inner' log entries hprevious hstep ih =>
    have hsound := ih (reachable_iff_history.2 ⟨_, _, _, hprevious⟩)
    obtain ⟨_, hlog'⟩ := hsound.consistent
    exact hsound.change (hstep.change hlog'.bounded)

/-- **An event that is retained is recognized by its key.** -/
theorem Sound.plan_eq_none (h : inner.Sound) {stored : StoredEvent} (hstored : stored ∈ inner.events) :
    inner.plan stored.idempotencyKey stored.event = .ok none := by
  obtain ⟨_, hlog⟩ := h.consistent
  have hkey : inner.idempotency.lookup stored.idempotencyKey = some stored.record :=
    (hlog.idempotency_iff _ _).2 ⟨stored, hstored, rfl, rfl⟩
  rw [plan, h.checked stored hstored, ok_bind, hkey]
  exact if_pos rfl

end EventJournal

namespace DashboardService

open Effect

variable [Sha256]

variable {s : DashboardService} {event : ActivityEvent} {idempotencyKey : String}

/-! ### The states of the service -/

inductive Started : DashboardService → Prop
  | new (localHostId : HostId) {events : EventJournal} (hevents : events.Reachable)
      (audit : AuditState) (policy : PolicyEngine) :
      Started (new localHostId events audit policy)
  | newPersistent (localHostId : HostId) {events : EventJournal} (hevents : events.Reachable)
      (audit : AuditState) (policy : PolicyEngine) (file : CheckpointFile)
      (read : Except AuditError (Option ActivityCheckpoint)) (hash : HashOrder ActivityEvent)
      (nowMs : ℕ)
      (h : (newPersistent localHostId events audit policy file read hash nowMs).1 = .ok ()) :
      Started (newPersistent localHostId events audit policy file read hash nowMs).2

/-- The states of the service, after any calls. -/
def Reachable (s : DashboardService) : Prop :=
  ∃ s₀ calls, Started s₀ ∧ s = runCalls calls s₀

theorem preserves_runCalls {P : DashboardService → Prop} (h : FullFrame (Preserves P))
    (calls : List ServiceCall) (s : DashboardService) : Preserves P s (runCalls calls s) :=
  Preserves.foldl (fun s call => h.program call s) calls s

/-! ### The journal stays sound -/

def SoundJournal (s : DashboardService) : Prop := s.events.Sound

theorem soundJournal_recordActivity (event : ActivityEvent) (idempotencyKey : String) :
    Within (Preserves SoundJournal) (recordActivity event idempotencyKey) := by
  intro s hs
  rw [exec_recordActivity]
  cases hplan : s.events.plan idempotencyKey event with
  | error => exact hs
  | ok planned =>
    cases planned with
    | none => exact hs
    | some =>
      dsimp only
      split
      · exact hs.change (EventJournal.change_opened s.events event)
      · exact hs.change (.published (EventJournal.plan_eq_some_iff.1 hplan))

theorem soundJournal_appendAudit (record : RawAuditRecord) :
    Within (Preserves SoundJournal) (appendAudit record) := by
  intro _ hs
  rw [exec_appendAudit]
  split
  · exact hs
  split
  · exact hs
  · split
    · exact hs
    · exact hs

theorem fullFrame_soundJournal : FullFrame (Preserves SoundJournal) where
  appendAudit := soundJournal_appendAudit
  recordActivity := soundJournal_recordActivity
  persistState activities s hs := by
    rw [exec_persistState]
    exact hs
  deleteAudit _ _ _ hs := hs
  unhealthy _ hs := hs
  adminGrants _ _ hs := hs
  paused _ _ hs := hs
  rules _ _ hs := hs
  subscribers _ subscribers hs := hs.change (.subscribers subscribers)
  core _ _ _ _ hs := hs

theorem soundJournal_restoreActivities (activities : List ActivityEvent) :
    Within (Preserves SoundJournal) (restoreActivities activities) := by
  induction activities with
  | nil => exact .pure _
  | cons activity activities ih =>
    have hrestore : Within (Preserves SoundJournal)
        (onPart DashboardService.events (fun events s => { s with events })
          (fun _ => .returned .auditUnavailable)
          (EventJournal.restoreActivitySequence activity.activityId activity.sequence) :
          ServiceEff Unit) := by
      intro s hs
      obtain ⟨_, hlog⟩ := hs.consistent
      exact hs.change ((EventJournal.Step.restoreActivitySequence s.events activity.activityId
        activity.sequence).change hlog.bounded)
    refine Within.bind (.throwIf _ _) fun _ => Within.get fun s => ?_
    refine Within.bind (R := Preserves SoundJournal) (.throwIf _ _) (fun _ => ?_) s
    exact Within.bind hrestore fun _ => Within.bind (.modify fun _ hs => hs) fun _ => ih

theorem soundJournal_restore (checkpoint : ActivityCheckpoint) (hash : HashOrder ActivityEvent)
    (nowMs : ℕ) : Within (Preserves SoundJournal) (restore checkpoint hash nowMs) := by
  have hpolicy : Within (Preserves SoundJournal)
      (onPart DashboardService.policy (fun policy s => { s with policy })
        (fun _ => .returned .auditUnavailable)
        (PolicyEngine.restoreCheckpoint checkpoint.payload.policy) : ServiceEff Unit) :=
    fun _ hs => hs
  refine Within.bind (.throwIf _ _) fun _ => Within.get fun s => ?_
  refine Within.bind (R := Preserves SoundJournal) (.throwIf _ _) (fun _ => ?_) s
  refine Within.bind (.orThrow _ _) fun digest => Within.bind (.throwIf _ _) fun _ => ?_
  refine Within.bind (soundJournal_restoreActivities _) fun _ => ?_
  refine Within.bind (.throwIf _ _) fun _ => Within.bind (.throwIf _ _) fun _ => ?_
  refine Within.bind (.modify fun _ hs => hs) fun _ => Within.bind hpolicy fun _ => ?_
  refine Within.bind (.modify fun _ hs => hs) fun _ => ?_
  exact Within.bind (fullFrame_soundJournal.reconcileAfterRestart _ _) fun _ => .pure _

theorem soundJournal_of_reachable (h : s.Reachable) : s.SoundJournal := by
  obtain ⟨s₀, calls, hstarted, rfl⟩ := h
  apply preserves_runCalls fullFrame_soundJournal calls s₀
  cases hstarted with
  | new localHostId hevents => exact EventJournal.sound_of_reachable hevents
  | newPersistent localHostId hevents audit policy file read hash nowMs =>
    have hsound := EventJournal.sound_of_reachable hevents
    cases read with
    | error => exact hsound
    | ok content =>
      cases content with
      | none => exact hsound
      | some checkpoint => exact soundJournal_restore checkpoint hash nowMs _ hsound

/-! ### Recording an event again -/

/-- Recording an event succeeds and changes nothing. -/
structure Harmless (s : DashboardService) (event : ActivityEvent) (idempotencyKey : String) :
    Prop where
  ok : ((recordActivity event idempotencyKey).exec s).1 = .ok ()
  events : ((recordActivity event idempotencyKey).exec s).2.events = s.events
  checkpoint : ((recordActivity event idempotencyKey).exec s).2.checkpoint = s.checkpoint
  activities : ∀ id, ((recordActivity event idempotencyKey).exec s).2.activities.lookup id
    = s.activities.lookup id

/-- The journal retains an event under its key. -/
def Retains (s : DashboardService) (event : ActivityEvent) (idempotencyKey : String) : Prop :=
  ∃ stored ∈ s.events.events, stored.event = event ∧ stored.idempotencyKey = idempotencyKey

theorem retains_pushed (s : DashboardService) (event : ActivityEvent) (idempotencyKey : String)
    (activities : Map ActivityId ActivityEvent) :
    ({ s with events := s.events.pushed idempotencyKey event, activities } :
      DashboardService).Retains event idempotencyKey :=
  ⟨_, List.mem_append_right _ (List.mem_singleton_self _), rfl, rfl⟩

theorem Retains.pushed (h : s.Retains event idempotencyKey) (other : ActivityEvent) (otherKey : String)
    (activities : Map ActivityId ActivityEvent) :
    ({ s with events := s.events.pushed otherKey other, activities } :
      DashboardService).Retains event idempotencyKey := by
  obtain ⟨stored, hstored, hevent, hkey⟩ := h
  exact ⟨stored, List.mem_append_left _ hstored, hevent, hkey⟩

theorem exec_recordActivity_of_retains (h : s.SoundJournal) (hretains : s.Retains event idempotencyKey) :
    (recordActivity event idempotencyKey).exec s =
      (.ok (), { s with activities := s.activities.insert event.activityId event }) := by
  obtain ⟨_, hstored, rfl, rfl⟩ := hretains
  rw [exec_recordActivity, h.plan_eq_none hstored]

theorem current_of_harmless (h : s.Reachable) (hretains : s.Retains event idempotencyKey)
    (hharmless : s.Harmless event idempotencyKey) :
    s.activities.lookup event.activityId = some event := by
  have hsame := hharmless.activities event.activityId
  rw [exec_recordActivity_of_retains (soundJournal_of_reachable h) hretains,
    Map.lookup_insert_self] at hsame
  exact hsame.symm

/-- **Recording a retained event again changes nothing exactly if the event is the current record of
its activity.** -/
theorem harmless_iff_current {s : DashboardService} (h : s.Reachable) {event : ActivityEvent}
    {idempotencyKey : String} (hretains : s.Retains event idempotencyKey) :
    s.Harmless event idempotencyKey ↔ s.activities.lookup event.activityId = some event := by
  have hexec := exec_recordActivity_of_retains (soundJournal_of_reachable h) hretains
  constructor
  · exact current_of_harmless h hretains
  · intro hcurrent
    refine ⟨?_, ?_, ?_, fun id => ?_⟩
    · rw [hexec]
    · rw [hexec]
    · rw [hexec]
    · rw [hexec, Map.lookup_insert]
      split
      · rename_i hid
        rw [hid, hcurrent]
      · rfl

/-! ### An older event that comes back -/

def secondEvent : ActivityEvent := { EventJournal.sampleEvent with sequence := 2 }

def AllSucceed : List ServiceCall → DashboardService → Prop
  | [], _ => True
  | call :: calls, s => (call.program.exec s).1 = .ok () ∧ AllSucceed calls (call.next s)

/-- Recording an event again is harmless as long as the event is retained. -/
def ReplayHarmless : Prop :=
  ∀ s₀ before later event idempotencyKey, Started s₀ →
    AllSucceed (.recordActivity event idempotencyKey :: later) (DashboardService.runCalls before s₀) →
    (DashboardService.runCalls (.recordActivity event idempotencyKey :: later)
      (DashboardService.runCalls before s₀)).Retains event idempotencyKey →
    (DashboardService.runCalls (.recordActivity event idempotencyKey :: later)
      (DashboardService.runCalls before s₀)).Harmless event idempotencyKey

theorem started_sampleService : Started sampleService :=
  .new _ (.withBounds 1 0 Dashboard.maxEvents maxEventBytes) _ _

def firstRecorded : DashboardService :=
  { sampleService with
    events := sampleService.events.pushed "first" EventJournal.sampleEvent
    activities := sampleService.activities.insert EventJournal.sampleEvent.activityId
      EventJournal.sampleEvent }

def secondRecorded : DashboardService :=
  { firstRecorded with
    events := firstRecorded.events.pushed "second" secondEvent
    activities := firstRecorded.activities.insert secondEvent.activityId secondEvent }

theorem retains_firstRecorded : firstRecorded.Retains EventJournal.sampleEvent "first" :=
  retains_pushed _ _ _ _

theorem exec_first :
    (recordActivity EventJournal.sampleEvent "first").exec sampleService = (.ok (), firstRecorded) ∧
      firstRecorded.Calm 1 := by
  have hlength := EventJournal.length_sampleEvent
  exact calm_sampleService.recordActivity (by omega) EventJournal.checkEvent_first (by omega) rfl
    (by decide) rfl

theorem exec_second :
    (recordActivity secondEvent "second").exec firstRecorded = (.ok (), secondRecorded) ∧
      secondRecorded.Calm 2 := by
  have hnum : secondEvent.InU64 :=
    { EventJournal.inU64_sampleEvent with sequence_le := by decide }
  have hlength := ActivityEvent.length_toJson_le hnum (rfl : secondEvent.validate = .ok ())
    (fun _ hmessage => absurd hmessage (Option.not_mem_none _))
  have hnone : firstRecorded.events.idempotency.lookup "second" = none := by
    change (Map.insert ∅ "first" _).lookup "second" = none
    rw [Map.lookup_insert_ne (by decide), Map.lookup_empty]
  have hone : firstRecorded.events.activitySequences.lookup secondEvent.activityId = some 1 :=
    Map.lookup_insert_self _ _ _
  refine exec_first.2.recordActivity (by omega) ?_ (by omega) hnone (by decide) ?_
  · exact EventJournal.checkEvent_eq_ok rfl
      (fun _ hmessage => absurd hmessage (Option.not_mem_none _)) (by decide) (by decide)
  · rw [hone]
    rfl

omit [Sha256] in
/-- The first event comes back after the second one. -/
theorem not_replayHarmless : ¬∃ _ : Sha256, ReplayHarmless := by
  rintro ⟨_, hharmless⟩
  have hfirst : (ServiceCall.program (.recordActivity EventJournal.sampleEvent "first")).exec
      sampleService = (.ok (), firstRecorded) := by
    rw [program_recordActivity, exec_first.1]
  have hsecond : (ServiceCall.program (.recordActivity secondEvent "second")).exec firstRecorded
      = (.ok (), secondRecorded) := by
    rw [program_recordActivity, exec_second.1]
  have hrun : DashboardService.runCalls [.recordActivity EventJournal.sampleEvent "first",
      .recordActivity secondEvent "second"] (DashboardService.runCalls [] sampleService)
      = secondRecorded := by
    rw [runCalls_nil, runCalls_cons, next_of_exec hfirst, runCalls_cons, next_of_exec hsecond,
      runCalls_nil]
  have hsucceed : AllSucceed [.recordActivity EventJournal.sampleEvent "first",
      .recordActivity secondEvent "second"] sampleService := by
    refine ⟨by rw [hfirst], ?_, trivial⟩
    rw [next_of_exec hfirst, hsecond]
  have hback := hharmless sampleService [] [.recordActivity secondEvent "second"]
    EventJournal.sampleEvent "first" started_sampleService hsucceed
  rw [hrun] at hback
  have hretains : secondRecorded.Retains EventJournal.sampleEvent "first" :=
    retains_firstRecorded.pushed _ _ _
  have hreachable : secondRecorded.Reachable := ⟨sampleService, _, started_sampleService, hrun.symm⟩
  have hcurrent := current_of_harmless hreachable hretains (hback hretains)
  have hlatest : secondRecorded.activities.lookup EventJournal.sampleEvent.activityId
      = some secondEvent := Map.lookup_insert_self _ _ _
  rw [hlatest] at hcurrent
  exact absurd (congrArg ActivityEvent.sequence (Option.some.inj hcurrent)) (by decide)

omit [Sha256] in
/-- Nothing changes when the only event is recorded again. -/
theorem firstRecorded_harmless : letI := EventJournal.eventHash
    firstRecorded.Harmless EventJournal.sampleEvent "first" := by
  let _ := EventJournal.eventHash
  have hreachable : firstRecorded.Reachable := by
    refine ⟨sampleService, [.recordActivity EventJournal.sampleEvent "first"],
      started_sampleService, ?_⟩
    rw [runCalls_cons, runCalls_nil]
    exact (next_of_exec (by rw [program_recordActivity, exec_first.1])).symm
  exact (harmless_iff_current hreachable retains_firstRecorded).2
    (Map.lookup_insert_self _ _ _)

end DashboardService

end Dashboard
