/-
**Polls for the events of a job.**

Whoever waits for an Apple job polls for its events, and asks each time for those with a number above the
largest one that it has seen. The numbers come from the agent, and from the registry where it rejects or
cancels a job itself. Each event is given to a poller exactly once, as long as every event comes with a
number above all that the poller has seen, and a crash takes away no event that it has not seen.

Main definitions:

* `Registry.Polled` — the registry with a poller, and what the registry has had and lost.

Main results:

* `Registry.eventLog_event` — an event of the registry adds to a job what it brings.
-/

import DeviceLane.Library.Polls
import DeviceLane.Registry.Lasting
import DeviceLane.Registry.Progress

namespace Registry

open Runs (AllSteps)
open Polls (mark CaughtUp)

/-! ### The log of a job -/

/-- The events of a job that the registry has: those in memory, or those on the disk where the state could
not be read. -/
def Runtime.eventLog (runtime : Runtime) (jobId : String) : List NetworkEvent :=
  if runtime.state.recoveryError.isSome then runtime.storedState.eventsOf jobId
  else runtime.state.eventsOf jobId

theorem eventLog_of_none {runtime : Runtime} (h : runtime.state.recoveryError = none) (jobId : String) :
    runtime.eventLog jobId = runtime.state.eventsOf jobId := by
  rw [Runtime.eventLog, h]
  rfl

theorem eventLog_of_some {runtime : Runtime} (h : runtime.state.recoveryError.isSome) (jobId : String) :
    runtime.eventLog jobId = runtime.storedState.eventsOf jobId :=
  if_pos h

theorem eventLog_start (env : Env) (again : DiskWrite) (unreadable : Option String)
    (debris : String → List UInt8) (runtime : Runtime) (jobId : String) :
    (start env again unreadable debris runtime).eventLog jobId = runtime.storedState.eventsOf jobId ∧
      (start env again unreadable debris runtime).storedState.eventsOf jobId
        = runtime.storedState.eventsOf jobId := by
  obtain ⟨-, hcore, -, hstored, -⟩ := start_cases env again unreadable debris runtime
  have hrecovery : (start env again unreadable debris runtime).state.recoveryError = unreadable := by
    rw [read_of_core DurableState.recoveryError (fun _ => rfl) hcore]
    cases unreadable <;> rfl
  cases unreadable with
  | none =>
    have hevents : (start env again none debris runtime).state.eventsOf jobId
        = runtime.storedState.eventsOf jobId := eventsOf_of_core hcore jobId
    refine ⟨(eventLog_of_none hrecovery jobId).trans hevents, ?_⟩
    rcases hstored with hsame | hsame
    · rw [hsame]
    · exact (eventsOf_of_core hsame jobId).trans hevents
  | some error =>
    have hsame := (idles_start env again error debris runtime).1
    have hsome : (start env again (some error) debris runtime).state.recoveryError.isSome := by
      rw [hrecovery]
      rfl
    rw [eventLog_of_some hsome, hsame]
    exact ⟨rfl, rfl⟩

section

variable [Sha256]

variable {jobId peerId : String}

/-- **The events that a step can bring for a job**: those of a batch that is taken whose numbers are new,
or the last word of the registry itself. -/
inductive Brings (config : Config) (env : Env) (event : Event) (runtime : Runtime) (jobId : String) :
    List NetworkEvent → Prop
  | batch {peerId : String} {events : List NetworkEvent} {terminal : Bool}
      (hevent : event = .request peerId (.appleProgress jobId events terminal))
      (htaken : runtime.takes config env peerId jobId events terminal) :
      Brings config env event runtime jobId
        ((DurableState.mergeEvents (runtime.state.eventsOf jobId) events).drop
          (runtime.state.eventsOf jobId).length)
  | rejected {hostId deviceId leaseId : String} {operation : AppleRequest}
      (hevent : event = .resume (.online hostId)) (hflight : .online hostId ∈ runtime.flights)
      (hholder : runtime.holder = none)
      (hnext : runtime.state.nextApple runtime.leases env.orders hostId = some (jobId, operation))
      (hneeds : leaseNeeded operation = some (deviceId, leaseId))
      (hlease : (runtime.leases.expire env.orders.active env.nowMs).leaseOf deviceId leaseId
        (runtime.state.jobClients.lookup jobId) = none) :
      Brings config env event runtime jobId [⟨1, "rejected", "lease_inactive"⟩]
  | cancelled {peerId : String} (hevent : event = .request peerId (.appleCancel jobId))
      (hholder : runtime.holder = none)
      (hclient : runtime.state.jobClients.lookup jobId = some peerId)
      (hpending : (runtime.state.applePending.lookup jobId).isSome)
      (hdispatched : jobId ∉ runtime.state.dispatched) :
      Brings config env event runtime jobId [⟨1, "cancelled", ""⟩]

variable {config : Config} {env : Env} {event : Event} {runtime : Runtime} {state : DurableState}
  {leases : LeaseBook}

theorem state_handle_or_free (config : Config) (env : Env) (event : Event) (runtime : Runtime) :
    (handle config env event runtime).1.state = runtime.state ∨
      (∀ peerId req, event = .request peerId req → runtime.holder = none) ∧
      ∀ hostId, event = .resume (.online hostId) →
        .online hostId ∈ runtime.flights ∧ runtime.holder = none := by
  cases event with
  | request peerId req =>
    rcases handle_request_cases config env peerId req runtime with ⟨_, hsame, -⟩ | ⟨hholder, -⟩
    · rw [hsame]
      exact .inl rfl
    · refine .inr ⟨fun _ _ _ => hholder, fun hostId hevent => ?_⟩
      cases hevent
  | resume flight =>
    rcases handle_resume_cases config env flight runtime with hsame | ⟨hmem, hneeds, -⟩
    · rw [hsame]
      exact .inl rfl
    · refine .inr ⟨fun peerId req hevent => ?_, fun hostId hevent => ?_⟩
      · cases hevent
      · cases hevent
        exact ⟨hmem, hneeds rfl⟩
  | settle =>
    refine .inr ⟨fun peerId req hevent => ?_, fun hostId hevent => ?_⟩
    · cases hevent
    · cases hevent

theorem eventsOf_brings (hnamed : runtime.state.Named) (hfresh : FreshName runtime event)
    (hchange : Change config env event runtime state leases)
    (hevent : ∀ peerId jobId events terminal,
      event ≠ .request peerId (.appleProgress jobId events terminal))
    (hrequest : ∀ peerId req, event = .request peerId req → runtime.holder = none)
    (hresume : ∀ hostId, event = .resume (.online hostId) →
      .online hostId ∈ runtime.flights ∧ runtime.holder = none) (key : String) :
    state.eventsOf (appleJobId key) = runtime.state.eventsOf (appleJobId key) ∨
      ∃ new, Brings config env event runtime (appleJobId key) new ∧
        state.eventsOf (appleJobId key) = runtime.state.eventsOf (appleJobId key) ++ new := by
  rcases eventsOf_unreported hnamed hfresh hchange hevent key with
    hsame | ⟨kind, payload, hdismissed, hstate⟩
  · exact .inl hsame
  refine .inr ⟨_, ?_, (eventsOf_of_core hstate _).trans (eventsOf_dismiss _ _ _ _)⟩
  cases hdismissed with
  | @rejected hostId deviceId leaseId operation honline hnext hneeds hlease =>
    obtain ⟨hflight, hholder⟩ := hresume hostId honline
    exact .rejected honline hflight hholder hnext hneeds hlease
  | cancelled hcancel hclient hpending hdispatched =>
    exact .cancelled hcancel (hrequest _ _ hcancel) hclient hpending hdispatched

theorem eventsOf_batch (config : Config) (env : Env) (peerId jobId : String)
    (events : List NetworkEvent) (terminal : Bool) (runtime : Runtime) (other : String) :
    (handle config env (.request peerId (.appleProgress jobId events terminal)) runtime).1.state.eventsOf
        other = runtime.state.eventsOf other ∨
      ∃ new, Brings config env (.request peerId (.appleProgress jobId events terminal)) runtime other
          new ∧
        (handle config env (.request peerId (.appleProgress jobId events terminal))
          runtime).1.state.eventsOf other = runtime.state.eventsOf other ++ new := by
  rcases step_progress config env peerId jobId events terminal runtime with
    ⟨htaken, hcore⟩ | ⟨-, hsame⟩
  · by_cases hjob : other = jobId
    · subst hjob
      refine .inr ⟨_, .batch rfl htaken, ?_⟩
      refine (eventsOf_of_core hcore other).trans ((eventsOf_taken _ _ _ _).trans ?_)
      obtain ⟨new, hnew⟩ : runtime.state.eventsOf other
          <+: FirstOf.merge NetworkEvent.sequence (runtime.state.eventsOf other) events :=
        FirstOf.prefix_merge _ _
      rw [mergeEvents_eq, ← hnew, List.drop_left]
    · exact .inl ((eventsOf_of_core hcore other).trans (eventsOf_taken_ne runtime.state hjob _ _))
  · exact .inl (congrArg (fun state => DurableState.eventsOf state other) hsame)

/-- **An event of the registry adds to a job what it brings.** -/
theorem eventLog_event (hnamed : runtime.state.Named) (hguarded : runtime.Guarded)
    (hfresh : FreshName runtime event) (config : Config) (env : Env) (key : String) :
    (handle config env event runtime).1.eventLog (appleJobId key) = runtime.eventLog (appleJobId key) ∨
      ∃ new, Brings config env event runtime (appleJobId key) new ∧
        (handle config env event runtime).1.eventLog (appleJobId key)
          = runtime.eventLog (appleJobId key) ++ new := by
  have hchange := handle_change config env event runtime
  have hrecovery := recoveryError_change hchange
  cases hbefore : runtime.state.recoveryError with
  | some =>
    have hsome : runtime.state.recoveryError.isSome := by
      rw [hbefore]
      rfl
    have hidles : Idles runtime (handle config env event runtime).1 :=
      idles_handle hsome (hguarded hsome) env event
    refine .inl ?_
    rw [eventLog_of_some (hrecovery ▸ hsome), eventLog_of_some hsome, hidles.stored]
  | none =>
    rw [eventLog_of_none (hrecovery.trans hbefore), eventLog_of_none hbefore]
    by_cases hevent : ∃ peerId jobId events terminal,
        event = .request peerId (.appleProgress jobId events terminal)
    · obtain ⟨peerId, jobId, events, terminal, rfl⟩ := hevent
      exact eventsOf_batch config env peerId jobId events terminal runtime _
    · have hother : ∀ peerId jobId events terminal,
          event ≠ .request peerId (.appleProgress jobId events terminal) :=
        fun peerId jobId events terminal heq => hevent ⟨peerId, jobId, events, terminal, heq⟩
      rcases state_handle_or_free config env event runtime with hsame | ⟨hrequest, hresume⟩
      · exact .inl (congrArg (fun state => DurableState.eventsOf state (appleJobId key)) hsame)
      · exact eventsOf_brings hnamed hfresh hchange hother hrequest hresume key

/-! ### Polls -/

/-- The registry, what a poller has been given, and what the registry has had and lost. -/
structure Polled where
  runtime : Runtime
  seen : List NetworkEvent
  lost : List NetworkEvent

/-- What happens next: something happens to the registry, or the poller asks. -/
inductive Watch
  | input (input : Input)
  | poll (env : Env)

namespace Polled

/-- Before anything happens. -/
def empty : Polled :=
  { runtime := Runtime.empty
    seen := []
    lost := [] }

/-- The answer to a poll: the poller asks for what lies above all that it has seen. -/
def answer (config : Config) (peerId jobId : String) (env : Env) (polled : Polled) : Option Response :=
  (handle config env (.request peerId (.events jobId (mark NetworkEvent.sequence polled.seen)))
    polled.runtime).2

def poll (config : Config) (peerId jobId : String) (env : Env) (polled : Polled) : Polled :=
  { polled with
    runtime := (handle config env
      (.request peerId (.events jobId (mark NetworkEvent.sequence polled.seen))) polled.runtime).1
    seen := polled.seen ++ (polled.answer config peerId jobId env).elim [] Response.events }

/-- The registry goes on; what it loses of the job is kept in mind until it comes back. -/
def goOn (config : Config) (jobId : String) (input : Input) (polled : Polled) : Polled :=
  let after := polled.runtime.next config input
  { polled with
    runtime := after
    lost := (polled.lost ++
        (polled.runtime.eventLog jobId).drop (after.eventLog jobId).length).diff
      ((after.eventLog jobId).drop (polled.runtime.eventLog jobId).length) }

def next (config : Config) (peerId jobId : String) (polled : Polled) : Watch → Polled
  | .input input => polled.goOn config jobId input
  | .poll env => polled.poll config peerId jobId env

end Polled

/-- **Every event is given to the poller exactly once**: after a poll that is answered it has seen each
event that was ever there once, those that the registry has lost included. -/
def PolledOnce (config : Config) (peerId jobId : String) (watches : List Watch) : Prop :=
  ∀ earlier env later, watches = earlier ++ .poll env :: later →
    ∀ polled, polled = earlier.foldl (Polled.next config peerId jobId) Polled.empty →
      ∀ answer, polled.answer config peerId jobId env = some answer → answer.accepted = true →
        (polled.seen ++ answer.events).Perm (polled.lost ++ polled.runtime.state.eventsOf jobId)

/-- What is new lies above the mark of the poller, or the poller saw it before it was lost, and nothing is
lost that it has not seen. -/
def Rising (config : Config) (jobId : String) (polled : Polled) : Watch → Prop
  | .input (.event env event) => FreshName polled.runtime event ∧
      ∀ new, Brings config env event polled.runtime jobId new →
        (new.filter fun e => e.sequence ≤ mark NetworkEvent.sequence polled.seen).Subperm polled.lost
  | .input (.start _ _ _ _) => polled.runtime.state.recoveryError = none →
      ∀ e ∈ (polled.runtime.state.eventsOf jobId).drop
          (polled.runtime.storedState.eventsOf jobId).length,
        e.sequence ≤ mark NetworkEvent.sequence polled.seen
  | .poll _ => True

structure Follows (jobId : String) (polled : Polled) : Prop where
  named : polled.runtime.Everywhere DurableState.Named fun _ => True
  guarded : polled.runtime.Guarded
  saved : polled.runtime.storedState.eventsOf jobId <+: polled.runtime.eventLog jobId
  caughtUp : CaughtUp NetworkEvent.sequence polled.lost (polled.runtime.eventLog jobId) polled.seen

theorem follows_empty (config : Config) (jobId : String) : Follows jobId Polled.empty := by
  have hempty : Runtime.empty.Everywhere DurableState.Named fun _ => True :=
    Runtime.everywhere_runInputs (named_keptByChanges config) []
  exact ⟨hempty, fun _ => rfl, List.prefix_refl _, Polls.caughtUp_nil⟩

theorem handle_events (config : Config) (env : Env) (peerId jobId : String) (after : ℕ)
    (runtime : Runtime) :
    (handle config env (.request peerId (.events jobId after)) runtime).1 = runtime ∧
      ((∀ answer, (handle config env (.request peerId (.events jobId after)) runtime).2 = some answer →
          answer.accepted = false ∧ answer.events = []) ∨
        runtime.state.recoveryError = none ∧
          (handle config env (.request peerId (.events jobId after)) runtime).2
            = some (jobEvents runtime.state jobId after)) := by
  rcases handle_request_cases config env peerId (.events jobId after) runtime with
    ⟨_, hsame, herror⟩ | ⟨-, -, hrequest⟩
  · rw [hsame]
    refine ⟨rfl, .inl fun answer hanswer => ?_⟩
    obtain ⟨_, rfl⟩ := herror answer hanswer
    exact ⟨rfl, rfl⟩
  · rw [hrequest]
    refine ⟨rfl, ?_⟩
    change (∀ answer, some (runtime.state.recoveryError.elim (jobEvents runtime.state jobId after)
      errorResponse) = some answer → _) ∨ _ ∧ some _ = _
    cases hrecovery : runtime.state.recoveryError with
    | none => exact .inr ⟨rfl, congrArg some rfl⟩
    | some =>
      refine .inl fun answer hanswer => ?_
      cases hanswer
      exact ⟨rfl, rfl⟩

variable {polled : Polled}

/-- **What a poll gives is what the poller has not seen.** -/
theorem Follows.answer (h : Follows jobId polled) {answer : Response}
    (hanswer : polled.answer config peerId jobId env = some answer)
    (haccepted : answer.accepted = true) :
    (polled.seen ++ answer.events).Perm (polled.lost ++ polled.runtime.state.eventsOf jobId) := by
  rcases (handle_events config env peerId jobId (mark NetworkEvent.sequence polled.seen)
    polled.runtime).2 with hrefused | ⟨hrecovery, hevents⟩
  · rw [(hrefused answer hanswer).1] at haccepted
    cases haccepted
  · have heq := Option.some.inj (hevents.symm.trans hanswer)
    rw [← heq, ← eventLog_of_none hrecovery]
    have hpoll := h.caughtUp.poll
    rw [eventLog_of_none hrecovery] at hpoll ⊢
    exact hpoll

theorem follows_poll (h : Follows jobId polled) (config : Config) (peerId : String) (env : Env) :
    Follows jobId (polled.poll config peerId jobId env) := by
  obtain ⟨hsame, hcases⟩ := handle_events config env peerId jobId
    (mark NetworkEvent.sequence polled.seen) polled.runtime
  have hruntime : (polled.poll config peerId jobId env).runtime = polled.runtime := hsame
  have hcaught : CaughtUp NetworkEvent.sequence polled.lost (polled.runtime.eventLog jobId)
      (polled.poll config peerId jobId env).seen := by
    change CaughtUp _ _ _ (polled.seen ++ (polled.answer config peerId jobId env).elim [] _)
    rcases hcases with hrefused | ⟨hrecovery, hevents⟩
    · -- an answer that refuses has no events
      have hnone : (polled.answer config peerId jobId env).elim [] Response.events = [] := by
        cases hanswer : polled.answer config peerId jobId env with
        | none => rfl
        | some answer => exact (hrefused answer hanswer).2
      rw [hnone, List.append_nil]
      exact h.caughtUp
    · have hanswer : polled.answer config peerId jobId env
          = some (jobEvents polled.runtime.state jobId (mark NetworkEvent.sequence polled.seen)) :=
        hevents
      have hnext := h.caughtUp.next
      rw [hanswer]
      rw [eventLog_of_none hrecovery] at hnext ⊢
      exact hnext
  refine ⟨?_, ?_, ?_, ?_⟩
  · rw [hruntime]
    exact h.named
  · rw [hruntime]
    exact h.guarded
  · rw [hruntime]
    exact h.saved
  · rw [hruntime]
    exact hcaught

theorem saved_event (hsaved : runtime.storedState.eventsOf jobId <+: runtime.eventLog jobId)
    (hgrows : runtime.eventLog jobId <+: (handle config env event runtime).1.eventLog jobId) :
    (handle config env event runtime).1.storedState.eventsOf jobId
      <+: (handle config env event runtime).1.eventLog jobId := by
  have hrecovery := recoveryError_change (handle_change config env event runtime)
  cases hbefore : runtime.state.recoveryError with
  | some =>
    have hsome : (handle config env event runtime).1.state.recoveryError.isSome := by
      rw [hrecovery, hbefore]
      rfl
    rw [eventLog_of_some hsome]
  | none =>
    rcases (handle_stores config env event runtime).state with hsame | hcore
    · rw [hsame]
      exact hsaved.trans hgrows
    · rw [eventLog_of_none (hrecovery.trans hbefore), eventsOf_of_core hcore]

/-- **A poller that has caught up stays so.** -/
theorem follows_next {key : String} (h : Follows (appleJobId key) polled) {watch : Watch}
    (hrising : Rising config (appleJobId key) polled watch) :
    Follows (appleJobId key) (polled.next config peerId (appleJobId key) watch) := by
  cases watch with
  | poll env => exact follows_poll h config peerId env
  | input input =>
    have hnamed := h.named.next (named_keptByChanges config) input
    have hguarded : (polled.runtime.next config input).Guarded := guarded_next h.guarded input
    -- a log that grows brings back what was lost, a log that gets shorter loses what was seen
    have hgrown : ∀ new, (polled.runtime.next config input).eventLog (appleJobId key)
          = polled.runtime.eventLog (appleJobId key) ++ new →
        (new.filter fun e => e.sequence ≤ mark NetworkEvent.sequence polled.seen).Subperm
          polled.lost →
        CaughtUp NetworkEvent.sequence (polled.goOn config (appleJobId key) input).lost
          ((polled.runtime.next config input).eventLog (appleJobId key)) polled.seen := by
      intro new hlog hnew
      change CaughtUp _ ((polled.lost ++ List.drop _ _).diff (List.drop _ _)) _ _
      rw [hlog, List.drop_left, List.drop_eq_nil_of_le
        (by rw [List.length_append]; exact Nat.le_add_right _ _), List.append_nil]
      exact h.caughtUp.append hnew
    cases input with
    | event env event =>
      have hevent : (polled.runtime.next config (.event env event)).eventLog (appleJobId key)
            = polled.runtime.eventLog (appleJobId key) ∨
          ∃ new, Brings config env event polled.runtime (appleJobId key) new ∧
            (polled.runtime.next config (.event env event)).eventLog (appleJobId key)
              = polled.runtime.eventLog (appleJobId key) ++ new :=
        eventLog_event h.named.state h.guarded hrising.1 config env key
      obtain ⟨new, hlog, hnew⟩ : ∃ new,
          (polled.runtime.next config (.event env event)).eventLog (appleJobId key)
            = polled.runtime.eventLog (appleJobId key) ++ new ∧
          (new.filter fun e => e.sequence ≤ mark NetworkEvent.sequence polled.seen).Subperm
            polled.lost := by
        rcases hevent with hsame | ⟨new, hbrings, hlog⟩
        · exact ⟨[], hsame.trans (List.append_nil _).symm, List.nil_subperm⟩
        · exact ⟨new, hlog, hrising.2 new hbrings⟩
      refine ⟨hnamed, hguarded, ?_, hgrown new hlog hnew⟩
      refine saved_event h.saved ?_
      exact ⟨new, hlog.symm⟩
    | start env again unreadable debris =>
      by_cases hnext : (start env again unreadable debris polled.runtime).leases.nextId
          ≤ Dashboard.u64Max
      · have hruntime : polled.runtime.next config (.start env again unreadable debris)
            = start env again unreadable debris polled.runtime := if_pos hnext
        obtain ⟨hlog, hstored⟩ :=
          eventLog_start env again unreadable debris polled.runtime (appleJobId key)
        rw [← hruntime] at hlog hstored
        refine ⟨hnamed, hguarded, ?_, ?_⟩
        · change (polled.runtime.next config (.start env again unreadable debris)).storedState.eventsOf
            _ <+: (polled.runtime.next config (.start env again unreadable debris)).eventLog _
          rw [hlog, hstored]
        · obtain ⟨_, hgone⟩ := h.saved
          change CaughtUp _ ((polled.lost ++ List.drop _ _).diff (List.drop _ _))
            ((polled.runtime.next config (.start env again unreadable debris)).eventLog _) _
          have hcaught := h.caughtUp
          rw [← hgone] at hcaught
          rw [hlog, ← hgone, List.drop_left, List.drop_eq_nil_of_le
            (by rw [List.length_append]; exact Nat.le_add_right _ _), List.diff_nil]
          refine hcaught.lose fun e he => ?_
          cases hrecovery : polled.runtime.state.recoveryError with
          | none =>
            refine hrising hrecovery e ?_
            rw [← eventLog_of_none hrecovery, ← hgone, List.drop_left]
            exact he
          | some =>
            have hsame : polled.runtime.eventLog (appleJobId key)
                = polled.runtime.storedState.eventsOf (appleJobId key) :=
              eventLog_of_some (by rw [hrecovery]; rfl) _
            rw [hsame] at hgone
            rw [List.self_eq_append_right.1 hgone.symm] at he
            exact absurd he List.not_mem_nil
      · have hruntime : polled.runtime.next config (.start env again unreadable debris)
            = polled.runtime := if_neg hnext
        refine ⟨hnamed, hguarded, ?_, hgrown [] ?_ List.nil_subperm⟩
        · change (polled.runtime.next config (.start env again unreadable debris)).storedState.eventsOf
            _ <+: (polled.runtime.next config (.start env again unreadable debris)).eventLog _
          rw [hruntime]
          exact h.saved
        · rw [hruntime, List.append_nil]

/-- Every event is given to a poller exactly once, in every run that rises. -/
theorem polledOnce_of_run (config : Config) (peerId key : String) (watches : List Watch)
    (h : AllSteps (Polled.next config peerId (appleJobId key)) (Rising config (appleJobId key)) watches
      Polled.empty) : PolledOnce config peerId (appleJobId key) watches := by
  rintro earlier env later rfl polled rfl answer hanswer haccepted
  rw [Runs.allSteps_append] at h
  have halways : Runs.Always (Polled.next config peerId (appleJobId key)) (Follows (appleJobId key))
      earlier Polled.empty :=
    Runs.AllSteps.always (I := Follows (appleJobId key))
      (fun polled watch hfollows hrising => follows_next hfollows hrising)
      (follows_empty config (appleJobId key)) h.1
  exact halways.last.answer hanswer haccepted

/-! ### An event that is never given -/

def watchInputs (steps : List (Env × Event)) : List Watch :=
  steps.map fun input => .input (.event input.1 input.2)

omit [Sha256] in
theorem watchInputs_append (steps later : List (Env × Event)) :
    watchInputs (steps ++ later) = watchInputs steps ++ watchInputs later :=
  List.map_append

theorem foldl_watchInputs (config : Config) (peerId jobId : String) (steps : List (Env × Event))
    (polled : Polled) :
    ((watchInputs steps).foldl (Polled.next config peerId jobId) polled).runtime
        = steps.foldl (Runtime.step config) polled.runtime ∧
      ((watchInputs steps).foldl (Polled.next config peerId jobId) polled).seen = polled.seen := by
  induction steps generalizing polled with
  | nil => exact ⟨rfl, rfl⟩
  | cons input steps ih => exact ih (polled.goOn config jobId (.event input.1 input.2))

theorem rising_of_unseen (hseen : polled.seen = []) (hfresh : FreshName polled.runtime event)
    (hnumbers : ∀ peerId events terminal,
      event = .request peerId (.appleProgress jobId events terminal) →
        ∀ new, (DurableState.mergeEvents (polled.runtime.state.eventsOf jobId) events).drop
          (polled.runtime.state.eventsOf jobId).length = new → ∀ e ∈ new, e.sequence ≠ 0) :
    Rising config jobId polled (.input (.event env event)) := by
  refine ⟨hfresh, fun new hbrings => ?_⟩
  have hnone : (new.filter fun e => e.sequence ≤ mark NetworkEvent.sequence polled.seen) = [] := by
    rw [hseen, List.filter_eq_nil_iff]
    intro e he hlow
    have hzero : e.sequence = 0 := Nat.le_zero.1 (of_decide_eq_true hlow)
    cases hbrings with
    | batch hevent => exact hnumbers _ _ _ hevent _ rfl e he hzero
    | rejected | cancelled =>
      rw [List.mem_singleton.1 he] at hzero
      cases hzero
  rw [hnone]
  exact List.nil_subperm

theorem rising_watchInputs {steps : List (Env × Event)} (hseen : polled.seen = [])
    (hsteps : AllSteps (Runtime.step config) (fun runtime input => Orderly runtime input.2) steps
      polled.runtime) (hnone : ∀ input ∈ steps, ∀ peerId events terminal,
      input.2 ≠ .request peerId (.appleProgress jobId events terminal)) :
    AllSteps (Polled.next config peerId jobId) (Rising config jobId) (watchInputs steps) polled := by
  induction steps generalizing polled with
  | nil => trivial
  | cons input steps ih =>
    refine ⟨rising_of_unseen hseen hsteps.1.fresh ?_, ?_⟩
    · intro peerId events terminal hevent
      exact absurd hevent (hnone input List.mem_cons_self _ _ _)
    · have hrest : AllSteps (Polled.next config peerId jobId) (Rising config jobId)
          (watchInputs steps) (polled.goOn config jobId (.event input.1 input.2)) :=
        ih hseen hsteps.2 (List.forall_mem_cons.1 hnone).2
      exact hrest

theorem answer_of_free (peerId jobId : String) (hruntime : polled.runtime = runtime)
    (hholder : runtime.holder = none) (hrecovery : runtime.state.recoveryError = none)
    (hnext : runtime.leases.nextId ≤ Dashboard.u64Max) (config : Config) (env : Env) :
    polled.answer config peerId jobId env
      = some (jobEvents runtime.state jobId (mark NetworkEvent.sequence polled.seen)) := by
  unfold Polled.answer
  rw [hruntime, handle_of_free hholder hrecovery, if_pos]
  · change some (Option.elim _ _ _) = _
    rw [hrecovery]
    rfl
  · exact hnext

def sampleReported : Runtime :=
  { sampleDispatched with
    state := sampleDispatched.state.taken sampleAppleId [sampleLast 2] true
    leases :=
      { sampleLeases with
        writers := (sampleLeases.setWriter "phone" sampleAppleId).writers.erase "phone" }
    storedState := sampleDispatched.state.taken sampleAppleId [sampleLast 2] true
    holder := some .storingLeases }

def sampleListed : Runtime :=
  { sampleReported with
    storedLeases := sampleReported.leases
    holder := none }

def sampleLate : Runtime :=
  { sampleListed with
    state := sampleListed.state.taken sampleAppleId [sampleLast 1] true
    storedState := sampleListed.state.taken sampleAppleId [sampleLast 1] true
    holder := some .storingLeases }

def sampleUnseen : Runtime :=
  { sampleLate with holder := none }

theorem step_sampleReported :
    sampleDispatched.step sampleConfig
      (sampleEnv, .request "agent" (.appleProgress sampleAppleId [sampleLast 2] true))
        = sampleReported := by
  have hwritten : writtenDevices sampleDispatched.leases sampleEnv.orders sampleAppleId = ["phone"] := by
    change (List.filter _ [("phone", (⟨sampleAppleId⟩ : DeviceWriter))]).map Prod.fst = _
    rw [List.filter_cons_of_pos]
    · rfl
    · exact decide_eq_true rfl
  have hprogress : (appleProgress sampleEnv "agent" sampleAppleId [sampleLast 2] true
      sampleDispatched).1 = sampleReported := by
    unfold appleProgress
    rw [if_neg (not_not.2 agent_sampleDispatched), if_pos rfl]
    unfold progressTerminal
    dsimp only
    rw [hwritten]
    rfl
  exact step_request rfl rfl hprogress (Nat.le_of_ble_eq_true rfl)

theorem step_sampleListed : sampleReported.step sampleConfig (sampleEnv, .settle) = sampleListed :=
  step_of_perform rfl (Nat.le_of_ble_eq_true rfl)

theorem step_sampleLate :
    sampleListed.step sampleConfig
      (sampleEnv, .request "agent" (.appleProgress sampleAppleId [sampleLast 1] true)) = sampleLate := by
  have hagent : sampleListed.state.jobAgents.lookup sampleAppleId = some "agent" :=
    agent_sampleDispatched
  have hprogress : (appleProgress sampleEnv "agent" sampleAppleId [sampleLast 1] true sampleListed).1
      = sampleLate := by
    unfold appleProgress
    rw [if_neg (not_not.2 hagent), if_pos rfl]
    rfl
  exact step_request rfl rfl hprogress (Nat.le_of_ble_eq_true rfl)

theorem step_sampleUnseen : sampleLate.step sampleConfig (sampleEnv, .settle) = sampleUnseen :=
  step_of_perform rfl (Nat.le_of_ble_eq_true rfl)

theorem eventsOf_sampleListed : sampleListed.state.eventsOf sampleAppleId = [sampleLast 2] := by
  have hnone : sampleDispatched.state.eventsOf sampleAppleId = [] := by
    change ((Map.insert _ _ _).lookup _).getD [] = []
    rw [Map.lookup_insert_self]
    rfl
  refine (eventsOf_taken sampleDispatched.state sampleAppleId [sampleLast 2] true).trans ?_
  rw [hnone]
  rfl

theorem eventsOf_sampleUnseen :
    sampleUnseen.state.eventsOf sampleAppleId = [sampleLast 2, sampleLast 1] := by
  refine (eventsOf_taken sampleListed.state sampleAppleId [sampleLast 1] true).trans ?_
  rw [eventsOf_sampleListed]
  rfl

omit [Sha256] in
theorem ne_progress_sampleAppleSteps {input : Env × Event} (h : input ∈ sampleAppleSteps)
    (peerId jobId : String) (events : List NetworkEvent) (terminal : Bool) :
    input.2 ≠ .request peerId (.appleProgress jobId events terminal) := by
  intro hevent
  simp only [sampleAppleSteps, sampleHostSteps, sampleJobSteps, List.mem_append, List.mem_cons,
    List.not_mem_nil, or_false] at h
  rcases h with ((rfl | rfl | rfl | rfl) | rfl | rfl) | rfl
  all_goals cases hevent

def sampleListedSteps : List (Env × Event) :=
  sampleAppleSteps ++
    [(sampleEnv, .request "agent" (.appleProgress sampleAppleId [sampleLast 2] true)),
      (sampleEnv, .settle)]

theorem foldl_sampleListedSteps :
    sampleListedSteps.foldl (Runtime.step sampleConfig) Runtime.empty = sampleListed := by
  rw [sampleListedSteps, List.foldl_append, foldl_sampleAppleSteps, List.foldl_cons,
    step_sampleReported, List.foldl_cons, step_sampleListed]
  rfl

omit [Sha256] in
/-- The agent reports the end of the job, and the poller gets it. -/
theorem polledOnce_sample : letI := sampleHash
    PolledOnce sampleConfig "client" (appleJobId "test")
      (watchInputs sampleListedSteps ++ [.poll sampleEnv]) := by
  let _ := sampleHash
  refine polledOnce_of_run sampleConfig "client" "test" _ (Runs.allSteps_append.2 ⟨?_, trivial, trivial⟩)
  rw [sampleListedSteps, watchInputs_append, Runs.allSteps_append]
  refine ⟨rising_watchInputs rfl orderly_sampleAppleSteps fun input hinput peerId events terminal =>
    ne_progress_sampleAppleSteps hinput peerId _ events terminal, ?_⟩
  obtain ⟨hruntime, hseen⟩ := foldl_watchInputs sampleConfig "client" (appleJobId "test")
    sampleAppleSteps Polled.empty
  rw [show Polled.empty.runtime = Runtime.empty from rfl, foldl_sampleAppleSteps] at hruntime
  generalize List.foldl _ Polled.empty _ = polled at hruntime hseen
  have hsettle : ∀ after : Polled, after.seen = [] →
      Rising sampleConfig (appleJobId "test") after (.input (.event sampleEnv .settle)) := by
    intro after hafter
    refine rising_of_unseen hafter ?_ ?_
    · rintro peerId operation (hevent | hevent)
      · cases hevent
      · cases hevent
    · intro peerId events terminal hevent
      cases hevent
  refine ⟨rising_of_unseen hseen ?_ ?_, hsettle _ hseen, trivial⟩
  · rintro peerId operation (hevent | hevent)
    · cases hevent
    · cases hevent
  · -- what is new in the batch is its one event
    intro peerId events terminal hevent new hnew e he
    cases hevent
    have hnone : sampleDispatched.state.eventsOf (appleJobId "test") = [] := by
      change ((Map.insert _ _ _).lookup _).getD [] = []
      rw [show appleJobId "test" = sampleAppleId from rfl, Map.lookup_insert_self]
      rfl
    rw [hruntime, hnone] at hnew
    rw [← hnew] at he
    rw [List.mem_singleton.1 he]
    exact Nat.succ_ne_zero 1

/-- Every event of every Apple job is given to every poller once, in every run. -/
def AlwaysPolledOnce : Prop :=
  ∀ (config : Config) (peerId key : String) (watches : List Watch),
    PolledOnce config peerId (appleJobId key) watches

end

/-- An event with a smaller number is never given to a poller, whatever the hash function. -/
theorem not_alwaysPolledOnce : ¬ ∃ _ : Sha256, AlwaysPolledOnce := by
  rintro ⟨hash, h⟩
  obtain ⟨hlisted, hfirst⟩ := foldl_watchInputs sampleConfig "client" (appleJobId "test")
    sampleListedSteps Polled.empty
  rw [show Polled.empty.runtime = Runtime.empty from rfl, foldl_sampleListedSteps] at hlisted
  let late : List (Env × Event) :=
    [(sampleEnv, .request "agent" (.appleProgress sampleAppleId [sampleLast 1] true)),
      (sampleEnv, .settle)]
  have honce := h sampleConfig "client" "test"
    ((watchInputs sampleListedSteps ++ .poll sampleEnv :: watchInputs late) ++ [.poll sampleEnv])
    _ sampleEnv [] rfl
  rw [List.foldl_append, List.foldl_cons] at honce
  generalize List.foldl _ Polled.empty _ = polled at hlisted hfirst honce
  -- the poller gets the event with the number 2
  have hseen : (polled.poll sampleConfig "client" (appleJobId "test") sampleEnv).seen
      = [sampleLast 2] := by
    have hanswer := answer_of_free "client" (appleJobId "test") hlisted rfl rfl
      (Nat.le_of_ble_eq_true rfl) sampleConfig sampleEnv
    change polled.seen ++ Option.elim (polled.answer _ _ _ _) [] _ = _
    rw [hanswer, show polled.seen = [] from hfirst]
    change [] ++ List.filter _ (sampleListed.state.eventsOf sampleAppleId) = _
    rw [eventsOf_sampleListed]
    rfl
  have hruntime : (polled.poll sampleConfig "client" (appleJobId "test") sampleEnv).runtime
      = sampleListed :=
    (handle_events sampleConfig sampleEnv "client" (appleJobId "test") _ polled.runtime).1.trans hlisted
  change ∀ after, after = (watchInputs late).foldl _
    (polled.poll sampleConfig "client" (appleJobId "test") sampleEnv) → _ at honce
  generalize polled.poll sampleConfig "client" (appleJobId "test") sampleEnv = polled₁
    at hseen hruntime honce
  obtain ⟨hlate, hkept⟩ := foldl_watchInputs sampleConfig "client" (appleJobId "test") late polled₁
  rw [hruntime, List.foldl_cons, step_sampleLate, List.foldl_cons, step_sampleUnseen,
    List.foldl_nil] at hlate
  rw [hseen] at hkept
  generalize (watchInputs late).foldl _ polled₁ = polled₂ at hlate hkept honce
  -- then it gets nothing more, and there are two events
  have hanswer := answer_of_free "client" (appleJobId "test") hlate rfl rfl
    (Nat.le_of_ble_eq_true rfl) sampleConfig sampleEnv
  have hnothing : (jobEvents sampleUnseen.state (appleJobId "test")
      (mark NetworkEvent.sequence polled₂.seen)).events = [] := by
    change List.filter _ (sampleUnseen.state.eventsOf sampleAppleId) = []
    rw [eventsOf_sampleUnseen, hkept]
    rfl
  have hall := (honce polled₂ rfl _ hanswer rfl).length_eq
  rw [hnothing, hlate, show appleJobId "test" = sampleAppleId from rfl, eventsOf_sampleUnseen,
    List.length_append, List.length_append, hkept] at hall
  change 1 = _ + 2 at hall
  omega

end Registry
