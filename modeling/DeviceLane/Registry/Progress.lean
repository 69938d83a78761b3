/-
**The events of Apple jobs.**

Agents report the events of a job in batches, and send a batch again when they have not seen an answer.
The events of a job are all those that the registry was told of, the first one of each number, as long as
nothing new comes in after the end of the job, and a job that its client cancels has no event of its
agent yet with the number of the last word.

Main definitions:

* `Registry.Runtime.takes` — whether a batch is taken.

Main results:

* `Registry.eventsOf_run` — **the events of a job are the first ones that were told**.
-/

import DeviceLane.Library.FirstOf
import DeviceLane.Registry.Owners

namespace Registry

open Runs (AllSteps Always)

variable {jobId : String} {state state' : DurableState}

/-! ### Batches -/

theorem mergeEvents_eq (existing events : List NetworkEvent) :
    DurableState.mergeEvents existing events
      = FirstOf.merge NetworkEvent.sequence existing events := rfl

theorem eventsOf_progress (state : DurableState) (jobId : String) (events : List NetworkEvent) :
    (state.progress jobId events).eventsOf jobId
      = FirstOf.merge NetworkEvent.sequence (state.eventsOf jobId) events := by
  change ((Map.insert _ _ _).lookup jobId).getD [] = _
  rw [Map.lookup_insert_self]
  rfl

theorem eventsOf_insert_ne (state : DurableState) {other : String} (h : other ≠ jobId)
    (events : List NetworkEvent) :
    ({ state with jobs := state.jobs.insert jobId events } : DurableState).eventsOf other
      = state.eventsOf other := by
  change ((Map.insert _ _ _).lookup other).getD [] = _
  rw [Map.lookup_insert_ne h]
  rfl

theorem eventsOf_dismiss (state : DurableState) (jobId kind payload : String) :
    (state.dismiss jobId kind payload).eventsOf jobId
      = state.eventsOf jobId ++ [{ sequence := 1, kind, payload }] := by
  change ((Map.insert _ _ _).lookup jobId).getD [] = _
  rw [Map.lookup_insert_self]
  rfl

theorem eventsOf_of_core (h : state'.core = state.core) (jobId : String) :
    state'.eventsOf jobId = state.eventsOf jobId :=
  congrArg Prod.fst (DurableState.results_of_core h jobId)

def DurableState.taken (state : DurableState) (jobId : String) (events : List NetworkEvent)
    (terminal : Bool) : DurableState :=
  if terminal then (state.progress jobId events).finish jobId
  else (state.progress jobId events).acknowledge jobId

def Ended (state : DurableState) (jobId : String) : Prop :=
  (state.jobs.lookup jobId).isSome ∧ state.applePending.lookup jobId = none

theorem ended_of_core (h : state'.core = state.core) : Ended state' jobId ↔ Ended state jobId := by
  rw [Ended, Ended, read_of_core DurableState.jobs (fun _ => rfl) h,
    read_of_core DurableState.applePending (fun _ => rfl) h]

theorem ended_dismiss (state : DurableState) (jobId kind payload : String) :
    Ended (state.dismiss jobId kind payload) jobId := by
  constructor
  · change ((Map.insert _ _ _).lookup jobId).isSome
    rw [Map.lookup_insert_self]
    rfl
  · change (Map.erase _ _).lookup jobId = none
    rw [Map.lookup_erase, if_pos rfl]

theorem ended_taken (state : DurableState) (jobId : String) (events : List NetworkEvent) :
    Ended (state.taken jobId events true) jobId := by
  constructor
  · change ((Map.insert _ _ _).lookup jobId).isSome
    rw [Map.lookup_insert_self]
    rfl
  · change (Map.erase _ _).lookup jobId = none
    rw [Map.lookup_erase, if_pos rfl]

theorem eventsOf_taken (state : DurableState) (jobId : String) (events : List NetworkEvent)
    (terminal : Bool) :
    (state.taken jobId events terminal).eventsOf jobId
      = FirstOf.merge NetworkEvent.sequence (state.eventsOf jobId) events := by
  unfold DurableState.taken
  split
  · exact eventsOf_progress state jobId events
  · exact eventsOf_progress state jobId events

theorem eventsOf_taken_ne (state : DurableState) {other : String} (h : other ≠ jobId)
    (events : List NetworkEvent) (terminal : Bool) :
    (state.taken jobId events terminal).eventsOf other = state.eventsOf other := by
  unfold DurableState.taken
  split
  · exact eventsOf_insert_ne state h _
  · exact eventsOf_insert_ne state h _

def DurableState.Silent (state : DurableState) : Prop :=
  ∀ jobId operation, state.applePending.lookup jobId = some operation →
    jobId ∉ state.acknowledged → state.eventsOf jobId = []

theorem DurableState.Silent.of_core (hcore : state'.core = state.core) (h : state.Silent) :
    state'.Silent := by
  intro jobId operation hpending hacknowledged
  rw [read_of_core DurableState.applePending (fun _ => rfl) hcore] at hpending
  rw [read_of_core DurableState.acknowledged (fun _ => rfl) hcore] at hacknowledged
  rw [eventsOf_of_core hcore]
  exact h jobId operation hpending hacknowledged

theorem DurableState.Silent.end_job (h : state.Silent) (jobId : String) (events : List NetworkEvent) :
    ({ state with
        applePending := state.applePending.erase jobId
        jobs := state.jobs.insert jobId events } : DurableState).Silent := by
  intro other operation hpending hacknowledged
  change (Map.erase _ _).lookup other = _ at hpending
  rw [Map.lookup_erase] at hpending
  split at hpending
  · cases hpending
  · rename_i hne
    exact (eventsOf_insert_ne state hne events).trans (h other operation hpending hacknowledged)

theorem appleProgress_spec (env : Env) {peerId : String} (events : List NetworkEvent) (terminal : Bool)
    {runtime : Runtime} (hagent : runtime.state.jobAgents.lookup jobId = some peerId) :
    ((terminal = true ∨
        (restoreAcknowledgedWriter runtime.state runtime.leases env.orders env.nowMs jobId).1.isOk ∧
          env.leasesWrite = .stored) ∧
      (appleProgress env peerId jobId events terminal runtime).1.state.core
        = (runtime.state.taken jobId events terminal).core) ∨
    (¬ (terminal = true ∨
        (restoreAcknowledgedWriter runtime.state runtime.leases env.orders env.nowMs jobId).1.isOk ∧
          env.leasesWrite = .stored) ∧
      (appleProgress env peerId jobId events terminal runtime).1.state = runtime.state) := by
  have hallowed : ¬ runtime.state.jobAgents.lookup jobId ≠ some peerId := fun hne => hne hagent
  unfold appleProgress
  rw [if_neg hallowed]
  cases terminal with
  | true =>
    refine .inl ⟨.inl rfl, ?_⟩
    rw [if_pos rfl]
    unfold progressTerminal
    dsimp only
    generalize hfinished : Locked.finishWriters _ _ env.nowMs = finished
    have hcore : (finished.state.finish jobId).core
        = ((runtime.state.progress jobId events).finish jobId).core := by
      rw [← hfinished]
      exact core_finish (Locked.core_finishWriters _ _ _) jobId
    split
    · exact (congrArg DurableState.core (state_storeState _ env)).trans hcore
    · exact (congrArg DurableState.core (state_storeState _ env)).trans hcore
  | false =>
    rw [if_neg Bool.false_ne_true]
    unfold progressOngoing
    dsimp only
    cases hrestored :
        (restoreAcknowledgedWriter runtime.state runtime.leases env.orders env.nowMs jobId).1 with
    | error error =>
      refine .inr ⟨?_, state_storeLeases _ env⟩
      rintro (hterminal | ⟨hok, -⟩)
      · cases hterminal
      · cases hok
    | ok restored =>
      dsimp only
      by_cases hwritten : env.leasesWrite = .stored
      · refine .inl ⟨.inr ⟨rfl, hwritten⟩, ?_⟩
        rw [if_neg (not_not.2 hwritten)]
        have hprogressed : ∀ stored : Runtime, stored.state = runtime.state →
            ((stored.state.progress jobId events).acknowledge jobId).core
              = (runtime.state.taken jobId events false).core := by
          intro stored hstored
          rw [hstored]
          rfl
        have hsame := state_storeLeases
          { runtime with
            leases := (restoreAcknowledgedWriter runtime.state runtime.leases env.orders env.nowMs
              jobId).2 } env
        split
        · exact (congrArg DurableState.core (state_storeState _ env)).trans (hprogressed _ hsame)
        · split
          · exact (congrArg DurableState.core (state_storeState _ env)).trans (hprogressed _ hsame)
          · exact (congrArg DurableState.core (state_storeState _ env)).trans (hprogressed _ hsame)
      · refine .inr ⟨?_, ?_⟩
        · rintro (hterminal | ⟨-, hstored⟩)
          · cases hterminal
          · exact hwritten hstored
        · rw [if_pos hwritten]
          exact state_storeLeases _ env

section

variable [Sha256]

variable {input : Env × Event} {key : String}

/-- A batch is taken: it is not refused, whatever becomes of the state afterwards. -/
def Runtime.takes (config : Config) (env : Env) (peerId jobId : String) (events : List NetworkEvent)
    (terminal : Bool) (runtime : Runtime) : Prop :=
  runtime.holder = none ∧ runtime.state.recoveryError = none ∧
    runtime.state.jobAgents.lookup jobId = some peerId ∧
    (terminal = true ∨
      (restoreAcknowledgedWriter runtime.state runtime.leases env.orders env.nowMs jobId).1.isOk ∧
        env.leasesWrite = .stored) ∧
    (perform config env (.request peerId (.appleProgress jobId events terminal)) runtime).1.leases.nextId
      ≤ Dashboard.u64Max

instance (config : Config) (env : Env) (peerId jobId : String) (events : List NetworkEvent)
    (terminal : Bool) (runtime : Runtime) :
    Decidable (runtime.takes config env peerId jobId events terminal) :=
  inferInstanceAs (Decidable (_ ∧ _ ∧ _ ∧ _ ∧ _))

/-- What the registry is told of a job in a step: a batch that is taken, or what it says itself. -/
def told (config : Config) (runtime : Runtime) (input : Env × Event) (jobId : String) :
    List NetworkEvent :=
  match input.2 with
  | .request peerId (.appleProgress job events terminal) =>
    if job = jobId ∧ runtime.takes config input.1 peerId job events terminal then events else []
  | _ => ((runtime.step config input).state.eventsOf jobId).drop (runtime.state.eventsOf jobId).length

theorem told_progress (config : Config) (env : Env) (peerId job : String) (events : List NetworkEvent)
    (terminal : Bool) (runtime : Runtime) (jobId : String) :
    told config runtime (env, .request peerId (.appleProgress job events terminal)) jobId
      = if job = jobId ∧ runtime.takes config env peerId job events terminal then events else [] := rfl

theorem told_other {config : Config} {env : Env} {event : Event} {runtime : Runtime}
    (h : ∀ peerId jobId events terminal,
      event ≠ .request peerId (.appleProgress jobId events terminal)) :
    told config runtime (env, event) jobId
      = ((runtime.step config (env, event)).state.eventsOf jobId).drop
          (runtime.state.eventsOf jobId).length := by
  cases event with
  | request peerId req =>
    cases req with
    | appleProgress job events terminal => exact absurd rfl (h peerId job events terminal)
    | _ => rfl
  | resume | settle => rfl

def toldInRun (config : Config) (jobId : String) : List (Env × Event) → Runtime → List NetworkEvent
  | [], _ => []
  | input :: steps, runtime =>
    told config runtime input jobId ++ toldInRun config jobId steps (runtime.step config input)

/-- **What becomes of a batch**: it is taken as a whole, or the state stays as it is. -/
theorem step_progress (config : Config) (env : Env) (peerId jobId : String) (events : List NetworkEvent)
    (terminal : Bool) (runtime : Runtime) :
    (runtime.takes config env peerId jobId events terminal ∧
      (runtime.step config (env, .request peerId (.appleProgress jobId events terminal))).state.core
        = (runtime.state.taken jobId events terminal).core) ∨
    (¬ runtime.takes config env peerId jobId events terminal ∧
      (runtime.step config (env, .request peerId (.appleProgress jobId events terminal))).state
        = runtime.state) := by
  by_cases hnext : (perform config env (.request peerId (.appleProgress jobId events terminal))
      runtime).1.leases.nextId ≤ Dashboard.u64Max
  · by_cases hholder : runtime.holder = none
    · by_cases hrecovery : runtime.state.recoveryError = none
      · have hstep : (runtime.step config
            (env, .request peerId (.appleProgress jobId events terminal))).state
            = (appleProgress env peerId jobId events terminal runtime).1.state := by
          rw [Runtime.step, handle, if_pos hnext, perform_request hholder hrecovery]
          rfl
        rw [hstep]
        by_cases hagent : runtime.state.jobAgents.lookup jobId = some peerId
        · rcases appleProgress_spec env events terminal hagent with ⟨hlooked, hcore⟩ | ⟨hrefused, hsame⟩
          · exact .inl ⟨⟨hholder, hrecovery, hagent, hlooked, hnext⟩, hcore⟩
          · exact .inr ⟨fun h => hrefused h.2.2.2.1, hsame⟩
        · refine .inr ⟨fun h => hagent h.2.2.1, ?_⟩
          unfold appleProgress
          rw [if_pos hagent]
      · refine .inr ⟨fun h => hrecovery h.2.1, ?_⟩
        obtain ⟨_, herror⟩ := Option.ne_none_iff_exists'.1 hrecovery
        rw [Runtime.step, handle, if_pos hnext]
        simp only [perform, herror, readOnlyDuringRecovery]
        split
        · rfl
        · rfl
    · refine .inr ⟨fun h => hholder h.1, ?_⟩
      obtain ⟨_, hsome⟩ := Option.ne_none_iff_exists'.1 hholder
      rw [Runtime.step, handle, if_pos hnext]
      simp only [perform, hsome, Option.isSome_some, if_true]
  · refine .inr ⟨fun h => hnext h.2.2.2.2, ?_⟩
    rw [Runtime.step, handle, if_neg hnext]

/-! ### Steps that are orderly -/

structure JobsKept (runtime : Runtime) : Prop where
  named : runtime.state.Named
  known : runtime.state.Known
  silent : runtime.state.Silent

/-- **Nothing new after the end, and nothing twice**: the last batch of a job that is over tells nothing
new, and a job that is cancelled before it is given out has no event with the number of the last word. -/
structure Orderly (runtime : Runtime) (event : Event) : Prop where
  fresh : FreshName runtime event
  ended : ∀ peerId jobId events, event = .request peerId (.appleProgress jobId events true) →
    runtime.state.jobAgents.lookup jobId = some peerId → runtime.state.applePending.lookup jobId = none →
      ∀ e ∈ events, ∃ current ∈ runtime.state.eventsOf jobId, current.sequence = e.sequence
  cancelled : ∀ peerId jobId, event = .request peerId (.appleCancel jobId) →
    runtime.state.jobClients.lookup jobId = some peerId →
      (runtime.state.applePending.lookup jobId).isSome → jobId ∉ runtime.state.dispatched →
        ∀ current ∈ runtime.state.eventsOf jobId, current.sequence ≠ 1

variable {config : Config} {env : Env} {event : Event} {runtime : Runtime} {state : DurableState}
  {leases : LeaseBook}

inductive Dismissed (env : Env) (event : Event) (runtime : Runtime) (jobId : String) :
    String → String → Prop
  | rejected {hostId deviceId leaseId : String} {operation : AppleRequest}
      (hevent : event = .resume (.online hostId))
      (hnext : runtime.state.nextApple runtime.leases env.orders hostId = some (jobId, operation))
      (hneeds : leaseNeeded operation = some (deviceId, leaseId))
      (hlease : (runtime.leases.expire env.orders.active env.nowMs).leaseOf deviceId leaseId
        (runtime.state.jobClients.lookup jobId) = none) :
      Dismissed env event runtime jobId "rejected" "lease_inactive"
  | cancelled {peerId : String} (hevent : event = .request peerId (.appleCancel jobId))
      (hclient : runtime.state.jobClients.lookup jobId = some peerId)
      (hpending : (runtime.state.applePending.lookup jobId).isSome)
      (hdispatched : jobId ∉ runtime.state.dispatched) :
      Dismissed env event runtime jobId "cancelled" ""

/-- Without a report of its agent an Apple job keeps its events, or the registry itself ends it. -/
theorem eventsOf_unreported (hnamed : runtime.state.Named) (hfresh : FreshName runtime event)
    (hchange : Change config env event runtime state leases)
    (hevent : ∀ peerId jobId events terminal,
      event ≠ .request peerId (.appleProgress jobId events terminal)) (key : String) :
    state.eventsOf (appleJobId key) = runtime.state.eventsOf (appleJobId key) ∨
      ∃ kind payload, Dismissed env event runtime (appleJobId key) kind payload ∧
        state.core = (runtime.state.dismiss (appleJobId key) kind payload).core := by
  cases hchange with
  | same hstate => exact .inl (eventsOf_of_core hstate _)
  | inventory hagent howner hlocked hstate =>
    rename_i hcore
    exact .inl (eventsOf_of_core hcore _)
  | @reject state hostId jobId deviceId leaseId operation hresume hnext hneeds hlease hstate =>
    by_cases hjob : appleJobId key = jobId
    · subst hjob
      exact .inr ⟨_, _, .rejected hresume hnext hneeds hlease, hstate⟩
    · exact .inl ((eventsOf_of_core hstate _).trans (eventsOf_insert_ne runtime.state hjob _))
  | grant hresume hnext hneeds hlease hstate => exact .inl (eventsOf_of_core hstate _)
  | reconcile hholder hstate => exact .inl (eventsOf_of_core hstate _)
  | @complete peerId jobId artifact events operation hrequest hpending =>
    have hne : appleJobId key ≠ jobId := by
      rw [hnamed.pending jobId operation hpending]
      exact (runJobId_ne_appleJobId _ _).symm
    exact .inl (eventsOf_insert_ne runtime.state hne events)
  | @acceptApple peerId target operation hrequest hnew htarget =>
    refine .inl ?_
    by_cases hjob : appleJobId key = appleJobId operation.idempotencyKey
    · have hnone := hfresh.of_accept hrequest hnew
      rw [← hjob] at hnone
      change ((Map.insert _ _ _).lookup _).getD [] = (runtime.state.jobs.lookup _).getD []
      rw [← hjob, Map.lookup_insert_self, hnone]
      rfl
    · exact eventsOf_insert_ne runtime.state hjob []
  | restore hrequest => exact absurd hrequest (hevent _ _ _ _)
  | ongoing hrequest => exact absurd hrequest (hevent _ _ _ _)
  | terminal hrequest => exact absurd hrequest (hevent _ _ _ _)
  | @cancel peerId jobId hrequest hclient hpending hdispatched =>
    by_cases hjob : appleJobId key = jobId
    · subst hjob
      exact .inr ⟨_, _, .cancelled hrequest hclient hpending hdispatched, rfl⟩
    · exact .inl (eventsOf_insert_ne runtime.state hjob _)
  | lease hrequest hstate => exact .inl (eventsOf_of_core hstate _)
  | _ => exact .inl rfl

theorem eventsOf_change (h : JobsKept runtime) (horderly : Orderly runtime event)
    (hchange : Change config env event runtime state leases)
    (hevent : ∀ peerId jobId events terminal,
      event ≠ .request peerId (.appleProgress jobId events terminal)) (key : String) :
    state.eventsOf (appleJobId key) = runtime.state.eventsOf (appleJobId key) ∨
      (runtime.state.applePending.lookup (appleJobId key)).isSome ∧ Ended state (appleJobId key) ∧
      ∃ e, state.eventsOf (appleJobId key) = runtime.state.eventsOf (appleJobId key) ++ [e] ∧
        ∀ current ∈ runtime.state.eventsOf (appleJobId key), current.sequence ≠ e.sequence := by
  rcases eventsOf_unreported h.named horderly.fresh hchange hevent key with
    hsame | ⟨kind, payload, hdismissed, hstate⟩
  · exact .inl hsame
  have hended := (ended_of_core hstate).2 (ended_dismiss _ _ _ _)
  have hevents := (eventsOf_of_core hstate _).trans (eventsOf_dismiss _ _ _ _)
  cases hdismissed with
  | @rejected hostId deviceId leaseId operation hresume hnext hneeds hlease =>
    obtain ⟨hpending, -, hacknowledged, -⟩ := DurableState.nextApple_eq_some hnext
    refine .inr ⟨by rw [hpending]; rfl, hended, _, hevents, ?_⟩
    rw [h.silent _ operation hpending hacknowledged]
    exact List.forall_mem_nil _
  | cancelled hrequest hclient hpending hdispatched =>
    exact .inr ⟨hpending, hended, _, hevents,
      horderly.cancelled _ _ hrequest hclient hpending hdispatched⟩

/-- **The events of a job are those that were there, with the first ones that a step tells of.** -/
theorem eventsOf_step (h : JobsKept runtime) (horderly : Orderly runtime input.2) (key : String) :
    (runtime.step config input).state.eventsOf (appleJobId key)
      = FirstOf.merge NetworkEvent.sequence (runtime.state.eventsOf (appleJobId key))
          (told config runtime input (appleJobId key)) := by
  obtain ⟨env, event⟩ := input
  by_cases hevent : ∃ peerId jobId events terminal,
      event = .request peerId (.appleProgress jobId events terminal)
  · obtain ⟨peerId, jobId, events, terminal, rfl⟩ := hevent
    rw [told_progress]
    rcases step_progress config env peerId jobId events terminal runtime with
      ⟨htaken, hcore⟩ | ⟨hrefused, hsame⟩
    · rw [eventsOf_of_core hcore]
      by_cases hjob : jobId = appleJobId key
      · subst hjob
        rw [if_pos ⟨rfl, htaken⟩, eventsOf_taken]
      · rw [if_neg fun hboth => hjob hboth.1, FirstOf.merge_nil]
        exact eventsOf_taken_ne runtime.state (Ne.symm hjob) events terminal
    · rw [hsame, if_neg fun hboth => hrefused hboth.2, FirstOf.merge_nil]
  · have hother : ∀ peerId jobId events terminal,
        event ≠ .request peerId (.appleProgress jobId events terminal) :=
      fun peerId jobId events terminal heq => hevent ⟨peerId, jobId, events, terminal, heq⟩
    rw [told_other hother]
    rcases eventsOf_change h horderly (handle_change config env event runtime) hother key with
      hsame | ⟨-, -, e, hlast, hnew⟩
    · have hstep : (runtime.step config (env, event)).state.eventsOf (appleJobId key)
          = runtime.state.eventsOf (appleJobId key) := hsame
      rw [hstep, List.drop_length, FirstOf.merge_nil]
    · have hstep : (runtime.step config (env, event)).state.eventsOf (appleJobId key)
          = runtime.state.eventsOf (appleJobId key) ++ [e] := hlast
      rw [hstep, List.drop_left, FirstOf.merge_singleton hnew]

/-! ### Runs -/

theorem silent_change (hnamed : runtime.state.Named) (h : runtime.state.Silent)
    (hchange : Change config env event runtime state leases) : state.Silent := by
  cases hchange with
  | same hstate => exact h.of_core hstate
  | inventory hagent howner hlocked hstate =>
    rename_i hcore
    refine DurableState.Silent.of_core hcore ?_
    exact fun jobId operation hpending hacknowledged => h jobId operation hpending hacknowledged
  | reject hevent hnext hneeds hlease hstate => exact .of_core hstate (h.end_job _ _)
  | grant hevent hnext hneeds hlease hstate => exact h.of_core hstate
  | reconcile hholder hstate => exact h.of_core hstate
  | expire => exact h
  | acceptRun => exact fun jobId operation => h jobId operation
  | @complete peerId jobId artifact events operation hevent hpending =>
    intro other found hother hacknowledged
    have hne : other ≠ jobId := by
      rw [hnamed.pending jobId operation hpending, hnamed.apple other found hother]
      exact (runJobId_ne_appleJobId _ _).symm
    exact (eventsOf_insert_ne runtime.state hne events).trans (h other found hother hacknowledged)
  | @acceptApple peerId target operation hevent hnew htarget =>
    intro other found hother hacknowledged
    by_cases hjob : other = appleJobId operation.idempotencyKey
    · subst hjob
      change ((Map.insert _ _ _).lookup _).getD [] = []
      rw [Map.lookup_insert_self]
      rfl
    · change (Map.insert _ _ _).lookup other = _ at hother
      rw [Map.lookup_insert_ne hjob] at hother
      exact (eventsOf_insert_ne runtime.state hjob []).trans (h other found hother hacknowledged)
  | restore => exact h
  | @ongoing peerId jobId events restored hevent hagent hrestored =>
    intro other operation hother hacknowledged
    have hne : other ≠ jobId := by
      rintro rfl
      exact hacknowledged (Finset.mem_insert_self _ _)
    have hbefore : other ∉ runtime.state.acknowledged :=
      fun hmem => hacknowledged (Finset.mem_insert_of_mem hmem)
    exact (eventsOf_insert_ne runtime.state hne _).trans (h other operation hother hbefore)
  | terminal hevent hagent hstate => exact .of_core hstate (h.end_job _ _)
  | rollBack => exact h
  | cancel => exact h.end_job _ _
  | lease hevent hstate => exact h.of_core hstate

theorem jobsKept_step (h : JobsKept runtime) (input : Env × Event) :
    JobsKept (runtime.step config input) := by
  have hchange := handle_change config input.1 input.2 runtime
  exact ⟨named_change h.named hchange, known_change h.known hchange,
    silent_change h.named h.silent hchange⟩

theorem jobsKept_empty (config : Config) : JobsKept Runtime.empty :=
  ⟨(named_keptByChanges config).empty.1, known_empty, fun _ _ h => (by cases h)⟩

theorem jobsKept_run (steps : List (Env × Event)) (h : JobsKept runtime) :
    JobsKept (steps.foldl (Runtime.step config) runtime) := by
  induction steps generalizing runtime with
  | nil => exact h
  | cons input steps ih => exact ih (jobsKept_step h input)

/-- **The events of a job are the first ones that were told.** -/
theorem eventsOf_run (h : JobsKept runtime) {steps : List (Env × Event)}
    (horderly : AllSteps (Runtime.step config) (fun runtime input => Orderly runtime input.2) steps
      runtime) (key : String) :
    (steps.foldl (Runtime.step config) runtime).state.eventsOf (appleJobId key)
      = FirstOf.merge NetworkEvent.sequence (runtime.state.eventsOf (appleJobId key))
          (toldInRun config (appleJobId key) steps runtime) := by
  induction steps generalizing runtime with
  | nil => rfl
  | cons input steps ih =>
    rw [List.foldl_cons, ih (jobsKept_step h input) horderly.2, toldInRun, FirstOf.merge_append,
      eventsOf_step h horderly.1]

theorem ended_change (hfresh : FreshName runtime event)
    (hchange : Change config env event runtime state leases) (h : Ended runtime.state jobId) :
    Ended state jobId := by
  -- a job that is known stays known, and another job that ends makes no difference
  have hend : ∀ (other : String) (events : List NetworkEvent),
      Ended { runtime.state with
        applePending := runtime.state.applePending.erase other
        jobs := runtime.state.jobs.insert other events } jobId := by
    intro other events
    refine ⟨Map.isSome_lookup_insert h.1 other events, ?_⟩
    change (Map.erase _ _).lookup jobId = none
    rw [Map.lookup_erase]
    split
    · rfl
    · exact h.2
  cases hchange with
  | same hstate => exact (ended_of_core hstate).2 h
  | inventory hagent howner hlocked hstate =>
    rename_i hcore
    exact (ended_of_core hcore).2 h
  | reject hevent hnext hneeds hlease hstate => exact (ended_of_core hstate).2 (hend _ _)
  | grant hevent hnext hneeds hlease hstate => exact (ended_of_core hstate).2 h
  | reconcile hholder hstate => exact (ended_of_core hstate).2 h
  | complete => exact ⟨Map.isSome_lookup_insert h.1 _ _, h.2⟩
  | @acceptApple peerId target operation hevent hnew htarget =>
    have hne : jobId ≠ appleJobId operation.idempotencyKey := by
      rintro rfl
      have hsome := h.1
      rw [hfresh.of_accept hevent hnew] at hsome
      cases hsome
    refine ⟨Map.isSome_lookup_insert h.1 _ _, ?_⟩
    change (Map.insert _ _ _).lookup jobId = none
    rw [Map.lookup_insert_ne hne]
    exact h.2
  | ongoing => exact ⟨Map.isSome_lookup_insert h.1 _ _, h.2⟩
  | terminal hevent hagent hstate => exact (ended_of_core hstate).2 (hend _ _)
  | cancel => exact hend _ _
  | lease hevent hstate => exact (ended_of_core hstate).2 h
  | _ => exact h

theorem eventsOf_ended_step (h : JobsKept runtime) (horderly : Orderly runtime input.2)
    (hended : Ended runtime.state (appleJobId key)) :
    (runtime.step config input).state.eventsOf (appleJobId key)
      = runtime.state.eventsOf (appleJobId key) := by
  obtain ⟨env, event⟩ := input
  by_cases hevent : ∃ peerId jobId events terminal,
      event = .request peerId (.appleProgress jobId events terminal)
  · obtain ⟨peerId, jobId, events, terminal, rfl⟩ := hevent
    rw [eventsOf_step h horderly, told_progress]
    split
    · rename_i htaken
      obtain ⟨rfl, -, -, hagent, hlooked, -⟩ := htaken
      rcases hlooked with rfl | ⟨hok, -⟩
      · exact FirstOf.merge_of_covered (horderly.ended peerId _ events rfl hagent hended.2)
      · -- a job that does not wait cannot be written for
        rw [restoreAcknowledgedWriter, hended.2] at hok
        cases hok
    · exact FirstOf.merge_nil
  · have hother : ∀ peerId jobId events terminal,
        event ≠ .request peerId (.appleProgress jobId events terminal) :=
      fun peerId jobId events terminal heq => hevent ⟨peerId, jobId, events, terminal, heq⟩
    rcases eventsOf_change h horderly (handle_change config env event runtime) hother key with
      hsame | ⟨hpending, -⟩
    · exact hsame
    · rw [hended.2] at hpending
      cases hpending

/-- **A job that is over stays as it is.** -/
theorem eventsOf_ended_run (h : JobsKept runtime) {steps : List (Env × Event)}
    (horderly : AllSteps (Runtime.step config) (fun runtime input => Orderly runtime input.2) steps
      runtime) (hended : Ended runtime.state (appleJobId key)) :
    (steps.foldl (Runtime.step config) runtime).state.eventsOf (appleJobId key)
      = runtime.state.eventsOf (appleJobId key) := by
  induction steps generalizing runtime with
  | nil => rfl
  | cons input steps ih =>
    have hnext : Ended (runtime.step config input).state (appleJobId key) :=
      ended_change horderly.1.fresh (handle_change config input.1 input.2 runtime) hended
    rw [List.foldl_cons, ih (jobsKept_step h input) horderly.2 hnext,
      eventsOf_ended_step h horderly.1 hended]

/-- What ends a job: the last batch of its agent is taken, or the registry itself tells that it was
rejected or cancelled. -/
def Ends (config : Config) (runtime : Runtime) (input : Env × Event) (jobId : String) : Prop :=
  (∃ peerId events, input.2 = .request peerId (.appleProgress jobId events true) ∧
    runtime.takes config input.1 peerId jobId events true) ∨
  OwnEvent runtime.state input.2 (runtime.step config input).state jobId

theorem ended_of_ends (h : JobsKept runtime) (horderly : Orderly runtime input.2)
    (hends : Ends config runtime input (appleJobId key)) :
    Ended (runtime.step config input).state (appleJobId key) := by
  obtain ⟨env, event⟩ := input
  rcases hends with ⟨peerId, events, rfl, htaken⟩ | ⟨kind, payload, hresults, hown⟩
  · rcases step_progress config env peerId (appleJobId key) events true runtime with
      ⟨-, hcore⟩ | ⟨hrefused, -⟩
    · exact (ended_of_core hcore).2 (ended_taken _ _ _)
    · exact absurd htaken hrefused
  · have hother : ∀ peerId jobId events terminal,
        event ≠ .request peerId (.appleProgress jobId events terminal) := by
      rintro peerId jobId events terminal rfl
      rcases hown with ⟨-, _, hresume⟩ | ⟨-, _, hcancel, -⟩
      · cases hresume
      · cases hcancel
    rcases eventsOf_change h horderly (handle_change config env event runtime) hother key with
      hsame | ⟨-, hended, -⟩
    · have hlast : runtime.state.eventsOf (appleJobId key)
          = runtime.state.eventsOf (appleJobId key) ++ [{ sequence := 1, kind, payload }] :=
        hsame.symm.trans (congrArg Prod.fst hresults)
      have hlength := congrArg List.length hlast
      rw [List.length_append, List.length_singleton] at hlength
      omega
    · exact hended

/-- **Every event counts once, and none after the end.** -/
structure ExactlyOnce (config : Config) (steps : List (Env × Event)) (jobId : String) : Prop where
  /-- No two events have the same number. -/
  distinct : Always (Runtime.step config)
    (fun runtime => ((runtime.state.eventsOf jobId).map NetworkEvent.sequence).Nodup) steps
    Runtime.empty
  /-- The event with a number is the first one that the registry was told. -/
  first : ∀ earlier later, steps = earlier ++ later → ∀ n,
    ((earlier.foldl (Runtime.step config) Runtime.empty).state.eventsOf jobId).find?
        (fun event => event.sequence = n)
      = (toldInRun config jobId earlier Runtime.empty).find? (fun event => event.sequence = n)
  /-- A batch that has been taken changes nothing when it comes again. -/
  resent : ∀ earlier middle later env again peerId peerId' events terminal terminal',
    steps = earlier ++ (env, .request peerId (.appleProgress jobId events terminal)) ::
      (middle ++ (again, .request peerId' (.appleProgress jobId events terminal')) :: later) →
    (earlier.foldl (Runtime.step config) Runtime.empty).takes config env peerId jobId events terminal →
      ∀ runtime, runtime = (earlier ++ (env, .request peerId (.appleProgress jobId events terminal)) ::
          middle).foldl (Runtime.step config) Runtime.empty →
        (runtime.step config
          (again, .request peerId' (.appleProgress jobId events terminal'))).state.eventsOf jobId
            = runtime.state.eventsOf jobId
  /-- Nothing is added after the end. -/
  frozen : ∀ earlier input later, steps = earlier ++ input :: later →
    Ends config (earlier.foldl (Runtime.step config) Runtime.empty) input jobId →
      Always (Runtime.step config)
        (fun runtime => runtime.state.eventsOf jobId
          = (((earlier.foldl (Runtime.step config) Runtime.empty).step config input).state.eventsOf
            jobId)) later
        ((earlier.foldl (Runtime.step config) Runtime.empty).step config input)

/-- Every event counts once, in every run that is orderly. -/
theorem exactlyOnce_of_run (config : Config) (steps : List (Env × Event))
    (h : AllSteps (Runtime.step config) (fun runtime input => Orderly runtime input.2) steps
      Runtime.empty) (key : String) : ExactlyOnce config steps (appleJobId key) := by
  have hevents : ∀ earlier later, steps = earlier ++ later →
      (earlier.foldl (Runtime.step config) Runtime.empty).state.eventsOf (appleJobId key)
        = FirstOf.merge NetworkEvent.sequence []
            (toldInRun config (appleJobId key) earlier Runtime.empty) := by
    rintro earlier later rfl
    rw [Runs.allSteps_append] at h
    exact eventsOf_run (jobsKept_empty config) h.1 key
  have hkept : ∀ earlier : List (Env × Event),
      JobsKept (earlier.foldl (Runtime.step config) Runtime.empty) :=
    fun earlier => jobsKept_run earlier (jobsKept_empty config)
  refine ⟨?_, ?_, ?_, ?_⟩
  · intro earlier later happend
    rw [hevents earlier later happend]
    have hnil : (([] : List NetworkEvent).map NetworkEvent.sequence).Nodup := List.nodup_nil
    exact FirstOf.nodup_merge hnil _
  · intro earlier later happend n
    rw [hevents earlier later happend, FirstOf.find?_merge, List.nil_append]
  · rintro earlier middle later env again peerId peerId' events terminal terminal' rfl htaken runtime rfl
    have hkept₁ := hkept earlier
    rw [Runs.allSteps_append] at h
    obtain ⟨-, hfirst, hrest⟩ := h
    rw [Runs.allSteps_append] at hrest
    obtain ⟨hmiddle, hagain, -⟩ := hrest
    rw [List.foldl_append, List.foldl_cons]
    generalize earlier.foldl (Runtime.step config) Runtime.empty = before
      at htaken hfirst hmiddle hagain hkept₁ ⊢
    have hkept₂ : JobsKept (before.step config
        (env, .request peerId (.appleProgress (appleJobId key) events terminal))) :=
      jobsKept_step hkept₁ _
    -- the batch is there once it has been taken, and it stays
    have hthere : ∀ e ∈ events, ∃ current ∈ (middle.foldl (Runtime.step config) (before.step config
        (env, .request peerId (.appleProgress (appleJobId key) events terminal)))).state.eventsOf
          (appleJobId key), current.sequence = e.sequence := by
      intro e he
      rw [eventsOf_run hkept₂ hmiddle, eventsOf_step hkept₁ hfirst, told_progress,
        if_pos ⟨rfl, htaken⟩]
      have hcovered : ∃ current ∈ FirstOf.merge NetworkEvent.sequence
          (before.state.eventsOf (appleJobId key)) events, current.sequence = e.sequence :=
        FirstOf.covered_merge he
      obtain ⟨current, hcurrent, hsequence⟩ := hcovered
      exact ⟨current, (FirstOf.prefix_merge _ _).subset hcurrent, hsequence⟩
    rw [eventsOf_step (jobsKept_run middle hkept₂) hagain, told_progress]
    split
    · exact FirstOf.merge_of_covered hthere
    · exact FirstOf.merge_nil
  · rintro earlier input later rfl hends
    rw [Runs.allSteps_append] at h
    obtain ⟨-, hfirst, hrest⟩ := h
    have hended := ended_of_ends (hkept earlier) hfirst hends
    rintro before after rfl
    rw [Runs.allSteps_append] at hrest
    exact eventsOf_ended_run (jobsKept_step (hkept earlier) input) hrest.1 hended

/-! ### Two last words -/

def sampleDispatched : Runtime :=
  { sampleAccepted with
    state := sampleAccepted.state.dispatch sampleAppleId
    leases := sampleLeases.setWriter "phone" sampleAppleId
    storedState := sampleAccepted.state.dispatch sampleAppleId
    storedLeases := sampleLeases.setWriter "phone" sampleAppleId
    flights := [] }

omit [Sha256] in
theorem leaseOf_sampleLeases :
    sampleLeases.leaseOf "phone" (leaseIdOf 1) (some "client") = some sampleLease := by
  have hlookup : sampleLeases.active.lookup "phone" = some sampleLease := Map.lookup_insert_self _ _ _
  rw [LeaseBook.leaseOf, hlookup, Option.filter_some, if_pos]
  rw [Bool.and_eq_true, decide_eq_true_eq, decide_eq_true_eq]
  exact ⟨rfl, rfl⟩

theorem nextApple_sampleAccepted : sampleAccepted.state.nextApple sampleLeases sampleEnv.orders "host"
    = some (sampleAppleId, sampleOperation) :=
  DurableState.nextApple_eq_of_only (Map.lookup_insert_self _ _ _) (Map.lookup_insert_self _ _ _)
    (Finset.notMem_empty _) rfl fun other operation hother => Map.eq_of_lookup_insert_empty hother

theorem heartbeatDispatch_sampleAccepted (flights : List Flight) :
    heartbeatDispatch sampleConfig sampleEnv "host" { sampleAccepted with flights }
      = ({ sampleDispatched with flights },
          some
            { response with
              appleOperation := some sampleOperation
              jobId := some sampleAppleId
              leaseGrant := some (grantOf sampleConfig.sign sampleLease sampleAppleId 0)
              cancelJobs := ∅ }) := by
  have hclient : sampleAccepted.state.jobClients.lookup sampleAppleId = some "client" :=
    Map.lookup_insert_self _ _ _
  have hexpire : sampleLeases.expire sampleEnv.orders.active sampleEnv.nowMs = sampleLeases := rfl
  have hleases : ({ sampleAccepted with flights } : Runtime).leases = sampleLeases := rfl
  have hneeds : leaseNeeded sampleOperation = some ("phone", leaseIdOf 1) := rfl
  unfold heartbeatDispatch
  dsimp only
  rw [hleases, nextApple_sampleAccepted]
  change dispatchApple sampleConfig sampleEnv sampleAppleId sampleOperation response
    { sampleAccepted with flights } = _
  unfold dispatchApple
  rw [hneeds]
  dsimp only
  rw [hleases, hexpire, hclient, leaseOf_sampleLeases]
  rfl

theorem step_sampleAccepted :
    sampleAccepted.step sampleConfig (sampleEnv, .resume (.online "host")) = sampleDispatched :=
  step_resume (List.mem_singleton_self _) rfl
    (congrArg Prod.fst (heartbeatDispatch_sampleAccepted [])) (Nat.le_of_ble_eq_true rfl)

def sampleLast (n : ℕ) : NetworkEvent := ⟨n, "completed", ""⟩

def sampleEnded : Runtime :=
  { sampleDispatched with
    state := sampleDispatched.state.taken sampleAppleId [sampleLast 1] true
    leases :=
      { sampleLeases with
        writers := (sampleLeases.setWriter "phone" sampleAppleId).writers.erase "phone" }
    storedState := sampleDispatched.state.taken sampleAppleId [sampleLast 1] true
    holder := some .storingLeases }

theorem agent_sampleDispatched : sampleDispatched.state.jobAgents.lookup sampleAppleId = some "agent" :=
  Map.lookup_insert_self _ _ _

theorem appleProgress_sampleDispatched :
    (appleProgress sampleEnv "agent" sampleAppleId [sampleLast 1] true sampleDispatched).1
      = sampleEnded := by
  have hwritten : writtenDevices sampleDispatched.leases sampleEnv.orders sampleAppleId = ["phone"] := by
    change (List.filter _ [("phone", (⟨sampleAppleId⟩ : DeviceWriter))]).map Prod.fst = _
    rw [List.filter_cons_of_pos]
    · rfl
    · exact decide_eq_true rfl
  unfold appleProgress
  rw [if_neg (not_not.2 agent_sampleDispatched), if_pos rfl]
  unfold progressTerminal
  dsimp only
  rw [hwritten]
  rfl

def sampleOver : Runtime :=
  { sampleEnded with
    storedLeases := sampleEnded.leases
    holder := none }

theorem step_sampleDispatched :
    sampleDispatched.step sampleConfig
      (sampleEnv, .request "agent" (.appleProgress sampleAppleId [sampleLast 1] true)) = sampleEnded :=
  step_request rfl rfl appleProgress_sampleDispatched (Nat.le_of_ble_eq_true rfl)

theorem step_sampleEnded : sampleEnded.step sampleConfig (sampleEnv, .settle) = sampleOver :=
  step_of_perform rfl (Nat.le_of_ble_eq_true rfl)

theorem agent_sampleOver : sampleOver.state.jobAgents.lookup sampleAppleId = some "agent" :=
  Map.lookup_insert_self _ _ _

theorem leases_sampleOver :
    (appleProgress sampleEnv "agent" sampleAppleId [sampleLast 2] true sampleOver).1.leases
      = sampleOver.leases := by
  unfold appleProgress
  rw [if_neg (not_not.2 agent_sampleOver), if_pos rfl]
  rfl

theorem takes_terminal {peerId : String} {events : List NetworkEvent} (hholder : runtime.holder = none)
    (hrecovery : runtime.state.recoveryError = none)
    (hagent : runtime.state.jobAgents.lookup jobId = some peerId)
    (hnext : (appleProgress env peerId jobId events true runtime).1.leases.nextId ≤ Dashboard.u64Max) :
    runtime.takes config env peerId jobId events true := by
  refine ⟨hholder, hrecovery, hagent, .inl rfl, ?_⟩
  rw [perform_request hholder hrecovery]
  exact hnext

def sampleAppleSteps : List (Env × Event) :=
  sampleHostSteps ++ sampleJobSteps ++ [(sampleEnv, .resume (.online "host"))]

theorem foldl_sampleAppleSteps :
    sampleAppleSteps.foldl (Runtime.step sampleConfig) Runtime.empty = sampleDispatched := by
  rw [sampleAppleSteps, List.foldl_append, List.foldl_append, foldl_sampleHostSteps,
    foldl_sampleJobSteps]
  exact step_sampleAccepted

theorem orderly_of_ne
    (hprogress : ∀ peerId jobId events, event ≠ .request peerId (.appleProgress jobId events true))
    (hcancel : ∀ peerId jobId, event ≠ .request peerId (.appleCancel jobId))
    (hfresh : FreshName runtime event) : Orderly runtime event := by
  refine ⟨hfresh, fun peerId jobId events hevent => ?_, fun peerId jobId hevent => ?_⟩
  · exact absurd hevent (hprogress peerId jobId events)
  · exact absurd hevent (hcancel peerId jobId)

theorem orderly_sampleAppleSteps :
    AllSteps (Runtime.step sampleConfig) (fun runtime input => Orderly runtime input.2) sampleAppleSteps
      Runtime.empty := by
  rw [sampleAppleSteps, Runs.allSteps_append, Runs.allSteps_append, List.foldl_append,
    foldl_sampleHostSteps]
  refine ⟨⟨⟨?_, ?_, ?_, ?_, trivial⟩, ?_, ?_, trivial⟩, ?_, trivial⟩
  all_goals
    refine orderly_of_ne ?_ ?_ ?_
    · intro peerId jobId _ hevent
      cases hevent
    · intro peerId jobId hevent
      cases hevent
  -- the name of the one job is new
  all_goals
    rintro peerId operation (hevent | hevent) hnew
  all_goals
    cases hevent
  · rfl
  · rw [step_sampleOnline]
    rfl

omit [Sha256] in
/-- The agent reports the end of the job, and that is all. -/
theorem exactlyOnce_sample : letI := sampleHash
    ExactlyOnce sampleConfig
      (sampleAppleSteps ++
        [(sampleEnv, .request "agent" (.appleProgress sampleAppleId [sampleLast 1] true))])
      (appleJobId "test") := by
  let _ := sampleHash
  refine exactlyOnce_of_run _ _ (Runs.allSteps_append.2 ⟨?_, ?_⟩) "test"
  · exact orderly_sampleAppleSteps
  · rw [foldl_sampleAppleSteps]
    refine ⟨⟨?_, ?_, ?_⟩, trivial⟩
    · rintro peerId operation (hevent | hevent)
      · cases hevent
      · cases hevent
    · intro peerId jobId events hevent hagent hended
      cases hevent
      have hpending : sampleDispatched.state.applePending.lookup sampleAppleId = some sampleOperation :=
        Map.lookup_insert_self _ _ _
      rw [hpending] at hended
      cases hended
    · intro peerId jobId hevent
      cases hevent

/-- The events of every Apple job count once, in every run. -/
def AlwaysOnce : Prop :=
  ∀ (config : Config) (steps : List (Env × Event)) (key : String),
    ExactlyOnce config steps (appleJobId key)

end

/-- An agent adds an event to a job that has ended, whatever the hash function. -/
theorem not_alwaysOnce : ¬ ∃ _ : Sha256, AlwaysOnce := by
  rintro ⟨hash, h⟩
  let last : Env × Event :=
    (sampleEnv, .request "agent" (.appleProgress sampleAppleId [sampleLast 1] true))
  let late : Env × Event :=
    (sampleEnv, .request "agent" (.appleProgress sampleAppleId [sampleLast 2] true))
  have htaken : sampleDispatched.takes sampleConfig sampleEnv "agent" sampleAppleId [sampleLast 1]
      true := by
    refine takes_terminal rfl rfl agent_sampleDispatched ?_
    rw [appleProgress_sampleDispatched]
    exact Nat.le_of_ble_eq_true rfl
  have hlate : sampleOver.takes sampleConfig sampleEnv "agent" sampleAppleId [sampleLast 2] true := by
    refine takes_terminal rfl rfl agent_sampleOver ?_
    rw [leases_sampleOver]
    exact Nat.le_of_ble_eq_true rfl
  have hfrozen := (h sampleConfig (sampleAppleSteps ++ last :: [(sampleEnv, .settle), late])
    "test").frozen sampleAppleSteps last [(sampleEnv, .settle), late] rfl
  rw [foldl_sampleAppleSteps] at hfrozen
  have hsame := (hfrozen (.inl ⟨"agent", [sampleLast 1], rfl, htaken⟩)).last
  rw [show sampleDispatched.step sampleConfig last = sampleEnded from step_sampleDispatched,
    List.foldl_cons, step_sampleEnded, List.foldl_cons, List.foldl_nil] at hsame
  -- the event that comes late is there all the same
  rcases step_progress sampleConfig sampleEnv "agent" sampleAppleId [sampleLast 2] true sampleOver with
    ⟨-, hcore⟩ | ⟨hrefused, -⟩
  · have hafter := eventsOf_of_core hcore sampleAppleId
    rw [eventsOf_taken] at hafter
    have hended : sampleOver.state.eventsOf sampleAppleId = [sampleLast 1] := by
      refine (eventsOf_taken sampleDispatched.state sampleAppleId [sampleLast 1] true).trans ?_
      have hnone : sampleDispatched.state.eventsOf sampleAppleId = [] := by
        change ((Map.insert _ _ _).lookup _).getD [] = []
        rw [Map.lookup_insert_self]
        rfl
      rw [hnone]
      rfl
    have hlength := congrArg List.length (hafter.symm.trans (hsame.trans hended))
    rw [hended] at hlength
    exact absurd hlength (by decide)
  · exact hrefused hlate

end Registry
