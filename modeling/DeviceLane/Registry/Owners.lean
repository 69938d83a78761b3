/-
**Who reports on a job.**

A plain job belongs to the agent of its host, and an Apple job to the agent that was recorded when the job
was accepted. Reports on an Apple job are taken from its agent only. The end of a plain job is taken from
whoever sends it: where every end comes from the agent of the host, jobs are reported on by their agents
alone, and everybody else leaves the state as it is.

Main definitions:

* `Registry.DurableState.results` — what is stored of how a job has gone.

Main results:

* `Registry.ownerOnly_of_run` — **only agents report on their jobs, in every run that is legitimate**.
-/

import DeviceLane.Library.Runs
import DeviceLane.Registry.Dispatch

namespace Registry

open Runs (AllSteps Always)

/-! ### Results -/

namespace DurableState

def eventsOf (state : DurableState) (jobId : String) : List NetworkEvent :=
  (state.jobs.lookup jobId).getD []

/-- **What is stored of how a job has gone**: its events, its artifact, and its records in the audit. -/
def results (state : DurableState) (jobId : String) :
    List NetworkEvent × Option String × List AuditRecord :=
  (state.eventsOf jobId, state.artifacts.lookup jobId,
    state.audit.filter fun record => record.jobId = jobId)

def mayServe (state : DurableState) (peerId : String) : Request → Prop
  | .complete jobId _ _ => ∃ operation, state.pending.lookup jobId = some operation ∧
      state.hostPeers.lookup operation.hostId = some peerId
  | .appleProgress jobId _ _ => state.jobAgents.lookup jobId = some peerId
  | .appleCancel jobId => state.jobClients.lookup jobId = some peerId
  | _ => False

theorem results_of_core {state state' : DurableState} (h : state'.core = state.core) (jobId : String) :
    state'.results jobId = state.results jobId :=
  read_of_core (fun state => state.results jobId) (fun _ => rfl) h

theorem results_insert_ne {state : DurableState} {jobId other : String} (h : other ≠ jobId)
    (events : List NetworkEvent) :
    ({ state with jobs := state.jobs.insert jobId events } : DurableState).results other
      = state.results other := by
  refine Prod.ext ?_ rfl
  change ((Map.insert _ _ _).lookup other).getD [] = _
  rw [Map.lookup_insert_ne h]
  rfl

theorem results_insert_self (state : DurableState) (jobId : String) (events : List NetworkEvent) :
    ({ state with jobs := state.jobs.insert jobId events } : DurableState).results jobId
      = (events, (state.results jobId).2) := by
  refine Prod.ext ?_ rfl
  change ((Map.insert _ _ _).lookup jobId).getD [] = _
  rw [Map.lookup_insert_self]
  rfl

theorem results_complete_ne (state : DurableState) {jobId other : String} (h : other ≠ jobId)
    (artifact : String) (events : List NetworkEvent) (operation : RunRequest) :
    (state.complete jobId artifact events operation).results other = state.results other := by
  refine Prod.ext ?_ (Prod.ext ?_ ?_)
  · change ((Map.insert _ _ _).lookup other).getD [] = _
    rw [Map.lookup_insert_ne h]
    rfl
  · exact Map.lookup_insert_ne h _
  · change List.filter _ (_ ++ [_]) = _
    rw [List.filter_append, List.filter_cons_of_neg, List.filter_nil, List.append_nil]
    · rfl
    · rw [decide_eq_true_eq]
      exact h.symm

end DurableState

/-! ### Jobs that are known -/

section

variable [Sha256]

/-- Jobs that are recorded have a list of events, and the agents of Apple jobs are recorded only. -/
structure DurableState.Known (state : DurableState) : Prop where
  agents : ∀ jobId peerId, state.jobAgents.lookup jobId = some peerId →
    (∃ key, jobId = appleJobId key) ∧ (state.jobs.lookup jobId).isSome
  pending : ∀ jobId operation, state.applePending.lookup jobId = some operation →
    (state.jobs.lookup jobId).isSome
  acknowledged : ∀ jobId ∈ state.acknowledged, (state.jobs.lookup jobId).isSome

theorem DurableState.Known.of_fields {state state' : DurableState} (h : state.Known)
    (hagents : state'.jobAgents = state.jobAgents) (hpending : state'.applePending = state.applePending)
    (hacknowledged : state'.acknowledged = state.acknowledged)
    (hjobs : ∀ jobId, (state.jobs.lookup jobId).isSome → (state'.jobs.lookup jobId).isSome) :
    state'.Known := by
  refine ⟨?_, ?_, ?_⟩
  · rw [hagents]
    intro jobId peerId hlookup
    exact (h.agents jobId peerId hlookup).imp_right (hjobs jobId)
  · rw [hpending]
    intro jobId operation hlookup
    exact hjobs jobId (h.pending jobId operation hlookup)
  · rw [hacknowledged]
    exact fun jobId hmem => hjobs jobId (h.acknowledged jobId hmem)

theorem DurableState.Known.of_core {state state' : DurableState} (hcore : state'.core = state.core)
    (h : state.Known) : state'.Known := by
  refine h.of_fields (read_of_core DurableState.jobAgents (fun _ => rfl) hcore)
    (read_of_core DurableState.applePending (fun _ => rfl) hcore)
    (read_of_core DurableState.acknowledged (fun _ => rfl) hcore) fun jobId hsome => ?_
  rw [read_of_core DurableState.jobs (fun _ => rfl) hcore]
  exact hsome

theorem DurableState.Known.erase_pending {state : DurableState} (h : state.Known) (jobId : String) :
    ({ state with applePending := state.applePending.erase jobId } : DurableState).Known := by
  refine ⟨h.agents, fun other operation hlookup => ?_, h.acknowledged⟩
  change (Map.erase _ _).lookup other = _ at hlookup
  rw [Map.lookup_erase] at hlookup
  split at hlookup
  · cases hlookup
  · exact h.pending other operation hlookup

theorem DurableState.Known.dismiss {state : DurableState} (h : state.Known)
    (jobId kind payload : String) : (state.dismiss jobId kind payload).Known :=
  (h.erase_pending jobId).of_fields rfl rfl rfl fun _ hsome => Map.isSome_lookup_insert hsome _ _

theorem DurableState.Known.progress {state : DurableState} (h : state.Known) (jobId : String)
    (events : List NetworkEvent) : (state.progress jobId events).Known :=
  h.of_fields rfl rfl rfl fun _ hsome => Map.isSome_lookup_insert hsome _ _

theorem known_change {config : Config} {env : Env} {event : Event} {runtime : Runtime}
    {state : DurableState} {leases : LeaseBook} (h : runtime.state.Known)
    (hchange : Change config env event runtime state leases) : state.Known := by
  cases hchange with
  | same hstate => exact h.of_core hstate
  | inventory hevent hagent howner hlocked hstate =>
    refine DurableState.Known.of_core hstate ?_
    exact h.of_fields rfl rfl rfl fun _ => id
  | expire => exact h
  | reject hevent hnext hneeds hlease hstate => exact .of_core hstate (h.dismiss _ _ _)
  | grant hevent hnext hneeds hlease hstate => exact h.of_core hstate
  | reconcile hholder hstate => exact h.of_core hstate
  | acceptRun => exact h.of_fields rfl rfl rfl fun _ => id
  | complete =>
    exact h.of_fields rfl rfl rfl fun _ hsome => Map.isSome_lookup_insert hsome _ _
  | @acceptApple peerId target operation hevent hnew htarget =>
    have hjobs : ∀ jobId, (runtime.state.jobs.lookup jobId).isSome →
        ((runtime.state.jobs.insert (appleJobId operation.idempotencyKey) []).lookup jobId).isSome :=
      fun _ hsome => Map.isSome_lookup_insert hsome _ _
    have hself : ((runtime.state.jobs.insert (appleJobId operation.idempotencyKey) []).lookup
        (appleJobId operation.idempotencyKey)).isSome := by
      rw [Map.lookup_insert_self]
      rfl
    refine ⟨fun jobId agent hlookup => ?_, fun jobId found hlookup => ?_, fun jobId hmem => ?_⟩
    · change (Option.elim _ _ _ : Map String String).lookup jobId = _ at hlookup
      cases hhost : runtime.state.hostPeers.lookup target with
      | none =>
        rw [hhost] at hlookup
        exact (h.agents jobId agent hlookup).imp_right (hjobs jobId)
      | some =>
        rw [hhost] at hlookup
        change (Map.insert _ _ _).lookup jobId = _ at hlookup
        rw [Map.lookup_insert] at hlookup
        split at hlookup
        · rename_i hjob
          rw [hjob]
          exact ⟨⟨_, rfl⟩, hself⟩
        · exact (h.agents jobId agent hlookup).imp_right (hjobs jobId)
    · change (Map.insert _ _ _).lookup jobId = _ at hlookup
      rw [Map.lookup_insert] at hlookup
      split at hlookup
      · rename_i hjob
        rw [hjob]
        exact hself
      · exact hjobs jobId (h.pending jobId found hlookup)
    · exact hjobs jobId (h.acknowledged jobId hmem)
  | restore => exact h
  | @ongoing peerId jobId events restored hevent hagent hrestored =>
    have hprogress := h.progress jobId events
    refine ⟨hprogress.agents, hprogress.pending, fun other hmem => ?_⟩
    rcases Finset.mem_insert.1 hmem with rfl | hmem
    · change ((Map.insert _ _ _).lookup other).isSome
      rw [Map.lookup_insert_self]
      rfl
    · exact hprogress.acknowledged other hmem
  | terminal hevent hagent hstate =>
    refine DurableState.Known.of_core hstate ?_
    exact ((h.progress _ _).erase_pending _).of_fields rfl rfl rfl fun _ => id
  | rollBack => exact h
  | cancel => exact h.dismiss _ _ _
  | lease hevent hstate => exact h.of_core hstate

theorem known_empty : DurableState.empty.Known :=
  ⟨fun _ _ h => (by cases h), fun _ _ h => (by cases h), fun _ h => absurd h (Finset.notMem_empty _)⟩

theorem known_keptByChanges (config : Config) :
    Runtime.KeptByChanges config DurableState.Known fun _ => True where
  core hcore h := h.of_core hcore
  recovery _ _ h := h.of_fields rfl rfl rfl fun _ => id
  empty := ⟨known_empty, trivial⟩
  expire _ _ _ _ := trivial
  finish _ _ _ _ := trivial
  change h _ hchange := ⟨known_change h hchange, trivial⟩

/-! ### Owners stay -/

theorem hostPeers_change {config : Config} {env : Env} {event : Event} {runtime : Runtime}
    {state : DurableState} {leases : LeaseBook} (hchange : Change config env event runtime state leases)
    {hostId peerId : String} (h : runtime.state.hostPeers.lookup hostId = some peerId) :
    state.hostPeers.lookup hostId = some peerId := by
  have hcore : ∀ {state' : DurableState}, state.core = state'.core →
      state'.hostPeers.lookup hostId = some peerId → state.hostPeers.lookup hostId = some peerId := by
    intro state' hstate hlookup
    rw [read_of_core DurableState.hostPeers (fun _ => rfl) hstate]
    exact hlookup
  cases hchange with
  | same hstate => exact hcore hstate h
  | @inventory state leases peer host hevent hagent howner hlocked hstate =>
    refine hcore hstate ?_
    -- a host that belongs to another agent is not taken over
    change (runtime.state.hostPeers.insert _ peer).lookup hostId = _
    rw [Map.lookup_insert]
    split
    · rename_i hhost
      rw [DurableState.ownedByAnother, Bool.or_eq_false_iff] at howner
      have hsame := howner.1
      rw [← hhost, h, Option.any_some, decide_eq_false_iff_not, not_not] at hsame
      rw [hsame]
    · exact h
  | reject hevent hnext hneeds hlease hstate => exact hcore hstate h
  | grant hevent hnext hneeds hlease hstate => exact hcore hstate h
  | reconcile hholder hstate => exact hcore hstate h
  | terminal hevent hagent hstate => exact hcore hstate h
  | lease hevent hstate => exact hcore hstate h
  | _ => exact h

def FreshName (runtime : Runtime) (event : Event) : Prop :=
  ∀ peerId operation,
    (event = .request peerId (.appleRun operation) ∨ event = .resume (.leased peerId operation)) →
      runtime.state.appleRequests.lookup operation.idempotencyKey = none →
        runtime.state.jobs.lookup (appleJobId operation.idempotencyKey) = none

theorem FreshName.of_accept {runtime : Runtime} {event : Event} (h : FreshName runtime event)
    {peerId : String} {operation : AppleRequest}
    (hevent : event = .request peerId (.appleRun operation) ∧
        operation.operation.mutatesDevice = false ∧ validateRequestEnvelope operation = .ok () ∨
      event = .resume (.leased peerId operation))
    (hnew : runtime.state.appleRequests.lookup operation.idempotencyKey = none) :
    runtime.state.jobs.lookup (appleJobId operation.idempotencyKey) = none :=
  h peerId operation (hevent.imp_left And.left) hnew

theorem jobAgents_change {config : Config} {env : Env} {event : Event} {runtime : Runtime}
    {state : DurableState} {leases : LeaseBook} (hknown : runtime.state.Known)
    (hfresh : FreshName runtime event) (hchange : Change config env event runtime state leases)
    {jobId peerId : String} (h : runtime.state.jobAgents.lookup jobId = some peerId) :
    state.jobAgents.lookup jobId = some peerId := by
  have hcore : ∀ {state' : DurableState}, state.core = state'.core →
      state'.jobAgents.lookup jobId = some peerId → state.jobAgents.lookup jobId = some peerId := by
    intro state' hstate hlookup
    rw [read_of_core DurableState.jobAgents (fun _ => rfl) hstate]
    exact hlookup
  cases hchange with
  | same hstate => exact hcore hstate h
  | inventory hevent hagent howner hlocked hstate =>
    exact hcore hstate h
  | reject hevent hnext hneeds hlease hstate => exact hcore hstate h
  | grant hevent hnext hneeds hlease hstate => exact hcore hstate h
  | reconcile hholder hstate => exact hcore hstate h
  | @acceptApple peer target operation hevent hnew htarget =>
    have hnone := hfresh.of_accept hevent hnew
    have hne : jobId ≠ appleJobId operation.idempotencyKey := by
      rintro rfl
      have hsome := (hknown.agents _ peerId h).2
      rw [hnone] at hsome
      cases hsome
    change (Option.elim _ _ _ : Map String String).lookup jobId = _
    cases runtime.state.hostPeers.lookup target with
    | none => exact h
    | some =>
      change (Map.insert _ _ _).lookup jobId = _
      rw [Map.lookup_insert_ne hne]
      exact h
  | terminal hevent hagent hstate => exact hcore hstate h
  | lease hevent hstate => exact hcore hstate h
  | _ => exact h

/-! ### What agents do -/

/-- The job that a request is about. -/
def Request.job : Request → Option String
  | complete jobId _ _ => some jobId
  | events jobId _ => some jobId
  | appleProgress jobId _ _ => some jobId
  | appleCancel jobId => some jobId
  | artifactRegister jobId _ _ _ _ => some jobId
  | _ => none

/-- The registry itself tells that a job was rejected, or that its client has cancelled it. -/
def OwnEvent (before : DurableState) (event : Event) (after : DurableState) (jobId : String) : Prop :=
  ∃ kind payload,
    after.results jobId
      = (before.eventsOf jobId ++ [{ sequence := 1, kind, payload }], (before.results jobId).2) ∧
    (kind = "rejected" ∧ (∃ hostId, event = .resume (.online hostId)) ∨
      kind = "cancelled" ∧ ∃ peerId, event = .request peerId (.appleCancel jobId) ∧
        before.jobClients.lookup jobId = some peerId)

/-- **Results change only with what the agent of the job sends.** -/
structure OwnerOnly (before : DurableState) (event : Event) (after : DurableState) : Prop where
  run : ∀ requestId,
    after.results (runJobId requestId) ≠ before.results (runJobId requestId) →
      ∃ peerId artifact events operation,
        event = .request peerId (.complete (runJobId requestId) artifact events) ∧
        before.pending.lookup (runJobId requestId) = some operation ∧
        before.hostPeers.lookup operation.hostId = some peerId
  apple : ∀ key, after.results (appleJobId key) ≠ before.results (appleJobId key) →
    (∃ peerId events terminal,
      event = .request peerId (.appleProgress (appleJobId key) events terminal) ∧
      before.jobAgents.lookup (appleJobId key) = some peerId) ∨
    OwnEvent before event after (appleJobId key)
  others : ∀ peerId request jobId, event = .request peerId request → request.job = some jobId →
    ¬ before.mayServe peerId request → after = before

/-- **Plain jobs are completed by their agents**, and new jobs get new names. -/
structure Legitimate (runtime : Runtime) (event : Event) : Prop where
  completed : ∀ peerId jobId artifact events operation,
    event = .request peerId (.complete jobId artifact events) →
      runtime.state.pending.lookup jobId = some operation →
        runtime.state.hostPeers.lookup operation.hostId = some peerId
  fresh : FreshName runtime event

/-! ### One step -/

variable {config : Config} {env : Env} {event : Event} {runtime : Runtime} {state : DurableState}
  {leases : LeaseBook}

theorem results_run_change (hnamed : runtime.state.Named) (hknown : runtime.state.Known)
    (hchange : Change config env event runtime state leases) {requestId : String}
    (h : state.results (runJobId requestId) ≠ runtime.state.results (runJobId requestId)) :
    ∃ peerId artifact events operation,
      event = .request peerId (.complete (runJobId requestId) artifact events) ∧
      runtime.state.pending.lookup (runJobId requestId) = some operation := by
  have hcore : ∀ {state' : DurableState}, state.core = state'.core →
      state'.results (runJobId requestId) = runtime.state.results (runJobId requestId) → False := by
    intro state' hstate hsame
    exact h ((DurableState.results_of_core hstate _).trans hsame)
  -- the events of an Apple job are not those of a plain one
  have happle : ∀ {jobId : String} (events : List NetworkEvent), (∃ key, jobId = appleJobId key) →
      ({ runtime.state with jobs := runtime.state.jobs.insert jobId events } : DurableState).results
        (runJobId requestId) = runtime.state.results (runJobId requestId) := by
    rintro jobId events ⟨key, rfl⟩
    exact DurableState.results_insert_ne (runJobId_ne_appleJobId requestId key) events
  cases hchange with
  | same hstate => exact (hcore hstate rfl).elim
  | inventory hevent hagent howner hlocked hstate =>
    exact (hcore hstate rfl).elim
  | reject hevent hnext hneeds hlease hstate =>
    have hpending := (DurableState.nextApple_eq_some hnext).1
    exact (hcore hstate (happle _ ⟨_, hnamed.apple _ _ hpending⟩)).elim
  | grant hevent hnext hneeds hlease hstate => exact (hcore hstate rfl).elim
  | reconcile hholder hstate => exact (hcore hstate rfl).elim
  | @complete peerId jobId artifact events operation hevent hpending =>
    by_cases hjob : runJobId requestId = jobId
    · subst hjob
      exact ⟨peerId, artifact, events, operation, hevent, hpending⟩
    · exact absurd (DurableState.results_complete_ne runtime.state hjob artifact events operation) h
  | acceptApple => exact absurd (happle [] ⟨_, rfl⟩) h
  | ongoing hevent hagent => exact absurd (happle _ (hknown.agents _ _ hagent).1) h
  | terminal hevent hagent hstate =>
    exact (hcore hstate (happle _ (hknown.agents _ _ hagent).1)).elim
  | cancel hevent hclient hpending =>
    obtain ⟨operation, hlookup⟩ := Option.isSome_iff_exists.1 hpending
    exact absurd (happle _ ⟨_, hnamed.apple _ _ hlookup⟩) h
  | lease hevent hstate => exact (hcore hstate rfl).elim
  | _ => exact absurd rfl h

theorem results_apple_change (hnamed : runtime.state.Named) (hfresh : FreshName runtime event)
    (hchange : Change config env event runtime state leases) {key : String}
    (h : state.results (appleJobId key) ≠ runtime.state.results (appleJobId key)) :
    (∃ peerId events terminal,
      event = .request peerId (.appleProgress (appleJobId key) events terminal) ∧
      runtime.state.jobAgents.lookup (appleJobId key) = some peerId) ∨
    OwnEvent runtime.state event state (appleJobId key) := by
  have hcore : ∀ {state' : DurableState}, state.core = state'.core →
      state'.results (appleJobId key) = runtime.state.results (appleJobId key) → False := by
    intro state' hstate hsame
    exact h ((DurableState.results_of_core hstate _).trans hsame)
  have hother : ∀ {jobId : String} (events : List NetworkEvent), appleJobId key ≠ jobId →
      ({ runtime.state with jobs := runtime.state.jobs.insert jobId events } : DurableState).results
        (appleJobId key) = runtime.state.results (appleJobId key) :=
    fun events hne => DurableState.results_insert_ne hne events
  cases hchange with
  | same hstate => exact (hcore hstate rfl).elim
  | inventory hevent hagent howner hlocked hstate =>
    exact (hcore hstate rfl).elim
  | @reject state hostId jobId deviceId leaseId operation hevent hnext hneeds hlease hstate =>
    by_cases hjob : appleJobId key = jobId
    · subst hjob
      refine .inr ⟨"rejected", "lease_inactive", ?_, .inl ⟨rfl, hostId, hevent⟩⟩
      exact (DurableState.results_of_core hstate _).trans
        (DurableState.results_insert_self runtime.state _ _)
    · exact (hcore hstate (hother _ hjob)).elim
  | grant hevent hnext hneeds hlease hstate => exact (hcore hstate rfl).elim
  | reconcile hholder hstate => exact (hcore hstate rfl).elim
  | @complete peerId jobId artifact events operation hevent hpending =>
    have hne : appleJobId key ≠ jobId := by
      rw [hnamed.pending jobId operation hpending]
      exact (runJobId_ne_appleJobId _ _).symm
    exact absurd (DurableState.results_complete_ne runtime.state hne artifact events operation) h
  | @acceptApple peerId target operation hevent hnew htarget =>
    by_cases hjob : appleJobId key = appleJobId operation.idempotencyKey
    · -- a new job has no events
      have hnone := hfresh.of_accept hevent hnew
      rw [← hjob] at hnone
      refine absurd ?_ h
      change ({ runtime.state with jobs := runtime.state.jobs.insert _ [] } : DurableState).results _
        = _
      rw [← hjob, DurableState.results_insert_self]
      refine Prod.ext ?_ rfl
      change [] = (runtime.state.jobs.lookup (appleJobId key)).getD []
      rw [hnone]
      rfl
    · exact absurd (hother [] hjob) h
  | @ongoing peerId jobId events restored hevent hagent hrestored =>
    by_cases hjob : appleJobId key = jobId
    · subst hjob
      exact .inl ⟨peerId, events, false, hevent, hagent⟩
    · exact absurd (hother _ hjob) h
  | @terminal state leases peerId jobId events hevent hagent hstate hleases =>
    by_cases hjob : appleJobId key = jobId
    · subst hjob
      exact .inl ⟨peerId, events, true, hevent, hagent⟩
    · exact (hcore hstate (hother _ hjob)).elim
  | @cancel peerId jobId hevent hclient hpending hdispatched =>
    by_cases hjob : appleJobId key = jobId
    · subst hjob
      refine .inr ⟨"cancelled", "", ?_, .inr ⟨rfl, peerId, hevent, hclient⟩⟩
      exact DurableState.results_insert_self runtime.state _ _
    · exact absurd (hother _ hjob) h
  | lease hevent hstate => exact (hcore hstate rfl).elim
  | _ => exact absurd rfl h

theorem state_handle_request {peerId : String} {req : Request}
    (h : (request config env peerId runtime req).1.state = runtime.state) :
    (handle config env (.request peerId req) runtime).1.state = runtime.state := by
  have hperform : (perform config env (.request peerId req) runtime).1.state = runtime.state := by
    unfold perform
    dsimp only
    split
    · rfl
    · split
      · exact h
      · split
        · exact h
        · rfl
  unfold handle
  split
  · exact hperform
  · rfl

/-- **Whoever may not be served leaves the state as it is**, if plain jobs are completed by their agents. -/
theorem state_handle_of_not_mayServe (hlegitimate : Legitimate runtime event) {peerId jobId : String}
    {req : Request} (hevent : event = .request peerId req) (hjob : req.job = some jobId)
    (h : ¬ runtime.state.mayServe peerId req) :
    (handle config env event runtime).1.state = runtime.state := by
  subst hevent
  refine state_handle_request ?_
  cases req with
  | complete jobId artifact events =>
    change (completeJob env jobId artifact events runtime).1.state = _
    unfold completeJob
    cases hpending : runtime.state.pending.lookup jobId with
    | none => rfl
    | some operation =>
      have howner := hlegitimate.completed peerId jobId artifact events operation rfl hpending
      exact absurd ⟨operation, hpending, howner⟩ h
  | events => rfl
  | appleProgress jobId events terminal =>
    change (appleProgress env peerId jobId events terminal runtime).1.state = _
    have hdenied : runtime.state.jobAgents.lookup jobId ≠ some peerId := h
    unfold appleProgress
    rw [if_pos hdenied]
  | appleCancel jobId =>
    change (appleCancel env peerId jobId runtime).1.state = _
    have hdenied : runtime.state.jobClients.lookup jobId ≠ some peerId := h
    unfold appleCancel
    rw [if_pos hdenied]
  | artifactRegister jobId name mediaType totalSize sha256 =>
    change (registerArtifact peerId jobId name mediaType totalSize sha256 runtime).1.state = _
    unfold registerArtifact
    split
    · rfl
    · rfl
  | _ => cases hjob

theorem ownerOnly_step (hnamed : runtime.state.Named) (hknown : runtime.state.Known)
    (h : Legitimate runtime event) :
    OwnerOnly runtime.state event (handle config env event runtime).1.state := by
  have hchange := handle_change config env event runtime
  refine ⟨fun requestId hresults => ?_, fun key hresults => ?_, fun peerId req jobId hevent hjob hmay =>
    state_handle_of_not_mayServe h hevent hjob hmay⟩
  · obtain ⟨peerId, artifact, events, operation, hevent, hpending⟩ :=
      results_run_change hnamed hknown hchange hresults
    exact ⟨peerId, artifact, events, operation, hevent, hpending,
      h.completed _ _ _ _ _ hevent hpending⟩
  · exact results_apple_change hnamed h.fresh hchange hresults

/-! ### Runs -/

structure OwnersStay (earlier later : DurableState) : Prop where
  hosts : ∀ hostId peerId, earlier.hostPeers.lookup hostId = some peerId →
    later.hostPeers.lookup hostId = some peerId
  agents : ∀ jobId peerId, earlier.jobAgents.lookup jobId = some peerId →
    later.jobAgents.lookup jobId = some peerId

omit [Sha256] in
theorem OwnersStay.refl (state : DurableState) : OwnersStay state state :=
  ⟨fun _ _ => id, fun _ _ => id⟩

/-- Names and agents are recorded as they should be, and whoever was recorded before still is. -/
structure Recorded (earlier : DurableState) (runtime : Runtime) : Prop where
  named : runtime.state.Named
  known : runtime.state.Known
  stay : OwnersStay earlier runtime.state

theorem recorded_step {earlier : DurableState} (h : Recorded earlier runtime)
    (hlegitimate : Legitimate runtime event) :
    Recorded earlier (handle config env event runtime).1 := by
  have hchange := handle_change config env event runtime
  refine ⟨named_change h.named hchange, known_change h.known hchange, ?_, ?_⟩
  · exact fun hostId peerId hlookup => hostPeers_change hchange (h.stay.hosts hostId peerId hlookup)
  · exact fun jobId peerId hlookup =>
      jobAgents_change h.known hlegitimate.fresh hchange (h.stay.agents jobId peerId hlookup)

/-- All steps of a run are made by the agents of the jobs, and agents stay. -/
structure OwnedRun (config : Config) (steps : List (Env × Event)) : Prop where
  owned : AllSteps (Runtime.step config)
    (fun runtime input => OwnerOnly runtime.state input.2 (runtime.step config input).state) steps
    Runtime.empty
  stay : ∀ earlier later, steps = earlier ++ later →
    Always (Runtime.step config)
      (fun runtime => OwnersStay (earlier.foldl (Runtime.step config) Runtime.empty).state runtime.state)
      later (earlier.foldl (Runtime.step config) Runtime.empty)

/-- **Only agents report on their jobs, in every run that is legitimate.** -/
theorem ownerOnly_of_run (config : Config) (steps : List (Env × Event))
    (h : AllSteps (Runtime.step config) (fun runtime input => Legitimate runtime input.2) steps
      Runtime.empty) : OwnedRun config steps := by
  have hstep : ∀ earlier (runtime : Runtime) (input : Env × Event), Recorded earlier runtime →
      Legitimate runtime input.2 → Recorded earlier (runtime.step config input) :=
    fun _ _ _ hrecorded hlegitimate => recorded_step hrecorded hlegitimate
  have hempty : Recorded DurableState.empty Runtime.empty :=
    ⟨(named_keptByChanges config).empty.1, known_empty, .refl _⟩
  refine ⟨h.imp (fun runtime input hrecorded hlegitimate => ⟨hstep _ _ _ hrecorded hlegitimate, ?_⟩)
    hempty, ?_⟩
  · exact ownerOnly_step hrecorded.named hrecorded.known hlegitimate
  · rintro earlier later rfl
    rw [Runs.allSteps_append] at h
    have hbefore := (h.1.always (hstep DurableState.empty) hempty).last
    have hrest := h.2.always (hstep _) ⟨hbefore.named, hbefore.known, .refl _⟩
    intro before after happend
    exact (hrest before after happend).stay

/-! ### A stranger -/

def sampleGiven : Runtime :=
  { sampleOnline with
    state := (sampleOwned.acceptRun sampleRunId sampleRun).dispatch sampleRunId
    storedState := (sampleOwned.acceptRun sampleRunId sampleRun).dispatch sampleRunId
    flights := [.running sampleRunId] }

def sampleRunSteps : List (Env × Event) :=
  sampleHostSteps ++ [(sampleEnv, .request "client" (.run sampleRun)), (sampleEnv, .resume (.online "host"))]

theorem foldl_sampleRunSteps :
    sampleRunSteps.foldl (Runtime.step sampleConfig) Runtime.empty = sampleGiven := by
  rw [sampleRunSteps, List.foldl_append, foldl_sampleHostSteps, List.foldl_cons, List.foldl_cons,
    List.foldl_nil, step_sampleRun rfl rfl rfl (Nat.le_of_ble_eq_true rfl)]
  have hmem : Flight.online "host" ∈ [Flight.running sampleRunId, Flight.online "host"] :=
    List.mem_cons_of_mem _ (List.mem_singleton_self _)
  refine step_resume hmem rfl ?_ (Nat.le_of_ble_eq_true rfl)
  have hrun : (sampleOnline.state.acceptRun sampleRunId sampleRun).nextRun sampleEnv.orders "host"
      = some (sampleRunId, sampleRun) :=
    DurableState.nextRun_eq_of_only (Map.lookup_insert_self _ _ _) rfl (Finset.notMem_empty _)
      fun other operation hother => Map.eq_of_lookup_insert_empty hother
  change (heartbeatDispatch sampleConfig sampleEnv "host" _).1 = _
  unfold heartbeatDispatch
  dsimp only
  rw [hrun]
  rfl

theorem step_sampleGiven (peerId : String) :
    sampleGiven.step sampleConfig (sampleEnv, .request peerId (.complete sampleRunId "app" []))
      = { sampleGiven with
          state := sampleGiven.state.complete sampleRunId "app" [] sampleRun
          storedState := sampleGiven.state.complete sampleRunId "app" [] sampleRun } := by
  refine step_request rfl rfl ?_ (Nat.le_of_ble_eq_true rfl)
  have hpending : sampleGiven.state.pending.lookup sampleRunId = some sampleRun :=
    Map.lookup_insert_self _ sampleRunId sampleRun
  change (completeJob sampleEnv sampleRunId "app" [] sampleGiven).1 = _
  unfold completeJob
  rw [hpending]
  rfl

theorem legitimate_of_ne
    (hcomplete : ∀ peerId jobId artifact events, event ≠ .request peerId (.complete jobId artifact events))
    (hrequest : ∀ peerId operation, event ≠ .request peerId (.appleRun operation))
    (hleased : ∀ peerId operation, event ≠ .resume (.leased peerId operation)) :
    Legitimate runtime event := by
  refine ⟨fun peerId jobId artifact events operation hevent => ?_, fun peerId operation hevent => ?_⟩
  · exact absurd hevent (hcomplete peerId jobId artifact events)
  · rcases hevent with hevent | hevent
    · exact absurd hevent (hrequest peerId operation)
    · exact absurd hevent (hleased peerId operation)

omit [Sha256] in
/-- The agent of the host ends the job. -/
theorem ownedRun_agent : letI := sampleHash
    OwnedRun sampleConfig
      (sampleRunSteps ++ [(sampleEnv, .request "agent" (.complete sampleRunId "app" []))]) := by
  let _ := sampleHash
  refine ownerOnly_of_run _ _ (Runs.allSteps_append.2 ⟨?_, ?_⟩)
  · refine ⟨?_, ?_, ?_, ?_, ?_, ?_, trivial⟩
    all_goals
      refine legitimate_of_ne ?_ ?_ ?_
      all_goals
        intros
        intro hevent
        cases hevent
  · rw [foldl_sampleRunSteps]
    refine ⟨⟨?_, ?_⟩, trivial⟩
    · intro peerId jobId artifact events operation hevent hpending
      cases hevent
      have hlookup : sampleGiven.state.pending.lookup sampleRunId = some sampleRun :=
        Map.lookup_insert_self _ sampleRunId sampleRun
      obtain rfl := Option.some.inj (hlookup.symm.trans hpending)
      rfl
    · intro peerId operation hevent
      rcases hevent with hevent | hevent
      · cases hevent
      · cases hevent

/-- Plain jobs are completed by their agents in every run. -/
def AlwaysOwned : Prop := ∀ (config : Config) (steps : List (Env × Event)), OwnedRun config steps

end

/-- A stranger ends the job of another agent, whatever the hash function. -/
theorem not_alwaysOwned : ¬ ∃ _ : Sha256, AlwaysOwned := by
  rintro ⟨hash, h⟩
  have hsteps := (h sampleConfig (sampleRunSteps ++
    [(sampleEnv, .request "stranger" (.complete sampleRunId "app" []))])).owned
  rw [Runs.allSteps_append, foldl_sampleRunSteps] at hsteps
  have howner : OwnerOnly sampleGiven.state
      (.request "stranger" (.complete sampleRunId "app" []))
      (sampleGiven.step sampleConfig
        (sampleEnv, .request "stranger" (.complete sampleRunId "app" []))).state := hsteps.2.1
  rw [step_sampleGiven] at howner
  have hchanged : (sampleGiven.state.complete sampleRunId "app" [] sampleRun).results sampleRunId
      ≠ sampleGiven.state.results sampleRunId := by
    intro hsame
    have hartifact : some "app" = none := by
      rw [← Map.lookup_insert_self sampleGiven.state.artifacts sampleRunId "app"]
      exact congrArg (fun results => results.2.1) hsame
    cases hartifact
  obtain ⟨peerId, artifact, events, operation, hevent, hpending, hhost⟩ := howner.run "run" hchanged
  cases hevent
  have hlookup : sampleGiven.state.pending.lookup sampleRunId = some sampleRun :=
    Map.lookup_insert_self _ sampleRunId sampleRun
  obtain rfl := Option.some.inj (hlookup.symm.trans hpending)
  have hstranger : some "agent" = some "stranger" := hhost
  exact absurd hstranger (by decide)

end Registry
