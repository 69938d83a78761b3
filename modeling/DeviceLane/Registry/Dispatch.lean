/-
**Jobs that are given out.**

The answer to a heartbeat can name a plain job and an Apple job, but it has one place for the number of a
job. Where only one of the two waits for the host, the answer fits the job, and a job counts as given out
only if it has been. Where both wait, the number of the Apple job takes the place of the other one, and
the plain job counts as given out without its agent being able to tell which job it is.

Main definitions:

* `Registry.DurableState.Named` — jobs are kept under the names that are made from their requests.

Main results:

* `Registry.coherent_iff_not_bothWait` — **a heartbeat is answered coherently exactly if not both kinds
  of jobs wait**.
-/

import DeviceLane.Registry.Stores

namespace Registry

variable {hostId jobId : String} {orders : Orders} {state before : DurableState} {leases : LeaseBook}
  {operation : AppleRequest} {env : Env} {runtime : Runtime}

/-! ### Names of jobs -/

section

variable [Sha256]

variable {state state' : DurableState}

theorem runJobId_ne_appleJobId (requestId idempotencyKey : String) :
    runJobId requestId ≠ appleJobId idempotencyKey := by
  intro h
  have hchars := congrArg String.toList h
  rw [runJobId, appleJobId, String.toList_append, String.toList_append] at hchars
  exact absurd (List.cons.inj hchars).1 (by decide)

structure DurableState.Named (state : DurableState) : Prop where
  pending : ∀ jobId operation, state.pending.lookup jobId = some operation →
    jobId = runJobId operation.requestId
  apple : ∀ jobId operation, state.applePending.lookup jobId = some operation →
    jobId = appleJobId operation.idempotencyKey

theorem DurableState.Named.of_fields (h : state.Named) (hpending : state'.pending = state.pending)
    (happle : state'.applePending = state.applePending) : state'.Named := by
  constructor
  · rw [hpending]
    exact h.pending
  · rw [happle]
    exact h.apple

theorem DurableState.Named.of_core (hcore : state'.core = state.core) (h : state.Named) : state'.Named :=
  h.of_fields (read_of_core DurableState.pending (fun _ => rfl) hcore)
    (read_of_core DurableState.applePending (fun _ => rfl) hcore)

theorem DurableState.Named.of_erase (h : state.Named) {jobId : String}
    (hpending : state'.pending = state.pending)
    (happle : state'.applePending = state.applePending.erase jobId) : state'.Named := by
  refine ⟨hpending ▸ h.pending, fun other operation hlookup => ?_⟩
  rw [happle, Map.lookup_erase] at hlookup
  split at hlookup
  · cases hlookup
  · exact h.apple other operation hlookup

theorem named_change {config : Config} {env : Env} {event : Event} {runtime : Runtime}
    {leases : LeaseBook} (h : runtime.state.Named)
    (hchange : Change config env event runtime state leases) : state.Named := by
  cases hchange with
  | same hstate => exact h.of_core hstate
  | inventory hevent hagent howner hlocked hstate =>
    refine DurableState.Named.of_core hstate ?_
    exact h.of_fields rfl rfl
  | expire => exact h
  | reject hevent hnext hneeds hlease hstate =>
    refine DurableState.Named.of_core hstate ?_
    exact h.of_erase rfl rfl
  | grant hevent hnext hneeds hlease hstate => exact h.of_core hstate
  | reconcile hholder hstate => exact h.of_core hstate
  | acceptRun =>
    refine ⟨fun jobId found hlookup => ?_, h.apple⟩
    change (Map.insert _ _ _).lookup jobId = _ at hlookup
    rw [Map.lookup_insert] at hlookup
    split at hlookup
    · cases hlookup
      assumption
    · exact h.pending jobId found hlookup
  | complete =>
    refine ⟨fun jobId found hlookup => ?_, h.apple⟩
    change (Map.erase _ _).lookup jobId = _ at hlookup
    rw [Map.lookup_erase] at hlookup
    split at hlookup
    · cases hlookup
    · exact h.pending jobId found hlookup
  | acceptApple =>
    refine ⟨h.pending, fun jobId found hlookup => ?_⟩
    change (Map.insert _ _ _).lookup jobId = _ at hlookup
    rw [Map.lookup_insert] at hlookup
    split at hlookup
    · cases hlookup
      assumption
    · exact h.apple jobId found hlookup
  | restore => exact h
  | ongoing => exact h.of_fields rfl rfl
  | terminal hevent hagent hstate =>
    refine DurableState.Named.of_core hstate ?_
    exact h.of_erase rfl rfl
  | rollBack => exact h
  | cancel => exact h.of_erase rfl rfl
  | lease hevent hstate => exact h.of_core hstate

theorem named_keptByChanges (config : Config) :
    Runtime.KeptByChanges config DurableState.Named fun _ => True where
  core hcore h := h.of_core hcore
  recovery state error h := h.of_fields rfl rfl
  empty := ⟨⟨fun _ _ h => (by cases h), fun _ _ h => (by cases h)⟩, trivial⟩
  expire _ _ _ _ := trivial
  finish _ _ _ _ := trivial
  change h _ hchange := ⟨named_change h hchange, trivial⟩

/-- **Plain jobs and Apple jobs never have the same name**, however often the registry has crashed. -/
theorem Runtime.named_runInputs (config : Config) (inputs : List Input) :
    (empty.runInputs config inputs).state.Named :=
  (everywhere_runInputs (named_keptByChanges config) inputs).state

end

/-! ### Jobs that wait -/

theorem DurableState.nextRun_eq_some {operation : RunRequest}
    (h : state.nextRun orders hostId = some (jobId, operation)) :
    state.pending.lookup jobId = some operation ∧ operation.hostId = hostId ∧
      jobId ∉ state.dispatched := by
  have hmem := Map.mem_entriesIn.1 (List.mem_of_find?_eq_some h)
  have hfound := List.find?_some h
  rw [Bool.and_eq_true, decide_eq_true_eq, decide_eq_true_eq] at hfound
  exact ⟨hmem, hfound⟩

theorem DurableState.nextApple_eq_some
    (h : state.nextApple leases orders hostId = some (jobId, operation)) :
    state.applePending.lookup jobId = some operation ∧ state.appleHosts.lookup jobId = some hostId ∧
      jobId ∉ state.acknowledged ∧ writerFree leases jobId operation = true := by
  have hmem := Map.mem_entriesIn.1 (List.mem_of_find?_eq_some h)
  have hfound := List.find?_some h
  rw [Bool.and_eq_true, Bool.and_eq_true, decide_eq_true_eq, decide_eq_true_eq] at hfound
  exact ⟨hmem, hfound.1.1, hfound.1.2, hfound.2⟩

theorem DurableState.isSome_nextRun {operation : RunRequest}
    (hpending : state.pending.lookup jobId = some operation) (hhost : operation.hostId = hostId)
    (hdispatched : jobId ∉ state.dispatched) : (state.nextRun orders hostId).isSome := by
  rw [nextRun, List.find?_isSome]
  refine ⟨(jobId, operation), Map.mem_entriesIn.2 hpending, ?_⟩
  rw [Bool.and_eq_true, decide_eq_true_eq, decide_eq_true_eq]
  exact ⟨hhost, hdispatched⟩

theorem DurableState.isSome_nextApple (hpending : state.applePending.lookup jobId = some operation)
    (hhost : state.appleHosts.lookup jobId = some hostId) (hacknowledged : jobId ∉ state.acknowledged)
    (hfree : writerFree leases jobId operation = true) :
    (state.nextApple leases orders hostId).isSome := by
  rw [nextApple, List.find?_isSome]
  refine ⟨(jobId, operation), Map.mem_entriesIn.2 hpending, ?_⟩
  rw [Bool.and_eq_true, Bool.and_eq_true, decide_eq_true_eq, decide_eq_true_eq]
  exact ⟨⟨hhost, hacknowledged⟩, hfree⟩

theorem DurableState.nextRun_eq_of_only {operation : RunRequest}
    (hpending : state.pending.lookup jobId = some operation) (hhost : operation.hostId = hostId)
    (hdispatched : jobId ∉ state.dispatched)
    (honly : ∀ other found, state.pending.lookup other = some found → other = jobId) :
    state.nextRun orders hostId = some (jobId, operation) := by
  have hsome : (state.nextRun orders hostId).isSome := isSome_nextRun hpending hhost hdispatched
  obtain ⟨⟨other, found⟩, hnext⟩ := Option.isSome_iff_exists.1 hsome
  have hother := (nextRun_eq_some hnext).1
  obtain rfl := honly other found hother
  obtain rfl := Option.some.inj (hpending.symm.trans hother)
  exact hnext

theorem DurableState.nextApple_eq_of_only (hpending : state.applePending.lookup jobId = some operation)
    (hhost : state.appleHosts.lookup jobId = some hostId) (hacknowledged : jobId ∉ state.acknowledged)
    (hfree : writerFree leases jobId operation = true)
    (honly : ∀ other found, state.applePending.lookup other = some found → other = jobId) :
    state.nextApple leases orders hostId = some (jobId, operation) := by
  have hsome : (state.nextApple leases orders hostId).isSome :=
    isSome_nextApple hpending hhost hacknowledged hfree
  obtain ⟨⟨other, found⟩, hnext⟩ := Option.isSome_iff_exists.1 hsome
  have hother := (nextApple_eq_some hnext).1
  obtain rfl := honly other found hother
  obtain rfl := Option.some.inj (hpending.symm.trans hother)
  exact hnext

/-! ### Coherence -/

def GivenOut (before : DurableState) (answer : Option Response) (jobId : String) : Prop :=
  ∃ response, answer = some response ∧ response.jobId = some jobId ∧
    ((∃ operation, response.operation = some operation ∧
        before.pending.lookup jobId = some operation) ∨
      ∃ operation, response.appleOperation = some operation ∧
        before.applePending.lookup jobId = some operation)

/-- **What is given out fits what is answered**: the answer names the job of its operation, and no job
counts as given out that is not in the answer. -/
structure Coherent (before : DurableState) (result : Runtime × Option Response) : Prop where
  operation : ∀ response operation, result.2 = some response → response.operation = some operation →
    ∃ jobId, response.jobId = some jobId ∧ before.pending.lookup jobId = some operation
  appleOperation : ∀ response operation, result.2 = some response →
    response.appleOperation = some operation →
      ∃ jobId, response.jobId = some jobId ∧ before.applePending.lookup jobId = some operation
  dispatched : ∀ jobId ∈ result.1.state.dispatched,
    jobId ∈ before.dispatched ∨ GivenOut before result.2 jobId

/-- A plain job and an Apple job wait for the same host. -/
def BothWait (env : Env) (hostId : String) (runtime : Runtime) : Prop :=
  (runtime.state.nextRun env.orders hostId).isSome ∧
    (runtime.state.nextApple runtime.leases env.orders hostId).isSome

theorem heartbeatAnswer_cases (env : Env) (response : Response) (runtime : Runtime) :
    ((heartbeatAnswer env response runtime).2
        = some { response with cancelJobs := runtime.state.cancelled } ∧
      (heartbeatAnswer env response runtime).1.state = runtime.state) ∨
    ((heartbeatAnswer env response runtime).2 = some persistenceFailed ∧ response.jobId = none ∧
      (heartbeatAnswer env response runtime).1.state = runtime.state) ∨
    ∃ jobId, (heartbeatAnswer env response runtime).2 = none ∧ response.jobId = some jobId ∧
      (heartbeatAnswer env response runtime).1.state = runtime.state.undispatch jobId := by
  have hstate := state_storeState runtime env
  unfold heartbeatAnswer
  dsimp only
  split
  · exact .inl ⟨rfl, hstate⟩
  · split
    · rename_i hjob
      exact .inr (.inl ⟨rfl, hjob, hstate⟩)
    · rename_i jobId hjob
      exact .inr (.inr ⟨jobId, rfl, hjob, congrArg (fun state => state.undispatch jobId) hstate⟩)

theorem coherent_heartbeatAnswer {response : Response}
    (hrun : ∀ operation, response.operation = some operation →
      ∃ jobId, response.jobId = some jobId ∧ before.pending.lookup jobId = some operation)
    (happle : ∀ operation, response.appleOperation = some operation →
      ∃ jobId, response.jobId = some jobId ∧ before.applePending.lookup jobId = some operation)
    (hdispatched : ∀ jobId ∈ runtime.state.dispatched,
      jobId ∈ before.dispatched ∨ GivenOut before (some response) jobId) :
    Coherent before (heartbeatAnswer env response runtime) := by
  rcases heartbeatAnswer_cases env response runtime with
    ⟨hanswer, hstate⟩ | ⟨hanswer, hjob, hstate⟩ | ⟨jobId, hanswer, hjob, hstate⟩
  · refine ⟨fun answer operation h hop => ?_, fun answer operation h hop => ?_, fun other hother => ?_⟩
    · obtain rfl := Option.some.inj (hanswer.symm.trans h)
      exact hrun operation hop
    · obtain rfl := Option.some.inj (hanswer.symm.trans h)
      exact happle operation hop
    · rw [hstate] at hother
      rw [hanswer]
      refine (hdispatched other hother).imp_right ?_
      rintro ⟨answer, h, hgiven⟩
      obtain rfl := Option.some.inj h
      exact ⟨_, rfl, hgiven⟩
  · refine ⟨fun answer operation h hop => ?_, fun answer operation h hop => ?_, fun other hother => ?_⟩
    · obtain rfl := Option.some.inj (hanswer.symm.trans h)
      cases hop
    · obtain rfl := Option.some.inj (hanswer.symm.trans h)
      cases hop
    · rw [hstate] at hother
      rcases hdispatched other hother with hbefore | ⟨answer, h, hnamed, -⟩
      · exact .inl hbefore
      · obtain rfl := Option.some.inj h
        rw [hjob] at hnamed
        cases hnamed
  · refine ⟨fun answer operation h hop => ?_, fun answer operation h hop => ?_, fun other hother => ?_⟩
    · rw [hanswer] at h
      cases h
    · rw [hanswer] at h
      cases h
    · rw [hstate] at hother
      obtain ⟨hne, hmem⟩ := Finset.mem_erase.1 hother
      rcases hdispatched other hmem with hbefore | ⟨answer, h, hnamed, -⟩
      · exact .inl hbefore
      · obtain rfl := Option.some.inj h
        exact absurd (Option.some.inj (hnamed.symm.trans hjob)) hne

theorem not_coherent_heartbeatAnswer {response : Response} {named : String} {operation : RunRequest}
    (hoperation : response.operation = some operation) (hnamed : response.jobId = some named)
    (hpending : before.pending.lookup named ≠ some operation) (hne : jobId ≠ named)
    (hbefore : jobId ∉ before.dispatched) (hafter : jobId ∈ runtime.state.dispatched) :
    ¬ Coherent before (heartbeatAnswer env response runtime) := by
  intro h
  rcases heartbeatAnswer_cases env response runtime with
    ⟨hanswer, hstate⟩ | ⟨hanswer, hjob, hstate⟩ | ⟨_, hanswer, hjob, hstate⟩
  · obtain ⟨_, hfound, hlookup⟩ := h.operation _ operation hanswer hoperation
    obtain rfl := Option.some.inj (hnamed.symm.trans hfound)
    exact hpending hlookup
  · rw [hnamed] at hjob
    cases hjob
  · obtain rfl := Option.some.inj (hnamed.symm.trans hjob)
    have hmem : jobId ∈ (heartbeatAnswer env response runtime).1.state.dispatched := by
      rw [hstate]
      exact Finset.mem_erase.2 ⟨hne, hafter⟩
    rcases h.dispatched jobId hmem with hin | ⟨answer, hgiven, -⟩
    · exact hbefore hin
    · rw [hanswer] at hgiven
      cases hgiven

theorem coherent_failed (hdispatched : runtime.state.dispatched = before.dispatched) :
    Coherent before (runtime, some persistenceFailed) := by
  refine ⟨fun answer operation h hop => ?_, fun answer operation h hop => ?_, fun other hother => ?_⟩
  · obtain rfl := Option.some.inj h
    cases hop
  · obtain rfl := Option.some.inj h
    cases hop
  · exact .inl (hdispatched ▸ hother)

theorem not_coherent_failed (hbefore : jobId ∉ before.dispatched)
    (hafter : jobId ∈ runtime.state.dispatched) :
    ¬ Coherent before (runtime, some persistenceFailed) := by
  intro h
  rcases h.dispatched jobId hafter with hin | ⟨answer, hanswer, hnamed, -⟩
  · exact hbefore hin
  · obtain rfl := Option.some.inj hanswer
    cases hnamed

theorem coherent_dispatchApple (config : Config) (env : Env)
    (happle : runtime.state.applePending.lookup jobId = some operation) :
    Coherent runtime.state (dispatchApple config env jobId operation response runtime) := by
  have hnone : ∀ {response : Response} {operation : RunRequest}, response.operation = none →
      response.operation = some operation →
        ∃ jobId, response.jobId = some jobId ∧
          runtime.state.pending.lookup jobId = some operation := by
    intro response operation h hop
    rw [h] at hop
    cases hop
  have hgiven : ∀ {response : Response} {other : String}, response.jobId = some jobId →
      response.appleOperation = some operation →
        other ∈ insert jobId runtime.state.dispatched →
          other ∈ runtime.state.dispatched ∨ GivenOut runtime.state (some response) other := by
    intro response other hjob hop hother
    rcases Finset.mem_insert.1 hother with rfl | hmem
    · exact .inr ⟨response, rfl, hjob, .inr ⟨operation, hop, happle⟩⟩
    · exact .inl hmem
  unfold dispatchApple
  split
  · refine coherent_heartbeatAnswer (fun _ => hnone rfl) (fun found hfound => ?_)
      fun other hother => hgiven rfl rfl hother
    obtain rfl := Option.some.inj hfound
    exact ⟨jobId, rfl, happle⟩
  · dsimp only
    split
    · refine coherent_heartbeatAnswer (fun _ => hnone rfl) (fun found hfound => by cases hfound) ?_
      exact fun other hother => .inl hother
    · split
      · refine coherent_heartbeatAnswer (fun _ => hnone rfl) (fun found hfound => ?_) ?_
        · obtain rfl := Option.some.inj hfound
          exact ⟨jobId, rfl, happle⟩
        · intro other hother
          refine hgiven rfl rfl ?_
          change other ∈ insert jobId (Runtime.storeLeases _ env).state.dispatched at hother
          rw [state_storeLeases] at hother
          exact hother
      · refine coherent_failed ?_
        rw [state_storeLeases]

theorem not_coherent_dispatchApple (config : Config) (env : Env) {given : Runtime} {runId : String}
    {run : RunRequest} {response : Response} (hoperation : response.operation = some run)
    (hpending : before.pending.lookup jobId ≠ some run) (hne : runId ≠ jobId)
    (hbefore : runId ∉ before.dispatched) (hafter : runId ∈ given.state.dispatched) :
    ¬ Coherent before (dispatchApple config env jobId operation response given) := by
  unfold dispatchApple
  split
  · exact not_coherent_heartbeatAnswer hoperation rfl hpending hne hbefore
      (Finset.mem_insert_of_mem hafter)
  · dsimp only
    split
    · exact not_coherent_heartbeatAnswer hoperation rfl hpending hne hbefore hafter
    · split
      · refine not_coherent_heartbeatAnswer hoperation rfl hpending hne hbefore ?_
        refine Finset.mem_insert_of_mem ?_
        rw [state_storeLeases]
        exact hafter
      · refine not_coherent_failed hbefore ?_
        rw [state_storeLeases]
        exact hafter

theorem coherent_of_not_bothWait (config : Config) (env : Env) (h : ¬ BothWait env hostId runtime) :
    Coherent runtime.state (heartbeatDispatch config env hostId runtime) := by
  unfold heartbeatDispatch
  dsimp only
  cases happle : runtime.state.nextApple runtime.leases env.orders hostId with
  | none =>
    cases hrun : runtime.state.nextRun env.orders hostId with
    | none =>
      refine coherent_heartbeatAnswer (fun found hfound => by cases hfound)
        (fun found hfound => by cases hfound) ?_
      exact fun other hother => .inl hother
    | some job =>
      obtain ⟨hpending, -, -⟩ := DurableState.nextRun_eq_some hrun
      refine coherent_heartbeatAnswer (fun found hfound => ?_) (fun found hfound => by cases hfound)
        fun other hother => ?_
      · obtain rfl := Option.some.inj hfound
        exact ⟨job.1, rfl, hpending⟩
      · rcases Finset.mem_insert.1 hother with rfl | hmem
        · exact .inr ⟨_, rfl, rfl, .inl ⟨job.2, rfl, hpending⟩⟩
        · exact .inl hmem
  | some =>
    have hrun : runtime.state.nextRun env.orders hostId = none := by
      cases hfound : runtime.state.nextRun env.orders hostId with
      | none => rfl
      | some =>
        refine absurd ⟨?_, ?_⟩ h
        · rw [hfound]
          rfl
        · rw [happle]
          rfl
    rw [hrun]
    exact coherent_dispatchApple config env (DurableState.nextApple_eq_some happle).1

section

variable [Sha256]

theorem not_coherent_of_bothWait (config : Config) (env : Env) {hostId : String} {runtime : Runtime}
    (hnamed : runtime.state.Named) (h : BothWait env hostId runtime) :
    ¬ Coherent runtime.state (heartbeatDispatch config env hostId runtime) := by
  obtain ⟨⟨runId, operation⟩, hrun⟩ := Option.isSome_iff_exists.1 h.1
  obtain ⟨⟨jobId, request⟩, happle⟩ := Option.isSome_iff_exists.1 h.2
  obtain ⟨hpending, -, hdispatched⟩ := DurableState.nextRun_eq_some hrun
  have hrunId := hnamed.pending runId operation hpending
  have hjobId := hnamed.apple jobId request (DurableState.nextApple_eq_some happle).1
  have hne : runId ≠ jobId := by
    rw [hrunId, hjobId]
    exact runJobId_ne_appleJobId _ _
  have hother : runtime.state.pending.lookup jobId ≠ some operation := by
    intro hlookup
    have hname := hnamed.pending jobId operation hlookup
    rw [hjobId] at hname
    exact runJobId_ne_appleJobId _ _ hname.symm
  unfold heartbeatDispatch
  dsimp only
  rw [happle, hrun]
  exact not_coherent_dispatchApple config env rfl hother hne hdispatched
    (Finset.mem_insert_self runId runtime.state.dispatched)

end

/-- A heartbeat to its end. Where the state could not be stored, writers are taken away before an error
is answered; meanwhile others may have changed the leases. -/
def heartbeatEnd (config : Config) (env later : Env) (meanwhile : LeaseBook) (hostId : String)
    (runtime : Runtime) : Runtime × Option Response :=
  let given := heartbeatDispatch config env hostId runtime
  match given.2 with
  | some _ => given
  | none => settle later { given.1 with leases := meanwhile } .reconciling

theorem coherent_settle_iff (before : DurableState) (given : Runtime) (meanwhile : LeaseBook)
    (later : Env) :
    Coherent before (settle later { given with leases := meanwhile } .reconciling) ↔
      Coherent before (given, none) := by
  have hdispatched : (settle later { given with leases := meanwhile } .reconciling).1.state.dispatched
      = given.state.dispatched := by
    change (Runtime.storeLeases _ later).state.dispatched = _
    rw [state_storeLeases]
    exact Locked.dispatched_finishWriters ⟨given.state, meanwhile⟩ _ later.nowMs
  constructor
  · intro h
    refine ⟨fun _ _ hanswer => ?_, fun _ _ hanswer => ?_, fun jobId hjob => ?_⟩
    · cases hanswer
    · cases hanswer
    · rcases h.dispatched jobId (hdispatched ▸ hjob) with hbefore | ⟨answer, hanswer, hnamed, -⟩
      · exact .inl hbefore
      · obtain rfl := Option.some.inj hanswer
        cases hnamed
  · intro h
    refine ⟨fun answer operation hanswer hop => ?_, fun answer operation hanswer hop => ?_,
      fun jobId hjob => ?_⟩
    · obtain rfl := Option.some.inj hanswer
      cases hop
    · obtain rfl := Option.some.inj hanswer
      cases hop
    · rw [hdispatched] at hjob
      rcases h.dispatched jobId hjob with hbefore | ⟨answer, hanswer, -⟩
      · exact .inl hbefore
      · cases hanswer

theorem coherent_heartbeatEnd_iff (config : Config) (env later : Env) (meanwhile : LeaseBook)
    (hostId : String) (runtime : Runtime) :
    Coherent runtime.state (heartbeatEnd config env later meanwhile hostId runtime) ↔
      Coherent runtime.state (heartbeatDispatch config env hostId runtime) := by
  unfold heartbeatEnd
  generalize heartbeatDispatch config env hostId runtime = given
  obtain ⟨given, answer⟩ := given
  cases answer with
  | some => exact Iff.rfl
  | none => exact coherent_settle_iff runtime.state given meanwhile later

section

variable [Sha256]

/-- **A heartbeat is answered coherently exactly if not both kinds of jobs wait** for the host, in whatever
state the registry has come to. -/
theorem coherent_iff_not_bothWait (config : Config) (inputs : List Input) (env later : Env)
    (meanwhile : LeaseBook) (hostId : String) :
    Coherent (Runtime.empty.runInputs config inputs).state
        (heartbeatEnd config env later meanwhile hostId (Runtime.empty.runInputs config inputs)) ↔
      ¬ BothWait env hostId (Runtime.empty.runInputs config inputs) := by
  rw [coherent_heartbeatEnd_iff]
  constructor
  · intro h hboth
    exact not_coherent_of_bothWait config env (Runtime.named_runInputs config inputs) hboth h
  · exact coherent_of_not_bothWait config env

/-- Every heartbeat of every run is answered coherently. -/
def AlwaysCoherent : Prop :=
  ∀ (config : Config) (inputs : List Input) (env later : Env) (meanwhile : LeaseBook)
    (hostId : String),
    Coherent (Runtime.empty.runInputs config inputs).state
      (heartbeatEnd config env later meanwhile hostId (Runtime.empty.runInputs config inputs))

end

/-! ### One input after another -/

section

variable [Sha256] {config : Config} {env : Env} {runtime after : Runtime}

variable {req : Request}

theorem perform_request {peerId : String} (hholder : runtime.holder = none)
    (hrecovery : runtime.state.recoveryError = none) :
    perform config env (.request peerId req) runtime = request config env peerId runtime req := by
  simp only [perform, hholder, hrecovery, Option.isSome_none, Bool.false_eq_true, if_false, ite_self]

theorem perform_resume {flight : Flight} (hmem : flight ∈ runtime.flights)
    (hholder : runtime.holder = none) :
    perform config env (.resume flight) runtime
      = resume config env { runtime with flights := runtime.flights.erase flight } flight := by
  simp only [perform, hholder, hmem, Option.isSome_none, Bool.false_eq_true, if_false,
    not_true_eq_false, and_false, or_false]

theorem handle_of_held (h : runtime.holder.isSome) (config : Config) (env : Env) (peerId : String)
    (req : Request) : handle config env (.request peerId req) runtime = (runtime, none) := by
  have hperform : perform config env (.request peerId req) runtime = (runtime, none) := by
    unfold perform
    dsimp only
    rw [if_pos h]
  unfold handle
  rw [hperform]
  split
  · rfl
  · rfl

theorem handle_of_free (hholder : runtime.holder = none) (hrecovery : runtime.state.recoveryError = none)
    (config : Config) (env : Env) (peerId : String) (req : Request) :
    handle config env (.request peerId req) runtime
      = if (request config env peerId runtime req).1.leases.nextId ≤ Dashboard.u64Max then
          request config env peerId runtime req
        else (runtime, none) := by
  unfold handle
  rw [perform_request hholder hrecovery]

theorem handle_of_recovery {error : String} (hholder : runtime.holder = none)
    (hrecovery : runtime.state.recoveryError = some error) (hreq : readOnlyDuringRecovery req = false)
    (config : Config) (env : Env) (peerId : String) :
    handle config env (.request peerId req) runtime
      = if runtime.leases.nextId ≤ Dashboard.u64Max then (runtime, some (errorResponse error))
        else (runtime, none) := by
  have hperform : perform config env (.request peerId req) runtime
      = (runtime, some (errorResponse error)) := by
    unfold perform
    dsimp only
    rw [hholder, hreq, hrecovery]
    rfl
  unfold handle
  rw [hperform]

theorem handle_of_readOnly (hholder : runtime.holder = none) (hreq : readOnlyDuringRecovery req = true)
    (config : Config) (env : Env) (peerId : String) :
    handle config env (.request peerId req) runtime
      = if (request config env peerId runtime req).1.leases.nextId ≤ Dashboard.u64Max then
          request config env peerId runtime req
        else (runtime, none) := by
  have hperform : perform config env (.request peerId req) runtime
      = request config env peerId runtime req := by
    unfold perform
    dsimp only
    rw [hholder, hreq]
    rfl
  unfold handle
  rw [hperform]

theorem handle_request_cases (config : Config) (env : Env) (peerId : String) (req : Request)
    (runtime : Runtime) :
    (∃ result, handle config env (.request peerId req) runtime = (runtime, result) ∧
      ∀ answer, result = some answer → ∃ error, answer = errorResponse error) ∨
    runtime.holder = none ∧
      (readOnlyDuringRecovery req = true ∨ runtime.state.recoveryError = none) ∧
      handle config env (.request peerId req) runtime = request config env peerId runtime req := by
  have hnone : ∀ answer : Response, (none : Option Response) = some answer →
      ∃ error, answer = errorResponse error := fun answer h => by cases h
  have hperform : perform config env (.request peerId req) runtime = (runtime, none) ∨
      (∃ error, perform config env (.request peerId req) runtime
        = (runtime, some (errorResponse error))) ∨
      runtime.holder = none ∧
        (readOnlyDuringRecovery req = true ∨ runtime.state.recoveryError = none) ∧
        perform config env (.request peerId req) runtime = request config env peerId runtime req := by
    unfold perform
    dsimp only
    split
    · exact .inl rfl
    · rename_i hholder
      rw [Option.not_isSome_iff_eq_none] at hholder
      split
      · rename_i hreads
        exact .inr (.inr ⟨hholder, .inl hreads, rfl⟩)
      · split
        · rename_i hrecovery
          exact .inr (.inr ⟨hholder, .inr hrecovery, rfl⟩)
        · exact .inr (.inl ⟨_, rfl⟩)
  unfold handle
  split
  · rcases hperform with h | ⟨error, h⟩ | ⟨hholder, hreads, h⟩
    · exact .inl ⟨none, h, hnone⟩
    · exact .inl ⟨_, h, fun answer heq => ⟨error, (Option.some.inj heq).symm⟩⟩
    · exact .inr ⟨hholder, hreads, h⟩
  · exact .inl ⟨none, rfl, hnone⟩

theorem handle_resume_cases (config : Config) (env : Env) (flight : Flight) (runtime : Runtime) :
    handle config env (.resume flight) runtime = (runtime, none) ∨
    flight ∈ runtime.flights ∧ (flight.needsState = true → runtime.holder = none) ∧
      handle config env (.resume flight) runtime
        = resume config env { runtime with flights := runtime.flights.erase flight } flight := by
  have hperform : perform config env (.resume flight) runtime = (runtime, none) ∨
      flight ∈ runtime.flights ∧ (flight.needsState = true → runtime.holder = none) ∧
        perform config env (.resume flight) runtime
          = resume config env { runtime with flights := runtime.flights.erase flight } flight := by
    unfold perform
    dsimp only
    split
    · exact .inl rfl
    · rename_i hpasses
      rw [not_or, not_not, not_and] at hpasses
      refine .inr ⟨hpasses.1, fun hneeds => ?_, rfl⟩
      have hfree := hpasses.2 hneeds
      rwa [Option.not_isSome_iff_eq_none] at hfree
  unfold handle
  split
  · exact hperform
  · exact .inl rfl

theorem step_of_perform {event : Event} (h : (perform config env event runtime).1 = after)
    (hnext : after.leases.nextId ≤ Dashboard.u64Max) : runtime.step config (env, event) = after := by
  rw [Runtime.step, handle, if_pos (h.symm ▸ hnext), h]

theorem step_request {peerId : String} (hholder : runtime.holder = none)
    (hrecovery : runtime.state.recoveryError = none)
    (h : (request config env peerId runtime req).1 = after)
    (hnext : after.leases.nextId ≤ Dashboard.u64Max) :
    runtime.step config (env, .request peerId req) = after :=
  step_of_perform ((congrArg Prod.fst (perform_request hholder hrecovery)).trans h) hnext

theorem step_resume {flight : Flight} (hmem : flight ∈ runtime.flights) (hholder : runtime.holder = none)
    (h : (resume config env { runtime with flights := runtime.flights.erase flight } flight).1 = after)
    (hnext : after.leases.nextId ≤ Dashboard.u64Max) :
    runtime.step config (env, .resume flight) = after :=
  step_of_perform ((congrArg Prod.fst (perform_resume hmem hholder)).trans h) hnext

end

theorem lease_eq_granted {sign : List UInt8 → List UInt8} {agentPeers : Finset String}
    {hash : KeyOrder String} {operation : LeaseRequest} {peerId : String}
    {devicePeers : Map String String} {book book' : LeaseBook} {nowMs : ℕ} {leaseId status : String}
    {entry : String × DeviceLease}
    (happlied : (book.expire hash nowMs).apply agentPeers devicePeers hash peerId operation nowMs
      = (.granted leaseId status, book'))
    (hdetached : detachedDevice agentPeers devicePeers peerId operation = none)
    (hfound : (book'.active.entriesIn hash).find? (fun entry => entry.2.id = leaseId) = some entry) :
    lease sign agentPeers hash operation peerId devicePeers book nowMs
      = some ({ response with
          leaseGrant := some (grantOf sign entry.2 "" nowMs)
          leaseStatus := some status }, devicePeers, book') := by
  simp only [lease, happlied, hdetached, hfound, Option.map_some]

theorem leaseRequest_fst {config : Config} {peerId : String} {operation : LeaseRequest}
    {answer : Response} {devicePeers : Map String String}
    (h : lease config.sign config.agentPeers env.orders.active operation peerId
      runtime.state.devicePeers runtime.leases env.nowMs = some (answer, devicePeers, leases))
    (hwritten : env.leasesWrite = .stored) :
    (leaseRequest config env peerId operation runtime).1
      = Runtime.storeState (Runtime.storeLeases
          { runtime with
            state := { runtime.state with devicePeers }
            leases } env) env := by
  simp only [leaseRequest, h, hwritten, ne_eq, not_true_eq_false, if_false]
  split
  · rfl
  · rfl

/-! ### A host with both kinds of jobs -/

def sampleHost : Dashboard.HostSnapshot :=
  { id := "host"
    operatingSystem := "macos"
    architecture := "arm64"
    status := "online"
    capabilities := ["apple.device@1"]
    devices := [⟨"phone", "ios", "connected"⟩] }

theorem capabilityText_sample : Dashboard.CapabilityText "apple.device@1" :=
  ⟨by decide, by decide, ⟨"apple.device", by decide⟩, by decide⟩

section

open Dashboard Effect

theorem isOk_validateHostSnapshot_sample : (validateHostSnapshot sampleHost).isOk = true := by
  have hpure : ∀ {α : Type} (a : α), (pure a : Except TopologyError α) = .ok a := fun a => rfl
  have hos : validateCodeInput "operating_system" "macos" = .ok () := by decide
  have harch : validateCodeInput "architecture" "arm64" = .ok () := by decide
  have hstatus : validateRawText "status" "online" = .ok () := by decide
  have hdevices : ensureLimit "devices" 1 = .ok () := by decide
  have hcapabilities : ensureLimit "capabilities" 1 = .ok () := by decide
  have hpermissions : ensureLimit "permissions" 0 = .ok () := by decide
  have hinputs : validateCodeInputs "capability" ["apple.device@1"] = .ok () := by decide
  have hnoInputs : validateCodeInputs "permission" [] = .ok () := by decide
  have hid : parseHostId "host" = .ok ⟨"host", by decide⟩ := by decide
  have hplatform : parseCode "macos" "operating_system" = .ok ⟨"macos", by decide⟩ := by decide
  have harchitecture : parseCode "arm64" "architecture" = .ok ⟨"arm64", by decide⟩ := by decide
  have hparsed : parseCapabilities ["apple.device@1"] "capability"
      = .ok [⟨"apple.device@1", capabilityText_sample⟩] := rfl
  -- the device is shown without details
  have hdevicePlatform : validateCodeInput "device_platform" "ios" = .ok () := by decide
  have hstate : validateRawText "device_state" "connected" = .ok () := by decide
  have hdeviceId : validateIdentifier "device_id" "phone" = .ok () := by decide
  have hparsedId : parseDeviceId "phone" = .ok ⟨"phone", by decide⟩ := by decide
  have hdeviceCode : parseCode "ios" "device_platform" = .ok ⟨"ios", by decide⟩ := by decide
  have hnoDetails : (indexDeviceDetails []).lookup "phone" = none := rfl
  have hnoCapabilities : parseCapabilities [] "device_capability" = .ok [] := rfl
  simp only [validateHostSnapshot, projectHost, sampleHost, hos, harch, hstatus, hdevices,
    hcapabilities, hpermissions, hinputs, hnoInputs, hid, hplatform, harchitecture, hparsed,
    List.length_nil, List.length_cons, validateDetails, List.mapM_nil, List.mapM_cons, parseCodes,
    hpure, ok_bind, Option.map_none, Option.getD_none, projectDevice, hdevicePlatform, hstate,
    hdeviceId, hparsedId, hdeviceCode, hnoDetails, hnoCapabilities, sortedCodes_nil, sortedCodes_singleton,
    List.mergeSort_singleton]
  decide

end

def sameOrder : KeyOrder String := ⟨id, fun _ => List.Perm.refl _⟩

def sampleConfig : Config := ⟨{"agent"}, 1000, fun _ => []⟩

def sampleEnv : Env :=
  { nowMs := 0
    instant := 0
    orders := ⟨sameOrder, sameOrder, sameOrder, sameOrder, sameOrder, sameOrder⟩
    stateWrite := .stored
    leasesWrite := .stored
    artifactsWrite := .stored
    access := .good }

def sampleRun : RunRequest :=
  { principalId := "client"
    hostId := "host"
    deviceId := "phone"
    workspaceId := "app"
    requestId := "run"
    manifest := [] }

def sampleOperation : AppleRequest :=
  { version := ⟨1, 0⟩
    requestId := "test"
    idempotencyKey := "test"
    capability := "apple.device@1"
    workspacePath := "app"
    deviceId := some "phone"
    leaseId := some (leaseIdOf 1)
    operation := .physicalDevice }

def sampleLease : DeviceLease := ⟨leaseIdOf 1, "phone", "client", 1000⟩

def sampleLeases : LeaseBook :=
  { LeaseBook.empty with
    nextId := 1
    active := (∅ : Map String DeviceLease).insert "phone" sampleLease }

def sampleOwned : DurableState :=
  { DurableState.empty with
    hostPeers := (∅ : Map String String).insert "host" "agent"
    devicePeers := (∅ : Map String String).insert "phone" "agent" }

def sampleOnline : Runtime :=
  { Runtime.empty with
    state := sampleOwned
    leases := sampleLeases
    entries := (∅ : Map String Entry).insert "host" ⟨sampleHost, 0⟩
    storedState := sampleOwned
    storedLeases := sampleLeases
    flights := [.online "host"] }

abbrev sampleHash : Sha256 :=
  ⟨fun bytes =>
    if bytes = Endian.textBytes "run" then
      ⟨[172, 186, 37, 81, 33, 0, 248, 11, 86, 252, 60, 205, 20, 198, 91, 229, 93,
        148, 128, 12, 218, 119, 88, 92, 95, 65, 168, 135, 227, 152, 249, 190], by decide⟩
    else
      ⟨[159, 134, 208, 129, 136, 76, 125, 101, 154, 47, 234, 160, 197, 90, 208, 21,
        163, 191, 79, 27, 43, 11, 130, 44, 209, 93, 108, 21, 176, 240, 10, 8], by decide⟩⟩

def sampleHostSteps : List (Env × Event) :=
  [(sampleEnv, .request "agent" (.heartbeat sampleHost)),
    (sampleEnv, .resume (.inventoried sampleHost)),
    (sampleEnv, .resume (.expired sampleHost)),
    (sampleEnv, .request "client" (.lease (.acquire "phone" 1000)))]

def sampleJobSteps : List (Env × Event) :=
  [(sampleEnv, .request "client" (.appleRun sampleOperation)),
    (sampleEnv, .resume (.leased "client" sampleOperation))]

theorem lease_sampleAcquire (devicePeers : Map String String) : ∃ answer,
    lease sampleConfig.sign sampleConfig.agentPeers sameOrder (.acquire "phone" 1000) "client" devicePeers
      LeaseBook.empty 0 = some (answer, devicePeers, sampleLeases) := by
  have hentries : sampleLeases.active.entriesIn sameOrder = [("phone", sampleLease)] := rfl
  have hfound : (sampleLeases.active.entriesIn sameOrder).find?
      (fun entry => entry.2.id = leaseIdOf 1) = some ("phone", sampleLease) := by
    rw [hentries]
    exact List.find?_cons_of_pos (decide_eq_true rfl)
  exact ⟨_, lease_eq_granted rfl rfl hfound⟩

section

variable [Sha256]

def sampleRunId : String := runJobId "run"

def sampleAppleId : String := appleJobId "test"

def sampleShown : Runtime :=
  { Runtime.empty with
    state := sampleOwned
    entries := (∅ : Map String Entry).insert "host" ⟨sampleHost, 0⟩
    flights := [.online "host"] }

theorem foldl_sampleShown :
    (sampleHostSteps.take 3).foldl (Runtime.step sampleConfig) Runtime.empty = sampleShown := by
  have hinventory : Runtime.empty.step sampleConfig
      (sampleEnv, .request "agent" (.heartbeat sampleHost))
      = { Runtime.empty with
          state := sampleOwned
          flights := [.inventoried sampleHost] } := by
    refine step_request rfl rfl ?_ (Nat.zero_le _)
    change (heartbeatInventory _ _ _ _ _).1 = _
    unfold heartbeatInventory
    rw [if_neg (by decide), if_neg (by rw [isOk_validateHostSnapshot_sample]; decide),
      if_neg (by decide)]
    rfl
  have hexpire : ({ Runtime.empty with
        state := sampleOwned
        flights := [.inventoried sampleHost] } : Runtime).step sampleConfig
      (sampleEnv, .resume (.inventoried sampleHost))
      = { Runtime.empty with
          state := sampleOwned
          flights := [.expired sampleHost] } :=
    step_resume (List.mem_singleton_self _) rfl rfl (Nat.zero_le _)
  have honline : ({ Runtime.empty with
        state := sampleOwned
        flights := [.expired sampleHost] } : Runtime).step sampleConfig
      (sampleEnv, .resume (.expired sampleHost)) = sampleShown :=
    step_resume (List.mem_singleton_self _) rfl rfl (Nat.zero_le _)
  rw [sampleHostSteps, List.take_succ_cons, List.take_succ_cons, List.take_succ_cons, List.take_zero,
    List.foldl_cons, hinventory, List.foldl_cons, hexpire, List.foldl_cons, honline, List.foldl_nil]

theorem foldl_sampleHostSteps :
    sampleHostSteps.foldl (Runtime.step sampleConfig) Runtime.empty = sampleOnline := by
  have hlease : sampleShown.step sampleConfig
      (sampleEnv, .request "client" (.lease (.acquire "phone" 1000))) = sampleOnline := by
    refine step_request rfl rfl ?_ (Nat.le_of_ble_eq_true rfl)
    obtain ⟨_, hgranted⟩ := lease_sampleAcquire sampleOwned.devicePeers
    exact (leaseRequest_fst hgranted rfl).trans rfl
  have hsteps : sampleHostSteps = sampleHostSteps.take 3 ++
      [(sampleEnv, .request "client" (.lease (.acquire "phone" 1000)))] := rfl
  rw [hsteps, List.foldl_append, foldl_sampleShown, List.foldl_cons, hlease, List.foldl_nil]

def sampleAccepted : Runtime :=
  { sampleOnline with
    state := sampleOwned.acceptApple "client" sampleAppleId "host" sampleOperation
    storedState := sampleOwned.acceptApple "client" sampleAppleId "host" sampleOperation }

def sampleLeased : Runtime :=
  { sampleOnline with flights := [.leased "client" sampleOperation, .online "host"] }

theorem step_sampleOnline :
    sampleOnline.step sampleConfig (sampleEnv, .request "client" (.appleRun sampleOperation))
      = sampleLeased := by
  refine step_request rfl rfl ?_ (Nat.le_of_ble_eq_true rfl)
  have hvalid : validateRequestEnvelope sampleOperation = .ok () := by decide
  change (appleRun _ _ _ _ _).1 = _
  unfold appleRun
  rw [hvalid]
  rfl

theorem foldl_sampleJobSteps :
    sampleJobSteps.foldl (Runtime.step sampleConfig) sampleOnline = sampleAccepted := by
  rw [sampleJobSteps, List.foldl_cons, step_sampleOnline]
  exact step_resume List.mem_cons_self rfl rfl (Nat.le_of_ble_eq_true rfl)

theorem step_sampleRun {runtime : Runtime} (hholder : runtime.holder = none)
    (hrecovery : runtime.state.recoveryError = none)
    (hnew : runtime.state.requests.lookup "run" = none)
    (hnext : runtime.leases.nextId ≤ Dashboard.u64Max) :
    runtime.step sampleConfig (sampleEnv, .request "client" (.run sampleRun))
      = { runtime with
          state := runtime.state.acceptRun sampleRunId sampleRun
          storedState := runtime.state.acceptRun sampleRunId sampleRun
          flights := .running sampleRunId :: runtime.flights } := by
  refine step_request hholder hrecovery ?_ hnext
  have hids : ¬ (validId sampleRun.hostId = false ∨ validId sampleRun.workspaceId = false) := by decide
  have hmanifest : ¬ (sampleRun.manifest.all fun file => isRelativePath file.path) = false := by decide
  have hstores : ({ runtime with
      state := runtime.state.acceptRun sampleRunId sampleRun } : Runtime).storesState sampleEnv :=
    ⟨hrecovery, rfl⟩
  have hstored : ({ runtime with
      state := runtime.state.acceptRun sampleRunId sampleRun } : Runtime).storeState sampleEnv
      = { runtime with
          state := runtime.state.acceptRun sampleRunId sampleRun
          storedState := runtime.state.acceptRun sampleRunId sampleRun } :=
    if_pos ⟨hrecovery, rfl⟩
  change (run sampleEnv sampleRun runtime).1 = _
  unfold run
  rw [show runtime.state.requests.lookup sampleRun.requestId = none from hnew]
  dsimp only
  rw [if_neg hids, if_neg hmanifest]
  change (if _ then _ else _ : Runtime × Option Response).1 = _
  refine (congrArg Prod.fst (if_pos hstores)).trans ?_
  exact congrArg (fun stored => stored.fly (.running sampleRunId)) hstored

def sampleBoth : Runtime :=
  { sampleAccepted with
    state := sampleAccepted.state.acceptRun sampleRunId sampleRun
    storedState := sampleAccepted.state.acceptRun sampleRunId sampleRun
    flights := [.running sampleRunId, .online "host"] }

theorem bothWait_sampleBoth : BothWait sampleEnv "host" sampleBoth :=
  ⟨DurableState.isSome_nextRun (Map.lookup_insert_self _ sampleRunId sampleRun) rfl
      (Finset.notMem_empty _),
    DurableState.isSome_nextApple (Map.lookup_insert_self _ sampleAppleId sampleOperation)
      (Map.lookup_insert_self _ _ _) (Finset.notMem_empty _) rfl⟩

end

/-- A host that waits for a plain job and for an Apple job is told to run the plain job under the name of
the Apple job, whatever the hash function. -/
theorem not_alwaysCoherent : ¬ ∃ _ : Sha256, AlwaysCoherent := by
  rintro ⟨hash, h⟩
  let steps := sampleHostSteps ++ sampleJobSteps ++ [(sampleEnv, .request "client" (.run sampleRun))]
  let inputs : List Input := steps.map fun input => .event input.1 input.2
  have hrun : Runtime.empty.runInputs sampleConfig inputs = sampleBoth := by
    rw [Runtime.runInputs_events, List.foldl_append, List.foldl_append, foldl_sampleHostSteps,
      foldl_sampleJobSteps]
    exact step_sampleRun rfl rfl rfl (Nat.le_of_ble_eq_true rfl)
  have hcoherent := h sampleConfig inputs sampleEnv sampleEnv LeaseBook.empty "host"
  have hnamed := Runtime.named_runInputs sampleConfig inputs
  rw [coherent_heartbeatEnd_iff] at hcoherent
  rw [hrun] at hcoherent hnamed
  exact not_coherent_of_bothWait sampleConfig sampleEnv hnamed bothWait_sampleBoth hcoherent

end Registry
