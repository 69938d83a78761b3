/-
**Cancelled jobs.**

A client cancels an Apple job. A job that has not been given out is over at once. A job that has been
given out is left to its agent, which is told with every heartbeat; but the registry gives a job out
again as long as the agent has not reported on it, whether it is cancelled or not. Where cancels come for
jobs that their agents have reported on, or that have not been given out, no cancelled job is given out.

Main definitions:

* `Registry.DurableState.Withdrawn` — a job that is not to be given out any more.

Main results:

* `Registry.cancelHonoured_of_run` — **no cancelled job is given out, in every timely run**.
-/

import DeviceLane.Registry.Answers
import DeviceLane.Registry.Lasting
import DeviceLane.Registry.Progress

namespace Registry

open Runs (AllSteps)

/-! ### Jobs that are withdrawn -/

/-- **A job is withdrawn**: it is recorded, and it does not wait any more or its agent has reported on
it. -/
structure DurableState.Withdrawn (state : DurableState) (jobId : String) : Prop where
  recorded : (state.jobs.lookup jobId).isSome
  idle : state.applePending.lookup jobId = none ∨ jobId ∈ state.acknowledged

namespace DurableState.Withdrawn

variable {state state' : DurableState} {jobId : String}

theorem of_fields (h : state.Withdrawn jobId)
    (hjobs : (state.jobs.lookup jobId).isSome → (state'.jobs.lookup jobId).isSome)
    (hpending : state.applePending.lookup jobId = none → state'.applePending.lookup jobId = none)
    (hacknowledged : state.acknowledged ⊆ state'.acknowledged) : state'.Withdrawn jobId :=
  ⟨hjobs h.recorded, h.idle.imp hpending fun hmem => hacknowledged hmem⟩

theorem of_core (hcore : state'.core = state.core) (h : state.Withdrawn jobId) :
    state'.Withdrawn jobId := by
  have hjobs := read_of_core DurableState.jobs (fun _ => rfl) hcore
  have hpending := read_of_core DurableState.applePending (fun _ => rfl) hcore
  have hacknowledged := read_of_core DurableState.acknowledged (fun _ => rfl) hcore
  constructor
  · rw [hjobs]
    exact h.recorded
  · rw [hpending, hacknowledged]
    exact h.idle

theorem recover (h : state.Withdrawn jobId) (error : Option String) :
    ({ state with recoveryError := error } : DurableState).Withdrawn jobId :=
  h.of_fields id id (Finset.Subset.refl _)

theorem dismiss (h : state.Withdrawn jobId) (other kind payload : String) :
    (state.dismiss other kind payload).Withdrawn jobId := by
  refine h.of_fields (fun hsome => Map.isSome_lookup_insert hsome _ _) (fun hnone => ?_)
    (Finset.Subset.refl _)
  change (Map.erase _ _).lookup jobId = none
  rw [Map.lookup_erase]
  split
  · rfl
  · exact hnone

theorem progress (h : state.Withdrawn jobId) (other : String) (events : List NetworkEvent) :
    (state.progress other events).Withdrawn jobId :=
  h.of_fields (fun hsome => Map.isSome_lookup_insert hsome _ _) id (Finset.Subset.refl _)

theorem finish (h : state.Withdrawn jobId) (other : String) : (state.finish other).Withdrawn jobId := by
  refine h.of_fields id (fun hnone => ?_) (Finset.Subset.refl _)
  change (Map.erase _ _).lookup jobId = none
  rw [Map.lookup_erase]
  split
  · rfl
  · exact hnone

theorem acceptApple (h : state.Withdrawn jobId) {other : String} (hne : jobId ≠ other)
    (peerId target : String) (operation : AppleRequest) :
    (state.acceptApple peerId other target operation).Withdrawn jobId := by
  refine h.of_fields (fun hsome => Map.isSome_lookup_insert hsome _ _) (fun hnone => ?_)
    (Finset.Subset.refl _)
  exact (Map.lookup_insert_ne hne _).trans hnone

end DurableState.Withdrawn

theorem withdrawn_dismiss (state : DurableState) (jobId kind payload : String) :
    (state.dismiss jobId kind payload).Withdrawn jobId := by
  constructor
  · change ((Map.insert _ _ _).lookup jobId).isSome
    rw [Map.lookup_insert_self]
    rfl
  · refine .inl ?_
    change (Map.erase _ _).lookup jobId = none
    rw [Map.lookup_erase, if_pos rfl]

section

variable [Sha256] {config : Config} {env : Env} {event : Event} {runtime : Runtime} {jobId : String}

theorem withdrawn_change (hfresh : FreshName runtime event) {state : DurableState} {leases : LeaseBook}
    (h : runtime.state.Withdrawn jobId) (hchange : Change config env event runtime state leases) :
    state.Withdrawn jobId := by
  cases hchange with
  | same hstate => exact .of_core hstate h
  | inventory hevent hagent howner hlocked hstate =>
    exact .of_core hstate (h.of_fields id id (Finset.Subset.refl _))
  | reject hevent hnext hneeds hlease hstate => exact .of_core hstate (h.dismiss _ _ _)
  | grant hevent hnext hneeds hlease hstate => exact .of_core hstate h
  | reconcile hholder hstate => exact .of_core hstate h
  | acceptRun => exact h.of_fields id id (Finset.Subset.refl _)
  | complete =>
    exact h.of_fields (fun hsome => Map.isSome_lookup_insert hsome _ _) id (Finset.Subset.refl _)
  | @acceptApple peerId target operation hevent hnew htarget =>
    refine h.acceptApple ?_ peerId target operation
    rintro rfl
    have hrecorded := h.recorded
    rw [hfresh.of_accept hevent hnew] at hrecorded
    cases hrecorded
  | ongoing =>
    exact (h.progress _ _).of_fields id id (Finset.subset_insert _ _)
  | terminal hevent hagent hstate => exact .of_core hstate ((h.progress _ _).finish _)
  | cancel => exact h.dismiss _ _ _
  | lease hevent hstate => exact .of_core hstate h
  | expire | restore | rollBack => exact h

theorem withdrawn_lasting (config : Config) (jobId : String) :
    Lasting config (fun state => state.Withdrawn jobId) FreshName where
  core hcore h := h.of_core hcore
  recovery _ error h := h.recover error
  change h hfresh hchange := withdrawn_change hfresh h hchange

/-- **A job is withdrawn for good**: in memory, unless the state could not be read, and on the disk. -/
def Runtime.Withdraws (runtime : Runtime) (jobId : String) : Prop :=
  runtime.Lasts fun state => state.Withdrawn jobId

/-- **What is withdrawn stays so**, over crashes. -/
theorem withdraws_next (hguarded : runtime.Guarded) (h : runtime.Withdraws jobId) {input : Input}
    (hfresh : Meets FreshName runtime input) : (runtime.next config input).Withdraws jobId :=
  (withdrawn_lasting config jobId).next hguarded h hfresh

/-! ### What is given out -/

def KeepsBack (config : Config) (jobId : String) (runtime : Runtime) : Input → Prop
  | .event env event => ∀ answer, (handle config env event runtime).2 = some answer →
      answer.appleOperation.isSome → answer.jobId ≠ some jobId
  | .start _ _ _ _ => True

theorem keepsBack_of_withdraws (hguarded : runtime.Guarded) (h : runtime.Withdraws jobId)
    (input : Input) : KeepsBack config jobId runtime input := by
  cases input with
  | start => trivial
  | event env event =>
    intro answer hanswer hgiven hnamed
    obtain ⟨operation, hoperation⟩ := Option.isSome_iff_exists.1 hgiven
    by_cases hdispatch : ∃ hostId, event = .resume (.online hostId)
    · obtain ⟨hostId, rfl⟩ := hdispatch
      -- a heartbeat goes on, so that the state could be read
      have hstate : runtime.state.Withdrawn jobId := by
        refine h.state.resolve_left fun hrecovery => ?_
        have hperform : (perform config env (.resume (.online hostId)) runtime).2 = none := by
          unfold perform
          dsimp only
          rw [hguarded hrecovery, if_pos (.inl List.not_mem_nil)]
        unfold handle at hanswer
        split at hanswer
        · rw [hperform] at hanswer
          cases hanswer
        · cases hanswer
      obtain hplain | ⟨found, _, hnext, hgives⟩ := heartbeatDispatch_answer (handle_online_answer hanswer)
      · cases hplain.1.symm.trans hoperation
      obtain rfl := Option.some.inj (hgives.job.symm.trans hnamed)
      obtain ⟨hpending, -, hacknowledged, -⟩ := DurableState.nextApple_eq_some hnext
      rcases hstate.idle with hnone | hmem
      · rw [hnone] at hpending
        cases hpending
      · exact hacknowledged hmem
    · by_cases hlease : ∃ peerId operation, event = .request peerId (.lease operation)
      · obtain ⟨peerId, _, rfl⟩ := hlease
        rcases handle_request_answer hanswer with ⟨_, rfl⟩ | ⟨hsection, -⟩
        · cases hoperation
        · rcases leaseRequest_answer hsection with hplain | ⟨-, -, -, -, hnone, -⟩
          · rw [hplain.1] at hoperation
            cases hoperation
          · rw [hnone] at hoperation
            cases hoperation
      · have hplain := plain_handle config env runtime
          (fun peerId operation heq => hlease ⟨peerId, operation, heq⟩)
          (fun hostId heq => hdispatch ⟨hostId, heq⟩) answer hanswer
        rw [hplain.1] at hoperation
        cases hoperation

/-! ### Cancels that are honoured -/

/-- A cancel does not come between a job and the first report on it, and new jobs get new names. -/
structure Timely (runtime : Runtime) (input : Input) : Prop where
  reported : ∀ env peerId jobId, input = .event env (.request peerId (.appleCancel jobId)) →
    runtime.state.jobClients.lookup jobId = some peerId →
    (runtime.state.applePending.lookup jobId).isSome →
    jobId ∈ runtime.state.dispatched → jobId ∈ runtime.state.acknowledged
  fresh : Meets FreshName runtime input

/-- **Cancels are honoured**: after a cancel that has been accepted, nobody gets the operation of the
job. -/
def CancelHonoured (config : Config) (inputs : List Input) : Prop :=
  ∀ before env peerId jobId after answer,
    inputs = before ++ .event env (.request peerId (.appleCancel jobId)) :: after →
    (handle config env (.request peerId (.appleCancel jobId))
      (Runtime.empty.runInputs config before)).2 = some answer →
    answer.accepted = true →
    AllSteps (Runtime.next config) (KeepsBack config jobId) after
      ((Runtime.empty.runInputs config before).next config
        (.event env (.request peerId (.appleCancel jobId))))

theorem withdraws_of_accepted (hknown : runtime.state.Known) {env : Env} {peerId : String}
    {answer : Response}
    (htimely : Timely runtime (.event env (.request peerId (.appleCancel jobId))))
    (h : (handle config env (.request peerId (.appleCancel jobId)) runtime).2 = some answer)
    (haccepted : answer.accepted = true) :
    (handle config env (.request peerId (.appleCancel jobId)) runtime).1.Withdraws jobId := by
  rcases handle_request_answer h with ⟨error, rfl⟩ | ⟨hanswer, hafter⟩
  · cases haccepted
  · rw [hafter]
    change (appleCancel env peerId jobId runtime).1.Withdraws jobId
    change (appleCancel env peerId jobId runtime).2 = some answer at hanswer
    unfold appleCancel at hanswer ⊢
    split at hanswer
    · cases hanswer
      cases haccepted
    · rename_i hclient
      rw [if_neg hclient]
      split at hanswer
      · cases hanswer
        cases haccepted
      · rename_i hpending
        rw [if_neg hpending]
        rw [Option.isNone_iff_eq_none, ← ne_eq, Option.ne_none_iff_isSome] at hpending
        rw [not_not] at hclient
        dsimp only at hanswer ⊢
        generalize hcancelled : (if jobId ∈ runtime.state.dispatched then _ else _ : DurableState)
          = cancelled at hanswer ⊢
        have hwithdrawn : cancelled.Withdrawn jobId := by
          rw [← hcancelled]
          split
          · rename_i hdispatched
            obtain ⟨operation, hoperation⟩ := Option.isSome_iff_exists.1 hpending
            exact ⟨hknown.pending jobId operation hoperation,
              .inr (htimely.reported env peerId jobId rfl hclient hpending hdispatched)⟩
          · exact withdrawn_dismiss _ _ _ _
        unfold Runtime.storeStateOrPanic at hanswer ⊢
        dsimp only at hanswer ⊢
        split at hanswer
        · rename_i hstores
          rw [if_pos hstores]
          refine ⟨.inr ?_, ?_⟩
          · rw [state_storeState]
            exact hwithdrawn
          · have hlands : env.stateWrite.lands = true := by
              rw [hstores.2]
              rfl
            unfold Runtime.storeState
            rw [if_pos ⟨hstores.1, hlands⟩]
            exact hwithdrawn
        · cases hanswer

theorem keepsBack_run (hguarded : runtime.Guarded) (h : runtime.Withdraws jobId) {inputs : List Input}
    (htimely : AllSteps (Runtime.next config) Timely inputs runtime) :
    AllSteps (Runtime.next config) (KeepsBack config jobId) inputs runtime := by
  refine Runs.AllSteps.imp (I := fun runtime => runtime.Guarded ∧ runtime.Withdraws jobId)
    (fun runtime input hboth hinput => ?_) ⟨hguarded, h⟩ htimely
  exact ⟨⟨guarded_next hboth.1 input, withdraws_next hboth.1 hboth.2 hinput.fresh⟩,
    keepsBack_of_withdraws hboth.1 hboth.2 input⟩

/-- **No cancelled job is given out, in every timely run**, crashes included. -/
theorem cancelHonoured_of_run (config : Config) (inputs : List Input)
    (h : AllSteps (Runtime.next config) Timely inputs Runtime.empty) :
    CancelHonoured config inputs := by
  rintro before env peerId jobId after answer rfl hanswer haccepted
  rw [Runs.allSteps_append] at h
  obtain ⟨-, hcancel, hafter⟩ := h
  have hknown := (Runtime.everywhere_runInputs (known_keptByChanges config) before).state
  have hguarded := @guarded_next _ config _ (guarded_runInputs config before)
    (.event env (.request peerId (.appleCancel jobId)))
  exact keepsBack_run hguarded (withdraws_of_accepted hknown hcancel hanswer haccepted) hafter

/-! ### A cancelled job -/

def eventInputs (steps : List (Env × Event)) : List Input :=
  steps.map fun input => .event input.1 input.2

theorem runInputs_eventInputs (config : Config) (steps : List (Env × Event)) (runtime : Runtime) :
    runtime.runInputs config (eventInputs steps) = steps.foldl (Runtime.step config) runtime :=
  Runtime.runInputs_events config steps runtime

def Event.isCancel : Event → Bool
  | .request _ (.appleCancel _) => true
  | _ => false

omit [Sha256] in
theorem isCancel_sampleAppleSteps : ∀ input ∈ sampleAppleSteps, input.2.isCancel = false := by
  decide

theorem timely_sampleAppleSteps :
    AllSteps (Runtime.next sampleConfig) Timely (eventInputs sampleAppleSteps) Runtime.empty := by
  refine Runs.allSteps_map.2 (orderly_sampleAppleSteps.mono fun runtime input hmem horderly => ?_)
  refine ⟨fun env peerId jobId heq => ?_, horderly.fresh⟩
  have hother := isCancel_sampleAppleSteps input hmem
  rw [Input.event.injEq] at heq
  rw [heq.2] at hother
  cases hother

theorem handle_cancel_sampleAccepted :
    (handle sampleConfig sampleEnv (.request "client" (.appleCancel sampleAppleId)) sampleAccepted).2
      = some response := by
  have hclient : sampleAccepted.state.jobClients.lookup sampleAppleId = some "client" :=
    Map.lookup_insert_self _ _ _
  have hpending : sampleAccepted.state.applePending.lookup sampleAppleId = some sampleOperation :=
    Map.lookup_insert_self _ _ _
  have hsome : ¬ (some sampleOperation).isNone = true := Bool.false_ne_true
  have hcancel : ∃ after, appleCancel sampleEnv "client" sampleAppleId sampleAccepted
      = (after, some response) ∧ after.leases.nextId = 1 := by
    unfold appleCancel
    rw [if_neg (not_not.2 hclient), hpending, if_neg hsome]
    exact ⟨_, rfl, rfl⟩
  obtain ⟨after, hafter, hnext⟩ := hcancel
  have hperform : perform sampleConfig sampleEnv (.request "client" (.appleCancel sampleAppleId))
      sampleAccepted = (after, some response) := (perform_request rfl rfl).trans hafter
  rw [handle, hperform, if_pos]
  rw [hnext]
  exact Nat.le_of_ble_eq_true rfl

omit [Sha256] in
/-- A job that waits is cancelled, and nobody gets it. -/
theorem cancelHonoured_sample : letI := sampleHash
    CancelHonoured sampleConfig (eventInputs (sampleHostSteps ++ sampleJobSteps) ++
      .event sampleEnv (.request "client" (.appleCancel sampleAppleId)) ::
        [.event sampleEnv (.resume (.online "host"))]) ∧
    (handle sampleConfig sampleEnv (.request "client" (.appleCancel sampleAppleId))
      (Runtime.empty.runInputs sampleConfig (eventInputs (sampleHostSteps ++ sampleJobSteps)))).2
        = some response := by
  let _ := sampleHash
  have hearlier : Runtime.empty.runInputs sampleConfig (eventInputs (sampleHostSteps ++ sampleJobSteps))
      = sampleAccepted := by
    rw [runInputs_eventInputs, List.foldl_append, foldl_sampleHostSteps, foldl_sampleJobSteps]
  have htimely := timely_sampleAppleSteps
  rw [sampleAppleSteps, eventInputs, List.map_append, Runs.allSteps_append] at htimely
  refine ⟨cancelHonoured_of_run _ _ (Runs.allSteps_append.2 ⟨htimely.1, ?_, ?_, trivial⟩), ?_⟩
  · change Timely (Runtime.empty.runInputs sampleConfig _) _
    rw [hearlier]
    refine ⟨fun env peerId jobId heq hclient hpending hdispatched => ?_, fun peerId operation hevent => ?_⟩
    · exact absurd hdispatched (Finset.notMem_empty _)
    · rcases hevent with hevent | hevent
      · cases hevent
      · cases hevent
  · refine ⟨fun env peerId jobId heq => ?_, fun peerId operation hevent => ?_⟩
    · cases heq
    · rcases hevent with hevent | hevent
      · cases hevent
      · cases hevent
  · rw [hearlier]
    exact handle_cancel_sampleAccepted

def sampleCancelled : Runtime :=
  { sampleDispatched with
    state := sampleDispatched.state.cancel sampleAppleId
    storedState := sampleDispatched.state.cancel sampleAppleId }

theorem client_sampleDispatched : sampleDispatched.state.jobClients.lookup sampleAppleId = some "client" :=
  Map.lookup_insert_self _ _ _

theorem pending_sampleDispatched :
    sampleDispatched.state.applePending.lookup sampleAppleId = some sampleOperation :=
  Map.lookup_insert_self _ _ _

theorem handle_sampleCancel :
    handle sampleConfig sampleEnv (.request "client" (.appleCancel sampleAppleId)) sampleDispatched
      = (sampleCancelled, some response) := by
  have hcancel : appleCancel sampleEnv "client" sampleAppleId sampleDispatched
      = (sampleCancelled, some response) := by
    unfold appleCancel
    have hpending : ¬ (some sampleOperation).isNone = true := Bool.false_ne_true
    rw [if_neg (not_not.2 client_sampleDispatched), pending_sampleDispatched, if_neg hpending]
    dsimp only
    have hdispatched : sampleAppleId ∈ sampleDispatched.state.dispatched :=
      Finset.mem_insert_self _ _
    rw [if_pos hdispatched]
    rfl
  have hperform : perform sampleConfig sampleEnv (.request "client" (.appleCancel sampleAppleId))
      sampleDispatched = (sampleCancelled, some response) :=
    (perform_request rfl rfl).trans hcancel
  rw [handle, hperform, if_pos (Nat.le_of_ble_eq_true rfl)]

def sampleHeartbeat : List (Env × Event) :=
  [(sampleEnv, .request "agent" (.heartbeat sampleHost)),
    (sampleEnv, .resume (.inventoried sampleHost)),
    (sampleEnv, .resume (.expired sampleHost))]

theorem foldl_sampleHeartbeat {runtime : Runtime} (hholder : runtime.holder = none)
    (hrecovery : runtime.state.recoveryError = none)
    (howned : runtime.state.ownedByAnother "agent" "host" ["phone"] = false)
    (hinventory : runtime.locked.inventory sampleEnv.orders 0 "agent" "host" ["phone"] = runtime.locked)
    (hexpire : runtime.leases.expire sampleEnv.orders.active 0 = runtime.leases)
    (hstored : runtime.storedLeases = runtime.leases)
    (hentries : runtime.entries.insert "host" ⟨sampleHost, 0⟩ = runtime.entries)
    (hnext : runtime.leases.nextId ≤ Dashboard.u64Max) :
    sampleHeartbeat.foldl (Runtime.step sampleConfig) runtime
      = { runtime with flights := .online "host" :: runtime.flights } := by
  have hconnected : connectedDevices sampleHost = ["phone"] := rfl
  -- what is written is there already
  have hsame : ∀ flight, ({ runtime with storedLeases := runtime.leases } : Runtime).fly flight
      = { runtime with flights := flight :: runtime.flights } := by
    intro flight
    rw [← hstored]
    rfl
  have hshown : runtime.step sampleConfig (sampleEnv, .request "agent" (.heartbeat sampleHost))
      = { runtime with flights := .inventoried sampleHost :: runtime.flights } := by
    refine step_request hholder hrecovery ?_ hnext
    change (heartbeatInventory _ _ _ _ _).1 = _
    unfold heartbeatInventory
    rw [if_neg (by decide), if_neg (by rw [isOk_validateHostSnapshot_sample]; decide), hconnected]
    change (if runtime.state.ownedByAnother "agent" "host" ["phone"] = true then _ else _ :
      Runtime × Option Response).1 = _
    rw [howned, if_neg Bool.false_ne_true]
    change (Runtime.fly (Runtime.storeLeases (runtime.setLocked (runtime.locked.inventory
      sampleEnv.orders 0 "agent" "host" ["phone"])) sampleEnv) (.inventoried sampleHost)) = _
    rw [hinventory]
    exact hsame _
  have hexpired : ({ runtime with flights := .inventoried sampleHost :: runtime.flights } : Runtime).step
      sampleConfig (sampleEnv, .resume (.inventoried sampleHost))
      = { runtime with flights := .expired sampleHost :: runtime.flights } := by
    refine step_resume List.mem_cons_self hholder ?_ hnext
    rw [List.erase_cons_head]
    change Runtime.fly (Runtime.storeLeases { runtime with
      leases := runtime.leases.expire sampleEnv.orders.active 0 } sampleEnv) (.expired sampleHost) = _
    rw [hexpire]
    exact hsame _
  have honline : ({ runtime with flights := .expired sampleHost :: runtime.flights } : Runtime).step
      sampleConfig (sampleEnv, .resume (.expired sampleHost))
      = { runtime with flights := .online "host" :: runtime.flights } := by
    refine step_resume List.mem_cons_self hholder ?_ hnext
    rw [List.erase_cons_head]
    change Runtime.fly { runtime with
      entries := runtime.entries.insert "host" ⟨sampleHost, 0⟩ } (.online "host") = _
    rw [hentries]
    rfl
  rw [sampleHeartbeat, List.foldl_cons, hshown, List.foldl_cons, hexpired, List.foldl_cons, honline,
    List.foldl_nil]

theorem handle_sampleOnline {runtime : Runtime} (hholder : runtime.holder = none)
    (hrecovery : runtime.state.recoveryError = none) (hflights : runtime.flights = [.online "host"])
    (hrun : runtime.state.nextRun sampleEnv.orders "host" = none)
    (happle : runtime.state.nextApple runtime.leases sampleEnv.orders "host"
      = some (sampleAppleId, sampleOperation))
    (hclient : runtime.state.jobClients.lookup sampleAppleId = some "client")
    (hleases : runtime.leases = sampleLeases ∨
      runtime.leases = sampleLeases.setWriter "phone" sampleAppleId) : ∃ answer,
    (handle sampleConfig sampleEnv (.resume (.online "host")) runtime).2 = some answer ∧
      answer.appleOperation = some sampleOperation ∧ answer.jobId = some sampleAppleId := by
  have hexpire : runtime.leases.expire sampleEnv.orders.active sampleEnv.nowMs = runtime.leases := by
    rcases hleases with h | h
    · rw [h]
      rfl
    · rw [h]
      rfl
  have hleaseOf : runtime.leases.leaseOf "phone" (leaseIdOf 1) (some "client") = some sampleLease := by
    rcases hleases with h | h
    · rw [h]
      exact leaseOf_sampleLeases
    · rw [h]
      exact leaseOf_sampleLeases
  have hnextId : runtime.leases.nextId = 1 := by
    rcases hleases with h | h
    · rw [h]
      rfl
    · rw [h]
      rfl
  have hneeds : leaseNeeded sampleOperation = some ("phone", leaseIdOf 1) := rfl
  -- nothing but the operation, its job and its grant is in the answer
  have hanswer : ∃ after answer, heartbeatDispatch sampleConfig sampleEnv "host"
      { runtime with flights := [] } = (after, some answer) ∧
      after.leases.nextId = 1 ∧ answer.appleOperation = some sampleOperation ∧
      answer.jobId = some sampleAppleId := by
    unfold heartbeatDispatch
    dsimp only
    rw [hrun, happle]
    change ∃ after answer, dispatchApple sampleConfig sampleEnv sampleAppleId sampleOperation response
      { runtime with flights := [] } = (after, some answer) ∧ _
    unfold dispatchApple
    rw [hneeds]
    dsimp only
    rw [hexpire, hclient, hleaseOf]
    dsimp only
    rw [if_pos (show sampleEnv.leasesWrite = .stored from rfl)]
    unfold heartbeatAnswer
    dsimp only
    rw [if_pos ⟨(congrArg DurableState.recoveryError (state_storeLeases _ _)).trans hrecovery, rfl⟩]
    refine ⟨_, _, rfl, ?_, rfl, rfl⟩
    rw [leases_storeState, leases_storeLeases]
    exact hnextId
  obtain ⟨after, answer, hdispatch, hnext, hoperation, hjob⟩ := hanswer
  have hperform : perform sampleConfig sampleEnv (.resume (.online "host")) runtime
      = (after, some answer) := by
    refine (perform_resume (by rw [hflights]; exact List.mem_singleton_self _) hholder).trans
      (Eq.trans ?_ hdispatch)
    rw [hflights]
    rfl
  refine ⟨answer, ?_, hoperation, hjob⟩
  rw [handle, hperform, if_pos]
  rw [hnext]
  exact Nat.le_of_ble_eq_true rfl

/-- Cancels are honoured in every run. -/
def AlwaysCancelHonoured : Prop :=
  ∀ (config : Config) (inputs : List Input), CancelHonoured config inputs

end

/-- A cancelled job is given out again before its agent has reported on it, whatever the hash
function. -/
theorem not_alwaysCancelHonoured : ¬ ∃ _ : Sha256, AlwaysCancelHonoured := by
  rintro ⟨hash, h⟩
  have hearlier : Runtime.empty.runInputs sampleConfig (eventInputs sampleAppleSteps)
      = sampleDispatched := (runInputs_eventInputs _ _ _).trans foldl_sampleAppleSteps
  have hcancel := congrArg Prod.snd handle_sampleCancel
  rw [← hearlier] at hcancel
  have hkeepsBack := h sampleConfig
    (eventInputs sampleAppleSteps ++ .event sampleEnv (.request "client" (.appleCancel sampleAppleId)) ::
      (eventInputs sampleHeartbeat ++ [.event sampleEnv (.resume (.online "host"))]))
    _ _ _ _ _ _ rfl hcancel rfl
  rw [hearlier, Runs.allSteps_append] at hkeepsBack
  have hbefore : (eventInputs sampleHeartbeat).foldl (Runtime.next sampleConfig)
      (sampleDispatched.next sampleConfig
        (.event sampleEnv (.request "client" (.appleCancel sampleAppleId))))
      = { sampleCancelled with flights := [.online "host"] } := by
    have hfirst : sampleDispatched.next sampleConfig
        (.event sampleEnv (.request "client" (.appleCancel sampleAppleId))) = sampleCancelled :=
      congrArg Prod.fst handle_sampleCancel
    rw [hfirst]
    exact (runInputs_eventInputs _ _ _).trans
      (foldl_sampleHeartbeat rfl rfl rfl rfl rfl rfl rfl (Nat.le_of_ble_eq_true rfl))
  rw [hbefore] at hkeepsBack
  have happle : sampleCancelled.state.nextApple sampleCancelled.leases sampleEnv.orders "host"
      = some (sampleAppleId, sampleOperation) := by
    refine DurableState.nextApple_eq_of_only (Map.lookup_insert_self _ _ _) (Map.lookup_insert_self _ _ _)
      (Finset.notMem_empty _) ?_ fun other operation hother => Map.eq_of_lookup_insert_empty hother
    exact decide_eq_true rfl
  have hclient : sampleCancelled.state.jobClients.lookup sampleAppleId = some "client" :=
    Map.lookup_insert_self _ _ _
  have hgives : ∃ answer, (handle sampleConfig sampleEnv (.resume (.online "host"))
      { sampleCancelled with flights := [.online "host"] }).2 = some answer ∧
        answer.appleOperation = some sampleOperation ∧ answer.jobId = some sampleAppleId :=
    handle_sampleOnline rfl rfl rfl rfl happle hclient (.inr rfl)
  obtain ⟨answer, hanswer, hoperation, hjob⟩ := hgives
  have hlast : KeepsBack sampleConfig sampleAppleId _ _ := hkeepsBack.2.1
  exact hlast answer hanswer (by rw [hoperation]; rfl) hjob

end Registry
