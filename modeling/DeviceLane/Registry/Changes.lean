/-
**What a section of the registry changes.**

A section changes jobs in one of a few ways, and the leases with them. This module lists the ways, with
everything that a section has found out before it makes the change; what holds in every run of the
registry is shown for each of them in turn.

Main definitions:

* `Registry.Change` — **the changes that an event may make**.

Main results:

* `Registry.handle_change` — an event makes one of the changes.
-/

import DeviceLane.Registry.Handle

namespace Registry

variable {state state' : DurableState} {peerId jobId : String} {operation : AppleRequest}
  {events : List NetworkEvent}

def DurableState.core (state : DurableState) : DurableState :=
  { state with
    devicePeers := ∅
    dispatched := ∅
    cancelled := ∅ }

theorem read_of_core {α : Type} (read : DurableState → α)
    (hread : ∀ state, read state.core = read state) (h : state'.core = state.core) :
    read state' = read state := by
  rw [← hread state', h, hread]

/-! ### Writers that finish -/

theorem Locked.core_finishWriters (locked : Locked) (deviceIds : List String) (nowMs : ℕ) :
    (locked.finishWriters deviceIds nowMs).state.core = locked.state.core := by
  refine List.foldlRecOn _ _ (motive := fun after : Locked => after.state.core = _) rfl
    fun after h deviceId _ => Eq.trans ?_ h
  unfold Locked.finishWriter
  dsimp only
  split
  · rfl
  · rfl

theorem Locked.leases_finishWriters (locked : Locked) (deviceIds : List String) (nowMs : ℕ) :
    (locked.finishWriters deviceIds nowMs).leases
      = deviceIds.foldl (fun leases deviceId => leases.finishWriter deviceId nowMs) locked.leases := by
  induction deviceIds generalizing locked with
  | nil => rfl
  | cons deviceId deviceIds ih => exact ih (locked.finishWriter nowMs deviceId)

theorem Locked.dispatched_finishWriters (locked : Locked) (deviceIds : List String) (nowMs : ℕ) :
    (locked.finishWriters deviceIds nowMs).state.dispatched = locked.state.dispatched := by
  refine List.foldlRecOn _ _ (motive := fun after : Locked => after.state.dispatched = _) rfl
    fun after h deviceId _ => Eq.trans ?_ h
  unfold Locked.finishWriter
  dsimp only
  split
  · rfl
  · rfl

theorem core_finish (h : state'.core = state.core) (jobId : String) :
    (state'.finish jobId).core = (state.finish jobId).core := by
  change (state'.core.finish jobId).core = (state.core.finish jobId).core
  rw [h]

theorem core_dismiss (h : state'.core = state.core) (jobId kind payload : String) :
    (state'.dismiss jobId kind payload).core = (state.dismiss jobId kind payload).core := by
  change (state'.core.dismiss jobId kind payload).core = (state.core.dismiss jobId kind payload).core
  rw [h]

theorem Locked.core_inventory (locked : Locked) (orders : Orders) (nowMs : ℕ) (peerId hostId : String)
    (connected : List String) :
    (locked.inventory orders nowMs peerId hostId connected).state.core
      = (locked.state.claim peerId hostId connected).core := by
  refine List.foldlRecOn _ _ (motive := fun after : Locked => after.state.core = _) rfl
    fun after h deviceId _ => Eq.trans ?_ h
  unfold Locked.detach
  dsimp only
  split
  · rfl
  · rfl

/-! ### The changes -/

/-- **The changes that an event may make** to the state and the leases. -/
inductive Change [Sha256] (config : Config) (env : Env) (event : Event) (runtime : Runtime) :
    DurableState → LeaseBook → Prop
  | same {state : DurableState} (hstate : state.core = runtime.state.core) :
      Change config env event runtime state runtime.leases
  | inventory {state : DurableState} {leases : LeaseBook} {peerId : String}
      {host : Dashboard.HostSnapshot} (hevent : event = .request peerId (.heartbeat host))
      (hagent : peerId ∈ config.agentPeers)
      (howner : runtime.state.ownedByAnother peerId host.id (connectedDevices host) = false)
      (hlocked : (⟨state, leases⟩ : Locked)
        = runtime.locked.inventory env.orders env.nowMs peerId host.id (connectedDevices host))
      (hstate : state.core = (runtime.state.claim peerId host.id (connectedDevices host)).core) :
      Change config env event runtime state leases
  | expire : Change config env event runtime runtime.state
      (runtime.leases.expire env.orders.active env.nowMs)
  | reject {state : DurableState} {hostId jobId deviceId leaseId : String} {operation : AppleRequest}
      (hevent : event = .resume (.online hostId))
      (hnext : runtime.state.nextApple runtime.leases env.orders hostId = some (jobId, operation))
      (hneeds : leaseNeeded operation = some (deviceId, leaseId))
      (hlease : (runtime.leases.expire env.orders.active env.nowMs).leaseOf deviceId leaseId
        (runtime.state.jobClients.lookup jobId) = none)
      (hstate : state.core = (runtime.state.dismiss jobId "rejected" "lease_inactive").core) :
      Change config env event runtime state (runtime.leases.expire env.orders.active env.nowMs)
  | grant {state : DurableState} {hostId jobId deviceId leaseId : String} {operation : AppleRequest}
      {lease : DeviceLease}
      (hevent : event = .resume (.online hostId))
      (hnext : runtime.state.nextApple runtime.leases env.orders hostId = some (jobId, operation))
      (hneeds : leaseNeeded operation = some (deviceId, leaseId))
      (hlease : (runtime.leases.expire env.orders.active env.nowMs).leaseOf deviceId leaseId
        (runtime.state.jobClients.lookup jobId) = some lease)
      (hstate : state.core = runtime.state.core) :
      Change config env event runtime state
        ((runtime.leases.expire env.orders.active env.nowMs).setWriter deviceId jobId)
  | reconcile {state : DurableState} {leases : LeaseBook}
      (hholder : runtime.holder = some .reconciling) (hstate : state.core = runtime.state.core)
      (hleases : leases = (orphanedDevices runtime.locked env.orders).foldl
        (fun leases deviceId => leases.finishWriter deviceId env.nowMs) runtime.leases) :
      Change config env event runtime state leases
  | acceptRun {peerId : String} {operation : RunRequest}
      (hevent : event = .request peerId (.run operation))
      (hnew : runtime.state.requests.lookup operation.requestId = none) :
      Change config env event runtime
        (runtime.state.acceptRun (runJobId operation.requestId) operation) runtime.leases
  | complete {peerId jobId artifact : String} {events : List NetworkEvent} {operation : RunRequest}
      (hevent : event = .request peerId (.complete jobId artifact events))
      (hpending : runtime.state.pending.lookup jobId = some operation) :
      Change config env event runtime (runtime.state.complete jobId artifact events operation)
        runtime.leases
  | acceptApple {peerId target : String} {operation : AppleRequest}
      (hevent : event = .request peerId (.appleRun operation) ∧
          operation.operation.mutatesDevice = false ∧ validateRequestEnvelope operation = .ok () ∨
        event = .resume (.leased peerId operation))
      (hnew : runtime.state.appleRequests.lookup operation.idempotencyKey = none)
      (htarget : ∃ name entry, runtime.entries.lookup name = some entry ∧ entry.host.id = target) :
      Change config env event runtime
        (runtime.state.acceptApple peerId (appleJobId operation.idempotencyKey) target operation)
        runtime.leases
  | restore {peerId jobId : String} {events : List NetworkEvent}
      (hevent : event = .request peerId (.appleProgress jobId events false))
      (hagent : runtime.state.jobAgents.lookup jobId = some peerId) :
      Change config env event runtime runtime.state
        (restoreAcknowledgedWriter runtime.state runtime.leases env.orders env.nowMs jobId).2
  | ongoing {peerId jobId : String} {events : List NetworkEvent} {restored : Bool}
      (hevent : event = .request peerId (.appleProgress jobId events false))
      (hagent : runtime.state.jobAgents.lookup jobId = some peerId)
      (hrestored : (restoreAcknowledgedWriter runtime.state runtime.leases env.orders env.nowMs
        jobId).1 = .ok restored) :
      Change config env event runtime ((runtime.state.progress jobId events).acknowledge jobId)
        (restoreAcknowledgedWriter runtime.state runtime.leases env.orders env.nowMs jobId).2
  | terminal {state : DurableState} {leases : LeaseBook} {peerId jobId : String}
      {events : List NetworkEvent}
      (hevent : event = .request peerId (.appleProgress jobId events true))
      (hagent : runtime.state.jobAgents.lookup jobId = some peerId)
      (hstate : state.core = ((runtime.state.progress jobId events).finish jobId).core)
      (hleases : leases = (writtenDevices runtime.leases env.orders jobId).foldl
        (fun leases deviceId => leases.finishWriter deviceId env.nowMs) runtime.leases) :
      Change config env event runtime state leases
  | rollBack {jobId : String} (hholder : runtime.holder = some (.rollingBack jobId)) :
      Change config env event runtime runtime.state (runtime.leases.dropWriters jobId)
  | cancel {peerId jobId : String}
      (hevent : event = .request peerId (.appleCancel jobId))
      (hclient : runtime.state.jobClients.lookup jobId = some peerId)
      (hpending : (runtime.state.applePending.lookup jobId).isSome)
      (hdispatched : jobId ∉ runtime.state.dispatched) :
      Change config env event runtime (runtime.state.dismiss jobId "cancelled" "") runtime.leases
  | lease {state : DurableState} {peerId : String} {operation : LeaseRequest}
      (hevent : event = .request peerId (.lease operation))
      (hstate : state.core = runtime.state.core) :
      Change config env event runtime state
        ((runtime.leases.expire env.orders.active env.nowMs).apply config.agentPeers
          runtime.state.devicePeers env.orders.active peerId operation env.nowMs).2

/-! ### Writing to the disk -/

@[simp] theorem state_storeLeases (runtime : Runtime) (env : Env) :
    (runtime.storeLeases env).state = runtime.state := by
  unfold Runtime.storeLeases
  split <;> rfl

@[simp] theorem leases_storeLeases (runtime : Runtime) (env : Env) :
    (runtime.storeLeases env).leases = runtime.leases := by
  unfold Runtime.storeLeases
  split <;> rfl

@[simp] theorem state_storeState (runtime : Runtime) (env : Env) :
    (runtime.storeState env).state = runtime.state := by
  unfold Runtime.storeState
  split <;> rfl

@[simp] theorem leases_storeState (runtime : Runtime) (env : Env) :
    (runtime.storeState env).leases = runtime.leases := by
  unfold Runtime.storeState
  split <;> rfl

theorem locked_storeStateOrPanic (runtime : Runtime) (env : Env) (response : Response) :
    (runtime.storeStateOrPanic env response).1.state = runtime.state ∧
      (runtime.storeStateOrPanic env response).1.leases = runtime.leases := by
  unfold Runtime.storeStateOrPanic
  dsimp only
  split
  · exact ⟨state_storeState runtime env, leases_storeState runtime env⟩
  · exact ⟨state_storeState runtime env, leases_storeState runtime env⟩

theorem locked_heartbeatAnswer (env : Env) (response : Response) (runtime : Runtime) :
    (heartbeatAnswer env response runtime).1.state.core = runtime.state.core ∧
      (heartbeatAnswer env response runtime).1.leases = runtime.leases := by
  have hstate := congrArg DurableState.core (state_storeState runtime env)
  have hleases := leases_storeState runtime env
  unfold heartbeatAnswer
  dsimp only
  split
  · exact ⟨hstate, hleases⟩
  · split
    · exact ⟨hstate, hleases⟩
    · exact ⟨hstate, hleases⟩

/-! ### The sections -/

variable [Sha256] {config : Config} {env : Env} {event : Event} {runtime : Runtime}

theorem Change.refl : Change config env event runtime runtime.state runtime.leases :=
  .same rfl

theorem Change.of_eq {leases leases' : LeaseBook} (h : Change config env event runtime state leases)
    (hstate : state' = state) (hleases : leases' = leases) :
    Change config env event runtime state' leases' := by
  rw [hstate, hleases]
  exact h

theorem heartbeatInventory_change {host : Dashboard.HostSnapshot}
    (hevent : event = .request peerId (.heartbeat host)) :
    Change config env event runtime (heartbeatInventory config env peerId host runtime).1.state
      (heartbeatInventory config env peerId host runtime).1.leases := by
  unfold heartbeatInventory
  split
  · exact .refl
  · rename_i hagent
    split
    · exact .refl
    · split
      · exact .refl
      · rename_i howner
        rw [not_not] at hagent
        rw [Bool.not_eq_true] at howner
        have hchange : Change config env event runtime _ _ :=
          .inventory hevent hagent howner rfl (Locked.core_inventory runtime.locked _ _ _ _ _)
        dsimp only
        split
        · exact hchange.of_eq (state_storeLeases _ _) (leases_storeLeases _ _)
        · exact hchange.of_eq (state_storeLeases _ _) (leases_storeLeases _ _)

theorem heartbeatExpire_change (host : Dashboard.HostSnapshot) :
    Change config env event runtime (heartbeatExpire env host runtime).1.state
      (heartbeatExpire env host runtime).1.leases := by
  have hchange : Change config env event runtime _ _ := .expire
  unfold heartbeatExpire
  dsimp only
  split
  · exact hchange.of_eq (state_storeLeases _ _) (leases_storeLeases _ _)
  · exact hchange.of_eq (state_storeLeases _ _) (leases_storeLeases _ _)

theorem dispatchApple_change {hostId : String} (hevent : event = .resume (.online hostId))
    (hnext : runtime.state.nextApple runtime.leases env.orders hostId = some (jobId, operation))
    (response : Response) {given : Runtime} (hstate : given.state.core = runtime.state.core)
    (hleases : given.leases = runtime.leases) :
    Change config env event runtime
      (dispatchApple config env jobId operation response given).1.state
      (dispatchApple config env jobId operation response given).1.leases := by
  have hclients := read_of_core DurableState.jobClients (fun _ => rfl) hstate
  have hdismiss := core_dismiss hstate jobId "rejected" "lease_inactive"
  unfold dispatchApple
  split
  · obtain ⟨hcore, hsame⟩ := locked_heartbeatAnswer env
      { response with appleOperation := some operation, jobId := some jobId }
      { given with state := given.state.dispatch jobId }
    have hchange : Change config env event runtime _ _ := .same (hcore.trans hstate)
    exact hchange.of_eq rfl (hsame.trans hleases)
  · rename_i deviceId leaseId hneeds
    dsimp only
    rw [hleases, hclients]
    split
    · rename_i hlease
      obtain ⟨hcore, hsame⟩ := locked_heartbeatAnswer env { response with jobId := some jobId }
        { given with
          state := given.state.dismiss jobId "rejected" "lease_inactive"
          leases := runtime.leases.expire env.orders.active env.nowMs }
      have hchange : Change config env event runtime _ _ :=
        .reject hevent hnext hneeds hlease (hcore.trans hdismiss)
      exact hchange.of_eq rfl hsame
    · rename_i lease hlease
      split
      · generalize hstored : Runtime.storeLeases _ env = stored
        have hcore : stored.state.core = runtime.state.core := by
          rw [← hstored, state_storeLeases]
          exact hstate
        have hset : stored.leases
            = (runtime.leases.expire env.orders.active env.nowMs).setWriter deviceId jobId := by
          rw [← hstored, leases_storeLeases]
        obtain ⟨hanswer, hsame⟩ := locked_heartbeatAnswer env
          { response with
            appleOperation := some operation
            jobId := some jobId
            leaseGrant := some (grantOf config.sign lease jobId env.nowMs) }
          { stored with state := stored.state.dispatch jobId }
        have hchange : Change config env event runtime _ _ :=
          .grant hevent hnext hneeds hlease (hanswer.trans hcore)
        exact hchange.of_eq rfl (hsame.trans hset)
      · generalize hstored : Runtime.storeLeases _ env = stored
        have hcore : stored.state.core = runtime.state.core := by
          rw [← hstored, state_storeLeases]
          exact hstate
        have hset : stored.leases
            = (runtime.leases.expire env.orders.active env.nowMs).setWriter deviceId jobId := by
          rw [← hstored, leases_storeLeases]
        have hchange : Change config env event runtime _ _ :=
          .grant hevent hnext hneeds hlease hcore
        exact hchange.of_eq rfl hset

theorem heartbeatDispatch_change {hostId : String} (hevent : event = .resume (.online hostId)) :
    Change config env event runtime (heartbeatDispatch config env hostId runtime).1.state
      (heartbeatDispatch config env hostId runtime).1.leases := by
  unfold heartbeatDispatch
  dsimp only
  have hstate : ({ runtime with
      state := (runtime.state.nextRun env.orders hostId).elim runtime.state
        fun job => runtime.state.dispatch job.1 } : Runtime).state.core = runtime.state.core := by
    cases runtime.state.nextRun env.orders hostId with
    | none | some => rfl
  split
  · obtain ⟨hcore, hsame⟩ := locked_heartbeatAnswer env
      ((runtime.state.nextRun env.orders hostId).elim response fun job =>
        { response with operation := some job.2, jobId := some job.1 })
      { runtime with
        state := (runtime.state.nextRun env.orders hostId).elim runtime.state
          fun job => runtime.state.dispatch job.1 }
    have hchange : Change config env event runtime _ _ := .same (hcore.trans hstate)
    exact hchange.of_eq rfl hsame
  · rename_i jobId operation hnext
    exact dispatchApple_change hevent hnext _ hstate rfl

theorem completeJob_change {artifact : String}
    (hevent : event = .request peerId (.complete jobId artifact events)) :
    Change config env event runtime (completeJob env jobId artifact events runtime).1.state
      (completeJob env jobId artifact events runtime).1.leases := by
  unfold completeJob
  split
  · exact .refl
  · rename_i operation hpending
    obtain ⟨hstate, hleases⟩ := locked_storeStateOrPanic
      { runtime with state := runtime.state.complete jobId artifact events operation } env response
    have hchange : Change config env event runtime _ _ := .complete hevent hpending
    exact hchange.of_eq hstate hleases

theorem run_change {operation : RunRequest} (hevent : event = .request peerId (.run operation)) :
    Change config env event runtime (run env operation runtime).1.state
      (run env operation runtime).1.leases := by
  unfold run
  split
  · exact .refl
  · rename_i hnew
    split
    · exact .refl
    · split
      · exact .refl
      · have hchange : Change config env event runtime _ _ := .acceptRun hevent hnew
        dsimp only
        split
        · exact hchange.of_eq (state_storeState _ env) (leases_storeState _ env)
        · exact hchange.of_eq (state_storeState _ env) (leases_storeState _ env)

theorem appleRunAccept_change (hevent : event = .request peerId (.appleRun operation) ∧
        operation.operation.mutatesDevice = false ∧ validateRequestEnvelope operation = .ok () ∨
      event = .resume (.leased peerId operation)) :
    Change config env event runtime (appleRunAccept config env peerId operation runtime).1.state
      (appleRunAccept config env peerId operation runtime).1.leases := by
  unfold appleRunAccept
  split
  · split
    · exact .refl
    · exact .refl
  · rename_i hnew
    split
    · exact .refl
    · rename_i entry hentry
      have hmem := Map.mem_entriesIn.1 (List.mem_of_find?_eq_some hentry)
      obtain ⟨hstate, hleases⟩ := locked_storeStateOrPanic
        { runtime with
          state := runtime.state.acceptApple peerId (appleJobId operation.idempotencyKey)
            entry.2.host.id operation } env
        { response with jobId := some (appleJobId operation.idempotencyKey) }
      have hchange : Change config env event runtime _ _ :=
        .acceptApple hevent hnew ⟨entry.1, entry.2, hmem, rfl⟩
      exact hchange.of_eq hstate hleases

theorem appleRunLease_change (peerId : String) (operation : AppleRequest) :
    Change config env event runtime (appleRunLease env peerId operation runtime).1.state
      (appleRunLease env peerId operation runtime).1.leases := by
  have hchange : Change config env event runtime _ _ := .expire
  unfold appleRunLease
  dsimp only
  split
  · exact hchange.of_eq (state_storeLeases _ env) (leases_storeLeases _ env)
  · split
    · exact hchange.of_eq (state_storeLeases _ env) (leases_storeLeases _ env)
    · exact hchange.of_eq (state_storeLeases _ env) (leases_storeLeases _ env)

theorem appleRun_change (hevent : event = .request peerId (.appleRun operation)) :
    Change config env event runtime (appleRun config env peerId operation runtime).1.state
      (appleRun config env peerId operation runtime).1.leases := by
  unfold appleRun
  split
  · exact .refl
  · rename_i hvalid
    split
    · exact appleRunLease_change peerId operation
    · rename_i hmutates
      rw [Bool.not_eq_true] at hmutates
      exact appleRunAccept_change (.inl ⟨hevent, hmutates, hvalid⟩)

theorem progressOngoing_change (hevent : event = .request peerId (.appleProgress jobId events false))
    (hagent : runtime.state.jobAgents.lookup jobId = some peerId) :
    Change config env event runtime (progressOngoing env jobId events runtime).1.state
      (progressOngoing env jobId events runtime).1.leases := by
  have hrestore : Change config env event runtime _ _ := .restore hevent hagent
  unfold progressOngoing
  dsimp only
  split
  · exact hrestore.of_eq (state_storeLeases _ env) (leases_storeLeases _ env)
  · rename_i restored hrestored
    split
    · exact hrestore.of_eq (state_storeLeases _ env) (leases_storeLeases _ env)
    · have hchange : Change config env event runtime _ _ := .ongoing hevent hagent hrestored
      generalize hstored : Runtime.storeLeases _ env = stored
      have hstate : stored.state = runtime.state := by rw [← hstored, state_storeLeases]
      have hleases : stored.leases = (restoreAcknowledgedWriter runtime.state runtime.leases
          env.orders env.nowMs jobId).2 := by rw [← hstored, leases_storeLeases]
      have hprogressed : (stored.state.progress jobId events).acknowledge jobId
          = (runtime.state.progress jobId events).acknowledge jobId := by rw [hstate]
      split
      · exact hchange.of_eq ((state_storeState _ env).trans hprogressed)
          ((leases_storeState _ env).trans hleases)
      · split
        · exact hchange.of_eq ((state_storeState _ env).trans hprogressed)
            ((leases_storeState _ env).trans hleases)
        · exact hchange.of_eq ((state_storeState _ env).trans hprogressed)
            ((leases_storeState _ env).trans hleases)

theorem progressTerminal_change (hevent : event = .request peerId (.appleProgress jobId events true))
    (hagent : runtime.state.jobAgents.lookup jobId = some peerId) :
    Change config env event runtime (progressTerminal env jobId events runtime).1.state
      (progressTerminal env jobId events runtime).1.leases := by
  unfold progressTerminal
  dsimp only
  generalize hfinished : Locked.finishWriters _ _ env.nowMs = finished
  have hcore : (finished.state.finish jobId).core
      = ((runtime.state.progress jobId events).finish jobId).core := by
    rw [← hfinished]
    exact core_finish (Locked.core_finishWriters _ _ _) jobId
  have hleases : finished.leases = (writtenDevices runtime.leases env.orders jobId).foldl
      (fun leases deviceId => leases.finishWriter deviceId env.nowMs) runtime.leases := by
    rw [← hfinished]
    exact Locked.leases_finishWriters _ _ _
  have hchange : Change config env event runtime _ _ := .terminal hevent hagent hcore hleases
  split
  · exact hchange.of_eq (state_storeState _ env) (leases_storeState _ env)
  · exact hchange.of_eq (state_storeState _ env) (leases_storeState _ env)

theorem appleProgress_change {terminal : Bool}
    (hevent : event = .request peerId (.appleProgress jobId events terminal)) :
    Change config env event runtime (appleProgress env peerId jobId events terminal runtime).1.state
      (appleProgress env peerId jobId events terminal runtime).1.leases := by
  unfold appleProgress
  split
  · exact .refl
  · rename_i hagent
    rw [not_not] at hagent
    cases terminal with
    | true => exact progressTerminal_change hevent hagent
    | false => exact progressOngoing_change hevent hagent

theorem appleCancel_change (hevent : event = .request peerId (.appleCancel jobId)) :
    Change config env event runtime (appleCancel env peerId jobId runtime).1.state
      (appleCancel env peerId jobId runtime).1.leases := by
  unfold appleCancel
  split
  · exact .refl
  · rename_i hclient
    rw [not_not] at hclient
    split
    · exact .refl
    · rename_i hpending
      dsimp only
      obtain ⟨hstate, hleases⟩ := locked_storeStateOrPanic
        { runtime with
          state :=
            if jobId ∈ runtime.state.dispatched then runtime.state.cancel jobId
            else runtime.state.dismiss jobId "cancelled" "" } env response
      by_cases hdispatched : jobId ∈ runtime.state.dispatched
      · rw [if_pos hdispatched] at hstate hleases ⊢
        have hchange : Change config env event runtime (runtime.state.cancel jobId) _ := .same rfl
        exact hchange.of_eq hstate hleases
      · rw [if_neg hdispatched] at hstate hleases ⊢
        have hsome : (runtime.state.applePending.lookup jobId).isSome := by
          cases hlookup : runtime.state.applePending.lookup jobId with
          | none =>
            rw [hlookup] at hpending
            exact absurd rfl hpending
          | some => rfl
        have hchange : Change config env event runtime _ _ :=
          .cancel hevent hclient hsome hdispatched
        exact hchange.of_eq hstate hleases

omit [Sha256] in
theorem lease_eq_some {sign : List UInt8 → List UInt8} {agentPeers : Finset String}
    {hash : KeyOrder String} {operation : LeaseRequest} {devicePeers devicePeers' : Map String String}
    {book book' : LeaseBook} {nowMs : ℕ} {response : Response}
    (h : lease sign agentPeers hash operation peerId devicePeers book nowMs
      = some (response, devicePeers', book')) :
    book' = ((book.expire hash nowMs).apply agentPeers devicePeers hash peerId operation nowMs).2 := by
  unfold lease at h
  dsimp only at h
  split at h
  · cases h
    rfl
  · obtain ⟨_, -, hentry⟩ := Option.map_eq_some_iff.1 h
    cases hentry
    rfl

theorem leaseRequest_change {operation : LeaseRequest}
    (hevent : event = .request peerId (.lease operation)) :
    Change config env event runtime (leaseRequest config env peerId operation runtime).1.state
      (leaseRequest config env peerId operation runtime).1.leases := by
  unfold leaseRequest
  split
  · exact .refl
  · rename_i answer devicePeers leases hlease
    have hbook := lease_eq_some hlease
    have hchange : Change config env event runtime { runtime.state with devicePeers } leases := by
      rw [hbook]
      exact .lease hevent rfl
    dsimp only
    generalize hstored : Runtime.storeLeases _ env = stored
    have hstate : stored.state = { runtime.state with devicePeers } := by
      rw [← hstored, state_storeLeases]
    have hleases : stored.leases = leases := by rw [← hstored, leases_storeLeases]
    split
    · exact hchange.of_eq hstate hleases
    · split
      · exact hchange.of_eq ((state_storeState _ env).trans hstate)
          ((leases_storeState _ env).trans hleases)
      · exact hchange.of_eq ((state_storeState _ env).trans hstate)
          ((leases_storeState _ env).trans hleases)

theorem settle_change {holder : Holder} (hholder : runtime.holder = some holder) :
    Change config env event runtime (settle env runtime holder).1.state
      (settle env runtime holder).1.leases := by
  cases holder with
  | reconciling =>
    have hchange : Change config env event runtime _ _ :=
      .reconcile hholder
        (Locked.core_finishWriters runtime.locked (orphanedDevices runtime.locked env.orders) env.nowMs)
        (Locked.leases_finishWriters runtime.locked (orphanedDevices runtime.locked env.orders)
          env.nowMs)
    exact hchange.of_eq (state_storeLeases _ env) (leases_storeLeases _ env)
  | rollingBack =>
    have hchange : Change config env event runtime _ _ := .rollBack hholder
    exact hchange.of_eq (state_storeLeases _ env) (leases_storeLeases _ env)
  | storingLeases =>
    have hchange : Change config env event runtime _ _ := .refl
    exact hchange.of_eq (state_storeLeases _ env) (leases_storeLeases _ env)
  | panicked => exact .refl

theorem registerArtifact_change (peerId jobId name mediaType : String) (totalSize : ℕ)
    (sha256 : String) : Change config env event runtime
      (registerArtifact peerId jobId name mediaType totalSize sha256 runtime).1.state
      (registerArtifact peerId jobId name mediaType totalSize sha256 runtime).1.leases := by
  unfold registerArtifact
  split
  · exact .refl
  · exact .refl

theorem request_change {req : Request} (hevent : event = .request peerId req) :
    Change config env event runtime (request config env peerId runtime req).1.state
      (request config env peerId runtime req).1.leases := by
  cases req with
  | heartbeat => exact heartbeatInventory_change hevent
  | complete => exact completeJob_change hevent
  | run => exact run_change hevent
  | appleProgress => exact appleProgress_change hevent
  | appleCancel => exact appleCancel_change hevent
  | lease => exact leaseRequest_change hevent
  | artifactRegister => exact registerArtifact_change _ _ _ _ _ _
  | appleRun => exact appleRun_change hevent
  | _ => exact .refl

theorem resume_change {flight : Flight} (hevent : event = .resume flight) :
    Change config env event runtime (resume config env runtime flight).1.state
      (resume config env runtime flight).1.leases := by
  cases flight with
  | inventoried host => exact heartbeatExpire_change host
  | online => exact heartbeatDispatch_change hevent
  | leased => exact appleRunAccept_change (.inr hevent)
  | running jobId =>
    change Change config env event runtime (runWait jobId runtime).1.state
      (runWait jobId runtime).1.leases
    unfold runWait
    split
    · exact .refl
    · exact .refl
  | _ => exact .refl

/-- A change is about the state, the leases, the hosts that are online and the thread that keeps the
lock. -/
theorem Change.of_flights {flights : List Flight} {leases : LeaseBook}
    (h : Change config env event { runtime with flights } state leases) :
    Change config env event runtime state leases := by
  cases h with
  | same hstate => exact .same hstate
  | inventory hevent hagent howner hlocked hstate =>
    exact .inventory hevent hagent howner hlocked hstate
  | expire => exact .expire
  | reject hevent hnext hneeds hlease hstate => exact .reject hevent hnext hneeds hlease hstate
  | grant hevent hnext hneeds hlease hstate => exact .grant hevent hnext hneeds hlease hstate
  | reconcile hholder hstate hleases => exact .reconcile hholder hstate hleases
  | acceptRun hevent hnew => exact .acceptRun hevent hnew
  | complete hevent hpending => exact .complete hevent hpending
  | acceptApple hevent hnew htarget => exact .acceptApple hevent hnew htarget
  | restore hevent hagent => exact .restore hevent hagent
  | ongoing hevent hagent hrestored => exact .ongoing hevent hagent hrestored
  | terminal hevent hagent hstate hleases => exact .terminal hevent hagent hstate hleases
  | rollBack hholder => exact .rollBack hholder
  | cancel hevent hclient hpending hdispatched => exact .cancel hevent hclient hpending hdispatched
  | lease hevent hstate => exact .lease hevent hstate

theorem perform_change (config : Config) (env : Env) (event : Event) (runtime : Runtime) :
    Change config env event runtime (perform config env event runtime).1.state
      (perform config env event runtime).1.leases := by
  cases event with
  | request =>
    unfold perform
    dsimp only
    split
    · exact .refl
    · split
      · exact request_change rfl
      · split
        · exact request_change rfl
        · exact .refl
  | resume =>
    unfold perform
    dsimp only
    split
    · exact .refl
    · exact Change.of_flights (resume_change rfl)
  | settle =>
    unfold perform
    dsimp only
    split
    · exact .refl
    · rename_i holder hholder
      exact settle_change hholder

/-- **An event makes one of the changes.** -/
theorem handle_change (config : Config) (env : Env) (event : Event) (runtime : Runtime) :
    Change config env event runtime (handle config env event runtime).1.state
      (handle config env event runtime).1.leases := by
  unfold handle
  split
  · exact perform_change config env event runtime
  · exact .refl

end Registry
