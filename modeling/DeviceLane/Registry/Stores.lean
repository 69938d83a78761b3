/-
**What the registry finds on the disk.**

The state and the leases are written to the disk as they are in memory, so that what holds of them
whatever the registry does also holds of what it finds after a crash.

Main definitions:

* `Registry.Stores` — what is on the disk is older, or what is in memory.

Main results:

* `Registry.Runtime.everywhere_runInputs`, `Registry.Runtime.everywhere_runInputs_while` — **what every
  change keeps holds after any number of crashes**.
-/

import DeviceLane.Registry.Changes

namespace Registry

open Dashboard (u64Max)

/-- What is on the disk has been there before, or it is what is in memory. -/
structure Stores (before after : Runtime) : Prop where
  state : after.storedState = before.storedState ∨ after.storedState.core = after.state.core
  leases : after.storedLeases = before.storedLeases ∨ after.storedLeases = after.leases

theorem Stores.refl (runtime : Runtime) : Stores runtime runtime := ⟨.inl rfl, .inl rfl⟩

theorem Stores.of_disk {before middle after : Runtime} (h : Stores middle after)
    (hstate : middle.storedState = before.storedState)
    (hleases : middle.storedLeases = before.storedLeases) : Stores before after :=
  ⟨hstate ▸ h.state, hleases ▸ h.leases⟩

theorem stores_storeLeases (runtime : Runtime) (env : Env) :
    Stores runtime (runtime.storeLeases env) := by
  unfold Runtime.storeLeases
  split
  · exact ⟨.inl rfl, .inr rfl⟩
  · exact .refl runtime

theorem stores_storeState (runtime : Runtime) (env : Env) :
    Stores runtime (runtime.storeState env) := by
  unfold Runtime.storeState
  split
  · exact ⟨.inr rfl, .inl rfl⟩
  · exact .refl runtime

@[simp] theorem storedState_storeLeases (runtime : Runtime) (env : Env) :
    (runtime.storeLeases env).storedState = runtime.storedState := by
  unfold Runtime.storeLeases
  split <;> rfl

@[simp] theorem storedLeases_storeState (runtime : Runtime) (env : Env) :
    (runtime.storeState env).storedLeases = runtime.storedLeases := by
  unfold Runtime.storeState
  split <;> rfl

theorem Stores.then_storeState {before middle : Runtime} (h : Stores before middle)
    (hstate : middle.storedState = before.storedState) (env : Env) :
    Stores before (middle.storeState env) := by
  refine ⟨?_, ?_⟩
  · have hstored := (stores_storeState middle env).state
    rw [hstate] at hstored
    exact hstored
  · rw [storedLeases_storeState, leases_storeState]
    exact h.leases

theorem Stores.of_same {before middle after : Runtime} (h : Stores before middle)
    (hstate : after.state.core = middle.state.core) (hleases : after.leases = middle.leases)
    (hstoredState : after.storedState = middle.storedState)
    (hstoredLeases : after.storedLeases = middle.storedLeases) : Stores before after := by
  refine ⟨?_, ?_⟩
  · rw [hstate, hstoredState]
    exact h.state
  · rw [hleases, hstoredLeases]
    exact h.leases

/-! ### The sections -/

theorem storeStateOrPanic_stores (runtime : Runtime) (env : Env) (response : Response) :
    Stores runtime (runtime.storeStateOrPanic env response).1 := by
  have hstores := stores_storeState runtime env
  unfold Runtime.storeStateOrPanic
  dsimp only
  split
  · exact hstores
  · exact hstores.of_same rfl rfl rfl rfl

theorem heartbeatAnswer_stores {before runtime : Runtime} (h : Stores before runtime)
    (hstate : runtime.storedState = before.storedState) (env : Env) (response : Response) :
    Stores before (heartbeatAnswer env response runtime).1 := by
  have hstores := h.then_storeState hstate env
  unfold heartbeatAnswer
  dsimp only
  split
  · exact hstores
  · split
    · exact hstores
    · exact hstores.of_same rfl rfl rfl rfl

theorem dispatchApple_stores (config : Config) (env : Env) (jobId : String) (operation : AppleRequest)
    (response : Response) (runtime : Runtime) :
    Stores runtime (dispatchApple config env jobId operation response runtime).1 := by
  have hanswer : ∀ (changed : Runtime) (response : Response),
      changed.storedState = runtime.storedState → changed.storedLeases = runtime.storedLeases →
        Stores runtime (heartbeatAnswer env response changed).1 := by
    intro changed response hstate hleases
    exact heartbeatAnswer_stores ⟨.inl hstate, .inl hleases⟩ hstate env response
  unfold dispatchApple
  split
  · exact hanswer { runtime with state := runtime.state.dispatch jobId } _ rfl rfl
  · rename_i deviceId leaseId _
    dsimp only
    split
    · exact hanswer { runtime with
        state := runtime.state.dismiss jobId "rejected" "lease_inactive"
        leases := runtime.leases.expire env.orders.active env.nowMs } _ rfl rfl
    · generalize hset : ({ runtime with leases := LeaseBook.setWriter _ _ _ } : Runtime) = set
      have hsetState : set.storedState = runtime.storedState := by rw [← hset]
      have hsetLeases : set.storedLeases = runtime.storedLeases := by rw [← hset]
      have hstores := (stores_storeLeases set env).of_disk hsetState hsetLeases
      have hstored := (storedState_storeLeases set env).trans hsetState
      split
      · have hdispatched : Stores runtime { set.storeLeases env with
            state := (set.storeLeases env).state.dispatch jobId } := ⟨.inl hstored, hstores.leases⟩
        exact heartbeatAnswer_stores hdispatched hstored _ _
      · exact hstores

theorem heartbeatDispatch_stores (config : Config) (env : Env) (hostId : String) (runtime : Runtime) :
    Stores runtime (heartbeatDispatch config env hostId runtime).1 := by
  unfold heartbeatDispatch
  dsimp only
  generalize hgiven : ({ runtime with
    state := (runtime.state.nextRun env.orders hostId).elim runtime.state
      fun job => runtime.state.dispatch job.1 } : Runtime) = given
  have hstate : given.storedState = runtime.storedState := by rw [← hgiven]
  have hleases : given.storedLeases = runtime.storedLeases := by rw [← hgiven]
  split
  · exact heartbeatAnswer_stores ⟨.inl hstate, .inl hleases⟩ hstate _ _
  · exact (dispatchApple_stores config env _ _ _ given).of_disk hstate hleases

theorem progressOngoing_stores (env : Env) (jobId : String) (events : List NetworkEvent)
    (runtime : Runtime) : Stores runtime (progressOngoing env jobId events runtime).1 := by
  unfold progressOngoing
  dsimp only
  generalize hset : ({ runtime with leases := Prod.snd _ } : Runtime) = set
  have hsetState : set.storedState = runtime.storedState := by rw [← hset]
  have hsetLeases : set.storedLeases = runtime.storedLeases := by rw [← hset]
  have hstores := (stores_storeLeases set env).of_disk hsetState hsetLeases
  have hstored : (set.storeLeases env).storedState = runtime.storedState :=
    (storedState_storeLeases set env).trans hsetState
  split
  · exact hstores
  · split
    · exact hstores
    · generalize hprogressed : ({ set.storeLeases env with
        state := DurableState.acknowledge _ _ } : Runtime) = progressed
      have hprogress : Stores runtime progressed := by
        rw [← hprogressed]
        exact ⟨.inl hstored, hstores.leases⟩
      have hdone := hprogress.then_storeState (by rw [← hprogressed]; exact hstored) env
      split
      · exact hdone
      · split
        · exact hdone.of_same rfl rfl rfl rfl
        · exact hdone

theorem leaseRequest_stores (config : Config) (env : Env) (peerId : String) (operation : LeaseRequest)
    (runtime : Runtime) : Stores runtime (leaseRequest config env peerId operation runtime).1 := by
  unfold leaseRequest
  split
  · exact ⟨.inl rfl, .inl rfl⟩
  · dsimp only
    generalize happlied : ({ runtime with state := _, leases := _ } : Runtime) = applied
    have hstate : applied.storedState = runtime.storedState := by rw [← happlied]
    have hleases : applied.storedLeases = runtime.storedLeases := by rw [← happlied]
    have hstores := (stores_storeLeases applied env).of_disk hstate hleases
    have hdone := hstores.then_storeState ((storedState_storeLeases applied env).trans hstate) env
    split
    · exact hstores
    · split
      · exact hdone
      · exact hdone

theorem settle_stores (env : Env) (runtime : Runtime) (holder : Holder) :
    Stores runtime (settle env runtime holder).1 := by
  have hstored : ∀ changed : Runtime, changed.storedState = runtime.storedState →
      changed.storedLeases = runtime.storedLeases →
        Stores runtime { changed.storeLeases env with holder := none } := by
    intro changed hstate hleases
    have hstores := (stores_storeLeases changed env).of_disk hstate hleases
    exact hstores.of_same rfl rfl rfl rfl
  cases holder with
  | reconciling | rollingBack | storingLeases => exact hstored _ rfl rfl
  | panicked => exact .refl runtime

section

variable [Sha256]

theorem appleRunAccept_stores (config : Config) (env : Env) (peerId : String) (operation : AppleRequest)
    (runtime : Runtime) : Stores runtime (appleRunAccept config env peerId operation runtime).1 := by
  unfold appleRunAccept
  split
  · split
    · exact .refl runtime
    · exact .refl runtime
  · split
    · exact .refl runtime
    · exact (storeStateOrPanic_stores _ env _).of_disk rfl rfl

theorem appleRun_stores (config : Config) (env : Env) (peerId : String) (operation : AppleRequest)
    (runtime : Runtime) : Stores runtime (appleRun config env peerId operation runtime).1 := by
  unfold appleRun
  split
  · exact .refl runtime
  · split
    · unfold appleRunLease
      dsimp only
      generalize hexpired : ({ runtime with leases := _ } : Runtime) = expired
      have hstores : Stores runtime (expired.storeLeases env) :=
        (stores_storeLeases expired env).of_disk (by rw [← hexpired]) (by rw [← hexpired])
      split
      · exact hstores
      · split
        · exact hstores
        · exact hstores.of_same rfl rfl rfl rfl
    · exact appleRunAccept_stores config env peerId operation runtime

theorem request_stores (config : Config) (env : Env) (peerId : String) (runtime : Runtime)
    (req : Request) : Stores runtime (request config env peerId runtime req).1 := by
  cases req with
  | heartbeat host =>
    change Stores runtime (heartbeatInventory config env peerId host runtime).1
    unfold heartbeatInventory
    split
    · exact .refl runtime
    · split
      · exact .refl runtime
      · split
        · exact .refl runtime
        · dsimp only
          generalize htaken : runtime.setLocked _ = taken
          have hstores : Stores runtime (taken.storeLeases env) :=
      (stores_storeLeases taken env).of_disk (htaken ▸ rfl) (htaken ▸ rfl)
          split
          · exact hstores.of_same rfl rfl rfl rfl
          · exact hstores
  | complete jobId artifact events =>
    change Stores runtime (completeJob env jobId artifact events runtime).1
    unfold completeJob
    split
    · exact .refl runtime
    · exact (storeStateOrPanic_stores _ env _).of_disk rfl rfl
  | run operation =>
    change Stores runtime (run env operation runtime).1
    unfold run
    split
    · exact .refl runtime
    · split
      · exact .refl runtime
      · split
        · exact .refl runtime
        · dsimp only
          generalize haccepted : ({ runtime with state := _ } : Runtime) = accepted
          have hstores : Stores runtime (accepted.storeState env) :=
      (stores_storeState accepted env).of_disk (by rw [← haccepted]) (by rw [← haccepted])
          split
          · exact hstores.of_same rfl rfl rfl rfl
          · exact hstores.of_same rfl rfl rfl rfl
  | appleRun operation => exact appleRun_stores config env peerId operation runtime
  | appleProgress jobId events terminal =>
    change Stores runtime (appleProgress env peerId jobId events terminal runtime).1
    unfold appleProgress
    split
    · exact .refl runtime
    · split
      · unfold progressTerminal
        dsimp only
        generalize hended : runtime.setLocked _ = ended
        have hstores : Stores runtime (ended.storeState env) :=
      (stores_storeState ended env).of_disk (hended ▸ rfl) (hended ▸ rfl)
        split
        · exact hstores.of_same rfl rfl rfl rfl
        · exact hstores
      · exact progressOngoing_stores env jobId events runtime
  | appleCancel jobId =>
    change Stores runtime (appleCancel env peerId jobId runtime).1
    unfold appleCancel
    split
    · exact .refl runtime
    · split
      · exact .refl runtime
      · exact (storeStateOrPanic_stores _ env _).of_disk rfl rfl
  | artifactRegister jobId name mediaType totalSize sha256 =>
    change Stores runtime (registerArtifact peerId jobId name mediaType totalSize sha256 runtime).1
    unfold registerArtifact
    split
    · exact .refl runtime
    · exact ⟨.inl rfl, .inl rfl⟩
  | lease operation => exact leaseRequest_stores config env peerId operation runtime
  | _ => exact ⟨.inl rfl, .inl rfl⟩

theorem resume_stores (config : Config) (env : Env) (runtime : Runtime) (flight : Flight) :
    Stores runtime (resume config env runtime flight).1 := by
  cases flight with
  | inventoried host =>
    change Stores runtime (heartbeatExpire env host runtime).1
    unfold heartbeatExpire
    dsimp only
    generalize hexpired : ({ runtime with leases := _ } : Runtime) = expired
    have hstores : Stores runtime (expired.storeLeases env) :=
      (stores_storeLeases expired env).of_disk (by rw [← hexpired]) (by rw [← hexpired])
    split
    · exact hstores.of_same rfl rfl rfl rfl
    · exact hstores
  | online hostId => exact heartbeatDispatch_stores config env hostId runtime
  | leased peerId operation => exact appleRunAccept_stores config env peerId operation runtime
  | running jobId =>
    change Stores runtime (runWait jobId runtime).1
    unfold runWait
    split
    · exact .refl runtime
    · exact .refl runtime
  | _ => exact ⟨.inl rfl, .inl rfl⟩

/-- **An event leaves on the disk what was there, or what is in memory.** -/
theorem handle_stores (config : Config) (env : Env) (event : Event) (runtime : Runtime) :
    Stores runtime (handle config env event runtime).1 := by
  have hperform : Stores runtime (perform config env event runtime).1 := by
    cases event with
    | request peerId req =>
      unfold perform
      dsimp only
      split
      · exact .refl runtime
      · split
        · exact request_stores config env peerId runtime req
        · split
          · exact request_stores config env peerId runtime req
          · exact .refl runtime
    | resume flight =>
      unfold perform
      dsimp only
      split
      · exact .refl runtime
      · exact (resume_stores config env _ flight).of_disk rfl rfl
    | settle =>
      unfold perform
      dsimp only
      split
      · exact .refl runtime
      · exact settle_stores env runtime _
  unfold handle
  split
  · exact hperform
  · exact .refl runtime

end

/-! ### Starts -/

/-- **What a start does**: the leases that are over end, some writers finish, and nothing else is done to
jobs. -/
theorem start_cases (env : Env) (again : DiskWrite) (unreadable : Option String)
    (debris : String → List UInt8) (runtime : Runtime) :
    ∃ deviceIds : List String,
      (start env again unreadable debris runtime).state.core
        = (loadState runtime.storedState unreadable).core ∧
      (start env again unreadable debris runtime).leases
        = deviceIds.foldl (fun leases deviceId => leases.finishWriter deviceId env.nowMs)
            (runtime.storedLeases.expire env.orders.active env.nowMs) ∧
      ((start env again unreadable debris runtime).storedState = runtime.storedState ∨
        (start env again unreadable debris runtime).storedState.core
          = (start env again unreadable debris runtime).state.core) ∧
      ((start env again unreadable debris runtime).storedLeases = runtime.storedLeases ∨
        (start env again unreadable debris runtime).storedLeases
          = runtime.storedLeases.expire env.orders.active env.nowMs ∨
        (start env again unreadable debris runtime).storedLeases
          = (start env again unreadable debris runtime).leases) := by
  unfold start
  dsimp only
  generalize hfound : (loaded env unreadable debris runtime).storeLeases env = found
  have hstate : found.state = loadState runtime.storedState unreadable := by
    rw [← hfound, state_storeLeases]
    rfl
  have hleases : found.leases = runtime.storedLeases.expire env.orders.active env.nowMs := by
    rw [← hfound, leases_storeLeases]
    rfl
  have hstored : found.storedState = runtime.storedState := by
    rw [← hfound, storedState_storeLeases]
    rfl
  have hstoredLeases : found.storedLeases = runtime.storedLeases ∨
      found.storedLeases = runtime.storedLeases.expire env.orders.active env.nowMs := by
    have hstores := (stores_storeLeases (loaded env unreadable debris runtime) env).leases
    rw [hfound, hleases] at hstores
    exact hstores
  have hfirst : ∀ stored : Runtime, stored.storedLeases = found.storedLeases →
      stored.storedLeases = runtime.storedLeases ∨
        stored.storedLeases = runtime.storedLeases.expire env.orders.active env.nowMs ∨
          stored.storedLeases = stored.leases := by
    intro stored hsame
    rw [hsame]
    rcases hstoredLeases with h | h
    · exact .inl h
    · exact .inr (.inl h)
  split
  · exact ⟨[], congrArg _ hstate, hleases, .inl hstored, hfirst _ rfl⟩
  · split
    · exact ⟨[], congrArg _ hstate, hleases, .inl hstored, hfirst _ rfl⟩
    · generalize hchanged : found.setLocked _ = changed
      have hcore : changed.state.core = (loadState runtime.storedState unreadable).core := by
        rw [← hchanged, ← hstate]
        exact Locked.core_finishWriters found.locked _ env.nowMs
      have hfinished : changed.leases = (orphanedDevices found.locked env.orders).foldl
          (fun leases deviceId => leases.finishWriter deviceId env.nowMs)
            (runtime.storedLeases.expire env.orders.active env.nowMs) := by
        rw [← hchanged, ← hleases]
        exact Locked.leases_finishWriters found.locked _ env.nowMs
      have hchangedLeases : changed.storedLeases = found.storedLeases := by rw [← hchanged]; rfl
      have hdisk := (stores_storeState changed env).state
      have hsaved : (changed.storeState env).storedState = runtime.storedState ∨
          (changed.storeState env).storedState.core = changed.state.core := by
        rw [state_storeState] at hdisk
        refine hdisk.imp_left fun h => h.trans ?_
        rw [← hchanged]
        exact hstored
      have hsavedLeases : (changed.storeState env).storedLeases = found.storedLeases :=
        (storedLeases_storeState changed env).trans hchangedLeases
      generalize hsaves : changed.storeState env = saved at hsaved hsavedLeases
      have hsavedState : saved.state = changed.state := by rw [← hsaves, state_storeState]
      have hsavedBook : saved.leases = changed.leases := by rw [← hsaves, leases_storeState]
      have hresult : ∀ result : Runtime, result.state = saved.state → result.leases = saved.leases →
          result.storedState = saved.storedState →
          (result.storedLeases = saved.storedLeases ∨ result.storedLeases = saved.leases) →
          ∃ deviceIds : List String,
            result.state.core = (loadState runtime.storedState unreadable).core ∧
            result.leases = deviceIds.foldl
              (fun leases deviceId => leases.finishWriter deviceId env.nowMs)
                (runtime.storedLeases.expire env.orders.active env.nowMs) ∧
            (result.storedState = runtime.storedState ∨ result.storedState.core = result.state.core) ∧
            (result.storedLeases = runtime.storedLeases ∨
              result.storedLeases = runtime.storedLeases.expire env.orders.active env.nowMs ∨
                result.storedLeases = result.leases) := by
        intro result hr hrl hrs hrd
        refine ⟨orphanedDevices found.locked env.orders, ?_, ?_, ?_, ?_⟩
        · rw [hr, hsavedState]
          exact hcore
        · rw [hrl, hsavedBook]
          exact hfinished
        · rw [hrs, hr, hsavedState]
          exact hsaved
        · rcases hrd with h | h
          · exact hfirst result (h.trans hsavedLeases)
          · exact .inr (.inr (h.trans hrl.symm))
      have hagain := (stores_storeLeases saved { env with leasesWrite := again }).leases
      rw [leases_storeLeases] at hagain
      split
      · exact hresult _ rfl rfl rfl (.inl rfl)
      · split
        · exact hresult _ (state_storeLeases saved _) (leases_storeLeases saved _)
            (storedState_storeLeases saved _) hagain
        · exact hresult _ (state_storeLeases saved _) (leases_storeLeases saved _)
            (storedState_storeLeases saved _) hagain

namespace Runtime

variable [Sha256]

structure Everywhere (I : DurableState → Prop) (J : LeaseBook → Prop) (runtime : Runtime) : Prop where
  state : I runtime.state
  leases : J runtime.leases
  storedState : I runtime.storedState
  storedLeases : J runtime.storedLeases

structure KeptByChanges (config : Config) (I : DurableState → Prop) (J : LeaseBook → Prop) :
    Prop where
  core : ∀ {state state' : DurableState}, state'.core = state.core → I state → I state'
  recovery : ∀ state error, I state → I { state with recoveryError := error }
  empty : I DurableState.empty ∧ J LeaseBook.empty
  expire : ∀ leases hash nowMs, J leases → J (leases.expire hash nowMs)
  finish : ∀ leases deviceId nowMs, J leases → J (leases.finishWriter deviceId nowMs)
  change : ∀ {env event runtime state leases}, I runtime.state → J runtime.leases →
    Change config env event runtime state leases → I state ∧ J leases

/-- Properties that a change keeps, where it comes from an event of some kind. -/
structure KeptWhile (config : Config) (P : Event → Prop) (I : DurableState → Prop)
    (J : LeaseBook → Prop) : Prop where
  core : ∀ {state state' : DurableState}, state'.core = state.core → I state → I state'
  recovery : ∀ state error, I state → I { state with recoveryError := error }
  empty : I DurableState.empty ∧ J LeaseBook.empty
  expire : ∀ leases hash nowMs, J leases → J (leases.expire hash nowMs)
  finish : ∀ leases deviceId nowMs, J leases → J (leases.finishWriter deviceId nowMs)
  change : ∀ {env event runtime state leases}, P event → I runtime.state → J runtime.leases →
    Change config env event runtime state leases → I state ∧ J leases

variable {config : Config} {P : Event → Prop} {I : DurableState → Prop} {J : LeaseBook → Prop}

theorem KeptByChanges.keptWhile (h : KeptByChanges config I J) (P : Event → Prop) :
    KeptWhile config P I J where
  core hcore := h.core hcore
  recovery := h.recovery
  empty := h.empty
  expire := h.expire
  finish := h.finish
  change _ := h.change

theorem KeptWhile.finishes (h : KeptWhile config P I J) {leases : LeaseBook} (hleases : J leases)
    (deviceIds : List String) (nowMs : ℕ) :
    J (deviceIds.foldl (fun leases deviceId => leases.finishWriter deviceId nowMs) leases) :=
  List.foldlRecOn _ _ hleases fun leases hleases deviceId _ => h.finish leases deviceId nowMs hleases

theorem KeptWhile.load (h : KeptWhile config P I J) {stored : DurableState} (hstored : I stored)
    (unreadable : Option String) : I (loadState stored unreadable) := by
  cases unreadable with
  | none => exact h.recovery _ _ hstored
  | some => exact h.recovery _ _ h.empty.1

/-- The event of an input is of some kind, if it has one. -/
def Of (P : Event → Prop) : Input → Prop
  | .event _ event => P event
  | .start _ _ _ _ => True

theorem Everywhere.next_while (h : KeptWhile config P I J) {runtime : Runtime}
    (hruntime : Everywhere I J runtime) {input : Input} (hinput : Of P input) :
    Everywhere I J (next config runtime input) := by
  cases input with
  | event env event =>
    obtain ⟨hstate, hleases⟩ :=
      h.change hinput hruntime.state hruntime.leases (handle_change config env event runtime)
    have hstores := handle_stores config env event runtime
    refine ⟨hstate, hleases, ?_, ?_⟩
    · rcases hstores.state with hsame | hcore
      · exact hsame ▸ hruntime.storedState
      · exact h.core hcore hstate
    · rcases hstores.leases with hsame | hsame
      · exact hsame ▸ hruntime.storedLeases
      · exact hsame ▸ hleases
  | start env again unreadable debris =>
    change Everywhere I J (if _ then _ else _)
    split
    · obtain ⟨deviceIds, hcore, hfinished, hstored, hstoredLeases⟩ :=
        start_cases env again unreadable debris runtime
      have hexpired := h.expire _ env.orders.active env.nowMs hruntime.storedLeases
      have hstate := h.core hcore (h.load hruntime.storedState unreadable)
      have hleases := h.finishes hexpired deviceIds env.nowMs
      rw [← hfinished] at hleases
      refine ⟨hstate, hleases, ?_, ?_⟩
      · rcases hstored with hsame | hsame
        · exact hsame ▸ hruntime.storedState
        · exact h.core hsame hstate
      · rcases hstoredLeases with hsame | hsame | hsame
        · exact hsame ▸ hruntime.storedLeases
        · exact hsame ▸ hexpired
        · exact hsame ▸ hleases
    · exact hruntime

/-- **What changes of some kind keep holds after any number of crashes**, as long as all events are of
the kind. -/
theorem everywhere_runInputs_while (h : KeptWhile config P I J) {inputs : List Input}
    (hinputs : ∀ input ∈ inputs, Of P input) : Everywhere I J (empty.runInputs config inputs) := by
  have hruns : ∀ {runtime : Runtime}, Everywhere I J runtime →
      Everywhere I J (runtime.runInputs config inputs) := by
    induction inputs with
    | nil => exact id
    | cons input inputs ih =>
      exact fun hruntime => ih (List.forall_mem_cons.1 hinputs).2
        (hruntime.next_while h (hinputs input List.mem_cons_self))
  exact hruns ⟨h.empty.1, h.empty.2, h.empty.1, h.empty.2⟩

omit [Sha256] in
theorem of_true (input : Input) : Of (fun _ => True) input := by
  cases input with
  | event | start => trivial

theorem Everywhere.next (h : KeptByChanges config I J) {runtime : Runtime}
    (hruntime : Everywhere I J runtime) (input : Input) :
    Everywhere I J (next config runtime input) :=
  hruntime.next_while (h.keptWhile _) (of_true input)

/-- **What every change keeps holds after any number of crashes.** -/
theorem everywhere_runInputs (h : KeptByChanges config I J) (inputs : List Input) :
    Everywhere I J (empty.runInputs config inputs) :=
  everywhere_runInputs_while (h.keptWhile _) fun input _ => of_true input

end Runtime

end Registry
