/-
**What lasts.**

Some things are true of a job for good: they stay true in memory with every event, and they are on the
disk, so that they are true again after a crash. Where the state cannot be read after a crash, the
registry starts with an empty one in its place; then it does nothing to jobs, and leaves the disk alone
for the next start.

Main definitions:

* `Registry.Runtime.Guarded` — no request is under way where the state could not be read.

Main results:

* `Registry.Lasting.next` — **what lasts holds over crashes**.
-/

import DeviceLane.Library.Runs
import DeviceLane.Registry.Stores

namespace Registry

section

variable [Sha256] {config : Config} {env : Env} {event : Event} {runtime : Runtime}

/-! ### A state that could not be read -/

theorem recoveryError_change {state : DurableState} {leases : LeaseBook}
    (hchange : Change config env event runtime state leases) :
    state.recoveryError = runtime.state.recoveryError := by
  have hcore : ∀ {before : DurableState}, state.core = before.core →
      state.recoveryError = before.recoveryError := by
    intro before h
    exact read_of_core DurableState.recoveryError (fun _ => rfl) h
  cases hchange with
  | same hstate => exact (hcore hstate).trans rfl
  | inventory hevent hagent howner hlocked hstate => exact (hcore hstate).trans rfl
  | reject hevent hnext hneeds hlease hstate => exact (hcore hstate).trans rfl
  | grant hevent hnext hneeds hlease hstate => exact (hcore hstate).trans rfl
  | reconcile hholder hstate => exact (hcore hstate).trans rfl
  | terminal hevent hagent hstate => exact (hcore hstate).trans rfl
  | lease hevent hstate => exact (hcore hstate).trans rfl
  | _ => rfl

end

theorem storeState_of_recovery {runtime : Runtime} (h : runtime.state.recoveryError.isSome) (env : Env) :
    runtime.storeState env = runtime := by
  unfold Runtime.storeState
  rw [if_neg]
  rintro ⟨hnone, -⟩
  rw [hnone] at h
  cases h

/-- The registry leaves jobs and the disk alone, with no request under way. -/
structure Idles (before after : Runtime) : Prop where
  core : after.state.core = before.state.core
  stored : after.storedState = before.storedState
  flights : after.flights = []

theorem idles_storeLeases {before middle : Runtime} (h : Idles before middle) (env : Env) :
    Idles before (middle.storeLeases env) := by
  unfold Runtime.storeLeases
  split
  · exact ⟨h.core, h.stored, h.flights⟩
  · exact h

theorem idles_settle {runtime : Runtime} (hflights : runtime.flights = []) (env : Env) (holder : Holder) :
    Idles runtime (settle env runtime holder).1 := by
  cases holder with
  | reconciling =>
    have hfinished : Idles runtime (runtime.setLocked
        (reconcileRuntimeState runtime.locked env.orders env.nowMs).2) :=
      ⟨Locked.core_finishWriters runtime.locked _ env.nowMs, rfl, hflights⟩
    have hstored := idles_storeLeases hfinished env
    exact ⟨hstored.core, hstored.stored, hstored.flights⟩
  | rollingBack jobId =>
    have hdropped : Idles runtime { runtime with leases := runtime.leases.dropWriters jobId } :=
      ⟨rfl, rfl, hflights⟩
    have hstored := idles_storeLeases hdropped env
    exact ⟨hstored.core, hstored.stored, hstored.flights⟩
  | storingLeases =>
    have hstored := idles_storeLeases ⟨rfl, rfl, hflights⟩ env
    exact ⟨hstored.core, hstored.stored, hstored.flights⟩
  | panicked => exact ⟨rfl, rfl, hflights⟩

/-- A registry that could not read its state starts without requests, and leaves the disk alone. -/
theorem idles_start (env : Env) (again : DiskWrite) (error : String) (debris : String → List UInt8)
    (runtime : Runtime) :
    (start env again (some error) debris runtime).storedState = runtime.storedState ∧
      (start env again (some error) debris runtime).flights = [] := by
  have hfound : Idles (loaded env (some error) debris runtime)
      ((loaded env (some error) debris runtime).storeLeases env) :=
    idles_storeLeases ⟨rfl, rfl, rfl⟩ env
  unfold start
  dsimp only
  split
  · exact ⟨hfound.stored, hfound.flights⟩
  · split
    · exact ⟨hfound.stored, hfound.flights⟩
    · rename_i hchanged
      generalize hlocked : Runtime.setLocked _ _ = changed
      have hidles : Idles (loaded env (some error) debris runtime) changed := by
        rw [← hlocked]
        refine ⟨?_, hfound.stored, hfound.flights⟩
        exact (Locked.core_finishWriters _ _ env.nowMs).trans hfound.core
      have hrecovery : changed.state.recoveryError.isSome := by
        rw [read_of_core DurableState.recoveryError (fun _ => rfl) hidles.core]
        rfl
      have hsaved := storeState_of_recovery hrecovery env
      rw [hsaved]
      have hagain := idles_storeLeases hidles { env with leasesWrite := again }
      split
      · exact ⟨hidles.stored, hidles.flights⟩
      · split
        · exact ⟨hagain.stored, hagain.flights⟩
        · exact ⟨hagain.stored, hagain.flights⟩

theorem flights_start (env : Env) (again : DiskWrite) (unreadable : Option String)
    (debris : String → List UInt8) (runtime : Runtime) :
    (start env again unreadable debris runtime).flights = [] := by
  have hleases : ∀ (runtime : Runtime) (env : Env),
      (runtime.storeLeases env).flights = runtime.flights := by
    intro runtime env
    unfold Runtime.storeLeases
    split <;> rfl
  have hstate : ∀ (runtime : Runtime) (env : Env),
      (runtime.storeState env).flights = runtime.flights := by
    intro runtime env
    unfold Runtime.storeState
    split <;> rfl
  unfold start
  dsimp only
  split
  · exact hleases _ _
  · split
    · exact hleases _ _
    · split
      · exact (hstate _ _).trans (hleases _ _)
      · split
        · exact (hleases _ _).trans ((hstate _ _).trans (hleases _ _))
        · exact (hleases _ _).trans ((hstate _ _).trans (hleases _ _))

section

variable [Sha256] {config : Config} {runtime : Runtime}

/-- **A registry that could not read its state does nothing to jobs.** -/
theorem idles_handle (hrecovery : runtime.state.recoveryError.isSome) (hflights : runtime.flights = [])
    (env : Env) (event : Event) : Idles runtime (handle config env event runtime).1 := by
  have hsame : Idles runtime runtime := ⟨rfl, rfl, hflights⟩
  have hperform : Idles runtime (perform config env event runtime).1 := by
    cases event with
    | request peerId req =>
      unfold perform
      dsimp only
      split
      · exact hsame
      · split
        · rename_i hread
          cases req with
          | list | events | artifactRead | artifactInfo => exact hsame
          | _ => cases hread
        · split
          · rename_i hnone
            rw [hnone] at hrecovery
            cases hrecovery
          · exact hsame
    | resume =>
      unfold perform
      dsimp only
      split
      · exact hsame
      · rename_i hflight
        rw [hflights] at hflight
        exact absurd (.inl List.not_mem_nil) hflight
    | settle =>
      unfold perform
      dsimp only
      split
      · exact hsame
      · exact idles_settle hflights env _
  unfold handle
  split
  · exact hperform
  · exact hsame

def Runtime.Guarded (runtime : Runtime) : Prop :=
  runtime.state.recoveryError.isSome → runtime.flights = []

theorem guarded_next (h : runtime.Guarded) (input : Input) : (runtime.next config input).Guarded := by
  intro hrecovery
  cases input with
  | event env event =>
    have hbefore := recoveryError_change (handle_change config env event runtime)
    have hsome : runtime.state.recoveryError.isSome := by
      rw [← hbefore]
      exact hrecovery
    exact (idles_handle hsome (h hsome) env event).flights
  | start env again unreadable debris =>
    unfold Runtime.next at hrecovery ⊢
    dsimp only at hrecovery ⊢
    split
    · exact flights_start env again unreadable debris runtime
    · rename_i hnext
      rw [if_neg hnext] at hrecovery
      exact h hrecovery

theorem guarded_runInputs (config : Config) (inputs : List Input) :
    (Runtime.empty.runInputs config inputs).Guarded := by
  have hempty : Runtime.empty.Guarded := fun _ => rfl
  exact (Runs.always_of_step (I := Runtime.Guarded) (fun _ input h => guarded_next h input) hempty
    inputs).last

/-! ### What is kept over crashes -/

/-- **A property of the state that lasts**: it is about jobs, and every change keeps it that comes of an
event which meets a condition. -/
structure Lasting (config : Config) (I : DurableState → Prop) (P : Runtime → Event → Prop) : Prop where
  core : ∀ {state state' : DurableState}, state'.core = state.core → I state → I state'
  recovery : ∀ state error, I state → I { state with recoveryError := error }
  change : ∀ {env event runtime state leases}, I runtime.state → P runtime event →
    Change config env event runtime state leases → I state

/-- A property holds in memory, unless the state could not be read, and on the disk. -/
structure Runtime.Lasts (I : DurableState → Prop) (runtime : Runtime) : Prop where
  state : runtime.state.recoveryError.isSome ∨ I runtime.state
  stored : I runtime.storedState

/-- An input is a start, or an event that meets a condition. -/
def Meets (P : Runtime → Event → Prop) (runtime : Runtime) : Input → Prop
  | .event _ event => P runtime event
  | .start _ _ _ _ => True

variable {I : DurableState → Prop} {P : Runtime → Event → Prop}

/-- **What lasts holds over crashes.** -/
theorem Lasting.next (hlasting : Lasting config I P) (hguarded : runtime.Guarded)
    (h : runtime.Lasts I) {input : Input} (hinput : Meets P runtime input) :
    (runtime.next config input).Lasts I := by
  cases input with
  | event env event =>
    rcases h.state with hrecovery | hstate
    · have hidles : Idles runtime (handle config env event runtime).1 :=
        idles_handle hrecovery (hguarded hrecovery) env event
      refine ⟨.inl ?_, ?_⟩
      · change (handle config env event runtime).1.state.recoveryError.isSome
        rw [read_of_core DurableState.recoveryError (fun _ => rfl) hidles.core]
        exact hrecovery
      · change I (handle config env event runtime).1.storedState
        rw [hidles.stored]
        exact h.stored
    · have hafter := hlasting.change hstate hinput
        (handle_change config env event runtime)
      refine ⟨.inr hafter, ?_⟩
      rcases (handle_stores config env event runtime).state with hsame | hcore
      · change I (handle config env event runtime).1.storedState
        rw [hsame]
        exact h.stored
      · exact hlasting.core hcore hafter
  | start env again unreadable debris =>
    unfold Runtime.next
    dsimp only
    split
    · obtain ⟨-, hcore, -, hstored, -⟩ := start_cases env again unreadable debris runtime
      cases unreadable with
      | none =>
        have hstate := hlasting.core hcore (hlasting.recovery _ none h.stored)
        refine ⟨.inr hstate, ?_⟩
        rcases hstored with hsame | hsame
        · rw [hsame]
          exact h.stored
        · exact hlasting.core hsame hstate
      | some error =>
        refine ⟨.inl ?_, ?_⟩
        · rw [read_of_core DurableState.recoveryError (fun _ => rfl) hcore]
          rfl
        · rw [(idles_start env again error debris runtime).1]
          exact h.stored
    · exact h

end

end Registry
