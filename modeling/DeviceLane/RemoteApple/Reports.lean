/-
**Reports on Apple jobs.**

The agent of a job reports its start and its end. The start is accepted only where the job still waits;
from then on the registry knows that the job is under way, in memory and on the disk, until its end is
reported or a client cancels it as if it had not been given out. The end is accepted when it has been
stored.

Main definitions:

* `RemoteApple.Underway` — the registry knows that the agent has a job.

Main results:

* `RemoteApple.underway_of_accepted`, `RemoteApple.ended_of_held` — **what accepted reports tell**.
-/

import DeviceLane.Registry.Cancels

namespace RemoteApple

open Registry

/-! ### Jobs that are under way -/

/-- **The registry knows that an agent has a job**: the job waits for its end, and its agent has reported
on it. -/
structure Underway (peerId jobId : String) (state : DurableState) : Prop where
  recorded : (state.jobs.lookup jobId).isSome
  pending : (state.applePending.lookup jobId).isSome
  acknowledged : jobId ∈ state.acknowledged
  agent : state.jobAgents.lookup jobId = some peerId

theorem Underway.not_ended {peerId jobId : String} {state : DurableState}
    (h : Underway peerId jobId state) : ¬ Ended state jobId := by
  rintro ⟨-, hnone⟩
  have hpending := h.pending
  rw [hnone] at hpending
  cases hpending

namespace Underway

variable {peerId jobId : String} {state state' : DurableState}

theorem of_fields (h : Underway peerId jobId state)
    (hjobs : (state.jobs.lookup jobId).isSome → (state'.jobs.lookup jobId).isSome)
    (hpending : state'.applePending.lookup jobId = state.applePending.lookup jobId)
    (hacknowledged : state.acknowledged ⊆ state'.acknowledged)
    (hagents : state'.jobAgents.lookup jobId = state.jobAgents.lookup jobId) :
    Underway peerId jobId state' :=
  ⟨hjobs h.recorded, hpending ▸ h.pending, hacknowledged h.acknowledged, hagents ▸ h.agent⟩

theorem of_core (hcore : state'.core = state.core) (h : Underway peerId jobId state) :
    Underway peerId jobId state' := by
  have hjobs := read_of_core DurableState.jobs (fun _ => rfl) hcore
  have hpending := read_of_core DurableState.applePending (fun _ => rfl) hcore
  have hacknowledged := read_of_core DurableState.acknowledged (fun _ => rfl) hcore
  have hagents := read_of_core DurableState.jobAgents (fun _ => rfl) hcore
  refine ⟨?_, ?_, ?_, ?_⟩
  · rw [hjobs]
    exact h.recorded
  · rw [hpending]
    exact h.pending
  · rw [hacknowledged]
    exact h.acknowledged
  · rw [hagents]
    exact h.agent

theorem dismiss (h : Underway peerId jobId state) {other : String} (hne : jobId ≠ other)
    (kind payload : String) : Underway peerId jobId (state.dismiss other kind payload) := by
  refine h.of_fields (fun hsome => Map.isSome_lookup_insert hsome _ _) ?_ (Finset.Subset.refl _) rfl
  change (Map.erase _ _).lookup jobId = _
  rw [Map.lookup_erase, if_neg hne]

theorem progress (h : Underway peerId jobId state) (other : String) (events : List NetworkEvent) :
    Underway peerId jobId (state.progress other events) :=
  h.of_fields (fun hsome => Map.isSome_lookup_insert hsome _ _) rfl (Finset.Subset.refl _) rfl

theorem finish (h : Underway peerId jobId state) {other : String} (hne : jobId ≠ other) :
    Underway peerId jobId (state.finish other) := by
  refine h.of_fields id ?_ (Finset.Subset.refl _) rfl
  change (Map.erase _ _).lookup jobId = _
  rw [Map.lookup_erase, if_neg hne]

theorem acceptApple (h : Underway peerId jobId state) {other : String} (hne : jobId ≠ other)
    (client target : String) (operation : AppleRequest) :
    Underway peerId jobId (state.acceptApple client other target operation) := by
  refine h.of_fields (fun hsome => Map.isSome_lookup_insert hsome _ _) (Map.lookup_insert_ne hne _)
    (Finset.Subset.refl _) ?_
  change (Option.elim _ _ _ : Map String String).lookup jobId = _
  cases state.hostPeers.lookup target with
  | none => rfl
  | some => exact Map.lookup_insert_ne hne _

end Underway

section

variable [Sha256]

/-- What leaves a job alone that is under way: no new job gets its name, no client cancels it as if it had
not been given out, and its agent does not report its end. -/
structure Spares (peerId jobId : String) (runtime : Runtime) (event : Event) : Prop where
  fresh : FreshName runtime event
  cancel : ∀ client, event = .request client (.appleCancel jobId) →
    runtime.state.jobClients.lookup jobId = some client →
    (runtime.state.applePending.lookup jobId).isSome →
    jobId ∉ runtime.state.dispatched → jobId ∉ runtime.state.acknowledged
  unended : ∀ events, event ≠ .request peerId (.appleProgress jobId events true)

theorem underway_lasting (config : Config) (peerId jobId : String) :
    Lasting config (Underway peerId jobId) (Spares peerId jobId) where
  core hcore h := h.of_core hcore
  recovery _ _ h := ⟨h.recorded, h.pending, h.acknowledged, h.agent⟩
  change := by
    intro _ _ _ _ _ h hspares hchange
    cases hchange with
    | same hstate => exact .of_core hstate h
    | inventory hevent hagent howner hlocked hstate =>
      exact .of_core hstate (h.of_fields id rfl (Finset.Subset.refl _) rfl)
    | @reject _ hostId other deviceId leaseId operation hevent hnext hneeds hlease hstate =>
      -- a job that is given out has not been reported on
      have hne : jobId ≠ other := by
        rintro rfl
        obtain ⟨-, -, hacknowledged, -⟩ := DurableState.nextApple_eq_some hnext
        exact hacknowledged h.acknowledged
      exact .of_core hstate (h.dismiss hne _ _)
    | grant hevent hnext hneeds hlease hstate => exact .of_core hstate h
    | reconcile hholder hstate => exact .of_core hstate h
    | acceptRun => exact h.of_fields id rfl (Finset.Subset.refl _) rfl
    | complete =>
      exact h.of_fields (fun hsome => Map.isSome_lookup_insert hsome _ _) rfl (Finset.Subset.refl _)
        rfl
    | @acceptApple client target operation hevent hnew htarget =>
      refine h.acceptApple ?_ client target operation
      rintro rfl
      have hrecorded := h.recorded
      rw [hspares.fresh.of_accept hevent hnew] at hrecorded
      cases hrecorded
    | @ongoing client other events restored hevent hagent hrestored =>
      exact (h.progress other events).of_fields id rfl (Finset.subset_insert _ _) rfl
    | @terminal _ _ client other events hevent hagent hstate hleases =>
      have hne : jobId ≠ other := by
        rintro rfl
        obtain rfl := Option.some.inj (hagent.symm.trans h.agent)
        exact hspares.unended events hevent
      exact .of_core hstate ((h.progress other events).finish hne)
    | @cancel client other hevent hclient hpending hdispatched =>
      have hne : jobId ≠ other := by
        rintro rfl
        exact hspares.cancel client hevent hclient hpending hdispatched h.acknowledged
      exact h.dismiss hne _ _
    | lease hevent hstate => exact .of_core hstate h
    | expire | restore | rollBack => exact h

theorem ended_lasting (config : Config) (jobId : String) :
    Lasting config (fun state => Ended state jobId) FreshName where
  core hcore h := (ended_of_core hcore).2 h
  recovery _ _ h := h
  change h hfresh hchange := ended_change hfresh hchange h

/-! ### Reports that are accepted -/

variable {config : Config} {env : Env} {runtime : Runtime} {peerId jobId : String}
  {events : List NetworkEvent} {answer : Response}

omit [Sha256] in
theorem pending_of_restored {state : DurableState} {leases : LeaseBook} {orders : Orders} {nowMs : ℕ}
    {restored : Bool}
    (h : (restoreAcknowledgedWriter state leases orders nowMs jobId).1 = .ok restored) :
    (state.applePending.lookup jobId).isSome := by
  unfold restoreAcknowledgedWriter at h
  split at h
  · cases h
  · rename_i operation hpending
    rw [hpending]
    rfl

omit [Sha256] in
theorem progressOngoing_accepted (h : (progressOngoing env jobId events runtime).2 = some answer)
    (haccepted : answer.accepted = true) :
    runtime.state.recoveryError = none ∧ (runtime.state.applePending.lookup jobId).isSome ∧
      (progressOngoing env jobId events runtime).1.state
        = (runtime.state.progress jobId events).acknowledge jobId ∧
      (progressOngoing env jobId events runtime).1.storedState
        = (runtime.state.progress jobId events).acknowledge jobId := by
  unfold progressOngoing at h ⊢
  dsimp only at h ⊢
  have hsame := state_storeLeases { runtime with
    leases := (restoreAcknowledgedWriter runtime.state runtime.leases env.orders env.nowMs jobId).2 } env
  generalize Runtime.storeLeases _ env = stored at h hsame ⊢
  cases hrestored : (restoreAcknowledgedWriter runtime.state runtime.leases env.orders env.nowMs
      jobId).1 with
  | error error =>
    rw [hrestored] at h
    cases h
    cases haccepted
  | ok restored =>
    rw [hrestored] at h
    dsimp only at h ⊢
    split at h
    · cases h
      cases haccepted
    · rename_i hwritten
      rw [if_neg hwritten]
      split at h
      · rename_i hstores
        rw [if_pos hstores]
        have hlands : env.stateWrite.lands = true := by
          rw [hstores.2]
          rfl
        have hrecovery : stored.state.recoveryError = none := hstores.1
        rw [hsame] at hrecovery
        refine ⟨hrecovery, pending_of_restored hrestored, ?_, ?_⟩
        · rw [state_storeState]
          exact congrArg (fun state => (state.progress jobId events).acknowledge jobId) hsame
        · unfold Runtime.storeState
          rw [if_pos ⟨hstores.1, hlands⟩]
          exact congrArg (fun state => (state.progress jobId events).acknowledge jobId) hsame
      · split at h
        · cases h
        · cases h
          cases haccepted

/-- **The start of a job is accepted**: the job waits for its end, and is under way from now on. -/
theorem underway_of_accepted
    (h : (handle config env (.request peerId (.appleProgress jobId events false)) runtime).2
      = some answer) (haccepted : answer.accepted = true) :
    runtime.state.recoveryError = none ∧ (runtime.state.applePending.lookup jobId).isSome ∧
      (handle config env (.request peerId (.appleProgress jobId events false)) runtime).1.Lasts
        (Underway peerId jobId) := by
  rcases handle_request_answer h with ⟨error, rfl⟩ | ⟨hanswer, hafter⟩
  · cases haccepted
  · rw [hafter]
    change (appleProgress env peerId jobId events false runtime).2 = some answer at hanswer
    change _ ∧ _ ∧ (appleProgress env peerId jobId events false runtime).1.Lasts _
    unfold appleProgress at hanswer ⊢
    split at hanswer
    · cases hanswer
      cases haccepted
    · rename_i hagent
      rw [if_neg hagent, if_neg Bool.false_ne_true]
      rw [if_neg Bool.false_ne_true] at hanswer
      rw [not_not] at hagent
      obtain ⟨hrecovery, hpending, hstate, hstored⟩ := progressOngoing_accepted hanswer haccepted
      have hunderway : Underway peerId jobId ((runtime.state.progress jobId events).acknowledge jobId) := by
        refine ⟨?_, hpending, Finset.mem_insert_self _ _, hagent⟩
        change ((Map.insert _ _ _).lookup jobId).isSome
        rw [Map.lookup_insert_self]
        rfl
      exact ⟨hrecovery, hpending, .inr (hstate ▸ hunderway), hstored ▸ hunderway⟩

omit [Sha256] in
theorem progressTerminal_answer (h : (progressTerminal env jobId events runtime).2 = some answer) :
    answer.accepted = false := by
  unfold progressTerminal at h
  dsimp only at h
  split at h
  · cases h
  · cases h
    rfl

theorem not_accepted_of_terminal
    (h : (handle config env (.request peerId (.appleProgress jobId events true)) runtime).2
      = some answer) : answer.accepted = false := by
  rcases handle_request_answer h with ⟨_, rfl⟩ | ⟨hanswer, -⟩
  · rfl
  · change (appleProgress env peerId jobId events true runtime).2 = some answer at hanswer
    unfold appleProgress at hanswer
    split at hanswer
    · cases hanswer
      rfl
    · rw [if_pos rfl] at hanswer
      exact progressTerminal_answer hanswer

/-! ### The thread that keeps the state -/

omit [Sha256] in
theorem holder_storeState (stored : Runtime) (env : Env) :
    (stored.storeState env).holder = stored.holder := by
  unfold Runtime.storeState
  split <;> rfl

omit [Sha256] in
theorem holder_storeLeases (stored : Runtime) (env : Env) :
    (stored.storeLeases env).holder = stored.holder := by
  unfold Runtime.storeLeases
  split <;> rfl

theorem handle_request_fst (config : Config) (env : Env) (peerId : String) (req : Registry.Request)
    (runtime : Runtime) :
    (handle config env (.request peerId req) runtime).1 = runtime ∨
      (handle config env (.request peerId req) runtime).1
        = (request config env peerId runtime req).1 := by
  unfold handle
  split
  · unfold perform
    dsimp only
    split
    · exact .inl rfl
    · split
      · exact .inr rfl
      · split
        · exact .inr rfl
        · exact .inl rfl
  · exact .inl rfl

theorem ended_of_held (hfree : runtime.holder = none)
    (hheld : (handle config env (.request peerId (.appleProgress jobId events true))
      runtime).1.holder.isSome) :
    (handle config env (.request peerId (.appleProgress jobId events true)) runtime).1.Lasts
      fun state => Ended state jobId := by
  rcases handle_request_fst config env peerId (.appleProgress jobId events true) runtime with
    hsame | hsection
  · rw [hsame, hfree] at hheld
    cases hheld
  · rw [hsection] at hheld ⊢
    change (appleProgress env peerId jobId events true runtime).1.holder.isSome at hheld
    change (appleProgress env peerId jobId events true runtime).1.Lasts _
    unfold appleProgress at hheld ⊢
    split at hheld
    · rw [hfree] at hheld
      cases hheld
    · rename_i hagent
      rw [if_neg hagent, if_pos rfl]
      rw [if_pos rfl] at hheld
      unfold progressTerminal at hheld ⊢
      dsimp only at hheld ⊢
      generalize hfinished : Locked.finishWriters _ _ env.nowMs = finished at hheld ⊢
      have hended : Ended (finished.state.finish jobId) jobId := by
        have hcore : (finished.state.finish jobId).core
            = ((runtime.state.progress jobId events).finish jobId).core := by
          rw [← hfinished]
          exact core_finish (Locked.core_finishWriters _ _ _) jobId
        exact (ended_of_core hcore).2 (ended_taken runtime.state jobId events)
      split at hheld
      · rename_i hstores
        rw [if_pos hstores]
        have hlands : env.stateWrite.lands = true := by
          rw [hstores.2]
          rfl
        refine ⟨.inr ?_, ?_⟩
        · change Ended (Runtime.storeState _ env).state jobId
          rw [state_storeState]
          exact hended
        · change Ended (Runtime.storeState _ env).storedState jobId
          unfold Runtime.storeState
          rw [if_pos ⟨hstores.1, hlands⟩]
          exact hended
      · rw [holder_storeState] at hheld
        change runtime.holder.isSome at hheld
        rw [hfree] at hheld
        cases hheld

theorem rollingBack_of_held (hfree : runtime.holder = none)
    (hheld : (handle config env (.request peerId (.appleProgress jobId events false))
      runtime).1.holder.isSome) :
    ∃ other, (handle config env (.request peerId (.appleProgress jobId events false))
      runtime).1.holder = some (.rollingBack other) := by
  have hnone : runtime.holder.isSome = true → False := by
    intro hsome
    rw [hfree] at hsome
    cases hsome
  rcases handle_request_fst config env peerId (.appleProgress jobId events false) runtime with
    hsame | hsection
  · rw [hsame] at hheld
    exact (hnone hheld).elim
  · rw [hsection] at hheld ⊢
    change (appleProgress env peerId jobId events false runtime).1.holder.isSome at hheld
    change ∃ other, (appleProgress env peerId jobId events false runtime).1.holder = _
    unfold appleProgress at hheld ⊢
    split at hheld
    · exact (hnone hheld).elim
    · rename_i hagent
      rw [if_neg hagent, if_neg Bool.false_ne_true]
      rw [if_neg Bool.false_ne_true] at hheld
      unfold progressOngoing at hheld ⊢
      dsimp only at hheld ⊢
      split at hheld
      · rw [holder_storeLeases] at hheld
        exact (hnone hheld).elim
      · split at hheld
        · rw [holder_storeLeases] at hheld
          exact (hnone hheld).elim
        · rename_i hwritten
          rw [if_neg hwritten]
          split at hheld
          · rw [holder_storeState] at hheld
            change (Runtime.storeLeases _ env).holder.isSome at hheld
            rw [holder_storeLeases] at hheld
            exact (hnone hheld).elim
          · rename_i hstores
            rw [if_neg hstores]
            split at hheld
            · rename_i hrestored
              rw [if_pos hrestored]
              exact ⟨jobId, rfl⟩
            · rw [holder_storeState] at hheld
              change (Runtime.storeLeases _ env).holder.isSome at hheld
              rw [holder_storeLeases] at hheld
              exact (hnone hheld).elim

theorem holder_kept {event : Event} {holder : Holder} (h : runtime.holder = some holder)
    (hevent : event ≠ .settle) : (handle config env event runtime).1.holder = some holder := by
  have hperform : (perform config env event runtime).1.holder = some holder := by
    cases event with
    | settle => exact absurd rfl hevent
    | request =>
      unfold perform
      dsimp only
      rw [h, Option.isSome_some, if_pos rfl]
      exact h
    | resume flight =>
      unfold perform
      dsimp only
      split
      · exact h
      · rename_i hflight
        have hneeds : flight.needsState = false := by
          rw [not_or, h] at hflight
          simpa using hflight.2
        cases flight with
        | inventoried host =>
          change (heartbeatExpire env host _).1.holder = _
          unfold heartbeatExpire
          dsimp only
          split
          · exact (holder_storeLeases _ env).trans h
          · exact (holder_storeLeases _ env).trans h
        | expired | registering => exact h
        | online | leased | running => cases hneeds
  unfold handle
  split
  · exact hperform
  · exact h

theorem not_accepted_of_rollingBack {other : String} (h : runtime.holder = some (.rollingBack other))
    (hanswer : (handle config env .settle runtime).2 = some answer) : answer.accepted = false := by
  have hperform : (perform config env .settle runtime).2 = some persistenceFailed := by
    unfold perform
    dsimp only
    rw [h]
    rfl
  unfold handle at hanswer
  split at hanswer
  · rw [hperform] at hanswer
    cases hanswer
    rfl
  · cases hanswer

/-- What the thread that takes a writer back leaves: nothing is kept any more, or nothing is done. -/
theorem settle_rollingBack (config : Config) (env : Env) {other : String}
    (h : runtime.holder = some (.rollingBack other)) :
    (handle config env .settle runtime).1.holder = none ∨ (handle config env .settle runtime).1 = runtime := by
  have hperform : (perform config env .settle runtime).1.holder = none := by
    unfold perform
    dsimp only
    rw [h]
    rfl
  unfold handle
  split
  · exact .inl hperform
  · exact .inr rfl

end

end RemoteApple
