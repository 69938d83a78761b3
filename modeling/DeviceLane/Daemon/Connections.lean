/-
**What the daemon is connected to.**

The daemon polls the inventory of the registry, and the workers of executions tell it that they have
reached the controller. Both read the configuration, give up the lock of the daemon while they wait for
an answer, and come back with it; in between the configuration may be replaced or dropped. Every
configuration has a generation, an object of which whoever waits keeps a reference, so that its address
cannot be given to another one.

Main definitions:

* `Daemon.ConnectionView` — what the daemon holds about its connection.

Main results:

* `Daemon.Observers.faithful_of_run` — **so it is in every state of every run**.
-/

import DeviceLane.Daemon.Protocol
import DeviceLane.Registry.Supervision

namespace Daemon

open Dashboard Effect

/-! ### The view of the connection -/

inductive ConnectionState
  | disconnected
  | connecting
  | connected
  | degraded
  deriving DecidableEq, Repr

structure DiagnosticItem where
  code : String
  message : String
  healthy : Bool
  deriving DecidableEq

structure ActiveConfig extends RemoteExecutionConfig where
  identityPath : String
  deriving DecidableEq, Repr

/-- The address of an object. -/
abbrev Address : Type := ℕ

structure ConnectionView where
  publicIdentity : String
  connection : ConnectionState
  warnings : List String
  diagnostics : List DiagnosticItem
  topology : Option TopologyProjector
  remoteExecution : Option ActiveConfig
  generation : Address
  deriving DecidableEq

inductive ConnectionConfigError
  | invalidFile
  | unavailable
  | tooLarge
  | invalidFormat
  | unsupportedVersion
  | invalidEndpoint
  | invalidPeer
  deriving DecidableEq, Repr

/-- What is on the disk before and after a configuration is saved. -/
structure ConnectionWriteObservation where
  before : Except ConnectionConfigError (Option ConnectionConfig)
  saved : Except ConnectionConfigError Unit
  after : Except ConnectionConfigError (Option ConnectionConfig)
  deriving DecidableEq

/-! ### What is observed of the registry -/

def observeAuthenticatedController (controllerId : String) (observedAtMs : ℕ) : TopologyEff Unit := do
  TopologyProjector.connectRegistry controllerId (max observedAtMs 1) true
  TopologyProjector.observeController controllerId observedAtMs

def rowOfHost (snapshot : HostSnapshot) : RegistryHost :=
  { snapshot
    displayName := snapshot.id
    trust := .trusted
    connectionPath := .registry
    permissions := []
    devices := [] }

def observeAuthenticatedInventory (registryId : String) (observedAtMs : ℕ)
    (hosts : List HostSnapshot) : TopologyEff Unit :=
  let program : TopologyEff Unit := do
    TopologyProjector.connectRegistry registryId (max observedAtMs 1) true
    TopologyProjector.observeController registryId observedAtMs
    TopologyProjector.observeRegistry (max observedAtMs 1) observedAtMs true (hosts.map rowOfHost)
  ofRun fun topology =>
    match program.exec topology with
    | (.ok u, observed) => (.ok u, observed)
    | (.error error, _) => (.error error, topology)

def disconnectInventory (detectedAtMs : ℕ) (topology : TopologyProjector) : TopologyProjector :=
  ((TopologyProjector.disconnectRegistry detectedAtMs).exec topology).2

namespace ConnectionView

def disconnectDashboard (nowMs : ℕ) (view : ConnectionView) : ConnectionView :=
  { view with topology := view.topology.map (disconnectInventory nowMs) }

def invalidateInventoryGeneration (address : Address) (nowMs : ℕ) (view : ConnectionView) :
    ConnectionView :=
  { ({ view with generation := address } : ConnectionView).disconnectDashboard nowMs with
    connection := .connecting }

def enableRemoteExecution (config : ActiveConfig) (address : Address) (nowMs : ℕ)
    (view : ConnectionView) : ConnectionView :=
  { view.invalidateInventoryGeneration address nowMs with remoteExecution := some config }

def warn (warning : String) (warnings : List String) : List String :=
  if warning ∈ warnings then warnings else warnings ++ [warning]

def reconcileConnectionWrite (target : ConnectionConfig) (identity : String)
    (observation : ConnectionWriteObservation) (address : Address) (nowMs : ℕ)
    (view : ConnectionView) : ConnectionView :=
  if observation.after = .ok (some target) ∧
      (observation.saved = .ok () ∨ observation.after ≠ observation.before) then
    let view := view.enableRemoteExecution
      ⟨⟨target.registryAddress, target.registryPeerId, view.publicIdentity⟩, identity⟩ address nowMs
    { view with
      warnings := view.warnings.filter (· ≠ "connection_configuration_invalid")
      diagnostics := view.diagnostics.filter (·.code ≠ "connection_configuration_invalid") }
  else if observation.saved ≠ .ok () ∧ observation.after.isOk ∧
      observation.after = observation.before then
    view
  else
    { view.invalidateInventoryGeneration address nowMs with
      remoteExecution := none
      connection := .degraded
      warnings := warn "connection_configuration_invalid" view.warnings }

def refreshRegistryStatus (status : Registry.RegistryRuntimeState) (view : ConnectionView) :
    ConnectionView :=
  let degrade := fun (code message : String) =>
    { view with
      connection := .degraded
      warnings := warn code view.warnings
      diagnostics :=
        let others := view.diagnostics.filter (·.code ≠ "ready")
        if others.any (·.code = code) then others else others ++ [⟨code, message, false⟩] }
  match status with
  | .running => view
  | .stopped => degrade "registry_listener_stopped" "The controller has stopped."
  | .failed code =>
    degrade code "The controller failed. Restart the daemon after checking its logs."

def observeJobController (generation : Address) (peerId : String) (nowMs : ℕ) (view : ConnectionView) :
    ConnectionView :=
  if generation ≠ view.generation then
    view
  else
    match view.topology with
    | none => view
    | some topology =>
      match (observeAuthenticatedController peerId nowMs).exec topology with
      | (.ok _, observed) => { view with topology := some observed, connection := .connected }
      | (.error _, observed) => { view with topology := some observed }

/-- The topology after the answer to a poll, if it is to be relied on. An answer that accepts the
request brings the hosts of the inventory. -/
def inventoryOf (config : ActiveConfig) (answer : Option (List HostSnapshot)) (nowMs : ℕ)
    (view : ConnectionView) : Option TopologyProjector := do
  let topology ← view.topology
  let hosts ← answer
  match (observeAuthenticatedInventory config.registryPeerId nowMs hosts).exec topology with
  | (.ok _, observed) => some observed
  | (.error _, _) => none

def reaches (peerId : String) (nowMs : ℕ) (view : ConnectionView) : Bool :=
  view.topology.any fun topology =>
    ((observeAuthenticatedController peerId nowMs).exec topology).1.isOk

def finishPoll (generation : Address) (config : ActiveConfig) (answer : Option (List HostSnapshot))
    (nowMs : ℕ) (view : ConnectionView) : ConnectionView :=
  if generation ≠ view.generation then
    view
  else
    match view.inventoryOf config answer nowMs with
    | some observed => { view with topology := some observed, connection := .connected }
    | none => { view.disconnectDashboard nowMs with connection := .disconnected }

end ConnectionView

/-! ### Who waits for answers -/

/-- Who waits for an answer: the configuration it has read, the reference it keeps to its generation,
and how many generations there had been. -/
structure Observer where
  config : ActiveConfig
  generation : Address
  since : ℕ
  deriving DecidableEq

/-- The daemon, the polls and the workers. For the statements alone it is counted how often the
generation has been replaced, and kept which configuration was observed when the daemon last became
connected, and when. -/
structure Observers where
  view : ConnectionView
  polls : List Observer
  jobs : List Observer
  epoch : ℕ
  observed : Option (ActiveConfig × ℕ)
  deriving DecidableEq

/-- What happens next, each under the lock of the daemon. -/
inductive ConnectionEvent
  | beginPoll
  | endPoll (i : ℕ) (answer : Option (List HostSnapshot)) (nowMs : ℕ)
  | startJob
  | observeJob (i : ℕ) (nowMs : ℕ)
  | endJob (i : ℕ)
  | enableRemoteExecution (config : ActiveConfig) (address : Address) (nowMs : ℕ)
  | reconcileConnectionWrite (target : ConnectionConfig) (identity : String)
      (observation : ConnectionWriteObservation) (address : Address) (nowMs : ℕ)
  | refreshRegistryStatus (status : Registry.RegistryRuntimeState)

namespace Observers

/-- The daemon as the service starts it, for a dashboard with any topology. -/
def started (publicIdentity : String) (warnings : List String) (diagnostics : List DiagnosticItem)
    (topology : Option TopologyProjector) (generation : Address) : Observers :=
  { view :=
      { publicIdentity
        connection := .disconnected
        warnings
        diagnostics
        topology
        remoteExecution := none
        generation }
    polls := []
    jobs := []
    epoch := 0
    observed := none }

def observer (s : Observers) : Option Observer :=
  s.view.remoteExecution.map fun config => ⟨config, s.view.generation, s.epoch⟩

def waiting (s : Observers) : List Observer := s.polls ++ s.jobs

def live (s : Observers) : List Address := s.view.generation :: s.waiting.map Observer.generation

def replace (view : ConnectionView) (s : Observers) : Observers :=
  { s with
    view
    epoch := if view.generation = s.view.generation then s.epoch else s.epoch + 1 }

def step (s : Observers) : ConnectionEvent → Observers
  | .beginPoll => { s with polls := s.polls ++ s.observer.toList }
  | .endPoll i answer nowMs =>
    match s.polls[i]? with
    | none => s
    | some o =>
      { s with
        view := s.view.finishPoll o.generation o.config answer nowMs
        polls := s.polls.eraseIdx i }
  | .startJob => { s with jobs := s.jobs ++ s.observer.toList }
  | .observeJob i nowMs =>
    match s.jobs[i]? with
    | none => s
    | some o =>
      { s with view := s.view.observeJobController o.generation o.config.registryPeerId nowMs }
  | .endJob i => { s with jobs := s.jobs.eraseIdx i }
  | .enableRemoteExecution config address nowMs =>
    s.replace (s.view.enableRemoteExecution config address nowMs)
  | .reconcileConnectionWrite target identity observation address nowMs =>
    s.replace (s.view.reconcileConnectionWrite target identity observation address nowMs)
  | .refreshRegistryStatus status => { s with view := s.view.refreshRegistryStatus status }

def success (s : Observers) : ConnectionEvent → Option ActiveConfig
  | .endPoll i answer nowMs => do
      let o ← s.polls[i]?
      if o.generation = s.view.generation ∧ (s.view.inventoryOf o.config answer nowMs).isSome then
        some o.config
      else
        none
  | .observeJob i nowMs => do
      let o ← s.jobs[i]?
      if o.generation = s.view.generation ∧ s.view.reaches o.config.registryPeerId nowMs then
        some o.config
      else
        none
  | _ => none

def next (s : Observers) (event : ConnectionEvent) : Observers :=
  { s.step event with
    observed :=
      match s.success event with
      | some config => some (config, s.epoch)
      | none => s.observed }

/-- A new object does not get the address of one to which a reference is kept. -/
def Allocates (s : Observers) : ConnectionEvent → Prop
  | .enableRemoteExecution _ address _ | .reconcileConnectionWrite _ _ _ address _ =>
    address ∉ s.live
  | _ => True

/-- Polls and workers that began under an earlier generation do not change the view, and where the daemon
says that it is connected, it has last been observed so over the configuration that is active. -/
structure Faithful (s : Observers) : Prop where
  polls : ∀ i o answer nowMs, s.polls[i]? = some o → o.since ≠ s.epoch →
    (s.next (.endPoll i answer nowMs)).view = s.view
  jobs : ∀ i o nowMs, s.jobs[i]? = some o → o.since ≠ s.epoch →
    (s.next (.observeJob i nowMs)).view = s.view
  connected : s.view.connection = .connected →
    ∃ config, s.observed = some (config, s.epoch) ∧ s.view.remoteExecution = some config

end Observers

/-! ### What the operations leave alone -/

namespace ConnectionView

variable {view : ConnectionView}

variable {generation : Address}

theorem finishPoll_of_ne (h : generation ≠ view.generation) (config : ActiveConfig)
    (answer : Option (List HostSnapshot)) (nowMs : ℕ) :
    view.finishPoll generation config answer nowMs = view := if_pos h

theorem observeJobController_of_ne (h : generation ≠ view.generation) (peerId : String) (nowMs : ℕ) :
    view.observeJobController generation peerId nowMs = view :=
  if_pos h

def SameConfig (view view' : ConnectionView) : Prop :=
  view'.generation = view.generation ∧ view'.remoteExecution = view.remoteExecution

theorem sameConfig_finishPoll (generation : Address) (config : ActiveConfig)
    (answer : Option (List HostSnapshot)) (nowMs : ℕ) :
    view.SameConfig (view.finishPoll generation config answer nowMs) := by
  unfold finishPoll
  split
  · exact ⟨rfl, rfl⟩
  · split <;> exact ⟨rfl, rfl⟩

theorem sameConfig_observeJobController (generation : Address) (peerId : String) (nowMs : ℕ) :
    view.SameConfig (view.observeJobController generation peerId nowMs) := by
  unfold observeJobController
  split
  · exact ⟨rfl, rfl⟩
  · split
    · exact ⟨rfl, rfl⟩
    · split <;> exact ⟨rfl, rfl⟩

theorem sameConfig_refreshRegistryStatus (status : Registry.RegistryRuntimeState) :
    view.SameConfig (view.refreshRegistryStatus status) := by
  cases status <;> exact ⟨rfl, rfl⟩

theorem connected_finishPoll {config : ActiveConfig} {answer : Option (List HostSnapshot)} {nowMs : ℕ}
    (h : (view.finishPoll generation config answer nowMs).connection = .connected) :
    (generation = view.generation ∧ (view.inventoryOf config answer nowMs).isSome) ∨
      (generation ≠ view.generation ∧ view.connection = .connected) := by
  by_cases hcurrent : generation = view.generation
  · left
    refine ⟨hcurrent, ?_⟩
    rw [finishPoll, if_neg (not_not_intro hcurrent)] at h
    cases hobserved : view.inventoryOf config answer nowMs with
    | none => simp [hobserved] at h
    | some => rfl
  · rw [finishPoll_of_ne hcurrent] at h
    exact .inr ⟨hcurrent, h⟩

theorem connected_observeJobController {peerId : String} {nowMs : ℕ}
    (h : (view.observeJobController generation peerId nowMs).connection = .connected) :
    (generation = view.generation ∧ view.reaches peerId nowMs) ∨
      (¬(generation = view.generation ∧ view.reaches peerId nowMs) ∧ view.connection = .connected) := by
  by_cases hsuccess : generation = view.generation ∧ view.reaches peerId nowMs
  · exact .inl hsuccess
  · refine .inr ⟨hsuccess, ?_⟩
    unfold observeJobController at h
    split at h
    · exact h
    · rename_i hcurrent
      split at h
      · exact h
      · rename_i topology htopology
        split at h
        · rename_i u observed hexec
          refine absurd ⟨not_not.1 hcurrent, ?_⟩ hsuccess
          simp [reaches, htopology, hexec, Except.isOk, Except.toBool]
        · exact h

theorem connected_refreshRegistryStatus {status : Registry.RegistryRuntimeState}
    (h : (view.refreshRegistryStatus status).connection = .connected) :
    view.connection = .connected := by
  cases status with
  | running => exact h
  | stopped | failed => cases h

theorem reconcileConnectionWrite_cases (target : ConnectionConfig) (identity : String)
    (observation : ConnectionWriteObservation) (address : Address) (nowMs : ℕ) :
    let view' := view.reconcileConnectionWrite target identity observation address nowMs
    view' = view ∨ (view'.generation = address ∧ view'.connection ≠ .connected) := by
  dsimp only
  unfold reconcileConnectionWrite
  split
  · exact .inr ⟨rfl, ConnectionState.noConfusion⟩
  split
  · exact .inl rfl
  · exact .inr ⟨rfl, ConnectionState.noConfusion⟩

end ConnectionView

/-! ### Who waits with the current generation -/

namespace Observers

variable {i : ℕ} {o : Observer}

/-- Who waits began in no later generation than the current one, and waits for the active configuration
exactly if it still holds the current generation. -/
structure Sound (s : Observers) : Prop where
  since_le : ∀ o ∈ s.waiting, o.since ≤ s.epoch
  current : ∀ o ∈ s.waiting, o.generation = s.view.generation → o.since = s.epoch
  active : ∀ o ∈ s.waiting, o.since = s.epoch → s.view.remoteExecution = some o.config
  connected : s.view.connection = .connected →
    ∃ config, s.observed = some (config, s.epoch) ∧ s.view.remoteExecution = some config

theorem sound_started (publicIdentity : String) (warnings : List String)
    (diagnostics : List DiagnosticItem) (topology : Option TopologyProjector) (generation : Address) :
    (started publicIdentity warnings diagnostics topology generation).Sound where
  since_le _ ho := (List.not_mem_nil ho).elim
  current _ ho := (List.not_mem_nil ho).elim
  active _ ho := (List.not_mem_nil ho).elim
  connected h := ConnectionState.noConfusion h

variable {s : Observers}

theorem mem_polls (h : s.polls[i]? = some o) : o ∈ s.waiting :=
  List.mem_append_left _ (List.mem_of_getElem? h)

theorem mem_jobs (h : s.jobs[i]? = some o) : o ∈ s.waiting :=
  List.mem_append_right _ (List.mem_of_getElem? h)

def Joins (s : Observers) (o : Observer) : Prop := o ∈ s.waiting ∨ s.observer = some o

theorem observer_spec (h : s.observer = some o) :
    o.since = s.epoch ∧ s.view.remoteExecution = some o.config := by
  obtain ⟨_, hconfig, rfl⟩ := Option.map_eq_some_iff.1 h
  exact ⟨rfl, hconfig⟩

theorem Sound.keep (h : s.Sound) {s' : Observers} (hepoch : s'.epoch = s.epoch)
    (hsame : s.view.SameConfig s'.view) (hwaiting : ∀ o ∈ s'.waiting, s.Joins o)
    (hconnected : s'.view.connection = .connected →
      ∃ config, s'.observed = some (config, s.epoch) ∧ s.view.remoteExecution = some config) :
    s'.Sound where
  since_le o ho := by
    rw [hepoch]
    rcases hwaiting o ho with hold | hnew
    · exact h.since_le o hold
    · exact (observer_spec hnew).1.le
  current o ho hgeneration := by
    rw [hepoch]
    rcases hwaiting o ho with hold | hnew
    · exact h.current o hold (hgeneration.trans hsame.1)
    · exact (observer_spec hnew).1
  active o ho hsince := by
    rw [hsame.2]
    rcases hwaiting o ho with hold | hnew
    · exact h.active o hold (hsince.trans hepoch)
    · exact (observer_spec hnew).2
  connected hnow := by
    rw [hepoch, hsame.2]
    exact hconnected hnow

theorem Sound.replace (h : s.Sound) {view : ConnectionView} (hfresh : view.generation ∉ s.live)
    (hconnected : view.connection ≠ .connected) : (s.replace view).Sound := by
  obtain ⟨hne, hnone⟩ := not_or.1 (mt List.mem_cons.2 hfresh)
  have hepoch : (s.replace view).epoch = s.epoch + 1 := if_neg hne
  refine ⟨fun o ho => ?_, fun o ho hgeneration => ?_, fun o ho hsince => ?_,
    fun hnow => absurd hnow hconnected⟩
  · exact hepoch ▸ (h.since_le o ho).trans (Nat.le_succ _)
  · exact absurd (hgeneration ▸ List.mem_map_of_mem ho) hnone
  · have hle := h.since_le o ho
    rw [hepoch] at hsince
    omega

/-! ### One step, and all -/

theorem joins_of_mem {s' : Observers} (hpolls : ∀ o ∈ s'.polls, o ∈ s.polls ∨ s.observer = some o)
    (hjobs : ∀ o ∈ s'.jobs, o ∈ s.jobs ∨ s.observer = some o) : ∀ o ∈ s'.waiting, s.Joins o := by
  intro o ho
  rcases List.mem_append.1 ho with hpoll | hjob
  · exact (hpolls o hpoll).imp_left (List.mem_append_left _)
  · exact (hjobs o hjob).imp_left (List.mem_append_right _)

theorem mem_append_observer {l : List Observer} :
    ∀ o ∈ l ++ s.observer.toList, o ∈ l ∨ s.observer = some o := by
  intro o ho
  exact (List.mem_append.1 ho).imp_right fun h => Option.mem_toList.1 h

theorem Sound.observed_of {event : ConnectionEvent} (h : s.Sound)
    (hsuccess : ∀ config, s.success event = some config → s.view.remoteExecution = some config)
    (hkept : s.success event = none → s.view.connection = .connected) :
    ∃ config, (s.next event).observed = some (config, s.epoch) ∧
      s.view.remoteExecution = some config := by
  cases hevent : s.success event with
  | some config => exact ⟨config, by simp only [next, hevent], hsuccess config hevent⟩
  | none =>
    obtain ⟨config, hobserved, hconfig⟩ := h.connected (hkept hevent)
    exact ⟨config, by simp only [next, hevent, hobserved], hconfig⟩

theorem success_endPoll (h : s.polls[i]? = some o) (answer : Option (List HostSnapshot)) (nowMs : ℕ) :
    s.success (.endPoll i answer nowMs) =
      if o.generation = s.view.generation ∧ (s.view.inventoryOf o.config answer nowMs).isSome then
        some o.config
      else
        none := by
  simp only [success, h, Option.bind_eq_bind, Option.bind_some]

theorem success_observeJob (h : s.jobs[i]? = some o) (nowMs : ℕ) :
    s.success (.observeJob i nowMs) =
      if o.generation = s.view.generation ∧ s.view.reaches o.config.registryPeerId nowMs then
        some o.config
      else
        none := by
  simp only [success, h, Option.bind_eq_bind, Option.bind_some]

theorem view_endPoll (h : s.polls[i]? = some o) (answer : Option (List HostSnapshot)) (nowMs : ℕ) :
    (s.next (.endPoll i answer nowMs)).view =
      s.view.finishPoll o.generation o.config answer nowMs := by
  simp only [next, step, h]

theorem view_observeJob (h : s.jobs[i]? = some o) (nowMs : ℕ) :
    (s.next (.observeJob i nowMs)).view =
      s.view.observeJobController o.generation o.config.registryPeerId nowMs := by
  simp only [next, step, h]

theorem Sound.endPoll (h : s.Sound) (i : ℕ) (answer : Option (List HostSnapshot)) (nowMs : ℕ) :
    (s.next (.endPoll i answer nowMs)).Sound := by
  cases ho : s.polls[i]? with
  | none =>
    have hnext : s.next (.endPoll i answer nowMs) = s := by
      simp only [next, step, success, ho, Option.bind_eq_bind, Option.bind_none]
    rwa [hnext]
  | some o =>
    have hpolls : (s.next (.endPoll i answer nowMs)).polls = s.polls.eraseIdx i := by
      simp only [next, step, ho]
    have hjobs : (s.next (.endPoll i answer nowMs)).jobs = s.jobs := by
      simp only [next, step, ho]
    have hepoch : (s.next (.endPoll i answer nowMs)).epoch = s.epoch := by
      simp only [next, step, ho]
    refine h.keep hepoch ?_ (joins_of_mem ?_ ?_) fun hnow => ?_
    · rw [view_endPoll ho]
      exact ConnectionView.sameConfig_finishPoll _ _ _ _
    · rw [hpolls]
      exact fun o' ho' => .inl (List.mem_of_mem_eraseIdx ho')
    · rw [hjobs]
      exact fun o' ho' => .inl ho'
    · rw [view_endPoll ho] at hnow
      refine h.observed_of (fun config hsuccess => ?_) fun hfails => ?_
      · rw [success_endPoll ho, Option.ite_none_right_eq_some] at hsuccess
        obtain ⟨⟨hgeneration, -⟩, hconfig⟩ := hsuccess
        exact (h.active o (mem_polls ho) (h.current o (mem_polls ho) hgeneration)).trans hconfig
      · rw [success_endPoll ho, ite_eq_right_iff] at hfails
        rcases ConnectionView.connected_finishPoll hnow with hdone | ⟨-, hbefore⟩
        · cases hfails hdone
        · exact hbefore

theorem Sound.observeJob (h : s.Sound) (i : ℕ) (nowMs : ℕ) :
    (s.next (.observeJob i nowMs)).Sound := by
  cases ho : s.jobs[i]? with
  | none =>
    have hnext : s.next (.observeJob i nowMs) = s := by
      simp only [next, step, success, ho, Option.bind_eq_bind, Option.bind_none]
    rwa [hnext]
  | some o =>
    have hwaiting : (s.next (.observeJob i nowMs)).waiting = s.waiting := by
      simp only [next, step, ho, waiting]
    have hepoch : (s.next (.observeJob i nowMs)).epoch = s.epoch := by
      simp only [next, step, ho]
    refine h.keep hepoch ?_ (fun o' ho' => .inl (hwaiting ▸ ho')) fun hnow => ?_
    · rw [view_observeJob ho]
      exact ConnectionView.sameConfig_observeJobController _ _ _
    · rw [view_observeJob ho] at hnow
      refine h.observed_of (fun config hsuccess => ?_) fun hfails => ?_
      · rw [success_observeJob ho, Option.ite_none_right_eq_some] at hsuccess
        obtain ⟨⟨hgeneration, -⟩, hconfig⟩ := hsuccess
        exact (h.active o (mem_jobs ho) (h.current o (mem_jobs ho) hgeneration)).trans hconfig
      · rw [success_observeJob ho, ite_eq_right_iff] at hfails
        rcases ConnectionView.connected_observeJobController hnow with hdone | ⟨-, hbefore⟩
        · cases hfails hdone
        · exact hbefore

theorem sound_next (event : ConnectionEvent) (h : s.Sound) (hallocates : s.Allocates event) :
    (s.next event).Sound := by
  cases event with
  | beginPoll =>
    exact h.keep rfl ⟨rfl, rfl⟩ (joins_of_mem mem_append_observer fun o ho => .inl ho) h.connected
  | endPoll i answer nowMs => exact h.endPoll i answer nowMs
  | startJob =>
    exact h.keep rfl ⟨rfl, rfl⟩ (joins_of_mem (fun o ho => .inl ho) mem_append_observer) h.connected
  | observeJob i nowMs => exact h.observeJob i nowMs
  | endJob =>
    refine h.keep rfl ⟨rfl, rfl⟩ (joins_of_mem (fun o ho => .inl ho) fun o ho => ?_) h.connected
    exact .inl (List.mem_of_mem_eraseIdx ho)
  | enableRemoteExecution => exact h.replace hallocates ConnectionState.noConfusion
  | reconcileConnectionWrite target identity observation address nowMs =>
    have hcases := @ConnectionView.reconcileConnectionWrite_cases s.view target identity observation
      address nowMs
    rcases hcases with hsame | ⟨hgeneration, hconnection⟩
    · refine h.keep (if_pos (congrArg _ hsame)) ?_ (fun o ho => .inl ho) fun hnow => ?_
      · exact ⟨congrArg _ hsame, congrArg _ hsame⟩
      · exact h.connected ((congrArg _ hsame).symm.trans hnow)
    · have hfresh : address ∉ s.live := hallocates
      rw [← hgeneration] at hfresh
      exact h.replace hfresh hconnection
  | refreshRegistryStatus status =>
    refine h.keep rfl (ConnectionView.sameConfig_refreshRegistryStatus status) (fun o ho => .inl ho)
      fun hnow => h.connected (ConnectionView.connected_refreshRegistryStatus hnow)

theorem faithful_of_sound (h : s.Sound) : s.Faithful where
  polls i o answer nowMs ho hsince := by
    rw [view_endPoll ho]
    exact ConnectionView.finishPoll_of_ne (mt (h.current o (mem_polls ho)) hsince) _ _ _
  jobs i o nowMs ho hsince := by
    rw [view_observeJob ho]
    exact ConnectionView.observeJobController_of_ne (mt (h.current o (mem_jobs ho)) hsince) _ _
  connected := h.connected

/-- **In every run**, answers to a configuration that is gone change nothing, and the daemon says it is
connected only where the active configuration has been observed. -/
theorem faithful_of_run {publicIdentity : String} {warnings : List String}
    {diagnostics : List DiagnosticItem} {topology : Option TopologyProjector} {generation : Address}
    {events : List ConnectionEvent}
    (h : Runs.AllSteps next Allocates events
      (started publicIdentity warnings diagnostics topology generation)) :
    Runs.Always next Faithful events
      (started publicIdentity warnings diagnostics topology generation) := by
  have hsound : Runs.Always next Sound events
      (started publicIdentity warnings diagnostics topology generation) :=
    h.always (fun s event hs hallocates => sound_next event hs hallocates)
      (sound_started publicIdentity warnings diagnostics topology generation)
  intro before after happend
  exact faithful_of_sound (hsound before after happend)

/-- A daemon is configured, polls the registry, and is given another configuration before the answer
arrives. -/
theorem faithful_reconfigured :
    Runs.Always next Faithful
      [.enableRemoteExecution ⟨⟨"registry.example:7443", "registry", "daemon"⟩, "identity.pem"⟩ 1 1000,
        .beginPoll,
        .enableRemoteExecution ⟨⟨"registry.example:7444", "other", "daemon"⟩, "identity.pem"⟩ 2 2000,
        .endPoll 0 (some []) 3000]
      (started "daemon" [] [] none 0) :=
  faithful_of_run ⟨by unfold Allocates; decide, trivial, by unfold Allocates; decide, trivial, trivial⟩

end Observers

end Daemon
