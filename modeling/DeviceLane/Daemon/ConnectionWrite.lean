/-
**Changes of the connection.**

The file of the connection is read, written and read again, and each of the three may fail. What the
daemon makes of it depends on the comparison of what has been read, not on whether the change succeeds:
the change may fail after the file has been replaced.

Main definitions:

* `Daemon.Connected` — the daemon, and what it tells about its connection.

Main results:

* `Daemon.Connected.verified_setConnection` — **no connection is used that has not been read back**.
-/

import DeviceLane.Daemon.Connections
import DeviceLane.Daemon.State

namespace Daemon

open Dashboard Effect

namespace ConnectionWriteObservation

def observed (observation : ConnectionWriteObservation) : Option ConnectionConfig :=
  match observation.after with
  | .ok configuration => configuration
  | .error _ => none

def callbackResult (observation : ConnectionWriteObservation) (target : ConnectionConfig) :
    Except DashboardServiceError Unit :=
  if observation.saved.isOk = true ∧ observation.observed = some target then .ok ()
  else .error .configurationUnavailable

def reconciled (observation : ConnectionWriteObservation) (target : ConnectionConfig) : Reconciled :=
  if observation.observed = some target ∧
      (observation.saved.isOk = true ∨ observation.after ≠ observation.before) then
    .activated
  else if observation.saved.isOk = false ∧ observation.after.isOk = true ∧
      observation.after = observation.before then
    .kept
  else .dropped

/-- What the request meets: what comes of writing the file is taken from the observation. -/
def met (observation : ConnectionWriteObservation) (target : ConnectionConfig) (c : Circumstances) :
    Circumstances :=
  { c with
    persisted := observation.callbackResult target
    reconciled := observation.reconciled target }

end ConnectionWriteObservation

def connectionConfigurationInvalid : String := "connection_configuration_invalid"

/-- The daemon with its connection, its warnings and the codes of its diagnostics. -/
structure Connected where
  daemon : DaemonState
  connection : ConnectionState
  warnings : List String
  diagnostics : List String

namespace Connected

def tell (reconciled : Reconciled) (d : Connected) : Connected :=
  match reconciled with
  | .activated =>
    { d with
      warnings := d.warnings.filter (· ≠ connectionConfigurationInvalid)
      diagnostics := d.diagnostics.filter (· ≠ connectionConfigurationInvalid) }
  | .kept => d
  | .dropped =>
    { d with
      connection := .degraded
      warnings :=
        if connectionConfigurationInvalid ∈ d.warnings then d.warnings
        else d.warnings ++ [connectionConfigurationInvalid] }

variable [Sha256]

structure Changed where
  answer : Except (Fault LocalProtocolError) LocalResponse
  daemon : Connected
  observed : Option ConnectionWriteObservation

/-- A change of the connection, given what reading and writing the file gives where it comes to that. -/
def setConnection (configuration : ConnectionConfig) (observation : ConnectionWriteObservation)
    (c : Circumstances) (d : Connected) : Changed :=
  let result := (DaemonState.setConnection configuration (observation.met configuration c)).exec d.daemon
  if d.daemon.hasConnectionStorage = true ∧
      DaemonState.reachesFile configuration c.nowMs d.daemon.dashboard = true then
    { answer := result.1
      daemon := { d with daemon := result.2 }.tell (observation.reconciled configuration)
      observed := some observation }
  else
    { answer := result.1
      daemon := { d with daemon := result.2 }
      observed := none }

variable {configuration : ConnectionConfig} {observation : ConnectionWriteObservation}
  {c : Circumstances} {d : DaemonState}

/-! ### The change of the service -/

theorem written_of_applied {persisted : Except DashboardServiceError Unit} {nowMs : ℕ}
    {s s' : DashboardService}
    (h : (DashboardService.applyConnectionChange configuration persisted nowMs).exec s = (.ok (), s')) :
    DaemonState.reachesFile configuration nowMs s = true ∧ persisted = .ok () := by
  unfold DashboardService.applyConnectionChange at h
  obtain ⟨_, _, hdigest, h⟩ := exec_bind_inv h
  obtain ⟨_, _, hadmin, h⟩ := exec_bind_inv h
  obtain ⟨_, s₃, haudit, h⟩ := exec_bind_inv h
  have hbefore : (DaemonState.beforeConnectionWrite configuration nowMs).exec s = (.ok (), s₃) :=
    exec_bind_of hdigest (exec_bind_of hadmin haudit)
  refine ⟨by rw [DaemonState.reachesFile, hbefore]; rfl, ?_⟩
  cases persisted with
  | ok => rfl
  | error =>
    obtain ⟨_, _, -, h⟩ := exec_bind_inv h
    cases h

def applied (configuration : ConnectionConfig) (c : Circumstances) (d : DaemonState) :
    Except (Fault LocalProtocolError) Unit × DaemonState :=
  (DaemonState.onDashboard
    (DashboardService.applyConnectionChange configuration c.persisted c.nowMs)).exec d

theorem applied_snd (configuration : ConnectionConfig) (c : Circumstances) (d : DaemonState) :
    ∃ dashboard, (applied configuration c d).2 = { d with dashboard } :=
  ⟨_, rfl⟩

theorem written_of_applied_ok (h : (applied configuration c d).1 = .ok ()) :
    DaemonState.reachesFile configuration c.nowMs d.dashboard = true ∧ c.persisted = .ok () := by
  have hexec : applied configuration c d = (.ok (), (applied configuration c d).2) := by rw [← h]
  obtain ⟨_, hok, -⟩ := exec_onPart_inv hexec
  exact written_of_applied hok

def Tries (configuration : ConnectionConfig) (c : Circumstances) (d : DaemonState) : Prop :=
  d.hasConnectionStorage = true ∧
    DaemonState.reachesFile configuration c.nowMs d.dashboard = true

def remoteAfter (configuration : ConnectionConfig) (d : DaemonState) :
    Reconciled → Option RemoteExecutionConfig
  | .activated =>
    some ⟨configuration.registryAddress, configuration.registryPeerId, d.publicIdentity⟩
  | .kept => d.remoteExecution
  | .dropped => none

/-- The request that comes to the file: it is acknowledged only if the file has been verified, and the
connection is what the reconciliation leaves. -/
theorem setConnection_of_tries (h : Tries configuration c d) :
    (((DaemonState.setConnection configuration c).exec d).1 = .ok .acknowledged →
      c.persisted = .ok ()) ∧
    ((DaemonState.setConnection configuration c).exec d).2.remoteExecution
      = remoteAfter configuration d c.reconciled := by
  rw [DaemonState.setConnection, exec_bind_ok (exec_get d), exec_throwIf_bind,
    if_neg (by simp [h.1]), exec_bind_ok (exec_attempt _ d),
    exec_bind_ok ((exec_onlyIf_of h.2 _ _).trans (exec_modify _ _)), ← applied]
  obtain ⟨_, hdaemon⟩ := applied_snd configuration c d
  rw [hdaemon]
  cases happlied : (applied configuration c d).1 with
  | ok =>
    refine ⟨fun _ => (written_of_applied_ok happlied).2, ?_⟩
    cases c.reconciled <;> rfl
  | error =>
    refine ⟨nofun, ?_⟩
    cases c.reconciled <;> rfl

theorem setConnection_of_not_tries (h : ¬Tries configuration c d) :
    ((DaemonState.setConnection configuration c).exec d).1 ≠ .ok .acknowledged ∧
    ((DaemonState.setConnection configuration c).exec d).2.remoteExecution = d.remoteExecution := by
  rw [DaemonState.setConnection, exec_bind_ok (exec_get d), exec_throwIf_bind]
  split_ifs with hstorage
  · exact ⟨nofun, rfl⟩
  · have hreaches : ¬DaemonState.reachesFile configuration c.nowMs d.dashboard = true :=
      fun hreaches => h ⟨by simpa using hstorage, hreaches⟩
    rw [exec_bind_ok (exec_attempt _ d), exec_bind_ok (exec_onlyIf_of_not hreaches _ _), ← applied]
    obtain ⟨_, hdaemon⟩ := applied_snd configuration c d
    rw [hdaemon]
    cases happlied : (applied configuration c d).1 with
    | ok => exact absurd (written_of_applied_ok happlied).1 hreaches
    | error => exact ⟨nofun, rfl⟩

/-! ### What is left -/

/-- What a change of the connection leaves: the connection as it was, and the file too; or the target,
which has been read back; or none, and the daemon says that it is degraded. It is acknowledged only in
the second case. -/
structure Verified (target : ConnectionConfig) (d : Connected) (changed : Changed) : Prop where
  remoteExecution :
    (changed.daemon.daemon.remoteExecution = d.daemon.remoteExecution ∧
      ∀ observation ∈ changed.observed, observation.after = observation.before ∧
        observation.after.isOk = true) ∨
    (changed.daemon.daemon.remoteExecution
        = some ⟨target.registryAddress, target.registryPeerId, d.daemon.publicIdentity⟩ ∧
      ∃ observation ∈ changed.observed, observation.after = .ok (some target)) ∨
    (changed.daemon.daemon.remoteExecution = none ∧ changed.daemon.connection = .degraded)
  acknowledged : changed.answer = .ok .acknowledged →
    changed.daemon.daemon.remoteExecution
        = some ⟨target.registryAddress, target.registryPeerId, d.daemon.publicIdentity⟩ ∧
      ∃ observation ∈ changed.observed, observation.after = .ok (some target)

section

omit [Sha256]

theorem after_of_observed (h : observation.observed = some configuration) :
    observation.after = .ok (some configuration) := by
  rw [ConnectionWriteObservation.observed] at h
  cases hafter : observation.after with
  | error =>
    rw [hafter] at h
    cases h
  | ok =>
    rw [hafter] at h
    exact congrArg Except.ok h

theorem after_of_activated (h : observation.reconciled configuration = .activated) :
    observation.after = .ok (some configuration) := by
  rw [ConnectionWriteObservation.reconciled] at h
  split_ifs at h with hobserved
  exact after_of_observed hobserved.1

theorem same_of_kept (h : observation.reconciled configuration = .kept) :
    observation.after = observation.before ∧ observation.after.isOk = true := by
  rw [ConnectionWriteObservation.reconciled] at h
  split_ifs at h with hobserved hsame
  exact ⟨hsame.2.2, hsame.2.1⟩

@[simp] theorem tell_daemon (reconciled : Reconciled) (d : Connected) :
    (d.tell reconciled).daemon = d.daemon := by
  cases reconciled <;> rfl

end

/-- **No connection is used that has not been read back**, whatever reading and writing the file gives,
and wherever the change fails. -/
theorem verified_setConnection (target : ConnectionConfig) (observation : ConnectionWriteObservation)
    (c : Circumstances) (d : Connected) :
    Verified target d (setConnection target observation c d) := by
  rw [setConnection]
  by_cases htries : d.daemon.hasConnectionStorage = true ∧
      DaemonState.reachesFile target c.nowMs d.daemon.dashboard = true
  · -- The file has been tried: the observation decides.
    obtain ⟨hanswer, hremote⟩ :=
      @setConnection_of_tries _ target (observation.met target c) d.daemon htries
    rw [if_pos htries]
    have hverified : observation.callbackResult target = .ok () →
        observation.reconciled target = .activated ∧ observation.after = .ok (some target) := by
      intro h
      rw [ConnectionWriteObservation.callbackResult] at h
      split_ifs at h with hsaved
      exact ⟨if_pos ⟨hsaved.2, .inl hsaved.1⟩, after_of_observed hsaved.2⟩
    have hafter : ∀ told,
        (tell told { d with daemon := ((DaemonState.setConnection target
          (observation.met target c)).exec d.daemon).2 }).daemon.remoteExecution
            = remoteAfter target d.daemon (observation.reconciled target) := by
      intro told
      rw [tell_daemon]
      exact hremote
    refine ⟨?_, fun hok => ?_⟩
    · cases hreconciled : observation.reconciled target with
      | activated =>
        rw [hreconciled] at hafter
        exact .inr (.inl ⟨hafter _, observation, rfl, after_of_activated hreconciled⟩)
      | kept =>
        rw [hreconciled] at hafter
        refine .inl ⟨hafter _, fun other hother => ?_⟩
        cases hother
        exact same_of_kept hreconciled
      | dropped =>
        rw [hreconciled] at hafter
        exact .inr (.inr ⟨hafter _, rfl⟩)
    · obtain ⟨hactivated, hread⟩ := hverified (hanswer hok)
      rw [hactivated] at hafter
      exact ⟨hafter _, observation, rfl, hread⟩
  · -- The change has been refused before: nothing has been touched.
    obtain ⟨hanswer, hremote⟩ :=
      @setConnection_of_not_tries _ target (observation.met target c) d.daemon htries
    rw [if_neg htries]
    exact ⟨.inl ⟨hremote, nofun⟩, fun hok => absurd hok hanswer⟩

end Connected

end Daemon
