/-
**The revision of the projector.**

Every call checks what it is given, and that there is a next revision, before it changes anything, and it
counts the revision up once. So a refused call leaves the state as it was, with the one exception of an
inventory that comes without an authenticated session: the registry is dropped before the inventory is
refused. The revision tells states of one projector apart.

Main definitions:

* `Dashboard.TopologyProjector.Stamped` — what may come out of a call.

Main results:

* `Dashboard.TopologyProjector.revision_stamps` — **errors change nothing, and equal revisions are equal
  snapshots**.
-/

import DeviceLane.Dashboard.TopologyMoves

namespace Dashboard

namespace TopologyProjector

open Effect

/-! ### Changes that keep the revision -/

theorem markHostStale_eq (s : TopologyProjector) (hostId : HostId) :
    s.markHostStale hostId =
      { s with
        hosts := (s.markHostStale hostId).hosts
        leases := (s.markHostStale hostId).leases } := by
  unfold markHostStale
  split
  · rfl
  · rfl

theorem markHostsStale_eq (ids : List HostId) (s : TopologyProjector) :
    s.markHostsStale ids =
      { s with
        hosts := (s.markHostsStale ids).hosts
        leases := (s.markHostsStale ids).leases } := by
  induction ids generalizing s with
  | nil => rfl
  | cons id ids ih =>
    change (s.markHostStale id).markHostsStale ids =
      { s with
        hosts := ((s.markHostStale id).markHostsStale ids).hosts
        leases := ((s.markHostStale id).markHostsStale ids).leases }
    calc (s.markHostStale id).markHostsStale ids
        = { s.markHostStale id with
            hosts := ((s.markHostStale id).markHostsStale ids).hosts
            leases := ((s.markHostStale id).markHostsStale ids).leases } := ih _
      _ = { s with
            hosts := ((s.markHostStale id).markHostsStale ids).hosts
            leases := ((s.markHostStale id).markHostsStale ids).leases } := by
        rw [markHostStale_eq s id]

theorem revision_markHostsStale (ids : List HostId) (s : TopologyProjector) :
    (s.markHostsStale ids).revision = s.revision := by
  rw [markHostsStale_eq]

theorem revision_beginEpoch (sessionId : String) (epoch : ℕ) (s : TopologyProjector) :
    (beginEpoch sessionId epoch s).revision = s.revision := by
  unfold beginEpoch
  split
  · exact revision_markHostsStale _ s
  · rfl

/-! ### Stamped outcomes -/

/-- An observation of a registry without an authenticated session. The registry is dropped. -/
def Downgrades (s : TopologyProjector) (call : TopologyCall) : Prop :=
  ∃ sourceRevision observedAtMs authenticated hosts,
    call = .observeRegistry sourceRevision observedAtMs authenticated hosts ∧
      (authenticated = false ∨ s.registryAuthenticated = false)

/-- What may come out of a call: an error and the state as it was, or a state that is the same or of the
next revision. -/
structure Stamped (s : TopologyProjector) (r : Except TopologyError Unit × TopologyProjector) :
    Prop where
  unchanged : ∀ error, r.1 = .error error → r.2 = s
  stamped : r.2 = s ∨ r.2.revision = s.revision + 1

section Programs

variable {s : TopologyProjector}

theorem stamped_self (outcome : Except TopologyError Unit) : Stamped s (outcome, s) :=
  ⟨fun _ _ => rfl, .inl rfl⟩

theorem stamped_orThrow {α : Type} {r : Except TopologyError α} {rest : α → TopologyEff Unit}
    (h : ∀ a, Stamped s ((rest a).exec s)) : Stamped s ((orThrow id r >>= rest).exec s) := by
  rw [exec_orThrow_bind]
  cases r with
  | error => exact stamped_self _
  | ok a => exact h a

theorem stamped_preflight {rest : TopologyEff Unit} (h : Stamped s (rest.exec s)) :
    Stamped s ((preflightRevision >>= fun _ => rest).exec s) := by
  have hexec := exec_preflightRevision s
  rw [failIf] at hexec
  split at hexec
  · rw [exec_bind_error hexec]
    exact stamped_self _
  · rw [exec_bind_ok hexec]
    exact h

theorem stamped_commit {f : TopologyProjector → TopologyProjector}
    (h : (f s).revision = s.revision) :
    Stamped s ((modify f >>= fun _ => commitRevision).exec s) := by
  have hexec : (modify f >>= fun _ => commitRevision : TopologyEff Unit).exec s
      = (.ok (), { f s with revision := (f s).revision + 1 }) := rfl
  rw [hexec, h]
  refine ⟨fun error herror => ?_, .inr rfl⟩
  cases herror

theorem stamped_dropRegistry : Stamped s (dropRegistry.exec s) :=
  stamped_preflight (stamped_commit (revision_markHostsStale _ _))

theorem stamped_connectRegistry (sessionId : String) (epoch : ℕ) (authenticated : Bool) :
    Stamped s ((connectRegistry sessionId epoch authenticated).exec s) := by
  rw [connectRegistry]
  split
  · exact stamped_dropRegistry
  · refine stamped_orThrow fun _ => ?_
    rw [exec_bind_ok (exec_get s)]
    refine stamped_orThrow fun newEpoch => stamped_preflight ?_
    cases newEpoch with
    | false => exact stamped_commit (f := fun s => { s with registryAuthenticated := true }) rfl
    | true =>
      exact stamped_commit
        (f := fun s => { beginEpoch sessionId epoch s with registryAuthenticated := true })
        (revision_beginEpoch sessionId epoch s)

theorem stamped_observeLocal (sourceRevision observedAtMs : ℕ) (snapshot : HostSnapshot) :
    Stamped s ((observeLocal sourceRevision observedAtMs snapshot).exec s) := by
  rw [observeLocal, exec_bind_ok (exec_get s)]
  split
  · exact stamped_self _
  · exact stamped_orThrow fun _ => stamped_orThrow fun _ => stamped_preflight (stamped_commit rfl)

theorem stamped_observeRegistry {authenticated : Bool}
    (h : ¬(authenticated = false ∨ s.registryAuthenticated = false))
    (sourceRevision observedAtMs : ℕ) (hosts : List RegistryHost) :
    Stamped s ((observeRegistry sourceRevision observedAtMs authenticated hosts).exec s) := by
  rw [observeRegistry, exec_bind_ok (exec_get s), if_neg h]
  refine stamped_orThrow fun _ => ?_
  split
  · exact stamped_self _
  · refine stamped_orThrow fun rows => stamped_orThrow fun _ => stamped_preflight ?_
    exact stamped_commit (revision_markHostsStale _ s)

theorem exec_observeRegistry_dropped {authenticated : Bool}
    (h : authenticated = false ∨ s.registryAuthenticated = false)
    (sourceRevision observedAtMs : ℕ) (hosts : List RegistryHost) :
    ((observeRegistry sourceRevision observedAtMs authenticated hosts).exec s).2
      = (dropRegistry.exec s).2 := by
  rw [observeRegistry, exec_bind_ok (exec_get s), if_pos h]
  rcases hexec : dropRegistry.exec s with ⟨outcome, _⟩
  cases outcome with
  | error => rw [exec_bind_error hexec]
  | ok => rw [exec_bind_ok hexec, exec_throwIf]

theorem stamped_observeController (controllerId : String) (observedAtMs : ℕ) :
    Stamped s ((observeController controllerId observedAtMs).exec s) := by
  rw [observeController, exec_bind_ok (exec_get s), exec_throwIf_bind]
  split
  · exact stamped_self _
  · refine stamped_orThrow fun hostId => ?_
    split
    · exact stamped_self _
    · exact stamped_orThrow fun _ => stamped_orThrow fun _ => stamped_preflight (stamped_commit rfl)

theorem stamped_markDisconnected (hostId : HostId) (detectedAtMs : ℕ) :
    Stamped s ((markDisconnected hostId detectedAtMs).exec s) := by
  rw [markDisconnected, exec_bind_ok (exec_get s)]
  split
  · exact stamped_self _
  · exact stamped_preflight (stamped_commit (revision_markHostsStale [hostId] s))

theorem stamped_trackActiveLease (leaseId ownerHostId deviceId : String) :
    Stamped s ((trackActiveLease leaseId ownerHostId deviceId).exec s) := by
  refine stamped_orThrow fun key => stamped_orThrow fun owner => stamped_orThrow fun device => ?_
  rw [exec_bind_ok (exec_get s)]
  dsimp only
  split
  · exact stamped_orThrow fun _ => stamped_preflight (stamped_commit rfl)
  · exact stamped_preflight (stamped_commit rfl)

end Programs

/-- **Every call is stamped**, the downgrade aside. -/
theorem exec_stamped {s : TopologyProjector} {call : TopologyCall} (h : ¬s.Downgrades call) :
    Stamped s (call.program.exec s) := by
  cases call with
  | connectRegistry => exact stamped_connectRegistry _ _ _
  | disconnectRegistry => exact stamped_dropRegistry
  | observeLocal => exact stamped_observeLocal _ _ _
  | observeRegistry =>
    exact stamped_observeRegistry (fun hdropped => h ⟨_, _, _, _, rfl, hdropped⟩) _ _ _
  | observeController => exact stamped_observeController _ _
  | markDisconnected hostId detectedAtMs => exact stamped_markDisconnected _ detectedAtMs
  | trackActiveLease => exact stamped_trackActiveLease _ _ _

theorem next_stamped (s : TopologyProjector) (call : TopologyCall) :
    call.next s = s ∨ (call.next s).revision = s.revision + 1 := by
  by_cases h : s.Downgrades call
  · obtain ⟨sourceRevision, observedAtMs, authenticated, hosts, rfl, hdropped⟩ := h
    have hnext : TopologyCall.next (.observeRegistry sourceRevision observedAtMs authenticated hosts) s
        = (dropRegistry.exec s).2 := exec_observeRegistry_dropped hdropped _ _ _
    rw [hnext]
    exact stamped_dropRegistry.stamped
  · exact (exec_stamped h).stamped

/-! ### Runs -/

theorem runCalls_stamped (calls : List TopologyCall) (s : TopologyProjector) :
    runCalls calls s = s ∨ s.revision < (runCalls calls s).revision := by
  induction calls generalizing s with
  | nil => exact .inl rfl
  | cons call calls ih =>
    change runCalls calls (call.next s) = s ∨ s.revision < (runCalls calls (call.next s)).revision
    rcases next_stamped s call with hsame | hnext
    · rw [hsame]
      exact ih s
    · -- Whatever comes after the step does not take the revision back.
      right
      rcases ih (call.next s) with hrest | hrest
      · rw [hrest, hnext]
        exact Nat.lt_succ_self _
      · omega

theorem runCalls_eq_of_revision {calls : List TopologyCall} {s : TopologyProjector}
    (h : (runCalls calls s).revision = s.revision) : runCalls calls s = s := by
  rcases runCalls_stamped calls s with hsame | hlater
  · exact hsame
  · omega

/-- **The revision stamps the state.**  A refused call leaves the state as it was, unless it is the
downgrade; every call leaves it as it was or counts the revision up by one; and two snapshots of one
projector that are taken at the same time with the same revision are the same. -/
theorem revision_stamps :
    (∀ (s : TopologyProjector) (call : TopologyCall) (error : TopologyError),
      (call.program.exec s).1 = .error error → ¬s.Downgrades call → call.next s = s) ∧
    (∀ (s : TopologyProjector) (call : TopologyCall),
      call.next s = s ∨ (call.next s).revision = s.revision + 1) ∧
    ∀ (s : TopologyProjector) (calls : List TopologyCall) (generatedAtMs : ℕ),
      (runCalls calls s).revision = s.revision →
        (runCalls calls s).snapshot generatedAtMs = s.snapshot generatedAtMs := by
  refine ⟨fun s call error herror hcall => ?_, next_stamped, fun s calls generatedAtMs hrevision => ?_⟩
  · exact (exec_stamped hcall).unchanged error herror
  · rw [runCalls_eq_of_revision hrevision]

end TopologyProjector

end Dashboard
