/-
**The owners of the network.**

The local host and the controller of the registry have entries that an inventory cannot take: rows about
them are skipped, and no row brings an entry that is local, a controller or of local trust. There is one
controller at most, because it is the host that the session of the registry names. Within an epoch of the
registry the revisions of its inventories grow, so that an old one says nothing.

Main definitions:

* `Dashboard.TopologyProjector.Controllers` — controllers are what the session names.

Main results:

* `Dashboard.TopologyProjector.owners_kept` — **the slots of the owners cannot be taken over**.
-/

import DeviceLane.Dashboard.TopologyRevisions

namespace Dashboard

namespace TopologyProjector

open Effect

variable {s s' : TopologyProjector} {authenticated : Bool} {hosts : List RegistryHost}
  {observedAtMs sourceRevision : ℕ} {call : TopologyCall} {host : StoredHost}
  {rows : List (HostId × DashboardHost × ℕ)}

/-- The states that runs end in. -/
def Reachable (s : TopologyProjector) : Prop :=
  ∃ revision calls, s = runCalls calls (newAtRevision revision)

theorem wellFormed_newAtRevision (revision : ℕ) : (newAtRevision revision).WellFormed where
  hosts id host hlookup := by cases hlookup
  localHost id hlocal := by cases hlocal

theorem Reachable.wellFormed (h : s.Reachable) : s.WellFormed := by
  obtain ⟨revision, calls, rfl⟩ := h
  exact (wellFormed_newAtRevision revision).runCalls calls

/-! ### Where a program ends -/

section Programs

variable {s : TopologyProjector} {Q : TopologyProjector → Prop}

theorem ends_orThrow {α : Type} {r : Except TopologyError α} {rest : α → TopologyEff Unit} (hself : Q s)
    (h : ∀ a, r = .ok a → Q ((rest a).exec s).2) : Q ((orThrow id r >>= rest).exec s).2 := by
  rw [exec_orThrow_bind]
  cases r with
  | error => exact hself
  | ok a => exact h a rfl

theorem ends_commit {f : TopologyProjector → TopologyProjector} (hself : Q s)
    (h : Q { f s with revision := (f s).revision + 1 }) :
    Q ((preflightRevision >>= fun _ => modify f >>= fun _ => commitRevision).exec s).2 := by
  have hexec := exec_preflightRevision s
  rw [failIf] at hexec
  split at hexec
  · rw [exec_bind_error hexec]
    exact hself
  · rw [exec_bind_ok hexec]
    exact h

theorem ends_dropRegistry (hself : Q s)
    (h : ∀ hosts leases revision,
      Q { s with hosts, leases, revision, registryAuthenticated := false }) :
    Q (dropRegistry.exec s).2 := by
  refine ends_commit hself ?_
  generalize hdropped : markAllRemoteStale { s with registryAuthenticated := false } = t
  have hstale : t =
      { s with
        hosts := t.hosts
        leases := t.leases
        registryAuthenticated := false } := by
    rw [← hdropped]
    exact markHostsStale_eq _ _
  rw [hstale]
  exact h t.hosts t.leases _

end Programs

/-! ### The age of a projector -/

/-- The epoch of the registry; no registry is before all epochs. -/
def epoch (s : TopologyProjector) : ℕ :=
  match s.authenticatedRegistry with
  | none => 0
  | some stored => stored.2 + 1

structure Continues (s s' : TopologyProjector) : Prop where
  registry : s'.authenticatedRegistry = s.authenticatedRegistry
  later : ∀ stored ∈ s.registryRevision, ∃ later ∈ s'.registryRevision, stored ≤ later

def Ages (s s' : TopologyProjector) : Prop := Continues s s' ∨ s.epoch < s'.epoch

theorem continues_of_same (hregistry : s'.authenticatedRegistry = s.authenticatedRegistry)
    (hrevision : s'.registryRevision = s.registryRevision) : Continues s s' := by
  refine ⟨hregistry, fun stored hstored => ⟨stored, ?_, Nat.le_refl _⟩⟩
  rw [hrevision]
  exact hstored

theorem continues_self (s : TopologyProjector) : Continues s s := continues_of_same rfl rfl

theorem Continues.trans {s'' : TopologyProjector} (h : Continues s s') (h' : Continues s' s'') :
    Continues s s'' := by
  refine ⟨h'.registry.trans h.registry, fun stored hstored => ?_⟩
  obtain ⟨next, hnext, hle⟩ := h.later stored hstored
  obtain ⟨last, hlast, hle'⟩ := h'.later next hnext
  exact ⟨last, hlast, hle.trans hle'⟩

theorem Continues.epoch (h : Continues s s') : s'.epoch = s.epoch := by
  unfold TopologyProjector.epoch
  rw [h.registry]

theorem Ages.trans {s'' : TopologyProjector} (h : Ages s s') (h' : Ages s' s'') : Ages s s'' := by
  rcases h with hsame | hnewer
  · rcases h' with hsame' | hnewer'
    · exact .inl (hsame.trans hsame')
    · rw [hsame.epoch] at hnewer'
      exact .inr hnewer'
  · right
    rcases h' with hsame' | hnewer'
    · rw [hsame'.epoch]
      exact hnewer
    · omega

theorem continues_dropRegistry (s : TopologyProjector) : Continues s (dropRegistry.exec s).2 :=
  ends_dropRegistry (Q := Continues s) (continues_self s) fun _ _ _ => continues_of_same rfl rfl

theorem epoch_lt_of_isNewEpoch {sessionId : String} {next : ℕ}
    (h : isNewEpoch s.authenticatedRegistry sessionId next = .ok true) : s.epoch < next + 1 := by
  rw [epoch]
  cases hstored : s.authenticatedRegistry with
  | none => exact Nat.succ_pos _
  | some stored =>
    rw [hstored, isNewEpoch] at h
    change stored.2 + 1 < next + 1
    split at h
    · rw [failIf_bind] at h
      split at h
      · cases h
      · have hlt := of_decide_eq_true (Except.ok.inj h)
        omega
    · rw [failIf_bind] at h
      split at h
      · cases h
      · omega

theorem ages_connectRegistry (s : TopologyProjector) (sessionId : String) (next : ℕ)
    (authenticated : Bool) : Ages s ((connectRegistry sessionId next authenticated).exec s).2 := by
  have hself : Ages s s := .inl (continues_self s)
  rw [connectRegistry]
  split
  · exact .inl (continues_dropRegistry s)
  · refine ends_orThrow hself fun _ _ => ?_
    rw [exec_bind_ok (exec_get s)]
    refine ends_orThrow hself fun newEpoch hnew => ?_
    cases newEpoch with
    | false =>
      exact ends_commit (f := fun s => { s with registryAuthenticated := true }) hself
        (.inl (continues_of_same rfl rfl))
    | true =>
      exact ends_commit
        (f := fun s => { beginEpoch sessionId next s with registryAuthenticated := true }) hself
        (.inr (epoch_lt_of_isNewEpoch hnew))

theorem continues_observeLocal (s : TopologyProjector) (sourceRevision observedAtMs : ℕ)
    (snapshot : HostSnapshot) :
    Continues s ((observeLocal sourceRevision observedAtMs snapshot).exec s).2 := by
  rw [observeLocal, exec_bind_ok (exec_get s)]
  split
  · exact continues_self s
  · refine ends_orThrow (continues_self s) fun _ _ => ends_orThrow (continues_self s) fun _ _ => ?_
    exact ends_commit (continues_self s) (continues_of_same rfl rfl)

/-! ### Inventories of an authenticated session -/

def Takes (s : TopologyProjector) (sourceRevision observedAtMs : ℕ) (authenticated : Bool)
    (hosts : List RegistryHost) (s' : TopologyProjector) : Prop :=
  s' = s ∨ ∃ rows, (∀ stored ∈ s.registryRevision, stored < sourceRevision) ∧
    s.projectRows observedAtMs hosts = .ok rows ∧
    s' = { s.placeRows rows sourceRevision authenticated with
      revision := (s.placeRows rows sourceRevision authenticated).revision + 1 }

theorem takes_observeRegistry (h : ¬(authenticated = false ∨ s.registryAuthenticated = false))
    (sourceRevision observedAtMs : ℕ) (hosts : List RegistryHost) :
    s.Takes sourceRevision observedAtMs authenticated hosts
      ((observeRegistry sourceRevision observedAtMs authenticated hosts).exec s).2 := by
  have hself : s.Takes sourceRevision observedAtMs authenticated hosts s := .inl rfl
  rw [observeRegistry, exec_bind_ok (exec_get s), if_neg h]
  refine ends_orThrow hself fun _ _ => ?_
  split
  · exact hself
  · rename_i hnewer
    refine ends_orThrow hself fun rows hrows => ends_orThrow hself fun _ _ => ?_
    exact ends_commit hself (.inr ⟨rows, any_of_newer hnewer, hrows, rfl⟩)

theorem placeRows_registry (s : TopologyProjector) (rows : List (HostId × DashboardHost × ℕ))
    (sourceRevision : ℕ) (authenticated : Bool) :
    (s.placeRows rows sourceRevision authenticated).authenticatedRegistry
        = s.authenticatedRegistry ∧
      (s.placeRows rows sourceRevision authenticated).registryRevision = some sourceRevision := by
  refine ⟨?_, rfl⟩
  change (s.markHostsStale _).authenticatedRegistry = _
  rw [markHostsStale_eq]

theorem Takes.continues (h : s.Takes sourceRevision observedAtMs authenticated hosts s') :
    Continues s s' := by
  rcases h with rfl | ⟨rows, hnewer, -, rfl⟩
  · exact continues_self _
  · obtain ⟨hregistry, hrevision⟩ := placeRows_registry s rows sourceRevision authenticated
    refine ⟨hregistry, fun stored hstored => ⟨sourceRevision, hrevision, ?_⟩⟩
    exact Nat.le_of_lt (hnewer stored hstored)

theorem continues_observeRegistry (s : TopologyProjector) (sourceRevision observedAtMs : ℕ)
    (authenticated : Bool) (hosts : List RegistryHost) :
    Continues s ((observeRegistry sourceRevision observedAtMs authenticated hosts).exec s).2 := by
  by_cases h : authenticated = false ∨ s.registryAuthenticated = false
  · rw [exec_observeRegistry_dropped h]
    exact continues_dropRegistry s
  · exact (takes_observeRegistry h sourceRevision observedAtMs hosts).continues

/-! ### Runs age the projector -/

theorem continues_observeController (s : TopologyProjector) (controllerId : String) (observedAtMs : ℕ) :
    Continues s ((observeController controllerId observedAtMs).exec s).2 := by
  rw [observeController, exec_bind_ok (exec_get s), exec_throwIf_bind]
  split
  · exact continues_self s
  · refine ends_orThrow (continues_self s) fun _ _ => ?_
    split
    · exact continues_self s
    · refine ends_orThrow (continues_self s) fun _ _ => ends_orThrow (continues_self s) fun _ _ => ?_
      exact ends_commit (continues_self s) (continues_of_same rfl rfl)

theorem continues_markDisconnected (s : TopologyProjector) (hostId : HostId) (detectedAtMs : ℕ) :
    Continues s ((markDisconnected hostId detectedAtMs).exec s).2 := by
  rw [markDisconnected, exec_bind_ok (exec_get s)]
  split
  · exact continues_self s
  · refine ends_commit (continues_self s) (continues_of_same ?_ ?_)
    · rw [markHostStale_eq]
    · rw [markHostStale_eq]

theorem continues_trackActiveLease (s : TopologyProjector) (leaseId ownerHostId deviceId : String) :
    Continues s ((trackActiveLease leaseId ownerHostId deviceId).exec s).2 := by
  refine ends_orThrow (continues_self s) fun _ _ => ends_orThrow (continues_self s) fun _ _ => ?_
  refine ends_orThrow (continues_self s) fun _ _ => ?_
  rw [exec_bind_ok (exec_get s)]
  dsimp only
  split
  · refine ends_orThrow (continues_self s) fun _ _ => ?_
    exact ends_commit (continues_self s) (continues_of_same rfl rfl)
  · exact ends_commit (continues_self s) (continues_of_same rfl rfl)

def Connects (call : TopologyCall) : Prop :=
  ∃ sessionId epoch authenticated, call = .connectRegistry sessionId epoch authenticated

theorem continues_next (s : TopologyProjector) (h : ¬Connects call) : Continues s (call.next s) := by
  cases call with
  | connectRegistry => exact absurd ⟨_, _, _, rfl⟩ h
  | disconnectRegistry => exact continues_dropRegistry s
  | observeLocal => exact continues_observeLocal s _ _ _
  | observeRegistry =>
    exact continues_observeRegistry s _ _ _ _
  | observeController => exact continues_observeController s _ _
  | markDisconnected hostId detectedAtMs => exact continues_markDisconnected s _ detectedAtMs
  | trackActiveLease => exact continues_trackActiveLease s _ _ _

/-- **Every call ages the projector.** -/
theorem ages_next (s : TopologyProjector) (call : TopologyCall) : Ages s (call.next s) := by
  by_cases h : Connects call
  · obtain ⟨sessionId, epoch, authenticated, rfl⟩ := h
    exact ages_connectRegistry s sessionId epoch authenticated
  · exact .inl (continues_next s h)

theorem ages_runCalls (calls : List TopologyCall) (s : TopologyProjector) :
    Ages s (runCalls calls s) := by
  induction calls generalizing s with
  | nil => exact .inl (continues_self s)
  | cons call calls ih => exact (ages_next s call).trans (ih (call.next s))

theorem later_of_runCalls {calls : List TopologyCall}
    (h : (runCalls calls s).authenticatedRegistry = s.authenticatedRegistry) {stored : ℕ}
    (hstored : stored ∈ s.registryRevision) :
    ∃ later ∈ (runCalls calls s).registryRevision, stored ≤ later := by
  rcases ages_runCalls calls s with hsame | hnewer
  · exact hsame.later stored hstored
  · rw [epoch, epoch, h] at hnewer
    exact absurd hnewer (Nat.lt_irrefl _)

/-- **An outdated inventory** of an authenticated session changes nothing. -/
theorem observeRegistry_outdated (h : ¬(authenticated = false ∨ s.registryAuthenticated = false))
    {stored : ℕ} (hstored : stored ∈ s.registryRevision) (hle : sourceRevision ≤ stored)
    (observedAtMs : ℕ) (hosts : List RegistryHost) :
    TopologyCall.next (.observeRegistry sourceRevision observedAtMs authenticated hosts) s = s := by
  rcases takes_observeRegistry h sourceRevision observedAtMs hosts with hsame | ⟨rows, hnewer, -, -⟩
  · exact hsame
  · have hlt := hnewer stored hstored
    omega

/-! ### Controllers -/

def Controllers (s : TopologyProjector) : Prop :=
  ∀ id host, s.hosts.lookup id = some host → host.isController = true →
    ∃ sessionId epoch, s.authenticatedRegistry = some (sessionId, epoch) ∧
      parseHostId sessionId = .ok id

theorem Controllers.unique (h : s.Controllers) {id id' : HostId} {host' : StoredHost}
    (hlookup : s.hosts.lookup id = some host) (hlookup' : s.hosts.lookup id' = some host')
    (hcontroller : host.isController = true) (hcontroller' : host'.isController = true) : id = id' := by
  obtain ⟨_, _, hstored, hid⟩ := h id host hlookup hcontroller
  obtain ⟨_, _, hstored', hid'⟩ := h id' host' hlookup' hcontroller'
  rw [hstored] at hstored'
  cases hstored'
  rw [hid] at hid'
  exact Except.ok.inj hid'

theorem controller_of_move {t : TopologyProjector} (hmove : Move s call t) {id : HostId}
    (hlookup : t.hosts.lookup id = some host) (hcontroller : host.isController = true) :
    (∃ before, s.hosts.lookup id = some before ∧ before.isController = true) ∨
      ∃ sessionId epoch, s.authenticatedRegistry = some (sessionId, epoch) ∧
        parseHostId sessionId = .ok id := by
  have hstale : ∀ {ids : List HostId} {t : TopologyProjector},
      (t.markHostsStale ids).hosts.lookup id = some host →
        ∃ before, t.hosts.lookup id = some before ∧ before.isController = true := by
    intro ids t hlookup
    rw [lookup_hosts_markHostsStale] at hlookup
    split at hlookup
    · obtain ⟨before, hbefore, rfl⟩ := Option.map_eq_some_iff.1 hlookup
      exact ⟨before, hbefore, hcontroller⟩
    · exact ⟨host, hlookup, hcontroller⟩
  cases hmove with
  | unchanged => exact .inl ⟨host, hlookup, hcontroller⟩
  | droppedRegistry => exact .inl (hstale (t := { s with registryAuthenticated := false }) hlookup)
  | retiredControllers =>
    change (Map.retain _ _).lookup id = some host at hlookup
    rw [Map.lookup_retain, Option.filter_eq_some_iff, hcontroller] at hlookup
    cases hlookup.2
  | placedLocal =>
    rw [lookup_placeLocal] at hlookup
    split at hlookup
    · cases hlookup
      cases hcontroller
    · split at hlookup
      · cases hlookup
      · exact .inl ⟨host, hlookup, hcontroller⟩
  | @placedRows _ _ _ _ rows haccepts =>
    rw [lookup_placeRows] at hlookup
    split at hlookup
    · cases hlookup
    · cases hrow : rowOf rows id with
      | some =>
        rw [hrow] at hlookup
        cases hlookup
        cases hcontroller
      | none =>
        rw [hrow] at hlookup
        obtain ⟨before, hbefore, rfl⟩ := Option.map_eq_some_iff.1 hlookup
        refine .inl ⟨before, hbefore, ?_⟩
        rw [staleIfAbsent] at hcontroller
        split at hcontroller
        · exact hcontroller
        · exact hcontroller
  | placedController haccepts =>
    change (Map.insert _ _ _).lookup id = some host at hlookup
    rw [Map.lookup_insert] at hlookup
    split at hlookup
    · rename_i hid
      obtain ⟨epoch, hstored⟩ := haccepts.connected
      exact .inr ⟨_, epoch, hstored, hid ▸ haccepts.id⟩
    · exact .inl ⟨host, hlookup, hcontroller⟩
  | disconnected => exact .inl (hstale hlookup)
  | placedLease => exact .inl ⟨host, hlookup, hcontroller⟩

theorem Controllers.moved {t : TopologyProjector} (h : s.Controllers) (hmoves : Moves s call t)
    (hregistry : t.authenticatedRegistry = s.authenticatedRegistry) : t.Controllers := by
  obtain ⟨_, hmove, hview⟩ := hmoves
  intro id _ hlookup hcontroller
  rw [hview.hosts] at hlookup
  rw [hregistry]
  rcases controller_of_move hmove hlookup hcontroller with ⟨before, hbefore, hbefore'⟩ | hnamed
  · exact h id before hbefore hbefore'
  · exact hnamed

theorem Controllers.beginEpoch (h : s.Controllers) (sessionId : String) (next : ℕ) :
    (beginEpoch sessionId next s).Controllers := by
  intro id host hlookup hcontroller
  unfold TopologyProjector.beginEpoch at hlookup
  split at hlookup
  · change (Map.retain _ _).lookup id = some host at hlookup
    rw [Map.lookup_retain, Option.filter_eq_some_iff, hcontroller] at hlookup
    cases hlookup.2
  · rename_i hsame
    obtain ⟨stored, epoch, hstored, hid⟩ := h id host hlookup hcontroller
    rw [hstored, Option.any_some, decide_eq_true_eq, not_not] at hsame
    exact ⟨sessionId, next, rfl, hsame ▸ hid⟩

theorem Controllers.connectRegistry (h : s.Controllers) (sessionId : String) (next : ℕ)
    (authenticated : Bool) :
    ((connectRegistry sessionId next authenticated).exec s).2.Controllers := by
  rw [TopologyProjector.connectRegistry]
  split
  · have hmoves : Moves s (.disconnectRegistry 0) (dropRegistry.exec s).2 := moves_dropRegistry
    exact h.moved hmoves (continues_dropRegistry s).registry
  · refine ends_orThrow h fun _ _ => ?_
    rw [exec_bind_ok (exec_get s)]
    refine ends_orThrow h fun newEpoch _ => ?_
    cases newEpoch with
    | false => exact ends_commit (f := fun s => { s with registryAuthenticated := true }) h h
    | true =>
      exact ends_commit
        (f := fun s => { TopologyProjector.beginEpoch sessionId next s with
          registryAuthenticated := true }) h (h.beginEpoch sessionId next)

theorem Controllers.next (h : s.Controllers) (call : TopologyCall) : (call.next s).Controllers := by
  by_cases hconnects : Connects call
  · obtain ⟨sessionId, epoch, authenticated, rfl⟩ := hconnects
    exact h.connectRegistry sessionId epoch authenticated
  · exact h.moved (next_moves s call) (continues_next s hconnects).registry

theorem Reachable.controllers (h : s.Reachable) : s.Controllers := by
  obtain ⟨_, calls, rfl⟩ := h
  refine Preserves.foldl (P := Controllers) (fun _ call hs => hs.next call) calls _ ?_
  intro _ host hlookup
  cases hlookup

/-! ### The entries of the owners -/

/-- What an inventory leaves as it was: the local host, and whose entries are those of owners. -/
structure KeepsOwners (s s' : TopologyProjector) : Prop where
  localHostId : s'.localHostId = s.localHostId
  localHost : ∀ id, s.localHostId = some id → s'.hosts.lookup id = s.hosts.lookup id
  brings : ∀ id host, s'.hosts.lookup id = some host →
    host.dashboard.trust = .local ∨ host.isLocal = true ∨ host.isController = true →
      ∃ before, s.hosts.lookup id = some before ∧
        before.dashboard.trust = host.dashboard.trust ∧ before.isLocal = host.isLocal ∧
        before.isController = host.isController

theorem keepsOwners_self (s : TopologyProjector) : KeepsOwners s s where
  localHostId := rfl
  localHost _ _ := rfl
  brings _ host hlookup _ := ⟨host, hlookup, rfl, rfl, rfl⟩

theorem trust_of_projectHost {snapshot : HostSnapshot} {details : Option (String × List DeviceDetails)}
    {trust : TrustState} {connectionPath : ConnectionPath} {permissions : List String}
    {freshness : Freshness} {dashboard : DashboardHost}
    (h : projectHost snapshot details trust connectionPath permissions freshness observedAtMs
      = .ok dashboard) : dashboard.trust = trust := by
  rw [projectHost] at h
  simp only [bind_eq_ok] at h
  obtain ⟨-, -, -, -, -, -, -, -, -, -, -, -, -, -, -, -, -, -, _, -, h⟩ := h
  obtain ⟨_, -, _, -, _, -, _, -, _, -, _, -, h⟩ := h
  cases h
  rfl

theorem trust_seen (s : TopologyProjector) (hostId : HostId) (dashboard : DashboardHost)
    (observedAtMs : ℕ) :
    (s.devicesSeenBefore hostId (s.seenBefore hostId dashboard observedAtMs).1).trust
      = dashboard.trust := by
  have hseen : (s.seenBefore hostId dashboard observedAtMs).1.trust = dashboard.trust := by
    rw [seenBefore]
    split
    · rfl
    · rfl
  rw [← hseen, devicesSeenBefore]
  split
  · rfl
  · rfl

theorem trust_of_projectRows (h : s.projectRows observedAtMs hosts = .ok rows) :
    ∀ row ∈ rows, row.2.1.trust ≠ .local := by
  intro row hrow
  obtain ⟨_, -, hproject⟩ := mem_projectRows h row hrow
  obtain ⟨htrust, -, -, -, _, hprojected, hseen⟩ := projectRow_ok hproject
  rw [hseen, trust_seen, trust_of_projectHost hprojected]
  exact htrust

theorem lookup_placeRows_owner (h : s.WellFormed) (hrows : s.projectRows observedAtMs hosts = .ok rows)
    (sourceRevision : ℕ) (authenticated : Bool) {id : HostId} (howner : s.localHostId = some id ∨
      ∃ host, s.hosts.lookup id = some host ∧ host.isController = true) :
    (s.placeRows rows sourceRevision authenticated).hosts.lookup id = s.hosts.lookup id := by
  have hnotAbsent : ∀ host, s.hosts.lookup id = some host →
      isAbsent (rows.map Prod.fst) id host = false := by
    intro host hlookup
    rw [isAbsent]
    rcases howner with hlocal | ⟨host', hlookup', hcontroller⟩
    · rw [(h.hosts id host hlookup).isLocal.2 hlocal]
      rfl
    · rw [hlookup] at hlookup'
      cases hlookup'
      rw [hcontroller, Bool.not_true, Bool.and_false, Bool.false_and]
  have hnotRow : rowOf rows id = none := by
    cases hrow : rowOf rows id with
    | none => rfl
    | some row =>
      have hgood := goodRow_of_projectRows hrows (id, row) (rowOf_eq_some hrow)
      rcases howner with hlocal | ⟨host, hlookup, hcontroller⟩
      · exact absurd hlocal hgood.remote
      · rw [hgood.agent host hlookup] at hcontroller
        cases hcontroller
  have hkept : id ∉ (oldestAbsent s.hosts (rows.map Prod.fst)).take (s.excess rows) := by
    intro hmem
    obtain ⟨host, hlookup, habsent⟩ := mem_oldestAbsent.1 (List.mem_of_mem_take hmem)
    rw [hnotAbsent host hlookup] at habsent
    cases habsent
  rw [lookup_placeRows, if_neg hkept, hnotRow]
  cases hlookup : s.hosts.lookup id with
  | none => rfl
  | some host =>
    change some (staleIfAbsent (rows.map Prod.fst) id host) = some host
    rw [staleIfAbsent, hnotAbsent host hlookup]
    rfl

theorem keepsOwners_placeRows (h : s.WellFormed) (hrows : s.projectRows observedAtMs hosts = .ok rows)
    (sourceRevision : ℕ) (authenticated : Bool) :
    KeepsOwners s (s.placeRows rows sourceRevision authenticated) where
  localHostId := (len_markHostsStale _ s).2.2
  localHost id hlocal := lookup_placeRows_owner h hrows sourceRevision authenticated (.inl hlocal)
  brings id host hlookup howner := by
    rw [lookup_placeRows] at hlookup
    split at hlookup
    · cases hlookup
    · cases hrow : rowOf rows id with
      | some row =>
        -- A row is neither local nor a controller nor of local trust.
        rw [hrow] at hlookup
        cases hlookup
        rcases howner with htrust | hlocal | hcontroller
        · exact absurd htrust (trust_of_projectRows hrows (id, row) (rowOf_eq_some hrow))
        · cases hlocal
        · cases hcontroller
      | none =>
        rw [hrow] at hlookup
        obtain ⟨before, hbefore, rfl⟩ := Option.map_eq_some_iff.1 hlookup
        refine ⟨before, hbefore, ?_⟩
        rw [staleIfAbsent]
        split
        · exact ⟨rfl, rfl, rfl⟩
        · exact ⟨rfl, rfl, rfl⟩

theorem keepsOwners_dropped (h : s.WellFormed) :
    KeepsOwners s (markAllRemoteStale { s with registryAuthenticated := false }) := by
  refine ⟨(len_markHostsStale _ _).2.2, fun id hlocal => ?_, fun id host hlookup howner => ?_⟩
  · refine (lookup_hosts_markHostsStale _ _ id).trans ?_
    split
    · rename_i hmem
      obtain ⟨host, hlookup, hremote⟩ := mem_hostsWith.1 hmem
      rw [(h.hosts id host hlookup).isLocal.2 hlocal] at hremote
      cases hremote
    · rfl
  · rw [markAllRemoteStale, lookup_hosts_markHostsStale] at hlookup
    split at hlookup
    · obtain ⟨before, hbefore, rfl⟩ := Option.map_eq_some_iff.1 hlookup
      exact ⟨before, hbefore, rfl, rfl, rfl⟩
    · exact ⟨host, hlookup, rfl, rfl, rfl⟩

/-- **An inventory takes no entry of an owner over.** -/
theorem keepsOwners_observeRegistry (h : s.WellFormed) (sourceRevision observedAtMs : ℕ)
    (authenticated : Bool) (hosts : List RegistryHost) :
    KeepsOwners s
      (TopologyCall.next (.observeRegistry sourceRevision observedAtMs authenticated hosts) s) := by
  have hsame : ∀ {t t' : TopologyProjector}, KeepsOwners s t → SameView t t' → KeepsOwners s t' := by
    intro t t' hkeeps hview
    refine ⟨hview.localHostId.trans hkeeps.localHostId, ?_, ?_⟩
    · rw [hview.hosts]
      exact hkeeps.localHost
    · rw [hview.hosts]
      exact hkeeps.brings
  obtain ⟨t, hmove, hview⟩ :=
    next_moves s (.observeRegistry sourceRevision observedAtMs authenticated hosts)
  refine hsame ?_ hview
  cases hmove with
  | unchanged => exact keepsOwners_self s
  | droppedRegistry => exact keepsOwners_dropped h
  | placedRows haccepts => exact keepsOwners_placeRows h haccepts.projected _ _

theorem lookup_observeRegistry_controller (h : s.WellFormed)
    (htrusted : ¬(authenticated = false ∨ s.registryAuthenticated = false)) {id : HostId}
    (hlookup : s.hosts.lookup id = some host) (hcontroller : host.isController = true)
    (sourceRevision observedAtMs : ℕ) (hosts : List RegistryHost) :
    (TopologyCall.next (.observeRegistry sourceRevision observedAtMs authenticated hosts)
      s).hosts.lookup id = some host := by
  rw [TopologyCall.next, TopologyCall.program, ← hlookup]
  rcases takes_observeRegistry htrusted sourceRevision observedAtMs hosts with
    hsame | ⟨rows, -, hrows, htaken⟩
  · rw [hsame]
  · rw [htaken]
    exact lookup_placeRows_owner h hrows sourceRevision authenticated (.inr ⟨host, hlookup, hcontroller⟩)

theorem registryRevision_of_accepted
    (htrusted : ¬(authenticated = false ∨ s.registryAuthenticated = false))
    (haccepted : (observeRegistry sourceRevision observedAtMs authenticated hosts).exec s
      = (.ok (), s')) : ∃ stored ∈ s'.registryRevision, sourceRevision ≤ stored := by
  rw [observeRegistry, exec_bind_ok (exec_get s), if_neg htrusted] at haccepted
  obtain ⟨-, -, haccepted⟩ := exec_orThrow_inv haccepted
  split at haccepted
  · rename_i hold
    cases haccepted
    obtain ⟨stored, hstored, hle⟩ := (Option.any_eq_true _ _).1 hold
    exact ⟨stored, hstored, of_decide_eq_true hle⟩
  · obtain ⟨rows, -, haccepted⟩ := exec_orThrow_inv haccepted
    obtain ⟨-, -, haccepted⟩ := exec_orThrow_inv haccepted
    obtain ⟨-, t, -, haccepted⟩ := exec_bind_inv haccepted
    cases haccepted
    exact ⟨sourceRevision, rfl, Nat.le_refl _⟩

/-- An inventory that says nothing new. -/
def Outdated (s : TopologyProjector) (sourceRevision : ℕ) : Prop :=
  ∃ before observedAtMs authenticated hosts calls accepted,
    before.Reachable ∧ before.registryAuthenticated = true ∧ authenticated = true ∧
    ((observeRegistry accepted observedAtMs authenticated hosts).exec before).1 = .ok () ∧
    s = runCalls calls ((observeRegistry accepted observedAtMs authenticated hosts).exec before).2 ∧
    s.authenticatedRegistry = before.authenticatedRegistry ∧ sourceRevision ≤ accepted

/-- **The slots of the owners cannot be taken over.**  There is one local host and one controller at
most, no inventory changes their entries or brings entries like theirs, and with an authenticated session
an inventory changes nothing that is not later than one that was accepted in the same epoch. -/
theorem owners_kept :
    (∀ s : TopologyProjector, s.Reachable →
      (∀ id host, s.hosts.lookup id = some host → host.isLocal = true → s.localHostId = some id) ∧
      ∀ id id' host host', s.hosts.lookup id = some host → s.hosts.lookup id' = some host' →
        host.isController = true → host'.isController = true → id = id') ∧
    (∀ (s : TopologyProjector) (sourceRevision observedAtMs : ℕ) (authenticated : Bool)
      (hosts : List RegistryHost), s.Reachable →
      KeepsOwners s
        (TopologyCall.next (.observeRegistry sourceRevision observedAtMs authenticated hosts) s) ∧
      (authenticated = true → s.registryAuthenticated = true →
        ∀ id host, s.hosts.lookup id = some host → host.isController = true →
          (TopologyCall.next (.observeRegistry sourceRevision observedAtMs authenticated hosts)
            s).hosts.lookup id = some host)) ∧
    ∀ (s : TopologyProjector) (sourceRevision observedAtMs : ℕ) (hosts : List RegistryHost),
      s.Outdated sourceRevision → s.registryAuthenticated = true →
        TopologyCall.next (.observeRegistry sourceRevision observedAtMs true hosts) s = s := by
  refine ⟨fun s hs => ⟨fun id host hlookup hlocal => ?_, fun id id' host host' => ?_⟩,
    fun s sourceRevision observedAtMs authenticated hosts hs => ⟨?_, ?_⟩,
    fun s sourceRevision observedAtMs hosts houtdated htrusted => ?_⟩
  · exact (hs.wellFormed.hosts id host hlookup).isLocal.1 hlocal
  · intro hlookup hlookup' hcontroller hcontroller'
    exact hs.controllers.unique hlookup hlookup' hcontroller hcontroller'
  · exact keepsOwners_observeRegistry hs.wellFormed sourceRevision observedAtMs authenticated hosts
  · intro hauthenticated htrusted id host hlookup hcontroller
    refine lookup_observeRegistry_controller hs.wellFormed ?_ hlookup hcontroller _ _ _
    rw [hauthenticated, htrusted]
    simp
  · obtain ⟨before, observedAtMs', authenticated, hosts', calls, accepted, -, hsession, hauthenticated,
      hok, rfl, hepoch, hle⟩ := houtdated
    have hbefore : ¬(authenticated = false ∨ before.registryAuthenticated = false) := by
      rw [hauthenticated, hsession]
      simp
    obtain ⟨stored, hstored, hle'⟩ := registryRevision_of_accepted hbefore (Prod.ext hok rfl)
    have hsame : (runCalls calls ((observeRegistry accepted observedAtMs' authenticated
        hosts').exec before).2).authenticatedRegistry
        = ((observeRegistry accepted observedAtMs' authenticated hosts').exec
            before).2.authenticatedRegistry :=
      hepoch.trans (continues_observeRegistry before _ _ _ _).registry.symm
    obtain ⟨later, hlater, hle''⟩ := later_of_runCalls hsame hstored
    refine observeRegistry_outdated ?_ hlater (by omega) _ _
    rw [htrusted]
    simp

def connectedRun : List TopologyCall :=
  [.connectRegistry "registry" 1 true, .observeRegistry 5 0 true []]

/-- An old inventory without a session still drops the registry. -/
theorem not_outdatedChangesNothing :
    ¬∀ (s : TopologyProjector) (sourceRevision observedAtMs : ℕ) (authenticated : Bool)
      (hosts : List RegistryHost), s.Outdated sourceRevision →
      TopologyCall.next (.observeRegistry sourceRevision observedAtMs authenticated hosts) s = s := by
  intro hnothing
  have houtdated : (runCalls connectedRun new).Outdated 5 :=
    ⟨runCalls [.connectRegistry "registry" 1 true] new, 0, true, [], [], 5, ⟨0, _, rfl⟩, by decide, rfl,
      by decide, rfl, by decide, Nat.le_refl _⟩
  have hsame := congrArg registryAuthenticated
    (hnothing (runCalls connectedRun new) 5 0 false [] houtdated)
  revert hsame
  decide

end TopologyProjector

end Dashboard
