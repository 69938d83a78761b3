/-
**Devices and their agents.**

A device belongs to the agent that has shown it. A heartbeat changes what is known of the devices of its
own agent, ends leases that are over, and makes the job that it gives out the writer of a device. The host
of a job is settled when the job is accepted, and nobody looks at the device again when the job is given
out. Where the state cannot be written at the end of a heartbeat, all writers are taken away whose jobs
have not been acknowledged, whoever their devices belong to.

Main definitions:

* `Registry.Watched` — the registry, and whose heartbeat keeps the state.

Main results:

* `Registry.devicesOwned_of_run` — **where all steps keep to the owners, the owners are kept**.
-/

import DeviceLane.Registry.Cancels
import DeviceLane.Registry.Writers

namespace Registry

open Runs

variable {deviceId : String}

/-! ### One device -/

namespace LeaseBook

variable {deviceId other : String}

structure SameAt (book book' : LeaseBook) (deviceId : String) : Prop where
  lease : book'.active.lookup deviceId = book.active.lookup deviceId
  writer : book'.writers.lookup deviceId = book.writers.lookup deviceId
  detached : deviceId ∈ book'.pendingDetach ↔ deviceId ∈ book.pendingDetach

theorem SameAt.refl (book : LeaseBook) (deviceId : String) : book.SameAt book deviceId :=
  ⟨rfl, rfl, Iff.rfl⟩

theorem SameAt.trans {book book₁ book' : LeaseBook} (h₁ : book.SameAt book₁ deviceId)
    (h₂ : book₁.SameAt book' deviceId) : book.SameAt book' deviceId :=
  ⟨h₂.lease.trans h₁.lease, h₂.writer.trans h₁.writer, h₂.detached.trans h₁.detached⟩

theorem releaseDeviceNow_sameAt (book : LeaseBook) (h : other ≠ deviceId) (nowMs : ℕ) :
    book.SameAt (book.releaseDeviceNow deviceId nowMs) other := by
  obtain ⟨hwriters, -, hdetached⟩ := marks_releaseDeviceNow book deviceId nowMs
  refine ⟨?_, by rw [hwriters], by rw [hdetached]⟩
  rcases book.releaseDeviceNow_cases deviceId nowMs with
    ⟨-, heq⟩ | ⟨_, _, _, _, -, -, -, heq⟩
  · rw [heq, Map.lookup_erase, if_neg h]
  · rw [heq, insert, Map.lookup_insert_ne h, Map.lookup_erase, if_neg h]

theorem releaseDevice_sameAt (book : LeaseBook) (h : other ≠ deviceId) (nowMs : ℕ) :
    book.SameAt (book.releaseDevice deviceId nowMs) other := by
  unfold releaseDevice
  split
  · exact ⟨rfl, rfl, Iff.rfl⟩
  · exact book.releaseDeviceNow_sameAt h nowMs

theorem detachInventory_sameAt (book : LeaseBook) (h : other ≠ deviceId) (nowMs : ℕ) :
    book.SameAt (book.detachInventory deviceId nowMs) other := by
  unfold detachInventory
  refine .trans ?_ (releaseDevice_sameAt _ h nowMs)
  split
  · exact ⟨rfl, rfl, by rw [Finset.mem_insert, or_iff_right h]⟩
  · exact .refl book other

theorem finishWriter_sameAt (book : LeaseBook) (h : other ≠ deviceId) (nowMs : ℕ) :
    book.SameAt (book.finishWriter deviceId nowMs) other := by
  have herase : (book.writers.erase deviceId).lookup other = book.writers.lookup other := by
    rw [Map.lookup_erase, if_neg h]
  unfold finishWriter
  dsimp only
  split
  · have hreleased := releaseDevice_sameAt
      { book with
        writers := book.writers.erase deviceId
        pendingRelease := book.pendingRelease.erase deviceId } h nowMs
    refine ⟨hreleased.lease, hreleased.writer.trans herase, ?_⟩
    rw [Finset.mem_erase, and_iff_right h]
    exact hreleased.detached
  · exact ⟨rfl, herase, by rw [Finset.mem_erase, and_iff_right h]⟩

end LeaseBook

theorem Locked.finishWriters_at (locked : Locked) (deviceIds : List String) (nowMs : ℕ) (deviceId : String) :
    (deviceId ∉ deviceIds →
      (locked.finishWriters deviceIds nowMs).state.devicePeers.lookup deviceId
          = locked.state.devicePeers.lookup deviceId ∧
        locked.leases.SameAt (locked.finishWriters deviceIds nowMs).leases deviceId) ∧
    (deviceId ∈ deviceIds →
      (locked.finishWriters deviceIds nowMs).leases.writers.lookup deviceId = none ∧
        ((locked.finishWriters deviceIds nowMs).state.devicePeers.lookup deviceId
            = locked.state.devicePeers.lookup deviceId ∨ deviceId ∈ locked.leases.pendingDetach)) := by
  induction deviceIds generalizing locked with
  | nil => exact ⟨fun _ => ⟨rfl, .refl _ _⟩, fun h => absurd h List.not_mem_nil⟩
  | cons first deviceIds ih =>
    obtain ⟨hother, hsame⟩ := ih (locked.finishWriter nowMs first)
    change (_ → (Locked.finishWriters _ deviceIds nowMs).state.devicePeers.lookup deviceId = _ ∧ _) ∧ _
    rw [List.mem_cons]
    by_cases heq : deviceId = first
    · subst heq
      refine ⟨fun h => absurd (.inl rfl) h, fun _ => ?_⟩
      have hgone : (locked.finishWriter nowMs deviceId).leases.writers.lookup deviceId = none := by
        rw [Locked.finishWriter, (LeaseBook.marks_finishWriter _ _ _).1, Map.lookup_erase, if_pos rfl]
      have hmarks : deviceId ∉ (locked.finishWriter nowMs deviceId).leases.pendingDetach := by
        rw [Locked.finishWriter, (LeaseBook.marks_finishWriter _ _ _).2.2]
        exact Finset.notMem_erase _ _
      have hlost : (locked.finishWriter nowMs deviceId).state.devicePeers.lookup deviceId
            = locked.state.devicePeers.lookup deviceId ∨ deviceId ∈ locked.leases.pendingDetach := by
        unfold Locked.finishWriter
        dsimp only
        split
        · rename_i hmark
          exact .inr hmark
        · exact .inl rfl
      by_cases hmem : deviceId ∈ deviceIds
      · obtain ⟨hwriter, hpeer | hmark⟩ := hsame hmem
        · exact ⟨hwriter, hlost.imp_left hpeer.trans⟩
        · exact absurd hmark hmarks
      · obtain ⟨hpeer, hbook⟩ := hother hmem
        exact ⟨hbook.writer.trans hgone, hlost.imp_left hpeer.trans⟩
    · have hfirst : (locked.finishWriter nowMs first).state.devicePeers.lookup deviceId
          = locked.state.devicePeers.lookup deviceId := by
        unfold Locked.finishWriter
        dsimp only
        split
        · change (Map.erase _ _).lookup _ = _
          rw [Map.lookup_erase, if_neg heq]
        · rfl
      have hbook : locked.leases.SameAt (locked.finishWriter nowMs first).leases deviceId :=
        LeaseBook.finishWriter_sameAt _ heq nowMs
      rw [or_iff_right heq]
      refine ⟨fun h => ?_, fun h => ?_⟩
      · exact ⟨(hother h).1.trans hfirst, hbook.trans (hother h).2⟩
      · obtain ⟨hwriter, hlost⟩ := hsame h
        exact ⟨hwriter, hlost.imp (fun hpeer => hpeer.trans hfirst) hbook.detached.1⟩

/-! ### Inventories -/

theorem lookup_claim (state : DurableState) (peerId hostId : String) (connected : List String)
    (deviceId : String) :
    (state.claim peerId hostId connected).devicePeers.lookup deviceId
      = if deviceId ∈ connected then some peerId else state.devicePeers.lookup deviceId := by
  change (connected.foldl (fun peers deviceId => peers.insert deviceId peerId)
    state.devicePeers).lookup deviceId = _
  generalize state.devicePeers = peers
  induction connected generalizing peers with
  | nil => rfl
  | cons first connected ih =>
    rw [List.foldl_cons, ih, Map.lookup_insert]
    by_cases hmem : deviceId ∈ connected
    · rw [if_pos hmem, if_pos (List.mem_cons_of_mem first hmem)]
    · rw [if_neg hmem]
      by_cases heq : deviceId = first
      · rw [if_pos heq, if_pos (heq ▸ List.mem_cons_self)]
      · rw [if_neg heq, if_neg (List.not_mem_cons_of_ne_of_not_mem heq hmem)]

theorem mem_foldl_erase {connected : List String} (h : deviceId ∉ connected) (pending : Finset String) :
    deviceId ∈ connected.foldl (fun pending deviceId => pending.erase deviceId) pending
      ↔ deviceId ∈ pending := by
  induction connected generalizing pending with
  | nil => exact Iff.rfl
  | cons first connected ih =>
    rw [List.mem_cons, not_or] at h
    rw [List.foldl_cons, ih h.2, Finset.mem_erase, and_iff_right h.1]

/-- A device that is not among those that an agent stops to show is left alone; and one of those stays
with the agent while it has a writer. -/
theorem Locked.detach_at (locked : Locked) (deviceIds : List String) (nowMs : ℕ) (deviceId : String) :
    (deviceId ∉ deviceIds →
      (deviceIds.foldl (fun locked deviceId => locked.detach nowMs deviceId)
          locked).state.devicePeers.lookup deviceId = locked.state.devicePeers.lookup deviceId ∧
        locked.leases.SameAt (deviceIds.foldl (fun locked deviceId => locked.detach nowMs deviceId)
          locked).leases deviceId) ∧
    ((locked.leases.writers.lookup deviceId).isSome →
      (deviceIds.foldl (fun locked deviceId => locked.detach nowMs deviceId)
          locked).state.devicePeers.lookup deviceId = locked.state.devicePeers.lookup deviceId) := by
  induction deviceIds generalizing locked with
  | nil => exact ⟨fun _ => ⟨rfl, .refl _ _⟩, fun _ => rfl⟩
  | cons first deviceIds ih =>
    obtain ⟨hother, hwritten⟩ := ih (locked.detach nowMs first)
    rw [List.mem_cons]
    refine ⟨fun h => ?_, fun h => ?_⟩
    · rw [not_or] at h
      have hfirst : (locked.detach nowMs first).state.devicePeers.lookup deviceId
          = locked.state.devicePeers.lookup deviceId := by
        unfold Locked.detach
        dsimp only
        split
        · rfl
        · change (Map.erase _ _).lookup _ = _
          rw [Map.lookup_erase, if_neg h.1]
      have hbook : locked.leases.SameAt (locked.detach nowMs first).leases deviceId :=
        LeaseBook.detachInventory_sameAt _ h.1 nowMs
      exact ⟨(hother h.2).1.trans hfirst, hbook.trans (hother h.2).2⟩
    · have hsame : (locked.detach nowMs first).leases.writers = locked.leases.writers :=
        (LeaseBook.detachInventory_spares _ first nowMs).writers
      have hfirst : (locked.detach nowMs first).state.devicePeers.lookup deviceId
          = locked.state.devicePeers.lookup deviceId := by
        unfold Locked.detach
        dsimp only
        split
        · rfl
        · rename_i hnone
          have hne : deviceId ≠ first := by
            rintro rfl
            exact hnone h
          change (Map.erase _ _).lookup _ = _
          rw [Map.lookup_erase, if_neg hne]
      rw [← hsame] at h
      exact (hwritten h).trans hfirst

/-- **What an inventory does to a device**: one of another agent is left alone, and a device with a writer
keeps its agent. -/
theorem Locked.inventory_at (locked : Locked) (orders : Orders) (nowMs : ℕ) {peerId hostId : String}
    {connected : List String} (hfree : locked.state.ownedByAnother peerId hostId connected = false)
    {owner : String} (howner : locked.state.devicePeers.lookup deviceId = some owner) :
    (owner ≠ peerId →
      (locked.inventory orders nowMs peerId hostId connected).state.devicePeers.lookup deviceId
          = some owner ∧
        locked.leases.SameAt (locked.inventory orders nowMs peerId hostId connected).leases deviceId) ∧
    ((locked.leases.writers.lookup deviceId).isSome →
      (locked.inventory orders nowMs peerId hostId connected).state.devicePeers.lookup deviceId
        = some owner) := by
  have hconnected : deviceId ∈ connected → owner = peerId := by
    intro hmem
    by_contra hne
    have hany : locked.state.ownedByAnother peerId hostId connected = true := by
      refine Bool.or_eq_true_iff.2 (.inr (List.any_eq_true.2 ⟨deviceId, hmem, ?_⟩))
      rw [howner, Option.any_some, decide_eq_true_eq]
      exact hne
    rw [hfree] at hany
    cases hany
  have hclaimed : (locked.state.claim peerId hostId connected).devicePeers.lookup deviceId
      = some owner := by
    rw [lookup_claim]
    split
    · rename_i hmem
      rw [hconnected hmem]
    · exact howner
  let claimed : Locked :=
    { state := locked.state.claim peerId hostId connected
      leases :=
        { locked.leases with
          pendingDetach := connected.foldl (fun pending deviceId => pending.erase deviceId)
            locked.leases.pendingDetach } }
  obtain ⟨hother, hwritten⟩ := claimed.detach_at (locked.state.detachedDevices orders peerId connected)
    nowMs deviceId
  refine ⟨fun hne => ?_, fun hwriter => (hwritten hwriter).trans hclaimed⟩
  have hnot : deviceId ∉ locked.state.detachedDevices orders peerId connected := by
    intro hmem
    obtain ⟨entry, hentry, rfl⟩ := List.mem_map.1 hmem
    obtain ⟨hlookup, hpeer⟩ := List.mem_filter.1 hentry
    rw [Map.mem_entriesIn, howner, Option.some.injEq] at hlookup
    rw [Bool.and_eq_true, decide_eq_true_eq] at hpeer
    exact hne (hlookup.trans hpeer.1)
  obtain ⟨hpeer, hbook⟩ := hother hnot
  have hmarks := mem_foldl_erase (fun hmem => hne (hconnected hmem)) locked.leases.pendingDetach
  have hclaims : locked.leases.SameAt claimed.leases deviceId := ⟨rfl, rfl, hmarks⟩
  exact ⟨hpeer.trans hclaimed, hclaims.trans hbook⟩

/-! ### Sections that leave the owners alone -/

theorem devicePeers_heartbeatAnswer (env : Env) (response : Response) (runtime : Runtime) :
    (heartbeatAnswer env response runtime).1.state.devicePeers = runtime.state.devicePeers := by
  rcases heartbeatAnswer_cases env response runtime with ⟨-, h⟩ | ⟨-, -, h⟩ | ⟨_, -, -, h⟩
  · rw [h]
  · rw [h]
  · rw [h]
    rfl

theorem devicePeers_dispatchApple (config : Config) (env : Env) (jobId : String) (operation : AppleRequest)
    (response : Response) (runtime : Runtime) :
    (dispatchApple config env jobId operation response runtime).1.state.devicePeers
      = runtime.state.devicePeers := by
  unfold dispatchApple
  split
  · exact devicePeers_heartbeatAnswer _ _ _
  · dsimp only
    split
    · exact devicePeers_heartbeatAnswer _ _ _
    · split
      · rw [devicePeers_heartbeatAnswer]
        change (Runtime.storeLeases _ env).state.devicePeers = _
        rw [state_storeLeases]
      · rw [state_storeLeases]

theorem devicePeers_heartbeatDispatch (config : Config) (env : Env) (hostId : String) (runtime : Runtime) :
    (heartbeatDispatch config env hostId runtime).1.state.devicePeers = runtime.state.devicePeers := by
  have hgiven : ∀ job : Option (String × RunRequest), (job.elim runtime.state fun job =>
      runtime.state.dispatch job.1).devicePeers = runtime.state.devicePeers := by
    intro job
    cases job with
    | none | some => rfl
  unfold heartbeatDispatch
  dsimp only
  split
  · exact (devicePeers_heartbeatAnswer _ _ _).trans (hgiven _)
  · exact (devicePeers_dispatchApple _ _ _ _ _ _).trans (hgiven _)

theorem devicePeers_lease {sign : List UInt8 → List UInt8} {agentPeers : Finset String}
    {hash : KeyOrder String} {operation : LeaseRequest} {peerId : String}
    {devicePeers devicePeers' : Map String String} {book book' : LeaseBook} {nowMs : ℕ}
    {response : Response}
    (h : lease sign agentPeers hash operation peerId devicePeers book nowMs
      = some (response, devicePeers', book')) :
    devicePeers' = devicePeers ∨ ∃ deviceId, operation = .agentDetach deviceId ∧
      devicePeers.lookup deviceId = some peerId ∧ devicePeers' = devicePeers.erase deviceId := by
  have hdetached : devicePeers' = (detachedDevice agentPeers devicePeers peerId operation).elim
      devicePeers devicePeers.erase := by
    unfold lease at h
    generalize detachedDevice agentPeers devicePeers peerId operation = detached at h ⊢
    dsimp only at h
    split at h
    · cases h
      cases detached <;> rfl
    · obtain ⟨entry, -, hentry⟩ := Option.map_eq_some_iff.1 h
      cases hentry
      cases detached <;> rfl
  cases operation with
  | agentDetach deviceId =>
    rw [detachedDevice] at hdetached
    split at hdetached
    · rename_i howns
      unfold LeaseBook.ownsDevice at howns
      rw [Bool.and_eq_true, decide_eq_true_eq, decide_eq_true_eq] at howns
      exact .inr ⟨deviceId, rfl, howns.2, hdetached⟩
    · exact .inl hdetached
  | _ => exact .inl hdetached

section

variable [Sha256] {config : Config} {env : Env} {runtime : Runtime}

theorem devicePeers_appleRunAccept (peerId : String) (operation : AppleRequest) :
    (appleRunAccept config env peerId operation runtime).1.state.devicePeers
      = runtime.state.devicePeers := by
  unfold appleRunAccept
  split
  · split
    · rfl
    · rfl
  · split
    · rfl
    · exact (congrArg DurableState.devicePeers (locked_storeStateOrPanic _ env _).1).trans rfl

theorem devicePeers_run (env : Env) (operation : RunRequest) (runtime : Runtime) :
    (run env operation runtime).1.state.devicePeers = runtime.state.devicePeers := by
  have hstate : ∀ jobId, (Runtime.storeState
      { runtime with state := runtime.state.acceptRun jobId operation } env).state.devicePeers
        = runtime.state.devicePeers := fun jobId =>
    (congrArg DurableState.devicePeers (state_storeState _ env)).trans rfl
  unfold run
  split
  · rfl
  · split
    · rfl
    · split
      · rfl
      · dsimp only
        split
        · exact hstate _
        · exact hstate _

end

theorem devicePeers_appleRunLease (env : Env) (peerId : String) (operation : AppleRequest)
    (runtime : Runtime) :
    (appleRunLease env peerId operation runtime).1.state.devicePeers = runtime.state.devicePeers := by
  have hstate := congrArg DurableState.devicePeers (state_storeLeases
    { runtime with leases := runtime.leases.expire env.orders.active env.nowMs } env)
  unfold appleRunLease
  dsimp only
  split
  · exact hstate
  · split
    · exact hstate
    · exact hstate

theorem devicePeers_progressOngoing (env : Env) (jobId : String) (events : List NetworkEvent)
    (runtime : Runtime) :
    (progressOngoing env jobId events runtime).1.state.devicePeers = runtime.state.devicePeers := by
  generalize hstored : Runtime.storeLeases
    { runtime with
      leases :=
        (restoreAcknowledgedWriter runtime.state runtime.leases env.orders env.nowMs jobId).2 } env
      = stored
  have hstate : stored.state = runtime.state := by rw [← hstored, state_storeLeases]
  have hprogressed : (Runtime.storeState
      { stored with
        state := (stored.state.progress jobId events).acknowledge jobId } env).state.devicePeers
      = runtime.state.devicePeers := by
    rw [state_storeState]
    change stored.state.devicePeers = _
    rw [hstate]
  unfold progressOngoing
  dsimp only
  rw [hstored]
  split
  · exact congrArg DurableState.devicePeers hstate
  · split
    · exact congrArg DurableState.devicePeers hstate
    · split
      · exact hprogressed
      · split
        · exact hprogressed
        · exact hprogressed

theorem devicePeers_appleCancel (env : Env) (peerId jobId : String) (runtime : Runtime) :
    (appleCancel env peerId jobId runtime).1.state.devicePeers = runtime.state.devicePeers := by
  unfold appleCancel
  split
  · rfl
  · split
    · rfl
    · refine (congrArg DurableState.devicePeers (locked_storeStateOrPanic _ env _).1).trans ?_
      dsimp only
      split
      · rfl
      · rfl

/-! ### A device with a writer -/

/-- **How a device with a writer may get lost to its agent**: the agent takes it back; or the agent has
stopped to show it, and the writer has finished. -/
def Stays (event : Event) (deviceId owner : String) (before after : Runtime) : Prop :=
  after.state.devicePeers.lookup deviceId = some owner ∨
    event = .request owner (.lease (.agentDetach deviceId)) ∨
    deviceId ∈ before.leases.pendingDetach ∧ after.leases.writers.lookup deviceId = none

section

variable {event : Event} {deviceId owner : String} {before after : Runtime}

theorem Stays.of_same (howner : before.state.devicePeers.lookup deviceId = some owner)
    (h : after.state.devicePeers = before.state.devicePeers) : Stays event deviceId owner before after :=
  .inl (by rw [h]; exact howner)

theorem Stays.of_finishWriters (locked : Locked)
    (howner : before.state.devicePeers.lookup deviceId = some owner) (hpeers : locked.state.devicePeers = before.state.devicePeers)
    (hleases : locked.leases = before.leases) {deviceIds : List String} {nowMs : ℕ}
    (hstate : after.state.devicePeers = (locked.finishWriters deviceIds nowMs).state.devicePeers)
    (hafter : after.leases = (locked.finishWriters deviceIds nowMs).leases) :
    Stays event deviceId owner before after := by
  obtain ⟨hother, hsame⟩ := locked.finishWriters_at deviceIds nowMs deviceId
  rw [hpeers] at hother hsame
  by_cases hmem : deviceId ∈ deviceIds
  · obtain ⟨hwriter, hpeer | hmark⟩ := hsame hmem
    · exact .inl (by rw [hstate, hpeer, howner])
    · exact .inr (.inr ⟨hleases ▸ hmark, hafter ▸ hwriter⟩)
  · exact .inl (by rw [hstate, (hother hmem).1, howner])

end

section

variable {config : Config} {env : Env} {event : Event} {runtime : Runtime} {deviceId owner : String}

theorem stays_heartbeatInventory (hwriter : (runtime.leases.writers.lookup deviceId).isSome)
    (howner : runtime.state.devicePeers.lookup deviceId = some owner) (peerId : String)
    (host : Dashboard.HostSnapshot) :
    Stays event deviceId owner runtime (heartbeatInventory config env peerId host runtime).1 := by
  unfold heartbeatInventory
  split
  · exact .of_same howner rfl
  · split
    · exact .of_same howner rfl
    · split
      · exact .of_same howner rfl
      · rename_i hfree
        rw [Bool.not_eq_true] at hfree
        have hkept := (runtime.locked.inventory_at env.orders env.nowMs hfree howner).2 hwriter
        dsimp only
        split
        · exact .inl ((congrArg (fun state => state.devicePeers.lookup deviceId)
            (state_storeLeases _ env)).trans hkept)
        · exact .inl ((congrArg (fun state => state.devicePeers.lookup deviceId)
            (state_storeLeases _ env)).trans hkept)

theorem stays_progressTerminal (howner : runtime.state.devicePeers.lookup deviceId = some owner)
    (jobId : String) (events : List NetworkEvent) :
    Stays event deviceId owner runtime (progressTerminal env jobId events runtime).1 := by
  have hfinished : ∀ after : Runtime,
      after.state = (Locked.finishWriters ⟨runtime.state.progress jobId events, runtime.leases⟩
        (writtenDevices runtime.leases env.orders jobId) env.nowMs).state.finish jobId →
      after.leases = (Locked.finishWriters ⟨runtime.state.progress jobId events, runtime.leases⟩
        (writtenDevices runtime.leases env.orders jobId) env.nowMs).leases →
      Stays event deviceId owner runtime after := by
    intro after hstate hleases
    refine .of_finishWriters ⟨runtime.state.progress jobId events, runtime.leases⟩ howner rfl rfl ?_
      hleases
    rw [hstate]
    rfl
  unfold progressTerminal
  dsimp only
  split
  · exact hfinished _ (state_storeState _ env) (leases_storeState _ env)
  · exact hfinished _ (state_storeState _ env) (leases_storeState _ env)

theorem stays_leaseRequest (howner : runtime.state.devicePeers.lookup deviceId = some owner)
    (peerId : String) (operation : LeaseRequest) (hevent : event = .request peerId (.lease operation)) :
    Stays event deviceId owner runtime (leaseRequest config env peerId operation runtime).1 := by
  unfold leaseRequest
  split
  · exact .of_same howner rfl
  · rename_i answer devicePeers leases hlease
    have hpeers := devicePeers_lease hlease
    have hstays : ∀ after : Runtime, after.state.devicePeers = devicePeers →
        Stays event deviceId owner runtime after := by
      intro after hafter
      rcases hpeers with hsame | ⟨other, hdetach, hpeer, herased⟩
      · exact .of_same howner (hafter.trans hsame)
      · by_cases heq : deviceId = other
        · subst heq
          rw [howner, Option.some.injEq] at hpeer
          subst hpeer
          exact .inr (.inl (by rw [hevent, hdetach]))
        · exact .inl (by rw [hafter, herased, Map.lookup_erase, if_neg heq, howner])
    dsimp only
    split
    · exact hstays _ (congrArg DurableState.devicePeers (state_storeLeases _ env))
    · split
      · exact hstays _ (congrArg DurableState.devicePeers
          ((state_storeState _ env).trans (state_storeLeases _ env)))
      · exact hstays _ (congrArg DurableState.devicePeers
          ((state_storeState _ env).trans (state_storeLeases _ env)))

theorem stays_settle (howner : runtime.state.devicePeers.lookup deviceId = some owner) (env : Env)
    (holder : Holder) : Stays event deviceId owner runtime (settle env runtime holder).1 := by
  cases holder with
  | reconciling =>
    exact .of_finishWriters runtime.locked howner rfl rfl
      (congrArg DurableState.devicePeers (state_storeLeases _ env)) (leases_storeLeases _ env)
  | rollingBack | storingLeases =>
    exact .of_same howner (congrArg DurableState.devicePeers (state_storeLeases _ env))
  | panicked => exact .of_same howner rfl

variable [Sha256]

theorem stays_request (hwriter : (runtime.leases.writers.lookup deviceId).isSome)
    (howner : runtime.state.devicePeers.lookup deviceId = some owner) {peerId : String} {req : Request}
    (hevent : event = .request peerId req) :
    Stays event deviceId owner runtime (request config env peerId runtime req).1 := by
  cases req with
  | heartbeat host => exact stays_heartbeatInventory hwriter howner peerId host
  | complete jobId artifact events =>
    refine .of_same howner ?_
    change (completeJob env jobId artifact events runtime).1.state.devicePeers = _
    unfold completeJob
    split
    · rfl
    · exact (congrArg DurableState.devicePeers (locked_storeStateOrPanic _ env _).1).trans rfl
  | run operation => exact .of_same howner (devicePeers_run env operation runtime)
  | appleRun operation =>
    refine .of_same howner ?_
    change (appleRun config env peerId operation runtime).1.state.devicePeers = _
    unfold appleRun
    split
    · rfl
    · split
      · exact devicePeers_appleRunLease env peerId operation runtime
      · exact devicePeers_appleRunAccept peerId operation
  | appleProgress jobId events terminal =>
    change Stays event deviceId owner runtime
      (appleProgress env peerId jobId events terminal runtime).1
    unfold appleProgress
    split
    · exact .of_same howner rfl
    · split
      · exact stays_progressTerminal howner jobId events
      · exact .of_same howner (devicePeers_progressOngoing env jobId events runtime)
  | appleCancel jobId => exact .of_same howner (devicePeers_appleCancel env peerId jobId runtime)
  | artifactRegister jobId name mediaType totalSize sha256 =>
    refine .of_same howner ?_
    change (registerArtifact peerId jobId name mediaType totalSize sha256 runtime).1.state.devicePeers = _
    unfold registerArtifact
    split
    · rfl
    · rfl
  | lease operation => exact stays_leaseRequest howner peerId operation hevent
  | _ => exact .of_same howner rfl

/-- **A device with a writer stays with its agent**, unless the agent gives it up. -/
theorem stays_handle (hwriter : (runtime.leases.writers.lookup deviceId).isSome)
    (howner : runtime.state.devicePeers.lookup deviceId = some owner) (config : Config) (env : Env)
    (event : Event) : Stays event deviceId owner runtime (handle config env event runtime).1 := by
  cases event with
  | request peerId req =>
    rcases handle_request_cases config env peerId req runtime with ⟨_, heq, -⟩ | ⟨-, -, heq⟩
    · rw [heq]
      exact .of_same howner rfl
    · rw [heq]
      exact stays_request hwriter howner rfl
  | resume flight =>
    rcases handle_resume_cases config env flight runtime with heq | ⟨-, -, heq⟩
    · rw [heq]
      exact .of_same howner rfl
    · rw [heq]
      refine .of_same howner ?_
      cases flight with
      | inventoried host =>
        change (heartbeatExpire env host _).1.state.devicePeers = _
        unfold heartbeatExpire
        dsimp only
        split
        · exact congrArg DurableState.devicePeers (state_storeLeases _ env)
        · exact congrArg DurableState.devicePeers (state_storeLeases _ env)
      | online hostId => exact devicePeers_heartbeatDispatch config env hostId _
      | leased peerId operation => exact devicePeers_appleRunAccept peerId operation
      | running jobId =>
        change (runWait jobId _).1.state.devicePeers = _
        unfold runWait
        split
        · rfl
        · rfl
      | _ => rfl
  | settle =>
    unfold handle
    split
    · unfold perform
      dsimp only
      split
      · exact .of_same howner rfl
      · exact stays_settle howner env _
    · exact .of_same howner rfl

end

/-! ### Heartbeats -/

structure LeavesDevice (env : Env) (deviceId : String) (before after : Runtime) : Prop where
  owner : after.state.devicePeers.lookup deviceId = before.state.devicePeers.lookup deviceId
  writer : after.leases.writers.lookup deviceId = before.leases.writers.lookup deviceId
  lease : after.leases.active.lookup deviceId = before.leases.active.lookup deviceId ∨
    after.leases.active.lookup deviceId
      = (before.leases.expire env.orders.active env.nowMs).active.lookup deviceId

section

variable {config : Config} {env : Env} {runtime after : Runtime} {deviceId : String}

theorem LeavesDevice.of_same (hpeers : after.state.devicePeers = runtime.state.devicePeers)
    (hleases : after.leases = runtime.leases) : LeavesDevice env deviceId runtime after :=
  ⟨by rw [hpeers], by rw [hleases], .inl (by rw [hleases])⟩

theorem LeavesDevice.of_expire (hpeers : after.state.devicePeers = runtime.state.devicePeers)
    (hleases : after.leases = runtime.leases.expire env.orders.active env.nowMs) :
    LeavesDevice env deviceId runtime after := by
  refine ⟨by rw [hpeers], ?_, .inr (by rw [hleases])⟩
  rw [hleases, (runtime.leases.expire_spares env.orders.active env.nowMs).writers]

theorem leavesDevice_heartbeatInventory {owner peerId : String}
    (howner : runtime.state.devicePeers.lookup deviceId = some owner) (hne : owner ≠ peerId)
    (host : Dashboard.HostSnapshot) :
    LeavesDevice env deviceId runtime (heartbeatInventory config env peerId host runtime).1 := by
  unfold heartbeatInventory
  split
  · exact .of_same rfl rfl
  · split
    · exact .of_same rfl rfl
    · split
      · exact .of_same rfl rfl
      · rename_i hfree
        rw [Bool.not_eq_true] at hfree
        obtain ⟨hpeer, hbook⟩ := (runtime.locked.inventory_at env.orders env.nowMs hfree howner).1 hne
        have hkept : ∀ after : Runtime, after.state = (runtime.locked.inventory env.orders env.nowMs peerId
              host.id (connectedDevices host)).state →
            after.leases = (runtime.locked.inventory env.orders env.nowMs peerId host.id
              (connectedDevices host)).leases → LeavesDevice env deviceId runtime after := by
          intro after hstate hleases
          refine ⟨?_, ?_, .inl ?_⟩
          · rw [hstate, hpeer, howner]
          · rw [hleases]
            exact hbook.writer
          · rw [hleases]
            exact hbook.lease
        dsimp only
        split
        · exact hkept _ (state_storeLeases _ env) (leases_storeLeases _ env)
        · exact hkept _ (state_storeLeases _ env) (leases_storeLeases _ env)

theorem leavesDevice_heartbeatExpire (env : Env) (deviceId : String) (runtime : Runtime)
    (host : Dashboard.HostSnapshot) :
    LeavesDevice env deviceId runtime (heartbeatExpire env host runtime).1 := by
  have hkept : ∀ after : Runtime, after.state = runtime.state →
      after.leases = runtime.leases.expire env.orders.active env.nowMs →
        LeavesDevice env deviceId runtime after := by
    intro after hstate hleases
    exact .of_expire (congrArg DurableState.devicePeers hstate) hleases
  unfold heartbeatExpire
  dsimp only
  split
  · exact hkept _ (state_storeLeases _ env) (leases_storeLeases _ env)
  · exact hkept _ (state_storeLeases _ env) (leases_storeLeases _ env)

/-- **Who gets a job that is given out**: an Apple job that names a device is given to the agent that the
device belongs to, if it is given out at all. -/
def GivesToOwner (env : Env) (hostId : String) (runtime : Runtime) : Prop :=
  ∀ jobId operation, runtime.state.nextApple runtime.leases env.orders hostId = some (jobId, operation) →
    (∀ deviceId leaseId, leaseNeeded operation = some (deviceId, leaseId) →
      ((runtime.leases.expire env.orders.active env.nowMs).leaseOf deviceId leaseId
        (runtime.state.jobClients.lookup jobId)).isSome) →
    ∀ deviceId, operation.deviceId = some deviceId →
      ∃ peerId, runtime.state.hostPeers.lookup hostId = some peerId ∧
        runtime.state.devicePeers.lookup deviceId = some peerId

theorem deviceId_of_leaseNeeded {operation : AppleRequest} {leaseId : String}
    (h : leaseNeeded operation = some (deviceId, leaseId)) : operation.deviceId = some deviceId := by
  unfold leaseNeeded at h
  split at h
  · split at h
    · rename_i hdevice hlease
      cases h
      exact hdevice
    · cases h
  · cases h

theorem leases_dispatchApple (config : Config) (env : Env) (jobId : String) (operation : AppleRequest)
    (response : Response) (runtime : Runtime) :
    (dispatchApple config env jobId operation response runtime).1.leases = runtime.leases ∨
    (dispatchApple config env jobId operation response runtime).1.leases
      = runtime.leases.expire env.orders.active env.nowMs ∨
    ∃ deviceId leaseId, leaseNeeded operation = some (deviceId, leaseId) ∧
      ((runtime.leases.expire env.orders.active env.nowMs).leaseOf deviceId leaseId
        (runtime.state.jobClients.lookup jobId)).isSome ∧
      (dispatchApple config env jobId operation response runtime).1.leases
        = (runtime.leases.expire env.orders.active env.nowMs).setWriter deviceId jobId := by
  unfold dispatchApple
  split
  · exact .inl (locked_heartbeatAnswer _ _ _).2
  · rename_i deviceId leaseId hneeds
    dsimp only
    split
    · exact .inr (.inl (locked_heartbeatAnswer _ _ _).2)
    · rename_i lease hlease
      refine .inr (.inr ⟨deviceId, leaseId, hneeds, by rw [hlease]; rfl, ?_⟩)
      split
      · exact (locked_heartbeatAnswer _ _ _).2.trans (leases_storeLeases _ env)
      · exact leases_storeLeases _ env

theorem leavesDevice_dispatchApple (config : Config) (runtime : Runtime) {jobId : String}
    {operation : AppleRequest}
    (h : ∀ other leaseId, leaseNeeded operation = some (other, leaseId) →
      ((runtime.leases.expire env.orders.active env.nowMs).leaseOf other leaseId
        (runtime.state.jobClients.lookup jobId)).isSome → deviceId ≠ other) (response : Response) :
    LeavesDevice env deviceId runtime
      (dispatchApple config env jobId operation response runtime).1 := by
  have hpeers := devicePeers_dispatchApple config env jobId operation response runtime
  rcases leases_dispatchApple config env jobId operation response runtime with
    hsame | hexpired | ⟨other, leaseId, hneeds, hlease, hwritten⟩
  · exact .of_same hpeers hsame
  · exact .of_expire hpeers hexpired
  · refine ⟨by rw [hpeers], ?_, .inr (by rw [hwritten]; rfl)⟩
    rw [hwritten, LeaseBook.setWriter, Map.lookup_insert_ne (h other leaseId hneeds hlease),
      (runtime.leases.expire_spares env.orders.active env.nowMs).writers]

theorem leavesDevice_heartbeatDispatch (config : Config) (runtime : Runtime)
    {hostId owner peerId : String} (hgives : GivesToOwner env hostId runtime)
    (hhost : runtime.state.hostPeers.lookup hostId = some peerId)
    (howner : runtime.state.devicePeers.lookup deviceId = some owner) (hne : owner ≠ peerId) :
    LeavesDevice env deviceId runtime (heartbeatDispatch config env hostId runtime).1 := by
  unfold heartbeatDispatch
  dsimp only
  generalize runtime.state.nextRun env.orders hostId = job
  have hclients : (job.elim runtime.state fun job => runtime.state.dispatch job.1).jobClients
      = runtime.state.jobClients := by
    cases job with
    | none | some => rfl
  have hpeers : (job.elim runtime.state fun job => runtime.state.dispatch job.1).devicePeers
      = runtime.state.devicePeers := by
    cases job with
    | none | some => rfl
  split
  · exact .of_same ((devicePeers_heartbeatAnswer _ _ _).trans hpeers) (locked_heartbeatAnswer _ _ _).2
  · rename_i jobId operation hnext
    have hother : ∀ other leaseId, leaseNeeded operation = some (other, leaseId) →
        ((runtime.leases.expire env.orders.active env.nowMs).leaseOf other leaseId
          (runtime.state.jobClients.lookup jobId)).isSome → deviceId ≠ other := by
      rintro other leaseId hneeds hlease rfl
      obtain ⟨peer, hpeer, hdevice⟩ := hgives jobId operation hnext
        (fun other' leaseId' hneeds' => by
          rw [hneeds] at hneeds'
          cases hneeds'
          exact hlease) deviceId (deviceId_of_leaseNeeded hneeds)
      rw [hhost, Option.some.injEq] at hpeer
      rw [howner, Option.some.injEq] at hdevice
      exact hne (hdevice.trans hpeer.symm)
    rw [← hclients] at hother
    have hleaves := leavesDevice_dispatchApple config
      { runtime with state := job.elim runtime.state fun job => runtime.state.dispatch job.1 } hother
      (job.elim response fun job =>
        { response with
          operation := some job.2
          jobId := some job.1 })
    exact ⟨hleaves.owner.trans (by rw [hpeers]), hleaves.writer, hleaves.lease⟩

end

/-! ### Starts -/

theorem start_of_holder {env : Env} {again : DiskWrite} {unreadable : Option String} {debris : String → List UInt8}
    {runtime : Runtime} (h : (start env again unreadable debris runtime).holder = none) {found : Locked}
    (hfound : found = ⟨loadState runtime.storedState unreadable,
      runtime.storedLeases.expire env.orders.active env.nowMs⟩) :
    (start env again unreadable debris runtime).state
        = (found.finishWriters (orphanedDevices found env.orders) env.nowMs).state ∧
      (start env again unreadable debris runtime).leases
        = (found.finishWriters (orphanedDevices found env.orders) env.nowMs).leases := by
  have hlocked : ((loaded env unreadable debris runtime).storeLeases env).locked = found := by
    rw [hfound, Runtime.locked, state_storeLeases, leases_storeLeases]
    rfl
  unfold start at h ⊢
  dsimp only at h ⊢
  rw [hlocked] at h ⊢
  split at h
  · cases h
  · rename_i hleases
    rw [if_neg hleases]
    split at h
    · -- no writer has to be taken away
      rename_i hnone
      rw [if_pos hnone]
      have hempty : orphanedDevices found env.orders = [] := by
        by_contra hne
        exact Bool.false_ne_true (hnone.symm.trans (decide_eq_true hne))
      rw [hempty, ← hlocked]
      exact ⟨rfl, rfl⟩
    · rename_i hsome
      rw [if_neg hsome]
      split at h
      · cases h
      · rename_i hstate
        rw [if_neg hstate]
        split at h
        · cases h
        · rename_i hagain
          rw [if_neg hagain, state_storeLeases, leases_storeLeases, state_storeState, leases_storeState]
          exact ⟨rfl, rfl⟩

theorem underWay_of_not_orphaned {locked : Locked} {orders : Orders} {writer : DeviceWriter}
    (hwriter : locked.leases.writers.lookup deviceId = some writer)
    (h : deviceId ∉ orphanedDevices locked orders) :
    writer.jobId ∈ locked.state.acknowledged ∧
      (locked.state.applePending.lookup writer.jobId).isSome := by
  by_contra hnot
  refine h (List.mem_map.2 ⟨(deviceId, writer), List.mem_filter.2 ⟨Map.mem_entriesIn.2 hwriter, ?_⟩, rfl⟩)
  rw [Bool.or_eq_true, decide_eq_true_eq]
  by_cases hmem : writer.jobId ∈ locked.state.acknowledged
  · refine .inr ?_
    rw [← Option.not_isSome, Bool.not_eq_true']
    exact Bool.eq_false_iff.2 fun hsome => hnot ⟨hmem, hsome⟩
  · exact .inl hmem

/-! ### Runs -/

/-- The registry, and the agent whose heartbeat has the state locked. -/
structure Watched where
  runtime : Runtime
  beating : Option String

namespace Watched

def empty : Watched := ⟨Runtime.empty, none⟩

/-- The agent whose heartbeat has a section in an event: the host of a heartbeat belongs to the agent that
has sent it. -/
def heartbeat (watched : Watched) : Event → Option String
  | .request peerId (.heartbeat _) => some peerId
  | .resume (.inventoried host) => watched.runtime.state.hostPeers.lookup host.id
  | .resume (.expired host) => watched.runtime.state.hostPeers.lookup host.id
  | .resume (.online hostId) => watched.runtime.state.hostPeers.lookup hostId
  | .settle => if watched.runtime.holder = some .reconciling then watched.beating else none
  | _ => none

end Watched

section

variable [Sha256] {config : Config} {env : Env} {event : Event} {watched : Watched}

def Watched.next (config : Config) (watched : Watched) (input : Input) : Watched :=
  { runtime := watched.runtime.next config input
    beating :=
      match input with
      | .event _ (.resume (.online hostId)) =>
        if watched.runtime.holder.isSome then watched.beating
        else watched.runtime.state.hostPeers.lookup hostId
      | _ => watched.beating }

theorem runtime_foldl_next (config : Config) (inputs : List Input) (watched : Watched) :
    (inputs.foldl (Watched.next config) watched).runtime = watched.runtime.runInputs config inputs := by
  induction inputs generalizing watched with
  | nil => rfl
  | cons input inputs ih => exact ih (watched.next config input)

/-- **What a step does to devices**: a heartbeat leaves those of other agents alone; a device with a writer
stays with its agent, unless the agent gives it up; and an Apple job that names a device is given to the
agent of the device. -/
structure OwnersKept (config : Config) (watched : Watched) (input : Input) : Prop where
  heartbeat : ∀ env event peerId deviceId owner, input = .event env event →
    watched.heartbeat event = some peerId →
    watched.runtime.state.devicePeers.lookup deviceId = some owner → owner ≠ peerId →
      LeavesDevice env deviceId watched.runtime (handle config env event watched.runtime).1
  gives : ∀ env event deviceId owner, input = .event env event →
    (watched.runtime.leases.writers.lookup deviceId).isSome →
    watched.runtime.state.devicePeers.lookup deviceId = some owner →
      Stays event deviceId owner watched.runtime (handle config env event watched.runtime).1
  starts : ∀ env again unreadable debris deviceId writer owner,
    input = .start env again unreadable debris →
    watched.runtime.leases.writers.lookup deviceId = some writer →
    watched.runtime.state.devicePeers.lookup deviceId = some owner →
    (watched.runtime.next config input).holder = none →
    (watched.runtime.next config input).leases.writers.lookup deviceId = some writer →
      (watched.runtime.next config input).state.devicePeers.lookup deviceId = some owner
  answers : ∀ env event answer operation deviceId, input = .event env event →
    (handle config env event watched.runtime).2 = some answer →
    answer.appleOperation = some operation → operation.deviceId = some deviceId →
      ∃ peerId, watched.heartbeat event = some peerId ∧
        (handle config env event watched.runtime).1.state.devicePeers.lookup deviceId = some peerId

/-- **A step keeps to the owners of devices**: an Apple job is given to the agent of its device; where the
state could not be written, the writers that are taken away are on devices of the agent of the heartbeat;
and where the registry starts, the disk has the agents of the devices whose writers go on. -/
def KeepsToOwners (watched : Watched) : Input → Prop
  | .event env (.resume (.online hostId)) => .online hostId ∈ watched.runtime.flights →
      watched.runtime.holder = none → GivesToOwner env hostId watched.runtime
  | .event env .settle => watched.runtime.holder = some .reconciling →
      ∀ deviceId ∈ orphanedDevices watched.runtime.locked env.orders, ∀ owner,
        watched.runtime.state.devicePeers.lookup deviceId = some owner → watched.beating = some owner
  | .event _ _ => True
  | .start _ _ unreadable _ => unreadable = none → ∀ deviceId writer owner,
      watched.runtime.leases.writers.lookup deviceId = some writer →
      watched.runtime.state.devicePeers.lookup deviceId = some owner →
      watched.runtime.storedLeases.writers.lookup deviceId = some writer →
      writer.jobId ∈ watched.runtime.storedState.acknowledged →
      (watched.runtime.storedState.applePending.lookup writer.jobId).isSome →
        watched.runtime.storedState.devicePeers.lookup deviceId = some owner

theorem leavesDevice_handle {peerId owner : String} (h : KeepsToOwners watched (.event env event))
    (hpeer : watched.heartbeat event = some peerId)
    (howner : watched.runtime.state.devicePeers.lookup deviceId = some owner) (hne : owner ≠ peerId) :
    LeavesDevice env deviceId watched.runtime (handle config env event watched.runtime).1 := by
  cases event with
  | request peer req =>
    rcases handle_request_cases config env peer req watched.runtime with ⟨result, heq, -⟩ | ⟨-, -, heq⟩
    · rw [heq]
      exact .of_same rfl rfl
    · rw [heq]
      cases req with
      | heartbeat host =>
        cases hpeer
        exact leavesDevice_heartbeatInventory howner hne host
      | _ => cases hpeer
  | resume flight =>
    rcases handle_resume_cases config env flight watched.runtime with heq | ⟨hmem, hfree, heq⟩
    · rw [heq]
      exact .of_same rfl rfl
    · rw [heq]
      cases flight with
      | inventoried host =>
        obtain ⟨howner, hwriter, hlease⟩ := leavesDevice_heartbeatExpire env deviceId
          { watched.runtime with
            flights := watched.runtime.flights.erase (.inventoried host) } host
        exact ⟨howner, hwriter, hlease⟩
      | expired => exact .of_same rfl rfl
      | online hostId =>
        obtain ⟨howner, hwriter, hlease⟩ := leavesDevice_heartbeatDispatch config
          { watched.runtime with
            flights := watched.runtime.flights.erase (.online hostId) } (h hmem (hfree rfl)) hpeer
          howner hne
        exact ⟨howner, hwriter, hlease⟩
      | _ => cases hpeer
  | settle =>
    change (if watched.runtime.holder = some .reconciling then watched.beating else none) = _ at hpeer
    split at hpeer
    · rename_i hholder
      have hnot : deviceId ∉ orphanedDevices watched.runtime.locked env.orders := by
        intro hmem
        have hbeating := h hholder deviceId hmem owner howner
        exact hne (Option.some.inj (hbeating.symm.trans hpeer))
      obtain ⟨hpeers, hbook⟩ := (watched.runtime.locked.finishWriters_at _ env.nowMs deviceId).1 hnot
      have hkept : ∀ after : Runtime, after.state = (watched.runtime.locked.finishWriters
            (orphanedDevices watched.runtime.locked env.orders) env.nowMs).state →
          after.leases = (watched.runtime.locked.finishWriters
            (orphanedDevices watched.runtime.locked env.orders) env.nowMs).leases →
          LeavesDevice env deviceId watched.runtime after := by
        intro after hstate hleases
        refine ⟨by rw [hstate]; exact hpeers, ?_, .inl ?_⟩
        · rw [hleases]
          exact hbook.writer
        · rw [hleases]
          exact hbook.lease
      unfold handle
      split
      · unfold perform
        dsimp only
        rw [hholder]
        exact hkept _ (state_storeLeases _ env) (leases_storeLeases _ env)
      · exact .of_same rfl rfl
    · cases hpeer

theorem owner_of_answer {answer : Response} {operation : AppleRequest}
    (h : KeepsToOwners watched (.event env event))
    (hanswer : (handle config env event watched.runtime).2 = some answer)
    (hoperation : answer.appleOperation = some operation)
    (hdevice : operation.deviceId = some deviceId) :
    ∃ peerId, watched.heartbeat event = some peerId ∧
      (handle config env event watched.runtime).1.state.devicePeers.lookup deviceId = some peerId := by
  have hplain : ¬ answer.Plain := by
    rintro ⟨hnone, -⟩
    cases hnone.symm.trans hoperation
  by_cases hlease : ∃ peerId request, event = .request peerId (.lease request)
  · obtain ⟨peerId, request, rfl⟩ := hlease
    rcases handle_request_answer hanswer with ⟨_, rfl⟩ | ⟨hrequest, -⟩
    · cases hoperation
    · rcases leaseRequest_answer hrequest with hnot | ⟨leaseId, status, grant, -, hnone, -⟩
      · exact absurd hnot hplain
      · cases hnone.symm.trans hoperation
  · by_cases honline : ∃ hostId, event = .resume (.online hostId)
    · obtain ⟨hostId, rfl⟩ := honline
      rcases handle_resume_cases config env (.online hostId) watched.runtime with
        heq | ⟨hmem, hfree, heq⟩
      · rw [heq] at hanswer
        cases hanswer
      · rw [heq] at hanswer ⊢
        obtain hnot | ⟨jobId, next, hnext, ⟨hgiven, hhands⟩, -, -⟩ := heartbeatDispatch_answer hanswer
        · exact absurd hnot hplain
        · obtain rfl := Option.some.inj (hgiven.symm.trans hoperation)
          obtain ⟨peerId, hpeer, howner⟩ := h hmem (hfree rfl) jobId next hnext
            (fun other leaseId hneeds => by
              rcases hhands with ⟨hnone, -⟩ | ⟨_, _, lease, grant, hneeds', hlease, -⟩
              · cases hneeds.symm.trans hnone
              · cases hneeds.symm.trans hneeds'
                exact Option.isSome_iff_exists.2 ⟨lease, hlease⟩) deviceId hdevice
          refine ⟨peerId, hpeer, ?_⟩
          change (heartbeatDispatch config env hostId _).1.state.devicePeers.lookup deviceId = _
          rw [devicePeers_heartbeatDispatch]
          exact howner
    · exact absurd (plain_handle config env watched.runtime (fun peerId request heq =>
        hlease ⟨peerId, request, heq⟩) (fun hostId heq => honline ⟨hostId, heq⟩) answer hanswer) hplain

theorem owner_of_start {again : DiskWrite} {unreadable : Option String} {debris : String → List UInt8}
    {owner : String} {writer : DeviceWriter}
    (h : KeepsToOwners watched (.start env again unreadable debris))
    (hwriter : watched.runtime.leases.writers.lookup deviceId = some writer)
    (howner : watched.runtime.state.devicePeers.lookup deviceId = some owner)
    (hholder : (watched.runtime.next config (.start env again unreadable debris)).holder = none)
    (hafter : (watched.runtime.next config
      (.start env again unreadable debris)).leases.writers.lookup deviceId = some writer) :
    (watched.runtime.next config (.start env again unreadable debris)).state.devicePeers.lookup deviceId
      = some owner := by
  unfold Runtime.next at hholder hafter ⊢
  dsimp only at hholder hafter ⊢
  split at hholder
  · rename_i hnext
    rw [if_pos hnext] at hafter ⊢
    obtain ⟨found, hfound⟩ : ∃ found : Locked, found = ⟨loadState watched.runtime.storedState unreadable,
      watched.runtime.storedLeases.expire env.orders.active env.nowMs⟩ := ⟨_, rfl⟩
    obtain ⟨hstate, hleases⟩ := start_of_holder hholder hfound
    obtain ⟨hother, hsame⟩ := found.finishWriters_at (orphanedDevices found env.orders) env.nowMs deviceId
    rw [hleases] at hafter
    have hnot : deviceId ∉ orphanedDevices found env.orders := by
      intro hmem
      rw [(hsame hmem).1] at hafter
      cases hafter
    obtain ⟨hpeers, hbook⟩ := hother hnot
    have hstored := hbook.writer.symm.trans hafter
    obtain ⟨hacknowledged, hpending⟩ := underWay_of_not_orphaned hstored hnot
    rw [hstate, hpeers]
    rw [hfound] at hstored hacknowledged hpending ⊢
    cases unreadable with
    | some => exact absurd hacknowledged (Finset.notMem_empty _)
    | none =>
      rw [(watched.runtime.storedLeases.expire_spares env.orders.active env.nowMs).writers] at hstored
      exact h rfl deviceId writer owner hwriter howner hstored hacknowledged hpending
  · rename_i hnext
    rw [if_neg hnext]
    exact howner

/-- **One step that keeps to the owners keeps them.** -/
theorem ownersKept_next {input : Input} (h : KeepsToOwners watched input) :
    OwnersKept config watched input := by
  refine ⟨?_, ?_, ?_, ?_⟩
  · rintro env event peerId deviceId owner rfl hpeer howner hne
    exact leavesDevice_handle h hpeer howner hne
  · rintro env event deviceId owner rfl hwriter howner
    exact stays_handle hwriter howner config env event
  · rintro env again unreadable debris deviceId writer owner rfl hwriter howner hholder hafter
    exact owner_of_start h hwriter howner hholder hafter
  · rintro env event answer operation deviceId rfl hanswer hoperation hdevice
    exact owner_of_answer h hanswer hoperation hdevice

/-- **The owners of devices are kept**: in every step; and a host stays one of the agent that has sent its
heartbeat, until the registry starts again. -/
structure DevicesOwned (config : Config) (inputs : List Input) : Prop where
  steps : AllSteps (Watched.next config) (OwnersKept config) inputs Watched.empty
  senders : ∀ before env peerId host middle after,
    inputs = before ++ .event env (.request peerId (.heartbeat host)) :: (middle ++ after) →
    (handle config env (.request peerId (.heartbeat host))
        (Runtime.empty.runInputs config before)).1.flights
      = .inventoried host :: (Runtime.empty.runInputs config before).flights →
    (∀ input ∈ middle, ∃ env event, input = .event env event) →
      (Runtime.empty.runInputs config (before ++
        .event env (.request peerId (.heartbeat host)) :: middle)).state.hostPeers.lookup host.id
          = some peerId

theorem hostPeers_of_heartbeat {peerId : String} {host : Dashboard.HostSnapshot} {runtime : Runtime}
    (h : (handle config env (.request peerId (.heartbeat host)) runtime).1.flights
      = .inventoried host :: runtime.flights) :
    (handle config env (.request peerId (.heartbeat host)) runtime).1.state.hostPeers.lookup host.id
      = some peerId := by
  have hclaimed : ∀ after : Runtime, after.state = (runtime.locked.inventory env.orders env.nowMs peerId
      host.id (connectedDevices host)).state → after.state.hostPeers.lookup host.id = some peerId := by
    intro after hstate
    rw [hstate, read_of_core DurableState.hostPeers (fun _ => rfl)
      (Locked.core_inventory runtime.locked env.orders env.nowMs peerId host.id (connectedDevices host))]
    exact Map.lookup_insert_self _ _ _
  rcases handle_request_cases config env peerId (.heartbeat host) runtime with
    ⟨result, heq, -⟩ | ⟨-, -, heq⟩
  · rw [heq] at h
    exact absurd h List.ne_cons_self
  · rw [heq] at h ⊢
    change (heartbeatInventory config env peerId host runtime).1.flights = _ at h
    change (heartbeatInventory config env peerId host runtime).1.state.hostPeers.lookup host.id = _
    unfold heartbeatInventory at h ⊢
    split
    · rename_i hagent
      rw [if_pos hagent] at h
      exact absurd h List.ne_cons_self
    · rename_i hagent
      rw [if_neg hagent] at h
      split
      · rename_i hvalid
        rw [if_pos hvalid] at h
        exact absurd h List.ne_cons_self
      · rename_i hvalid
        rw [if_neg hvalid] at h
        split
        · rename_i howner
          rw [if_pos howner] at h
          exact absurd h List.ne_cons_self
        · dsimp only
          split
          · exact hclaimed _ (state_storeLeases _ env)
          · exact hclaimed _ (state_storeLeases _ env)

/-- **Where all steps keep to the owners of devices, the owners are kept.** -/
theorem devicesOwned_of_run (config : Config) (inputs : List Input)
    (h : AllSteps (Watched.next config) KeepsToOwners inputs Watched.empty) :
    DevicesOwned config inputs := by
  refine ⟨h.mono fun watched input _ hkeeps => ownersKept_next hkeeps, ?_⟩
  intro before env peerId host middle after _ hflights hevents
  rw [Runtime.runInputs, List.foldl_append, List.foldl_cons]
  have hfirst := hostPeers_of_heartbeat hflights
  have hstep : ∀ (runtime : Runtime) (input : Input),
      runtime.state.hostPeers.lookup host.id = some peerId → (∃ env event, input = .event env event) →
        (runtime.next config input).state.hostPeers.lookup host.id = some peerId := by
    rintro runtime input hhost ⟨env, event, rfl⟩
    exact hostPeers_change (handle_change config env event runtime) hhost
  have hall : AllSteps (Runtime.next config) (fun _ input => ∃ env event, input = .event env event) middle
      (handle config env (.request peerId (.heartbeat host)) (Runtime.empty.runInputs config before)).1 :=
    allSteps_of_mem (fun _ input hmem => hevents input hmem) _
  exact (hall.always hstep hfirst).last

/-! ### A device that has been taken back -/

omit [Sha256] in
/-- The job is given to the agent of its device. -/
theorem devicesOwned_sample : letI := sampleHash
    DevicesOwned sampleConfig (eventInputs sampleAppleSteps) := by
  let _ := sampleHash
  refine devicesOwned_of_run _ _ ?_
  have hsplit : eventInputs sampleAppleSteps = eventInputs (sampleHostSteps ++ sampleJobSteps) ++
      [.event sampleEnv (.resume (.online "host"))] := rfl
  rw [hsplit, Runs.allSteps_append]
  refine ⟨⟨trivial, trivial, trivial, trivial, trivial, trivial, trivial⟩, ?_, trivial⟩
  have hrun : ((eventInputs (sampleHostSteps ++ sampleJobSteps)).foldl (Watched.next sampleConfig)
      Watched.empty).runtime = sampleAccepted := by
    rw [runtime_foldl_next, runInputs_eventInputs]
    change (sampleHostSteps ++ sampleJobSteps).foldl _ Runtime.empty = _
    rw [List.foldl_append, foldl_sampleHostSteps, foldl_sampleJobSteps]
  intro _ _
  rw [hrun]
  intro jobId operation hnext _ deviceId hdevice
  have hlookup : sampleAccepted.state.applePending.lookup jobId = some operation :=
    Map.mem_entriesIn.1 (List.mem_of_find?_eq_some hnext)
  obtain rfl := Map.eq_of_lookup_insert_empty hlookup
  have hpending : sampleAccepted.state.applePending.lookup sampleAppleId = some sampleOperation :=
    Map.lookup_insert_self _ _ _
  obtain rfl := Option.some.inj (hpending.symm.trans hlookup)
  cases hdevice
  exact ⟨"agent", Map.lookup_insert_self _ _ _, Map.lookup_insert_self _ _ _⟩

/-- The owners of devices are kept in every run. -/
def AlwaysDevicesOwned : Prop :=
  ∀ (config : Config) (inputs : List Input), DevicesOwned config inputs

def sampleTaken : DurableState :=
  { sampleOwned with devicePeers := sampleOwned.devicePeers.erase "phone" }

def sampleLet : Runtime :=
  { sampleOnline with
    state := sampleTaken
    storedState := sampleTaken }

def sampleAstray : Runtime :=
  { sampleLet with
    state := sampleTaken.acceptApple "client" sampleAppleId "host" sampleOperation
    storedState := sampleTaken.acceptApple "client" sampleAppleId "host" sampleOperation }

def sampleAstraySteps : List (Env × Event) :=
  sampleHostSteps.take 3 ++
    (sampleEnv, .request "agent" (.lease (.agentDetach "phone"))) ::
    (sampleEnv, .request "client" (.lease (.acquire "phone" 1000))) :: sampleJobSteps

theorem foldl_sampleAstraySteps :
    sampleAstraySteps.foldl (Runtime.step sampleConfig) Runtime.empty = sampleAstray := by
  have hdetach : sampleShown.step sampleConfig
      (sampleEnv, .request "agent" (.lease (.agentDetach "phone")))
      = { sampleShown with
          state := sampleTaken
          storedState := sampleTaken } := by
    refine step_request rfl rfl ?_ (Nat.zero_le _)
    have hlease : lease sampleConfig.sign sampleConfig.agentPeers sameOrder (.agentDetach "phone") "agent"
        sampleOwned.devicePeers LeaseBook.empty 0
        = some (LeaseBook.leaseStatus "detached", sampleTaken.devicePeers, LeaseBook.empty) := rfl
    exact (leaseRequest_fst hlease rfl).trans rfl
  have hacquire : ({ sampleShown with
        state := sampleTaken
        storedState := sampleTaken } : Runtime).step sampleConfig
      (sampleEnv, .request "client" (.lease (.acquire "phone" 1000))) = sampleLet := by
    refine step_request rfl rfl ?_ (Nat.le_of_ble_eq_true rfl)
    obtain ⟨_, hgranted⟩ := lease_sampleAcquire sampleTaken.devicePeers
    exact (leaseRequest_fst hgranted rfl).trans rfl
  have hasked : sampleLet.step sampleConfig (sampleEnv, .request "client" (.appleRun sampleOperation))
      = { sampleLet with flights := [.leased "client" sampleOperation, .online "host"] } := by
    refine step_request rfl rfl ?_ (Nat.le_of_ble_eq_true rfl)
    have hvalid : validateRequestEnvelope sampleOperation = .ok () := by decide
    change (appleRun _ _ _ _ _).1 = _
    unfold appleRun
    rw [hvalid]
    rfl
  rw [sampleAstraySteps, List.foldl_append, foldl_sampleShown, List.foldl_cons, hdetach, List.foldl_cons,
    hacquire, sampleJobSteps, List.foldl_cons, hasked]
  exact step_resume List.mem_cons_self rfl rfl (Nat.le_of_ble_eq_true rfl)

omit [Sha256] in
/-- A job is given to an agent that has taken its device back, whatever the hash function. -/
theorem not_alwaysDevicesOwned : ¬ ∃ _ : Sha256, AlwaysDevicesOwned := by
  rintro ⟨hash, h⟩
  have hsteps := (h sampleConfig (eventInputs sampleAstraySteps ++
    [.event sampleEnv (.resume (.online "host"))])).steps
  rw [Runs.allSteps_append] at hsteps
  have hrun : ((eventInputs sampleAstraySteps).foldl (Watched.next sampleConfig)
      Watched.empty).runtime = sampleAstray := by
    rw [runtime_foldl_next, runInputs_eventInputs]
    exact foldl_sampleAstraySteps
  have happle : sampleAstray.state.nextApple sampleAstray.leases sampleEnv.orders "host"
      = some (sampleAppleId, sampleOperation) :=
    DurableState.nextApple_eq_of_only (Map.lookup_insert_self _ _ _) (Map.lookup_insert_self _ _ _)
      (Finset.notMem_empty _) rfl fun other operation hother => Map.eq_of_lookup_insert_empty hother
  have hclient : sampleAstray.state.jobClients.lookup sampleAppleId = some "client" :=
    Map.lookup_insert_self _ _ _
  have hgives : ∃ answer, (handle sampleConfig sampleEnv (.resume (.online "host")) sampleAstray).2
      = some answer ∧ answer.appleOperation = some sampleOperation ∧ answer.jobId = some sampleAppleId :=
    handle_sampleOnline rfl rfl rfl rfl happle hclient (.inl rfl)
  obtain ⟨answer, hanswer, hoperation, -⟩ := hgives
  have hlast : OwnersKept sampleConfig _ (.event sampleEnv (.resume (.online "host"))) := hsteps.2.1
  have howner := hlast.answers sampleEnv (.resume (.online "host")) answer sampleOperation "phone" rfl
  rw [hrun] at howner
  obtain ⟨peerId, -, hpeer⟩ := howner hanswer hoperation rfl
  rcases handle_resume_cases sampleConfig sampleEnv (.online "host") sampleAstray with heq | ⟨-, -, heq⟩
  · rw [heq] at hanswer
    cases hanswer
  · rw [heq] at hpeer
    change (heartbeatDispatch sampleConfig sampleEnv "host" _).1.state.devicePeers.lookup "phone" = _
      at hpeer
    rw [devicePeers_heartbeatDispatch] at hpeer
    cases hpeer

end

end Registry
