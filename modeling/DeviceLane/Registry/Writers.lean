/-
**One writer for a device.**

A job that changes a device is its writer from when it is given out, or from the first report of its
agent, until it ends. As long as no report that makes a job the writer meets a disk that the state cannot
be written to, the acknowledged jobs are the writers of their devices, and an end of a lease is put off
only where there is a writer.

Main definitions:

* `Registry.LeaseBook.Spares` — no writer is taken away, and ends are put off only for writers.

Main results:

* `Registry.oneWriter_of_run` — **there is one writer for a device, in every run that is sheltered**.
-/

import DeviceLane.Registry.Progress

namespace Registry

open Runs (AllSteps Always)

variable {leases : LeaseBook} {state : DurableState}

namespace LeaseBook

variable {book : LeaseBook}

/-! ### Writers and marks -/

structure Marked (book : LeaseBook) : Prop where
  released : ∀ deviceId ∈ book.pendingRelease, (book.writers.lookup deviceId).isSome
  detached : ∀ deviceId ∈ book.pendingDetach, (book.writers.lookup deviceId).isSome

/-- No writer is taken away, and ends are put off only for writers. -/
structure Spares (book book' : LeaseBook) : Prop where
  writers : book'.writers = book.writers
  released : ∀ deviceId ∈ book'.pendingRelease,
    deviceId ∈ book.pendingRelease ∨ (book.writers.lookup deviceId).isSome
  detached : ∀ deviceId ∈ book'.pendingDetach,
    deviceId ∈ book.pendingDetach ∨ (book.writers.lookup deviceId).isSome

theorem Spares.refl (book : LeaseBook) : book.Spares book :=
  ⟨rfl, fun _ h => .inl h, fun _ h => .inl h⟩

theorem Spares.trans {book₁ book₂ : LeaseBook} (h₁ : book.Spares book₁) (h₂ : book₁.Spares book₂) :
    book.Spares book₂ := by
  refine ⟨h₂.writers.trans h₁.writers, fun deviceId hmem => ?_, fun deviceId hmem => ?_⟩
  · rcases h₂.released deviceId hmem with hbefore | hwriter
    · exact h₁.released deviceId hbefore
    · exact .inr (h₁.writers ▸ hwriter)
  · rcases h₂.detached deviceId hmem with hbefore | hwriter
    · exact h₁.detached deviceId hbefore
    · exact .inr (h₁.writers ▸ hwriter)

theorem Marked.of_spares {book' : LeaseBook} (h : book.Marked) (hspares : book.Spares book') :
    book'.Marked := by
  refine ⟨fun deviceId hmem => ?_, fun deviceId hmem => ?_⟩
  · rw [hspares.writers]
    exact (hspares.released deviceId hmem).elim (h.released deviceId) id
  · rw [hspares.writers]
    exact (hspares.detached deviceId hmem).elim (h.detached deviceId) id

theorem marks_releaseDeviceNow (book : LeaseBook) (deviceId : String) (nowMs : ℕ) :
    (book.releaseDeviceNow deviceId nowMs).writers = book.writers ∧
      (book.releaseDeviceNow deviceId nowMs).pendingRelease = book.pendingRelease ∧
      (book.releaseDeviceNow deviceId nowMs).pendingDetach = book.pendingDetach := by
  unfold releaseDeviceNow promote
  split
  · exact ⟨rfl, rfl, rfl⟩
  · exact ⟨rfl, rfl, rfl⟩

theorem releaseDeviceNow_spares (book : LeaseBook) (deviceId : String) (nowMs : ℕ) :
    book.Spares (book.releaseDeviceNow deviceId nowMs) := by
  obtain ⟨hwriters, hreleased, hdetached⟩ := book.marks_releaseDeviceNow deviceId nowMs
  refine ⟨hwriters, fun other hmem => .inl ?_, fun other hmem => .inl ?_⟩
  · exact hreleased ▸ hmem
  · exact hdetached ▸ hmem

theorem releaseDevice_spares (book : LeaseBook) (deviceId : String) (nowMs : ℕ) :
    book.Spares (book.releaseDevice deviceId nowMs) := by
  unfold releaseDevice
  split
  · rename_i hwriter
    refine ⟨rfl, fun other hmem => ?_, fun other hmem => .inl hmem⟩
    rcases Finset.mem_insert.1 hmem with rfl | hmem
    · exact .inr hwriter
    · exact .inl hmem
  · exact book.releaseDeviceNow_spares deviceId nowMs

theorem releaseDevices_spares (book : LeaseBook) (deviceIds : List String) (nowMs : ℕ) :
    book.Spares (book.releaseDevices deviceIds nowMs) := by
  induction deviceIds generalizing book with
  | nil => exact .refl book
  | cons deviceId deviceIds ih =>
    exact (book.releaseDevice_spares deviceId nowMs).trans (ih (book.releaseDevice deviceId nowMs))

theorem expire_spares (book : LeaseBook) (hash : KeyOrder String) (nowMs : ℕ) :
    book.Spares (book.expire hash nowMs) :=
  book.releaseDevices_spares _ nowMs

theorem detachInventory_spares (book : LeaseBook) (deviceId : String) (nowMs : ℕ) :
    book.Spares (book.detachInventory deviceId nowMs) := by
  refine Spares.trans ?_ (releaseDevice_spares _ deviceId nowMs)
  split
  · rename_i hwriter
    refine ⟨rfl, fun other hmem => .inl hmem, fun other hmem => ?_⟩
    rcases Finset.mem_insert.1 hmem with rfl | hmem
    · exact .inr hwriter
    · exact .inl hmem
  · exact .refl book

theorem marks_finishWriter (book : LeaseBook) (deviceId : String) (nowMs : ℕ) :
    (book.finishWriter deviceId nowMs).writers = book.writers.erase deviceId ∧
      (book.finishWriter deviceId nowMs).pendingRelease = book.pendingRelease.erase deviceId ∧
      (book.finishWriter deviceId nowMs).pendingDetach = book.pendingDetach.erase deviceId := by
  have hnone : ¬ ((book.writers.erase deviceId).lookup deviceId).isSome := by
    rw [Map.lookup_erase, if_pos rfl]
    exact Bool.false_ne_true
  unfold finishWriter
  dsimp only
  split
  · obtain ⟨hwriters, hreleased, hdetached⟩ := marks_releaseDeviceNow
      { book with
        writers := book.writers.erase deviceId
        pendingRelease := book.pendingRelease.erase deviceId } deviceId nowMs
    rw [releaseDevice, if_neg hnone]
    exact ⟨hwriters, hreleased, congrArg (fun marks => marks.erase deviceId) hdetached⟩
  · rename_i hmark
    exact ⟨rfl, (Finset.erase_eq_of_notMem hmark).symm, rfl⟩

theorem Marked.finishWriter (h : book.Marked) (deviceId : String) (nowMs : ℕ) :
    (book.finishWriter deviceId nowMs).Marked := by
  obtain ⟨hwriters, hreleased, hdetached⟩ := book.marks_finishWriter deviceId nowMs
  refine ⟨fun other hmem => ?_, fun other hmem => ?_⟩
  · rw [hreleased] at hmem
    obtain ⟨hne, hmem⟩ := Finset.mem_erase.1 hmem
    rw [hwriters, Map.lookup_erase, if_neg hne]
    exact h.released other hmem
  · rw [hdetached] at hmem
    obtain ⟨hne, hmem⟩ := Finset.mem_erase.1 hmem
    rw [hwriters, Map.lookup_erase, if_neg hne]
    exact h.detached other hmem

theorem Marked.finishWriters (h : book.Marked) (deviceIds : List String) (nowMs : ℕ) :
    (deviceIds.foldl (fun leases deviceId => leases.finishWriter deviceId nowMs) book).Marked :=
  List.foldlRecOn _ _ h fun _ h deviceId _ => h.finishWriter deviceId nowMs

theorem lookup_writers_finishWriters (book : LeaseBook) {deviceIds : List String} {deviceId : String}
    (h : deviceId ∉ deviceIds) (nowMs : ℕ) :
    (deviceIds.foldl (fun leases deviceId => leases.finishWriter deviceId nowMs) book).writers.lookup
      deviceId = book.writers.lookup deviceId := by
  induction deviceIds generalizing book with
  | nil => rfl
  | cons other deviceIds ih =>
    rw [List.mem_cons, not_or] at h
    rw [List.foldl_cons, ih _ h.2, (book.marks_finishWriter other nowMs).1, Map.lookup_erase,
      if_neg h.1]

theorem Marked.setWriter (h : book.Marked) (deviceId jobId : String) :
    (book.setWriter deviceId jobId).Marked :=
  ⟨fun other hmem => Map.isSome_lookup_insert (h.released other hmem) _ _,
    fun other hmem => Map.isSome_lookup_insert (h.detached other hmem) _ _⟩

/-- What clients ask for takes no writer away; only an agent does when it takes a device back. -/
theorem apply_spares (book : LeaseBook) (agentPeers : Finset String) (devicePeers : Map String String)
    (hash : KeyOrder String) (peerId : String) {operation : LeaseRequest}
    (h : ∀ deviceId, operation ≠ .agentDetach deviceId) (nowMs : ℕ) :
    book.Spares (book.apply agentPeers devicePeers hash peerId operation nowMs).2 := by
  have hsame : ∀ {book' : LeaseBook}, book'.writers = book.writers →
      book'.pendingRelease = book.pendingRelease → book'.pendingDetach = book.pendingDetach →
        book.Spares book' := by
    intro book' hwriters hreleased hdetached
    exact ⟨hwriters, fun _ hmem => .inl (hreleased ▸ hmem), fun _ hmem => .inl (hdetached ▸ hmem)⟩
  cases operation with
  | acquire deviceId lifetimeMs =>
    change book.Spares (book.acquire peerId deviceId lifetimeMs nowMs).2
    unfold acquire
    split
    · exact .refl book
    · exact hsame rfl rfl rfl
  | queue deviceId lifetimeMs =>
    change book.Spares (book.queue peerId deviceId lifetimeMs nowMs).2
    unfold queue
    split
    · split
      · exact .refl book
      · split
        · exact .refl book
        · exact hsame rfl rfl rfl
    · exact hsame rfl rfl rfl
  | renew leaseId lifetimeMs =>
    change book.Spares (book.renew hash peerId leaseId lifetimeMs nowMs).2
    unfold renew
    split
    · exact .refl book
    · exact hsame rfl rfl rfl
  | release leaseId =>
    change book.Spares (book.release hash peerId leaseId "released" nowMs).2
    unfold release
    split
    · exact .refl book
    · exact book.releaseDevice_spares _ nowMs
  | revoke leaseId =>
    change book.Spares (book.release hash peerId leaseId "revoked" nowMs).2
    unfold release
    split
    · exact .refl book
    · exact book.releaseDevice_spares _ nowMs
  | validate => exact .refl book
  | disconnect =>
    refine Spares.trans ?_ (releaseDevices_spares _ _ nowMs)
    exact hsame rfl rfl rfl
  | agentDetach deviceId => exact absurd rfl (h deviceId)

end LeaseBook

theorem Locked.inventory_spares (locked : Locked) (orders : Orders) (nowMs : ℕ) (peerId hostId : String)
    (connected : List String) :
    locked.leases.Spares (locked.inventory orders nowMs peerId hostId connected).leases := by
  have herase : connected.foldl (fun pending deviceId => pending.erase deviceId) locked.leases.pendingDetach
      ⊆ locked.leases.pendingDetach :=
    List.foldlRecOn _ _ (motive := fun pending : Finset String => pending ⊆ locked.leases.pendingDetach)
      (Finset.Subset.refl _) fun _ h _ _ => (Finset.erase_subset _ _).trans h
  refine List.foldlRecOn _ _ (motive := fun after : Locked => locked.leases.Spares after.leases) ?_
    fun after h deviceId _ => h.trans (after.leases.detachInventory_spares deviceId nowMs)
  exact ⟨rfl, fun _ hmem => .inl hmem, fun _ hmem => .inl (herase hmem)⟩

/-! ### Reports that make a job the writer -/

inductive Restored (state : DurableState) (leases : LeaseBook) (orders : Orders) (nowMs : ℕ)
    (jobId : String) : Except String Bool → LeaseBook → Prop
  | refused {error : String} {leases' : LeaseBook} (hspares : leases.Spares leases') :
      Restored state leases orders nowMs jobId (.error error) leases'
  | kept {operation : AppleRequest} {leases' : LeaseBook}
      (hpending : state.applePending.lookup jobId = some operation)
      (hwriter : ∀ deviceId, operation.operation.mutatesDevice = true →
        operation.deviceId = some deviceId → leases.writers.lookup deviceId = some ⟨jobId⟩)
      (hspares : leases.Spares leases') :
      Restored state leases orders nowMs jobId (.ok false) leases'
  | taken {operation : AppleRequest} {deviceId leaseId clientId : String}
      (hpending : state.applePending.lookup jobId = some operation)
      (hmutates : operation.operation.mutatesDevice = true)
      (hdevice : operation.deviceId = some deviceId) (hlease : operation.leaseId = some leaseId)
      (hclient : state.jobClients.lookup jobId = some clientId)
      (hactive : ((leases.expire orders.active nowMs).leaseOf deviceId leaseId
        (some clientId)).isSome)
      (hfree : leases.writers.lookup deviceId = none) :
      Restored state leases orders nowMs jobId (.ok true)
        ((leases.expire orders.active nowMs).setWriter deviceId jobId)

theorem restored (state : DurableState) (leases : LeaseBook) (orders : Orders) (nowMs : ℕ)
    (jobId : String) :
    Restored state leases orders nowMs jobId
      (restoreAcknowledgedWriter state leases orders nowMs jobId).1
      (restoreAcknowledgedWriter state leases orders nowMs jobId).2 := by
  have hspares := leases.expire_spares orders.active nowMs
  unfold restoreAcknowledgedWriter
  split
  · exact .refused (.refl leases)
  · rename_i operation hpending
    split
    · rename_i hmutates
      refine .kept hpending (fun deviceId hmutates' => ?_) (.refl leases)
      rw [hmutates] at hmutates'
      cases hmutates'
    · rename_i hmutates
      rw [Bool.not_eq_false] at hmutates
      dsimp only
      split
      · rename_i deviceId leaseId clientId hdevice hlease hclient
        split
        · exact .refused hspares
        · rename_i hactive
          rw [Bool.not_eq_true, Option.isNone_eq_false_iff] at hactive
          split
          · rename_i writer hwriter
            rw [hspares.writers] at hwriter
            split
            · rename_i hjob
              refine .kept hpending (fun other _ hother => ?_) hspares
              obtain rfl := Option.some.inj (hdevice.symm.trans hother)
              rw [hwriter, ← hjob]
            · exact .refused hspares
          · rename_i hfree
            rw [hspares.writers] at hfree
            exact .taken hpending hmutates hdevice hlease hclient hactive hfree
      · exact .refused hspares

/-! ### Jobs under way -/

/-- **Acknowledged jobs are the writers of their devices**, and only ends of leases of such devices are put
off. -/
structure Written (state : DurableState) (leases : LeaseBook) : Prop where
  recorded : ∀ jobId operation deviceId, jobId ∈ state.acknowledged →
    state.applePending.lookup jobId = some operation → operation.operation.mutatesDevice = true →
      operation.deviceId = some deviceId → leases.writers.lookup deviceId = some ⟨jobId⟩
  marked : leases.Marked

theorem Written.of_spares {leases' : LeaseBook} (h : Written state leases)
    (hspares : leases.Spares leases') : Written state leases' := by
  refine ⟨fun jobId operation deviceId hacknowledged hpending hmutates hdevice => ?_,
    h.marked.of_spares hspares⟩
  rw [hspares.writers]
  exact h.recorded jobId operation deviceId hacknowledged hpending hmutates hdevice

theorem Written.of_fewer {state' : DurableState} (h : Written state leases)
    (hacknowledged : state'.acknowledged = state.acknowledged)
    (hpending : ∀ jobId operation, state'.applePending.lookup jobId = some operation →
      state.applePending.lookup jobId = some operation) : Written state' leases := by
  refine ⟨fun jobId operation deviceId hmem hlookup => ?_, h.marked⟩
  rw [hacknowledged] at hmem
  exact h.recorded jobId operation deviceId hmem (hpending jobId operation hlookup)

theorem Written.of_core {state' : DurableState} (hcore : state'.core = state.core)
    (h : Written state leases) : Written state' leases := by
  refine h.of_fewer (read_of_core DurableState.acknowledged (fun _ => rfl) hcore)
    fun jobId operation hlookup => ?_
  rw [read_of_core DurableState.applePending (fun _ => rfl) hcore] at hlookup
  exact hlookup

theorem lookup_of_erase {m : Map String AppleRequest} {jobId other : String} {operation : AppleRequest}
    (h : (m.erase jobId).lookup other = some operation) : m.lookup other = some operation := by
  rw [Map.lookup_erase] at h
  split at h
  · cases h
  · exact h

theorem Written.setWriter (h : Written state leases) {deviceId jobId : String}
    (hfree : ∀ writer, leases.writers.lookup deviceId = some writer → writer.jobId = jobId) :
    Written state (leases.setWriter deviceId jobId) := by
  refine ⟨fun other operation device hacknowledged hpending hmutates hdevice => ?_,
    h.marked.setWriter deviceId jobId⟩
  have hbefore := h.recorded other operation device hacknowledged hpending hmutates hdevice
  change (Map.insert _ _ _).lookup device = _
  rw [Map.lookup_insert]
  split
  · rename_i hsame
    rw [hsame] at hbefore
    have hjob : other = jobId := hfree _ hbefore
    rw [hjob]
  · exact hbefore

theorem Written.finishWriters (h : Written state leases) {deviceIds : List String} (nowMs : ℕ)
    (hother : ∀ jobId operation deviceId, jobId ∈ state.acknowledged →
      state.applePending.lookup jobId = some operation → deviceId ∈ deviceIds →
        leases.writers.lookup deviceId ≠ some ⟨jobId⟩) :
    Written state
      (deviceIds.foldl (fun leases deviceId => leases.finishWriter deviceId nowMs) leases) := by
  refine ⟨fun jobId operation deviceId hacknowledged hpending hmutates hdevice => ?_,
    h.marked.finishWriters deviceIds nowMs⟩
  have hbefore := h.recorded jobId operation deviceId hacknowledged hpending hmutates hdevice
  rw [LeaseBook.lookup_writers_finishWriters leases _ nowMs]
  · exact hbefore
  · exact fun hmem => hother jobId operation deviceId hacknowledged hpending hmem hbefore

def UnderWay (state : DurableState) (jobId deviceId : String) : Prop :=
  jobId ∈ state.acknowledged ∧ ∃ operation, state.applePending.lookup jobId = some operation ∧
    operation.operation.mutatesDevice = true ∧ operation.deviceId = some deviceId

/-- **Of the jobs that change a device at most one is under way**: the writer of the device. Only ends of
leases of devices that have a writer are put off. -/
structure OneWriter (runtime : Runtime) : Prop where
  single : ∀ deviceId jobId other, UnderWay runtime.state jobId deviceId →
    UnderWay runtime.state other deviceId → jobId = other
  recorded : ∀ deviceId jobId, UnderWay runtime.state jobId deviceId →
    runtime.leases.writers.lookup deviceId = some ⟨jobId⟩
  marked : runtime.leases.Marked

theorem Written.oneWriter {runtime : Runtime}
    (h : Written runtime.state runtime.leases) : OneWriter runtime := by
  have hrecorded : ∀ deviceId jobId, UnderWay runtime.state jobId deviceId →
      runtime.leases.writers.lookup deviceId = some ⟨jobId⟩ := by
    rintro deviceId jobId ⟨hacknowledged, operation, hpending, hmutates, hdevice⟩
    exact h.recorded jobId operation deviceId hacknowledged hpending hmutates hdevice
  refine ⟨fun deviceId jobId other hjob hother => ?_, hrecorded, h.marked⟩
  have hwriter := (hrecorded deviceId jobId hjob).symm.trans (hrecorded deviceId other hother)
  exact congrArg DeviceWriter.jobId (Option.some.inj hwriter)

section

variable [Sha256] {config : Config} {env : Env} {event : Event} {runtime : Runtime}
  {state : DurableState} {leases : LeaseBook}

variable {before : Runtime}

theorem written_change (hknown : runtime.state.Known) (hfresh : FreshName runtime event)
    (hholder : ∀ jobId, runtime.holder ≠ some (.rollingBack jobId))
    (hdetach : ∀ peerId deviceId, event ≠ .request peerId (.lease (.agentDetach deviceId)))
    (h : Written runtime.state runtime.leases)
    (hchange : Change config env event runtime state leases) : Written state leases := by
  have hexpire := h.of_spares (runtime.leases.expire_spares env.orders.active env.nowMs)
  have hwriters := (runtime.leases.expire_spares env.orders.active env.nowMs).writers
  cases hchange with
  | same hstate => exact h.of_core hstate
  | inventory hevent hagent howner hlocked hstate =>
    have hspares : runtime.leases.Spares leases := by
      rw [show leases = (⟨state, leases⟩ : Locked).leases from rfl, hlocked]
      exact runtime.locked.inventory_spares _ _ _ _ _
    refine Written.of_core hstate ?_
    exact (h.of_spares hspares).of_fewer rfl fun _ _ hlookup => hlookup
  | expire => exact hexpire
  | reject hevent hnext hneeds hlease hstate =>
    refine Written.of_core hstate ?_
    exact hexpire.of_fewer rfl fun _ _ hlookup => lookup_of_erase hlookup
  | @grant state hostId jobId deviceId leaseId operation lease hevent hnext hneeds hlease hstate =>
    refine Written.of_core hstate (hexpire.setWriter fun writer hwriter => ?_)
    -- the job has been chosen because the device has no other writer
    rw [hwriters] at hwriter
    obtain ⟨-, -, -, hfree⟩ := DurableState.nextApple_eq_some hnext
    unfold leaseNeeded at hneeds
    split at hneeds
    · rename_i hmutates
      split at hneeds
      · rename_i device lease' hdevice hleaseId
        cases hneeds
        rw [DurableState.writerFree, hmutates, hdevice, Option.all_some, hwriter, Option.all_some,
          Bool.not_true, Bool.false_or, decide_eq_true_eq] at hfree
        exact hfree
      · cases hneeds
    · cases hneeds
  | reconcile hreconciling hstate hleases =>
    rw [hleases]
    refine Written.of_core hstate (h.finishWriters _ fun jobId operation deviceId hacknowledged
      hpending hmem hwriter => ?_)
    -- a job that is under way is no orphan
    obtain ⟨entry, hentry, hdevice⟩ := List.mem_map.1 hmem
    obtain ⟨hfound, horphan⟩ := List.mem_filter.1 hentry
    obtain ⟨device, writer⟩ := entry
    obtain rfl : device = deviceId := hdevice
    have hlookup : runtime.leases.writers.lookup device = some writer := Map.mem_entriesIn.1 hfound
    obtain rfl := Option.some.inj (hlookup.symm.trans hwriter)
    rw [Bool.or_eq_true, decide_eq_true_eq] at horphan
    rcases horphan with hnot | hnone
    · exact hnot hacknowledged
    · change (runtime.state.applePending.lookup jobId).isNone = true at hnone
      rw [hpending] at hnone
      cases hnone
  | acceptRun | complete => exact h.of_fewer rfl fun _ _ hlookup => hlookup
  | @acceptApple peerId target operation hevent hnew htarget =>
    refine ⟨fun jobId found deviceId hacknowledged hpending => ?_, h.marked⟩
    have hne : jobId ≠ appleJobId operation.idempotencyKey := by
      rintro rfl
      have hsome := hknown.acknowledged _ hacknowledged
      rw [hfresh.of_accept hevent hnew] at hsome
      cases hsome
    change (Map.insert _ _ _).lookup jobId = _ at hpending
    rw [Map.lookup_insert_ne hne] at hpending
    exact h.recorded jobId found deviceId hacknowledged hpending
  | @restore peerId jobId events hevent hagent =>
    have hrestored := restored runtime.state runtime.leases env.orders env.nowMs jobId
    generalize (restoreAcknowledgedWriter _ _ _ _ _).1 = result at hrestored
    generalize (restoreAcknowledgedWriter _ _ _ _ _).2 = leases' at hrestored ⊢
    cases hrestored with
    | refused hspares => exact h.of_spares hspares
    | kept hpending hwriter hspares => exact h.of_spares hspares
    | taken hpending hmutates hdevice hlease hclient hactive hfree =>
      refine hexpire.setWriter fun writer hwriter => ?_
      rw [hwriters, hfree] at hwriter
      cases hwriter
  | @ongoing peerId jobId events result hevent hagent hresult =>
    have hrestored := restored runtime.state runtime.leases env.orders env.nowMs jobId
    rw [hresult] at hrestored
    generalize (restoreAcknowledgedWriter _ _ _ _ _).2 = leases' at hrestored ⊢
    -- the job that is acknowledged is the writer of its device by now
    have hself : Written runtime.state leases' ∧ ∀ operation deviceId,
        runtime.state.applePending.lookup jobId = some operation →
          operation.operation.mutatesDevice = true → operation.deviceId = some deviceId →
            leases'.writers.lookup deviceId = some ⟨jobId⟩ := by
      cases hrestored with
      | @kept operation leases' hpending hwriter hspares =>
        refine ⟨h.of_spares hspares, fun found deviceId hfound hmutates hdevice => ?_⟩
        obtain rfl := Option.some.inj (hpending.symm.trans hfound)
        rw [hspares.writers]
        exact hwriter deviceId hmutates hdevice
      | @taken operation deviceId leaseId clientId hpending hmutates hdevice hlease hclient hactive
          hfree =>
          refine ⟨hexpire.setWriter fun writer hwriter => ?_, fun found other hfound hmutates' hother =>
            ?_⟩
          · rw [hwriters, hfree] at hwriter
            cases hwriter
          · obtain rfl := Option.some.inj (hpending.symm.trans hfound)
            obtain rfl := Option.some.inj (hdevice.symm.trans hother)
            exact Map.lookup_insert_self _ _ _
    refine ⟨fun other operation deviceId hacknowledged hpending hmutates hdevice => ?_,
      hself.1.marked⟩
    rcases Finset.mem_insert.1 hacknowledged with rfl | hmem
    · exact hself.2 operation deviceId hpending hmutates hdevice
    · exact hself.1.recorded other operation deviceId hmem hpending hmutates hdevice
  | @terminal state leases peerId jobId events hevent hagent hstate hleases =>
    rw [hleases]
    have hfewer : Written ((runtime.state.progress jobId events).finish jobId) runtime.leases :=
      h.of_fewer rfl fun _ _ hlookup => lookup_of_erase hlookup
    refine Written.of_core hstate (hfewer.finishWriters _ fun other operation deviceId hacknowledged
      hpending hmem hwriter => ?_)
    -- only the writers of the job itself finish, and it does not wait any more
    obtain ⟨entry, hentry, hdevice⟩ := List.mem_map.1 hmem
    obtain ⟨hfound, hjob⟩ := List.mem_filter.1 hentry
    obtain ⟨device, writer⟩ := entry
    obtain rfl : device = deviceId := hdevice
    have hlookup : runtime.leases.writers.lookup device = some writer := Map.mem_entriesIn.1 hfound
    obtain rfl := Option.some.inj (hlookup.symm.trans hwriter)
    have hsame : other = jobId := of_decide_eq_true hjob
    change (Map.erase _ _).lookup other = _ at hpending
    rw [hsame, Map.lookup_erase, if_pos rfl] at hpending
    cases hpending
  | rollBack hrolling => exact absurd hrolling (hholder _)
  | cancel =>
    exact h.of_fewer rfl fun _ _ hlookup => lookup_of_erase hlookup
  | @lease state peerId operation hevent hstate =>
    refine Written.of_core hstate ?_
    refine hexpire.of_spares (LeaseBook.apply_spares _ _ _ _ _ (fun deviceId hoperation => ?_) _)
    exact hdetach peerId deviceId (hoperation ▸ hevent)

/-! ### Writers that are rolled back -/

def NoRollBack (before after : Runtime) : Prop :=
  ∀ jobId, after.holder = some (.rollingBack jobId) → before.holder = some (.rollingBack jobId)

section

omit [Sha256]

@[simp] theorem holder_storeLeases (runtime : Runtime) (env : Env) :
    (runtime.storeLeases env).holder = runtime.holder := by
  unfold Runtime.storeLeases
  split <;> rfl

@[simp] theorem holder_storeState (runtime : Runtime) (env : Env) :
    (runtime.storeState env).holder = runtime.holder := by
  unfold Runtime.storeState
  split <;> rfl

theorem NoRollBack.of_holder {after : Runtime} (h : after.holder = before.holder) :
    NoRollBack before after := by
  intro _ hafter
  rw [← h]
  exact hafter

theorem NoRollBack.refl (runtime : Runtime) : NoRollBack runtime runtime := .of_holder rfl

theorem NoRollBack.of_hold {after : Runtime} {holder : Holder}
    (hne : ∀ jobId, holder ≠ .rollingBack jobId) : NoRollBack before (after.hold holder) := by
  intro jobId hafter
  exact absurd (Option.some.inj hafter) (hne jobId)

theorem noRollBack_storeStateOrPanic (h : runtime.holder = before.holder) (env : Env)
    (response : Response) : NoRollBack before (runtime.storeStateOrPanic env response).1 := by
  unfold Runtime.storeStateOrPanic
  dsimp only
  split
  · exact .of_holder ((holder_storeState runtime env).trans h)
  · exact .of_hold fun jobId heq => (by cases heq)

theorem noRollBack_heartbeatAnswer (h : runtime.holder = before.holder) (env : Env)
    (response : Response) : NoRollBack before (heartbeatAnswer env response runtime).1 := by
  have hstored := (holder_storeState runtime env).trans h
  unfold heartbeatAnswer
  dsimp only
  split
  · exact .of_holder hstored
  · split
    · exact .of_holder hstored
    · exact .of_hold fun jobId heq => (by cases heq)

theorem noRollBack_heartbeatDispatch (config : Config) (env : Env) (hostId : String)
    (runtime : Runtime) : NoRollBack runtime (heartbeatDispatch config env hostId runtime).1 := by
  unfold heartbeatDispatch
  dsimp only
  split
  · refine noRollBack_heartbeatAnswer ?_ env _
    rfl
  · unfold dispatchApple
    split
    · refine noRollBack_heartbeatAnswer ?_ env _
      rfl
    · dsimp only
      split
      · refine noRollBack_heartbeatAnswer ?_ env _
        rfl
      · split
        · refine noRollBack_heartbeatAnswer ?_ env _
          exact holder_storeLeases _ env
        · exact .of_holder (holder_storeLeases _ env)

theorem noRollBack_appleProgress {peerId jobId : String} {events : List NetworkEvent} {terminal : Bool}
    (h : terminal = false → (restoreAcknowledgedWriter runtime.state runtime.leases env.orders env.nowMs
      jobId).1 = .ok true → env.leasesWrite = .stored → runtime.storesState env) :
    NoRollBack runtime (appleProgress env peerId jobId events terminal runtime).1 := by
  unfold appleProgress
  split
  · exact .refl runtime
  · cases terminal with
    | true =>
      rw [if_pos rfl]
      unfold progressTerminal
      dsimp only
      split
      · exact .of_hold fun jobId heq => (by cases heq)
      · exact .of_holder (holder_storeState _ env)
    | false =>
      rw [if_neg Bool.false_ne_true]
      unfold progressOngoing
      dsimp only
      split
      · exact .of_holder (holder_storeLeases _ env)
      · rename_i restored hrestored
        split
        · exact .of_holder (holder_storeLeases _ env)
        · rename_i hwritten
          split
          · exact .of_holder ((holder_storeState _ env).trans (holder_storeLeases _ env))
          · rename_i hfailed
            cases restored with
            | false => exact .of_holder ((holder_storeState _ env).trans (holder_storeLeases _ env))
            | true =>
              have hstores := h rfl hrestored (not_not.1 hwritten)
              refine absurd ⟨?_, hstores.2⟩ hfailed
              change (Runtime.storeLeases _ env).state.recoveryError = none
              rw [state_storeLeases]
              exact hstores.1

end

theorem noRollBack_appleRunAccept (peerId : String) (operation : AppleRequest) :
    NoRollBack runtime (appleRunAccept config env peerId operation runtime).1 := by
  unfold appleRunAccept
  split
  · split
    · exact .refl runtime
    · exact .refl runtime
  · split
    · exact .refl runtime
    · dsimp only
      refine noRollBack_storeStateOrPanic ?_ env _
      rfl

theorem noRollBack_request {peerId : String} {req : Request}
    (h : ∀ jobId events, req = .appleProgress jobId events false →
      (restoreAcknowledgedWriter runtime.state runtime.leases env.orders env.nowMs jobId).1 = .ok true →
        env.leasesWrite = .stored → runtime.storesState env) :
    NoRollBack runtime (request config env peerId runtime req).1 := by
  cases req with
  | heartbeat host =>
    change NoRollBack runtime (heartbeatInventory config env peerId host runtime).1
    unfold heartbeatInventory
    split
    · exact .refl runtime
    · split
      · exact .refl runtime
      · split
        · exact .refl runtime
        · dsimp only
          split
          · exact .of_holder (holder_storeLeases _ env)
          · exact .of_holder (holder_storeLeases _ env)
  | complete jobId artifact events =>
    change NoRollBack runtime (completeJob env jobId artifact events runtime).1
    unfold completeJob
    split
    · exact .refl runtime
    · refine noRollBack_storeStateOrPanic ?_ env response
      rfl
  | run operation =>
    change NoRollBack runtime (run env operation runtime).1
    unfold run
    split
    · exact .refl runtime
    · split
      · exact .refl runtime
      · split
        · exact .refl runtime
        · dsimp only
          split
          · exact .of_holder (holder_storeState _ env)
          · exact .of_hold fun jobId heq => (by cases heq)
  | appleRun operation =>
    change NoRollBack runtime (appleRun config env peerId operation runtime).1
    unfold appleRun
    split
    · exact .refl runtime
    · split
      · unfold appleRunLease
        dsimp only
        split
        · exact .of_holder (holder_storeLeases _ env)
        · split
          · exact .of_holder (holder_storeLeases _ env)
          · exact .of_holder (holder_storeLeases _ env)
      · exact noRollBack_appleRunAccept peerId operation
  | appleProgress jobId events =>
    refine noRollBack_appleProgress fun hterminal => ?_
    subst hterminal
    exact h jobId events rfl
  | appleCancel jobId =>
    change NoRollBack runtime (appleCancel env peerId jobId runtime).1
    unfold appleCancel
    split
    · exact .refl runtime
    · split
      · exact .refl runtime
      · dsimp only
        refine noRollBack_storeStateOrPanic ?_ env response
        rfl
  | lease operation =>
    change NoRollBack runtime (leaseRequest config env peerId operation runtime).1
    unfold leaseRequest
    split
    · exact .of_hold fun jobId heq => (by cases heq)
    · dsimp only
      split
      · exact .of_holder (holder_storeLeases _ env)
      · split
        · exact .of_holder ((holder_storeState _ env).trans (holder_storeLeases _ env))
        · exact .of_holder ((holder_storeState _ env).trans (holder_storeLeases _ env))
  | artifactRegister jobId name mediaType totalSize sha256 =>
    change NoRollBack runtime
      (registerArtifact peerId jobId name mediaType totalSize sha256 runtime).1
    unfold registerArtifact
    split
    · exact .refl runtime
    · exact .of_holder rfl
  | artifactWrite => exact .of_holder rfl
  | _ => exact .refl runtime

theorem noRollBack_resume (config : Config) (env : Env) (runtime : Runtime) (flight : Flight) :
    NoRollBack runtime (resume config env runtime flight).1 := by
  cases flight with
  | inventoried host =>
    change NoRollBack runtime (heartbeatExpire env host runtime).1
    unfold heartbeatExpire
    dsimp only
    split
    · exact .of_holder (holder_storeLeases _ env)
    · exact .of_holder (holder_storeLeases _ env)
  | expired => exact .of_holder rfl
  | online hostId => exact noRollBack_heartbeatDispatch config env hostId runtime
  | leased peerId operation => exact noRollBack_appleRunAccept peerId operation
  | registering => exact .of_holder rfl
  | running jobId =>
    change NoRollBack runtime (runWait jobId runtime).1
    unfold runWait
    split
    · exact .refl runtime
    · exact .refl runtime

omit [Sha256] in
theorem noRollBack_settle (env : Env) (runtime : Runtime) {holder : Holder}
    (hholder : runtime.holder = some holder) : NoRollBack runtime (settle env runtime holder).1 := by
  cases holder with
  | reconciling => exact fun jobId hafter => (by cases hafter)
  | rollingBack jobId => exact fun jobId hafter => (by cases hafter)
  | storingLeases => exact fun jobId hafter => (by cases hafter)
  | panicked => exact .refl runtime

/-- **No writer is rolled back**: as long as every report that makes a job the writer can be stored, and no
agent takes a device back, and new jobs get new names. -/
structure Sheltered (runtime : Runtime) (input : Env × Event) : Prop where
  fresh : FreshName runtime input.2
  stored : ∀ peerId jobId events, input.2 = .request peerId (.appleProgress jobId events false) →
    (restoreAcknowledgedWriter runtime.state runtime.leases input.1.orders input.1.nowMs jobId).1
      = .ok true → input.1.leasesWrite = .stored → runtime.storesState input.1
  attached : ∀ peerId deviceId, input.2 ≠ .request peerId (.lease (.agentDetach deviceId))

theorem noRollBack_handle {input : Env × Event} (h : Sheltered runtime input) :
    NoRollBack runtime (runtime.step config input) := by
  obtain ⟨env, event⟩ := input
  have hperform : NoRollBack runtime (perform config env event runtime).1 := by
    unfold perform
    cases event with
    | request peerId req =>
      have hrequest : NoRollBack runtime (request config env peerId runtime req).1 :=
        noRollBack_request fun jobId events heq => h.stored peerId jobId events (congrArg _ heq)
      dsimp only
      split
      · exact .refl runtime
      · split
        · exact hrequest
        · split
          · exact hrequest
          · exact .refl runtime
    | resume flight =>
      dsimp only
      split
      · exact .refl runtime
      · exact noRollBack_resume config env _ flight
    | settle =>
      dsimp only
      split
      · exact .refl runtime
      · rename_i holder hholder
        exact noRollBack_settle env runtime hholder
  unfold Runtime.step handle
  dsimp only
  split
  · exact hperform
  · exact .refl runtime

/-! ### Runs -/

structure WritersKept (runtime : Runtime) : Prop where
  known : runtime.state.Known
  written : Written runtime.state runtime.leases
  holder : ∀ jobId, runtime.holder ≠ some (.rollingBack jobId)

theorem writersKept_step (h : WritersKept runtime) {input : Env × Event}
    (hsheltered : Sheltered runtime input) : WritersKept (runtime.step config input) := by
  have hchange := handle_change config input.1 input.2 runtime
  refine ⟨known_change h.known hchange, ?_, fun jobId hrolling => ?_⟩
  · exact written_change h.known hsheltered.fresh h.holder hsheltered.attached h.written hchange
  · exact h.holder jobId (noRollBack_handle hsheltered jobId hrolling)

theorem writersKept_empty : WritersKept Runtime.empty where
  known := known_empty
  written :=
    { recorded := fun jobId _ _ hmem => absurd hmem (Finset.notMem_empty jobId)
      marked :=
        { released := fun deviceId hmem => absurd hmem (Finset.notMem_empty deviceId)
          detached := fun deviceId hmem => absurd hmem (Finset.notMem_empty deviceId) } }
  holder := fun jobId heq => (by cases heq)

/-- **There is one writer for a device, in every run that is sheltered.** -/
theorem oneWriter_of_run (config : Config) (steps : List (Env × Event))
    (h : AllSteps (Runtime.step config) Sheltered steps Runtime.empty) :
    Always (Runtime.step config) OneWriter steps Runtime.empty := by
  have hstep : ∀ (runtime : Runtime) (input : Env × Event), WritersKept runtime →
      Sheltered runtime input → WritersKept (runtime.step config input) :=
    fun _ _ hkept hsheltered => writersKept_step hkept hsheltered
  have hkept := h.always hstep writersKept_empty
  intro before after happend
  exact (hkept before after happend).written.oneWriter

omit [Sha256] in
/-- The agent of the sample job reports that it goes on. -/
theorem oneWriter_sample : letI := sampleHash
    Always (Runtime.step sampleConfig) OneWriter
      (sampleAppleSteps ++ [(sampleEnv, .request "agent" (.appleProgress sampleAppleId [] false))])
      Runtime.empty := by
  let _ := sampleHash
  refine oneWriter_of_run sampleConfig _ (Runs.allSteps_append.2 ⟨?_, ?_⟩)
  · refine orderly_sampleAppleSteps.mono fun runtime input hmem horderly => ⟨horderly.fresh, ?_, ?_⟩
    all_goals
      simp only [sampleAppleSteps, sampleHostSteps, sampleJobSteps, List.cons_append, List.nil_append,
        List.mem_cons, List.not_mem_nil, or_false] at hmem
      intros
    · rename_i hevent hrestored hwritten
      rcases hmem with rfl | rfl | rfl | rfl | rfl | rfl | rfl
      all_goals cases hevent
    · intro hevent
      rcases hmem with rfl | rfl | rfl | rfl | rfl | rfl | rfl
      all_goals cases hevent
  · rw [foldl_sampleAppleSteps]
    refine ⟨⟨?_, ?_, ?_⟩, trivial⟩
    · rintro peerId operation (hevent | hevent)
      · cases hevent
      · cases hevent
    · intro peerId jobId events hevent hrestored hwritten
      exact ⟨rfl, rfl⟩
    · intro peerId deviceId hevent
      cases hevent

/-! ### A report that cannot be stored -/

def sampleFailing : Env := { sampleEnv with stateWrite := .failed }

def sampleRolling : Runtime :=
  { sampleAccepted with
    state := (sampleAccepted.state.progress sampleAppleId []).acknowledge sampleAppleId
    leases := sampleLeases.setWriter "phone" sampleAppleId
    storedLeases := sampleLeases.setWriter "phone" sampleAppleId
    holder := some (.rollingBack sampleAppleId) }

theorem step_sampleFailing :
    sampleAccepted.step sampleConfig
      (sampleFailing, .request "agent" (.appleProgress sampleAppleId [] false)) = sampleRolling := by
  refine step_request rfl rfl ?_ (Nat.le_of_ble_eq_true rfl)
  have hagent : sampleAccepted.state.jobAgents.lookup sampleAppleId = some "agent" :=
    Map.lookup_insert_self _ _ _
  have hpending : sampleAccepted.state.applePending.lookup sampleAppleId = some sampleOperation :=
    Map.lookup_insert_self _ _ _
  have hclient : sampleAccepted.state.jobClients.lookup sampleAppleId = some "client" :=
    Map.lookup_insert_self _ _ _
  have hrestored : restoreAcknowledgedWriter sampleAccepted.state sampleAccepted.leases
      sampleFailing.orders sampleFailing.nowMs sampleAppleId
      = (.ok true, sampleLeases.setWriter "phone" sampleAppleId) := by
    have hexpire : sampleAccepted.leases.expire sampleFailing.orders.active sampleFailing.nowMs
        = sampleLeases := rfl
    unfold restoreAcknowledgedWriter
    rw [hpending, hclient, hexpire]
    change (if (sampleLeases.leaseOf "phone" (leaseIdOf 1) (some "client")).isNone then
        (.error "lease_inactive", sampleLeases)
      else (.ok true, sampleLeases.setWriter "phone" sampleAppleId) : Except String Bool × LeaseBook) = _
    rw [leaseOf_sampleLeases]
    rfl
  change (appleProgress sampleFailing "agent" sampleAppleId [] false sampleAccepted).1 = _
  unfold appleProgress
  rw [if_neg (not_not.2 hagent), if_neg Bool.false_ne_true]
  unfold progressOngoing
  rw [hrestored]
  rfl

/-- There is one writer for a device in every run without an agent that takes a device back. -/
def AlwaysOneWriter : Prop :=
  ∀ (config : Config) (steps : List (Env × Event)),
    (∀ env peerId deviceId, (env, .request peerId (.lease (.agentDetach deviceId))) ∉ steps) →
      Always (Runtime.step config) OneWriter steps Runtime.empty

end

/-- A job goes on without being the writer of its device, whatever the hash function. -/
theorem not_alwaysOneWriter : ¬ ∃ _ : Sha256, AlwaysOneWriter := by
  rintro ⟨hash, h⟩
  let steps := sampleHostSteps ++ sampleJobSteps ++
    [(sampleFailing, .request "agent" (.appleProgress sampleAppleId [] false)), (sampleEnv, .settle)]
  have hdetach : ∀ env peerId deviceId,
      (env, Event.request peerId (.lease (.agentDetach deviceId))) ∉ steps := by
    intro env peerId deviceId hmem
    simp [steps, sampleHostSteps, sampleJobSteps] at hmem
  have hlast := (h sampleConfig steps hdetach).last
  have hrun : steps.foldl (Runtime.step sampleConfig) Runtime.empty
      = sampleRolling.step sampleConfig (sampleEnv, .settle) := by
    rw [List.foldl_append, List.foldl_append, foldl_sampleHostSteps, foldl_sampleJobSteps,
      List.foldl_cons, step_sampleFailing]
    rfl
  have hsettled : sampleRolling.step sampleConfig (sampleEnv, .settle)
      = { sampleRolling with
          leases := sampleRolling.leases.dropWriters sampleAppleId
          storedLeases := sampleRolling.leases.dropWriters sampleAppleId
          holder := none } :=
    step_of_perform rfl (Nat.le_of_ble_eq_true rfl)
  rw [hrun, hsettled] at hlast
  have hpending : sampleRolling.state.applePending.lookup sampleAppleId = some sampleOperation :=
    Map.lookup_insert_self _ _ _
  have hwriter := hlast.recorded "phone" sampleAppleId
    ⟨Finset.mem_insert_self _ _, sampleOperation, hpending, rfl, rfl⟩
  change (Map.retain _ _).lookup "phone" = _ at hwriter
  rw [Map.lookup_retain, Option.filter_eq_some_iff] at hwriter
  exact of_decide_eq_true hwriter.2 rfl

end Registry
