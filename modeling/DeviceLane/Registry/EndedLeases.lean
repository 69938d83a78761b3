/-
**Leases that have ended.**

The end of a lease is put off while the device has a writer: the lease stays in the book, with a mark.
Until then it still counts as active, and its client may renew it or start jobs under it. Otherwise a
lease that has ended authorises nothing new, in whatever order requests come, and after any number of
crashes.

Main definitions:

* `Registry.LeaseBook.Over` — a lease has ended, or its end is put off.

Main results:

* `Registry.nothingNew_of_run` — **a lease that has ended authorises nothing new, where steps are clear**.
-/

import DeviceLane.Registry.Answers
import DeviceLane.Registry.Writers

namespace Registry

open Runs (AllSteps)

namespace LeaseBook

variable {book book' : LeaseBook} {deviceId id : String} {hash : KeyOrder String} {lease : DeviceLease}
  {nowMs timeMs : ℕ}

/-! ### Leases that are left -/

structure Leaves (book book' : LeaseBook) : Prop where
  nextId_le : book.nextId ≤ book'.nextId
  lease : ∀ deviceId lease, book'.active.lookup deviceId = some lease →
    Fresh book book' lease.id ∨ book.active.lookup deviceId = some lease ∧
      (deviceId ∈ book.pendingRelease → deviceId ∈ book'.pendingRelease)

theorem leaves_of_same (hnext : book'.nextId = book.nextId) (hactive : book'.active = book.active)
    (hmarks : book.pendingRelease ⊆ book'.pendingRelease) : book.Leaves book' := by
  refine ⟨Nat.le_of_eq hnext.symm, fun deviceId lease hlookup => .inr ⟨?_, fun hmark => hmarks hmark⟩⟩
  rw [← hactive]
  exact hlookup

theorem Leaves.refl (book : LeaseBook) : book.Leaves book :=
  leaves_of_same rfl rfl (Finset.Subset.refl _)

theorem Leaves.trans {book₁ book₂ : LeaseBook} (h₁ : book.Leaves book₁) (h₂ : book₁.Leaves book₂) :
    book.Leaves book₂ := by
  refine ⟨Nat.le_trans h₁.nextId_le h₂.nextId_le, fun deviceId lease hlookup => ?_⟩
  rcases h₂.lease deviceId lease hlookup with hfresh | ⟨hbefore, hmark₂⟩
  · exact .inl (hfresh.mono h₁.nextId_le)
  · rcases h₁.lease deviceId lease hbefore with hfresh | ⟨hfirst, hmark₁⟩
    · exact .inl (hfresh.later h₂.nextId_le)
    · exact .inr ⟨hfirst, fun hmark => hmark₂ (hmark₁ hmark)⟩

theorem insert_leaves (book : LeaseBook) (deviceId clientId : String) (lifetimeMs nowMs : ℕ) :
    book.Leaves (book.insert deviceId clientId lifetimeMs nowMs) := by
  refine ⟨Nat.le_succ _, fun other lease hlookup => ?_⟩
  change (Map.insert _ _ _).lookup other = some lease at hlookup
  rw [Map.lookup_insert] at hlookup
  split at hlookup
  · obtain rfl := Option.some.inj hlookup
    exact .inl ⟨book.nextId + 1, Nat.lt_succ_self _, Nat.le_refl _, rfl⟩
  · exact .inr ⟨hlookup, id⟩

theorem releaseDeviceNow_leaves (book : LeaseBook) (deviceId : String) (nowMs : ℕ) :
    book.Leaves (book.releaseDeviceNow deviceId nowMs) ∧
      ∀ lease, (book.releaseDeviceNow deviceId nowMs).active.lookup deviceId = some lease →
        Fresh book (book.releaseDeviceNow deviceId nowMs) lease.id := by
  have herase : ∀ waiting, book.Leaves { book with active := book.active.erase deviceId, waiting } := by
    intro waiting
    refine ⟨Nat.le_refl _, fun other lease hlookup => .inr ⟨?_, id⟩⟩
    change (Map.erase _ _).lookup other = some lease at hlookup
    rw [Map.lookup_erase] at hlookup
    split at hlookup
    · cases hlookup
    · exact hlookup
  rcases releaseDeviceNow_cases book deviceId nowMs with
    ⟨-, hnow⟩ | ⟨first, _, lifetimeMs, waiting, -, -, -, hnow⟩
  · rw [hnow]
    refine ⟨herase book.waiting, fun lease hlookup => ?_⟩
    change (Map.erase _ _).lookup deviceId = some lease at hlookup
    rw [Map.lookup_erase, if_pos rfl] at hlookup
    cases hlookup
  · rw [hnow]
    refine ⟨(herase waiting).trans (insert_leaves _ deviceId first lifetimeMs nowMs),
      fun lease hlookup => ?_⟩
    change (Map.insert _ _ _).lookup deviceId = some lease at hlookup
    rw [Map.lookup_insert_self] at hlookup
    obtain rfl := Option.some.inj hlookup
    exact ⟨book.nextId + 1, Nat.lt_succ_self _, Nat.le_refl _, rfl⟩

/-- **A lease that ends is gone, or there is a writer and a mark.** -/
theorem releaseDevice_leaves (book : LeaseBook) (deviceId : String) (nowMs : ℕ) :
    book.Leaves (book.releaseDevice deviceId nowMs) ∧
      ∀ lease, (book.releaseDevice deviceId nowMs).active.lookup deviceId = some lease →
        Fresh book (book.releaseDevice deviceId nowMs) lease.id ∨
          (book.writers.lookup deviceId).isSome ∧
            deviceId ∈ (book.releaseDevice deviceId nowMs).pendingRelease := by
  unfold releaseDevice
  split
  · rename_i hwriter
    refine ⟨leaves_of_same rfl rfl (Finset.subset_insert _ _), fun lease _ => .inr ⟨hwriter, ?_⟩⟩
    exact Finset.mem_insert_self _ _
  · obtain ⟨hleaves, hfresh⟩ := book.releaseDeviceNow_leaves deviceId nowMs
    exact ⟨hleaves, fun lease hlookup => .inl (hfresh lease hlookup)⟩

theorem releaseDevices_leaves (book : LeaseBook) (deviceIds : List String) (nowMs : ℕ) :
    book.Leaves (book.releaseDevices deviceIds nowMs) ∧
      ∀ deviceId ∈ deviceIds, ∀ lease,
        (book.releaseDevices deviceIds nowMs).active.lookup deviceId = some lease →
          Fresh book (book.releaseDevices deviceIds nowMs) lease.id ∨
            (book.writers.lookup deviceId).isSome ∧
              deviceId ∈ (book.releaseDevices deviceIds nowMs).pendingRelease := by
  induction deviceIds generalizing book with
  | nil => exact ⟨.refl book, List.forall_mem_nil _⟩
  | cons first deviceIds ih =>
    obtain ⟨hfirst, hreleased⟩ := book.releaseDevice_leaves first nowMs
    obtain ⟨hrest, hothers⟩ := ih (book.releaseDevice first nowMs)
    have hwriters := (book.releaseDevice_spares first nowMs).writers
    refine ⟨hfirst.trans hrest, fun deviceId hmem lease hlookup => ?_⟩
    change (LeaseBook.releaseDevices (book.releaseDevice first nowMs) deviceIds nowMs).active.lookup
      deviceId = some lease at hlookup
    rcases List.mem_cons.1 hmem with rfl | hmem
    · -- what is left of the device later has been there when its lease ended
      rcases hrest.lease deviceId lease hlookup with hfresh | ⟨hbefore, hmark⟩
      · exact .inl (hfresh.mono hfirst.nextId_le)
      · rcases hreleased lease hbefore with hfresh | ⟨hwriter, hmarked⟩
        · exact .inl (hfresh.later hrest.nextId_le)
        · exact .inr ⟨hwriter, hmark hmarked⟩
    · rcases hothers deviceId hmem lease hlookup with hfresh | ⟨hwriter, hmarked⟩
      · exact .inl (hfresh.mono hfirst.nextId_le)
      · exact .inr ⟨hwriters ▸ hwriter, hmarked⟩

theorem expire_leaves (book : LeaseBook) (hash : KeyOrder String) (nowMs : ℕ) :
    book.Leaves (book.expire hash nowMs) :=
  (book.releaseDevices_leaves _ nowMs).1

/-- **A lease that is over when leases end is gone, or there is a writer and a mark.** -/
theorem lookup_expire (h : (book.expire hash nowMs).active.lookup deviceId = some lease) :
    Fresh book (book.expire hash nowMs) lease.id ∨ book.active.lookup deviceId = some lease ∧
      (lease.expiresAtMs ≤ nowMs → (book.writers.lookup deviceId).isSome ∧
        deviceId ∈ (book.expire hash nowMs).pendingRelease) := by
  obtain ⟨hleaves, hreleased⟩ := book.releaseDevices_leaves (book.expired hash nowMs) nowMs
  rcases hleaves.lease deviceId lease h with hfresh | ⟨hbefore, -⟩
  · exact .inl hfresh
  · by_cases hover : lease.expiresAtMs ≤ nowMs
    · have hmem : deviceId ∈ book.expired hash nowMs := by
        refine List.mem_map.2 ⟨(deviceId, lease), List.mem_filter.2 ⟨?_, decide_eq_true hover⟩, rfl⟩
        exact Map.mem_entriesIn.2 hbefore
      rcases hreleased deviceId hmem lease h with hfresh | hmarked
      · exact .inl hfresh
      · exact .inr ⟨hbefore, fun _ => hmarked⟩
    · exact .inr ⟨hbefore, fun hle => absurd hle hover⟩

theorem detachInventory_leaves (book : LeaseBook) (deviceId : String) (nowMs : ℕ) :
    book.Leaves (book.detachInventory deviceId nowMs) := by
  refine Leaves.trans ?_ (releaseDevice_leaves _ deviceId nowMs).1
  split
  · exact leaves_of_same rfl rfl (Finset.Subset.refl _)
  · exact .refl book

theorem Leaves.of_unmarked {book₁ : LeaseBook} (h : book₁.Leaves book')
    (hnext : book₁.nextId = book.nextId) (hactive : book₁.active = book.active)
    (hmarks : book₁.pendingRelease = book.pendingRelease.erase deviceId)
    (hfresh : ∀ lease, book'.active.lookup deviceId = some lease → Fresh book₁ book' lease.id) :
    book.Leaves book' := by
  refine ⟨hnext ▸ h.nextId_le, fun other lease hlookup => ?_⟩
  by_cases hne : other = deviceId
  · exact .inl ((hfresh lease (hne ▸ hlookup)).mono (Nat.le_of_eq hnext.symm))
  · rcases h.lease other lease hlookup with hnew | ⟨hbefore, hmark⟩
    · exact .inl (hnew.mono (Nat.le_of_eq hnext.symm))
    · refine .inr ⟨hactive ▸ hbefore, fun hmem => hmark ?_⟩
      rw [hmarks]
      exact Finset.mem_erase.2 ⟨hne, hmem⟩

theorem finishWriter_leaves (book : LeaseBook) (deviceId : String) (nowMs : ℕ) :
    book.Leaves (book.finishWriter deviceId nowMs) := by
  have hnone : ¬ ((book.writers.erase deviceId).lookup deviceId).isSome := by
    rw [Map.lookup_erase, if_pos rfl]
    exact Bool.false_ne_true
  unfold finishWriter
  dsimp only
  split
  · obtain ⟨hleaves, hfresh⟩ := releaseDeviceNow_leaves
      { book with
        writers := book.writers.erase deviceId
        pendingRelease := book.pendingRelease.erase deviceId } deviceId nowMs
    rw [releaseDevice, if_neg hnone]
    generalize releaseDeviceNow _ deviceId nowMs = released at hleaves hfresh ⊢
    have hsame : book.Leaves released := hleaves.of_unmarked rfl rfl rfl hfresh
    exact hsame.trans (leaves_of_same rfl rfl (Finset.Subset.refl _))
  · exact leaves_of_same rfl rfl (Finset.Subset.refl _)

theorem finishWriters_leaves (book : LeaseBook) (deviceIds : List String) (nowMs : ℕ) :
    book.Leaves
      (deviceIds.foldl (fun leases deviceId => leases.finishWriter deviceId nowMs) book) :=
  List.foldlRecOn _ _ (.refl book) fun after h deviceId _ =>
    h.trans (after.finishWriter_leaves deviceId nowMs)

theorem forceReleaseDevice_leaves (book : LeaseBook) (deviceId : String) (nowMs : ℕ) :
    book.Leaves (book.forceReleaseDevice deviceId nowMs) := by
  obtain ⟨hleaves, hfresh⟩ := releaseDeviceNow_leaves
    { book with
      writers := book.writers.erase deviceId
      pendingRelease := book.pendingRelease.erase deviceId
      pendingDetach := book.pendingDetach.erase deviceId } deviceId nowMs
  exact hleaves.of_unmarked rfl rfl rfl hfresh

/-- What clients and agents ask for brings no lease back; only a renewal changes one. -/
theorem apply_leaves (book : LeaseBook) (agentPeers : Finset String) (devicePeers : Map String String)
    (hash : KeyOrder String) (peerId : String) {operation : LeaseRequest}
    (h : ∀ leaseId lifetimeMs, operation ≠ .renew leaseId lifetimeMs) (nowMs : ℕ) :
    book.Leaves (book.apply agentPeers devicePeers hash peerId operation nowMs).2 := by
  have hrelease : ∀ leaseId status,
      book.Leaves (book.release hash peerId leaseId status nowMs).2 := by
    intro leaseId status
    unfold release
    split
    · exact .refl book
    · exact (book.releaseDevice_leaves _ nowMs).1
  cases operation with
  | acquire deviceId lifetimeMs =>
    change book.Leaves (book.acquire peerId deviceId lifetimeMs nowMs).2
    unfold acquire
    split
    · exact .refl book
    · exact book.insert_leaves deviceId peerId lifetimeMs nowMs
  | queue deviceId lifetimeMs =>
    change book.Leaves (book.queue peerId deviceId lifetimeMs nowMs).2
    unfold queue
    split
    · split
      · exact .refl book
      · split
        · exact .refl book
        · exact leaves_of_same rfl rfl (Finset.Subset.refl _)
    · exact book.insert_leaves deviceId peerId lifetimeMs nowMs
  | renew leaseId lifetimeMs => exact absurd rfl (h leaseId lifetimeMs)
  | release leaseId => exact hrelease leaseId "released"
  | revoke leaseId => exact hrelease leaseId "revoked"
  | validate => exact .refl book
  | disconnect =>
    refine Leaves.trans ?_ (releaseDevices_leaves _ _ nowMs).1
    exact leaves_of_same rfl rfl (Finset.Subset.refl _)
  | agentDetach deviceId =>
    change book.Leaves (if _ then _ else _ : Reply × LeaseBook).2
    split
    · exact book.forceReleaseDevice_leaves deviceId nowMs
    · exact .refl book

/-! ### Leases that have ended -/

/-- **A lease has ended, or its end is put off**: where it is still in the book, its time is over or its
device has a mark. -/
structure Over (book : LeaseBook) (timeMs : ℕ) (id : String) : Prop where
  given : ∃ n, n ≤ book.nextId ∧ id = leaseIdOf n
  ended : ∀ deviceId lease, book.active.lookup deviceId = some lease → lease.id = id →
    lease.expiresAtMs ≤ timeMs ∨ deviceId ∈ book.pendingRelease

theorem not_fresh (h : ∃ n, n ≤ book.nextId ∧ id = leaseIdOf n) : ¬ Fresh book book' id := by
  rintro ⟨_, _, -, hid⟩
  obtain ⟨n, _, rfl⟩ := h
  have hsame := leaseIdOf_injective hid
  omega

theorem Over.of_leaves (h : book.Over timeMs id) (hleaves : book.Leaves book') :
    book'.Over timeMs id := by
  obtain ⟨n, hn, hid⟩ := h.given
  refine ⟨⟨n, hn.trans hleaves.nextId_le, hid⟩, fun deviceId lease hlookup hlease => ?_⟩
  rcases hleaves.lease deviceId lease hlookup with hfresh | ⟨hbefore, hmark⟩
  · exact absurd (hlease ▸ hfresh) (not_fresh h.given)
  · exact (h.ended deviceId lease hbefore hlease).imp_right hmark

theorem Over.marked_expire (h : book.Over timeMs id) (hle : timeMs ≤ nowMs)
    (hlookup : (book.expire hash nowMs).active.lookup deviceId = some lease) (hid : lease.id = id) :
    deviceId ∈ (book.expire hash nowMs).pendingRelease := by
  have hleaves := book.expire_leaves hash nowMs
  rcases lookup_expire hlookup with hfresh | ⟨hbefore, hexpired⟩
  · exact absurd (hid ▸ hfresh) (not_fresh h.given)
  · rcases h.ended deviceId lease hbefore hid with hover | hmarked
    · exact (hexpired (hover.trans hle)).2
    · rcases hleaves.lease deviceId lease hlookup with hfresh | ⟨-, hmark⟩
      · exact absurd (hid ▸ hfresh) (not_fresh h.given)
      · exact hmark hmarked

theorem Over.renew (h : book.Over timeMs id)
    (hmarked : ∀ deviceId lease, book.active.lookup deviceId = some lease → lease.id = id →
      deviceId ∈ book.pendingRelease) (hash : KeyOrder String) (peerId leaseId : String)
    (lifetimeMs nowMs : ℕ) : (book.renew hash peerId leaseId lifetimeMs nowMs).2.Over timeMs id := by
  unfold LeaseBook.renew
  split
  · exact h
  · rename_i key found howned
    obtain ⟨hfound, -, -⟩ := ownedLease_eq_some howned
    refine ⟨h.given, fun deviceId lease hlookup hid => ?_⟩
    change (Map.insert _ _ _).lookup deviceId = some lease at hlookup
    rw [Map.lookup_insert] at hlookup
    split at hlookup
    · rename_i hkey
      obtain rfl := Option.some.inj hlookup
      exact .inr (hkey ▸ hmarked key found hfound hid)
    · exact h.ended deviceId lease hlookup hid

/-- **No request brings a lease back.** -/
theorem Over.apply (h : book.Over timeMs id) (hle : timeMs ≤ nowMs) (agentPeers : Finset String)
    (devicePeers : Map String String) (hash : KeyOrder String) (peerId : String)
    (operation : LeaseRequest) :
    ((book.expire hash nowMs).apply agentPeers devicePeers hash peerId operation nowMs).2.Over
      timeMs id := by
  have hexpired := h.of_leaves (book.expire_leaves hash nowMs)
  by_cases hrenew : ∃ leaseId lifetimeMs, operation = .renew leaseId lifetimeMs
  · obtain ⟨leaseId, lifetimeMs, rfl⟩ := hrenew
    exact hexpired.renew (fun deviceId lease hlookup hid => h.marked_expire hle hlookup hid) _ _ _ _ _
  · refine hexpired.of_leaves (apply_leaves _ _ _ _ _ (fun leaseId lifetimeMs heq => ?_) _)
    exact hrenew ⟨leaseId, lifetimeMs, heq⟩

/-- **A lease of a client that still counts as active**: its time is not over, or there is a writer. -/
def Lingers (book : LeaseBook) (nowMs : ℕ) (id deviceId clientId : String) : Prop :=
  ∃ lease, book.active.lookup deviceId = some lease ∧ lease.id = id ∧ lease.clientId = clientId ∧
    (lease.expiresAtMs ≤ nowMs → (book.writers.lookup deviceId).isSome)

theorem lingers_of_lookup_expire (hgiven : ∃ n, n ≤ book.nextId ∧ lease.id = leaseIdOf n)
    (h : (book.expire hash nowMs).active.lookup deviceId = some lease) :
    book.Lingers nowMs lease.id deviceId lease.clientId := by
  rcases lookup_expire h with hfresh | ⟨hbefore, hexpired⟩
  · exact absurd hfresh (not_fresh hgiven)
  · exact ⟨lease, hbefore, rfl, rfl, fun hle => (hexpired hle).1⟩

theorem Over.lingers_of_leaseOf (h : book.Over timeMs id) {clientId : Option String}
    (hlease : (book.expire hash nowMs).leaseOf deviceId id clientId = some lease) :
    ∃ client, clientId = some client ∧ book.Lingers nowMs id deviceId client := by
  obtain ⟨hlookup, hid, hclient⟩ := leaseOf_eq_some hlease
  refine ⟨lease.clientId, hclient, ?_⟩
  rw [← hid]
  exact lingers_of_lookup_expire (hid ▸ h.given) hlookup

end LeaseBook

theorem Locked.inventory_leaves (locked : Locked) (orders : Orders) (nowMs : ℕ) (peerId hostId : String)
    (connected : List String) :
    locked.leases.Leaves (locked.inventory orders nowMs peerId hostId connected).leases := by
  refine List.foldlRecOn _ _ (motive := fun after : Locked => locked.leases.Leaves after.leases) ?_
    fun after h deviceId _ => h.trans (after.leases.detachInventory_leaves deviceId nowMs)
  exact LeaseBook.leaves_of_same rfl rfl (Finset.Subset.refl _)

theorem restoreAcknowledgedWriter_leaves (state : DurableState) (leases : LeaseBook) (orders : Orders)
    (nowMs : ℕ) (jobId : String) :
    leases.Leaves (restoreAcknowledgedWriter state leases orders nowMs jobId).2 := by
  have hexpire := leases.expire_leaves orders.active nowMs
  unfold restoreAcknowledgedWriter
  split
  · exact .refl leases
  · split
    · exact .refl leases
    · dsimp only
      split
      · split
        · exact hexpire
        · split
          · split
            · exact hexpire
            · exact hexpire
          · exact hexpire.trans (LeaseBook.leaves_of_same rfl rfl (Finset.Subset.refl _))
      · exact hexpire

section

variable [Sha256] {config : Config} {env : Env} {event : Event} {runtime : Runtime}
  {state : DurableState} {leases : LeaseBook} {timeMs : ℕ} {id : String}

/-- **A lease that has ended stays so**, whatever happens at the time or later. -/
theorem over_change (h : runtime.leases.Over timeMs id) (hle : timeMs ≤ env.nowMs)
    (hchange : Change config env event runtime state leases) : leases.Over timeMs id := by
  have hexpire := runtime.leases.expire_leaves env.orders.active env.nowMs
  cases hchange with
  | same => exact h
  | inventory hevent hagent howner hlocked =>
    refine h.of_leaves ?_
    rw [show leases = (⟨state, leases⟩ : Locked).leases from rfl, hlocked]
    exact runtime.locked.inventory_leaves _ _ _ _ _
  | expire | reject => exact h.of_leaves hexpire
  | grant =>
    exact h.of_leaves (hexpire.trans (LeaseBook.leaves_of_same rfl rfl (Finset.Subset.refl _)))
  | reconcile hholder hstate hleases =>
    rw [hleases]
    exact h.of_leaves (runtime.leases.finishWriters_leaves _ _)
  | acceptRun | complete | acceptApple => exact h
  | restore => exact h.of_leaves (restoreAcknowledgedWriter_leaves _ _ _ _ _)
  | ongoing =>
    exact h.of_leaves (restoreAcknowledgedWriter_leaves _ _ _ _ _)
  | terminal hevent hagent hstate hleases =>
    rw [hleases]
    exact h.of_leaves (runtime.leases.finishWriters_leaves _ _)
  | rollBack =>
    exact h.of_leaves (LeaseBook.leaves_of_same rfl rfl (Finset.Subset.refl _))
  | cancel => exact h
  | lease => exact h.apply hle _ _ _ _ _

end

/-! ### Nothing new -/

def Under (state : DurableState) (id jobId deviceId : String) : Prop :=
  ∃ operation, state.applePending.lookup jobId = some operation ∧
    leaseNeeded operation = some (deviceId, id)

theorem leaseNeeded_eq_some {operation : AppleRequest} {deviceId leaseId : String} :
    leaseNeeded operation = some (deviceId, leaseId) ↔ operation.operation.mutatesDevice = true ∧
      operation.deviceId = some deviceId ∧ operation.leaseId = some leaseId := by
  unfold leaseNeeded
  constructor
  · intro h
    split at h
    · rename_i hmutates
      split at h
      · rename_i device lease hdevice hlease
        cases h
        exact ⟨hmutates, hdevice, hlease⟩
      · cases h
    · cases h
  · rintro ⟨hmutates, hdevice, hlease⟩
    rw [if_pos hmutates, hdevice, hlease]

section

variable [Sha256]

/-- **An event does nothing new under a lease**: no new job that names it is let through, no job is given
out under it, it is granted to nobody, no job becomes a writer under it, and only a job that is the writer
already reports on. -/
structure Quiet (config : Config) (id : String) (env : Env) (event : Event) (runtime : Runtime) :
    Prop where
  refused : ∀ peerId operation, event = .request peerId (.appleRun operation) →
    operation.operation.mutatesDevice = true → operation.leaseId = some id →
      runtime.state.appleRequests.lookup operation.idempotencyKey = none →
        (handle config env event runtime).1.flights = runtime.flights ∧
          (handle config env event runtime).1.state = runtime.state ∧
          ∀ answer, (handle config env event runtime).2 = some answer → answer.accepted = false
  dispatched : ∀ answer operation deviceId, (handle config env event runtime).2 = some answer →
    answer.appleOperation = some operation → leaseNeeded operation ≠ some (deviceId, id)
  granted : ∀ answer grant, (handle config env event runtime).2 = some answer →
    answer.leaseGrant = some grant → grant.leaseId ≠ id
  writer : ∀ jobId deviceId, Under runtime.state id jobId deviceId →
    (handle config env event runtime).1.leases.writers.lookup deviceId = some ⟨jobId⟩ →
      runtime.leases.writers.lookup deviceId = some ⟨jobId⟩
  reported : ∀ peerId jobId events terminal deviceId,
    event = .request peerId (.appleProgress jobId events terminal) →
      Under runtime.state id jobId deviceId →
        runtime.takes config env peerId jobId events terminal →
          runtime.leases.writers.lookup deviceId = some ⟨jobId⟩

/-- A start answers nothing, and sets no writer. -/
def NothingNew (config : Config) (id : String) (runtime : Runtime) : Input → Prop
  | .event env event => Quiet config id env event runtime
  | .start _ _ _ _ => True

end

/-- **Nothing relies on a lease while it lingers**: no new job of its client, no job that would be given out
under it, no renewal, no place in the queue, and no report of a job that would become the writer. The last
report of a job under the lease comes from the writer. -/
structure Unused (id : String) (env : Env) (event : Event) (runtime : Runtime) : Prop where
  asked : ∀ peerId operation deviceId, event = .request peerId (.appleRun operation) →
    operation.operation.mutatesDevice = true → operation.leaseId = some id →
      operation.deviceId = some deviceId →
        runtime.state.appleRequests.lookup operation.idempotencyKey = none →
          ¬ runtime.leases.Lingers env.nowMs id deviceId peerId
  given : ∀ hostId jobId operation deviceId clientId, event = .resume (.online hostId) →
    runtime.state.nextApple runtime.leases env.orders hostId = some (jobId, operation) →
      leaseNeeded operation = some (deviceId, id) →
        runtime.state.jobClients.lookup jobId = some clientId →
          ¬ runtime.leases.Lingers env.nowMs id deviceId clientId
  renewed : ∀ peerId lifetimeMs deviceId, event = .request peerId (.lease (.renew id lifetimeMs)) →
    ¬ runtime.leases.Lingers env.nowMs id deviceId peerId
  queued : ∀ peerId lifetimeMs deviceId, event = .request peerId (.lease (.queue deviceId lifetimeMs)) →
    ¬ runtime.leases.Lingers env.nowMs id deviceId peerId
  restored : ∀ peerId jobId events deviceId clientId,
    event = .request peerId (.appleProgress jobId events false) → Under runtime.state id jobId deviceId →
      runtime.state.jobClients.lookup jobId = some clientId →
        runtime.leases.writers.lookup deviceId = none →
          ¬ runtime.leases.Lingers env.nowMs id deviceId clientId
  ended : ∀ peerId jobId events deviceId, event = .request peerId (.appleProgress jobId events true) →
    runtime.state.jobAgents.lookup jobId = some peerId → Under runtime.state id jobId deviceId →
      runtime.leases.writers.lookup deviceId = some ⟨jobId⟩

def Clear (id : String) (runtime : Runtime) : Input → Prop
  | .event env event => Unused id env event runtime
  | .start _ _ _ _ => True

section

variable [Sha256] {config : Config} {env : Env} {event : Event} {runtime : Runtime}
  {timeMs : ℕ} {id : String}

variable {peerId deviceId jobId : String} {book : LeaseBook} {writer : DeviceWriter}
  {answer : Response}

theorem appleRun_refused {operation : AppleRequest}
    (hmutates : operation.operation.mutatesDevice = true) (hlease : operation.leaseId = some id)
    (hnone : ∀ deviceId, operation.deviceId = some deviceId →
      (runtime.leases.expire env.orders.active env.nowMs).leaseOf deviceId id (some peerId) = none) :
    (appleRun config env peerId operation runtime).1.flights = runtime.flights ∧
      (appleRun config env peerId operation runtime).1.state = runtime.state ∧
      ∀ answer, (appleRun config env peerId operation runtime).2 = some answer →
        answer.accepted = false := by
  unfold appleRun
  split
  · refine ⟨rfl, rfl, fun answer h => ?_⟩
    obtain rfl := Option.some.inj h
    rfl
  · rw [if_pos hmutates]
    unfold appleRunLease
    dsimp only
    generalize hstored : Runtime.storeLeases _ env = stored
    have hflights : stored.flights = runtime.flights := by
      rw [← hstored]
      unfold Runtime.storeLeases
      split <;> rfl
    have hstate : stored.state = runtime.state := by rw [← hstored, state_storeLeases]
    have hleases : stored.leases = runtime.leases.expire env.orders.active env.nowMs := by
      rw [← hstored, leases_storeLeases]
    split
    · refine ⟨hflights, hstate, fun answer h => ?_⟩
      obtain rfl := Option.some.inj h
      rfl
    · have hinactive : (operation.deviceId.bind fun deviceId => operation.leaseId.bind fun leaseId =>
          stored.leases.leaseOf deviceId leaseId (some peerId)).isNone := by
        rw [hlease, hleases]
        cases hdevice : operation.deviceId with
        | none => rfl
        | some deviceId =>
          rw [Option.bind_some, Option.bind_some, hnone deviceId hdevice]
          rfl
      rw [if_pos hinactive]
      refine ⟨hflights, hstate, fun answer h => ?_⟩
      obtain rfl := Option.some.inj h
      rfl

theorem handle_appleRun_refused {operation : AppleRequest}
    (hmutates : operation.operation.mutatesDevice = true) (hlease : operation.leaseId = some id)
    (hnone : ∀ deviceId, operation.deviceId = some deviceId →
      (runtime.leases.expire env.orders.active env.nowMs).leaseOf deviceId id (some peerId) = none) :
    (handle config env (.request peerId (.appleRun operation)) runtime).1.flights = runtime.flights ∧
      (handle config env (.request peerId (.appleRun operation)) runtime).1.state = runtime.state ∧
      ∀ answer, (handle config env (.request peerId (.appleRun operation)) runtime).2 = some answer →
        answer.accepted = false := by
  have hnothing : runtime.flights = runtime.flights ∧ runtime.state = runtime.state ∧
      ∀ answer, (none : Option Response) = some answer → answer.accepted = false :=
    ⟨rfl, rfl, fun answer h => (by cases h)⟩
  unfold handle
  split
  · unfold perform
    dsimp only
    split
    · exact hnothing
    · split
      · rename_i hread
        cases hread
      · split
        · exact appleRun_refused hmutates hlease hnone
        · refine ⟨rfl, rfl, fun answer h => ?_⟩
          obtain rfl := Option.some.inj h
          rfl
  · exact hnothing

/-! ### Writers under a lease -/

section

omit [Sha256]

theorem LeaseBook.lookup_writers_of_finishWriters {deviceIds : List String} {nowMs : ℕ}
    (h : (deviceIds.foldl (fun leases deviceId => leases.finishWriter deviceId nowMs)
      book).writers.lookup deviceId = some writer) : book.writers.lookup deviceId = some writer := by
  induction deviceIds generalizing book with
  | nil => exact h
  | cons other deviceIds ih =>
    have hafter := ih h
    rw [(book.marks_finishWriter other nowMs).1, Map.lookup_erase] at hafter
    split at hafter
    · cases hafter
    · exact hafter

theorem LeaseBook.lookup_writers_of_apply {agentPeers : Finset String}
    {devicePeers : Map String String} {hash : KeyOrder String} {operation : LeaseRequest} {nowMs : ℕ}
    (h : (book.apply agentPeers devicePeers hash peerId operation nowMs).2.writers.lookup deviceId
      = some writer) : book.writers.lookup deviceId = some writer := by
  by_cases hdetach : ∃ detached, operation = .agentDetach detached
  · obtain ⟨detached, rfl⟩ := hdetach
    change (if _ then _ else _ : Reply × LeaseBook).2.writers.lookup deviceId = _ at h
    split at h
    · change (LeaseBook.forceReleaseDevice book detached nowMs).writers.lookup deviceId = _ at h
      rw [LeaseBook.forceReleaseDevice, (LeaseBook.marks_releaseDeviceNow _ detached nowMs).1,
        Map.lookup_erase] at h
      split at h
      · cases h
      · exact h
    · exact h
  · have hspares := book.apply_spares agentPeers devicePeers hash peerId
      (fun detached heq => hdetach ⟨detached, heq⟩) nowMs
    rw [hspares.writers] at h
    exact h

theorem LeaseBook.lookup_writers_of_setWriter {other : String}
    (h : (book.setWriter deviceId jobId).writers.lookup other = some writer) :
    other = deviceId ∧ writer = ⟨jobId⟩ ∨ book.writers.lookup other = some writer := by
  change (Map.insert _ _ _).lookup other = _ at h
  rw [Map.lookup_insert] at h
  split at h
  · exact .inl ⟨‹_›, (Option.some.inj h).symm⟩
  · exact .inr h

theorem writer_of_restored (hover : runtime.leases.Over timeMs id) {events : List NetworkEvent}
    (hunused : Unused id env (.request peerId (.appleProgress jobId events false)) runtime)
    {other : String} (hunder : Under runtime.state id other deviceId)
    (h : (restoreAcknowledgedWriter runtime.state runtime.leases env.orders env.nowMs
      jobId).2.writers.lookup deviceId = some ⟨other⟩) :
    runtime.leases.writers.lookup deviceId = some ⟨other⟩ := by
  have hrestored := restored runtime.state runtime.leases env.orders env.nowMs jobId
  generalize (restoreAcknowledgedWriter _ _ _ _ _).1 = result at hrestored
  generalize (restoreAcknowledgedWriter _ _ _ _ _).2 = leases' at hrestored h
  cases hrestored with
  | refused hspares =>
    rw [hspares.writers] at h
    exact h
  | kept hpending hwriter hspares =>
    rw [hspares.writers] at h
    exact h
  | @taken operation device leaseId clientId hpending hmutates hdevice hlease hclient hactive hfree =>
    rcases LeaseBook.lookup_writers_of_setWriter h with ⟨rfl, hjob⟩ | hbefore
    · cases hjob
      obtain ⟨_, hfound, hneeds⟩ := hunder
      obtain rfl := Option.some.inj (hpending.symm.trans hfound)
      obtain ⟨-, -, hid⟩ := leaseNeeded_eq_some.1 hneeds
      obtain rfl := Option.some.inj (hlease.symm.trans hid)
      obtain ⟨lease, hleaseOf⟩ := Option.isSome_iff_exists.1 hactive
      obtain ⟨_, hsame, hlingers⟩ := hover.lingers_of_leaseOf hleaseOf
      obtain rfl := Option.some.inj hsame
      exact absurd hlingers (hunused.restored peerId jobId events deviceId clientId rfl
        ⟨operation, hpending, hneeds⟩ hclient hfree)
    · rw [(runtime.leases.expire_spares env.orders.active env.nowMs).writers] at hbefore
      exact hbefore

end

/-- **No job becomes a writer under a lease that has ended**, if nothing relies on it. -/
theorem writer_of_change (hover : runtime.leases.Over timeMs id)
    (hunused : Unused id env event runtime) {state : DurableState} {leases : LeaseBook}
    (hchange : Change config env event runtime state leases)
    (hunder : Under runtime.state id jobId deviceId)
    (h : leases.writers.lookup deviceId = some ⟨jobId⟩) :
    runtime.leases.writers.lookup deviceId = some ⟨jobId⟩ := by
  have hexpired := (runtime.leases.expire_spares env.orders.active env.nowMs).writers
  cases hchange with
  | same => exact h
  | inventory hevent hagent howner hlocked =>
    rw [show leases = (⟨state, leases⟩ : Locked).leases from rfl, hlocked,
      (runtime.locked.inventory_spares _ _ _ _ _).writers] at h
    exact h
  | expire | reject => exact hexpired ▸ h
  | @grant state hostId job device leaseId operation lease hevent hnext hneeds hlease hstate =>
    rcases LeaseBook.lookup_writers_of_setWriter h with ⟨rfl, hjob⟩ | hbefore
    · cases hjob
      obtain ⟨hpending, -⟩ := DurableState.nextApple_eq_some hnext
      obtain ⟨_, hfound, hunder'⟩ := hunder
      obtain rfl := Option.some.inj (hpending.symm.trans hfound)
      obtain ⟨-, hid⟩ := Prod.mk.inj (Option.some.inj (hneeds.symm.trans hunder'))
      subst hid
      obtain ⟨client, hclient, hlingers⟩ := hover.lingers_of_leaseOf hlease
      exact absurd hlingers (hunused.given hostId jobId operation deviceId client hevent hnext hneeds
        hclient)
    · exact hexpired ▸ hbefore
  | reconcile hholder hstate hleases =>
    rw [hleases] at h
    exact LeaseBook.lookup_writers_of_finishWriters h
  | acceptRun | complete | acceptApple => exact h
  | restore hevent =>
    subst hevent
    exact writer_of_restored hover hunused hunder h
  | ongoing hevent =>
    subst hevent
    exact writer_of_restored hover hunused hunder h
  | terminal hevent hagent hstate hleases =>
    rw [hleases] at h
    exact LeaseBook.lookup_writers_of_finishWriters h
  | rollBack =>
    change (Map.retain _ _).lookup deviceId = _ at h
    rw [Map.lookup_retain, Option.filter_eq_some_iff] at h
    exact h.1
  | cancel => exact h
  | lease => exact hexpired ▸ LeaseBook.lookup_writers_of_apply h

theorem writer_of_takes (hover : runtime.leases.Over timeMs id) {events : List NetworkEvent}
    {terminal : Bool}
    (hunused : Unused id env (.request peerId (.appleProgress jobId events terminal)) runtime)
    (hunder : Under runtime.state id jobId deviceId)
    (htakes : runtime.takes config env peerId jobId events terminal) :
    runtime.leases.writers.lookup deviceId = some ⟨jobId⟩ := by
  obtain ⟨-, -, hagent, hlooked, -⟩ := htakes
  cases terminal with
  | true => exact hunused.ended peerId jobId events deviceId rfl hagent hunder
  | false =>
    have hok := (hlooked.resolve_left Bool.false_ne_true).1
    obtain ⟨operation, hpending, hneeds⟩ := hunder
    obtain ⟨hmutates, hdevice, hid⟩ := leaseNeeded_eq_some.1 hneeds
    have hrestored := restored runtime.state runtime.leases env.orders env.nowMs jobId
    generalize (restoreAcknowledgedWriter _ _ _ _ _).1 = result at hrestored hok
    generalize (restoreAcknowledgedWriter _ _ _ _ _).2 = leases' at hrestored
    cases hrestored with
    | refused => cases hok
    | @kept found leases' hfound hwriter hspares =>
      obtain rfl := Option.some.inj (hpending.symm.trans hfound)
      exact hwriter deviceId hmutates hdevice
    | @taken found device leaseId clientId hfound hmutates' hdevice' hlease hclient hactive hfree =>
      obtain rfl := Option.some.inj (hpending.symm.trans hfound)
      obtain rfl := Option.some.inj (hdevice.symm.trans hdevice')
      obtain rfl := Option.some.inj (hid.symm.trans hlease)
      obtain ⟨lease, hleaseOf⟩ := Option.isSome_iff_exists.1 hactive
      obtain ⟨_, hsame, hlingers⟩ := hover.lingers_of_leaseOf hleaseOf
      obtain rfl := Option.some.inj hsame
      exact absurd hlingers (hunused.restored peerId jobId events deviceId clientId rfl
        ⟨operation, hpending, hneeds⟩ hclient hfree)

/-! ### Answers under a lease -/

structure Withholds (answer : Response) (id : String) : Prop where
  dispatched : ∀ operation deviceId, answer.appleOperation = some operation →
    leaseNeeded operation ≠ some (deviceId, id)
  granted : ∀ grant, answer.leaseGrant = some grant → grant.leaseId ≠ id

section

omit [Sha256]

theorem Response.Plain.withholds (h : answer.Plain) (id : String) : Withholds answer id := by
  refine ⟨fun operation deviceId hoperation => ?_, fun grant hgrant => ?_⟩
  · rw [h.1] at hoperation
    cases hoperation
  · rw [h.2] at hgrant
    cases hgrant

theorem withholds_leaseRequest (hover : runtime.leases.Over timeMs id) {operation : LeaseRequest}
    (hunused : Unused id env (.request peerId (.lease operation)) runtime)
    (h : (leaseRequest config env peerId operation runtime).2 = some answer) :
    Withholds answer id := by
  rcases leaseRequest_answer h with hplain | ⟨leaseId, status, grant, hgranted, hnone, hgrant, hid⟩
  · exact hplain.withholds id
  · refine ⟨fun operation deviceId hoperation => ?_, fun other hother heq => ?_⟩
    · rw [hnone] at hoperation
      cases hoperation
    · obtain rfl := Option.some.inj (hgrant.symm.trans hother)
      obtain rfl : leaseId = id := hid.symm.trans heq
      have hexpired := hover.of_leaves (runtime.leases.expire_leaves env.orders.active env.nowMs)
      rcases granted_cases hgranted with
        hnew | ⟨deviceId, lease, lifetimeMs, hlookup, rfl, rfl, hoperation⟩
      · obtain ⟨_, _, hn⟩ := hexpired.given
        have hsame := leaseIdOf_injective (hn.symm.trans hnew)
        omega
      · have hlingers := LeaseBook.lingers_of_lookup_expire hover.given hlookup
        rcases hoperation with rfl | rfl
        · exact hunused.renewed lease.clientId lifetimeMs deviceId rfl hlingers
        · exact hunused.queued lease.clientId lifetimeMs deviceId rfl hlingers

theorem withholds_heartbeatDispatch (hover : runtime.leases.Over timeMs id) {hostId : String}
    (hunused : Unused id env (.resume (.online hostId)) runtime) {flights : List Flight}
    (h : (heartbeatDispatch config env hostId { runtime with flights }).2 = some answer) :
    Withholds answer id := by
  rcases heartbeatDispatch_answer h with
    hplain | ⟨jobId, operation, hnext, ⟨hoperation, hlease⟩, -, -⟩
  · exact hplain.withholds id
  · rcases hlease with ⟨hneeds, hgrant⟩ | ⟨deviceId, leaseId, _, grant, hneeds, hleaseOf, hgrant, hid⟩
    · refine ⟨fun found deviceId hfound hunder => ?_, fun grant hsome => ?_⟩
      · obtain rfl := Option.some.inj (hoperation.symm.trans hfound)
        rw [hneeds] at hunder
        cases hunder
      · rw [hgrant] at hsome
        cases hsome
    · have hne : leaseId ≠ id := by
        rintro rfl
        obtain ⟨client, hclient, hlingers⟩ := hover.lingers_of_leaseOf hleaseOf
        exact hunused.given hostId jobId operation deviceId client rfl hnext hneeds hclient hlingers
      refine ⟨fun found device hfound hunder => ?_, fun other hother heq => ?_⟩
      · obtain rfl := Option.some.inj (hoperation.symm.trans hfound)
        exact hne (Prod.mk.inj (Option.some.inj (hneeds.symm.trans hunder))).2
      · obtain rfl := Option.some.inj (hgrant.symm.trans hother)
        exact hne (hid.symm.trans heq)

end

theorem withholds_handle (hover : runtime.leases.Over timeMs id)
    (hunused : Unused id env event runtime) (h : (handle config env event runtime).2 = some answer) :
    Withholds answer id := by
  by_cases hlease : ∃ peerId operation, event = .request peerId (.lease operation)
  · obtain ⟨peerId, operation, rfl⟩ := hlease
    rcases handle_request_answer h with ⟨_, rfl⟩ | ⟨hanswer, -⟩
    · exact Response.Plain.withholds ⟨rfl, rfl⟩ id
    · exact withholds_leaseRequest hover hunused hanswer
  · by_cases hdispatch : ∃ hostId, event = .resume (.online hostId)
    · obtain ⟨hostId, rfl⟩ := hdispatch
      exact withholds_heartbeatDispatch hover hunused (handle_online_answer h)
    · refine Response.Plain.withholds ?_ id
      refine plain_handle config env runtime (fun peerId operation heq => ?_) (fun hostId heq => ?_)
        answer h
      · exact hlease ⟨peerId, operation, heq⟩
      · exact hdispatch ⟨hostId, heq⟩

/-- **An event does nothing new under a lease that has ended**, if nothing relies on it. -/
theorem quiet_handle (hover : runtime.leases.Over timeMs id) (hunused : Unused id env event runtime) :
    Quiet config id env event runtime where
  refused peerId operation hevent hmutates hlease hnew := by
    subst hevent
    refine handle_appleRun_refused hmutates hlease fun deviceId hdevice => ?_
    by_contra hsome
    obtain ⟨lease, hleaseOf⟩ := Option.ne_none_iff_exists'.1 hsome
    obtain ⟨_, hclient, hlingers⟩ := hover.lingers_of_leaseOf hleaseOf
    obtain rfl := Option.some.inj hclient
    exact hunused.asked peerId operation deviceId rfl hmutates hlease hdevice hnew hlingers
  dispatched answer operation deviceId hanswer hoperation :=
    (withholds_handle hover hunused hanswer).dispatched operation deviceId hoperation
  granted answer grant hanswer hgrant := (withholds_handle hover hunused hanswer).granted grant hgrant
  writer jobId deviceId hunder hwriter :=
    writer_of_change hover hunused (handle_change config env event runtime) hunder hwriter
  reported peerId jobId events terminal deviceId hevent hunder htakes := by
    subst hevent
    exact writer_of_takes hover hunused hunder htakes

/-! ### Runs -/

/-- The time does not go back behind the end of a lease, and no start finds the lease on the disk before
its end. -/
def From (timeMs : ℕ) (id : String) (runtime : Runtime) : Input → Prop
  | .event env _ => timeMs ≤ env.nowMs
  | .start _ _ _ _ => runtime.storedLeases.Over timeMs id

/-- **A lease has ended stays ended**, crashes included. -/
theorem over_next (hover : runtime.leases.Over timeMs id) {input : Input}
    (hfrom : From timeMs id runtime input) : (runtime.next config input).leases.Over timeMs id := by
  cases input with
  | event env event => exact over_change hover hfrom (handle_change config env event runtime)
  | start env again unreadable debris =>
    change (if _ then _ else _ : Runtime).leases.Over timeMs id
    split
    · obtain ⟨deviceIds, -, hleases, -, -⟩ := start_cases env again unreadable debris runtime
      rw [hleases]
      have hexpire := runtime.storedLeases.expire_leaves env.orders.active env.nowMs
      have hstored : runtime.storedLeases.Over timeMs id := hfrom
      exact hstored.of_leaves (hexpire.trans (LeaseBook.finishWriters_leaves _ deviceIds env.nowMs))
    · exact hover

theorem over_stored_next (hover : runtime.leases.Over 0 id) (hstored : runtime.storedLeases.Over 0 id)
    (input : Input) : (runtime.next config input).leases.Over 0 id ∧
      (runtime.next config input).storedLeases.Over 0 id := by
  cases input with
  | event env event =>
    have hafter := over_change hover (Nat.zero_le _) (handle_change config env event runtime)
    refine ⟨hafter, ?_⟩
    rcases (handle_stores config env event runtime).leases with hsame | hsame
    · exact hsame ▸ hstored
    · exact hsame ▸ hafter
  | start env again unreadable debris =>
    have hafter : (runtime.next config (.start env again unreadable debris)).leases.Over 0 id :=
      over_next hover hstored
    refine ⟨hafter, ?_⟩
    change (if _ then _ else _ : Runtime).storedLeases.Over 0 id
    split
    · rename_i hnext
      obtain ⟨deviceIds, -, -, -, hdisk⟩ := start_cases env again unreadable debris runtime
      have hexpire := runtime.storedLeases.expire_leaves env.orders.active env.nowMs
      change (if _ then _ else _ : Runtime).leases.Over 0 id at hafter
      rw [if_pos hnext] at hafter
      rcases hdisk with hsame | hsame | hsame
      · exact hsame ▸ hstored
      · exact hsame ▸ hstored.of_leaves hexpire
      · exact hsame ▸ hafter
    · exact hstored

end

/-! ### Leases that are given up -/

/-- What everything that happens to leases keeps, where clients ask for them in events of some kind. -/
structure LeaseBook.Kept (P : Event → Prop) (J : LeaseBook → Prop) : Prop where
  empty : J .empty
  same : ∀ {book book' : LeaseBook}, J book → book'.nextId = book.nextId → book'.active = book.active →
    book'.waiting = book.waiting → J book'
  expire : ∀ {book : LeaseBook} hash nowMs, J book → J (book.expire hash nowMs)
  finishWriter : ∀ {book : LeaseBook} deviceId nowMs, J book → J (book.finishWriter deviceId nowMs)
  detachInventory : ∀ {book : LeaseBook} deviceId nowMs, J book → J (book.detachInventory deviceId nowMs)
  apply : ∀ {book : LeaseBook} {peerId operation}, P (.request peerId (.lease operation)) → J book →
    ∀ agentPeers devicePeers hash nowMs,
      J (book.apply agentPeers devicePeers hash peerId operation nowMs).2

namespace LeaseBook.Kept

variable {P : Event → Prop} {J : LeaseBook → Prop}

theorem finishWriters (h : Kept P J) {book : LeaseBook} (hbook : J book) (deviceIds : List String)
    (nowMs : ℕ) : J (deviceIds.foldl (fun leases deviceId => leases.finishWriter deviceId nowMs) book) :=
  List.foldlRecOn _ _ hbook fun _ hbook deviceId _ => h.finishWriter deviceId nowMs hbook

theorem inventory (h : Kept P J) {locked : Locked} (hbook : J locked.leases) (orders : Orders)
    (nowMs : ℕ) (peerId hostId : String) (connected : List String) :
    J (locked.inventory orders nowMs peerId hostId connected).leases :=
  List.foldlRecOn _ _ (motive := fun after : Locked => J after.leases) (h.same hbook rfl rfl rfl)
    fun _ hbook deviceId _ => h.detachInventory deviceId nowMs hbook

theorem restoreAcknowledgedWriter (h : Kept P J) {leases : LeaseBook} (hleases : J leases)
    (state : DurableState) (orders : Orders) (nowMs : ℕ) (jobId : String) :
    J (restoreAcknowledgedWriter state leases orders nowMs jobId).2 := by
  have hexpire := h.expire orders.active nowMs hleases
  unfold Registry.restoreAcknowledgedWriter
  split
  · exact hleases
  · split
    · exact hleases
    · dsimp only
      split
      · split
        · exact hexpire
        · split
          · split
            · exact hexpire
            · exact hexpire
          · exact h.same hexpire rfl rfl rfl
      · exact hexpire

/-- **What everything that happens to leases keeps, all changes keep.** -/
theorem keptWhile [Sha256] (h : Kept P J) (config : Config) :
    Runtime.KeptWhile config P (fun _ => True) J where
  core _ _ := trivial
  recovery _ _ _ := trivial
  empty := ⟨trivial, h.empty⟩
  expire _ hash nowMs hleases := h.expire hash nowMs hleases
  finish _ deviceId nowMs hleases := h.finishWriter deviceId nowMs hleases
  change {env event runtime state leases} hevent _ hleases hchange := by
    refine ⟨trivial, ?_⟩
    have hexpire := h.expire env.orders.active env.nowMs hleases
    cases hchange with
    | same => exact hleases
    | inventory _ _ _ hlocked =>
      rw [show leases = (⟨state, leases⟩ : Locked).leases from rfl, hlocked]
      exact h.inventory hleases _ _ _ _ _
    | expire | reject => exact hexpire
    | grant => exact h.same hexpire rfl rfl rfl
    | reconcile _ _ hfinished =>
      rw [hfinished]
      exact h.finishWriters hleases _ _
    | acceptRun | complete | acceptApple | cancel => exact hleases
    | restore | ongoing => exact h.restoreAcknowledgedWriter hleases _ _ _ _
    | terminal _ _ _ hfinished =>
      rw [hfinished]
      exact h.finishWriters hleases _ _
    | rollBack => exact h.same hleases rfl rfl rfl
    | lease hlease =>
      subst hlease
      exact h.apply hevent hexpire _ _ _ _

theorem ordered (P : Event → Prop) : Kept P LeaseBook.Ordered where
  empty := ordered_empty
  same h hnext hactive hwaiting := h.congr hnext hactive hwaiting
  expire hash nowMs h := (expire_spec h hash nowMs).ordered
  finishWriter deviceId nowMs h := (finishWriter_spec h deviceId nowMs).ordered
  detachInventory deviceId nowMs h := (detachInventory_spec h deviceId nowMs).ordered
  apply _ h _ _ _ _ := (apply_takesTurns h _ _ _ _ _ _).ordered

end LeaseBook.Kept

section

variable [Sha256] {config : Config} {env : Env} {runtime : Runtime} {id : String}

variable {peerId : String}

theorem ordered_runInputs (config : Config) (inputs : List Input) :
    (Runtime.empty.runInputs config inputs).leases.Ordered :=
  (Runtime.everywhere_runInputs_while ((LeaseBook.Kept.ordered _).keptWhile config) fun input _ =>
    Runtime.of_true input).leases

/-- **The jobs and leases of the registry are well kept** after any run, in memory and on the disk. -/
theorem wellKept_of_run (config : Config) (inputs : List Input) :
    Runtime.Everywhere (fun state => state.Named ∧ state.Known) LeaseBook.Ordered
      (Runtime.empty.runInputs config inputs) := by
  have hnamed := Runtime.everywhere_runInputs (named_keptByChanges config) inputs
  have hknown := Runtime.everywhere_runInputs (known_keptByChanges config) inputs
  have hordered := Runtime.everywhere_runInputs_while ((LeaseBook.Kept.ordered _).keptWhile config)
    fun input (_ : input ∈ inputs) => Runtime.of_true input
  exact ⟨⟨hnamed.state, hknown.state⟩, hordered.leases, ⟨hnamed.storedState, hknown.storedState⟩,
    hordered.storedLeases⟩

def EndsLease (book : LeaseBook) (peerId id : String) (operation : LeaseRequest) : Prop :=
  operation = .release id ∨ operation = .revoke id ∨ operation = .disconnect ∧
    ∃ deviceId lease, book.active.lookup deviceId = some lease ∧ lease.id = id ∧ lease.clientId = peerId

omit [Sha256] in
theorem LeaseBook.over_release {book : LeaseBook} (h : book.Ordered) {hash : KeyOrder String}
    {key : String} {found : DeviceLease} (howned : book.ownedLease hash peerId id = some (key, found))
    (status : String) (nowMs : ℕ) : (book.release hash peerId id status nowMs).2.Over 0 id := by
  unfold release
  rw [howned]
  obtain ⟨hfound, rfl, -⟩ := ownedLease_eq_some howned
  obtain ⟨n, hn, hid⟩ := h.numbered key found hfound
  have hkey := h.keyed key found hfound
  dsimp only
  rw [hkey]
  obtain ⟨hleaves, hreleased⟩ := book.releaseDevice_leaves key nowMs
  refine ⟨⟨n, hn.trans hleaves.nextId_le, hid⟩, fun deviceId lease hlookup hsame => .inr ?_⟩
  have hgiven : ∃ n, n ≤ book.nextId ∧ lease.id = leaseIdOf n := ⟨n, hn, hsame.trans hid⟩
  rcases hleaves.lease deviceId lease hlookup with hfresh | ⟨hbefore, -⟩
  · exact absurd hfresh (not_fresh hgiven)
  · obtain rfl := h.distinct deviceId key lease found hbefore hfound hsame
    rcases hreleased lease hlookup with hfresh | ⟨-, hmark⟩
    · exact absurd hfresh (not_fresh hgiven)
    · exact hmark

omit [Sha256] in
theorem LeaseBook.over_disconnect {book : LeaseBook} (h : book.Ordered) {hash : KeyOrder String}
    {nowMs : ℕ} {deviceId : String} {lease : DeviceLease}
    (hlookup : book.active.lookup deviceId = some lease) (hclient : lease.clientId = peerId) :
    ((book.expire hash nowMs).disconnect hash peerId nowMs).2.Over 0 lease.id := by
  have hordered := (expire_spec h hash nowMs).ordered
  have hexpire := book.expire_leaves hash nowMs
  obtain ⟨n, hn, hid⟩ := h.numbered deviceId lease hlookup
  generalize hleft : ({ book.expire hash nowMs with
    waiting := (book.expire hash nowMs).waiting.filter fun waiting => waiting.clientId ≠ peerId } :
      LeaseBook) = left
  have hactive : left.active = (book.expire hash nowMs).active := by rw [← hleft]
  have hnext : left.nextId = (book.expire hash nowMs).nextId := by rw [← hleft]
  obtain ⟨hleaves, hreleased⟩ :=
    left.releaseDevices_leaves ((book.expire hash nowMs).leasedDevices hash peerId) nowMs
  have hresult : ((book.expire hash nowMs).disconnect hash peerId nowMs).2
      = left.releaseDevices ((book.expire hash nowMs).leasedDevices hash peerId) nowMs := by
    rw [← hleft]
    rfl
  rw [hresult]
  have hle : n ≤ left.nextId := hnext ▸ hn.trans hexpire.nextId_le
  refine ⟨⟨n, hle.trans hleaves.nextId_le, hid⟩, fun other found hafter hsame => .inr ?_⟩
  have hgiven : ∃ n, n ≤ left.nextId ∧ found.id = leaseIdOf n := ⟨n, hle, hsame.trans hid⟩
  rcases hleaves.lease other found hafter with hfresh | ⟨hbefore, -⟩
  · exact absurd hfresh (not_fresh hgiven)
  · rw [hactive] at hbefore
    -- the lease that is left is the one that the client has had
    rcases hexpire.lease other found hbefore with hfresh | ⟨hfirst, -⟩
    · exact absurd hfresh (not_fresh ⟨n, hn, hsame.trans hid⟩)
    · obtain rfl := h.distinct other deviceId found lease hfirst hlookup hsame
      obtain rfl := Option.some.inj (hfirst.symm.trans hlookup)
      have hmem : other ∈ (book.expire hash nowMs).leasedDevices hash peerId :=
        (mem_leasedDevices hordered).2 ⟨found, hbefore, hclient⟩
      rcases hreleased other hmem found hafter with hfresh | ⟨-, hmark⟩
      · exact absurd hfresh (not_fresh hgiven)
      · exact hmark

/-- **A lease that its client gives up has ended**, in memory and on the disk, when this is answered. -/
theorem over_of_answer (h : runtime.leases.Ordered) {operation : LeaseRequest}
    (hends : EndsLease runtime.leases peerId id operation) {answer : Response}
    (hanswer : (handle config env (.request peerId (.lease operation)) runtime).2 = some answer)
    (haccepted : answer.accepted = true) :
    (handle config env (.request peerId (.lease operation)) runtime).1.leases.Over 0 id ∧
      (handle config env (.request peerId (.lease operation)) runtime).1.storedLeases.Over 0 id := by
  rcases handle_request_answer hanswer with ⟨error, rfl⟩ | ⟨hsection, hsame⟩
  · cases haccepted
  · rw [hsame]
    change (leaseRequest config env peerId operation runtime).2 = some answer at hsection
    change (leaseRequest config env peerId operation runtime).1.leases.Over 0 id ∧
      (leaseRequest config env peerId operation runtime).1.storedLeases.Over 0 id
    unfold leaseRequest at hsection ⊢
    split at hsection
    · cases hsection
    · rename_i response devicePeers leases hlease
      have hbook := lease_eq_some hlease
      have hexpired := (LeaseBook.expire_spec h env.orders.active env.nowMs).ordered
      have hover : response.accepted = true → leases.Over 0 id := by
        intro hyes
        have hrelease : ∀ status,
            (runtime.leases.expire env.orders.active env.nowMs).apply config.agentPeers
              runtime.state.devicePeers env.orders.active peerId operation env.nowMs
              = (runtime.leases.expire env.orders.active env.nowMs).release env.orders.active peerId id
                status env.nowMs → leases.Over 0 id := by
          intro status happly
          cases howned : (runtime.leases.expire env.orders.active env.nowMs).ownedLease
              env.orders.active peerId id with
          | none =>
            unfold lease at hlease
            dsimp only at hlease
            rw [happly, LeaseBook.release, howned] at hlease
            cases hlease
            cases hyes
          | some entry =>
            rw [hbook, happly]
            exact LeaseBook.over_release hexpired howned status env.nowMs
        rcases hends with rfl | rfl | ⟨rfl, deviceId, lease, hlookup, rfl, hclient⟩
        · exact hrelease "released" rfl
        · exact hrelease "revoked" rfl
        · rw [hbook]
          exact LeaseBook.over_disconnect h hlookup hclient
      dsimp only at hsection ⊢
      split at hsection
      · cases hsection
        cases haccepted
      · rename_i hwritten
        rw [if_neg hwritten]
        rw [not_not] at hwritten
        split at hsection
        · rename_i hstores
          cases hsection
          rw [if_pos hstores]
          have hsaved := hover haccepted
          refine ⟨?_, ?_⟩
          · rw [leases_storeState, leases_storeLeases]
            exact hsaved
          · rw [storedLeases_storeState]
            unfold Runtime.storeLeases
            rw [if_pos (by rw [hwritten]; rfl)]
            exact hsaved
        · cases hsection
          cases haccepted

end

/-! ### Runs after the end of a lease -/

section

variable [Sha256]

/-- **A lease has ended**: its time is over, and neither the clock nor the disk takes the registry back
behind that, or its client has given it up, and this has been answered with success. -/
inductive HasEnded (config : Config) (earlier later : List Input) (id : String) : Prop
  | expired {timeMs : ℕ} {deviceId : String} {lease : DeviceLease}
      (hlease : (Runtime.empty.runInputs config earlier).leases.active.lookup deviceId = some lease)
      (hid : lease.id = id) (hover : lease.expiresAtMs ≤ timeMs)
      (hfrom : AllSteps (Runtime.next config) (From timeMs id) later
        (Runtime.empty.runInputs config earlier))
  | answered {before : List Input} {env : Env} {peerId : String} {operation : LeaseRequest}
      {answer : Response}
      (hearlier : earlier = before ++ [.event env (.request peerId (.lease operation))])
      (hends : EndsLease (Runtime.empty.runInputs config before).leases peerId id operation)
      (hanswer : (handle config env (.request peerId (.lease operation))
        (Runtime.empty.runInputs config before)).2 = some answer)
      (haccepted : answer.accepted = true)

variable {config : Config} {runtime : Runtime} {timeMs : ℕ} {id : String}

theorem nothingNew_next (hover : runtime.leases.Over timeMs id) {input : Input}
    (hclear : Clear id runtime input) : NothingNew config id runtime input := by
  cases input with
  | event => exact quiet_handle hover hclear
  | start => trivial

/-- **A lease that has ended authorises nothing new**, in every run whose steps are clear. -/
theorem nothingNew_of_run (config : Config) (earlier later : List Input) (id : String)
    (hended : HasEnded config earlier later id)
    (hclear : AllSteps (Runtime.next config) (Clear id) later
      (Runtime.empty.runInputs config earlier)) :
    AllSteps (Runtime.next config) (NothingNew config id) later
      (Runtime.empty.runInputs config earlier) := by
  cases hended with
  | @expired timeMs deviceId lease hlease hid hexpired hfrom =>
    have hordered := ordered_runInputs config earlier
    have hover : (Runtime.empty.runInputs config earlier).leases.Over timeMs id := by
      obtain ⟨n, hn, hnumber⟩ := hordered.numbered deviceId lease hlease
      refine ⟨⟨n, hn, hid.symm.trans hnumber⟩, fun other found hfound hsame => .inl ?_⟩
      obtain rfl := hordered.distinct other deviceId found lease hfound hlease (hsame.trans hid.symm)
      obtain rfl := Option.some.inj (hfound.symm.trans hlease)
      exact hexpired
    have hstep : ∀ (runtime : Runtime) (input : Input), runtime.leases.Over timeMs id →
        From timeMs id runtime input ∧ Clear id runtime input →
          (runtime.next config input).leases.Over timeMs id ∧ NothingNew config id runtime input :=
      fun _ _ h hinput => ⟨over_next h hinput.1, nothingNew_next h hinput.2⟩
    exact (hfrom.and hclear).imp hstep hover
  | @answered before env peerId operation answer hearlier hends hanswer haccepted =>
    subst hearlier
    have hover : (Runtime.empty.runInputs config
          (before ++ [.event env (.request peerId (.lease operation))])).leases.Over 0 id ∧
        (Runtime.empty.runInputs config
          (before ++ [.event env (.request peerId (.lease operation))])).storedLeases.Over 0 id := by
      rw [Runtime.runInputs, List.foldl_append]
      exact over_of_answer (ordered_runInputs config before) hends hanswer haccepted
    have hstep : ∀ (runtime : Runtime) (input : Input),
        (runtime.leases.Over 0 id ∧ runtime.storedLeases.Over 0 id) → Clear id runtime input →
          ((runtime.next config input).leases.Over 0 id ∧
            (runtime.next config input).storedLeases.Over 0 id) ∧
            NothingNew config id runtime input :=
      fun _ input h hinput => ⟨over_stored_next h.1 h.2 input, nothingNew_next h.1 hinput⟩
    exact hclear.imp hstep hover

end

/-! ### A lease that comes back -/

theorem leaseRequest_eq {config : Config} {env : Env} {peerId : String} {operation : LeaseRequest}
    {runtime : Runtime} {answer : Response} {devicePeers : Map String String} {leases : LeaseBook}
    (h : lease config.sign config.agentPeers env.orders.active operation peerId
      runtime.state.devicePeers runtime.leases env.nowMs = some (answer, devicePeers, leases))
    (hwritten : env.leasesWrite = .stored) (hrecovery : runtime.state.recoveryError = none)
    (hstate : env.stateWrite = .stored) :
    leaseRequest config env peerId operation runtime
      = (Runtime.storeState (Runtime.storeLeases
          { runtime with
            state := { runtime.state with devicePeers }
            leases } env) env, some answer) := by
  have hstores : (Runtime.storeLeases
      { runtime with
        state := { runtime.state with devicePeers }
        leases } env).storesState env := by
    refine ⟨?_, hstate⟩
    rw [state_storeLeases]
    exact hrecovery
  simp only [leaseRequest, h, hwritten, ne_eq, not_true_eq_false, if_false, hstores, if_true]

section

variable [Sha256]

def sampleMarked : Runtime :=
  { sampleDispatched with
    leases := { sampleDispatched.leases with pendingRelease := insert "phone" ∅ }
    storedLeases := { sampleDispatched.leases with pendingRelease := insert "phone" ∅ } }

theorem ownedLease_sampleDispatched :
    sampleDispatched.leases.ownedLease sameOrder "client" (leaseIdOf 1) = some ("phone", sampleLease) := by
  have hentries : sampleDispatched.leases.active.entriesIn sameOrder = [("phone", sampleLease)] := rfl
  rw [LeaseBook.ownedLease, hentries, List.find?_cons_of_pos]
  rw [Bool.and_eq_true, decide_eq_true_eq, decide_eq_true_eq]
  exact ⟨rfl, rfl⟩

def sampleRelease : Event := .request "client" (.lease (.release (leaseIdOf 1)))

theorem handle_sampleRelease :
    handle sampleConfig sampleEnv sampleRelease sampleDispatched
      = (sampleMarked, some (LeaseBook.leaseStatus "released")) := by
  have hexpire : sampleDispatched.leases.expire sameOrder 0 = sampleDispatched.leases := rfl
  have hreleased : sampleDispatched.leases.release sameOrder "client" (leaseIdOf 1) "released" 0
      = (.answered (LeaseBook.leaseStatus "released"), sampleMarked.leases) := by
    rw [LeaseBook.release, ownedLease_sampleDispatched]
    rfl
  have hlease : lease sampleConfig.sign sampleConfig.agentPeers sameOrder (.release (leaseIdOf 1))
      "client" sampleDispatched.state.devicePeers sampleDispatched.leases 0
      = some (LeaseBook.leaseStatus "released", sampleDispatched.state.devicePeers,
          sampleMarked.leases) := by
    unfold lease
    dsimp only
    rw [hexpire, LeaseBook.apply, hreleased]
    rfl
  have hrequest : request sampleConfig sampleEnv "client" sampleDispatched
      (.lease (.release (leaseIdOf 1))) = (sampleMarked, some (LeaseBook.leaseStatus "released")) := by
    change leaseRequest sampleConfig sampleEnv "client" (.release (leaseIdOf 1)) sampleDispatched = _
    rw [leaseRequest_eq hlease rfl rfl rfl]
    rfl
  rw [handle, sampleRelease, perform_request rfl rfl, hrequest, if_pos]
  exact Nat.le_of_ble_eq_true rfl

def sampleEarlier : List Input :=
  (sampleAppleSteps.map fun input => .event input.1 input.2) ++ [.event sampleEnv sampleRelease]

theorem runInputs_sampleEarlier : Runtime.empty.runInputs sampleConfig sampleEarlier = sampleMarked := by
  have happle := Runtime.runInputs_events sampleConfig sampleAppleSteps Runtime.empty
  rw [foldl_sampleAppleSteps] at happle
  rw [sampleEarlier, Runtime.runInputs, List.foldl_append]
  change (Runtime.empty.runInputs sampleConfig _).next sampleConfig (.event sampleEnv sampleRelease) = _
  rw [happle]
  exact congrArg Prod.fst handle_sampleRelease

theorem hasEnded_sampleEarlier (later : List Input) :
    HasEnded sampleConfig sampleEarlier later (leaseIdOf 1) := by
  have happle := Runtime.runInputs_events sampleConfig sampleAppleSteps Runtime.empty
  rw [foldl_sampleAppleSteps] at happle
  have hanswer : (handle sampleConfig sampleEnv sampleRelease (Runtime.empty.runInputs sampleConfig
      (sampleAppleSteps.map fun input => .event input.1 input.2))).2
      = some (LeaseBook.leaseStatus "released") := by
    rw [happle]
    exact congrArg Prod.snd handle_sampleRelease
  exact .answered rfl (.inl rfl) hanswer rfl

omit [Sha256] in
/-- The agent of the sample job goes on to report after the lease has ended. -/
theorem nothingNew_sample : letI := sampleHash
    AllSteps (Runtime.next sampleConfig) (NothingNew sampleConfig (leaseIdOf 1))
      [.event sampleEnv (.request "agent" (.appleProgress sampleAppleId [] false))]
      (Runtime.empty.runInputs sampleConfig sampleEarlier) := by
  let _ := sampleHash
  refine nothingNew_of_run sampleConfig _ _ _ (hasEnded_sampleEarlier _) ?_
  rw [runInputs_sampleEarlier]
  refine ⟨⟨?_, ?_, ?_, ?_, ?_, ?_⟩, trivial⟩
  · intro peerId operation deviceId hevent
    cases hevent
  · intro hostId jobId operation deviceId clientId hevent
    cases hevent
  · intro peerId lifetimeMs deviceId hevent
    cases hevent
  · intro peerId lifetimeMs deviceId hevent
    cases hevent
  · -- the job is the writer of the device already
    rintro peerId jobId events deviceId clientId hevent ⟨operation, hpending, hneeds⟩ - hfree
    cases hevent
    have hlookup : sampleMarked.state.applePending.lookup sampleAppleId = some sampleOperation :=
      Map.lookup_insert_self _ _ _
    obtain rfl := Option.some.inj (hlookup.symm.trans hpending)
    obtain ⟨-, hdevice, -⟩ := leaseNeeded_eq_some.1 hneeds
    obtain rfl := Option.some.inj hdevice
    have hwriter : sampleMarked.leases.writers.lookup "phone" = some ⟨sampleAppleId⟩ :=
      Map.lookup_insert_self _ _ _
    rw [hwriter] at hfree
    cases hfree
  · intro peerId jobId events deviceId hevent
    cases hevent

def sampleRenew : Event := .request "client" (.lease (.renew (leaseIdOf 1) 1000))

theorem handle_sampleRenew :
    (handle sampleConfig sampleEnv sampleRenew sampleMarked).2
      = some { response with
          leaseGrant := some (grantOf sampleConfig.sign sampleLease "" 0)
          leaseStatus := some "renewed" } := by
  have hexpire : sampleMarked.leases.expire sameOrder 0 = sampleMarked.leases := rfl
  have howned : sampleMarked.leases.ownedLease sameOrder "client" (leaseIdOf 1)
      = some ("phone", sampleLease) := ownedLease_sampleDispatched
  generalize hrenewed : ({ sampleMarked.leases with
    active := sampleMarked.leases.active.insert "phone" sampleLease } : LeaseBook) = renewed
  have happlied : (sampleMarked.leases.expire sameOrder 0).apply sampleConfig.agentPeers
      sampleMarked.state.devicePeers sameOrder "client" (.renew (leaseIdOf 1) 1000) 0
      = (.granted (leaseIdOf 1) "renewed", renewed) := by
    rw [hexpire, LeaseBook.apply, LeaseBook.renew, howned, ← hrenewed]
    rfl
  have hentries : renewed.active.entriesIn sameOrder = [("phone", sampleLease)] := by
    rw [← hrenewed]
    rfl
  have hfound : (renewed.active.entriesIn sameOrder).find?
      (fun entry => entry.2.id = leaseIdOf 1) = some ("phone", sampleLease) := by
    rw [hentries]
    exact List.find?_cons_of_pos (decide_eq_true rfl)
  have hlease : lease sampleConfig.sign sampleConfig.agentPeers sameOrder (.renew (leaseIdOf 1) 1000)
      "client" sampleMarked.state.devicePeers sampleMarked.leases 0 = _ :=
    lease_eq_granted happlied rfl hfound
  have hnext : renewed.nextId ≤ Dashboard.u64Max := by
    rw [← hrenewed]
    exact Nat.le_of_ble_eq_true rfl
  have hrequest : leaseRequest sampleConfig sampleEnv "client" (.renew (leaseIdOf 1) 1000) sampleMarked
      = _ := leaseRequest_eq hlease rfl rfl rfl
  have hleases : (request sampleConfig sampleEnv "client" sampleMarked
      (.lease (.renew (leaseIdOf 1) 1000))).1.leases = renewed := by
    refine (congrArg (fun result => result.1.leases) hrequest).trans ?_
    rw [leases_storeState, leases_storeLeases]
  rw [handle, sampleRenew, perform_request rfl rfl, if_pos (hleases ▸ hnext)]
  exact congrArg Prod.snd hrequest

/-- A lease that has ended authorises nothing new in any run. -/
def AlwaysNothingNew : Prop :=
  ∀ (config : Config) (earlier later : List Input) (id : String), HasEnded config earlier later id →
    AllSteps (Runtime.next config) (NothingNew config id) later
      (Runtime.empty.runInputs config earlier)

end

/-- A client renews a lease that it has given up, whatever the hash function. -/
theorem not_alwaysNothingNew : ¬ ∃ _ : Sha256, AlwaysNothingNew := by
  rintro ⟨hash, h⟩
  have hquiet := (h sampleConfig sampleEarlier [.event sampleEnv sampleRenew] (leaseIdOf 1)
    (hasEnded_sampleEarlier _)).1
  rw [runInputs_sampleEarlier] at hquiet
  have hrenew : Quiet sampleConfig (leaseIdOf 1) sampleEnv sampleRenew sampleMarked := hquiet
  exact hrenew.granted _ _ handle_sampleRenew rfl rfl

end Registry
