/-
**The queue of the lease book.**

Whatever is asked of the lease book, in whatever order, and whenever writers come and go: a device that
clients wait for is leased, nobody waits twice for a device or for a device of their own, and when the
lease of a device ends, the next one goes to the client that has waited for the device for longest. A
waiting client leaves the queue with a lease or by its own wish. No identifier of a lease comes back.

Main definitions:

* `Registry.LeaseBook.holder`, `Registry.LeaseBook.line` — who has a device, and who waits for it.

Main results:

* `Registry.LeaseBook.fifo` — **the book is first come, first served**.
-/

import DeviceLane.Registry.Leases

namespace Registry

open Dashboard (u64Max)
open Effect

theorem repr_injective {m n : ℕ} (h : Nat.repr m = Nat.repr n) : m = n := by
  have hdigits : Nat.toDigits 10 m = Nat.toDigits 10 n := by
    rw [← Nat.toList_repr, ← Nat.toList_repr, h]
  have hvalue := congrArg (fun digits => Nat.ofDigitChars 10 digits 0) hdigits
  simpa using hvalue

theorem leaseIdOf_injective {m n : ℕ} (h : leaseIdOf m = leaseIdOf n) : m = n :=
  repr_injective ((String.append_right_inj "lease-").1 h)

namespace LeaseBook

variable {deviceId clientId id : String} {waiting : List WaitingLease} {book book' book₁ : LeaseBook}

/-! ### Holders and lines -/

def holder (book : LeaseBook) (deviceId : String) : Option (String × String) :=
  (book.active.lookup deviceId).map fun lease => (lease.id, lease.clientId)

/-- The clients of a queue that wait for a device, the one that came first in front. -/
def lineOf (waiting : List WaitingLease) (deviceId : String) : List String :=
  (waiting.filter fun waiting => waiting.deviceId = deviceId).map WaitingLease.clientId

def line (book : LeaseBook) (deviceId : String) : List String := lineOf book.waiting deviceId

theorem lineOf_append (before after : List WaitingLease) (deviceId : String) :
    lineOf (before ++ after) deviceId = lineOf before deviceId ++ lineOf after deviceId := by
  rw [lineOf, List.filter_append, List.map_append]
  rfl

theorem lineOf_cons (waiting : WaitingLease) (rest : List WaitingLease) (deviceId : String) :
    lineOf (waiting :: rest) deviceId =
      if waiting.deviceId = deviceId then waiting.clientId :: lineOf rest deviceId
      else lineOf rest deviceId := by
  rw [lineOf, List.filter_cons]
  split
  · rename_i h
    rw [if_pos (of_decide_eq_true h)]
    rfl
  · rename_i h
    rw [if_neg fun heq => h (decide_eq_true heq)]
    rfl

theorem lineOf_eq_nil : lineOf waiting deviceId = [] ↔ ∀ w ∈ waiting, w.deviceId ≠ deviceId := by
  rw [lineOf, List.map_eq_nil_iff, List.filter_eq_nil_iff]
  simp only [decide_eq_true_eq, ne_eq]

theorem mem_lineOf :
    clientId ∈ lineOf waiting deviceId ↔
      ∃ w ∈ waiting, w.deviceId = deviceId ∧ w.clientId = clientId := by
  rw [lineOf, List.mem_map]
  simp only [List.mem_filter, decide_eq_true_eq, and_assoc]

theorem lineOf_filter (waiting : List WaitingLease) (peerId deviceId : String) :
    lineOf (waiting.filter fun w => w.clientId ≠ peerId) deviceId =
      (lineOf waiting deviceId).filter fun clientId => clientId ≠ peerId := by
  rw [lineOf, lineOf, List.filter_map, List.filter_filter, List.filter_filter]
  refine congrArg _ (List.filter_congr fun w _ => ?_)
  exact Bool.and_comm _ _

/-! ### The invariant -/

/-- Every lease is kept under its device and has a number of its own, devices that clients wait for are
leased, and nobody waits twice for a device or for a device of their own. -/
structure Ordered (book : LeaseBook) : Prop where
  keyed : ∀ deviceId lease, book.active.lookup deviceId = some lease → lease.deviceId = deviceId
  numbered : ∀ deviceId lease, book.active.lookup deviceId = some lease →
    ∃ n, n ≤ book.nextId ∧ lease.id = leaseIdOf n
  distinct : ∀ deviceId deviceId' lease lease', book.active.lookup deviceId = some lease →
    book.active.lookup deviceId' = some lease' → lease.id = lease'.id → deviceId = deviceId'
  leased : ∀ deviceId, book.line deviceId ≠ [] → ∃ lease, book.active.lookup deviceId = some lease
  once : ∀ deviceId, (book.line deviceId).Nodup
  apart : ∀ deviceId lease, book.active.lookup deviceId = some lease →
    lease.clientId ∉ book.line deviceId

theorem ordered_empty : empty.Ordered where
  keyed deviceId lease hlookup := by cases hlookup
  numbered deviceId lease hlookup := by cases hlookup
  distinct deviceId deviceId' lease lease' hlookup := by cases hlookup
  leased deviceId hline := absurd rfl hline
  once deviceId := List.nodup_nil
  apart deviceId lease hlookup := by cases hlookup

theorem Ordered.congr (h : book.Ordered) (hnext : book'.nextId = book.nextId)
    (hactive : book'.active = book.active) (hwaiting : book'.waiting = book.waiting) :
    book'.Ordered := by
  have hline : ∀ deviceId, book'.line deviceId = book.line deviceId := by
    intro deviceId
    rw [line, line, hwaiting]
  constructor
  · rw [hactive]
    exact h.keyed
  · rw [hactive, hnext]
    exact h.numbered
  · rw [hactive]
    exact h.distinct
  · intro deviceId
    rw [hactive, hline]
    exact h.leased deviceId
  · intro deviceId
    rw [hline]
    exact h.once deviceId
  · intro deviceId
    rw [hactive, hline]
    exact h.apart deviceId

theorem Ordered.insert (h : book.Ordered) {active : Map String DeviceLease}
    (hactive : ∀ other, other ≠ deviceId → active.lookup other = book.active.lookup other)
    (hwaiting : ∀ other, other ≠ deviceId → lineOf waiting other = book.line other)
    (honce : (lineOf waiting deviceId).Nodup) (hapart : clientId ∉ lineOf waiting deviceId)
    (lifetimeMs nowMs : ℕ) :
    (LeaseBook.insert { book with active, waiting } deviceId clientId lifetimeMs nowMs).Ordered := by
  -- A lease of another device has been there before.
  have hother : ∀ {other lease}, other ≠ deviceId →
      (LeaseBook.insert { book with active, waiting } deviceId clientId lifetimeMs
        nowMs).active.lookup other = some lease → book.active.lookup other = some lease := by
    intro other lease hne hlookup
    rw [← hactive other hne]
    exact (Map.lookup_insert_ne hne _).symm.trans hlookup
  have hself : ∀ {lease}, (LeaseBook.insert { book with active, waiting } deviceId clientId lifetimeMs
      nowMs).active.lookup deviceId = some lease →
      lease.deviceId = deviceId ∧ lease.id = leaseIdOf (book.nextId + 1) ∧
        lease.clientId = clientId := by
    intro lease hlookup
    have heq := (Map.lookup_insert_self _ _ _).symm.trans hlookup
    cases heq
    exact ⟨rfl, rfl, rfl⟩
  have hold : ∀ {other lease}, book.active.lookup other = some lease →
      lease.id ≠ leaseIdOf (book.nextId + 1) := by
    intro other lease hlookup hid
    obtain ⟨n, hle, hn⟩ := h.numbered other lease hlookup
    have hsame := leaseIdOf_injective (hn.symm.trans hid)
    omega
  constructor
  · intro other lease hlookup
    by_cases hne : other = deviceId
    · subst hne
      exact (hself hlookup).1
    · exact h.keyed other lease (hother hne hlookup)
  · intro other lease hlookup
    change ∃ n, n ≤ book.nextId + 1 ∧ lease.id = leaseIdOf n
    by_cases hne : other = deviceId
    · subst hne
      exact ⟨book.nextId + 1, Nat.le_refl _, (hself hlookup).2.1⟩
    · obtain ⟨n, hle, hn⟩ := h.numbered other lease (hother hne hlookup)
      exact ⟨n, by omega, hn⟩
  · intro other other' lease lease' hlookup hlookup' hid
    by_cases hne : other = deviceId
    · by_cases hne' : other' = deviceId
      · rw [hne, hne']
      · subst hne
        rw [(hself hlookup).2.1] at hid
        exact absurd hid.symm (hold (hother hne' hlookup'))
    · by_cases hne' : other' = deviceId
      · subst hne'
        rw [(hself hlookup').2.1] at hid
        exact absurd hid (hold (hother hne hlookup))
      · exact h.distinct other other' lease lease' (hother hne hlookup) (hother hne' hlookup') hid
  · intro other hline
    by_cases hne : other = deviceId
    · subst hne
      exact ⟨_, Map.lookup_insert_self _ _ _⟩
    · have hbefore : book.line other ≠ [] := hwaiting other hne ▸ hline
      obtain ⟨lease, hlookup⟩ := h.leased other hbefore
      exact ⟨lease, (Map.lookup_insert_ne hne _).trans ((hactive other hne).trans hlookup)⟩
  · intro other
    change (lineOf waiting other).Nodup
    by_cases hne : other = deviceId
    · rw [hne]
      exact honce
    · rw [hwaiting other hne]
      exact h.once other
  · intro other lease hlookup
    change lease.clientId ∉ lineOf waiting other
    by_cases hne : other = deviceId
    · subst hne
      rw [(hself hlookup).2.2]
      exact hapart
    · rw [hwaiting other hne]
      exact h.apart other lease (hother hne hlookup)

theorem Ordered.erase (h : book.Ordered) (hline : book.line deviceId = []) :
    Ordered { book with active := book.active.erase deviceId } := by
  have hbefore : ∀ {other lease}, (book.active.erase deviceId).lookup other = some lease →
      other ≠ deviceId ∧ book.active.lookup other = some lease := by
    intro other lease hlookup
    rw [Map.lookup_erase] at hlookup
    split at hlookup
    · cases hlookup
    · exact ⟨‹_›, hlookup⟩
  constructor
  · intro other lease hlookup
    exact h.keyed other lease (hbefore hlookup).2
  · intro other lease hlookup
    exact h.numbered other lease (hbefore hlookup).2
  · intro other other' lease lease' hlookup hlookup'
    exact h.distinct other other' lease lease' (hbefore hlookup).2 (hbefore hlookup').2
  · intro other hwaits
    obtain ⟨lease, hlookup⟩ := h.leased other hwaits
    have hne : other ≠ deviceId := fun heq => hwaits (heq ▸ hline)
    exact ⟨lease, (Map.lookup_erase _ _ _).trans (by rw [if_neg hne, hlookup])⟩
  · exact h.once
  · intro other lease hlookup
    exact h.apart other lease (hbefore hlookup).2

/-! ### The end of a lease -/

/-- **What the end of a lease does**: nothing more, if nobody waits for the device, and else the first
client in the line gets the next lease. -/
theorem releaseDeviceNow_cases (book : LeaseBook) (deviceId : String) (nowMs : ℕ) :
    (book.line deviceId = [] ∧ book.releaseDeviceNow deviceId nowMs
      = { book with active := book.active.erase deviceId }) ∨
    ∃ first rest lifetimeMs waiting, book.line deviceId = first :: rest ∧
      lineOf waiting deviceId = rest ∧
      (∀ other, other ≠ deviceId → lineOf waiting other = book.line other) ∧
      book.releaseDeviceNow deviceId nowMs =
        insert { book with active := book.active.erase deviceId, waiting } deviceId first lifetimeMs
          nowMs := by
  unfold releaseDeviceNow promote
  cases hfind : book.waiting.find? fun w => w.deviceId = deviceId with
  | none =>
    left
    refine ⟨?_, rfl⟩
    rw [line, lineOf_eq_nil]
    intro w hw
    have hnot := List.find?_eq_none.1 hfind w hw
    exact fun heq => hnot (decide_eq_true heq)
  | some next =>
    right
    obtain ⟨hnext, before, after, hwaiting, hbefore⟩ := List.find?_eq_some_iff_append.1 hfind
    have hdevice : next.deviceId = deviceId := of_decide_eq_true hnext
    have hskip : ∀ w ∈ before, w.deviceId ≠ deviceId := by
      intro w hw heq
      have hnot := hbefore w hw
      rw [decide_eq_true heq] at hnot
      cases hnot
    have herased : (book.waiting.eraseP fun w => w.deviceId = deviceId) = before ++ after := by
      rw [hwaiting, List.eraseP_append_right]
      · exact congrArg _ (List.eraseP_cons_of_pos hnext)
      · exact fun w hw heq => hskip w hw (of_decide_eq_true heq)
    refine ⟨next.clientId, lineOf after deviceId, next.lifetimeMs, before ++ after, ?_, ?_, ?_, ?_⟩
    · rw [line, hwaiting, lineOf_append, lineOf_cons, if_pos hdevice, lineOf_eq_nil.2 hskip]
      rfl
    · rw [lineOf_append, lineOf_eq_nil.2 hskip]
      rfl
    · intro other hne
      rw [line, hwaiting, lineOf_append, lineOf_append, lineOf_cons,
        if_neg fun heq => hne (heq.symm.trans hdevice)]
    · simp only [herased, hdevice]

/-- The identifier of a lease that is given out between two books. -/
def Fresh (book book' : LeaseBook) (id : String) : Prop :=
  ∃ n, book.nextId < n ∧ n ≤ book'.nextId ∧ id = leaseIdOf n

inductive Released (book book' : LeaseBook) (deviceId : String) : Prop
  | stays (hholder : book'.holder deviceId = book.holder deviceId)
      (hline : book'.line deviceId = book.line deviceId)
  | passes {old : String × String} {id first : String} {rest : List String}
      (hheld : book.holder deviceId = some old) (hline : book.line deviceId = first :: rest)
      (hfresh : Fresh book book' id) (hholder : book'.holder deviceId = some (id, first))
      (hrest : book'.line deviceId = rest)
  | ends {old : String × String} (hheld : book.holder deviceId = some old)
      (hline : book.line deviceId = []) (hholder : book'.holder deviceId = none)
      (hrest : book'.line deviceId = [])

theorem holder_insert (book : LeaseBook) (deviceId clientId : String) (lifetimeMs nowMs : ℕ)
    (other : String) : (book.insert deviceId clientId lifetimeMs nowMs).holder other =
      if other = deviceId then some (leaseIdOf (book.nextId + 1), clientId)
      else book.holder other := by
  unfold holder
  change ((Map.insert _ _ _).lookup other).map _ = _
  rw [Map.lookup_insert]
  split
  · rfl
  · rfl

structure ReleasesOne (book book' : LeaseBook) (deviceId : String) : Prop where
  ordered : book'.Ordered
  nextId_le : book.nextId ≤ book'.nextId
  others : ∀ other, other ≠ deviceId →
    book'.holder other = book.holder other ∧ book'.line other = book.line other
  released : Released book book' deviceId

theorem releaseDeviceNow_spec (h : book.Ordered) (deviceId : String) (nowMs : ℕ) :
    ReleasesOne book (book.releaseDeviceNow deviceId nowMs) deviceId := by
  rcases releaseDeviceNow_cases book deviceId nowMs with
    ⟨hline, hnow⟩ | ⟨_, _, _, _, hline, hrest, hothers, hnow⟩
  · rw [hnow]
    refine ⟨h.erase hline, Nat.le_refl _, fun other hne => ⟨?_, rfl⟩, ?_⟩
    · unfold holder
      rw [Map.lookup_erase, if_neg hne]
    · have hnone : holder { book with active := book.active.erase deviceId } deviceId = none := by
        unfold holder
        rw [Map.lookup_erase, if_pos rfl]
        rfl
      cases hheld : book.holder deviceId with
      | none => exact .stays (hnone.trans hheld.symm) rfl
      | some => exact .ends hheld hline hnone hline
  · obtain ⟨lease, hlookup⟩ := h.leased deviceId (by rw [hline]; exact List.cons_ne_nil _ _)
    have hheld : book.holder deviceId = some (lease.id, lease.clientId) := by
      rw [holder, hlookup]
      rfl
    have honce := h.once deviceId
    rw [hline, List.nodup_cons] at honce
    rw [hnow]
    refine ⟨?_, Nat.le_succ _, fun other hne => ⟨?_, hothers other hne⟩, ?_⟩
    · refine h.insert (fun other hne => ?_) hothers (hrest ▸ honce.2) (hrest ▸ honce.1) _ _
      rw [Map.lookup_erase, if_neg hne]
    · rw [holder_insert, if_neg hne]
      unfold holder
      rw [Map.lookup_erase, if_neg hne]
    · refine .passes hheld hline ⟨book.nextId + 1, Nat.lt_succ_self _, Nat.le_refl _, rfl⟩ ?_ hrest
      rw [holder_insert, if_pos rfl]

theorem releaseDevice_spec (h : book.Ordered) (deviceId : String) (nowMs : ℕ) :
    ReleasesOne book (book.releaseDevice deviceId nowMs) deviceId := by
  unfold releaseDevice
  split
  · exact ⟨h.congr rfl rfl rfl, Nat.le_refl _, fun _ _ => ⟨rfl, rfl⟩, .stays rfl rfl⟩
  · exact releaseDeviceNow_spec h deviceId nowMs

structure Releases (book book' : LeaseBook) : Prop where
  ordered : book'.Ordered
  nextId_le : book.nextId ≤ book'.nextId
  released : ∀ deviceId, Released book book' deviceId

theorem Fresh.mono (h : Fresh book₁ book' id) (hle : book.nextId ≤ book₁.nextId) :
    Fresh book book' id := by
  obtain ⟨n, _, hn, rfl⟩ := h
  exact ⟨n, by omega, hn, rfl⟩

theorem Fresh.later (h : Fresh book book₁ id) (hle : book₁.nextId ≤ book'.nextId) :
    Fresh book book' id := by
  obtain ⟨n, hlt, _, rfl⟩ := h
  exact ⟨n, hlt, by omega, rfl⟩

theorem Released.of_same (h : Released book₁ book' deviceId)
    (hholder : book₁.holder deviceId = book.holder deviceId)
    (hline : book₁.line deviceId = book.line deviceId) (hle : book.nextId ≤ book₁.nextId) :
    Released book book' deviceId := by
  cases h with
  | stays hholder' hline' => exact .stays (hholder'.trans hholder) (hline'.trans hline)
  | passes hheld hfront hfresh hholder' hrest =>
    exact .passes (hholder.symm.trans hheld) (hline.symm.trans hfront) (hfresh.mono hle) hholder' hrest
  | ends hheld hempty hholder' hrest =>
    exact .ends (hholder.symm.trans hheld) (hline.symm.trans hempty) hholder' hrest

theorem Released.then_same (h : Released book book₁ deviceId)
    (hholder : book'.holder deviceId = book₁.holder deviceId)
    (hline : book'.line deviceId = book₁.line deviceId) (hle : book₁.nextId ≤ book'.nextId) :
    Released book book' deviceId := by
  cases h with
  | stays hholder' hline' => exact .stays (hholder.trans hholder') (hline.trans hline')
  | passes hheld hfront hfresh hholder' hrest =>
    exact .passes hheld hfront (hfresh.later hle) (hholder.trans hholder') (hline.trans hrest)
  | ends hheld hempty hholder' hrest =>
    exact .ends hheld hempty (hholder.trans hholder') (hline.trans hrest)

/-- **Leases that end pass to those who wait.** -/
theorem releaseDevices_spec (h : book.Ordered) {deviceIds : List String} (hnodup : deviceIds.Nodup)
    (nowMs : ℕ) :
    Releases book (book.releaseDevices deviceIds nowMs) ∧
      ∀ other, other ∉ deviceIds →
        (book.releaseDevices deviceIds nowMs).holder other = book.holder other ∧
          (book.releaseDevices deviceIds nowMs).line other = book.line other := by
  induction deviceIds generalizing book with
  | nil => exact ⟨⟨h, Nat.le_refl _, fun _ => .stays rfl rfl⟩, fun _ _ => ⟨rfl, rfl⟩⟩
  | cons deviceId deviceIds ih =>
    rw [List.nodup_cons] at hnodup
    have hone := releaseDevice_spec h deviceId nowMs
    obtain ⟨hrest, hothers⟩ := ih hone.ordered hnodup.2
    change Releases book (LeaseBook.releaseDevices (book.releaseDevice deviceId nowMs) deviceIds nowMs) ∧
      ∀ other, other ∉ deviceId :: deviceIds → _ = _ ∧ _ = _
    refine ⟨⟨hrest.ordered, Nat.le_trans hone.nextId_le hrest.nextId_le, fun other => ?_⟩, ?_⟩
    · by_cases hne : other = deviceId
      · subst hne
        obtain ⟨hholder, hline⟩ := hothers other hnodup.1
        exact hone.released.then_same hholder hline hrest.nextId_le
      · obtain ⟨hholder, hline⟩ := hone.others other hne
        exact (hrest.released other).of_same hholder hline hone.nextId_le
    · intro other hother
      rw [List.mem_cons, not_or] at hother
      obtain ⟨hholder, hline⟩ := hone.others other hother.1
      obtain ⟨hholder', hline'⟩ := hothers other hother.2
      exact ⟨hholder'.trans hholder, hline'.trans hline⟩

/-! ### Calls -/

theorem nodup_expired (book : LeaseBook) (hash : KeyOrder String) (nowMs : ℕ) :
    (book.expired hash nowMs).Nodup :=
  (List.filter_sublist.map Prod.fst).nodup (Map.nodup_entriesIn hash book.active)

theorem expire_spec (h : book.Ordered) (hash : KeyOrder String) (nowMs : ℕ) :
    Releases book (book.expire hash nowMs) :=
  (releaseDevices_spec h (nodup_expired book hash nowMs) nowMs).1

theorem ownedLease_eq_some {hash : KeyOrder String} {peerId leaseId key : String} {lease : DeviceLease}
    (h : book.ownedLease hash peerId leaseId = some (key, lease)) :
    book.active.lookup key = some lease ∧ lease.id = leaseId ∧ lease.clientId = peerId := by
  have hmem := List.mem_of_find?_eq_some h
  have hfound := List.find?_some h
  rw [Bool.and_eq_true, decide_eq_true_eq, decide_eq_true_eq] at hfound
  exact ⟨Map.mem_entriesIn.1 hmem, hfound.1, hfound.2⟩

theorem nodup_leasedDevices (h : book.Ordered) (hash : KeyOrder String) (peerId : String) :
    (book.leasedDevices hash peerId).Nodup := by
  have hsame : book.leasedDevices hash peerId
      = ((book.active.entriesIn hash).filter fun entry => entry.2.clientId = peerId).map Prod.fst := by
    rw [leasedDevices]
    refine List.map_congr_left fun entry hentry => ?_
    exact h.keyed entry.1 entry.2 (Map.mem_entriesIn.1 (List.mem_filter.1 hentry).1)
  rw [hsame]
  exact (List.filter_sublist.map Prod.fst).nodup (Map.nodup_entriesIn hash book.active)

theorem mem_leasedDevices (h : book.Ordered) {hash : KeyOrder String} {peerId : String} :
    deviceId ∈ book.leasedDevices hash peerId ↔
      ∃ lease, book.active.lookup deviceId = some lease ∧ lease.clientId = peerId := by
  rw [leasedDevices, List.mem_map]
  constructor
  · rintro ⟨⟨key, lease⟩, hmem, rfl⟩
    rw [List.mem_filter, decide_eq_true_eq] at hmem
    have hlookup := Map.mem_entriesIn.1 hmem.1
    have hkey := h.keyed key lease hlookup
    change ∃ lease', book.active.lookup lease.deviceId = some lease' ∧ _
    rw [hkey]
    exact ⟨lease, hlookup, hmem.2⟩
  · rintro ⟨lease, hlookup, hclient⟩
    refine ⟨(deviceId, lease), ?_, h.keyed deviceId lease hlookup⟩
    rw [List.mem_filter, decide_eq_true_eq]
    exact ⟨Map.mem_entriesIn.2 hlookup, hclient⟩

/-- Everything that changes the lease book: expiry, the requests of clients and agents, the inventories of
agents, and writers that come and go. -/
inductive LeaseCall
  | expire
  | request (agentPeers : Finset String) (devicePeers : Map String String) (peerId : String)
      (operation : LeaseRequest)
  | connectInventory (deviceId : String)
  | detachInventory (deviceId : String)
  | startWriter (deviceId jobId : String)
  | finishWriter (deviceId : String)
  | dropWriters (jobId : String)

def exec (book : LeaseBook) (hash : KeyOrder String) (nowMs : ℕ) : LeaseCall → LeaseBook
  | .expire => book.expire hash nowMs
  | .request agentPeers devicePeers peerId operation =>
    (book.apply agentPeers devicePeers hash peerId operation nowMs).2
  | .connectInventory deviceId =>
    { book with pendingDetach := book.pendingDetach.erase deviceId }
  | .detachInventory deviceId => book.detachInventory deviceId nowMs
  | .startWriter deviceId jobId => { book with writers := book.writers.insert deviceId ⟨jobId⟩ }
  | .finishWriter deviceId => book.finishWriter deviceId nowMs
  | .dropWriters jobId =>
    { book with writers := book.writers.retain fun _ writer => writer.jobId ≠ jobId }

/-- A call, with the order of the hash maps and the time at which it is made. -/
structure LeaseInput where
  call : LeaseCall
  hash : KeyOrder String
  nowMs : ℕ

/-- The book after a call; without a number for a new lease the call panics, and nothing more comes. -/
def next (book : LeaseBook) (input : LeaseInput) : LeaseBook :=
  if (book.exec input.hash input.nowMs input.call).nextId ≤ u64Max then
    book.exec input.hash input.nowMs input.call
  else
    book

def runCalls (inputs : List LeaseInput) (book : LeaseBook) : LeaseBook := inputs.foldl next book

/-- **What a call may do to one device.** -/
inductive Turn (call : LeaseCall) (book book' : LeaseBook) (deviceId : String) : Prop
  | released (h : Released book book' deviceId)
  | leases {id clientId : String} (hfree : book.holder deviceId = none)
      (hline : book.line deviceId = []) (hfresh : Fresh book book' id)
      (hholder : book'.holder deviceId = some (id, clientId)) (hrest : book'.line deviceId = [])
  | joins {agentPeers : Finset String} {devicePeers : Map String String} {peerId : String}
      {lifetimeMs : ℕ} {held : String × String}
      (hcall : call = .request agentPeers devicePeers peerId (.queue deviceId lifetimeMs))
      (hheld : book.holder deviceId = some held) (hother : held.2 ≠ peerId)
      (hnew : peerId ∉ book.line deviceId) (hholder : book'.holder deviceId = book.holder deviceId)
      (hline : book'.line deviceId = book.line deviceId ++ [peerId])
  | leaves {agentPeers : Finset String} {devicePeers : Map String String} {peerId : String}
      (hcall : call = .request agentPeers devicePeers peerId .disconnect)
      (hholder : book'.holder deviceId = book.holder deviceId)
      (hline : book'.line deviceId = (book.line deviceId).filter fun clientId => clientId ≠ peerId)

/-- The book after a call, and the turns that the devices have taken. -/
structure TakesTurns (call : LeaseCall) (book book' : LeaseBook) : Prop where
  ordered : book'.Ordered
  nextId_le : book.nextId ≤ book'.nextId
  turn : ∀ deviceId, Turn call book book' deviceId

theorem Releases.takesTurns (h : Releases book book') (call : LeaseCall) :
    TakesTurns call book book' :=
  ⟨h.ordered, h.nextId_le, fun deviceId => .released (h.released deviceId)⟩

theorem ReleasesOne.takesTurns (h : ReleasesOne book book' deviceId) (call : LeaseCall) :
    TakesTurns call book book' := by
  refine ⟨h.ordered, h.nextId_le, fun other => .released ?_⟩
  by_cases hne : other = deviceId
  · exact hne ▸ h.released
  · exact .stays (h.others other hne).1 (h.others other hne).2

variable {call : LeaseCall}

theorem takesTurns_of_same (h : book.Ordered) (hnext : book'.nextId = book.nextId)
    (hactive : book'.active = book.active) (hwaiting : book'.waiting = book.waiting) :
    TakesTurns call book book' := by
  refine ⟨h.congr hnext hactive hwaiting, Nat.le_of_eq hnext.symm, fun deviceId => ?_⟩
  refine .released (.stays ?_ ?_)
  · rw [holder, holder, hactive]
  · rw [line, line, hwaiting]

theorem insert_takesTurns (h : book.Ordered) (hfree : book.active.lookup deviceId = none)
    (clientId : String) (lifetimeMs nowMs : ℕ) :
    TakesTurns call book (book.insert deviceId clientId lifetimeMs nowMs) := by
  have hline : book.line deviceId = [] := by
    by_contra hwaits
    obtain ⟨_, hlookup⟩ := h.leased deviceId hwaits
    rw [hfree] at hlookup
    cases hlookup
  refine ⟨?_, Nat.le_succ _, fun other => ?_⟩
  · refine h.insert (fun _ _ => rfl) (fun _ _ => rfl) (h.once deviceId) ?_ _ _
    change clientId ∉ book.line deviceId
    rw [hline]
    exact List.not_mem_nil
  · by_cases hne : other = deviceId
    · subst hne
      have hbefore : book.holder other = none := by
        rw [holder, hfree]
        rfl
      have hafter : (book.insert other clientId lifetimeMs nowMs).holder other
          = some (leaseIdOf (book.nextId + 1), clientId) := by
        rw [holder_insert, if_pos rfl]
      have hfresh : Fresh book (book.insert other clientId lifetimeMs nowMs)
          (leaseIdOf (book.nextId + 1)) :=
        ⟨book.nextId + 1, Nat.lt_succ_self _, Nat.le_refl _, rfl⟩
      exact .leases hbefore hline hfresh hafter hline
    · refine .released (.stays ?_ rfl)
      rw [holder_insert, if_neg hne]

theorem queue_takesTurns (h : book.Ordered) (agentPeers : Finset String)
    (devicePeers : Map String String) (peerId deviceId : String) (lifetimeMs nowMs : ℕ) :
    TakesTurns (.request agentPeers devicePeers peerId (.queue deviceId lifetimeMs)) book
      (book.queue peerId deviceId lifetimeMs nowMs).2 := by
  unfold queue
  cases hactive : book.active.lookup deviceId with
  | none => exact insert_takesTurns h hactive peerId lifetimeMs nowMs
  | some active =>
    dsimp only
    split
    · exact takesTurns_of_same h rfl rfl rfl
    · rename_i hother
      split
      · exact takesTurns_of_same h rfl rfl rfl
      · rename_i hwaits
        have hnew : peerId ∉ book.line deviceId := by
          intro hmem
          obtain ⟨w, hw, hdevice, hclient⟩ := mem_lineOf.1 hmem
          refine hwaits (List.any_eq_true.2 ⟨w, hw, ?_⟩)
          rw [hdevice, hclient, decide_eq_true rfl, decide_eq_true rfl]
          rfl
        have hlast : ∀ other, lineOf (book.waiting ++ [⟨deviceId, peerId, lifetimeMs⟩]) other =
            if other = deviceId then book.line other ++ [peerId] else book.line other := by
          intro other
          rw [lineOf_append, lineOf_cons]
          by_cases hne : other = deviceId
          · rw [if_pos hne, if_pos hne.symm]
            rfl
          · rw [if_neg hne, if_neg fun heq => hne heq.symm]
            exact List.append_nil _
        have hheld : book.holder deviceId = some (active.id, active.clientId) := by
          rw [holder, hactive]
          rfl
        refine ⟨⟨h.keyed, h.numbered, h.distinct, fun other hline => ?_, fun other => ?_,
          fun other lease hlookup => ?_⟩, Nat.le_refl _, fun other => ?_⟩
        · change lineOf _ other ≠ [] at hline
          rw [hlast] at hline
          split at hline
          · rename_i hne
            exact ⟨active, hne ▸ hactive⟩
          · exact h.leased other hline
        · change (lineOf _ other).Nodup
          rw [hlast]
          split
          · rename_i hne
            rw [List.nodup_append]
            refine ⟨h.once other, List.nodup_singleton _, ?_⟩
            rintro clientId hmem _ hlast' rfl
            rw [List.mem_singleton.1 hlast', hne] at hmem
            exact hnew hmem
          · exact h.once other
        · change lease.clientId ∉ lineOf _ other
          rw [hlast]
          split
          · rename_i hne
            rw [List.mem_append, List.mem_singleton, not_or]
            refine ⟨h.apart other lease hlookup, ?_⟩
            have hsame : lease = active := Option.some.inj (hlookup.symm.trans (hne ▸ hactive))
            rw [hsame]
            exact hother
          · exact h.apart other lease hlookup
        · by_cases hne : other = deviceId
          · subst hne
            refine .joins rfl hheld hother hnew rfl ?_
            exact (hlast other).trans (if_pos rfl)
          · refine .released (.stays rfl ?_)
            exact (hlast other).trans (if_neg hne)

theorem renew_takesTurns (h : book.Ordered) (hash : KeyOrder String) (peerId leaseId : String)
    (lifetimeMs nowMs : ℕ) :
    TakesTurns call book (book.renew hash peerId leaseId lifetimeMs nowMs).2 := by
  unfold renew
  cases howned : book.ownedLease hash peerId leaseId with
  | none => exact takesTurns_of_same h rfl rfl rfl
  | some entry =>
    obtain ⟨hlookup, -, -⟩ := ownedLease_eq_some howned
    dsimp only
    -- The lease keeps its identifier and its client.
    have hbefore : ∀ {other lease}, (book.active.insert entry.1
        { entry.2 with expiresAtMs := Dashboard.saturatingAdd nowMs lifetimeMs }).lookup other
          = some lease →
        ∃ before, book.active.lookup other = some before ∧ before.deviceId = lease.deviceId ∧
          before.id = lease.id ∧ before.clientId = lease.clientId := by
      intro other lease hafter
      rw [Map.lookup_insert] at hafter
      split at hafter
      · rename_i hkey
        cases hafter
        exact ⟨entry.2, hkey ▸ hlookup, rfl, rfl, rfl⟩
      · exact ⟨lease, hafter, rfl, rfl, rfl⟩
    refine ⟨⟨fun other lease hafter => ?_, fun other lease hafter => ?_,
      fun other other' lease lease' hafter hafter' hid => ?_, fun other hline => ?_, h.once,
      fun other lease hafter => ?_⟩, Nat.le_refl _, fun other => .released (.stays ?_ rfl)⟩
    · obtain ⟨before, hother, hdevice, -, -⟩ := hbefore hafter
      exact hdevice ▸ h.keyed other before hother
    · obtain ⟨before, hother, -, hsame, -⟩ := hbefore hafter
      exact hsame ▸ h.numbered other before hother
    · obtain ⟨before, hother, -, hsame, -⟩ := hbefore hafter
      obtain ⟨before', hother', -, hsame', -⟩ := hbefore hafter'
      exact h.distinct other other' before before' hother hother'
        (hsame.trans (hid.trans hsame'.symm))
    · obtain ⟨lease, hother⟩ := h.leased other hline
      by_cases hkey : other = entry.1
      · exact ⟨_, by rw [Map.lookup_insert, if_pos hkey]⟩
      · exact ⟨lease, by rw [Map.lookup_insert, if_neg hkey, hother]⟩
    · obtain ⟨before, hother, -, -, hclient⟩ := hbefore hafter
      exact hclient ▸ h.apart other before hother
    · unfold holder
      rw [Map.lookup_insert]
      split
      · rename_i hkey
        rw [hkey, hlookup]
        rfl
      · rfl

theorem disconnect_takesTurns (h : book.Ordered) (agentPeers : Finset String)
    (devicePeers : Map String String) (hash : KeyOrder String) (peerId : String) (nowMs : ℕ) :
    TakesTurns (.request agentPeers devicePeers peerId .disconnect) book
      (book.disconnect hash peerId nowMs).2 := by
  generalize hleft : ({ book with
    waiting := book.waiting.filter fun waiting => waiting.clientId ≠ peerId } : LeaseBook) = left
  have hline : ∀ deviceId, left.line deviceId
      = (book.line deviceId).filter fun clientId => clientId ≠ peerId := by
    intro deviceId
    rw [← hleft]
    exact lineOf_filter _ _ _
  have hordered : left.Ordered := by
    rw [← hleft] at hline ⊢
    refine ⟨h.keyed, h.numbered, h.distinct, fun other hwaits => ?_, fun other => ?_,
      fun other lease hlookup => ?_⟩
    · rw [hline] at hwaits
      refine h.leased other fun hnone => hwaits ?_
      rw [hnone]
      rfl
    · rw [hline]
      exact (h.once other).filter _
    · rw [hline]
      exact fun hmem => h.apart other lease hlookup (List.mem_filter.1 hmem).1
  have hholder : ∀ deviceId, left.holder deviceId = book.holder deviceId := by
    intro deviceId
    rw [← hleft]
    rfl
  have hnext : book.nextId = left.nextId := by rw [← hleft]
  obtain ⟨hreleases, hothers⟩ :=
    releaseDevices_spec hordered (nodup_leasedDevices h hash peerId) nowMs
  have hresult : (book.disconnect hash peerId nowMs).2
      = left.releaseDevices (book.leasedDevices hash peerId) nowMs := by
    rw [← hleft]
    rfl
  rw [hresult]
  refine ⟨hreleases.ordered, hnext ▸ hreleases.nextId_le, fun deviceId => ?_⟩
  by_cases hmem : deviceId ∈ book.leasedDevices hash peerId
  · -- The client holds the device and so does not wait for it.
    obtain ⟨lease, hlookup, hclient⟩ := (mem_leasedDevices h).1 hmem
    have hsame : left.line deviceId = book.line deviceId := by
      rw [hline, List.filter_eq_self]
      intro clientId hwaits
      refine decide_eq_true fun heq => ?_
      exact h.apart deviceId lease hlookup (hclient ▸ heq ▸ hwaits)
    exact .released ((hreleases.released deviceId).of_same (hholder deviceId) hsame (Nat.le_of_eq hnext))
  · obtain ⟨hholder', hline'⟩ := hothers deviceId hmem
    exact .leaves rfl (hholder'.trans (hholder deviceId)) (hline'.trans (hline deviceId))

theorem detachInventory_spec (h : book.Ordered) (deviceId : String) (nowMs : ℕ) :
    ReleasesOne book (book.detachInventory deviceId nowMs) deviceId := by
  unfold detachInventory
  split
  · have hdetached : Ordered { book with pendingDetach := Insert.insert deviceId book.pendingDetach } :=
      h.congr rfl rfl rfl
    have hone := releaseDevice_spec hdetached deviceId nowMs
    exact ⟨hone.ordered, hone.nextId_le, hone.others, hone.released.of_same rfl rfl (Nat.le_refl _)⟩
  · exact releaseDevice_spec h deviceId nowMs

theorem finishWriter_spec (h : book.Ordered) (deviceId : String) (nowMs : ℕ) :
    ReleasesOne book (book.finishWriter deviceId nowMs) deviceId := by
  unfold finishWriter
  dsimp only
  split
  · have hfinished : Ordered { book with
        writers := book.writers.erase deviceId
        pendingRelease := book.pendingRelease.erase deviceId } := h.congr rfl rfl rfl
    have hone := releaseDevice_spec hfinished deviceId nowMs
    have hreleased : Released book (releaseDevice { book with
        writers := book.writers.erase deviceId
        pendingRelease := book.pendingRelease.erase deviceId } deviceId nowMs) deviceId :=
      hone.released.of_same rfl rfl (Nat.le_refl _)
    exact ⟨hone.ordered.congr rfl rfl rfl, hone.nextId_le, hone.others,
      hreleased.then_same rfl rfl (Nat.le_refl _)⟩
  · exact ⟨h.congr rfl rfl rfl, Nat.le_refl _, fun _ _ => ⟨rfl, rfl⟩, .stays rfl rfl⟩

theorem forceReleaseDevice_spec (h : book.Ordered) (deviceId : String) (nowMs : ℕ) :
    ReleasesOne book (book.forceReleaseDevice deviceId nowMs) deviceId := by
  have hforced : Ordered { book with
      writers := book.writers.erase deviceId
      pendingRelease := book.pendingRelease.erase deviceId
      pendingDetach := book.pendingDetach.erase deviceId } := h.congr rfl rfl rfl
  have hone := releaseDeviceNow_spec hforced deviceId nowMs
  exact ⟨hone.ordered, hone.nextId_le, hone.others, hone.released.of_same rfl rfl (Nat.le_refl _)⟩

theorem apply_takesTurns (h : book.Ordered) (agentPeers : Finset String)
    (devicePeers : Map String String) (hash : KeyOrder String) (peerId : String)
    (operation : LeaseRequest) (nowMs : ℕ) :
    TakesTurns (.request agentPeers devicePeers peerId operation) book
      (book.apply agentPeers devicePeers hash peerId operation nowMs).2 := by
  have hsame : ∀ call, TakesTurns call book book := fun call => takesTurns_of_same h rfl rfl rfl
  have hrelease : ∀ call leaseId status,
      TakesTurns call book (book.release hash peerId leaseId status nowMs).2 := by
    intro call leaseId status
    unfold release
    split
    · exact hsame call
    · exact (releaseDevice_spec h _ nowMs).takesTurns call
  cases operation with
  | acquire deviceId lifetimeMs =>
    change TakesTurns _ book (book.acquire peerId deviceId lifetimeMs nowMs).2
    unfold acquire
    split
    · exact hsame _
    · rename_i hfree
      exact insert_takesTurns h (Option.not_isSome_iff_eq_none.1 hfree) peerId lifetimeMs nowMs
  | queue => exact queue_takesTurns h _ _ _ _ _ _
  | renew => exact renew_takesTurns h _ _ _ _ _
  | release | revoke => exact hrelease _ _ _
  | validate => exact hsame _
  | disconnect => exact disconnect_takesTurns h _ _ _ _ _
  | agentDetach deviceId =>
    change TakesTurns _ book (if _ then _ else _ : Reply × LeaseBook).2
    split
    · exact (forceReleaseDevice_spec h deviceId nowMs).takesTurns _
    · exact hsame _

theorem exec_takesTurns (h : book.Ordered) (hash : KeyOrder String) (nowMs : ℕ) (call : LeaseCall) :
    TakesTurns call book (book.exec hash nowMs call) := by
  cases call with
  | expire => exact (expire_spec h hash nowMs).takesTurns _
  | request => exact apply_takesTurns h _ _ _ _ _ _
  | connectInventory => exact takesTurns_of_same h rfl rfl rfl
  | detachInventory deviceId => exact (detachInventory_spec h deviceId nowMs).takesTurns _
  | startWriter => exact takesTurns_of_same h rfl rfl rfl
  | finishWriter deviceId => exact (finishWriter_spec h deviceId nowMs).takesTurns _
  | dropWriters => exact takesTurns_of_same h rfl rfl rfl

/-- **A call keeps the book ordered and takes a turn at every device.** -/
theorem next_spec (h : book.Ordered) (input : LeaseInput) :
    TakesTurns input.call book (book.next input) := by
  unfold next
  split
  · exact exec_takesTurns h input.hash input.nowMs input.call
  · exact takesTurns_of_same h rfl rfl rfl

/-! ### Runs -/

theorem runCalls_append (inputs later : List LeaseInput) (book : LeaseBook) :
    runCalls (inputs ++ later) book = runCalls later (runCalls inputs book) :=
  List.foldl_append

theorem ordered_runCalls (h : book.Ordered) (inputs : List LeaseInput) :
    (runCalls inputs book).Ordered := by
  induction inputs generalizing book with
  | nil => exact h
  | cons input inputs ih => exact ih (next_spec h input).ordered

theorem nextId_le_runCalls (h : book.Ordered) (inputs : List LeaseInput) :
    book.nextId ≤ (runCalls inputs book).nextId := by
  induction inputs generalizing book with
  | nil => exact Nat.le_refl _
  | cons input inputs ih =>
    have hnext := next_spec h input
    exact Nat.le_trans hnext.nextId_le (ih hnext.ordered)

/-- The identifier is that of a lease. -/
def Active (book : LeaseBook) (id : String) : Prop :=
  ∃ deviceId clientId, book.holder deviceId = some (id, clientId)

theorem Turn.active (h : Turn call book book' deviceId)
    (hafter : book'.holder deviceId = some (id, clientId)) :
    book.holder deviceId = some (id, clientId) ∨ Fresh book book' id := by
  cases h with
  | released h =>
    cases h with
    | stays hholder => exact .inl (hholder.symm.trans hafter)
    | passes hheld hline hfresh hholder =>
      have hsame := Option.some.inj (hholder.symm.trans hafter)
      rw [Prod.mk.injEq] at hsame
      exact .inr (hsame.1 ▸ hfresh)
    | ends hheld hline hholder =>
      rw [hholder] at hafter
      cases hafter
  | leases hfree hline hfresh hholder =>
    have hsame := Option.some.inj (hholder.symm.trans hafter)
    rw [Prod.mk.injEq] at hsame
    exact .inr (hsame.1 ▸ hfresh)
  | joins hcall hheld hother hnew hholder => exact .inl (hholder.symm.trans hafter)
  | leaves hcall hholder => exact .inl (hholder.symm.trans hafter)

theorem not_active_runCalls (h : book.Ordered) {n : ℕ} (hn : n ≤ book.nextId)
    (hnot : ¬ book.Active (leaseIdOf n)) (inputs : List LeaseInput) :
    ¬ (runCalls inputs book).Active (leaseIdOf n) := by
  induction inputs generalizing book with
  | nil => exact hnot
  | cons input inputs ih =>
    have hnext := next_spec h input
    refine ih hnext.ordered (hn.trans hnext.nextId_le) ?_
    rintro ⟨deviceId, clientId, hafter⟩
    rcases (hnext.turn deviceId).active hafter with hbefore | ⟨m, hlt, -, hid⟩
    · exact hnot ⟨deviceId, clientId, hbefore⟩
    · have hsame := leaseIdOf_injective hid
      omega

/-- **The book is first come, first served.**  In every book that comes about, leases are kept under their
devices, with different identifiers; a device that clients wait for is leased; and nobody waits twice for a
device or for a device of their own. With every call a device passes to the client that has waited for
longest, if its lease ends, and clients leave the queue with a lease or by their own wish. The identifier
of a lease that has ended does not come back. -/
theorem fifo (inputs : List LeaseInput) :
    (runCalls inputs empty).Ordered ∧
      (∀ input, TakesTurns input.call (runCalls inputs empty) ((runCalls inputs empty).next input)) ∧
      ∀ later last id, (runCalls inputs empty).Active id →
        ¬ (runCalls (inputs ++ later) empty).Active id →
          ¬ (runCalls (inputs ++ later ++ last) empty).Active id := by
  have hordered := ordered_runCalls ordered_empty inputs
  refine ⟨hordered, fun input => next_spec hordered input, fun later last id hbefore hnot => ?_⟩
  obtain ⟨deviceId, clientId, hholder⟩ := hbefore
  obtain ⟨lease, hlookup, hlease⟩ := Option.map_eq_some_iff.1 hholder
  rw [Prod.mk.injEq] at hlease
  obtain ⟨n, hn, hid⟩ := hordered.numbered deviceId lease hlookup
  have hnumber : id = leaseIdOf n := hlease.1.symm.trans hid
  subst hnumber
  rw [runCalls_append] at hnot
  rw [runCalls_append, runCalls_append]
  exact not_active_runCalls (ordered_runCalls hordered later)
    (Nat.le_trans hn (nextId_le_runCalls hordered later)) hnot last

end LeaseBook

end Registry
