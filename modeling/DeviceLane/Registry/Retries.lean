/-
**Requests that are sent again.**

A daemon that loses the answer to a request opens a new session and sends the same request once more; it
cannot tell whether the registry has handled the first one. Jobs and cancellations of jobs that are under
way know their own repetitions. A lease that is acquired, a lease that is given up and a job that is
cancelled before it is given out do not: the registry refuses the repetition.

Main definitions:

* `Registry.serve` — a request handled to its answer, with nothing in between.

Main results:

* `Registry.idempotent_iff` — **a request is idempotent exactly where it is repeatable**.
-/

import DeviceLane.Registry.Cancels
import DeviceLane.Registry.EndedLeases

namespace Registry

open Dashboard (u64Max)

variable {env : Env} {runtime : Runtime} {peerId leaseId key : String} {book book' : LeaseBook}
  {agentPeers : Finset String} {devicePeers : Map String String} {hash : KeyOrder String} {nowMs : ℕ}
  {sign : List UInt8 → List UInt8}

/-! ### What is sent, and what comes of it -/

/-- The requests that a daemon sends. -/
def Request.isSent : Request → Bool
  | .list => true
  | .lease (.acquire _ _) => true
  | .lease (.release _) => true
  | .appleRun _ => true
  | .events _ _ => true
  | .appleCancel _ => true
  | _ => false

/-- What a section writes is on the disk. -/
structure Env.Works (env : Env) : Prop where
  state : env.stateWrite = .stored
  leases : env.leasesWrite = .stored

/-- What a caller goes by: whether the request is accepted, the lease that is granted, and the job. -/
def Response.outcome (answer : Response) : Bool × Option LeaseGrant × Option String :=
  (answer.accepted, answer.leaseGrant, answer.jobId)

section

variable [Sha256]

/-- A request is handled to its answer, and nothing comes in between. -/
def serve (config : Config) (env : Env) (peerId : String) (req : Request) (runtime : Runtime) :
    Runtime × Option Response :=
  let first := handle config env (.request peerId req) runtime
  match req with
  | .appleRun operation =>
    if first.1.flights = .leased peerId operation :: runtime.flights then
      handle config env (.resume (.leased peerId operation)) first.1
    else
      first
  | _ => first

/-- A request that is handled once more changes nothing, and is answered alike. -/
structure Idempotent (config : Config) (env again : Env) (peerId : String) (req : Request)
    (runtime : Runtime) : Prop where
  state : (serve config again peerId req (serve config env peerId req runtime).1).1
    = (serve config env peerId req runtime).1
  outcome : (serve config again peerId req (serve config env peerId req runtime).1).2.map
      Response.outcome
    = (serve config env peerId req runtime).2.map Response.outcome

end

/-- A request can be sent again: a lease that is asked for is not to be had, one that is given up is kept
by a writer, and a job that is cancelled has been given out. -/
def Repeatable (env : Env) (peerId : String) (runtime : Runtime) : Request → Prop
  | .lease (.acquire deviceId _) => runtime.state.recoveryError.isSome ∨
      ((runtime.leases.expire env.orders.active env.nowMs).active.lookup deviceId).isSome
  | .lease (.release leaseId) => runtime.state.recoveryError.isSome ∨ ∀ deviceId lease,
      (runtime.leases.expire env.orders.active env.nowMs).active.lookup deviceId = some lease →
        lease.id = leaseId → lease.clientId = peerId → (runtime.leases.writers.lookup deviceId).isSome
  | .appleCancel jobId => runtime.state.recoveryError.isSome ∨
      (runtime.state.jobClients.lookup jobId = some peerId →
        (runtime.state.applePending.lookup jobId).isSome → jobId ∈ runtime.state.dispatched)
  | _ => True

/-! ### What is written -/

def Runtime.saved (runtime : Runtime) (leases : LeaseBook) : Runtime :=
  { runtime with
    leases
    storedState := runtime.state
    storedLeases := leases }

def Runtime.stateSaved (runtime : Runtime) (state : DurableState) : Runtime :=
  { runtime with
    state
    storedState := state }

theorem storeLeases_of_works (h : env.Works) (runtime : Runtime) :
    runtime.storeLeases env = { runtime with storedLeases := runtime.leases } := by
  unfold Runtime.storeLeases
  rw [h.leases]
  exact if_pos rfl

theorem storeState_of_works (h : env.Works) (hrecovery : runtime.state.recoveryError = none) :
    runtime.storeState env = { runtime with storedState := runtime.state } := by
  unfold Runtime.storeState
  rw [h.state]
  exact if_pos ⟨hrecovery, rfl⟩

theorem storeStateOrPanic_of_works (h : env.Works) (runtime : Runtime)
    (hrecovery : runtime.state.recoveryError = none) (answer : Response) :
    runtime.storeStateOrPanic env answer
      = ({ runtime with storedState := runtime.state }, some answer) := by
  have hstores : runtime.storesState env := ⟨hrecovery, h.state⟩
  unfold Runtime.storeStateOrPanic
  dsimp only
  rw [if_pos hstores, storeState_of_works h hrecovery]

theorem leaseRequest_of_works {config : Config} (h : env.Works) {operation : LeaseRequest}
    (hrecovery : runtime.state.recoveryError = none) {answer : Response} {leases : LeaseBook}
    (hlease : lease config.sign config.agentPeers env.orders.active operation peerId
      runtime.state.devicePeers runtime.leases env.nowMs
        = some (answer, runtime.state.devicePeers, leases)) :
    leaseRequest config env peerId operation runtime = (runtime.saved leases, some answer) := by
  rw [leaseRequest_eq hlease h.leases hrecovery h.state, storeLeases_of_works h,
    storeState_of_works h (by exact hrecovery)]
  rfl

def leaseHeld (leases : LeaseBook) (peerId : String) (operation : AppleRequest) : Option DeviceLease :=
  operation.deviceId.bind fun deviceId =>
    operation.leaseId.bind fun leaseId => leases.leaseOf deviceId leaseId (some peerId)

theorem appleRunLease_of_works (operation : AppleRequest) (hworks : env.Works)
    (hbook : runtime.leases.expire env.orders.active env.nowMs = book) :
    appleRunLease env peerId operation runtime
      = if (leaseHeld book peerId operation).isNone then
          ({ runtime with
              leases := book
              storedLeases := book }, some (errorResponse "lease_inactive"))
        else
          (Runtime.fly
            { runtime with
              leases := book
              storedLeases := book } (.leased peerId operation), none) := by
  unfold appleRunLease
  dsimp only
  rw [hbook, storeLeases_of_works hworks, if_neg (not_not.2 hworks.leases)]
  rfl

theorem lease_eq_answered {operation : LeaseRequest} {answer : Response}
    (happlied : (book.expire hash nowMs).apply agentPeers devicePeers hash peerId operation nowMs
      = (.answered answer, book'))
    (hdetached : detachedDevice agentPeers devicePeers peerId operation = none) :
    lease sign agentPeers hash operation peerId devicePeers book nowMs
      = some (answer, devicePeers, book') := by
  simp only [lease, happlied, hdetached]

theorem lease_acquire_refused {deviceId : String} {lifetimeMs : ℕ}
    (hbook : book.expire hash nowMs = book') (hbusy : (book'.active.lookup deviceId).isSome) :
    lease sign agentPeers hash (.acquire deviceId lifetimeMs) peerId devicePeers book nowMs
      = some (errorResponse "device_already_leased", devicePeers, book') := by
  subst hbook
  exact lease_eq_answered (if_pos hbusy) rfl

theorem lease_release_refused (hbook : book.expire hash nowMs = book')
    (hnone : book'.ownedLease hash peerId leaseId = none) :
    lease sign agentPeers hash (.release leaseId) peerId devicePeers book nowMs
      = some (errorResponse "lease_inactive", devicePeers, book') := by
  subst hbook
  refine lease_eq_answered ?_ rfl
  change LeaseBook.release _ _ _ _ _ _ = _
  unfold LeaseBook.release
  rw [hnone]

theorem lease_release_done (sign : List UInt8 → List UInt8) (agentPeers : Finset String)
    (devicePeers : Map String String) {found : DeviceLease} (hbook : book.expire hash nowMs = book')
    (howned : book'.ownedLease hash peerId leaseId = some (key, found)) (hkeyed : found.deviceId = key) :
    lease sign agentPeers hash (.release leaseId) peerId devicePeers book nowMs
      = some (LeaseBook.leaseStatus "released", devicePeers, book'.releaseDevice key nowMs) := by
  subst hbook hkeyed
  refine lease_eq_answered ?_ rfl
  change LeaseBook.release _ _ _ _ _ _ = _
  unfold LeaseBook.release
  rw [howned]

/-! ### Leases that are given up -/

theorem LeaseBook.ownedLease_eq_none : book.ownedLease hash peerId leaseId = none ↔
      ∀ deviceId lease, book.active.lookup deviceId = some lease → lease.id = leaseId →
        lease.clientId ≠ peerId := by
  unfold LeaseBook.ownedLease
  rw [List.find?_eq_none]
  refine ⟨?_, ?_⟩
  · intro h deviceId lease hlookup hid hclient
    have hentry := h (deviceId, lease) (Map.mem_entriesIn.2 hlookup)
    rw [Bool.and_eq_true, decide_eq_true_eq, decide_eq_true_eq] at hentry
    exact hentry ⟨hid, hclient⟩
  · rintro h ⟨deviceId, lease⟩ hmem hentry
    rw [Bool.and_eq_true, decide_eq_true_eq, decide_eq_true_eq] at hentry
    exact h deviceId lease (Map.mem_entriesIn.1 hmem) hentry.1 hentry.2

theorem LeaseBook.Ordered.ownedLease_of_lookup (h : book.Ordered) (hash : KeyOrder String)
    {lease : DeviceLease} (hlookup : book.active.lookup key = some lease) :
    book.ownedLease hash lease.clientId lease.id = some (key, lease) := by
  cases howned : book.ownedLease hash lease.clientId lease.id with
  | none => exact absurd rfl (LeaseBook.ownedLease_eq_none.1 howned key lease hlookup rfl)
  | some entry =>
    obtain ⟨other, found⟩ := entry
    obtain ⟨hfound, hid, -⟩ := LeaseBook.ownedLease_eq_some howned
    obtain rfl := h.distinct other key found lease hfound hlookup hid
    rw [Option.some.inj (hfound.symm.trans hlookup)]

/-- The end of a lease is put off for a writer, and putting it off once more changes nothing. -/
theorem LeaseBook.releaseDevice_of_writer {deviceId : String}
    (h : (book.writers.lookup deviceId).isSome) (nowMs nowMs' : ℕ) :
    (book.releaseDevice deviceId nowMs).active = book.active ∧
      (book.releaseDevice deviceId nowMs).releaseDevice deviceId nowMs'
        = book.releaseDevice deviceId nowMs := by
  have hput : ∀ (book : LeaseBook) (nowMs : ℕ), (book.writers.lookup deviceId).isSome →
      book.releaseDevice deviceId nowMs
        = { book with pendingRelease := Insert.insert deviceId book.pendingRelease } :=
    fun _ _ hsome => if_pos hsome
  rw [hput book nowMs h]
  refine ⟨rfl, ?_⟩
  rw [hput _ nowMs' (by exact h), Finset.insert_idem]

theorem LeaseBook.Ordered.ownedLease_releaseDevice (h : book.Ordered) {lease : DeviceLease}
    (howned : book.ownedLease hash peerId leaseId = some (key, lease))
    (hwriter : book.writers.lookup key = none) (nowMs : ℕ) (hash' : KeyOrder String) :
    (book.releaseDevice key nowMs).ownedLease hash' peerId leaseId = none := by
  obtain ⟨hlookup, hid, -⟩ := LeaseBook.ownedLease_eq_some howned
  obtain ⟨n, hn, hnumber⟩ := h.numbered key lease hlookup
  have hrelease : book.releaseDevice key nowMs = book.releaseDeviceNow key nowMs := by
    unfold LeaseBook.releaseDevice
    rw [hwriter]
    rfl
  rw [hrelease, LeaseBook.ownedLease_eq_none]
  intro other found hfound hfoundId
  have hnotFresh : ¬ LeaseBook.Fresh book (book.releaseDeviceNow key nowMs) found.id := by
    refine LeaseBook.not_fresh ⟨n, hn, ?_⟩
    rw [hfoundId, ← hid, hnumber]
  by_cases hother : other = key
  · subst hother
    exact absurd ((LeaseBook.releaseDeviceNow_leaves book other nowMs).2 found hfound) hnotFresh
  · -- a lease with this identifier is the one that was given up
    rcases (LeaseBook.releaseDeviceNow_leaves book key nowMs).1.lease other found hfound with
      hfresh | ⟨hbefore, -⟩
    · exact absurd hfresh hnotFresh
    · exact absurd (h.distinct other key found lease hbefore hlookup (hfoundId.trans hid.symm)) hother

theorem find_eligible_again {entries : Map String Entry} {orders orders' : KeyOrder String}
    {instant later offline : ℕ} {operation : AppleRequest} (hlater : instant ≤ later)
    (h : ((entries.entriesIn orders).find? fun entry => entry.2.eligible instant offline operation)
      = none) :
    ((entries.entriesIn orders').find? fun entry => entry.2.eligible later offline operation) = none := by
  rw [List.find?_eq_none] at h ⊢
  intro entry hmem heligible
  refine h entry (Map.mem_entriesIn.2 (Map.mem_entriesIn.1 hmem)) ?_
  unfold Entry.eligible appleHostIsCurrent at heligible ⊢
  rw [Bool.and_eq_true, Bool.and_eq_true, decide_eq_true_eq] at heligible ⊢
  exact ⟨⟨by omega, heligible.1.2⟩, heligible.2⟩

/-! ### Requests in one section -/

section

variable [Sha256] {config : Config} {env again : Env} {peerId : String} {req : Request}
  {runtime : Runtime}

variable {after : Runtime} {answer answer' : Response} {jobId : String} {operation : AppleRequest}

theorem serve_eq_handle (h : ∀ operation, req ≠ .appleRun operation) (config : Config) (env : Env)
    (peerId : String) (runtime : Runtime) :
    serve config env peerId req runtime = handle config env (.request peerId req) runtime := by
  cases req with
  | appleRun operation => exact absurd rfl (h operation)
  | _ => rfl

theorem idempotent_of_serve (honce : serve config env peerId req runtime = (after, some answer))
    (htwice : serve config again peerId req after = (after, some answer'))
    (houtcome : answer'.outcome = answer.outcome) : Idempotent config env again peerId req runtime := by
  refine ⟨?_, ?_⟩
  · rw [honce, htwice]
  · rw [honce, htwice, Option.map_some, Option.map_some, houtcome]

theorem not_idempotent_of_serve {after' : Runtime}
    (honce : serve config env peerId req runtime = (after, some answer))
    (htwice : serve config again peerId req after = (after', some answer'))
    (haccepted : answer'.accepted ≠ answer.accepted) :
    ¬ Idempotent config env again peerId req runtime := by
  intro h
  have houtcome := h.outcome
  rw [honce, htwice, Option.map_some, Option.map_some] at houtcome
  exact haccepted (congrArg Prod.fst (Option.some.inj houtcome))

theorem idempotent_of_recovery {error : String} (hholder : runtime.holder = none)
    (hrecovery : runtime.state.recoveryError = some error) (hreq : readOnlyDuringRecovery req = false)
    (hnext : runtime.leases.nextId ≤ u64Max) : Idempotent config env again peerId req runtime := by
  have hserve : ∀ env, serve config env peerId req runtime = (runtime, some (errorResponse error)) := by
    intro env
    have hhandle : handle config env (.request peerId req) runtime
        = (runtime, some (errorResponse error)) := by
      rw [handle_of_recovery hholder hrecovery hreq, if_pos hnext]
    cases req with
    | appleRun =>
      unfold serve
      dsimp only
      rw [hhandle, if_neg (List.ne_cons_self (l := runtime.flights))]
    | _ => exact hhandle
  exact idempotent_of_serve (hserve env) (hserve again) rfl

theorem idempotent_of_reads (answer : Env → Response) (hreq : readOnlyDuringRecovery req = true)
    (hreads : ∀ env, request config env peerId runtime req = (runtime, some (answer env)))
    (houtcome : ∀ env env', (answer env').outcome = (answer env).outcome)
    (hholder : runtime.holder = none) (hnext : runtime.leases.nextId ≤ u64Max) :
    Idempotent config env again peerId req runtime := by
  have hne : ∀ operation, req ≠ .appleRun operation := by
    rintro operation rfl
    cases hreq
  have hserve : ∀ env, serve config env peerId req runtime = (runtime, some (answer env)) := by
    intro env
    rw [serve_eq_handle hne, handle_of_readOnly hholder hreq, hreads, if_pos hnext]
  exact idempotent_of_serve (hserve env) (hserve again) (houtcome env again)

/-! ### Leases -/

/-- What a request about leases leaves is found again, when nothing comes to an end in between. -/
theorem serve_lease (runtime : Runtime) {operation : LeaseRequest} (hworks : env.Works)
    (hholder : runtime.holder = none) (hrecovery : runtime.state.recoveryError = none)
    {leases : LeaseBook}
    (hlease : lease config.sign config.agentPeers env.orders.active operation peerId
      runtime.state.devicePeers runtime.leases env.nowMs
        = some (answer, runtime.state.devicePeers, leases)) (hnext : leases.nextId ≤ u64Max) :
    serve config env peerId (.lease operation) runtime = (runtime.saved leases, some answer) := by
  have hrequest : request config env peerId runtime (.lease operation)
      = (runtime.saved leases, some answer) := leaseRequest_of_works hworks hrecovery hlease
  rw [serve_eq_handle (fun _ h => by cases h), handle_of_free hholder hrecovery, hrequest]
  exact if_pos hnext

theorem nextId_of_answered (hholder : runtime.holder = none)
    (hrecovery : runtime.state.recoveryError = none)
    (h : (handle config env (.request peerId req) runtime).2 = some answer) :
    (request config env peerId runtime req).1.leases.nextId ≤ u64Max := by
  rw [handle_of_free hholder hrecovery] at h
  split at h
  · assumption
  · cases h

theorem serve_lease_of_answered {operation : LeaseRequest} (hworks : env.Works)
    (hholder : runtime.holder = none) (hrecovery : runtime.state.recoveryError = none)
    {leases : LeaseBook}
    (hanswer : (serve config env peerId (.lease operation) runtime).2 = some answer')
    (hlease : lease config.sign config.agentPeers env.orders.active operation peerId
      runtime.state.devicePeers runtime.leases env.nowMs
        = some (answer, runtime.state.devicePeers, leases)) :
    leases.nextId ≤ u64Max ∧
      serve config env peerId (.lease operation) runtime = (runtime.saved leases, some answer) := by
  have hrequest : request config env peerId runtime (.lease operation)
      = (runtime.saved leases, some answer) := leaseRequest_of_works hworks hrecovery hlease
  have hnext := nextId_of_answered hholder hrecovery hanswer
  rw [hrequest] at hnext
  exact ⟨hnext, serve_lease runtime hworks hholder hrecovery hlease hnext⟩

/-- **A lease is acquired once.** -/
theorem idempotent_acquire_iff (runtime : Runtime) (hworks : env.Works) (hagain : again.Works)
    (hholder : runtime.holder = none) (hrecovery : runtime.state.recoveryError = none)
    {deviceId : String} {lifetimeMs : ℕ}
    (hanswer : (serve config env peerId (.lease (.acquire deviceId lifetimeMs)) runtime).2 = some answer)
    (hlapse : (serve config env peerId (.lease (.acquire deviceId lifetimeMs)) runtime).1.leases.expire
        again.orders.active again.nowMs
      = (serve config env peerId (.lease (.acquire deviceId lifetimeMs)) runtime).1.leases) :
    Idempotent config env again peerId (.lease (.acquire deviceId lifetimeMs)) runtime ↔
      ((runtime.leases.expire env.orders.active env.nowMs).active.lookup deviceId).isSome := by
  -- whoever asks for the device after that is refused
  have htwice : ∀ leases, leases.expire again.orders.active again.nowMs = leases →
      (leases.active.lookup deviceId).isSome → leases.nextId ≤ u64Max →
      serve config again peerId (.lease (.acquire deviceId lifetimeMs)) (runtime.saved leases)
        = (runtime.saved leases, some (errorResponse "device_already_leased")) :=
    fun leases hlapse hbusy hnext =>
      serve_lease (runtime.saved leases) hagain hholder hrecovery
        (lease_acquire_refused hlapse hbusy) hnext
  obtain ⟨book, hbook⟩ : ∃ book, runtime.leases.expire env.orders.active env.nowMs = book := ⟨_, rfl⟩
  rw [hbook]
  cases hbusy : book.active.lookup deviceId with
  | some =>
    have hsome : (book.active.lookup deviceId).isSome := by
      rw [hbusy]
      rfl
    obtain ⟨hnext, honce⟩ := serve_lease_of_answered hworks hholder hrecovery hanswer
      (lease_acquire_refused hbook hsome)
    rw [honce] at hlapse
    exact iff_of_true (idempotent_of_serve honce (htwice book hlapse hsome hnext) rfl) rfl
  | none =>
    let granted := book.insert deviceId peerId lifetimeMs env.nowMs
    have happlied : (runtime.leases.expire env.orders.active env.nowMs).apply config.agentPeers
        runtime.state.devicePeers env.orders.active peerId (.acquire deviceId lifetimeMs) env.nowMs
        = (.granted (leaseIdOf (book.nextId + 1)) "acquired", granted) := by
      rw [hbook]
      exact if_neg (by rw [hbusy]; decide)
    obtain ⟨lease, hlookup, hid⟩ : ∃ lease, granted.active.lookup deviceId = some lease ∧
        lease.id = leaseIdOf (book.nextId + 1) := ⟨_, Map.lookup_insert_self _ _ _, rfl⟩
    have hsome : ((granted.active.entriesIn env.orders.active).find?
        fun entry => entry.2.id = leaseIdOf (book.nextId + 1)).isSome :=
      List.find?_isSome.2 ⟨(deviceId, lease), Map.mem_entriesIn.2 hlookup, decide_eq_true hid⟩
    obtain ⟨entry, hfound⟩ := Option.isSome_iff_exists.1 hsome
    obtain ⟨hnext, honce⟩ := serve_lease_of_answered hworks hholder hrecovery hanswer
      (lease_eq_granted happlied rfl hfound)
    rw [honce] at hlapse
    -- the device is leased now, to the client that asks for it again
    have hbusyNow : (granted.active.lookup deviceId).isSome := by
      rw [hlookup]
      rfl
    exact iff_of_false
      (not_idempotent_of_serve honce (htwice granted hlapse hbusyNow hnext) Bool.false_ne_true)
      Bool.false_ne_true

/-- **A lease is given up once**, unless a writer keeps it. -/
theorem idempotent_release_iff (hordered : runtime.leases.Ordered) (hworks : env.Works)
    (hagain : again.Works) (hholder : runtime.holder = none)
    (hrecovery : runtime.state.recoveryError = none) {leaseId : String}
    (hanswer : (serve config env peerId (.lease (.release leaseId)) runtime).2 = some answer)
    (hlapse : (serve config env peerId (.lease (.release leaseId)) runtime).1.leases.expire
        again.orders.active again.nowMs
      = (serve config env peerId (.lease (.release leaseId)) runtime).1.leases) :
    Idempotent config env again peerId (.lease (.release leaseId)) runtime ↔
      ∀ deviceId lease,
        (runtime.leases.expire env.orders.active env.nowMs).active.lookup deviceId = some lease →
          lease.id = leaseId → lease.clientId = peerId →
            (runtime.leases.writers.lookup deviceId).isSome := by
  -- a client that has no such lease any more is refused
  have hrefused : ∀ leases, leases.expire again.orders.active again.nowMs = leases →
      (∀ deviceId lease, leases.active.lookup deviceId = some lease → lease.id = leaseId →
        lease.clientId ≠ peerId) → leases.nextId ≤ u64Max →
      serve config again peerId (.lease (.release leaseId)) (runtime.saved leases)
        = (runtime.saved leases, some (errorResponse "lease_inactive")) :=
    fun leases hlapse hnobody hnext =>
      serve_lease (runtime.saved leases) hagain hholder hrecovery
        (lease_release_refused hlapse (LeaseBook.ownedLease_eq_none.2 hnobody)) hnext
  have hordered := (LeaseBook.expire_spec hordered env.orders.active env.nowMs).ordered
  have hwriters := (runtime.leases.expire_spares env.orders.active env.nowMs).writers
  obtain ⟨book, hbook⟩ : ∃ book, runtime.leases.expire env.orders.active env.nowMs = book := ⟨_, rfl⟩
  rw [← hwriters]
  rw [hbook] at hordered ⊢
  cases howned : book.ownedLease env.orders.active peerId leaseId with
  | none =>
    have hnobody := LeaseBook.ownedLease_eq_none.1 howned
    obtain ⟨hnext, honce⟩ := serve_lease_of_answered hworks hholder hrecovery hanswer
      (lease_release_refused hbook howned)
    rw [honce] at hlapse
    refine iff_of_true (idempotent_of_serve honce (hrefused book hlapse hnobody hnext) rfl) ?_
    intro deviceId lease hlookup hid hclient
    exact absurd hclient (hnobody deviceId lease hlookup hid)
  | some entry =>
    obtain ⟨key, found⟩ := entry
    obtain ⟨hlookup, hid, hclient⟩ := LeaseBook.ownedLease_eq_some howned
    have hkeyed := hordered.keyed key found hlookup
    obtain ⟨hnext, honce⟩ := serve_lease_of_answered hworks hholder hrecovery hanswer
      (lease_release_done _ _ _ hbook howned hkeyed)
    rw [honce] at hlapse
    change (book.releaseDevice key env.nowMs).expire _ _ = book.releaseDevice key env.nowMs at hlapse
    cases hwriter : book.writers.lookup key with
    | some =>
      -- the end of the lease is put off, and it is put off once more
      have hsome : (book.writers.lookup key).isSome := by
        rw [hwriter]
        rfl
      obtain ⟨hactive, honceMore⟩ := LeaseBook.releaseDevice_of_writer hsome env.nowMs again.nowMs
      have hmarked := (LeaseBook.releaseDevice_spec hordered key env.nowMs).ordered
      have howned' := hmarked.ownedLease_of_lookup again.orders.active (hactive ▸ hlookup)
      rw [hid, hclient] at howned'
      have hlease := lease_release_done config.sign config.agentPeers runtime.state.devicePeers
        hlapse howned' hkeyed
      rw [honceMore] at hlease
      have htwice := serve_lease (runtime.saved _) hagain hholder hrecovery hlease hnext
      refine iff_of_true (idempotent_of_serve honce htwice rfl) ?_
      intro deviceId lease hlookup' hid' _
      obtain rfl := hordered.distinct deviceId key lease found hlookup' hlookup
        (hid'.trans hid.symm)
      exact hsome
    | none =>
      -- the lease is not there any more
      have hgone := hordered.ownedLease_releaseDevice howned hwriter env.nowMs
        again.orders.active
      have htwice := hrefused _ hlapse (LeaseBook.ownedLease_eq_none.1 hgone) hnext
      refine iff_of_false (not_idempotent_of_serve honce htwice Bool.false_ne_true) ?_
      intro h
      have hsome := h key found hlookup hid hclient
      rw [hwriter] at hsome
      exact Bool.false_ne_true hsome

/-! ### Jobs -/

theorem serve_cancel (config : Config) (runtime : Runtime) (hworks : env.Works)
    (hholder : runtime.holder = none) (hrecovery : runtime.state.recoveryError = none)
    (hnext : runtime.leases.nextId ≤ u64Max)
    (hclient : runtime.state.jobClients.lookup jobId = some peerId)
    (hpending : (runtime.state.applePending.lookup jobId).isSome) {state : DurableState}
    (hstate : state = if jobId ∈ runtime.state.dispatched then runtime.state.cancel jobId
      else runtime.state.dismiss jobId "cancelled" "") :
    serve config env peerId (.appleCancel jobId) runtime = (runtime.stateSaved state, some response) := by
  have hkeeps : state.recoveryError = none := by
    rw [hstate]
    split
    · exact hrecovery
    · exact hrecovery
  have hknown : ¬ (runtime.state.applePending.lookup jobId).isNone = true := by
    rw [Option.isNone_iff_eq_none, ← ne_eq, Option.ne_none_iff_isSome]
    exact hpending
  have hrequest : request config env peerId runtime (.appleCancel jobId)
      = (runtime.stateSaved state, some response) := by
    change appleCancel env peerId jobId runtime = _
    unfold appleCancel
    rw [if_neg (not_not.2 hclient), if_neg hknown, ← hstate]
    exact storeStateOrPanic_of_works hworks _ hkeeps response
  rw [serve_eq_handle (fun _ h => by cases h), handle_of_free hholder hrecovery, hrequest]
  exact if_pos hnext

theorem serve_cancel_refused (config : Config) (runtime : Runtime) (hholder : runtime.holder = none)
    (hrecovery : runtime.state.recoveryError = none) (hnext : runtime.leases.nextId ≤ u64Max)
    (hrefused : runtime.state.jobClients.lookup jobId = some peerId →
      (runtime.state.applePending.lookup jobId).isNone) :
    ∃ error, ∀ env, serve config env peerId (.appleCancel jobId) runtime
      = (runtime, some (errorResponse error)) := by
  have hserve : ∀ error, (∀ env, appleCancel env peerId jobId runtime
      = (runtime, some (errorResponse error))) → ∀ env,
        serve config env peerId (.appleCancel jobId) runtime
          = (runtime, some (errorResponse error)) := by
    intro error hcancel env
    have hrequest : request config env peerId runtime (.appleCancel jobId)
        = (runtime, some (errorResponse error)) := hcancel env
    rw [serve_eq_handle (fun _ h => by cases h), handle_of_free hholder hrecovery, hrequest]
    exact if_pos hnext
  by_cases hclient : runtime.state.jobClients.lookup jobId = some peerId
  · refine ⟨"unknown_job", hserve "unknown_job" fun env => ?_⟩
    unfold appleCancel
    rw [if_neg (not_not.2 hclient), if_pos (hrefused hclient)]
  · refine ⟨"apple_cancel_access_denied", hserve "apple_cancel_access_denied" fun env => ?_⟩
    unfold appleCancel
    rw [if_pos hclient]

/-- **A job is cancelled once**, unless it has been given out. -/
theorem idempotent_cancel_iff (hworks : env.Works) (hagain : again.Works)
    (hholder : runtime.holder = none) (hrecovery : runtime.state.recoveryError = none)
    (hnext : runtime.leases.nextId ≤ u64Max) :
    Idempotent config env again peerId (.appleCancel jobId) runtime ↔
      (runtime.state.jobClients.lookup jobId = some peerId →
        (runtime.state.applePending.lookup jobId).isSome → jobId ∈ runtime.state.dispatched) := by
  by_cases hpasses : runtime.state.jobClients.lookup jobId = some peerId ∧
      (runtime.state.applePending.lookup jobId).isSome
  · obtain ⟨hclient, hpending⟩ := hpasses
    by_cases hdispatched : jobId ∈ runtime.state.dispatched
    · have honce := serve_cancel config runtime hworks hholder hrecovery hnext hclient hpending
        (if_pos hdispatched).symm
      have hsame : runtime.state.cancel jobId = (runtime.state.cancel jobId).cancel jobId := by
        unfold DurableState.cancel
        rw [Finset.insert_idem]
      have htwice := serve_cancel config (runtime.stateSaved (runtime.state.cancel jobId)) hagain hholder hrecovery hnext
        hclient hpending (hsame.trans (if_pos hdispatched).symm)
      exact iff_of_true (idempotent_of_serve honce htwice rfl) fun _ _ => hdispatched
    · have honce := serve_cancel config runtime hworks hholder hrecovery hnext hclient hpending
        (if_neg hdispatched).symm
      -- the job is over, and its name is not known any more
      have hgone : ((runtime.state.dismiss jobId "cancelled" "").applePending.lookup jobId).isNone := by
        rw [DurableState.dismiss, Map.lookup_erase, if_pos rfl]
        rfl
      obtain ⟨error, htwice⟩ := serve_cancel_refused config
        (runtime.stateSaved (runtime.state.dismiss jobId "cancelled" "")) hholder hrecovery
        hnext fun _ => hgone
      exact iff_of_false (not_idempotent_of_serve honce (htwice again) Bool.false_ne_true)
        fun h => hdispatched (h hclient hpending)
  · have hnone : runtime.state.jobClients.lookup jobId = some peerId →
        (runtime.state.applePending.lookup jobId).isNone := by
      intro hclient
      rw [Option.isNone_iff_eq_none, ← Option.not_isSome_iff_eq_none]
      exact fun hpending => hpasses ⟨hclient, hpending⟩
    obtain ⟨error, hserve⟩ := serve_cancel_refused config runtime hholder hrecovery hnext hnone
    exact iff_of_true (idempotent_of_serve (hserve env) (hserve again) rfl)
      fun hclient hpending => absurd ⟨hclient, hpending⟩ hpasses

/-- **A job is known by its key**: whoever asks for it again gets it, or is refused again. -/
theorem appleRunAccept_again (config : Config) (peerId : String) (operation : AppleRequest)
    (runtime : Runtime) (hworks : env.Works)
    (hlater : env.instant ≤ again.instant) (hrecovery : runtime.state.recoveryError = none) :
    ∃ state storedState answer,
      appleRunAccept config env peerId operation runtime
        = ({ runtime with
            state
            storedState }, some answer) ∧
      (∀ flights, appleRunAccept config again peerId operation
        { runtime with
          state
          storedState
          flights }
        = ({ runtime with
            state
            storedState
            flights }, some answer)) ∧
      state.recoveryError = none := by
  cases hknown : runtime.state.appleRequests.lookup operation.idempotencyKey with
  | some jobId =>
    by_cases hconflict : (runtime.state.appleOperations.lookup operation.idempotencyKey).any
        (fun existing => existing ≠ operation)
    · refine ⟨runtime.state, runtime.storedState, errorResponse "idempotency_conflict", ?_,
        fun flights => ?_, hrecovery⟩
      · unfold appleRunAccept
        rw [hknown]
        exact if_pos hconflict
      · unfold appleRunAccept
        dsimp only
        rw [hknown]
        exact if_pos hconflict
    · refine ⟨runtime.state, runtime.storedState, { response with jobId := some jobId }, ?_,
        fun flights => ?_, hrecovery⟩
      · unfold appleRunAccept
        rw [hknown]
        exact if_neg hconflict
      · unfold appleRunAccept
        dsimp only
        rw [hknown]
        exact if_neg hconflict
  | none =>
    cases hhost : (runtime.entries.entriesIn env.orders.entries).find?
        fun entry => entry.2.eligible env.instant config.offline operation with
    | none =>
      refine ⟨runtime.state, runtime.storedState, errorResponse "no_eligible_host", ?_,
        fun flights => ?_, hrecovery⟩
      · unfold appleRunAccept
        rw [hknown]
        dsimp only
        rw [hhost]
      · unfold appleRunAccept
        dsimp only
        rw [hknown]
        dsimp only
        rw [find_eligible_again hlater hhost]
    | some entry =>
      let jobId := appleJobId operation.idempotencyKey
      let accepted := runtime.state.acceptApple peerId jobId entry.2.host.id operation
      refine ⟨accepted, accepted, { response with jobId := some jobId }, ?_, fun flights => ?_,
        hrecovery⟩
      · unfold appleRunAccept
        rw [hknown]
        dsimp only
        rw [hhost]
        exact storeStateOrPanic_of_works hworks { runtime with state := accepted } hrecovery _
      · -- the key is known now, and so is the operation
        have hnow : accepted.appleRequests.lookup operation.idempotencyKey = some jobId :=
          Map.lookup_insert_self _ _ _
        have hsame : accepted.appleOperations.lookup operation.idempotencyKey = some operation :=
          Map.lookup_insert_self _ _ _
        unfold appleRunAccept
        dsimp only
        rw [hnow]
        dsimp only
        rw [hsame]
        exact if_neg (by rw [Option.any_some, decide_eq_true_eq]; exact not_not.2 rfl)

theorem appleRun_of_mutates (hvalid : validateRequestEnvelope operation = .ok ())
    (hmutates : operation.operation.mutatesDevice = true) :
    appleRun config env peerId operation runtime = appleRunLease env peerId operation runtime := by
  unfold appleRun
  rw [hvalid]
  exact if_pos hmutates

theorem serve_appleRun_answered (runtime : Runtime) (hholder : runtime.holder = none)
    (hrecovery : runtime.state.recoveryError = none)
    (hrequest : appleRun config env peerId operation runtime = (after, some answer))
    (hflights : after.flights = runtime.flights) (hnext : after.leases.nextId ≤ u64Max) :
    serve config env peerId (.appleRun operation) runtime = (after, some answer) := by
  have hhandle : handle config env (.request peerId (.appleRun operation)) runtime
      = (after, some answer) := by
    rw [handle_of_free hholder hrecovery]
    change (if (appleRun config env peerId operation runtime).1.leases.nextId ≤ u64Max then
      appleRun config env peerId operation runtime else _) = _
    rw [hrequest]
    exact if_pos hnext
  unfold serve
  dsimp only
  rw [hhandle, if_neg (by rw [hflights]; exact List.ne_cons_self)]

theorem serve_appleRun_leased (runtime : Runtime) (hworks : env.Works)
    (hholder : runtime.holder = none) (hrecovery : runtime.state.recoveryError = none)
    (hvalid : validateRequestEnvelope operation = .ok ())
    (hmutates : operation.operation.mutatesDevice = true) {book : LeaseBook}
    (hbook : runtime.leases.expire env.orders.active env.nowMs = book) (hnext : book.nextId ≤ u64Max)
    (hlease : ¬ (leaseHeld book peerId operation).isNone)
    (haccept : appleRunAccept config env peerId operation
      { runtime with
        leases := book
        storedLeases := book } = (after, some answer)) (hleases : after.leases = book) :
    serve config env peerId (.appleRun operation) runtime = (after, some answer) := by
  obtain ⟨leased, hleased⟩ : ∃ leased : Runtime, leased =
      { runtime with
        leases := book
        storedLeases := book } := ⟨_, rfl⟩
  have hrequest : appleRun config env peerId operation runtime
      = (leased.fly (.leased peerId operation), none) := by
    rw [appleRun_of_mutates hvalid hmutates, appleRunLease_of_works operation hworks hbook,
      if_neg hlease, hleased]
  have hfirst : handle config env (.request peerId (.appleRun operation)) runtime
      = (leased.fly (.leased peerId operation), none) := by
    rw [handle_of_free hholder hrecovery]
    change (if (appleRun config env peerId operation runtime).1.leases.nextId ≤ u64Max then
      appleRun config env peerId operation runtime else _) = _
    rw [hrequest, hleased]
    exact if_pos hnext
  -- the second section finds its flight, and takes it away
  have hsecond : perform config env (.resume (.leased peerId operation))
      (leased.fly (.leased peerId operation)) = (after, some answer) := by
    rw [perform_resume List.mem_cons_self (by rw [hleased]; exact hholder)]
    have hlanded : ({ leased.fly (.leased peerId operation) with
        flights := (leased.fly (.leased peerId operation)).flights.erase (.leased peerId operation) } :
          Runtime) = leased := by
      rw [Runtime.fly, List.erase_cons_head]
    rw [hlanded, hleased]
    exact haccept
  unfold serve
  dsimp only
  rw [hfirst, if_pos (by rw [hleased]; rfl)]
  unfold handle
  rw [hsecond, if_pos (by rw [hleases]; exact hnext)]

theorem nextId_of_serve (hholder : runtime.holder = none)
    (hrecovery : runtime.state.recoveryError = none)
    (h : (serve config env peerId (.appleRun operation) runtime).2 = some answer) :
    (appleRun config env peerId operation runtime).1.leases.nextId ≤ u64Max := by
  by_contra hnext
  have hhandle : handle config env (.request peerId (.appleRun operation)) runtime
      = (runtime, none) := by
    rw [handle_of_free hholder hrecovery]
    exact if_neg hnext
  unfold serve at h
  dsimp only at h
  rw [hhandle, if_neg List.ne_cons_self] at h
  cases h

/-- **A job can be asked for again.** -/
theorem idempotent_appleRun (hworks : env.Works) (hagain : again.Works)
    (hlater : env.instant ≤ again.instant) (hholder : runtime.holder = none)
    (hrecovery : runtime.state.recoveryError = none)
    (hanswer : (serve config env peerId (.appleRun operation) runtime).2 = some answer)
    (hlapse : (serve config env peerId (.appleRun operation) runtime).1.leases.expire
        again.orders.active again.nowMs
      = (serve config env peerId (.appleRun operation) runtime).1.leases) :
    Idempotent config env again peerId (.appleRun operation) runtime := by
  have hnext := nextId_of_serve hholder hrecovery hanswer
  cases hvalid : validateRequestEnvelope operation with
  | error error =>
    have hrefused : ∀ env, appleRun config env peerId operation runtime
        = (runtime, some (errorResponse error.code)) := by
      intro env
      unfold appleRun
      rw [hvalid]
    rw [hrefused] at hnext
    exact idempotent_of_serve
      (serve_appleRun_answered runtime hholder hrecovery (hrefused env) rfl hnext)
      (serve_appleRun_answered runtime hholder hrecovery (hrefused again) rfl hnext) rfl
  | ok =>
    cases hmutates : operation.operation.mutatesDevice with
    | false =>
      have hplain : ∀ env runtime, appleRun config env peerId operation runtime
          = appleRunAccept config env peerId operation runtime := by
        intro env runtime
        unfold appleRun
        rw [hvalid]
        dsimp only
        rw [if_neg (by rw [hmutates]; exact Bool.false_ne_true)]
      obtain ⟨state, storedState, answer', honce, htwice, hkeeps⟩ :=
        appleRunAccept_again config peerId operation runtime hworks hlater hrecovery
      rw [hplain, honce] at hnext
      have hfirst := serve_appleRun_answered runtime hholder hrecovery ((hplain env runtime).trans honce) rfl
        hnext
      have hsecond := serve_appleRun_answered
        { runtime with
          state
          storedState } hholder hkeeps ((hplain again _).trans (htwice runtime.flights)) rfl hnext
      exact idempotent_of_serve hfirst hsecond rfl
    | true =>
      obtain ⟨book, hbook⟩ : ∃ book, runtime.leases.expire env.orders.active env.nowMs = book :=
        ⟨_, rfl⟩
      rw [appleRun_of_mutates hvalid hmutates, appleRunLease_of_works operation hworks hbook] at hnext
      by_cases hlease : (leaseHeld book peerId operation).isNone
      · have hrefused : ∀ {env : Env} {runtime : Runtime}, env.Works →
            runtime.leases.expire env.orders.active env.nowMs = book →
            appleRun config env peerId operation runtime
              = ({ runtime with
                    leases := book
                    storedLeases := book }, some (errorResponse "lease_inactive")) := by
          intro env runtime hworks hbook
          rw [appleRun_of_mutates hvalid hmutates, appleRunLease_of_works operation hworks hbook,
            if_pos hlease]
        rw [if_pos hlease] at hnext
        have honce := serve_appleRun_answered runtime hholder hrecovery (hrefused hworks hbook) rfl hnext
        rw [honce] at hlapse
        have htwice := serve_appleRun_answered
          { runtime with
            leases := book
            storedLeases := book } hholder hrecovery (hrefused hagain hlapse) rfl hnext
        exact idempotent_of_serve honce htwice rfl
      · obtain ⟨state, storedState, answer', honce, htwice, hkeeps⟩ :=
          appleRunAccept_again config peerId operation
            { runtime with
              leases := book
              storedLeases := book } hworks hlater hrecovery
        rw [if_neg hlease] at hnext
        have hfirst := serve_appleRun_leased runtime hworks hholder hrecovery hvalid hmutates hbook hnext
          hlease honce rfl
        rw [hfirst] at hlapse
        have hsecond := serve_appleRun_leased
          { runtime with
            state
            leases := book
            storedState
            storedLeases := book } hagain hholder hkeeps hvalid hmutates hlapse hnext hlease
          (htwice runtime.flights) rfl
        exact idempotent_of_serve hfirst hsecond rfl

/-! ### Requests of a daemon -/

theorem holder_of_serve (h : (serve config env peerId req runtime).2 = some answer) :
    runtime.holder = none := by
  by_contra hheld
  have hhandle := handle_of_held (Option.ne_none_iff_isSome.1 hheld) config env peerId req
  have hserve : serve config env peerId req runtime = (runtime, none) := by
    cases req with
    | appleRun =>
      unfold serve
      dsimp only
      rw [hhandle, if_neg List.ne_cons_self]
    | _ => exact hhandle
  rw [hserve] at h
  cases h

theorem nextId_runInputs (config : Config) (inputs : List Input) :
    (Runtime.empty.runInputs config inputs).leases.nextId ≤ u64Max := by
  have hstep : ∀ (runtime : Runtime) (input : Input), runtime.leases.nextId ≤ u64Max →
      (runtime.next config input).leases.nextId ≤ u64Max := by
    intro runtime input h
    cases input with
    | event env event =>
      change (handle config env event runtime).1.leases.nextId ≤ u64Max
      unfold handle
      split
      · assumption
      · exact h
    | start =>
      unfold Runtime.next
      dsimp only
      split
      · assumption
      · exact h
  exact (Runs.always_of_step (I := fun runtime : Runtime => runtime.leases.nextId ≤ u64Max) hstep (Nat.zero_le _)
    inputs).last

/-- **A request is idempotent exactly where it is repeatable**: in every state that the registry can be
in, when nothing comes to an end between the two. -/
theorem idempotent_iff (config : Config) (inputs : List Input) {env again : Env} {peerId : String}
    {req : Request} (hsent : req.isSent = true) (hworks : env.Works) (hagain : again.Works)
    (hlater : env.instant ≤ again.instant) {answer : Response}
    (hanswer : (serve config env peerId req (Runtime.empty.runInputs config inputs)).2 = some answer)
    (hlapse : (serve config env peerId req
        (Runtime.empty.runInputs config inputs)).1.leases.expire again.orders.active again.nowMs
      = (serve config env peerId req (Runtime.empty.runInputs config inputs)).1.leases) :
    Idempotent config env again peerId req (Runtime.empty.runInputs config inputs) ↔
      Repeatable env peerId (Runtime.empty.runInputs config inputs) req := by
  have hordered := ordered_runInputs config inputs
  have hnext := nextId_runInputs config inputs
  generalize Runtime.empty.runInputs config inputs = runtime at hordered hnext hanswer hlapse ⊢
  have hholder := holder_of_serve hanswer
  have hrefused : runtime.state.recoveryError.isSome → readOnlyDuringRecovery req = false →
      Idempotent config env again peerId req runtime := by
    intro hrecovery hreq
    obtain ⟨error, hrecovery⟩ := Option.isSome_iff_exists.1 hrecovery
    exact idempotent_of_recovery hholder hrecovery hreq hnext
  -- what is asked for is refused, or it is looked at
  have hcases : ∀ {P : Prop}, readOnlyDuringRecovery req = false →
      (runtime.state.recoveryError = none → (Idempotent config env again peerId req runtime ↔ P)) →
        (Idempotent config env again peerId req runtime ↔ runtime.state.recoveryError.isSome ∨ P) := by
    intro P hreq hiff
    cases hrecovery : runtime.state.recoveryError with
    | none => exact (hiff hrecovery).trans (by simp)
    | some error => exact iff_of_true (hrefused (by rw [hrecovery]; rfl) hreq) (.inl rfl)
  cases req with
  | list =>
    exact iff_of_true (idempotent_of_reads (fun env => listHosts config env runtime) rfl
      (fun _ => rfl) (fun _ _ => rfl) hholder hnext) trivial
  | events jobId after =>
    exact iff_of_true (idempotent_of_reads _ rfl (fun _ => rfl) (fun _ _ => rfl) hholder hnext) trivial
  | appleRun operation =>
    refine iff_of_true ?_ trivial
    cases hrecovery : runtime.state.recoveryError with
    | none => exact idempotent_appleRun hworks hagain hlater hholder hrecovery hanswer hlapse
    | some error => exact hrefused (by rw [hrecovery]; rfl) rfl
  | appleCancel jobId =>
    exact hcases rfl fun hrecovery => idempotent_cancel_iff hworks hagain hholder hrecovery hnext
  | lease operation =>
    cases operation with
    | acquire deviceId lifetimeMs =>
      exact hcases rfl fun hrecovery =>
        idempotent_acquire_iff runtime hworks hagain hholder hrecovery hanswer hlapse
    | release leaseId =>
      exact hcases rfl fun hrecovery =>
        idempotent_release_iff hordered hworks hagain hholder hrecovery hanswer hlapse
    | _ => cases hsent
  | _ => cases hsent

omit [Sha256] in
/-- The cancellation of a job that has been given out can be sent again. -/
theorem idempotent_sample : letI := sampleHash
    Idempotent sampleConfig sampleEnv sampleEnv "client" (.appleCancel sampleAppleId)
      (Runtime.empty.runInputs sampleConfig (eventInputs sampleAppleSteps)) := by
  let _ := sampleHash
  have hrun : Runtime.empty.runInputs sampleConfig (eventInputs sampleAppleSteps) = sampleDispatched := by
    rw [runInputs_eventInputs, foldl_sampleAppleSteps]
  have hworks : sampleEnv.Works := ⟨rfl, rfl⟩
  have hafter : ∃ after, serve sampleConfig sampleEnv "client" (.appleCancel sampleAppleId)
      (Runtime.empty.runInputs sampleConfig (eventInputs sampleAppleSteps)) = (after, some response) ∧
        after.leases.expire sameOrder 0 = after.leases := by
    rw [hrun]
    exact ⟨sampleCancelled, handle_sampleCancel, rfl⟩
  have hrepeatable : Repeatable sampleEnv "client"
      (Runtime.empty.runInputs sampleConfig (eventInputs sampleAppleSteps))
        (.appleCancel sampleAppleId) := by
    rw [hrun]
    exact .inr fun _ _ => Finset.mem_insert_self _ _
  obtain ⟨after, honce, hlapse⟩ := hafter
  have hanswer := congrArg Prod.snd honce
  refine (idempotent_iff sampleConfig (eventInputs sampleAppleSteps) rfl hworks hworks (Nat.le_refl _)
    hanswer ?_).2 hrepeatable
  rw [honce]
  exact hlapse

/-- Whatever the registry does, a request that is sent again does nothing and is answered alike. -/
def AlwaysIdempotent : Prop :=
  ∀ (config : Config) (inputs : List Input) (env again : Env) (peerId : String) (req : Request),
    req.isSent = true → env.Works → again.Works → env.instant ≤ again.instant →
    ∀ answer, (serve config env peerId req (Runtime.empty.runInputs config inputs)).2 = some answer →
      (serve config env peerId req
          (Runtime.empty.runInputs config inputs)).1.leases.expire again.orders.active again.nowMs
        = (serve config env peerId req (Runtime.empty.runInputs config inputs)).1.leases →
      Idempotent config env again peerId req (Runtime.empty.runInputs config inputs)

omit [Sha256] in
/-- A client whose lease has been granted, and who asks for it again, is refused. -/
theorem not_alwaysIdempotent : ¬ ∃ _ : Sha256, AlwaysIdempotent := by
  rintro ⟨hash, h⟩
  have hworks : sampleEnv.Works := ⟨rfl, rfl⟩
  have hrun : Runtime.empty.runInputs sampleConfig [] = Runtime.empty := rfl
  have hlapses : (Runtime.empty.saved sampleLeases).leases.expire sampleEnv.orders.active sampleEnv.nowMs
      = (Runtime.empty.saved sampleLeases).leases := rfl
  have hfree : Runtime.empty.leases.expire sampleEnv.orders.active sampleEnv.nowMs = LeaseBook.empty := rfl
  obtain ⟨answer, hgranted⟩ := lease_sampleAcquire Runtime.empty.state.devicePeers
  have honce : serve sampleConfig sampleEnv "client" (.lease (.acquire "phone" 1000)) Runtime.empty
      = (Runtime.empty.saved sampleLeases, some answer) :=
    serve_lease Runtime.empty hworks rfl rfl hgranted (Nat.le_of_ble_eq_true rfl)
  have hanswer := congrArg Prod.snd honce
  have hlapse : (serve sampleConfig sampleEnv "client" (.lease (.acquire "phone" 1000))
        Runtime.empty).1.leases.expire sampleEnv.orders.active sampleEnv.nowMs
      = (serve sampleConfig sampleEnv "client" (.lease (.acquire "phone" 1000))
        Runtime.empty).1.leases := by
    rw [honce]
    exact hlapses
  have hiff := idempotent_acquire_iff Runtime.empty hworks hworks rfl rfl hanswer hlapse
  rw [hfree] at hiff
  refine Bool.false_ne_true (hiff.1 ?_)
  rw [← hrun] at hanswer hlapse ⊢
  exact h sampleConfig [] sampleEnv sampleEnv "client" (.lease (.acquire "phone" 1000)) rfl hworks hworks
    (Nat.le_refl _) answer hanswer hlapse

end

end Registry
