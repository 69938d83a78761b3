/-
**What answers hand out.**

Most answers of the registry say what has become of a request, and hand out neither a job nor a lease.
Apple jobs are handed out at the end of heartbeats, with a lease where a device is to be changed, and
leases are handed out to clients that ask for them.

Main definitions:

* `Registry.Plain` — an answer that hands out neither.

Main results:

* `Registry.plain_handle` — **all answers are plain, but those of heartbeats and of lease requests**.
-/

import DeviceLane.Registry.Dispatch
import DeviceLane.Registry.LeaseQueue

namespace Registry

variable {answer : Response} {env : Env} {runtime : Runtime} {config : Config}

/-! ### Plain answers -/

def Response.Plain (answer : Response) : Prop :=
  answer.appleOperation = none ∧ answer.leaseGrant = none

def Plain (result : Option Response) : Prop := ∀ answer, result = some answer → answer.Plain

theorem plain_none : Plain none := fun answer h => (by cases h)

theorem plain_some (happle : answer.appleOperation = none) (hgrant : answer.leaseGrant = none) :
    Plain (some answer) := by
  intro _ h
  obtain rfl := Option.some.inj h
  exact ⟨happle, hgrant⟩

theorem plain_storeStateOrPanic (runtime : Runtime) (env : Env) (happle : answer.appleOperation = none)
    (hgrant : answer.leaseGrant = none) : Plain (runtime.storeStateOrPanic env answer).2 := by
  unfold Runtime.storeStateOrPanic
  dsimp only
  split
  · exact plain_some happle hgrant
  · exact plain_none

theorem plain_heartbeatInventory (config : Config) (env : Env) (peerId : String)
    (host : Dashboard.HostSnapshot) (runtime : Runtime) :
    Plain (heartbeatInventory config env peerId host runtime).2 := by
  unfold heartbeatInventory
  split
  · exact plain_some rfl rfl
  · split
    · exact plain_some rfl rfl
    · split
      · exact plain_some rfl rfl
      · dsimp only
        split
        · exact plain_none
        · exact plain_some rfl rfl

theorem plain_completeJob (env : Env) (jobId artifact : String) (events : List NetworkEvent)
    (runtime : Runtime) : Plain (completeJob env jobId artifact events runtime).2 := by
  unfold completeJob
  split
  · exact plain_some rfl rfl
  · exact plain_storeStateOrPanic _ env rfl rfl

theorem plain_appleProgress (env : Env) (peerId jobId : String) (events : List NetworkEvent)
    (terminal : Bool) (runtime : Runtime) :
    Plain (appleProgress env peerId jobId events terminal runtime).2 := by
  unfold appleProgress
  split
  · exact plain_some rfl rfl
  · split
    · unfold progressTerminal
      dsimp only
      split
      · exact plain_none
      · exact plain_some rfl rfl
    · unfold progressOngoing
      dsimp only
      split
      · exact plain_some rfl rfl
      · split
        · exact plain_some rfl rfl
        · split
          · exact plain_some rfl rfl
          · split
            · exact plain_none
            · exact plain_some rfl rfl

theorem plain_appleCancel (env : Env) (peerId jobId : String) (runtime : Runtime) :
    Plain (appleCancel env peerId jobId runtime).2 := by
  unfold appleCancel
  split
  · exact plain_some rfl rfl
  · split
    · exact plain_some rfl rfl
    · exact plain_storeStateOrPanic _ env rfl rfl

theorem plain_settle (env : Env) (runtime : Runtime) (holder : Holder) :
    Plain (settle env runtime holder).2 := by
  cases holder with
  | reconciling | rollingBack => exact plain_some rfl rfl
  | storingLeases =>
    unfold settle
    dsimp only
    split
    · exact plain_some rfl rfl
    · exact plain_some rfl rfl
  | panicked => exact plain_none

theorem plain_readArtifact (store : NetworkArtifacts) (peerId artifactId : String)
    (offset length totalSize : ℕ) (sha256 : String) (access : FileAccess) :
    Plain (some (store.read peerId artifactId offset length totalSize sha256 access)) := by
  unfold NetworkArtifacts.read
  split
  · exact plain_some rfl rfl
  · split
    · exact plain_some rfl rfl
    · split
      · exact plain_some rfl rfl
      · split
        · exact plain_some rfl rfl
        · split
          · exact plain_some rfl rfl
          · split
            · exact plain_some rfl rfl
            · exact plain_some rfl rfl

theorem plain_artifactInfo (store : NetworkArtifacts) (peerId artifactId : String) :
    Plain (some (store.info peerId artifactId)) := by
  unfold NetworkArtifacts.info
  split
  · exact plain_some rfl rfl
  · split
    · exact plain_some rfl rfl
    · split
      · exact plain_some rfl rfl
      · exact plain_some rfl rfl

theorem plain_registerStore (store : NetworkArtifacts) (metadata : NetworkArtifactMetadata)
    (participants : Finset String) (indexWrite : DiskWrite) :
    Plain (some (store.register metadata participants indexWrite).1) := by
  unfold NetworkArtifacts.register
  dsimp only
  split
  · exact plain_some rfl rfl
  · exact plain_some rfl rfl

theorem plain_replay (store : NetworkArtifacts) (entry : NetworkArtifact) (artifactId : String)
    (offset : ℕ) (bytes : List UInt8) (access : FileAccess) (indexWrite : DiskWrite) :
    Plain (store.replay entry artifactId offset bytes access indexWrite).1 := by
  unfold NetworkArtifacts.replay
  split
  · exact plain_none
  · split
    · exact plain_some rfl rfl
    · split
      · exact plain_some rfl rfl
      · dsimp only
        split
        · exact plain_some rfl rfl
        · exact plain_some rfl rfl

section

variable [Sha256]

theorem plain_append (store : NetworkArtifacts) (entry : NetworkArtifact) (artifactId : String)
    (bytes : List UInt8) (access : FileAccess) (indexWrite : DiskWrite) :
    Plain (some (store.append entry artifactId bytes access indexWrite).1) := by
  unfold NetworkArtifacts.append
  split
  · exact plain_some rfl rfl
  · dsimp only
    split
    · unfold NetworkArtifacts.confirm
      dsimp only
      split
      · exact plain_some rfl rfl
      · split
        · split
          · exact plain_some rfl rfl
          · exact plain_some rfl rfl
        · dsimp only
          split
          · exact plain_some rfl rfl
          · exact plain_some rfl rfl
    · exact plain_some rfl rfl

theorem plain_writeArtifact (store : NetworkArtifacts) (peerId artifactId : String) (offset : ℕ)
    (write : ArtifactWrite) (access : FileAccess) (indexWrite : DiskWrite) :
    Plain (store.write peerId artifactId offset write access indexWrite).1 := by
  unfold NetworkArtifacts.write
  split
  · exact plain_some rfl rfl
  · split
    · exact plain_some rfl rfl
    · split
      · exact plain_some rfl rfl
      · split
        · exact plain_some rfl rfl
        · split
          · exact plain_some rfl rfl
          · split
            · exact plain_replay _ _ _ _ _ _ _
            · split
              · exact plain_some rfl rfl
              · exact plain_append _ _ _ _ _ _

theorem plain_appleRunAccept (config : Config) (env : Env) (peerId : String) (operation : AppleRequest)
    (runtime : Runtime) : Plain (appleRunAccept config env peerId operation runtime).2 := by
  unfold appleRunAccept
  split
  · split
    · exact plain_some rfl rfl
    · exact plain_some rfl rfl
  · split
    · exact plain_some rfl rfl
    · exact plain_storeStateOrPanic _ env rfl rfl

theorem plain_request (config : Config) (env : Env) (peerId : String) (runtime : Runtime)
    {req : Request} (h : ∀ operation, req ≠ .lease operation) :
    Plain (request config env peerId runtime req).2 := by
  cases req with
  | heartbeat host => exact plain_heartbeatInventory config env peerId host runtime
  | complete jobId artifact events => exact plain_completeJob env jobId artifact events runtime
  | list => exact plain_some rfl rfl
  | authenticateDashboardAccess assertion =>
    change Plain (some (authenticateDashboardAccess config peerId assertion))
    unfold authenticateDashboardAccess
    split
    · exact plain_some rfl rfl
    · split
      · exact plain_some rfl rfl
      · exact plain_some rfl rfl
  | run operation =>
    change Plain (run env operation runtime).2
    unfold run
    split
    · exact plain_some rfl rfl
    · split
      · exact plain_some rfl rfl
      · split
        · exact plain_some rfl rfl
        · dsimp only
          split
          · exact plain_none
          · exact plain_none
  | events jobId after =>
    change Plain (some (runtime.state.recoveryError.elim (jobEvents runtime.state jobId after)
      errorResponse))
    cases runtime.state.recoveryError with
    | none | some => exact plain_some rfl rfl
  | appleRun operation =>
    change Plain (appleRun config env peerId operation runtime).2
    unfold appleRun
    split
    · exact plain_some rfl rfl
    · split
      · unfold appleRunLease
        dsimp only
        split
        · exact plain_some rfl rfl
        · split
          · exact plain_some rfl rfl
          · exact plain_none
      · exact plain_appleRunAccept config env peerId operation runtime
  | appleProgress jobId events terminal =>
    exact plain_appleProgress env peerId jobId events terminal runtime
  | appleCancel jobId => exact plain_appleCancel env peerId jobId runtime
  | artifactRegister jobId name mediaType totalSize sha256 =>
    change Plain (registerArtifact peerId jobId name mediaType totalSize sha256 runtime).2
    unfold registerArtifact registration
    split
    · rename_i answer herror
      split at herror
      · cases herror
        exact plain_some rfl rfl
      · split at herror
        · cases herror
          exact plain_some rfl rfl
        · cases herror
    · exact plain_none
  | artifactWrite =>
    exact plain_writeArtifact _ _ _ _ _ _ _
  | artifactRead => exact plain_readArtifact _ _ _ _ _ _ _ _
  | artifactInfo => exact plain_artifactInfo _ _ _
  | lease operation => exact absurd rfl (h operation)

theorem plain_resume (config : Config) (env : Env) (runtime : Runtime) {flight : Flight}
    (h : ∀ hostId, flight ≠ .online hostId) : Plain (resume config env runtime flight).2 := by
  cases flight with
  | inventoried host =>
    change Plain (heartbeatExpire env host runtime).2
    unfold heartbeatExpire
    dsimp only
    split
    · exact plain_none
    · exact plain_some rfl rfl
  | expired => exact plain_none
  | online hostId => exact absurd rfl (h hostId)
  | leased peerId operation => exact plain_appleRunAccept config env peerId operation runtime
  | registering => exact plain_registerStore _ _ _ _
  | running jobId =>
    change Plain (runWait jobId runtime).2
    unfold runWait
    split
    · exact plain_some rfl rfl
    · exact plain_some rfl rfl

/-- **All answers are plain, but those of heartbeats and of lease requests.** -/
theorem plain_handle (config : Config) (env : Env) (runtime : Runtime) {event : Event}
    (hlease : ∀ peerId operation, event ≠ .request peerId (.lease operation))
    (hdispatch : ∀ hostId, event ≠ .resume (.online hostId)) :
    Plain (handle config env event runtime).2 := by
  have hperform : Plain (perform config env event runtime).2 := by
    cases event with
    | request peerId req =>
      have hreq : ∀ operation, req ≠ .lease operation := by
        rintro operation rfl
        exact hlease peerId operation rfl
      unfold perform
      dsimp only
      split
      · exact plain_none
      · split
        · exact plain_request config env peerId runtime hreq
        · split
          · exact plain_request config env peerId runtime hreq
          · exact plain_some rfl rfl
    | resume =>
      unfold perform
      dsimp only
      split
      · exact plain_none
      · refine plain_resume config env _ fun hostId heq => ?_
        exact hdispatch hostId (congrArg _ heq)
    | settle =>
      unfold perform
      dsimp only
      split
      · exact plain_none
      · exact plain_settle env runtime _
  unfold handle
  split
  · exact hperform
  · exact plain_none

end

/-! ### Leases for clients -/

section

variable {agentPeers : Finset String} {devicePeers : Map String String} {hash : KeyOrder String}
  {peerId : String} {operation : LeaseRequest} {nowMs : ℕ} {book : LeaseBook}

theorem plain_of_answered {answer : Response}
    (h : (book.apply agentPeers devicePeers hash peerId operation nowMs).1 = .answered answer) :
    answer.Plain := by
  have hplain : ∀ {response : Response}, response.Plain → LeaseBook.Reply.answered response
      = .answered answer → answer.Plain := by
    intro response hresponse heq
    cases heq
    exact hresponse
  have hrelease : ∀ leaseId status, (book.release hash peerId leaseId status nowMs).1 = .answered answer →
      answer.Plain := by
    intro leaseId status heq
    unfold LeaseBook.release at heq
    split at heq
    · exact hplain ⟨rfl, rfl⟩ heq
    · exact hplain ⟨rfl, rfl⟩ heq
  cases operation with
  | acquire deviceId lifetimeMs =>
    change (book.acquire peerId deviceId lifetimeMs nowMs).1 = _ at h
    unfold LeaseBook.acquire at h
    split at h
    · exact hplain ⟨rfl, rfl⟩ h
    · cases h
  | queue deviceId lifetimeMs =>
    change (book.queue peerId deviceId lifetimeMs nowMs).1 = _ at h
    unfold LeaseBook.queue at h
    split at h
    · split at h
      · cases h
      · split at h
        · exact hplain ⟨rfl, rfl⟩ h
        · exact hplain ⟨rfl, rfl⟩ h
    · cases h
  | renew leaseId lifetimeMs =>
    change (book.renew hash peerId leaseId lifetimeMs nowMs).1 = _ at h
    unfold LeaseBook.renew at h
    split at h
    · exact hplain ⟨rfl, rfl⟩ h
    · cases h
  | release leaseId => exact hrelease leaseId "released" h
  | revoke leaseId => exact hrelease leaseId "revoked" h
  | validate =>
    change LeaseBook.Reply.answered (if _ then if _ then _ else _ else _) = _ at h
    split at h
    · split at h
      · exact hplain ⟨rfl, rfl⟩ h
      · exact hplain ⟨rfl, rfl⟩ h
    · exact hplain ⟨rfl, rfl⟩ h
  | disconnect => exact hplain ⟨rfl, rfl⟩ h
  | agentDetach =>
    change (if _ then _ else _ : LeaseBook.Reply × LeaseBook).1 = _ at h
    split at h
    · exact hplain ⟨rfl, rfl⟩ h
    · exact hplain ⟨rfl, rfl⟩ h

/-- **The leases that clients may get**: a new one, or one of their own, which they renew or queue for. -/
theorem granted_cases {leaseId status : String}
    (h : (book.apply agentPeers devicePeers hash peerId operation nowMs).1 = .granted leaseId status) :
    leaseId = leaseIdOf (book.nextId + 1) ∨
      ∃ deviceId lease lifetimeMs, book.active.lookup deviceId = some lease ∧ lease.id = leaseId ∧
        lease.clientId = peerId ∧
          (operation = .renew leaseId lifetimeMs ∨ operation = .queue deviceId lifetimeMs) := by
  have hrelease : ∀ lease status', (book.release hash peerId lease status' nowMs).1
      ≠ .granted leaseId status := by
    intro lease status' heq
    unfold LeaseBook.release at heq
    split at heq
    · cases heq
    · cases heq
  cases operation with
  | acquire deviceId lifetimeMs =>
    change (book.acquire peerId deviceId lifetimeMs nowMs).1 = _ at h
    unfold LeaseBook.acquire at h
    split at h
    · cases h
    · cases h
      exact .inl rfl
  | queue deviceId lifetimeMs =>
    change (book.queue peerId deviceId lifetimeMs nowMs).1 = _ at h
    unfold LeaseBook.queue at h
    split at h
    · rename_i active hactive
      split at h
      · rename_i hclient
        cases h
        exact .inr ⟨deviceId, active, lifetimeMs, hactive, rfl, hclient, .inr rfl⟩
      · split at h
        · cases h
        · cases h
    · cases h
      exact .inl rfl
  | renew renewed lifetimeMs =>
    change (book.renew hash peerId renewed lifetimeMs nowMs).1 = _ at h
    unfold LeaseBook.renew at h
    split at h
    · cases h
    · rename_i key lease howned
      obtain ⟨hlookup, hid, hclient⟩ := LeaseBook.ownedLease_eq_some howned
      cases h
      refine .inr ⟨key, lease, lifetimeMs, hlookup, rfl, hclient, .inl ?_⟩
      rw [hid]
  | release lease => exact absurd h (hrelease lease "released")
  | revoke lease => exact absurd h (hrelease lease "revoked")
  | validate =>
    change LeaseBook.Reply.answered _ = _ at h
    cases h
  | disconnect => cases h
  | agentDetach =>
    change (if _ then _ else _ : LeaseBook.Reply × LeaseBook).1 = _ at h
    split at h
    · cases h
    · cases h

theorem leaseRequest_answer {config : Config} {env : Env} {runtime : Runtime} {answer : Response}
    (h : (leaseRequest config env peerId operation runtime).2 = some answer) :
    answer.Plain ∨ ∃ leaseId status grant,
      ((runtime.leases.expire env.orders.active env.nowMs).apply config.agentPeers
        runtime.state.devicePeers env.orders.active peerId operation env.nowMs).1
          = .granted leaseId status ∧
      answer.appleOperation = none ∧ answer.leaseGrant = some grant ∧ grant.leaseId = leaseId := by
  unfold leaseRequest at h
  split at h
  · cases h
  · rename_i response devicePeers leases hlease
    have hcases : answer = persistenceFailed ∨ answer = response := by
      dsimp only at h
      split at h
      · exact .inl (Option.some.inj h).symm
      · split at h
        · exact .inr (Option.some.inj h).symm
        · exact .inl (Option.some.inj h).symm
    rcases hcases with rfl | rfl
    · exact .inl ⟨rfl, rfl⟩
    · unfold lease at hlease
      dsimp only at hlease
      split at hlease
      · rename_i response hreply
        cases hlease
        exact .inl (plain_of_answered hreply)
      · rename_i leaseId status hreply
        obtain ⟨entry, hentry, heq⟩ := Option.map_eq_some_iff.1 hlease
        cases heq
        have hfound := List.find?_some hentry
        have hid : entry.2.id = leaseId := of_decide_eq_true hfound
        exact .inr ⟨leaseId, status, _, hreply, rfl, rfl, hid⟩

end

/-! ### Jobs and leases for agents -/

theorem LeaseBook.leaseOf_eq_some {book : LeaseBook} {deviceId leaseId : String}
    {clientId : Option String} {lease : DeviceLease}
    (h : book.leaseOf deviceId leaseId clientId = some lease) :
    book.active.lookup deviceId = some lease ∧ lease.id = leaseId ∧ clientId = some lease.clientId := by
  obtain ⟨hlookup, hlease⟩ := Option.filter_eq_some_iff.1 h
  rw [Bool.and_eq_true, decide_eq_true_eq, decide_eq_true_eq] at hlease
  exact ⟨hlookup, hlease.1, hlease.2⟩

def HandsOut (answer : Response) (operation : AppleRequest) (leases : LeaseBook)
    (clientId : Option String) : Prop :=
  answer.appleOperation = some operation ∧
    (leaseNeeded operation = none ∧ answer.leaseGrant = none ∨
      ∃ deviceId leaseId lease grant, leaseNeeded operation = some (deviceId, leaseId) ∧
        leases.leaseOf deviceId leaseId clientId = some lease ∧ answer.leaseGrant = some grant ∧
          grant.leaseId = leaseId)

section

variable [Sha256] {config : Config} {env : Env} {runtime : Runtime}

theorem handle_request_answer {peerId : String} {req : Request} {answer : Response}
    (h : (handle config env (.request peerId req) runtime).2 = some answer) :
    (∃ error, answer = errorResponse error) ∨
      (request config env peerId runtime req).2 = some answer ∧
        (handle config env (.request peerId req) runtime).1
          = (request config env peerId runtime req).1 := by
  unfold handle at h ⊢
  split at h
  · rename_i hnext
    rw [if_pos hnext]
    unfold perform at h ⊢
    dsimp only at h ⊢
    split at h
    · cases h
    · rename_i hholder
      rw [if_neg hholder]
      split at h
      · rename_i hread
        rw [if_pos hread]
        exact .inr ⟨h, rfl⟩
      · rename_i hread
        rw [if_neg hread]
        split at h
        · exact .inr ⟨h, rfl⟩
        · exact .inl ⟨_, (Option.some.inj h).symm⟩
  · cases h

theorem handle_online_answer {hostId : String} {answer : Response}
    (h : (handle config env (.resume (.online hostId)) runtime).2 = some answer) :
    (heartbeatDispatch config env hostId
      { runtime with flights := runtime.flights.erase (.online hostId) }).2 = some answer := by
  unfold handle at h
  split at h
  · unfold perform at h
    dsimp only at h
    split at h
    · cases h
    · exact h
  · cases h

end

theorem heartbeatAnswer_answer {response : Response}
    (h : (heartbeatAnswer env response runtime).2 = some answer) :
    answer.Plain ∨ answer.appleOperation = response.appleOperation ∧
      answer.leaseGrant = response.leaseGrant ∧ answer.jobId = response.jobId := by
  rcases heartbeatAnswer_cases env response runtime with
    ⟨hanswer, -⟩ | ⟨hanswer, -, -⟩ | ⟨_, hanswer, -, -⟩
  · obtain rfl := Option.some.inj (hanswer.symm.trans h)
    exact .inr ⟨rfl, rfl, rfl⟩
  · obtain rfl := Option.some.inj (hanswer.symm.trans h)
    exact .inl ⟨rfl, rfl⟩
  · rw [hanswer] at h
    cases h

/-- An answer hands out a job under its name, with a grant that has been signed for it. -/
structure Gives (config : Config) (env : Env) (answer : Response) (jobId : String)
    (operation : AppleRequest) (leases : LeaseBook) (clientId : Option String) : Prop where
  handsOut : HandsOut answer operation leases clientId
  job : answer.jobId = some jobId
  signed : ∀ grant, answer.leaseGrant = some grant →
    ∃ deviceId leaseId lease, leaseNeeded operation = some (deviceId, leaseId) ∧
      leases.leaseOf deviceId leaseId clientId = some lease ∧
        grant = grantOf config.sign lease jobId env.nowMs

theorem dispatchApple_answer {jobId : String} {operation : AppleRequest} {response : Response}
    (hplain : response.Plain)
    (h : (dispatchApple config env jobId operation response runtime).2 = some answer) :
    answer.Plain ∨ Gives config env answer jobId operation
      (runtime.leases.expire env.orders.active env.nowMs) (runtime.state.jobClients.lookup jobId) := by
  unfold dispatchApple at h
  split at h
  · rename_i hneeds
    refine (heartbeatAnswer_answer h).imp_right ?_
    rintro ⟨hoperation, hgrant, hjob⟩
    have hnone := hgrant.trans hplain.2
    refine ⟨⟨hoperation, .inl ⟨hneeds, hnone⟩⟩, hjob, fun grant hsome => ?_⟩
    cases hnone.symm.trans hsome
  · rename_i deviceId leaseId hneeds
    dsimp only at h
    split at h
    · refine (heartbeatAnswer_answer h).elim .inl ?_
      rintro ⟨hoperation, hgrant, -⟩
      exact .inl ⟨hoperation.trans hplain.1, hgrant.trans hplain.2⟩
    · rename_i lease hlease
      split at h
      · refine (heartbeatAnswer_answer h).imp_right ?_
        rintro ⟨hoperation, hgrant, hjob⟩
        refine ⟨⟨hoperation, .inr ⟨deviceId, leaseId, lease, _, hneeds, hlease, hgrant,
          (LeaseBook.leaseOf_eq_some hlease).2.1⟩⟩, hjob, fun grant hsome => ?_⟩
        exact ⟨deviceId, leaseId, lease, hneeds, hlease, Option.some.inj (hsome.symm.trans hgrant)⟩
      · obtain rfl := Option.some.inj h
        exact .inl ⟨rfl, rfl⟩

/-- **The jobs and leases that agents may get**: the Apple job that comes next, with the lease that it
needs. -/
theorem heartbeatDispatch_answer {hostId : String}
    (h : (heartbeatDispatch config env hostId runtime).2 = some answer) :
    answer.Plain ∨ ∃ jobId operation,
      runtime.state.nextApple runtime.leases env.orders hostId = some (jobId, operation) ∧
        Gives config env answer jobId operation (runtime.leases.expire env.orders.active env.nowMs)
          (runtime.state.jobClients.lookup jobId) := by
  unfold heartbeatDispatch at h
  dsimp only at h
  generalize hrun : runtime.state.nextRun env.orders hostId = job at h
  have hplain : (job.elim response fun job =>
      { response with
        operation := some job.2
        jobId := some job.1 }).Plain := by
    cases job with
    | none | some => exact ⟨rfl, rfl⟩
  have hclients : (job.elim runtime.state fun job => runtime.state.dispatch job.1).jobClients
      = runtime.state.jobClients := by
    cases job with
    | none | some => rfl
  split at h
  · refine (heartbeatAnswer_answer h).elim .inl ?_
    rintro ⟨hoperation, hgrant, -⟩
    exact .inl ⟨hoperation.trans hplain.1, hgrant.trans hplain.2⟩
  · rename_i jobId operation hnext
    refine (dispatchApple_answer hplain h).imp_right fun hgives => ⟨jobId, operation, hnext, ?_⟩
    rw [← hclients]
    exact hgives

end Registry
