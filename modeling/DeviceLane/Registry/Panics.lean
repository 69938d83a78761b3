/-
**When the registry panics.**

A panic in the thread of one connection stops the whole registry. A request panics where the state
cannot be written, where a lease that was to be granted is not there, where the position behind a chunk is
no number of 64 bits, and where the leases run out of numbers. Where everything can be written, only the
last one can happen: a lease takes one number, and a client that waits will take one later, so that the
numbers last for as many requests for leases as there are numbers.

Main definitions:

* `Registry.LeaseBook.tickets` — the numbers that are taken, or will be by those who wait.

Main results:

* `Registry.withstands_of_works` — **no peer can stop the registry** until the numbers of the leases end.
-/

import DeviceLane.Registry.Retries

namespace Registry

open Dashboard (saturatingAdd u64Max)

variable {before : Runtime} {input : Input} {n : ℕ}

/-! ### The numbers of the leases -/

namespace LeaseBook

def tickets (book : LeaseBook) : ℕ := book.nextId + book.waiting.length

theorem tickets_promote (book : LeaseBook) (deviceId : String) (nowMs : ℕ) :
    (book.promote deviceId nowMs).tickets = book.tickets := by
  unfold promote
  cases hfirst : book.waiting.find? fun waiting => waiting.deviceId = deviceId with
  | none => rfl
  | some =>
    have hlength := List.length_eraseP_add_one (List.mem_of_find?_eq_some hfirst)
      (List.find?_some hfirst)
    change book.nextId + 1 + (book.waiting.eraseP _).length = book.nextId + book.waiting.length
    omega

theorem tickets_releaseDeviceNow (book : LeaseBook) (deviceId : String) (nowMs : ℕ) :
    (book.releaseDeviceNow deviceId nowMs).tickets = book.tickets :=
  tickets_promote _ deviceId nowMs

@[simp] theorem tickets_releaseDevice (book : LeaseBook) (deviceId : String) (nowMs : ℕ) :
    (book.releaseDevice deviceId nowMs).tickets = book.tickets := by
  unfold releaseDevice
  split
  · rfl
  · exact tickets_releaseDeviceNow book deviceId nowMs

@[simp] theorem tickets_releaseDevices (book : LeaseBook) (deviceIds : List String) (nowMs : ℕ) :
    (book.releaseDevices deviceIds nowMs).tickets = book.tickets := by
  unfold releaseDevices
  induction deviceIds generalizing book with
  | nil => rfl
  | cons deviceId deviceIds ih => rw [List.foldl_cons, ih, tickets_releaseDevice]

@[simp] theorem tickets_expire (book : LeaseBook) (hash : KeyOrder String) (nowMs : ℕ) :
    (book.expire hash nowMs).tickets = book.tickets :=
  tickets_releaseDevices book _ nowMs

theorem tickets_forceReleaseDevice (book : LeaseBook) (deviceId : String) (nowMs : ℕ) :
    (book.forceReleaseDevice deviceId nowMs).tickets = book.tickets :=
  tickets_releaseDeviceNow _ deviceId nowMs

theorem tickets_detachInventory (book : LeaseBook) (deviceId : String) (nowMs : ℕ) :
    (book.detachInventory deviceId nowMs).tickets = book.tickets := by
  unfold detachInventory
  rw [tickets_releaseDevice]
  split <;> rfl

@[simp] theorem tickets_finishWriter (book : LeaseBook) (deviceId : String) (nowMs : ℕ) :
    (book.finishWriter deviceId nowMs).tickets = book.tickets := by
  unfold finishWriter
  dsimp only
  split
  · exact tickets_releaseDevice _ deviceId nowMs
  · rfl

theorem tickets_finishWriters (book : LeaseBook) (deviceIds : List String) (nowMs : ℕ) :
    (deviceIds.foldl (fun book deviceId => book.finishWriter deviceId nowMs) book).tickets
      = book.tickets :=
  List.foldlRecOn _ _ (motive := fun after : LeaseBook => after.tickets = book.tickets) rfl
    fun after h deviceId _ => (tickets_finishWriter after deviceId nowMs).trans h

def takes : LeaseRequest → ℕ
  | .acquire _ _ => 1
  | .queue _ _ => 1
  | _ => 0

theorem tickets_apply_le (book : LeaseBook) (agentPeers : Finset String)
    (devicePeers : Map String String) (hash : KeyOrder String) (peerId : String)
    (operation : LeaseRequest) (nowMs : ℕ) :
    (book.apply agentPeers devicePeers hash peerId operation nowMs).2.tickets
      ≤ book.tickets + takes operation := by
  have hinsert : ∀ deviceId lifetimeMs,
      (book.insert deviceId peerId lifetimeMs nowMs).tickets = book.tickets + 1 := by
    intro deviceId lifetimeMs
    change book.nextId + 1 + book.waiting.length = book.nextId + book.waiting.length + 1
    omega
  cases operation with
  | acquire deviceId lifetimeMs =>
    change (book.acquire peerId deviceId lifetimeMs nowMs).2.tickets ≤ book.tickets + 1
    unfold acquire
    split
    · exact Nat.le_succ _
    · exact (hinsert deviceId lifetimeMs).le
  | queue deviceId lifetimeMs =>
    change (book.queue peerId deviceId lifetimeMs nowMs).2.tickets ≤ book.tickets + 1
    unfold queue
    split
    · split
      · exact Nat.le_succ _
      · split
        · exact Nat.le_succ _
        · change book.nextId + (book.waiting ++ [_]).length ≤ book.nextId + book.waiting.length + 1
          rw [List.length_append, List.length_singleton]
          omega
    · exact (hinsert deviceId lifetimeMs).le
  | renew leaseId lifetimeMs =>
    change (book.renew hash peerId leaseId lifetimeMs nowMs).2.tickets ≤ book.tickets
    unfold renew
    split <;> exact Nat.le_refl _
  | release leaseId =>
    change (book.release hash peerId leaseId "released" nowMs).2.tickets ≤ book.tickets
    unfold release
    split
    · exact Nat.le_refl _
    · exact (tickets_releaseDevice book _ nowMs).le
  | revoke leaseId =>
    change (book.release hash peerId leaseId "revoked" nowMs).2.tickets ≤ book.tickets
    unfold release
    split
    · exact Nat.le_refl _
    · exact (tickets_releaseDevice book _ nowMs).le
  | validate => exact Nat.le_refl _
  | disconnect =>
    -- The client leaves the queue, and gives its tickets back.
    change (releaseDevices _ _ nowMs).tickets ≤ book.tickets
    rw [tickets_releaseDevices]
    exact Nat.add_le_add_left (List.length_filter_le _ _) _
  | agentDetach deviceId =>
    rw [apply]
    split
    · exact (tickets_forceReleaseDevice book deviceId nowMs).le
    · exact Nat.le_refl _

theorem active_of_granted {book : LeaseBook} {agentPeers : Finset String}
    {devicePeers : Map String String} {hash : KeyOrder String} {peerId : String}
    {operation : LeaseRequest} {nowMs : ℕ} {leaseId status : String}
    (h : (book.apply agentPeers devicePeers hash peerId operation nowMs).1 = .granted leaseId status) :
    ∃ key lease, (book.apply agentPeers devicePeers hash peerId operation nowMs).2.active.lookup key
      = some lease ∧ lease.id = leaseId := by
  have hinsert : ∀ deviceId lifetimeMs,
      ∃ key lease, (book.insert deviceId peerId lifetimeMs nowMs).active.lookup key = some lease ∧
        lease.id = leaseIdOf (book.nextId + 1) := by
    intro deviceId lifetimeMs
    exact ⟨deviceId, _, Map.lookup_insert_self _ _ _, rfl⟩
  cases operation with
  | acquire deviceId lifetimeMs =>
    change (book.acquire peerId deviceId lifetimeMs nowMs).1 = _ at h
    change ∃ key lease, (book.acquire peerId deviceId lifetimeMs nowMs).2.active.lookup key = _ ∧ _
    unfold acquire at h ⊢
    split at h
    · cases h
    · rename_i hfree
      cases h
      rw [if_neg hfree]
      exact hinsert deviceId lifetimeMs
  | queue deviceId lifetimeMs =>
    change (book.queue peerId deviceId lifetimeMs nowMs).1 = _ at h
    change ∃ key lease, (book.queue peerId deviceId lifetimeMs nowMs).2.active.lookup key = _ ∧ _
    unfold queue at h ⊢
    cases hactive : book.active.lookup deviceId with
    | none =>
      rw [hactive] at h
      cases h
      exact hinsert deviceId lifetimeMs
    | some active =>
      rw [hactive] at h
      dsimp only at h ⊢
      split at h
      · rename_i hown
        cases h
        rw [if_pos hown]
        exact ⟨deviceId, active, hactive, rfl⟩
      · split at h <;> cases h
  | renew leaseId lifetimeMs =>
    change (book.renew hash peerId leaseId lifetimeMs nowMs).1 = _ at h
    change ∃ key lease, (book.renew hash peerId leaseId lifetimeMs nowMs).2.active.lookup key = _ ∧ _
    unfold renew at h ⊢
    cases howned : book.ownedLease hash peerId leaseId with
    | none =>
      rw [howned] at h
      cases h
    | some owned =>
      rw [howned] at h
      cases h
      exact ⟨owned.1, _, Map.lookup_insert_self _ _ _, rfl⟩
  | release leaseId =>
    change (book.release hash peerId leaseId "released" nowMs).1 = _ at h
    unfold release at h
    split at h <;> cases h
  | revoke leaseId =>
    change (book.release hash peerId leaseId "revoked" nowMs).1 = _ at h
    unfold release at h
    split at h <;> cases h
  | validate | disconnect => cases h
  | agentDetach =>
    rw [apply] at h
    split at h <;> cases h

end LeaseBook

/-- **A lease that is to be granted is there.** -/
theorem lease_isSome (sign : List UInt8 → List UInt8) (agentPeers : Finset String)
    (hash : KeyOrder String) (operation : LeaseRequest) (peerId : String)
    (devicePeers : Map String String) (book : LeaseBook) (nowMs : ℕ) :
    (lease sign agentPeers hash operation peerId devicePeers book nowMs).isSome := by
  unfold lease
  dsimp only
  split
  · rfl
  · rename_i leaseId status hgranted
    obtain ⟨key, lease, hlookup, hid⟩ := LeaseBook.active_of_granted hgranted
    rw [Option.isSome_map, List.find?_isSome]
    exact ⟨(key, lease), Map.mem_entriesIn.2 hlookup, by simpa using hid⟩

/-! ### The positions in the artifacts -/

namespace NetworkArtifacts

variable {store : NetworkArtifacts}

structure Within (store : NetworkArtifacts) : Prop where
  entries : ∀ artifactId entry, store.entries.lookup artifactId = some entry →
    entry.confirmedOffset ≤ i64Max
  index : ∀ artifactId entry, store.index.lookup artifactId = some entry →
    entry.confirmedOffset ≤ i64Max

theorem within_empty : empty.Within where
  entries artifactId entry hlookup := by cases hlookup
  index artifactId entry hlookup := by cases hlookup

theorem Within.persist (h : store.Within) (write : DiskWrite) : (store.persist write).Within := by
  unfold NetworkArtifacts.persist
  split
  · exact ⟨h.entries, h.entries⟩
  · exact h

theorem Within.insert (h : store.Within) {artifactId : String} {entry : NetworkArtifact}
    (hentry : entry.confirmedOffset ≤ i64Max) :
    Within { store with entries := store.entries.insert artifactId entry } := by
  refine ⟨fun other entry' hlookup => ?_, h.index⟩
  rcases eq_or_ne other artifactId with rfl | hne
  · rw [Map.lookup_insert_self] at hlookup
    cases hlookup
    exact hentry
  · rw [Map.lookup_insert_ne hne] at hlookup
    exact h.entries other entry' hlookup

theorem Within.register (h : store.Within) (metadata : NetworkArtifactMetadata)
    (participants : Finset String) (indexWrite : DiskWrite) :
    (store.register metadata participants indexWrite).2.Within := by
  refine Within.persist (Within.insert h ?_) indexWrite
  cases hentry : store.entries.lookup metadata.id with
  | none => exact Nat.zero_le _
  | some entry => exact h.entries metadata.id entry hentry

theorem le_of_putChunk {access : FileAccess} {file : DiskFile} {offset : ℕ} {bytes : List UInt8}
    (h : (putChunk access file offset bytes).1 = true) : offset + bytes.length ≤ i64Max := by
  unfold putChunk at h
  split at h
  · cases h
  · split at h
    · cases h
    · dsimp only at h
      split at h
      · cases h
      · rename_i hsize
        exact Nat.le_of_not_lt fun hlt => hsize (.inr hlt)

theorem Within.restart (h : store.Within) (debris : String → List UInt8) :
    (store.restart debris).Within :=
  ⟨h.index, h.index⟩

variable [Sha256]

theorem Within.append (h : store.Within) (entry : NetworkArtifact) (artifactId : String)
    (bytes : List UInt8) (access : FileAccess) (indexWrite : DiskWrite) :
    (store.append entry artifactId bytes access indexWrite).2.Within := by
  unfold NetworkArtifacts.append
  dsimp only
  split
  · exact h
  · split
    · rename_i hput
      unfold NetworkArtifacts.confirm
      dsimp only
      split
      · exact ⟨h.entries, h.index⟩
      · split
        · split <;> exact ⟨h.entries, h.index⟩
        · refine Within.persist (Within.insert ?_ (le_of_putChunk hput)) indexWrite
          exact ⟨h.entries, h.index⟩
    · exact ⟨h.entries, h.index⟩

/-- What an upload is: it is refused, a chunk is sent again, or the next chunk comes. -/
theorem write_cases (store : NetworkArtifacts) (peerId artifactId : String) (offset : ℕ)
    (write : ArtifactWrite) (access : FileAccess) (indexWrite : DiskWrite) :
    (∃ response, store.write peerId artifactId offset write access indexWrite = (some response, store)) ∨
      ∃ entry, store.entries.lookup artifactId = some entry ∧
        (offset < entry.confirmedOffset ∧ write.bytes.length ≤ maxArtifactChunk ∧
          store.write peerId artifactId offset write access indexWrite
            = store.replay entry artifactId offset write.bytes access indexWrite ∨
        ∃ result, result = store.append entry artifactId write.bytes access indexWrite ∧
          store.write peerId artifactId offset write access indexWrite = (some result.1, result.2)) := by
  unfold NetworkArtifacts.write
  split
  · exact .inl ⟨_, rfl⟩
  · rename_i entry hentry
    split
    · exact .inl ⟨_, rfl⟩
    · split
      · exact .inl ⟨_, rfl⟩
      · split
        · exact .inl ⟨_, rfl⟩
        · rename_i hlength
          split
          · exact .inl ⟨_, rfl⟩
          · split
            · rename_i hbefore
              have hshort : write.bytes.length ≤ maxArtifactChunk :=
                Nat.le_of_not_lt fun hlt => hlength (.inr (.inl hlt))
              exact .inr ⟨entry, hentry, .inl ⟨hbefore, hshort, rfl⟩⟩
            · split
              · exact .inl ⟨_, rfl⟩
              · exact .inr ⟨entry, hentry, .inr ⟨_, rfl, rfl⟩⟩

theorem Within.write (h : store.Within) (peerId artifactId : String) (offset : ℕ)
    (write : ArtifactWrite) (access : FileAccess) (indexWrite : DiskWrite) :
    (store.write peerId artifactId offset write access indexWrite).2.Within := by
  rcases write_cases store peerId artifactId offset write access indexWrite with
    ⟨_, hrefused⟩ | ⟨entry, -, ⟨-, -, hreplay⟩ | ⟨_, rfl, happend⟩⟩
  · rw [hrefused]
    exact h
  · rw [hreplay]
    unfold NetworkArtifacts.replay
    split
    · exact h
    · split
      · exact h
      · split
        · exact h
        · exact h.persist indexWrite
  · rw [happend]
    exact h.append entry artifactId write.bytes access indexWrite

/-- **The position behind a chunk is a number**: a chunk is short, and begins within the file. -/
theorem Within.write_isSome (h : store.Within) (peerId artifactId : String) (offset : ℕ)
    (write : ArtifactWrite) (access : FileAccess) (indexWrite : DiskWrite) :
    (store.write peerId artifactId offset write access indexWrite).1.isSome := by
  rcases write_cases store peerId artifactId offset write access indexWrite with
    ⟨_, hrefused⟩ | ⟨entry, hentry, ⟨_, hshort, hreplay⟩ | ⟨_, -, happend⟩⟩
  · rw [hrefused]
    rfl
  · have hwithin := h.entries artifactId entry hentry
    have hfits : ¬u64Max < offset + write.bytes.length := by
      unfold maxArtifactChunk at hshort
      unfold i64Max at hwithin
      unfold u64Max
      omega
    rw [hreplay]
    unfold NetworkArtifacts.replay
    rw [if_neg hfits]
    split
    · rfl
    · split <;> rfl
  · rw [happend]
    rfl

end NetworkArtifacts

/-! ### Sections -/

structure Calm (before after : Runtime) : Prop where
  holder : after.holder = some .panicked → before.holder = some .panicked
  artifacts : before.artifacts.Within → after.artifacts.Within

theorem Calm.of_eq {after : Runtime} (hholder : after.holder = before.holder)
    (hartifacts : after.artifacts = before.artifacts) : Calm before after :=
  ⟨fun h => hholder ▸ h, fun h => hartifacts ▸ h⟩

theorem Calm.refl (runtime : Runtime) : Calm runtime runtime := .of_eq rfl rfl

theorem Calm.hold {after : Runtime} (h : Calm before after) {holder : Holder}
    (hne : holder ≠ .panicked) : Calm before (after.hold holder) := by
  refine ⟨fun hpanicked => ?_, h.artifacts⟩
  exact absurd (Option.some.inj hpanicked) hne

@[simp] theorem artifacts_storeLeases (runtime : Runtime) (env : Env) :
    (runtime.storeLeases env).artifacts = runtime.artifacts := by
  unfold Runtime.storeLeases
  split <;> rfl

@[simp] theorem artifacts_storeState (runtime : Runtime) (env : Env) :
    (runtime.storeState env).artifacts = runtime.artifacts := by
  unfold Runtime.storeState
  split <;> rfl

theorem Calm.storeState {runtime : Runtime} (h : Calm before runtime) (env : Env) :
    Calm before (runtime.storeState env) := by
  refine ⟨?_, ?_⟩
  · rw [holder_storeState]
    exact h.holder
  · rw [artifacts_storeState]
    exact h.artifacts

theorem Calm.storeStateOrPanic {runtime : Runtime} (h : Calm before runtime) {env : Env}
    (hstores : runtime.storesState env) (response : Response) :
    Calm before (runtime.storeStateOrPanic env response).1 := by
  unfold Runtime.storeStateOrPanic
  dsimp only
  rw [if_pos hstores]
  exact h.storeState env

theorem Calm.heartbeatAnswer {runtime : Runtime} (h : Calm before runtime) (env : Env)
    (response : Response) : Calm before (heartbeatAnswer env response runtime).1 := by
  have hstored : Calm before (runtime.storeState env) := h.storeState env
  unfold Registry.heartbeatAnswer
  dsimp only
  split
  · exact hstored
  · split
    · exact hstored
    · refine Calm.hold ?_ ?_
      · exact ⟨hstored.holder, hstored.artifacts⟩
      · intro heq
        cases heq

variable {config : Config} {env : Env} {runtime : Runtime}

theorem calm_heartbeatDispatch (hostId : String) :
    Calm runtime (heartbeatDispatch config env hostId runtime).1 := by
  unfold heartbeatDispatch
  dsimp only
  split
  · refine Calm.heartbeatAnswer ?_ env _
    exact .of_eq rfl rfl
  · unfold dispatchApple
    split
    · refine Calm.heartbeatAnswer ?_ env _
      exact .of_eq rfl rfl
    · dsimp only
      split
      · refine Calm.heartbeatAnswer ?_ env _
        exact .of_eq rfl rfl
      · split
        · refine Calm.heartbeatAnswer ?_ env _
          exact .of_eq (holder_storeLeases _ env) (artifacts_storeLeases _ env)
        · exact .of_eq (holder_storeLeases _ env) (artifacts_storeLeases _ env)

theorem calm_appleProgress (h : runtime.storesState env) (peerId jobId : String)
    (events : List NetworkEvent) (terminal : Bool) :
    Calm runtime (appleProgress env peerId jobId events terminal runtime).1 := by
  unfold appleProgress
  split
  · exact .refl runtime
  · cases terminal with
    | true =>
      rw [if_pos rfl]
      unfold progressTerminal
      dsimp only
      split
      · refine Calm.hold ?_ ?_
        · exact .of_eq (holder_storeState _ env) (artifacts_storeState _ env)
        · intro heq
          cases heq
      · exact .of_eq (holder_storeState _ env) (artifacts_storeState _ env)
    | false =>
      rw [if_neg Bool.false_ne_true]
      unfold progressOngoing
      dsimp only
      split
      · exact .of_eq (holder_storeLeases _ env) (artifacts_storeLeases _ env)
      · split
        · exact .of_eq (holder_storeLeases _ env) (artifacts_storeLeases _ env)
        · split
          · exact .of_eq ((holder_storeState _ env).trans (holder_storeLeases _ env))
              ((artifacts_storeState _ env).trans (artifacts_storeLeases _ env))
          · rename_i hfailed
            refine absurd ⟨?_, h.2⟩ hfailed
            change (Runtime.storeLeases _ env).state.recoveryError = none
            rw [state_storeLeases]
            exact h.1

theorem calm_leaseRequest (peerId : String) (operation : LeaseRequest) :
    Calm runtime (leaseRequest config env peerId operation runtime).1 := by
  have hthere := lease_isSome config.sign config.agentPeers env.orders.active operation peerId
    runtime.state.devicePeers runtime.leases env.nowMs
  unfold leaseRequest
  split
  · rename_i hpanics
    rw [hpanics] at hthere
    cases hthere
  · dsimp only
    split
    · exact .of_eq (holder_storeLeases _ env) (artifacts_storeLeases _ env)
    · split <;> exact .of_eq ((holder_storeState _ env).trans (holder_storeLeases _ env))
        ((artifacts_storeState _ env).trans (artifacts_storeLeases _ env))

theorem calm_settle {holder : Holder} (hholder : runtime.holder = some holder) :
    Calm runtime (settle env runtime holder).1 := by
  cases holder with
  | reconciling | rollingBack | storingLeases =>
    exact ⟨fun h => (by cases h), fun h => (artifacts_storeLeases _ env).symm ▸ h⟩
  | panicked => exact .refl runtime

variable [Sha256]

theorem calm_appleRunAccept (h : runtime.storesState env) (peerId : String)
    (operation : AppleRequest) :
    Calm runtime (appleRunAccept config env peerId operation runtime).1 := by
  unfold appleRunAccept
  split
  · split <;> exact .refl runtime
  · split
    · exact .refl runtime
    · dsimp only
      refine Calm.storeStateOrPanic ?_ ?_ _
      · exact .of_eq rfl rfl
      · exact ⟨h.1, h.2⟩

theorem calm_appleRun (h : runtime.storesState env) (peerId : String) (operation : AppleRequest) :
    Calm runtime (appleRun config env peerId operation runtime).1 := by
  unfold appleRun
  split
  · exact .refl runtime
  · split
    · unfold appleRunLease
      dsimp only
      split
      · exact .of_eq (holder_storeLeases _ env) (artifacts_storeLeases _ env)
      · split <;> exact .of_eq (holder_storeLeases _ env) (artifacts_storeLeases _ env)
    · exact calm_appleRunAccept h peerId operation

theorem calm_run (h : runtime.storesState env) (operation : RunRequest) :
    Calm runtime (run env operation runtime).1 := by
  unfold run
  split
  · exact .refl runtime
  · split
    · exact .refl runtime
    · split
      · exact .refl runtime
      · dsimp only
        split
        · exact .of_eq (holder_storeState _ env) (artifacts_storeState _ env)
        · rename_i hfailed
          exact absurd ⟨h.1, h.2⟩ hfailed

/-- **No request panics**, where the state can be written. -/
theorem calm_request (h : runtime.storesState env) (peerId : String) (req : Request) :
    Calm runtime (request config env peerId runtime req).1 := by
  cases req with
  | heartbeat host =>
    change Calm runtime (heartbeatInventory config env peerId host runtime).1
    unfold heartbeatInventory
    split
    · exact .refl runtime
    · split
      · exact .refl runtime
      · split
        · exact .refl runtime
        · dsimp only
          split <;> exact .of_eq (holder_storeLeases _ env) (artifacts_storeLeases _ env)
  | complete jobId artifact events =>
    change Calm runtime (completeJob env jobId artifact events runtime).1
    unfold completeJob
    split
    · exact .refl runtime
    · refine Calm.storeStateOrPanic ?_ ?_ response
      · exact .of_eq rfl rfl
      · exact ⟨h.1, h.2⟩
  | run operation => exact calm_run h operation
  | appleRun operation => exact calm_appleRun h peerId operation
  | appleProgress jobId events terminal => exact calm_appleProgress h peerId jobId events terminal
  | appleCancel jobId =>
    change Calm runtime (appleCancel env peerId jobId runtime).1
    unfold appleCancel
    split
    · exact .refl runtime
    · split
      · exact .refl runtime
      · dsimp only
        refine Calm.storeStateOrPanic ?_ ?_ response
        · exact .of_eq rfl rfl
        · refine ⟨?_, h.2⟩
          change (if _ then _ else _ : DurableState).recoveryError = none
          split <;> exact h.1
  | lease operation => exact calm_leaseRequest peerId operation
  | artifactRegister jobId name mediaType totalSize sha256 =>
    change Calm runtime (registerArtifact peerId jobId name mediaType totalSize sha256 runtime).1
    unfold registerArtifact
    split
    · exact .refl runtime
    · exact .of_eq rfl rfl
  | artifactWrite artifactId offset =>
    exact ⟨id, fun hwithin => hwithin.write peerId artifactId offset _ env.access env.artifactsWrite⟩
  | _ => exact .refl runtime

theorem calm_resume (h : runtime.storesState env) (flight : Flight) :
    Calm runtime (resume config env runtime flight).1 := by
  cases flight with
  | inventoried host =>
    change Calm runtime (heartbeatExpire env host runtime).1
    unfold heartbeatExpire
    dsimp only
    split <;> exact .of_eq (holder_storeLeases _ env) (artifacts_storeLeases _ env)
  | expired => exact .of_eq rfl rfl
  | online hostId => exact calm_heartbeatDispatch hostId
  | leased peerId operation => exact calm_appleRunAccept h peerId operation
  | registering metadata participants =>
    exact ⟨id, fun hwithin => hwithin.register metadata participants env.artifactsWrite⟩
  | running jobId =>
    change Calm runtime (runWait jobId runtime).1
    unfold runWait
    split <;> exact .refl runtime

theorem calm_perform (h : runtime.storesState env) (event : Event) :
    Calm runtime (perform config env event runtime).1 := by
  cases event with
  | request peerId req =>
    unfold perform
    dsimp only
    split
    · exact .refl runtime
    · split
      · exact calm_request h peerId req
      · split
        · exact calm_request h peerId req
        · exact .refl runtime
  | resume flight =>
    unfold perform
    dsimp only
    split
    · exact .refl runtime
    · have hstores : Runtime.storesState
          { runtime with flights := runtime.flights.erase flight } env := ⟨h.1, h.2⟩
      have hcalm : Calm _ (resume config env _ flight).1 := calm_resume hstores flight
      exact ⟨hcalm.holder, hcalm.artifacts⟩
  | settle =>
    unfold perform
    dsimp only
    split
    · exact .refl runtime
    · rename_i holder hholder
      exact calm_settle hholder

/-! ### Tickets -/

omit [Sha256] in
theorem Locked.tickets_inventory (locked : Locked) (orders : Orders) (nowMs : ℕ)
    (peerId hostId : String) (connected : List String) :
    (locked.inventory orders nowMs peerId hostId connected).leases.tickets
      = locked.leases.tickets :=
  List.foldlRecOn _ _ (motive := fun after : Locked => after.leases.tickets = _) rfl
    fun after h deviceId _ => (LeaseBook.tickets_detachInventory after.leases deviceId nowMs).trans h

omit [Sha256] in
theorem tickets_restoreAcknowledgedWriter (state : DurableState) (leases : LeaseBook) (orders : Orders)
    (nowMs : ℕ) (jobId : String) :
    (restoreAcknowledgedWriter state leases orders nowMs jobId).2.tickets = leases.tickets := by
  have hexpire := LeaseBook.tickets_expire leases orders.active nowMs
  unfold restoreAcknowledgedWriter
  split
  · rfl
  · split
    · rfl
    · dsimp only
      split
      · split
        · exact hexpire
        · split
          · split <;> exact hexpire
          · exact hexpire
      · exact hexpire

def Event.takes : Event → ℕ
  | .request _ (.lease operation) => LeaseBook.takes operation
  | _ => 0

/-- **An event takes at most one ticket**, and that for a request for a lease. -/
theorem tickets_change {event : Event} {state : DurableState} {leases : LeaseBook}
    (h : Change config env event runtime state leases) :
    leases.tickets ≤ runtime.leases.tickets + event.takes := by
  have hexpire := LeaseBook.tickets_expire runtime.leases env.orders.active env.nowMs
  cases h with
  | inventory hevent hagent howner hlocked =>
    have hleases := congrArg (fun locked => locked.leases.tickets) hlocked
    dsimp only at hleases
    rw [hleases, Locked.tickets_inventory]
    exact Nat.le_add_right _ _
  | expire | reject | grant => exact hexpire.le.trans (Nat.le_add_right _ _)
  | reconcile hholder hstate hleases =>
    rw [hleases, LeaseBook.tickets_finishWriters]
    exact Nat.le_add_right _ _
  | terminal hevent hagent hstate hleases =>
    rw [hleases, LeaseBook.tickets_finishWriters]
    exact Nat.le_add_right _ _
  | restore | ongoing =>
    rw [tickets_restoreAcknowledgedWriter]
    exact Nat.le_add_right _ _
  | lease hevent =>
    rw [hevent]
    refine (LeaseBook.tickets_apply_le _ _ _ _ _ _ _).trans ?_
    rw [hexpire]
    rfl
  | _ => exact Nat.le_add_right _ _

/-! ### Runs -/

/-- What is written is stored, and what has been stored can be read. -/
def Input.Works : Input → Prop
  | .event env _ => env.Works
  | .start env again unreadable _ => env.Works ∧ again = .stored ∧ unreadable = none

def Input.Overruns (config : Config) (runtime : Runtime) : Input → Prop
  | .event env ev => u64Max < (perform config env ev runtime).1.leases.nextId
  | .start env again unreadable debris =>
    u64Max < (Registry.start env again unreadable debris runtime).leases.nextId

/-- **The thread panics**: the leases run out of numbers; the state cannot be written, or a lease that
was to be granted is not there; or the position behind a chunk is no number. -/
def Input.Panics (config : Config) (runtime : Runtime) : Input → Prop
  | .event env ev =>
    u64Max < (perform config env ev runtime).1.leases.nextId ∨
      (perform config env ev runtime).1.holder = some .panicked ∨
      ∃ peerId artifactId offset totalSize sha256 chunkSha256 bytes,
        ev = .request peerId
          (.artifactWrite artifactId offset totalSize sha256 chunkSha256 bytes) ∧
        (runtime.artifacts.write peerId artifactId offset ⟨totalSize, sha256, chunkSha256, bytes⟩
          env.access env.artifactsWrite).1 = none
  | .start env again unreadable debris =>
    u64Max < (Registry.start env again unreadable debris runtime).leases.nextId ∨
      (Registry.start env again unreadable debris runtime).holder = some .panicked

def Runtime.HasNumbers (runtime : Runtime) : Input → Prop
  | .event _ event => runtime.leases.tickets + event.takes ≤ u64Max
  | .start _ _ _ _ => runtime.storedLeases.tickets ≤ u64Max

def Input.takes : Input → ℕ
  | .event _ ev => ev.takes
  | .start _ _ _ _ => 0

structure Runtime.Sane (runtime : Runtime) : Prop where
  recovery : runtime.state.recoveryError = none
  holder : runtime.holder ≠ some .panicked
  artifacts : runtime.artifacts.Within

omit [Sha256] in
theorem sane_empty : Runtime.empty.Sane where
  recovery := rfl
  holder h := by cases h
  artifacts := NetworkArtifacts.within_empty

omit [Sha256] in
theorem sane_start (h : env.Works) (debris : String → List UInt8) (hwithin : runtime.artifacts.Within) :
    (start env .stored none debris runtime).Sane := by
  have hartifacts : (loaded env none debris runtime).artifacts.Within := hwithin.restart debris
  have hfound : ((loaded env none debris runtime).storeLeases env).Sane := by
    refine ⟨?_, ?_, ?_⟩
    · rw [state_storeLeases]
      rfl
    · rw [holder_storeLeases]
      intro hpanicked
      cases hpanicked
    · rw [artifacts_storeLeases]
      exact hartifacts
  unfold start
  dsimp only
  rw [if_neg (not_not.2 h.leases)]
  split
  · exact hfound
  · generalize hlocked : Runtime.setLocked _ _ = changed
    have hchanged : changed.Sane := by
      rw [← hlocked]
      refine ⟨?_, hfound.holder, hfound.artifacts⟩
      exact (read_of_core DurableState.recoveryError (fun _ => rfl)
        (Locked.core_finishWriters _ _ env.nowMs)).trans hfound.recovery
    rw [if_neg (not_not.2 (show changed.storesState env from ⟨hchanged.recovery, h.state⟩)),
      if_neg (not_not.2 rfl)]
    refine ⟨?_, ?_, ?_⟩
    · rw [state_storeLeases, state_storeState]
      exact hchanged.recovery
    · rw [holder_storeLeases, holder_storeState]
      exact hchanged.holder
    · rw [artifacts_storeLeases, artifacts_storeState]
      exact hchanged.artifacts

theorem Runtime.Sane.perform (h : runtime.Sane) (hworks : env.Works) (event : Event) :
    (perform config env event runtime).1.Sane := by
  have hcalm : Calm runtime (Registry.perform config env event runtime).1 :=
    calm_perform ⟨h.recovery, hworks.state⟩ event
  refine ⟨?_, fun hpanicked => h.holder (hcalm.holder hpanicked), hcalm.artifacts h.artifacts⟩
  exact (recoveryError_change (perform_change config env event runtime)).trans h.recovery

/-- **The registry stays sane**, whatever its peers ask for. -/
theorem Runtime.Sane.next (h : runtime.Sane) (hworks : input.Works) :
    (runtime.next config input).Sane := by
  cases input with
  | event env event =>
    change (handle config env event runtime).1.Sane
    unfold handle
    split
    · exact h.perform hworks event
    · exact h
  | start env again unreadable debris =>
    obtain ⟨henv, rfl, rfl⟩ := hworks
    change (if _ then _ else _ : Runtime).Sane
    split
    · exact sane_start henv debris h.artifacts
    · exact h

/-- **Only the numbers of the leases can run out.** -/
theorem Runtime.Sane.panics_iff (h : runtime.Sane) (hworks : input.Works) :
    input.Panics config runtime ↔ input.Overruns config runtime := by
  cases input with
  | event env event =>
    refine ⟨?_, Or.inl⟩
    rintro (hoverruns | hpanicked | ⟨peerId, artifactId, offset, totalSize, sha256, chunkSha256, bytes,
      -, hnone⟩)
    · exact hoverruns
    · exact absurd hpanicked (h.perform hworks event).holder
    · have hsome := h.artifacts.write_isSome peerId artifactId offset
        ⟨totalSize, sha256, chunkSha256, bytes⟩ env.access env.artifactsWrite
      rw [hnone] at hsome
      cases hsome
  | start env again unreadable debris =>
    obtain ⟨henv, rfl, rfl⟩ := hworks
    refine ⟨?_, Or.inl⟩
    rintro (hoverruns | hpanicked)
    · exact hoverruns
    · exact absurd hpanicked (sane_start henv debris h.artifacts).holder

theorem Runtime.HasNumbers.not_overruns (h : runtime.HasNumbers input) :
    ¬input.Overruns config runtime := by
  cases input with
  | event env event =>
    have htickets := tickets_change (perform_change config env event runtime)
    have hnumbers : runtime.leases.tickets + event.takes ≤ u64Max := h
    change ¬u64Max < (Registry.perform config env event runtime).1.leases.nextId
    unfold LeaseBook.tickets at htickets hnumbers
    omega
  | start env again unreadable debris =>
    obtain ⟨_, -, hleases, -⟩ := start_cases env again unreadable debris runtime
    have htickets : (start env again unreadable debris runtime).leases.tickets
        = runtime.storedLeases.tickets := by
      rw [hleases, LeaseBook.tickets_finishWriters, LeaseBook.tickets_expire]
    have hnumbers : runtime.storedLeases.tickets ≤ u64Max := h
    change ¬u64Max < (start env again unreadable debris runtime).leases.nextId
    rw [← htickets] at hnumbers
    unfold LeaseBook.tickets at hnumbers
    omega

structure Runtime.TicketsLe (runtime : Runtime) (n : ℕ) : Prop where
  leases : runtime.leases.tickets ≤ n
  stored : runtime.storedLeases.tickets ≤ n

theorem Runtime.TicketsLe.next (h : runtime.TicketsLe n) (input : Input) :
    (runtime.next config input).TicketsLe (n + input.takes) := by
  cases input with
  | event env event =>
    have htickets := tickets_change (handle_change config env event runtime)
    have hleases : (handle config env event runtime).1.leases.tickets ≤ n + event.takes :=
      htickets.trans (Nat.add_le_add_right h.leases _)
    refine ⟨hleases, ?_⟩
    change (handle config env event runtime).1.storedLeases.tickets ≤ n + event.takes
    rcases (handle_stores config env event runtime).leases with hsame | hsame
    · rw [hsame]
      exact h.stored.trans (Nat.le_add_right _ _)
    · rw [hsame]
      exact hleases
  | start env again unreadable debris =>
    change (if _ then _ else _ : Runtime).TicketsLe n
    split
    · obtain ⟨_, -, hleases, -, hstored⟩ := start_cases env again unreadable debris runtime
      have hexpired : (runtime.storedLeases.expire env.orders.active env.nowMs).tickets ≤ n :=
        (LeaseBook.tickets_expire _ _ _).le.trans h.stored
      have hfinished : (start env again unreadable debris runtime).leases.tickets ≤ n := by
        rw [hleases, LeaseBook.tickets_finishWriters]
        exact hexpired
      refine ⟨hfinished, ?_⟩
      rcases hstored with hsame | hsame | hsame
      · rw [hsame]
        exact h.stored
      · rw [hsame]
        exact hexpired
      · rw [hsame]
        exact hfinished
    · exact h

theorem allSteps_hasNumbers (h : runtime.TicketsLe n) {inputs : List Input}
    (hfew : n + (inputs.map Input.takes).sum ≤ u64Max) :
    Runs.AllSteps (Runtime.next config) Runtime.HasNumbers inputs runtime := by
  induction inputs generalizing runtime n with
  | nil => trivial
  | cons input inputs ih =>
    rw [List.map_cons, List.sum_cons] at hfew
    refine ⟨?_, ih (h.next input) (by omega)⟩
    cases input with
    | event env event =>
      have hleases := h.leases
      change runtime.leases.tickets + event.takes ≤ u64Max
      change n + (event.takes + _) ≤ u64Max at hfew
      omega
    | start => exact h.stored.trans (by omega)

/-- **The registry withstands its peers** in a run. -/
structure Withstands (config : Config) (inputs : List Input) : Prop where
  /-- A step panics exactly if the leases run out of numbers. -/
  panics_iff : Runs.AllSteps (Runtime.next config)
    (fun runtime input => input.Panics config runtime ↔ input.Overruns config runtime) inputs .empty
  /-- No step panics as long as there are numbers for all tickets. -/
  calm : Runs.AllSteps (Runtime.next config) Runtime.HasNumbers inputs .empty →
    Runs.AllSteps (Runtime.next config) (fun runtime input => ¬input.Panics config runtime) inputs .empty
  /-- There are, for as many requests for leases as there are numbers. -/
  few : (inputs.map Input.takes).sum ≤ u64Max →
    Runs.AllSteps (Runtime.next config) Runtime.HasNumbers inputs .empty

/-- **No peer can stop the registry** until the numbers of the leases end. -/
theorem withstands_of_works (config : Config) (inputs : List Input)
    (hworks : ∀ input ∈ inputs, input.Works) : Withstands config inputs := by
  have hworking : Runs.AllSteps (Runtime.next config) (fun _ input => input.Works) inputs .empty :=
    Runs.allSteps_of_mem (fun _ input hmem => hworks input hmem) _
  have hpanics : Runs.AllSteps (Runtime.next config)
      (fun runtime input => input.Panics config runtime ↔ input.Overruns config runtime) inputs
      .empty := by
    refine hworking.imp (I := Runtime.Sane) (fun runtime input hsane hworks => ?_) sane_empty
    exact ⟨hsane.next hworks, hsane.panics_iff hworks⟩
  refine ⟨hpanics, fun hnumbers => ?_, fun hfew => ?_⟩
  · refine (hpanics.and hnumbers).mono fun runtime input _ h => ?_
    exact fun hpanic => h.2.not_overruns (h.1.1 hpanic)
  · have hempty : Runtime.empty.TicketsLe 0 := ⟨Nat.le_refl _, Nat.le_refl _⟩
    exact allSteps_hasNumbers hempty (by rwa [Nat.zero_add])

/-! ### A client that takes all numbers -/

def sampleAcquire : Input := .event sampleEnv (.request "client" (.lease (.acquire "phone" 0)))

def spentBook (n : ℕ) : LeaseBook :=
  { LeaseBook.empty with
    nextId := n
    active := if n = 0 then ∅ else Map.insert ∅ "phone" ⟨leaseIdOf n, "phone", "client", 0⟩ }

structure Spent (n : ℕ) (runtime : Runtime) : Prop where
  recovery : runtime.state.recoveryError = none
  holder : runtime.holder = none
  leases : runtime.leases = spentBook n

omit [Sha256] in
theorem apply_spentBook (n : ℕ) (devicePeers : Map String String) :
    (((spentBook n).expire sameOrder 0).apply sampleConfig.agentPeers devicePeers sameOrder "client"
      (.acquire "phone" 0) 0).2 = spentBook (n + 1) := by
  cases n <;> rfl

theorem Spent.perform (h : Spent n runtime) :
    Spent (n + 1) (perform sampleConfig sampleEnv (.request "client" (.lease (.acquire "phone" 0)))
      runtime).1 := by
  have hrequest : Registry.perform sampleConfig sampleEnv
      (.request "client" (.lease (.acquire "phone" 0))) runtime
        = leaseRequest sampleConfig sampleEnv "client" (.acquire "phone" 0) runtime := by
    unfold Registry.perform
    dsimp only
    rw [h.holder, h.recovery]
    rfl
  have hthere := lease_isSome sampleConfig.sign sampleConfig.agentPeers sampleEnv.orders.active
    (.acquire "phone" 0) "client" runtime.state.devicePeers runtime.leases sampleEnv.nowMs
  rw [hrequest]
  unfold leaseRequest
  split
  · rename_i hpanics
    rw [hpanics] at hthere
    cases hthere
  · rename_i answer devicePeers leases hlease
    have hbook : leases = spentBook (n + 1) := by
      rw [lease_eq_some hlease, h.leases]
      exact apply_spentBook n _
    dsimp only
    rw [if_neg (show ¬sampleEnv.leasesWrite ≠ .stored from fun h => h rfl)]
    have hstores : Runtime.storesState (Runtime.storeLeases { runtime with
        state := { runtime.state with devicePeers }
        leases } sampleEnv) sampleEnv := by
      refine ⟨?_, rfl⟩
      rw [state_storeLeases]
      exact h.recovery
    rw [if_pos hstores]
    refine ⟨?_, ?_, ?_⟩
    · rw [state_storeState, state_storeLeases]
      exact h.recovery
    · rw [holder_storeState, holder_storeLeases]
      exact h.holder
    · rw [leases_storeState, leases_storeLeases]
      exact hbook

theorem Spent.next (h : Spent n runtime) (hn : n + 1 ≤ u64Max) :
    Spent (n + 1) (runtime.next sampleConfig sampleAcquire) := by
  change Spent (n + 1) (handle sampleConfig sampleEnv _ runtime).1
  unfold handle
  split
  · exact h.perform
  · rename_i hoverruns
    refine absurd ?_ hoverruns
    rw [h.perform.leases]
    exact hn

theorem Spent.panics (h : Spent u64Max runtime) : sampleAcquire.Panics sampleConfig runtime := by
  refine Or.inl ?_
  rw [h.perform.leases]
  exact Nat.lt_succ_self u64Max

theorem spent_replicate (h : n ≤ u64Max) :
    Spent n (Runtime.empty.runInputs sampleConfig (List.replicate n sampleAcquire)) := by
  induction n with
  | zero => exact ⟨rfl, rfl, rfl⟩
  | succ n ih =>
    have hspent := ih (Nat.le_of_succ_le h)
    rw [List.replicate_succ', Runtime.runInputs, List.foldl_append]
    exact hspent.next h

omit [Sha256] in
theorem works_sampleAcquire : sampleAcquire.Works := ⟨rfl, rfl⟩

omit [Sha256] in
/-- A client leases a device, and no step panics. -/
theorem withstands_acquire :
    letI := sampleHash
    Withstands sampleConfig [sampleAcquire] ∧
      Runs.AllSteps (Runtime.next sampleConfig)
        (fun runtime input => ¬input.Panics sampleConfig runtime) [sampleAcquire] .empty := by
  let _ := sampleHash
  have hworks : ∀ input ∈ [sampleAcquire], input.Works := by
    intro input hmem
    rw [List.mem_singleton.1 hmem]
    exact works_sampleAcquire
  have hwithstands := withstands_of_works sampleConfig [sampleAcquire] hworks
  exact ⟨hwithstands, hwithstands.calm (hwithstands.few (Nat.le_of_ble_eq_true rfl))⟩

/-- No step of any run panics. -/
def AlwaysWithstands : Prop :=
  ∀ (config : Config) (inputs : List Input), (∀ input ∈ inputs, input.Works) →
    Runs.AllSteps (Runtime.next config) (fun runtime input => ¬input.Panics config runtime) inputs .empty

omit [Sha256] in
/-- **The numbers of the leases end**: one more request for a lease than there are numbers panics. -/
theorem not_alwaysWithstands : ¬∃ _ : Sha256, AlwaysWithstands := by
  rintro ⟨hash, h⟩
  have hworks : ∀ input ∈ List.replicate u64Max sampleAcquire ++ [sampleAcquire], input.Works := by
    intro input hmem
    rw [← List.replicate_succ'] at hmem
    rw [List.eq_of_mem_replicate hmem]
    exact works_sampleAcquire
  have hlast := (Runs.allSteps_append.1 (h sampleConfig _ hworks)).2.1
  exact hlast (spent_replicate (Nat.le_refl u64Max)).panics

end Registry
