/-
**Signatures of grants.**

The registry signs grants as a text of five fields with zeros between them. Names of devices are taken as
clients send them, so that a device may have zeros in its name. The other fields have none: the registry
makes the names of leases and jobs itself, and peers have the names that are in their certificates. So the
text still says what the fields are.

Main definitions:

* `Registry.LeaseBook.HeldBy` — what holds of all clients of a book.

Main results:

* `Registry.sameFields_of_signedPayload` — **grants with the same text have the same fields**.
-/

import DeviceLane.Library.Fields
import DeviceLane.Registry.EndedLeases
import DeviceLane.Registry.Transport

namespace Registry

/-! ### Texts without zeros -/

def Zeroless (text : String) : Prop := '\x00' ∉ text.toList

theorem Zeroless.append {left right : String} (hleft : Zeroless left) (hright : Zeroless right) :
    Zeroless (left ++ right) := by
  rw [Zeroless, String.toList_append, List.mem_append]
  exact not_or_intro hleft hright

theorem zeroless_repr (n : ℕ) : Zeroless (Nat.repr n) := by
  intro hmem
  rw [Nat.toList_repr] at hmem
  have hdigit := Nat.isDigit_of_mem_toDigits (by omega) (by omega) hmem
  cases hdigit

theorem zeroless_hex (bytes : List UInt8) : Zeroless (hex bytes) := by
  have hdigits : ∀ digit : Fin 16, '\x00' ≠ Nat.digitChar digit := by decide
  have hdigit : ∀ n, n < 16 → '\x00' ≠ Nat.digitChar n := fun n hlt => hdigits ⟨n, hlt⟩
  intro hmem
  rw [hex, String.toList_ofList, List.mem_flatMap] at hmem
  obtain ⟨byte, -, hchar⟩ := hmem
  have hlt : byte.toNat < 256 := UInt8.toNat_lt byte
  rcases List.mem_cons.1 hchar with hhigh | hlow
  · exact hdigit _ (by omega) hhigh
  · exact hdigit _ (by omega) (List.mem_singleton.1 hlow)

theorem zeroless_leaseIdOf (n : ℕ) : Zeroless (leaseIdOf n) := by
  refine Zeroless.append ?_ (zeroless_repr n)
  unfold Zeroless
  decide

theorem zeroless_appleJobId [Sha256] (idempotencyKey : String) : Zeroless (appleJobId idempotencyKey) := by
  refine Zeroless.append ?_ (zeroless_hex _)
  unfold Zeroless
  decide

theorem zeroless_of_validMachineId {id : String} (h : validMachineId id = true) : Zeroless id := by
  rw [validMachineId, Bool.and_eq_true, List.all_eq_true] at h
  intro hmem
  exact absurd (h.2 _ hmem) (by decide)

/-- The fields of a grant that are signed. -/
def LeaseGrant.SameFields (grant grant' : LeaseGrant) : Prop :=
  grant.leaseId = grant'.leaseId ∧ grant.deviceId = grant'.deviceId ∧
    grant.clientId = grant'.clientId ∧ grant.jobId = grant'.jobId ∧
      grant.expiresAtMs = grant'.expiresAtMs

/-- The fields of a grant that the registry makes have no zeros. -/
structure LeaseGrant.Clear (grant : LeaseGrant) : Prop where
  lease : Zeroless grant.leaseId
  client : Zeroless grant.clientId
  job : Zeroless grant.jobId

theorem signedPayload_eq (grant : LeaseGrant) :
    grant.signedPayload = Endian.textBytes (String.ofList (Fields.inFront '\x00' [grant.leaseId.toList]
      (Fields.behind '\x00' grant.deviceId.toList
        [grant.clientId.toList, grant.jobId.toList, (Nat.repr grant.expiresAtMs).toList]))) := by
  have hzero : "\x00".toList = ['\x00'] := rfl
  refine congrArg _ (String.toList_injective ?_)
  rw [String.toList_ofList]
  simp only [String.toList_append, hzero, Fields.inFront, Fields.behind, List.foldr_cons, List.foldr_nil,
    List.foldl_cons, List.foldl_nil, List.append_assoc, List.cons_append, List.nil_append]

/-- **One of the fields may have zeros.** -/
theorem signedPayload_inj {grant grant' : LeaseGrant} (hclear : grant.Clear) (hclear' : grant'.Clear)
    (h : grant.signedPayload = grant'.signedPayload) : grant.SameFields grant' := by
  rw [signedPayload_eq, signedPayload_eq] at h
  have hchars := String.ofList_injective (Endian.textBytes_injective h)
  have hfront : ∀ {grant : LeaseGrant}, grant.Clear → ∀ field ∈ [grant.leaseId.toList],
      '\x00' ∉ field := by
    intro grant hclear field hmem
    obtain rfl := List.mem_singleton.1 hmem
    exact hclear.lease
  have hbehind : ∀ {grant : LeaseGrant}, grant.Clear →
      ∀ field ∈ [grant.clientId.toList, grant.jobId.toList, (Nat.repr grant.expiresAtMs).toList],
        '\x00' ∉ field := by
    intro grant hclear field hmem
    rcases List.mem_cons.1 hmem with rfl | hmem
    · exact hclear.client
    · rcases List.mem_cons.1 hmem with rfl | hmem
      · exact hclear.job
      · obtain rfl := List.mem_singleton.1 hmem
        exact zeroless_repr _
  have hone : [grant.leaseId.toList].length = [grant'.leaseId.toList].length := rfl
  have hthree : [grant.clientId.toList, grant.jobId.toList, (Nat.repr grant.expiresAtMs).toList].length
      = [grant'.clientId.toList, grant'.jobId.toList, (Nat.repr grant'.expiresAtMs).toList].length := rfl
  obtain ⟨hlease, hrest⟩ := Fields.inFront_inj hone (hfront hclear) (hfront hclear') hchars
  obtain ⟨hdevice, hfields⟩ := Fields.behind_inj hthree (hbehind hclear) (hbehind hclear') hrest
  obtain ⟨hclient, hfields⟩ := List.cons.inj hfields
  obtain ⟨hjob, hfields⟩ := List.cons.inj hfields
  exact ⟨String.toList_injective (List.cons.inj hlease).1, String.toList_injective hdevice,
    String.toList_injective hclient, String.toList_injective hjob,
    repr_injective (String.toList_injective (List.cons.inj hfields).1)⟩

/-! ### The clients of a book -/

namespace LeaseBook

structure HeldBy (P : String → Prop) (book : LeaseBook) : Prop where
  active : ∀ deviceId lease, book.active.lookup deviceId = some lease → P lease.clientId
  waiting : ∀ waiting ∈ book.waiting, P waiting.clientId

variable {P : String → Prop} {book : LeaseBook}

theorem heldBy_empty : empty.HeldBy P where
  active deviceId lease hlookup := by cases hlookup
  waiting waiting hmem := absurd hmem List.not_mem_nil

theorem HeldBy.of_same {book' : LeaseBook} (h : book.HeldBy P) (hactive : book'.active = book.active)
    (hwaiting : book'.waiting = book.waiting) : book'.HeldBy P := by
  constructor
  · rw [hactive]
    exact h.active
  · rw [hwaiting]
    exact h.waiting

theorem HeldBy.insert (h : book.HeldBy P) {deviceId clientId : String} (hclient : P clientId)
    (lifetimeMs nowMs : ℕ) : (book.insert deviceId clientId lifetimeMs nowMs).HeldBy P := by
  refine ⟨fun other lease hlookup => ?_, h.waiting⟩
  change (Map.insert _ _ _).lookup other = some lease at hlookup
  rw [Map.lookup_insert] at hlookup
  split at hlookup
  · obtain rfl := Option.some.inj hlookup
    exact hclient
  · exact h.active other lease hlookup

theorem HeldBy.releaseDeviceNow (h : book.HeldBy P) (deviceId : String) (nowMs : ℕ) :
    (book.releaseDeviceNow deviceId nowMs).HeldBy P := by
  have herased : ({ book with active := book.active.erase deviceId } : LeaseBook).HeldBy P := by
    refine ⟨fun other lease hlookup => ?_, h.waiting⟩
    change (Map.erase _ _).lookup other = some lease at hlookup
    rw [Map.lookup_erase] at hlookup
    split at hlookup
    · cases hlookup
    · exact h.active other lease hlookup
  unfold LeaseBook.releaseDeviceNow promote
  split
  · exact herased
  · rename_i next hnext
    have hshorter : ({ book with
        active := book.active.erase deviceId
        waiting := book.waiting.eraseP fun waiting => waiting.deviceId = deviceId } : LeaseBook).HeldBy
          P := ⟨herased.active, fun waiting hmem => h.waiting waiting (List.mem_of_mem_eraseP hmem)⟩
    exact hshorter.insert (h.waiting next (List.mem_of_find?_eq_some hnext)) _ _

theorem HeldBy.releaseDevice (h : book.HeldBy P) (deviceId : String) (nowMs : ℕ) :
    (book.releaseDevice deviceId nowMs).HeldBy P := by
  unfold LeaseBook.releaseDevice
  split
  · exact h.of_same rfl rfl
  · exact h.releaseDeviceNow deviceId nowMs

theorem HeldBy.releaseDevices (h : book.HeldBy P) (deviceIds : List String) (nowMs : ℕ) :
    (book.releaseDevices deviceIds nowMs).HeldBy P := by
  induction deviceIds generalizing book with
  | nil => exact h
  | cons deviceId deviceIds ih => exact ih (h.releaseDevice deviceId nowMs)

theorem HeldBy.expire (h : book.HeldBy P) (hash : KeyOrder String) (nowMs : ℕ) :
    (book.expire hash nowMs).HeldBy P := h.releaseDevices _ nowMs

theorem HeldBy.detachInventory (h : book.HeldBy P) (deviceId : String) (nowMs : ℕ) :
    (book.detachInventory deviceId nowMs).HeldBy P := by
  refine HeldBy.releaseDevice ?_ deviceId nowMs
  split
  · exact h.of_same rfl rfl
  · exact h

theorem HeldBy.finishWriter (h : book.HeldBy P) (deviceId : String) (nowMs : ℕ) :
    (book.finishWriter deviceId nowMs).HeldBy P := by
  unfold LeaseBook.finishWriter
  dsimp only
  split
  · have hfinished : ({ book with
        writers := book.writers.erase deviceId
        pendingRelease := book.pendingRelease.erase deviceId } : LeaseBook).HeldBy P :=
      h.of_same rfl rfl
    exact (hfinished.releaseDevice deviceId nowMs).of_same rfl rfl
  · exact h.of_same rfl rfl

/-- **A client that asks for leases is one of the clients.** -/
theorem HeldBy.apply (h : book.HeldBy P) {peerId : String} (hpeer : P peerId)
    (agentPeers : Finset String) (devicePeers : Map String String) (hash : KeyOrder String)
    (operation : LeaseRequest) (nowMs : ℕ) :
    (book.apply agentPeers devicePeers hash peerId operation nowMs).2.HeldBy P := by
  have hrelease : ∀ leaseId status, (book.release hash peerId leaseId status nowMs).2.HeldBy P := by
    intro leaseId status
    unfold LeaseBook.release
    split
    · exact h
    · exact h.releaseDevice _ nowMs
  cases operation with
  | acquire deviceId lifetimeMs =>
    change (book.acquire peerId deviceId lifetimeMs nowMs).2.HeldBy P
    unfold acquire
    split
    · exact h
    · exact h.insert hpeer lifetimeMs nowMs
  | queue deviceId lifetimeMs =>
    change (book.queue peerId deviceId lifetimeMs nowMs).2.HeldBy P
    unfold queue
    split
    · split
      · exact h
      · split
        · exact h
        · refine ⟨h.active, fun waiting hmem => ?_⟩
          rcases List.mem_append.1 hmem with hbefore | hlast
          · exact h.waiting waiting hbefore
          · obtain rfl := List.mem_singleton.1 hlast
            exact hpeer
    · exact h.insert hpeer lifetimeMs nowMs
  | renew leaseId lifetimeMs =>
    change (book.renew hash peerId leaseId lifetimeMs nowMs).2.HeldBy P
    unfold renew
    split
    · exact h
    · rename_i key lease howned
      obtain ⟨hlookup, -, -⟩ := ownedLease_eq_some howned
      refine ⟨fun other found hfound => ?_, h.waiting⟩
      change (Map.insert _ _ _).lookup other = some found at hfound
      rw [Map.lookup_insert] at hfound
      split at hfound
      · obtain rfl := Option.some.inj hfound
        exact h.active key lease hlookup
      · exact h.active other found hfound
  | release leaseId => exact hrelease leaseId "released"
  | revoke leaseId => exact hrelease leaseId "revoked"
  | validate => exact h
  | disconnect =>
    have hleft : ({ book with
        waiting := book.waiting.filter fun waiting => waiting.clientId ≠ peerId } : LeaseBook).HeldBy
          P := ⟨h.active, fun waiting hmem => h.waiting waiting (List.mem_filter.1 hmem).1⟩
    exact hleft.releaseDevices _ nowMs
  | agentDetach deviceId =>
    change (if _ then _ else _ : Reply × LeaseBook).2.HeldBy P
    split
    · have hforced : ({ book with
          writers := book.writers.erase deviceId
          pendingRelease := book.pendingRelease.erase deviceId
          pendingDetach := book.pendingDetach.erase deviceId } : LeaseBook).HeldBy P :=
        h.of_same rfl rfl
      exact hforced.releaseDeviceNow deviceId nowMs
    · exact h

end LeaseBook

/-! ### Grants that are signed -/

/-- The peer of a request. -/
def FromPeer (P : String → Prop) : Event → Prop
  | .request peerId _ => P peerId
  | _ => True

section

variable [Sha256] {config : Config} {env : Env} {event : Event} {runtime : Runtime}

variable {answer : Response} {grant : LeaseGrant}

/-- **All clients are peers**, whatever the registry does, and whenever it crashes. -/
theorem heldBy_kept (P : String → Prop) : LeaseBook.Kept (FromPeer P) (LeaseBook.HeldBy P) where
  empty := LeaseBook.heldBy_empty
  same h _ hactive hwaiting := h.of_same hactive hwaiting
  expire hash nowMs h := h.expire hash nowMs
  finishWriter deviceId nowMs h := h.finishWriter deviceId nowMs
  detachInventory deviceId nowMs h := h.detachInventory deviceId nowMs
  apply hpeer h _ _ _ _ := h.apply hpeer _ _ _ _ _

/-- **A section signs a grant**: for the client that has asked for a lease, or for the agent that gets a
job. A grant is signed even where it does not get into the answer afterwards. -/
inductive Signs (config : Config) (env : Env) (event : Event) (runtime : Runtime) : LeaseGrant → Prop
  | lease {peerId : String} {operation : LeaseRequest} {response : Response}
      {devicePeers : Map String String} {leases : LeaseBook} {grant : LeaseGrant}
      (hevent : event = .request peerId (.lease operation))
      (hlease : lease config.sign config.agentPeers env.orders.active operation peerId
        runtime.state.devicePeers runtime.leases env.nowMs = some (response, devicePeers, leases))
      (hgrant : response.leaseGrant = some grant) : Signs config env event runtime grant
  | dispatch {hostId jobId deviceId leaseId : String} {operation : AppleRequest} {lease : DeviceLease}
      (hevent : event = .resume (.online hostId))
      (hnext : runtime.state.nextApple runtime.leases env.orders hostId = some (jobId, operation))
      (hneeds : leaseNeeded operation = some (deviceId, leaseId))
      (hlease : (runtime.leases.expire env.orders.active env.nowMs).leaseOf deviceId leaseId
        (runtime.state.jobClients.lookup jobId) = some lease) :
      Signs config env event runtime (grantOf config.sign lease jobId env.nowMs)

/-- **Every grant in an answer has been signed.** -/
theorem signs_of_answer (h : (handle config env event runtime).2 = some answer)
    (hgrant : answer.leaseGrant = some grant) : Signs config env event runtime grant := by
  have hplain : answer.Plain → Signs config env event runtime grant := by
    intro hplain
    rw [hplain.2] at hgrant
    cases hgrant
  by_cases hlease : ∃ peerId operation, event = .request peerId (.lease operation)
  · obtain ⟨peerId, operation, rfl⟩ := hlease
    rcases handle_request_answer h with ⟨error, rfl⟩ | ⟨hanswer, -⟩
    · cases hgrant
    · change (leaseRequest config env peerId operation runtime).2 = _ at hanswer
      unfold leaseRequest at hanswer
      split at hanswer
      · cases hanswer
      · rename_i response devicePeers leases hsome
        dsimp only at hanswer
        split at hanswer
        · obtain rfl := Option.some.inj hanswer
          cases hgrant
        · split at hanswer
          · obtain rfl := Option.some.inj hanswer
            exact .lease rfl hsome hgrant
          · obtain rfl := Option.some.inj hanswer
            cases hgrant
  · by_cases hdispatch : ∃ hostId, event = .resume (.online hostId)
    · obtain ⟨hostId, rfl⟩ := hdispatch
      rcases heartbeatDispatch_answer (handle_online_answer h) with hanswer | ⟨_, _, hnext, hgives⟩
      · exact hplain hanswer
      · obtain ⟨deviceId, leaseId, lease, hneeds, hlease, rfl⟩ := hgives.signed grant hgrant
        exact .dispatch rfl hnext hneeds hlease
    · refine hplain (plain_handle config env runtime (fun peerId operation heq => ?_)
        (fun hostId heq => ?_) answer h)
      · exact hlease ⟨peerId, operation, heq⟩
      · exact hdispatch ⟨hostId, heq⟩

/-- **Grants that are signed have no zeros**, but in the names of their devices. -/
theorem Signs.clear (h : Signs config env event runtime grant) (hordered : runtime.leases.Ordered)
    (hheld : runtime.leases.HeldBy Zeroless) (hnamed : runtime.state.Named)
    (hpeer : FromPeer Zeroless event) : grant.Clear := by
  have hexpired := (LeaseBook.expire_spec hordered env.orders.active env.nowMs).ordered
  have hclients := hheld.expire env.orders.active env.nowMs
  have hclear : ∀ {book : LeaseBook} {deviceId jobId : String} {lease : DeviceLease}, book.Ordered →
      book.HeldBy Zeroless → book.active.lookup deviceId = some lease → Zeroless jobId →
        (grantOf config.sign lease jobId env.nowMs).Clear := by
    intro book deviceId jobId lease hordered hheld hlookup hjob
    obtain ⟨n, -, hid⟩ := hordered.numbered deviceId lease hlookup
    refine ⟨?_, hheld.active deviceId lease hlookup, hjob⟩
    change Zeroless lease.id
    rw [hid]
    exact zeroless_leaseIdOf n
  cases h with
  | lease hevent hlease hgrant =>
    rename_i peerId operation response devicePeers leases
    subst hevent
    unfold Registry.lease at hlease
    dsimp only at hlease
    split at hlease
    · rename_i response hreply
      cases hlease
      rw [(plain_of_answered hreply).2] at hgrant
      cases hgrant
    · obtain ⟨entry, hentry, heq⟩ := Option.map_eq_some_iff.1 hlease
      cases heq
      obtain rfl := Option.some.inj hgrant
      have hlookup := Map.mem_entriesIn.1 (List.mem_of_find?_eq_some hentry)
      have hempty : Zeroless "" := by
        unfold Zeroless
        decide
      exact hclear (LeaseBook.apply_takesTurns hexpired _ _ _ _ _ _).ordered
        (hclients.apply hpeer _ _ _ _ _) hlookup hempty
  | dispatch hevent hnext hneeds hlease =>
    rename_i hostId jobId deviceId leaseId operation lease
    obtain ⟨hpending, -, -, -⟩ := DurableState.nextApple_eq_some hnext
    obtain ⟨hlookup, -, -⟩ := LeaseBook.leaseOf_eq_some hlease
    have hjob : Zeroless jobId := by
      rw [hnamed.apple jobId operation hpending]
      exact zeroless_appleJobId _
    exact hclear hexpired hclients hlookup hjob

/-! ### Grants of runs -/

/-- **A grant that the registry signs** in a run. -/
def Signed (config : Config) (inputs : List Input) (grant : LeaseGrant) : Prop :=
  ∃ before env event after, inputs = before ++ .event env event :: after ∧
    Signs config env event (Runtime.empty.runInputs config before) grant

/-- **A grant that an agent gets** with a job, in the answer to a heartbeat. -/
def Presented (config : Config) (inputs : List Input) (grant : LeaseGrant) : Prop :=
  ∃ before env hostId after answer, inputs = before ++ .event env (.resume (.online hostId)) :: after ∧
    (handle config env (.resume (.online hostId)) (Runtime.empty.runInputs config before)).2
      = some answer ∧
    answer.leaseGrant = some grant

theorem Presented.signed {inputs : List Input} (h : Presented config inputs grant) :
    Signed config inputs grant := by
  obtain ⟨before, env, _, after, _, rfl, hanswer, hgrant⟩ := h
  exact ⟨before, env, _, after, rfl, signs_of_answer hanswer hgrant⟩

theorem Signed.clear {x509 : X509} {inputs : List Input} (h : Signed config inputs grant)
    (hpeers : ∀ input ∈ inputs, Runtime.Of (FromPeer (Admitted x509)) input) : grant.Clear := by
  obtain ⟨before, env, event, _, rfl, hsigns⟩ := h
  have hzeroless : ∀ event, FromPeer (Admitted x509) event → FromPeer Zeroless event := by
    intro event hpeer
    cases event with
    | request => exact zeroless_of_validMachineId (validMachineId_of_admitted hpeer)
    | resume | settle => trivial
  have hbefore : ∀ input ∈ before, Runtime.Of (FromPeer Zeroless) input := by
    intro input hmem
    have hpeer := hpeers input (List.mem_append_left _ hmem)
    cases input with
    | event env event => exact hzeroless event hpeer
    | start => trivial
  exact hsigns.clear (ordered_runInputs config before)
    (Runtime.everywhere_runInputs_while ((heldBy_kept Zeroless).keptWhile config) hbefore).leases
    (Runtime.named_runInputs config before)
    (hzeroless event (hpeers _ (List.mem_append_right _ List.mem_cons_self)))

def sampleX509 : X509 where
  dnsName certificate := certificate.head?.bind fun byte =>
    if byte = 1 then some "client" else if byte = 2 then some "agent" else none
  dnsName_of_take certificate n name h := by
    cases n with
    | zero => cases h
    | succ n =>
      cases certificate with
      | nil => exact h
      | cons byte certificate => exact h

omit [Sha256] in
theorem admitted_sample : Admitted sampleX509 "client" ∧ Admitted sampleX509 "agent" := by
  refine ⟨⟨[.trust "client" [1] .stored], sameOrder, [1], ?_⟩,
    ⟨[.trust "agent" [2] .stored], sameOrder, [2], ?_⟩⟩
  · rfl
  · rfl

def sampleInputs : List Input := sampleAppleSteps.map fun input => .event input.1 input.2

theorem signed_sample :
    Signed sampleConfig sampleInputs (grantOf sampleConfig.sign sampleLease sampleAppleId 0) := by
  have hearlier : Runtime.empty.runInputs sampleConfig
      ((sampleHostSteps ++ sampleJobSteps).map fun input => .event input.1 input.2) = sampleAccepted := by
    rw [Runtime.runInputs_events, List.foldl_append, foldl_sampleHostSteps, foldl_sampleJobSteps]
  have hsplit : sampleInputs = ((sampleHostSteps ++ sampleJobSteps).map fun input =>
      .event input.1 input.2) ++ [.event sampleEnv (.resume (.online "host"))] := List.map_append
  refine ⟨_, sampleEnv, .resume (.online "host"), [], hsplit, ?_⟩
  rw [hearlier]
  have hclient : sampleAccepted.state.jobClients.lookup sampleAppleId = some "client" :=
    Map.lookup_insert_self _ _ _
  refine .dispatch rfl nextApple_sampleAccepted rfl ?_
  rw [hclient]
  exact leaseOf_sampleLeases

omit [Sha256] in
theorem fromPeer_sampleInputs :
    ∀ input ∈ sampleInputs, Runtime.Of (FromPeer (Admitted sampleX509)) input := by
  obtain ⟨hclient, hagent⟩ := admitted_sample
  intro input hmem
  obtain ⟨_, hstep, rfl⟩ := List.mem_map.1 hmem
  simp only [sampleAppleSteps, sampleHostSteps, sampleJobSteps, List.cons_append, List.nil_append, List.mem_cons,
    List.not_mem_nil, or_false] at hstep
  rcases hstep with rfl | rfl | rfl | rfl | rfl | rfl | rfl
  · exact hagent
  · trivial
  · trivial
  · exact hclient
  · exact hclient
  · trivial
  · trivial

end

end Registry
