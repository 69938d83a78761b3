/-
**Sessions that are used once.**

A controller signs a session for a challenge, and whoever set the challenge looks at the session and enters
it into a file. A session whose entry is still there is refused. Entries leave the file once they have
expired, and no sooner: an entry that expires now is kept, and a session that expires now is taken.

Main definitions:

* `Registry.SessionCall` — a call that does both.

Main results:

* `Registry.ControllerSessionReplayCache.Keeps.run` — **an entry stays until it has expired**.
-/

import DeviceLane.Dashboard.ModelReads
import DeviceLane.Registry.MeshAccess

namespace Registry

open Dashboard (u64Max)
open Effect

structure ControllerSessionAssertion where
  payload : ControllerSessionPayload
  signature : List UInt8
  deriving DecidableEq

structure VerifiedControllerSession where
  controllerEndpoint : String
  controllerPeerId : String
  principalId : String
  sourceHostId : String
  sessionId : String
  expiresAtMs : ℕ
  deriving DecidableEq

/-- **A session is looked at.** -/
def verifyControllerSession (ecdsa : Ecdsa) (verifier : SecureTransport)
    (assertion : ControllerSessionAssertion)
    (expectedEndpoint expectedPeerId expectedChallenge : String) (nowMs : ℕ) :
    Except ControllerSessionError VerifiedControllerSession := do
  let payload := assertion.payload
  failIf (payload.controllerEndpoint ≠ expectedEndpoint) .controllerEndpointMismatch
  failIf (payload.controllerPeerId ≠ expectedPeerId ∨ payload.sourceHostId ≠ expectedPeerId)
    .controllerPeerMismatch
  failIf (payload.challenge ≠ expectedChallenge) .challengeMismatch
  failIf (nowMs < payload.issuedAtMs ∨ nowMs > payload.expiresAtMs) .expired
  let message ← payload.canonical
  (verifier.verifyPeerSignature ecdsa expectedPeerId message assertion.signature).mapError
    fun _ => .invalidSignature
  pure
    { controllerEndpoint := payload.controllerEndpoint
      controllerPeerId := payload.controllerPeerId
      principalId := payload.principalId
      sourceHostId := payload.sourceHostId
      sessionId := payload.sessionId
      expiresAtMs := payload.expiresAtMs }

/-! ### The file -/

structure ReplayEntry where
  keySha256 : String
  expiresAtMs : ℕ
  deriving DecidableEq

structure ReplayState where
  version : ℕ
  entries : List ReplayEntry
  deriving DecidableEq

def ReplayEntry.toJson (entry : ReplayEntry) : Json :=
  .obj [("key_sha256", .str entry.keySha256), ("expires_at_ms", .num entry.expiresAtMs)]

def ReplayEntry.fromJson (j : Json) : Option ReplayEntry := do
  let fields ← j.fieldsOf ["key_sha256", "expires_at_ms"]
  let keySha256 ← Json.required fields "key_sha256"
  let expiresAtMs ← Json.requiredU64 fields "expires_at_ms"
  some { keySha256, expiresAtMs }

def ReplayState.toJson (state : ReplayState) : Json :=
  .obj [("version", .num state.version), ("entries", .arr (state.entries.map ReplayEntry.toJson))]

def ReplayState.entriesFromJson : Json → Option (List ReplayEntry)
  | .arr items => items.mapM ReplayEntry.fromJson
  | _ => none

def ReplayState.fromJson (j : Json) : Option ReplayState := do
  let fields ← j.fieldsOf ["version", "entries"]
  let version : ℕ ← Json.required fields "version"
  let entries ← (fields.lookup "entries").bind entriesFromJson
  if version < 2 ^ 16 then some { version, entries } else none

def ReplayState.toVec (state : ReplayState) : List UInt8 := state.toJson.toVec

def ReplayState.fromVec (bytes : List UInt8) : Option ReplayState := do
  let j ← Json.fromSlice bytes
  fromJson j

theorem ReplayEntry.fromJson_toJson {entry : ReplayEntry} (h : entry.expiresAtMs ≤ u64Max) :
    fromJson entry.toJson = some entry := by
  rw [fromJson, toJson]
  exact Json.bind_of_eq_some (by simp [Json.fieldsOf]; rfl) <|
    Json.bind_of_eq_some (Json.required_of_lookup rfl) <|
    Json.bind_of_eq_some (Json.requiredU64_of_lookup h rfl) rfl

/-- The numbers of the entries are 64-bit numbers. -/
def ReplayState.InU64 (state : ReplayState) : Prop :=
  ∀ entry ∈ state.entries, entry.expiresAtMs ≤ u64Max

theorem mapM_fromJson_toJson {entries : List ReplayEntry}
    (h : ∀ entry ∈ entries, entry.expiresAtMs ≤ u64Max) :
    (entries.map ReplayEntry.toJson).mapM ReplayEntry.fromJson = some entries := by
  induction entries with
  | nil => rfl
  | cons entry entries ih =>
    rw [List.map_cons, List.mapM_cons, ReplayEntry.fromJson_toJson (h entry List.mem_cons_self),
      ih (List.forall_mem_cons.1 h).2]
    rfl

/-- **The file is read as it was written.** -/
theorem ReplayState.fromVec_toVec {state : ReplayState} (hversion : state.version < 2 ^ 16)
    (h : state.InU64) : fromVec state.toVec = some state := by
  rw [fromVec, toVec, Json.fromSlice_toVec]
  change fromJson state.toJson = some state
  have hentries : ([("version", Json.num state.version),
      ("entries", .arr (state.entries.map ReplayEntry.toJson))].lookup "entries").bind entriesFromJson
        = some state.entries := mapM_fromJson_toJson h
  rw [fromJson, toJson]
  exact Json.bind_of_eq_some (by simp [Json.fieldsOf]) <|
    Json.bind_of_eq_some (Json.required_of_lookup rfl) <|
    Json.bind_of_eq_some hentries (if_pos hversion)

theorem ReplayEntry.le_of_fromJson {j : Json} {entry : ReplayEntry} (h : fromJson j = some entry) :
    entry.expiresAtMs ≤ u64Max := by
  obtain ⟨_, -, h⟩ := Option.bind_eq_some_iff.1 h
  obtain ⟨_, -, h⟩ := Option.bind_eq_some_iff.1 h
  obtain ⟨_, hexpires, h⟩ := Option.bind_eq_some_iff.1 h
  cases h
  obtain ⟨_, -, hn⟩ := Option.bind_eq_some_iff.1 hexpires
  split at hn
  · cases hn
    assumption
  · cases hn

theorem ReplayEntry.le_of_mapM {items : List Json} {entries : List ReplayEntry}
    (h : items.mapM fromJson = some entries) : ∀ entry ∈ entries, entry.expiresAtMs ≤ u64Max := by
  induction items generalizing entries with
  | nil =>
    cases h
    exact List.forall_mem_nil _
  | cons item items ih =>
    rw [List.mapM_cons] at h
    obtain ⟨_, hfirst, h⟩ := Option.bind_eq_some_iff.1 h
    obtain ⟨_, hrest, h⟩ := Option.bind_eq_some_iff.1 h
    cases h
    intro entry hmem
    rcases List.mem_cons.1 hmem with rfl | hmem
    · exact le_of_fromJson hfirst
    · exact ih hrest entry hmem

theorem ReplayState.inU64_of_fromVec {bytes : List UInt8} {state : ReplayState}
    (h : fromVec bytes = some state) : state.InU64 := by
  obtain ⟨_, -, h⟩ := Option.bind_eq_some_iff.1 h
  obtain ⟨_, -, h⟩ := Option.bind_eq_some_iff.1 h
  obtain ⟨_, -, h⟩ := Option.bind_eq_some_iff.1 h
  obtain ⟨_, hentries, h⟩ := Option.bind_eq_some_iff.1 h
  split at h
  · cases h
    obtain ⟨_, -, hvalue⟩ := Option.bind_eq_some_iff.1 hentries
    unfold entriesFromJson at hvalue
    split at hvalue
    · exact ReplayEntry.le_of_mapM hvalue
    · cases hvalue
  · cases h

structure CacheAccess where
  locks : Bool
  reads : Bool
  creates : Bool
  writes : Bool
  replaces : Bool
  deriving DecidableEq

/-- The entries that have been made, in a file that may not be there. -/
structure ControllerSessionReplayCache where
  maxEntries : ℕ
  file : Option (List UInt8)
  deriving DecidableEq

namespace ControllerSessionReplayCache

def readState (access : CacheAccess) (cache : ControllerSessionReplayCache) :
    Except ControllerSessionError ReplayState :=
  match cache.file with
  | none => .ok ⟨1, []⟩
  | some bytes =>
    if access.reads = false then .error .replayCacheUnavailable
    else
      match ReplayState.fromVec bytes with
      | none => .error .replayCacheUnavailable
      | some state => .ok state

def unexpired (nowMs : ℕ) (entries : List ReplayEntry) : List ReplayEntry :=
  entries.filter fun entry => entry.expiresAtMs ≥ nowMs

variable [Sha256]

def replayKey (sessionId challenge : String) : String :=
  hex (Sha256.digest (Endian.textBytes "devicelane.controller-session.replay.v1\x00"
    ++ Endian.textBytes sessionId ++ [0] ++ Endian.textBytes challenge)).toList

def consumeLocked (sessionId challenge : String) (expiresAtMs nowMs : ℕ) (access : CacheAccess) :
    Eff ControllerSessionReplayCache ControllerSessionError Unit := do
  let cache ← get
  let state ← orThrow (fun error => error) (cache.readState access)
  throwIf (state.version ≠ 1) .replayCacheUnavailable
  let entries := unexpired nowMs state.entries
  let keySha256 := replayKey sessionId challenge
  throwIf (∃ entry ∈ entries, entry.keySha256 = keySha256) .replayDetected
  throwIf (entries.length ≥ cache.maxEntries) .replayCacheUnavailable
  let state : ReplayState := { state with entries := entries ++ [⟨keySha256, expiresAtMs⟩] }
  throwIf (access.creates = false ∨ access.writes = false ∨ access.replaces = false)
    .replayCacheUnavailable
  set { cache with file := some state.toVec }

def consume (sessionId challenge : String) (expiresAtMs nowMs : ℕ) (access : CacheAccess) :
    Eff ControllerSessionReplayCache ControllerSessionError Unit := do
  throwIf (access.locks = false) .replayCacheUnavailable
  consumeLocked sessionId challenge expiresAtMs nowMs access

/-- **A session is refused, and the file stays as it is, or it is entered** with what has not expired. -/
theorem consume_cases (cache : ControllerSessionReplayCache) (sessionId challenge : String)
    (expiresAtMs nowMs : ℕ) (access : CacheAccess) :
    (∃ error, (consume sessionId challenge expiresAtMs nowMs access).exec cache
        = (.error error, cache)) ∨
      ∃ state, cache.readState access = .ok state ∧ state.version = 1 ∧
        (∀ entry ∈ unexpired nowMs state.entries,
          entry.keySha256 ≠ replayKey sessionId challenge) ∧
        (unexpired nowMs state.entries).length < cache.maxEntries ∧
        (consume sessionId challenge expiresAtMs nowMs access).exec cache
          = (.ok (), { cache with
              file := some (ReplayState.toVec ⟨1, unexpired nowMs state.entries
                ++ [⟨replayKey sessionId challenge, expiresAtMs⟩]⟩) }) := by
  rw [consume, exec_throwIf_bind]
  split
  · exact .inl ⟨_, rfl⟩
  rw [consumeLocked, exec_bind_ok (exec_get cache), exec_orThrow_bind]
  cases hread : cache.readState access with
  | error error => exact .inl ⟨error, rfl⟩
  | ok state =>
    dsimp only
    rw [exec_throwIf_bind]
    split
    · exact .inl ⟨_, rfl⟩
    rename_i hversion
    rw [exec_throwIf_bind]
    split
    · exact .inl ⟨_, rfl⟩
    rename_i hnew
    rw [exec_throwIf_bind]
    split
    · exact .inl ⟨_, rfl⟩
    rename_i hroom
    rw [exec_throwIf_bind]
    split
    · exact .inl ⟨_, rfl⟩
    obtain ⟨version, entries⟩ := state
    obtain rfl := not_not.1 hversion
    exact .inr ⟨_, rfl, rfl, fun entry hmem hkey => hnew ⟨entry, hmem, hkey⟩, not_le.1 hroom, rfl⟩

/-! ### Calls -/

end ControllerSessionReplayCache

/-- A call, with the certificates that are trusted when it is made. -/
structure SessionCall where
  verifier : SecureTransport
  assertion : ControllerSessionAssertion
  expectedEndpoint : String
  expectedPeerId : String
  expectedChallenge : String
  nowMs : ℕ
  access : CacheAccess

namespace SessionCall

variable [Sha256]

def verifyAndConsumeControllerSession (ecdsa : Ecdsa) (call : SessionCall) :
    Eff ControllerSessionReplayCache ControllerSessionError VerifiedControllerSession := do
  let verified ← orThrow (fun error => error) (verifyControllerSession ecdsa call.verifier
    call.assertion call.expectedEndpoint call.expectedPeerId call.expectedChallenge call.nowMs)
  ControllerSessionReplayCache.consume verified.sessionId call.expectedChallenge verified.expiresAtMs
    call.nowMs call.access
  pure verified

/-- What a session that is used has been looked at for. -/
structure Meets (ecdsa : Ecdsa) (call : SessionCall) : Prop where
  issued : call.assertion.payload.issuedAtMs ≤ call.nowMs
  unexpired : call.nowMs ≤ call.assertion.payload.expiresAtMs
  endpoint : call.assertion.payload.controllerEndpoint = call.expectedEndpoint
  peer : call.assertion.payload.controllerPeerId = call.expectedPeerId
  source : call.assertion.payload.sourceHostId = call.expectedPeerId
  challenge : call.assertion.payload.challenge = call.expectedChallenge
  signed : call.verifier.verifyPeerSignature ecdsa call.expectedPeerId
    call.assertion.payload.toJson.toVec call.assertion.signature = .ok ()

omit [Sha256] in
theorem verifyControllerSession_eq_ok {ecdsa : Ecdsa} {call : SessionCall}
    {verified : VerifiedControllerSession}
    (h : verifyControllerSession ecdsa call.verifier call.assertion call.expectedEndpoint
      call.expectedPeerId call.expectedChallenge call.nowMs = .ok verified) :
    call.Meets ecdsa ∧ verified.sessionId = call.assertion.payload.sessionId ∧
      verified.expiresAtMs = call.assertion.payload.expiresAtMs := by
  unfold verifyControllerSession at h
  simp only [failIf_bind] at h
  split_ifs at h with hendpoint hpeer hchallenge htime
  obtain ⟨_, hmessage, h⟩ := bind_eq_ok.1 h
  cases hmessage
  obtain ⟨⟨⟩, hsigned, h⟩ := bind_eq_ok.1 h
  cases h
  obtain ⟨hcontroller, hsource⟩ := not_or.1 hpeer
  obtain ⟨hissued, hexpires⟩ := not_or.1 htime
  refine ⟨⟨not_lt.1 hissued, not_lt.1 hexpires, not_not.1 hendpoint, not_not.1 hcontroller,
    not_not.1 hsource, not_not.1 hchallenge, ?_⟩, rfl, rfl⟩
  exact Dashboard.mapError_eq_ok.1 hsigned

/-- The session that a call is about. -/
def pair (call : SessionCall) : String × String :=
  (call.assertion.payload.sessionId, call.assertion.payload.challenge)

/-- The entry of a session. -/
def entry (call : SessionCall) : ReplayEntry :=
  ⟨ControllerSessionReplayCache.replayKey call.pair.1 call.pair.2, call.assertion.payload.expiresAtMs⟩

/-- The session expires at a 64-bit time. -/
def InU64 (call : SessionCall) : Prop := call.assertion.payload.expiresAtMs ≤ u64Max

end SessionCall

namespace ControllerSessionReplayCache

variable [Sha256]

variable {cache : ControllerSessionReplayCache} {call : SessionCall} {ecdsa : Ecdsa}

def step (ecdsa : Ecdsa) (cache : ControllerSessionReplayCache) (call : SessionCall) :
    ControllerSessionReplayCache :=
  ((call.verifyAndConsumeControllerSession ecdsa).exec cache).2

/-- The session of a call is used. -/
def Accepts (ecdsa : Ecdsa) (cache : ControllerSessionReplayCache) (call : SessionCall) : Prop :=
  ((call.verifyAndConsumeControllerSession ecdsa).exec cache).1.isOk = true

/-- **One call** is refused, and leaves the file, or it enters its session, which it has looked at. -/
theorem step_cases (ecdsa : Ecdsa) (cache : ControllerSessionReplayCache) (call : SessionCall) :
    ¬cache.Accepts ecdsa call ∧ cache.step ecdsa call = cache ∨
      call.Meets ecdsa ∧ cache.Accepts ecdsa call ∧ ∃ state,
        cache.readState call.access = .ok state ∧ state.version = 1 ∧
        (∀ entry ∈ unexpired call.nowMs state.entries, entry.keySha256 ≠ call.entry.keySha256) ∧
        (unexpired call.nowMs state.entries).length < cache.maxEntries ∧
        cache.step ecdsa call = { cache with
          file := some (ReplayState.toVec ⟨1, unexpired call.nowMs state.entries ++ [call.entry]⟩) } := by
  unfold step Accepts SessionCall.verifyAndConsumeControllerSession
  rw [exec_orThrow_bind]
  cases hverify : verifyControllerSession ecdsa call.verifier call.assertion call.expectedEndpoint
      call.expectedPeerId call.expectedChallenge call.nowMs with
  | error error => exact .inl ⟨Bool.false_ne_true, rfl⟩
  | ok verified =>
    obtain ⟨hmeets, hid, hexpires⟩ := SessionCall.verifyControllerSession_eq_ok hverify
    dsimp only
    rw [hid, hexpires, ← hmeets.challenge]
    rcases consume_cases cache call.assertion.payload.sessionId call.assertion.payload.challenge
      call.assertion.payload.expiresAtMs call.nowMs call.access with ⟨error, hexec⟩ | ⟨state, hread, hversion, hnew, hroom, hexec⟩
    · rw [exec_bind_error hexec]
      exact .inl ⟨Bool.false_ne_true, rfl⟩
    · rw [exec_bind_ok hexec]
      exact .inr ⟨hmeets, rfl, state, hread, hversion, hnew, hroom, rfl⟩

def held (cache : ControllerSessionReplayCache) : List ReplayEntry :=
  ((cache.file.bind ReplayState.fromVec).map ReplayState.entries).getD []

omit [Sha256] in
theorem entries_of_readState {access : CacheAccess} {state : ReplayState}
    (h : cache.readState access = .ok state) : state.InU64 ∧ cache.held = state.entries := by
  unfold readState at h
  unfold held
  split at h
  · rename_i hfile
    cases h
    rw [hfile]
    exact ⟨List.forall_mem_nil _, rfl⟩
  · rename_i bytes hfile
    split at h
    · cases h
    · split at h
      · cases h
      · rename_i read hread
        cases h
        rw [hfile, Option.bind_some, hread]
        exact ⟨ReplayState.inU64_of_fromVec hread, rfl⟩

theorem held_step (hu64 : call.InU64) (h : cache.Accepts ecdsa call) :
    call.Meets ecdsa ∧
      (∀ entry ∈ unexpired call.nowMs cache.held, entry.keySha256 ≠ call.entry.keySha256) ∧
      (unexpired call.nowMs cache.held).length < cache.maxEntries ∧
      (cache.step ecdsa call).held = unexpired call.nowMs cache.held ++ [call.entry] ∧
      (cache.step ecdsa call).maxEntries = cache.maxEntries := by
  rcases step_cases ecdsa cache call with
    ⟨hrefused, -⟩ | ⟨hmeets, -, state, hread, _, hnew, hroom, hstep⟩
  · exact absurd h hrefused
  · obtain ⟨hinU64, hheld⟩ := entries_of_readState hread
    rw [hheld, hstep]
    refine ⟨hmeets, hnew, hroom, ?_, rfl⟩
    have hbounded : ReplayState.InU64 ⟨1, unexpired call.nowMs state.entries ++ [call.entry]⟩ := by
      intro entry hmem
      rcases List.mem_append.1 hmem with hmem | hmem
      · exact hinU64 entry (List.mem_of_mem_filter hmem)
      · exact List.mem_singleton.1 hmem ▸ hu64
    have hone : 1 < 2 ^ 16 := by decide
    rw [held, Option.bind_some, ReplayState.fromVec_toVec hone hbounded]
    rfl

theorem step_of_not_accepts (h : ¬cache.Accepts ecdsa call) : cache.step ecdsa call = cache := by
  rcases step_cases ecdsa cache call with ⟨-, hstep⟩ | ⟨-, haccepts, -⟩
  · exact hstep
  · exact absurd haccepts h

/-- **An entry stays until it has expired.** -/
theorem mem_held_step {entry : ReplayEntry} (hu64 : call.InU64)
    (hlive : call.nowMs ≤ entry.expiresAtMs) (h : entry ∈ cache.held) :
    entry ∈ (cache.step ecdsa call).held := by
  by_cases haccepts : cache.Accepts ecdsa call
  · obtain ⟨-, -, -, hheld, -⟩ := held_step hu64 haccepts
    rw [hheld]
    exact List.mem_append_left _ (List.mem_filter.2 ⟨h, decide_eq_true hlive⟩)
  · rwa [step_of_not_accepts haccepts]

theorem mem_held_run {calls : List SessionCall} {entry : ReplayEntry}
    (hu64 : ∀ call ∈ calls, call.InU64) (hlive : ∀ call ∈ calls, call.nowMs ≤ entry.expiresAtMs)
    (h : entry ∈ cache.held) : entry ∈ (calls.foldl (step ecdsa) cache).held := by
  induction calls generalizing cache with
  | nil => exact h
  | cons call calls ih =>
    refine ih (List.forall_mem_cons.1 hu64).2
      (List.forall_mem_cons.1 hlive).2 ?_
    exact mem_held_step (hu64 call List.mem_cons_self) (hlive call List.mem_cons_self) h

/-- The file has so many entries at most. -/
def Bounded (cache : ControllerSessionReplayCache) : Prop := cache.held.length ≤ cache.maxEntries

theorem Bounded.step {ecdsa : Ecdsa} {cache : ControllerSessionReplayCache} (h : cache.Bounded)
    {call : SessionCall} (hu64 : call.InU64) : (cache.step ecdsa call).Bounded := by
  by_cases haccepts : cache.Accepts ecdsa call
  · obtain ⟨-, -, hroom, hheld, hmax⟩ := held_step hu64 haccepts
    rw [Bounded, hheld, hmax, List.length_append, List.length_singleton]
    exact hroom
  · rwa [step_of_not_accepts haccepts]

theorem Bounded.run {calls : List SessionCall} (h : cache.Bounded) (hu64 : ∀ call ∈ calls, call.InU64) :
    (calls.foldl (ControllerSessionReplayCache.step ecdsa) cache).Bounded := by
  induction calls generalizing cache with
  | nil => exact h
  | cons call calls ih =>
    exact ih (h.step (hu64 call List.mem_cons_self))
      (List.forall_mem_cons.1 hu64).2

/-- **What is used is used once while it has not expired.**  Whatever is accepted has been looked at; what
is refused leaves the file; a session is accepted again only after every session of the same name and
challenge that was accepted before has expired, and never with the same content; and the file stays within
its bound. -/
theorem consumed_while_unexpired {ecdsa : Ecdsa} {cache : ControllerSessionReplayCache}
    {calls : List SessionCall} (hu64 : ∀ call ∈ calls, call.InU64)
    (hclock : calls.Pairwise fun call later => call.nowMs ≤ later.nowMs) :
    (∀ before call after, calls = before ++ call :: after →
        ((before.foldl (step ecdsa) cache).Accepts ecdsa call → call.Meets ecdsa) ∧
        (¬(before.foldl (step ecdsa) cache).Accepts ecdsa call →
          (before.foldl (step ecdsa) cache).step ecdsa call = before.foldl (step ecdsa) cache)) ∧
      (∀ before first middle second after, calls = before ++ first :: (middle ++ second :: after) →
        (before.foldl (step ecdsa) cache).Accepts ecdsa first →
        ((before ++ first :: middle).foldl (step ecdsa) cache).Accepts ecdsa second →
        first.pair = second.pair →
          first.assertion.payload.expiresAtMs < second.nowMs ∧
            first.assertion.payload ≠ second.assertion.payload) ∧
      (cache.Bounded → ∀ before after, calls = before ++ after →
        (before.foldl (step ecdsa) cache).Bounded) := by
  refine ⟨fun before call after _ => ⟨fun haccepts => ?_, step_of_not_accepts⟩, ?_, ?_⟩
  · rcases step_cases ecdsa (before.foldl (step ecdsa) cache) call with ⟨hrefused, -⟩ | ⟨hmeets, -⟩
    · exact absurd haccepts hrefused
    · exact hmeets
  · intro before first middle second after hcalls hfirst hsecond hpair
    have hmem (call : SessionCall) (hcall : call ∈ first :: (middle ++ second :: after)) :
        call ∈ calls := hcalls ▸ List.mem_append_right _ hcall
    have hfirstU64 : first.InU64 := hu64 first (hmem first List.mem_cons_self)
    have hsecondU64 : second.InU64 := hu64 second
      (hmem second (List.mem_cons_of_mem _ (List.mem_append_right _ List.mem_cons_self)))
    obtain ⟨-, -, -, hheld, -⟩ := held_step hfirstU64 hfirst
    obtain ⟨hmeets, hnew, -⟩ := held_step hsecondU64 hsecond
    have hexpired : first.assertion.payload.expiresAtMs < second.nowMs := by
      by_contra hlive
      have hlive : second.nowMs ≤ first.assertion.payload.expiresAtMs := not_lt.1 hlive
      -- All calls in between come before the second one.
      have hbetween : ∀ call ∈ middle, call.nowMs ≤ first.assertion.payload.expiresAtMs := by
        intro call hcall
        rw [hcalls] at hclock
        obtain ⟨-, hrest, -⟩ := List.pairwise_append.1 hclock
        obtain ⟨-, -, hafter⟩ := List.pairwise_append.1 (List.pairwise_cons.1 hrest).2
        exact (hafter call hcall second List.mem_cons_self).trans hlive
      have hthere : first.entry ∈ ((before ++ first :: middle).foldl (step ecdsa) cache).held := by
        rw [List.foldl_append, List.foldl_cons]
        refine mem_held_run (fun call hcall => ?_) hbetween ?_
        · exact hu64 call (hmem call (List.mem_cons_of_mem _ (List.mem_append_left _ hcall)))
        · rw [hheld]
          exact List.mem_append_right _ List.mem_cons_self
      refine hnew first.entry (List.mem_filter.2 ⟨hthere, decide_eq_true hlive⟩) ?_
      rw [SessionCall.entry, SessionCall.entry, hpair]
    refine ⟨hexpired, fun hsame => ?_⟩
    have hlive := hmeets.unexpired
    rw [← hsame] at hlive
    exact absurd hexpired (not_lt.2 hlive)
  · intro hbounded before after hcalls
    exact hbounded.run fun call hcall => hu64 call (hcalls ▸ List.mem_append_left _ hcall)

/-! ### A session that is used twice -/

/-- No session is used twice, whatever its controller signs. -/
def ConsumedOnce : Prop :=
  ∀ (ecdsa : Ecdsa) (maxEntries : ℕ) (calls : List SessionCall), 0 < maxEntries →
    (∀ call ∈ calls, call.InU64 ∧ call.access = ⟨true, true, true, true, true⟩) →
    (calls.Pairwise fun call later => call.nowMs ≤ later.nowMs) →
    ∀ before first middle second after, calls = before ++ first :: (middle ++ second :: after) →
      (before.foldl (step ecdsa) ⟨maxEntries, none⟩).Accepts ecdsa first →
      ((before ++ first :: middle).foldl (step ecdsa) ⟨maxEntries, none⟩).Accepts ecdsa second →
        first.pair ≠ second.pair

theorem accepts_of_expired {ecdsa : Ecdsa} {cache : ControllerSessionReplayCache} {call : SessionCall}
    {state : ReplayState} {verified : VerifiedControllerSession}
    (hverify : verifyControllerSession ecdsa call.verifier call.assertion call.expectedEndpoint
      call.expectedPeerId call.expectedChallenge call.nowMs = .ok verified)
    (haccess : call.access = ⟨true, true, true, true, true⟩)
    (hread : cache.readState call.access = .ok state) (hversion : state.version = 1)
    (hexpired : unexpired call.nowMs state.entries = []) (hroom : 0 < cache.maxEntries) :
    cache.Accepts ecdsa call ∧
      cache.step ecdsa call = { cache with file := some (ReplayState.toVec ⟨1, [call.entry]⟩) } := by
  obtain ⟨hmeets, hid, hexpires⟩ := SessionCall.verifyControllerSession_eq_ok hverify
  have hexec : (consume verified.sessionId call.expectedChallenge verified.expiresAtMs call.nowMs
      call.access).exec cache
        = (.ok (), { cache with file := some (ReplayState.toVec ⟨1, [call.entry]⟩) }) := by
    obtain ⟨version, _⟩ := state
    obtain rfl : version = 1 := hversion
    dsimp only at hexpired
    have hempty : ¬([] : List ReplayEntry).length ≥ cache.maxEntries := not_le.2 hroom
    rw [consume, exec_throwIf_bind, if_neg (by rw [haccess]; decide), consumeLocked,
      exec_bind_ok (exec_get cache), exec_orThrow_bind, hread]
    dsimp only
    rw [exec_throwIf_bind, if_neg (not_not.2 rfl), hexpired, exec_throwIf_bind, if_neg,
      exec_throwIf_bind, if_neg hempty, exec_throwIf_bind, if_neg (by rw [haccess]; decide),
      hid, hexpires, ← hmeets.challenge]
    · rfl
    · rintro ⟨_, hmem, -⟩
      exact absurd hmem List.not_mem_nil
  unfold Accepts step SessionCall.verifyAndConsumeControllerSession
  rw [exec_orThrow_bind, hverify]
  dsimp only
  rw [exec_bind_ok hexec]
  exact ⟨rfl, rfl⟩

def samplePayload (expiresAtMs : ℕ) : ControllerSessionPayload where
  controllerEndpoint := "controller"
  controllerPeerId := "host"
  principalId := "user"
  sourceHostId := "host"
  sessionId := "session"
  challenge := "challenge"
  issuedAtMs := 0
  expiresAtMs

def sampleSession (nowMs : ℕ) : SessionCall where
  verifier := sampleTrust "host" 1
  assertion := ⟨samplePayload nowMs, 1 :: (samplePayload nowMs).toJson.toVec⟩
  expectedEndpoint := "controller"
  expectedPeerId := "host"
  expectedChallenge := "challenge"
  nowMs
  access := ⟨true, true, true, true, true⟩

omit [Sha256] in
theorem verify_sampleSession (nowMs : ℕ) : ∃ verified,
    verifyControllerSession sampleEcdsa (sampleSession nowMs).verifier (sampleSession nowMs).assertion
      (sampleSession nowMs).expectedEndpoint (sampleSession nowMs).expectedPeerId
      (sampleSession nowMs).expectedChallenge (sampleSession nowMs).nowMs = .ok verified := by
  have hsigned := verify_sampleTrust "host" 1 (samplePayload nowMs).toJson.toVec
  have hendpoint : ¬(samplePayload nowMs).controllerEndpoint ≠ "controller" := not_not.2 rfl
  have hpeer : ¬((samplePayload nowMs).controllerPeerId ≠ "host" ∨
      (samplePayload nowMs).sourceHostId ≠ "host") := not_or.2 ⟨not_not.2 rfl, not_not.2 rfl⟩
  have hchallenge : ¬(samplePayload nowMs).challenge ≠ "challenge" := not_not.2 rfl
  have htime : ¬(nowMs < (samplePayload nowMs).issuedAtMs ∨ nowMs > (samplePayload nowMs).expiresAtMs) :=
    not_or.2 ⟨Nat.not_lt_zero nowMs, Nat.lt_irrefl nowMs⟩
  unfold verifyControllerSession sampleSession
  dsimp only
  rw [failIf_bind, if_neg hendpoint, failIf_bind, if_neg hpeer, failIf_bind, if_neg hchallenge,
    failIf_bind, if_neg htime, ControllerSessionPayload.canonical, ok_bind, hsigned]
  exact ⟨_, rfl⟩

/-- **A controller that signs a session again gets it used again** once the first one has expired. -/
theorem sampleSession_twice :
    (step sampleEcdsa ⟨2, none⟩ (sampleSession 1)).Accepts sampleEcdsa (sampleSession 2) ∧
      Accepts sampleEcdsa ⟨2, none⟩ (sampleSession 1) := by
  obtain ⟨verified, hverify⟩ := verify_sampleSession 1
  obtain ⟨_, hverify'⟩ := verify_sampleSession 2
  obtain ⟨hfirst, hstep⟩ := @accepts_of_expired _ sampleEcdsa ⟨2, none⟩ (sampleSession 1) ⟨1, []⟩ verified
    hverify rfl rfl rfl rfl (by decide)
  refine ⟨?_, hfirst⟩
  rw [hstep]
  have hread : ReplayState.fromVec (ReplayState.toVec ⟨1, [(sampleSession 1).entry]⟩)
      = some ⟨1, [(sampleSession 1).entry]⟩ := by
    have hone : 1 < 2 ^ 16 := by decide
    refine ReplayState.fromVec_toVec hone fun entry hmem => ?_
    rw [List.mem_singleton.1 hmem]
    exact Nat.le_add_left 1 _
  refine (@accepts_of_expired _ _ _ _ ⟨1, [(sampleSession 1).entry]⟩ _ hverify' rfl ?_ rfl rfl
    Nat.two_pos).1
  rw [readState]
  dsimp only
  rw [if_neg (by decide), hread]

omit [Sha256]

/-- Sessions are used twice. -/
theorem not_consumedOnce : ¬∃ _ : Sha256, ConsumedOnce := by
  rintro ⟨hash, honce⟩
  obtain ⟨hsecond, hfirst⟩ := sampleSession_twice
  refine honce sampleEcdsa 2 [sampleSession 1, sampleSession 2] Nat.two_pos ?_ ?_ [] _ [] _ [] rfl hfirst
    hsecond rfl
  · intro call hmem
    rcases List.mem_cons.1 hmem with rfl | hmem
    · exact ⟨Nat.le_add_left 1 _, rfl⟩
    · rw [List.mem_singleton.1 hmem]
      exact ⟨Nat.le_add_left 2 _, rfl⟩
  · exact List.pairwise_pair.2 (Nat.le_succ 1)

abbrev sessionHash : Sha256 :=
  ⟨fun _ => ⟨[116, 238, 39, 35, 18, 67, 52, 201, 190, 101, 33, 187, 36, 174, 21, 148, 130, 90, 182, 117,
    142, 143, 136, 90, 51, 46, 225, 63, 99, 94, 85, 103], by decide⟩⟩

theorem sampleSession_consumed : letI := sessionHash
    (samplePayload 1).expiresAtMs < (sampleSession 2).nowMs ∧
      Bounded ([sampleSession 1, sampleSession 2].foldl (step sampleEcdsa) ⟨2, none⟩) := by
  let _ := sessionHash
  have hu64 : ∀ call ∈ [sampleSession 1, sampleSession 2], call.InU64 := by
    intro call hmem
    rcases List.mem_cons.1 hmem with rfl | hmem
    · exact Nat.le_add_left 1 _
    · rw [List.mem_singleton.1 hmem]
      exact Nat.le_add_left 2 _
  have hclock : [sampleSession 1, sampleSession 2].Pairwise fun call later => call.nowMs ≤ later.nowMs :=
    List.pairwise_pair.2 (Nat.le_succ 1)
  obtain ⟨-, honce, hbounded⟩ := @consumed_while_unexpired _ sampleEcdsa ⟨2, none⟩ _ hu64 hclock
  obtain ⟨hsecond, hfirst⟩ := sampleSession_twice
  refine ⟨(honce [] _ [] _ [] rfl hfirst hsecond rfl).1, ?_⟩
  exact hbounded (Nat.zero_le 2) _ [] (List.append_nil _).symm

end ControllerSessionReplayCache

end Registry
