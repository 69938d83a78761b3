/-
**How an agent publishes what a tool has printed.**

When a tool has succeeded, its agent registers an artifact with the registry, uploads what the tool has
written to its standard output part by part, and reports the job as completed with the artifact. Every
request is repeated where the message or the answer may have been lost, so that the registry may get a
registration or a part again that it has already taken in.

Main definitions:

* `RemoteApple.artifactServer` — the registry's side.

Main results:

* `publishes_iff` — **the artifact is published exactly if the tool has printed anything**.
-/

import DeviceLane.Library.Retry
import DeviceLane.Registry.ArtifactUploads
import DeviceLane.RemoteApple.Messages

namespace RemoteApple

open Registry Effect Retry

/-! ### The agent -/

inductive RpcError
  | invalidAddress
  | connectUnavailable
  | tls
  | io
  | responseTimeout
  | protocol
  deriving DecidableEq, Repr

def RpcError.transient : RpcError → Bool
  | connectUnavailable | responseTimeout => true
  | _ => false

inductive ArtifactStage
  | register
  | write
  deriving DecidableEq, Repr

inductive Failure
  | rpc (error : RpcError)
  | server (code : String)
  | missingMetadata
  deriving DecidableEq, Repr

abbrev PublishFailure : Type := ArtifactStage × Failure

def artifactRetries : ℕ := 2

section

variable [Sha256] {τ : Type}

def retryArtifactRpc {ρ : Type} (call : Eff τ RpcError ρ) : Eff τ RpcError ρ :=
  retry RpcError.transient call artifactRetries

def stageRpc (stage : ArtifactStage) (call : Eff τ RpcError Response) : Eff τ PublishFailure Response :=
  onPart id (fun t _ => t) (fun error => (stage, .rpc error)) (retryArtifactRpc call)

def writeChunks (call : Request → Eff τ RpcError Response) (artifactId : String) (totalSize : ℕ)
    (sha256 : String) : List (List UInt8 × ℕ) → Eff τ PublishFailure Unit
  | [] => pure ()
  | (chunk, index) :: chunks => do
      let response ← stageRpc .write
        (call (.artifactWrite artifactId (index * chunkSize) totalSize sha256 (digestText chunk) chunk))
      match response.error with
      | some code => throw (.write, .server code)
      | none => writeChunks call artifactId totalSize sha256 chunks

/-- **An artifact is published**; the identifier of it. -/
def publishArtifactWith (jobId name mediaType : String) (bytes : List UInt8)
    (call : Request → Eff τ RpcError Response) : Eff τ PublishFailure String := do
  let sha256 := digestText bytes
  let registration ← stageRpc .register
    (call (.artifactRegister jobId name mediaType bytes.length sha256))
  match registration.artifactMetadata with
  | none => throw (.register, registration.error.elim .missingMetadata .server)
  | some metadata => do
      writeChunks call metadata.id bytes.length sha256 (chunks bytes)
      pure metadata.id

end

def artifactKind (hardwareGate : Bool) : String × String :=
  if hardwareGate then ("mac-hardware-gate.tar.gz", "application/gzip")
  else ("apple-tool-output.log", "text/plain")

/-! ### The registry -/

section

variable [Sha256]

def answerOf (result : Option Response × NetworkArtifacts) : Except RpcError Response × NetworkArtifacts :=
  (result.1.elim (.error .io) .ok, result.2)

/-- The registry answers the requests of an upload, on a disk that works. -/
def artifactServer (state : DurableState) (peerId : String) :
    Request → Eff NetworkArtifacts RpcError Response
  | .artifactRegister jobId name mediaType totalSize sha256 =>
    ofRun fun store => answerOf (store.exec (.register peerId (state.jobAgents.lookup jobId)
      (state.jobClients.lookup jobId) jobId name mediaType totalSize sha256 .stored))
  | .artifactWrite artifactId offset totalSize sha256 chunkSha256 bytes =>
    ofRun fun store => answerOf (store.exec (.write peerId artifactId offset
      ⟨totalSize, sha256, chunkSha256, bytes⟩ .good .stored))
  | _ => throw .protocol

/-- The publication over a link that loses messages. -/
def publishOver (state : DurableState) (peerId jobId : String) (hardwareGate : Bool)
    (bytes : List UInt8) : Eff (NetworkArtifacts × List (Exchange RpcError)) PublishFailure String :=
  publishArtifactWith jobId (artifactKind hardwareGate).1 (artifactKind hardwareGate).2 bytes
    fun request => exchange (artifactServer state peerId request)

/-- What the artifact of a job is registered as. -/
def publishedAs (jobId : String) (hardwareGate : Bool) (bytes : List UInt8) : NetworkArtifactMetadata :=
  artifactMetadata jobId (artifactKind hardwareGate).1 (artifactKind hardwareGate).2 bytes.length
    (digestText bytes)

end

/-! ### How far an upload has come -/

section

variable [Sha256]

variable {i k : ℕ} {metadata : NetworkArtifactMetadata} {store : NetworkArtifacts} {chunk : List UInt8}
  {entry : NetworkArtifact} {exchanges : List (Exchange RpcError)}

structure Uploaded (peerId : String) (metadata : NetworkArtifactMetadata) (bytes : List UInt8) (k : ℕ)
    (store : NetworkArtifacts) (entry : NetworkArtifact) : Prop where
  lookup : store.entries.lookup metadata.id = some entry
  metadata_eq : entry.metadata = metadata
  participates : peerId ∈ entry.participants
  offset_eq : entry.confirmedOffset = min (k * chunkSize) bytes.length
  settles : (store.file metadata.id).Settles entry.confirmedOffset
  bytes_eq : (store.file metadata.id).bytes.take entry.confirmedOffset =
    bytes.take entry.confirmedOffset
  published_iff : entry.published = true ↔ entry.confirmedOffset = bytes.length
  complete : entry.published = true → (store.file metadata.id).bytes = bytes

def UploadedFrom (peerId : String) (metadata : NetworkArtifactMetadata) (bytes : List UInt8) (i : ℕ)
    (store : NetworkArtifacts) : Prop :=
  ∃ k entry, i ≤ k ∧ Uploaded peerId metadata bytes k store entry

/-- The registry does not have the artifact, or part of it from the same agent. -/
def Ready (peerId : String) (metadata : NetworkArtifactMetadata) (bytes : List UInt8)
    (store : NetworkArtifacts) : Prop :=
  store.entries.lookup metadata.id = none ∨ UploadedFrom peerId metadata bytes 0 store

omit [Sha256] in
theorem UploadedFrom.mono {peerId : String} {bytes : List UInt8} {j : ℕ}
    (h : UploadedFrom peerId metadata bytes j store) (hle : i ≤ j) :
    UploadedFrom peerId metadata bytes i store := by
  obtain ⟨k, entry, hk, hentry⟩ := h
  exact ⟨k, entry, hle.trans hk, hentry⟩

variable {state : DurableState} {peerId jobId : String} {bytes : List UInt8}

omit [Sha256] in
theorem validId_artifactKind (hardwareGate : Bool) : validId (artifactKind hardwareGate).1 = true := by
  cases hardwareGate <;> decide

theorem utf8ByteSize_digestText (bytes : List UInt8) : (digestText bytes).utf8ByteSize = 64 := by
  rw [digestText, Json.utf8ByteSize_hex, Endian.Block.toList_length]

theorem registration_ok (hardwareGate : Bool) (hagent : state.jobAgents.lookup jobId = some peerId) (hbytes : bytes ≠ []) :
    ∃ participants, peerId ∈ participants ∧
      registration peerId (state.jobAgents.lookup jobId) (state.jobClients.lookup jobId) jobId
        (artifactKind hardwareGate).1 (artifactKind hardwareGate).2 bytes.length (digestText bytes)
        = .ok (publishedAs jobId hardwareGate bytes, participants) := by
  have hchecks : ¬(bytes.length = 0 ∨ (digestText bytes).utf8ByteSize ≠ 64 ∨
      validId (artifactKind hardwareGate).1 = false ∨ (artifactKind hardwareGate).2 = "") := by
    rw [utf8ByteSize_digestText, validId_artifactKind]
    have hlength : bytes.length ≠ 0 := mt List.length_eq_zero_iff.1 hbytes
    have hmedia : (artifactKind hardwareGate).2 ≠ "" := by cases hardwareGate <;> decide
    simp [hlength, hmedia]
  have hregistration : registration peerId (state.jobAgents.lookup jobId)
      (state.jobClients.lookup jobId) jobId (artifactKind hardwareGate).1 (artifactKind hardwareGate).2
      bytes.length (digestText bytes) = .ok (publishedAs jobId hardwareGate bytes,
        insert peerId ((state.jobClients.lookup jobId).elim ∅ fun client => {client})) := by
    rw [registration, if_neg (not_not_intro hagent), if_neg hchecks]
    rfl
  exact ⟨_, Finset.mem_insert_self peerId _, hregistration⟩

omit [Sha256] in
theorem uploaded_register {participants : Finset String} (hpositive : bytes ≠ [])
    (hmem : peerId ∈ participants) (h : Ready peerId metadata bytes store) :
    UploadedFrom peerId metadata bytes 0 (store.register metadata participants .stored).2 := by
  rcases h with hnone | ⟨k, entry, -, hentry⟩
  · refine ⟨0, { metadata, participants, confirmedOffset := 0, published := false }, Nat.le_refl 0, ?_⟩
    have hzero : 0 ≠ bytes.length := (List.length_pos_iff.2 hpositive).ne
    simp only [NetworkArtifacts.register, hnone]
    exact
      { lookup := Map.lookup_insert_self _ _ _
        metadata_eq := rfl
        participates := hmem
        offset_eq := by rw [Nat.zero_mul, Nat.zero_min]
        settles := DiskFile.settles_zero _
        bytes_eq := rfl
        published_iff := by simp [hzero]
        complete := Bool.noConfusion }
  · refine ⟨k, { entry with participants := entry.participants ∪ participants }, Nat.zero_le k, ?_⟩
    simp only [NetworkArtifacts.register, hentry.lookup]
    exact
      { lookup := Map.lookup_insert_self _ _ _
        metadata_eq := hentry.metadata_eq
        participates := Finset.mem_union_left _ hentry.participates
        offset_eq := hentry.offset_eq
        settles := hentry.settles
        bytes_eq := hentry.bytes_eq
        published_iff := hentry.published_iff
        complete := hentry.complete }

/-- **A registration is answered**, also when it comes again. -/
theorem exec_register (hardwareGate : Bool) (hagent : state.jobAgents.lookup jobId = some peerId)
    (hbytes : bytes ≠ []) (h : Ready peerId (publishedAs jobId hardwareGate bytes) bytes store) :
    ∃ response store', (artifactServer state peerId (.artifactRegister jobId
        (artifactKind hardwareGate).1 (artifactKind hardwareGate).2 bytes.length
        (digestText bytes))).exec store = (.ok response, store') ∧
      response.artifactMetadata = some (publishedAs jobId hardwareGate bytes) ∧
      UploadedFrom peerId (publishedAs jobId hardwareGate bytes) bytes 0 store' := by
  obtain ⟨participants, hmem, hregistration⟩ := registration_ok hardwareGate hagent hbytes
  have hexec : (artifactServer state peerId (.artifactRegister jobId (artifactKind hardwareGate).1
      (artifactKind hardwareGate).2 bytes.length (digestText bytes))).exec store =
      (.ok { response with artifactMetadata := some (publishedAs jobId hardwareGate bytes) },
        (store.register (publishedAs jobId hardwareGate bytes) participants .stored).2) := by
    simp only [artifactServer, exec_ofRun, NetworkArtifacts.exec, hregistration, answerOf,
      Option.elim_some]
    rfl
  exact ⟨_, _, hexec, rfl, uploaded_register hbytes hmem h⟩

structure IsChunk (bytes chunk : List UInt8) (i : ℕ) : Prop where
  chunk_eq : chunk = (bytes.drop (i * chunkSize)).take chunkSize
  inside : i * chunkSize < bytes.length

section

omit [Sha256]

theorem IsChunk.bounds (h : IsChunk bytes chunk i) :
    i * chunkSize = min (i * chunkSize) bytes.length ∧
      i * chunkSize + chunk.length = min ((i + 1) * chunkSize) bytes.length ∧ 0 < chunk.length ∧
        chunk.length ≤ chunkSize := by
  have hlength : chunk.length = min chunkSize (bytes.length - i * chunkSize) := by
    rw [h.chunk_eq, List.length_take, List.length_drop]
  have hinside := h.inside
  have hsize : 0 < chunkSize := by decide
  rw [Nat.succ_mul]
  omega

theorem IsChunk.take_append (h : IsChunk bytes chunk i) :
    bytes.take (i * chunkSize) ++ chunk = bytes.take (i * chunkSize + chunk.length) := by
  obtain ⟨-, -, -, _⟩ := h.bounds
  have htake : (bytes.drop (i * chunkSize)).take chunk.length = chunk := by
    conv_rhs => rw [h.chunk_eq]
    rw [h.chunk_eq, List.length_take, List.take_eq_take_iff]
    omega
  rw [List.take_add, htake]

theorem replay_uploaded (h : Uploaded peerId metadata bytes k store entry) (hik : i < k)
    (hchunk : IsChunk bytes chunk i) (hlength : bytes.length ≤ i64Max) :
    store.replay entry metadata.id (i * chunkSize) chunk .good .stored =
      (some (NetworkArtifacts.confirmed entry.confirmedOffset), store.persist .stored) := by
  obtain ⟨-, _, -, -⟩ := hchunk.bounds
  have hle : (i + 1) * chunkSize ≤ k * chunkSize := Nat.mul_le_mul_right _ hik
  have hoffset := h.offset_eq
  have hfile := h.settles.1
  have hmax : i64Max < Dashboard.u64Max := by decide
  have hfits : ¬Dashboard.u64Max < i * chunkSize + chunk.length := by omega
  have hconfirmed : ¬entry.confirmedOffset < i * chunkSize + chunk.length := by omega
  have hread : NetworkArtifacts.readExact .good (store.file metadata.id) (i * chunkSize) chunk.length =
      some chunk := by
    have hbytes := congrArg (fun l => (l.drop (i * chunkSize)).take chunk.length) h.bytes_eq
    rw [List.drop_take, List.drop_take, List.take_take, List.take_take,
      Nat.min_eq_left (by omega)] at hbytes
    have hwhole : (bytes.drop (i * chunkSize)).take chunk.length = chunk := by
      have happend := hchunk.take_append
      rw [List.take_add] at happend
      exact (List.append_cancel_left happend).symm
    rw [NetworkArtifacts.readExact, if_pos ⟨rfl, by omega⟩, hbytes, hwhole]
  rw [NetworkArtifacts.replay, if_neg hfits, if_neg hconfirmed, hread, if_neg (not_not_intro rfl),
    if_pos rfl]

theorem putChunk_uploaded (h : Uploaded peerId metadata bytes k store entry)
    (hchunk : IsChunk bytes chunk k) (hlength : bytes.length ≤ i64Max) :
    ∃ file : DiskFile, NetworkArtifacts.putChunk .good (store.file metadata.id) entry.confirmedOffset chunk
        = (true, file) ∧ file.loose = none ∧
      file.bytes = bytes.take (entry.confirmedOffset + chunk.length) := by
  obtain ⟨hstart, _, -, -⟩ := hchunk.bounds
  have hoffset : entry.confirmedOffset = k * chunkSize := h.offset_eq.trans hstart.symm
  have hput : (NetworkArtifacts.putChunk .good (store.file metadata.id) entry.confirmedOffset chunk).1
      = true := by
    have hseek : ¬i64Max < entry.confirmedOffset := by omega
    have hsize : ¬i64Max < entry.confirmedOffset + chunk.length := by omega
    simp [NetworkArtifacts.putChunk, FileAccess.good, hseek, hsize]
  obtain ⟨-, hloose, hbytes⟩ := (NetworkArtifacts.putChunk_cases .good h.settles chunk).2 hput
  refine ⟨_, Prod.ext hput rfl, hloose, ?_⟩
  rw [hbytes, h.bytes_eq, hoffset, hchunk.take_append]

end

def laterEntry (entry : NetworkArtifact) (length : ℕ) : NetworkArtifact :=
  { entry with
    confirmedOffset := entry.confirmedOffset + length
    published := entry.published || entry.confirmedOffset + length = entry.metadata.totalSize }

def storeWith (store : NetworkArtifacts) (artifactId : String) (file : DiskFile)
    (entry : NetworkArtifact) : NetworkArtifacts :=
  { store with
    files := store.files.insert artifactId file
    entries := store.entries.insert artifactId entry
    index := store.entries.insert artifactId entry }

omit [Sha256] in
theorem file_storeWith (store : NetworkArtifacts) (artifactId : String) (file : DiskFile)
    (entry : NetworkArtifact) : (storeWith store artifactId file entry).file artifactId = file :=
  (NetworkArtifacts.file_setFile store artifactId file artifactId).trans (if_pos rfl)

theorem append_uploaded (h : Uploaded peerId metadata bytes k store entry)
    (hchunk : IsChunk bytes chunk k) (hlength : bytes.length ≤ i64Max)
    (htotal : metadata.totalSize = bytes.length) (hsha : metadata.sha256 = digestText bytes) :
    ∃ store', store.append entry metadata.id chunk .good .stored =
        (NetworkArtifacts.confirmed (entry.confirmedOffset + chunk.length), store') ∧
      Uploaded peerId metadata bytes (k + 1) store' (laterEntry entry chunk.length) := by
  obtain ⟨hstart, _, _, -⟩ := hchunk.bounds
  have hinside := hchunk.inside
  have hoffset : entry.confirmedOffset = k * chunkSize := h.offset_eq.trans hstart.symm
  obtain ⟨file, hput, hloose, hbytes⟩ := putChunk_uploaded h hchunk hlength
  have hopen : entry.published = false := by
    rw [Bool.eq_false_iff, Ne, h.published_iff]
    omega
  have hfile : (store.setFile metadata.id file).file metadata.id = file := by
    rw [NetworkArtifacts.file_setFile, if_pos rfl]
  -- Only the last part ends at the size of the artifact, and then the file holds all bytes.
  have hdigest : ¬(entry.confirmedOffset + chunk.length = entry.metadata.totalSize ∧
      digestText file.bytes ≠ entry.metadata.sha256) := by
    rw [h.metadata_eq, htotal, hsha]
    rintro ⟨hlast, hne⟩
    rw [hbytes, hlast, List.take_length] at hne
    exact hne rfl
  have happend : store.append entry metadata.id chunk .good .stored =
      (NetworkArtifacts.confirmed (entry.confirmedOffset + chunk.length),
        storeWith store metadata.id file (laterEntry entry chunk.length)) := by
    rw [NetworkArtifacts.append, if_neg (Bool.noConfusion : ¬FileAccess.good.opens = false), hput]
    dsimp only
    rw [if_pos rfl, NetworkArtifacts.confirm, if_neg (fun hhash => Bool.noConfusion hhash.2), hfile, if_neg hdigest, if_pos rfl]
    rfl
  refine ⟨_, happend, ?_⟩
  have hlater : (laterEntry entry chunk.length).confirmedOffset = entry.confirmedOffset + chunk.length :=
    rfl
  have hpublished : (laterEntry entry chunk.length).published = true ↔
      entry.confirmedOffset + chunk.length = bytes.length := by
    rw [laterEntry, hopen, Bool.false_or, decide_eq_true_iff, h.metadata_eq, htotal]
  exact
    { lookup := Map.lookup_insert_self _ _ _
      metadata_eq := h.metadata_eq
      participates := h.participates
      offset_eq := by
        rw [hlater]
        omega
      settles := by
        rw [file_storeWith, hlater]
        refine ⟨?_, fun position hposition => by rw [hloose] at hposition; cases hposition⟩
        rw [hbytes, List.length_take]
        omega
      bytes_eq := by rw [file_storeWith, hlater, hbytes, List.take_take, Nat.min_self]
      published_iff := hpublished
      complete := by
        intro hp
        rw [file_storeWith, hbytes, hpublished.1 hp, List.take_length] }

/-- **A part is answered**, also when it comes again. -/
theorem exec_write (state : DurableState) (h : UploadedFrom peerId metadata bytes i store)
    (hchunk : IsChunk bytes chunk i) (hlength : bytes.length ≤ i64Max)
    (htotal : metadata.totalSize = bytes.length) (hsha : metadata.sha256 = digestText bytes) :
    ∃ response store', (artifactServer state peerId (.artifactWrite metadata.id (i * chunkSize)
        bytes.length (digestText bytes) (digestText chunk) chunk)).exec store = (.ok response, store') ∧
      response.error = none ∧ UploadedFrom peerId metadata bytes (i + 1) store' := by
  obtain ⟨k, entry, hik, hentry⟩ := h
  obtain ⟨_, _, _, _⟩ := hchunk.bounds
  have hinside := hchunk.inside
  have hoffset := hentry.offset_eq
  have hmax : i64Max < Dashboard.u64Max := by decide
  have hsame : ¬(bytes.length ≠ entry.metadata.totalSize ∨ digestText bytes ≠ entry.metadata.sha256) := by
    rw [hentry.metadata_eq, htotal, hsha]
    simp
  have hfits : ¬(chunk = [] ∨ maxArtifactChunk < chunk.length ∨
      bytes.length < Dashboard.saturatingAdd (i * chunkSize) chunk.length) := by
    have hchunkSize : chunkSize = maxArtifactChunk := rfl
    rw [← List.length_eq_zero_iff, Dashboard.saturatingAdd]
    omega
  have hwrite : store.exec (.write peerId metadata.id (i * chunkSize)
      ⟨bytes.length, digestText bytes, digestText chunk, chunk⟩ .good .stored) =
      if i * chunkSize < entry.confirmedOffset then
        store.replay entry metadata.id (i * chunkSize) chunk .good .stored
      else if i * chunkSize ≠ entry.confirmedOffset then
        (some (errorResponse "invalid_offset"), store)
      else
        (some (store.append entry metadata.id chunk .good .stored).1,
          (store.append entry metadata.id chunk .good .stored).2) := by
    rw [NetworkArtifacts.exec, NetworkArtifacts.write, hentry.lookup]
    dsimp only
    rw [if_neg (not_not_intro hentry.participates), if_neg hsame, if_neg hfits,
      if_neg (not_not_intro rfl)]
  have hserver : (artifactServer state peerId (.artifactWrite metadata.id (i * chunkSize)
      bytes.length (digestText bytes) (digestText chunk) chunk)).exec store =
      answerOf (store.exec (.write peerId metadata.id (i * chunkSize)
        ⟨bytes.length, digestText bytes, digestText chunk, chunk⟩ .good .stored)) := rfl
  rw [hserver, hwrite]
  rcases Nat.lt_or_eq_of_le hik with hbefore | rfl
  · have hle : (i + 1) * chunkSize ≤ k * chunkSize := Nat.mul_le_mul_right _ hbefore
    have hconfirmed : i * chunkSize < entry.confirmedOffset := by omega
    rw [if_pos hconfirmed, replay_uploaded hentry hbefore hchunk hlength]
    refine ⟨_, _, rfl, rfl, k, entry, hbefore, ?_⟩
    exact { hentry with }
  · obtain ⟨store', happend, hlater⟩ := append_uploaded hentry hchunk hlength htotal hsha
    rw [if_neg (by omega), if_neg (by omega), happend]
    exact ⟨_, _, rfl, rfl, _, _, Nat.le_refl _, hlater⟩

/-! ### Over the link -/

/-- A link that loses no more messages in a row than the agent makes up for. -/
def Usable (exchanges : List (Exchange RpcError)) : Prop :=
  Tolerable RpcError.transient artifactRetries artifactRetries exchanges

omit [Sha256] in
theorem exec_stageRpc (stage : ArtifactStage) {server : Eff NetworkArtifacts RpcError Response}
    {I J : NetworkArtifacts → Prop} {R : Response → Prop}
    (hserver : ∀ store, I store → ∃ response store', server.exec store = (.ok response, store') ∧
      R response ∧ J store') (hagain : ∀ store, J store → I store) (hI : I store)
    (h : Usable exchanges) :
    ∃ response store' later, (stageRpc stage (exchange server)).exec (store, exchanges) =
        (.ok response, (store', later)) ∧ R response ∧ J store' ∧ Usable later := by
  obtain ⟨response, store', later, hexec, hR, hJ, hlater⟩ := retry_exchange hserver hagain hI h
  refine ⟨response, store', later, ?_, hR, hJ, hlater⟩
  rw [stageRpc, exec_onPart, retryArtifactRpc, id, hexec]
  rfl

/-- **All parts are taken in**, one after the other. -/
theorem exec_writeChunks (state : DurableState) (hlength : bytes.length ≤ i64Max)
    (htotal : metadata.totalSize = bytes.length) (hsha : metadata.sha256 = digestText bytes)
    {parts : List (List UInt8)} (hparts : ∀ part ∈ parts.zipIdx i, IsChunk bytes part.1 part.2)
    (h : UploadedFrom peerId metadata bytes i store) (hlink : Usable exchanges) :
    ∃ store' later, (writeChunks (fun request => exchange (artifactServer state peerId request))
        metadata.id bytes.length (digestText bytes) (parts.zipIdx i)).exec (store, exchanges) =
        (.ok (), (store', later)) ∧
      UploadedFrom peerId metadata bytes (i + parts.length) store' := by
  induction parts generalizing i store exchanges with
  | nil => exact ⟨store, exchanges, rfl, h⟩
  | cons chunk parts ih =>
    obtain ⟨hchunk, hrest⟩ := List.forall_mem_cons.1 hparts
    obtain ⟨_, _, later, hexec, herror, hwritten, hlater⟩ :=
      exec_stageRpc .write (fun _ h => exec_write state h hchunk hlength htotal hsha)
        (fun _ hagain => hagain.mono (Nat.le_succ i)) h hlink
    obtain ⟨store', last, hwrites, huploaded⟩ := ih hrest hwritten hlater
    refine ⟨store', last, ?_, ?_⟩
    · rw [List.zipIdx_cons, writeChunks, exec_bind_ok hexec, herror]
      exact hwrites
    · rw [List.length_cons, Nat.add_comm parts.length, ← Nat.add_assoc]
      exact huploaded

/-! ### The artifact is published -/

/-- The identifier is returned, the registry has the artifact with exactly these bytes, and the job is
reported as completed with it. -/
structure Publishes (metadata : NetworkArtifactMetadata) (bytes : List UInt8)
    (result : Except PublishFailure String × (NetworkArtifacts × List (Exchange RpcError))) : Prop where
  returned : result.1 = .ok metadata.id
  published : ∃ entry, result.2.1.entries.lookup metadata.id = some entry ∧ entry.metadata = metadata ∧
    entry.published = true ∧ (result.2.1.file metadata.id).bytes = bytes
  completed : ∀ sequence rejectionCode,
    jobTerminalEvent sequence false true result.1.toOption rejectionCode =
      ⟨sequence, "completed", metadata.id⟩

theorem publishedAs_id_ne (jobId : String) (hardwareGate : Bool) (bytes : List UInt8) :
    (publishedAs jobId hardwareGate bytes).id ≠ "" := by
  intro hempty
  have hsize : (publishedAs jobId hardwareGate bytes).id.utf8ByteSize = 64 := utf8ByteSize_digestText _
  rw [hempty] at hsize
  cases hsize

theorem publishes_of_uploaded {hardwareGate : Bool} (hall : bytes.length ≤ k * chunkSize)
    {later : List (Exchange RpcError)}
    (h : UploadedFrom peerId (publishedAs jobId hardwareGate bytes) bytes k store) :
    Publishes (publishedAs jobId hardwareGate bytes) bytes
      (.ok (publishedAs jobId hardwareGate bytes).id, (store, later)) := by
  obtain ⟨n, entry, hle, hentry⟩ := h
  have hmore : k * chunkSize ≤ n * chunkSize := Nat.mul_le_mul_right _ hle
  have hoffset := hentry.offset_eq
  have hpublished := hentry.published_iff.2 (by omega)
  have hne := publishedAs_id_ne jobId hardwareGate bytes
  refine ⟨rfl, ⟨entry, hentry.lookup, hentry.metadata_eq, hpublished, hentry.complete hpublished⟩, ?_⟩
  intro _ _
  simp [jobTerminalEvent, Except.toOption, Option.filter, hne]

theorem exec_register_empty (hardwareGate : Bool) (hagent : state.jobAgents.lookup jobId = some peerId)
    (store : NetworkArtifacts) :
    (artifactServer state peerId (.artifactRegister jobId (artifactKind hardwareGate).1
        (artifactKind hardwareGate).2 0 (digestText []))).exec store =
      (.ok (errorResponse "invalid_artifact_metadata"), store) := by
  have hregistration : registration peerId (state.jobAgents.lookup jobId)
      (state.jobClients.lookup jobId) jobId (artifactKind hardwareGate).1 (artifactKind hardwareGate).2 0
      (digestText []) = .error (errorResponse "invalid_artifact_metadata") := by
    rw [registration, if_neg (not_not_intro hagent), if_pos (.inl rfl)]
  simp only [artifactServer, exec_ofRun, NetworkArtifacts.exec, hregistration, answerOf,
    Option.elim_some]

theorem exec_publishOver_empty (hardwareGate : Bool)
    (hagent : state.jobAgents.lookup jobId = some peerId) (store : NetworkArtifacts)
    (hlink : Usable exchanges) :
    ((publishOver state peerId jobId hardwareGate []).exec (store, exchanges)).1 =
      .error (.register, .server "invalid_artifact_metadata") := by
  have hserver : ∀ store : NetworkArtifacts, True → ∃ response store',
      (artifactServer state peerId (.artifactRegister jobId (artifactKind hardwareGate).1
        (artifactKind hardwareGate).2 0 (digestText []))).exec store = (.ok response, store') ∧
      response = errorResponse "invalid_artifact_metadata" ∧ True := fun store _ =>
    ⟨_, _, exec_register_empty hardwareGate hagent store, rfl, trivial⟩
  obtain ⟨response, store', _, hexec, rfl, -, -⟩ :=
    exec_stageRpc .register hserver (fun _ _ => trivial) (trivial : True) hlink
  rw [publishOver, publishArtifactWith, List.length_nil, exec_bind_ok hexec]
  rfl

/-- **The artifact is published exactly if the tool has printed anything.** -/
theorem publishes_iff (hardwareGate : Bool) (hagent : state.jobAgents.lookup jobId = some peerId)
    (hlength : bytes.length ≤ i64Max) {store : NetworkArtifacts}
    (hready : Ready peerId (publishedAs jobId hardwareGate bytes) bytes store)
    {exchanges : List (Exchange RpcError)} (hlink : Usable exchanges) :
    Publishes (publishedAs jobId hardwareGate bytes) bytes
        ((publishOver state peerId jobId hardwareGate bytes).exec (store, exchanges)) ↔
      bytes ≠ [] := by
  constructor
  · rintro h rfl
    have hreturned := h.returned
    rw [exec_publishOver_empty hardwareGate hagent store hlink] at hreturned
    cases hreturned
  · intro hbytes
    have hsize : chunkSize ≠ 0 := by decide
    obtain ⟨response, registered, later, hexec, hmetadata, huploaded, hlater⟩ :=
      exec_stageRpc .register (fun store h => exec_register hardwareGate hagent hbytes h)
        (fun _ h => .inr h) hready hlink
    have hparts : ∀ part ∈ (Cut.cut chunkSize bytes).zipIdx 0, IsChunk bytes part.1 part.2 := by
      intro part hpart
      obtain ⟨j, hindex, hpart, hinside⟩ := Cut.of_mem_zipIdx_cut hsize hbytes hpart
      rw [Nat.zero_add] at hindex
      rw [← hindex] at hpart hinside
      exact ⟨hpart, hinside⟩
    obtain ⟨store', last, hwrites, hall⟩ :=
      exec_writeChunks state hlength rfl rfl hparts huploaded hlater
    have hrun : (publishOver state peerId jobId hardwareGate bytes).exec (store, exchanges) =
        (.ok (publishedAs jobId hardwareGate bytes).id, (store', last)) := by
      rw [publishOver, publishArtifactWith, exec_bind_ok hexec, hmetadata]
      dsimp only
      rw [chunks, if_neg hbytes, exec_bind_ok hwrites]
      rfl
    rw [hrun]
    rw [Nat.zero_add] at hall
    exact publishes_of_uploaded (Cut.length_le_mul hsize hbytes) hall

end

/-! ### A tool that prints nothing -/

def assigned : DurableState :=
  { DurableState.empty with jobAgents := (∅ : Map String String).insert "job" "agent" }

abbrev hiHash : Sha256 :=
  ⟨fun bytes => if bytes = [104, 105] then
      ⟨[143, 67, 67, 70, 100, 143, 107, 150, 223, 137, 221, 169, 1, 197, 23, 107, 16, 166, 216, 57, 97, 221,
        60, 26, 200, 139, 89, 178, 220, 50, 122, 164], by decide⟩
    else
      ⟨[223, 236, 55, 31, 187, 108, 233, 86, 197, 152, 206, 225, 207, 137, 80, 161, 5, 32, 57, 173, 183, 57,
        100, 96, 157, 254, 105, 105, 85, 245, 56, 176], by decide⟩⟩

/-- The registration arrives, but its answer is lost; then the request for the only part is lost twice. -/
theorem publishes_assigned : letI := hiHash
    Publishes (publishedAs "job" false [104, 105]) [104, 105]
        ((publishOver assigned "agent" "job" false [104, 105]).exec
          (NetworkArtifacts.empty, [.lost true .responseTimeout, .answered, .lost false .connectUnavailable,
            .lost false .responseTimeout, .answered])) ↔
      ([104, 105] : List UInt8) ≠ [] := by
  let _ := hiHash
  exact publishes_iff false rfl (by decide) (.inl rfl) ⟨rfl, rfl, rfl, trivial⟩

/-- The output of every successful tool is published. -/
def AlwaysPublishes [Sha256] : Prop :=
  ∀ (state : DurableState) (peerId jobId : String) (hardwareGate : Bool) (bytes : List UInt8)
    (store : NetworkArtifacts) (exchanges : List (Exchange RpcError)),
    state.jobAgents.lookup jobId = some peerId → bytes.length ≤ i64Max →
    Ready peerId (publishedAs jobId hardwareGate bytes) bytes store → Usable exchanges →
    Publishes (publishedAs jobId hardwareGate bytes) bytes
      ((publishOver state peerId jobId hardwareGate bytes).exec (store, exchanges))

/-- A tool that has succeeded without printing anything. -/
theorem not_alwaysPublishes : ¬∃ _ : Sha256, AlwaysPublishes := by
  rintro ⟨_, hall⟩
  have hlink : Usable [] := trivial
  have hpublishes := hall assigned "agent" "job" false [] .empty [] rfl (Nat.zero_le _) (.inl rfl) hlink
  have hreturned := hpublishes.returned
  rw [exec_publishOver_empty false rfl _ hlink] at hreturned
  cases hreturned

end RemoteApple
