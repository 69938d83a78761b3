/-
**Artifacts that are uploaded in chunks.**

The agent of a job registers an artifact with its size and its digest, and uploads it in chunks, one
after the other; the client of the job reads it when it is complete. The store keeps the bytes in a file
of the artifact, and in an index how far the upload has come. The file and the index are written one
after the other, and either may fail.

Main definitions:

* `Registry.NetworkArtifacts` — the entries, the files, and the index on the disk.
-/

import DeviceLane.Library.DiskFile
import DeviceLane.Registry.Protocol

namespace Registry

open Dashboard (saturatingAdd u64Max)

inductive DiskWrite
  | stored
  | inDoubt
  | failed
  deriving DecidableEq, Repr

def DiskWrite.lands : DiskWrite → Bool
  | failed => false
  | _ => true

def maxArtifactChunk : ℕ := 64 * 1024

/-- No file is longer, and there is no position behind it. -/
def i64Max : ℕ := 2 ^ 63 - 1

structure NetworkArtifact where
  metadata : NetworkArtifactMetadata
  participants : Finset String
  confirmedOffset : ℕ
  published : Bool
  deriving DecidableEq

structure NetworkArtifacts where
  entries : Map String NetworkArtifact
  files : Map String DiskFile
  index : Map String NetworkArtifact

/-- What becomes of the operations on the file of an artifact, in the order in which they are made. A
write that fails has written some of the bytes. -/
structure FileAccess where
  opens : Bool
  seeks : Bool
  writes : Option ℕ
  sizes : Bool
  syncs : Bool
  hashes : Bool
  truncates : Bool
  reads : Bool
  deriving DecidableEq, Repr

def FileAccess.good : FileAccess :=
  { opens := true
    seeks := true
    writes := none
    sizes := true
    syncs := true
    hashes := true
    truncates := true
    reads := true }

structure ArtifactWrite where
  totalSize : ℕ
  sha256 : String
  chunkSha256 : String
  bytes : List UInt8
  deriving DecidableEq, Repr

section

variable [Sha256]

def digestText (bytes : List UInt8) : String := hex (Sha256.digest bytes).toList

def artifactMetadata (jobId name mediaType : String) (totalSize : ℕ) (sha256 : String) :
    NetworkArtifactMetadata :=
  { id := digestText (Endian.textBytes (jobId ++ "\x00" ++ name ++ "\x00" ++ sha256))
    jobId
    name
    mediaType
    totalSize
    sha256 }

/-- What an agent may register, with those who may take part in the upload. -/
def registration (peerId : String) (jobAgent jobClient : Option String)
    (jobId name mediaType : String) (totalSize : ℕ) (sha256 : String) :
    Except Response (NetworkArtifactMetadata × Finset String) :=
  if jobAgent ≠ some peerId then
    .error (errorResponse "artifact_access_denied")
  else if totalSize = 0 ∨ sha256.utf8ByteSize ≠ 64 ∨ validId name = false ∨ mediaType = "" then
    .error (errorResponse "invalid_artifact_metadata")
  else
    .ok (artifactMetadata jobId name mediaType totalSize sha256,
      Insert.insert peerId (jobClient.elim ∅ fun client => {client}))

end

namespace NetworkArtifacts

def empty : NetworkArtifacts :=
  { entries := ∅
    files := ∅
    index := ∅ }

/-- A file that is not there reads like an empty one. -/
def file (store : NetworkArtifacts) (artifactId : String) : DiskFile :=
  (store.files.lookup artifactId).getD DiskFile.empty

def setFile (store : NetworkArtifacts) (artifactId : String) (file : DiskFile) : NetworkArtifacts :=
  { store with files := store.files.insert artifactId file }

def persist (store : NetworkArtifacts) (write : DiskWrite) : NetworkArtifacts :=
  if write.lands then { store with index := store.entries } else store

def persistFailed : Response := errorResponse "persistence_failed"

/-- A registered artifact gets an entry, or its entry gets more participants. -/
def register (store : NetworkArtifacts) (metadata : NetworkArtifactMetadata)
    (participants : Finset String) (indexWrite : DiskWrite) : Response × NetworkArtifacts :=
  let entry : NetworkArtifact :=
    match store.entries.lookup metadata.id with
    | some entry => { entry with participants := entry.participants ∪ participants }
    | none =>
      { metadata
        participants
        confirmedOffset := 0
        published := false }
  (if indexWrite = .stored then { response with artifactMetadata := some metadata } else persistFailed,
    persist { store with entries := store.entries.insert metadata.id entry } indexWrite)

def putChunk (access : FileAccess) (file : DiskFile) (offset : ℕ) (bytes : List UInt8) :
    Bool × DiskFile :=
  if access.seeks = false ∨ i64Max < offset then
    (false, file)
  else
    match access.writes with
    | some written => (false, file.writeAt offset (bytes.take written))
    | none =>
      let written := file.writeAt offset bytes
      if access.sizes = false ∨ i64Max < offset + bytes.length then (false, written)
      else if access.syncs = false then (false, written.setLen (offset + bytes.length))
      else (true, (written.setLen (offset + bytes.length)).sync)

def readExact (access : FileAccess) (file : DiskFile) (offset length : ℕ) : Option (List UInt8) :=
  if access.reads = true ∧ offset + length ≤ file.bytes.length then
    some ((file.bytes.drop offset).take length)
  else
    none

def confirmed (offset : ℕ) : Response := { response with confirmedOffset := some offset }

section

variable [Sha256]

def replay (store : NetworkArtifacts) (entry : NetworkArtifact) (artifactId : String) (offset : ℕ)
    (bytes : List UInt8) (access : FileAccess) (indexWrite : DiskWrite) :
    Option Response × NetworkArtifacts :=
  if u64Max < offset + bytes.length then
    (none, store)
  else if entry.confirmedOffset < offset + bytes.length then
    (some (errorResponse "invalid_offset"), store)
  else if readExact access (store.file artifactId) offset bytes.length ≠ some bytes then
    (some (errorResponse "chunk_conflict"), store)
  else
    (some (if indexWrite = .stored then confirmed entry.confirmedOffset else persistFailed),
      store.persist indexWrite)

/-- The next chunk, which is in the file, is confirmed. The last one has to give the digest of the
artifact. -/
def confirm (store : NetworkArtifacts) (entry : NetworkArtifact) (artifactId : String)
    (bytes : List UInt8) (access : FileAccess) (indexWrite : DiskWrite) :
    Response × NetworkArtifacts :=
  let nextOffset := entry.confirmedOffset + bytes.length
  if nextOffset = entry.metadata.totalSize ∧ access.hashes = false then
    (errorResponse "artifact_io", store)
  else if nextOffset = entry.metadata.totalSize ∧
      digestText (store.file artifactId).bytes ≠ entry.metadata.sha256 then
    if access.truncates then
      (errorResponse "artifact_hash_mismatch",
        store.setFile artifactId ((store.file artifactId).setLen entry.confirmedOffset))
    else
      (errorResponse "artifact_io", store)
  else
    (if indexWrite = .stored then confirmed nextOffset else persistFailed,
      persist
        { store with
          entries := store.entries.insert artifactId
            { entry with
              confirmedOffset := nextOffset
              published := entry.published || nextOffset = entry.metadata.totalSize } }
        indexWrite)

/-- The next chunk goes into the file, and is confirmed. -/
def append (store : NetworkArtifacts) (entry : NetworkArtifact) (artifactId : String)
    (bytes : List UInt8) (access : FileAccess) (indexWrite : DiskWrite) :
    Response × NetworkArtifacts :=
  if access.opens = false then
    (errorResponse "artifact_io", store)
  else
    let put := putChunk access (store.file artifactId) entry.confirmedOffset bytes
    let written := store.setFile artifactId put.2
    if put.1 then
      written.confirm entry artifactId bytes access indexWrite
    else
      (errorResponse "artifact_io", written)

/-- **A chunk is uploaded.**  Without a response the code has panicked: the position behind the chunk is
beyond the largest number. -/
def write (store : NetworkArtifacts) (peerId artifactId : String) (offset : ℕ) (write : ArtifactWrite)
    (access : FileAccess) (indexWrite : DiskWrite) : Option Response × NetworkArtifacts :=
  match store.entries.lookup artifactId with
  | none => (some (errorResponse "unknown_artifact"), store)
  | some entry =>
    if peerId ∉ entry.participants then
      (some (errorResponse "artifact_access_denied"), store)
    else if write.totalSize ≠ entry.metadata.totalSize ∨ write.sha256 ≠ entry.metadata.sha256 then
      (some (errorResponse "artifact_metadata_mismatch"), store)
    else if write.bytes = [] ∨ maxArtifactChunk < write.bytes.length ∨
        write.totalSize < saturatingAdd offset write.bytes.length then
      (some (errorResponse "invalid_chunk_length"), store)
    else if digestText write.bytes ≠ write.chunkSha256 then
      (some (errorResponse "chunk_hash_mismatch"), store)
    else if offset < entry.confirmedOffset then
      store.replay entry artifactId offset write.bytes access indexWrite
    else if offset ≠ entry.confirmedOffset then
      (some (errorResponse "invalid_offset"), store)
    else
      let result := store.append entry artifactId write.bytes access indexWrite
      (some result.1, result.2)

end

/-- **A chunk is read.** -/
def read (store : NetworkArtifacts) (peerId artifactId : String) (offset length totalSize : ℕ)
    (sha256 : String) (access : FileAccess) : Response :=
  match store.entries.lookup artifactId with
  | none => errorResponse "unknown_artifact"
  | some entry =>
    if peerId ∉ entry.participants then
      errorResponse "artifact_access_denied"
    else if entry.published = false then
      errorResponse "artifact_not_published"
    else if totalSize ≠ entry.metadata.totalSize ∨ sha256 ≠ entry.metadata.sha256 then
      errorResponse "artifact_metadata_mismatch"
    else if length = 0 ∨ maxArtifactChunk < length ∨ totalSize ≤ offset then
      errorResponse "invalid_offset"
    else
      match readExact access (store.file artifactId) offset (min length (totalSize - offset)) with
      | none => errorResponse "artifact_io"
      | some bytes =>
        { response with
          artifactChunk := some
            { offset
              totalSize
              sha256
              bytes } }

def info (store : NetworkArtifacts) (peerId artifactId : String) : Response :=
  match store.entries.lookup artifactId with
  | none => errorResponse "unknown_artifact"
  | some entry =>
    if peerId ∉ entry.participants then
      errorResponse "artifact_access_denied"
    else if entry.published = false then
      errorResponse "artifact_not_published"
    else
      { response with artifactMetadata := some entry.metadata }

/-- The store after a crash: the entries of the index, and of the files what the crash has left. -/
def restart (store : NetworkArtifacts) (debris : String → List UInt8) : NetworkArtifacts :=
  { store with
    entries := store.index
    files := store.files.mapValues fun artifactId file => file.crash (debris artifactId) }

end NetworkArtifacts

end Registry
