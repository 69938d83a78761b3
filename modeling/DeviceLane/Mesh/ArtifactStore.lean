/-
**Artifacts that are published when their last chunk has arrived.**

A session registers an artifact with its size, its digest and the digests of its chunks. The chunks may
arrive in any order, more than once, and with wrong contents; the first right contents of a chunk count.
The chunk that completes the artifact is different: the whole is checked, and written to a file that bears
the digest as its name, before the chunk is taken.

Main definitions:

* `Mesh.ArtifactStore` — the entries of a store, and its files.

Main results:

* `Mesh.ArtifactStore.wrote_writeChunk` — **a write does one of five things**;
* `Mesh.ArtifactStore.registered_exact` — **what is read is what has been accepted, in order**.
-/

import DeviceLane.Library.JsonLength
import DeviceLane.Library.Runs
import DeviceLane.Registry.Protocol

namespace Mesh

open Effect

structure ArtifactMetadata where
  sha256 : String
  size : ℕ
  mimeType : String
  jobId : String
  expiresAt : ℕ
  deriving DecidableEq

structure ArtifactRegistration where
  id : String
  metadata : ArtifactMetadata
  deriving DecidableEq

inductive ArtifactError
  | pathTraversal
  | expired
  | sessionDenied
  | chunkHashMismatch
  | chunkConflict
  | notPublished
  | invalidMetadata
  | io
  deriving DecidableEq, Repr

/-- An artifact, with a place for each of its chunks. -/
structure Entry where
  metadata : ArtifactMetadata
  chunkHashes : List String
  chunks : List (Option (List UInt8))
  published : Bool
  sized : chunks.length = chunkHashes.length

structure ArtifactStore where
  entries : Map (String × String) Entry
  files : Map String (List UInt8)

inductive FileWrite
  | done
  | failed (left : Option (List UInt8))
  deriving DecidableEq

structure FileAccess where
  write : FileWrite
  renames : Bool
  deriving DecidableEq

def validateName (name : String) : Except ArtifactError Unit :=
  failIf (name = "" ∨ Registry.isRelativePath name = false) .pathTraversal

namespace Entry

def put (entry : Entry) (index : ℕ) (contents : List UInt8) : Entry :=
  { entry with
    chunks := entry.chunks.set index (some contents)
    sized := (List.length_set ..).trans entry.sized }

def completesUpload (entry : Entry) (index : ℕ) : Bool :=
  entry.chunks.zipIdx.all fun chunk => chunk.2 = index || chunk.1.isSome

def complete (entry : Entry) (index : ℕ) (contents : List UInt8) : List UInt8 :=
  entry.chunks.zipIdx.flatMap fun chunk => if chunk.2 = index then contents else chunk.1.getD []

/-- The chunks that are there, one after the other. -/
def content (entry : Entry) : List UInt8 := entry.chunks.flatMap fun chunk => chunk.getD []

variable {entry : Entry} {index : ℕ} {contents : List UInt8}

theorem chunks_put (entry : Entry) (index : ℕ) (contents : List UInt8) :
    (entry.put index contents).chunks = entry.chunks.set index (some contents) := rfl

theorem complete_eq_content (entry : Entry) (index : ℕ) (contents : List UInt8) :
    entry.complete index contents = (entry.put index contents).content := by
  have hchunks : (entry.chunks.zipIdx.map fun chunk => if chunk.2 = index then contents
      else chunk.1.getD []) = (entry.chunks.set index (some contents)).map fun chunk =>
        chunk.getD [] := by
    apply List.ext_getElem
    · simp
    · intro i _ _
      simp only [List.getElem_map, List.getElem_zipIdx, Nat.zero_add, List.getElem_set]
      by_cases hindex : index = i
      · rw [if_pos hindex.symm, if_pos hindex, Option.getD_some]
      · rw [if_neg (Ne.symm hindex), if_neg hindex]
  rw [complete, content, chunks_put, List.flatMap, List.flatMap, hchunks]

theorem completesUpload_iff (hchunk : entry.chunks[index]? = some none) (contents : List UInt8) :
    entry.completesUpload index = true ↔ none ∉ (entry.put index contents).chunks := by
  obtain ⟨hlt, hnone⟩ := List.getElem?_eq_some_iff.1 hchunk
  rw [completesUpload, chunks_put, List.all_eq_true]
  constructor
  · intro hall hmem
    obtain ⟨i, hi, hget⟩ := List.getElem_of_mem hmem
    rw [List.getElem_set] at hget
    split at hget
    · cases hget
    · rename_i hne
      rw [List.length_set] at hi
      have hchecked := hall (entry.chunks[i], i) (List.mem_zipIdx_iff_getElem?.2 (by simp [hi]))
      simp [hget, Ne.symm hne] at hchecked
  · intro hall chunk hmem
    have hget := List.mem_zipIdx_iff_getElem?.1 hmem
    by_cases hindex : chunk.2 = index
    · simp [hindex]
    · obtain ⟨first, i⟩ := chunk
      cases first with
      | some => simp
      | none =>
        refine absurd (List.mem_of_getElem? (i := i) ?_) hall
        rwa [List.getElem?_set_ne (Ne.symm hindex)]

end Entry

namespace ArtifactStore

/-- A store in a directory that may hold files. -/
def new (files : Map String (List UInt8)) : ArtifactStore := ⟨∅, files⟩

def key (session id : String) (store : ArtifactStore) : Except ArtifactError (String × String) := do
  validateName session
  failIf (store.entries.lookup (session, id) = none) .sessionDenied
  .ok (session, id)

def entry (session id : String) (now : ℕ) (store : ArtifactStore) : Except ArtifactError Entry := do
  let key ← store.key session id
  match store.entries.lookup key with
  | none => .error .sessionDenied
  | some entry => if entry.metadata.expiresAt ≤ now then .error .expired else .ok entry

def register (session : String) (metadata : ArtifactMetadata) (chunkHashes : List String) (now : ℕ) :
    Eff ArtifactStore ArtifactError ArtifactRegistration := do
  orThrow (fun error => error) (validateName session)
  throwIf (metadata.expiresAt ≤ now) .expired
  throwIf (metadata.sha256.utf8ByteSize ≠ 64 ∨ chunkHashes = []) .invalidMetadata
  let entry : Entry :=
    { metadata
      chunkHashes
      chunks := List.replicate chunkHashes.length none
      published := false
      sized := List.length_replicate }
  modify fun store =>
    { store with entries := store.entries.insert (session, metadata.sha256) entry }
  pure ⟨metadata.sha256, metadata⟩

def missingChunks (session id : String) (now : ℕ) (store : ArtifactStore) :
    Except ArtifactError (List ℕ) := do
  let entry ← store.entry session id now
  .ok (entry.chunks.zipIdx.filterMap fun chunk => if chunk.1 = none then some chunk.2 else none)

def writeFile (name : String) (bytes : List UInt8) :
    FileWrite → Eff ArtifactStore ArtifactError Unit
  | .done => modify fun store => { store with files := store.files.insert name bytes }
  | .failed none => throw .io
  | .failed (some left) => do
      modify fun store => { store with files := store.files.insert name left }
      throw .io

def renameFile (source target : String) (renames : Bool) : Eff ArtifactStore ArtifactError Unit := do
  let store ← get
  let bytes ← okOr (store.files.lookup source) .io
  throwIf (renames = false) .io
  set { store with files := (store.files.erase source).insert target bytes }

def temporary (sha256 : String) : String := sha256 ++ ".tmp"

section

variable [Sha256]

def digestText (bytes : List UInt8) : String := hex (Sha256.digest bytes).toList

def writeChunk (session id : String) (index : ℕ) (contents : List UInt8) (now : ℕ)
    (access : FileAccess) : Eff ArtifactStore ArtifactError Unit := do
  let store ← get
  let key ← orThrow (fun error => error) (store.key session id)
  let entry ← okOr (store.entries.lookup key) .sessionDenied
  throwIf (entry.metadata.expiresAt ≤ now) .expired
  match entry.chunks[index]? with
  | none => throw .chunkHashMismatch
  | some (some existing) => throwIf (existing ≠ contents) .chunkConflict
  | some none => do
      throwIf (some (digestText contents) ≠ entry.chunkHashes[index]?) .chunkHashMismatch
      if entry.completesUpload index then do
        let complete := entry.complete index contents
        throwIf
          (complete.length ≠ entry.metadata.size ∨ digestText complete ≠ entry.metadata.sha256)
          .chunkHashMismatch
        writeFile (temporary entry.metadata.sha256) complete access.write
        renameFile (temporary entry.metadata.sha256) entry.metadata.sha256 access.renames
        modify fun store =>
          { store with
            entries := store.entries.insert key { entry.put index contents with published := true } }
      else
        modify fun store =>
          { store with entries := store.entries.insert key (entry.put index contents) }

end

def read (session id : String) (now : ℕ) (reads : Bool) (store : ArtifactStore) :
    Except ArtifactError (List UInt8) := do
  let entry ← store.entry session id now
  failIf (entry.published = false) .notPublished
  failIf (reads = false) .io
  match store.files.lookup entry.metadata.sha256 with
  | none => .error .io
  | some bytes => .ok bytes

/-! ### What a write does -/

theorem key_eq_ok {session id : String} {store : ArtifactStore} {key : String × String}
    (h : store.key session id = .ok key) : key = (session, id) := by
  obtain ⟨-, -, h⟩ := bind_eq_ok.1 h
  obtain ⟨-, -, h⟩ := bind_eq_ok.1 h
  cases h
  rfl

theorem key_ne_io {session id : String} {store : ArtifactStore} {error : ArtifactError}
    (h : store.key session id = .error error) : error ≠ .io := by
  rintro rfl
  cases hname : validateName session with
  | error =>
    rw [key, hname, error_bind] at h
    cases h
    unfold validateName failIf at hname
    split at hname
    · cases hname
    · cases hname
  | ok =>
    rw [key, hname, ok_bind, failIf_bind] at h
    split at h
    · cases h
    · cases h

/-- A file that has been written, and renamed, has its bytes; a temporary file is all else that
changes. -/
structure Landed (sha256 : String) (bytes : List UInt8) (store : ArtifactStore)
    (files : Map String (List UInt8)) : Prop where
  file : files.lookup sha256 = some bytes
  others : ∀ name, name ≠ sha256 → name ≠ temporary sha256 →
    files.lookup name = store.files.lookup name

section

variable [Sha256]

inductive Wrote (store : ArtifactStore) (session id : String) (index : ℕ) (contents : List UInt8) :
    Except ArtifactError Unit × ArtifactStore → Prop
  | refused {error : ArtifactError} (herror : error ≠ .io) :
      Wrote store session id index contents (.error error, store)
  | failed {entry : Entry} {files : Map String (List UInt8)}
      (hentry : store.entries.lookup (session, id) = some entry)
      (hdigest : digestText (entry.complete index contents) = entry.metadata.sha256)
      (hfiles : ∀ name, name ≠ temporary entry.metadata.sha256 →
        files.lookup name = store.files.lookup name) :
      Wrote store session id index contents (.error .io, { store with files })
  | again {entry : Entry} (hentry : store.entries.lookup (session, id) = some entry)
      (hchunk : entry.chunks[index]? = some (some contents)) :
      Wrote store session id index contents (.ok (), store)
  | stored {entry : Entry} (hentry : store.entries.lookup (session, id) = some entry)
      (hchunk : entry.chunks[index]? = some none)
      (hhash : some (digestText contents) = entry.chunkHashes[index]?)
      (hmore : entry.completesUpload index = false) :
      Wrote store session id index contents
        (.ok (), { store with
          entries := store.entries.insert (session, id) (entry.put index contents) })
  | published {entry : Entry} {files : Map String (List UInt8)}
      (hentry : store.entries.lookup (session, id) = some entry)
      (hchunk : entry.chunks[index]? = some none)
      (hhash : some (digestText contents) = entry.chunkHashes[index]?)
      (hcomplete : entry.completesUpload index = true)
      (hsize : (entry.complete index contents).length = entry.metadata.size)
      (hdigest : digestText (entry.complete index contents) = entry.metadata.sha256)
      (hfiles : Landed entry.metadata.sha256 (entry.complete index contents) store files) :
      Wrote store session id index contents
        (.ok (), {
          entries := store.entries.insert (session, id)
            { entry.put index contents with published := true }
          files })

omit [Sha256] in
theorem exec_publish {store : ArtifactStore} {sha256 : String} {bytes : List UInt8}
    (access : FileAccess) :
    (∃ files, (writeFile (temporary sha256) bytes access.write >>= fun _ =>
        renameFile (temporary sha256) sha256 access.renames).exec store
          = (.error .io, { store with files }) ∧
        ∀ name, name ≠ temporary sha256 → files.lookup name = store.files.lookup name) ∨
      ∃ files, (writeFile (temporary sha256) bytes access.write >>= fun _ =>
        renameFile (temporary sha256) sha256 access.renames).exec store
          = (.ok (), { store with files }) ∧ Landed sha256 bytes store files := by
  obtain ⟨write, renames⟩ := access
  cases write with
  | failed left =>
    left
    cases left with
    | none => exact ⟨store.files, exec_bind_error rfl, fun _ _ => rfl⟩
    | some left =>
      refine ⟨store.files.insert (temporary sha256) left, exec_bind_error rfl, ?_⟩
      exact fun name hname => Map.lookup_insert_ne hname left
  | done =>
    obtain ⟨written, hwritten⟩ : ∃ files, store.files.insert (temporary sha256) bytes = files :=
      ⟨_, rfl⟩
    have hexec : (writeFile (temporary sha256) bytes .done).exec store
        = (.ok (), { store with files := written }) := by
      rw [← hwritten]
      rfl
    have hthere : written.lookup (temporary sha256) = some bytes := by
      rw [← hwritten, Map.lookup_insert_self]
    have hothers : ∀ name, name ≠ temporary sha256 →
        written.lookup name = store.files.lookup name := by
      intro name hname
      rw [← hwritten, Map.lookup_insert_ne hname]
    rw [exec_bind_ok hexec, renameFile, exec_bind_ok (exec_get _)]
    dsimp only
    rw [hthere, exec_okOr_some_bind, exec_throwIf_bind]
    cases renames with
    | false => exact .inl ⟨written, rfl, hothers⟩
    | true =>
      right
      refine ⟨(written.erase (temporary sha256)).insert sha256 bytes, rfl,
        Map.lookup_insert_self _ _ _, ?_⟩
      intro name hname htemporary
      rw [Map.lookup_insert_ne hname, Map.lookup_erase, if_neg htemporary, hothers name htemporary]

/-- **A write of a chunk** does one of these things. -/
theorem wrote_writeChunk (store : ArtifactStore) (session id : String) (index : ℕ)
    (contents : List UInt8) (now : ℕ) (access : FileAccess) :
    Wrote store session id index contents
      ((writeChunk session id index contents now access).exec store) := by
  rw [writeChunk, exec_bind_ok (exec_get store), exec_orThrow_bind]
  cases hkey : store.key session id with
  | error => exact .refused (key_ne_io hkey)
  | ok =>
    obtain rfl := key_eq_ok hkey
    dsimp only
    cases hentry : store.entries.lookup (session, id) with
    | none => exact .refused (by simp)
    | some entry =>
      rw [exec_okOr_some_bind, exec_throwIf_bind]
      split
      · exact .refused (by simp)
      cases hchunk : entry.chunks[index]? with
      | none => exact .refused (by simp)
      | some chunk =>
        cases chunk with
        | some =>
          dsimp only
          rw [exec_throwIf, failIf]
          split
          · exact .refused (by simp)
          · rename_i hsame
            exact .again hentry (not_not.1 hsame ▸ hchunk)
        | none =>
          dsimp only
          rw [exec_throwIf_bind]
          split
          · exact .refused (by simp)
          rename_i hhash
          rw [exec_ite]
          split
          · rename_i hcomplete
            rw [exec_throwIf_bind]
            split
            · exact .refused (by simp)
            rename_i hwhole
            have hsize := not_not.1 (not_or.1 hwhole).1
            have hdigest := not_not.1 (not_or.1 hwhole).2
            rw [← bind_assoc]
            rcases @exec_publish store entry.metadata.sha256 (entry.complete index contents)
              access with ⟨files, hexec, hfiles⟩ | ⟨files, hexec, hfiles⟩
            · rw [exec_bind_error hexec]
              exact .failed hentry hdigest hfiles
            · rw [exec_bind_ok hexec]
              exact .published hentry hchunk (not_not.1 hhash) hcomplete hsize hdigest hfiles
          · rename_i hmore
            exact .stored hentry hchunk (not_not.1 hhash) (Bool.eq_false_iff.2 hmore)

/-! ### Runs -/

end

end ArtifactStore

/-- The calls that change a store. -/
inductive ArtifactCall
  | register (session : String) (metadata : ArtifactMetadata) (chunkHashes : List String) (now : ℕ)
  | writeChunk (session id : String) (index : ℕ) (contents : List UInt8) (now : ℕ)
      (access : FileAccess)

/-- A call registers an artifact, or tries to. -/
def ArtifactCall.Registers (call : ArtifactCall) (session id : String) : Prop :=
  ∃ metadata chunkHashes now, call = .register session metadata chunkHashes now ∧ metadata.sha256 = id

section

variable [Sha256]

def ArtifactCall.program : ArtifactCall → Eff ArtifactStore ArtifactError Unit
  | register session metadata chunkHashes now => do
      let _ ← ArtifactStore.register session metadata chunkHashes now
  | writeChunk session id index contents now access =>
    ArtifactStore.writeChunk session id index contents now access

namespace ArtifactStore

variable {now index : ℕ} {contents : List UInt8} {id : String}

def step (store : ArtifactStore) (call : ArtifactCall) : ArtifactStore := (call.program.exec store).2

/-- A call is a write of a chunk that is accepted. -/
def Accepts (session id : String) (index : ℕ) (contents : List UInt8) (store : ArtifactStore)
    (call : ArtifactCall) : Prop :=
  ∃ now access, call = .writeChunk session id index contents now access ∧
    (call.program.exec store).1 = .ok ()

def Accepted (session id : String) (calls : List ArtifactCall) (store : ArtifactStore) (index : ℕ)
    (contents : List UInt8) : Prop :=
  Runs.SomeStep step (Accepts session id index contents) calls store

omit [Sha256] in
theorem exec_register (session : String) (metadata : ArtifactMetadata) (chunkHashes : List String)
    (now : ℕ) (store : ArtifactStore) :
    (∃ error, (register session metadata chunkHashes now).exec store = (.error error, store)) ∨
      validateName session = .ok () ∧ chunkHashes ≠ [] ∧ now < metadata.expiresAt ∧
        ∃ entry : Entry, (register session metadata chunkHashes now).exec store
            = (.ok ⟨metadata.sha256, metadata⟩, { store with
                entries := store.entries.insert (session, metadata.sha256) entry }) ∧
          entry.metadata = metadata ∧ entry.chunkHashes = chunkHashes ∧
          entry.chunks = List.replicate chunkHashes.length none ∧ entry.published = false := by
  rw [register, exec_orThrow_bind]
  cases hname : validateName session with
  | error error => exact .inl ⟨error, rfl⟩
  | ok =>
    dsimp only
    rw [exec_throwIf_bind]
    split
    · exact .inl ⟨_, rfl⟩
    rename_i hexpires
    rw [exec_throwIf_bind]
    split
    · exact .inl ⟨_, rfl⟩
    rename_i hvalid
    exact .inr ⟨rfl, (not_or.1 hvalid).2, not_le.1 hexpires, _, rfl, rfl, rfl, rfl, rfl⟩

def Keyed (store : ArtifactStore) : Prop :=
  ∀ key entry, store.entries.lookup key = some entry → entry.metadata.sha256 = key.2

omit [Sha256] in
theorem Keyed.insert {store : ArtifactStore} (h : Keyed store) {key : String × String} {entry : Entry}
    (hentry : entry.metadata.sha256 = key.2) (files : Map String (List UInt8)) :
    Keyed ⟨store.entries.insert key entry, files⟩ := by
  intro other found hfound
  by_cases hkey : other = key
  · subst hkey
    rw [Map.lookup_insert_self] at hfound
    cases hfound
    exact hentry
  · rw [Map.lookup_insert_ne hkey] at hfound
    exact h other found hfound

theorem Keyed.step {store : ArtifactStore} (h : Keyed store) (call : ArtifactCall) :
    Keyed (store.step call) := by
  cases call with
  | register session metadata chunkHashes now =>
    unfold ArtifactStore.step ArtifactCall.program
    rcases exec_register session metadata chunkHashes now store with
      ⟨_, hexec⟩ | ⟨-, -, -, _, hexec, hmetadata, -⟩
    · rw [exec_bind_error hexec]
      exact h
    · rw [exec_bind_ok hexec]
      exact h.insert (by rw [hmetadata]) _
  | writeChunk session id index contents now access =>
    have hwrote := wrote_writeChunk store session id index contents now access
    unfold ArtifactStore.step ArtifactCall.program
    generalize (ArtifactStore.writeChunk session id index contents now access).exec store = run
      at hwrote
    cases hwrote with
    | refused | failed | again => exact h
    | stored hentry =>
      have hname := h (session, id) _ hentry
      refine Keyed.insert h ?_ _
      exact hname
    | published hentry =>
      have hname := h (session, id) _ hentry
      refine Keyed.insert h ?_ _
      exact hname

theorem Keyed.register {store registered : ArtifactStore} (h : Keyed store) {session : String}
    {metadata : ArtifactMetadata} {chunkHashes : List String} {registration : ArtifactRegistration}
    (hregister : (register session metadata chunkHashes now).exec store
      = (.ok registration, registered)) : Keyed registered := by
  have hstep := h.step (.register session metadata chunkHashes now)
  unfold ArtifactStore.step ArtifactCall.program at hstep
  rwa [exec_bind_ok hregister] at hstep

theorem keyed_of_run {store : ArtifactStore} (h : Keyed store) (calls : List ArtifactCall) :
    Keyed (calls.foldl step store) :=
  (Runs.always_of_step (fun _ call hs => hs.step call) h calls).last

/-! ### One registration -/

structure Tracked (metadata : ArtifactMetadata) (chunkHashes : List String)
    (accepted : ℕ → List UInt8 → Prop) (entry : Entry) : Prop where
  metadata_eq : entry.metadata = metadata
  chunkHashes_eq : entry.chunkHashes = chunkHashes
  chunks : ∀ i contents, entry.chunks[i]? = some (some contents) ↔ accepted i contents
  published : entry.published = true ↔ none ∉ entry.chunks
  whole : entry.published = true →
    entry.content.length = metadata.size ∧ digestText entry.content = metadata.sha256

theorem Tracked.put {metadata : ArtifactMetadata} {chunkHashes : List String}
    {accepted accepted' : ℕ → List UInt8 → Prop} {entry : Entry} {published : Bool}
    (h : Tracked metadata chunkHashes accepted entry) (hchunk : entry.chunks[index]? = some none)
    (haccepted : ∀ i c, accepted' i c ↔ accepted i c ∨ i = index ∧ c = contents)
    (hpublished : published = true ↔ none ∉ (entry.put index contents).chunks)
    (hwhole : published = true → (entry.put index contents).content.length = metadata.size ∧
      digestText (entry.put index contents).content = metadata.sha256) :
    Tracked metadata chunkHashes accepted' { entry.put index contents with published } where
  metadata_eq := h.metadata_eq
  chunkHashes_eq := h.chunkHashes_eq
  chunks i c := by
    obtain ⟨hlt, -⟩ := List.getElem?_eq_some_iff.1 hchunk
    rw [haccepted, ← h.chunks]
    change (entry.chunks.set index (some contents))[i]? = some (some c) ↔ _
    by_cases hindex : i = index
    · subst hindex
      rw [List.getElem?_set_self hlt, hchunk]
      simp [eq_comm]
    · rw [List.getElem?_set_ne (Ne.symm hindex)]
      simp [hindex]
  published := hpublished
  whole := hwhole

/-- What a store holds of a registration: its entry, and its file once it is published. If no other
session writes the artifact, the file is the one that this session has published. -/
structure Holds (session : String) (metadata : ArtifactMetadata) (chunkHashes : List String)
    (alone : Prop) (accepted : ℕ → List UInt8 → Prop) (store : ArtifactStore) (entry : Entry) :
    Prop where
  lookup : store.entries.lookup (session, metadata.sha256) = some entry
  tracked : Tracked metadata chunkHashes accepted entry
  file : entry.published = true → ∃ bytes, store.files.lookup metadata.sha256 = some bytes ∧
    digestText bytes = metadata.sha256 ∧ (alone → bytes = entry.content)

variable {session : String} {metadata : ArtifactMetadata} {chunkHashes : List String} {alone : Prop}
  {accepted accepted' : ℕ → List UInt8 → Prop} {store : ArtifactStore} {entry : Entry}

theorem Tracked.congr (h : Tracked metadata chunkHashes accepted entry)
    (haccepted : ∀ i c, accepted' i c ↔ accepted i c) :
    Tracked metadata chunkHashes accepted' entry :=
  { h with chunks := fun i c => (h.chunks i c).trans (haccepted i c).symm }

theorem Holds.congr (h : Holds session metadata chunkHashes alone accepted store entry)
    (haccepted : ∀ i c, accepted' i c ↔ accepted i c) {store' : ArtifactStore}
    (hlookup : store'.entries.lookup (session, metadata.sha256)
      = store.entries.lookup (session, metadata.sha256))
    (hfile : entry.published = true →
      store'.files.lookup metadata.sha256 = store.files.lookup metadata.sha256) :
    Holds session metadata chunkHashes alone accepted' store' entry where
  lookup := hlookup.trans h.lookup
  tracked := h.tracked.congr haccepted
  file hpublished := by
    rw [hfile hpublished]
    exact h.file hpublished

theorem utf8ByteSize_digestText (bytes : List UInt8) : (digestText bytes).utf8ByteSize = 64 := by
  rw [digestText, Json.utf8ByteSize_hex, Endian.Block.toList_length]

theorem digestText_ne_temporary (bytes bytes' : List UInt8) :
    digestText bytes ≠ temporary (digestText bytes') := by
  intro h
  have hlength := congrArg String.utf8ByteSize h
  have htmp : (".tmp" : String).utf8ByteSize = 4 := by decide
  rw [temporary, String.utf8ByteSize_append, utf8ByteSize_digestText, utf8ByteSize_digestText] at hlength
  omega

def Adds (session id : String) (store : ArtifactStore) (call : ArtifactCall)
    (accepted : ℕ → List UInt8 → Prop) (i : ℕ) (contents : List UInt8) : Prop :=
  accepted i contents ∨ Accepts session id i contents store call

theorem adds_writeChunk {session' id : String} {index : ℕ} {contents : List UInt8} {now : ℕ}
    {access : FileAccess} {i : ℕ} {c : List UInt8} :
    Adds session metadata.sha256 store (.writeChunk session' id index contents now access) accepted i c ↔
      accepted i c ∨ ((session', id) = (session, metadata.sha256) ∧
        ((writeChunk session' id index contents now access).exec store).1 = .ok ()) ∧
          i = index ∧ c = contents := by
  refine or_congr Iff.rfl ⟨?_, ?_⟩
  · rintro ⟨_, _, hcall, hok⟩
    cases hcall
    exact ⟨⟨rfl, hok⟩, rfl, rfl⟩
  · rintro ⟨⟨hkey, hok⟩, rfl, rfl⟩
    cases hkey
    exact ⟨now, access, rfl, hok⟩

theorem Holds.register (h : Holds session metadata chunkHashes alone accepted store entry)
    {session' : String} {metadata' : ArtifactMetadata} {chunkHashes' : List String}
    (hother : ¬ArtifactCall.Registers (.register session' metadata' chunkHashes' now) session
      metadata.sha256) :
    Holds session metadata chunkHashes alone
      (Adds session metadata.sha256 store (.register session' metadata' chunkHashes' now) accepted)
      (store.step (.register session' metadata' chunkHashes' now)) entry := by
  have hadds : ∀ i c, Adds session metadata.sha256 store
      (.register session' metadata' chunkHashes' now) accepted i c ↔ accepted i c := by
    intro i c
    refine or_iff_left ?_
    rintro ⟨_, _, hcall, -⟩
    cases hcall
  unfold ArtifactStore.step ArtifactCall.program
  rcases exec_register session' metadata' chunkHashes' now store with
    ⟨_, hexec⟩ | ⟨-, -, -, _, hexec, -⟩
  · rw [exec_bind_error hexec]
    exact h.congr hadds rfl fun _ => rfl
  · rw [exec_bind_ok hexec]
    refine h.congr hadds (Map.lookup_insert_ne ?_ _) fun _ => rfl
    intro hkey
    obtain ⟨hsession, hid⟩ := Prod.mk.inj hkey
    exact hother ⟨metadata', chunkHashes', now, by rw [hsession], hid.symm⟩

theorem Holds.writeChunk (h : Holds session metadata chunkHashes alone accepted store entry)
    (hkeyed : Keyed store) {session' : String} {access : FileAccess}
    (halone : alone → id = metadata.sha256 → session' = session) :
    ∃ entry', Holds session metadata chunkHashes alone
      (Adds session metadata.sha256 store (.writeChunk session' id index contents now access) accepted)
      (store.step (.writeChunk session' id index contents now access)) entry' := by
  have hwrote := wrote_writeChunk store session' id index contents now access
  have hadds := @adds_writeChunk _ session metadata accepted store session' id index contents now access
  unfold ArtifactStore.step ArtifactCall.program
  generalize (ArtifactStore.writeChunk session' id index contents now access).exec store = run
    at hwrote hadds
  -- A call that is not accepted adds nothing.
  have hsame (hno : ¬((session', id) = (session, metadata.sha256) ∧ run.1 = .ok ())) (i : ℕ)
      (c : List UInt8) : Adds session metadata.sha256 store
        (.writeChunk session' id index contents now access) accepted i c ↔ accepted i c := by
    rw [hadds]
    exact or_iff_left fun hnew => hno hnew.1
  cases hwrote with
  | refused => exact ⟨entry, h.congr (hsame nofun) rfl fun _ => rfl⟩
  | failed hother hdigest hfiles =>
    refine ⟨entry, h.congr (hsame nofun) rfl fun hpublished => hfiles _ ?_⟩
    obtain ⟨bytes, -, hbytes, -⟩ := h.file hpublished
    rw [← hbytes, ← hdigest]
    exact digestText_ne_temporary _ _
  | again hother hchunk =>
    refine ⟨entry, h.congr (fun i c => ?_) rfl fun _ => rfl⟩
    rw [hadds]
    refine or_iff_left_of_imp ?_
    rintro ⟨⟨hkey, -⟩, rfl, rfl⟩
    cases hkey
    rw [h.lookup] at hother
    cases hother
    exact (h.tracked.chunks _ _).1 hchunk
  | stored hother hchunk hhash hmore =>
    by_cases hkey : (session, metadata.sha256) = (session', id)
    · cases hkey
      rw [h.lookup] at hother
      cases hother
      have hunpublished : entry.published ≠ true := fun hpublished =>
        h.tracked.published.1 hpublished (List.mem_of_getElem? hchunk)
      have hmissing : none ∈ (entry.put index contents).chunks := by
        by_contra hnone
        rw [(Entry.completesUpload_iff hchunk contents).2 hnone] at hmore
        cases hmore
      refine ⟨entry.put index contents, Map.lookup_insert_self _ _ _, ?_, ?_⟩
      · refine h.tracked.put hchunk (fun i c => ?_) ⟨fun hpublished => absurd hpublished hunpublished,
          fun hnone => absurd hmissing hnone⟩ fun hpublished => absurd hpublished hunpublished
        rw [hadds]
        exact or_congr Iff.rfl (and_iff_right ⟨rfl, rfl⟩)
      · exact fun hpublished => absurd hpublished hunpublished
    · have hno := hsame fun hnew => hkey hnew.1.symm
      exact ⟨entry, h.congr hno (Map.lookup_insert_ne hkey _) fun _ => rfl⟩
  | @published other files hother hchunk hhash hcomplete hsize hdigest hfiles =>
    by_cases hkey : (session, metadata.sha256) = (session', id)
    · cases hkey
      rw [h.lookup] at hother
      cases hother
      rw [h.tracked.metadata_eq] at hsize hdigest hfiles
      have hnone := (Entry.completesUpload_iff hchunk contents).1 hcomplete
      refine ⟨{ entry.put index contents with published := true }, Map.lookup_insert_self _ _ _,
        ?_, fun _ => ⟨_, hfiles.file, hdigest, fun _ => entry.complete_eq_content index contents⟩⟩
      refine h.tracked.put hchunk (fun i c => ?_) ⟨fun _ => hnone, fun _ => rfl⟩ fun _ => ?_
      · rw [hadds]
        exact or_congr Iff.rfl (and_iff_right ⟨rfl, rfl⟩)
      · rw [← Entry.complete_eq_content]
        exact ⟨hsize, hdigest⟩
    · have hno := hsame fun hnew => hkey hnew.1.symm
      refine ⟨entry, Map.lookup_insert_ne hkey _ |>.trans h.lookup, h.tracked.congr hno, ?_⟩
      intro hpublished
      by_cases hname : metadata.sha256 = other.metadata.sha256
      · -- The other session publishes an artifact of the same digest.
        refine ⟨_, hname ▸ hfiles.file, hname ▸ hdigest, fun ha => ?_⟩
        have hid : id = metadata.sha256 := (hkeyed _ _ hother).symm.trans hname.symm
        exact absurd (by rw [halone ha hid, hid]) hkey
      · obtain ⟨bytes, hbytes, hdigestBytes, hbytesAlone⟩ := h.file hpublished
        refine ⟨bytes, (hfiles.others _ hname ?_).trans hbytes, hdigestBytes, hbytesAlone⟩
        rw [← hdigestBytes, ← hdigest]
        exact digestText_ne_temporary _ _

/-- **One call** keeps what a store holds of a registration, unless it registers it again. -/
theorem Holds.step (h : Holds session metadata chunkHashes alone accepted store entry)
    (hkeyed : Keyed store) {call : ArtifactCall} (hcall : ¬call.Registers session metadata.sha256)
    (halone : alone → ∀ session' index contents now access,
      call = .writeChunk session' metadata.sha256 index contents now access → session' = session) :
    ∃ entry', Holds session metadata chunkHashes alone
      (Adds session metadata.sha256 store call accepted) (store.step call) entry' := by
  cases call with
  | register => exact ⟨entry, h.register hcall⟩
  | writeChunk session' id index contents now access =>
    refine h.writeChunk hkeyed fun ha hid => ?_
    subst hid
    exact halone ha session' index contents now access rfl

def Alone (session id : String) (calls : List ArtifactCall) : Prop :=
  ∀ call ∈ calls, ∀ session' index contents now access,
    call = .writeChunk session' id index contents now access → session' = session

/-- **A run** keeps what a store holds of a registration, with all that is accepted in it. -/
theorem holds_of_run {calls : List ArtifactCall} (hkeyed : Keyed store)
    (h : Holds session metadata chunkHashes (Alone session metadata.sha256 calls) (fun _ _ => False)
      store entry)
    (hcalls : ∀ call ∈ calls, ¬call.Registers session metadata.sha256) :
    ∃ entry', Holds session metadata chunkHashes (Alone session metadata.sha256 calls)
      (Accepted session metadata.sha256 calls store) (calls.foldl step store) entry' := by
  -- The induction goes along the run; what happens later does not change who writes.
  have hrun : ∀ before after, calls = before ++ after → ∃ entry', Holds session metadata chunkHashes
      (Alone session metadata.sha256 calls) (Accepted session metadata.sha256 before store)
      (before.foldl step store) entry' := by
    intro before
    induction before using List.reverseRecOn with
    | nil =>
      intro after _
      refine ⟨entry, h.congr (fun i c => ?_) rfl fun _ => rfl⟩
      refine iff_false_intro ?_
      rintro ⟨before, call, after, hnil, -⟩
      exact absurd hnil.symm (List.append_ne_nil_of_right_ne_nil _ (List.cons_ne_nil _ _))
    | append_singleton before call ih =>
      intro after happend
      obtain ⟨_, hcurrent⟩ := ih (call :: after) (by rw [happend, List.append_assoc]; rfl)
      have hmem : call ∈ calls := by
        rw [happend]
        exact List.mem_append_left _ (List.mem_append_right _ List.mem_cons_self)
      obtain ⟨next, hnext⟩ := hcurrent.step (keyed_of_run hkeyed before) (hcalls call hmem)
        fun halone => halone call hmem
      rw [List.foldl_append]
      refine ⟨next, hnext.congr (fun i c => ?_) rfl fun _ => rfl⟩
      exact Runs.someStep_concat
  obtain ⟨entry', hlast⟩ := hrun calls [] (List.append_nil _).symm
  exact ⟨entry', hlast⟩

theorem Tracked.unique {entry entry' : Entry} (h : Tracked metadata chunkHashes accepted entry)
    (h' : Tracked metadata chunkHashes accepted entry') : entry = entry' := by
  have hlength : entry.chunks.length = entry'.chunks.length := by
    rw [entry.sized, entry'.sized, h.chunkHashes_eq, h'.chunkHashes_eq]
  have hchunks : entry.chunks = entry'.chunks := by
    refine List.ext_getElem hlength fun i hi hi' => ?_
    have hiff (c : List UInt8) : entry.chunks[i] = some c ↔ entry'.chunks[i] = some c := by
      have heither := (h.chunks i c).trans (h'.chunks i c).symm
      rwa [List.getElem?_eq_getElem hi, List.getElem?_eq_getElem hi', Option.some_inj,
        Option.some_inj] at heither
    exact Option.ext fun c => hiff c
  have hpublished : entry.published = entry'.published := by
    rw [Bool.eq_iff_iff, h.published, h'.published, hchunks]
  obtain ⟨_, _, _, _, _⟩ := entry
  obtain ⟨_, _, _, _, _⟩ := entry'
  obtain rfl := h.metadata_eq.trans h'.metadata_eq.symm
  obtain rfl := h.chunkHashes_eq.trans h'.chunkHashes_eq.symm
  obtain rfl := hchunks
  obtain rfl := hpublished
  rfl

theorem holds_of_register {registered : ArtifactStore} {registration : ArtifactRegistration}
    (h : (register session metadata chunkHashes now).exec store = (.ok registration, registered))
    (alone : Prop) :
    validateName session = .ok () ∧ ∃ entry,
      Holds session metadata chunkHashes alone (fun _ _ => False) registered entry := by
  rcases exec_register session metadata chunkHashes now store with
    ⟨_, hexec⟩ | ⟨hname, hsome, -, entry, hexec, hmetadata, hhashes, hchunks, hpublished⟩
  · rw [hexec] at h
    cases h
  · rw [hexec] at h
    cases h
    have hmissing : none ∈ entry.chunks := by
      rw [hchunks]
      exact List.mem_replicate.2 ⟨fun hzero => hsome (List.length_eq_zero_iff.1 hzero), rfl⟩
    refine ⟨hname, entry, Map.lookup_insert_self _ _ _, ⟨hmetadata, hhashes, ?_, ?_, ?_⟩, ?_⟩
    · intro _ contents
      refine iff_false_intro fun hget => ?_
      have hmem := List.mem_of_getElem? hget
      rw [hchunks] at hmem
      exact absurd (List.eq_of_mem_replicate hmem) (Option.some_ne_none contents)
    · rw [hpublished]
      exact ⟨nofun, fun hnone => absurd hmissing hnone⟩
    · rw [hpublished]
      exact nofun
    · rw [hpublished]
      exact nofun

omit [Sha256] in
theorem entry_eq (hname : validateName session = .ok ())
    (hlookup : store.entries.lookup (session, id) = some entry) :
    store.entry session id now = if entry.metadata.expiresAt ≤ now then .error .expired else .ok entry := by
  have hkey : store.key session id = .ok (session, id) := by
    rw [key, hname, ok_bind, failIf_bind, if_neg (by rw [hlookup]; exact Option.some_ne_none _)]
  rw [ArtifactStore.entry, hkey, ok_bind, hlookup]

omit [Sha256] in
/-- **The missing chunks are those that are not there**, in order. -/
theorem missingChunks_eq_ok {missing : List ℕ} (hlookup : store.entry session id now = .ok entry)
    (h : store.missingChunks session id now = .ok missing) :
    missing.Pairwise (· < ·) ∧ ∀ i, i ∈ missing ↔ entry.chunks[i]? = some none := by
  rw [missingChunks, hlookup, ok_bind] at h
  cases h
  constructor
  · have hindices : entry.chunks.zipIdx.Pairwise fun a b => a.2 < b.2 := by
      rw [← List.pairwise_map, List.zipIdx_map_snd]
      exact List.pairwise_lt_range'
    refine List.pairwise_filterMap.2 (hindices.imp fun hlt i hi j hj => ?_)
    split_ifs at hi hj
    cases hi
    cases hj
    exact hlt
  · intro i
    rw [List.mem_filterMap]
    constructor
    · rintro ⟨_, hmem, hchunk⟩
      split_ifs at hchunk with hnone
      cases hchunk
      rw [List.mem_zipIdx_iff_getElem?.1 hmem, hnone]
    · intro hget
      exact ⟨(none, i), List.mem_zipIdx_iff_getElem?.2 hget, if_pos rfl⟩

/-- The digests of two contents tell them apart. -/
def Separated (bytes bytes' : List UInt8) : Prop :=
  Sha256.digest bytes = Sha256.digest bytes' → bytes = bytes'

theorem eq_of_separated {bytes bytes' : List UInt8} (h : Separated bytes bytes')
    (hdigest : digestText bytes = digestText bytes') : bytes = bytes' :=
  h (List.Vector.eq _ _ (hex_injective hdigest))

/-- A write that is not accepted changes nothing; if a file could not be written, there may be a
temporary one. -/
theorem refused_unchanged {access : FileAccess} {error : ArtifactError}
    (h : ((writeChunk session id index contents now access).exec store).1 = .error error) :
    (error ≠ .io → ((writeChunk session id index contents now access).exec store).2 = store) ∧
      ((writeChunk session id index contents now access).exec store).2.entries = store.entries ∧
      ∀ name, (∀ sha256, name ≠ temporary sha256) →
        ((writeChunk session id index contents now access).exec store).2.files.lookup name
          = store.files.lookup name := by
  have hwrote := wrote_writeChunk store session id index contents now access
  generalize (writeChunk session id index contents now access).exec store = run at hwrote h
  cases hwrote with
  | refused => exact ⟨fun _ => rfl, rfl, fun _ _ => rfl⟩
  | failed _ _ hfiles =>
    cases h
    exact ⟨fun hne => absurd rfl hne, rfl, fun name hname => hfiles name (hname _)⟩
  | again | stored | published => cases h

theorem Holds.read (h : Holds session metadata chunkHashes alone accepted store entry) {reads : Bool}
    {bytes : List UInt8} (hname : validateName session = .ok ())
    (hread : store.read session metadata.sha256 now reads = .ok bytes) :
    digestText bytes = metadata.sha256 ∧
      (alone ∨ Separated bytes entry.content → bytes = entry.content ∧
        bytes.length = metadata.size) ∧ entry.published = true := by
  rw [ArtifactStore.read, entry_eq hname h.lookup] at hread
  split at hread
  · cases hread
  rw [ok_bind, failIf_bind] at hread
  split at hread
  · cases hread
  rename_i hpublished
  rw [failIf_bind] at hread
  split at hread
  · cases hread
  have hthere : entry.published = true := by simpa using hpublished
  obtain ⟨found, hfound, hdigest, halone⟩ := h.file hthere
  obtain ⟨hsize, hwhole⟩ := h.tracked.whole hthere
  rw [h.tracked.metadata_eq, hfound] at hread
  cases hread
  refine ⟨hdigest, fun hsame => ?_, hthere⟩
  have heq : bytes = entry.content := by
    rcases hsame with ha | hseparated
    · exact halone ha
    · exact eq_of_separated hseparated (hdigest.trans hwhole.symm)
  exact ⟨heq, heq ▸ hsize⟩

theorem Tracked.chunks_of_published (h : Tracked metadata chunkHashes accepted entry)
    (hpublished : entry.published = true) :
    ∃ chunks : List (List UInt8), chunks.length = chunkHashes.length ∧
      (∀ i contents, chunks[i]? = some contents ↔ accepted i contents) ∧
      entry.content = chunks.flatten := by
  have hall := h.published.1 hpublished
  refine ⟨entry.chunks.map fun chunk => chunk.getD [], ?_, fun i contents => ?_, ?_⟩
  · rw [List.length_map, entry.sized, h.chunkHashes_eq]
  · rw [← h.chunks, List.getElem?_map, Option.map_eq_some_iff]
    constructor
    · rintro ⟨chunk, hget, rfl⟩
      cases chunk with
      | none => exact absurd (List.mem_of_getElem? hget) hall
      | some => exact hget
    · intro hget
      exact ⟨some contents, hget, rfl⟩
  · rw [Entry.content, List.flatMap]

/-- What is found of a registration after some calls. -/
structure Exact (session : String) (metadata : ArtifactMetadata) (chunkHashes : List String)
    (registered : ArtifactStore) (calls : List ArtifactCall) (entry : Entry) : Prop where
  lookup : (calls.foldl step registered).entries.lookup (session, metadata.sha256) = some entry
  published : entry.published = true ↔ ∀ i < chunkHashes.length, ∃ contents,
    Accepted session metadata.sha256 calls registered i contents
  missing : ∀ now < metadata.expiresAt, ∃ missing,
    (calls.foldl step registered).missingChunks session metadata.sha256 now = .ok missing ∧
      missing.Pairwise (· < ·) ∧ ∀ i, i ∈ missing ↔ i < chunkHashes.length ∧
        ¬∃ contents, Accepted session metadata.sha256 calls registered i contents
  read : ∀ now reads bytes,
    (calls.foldl step registered).read session metadata.sha256 now reads = .ok bytes →
      digestText bytes = metadata.sha256 ∧
        ∃ chunks : List (List UInt8), chunks.length = chunkHashes.length ∧
          (∀ i contents, chunks[i]? = some contents ↔
            Accepted session metadata.sha256 calls registered i contents) ∧
          (Alone session metadata.sha256 calls ∨ Separated bytes chunks.flatten →
            bytes = chunks.flatten ∧ bytes.length = metadata.size)
  determined : ∀ calls', (∀ call ∈ calls', ¬call.Registers session metadata.sha256) →
    (∀ i contents, Accepted session metadata.sha256 calls' registered i contents ↔
      Accepted session metadata.sha256 calls registered i contents) →
    (calls'.foldl step registered).entries.lookup (session, metadata.sha256) = some entry

/-- What a refused call leaves as it is: everything, but for a temporary file where a file could not be
written. -/
structure Unchanged (error : ArtifactError) (store store' : ArtifactStore) : Prop where
  same : error ≠ .io → store' = store
  entries : store'.entries = store.entries
  files : ∀ name, (∀ sha256, name ≠ temporary sha256) →
    store'.files.lookup name = store.files.lookup name

/-- **What is read is what has been accepted, in order.**  An artifact is registered in any state, and
after it calls are made in any order that do not register it again. It is published as soon as all its
chunks have been accepted; those that have not been are missing; what is refused changes nothing; the
order does not matter; and what is read are the accepted chunks. Where another session writes an artifact
of the same digest, this is as good as the digest. -/
theorem registered_exact {files : Map String (List UInt8)} {before calls : List ArtifactCall}
    {session : String} {metadata : ArtifactMetadata} {chunkHashes : List String} {now : ℕ}
    {registration : ArtifactRegistration} {registered : ArtifactStore}
    (hregister : (register session metadata chunkHashes now).exec (before.foldl step (new files))
      = (.ok registration, registered))
    (hcalls : ∀ call ∈ calls, ¬call.Registers session metadata.sha256) :
    (∃ entry, Exact session metadata chunkHashes registered calls entry) ∧
      ∀ session' id index contents now access error,
        ((writeChunk session' id index contents now access).exec (calls.foldl step registered)).1
            = .error error →
          Unchanged error (calls.foldl step registered)
            ((writeChunk session' id index contents now access).exec (calls.foldl step registered)).2 := by
  have hbefore : Keyed (before.foldl step (new files)) :=
    keyed_of_run (fun key entry hnone => by cases hnone) before
  have hkeyed := hbefore.register hregister
  obtain ⟨hname, first, hfirst⟩ := holds_of_register hregister (Alone session metadata.sha256 calls)
  obtain ⟨entry, hentry⟩ := holds_of_run hkeyed hfirst hcalls
  have htracked := hentry.tracked
  have hlength : entry.chunks.length = chunkHashes.length := by
    rw [entry.sized, htracked.chunkHashes_eq]
  -- A chunk is missing exactly if nothing has been accepted of it.
  have hmissing (i : ℕ) : entry.chunks[i]? = some none ↔ i < chunkHashes.length ∧
      ¬∃ contents, Accepted session metadata.sha256 calls registered i contents := by
    constructor
    · intro hnone
      obtain ⟨hlt, -⟩ := List.getElem?_eq_some_iff.1 hnone
      refine ⟨hlength ▸ hlt, ?_⟩
      rintro ⟨contents, haccepted⟩
      rw [(htracked.chunks i contents).2 haccepted] at hnone
      cases hnone
    · rintro ⟨hlt, hno⟩
      rw [← hlength] at hlt
      rw [List.getElem?_eq_getElem hlt]
      cases hchunk : entry.chunks[i] with
      | none => rfl
      | some contents =>
        have hget : entry.chunks[i]? = some (some contents) := by
          rw [List.getElem?_eq_getElem hlt, hchunk]
        exact absurd ⟨contents, (htracked.chunks i contents).1 hget⟩ hno
  refine ⟨⟨entry, hentry.lookup, ?_, ?_, ?_, ?_⟩, ?_⟩
  · rw [htracked.published, List.mem_iff_getElem?, not_exists]
    refine forall_congr' fun i => ?_
    rw [hmissing, not_and, not_not]
  · intro now hnow
    have hfound : (calls.foldl step registered).entry session metadata.sha256 now = .ok entry := by
      rw [entry_eq hname hentry.lookup, htracked.metadata_eq, if_neg (not_le.2 hnow)]
    obtain ⟨missing, hok⟩ : ∃ missing,
        (calls.foldl step registered).missingChunks session metadata.sha256 now = .ok missing := by
      rw [missingChunks, hfound]
      exact ⟨_, rfl⟩
    obtain ⟨hsorted, hmem⟩ := missingChunks_eq_ok hfound hok
    exact ⟨missing, hok, hsorted, fun i => (hmem i).trans (hmissing i)⟩
  · intro now reads bytes hread
    obtain ⟨hdigest, hsame, hpublished⟩ := hentry.read hname hread
    obtain ⟨chunks, hchunks, haccepted, hcontent⟩ := htracked.chunks_of_published hpublished
    exact ⟨hdigest, chunks, hchunks, haccepted, hcontent ▸ hsame⟩
  · intro calls' hcalls' haccepted
    obtain ⟨-, first', hfirst'⟩ := holds_of_register hregister
      (Alone session metadata.sha256 calls')
    obtain ⟨entry', hentry'⟩ := holds_of_run hkeyed hfirst' hcalls'
    rw [hentry'.lookup, (hentry'.tracked.congr fun i c => (haccepted i c).symm).unique htracked]
  · intro session' id index contents now access error herror
    obtain ⟨hsame, hentries, hfiles⟩ := refused_unchanged herror
    exact ⟨hsame, hentries, hfiles⟩

omit [Sha256]

abbrev chunkDigests : Sha256 :=
  ⟨fun bytes =>
    if bytes = [97] then
      ⟨[202, 151, 129, 18, 202, 27, 189, 202, 250, 194, 49, 179, 154, 35, 220, 77, 167, 134, 239, 248,
        20, 124, 78, 114, 185, 128, 119, 133, 175, 238, 72, 187], by decide⟩
    else if bytes = [98] then
      ⟨[62, 35, 232, 22, 0, 57, 89, 74, 51, 137, 79, 101, 100, 225, 177, 52, 139, 189, 122, 0, 136, 212,
        44, 74, 203, 115, 238, 174, 213, 156, 0, 157], by decide⟩
    else
      ⟨[251, 142, 32, 252, 46, 76, 63, 36, 140, 96, 195, 155, 214, 82, 243, 193, 52, 114, 152, 187, 151,
        123, 139, 77, 89, 3, 184, 80, 85, 98, 6, 3], by decide⟩⟩

def sampleMetadata : ArtifactMetadata :=
  letI := chunkDigests
  { sha256 := digestText [97, 98]
    size := 2
    mimeType := "text/plain"
    jobId := "job-1"
    expiresAt := 200 }

def sampleHashes : List String :=
  letI := chunkDigests
  [digestText [97], digestText [98]]

def sampleCalls : List ArtifactCall :=
  [.writeChunk "session-1" sampleMetadata.sha256 1 [98] 100 ⟨.done, true⟩,
    .writeChunk "session-1" sampleMetadata.sha256 0 [97] 100 ⟨.done, true⟩]

theorem exists_register_sample : ∃ registered,
    (register "session-1" sampleMetadata sampleHashes 100).exec (new ∅)
      = (.ok ⟨sampleMetadata.sha256, sampleMetadata⟩, registered) := by
  have hname : validateName "session-1" = .ok () := by decide
  have hlength : sampleMetadata.sha256.utf8ByteSize = 64 := by
    let _ := chunkDigests
    exact utf8ByteSize_digestText [97, 98]
  have hresult : ((register "session-1" sampleMetadata sampleHashes 100).exec (new ∅)).1
      = .ok ⟨sampleMetadata.sha256, sampleMetadata⟩ := by
    rw [register, exec_orThrow_bind, hname]
    dsimp only
    rw [exec_throwIf_bind, if_neg (by decide), exec_throwIf_bind, if_neg]
    · rfl
    · exact not_or.2 ⟨not_not.2 hlength, List.cons_ne_nil _ _⟩
  exact ⟨_, Prod.ext hresult rfl⟩

theorem sampleCalls_exact : letI := chunkDigests
    ∃ registered, (register "session-1" sampleMetadata sampleHashes 100).exec (new ∅)
        = (.ok ⟨sampleMetadata.sha256, sampleMetadata⟩, registered) ∧
      ∃ entry, Exact "session-1" sampleMetadata sampleHashes registered sampleCalls entry := by
  let _ := chunkDigests
  obtain ⟨registered, hregister⟩ := exists_register_sample
  refine ⟨registered, hregister, ?_⟩
  refine (@registered_exact _ ∅ [] sampleCalls _ _ _ _ _ _ hregister ?_).1
  intro call hcall
  rintro ⟨_, _, _, rfl, -⟩
  rcases List.mem_cons.1 hcall with hcall | hcall
  · cases hcall
  · cases List.mem_singleton.1 hcall

end ArtifactStore

end

end Mesh
