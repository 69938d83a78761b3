/-
**Uploads of artifacts are exact and go on after a restart.**

Whatever chunks are sent, by whom, in whatever order and however often; whatever fails while the file and
the index are written; and however often the registry crashes: what has been confirmed to a client stays,
and an artifact that is published is complete and has the digest that was announced. Nothing is assumed
of the hash function.

Main definitions:

* `Registry.NetworkArtifacts.Sound` — the invariant of the store.

Main results:

* `Registry.NetworkArtifacts.upload_exact` — **uploads are exact and go on after a restart**.
-/

import DeviceLane.Registry.Artifacts

namespace Registry

open Dashboard (saturatingAdd u64Max)

/-- Everything that changes the store. -/
inductive ArtifactCall
  | register (peerId : String) (jobAgent jobClient : Option String) (jobId name mediaType : String)
      (totalSize : ℕ) (sha256 : String) (indexWrite : DiskWrite)
  | write (peerId artifactId : String) (offset : ℕ) (write : ArtifactWrite) (access : FileAccess)
      (indexWrite : DiskWrite)
  | crash (debris : String → List UInt8)

def ArtifactCall.isCrash : ArtifactCall → Prop
  | crash _ => True
  | _ => False

namespace NetworkArtifacts

variable {entry : NetworkArtifact} {file : DiskFile} {offset length : ℕ} {store : NetworkArtifacts}
  {artifactId peerId : String} {bytes : List UInt8} {indexWrite : DiskWrite} {access : FileAccess}

structure Before (entry entry' : NetworkArtifact) : Prop where
  metadata : entry'.metadata = entry.metadata
  offset : entry.confirmedOffset ≤ entry'.confirmedOffset
  published : entry.published = true →
    entry'.published = true ∧ entry'.confirmedOffset = entry.confirmedOffset

theorem Before.refl (entry : NetworkArtifact) : Before entry entry :=
  ⟨rfl, Nat.le_refl _, fun hp => ⟨hp, rfl⟩⟩

theorem Before.trans {entry' entry'' : NetworkArtifact} (h : Before entry entry')
    (h' : Before entry' entry'') : Before entry entry'' := by
  refine ⟨h'.metadata.trans h.metadata, Nat.le_trans h.offset h'.offset, fun hp => ?_⟩
  obtain ⟨hp', hoffset⟩ := h.published hp
  obtain ⟨hp'', hoffset'⟩ := h'.published hp'
  exact ⟨hp'', hoffset'.trans hoffset⟩

/-! ### Files and the index -/

theorem file_setFile (store : NetworkArtifacts) (artifactId : String) (file : DiskFile)
    (other : String) : (store.setFile artifactId file).file other =
      if other = artifactId then file else store.file other := by
  change ((Map.insert _ _ _).lookup other).getD _ = _
  rw [Map.lookup_insert]
  split
  · rfl
  · rfl

theorem entries_persist (store : NetworkArtifacts) (write : DiskWrite) :
    (store.persist write).entries = store.entries := by
  unfold persist
  split <;> rfl

theorem file_persist (store : NetworkArtifacts) (write : DiskWrite) (artifactId : String) :
    (store.persist write).file artifactId = store.file artifactId := by
  unfold persist
  split <;> rfl

theorem index_persist (store : NetworkArtifacts) (write : DiskWrite) :
    (store.persist write).index = store.entries ∨ (store.persist write).index = store.index := by
  unfold persist
  split
  · exact .inl rfl
  · exact .inr rfl

theorem putChunk_cases (access : FileAccess) (h : file.Settles offset) (bytes : List UInt8) :
    ((putChunk access file offset bytes).2.Settles offset ∧
      (putChunk access file offset bytes).2.bytes.take offset = file.bytes.take offset) ∧
    ((putChunk access file offset bytes).1 = true →
      offset + bytes.length ≤ i64Max ∧
        (putChunk access file offset bytes).2.loose = none ∧
          (putChunk access file offset bytes).2.bytes = file.bytes.take offset ++ bytes) := by
  have hwrite : ∀ new, (file.writeAt offset new).Settles offset ∧
      (file.writeAt offset new).bytes.take offset = file.bytes.take offset := fun new =>
    ⟨h.writeAt (Nat.le_refl _) new, DiskFile.take_writeAt h (Nat.le_refl _) new⟩
  have hsize : ((file.writeAt offset bytes).setLen (offset + bytes.length)).Settles offset ∧
      ((file.writeAt offset bytes).setLen (offset + bytes.length)).bytes.take offset
        = file.bytes.take offset :=
    ⟨(hwrite bytes).1.setLen (Nat.le_add_right _ _),
      (DiskFile.take_setLen (hwrite bytes).1 (Nat.le_add_right _ _)).trans (hwrite bytes).2⟩
  unfold putChunk
  dsimp only
  split
  · exact ⟨⟨h, rfl⟩, fun hput => by cases hput⟩
  · split
    · exact ⟨hwrite _, fun hput => by cases hput⟩
    · split
      · exact ⟨hwrite _, fun hput => by cases hput⟩
      · rename_i hfits
        rw [not_or, Nat.not_lt] at hfits
        split
        · exact ⟨hsize, fun hput => by cases hput⟩
        · refine ⟨⟨hsize.1.sync, hsize.2⟩, fun _ => ⟨hfits.2, rfl, ?_⟩⟩
          exact DiskFile.bytes_setLen_writeAt h.1 bytes

/-! ### Calls -/

variable [Sha256]

/-- A call, answered; a crash has no answer. -/
def exec (store : NetworkArtifacts) : ArtifactCall → Option Response × NetworkArtifacts
  | .register peerId jobAgent jobClient jobId name mediaType totalSize sha256 indexWrite =>
    match registration peerId jobAgent jobClient jobId name mediaType totalSize sha256 with
    | .error response => (some response, store)
    | .ok (metadata, participants) =>
      let result := store.register metadata participants indexWrite
      (some result.1, result.2)
  | .write peerId artifactId offset write access indexWrite =>
    store.write peerId artifactId offset write access indexWrite
  | .crash debris => (none, store.restart debris)

def next (store : NetworkArtifacts) (call : ArtifactCall) : NetworkArtifacts := (store.exec call).2

def runCalls (calls : List ArtifactCall) (store : NetworkArtifacts) : NetworkArtifacts :=
  calls.foldl next store

/-! ### The invariant -/

structure EntrySound (file : DiskFile) (entry : NetworkArtifact) : Prop where
  positive : 0 < entry.metadata.totalSize
  bounded : entry.confirmedOffset ≤ entry.metadata.totalSize
  settles : file.Settles entry.confirmedOffset
  complete : entry.published = true → entry.confirmedOffset = entry.metadata.totalSize ∧
    file.loose = none ∧ file.bytes.length = entry.metadata.totalSize ∧
      digestText file.bytes = entry.metadata.sha256

/-- The store is sound: its entries fit their files, and the index is an older state of the entries. -/
structure Sound (store : NetworkArtifacts) : Prop where
  entries : ∀ artifactId entry, store.entries.lookup artifactId = some entry →
    EntrySound (store.file artifactId) entry
  index : ∀ artifactId entry, store.index.lookup artifactId = some entry →
    ∃ entry', store.entries.lookup artifactId = some entry' ∧ Before entry entry'

theorem sound_empty : empty.Sound where
  entries artifactId entry hlookup := by cases hlookup
  index artifactId entry hlookup := by cases hlookup

theorem Sound.persist (h : store.Sound) (write : DiskWrite) : (store.persist write).Sound := by
  constructor
  · intro artifactId entry hlookup
    rw [entries_persist] at hlookup
    rw [file_persist]
    exact h.entries artifactId entry hlookup
  · intro artifactId entry hlookup
    rw [entries_persist]
    rcases index_persist store write with hindex | hindex
    · rw [hindex] at hlookup
      exact ⟨entry, hlookup, Before.refl entry⟩
    · rw [hindex] at hlookup
      exact h.index artifactId entry hlookup

theorem Sound.insert (h : store.Sound) (hentry : EntrySound (store.file artifactId) entry)
    (hlater : ∀ before, store.entries.lookup artifactId = some before → Before before entry) :
    Sound { store with entries := store.entries.insert artifactId entry } := by
  constructor
  · intro other found hlookup
    change (Map.insert _ _ _).lookup other = _ at hlookup
    rw [Map.lookup_insert] at hlookup
    split at hlookup
    · rename_i heq
      subst heq
      cases hlookup
      exact hentry
    · exact h.entries other found hlookup
  · intro other found hlookup
    change ∃ entry', (Map.insert _ _ _).lookup other = _ ∧ _
    obtain ⟨later, hfound, hbefore⟩ := h.index other found hlookup
    rw [Map.lookup_insert]
    split
    · rename_i heq
      subst heq
      exact ⟨entry, rfl, hbefore.trans (hlater later hfound)⟩
    · exact ⟨later, hfound, hbefore⟩

theorem Sound.setFile (h : store.Sound) (hlookup : store.entries.lookup artifactId = some entry)
    (hopen : entry.published = false) (hfile : file.Settles entry.confirmedOffset) :
    (store.setFile artifactId file).Sound := by
  refine ⟨fun other found hfound => ?_, h.index⟩
  change store.entries.lookup other = some found at hfound
  rw [file_setFile]
  split
  · rename_i heq
    subst heq
    obtain rfl := Option.some.inj (hlookup.symm.trans hfound)
    have hentry := h.entries other entry hlookup
    refine ⟨hentry.positive, hentry.bounded, hfile, fun hp => ?_⟩
    rw [hopen] at hp
    cases hp
  · exact h.entries other found hfound

/-! ### What a call does -/

/-- What a call does: the store stays sound, entries only get later, and the bytes that are confirmed stay
the same. -/
structure Advances (store store' : NetworkArtifacts) : Prop where
  sound : store'.Sound
  entries : ∀ artifactId entry, store.entries.lookup artifactId = some entry →
    ∃ entry', store'.entries.lookup artifactId = some entry' ∧ Before entry entry'
  index : ∀ artifactId entry, store.index.lookup artifactId = some entry →
    ∃ entry', store'.index.lookup artifactId = some entry' ∧ Before entry entry'
  bytes : ∀ artifactId entry, store.entries.lookup artifactId = some entry →
    (store'.file artifactId).bytes.take entry.confirmedOffset
      = (store.file artifactId).bytes.take entry.confirmedOffset

theorem Advances.refl (h : store.Sound) : Advances store store :=
  ⟨h, fun _ entry hlookup => ⟨entry, hlookup, Before.refl entry⟩,
    fun _ entry hlookup => ⟨entry, hlookup, Before.refl entry⟩, fun _ _ _ => rfl⟩

theorem Advances.trans {store' store'' : NetworkArtifacts} (h : Advances store store')
    (h' : Advances store' store'') : Advances store store'' := by
  refine ⟨h'.sound, fun artifactId entry hlookup => ?_, fun artifactId entry hlookup => ?_,
    fun artifactId entry hlookup => ?_⟩
  · obtain ⟨entry', hlookup', hbefore⟩ := h.entries artifactId entry hlookup
    obtain ⟨entry'', hlookup'', hbefore'⟩ := h'.entries artifactId entry' hlookup'
    exact ⟨entry'', hlookup'', hbefore.trans hbefore'⟩
  · obtain ⟨entry', hlookup', hbefore⟩ := h.index artifactId entry hlookup
    obtain ⟨entry'', hlookup'', hbefore'⟩ := h'.index artifactId entry' hlookup'
    exact ⟨entry'', hlookup'', hbefore.trans hbefore'⟩
  · obtain ⟨entry', hlookup', hbefore⟩ := h.entries artifactId entry hlookup
    have hlater := congrArg (List.take entry.confirmedOffset) (h'.bytes artifactId entry' hlookup')
    rw [List.take_take, List.take_take, Nat.min_eq_left hbefore.offset] at hlater
    exact hlater.trans (h.bytes artifactId entry hlookup)

theorem Advances.persist (h : store.Sound) (write : DiskWrite) :
    Advances store (store.persist write) := by
  refine ⟨h.persist write, fun artifactId entry hlookup => ?_, fun artifactId entry hlookup => ?_,
    fun artifactId entry _ => by rw [file_persist]⟩
  · exact ⟨entry, (entries_persist store write).symm ▸ hlookup, Before.refl entry⟩
  · rcases index_persist store write with hindex | hindex
    · rw [hindex]
      exact h.index artifactId entry hlookup
    · rw [hindex]
      exact ⟨entry, hlookup, Before.refl entry⟩

theorem Advances.insert (h : store.Sound) (hentry : EntrySound (store.file artifactId) entry)
    (hlater : ∀ before, store.entries.lookup artifactId = some before → Before before entry) :
    Advances store { store with entries := store.entries.insert artifactId entry } := by
  refine ⟨h.insert hentry hlater, fun other found hlookup => ?_,
    fun other found hlookup => ⟨found, hlookup, Before.refl found⟩, fun _ _ _ => rfl⟩
  change ∃ entry', (Map.insert _ _ _).lookup other = _ ∧ _
  rw [Map.lookup_insert]
  split
  · rename_i heq
    subst heq
    exact ⟨entry, rfl, hlater found hlookup⟩
  · exact ⟨found, hlookup, Before.refl found⟩

theorem Advances.setFile (h : store.Sound) (hlookup : store.entries.lookup artifactId = some entry)
    (hopen : entry.published = false) (hfile : file.Settles entry.confirmedOffset)
    (hbytes : file.bytes.take entry.confirmedOffset
      = (store.file artifactId).bytes.take entry.confirmedOffset) :
    Advances store (store.setFile artifactId file) := by
  refine ⟨h.setFile hlookup hopen hfile, fun other found hfound => ⟨found, hfound, Before.refl found⟩,
    fun other found hfound => ⟨found, hfound, Before.refl found⟩, fun other found hfound => ?_⟩
  rw [file_setFile]
  split
  · rename_i heq
    subst heq
    obtain rfl := Option.some.inj (hlookup.symm.trans hfound)
    exact hbytes
  · rfl

theorem register_advances (h : store.Sound) {metadata : NetworkArtifactMetadata}
    (hsize : 0 < metadata.totalSize) (participants : Finset String) (indexWrite : DiskWrite) :
    Advances store (store.register metadata participants indexWrite).2 := by
  unfold register
  cases hlookup : store.entries.lookup metadata.id with
  | none =>
    have hnew : EntrySound (store.file metadata.id)
        { metadata, participants, confirmedOffset := 0, published := false } :=
      ⟨hsize, Nat.zero_le _, DiskFile.settles_zero _, fun hp => by cases hp⟩
    have hinsert := Advances.insert h hnew fun before hbefore => by
      rw [hlookup] at hbefore
      cases hbefore
    exact hinsert.trans (Advances.persist hinsert.sound indexWrite)
  | some entry =>
    have hentry := h.entries metadata.id entry hlookup
    have hmore : EntrySound (store.file metadata.id)
        { entry with participants := entry.participants ∪ participants } :=
      ⟨hentry.positive, hentry.bounded, hentry.settles, hentry.complete⟩
    have hinsert := Advances.insert h hmore fun before hbefore => by
      obtain rfl := Option.some.inj (hlookup.symm.trans hbefore)
      exact ⟨rfl, Nat.le_refl _, fun hp => ⟨hp, rfl⟩⟩
    exact hinsert.trans (Advances.persist hinsert.sound indexWrite)

theorem confirm_advances (h : store.Sound) (hlookup : store.entries.lookup artifactId = some entry)
    (hopen : entry.published = false)
    (hfits : entry.confirmedOffset + bytes.length ≤ entry.metadata.totalSize)
    (hloose : (store.file artifactId).loose = none)
    (hlength : (store.file artifactId).bytes.length = entry.confirmedOffset + bytes.length)
    (access : FileAccess) (indexWrite : DiskWrite) :
    Advances store (store.confirm entry artifactId bytes access indexWrite).2 := by
  have hentry := h.entries artifactId entry hlookup
  unfold confirm
  dsimp only
  split
  · exact Advances.refl h
  · split
    · split
      · refine Advances.setFile h hlookup hopen (hentry.settles.setLen (Nat.le_refl _)) ?_
        exact DiskFile.take_setLen hentry.settles (Nat.le_refl _)
      · exact Advances.refl h
    · rename_i hdigest
      have hsettles := DiskFile.settles_of_loose_eq_none hloose
      rw [hlength] at hsettles
      have hlater : EntrySound (store.file artifactId)
          { entry with
            confirmedOffset := entry.confirmedOffset + bytes.length
            published := entry.published ||
              decide (entry.confirmedOffset + bytes.length = entry.metadata.totalSize) } := by
        refine ⟨hentry.positive, hfits, hsettles, fun hp => ?_⟩
        change (entry.published || decide _) = true at hp
        rw [hopen, Bool.false_or, decide_eq_true_eq] at hp
        rw [not_and, not_not] at hdigest
        exact ⟨hp, hloose, hlength.trans hp, hdigest hp⟩
      have hinsert := Advances.insert h hlater fun before hbefore => by
        obtain rfl := Option.some.inj (hlookup.symm.trans hbefore)
        refine ⟨rfl, Nat.le_add_right _ _, fun hp => ?_⟩
        rw [hopen] at hp
        cases hp
      exact hinsert.trans (Advances.persist hinsert.sound indexWrite)

theorem Advances.setFile_same (h : store.Sound) (artifactId : String) :
    Advances store (store.setFile artifactId (store.file artifactId)) := by
  have hfile : ∀ other, (store.setFile artifactId (store.file artifactId)).file other
      = store.file other := by
    intro other
    rw [file_setFile]
    split
    · rename_i heq
      rw [heq]
    · rfl
  refine ⟨⟨fun other entry hlookup => ?_, h.index⟩,
    fun other entry hlookup => ⟨entry, hlookup, Before.refl entry⟩,
    fun other entry hlookup => ⟨entry, hlookup, Before.refl entry⟩, fun other entry _ => by rw [hfile]⟩
  rw [hfile]
  exact h.entries other entry hlookup

theorem not_published_of_fits (h : EntrySound file entry) (hbytes : bytes ≠ [])
    (hoffset : entry.confirmedOffset ≤ i64Max)
    (hfits : saturatingAdd entry.confirmedOffset bytes.length ≤ entry.metadata.totalSize) :
    entry.published = false := by
  refine Bool.eq_false_iff.2 fun hp => ?_
  have hfull := (h.complete hp).1
  have hlength := List.length_pos_iff.2 hbytes
  have hmax : i64Max < u64Max := by decide
  unfold saturatingAdd at hfits
  omega

theorem append_advances (h : store.Sound) (hlookup : store.entries.lookup artifactId = some entry)
    (hbytes : bytes ≠ [])
    (hfits : saturatingAdd entry.confirmedOffset bytes.length ≤ entry.metadata.totalSize)
    (access : FileAccess) (indexWrite : DiskWrite) :
    Advances store (store.append entry artifactId bytes access indexWrite).2 := by
  have hentry := h.entries artifactId entry hlookup
  unfold append
  split
  · exact Advances.refl h
  · dsimp only
    by_cases hoffset : i64Max < entry.confirmedOffset
    · have hput : putChunk access (store.file artifactId) entry.confirmedOffset bytes
          = (false, store.file artifactId) := if_pos (.inr hoffset)
      rw [hput]
      exact Advances.setFile_same h artifactId
    · rw [Nat.not_lt] at hoffset
      have hopen := not_published_of_fits hentry hbytes hoffset hfits
      obtain ⟨⟨hsettles, htake⟩, hput⟩ := putChunk_cases access hentry.settles bytes
      have hfile := Advances.setFile h hlookup hopen hsettles htake
      split
      · rename_i hdone
        obtain ⟨hmax, hloose, hchunk⟩ := hput hdone
        have hsame : ∀ file, (store.setFile artifactId file).file artifactId = file := by
          intro file
          rw [file_setFile, if_pos rfl]
        have hsum : entry.confirmedOffset + bytes.length ≤ entry.metadata.totalSize := by
          have hle : i64Max ≤ u64Max := by decide
          rw [saturatingAdd, Nat.min_eq_left (hmax.trans hle)] at hfits
          exact hfits
        refine hfile.trans (confirm_advances hfile.sound hlookup hopen hsum ?_ ?_ access indexWrite)
        · rw [hsame]
          exact hloose
        · rw [hsame, hchunk, List.length_append, List.length_take, Nat.min_eq_left hentry.settles.1]
      · exact hfile

theorem write_advances (h : store.Sound) (peerId artifactId : String) (offset : ℕ)
    (write : ArtifactWrite) (access : FileAccess) (indexWrite : DiskWrite) :
    Advances store (store.write peerId artifactId offset write access indexWrite).2 := by
  unfold NetworkArtifacts.write
  split
  · exact Advances.refl h
  · rename_i entry hlookup
    split
    · exact Advances.refl h
    · split
      · exact Advances.refl h
      · rename_i hmetadata
        split
        · exact Advances.refl h
        · rename_i hchunk
          split
          · exact Advances.refl h
          · split
            · unfold replay
              split
              · exact Advances.refl h
              · split
                · exact Advances.refl h
                · split
                  · exact Advances.refl h
                  · exact Advances.persist h indexWrite
            · split
              · exact Advances.refl h
              · rename_i hoffset
                rw [not_or, not_not, not_not] at hmetadata
                rw [not_or, not_or] at hchunk
                rw [not_not] at hoffset
                refine append_advances h hlookup hchunk.1 ?_ access indexWrite
                rw [← hoffset, ← hmetadata.1]
                exact Nat.not_lt.1 hchunk.2.2

theorem registration_eq_ok {jobAgent jobClient : Option String} {jobId name mediaType : String}
    {totalSize : ℕ} {sha256 : String} {metadata : NetworkArtifactMetadata}
    {participants : Finset String}
    (h : registration peerId jobAgent jobClient jobId name mediaType totalSize sha256
      = .ok (metadata, participants)) :
    jobAgent = some peerId ∧ 0 < totalSize ∧
      metadata = artifactMetadata jobId name mediaType totalSize sha256 := by
  unfold registration at h
  split at h
  · cases h
  · rename_i hagent
    split at h
    · cases h
    · rename_i hchecks
      cases h
      rw [not_or] at hchecks
      exact ⟨not_not.1 hagent, Nat.pos_of_ne_zero hchecks.1, rfl⟩

/-- **Every call but a crash goes forward.** -/
theorem next_advances (h : store.Sound) {call : ArtifactCall} (hcall : ¬ call.isCrash) :
    Advances store (store.next call) := by
  unfold next
  cases call with
  | register peerId jobAgent jobClient jobId name mediaType totalSize sha256 indexWrite =>
    unfold exec
    dsimp only
    split
    · exact Advances.refl h
    · rename_i metadata participants hregistration
      obtain ⟨-, hsize, rfl⟩ := registration_eq_ok hregistration
      exact register_advances h hsize participants indexWrite
  | write peerId artifactId offset write access indexWrite =>
    exact write_advances h peerId artifactId offset write access indexWrite
  | crash => exact absurd trivial hcall

/-! ### Crashes -/

omit [Sha256] in
theorem file_restart (store : NetworkArtifacts) (debris : String → List UInt8) (artifactId : String) :
    (store.restart debris).file artifactId = (store.file artifactId).crash (debris artifactId) := by
  change ((Map.mapValues _ _).lookup artifactId).getD _ = _
  rw [Map.lookup_mapValues, file]
  cases store.files.lookup artifactId <;> rfl

theorem Sound.restart (h : store.Sound) (debris : String → List UInt8) :
    (store.restart debris).Sound := by
  refine ⟨fun artifactId entry hlookup => ?_, fun _ entry hlookup => ⟨entry, hlookup, Before.refl entry⟩⟩
  obtain ⟨entry', hlookup', hbefore⟩ := h.index artifactId entry hlookup
  have hentry := h.entries artifactId entry' hlookup'
  rw [file_restart]
  refine ⟨?_, ?_, (hentry.settles.mono hbefore.offset).crash _, fun hp => ?_⟩
  · rw [← hbefore.metadata]
    exact hentry.positive
  · rw [← hbefore.metadata]
    exact Nat.le_trans hbefore.offset hentry.bounded
  · obtain ⟨hp', hoffset⟩ := hbefore.published hp
    obtain ⟨hfull, hloose, hlength, hdigest⟩ := hentry.complete hp'
    rw [DiskFile.crash_of_loose_eq_none hloose, ← hbefore.metadata]
    exact ⟨hoffset.symm.trans hfull, hloose, hlength, hdigest⟩

theorem Sound.next (h : store.Sound) (call : ArtifactCall) : (store.next call).Sound := by
  by_cases hcall : call.isCrash
  · cases call with
    | crash debris => exact h.restart debris
    | register | write => cases hcall
  · exact (next_advances h hcall).sound

theorem Sound.runCalls (h : store.Sound) (calls : List ArtifactCall) :
    (store.runCalls calls).Sound := by
  induction calls generalizing store with
  | nil => exact h
  | cons call calls ih => exact ih (h.next call)

/-! ### What has been confirmed -/

/-- The first bytes of an artifact, as many as are confirmed by the index. -/
def Keeps (store : NetworkArtifacts) (artifactId : String) (length : ℕ) (bytes : List UInt8) : Prop :=
  (∃ entry, store.index.lookup artifactId = some entry ∧ length ≤ entry.confirmedOffset) ∧
    (store.file artifactId).bytes.take length = bytes

/-- **Confirmed bytes stay, also in a crash.** -/
theorem Keeps.next (h : store.Sound) (hkeeps : store.Keeps artifactId length bytes)
    (call : ArtifactCall) : (store.next call).Keeps artifactId length bytes := by
  obtain ⟨⟨entry, hindex, hlength⟩, hbytes⟩ := hkeeps
  obtain ⟨entry', hlookup, hbefore⟩ := h.index artifactId entry hindex
  by_cases hcall : call.isCrash
  · cases call with
    | crash debris =>
      refine ⟨⟨entry, hindex, hlength⟩, ?_⟩
      change ((store.restart debris).file artifactId).bytes.take length = bytes
      have hsettles := (h.entries artifactId entry' hlookup).settles
      rw [file_restart, DiskFile.take_crash (hsettles.mono (hlength.trans hbefore.offset))]
      exact hbytes
    | register | write => cases hcall
  · have hnext := next_advances h hcall
    obtain ⟨later, hindex', hbefore'⟩ := hnext.index artifactId entry hindex
    refine ⟨⟨later, hindex', hlength.trans hbefore'.offset⟩, ?_⟩
    have hsame := congrArg (List.take length) (hnext.bytes artifactId entry' hlookup)
    rw [List.take_take, List.take_take,
      Nat.min_eq_left (hlength.trans hbefore.offset)] at hsame
    exact hsame.trans hbytes

theorem Keeps.runCalls (h : store.Sound) (hkeeps : store.Keeps artifactId length bytes)
    (calls : List ArtifactCall) : (store.runCalls calls).Keeps artifactId length bytes := by
  induction calls generalizing store with
  | nil => exact hkeeps
  | cons call calls ih => exact ih (h.next call) (hkeeps.next h call)

def Confirms (store : NetworkArtifacts) (artifactId : String) (length : ℕ) : Prop :=
  ∃ entry, store.index.lookup artifactId = some entry ∧ entry.confirmedOffset = length

omit [Sha256] in
theorem confirms_of_persist (hlookup : store.entries.lookup artifactId = some entry)
    (hconfirmed : (if indexWrite = .stored then confirmed entry.confirmedOffset
      else persistFailed).confirmedOffset = some length) :
    (store.persist indexWrite).Confirms artifactId length := by
  split at hconfirmed
  · rename_i hstored
    subst hstored
    exact ⟨entry, hlookup, Option.some.inj hconfirmed⟩
  · cases hconfirmed

omit [Sha256] in
theorem replay_confirms (hlookup : store.entries.lookup artifactId = some entry) {response : Response}
    (hresponse : (store.replay entry artifactId offset bytes access indexWrite).1 = some response)
    (hlength : response.confirmedOffset = some length) :
    (store.replay entry artifactId offset bytes access indexWrite).2.Confirms artifactId length := by
  unfold replay at hresponse ⊢
  split
  · rename_i h
    rw [if_pos h] at hresponse
    cases hresponse
  · rename_i h
    rw [if_neg h] at hresponse
    split
    · rename_i h
      rw [if_pos h] at hresponse
      cases hresponse
      cases hlength
    · rename_i h
      rw [if_neg h] at hresponse
      split
      · rename_i h
        rw [if_pos h] at hresponse
        cases hresponse
        cases hlength
      · rename_i h
        rw [if_neg h] at hresponse
        rw [← Option.some.inj hresponse] at hlength
        exact confirms_of_persist hlookup hlength

theorem confirm_confirms
    (hlength : (store.confirm entry artifactId bytes access indexWrite).1.confirmedOffset
      = some length) :
    (store.confirm entry artifactId bytes access indexWrite).2.Confirms artifactId length := by
  unfold confirm at hlength ⊢
  dsimp only at hlength ⊢
  split
  · rename_i h
    rw [if_pos h] at hlength
    cases hlength
  · rename_i h
    rw [if_neg h] at hlength
    split
    · rename_i h
      rw [if_pos h] at hlength
      split at hlength
      · cases hlength
      · cases hlength
    · rename_i h
      rw [if_neg h] at hlength
      exact confirms_of_persist (Map.lookup_insert_self _ _ _) hlength

theorem append_confirms
    (hlength : (store.append entry artifactId bytes access indexWrite).1.confirmedOffset
      = some length) :
    (store.append entry artifactId bytes access indexWrite).2.Confirms artifactId length := by
  unfold append at hlength ⊢
  split
  · rename_i h
    rw [if_pos h] at hlength
    cases hlength
  · rename_i h
    rw [if_neg h] at hlength
    dsimp only at hlength ⊢
    split
    · rename_i h
      rw [if_pos h] at hlength
      exact confirm_confirms hlength
    · rename_i h
      rw [if_neg h] at hlength
      cases hlength

/-- **A confirmed offset is on the disk.** -/
theorem write_confirms {write : ArtifactWrite} {response : Response}
    (hresponse : (store.write peerId artifactId offset write access indexWrite).1 = some response)
    (hlength : response.confirmedOffset = some length) :
    (store.write peerId artifactId offset write access indexWrite).2.Confirms artifactId length := by
  unfold NetworkArtifacts.write at hresponse ⊢
  cases hlookup : store.entries.lookup artifactId with
  | none =>
    rw [hlookup] at hresponse
    cases hresponse
    cases hlength
  | some =>
    rw [hlookup] at hresponse
    dsimp only at hresponse ⊢
    iterate 4
      split
      · rename_i h
        rw [if_pos h] at hresponse
        cases hresponse
        cases hlength
      rename_i h
      rw [if_neg h] at hresponse
      clear h
    split
    · rename_i h
      rw [if_pos h] at hresponse
      exact replay_confirms hlookup hresponse hlength
    · rename_i h
      rw [if_neg h] at hresponse
      split
      · rename_i h
        rw [if_pos h] at hresponse
        cases hresponse
        cases hlength
      · rename_i h
        rw [if_neg h] at hresponse
        rw [← Option.some.inj hresponse] at hlength
        exact append_confirms hlength

/-! ### Downloads -/

omit [Sha256] in
/-- A client reads an artifact from an offset on, in chunks of the lengths that it asks for. -/
def download (store : NetworkArtifacts) (peerId artifactId : String) (totalSize : ℕ) (sha256 : String)
    (access : FileAccess) : List ℕ → ℕ → Option (List UInt8)
  | [], offset => if totalSize ≤ offset then some [] else none
  | length :: lengths, offset =>
    if totalSize ≤ offset then
      some []
    else
      match (store.read peerId artifactId offset length totalSize sha256 access).artifactChunk with
      | none => none
      | some chunk =>
        (store.download peerId artifactId totalSize sha256 access lengths
          (offset + chunk.bytes.length)).map (chunk.bytes ++ ·)

theorem read_of_published (h : store.Sound) (hlookup : store.entries.lookup artifactId = some entry)
    (hpublished : entry.published = true) (hpeer : peerId ∈ entry.participants)
    (hreads : access.reads = true) (hoffset : offset < entry.metadata.totalSize)
    (hpositive : 0 < length) (hmax : length ≤ maxArtifactChunk) :
    store.read peerId artifactId offset length entry.metadata.totalSize entry.metadata.sha256 access =
      { response with
        artifactChunk := some
          { offset
            totalSize := entry.metadata.totalSize
            sha256 := entry.metadata.sha256
            bytes := ((store.file artifactId).bytes.drop offset).take length } } := by
  obtain ⟨-, -, hlength, -⟩ := (h.entries artifactId entry hlookup).complete hpublished
  have hexact : readExact access (store.file artifactId) offset
      (min length (entry.metadata.totalSize - offset))
        = some (((store.file artifactId).bytes.drop offset).take length) := by
    rw [readExact, if_pos ⟨hreads, by omega⟩]
    refine congrArg some ?_
    rw [← hlength, ← List.length_drop, Nat.min_comm, ← List.take_take]
    refine List.take_of_length_le ?_
    rw [List.length_take]
    exact Nat.min_le_right _ _
  have hopen : ¬ entry.published = false := by
    rw [hpublished]
    exact Bool.noConfusion
  have hrange : ¬ (length = 0 ∨ maxArtifactChunk < length ∨ entry.metadata.totalSize ≤ offset) := by
    omega
  have hmetadata : ¬ (entry.metadata.totalSize ≠ entry.metadata.totalSize ∨
      entry.metadata.sha256 ≠ entry.metadata.sha256) := by
    rintro (hne | hne)
    · exact hne rfl
    · exact hne rfl
  rw [read, hlookup]
  dsimp only
  rw [if_neg (not_not.2 hpeer), if_neg hopen, if_neg hmetadata, if_neg hrange, hexact]

/-- **In whatever chunks it is read, a published artifact is read as it is.** -/
theorem download_of_published (h : store.Sound)
    (hlookup : store.entries.lookup artifactId = some entry) (hpublished : entry.published = true)
    (hpeer : peerId ∈ entry.participants) (hreads : access.reads = true) {lengths : List ℕ}
    (hlengths : ∀ length ∈ lengths, 0 < length ∧ length ≤ maxArtifactChunk)
    (hsum : entry.metadata.totalSize ≤ offset + lengths.sum) :
    store.download peerId artifactId entry.metadata.totalSize entry.metadata.sha256 access lengths
      offset = some ((store.file artifactId).bytes.drop offset) := by
  obtain ⟨-, -, hlength, -⟩ := (h.entries artifactId entry hlookup).complete hpublished
  have hend : ∀ {n : ℕ}, entry.metadata.totalSize ≤ n →
      (store.file artifactId).bytes.drop n = [] := fun hn =>
    List.drop_eq_nil_of_le (hlength ▸ hn)
  induction lengths generalizing offset with
  | nil =>
    rw [List.sum_nil, Nat.add_zero] at hsum
    rw [download, if_pos hsum, hend hsum]
  | cons length lengths ih =>
    rw [download]
    split
    · rename_i hle
      rw [hend hle]
    · rename_i hlt
      rw [Nat.not_le] at hlt
      obtain ⟨hpositive, hmax⟩ := hlengths length List.mem_cons_self
      rw [read_of_published h hlookup hpublished hpeer hreads hlt hpositive hmax]
      dsimp only
      generalize hrest : (store.file artifactId).bytes.drop offset = rest
      have hremains : entry.metadata.totalSize ≤ offset + (rest.take length).length + lengths.sum := by
        rw [List.sum_cons] at hsum
        rw [List.length_take, ← hrest, List.length_drop, hlength]
        omega
      have hshort : rest.take length = rest.take (rest.take length).length := by
        rw [List.take_eq_take_iff, List.length_take]
        omega
      rw [ih (List.forall_mem_cons.1 hlengths).2 hremains, Option.map_some,
        ← List.drop_drop, hrest]
      calc some (rest.take length ++ rest.drop (rest.take length).length)
          = some (rest.take (rest.take length).length ++ rest.drop (rest.take length).length) := by
            rw [← hshort]
        _ = some rest := by rw [List.take_append_drop]

/-! ### Exact uploads -/

/-- What clients rely on. -/
structure Exact (store : NetworkArtifacts) : Prop where
  /-- What is confirmed is in the file, and a published artifact is complete, with its digest. -/
  entries : ∀ artifactId entry, store.entries.lookup artifactId = some entry →
    EntrySound (store.file artifactId) entry
  /-- Nothing that is confirmed is taken back while the registry runs. -/
  forward : ∀ call, ¬ call.isCrash → Advances store (store.next call)
  /-- An offset that has been answered is not lost, and the bytes before it stay the same. -/
  confirmed : ∀ peerId artifactId offset write access indexWrite response length,
    (store.write peerId artifactId offset write access indexWrite).1 = some response →
      response.confirmedOffset = some length → ∀ later, ∃ entry,
        ((store.write peerId artifactId offset write access indexWrite).2.runCalls
          later).entries.lookup artifactId = some entry ∧ length ≤ entry.confirmedOffset ∧
        (((store.write peerId artifactId offset write access indexWrite).2.runCalls
          later).file artifactId).bytes.take length
            = ((store.write peerId artifactId offset write access indexWrite).2.file
                artifactId).bytes.take length
  /-- Who does not take part changes nothing. -/
  strangers : ∀ peerId artifactId offset write access indexWrite entry,
    store.entries.lookup artifactId = some entry → peerId ∉ entry.participants →
      store.write peerId artifactId offset write access indexWrite
        = (some (errorResponse "artifact_access_denied"), store)
  /-- A published artifact is read as it is, in whatever chunks. -/
  downloads : ∀ peerId artifactId entry access lengths,
    store.entries.lookup artifactId = some entry → entry.published = true →
      peerId ∈ entry.participants → access.reads = true →
        (∀ length ∈ lengths, 0 < length ∧ length ≤ maxArtifactChunk) →
          entry.metadata.totalSize ≤ lengths.sum →
            store.download peerId artifactId entry.metadata.totalSize entry.metadata.sha256 access
              lengths 0 = some (store.file artifactId).bytes

/-- **Uploads are exact and go on after a restart.** -/
theorem upload_exact (calls : List ArtifactCall) : (empty.runCalls calls).Exact := by
  have hsound := sound_empty.runCalls calls
  refine ⟨hsound.entries, fun call hcall => next_advances hsound hcall, ?_, ?_, ?_⟩
  · intro peerId artifactId offset write access indexWrite response length hresponse hlength later
    obtain ⟨entry, hindex, hentry⟩ := write_confirms hresponse hlength
    have hafter := (write_advances hsound peerId artifactId offset write access indexWrite).sound
    have hkeeps := Keeps.runCalls hafter ⟨⟨entry, hindex, Nat.le_of_eq hentry.symm⟩, rfl⟩ later
    obtain ⟨⟨stored, hstored, hle⟩, hbytes⟩ := hkeeps
    obtain ⟨found, hfound, hbefore⟩ := (hafter.runCalls later).index artifactId stored hstored
    exact ⟨found, hfound, Nat.le_trans hle hbefore.offset, hbytes⟩
  · intro peerId artifactId offset write access indexWrite entry hlookup hpeer
    rw [NetworkArtifacts.write, hlookup]
    exact if_pos hpeer
  · intro peerId artifactId entry access lengths hlookup hpublished hpeer hreads hlengths hsum
    refine download_of_published hsound hlookup hpublished hpeer hreads hlengths ?_
    rw [Nat.zero_add]
    exact hsum

end NetworkArtifacts

end Registry
