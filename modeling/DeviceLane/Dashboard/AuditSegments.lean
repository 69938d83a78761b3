/-
**What is read of the segments, and what compacting them comes to.**

Whatever the segments of a directory hold, reading one either fails or finds its entries, and a call that
succeeds has met no fault. So what a compaction that succeeds has done can be told from the segments it
started with: it has kept the segments without records past their age, and has written what is kept of the
others to new ones.

Main definitions:

* `Dashboard.Files`, `Dashboard.entriesOf`, `Dashboard.entriesIn` — the segments, and what is read of them.

Main results:

* `Dashboard.Sifted.compactSegment`, `Dashboard.Sifted.compactSegments` — **what one segment, and what all
  of them come to**.
-/

import DeviceLane.Dashboard.AuditRetention

namespace Dashboard

open Effect AuditStore

variable {entries : List StoredEntry} {number : ℕ} {dir dir' : AuditDir}

/-! ### What is on disk -/

abbrev Files : Type := Map ℕ (List UInt8)

section Calls

variable {α : Type} {dir dir' : AuditDir} {number : ℕ}

theorem exec_fileCall_inv {effect : Option ℕ → AuditDir → Except AuditError (α × AuditDir)} {a : α}
    (h : (fileCall effect).exec dir = (.ok a, dir')) :
    ∃ faults, effect none { dir with faults } = .ok (a, dir') := by
  rw [fileCall, exec_ofRun] at h
  split at h
  · cases h
  · split at h <;> cases h
  · rename_i faults _
    split at h
    · rename_i heffect
      cases h
      exact ⟨faults, heffect⟩
    · cases h
  · split at h
    · rename_i heffect
      cases h
      exact ⟨dir.faults, heffect⟩
    · cases h

theorem exec_createSegment_inv (h : (createSegment number).exec dir = (.ok (), dir')) :
    dir.segments.lookup number = none ∧ dir'.segments = dir.segments.insert number [] := by
  obtain ⟨faults, h⟩ := exec_fileCall_inv h
  split at h
  · cases h
  · rename_i hnone
    cases h
    exact ⟨Option.not_isSome_iff_eq_none.1 hnone, rfl⟩

theorem exec_appendFrame_inv [Sha256] {payload : List UInt8}
    (h : (appendFrame number payload).exec dir = (.ok (), dir')) :
    ∃ bytes, dir.segments.lookup number = some bytes ∧
      dir'.segments = dir.segments.insert number (bytes ++ Frames.frame payload) := by
  obtain ⟨faults, h⟩ := exec_fileCall_inv h
  split at h
  · cases h
  · rename_i bytes hbytes
    simp only [Option.getD_none, List.take_length] at h
    cases h
    exact ⟨bytes, hbytes, rfl⟩

theorem exec_readFile_inv {bytes : List UInt8} (h : (readFile number).exec dir = (.ok bytes, dir')) :
    dir.segments.lookup number = some bytes ∧ dir'.segments = dir.segments := by
  obtain ⟨faults, h⟩ := exec_fileCall_inv h
  split at h
  · cases h
  · rename_i found hfound
    cases h
    exact ⟨hfound, rfl⟩

theorem exec_removeFile_inv (h : (removeFile number).exec dir = (.ok (), dir')) :
    dir'.segments = dir.segments.erase number := by
  obtain ⟨_, h⟩ := exec_fileCall_inv h
  split at h
  · cases h
    rfl
  · cases h

theorem exec_syncDirectory_inv (h : syncDirectory.exec dir = (.ok (), dir')) :
    dir'.segments = dir.segments := by
  obtain ⟨_, h⟩ := exec_fileCall_inv h
  cases h
  rfl

theorem exec_replaceIndexFile_inv {bytes : List UInt8}
    (h : (replaceIndexFile bytes).exec dir = (.ok (), dir')) : dir'.segments = dir.segments := by
  obtain ⟨_, h⟩ := exec_fileCall_inv h
  cases h
  rfl

theorem exec_segmentNumbers_inv {numbers : List ℕ}
    (h : segmentNumbers.exec dir = (.ok numbers, dir')) :
    freshNumber numbers = lastNumber dir ∧ dir'.segments = dir.segments := by
  obtain ⟨_, h⟩ := exec_fileCall_inv h
  cases h
  exact ⟨rfl, rfl⟩

end Calls

variable [Sha256]

def Reads (files : Files) (number : ℕ) (entries : List StoredEntry) : Prop :=
  ∃ bytes, files.lookup number = some bytes ∧
    Frames.scan maxSegmentBytes StoredEntry.fromVec 0 bytes = (entries, .complete)

def entriesOf (files : Files) (number : ℕ) : List StoredEntry :=
  (Frames.scan maxSegmentBytes StoredEntry.fromVec 0 ((files.lookup number).getD [])).1

def entriesIn (files : Files) (numbers : List ℕ) : List StoredEntry := numbers.flatMap (entriesOf files)

variable {files : Files}

theorem Reads.entriesOf_eq (h : Reads files number entries) : entriesOf files number = entries := by
  obtain ⟨_, hbytes, hscan⟩ := h
  rw [entriesOf, hbytes, Option.getD_some, hscan]

theorem entriesOf_congr {files' : Files} (h : files'.lookup number = files.lookup number) :
    entriesOf files' number = entriesOf files number := by
  rw [entriesOf, entriesOf, h]

theorem entriesIn_congr {files' : Files} {numbers : List ℕ}
    (h : ∀ number ∈ numbers, files'.lookup number = files.lookup number) :
    entriesIn files' numbers = entriesIn files numbers :=
  List.flatMap_congr fun number hnumber => entriesOf_congr (h number hnumber)

@[simp] theorem entriesIn_append (files : Files) (numbers numbers' : List ℕ) :
    entriesIn files (numbers ++ numbers') = entriesIn files numbers ++ entriesIn files numbers' :=
  List.flatMap_append

theorem entriesIn_singleton (files : Files) (number : ℕ) :
    entriesIn files [number] = entriesOf files number := List.flatMap_singleton ..

theorem exec_readSegment_inv {result : Except AuditError Bool}
    (h : (readSegment number false).exec dir = (.ok (entries, result), dir')) :
    dir'.segments = dir.segments ∧
      ∀ recovered, result = .ok recovered → Reads dir.segments number entries := by
  rw [readSegment] at h
  obtain ⟨bytes, dir₁, hread, h⟩ := exec_bind_inv h
  obtain ⟨hbytes, hsame⟩ := exec_readFile_inv hread
  split at h
  · rename_i hscan
    cases h
    exact ⟨hsame, fun _ _ => ⟨bytes, hbytes, hscan⟩⟩
  · cases h
    exact ⟨hsame, fun _ h => by cases h⟩
  · cases h
    exact ⟨hsame, fun _ h => by cases h⟩

omit [Sha256] in
theorem valid_of_toVec {entry : StoredEntry} {payload : List UInt8} (h : entry.toVec = .ok payload) :
    entry.Valid ∧ payload = entry.toJson.toVec := by
  have hvalid : entry.Valid := by
    cases entry with
    | retentionTombstone => exact trivial
    | record =>
      rw [StoredEntry.toVec] at h
      obtain ⟨⟨⟩, hrecord, h⟩ := bind_eq_ok.1 h
      refine ⟨hrecord, ?_⟩
      intro _ hsome
      rw [hsome] at h
      obtain ⟨⟨⟩, hmessage, -⟩ := bind_eq_ok.1 h
      exact hmessage
  refine ⟨hvalid, ?_⟩
  rw [StoredEntry.toVec_eq_ok hvalid] at h
  cases h
  rfl

theorem exec_appendEntries_inv {limit : ℕ} {bytes : List UInt8}
    (hbytes : dir.segments.lookup number = some bytes) (hlimit : limit ≤ maxSegmentBytes)
    (h : (appendEntries limit number entries).exec dir = (.ok (), dir')) :
    (∀ entry ∈ entries, Stored entry) ∧
      ∀ m, dir'.segments.lookup m
        = if m = number then some (bytes ++ framesOf entries) else dir.segments.lookup m := by
  induction entries generalizing dir bytes with
  | nil =>
    rw [appendEntries, exec_pure] at h
    cases h
    refine ⟨List.forall_mem_nil _, ?_⟩
    intro m
    rw [framesOf_nil, List.append_nil]
    split
    · rename_i heq
      rw [heq, hbytes]
    · rfl
  | cons entry entries ih =>
    rw [appendEntries] at h
    obtain ⟨payload, hpayload, hrun⟩ := exec_orThrow_inv h
    obtain ⟨length, hlength, hrun⟩ := exec_orThrow_inv hrun
    obtain ⟨hfits, hrun⟩ := exec_throwIf_inv hrun
    obtain ⟨⟨⟩, dir₁, hframe, hrest⟩ := exec_bind_inv hrun
    obtain ⟨hvalid, rfl⟩ := valid_of_toVec hpayload
    obtain ⟨-, rfl⟩ := frameLen_eq_ok_iff.1 hlength
    obtain ⟨found, hfound, hsegments⟩ := exec_appendFrame_inv hframe
    rw [hbytes] at hfound
    cases hfound
    have hnow : dir₁.segments.lookup number = some (bytes ++ Frames.frame entry.toJson.toVec) := by
      rw [hsegments, Map.lookup_insert_self]
    obtain ⟨hstored, hfiles⟩ := ih hnow hrest
    refine ⟨?_, ?_⟩
    · intro e he
      rcases List.mem_cons.1 he with rfl | he
      · exact ⟨hvalid, by omega⟩
      · exact hstored e he
    · intro m
      rw [hfiles m]
      split
      · rw [List.append_assoc, ← framesOf_singleton, ← framesOf_append]
        rfl
      · rename_i hne
        rw [hsegments, Map.lookup_insert_ne hne]

theorem entriesOf_frames (hfiles : files.lookup number = some (framesOf entries))
    (hstored : ∀ entry ∈ entries, Stored entry) : entriesOf files number = entries :=
  Reads.entriesOf_eq
    ⟨_, hfiles, Frames.scan_frames (fun entry hentry => (hstored entry hentry).holds) 0⟩

theorem Represents.entriesIn_eq {layout : Layout} (h : Represents dir layout) :
    entriesIn dir.segments layout.numbers = layout.entries := by
  rw [entriesIn, Layout.numbers, List.flatMap_map]
  exact List.flatMap_congr fun p hp => entriesOf_frames (h.segment p hp) (h.stored p hp)

/-! ### A compaction that succeeds -/

def HasExpired (files : Files) (cutoff number : ℕ) : Prop :=
  ∃ record ∈ recordsOf (entriesOf files number), record.occurredAtMs < cutoff

instance (files : Files) (cutoff number : ℕ) : Decidable (HasExpired files cutoff number) :=
  inferInstanceAs (Decidable (∃ record ∈ recordsOf (entriesOf files number), _))

def summaryIn (files : Files) (number : ℕ) : DeletedSegmentSummary :=
  segmentSummary number ((files.lookup number).getD [])

def expiredRecords (cutoff : ℕ) (records : List AuditRecord) : List AuditRecord :=
  records.filter fun record => record.occurredAtMs < cutoff

def liveRecords (cutoff : ℕ) (records : List AuditRecord) : List AuditRecord :=
  records.filter fun record => record.occurredAtMs ≥ cutoff

/-- The segments and the accumulators after some of the segments of `base` have been gone through. -/
structure Sifted (base : Files) (cutoff start : ℕ) (files : Files) (numbers : List ℕ)
    (acc : Compaction) : Prop where
  old : ∀ m < start, files.lookup m = base.lookup m
  start_le : start ≤ acc.nextNumber
  filled : ∀ m, start ≤ m → (files.lookup m ≠ none ↔ m < acc.nextNumber)
  active : ∀ m ∈ acc.newActive, m < acc.nextNumber
  fresh : ∀ m, start ≤ m → m < acc.nextNumber → m ∈ acc.newActive
  live : recordsOf (entriesIn files acc.newActive)
    = liveRecords cutoff (recordsOf (entriesIn base numbers))
  tombstones : tombstonesOf (entriesIn files acc.newActive) = tombstonesOf (entriesIn base numbers)
  expired : acc.deletedRecords = expiredRecords cutoff (recordsOf (entriesIn base numbers))
  originals : acc.replacedOriginals = (numbers.filter (HasExpired base cutoff)).map (summaryIn base)
  replacements : ∀ summary, summary ∈ acc.replacements ↔
    ∃ m, start ≤ m ∧ m < acc.nextNumber ∧ summary = summaryIn files m

namespace Sifted

variable {base : Files} {cutoff start limit number : ℕ} {dir dir' : AuditDir} {numbers : List ℕ}
  {acc acc' : Compaction} {files : Files}

theorem init (hfree : ∀ m, start ≤ m → base.lookup m = none) :
    Sifted base cutoff start base [] ⟨start, [], [], [], []⟩ where
  old := fun _ _ => rfl
  start_le := Nat.le_refl _
  filled := by
    intro m hm
    simp only [hfree m hm, ne_eq, not_true_eq_false, false_iff]
    omega
  active := nofun
  fresh := fun _ hle hlt => absurd hlt (Nat.not_lt.2 hle)
  live := rfl
  tombstones := rfl
  expired := rfl
  originals := rfl
  replacements := by
    intro _
    simp only [List.not_mem_nil, false_iff]
    rintro ⟨m, hle, hlt, -⟩
    exact absurd hlt (Nat.not_lt.2 hle)

theorem entriesOf_eq (h : Sifted base cutoff start files numbers acc) (hlt : number < start) :
    entriesOf files number = entriesOf base number := entriesOf_congr (h.old number hlt)

theorem keep (h : Sifted base cutoff start files numbers acc) (hlt : number < start)
    (hlive : ¬HasExpired base cutoff number) :
    Sifted base cutoff start files (numbers ++ [number])
      { acc with newActive := acc.newActive ++ [number] } where
  old := h.old
  start_le := h.start_le
  filled := h.filled
  active := by
    intro m hm
    rcases List.mem_append.1 hm with hm | hm
    · exact h.active m hm
    · rw [List.mem_singleton.1 hm]
      exact Nat.lt_of_lt_of_le hlt h.start_le
  fresh := fun m hle hlt => List.mem_append_left _ (h.fresh m hle hlt)
  live := by
    have hall : liveRecords cutoff (recordsOf (entriesOf base number))
        = recordsOf (entriesOf base number) := by
      refine List.filter_eq_self.2 ?_
      intro record hrecord
      exact decide_eq_true (Nat.not_lt.1 fun hold => hlive ⟨record, hrecord, hold⟩)
    rw [liveRecords] at hall
    rw [entriesIn_append, entriesIn_append, entriesIn_singleton, entriesIn_singleton, recordsOf_append,
      recordsOf_append, h.live, h.entriesOf_eq hlt, liveRecords, liveRecords, List.filter_append, hall]
  tombstones := by
    rw [entriesIn_append, entriesIn_append, entriesIn_singleton, entriesIn_singleton,
      tombstonesOf_append, tombstonesOf_append, h.tombstones, h.entriesOf_eq hlt]
  expired := by
    have hnone : (recordsOf (entriesOf base number)).filter (fun record => record.occurredAtMs < cutoff)
        = [] := by
      refine List.filter_eq_nil_iff.2 ?_
      intro record hrecord hold
      exact hlive ⟨record, hrecord, of_decide_eq_true hold⟩
    rw [h.expired, entriesIn_append, entriesIn_singleton, recordsOf_append, expiredRecords,
      expiredRecords, List.filter_append, hnone, List.append_nil]
  originals := by
    rw [h.originals, List.filter_append, List.filter_cons, if_neg (by simpa using hlive),
      List.filter_nil, List.append_nil]
  replacements := h.replacements

theorem expired_append (h : Sifted base cutoff start files numbers acc) :
    acc.deletedRecords ++ expiredRecords cutoff (recordsOf (entriesOf base number))
      = expiredRecords cutoff (recordsOf (entriesIn base (numbers ++ [number]))) := by
  rw [h.expired, entriesIn_append, entriesIn_singleton, recordsOf_append, expiredRecords,
    expiredRecords, expiredRecords, List.filter_append]

theorem originals_append (h : Sifted base cutoff start files numbers acc)
    (hexpired : HasExpired base cutoff number) :
    acc.replacedOriginals ++ [summaryIn base number]
      = ((numbers ++ [number]).filter (HasExpired base cutoff)).map (summaryIn base) := by
  rw [h.originals, List.filter_append, List.filter_cons, if_pos (decide_eq_true hexpired),
    List.filter_nil, List.map_append]
  rfl

theorem drop (h : Sifted base cutoff start files numbers acc)
    (hexpired : HasExpired base cutoff number)
    (hretained : retainedEntries cutoff (entriesOf base number) = []) :
    Sifted base cutoff start files (numbers ++ [number])
      { acc with
        replacedOriginals := acc.replacedOriginals ++ [summaryIn base number]
        deletedRecords := acc.deletedRecords
          ++ expiredRecords cutoff (recordsOf (entriesOf base number)) } where
  old := h.old
  start_le := h.start_le
  filled := h.filled
  active := h.active
  fresh := h.fresh
  live := by
    have hkept := (Kept.dropped number hretained).records
    rw [Layout.entries_cons, Layout.entries_nil, List.append_nil] at hkept
    rw [h.live, entriesIn_append, entriesIn_singleton, recordsOf_append, liveRecords, liveRecords,
      List.filter_append, ← hkept]
    exact (List.append_nil _).symm
  tombstones := by
    have hkept := (Kept.dropped number hretained).tombstones
    rw [Layout.entries_cons, Layout.entries_nil, List.append_nil] at hkept
    rw [h.tombstones, entriesIn_append, entriesIn_singleton, tombstonesOf_append, ← hkept]
    exact (List.append_nil _).symm
  expired := h.expired_append
  originals := h.originals_append hexpired
  replacements := h.replacements

theorem replace {files' : Files} (h : Sifted base cutoff start files numbers acc)
    (hexpired : HasExpired base cutoff number)
    (hstored : ∀ entry ∈ retainedEntries cutoff (entriesOf base number), Stored entry)
    (hfiles : ∀ m, files'.lookup m = if m = acc.nextNumber then
      some (framesOf (retainedEntries cutoff (entriesOf base number))) else files.lookup m) :
    Sifted base cutoff start files' (numbers ++ [number])
      { nextNumber := acc.nextNumber + 1
        newActive := acc.newActive ++ [acc.nextNumber]
        replacedOriginals := acc.replacedOriginals ++ [summaryIn base number]
        replacements := acc.replacements ++ [summaryIn files' acc.nextNumber]
        deletedRecords := acc.deletedRecords
          ++ expiredRecords cutoff (recordsOf (entriesOf base number)) } := by
  have hle := h.start_le
  have hbefore : ∀ m, m < acc.nextNumber → files'.lookup m = files.lookup m := by
    intro m hm
    rw [hfiles m, if_neg (Nat.ne_of_lt hm)]
  have hactive : entriesIn files' acc.newActive = entriesIn files acc.newActive :=
    entriesIn_congr fun m hm => hbefore m (h.active m hm)
  have hnew : entriesOf files' acc.nextNumber = retainedEntries cutoff (entriesOf base number) := by
    refine entriesOf_frames ?_ hstored
    rw [hfiles, if_pos rfl]
  have hkept := Kept.retained cutoff number acc.nextNumber (entriesOf base number)
  have hrecords := hkept.records
  have htombstones := hkept.tombstones
  rw [Layout.entries_cons, Layout.entries_nil, List.append_nil, Layout.entries_cons,
    Layout.entries_nil, List.append_nil] at hrecords htombstones
  exact
    { old := fun m hm => (hbefore m (Nat.lt_of_lt_of_le hm hle)).trans (h.old m hm)
      start_le := Nat.le_succ_of_le hle
      filled := by
        intro m hm
        rw [hfiles m]
        split
        · rename_i heq
          simp only [ne_eq, reduceCtorEq, not_false_eq_true, true_iff]
          omega
        · rename_i hne
          rw [h.filled m hm]
          change m < acc.nextNumber ↔ m < acc.nextNumber + 1
          omega
      active := by
        intro m hm
        rcases List.mem_append.1 hm with hm | hm
        · exact Nat.lt_succ_of_lt (h.active m hm)
        · rw [List.mem_singleton.1 hm]
          exact Nat.lt_succ_self _
      fresh := by
        intro m hle hlt
        rcases Nat.lt_succ_iff_lt_or_eq.1 hlt with hlt | heq
        · exact List.mem_append_left _ (h.fresh m hle hlt)
        · exact List.mem_append_right _ (List.mem_singleton.2 heq)
      live := by
        rw [entriesIn_append, entriesIn_append, entriesIn_singleton, entriesIn_singleton, hactive, hnew,
          recordsOf_append, recordsOf_append, h.live, hrecords, liveRecords, liveRecords,
          List.filter_append]
      tombstones := by
        rw [entriesIn_append, entriesIn_append, entriesIn_singleton, entriesIn_singleton, hactive, hnew,
          tombstonesOf_append, tombstonesOf_append, h.tombstones, htombstones]
      expired := h.expired_append
      originals := h.originals_append hexpired
      replacements := by
        intro summary
        have hsame : ∀ m, m < acc.nextNumber → summaryIn files' m = summaryIn files m := by
          intro m hm
          rw [summaryIn, summaryIn, hbefore m hm]
        rw [List.mem_append, h.replacements, List.mem_singleton]
        constructor
        · rintro (⟨m, hm, hlt, rfl⟩ | rfl)
          · exact ⟨m, hm, Nat.lt_succ_of_lt hlt, (hsame m hlt).symm⟩
          · exact ⟨acc.nextNumber, hle, Nat.lt_succ_self _, rfl⟩
        · rintro ⟨m, hm, hlt, rfl⟩
          rcases Nat.lt_succ_iff_lt_or_eq.1 hlt with hlt | rfl
          · exact .inl ⟨m, hm, hlt, hsame m hlt⟩
          · exact .inr rfl }

/-- **One segment** of a compaction that succeeds. -/
theorem compactSegment (h : Sifted base cutoff start dir.segments numbers acc) (hlt : number < start)
    (hlimit : limit ≤ maxSegmentBytes)
    (hrun : (AuditStore.compactSegment limit cutoff number acc).exec dir = (.ok acc', dir')) :
    Sifted base cutoff start dir'.segments (numbers ++ [number]) acc' := by
  rw [AuditStore.compactSegment] at hrun
  obtain ⟨⟨entries, result⟩, dir₁, hread, hrun⟩ := exec_bind_inv hrun
  obtain ⟨hsame, hreads⟩ := exec_readSegment_inv hread
  obtain ⟨recovered, hresult, hrun⟩ := exec_orThrow_inv hrun
  have hentries : entriesOf base number = entries :=
    (h.entriesOf_eq hlt).symm.trans (hreads recovered hresult).entriesOf_eq
  rw [exec_ite] at hrun
  split at hrun
  · rename_i hnone
    cases hrun
    rw [hsame]
    refine h.keep hlt ?_
    rintro ⟨record, hrecord, hold⟩
    rw [hentries] at hrecord
    exact List.filter_eq_nil_iff.1 hnone record hrecord (decide_eq_true hold)
  · rename_i hsome
    obtain ⟨bytes, dir₂, hfile, hrun⟩ := exec_bind_inv hrun
    obtain ⟨hbytes, hsame₂⟩ := exec_readFile_inv hfile
    have hexpired : HasExpired base cutoff number := by
      by_contra hlive
      refine hsome (List.filter_eq_nil_iff.2 ?_)
      intro record hrecord hold
      rw [← hentries] at hrecord
      exact hlive ⟨record, hrecord, of_decide_eq_true hold⟩
    have hsummary : segmentSummary number bytes = summaryIn base number := by
      rw [hsame, h.old number hlt] at hbytes
      rw [summaryIn, hbytes]
      rfl
    rw [exec_ite] at hrun
    split at hrun
    · rename_i hretained
      cases hrun
      rw [hsame₂, hsame, hsummary, ← hentries]
      rw [← hentries] at hretained
      exact h.drop hexpired hretained
    · obtain ⟨⟨⟩, dir₃, hcreate, hrun⟩ := exec_bind_inv hrun
      obtain ⟨⟨⟩, dir₄, happend, hrun⟩ := exec_bind_inv hrun
      obtain ⟨bytes', dir₅, hfile', hrun⟩ := exec_bind_inv hrun
      obtain ⟨-, hcreated⟩ := exec_createSegment_inv hcreate
      have hempty : dir₃.segments.lookup acc.nextNumber = some [] := by
        rw [hcreated, Map.lookup_insert_self]
      obtain ⟨hstored, hfiles⟩ := exec_appendEntries_inv hempty hlimit happend
      obtain ⟨hbytes', hsame₅⟩ := exec_readFile_inv hfile'
      have hlookup : ∀ m, dir₅.segments.lookup m = if m = acc.nextNumber then
          some (framesOf (retainedEntries cutoff (entriesOf base number))) else dir.segments.lookup m := by
        intro m
        rw [hsame₅, hfiles m, hentries]
        split
        · rfl
        · rename_i hne
          rw [hcreated, Map.lookup_insert_ne hne, hsame₂, hsame]
      have hsummary' : segmentSummary acc.nextNumber bytes' = summaryIn dir₅.segments acc.nextNumber := by
        rw [summaryIn, hsame₅, hbytes']
        rfl
      rw [← hentries] at hstored
      have hnext := h.replace hexpired hstored hlookup
      rw [← hsummary', ← hsummary, hentries] at hnext
      cases hrun
      exact hnext

end Sifted

/-- **All segments** of a compaction that succeeds. -/
theorem Sifted.compactSegments {base : Files} {cutoff start limit : ℕ} {numbers : List ℕ}
    {acc acc' : Compaction} (rest : List ℕ) (h : Sifted base cutoff start dir.segments numbers acc)
    (hlt : ∀ number ∈ rest, number < start) (hlimit : limit ≤ maxSegmentBytes)
    (hrun : (AuditStore.compactSegments limit cutoff rest acc).exec dir = (.ok acc', dir')) :
    Sifted base cutoff start dir'.segments (numbers ++ rest) acc' := by
  induction rest generalizing dir numbers acc with
  | nil =>
    rw [AuditStore.compactSegments, exec_pure] at hrun
    cases hrun
    rw [List.append_nil]
    exact h
  | cons number rest ih =>
    rw [AuditStore.compactSegments] at hrun
    obtain ⟨_, _, hone, hrest⟩ := exec_bind_inv hrun
    have hstep := h.compactSegment (hlt number List.mem_cons_self) hlimit hone
    rw [List.append_cons]
    exact ih hstep (List.forall_mem_cons.1 hlt).2 hrest

end Dashboard
