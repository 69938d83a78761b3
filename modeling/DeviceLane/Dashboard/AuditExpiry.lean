/-
**What retention removes.**

Whatever is in the memory and in the directory of an audit store, a retention that succeeds has read
every active segment to its end, so what it leaves can be told from the directory it started with. It
removes exactly the records past their age when the active segments hold what the store has in memory.

Main definitions:

* `Dashboard.Listed` — the active segments are there.

Main results:

* `Dashboard.AuditStore.retains_iff` — **retention is exact if and only if the segments agree**.
-/

import DeviceLane.Dashboard.AuditSegments
import Mathlib.Order.Bounds.Basic

namespace Dashboard

open Effect AuditStore

variable [Sha256]

variable {s s' : AuditState}

/-! ### A retention that succeeds -/

section

omit [Sha256]

theorem exec_onDir_inv {α : Type} {m : Eff AuditDir AuditError α} {a : α}
    (h : (onDir m).exec s = (.ok a, s')) :
    ∃ dir, m.exec s.dir = (.ok a, dir) ∧ s' = { s with dir } := exec_onPart_inv h

theorem exec_onDir_bind_inv {α β : Type} {m : Eff AuditDir AuditError α}
    {f : α → Eff AuditState AuditError β} {b : β} (h : (onDir m >>= f).exec s = (.ok b, s')) :
    ∃ a dir, m.exec s.dir = (.ok a, dir) ∧ (f a).exec { s with dir } = (.ok b, s') := by
  obtain ⟨a, _, hm, hrest⟩ := exec_bind_inv h
  obtain ⟨dir, hdir, rfl⟩ := exec_onDir_inv hm
  exact ⟨a, dir, hdir, hrest⟩

theorem exec_writeIndex_inv (h : writeIndex.exec s = (.ok (), s')) :
    s'.store = s.store ∧ s'.dir.segments = s.dir.segments := by
  rw [writeIndex, exec_bind_ok (exec_get s)] at h
  obtain ⟨_, hwrite, rfl⟩ := exec_onDir_inv h
  exact ⟨rfl, exec_replaceIndexFile_inv hwrite⟩

theorem exec_rotate_inv (h : rotate.exec s = (.ok (), s')) :
    s.dir.segments.lookup (s.store.current + 1) = none ∧
    s'.dir.segments = s.dir.segments.insert (s.store.current + 1) [] ∧
    s'.store =
      { s.store with
        current := s.store.current + 1
        currentDay := none
        activeSegments := s.store.activeSegments ++ [s.store.current + 1] } := by
  rw [rotate, exec_bind_ok (exec_get s)] at h
  obtain ⟨⟨⟩, _, hcreate, h⟩ := exec_onDir_bind_inv h
  obtain ⟨⟨⟩, _, hsync, h⟩ := exec_onDir_bind_inv h
  rw [exec_bind_ok (exec_update _ _)] at h
  obtain ⟨hnone, hcreated⟩ := exec_createSegment_inv hcreate
  obtain ⟨hstore, hindex⟩ := exec_writeIndex_inv h
  refine ⟨hnone, ?_, hstore⟩
  rw [hindex]
  exact (exec_syncDirectory_inv hsync).trans hcreated

end

theorem exec_writeTombstone_inv {s s' : AuditState} {summary : RetentionTombstoneSummary} {number : ℕ}
    (h : (writeTombstone summary number).exec s = (.ok (), s')) :
    Stored (.retentionTombstone summary) ∧
    s'.store = { s.store with tombstones := s.store.tombstones ++ [summary] } ∧
    ∀ m, s'.dir.segments.lookup m = if m = number then
      some (framesOf [.retentionTombstone summary]) else s.dir.segments.lookup m := by
  rw [writeTombstone, exec_bind_ok (exec_get s)] at h
  obtain ⟨payload, hpayload, h⟩ := exec_orThrow_inv h
  obtain ⟨length, hlength, h⟩ := exec_orThrow_inv h
  obtain ⟨hfits, h⟩ := exec_throwIf_inv h
  obtain ⟨⟨⟩, dir₁, hcreate, h⟩ := exec_onDir_bind_inv h
  obtain ⟨⟨⟩, dir₂, happend, h⟩ := exec_onDir_bind_inv h
  rw [exec_bind_ok (exec_update _ _)] at h
  obtain ⟨⟨entries, result⟩, dir₃, hread, h⟩ := exec_onDir_bind_inv h
  obtain ⟨recovered, -, hlast⟩ := exec_orThrow_inv h
  rw [exec_throwIf] at hlast
  obtain ⟨hvalid, rfl⟩ := valid_of_toVec hpayload
  obtain ⟨-, rfl⟩ := frameLen_eq_ok_iff.1 hlength
  obtain ⟨-, hcreated⟩ := exec_createSegment_inv hcreate
  obtain ⟨bytes, hbytes, hwritten⟩ := exec_appendFrame_inv happend
  obtain ⟨hsame, -⟩ := exec_readSegment_inv hread
  dsimp only at hbytes hwritten
  rw [hcreated, Map.lookup_insert_self] at hbytes
  cases hbytes
  have hs' := congrArg Prod.snd hlast
  dsimp only at hs'
  refine ⟨⟨hvalid, by omega⟩, ?_, ?_⟩
  · rw [← hs']
  · intro m
    rw [← hs', framesOf_singleton]
    dsimp only at hsame ⊢
    rw [hsame, hwritten, hcreated]
    split
    · rename_i heq
      rw [heq, Map.lookup_insert_self]
      rfl
    · rename_i hne
      rw [Map.lookup_insert_ne hne, Map.lookup_insert_ne hne]

theorem exec_removeOriginals_inv {base : Files} {numbers : List ℕ} {dir dir' : AuditDir}
    (h : (removeOriginals (numbers.map (summaryIn base))).exec dir = (.ok (), dir')) :
    ∀ m, dir'.segments.lookup m = if m ∈ numbers then none else dir.segments.lookup m := by
  induction numbers generalizing dir with
  | nil =>
    rw [List.map_nil, removeOriginals, exec_pure] at h
    cases h
    intro m
    rw [if_neg List.not_mem_nil]
  | cons number numbers ih =>
    have hid : segmentNumberFromId (summaryIn base number).id = some number :=
      segmentNumberFromId_segmentId number
    rw [List.map_cons, removeOriginals, hid, exec_okOr_some_bind] at h
    obtain ⟨⟨⟩, _, hremove, hrest⟩ := exec_bind_inv h
    have herased := exec_removeFile_inv hremove
    intro m
    rw [ih hrest m, herased, Map.lookup_erase]
    by_cases hmem : m ∈ numbers
    · rw [if_pos hmem, if_pos (List.mem_cons_of_mem _ hmem)]
    · rw [if_neg hmem]
      by_cases heq : m = number
      · rw [if_pos heq, if_pos (List.mem_cons.2 (.inl heq))]
      · rw [if_neg heq, if_neg]
        exact fun hcons => (List.mem_cons.1 hcons).elim heq hmem

theorem exec_reload_inv {numbers : List ℕ} (h : (reload numbers).exec s = (.ok (), s')) :
    s'.dir.segments = s.dir.segments ∧
    (∀ number ∈ numbers, s.dir.segments.lookup number ≠ none) ∧
    s'.store =
      { s.store with
        records := s.store.records ++ recordsOf (entriesIn s.dir.segments numbers)
        tombstones := s.store.tombstones ++ tombstonesOf (entriesIn s.dir.segments numbers) } := by
  induction numbers generalizing s with
  | nil =>
    rw [reload, exec_pure] at h
    cases h
    refine ⟨rfl, List.forall_mem_nil _, ?_⟩
    simp [entriesIn, recordsOf, tombstonesOf]
  | cons number numbers ih =>
    rw [reload] at h
    obtain ⟨⟨entries, _⟩, _, hread, h⟩ := exec_onDir_bind_inv h
    rw [exec_bind_ok (exec_update _ _)] at h
    obtain ⟨recovered, hresult, hrest⟩ := exec_orThrow_inv h
    obtain ⟨hsame, hreads⟩ := exec_readSegment_inv hread
    have hreads := hreads recovered hresult
    obtain ⟨hdir, hthere, hstore⟩ := ih hrest
    dsimp only at hdir hthere hstore
    rw [hsame] at hdir hthere hstore
    refine ⟨hdir, ?_, ?_⟩
    · intro m hm
      rcases List.mem_cons.1 hm with rfl | hm
      · obtain ⟨_, hbytes, -⟩ := hreads
        rw [hbytes]
        exact Option.some_ne_none _
      · exact hthere m hm
    · rw [hstore]
      have hentries : entriesIn s.dir.segments (number :: numbers)
          = entries ++ entriesIn s.dir.segments numbers := by
        rw [← hreads.entriesOf_eq]
        exact List.flatMap_cons
      rw [hentries, recordsOf_append, tombstonesOf_append, List.append_assoc, List.append_assoc]

structure Sealed (s s' : AuditState) (cutoff : ℕ) (acc : Compaction) (files : Files) : Prop where
  sifted : Sifted s.dir.segments cutoff (lastNumber s.dir + 1) files
    (s.store.activeSegments.filter fun number => number ≠ s.store.current) acc
  stored : Stored (.retentionTombstone (summaryOf acc))
  segments : ∀ m, s'.dir.segments.lookup m =
    if m ∈ (s.store.activeSegments.filter fun number => number ≠ s.store.current).filter
        (HasExpired s.dir.segments cutoff) then
      none
    else if m = acc.nextNumber then
      some (framesOf [.retentionTombstone (summaryOf acc)])
    else files.lookup m
  there : ∀ m ∈ acc.newActive ++ [acc.nextNumber, s.store.current], s'.dir.segments.lookup m ≠ none
  store : s'.store =
    { s.store with
      currentDay := none
      activeSegments := acc.newActive ++ [acc.nextNumber, s.store.current]
      records :=
        recordsOf (entriesIn s'.dir.segments (acc.newActive ++ [acc.nextNumber, s.store.current]))
      tombstones :=
        tombstonesOf (entriesIn s'.dir.segments (acc.newActive ++ [acc.nextNumber, s.store.current])) }

/-- What opening a store checks, and every call keeps: the active segments are there, and the limit is
one. -/
structure Listed (s : AuditState) : Prop where
  there : ∀ number ∈ s.store.activeSegments, s.dir.segments.lookup number ≠ none
  limit : s.store.maxSegmentBytes ≤ maxSegmentBytes

/-- **Going through the sealed segments**, if it succeeds. -/
theorem sealed_of_ok {cutoff : ℕ} (hlisted : Listed s)
    (h : (compactSealed cutoff .none).exec s = (.ok (), s')) :
    ∃ acc files, Sealed s s' cutoff acc files := by
  rw [compactSealed, exec_bind_ok (exec_get s)] at h
  obtain ⟨_, dir₁, hnumbers, h⟩ := exec_onDir_bind_inv h
  obtain ⟨acc, dir₂, hcompact, h⟩ := exec_onDir_bind_inv h
  obtain ⟨⟨⟩, ⟨_, dir₃⟩, htombstone, h⟩ := exec_bind_inv h
  obtain ⟨⟨⟩, _, hsync, h⟩ := exec_onDir_bind_inv h
  obtain ⟨-, h⟩ := exec_throwIf_inv h
  rw [exec_bind_ok (exec_update _ _)] at h
  obtain ⟨⟨⟩, ⟨_, dir₅⟩, hindex, h⟩ := exec_bind_inv h
  obtain ⟨-, h⟩ := exec_throwIf_inv h
  obtain ⟨⟨⟩, dir₆, hremove, h⟩ := exec_onDir_bind_inv h
  obtain ⟨⟨⟩, _, hsync', h⟩ := exec_onDir_bind_inv h
  rw [exec_bind_ok (exec_update _ _), exec_bind_ok (exec_get _)] at h
  obtain ⟨hfresh, hsame₁⟩ := exec_segmentNumbers_inv hnumbers
  obtain ⟨hstored, hstore₃, hwritten⟩ := @exec_writeTombstone_inv _ ⟨s.store, dir₂⟩ _ _ _ htombstone
  obtain ⟨hstore₅, hsame₅⟩ := exec_writeIndex_inv hindex
  obtain ⟨hsame', hthere, hstore⟩ := exec_reload_inv h
  dsimp only at hwritten hstore₃ hstore₅ hsame₅ hsame' hthere hstore hremove
  have hstart : ∀ m, lastNumber s.dir + 1 ≤ m → s.dir.segments.lookup m = none := by
    intro m hm
    by_contra hsome
    exact absurd (le_lastNumber hsome) (Nat.not_le.2 hm)
  have hlt : ∀ m ∈ s.store.activeSegments.filter (fun number => number ≠ s.store.current),
      m < lastNumber s.dir + 1 := by
    intro m hm
    exact Nat.lt_succ_of_le (le_lastNumber (hlisted.there m (List.mem_of_mem_filter hm)))
  rw [hfresh] at hcompact
  have hinit : Sifted s.dir.segments cutoff (lastNumber s.dir + 1) dir₁.segments []
      ⟨lastNumber s.dir + 1, [], [], [], []⟩ := by
    rw [hsame₁]
    exact .init hstart
  have hsifted := hinit.compactSegments _ hlt hlisted.limit hcompact
  rw [List.nil_append] at hsifted
  rw [hsifted.originals] at hremove
  have hremoved := exec_removeOriginals_inv hremove
  have hdir : s'.dir.segments = dir₆.segments := hsame'.trans (exec_syncDirectory_inv hsync')
  have hsegments : dir₅.segments = dir₃.segments := hsame₅.trans (exec_syncDirectory_inv hsync)
  refine ⟨acc, dir₂.segments, hsifted, hstored, ?_, ?_, ?_⟩
  · intro m
    rw [hdir, hremoved m, hsegments, hwritten m]
  · intro m hm
    rw [hsame']
    refine hthere m ?_
    rw [hstore₅]
    exact hm
  · rw [hstore, hsame', hstore₅, hstore₃]
    rfl

/-! ### What retention is to do -/

omit [Sha256] in
theorem isLeast_minimum {times : List ℕ} (h : times ≠ []) : IsLeast {t | t ∈ times} (minimum times) := by
  cases hmin : times.min? with
  | none => exact absurd (List.min?_eq_none_iff.1 hmin) h
  | some =>
    rw [minimum, hmin]
    exact List.min?_eq_some_iff.1 hmin

omit [Sha256] in
theorem isGreatest_maximum {times : List ℕ} (h : times ≠ []) :
    IsGreatest {t | t ∈ times} (maximum times) := by
  cases hmax : times.max? with
  | none => exact absurd (List.max?_eq_none_iff.1 hmax) h
  | some =>
    rw [maximum, hmax]
    exact List.max?_eq_some_iff.1 hmax

def timesOf (records : List AuditRecord) : List ℕ := records.map (·.occurredAtMs)

/-- A tombstone tells the number of records that were removed, and their first and last times. -/
structure Describes (summary : RetentionTombstoneSummary) (removed : List AuditRecord) : Prop where
  count : summary.deletedRecordCount = removed.length
  first : IsLeast {time | time ∈ timesOf removed} summary.firstOccurredAtMs
  last : IsGreatest {time | time ∈ timesOf removed} summary.lastOccurredAtMs

/-- A tombstone, which is in a new segment, names the segments that are gone, and the other new ones but
the current one, each with the digest of what it held. -/
structure Names (s s' : AuditState) (summary : RetentionTombstoneSummary) (number : ℕ) : Prop where
  new : s.dir.segments.lookup number = none
  tombstone : s'.dir.segments.lookup number = some (framesOf [.retentionTombstone summary])
  deleted : ∀ named, named ∈ summary.segments ↔
    ∃ m bytes, s.dir.segments.lookup m = some bytes ∧ s'.dir.segments.lookup m = none ∧
      named = segmentSummary m bytes
  replacements : ∀ named, named ∈ summary.replacementSegments ↔
    ∃ m bytes, m ≠ number ∧ m ≠ s'.store.current ∧ s.dir.segments.lookup m = none ∧
      s'.dir.segments.lookup m = some bytes ∧ named = segmentSummary m bytes

/-- **What retention is to do**: the records past their age are gone and the others are where they were,
the tombstones are kept, and there is a new one exactly if records have been removed. -/
structure Retains (s s' : AuditState) (nowMs : ℕ) : Prop where
  records : s'.store.records = liveRecords (s.store.retentionCutoff nowMs) s.store.records
  kept : expiredRecords (s.store.retentionCutoff nowMs) s.store.records = [] →
    s'.store.tombstones = s.store.tombstones
  added : expiredRecords (s.store.retentionCutoff nowMs) s.store.records ≠ [] →
    ∃ summary number, s'.store.tombstones = s.store.tombstones ++ [summary] ∧
      Describes summary (expiredRecords (s.store.retentionCutoff nowMs) s.store.records) ∧
      Names s s' summary number

def onDisk (s : AuditState) : List StoredEntry := entriesIn s.dir.segments s.store.activeSegments

/-- **The active segments hold what is in memory**, as far as a tombstone tells. -/
structure Agrees (s : AuditState) (cutoff : ℕ) : Prop where
  live : liveRecords cutoff (recordsOf (onDisk s)) = liveRecords cutoff s.store.records
  count : (expiredRecords cutoff (recordsOf (onDisk s))).length
    = (expiredRecords cutoff s.store.records).length
  first : minimum (timesOf (expiredRecords cutoff (recordsOf (onDisk s))))
    = minimum (timesOf (expiredRecords cutoff s.store.records))
  last : maximum (timesOf (expiredRecords cutoff (recordsOf (onDisk s))))
    = maximum (timesOf (expiredRecords cutoff s.store.records))
  tombstones : tombstonesOf (onDisk s) = s.store.tombstones

omit [Sha256] in
theorem expires_iff_ne_nil {store : AuditStore} {nowMs : ℕ} :
    store.Expires nowMs ↔ expiredRecords (store.retentionCutoff nowMs) store.records ≠ [] := by
  rw [Expires, expiredRecords, ne_eq, List.filter_eq_nil_iff]
  simp

/-- What a retention leaves that has found a record past its age, and has succeeded. -/
structure Retired (s s' : AuditState) (cutoff : ℕ) : Prop where
  records : s'.store.records = liveRecords cutoff (recordsOf (onDisk s))
  tombstone : ∃ acc number, acc.deletedRecords = expiredRecords cutoff (recordsOf (onDisk s)) ∧
    s'.store.tombstones = tombstonesOf (onDisk s) ++ [summaryOf acc] ∧ Names s s' (summaryOf acc) number

namespace AuditStore

variable {s s₁ s' : AuditState} {cutoff nowMs : ℕ}

omit [Sha256] in
theorem current_notMem_active (hlisted : Listed s)
    (hnone : s.dir.segments.lookup (s.store.current + 1) = none) :
    ∀ m ∈ s.store.activeSegments, m ≠ s.store.current + 1 := by
  rintro m hm rfl
  exact hlisted.there _ hm hnone

theorem listed_of_rotate (hlisted : Listed s) (hrotate : rotate.exec s = (.ok (), s₁)) :
    Listed s₁ ∧
    (s₁.store.activeSegments.filter fun number => number ≠ s₁.store.current)
      = s.store.activeSegments ∧
    entriesIn s₁.dir.segments s.store.activeSegments = onDisk s := by
  obtain ⟨hnone, hfiles, hstore⟩ := exec_rotate_inv hrotate
  have hne := current_notMem_active hlisted hnone
  refine ⟨⟨?_, ?_⟩, ?_, ?_⟩
  · intro m hm
    rw [hstore] at hm
    rw [hfiles]
    rcases List.mem_append.1 hm with hm | hm
    · rw [Map.lookup_insert_ne (hne m hm)]
      exact hlisted.there m hm
    · rw [List.mem_singleton.1 hm, Map.lookup_insert_self]
      exact Option.some_ne_none _
  · rw [hstore]
    exact hlisted.limit
  · rw [hstore]
    change List.filter _ (s.store.activeSegments ++ [s.store.current + 1]) = _
    rw [List.filter_append, List.filter_eq_self.2, List.filter_eq_nil_iff.2, List.append_nil]
    · intro m hm
      rw [List.mem_singleton.1 hm]
      simp
    · intro m hm
      exact decide_eq_true (hne m hm)
  · refine entriesIn_congr ?_
    intro m hm
    rw [hfiles, Map.lookup_insert_ne (hne m hm)]

theorem names_of_sealed {acc : Compaction} {files : Files} (hlisted : Listed s)
    (hrotate : rotate.exec s = (.ok (), s₁)) (hsealed : Sealed s₁ s' cutoff acc files) :
    Names s s' (summaryOf acc) acc.nextNumber := by
  obtain ⟨hnone, hfiles, hstore⟩ := exec_rotate_inv hrotate
  obtain ⟨-, hcandidates, -⟩ := listed_of_rotate hlisted hrotate
  have hsifted := hsealed.sifted
  have hsegments := hsealed.segments
  rw [hcandidates] at hsifted hsegments
  have hcurrent : s₁.store.current = s.store.current + 1 := by rw [hstore]
  have hcurrent' : s'.store.current = s₁.store.current := by rw [hsealed.store]
  have hstart := hsifted.start_le
  have hbelow : ∀ m, s₁.dir.segments.lookup m ≠ none → m < lastNumber s₁.dir + 1 :=
    fun m hm => Nat.lt_succ_of_le (le_lastNumber hm)
  have hcurrent_lt : s₁.store.current < lastNumber s₁.dir + 1 := by
    refine hbelow _ ?_
    rw [hfiles, hcurrent, Map.lookup_insert_self]
    exact Option.some_ne_none _
  have hold : ∀ m bytes, s.dir.segments.lookup m = some bytes →
      s₁.dir.segments.lookup m = some bytes ∧ m < lastNumber s₁.dir + 1 := by
    intro m bytes hm
    have hne : m ≠ s.store.current + 1 := by
      rintro rfl
      rw [hnone] at hm
      cases hm
    have hsame : s₁.dir.segments.lookup m = some bytes := by
      rw [hfiles, Map.lookup_insert_ne hne, hm]
    exact ⟨hsame, hbelow m (hsame ▸ Option.some_ne_none _)⟩
  have hfresh : ∀ m, lastNumber s₁.dir + 1 ≤ m → s.dir.segments.lookup m = none := by
    intro m hm
    cases hsome : s.dir.segments.lookup m with
    | none => rfl
    | some bytes => exact absurd (hold m bytes hsome).2 (Nat.not_lt.2 hm)
  have hactive : ∀ m ∈ s.store.activeSegments, m < lastNumber s₁.dir + 1 := by
    intro m hm
    obtain ⟨bytes, hbytes⟩ := Option.ne_none_iff_exists'.1 (hlisted.there m hm)
    exact (hold m bytes hbytes).2
  refine ⟨hfresh _ hstart, ?_, ?_, ?_⟩
  · rw [hsegments, if_neg, if_pos rfl]
    intro hmem
    exact absurd (hactive _ (List.mem_of_mem_filter hmem)) (Nat.not_lt.2 hstart)
  · intro named
    change named ∈ acc.replacedOriginals ↔ _
    rw [hsifted.originals, List.mem_map]
    constructor
    · rintro ⟨m, hm, rfl⟩
      obtain ⟨bytes, hbytes⟩ :=
        Option.ne_none_iff_exists'.1 (hlisted.there m (List.mem_of_mem_filter hm))
      refine ⟨m, bytes, hbytes, ?_, ?_⟩
      · rw [hsegments, if_pos hm]
      · rw [summaryIn, (hold m bytes hbytes).1]
        rfl
    · rintro ⟨m, bytes, hbytes, hgone, rfl⟩
      obtain ⟨hbytes₁, hlt⟩ := hold m bytes hbytes
      refine ⟨m, ?_, ?_⟩
      · by_contra hmem
        rw [hsegments, if_neg hmem, if_neg (by omega), hsifted.old m hlt, hbytes₁] at hgone
        cases hgone
      · rw [summaryIn, hbytes₁]
        rfl
  · intro named
    change named ∈ acc.replacements ↔ _
    rw [hsifted.replacements]
    constructor
    · rintro ⟨m, hle, hlt, rfl⟩
      obtain ⟨bytes, hbytes⟩ := Option.ne_none_iff_exists'.1 ((hsifted.filled m hle).2 hlt)
      refine ⟨m, bytes, Nat.ne_of_lt hlt, by omega, hfresh m hle, ?_, ?_⟩
      · rw [hsegments, if_neg, if_neg (Nat.ne_of_lt hlt), hbytes]
        intro hmem
        exact absurd (hactive m (List.mem_of_mem_filter hmem)) (Nat.not_lt.2 hle)
      · rw [summaryIn, hbytes]
        rfl
    · rintro ⟨m, bytes, hne, _, hnew, hthere, rfl⟩
      have hfile : files.lookup m = some bytes := by
        rw [hsegments m, if_neg hne] at hthere
        split at hthere
        · cases hthere
        · exact hthere
      have hle : lastNumber s₁.dir + 1 ≤ m := by
        by_contra hlt
        rw [hsifted.old m (Nat.not_le.1 hlt), hfiles, Map.lookup_insert_ne (by omega), hnew] at hfile
        cases hfile
      refine ⟨m, hle, (hsifted.filled m hle).1 (hfile ▸ Option.some_ne_none _), ?_⟩
      rw [summaryIn, hfile]
      rfl

/-- **A retention that succeeds**, when there was a record past its age. -/
theorem retired_of_ok (hlisted : Listed s) (hrotate : rotate.exec s = (.ok (), s₁))
    (h : (compactSealed cutoff .none).exec s₁ = (.ok (), s')) : Retired s s' cutoff := by
  obtain ⟨hnone, hfiles, hstore⟩ := exec_rotate_inv hrotate
  obtain ⟨hlisted₁, hcandidates, hdisk⟩ := listed_of_rotate hlisted hrotate
  obtain ⟨acc, files, hsealed⟩ := sealed_of_ok hlisted₁ h
  have hsifted := hsealed.sifted
  have hsegments := hsealed.segments
  rw [hcandidates] at hsifted hsegments
  have hcurrent : s₁.store.current = s.store.current + 1 := by rw [hstore]
  have hempty : s₁.dir.segments.lookup s₁.store.current = some [] := by
    rw [hfiles, hcurrent, Map.lookup_insert_self]
  have hlt : s₁.store.current < lastNumber s₁.dir + 1 := by
    refine Nat.lt_succ_of_le (le_lastNumber ?_)
    rw [hempty]
    exact Option.some_ne_none _
  have hstart := hsifted.start_le
  -- a segment that is still there has not been removed
  have hkept : ∀ m, s'.dir.segments.lookup m ≠ none → s'.dir.segments.lookup m =
      if m = acc.nextNumber then some (framesOf [.retentionTombstone (summaryOf acc)])
      else files.lookup m := by
    intro m hm
    rw [hsegments m] at hm ⊢
    split
    · rename_i hremoved
      rw [if_pos hremoved] at hm
      exact absurd rfl hm
    · rfl
  have hactive : entriesIn s'.dir.segments acc.newActive = entriesIn files acc.newActive := by
    refine entriesIn_congr ?_
    intro m hm
    rw [hkept m (hsealed.there m (List.mem_append_left _ hm)),
      if_neg (Nat.ne_of_lt (hsifted.active m hm))]
  have hnext : s'.dir.segments.lookup acc.nextNumber
      = some (framesOf [.retentionTombstone (summaryOf acc)]) := by
    rw [hkept _ (hsealed.there _ (List.mem_append_right _ List.mem_cons_self)), if_pos rfl]
  have htombstone : entriesOf s'.dir.segments acc.nextNumber = [.retentionTombstone (summaryOf acc)] := by
    refine entriesOf_frames hnext ?_
    intro entry hentry
    rw [List.mem_singleton.1 hentry]
    exact hsealed.stored
  have hlast : entriesOf s'.dir.segments s₁.store.current = [] := by
    have hthere := hsealed.there s₁.store.current
      (List.mem_append_right _ (List.mem_cons_of_mem _ List.mem_cons_self))
    rw [entriesOf, hkept _ hthere, if_neg (by omega), hsifted.old _ hlt, hempty, Option.getD_some,
      Frames.scan_nil]
  have hentries : entriesIn s'.dir.segments (acc.newActive ++ [acc.nextNumber, s₁.store.current])
      = entriesIn files acc.newActive ++ [.retentionTombstone (summaryOf acc)] := by
    rw [List.append_cons, entriesIn_append, entriesIn_append, entriesIn_singleton,
      entriesIn_singleton, hactive, htombstone, hlast, List.append_nil]
  have hs' := hsealed.store
  rw [hentries] at hs'
  refine ⟨?_, acc, acc.nextNumber, ?_, ?_, ?_⟩
  · have hrecords := congrArg AuditStore.records hs'
    dsimp only at hrecords
    rw [hrecords, recordsOf_append, hsifted.live, hdisk]
    exact List.append_nil _
  · rw [hsifted.expired, hdisk]
  · have htombstones := congrArg AuditStore.tombstones hs'
    dsimp only at htombstones
    rw [htombstones, tombstonesOf_append, hsifted.tombstones, hdisk]
    rfl
  · exact names_of_sealed hlisted hrotate hsealed

theorem exec_enforceRetention_inv (h : (enforceRetention nowMs).exec s = (.ok (), s')) :
    (¬s.store.Expires nowMs ∧ s' = s) ∨
    (s.store.Expires nowMs ∧ ∃ s₁, rotate.exec s = (.ok (), s₁) ∧
      (compactSealed (s.store.retentionCutoff nowMs) .none).exec s₁ = (.ok (), s')) := by
  by_cases hexpires : s.store.Expires nowMs
  · right
    refine ⟨hexpires, ?_⟩
    rw [enforceRetention, orUnavailable] at h
    obtain ⟨result, _, hattempt, h⟩ := exec_bind_inv h
    cases result with
    | error => cases h
    | ok =>
      cases h
      have hrun : (compactRetention nowMs .none).exec s = (.ok (), s') := by
        have hfst := congrArg Prod.fst hattempt
        have hsnd := congrArg Prod.snd hattempt
        exact Prod.ext (Except.ok.inj hfst) hsnd
      rw [compactRetention, exec_bind_ok (exec_get s), exec_onlyIf_of hexpires] at hrun
      obtain ⟨⟨⟩, s₁, hrotate, hsealed⟩ := exec_bind_inv hrun
      exact ⟨s₁, hrotate, hsealed⟩
  · left
    rw [exec_enforceRetention_of_not hexpires] at h
    cases h
    exact ⟨hexpires, rfl⟩

theorem retains_of_not_expires (h : ¬s.store.Expires nowMs) : Retains s s nowMs where
  records := by
    refine (List.filter_eq_self.2 ?_).symm
    intro record hrecord
    exact decide_eq_true (Nat.not_lt.1 fun hold => h ⟨record, hrecord, hold⟩)
  kept := fun _ => rfl
  added := fun hne => absurd (expires_iff_ne_nil.2 hne) h

/-- **Retention is exact if and only if** no record is past its age, or the active segments hold what is
in memory. -/
theorem retains_iff (hlisted : Listed s) (h : (enforceRetention nowMs).exec s = (.ok (), s')) :
    Retains s s' nowMs ↔
      ¬s.store.Expires nowMs ∨ Agrees s (s.store.retentionCutoff nowMs) := by
  rcases exec_enforceRetention_inv h with ⟨hidle, rfl⟩ | ⟨hexpires, s₁, hrotate, hsealed⟩
  · exact ⟨fun _ => .inl hidle, fun _ => retains_of_not_expires hidle⟩
  have hretired := retired_of_ok hlisted hrotate hsealed
  obtain ⟨acc, number, hdeleted, htombstones, hnames⟩ := hretired.tombstone
  have hne := expires_iff_ne_nil.1 hexpires
  constructor
  · intro hretains
    right
    obtain ⟨summary, number', hadded, hdescribes, -⟩ := hretains.added hne
    obtain ⟨hsame, hsummary⟩ := List.append_inj' (htombstones.symm.trans hadded) rfl
    have hsummary : summaryOf acc = summary := List.cons.inj hsummary |>.1
    have hcount := hdescribes.count
    rw [← hsummary] at hcount hdescribes
    change acc.deletedRecords.length = _ at hcount
    rw [hdeleted] at hcount
    have hdisk : expiredRecords (s.store.retentionCutoff nowMs) (recordsOf (onDisk s)) ≠ [] := by
      intro hnil
      rw [hnil] at hcount
      exact hne (List.length_eq_zero_iff.1 hcount.symm)
    have htimes : timesOf (expiredRecords (s.store.retentionCutoff nowMs) s.store.records) ≠ [] :=
      fun hnil => hne (List.map_eq_nil_iff.1 hnil)
    exact
      { live := hretired.records.symm.trans hretains.records
        count := hcount
        first := by
          rw [← hdeleted]
          exact hdescribes.first.unique (isLeast_minimum htimes)
        last := by
          rw [← hdeleted]
          exact hdescribes.last.unique (isGreatest_maximum htimes)
        tombstones := hsame }
  · rintro (hidle | hagrees)
    · exact absurd hexpires hidle
    · have htimes : timesOf (expiredRecords (s.store.retentionCutoff nowMs) s.store.records) ≠ [] :=
        fun hnil => hne (List.map_eq_nil_iff.1 hnil)
      refine ⟨hretired.records.trans hagrees.live, fun hnil => absurd hnil hne, ?_⟩
      intro _
      refine ⟨summaryOf acc, number, htombstones.trans (by rw [hagrees.tombstones]), ?_, hnames⟩
      have hfirst : (summaryOf acc).firstOccurredAtMs
          = minimum (timesOf (expiredRecords (s.store.retentionCutoff nowMs) s.store.records)) := by
        rw [← hagrees.first, ← hdeleted]
        rfl
      have hlast : (summaryOf acc).lastOccurredAtMs
          = maximum (timesOf (expiredRecords (s.store.retentionCutoff nowMs) s.store.records)) := by
        rw [← hagrees.last, ← hdeleted]
        rfl
      refine ⟨?_, ?_, ?_⟩
      · rw [← hagrees.count, ← hdeleted]
        rfl
      · rw [hfirst]
        exact isLeast_minimum htimes
      · rw [hlast]
        exact isGreatest_maximum htimes

/-- **The active segments hold what is in memory** in a store that agrees with its directory. -/
theorem agrees_of_coherent {layout : Layout} {tail : List StoredEntry} (h : Coherent s layout tail) :
    Listed s ∧ Agrees s cutoff := by
  have hdisk : onDisk s = layout.entries ++ tail := by
    rw [onDisk, h.numbers_eq, h.represents.entriesIn_eq, Layout.entries_append, Layout.entries_cons,
      Layout.entries_nil, List.append_nil]
  have hrecords : recordsOf (onDisk s) = s.store.records := by rw [hdisk, h.records]
  refine ⟨⟨?_, h.limit.2⟩, ?_⟩
  · intro _ hm
    rw [h.numbers_eq] at hm
    obtain ⟨p, hp, rfl⟩ := List.mem_map.1 hm
    rw [h.represents.segment p hp]
    exact Option.some_ne_none _
  · exact
      { live := by rw [hrecords]
        count := by rw [hrecords]
        first := by rw [hrecords]
        last := by rw [hrecords]
        tombstones := by rw [hdisk, h.tombstones] }

end AuditStore

end Dashboard
