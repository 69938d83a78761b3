/-
**Retention replaces segments of the audit store.**

Enforcing retention seals the current segment, goes through the others, replaces those that hold
records past their age by what is kept of them, writes a tombstone, makes the index list the result,
and removes what was replaced.

Main definitions:

* `Dashboard.Compacting` — the segments before and after, and those replaced, in the course of it.

Main results:

* `Dashboard.Compacting.compactSegments` — **the new segments hold what is kept of the old ones**;
* `Dashboard.Coherent.enforceRetention` — **enforcing retention** leaves the records that are not
  past their age, or has not changed them.
-/

import DeviceLane.Dashboard.AuditDelete

namespace Dashboard

open Effect AuditStore

variable {dir : AuditDir} {layout : Layout}

/-! ### What is kept -/

structure Kept (cutoff : ℕ) (old new : Layout) : Prop where
  records : recordsOf new.entries =
    (recordsOf old.entries).filter fun record => record.occurredAtMs ≥ cutoff
  tombstones : tombstonesOf new.entries = tombstonesOf old.entries

namespace Kept

variable {cutoff : ℕ} {old new old' new' : Layout}

theorem nil : Kept cutoff [] [] := ⟨rfl, rfl⟩

theorem append (h : Kept cutoff old new) (h' : Kept cutoff old' new') :
    Kept cutoff (old ++ old') (new ++ new') where
  records := by
    simp only [Layout.entries_append, recordsOf_append, List.filter_append, h.records, h'.records]
  tombstones := by
    simp only [Layout.entries_append, tombstonesOf_append, h.tombstones, h'.tombstones]

theorem same {number : ℕ} {entries : List StoredEntry}
    (h : (recordsOf entries).filter (fun record => record.occurredAtMs < cutoff) = []) :
    Kept cutoff [(number, entries)] [(number, entries)] where
  records := by
    refine (List.filter_eq_self.2 ?_).symm
    intro record hrecord
    rw [Layout.entries_cons, Layout.entries_nil, List.append_nil] at hrecord
    have hnot := List.filter_eq_nil_iff.1 h record hrecord
    simp only [decide_eq_true_eq] at hnot ⊢
    omega
  tombstones := rfl

theorem retained (cutoff number number' : ℕ) (entries : List StoredEntry) :
    Kept cutoff [(number, entries)] [(number', retainedEntries cutoff entries)] where
  records := by
    simp [retainedEntries]
  tombstones := by
    simp [retainedEntries]

theorem dropped (number : ℕ) {entries : List StoredEntry}
    (h : retainedEntries cutoff entries = []) : Kept cutoff [(number, entries)] [] := by
  have hkept := retained cutoff number number entries
  rw [h] at hkept
  exact ⟨hkept.records, hkept.tombstones⟩

end Kept

theorem mem_retainedEntries {cutoff : ℕ} {entries : List StoredEntry} {entry : StoredEntry}
    (h : entry ∈ retainedEntries cutoff entries) : entry ∈ entries := by
  rcases List.mem_append.1 h with h | h
  · obtain ⟨_, hrecord, rfl⟩ := List.mem_map.1 h
    exact mem_recordsOf.1 (List.mem_of_mem_filter hrecord)
  · obtain ⟨_, hsummary, rfl⟩ := List.mem_map.1 h
    exact mem_tombstonesOf.1 hsummary

variable [Sha256]

/-! ### The segments -/

theorem Represents.append {layout' : Layout} (h : Represents dir layout) (h' : Represents dir layout')
    (hnew : ∀ m ∈ layout'.numbers, m ∉ layout.numbers) :
    Represents dir (layout ++ layout') where
  nodup := by
    rw [Layout.numbers_append]
    exact List.nodup_append'.2 ⟨h.nodup, h'.nodup, List.disjoint_right.2 hnew⟩
  segment := by
    intro p hp
    rcases List.mem_append.1 hp with hp | hp
    · exact h.segment p hp
    · exact h'.segment p hp
  stored := by
    intro p hp
    rcases List.mem_append.1 hp with hp | hp
    · exact h.stored p hp
    · exact h'.stored p hp

theorem Represents.of_append_left {layout' : Layout} (h : Represents dir (layout ++ layout')) :
    Represents dir layout where
  nodup := by
    have hnodup := h.nodup
    rw [Layout.numbers_append] at hnodup
    exact hnodup.of_append_left
  segment := (List.forall_mem_append.1 h.segment).1
  stored := (List.forall_mem_append.1 h.stored).1

theorem Represents.of_append_right {dir : AuditDir} {layout layout' : Layout}
    (h : Represents dir (layout ++ layout')) : Represents dir layout' where
  nodup := by
    have hnodup := h.nodup
    rw [Layout.numbers_append] at hnodup
    exact hnodup.of_append_right
  segment := (List.forall_mem_append.1 h.segment).2
  stored := (List.forall_mem_append.1 h.stored).2

/-- Retention has gone through some of the segments of a directory: what has taken their place, and
which of them have been replaced. -/
structure Compacting (base dir : AuditDir) (start : ℕ) (segments done : Layout)
    (replaced : List ℕ) (acc : Compaction) : Prop where
  grows : Extends base dir
  represents : Represents dir done
  newActive : acc.newActive = done.numbers
  originals : acc.replacedOriginals.map (·.id) = replaced.map segmentId
  nodup : replaced.Nodup
  sources : ∀ m ∈ replaced, m ∈ segments.numbers ∧ m ∉ done.numbers
  known : ∀ m ∈ done.numbers, m ∈ segments.numbers ∨ base.segments.lookup m = none
  free : ∀ m, acc.nextNumber ≤ m → dir.segments.lookup m = none
  start_le : start ≤ acc.nextNumber
  filled : start < acc.nextNumber → dir.segments.lookup start ≠ none

theorem Represents.notMem_of_append {number : ℕ} {entries : List StoredEntry}
    (h : Represents dir (layout ++ [(number, entries)])) : number ∉ layout.numbers := by
  have hnodup := h.nodup
  rw [Layout.numbers_append] at hnodup
  exact fun hmem => (List.nodup_append'.1 hnodup).2.2 hmem List.mem_cons_self

namespace Compacting

variable {base dir dir' : AuditDir} {start number : ℕ} {segments done : Layout}
  {entries : List StoredEntry} {replaced : List ℕ} {acc : Compaction}

theorem init (h : base.faults = []) (hfree : ∀ m, start ≤ m → base.segments.lookup m = none) :
    Compacting base base start [] [] [] ⟨start, [], [], [], []⟩ where
  grows := .refl h
  represents := ⟨List.nodup_nil, nofun, nofun⟩
  newActive := rfl
  originals := rfl
  nodup := List.nodup_nil
  sources := nofun
  known := nofun
  free := hfree
  start_le := Nat.le_refl _
  filled := fun hlt => absurd hlt (Nat.lt_irrefl _)

theorem segment_of_last (hbase : Represents base (segments ++ [(number, entries)])) :
    base.segments.lookup number = some (framesOf entries) :=
  hbase.segment (number, entries) (List.mem_append_right _ List.mem_cons_self)

theorem notMem_done (h : Compacting base dir start segments done replaced acc)
    (hbase : Represents base (segments ++ [(number, entries)])) : number ∉ done.numbers := by
  intro hmem
  rcases h.known number hmem with hold | hnew
  · exact hbase.notMem_of_append hold
  · rw [segment_of_last hbase] at hnew
    cases hnew

theorem keep (h : Compacting base dir start segments done replaced acc)
    (hbase : Represents base (segments ++ [(number, entries)])) :
    Compacting base dir start (segments ++ [(number, entries)]) (done ++ [(number, entries)])
      replaced { acc with newActive := acc.newActive ++ [number] } where
  grows := h.grows
  represents := by
    refine h.represents.append (hbase.of_append_right.extend h.grows) ?_
    intro m hm
    rw [List.mem_singleton.1 hm]
    exact h.notMem_done hbase
  newActive := by
    rw [Layout.numbers_append, ← h.newActive]
    rfl
  originals := h.originals
  nodup := h.nodup
  sources := by
    intro m hm
    obtain ⟨hsegments, hdone⟩ := h.sources m hm
    rw [Layout.numbers_append, Layout.numbers_append]
    refine ⟨List.mem_append_left _ hsegments, ?_⟩
    intro hmem
    rcases List.mem_append.1 hmem with hmem | hmem
    · exact hdone hmem
    · rw [List.mem_singleton.1 hmem] at hsegments
      exact hbase.notMem_of_append hsegments
  known := by
    intro m hm
    rw [Layout.numbers_append] at hm ⊢
    rcases List.mem_append.1 hm with hm | hm
    · rcases h.known m hm with hold | hnew
      · exact .inl (List.mem_append_left _ hold)
      · exact .inr hnew
    · exact .inl (List.mem_append_right _ hm)
  free := h.free
  start_le := h.start_le
  filled := h.filled

theorem drop (h : Compacting base dir start segments done replaced acc)
    (hbase : Represents base (segments ++ [(number, entries)])) (bytes : List UInt8)
    (deleted : List AuditRecord) :
    Compacting base dir start (segments ++ [(number, entries)]) done (replaced ++ [number])
      { acc with
        replacedOriginals := acc.replacedOriginals ++ [segmentSummary number bytes]
        deletedRecords := acc.deletedRecords ++ deleted } where
  grows := h.grows
  represents := h.represents
  newActive := h.newActive
  originals := by
    rw [List.map_append, List.map_append, h.originals]
    rfl
  nodup := by
    refine List.nodup_append'.2 ⟨h.nodup, List.nodup_singleton _, ?_⟩
    rw [List.disjoint_right]
    intro m hm hold
    rw [List.mem_singleton.1 hm] at hold
    exact hbase.notMem_of_append (h.sources number hold).1
  sources := by
    intro m hm
    rw [Layout.numbers_append]
    rcases List.mem_append.1 hm with hm | hm
    · exact ⟨List.mem_append_left _ (h.sources m hm).1, (h.sources m hm).2⟩
    · rw [List.mem_singleton.1 hm]
      exact ⟨List.mem_append_right _ List.mem_cons_self, h.notMem_done hbase⟩
  known := by
    intro m hm
    rw [Layout.numbers_append]
    rcases h.known m hm with hold | hnew
    · exact .inl (List.mem_append_left _ hold)
    · exact .inr hnew
  free := h.free
  start_le := h.start_le
  filled := h.filled

theorem replace (h : Compacting base dir start segments done replaced acc)
    (hbase : Represents base segments) (hwriting : Writing dir dir' [] acc.nextNumber entries)
    (summary : DeletedSegmentSummary) :
    Compacting base dir' start segments (done ++ [(acc.nextNumber, entries)]) replaced
      { acc with
        replacements := acc.replacements ++ [summary]
        newActive := acc.newActive ++ [acc.nextNumber]
        nextNumber := acc.nextNumber + 1 } where
  grows := h.grows.trans hwriting.grows
  represents := by
    refine (h.represents.extend hwriting.grows).append hwriting.represents ?_
    intro m hm
    rw [List.mem_singleton.1 hm]
    exact h.represents.notMem (h.free _ (Nat.le_refl _))
  newActive := by
    rw [Layout.numbers_append, ← h.newActive]
    rfl
  originals := h.originals
  nodup := h.nodup
  sources := by
    intro m hm
    obtain ⟨hsegments, hdone⟩ := h.sources m hm
    refine ⟨hsegments, ?_⟩
    intro hmem
    rw [Layout.numbers_append] at hmem
    rcases List.mem_append.1 hmem with hmem | hmem
    · exact hdone hmem
    · rw [List.mem_singleton.1 hmem] at hsegments
      exact (hbase.extend h.grows).notMem (h.free _ (Nat.le_refl _)) hsegments
  known := by
    intro m hm
    rw [Layout.numbers_append] at hm
    rcases List.mem_append.1 hm with hm | hm
    · exact h.known m hm
    · rw [List.mem_singleton.1 hm]
      exact .inr (h.grows.none_of_none (h.free _ (Nat.le_refl _)))
  free := by
    intro m hm
    have hlt : acc.nextNumber < m := hm
    by_contra hsome
    rcases hwriting.only m hsome with hold | hnew
    · exact hold (h.free m (Nat.le_of_lt hlt))
    · rw [List.mem_singleton.1 hnew] at hlt
      exact Nat.lt_irrefl _ hlt
  start_le := Nat.le_succ_of_le h.start_le
  filled := by
    intro _
    by_cases heq : start = acc.nextNumber
    · rw [heq, hwriting.current_segment]
      exact nofun
    · have hlt : start < acc.nextNumber := by
        have hle := h.start_le
        omega
      obtain ⟨_, hbytes⟩ := Option.ne_none_iff_exists'.1 (h.filled hlt)
      rw [hwriting.grows.segment _ _ hbytes]
      exact nofun

end Compacting

/-! ### Writing what is kept -/

theorem Writing.appendEntries {base : AuditDir} {number maxSegmentBytes : ℕ} {tail : List StoredEntry}
    (h : Writing base dir [] number tail) (entries : List StoredEntry)
    (hvalid : ∀ entry ∈ entries, Stored entry) :
    (∃ dir', (AuditStore.appendEntries maxSegmentBytes number entries).exec dir
        = (.error .frameTooLarge, dir') ∧ Extends base dir' ∧
        ∃ entry ∈ entries, maxSegmentBytes < entry.toJson.toVec.length + 36) ∨
    ∃ dir', (AuditStore.appendEntries maxSegmentBytes number entries).exec dir = (.ok (), dir') ∧
      Writing base dir' [] number (tail ++ entries) := by
  induction entries generalizing dir tail with
  | nil =>
    right
    rw [List.append_nil]
    exact ⟨dir, rfl, h⟩
  | cons entry entries ih =>
    have hentry := hvalid entry List.mem_cons_self
    rw [AuditStore.appendEntries, StoredEntry.toVec_eq_ok hentry.valid,
      exec_bind_ok (exec_orThrow _ _ dir), frameLen_eq_ok hentry.fits,
      exec_bind_ok (exec_orThrow _ _ dir), exec_throwIf_bind]
    split
    · rename_i hlarge
      exact .inl ⟨dir, rfl, h.grows, entry, List.mem_cons_self, hlarge⟩
    · rw [exec_bind_ok (exec_appendFrame h.grows.faults h.current_segment)]
      rcases ih (h.append hentry) (List.forall_mem_cons.1 hvalid).2 with
        ⟨dir', hexec, hgrows, large, hmem, hlarge⟩ | ⟨dir', hexec, hwriting⟩
      · exact .inl ⟨dir', hexec, hgrows, large, List.mem_cons_of_mem _ hmem, hlarge⟩
      · rw [List.append_assoc] at hwriting
        exact .inr ⟨dir', hexec, hwriting⟩

/-! ### Going through the segments -/

/-- What going through segments comes to: an entry is too large for the segments of now, or the new
segments hold what is kept of the old ones. -/
inductive Compacted (base : AuditDir) (start cutoff limit : ℕ) (segments : Layout) :
    Except AuditError Compaction × AuditDir → Prop
  | stopped {dir : AuditDir} (h : Extends base dir)
      (hlarge : ∃ entry ∈ segments.entries, limit < entry.toJson.toVec.length + 36) :
      Compacted base start cutoff limit segments (.error .frameTooLarge, dir)
  | done {dir : AuditDir} {done : Layout} {replaced : List ℕ} {acc : Compaction}
      (h : Compacting base dir start segments done replaced acc) (hkept : Kept cutoff segments done) :
      Compacted base start cutoff limit segments (.ok acc, dir)

namespace Compacting

variable {base dir : AuditDir} {start number cutoff limit : ℕ} {segments done : Layout}
  {entries : List StoredEntry} {replaced : List ℕ} {acc : Compaction}

theorem compactSegment (h : Compacting base dir start segments done replaced acc)
    (hkept : Kept cutoff segments done) (hbase : Represents base (segments ++ [(number, entries)])) :
    Compacted base start cutoff limit (segments ++ [(number, entries)])
      ((AuditStore.compactSegment limit cutoff number acc).exec dir) := by
  have hsegment := h.grows.segment _ _ (segment_of_last hbase)
  have hstored : ∀ entry ∈ entries, Stored entry :=
    hbase.stored (number, entries) (List.mem_append_right _ List.mem_cons_self)
  have hread : (readSegment number false).exec dir = (.ok (entries, .ok false), dir) :=
    exec_readSegment h.grows.faults hsegment fun entry hentry => (hstored entry hentry).holds
  rw [AuditStore.compactSegment, exec_bind_ok hread]
  dsimp only
  rw [exec_bind_ok (exec_orThrow _ _ dir), exec_ite]
  split
  · rename_i hdeleted
    exact .done (h.keep hbase) (hkept.append (.same hdeleted))
  · rw [exec_bind_ok (exec_readFile h.grows.faults hsegment), exec_ite]
    split
    · rename_i hretained
      have hdropped := hkept.append (.dropped number hretained)
      rw [List.append_nil] at hdropped
      exact .done (h.drop hbase _ _) hdropped
    · have hnew := h.free _ (Nat.le_refl _)
      have hretained : ∀ entry ∈ retainedEntries cutoff entries, Stored entry :=
        fun entry hentry => hstored entry (mem_retainedEntries hentry)
      rw [exec_bind_ok (exec_createSegment h.grows.faults hnew)]
      rcases (Writing.start h.grows.faults hnew).appendEntries (retainedEntries cutoff entries)
        hretained with ⟨dir', hexec, hgrows, large, hmem, hlarge⟩ | ⟨dir', hexec, hwriting⟩
      · rw [exec_bind_error hexec]
        refine .stopped (h.grows.trans hgrows) ⟨large, ?_, hlarge⟩
        rw [Layout.entries_append, Layout.entries_cons, Layout.entries_nil, List.append_nil]
        exact List.mem_append_right _ (mem_retainedEntries hmem)
      · rw [exec_bind_ok hexec,
          exec_bind_ok (exec_readFile hwriting.grows.faults hwriting.current_segment)]
        exact .done ((h.drop hbase _ _).replace hbase hwriting _)
          (hkept.append (.retained cutoff number acc.nextNumber entries))

/-- **The new segments hold what is kept of the old ones.** -/
theorem compactSegments (rest : Layout) (h : Compacting base dir start segments done replaced acc)
    (hkept : Kept cutoff segments done) (hbase : Represents base (segments ++ rest)) :
    Compacted base start cutoff limit (segments ++ rest)
      ((AuditStore.compactSegments limit cutoff rest.numbers acc).exec dir) := by
  induction rest generalizing dir segments done replaced acc with
  | nil =>
    rw [List.append_nil]
    exact .done h hkept
  | cons p rest ih =>
    rw [List.append_cons] at hbase ⊢
    have hstep : Compacted _ _ _ limit _ _ := h.compactSegment hkept hbase.of_append_left
    rw [Layout.numbers_cons, AuditStore.compactSegments]
    generalize hrun : Eff.exec _ _ = run at hstep
    cases hstep with
    | stopped hgrows hlarge =>
      obtain ⟨large, hmem, hlarge⟩ := hlarge
      rw [exec_bind_error hrun]
      refine .stopped hgrows ⟨large, ?_, hlarge⟩
      rw [Layout.entries_append]
      exact List.mem_append_left _ hmem
    | done hnext hkeptNext =>
      rw [exec_bind_ok hrun]
      exact ih hnext hkeptNext hbase

end Compacting

/-! ### The tombstone, and what is removed -/

theorem exec_writeTombstone {store : AuditStore} {dir : AuditDir} {number : ℕ}
    (summary : RetentionTombstoneSummary) (hfaults : dir.faults = [])
    (hlimit : store.maxSegmentBytes ≤ maxSegmentBytes)
    (hnew : dir.segments.lookup number = none) :
    ((writeTombstone summary number).exec ⟨store, dir⟩ = (.error .frameTooLarge, ⟨store, dir⟩) ∧
      store.maxSegmentBytes
        < (StoredEntry.retentionTombstone summary).toJson.toVec.length + 36) ∨
    ∃ dir', (writeTombstone summary number).exec ⟨store, dir⟩ =
        (.ok (), ⟨{ store with tombstones := store.tombstones ++ [summary] }, dir'⟩) ∧
      Writing dir dir' [] number [.retentionTombstone summary] := by
  have hvalid : (StoredEntry.retentionTombstone summary).Valid := trivial
  have hsize : store.maxSegmentBytes < 2 ^ 32 - 36 := Nat.lt_of_le_of_lt hlimit (by decide)
  rw [writeTombstone, exec_bind_ok (exec_get _), StoredEntry.toVec_eq_ok hvalid,
    exec_bind_ok (exec_orThrow _ _ _)]
  cases hframe : frameLen (StoredEntry.retentionTombstone summary).toJson.toVec with
  | error =>
    left
    rw [frameLen] at hframe
    split at hframe
    · cases hframe
    · rename_i hlarge
      cases hframe
      exact ⟨exec_bind_error (exec_orThrow _ _ _), by omega⟩
  | ok =>
    obtain ⟨-, rfl⟩ := frameLen_eq_ok_iff.1 hframe
    rw [exec_bind_ok (exec_orThrow _ _ _), exec_throwIf_bind]
    split
    · rename_i hlarge
      dsimp only at hlarge
      exact .inl ⟨rfl, by omega⟩
    · rename_i hfits
      dsimp only at hfits
      right
      have hstored : Stored (.retentionTombstone summary) := ⟨hvalid, by omega⟩
      have hcreate := Writing.start hfaults hnew
      have happend := hcreate.append hstored
      have hlast : ¬(tombstonesOf ([] ++ [.retentionTombstone summary])).getLast? ≠ some summary :=
        not_not_intro rfl
      refine ⟨_, ?_, happend⟩
      refine exec_bind_of (exec_onDir_ok (exec_createSegment hfaults hnew)) <|
        exec_bind_of (exec_onDir_ok (exec_appendFrame hfaults hcreate.current_segment)) <|
        exec_bind_of (exec_update _ _) <|
        exec_bind_of (exec_onDir_ok (exec_readSegment happend.grows.faults
          happend.current_segment ?_)) <|
        exec_bind_of (exec_orThrow _ _ _) (exec_throwIf_of_not hlast _ _)
      intro entry hentry
      rw [List.mem_singleton.1 hentry]
      exact hstored.holds

omit [Sha256] in
theorem exec_removeFiles {numbers : List ℕ} {dir : AuditDir} (hnodup : numbers.Nodup)
    (hfaults : dir.faults = []) (hthere : ∀ m ∈ numbers, dir.segments.lookup m ≠ none) :
    ∃ dir', (removeFiles numbers).exec dir = (.ok (), dir') ∧ Removed numbers dir dir' := by
  induction numbers generalizing dir with
  | nil => exact ⟨dir, rfl, .nil hfaults⟩
  | cons number numbers ih =>
    obtain ⟨hnotMem, hnodup⟩ := List.nodup_cons.1 hnodup
    obtain ⟨_, hbytes⟩ := Option.ne_none_iff_exists'.1 (hthere number List.mem_cons_self)
    have hrest : ∀ m ∈ numbers, (dir.segments.erase number).lookup m ≠ none := by
      intro m hm
      have hne : m ≠ number := fun heq => hnotMem (heq ▸ hm)
      rw [Map.lookup_erase, if_neg hne]
      exact hthere m (List.mem_cons_of_mem _ hm)
    obtain ⟨dir', hexec, hremoved⟩ :=
      @ih { dir with segments := dir.segments.erase number } hnodup hfaults hrest
    exact ⟨dir', exec_bind_of (exec_removeFile hfaults hbytes) hexec,
      hremoved.cons rfl (Map.lookup_erase _ _)⟩

omit [Sha256] in
theorem removeOriginals_eq {originals : List DeletedSegmentSummary} {replaced : List ℕ}
    (hids : originals.map (·.id) = replaced.map segmentId) :
    removeOriginals originals = removeFiles replaced := by
  induction replaced generalizing originals with
  | nil => rw [List.map_eq_nil_iff.1 hids, removeOriginals, removeFiles]
  | cons number replaced ih =>
    obtain ⟨_, originals, rfl, hid, hids⟩ := List.map_eq_cons_iff.1 hids
    rw [removeOriginals, hid, segmentNumberFromId_segmentId, ih hids]
    rfl

theorem exec_reload {store : AuditStore} {dir : AuditDir} {layout : Layout}
    (hfaults : dir.faults = []) (h : Represents dir layout) :
    (reload layout.numbers).exec ⟨store, dir⟩ =
      (.ok (),
        { store :=
            { store with
              records := store.records ++ recordsOf layout.entries
              tombstones := store.tombstones ++ tombstonesOf layout.entries }
          dir }) := by
  induction layout generalizing store with
  | nil =>
    rw [Layout.entries_nil]
    simp [recordsOf, tombstonesOf, reload]
  | cons p layout ih =>
    have hstored := h.stored p List.mem_cons_self
    have hrest : Represents dir layout := @Represents.of_append_right _ dir [p] layout h
    have hread : (readSegment p.1 false).exec dir = (.ok (p.2, .ok false), dir) :=
      exec_readSegment hfaults (h.segment p List.mem_cons_self)
        fun entry hentry => (hstored entry hentry).holds
    rw [Layout.numbers_cons, reload, exec_bind_ok (exec_onDir_ok hread)]
    dsimp only
    rw [exec_bind_ok (exec_update _ _), exec_bind_ok (exec_orThrow _ _ _),
      ih hrest]
    simp

/-! ### Enforcing retention -/

/-- An entry of a store, or the tombstone that retention would write, is too large for the segments
of now. -/
def TooLarge (s : AuditState) (layout : Layout) (cutoff : ℕ) : Prop :=
  ∃ entry : StoredEntry, s.store.maxSegmentBytes < entry.toJson.toVec.length + 36 ∧
    (entry ∈ layout.entries ∨
      ∃ acc dir,
        (compactSegments s.store.maxSegmentBytes cutoff layout.numbers
          ⟨lastNumber s.dir + 1, [], [], [], []⟩).exec s.dir = (.ok acc, dir) ∧
        entry = .retentionTombstone (summaryOf acc))

/-- A store after retention: the records past their age are gone, and there is one more tombstone. -/
def retired (store : AuditStore) (cutoff : ℕ) (summary : RetentionTombstoneSummary)
    (activeSegments : List ℕ) : AuditStore :=
  { store with
    currentDay := none
    activeSegments
    records := store.records.filter fun record => record.occurredAtMs ≥ cutoff
    tombstones := store.tombstones ++ [summary] }

namespace Coherent

variable {s : AuditState} {layout : Layout} {tail : List StoredEntry}

theorem current_notMem (h : Coherent s layout tail) : s.store.current ∉ layout.numbers :=
  h.represents.notMem_of_append

theorem candidates_eq (h : Coherent s layout tail) :
    s.store.activeSegments.filter (fun number => number ≠ s.store.current) = layout.numbers := by
  rw [h.active, List.filter_append, List.filter_eq_self.2, List.filter_eq_nil_iff.2, List.append_nil]
  · intro m hm
    rw [List.mem_singleton.1 hm]
    simp
  · intro m hm
    simp only [ne_eq, decide_not, Bool.not_eq_eq_eq_not, Bool.not_true, decide_eq_false_iff_not]
    exact fun heq => h.current_notMem (heq ▸ hm)

theorem sealed {dir dir' dir'' : AuditDir} {start cutoff : ℕ} {done : Layout} {replaced : List ℕ}
    {acc : Compaction} {summary : RetentionTombstoneSummary} (h : Coherent s layout [])
    (hacc : Compacting s.dir dir start layout done replaced acc) (hkept : Kept cutoff layout done)
    (hwriting : Writing dir dir' [] acc.nextNumber [.retentionTombstone summary])
    (hremoved : Removed replaced
      { dir' with
        index := some (Index.mk 2 s.store.current
          (acc.newActive ++ [acc.nextNumber, s.store.current])).toVec } dir'') :
    Coherent
      ⟨retired s.store cutoff summary (acc.newActive ++ [acc.nextNumber, s.store.current]), dir''⟩
      (done ++ [(acc.nextNumber, [.retentionTombstone summary])]) [] where
  faults := hremoved.faults
  represents := by
    have hgrows := hacc.grows.trans hwriting.grows
    have hfree := hacc.free _ (Nat.le_refl _)
    have hlayout : ∀ m ∈ layout.numbers, m ≠ acc.nextNumber := by
      intro m hm heq
      exact (h.represents.of_append_left.extend hacc.grows).notMem hfree (heq ▸ hm)
    have hnew : acc.nextNumber ∉ done.numbers := hacc.represents.notMem hfree
    have hcurrent : s.store.current ≠ acc.nextNumber := by
      intro heq
      rw [← heq, hacc.grows.segment _ _ h.current_segment] at hfree
      cases hfree
    have htombstone : Represents dir' (done ++ [(acc.nextNumber, [.retentionTombstone summary])]) := by
      refine (hacc.represents.extend hwriting.grows).append hwriting.represents ?_
      intro m hm
      rw [List.mem_singleton.1 hm]
      exact hnew
    have hall := htombstone.append (h.represents.of_append_right.extend hgrows) (by
      intro m hm hold
      rw [List.mem_singleton.1 hm, Layout.numbers_append] at hold
      rcases List.mem_append.1 hold with hold | hold
      · rcases hacc.known _ hold with hlayout | hbase
        · exact h.current_notMem hlayout
        · rw [h.current_segment] at hbase
          cases hbase
      · exact hcurrent (List.mem_singleton.1 hold))
    have hindexed : Represents
        { dir' with
          index := some (Index.mk 2 s.store.current
            (acc.newActive ++ [acc.nextNumber, s.store.current])).toVec } _ :=
      ⟨hall.nodup, hall.segment, hall.stored⟩
    refine hindexed.removed hremoved ?_
    intro m hm hreplaced
    obtain ⟨hsource, hdone⟩ := hacc.sources m hreplaced
    rw [Layout.numbers_append, Layout.numbers_append] at hm
    rcases List.mem_append.1 hm with hm | hm
    · rcases List.mem_append.1 hm with hm | hm
      · exact hdone hm
      · exact hlayout m hsource (List.mem_singleton.1 hm)
    · rw [List.mem_singleton.1 hm] at hsource
      exact h.current_notMem hsource
  active := by
    change acc.newActive ++ [acc.nextNumber, s.store.current] = _
    rw [hacc.newActive, Layout.numbers_append, List.append_assoc]
    rfl
  records := by
    change s.store.records.filter _ = _
    rw [h.records, List.append_nil, List.append_nil, Layout.entries_append, recordsOf_append,
      hkept.records]
    exact (List.append_nil _).symm
  tombstones := by
    change s.store.tombstones ++ [summary] = _
    rw [h.tombstones, List.append_nil, List.append_nil, Layout.entries_append, tombstonesOf_append,
      hkept.tombstones]
    rfl
  index := hremoved.index
  increasing := h.increasing.sublist (List.filter_sublist.map _)
  bounded := fun record hrecord => h.bounded record (List.mem_of_mem_filter hrecord)
  limit := h.limit
  current_ne := h.current_ne

theorem exec_reload (h : Coherent s layout tail) :
    (reload s.store.activeSegments).exec
      ⟨{ s.store with records := [], tombstones := [] }, s.dir⟩ = (.ok (), s) := by
  rw [h.numbers_eq, Dashboard.exec_reload h.faults h.represents, List.nil_append, List.nil_append,
    Layout.entries_append, Layout.entries_cons, Layout.entries_nil, List.append_nil, ← h.records,
    ← h.tombstones]

/-- **Retention after the current segment has been sealed.** -/
theorem compactSealed (h : Coherent s layout []) (cutoff : ℕ) :
    (∃ dir, (AuditStore.compactSealed cutoff .none).exec s = (.error .frameTooLarge, { s with dir }) ∧
      Extends s.dir dir ∧ TooLarge s layout cutoff) ∨
    ∃ summary activeSegments dir layout',
      (AuditStore.compactSealed cutoff .none).exec s =
        (.ok (), ⟨retired s.store cutoff summary activeSegments, dir⟩) ∧
      Coherent ⟨retired s.store cutoff summary activeSegments, dir⟩ layout' [] ∧
      dir.segments.lookup (lastNumber s.dir + 1) ≠ none := by
  have hfree : ∀ m, lastNumber s.dir + 1 ≤ m → s.dir.segments.lookup m = none := by
    intro m hm
    by_contra hsome
    have hle := le_lastNumber hsome
    omega
  have hrun : Compacted s.dir _ cutoff s.store.maxSegmentBytes ([] ++ layout) _ :=
    (Compacting.init h.faults hfree).compactSegments layout .nil h.represents.of_append_left
  rw [List.nil_append] at hrun
  generalize hexec : Eff.exec _ _ = run at hrun
  have hcompact := hexec
  rw [← h.candidates_eq] at hcompact
  cases hrun with
  | stopped hgrows hlarge =>
    obtain ⟨large, hmem, hlarge⟩ := hlarge
    left
    refine ⟨_, ?_, hgrows, large, hlarge, .inl hmem⟩
    exact exec_bind_of (exec_get s) <|
      exec_bind_of (exec_onDir_ok (exec_segmentNumbers h.faults)) <|
      exec_bind_error (exec_onDir_error hcompact)
  | done hacc hkept =>
    rename_i dir done replaced acc
    have hnew := hacc.free _ (Nat.le_refl _)
    rcases exec_writeTombstone (summaryOf acc) hacc.grows.faults h.limit.2 hnew with
      ⟨htombstone, hlarge⟩ | ⟨dir', htombstone, hwriting⟩
    · left
      refine ⟨_, ?_, hacc.grows, _, hlarge, .inr ⟨acc, dir, hexec, rfl⟩⟩
      exact exec_bind_of (exec_get s) <|
        exec_bind_of (exec_onDir_ok (exec_segmentNumbers h.faults)) <|
        exec_bind_of (exec_onDir_ok hcompact) <| exec_bind_error htombstone
    · right
      have hgrows := hacc.grows.trans hwriting.grows
      have hthere : ∀ m ∈ replaced, dir'.segments.lookup m ≠ none := by
        intro m hm
        obtain ⟨p, hp, hpm⟩ := List.mem_map.1 (hacc.sources m hm).1
        rw [← hpm, hgrows.segment _ _ (h.represents.segment p (List.mem_append_left _ hp))]
        exact nofun
      obtain ⟨dir'', hremove, hremoved⟩ := @exec_removeFiles _
        { dir' with
          index := some (Index.mk 2 s.store.current
            (acc.newActive ++ [acc.nextNumber, s.store.current])).toVec }
        hacc.nodup hgrows.faults hthere
      rw [← removeOriginals_eq hacc.originals] at hremove
      have hsealed := h.sealed hacc hkept hwriting hremoved
      refine ⟨_, _, _, _, ?_, hsealed, ?_⟩
      · exact exec_bind_of (exec_get s) <|
          exec_bind_of (exec_onDir_ok (exec_segmentNumbers h.faults)) <|
          exec_bind_of (exec_onDir_ok hcompact) <| exec_bind_of htombstone <|
          exec_bind_of (exec_onDir_ok (exec_syncDirectory hgrows.faults)) <|
          exec_bind_of (exec_throwIf_of_not nofun _ _) <| exec_bind_of (exec_update _ _) <|
          exec_bind_of (exec_writeIndex hgrows.faults) <|
          exec_bind_of (exec_throwIf_of_not nofun _ _) <|
          exec_bind_of (exec_onDir_ok hremove) <|
          exec_bind_of (exec_onDir_ok (exec_syncDirectory hremoved.faults)) <|
          exec_bind_of (exec_update _ _) <| exec_bind_of (exec_get _) hsealed.exec_reload
      · have hnotMem : lastNumber s.dir + 1 ∉ replaced := by
          intro hm
          obtain ⟨p, hp, hpm⟩ := List.mem_map.1 (hacc.sources _ hm).1
          have hsegment := h.represents.segment p (List.mem_append_left _ hp)
          rw [hpm, hfree _ (Nat.le_refl _)] at hsegment
          cases hsegment
        rw [hremoved.segment, if_neg hnotMem]
        by_cases hlt : lastNumber s.dir + 1 < acc.nextNumber
        · obtain ⟨bytes, hbytes⟩ := Option.ne_none_iff_exists'.1 (hacc.filled hlt)
          change dir'.segments.lookup _ ≠ none
          rw [hwriting.grows.segment _ _ hbytes]
          exact nofun
        · have heq : lastNumber s.dir + 1 = acc.nextNumber :=
            Nat.le_antisymm hacc.start_le (Nat.not_lt.1 hlt)
          change dir'.segments.lookup _ ≠ none
          rw [heq, hwriting.current_segment]
          exact nofun

end Coherent

/-- What enforcing retention comes to, if no call to the file system fails. -/
inductive Enforced (s : AuditState) (segments : Layout) (nowMs : ℕ) :
    Except AuditError Unit × AuditState → Prop
  | idle (h : ¬s.store.Expires nowMs) : Enforced s segments nowMs (.ok (), s)
  | blocked (h : s.store.Expires nowMs)
      (hnext : s.dir.segments.lookup (s.store.current + 1) ≠ none) :
      Enforced s segments nowMs (.error .io, { s with store := { s.store with available := false } })
  | stopped {dir : AuditDir} (h : s.store.Expires nowMs)
      (coherent : Coherent ⟨{ (rotated s).store with available := false }, dir⟩ segments [])
      (hlarge : TooLarge (rotated s) segments (s.store.retentionCutoff nowMs)) :
      Enforced s segments nowMs
        (.error .frameTooLarge, ⟨{ (rotated s).store with available := false }, dir⟩)
  | compacted {summary : RetentionTombstoneSummary} {activeSegments : List ℕ} {dir : AuditDir}
      {layout : Layout} (h : s.store.Expires nowMs)
      (coherent : Coherent
        ⟨retired (rotated s).store (s.store.retentionCutoff nowMs) summary activeSegments, dir⟩
        layout [])
      (hnext : dir.segments.lookup (lastNumber (rotated s).dir + 1) ≠ none) :
      Enforced s segments nowMs
        (.ok (),
          ⟨retired (rotated s).store (s.store.retentionCutoff nowMs) summary activeSegments, dir⟩)

theorem exec_enforceRetention_of_not {s : AuditState} {nowMs : ℕ}
    (h : ¬s.store.Expires nowMs) : (AuditStore.enforceRetention nowMs).exec s = (.ok (), s) :=
  exec_orUnavailable_ok <| exec_bind_of (exec_get s) (exec_onlyIf_of_not h _ _)

/-- **Enforcing retention** leaves the records that are not past their age, or has not changed
them. -/
theorem Coherent.enforceRetention {s : AuditState} {tail : List StoredEntry}
    (h : Coherent s layout tail) (nowMs : ℕ) :
    Enforced s (layout ++ [(s.store.current, tail)]) nowMs
      ((AuditStore.enforceRetention nowMs).exec s) := by
  by_cases hexpires : s.store.Expires nowMs
  · rw [AuditStore.enforceRetention]
    cases hnext : s.dir.segments.lookup (s.store.current + 1) with
    | some =>
      have hexec : (compactRetention nowMs .none).exec s = (.error .io, s) :=
        exec_bind_of (exec_get s) <| (exec_onlyIf_of hexpires _ _).trans <|
          exec_bind_error (exec_rotate_of_some h.faults hnext)
      rw [exec_orUnavailable_error hexec]
      exact .blocked hexpires (by rw [hnext]; exact nofun)
    | none =>
      have hrotated := h.rotated hnext
      have hexec : (compactRetention nowMs .none).exec s =
          (AuditStore.compactSealed (s.store.retentionCutoff nowMs) .none).exec (Dashboard.rotated s) :=
        exec_bind_of (exec_get s) <| (exec_onlyIf_of hexpires _ _).trans <|
          exec_bind_ok (exec_rotate h.faults hnext)
      rcases hrotated.compactSealed (s.store.retentionCutoff nowMs) with
        ⟨dir, hrun, hgrows, hlarge⟩ | ⟨_, _, dir, _, hrun, hcoherent, htaken⟩
      · rw [exec_orUnavailable_error (hexec.trans hrun)]
        exact .stopped hexpires (hrotated.extend hgrows false) hlarge
      · rw [exec_orUnavailable_ok (hexec.trans hrun)]
        exact .compacted hexpires hcoherent htaken
  · rw [exec_enforceRetention_of_not hexpires]
    exact .idle hexpires

end Dashboard
