/-
**Deleting records rewrites the audit store.**

A deletion writes what it retains, the record of the deletion and the tombstones to new segments,
makes the index list these, and removes the old ones. Until the index is written the store and its
directory agree on the old layout, whatever has been written besides; from then on they agree on the
new one.

Main definitions:

* `Dashboard.Writing` — a layout in the course of being written beside the segments of a directory.

Main results:

* `Dashboard.Writing.writeEntries` — **the entries are those of the layout that is written**;
* `Dashboard.Coherent.delete` — **a deletion leaves the store as it is, or with a new layout**.
-/

import DeviceLane.Dashboard.AuditLayout

namespace Dashboard

open Effect AuditStore

variable [Sha256]

variable {entries : List StoredEntry} {number : ℕ} {dir : AuditDir} {layout : Layout}

/-! ### Writing a layout -/

/-- A layout is being written beside the segments of a directory, the last segment of which has the
given number. -/
structure Writing (base dir : AuditDir) (layout : Layout) (number : ℕ) (tail : List StoredEntry) :
    Prop where
  grows : Extends base dir
  represents : Represents dir (layout ++ [(number, tail)])
  new : ∀ m ∈ layout.numbers ++ [number], base.segments.lookup m = none
  only : ∀ m, dir.segments.lookup m ≠ none →
    base.segments.lookup m ≠ none ∨ m ∈ layout.numbers ++ [number]
  le : ∀ m ∈ layout.numbers, m ≤ number

namespace Writing

variable {base dir : AuditDir} {layout : Layout} {number : ℕ} {tail : List StoredEntry}

theorem current_segment (h : Writing base dir layout number tail) :
    dir.segments.lookup number = some (framesOf tail) :=
  h.represents.segment (number, tail) (List.mem_append_right _ List.mem_cons_self)

theorem start {first : ℕ} (h : base.faults = []) (hnew : base.segments.lookup first = none) :
    Writing base { base with segments := base.segments.insert first [] } [] first [] where
  grows := extends_insert h hnew []
  represents := by
    have hempty : Represents base [] := ⟨List.nodup_nil, nofun, nofun⟩
    exact hempty.create h hnew
  new := by
    intro m hm
    rw [List.mem_singleton.1 hm]
    exact hnew
  only := by
    intro m hm
    rcases oneMore_insert base first [] base.index m hm with hm | rfl
    · exact .inl hm
    · exact .inr List.mem_cons_self
  le := nofun

theorem append (h : Writing base dir layout number tail) {entry : StoredEntry}
    (hentry : Stored entry) :
    Writing base
      { dir with
        segments := dir.segments.insert number
          (framesOf tail ++ Frames.frame entry.toJson.toVec) }
      layout number (tail ++ [entry]) where
  grows := by
    refine ⟨h.grows.faults, h.grows.index, ?_⟩
    intro m bytes hm
    have hne : m ≠ number := by
      intro heq
      rw [heq, h.new number (List.mem_append_right _ List.mem_cons_self)] at hm
      cases hm
    change (Map.insert _ _ _).lookup m = _
    rw [Map.lookup_insert_ne hne]
    exact h.grows.segment m bytes hm
  represents := h.represents.appendFrame hentry
  new := h.new
  only := by
    intro m hm
    rcases oneMore_insert dir number _ dir.index m hm with hm | rfl
    · exact h.only m hm
    · exact .inr (List.mem_append_right _ List.mem_cons_self)
  le := h.le

theorem create (h : Writing base dir layout number tail)
    (hnew : dir.segments.lookup (number + 1) = none) :
    Writing base { dir with segments := dir.segments.insert (number + 1) [] }
      (layout ++ [(number, tail)]) (number + 1) [] where
  grows := h.grows.trans (extends_insert h.grows.faults hnew [])
  represents := h.represents.create h.grows.faults hnew
  new := by
    intro m hm
    rcases List.mem_append.1 hm with hm | hm
    · rw [Layout.numbers_append] at hm
      exact h.new m hm
    · rw [List.mem_singleton.1 hm]
      exact h.grows.none_of_none hnew
  only := by
    intro m hm
    rcases oneMore_insert dir (number + 1) [] dir.index m hm with hm | rfl
    · rcases h.only m hm with hbase | hlayout
      · exact .inl hbase
      · rw [Layout.numbers_append]
        exact .inr (List.mem_append_left _ hlayout)
    · exact .inr (List.mem_append_right _ List.mem_cons_self)
  le := by
    intro m hm
    rw [Layout.numbers_append] at hm
    rcases List.mem_append.1 hm with hm | hm
    · exact Nat.le_succ_of_le (h.le m hm)
    · rw [List.mem_singleton.1 hm]
      exact Nat.le_succ _

theorem saturatingAdd_eq (h : Writing base dir layout number tail) (hbound : number ≤ u64Max)
    (hnew : dir.segments.lookup (saturatingAdd number 1) = none) :
    saturatingAdd number 1 = number + 1 ∧ number + 1 ≤ u64Max := by
  have hne : saturatingAdd number 1 ≠ number := by
    intro heq
    rw [heq, h.current_segment] at hnew
    cases hnew
  unfold saturatingAdd at hne ⊢
  omega

end Writing

/-- What writing entries comes to: it stops and has lost nothing, or the layout holds them. -/
inductive Written (base : AuditDir) (number : ℕ) (entries : List StoredEntry) :
    Except AuditError (ℕ × List ℕ) × AuditDir → Prop
  | stopped {error : AuditError} {dir : AuditDir} (h : Extends base dir) :
      Written base number entries (.error error, dir)
  | done {number' : ℕ} {dir : AuditDir} {layout : Layout} {tail : List StoredEntry}
      (h : Writing base dir layout number' tail) (hentries : layout.entries ++ tail = entries)
      (hle : number ≤ number') (hbound : number' ≤ u64Max) :
      Written base number entries (.ok (number', layout.numbers ++ [number']), dir)

theorem Written.of_le {base : AuditDir} {number' : ℕ} {run : Except AuditError (ℕ × List ℕ) × AuditDir}
    (h : Written base number' entries run) (hle : number ≤ number') :
    Written base number entries run := by
  cases h with
  | stopped h => exact .stopped h
  | done h hentries hle' hbound => exact .done h hentries (hle.trans hle') hbound

/-- **The entries are those of the layout that is written.** -/
theorem Writing.writeEntries {base : AuditDir} {maxSegmentBytes : ℕ} {tail : List StoredEntry}
    (h : Writing base dir layout number tail) (hlimit : maxSegmentBytes ≤ Dashboard.maxSegmentBytes)
    (hbound : number ≤ u64Max) (entries : List StoredEntry) (hvalid : ∀ entry ∈ entries, entry.Valid) :
    Written base number (layout.entries ++ tail ++ entries)
      ((AuditStore.writeEntries maxSegmentBytes entries number (layout.numbers ++ [number])).exec
        dir) := by
  induction entries generalizing dir layout number tail with
  | nil => exact .done h (List.append_nil _).symm (Nat.le_refl _) hbound
  | cons entry entries ih =>
    have hentry := hvalid entry List.mem_cons_self
    have hrest : ∀ entry ∈ entries, entry.Valid := (List.forall_mem_cons.1 hvalid).2
    rw [AuditStore.writeEntries, StoredEntry.toVec_eq_ok hentry,
      exec_bind_ok (exec_orThrow _ _ dir)]
    cases hframe : frameLen entry.toJson.toVec with
    | error =>
      rw [exec_bind_error (exec_orThrow _ _ dir)]
      exact .stopped h.grows
    | ok =>
      obtain ⟨-, rfl⟩ := frameLen_eq_ok_iff.1 hframe
      rw [exec_bind_ok (exec_orThrow _ _ dir), exec_throwIf_bind]
      split
      · exact .stopped h.grows
      rename_i hfits
      have hstored : Stored entry := ⟨hentry, by omega⟩
      rw [exec_bind_ok (exec_segmentLen h.grows.faults h.current_segment), exec_ite]
      split
      · cases hnext : dir.segments.lookup (saturatingAdd number 1) with
        | some =>
          rw [exec_bind_error (exec_createSegment_of_some h.grows.faults hnext)]
          exact .stopped h.grows
        | none =>
          obtain ⟨hsucc, hbound'⟩ := h.saturatingAdd_eq hbound hnext
          rw [hsucc] at hnext
          have hcreate := h.create hnext
          have hwritten := ih (hcreate.append hstored) hbound' hrest
          rw [hsucc, exec_bind_ok (exec_createSegment h.grows.faults hnext),
            exec_bind_ok (exec_appendFrame hcreate.grows.faults hcreate.current_segment)]
          simp only [Layout.entries_append, Layout.entries_cons, Layout.entries_nil,
            Layout.numbers_append, Layout.numbers_cons, Layout.numbers_nil, List.append_nil,
            List.nil_append, List.append_assoc, List.singleton_append] at hwritten ⊢
          exact hwritten.of_le (Nat.le_succ number)
      · have hwritten := ih (h.append hstored) hbound hrest
        rw [exec_bind_ok (exec_appendFrame h.grows.faults h.current_segment)]
        simp only [List.append_assoc, List.singleton_append] at hwritten ⊢
        exact hwritten

/-! ### Removing segments -/

structure Removed (numbers : List ℕ) (dir dir' : AuditDir) : Prop where
  faults : dir'.faults = []
  index : dir'.index = dir.index
  segment : ∀ m, dir'.segments.lookup m = if m ∈ numbers then none else dir.segments.lookup m

section

omit [Sha256]

theorem Removed.nil (h : dir.faults = []) : Removed [] dir dir :=
  ⟨h, rfl, fun _ => (if_neg List.not_mem_nil).symm⟩

theorem Removed.cons {numbers : List ℕ} {dir' dir'' : AuditDir} (h : Removed numbers dir' dir'')
    (hindex : dir'.index = dir.index)
    (hsegment : ∀ m, dir'.segments.lookup m = if m = number then none else dir.segments.lookup m) :
    Removed (number :: numbers) dir dir'' where
  faults := h.faults
  index := h.index.trans hindex
  segment := by
    intro m
    rw [h.segment, hsegment]
    by_cases hm : m ∈ numbers
    · rw [if_pos hm, if_pos (List.mem_cons_of_mem _ hm)]
    · rw [if_neg hm]
      by_cases heq : m = number
      · rw [if_pos heq, if_pos (heq ▸ List.mem_cons_self)]
      · rw [if_neg heq, if_neg (List.not_mem_cons_of_ne_of_not_mem heq hm)]

theorem exec_removeOld (numbers : List ℕ) {dir : AuditDir} (h : dir.faults = []) :
    ∃ dir', (removeOld numbers).exec dir = (.ok (), dir') ∧ Removed numbers dir dir' := by
  induction numbers generalizing dir with
  | nil => exact ⟨dir, rfl, .nil h⟩
  | cons number numbers ih =>
    rw [removeOld, exec_bind_ok (exec_get dir)]
    cases hsegment : dir.segments.lookup number with
    | none =>
      obtain ⟨dir', hexec, hremoved⟩ := ih h
      refine ⟨dir', exec_bind_of (exec_onlyIf_of_not nofun _ _) hexec, hremoved.cons rfl ?_⟩
      intro m
      by_cases heq : m = number
      · rw [if_pos heq, heq, hsegment]
      · rw [if_neg heq]
    | some =>
      obtain ⟨dir', hexec, hremoved⟩ :=
        @ih { dir with segments := dir.segments.erase number } h
      exact ⟨dir', exec_bind_of ((exec_onlyIf_of rfl _ _).trans (exec_removeFile h hsegment))
        hexec, hremoved.cons rfl (Map.lookup_erase _ _)⟩

end

theorem Represents.removed {dir' : AuditDir} {numbers : List ℕ} (h : Represents dir layout)
    (hremoved : Removed numbers dir dir') (hother : ∀ m ∈ layout.numbers, m ∉ numbers) :
    Represents dir' layout := by
  refine ⟨h.nodup, ?_, h.stored⟩
  intro p hp
  rw [hremoved.segment, if_neg (hother p.1 (List.mem_map_of_mem hp))]
  exact h.segment p hp

/-! ### Deleting -/

omit [Sha256] in
theorem le_foldl_max (numbers : List ℕ) (start : ℕ) :
    start ≤ numbers.foldl max start ∧ ∀ m ∈ numbers, m ≤ numbers.foldl max start := by
  induction numbers generalizing start with
  | nil => exact ⟨Nat.le_refl _, nofun⟩
  | cons number numbers ih =>
    obtain ⟨hstart, hall⟩ := ih (max start number)
    refine ⟨Nat.le_trans (Nat.le_max_left _ _) hstart, ?_⟩
    intro m hm
    rcases List.mem_cons.1 hm with rfl | hm
    · exact Nat.le_trans (Nat.le_max_right _ _) hstart
    · exact hall m hm

def lastNumber (dir : AuditDir) : ℕ := freshNumber (dir.segments.keys.mergeSort fun a b => a ≤ b)

section

omit [Sha256]

theorem le_lastNumber {m : ℕ} (h : dir.segments.lookup m ≠ none) : m ≤ lastNumber dir := by
  obtain ⟨bytes, hbytes⟩ := Option.ne_none_iff_exists'.1 h
  exact (le_foldl_max _ 0).2 m (List.mem_mergeSort.2 (Map.mem_keys.2 ⟨bytes, hbytes⟩))

theorem mem_recordsOf {record : AuditRecord} :
    record ∈ recordsOf entries ↔ .record record ∈ entries := by
  rw [recordsOf, List.mem_filterMap]
  constructor
  · rintro ⟨entry, hentry, heq⟩
    cases entry with
    | record =>
      cases heq
      exact hentry
    | retentionTombstone => cases heq
  · intro hentry
    exact ⟨_, hentry, rfl⟩

theorem mem_tombstonesOf {summary : RetentionTombstoneSummary} :
    summary ∈ tombstonesOf entries ↔ .retentionTombstone summary ∈ entries := by
  rw [tombstonesOf, List.mem_filterMap]
  constructor
  · rintro ⟨entry, hentry, heq⟩
    cases entry with
    | record => cases heq
    | retentionTombstone =>
      cases heq
      exact hentry
  · intro hentry
    exact ⟨_, hentry, rfl⟩

@[simp] theorem recordsOf_map_record (records : List AuditRecord) :
    recordsOf (records.map .record) = records := by
  rw [recordsOf, List.filterMap_map]
  exact List.filterMap_some

@[simp] theorem recordsOf_map_tombstone (summaries : List RetentionTombstoneSummary) :
    recordsOf (summaries.map .retentionTombstone) = [] := by
  rw [recordsOf, List.filterMap_map]
  exact List.filterMap_none _

@[simp] theorem tombstonesOf_map_record (records : List AuditRecord) :
    tombstonesOf (records.map .record) = [] := by
  rw [tombstonesOf, List.filterMap_map]
  exact List.filterMap_none _

@[simp] theorem tombstonesOf_map_tombstone (summaries : List RetentionTombstoneSummary) :
    tombstonesOf (summaries.map .retentionTombstone) = summaries := by
  rw [tombstonesOf, List.filterMap_map]
  exact List.filterMap_some

theorem exec_firstNumber (h : dir.faults = []) :
    firstNumber.exec dir = (.ok (saturatingAdd (lastNumber dir) 1), dir) :=
  exec_bind_of (exec_segmentNumbers h) rfl

theorem exec_install {store : AuditStore} (records : List AuditRecord) (current day : ℕ)
    (activeSegments : List ℕ) (h : dir.faults = []) :
    (install records current day activeSegments).exec ⟨store, dir⟩ =
      (.ok (),
        { store := { store with records, current, currentDay := some day, activeSegments }
          dir := { dir with index := some (Index.mk 2 current activeSegments).toVec } }) :=
  exec_bind_of (exec_get _) <| exec_bind_of (exec_update _ _) <|
    exec_bind_of (exec_attempt_of (exec_writeIndex h)) rfl

theorem valid_deletionRecord (sequence nowMs : ℕ) :
    (StoredEntry.record (deletionRecord sequence nowMs)).Valid := by
  refine ⟨rfl, ?_⟩
  intro _ hm
  cases hm
  rfl

theorem foldl_max_mem (numbers : List ℕ) (start : ℕ) :
    numbers.foldl max start = start ∨ numbers.foldl max start ∈ numbers := by
  induction numbers generalizing start with
  | nil => exact .inl rfl
  | cons number numbers ih =>
    rcases ih (max start number) with heq | hmem
    · rw [List.foldl_cons, heq]
      rcases Nat.le_total start number with hle | hle
      · rw [Nat.max_eq_right hle]
        exact .inr List.mem_cons_self
      · exact .inl (Nat.max_eq_left hle)
    · exact .inr (List.mem_cons_of_mem _ hmem)

theorem lookup_lastNumber {dir : AuditDir} (h : lastNumber dir ≠ 0) :
    dir.segments.lookup (lastNumber dir) ≠ none := by
  rcases foldl_max_mem (dir.segments.keys.mergeSort fun a b => a ≤ b) 0 with hzero | hmem
  · exact absurd hzero h
  · obtain ⟨_, hbytes⟩ := Map.mem_keys.1 (List.mem_mergeSort.1 hmem)
    intro hnone
    rw [lastNumber, freshNumber, hbytes] at hnone
    cases hnone

end

inductive Deleted (s : AuditState) (filter : AuditFilter) (nowMs : ℕ) :
    Except AuditError ℕ × AuditState → Prop
  | refused {error : AuditError} {dir : AuditDir} (h : Extends s.dir dir) :
      Deleted s filter nowMs (.error error, { s with dir })
  | nothing (h : ∀ record ∈ s.store.records, filter.matches record = false) :
      Deleted s filter nowMs (.ok 0, s)
  | rewritten {s' : AuditState} {layout : Layout} {tail : List StoredEntry} {count : ℕ}
      (h : ∃ record ∈ s.store.records, filter.matches record = true)
      (sequence : s.store.nextSequence = s.store.lastSequence + 1)
      (coherent : Coherent s' layout tail)
      (store : s'.store =
        { s.store with
          records := s.store.retainedRecords filter nowMs
          current := s'.store.current
          currentDay := s'.store.currentDay
          activeSegments := s'.store.activeSegments })
      (first : s.dir.segments.lookup (saturatingAdd (lastNumber s.dir) 1) = none ∧
        saturatingAdd (lastNumber s.dir) 1 ≤ s'.store.current)
      (files : ∀ m, s'.dir.segments.lookup m ≠ none →
        s.dir.segments.lookup m ≠ none ∨ m ≤ s'.store.current)
      (bound : s'.store.current ≤ u64Max) :
      Deleted s filter nowMs (.ok count, s')

namespace Coherent

variable {s : AuditState} {layout : Layout} {tail : List StoredEntry}

theorem stored_of_mem (h : Coherent s layout tail) {entry : StoredEntry}
    (hentry : entry ∈ layout.entries ++ tail) : Stored entry := by
  rcases List.mem_append.1 hentry with hentry | hentry
  · obtain ⟨p, hp, hmem⟩ := List.mem_flatMap.1 hentry
    exact h.represents.stored p (List.mem_append_left _ hp) entry hmem
  · exact h.represents.stored (s.store.current, tail)
      (List.mem_append_right _ List.mem_cons_self) entry hentry

theorem valid_retained (h : Coherent s layout tail) (filter : AuditFilter) (nowMs : ℕ) :
    ∀ entry ∈ (s.store.retainedRecords filter nowMs).map StoredEntry.record
        ++ s.store.tombstones.map .retentionTombstone, entry.Valid := by
  intro entry hentry
  rcases List.mem_append.1 hentry with hentry | hentry
  · obtain ⟨_, hrecord, rfl⟩ := List.mem_map.1 hentry
    rcases List.mem_append.1 hrecord with hrecord | hrecord
    · have hmem := List.mem_of_mem_filter hrecord
      rw [h.records] at hmem
      exact (h.stored_of_mem (mem_recordsOf.1 hmem)).valid
    · rw [List.mem_singleton.1 hrecord]
      exact valid_deletionRecord _ _
  · obtain ⟨_, -, rfl⟩ := List.mem_map.1 hentry
    exact trivial


theorem sequence_le (h : Coherent s layout tail) {record : AuditRecord}
    (hrecord : record ∈ s.store.records) : record.sequence ≤ s.store.lastSequence := by
  have hincreasing := h.increasing
  cases hlast : s.store.records.getLast? with
  | none =>
    rw [List.getLast?_eq_none_iff.1 hlast] at hrecord
    cases hrecord
  | some =>
    obtain ⟨_, hbefore⟩ := List.getLast?_eq_some_iff.1 hlast
    rw [lastSequence, hlast]
    rw [hbefore, List.map_append, List.pairwise_append] at hincreasing
    rw [hbefore] at hrecord
    rcases List.mem_append.1 hrecord with hmem | hmem
    · exact Nat.le_of_lt
        (hincreasing.2.2 _ (List.mem_map_of_mem hmem) _ List.mem_cons_self)
    · rw [List.mem_singleton.1 hmem]
      exact Nat.le_refl _

theorem nextSequence_eq (h : Coherent s layout tail)
    (hfree : ¬(s.store.nextSequence = u64Max ∧
      ∃ record ∈ s.store.records.getLast?, record.sequence = u64Max)) :
    s.store.nextSequence = s.store.lastSequence + 1 ∧ s.store.nextSequence ≤ u64Max := by
  cases hlast : s.store.records.getLast? with
  | none =>
    rw [nextSequence, lastSequence, hlast]
    exact ⟨rfl, by decide⟩
  | some last =>
    have hbound := h.bounded last (List.mem_of_getLast? hlast)
    have hne : last.sequence ≠ u64Max := by
      intro heq
      refine hfree ⟨?_, last, hlast, heq⟩
      rw [nextSequence, hlast]
      change min (last.sequence + 1) u64Max = u64Max
      omega
    rw [nextSequence, lastSequence, hlast]
    change min (last.sequence + 1) u64Max = last.sequence + 1 ∧ min (last.sequence + 1) u64Max ≤ _
    omega

theorem increasing_retained (h : Coherent s layout tail) (filter : AuditFilter) (nowMs : ℕ)
    (hnext : s.store.nextSequence = s.store.lastSequence + 1) :
    ((s.store.retainedRecords filter nowMs).map (·.sequence)).Pairwise (· < ·) := by
  rw [retainedRecords, List.map_append, List.pairwise_append]
  refine ⟨?_, List.pairwise_singleton _ _, ?_⟩
  · exact h.increasing.sublist (List.filter_sublist.map _)
  · intro _ hsequence next hn
    obtain ⟨_, hrecord, rfl⟩ := List.mem_map.1 hsequence
    have hle := h.sequence_le (List.mem_of_mem_filter hrecord)
    have heq : next = s.store.nextSequence := List.mem_singleton.1 hn
    omega

theorem bounded_retained (h : Coherent s layout tail) (filter : AuditFilter) (nowMs : ℕ)
    (hnext : s.store.nextSequence ≤ u64Max) :
    ∀ record ∈ s.store.retainedRecords filter nowMs, record.sequence ≤ u64Max := by
  intro record hrecord
  rcases List.mem_append.1 hrecord with hrecord | hrecord
  · exact h.bounded record (List.mem_of_mem_filter hrecord)
  · rw [List.mem_singleton.1 hrecord]
    exact hnext

theorem numbers_eq (h : Coherent s layout tail) :
    s.store.activeSegments = Layout.numbers (layout ++ [(s.store.current, tail)]) := by
  rw [h.active, Layout.numbers_append]
  rfl

theorem rewritten (h : Coherent s layout tail) {records : List AuditRecord} {dir dir' : AuditDir}
    {layout' : Layout} {current day : ℕ} {tail' : List StoredEntry}
    (hwriting : Writing s.dir dir layout' current tail')
    (hentries : layout'.entries ++ tail' =
      records.map .record ++ s.store.tombstones.map .retentionTombstone)
    (hremoved : Removed s.store.activeSegments
      { dir with index := some (Index.mk 2 current (layout'.numbers ++ [current])).toVec } dir')
    (hincreasing : (records.map (·.sequence)).Pairwise (· < ·))
    (hbounded : ∀ record ∈ records, record.sequence ≤ u64Max) (hcurrent : current ≠ 0) :
    Coherent
      { store :=
          { s.store with
            records
            current
            currentDay := some day
            activeSegments := layout'.numbers ++ [current] }
        dir := dir' } layout' tail' where
  faults := hremoved.faults
  represents := by
    have hindexed : Represents
        { dir with index := some (Index.mk 2 current (layout'.numbers ++ [current])).toVec }
        (layout' ++ [(current, tail')]) :=
      ⟨hwriting.represents.nodup, hwriting.represents.segment, hwriting.represents.stored⟩
    refine hindexed.removed hremoved ?_
    intro m hm hold
    rw [Layout.numbers_append] at hm
    rw [h.numbers_eq] at hold
    exact h.represents.notMem (hwriting.new m hm) hold
  active := rfl
  records := by
    rw [hentries, recordsOf_append, recordsOf_map_record, recordsOf_map_tombstone, List.append_nil]
  tombstones := by
    rw [hentries, tombstonesOf_append, tombstonesOf_map_record, tombstonesOf_map_tombstone,
      List.nil_append]
  index := hremoved.index
  increasing := hincreasing
  bounded := hbounded
  limit := h.limit
  current_ne := hcurrent

end Coherent

/-- **A deletion** leaves the records as they are, or those that it does not delete and the record of
the deletion. -/
theorem Coherent.delete {s : AuditState} {tail : List StoredEntry} (h : Coherent s layout tail)
    (filter : AuditFilter) (nowMs : ℕ) :
    Deleted s filter nowMs ((AuditStore.delete filter nowMs).exec s) := by
  have hself : Extends s.dir s.dir := .refl h.faults
  rw [AuditStore.delete, exec_bind_ok (exec_get s), exec_throwIf_bind]
  split
  · exact .refused hself
  rw [exec_ite]
  split
  · rename_i hcount
    refine .nothing fun record hrecord => ?_
    have hnil := List.filter_eq_nil_iff.1 (List.length_eq_zero_iff.1 hcount) record hrecord
    exact Bool.eq_false_iff.2 hnil
  rename_i hcount
  have hsome : ∃ record ∈ s.store.records, filter.matches record = true := by
    obtain ⟨record, hrecord⟩ := List.exists_mem_of_length_pos (Nat.pos_of_ne_zero hcount)
    exact ⟨record, List.mem_of_mem_filter hrecord, List.of_mem_filter hrecord⟩
  rw [exec_throwIf_bind]
  split
  · exact .refused hself
  rename_i hfree
  obtain ⟨hnext, hnextBound⟩ := h.nextSequence_eq hfree
  rw [exec_bind_ok (exec_onDir_ok (exec_firstNumber h.faults))]
  cases hfirst : s.dir.segments.lookup (saturatingAdd (lastNumber s.dir) 1) with
  | some =>
    rw [exec_bind_error (exec_onDir_error (exec_createSegment_of_some h.faults hfirst))]
    exact .refused hself
  | none =>
    rw [exec_bind_ok (exec_onDir_ok (exec_createSegment h.faults hfirst))]
    have hwritten :=
      (Writing.start h.faults hfirst).writeEntries h.limit.2 (Nat.min_le_right _ _) _
        (h.valid_retained filter nowMs)
    rw [Layout.numbers_nil, Layout.entries_nil, List.nil_append, List.nil_append,
      List.nil_append] at hwritten
    generalize hrun : Eff.exec _ _ = run at hwritten
    cases hwritten with
    | stopped hgrows =>
      rw [exec_bind_error (exec_onDir_error hrun)]
      exact .refused hgrows
    | done hwriting hentries hle hbound =>
      rename_i current dir layout' tail'
      have hfaults := hwriting.grows.faults
      obtain ⟨dir', hexec, hremoved⟩ := @exec_removeOld s.store.activeSegments
        { dir with index := some (Index.mk 2 current (layout'.numbers ++ [current])).toVec }
        hfaults
      have hcurrent : saturatingAdd (lastNumber s.dir) 1 ≠ 0 := by
        change min (lastNumber s.dir + 1) u64Max ≠ 0
        have hmax : 0 < u64Max := by decide
        omega
      rw [exec_bind_ok (exec_onDir_ok hrun),
        exec_bind_ok (exec_onDir_ok (exec_syncDirectory hfaults)),
        exec_bind_ok (exec_install _ _ _ _ hfaults), exec_bind_ok (exec_onDir_ok hexec),
        exec_bind_ok (exec_onDir_ok (exec_syncDirectory hremoved.faults)), exec_pure]
      refine .rewritten hsome hnext (h.rewritten hwriting hentries hremoved
        (h.increasing_retained filter nowMs hnext) (h.bounded_retained filter nowMs hnextBound)
        (by omega)) rfl ⟨hfirst, hle⟩ ?_ hbound
      intro m hm
      rw [hremoved.segment] at hm
      split at hm
      · exact absurd rfl hm
      · rcases hwriting.only m hm with hbase | hnew
        · exact .inl hbase
        · rcases List.mem_append.1 hnew with hnew | hnew
          · exact .inr (hwriting.le m hnew)
          · exact .inr (Nat.le_of_eq (List.mem_singleton.1 hnew))

end Dashboard
