/-
**Torn tails of the audit store.**

The current segment of a store may have been cut off at any byte. Reading it gives the entries whose
frames are there in full, and where the cut is in the middle of a frame the rest of it is cut off too.
The store that is opened then says so with a record of its own, if there is room for that record.

Main definitions:

* `Dashboard.Continues` — what opening such a directory is to come to.

Main results:

* `Dashboard.exec_readSegment_cut` — **a segment is read up to the cut**;
* `Dashboard.Coherent.recovers_iff` — **and opening goes on exactly if the record has its place**.
-/

import DeviceLane.Dashboard.AuditStale

namespace Dashboard

open Effect AuditStore

variable [Sha256]

/-! ### Reading a segment that has been cut off -/

/-- The entries whose frames end within the first bytes of a segment: the most that do. -/
structure WholeBelow (cut : ℕ) (entries kept : List StoredEntry) : Prop where
  isPrefix : kept <+: entries
  fits : (framesOf kept).length ≤ cut
  most : ∀ other, other <+: entries → (framesOf other).length ≤ cut → other <+: kept

/-- The first bytes of a segment end between two frames. -/
def AtBoundary (cut : ℕ) (entries : List StoredEntry) : Prop :=
  ∃ kept, kept <+: entries ∧ (framesOf kept).length = ((framesOf entries).take cut).length

def keptEntries (cut : ℕ) (entries : List StoredEntry) : List StoredEntry :=
  Frames.below (fun entry => entry.toJson.toVec) cut entries

theorem length_framesOf_cons (entry : StoredEntry) (entries : List StoredEntry) :
    (framesOf (entry :: entries)).length
      = entry.toJson.toVec.length + 36 + (framesOf entries).length := by
  rw [framesOf, List.flatMap_cons, List.length_append, Frames.frame_length]
  rfl

theorem length_framesOf_le {kept entries : List StoredEntry} (h : kept <+: entries) :
    (framesOf kept).length ≤ (framesOf entries).length := by
  obtain ⟨_, rfl⟩ := h
  rw [framesOf_append, List.length_append]
  exact Nat.le_add_right _ _

theorem wholeBelow_keptEntries (cut : ℕ) (entries : List StoredEntry) :
    WholeBelow cut entries (keptEntries cut entries) := by
  refine ⟨Frames.below_isPrefix _ _ _, ?_, ?_⟩
  · induction entries generalizing cut with
    | nil => exact Nat.zero_le _
    | cons entry entries ih =>
      rw [keptEntries, Frames.below]
      split
      · rename_i hle
        have hrest := ih (cut - (entry.toJson.toVec.length + 36))
        rw [length_framesOf_cons]
        rw [keptEntries] at hrest
        omega
      · exact Nat.zero_le _
  · induction entries generalizing cut with
    | nil =>
      intro other hother _
      exact hother
    | cons entry entries ih =>
      intro other hother hfits
      rcases List.prefix_cons_iff.1 hother with rfl | ⟨later, rfl, hlater⟩
      · exact List.nil_prefix
      · rw [length_framesOf_cons] at hfits
        rw [keptEntries, Frames.below, if_pos (by omega)]
        exact List.cons_prefix_cons.2 ⟨rfl, ih _ later hlater (by omega)⟩

/-- The cut is between two frames exactly if the last whole frame ends there. -/
theorem atBoundary_iff (cut : ℕ) (entries : List StoredEntry) :
    AtBoundary cut entries ↔
      ((framesOf entries).take cut).length = (framesOf (keptEntries cut entries)).length := by
  have hwhole := wholeBelow_keptEntries cut entries
  constructor
  · rintro ⟨kept, hprefix, hlength⟩
    have htake : ((framesOf entries).take cut).length ≤ cut := by
      rw [List.length_take]
      exact Nat.min_le_left _ _
    have hle := length_framesOf_le (hwhole.most kept hprefix (hlength ▸ htake))
    have hge : (framesOf (keptEntries cut entries)).length ≤ ((framesOf entries).take cut).length := by
      rw [List.length_take]
      exact Nat.le_min.2 ⟨hwhole.fits, length_framesOf_le hwhole.isPrefix⟩
    omega
  · intro h
    exact ⟨_, hwhole.isPrefix, h.symm⟩

instance (cut : ℕ) (entries : List StoredEntry) : Decidable (AtBoundary cut entries) :=
  decidable_of_iff _ (atBoundary_iff cut entries).symm

theorem framesOf_keptEntries (cut : ℕ) (entries : List StoredEntry) :
    framesOf (keptEntries cut entries)
      = ((framesOf entries).take cut).take (framesOf (keptEntries cut entries)).length := by
  have hwhole := wholeBelow_keptEntries cut entries
  obtain ⟨rest, hrest⟩ := hwhole.isPrefix
  have hframes : framesOf entries = framesOf (keptEntries cut entries) ++ framesOf rest := by
    rw [← framesOf_append, hrest]
  rw [List.take_take, Nat.min_eq_left hwhole.fits, hframes, List.take_left]

/-- What reading a segment that has been cut off is to come to: the entries below the cut are read, and
the segment ends after them if it may be recovered. -/
structure ReadsCut (dir : AuditDir) (number cut : ℕ) (entries kept : List StoredEntry) : Prop where
  recovering : ∃ dir', (readSegment number true).exec dir
      = (.ok (kept, .ok (!decide (AtBoundary cut entries))), dir') ∧
    dir'.faults = [] ∧ dir'.index = dir.index ∧
    ∀ m, dir'.segments.lookup m = if m = number then some (framesOf kept) else dir.segments.lookup m
  strict : (readSegment number false).exec dir
    = (.ok (kept, if AtBoundary cut entries then .ok false else .error .committedCorruption), dir)

theorem scan_cut {entries : List StoredEntry} (hstored : ∀ entry ∈ entries, Stored entry) (cut : ℕ) :
    Frames.scan maxSegmentBytes StoredEntry.fromVec 0 ((framesOf entries).take cut) =
      (keptEntries cut entries,
        if AtBoundary cut entries then .complete
        else .torn (framesOf (keptEntries cut entries)).length) := by
  have hscan := Frames.scan_take_frames (fun entry hentry => (hstored entry hentry).holds) cut 0
  rw [Nat.zero_add] at hscan
  refine hscan.trans (congrArg (Prod.mk _) ?_)
  by_cases h : AtBoundary cut entries
  · exact (if_pos ((atBoundary_iff cut entries).1 h)).trans (if_pos h).symm
  · exact (if_neg fun heq => h ((atBoundary_iff cut entries).2 heq)).trans (if_neg h).symm

/-- **A segment is read up to the cut.** -/
theorem exec_readSegment_cut {dir : AuditDir} {number cut : ℕ} {entries : List StoredEntry}
    (hfaults : dir.faults = []) (hstored : ∀ entry ∈ entries, Stored entry)
    (hsegment : dir.segments.lookup number = some ((framesOf entries).take cut)) :
    ReadsCut dir number cut entries (keptEntries cut entries) := by
  by_cases h : AtBoundary cut entries
  · have hscan := scan_cut hstored cut
    rw [if_pos h] at hscan
    have hread : ∀ allow, (readSegment number allow).exec dir
        = (.ok (keptEntries cut entries, .ok false), dir) := by
      intro allow
      rw [readSegment, exec_bind_ok (exec_readFile hfaults hsegment), hscan]
      rfl
    have hsame : (framesOf entries).take cut = framesOf (keptEntries cut entries) := by
      rw [framesOf_keptEntries, ← (atBoundary_iff cut entries).1 h, List.take_length]
    refine ⟨⟨dir, ?_, hfaults, rfl, ?_⟩, ?_⟩
    · rw [hread, decide_eq_true h]
      rfl
    · intro m
      split
      · rename_i heq
        rw [heq, hsegment, hsame]
      · rfl
    · rw [hread, if_pos h]
  · have hscan := scan_cut hstored cut
    rw [if_neg h] at hscan
    refine ⟨⟨{ dir with
      segments := dir.segments.insert number (framesOf (keptEntries cut entries)) }, ?_, hfaults, rfl,
      ?_⟩, ?_⟩
    · have hset : (setLen number (framesOf (keptEntries cut entries)).length).exec dir = (.ok (),
          { dir with
            segments := dir.segments.insert number (framesOf (keptEntries cut entries)) }) := by
        refine exec_fileCall hfaults ?_
        rw [hsegment]
        dsimp only
        rw [← framesOf_keptEntries]
      rw [readSegment, exec_bind_ok (exec_readFile hfaults hsegment), hscan, decide_eq_false h]
      exact exec_bind_of hset rfl
    · intro m
      exact Map.lookup_insert _ _ _ _
    · rw [readSegment, exec_bind_ok (exec_readFile hfaults hsegment), hscan, if_neg h]
      rfl

/-! ### Opening after a cut -/

def cutDir (s : AuditState) (tail : List StoredEntry) (cut : ℕ) : AuditDir :=
  { s.dir with segments := s.dir.segments.insert s.store.current ((framesOf tail).take cut) }

def keptRecords (layout : Layout) (tail : List StoredEntry) (cut : ℕ) : List AuditRecord :=
  recordsOf (layout.entries ++ keptEntries cut tail)

/-- What opening is to come to: a store with the records that are left, and if the tail was torn with
another one, whose number is greater than theirs. -/
def Continues (records : List AuditRecord) (torn : Prop)
    (run : Except AuditError AuditStore × AuditDir) : Prop :=
  ∃ store dir added, run = (.ok store, dir) ∧ store.records = records ++ added ∧
    (torn → added ≠ []) ∧ ∀ record ∈ records, ∀ new ∈ added, record.sequence < new.sequence

def recoveryLength (redactor : Redactor) (records : List AuditRecord) : ℕ :=
  (StoredEntry.record (redactor.redact (recoveryRecord records))).toJson.toVec.length + 36

/-- There is a place for the record of the recovery: a number, and room in a segment that may be
written. -/
structure RecoveryFits (s : AuditState) (layout : Layout) (tail : List StoredEntry) (cut : ℕ)
    (redactor : Redactor) (limit : ℕ) : Prop where
  numbers : ∀ record ∈ keptRecords layout tail cut, record.sequence < u64Max
  fits : recoveryLength redactor (keptRecords layout tail cut) ≤ limit
  room : s.store.current + 1 ∉ s.store.activeSegments ∨
    (framesOf (keptEntries cut tail)).length
      + recoveryLength redactor (keptRecords layout tail cut) ≤ limit

/-- **What a cut of the current segment is to come to.** -/
structure RecoversTail (s : AuditState) (layout : Layout) (tail : List StoredEntry) (cut : ℕ)
    (retention : RetentionPolicy) (redactor : Redactor) (limit : ℕ) : Prop where
  whole : WholeBelow cut tail (keptEntries cut tail)
  reads : ReadsCut (cutDir s tail cut) s.store.current cut tail (keptEntries cut tail)
  continues : Continues (keptRecords layout tail cut) (¬AtBoundary cut tail)
    ((openWithSegmentLimit retention redactor limit).exec (cutDir s tail cut))

theorem Coherent.withRecovered {s : AuditState} {layout : Layout} {tail : List StoredEntry}
    (h : Coherent s layout tail) (recovered : Bool) :
    Coherent { s with store := { s.store with recovered } } layout tail :=
  ⟨h.faults, h.represents, h.active, h.records, h.tombstones, h.index, h.increasing, h.bounded, h.limit,
    h.current_ne⟩

namespace Coherent

variable {s : AuditState} {layout : Layout} {tail : List StoredEntry} {cut : ℕ}

def cutStore (s : AuditState) (layout : Layout) (tail : List StoredEntry) (cut : ℕ) : AuditStore :=
  { s.store with
    records := keptRecords layout tail cut
    tombstones := tombstonesOf (layout.entries ++ keptEntries cut tail) }

theorem stored_tail (h : Coherent s layout tail) : ∀ entry ∈ tail, Stored entry :=
  h.represents.stored (s.store.current, tail) (List.mem_append_right _ List.mem_cons_self)

/-- **What is left agrees with its directory.** -/
theorem cutOff (h : Coherent s layout tail) {dir : AuditDir} (hfaults : dir.faults = [])
    (hindex : dir.index = s.dir.index)
    (hsegments : ∀ m, dir.segments.lookup m =
      if m = s.store.current then some (framesOf (keptEntries cut tail)) else s.dir.segments.lookup m) :
    Coherent ⟨cutStore s layout tail cut, dir⟩ layout (keptEntries cut tail) where
  faults := hfaults
  represents := by
    have hnodup := h.represents.nodup
    refine ⟨?_, ?_, ?_⟩
    · rw [Layout.numbers_append] at hnodup ⊢
      exact hnodup
    · intro p hp
      rw [hsegments]
      rcases List.mem_append.1 hp with hp | hp
      · have hne : p.1 ≠ s.store.current :=
          fun heq => h.current_notMem (heq ▸ List.mem_map_of_mem hp)
        rw [if_neg hne]
        exact h.represents.segment p (List.mem_append_left _ hp)
      · rw [List.mem_singleton.1 hp]
        exact if_pos rfl
    · intro p hp entry hentry
      rcases List.mem_append.1 hp with hp | hp
      · exact h.represents.stored p (List.mem_append_left _ hp) entry hentry
      · rw [List.mem_singleton.1 hp] at hentry
        exact h.stored_tail entry ((wholeBelow_keptEntries cut tail).isPrefix.mem hentry)
  active := h.active
  records := rfl
  tombstones := rfl
  index := hindex.trans h.index
  increasing := by
    have hsub : keptRecords layout tail cut <+: s.store.records := by
      rw [h.records, keptRecords, recordsOf_append, recordsOf_append]
      exact (List.prefix_append_right_inj _).2
        ((wholeBelow_keptEntries cut tail).isPrefix.filterMap _)
    exact h.increasing.sublist (hsub.sublist.map _)
  bounded := by
    intro record hrecord
    refine h.bounded record ?_
    rw [h.records, mem_recordsOf]
    have hmem := mem_recordsOf.1 hrecord
    rcases List.mem_append.1 hmem with hmem | hmem
    · exact List.mem_append_left _ hmem
    · exact List.mem_append_right _ ((wholeBelow_keptEntries cut tail).isPrefix.mem hmem)
  limit := h.limit
  current_ne := h.current_ne

theorem lookup_cutDir (s : AuditState) (tail : List StoredEntry) (cut m : ℕ) :
    (cutDir s tail cut).segments.lookup m =
      if m = s.store.current then some ((framesOf tail).take cut) else s.dir.segments.lookup m :=
  Map.lookup_insert _ _ _ _

theorem exec_readActive_cut (h : Coherent s layout tail) (cut : ℕ) :
    ∃ dir, (readActive s.store.current s.store.activeSegments).exec (cutDir s tail cut) =
        (.ok (layout.entries ++ keptEntries cut tail, !decide (AtBoundary cut tail)), dir) ∧
      dir.faults = [] ∧ dir.index = s.dir.index ∧
      ∀ m, dir.segments.lookup m =
        if m = s.store.current then some (framesOf (keptEntries cut tail))
        else s.dir.segments.lookup m := by
  have hlayout : Represents (cutDir s tail cut) layout := by
    have hleft := h.represents.of_append_left
    refine ⟨hleft.nodup, ?_, hleft.stored⟩
    intro p hp
    have hne : p.1 ≠ s.store.current := fun heq => h.current_notMem (heq ▸ List.mem_map_of_mem hp)
    rw [lookup_cutDir, if_neg hne]
    exact hleft.segment p hp
  have hsegment : (cutDir s tail cut).segments.lookup s.store.current
      = some ((framesOf tail).take cut) := by
    rw [lookup_cutDir, if_pos rfl]
  obtain ⟨dir, hread, hfaults, hindex, hsegments⟩ :=
    (@exec_readSegment_cut _ (cutDir s tail cut) _ _ _ h.faults h.stored_tail hsegment).recovering
  have hthere : ¬(cutDir s tail cut).segments.lookup s.store.current = none := by
    rw [hsegment]
    exact Option.some_ne_none _
  have hlast : (readActive s.store.current [s.store.current]).exec (cutDir s tail cut) =
      (.ok (keptEntries cut tail, !decide (AtBoundary cut tail)), dir) := by
    rw [readActive]
    refine exec_bind_of (exec_get _) <| exec_bind_of (exec_throwIf_of_not hthere _ _) ?_
    rw [decide_eq_true rfl]
    refine exec_bind_of hread ?_
    dsimp only
    rw [exec_orThrow_bind]
    refine exec_bind_of rfl ?_
    dsimp only
    rw [List.append_nil, Bool.or_false]
    rfl
  refine ⟨dir, ?_, hfaults, hindex, ?_⟩
  · rw [h.active]
    exact exec_readActive_append _ h.faults hlayout hlast
  · intro m
    rw [hsegments m, lookup_cutDir]
    split <;> rfl

def openedCut (s : AuditState) (layout : Layout) (tail : List StoredEntry) (cut : ℕ)
    (retention : RetentionPolicy) (redactor : Redactor) (limit : ℕ) : AuditStore :=
  { openedStore retention redactor limit s.store.current s.store.activeSegments
      (layout.entries ++ keptEntries cut tail) with
    recovered := !decide (AtBoundary cut tail) }

/-- **Opening after a cut** comes down to appending the record of the recovery. -/
theorem exec_open_cut (h : Coherent s layout tail) (cut : ℕ) (retention : RetentionPolicy)
    (redactor : Redactor) {limit : ℕ} (hlimit : 0 < limit ∧ limit ≤ maxSegmentBytes) :
    ∃ dir, Coherent ⟨openedCut s layout tail cut retention redactor limit, dir⟩ layout
        (keptEntries cut tail) ∧
      (dir.segments.lookup (s.store.current + 1) = none ↔
        s.store.current + 1 ∉ s.store.activeSegments) ∧
      (openWithSegmentLimit retention redactor limit).exec (cutDir s tail cut) =
        (withStore (openedCut s layout tail cut retention redactor limit)
          (onlyIf ((!decide (AtBoundary cut tail)) = true)
            (AuditStore.append (recoveryRecord (keptRecords layout tail cut))))).exec dir := by
  obtain ⟨dir₁, hread, hfaults, hindex, hsegments⟩ := h.exec_readActive_cut cut
  have hcut : Coherent ⟨cutStore s layout tail cut, dir₁⟩ layout (keptEntries cut tail) :=
    h.cutOff hfaults hindex hsegments
  -- the segments that do not count
  obtain ⟨dir, hremove, hremoved⟩ := @exec_removeFiles (orphans ⟨s.store, cutDir s tail cut⟩) dir₁ (by
      refine List.Nodup.filter _ ?_
      exact (List.mergeSort_perm _ _).nodup_iff.2 (cutDir s tail cut).segments.nodup_keys)
    hfaults (by
      intro m hm
      obtain ⟨bytes, hbytes⟩ := Map.mem_keys.1 (List.mem_mergeSort.1 (List.mem_of_mem_filter hm))
      rw [lookup_cutDir] at hbytes
      rw [hsegments]
      split at hbytes
      · rename_i heq
        rw [if_pos heq]
        exact Option.some_ne_none _
      · rename_i hne
        rw [if_neg hne, hbytes]
        exact Option.some_ne_none _)
  have hopened := (hcut.opened_of_removed hremoved (by
    intro m hm
    have hnot := List.of_mem_filter hm
    simp only [decide_not, Bool.not_eq_true', decide_eq_false_iff_not] at hnot
    exact hnot) retention redactor hlimit).withRecovered (!decide (AtBoundary cut tail))
  refine ⟨dir, hopened, ?_, ?_⟩
  · have hnext : dir₁.segments.lookup (s.store.current + 1)
        = s.dir.segments.lookup (s.store.current + 1) := by
      rw [hsegments, if_neg (Nat.succ_ne_self _)]
    rw [hremoved.segment]
    constructor
    · intro hnone hactive
      rw [if_neg fun hm => ?_, hnext] at hnone
      · rw [h.numbers_eq] at hactive
        obtain ⟨p, hp, hpm⟩ := List.mem_map.1 hactive
        rw [← hpm, h.represents.segment p hp] at hnone
        cases hnone
      · have hnot := List.of_mem_filter hm
        simp only [decide_not, Bool.not_eq_true', decide_eq_false_iff_not] at hnot
        exact hnot hactive
    · intro hactive
      split
      · rfl
      · rename_i hm
        rw [hnext]
        by_contra hsome
        obtain ⟨bytes, hbytes⟩ := Option.ne_none_iff_exists'.1 hsome
        refine hm (List.mem_filter.2 ⟨List.mem_mergeSort.2 (Map.mem_keys.2 ⟨bytes, ?_⟩), ?_⟩)
        · rw [lookup_cutDir, if_neg (Nat.succ_ne_self _), hbytes]
        · exact decide_eq_true hactive
  · exact h.exec_open_of hlimit hread h.faults rfl hcut.increasing hremove hremoved.faults rfl
      hopened.exec_ensureCurrent

/-! ### The record of the recovery -/

omit [Sha256] in
theorem exec_withStore_of {store : AuditStore} {s' : AuditState} {dir : AuditDir}
    {m : Eff AuditState AuditError Unit} {r : Except AuditError Unit}
    (h : m.exec ⟨store, dir⟩ = (r, s')) :
    (withStore store m).exec dir = (r.map fun _ => s'.store, s'.dir) := by
  rw [withStore, exec_ofRun, h]

variable {retention : RetentionPolicy} {redactor : Redactor} {limit : ℕ}

omit [Sha256] in
theorem sequence_recoveryRecord {records : List AuditRecord}
    (hbound : ∀ record ∈ records, record.sequence ≤ u64Max) :
    (∀ record ∈ records, record.sequence < u64Max) ↔
      ∀ record ∈ records, record.sequence < (recoveryRecord records).sequence := by
  have hall := (le_foldl_max (records.map (·.sequence)) 0).2
  have hvalue : (recoveryRecord records).sequence
      = ((records.map (·.sequence)).foldl max 0 + 1) % 2 ^ 64 := rfl
  have hmax : u64Max = 2 ^ 64 - 1 := rfl
  have hle : ∀ record ∈ records, record.sequence ≤ (records.map (·.sequence)).foldl max 0 :=
    fun record hrecord => hall _ (List.mem_map_of_mem hrecord)
  constructor
  · intro hlt record hrecord
    have hrecord_le := hle record hrecord
    have hgreatest : (records.map (·.sequence)).foldl max 0 < u64Max := by
      rcases foldl_max_mem (records.map (·.sequence)) 0 with hzero | hmem
      · omega
      · obtain ⟨greatest, hgreatest, heq⟩ := List.mem_map.1 hmem
        rw [← heq]
        exact hlt greatest hgreatest
    rw [hvalue, Nat.mod_eq_of_lt (by omega)]
    omega
  · intro hlt record hrecord
    by_contra hnot
    have hsequence : record.sequence = u64Max :=
      Nat.le_antisymm (hbound record hrecord) (Nat.not_lt.1 hnot)
    have hgreatest : (records.map (·.sequence)).foldl max 0 = u64Max := by
      refine Nat.le_antisymm ?_ (hsequence ▸ hle record hrecord)
      rcases foldl_max_mem (records.map (·.sequence)) 0 with hzero | hmem
      · omega
      · obtain ⟨greatest, hmem, heq⟩ := List.mem_map.1 hmem
        rw [← heq]
        exact hbound greatest hmem
    have hrecord_lt := hlt record hrecord
    rw [hvalue, hgreatest, hmax] at hrecord_lt
    omega

theorem takes_recoveryRecord {dir : AuditDir}
    (hopened : Coherent ⟨openedCut s layout tail cut retention redactor limit, dir⟩ layout
      (keptEntries cut tail)) :
    Takes (openedCut s layout tail cut retention redactor limit)
        (recoveryRecord (keptRecords layout tail cut)) ↔
      (∀ record ∈ keptRecords layout tail cut, record.sequence < u64Max) ∧
        recoveryLength redactor (keptRecords layout tail cut) ≤ limit := by
  have hbound : ∀ record ∈ keptRecords layout tail cut, record.sequence ≤ u64Max := hopened.bounded
  rw [sequence_recoveryRecord hbound]
  constructor
  · intro htakes
    refine ⟨?_, htakes.fits⟩
    intro record hrecord
    have hle := hopened.sequence_le hrecord
    cases hlast : (keptRecords layout tail cut).getLast? with
    | none =>
      rw [List.getLast?_eq_none_iff.1 hlast] at hrecord
      cases hrecord
    | some last =>
      refine Nat.lt_of_le_of_lt hle ?_
      have hsequence : lastSequence (openedCut s layout tail cut retention redactor limit)
          = last.sequence := by
        rw [lastSequence]
        change ((keptRecords layout tail cut).getLast?.map _).getD 0 = _
        rw [hlast]
        rfl
      rw [hsequence]
      exact htakes.sequence last hlast
  · rintro ⟨hlt, hfits⟩
    exact
      { available := rfl
        sequence := fun record hrecord => hlt record (List.mem_of_getLast? hrecord)
        valid := rfl
        fits := hfits }

theorem overflows_recoveryRecord (dir : AuditDir) :
    Overflows ⟨openedCut s layout tail cut retention redactor limit, dir⟩ (keptEntries cut tail)
        (redactor.redact (recoveryRecord (keptRecords layout tail cut))) ↔
      limit < (framesOf (keptEntries cut tail)).length
        + recoveryLength redactor (keptRecords layout tail cut) := by
  constructor
  · rintro (hlarge | ⟨old, hold, hne⟩)
    · exact hlarge
    · refine absurd ?_ hne
      obtain ⟨_, hlast, rfl⟩ := Option.map_eq_some_iff.1 hold
      change _ = ((keptRecords layout tail cut).getLast?.map (·.occurredAtMs)).getD 0 / dayMs
      rw [keptRecords, hlast]
      rfl
  · exact .inl

/-- **Opening goes on exactly if the record of the recovery has its place.** -/
theorem continues_iff (h : Coherent s layout tail) (cut : ℕ) (retention : RetentionPolicy)
    (redactor : Redactor) {limit : ℕ} (hlimit : 0 < limit ∧ limit ≤ maxSegmentBytes) :
    Continues (keptRecords layout tail cut) (¬AtBoundary cut tail)
        ((openWithSegmentLimit retention redactor limit).exec (cutDir s tail cut)) ↔
      AtBoundary cut tail ∨ RecoveryFits s layout tail cut redactor limit := by
  obtain ⟨dir, hopened, hnext, hexec⟩ := h.exec_open_cut cut retention redactor hlimit
  rw [hexec]
  by_cases hboundary : AtBoundary cut tail
  · refine iff_of_true ?_ (.inl hboundary)
    rw [decide_eq_true hboundary]
    exact ⟨_, dir, [], rfl, (List.append_nil _).symm, fun htorn => absurd hboundary htorn,
      fun _ _ _ hnew => absurd hnew List.not_mem_nil⟩
  have htorn : (!decide (AtBoundary cut tail)) = true := by rw [decide_eq_false hboundary]; rfl
  -- opening ends as appending the record does
  have hrefused : ∀ (error : AuditError) s',
      (AuditStore.append (recoveryRecord (keptRecords layout tail cut))).exec
        ⟨openedCut s layout tail cut retention redactor limit, dir⟩ = (.error error, s') →
      ¬Continues (keptRecords layout tail cut) (¬AtBoundary cut tail)
        ((withStore (openedCut s layout tail cut retention redactor limit)
          (onlyIf ((!decide (AtBoundary cut tail)) = true)
            (AuditStore.append (recoveryRecord (keptRecords layout tail cut))))).exec dir) := by
    rintro error s' hrun ⟨store, dir', added, hopen, -⟩
    rw [exec_withStore_of ((exec_onlyIf_of htorn _ _).trans hrun)] at hopen
    cases hopen
  have hwritten : ∀ s', (AuditStore.append (recoveryRecord (keptRecords layout tail cut))).exec
        ⟨openedCut s layout tail cut retention redactor limit, dir⟩ = (.ok (), s') →
      s'.store.records = keptRecords layout tail cut
        ++ [redactor.redact (recoveryRecord (keptRecords layout tail cut))] →
      (∀ record ∈ keptRecords layout tail cut, record.sequence < u64Max) →
      Continues (keptRecords layout tail cut) (¬AtBoundary cut tail)
        ((withStore (openedCut s layout tail cut retention redactor limit)
          (onlyIf ((!decide (AtBoundary cut tail)) = true)
            (AuditStore.append (recoveryRecord (keptRecords layout tail cut))))).exec dir) := by
    intro s' hrun hrecords hnumbers
    refine ⟨s'.store, s'.dir, _, ?_, hrecords, fun _ => List.cons_ne_nil _ _, ?_⟩
    · rw [exec_withStore_of ((exec_onlyIf_of htorn _ _).trans hrun)]
      rfl
    · intro record hrecord _ hnew
      rw [List.mem_singleton.1 hnew]
      exact (sequence_recoveryRecord hopened.bounded).1 hnumbers record hrecord
  have hopenedLimit : (openedCut s layout tail cut retention redactor limit).maxSegmentBytes
      ≤ maxSegmentBytes := hlimit.2
  by_cases htakes : Takes (openedCut s layout tail cut retention redactor limit)
      (recoveryRecord (keptRecords layout tail cut))
  · obtain ⟨hnumbers, hfits⟩ := (takes_recoveryRecord hopened).1 htakes
    have happend := @exec_append_of_takes _
      ⟨openedCut s layout tail cut retention redactor limit, dir⟩ _ hopenedLimit htakes
    by_cases hover : Overflows ⟨openedCut s layout tail cut retention redactor limit, dir⟩
        (keptEntries cut tail) (redactor.redact (recoveryRecord (keptRecords layout tail cut)))
    · cases hlookup : dir.segments.lookup (s.store.current + 1) with
      | none =>
        have hrun := happend.trans
          (exec_orUnavailable_ok (hopened.exec_appendInner_of_overflows hover hlookup))
        exact iff_of_true (hwritten _ hrun rfl hnumbers)
          (.inr ⟨hnumbers, hfits, .inl (hnext.1 hlookup)⟩)
      | some =>
        have hrun := happend.trans
          (exec_orUnavailable_error (hopened.exec_appendInner_of_blocked hover hlookup))
        refine iff_of_false (hrefused _ _ hrun) ?_
        rintro (hat | ⟨-, -, hfree | hroom⟩)
        · exact hboundary hat
        · rw [hnext.2 hfree] at hlookup
          cases hlookup
        · exact Nat.not_lt.2 hroom ((overflows_recoveryRecord dir).1 hover)
    · have hrun := happend.trans
        (exec_orUnavailable_ok (hopened.exec_appendInner_of_room hover))
      refine iff_of_true (hwritten _ hrun rfl hnumbers) (.inr ⟨hnumbers, hfits, .inr ?_⟩)
      exact Nat.not_lt.1 fun hlarge => hover ((overflows_recoveryRecord dir).2 hlarge)
  · obtain ⟨error, hrun, -⟩ := @exec_append_of_not_takes _
      ⟨openedCut s layout tail cut retention redactor limit, dir⟩ _ htakes
    refine iff_of_false (hrefused error _ hrun) ?_
    rintro (hat | hfits)
    · exact hboundary hat
    · exact htakes ((takes_recoveryRecord hopened).2 ⟨hfits.numbers, hfits.fits⟩)

/-- **A cut of the current segment** is recovered exactly if the record of the recovery has its place. -/
theorem recovers_iff (h : Coherent s layout tail) (cut : ℕ) (retention : RetentionPolicy)
    (redactor : Redactor) {limit : ℕ} (hlimit : 0 < limit ∧ limit ≤ maxSegmentBytes) :
    RecoversTail s layout tail cut retention redactor limit ↔
      AtBoundary cut tail ∨ RecoveryFits s layout tail cut redactor limit := by
  have hsegment : (cutDir s tail cut).segments.lookup s.store.current
      = some ((framesOf tail).take cut) := by
    rw [lookup_cutDir, if_pos rfl]
  have hreads := @exec_readSegment_cut _ (cutDir s tail cut) _ _ _ h.faults h.stored_tail hsegment
  have hcontinues := h.continues_iff cut retention redactor hlimit
  exact ⟨fun hrecovers => hcontinues.1 hrecovers.continues,
    fun hfits => ⟨wholeBelow_keptEntries cut tail, hreads, hcontinues.2 hfits⟩⟩

end Coherent

/-! ### A store that goes on, and one that does not -/

namespace AuditStore

/-- A tail is recovered wherever it is cut off. -/
def AlwaysRecovers : Prop :=
  ∀ s layout tail cut retention redactor limit, Coherent s layout tail → 0 < limit →
    limit ≤ Dashboard.maxSegmentBytes → RecoversTail s layout tail cut retention redactor limit

section

omit [Sha256]

theorem keptEntries_of_lt {cut : ℕ} {entry : StoredEntry} {entries : List StoredEntry}
    (h : cut < entry.toJson.toVec.length + 36) : keptEntries cut (entry :: entries) = [] := by
  rw [keptEntries, Frames.below, if_neg (Nat.not_le.2 h)]

theorem recoveryLength_le {records : List AuditRecord}
    (htimes : ∀ record ∈ records, record.occurredAtMs ≤ u64Max) (redactor : Redactor) :
    recoveryLength redactor records ≤ Dashboard.maxSegmentBytes := by
  have hsequence : (recoveryRecord records).sequence ≤ u64Max :=
    Nat.le_of_lt_succ (Nat.mod_lt _ (Nat.two_pow_pos 64))
  have htime : (recoveryRecord records).occurredAtMs ≤ u64Max := by
    change (records.getLast?.map (·.occurredAtMs)).getD 0 ≤ u64Max
    cases hlast : records.getLast? with
    | none => exact Nat.zero_le _
    | some last => exact htimes last (List.mem_of_getLast? hlast)
  have hsize := @AuditRecord.length_toJson_le (redactor.redact (recoveryRecord records))
    ⟨hsequence, htime⟩ rfl (Redactor.validMessage_redact _ _)
  have hmax : Dashboard.maxSegmentBytes = 67108864 := rfl
  rw [recoveryLength, StoredEntry.toJson]
  omega

theorem recoveryLength_pos (redactor : Redactor) (records : List AuditRecord) :
    0 < recoveryLength redactor records := by
  rw [recoveryLength]
  omega

end

theorem recorded_current (record : AuditRecord) (s : AuditState) (bytes : List UInt8) :
    (recorded record s bytes).store.current = s.store.current := rfl

theorem recorded_activeSegments (record : AuditRecord) (s : AuditState) (bytes : List UInt8) :
    (recorded record s bytes).store.activeSegments = s.store.activeSegments := rfl

omit [Sha256] in
theorem sampleState_recovers : letI := sampleHash
    RecoversTail sampleState [] [.record sampleRecord] 1 samplePolicy ⟨[]⟩ Dashboard.maxSegmentBytes := by
  let _ := sampleHash
  have hkept : keptRecords [] [.record sampleRecord] 1 = [] := by
    rw [keptRecords, keptEntries_of_lt (Nat.le_add_left 2 _)]
    rfl
  have hnone : ∀ P : AuditRecord → Prop, ∀ record ∈ keptRecords [] [.record sampleRecord] 1, P record := by
    intro P record hrecord
    rw [hkept] at hrecord
    exact absurd hrecord List.not_mem_nil
  refine (coherent_sampleState.recovers_iff 1 samplePolicy ⟨[]⟩ limit_max).2 (.inr ?_)
  exact ⟨hnone _, recoveryLength_le (hnone _) _, .inl (by decide : 2 ∉ [1])⟩

def retiredState : AuditState := ((enforceRetention sampleNow).exec sampleState).2

theorem retiredState_next : (∃ layout, Coherent retiredState layout []) ∧
    retiredState.store.records = [] ∧
    retiredState.store.current + 1 ∈ retiredState.store.activeSegments := by
  obtain ⟨hok, hnone⟩ := enforceRetention_sampleState
  have hempty : retiredState.store.records = [] := by
    rw [retiredState]
    exact hnone
  refine ⟨?_, hempty, ?_⟩
  · have henforced := coherent_sampleState.enforceRetention sampleNow
    rw [retiredState]
    generalize (enforceRetention sampleNow).exec sampleState = run at henforced hok
    cases henforced with
    | idle hnot => exact absurd expires_sampleState hnot
    | blocked | stopped => cases hok
    | compacted _ hcoherent => exact ⟨_, hcoherent⟩
  · have hrun : (enforceRetention sampleNow).exec sampleState = (.ok (), retiredState) :=
      exec_eq_of_fst hok
    rcases exec_enforceRetention_inv hrun with ⟨hidle, -⟩ | ⟨-, s₁, hrotate, hsealed⟩
    · exact absurd expires_sampleState hidle
    · have hrotated := hrotate.symm.trans
        (exec_rotate coherent_sampleState.faults tidy_sampleState.next_free)
      obtain rfl : s₁ = rotated sampleState := congrArg Prod.snd hrotated
      obtain ⟨hlisted, -, -⟩ :=
        listed_of_rotate (@agrees_of_coherent _ _ 0 _ _ coherent_sampleState).1 hrotate
      obtain ⟨acc, _, hs⟩ := sealed_of_ok hlisted hsealed
      have hstart := hs.sifted.start_le
      have hlast := tidy_sampleState.lastNumber_rotated
      have hcurrent : (rotated sampleState).store.current = sampleState.store.current + 1 := rfl
      rw [hs.store]
      change (rotated sampleState).store.current + 1 ∈ acc.newActive ++ [acc.nextNumber, _]
      rw [hcurrent, ← hlast]
      rcases Nat.eq_or_lt_of_le hstart with heq | hlt
      · rw [heq]
        exact List.mem_append_right _ List.mem_cons_self
      · exact List.mem_append_left _ (hs.sifted.fresh _ (Nat.le_refl _) hlt)

def laterRecord : AuditRecord := (Redactor.mk []).redact { lateRaw with sequence := 3 }

omit [Sha256] in
theorem stored_laterRecord : Stored (.record laterRecord) := by
  have hvalid : (StoredEntry.record laterRecord).Valid :=
    ⟨rfl, Redactor.validMessage_redact _ _⟩
  have hsize : laterRecord.toJson.toVec.length ≤ 2 ^ 19 :=
    AuditRecord.length_toJson_le ⟨by decide, by decide⟩ rfl hvalid.2
  have hmax : Dashboard.maxSegmentBytes = 67108864 := rfl
  refine ⟨hvalid, ?_⟩
  rw [StoredEntry.toJson]
  omega

def busyState : AuditState :=
  recorded laterRecord (recorded lateRecord retiredState (framesOf []))
    (framesOf ([] ++ [.record lateRecord]))

theorem coherent_busyState {layout : Layout} (h : Coherent retiredState layout []) :
    Coherent busyState layout ([] ++ [.record lateRecord] ++ [.record laterRecord]) := by
  obtain ⟨-, hempty, -⟩ := retiredState_next
  have hlate := h.recorded stored_lateRecord (by
    intro last hlast
    rw [hempty] at hlast
    cases hlast) (by decide)
  refine hlate.recorded stored_laterRecord ?_ (by decide)
  intro last hlast
  have hrecords : (recorded lateRecord retiredState (framesOf [])).store.records = [lateRecord] := by
    change retiredState.store.records ++ [lateRecord] = _
    rw [hempty, List.nil_append]
  rw [hrecords] at hlast
  cases hlast
  decide

def intoSecond (entry : StoredEntry) : ℕ := entry.toJson.toVec.length + 36 + 1

omit [Sha256] in
theorem keptEntries_intoSecond (entry later : StoredEntry) :
    keptEntries (intoSecond entry) ([] ++ [entry] ++ [later]) = [entry] := by
  have hfits : entry.toJson.toVec.length + 36 ≤ intoSecond entry := Nat.le_add_right _ 1
  have hone : intoSecond entry - (entry.toJson.toVec.length + 36) = 1 := Nat.add_sub_cancel_left _ 1
  have hlater : keptEntries 1 [later] = [] := keptEntries_of_lt (Nat.le_add_left 2 _)
  rw [List.nil_append, List.singleton_append, keptEntries, Frames.below, if_pos hfits, hone]
  rw [keptEntries] at hlater
  rw [hlater]

theorem not_atBoundary_intoSecond (entry later : StoredEntry) :
    ¬AtBoundary (intoSecond entry) ([] ++ [entry] ++ [later]) := by
  intro hat
  have hlength := (atBoundary_iff _ _).1 hat
  have htotal : (framesOf ([] ++ [entry] ++ [later])).length
      = entry.toJson.toVec.length + 36 + (later.toJson.toVec.length + 36) := by
    rw [List.nil_append, framesOf_append, List.length_append, framesOf_singleton, framesOf_singleton,
      Frames.frame_length, Frames.frame_length]
  rw [keptEntries_intoSecond, framesOf_singleton, Frames.frame_length, List.length_take, htotal,
    intoSecond] at hlength
  omega

omit [Sha256] in
/-- **A tail that is torn after a retention may not be recovered**: the record of the recovery needs a
new segment, and the number of that segment is taken. -/
theorem not_alwaysRecovers : ¬∃ _ : Sha256, AlwaysRecovers := by
  rintro ⟨_, hclaim⟩
  obtain ⟨⟨layout, hcoherent⟩, hempty, hnext⟩ := retiredState_next
  have hbusy := coherent_busyState hcoherent
  have hrecords := hcoherent.records
  rw [hempty, List.append_nil] at hrecords
  have hkept : keptRecords layout ([] ++ [.record lateRecord] ++ [.record laterRecord])
      (intoSecond (.record lateRecord)) = [lateRecord] := by
    rw [keptRecords, keptEntries_intoSecond, recordsOf_append, ← hrecords]
    rfl
  have hpos : 0 < recoveryLength ⟨[]⟩ [lateRecord] := recoveryLength_pos _ _
  have hle : recoveryLength ⟨[]⟩ [lateRecord] ≤ Dashboard.maxSegmentBytes := by
    refine recoveryLength_le ?_ _
    intro record hrecord
    rw [List.mem_singleton.1 hrecord]
    decide
  have hrecovers := hclaim busyState layout _ (intoSecond (.record lateRecord)) samplePolicy ⟨[]⟩
    (recoveryLength ⟨[]⟩ [lateRecord]) hbusy hpos hle
  have hcontinues := hbusy.continues_iff (intoSecond (.record lateRecord)) samplePolicy ⟨[]⟩
    ⟨hpos, hle⟩
  rcases hcontinues.1 hrecovers.continues with hat | ⟨-, -, hfree | hroom⟩
  · exact not_atBoundary_intoSecond _ _ hat
  · rw [busyState, recorded_current, recorded_current, recorded_activeSegments,
      recorded_activeSegments] at hfree
    exact hfree hnext
  · rw [keptEntries_intoSecond, hkept, framesOf_singleton, Frames.frame_length] at hroom
    omega

end AuditStore

end Dashboard
