/-
**A store that has lost a record.**

An append that fails after its frame has reached the segment leaves a record on disk that is not in
memory. The store is not available any more, and is not asked; but retention does not look at that, and
brings the record back.

Main definitions:

* `Dashboard.AuditStore.lateRaw`, `Dashboard.AuditStore.staleState` — such an append, and what it leaves.

Main results:

* `Dashboard.AuditStore.not_alwaysRetains` — **and is not exact**.
-/

import DeviceLane.Dashboard.AuditExpiry
import DeviceLane.Dashboard.AuditRuns

namespace Dashboard

namespace AuditStore

open Effect

variable [Sha256]

/-! ### An append that fails after its frame has been written -/

omit [Sha256] in
theorem exec_fileCall_of_none {α : Type}
    {effect : Option ℕ → AuditDir → Except AuditError (α × AuditDir)} {dir dir' : AuditDir} {a : α}
    {faults : List (Option IoFault)} (hfaults : dir.faults = none :: faults)
    (h : effect none { dir with faults } = .ok (a, dir')) :
    (fileCall effect).exec dir = (.ok a, dir') := by
  rw [fileCall, exec_ofRun, hfaults]
  dsimp only
  rw [h]

def lateRaw : RawAuditRecord := { sampleRaw with sequence := 2, occurredAtMs := dayMs }

def lateRecord : AuditRecord := (Redactor.mk []).redact lateRaw

/-- The store with the sample, and the faults that appending the late record meets: its frame is
written, but the call fails all the same. -/
def faultyState : AuditState :=
  { sampleState with
    dir :=
      { sampleState.dir with
        faults := [none, none, none, none,
          some (.interrupted (Frames.frame (StoredEntry.record lateRecord).toJson.toVec).length)] } }

def staleState : AuditState :=
  { store := { (rotated sampleState).store with available := false }
    dir := (recorded lateRecord (rotated sampleState) []).dir }

omit [Sha256] in
theorem stored_lateRecord : Stored (.record lateRecord) := by
  have hvalid : (StoredEntry.record lateRecord).Valid :=
    ⟨rfl, Redactor.validMessage_redact _ _⟩
  have hsize : lateRecord.toJson.toVec.length ≤ 2 ^ 19 :=
    AuditRecord.length_toJson_le ⟨by decide, by decide⟩ rfl hvalid.2
  have hmax : Dashboard.maxSegmentBytes = 67108864 := rfl
  refine ⟨hvalid, ?_⟩
  rw [StoredEntry.toJson]
  omega

theorem takes_lateRaw : Takes faultyState.store lateRaw where
  available := rfl
  sequence := by
    intro _ hrecord
    have hlast : faultyState.store.records.getLast? = some sampleRecord := rfl
    rw [hlast] at hrecord
    cases hrecord
    decide
  valid := rfl
  fits := by
    have hrecord : faultyState.store.redactor.redact lateRaw = lateRecord := rfl
    have hmax : faultyState.store.maxSegmentBytes = Dashboard.maxSegmentBytes := rfl
    rw [hrecord, hmax]
    exact stored_lateRecord.fits

omit [Sha256] in
theorem exec_rotate_of_none {s : AuditState} {faults : List (Option IoFault)}
    (hfaults : s.dir.faults = [none, none, none] ++ faults)
    (hnew : s.dir.segments.lookup (s.store.current + 1) = none) :
    rotate.exec s = (.ok (), ⟨(rotated s).store, { (rotated s).dir with faults }⟩) := by
  have hcreate : (createSegment (s.store.current + 1)).exec s.dir = (.ok (),
      { s.dir with
        segments := s.dir.segments.insert (s.store.current + 1) []
        faults := [none, none] ++ faults }) := by
    refine exec_fileCall_of_none hfaults ?_
    dsimp only
    rw [hnew]
    rfl
  rw [rotate]
  exact exec_bind_of (exec_get s) <| exec_bind_of (exec_onDir_ok hcreate) <|
    exec_bind_of (exec_onDir_ok (exec_fileCall_of_none rfl rfl)) <| exec_bind_of (exec_update _ _) <|
    exec_bind_of (exec_get _) (exec_onDir_ok (exec_fileCall_of_none rfl rfl))

/-- **The append fails, and leaves the stale store.** -/
theorem exec_append_lateRaw : (append lateRaw).exec faultyState = (.error .io, staleState) := by
  have hnext := tidy_sampleState.next_free
  have hrotated := coherent_sampleState.rotated hnext
  have hlen : (segmentLen sampleState.store.current).exec faultyState.dir
      = (.ok (framesOf [.record sampleRecord]).length,
        { faultyState.dir with faults := faultyState.dir.faults.tail }) := by
    refine exec_fileCall_of_none rfl ?_
    dsimp only
    have hcurrent := coherent_sampleState.current_segment
    change faultyState.dir.segments.lookup sampleState.store.current = _ at hcurrent
    rw [hcurrent]
    rfl
  have hday : faultyState.store.needsSegment (framesOf [.record sampleRecord]).length
      ((StoredEntry.record lateRecord).toJson.toVec.length + 36) (lateRecord.occurredAtMs / dayMs) :=
    .inr ⟨0, rfl, by decide⟩
  have hrotate : rotate.exec ⟨sampleState.store,
      { faultyState.dir with faults := faultyState.dir.faults.tail }⟩
      = (.ok (), ⟨(rotated sampleState).store, { (rotated sampleState).dir with
          faults := [some (.interrupted
            (Frames.frame (StoredEntry.record lateRecord).toJson.toVec).length)] }⟩) :=
    exec_rotate_of_none rfl hnext
  have happend : (appendFrame (rotated sampleState).store.current
      (StoredEntry.record lateRecord).toJson.toVec).exec
      { (rotated sampleState).dir with
        faults := [some (.interrupted
          (Frames.frame (StoredEntry.record lateRecord).toJson.toVec).length)] }
      = (.error .io, (recorded lateRecord (rotated sampleState) []).dir) := by
    have hcurrent := hrotated.current_segment
    rw [appendFrame, fileCall, exec_ofRun]
    dsimp only
    rw [hcurrent]
    simp only [Option.getD_some, List.take_length]
    rfl
  have hinner : (appendInner lateRecord (StoredEntry.record lateRecord).toJson.toVec
      ((StoredEntry.record lateRecord).toJson.toVec.length + 36)).exec faultyState
      = (.error .io,
        ⟨(rotated sampleState).store, (recorded lateRecord (rotated sampleState) []).dir⟩) :=
    exec_bind_of (exec_get faultyState) <| exec_bind_of (exec_onDir_ok hlen) <|
      exec_bind_of ((exec_onlyIf_of hday _ _).trans hrotate) <| exec_bind_of (exec_get _) <|
      exec_bind_error (exec_onDir_error happend)
  rw [exec_append_of_takes (Nat.le_refl _) takes_lateRaw]
  exact exec_orUnavailable_error hinner

/-! ### Retention of the stale store -/

theorem represents_staleState :
    Represents staleState.dir [(1, [.record sampleRecord]), (2, [.record lateRecord])] := by
  have hrotated := coherent_sampleState.rotated tidy_sampleState.next_free
  have hfull := hrotated.recorded stored_lateRecord (by
    intro _ hlast
    have hsample : (rotated sampleState).store.records.getLast? = some sampleRecord := rfl
    rw [hsample] at hlast
    cases hlast
    decide) (by decide)
  exact hfull.represents

theorem next_free_staleState : staleState.dir.segments.lookup (staleState.store.current + 1) = none := rfl

theorem represents_rotated :
    Represents (rotated staleState).dir
      [(1, [.record sampleRecord]), (2, [.record lateRecord]), (3, [])] := by
  have hcreate := represents_staleState.create rfl next_free_staleState
  exact ⟨hcreate.nodup, hcreate.segment, hcreate.stored⟩

theorem exec_compactSegments_stale {dir : AuditDir} {limit start : ℕ} (hfaults : dir.faults = [])
    (hrepresents : Represents dir [(1, [.record sampleRecord]), (2, [.record lateRecord])]) :
    (compactSegments limit dayMs [1, 2] ⟨start, [], [], [], []⟩).exec dir =
      (.ok ⟨start, [2], [segmentSummary 1 (framesOf [.record sampleRecord])], [], [sampleRecord]⟩,
        dir) := by
  have hfirst := hrepresents.segment (1, [.record sampleRecord]) List.mem_cons_self
  have hsecond := hrepresents.segment (2, [.record lateRecord])
    (List.mem_cons_of_mem _ List.mem_cons_self)
  have hone := @exec_compactSegments_sample _ dir limit start hfaults hfirst
  rw [compactSegments] at hone
  obtain ⟨_, _, hone, hnil⟩ := exec_bind_inv hone
  cases hnil
  have hread : (readSegment 2 false).exec dir = (.ok ([.record lateRecord], .ok false), dir) := by
    refine exec_readSegment hfaults hsecond ?_
    intro _ hentry
    rw [List.mem_singleton.1 hentry]
    exact stored_lateRecord.holds
  have hlive : (recordsOf [.record lateRecord]).filter (fun record => record.occurredAtMs < dayMs)
      = [] := by
    refine List.filter_eq_nil_iff.2 ?_
    intro record hrecord
    rw [List.mem_singleton.1 hrecord]
    decide
  have hkeep : (compactSegment limit dayMs 2
      ⟨start, [], [segmentSummary 1 (framesOf [.record sampleRecord])], [], [sampleRecord]⟩).exec dir =
      (.ok ⟨start, [2], [segmentSummary 1 (framesOf [.record sampleRecord])], [], [sampleRecord]⟩,
        dir) := by
    rw [compactSegment, exec_bind_ok hread]
    dsimp only
    rw [hlive, exec_bind_ok (exec_orThrow _ _ dir), exec_ite, if_pos rfl]
    rfl
  exact exec_bind_of hone (exec_bind_of hkeep rfl)

/-- **Retention succeeds in the stale store.** -/
theorem enforceRetention_staleState : ∃ s', (enforceRetention sampleNow).exec staleState = (.ok (), s') := by
  have hcutoff : staleState.store.retentionCutoff sampleNow = dayMs :=
    (by decide : 2 * dayMs - 1 * dayMs = dayMs)
  have hexpires : staleState.store.Expires sampleNow :=
    ⟨sampleRecord, List.mem_singleton_self _, (by decide : 0 < 2 * dayMs - 1 * dayMs)⟩
  have hrepresents := represents_rotated
  have hboth : Represents (rotated staleState).dir
      ([(1, [.record sampleRecord]), (2, [.record lateRecord])] ++ [(3, [])]) := hrepresents
  have hrest : Represents (rotated staleState).dir
      ([(1, [.record sampleRecord])] ++ ([(2, [.record lateRecord])] ++ [(3, [])])) := hrepresents
  have hlate := hrest.of_append_right.of_append_left
  have hsealed := hrest.of_append_right.of_append_right
  have hfaults : (rotated staleState).dir.faults = [] := rfl
  have hfree : ∀ m, lastNumber (rotated staleState).dir + 1 ≤ m →
      (rotated staleState).dir.segments.lookup m = none := by
    intro m hm
    by_contra hsome
    exact absurd (le_lastNumber hsome) (Nat.not_le.2 hm)
  have hnew := hfree _ (Nat.le_refl _)
  have hcompact := @exec_compactSegments_stale _ (rotated staleState).dir
    (rotated staleState).store.maxSegmentBytes (lastNumber (rotated staleState).dir + 1) hfaults
    hboth.of_append_left
  rcases @exec_writeTombstone _ (rotated staleState).store _ _ sampleSummary hfaults (Nat.le_refl _)
    hnew with ⟨-, hlarge⟩ | ⟨dir', htombstone, hwriting⟩
  · exact absurd length_sampleSummary (Nat.not_le.2 hlarge)
  have hgrows := hwriting.grows
  have hfirst : dir'.segments.lookup 1 ≠ none := by
    rw [hgrows.segment _ _ (hrepresents.segment (1, [.record sampleRecord]) List.mem_cons_self)]
    exact Option.some_ne_none _
  have hlater : ∀ m ∈ [2, 3], m ≠ lastNumber (rotated staleState).dir + 1 := by
    rintro m hm rfl
    have hmem : lastNumber (rotated staleState).dir + 1 ∈ [1, 2, 3] := List.mem_cons_of_mem _ hm
    exact hrepresents.notMem hnew hmem
  have hlayout : Represents dir' ([(2, [.record lateRecord])] ++
      [(lastNumber (rotated staleState).dir + 1, [.retentionTombstone sampleSummary])] ++ [(3, [])]) := by
    refine ((hlate.extend hgrows).append hwriting.represents ?_).append (hsealed.extend hgrows) ?_
    · intro m hm hmem
      rw [List.mem_singleton.1 hm] at hmem
      exact hlater 2 List.mem_cons_self (List.mem_singleton.1 hmem).symm
    · intro m hm hmem
      rw [List.mem_singleton.1 hm] at hmem
      rcases List.mem_cons.1 hmem with hmem | hmem
      · exact absurd hmem (by decide)
      · exact hlater 3 (List.mem_cons_of_mem _ List.mem_cons_self) (List.mem_singleton.1 hmem)
  obtain ⟨dir'', hremove, hremoved⟩ := @exec_removeFiles [1]
    { dir' with
      index := some (Index.mk 2 3 [2, lastNumber (rotated staleState).dir + 1, 3]).toVec }
    (List.nodup_singleton _) hgrows.faults (by
      intro m hm
      rw [List.mem_singleton.1 hm]
      exact hfirst)
  rw [← @removeOriginals_eq [segmentSummary 1 (framesOf [.record sampleRecord])] [1] rfl] at hremove
  have hindexed : Represents
      { dir' with
        index := some (Index.mk 2 3 [2, lastNumber (rotated staleState).dir + 1, 3]).toVec }
      ([(2, [.record lateRecord])] ++
        [(lastNumber (rotated staleState).dir + 1, [.retentionTombstone sampleSummary])] ++ [(3, [])]) :=
    ⟨hlayout.nodup, hlayout.segment, hlayout.stored⟩
  have hleft := hindexed.removed hremoved (by
    intro m hm hone
    rw [List.mem_singleton.1 hone] at hm
    rcases List.mem_cons.1 hm with hm | hm
    · exact absurd hm (by decide)
    · rcases List.mem_cons.1 hm with hm | hm
      · have hmem : lastNumber (rotated staleState).dir + 1 ∈ [1, 2, 3] := by
          rw [show lastNumber (rotated staleState).dir + 1 = 1 from hm.symm]
          exact List.mem_cons_self
        exact hrepresents.notMem hnew hmem
      · exact absurd hm (by decide))
  have hreload := @Dashboard.exec_reload _
    { (rotated staleState).store with
      activeSegments := [2, lastNumber (rotated staleState).dir + 1, 3]
      current := 3
      currentDay := none
      records := []
      tombstones := [] } dir'' _ hremoved.faults hleft
  have hrun : (compactSealed dayMs .none).exec (rotated staleState) = (.ok (), _) :=
    exec_bind_of (exec_get _) <|
      exec_bind_of (exec_onDir_ok (exec_segmentNumbers hfaults)) <|
      exec_bind_of (exec_onDir_ok hcompact) <| exec_bind_of htombstone <|
      exec_bind_of (exec_onDir_ok (exec_syncDirectory hgrows.faults)) <|
      exec_bind_of (exec_throwIf_of_not nofun _ _) <| exec_bind_of (exec_update _ _) <|
      exec_bind_of (exec_writeIndex hgrows.faults) <|
      exec_bind_of (exec_throwIf_of_not nofun _ _) <|
      exec_bind_of (exec_onDir_ok hremove) <|
      exec_bind_of (exec_onDir_ok (exec_syncDirectory hremoved.faults)) <|
      exec_bind_of (exec_update _ _) <| exec_bind_of (exec_get _) hreload
  have hcompacted : (compactRetention sampleNow .none).exec staleState = (.ok (), _) :=
    exec_bind_of (exec_get staleState) <| (exec_onlyIf_of hexpires _ _).trans <|
      exec_bind_of (exec_rotate rfl next_free_staleState) (hcutoff ▸ hrun)
  exact ⟨_, exec_orUnavailable_ok hcompacted⟩

/-! ### Retention is not exact -/

omit [Sha256] in
theorem exec_eq_of_fst {α : Type} {m : Eff AuditState AuditError α} {s : AuditState}
    {r : Except AuditError α} (h : (m.exec s).1 = r) : m.exec s = (r, (m.exec s).2) := by
  rw [← h]

theorem onDisk_staleState : onDisk staleState = [.record sampleRecord, .record lateRecord] :=
  represents_staleState.entriesIn_eq

/-- Retention is exact in every store whose segments are there. -/
def AlwaysRetains : Prop :=
  ∀ s s' nowMs, Listed s → (enforceRetention nowMs).exec s = (.ok (), s') → Retains s s' nowMs

theorem listed_staleState : Listed staleState where
  there := by
    intro m hm
    have hmem : m ∈ Layout.numbers [(1, [.record sampleRecord]), (2, [.record lateRecord])] := hm
    obtain ⟨p, hp, rfl⟩ := List.mem_map.1 hmem
    rw [represents_staleState.segment p hp]
    exact Option.some_ne_none _
  limit := Nat.le_refl _

omit [Sha256] in
/-- **Retention brings back a record** that is not in memory. -/
theorem not_alwaysRetains : ¬∃ _ : Sha256, AlwaysRetains := by
  rintro ⟨_, hclaim⟩
  obtain ⟨s', hrun⟩ := enforceRetention_staleState
  have hretains := hclaim _ _ _ listed_staleState hrun
  have hcutoff : staleState.store.retentionCutoff sampleNow = dayMs :=
    (by decide : 2 * dayMs - 1 * dayMs = dayMs)
  have hold : ¬decide (sampleRecord.occurredAtMs ≥ dayMs) = true := by decide
  have hnew : decide (lateRecord.occurredAtMs ≥ dayMs) = true := by decide
  have hmemory : liveRecords dayMs staleState.store.records = [] := by
    change List.filter _ [sampleRecord] = []
    rw [List.filter_cons, if_neg hold, List.filter_nil]
  have hdisk : liveRecords dayMs (recordsOf (onDisk staleState)) = [lateRecord] := by
    rw [onDisk_staleState]
    change List.filter _ [sampleRecord, lateRecord] = _
    rw [List.filter_cons, if_neg hold, List.filter_cons, if_pos hnew, List.filter_nil]
  have hrecords := hretains.records
  rw [hcutoff, hmemory] at hrecords
  rcases exec_enforceRetention_inv hrun with ⟨hidle, -⟩ | ⟨-, s₁, hrotate, hsealed⟩
  · exact hidle ⟨sampleRecord, List.mem_singleton_self _, (by decide : 0 < 2 * dayMs - 1 * dayMs)⟩
  · have hretired := retired_of_ok listed_staleState hrotate hsealed
    rw [hcutoff] at hretired
    have hrecords' := hretired.records
    rw [hdisk, hrecords] at hrecords'
    cases hrecords'

omit [Sha256] in
theorem sampleState_retains : letI := sampleHash
    ∃ s', (enforceRetention sampleNow).exec sampleState = (.ok (), s') ∧
      Retains sampleState s' sampleNow := by
  let _ := sampleHash
  obtain ⟨hok, -⟩ := enforceRetention_sampleState
  obtain ⟨hlisted, hagrees⟩ := agrees_of_coherent coherent_sampleState
  have hrun : (enforceRetention sampleNow).exec sampleState
      = (.ok (), ((enforceRetention sampleNow).exec sampleState).2) := exec_eq_of_fst hok
  exact ⟨_, hrun, (retains_iff hlisted hrun).2 (.inr hagrees)⟩

end AuditStore

end Dashboard
