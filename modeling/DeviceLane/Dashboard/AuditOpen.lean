/-
**Opening and reopening the audit store.**

A store is opened on an empty directory, and opened again on a directory that an earlier store has
left behind: the segments of the index are read, and the others are removed.

Main definitions:

* `Dashboard.AuditCall`, `Dashboard.AuditCall.program` — the calls that change a store.

Main results:

* `Dashboard.Coherent.reopen` — **reopening gives the same records, tombstones and segments**.
-/

import DeviceLane.Dashboard.AuditRetention

namespace Dashboard

open Effect AuditStore

variable [Sha256]

/-! ### Reading the active segments -/

theorem exec_readActive_append {dir dir' : AuditDir} {layout : Layout} (current : ℕ) {numbers : List ℕ}
    {rest : List StoredEntry} {recovered : Bool} (hfaults : dir.faults = []) (h : Represents dir layout)
    (hrest : (readActive current numbers).exec dir = (.ok (rest, recovered), dir')) :
    (readActive current (layout.numbers ++ numbers)).exec dir =
      (.ok (layout.entries ++ rest, recovered), dir') := by
  induction layout with
  | nil => exact hrest
  | cons p layout ih =>
    have hsegment := h.segment p List.mem_cons_self
    have hstored := h.stored p List.mem_cons_self
    have hlater : Represents dir layout := @Represents.of_append_right _ dir [p] layout h
    have hthere : ¬dir.segments.lookup p.1 = none := by
      rw [hsegment]
      exact nofun
    rw [Layout.numbers_cons, List.cons_append, readActive]
    refine exec_bind_of (exec_get dir) <| exec_bind_of (exec_throwIf_of_not hthere _ _) <|
      exec_bind_of (exec_readSegment hfaults hsegment fun entry hentry =>
        (hstored entry hentry).holds) ?_
    refine exec_bind_of (exec_orThrow _ _ dir) <| exec_bind_of (ih hlater) ?_
    dsimp only
    rw [Layout.entries_cons, List.append_assoc, Bool.false_or]
    rfl

theorem exec_readActive {dir : AuditDir} {layout : Layout} (current : ℕ) (hfaults : dir.faults = [])
    (h : Represents dir layout) :
    (readActive current layout.numbers).exec dir = (.ok (layout.entries, false), dir) := by
  have hread := @exec_readActive_append _ _ _ _ current [] _ _ hfaults h rfl
  rwa [List.append_nil, List.append_nil] at hread

omit [Sha256] in
theorem exec_readIndex {dir : AuditDir} {index : Index} (hfaults : dir.faults = [])
    (h : dir.index = some index.toVec) (hvalid : ¬index.Invalid) :
    readIndex.exec dir = (.ok (some index), dir) := by
  have hfile : readIndexFile.exec dir = (.ok (some index.toVec), dir) := by
    refine exec_fileCall hfaults ?_
    rw [h]
  refine exec_bind_of hfile ?_
  dsimp only
  rw [Index.fromVec_toVec, exec_okOr_some_bind]
  exact exec_bind_of (exec_throwIf_of_not hvalid _ _) rfl

/-! ### Opening -/

def openedStore (retention : RetentionPolicy) (redactor : Redactor) (maxSegmentBytes current : ℕ)
    (activeSegments : List ℕ) (entries : List StoredEntry) : AuditStore :=
  { retention
    redactor
    current
    currentDay := (recordsOf entries).getLast?.map fun record => record.occurredAtMs / dayMs
    records := recordsOf entries
    tombstones := tombstonesOf entries
    recovered := false
    available := true
    maxSegmentBytes
    activeSegments }

omit [Sha256] in
theorem exec_withStore {store store' : AuditStore} {dir dir' : AuditDir}
    {m : Eff AuditState AuditError Unit} (h : m.exec ⟨store, dir⟩ = (.ok (), ⟨store', dir'⟩)) :
    (withStore store m).exec dir = (.ok store', dir') := by
  rw [withStore, exec_ofRun, h]
  rfl

def orphans (s : AuditState) : List ℕ :=
  (s.dir.segments.keys.mergeSort fun a b => a ≤ b).filter
    fun number => number ∉ s.store.activeSegments

namespace Coherent

variable {s : AuditState} {layout : Layout} {tail : List StoredEntry}

theorem opened_of_removed (h : Coherent s layout tail) {dir : AuditDir} {numbers : List ℕ}
    (hremoved : Removed numbers s.dir dir) (hnone : ∀ m ∈ numbers, m ∉ s.store.activeSegments)
    (retention : RetentionPolicy) (redactor : Redactor) {maxSegmentBytes : ℕ}
    (hlimit : 0 < maxSegmentBytes ∧ maxSegmentBytes ≤ Dashboard.maxSegmentBytes) :
    Coherent
      ⟨openedStore retention redactor maxSegmentBytes s.store.current s.store.activeSegments
        (layout.entries ++ tail), dir⟩ layout tail where
  faults := hremoved.faults
  represents := by
    refine h.represents.removed hremoved ?_
    intro m hm hmem
    rw [← h.numbers_eq] at hm
    exact hnone m hmem hm
  active := h.active
  records := rfl
  tombstones := rfl
  index := hremoved.index.trans h.index
  increasing := by
    rw [openedStore, ← h.records]
    exact h.increasing
  bounded := by
    rw [openedStore, ← h.records]
    exact h.bounded
  limit := hlimit
  current_ne := h.current_ne

theorem opened (h : Coherent s layout tail) {dir : AuditDir} (hremoved : Removed (orphans s) s.dir dir)
    (retention : RetentionPolicy) (redactor : Redactor) {maxSegmentBytes : ℕ}
    (hlimit : 0 < maxSegmentBytes ∧ maxSegmentBytes ≤ Dashboard.maxSegmentBytes) :
    Coherent
      ⟨openedStore retention redactor maxSegmentBytes s.store.current s.store.activeSegments
        (layout.entries ++ tail), dir⟩ layout tail := by
  refine h.opened_of_removed hremoved ?_ retention redactor hlimit
  intro _ horphan
  have hnot := List.of_mem_filter horphan
  simp only [decide_not, Bool.not_eq_true', decide_eq_false_iff_not] at hnot
  exact hnot

theorem exec_removeOrphans (h : Coherent s layout tail) :
    ∃ dir, (removeFiles (orphans s)).exec s.dir = (.ok (), dir) ∧ Removed (orphans s) s.dir dir := by
  refine exec_removeFiles ?_ h.faults ?_
  · refine List.Nodup.filter _ ?_
    exact (List.mergeSort_perm _ _).nodup_iff.2 s.dir.segments.nodup_keys
  · intro _ hm
    have hkey := List.mem_mergeSort.1 (List.mem_of_mem_filter hm)
    obtain ⟨_, hbytes⟩ := Map.mem_keys.1 hkey
    rw [hbytes]
    exact nofun

theorem exec_ensureCurrent (h : Coherent s layout tail) : ensureCurrent.exec s = (.ok (), s) := by
  have hthere : ¬s.dir.segments.lookup s.store.current = none := by
    rw [h.current_segment]
    exact nofun
  have hindexed : indexed s = s := by
    rw [indexed, ← h.index]
  have hwrite := exec_writeIndex h.faults
  rw [hindexed] at hwrite
  exact exec_bind_of (exec_get s) <| exec_bind_of (exec_onlyIf_of_not hthere _ _) hwrite

/-- **Opening with the index of a store**: what does not count is removed, and a recovery is recorded. -/
theorem exec_open_of (h : Coherent s layout tail) {base dir₁ dir : AuditDir}
    {entries : List StoredEntry} {recovered : Bool} {retention : RetentionPolicy} {redactor : Redactor}
    {limit : ℕ} (hlimit : 0 < limit ∧ limit ≤ maxSegmentBytes)
    (hread : (readActive s.store.current s.store.activeSegments).exec base
      = (.ok (entries, recovered), dir₁))
    (hfaults : base.faults = []) (hindex : base.index = s.dir.index)
    (hincreasing : ((recordsOf entries).map (·.sequence)).Pairwise (· < ·))
    (hremove : (removeFiles (orphans ⟨s.store, base⟩)).exec dir₁ = (.ok (), dir))
    (hleft : dir.faults = []) {opened : AuditStore}
    (hopened : opened = { openedStore retention redactor limit s.store.current s.store.activeSegments
      entries with recovered })
    (hensure : ensureCurrent.exec ⟨opened, dir⟩ = (.ok (), ⟨opened, dir⟩)) :
    (openWithSegmentLimit retention redactor limit).exec base =
      (withStore opened (onlyIf (recovered = true)
        (AuditStore.append (recoveryRecord (recordsOf entries))))).exec dir := by
  have hmem : s.store.current ∈ s.store.activeSegments := by
    rw [h.active]
    exact List.mem_append_right _ List.mem_cons_self
  have hvalid : ¬(Index.mk 2 s.store.current s.store.activeSegments).Invalid := by
    rintro (hversion | hzero | ⟨-, hnot⟩)
    · exact hversion ⟨Nat.le_add_left 1 1, Nat.le_refl 2⟩
    · exact h.current_ne hzero
    · exact hnot hmem
  have hlisted : listedSegments (some (Index.mk 2 s.store.current s.store.activeSegments))
      (base.segments.keys.mergeSort fun a b => a ≤ b) = s.store.activeSegments :=
    if_neg (List.ne_nil_of_mem hmem)
  refine exec_bind_of (exec_throwIf_of_not (by omega) _ _) <|
    exec_bind_of (exec_readIndex hfaults (hindex.trans h.index) hvalid) <|
    exec_bind_of (exec_segmentNumbers hfaults) ?_
  dsimp only [Option.map_some, Option.getD_some]
  rw [hlisted]
  refine exec_bind_of hread <|
    exec_bind_of (exec_throwIf_of_not (not_not_intro (List.isChain_iff_pairwise.2 hincreasing)) _ _) <|
    exec_bind_of hremove <| exec_bind_of (exec_syncDirectory hleft) ?_
  change (withStore { openedStore retention redactor limit s.store.current s.store.activeSegments entries
    with recovered } (ensureCurrent >>= fun _ => _)).exec dir = _
  rw [← hopened, withStore, withStore, exec_ofRun, exec_ofRun, exec_bind_ok hensure]

/-- **Reopening** gives the same records, tombstones and segments. -/
theorem reopen (h : Coherent s layout tail) (retention : RetentionPolicy) (redactor : Redactor)
    {maxSegmentBytes : ℕ}
    (hlimit : 0 < maxSegmentBytes ∧ maxSegmentBytes ≤ Dashboard.maxSegmentBytes) :
    ∃ dir, Removed (orphans s) s.dir dir ∧
      (openWithSegmentLimit retention redactor maxSegmentBytes).exec s.dir =
        (.ok (openedStore retention redactor maxSegmentBytes s.store.current s.store.activeSegments
          (layout.entries ++ tail)), dir) := by
  obtain ⟨dir, hexec, hremoved⟩ := h.exec_removeOrphans
  have hopened := h.opened hremoved retention redactor hlimit
  have hread : (readActive s.store.current s.store.activeSegments).exec s.dir =
      (.ok (layout.entries ++ tail, false), s.dir) := by
    rw [h.numbers_eq, exec_readActive _ h.faults h.represents, Layout.entries_append,
      Layout.entries_cons, Layout.entries_nil, List.append_nil]
  refine ⟨dir, hremoved, ?_⟩
  rw [h.exec_open_of hlimit hread h.faults rfl (h.records ▸ h.increasing) hexec hremoved.faults rfl
    hopened.exec_ensureCurrent]
  exact exec_withStore (exec_onlyIf_of_not nofun _ _)

end Coherent

def freshState (retention : RetentionPolicy) (redactor : Redactor) (maxSegmentBytes : ℕ) :
    AuditState :=
  indexed
    { store := openedStore retention redactor maxSegmentBytes 1 [1] []
      dir := ⟨Map.insert ∅ 1 [], none, []⟩ }

theorem exec_open_of_not {retention : RetentionPolicy} {redactor : Redactor} {maxSegmentBytes : ℕ}
    (h : ¬(0 < maxSegmentBytes ∧ maxSegmentBytes ≤ Dashboard.maxSegmentBytes))
    (dir : AuditDir) :
    (openWithSegmentLimit retention redactor maxSegmentBytes).exec dir =
      (.error .limitExceeded, dir) := by
  rw [openWithSegmentLimit, exec_throwIf_bind, if_pos (by omega)]

theorem exec_open_empty (retention : RetentionPolicy) (redactor : Redactor) {maxSegmentBytes : ℕ}
    (hlimit : 0 < maxSegmentBytes ∧ maxSegmentBytes ≤ Dashboard.maxSegmentBytes) :
    (openWithSegmentLimit retention redactor maxSegmentBytes).exec (.empty []) =
      (.ok (freshState retention redactor maxSegmentBytes).store,
        (freshState retention redactor maxSegmentBytes).dir) := by
  have hindex : readIndex.exec (.empty []) = (.ok none, .empty []) :=
    exec_bind_of (exec_fileCall rfl rfl) rfl
  have hnumbers : segmentNumbers.exec (.empty []) = (.ok [], .empty []) := by
    rw [exec_segmentNumbers rfl]
    exact congrArg (fun numbers => (Except.ok numbers, AuditDir.empty [])) List.mergeSort_nil
  have hensure : ensureCurrent.exec
      ⟨openedStore retention redactor maxSegmentBytes 1 [] [], .empty []⟩ =
      (.ok (), freshState retention redactor maxSegmentBytes) := by
    have hnew : (AuditDir.empty []).segments.lookup 1 = none := rfl
    exact exec_bind_of (exec_get _) <|
      exec_bind_of ((exec_onlyIf_of hnew _ _).trans <|
        exec_bind_of (exec_onDir_ok (exec_createSegment rfl hnew)) (exec_update _ _)) <|
      exec_writeIndex rfl
  refine exec_bind_of (exec_throwIf_of_not (by omega) _ _) <| exec_bind_of hindex <|
    exec_bind_of hnumbers <| exec_bind_of rfl <|
    exec_bind_of (exec_throwIf_of_not (not_not_intro List.isChain_nil) _ _) <|
    exec_bind_of rfl <| exec_bind_of (exec_syncDirectory rfl) <| ?_
  exact exec_withStore <| exec_bind_of hensure (exec_onlyIf_of_not nofun _ _)

theorem coherent_freshState (retention : RetentionPolicy) (redactor : Redactor)
    {maxSegmentBytes : ℕ}
    (hlimit : 0 < maxSegmentBytes ∧ maxSegmentBytes ≤ Dashboard.maxSegmentBytes) :
    Coherent (freshState retention redactor maxSegmentBytes) [] [] where
  faults := rfl
  represents := by
    have hempty : Represents (.empty []) [] :=
      ⟨List.nodup_nil, List.forall_mem_nil _,
        List.forall_mem_nil _⟩
    have hcreate := hempty.create rfl (Map.lookup_empty 1)
    exact ⟨hcreate.nodup, hcreate.segment, hcreate.stored⟩
  active := rfl
  records := rfl
  tombstones := rfl
  index := rfl
  increasing := .nil
  bounded := List.forall_mem_nil _
  limit := hlimit
  current_ne := Nat.one_ne_zero

/-! ### Calls -/

inductive AuditCall
  | append (raw : RawAuditRecord)
  | delete (filter : AuditFilter) (nowMs : ℕ)
  | enforceRetention (nowMs : ℕ)

def AuditCall.program : AuditCall → Eff AuditState AuditError Unit
  | .append raw => AuditStore.append raw
  | .delete filter nowMs => do
      let _ ← AuditStore.delete filter nowMs
  | .enforceRetention nowMs => AuditStore.enforceRetention nowMs

/-- The numbers of a call are those of `u64`. -/
def AuditCall.InU64 : AuditCall → Prop
  | .append raw => raw.sequence ≤ u64Max ∧ raw.occurredAtMs ≤ u64Max
  | .delete _ nowMs => nowMs ≤ u64Max
  | .enforceRetention nowMs => nowMs ≤ u64Max

theorem exec_delete_program (filter : AuditFilter) (nowMs : ℕ) (s : AuditState) :
    (AuditCall.delete filter nowMs).program.exec s =
      (((AuditStore.delete filter nowMs).exec s).1.map fun _ => (),
        ((AuditStore.delete filter nowMs).exec s).2) := by
  rw [AuditCall.program, exec_bind]
  cases ((AuditStore.delete filter nowMs).exec s).1 with
  | ok | error => rfl

/-- **One call** leaves a store that agrees with its directory. -/
theorem Coherent.call {s : AuditState} {layout : Layout} {tail : List StoredEntry}
    (h : Coherent s layout tail) {call : AuditCall} (hcall : call.InU64) :
    ∃ layout' tail', Coherent (call.program.exec s).2 layout' tail' := by
  cases call with
  | append raw =>
    have happended := h.append hcall.1
    change ∃ layout' tail', Coherent ((AuditStore.append raw).exec s).2 layout' tail'
    generalize (AuditStore.append raw).exec s = run at happended
    cases happended with
    | refused => exact ⟨_, _, h⟩
    | blocked => exact ⟨_, _, h.extend (.refl h.faults) false⟩
    | written _ coherent => exact ⟨_, _, coherent⟩
  | delete filter nowMs =>
    have hdeleted := h.delete filter nowMs
    rw [exec_delete_program]
    generalize (AuditStore.delete filter nowMs).exec s = run at hdeleted
    cases hdeleted with
    | refused hgrows => exact ⟨_, _, h.extend hgrows s.store.available⟩
    | nothing => exact ⟨_, _, h⟩
    | rewritten _ _ coherent => exact ⟨_, _, coherent⟩
  | enforceRetention nowMs =>
    have henforced := h.enforceRetention nowMs
    change ∃ layout' tail', Coherent ((AuditStore.enforceRetention nowMs).exec s).2 layout' tail'
    generalize (AuditStore.enforceRetention nowMs).exec s = run at henforced
    cases henforced with
    | idle => exact ⟨_, _, h⟩
    | blocked => exact ⟨_, _, h.extend (.refl h.faults) false⟩
    | stopped _ coherent => exact ⟨_, _, coherent⟩
    | compacted _ coherent => exact ⟨_, _, coherent⟩

theorem limit_of_opened {retention : RetentionPolicy} {redactor : Redactor} {maxSegmentBytes : ℕ}
    {dir dir' : AuditDir} {store : AuditStore}
    (h : (openWithSegmentLimit retention redactor maxSegmentBytes).exec dir = (.ok store, dir')) :
    0 < maxSegmentBytes ∧ maxSegmentBytes ≤ Dashboard.maxSegmentBytes := by
  by_contra hlimit
  rw [exec_open_of_not hlimit] at h
  cases h

end Dashboard
