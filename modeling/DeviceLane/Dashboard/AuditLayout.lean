/-
**The layout of the audit store.**

What a store with its directory stands for is a list of segments, each with its entries: the
segments the index lists, in their order, the current one last. The store in memory agrees with the
directory when its records and tombstones are those of the layout. Appending and beginning a new
segment keep this agreement.

Main definitions:

* `Dashboard.Layout` — the segments with their entries.

Main results:

* `Dashboard.Coherent.append` — **an append is refused, meets a segment that is in its way, or writes
  the record** at the end of the layout.
-/

import DeviceLane.Dashboard.AuditStore
import Mathlib.Data.List.Chain

namespace Dashboard

open Effect AuditStore

variable {dir dir' : AuditDir} {number : ℕ} {s : AuditState}

/-! ### Layouts -/

abbrev Layout : Type := List (ℕ × List StoredEntry)

def Layout.numbers (layout : Layout) : List ℕ := layout.map Prod.fst

def Layout.entries (layout : Layout) : List StoredEntry := layout.flatMap Prod.snd

@[simp] theorem Layout.numbers_append (l l' : Layout) :
    numbers (l ++ l') = numbers l ++ numbers l' := List.map_append

@[simp] theorem Layout.entries_append (l l' : Layout) :
    entries (l ++ l') = entries l ++ entries l' := List.flatMap_append

@[simp] theorem Layout.numbers_cons (p : ℕ × List StoredEntry) (l : Layout) :
    numbers (p :: l) = p.1 :: numbers l := rfl

@[simp] theorem Layout.entries_cons (p : ℕ × List StoredEntry) (l : Layout) :
    entries (p :: l) = p.2 ++ entries l := rfl

@[simp] theorem Layout.numbers_nil : numbers [] = [] := rfl

@[simp] theorem Layout.entries_nil : entries [] = [] := rfl

@[simp] theorem recordsOf_append (es es' : List StoredEntry) :
    recordsOf (es ++ es') = recordsOf es ++ recordsOf es' := List.filterMap_append

@[simp] theorem tombstonesOf_append (es es' : List StoredEntry) :
    tombstonesOf (es ++ es') = tombstonesOf es ++ tombstonesOf es' := List.filterMap_append

variable [Sha256]

def framesOf (entries : List StoredEntry) : List UInt8 :=
  entries.flatMap fun entry => Frames.frame entry.toJson.toVec

@[simp] theorem framesOf_append (es es' : List StoredEntry) :
    framesOf (es ++ es') = framesOf es ++ framesOf es' := List.flatMap_append

@[simp] theorem framesOf_nil : framesOf [] = [] := List.flatMap_nil

theorem framesOf_singleton (entry : StoredEntry) :
    framesOf [entry] = Frames.frame entry.toJson.toVec := by
  rw [framesOf, List.flatMap_singleton]

omit [Sha256] in
/-- The entries that a segment may hold: valid ones, whose frames fit the largest segment. -/
structure Stored (entry : StoredEntry) : Prop where
  valid : entry.Valid
  fits : entry.toJson.toVec.length + 36 ≤ maxSegmentBytes

omit [Sha256] in
theorem Stored.holds {entry : StoredEntry} (h : Stored entry) :
    Frames.Holds maxSegmentBytes StoredEntry.fromVec entry.toJson.toVec entry where
  size_lt := by
    have hfits := h.fits
    have hmax : maxSegmentBytes = 67108864 := rfl
    omega
  fits := h.fits
  decode_eq := StoredEntry.fromVec_toVec h.valid

structure Represents (dir : AuditDir) (layout : Layout) : Prop where
  nodup : layout.numbers.Nodup
  segment : ∀ p ∈ layout, dir.segments.lookup p.1 = some (framesOf p.2)
  stored : ∀ p ∈ layout, ∀ entry ∈ p.2, Stored entry

structure Extends (dir dir' : AuditDir) : Prop where
  faults : dir'.faults = []
  index : dir'.index = dir.index
  segment : ∀ number bytes, dir.segments.lookup number = some bytes →
    dir'.segments.lookup number = some bytes

section

omit [Sha256]

theorem Extends.refl (h : dir.faults = []) : Extends dir dir :=
  ⟨h, rfl, fun _ _ h => h⟩

theorem Extends.trans {dir'' : AuditDir} (h : Extends dir dir') (h' : Extends dir' dir'') :
    Extends dir dir'' :=
  ⟨h'.faults, h'.index.trans h.index, fun number bytes hb =>
    h'.segment number bytes (h.segment number bytes hb)⟩

theorem Extends.none_of_none (h : Extends dir dir') (hnone : dir'.segments.lookup number = none) :
    dir.segments.lookup number = none := by
  cases hsome : dir.segments.lookup number with
  | none => rfl
  | some bytes =>
    rw [h.segment number bytes hsome] at hnone
    cases hnone

end

variable {layout : Layout}

theorem Represents.extend (h : Represents dir layout) (hext : Extends dir dir') :
    Represents dir' layout :=
  ⟨h.nodup, fun p hp => hext.segment _ _ (h.segment p hp), h.stored⟩

omit [Sha256] in
theorem extends_insert (h : dir.faults = []) (hnew : dir.segments.lookup number = none)
    (bytes : List UInt8) : Extends dir { dir with segments := dir.segments.insert number bytes } := by
  refine ⟨h, rfl, fun m old hold => ?_⟩
  have hne : m ≠ number := by
    rintro rfl
    rw [hnew] at hold
    cases hold
  change (dir.segments.insert number bytes).lookup m = some old
  rw [Map.lookup_insert_ne hne]
  exact hold

theorem Represents.notMem (h : Represents dir layout) (hnew : dir.segments.lookup number = none) :
    number ∉ layout.numbers := by
  intro hmem
  obtain ⟨p, hp, rfl⟩ := List.mem_map.1 hmem
  rw [h.segment p hp] at hnew
  cases hnew

theorem Represents.create (h : Represents dir layout) (hfaults : dir.faults = [])
    (hnew : dir.segments.lookup number = none) :
    Represents { dir with segments := dir.segments.insert number [] } (layout ++ [(number, [])]) := by
  have hold := h.extend (extends_insert hfaults hnew [])
  refine ⟨?_, ?_, ?_⟩
  · rw [Layout.numbers_append]
    refine List.nodup_append'.2 ⟨h.nodup, List.nodup_singleton _, ?_⟩
    rw [List.disjoint_right]
    intro _ hm
    rw [List.mem_singleton.1 hm]
    exact h.notMem hnew
  · intro p hp
    rcases List.mem_append.1 hp with hp | hp
    · exact hold.segment p hp
    · rw [List.mem_singleton.1 hp]
      change (Map.insert _ _ _).lookup number = _
      rw [Map.lookup_insert_self, framesOf_nil]
  · intro p hp
    rcases List.mem_append.1 hp with hp | hp
    · exact h.stored p hp
    · rw [List.mem_singleton.1 hp]
      intro _ hentry
      cases hentry

theorem Represents.appendFrame {entries : List StoredEntry} {entry : StoredEntry}
    (h : Represents dir (layout ++ [(number, entries)])) (hentry : Stored entry) :
    Represents
      { dir with
        segments := dir.segments.insert number
          (framesOf entries ++ Frames.frame entry.toJson.toVec) }
      (layout ++ [(number, entries ++ [entry])]) := by
  have hnodup := h.nodup
  rw [Layout.numbers_append] at hnodup
  have hlast : number ∉ layout.numbers := fun hmem =>
    (List.nodup_append'.1 hnodup).2.2 hmem List.mem_cons_self
  refine ⟨?_, ?_, ?_⟩
  · rw [Layout.numbers_append]
    exact hnodup
  · intro p hp
    rcases List.mem_append.1 hp with hp | hp
    · have hne : p.1 ≠ number := by
        intro heq
        exact hlast (heq ▸ List.mem_map_of_mem hp)
      change (Map.insert _ _ _).lookup p.1 = _
      rw [Map.lookup_insert_ne hne]
      exact h.segment p (List.mem_append_left _ hp)
    · rw [List.mem_singleton.1 hp]
      change (Map.insert _ _ _).lookup number = _
      rw [Map.lookup_insert_self, framesOf_append, framesOf_singleton]
  · intro p hp e he
    rcases List.mem_append.1 hp with hp | hp
    · exact h.stored p (List.mem_append_left _ hp) e he
    · rw [List.mem_singleton.1 hp] at he
      rcases List.mem_append.1 he with he | he
      · exact h.stored (number, entries) (List.mem_append_right _ List.mem_cons_self) e he
      · rw [List.mem_singleton.1 he]
        exact hentry

/-! ### Agreement -/

/-- **A store and its directory agree** on a layout, of which the last segment is the current one. -/
structure Coherent (s : AuditState) (layout : Layout) (tail : List StoredEntry) : Prop where
  faults : s.dir.faults = []
  represents : Represents s.dir (layout ++ [(s.store.current, tail)])
  active : s.store.activeSegments = layout.numbers ++ [s.store.current]
  records : s.store.records = recordsOf (layout.entries ++ tail)
  tombstones : s.store.tombstones = tombstonesOf (layout.entries ++ tail)
  index : s.dir.index = some (Index.mk 2 s.store.current s.store.activeSegments).toVec
  increasing : (s.store.records.map (·.sequence)).Pairwise (· < ·)
  bounded : ∀ record ∈ s.store.records, record.sequence ≤ u64Max
  limit : 0 < s.store.maxSegmentBytes ∧ s.store.maxSegmentBytes ≤ maxSegmentBytes
  current_ne : s.store.current ≠ 0

namespace Coherent

variable {s : AuditState} {layout : Layout} {tail : List StoredEntry}

theorem current_segment (h : Coherent s layout tail) :
    s.dir.segments.lookup s.store.current = some (framesOf tail) :=
  h.represents.segment (s.store.current, tail) (List.mem_append_right _ List.mem_cons_self)

theorem extend (h : Coherent s layout tail) {dir : AuditDir} (hext : Extends s.dir dir)
    (available : Bool) : Coherent ⟨{ s.store with available }, dir⟩ layout tail :=
  { faults := hext.faults
    represents := h.represents.extend hext
    active := h.active
    records := h.records
    tombstones := h.tombstones
    index := hext.index.trans h.index
    increasing := h.increasing
    bounded := h.bounded
    limit := h.limit
    current_ne := h.current_ne }

end Coherent

/-! ### A new segment -/

section

omit [Sha256]

theorem exec_onDir_ok {α : Type} {m : Eff AuditDir AuditError α} {store : AuditStore} {a : α}
    (h : m.exec dir = (.ok a, dir')) : (onDir m).exec ⟨store, dir⟩ = (.ok a, ⟨store, dir'⟩) := by
  rw [onDir, exec_onPart, h]
  rfl

theorem exec_onDir_error {α : Type} {m : Eff AuditDir AuditError α} {store : AuditStore}
    {error : AuditError} (h : m.exec dir = (.error error, dir')) :
    (onDir m).exec ⟨store, dir⟩ = (.error error, ⟨store, dir'⟩) := by
  rw [onDir, exec_onPart, h]
  rfl

theorem exec_update (f : AuditStore → AuditStore) (s : AuditState) :
    (update f).exec s = (.ok (), { s with store := f s.store }) := rfl

end

def indexed (s : AuditState) : AuditState :=
  { s with
    dir := { s.dir with index := some (Index.mk 2 s.store.current s.store.activeSegments).toVec } }

omit [Sha256] in
theorem exec_writeIndex (h : s.dir.faults = []) : writeIndex.exec s = (.ok (), indexed s) := by
  rw [writeIndex, exec_bind_ok (exec_get s)]
  exact exec_onDir_ok (exec_replaceIndexFile h)

def rotated (s : AuditState) : AuditState :=
  indexed
    { store :=
        { s.store with
          current := s.store.current + 1
          currentDay := none
          activeSegments := s.store.activeSegments ++ [s.store.current + 1] }
      dir := { s.dir with segments := s.dir.segments.insert (s.store.current + 1) [] } }

omit [Sha256] in
theorem exec_rotate (h : s.dir.faults = []) (hnew : s.dir.segments.lookup (s.store.current + 1) = none) :
    rotate.exec s = (.ok (), rotated s) := by
  rw [rotate]
  exact exec_bind_of (exec_get s) <| exec_bind_of (exec_onDir_ok (exec_createSegment h hnew)) <|
    exec_bind_of (exec_onDir_ok (exec_syncDirectory h)) <| exec_bind_of (exec_update _ _) <|
    exec_writeIndex h

omit [Sha256] in
theorem exec_rotate_of_some {bytes : List UInt8} (h : s.dir.faults = [])
    (hold : s.dir.segments.lookup (s.store.current + 1) = some bytes) :
    rotate.exec s = (.error .io, s) := by
  rw [rotate, exec_bind_ok (exec_get s)]
  exact exec_bind_error (exec_onDir_error (exec_createSegment_of_some h hold))

namespace Coherent

variable {s : AuditState} {layout : Layout} {tail : List StoredEntry}

/-- **A new segment** is an empty one at the end of the layout. -/
theorem rotated (h : Coherent s layout tail)
    (hnew : s.dir.segments.lookup (s.store.current + 1) = none) :
    Coherent (rotated s) (layout ++ [(s.store.current, tail)]) [] where
  faults := h.faults
  represents := by
    have hcreate := h.represents.create h.faults hnew
    exact ⟨hcreate.nodup, hcreate.segment, hcreate.stored⟩
  active := by
    change s.store.activeSegments ++ [s.store.current + 1] = _
    rw [h.active, Layout.numbers_append]
    rfl
  records := by
    change s.store.records = _
    rw [h.records, Layout.entries_append, Layout.entries_cons, Layout.entries_nil,
      List.append_nil, List.append_nil]
  tombstones := by
    change s.store.tombstones = _
    rw [h.tombstones, Layout.entries_append, Layout.entries_cons, Layout.entries_nil,
      List.append_nil, List.append_nil]
  index := rfl
  increasing := h.increasing
  bounded := h.bounded
  limit := h.limit
  current_ne := Nat.succ_ne_zero _

end Coherent

/-! ### Appending -/

def recorded (record : AuditRecord) (s : AuditState) (bytes : List UInt8) : AuditState :=
  indexed
    { store :=
        { s.store with
          currentDay := some (record.occurredAtMs / dayMs)
          records := s.store.records ++ [record] }
      dir :=
        { s.dir with
          segments := s.dir.segments.insert s.store.current
            (bytes ++ Frames.frame (StoredEntry.record record).toJson.toVec) } }

omit [Sha256] in
theorem exec_orUnavailable_ok {m : Eff AuditState AuditError Unit} {s' : AuditState}
    (h : m.exec s = (.ok (), s')) : (orUnavailable m).exec s = (.ok (), s') :=
  exec_bind_of (exec_attempt_of h) rfl

omit [Sha256] in
theorem exec_orUnavailable_error {m : Eff AuditState AuditError Unit} {s' : AuditState}
    {error : AuditError} (h : m.exec s = (.error error, s')) :
    (orUnavailable m).exec s =
      (.error error, { s' with store := { s'.store with available := false } }) :=
  exec_bind_of (exec_attempt_of h) rfl

/-- The records an append takes: after redaction they are valid and fit a segment, and their
sequence number is greater than the last one. -/
structure Takes (store : AuditStore) (raw : RawAuditRecord) : Prop where
  available : store.available = true
  sequence : ∀ record ∈ store.records.getLast?, record.sequence < raw.sequence
  valid : (store.redactor.redact raw).validate = .ok ()
  fits : (StoredEntry.record (store.redactor.redact raw)).toJson.toVec.length + 36
    ≤ store.maxSegmentBytes

omit [Sha256] in
theorem frameLen_eq_ok {payload : List UInt8} (h : payload.length + 36 ≤ maxSegmentBytes) :
    frameLen payload = .ok (payload.length + 36) := by
  have hmax : maxSegmentBytes = 67108864 := rfl
  rw [frameLen, if_pos (by omega)]
  rfl

omit [Sha256] in
theorem frameLen_eq_ok_iff {payload : List UInt8} {length : ℕ} :
    frameLen payload = .ok length ↔ payload.length < 2 ^ 32 ∧ length = payload.length + 36 := by
  rw [frameLen]
  split
  · rename_i hlt
    constructor
    · rintro ⟨⟩
      exact ⟨hlt, rfl⟩
    · rintro ⟨-, rfl⟩
      rfl
  · rename_i hge
    exact ⟨nofun, fun h => absurd h.1 hge⟩

theorem exec_append_of_takes {s : AuditState} {raw : RawAuditRecord}
    (hlimit : s.store.maxSegmentBytes ≤ maxSegmentBytes) (h : Takes s.store raw) :
    (append raw).exec s =
      (orUnavailable (appendInner (s.store.redactor.redact raw)
        (StoredEntry.record (s.store.redactor.redact raw)).toJson.toVec
        ((StoredEntry.record (s.store.redactor.redact raw)).toJson.toVec.length + 36))).exec s := by
  have hvalid : (StoredEntry.record (s.store.redactor.redact raw)).Valid :=
    ⟨h.valid, Redactor.validMessage_redact _ _⟩
  have hframe := frameLen_eq_ok (Nat.le_trans h.fits hlimit)
  have hfits := h.fits
  rw [append, exec_bind_ok (exec_get s), exec_throwIf_bind, if_neg (by simp [h.available]),
    exec_throwIf_bind, if_neg, exec_throwIf_bind, if_neg (not_not_intro h.valid),
    StoredEntry.toVec_eq_ok hvalid]
  · refine exec_bind_of (exec_orThrow _ _ s) ?_
    refine exec_bind_of (by rw [hframe]; rfl) ?_
    rw [exec_throwIf_bind, if_neg (by omega)]
  · rintro ⟨record, hrecord, _⟩
    have hlt := h.sequence record hrecord
    omega

theorem exec_append_of_not_takes {s : AuditState} {raw : RawAuditRecord}
    (h : ¬Takes s.store raw) :
    ∃ error, (append raw).exec s = (.error error, s) ∧ error ≠ .io := by
  rw [append, exec_bind_ok (exec_get s), exec_throwIf_bind]
  split
  · exact ⟨_, rfl, nofun⟩
  rename_i havailable
  rw [exec_throwIf_bind]
  split
  · exact ⟨_, rfl, nofun⟩
  rename_i hsequence
  rw [exec_throwIf_bind]
  split
  · exact ⟨_, rfl, nofun⟩
  rename_i hvalid
  have hentry : (StoredEntry.record (s.store.redactor.redact raw)).Valid :=
    ⟨not_not.1 hvalid, Redactor.validMessage_redact _ _⟩
  rw [StoredEntry.toVec_eq_ok hentry, exec_bind_ok (exec_orThrow _ _ s)]
  cases hframe : frameLen (StoredEntry.record (s.store.redactor.redact raw)).toJson.toVec with
  | error error =>
    have herror : error ≠ .io := by
      rintro rfl
      rw [frameLen] at hframe
      split at hframe
      · cases hframe
      · cases hframe
    exact ⟨error, exec_bind_error (exec_orThrow _ _ s), herror⟩
  | ok =>
    obtain ⟨-, rfl⟩ := frameLen_eq_ok_iff.1 hframe
    rw [exec_bind_ok (exec_orThrow _ _ s), exec_throwIf_bind]
    split
    · exact ⟨_, rfl, nofun⟩
    · rename_i hfits
      refine absurd ⟨?_, ?_, not_not.1 hvalid, by omega⟩ h
      · cases ha : s.store.available with
        | true => rfl
        | false => exact absurd ha havailable
      · intro record hrecord
        by_contra hlt
        exact hsequence ⟨record, hrecord, by omega⟩

def Overflows (s : AuditState) (tail : List StoredEntry) (record : AuditRecord) : Prop :=
  s.store.needsSegment (framesOf tail).length
    ((StoredEntry.record record).toJson.toVec.length + 36) (record.occurredAtMs / dayMs)

instance (s : AuditState) (tail : List StoredEntry) (record : AuditRecord) :
    Decidable (Overflows s tail record) :=
  inferInstanceAs (Decidable (s.store.needsSegment _ _ _))

theorem exec_record {bytes : List UInt8} (record : AuditRecord) (h : s.dir.faults = [])
    (hsegment : s.dir.segments.lookup s.store.current = some bytes) :
    (do
      let s ← get
      onDir (appendFrame s.store.current (StoredEntry.record record).toJson.toVec)
      update fun store =>
        { store with
          currentDay := some (record.occurredAtMs / dayMs)
          records := store.records ++ [record] }
      writeIndex : Eff AuditState AuditError Unit).exec s = (.ok (), recorded record s bytes) :=
  exec_bind_of (exec_get s) <| exec_bind_of (exec_onDir_ok (exec_appendFrame h hsegment)) <|
    exec_bind_of (exec_update _ _) <| exec_writeIndex h

namespace Coherent

variable {s : AuditState} {layout : Layout} {tail : List StoredEntry} {record : AuditRecord}

theorem exec_appendInner_of_room (h : Coherent s layout tail) (hroom : ¬Overflows s tail record) :
    (appendInner record (StoredEntry.record record).toJson.toVec
      ((StoredEntry.record record).toJson.toVec.length + 36)).exec s =
      (.ok (), recorded record s (framesOf tail)) := by
  refine exec_bind_of (exec_get s) ?_
  refine exec_bind_of (exec_onDir_ok (exec_segmentLen h.faults h.current_segment)) ?_
  exact exec_bind_of (exec_onlyIf_of_not hroom _ _) (exec_record record h.faults h.current_segment)

theorem exec_appendInner_of_overflows (h : Coherent s layout tail)
    (hover : Overflows s tail record)
    (hnew : s.dir.segments.lookup (s.store.current + 1) = none) :
    (appendInner record (StoredEntry.record record).toJson.toVec
      ((StoredEntry.record record).toJson.toVec.length + 36)).exec s =
      (.ok (), recorded record (Dashboard.rotated s) []) := by
  refine exec_bind_of (exec_get s) ?_
  refine exec_bind_of (exec_onDir_ok (exec_segmentLen h.faults h.current_segment)) ?_
  exact exec_bind_of ((exec_onlyIf_of hover _ _).trans (exec_rotate h.faults hnew))
    (exec_record record h.faults (h.rotated hnew).current_segment)

theorem exec_appendInner_of_blocked (h : Coherent s layout tail) (hover : Overflows s tail record)
    {bytes : List UInt8} (hold : s.dir.segments.lookup (s.store.current + 1) = some bytes) :
    (appendInner record (StoredEntry.record record).toJson.toVec
      ((StoredEntry.record record).toJson.toVec.length + 36)).exec s = (.error .io, s) := by
  refine exec_bind_of (exec_get s) ?_
  refine exec_bind_of (exec_onDir_ok (exec_segmentLen h.faults h.current_segment)) ?_
  exact exec_bind_error ((exec_onlyIf_of hover _ _).trans (exec_rotate_of_some h.faults hold))

/-- **A record** is the last entry of the layout. -/
theorem recorded (h : Coherent s layout tail) (hentry : Stored (.record record))
    (hsequence : ∀ last ∈ s.store.records.getLast?, last.sequence < record.sequence)
    (hbound : record.sequence ≤ u64Max) :
    Coherent (recorded record s (framesOf tail)) layout (tail ++ [.record record]) where
  faults := h.faults
  represents := by
    have happend := h.represents.appendFrame hentry
    exact ⟨happend.nodup, happend.segment, happend.stored⟩
  active := h.active
  records := by
    change s.store.records ++ [record] = _
    rw [h.records, ← List.append_assoc, recordsOf_append _ [.record record]]
    rfl
  tombstones := by
    change s.store.tombstones = _
    rw [h.tombstones, ← List.append_assoc, tombstonesOf_append _ [.record record]]
    exact (List.append_nil _).symm
  index := rfl
  increasing := by
    change ((s.store.records ++ [record]).map (·.sequence)).Pairwise (· < ·)
    rw [List.map_append, ← List.isChain_iff_pairwise, List.isChain_append]
    refine ⟨List.isChain_iff_pairwise.2 h.increasing, List.isChain_singleton _, ?_⟩
    intro _ hx _ hy
    rw [List.getLast?_map] at hx
    obtain ⟨last, hlast, rfl⟩ := Option.map_eq_some_iff.1 hx
    cases hy
    exact hsequence last hlast
  bounded := by
    intro r hr
    rcases List.mem_append.1 hr with hr | hr
    · exact h.bounded r hr
    · rw [List.mem_singleton.1 hr]
      exact hbound
  limit := h.limit
  current_ne := h.current_ne

end Coherent

def OneMore (dir dir' : AuditDir) (number : ℕ) : Prop :=
  ∀ m, dir'.segments.lookup m ≠ none → dir.segments.lookup m ≠ none ∨ m = number

omit [Sha256] in
theorem oneMore_insert (dir : AuditDir) (number : ℕ) (bytes : List UInt8) (index : Option (List UInt8)) :
    OneMore dir ⟨dir.segments.insert number bytes, index, dir.faults⟩ number := by
  intro m hm
  by_cases heq : m = number
  · exact .inr heq
  · left
    rw [← Map.lookup_insert_ne heq bytes]
    exact hm

inductive Appended (s : AuditState) (raw : RawAuditRecord) :
    Except AuditError Unit × AuditState → Prop
  | refused {error : AuditError} (h : ¬Takes s.store raw) (herror : error ≠ .io) :
      Appended s raw (.error error, s)
  | blocked (h : Takes s.store raw)
      (hnext : s.dir.segments.lookup (s.store.current + 1) ≠ none) :
      Appended s raw (.error .io, { s with store := { s.store with available := false } })
  | written {s' : AuditState} {layout : Layout} {tail : List StoredEntry}
      (h : Takes s.store raw) (coherent : Coherent s' layout tail)
      (store : s'.store =
        { s.store with
          current := s'.store.current
          currentDay := s'.store.currentDay
          activeSegments := s'.store.activeSegments
          records := s.store.records ++ [s.store.redactor.redact raw] })
      (current : s.store.current ≤ s'.store.current ∧ s'.store.current ≤ s.store.current + 1)
      (active : ∀ m ∈ s.store.activeSegments, m ∈ s'.store.activeSegments)
      (files : OneMore s.dir s'.dir s'.store.current) :
      Appended s raw (.ok (), s')

/-- **An append** is refused, is blocked by a segment, or writes the record. -/
theorem Coherent.append {tail : List StoredEntry} (h : Coherent s layout tail) {raw : RawAuditRecord}
    (hbound : raw.sequence ≤ u64Max) : Appended s raw ((AuditStore.append raw).exec s) := by
  by_cases htakes : Takes s.store raw
  · have hentry : Stored (.record (s.store.redactor.redact raw)) :=
      ⟨⟨htakes.valid, Redactor.validMessage_redact _ _⟩, Nat.le_trans htakes.fits h.limit.2⟩
    rw [exec_append_of_takes h.limit.2 htakes]
    by_cases hover : Overflows s tail (s.store.redactor.redact raw)
    · cases hnext : s.dir.segments.lookup (s.store.current + 1) with
      | some =>
        rw [exec_orUnavailable_error (h.exec_appendInner_of_blocked hover hnext)]
        exact .blocked htakes (by simp [hnext])
      | none =>
        have hrotated := h.rotated hnext
        rw [exec_orUnavailable_ok (h.exec_appendInner_of_overflows hover hnext)]
        refine .written htakes (hrotated.recorded hentry htakes.sequence hbound) rfl
          ⟨Nat.le_succ _, Nat.le_refl _⟩ (fun m hm => List.mem_append_left _ hm) ?_
        intro m hm
        rcases oneMore_insert (Dashboard.rotated s).dir _ _ _ m hm with hm | hm
        · exact oneMore_insert s.dir _ _ _ m hm
        · exact .inr hm
    · rw [exec_orUnavailable_ok (h.exec_appendInner_of_room hover)]
      exact .written htakes (h.recorded hentry htakes.sequence hbound) rfl
        ⟨Nat.le_refl _, Nat.le_succ _⟩ (fun m hm => hm) (oneMore_insert s.dir _ _ _)
  · obtain ⟨_, hexec, herror⟩ := exec_append_of_not_takes htakes
    rw [hexec]
    exact .refused htakes herror

end Dashboard
