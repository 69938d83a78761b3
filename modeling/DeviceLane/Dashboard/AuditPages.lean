/-
**Reading the audit records in pages.**

A reader asks for the records beyond its cursor, page after page, until a page has no next cursor. A
page is as long as its limit and its size allow. A record that has been checked is far shorter than a
page may be, so that a page is empty only where there is nothing more to read. Records that are
appended in the meantime lie beyond every cursor, and they are read as well.

Main definitions:

* `Dashboard.AuditStore.Numbered` — the records of a store are checked, and in order.

Main results:

* `AuditStore.paged_complete` — **a reader gets every record it asks for once, in order**.
-/

import DeviceLane.Dashboard.AuditQuery
import DeviceLane.Dashboard.AuditSegments
import DeviceLane.Library.Cursors

namespace Dashboard

open Effect

def AuditRecord.encodedBytes (record : AuditRecord) : ℕ := record.toJson.toVec.length

namespace AuditStore

variable {limit encodedItemsBytes : ℕ} {items records : List AuditRecord} {record : AuditRecord}

/-! ### What a page holds -/

/-- The sequence number that a reader has come to. -/
def after (cursor : Option EventCursor) : ℕ := (cursor.map EventCursor.sequence).getD 0

/-- The records that a filter asks for. -/
def matching (filter : AuditFilter) (store : AuditStore) : List AuditRecord :=
  store.records.filter filter.matches

theorem filter_eq_beyond (filter : AuditFilter) (after : ℕ) (store : AuditStore) :
    (store.records.filter fun record => record.sequence > after ∧ filter.matches record)
      = Cursors.beyond AuditRecord.sequence after (store.matching filter) := by
  rw [Cursors.beyond, matching, List.filter_filter]
  exact List.filter_congr fun record _ => by simp

structure Answered (store : AuditStore) (filter : AuditFilter) (cursor : Option EventCursor)
    (limit : ℕ) (page : CursorPage) : Prop where
  available : store.available = true
  limit_pos : 1 ≤ limit
  limit_le : limit ≤ maxPageRecords
  after_le : after cursor ≤ store.lastSequence
  filled : fillPage limit
    (Cursors.beyond AuditRecord.sequence (after cursor) (store.matching filter)) [] 0
      = .ok page.items
  nextCursor : page.nextCursor = page.items.getLast?.map fun record => ⟨1, record.sequence⟩

theorem query_eq_ok {store : AuditStore} {filter : AuditFilter} {cursor : Option EventCursor}
    {page : CursorPage} :
    store.query filter cursor limit = .ok page ↔ Answered store filter cursor limit page := by
  have hafter : (cursor.map EventCursor.sequence).getD 0 = after cursor := rfl
  unfold query
  simp only [failIf_bind, filter_eq_beyond, hafter]
  constructor
  · intro h
    split_ifs at h with havailable hlimit hahead
    obtain ⟨_, hitems, h⟩ := bind_eq_ok.1 h
    cases h
    have hbounds : 1 ≤ limit ∧ limit ≤ maxPageRecords := by omega
    exact ⟨by simpa using havailable, hbounds.1, hbounds.2, not_lt.1 hahead, hitems, rfl⟩
  · intro h
    have hlimit : ¬(limit = 0 ∨ limit > maxPageRecords) := by
      have hpos := h.limit_pos
      have hle := h.limit_le
      omega
    rw [if_neg (by simp [h.available]), if_neg hlimit, if_neg (not_lt.2 h.after_le)]
    refine bind_eq_ok.2 ⟨page.items, h.filled, ?_⟩
    rw [← h.nextCursor]

def addedBytes (items : List AuditRecord) (encodedItemsBytes : ℕ) (record : AuditRecord) : ℕ :=
  encodedItemsBytes + (record.encodedBytes + if items = [] then 0 else 1)

theorem saturatingAdd_of_fits {a b : ℕ} {cursor : EventCursor}
    (h : cursorPageEncodedLen (saturatingAdd a b) cursor ≤ maxQueryBytes) :
    saturatingAdd a b = a + b := by
  have hmax : u64Max = 18446744073709551615 := rfl
  have hbytes : maxQueryBytes = 1048576 := rfl
  rw [cursorPageEncodedLen] at h
  unfold saturatingAdd at h ⊢
  omega

theorem fillPage_cons_inv {page : List AuditRecord}
    (h : fillPage limit (record :: records) items encodedItemsBytes = .ok page) :
    page = items ∧ maxQueryBytes
        < cursorPageEncodedLen (addedBytes items encodedItemsBytes record) ⟨1, record.sequence⟩ ∨
      cursorPageEncodedLen (addedBytes items encodedItemsBytes record) ⟨1, record.sequence⟩
          ≤ maxQueryBytes ∧
        (items.length + 1 = limit ∧ page = items ++ [record] ∨
          items.length + 1 ≠ limit ∧
            fillPage limit records (items ++ [record]) (addedBytes items encodedItemsBytes record)
              = .ok page) := by
  rw [fillPage] at h
  obtain ⟨item, hitem, h⟩ := bind_eq_ok.1 h
  obtain rfl : item = record.toJson.toVec := by
    cases hvec : (StoredEntry.record record).toVec with
    | error =>
      rw [hvec] at hitem
      cases hitem
    | ok =>
      rw [hvec] at hitem
      cases hitem
      exact (valid_of_toVec hvec).2
  have hbytes : record.toJson.toVec.length = record.encodedBytes := rfl
  dsimp only at h
  rw [hbytes] at h
  by_cases hlarge : cursorPageEncodedLen (saturatingAdd encodedItemsBytes
      (record.encodedBytes + if items = [] then 0 else 1)) ⟨1, record.sequence⟩ > maxQueryBytes
  · rw [if_pos hlarge] at h
    cases h
    refine .inl ⟨rfl, Nat.lt_of_lt_of_le hlarge ?_⟩
    rw [cursorPageEncodedLen, cursorPageEncodedLen, addedBytes, saturatingAdd]
    omega
  · have hadded := saturatingAdd_of_fits (not_lt.1 hlarge)
    rw [if_neg hlarge, hadded] at h
    rw [hadded] at hlarge
    refine .inr ⟨not_lt.1 hlarge, ?_⟩
    by_cases hfull : items.length + 1 = limit
    · rw [if_pos hfull] at h
      cases h
      exact .inl ⟨hfull, rfl⟩
    · rw [if_neg hfull] at h
      exact .inr ⟨hfull, h⟩

/-- **A page is a first part of what there is to read**, as long as its limit at most. -/
theorem exists_of_fillPage {page : List AuditRecord} (hlimit : items.length < limit)
    (h : fillPage limit records items encodedItemsBytes = .ok page) :
    ∃ seen unseen, records = seen ++ unseen ∧ page = items ++ seen ∧ page.length ≤ limit := by
  induction records generalizing items encodedItemsBytes with
  | nil =>
    cases h
    exact ⟨[], [], rfl, (List.append_nil _).symm, hlimit.le⟩
  | cons record records ih =>
    rcases fillPage_cons_inv h with ⟨rfl, -⟩ | ⟨-, ⟨hfull, rfl⟩ | ⟨_, hrest⟩⟩
    · exact ⟨[], _, rfl, (List.append_nil _).symm, hlimit.le⟩
    · exact ⟨[record], records, rfl, rfl, by rw [List.length_append]; exact hfull.le⟩
    · have hlength : (items ++ [record]).length < limit := by
        rw [List.length_append, List.length_singleton]
        omega
      obtain ⟨seen, unseen, hrecords, hpage, hle⟩ := ih hlength hrest
      refine ⟨record :: seen, unseen, by rw [hrecords, List.cons_append], ?_, hle⟩
      rw [hpage, List.append_assoc, List.singleton_append]

structure Counted (items : List AuditRecord) (encodedItemsBytes : ℕ) : Prop where
  bytes : Json.itemsBytes (items.map AuditRecord.encodedBytes) = encodedItemsBytes + 2
  fits : ∀ last ∈ items.getLast?,
    cursorPageEncodedLen encodedItemsBytes ⟨1, last.sequence⟩ ≤ maxQueryBytes

theorem counted_nil : Counted [] 0 where
  bytes := if_pos rfl
  fits _ hlast := absurd hlast (Option.not_mem_none _)

theorem Counted.added (h : Counted items encodedItemsBytes)
    (hfits : cursorPageEncodedLen (addedBytes items encodedItemsBytes record) ⟨1, record.sequence⟩
      ≤ maxQueryBytes) :
    Counted (items ++ [record]) (addedBytes items encodedItemsBytes record) where
  bytes := by
    rw [List.map_append, List.map_singleton, Json.itemsBytes_append, h.bytes, addedBytes]
    simp only [List.map_eq_nil_iff]
    omega
  fits last hlast := by
    rw [List.getLast?_concat] at hlast
    cases hlast
    exact hfits

theorem counted_of_fillPage {page : List AuditRecord} (hcounted : Counted items encodedItemsBytes)
    (h : fillPage limit records items encodedItemsBytes = .ok page) :
    ∃ pageBytes, Counted page pageBytes := by
  induction records generalizing items encodedItemsBytes with
  | nil =>
    cases h
    exact ⟨_, hcounted⟩
  | cons record records ih =>
    rcases fillPage_cons_inv h with ⟨rfl, -⟩ | ⟨hfits, ⟨-, rfl⟩ | ⟨-, hrest⟩⟩
    · exact ⟨_, hcounted⟩
    · exact ⟨_, hcounted.added hfits⟩
    · exact ih (hcounted.added hfits) hrest

/-- **The bytes of a page** are what has been counted, and within the limit. -/
theorem length_toVec_of_counted {pageBytes : ℕ} (h : Counted items pageBytes) :
    (CursorPage.mk items (items.getLast?.map fun record => ⟨1, record.sequence⟩)).toJson.toVec.length
      ≤ maxQueryBytes := by
  have hitems : (Json.arr (items.map AuditRecord.toJson)).toVec.length = pageBytes + 2 :=
    (Json.length_toVec_map fun _ _ => rfl).trans h.bytes
  have hkeys : Json.quoted "items" = 7 ∧ Json.quoted "next_cursor" = 13 := by decide
  have hbytes : maxQueryBytes = 1048576 := rfl
  rw [CursorPage.toJson, Json.length_toVec_fields (List.cons_ne_nil _ _), Json.fieldsBytes_cons,
    Json.fieldsBytes_cons, Json.fieldsBytes_nil, hitems, hkeys.1, hkeys.2]
  cases hlast : items.getLast? with
  | none =>
    have hnone : items = [] := List.getLast?_eq_none_iff.1 hlast
    have hzero := h.bytes
    rw [hnone, List.map_nil, Json.itemsBytes, if_pos rfl] at hzero
    simp only [Option.map_none, Option.getD_none, Json.length_toVec_null]
    omega
  | some last =>
    have hfits := h.fits last hlast
    rw [cursorPageEncodedLen] at hfits
    simp only [Option.map_some, Option.getD_some]
    omega

theorem length_cursor_le {sequence : ℕ} (h : sequence ≤ u64Max) :
    (EventCursor.toJson ⟨1, sequence⟩).toVec.length ≤ 2 ^ 10 := by
  have hkeys : Json.quoted "epoch" = 7 ∧ Json.quoted "sequence" = 10 := by decide
  have hmax : u64Max = 18446744073709551615 := rfl
  have hepoch : Json.digits 1 ≤ 20 := Json.digits_le_of_lt (by omega) (by omega)
  have hdigits : Json.digits sequence ≤ 20 := Json.digits_le_of_lt (by omega) (by omega)
  rw [EventCursor.toJson, Json.length_toVec_fields (List.cons_ne_nil _ _), Json.fieldsBytes_cons,
    Json.fieldsBytes_cons, Json.fieldsBytes_nil, hkeys.1, hkeys.2, Json.length_toVec_num,
    Json.length_toVec_num]
  dsimp only
  omega

theorem fits_of_valid (h : (StoredEntry.record record).Valid) (hnum : record.InU64) :
    cursorPageEncodedLen (addedBytes [] 0 record) ⟨1, record.sequence⟩ ≤ maxQueryBytes := by
  have hrecord : record.encodedBytes ≤ 2 ^ 19 := AuditRecord.length_toJson_le hnum h.1 h.2
  have hcursor := length_cursor_le hnum.sequence_le
  have hbytes : maxQueryBytes = 1048576 := rfl
  rw [cursorPageEncodedLen, addedBytes, if_pos rfl]
  omega

theorem exists_fillPage {records : List AuditRecord}
    (h : ∀ record ∈ records, (StoredEntry.record record).Valid) (limit : ℕ)
    (items : List AuditRecord) (encodedItemsBytes : ℕ) :
    ∃ page, fillPage limit records items encodedItemsBytes = .ok page := by
  induction records generalizing items encodedItemsBytes with
  | nil => exact ⟨items, rfl⟩
  | cons record records ih =>
    rw [fillPage, StoredEntry.toVec_eq_ok (h record List.mem_cons_self), Except.mapError, ok_bind]
    dsimp only
    generalize saturatingAdd encodedItemsBytes _ = candidate
    split
    · exact ⟨items, rfl⟩
    · split
      · exact ⟨items ++ [record], rfl⟩
      · exact ih (List.forall_mem_cons.1 h).2 _ _

/-- **A page is empty only where there is nothing to read.** -/
theorem fillPage_ne_nil {page : List AuditRecord} (hlimit : 1 ≤ limit)
    (hvalid : (StoredEntry.record record).Valid) (hnum : record.InU64)
    (h : fillPage limit (record :: records) [] 0 = .ok page) : page ≠ [] := by
  have hfits := fits_of_valid hvalid hnum
  rcases fillPage_cons_inv h with ⟨-, hlarge⟩ | ⟨-, ⟨-, rfl⟩ | ⟨hroom, hrest⟩⟩
  · exact absurd hfits (not_le.2 hlarge)
  · exact List.cons_ne_nil _ _
  · have hlength : ([] ++ [record] : List AuditRecord).length < limit := by
      rw [List.length_nil] at hroom
      rw [List.nil_append, List.length_singleton]
      omega
    obtain ⟨_, _, -, rfl, -⟩ := exists_of_fillPage hlength hrest
    exact List.cons_ne_nil _ _

/-! ### The records of a store -/

/-- The records of a store are checked, and their numbers grow from one. -/
structure Numbered (s : AuditState) : Prop where
  sound : Sound s
  sorted : Cursors.Sorted AuditRecord.sequence s.store.records
  first : ∀ record ∈ s.store.records, 1 ≤ record.sequence
  bounded : ∀ record ∈ s.store.records, record.InU64

theorem Numbered.sorted_matching {s : AuditState} (h : Numbered s) (filter : AuditFilter) :
    Cursors.Sorted AuditRecord.sequence (s.store.matching filter) :=
  h.sorted.sublist List.filter_sublist

theorem Numbered.le_last {s : AuditState} (h : Numbered s) (hmem : record ∈ s.store.records) :
    record.sequence ≤ s.store.lastSequence := by
  cases hlast : s.store.records.getLast? with
  | none =>
    rw [List.getLast?_eq_none_iff.1 hlast] at hmem
    exact absurd hmem List.not_mem_nil
  | some =>
    rw [lastSequence, hlast]
    exact h.sorted.le_getLast hlast hmem

section

variable [Sha256]

variable {s : AuditState}

omit [Sha256] in
theorem records_rotate (records : List AuditRecord) :
    Within (Preserves fun s : AuditState => s.store.records = records) rotate := by
  have hdir {α : Type} (m : Eff AuditDir AuditError α) :
      Within (Preserves fun s : AuditState => s.store.records = records) (onDir m) := fun _ hs => hs
  refine Within.get fun s => Within.bind (hdir _) (fun _ => ?_) s
  refine Within.bind (hdir _) fun _ => Within.bind ?_ fun _ => Within.get fun s => hdir _ s
  exact Within.modify fun _ hs => hs

theorem records_appendInner {records : List AuditRecord} (record : AuditRecord) (payload : List UInt8)
    (frameLen : ℕ) :
    Triple (fun s => s.store.records = records) (appendInner record payload frameLen)
      fun _ s => s.store.records = records ∨ s.store.records = records ++ [record] := by
  refine Triple.get fun s hs => Triple.bind (M := fun _ s => s.store.records = records) ?_
    (fun _ _ h => .inl h) fun segmentLen => ?_
  · intro s' hs'
    exact hs'.symm ▸ hs
  refine Triple.bind (M := fun _ s => s.store.records = records) ?_ (fun _ _ h => .inl h) fun _ => ?_
  · unfold onlyIf
    exact Triple.ite (fun _ => records_rotate records) fun _ => Triple.pure fun _ h => h
  refine Triple.get fun s hs => Triple.bind (M := fun _ s => s.store.records = records) ?_
    (fun _ _ h => .inl h) fun _ => ?_
  · intro s' hs'
    exact hs'.symm ▸ hs
  -- From here on the record counts, whether the index can be written or not.
  refine Triple.bind (M := fun _ s => s.store.records = records ++ [record]) ?_ (fun _ _ h => .inr h)
    fun _ => Triple.get fun s hs => ?_
  · exact Triple.modify fun s h => congrArg (· ++ [record]) h
  · intro s' hs'
    exact .inr (hs'.symm ▸ hs)

omit [Sha256] in
theorem records_orUnavailable (m : Eff AuditState AuditError Unit) (s : AuditState) :
    ((orUnavailable m).exec s).2.store.records = (m.exec s).2.store.records := by
  cases hrun : m.exec s with
  | mk result =>
    cases result with
    | ok => rw [exec_orUnavailable_ok hrun]
    | error => rw [exec_orUnavailable_error hrun]

/-- **An append adds one record that comes after all the others, or none.** -/
theorem records_append (raw : RawAuditRecord) (s : AuditState) :
    ((append raw).exec s).2.store.records = s.store.records ∨
      (∀ last ∈ s.store.records.getLast?, last.sequence < raw.sequence) ∧
        (StoredEntry.record (s.store.redactor.redact raw)).Valid ∧
        ((append raw).exec s).2.store.records = s.store.records ++ [s.store.redactor.redact raw] := by
  rw [append, exec_bind_ok (exec_get s), exec_throwIf_bind]
  split
  · exact .inl rfl
  rw [exec_throwIf_bind]
  split
  · exact .inl rfl
  rename_i hsequence
  rw [exec_throwIf_bind]
  split
  · exact .inl rfl
  rename_i hvalid
  have hlast : ∀ last ∈ s.store.records.getLast?, last.sequence < raw.sequence := fun last hmem =>
    not_le.1 fun hle => hsequence ⟨last, hmem, hle⟩
  have hentry : (StoredEntry.record (s.store.redactor.redact raw)).Valid :=
    ⟨not_not.1 hvalid, Redactor.validMessage_redact _ _⟩
  rw [exec_orThrow_bind, StoredEntry.toVec_eq_ok hentry]
  dsimp only
  rw [exec_orThrow_bind]
  split
  · rw [exec_throwIf_bind]
    split
    · exact .inl rfl
    rw [records_orUnavailable]
    exact (records_appendInner _ _ _ s rfl).imp_right fun h => ⟨hlast, hentry, h⟩
  · exact .inl rfl

/-- **What is appended comes after what there is.** -/
theorem numbered_append (h : Numbered s) {raw : RawAuditRecord} (hraw : (AuditCall.append raw).InU64)
    (hfirst : s.store.records = [] → 1 ≤ raw.sequence) :
    Numbered ((append raw).exec s).2 ∧
      ∃ new, ((append raw).exec s).2.store.records = s.store.records ++ new ∧
        ∀ record ∈ new, s.store.lastSequence < record.sequence := by
  have hsound := sound_append raw s h.sound
  rcases records_append raw s with hsame | ⟨hlast, hvalid, hadded⟩
  · refine ⟨⟨hsound, hsame ▸ h.sorted, hsame ▸ h.first, hsame ▸ h.bounded⟩, [], ?_, ?_⟩
    · rw [hsame, List.append_nil]
    · exact List.forall_mem_nil _
  · obtain ⟨record, hrecord⟩ : ∃ record, s.store.redactor.redact raw = record := ⟨_, rfl⟩
    have hsequence : record.sequence = raw.sequence := hrecord ▸ rfl
    have htime : record.occurredAtMs = raw.occurredAtMs := hrecord ▸ rfl
    rw [hrecord] at hadded
    have hpos : 1 ≤ raw.sequence ∧ s.store.lastSequence < raw.sequence := by
      cases hend : s.store.records.getLast? with
      | none =>
        have hpos := hfirst (List.getLast?_eq_none_iff.1 hend)
        rw [lastSequence, hend]
        exact ⟨hpos, hpos⟩
      | some last =>
        have hlt := hlast last hend
        rw [lastSequence, hend]
        exact ⟨Nat.one_le_of_lt hlt, hlt⟩
    -- Every record that is there stays, and the new one is above all of them.
    have hmember {P : AuditRecord → Prop} (hold : ∀ r ∈ s.store.records, P r) (hnew : P record) :
        ∀ r ∈ ((append raw).exec s).2.store.records, P r := by
      intro r hr
      rw [hadded] at hr
      rcases List.mem_append.1 hr with hr | hr
      · exact hold r hr
      · exact List.mem_singleton.1 hr ▸ hnew
    refine ⟨⟨hsound, ?_, hmember h.first (hsequence ▸ hpos.1), hmember h.bounded ?_⟩, [record], hadded, ?_⟩
    · rw [hadded]
      refine List.pairwise_append.2 ⟨h.sorted, List.pairwise_singleton _ _, ?_⟩
      intro r hr _ hother
      rw [List.mem_singleton.1 hother, hsequence]
      exact Nat.lt_of_le_of_lt (h.le_last hr) hpos.2
    · exact ⟨hsequence ▸ hraw.1, htime ▸ hraw.2⟩
    · intro r hr
      rw [List.mem_singleton.1 hr, hsequence]
      exact hpos.2

theorem sound_of_coherent {layout : Layout} {tail : List StoredEntry} (h : Coherent s layout tail) :
    Sound s := by
  intro _ hmem
  rw [h.records] at hmem
  have hentries : (layout ++ [(s.store.current, tail)]).entries = layout.entries ++ tail := by
    rw [Layout.entries_append]
    exact congrArg (layout.entries ++ ·) (List.append_nil tail)
  obtain ⟨p, hp, hentry⟩ := List.mem_flatMap.1 (hentries ▸ mem_recordsOf.1 hmem)
  exact (h.represents.stored p hp _ hentry).1

def Timed (s : AuditState) : Prop := ∀ record ∈ s.store.records, record.occurredAtMs ≤ u64Max

theorem timed_of_step {allowed : AuditState → AuditCall → Prop} {s' : AuditState}
    (hcoherent : ∃ layout tail, Coherent s layout tail) (h : Step allowed s s') (hs : Timed s) :
    Timed s' := by
  obtain ⟨layout, tail, hcoherent⟩ := hcoherent
  cases h with
  | @reopened retention redactor maxSegmentBytes store dir hopen =>
    obtain ⟨_, -, hexec⟩ := hcoherent.reopen retention redactor (limit_of_opened hopen)
    rw [hexec] at hopen
    cases hopen
    intro record hmem
    exact hs record (hcoherent.records ▸ hmem)
  | called call hcall =>
    cases call with
    | append raw =>
      change Timed ((AuditStore.append raw).exec s).2
      rcases records_append raw s with hsame | ⟨-, -, hadded⟩
      · exact fun record hmem => hs record (hsame ▸ hmem)
      · intro record hmem
        rw [hadded] at hmem
        rcases List.mem_append.1 hmem with hmem | hmem
        · exact hs record hmem
        · exact List.mem_singleton.1 hmem ▸ hcall.2
    | delete filter nowMs =>
      rw [exec_delete_program]
      have hdeleted := hcoherent.delete filter nowMs
      generalize (AuditStore.delete filter nowMs).exec s = run at hdeleted
      cases hdeleted with
      | refused | nothing => exact hs
      | rewritten _ _ _ store =>
        intro record hmem
        have hrecords := congrArg AuditStore.records store
        rcases List.mem_append.1 (hrecords ▸ hmem) with hmem | hmem
        · exact hs record (List.mem_of_mem_filter hmem)
        · exact List.mem_singleton.1 hmem ▸ hcall
    | enforceRetention nowMs =>
      change Timed ((AuditStore.enforceRetention nowMs).exec s).2
      have henforced := hcoherent.enforceRetention nowMs
      generalize (AuditStore.enforceRetention nowMs).exec s = run at henforced
      cases henforced with
      | idle | blocked | stopped => exact hs
      | compacted => exact fun record hmem => hs record (List.mem_of_mem_filter hmem)

theorem timed_of_reachable {allowed : AuditState → AuditCall → Prop} (h : Reachable allowed s) :
    Timed s := by
  obtain ⟨_, hopened, hrun⟩ := h
  have hcoherent := coherent_of_opened hopened
  induction hrun with
  | refl =>
    intro _ hmem
    rw [hcoherent.records] at hmem
    exact absurd hmem List.not_mem_nil
  | tail hrun hstep ih => exact timed_of_step (coherent_of_run hrun ⟨_, _, hcoherent⟩) hstep ih

/-- **The records of every store are in order**, and have been checked. -/
theorem numbered_of_reachable {allowed : AuditState → AuditCall → Prop} (h : Reachable allowed s)
    (hfirst : ∀ record ∈ s.store.records, 1 ≤ record.sequence) : Numbered s := by
  obtain ⟨_, _, hcoherent⟩ := coherent_of_reachable h
  refine ⟨sound_of_coherent hcoherent, List.pairwise_map.1 hcoherent.increasing, hfirst, ?_⟩
  exact fun record hmem => ⟨hcoherent.bounded record hmem, timed_of_reachable h record hmem⟩

/-! ### Following the next cursor -/

/-- The pages that a reader has been given, and its cursor. Each page but the last names the next
cursor, and in between records are appended, whether all files can be written or not. -/
inductive Paged (filter : AuditFilter) (s : AuditState) :
    List CursorPage → AuditState → Option EventCursor → Prop
  | start : Paged filter s [] s none
  | page {pages : List CursorPage} {s' : AuditState} {cursor : Option EventCursor}
      (h : Paged filter s pages s' cursor) {limit : ℕ} {page : CursorPage} {next : EventCursor}
      (hpage : s'.store.query filter cursor limit = .ok page) (hnext : page.nextCursor = some next) :
      Paged filter s (pages ++ [page]) s' (some next)
  | append {pages : List CursorPage} {s' : AuditState} {cursor : Option EventCursor}
      (h : Paged filter s pages s' cursor) {raw : RawAuditRecord}
      (hraw : (AuditCall.append raw).InU64) (hfirst : s'.store.records = [] → 1 ≤ raw.sequence) :
      Paged filter s pages ((append raw).exec s').2 cursor

/-- The records of pages. -/
def itemsOf (pages : List CursorPage) : List AuditRecord := pages.flatMap CursorPage.items

omit [Sha256] in
@[simp] theorem itemsOf_concat (pages : List CursorPage) (page : CursorPage) :
    itemsOf (pages ++ [page]) = itemsOf pages ++ page.items := by
  rw [itemsOf, itemsOf, List.flatMap_append, List.flatMap_singleton]

/-- A page can be sent. -/
def Encodes (page : CursorPage) : Prop :=
  ∃ bytes, page.toVec = .ok bytes ∧ bytes.length ≤ maxQueryBytes

omit [Sha256] in
theorem exists_mapM_toVec {records : List AuditRecord}
    (h : ∀ record ∈ records, (StoredEntry.record record).Valid) :
    ∃ encoded, (records.mapM fun record => (StoredEntry.record record).toVec) = .ok encoded := by
  induction records with
  | nil => exact ⟨[], rfl⟩
  | cons record records ih =>
    obtain ⟨encoded, hencoded⟩ := ih (List.forall_mem_cons.1 h).2
    rw [List.mapM_cons, StoredEntry.toVec_eq_ok (h record List.mem_cons_self), ok_bind, hencoded]
    exact ⟨_, rfl⟩

section

variable {s s' : AuditState} {filter : AuditFilter} {cursor : Option EventCursor} {limit : ℕ}
  {page : CursorPage} {pages : List CursorPage}

omit [Sha256]

theorem Answered.split (h : Answered s.store filter cursor limit page) :
    ∃ unseen, Cursors.beyond AuditRecord.sequence (after cursor) (s.store.matching filter)
        = page.items ++ unseen ∧ page.items.length ≤ limit := by
  obtain ⟨_, unseen, hrecords, hpage, hle⟩ := exists_of_fillPage h.limit_pos h.filled
  rw [List.nil_append] at hpage
  exact ⟨unseen, hpage ▸ hrecords, hle⟩

theorem Answered.mem (h : Answered s.store filter cursor limit page) {record : AuditRecord}
    (hmem : record ∈ page.items) : record ∈ s.store.matching filter := by
  obtain ⟨_, hsplit, -⟩ := h.split
  have hbeyond : record ∈ Cursors.beyond AuditRecord.sequence (after cursor)
      (s.store.matching filter) := hsplit ▸ List.mem_append_left _ hmem
  exact List.mem_of_mem_filter hbeyond

/-- **Every page can be sent**, and it is not longer than it may be. -/
theorem Answered.encodes (h : Answered s.store filter cursor limit page) (hs : Sound s) :
    Encodes page := by
  obtain ⟨_, -, hle⟩ := h.split
  obtain ⟨_, hcounted⟩ := counted_of_fillPage counted_nil h.filled
  have hvalid : ∀ record ∈ page.items, (StoredEntry.record record).Valid := fun record hmem =>
    hs record (List.mem_of_mem_filter (h.mem hmem))
  obtain ⟨_, hencoded⟩ := exists_mapM_toVec hvalid
  have hfew : ¬page.items.length > maxPageItems := not_lt.2 (hle.trans h.limit_le)
  have hpage : page = ⟨page.items, page.items.getLast?.map fun record => ⟨1, record.sequence⟩⟩ := by
    rw [← h.nextCursor]
  refine ⟨page.toJson.toVec, ?_, ?_⟩
  · rw [CursorPage.toVec, failIf_bind, if_neg hfew, hencoded]
    rfl
  · rw [hpage]
    exact length_toVec_of_counted hcounted

/-- **A page that is empty is the last one**: there is nothing beyond the cursor. -/
theorem Answered.done (h : Answered s.store filter cursor limit page) (hs : Numbered s)
    (hnext : page.nextCursor = none) :
    page.items = [] ∧
      Cursors.beyond AuditRecord.sequence (after cursor) (s.store.matching filter) = [] := by
  have hitems : page.items = [] := by
    rw [h.nextCursor, Option.map_eq_none_iff] at hnext
    exact List.getLast?_eq_none_iff.1 hnext
  refine ⟨hitems, ?_⟩
  cases hbeyond : Cursors.beyond AuditRecord.sequence (after cursor) (s.store.matching filter) with
  | nil => rfl
  | cons record =>
    have hmem : record ∈ s.store.records := by
      have hfirst : record ∈ Cursors.beyond AuditRecord.sequence (after cursor)
          (s.store.matching filter) := hbeyond ▸ List.mem_cons_self
      exact List.mem_of_mem_filter (List.mem_of_mem_filter hfirst)
    have hfilled := h.filled
    rw [hbeyond] at hfilled
    exact absurd hitems
      (fillPage_ne_nil h.limit_pos (hs.sound record hmem) (hs.bounded record hmem) hfilled)

theorem Answered.next (h : Answered s.store filter cursor limit page) {next : EventCursor}
    (hnext : page.nextCursor = some next) :
    ∃ last ∈ page.items.getLast?, after (some next) = last.sequence := by
  rw [h.nextCursor, Option.map_eq_some_iff] at hnext
  obtain ⟨last, hlast, rfl⟩ := hnext
  exact ⟨last, hlast, rfl⟩

theorem exists_answered (hs : Numbered s) (havailable : s.store.available = true)
    (hafter : after cursor ≤ s.store.lastSequence) (hpos : 1 ≤ limit) (hle : limit ≤ maxPageRecords) :
    ∃ page, Answered s.store filter cursor limit page := by
  obtain ⟨items, hitems⟩ := @exists_fillPage
    (Cursors.beyond AuditRecord.sequence (after cursor) (s.store.matching filter))
    (fun record hmem => hs.sound record (List.mem_of_mem_filter (List.mem_of_mem_filter hmem)))
    limit [] 0
  exact ⟨⟨items, items.getLast?.map fun record => ⟨1, record.sequence⟩⟩, havailable, hpos, hle,
    hafter, hitems, rfl⟩

end

structure Follows (filter : AuditFilter) (s : AuditState) (pages : List CursorPage) (s' : AuditState)
    (cursor : Option EventCursor) : Prop where
  numbered : Numbered s'
  grows : s.store.records <+: s'.store.records
  read : itemsOf pages = Cursors.upTo AuditRecord.sequence (after cursor) (s'.store.matching filter)
  after_le : after cursor ≤ s'.store.lastSequence
  encodes : ∀ page ∈ pages, Encodes page
  length_le : pages.length ≤ (itemsOf pages).length

namespace Follows

variable {filter : AuditFilter} {s s' : AuditState} {pages : List CursorPage}
  {cursor : Option EventCursor}

omit [Sha256] in
theorem start (h : Numbered s) (filter : AuditFilter) : Follows filter s [] s none where
  numbered := h
  grows := List.prefix_rfl
  read := by
    refine (Cursors.upTo_eq_nil fun record hmem => ?_).symm
    exact h.first record (List.mem_of_mem_filter hmem)
  after_le := Nat.zero_le _
  encodes _ hmem := absurd hmem List.not_mem_nil
  length_le := Nat.le_refl _

omit [Sha256] in
theorem page (h : Follows filter s pages s' cursor) {limit : ℕ} {page : CursorPage}
    {next : EventCursor} (hpage : Answered s'.store filter cursor limit page)
    (hnext : page.nextCursor = some next) : Follows filter s (pages ++ [page]) s' (some next) := by
  obtain ⟨last, hlast, hafter⟩ := hpage.next hnext
  obtain ⟨_, hsplit, -⟩ := hpage.split
  have hmem : last ∈ page.items := List.mem_of_mem_getLast? hlast
  refine ⟨h.numbered, h.grows, ?_, ?_, ?_, ?_⟩
  · rw [itemsOf_concat, h.read, hafter]
    exact (Cursors.upTo_of_seen (h.numbered.sorted_matching filter) hsplit hlast).symm
  · rw [hafter]
    exact h.numbered.le_last (List.mem_of_mem_filter (hpage.mem hmem))
  · intro other hother
    rcases List.mem_append.1 hother with hother | hother
    · exact h.encodes other hother
    · exact List.mem_singleton.1 hother ▸ hpage.encodes h.numbered.sound
  · have hpos : 0 < page.items.length := List.length_pos_of_mem hmem
    have hle := h.length_le
    rw [itemsOf_concat, List.length_append, List.length_append, List.length_singleton]
    omega

theorem append (h : Follows filter s pages s' cursor) {raw : RawAuditRecord}
    (hraw : (AuditCall.append raw).InU64) (hfirst : s'.store.records = [] → 1 ≤ raw.sequence) :
    Follows filter s pages ((AuditStore.append raw).exec s').2 cursor := by
  obtain ⟨hnumbered, new, hnew, hbeyond⟩ := numbered_append h.numbered hraw hfirst
  refine ⟨hnumbered, ?_, ?_, ?_, h.encodes, h.length_le⟩
  · rw [hnew]
    exact h.grows.trans (List.prefix_append _ _)
  · -- The new records lie beyond the cursor.
    rw [h.read, matching, matching, hnew, List.filter_append, Cursors.upTo_of_append]
    intro record hmem
    exact Nat.lt_of_le_of_lt h.after_le (hbeyond record (List.mem_of_mem_filter hmem))
  · refine h.after_le.trans ?_
    cases hend : s'.store.records.getLast? with
    | none =>
      rw [lastSequence, hend]
      exact Nat.zero_le _
    | some last =>
      have hmem : last ∈ ((AuditStore.append raw).exec s').2.store.records :=
        hnew ▸ List.mem_append_left _ (List.mem_of_mem_getLast? hend)
      have hle := hnumbered.le_last hmem
      rwa [lastSequence, hend]

theorem of_paged (hs : Numbered s) (h : Paged filter s pages s' cursor) :
    Follows filter s pages s' cursor := by
  induction h with
  | start => exact start hs filter
  | page _ hpage hnext ih => exact ih.page (query_eq_ok.1 hpage) hnext
  | append _ hraw hfirst ih => exact ih.append hraw hfirst

end Follows

/-- **Reading in pages is complete.**  Whatever the limits are and whatever is appended in between, the
pages that a reader has been given can be sent, there are not more of them than records, queries are
answered, and with a page that has no next cursor the reader has every record that it asks for once, in
order. -/
theorem paged_complete {filter : AuditFilter} {s s' : AuditState} {pages : List CursorPage}
    {cursor : Option EventCursor} (hs : Numbered s) (h : Paged filter s pages s' cursor) :
    s.store.records <+: s'.store.records ∧
      (∀ page ∈ pages, Encodes page) ∧
      pages.length ≤ (s'.store.matching filter).length ∧
      Cursors.Sorted AuditRecord.sequence (s'.store.matching filter) ∧
      ∀ limit, 1 ≤ limit → limit ≤ maxPageRecords →
        (s'.store.available = true → ∃ page, s'.store.query filter cursor limit = .ok page) ∧
        ∀ page, s'.store.query filter cursor limit = .ok page →
          Encodes page ∧
            (page.nextCursor = none → itemsOf (pages ++ [page]) = s'.store.matching filter) := by
  have hfollows := Follows.of_paged hs h
  have hsorted := hfollows.numbered.sorted_matching filter
  have hcut := Cursors.upTo_append_beyond hsorted (after cursor)
  refine ⟨hfollows.grows, hfollows.encodes, ?_, hsorted, ?_⟩
  · refine hfollows.length_le.trans ?_
    rw [hfollows.read]
    exact List.length_filter_le _ _
  · intro limit hpos hle
    constructor
    · intro havailable
      obtain ⟨page, hpage⟩ := @exists_answered _ filter cursor limit hfollows.numbered havailable
        hfollows.after_le hpos hle
      exact ⟨page, query_eq_ok.2 hpage⟩
    · intro page hpage
      have hanswered := query_eq_ok.1 hpage
      refine ⟨hanswered.encodes hfollows.numbered.sound, fun hnext => ?_⟩
      obtain ⟨hitems, hbeyond⟩ := hanswered.done hfollows.numbered hnext
      rw [hbeyond, List.append_nil] at hcut
      rw [itemsOf_concat, hitems, List.append_nil, hfollows.read, hcut]

theorem numbered_sampleState : Numbered sampleState where
  sound record hmem := List.mem_singleton.1 hmem ▸ stored_sampleRecord.1
  sorted := List.pairwise_singleton _ _
  first record hmem := List.mem_singleton.1 hmem ▸ Nat.le_refl 1
  bounded record hmem := List.mem_singleton.1 hmem ▸ ⟨by decide, by decide⟩

omit [Sha256] in
/-- A reader of the sample store gets its record with the first page, and then no other. -/
theorem sampleState_paged : letI := sampleHash
    ∃ page next, Paged AuditFilter.default sampleState [page] sampleState (some next) ∧
      ∀ last, sampleState.store.query AuditFilter.default (some next) 256 = .ok last →
        last.nextCursor = none → itemsOf [page, last] = [sampleRecord] := by
  let _ := sampleHash
  obtain ⟨page, hpage⟩ := @exists_answered sampleState AuditFilter.default none 256
    numbered_sampleState rfl (Nat.zero_le _) (by decide) (by decide)
  have hbeyond : Cursors.beyond AuditRecord.sequence (after none)
      (sampleState.store.matching AuditFilter.default) = [sampleRecord] := by decide
  obtain ⟨next, hnext⟩ : ∃ next, page.nextCursor = some next := by
    cases hnone : page.nextCursor with
    | none =>
      have hnil := (hpage.done numbered_sampleState hnone).2
      rw [hbeyond] at hnil
      exact absurd hnil (List.cons_ne_nil _ _)
    | some next => exact ⟨next, rfl⟩
  have hpaged := Paged.start.page (query_eq_ok.2 hpage) hnext
  refine ⟨page, next, hpaged, fun last hlast hend => ?_⟩
  obtain ⟨-, -, -, -, hread⟩ := paged_complete numbered_sampleState hpaged
  exact ((hread 256 (by decide) (by decide)).2 last hlast).2 hend

end

end AuditStore

end Dashboard
