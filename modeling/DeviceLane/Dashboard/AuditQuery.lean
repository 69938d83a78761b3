/-
**Queries of the audit records.**

The records are read in pages. A page ends with as many records as were asked for, or before the first
one that would make it too long. What is stored has been checked when it was written or read, and a
record that has been checked is short: a page with one record is far below every limit.

Main definitions:

* `Dashboard.CursorPage`, `Dashboard.AuditStore.query` — pages of records.

Main results:

* `AuditStore.sound_append` — **only what has been checked is appended**.
-/

import DeviceLane.Dashboard.ServiceRecords

namespace Dashboard

open Effect

/-! ### Pages -/

def maxPageItems : ℕ := 256

structure CursorPage where
  items : List AuditRecord
  nextCursor : Option EventCursor
  deriving DecidableEq

def EventCursor.toJson (cursor : EventCursor) : Json :=
  .obj [("epoch", .num cursor.epoch), ("sequence", .num cursor.sequence)]

def CursorPage.toJson (page : CursorPage) : Json :=
  .obj
    [("items", .arr (page.items.map AuditRecord.toJson)),
      ("next_cursor", (page.nextCursor.map EventCursor.toJson).getD .null)]

/-- The bytes of a page. Serialization checks it, and each record. -/
def CursorPage.toVec (page : CursorPage) : Except ValidationError (List UInt8) := do
  failIf (page.items.length > maxPageItems) (.at "page_too_large" "items")
  let _ ← page.items.mapM fun record => (StoredEntry.record record).toVec
  pure page.toJson.toVec

namespace AuditStore

def maxPageRecords : ℕ := 256

def maxQueryBytes : ℕ := 1024 * 1024

def cursorPageEncodedLen (itemsBytes : ℕ) (cursor : EventCursor) : ℕ :=
  10 + itemsBytes + 16 + cursor.toJson.toVec.length + 1

def fillPage (limit : ℕ) :
    List AuditRecord → List AuditRecord → ℕ → Except AuditError (List AuditRecord)
  | [], items, _ => .ok items
  | record :: records, items, encodedItemsBytes => do
      let item ← (StoredEntry.record record).toVec.mapError fun _ => .serialization
      let candidate :=
        saturatingAdd encodedItemsBytes (item.length + if items = [] then 0 else 1)
      if cursorPageEncodedLen candidate ⟨1, record.sequence⟩ > maxQueryBytes then
        .ok items
      else if items.length + 1 = limit then
        .ok (items ++ [record])
      else
        fillPage limit records (items ++ [record]) candidate

def query (filter : AuditFilter) (cursor : Option EventCursor) (limit : ℕ) (store : AuditStore) :
    Except AuditError CursorPage := do
  failIf (store.available = false) .auditUnavailable
  failIf (limit = 0 ∨ limit > maxPageRecords) .limitExceeded
  let after := (cursor.map EventCursor.sequence).getD 0
  failIf (after > store.lastSequence) .cursorAhead
  let items ← fillPage limit
    (store.records.filter fun record => record.sequence > after ∧ filter.matches record) [] 0
  .ok ⟨items, items.getLast?.map fun record => ⟨1, record.sequence⟩⟩

/-! ### Stored records have been checked -/

def Sound (s : AuditState) : Prop := ∀ record ∈ s.store.records, (StoredEntry.record record).Valid

theorem sound_onDir {α : Type} (m : Eff AuditDir AuditError α) : Within (Preserves Sound) (onDir m) :=
  fun _ hs => hs

theorem sound_update {f : AuditStore → AuditStore} (h : ∀ store, (f store).records = store.records) :
    Within (Preserves Sound) (update f) := by
  intro s hs record hmem
  exact hs record (h s.store ▸ hmem)

theorem sound_writeIndex : Within (Preserves Sound) writeIndex :=
  Within.get fun s => sound_onDir _ s

theorem sound_orUnavailable {m : Eff AuditState AuditError Unit} (h : Within (Preserves Sound) m) :
    Within (Preserves Sound) (orUnavailable m) := by
  refine (Within.attempt h).bind fun result => ?_
  cases result with
  | ok => exact Within.pure _
  | error =>
    refine Within.bind ?_ fun _ => Within.throw _
    exact sound_update fun _ => rfl

theorem sound_rotate : Within (Preserves Sound) rotate := by
  refine Within.get fun s => Within.bind (sound_onDir _) (fun _ => ?_) s
  refine Within.bind (sound_onDir _) fun _ => Within.bind ?_ fun _ => sound_writeIndex
  exact sound_update fun _ => rfl

section

variable [Sha256]

variable {record : AuditRecord}

theorem sound_appendInner (h : (StoredEntry.record record).Valid) (payload : List UInt8) (frameLen : ℕ) :
    Within (Preserves Sound) (appendInner record payload frameLen) := by
  have hrecorded : Within (Preserves Sound) (update fun store =>
      { store with
        currentDay := some (record.occurredAtMs / dayMs)
        records := store.records ++ [record] }) := by
    intro s hs other hmem
    rcases List.mem_append.1 hmem with hmem | hmem
    · exact hs other hmem
    · rw [List.mem_singleton.1 hmem]
      exact h
  refine Within.get fun s => ((sound_onDir _).bind fun segmentLen => Within.bind ?_ fun _ =>
    Within.get fun s => ((sound_onDir _).bind fun _ => hrecorded.bind fun _ => sound_writeIndex) s) s
  unfold onlyIf
  exact Within.ite (fun _ => sound_rotate) fun _ => Within.pure _

/-- **Only what has been checked is appended.** -/
theorem sound_append (raw : RawAuditRecord) : Within (Preserves Sound) (append raw) := by
  refine Within.get fun s => (Within.throwIf_bind fun _ => Within.throwIf_bind fun _ =>
    Within.throwIf_bind fun hvalid => (Within.orThrow _ _).bind fun payload =>
      (Within.orThrow _ _).bind fun frameLen => Within.throwIf_bind fun _ => ?_) s
  exact sound_orUnavailable (sound_appendInner
    ⟨not_not.1 hvalid, Redactor.validMessage_redact _ _⟩ _ _)

end

end AuditStore

/-! ### The service -/

namespace DashboardService

variable [Sha256]

def auditQuery (filter : AuditFilter) (cursor : Option EventCursor) (limit : ℕ)
    (s : DashboardService) : Except DashboardServiceError CursorPage :=
  if s.auditHealthy = false then .error .auditUnavailable
  else (s.audit.store.query filter cursor limit).mapError mapAuditError

end DashboardService

end Dashboard
