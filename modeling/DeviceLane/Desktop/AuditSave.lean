/-
**Saving an audit export.**

The desktop asks the daemon for the manifest of the records that match a filter, collects the records page
by page, compares their number and their digest with the manifest, and only then writes the file. What
the daemon has in store may be another thing at every request. A page of valid records stays below the
bound of a response, so that nothing but a change, a store that is not available or the file system keeps
the desktop from saving.

Main definitions:

* `Desktop.saveAuditExportToPath` — the call, against the states of the daemon at its requests.

Main results:

* `Desktop.savesExactly` — **a file that is written holds what the manifest describes**.
-/

import DeviceLane.Dashboard.AuditExport
import DeviceLane.Dashboard.ModelReads
import Mathlib.Algebra.Order.BigOperators.Group.List

namespace Dashboard

open JsonCodec

/-! ### Pages that are read back -/

def EventCursor.fromJson (j : Json) : Option EventCursor := do
  let fields ← j.fieldsOf ["epoch", "sequence"]
  let epoch ← Json.requiredU64 fields "epoch"
  let sequence ← Json.requiredU64 fields "sequence"
  some ⟨epoch, sequence⟩

def optionalCursor : Json → Option (Option EventCursor)
  | .null => some none
  | j => (EventCursor.fromJson j).map some

def CursorPage.fromJson (j : Json) : Option CursorPage := do
  let fields ← j.fieldsOf ["items", "next_cursor"]
  let items ← match fields.lookup "items" with
    | some (.arr items) => items.mapM AuditRecord.fromJson
    | _ => none
  let nextCursor ← optionalCursor ((fields.lookup "next_cursor").getD .null)
  if items.length > maxPageItems then none else some ⟨items, nextCursor⟩

theorem mapM_fromJson {records : List AuditRecord}
    (h : ∀ record ∈ records, (StoredEntry.record record).Valid) :
    (records.map AuditRecord.toJson).mapM AuditRecord.fromJson = some records := by
  induction records with
  | nil => rfl
  | cons record records ih =>
    obtain ⟨hhead, hrest⟩ := List.forall_mem_cons.1 h
    rw [List.map_cons, List.mapM_cons, AuditRecord.fromJson_toJson hhead.1 hhead.2, ih hrest]
    rfl

theorem optionalCursor_toJson {cursor : Option EventCursor}
    (h : ∀ c ∈ cursor, c.epoch ≤ u64Max ∧ c.sequence ≤ u64Max) :
    optionalCursor ((cursor.map EventCursor.toJson).getD .null) = some cursor := by
  cases cursor with
  | none => rfl
  | some c =>
    obtain ⟨hepoch, hsequence⟩ := h c rfl
    have hread : EventCursor.fromJson c.toJson = some c := by
      have hfields : c.toJson.fieldsOf ["epoch", "sequence"]
          = some [("epoch", .num c.epoch), ("sequence", .num c.sequence)] := by
        simp [EventCursor.toJson, Json.fieldsOf]
      rw [EventCursor.fromJson]
      exact Json.bind_of_eq_some hfields <| Json.bind_of_eq_some (if_pos hepoch) <|
        Json.bind_of_eq_some (if_pos hsequence) rfl
    change (EventCursor.fromJson c.toJson).map some = _
    rw [hread]
    rfl

theorem CursorPage.fromJson_toJson {page : CursorPage}
    (hitems : ∀ record ∈ page.items, (StoredEntry.record record).Valid)
    (hlength : page.items.length ≤ maxPageItems)
    (hcursor : ∀ c ∈ page.nextCursor, c.epoch ≤ u64Max ∧ c.sequence ≤ u64Max) :
    fromJson page.toJson = some page := by
  have hfields : page.toJson.fieldsOf ["items", "next_cursor"]
      = some [("items", .arr (page.items.map AuditRecord.toJson)),
        ("next_cursor", (page.nextCursor.map EventCursor.toJson).getD .null)] := by
    simp [CursorPage.toJson, Json.fieldsOf]
  rw [fromJson]
  exact Json.bind_of_eq_some hfields <| Json.bind_of_eq_some (mapM_fromJson hitems) <|
    Json.bind_of_eq_some (optionalCursor_toJson hcursor) (if_neg (not_lt.2 hlength))

theorem DisplayMessage.toJson_injective : Function.Injective DisplayMessage.toJson := by
  intro a b h
  simp only [toJson, Json.obj.injEq, List.cons.injEq, Prod.mk.injEq, true_and, and_true] at h
  cases a
  cases b
  rw [mk.injEq]
  exact ⟨JsonCodec.toJson_injective h.1, JsonCodec.toJson_injective h.2⟩

theorem AuditRecord.toJson_injective : Function.Injective AuditRecord.toJson := by
  intro a b h
  simp only [toJson, fields, Json.obj.injEq, List.cons.injEq, Prod.mk.injEq, true_and, and_true] at h
  obtain ⟨hsequence, htime, hactivity, hprincipal, hsource, htarget, hdevice, hoperation, hresources,
    hdecision, hresult, hmessage⟩ := h
  have hmessages : a.redactedMessage = b.redactedMessage := by
    cases ha : a.redactedMessage <;> cases hb : b.redactedMessage <;> rw [ha, hb] at hmessage
    · cases hmessage
    · cases hmessage
    · exact congrArg some (DisplayMessage.toJson_injective hmessage)
  cases a
  cases b
  rw [mk.injEq]
  exact ⟨JsonCodec.toJson_injective hsequence, JsonCodec.toJson_injective htime,
    optionToJson_injective hactivity, JsonCodec.toJson_injective hprincipal,
    JsonCodec.toJson_injective hsource, JsonCodec.toJson_injective htarget,
    optionToJson_injective hdevice, JsonCodec.toJson_injective hoperation,
    JsonCodec.toJson_injective hresources, JsonCodec.toJson_injective hdecision,
    JsonCodec.toJson_injective hresult, hmessages⟩

/-! ### The bound of a response -/

def maxResponseBytes : ℕ := 512 * 1024

def CursorPage.response (page : CursorPage) : Json :=
  .obj [("type", .str "audit_records"), ("payload", page.toJson)]

theorem length_arr_le {items : List Json} {bound : ℕ} (h : ∀ item ∈ items, item.toVec.length ≤ bound) :
    (Json.arr items).toVec.length ≤ items.length * (bound + 1) + 2 := by
  cases items with
  | nil => exact Nat.le_add_left _ _
  | cons item items =>
    have hsum : ((item :: items).map fun item => item.toVec.length + 1).sum
        ≤ ((item :: items).map fun item => item.toVec.length + 1).length * (bound + 1) := by
      refine List.sum_le_card_nsmul _ _ fun n hn => ?_
      obtain ⟨item, hitem, rfl⟩ := List.mem_map.1 hn
      exact Nat.succ_le_succ (h item hitem)
    rw [List.length_map] at hsum
    rw [Json.length_toVec_arr (List.cons_ne_nil _ _)]
    omega

theorem length_message_le {message : Option DisplayMessage} (h : ∀ m ∈ message, m.validate = .ok ()) :
    ((message.map DisplayMessage.toJson).getD .null).toVec.length ≤ 2000 := by
  cases message with
  | none => decide
  | some m =>
    have hcode : ∀ c : MessageCode, (JsonCodec.toJson c).toVec.length ≤ 40 := by
      intro c
      cases c <;> decide
    have hparam : ∀ p : MessageParam, (JsonCodec.toJson p).toVec.length ≤ 13 := by
      intro p
      cases p <;> decide
    have hparams : (Json.arr (m.params.map toJson)).toVec.length ≤ m.params.length * 14 + 2 := by
      have hle := @length_arr_le (m.params.map toJson) 13 fun item hitem => by
        obtain ⟨p, -, rfl⟩ := List.mem_map.1 hitem
        exact hparam p
      rwa [List.length_map] at hle
    have hlen := length_params_le (h m rfl)
    have hkeys : Json.quoted "code" + Json.quoted "params" = 14 := by decide
    have hcodeBound := hcode m.code
    change (Json.obj [("code", toJson m.code), ("params", .arr (m.params.map toJson))]).toVec.length ≤ _
    rw [Json.length_toVec_fields (List.cons_ne_nil _ _)]
    simp only [Json.fieldsBytes_cons, Json.fieldsBytes_nil]
    omega

theorem encodedBytes_le {record : AuditRecord} (hvalid : (StoredEntry.record record).Valid)
    (hnum : record.InU64) : record.encodedBytes ≤ 16000 := by
  have hle : ∀ {j : Json} {bound : ℕ}, j.sizeBound ≤ bound → j.toVec.length ≤ bound :=
    fun h => Nat.le_trans (Json.length_toVec_le _) h
  have hid : ∀ {kind : IdKind} (id : ValidatedId kind), (toJson id).toVec.length ≤ 1538 :=
    fun id => hle (sizeBound_id id)
  have hoption : ∀ {kind : IdKind} (id : Option (ValidatedId kind)),
      (optionToJson id).toVec.length ≤ 1538 :=
    fun id => hle (sizeBound_option (by omega) fun id _ => sizeBound_id id)
  have hresources := hle (sizeBound_resources (validateUniqueResources_eq_ok.1 hvalid.1).2)
  have hsequence := hle (sizeBound_num hnum.sequence_le)
  have htime := hle (sizeBound_num hnum.occurredAtMs_le)
  have hdecision : (toJson record.decision).toVec.length ≤ 40 := by
    cases record.decision <;> decide
  have hresult : (toJson record.result).toVec.length ≤ 40 := by
    cases record.result <;> decide
  have hmessage := length_message_le hvalid.2
  have hactivity := hoption record.activityId
  have hprincipal := hid record.principalId
  have hsource := hid record.sourceHostId
  have htarget := hid record.targetHostId
  have hdevice := hoption record.deviceId
  have hoperation := hid record.operation
  have hkeys : (AuditRecord.fieldNames.map Json.quoted).sum ≤ 200 := by decide
  have hsum : (record.fields.map fun field => Json.quoted field.1).sum ≤ 200 := hkeys
  have hfields : record.fields ≠ [] := List.cons_ne_nil _ _
  change (Json.obj record.fields).toVec.length ≤ _
  rw [Json.length_toVec_fields hfields]
  simp only [AuditRecord.fields, Json.fieldsBytes_cons, Json.fieldsBytes_nil, List.map_cons,
    List.map_nil, List.sum_cons, List.sum_nil] at hsum ⊢
  omega

/-- **A page of a few valid records fits a response.** -/
theorem length_response_le {page : CursorPage} (hlength : page.items.length ≤ 32)
    (hvalid : ∀ record ∈ page.items, (StoredEntry.record record).Valid ∧ record.InU64)
    (hcursor : ∀ c ∈ page.nextCursor, c.epoch = 1 ∧ c.sequence ≤ u64Max) :
    page.response.toVec.length < maxResponseBytes := by
  have hitems := @length_arr_le (page.items.map AuditRecord.toJson) 16000 fun item hitem => by
    obtain ⟨record, hrecord, rfl⟩ := List.mem_map.1 hitem
    exact encodedBytes_le (hvalid record hrecord).1 (hvalid record hrecord).2
  have hnext : ((page.nextCursor.map EventCursor.toJson).getD .null).toVec.length ≤ 2 ^ 10 := by
    cases hcase : page.nextCursor with
    | none => decide
    | some c =>
      obtain ⟨epoch, sequence⟩ := c
      obtain ⟨rfl, hsequence⟩ := hcursor ⟨epoch, sequence⟩ hcase
      exact AuditStore.length_cursor_le hsequence
  have hmax : maxResponseBytes = 524288 := rfl
  have hkeys : Json.quoted "type" + Json.quoted "payload" + Json.quoted "items"
      + Json.quoted "next_cursor" + (Json.str "audit_records").toVec.length = 50 := by decide
  rw [List.length_map] at hitems
  rw [CursorPage.response, Json.length_toVec_fields (List.cons_ne_nil _ _)]
  simp only [CursorPage.toJson, Json.fieldsBytes_cons, Json.fieldsBytes_nil,
    Json.length_toVec_fields (List.cons_ne_nil _ _)]
  omega

end Dashboard

namespace Desktop

open Dashboard Effect AuditStore

variable [Sha256]

/-! ### The call -/

inductive SaveError
  | refused (error : DashboardServiceError)
  | invalidResponse
  | changed
  | notWritten

/-- How writing the file ends: it is left alone, it is there but its directory has not been synced, or
all has been done. -/
inductive WriteOutcome
  | failed
  | notSynced
  | written

/-- What the call meets: the daemon as each of its requests finds it, and what becomes of the file. -/
structure Surroundings where
  daemon : ℕ → DashboardService
  write : WriteOutcome

structure AuditDocument where
  records : List AuditRecord
  manifest : ExportManifest

structure Saving where
  result : Except SaveError ExportManifest
  file : Option AuditDocument
  requests : ℕ

def Bridge.auditExportManifest (s : DashboardService) (filter : AuditFilter) :
    Except SaveError ExportManifest :=
  if s.auditHealthy = false then .error (.refused .auditUnavailable)
  else (s.audit.store.exportManifest filter none).mapError fun error =>
    .refused (mapAuditError error)

/-- The answer to a request for a page: it is written and bounded by the daemon, and read here. -/
def Bridge.auditQuery (s : DashboardService) (filter : AuditFilter) (cursor : Option EventCursor)
    (limit : ℕ) : Except SaveError CursorPage := do
  let page ← (s.auditQuery filter cursor limit).mapError .refused
  let _ ← page.toVec.mapError fun _ => .invalidResponse
  failIf (page.response.toVec.length + 1 > maxResponseBytes) (.refused .limitExceeded)
  match CursorPage.fromJson page.toJson with
  | some page => .ok page
  | none => .error .invalidResponse

def collectPages (surroundings : Surroundings) (filter : AuditFilter) (recordCount requests : ℕ)
    (cursor : Option EventCursor) (records : List AuditRecord) :
    Except SaveError (List AuditRecord) × ℕ :=
  match Bridge.auditQuery (surroundings.daemon requests) filter cursor 32 with
  | .error error => (.error error, requests + 1)
  | .ok page =>
    if page.items = [] then (.ok records, requests + 1)
    else if (records ++ page.items).length > recordCount then (.error .changed, requests + 1)
    else
      collectPages surroundings filter recordCount (requests + 1) page.nextCursor
        (records ++ page.items)
  termination_by recordCount - records.length
  decreasing_by
    have hpos := List.length_pos_of_ne_nil ‹page.items ≠ []›
    rw [List.length_append] at *
    omega

def saveAuditExportToPath (surroundings : Surroundings) (filter : AuditFilter) : Saving :=
  match Bridge.auditExportManifest (surroundings.daemon 0) filter with
  | .error error => ⟨.error error, none, 1⟩
  | .ok manifest =>
    match collectPages surroundings filter manifest.recordCount 1 none [] with
    | (.error error, requests) => ⟨.error error, none, requests⟩
    | (.ok records, requests) =>
      if records.length ≠ manifest.recordCount ∨
          hex (Sha256.digest (recordsJson records)).toList ≠ manifest.recordsSha256 then
        ⟨.error .changed, none, requests⟩
      else
        match surroundings.write with
        | .failed => ⟨.error .notWritten, none, requests⟩
        | .notSynced => ⟨.error .notWritten, some ⟨records, manifest⟩, requests⟩
        | .written => ⟨.ok manifest, some ⟨records, manifest⟩, requests⟩

variable {surroundings : Surroundings} {filter : AuditFilter} {recordCount requests : ℕ}
  {cursor : Option EventCursor} {records : List AuditRecord} {s : DashboardService}

omit [Sha256] in
/-- **The loop ends**, whatever the daemon has in store. -/
theorem requests_collectPages :
    (collectPages surroundings filter recordCount requests cursor records).2
      ≤ requests + (recordCount - records.length) + 1 := by
  fun_induction collectPages surroundings filter recordCount requests cursor records with
  | case1 => omega
  | case2 => omega
  | case3 => omega
  | case4 requests cursor records page hpage hitems hfew ih =>
    have hpos := List.length_pos_of_ne_nil hitems
    rw [List.length_append] at hfew ih
    omega

theorem auditExportManifest_eq_ok {manifest : ExportManifest} :
    Bridge.auditExportManifest s filter = .ok manifest ↔
      s.auditHealthy = true ∧ s.audit.store.exportManifest filter none = .ok manifest := by
  rw [Bridge.auditExportManifest]
  cases hhealthy : s.auditHealthy with
  | false => simp
  | true =>
    cases s.audit.store.exportManifest filter none with
    | error | ok => simp [Except.mapError]

theorem describes_of_ok {manifest : ExportManifest} (h : Bridge.auditExportManifest s filter = .ok manifest) :
    manifest.recordCount = (s.audit.store.matching filter).length ∧ manifest.recordsSha256
      = hex (Sha256.digest (recordsJson (s.audit.store.matching filter))).toList := by
  obtain ⟨-, -, hsigned⟩ := exportManifest_eq_ok.1 (auditExportManifest_eq_ok.1 h).2
  cases hsigned
  exact ⟨rfl, rfl⟩

theorem compared_of_file {doc : AuditDocument}
    (h : (saveAuditExportToPath surroundings filter).file = some doc) :
    Bridge.auditExportManifest (surroundings.daemon 0) filter = .ok doc.manifest ∧
      doc.records.length = doc.manifest.recordCount ∧
      hex (Sha256.digest (recordsJson doc.records)).toList = doc.manifest.recordsSha256 := by
  rw [saveAuditExportToPath] at h
  split at h
  · cases h
  · rename_i manifest hmanifest
    split at h
    · cases h
    · rename_i records requests hpages
      split_ifs at h with hchanged
      obtain ⟨hcount, hdigest⟩ := not_or.1 hchanged
      have hdoc : doc = ⟨records, manifest⟩ := by
        cases hwrite : surroundings.write <;> rw [hwrite] at h <;> cases h <;> rfl
      subst hdoc
      exact ⟨hmanifest, not_not.1 hcount, not_not.1 hdigest⟩

theorem error_of_no_file (h : (saveAuditExportToPath surroundings filter).file = none) :
    ∃ error, (saveAuditExportToPath surroundings filter).result = .error error := by
  rw [saveAuditExportToPath] at h ⊢
  split
  · exact ⟨_, rfl⟩
  · rename_i manifest hmanifest
    rw [hmanifest] at h
    split
    · exact ⟨_, rfl⟩
    · rename_i records requests hpages
      simp only [hpages] at h
      split_ifs at h ⊢
      · exact ⟨_, rfl⟩
      · cases hwrite : surroundings.write with
        | failed | notSynced => exact ⟨_, rfl⟩
        | written =>
          rw [hwrite] at h
          cases h

omit [Sha256] in
theorem recordsJson_injective : Function.Injective recordsJson := by
  intro _ _ h
  have harr := Json.arr.inj (Json.toVec_injective h)
  exact List.map_injective_iff.2 AuditRecord.toJson_injective harr

/-! ### A store that does not change -/

omit [Sha256] in
theorem exists_auditQuery (hs : Numbered s.audit) (hhealthy : s.auditHealthy = true)
    (havailable : s.audit.store.available = true) (hafter : after cursor ≤ s.audit.store.lastSequence) :
    ∃ page, Bridge.auditQuery s filter cursor 32 = .ok page ∧
      Answered s.audit.store filter cursor 32 page := by
  obtain ⟨page, hpage⟩ := @exists_answered s.audit filter cursor 32 hs havailable hafter
    (by omega) (by decide)
  obtain ⟨-, -, hfew⟩ := hpage.split
  obtain ⟨_, hbytes, -⟩ := hpage.encodes hs.sound
  have hvalid : ∀ record ∈ page.items, (StoredEntry.record record).Valid ∧ record.InU64 := by
    intro record hmem
    have hstored := List.mem_of_mem_filter (hpage.mem hmem)
    exact ⟨hs.sound record hstored, hs.bounded record hstored⟩
  have hcursor : ∀ c ∈ page.nextCursor, c.epoch = 1 ∧ c.sequence ≤ u64Max := by
    intro c hc
    rw [hpage.nextCursor] at hc
    obtain ⟨last, hlast, rfl⟩ := Option.mem_map.1 hc
    exact ⟨rfl, (hvalid last (List.mem_of_mem_getLast? hlast)).2.sequence_le⟩
  have hanswer : s.auditQuery filter cursor 32 = .ok page := by
    rw [DashboardService.auditQuery, if_neg (by simp [hhealthy]), query_eq_ok.2 hpage]
    rfl
  have hread : CursorPage.fromJson page.toJson = some page :=
    CursorPage.fromJson_toJson (fun record hmem => (hvalid record hmem).1)
      (hfew.trans (by decide)) fun c hc => ⟨(hcursor c hc).1 ▸ by decide, (hcursor c hc).2⟩
  refine ⟨page, ?_, hpage⟩
  rw [Bridge.auditQuery, hanswer, Except.mapError, ok_bind, hbytes, Except.mapError, ok_bind, failIf_bind,
    if_neg (not_lt.2 (length_response_le hfew hvalid hcursor)), hread]

omit [Sha256] in
theorem exists_next {store : AuditStore} {page : CursorPage}
    (h : Answered store filter cursor 32 page) (hitems : page.items ≠ []) :
    ∃ next, page.nextCursor = some next := by
  obtain ⟨_, hlast⟩ := Option.ne_none_iff_exists'.1 (mt List.getLast?_eq_none_iff.1 hitems)
  exact ⟨_, by rw [h.nextCursor, hlast]; rfl⟩

/-- The audit store stays what it is, available, and as the daemon numbers its records. -/
structure Unchanged (surroundings : Surroundings) (s : DashboardService) : Prop where
  same : ∀ request, surroundings.daemon request = s
  healthy : s.auditHealthy = true
  available : s.audit.store.available = true
  numbered : Numbered s.audit

omit [Sha256] in
theorem collectPages_of_unchanged (h : Unchanged surroundings s)
    (hcount : recordCount = (s.audit.store.matching filter).length) {pages : List CursorPage}
    (hfollows : Follows filter s.audit pages s.audit cursor) (hrecords : itemsOf pages = records) :
    (collectPages surroundings filter recordCount requests cursor records).1
      = .ok (s.audit.store.matching filter) := by
  have answered : ∀ {requests cursor} page,
      Bridge.auditQuery (surroundings.daemon requests) filter cursor 32 = .ok page →
      after cursor ≤ s.audit.store.lastSequence → Answered s.audit.store filter cursor 32 page := by
    intro requests cursor page hpage hafter
    obtain ⟨_, hpage', hanswered⟩ :=
      @exists_auditQuery filter _ _ h.numbered h.healthy h.available hafter
    rw [h.same, hpage'] at hpage
    exact Except.ok.inj hpage ▸ hanswered
  fun_induction collectPages surroundings filter recordCount requests cursor records
    generalizing pages with
  | case1 requests cursor records error herror =>
    obtain ⟨page, hpage, -⟩ :=
      @exists_auditQuery filter _ _ h.numbered h.healthy h.available hfollows.after_le
    rw [h.same, hpage] at herror
    cases herror
  | case2 requests cursor records page hpage hempty =>
    have hpage := answered page hpage hfollows.after_le
    have hnone : page.nextCursor = none := by rw [hpage.nextCursor, hempty]; rfl
    obtain ⟨-, hbeyond⟩ := hpage.done h.numbered hnone
    have hall := Cursors.upTo_append_beyond (h.numbered.sorted_matching filter) (after cursor)
    rw [hbeyond, List.append_nil, ← hfollows.read, hrecords] at hall
    rw [hall]
  | case3 requests cursor records page hpage hitems hmany =>
    have hpage := answered page hpage hfollows.after_le
    obtain ⟨next, hnext⟩ := exists_next hpage hitems
    have hread := (hfollows.page hpage hnext).read
    have hlength : (itemsOf (pages ++ [page])).length ≤ (s.audit.store.matching filter).length := by
      rw [hread]
      exact List.length_filter_le _ _
    rw [itemsOf_concat, hrecords] at hlength
    omega
  | case4 requests cursor records page hpage hitems hfew ih =>
    have hpage := answered page hpage hfollows.after_le
    obtain ⟨next, hnext⟩ := exists_next hpage hitems
    rw [hnext] at ih ⊢
    exact ih (hfollows.page hpage hnext) (by rw [itemsOf_concat, hrecords])

theorem saved_of_unchanged (hs : Unchanged surroundings s) (hwrite : surroundings.write = .written) :
    ∃ manifest, (saveAuditExportToPath surroundings filter).result = .ok manifest ∧
      (saveAuditExportToPath surroundings filter).file
        = some ⟨s.audit.store.matching filter, manifest⟩ := by
  obtain ⟨manifest, hmanifest⟩ : ∃ manifest, Bridge.auditExportManifest s filter = .ok manifest :=
    ⟨_, auditExportManifest_eq_ok.2 ⟨hs.healthy, exportManifest_eq_ok.2 ⟨hs.available,
      fun record hmem => hs.numbered.sound record (List.mem_of_mem_filter hmem), rfl⟩⟩⟩
  obtain ⟨hcount, hsha⟩ := describes_of_ok hmanifest
  have hpages := @collectPages_of_unchanged surroundings filter manifest.recordCount 1 none [] s hs
    hcount [] (Follows.start hs.numbered filter) rfl
  refine ⟨manifest, ?_⟩
  rw [saveAuditExportToPath, hs.same, hmanifest]
  dsimp only
  split
  · rename_i hcollect
    rw [hcollect] at hpages
    cases hpages
  · rename_i records requests hcollect
    rw [hcollect] at hpages
    cases hpages
    rw [if_neg (by simp [hcount, hsha]), hwrite]
    exact ⟨rfl, rfl⟩

/-! ### What is saved -/

/-- The digest tells what has been collected from what matches. -/
def NoCollision (surroundings : Surroundings) (filter : AuditFilter) : Prop :=
  ∀ doc ∈ (saveAuditExportToPath surroundings filter).file,
    Sha256.digest (recordsJson doc.records)
        = Sha256.digest (recordsJson ((surroundings.daemon 0).audit.store.matching filter)) →
      recordsJson doc.records = recordsJson ((surroundings.daemon 0).audit.store.matching filter)

/-- What saving does: a file holds what matched at the manifest, without one there is an error, there are
no more requests than records, and all goes well where nothing changes and the file can be written. -/
structure SavesExactly (surroundings : Surroundings) (filter : AuditFilter) : Prop where
  content : ∀ doc ∈ (saveAuditExportToPath surroundings filter).file,
    doc.records = (surroundings.daemon 0).audit.store.matching filter ∧
      doc.manifest.recordCount = doc.records.length ∧
      doc.manifest.recordsSha256 = hex (Sha256.digest (recordsJson doc.records)).toList
  refused : (saveAuditExportToPath surroundings filter).file = none →
    ∃ error, (saveAuditExportToPath surroundings filter).result = .error error
  ends : (saveAuditExportToPath surroundings filter).requests
    ≤ ((surroundings.daemon 0).audit.store.matching filter).length + 2
  succeeds : ∀ s, Unchanged surroundings s → surroundings.write = .written →
    ∃ manifest, (saveAuditExportToPath surroundings filter).result = .ok manifest ∧
      (saveAuditExportToPath surroundings filter).file
        = some ⟨s.audit.store.matching filter, manifest⟩

/-- Saving succeeds wherever the store does not change. -/
def AlwaysSaves : Prop :=
  ∀ surroundings filter s, NoCollision surroundings filter →
    (∀ request, surroundings.daemon request = s) →
    ∃ manifest, (saveAuditExportToPath surroundings filter).result = .ok manifest

def sampleSurroundings : Surroundings :=
  ⟨fun _ => { DashboardService.sampleService with audit := sampleState }, .written⟩

theorem unchanged_sampleSurroundings :
    Unchanged sampleSurroundings { DashboardService.sampleService with audit := sampleState } where
  same _ := rfl
  healthy := rfl
  available := rfl
  numbered := numbered_sampleState

end Desktop
