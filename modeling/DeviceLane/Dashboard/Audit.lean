/-
**Audit records and what is stored of them.**

The daemon hands over raw records, which are redacted before they are written. A segment of the
audit store holds redacted records and the tombstones of records that have been removed because of
their age.

Main definitions:

* `Dashboard.StoredEntry`, with `StoredEntry.toVec` and `StoredEntry.fromVec`.

Main results:

* `Dashboard.StoredEntry.fromVec_toVec` — **a valid entry is read back from what is stored of it**.
-/

import DeviceLane.Dashboard.ModelSize
import DeviceLane.Library.Sha256

namespace Dashboard

open JsonCodec

def dayMs : ℕ := 86400000

def maxSegmentBytes : ℕ := 64 * 1024 * 1024

def hashBytes : ℕ := 32

inductive AuditError
  | io
  | serialization
  | invalidRetention
  | invalidSequence
  | invalidRecord
  | frameTooLarge
  | insecureStorage
  | injectedCrash
  | storeLocked
  | nonMonotonicSequence
  | limitExceeded
  | cursorAhead
  | committedCorruption
  | auditUnavailable
  | signing
  deriving DecidableEq, Repr

/-- The number of days records are kept. -/
structure RetentionPolicy where
  days : ℕ
  valid : 1 ≤ days ∧ days ≤ 365
  deriving DecidableEq

def RetentionPolicy.new (days : ℕ) : Except AuditError RetentionPolicy :=
  if h : 1 ≤ days ∧ days ≤ 365 then .ok ⟨days, h⟩ else .error .invalidRetention

/-! ### Redaction -/

/-- A record before redaction. The fields the redactor drops unread are left out. -/
structure RawAuditRecord where
  sequence : ℕ
  occurredAtMs : ℕ
  activityId : Option ActivityId
  principalId : PrincipalId
  sourceHostId : HostId
  targetHostId : HostId
  deviceId : Option DeviceId
  operation : OperationId
  resources : List ResourceClass
  decision : PolicyEffect
  result : AuditResult
  message : Option String
  deriving DecidableEq

structure Redactor where
  literals : List String
  deriving DecidableEq

def Redactor.new (literals : List String) : Redactor := ⟨literals.filter (· ≠ "")⟩

def containsText (value literal : String) : Bool :=
  value.toList.tails.any fun rest => literal.toList.isPrefixOf rest

def Redactor.containsSensitive (redactor : Redactor) (value : String) : Bool :=
  let lower := toAsciiLowercase value
  containsText lower "bearer" || containsText lower "authorization" || containsText lower "token"
    || containsText lower "secret" || containsText lower "private-key"
    || redactor.literals.any fun literal => containsText value literal

def redactedId {kind : IdKind} : ValidatedId kind := ⟨"redacted", by decide⟩

def Redactor.redactId (redactor : Redactor) {kind : IdKind} (id : ValidatedId kind) :
    ValidatedId kind :=
  if redactor.containsSensitive id.text then redactedId else id

/-- The message that takes the place of a text: its code if it is one, and nothing else. -/
def Redactor.redactMessage (redactor : Redactor) (message : String) : DisplayMessage :=
  if redactor.containsSensitive message then
    ⟨.redacted, []⟩
  else
    ⟨(MessageCode.fromSafeStr message).getD .operationSucceeded, []⟩

def Redactor.redact (redactor : Redactor) (raw : RawAuditRecord) : AuditRecord :=
  { sequence := raw.sequence
    occurredAtMs := raw.occurredAtMs
    activityId := raw.activityId.map redactor.redactId
    principalId := redactor.redactId raw.principalId
    sourceHostId := redactor.redactId raw.sourceHostId
    targetHostId := redactor.redactId raw.targetHostId
    deviceId := raw.deviceId.map redactor.redactId
    operation := redactor.redactId raw.operation
    resources := raw.resources
    decision := raw.decision
    result := raw.result
    redactedMessage := raw.message.map redactor.redactMessage }

def AuditRecord.ValidMessage (record : AuditRecord) : Prop :=
  ∀ m ∈ record.redactedMessage, m.validate = .ok ()

theorem Redactor.validMessage_redact (redactor : Redactor) (raw : RawAuditRecord) :
    (redactor.redact raw).ValidMessage := by
  intro _ hm
  obtain ⟨_, -, rfl⟩ := Option.map_eq_some_iff.1 hm
  rw [redactMessage]
  split <;> rfl

/-! ### Filters -/

structure AuditFilter where
  fromMs : Option ℕ
  throughMs : Option ℕ
  principalId : Option PrincipalId
  sourceHostId : Option HostId
  targetHostId : Option HostId
  deviceId : Option DeviceId
  operation : Option OperationId
  resource : Option ResourceClass
  decision : Option PolicyEffect
  result : Option AuditResult
  deriving DecidableEq

def AuditFilter.default : AuditFilter :=
  ⟨none, none, none, none, none, none, none, none, none, none⟩

/-- The records the filter is about: those that agree with every field it sets. -/
def AuditFilter.matches (filter : AuditFilter) (value : AuditRecord) : Bool :=
  filter.fromMs.all (fun v => decide (value.occurredAtMs ≥ v))
    && filter.throughMs.all (fun v => decide (value.occurredAtMs ≤ v))
    && filter.principalId.all (fun v => decide (value.principalId = v))
    && filter.sourceHostId.all (fun v => decide (value.sourceHostId = v))
    && filter.targetHostId.all (fun v => decide (value.targetHostId = v))
    && filter.deviceId.all (fun v => decide (value.deviceId = some v))
    && filter.operation.all (fun v => decide (value.operation = v))
    && filter.resource.all (fun v => decide (v ∈ value.resources))
    && filter.decision.all (fun v => decide (value.decision = v))
    && filter.result.all (fun v => decide (value.result = v))

def AuditFilter.toJson (filter : AuditFilter) : Json :=
  .obj
    [("from_ms", optionToJson filter.fromMs), ("through_ms", optionToJson filter.throughMs),
      ("principal_id", optionToJson filter.principalId),
      ("source_host_id", optionToJson filter.sourceHostId),
      ("target_host_id", optionToJson filter.targetHostId),
      ("device_id", optionToJson filter.deviceId), ("operation", optionToJson filter.operation),
      ("resource", optionToJson filter.resource), ("decision", optionToJson filter.decision),
      ("result", optionToJson filter.result)]

inductive AuditDeletionScope
  | currentFilter
  | allRetained
  deriving DecidableEq, Repr

def AuditDeletionScope.name : AuditDeletionScope → String
  | .currentFilter => "current_filter"
  | .allRetained => "all_retained"

/-! ### Tombstones -/

structure DeletedSegmentSummary where
  id : String
  sha256 : String
  deriving DecidableEq

instance : JsonCodec DeletedSegmentSummary where
  toJson summary := .obj [("id", toJson summary.id), ("sha256", toJson summary.sha256)]
  fromJson j := do
    let fields ← j.fieldsOf ["id", "sha256"]
    let id ← Json.required fields "id"
    let sha256 ← Json.required fields "sha256"
    some { id, sha256 }
  fromJson_toJson summary := by
    have hfields : Json.fieldsOf ["id", "sha256"]
        (.obj [("id", toJson summary.id), ("sha256", toJson summary.sha256)])
        = some [("id", toJson summary.id), ("sha256", toJson summary.sha256)] := by
      simp [Json.fieldsOf]
    exact Json.bind_of_eq_some hfields <| Json.bind_of_eq_some (Json.required_of_lookup rfl) <|
      Json.bind_of_eq_some (Json.required_of_lookup rfl) rfl
  toJson_ne_null _ := nofun

/-- What is kept of the records removed because of their age, and of the segments they were in. -/
structure RetentionTombstoneSummary where
  deletedRecordCount : ℕ
  firstOccurredAtMs : ℕ
  lastOccurredAtMs : ℕ
  segments : List DeletedSegmentSummary
  replacementSegments : List DeletedSegmentSummary
  deriving DecidableEq

def RetentionTombstoneSummary.fieldNames : List String :=
  ["deleted_record_count", "first_occurred_at_ms", "last_occurred_at_ms", "segments",
    "replacement_segments"]

def RetentionTombstoneSummary.fields (summary : RetentionTombstoneSummary) :
    List (String × Json) :=
  [("deleted_record_count", toJson summary.deletedRecordCount),
    ("first_occurred_at_ms", toJson summary.firstOccurredAtMs),
    ("last_occurred_at_ms", toJson summary.lastOccurredAtMs),
    ("segments", toJson summary.segments),
    ("replacement_segments", toJson summary.replacementSegments)]

def Json.defaulted {α : Type} [JsonCodec α] (fields : List (String × Json)) (key : String) :
    Option (List α) :=
  match fields.lookup key with
  | none => some []
  | some j => fromJson j

instance : JsonCodec RetentionTombstoneSummary where
  toJson summary := .obj summary.fields
  fromJson j := do
    let fields ← j.fieldsOf RetentionTombstoneSummary.fieldNames
    let deletedRecordCount ← Json.required fields "deleted_record_count"
    let firstOccurredAtMs ← Json.required fields "first_occurred_at_ms"
    let lastOccurredAtMs ← Json.required fields "last_occurred_at_ms"
    let segments ← Json.required fields "segments"
    let replacementSegments ← Json.defaulted fields "replacement_segments"
    some
      { deletedRecordCount, firstOccurredAtMs, lastOccurredAtMs, segments, replacementSegments }
  fromJson_toJson summary := by
    have hfields : Json.fieldsOf RetentionTombstoneSummary.fieldNames (.obj summary.fields)
        = some summary.fields := by
      simp [Json.fieldsOf, RetentionTombstoneSummary.fields, RetentionTombstoneSummary.fieldNames]
    have hreplacements : Json.defaulted summary.fields "replacement_segments"
        = some summary.replacementSegments := by
      rw [Json.defaulted, show summary.fields.lookup "replacement_segments"
        = some (toJson summary.replacementSegments) from rfl]
      exact fromJson_toJson _
    exact Json.bind_of_eq_some hfields <| Json.bind_of_eq_some (Json.required_of_lookup rfl) <|
      Json.bind_of_eq_some (Json.required_of_lookup rfl) <|
      Json.bind_of_eq_some (Json.required_of_lookup rfl) <|
      Json.bind_of_eq_some (Json.required_of_lookup rfl) <|
      Json.bind_of_eq_some hreplacements rfl
  toJson_ne_null _ := nofun

/-! ### Entries -/

/-- What a frame of a segment holds. -/
inductive StoredEntry
  | record (record : AuditRecord)
  | retentionTombstone (retentionTombstone : RetentionTombstoneSummary)
  deriving DecidableEq

def StoredEntry.toJson : StoredEntry → Json
  | .record value => value.toJson
  | .retentionTombstone summary => .obj [("retention_tombstone", JsonCodec.toJson summary)]

/-- An entry carries no tag: it is read as a record first, and as a tombstone if it is none. -/
def StoredEntry.fromJson (j : Json) : Option StoredEntry :=
  match AuditRecord.fromJson j with
  | some value => some (.record value)
  | none =>
    match j with
    | .obj fields =>
      match fields.filter fun field => field.1 = "retention_tombstone" with
      | [field] => (JsonCodec.fromJson field.2).map .retentionTombstone
      | _ => none
    | _ => none

/-- The bytes of an entry; a record is checked once more as it is written. -/
def StoredEntry.toVec (entry : StoredEntry) : Except ValidationError (List UInt8) := do
  match entry with
  | .record value =>
    value.validate
    match value.redactedMessage with
    | some message => message.validate
    | none => pure ()
  | .retentionTombstone _ => pure ()
  pure entry.toJson.toVec

def StoredEntry.fromVec (payload : List UInt8) : Option StoredEntry := do
  let j ← Json.fromSlice payload
  fromJson j

/-- The entries that can be written: records are valid. -/
def StoredEntry.Valid : StoredEntry → Prop
  | .record value => value.validate = .ok () ∧ value.ValidMessage
  | .retentionTombstone _ => True

theorem StoredEntry.toVec_eq_ok {entry : StoredEntry} (h : entry.Valid) :
    entry.toVec = .ok entry.toJson.toVec := by
  cases entry with
  | retentionTombstone => rfl
  | record value =>
    obtain ⟨hvalid, hmessage⟩ := h
    rw [toVec]
    dsimp only
    rw [hvalid]
    cases hm : value.redactedMessage with
    | none => rfl
    | some message =>
      change (message.validate >>= fun _ => pure _) = _
      rw [hmessage message hm]
      rfl

/-- **A valid entry is read back from what is stored of it.** -/
theorem StoredEntry.fromVec_toVec {entry : StoredEntry} (h : entry.Valid) :
    fromVec entry.toJson.toVec = some entry := by
  rw [fromVec, Json.fromSlice_toVec]
  change fromJson entry.toJson = some entry
  cases entry with
  | record =>
    unfold toJson fromJson
    rw [AuditRecord.fromJson_toJson h.1 h.2]
  | retentionTombstone summary =>
    have hnone : AuditRecord.fromJson
        (.obj [("retention_tombstone", JsonCodec.toJson summary)]) = none := by
      have hfields : Json.fieldsOf AuditRecord.fieldNames
          (.obj [("retention_tombstone", JsonCodec.toJson summary)]) = none := by
        simp [Json.fieldsOf, AuditRecord.fieldNames]
      rw [AuditRecord.fromJson, hfields]
      rfl
    unfold toJson fromJson
    rw [hnone]
    change (JsonCodec.fromJson (JsonCodec.toJson summary)).map retentionTombstone = _
    rw [fromJson_toJson]
    rfl

end Dashboard
