/-
**The size of the records.**

The identifiers, codes and names in a record are short, its resources are different and its message
has few parameters, so that its JSON text is short: far below the limits of the event journal and of
the audit segments.

Main definitions:

* `Dashboard.ActivityEvent.InU64`, `Dashboard.AuditRecord.InU64` — records whose numbers are 64-bit.

Main results:

* `Dashboard.ActivityEvent.length_toJson_le_add` — **the size of a valid event is bounded by that of
  its digest**, and `Dashboard.ActivityEvent.length_toJson_le` with a digest of SHA-256;
* `Dashboard.AuditRecord.length_toJson_le` — **a valid audit record is written in at most 512 KiB**.
-/

import DeviceLane.Dashboard.Model
import DeviceLane.Library.JsonSize
import Mathlib.Data.List.Perm.Subperm

namespace Dashboard

open JsonCodec

/-! ### Fields -/

theorem sizeBound_id {kind : IdKind} (id : ValidatedId kind) :
    (JsonCodec.toJson id).sizeBound ≤ 1538 := by
  have hsize : id.text.utf8ByteSize ≤ 256 := id.valid.size_le
  change 6 * id.text.utf8ByteSize + 2 ≤ 1538
  omega

theorem sizeBound_code (code : SafeCode) : (JsonCodec.toJson code).sizeBound ≤ 770 := by
  have hsize : code.text.utf8ByteSize ≤ 128 := code.valid.size_le
  change 6 * code.text.utf8ByteSize + 2 ≤ 770
  omega

theorem sizeBound_num {n : ℕ} (h : n ≤ u64Max) : (JsonCodec.toJson n).sizeBound ≤ 20 := by
  have hlt : n < 10 ^ 20 := Nat.lt_of_le_of_lt h (by decide)
  exact (Nat.length_toDigits_le_iff (by omega) (by omega)).2 hlt

theorem sizeBound_option {α : Type} [JsonCodec α] {bound : ℕ} {a : Option α} (hbound : 4 ≤ bound)
    (h : ∀ v ∈ a, (JsonCodec.toJson v).sizeBound ≤ bound) :
    (optionToJson a).sizeBound ≤ bound := by
  cases a with
  | none => exact hbound
  | some v => exact h v rfl

theorem sizeBoundItems_map_le {α : Type} {f : α → Json} {bound : ℕ} {items : List α}
    (h : ∀ a ∈ items, (f a).sizeBound ≤ bound) :
    Json.sizeBoundItems (items.map f) ≤ items.length * (bound + 1) := by
  induction items with
  | nil => exact Nat.zero_le _
  | cons item items ih =>
    have hitem := h item List.mem_cons_self
    have hitems := ih (List.forall_mem_cons.1 h).2
    rw [List.map_cons, Json.sizeBoundItems, List.length_cons, Nat.succ_mul]
    omega

theorem sizeBound_obj_le {fields : List (String × Json)} {bound : ℕ} (keys : List String)
    (hfields : fields.map Prod.fst = keys) (hkeys : ∀ key ∈ keys, key.utf8ByteSize ≤ 24)
    (hvalues : ∀ field ∈ fields, field.2.sizeBound ≤ bound) :
    (Json.obj fields).sizeBound ≤ keys.length * (bound + 148) + 2 := by
  rw [Json.sizeBound]
  apply Nat.add_le_add_right
  induction fields generalizing keys with
  | nil => exact Nat.zero_le _
  | cons field fields ih =>
    subst hfields
    obtain ⟨key, value⟩ := field
    rw [List.map_cons] at hkeys ⊢
    have hkey : key.utf8ByteSize ≤ 24 := hkeys _ List.mem_cons_self
    have hvalue : value.sizeBound ≤ bound := hvalues _ List.mem_cons_self
    have hrest := ih (fields.map Prod.fst) rfl (List.forall_mem_cons.1 hkeys).2
      (List.forall_mem_cons.1 hvalues).2
    have hmul : ((fields.map Prod.fst).length + 1) * (bound + 148)
        = (fields.map Prod.fst).length * (bound + 148) + (bound + 148) := Nat.succ_mul _ _
    rw [Json.sizeBoundFields, List.length_cons, hmul]
    omega

theorem length_resources_le {resources : List ResourceClass} (h : resources.Nodup) :
    resources.length ≤ 14 := by
  have hsub : resources ⊆ JsonName.all (α := ResourceClass) := fun r _ => JsonName.mem_all r
  exact (List.subperm_of_subset h hsub).length_le

theorem sizeBound_resources {resources : List ResourceClass} (h : resources.Nodup) :
    (JsonCodec.toJson resources).sizeBound ≤ 1724 := by
  have hname : ∀ r : ResourceClass, (JsonCodec.toJson r).sizeBound ≤ 122 := by
    intro r
    cases r <;> decide
  have hitems : Json.sizeBoundItems (resources.map JsonCodec.toJson) ≤ resources.length * (122 + 1) :=
    sizeBoundItems_map_le fun a _ => hname a
  have hlen := length_resources_le h
  change Json.sizeBoundItems (resources.map JsonCodec.toJson) + 2 ≤ 1724
  omega

theorem length_params_le {message : DisplayMessage} (h : message.validate = .ok ()) :
    message.params.length ≤ 128 := by
  by_contra hlong
  have hgt : message.params.length > maxCollectionItems := Nat.lt_of_not_le hlong
  rw [DisplayMessage.validate, validateLen, if_pos hgt] at h
  cases h

theorem sizeBound_message {message : Option DisplayMessage}
    (h : ∀ m ∈ message, m.validate = .ok ()) :
    ((message.map DisplayMessage.toJson).getD .null).sizeBound ≤ 12000 := by
  cases message with
  | none => decide
  | some m =>
    have hparam : ∀ p : MessageParam, (JsonCodec.toJson p).sizeBound ≤ 80 := by
      intro p
      cases p <;> decide
    have hcode : ∀ c : MessageCode, (JsonCodec.toJson c).sizeBound ≤ 200 := by
      intro c
      cases c <;> decide
    have hitems : Json.sizeBoundItems (m.params.map JsonCodec.toJson) ≤ m.params.length * (80 + 1) :=
      sizeBoundItems_map_le fun a _ => hparam a
    have hlen := length_params_le (h m rfl)
    have hcodeBound := hcode m.code
    have hcodeKey : "code".utf8ByteSize = 4 := by decide
    have hparamsKey : "params".utf8ByteSize = 6 := by decide
    change 6 * "code".utf8ByteSize + (JsonCodec.toJson m.code).sizeBound + 4 +
      (6 * "params".utf8ByteSize + (Json.sizeBoundItems (m.params.map JsonCodec.toJson) + 2) + 4 +
        0) + 2 ≤ 12000
    omega

/-! ### Audit records -/

/-- The numbers of a record are 64-bit. -/
structure AuditRecord.InU64 (record : AuditRecord) : Prop where
  sequence_le : record.sequence ≤ u64Max
  occurredAtMs_le : record.occurredAtMs ≤ u64Max

theorem AuditRecord.length_toJson_le_fields {record : AuditRecord} (hnum : record.InU64)
    (h : record.validate = .ok ()) (hmessage : ∀ m ∈ record.redactedMessage, m.validate = .ok ()) :
    record.toJson.toVec.length ≤ 12 * (12000 + 148) + 2 := by
  have hresources := sizeBound_resources (validateUniqueResources_eq_ok.1 h).2
  have hsequence := sizeBound_num hnum.sequence_le
  have htime := sizeBound_num hnum.occurredAtMs_le
  have hactivity : (optionToJson record.activityId).sizeBound ≤ 1538 :=
    sizeBound_option (by omega) fun id _ => sizeBound_id id
  have hdevice : (optionToJson record.deviceId).sizeBound ≤ 1538 :=
    sizeBound_option (by omega) fun id _ => sizeBound_id id
  have heffect : (JsonCodec.toJson record.decision).sizeBound ≤ 32 := by
    cases record.decision <;> decide
  have hresult : (JsonCodec.toJson record.result).sizeBound ≤ 62 := by
    cases record.result <;> decide
  have hobj : record.toJson.sizeBound ≤ 12 * (12000 + 148) + 2 := by
    refine sizeBound_obj_le fieldNames rfl (by decide) ?_
    simp only [fields, List.forall_mem_cons, List.not_mem_nil, false_imp_iff, implies_true,
      and_true]
    refine ⟨?_, ?_, ?_, ?_, ?_, ?_, ?_, ?_, ?_, ?_, ?_, sizeBound_message hmessage⟩
    · omega
    · omega
    · omega
    · exact Nat.le_trans (sizeBound_id _) (by omega)
    · exact Nat.le_trans (sizeBound_id _) (by omega)
    · exact Nat.le_trans (sizeBound_id _) (by omega)
    · omega
    · exact Nat.le_trans (sizeBound_id _) (by omega)
    · omega
    · omega
    · omega
  exact Nat.le_trans (Json.length_toVec_le _) hobj

theorem AuditRecord.length_toJson_le {record : AuditRecord} (hnum : record.InU64)
    (h : record.validate = .ok ()) (hmessage : ∀ m ∈ record.redactedMessage, m.validate = .ok ()) :
    record.toJson.toVec.length ≤ 2 ^ 19 :=
  Nat.le_trans (length_toJson_le_fields hnum h hmessage) (by decide)

/-! ### Events -/

/-- A measured value of 64 bits. -/
def MetricValue.InU64 : MetricValue → Prop
  | .available value => value ≤ u64Max
  | .unavailable _ => True

structure MetricSnapshot.InU64 (metrics : MetricSnapshot) : Prop where
  currentMemoryBytes : metrics.currentMemoryBytes.InU64
  peakMemoryBytes : metrics.peakMemoryBytes.InU64
  cpuTimeMs : metrics.cpuTimeMs.InU64
  processCount : metrics.processCount.InU64

/-- The numbers of an event are 64-bit, and its digest is one of SHA-256. -/
structure ActivityEvent.InU64 (event : ActivityEvent) : Prop where
  sequence_le : event.sequence ≤ u64Max
  occurredAtMs_le : event.occurredAtMs ≤ u64Max
  metrics : event.metrics.InU64
  startedAtMs_le : ∀ t ∈ event.startedAtMs, t ≤ u64Max
  finishedAtMs_le : ∀ t ∈ event.finishedAtMs, t ≤ u64Max
  digest_le : ∀ s ∈ event.remoteOperationSha256, s.utf8ByteSize ≤ 64

theorem sizeBound_metric {value : MetricValue} (h : value.InU64) :
    value.toJson.sizeBound ≤ 1200 := by
  cases value with
  | available n =>
    have hinner : (Json.obj [("value", JsonCodec.toJson n)]).sizeBound ≤ 1 * (20 + 148) + 2 := by
      refine sizeBound_obj_le ["value"] rfl (by decide) ?_
      rw [List.forall_mem_singleton]
      exact sizeBound_num h
    have houter : (MetricValue.available n).toJson.sizeBound ≤ 1 * (170 + 148) + 2 := by
      refine sizeBound_obj_le ["available"] rfl (by decide) ?_
      rw [List.forall_mem_singleton]
      exact hinner
    omega
  | unavailable reason =>
    have hinner : (Json.obj [("reason", JsonCodec.toJson reason)]).sizeBound
        ≤ 1 * (770 + 148) + 2 := by
      refine sizeBound_obj_le ["reason"] rfl (by decide) ?_
      rw [List.forall_mem_singleton]
      exact sizeBound_code reason
    have houter : (MetricValue.unavailable reason).toJson.sizeBound ≤ 1 * (920 + 148) + 2 := by
      refine sizeBound_obj_le ["unavailable"] rfl (by decide) ?_
      rw [List.forall_mem_singleton]
      exact hinner
    omega

theorem sizeBound_metrics {metrics : MetricSnapshot} (h : metrics.InU64) :
    metrics.toJson.sizeBound ≤ 6000 := by
  have hobj : metrics.toJson.sizeBound ≤ 4 * (1200 + 148) + 2 := by
    refine sizeBound_obj_le
      ["current_memory_bytes", "peak_memory_bytes", "cpu_time_ms", "process_count"] rfl
      (by decide) ?_
    simp only [List.forall_mem_cons, List.not_mem_nil, false_imp_iff, implies_true, and_true]
    exact ⟨sizeBound_metric h.1, sizeBound_metric h.2, sizeBound_metric h.3, sizeBound_metric h.4⟩
  omega

theorem sizeBound_authorization (authorization : Authorization) :
    authorization.toJson.sizeBound ≤ 6000 := by
  have heffect : (JsonCodec.toJson authorization.effect).sizeBound ≤ 1538 := by
    cases authorization.effect <;> decide
  have hobj : authorization.toJson.sizeBound ≤ 3 * (1538 + 148) + 2 := by
    refine sizeBound_obj_le ["effect", "rule_id", "approval_id"] rfl (by decide) ?_
    simp only [List.forall_mem_cons, List.not_mem_nil, false_imp_iff, implies_true, and_true]
    exact ⟨heffect, sizeBound_option (by omega) fun id _ => sizeBound_id id,
      sizeBound_option (by omega) fun id _ => sizeBound_id id⟩
  omega

theorem ActivityEvent.sizeBound_digest (event : ActivityEvent) (digest : Option String) :
    ({ event with remoteOperationSha256 := digest } : ActivityEvent).toJson.sizeBound ≤
      ({ event with remoteOperationSha256 := none } : ActivityEvent).toJson.sizeBound +
        (144 + 6 * digest.elim 0 String.utf8ByteSize) := by
  cases digest with
  | none => exact Nat.le_add_right _ _
  | some s =>
    have hkey : "remote_operation_sha256".utf8ByteSize = 23 := by decide
    have hdigest : Json.sizeBoundFields (skipNone "remote_operation_sha256" (some s)) =
        6 * "remote_operation_sha256".utf8ByteSize + (6 * s.utf8ByteSize + 2) + 4 + 0 := rfl
    rw [toJson, toJson, Json.sizeBound, Json.sizeBound, fields, fields]
    simp only [Json.sizeBoundFields_append, hdigest, hkey, Option.elim_some]
    omega

/-- **The size of a valid event is bounded by that of its digest**, which is the only text in it that
is not checked. -/
theorem ActivityEvent.length_toJson_le_add {event : ActivityEvent} (hnum : event.InU64)
    (h : event.validate = .ok ()) (hmessage : ∀ m ∈ event.message, m.validate = .ok ())
    (digest : Option String) :
    ({ event with remoteOperationSha256 := digest } : ActivityEvent).toJson.toVec.length
      ≤ 190000 + 6 * digest.elim 0 String.utf8ByteSize := by
  have hvalid : validateUniqueResources event.resources = .ok () := by
    cases hunique : validateUniqueResources event.resources with
    | ok => rfl
    | error =>
      rw [validate, hunique] at h
      cases h
  have hresources := sizeBound_resources (validateUniqueResources_eq_ok.1 hvalid).2
  have hsequence := sizeBound_num hnum.sequence_le
  have htime := sizeBound_num hnum.occurredAtMs_le
  have hdevice : (optionToJson event.deviceId).sizeBound ≤ 1538 :=
    sizeBound_option (by omega) fun id _ => sizeBound_id id
  have hstate : (JsonCodec.toJson event.state).sizeBound ≤ 200 := by
    cases event.state <;> decide
  have hauthorization := sizeBound_authorization event.authorization
  have hmetrics := sizeBound_metrics hnum.metrics
  have hstarted : (optionToJson event.startedAtMs).sizeBound ≤ 20 :=
    sizeBound_option (by omega) fun t ht => sizeBound_num (hnum.startedAtMs_le t ht)
  have hfinished : (optionToJson event.finishedAtMs).sizeBound ≤ 20 :=
    sizeBound_option (by omega) fun t ht => sizeBound_num (hnum.finishedAtMs_le t ht)
  have hvalues : ∀ field ∈ ({ event with remoteOperationSha256 := none } : ActivityEvent).fields,
      field.2.sizeBound ≤ 12000 := by
    simp only [fields, skipNone, List.append_nil, List.forall_mem_append, List.forall_mem_cons,
      List.not_mem_nil, false_imp_iff, implies_true, and_true]
    refine ⟨⟨?_, ?_, ?_, ?_, ?_, ?_, ?_, ?_, ?_⟩, ?_, ?_, sizeBound_message hmessage, ?_, ?_, ?_⟩
    · exact Nat.le_trans (sizeBound_id _) (by omega)
    · omega
    · omega
    · exact Nat.le_trans (sizeBound_id _) (by omega)
    · exact Nat.le_trans (sizeBound_id _) (by omega)
    · exact Nat.le_trans (sizeBound_id _) (by omega)
    · omega
    · exact Nat.le_trans (sizeBound_id _) (by omega)
    · omega
    · omega
    · omega
    · omega
    · omega
    · omega
  have hobj : ({ event with remoteOperationSha256 := none } : ActivityEvent).toJson.sizeBound
      ≤ (fieldNames.erase "remote_operation_sha256").length * (12000 + 148) + 2 :=
    sizeBound_obj_le _ rfl (by decide) hvalues
  have hcount : (fieldNames.erase "remote_operation_sha256").length = 15 := by decide
  have hdigest := event.sizeBound_digest digest
  have hbytes := Json.length_toVec_le
    ({ event with remoteOperationSha256 := digest } : ActivityEvent).toJson
  rw [hcount] at hobj
  omega

theorem ActivityEvent.length_toJson_le {event : ActivityEvent} (hnum : event.InU64)
    (h : event.validate = .ok ()) (hmessage : ∀ m ∈ event.message, m.validate = .ok ()) :
    event.toJson.toVec.length + 2 ≤ 2 ^ 18 := by
  have hlength : event.toJson.toVec.length
      ≤ 190000 + 6 * event.remoteOperationSha256.elim 0 String.utf8ByteSize :=
    length_toJson_le_add hnum h hmessage event.remoteOperationSha256
  have hdigest : event.remoteOperationSha256.elim 0 String.utf8ByteSize ≤ 64 := by
    cases hremote : event.remoteOperationSha256 with
    | none => exact Nat.zero_le _
    | some s => exact hnum.digest_le s hremote
  omega

end Dashboard
