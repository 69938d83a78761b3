/-
**Exports of the audit records.**

An export carries the records that match a filter, a manifest carries their number and their digest. The
export digests the text of the whole list, the manifest digests its parts as it goes, and both sign what
they have found. The manifest is refused where the store is not available, and the export is not.

Main definitions:

* `Dashboard.AuditStore.auditExport`, `Dashboard.AuditStore.exportManifest` — the two calls.

Main results:

* `AuditStore.exportsAgree_iff` — **they agree where the store is available**, or there is no export.
-/

import DeviceLane.Dashboard.AuditPages
import DeviceLane.Dashboard.AuditStale

namespace Json

open Endian

theorem textBytes_append (s t : String) : textBytes (s ++ t) = textBytes s ++ textBytes t := by
  simp [textBytes, String.toUTF8]

def charBytes (cs : List Char) : List UInt8 := textBytes (String.ofList cs)

theorem charBytes_append (cs ds : List Char) : charBytes (cs ++ ds) = charBytes cs ++ charBytes ds := by
  rw [charBytes, String.ofList_append, textBytes_append]
  rfl

theorem charBytes_cons (c : Char) (cs : List Char) :
    charBytes (c :: cs) = charBytes [c] ++ charBytes cs :=
  charBytes_append [c] cs

theorem charBytes_charsItems (items : List Json) :
    charBytes (charsItems items) = items.flatMap fun item => charBytes [','] ++ item.toVec := by
  induction items with
  | nil => rfl
  | cons item items ih =>
    rw [charsItems, charBytes_cons, charBytes_append, ih, List.flatMap_cons, List.append_assoc]
    rfl

theorem toVec_arr_cons (item : Json) (items : List Json) :
    (arr (item :: items)).toVec = charBytes ['['] ++ item.toVec ++
      (items.flatMap fun item => charBytes [','] ++ item.toVec) ++ charBytes [']'] := by
  have h : (arr (item :: items)).toVec = charBytes (chars (arr (item :: items))) := rfl
  rw [h, chars, charBytes_cons, charBytes_append, charBytes_append, charBytes_charsItems]
  simp only [List.append_assoc]
  rfl

end Json

namespace Dashboard

open Effect

def maxExportRecords : ℕ := 256

def maxExportBytes : ℕ := 8 * 1024 * 1024

/-! ### Signatures -/

structure AuditSigner where
  keyId : String
  sign : List UInt8 → Except AuditError (List UInt8)

inductive ExportSignature
  | unavailable
  | signed (keyId signatureHex : String)
  deriving DecidableEq

structure ExportManifest where
  formatVersion : ℕ
  recordCount : ℕ
  recordsSha256 : String
  signature : ExportSignature
  deriving DecidableEq

structure AuditExport where
  manifest : ExportManifest
  records : List AuditRecord
  recordsJson : List UInt8

def signingEnvelope (formatVersion recordCount : ℕ) (recordsSha256 keyId : String) : List UInt8 :=
  (Json.obj
    [("domain", .str "devicelane.audit-export.v1"), ("format_version", .num formatVersion),
      ("record_count", .num recordCount), ("records_sha256", .str recordsSha256),
      ("key_id", .str keyId)]).toVec

def ExportSignature.keyId : ExportSignature → String
  | .unavailable => "unavailable"
  | .signed keyId _ => keyId

def canonicalExportSigningEnvelope (manifest : ExportManifest) : List UInt8 :=
  signingEnvelope manifest.formatVersion manifest.recordCount manifest.recordsSha256
    manifest.signature.keyId

def signManifest (signer : Option AuditSigner) (recordCount : ℕ) (recordsSha256 : String) :
    Except AuditError ExportManifest :=
  match signer with
  | some signer => do
      let signature ← signer.sign (signingEnvelope 1 recordCount recordsSha256 signer.keyId)
      pure ⟨1, recordCount, recordsSha256, .signed signer.keyId (hex signature)⟩
  | none => pure ⟨1, recordCount, recordsSha256, .unavailable⟩

namespace AuditStore

variable [Sha256]

/-! ### The two calls -/

def recordVec (record : AuditRecord) : Except AuditError (List UInt8) :=
  (StoredEntry.record record).toVec.mapError fun _ => .serialization

def exportRecords : List AuditRecord → List AuditRecord → ℕ → Except AuditError (List AuditRecord)
  | [], records, _ => .ok records
  | record :: rest, records, encodedBytes => do
      failIf (records.length = maxExportRecords) .limitExceeded
      let item ← recordVec record
      let encodedBytes := saturatingAdd encodedBytes (item.length + if records = [] then 0 else 1)
      failIf (encodedBytes > maxExportBytes) .limitExceeded
      exportRecords rest (records ++ [record]) encodedBytes

def recordsJson (records : List AuditRecord) : List UInt8 :=
  (Json.arr (records.map AuditRecord.toJson)).toVec

def auditExport (filter : AuditFilter) (signer : Option AuditSigner) (store : AuditStore) :
    Except AuditError AuditExport := do
  let records ← exportRecords (store.matching filter) [] 2
  let _ ← records.mapM recordVec
  let manifest ← signManifest signer records.length
    (hex (Sha256.digest (recordsJson records)).toList)
  .ok ⟨manifest, records, recordsJson records⟩

def digestRecords : List AuditRecord → List UInt8 → ℕ → Except AuditError (List UInt8 × ℕ)
  | [], digested, recordCount => .ok (digested, recordCount)
  | record :: rest, digested, recordCount => do
      let digested := if recordCount > 0 then digested ++ Json.charBytes [','] else digested
      let bytes ← recordVec record
      digestRecords rest (digested ++ bytes) (recordCount + 1)

def exportManifest (filter : AuditFilter) (signer : Option AuditSigner) (store : AuditStore) :
    Except AuditError ExportManifest := do
  failIf (store.available = false) .auditUnavailable
  let (digested, recordCount) ← digestRecords (store.matching filter) (Json.charBytes ['[']) 0
  signManifest signer recordCount
    (hex (Sha256.digest (digested ++ Json.charBytes [']'])).toList)

/-! ### What the loops have done -/

variable {record : AuditRecord} {records rest : List AuditRecord} {filter : AuditFilter}
  {signer : Option AuditSigner} {store : AuditStore}

omit [Sha256] in
theorem recordVec_eq_ok {bytes : List UInt8} :
    recordVec record = .ok bytes ↔ (StoredEntry.record record).Valid ∧ bytes = record.toJson.toVec := by
  unfold recordVec
  constructor
  · intro h
    cases hvec : (StoredEntry.record record).toVec with
    | error =>
      rw [hvec] at h
      cases h
    | ok =>
      rw [hvec] at h
      cases h
      exact valid_of_toVec hvec
  · rintro ⟨hvalid, rfl⟩
    rw [StoredEntry.toVec_eq_ok hvalid]
    rfl

omit [Sha256] in
def listBytes (records : List AuditRecord) : ℕ := Json.itemsBytes (records.map AuditRecord.encodedBytes)

section

omit [Sha256]

theorem length_recordsJson (records : List AuditRecord) :
    (recordsJson records).length = listBytes records :=
  Json.length_toVec_map fun _ _ => rfl

theorem listBytes_concat (records : List AuditRecord) (record : AuditRecord) :
    listBytes (records ++ [record])
      = listBytes records + (record.encodedBytes + if records = [] then 0 else 1) := by
  have hstep := Json.itemsBytes_append (records.map AuditRecord.encodedBytes) record.encodedBytes
  have hnil : (records.map AuditRecord.encodedBytes = []) = (records = []) := by simp
  rw [listBytes, List.map_append, List.map_singleton, hstep, listBytes, Nat.add_comm record.encodedBytes]
  simp only [hnil]

theorem listBytes_mono (records rest : List AuditRecord) :
    listBytes records ≤ listBytes (records ++ rest) := by
  induction rest generalizing records with
  | nil => rw [List.append_nil]
  | cons record rest ih =>
    have hstep := listBytes_concat records record
    have hrest := ih (records ++ [record])
    rw [List.append_assoc, List.singleton_append] at hrest
    omega

end

/-- The records can be exported: they are checked, and neither too many nor too long. -/
structure Exportable (records : List AuditRecord) : Prop where
  valid : ∀ record ∈ records, (StoredEntry.record record).Valid
  count : records.length ≤ maxExportRecords
  bytes : (recordsJson records).length ≤ maxExportBytes

section

omit [Sha256]

theorem exportRecords_cons_eq_ok {out : List AuditRecord} :
    exportRecords (record :: rest) records (listBytes records) = .ok out ↔
      records.length ≠ maxExportRecords ∧ (StoredEntry.record record).Valid ∧
        listBytes (records ++ [record]) ≤ maxExportBytes ∧
        exportRecords rest (records ++ [record]) (listBytes (records ++ [record])) = .ok out := by
  have hmax : maxExportBytes = 8388608 := rfl
  have hbound : u64Max = 18446744073709551615 := rfl
  have hbytes : record.toJson.toVec.length = record.encodedBytes := rfl
  rw [listBytes_concat, exportRecords, failIf_bind]
  by_cases hfull : records.length = maxExportRecords
  · simp [hfull]
  · rw [if_neg hfull]
    constructor
    · intro h
      obtain ⟨_, hitem, h⟩ := bind_eq_ok.1 h
      obtain ⟨hvalid, rfl⟩ := recordVec_eq_ok.1 hitem
      dsimp only at h
      rw [hbytes, failIf_bind] at h
      generalize record.encodedBytes + (if records = [] then 0 else 1) = added at h ⊢
      split_ifs at h with hlarge
      rw [saturatingAdd] at h hlarge
      have hadd : min (listBytes records + added) u64Max = listBytes records + added := by omega
      rw [hadd] at h hlarge
      exact ⟨hfull, hvalid, not_lt.1 hlarge, h⟩
    · rintro ⟨-, hvalid, hsmall, h⟩
      refine bind_eq_ok.2 ⟨_, recordVec_eq_ok.2 ⟨hvalid, rfl⟩, ?_⟩
      dsimp only
      rw [hbytes]
      generalize record.encodedBytes + (if records = [] then 0 else 1) = added at hsmall h ⊢
      have hadd : saturatingAdd (listBytes records) added = listBytes records + added := by
        rw [saturatingAdd]
        omega
      rw [hadd, failIf_bind, if_neg (not_lt.2 hsmall)]
      exact h

/-- **An export takes all records or fails.** -/
theorem exportRecords_eq_ok {out : List AuditRecord} (hcount : records.length ≤ maxExportRecords)
    (hbytes : listBytes records ≤ maxExportBytes) :
    exportRecords rest records (listBytes records) = .ok out ↔
      out = records ++ rest ∧ (∀ record ∈ rest, (StoredEntry.record record).Valid) ∧
        (records ++ rest).length ≤ maxExportRecords ∧
        listBytes (records ++ rest) ≤ maxExportBytes := by
  induction rest generalizing records with
  | nil => simp [exportRecords, eq_comm, hcount, hbytes]
  | cons record rest ih =>
    have happend : records ++ record :: rest = records ++ [record] ++ rest := by simp
    rw [exportRecords_cons_eq_ok, happend]
    constructor
    · rintro ⟨_, hvalid, hsmall, h⟩
      have hroom : (records ++ [record]).length ≤ maxExportRecords := by
        rw [List.length_append, List.length_singleton]
        omega
      obtain ⟨rfl, hrest, hlength, hlist⟩ := (ih hroom hsmall).1 h
      exact ⟨rfl, List.forall_mem_cons.2 ⟨hvalid, hrest⟩, hlength, hlist⟩
    · rintro ⟨rfl, hvalid, hlength, hlist⟩
      obtain ⟨hhead, hrest⟩ := List.forall_mem_cons.1 hvalid
      have hsmall := Nat.le_trans (listBytes_mono (records ++ [record]) rest) hlist
      have hroom : (records ++ [record]).length ≤ maxExportRecords := by
        rw [List.length_append] at hlength
        omega
      refine ⟨?_, hhead, hsmall, (ih hroom hsmall).2 ⟨rfl, hrest, hlength, hlist⟩⟩
      rw [List.length_append, List.length_singleton] at hroom
      omega

theorem digestRecords_eq_ok {digested : List UInt8} {count : ℕ} {out : List UInt8 × ℕ}
    (hcount : 0 < count) :
    digestRecords rest digested count = .ok out ↔
      (∀ record ∈ rest, (StoredEntry.record record).Valid) ∧
        out = (digested ++ rest.flatMap fun record => Json.charBytes [','] ++ record.toJson.toVec,
          count + rest.length) := by
  induction rest generalizing digested count with
  | nil => simp [digestRecords, eq_comm]
  | cons record rest ih =>
    have hpos : 0 < count + 1 := Nat.succ_pos count
    rw [digestRecords, if_pos hcount]
    constructor
    · intro h
      obtain ⟨_, hitem, h⟩ := bind_eq_ok.1 h
      obtain ⟨hvalid, rfl⟩ := recordVec_eq_ok.1 hitem
      obtain ⟨hrest, rfl⟩ := (ih hpos).1 h
      refine ⟨List.forall_mem_cons.2 ⟨hvalid, hrest⟩, ?_⟩
      rw [List.flatMap_cons, List.length_cons]
      simp only [List.append_assoc, Nat.add_assoc, Nat.add_comm 1]
    · rintro ⟨hvalid, rfl⟩
      obtain ⟨hhead, hrest⟩ := List.forall_mem_cons.1 hvalid
      refine bind_eq_ok.2 ⟨_, recordVec_eq_ok.2 ⟨hhead, rfl⟩, (ih hpos).2 ⟨hrest, ?_⟩⟩
      rw [List.flatMap_cons, List.length_cons]
      simp only [List.append_assoc, Nat.add_assoc, Nat.add_comm 1]

theorem digestRecords_all {out : List UInt8 × ℕ} :
    digestRecords records (Json.charBytes ['[']) 0 = .ok out ↔
      (∀ record ∈ records, (StoredEntry.record record).Valid) ∧
        out.1 ++ Json.charBytes [']'] = recordsJson records ∧ out.2 = records.length := by
  obtain ⟨_, _⟩ := out
  cases records with
  | nil =>
    have hempty : Json.charBytes ['['] ++ Json.charBytes [']'] = recordsJson [] := rfl
    rw [digestRecords, ← hempty]
    simp [eq_comm]
  | cons record rest =>
    have htext : recordsJson (record :: rest) = Json.charBytes ['['] ++ record.toJson.toVec ++
        (rest.flatMap fun record => Json.charBytes [','] ++ record.toJson.toVec)
        ++ Json.charBytes [']'] := by
      rw [recordsJson, List.map_cons, Json.toVec_arr_cons, List.flatMap_map]
    rw [digestRecords, if_neg (Nat.lt_irrefl 0), htext, List.length_cons]
    constructor
    · intro h
      obtain ⟨_, hitem, h⟩ := bind_eq_ok.1 h
      obtain ⟨hvalid, rfl⟩ := recordVec_eq_ok.1 hitem
      obtain ⟨hrest, hout⟩ := (digestRecords_eq_ok Nat.one_pos).1 h
      cases hout
      exact ⟨List.forall_mem_cons.2 ⟨hvalid, hrest⟩, rfl, Nat.add_comm _ _⟩
    · rintro ⟨hvalid, hdigested, hcount⟩
      obtain ⟨hhead, hrest⟩ := List.forall_mem_cons.1 hvalid
      refine bind_eq_ok.2 ⟨_, recordVec_eq_ok.2 ⟨hhead, rfl⟩,
        (digestRecords_eq_ok Nat.one_pos).2 ⟨hrest, ?_⟩⟩
      rw [Prod.mk.injEq]
      exact ⟨List.append_cancel_right hdigested, hcount.trans (Nat.add_comm _ _)⟩

end

/-- **The manifest describes the text of the whole list.** -/
theorem exportManifest_eq_ok {manifest : ExportManifest} :
    store.exportManifest filter signer = .ok manifest ↔
      store.available = true ∧
        (∀ record ∈ store.matching filter, (StoredEntry.record record).Valid) ∧
        signManifest signer (store.matching filter).length
          (hex (Sha256.digest (recordsJson (store.matching filter))).toList) = .ok manifest := by
  rw [exportManifest, failIf_bind]
  constructor
  · intro h
    split_ifs at h with havailable
    obtain ⟨_, hout, h⟩ := bind_eq_ok.1 h
    obtain ⟨hvalid, hdigested, hcount⟩ := digestRecords_all.1 hout
    rw [← hdigested, ← hcount]
    exact ⟨by simpa using havailable, hvalid, h⟩
  · rintro ⟨havailable, hvalid, h⟩
    rw [if_neg (by simp [havailable])]
    obtain ⟨digested, hdigested⟩ : ∃ digested, digested ++ Json.charBytes [']']
        = recordsJson (store.matching filter) := by
      cases hmatching : store.matching filter with
      | nil => exact ⟨Json.charBytes ['['], rfl⟩
      | cons => exact ⟨_, (Json.toVec_arr_cons _ _).symm⟩
    refine bind_eq_ok.2 ⟨(digested, (store.matching filter).length),
      digestRecords_all.2 ⟨hvalid, hdigested, rfl⟩, ?_⟩
    rw [← hdigested] at h
    exact h

omit [Sha256] in
theorem exists_mapM_recordVec (h : ∀ record ∈ records, (StoredEntry.record record).Valid) :
    ∃ encoded, records.mapM recordVec = .ok encoded := by
  induction records with
  | nil => exact ⟨[], rfl⟩
  | cons record records ih =>
    obtain ⟨hhead, hrest⟩ := List.forall_mem_cons.1 h
    obtain ⟨encoded, hencoded⟩ := ih hrest
    rw [List.mapM_cons, recordVec_eq_ok.2 ⟨hhead, rfl⟩, hencoded]
    exact ⟨_, rfl⟩

theorem auditExport_eq_ok {exported : AuditExport} :
    store.auditExport filter signer = .ok exported ↔
      Exportable (store.matching filter) ∧
        signManifest signer (store.matching filter).length
          (hex (Sha256.digest (recordsJson (store.matching filter))).toList) = .ok exported.manifest ∧
        exported.records = store.matching filter ∧
        exported.recordsJson = recordsJson (store.matching filter) := by
  have hnil : listBytes [] = 2 := rfl
  rw [auditExport, ← hnil]
  constructor
  · intro h
    obtain ⟨records, hrecords, h⟩ := bind_eq_ok.1 h
    obtain ⟨-, -, h⟩ := bind_eq_ok.1 h
    obtain ⟨manifest, hmanifest, h⟩ := bind_eq_ok.1 h
    obtain ⟨rfl, hvalid, hcount, hbytes⟩ :=
      (exportRecords_eq_ok (Nat.zero_le _) (by decide)).1 hrecords
    cases h
    exact ⟨⟨hvalid, hcount, (length_recordsJson _).trans_le hbytes⟩, hmanifest, rfl, rfl⟩
  · rintro ⟨hexportable, hmanifest, hrecords, hjson⟩
    obtain ⟨encoded, hencoded⟩ := exists_mapM_recordVec hexportable.valid
    refine bind_eq_ok.2 ⟨_, (exportRecords_eq_ok (Nat.zero_le _) (by decide)).2
      ⟨rfl, hexportable.valid, hexportable.count,
        (length_recordsJson _).symm.trans_le hexportable.bytes⟩, ?_⟩
    refine bind_eq_ok.2 ⟨encoded, hencoded, bind_eq_ok.2 ⟨exported.manifest, hmanifest, ?_⟩⟩
    obtain ⟨manifest, records, _⟩ := exported
    dsimp only at hrecords hjson ⊢
    rw [hrecords, hjson, List.nil_append]

/-! ### Agreement -/

/-- A signer that does not fail. -/
def NeverFails (signer : Option AuditSigner) : Prop :=
  ∀ s ∈ signer, ∀ envelope, ∃ signature, s.sign envelope = .ok signature

def SignedBy (signer : Option AuditSigner) (manifest : ExportManifest) : Prop :=
  ∀ s ∈ signer, ∃ signature,
    s.sign (canonicalExportSigningEnvelope manifest) = .ok signature ∧
      manifest.signature = .signed s.keyId (hex signature)

omit [Sha256] in
theorem signedBy_of_signManifest {manifest : ExportManifest} {count : ℕ} {digest : String}
    (h : signManifest signer count digest = .ok manifest) : SignedBy signer manifest := by
  intro s hs
  obtain rfl : signer = some s := hs
  obtain ⟨signature, hsign, h⟩ := bind_eq_ok.1 h
  cases h
  exact ⟨signature, hsign, rfl⟩

omit [Sha256] in
theorem exists_signManifest (h : NeverFails signer) (count : ℕ) (digest : String) :
    ∃ manifest, signManifest signer count digest = .ok manifest := by
  cases signer with
  | none => exact ⟨_, rfl⟩
  | some s =>
    obtain ⟨signature, hsign⟩ := h s rfl (signingEnvelope 1 count digest s.keyId)
    exact ⟨_, bind_eq_ok.2 ⟨signature, hsign, rfl⟩⟩

/-- The export and the manifest of a filter agree: either both are there or none, but for exports that
are too large, and they have signed the same. -/
structure ExportsAgree (store : AuditStore) (filter : AuditFilter) (signer : Option AuditSigner) :
    Prop where
  ok_iff : (∃ exported, store.auditExport filter signer = .ok exported) ↔
    (∃ manifest, store.exportManifest filter signer = .ok manifest) ∧
      (store.matching filter).length ≤ maxExportRecords ∧
      (recordsJson (store.matching filter)).length ≤ maxExportBytes
  same : ∀ exported manifest, store.auditExport filter signer = .ok exported →
    store.exportManifest filter signer = .ok manifest →
    exported.manifest.recordCount = manifest.recordCount ∧
      exported.manifest.recordsSha256 = manifest.recordsSha256 ∧
      canonicalExportSigningEnvelope exported.manifest = canonicalExportSigningEnvelope manifest ∧
      SignedBy signer exported.manifest ∧ SignedBy signer manifest

/-- **They agree where the store is available**, or the records cannot be exported. -/
theorem exportsAgree_iff (hsigner : NeverFails signer) :
    ExportsAgree store filter signer ↔
      store.available = true ∨ ¬Exportable (store.matching filter) := by
  obtain ⟨manifest, hmanifest⟩ := exists_signManifest hsigner (store.matching filter).length
    (hex (Sha256.digest (recordsJson (store.matching filter))).toList)
  constructor
  · intro h
    by_contra hnot
    obtain ⟨hunavailable, hexportable⟩ := not_or.1 hnot
    have hexport : store.auditExport filter signer
        = .ok ⟨manifest, store.matching filter, recordsJson (store.matching filter)⟩ :=
      auditExport_eq_ok.2 ⟨not_not.1 hexportable, hmanifest, rfl, rfl⟩
    obtain ⟨⟨manifest', hother⟩, -⟩ := h.ok_iff.1 ⟨_, hexport⟩
    exact hunavailable (exportManifest_eq_ok.1 hother).1
  · intro h
    refine ⟨⟨?_, ?_⟩, ?_⟩
    · rintro ⟨exported, hexport⟩
      obtain ⟨hexportable, hsigned, -⟩ := auditExport_eq_ok.1 hexport
      have havailable := h.resolve_right (not_not.2 hexportable)
      exact ⟨⟨_, exportManifest_eq_ok.2 ⟨havailable, hexportable.valid, hsigned⟩⟩,
        hexportable.count, hexportable.bytes⟩
    · rintro ⟨⟨manifest', hother⟩, hcount, hbytes⟩
      obtain ⟨-, hvalid, hsigned⟩ := exportManifest_eq_ok.1 hother
      exact ⟨⟨manifest', _, _⟩, auditExport_eq_ok.2 ⟨⟨hvalid, hcount, hbytes⟩, hsigned, rfl, rfl⟩⟩
    · intro exported manifest' hexport hother
      obtain ⟨-, hsigned, -⟩ := auditExport_eq_ok.1 hexport
      obtain ⟨-, -, hsigned'⟩ := exportManifest_eq_ok.1 hother
      obtain rfl : exported.manifest = manifest' := Except.ok.inj (hsigned.symm.trans hsigned')
      have hby := signedBy_of_signManifest hsigned
      exact ⟨rfl, rfl, rfl, hby, hby⟩

/-- The export and the manifest agree in every state. -/
def AlwaysAgree : Prop :=
  ∀ store filter signer, NeverFails signer → ExportsAgree store filter signer

def sampleSigner : AuditSigner := ⟨"key", .ok⟩

omit [Sha256] in
theorem neverFails_sampleSigner : NeverFails (some sampleSigner) := by
  intro s hs envelope
  obtain rfl : sampleSigner = s := Option.some.inj hs
  exact ⟨envelope, rfl⟩

theorem exportable_staleState : Exportable (staleState.store.matching .default) := by
  have hmatching : staleState.store.matching .default = [sampleRecord] := rfl
  have hlength : sampleRecord.encodedBytes ≤ 2 ^ 19 := AuditRecord.length_toJson_le
    ⟨by decide, by decide⟩ stored_sampleRecord.1.1 stored_sampleRecord.1.2
  have hlist : ∀ record, listBytes [record] = record.encodedBytes + 2 := fun _ => rfl
  have hmax : maxExportBytes = 8388608 := rfl
  rw [hmatching]
  refine ⟨List.forall_mem_singleton.2 stored_sampleRecord.1, by decide, ?_⟩
  rw [length_recordsJson, hlist]
  omega

omit [Sha256] in
/-- The store that a failed append has left still makes exports. -/
theorem not_alwaysAgree : ¬∃ _ : Sha256, AlwaysAgree := by
  rintro ⟨_, hagree⟩
  have hunavailable : staleState.store.available = false := rfl
  have h := hagree staleState.store .default (some sampleSigner) neverFails_sampleSigner
  rcases (exportsAgree_iff neverFails_sampleSigner).1 h with havailable | hnot
  · rw [hunavailable] at havailable
    cases havailable
  · exact hnot exportable_staleState

omit [Sha256] in
theorem exportsAgree_sampleState : letI := sampleHash
    ExportsAgree sampleState.store .default (some sampleSigner) := by
  let _ := sampleHash
  exact (exportsAgree_iff neverFails_sampleSigner).2 (.inl rfl)

end AuditStore

end Dashboard
