/-
**The audit store.**

The store appends redacted records to the current of its segments, begins a new segment when the
current one is full or the day changes, rewrites everything when records are deleted, and replaces
the segments that hold records past their age. Its state is in memory and in its directory; the
index of the directory says which segments count.

Main definitions:

* `Dashboard.AuditStore`, `Dashboard.AuditState` — the store, and the store with its directory.
-/

import DeviceLane.Dashboard.AuditFiles

namespace Dashboard

open Effect

structure AuditStore where
  retention : RetentionPolicy
  redactor : Redactor
  current : ℕ
  currentDay : Option ℕ
  records : List AuditRecord
  tombstones : List RetentionTombstoneSummary
  recovered : Bool
  available : Bool
  maxSegmentBytes : ℕ
  activeSegments : List ℕ
  deriving DecidableEq

/-- A store with the directory it works in. -/
structure AuditState where
  store : AuditStore
  dir : AuditDir
  deriving DecidableEq

inductive RetentionFault
  | none
  | beforeIndexSwap
  | afterIndexSwap
  deriving DecidableEq, Repr

def frameLen (payload : List UInt8) : Except AuditError ℕ :=
  if payload.length < 2 ^ 32 then .ok (payload.length + 4 + hashBytes) else .error .frameTooLarge

namespace AuditStore

def lastSequence (store : AuditStore) : ℕ := (store.records.getLast?.map (·.sequence)).getD 0

def onDir {α : Type} (m : Eff AuditDir AuditError α) : Eff AuditState AuditError α :=
  onPart AuditState.dir (fun dir s => { s with dir }) id m

def update (f : AuditStore → AuditStore) : Eff AuditState AuditError Unit :=
  modify fun s => { s with store := f s.store }

def writeIndex : Eff AuditState AuditError Unit := do
  let s ← get
  onDir (replaceIndexFile (Index.mk 2 s.store.current s.store.activeSegments).toVec)

def rotate : Eff AuditState AuditError Unit := do
  let s ← get
  let next := s.store.current + 1
  onDir (createSegment next)
  onDir syncDirectory
  update fun store =>
    { store with
      current := next
      currentDay := none
      activeSegments := store.activeSegments ++ [next] }
  writeIndex

def orUnavailable (m : Eff AuditState AuditError Unit) : Eff AuditState AuditError Unit := do
  match ← attempt m with
  | .ok _ => pure ()
  | .error error => do
      update fun store => { store with available := false }
      throw error

variable [Sha256]

/-! ### Appending -/

def needsSegment (store : AuditStore) (segmentLen frameLen day : ℕ) : Prop :=
  segmentLen + frameLen > store.maxSegmentBytes ∨ ∃ old ∈ store.currentDay, old ≠ day

omit [Sha256] in
instance (store : AuditStore) (segmentLen frameLen day : ℕ) :
    Decidable (store.needsSegment segmentLen frameLen day) :=
  inferInstanceAs (Decidable (_ ∨ ∃ old ∈ store.currentDay, old ≠ day))

def appendInner (record : AuditRecord) (payload : List UInt8) (frameLen : ℕ) :
    Eff AuditState AuditError Unit := do
  let day := record.occurredAtMs / dayMs
  let s ← get
  let segmentLen ← onDir (segmentLen s.store.current)
  onlyIf (s.store.needsSegment segmentLen frameLen day) rotate
  let s ← get
  onDir (appendFrame s.store.current payload)
  update fun store => { store with currentDay := some day, records := store.records ++ [record] }
  writeIndex

def append (raw : RawAuditRecord) : Eff AuditState AuditError Unit := do
  let s ← get
  throwIf (s.store.available = false) .auditUnavailable
  throwIf (∃ record ∈ s.store.records.getLast?, raw.sequence ≤ record.sequence) .invalidSequence
  let record := s.store.redactor.redact raw
  throwIf (record.validate ≠ .ok ()) .invalidRecord
  let payload ← orThrow (fun _ => .invalidRecord) (StoredEntry.record record).toVec
  let frameLen ← orThrow id (frameLen payload)
  throwIf (frameLen > s.store.maxSegmentBytes ∨ frameLen > Dashboard.maxSegmentBytes)
    .frameTooLarge
  orUnavailable (appendInner record payload frameLen)

/-! ### Opening -/

/-- Reads segments one after the other, and whether a tail was cut off. -/
def readActive (current : ℕ) : List ℕ → Eff AuditDir AuditError (List StoredEntry × Bool)
  | [] => pure ([], false)
  | number :: numbers => do
      let dir ← get
      throwIf (dir.segments.lookup number = none) .committedCorruption
      let (entries, result) ← readSegment number (number = current)
      let recovered ← orThrow id result
      let (rest, recoveredRest) ← readActive current numbers
      pure (entries ++ rest, recovered || recoveredRest)

def removeFiles : List ℕ → Eff AuditDir AuditError Unit
  | [] => pure ()
  | number :: numbers => do
      removeFile number
      removeFiles numbers

def listedSegments (index : Option Index) (discovered : List ℕ) : List ℕ :=
  match index with
  | some index => if index.activeSegments = [] then discovered else index.activeSegments
  | none => discovered

/-- The record that says that a tail was cut off. The addition is not checked. -/
def recoveryRecord (records : List AuditRecord) : RawAuditRecord :=
  { sequence := ((records.map (·.sequence)).foldl max 0 + 1) % 2 ^ 64
    occurredAtMs := (records.getLast?.map (·.occurredAtMs)).getD 0
    activityId := none
    principalId := ⟨"local-system", by decide⟩
    sourceHostId := ⟨"local-host", by decide⟩
    targetHostId := ⟨"local-host", by decide⟩
    deviceId := none
    operation := ⟨"audit-tail-recovery", by decide⟩
    resources := []
    decision := .allow
    result := .failed
    message := some "incomplete audit tail recovered" }

def withStore (store : AuditStore) (m : Eff AuditState AuditError Unit) :
    Eff AuditDir AuditError AuditStore :=
  ofRun fun dir =>
    let run := m.exec ⟨store, dir⟩
    (run.1.map fun _ => run.2.store, run.2.dir)

def ensureCurrent : Eff AuditState AuditError Unit := do
  let s ← get
  onlyIf (s.dir.segments.lookup s.store.current = none) do
    onDir (createSegment s.store.current)
    update fun store =>
      { store with activeSegments := store.activeSegments ++ [store.current] }
  writeIndex

def openWithSegmentLimit (retention : RetentionPolicy) (redactor : Redactor)
    (maxSegmentBytes : ℕ) : Eff AuditDir AuditError AuditStore := do
  throwIf (maxSegmentBytes = 0 ∨ maxSegmentBytes > Dashboard.maxSegmentBytes) .limitExceeded
  let index ← readIndex
  let current := (index.map Index.current).getD 1
  let discovered ← segmentNumbers
  let activeSegments := listedSegments index discovered
  let (entries, recovered) ← readActive current activeSegments
  let records := recordsOf entries
  throwIf (¬(records.map (·.sequence)).IsChain (· < ·)) .nonMonotonicSequence
  removeFiles (discovered.filter fun number => number ∉ activeSegments)
  syncDirectory
  let store : AuditStore :=
    { retention
      redactor
      current
      currentDay := records.getLast?.map fun record => record.occurredAtMs / dayMs
      records
      tombstones := tombstonesOf entries
      recovered
      available := true
      maxSegmentBytes
      activeSegments }
  withStore store do
    ensureCurrent
    onlyIf recovered (append (recoveryRecord records))

/-! ### Deleting -/

def deletionRecord (sequence nowMs : ℕ) : AuditRecord :=
  { sequence
    occurredAtMs := nowMs
    activityId := none
    principalId := ⟨"local-user", by decide⟩
    sourceHostId := ⟨"local-host", by decide⟩
    targetHostId := ⟨"local-host", by decide⟩
    deviceId := none
    operation := ⟨"audit-delete", by decide⟩
    resources := []
    decision := .allow
    result := .deleted
    redactedMessage := some ⟨.redacted, []⟩ }

def nextSequence (store : AuditStore) : ℕ :=
  (store.records.getLast?.map fun record => saturatingAdd record.sequence 1).getD 1

def retainedRecords (store : AuditStore) (filter : AuditFilter) (nowMs : ℕ) : List AuditRecord :=
  store.records.filter (fun record => !filter.matches record)
    ++ [deletionRecord store.nextSequence nowMs]

def freshNumber (numbers : List ℕ) : ℕ := numbers.foldl max 0

/-- Writes entries to segments, the first of which is there, and begins new ones as needed. Gives
the last segment and those begun before it. -/
def writeEntries (maxSegmentBytes : ℕ) : List StoredEntry → ℕ → List ℕ →
    Eff AuditDir AuditError (ℕ × List ℕ)
  | [], nextNumber, newActive => pure (nextNumber, newActive)
  | entry :: entries, nextNumber, newActive => do
      let payload ← orThrow (fun _ => .serialization) entry.toVec
      let length ← orThrow id (frameLen payload)
      throwIf (length > maxSegmentBytes) .frameTooLarge
      let segmentLen ← segmentLen nextNumber
      if saturatingAdd segmentLen length > maxSegmentBytes then do
        let nextNumber := saturatingAdd nextNumber 1
        createSegment nextNumber
        appendFrame nextNumber payload
        writeEntries maxSegmentBytes entries nextNumber (newActive ++ [nextNumber])
      else do
        appendFrame nextNumber payload
        writeEntries maxSegmentBytes entries nextNumber newActive

def removeOld : List ℕ → Eff AuditDir AuditError Unit
  | [] => pure ()
  | number :: numbers => do
      let dir ← get
      onlyIf ((dir.segments.lookup number).isSome) (removeFile number)
      removeOld numbers

def firstNumber : Eff AuditDir AuditError ℕ := do
  let numbers ← segmentNumbers
  pure (saturatingAdd (freshNumber numbers) 1)

/-- Makes new segments the ones that count, unless the index cannot be written. -/
def install (records : List AuditRecord) (current day : ℕ) (activeSegments : List ℕ) :
    Eff AuditState AuditError Unit := do
  let s ← get
  update fun store =>
    { store with
      records
      current
      currentDay := some day
      activeSegments }
  match ← attempt writeIndex with
  | .error error => do
      update fun store =>
        { store with
          records := s.store.records
          current := s.store.current
          currentDay := s.store.currentDay
          activeSegments := s.store.activeSegments }
      throw error
  | .ok _ => pure ()

def delete (filter : AuditFilter) (nowMs : ℕ) : Eff AuditState AuditError ℕ := do
  let s ← get
  throwIf (s.store.available = false) .auditUnavailable
  let deletedCount := (s.store.records.filter filter.matches).length
  if deletedCount = 0 then
    pure 0
  else do
    throwIf
      (s.store.nextSequence = u64Max ∧
        ∃ record ∈ s.store.records.getLast?, record.sequence = u64Max)
      .invalidSequence
    let retained := s.store.retainedRecords filter nowMs
    let first ← onDir firstNumber
    onDir (createSegment first)
    let (nextNumber, newActive) ← onDir (writeEntries s.store.maxSegmentBytes
      (retained.map .record ++ s.store.tombstones.map .retentionTombstone) first [first])
    onDir syncDirectory
    install retained nextNumber (nowMs / dayMs) newActive
    onDir (removeOld s.store.activeSegments)
    onDir syncDirectory
    pure deletedCount

/-! ### Retention -/

/-- The variables of the loop over the segments that may hold records past their age. -/
structure Compaction where
  nextNumber : ℕ
  newActive : List ℕ
  replacedOriginals : List DeletedSegmentSummary
  replacements : List DeletedSegmentSummary
  deletedRecords : List AuditRecord

def segmentSummary (number : ℕ) (bytes : List UInt8) : DeletedSegmentSummary :=
  ⟨segmentId number, hex (Sha256.digest bytes).toList⟩

def appendEntries (maxSegmentBytes number : ℕ) : List StoredEntry → Eff AuditDir AuditError Unit
  | [] => pure ()
  | entry :: entries => do
      let payload ← orThrow (fun _ => .serialization) entry.toVec
      let length ← orThrow id (frameLen payload)
      throwIf (length > maxSegmentBytes) .frameTooLarge
      appendFrame number payload
      appendEntries maxSegmentBytes number entries

def retainedEntries (cutoff : ℕ) (entries : List StoredEntry) : List StoredEntry :=
  ((recordsOf entries).filter fun record => record.occurredAtMs ≥ cutoff).map .record
    ++ (tombstonesOf entries).map .retentionTombstone

/-- One segment: it stays if none of its records is past its age, and else what is kept of it is
written to a new segment. -/
def compactSegment (maxSegmentBytes cutoff number : ℕ) (acc : Compaction) :
    Eff AuditDir AuditError Compaction := do
  let (entries, result) ← readSegment number false
  let _ ← orThrow id result
  let deleted := (recordsOf entries).filter fun record => record.occurredAtMs < cutoff
  if deleted = [] then
    pure { acc with newActive := acc.newActive ++ [number] }
  else do
    let bytes ← readFile number
    let acc : Compaction :=
      { acc with
        replacedOriginals := acc.replacedOriginals ++ [segmentSummary number bytes]
        deletedRecords := acc.deletedRecords ++ deleted }
    let retained := retainedEntries cutoff entries
    if retained = [] then
      pure acc
    else do
      createSegment acc.nextNumber
      appendEntries maxSegmentBytes acc.nextNumber retained
      let bytes ← readFile acc.nextNumber
      pure { acc with
        replacements := acc.replacements ++ [segmentSummary acc.nextNumber bytes]
        newActive := acc.newActive ++ [acc.nextNumber]
        nextNumber := acc.nextNumber + 1 }

def compactSegments (maxSegmentBytes cutoff : ℕ) :
    List ℕ → Compaction → Eff AuditDir AuditError Compaction
  | [], acc => pure acc
  | number :: numbers, acc => do
      let acc ← compactSegment maxSegmentBytes cutoff number acc
      compactSegments maxSegmentBytes cutoff numbers acc

def minimum (times : List ℕ) : ℕ := times.min?.getD 0

def maximum (times : List ℕ) : ℕ := times.max?.getD 0

def summaryOf (acc : Compaction) : RetentionTombstoneSummary :=
  { deletedRecordCount := acc.deletedRecords.length
    firstOccurredAtMs := minimum (acc.deletedRecords.map (·.occurredAtMs))
    lastOccurredAtMs := maximum (acc.deletedRecords.map (·.occurredAtMs))
    segments := acc.replacedOriginals
    replacementSegments := acc.replacements }

def removeOriginals : List DeletedSegmentSummary → Eff AuditDir AuditError Unit
  | [] => pure ()
  | original :: originals => do
      let number ← okOr (segmentNumberFromId original.id) .committedCorruption
      removeFile number
      removeOriginals originals

/-- Reads the active segments again into the memory of the store. -/
def reload : List ℕ → Eff AuditState AuditError Unit
  | [] => pure ()
  | number :: numbers => do
      let (entries, result) ← onDir (readSegment number false)
      update fun store =>
        { store with
          records := store.records ++ recordsOf entries
          tombstones := store.tombstones ++ tombstonesOf entries }
      let _ ← orThrow id result
      reload numbers

/-- The time before which records are past their age. -/
def retentionCutoff (store : AuditStore) (nowMs : ℕ) : ℕ := nowMs - store.retention.days * dayMs

/-- Some record is past its age. -/
def Expires (store : AuditStore) (nowMs : ℕ) : Prop :=
  ∃ record ∈ store.records, record.occurredAtMs < store.retentionCutoff nowMs

omit [Sha256] in
instance (store : AuditStore) (nowMs : ℕ) : Decidable (store.Expires nowMs) :=
  inferInstanceAs (Decidable (∃ record ∈ store.records, _))

/-- Writes a tombstone to a segment of its own, and reads it again before anything is removed. -/
def writeTombstone (summary : RetentionTombstoneSummary) (number : ℕ) :
    Eff AuditState AuditError Unit := do
  let s ← get
  let payload ← orThrow (fun _ => .serialization) (StoredEntry.retentionTombstone summary).toVec
  let length ← orThrow id (frameLen payload)
  throwIf (length > s.store.maxSegmentBytes ∨ length > Dashboard.maxSegmentBytes) .frameTooLarge
  onDir (createSegment number)
  onDir (appendFrame number payload)
  update fun store => { store with tombstones := store.tombstones ++ [summary] }
  let (entries, result) ← onDir (readSegment number false)
  let _ ← orThrow id result
  throwIf ((tombstonesOf entries).getLast? ≠ some summary) .committedCorruption

def compactSealed (cutoff : ℕ) (fault : RetentionFault) : Eff AuditState AuditError Unit := do
  let s ← get
  let numbers ← onDir segmentNumbers
  let acc ← onDir (compactSegments s.store.maxSegmentBytes cutoff
    (s.store.activeSegments.filter fun number => number ≠ s.store.current)
    ⟨freshNumber numbers + 1, [], [], [], []⟩)
  writeTombstone (summaryOf acc) acc.nextNumber
  onDir syncDirectory
  throwIf (fault = .beforeIndexSwap) .injectedCrash
  update fun store =>
    { store with
      activeSegments := acc.newActive ++ [acc.nextNumber, s.store.current]
      current := s.store.current
      currentDay := none }
  writeIndex
  throwIf (fault = .afterIndexSwap) .injectedCrash
  onDir (removeOriginals acc.replacedOriginals)
  onDir syncDirectory
  update fun store => { store with records := [], tombstones := [] }
  let s ← get
  reload s.store.activeSegments

def compactRetention (nowMs : ℕ) (fault : RetentionFault) : Eff AuditState AuditError Unit := do
  let s ← get
  onlyIf (s.store.Expires nowMs) do
    rotate
    compactSealed (s.store.retentionCutoff nowMs) fault

def enforceRetention (nowMs : ℕ) : Eff AuditState AuditError Unit :=
  orUnavailable (compactRetention nowMs .none)

end AuditStore

end Dashboard
