/-
**The directory of the audit store.**

The store keeps numbered segments and an index in a directory that nobody else writes to. Any call
to the file system may fail: without effect, or with it, and a write possibly after a part of its
bytes. What the calls of a run will meet is a part of the directory, as a list of faults that the
calls use up; a directory without faults serves every call.

Main definitions:

* `Dashboard.AuditDir` — the directory, `Dashboard.IoFault` what may happen to a call.

Main results:

* `Dashboard.exec_createSegment`, `Dashboard.exec_appendFrame` and so on — what each call does in a
  directory without faults.
-/

import DeviceLane.Dashboard.Audit
import DeviceLane.Library.Effect
import DeviceLane.Library.Frames
import DeviceLane.Library.Map

namespace Dashboard

open Effect JsonCodec

/-- What may happen to a call: it fails without effect, or it takes effect, a write up to a number of
bytes, and fails all the same. -/
inductive IoFault
  | failed
  | interrupted (written : ℕ)
  deriving DecidableEq, Repr

structure AuditDir where
  segments : Map ℕ (List UInt8)
  index : Option (List UInt8)
  faults : List (Option IoFault)
  deriving DecidableEq

/-- The directory of a store that has not been opened yet. -/
def AuditDir.empty (faults : List (Option IoFault)) : AuditDir := ⟨∅, none, faults⟩

variable {α : Type}

def fileCall (effect : Option ℕ → AuditDir → Except AuditError (α × AuditDir)) :
    Eff AuditDir AuditError α :=
  ofRun fun dir =>
    match dir.faults with
    | some .failed :: faults => (.error .io, { dir with faults })
    | some (.interrupted written) :: faults =>
      match effect (some written) { dir with faults } with
      | .ok (_, dir') => (.error .io, dir')
      | .error error => (.error error, { dir with faults })
    | none :: faults =>
      match effect none { dir with faults } with
      | .ok (a, dir') => (.ok a, dir')
      | .error error => (.error error, { dir with faults })
    | [] =>
      match effect none dir with
      | .ok (a, dir') => (.ok a, dir')
      | .error error => (.error error, dir)

variable {dir : AuditDir}

theorem exec_fileCall {effect : Option ℕ → AuditDir → Except AuditError (α × AuditDir)}
    {dir' : AuditDir} {a : α} (hfaults : dir.faults = []) (h : effect none dir = .ok (a, dir')) :
    (fileCall effect).exec dir = (.ok a, dir') := by
  rw [fileCall, exec_ofRun, hfaults]
  dsimp only
  rw [h]

theorem exec_fileCall_error {effect : Option ℕ → AuditDir → Except AuditError (α × AuditDir)}
    {error : AuditError} (hfaults : dir.faults = []) (h : effect none dir = .error error) :
    (fileCall effect).exec dir = (.error error, dir) := by
  rw [fileCall, exec_ofRun, hfaults]
  dsimp only
  rw [h]

/-! ### Segments -/

def createSegment (number : ℕ) : Eff AuditDir AuditError Unit :=
  fileCall fun _ dir =>
    if (dir.segments.lookup number).isSome then
      .error .io
    else
      .ok ((), { dir with segments := dir.segments.insert number [] })

def segmentLen (number : ℕ) : Eff AuditDir AuditError ℕ :=
  fileCall fun _ dir =>
    match dir.segments.lookup number with
    | none => .error .io
    | some bytes => .ok (bytes.length, dir)

def appendFrame [Sha256] (number : ℕ) (payload : List UInt8) : Eff AuditDir AuditError Unit :=
  fileCall fun written dir =>
    match dir.segments.lookup number with
    | none => .error .io
    | some bytes =>
      let frame := Frames.frame payload
      .ok ((), { dir with
        segments := dir.segments.insert number
          (bytes ++ frame.take (written.getD frame.length)) })

def readFile (number : ℕ) : Eff AuditDir AuditError (List UInt8) :=
  fileCall fun _ dir =>
    match dir.segments.lookup number with
    | none => .error .io
    | some bytes => .ok (bytes, dir)

def setLen (number length : ℕ) : Eff AuditDir AuditError Unit :=
  fileCall fun _ dir =>
    match dir.segments.lookup number with
    | none => .error .io
    | some bytes =>
      .ok ((), { dir with segments := dir.segments.insert number (bytes.take length) })

def removeFile (number : ℕ) : Eff AuditDir AuditError Unit :=
  fileCall fun _ dir =>
    if (dir.segments.lookup number).isSome then
      .ok ((), { dir with segments := dir.segments.erase number })
    else
      .error .io

def syncDirectory : Eff AuditDir AuditError Unit := fileCall fun _ dir => .ok ((), dir)

def segmentNumbers : Eff AuditDir AuditError (List ℕ) :=
  fileCall fun _ dir => .ok (dir.segments.keys.mergeSort fun a b => a ≤ b, dir)

def recordsOf (entries : List StoredEntry) : List AuditRecord :=
  entries.filterMap fun
    | .record value => some value
    | .retentionTombstone _ => none

def tombstonesOf (entries : List StoredEntry) : List RetentionTombstoneSummary :=
  entries.filterMap fun
    | .record _ => none
    | .retentionTombstone value => some value

def readSegment [Sha256] (number : ℕ) (allowTailRecovery : Bool) :
    Eff AuditDir AuditError (List StoredEntry × Except AuditError Bool) := do
  let bytes ← readFile number
  match Frames.scan maxSegmentBytes StoredEntry.fromVec 0 bytes with
  | (entries, .complete) => pure (entries, .ok false)
  | (entries, .corrupt) => pure (entries, .error .committedCorruption)
  | (entries, .torn start) =>
    if allowTailRecovery then do
      setLen number start
      pure (entries, .ok true)
    else
      pure (entries, .error .committedCorruption)

/-! ### The index -/

structure Index where
  version : ℕ
  current : ℕ
  activeSegments : List ℕ
  deriving DecidableEq

def Index.fieldNames : List String := ["version", "current", "active_segments"]

def Index.fields (index : Index) : List (String × Json) :=
  [("version", JsonCodec.toJson index.version), ("current", JsonCodec.toJson index.current),
    ("active_segments", JsonCodec.toJson index.activeSegments)]

def Index.toJson (index : Index) : Json := .obj index.fields

def Index.fromJson : Json → Option Index
  | .obj fields => do
      let known := fields.filter fun field => fieldNames.contains field.1
      if (known.map Prod.fst).Nodup then do
        let version ← Json.required known "version"
        let current ← Json.required known "current"
        let activeSegments ← Json.defaulted known "active_segments"
        some { version, current, activeSegments }
      else
        none
  | _ => none

def Index.toVec (index : Index) : List UInt8 := index.toJson.toVec

def Index.fromVec (bytes : List UInt8) : Option Index := do
  let j ← Json.fromSlice bytes
  fromJson j

def readIndexFile : Eff AuditDir AuditError (Option (List UInt8)) :=
  fileCall fun _ dir => .ok (dir.index, dir)

def replaceIndexFile (bytes : List UInt8) : Eff AuditDir AuditError Unit :=
  fileCall fun _ dir => .ok ((), { dir with index := some bytes })

def Index.Invalid (index : Index) : Prop :=
  ¬(1 ≤ index.version ∧ index.version ≤ 2) ∨ index.current = 0 ∨
    (index.activeSegments ≠ [] ∧ index.current ∉ index.activeSegments)

instance (index : Index) : Decidable index.Invalid := inferInstanceAs (Decidable (_ ∨ _ ∨ _))

def readIndex : Eff AuditDir AuditError (Option Index) := do
  match ← readIndexFile with
  | none => pure none
  | some bytes => do
      let index ← okOr (Index.fromVec bytes) .committedCorruption
      throwIf index.Invalid .committedCorruption
      pure (some index)

/-! ### The names of the segments -/

def paddedDigits (number : ℕ) : List Char := (Nat.toDigits 10 number).leftpad 20 '0'

def segmentPrefix : List Char := ['s', 'e', 'g', 'm', 'e', 'n', 't', '-']

def segmentSuffix : List Char := ['.', 'a', 'u', 'd', 'i', 't']

def segmentId (number : ℕ) : String :=
  String.ofList (segmentPrefix ++ (paddedDigits number ++ segmentSuffix))

/-- The number in the name of a segment. The code's numbers are those of `u64`, and it would
overflow before it came to a name whose number is not one. -/
def segmentNumberFromId (id : String) : Option ℕ :=
  if segmentPrefix.isPrefixOf id.toList then
    let rest := id.toList.drop segmentPrefix.length
    if segmentSuffix.isSuffixOf rest then
      let digits := rest.take (rest.length - segmentSuffix.length)
      if digits ≠ [] ∧ digits.all Char.isDigit then
        some (Nat.ofDigitChars 10 digits 0)
      else
        none
    else
      none
  else
    none

/-! ### Calls in a directory without faults -/

section

variable {dir : AuditDir} {number : ℕ}

variable {bytes : List UInt8}

theorem exec_createSegment (h : dir.faults = []) (hnew : dir.segments.lookup number = none) :
    (createSegment number).exec dir =
      (.ok (), { dir with segments := dir.segments.insert number [] }) := by
  refine exec_fileCall h ?_
  rw [hnew]
  rfl

theorem exec_createSegment_of_some (h : dir.faults = [])
    (hold : dir.segments.lookup number = some bytes) :
    (createSegment number).exec dir = (.error .io, dir) := by
  refine exec_fileCall_error h ?_
  rw [hold]
  rfl

theorem exec_segmentLen (h : dir.faults = []) (hsegment : dir.segments.lookup number = some bytes) :
    (segmentLen number).exec dir = (.ok bytes.length, dir) := by
  refine exec_fileCall h ?_
  rw [hsegment]

theorem exec_appendFrame [Sha256] {payload : List UInt8} (h : dir.faults = [])
    (hsegment : dir.segments.lookup number = some bytes) :
    (appendFrame number payload).exec dir =
      (.ok (), { dir with
        segments := dir.segments.insert number (bytes ++ Frames.frame payload) }) := by
  refine exec_fileCall h ?_
  rw [hsegment]
  simp only [Option.getD_none, List.take_length]

theorem exec_readFile (h : dir.faults = []) (hsegment : dir.segments.lookup number = some bytes) :
    (readFile number).exec dir = (.ok bytes, dir) := by
  refine exec_fileCall h ?_
  rw [hsegment]

theorem exec_removeFile (h : dir.faults = []) (hsegment : dir.segments.lookup number = some bytes) :
    (removeFile number).exec dir =
      (.ok (), { dir with segments := dir.segments.erase number }) := by
  refine exec_fileCall h ?_
  rw [hsegment]
  rfl

theorem exec_syncDirectory (h : dir.faults = []) : syncDirectory.exec dir = (.ok (), dir) :=
  exec_fileCall h rfl

theorem exec_segmentNumbers (h : dir.faults = []) :
    segmentNumbers.exec dir = (.ok (dir.segments.keys.mergeSort fun a b => a ≤ b), dir) :=
  exec_fileCall h rfl

theorem exec_replaceIndexFile (h : dir.faults = []) :
    (replaceIndexFile bytes).exec dir = (.ok (), { dir with index := some bytes }) :=
  exec_fileCall h rfl

end

theorem exec_readSegment [Sha256] {number : ℕ} {entries : List StoredEntry} {allowTailRecovery : Bool}
    (h : dir.faults = []) (hsegment : dir.segments.lookup number
      = some (entries.flatMap fun entry => Frames.frame entry.toJson.toVec))
    (hentries : ∀ entry ∈ entries,
      Frames.Holds maxSegmentBytes StoredEntry.fromVec entry.toJson.toVec entry) :
    (readSegment number allowTailRecovery).exec dir = (.ok (entries, .ok false), dir) := by
  rw [readSegment, exec_bind_ok (exec_readFile h hsegment), Frames.scan_frames hentries]
  rfl

/-! ### Reading back -/

theorem Index.fromVec_toVec (index : Index) : fromVec index.toVec = some index := by
  have hactive : Json.defaulted index.fields "active_segments" = some index.activeSegments := by
    change JsonCodec.fromJson (JsonCodec.toJson index.activeSegments) = _
    exact fromJson_toJson index.activeSegments
  have hversion : Json.required index.fields "version" = some index.version :=
    Json.required_of_lookup rfl
  have hcurrent : Json.required index.fields "current" = some index.current :=
    Json.required_of_lookup rfl
  have hknown : index.fields.filter (fun field : String × Json => fieldNames.contains field.1)
      = index.fields := by
    simp [fields, fieldNames]
  have hnodup : (index.fields.map Prod.fst).Nodup := by
    simp [fields]
  rw [fromVec, toVec, Json.fromSlice_toVec]
  change fromJson (.obj index.fields) = _
  rw [fromJson]
  simp only [hknown]
  rw [if_pos hnodup]
  exact Json.bind_of_eq_some hversion <| Json.bind_of_eq_some hcurrent <|
    Json.bind_of_eq_some hactive rfl

theorem isDigit_of_mem_paddedDigits {number : ℕ} {c : Char} (h : c ∈ paddedDigits number) :
    c.isDigit = true := by
  rcases List.mem_append.1 h with hzero | hdigit
  · rw [List.eq_of_mem_replicate hzero]
    rfl
  · exact Nat.isDigit_of_mem_toDigits (by omega) (by omega) hdigit

theorem segmentNumberFromId_segmentId (number : ℕ) :
    segmentNumberFromId (segmentId number) = some number := by
  have hchars : (segmentId number).toList
      = segmentPrefix ++ (paddedDigits number ++ segmentSuffix) :=
    String.toList_ofList
  have hprefix : segmentPrefix.isPrefixOf (segmentId number).toList = true := by
    rw [hchars, List.isPrefixOf_iff_prefix]
    exact List.prefix_append _ _
  have hsuffix : segmentSuffix.isSuffixOf (paddedDigits number ++ segmentSuffix) = true := by
    rw [List.isSuffixOf_iff_suffix]
    exact List.suffix_append _ _
  have hdigits : paddedDigits number ≠ [] ∧ (paddedDigits number).all Char.isDigit = true := by
    constructor
    · intro hnil
      have hlen := congrArg List.length hnil
      rw [paddedDigits, List.length_leftpad, List.length_nil] at hlen
      omega
    · exact List.all_eq_true.2 fun c hc => isDigit_of_mem_paddedDigits hc
  have hvalue : Nat.ofDigitChars 10 (paddedDigits number) 0 = number := by
    rw [paddedDigits, List.leftpad, Nat.ofDigitChars_append, Nat.ofDigitChars_replicate_zero,
      Nat.mul_zero, Nat.ofDigitChars_ten_toDigits]
  rw [segmentNumberFromId, if_pos hprefix, hchars]
  simp only [List.drop_left, List.length_append, Nat.add_sub_cancel, List.take_left]
  rw [if_pos hsuffix, if_pos hdigits, hvalue]

end Dashboard
