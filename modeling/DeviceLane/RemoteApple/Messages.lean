/-
**The messages about a job.**

An agent reports the end of a job in one message, with everything that its tool has written; what it has
written to its standard output it sends to the registry besides, as an artifact, in parts. The registry
reads so many bytes of a request and no more, and so does the daemon of the answer to its question about
the job. The parts of an artifact always fit. The report and the answer have no bound.

Main definitions:

* `RemoteApple.reportBytes`, `RemoteApple.answerBytes` — what the report and the answer come to.

Main results:

* `RemoteApple.messagesFit_iff` — **the messages fit exactly if the report and the answer are short**.
-/

import DeviceLane.Library.Cut
import DeviceLane.Library.JsonLength
import DeviceLane.Library.Utf8Lossy
import DeviceLane.RemoteApple.MeshAgent
import Mathlib.Algebra.Order.BigOperators.Group.List

namespace RemoteApple

open Registry Json Utf8

/-! ### The end of a job -/

inductive TerminalStatus
  | exited (code : ℤ)
  | timedOut
  | cancelled
  deriving DecidableEq

inductive EventKind
  | started
  | stdout
  | stderr
  | terminal (status : TerminalStatus)
  deriving DecidableEq

/-- What the executor tells of a tool. -/
structure ProcessEvent where
  kind : EventKind
  payload : List UInt8
  deriving DecidableEq

def toolSucceeded (output : List ProcessEvent) : Bool :=
  output.getLast?.any fun event => event.kind = .terminal (.exited 0)

def isHardwareGate : AppleOperation → Bool
  | .hardwareGate _ => true
  | _ => false

/-- What is reported of something that a tool has written; the archive of a hardware gate is not. -/
def ProcessEvent.reported (operation : AppleOperation) (event : ProcessEvent) : Option (String × String) :=
  match event.kind with
  | .stdout =>
    if isHardwareGate operation then none else some ("stdout", fromUtf8Lossy event.payload)
  | .stderr => some ("stderr", fromUtf8Lossy event.payload)
  | _ => none

def pushEvent (operation : AppleOperation) (events : List NetworkEvent) (event : ProcessEvent) :
    List NetworkEvent :=
  match event.reported operation with
  | none => events
  | some (kind, payload) => events ++ [{ sequence := events.length + 2, kind, payload }]

def outputEvents (operation : AppleOperation) (output : List ProcessEvent) : List NetworkEvent :=
  output.foldl (pushEvent operation) []

/-- **The events at the end of a job**: what the tool has told of itself, or why it has not been run. -/
def endEvents (operation : AppleOperation) (execution : Except String (List ProcessEvent))
    (cancelled : Bool) (published : Option String) : List NetworkEvent :=
  match execution with
  | .error code => [jobTerminalEvent 2 cancelled false none (some code)]
  | .ok output =>
    let events := outputEvents operation output
    let succeeded := toolSucceeded output
    events ++ [jobTerminalEvent (events.length + 2) cancelled succeeded
      (if succeeded then published else none) (if succeeded then none else some "tool_failed")]

def artifactBytes (output : List ProcessEvent) : List UInt8 :=
  (output.filter fun event => event.kind = .stdout).flatMap ProcessEvent.payload

/-! ### The messages -/

def NetworkEvent.toJson (event : NetworkEvent) : Json :=
  .obj [("sequence", .num event.sequence), ("kind", .str event.kind), ("payload", .str event.payload)]

/-- A report on a job. -/
def Report.toJson (report : Report) : Json :=
  .obj [("request", .str "apple_progress"), ("job_id", .str report.jobId),
    ("events", .arr (report.events.map NetworkEvent.toJson)), ("terminal", .bool report.terminal)]

def artifactWriteJson (artifactId : String) (offset totalSize : ℕ) (sha256 chunkSha256 : String)
    (bytes : List UInt8) : Json :=
  .obj [("request", .str "artifact_write"), ("artifact_id", .str artifactId), ("offset", .num offset),
    ("total_size", .num totalSize), ("sha256", .str sha256), ("chunk_sha256", .str chunkSha256),
    ("bytes", .arr (bytes.map fun b => .num b.toNat))]

def chunkSize : ℕ := 64 * 1024

def chunks (bytes : List UInt8) : List (List UInt8 × ℕ) :=
  if bytes = [] then [] else (Cut.cut chunkSize bytes).zipIdx

def artifactWrites [Sha256] (jobId name mediaType : String) (bytes : List UInt8) : List Json :=
  let metadata := artifactMetadata jobId name mediaType bytes.length (digestText bytes)
  (chunks bytes).map fun chunk =>
    artifactWriteJson metadata.id (chunk.2 * chunkSize) bytes.length metadata.sha256
      (digestText chunk.1) chunk.1

def AuditRecord.toJson (record : AuditRecord) : Json :=
  .obj [("principal_id", .str record.principalId), ("host_id", .str record.hostId),
    ("device_id", .str record.deviceId), ("workspace_id", .str record.workspaceId),
    ("job_id", .str record.jobId), ("result", .str record.result)]

def listField (key : String) (items : List Json) : List (String × Json) :=
  if items = [] then [] else [(key, .arr items)]

def eventsJson (answer : Response) : Json :=
  .obj ([("accepted", .bool answer.accepted), ("hosts", .arr [])]
    ++ answer.jobId.toList.map (fun jobId => ("job_id", .str jobId))
    ++ listField "events" (answer.events.map NetworkEvent.toJson)
    ++ listField "audit" (answer.audit.map AuditRecord.toJson)
    ++ answer.artifact.toList.map fun artifact => ("artifact", .str artifact))

/-! ### What is read -/

/-- What the registry reads of a request. -/
def maxRequestBytes : ℕ := 512 * 1024

/-- What the daemon reads of an answer. -/
def maxFrameBytes : ℕ := 512 * 1024

def ReadsRequest (request : Json) : Prop :=
  request.toVec <+: (request.toVec ++ [0x0a]).take maxRequestBytes

def ReadsFrame (answer : Json) : Prop := (answer.toVec ++ [0x0a]).length ≤ maxFrameBytes

theorem readsRequest_iff {request : Json} :
    ReadsRequest request ↔ request.toVec.length ≤ maxRequestBytes := by
  rw [ReadsRequest, List.prefix_take_iff]
  exact and_iff_right (List.prefix_append _ _)

theorem readsFrame_iff {answer : Json} :
    ReadsFrame answer ↔ answer.toVec.length < maxFrameBytes := by
  rw [ReadsFrame, List.length_append]
  exact Nat.succ_le_iff

/-! ### The length of a message -/

def eventBytes (event : NetworkEvent) : ℕ :=
  33 + digits event.sequence + quoted event.kind + quoted event.payload

theorem length_eventJson (event : NetworkEvent) :
    (NetworkEvent.toJson event).toVec.length + 1 = eventBytes event := by
  have hkeys : quoted "sequence" = 10 ∧ quoted "kind" = 6 ∧ quoted "payload" = 9 := by decide
  rw [NetworkEvent.toJson, length_toVec_obj (List.cons_ne_nil _ _), eventBytes]
  simp only [List.map_cons, List.map_nil, List.sum_cons, List.sum_nil, length_toVec_num, length_toVec_str,
    hkeys]
  omega

theorem length_listJson {α : Type} {toJson : α → Json} {bytes : α → ℕ}
    (h : ∀ a, (toJson a).toVec.length + 1 = bytes a) {items : List α} (hitems : items ≠ []) :
    (Json.arr (items.map toJson)).toVec.length = (items.map bytes).sum + 1 := by
  rw [length_toVec_arr (by simpa using hitems), List.map_map]
  exact congrArg (fun f => (items.map f).sum + 1) (funext h)

theorem length_reportJson {report : Report} (hevents : report.events ≠ []) :
    report.toJson.toVec.length = 61 + (if report.terminal then 4 else 5) + quoted report.jobId
      + (report.events.map eventBytes).sum := by
  have hkeys : quoted "request" = 9 ∧ quoted "apple_progress" = 16 ∧ quoted "job_id" = 8 ∧
      quoted "events" = 8 ∧ quoted "terminal" = 10 := by decide
  rw [Report.toJson, length_toVec_obj (List.cons_ne_nil _ _)]
  simp only [List.map_cons, List.map_nil, List.sum_cons, List.sum_nil, length_toVec_str,
    length_toVec_bool, length_listJson length_eventJson hevents, hkeys]
  omega

/-! ### Reports -/

theorem outputEvents_eq (operation : AppleOperation) (output : List ProcessEvent) :
    outputEvents operation output
      = ((output.filterMap fun event => event.reported operation).zipIdx 0).map fun item =>
          { sequence := item.2 + 2
            kind := item.1.1
            payload := item.1.2 } := by
  have hfold : ∀ events, output.foldl (pushEvent operation) events
      = events ++ ((output.filterMap fun event => event.reported operation).zipIdx events.length).map
          fun item =>
            { sequence := item.2 + 2
              kind := item.1.1
              payload := item.1.2 } := by
    induction output with
    | nil => exact fun events => (List.append_nil events).symm
    | cons event output ih =>
      intro events
      rw [List.foldl_cons, ih, pushEvent, List.filterMap_cons]
      cases event.reported operation with
      | none => rfl
      | some => simp [List.zipIdx_cons]
  exact hfold []

theorem kind_reported {operation : AppleOperation} {event : ProcessEvent} {text : String × String}
    (h : event.reported operation = some text) : quoted text.1 = 8 := by
  have hkinds : quoted "stdout" = 8 ∧ quoted "stderr" = 8 := by decide
  unfold ProcessEvent.reported at h
  split at h
  · split at h
    · cases h
    · cases h
      exact hkinds.1
  · cases h
    exact hkinds.2
  · cases h

def outputBytes (operation : AppleOperation) (output : List ProcessEvent) : ℕ :=
  (((output.filterMap fun event => event.reported operation).zipIdx 0).map fun item =>
    41 + digits (item.2 + 2) + quoted item.1.2).sum

theorem sum_outputEvents (operation : AppleOperation) (output : List ProcessEvent) :
    ((outputEvents operation output).map eventBytes).sum = outputBytes operation output := by
  rw [outputEvents_eq, List.map_map, outputBytes]
  refine congrArg List.sum (List.map_congr_left fun item hmem => ?_)
  have htext : item.1 ∈ output.filterMap fun event => event.reported operation :=
    List.fst_mem_of_mem_zipIdx hmem
  obtain ⟨event, -, hevent⟩ := List.mem_filterMap.1 htext
  have hkind := kind_reported hevent
  simp only [Function.comp_apply, eventBytes, hkind]
  omega

/-- **What a report on the end of a job comes to.** -/
def reportBytes (jobId : String) (operation : AppleOperation)
    (execution : Except String (List ProcessEvent)) (cancelled : Bool) (published : Option String) : ℕ :=
  65 + quoted jobId +
    match execution with
    | .error code => eventBytes (jobTerminalEvent 2 cancelled false none (some code))
    | .ok output =>
      outputBytes operation output +
        eventBytes (jobTerminalEvent
          ((output.filterMap fun event => event.reported operation).length + 2) cancelled
          (toolSucceeded output) (if toolSucceeded output then published else none)
          (if toolSucceeded output then none else some "tool_failed"))

theorem endEvents_ne_nil (operation : AppleOperation) (execution : Except String (List ProcessEvent))
    (cancelled : Bool) (published : Option String) :
    endEvents operation execution cancelled published ≠ [] := by
  cases execution with
  | error => exact List.cons_ne_nil _ _
  | ok => exact List.append_ne_nil_of_right_ne_nil _ (List.cons_ne_nil _ _)

theorem length_endReport (jobId : String) (operation : AppleOperation)
    (execution : Except String (List ProcessEvent)) (cancelled : Bool) (published : Option String) :
    (endReport jobId (endEvents operation execution cancelled published)).toJson.toVec.length
      = reportBytes jobId operation execution cancelled published := by
  rw [length_reportJson (endEvents_ne_nil _ _ _ _)]
  cases execution with
  | error =>
    simp [endReport, endEvents, reportBytes]
  | ok output =>
    have hlength : (outputEvents operation output).length
        = (output.filterMap fun event => event.reported operation).length := by
      rw [outputEvents_eq, List.length_map, List.length_zipIdx]
    simp [endReport, endEvents, reportBytes, sum_outputEvents, hlength]

theorem le_eventBytes_jobTerminalEvent (sequence : ℕ) (cancelled toolSucceeded : Bool)
    (artifactId rejectionCode : Option String) :
    46 ≤ eventBytes (jobTerminalEvent sequence cancelled toolSucceeded artifactId rejectionCode) := by
  have hkinds : quoted "cancelled" = 11 ∧ quoted "completed" = 11 ∧ quoted "rejected" = 10 := by decide
  have hdigits := digits_pos sequence
  have hpayload : ∀ payload, 2 ≤ quoted payload :=
    fun payload => Nat.le_trans (Nat.le_add_left _ _) (le_quoted payload)
  unfold jobTerminalEvent eventBytes
  -- One case for each kind of end.
  split
  · have := hpayload "cancelled"
    simp only [hkinds]
    omega
  · split
    · split
      · rename_i id _
        have := hpayload id
        simp only [hkinds]
        omega
      · have := hpayload "artifact_publish_failed"
        simp only [hkinds]
        omega
    · have := hpayload (rejectionCode.getD "tool_failed")
      simp only [hkinds]
      omega

theorem length_startReport_le (jobId : String) (operation : AppleOperation)
    (execution : Except String (List ProcessEvent)) (cancelled : Bool) (published : Option String) :
    (startReport jobId).toJson.toVec.length
      ≤ reportBytes jobId operation execution cancelled published := by
  have hstart : eventBytes ⟨1, "started", ""⟩ = 45 := by decide
  have hlength : (startReport jobId).toJson.toVec.length = 111 + quoted jobId := by
    rw [length_reportJson (List.cons_ne_nil _ _)]
    simp [startReport, hstart]
    omega
  rw [hlength]
  cases execution with
  | error code =>
    have := le_eventBytes_jobTerminalEvent 2 cancelled false none (some code)
    simp only [reportBytes]
    omega
  | ok output =>
    have := le_eventBytes_jobTerminalEvent
      ((output.filterMap fun event => event.reported operation).length + 2) cancelled
      (toolSucceeded output) (if toolSucceeded output then published else none)
      (if toolSucceeded output then none else some "tool_failed")
    simp only [reportBytes]
    omega

section

variable [Sha256]

/-! ### Artifacts -/

theorem quoted_digestText_le (bytes : List UInt8) : quoted (digestText bytes) ≤ 386 := by
  have hquoted := quoted_le (digestText bytes)
  rw [digestText, utf8ByteSize_hex, Endian.Block.toList_length, ← digestText] at hquoted
  exact hquoted

omit [Sha256] in
theorem of_mem_chunks {bytes : List UInt8} {chunk : List UInt8 × ℕ} (h : chunk ∈ chunks bytes) :
    chunk.1.length ≤ chunkSize ∧ chunk.2 * chunkSize ≤ bytes.length := by
  have hsize : chunkSize ≠ 0 := by decide
  unfold chunks at h
  split_ifs at h with hbytes
  · cases h
  · have hindex := List.snd_lt_of_mem_zipIdx h
    rw [Nat.add_zero] at hindex
    exact ⟨(Cut.length_of_mem_cut hsize hbytes (List.fst_mem_of_mem_zipIdx h)).2,
      Cut.mul_le_length hsize hbytes hindex⟩

/-- **The parts of an artifact are read**, whatever its bytes are. -/
theorem readsRequest_of_mem_artifactWrites {jobId name mediaType : String} {bytes : List UInt8}
    {message : Json} (hlength : bytes.length < 2 ^ 64)
    (h : message ∈ artifactWrites jobId name mediaType bytes) : ReadsRequest message := by
  obtain ⟨chunk, hchunk, rfl⟩ := List.mem_map.1 h
  obtain ⟨hsize, hoffset⟩ := of_mem_chunks hchunk
  have hkeys : quoted "request" = 9 ∧ quoted "artifact_write" = 16 ∧ quoted "artifact_id" = 13 ∧
      quoted "offset" = 8 ∧ quoted "total_size" = 12 ∧ quoted "sha256" = 8 ∧
      quoted "chunk_sha256" = 14 ∧ quoted "bytes" = 7 := by decide
  have hnumber : ∀ n, n ≤ bytes.length → digits n ≤ 20 := fun n hn =>
    digits_le_of_lt (by decide) (Nat.lt_of_le_of_lt hn (Nat.lt_trans hlength (by decide)))
  have hid := quoted_digestText_le (Endian.textBytes (jobId ++ "\x00" ++ name ++ "\x00" ++ digestText bytes))
  have hwhole := quoted_digestText_le bytes
  have hpart := quoted_digestText_le chunk.1
  have hbytes := length_toVec_bytes_le chunk.1
  have htotal := hnumber _ (Nat.le_refl _)
  have hstart := hnumber _ hoffset
  rw [chunkSize] at hsize
  rw [readsRequest_iff, artifactWriteJson, length_toVec_obj (List.cons_ne_nil _ _), maxRequestBytes]
  simp only [List.map_cons, List.map_nil, List.sum_cons, List.sum_nil, length_toVec_str,
    length_toVec_num, hkeys, artifactMetadata]
  omega

end

/-! ### Answers -/

def auditBytes (record : AuditRecord) : ℕ :=
  78 + quoted record.principalId + quoted record.hostId + quoted record.deviceId
    + quoted record.workspaceId + quoted record.jobId + quoted record.result

theorem length_auditJson (record : AuditRecord) :
    (AuditRecord.toJson record).toVec.length + 1 = auditBytes record := by
  have hkeys : quoted "principal_id" = 14 ∧ quoted "host_id" = 9 ∧ quoted "device_id" = 11 ∧
      quoted "workspace_id" = 14 ∧ quoted "job_id" = 8 ∧ quoted "result" = 8 := by decide
  rw [AuditRecord.toJson, length_toVec_obj (List.cons_ne_nil _ _), auditBytes]
  simp only [List.map_cons, List.map_nil, List.sum_cons, List.sum_nil, length_toVec_str, hkeys]
  omega

theorem fieldsBytes_listField {α : Type} {toJson : α → Json} {bytes : α → ℕ}
    (h : ∀ a, (toJson a).toVec.length + 1 = bytes a) (key : String) (items : List α) :
    fieldsBytes (listField key (items.map toJson))
      = if items = [] then 0 else quoted key + 3 + (items.map bytes).sum := by
  unfold listField
  by_cases hitems : items = []
  · subst hitems
    rfl
  · rw [if_neg (by simpa using hitems), if_neg hitems]
    simp only [fieldsBytes, List.map_cons, List.map_nil, List.sum_cons, List.sum_nil,
      length_listJson h hitems]
    omega

/-- **What the answer about a job comes to**. -/
def answerBytes (state : DurableState) (jobId : String) (after : ℕ) : ℕ :=
  let events := ((state.jobs.lookup jobId).getD []).filter fun event => event.sequence > after
  let audit := state.audit.filter fun event => event.jobId = jobId
  38 + quoted jobId
    + (if events = [] then 0 else 11 + (events.map eventBytes).sum)
    + (if audit = [] then 0 else 10 + (audit.map auditBytes).sum)
    + (state.artifacts.lookup jobId).elim 0 fun artifact => 12 + quoted artifact

theorem length_eventsJson (state : DurableState) (jobId : String) (after : ℕ) :
    (eventsJson (jobEvents state jobId after)).toVec.length = answerBytes state jobId after := by
  have hkeys : quoted "accepted" = 10 ∧ quoted "hosts" = 7 ∧ quoted "job_id" = 8 ∧
      quoted "events" = 8 ∧ quoted "audit" = 7 ∧ quoted "artifact" = 10 := by decide
  rw [eventsJson, length_toVec_fields (by simp)]
  simp only [fieldsBytes_append, fieldsBytes_listField length_eventJson,
    fieldsBytes_listField length_auditJson, hkeys, answerBytes, jobEvents]
  cases state.artifacts.lookup jobId with
  | none | some =>
    simp [fieldsBytes, response, hkeys]
    omega

/-! ### Messages that fit -/

/-- **Every message about a job is read by its receiver**: the reports and the parts of the artifact by the
registry, and the answer to a question about the job by the daemon. -/
structure MessagesFit [Sha256] (jobId : String) (operation : AppleOperation)
    (execution : Except String (List ProcessEvent)) (cancelled : Bool) (published : Option String)
    (state : DurableState) (after : ℕ) : Prop where
  started : ReadsRequest (startReport jobId).toJson
  reported : ReadsRequest (endReport jobId (endEvents operation execution cancelled published)).toJson
  written : ∀ output, execution = .ok output → (artifactBytes output).length < 2 ^ 64 →
    ∀ name mediaType, ∀ message ∈ artifactWrites jobId name mediaType (artifactBytes output),
      ReadsRequest message
  answered : ReadsFrame (eventsJson (jobEvents state jobId after))

/-- **The messages fit exactly if the report on the end and the answer are short.** -/
theorem messagesFit_iff [Sha256] (jobId : String) (operation : AppleOperation)
    (execution : Except String (List ProcessEvent)) (cancelled : Bool) (published : Option String)
    (state : DurableState) (after : ℕ) :
    MessagesFit jobId operation execution cancelled published state after ↔
      reportBytes jobId operation execution cancelled published ≤ maxRequestBytes ∧
        answerBytes state jobId after < maxFrameBytes := by
  have hstarted := length_startReport_le jobId operation execution cancelled published
  have hreported := length_endReport jobId operation execution cancelled published
  constructor
  · intro hfit
    have hreport := readsRequest_iff.1 hfit.reported
    have hanswer := readsFrame_iff.1 hfit.answered
    rw [hreported] at hreport
    rw [length_eventsJson] at hanswer
    exact ⟨hreport, hanswer⟩
  · rintro ⟨hreport, hanswer⟩
    refine ⟨?_, ?_, ?_, ?_⟩
    · exact readsRequest_iff.2 (Nat.le_trans hstarted hreport)
    · exact readsRequest_iff.2 (hreported ▸ hreport)
    · intro output _ hlength name mediaType message hmessage
      exact readsRequest_of_mem_artifactWrites hlength hmessage
    · exact readsFrame_iff.2 (length_eventsJson state jobId after ▸ hanswer)

/-! ### A tool that writes too much -/

/-- Every message about a job fits, whatever its tool writes. -/
def AlwaysFit [Sha256] : Prop :=
  ∀ jobId operation execution cancelled published state after,
    MessagesFit jobId operation execution cancelled published state after

def sampleOutput : ProcessEvent :=
  { kind := .stdout
    payload := List.replicate 4096 0x61 }

def sampleExecution (parts : ℕ) : List ProcessEvent :=
  List.replicate parts sampleOutput ++ [{ kind := .terminal (.exited 0), payload := [] }]

theorem fromUtf8Lossy_sampleOutput :
    fromUtf8Lossy sampleOutput.payload = String.ofList (List.replicate 4096 'a') := by
  have hascii : ∀ b ∈ sampleOutput.payload, b < (0x80 : UInt8) := by
    intro b hb
    rw [List.eq_of_mem_replicate hb]
    decide
  rw [fromUtf8Lossy, lossyChars_ascii hascii, sampleOutput, List.map_replicate]
  rfl

theorem le_outputBytes (operation : AppleOperation) (output : List ProcessEvent) :
    ((output.filterMap fun event => event.reported operation).map fun text => quoted text.2).sum
      ≤ outputBytes operation output := by
  have hfirst : ∀ texts : List (String × String),
      (texts.map fun text => quoted text.2) = (texts.zipIdx 0).map fun item => quoted item.1.2 := by
    intro texts
    conv_lhs => rw [← List.zipIdx_map_fst 0 texts]
    rw [List.map_map]
    rfl
  rw [hfirst, outputBytes]
  exact List.sum_le_sum fun item _ => Nat.le_add_left _ _

theorem le_quoted_sampleOutput : 4098 ≤ quoted (fromUtf8Lossy sampleOutput.payload) := by
  have hbytes : ∀ n, bytes (List.replicate n 'a') = n := by
    intro n
    induction n with
    | zero => rfl
    | succ n ih =>
      rw [List.replicate_succ, bytes_cons, ih]
      exact Nat.add_comm 1 n
  have hsize : (String.ofList (List.replicate 4096 'a')).utf8ByteSize = 4096 := hbytes 4096
  have := le_quoted (String.ofList (List.replicate 4096 'a'))
  rw [fromUtf8Lossy_sampleOutput]
  omega

theorem le_reportBytes_sampleExecution (jobId : String) (parts : ℕ) (published : Option String) :
    parts * 4098
      ≤ reportBytes jobId .discoverSimulator (.ok (sampleExecution parts)) false published := by
  have htexts : (sampleExecution parts).filterMap (fun event => event.reported .discoverSimulator)
      = List.replicate parts ("stdout", fromUtf8Lossy sampleOutput.payload) := by
    have hreported : sampleOutput.reported .discoverSimulator
        = some ("stdout", fromUtf8Lossy sampleOutput.payload) := rfl
    rw [sampleExecution, List.filterMap_append, List.filterMap_replicate_of_some hreported]
    exact List.append_nil _
  have houtput := le_outputBytes .discoverSimulator (sampleExecution parts)
  rw [htexts, List.map_replicate, List.sum_replicate_nat] at houtput
  have hparts := Nat.mul_le_mul_left parts le_quoted_sampleOutput
  dsimp only at houtput
  simp only [reportBytes]
  omega

theorem not_alwaysFit : ¬∃ _ : Sha256, AlwaysFit := by
  rintro ⟨_, halways⟩
  have hfit := halways "job" .discoverSimulator (.ok (sampleExecution 128)) false
    (some (artifactMetadata "job" "apple-tool-output.log" "text/plain" (128 * 4096)
      (digestText (artifactBytes (sampleExecution 128)))).id) .empty 0
  have hreport := readsRequest_iff.1 hfit.reported
  rw [length_endReport, maxRequestBytes] at hreport
  have hlong := Nat.le_trans (le_reportBytes_sampleExecution "job" 128 _) hreport
  omega

end RemoteApple
