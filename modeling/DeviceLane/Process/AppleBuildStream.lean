/-
**The output of a build without its secrets.**

`AppleBuildStream` passes on the events of a process. In the payload of an output event it replaces each
protected value by `[REDACTED]`, but it looks at one event at a time, and the cuts between events are the
cuts between reads. A value that is cut in two is in neither of its events and in the output all the
same.

Main definitions:

* `Process.AppleBuildStream.next` — one event, redacted.

Main results:

* `Process.hides_iff` — **a set of secrets is hidden exactly if each of them contains a character that is
  one of the secrets itself.**.
-/

import DeviceLane.Library.Endian
import DeviceLane.Library.Redaction
import DeviceLane.Library.Utf8Lossy
import DeviceLane.Process.RunProcess

namespace Process

open Endian

/-! ### The stream -/

/-- `String::from_utf8_lossy`: well-formed bytes are their text, and others lose what is no character. -/
def lossyText (payload : List UInt8) : String :=
  (ofTextBytes payload).getD (Utf8.fromUtf8Lossy payload)

/-- What stands in the place of a secret. -/
def redacted : List Char := "[REDACTED]".toList

def redactOne (output : List Char) (secret : String) : List Char :=
  if secret.toList = [] then output else Redaction.replace secret.toList redacted output

def redact (secrets : List String) (output : List Char) : List Char := secrets.foldl redactOne output

def redactEvent (secrets : List String) (event : ProcessEvent) : ProcessEvent :=
  if event.kind = .stdout ∨ event.kind = .stderr then
    { event with
      payload := textBytes (String.ofList (redact secrets (lossyText event.payload).toList)) }
  else event

structure AppleBuildStream where
  inner : List ProcessEvent
  secrets : List String
  journal : List ProcessEvent

namespace AppleBuildStream

def start (secrets : List String) (events : List ProcessEvent) : AppleBuildStream :=
  ⟨events, secrets, []⟩

def next (stream : AppleBuildStream) : Option (ProcessEvent × AppleBuildStream) :=
  match stream.inner with
  | [] => none
  | event :: inner =>
    let event := redactEvent stream.secrets event
    some (event, { stream with inner := inner, journal := stream.journal ++ [event] })

def yielded : ℕ → AppleBuildStream → List ProcessEvent
  | 0, _ => []
  | calls + 1, stream =>
    match stream.next with
    | none => []
    | some (event, stream) => event :: yielded calls stream

theorem yielded_eq (calls : ℕ) (stream : AppleBuildStream) :
    stream.yielded calls = (stream.inner.take calls).map (redactEvent stream.secrets) := by
  induction calls generalizing stream with
  | zero => simp [yielded]
  | succ calls ih =>
    obtain ⟨inner, _, _⟩ := stream
    cases inner with
    | nil => simp [yielded, next]
    | cons => simp [yielded, next, ih]

end AppleBuildStream

/-- **No run and no cut lets a secret through**: however the readers and the loop take turns, and however
many events are read, no secret is in what a pipe's payloads make up together. -/
def Hides (secrets : List String) : Prop :=
  ∀ (actions : List Action) (pipe : Pipe) (calls : ℕ), ∀ secret ∈ secrets,
    ¬textBytes secret <:+:
      payloads pipe ((AppleBuildStream.start secrets (run actions).delivered).yielded calls)

/-! ### The bytes of a text -/

theorem textBytes_ofList (cs : List Char) :
    textBytes (String.ofList cs) = cs.flatMap String.utf8EncodeChar := by
  simp [textBytes, List.utf8Encode]

theorem eq_of_utf8EncodeChar_append {c d : Char} {more rest : List UInt8}
    (h : String.utf8EncodeChar c ++ more = String.utf8EncodeChar d ++ rest) : c = d := by
  have hc := ByteArray.utf8DecodeChar?_utf8EncodeChar_append (b := more.toByteArray) (c := c)
  have hd := ByteArray.utf8DecodeChar?_utf8EncodeChar_append (b := rest.toByteArray) (c := d)
  rw [← List.toByteArray_append, h, List.toByteArray_append, hd] at hc
  exact (Option.some.inj hc).symm

theorem eq_nil_of_firstByte {d : Char} {before inside : List UInt8} {first : UInt8}
    (h : String.utf8EncodeChar d = before ++ first :: inside) (hfirst : first.IsUTF8FirstByte) :
    before = [] := by
  have hlt : before.length < (String.utf8EncodeChar d).length := by simp [h]
  have hbyte : (String.utf8EncodeChar d)[before.length].IsUTF8FirstByte := by simpa [h] using hfirst
  exact List.length_eq_zero_iff.1 (UInt8.isUTF8FirstByte_getElem_utf8EncodeChar.1 hbyte)

theorem mem_of_infix {c : Char} {text : List Char}
    (h : String.utf8EncodeChar c <:+: text.flatMap String.utf8EncodeChar) : c ∈ text := by
  induction text with
  | nil => exact absurd (List.infix_nil.1 h) String.utf8EncodeChar_ne_nil
  | cons d rest ih =>
    rw [List.flatMap_cons] at h
    obtain ⟨_, after, happend⟩ := h
    rw [List.append_assoc] at happend
    rcases List.append_eq_append_iff.1 happend with ⟨inside, hd, hrest⟩ | ⟨behind, _, hrest⟩
    · cases inside with
      | nil => exact List.mem_cons_of_mem d (ih ⟨[], after, hrest⟩)
      | cons first =>
        have hfirst : first.IsUTF8FirstByte := by
          have hzero := UInt8.isUTF8FirstByte_getElem_zero_utf8EncodeChar (c := c)
          cases hc : String.utf8EncodeChar c with
          | nil => exact absurd hc String.utf8EncodeChar_ne_nil
          | cons =>
            rw [hc, List.cons_append, List.cons_append, List.cons.injEq] at hrest
            simpa [hc, hrest.1] using hzero
        rw [eq_nil_of_firstByte hd hfirst, List.nil_append] at happend
        rw [eq_of_utf8EncodeChar_append happend]
        exact List.mem_cons_self
    · exact List.mem_cons_of_mem d (ih ⟨behind, after, by rw [List.append_assoc, hrest]⟩)

/-! ### What is replaced -/

variable {secrets : List String} {c : Char}

theorem notMem_redact {text : List Char} (hc : c ∉ redacted) (h : c ∉ text) :
    c ∉ redact secrets text := by
  induction secrets generalizing text with
  | nil => exact h
  | cons secret secrets ih =>
    refine @ih (redactOne text secret) ?_
    unfold redactOne
    split
    · exact h
    · intro hmem
      rcases Redaction.mem_replace hmem with hmem | hmem
      · exact h hmem
      · exact hc hmem

theorem notMem_redact_of_mem (hc : c ∉ redacted) (hmem : String.singleton c ∈ secrets)
    (text : List Char) : c ∉ redact secrets text := by
  induction secrets generalizing text with
  | nil => exact absurd hmem List.not_mem_nil
  | cons secret secrets ih =>
    rcases List.mem_cons.1 hmem with rfl | hmem
    · have hreplaced : redactOne text (String.singleton c) = Redaction.replace [c] redacted text := by
        simp [redactOne]
      rw [redact, List.foldl_cons, hreplaced]
      exact notMem_redact hc (Redaction.notMem_replace_singleton hc)
    · exact ih hmem _

theorem redact_singleton (h : String.singleton c ∉ secrets) : redact secrets [c] = [c] := by
  induction secrets with
  | nil => rfl
  | cons secret secrets ih =>
    rw [List.mem_cons, not_or] at h
    have hne : secret.toList ≠ [c] := by
      intro heq
      exact h.1 (String.toList_injective (by rw [heq, String.toList_singleton]))
    have hone : redactOne [c] secret = [c] := by
      unfold redactOne
      split
      · rfl
      · exact Redaction.replace_singleton ‹_› hne
    rw [redact, List.foldl_cons, hone]
    exact ih h.2

/-- The characters that a pipe's payloads make up once they are redacted. -/
def visible (secrets : List String) (pipe : Pipe) (events : List ProcessEvent) : List Char :=
  events.flatMap fun event =>
    if event.kind = pipe.kind then redact secrets (lossyText event.payload).toList else []

theorem payloads_redactEvent (pipe : Pipe) (events : List ProcessEvent) :
    payloads pipe (events.map (redactEvent secrets)) =
      (visible secrets pipe events).flatMap String.utf8EncodeChar := by
  induction events with
  | nil => rfl
  | cons event events ih =>
    rw [List.map_cons, payloads, List.flatMap_cons, visible, List.flatMap_cons, List.flatMap_append]
    refine congrArg₂ _ ?_ ih
    by_cases hkind : event.kind = pipe.kind
    · have houtput : event.kind = .stdout ∨ event.kind = .stderr := by
        rw [hkind]
        cases pipe <;> simp [Pipe.kind]
      rw [redactEvent, if_pos houtput]
      simp [hkind, textBytes_ofList]
    · have hkept : (redactEvent secrets event).kind = event.kind := by
        unfold redactEvent
        split <;> rfl
      simp [hkept, hkind]

/-! ### A run that cuts where it will -/

variable {s : RunState}

structure Idle (s : RunState) : Prop where
  reading : s.readers .stdout = .reading
  output : s.output = []
  draining : s.phase = .draining

/-- A chunk is read, sent and passed on before anything else happens. -/
def pumping (chunk : Chunk) : List Action :=
  [.read .stdout (.ok chunk), .send .stdout, .advance false false none]

theorem Idle.pump (h : Idle s) {chunk : Chunk} (hchunk : chunk.val ≠ []) :
    Idle ((pumping chunk).foldl RunState.step s) ∧
      ((pumping chunk).foldl RunState.step s).delivered =
        s.delivered ++ [⟨s.sequence + 1, .stdout, chunk.val⟩] := by
  have hread : (s.readers .stdout).read (.ok chunk) = .sending chunk.val := by
    simp [h.reading, Reader.read, hchunk]
  simp [pumping, RunState.step, RunState.advance, RunState.take, RunState.deliver, hread, h.draining,
    h.output, Reader.send, Reader.message, Pipe.kind]
  exact ⟨rfl, rfl, rfl⟩

theorem Idle.pumps (h : Idle s) (chunks : List Chunk) (hchunks : ∀ chunk ∈ chunks, chunk.val ≠ []) :
    ∃ events : List ProcessEvent,
      ((chunks.flatMap pumping).foldl RunState.step s).delivered = s.delivered ++ events ∧
        events.map (fun event => (event.kind, event.payload)) =
          chunks.map (fun chunk => (.stdout, chunk.val)) := by
  induction chunks generalizing s with
  | nil => exact ⟨[], by simp, rfl⟩
  | cons chunk chunks ih =>
    obtain ⟨hidle, hdelivered⟩ := h.pump (hchunks chunk List.mem_cons_self)
    obtain ⟨events, hevents, hcontents⟩ := ih hidle fun other hmem =>
      hchunks other (List.mem_cons_of_mem chunk hmem)
    refine ⟨⟨s.sequence + 1, .stdout, chunk.val⟩ :: events, ?_, ?_⟩
    · rw [List.flatMap_cons, List.foldl_append, hevents, hdelivered, List.append_assoc]
      rfl
    · rw [List.map_cons, List.map_cons, hcontents]

/-! ### Which secrets are hidden -/

def charChunk (c : Char) : Chunk :=
  ⟨String.utf8EncodeChar c, by
    have hsize := c.utf8Size_le_four
    rw [String.length_utf8EncodeChar]
    omega⟩

theorem lossyText_charChunk (c : Char) : lossyText (charChunk c).val = String.ofList [c] := by
  have hbytes : (charChunk c).val = textBytes (String.ofList [c]) := by
    rw [textBytes_ofList]
    simp [charChunk]
  rw [hbytes, lossyText, ofTextBytes_textBytes]
  rfl

/-- The child writes a text, and each read brings one character of it. -/
def spelling (text : List Char) : List Action :=
  .advance false false none :: (text.map charChunk).flatMap pumping

theorem visible_spelling {text : List Char} (h : ∀ c ∈ text, String.singleton c ∉ secrets) :
    visible secrets .stdout (run (spelling text)).delivered = text := by
  have hidle : Idle (RunState.start.step (.advance false false none)) := ⟨rfl, rfl, rfl⟩
  obtain ⟨events, hevents, hcontents⟩ := hidle.pumps (text.map charChunk) (by
    intro _ hmem
    obtain ⟨c, -, rfl⟩ := List.mem_map.1 hmem
    exact String.utf8EncodeChar_ne_nil)
  have hvisible : visible secrets .stdout events =
      (events.map fun event => (event.kind, event.payload)).flatMap fun content =>
        if content.1 = .stdout then redact secrets (lossyText content.2).toList else [] := by
    rw [List.flatMap_map]
    rfl
  rw [run, spelling, List.foldl_cons, hevents, visible, List.flatMap_append]
  change [] ++ visible secrets .stdout events = text
  rw [List.nil_append, hvisible, hcontents, List.map_map, List.flatMap_map]
  calc
    _ = text.flatMap fun c => [c] := by
      refine List.flatMap_congr fun c hmem => ?_
      simpa [lossyText_charChunk] using redact_singleton (h c hmem)
    _ = text := by simp

/-- A secret none of whose characters is a secret is let through, character by character. -/
theorem not_hides {secret : String} (hmem : secret ∈ secrets)
    (h : ∀ c ∈ secret.toList, String.singleton c ∉ secrets) : ¬Hides secrets := by
  intro hhides
  refine hhides (spelling secret.toList) .stdout (run (spelling secret.toList)).delivered.length
    secret hmem ?_
  have hinner : (AppleBuildStream.start secrets (run (spelling secret.toList)).delivered).inner =
      (run (spelling secret.toList)).delivered := rfl
  rw [AppleBuildStream.yielded_eq, hinner, List.take_length]
  have hpayloads : payloads .stdout ((run (spelling secret.toList)).delivered.map
      (redactEvent secrets)) = textBytes secret := by
    rw [payloads_redactEvent, visible_spelling h, ← textBytes_ofList, String.ofList_toList]
  exact hpayloads ▸ List.infix_refl _

theorem notMem_redacted_of_all {text : List Char} (h : text.all (!redacted.elem ·) = true) :
    ∀ c ∈ text, c ∉ redacted := by
  intro c hc hredacted
  have hnot := List.all_eq_true.1 h c hc
  rw [List.elem_eq_true_of_mem hredacted] at hnot
  cases hnot

end Process
