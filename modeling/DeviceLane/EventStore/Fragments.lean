/-
**Writing a batch as hash-linked segments.**

The writer streams the canonical body through a buffer of one segment. A full buffer is emitted
only when more bytes arrive, so the last part is never empty; every part but the last is full. Each
emission rewrites the header in front of the buffer: its flags, its part index, and the digest of
the part before it.

Main definitions:

* `EventStore.segments` — the segments of a batch, as a list.

Main result:

* `EventStore.writeEventSegments_eq` — **the writer hands exactly the segments of the batch to the
  callback, in order, and fails only with the callback's own error.**.
-/

import DeviceLane.EventStore.Events
import DeviceLane.Library.Cut

namespace EventStore

open Endian Effect

structure BatchBinding where
  storeId : Block 16
  job : Block 32
  predecessor : Digest
  origin : UInt8
  actor : Block 32
  deriving DecidableEq

/-- The errors of the fragment writer itself. None of them has the kind `Interrupted`, so the
standard `write_all` never tries one of its writes again. -/
inductive FragmentError
  | invalidFragment
  | invalidHeader
  | emissionFailed
  deriving DecidableEq, Repr

def FragmentError.toIo : FragmentError → IoError
  | .invalidFragment => ⟨.invalidData, "invalid event fragment"⟩
  | .invalidHeader => invalid
  | .emissionFailed => ⟨.other, "segment emission failed"⟩

def writeZero : IoError := ⟨.writeZero, "failed to write whole buffer"⟩

/-! ### The buffered writer -/

/-- The writer: the header of the next part, the buffer behind it, the callback's error if it
failed, and the callback's own state. -/
structure FragmentWriter (σ : Type) where
  header : SegmentHeader
  terminal : Bool
  buffer : List UInt8
  failure : Option IoError
  sink : σ

section Writer

variable {σ : Type} [Sha256] (emit : Digest → List UInt8 → Eff σ IoError Unit)

def u8OfBool (b : Bool) : UInt8 := if b then 1 else 0

def partFlags (first last terminal : Bool) : UInt8 :=
  u8OfBool first ||| (u8OfBool last <<< 1) ||| (u8OfBool (last && terminal) <<< 2)

def emitPart (last : Bool) : Eff (FragmentWriter σ) FragmentError Digest := do
  let w ← get
  if w.buffer.length < headerBytes then
    throw .invalidFragment
  let bodyLength := w.buffer.length - headerBytes
  if ¬bodyLength < 2 ^ 32 then
    throw .invalidFragment
  let header := { w.header with
    bodyLength := UInt32.ofNat bodyLength
    flags := partFlags (w.header.partIndex == 0) last w.terminal }
  set { w with header }
  match header.encode with
  | .error _ => throw .invalidHeader
  | .ok head =>
    let buffer := head ++ w.buffer.drop headerBytes
    set { w with header, buffer }
    let digest := segmentDigest buffer
    if ¬last ∧ ¬header.partIndex.toNat + 1 < 2 ^ 64 then
      throw .invalidFragment
    let nextIndex := if last then header.partIndex else header.partIndex + 1
    match (emit digest buffer).exec w.sink with
    | (.error error, sink) =>
      set { w with header, buffer, sink, failure := some error }
      throw .emissionFailed
    | (.ok _, sink) =>
      set { w with
        header := { header with predecessor := digest, partIndex := nextIndex }
        buffer := buffer.take headerBytes
        sink }
      pure digest

/-- Takes as many bytes as the buffer has room for, after emitting it when it is full. -/
def write (bytes : List UInt8) : Eff (FragmentWriter σ) FragmentError ℕ :=
  if bytes = [] then
    pure 0
  else do
    if (← get).buffer.length = headerBytes + maxBodyBytes then
      let _ ← emitPart emit false
    let w ← get
    let available := headerBytes + maxBodyBytes - w.buffer.length
    let count := min bytes.length available
    set { w with buffer := w.buffer ++ bytes.take count }
    pure count

def writeAll (bytes : List UInt8) : Eff (FragmentWriter σ) IoError Unit :=
  if bytes = [] then
    pure ()
  else do
    match ← attempt (write emit bytes) with
    | .error error => throw error.toIo
    | .ok 0 => throw writeZero
    | .ok (count + 1) => writeAll (bytes.drop (count + 1))
termination_by bytes.length
decreasing_by
  have : bytes.length ≠ 0 := by simpa
  rw [List.length_drop]
  omega

def batchHeader (binding : BatchBinding) (events : List NetworkEvent) : SegmentHeader where
  storeId := binding.storeId
  job := binding.job
  predecessor := binding.predecessor
  origin := binding.origin
  actor := binding.actor
  flags := 0
  eventCount := UInt64.ofNat events.length
  firstSequence := (events.head?.map NetworkEvent.sequence).getD 0
  lastSequence := (events.getLast?.map NetworkEvent.sequence).getD 0
  partIndex := 0
  bodyLength := 8

/-- Streams a logical event batch into hash-linked physical segments. -/
def writeEventSegments (binding : BatchBinding) (events : List NetworkEvent) (terminal : Bool) :
    Eff σ IoError Digest :=
  ofRun fun sink =>
    if ¬(1 ≤ binding.origin ∧ binding.origin ≤ 4)
        ∨ (binding.origin ≠ 1 ∧ binding.actor ≠ Block.zero 32)
        ∨ ¬events.length < 2 ^ 64 then
      (.error FragmentError.invalidFragment.toIo, sink)
    else
      let writer : FragmentWriter σ :=
        { header := batchHeader binding events, terminal,
          buffer := List.replicate headerBytes 0, failure := none, sink }
      match (writeEventBatch (writeAll emit) events).exec writer with
      | (.error error, w) => (.error (w.failure.getD error), w.sink)
      | (.ok _, w) =>
        match (emitPart emit true).exec w with
        | (.ok digest, w) => (.ok digest, w.sink)
        | (.error error, w) => (.error (w.failure.getD error.toIo), w.sink)

end Writer

/-! ### The segments of a batch -/

section Segments

variable {σ : Type} [Sha256]

def partHeader (h : SegmentHeader) (terminal last : Bool) (body : List UInt8) : SegmentHeader :=
  { h with
    bodyLength := UInt32.ofNat body.length
    flags := partFlags (h.partIndex == 0) last terminal }

def partBytes (h : SegmentHeader) (terminal last : Bool) (body : List UInt8) : List UInt8 :=
  (partHeader h terminal last body).bytes ++ body

/-- The header behind a full part: it names that part as its predecessor. -/
def nextHeader (h : SegmentHeader) (terminal : Bool) (body : List UInt8) : SegmentHeader :=
  { partHeader h terminal false body with
    predecessor := segmentDigest (partBytes h terminal false body)
    partIndex := h.partIndex + 1 }

def fullSegments (h : SegmentHeader) (terminal : Bool) : List (List UInt8) → List (List UInt8)
  | [] => []
  | body :: bodies =>
    partBytes h terminal false body :: fullSegments (nextHeader h terminal body) terminal bodies

def headerAfter (h : SegmentHeader) (terminal : Bool) : List (List UInt8) → SegmentHeader
  | [] => h
  | body :: bodies => headerAfter (nextHeader h terminal body) terminal bodies

def segmentsFrom (h : SegmentHeader) (terminal : Bool) : List (List UInt8) → List (List UInt8)
  | [] => []
  | [body] => [partBytes h terminal true body]
  | body :: body' :: bodies =>
    partBytes h terminal false body
      :: segmentsFrom (nextHeader h terminal body) terminal (body' :: bodies)

/-- **The segments of a batch**, in order. -/
def segments (binding : BatchBinding) (events : List NetworkEvent) (terminal : Bool) :
    List (List UInt8) :=
  segmentsFrom (batchHeader binding events) terminal (Cut.cut maxBodyBytes (batchBytes events))

/-- The digest of the last segment. -/
def tailDigest (segs : List (List UInt8)) : Digest :=
  (segs.getLast?.map segmentDigest).getD (Block.zero 32)

/-- Handing segments to the callback, in order, until it fails. -/
def emitSegments (emit : Digest → List UInt8 → Eff σ IoError Unit) :
    List (List UInt8) → Eff σ IoError Unit
  | [] => pure ()
  | seg :: segs => do
      emit (segmentDigest seg) seg
      emitSegments emit segs

theorem segmentsFrom_append (h : SegmentHeader) (terminal : Bool) (bodies rest : List (List UInt8))
    (hrest : rest ≠ []) : segmentsFrom h terminal (bodies ++ rest)
      = fullSegments h terminal bodies
        ++ segmentsFrom (headerAfter h terminal bodies) terminal rest := by
  induction bodies generalizing h with
  | nil => rfl
  | cons body bodies ih =>
    obtain ⟨body', rest', hcons⟩ : ∃ body' rest', bodies ++ rest = body' :: rest' :=
      List.exists_cons_of_ne_nil (by simp [hrest])
    rw [List.cons_append, hcons, segmentsFrom, ← hcons, ih]
    rfl

theorem fullSegments_append (h : SegmentHeader) (terminal : Bool) (bodies rest : List (List UInt8)) :
    fullSegments h terminal (bodies ++ rest)
      = fullSegments h terminal bodies
        ++ fullSegments (headerAfter h terminal bodies) terminal rest := by
  induction bodies generalizing h with
  | nil => rfl
  | cons body bodies ih =>
    rw [List.cons_append, fullSegments, ih]
    rfl

theorem headerAfter_append (h : SegmentHeader) (terminal : Bool) (bodies rest : List (List UInt8)) :
    headerAfter h terminal (bodies ++ rest)
      = headerAfter (headerAfter h terminal bodies) terminal rest := by
  induction bodies generalizing h with
  | nil => rfl
  | cons body bodies ih => exact ih _

theorem headerAfter_const (h : SegmentHeader) (terminal : Bool) (bodies : List (List UInt8)) :
    (headerAfter h terminal bodies).storeId = h.storeId
      ∧ (headerAfter h terminal bodies).job = h.job
      ∧ (headerAfter h terminal bodies).origin = h.origin
      ∧ (headerAfter h terminal bodies).actor = h.actor
      ∧ (headerAfter h terminal bodies).eventCount = h.eventCount
      ∧ (headerAfter h terminal bodies).firstSequence = h.firstSequence
      ∧ (headerAfter h terminal bodies).lastSequence = h.lastSequence := by
  induction bodies generalizing h with
  | nil => simp [headerAfter]
  | cons body bodies ih => exact ih (nextHeader h terminal body)

theorem headerAfter_partIndex (h : SegmentHeader) (terminal : Bool) (bodies : List (List UInt8))
    (hlt : h.partIndex.toNat + bodies.length < 2 ^ 64) :
    (headerAfter h terminal bodies).partIndex.toNat = h.partIndex.toNat + bodies.length := by
  induction bodies generalizing h with
  | nil => rfl
  | cons body bodies ih =>
    have hnext : (nextHeader h terminal body).partIndex.toNat = h.partIndex.toNat + 1 := by
      simp only [List.length_cons] at hlt
      have hstep : (nextHeader h terminal body).partIndex = h.partIndex + 1 := rfl
      rw [hstep, UInt64.toNat_add]
      exact Nat.mod_eq_of_lt (by simp; omega)
    rw [headerAfter, ih _ (by rw [hnext]; simp only [List.length_cons] at hlt; omega), hnext,
      List.length_cons]
    omega

theorem emitSegments_append (emit : Digest → List UInt8 → Eff σ IoError Unit)
    (a b : List (List UInt8)) (s : σ) : (emitSegments emit (a ++ b)).exec s
      = (emitSegments emit a >>= fun _ => emitSegments emit b).exec s := by
  induction a generalizing s with
  | nil => rfl
  | cons seg a ih =>
    rw [List.cons_append, emitSegments, emitSegments, exec_bind, exec_bind, exec_bind]
    cases h : ((emit (segmentDigest seg) seg).exec s).1 with
    | ok =>
      simp only
      rw [ih, exec_bind]
    | error => rfl

end Segments

/-! ### The headers the writer produces are valid -/

section Headers

structure Emittable (h : SegmentHeader) : Prop where
  origin : 1 ≤ h.origin ∧ h.origin ≤ 4
  actor : h.origin ≠ 1 → h.actor = Block.zero 32
  predecessor : h.partIndex ≠ 0 → h.predecessor ≠ Block.zero 32
  empty : h.eventCount = 0 → h.firstSequence = 0 ∧ h.lastSequence = 0
  single : h.eventCount = 1 → h.firstSequence = h.lastSequence

theorem partFlags_isFirst : ∀ first last terminal : Bool,
    (partFlags first last terminal &&& 1 != 0) = first := by decide

theorem partFlags_isLast : ∀ first last terminal : Bool,
    (partFlags first last terminal &&& 2 != 0) = last := by decide

theorem partFlags_isTerminal : ∀ first last terminal : Bool,
    (partFlags first last terminal &&& 4 != 0) = (last && terminal) := by decide

theorem partFlags_unused : ∀ first last terminal : Bool,
    partFlags first last terminal &&& ~~~7 = 0 := by decide

theorem partHeader_bodyLength {h : SegmentHeader} {terminal last : Bool} {body : List UInt8}
    (hmax : body.length ≤ maxBodyBytes) :
    (partHeader h terminal last body).bodyLength.toNat = body.length := by
  have hlt : body.length < 2 ^ 32 := by
    simp only [maxBodyBytes] at hmax
    omega
  exact UInt32.toNat_ofNat_of_lt' hlt

theorem ofNat_eq_iff {a b : ℕ} (ha : a < 2 ^ 32) (hb : b < 2 ^ 32) :
    UInt32.ofNat a = UInt32.ofNat b ↔ a = b := by
  rw [← UInt32.toNat_inj, UInt32.toNat_ofNat_of_lt' ha, UInt32.toNat_ofNat_of_lt' hb]

/-- **The header of every part the writer emits is valid.** -/
theorem partHeader_validate {h : SegmentHeader} {terminal last : Bool} {body : List UInt8}
    (hE : Emittable h) (hne : body ≠ []) (hmax : body.length ≤ maxBodyBytes)
    (hfull : last = false → body.length = maxBodyBytes)
    (hempty : h.eventCount = 0 → h.partIndex = 0 ∧ last = true ∧ body.length = 8) :
    (partHeader h terminal last body).validate = .ok () := by
  have hlt : body.length < 2 ^ 32 := by
    simp only [maxBodyBytes] at hmax
    omega
  have hpos : body.length ≠ 0 := by simpa using hne
  have hfirst : (partHeader h terminal last body).isFirst = (h.partIndex == 0) :=
    partFlags_isFirst _ _ _
  have hlast : (partHeader h terminal last body).isLast = last := partFlags_isLast _ _ _
  have hterm : (partHeader h terminal last body).isTerminal = (last && terminal) :=
    partFlags_isTerminal _ _ _
  have hunused : (partHeader h terminal last body).flags &&& ~~~7 = 0 := partFlags_unused _ _ _
  have hzero : ¬UInt32.ofNat body.length = 0 := by
    rw [show (0 : UInt32) = UInt32.ofNat 0 from rfl, ofNat_eq_iff hlt (by omega)]
    exact hpos
  have hbound : ¬UInt32.ofNat body.length > UInt32.ofNat maxBodyBytes := by
    rw [gt_iff_lt, UInt32.lt_iff_toNat_lt, UInt32.toNat_ofNat_of_lt' hlt,
      UInt32.toNat_ofNat_of_lt' (by decide)]
    omega
  refine if_neg ?_
  rw [hfirst, hlast, hterm]
  rintro (hbad | hbad | hbad | hbad | hbad | hbad | hbad | hbad | hbad | hbad | hbad)
  · exact hbad hE.origin
  · exact hbad.2 (hE.actor hbad.1)
  · exact hbad hunused
  · cases last <;> simp at hbad
  · exact hbad rfl
  · exact hE.predecessor (by simpa using hbad.1) hbad.2
  · exact hzero hbad
  · exact hbound hbad
  · cases last with
    | true => simp at hbad
    | false => exact hbad.2 (congrArg UInt32.ofNat (hfull rfl))
  · obtain ⟨hcount, hbad⟩ := hbad
    obtain ⟨hindex, rfl, hbody⟩ := hempty hcount
    obtain ⟨hf, hl⟩ := hE.empty hcount
    have hbody' : (partHeader h terminal true body).bodyLength = 8 := congrArg UInt32.ofNat hbody
    rcases hbad with hbad | hbad | hbad | hbad | hbad
    · exact hbad (by simp [hindex])
    · exact hbad rfl
    · exact hbad hbody'
    · exact hbad hf
    · exact hbad hl
  · exact hbad.2 (hE.single hbad.1)

theorem batchHeader_emittable {binding : BatchBinding} {events : List NetworkEvent}
    (horigin : 1 ≤ binding.origin ∧ binding.origin ≤ 4)
    (hactor : binding.origin ≠ 1 → binding.actor = Block.zero 32)
    (hlen : events.length < 2 ^ 64) : Emittable (batchHeader binding events) := by
  have hcount : (UInt64.ofNat events.length).toNat = events.length :=
    UInt64.toNat_ofNat_of_lt' hlen
  refine ⟨horigin, hactor, fun h => absurd rfl h, fun h => ?_, fun h => ?_⟩
  · have hnil : events.length = 0 := by rw [← hcount]; exact congrArg UInt64.toNat h
    obtain rfl : events = [] := by simpa using hnil
    exact ⟨rfl, rfl⟩
  · have hone : events.length = 1 := by rw [← hcount]; exact congrArg UInt64.toNat h
    obtain ⟨_, rfl⟩ := List.length_eq_one_iff.1 hone
    rfl

end Headers

theorem maxBodyBytes_ne_zero : maxBodyBytes ≠ 0 := by decide

theorem length_flatten_of_full {bodies : List (List UInt8)}
    (hfull : ∀ b ∈ bodies, b.length = maxBodyBytes) :
    bodies.flatten.length = 524288 * bodies.length := by
  induction bodies with
  | nil => rfl
  | cons b bodies ih =>
    have hb : b.length = 524288 := hfull b List.mem_cons_self
    have htail := ih (List.forall_mem_cons.1 hfull).2
    rw [List.flatten_cons, List.length_append, List.length_cons]
    omega

theorem length_le_flatten {bodies : List (List UInt8)} {b : List UInt8} (hb : b ∈ bodies) :
    b.length ≤ bodies.flatten.length := by
  obtain ⟨_, _, rfl⟩ := List.append_of_mem hb
  simp only [List.flatten_append, List.flatten_cons, List.length_append]
  omega

/-! ### What the writer does -/

section WriterSpec

variable {σ : Type} [Sha256]

theorem Emittable.headerAfter {h : SegmentHeader} {terminal : Bool} {bodies : List (List UInt8)}
    (hE : Emittable h)
    (hzero : ∀ seg ∈ fullSegments h terminal bodies, segmentDigest seg ≠ Block.zero 32) :
    Emittable (headerAfter h terminal bodies) := by
  induction bodies generalizing h with
  | nil => exact hE
  | cons body bodies ih =>
    have hnext : Emittable (nextHeader h terminal body) :=
      ⟨hE.origin, hE.actor, fun _ => hzero _ List.mem_cons_self, hE.empty, hE.single⟩
    exact ih hnext (List.forall_mem_cons.1 hzero).2

variable {emit : Digest → List UInt8 → Eff σ IoError Unit}

theorem exec_emitPart (emit : Digest → List UInt8 → Eff σ IoError Unit) {w : FragmentWriter σ} {head body : List UInt8} {last : Bool}
    (hbuffer : w.buffer = head ++ body) (hhead : head.length = headerBytes)
    (hmax : body.length ≤ maxBodyBytes) (hindex : last = false → w.header.partIndex.toNat + 1 < 2 ^ 64)
    (hvalid : (partHeader w.header w.terminal last body).validate = .ok ()) :
    (emitPart emit last).exec w =
      match (emit (segmentDigest (partBytes w.header w.terminal last body))
          (partBytes w.header w.terminal last body)).exec w.sink with
      | (.error error, sink) =>
        (.error .emissionFailed,
          { w with
            header := partHeader w.header w.terminal last body
            buffer := partBytes w.header w.terminal last body
            sink
            failure := some error })
      | (.ok _, sink) =>
        (.ok (segmentDigest (partBytes w.header w.terminal last body)),
          { w with
            header := { partHeader w.header w.terminal last body with
              predecessor := segmentDigest (partBytes w.header w.terminal last body)
              partIndex := if last then w.header.partIndex else w.header.partIndex + 1 }
            buffer := (partHeader w.header w.terminal last body).bytes
            sink }) := by
  have hlen : w.buffer.length = headerBytes + body.length := by
    rw [hbuffer, List.length_append, hhead]
  have hdrop : w.buffer.drop headerBytes = body := by
    rw [hbuffer]
    exact List.drop_left' hhead
  have hsub : w.buffer.length - headerBytes = body.length := by omega
  have henc := SegmentHeader.encode_eq_ok hvalid
  have hoverflow : ¬(¬last = true ∧ ¬w.header.partIndex.toNat + 1 < 2 ^ 64) := by
    rintro ⟨hlast, hge⟩
    exact hge (hindex (by simpa using hlast))
  have htake : (partBytes w.header w.terminal last body).take headerBytes
      = (partHeader w.header w.terminal last body).bytes :=
    List.take_left' (SegmentHeader.bytes_length _)
  have hlt : body.length < 2 ^ 32 := by
    simp only [maxBodyBytes] at hmax
    omega
  rw [emitPart, exec_bind_ok (exec_get w), if_neg (by omega)]
  dsimp only
  rw [hsub, if_neg (by omega), hdrop]
  rw [exec_bind_ok (exec_set _ _)]
  change Eff.exec (match (partHeader w.header w.terminal last body).encode with
    | .error _ => _
    | .ok head => _) _ = _
  rw [henc]
  dsimp only
  rw [exec_bind_ok (exec_set _ _)]
  rw [if_neg hoverflow]
  rw [show (partHeader w.header w.terminal last body).bytes ++ body
    = partBytes w.header w.terminal last body from rfl, htake]
  rcases (emit (segmentDigest (partBytes w.header w.terminal last body))
    (partBytes w.header w.terminal last body)).exec w.sink with ⟨r, sink⟩
  cases r with
  | error | ok => rfl

/-- The state of the writer behind the full parts `bodies`, with `body` in its buffer. -/
structure Behind (emit : Digest → List UInt8 → Eff σ IoError Unit) (sink₀ : σ)
    (h₀ : SegmentHeader) (terminal : Bool) (bodies : List (List UInt8)) (body : List UInt8)
    (w : FragmentWriter σ) : Prop where
  full : ∀ b ∈ bodies, b.length = maxBodyBytes
  length_le : body.length ≤ maxBodyBytes
  header_eq : w.header = headerAfter h₀ terminal bodies
  buffer_eq : ∃ head, head.length = headerBytes ∧ w.buffer = head ++ body
  emitted : (emitSegments emit (fullSegments h₀ terminal bodies)).exec sink₀ = (.ok (), w.sink)
  failure_eq : w.failure = none
  terminal_eq : w.terminal = terminal

/-- The writer when `p` has been written to it: the buffer is emitted only when more bytes follow,
so it is empty at the very start only. -/
def Written (emit : Digest → List UInt8 → Eff σ IoError Unit) (sink₀ : σ) (h₀ : SegmentHeader)
    (terminal : Bool) (p : List UInt8) (w : FragmentWriter σ) : Prop :=
  ∃ bodies body, Behind emit sink₀ h₀ terminal bodies body w ∧ bodies.flatten ++ body = p
    ∧ (bodies ≠ [] → body ≠ [])

def EmissionFailed (emit : Digest → List UInt8 → Eff σ IoError Unit) (sink₀ : σ)
    (segs : List (List UInt8)) (w : FragmentWriter σ) : Prop :=
  ∃ error, w.failure = some error ∧ (emitSegments emit segs).exec sink₀ = (.error error, w.sink)

/-- The conditions under which a batch body is cut into valid segments. Only the last segment is
the predecessor of no other one, so that its digest may be anything. -/
structure Cuttable (h₀ : SegmentHeader) (terminal : Bool) (total : List UInt8) : Prop where
  emittable : Emittable h₀
  start : h₀.partIndex = 0
  length_lt : total.length < 2 ^ 64
  empty : h₀.eventCount = 0 → total.length = 8
  digest_ne : ∀ seg ∈ (segmentsFrom h₀ terminal (Cut.cut maxBodyBytes total)).dropLast,
    segmentDigest seg ≠ Block.zero 32

theorem segmentsFrom_ne_nil (h : SegmentHeader) (terminal : Bool) {bodies : List (List UInt8)}
    (hne : bodies ≠ []) : segmentsFrom h terminal bodies ≠ [] := by
  match bodies with
  | [] => exact absurd rfl hne
  | [_] => exact List.cons_ne_nil _ _
  | _ :: _ :: _ => exact List.cons_ne_nil _ _

theorem segmentsFrom_cut {h₀ : SegmentHeader} {terminal : Bool} {bodies : List (List UInt8)}
    {rest : List UInt8} (hfull : ∀ b ∈ bodies, b.length = maxBodyBytes) (hrest : rest ≠ []) :
    segmentsFrom h₀ terminal (Cut.cut maxBodyBytes (bodies.flatten ++ rest))
      = fullSegments h₀ terminal bodies
        ++ segmentsFrom (headerAfter h₀ terminal bodies) terminal (Cut.cut maxBodyBytes rest) := by
  rw [Cut.cut_eq_append maxBodyBytes_ne_zero hfull hrest,
    segmentsFrom_append _ _ _ _ (Cut.cut_ne_nil _ _)]

theorem Cuttable.headerAfter {h₀ : SegmentHeader} {terminal : Bool} {bodies : List (List UInt8)}
    {rest : List UInt8} (hc : Cuttable h₀ terminal (bodies.flatten ++ rest))
    (hfull : ∀ b ∈ bodies, b.length = maxBodyBytes) (hrest : rest ≠ []) :
    Emittable (headerAfter h₀ terminal bodies)
      ∧ (headerAfter h₀ terminal bodies).partIndex.toNat = bodies.length
      ∧ bodies.length + 1 < 2 ^ 64 := by
  have hlen := length_flatten_of_full hfull
  have hlt := hc.length_lt
  rw [List.length_append] at hlt
  have hpos : rest.length ≠ 0 := by simpa using hrest
  have hzero : h₀.partIndex.toNat = 0 := by rw [hc.start]; rfl
  have hindex := headerAfter_partIndex h₀ terminal bodies (by omega)
  refine ⟨hc.emittable.headerAfter fun seg hseg => hc.digest_ne seg ?_, by omega, by omega⟩
  rw [segmentsFrom_cut hfull hrest,
    List.dropLast_append_of_ne_nil (segmentsFrom_ne_nil _ _ (Cut.cut_ne_nil _ _))]
  exact List.mem_append_left _ hseg

theorem Cuttable.empty_part {h₀ : SegmentHeader} {terminal last : Bool}
    {bodies : List (List UInt8)} {body rest : List UInt8}
    (hc : Cuttable h₀ terminal (bodies.flatten ++ (body ++ rest)))
    (hfull : ∀ b ∈ bodies, b.length = maxBodyBytes)
    (hlast : last = false → body.length = maxBodyBytes) (hrest : last = true → rest = [])
    (hcount : (EventStore.headerAfter h₀ terminal bodies).eventCount = 0) :
    (EventStore.headerAfter h₀ terminal bodies).partIndex = 0 ∧ last = true ∧ body.length = 8 := by
  rw [(headerAfter_const h₀ terminal bodies).2.2.2.2.1] at hcount
  have htotal := hc.empty hcount
  simp only [List.length_append] at htotal
  have hmax : maxBodyBytes = 524288 := rfl
  obtain rfl : bodies = [] := by
    cases bodies with
    | nil => rfl
    | cons b bodies =>
      have hb := hfull b List.mem_cons_self
      have hle := length_le_flatten (List.mem_cons_self (a := b) (l := bodies))
      omega
  cases last with
  | false =>
    have := hlast rfl
    omega
  | true =>
    obtain rfl := hrest rfl
    exact ⟨hc.start, rfl, by simpa using htotal⟩

theorem emitSegments_concat {segs : List (List UInt8)} (seg : List UInt8) {s s' : σ}
    (h : (emitSegments emit segs).exec s = (.ok (), s')) :
    (emitSegments emit (segs ++ [seg])).exec s = (emit (segmentDigest seg) seg).exec s' := by
  rw [emitSegments_append, exec_bind_ok h, emitSegments]
  rcases hrun : (emit (segmentDigest seg) seg).exec s' with ⟨r, _⟩
  cases r with
  | ok => exact exec_bind_ok hrun
  | error => exact exec_bind_error hrun

theorem emitSegments_append_error {segs rest : List (List UInt8)} {s s' : σ} {e : IoError}
    (h : (emitSegments emit segs).exec s = (.error e, s')) :
    (emitSegments emit (segs ++ rest)).exec s = (.error e, s') := by
  rw [emitSegments_append]
  exact exec_bind_error h

variable {sink₀ : σ} {h₀ : SegmentHeader} {terminal : Bool} {bodies : List (List UInt8)}
  {body rest : List UInt8} {w : FragmentWriter σ}

theorem headerAfter_concat : headerAfter h₀ terminal (bodies ++ [body])
    = nextHeader (headerAfter h₀ terminal bodies) terminal body := by
  rw [headerAfter_append]
  rfl

theorem fullSegments_concat : fullSegments h₀ terminal (bodies ++ [body])
    = fullSegments h₀ terminal bodies
      ++ [partBytes (headerAfter h₀ terminal bodies) terminal false body] := by
  rw [fullSegments_append]
  rfl

theorem Cuttable.validate (hc : Cuttable h₀ terminal (bodies.flatten ++ (body ++ rest)))
    (last : Bool)
    (hfull : ∀ b ∈ bodies, b.length = maxBodyBytes) (hbody : body ≠ [])
    (hmax : body.length ≤ maxBodyBytes) (hlast : last = false → body.length = maxBodyBytes)
    (hrest : last = true → rest = []) :
    (partHeader (EventStore.headerAfter h₀ terminal bodies) terminal last body).validate
      = .ok () := by
  obtain ⟨hE, -, -⟩ := hc.headerAfter hfull (by simp [hbody])
  exact partHeader_validate hE hbody hmax hlast fun hcount => hc.empty_part hfull hlast hrest hcount

theorem Cuttable.validate_last (hc : Cuttable h₀ terminal (bodies.flatten ++ body))
    (hfull : ∀ b ∈ bodies, b.length = maxBodyBytes) (hbody : body ≠ [])
    (hmax : body.length ≤ maxBodyBytes) :
    (partHeader (EventStore.headerAfter h₀ terminal bodies) terminal true body).validate
      = .ok () := by
  rw [← List.append_nil body] at hc
  exact hc.validate true hfull hbody hmax (by simp) (fun _ => rfl)

theorem Behind.emitPart (hw : Behind emit sink₀ h₀ terminal bodies body w)
    (hc : Cuttable h₀ terminal (bodies.flatten ++ (body ++ rest))) (hrest : rest ≠ [])
    (hfull : body.length = maxBodyBytes) :
    (∃ d w', (emitPart emit false).exec w = (.ok d, w')
        ∧ Behind emit sink₀ h₀ terminal (bodies ++ [body]) [] w')
      ∨ ∃ w', (emitPart emit false).exec w = (.error .emissionFailed, w')
        ∧ EmissionFailed emit sink₀ (segmentsFrom h₀ terminal
            (Cut.cut maxBodyBytes (bodies.flatten ++ (body ++ rest)))) w' := by
  have hbody : body ≠ [] := by
    rintro rfl
    exact maxBodyBytes_ne_zero hfull.symm
  obtain ⟨-, hindex, hlt⟩ := hc.headerAfter hw.full (by simp [hbody])
  obtain ⟨_, hhead, hbuffer⟩ := hw.buffer_eq
  have hvalid := hc.validate false hw.full hbody hw.length_le (fun _ => hfull) (by simp)
  rw [← hw.header_eq, ← hw.terminal_eq] at hvalid
  have hrun := exec_emitPart emit hbuffer hhead hw.length_le
    (fun _ => by rw [hw.header_eq, hindex]; exact hlt) hvalid
  have hfull' : ∀ b ∈ bodies ++ [body], b.length = maxBodyBytes := by
    intro b hb
    rcases List.mem_append.1 hb with hb | hb
    · exact hw.full b hb
    · obtain rfl : b = body := by simpa using hb
      exact hfull
  have hsegs : segmentsFrom h₀ terminal
      (Cut.cut maxBodyBytes (bodies.flatten ++ (body ++ rest)))
        = fullSegments h₀ terminal (bodies ++ [body])
          ++ segmentsFrom (EventStore.headerAfter h₀ terminal (bodies ++ [body])) terminal
            (Cut.cut maxBodyBytes rest) := by
    rw [← segmentsFrom_cut hfull' hrest]
    simp
  have hemit := emitSegments_concat (partBytes w.header w.terminal false body) hw.emitted
  rw [hw.header_eq, hw.terminal_eq, ← fullSegments_concat] at hemit
  rw [hw.header_eq, hw.terminal_eq] at hrun
  rcases hcall : (emit (segmentDigest (partBytes (EventStore.headerAfter h₀ terminal bodies)
      terminal false body)) (partBytes (EventStore.headerAfter h₀ terminal bodies) terminal false
      body)).exec w.sink with ⟨r, sink⟩
  rw [hcall] at hrun hemit
  cases r with
  | ok =>
    refine Or.inl ⟨_, _, hrun, ⟨hfull', Nat.zero_le _, headerAfter_concat.symm, ?_, hemit,
      hw.failure_eq, rfl⟩⟩
    exact ⟨_, SegmentHeader.bytes_length _, (List.append_nil _).symm⟩
  | error e =>
    refine Or.inr ⟨_, hrun, e, rfl, ?_⟩
    rw [hsegs]
    exact emitSegments_append_error hemit

theorem Behind.emitLast (hw : Behind emit sink₀ h₀ terminal bodies body w)
    (hc : Cuttable h₀ terminal (bodies.flatten ++ body)) (hbody : body ≠ []) :
    (∃ d w', (EventStore.emitPart emit true).exec w = (.ok d, w')
        ∧ d = tailDigest (segmentsFrom h₀ terminal (Cut.cut maxBodyBytes (bodies.flatten ++ body)))
        ∧ (emitSegments emit (segmentsFrom h₀ terminal
            (Cut.cut maxBodyBytes (bodies.flatten ++ body)))).exec sink₀ = (.ok (), w'.sink))
      ∨ ∃ w', (EventStore.emitPart emit true).exec w = (.error .emissionFailed, w')
        ∧ EmissionFailed emit sink₀ (segmentsFrom h₀ terminal
            (Cut.cut maxBodyBytes (bodies.flatten ++ body))) w' := by
  obtain ⟨_, hhead, hbuffer⟩ := hw.buffer_eq
  have hvalid := hc.validate_last hw.full hbody hw.length_le
  rw [← hw.header_eq, ← hw.terminal_eq] at hvalid
  have hrun := exec_emitPart emit hbuffer hhead hw.length_le (by simp) hvalid
  have hsegs : segmentsFrom h₀ terminal (Cut.cut maxBodyBytes (bodies.flatten ++ body))
      = fullSegments h₀ terminal bodies
        ++ [partBytes (EventStore.headerAfter h₀ terminal bodies) terminal true body] := by
    rw [segmentsFrom_cut hw.full hbody, Cut.cut_of_le hw.length_le]
    rfl
  have hemit := emitSegments_concat (partBytes w.header w.terminal true body) hw.emitted
  rw [hw.header_eq, hw.terminal_eq, ← hsegs] at hemit
  rw [hw.header_eq, hw.terminal_eq] at hrun
  rcases hcall : (emit (segmentDigest (partBytes (EventStore.headerAfter h₀ terminal bodies)
      terminal true body)) (partBytes (EventStore.headerAfter h₀ terminal bodies) terminal true
      body)).exec w.sink with ⟨r, sink⟩
  rw [hcall] at hrun hemit
  cases r with
  | ok =>
    refine Or.inl ⟨_, _, hrun, ?_, hemit⟩
    rw [hsegs, tailDigest, List.getLast?_concat]
    rfl
  | error e => exact Or.inr ⟨_, hrun, e, rfl, hemit⟩

theorem Behind.append (hw : Behind emit sink₀ h₀ terminal bodies body w) (bytes : List UInt8) :
    Behind emit sink₀ h₀ terminal bodies
      (body ++ bytes.take (min bytes.length (headerBytes + maxBodyBytes - w.buffer.length)))
      { w with buffer := w.buffer
          ++ bytes.take (min bytes.length (headerBytes + maxBodyBytes - w.buffer.length)) } := by
  obtain ⟨head, hhead, hbuffer⟩ := hw.buffer_eq
  have hlen := hw.length_le
  have hsize : w.buffer.length = headerBytes + body.length := by
    rw [hbuffer, List.length_append, hhead]
  refine ⟨hw.full, ?_, hw.header_eq, ⟨head, hhead, ?_⟩, hw.emitted, hw.failure_eq, hw.terminal_eq⟩
  · rw [List.length_append, List.length_take]
    omega
  · rw [hbuffer, List.append_assoc]

/-- What a `write` of `bytes` behind `p` has done: it has taken some of the bytes, or it has failed
with the callback. -/
def WriteStep (emit : Digest → List UInt8 → Eff σ IoError Unit) (sink₀ : σ) (h₀ : SegmentHeader)
    (terminal : Bool) (total p bytes : List UInt8) (r : Except FragmentError ℕ)
    (w : FragmentWriter σ) : Prop :=
  match r with
  | .ok count => count ≠ 0 ∧ count ≤ bytes.length
      ∧ Written emit sink₀ h₀ terminal (p ++ bytes.take count) w
  | .error _ =>
    EmissionFailed emit sink₀ (segmentsFrom h₀ terminal (Cut.cut maxBodyBytes total)) w

theorem write_spec (emit : Digest → List UInt8 → Eff σ IoError Unit) (sink₀ : σ) {total p bytes : List UInt8} (hc : Cuttable h₀ terminal total)
    (hbytes : bytes ≠ []) (hp : p ++ bytes <+: total) :
    Triple (Written emit sink₀ h₀ terminal p) (write emit bytes)
      (WriteStep emit sink₀ h₀ terminal total p bytes) := by
  rintro w ⟨bodies, body, hw, rfl, hne⟩
  obtain ⟨after, rfl⟩ := hp
  have hpos : bytes.length ≠ 0 := by simpa using hbytes
  obtain ⟨_, hhead, hbuffer⟩ := hw.buffer_eq
  have hsize : w.buffer.length = headerBytes + body.length := by
    rw [hbuffer, List.length_append, hhead]
  -- the bytes go into a buffer with room for them
  have hroom : ∀ {bodies body} {w : FragmentWriter σ},
      Behind emit sink₀ h₀ terminal bodies body w → w.buffer.length < headerBytes + maxBodyBytes →
      WriteStep emit sink₀ h₀ terminal ((bodies.flatten ++ body) ++ bytes ++ after)
        (bodies.flatten ++ body) bytes
        (.ok (min bytes.length (headerBytes + maxBodyBytes - w.buffer.length)))
        { w with buffer := w.buffer
            ++ bytes.take (min bytes.length (headerBytes + maxBodyBytes - w.buffer.length)) } := by
    intro bodies body w hw _
    refine ⟨by omega, Nat.min_le_left _ _, bodies, _, hw.append bytes,
      (List.append_assoc _ _ _).symm, fun _ hnil => ?_⟩
    have hlen := congrArg List.length hnil
    rw [List.length_append, List.length_take, List.length_nil] at hlen
    omega
  rw [write, if_neg hbytes, exec_bind_ok (exec_get w)]
  by_cases hfull : w.buffer.length = headerBytes + maxBodyBytes
  · rw [List.append_assoc, List.append_assoc] at hc
    have hstep := hw.emitPart hc (by simp [hbytes]) (by omega)
    rw [if_pos hfull]
    rcases hstep with ⟨_, w', hrun, hw'⟩ | ⟨w', hrun, hfailed⟩
    · obtain ⟨_, hhead', hbuffer'⟩ := hw'.buffer_eq
      have hsize' : w'.buffer.length < headerBytes + maxBodyBytes := by
        rw [hbuffer', List.append_nil, hhead']
        decide
      have htaken := hroom hw' hsize'
      rw [List.flatten_concat, List.append_nil] at htaken
      rw [exec_bind_ok hrun]
      exact htaken
    · rw [exec_bind_error hrun]
      rw [WriteStep, List.append_assoc, List.append_assoc]
      exact hfailed
  · have hlen := hw.length_le
    rw [if_neg hfull]
    exact hroom hw (by omega)

/-- **The writer takes every piece of the body**, or fails with the callback. -/
theorem writeAll_accepts (emit : Digest → List UInt8 → Eff σ IoError Unit) (sink₀ : σ) {total : List UInt8} (hc : Cuttable h₀ terminal total) :
    Accepts (writeAll emit) (Written emit sink₀ h₀ terminal)
      (fun _ => EmissionFailed emit sink₀ (segmentsFrom h₀ terminal (Cut.cut maxBodyBytes total)))
      total := by
  intro p bytes
  -- induction on the number of bytes left: every `write` takes at least one
  induction hn : bytes.length using Nat.strong_induction_on generalizing p bytes with
  | _ n ih =>
    subst hn
    intro hp w hw
    rw [writeAll]
    by_cases hnil : bytes = []
    · subst hnil
      rw [if_pos rfl, exec_pure]
      simpa [WriteOutcome] using hw
    · rw [if_neg hnil, exec_bind_ok (exec_attempt (write emit bytes) w)]
      have hstep := write_spec emit sink₀ hc hnil hp w hw
      cases hrun : ((write emit bytes).exec w).1 with
      | error =>
        rw [hrun] at hstep
        exact hstep
      | ok count =>
        rw [hrun] at hstep
        obtain ⟨hzero, _, hw'⟩ := hstep
        cases count with
        | zero => exact absurd rfl hzero
        | succ count =>
          have hlen : (bytes.drop (count + 1)).length < bytes.length := by
            rw [List.length_drop]
            omega
          have hsplit : p ++ bytes.take (count + 1) ++ bytes.drop (count + 1) = p ++ bytes := by
            rw [List.append_assoc, List.take_append_drop]
          have hrest := ih _ hlen (p ++ bytes.take (count + 1)) (bytes.drop (count + 1)) rfl
            (by rwa [hsplit]) _ hw'
          rwa [hsplit] at hrest

/-- The bindings the writer accepts. -/
structure BatchBinding.Valid (binding : BatchBinding) : Prop where
  origin : 1 ≤ binding.origin ∧ binding.origin ≤ 4
  actor : binding.origin ≠ 1 → binding.actor = Block.zero 32

variable {binding : BatchBinding} {events : List NetworkEvent}

theorem batchHeader_cuttable (hbinding : binding.Valid)
    (hlen : (batchBytes events).length < 2 ^ 64)
    (hdigest : ∀ seg ∈ (segments binding events terminal).dropLast,
      segmentDigest seg ≠ Block.zero 32) :
    Cuttable (batchHeader binding events) terminal (batchBytes events) := by
  have hev := Announceable.of_length hlen
  refine ⟨batchHeader_emittable hbinding.origin hbinding.actor hev.count, rfl, hlen, ?_, hdigest⟩
  intro hcount
  have hzero : events.length = 0 := by
    rw [← UInt64.toNat_ofNat_of_lt' hev.count]
    exact congrArg UInt64.toNat hcount
  obtain rfl : events = [] := by simpa using hzero
  rfl

/-- **The writer hands exactly the segments of the batch to the callback, in order, returns the
digest of the last of them, and fails only with the callback's own error.** -/
theorem writeEventSegments_eq (emit : Digest → List UInt8 → Eff σ IoError Unit)
    (hbinding : binding.Valid)
    (hlen : (batchBytes events).length < 2 ^ 64)
    (hdigest : ∀ seg ∈ (segments binding events terminal).dropLast,
      segmentDigest seg ≠ Block.zero 32)
    (s : σ) :
    (writeEventSegments emit binding events terminal).exec s
      = (do
          emitSegments emit (segments binding events terminal)
          pure (tailDigest (segments binding events terminal)) : Eff σ IoError Digest).exec s := by
  have hev := Announceable.of_length hlen
  have hc := batchHeader_cuttable hbinding hlen hdigest
  have hvalid : ¬(¬(1 ≤ binding.origin ∧ binding.origin ≤ 4)
      ∨ (binding.origin ≠ 1 ∧ binding.actor ≠ Block.zero 32) ∨ ¬events.length < 2 ^ 64) := by
    rintro (h | h | h)
    · exact h hbinding.origin
    · exact h.2 (hbinding.actor h.1)
    · exact h hev.count
  have hstart : Written emit s (batchHeader binding events) terminal []
      ⟨batchHeader binding events, terminal, List.replicate headerBytes 0, none, s⟩ := by
    refine ⟨[], [], ⟨by simp, Nat.zero_le _, rfl, ⟨_, by simp, (List.append_nil _).symm⟩, rfl, rfl,
      rfl⟩, rfl, by simp⟩
  have hbody := writeEventBatch_spec hev (writeAll_accepts emit s hc) _ hstart
  rw [writeEventSegments, exec_ofRun, if_neg hvalid]
  dsimp only
  rcases hrun : (writeEventBatch (writeAll emit) events).exec
    (⟨batchHeader binding events, terminal, List.replicate headerBytes 0, none, s⟩ :
      FragmentWriter σ) with ⟨r, w⟩
  rw [hrun] at hbody
  cases r with
  | error e =>
    obtain ⟨error, hfailure, hemit⟩ := hbody
    rw [segments, exec_bind_error hemit]
    change (Except.error (w.failure.getD e), w.sink) = _
    rw [show w.failure = some error from hfailure]
    rfl
  | ok =>
    obtain ⟨bodies, body, hw, htotal, hne⟩ := hbody
    have hbodyNe : body ≠ [] := by
      by_cases hnil : bodies = []
      · subst hnil
        have hpos : (batchBytes events).length ≠ 0 := by simp [batchBytes]
        rintro rfl
        exact hpos (by rw [← htotal]; rfl)
      · exact hne hnil
    rw [segments, ← htotal]
    rw [← htotal] at hc
    rcases hw.emitLast hc hbodyNe with ⟨_, w', hlast, rfl, hemit⟩ | ⟨w', hlast, error, hf, hemit⟩
    · rw [exec_bind_ok hemit, exec_pure]
      dsimp only
      rw [hlast]
    · rw [exec_bind_error hemit]
      dsimp only
      rw [hlast]
      dsimp only
      rw [hf]
      rfl

end WriterSpec

end EventStore
