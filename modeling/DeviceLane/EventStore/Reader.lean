/-
**Reading a batch back from its hash-linked segments.**

The reader starts from the digest of the last segment, follows the predecessors down to the part
with index zero, checks every part against the one it started from, and reads the events from the
bodies of the parts, joined in the order they were written.

Main definitions:

* `EventStore.BodyReader` — the joined bodies, as a byte source.

Main result:

* `EventStore.readEventSegmentBatch_writeEventSegments` — **what the writer stored, the reader reads
  back**: the same events, binding and terminal flag, and the writer fails only with its callback.
-/

import DeviceLane.EventStore.Fragments
import Mathlib.Data.List.Induction
import Mathlib.Data.List.Nodup

namespace EventStore

open Endian Effect

variable {body : List UInt8} {h : SegmentHeader} {terminal : Bool}

structure DecodedBatch where
  binding : BatchBinding
  events : List NetworkEvent
  terminal : Bool
  physicalBytes : ℕ
  parts : ℕ
  deriving DecidableEq

def invalidBatch : IoError := ⟨.invalidData, "invalid event segment batch"⟩

def checkedAdd (a b : ℕ) : Except IoError ℕ :=
  if a + b < 2 ^ 64 then .ok (a + b) else .error invalidBatch

/-! ### The joined bodies -/

structure Part where
  bytes : List UInt8
  long : headerBytes ≤ bytes.length

/-- The bodies of the parts from `index` on; of the first of them, what follows `offset`. -/
structure BodyReader where
  parts : List Part
  index : ℕ
  offset : ℕ
  offset_le : ∀ part, parts[index]? = some part → offset ≤ part.bytes.length

namespace BodyReader

/-- The reader at the first body byte of the part with the given index. -/
def start (parts : List Part) (index : ℕ) : BodyReader :=
  ⟨parts, index, headerBytes, fun part _ => part.long⟩

def remaining (r : BodyReader) : List UInt8 :=
  ((r.parts[r.index]?.map fun part => part.bytes.drop r.offset).getD [])
    ++ (r.parts.drop (r.index + 1)).flatMap fun part => part.bytes.drop headerBytes

def readLoop (n : ℕ) (r : BodyReader) : List UInt8 × BodyReader :=
  match h : r.parts[r.index]? with
  | none => ([], r)
  | some part =>
    if r.offset = part.bytes.length then
      readLoop n (start r.parts (r.index + 1))
    else
      let count := min n (part.bytes.length - r.offset)
      ((part.bytes.drop r.offset).take count,
        { r with
          offset := r.offset + count
          offset_le := by
            intro part' h'
            obtain rfl : part = part' := Option.some.inj (h.symm.trans h')
            have := r.offset_le part h
            omega })
termination_by r.parts.length - r.index
decreasing_by
  have hlt := (List.getElem?_eq_some_iff.1 h).1
  simp only [start]
  omega

def read (n : ℕ) (r : BodyReader) : List UInt8 × BodyReader :=
  if n = 0 then ([], r) else readLoop n r

theorem remaining_start (parts : List Part) (index : ℕ) : (start parts index).remaining
    = (parts.drop index).flatMap fun part => part.bytes.drop headerBytes := by
  change ((parts[index]?.map fun part => part.bytes.drop headerBytes).getD [])
    ++ (parts.drop (index + 1)).flatMap _ = _
  cases h : parts[index]? with
  | none =>
    have hle : parts.length ≤ index := List.getElem?_eq_none_iff.1 h
    rw [List.drop_eq_nil_of_le hle, List.drop_eq_nil_of_le (by omega)]
    rfl
  | some =>
    obtain ⟨hlt, rfl⟩ := List.getElem?_eq_some_iff.1 h
    rw [List.drop_eq_getElem_cons hlt]
    rfl

theorem readLoop_spec {n : ℕ} (hn : n ≠ 0) (r : BodyReader) :
    (readLoop n r).1 ++ (readLoop n r).2.remaining = r.remaining
      ∧ (readLoop n r).1.length ≤ n ∧ (r.remaining ≠ [] → (readLoop n r).1 ≠ []) := by
  induction hk : r.parts.length - r.index using Nat.strong_induction_on generalizing r with
  | _ k ih =>
    unfold readLoop
    split
    · rename_i h
      have hle : r.parts.length ≤ r.index := List.getElem?_eq_none_iff.1 h
      have hnil : r.remaining = [] := by
        unfold remaining
        rw [h, List.drop_eq_nil_of_le (by omega)]
        rfl
      exact ⟨rfl, Nat.zero_le _, fun hne => absurd hnil hne⟩
    · rename_i part h
      have hlt : r.index < r.parts.length := (List.getElem?_eq_some_iff.1 h).1
      have hrem : r.remaining = part.bytes.drop r.offset
          ++ (r.parts.drop (r.index + 1)).flatMap fun part => part.bytes.drop headerBytes := by
        unfold remaining
        rw [h]
        rfl
      by_cases hend : r.offset = part.bytes.length
      · rw [if_pos hend]
        have hnext : (start r.parts (r.index + 1)).remaining = r.remaining := by
          rw [remaining_start, hrem, hend, List.drop_length, List.nil_append]
        have hspec := ih (r.parts.length - (r.index + 1)) (by omega)
          (start r.parts (r.index + 1)) rfl
        rwa [hnext] at hspec
      · have hle := r.offset_le part h
        rw [if_neg hend]
        refine ⟨?_, ?_, fun _ hnil => ?_⟩
        · rw [hrem]
          unfold remaining
          simp only [h, Option.map_some, Option.getD_some]
          rw [← List.append_assoc, ← List.drop_drop, List.take_append_drop]
        · rw [List.length_take]
          exact Nat.le_trans (Nat.min_le_left _ _) (Nat.min_le_left _ _)
        · have hlen := congrArg List.length hnil
          rw [List.length_take, List.length_drop, List.length_nil] at hlen
          omega

instance : LawfulByteSource BodyReader where
  read := read
  remaining := remaining
  read_append n r := by
    unfold read
    split
    · rfl
    · exact (readLoop_spec (by assumption) r).1
  read_length_le n r := by
    unfold read
    split
    · exact Nat.zero_le _
    · exact (readLoop_spec (by assumption) r).2.1
  read_ne_nil n r hn := by
    unfold read
    rw [if_neg hn]
    exact (readLoop_spec hn r).2.2

end BodyReader

/-! ### The reader -/

theorem decodeSegment_long {bytes : List UInt8} {header : SegmentHeader}
    (h : decodeSegment bytes = .ok (header, body)) : headerBytes ≤ bytes.length := by
  unfold decodeSegment at h
  split at h
  · simp at h
  · rename_i hext
    exact (not_not.1 hext).1

def decodePart (bytes : List UInt8) : Except IoError (SegmentHeader × List UInt8 × Part) :=
  match h : decodeSegment bytes with
  | .error e => .error e
  | .ok (header, body) => .ok (header, body, ⟨bytes, decodeSegment_long h⟩)

structure Walk where
  current : Digest
  seen : List Digest
  retained : List Part
  expected : Option SegmentHeader
  index : UInt64
  bodyBytes : ℕ
  physicalBytes : ℕ
  parts : ℕ

def expect (header : SegmentHeader) (walk : Walk) : Except IoError Walk :=
  match walk.expected with
  | none =>
    if header.flags &&& 2 = 0 then
      .error invalidBatch
    else
      .ok { walk with index := header.partIndex, expected := some header }
  | some expected =>
    if header.origin ≠ expected.origin ∨ header.actor ≠ expected.actor
        ∨ header.eventCount ≠ expected.eventCount
        ∨ header.firstSequence ≠ expected.firstSequence
        ∨ header.lastSequence ≠ expected.lastSequence
        ∨ header.partIndex ≠ walk.index ∨ header.flags &&& 6 ≠ 0 then
      .error invalidBatch
    else
      .ok walk

section Reader

variable {τ : Type} [Sha256] (storeId : Block 16) (job : Block 32)
  (load : Digest → Eff τ IoError (List UInt8))

/-- The loop body up to the test of the index: loads and checks the current part. -/
def visit (walk : Walk) : Eff τ IoError (SegmentHeader × Walk) := do
  if walk.current ∈ walk.seen then
    throw invalidBatch
  let bytes ← load walk.current
  let (header, body, part) ← liftM (decodePart bytes)
  if segmentDigest bytes ≠ walk.current ∨ header.storeId ≠ storeId ∨ header.job ≠ job then
    throw invalidBatch
  let physicalBytes ← liftM (checkedAdd walk.physicalBytes bytes.length)
  let bodyBytes ← liftM (checkedAdd walk.bodyBytes body.length)
  let parts ← liftM (checkedAdd walk.parts 1)
  let walk ← liftM (expect header
    { walk with seen := walk.current :: walk.seen, physicalBytes, bodyBytes, parts })
  pure (header, { walk with retained := walk.retained ++ [part] })

/-- The loop behind its first pass, on the way down from index `n` to zero. -/
def descend : ℕ → SegmentHeader → Walk → Eff τ IoError (SegmentHeader × Walk)
  | 0, header, walk => pure (header, walk)
  | n + 1, header, walk => do
      let (header, walk) ← visit storeId job load
        { walk with index := walk.index - 1, current := header.predecessor }
      descend n header walk

/-- What follows the loop: the events are read from the joined bodies and compared with the
summary of the batch. -/
def assemble (preceding : Digest) (walk : Walk) : Except IoError DecodedBatch :=
  match walk.expected with
  | none => .error invalidBatch
  | some expected => do
      let events ← (readEventBatch (BodyReader.start walk.retained.reverse 0) walk.bodyBytes).1
      if ¬events.length < 2 ^ 64 ∨ UInt64.ofNat events.length ≠ expected.eventCount
          ∨ (events.head?.map NetworkEvent.sequence).getD 0 ≠ expected.firstSequence
          ∨ (events.getLast?.map NetworkEvent.sequence).getD 0 ≠ expected.lastSequence then
        throw invalidBatch
      pure
        { binding :=
            { storeId, job, predecessor := preceding, origin := expected.origin,
              actor := expected.actor }
          events
          terminal := expected.flags &&& 4 != 0
          physicalBytes := walk.physicalBytes
          parts := walk.parts }

/-- Reconstructs one complete batch from its committed physical tail. -/
def readEventSegmentBatch (tail : Digest) : Eff τ IoError DecodedBatch := do
  let (header, walk) ← visit storeId job load
    { current := tail, seen := [], retained := [], expected := none, index := 0, bodyBytes := 0,
      physicalBytes := 0, parts := 0 }
  let (header, walk) ← descend storeId job load walk.index.toNat header walk
  liftM (assemble storeId job header.predecessor walk)

end Reader

/-! ### Callbacks and loaders -/

section Storage

variable {σ τ : Type} [Sha256]

/-- The callback stores every part it accepts under its digest, and nothing else changes. -/
def Stores (emit : Digest → List UInt8 → Eff σ IoError Unit)
    (stored : σ → Digest → Option (List UInt8)) : Prop :=
  ∀ digest bytes s s', (emit digest bytes).exec s = (.ok (), s') →
    stored s' digest = some bytes ∧ ∀ d, d ≠ digest → stored s' d = stored s d

/-- The loader delivers every stored part, at least the first time it is asked for it. -/
def Serves (load : Digest → Eff τ IoError (List UInt8)) (stored : Digest → Option (List UInt8))
    (t : τ) : Prop :=
  ∃ Ready : List Digest → τ → Prop, Ready [] t ∧
    ∀ loaded t d bytes, Ready loaded t → d ∉ loaded → stored d = some bytes →
      ∃ t', (load d).exec t = (.ok bytes, t') ∧ Ready (d :: loaded) t'

theorem stored_emitSegments {emit : Digest → List UInt8 → Eff σ IoError Unit}
    {stored : σ → Digest → Option (List UInt8)} (hstores : Stores emit stored)
    {segs : List (List UInt8)}
    (hinj : ∀ a ∈ segs, ∀ b ∈ segs, segmentDigest a = segmentDigest b → a = b) {s s' : σ}
    (h : (emitSegments emit segs).exec s = (.ok (), s')) :
    ∀ seg ∈ segs, stored s' (segmentDigest seg) = some seg := by
  induction segs using List.reverseRecOn generalizing s' with
  | nil => simp
  | append_singleton segs seg ih =>
    have hsegs : ∀ a ∈ segs, a ∈ segs ++ [seg] := fun a ha => List.mem_append_left _ ha
    have hseg : seg ∈ segs ++ [seg] := by simp
    rcases hpre : (emitSegments emit segs).exec s with ⟨r, _⟩
    cases r with
    | error =>
      rw [emitSegments_append_error hpre] at h
      cases h
    | ok =>
      rw [emitSegments_concat seg hpre] at h
      obtain ⟨hnew, hold⟩ := hstores _ _ _ _ h
      have hprev := ih (fun a ha b hb => hinj a (hsegs a ha) b (hsegs b hb)) hpre
      intro a ha
      by_cases hd : segmentDigest a = segmentDigest seg
      · rw [hinj a ha seg hseg hd, hnew]
      · rcases List.mem_append.1 ha with ha | ha
        · rw [hold _ hd, hprev a ha]
        · obtain rfl : a = seg := by simpa using ha
          exact absurd rfl hd

theorem emitSegments_error {emit : Digest → List UInt8 → Eff σ IoError Unit}
    {segs : List (List UInt8)} {s s' : σ} {e : IoError}
    (h : (emitSegments emit segs).exec s = (.error e, s')) :
    ∃ seg ∈ segs, ∃ s₁, (emit (segmentDigest seg) seg).exec s₁ = (.error e, s') := by
  induction segs generalizing s with
  | nil => cases h
  | cons seg segs ih =>
    rw [emitSegments] at h
    rcases hrun : (emit (segmentDigest seg) seg).exec s with ⟨r, s₁⟩
    cases r with
    | ok =>
      rw [exec_bind_ok hrun] at h
      obtain ⟨seg', hmem, hfail⟩ := ih h
      exact ⟨seg', List.mem_cons_of_mem _ hmem, hfail⟩
    | error =>
      rw [exec_bind_error hrun] at h
      cases h
      exact ⟨seg, List.mem_cons_self, s, hrun⟩

end Storage

/-! ### The walk over the segments of a batch -/

theorem partBytes_length (h : SegmentHeader) (terminal last : Bool) (body : List UInt8) :
    (partBytes h terminal last body).length = headerBytes + body.length := by
  rw [partBytes, List.length_append, SegmentHeader.bytes_length]

def partOf (h : SegmentHeader) (terminal last : Bool) (body : List UInt8) : Part :=
  ⟨partBytes h terminal last body, by
    rw [partBytes_length]
    omega⟩

theorem decodeSegment_partBytes {last : Bool}
    (hvalid : (partHeader h terminal last body).validate = .ok ()) (hmax : body.length ≤ maxBodyBytes) :
    decodeSegment (partBytes h terminal last body)
      = .ok (partHeader h terminal last body, body) :=
  decodeSegment_encode (SegmentHeader.encode_eq_ok hvalid) (partHeader_bodyLength hmax).symm hmax

theorem decodePart_partBytes {last : Bool}
    (hvalid : (partHeader h terminal last body).validate = .ok ()) (hmax : body.length ≤ maxBodyBytes) :
    decodePart (partBytes h terminal last body)
      = .ok (partHeader h terminal last body, body, partOf h terminal last body) := by
  have hdec := decodeSegment_partBytes hvalid hmax
  unfold decodePart
  split
  · rename_i e he
    rw [hdec] at he
    cases he
  · rename_i header body' he
    rw [hdec] at he
    cases he
    rfl

theorem checkedAdd_eq {a b : ℕ} (h : a + b < 2 ^ 64) : checkedAdd a b = .ok (a + b) := if_pos h

def Walk.count (walk : Walk) (part : Part) (body : List UInt8) : Walk :=
  { walk with
    seen := walk.current :: walk.seen
    bodyBytes := walk.bodyBytes + body.length
    physicalBytes := walk.physicalBytes + part.bytes.length
    parts := walk.parts + 1 }

variable {walk : Walk}

theorem expect_tail (hexp : walk.expected = none) : expect (partHeader h terminal true body) walk
      = .ok { walk with
          index := h.partIndex
          expected := some (partHeader h terminal true body) } := by
  have hlast : ¬(partHeader h terminal true body).flags &&& 2 = 0 := by
    intro hzero
    have hflag := partFlags_isLast (h.partIndex == 0) true terminal
    rw [show partFlags (h.partIndex == 0) true terminal &&& 2 = 0 from hzero] at hflag
    cases hflag
  rw [expect, hexp]
  dsimp only
  rw [if_neg hlast]
  rfl

theorem partFlags_inner : ∀ first terminal : Bool, partFlags first false terminal &&& 6 = 0 := by
  decide

theorem expect_inner {expected : SegmentHeader} (hexp : walk.expected = some expected)
    (horigin : h.origin = expected.origin) (hactor : h.actor = expected.actor)
    (hcount : h.eventCount = expected.eventCount) (hfirst : h.firstSequence = expected.firstSequence)
    (hlast : h.lastSequence = expected.lastSequence) (hindex : h.partIndex = walk.index) :
    expect (partHeader h terminal false body) walk = .ok walk := by
  rw [expect, hexp]
  refine if_neg ?_
  rintro (hne | hne | hne | hne | hne | hne | hne)
  · exact hne horigin
  · exact hne hactor
  · exact hne hcount
  · exact hne hfirst
  · exact hne hlast
  · exact hne hindex
  · exact hne (partFlags_inner _ _)

theorem index_pred {index : UInt64} {n : ℕ} (h : index.toNat = n + 1) :
    (index - 1).toNat = n := by
  rw [UInt64.toNat_sub_of_le _ _ (by
    rw [UInt64.le_iff_toNat_le, h]
    exact Nat.le_add_left _ _), h]
  rfl

def physicalSize (segs : List (List UInt8)) : ℕ := (segs.map List.length).sum

theorem physicalSize_append (a b : List (List UInt8)) :
    physicalSize (a ++ b) = physicalSize a + physicalSize b := by
  simp [physicalSize]

section Walk

variable {τ : Type} [Sha256] {storeId : Block 16} {job : Block 32}
  {load : Digest → Eff τ IoError (List UInt8)}

/-- The part the walk stands at: it is loaded, valid, new, and the counters have room for it. -/
structure Walk.Current (storeId : Block 16) (job : Block 32)
    (load : Digest → Eff τ IoError (List UInt8)) (walk : Walk) (h : SegmentHeader)
    (terminal last : Bool) (body : List UInt8) (t t' : τ) : Prop where
  fresh : walk.current ∉ walk.seen
  loaded : (load walk.current).exec t = (.ok (partBytes h terminal last body), t')
  digest : segmentDigest (partBytes h terminal last body) = walk.current
  valid : (partHeader h terminal last body).validate = .ok ()
  length_le : body.length ≤ maxBodyBytes
  store_eq : h.storeId = storeId
  job_eq : h.job = job
  physical : walk.physicalBytes + (partBytes h terminal last body).length < 2 ^ 64
  body_le : walk.bodyBytes ≤ walk.physicalBytes
  parts_le : walk.parts ≤ walk.physicalBytes

theorem exec_visit {walk walk' : Walk} {h : SegmentHeader} {terminal last : Bool}
    {body : List UInt8} {t t' : τ} (hcur : walk.Current storeId job load h terminal last body t t')
    (hexpect : expect (partHeader h terminal last body)
      (walk.count (partOf h terminal last body) body) = .ok walk') :
    (visit storeId job load walk).exec t
      = (.ok (partHeader h terminal last body,
          { walk' with retained := walk'.retained ++ [partOf h terminal last body] }), t') := by
  have hlen := partBytes_length h terminal last body
  have hphysical := hcur.physical
  have hbody := hcur.body_le
  have hparts := hcur.parts_le
  have hheader : headerBytes = 158 := rfl
  have hbound : ¬(segmentDigest (partBytes h terminal last body) ≠ walk.current
      ∨ (partHeader h terminal last body).storeId ≠ storeId
      ∨ (partHeader h terminal last body).job ≠ job) := by
    rintro (hne | hne | hne)
    · exact hne hcur.digest
    · exact hne hcur.store_eq
    · exact hne hcur.job_eq
  rw [visit, if_neg hcur.fresh, exec_bind_ok hcur.loaded,
    decodePart_partBytes hcur.valid hcur.length_le, exec_bind_ok (exec_liftExcept_ok _ _)]
  dsimp only
  rw [if_neg hbound, checkedAdd_eq hphysical, exec_bind_ok (exec_liftExcept_ok _ _),
    checkedAdd_eq (show walk.bodyBytes + body.length < 2 ^ 64 by omega),
    exec_bind_ok (exec_liftExcept_ok _ _),
    checkedAdd_eq (show walk.parts + 1 < 2 ^ 64 by omega), exec_bind_ok (exec_liftExcept_ok _ _)]
  rw [show ({ walk with
    seen := walk.current :: walk.seen
    bodyBytes := walk.bodyBytes + body.length
    physicalBytes := walk.physicalBytes + (partBytes h terminal last body).length
    parts := walk.parts + 1 } : Walk) = walk.count (partOf h terminal last body) body from rfl,
    hexpect]
  rfl

structure Descent (load : Digest → Eff τ IoError (List UInt8))
    (Ready : List Digest → τ → Prop) (h₀ : SegmentHeader) (terminal : Bool)
    (bodies : List (List UInt8)) (header : SegmentHeader) (walk : Walk) (t : τ) : Prop where
  predecessor : header.predecessor = (headerAfter h₀ terminal bodies).predecessor
  index : walk.index.toNat = bodies.length
  expected : ∃ e, walk.expected = some e ∧ h₀.origin = e.origin ∧ h₀.actor = e.actor
    ∧ h₀.eventCount = e.eventCount ∧ h₀.firstSequence = e.firstSequence
    ∧ h₀.lastSequence = e.lastSequence
  fresh : ((fullSegments h₀ terminal bodies).map segmentDigest ++ walk.seen).Nodup
  ready : Ready walk.seen t
  physical : walk.physicalBytes + physicalSize (fullSegments h₀ terminal bodies) < 2 ^ 64
  body_le : walk.bodyBytes ≤ walk.physicalBytes
  parts_le : walk.parts ≤ walk.physicalBytes

structure Landed (h₀ : SegmentHeader) (terminal : Bool) (bodies : List (List UInt8))
    (walk : Walk) (header' : SegmentHeader) (walk' : Walk) : Prop where
  predecessor : header'.predecessor = h₀.predecessor
  retained : walk'.retained.map Part.bytes
    = walk.retained.map Part.bytes ++ (fullSegments h₀ terminal bodies).reverse
  expected : walk'.expected = walk.expected
  bodyBytes : walk'.bodyBytes = walk.bodyBytes + bodies.flatten.length
  physicalBytes : walk'.physicalBytes
    = walk.physicalBytes + physicalSize (fullSegments h₀ terminal bodies)
  parts : walk'.parts = walk.parts + bodies.length

/-- **The walk goes down through the full parts of the batch to its first header.** -/
theorem exec_descend (storeId : Block 16) (job : Block 32) {stored : Digest → Option (List UInt8)} {Ready : List Digest → τ → Prop}
    (hserve : ∀ loaded t d bytes, Ready loaded t → d ∉ loaded → stored d = some bytes →
      ∃ t', (load d).exec t = (.ok bytes, t') ∧ Ready (d :: loaded) t')
    {h₀ : SegmentHeader} {terminal : Bool} {bodies : List (List UInt8)} {rest : List UInt8}
    (hc : Cuttable h₀ terminal (bodies.flatten ++ rest)) (hrest : rest ≠ [])
    (hfull : ∀ b ∈ bodies, b.length = maxBodyBytes)
    (hstored : ∀ seg ∈ fullSegments h₀ terminal bodies, stored (segmentDigest seg) = some seg)
    (hstore : h₀.storeId = storeId) (hjob : h₀.job = job)
    {header : SegmentHeader} {walk : Walk} {t : τ}
    (hd : Descent load Ready h₀ terminal bodies header walk t) :
    ∃ header' walk' t', (descend storeId job load bodies.length header walk).exec t
        = (.ok (header', walk'), t') ∧ Landed h₀ terminal bodies walk header' walk' := by
  -- induction on the full parts, the one the walk stands at being the last of them
  induction bodies using List.reverseRecOn generalizing header walk t rest with
  | nil =>
    exact ⟨header, walk, t, rfl, hd.predecessor, by simp [fullSegments], rfl, by simp,
      by simp [fullSegments, physicalSize], by simp⟩
  | append_singleton bodies body ih =>
    have hbody : body.length = maxBodyBytes := hfull body (by simp)
    have hne : body ≠ [] := by
      rintro rfl
      exact maxBodyBytes_ne_zero hbody.symm
    have hfull' : ∀ b ∈ bodies, b.length = maxBodyBytes :=
      (List.forall_mem_append.1 hfull).1
    have hc' : Cuttable h₀ terminal (bodies.flatten ++ (body ++ rest)) := by
      simpa using hc
    have hvalid := hc'.validate false hfull' hne (Nat.le_of_eq hbody) (fun _ => hbody)
      (by simp)
    obtain ⟨-, hindex, _⟩ := hc'.headerAfter hfull' (by simp [hne])
    obtain ⟨hstoreId, hjobEq, horigin, hactor, hcount, hfirst, hlast⟩ :=
      headerAfter_const h₀ terminal bodies
    obtain ⟨e, hexp, he₁, he₂, he₃, he₄, he₅⟩ := hd.expected
    set h := headerAfter h₀ terminal bodies with hh
    set seg := partBytes h terminal false body with hseg
    have hsegs : fullSegments h₀ terminal (bodies ++ [body])
        = fullSegments h₀ terminal bodies ++ [seg] := fullSegments_concat
    have hpred : header.predecessor = segmentDigest seg := by
      rw [hd.predecessor, headerAfter_concat]
      rfl
    have hwalkIndex : walk.index.toNat = bodies.length + 1 := by
      rw [hd.index, List.length_append]
      rfl
    have hnextIndex : (walk.index - 1).toNat = bodies.length := index_pred hwalkIndex
    have hfresh := hd.fresh
    rw [hsegs, List.map_append, List.append_assoc] at hfresh
    have hphysical := hd.physical
    rw [hsegs, physicalSize_append] at hphysical
    have hseglen : physicalSize [seg] = seg.length := by simp [physicalSize]
    have hlen : seg.length = headerBytes + body.length := partBytes_length h terminal false body
    have hbodyLe := hd.body_le
    have hpartsLe := hd.parts_le
    have hnew : segmentDigest seg ∉ walk.seen := by
      have hcons := (List.nodup_append.1 hfresh).2.1
      exact (List.nodup_cons.1 hcons).1
    obtain ⟨t₁, hload, hready⟩ := hserve walk.seen t (segmentDigest seg) seg hd.ready hnew
      (hstored seg (by simp [hsegs]))
    set walk₁ : Walk := { walk with index := walk.index - 1, current := header.predecessor }
      with hwalk₁
    have hcur : walk₁.Current storeId job load h terminal false body t t₁ :=
      ⟨by rw [hwalk₁, hpred]; exact hnew, by rw [hwalk₁, hpred]; exact hload, hpred.symm, hvalid,
        Nat.le_of_eq hbody, by rw [hstoreId, hstore], by rw [hjobEq, hjob],
        by rw [← hseg]; show walk.physicalBytes + seg.length < 2 ^ 64; omega, hbodyLe, hpartsLe⟩
    have hvisit := exec_visit hcur (expect_inner
      (show (walk₁.count (partOf h terminal false body) body).expected = some e from hexp)
      (horigin.trans he₁) (hactor.trans he₂) (hcount.trans he₃) (hfirst.trans he₄)
      (hlast.trans he₅) (UInt64.toNat_inj.1 (hindex.trans hnextIndex.symm)))
    have hdescent : Descent load Ready h₀ terminal bodies (partHeader h terminal false body)
        { walk₁.count (partOf h terminal false body) body with
          retained := walk.retained ++ [partOf h terminal false body] } t₁ := by
      refine ⟨rfl, hnextIndex, ⟨e, hexp, he₁, he₂, he₃, he₄, he₅⟩, ?_, ?_, ?_, ?_, ?_⟩
      · show (List.map segmentDigest (fullSegments h₀ terminal bodies)
          ++ header.predecessor :: walk.seen).Nodup
        rw [hpred]
        exact hfresh
      · show Ready (header.predecessor :: walk.seen) t₁
        rw [hpred]
        exact hready
      · show walk.physicalBytes + seg.length + _ < 2 ^ 64
        omega
      · show walk.bodyBytes + body.length ≤ walk.physicalBytes + seg.length
        omega
      · show walk.parts + 1 ≤ walk.physicalBytes + seg.length
        have hheader : headerBytes = 158 := rfl
        omega
    obtain ⟨header', walk', t', hrun, hland⟩ := ih hc' (by simp [hne]) hfull'
      (fun s hs => hstored s (by rw [hsegs]; exact List.mem_append_left _ hs)) hdescent
    refine ⟨header', walk', t', ?_, hland.predecessor, ?_, hland.expected, ?_, ?_, ?_⟩
    · rw [List.length_append, List.length_singleton, descend, exec_bind_ok hvisit]
      exact hrun
    · rw [hland.retained, hsegs]
      simp [partOf, hseg]
    · rw [hland.bodyBytes]
      simp [Walk.count, hwalk₁]
      omega
    · rw [hland.physicalBytes, hsegs, physicalSize_append, hseglen]
      show walk.physicalBytes + seg.length + _ = _
      omega
    · rw [hland.parts]
      simp [Walk.count, hwalk₁]
      omega

end Walk

/-! ### The segments of a batch are different -/

section Distinct

variable [Sha256]

def partIndexOf (bytes : List UInt8) : Option ℕ :=
  match decodeSegment bytes with
  | .ok (header, _) => some header.partIndex.toNat
  | .error _ => none

variable {h₀ : SegmentHeader} {terminal : Bool} {bodies : List (List UInt8)}
  {body rest : List UInt8}

theorem partIndexOf_partBytes (hc : Cuttable h₀ terminal (bodies.flatten ++ (body ++ rest)))
    (last : Bool)
    (hfull : ∀ b ∈ bodies, b.length = maxBodyBytes) (hbody : body ≠ [])
    (hmax : body.length ≤ maxBodyBytes) (hlast : last = false → body.length = maxBodyBytes)
    (hrest : last = true → rest = []) :
    partIndexOf (partBytes (headerAfter h₀ terminal bodies) terminal last body)
      = some bodies.length := by
  obtain ⟨-, hindex, -⟩ := hc.headerAfter hfull (by simp [hbody])
  rw [partIndexOf, decodeSegment_partBytes (hc.validate last hfull hbody hmax hlast hrest) hmax]
  exact congrArg some hindex

theorem partIndexOf_fullSegments (hc : Cuttable h₀ terminal (bodies.flatten ++ rest))
    (hfull : ∀ b ∈ bodies, b.length = maxBodyBytes) :
    (fullSegments h₀ terminal bodies).map partIndexOf = (List.range bodies.length).map some := by
  induction bodies using List.reverseRecOn generalizing rest with
  | nil => rfl
  | append_singleton bodies body ih =>
    have hbody : body.length = maxBodyBytes := hfull body (by simp)
    have hne : body ≠ [] := by
      rintro rfl
      exact maxBodyBytes_ne_zero hbody.symm
    have hc' : Cuttable h₀ terminal (bodies.flatten ++ (body ++ rest)) := by
      simpa using hc
    have hfull' : ∀ b ∈ bodies, b.length = maxBodyBytes :=
      (List.forall_mem_append.1 hfull).1
    have hpart := partIndexOf_partBytes hc' false hfull' hne (Nat.le_of_eq hbody)
      (fun _ => hbody) (by simp)
    rw [fullSegments_concat, List.map_append, ih hc' hfull', List.length_append,
      List.length_singleton, List.range_succ, List.map_append]
    simp [hpart]

theorem nodup_segments (hc : Cuttable h₀ terminal (bodies.flatten ++ body))
    (hfull : ∀ b ∈ bodies, b.length = maxBodyBytes) (hbody : body ≠ [])
    (hmax : body.length ≤ maxBodyBytes) : (fullSegments h₀ terminal bodies
      ++ [partBytes (headerAfter h₀ terminal bodies) terminal true body]).Nodup := by
  have hc' : Cuttable h₀ terminal (bodies.flatten ++ (body ++ [])) := by rwa [List.append_nil]
  have hlast := partIndexOf_partBytes hc' true hfull hbody hmax (by simp) (fun _ => rfl)
  refine List.Nodup.of_map partIndexOf ?_
  rw [List.map_append, partIndexOf_fullSegments hc hfull, List.map_singleton, hlast]
  rw [← List.map_singleton, ← List.map_append, ← List.range_succ]
  exact List.nodup_range.map (Option.some_injective _)

end Distinct

/-! ### The round trip -/

/-- The bytes some events occupy in memory: 56 for the fixed part of an event, and its two texts. -/
def footprint (events : List NetworkEvent) : ℕ :=
  (events.map fun e => 56 + e.kind.utf8ByteSize + e.payload.utf8ByteSize).sum

/-- The events of a batch. They are values in the memory of a process, whose addresses take less
than 64 bits. -/
structure EventBatch where
  events : List NetworkEvent
  resident : footprint events < 2 ^ 63

theorem batchBytes_length_le (events : List NetworkEvent) :
    (batchBytes events).length ≤ footprint events + 8 := by
  have hsum : (events.flatMap eventBytes).length ≤ footprint events := by
    induction events with
    | nil => simp [footprint]
    | cons e events ih =>
      simp only [footprint, List.flatMap_cons, List.length_append, eventBytes_length,
        List.map_cons, List.sum_cons] at ih ⊢
      omega
  simp only [batchBytes, List.length_append, u64Le_length]
  omega

theorem assemble_eq (binding : BatchBinding) (preceding : Digest) {events : List NetworkEvent}
    (hev : Announceable events) {expected : SegmentHeader} (hexp : walk.expected = some expected)
    (hbodies : (walk.retained.reverse.map Part.bytes).flatMap (List.drop headerBytes)
      = batchBytes events) (hbytes : walk.bodyBytes = (batchBytes events).length)
    (hcount : expected.eventCount = UInt64.ofNat events.length)
    (hfirst : expected.firstSequence = (events.head?.map NetworkEvent.sequence).getD 0)
    (hlast : expected.lastSequence = (events.getLast?.map NetworkEvent.sequence).getD 0) :
    assemble binding.storeId binding.job preceding walk = .ok
      { binding :=
          { storeId := binding.storeId, job := binding.job, predecessor := preceding,
            origin := expected.origin, actor := expected.actor }
        events
        terminal := expected.isTerminal
        physicalBytes := walk.physicalBytes
        parts := walk.parts } := by
  have hremaining : LawfulByteSource.remaining (BodyReader.start walk.retained.reverse 0)
      = batchBytes events ++ [] := by
    refine (BodyReader.remaining_start _ _).trans ?_
    rw [List.drop_zero, List.append_nil, ← hbodies, List.flatMap_map]
  obtain ⟨_, hread, -⟩ := readEventBatch_batchBytes hev hremaining
  have hsummary : ¬(¬events.length < 2 ^ 64 ∨ UInt64.ofNat events.length ≠ expected.eventCount
      ∨ (events.head?.map NetworkEvent.sequence).getD 0 ≠ expected.firstSequence
      ∨ (events.getLast?.map NetworkEvent.sequence).getD 0 ≠ expected.lastSequence) := by
    rintro (hne | hne | hne | hne)
    · exact hne hev.count
    · exact hne hcount.symm
    · exact hne hfirst.symm
    · exact hne hlast.symm
  rw [assemble, hexp]
  dsimp only
  rw [hbytes, hread]
  change (if _ then _ else _ : Except IoError DecodedBatch) = _
  rw [if_neg hsummary]
  rfl

section RoundTrip

variable {σ τ : Type} [Sha256] {emit : Digest → List UInt8 → Eff σ IoError Unit}
  {stored : σ → Digest → Option (List UInt8)} {load : Digest → Eff τ IoError (List UInt8)}
  {binding : BatchBinding} {terminal : Bool}

theorem flatMap_drop_fullSegments (h₀ : SegmentHeader) (bodies : List (List UInt8)) :
    (fullSegments h₀ terminal bodies).flatMap (List.drop headerBytes) = bodies.flatten := by
  induction bodies generalizing h₀ with
  | nil => rfl
  | cons body bodies ih =>
    have hdrop : (partBytes h₀ terminal false body).drop headerBytes = body :=
      List.drop_left' (SegmentHeader.bytes_length _)
    rw [fullSegments, List.flatMap_cons, hdrop, ih, List.flatten_cons]

theorem physicalSize_fullSegments (h₀ : SegmentHeader) (bodies : List (List UInt8)) :
    physicalSize (fullSegments h₀ terminal bodies)
      = headerBytes * bodies.length + bodies.flatten.length := by
  induction bodies generalizing h₀ with
  | nil => rfl
  | cons body bodies ih =>
    have htail := ih (nextHeader h₀ terminal body)
    unfold physicalSize at htail ⊢
    rw [fullSegments, List.map_cons, List.sum_cons, htail, partBytes_length, List.length_cons,
      List.flatten_cons, List.length_append, Nat.mul_succ]
    omega

theorem segments_eq_concat (binding : BatchBinding) (events : List NetworkEvent)
    (terminal : Bool) : ∃ bodies body, batchBytes events = bodies.flatten ++ body
      ∧ segments binding events terminal
        = fullSegments (batchHeader binding events) terminal bodies
          ++ [partBytes (headerAfter (batchHeader binding events) terminal bodies) terminal true body]
      ∧ (∀ b ∈ bodies, b.length = maxBodyBytes) ∧ body ≠ [] ∧ body.length ≤ maxBodyBytes := by
  have hne : batchBytes events ≠ [] := by
    intro hnil
    have hzero := congrArg List.length hnil
    simp [batchBytes] at hzero
  obtain ⟨bodies, body, hcut, hfull, hbody, hmax⟩ :=
    Cut.cut_eq_concat maxBodyBytes_ne_zero hne
  refine ⟨bodies, body, ?_, ?_, hfull, hbody, hmax⟩
  · rw [← Cut.flatten_cut maxBodyBytes (batchBytes events), hcut]
    simp
  · rw [segments, hcut, segmentsFrom_append _ _ _ _ (List.cons_ne_nil _ _)]
    rfl

theorem fullSegments_length (h₀ : SegmentHeader) (bodies : List (List UInt8)) :
    (fullSegments h₀ terminal bodies).length = bodies.length := by
  induction bodies generalizing h₀ with
  | nil => rfl
  | cons body bodies ih => exact congrArg Nat.succ (ih _)

/-- **The reader reads back the segments of a batch** from a loader that delivers them. -/
theorem readEventSegmentBatch_segments (hbinding : binding.Valid) (batch : EventBatch)
    (hinj : ∀ a ∈ segments binding batch.events terminal,
      ∀ b ∈ segments binding batch.events terminal, segmentDigest a = segmentDigest b → a = b)
    (hdigest : ∀ seg ∈ segments binding batch.events terminal, segmentDigest seg ≠ Block.zero 32)
    {disk : Digest → Option (List UInt8)}
    (hdisk : ∀ seg ∈ segments binding batch.events terminal,
      disk (segmentDigest seg) = some seg) {t : τ} (hserves : Serves load disk t) :
    ((readEventSegmentBatch binding.storeId binding.job load
        (tailDigest (segments binding batch.events terminal))).exec t).1
      = .ok
        { binding
          events := batch.events
          terminal
          physicalBytes := physicalSize (segments binding batch.events terminal)
          parts := (segments binding batch.events terminal).length } := by
  obtain ⟨Ready, hready, hserve⟩ := hserves
  obtain ⟨bodies, body, htotal, hsegs, hfull, hbody, hmax⟩ :=
    segments_eq_concat binding batch.events terminal
  have hsize := batchBytes_length_le batch.events
  have hresident := batch.resident
  have hlen : (batchBytes batch.events).length < 2 ^ 64 := by omega
  have hev := Announceable.of_length hlen
  have hc := batchHeader_cuttable hbinding hlen
    (fun seg hseg => hdigest seg (List.dropLast_subset _ hseg))
  rw [htotal] at hc
  have hvalid := hc.validate_last hfull hbody hmax
  obtain ⟨-, hindex, -⟩ := hc.headerAfter hfull hbody
  obtain ⟨hstoreId, hjobEq, horigin, hactor, hcount, hfirst, hlast⟩ :=
    headerAfter_const (batchHeader binding batch.events) terminal bodies
  set h₀ := batchHeader binding batch.events
  set h := headerAfter h₀ terminal bodies
  set seg := partBytes h terminal true body with hseg
  have hnodup : ((segments binding batch.events terminal).map segmentDigest).Nodup := by
    refine List.Nodup.map_on hinj ?_
    rw [hsegs]
    exact nodup_segments hc hfull hbody hmax
  have htail : tailDigest (segments binding batch.events terminal) = segmentDigest seg := by
    rw [hsegs, tailDigest, List.getLast?_concat]
    rfl
  have hheader : headerBytes = 158 := rfl
  have hseglen : seg.length = headerBytes + body.length := partBytes_length h terminal true body
  have hphysical : physicalSize (segments binding batch.events terminal)
      = seg.length + physicalSize (fullSegments h₀ terminal bodies) := by
    rw [hsegs, physicalSize_append, Nat.add_comm]
    simp [physicalSize]
  have hroom : seg.length + physicalSize (fullSegments h₀ terminal bodies) < 2 ^ 64 := by
    have hparts := length_flatten_of_full hfull
    rw [htotal, List.length_append] at hsize
    rw [physicalSize_fullSegments, hseglen, hheader]
    omega
  -- the first pass loads the last segment
  have hmem : seg ∈ segments binding batch.events terminal := by simp [hsegs]
  obtain ⟨t₁, hload, hready₁⟩ := hserve [] t (segmentDigest seg) seg hready (by simp)
    (hdisk seg hmem)
  set walk₀ : Walk :=
    { current := segmentDigest seg, seen := [], retained := [], expected := none, index := 0,
      bodyBytes := 0, physicalBytes := 0, parts := 0 } with hwalk₀
  have hcur : walk₀.Current binding.storeId binding.job load h terminal true body t t₁ :=
    ⟨by simp [hwalk₀], hload, rfl, hvalid, hmax, hstoreId, hjobEq,
      by show 0 + seg.length < 2 ^ 64; omega, Nat.le_refl _, Nat.le_refl _⟩
  have hvisit := exec_visit hcur (expect_tail
    (show (walk₀.count (partOf h terminal true body) body).expected = none from rfl))
  -- the other passes go down to the first header
  set walk₁ : Walk :=
    { current := segmentDigest seg, seen := [segmentDigest seg],
      retained := [partOf h terminal true body],
      expected := some (partHeader h terminal true body), index := h.partIndex,
      bodyBytes := 0 + body.length, physicalBytes := 0 + seg.length, parts := 0 + 1 } with hwalk₁
  replace hvisit : (visit binding.storeId binding.job load walk₀).exec t
      = (.ok (partHeader h terminal true body, walk₁), t₁) := hvisit
  have hdescent : Descent load Ready h₀ terminal bodies (partHeader h terminal true body) walk₁
      t₁ := by
    refine ⟨rfl, hindex, ⟨_, rfl, horigin.symm, hactor.symm, hcount.symm, hfirst.symm,
      hlast.symm⟩, ?_, hready₁, ?_, ?_, ?_⟩
    · rwa [hsegs, List.map_append, List.map_singleton] at hnodup
    · show 0 + seg.length + _ < 2 ^ 64
      omega
    · show 0 + body.length ≤ 0 + seg.length
      omega
    · show 0 + 1 ≤ 0 + seg.length
      omega
  obtain ⟨header', walk', _, hrun, hland⟩ := exec_descend binding.storeId binding.job hserve hc
    hbody hfull (fun s hs => hdisk s (by rw [hsegs]; exact List.mem_append_left _ hs)) rfl rfl hdescent
  -- the bodies of the retained parts, joined, are the body of the batch
  have hbodies : (walk'.retained.reverse.map Part.bytes).flatMap (List.drop headerBytes)
      = batchBytes batch.events := by
    have hdrop : seg.drop headerBytes = body := List.drop_left' (SegmentHeader.bytes_length _)
    have hretained : walk'.retained.reverse.map Part.bytes
        = fullSegments h₀ terminal bodies ++ [seg] := by
      rw [List.map_reverse, hland.retained]
      simp [hwalk₁, partOf, hseg]
    rw [hretained, List.flatMap_append, flatMap_drop_fullSegments, htotal]
    simp [hdrop]
  have hbytes : walk'.bodyBytes = (batchBytes batch.events).length := by
    rw [hland.bodyBytes, htotal, List.length_append]
    show 0 + body.length + _ = _
    omega
  have hassemble := assemble_eq binding header'.predecessor hev hland.expected hbodies hbytes hcount hfirst hlast
  have hterminal : (partHeader h terminal true body).isTerminal = terminal :=
    partFlags_isTerminal _ _ _
  have hphysicalBytes : walk'.physicalBytes
      = physicalSize (segments binding batch.events terminal) := by
    rw [hland.physicalBytes, hphysical]
    show 0 + seg.length + _ = _
    omega
  have hpartsEq : walk'.parts = (segments binding batch.events terminal).length := by
    rw [hland.parts, hsegs, List.length_append, fullSegments_length]
    show 0 + 1 + _ = _ + 1
    omega
  rw [htail, readEventSegmentBatch, exec_bind_ok hvisit]
  dsimp only
  rw [hindex, exec_bind_ok hrun, hassemble, hterminal, hphysicalBytes, hpartsEq, hland.predecessor]
  rw [show (partHeader h terminal true body).origin = binding.origin from horigin,
    show (partHeader h terminal true body).actor = binding.actor from hactor]
  rfl

/-- **What the writer stored, the reader reads back.**  The writer hands the segments of the batch
to its callback and fails only with it; when it succeeds, reading from the digest it returned gives
the same events, binding and terminal flag, and counts the segments and their bytes. -/
theorem readEventSegmentBatch_writeEventSegments (load : Digest → Eff τ IoError (List UInt8))
    (terminal : Bool) (hstores : Stores emit stored) (hbinding : binding.Valid) (batch : EventBatch)
    (hinj : ∀ a ∈ segments binding batch.events terminal,
      ∀ b ∈ segments binding batch.events terminal, segmentDigest a = segmentDigest b → a = b)
    (hdigest : ∀ seg ∈ segments binding batch.events terminal, segmentDigest seg ≠ Block.zero 32)
    (s : σ) :
    (writeEventSegments emit binding batch.events terminal).exec s
        = (do
            emitSegments emit (segments binding batch.events terminal)
            pure (tailDigest (segments binding batch.events terminal)) :
              Eff σ IoError Digest).exec s
      ∧ (∀ e s', (writeEventSegments emit binding batch.events terminal).exec s = (.error e, s') →
          ∃ seg ∈ segments binding batch.events terminal, ∃ s₁,
            (emit (segmentDigest seg) seg).exec s₁ = (.error e, s'))
      ∧ ∀ tail s', (writeEventSegments emit binding batch.events terminal).exec s = (.ok tail, s') →
          ∀ t, Serves load (stored s') t →
            ((readEventSegmentBatch binding.storeId binding.job load tail).exec t).1
              = .ok
                { binding
                  events := batch.events
                  terminal
                  physicalBytes := physicalSize (segments binding batch.events terminal)
                  parts := (segments binding batch.events terminal).length } := by
  have hsize := batchBytes_length_le batch.events
  have hresident := batch.resident
  have hwrite := writeEventSegments_eq emit hbinding
    (show (batchBytes batch.events).length < 2 ^ 64 by omega)
    (fun seg hseg => hdigest seg (List.dropLast_subset _ hseg)) s
  refine ⟨hwrite, ?_, ?_⟩
  · intro e s' hrun
    rw [hwrite] at hrun
    rcases hemit : (emitSegments emit (segments binding batch.events terminal)).exec s with ⟨r, s₁⟩
    cases r with
    | ok u =>
      rw [exec_bind_ok hemit] at hrun
      cases hrun
    | error e' =>
      rw [exec_bind_error hemit] at hrun
      cases hrun
      exact emitSegments_error hemit
  · intro tail s' hrun t hserves
    rw [hwrite] at hrun
    rcases hemit : (emitSegments emit (segments binding batch.events terminal)).exec s with ⟨r, s₁⟩
    cases r with
    | error e' =>
      rw [exec_bind_error hemit] at hrun
      cases hrun
    | ok u =>
      rw [exec_bind_ok hemit] at hrun
      cases hrun
      exact readEventSegmentBatch_segments hbinding batch hinj hdigest
        (stored_emitSegments hstores hinj hemit) hserves

end RoundTrip

/-! ### A batch stored on a shelf -/

abbrev Shelf : Type := List (Digest × List UInt8)

def Shelf.put (digest : Digest) (bytes : List UInt8) : Eff Shelf IoError Unit :=
  modify fun shelf => (digest, bytes) :: shelf

def Shelf.load (digest : Digest) : Eff Shelf IoError (List UInt8) :=
  ofRun fun shelf =>
    match shelf.lookup digest with
    | some bytes => (.ok bytes, shelf)
    | none => (.error ⟨.notFound, "missing part"⟩, shelf)

theorem Shelf.stores_put : Stores Shelf.put fun shelf d => shelf.lookup d := by
  intro digest bytes s s' h
  obtain rfl : s' = (digest, bytes) :: s := by cases h; rfl
  refine ⟨List.lookup_cons_self, fun d hd => ?_⟩
  have hne : (d == digest) = false := beq_eq_false_iff_ne.2 hd
  simp [List.lookup_cons, hne]

theorem Shelf.serves_load (shelf : Shelf) : Serves Shelf.load (fun d => shelf.lookup d) shelf := by
  refine ⟨fun _ t => t = shelf, rfl, ?_⟩
  rintro loaded t d bytes rfl - hd
  exact ⟨t, by simp [Shelf.load, hd], rfl⟩

def sampleBinding : BatchBinding where
  storeId := ⟨List.replicate 16 7, by decide⟩
  job := ⟨List.replicate 32 2, by decide⟩
  predecessor := ⟨List.replicate 32 9, by decide⟩
  origin := 1
  actor := ⟨List.replicate 32 3, by decide⟩

def sampleBatch : EventBatch := ⟨[⟨1, "x", "y"⟩], by decide⟩

abbrev sampleSha : Sha256 :=
  ⟨fun _ => ⟨[111, 18, 138, 133, 48, 131, 31, 153, 122, 70, 113, 199, 20, 82, 10, 13, 86, 52, 125,
    181, 38, 165, 60, 22, 159, 76, 87, 197, 238, 164, 60, 126], by decide⟩⟩

theorem sample_segments : letI := sampleSha
    segments sampleBinding sampleBatch.events true
      = [partBytes (batchHeader sampleBinding sampleBatch.events) true true
          (batchBytes sampleBatch.events)] := by
  let _ := sampleSha
  unfold segments
  rw [Cut.cut_of_le (by decide)]
  rfl

/-- The sample is written in one segment of 192 bytes, and read back. -/
theorem sample_read_back : letI := sampleSha
    ∃ tail shelf, (writeEventSegments Shelf.put sampleBinding sampleBatch.events true).exec []
        = (.ok tail, shelf)
      ∧ ((readEventSegmentBatch sampleBinding.storeId sampleBinding.job Shelf.load tail).exec
          shelf).1 = .ok
            { binding := sampleBinding, events := sampleBatch.events, terminal := true,
              physicalBytes := 192, parts := 1 } := by
  let _ := sampleSha
  have hsegs := sample_segments
  obtain ⟨hwrite, -, hread⟩ := readEventSegmentBatch_writeEventSegments Shelf.load true
    Shelf.stores_put (show sampleBinding.Valid from ⟨by decide, by decide⟩) sampleBatch
    (by rw [hsegs]; simp) (by rw [hsegs]; simp; decide) []
  rw [hsegs] at hwrite hread
  have hok := hwrite.trans rfl
  refine ⟨_, _, hok, ?_⟩
  have hsize : physicalSize [partBytes (batchHeader sampleBinding sampleBatch.events) true true
      (batchBytes sampleBatch.events)] = 192 := by
    have hbody : (batchBytes sampleBatch.events).length = 34 := by decide
    rw [physicalSize, List.map_singleton, List.sum_singleton, partBytes_length, hbody]
    rfl
  rw [hread _ _ hok _ (Shelf.serves_load _), hsize]
  rfl

end EventStore
