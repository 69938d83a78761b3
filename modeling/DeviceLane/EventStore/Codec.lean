/-
**The header of a physical event segment.**

A segment of the registry event store is a header of `158` bytes followed by a body of at most
`524288` bytes. The header binds the segment to its store, job, origin and actor, places it in the
batch (flags, part index), names its predecessor by digest, and summarises the batch (event count,
first and last sequence).

Main definitions:

* `EventStore.SegmentHeader`, with `SegmentHeader.validate`, `SegmentHeader.encode` and
  `SegmentHeader.decode`.

Main results:

* `EventStore.SegmentHeader.decode_encode` — a header that encodes decodes to itself.
-/

import DeviceLane.Library.Sha256

namespace EventStore

open Endian

/-! ### Errors and digests -/

inductive ErrorKind
  | notFound
  | permissionDenied
  | interrupted
  | unexpectedEof
  | writeZero
  | invalidData
  | other
  | unnamed (code : ℕ)
  deriving DecidableEq, Repr

/-- An `io::Error`: its kind and its text. -/
structure IoError where
  kind : ErrorKind
  message : String
  deriving DecidableEq, Repr

/-- The digest a segment is stored under: `DeviceLane/event-segment/v1`, a NUL byte, then all the
bytes of the segment. -/
def segmentDigest [Sha256] (bytes : List UInt8) : Digest :=
  Sha256.digest (textBytes "DeviceLane/event-segment/v1\x00" ++ bytes)

def identityBytes (domain identity : String) : List UInt8 :=
  textBytes domain ++ 0 :: (leBytes 8 identity.utf8ByteSize ++ textBytes identity)

def identityBinding [Sha256] (domain identity : String) : Digest :=
  Sha256.digest (identityBytes domain identity)

def jobBinding [Sha256] (identity : String) : Digest :=
  identityBinding "DeviceLane/event-job/v1" identity

def peerBinding [Sha256] (identity : String) : Digest :=
  identityBinding "DeviceLane/event-peer/v1" identity

/-- What a segment or its header holds a digest of. -/
inductive Bound
  | job (identity : String)
  | peer (identity : String)
  | segment (bytes : List UInt8)

def Bound.bytes : Bound → List UInt8
  | .job identity => identityBytes "DeviceLane/event-job/v1" identity
  | .peer identity => identityBytes "DeviceLane/event-peer/v1" identity
  | .segment bytes => textBytes "DeviceLane/event-segment/v1\x00" ++ bytes

def Bound.digest [Sha256] : Bound → Digest
  | .job identity => jobBinding identity
  | .peer identity => peerBinding identity
  | .segment bytes => segmentDigest bytes

theorem identityBytes_injective (domain : String) : Function.Injective (identityBytes domain) := by
  intro a b h
  have hbytes := (List.cons.inj (List.append_cancel_left h)).2
  exact textBytes_injective (List.append_inj_right hbytes (by rw [leBytes_length, leBytes_length]))

/-- The texts that are hashed differ in their domain, or in what comes behind it. -/
theorem Bound.bytes_injective : Function.Injective Bound.bytes := by
  intro a b h
  have hdomain : a.bytes[17]? = b.bytes[17]? := congrArg (·[17]?) h
  cases a with
  | job =>
    cases b with
    | job => exact congrArg Bound.job (identityBytes_injective _ h)
    | peer | segment => cases hdomain
  | peer =>
    cases b with
    | peer => exact congrArg Bound.peer (identityBytes_injective _ h)
    | job | segment => cases hdomain
  | segment =>
    cases b with
    | segment => exact congrArg Bound.segment (List.append_cancel_left h)
    | job | peer => cases hdomain

/-- **Digests tell jobs, peers and segments apart**, unless two texts have one digest. -/
theorem Bound.digest_eq_iff [Sha256] (a b : Bound) : a.digest = b.digest ↔
    a = b ∨ a.bytes ≠ b.bytes ∧ Sha256.digest a.bytes = Sha256.digest b.bytes := by
  have hdigest : ∀ bound : Bound, bound.digest = Sha256.digest bound.bytes := by
    rintro (_ | _ | _) <;> rfl
  rw [hdigest, hdigest]
  constructor
  · intro h
    rcases eq_or_ne a.bytes b.bytes with heq | hne
    · exact .inl (bytes_injective heq)
    · exact .inr ⟨hne, h⟩
  · rintro (rfl | ⟨-, h⟩)
    · rfl
    · exact h

/-! ### The header -/

def headerBytes : ℕ := 158

def maxBodyBytes : ℕ := 524288

structure SegmentHeader where
  storeId : Block 16
  job : Block 32
  predecessor : Digest
  origin : UInt8
  actor : Block 32
  flags : UInt8
  eventCount : UInt64
  firstSequence : UInt64
  lastSequence : UInt64
  partIndex : UInt64
  bodyLength : UInt32
  deriving DecidableEq

def invalid : IoError := ⟨.invalidData, "invalid event segment header or extent"⟩

namespace SegmentHeader

variable {a b : List UInt8} {i j : ℕ}

def isFirst (h : SegmentHeader) : Bool := h.flags &&& 1 != 0

def isLast (h : SegmentHeader) : Bool := h.flags &&& 2 != 0

def isTerminal (h : SegmentHeader) : Bool := h.flags &&& 4 != 0

/-- Local consistency of a header. -/
def validate (h : SegmentHeader) : Except IoError Unit :=
  if ¬(1 ≤ h.origin ∧ h.origin ≤ 4)
      ∨ (h.origin ≠ 1 ∧ h.actor ≠ Block.zero 32)
      ∨ h.flags &&& ~~~7 ≠ 0
      ∨ (h.isTerminal ∧ ¬h.isLast)
      ∨ h.isFirst ≠ (h.partIndex == 0)
      ∨ (¬h.isFirst ∧ h.predecessor = Block.zero 32)
      ∨ h.bodyLength = 0
      ∨ h.bodyLength > UInt32.ofNat maxBodyBytes
      ∨ (¬h.isLast ∧ h.bodyLength ≠ UInt32.ofNat maxBodyBytes)
      ∨ (h.eventCount = 0 ∧ (¬h.isFirst ∨ ¬h.isLast ∨ h.bodyLength ≠ 8
          ∨ h.firstSequence ≠ 0 ∨ h.lastSequence ≠ 0))
      ∨ (h.eventCount = 1 ∧ h.firstSequence ≠ h.lastSequence) then
    .error invalid
  else
    .ok ()

def magic : List UInt8 := textBytes "DLSEG001"

/-- The bytes of a header, without its validation. -/
def bytes (h : SegmentHeader) : List UInt8 :=
  magic ++ (h.storeId.toList ++ (h.job.toList ++ (h.predecessor.toList ++ ([h.origin] ++
    (h.actor.toList ++ ([h.flags] ++ (u64Le h.eventCount ++ (u64Le h.firstSequence ++
      (u64Le h.lastSequence ++ (u64Le h.partIndex ++ u32Le h.bodyLength))))))))))

def encode (h : SegmentHeader) : Except IoError (List UInt8) := do
  h.validate
  pure h.bytes

def slice (bs : List UInt8) (i j : ℕ) : List UInt8 := (bs.drop i).take (j - i)

def block (n : ℕ) (bs : List UInt8) (i : ℕ) : Except IoError (Block n) :=
  match Block.ofList? n (slice bs i (i + n)) with
  | some b => .ok b
  | none => .error invalid

/-- Decodes and validates a header, without checking identity or chain bindings. -/
def decode (bs : List UInt8) : Except IoError SegmentHeader :=
  if bs.length ≠ headerBytes ∨ slice bs 0 8 ≠ magic then
    .error invalid
  else do
    let storeId ← block 16 bs 8
    let job ← block 32 bs 24
    let predecessor ← block 32 bs 56
    let actor ← block 32 bs 89
    let header : SegmentHeader :=
      { storeId, job, predecessor
        origin := bs.getD 88 0
        actor
        flags := bs.getD 121 0
        eventCount := u64OfLe (slice bs 122 130)
        firstSequence := u64OfLe (slice bs 130 138)
        lastSequence := u64OfLe (slice bs 138 146)
        partIndex := u64OfLe (slice bs 146 154)
        bodyLength := u32OfLe (slice bs 154 158) }
    header.validate
    pure header

/-! ### Reading back a header -/

theorem slice_append_right (h : a.length ≤ i) :
    slice (a ++ b) i j = slice b (i - a.length) (j - a.length) := by
  have hlen : j - i = j - a.length - (i - a.length) := by omega
  rw [slice, slice, List.drop_append, List.drop_eq_nil_of_le h, List.nil_append, hlen]

theorem slice_cons {b : UInt8} {bs : List UInt8} (h : 1 ≤ i) :
    slice (b :: bs) i j = slice bs (i - 1) (j - 1) :=
  slice_append_right (a := [b]) h

theorem slice_append_left (h : a.length = j) : slice (a ++ b) 0 j = a := by
  subst h
  simp [slice]

theorem slice_all (h : a.length = j) : slice a 0 j = a := by
  subst h
  simp [slice]

@[simp] theorem magic_length : magic.length = 8 := by decide

@[simp] theorem bytes_length (h : SegmentHeader) : h.bytes.length = headerBytes := by
  simp [bytes, headerBytes]

theorem block_append {n : ℕ} {v : Block n} (h : a.length = i) :
    block n (a ++ (v.toList ++ b)) i = .ok v := by
  have hslice : slice (a ++ (v.toList ++ b)) i (i + n) = v.toList := by
    rw [slice_append_right (by omega)]
    have h0 : i - a.length = 0 := by omega
    have hn : i + n - a.length = n := by omega
    rw [h0, hn, slice_append_left v.toList_length]
  rw [block, hslice, Block.ofList?_toList]

/-- **A header that encodes decodes to itself.** -/
theorem decode_encode {h : SegmentHeader} {bs : List UInt8} (henc : h.encode = .ok bs) :
    decode bs = .ok h := by
  have hvalid : h.validate = .ok () := by
    cases hv : h.validate with
    | error => simp [encode, hv, bind, Except.bind] at henc
    | ok => rfl
  have hbs : bs = h.bytes := by
    rw [encode, hvalid] at henc
    exact (Except.ok.inj henc).symm
  subst hbs
  have hmagic : slice h.bytes 0 8 = magic := slice_append_left magic_length
  have hguard : ¬(h.bytes.length ≠ headerBytes ∨ slice h.bytes 0 8 ≠ magic) := by
    simp [hmagic]
  have hstore : block 16 h.bytes 8 = .ok h.storeId := block_append magic_length
  have hjob : block 32 h.bytes 24 = .ok h.job := by
    rw [bytes, ← List.append_assoc]
    exact block_append (by simp)
  have hpred : block 32 h.bytes 56 = .ok h.predecessor := by
    rw [bytes, ← List.append_assoc, ← List.append_assoc]
    exact block_append (by simp)
  have hactor : block 32 h.bytes 89 = .ok h.actor := by
    rw [bytes, ← List.append_assoc, ← List.append_assoc, ← List.append_assoc, ← List.append_assoc]
    exact block_append (by simp)
  have horigin : h.bytes.getD 88 0 = h.origin := by
    simp [bytes]
  have hflags : h.bytes.getD 121 0 = h.flags := by
    simp [bytes]
  have hcount : slice h.bytes 122 130 = u64Le h.eventCount := by
    simp [bytes, slice_append_right, slice_append_left, slice_cons]
  have hfirst : slice h.bytes 130 138 = u64Le h.firstSequence := by
    simp [bytes, slice_append_right, slice_append_left, slice_cons]
  have hlast : slice h.bytes 138 146 = u64Le h.lastSequence := by
    simp [bytes, slice_append_right, slice_append_left, slice_cons]
  have hpart : slice h.bytes 146 154 = u64Le h.partIndex := by
    simp [bytes, slice_append_right, slice_append_left, slice_cons]
  have hbody : slice h.bytes 154 158 = u32Le h.bodyLength := by
    simp [bytes, slice_append_right, slice_all, slice_cons]
  rw [decode, if_neg hguard, hstore, hjob, hpred, hactor, horigin, hflags, hcount, hfirst, hlast,
    hpart, hbody]
  simp only [u64OfLe_u64Le, u32OfLe_u32Le]
  show (do h.validate; pure h) = Except.ok h
  rw [hvalid]
  rfl

theorem encode_eq_ok {h : SegmentHeader} (hv : h.validate = .ok ()) : h.encode = .ok h.bytes := by
  rw [encode, hv]
  rfl

end SegmentHeader

/-! ### A whole segment -/

/-- Validates the header and the physical extent, and returns the header and the body. -/
def decodeSegment (bs : List UInt8) : Except IoError (SegmentHeader × List UInt8) :=
  if ¬(headerBytes ≤ bs.length ∧ bs.length ≤ headerBytes + maxBodyBytes) then
    .error invalid
  else do
    let header ← SegmentHeader.decode (bs.take headerBytes)
    if bs.length ≠ headerBytes + header.bodyLength.toNat then
      throw invalid
    pure (header, bs.drop headerBytes)

/-- **A segment whose header encodes and whose body has the declared length decodes to both.** -/
theorem decodeSegment_encode {h : SegmentHeader} {head body : List UInt8}
    (henc : h.encode = .ok head) (hbody : body.length = h.bodyLength.toNat)
    (hmax : body.length ≤ maxBodyBytes) :
    decodeSegment (head ++ body) = .ok (h, body) := by
  have hdec := SegmentHeader.decode_encode henc
  have hlen : head.length = headerBytes := by
    by_contra hne
    simp [SegmentHeader.decode, hne] at hdec
  have htake : (head ++ body).take headerBytes = head := List.take_left' hlen
  have hdrop : (head ++ body).drop headerBytes = body := List.drop_left' hlen
  have hext : ¬¬(headerBytes ≤ (head ++ body).length
      ∧ (head ++ body).length ≤ headerBytes + maxBodyBytes) := by
    rw [List.length_append]
    omega
  rw [decodeSegment, if_neg hext, htake, hdrop, hdec]
  have htotal : (head ++ body).length = headerBytes + h.bodyLength.toNat := by
    rw [List.length_append, hlen, hbody]
  simp [bind, Except.bind, htotal, pure, Except.pure]

end EventStore
