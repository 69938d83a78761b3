/-
**What decodes is canonical.**

The decoders of segments and event bodies accept only what the encoders write: a header that decodes
is the header's own bytes, and the bytes from which a batch of events is read are the canonical body
of these events.

Main results:

* `EventStore.SegmentHeader.decode_ok` — **a header is decoded from its own bytes only**;
* `EventStore.readEventBatch_ok` — **events are read from their canonical body only**.
-/

import DeviceLane.EventStore.Fragments

namespace EventStore

open Endian Effect

/-! ### Headers -/

namespace SegmentHeader

variable {bs : List UInt8} {i : ℕ} {h : SegmentHeader}

theorem slice_append_drop {j : ℕ} (h : i ≤ j) : slice bs i j ++ bs.drop j = bs.drop i := by
  have hsum : i + (j - i) = j := by omega
  rw [slice, ← hsum, ← List.drop_drop, Nat.add_sub_cancel_left, List.take_append_drop]

theorem length_slice {j : ℕ} (hj : j ≤ bs.length) : (slice bs i j).length = j - i := by
  rw [slice, List.length_take, List.length_drop]
  omega

theorem slice_one (h : i < bs.length) : slice bs i (i + 1) = [bs.getD i 0] := by
  rw [slice, Nat.add_sub_cancel_left, List.drop_eq_getElem_cons h, List.take_succ_cons, List.take_zero,
    List.getD_eq_getElem?_getD, List.getElem?_eq_getElem h, Option.getD_some]

theorem block_ok {n : ℕ} {b : Block n} (h : block n bs i = .ok b) : b.toList = slice bs i (i + n) := by
  rw [block, Block.ofList?] at h
  by_cases hlen : (slice bs i (i + n)).length = n
  · rw [dif_pos hlen] at h
    cases h
    rfl
  · rw [dif_neg hlen] at h
    cases h

/-- **A header is decoded from its own bytes only.** -/
theorem decode_ok (hdec : decode bs = .ok h) : bs = h.bytes ∧ h.validate = .ok () := by
  rw [decode] at hdec
  split at hdec
  · cases hdec
  rename_i hguard
  obtain ⟨hlen, hmagic⟩ := not_or.1 hguard
  replace hlen : bs.length = 158 := not_not.1 hlen
  replace hmagic : slice bs 0 8 = magic := not_not.1 hmagic
  cases hstore : block 16 bs 8 with
  | error e => rw [hstore, error_bind] at hdec; cases hdec
  | ok storeId =>
  cases hjob : block 32 bs 24 with
  | error e => rw [hstore, hjob, ok_bind, error_bind] at hdec; cases hdec
  | ok job =>
  cases hpred : block 32 bs 56 with
  | error e => rw [hstore, hjob, hpred, ok_bind, ok_bind, error_bind] at hdec; cases hdec
  | ok predecessor =>
  cases hactor : block 32 bs 89 with
  | error e =>
    rw [hstore, hjob, hpred, hactor, ok_bind, ok_bind, ok_bind, error_bind] at hdec
    cases hdec
  | ok actor =>
  rw [hstore, hjob, hpred, hactor, ok_bind, ok_bind, ok_bind, ok_bind] at hdec
  dsimp only at hdec
  set header : SegmentHeader :=
    { storeId, job, predecessor
      origin := bs.getD 88 0
      actor
      flags := bs.getD 121 0
      eventCount := u64OfLe (slice bs 122 130)
      firstSequence := u64OfLe (slice bs 130 138)
      lastSequence := u64OfLe (slice bs 138 146)
      partIndex := u64OfLe (slice bs 146 154)
      bodyLength := u32OfLe (slice bs 154 158) } with hheader
  cases hvalid : header.validate with
  | error e =>
    rw [hvalid, error_bind] at hdec
    cases hdec
  | ok u =>
  rw [hvalid, ok_bind] at hdec
  rw [← Except.ok.inj hdec]
  refine ⟨?_, hvalid⟩
  -- The fields lie one behind the other, so that their bytes together are all bytes.
  have hend : bs.drop 158 = [] := List.drop_eq_nil_of_le (by omega)
  have hword : ∀ i, i + 8 ≤ 158 → u64Le (u64OfLe (slice bs i (i + 8))) = slice bs i (i + 8) :=
    fun i hi => u64Le_u64OfLe (by rw [length_slice (by omega)]; omega)
  have hbody : u32Le (u32OfLe (slice bs 154 158)) = slice bs 154 158 :=
    u32Le_u32OfLe (length_slice (by omega))
  rw [bytes, hheader]
  dsimp only
  rw [← hmagic, block_ok hstore, block_ok hjob, block_ok hpred, block_ok hactor,
    ← slice_one (show 88 < bs.length by omega), ← slice_one (show 121 < bs.length by omega),
    hword 122 (by omega), hword 130 (by omega), hword 138 (by omega), hword 146 (by omega), hbody,
    ← List.append_nil (slice bs 154 158), ← hend]
  simp only [slice_append_drop (show 154 ≤ 158 by omega), slice_append_drop (show 146 ≤ 154 by omega),
    slice_append_drop (show 138 ≤ 146 by omega), slice_append_drop (show 130 ≤ 138 by omega),
    slice_append_drop (show 122 ≤ 130 by omega), slice_append_drop (show 121 ≤ 122 by omega),
    slice_append_drop (show 89 ≤ 121 by omega), slice_append_drop (show 88 ≤ 89 by omega),
    slice_append_drop (show 56 ≤ 88 by omega), slice_append_drop (show 24 ≤ 56 by omega),
    slice_append_drop (show 8 ≤ 24 by omega), slice_append_drop (show 0 ≤ 8 by omega), List.drop_zero]

/-- What the validation of a header establishes, apart from its counts. -/
structure Valid (h : SegmentHeader) : Prop where
  origin : 1 ≤ h.origin ∧ h.origin ≤ 4
  actor : h.origin ≠ 1 → h.actor = Block.zero 32
  unused : h.flags &&& ~~~7 = 0
  terminal : h.isTerminal = true → h.isLast = true
  first : h.isFirst = (h.partIndex == 0)
  predecessor : h.partIndex ≠ 0 → h.predecessor ≠ Block.zero 32
  bodyLength_ne : h.bodyLength ≠ 0
  bodyLength_le : h.bodyLength ≤ UInt32.ofNat maxBodyBytes
  full : h.isLast = false → h.bodyLength = UInt32.ofNat maxBodyBytes

theorem valid_of_validate (hv : h.validate = .ok ()) : h.Valid := by
  rw [validate] at hv
  split at hv
  · cases hv
  rename_i hguard
  simp only [not_or] at hguard
  obtain ⟨horigin, hactor, hunused, hterminal, hfirst, hpred, hne, hle, hfull, -⟩ := hguard
  replace hfirst := not_not.1 hfirst
  refine ⟨not_not.1 horigin, fun h => not_not.1 fun hzero => hactor ⟨h, hzero⟩, not_not.1 hunused,
    fun h => not_not.1 fun hlast => hterminal ⟨h, hlast⟩, hfirst, ?_, hne, UInt32.not_lt.1 hle, ?_⟩
  · intro hindex hzero
    refine hpred ⟨?_, hzero⟩
    rw [hfirst]
    simpa using hindex
  · intro hlast
    refine not_not.1 fun hshort => hfull ⟨?_, hshort⟩
    rw [hlast]
    exact Bool.false_ne_true

theorem partFlags_of_unused : ∀ n : Fin 256, UInt8.ofNat n &&& ~~~7 = 0 →
    ((UInt8.ofNat n &&& 4 != 0) = true → (UInt8.ofNat n &&& 2 != 0) = true) →
    UInt8.ofNat n = partFlags (UInt8.ofNat n &&& 1 != 0) (UInt8.ofNat n &&& 2 != 0)
      (UInt8.ofNat n &&& 4 != 0) := by decide +kernel

theorem Valid.flags_eq (hv : h.Valid) :
    h.flags = partFlags (h.partIndex == 0) h.isLast h.isTerminal := by
  have hbyte : UInt8.ofNat h.flags.toNat = h.flags := UInt8.ofNat_toNat
  have hflags := partFlags_of_unused ⟨h.flags.toNat, h.flags.toNat_lt⟩
  dsimp only at hflags
  rw [hbyte] at hflags
  rw [← hv.first]
  exact hflags hv.unused hv.terminal

end SegmentHeader

/-! ### Segments -/

/-- **A segment is the bytes of its header and a body of the declared length.** -/
theorem decodeSegment_ok {bs body : List UInt8} {h : SegmentHeader}
    (hdec : decodeSegment bs = .ok (h, body)) :
    bs = h.bytes ++ body ∧ h.validate = .ok () ∧ body.length = h.bodyLength.toNat := by
  rw [decodeSegment] at hdec
  split at hdec
  · cases hdec
  rename_i hext
  replace hext := not_not.1 hext
  cases hheader : SegmentHeader.decode (bs.take headerBytes) with
  | error e =>
    rw [hheader, error_bind] at hdec
    cases hdec
  | ok header =>
    rw [hheader, ok_bind] at hdec
    split at hdec
    · cases hdec
    rename_i hlen
    replace hlen := not_not.1 hlen
    cases hdec
    obtain ⟨hbytes, hvalid⟩ := SegmentHeader.decode_ok hheader
    refine ⟨?_, hvalid, ?_⟩
    · rw [← hbytes, List.take_append_drop]
    · rw [List.length_drop]
      omega

theorem partHeader_eq {h₀ h : SegmentHeader} (terminal : Bool) {body : List UInt8} (hv : h.Valid)
    (hlen : body.length = h.bodyLength.toNat)
    (hsame : { h₀ with flags := h.flags, bodyLength := h.bodyLength } = h)
    (hterminal : h.isLast = true → h.isTerminal = terminal) :
    partHeader h₀ terminal h.isLast body = h := by
  have hindex : h₀.partIndex = h.partIndex := (congrArg SegmentHeader.partIndex hsame :)
  have hbody : UInt32.ofNat body.length = h.bodyLength := by rw [hlen, UInt32.ofNat_toNat]
  have hflags : partFlags (h₀.partIndex == 0) h.isLast terminal = h.flags := by
    rw [hindex, hv.flags_eq]
    cases hlast : h.isLast with
    | true => rw [hterminal hlast]
    | false => rfl
  rw [partHeader, hbody, hflags]
  exact hsame

/-! ### Bodies -/

section Bodies

variable {R : Type} [LawfulByteSource R]

variable {n : ℕ} {t t' : Take R} {events : List NetworkEvent}

theorem readExact_ok {bs : List UInt8} (h : (readExact n).exec t = (.ok bs, t')) :
    bs.length = n ∧ Take.Consumed bs t t' := by
  rw [readExact, exec_ofRun] at h
  rcases hread : ByteSource.readExact n t with ⟨r, t''⟩
  rw [hread] at h
  cases r with
  | none => cases h
  | some bs' =>
    cases h
    exact Take.consumed_of_readExact hread

theorem readU64_ok {x : UInt64} (h : readU64.exec t = (.ok x, t')) : Take.Consumed (u64Le x) t t' := by
  obtain ⟨bytes, t₁, hread, hrest⟩ := exec_bind_inv h
  cases hrest
  obtain ⟨hlen, hconsumed⟩ := readExact_ok hread
  rw [u64Le_u64OfLe hlen]
  exact hconsumed

theorem readChunks_ok {bs : List UInt8} (h : (readChunks n).exec t = (.ok bs, t')) :
    bs.length = n ∧ Take.Consumed bs t t' := by
  induction n using Nat.strong_induction_on generalizing bs t with
  | _ n ih =>
    rw [readChunks] at h
    by_cases hn : n = 0
    · rw [if_pos hn] at h
      cases h
      exact ⟨hn.symm, Take.Consumed.refl _⟩
    rw [if_neg hn] at h
    obtain ⟨chunk, t₁, hchunk, h⟩ := exec_bind_inv h
    obtain ⟨rest, t₂, hrest, h⟩ := exec_bind_inv h
    cases h
    obtain ⟨hlen, hconsumed⟩ := readExact_ok hchunk
    obtain ⟨hlen', hconsumed'⟩ := ih (n - min n 8192) (by omega) hrest
    refine ⟨?_, hconsumed.append hconsumed'⟩
    rw [List.length_append]
    omega

theorem readString_ok {s : String} (h : readString.exec t = (.ok s, t')) :
    Take.Consumed (stringBytes s) t t' := by
  obtain ⟨length, t₁, hlength, h⟩ := exec_bind_inv h
  obtain ⟨_, _, hget, h⟩ := exec_bind_inv h
  cases hget
  split at h
  · cases h
  obtain ⟨bytes, t₂, hbytes, h⟩ := exec_bind_inv h
  obtain ⟨hlen, hconsumed⟩ := readChunks_ok hbytes
  cases htext : ofTextBytes bytes with
  | none =>
    rw [htext] at h
    cases h
  | some text =>
    rw [htext] at h
    cases h
    have hsame : textBytes s = bytes := textBytes_of_ofTextBytes htext
    have hsize : UInt64.ofNat s.utf8ByteSize = length := by
      rw [← textBytes_length, hsame, hlen, UInt64.ofNat_toNat]
    rw [stringBytes, hsize, hsame]
    exact (readU64_ok hlength).append hconsumed

theorem readEvents_ok (h : (readEvents n).exec t = (.ok events, t')) :
    events.length = n ∧ Take.Consumed (events.flatMap eventBytes) t t' := by
  induction n generalizing events t with
  | zero =>
    cases h
    exact ⟨rfl, Take.Consumed.refl _⟩
  | succ n ih =>
    rw [readEvents] at h
    obtain ⟨sequence, t₁, hsequence, h⟩ := exec_bind_inv h
    obtain ⟨kind, t₂, hkind, h⟩ := exec_bind_inv h
    obtain ⟨payload, t₃, hpayload, h⟩ := exec_bind_inv h
    obtain ⟨rest, t₄, hrest, h⟩ := exec_bind_inv h
    cases h
    obtain ⟨hlen, hconsumed⟩ := ih hrest
    have hevent := (readU64_ok hsequence).append
      ((readString_ok hkind).append (readString_ok hpayload))
    exact ⟨congrArg Nat.succ hlen, hevent.append hconsumed⟩

/-- **Events are read from their canonical body only**, and all of it is read. -/
theorem readEventBatch_ok {reader reader' : R} (h : readEventBatch reader n = (.ok events, reader')) :
    LawfulByteSource.remaining reader
        = batchBytes events ++ LawfulByteSource.remaining reader' ∧
      (batchBytes events).length = n := by
  rw [readEventBatch] at h
  rcases hrun : readLimited.exec (⟨reader, n⟩ : Take R) with ⟨r, t'⟩
  rw [hrun] at h
  cases h
  rw [readLimited] at hrun
  obtain ⟨count, t₁, hcount, hrun⟩ := exec_bind_inv hrun
  obtain ⟨_, _, hget, hrun⟩ := exec_bind_inv hrun
  cases hget
  split at hrun
  · cases hrun
  obtain ⟨events', t₂, hevents, hrun⟩ := exec_bind_inv hrun
  obtain ⟨_, _, hget, hrun⟩ := exec_bind_inv hrun
  cases hget
  split at hrun
  · cases hrun
  rename_i hlimit
  cases hrun
  obtain ⟨hlen, hconsumed⟩ := readEvents_ok hevents
  have hall := (readU64_ok hcount).append hconsumed
  have hword : UInt64.ofNat events.length = count := by rw [hlen, UInt64.ofNat_toNat]
  rw [← hword] at hall
  have hzero : t'.limit = 0 := not_not.1 hlimit
  refine ⟨hall.remaining_eq, ?_⟩
  have htotal : n = (batchBytes events).length + t'.limit := hall.limit_eq
  omega

/-! ### The codec of event bodies -/

def keepBytes (bytes : List UInt8) : Eff (List UInt8) IoError Unit :=
  modify fun kept => kept ++ bytes

theorem exec_writeEventBatch_keepBytes (hev : Announceable events) :
    (writeEventBatch keepBytes events).exec [] = (.ok (), batchBytes events) := by
  have haccepts : Accepts keepBytes (fun p w => w = p) (fun _ _ => False) (batchBytes events) := by
    rintro p bytes - w rfl
    rfl
  have hwritten := writeEventBatch_spec hev haccepts [] rfl
  rcases hrun : (writeEventBatch keepBytes events).exec [] with ⟨result, w⟩
  rw [hrun] at hwritten
  cases result with
  | ok u =>
    have hw : w = batchBytes events := hwritten
    rw [hw]
  | error error => exact hwritten.elim

/-- Event bodies are written and read exactly: what has been written is read back, with what follows it
left unread, and what is read is what would have been written. -/
structure ExactCodec (R : Type) [LawfulByteSource R] : Prop where
  read_back : ∀ events, Announceable events →
    ∃ bytes, (writeEventBatch keepBytes events).exec [] = (.ok (), bytes) ∧
      ∀ (reader : R) (following : List UInt8),
        LawfulByteSource.remaining reader = bytes ++ following →
        ∃ reader', readEventBatch reader bytes.length = (.ok events, reader') ∧
          LawfulByteSource.remaining reader' = following
  canonical : ∀ (reader : R) (encodedLength : UInt64) (events : List NetworkEvent) (reader' : R),
    readEventBatch reader encodedLength.toNat = (.ok events, reader') →
    (writeEventBatch keepBytes events).exec []
        = (.ok (), (LawfulByteSource.remaining reader).take encodedLength.toNat) ∧
      encodedLength.toNat ≤ (LawfulByteSource.remaining reader).length ∧
      LawfulByteSource.remaining reader'
        = (LawfulByteSource.remaining reader).drop encodedLength.toNat

/-- **The codec of event bodies is exact**, whatever source the bytes are read from. -/
theorem exactCodec (R : Type) [LawfulByteSource R] : ExactCodec R where
  read_back events hev := by
    refine ⟨batchBytes events, exec_writeEventBatch_keepBytes hev, fun reader following hreader => ?_⟩
    exact readEventBatch_batchBytes hev hreader
  canonical reader encodedLength events reader' h := by
    obtain ⟨hremaining, hlength⟩ := readEventBatch_ok h
    have hlt : (batchBytes events).length < 2 ^ 64 := hlength ▸ encodedLength.toNat_lt
    rw [hremaining, ← hlength, List.take_left, List.drop_left, List.length_append]
    exact ⟨exec_writeEventBatch_keepBytes (.of_length hlt), Nat.le_add_right _ _, rfl⟩

end Bodies

end EventStore
