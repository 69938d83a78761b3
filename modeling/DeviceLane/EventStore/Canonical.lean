/-
**The reader accepts only what the writer writes.**

A run of the reader that returns a batch has loaded the segments of this batch, the last one first,
and nothing else. Writing the batch again therefore hands the callback the very byte strings the
loader returned, and ends with the digest the reader started from.

Main definitions:

* `EventStore.answered` — the request for a segment, answered with it.

Main results:

* `EventStore.descend_ok` — **the walk down meets the full parts of one batch**;
* `EventStore.writeEventSegments_of_read` — **what the reader accepts, the writer writes**.
-/

import DeviceLane.EventStore.Decoded
import DeviceLane.EventStore.Loads

namespace EventStore

open Endian Effect

theorem expect_some_ok {walk walk' : Walk} {h e : SegmentHeader} (hexp : walk.expected = some e)
    (hok : expect h walk = .ok walk') : walk' = walk ∧ h.origin = e.origin ∧ h.actor = e.actor
      ∧ h.eventCount = e.eventCount ∧ h.firstSequence = e.firstSequence
      ∧ h.lastSequence = e.lastSequence ∧ h.partIndex = walk.index ∧ h.flags &&& 6 = 0 := by
  rw [expect, hexp] at hok
  dsimp only at hok
  split at hok
  · cases hok
  · rename_i hguard
    simp only [not_or, not_not] at hguard
    obtain ⟨h₁, h₂, h₃, h₄, h₅, h₆, h₇⟩ := hguard
    cases hok
    exact ⟨rfl, h₁, h₂, h₃, h₄, h₅, h₆, h₇⟩

theorem expect_none_ok {walk walk' : Walk} {h : SegmentHeader} (hexp : walk.expected = none)
    (hok : expect h walk = .ok walk') :
    walk' = { walk with index := h.partIndex, expected := some h } ∧ h.isLast = true := by
  rw [expect, hexp] at hok
  dsimp only at hok
  split at hok
  · cases hok
  · rename_i hflag
    cases hok
    exact ⟨rfl, bne_iff_ne.2 hflag⟩

theorem isLast_of_inner : ∀ n : Fin 256, UInt8.ofNat n &&& 6 = 0 →
    (UInt8.ofNat n &&& 2 != 0) = false := by decide +kernel

theorem SegmentHeader.isLast_eq_false {h : SegmentHeader} (hflags : h.flags &&& 6 = 0) :
    h.isLast = false := by
  have hbyte : UInt8.ofNat h.flags.toNat = h.flags := UInt8.ofNat_toNat
  have hinner := isLast_of_inner ⟨h.flags.toNat, h.flags.toNat_lt⟩
  dsimp only at hinner
  rw [hbyte] at hinner
  exact hinner hflags

section Canonical

variable {τ : Type} [Sha256] {storeId : Block 16} {job : Block 32}
  {load : Digest → Eff τ IoError (List UInt8)}

/-- A request answered with the segment it asks for. -/
def answered (seg : List UInt8) : Load := (segmentDigest seg, .ok seg)

theorem visit_recorded_ok {walk walk' : Walk} {header : SegmentHeader} {t t' : τ}
    {log log' : List Load}
    (h : (visit storeId job (recorded load) walk).exec (t, log) = (.ok (header, walk'), t', log')) :
    ∃ part body counted, Admitted storeId job walk part body header counted walk'
      ∧ log' = log ++ [answered part.bytes] := by
  rw [exec_visit_recorded] at h
  split at h
  · cases h
  rcases hload : (load walk.current).exec t with ⟨r, _⟩
  rw [hload] at h
  cases r with
  | error => cases h
  | ok =>
    rw [ok_bind] at h
    obtain ⟨hpass, hstate⟩ := Prod.mk.inj h
    obtain ⟨-, hlog⟩ := Prod.mk.inj hstate
    obtain ⟨part, body, counted, rfl, hadmitted⟩ := admitPart_ok hpass
    refine ⟨part, body, counted, hadmitted, ?_⟩
    rw [← hlog, answered, hadmitted.digest]

def startHeader (storeId : Block 16) (job : Block 32) (predecessor : Digest) (e : SegmentHeader) :
    SegmentHeader :=
  { e with storeId, job, predecessor, flags := 0, partIndex := 0, bodyLength := 8 }

/-- What the walk down from index `n` has met: `n` full parts of the batch. -/
structure Met (e header : SegmentHeader) (walk : Walk) (log : List Load) (h₀ : SegmentHeader)
    (bodies : List (List UInt8)) (walk' : Walk) (log' : List Load) : Prop where
  full : ∀ b ∈ bodies, b.length = maxBodyBytes
  predecessor : header.predecessor = (headerAfter h₀ e.isTerminal bodies).predecessor
  digest_ne : ∀ seg ∈ fullSegments h₀ e.isTerminal bodies, segmentDigest seg ≠ Block.zero 32
  retained : walk'.retained.map Part.bytes
    = walk.retained.map Part.bytes ++ (fullSegments h₀ e.isTerminal bodies).reverse
  expected : walk'.expected = walk.expected
  bodyBytes : walk'.bodyBytes = walk.bodyBytes + bodies.flatten.length
  bodyBytes_lt : walk.bodyBytes < 2 ^ 64 → walk'.bodyBytes < 2 ^ 64
  log_eq : log' = log ++ (fullSegments h₀ e.isTerminal bodies).reverse.map answered

/-- **The walk down meets the full parts of one batch**: those the writer emits behind the header
it starts from. -/
theorem descend_ok {n : ℕ} {e header header' : SegmentHeader} {walk walk' : Walk} {t t' : τ}
    {log log' : List Load} (hexp : walk.expected = some e) (hn : walk.index.toNat = n)
    (hzero : n ≠ 0 → header.predecessor ≠ Block.zero 32)
    (h : (descend storeId job (recorded load) n header walk).exec (t, log)
      = (.ok (header', walk'), t', log')) :
    ∃ bodies, bodies.length = n
      ∧ Met e header walk log (startHeader storeId job header'.predecessor e) bodies walk' log' := by
  -- induction on the index the walk stands at; the part met first is the last of them
  induction n generalizing header walk t log with
  | zero =>
    cases h
    exact ⟨[], rfl, by simp, rfl, by simp [fullSegments], by simp [fullSegments], rfl, by simp,
      id, by simp [fullSegments]⟩
  | succ n ih =>
    rw [descend] at h
    obtain ⟨⟨h₁, _⟩, ⟨_, _⟩, hvisit, hrest⟩ := exec_bind_inv h
    obtain ⟨part, body, _, hadmitted, hlog⟩ := visit_recorded_ok hvisit
    obtain ⟨rfl, horigin, hactor, hcount, hfirst, hlast, hindex, hflags⟩ :=
      expect_some_ok (e := e) (by exact hexp) hadmitted.expected
    obtain rfl := hadmitted.after
    obtain ⟨hbytes, hvalidate, hbody⟩ := decodeSegment_ok hadmitted.decoded
    have hvalid := SegmentHeader.valid_of_validate hvalidate
    have hinner := SegmentHeader.isLast_eq_false hflags
    have hnext : (walk.index - 1).toNat = n := index_pred hn
    have hpart : h₁.partIndex.toNat = n := (congrArg UInt64.toNat hindex).trans hnext
    have hfull : body.length = maxBodyBytes := by
      rw [hbody, hvalid.full hinner]
      rfl
    have hzero₁ : n ≠ 0 → h₁.predecessor ≠ Block.zero 32 := by
      intro hne
      refine hvalid.predecessor fun hidx => hne ?_
      rw [← hpart, hidx]
      rfl
    obtain ⟨bodies, hlen, hmet⟩ := ih (by exact hexp) (by exact hnext) hzero₁ hrest
    set h₀ := startHeader storeId job header'.predecessor e with hh₀
    obtain ⟨c₁, c₂, c₃, c₄, c₅, c₆, c₇⟩ := headerAfter_const h₀ e.isTerminal bodies
    have hlt : n < 2 ^ 64 := by
      rw [← hpart]
      exact h₁.partIndex.toNat_lt
    have hafter : (headerAfter h₀ e.isTerminal bodies).partIndex.toNat = n := by
      rw [headerAfter_partIndex _ _ _ (by rw [hlen]; exact (Nat.zero_add n).symm ▸ hlt), hlen]
      exact Nat.zero_add n
    -- the part is the one the writer emits behind the full parts below it
    have hsame : { headerAfter h₀ e.isTerminal bodies with
        flags := h₁.flags, bodyLength := h₁.bodyLength } = h₁ := by
      have hpartIndex : (headerAfter h₀ e.isTerminal bodies).partIndex = h₁.partIndex :=
        UInt64.toNat_inj.1 (hafter.trans hpart.symm)
      rw [SegmentHeader.mk.injEq]
      exact ⟨c₁.trans hadmitted.store_eq.symm, c₂.trans hadmitted.job_eq.symm,
        hmet.predecessor.symm, c₃.trans horigin.symm, c₄.trans hactor.symm, rfl,
        c₅.trans hcount.symm, c₆.trans hfirst.symm, c₇.trans hlast.symm, hpartIndex, rfl⟩
    have hheader := partHeader_eq e.isTerminal hvalid hbody hsame
      (fun hl => absurd (hinner.symm.trans hl) Bool.false_ne_true)
    have hseg : partBytes (headerAfter h₀ e.isTerminal bodies) e.isTerminal false body
        = part.bytes := by
      rw [partBytes, ← hinner, hheader, ← hbytes]
    have hsegs : fullSegments h₀ e.isTerminal (bodies ++ [body])
        = fullSegments h₀ e.isTerminal bodies ++ [part.bytes] := by
      rw [fullSegments_concat, hseg]
    have hdigest : segmentDigest part.bytes = header.predecessor := hadmitted.digest
    refine ⟨bodies ++ [body], by simp [hlen], ?_, ?_, ?_, ?_, ?_, ?_, ?_, ?_⟩
    · intro b hb
      rcases List.mem_append.1 hb with hb | hb
      · exact hmet.full b hb
      · rw [List.mem_singleton.1 hb]
        exact hfull
    · rw [headerAfter_concat]
      change _ = segmentDigest (partBytes _ _ _ _)
      rw [hseg, hdigest]
    · intro seg hmem
      rw [hsegs] at hmem
      rcases List.mem_append.1 hmem with hmem | hmem
      · exact hmet.digest_ne seg hmem
      · rw [List.mem_singleton.1 hmem, hdigest]
        exact hzero (Nat.succ_ne_zero n)
    · rw [hmet.retained, hsegs, List.map_append, List.reverse_append, List.append_assoc]
      rfl
    · exact hmet.expected
    · rw [hmet.bodyBytes]
      simp [Walk.count]
      omega
    · exact fun _ => hmet.bodyBytes_lt hadmitted.bodyBytes_lt
    · rw [hmet.log_eq, hlog, hsegs]
      simp

omit [Sha256] in
/-- What follows the loop has read the events from the joined bodies, and found them as announced. -/
theorem assemble_ok {preceding : Digest} {walk : Walk} {e : SegmentHeader} {batch : DecodedBatch}
    (hexp : walk.expected = some e) (h : assemble storeId job preceding walk = .ok batch) :
    (batchBytes batch.events).length = walk.bodyBytes
      ∧ batchBytes batch.events
        <+: (walk.retained.map Part.bytes).reverse.flatMap (List.drop headerBytes)
      ∧ batch.binding = ⟨storeId, job, preceding, e.origin, e.actor⟩
      ∧ batchHeader batch.binding batch.events = startHeader storeId job preceding e
      ∧ batch.terminal = e.isTerminal := by
  rw [assemble, hexp] at h
  dsimp only at h
  rcases hread : readEventBatch (BodyReader.start walk.retained.reverse 0) walk.bodyBytes
    with ⟨r, reader'⟩
  rw [hread] at h
  cases r with
  | error => cases h
  | ok =>
    rw [ok_bind] at h
    split at h
    · cases h
    rename_i hguard
    simp only [not_or, not_not] at hguard
    obtain ⟨-, hcount, hfirst, hlast⟩ := hguard
    cases h
    obtain ⟨hremaining, hlen⟩ := readEventBatch_ok hread
    have hstart : LawfulByteSource.remaining (BodyReader.start walk.retained.reverse 0)
        = (walk.retained.map Part.bytes).reverse.flatMap (List.drop headerBytes) := by
      refine (BodyReader.remaining_start _ _).trans ?_
      rw [List.drop_zero, ← List.map_reverse, List.flatMap_map]
    refine ⟨hlen, ⟨_, hremaining.symm.trans hstart⟩, rfl, ?_, rfl⟩
    rw [batchHeader, startHeader, hcount, hfirst, hlast]

structure Canonical (batch : DecodedBatch) (tail : Digest) (log : List Load) : Prop where
  valid : batch.binding.Valid
  length_lt : (batchBytes batch.events).length < 2 ^ 64
  digest_ne : ∀ seg ∈ (segments batch.binding batch.events batch.terminal).dropLast,
    segmentDigest seg ≠ Block.zero 32
  log_eq : log = (segments batch.binding batch.events batch.terminal).reverse.map answered
  tail_eq : tailDigest (segments batch.binding batch.events batch.terminal) = tail

/-- **The loads of a run that returns a batch are the segments of this batch**, from the last to the
first. -/
theorem loads_eq_segments {tail : Digest} {t : τ} {batch : DecodedBatch}
    (h : ((readEventSegmentBatch storeId job load tail).exec t).1 = .ok batch) :
    Canonical batch tail (loads storeId job load tail t) := by
  have hrun := exec_readEventSegmentBatch_recorded storeId job load tail t
  rw [h] at hrun
  rw [readEventSegmentBatch] at hrun
  obtain ⟨⟨e, _⟩, ⟨_, _⟩, hvisit, hrun⟩ := exec_bind_inv hrun
  obtain ⟨⟨header', w₂⟩, ⟨_, _⟩, hdescend, hrun⟩ := exec_bind_inv hrun
  rw [exec_liftExcept] at hrun
  obtain ⟨hassemble, hstate⟩ := Prod.mk.inj hrun
  obtain ⟨-, hlog⟩ := Prod.mk.inj hstate
  -- the first pass has loaded the last segment
  obtain ⟨part, body, _, hadmitted, hlog₁⟩ := visit_recorded_ok hvisit
  obtain ⟨rfl, hlast⟩ := expect_none_ok (by rfl) hadmitted.expected
  obtain rfl := hadmitted.after
  obtain ⟨hbytes, hvalidate, hbody⟩ := decodeSegment_ok hadmitted.decoded
  have hvalid := SegmentHeader.valid_of_validate hvalidate
  have hlt : body.length < 2 ^ 64 := by simpa using hadmitted.bodyBytes_lt
  have hmax : body.length ≤ maxBodyBytes := by
    rw [hbody]
    exact UInt32.le_iff_toNat_le.1 hvalid.bodyLength_le
  have hne : body ≠ [] := by
    rintro rfl
    exact hvalid.bodyLength_ne (UInt32.toNat_inj.1 hbody.symm)
  have hzero : e.partIndex.toNat ≠ 0 → e.predecessor ≠ Block.zero 32 := by
    intro hpos
    refine hvalid.predecessor fun hidx => hpos ?_
    rw [hidx]
    rfl
  -- the other passes have loaded the full parts before it
  obtain ⟨bodies, hcount, hmet⟩ := descend_ok (e := e) (by rfl) rfl hzero hdescend
  obtain ⟨hlen, hprefix, hbinding, hheader, hterminal⟩ :=
    assemble_ok (hmet.expected.trans rfl) hassemble
  set h₀ := startHeader storeId job header'.predecessor e with hh₀
  obtain ⟨c₁, c₂, c₃, c₄, c₅, c₆, c₇⟩ := headerAfter_const h₀ e.isTerminal bodies
  have hindex : (headerAfter h₀ e.isTerminal bodies).partIndex = e.partIndex := by
    refine UInt64.toNat_inj.1 ?_
    rw [headerAfter_partIndex _ _ _ (by
      rw [hcount]
      exact (Nat.zero_add _).symm ▸ e.partIndex.toNat_lt), hcount]
    exact Nat.zero_add _
  have hsame : { headerAfter h₀ e.isTerminal bodies with
      flags := e.flags, bodyLength := e.bodyLength } = e := by
    rw [SegmentHeader.mk.injEq]
    exact ⟨c₁.trans hadmitted.store_eq.symm, c₂.trans hadmitted.job_eq.symm,
      hmet.predecessor.symm, c₃, c₄, rfl, c₅, c₆, c₇, hindex, rfl⟩
  have hpart := partHeader_eq e.isTerminal hvalid hbody hsame (fun _ => rfl)
  have hseg : partBytes (headerAfter h₀ e.isTerminal bodies) e.isTerminal true body
      = part.bytes := by
    rw [partBytes, ← hlast, hpart, ← hbytes]
  -- the joined bodies are the body of the batch
  have hjoined : (w₂.retained.map Part.bytes).reverse.flatMap (List.drop headerBytes)
      = bodies.flatten ++ body := by
    have hdrop : part.bytes.drop headerBytes = body := by
      rw [hbytes]
      exact List.drop_left' (SegmentHeader.bytes_length _)
    rw [hmet.retained, List.reverse_append, List.reverse_reverse, List.flatMap_append,
      flatMap_drop_fullSegments]
    simp [Walk.count, hdrop]
  have htotal : batchBytes batch.events = bodies.flatten ++ body := by
    rw [hjoined] at hprefix
    refine hprefix.eq_of_length ?_
    rw [hlen, hmet.bodyBytes, List.length_append]
    simp [Walk.count]
    omega
  have hsegs : segments batch.binding batch.events batch.terminal
      = fullSegments h₀ e.isTerminal bodies ++ [part.bytes] := by
    rw [segments, hheader, hterminal, htotal, segmentsFrom_cut hmet.full hne,
      Cut.cut_of_le hmax, ← hseg]
    rfl
  refine ⟨?_, ?_, ?_, ?_, ?_⟩
  · rw [hbinding]
    exact ⟨hvalid.origin, hvalid.actor⟩
  · rw [hlen]
    exact hmet.bodyBytes_lt hadmitted.bodyBytes_lt
  · rw [hsegs, List.dropLast_concat]
    exact hmet.digest_ne
  · rw [← hlog, hmet.log_eq, hlog₁, hsegs]
    simp
  · rw [hsegs, tailDigest, List.getLast?_concat]
    exact hadmitted.digest

/-- The callback that keeps the segments it is handed. -/
def collect (digest : Digest) (bytes : List UInt8) : Eff (List Load) IoError Unit :=
  modify fun kept => kept ++ [(digest, .ok bytes)]

theorem exec_emitSegments_collect (segs : List (List UInt8)) (kept : List Load) :
    (emitSegments collect segs).exec kept = (.ok (), kept ++ segs.map answered) := by
  induction segs generalizing kept with
  | nil => simp [emitSegments]
  | cons seg segs ih =>
    have hkeep : (collect (segmentDigest seg) seg).exec kept = (.ok (), kept ++ [answered seg]) :=
      rfl
    rw [emitSegments, exec_bind_ok hkeep, ih]
    simp

/-- **What the reader accepts, the writer writes.**  Whatever the loader serves: when the reader
returns a batch, writing this batch hands out the byte strings that were loaded, in the order of the
parts, and returns the digest the reader started from. -/
theorem writeEventSegments_of_read {tail : Digest} {t : τ} {batch : DecodedBatch}
    (h : ((readEventSegmentBatch storeId job load tail).exec t).1 = .ok batch) :
    (writeEventSegments collect batch.binding batch.events batch.terminal).exec []
        = (.ok tail, (loads storeId job load tail t).reverse)
      ∧ ∃ parts : List (List UInt8), loads storeId job load tail t = parts.reverse.map answered
        ∧ ∀ (σ : Type) (emit : Digest → List UInt8 → Eff σ IoError Unit) (s : σ),
          (writeEventSegments emit batch.binding batch.events batch.terminal).exec s
            = (do
                emitSegments emit parts
                pure tail : Eff σ IoError Digest).exec s := by
  have hc := loads_eq_segments h
  have hwrite : ∀ (σ : Type) (emit : Digest → List UInt8 → Eff σ IoError Unit) (s : σ),
      (writeEventSegments emit batch.binding batch.events batch.terminal).exec s
        = (do
            emitSegments emit (segments batch.binding batch.events batch.terminal)
            pure tail : Eff σ IoError Digest).exec s := by
    intro σ emit s
    rw [writeEventSegments_eq emit hc.valid hc.length_lt hc.digest_ne s, hc.tail_eq]
  refine ⟨?_, _, hc.log_eq, hwrite⟩
  rw [hwrite, exec_bind_ok (exec_emitSegments_collect _ _), hc.log_eq]
  simp

end Canonical

def sampleSegment : List UInt8 :=
  partBytes (batchHeader sampleBinding sampleBatch.events) true true (batchBytes sampleBatch.events)

theorem read_sampleSegment {τ : Type} {load : Digest → Eff τ IoError (List UInt8)}
    {disk : Digest → Option (List UInt8)} {t : τ} (hserves : Serves load disk t) :
    letI := sampleSha
    disk (segmentDigest sampleSegment) = some sampleSegment →
    ((readEventSegmentBatch sampleBinding.storeId sampleBinding.job load
        (segmentDigest sampleSegment)).exec t).1
      = .ok
        { binding := sampleBinding
          events := sampleBatch.events
          terminal := true
          physicalBytes := physicalSize [sampleSegment]
          parts := 1 } := by
  let _ := sampleSha
  intro hdisk
  have hvalid : sampleBinding.Valid := ⟨by decide, by decide⟩
  have hsegs : segments sampleBinding sampleBatch.events true = [sampleSegment] := sample_segments
  have hdigest : segmentDigest sampleSegment ≠ Block.zero 32 := by decide
  have hread : ((readEventSegmentBatch sampleBinding.storeId sampleBinding.job load
      (tailDigest (segments sampleBinding sampleBatch.events true))).exec t).1 = _ :=
    readEventSegmentBatch_segments hvalid sampleBatch
    (by simp [hsegs]) (by simpa [hsegs] using hdigest) (by simpa [hsegs] using hdisk) hserves
  rw [hsegs] at hread
  exact hread

/-- The batch of the sample is written as it was read. -/
theorem sample_written_as_read : letI := sampleSha
    (writeEventSegments collect sampleBinding sampleBatch.events true).exec []
      = (.ok (segmentDigest sampleSegment),
          (loads sampleBinding.storeId sampleBinding.job Shelf.load (segmentDigest sampleSegment)
            [(segmentDigest sampleSegment, sampleSegment)]).reverse) := by
  let _ := sampleSha
  exact (writeEventSegments_of_read
    (read_sampleSegment (Shelf.serves_load _) List.lookup_cons_self)).1

end EventStore
