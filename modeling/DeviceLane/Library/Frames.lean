/-
**Logs of checksummed frames.**

A log file is a sequence of frames: the length of the payload in four bytes, the payload, and the
digest of the payload. Reading a log from its beginning gives the values its payloads encode, and
how the reading ended: at the end of the log, in the middle of a frame that was not written to its
end, or at a frame that is not one.

Main definitions:

* `Frames.frame` — the frame of a payload.

Main results:

* `Frames.scan_frames` — **a log of frames is read back to its end**;
* `Frames.scan_take_frames` — **a log that has been cut off is read up to the last whole frame**.
-/

import DeviceLane.Library.Sha256

namespace Frames

open Endian

variable {α : Type} [Sha256]

def frame (payload : List UInt8) : List UInt8 :=
  beBytes 4 payload.length ++ (payload ++ (Sha256.digest payload).toList)

/-- How the reading of a log ended; a torn log with the offset of its last, unfinished frame. -/
inductive End
  | complete
  | torn (start : ℕ)
  | corrupt
  deriving DecidableEq, Repr

/-- The values a log encodes up to where its reading ends, given the largest size of a frame and the
decoder of the payloads. -/
def scan (limit : ℕ) (decode : List UInt8 → Option α) (start : ℕ) (bytes : List UInt8) :
    List α × End :=
  if bytes.length < 4 then
    ([], if bytes = [] then .complete else .torn start)
  else
    let length := ofBeBytes (bytes.take 4)
    let rest := bytes.drop 4
    if rest.length < length + 32 then
      ([], .torn start)
    else if length + 32 + 4 > limit then
      ([], .corrupt)
    else if (Sha256.digest (rest.take length)).toList ≠ (rest.drop length).take 32 then
      ([], .corrupt)
    else
      match decode (rest.take length) with
      | none => ([], .corrupt)
      | some a =>
        let scanned := scan limit decode (start + 4 + length + 32) (rest.drop (length + 32))
        (a :: scanned.1, scanned.2)
  termination_by bytes.length
  decreasing_by
    rw [List.length_drop, List.length_drop]
    omega

@[simp] theorem frame_length (payload : List UInt8) : (frame payload).length = payload.length + 36 := by
  rw [frame, List.length_append, List.length_append, beBytes_length, Block.toList_length]
  omega

@[simp] theorem scan_nil (limit : ℕ) (decode : List UInt8 → Option α) (start : ℕ) :
    scan limit decode start [] = ([], .complete) := by
  rw [scan]
  rfl

theorem scan_frame_append {limit : ℕ} {decode : List UInt8 → Option α} {payload : List UInt8} {a : α}
    (hsize : payload.length < 2 ^ 32) (hlimit : payload.length + 36 ≤ limit)
    (hdecode : decode payload = some a) (start : ℕ) (bytes : List UInt8) :
    scan limit decode start (frame payload ++ bytes) =
      (a :: (scan limit decode (start + 4 + payload.length + 32) bytes).1,
        (scan limit decode (start + 4 + payload.length + 32) bytes).2) := by
  have hlength : ofBeBytes ((frame payload ++ bytes).take 4) = payload.length := by
    rw [frame, List.append_assoc, List.take_left' (beBytes_length 4 _), ofBeBytes_beBytes,
      Nat.mod_eq_of_lt (Nat.lt_of_lt_of_le hsize (by decide))]
  have hrest : (frame payload ++ bytes).drop 4
      = payload ++ ((Sha256.digest payload).toList ++ bytes) := by
    rw [frame, List.append_assoc, List.drop_left' (beBytes_length 4 _), List.append_assoc]
  have hdigest : (Sha256.digest payload).toList.length = 32 := Block.toList_length _
  have hlong : ¬(frame payload ++ bytes).length < 4 := by
    rw [List.length_append, frame_length]
    omega
  have henough : ¬(payload ++ ((Sha256.digest payload).toList ++ bytes)).length
      < payload.length + 32 := by
    rw [List.length_append, List.length_append, hdigest]
    omega
  have htail : (payload ++ ((Sha256.digest payload).toList ++ bytes)).drop (payload.length + 32)
      = bytes := by
    rw [← List.append_assoc, List.drop_left']
    rw [List.length_append, hdigest]
  rw [scan, if_neg hlong]
  simp only [hlength, hrest]
  rw [if_neg henough, if_neg (by omega), List.take_left, List.drop_left, List.take_left' hdigest,
    if_neg (not_not_intro rfl), hdecode, htail]

structure Holds (limit : ℕ) (decode : List UInt8 → Option α) (payload : List UInt8) (a : α) :
    Prop where
  size_lt : payload.length < 2 ^ 32
  fits : payload.length + 36 ≤ limit
  decode_eq : decode payload = some a

/-- **A log of frames is read back to its end.** -/
theorem scan_frames {limit : ℕ} {decode : List UInt8 → Option α} {encode : α → List UInt8}
    {values : List α} (h : ∀ a ∈ values, Holds limit decode (encode a) a) (start : ℕ) :
    scan limit decode start (values.flatMap fun a => frame (encode a)) = (values, .complete) := by
  induction values generalizing start with
  | nil => exact scan_nil _ _ _
  | cons a values ih =>
    have ha := h a List.mem_cons_self
    rw [List.flatMap_cons, scan_frame_append ha.size_lt ha.fits ha.decode_eq,
      ih (List.forall_mem_cons.1 h).2]

/-! ### Logs that have been cut off -/

def below (encode : α → List UInt8) (cut : ℕ) : List α → List α
  | [] => []
  | a :: values =>
    if (encode a).length + 36 ≤ cut then
      a :: below encode (cut - ((encode a).length + 36)) values
    else
      []

omit [Sha256] in
theorem below_isPrefix (encode : α → List UInt8) (cut : ℕ) (values : List α) :
    below encode cut values <+: values := by
  induction values generalizing cut with
  | nil => exact List.nil_prefix
  | cons a values ih =>
    rw [below]
    split
    · exact List.cons_prefix_cons.2 ⟨rfl, ih _⟩
    · exact List.nil_prefix

theorem scan_take_frame {limit cut : ℕ} {decode : List UInt8 → Option α} {payload : List UInt8}
    (hsize : payload.length < 2 ^ 32) (hcut : cut < payload.length + 36) (start : ℕ)
    (rest : List UInt8) :
    scan limit decode start ((frame payload ++ rest).take cut)
      = ([], if cut = 0 then .complete else .torn start) := by
  have hlength : ((frame payload ++ rest).take cut).length = cut := by
    rw [List.length_take, List.length_append, frame_length]
    omega
  have hnil : (frame payload ++ rest).take cut = [] ↔ cut = 0 := by
    rw [← List.length_eq_zero_iff, hlength]
  rw [scan, hlength]
  split
  · simp only [hnil]
  · rename_i hfour
    have hfirst : ((frame payload ++ rest).take cut).take 4 = (frame payload ++ rest).take 4 := by
      rw [List.take_take, Nat.min_eq_left (by omega)]
    have hvalue : ofBeBytes ((frame payload ++ rest).take 4) = payload.length := by
      rw [frame, List.append_assoc, List.take_left' (beBytes_length 4 _), ofBeBytes_beBytes,
        Nat.mod_eq_of_lt (Nat.lt_of_lt_of_le hsize (by decide))]
    simp only [hfirst, hvalue, List.length_drop, hlength]
    rw [if_pos (by omega), if_neg (by omega)]

/-- **A log that has been cut off is read up to the last whole frame**, and is torn unless it was cut
there. -/
theorem scan_take_frames {limit : ℕ} {decode : List UInt8 → Option α} {encode : α → List UInt8}
    {values : List α} (h : ∀ a ∈ values, Holds limit decode (encode a) a) (cut start : ℕ) :
    scan limit decode start ((values.flatMap fun a => frame (encode a)).take cut) =
      (below encode cut values,
        if ((values.flatMap fun a => frame (encode a)).take cut).length
          = ((below encode cut values).flatMap fun a => frame (encode a)).length then
          .complete
        else
          .torn (start + ((below encode cut values).flatMap fun a => frame (encode a)).length)) := by
  induction values generalizing cut start with
  | nil =>
    rw [List.flatMap_nil, List.take_nil, scan_nil, below]
    rfl
  | cons a values ih =>
    have ha := h a List.mem_cons_self
    rw [List.flatMap_cons, below]
    split
    · rename_i hle
      have htake : (frame (encode a) ++ values.flatMap fun a => frame (encode a)).take cut
          = frame (encode a) ++ (values.flatMap fun a => frame (encode a)).take
            (cut - ((encode a).length + 36)) := by
        rw [List.take_append, List.take_of_length_le (by rw [frame_length]; exact hle), frame_length]
      rw [htake, scan_frame_append ha.size_lt ha.fits ha.decode_eq,
        ih (List.forall_mem_cons.1 h).2]
      simp only [List.flatMap_cons, List.length_append, frame_length, Nat.add_right_inj]
      congr 2
      congr 1
      omega
    · rename_i hlt
      rw [scan_take_frame ha.size_lt (Nat.not_le.1 hlt)]
      have hlength : ((frame (encode a) ++ values.flatMap fun a => frame (encode a)).take cut).length
          = cut := by
        rw [List.length_take, List.length_append, frame_length]
        omega
      rw [hlength]
      rfl

end Frames
