/-
**Files and crashes.**

A file is a byte string of which a part may not have reached the disk. A program writes at a position,
sets the length, and synchronises; only what has been synchronised, and not been touched since, is
certain to be there after a crash.

Main definitions:

* `DiskFile.Settles` — so many bytes at the beginning are certain.

Main results:

* `DiskFile.Settles.crash`, `DiskFile.take_crash` — **the certain bytes survive a crash**.
-/

import Mathlib.Data.List.Basic
import Mathlib.Tactic.Common

structure DiskFile where
  bytes : List UInt8
  loose : Option ℕ
  deriving DecidableEq, Repr

namespace DiskFile

variable {file : DiskFile} {length n offset : ℕ}

def empty : DiskFile := ⟨[], none⟩

def loosen (file : DiskFile) (position : ℕ) : Option ℕ :=
  some ((file.loose.map (min position)).getD position)

/-- A byte string of a certain length, cut off or filled up with zeros. -/
def resize (bytes : List UInt8) (length : ℕ) : List UInt8 :=
  bytes.take length ++ List.replicate (length - bytes.length) 0

/-- A byte string with another one written over it; a gap before it is filled with zeros. -/
def overwrite (bytes : List UInt8) (offset : ℕ) (new : List UInt8) : List UInt8 :=
  resize bytes offset ++ new ++ bytes.drop (offset + new.length)

def writeAt (file : DiskFile) (offset : ℕ) (new : List UInt8) : DiskFile :=
  ⟨overwrite file.bytes offset new, file.loosen (min offset file.bytes.length)⟩

def setLen (file : DiskFile) (length : ℕ) : DiskFile :=
  ⟨resize file.bytes length, file.loosen (min length file.bytes.length)⟩

def sync (file : DiskFile) : DiskFile := { file with loose := none }

def crash (file : DiskFile) (debris : List UInt8) : DiskFile :=
  match file.loose with
  | none => file
  | some position => ⟨file.bytes.take position ++ debris, none⟩

def Settles (file : DiskFile) (length : ℕ) : Prop :=
  length ≤ file.bytes.length ∧ ∀ position ∈ file.loose, length ≤ position

theorem settles_zero (file : DiskFile) : file.Settles 0 :=
  ⟨Nat.zero_le _, fun _ _ => Nat.zero_le _⟩

theorem Settles.mono {length' : ℕ} (h : file.Settles length) (hle : length' ≤ length) :
    file.Settles length' :=
  ⟨Nat.le_trans hle h.1, fun position hloose => Nat.le_trans hle (h.2 position hloose)⟩

theorem settles_of_loose_eq_none (h : file.loose = none) : file.Settles file.bytes.length := by
  refine ⟨Nat.le_refl _, fun position hloose => ?_⟩
  rw [h] at hloose
  cases hloose

theorem length_resize (bytes : List UInt8) (length : ℕ) : (resize bytes length).length = length := by
  rw [resize, List.length_append, List.length_take, List.length_replicate]
  omega

theorem take_resize {bytes : List UInt8} (hn : n ≤ length) (hlength : n ≤ bytes.length) :
    (resize bytes length).take n = bytes.take n := by
  rw [resize, List.take_append_of_le_length, List.take_take, Nat.min_eq_left hn]
  rw [List.length_take]
  omega

theorem take_overwrite {bytes : List UInt8} (hn : n ≤ offset) (hlength : n ≤ bytes.length)
    (new : List UInt8) : (overwrite bytes offset new).take n = bytes.take n := by
  rw [overwrite, List.append_assoc, List.take_append_of_le_length, take_resize hn hlength]
  rw [length_resize]
  exact hn

theorem le_loosen {position p : ℕ} (h : file.Settles length) (hposition : length ≤ position)
    (hp : p ∈ file.loosen position) : length ≤ p := by
  obtain rfl := Option.some.inj hp
  cases hloose : file.loose with
  | none => exact hposition
  | some before => exact Nat.le_min.2 ⟨hposition, h.2 before (by rw [hloose]; rfl)⟩

theorem Settles.writeAt (h : file.Settles length) (hoffset : length ≤ offset) (new : List UInt8) :
    (file.writeAt offset new).Settles length := by
  refine ⟨?_, fun p hp => le_loosen h (Nat.le_min.2 ⟨hoffset, h.1⟩) hp⟩
  change length ≤ (overwrite file.bytes offset new).length
  rw [overwrite, List.append_assoc, List.length_append, length_resize]
  omega

theorem Settles.setLen (h : file.Settles length) (hn : length ≤ n) :
    (file.setLen n).Settles length := by
  refine ⟨?_, fun p hp => le_loosen h (Nat.le_min.2 ⟨hn, h.1⟩) hp⟩
  change length ≤ (resize file.bytes n).length
  rw [length_resize]
  exact hn

theorem Settles.sync (h : file.Settles length) : file.sync.Settles length :=
  ⟨h.1, fun _ hp => by cases hp⟩

theorem take_writeAt (h : file.Settles length) (hoffset : length ≤ offset) (new : List UInt8) :
    (file.writeAt offset new).bytes.take length = file.bytes.take length :=
  take_overwrite hoffset h.1 new

theorem take_setLen (h : file.Settles length) (hn : length ≤ n) :
    (file.setLen n).bytes.take length = file.bytes.take length :=
  take_resize hn h.1

/-- **The certain bytes survive a crash.** -/
theorem take_crash (h : file.Settles length) (debris : List UInt8) :
    (file.crash debris).bytes.take length = file.bytes.take length := by
  unfold crash
  split
  · rfl
  · rename_i position hloose
    have hle := h.2 position (by rw [hloose]; rfl)
    have hlength := h.1
    change (file.bytes.take position ++ debris).take length = _
    rw [List.take_append_of_le_length, List.take_take, Nat.min_eq_left hle]
    rw [List.length_take]
    omega

theorem Settles.crash (h : file.Settles length) (debris : List UInt8) :
    (file.crash debris).Settles length := by
  unfold DiskFile.crash
  split
  · exact h
  · rename_i position hloose
    have hle := h.2 position (by rw [hloose]; rfl)
    have hlength := h.1
    refine ⟨?_, fun _ hp => by cases hp⟩
    change length ≤ (file.bytes.take position ++ debris).length
    rw [List.length_append, List.length_take]
    omega

theorem crash_of_loose_eq_none (h : file.loose = none) (debris : List UInt8) :
    file.crash debris = file := by
  unfold crash
  rw [h]

theorem bytes_setLen_writeAt (h : offset ≤ file.bytes.length) (new : List UInt8) :
    ((file.writeAt offset new).setLen (offset + new.length)).bytes
      = file.bytes.take offset ++ new := by
  have hfit : (resize file.bytes offset ++ new).length = offset + new.length := by
    rw [List.length_append, length_resize]
  have hresize : resize file.bytes offset = file.bytes.take offset := by
    rw [resize, Nat.sub_eq_zero_of_le h]
    exact List.append_nil _
  have hlong : offset + new.length
      ≤ (resize file.bytes offset ++ new ++ file.bytes.drop (offset + new.length)).length := by
    rw [List.length_append, hfit]
    exact Nat.le_add_right _ _
  change resize (resize file.bytes offset ++ new ++ file.bytes.drop (offset + new.length)) _ = _
  rw [resize, Nat.sub_eq_zero_of_le hlong, List.take_append_of_le_length (Nat.le_of_eq hfit.symm),
    List.take_of_length_le (Nat.le_of_eq hfit), hresize]
  exact List.append_nil _

end DiskFile
