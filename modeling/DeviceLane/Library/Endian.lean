/-
**Fixed-width words and text as bytes.**

Wire formats write unsigned words as a fixed number of bytes and text as its UTF-8 bytes. This
module develops the two directions of both, independently of any format:

* `Endian.leBytes`, `Endian.ofLeBytes` — the little-endian bytes of a number and the number they
  denote; `Endian.beBytes`, `Endian.ofBeBytes` are the big-endian counterparts;
* `Endian.textBytes`, `Endian.ofTextBytes` — the UTF-8 bytes of a text, and the text they encode
  when they are well-formed UTF-8;
* `Endian.Block` — a byte string of a fixed length, which carries its length.

Main results:

* `Endian.ofLeBytes_leBytes`, `Endian.ofBeBytes_beBytes` — reading back what was written gives the
  number modulo the width.
-/

import Mathlib.Data.Vector.Defs
import Mathlib.Tactic.Ring

namespace Endian

/-! ### Little-endian numbers -/

/-- The `k` low bytes of `n`, least significant first. -/
def leBytes : ℕ → ℕ → List UInt8
  | 0, _ => []
  | k + 1, n => UInt8.ofNat n :: leBytes k (n / 256)

def ofLeBytes : List UInt8 → ℕ
  | [] => 0
  | b :: bs => b.toNat + 256 * ofLeBytes bs

@[simp] theorem leBytes_length (k n : ℕ) : (leBytes k n).length = k := by
  induction k generalizing n with
  | zero => rfl
  | succ k ih => simp [leBytes, ih]

theorem ofLeBytes_leBytes (k n : ℕ) : ofLeBytes (leBytes k n) = n % 256 ^ k := by
  induction k generalizing n with
  | zero => simp [leBytes, ofLeBytes, Nat.mod_one]
  | succ k ih =>
    have hhead : (UInt8.ofNat n).toNat = n % 256 := by simp
    rw [leBytes, ofLeBytes, ih, hhead, pow_succ', Nat.mod_mul]

theorem ofLeBytes_lt (bs : List UInt8) : ofLeBytes bs < 256 ^ bs.length := by
  induction bs with
  | nil => simp [ofLeBytes]
  | cons b =>
    have hb : b.toNat < 256 := b.toNat_lt
    rw [ofLeBytes, List.length_cons, pow_succ']
    omega

theorem leBytes_ofLeBytes (bs : List UInt8) : leBytes bs.length (ofLeBytes bs) = bs := by
  induction bs with
  | nil => rfl
  | cons b bs ih =>
    have hb : b.toNat < 256 := b.toNat_lt
    have hdiv : (b.toNat + 256 * ofLeBytes bs) / 256 = ofLeBytes bs := by omega
    have hmod : UInt8.ofNat (b.toNat + 256 * ofLeBytes bs) = b := by
      rw [← UInt8.toNat_inj]
      simp only [UInt8.toNat_ofNat']
      omega
    rw [List.length_cons, ofLeBytes, leBytes, hdiv, hmod, ih]

/-! ### Big-endian numbers -/

def beBytes (k n : ℕ) : List UInt8 := (leBytes k n).reverse

def ofBeBytes (bs : List UInt8) : ℕ := ofLeBytes bs.reverse

@[simp] theorem beBytes_length (k n : ℕ) : (beBytes k n).length = k := by simp [beBytes]

theorem ofBeBytes_beBytes (k n : ℕ) : ofBeBytes (beBytes k n) = n % 256 ^ k := by
  rw [ofBeBytes, beBytes, List.reverse_reverse, ofLeBytes_leBytes]

/-! ### Machine words -/

def u64Le (x : UInt64) : List UInt8 := leBytes 8 x.toNat

def u64OfLe (bs : List UInt8) : UInt64 := UInt64.ofNat (ofLeBytes bs)

def u32Le (x : UInt32) : List UInt8 := leBytes 4 x.toNat

def u32OfLe (bs : List UInt8) : UInt32 := UInt32.ofNat (ofLeBytes bs)

@[simp] theorem u64Le_length (x : UInt64) : (u64Le x).length = 8 := leBytes_length 8 _

@[simp] theorem u32Le_length (x : UInt32) : (u32Le x).length = 4 := leBytes_length 4 _

@[simp] theorem u64OfLe_u64Le (x : UInt64) : u64OfLe (u64Le x) = x := by
  have hx : x.toNat < 2 ^ 64 := x.toNat_lt
  rw [u64OfLe, u64Le, ofLeBytes_leBytes, Nat.mod_eq_of_lt (by omega), UInt64.ofNat_toNat]

@[simp] theorem u32OfLe_u32Le (x : UInt32) : u32OfLe (u32Le x) = x := by
  have hx : x.toNat < 2 ^ 32 := x.toNat_lt
  rw [u32OfLe, u32Le, ofLeBytes_leBytes, Nat.mod_eq_of_lt (by omega), UInt32.ofNat_toNat]

theorem u64Le_u64OfLe {bs : List UInt8} (h : bs.length = 8) : u64Le (u64OfLe bs) = bs := by
  have hlt : ofLeBytes bs < 2 ^ 64 := by
    have hlt := ofLeBytes_lt bs
    rw [h] at hlt
    exact hlt
  rw [u64Le, u64OfLe, UInt64.toNat_ofNat_of_lt' hlt, ← h, leBytes_ofLeBytes]

theorem u32Le_u32OfLe {bs : List UInt8} (h : bs.length = 4) : u32Le (u32OfLe bs) = bs := by
  have hlt : ofLeBytes bs < 2 ^ 32 := by
    have hlt := ofLeBytes_lt bs
    rw [h] at hlt
    exact hlt
  rw [u32Le, u32OfLe, UInt32.toNat_ofNat_of_lt' hlt, ← h, leBytes_ofLeBytes]

/-! ### Text -/

def textBytes (s : String) : List UInt8 := s.toUTF8.data.toList

def ofTextBytes (bs : List UInt8) : Option String := String.fromUTF8? ⟨⟨bs⟩⟩

@[simp] theorem textBytes_length (s : String) : (textBytes s).length = s.utf8ByteSize := rfl

@[simp] theorem ofTextBytes_textBytes (s : String) : ofTextBytes (textBytes s) = some s := by
  have hvalid : s.toUTF8.IsValidUTF8 := s.isValidUTF8
  simp only [ofTextBytes, textBytes, String.fromUTF8?]
  exact dif_pos hvalid

theorem textBytes_of_ofTextBytes {bs : List UInt8} {s : String} (h : ofTextBytes bs = some s) :
    textBytes s = bs := by
  simp only [ofTextBytes, String.fromUTF8?] at h
  split at h
  · simp only [Option.some.injEq] at h
    subst h
    rfl
  · simp at h

theorem textBytes_injective : Function.Injective textBytes := by
  intro s _ h
  have hs := ofTextBytes_textBytes s
  rw [h, ofTextBytes_textBytes] at hs
  exact (Option.some.inj hs).symm

/-! ### Blocks -/

/-- A byte string of exactly `n` bytes. -/
abbrev Block (n : ℕ) : Type := List.Vector UInt8 n

/-- The block of `n` zero bytes. -/
def Block.zero (n : ℕ) : Block n := ⟨List.replicate n 0, List.length_replicate⟩

/-- The first `n` bytes of a byte string, when it is long enough. -/
def Block.ofList? (n : ℕ) (bs : List UInt8) : Option (Block n) :=
  if h : bs.length = n then some ⟨bs, h⟩ else none

@[simp] theorem Block.toList_length {n : ℕ} (b : Block n) : b.toList.length = n := b.2

@[simp] theorem Block.ofList?_toList {n : ℕ} (b : Block n) :
    Block.ofList? n b.toList = some b := dif_pos b.2

end Endian
