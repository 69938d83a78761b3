/-
**Digests and their text.**

The hash function is a parameter: nothing is assumed of it here but the length of its values. Where
a digest is part of a text it is written in lower-case hexadecimal.

Main definitions:

* `hex` — the text of a byte string.

Main results:

* `hex_injective` — different byte strings have different texts.
-/

import DeviceLane.Library.Endian

/-- A SHA-256 digest. -/
abbrev Digest : Type := Endian.Block 32

/-- The hash function. Nothing is assumed of it but the length of its values. -/
class Sha256 where
  digest : List UInt8 → Digest

/-! ### Hexadecimal text -/

def hexChars (b : UInt8) : List Char := [Nat.digitChar (b.toNat / 16), Nat.digitChar (b.toNat % 16)]

def hex (bytes : List UInt8) : String := String.ofList (bytes.flatMap hexChars)

theorem digitChar_injective_of_lt {m n : ℕ} (hm : m < 16) (hn : n < 16)
    (h : Nat.digitChar m = Nat.digitChar n) : m = n := by
  have key : ∀ a b : Fin 16, Nat.digitChar a = Nat.digitChar b → a = b := by decide
  exact congrArg Fin.val (key ⟨m, hm⟩ ⟨n, hn⟩ h)

theorem hexChars_injective {a b : UInt8} (h : hexChars a = hexChars b) : a = b := by
  have hlt : ∀ c : UInt8, c.toNat < 256 := UInt8.toNat_lt
  simp only [hexChars, List.cons.injEq, and_true] at h
  have hhigh := digitChar_injective_of_lt (Nat.div_lt_of_lt_mul (hlt a))
    (Nat.div_lt_of_lt_mul (hlt b)) h.1
  have hlow := digitChar_injective_of_lt (Nat.mod_lt _ (by omega)) (Nat.mod_lt _ (by omega)) h.2
  apply UInt8.toNat_inj.1
  omega

theorem hex_injective {a b : List UInt8} (h : hex a = hex b) : a = b := by
  have hchars : a.flatMap hexChars = b.flatMap hexChars := String.ofList_injective h
  clear h
  induction a generalizing b with
  | nil =>
    cases b with
    | nil => rfl
    | cons => simp [hexChars] at hchars
  | cons x a ih =>
    cases b with
    | nil => simp [hexChars] at hchars
    | cons =>
      rw [List.flatMap_cons, List.flatMap_cons] at hchars
      obtain ⟨hhead, htail⟩ := List.append_inj hchars rfl
      rw [hexChars_injective hhead, ih htail]
