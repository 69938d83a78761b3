/-
**The size of JSON texts.**

A bound on the bytes of the compact text of a value that is computed from the shape of the value and
the sizes of its strings, without writing the text: an escaped string is at most six times as long
as the string.

Main definitions:

* `Json.sizeBound` — the bound.

Main results:

* `Json.length_toVec_le` — **the compact text is no longer than its bound**.
-/

import DeviceLane.Library.Json

namespace Json

open Endian

/-- The bytes of a text given by its characters. -/
def bytes (cs : List Char) : ℕ := (String.ofList cs).utf8ByteSize

@[simp] theorem bytes_nil : bytes [] = 0 := rfl

theorem bytes_append (cs ds : List Char) : bytes (cs ++ ds) = bytes cs + bytes ds := by
  rw [bytes, String.ofList_append, String.utf8ByteSize_append]
  rfl

theorem bytes_cons (c : Char) (cs : List Char) : bytes (c :: cs) = c.utf8Size + bytes cs := by
  have hsingle : bytes [c] = c.utf8Size := by
    rw [bytes, ← String.singleton_eq_ofList, String.utf8ByteSize_singleton]
  rw [← hsingle, ← bytes_append]
  rfl

theorem utf8Size_digitChar {n : ℕ} (h : n < 16) : (Nat.digitChar n).utf8Size = 1 := by
  have key : ∀ k : Fin 16, (Nat.digitChar k).utf8Size = 1 := by decide
  exact key ⟨n, h⟩

theorem bytes_escape (c : Char) :
    escape c = [c] ∨ c.utf8Size = 1 ∧ 1 ≤ bytes (escape c) ∧ bytes (escape c) ≤ 6 := by
  have hslash : ('\\' : Char).utf8Size = 1 := by decide
  have hpair : ∀ d : Char, d.utf8Size = 1 → bytes ['\\', d] = 2 := by
    intro d hd
    rw [bytes_cons, bytes_cons, bytes_nil, hslash, hd]
  -- The characters with an escape of two characters are one byte themselves.
  have hshort : ∀ d : Char, d.utf8Size = 1 → c.utf8Size = 1 →
      c.utf8Size = 1 ∧ 1 ≤ bytes ['\\', d] ∧ bytes ['\\', d] ≤ 6 := by
    intro d hd _
    rw [hpair d hd]
    omega
  rw [escape]
  split_ifs with hquote hback hb hf hn hr ht hcontrol
  · exact Or.inr (hshort _ (by decide) (by rw [hquote]; decide))
  · exact Or.inr (hshort _ (by decide) (by rw [hback]; decide))
  · exact Or.inr (hshort _ (by decide) (by rw [hb]; decide))
  · exact Or.inr (hshort _ (by decide) (by rw [hf]; decide))
  · exact Or.inr (hshort _ (by decide) (by rw [hn]; decide))
  · exact Or.inr (hshort _ (by decide) (by rw [hr]; decide))
  · exact Or.inr (hshort _ (by decide) (by rw [ht]; decide))
  · right
    have hone : c.utf8Size = 1 :=
      Char.utf8Size_eq_one_iff.2 (Nat.le_of_lt (Nat.lt_trans hcontrol (by decide)))
    have hu : ('u' : Char).utf8Size = 1 := by decide
    have hzero : ('0' : Char).utf8Size = 1 := by decide
    have hhigh := @utf8Size_digitChar (c.toNat / 16) (by omega)
    have hlow := @utf8Size_digitChar (c.toNat % 16) (by omega)
    rw [bytes_cons, bytes_cons, bytes_cons, bytes_cons, bytes_cons, bytes_cons, bytes_nil]
    omega
  · exact Or.inl rfl

theorem bytes_escape_le (c : Char) : bytes (escape c) ≤ 6 * c.utf8Size := by
  rcases bytes_escape c with heq | ⟨hone, -, hle⟩
  · rw [heq, bytes_cons, bytes_nil]
    omega
  · omega

theorem le_bytes_escape (c : Char) : c.utf8Size ≤ bytes (escape c) := by
  rcases bytes_escape c with heq | ⟨hone, hle, -⟩
  · rw [heq, bytes_cons, bytes_nil]
    omega
  · omega

theorem bytes_flatMap_escape_le (cs : List Char) :
    bytes (cs.flatMap escape) ≤ 6 * bytes cs := by
  induction cs with
  | nil => exact Nat.zero_le _
  | cons c =>
    rw [List.flatMap_cons, bytes_append, bytes_cons]
    have := bytes_escape_le c
    omega

theorem bytes_quote_le (s : String) : bytes (quote s) ≤ 6 * s.utf8ByteSize + 2 := by
  have hquote : ('"' : Char).utf8Size = 1 := by decide
  have hbody := bytes_flatMap_escape_le s.toList
  have hsize : bytes s.toList = s.utf8ByteSize := by rw [bytes, String.ofList_toList]
  rw [quote, bytes_cons, bytes_append, bytes_cons, bytes_nil]
  omega

/-! ### Texts are not shortened -/

theorem le_bytes_quote (s : String) : s.utf8ByteSize ≤ bytes (quote s) := by
  have hflat : ∀ cs : List Char, bytes cs ≤ bytes (cs.flatMap escape) := by
    intro cs
    induction cs with
    | nil => exact Nat.zero_le _
    | cons c =>
      rw [List.flatMap_cons, bytes_append, bytes_cons]
      have := le_bytes_escape c
      omega
  have hbody := hflat s.toList
  have hsize : bytes s.toList = s.utf8ByteSize := by rw [bytes, String.ofList_toList]
  rw [quote, bytes_cons, bytes_append]
  omega

theorem le_bytes_charsFields {fields : List (String × Json)} {field : String × Json}
    (h : field ∈ fields) : bytes field.2.chars ≤ bytes (charsFields fields) := by
  induction fields with
  | nil => cases h
  | cons first fields ih =>
    obtain ⟨_, _⟩ := first
    rw [charsFields]
    simp only [bytes_cons, bytes_append]
    rcases List.mem_cons.1 h with rfl | hrest
    · dsimp only
      omega
    · have := ih hrest
      omega

theorem le_bytes_obj {fields : List (String × Json)} {field : String × Json}
    (h : field ∈ fields) : bytes field.2.chars ≤ bytes (obj fields).chars := by
  cases fields with
  | nil => cases h
  | cons first =>
    obtain ⟨_, _⟩ := first
    rw [chars]
    simp only [bytes_cons, bytes_append]
    rcases List.mem_cons.1 h with rfl | hrest
    · dsimp only
      omega
    · have := le_bytes_charsFields hrest
      omega

theorem le_length_toVec_obj {fields : List (String × Json)} {key s : String}
    (h : (key, str s) ∈ fields) : s.utf8ByteSize ≤ (obj fields).toVec.length := by
  have hvalue := le_bytes_obj h
  have hquote := le_bytes_quote s
  dsimp only at hvalue
  rw [chars] at hvalue
  rw [toVec, textBytes_length]
  exact hquote.trans hvalue

mutual

def sizeBound : Json → ℕ
  | .null => 4
  | .bool _ => 5
  | .num n => (Nat.toDigits 10 n).length
  | .str s => 6 * s.utf8ByteSize + 2
  | .arr items => sizeBoundItems items + 2
  | .obj fields => sizeBoundFields fields + 2

def sizeBoundItems : List Json → ℕ
  | [] => 0
  | item :: items => sizeBound item + 1 + sizeBoundItems items

def sizeBoundFields : List (String × Json) → ℕ
  | [] => 0
  | (key, value) :: fields =>
    6 * key.utf8ByteSize + sizeBound value + 4 + sizeBoundFields fields

end

theorem sizeBoundFields_append (front back : List (String × Json)) :
    sizeBoundFields (front ++ back) = sizeBoundFields front + sizeBoundFields back := by
  induction front with
  | nil => exact (Nat.zero_add _).symm
  | cons field front ih =>
    obtain ⟨_, _⟩ := field
    rw [List.cons_append, sizeBoundFields, sizeBoundFields, ih]
    omega

theorem bytes_toDigits (n : ℕ) : bytes (Nat.toDigits 10 n) = (Nat.toDigits 10 n).length := by
  have hdigit : ∀ cs : List Char, (∀ c ∈ cs, c.isDigit = true) → bytes cs = cs.length := by
    intro cs hcs
    induction cs with
    | nil => rfl
    | cons c cs ih =>
      have hone : c.utf8Size = 1 := by
        rw [Char.utf8Size_eq_one_iff]
        obtain ⟨-, hle⟩ := Char.isDigit_iff_toNat.1 (hcs c List.mem_cons_self)
        exact hle.trans (by decide)
      rw [bytes_cons, List.length_cons, hone, ih (List.forall_mem_cons.1 hcs).2]
      omega
  exact hdigit _ fun c hc => Nat.isDigit_of_mem_toDigits (by omega) (by omega) hc

mutual

theorem bytes_chars_le (j : Json) : bytes j.chars ≤ j.sizeBound := by
  cases j with
  | null => decide
  | bool b => cases b <;> decide
  | num => rw [chars, sizeBound, bytes_toDigits]
  | str s => exact bytes_quote_le s
  | arr items =>
    cases items with
    | nil => decide
    | cons item items =>
      have hitem := bytes_chars_le item
      have hitems := bytes_charsItems_le items
      have hopen : ('[' : Char).utf8Size = 1 := by decide
      have hclose : (']' : Char).utf8Size = 1 := by decide
      rw [chars, sizeBound, sizeBoundItems]
      simp only [bytes_cons, bytes_append, bytes_nil]
      omega
  | obj fields =>
    cases fields with
    | nil => decide
    | cons field fields =>
      obtain ⟨key, value⟩ := field
      have hkey := bytes_quote_le key
      have hvalue := bytes_chars_le value
      have hfields := bytes_charsFields_le fields
      have hopen : ('{' : Char).utf8Size = 1 := by decide
      have hclose : ('}' : Char).utf8Size = 1 := by decide
      have hcolon : (':' : Char).utf8Size = 1 := by decide
      rw [chars, sizeBound, sizeBoundFields]
      simp only [bytes_cons, bytes_append, bytes_nil]
      omega

theorem bytes_charsItems_le (items : List Json) :
    bytes (charsItems items) ≤ sizeBoundItems items := by
  cases items with
  | nil => exact Nat.zero_le _
  | cons item items =>
    have hitem := bytes_chars_le item
    have hitems := bytes_charsItems_le items
    have hcomma : (',' : Char).utf8Size = 1 := by decide
    rw [charsItems, sizeBoundItems, bytes_cons, bytes_append]
    omega

theorem bytes_charsFields_le (fields : List (String × Json)) :
    bytes (charsFields fields) ≤ sizeBoundFields fields := by
  cases fields with
  | nil => exact Nat.zero_le _
  | cons field fields =>
    obtain ⟨key, value⟩ := field
    have hkey := bytes_quote_le key
    have hvalue := bytes_chars_le value
    have hfields := bytes_charsFields_le fields
    have hcomma : (',' : Char).utf8Size = 1 := by decide
    have hcolon : (':' : Char).utf8Size = 1 := by decide
    rw [charsFields, sizeBoundFields]
    simp only [bytes_cons, bytes_append]
    omega

end

/-- **The compact text is no longer than its bound.** -/
theorem length_toVec_le (j : Json) : j.toVec.length ≤ j.sizeBound := by
  rw [toVec, textBytes_length]
  exact bytes_chars_le j

end Json
