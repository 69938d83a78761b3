/-
**The length of compact texts.**

The length of the compact text of an object or an array is the sum of the lengths of its parts, and of a
few signs for each of them. A string is as long as its characters are when they have been escaped.

Main definitions:

* `Json.quoted` — the bytes of a string with its quotation marks.

Main results:

* `Json.length_toVec_obj`, `Json.length_toVec_arr` — **the length of an object and of an array**.
-/

import DeviceLane.Library.JsonSize
import DeviceLane.Library.Sha256

namespace Json

open Endian

def quoted (s : String) : ℕ := bytes (quote s)

def digits (n : ℕ) : ℕ := (Nat.toDigits 10 n).length

theorem length_toVec (j : Json) : j.toVec.length = bytes j.chars := by
  rw [toVec, textBytes_length]
  rfl

@[simp] theorem length_toVec_str (s : String) : (str s).toVec.length = quoted s := by
  rw [length_toVec, chars]
  rfl

@[simp] theorem length_toVec_num (n : ℕ) : (num n).toVec.length = digits n := by
  rw [length_toVec, chars]
  exact bytes_toDigits n

theorem utf8Size_punctuation :
    ('{' : Char).utf8Size = 1 ∧ ('}' : Char).utf8Size = 1 ∧ ('[' : Char).utf8Size = 1 ∧
      (']' : Char).utf8Size = 1 ∧ (':' : Char).utf8Size = 1 ∧ (',' : Char).utf8Size = 1 ∧
      ('"' : Char).utf8Size = 1 := by
  decide

theorem bytes_charsFields (fields : List (String × Json)) :
    bytes (charsFields fields)
      = (fields.map fun field => quoted field.1 + field.2.toVec.length + 2).sum := by
  obtain ⟨-, -, -, -, hcolon, hcomma, -⟩ := utf8Size_punctuation
  induction fields with
  | nil => rfl
  | cons field fields ih =>
    obtain ⟨_, _⟩ := field
    simp only [charsFields, bytes_cons, bytes_append, List.map_cons, List.sum_cons, length_toVec,
      quoted, hcolon, hcomma] at ih ⊢
    omega

/-- **The length of an object**: for each field a colon and a comma or a brace, and one more brace. -/
theorem length_toVec_obj {fields : List (String × Json)} (h : fields ≠ []) :
    (obj fields).toVec.length
      = (fields.map fun field => quoted field.1 + field.2.toVec.length + 2).sum + 1 := by
  obtain ⟨hopen, hclose, -, -, hcolon, -, -⟩ := utf8Size_punctuation
  cases fields with
  | nil => exact absurd rfl h
  | cons field fields =>
    obtain ⟨_, _⟩ := field
    have hrest := bytes_charsFields fields
    rw [length_toVec, chars]
    simp only [bytes_cons, bytes_append, bytes_nil, List.map_cons, List.sum_cons, length_toVec, quoted,
      hopen, hclose, hcolon] at hrest ⊢
    omega

def fieldsBytes (fields : List (String × Json)) : ℕ :=
  (fields.map fun field => quoted field.1 + field.2.toVec.length + 2).sum

theorem length_toVec_fields {fields : List (String × Json)} (h : fields ≠ []) :
    (obj fields).toVec.length = fieldsBytes fields + 1 := length_toVec_obj h

@[simp] theorem fieldsBytes_nil : fieldsBytes [] = 0 := rfl

@[simp] theorem fieldsBytes_cons (field : String × Json) (fields : List (String × Json)) :
    fieldsBytes (field :: fields)
      = quoted field.1 + field.2.toVec.length + 2 + fieldsBytes fields := rfl

@[simp] theorem fieldsBytes_append (fields fields' : List (String × Json)) :
    fieldsBytes (fields ++ fields') = fieldsBytes fields + fieldsBytes fields' := by
  rw [fieldsBytes, List.map_append, List.sum_append]
  rfl

theorem bytes_charsItems (items : List Json) :
    bytes (charsItems items) = (items.map fun item => item.toVec.length + 1).sum := by
  obtain ⟨-, -, -, -, -, hcomma, -⟩ := utf8Size_punctuation
  induction items with
  | nil => rfl
  | cons item items ih =>
    simp only [charsItems, bytes_cons, bytes_append, List.map_cons, List.sum_cons, length_toVec,
      hcomma] at ih ⊢
    omega

/-- **The length of an array**: for each item a comma or a bracket, and one more bracket. -/
theorem length_toVec_arr {items : List Json} (h : items ≠ []) :
    (arr items).toVec.length = (items.map fun item => item.toVec.length + 1).sum + 1 := by
  obtain ⟨-, -, hopen, hclose, -, -, -⟩ := utf8Size_punctuation
  cases items with
  | nil => exact absurd rfl h
  | cons item items =>
    have hrest := bytes_charsItems items
    rw [length_toVec, chars]
    simp only [bytes_cons, bytes_append, bytes_nil, List.map_cons, List.sum_cons, length_toVec, hopen,
      hclose] at hrest ⊢
    omega

def itemsBytes (lengths : List ℕ) : ℕ :=
  if lengths = [] then 2 else (lengths.map fun length => length + 1).sum + 1

theorem itemsBytes_append (lengths : List ℕ) (length : ℕ) :
    itemsBytes (lengths ++ [length])
      = itemsBytes lengths + ((if lengths = [] then 0 else 1) + length) := by
  unfold itemsBytes
  by_cases hnone : lengths = []
  · subst hnone
    simp only [List.nil_append, List.cons_ne_nil, ↓reduceIte, List.map_cons, List.map_nil,
      List.sum_cons, List.sum_nil]
    omega
  · have happend : lengths ++ [length] ≠ [] :=
      List.append_ne_nil_of_right_ne_nil _ (List.cons_ne_nil _ _)
    rw [if_neg happend, if_neg hnone, if_neg hnone]
    simp only [List.map_append, List.map_cons, List.map_nil, List.sum_append, List.sum_cons,
      List.sum_nil]
    omega

@[simp] theorem length_toVec_nil : (arr []).toVec.length = 2 := by
  rw [length_toVec, chars]
  decide

theorem length_toVec_map {α : Type} {toJson : α → Json} {length : α → ℕ} {items : List α}
    (h : ∀ a ∈ items, (toJson a).toVec.length = length a) :
    (arr (items.map toJson)).toVec.length = itemsBytes (items.map length) := by
  unfold itemsBytes
  by_cases hitems : items = []
  · subst hitems
    exact length_toVec_nil
  · rw [if_neg (by simpa using hitems), length_toVec_arr (by simpa using hitems), List.map_map,
      List.map_map]
    refine congrArg (fun lengths => List.sum lengths + 1) (List.map_congr_left fun a ha => ?_)
    exact congrArg (fun n => n + 1) (h a ha)

@[simp] theorem length_toVec_null : null.toVec.length = 4 := by
  rw [length_toVec, chars]
  decide

@[simp] theorem length_toVec_bool (b : Bool) : (bool b).toVec.length = if b then 4 else 5 := by
  rw [length_toVec]
  cases b <;> rw [chars] <;> decide

/-! ### Strings -/

theorem le_quoted (s : String) : s.utf8ByteSize + 2 ≤ quoted s := by
  have hflat : ∀ cs : List Char, bytes cs ≤ bytes (cs.flatMap escape) := by
    intro cs
    induction cs with
    | nil => exact Nat.zero_le _
    | cons c =>
      rw [List.flatMap_cons, bytes_append, bytes_cons]
      have := le_bytes_escape c
      omega
  have hbody := hflat s.toList
  have hsize : bytes s.toList = s.utf8ByteSize := by rw [bytes, String.ofList_toList]
  obtain ⟨-, -, -, -, -, -, hquote⟩ := utf8Size_punctuation
  rw [quoted, quote, bytes_cons, bytes_append, bytes_cons, bytes_nil, hquote]
  omega

theorem quoted_le (s : String) : quoted s ≤ 6 * s.utf8ByteSize + 2 := bytes_quote_le s

theorem utf8ByteSize_hex (bs : List UInt8) : (hex bs).utf8ByteSize = 2 * bs.length := by
  change bytes (bs.flatMap hexChars) = _
  induction bs with
  | nil => rfl
  | cons b bs ih =>
    have hlt : b.toNat < 256 := b.toNat_lt
    rw [List.flatMap_cons, bytes_append, ih, hexChars, bytes_cons, bytes_cons, bytes_nil,
      utf8Size_digitChar (Nat.mod_lt _ (by omega)),
      utf8Size_digitChar (Nat.div_lt_of_lt_mul hlt), List.length_cons]
    omega

/-! ### Numbers -/

theorem digits_pos (n : ℕ) : 1 ≤ digits n := Nat.length_toDigits_pos

theorem digits_le_of_lt {n k : ℕ} (hk : 0 < k) (h : n < 10 ^ k) : digits n ≤ k :=
  (Nat.length_toDigits_le_iff (by decide) hk).2 h

theorem length_toVec_bytes_le (bs : List UInt8) :
    (arr (bs.map fun b => num b.toNat)).toVec.length ≤ 4 * bs.length + 2 := by
  cases bs with
  | nil => rw [List.map_nil, length_toVec_nil, List.length_nil]
  | cons first rest =>
    have hitems : ∀ bs : List UInt8,
        ((bs.map fun b => num b.toNat).map fun item => item.toVec.length + 1).sum ≤ 4 * bs.length := by
      intro bs
      induction bs with
      | nil => exact Nat.le_refl _
      | cons b =>
        have hb : digits b.toNat ≤ 3 :=
          digits_le_of_lt (by decide) (Nat.lt_of_lt_of_le b.toNat_lt (by decide))
        rw [List.map_cons, List.map_cons, List.sum_cons, length_toVec_num, List.length_cons]
        omega
    rw [length_toVec_arr (by simp)]
    have := hitems (first :: rest)
    omega

end Json
