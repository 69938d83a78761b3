/-
**The characters of JSON texts.**

A JSON text is written without control characters: those of its strings are escaped, and everything else
is written in visible characters.

Main results:

* `Json.space_le_of_mem_chars` — **no character of a JSON text comes before the space**.
-/

import DeviceLane.Library.Json

namespace Json

theorem space_le_digitChar {n : ℕ} (h : n < 16) : 0x20 ≤ (Nat.digitChar n).toNat := by
  have hall : ∀ digit : Fin 16, 0x20 ≤ (Nat.digitChar digit).toNat := by decide
  exact hall ⟨n, h⟩

theorem space_le_of_mem_escape {c d : Char} (h : d ∈ escape c) : 0x20 ≤ d.toNat := by
  have hpair : ∀ {a b : Char}, 0x20 ≤ a.toNat → 0x20 ≤ b.toNat → d ∈ [a, b] → 0x20 ≤ d.toNat := by
    intro a b ha hb hmem
    rcases List.mem_cons.1 hmem with rfl | hmem
    · exact ha
    · exact List.mem_singleton.1 hmem ▸ hb
  unfold escape at h
  split at h
  · exact hpair (by decide) (by decide) h
  split at h
  · exact hpair (by decide) (by decide) h
  split at h
  · exact hpair (by decide) (by decide) h
  split at h
  · exact hpair (by decide) (by decide) h
  split at h
  · exact hpair (by decide) (by decide) h
  split at h
  · exact hpair (by decide) (by decide) h
  split at h
  · exact hpair (by decide) (by decide) h
  split at h
  · -- a control character is written with two digits
    rename_i hcontrol
    simp only [List.mem_cons, List.not_mem_nil, or_false] at h
    rcases h with rfl | rfl | rfl | rfl | rfl | rfl
    · decide
    · decide
    · decide
    · decide
    · exact space_le_digitChar (by omega)
    · exact space_le_digitChar (by omega)
  · rename_i hplain
    rw [List.mem_singleton.1 h]
    omega

theorem space_le_of_mem_quote {s : String} {c : Char} (h : c ∈ quote s) : 0x20 ≤ c.toNat := by
  rcases List.mem_cons.1 h with rfl | h
  · decide
  rcases List.mem_append.1 h with h | h
  · obtain ⟨_, -, hd⟩ := List.mem_flatMap.1 h
    exact space_le_of_mem_escape hd
  · rw [List.mem_singleton.1 h]
    decide

theorem space_le_of_mem_toDigits {n : ℕ} {c : Char} (h : c ∈ Nat.toDigits 10 n) : 0x20 ≤ c.toNat := by
  have hdigit := Nat.isDigit_of_mem_toDigits (by omega) (by omega) h
  rw [Char.isDigit, Bool.and_eq_true, decide_eq_true_eq] at hdigit
  have hzero : '0'.val ≤ c.val := hdigit.1
  have hle : (48 : ℕ) ≤ c.val.toNat := hzero
  change 0x20 ≤ c.val.toNat
  omega

mutual

/-- **No character of a JSON text comes before the space.** -/
theorem space_le_of_mem_chars : ∀ (j : Json) {c : Char}, c ∈ j.chars → 0x20 ≤ c.toNat
  | .null, c, h => by
      have hall : (null).chars.all (0x20 ≤ ·.toNat) = true := by decide
      exact of_decide_eq_true (List.all_eq_true.1 hall c h)
  | .bool true, c, h => by
      have hall : (bool true).chars.all (0x20 ≤ ·.toNat) = true := by decide
      exact of_decide_eq_true (List.all_eq_true.1 hall c h)
  | .bool false, c, h => by
      have hall : (bool false).chars.all (0x20 ≤ ·.toNat) = true := by decide
      exact of_decide_eq_true (List.all_eq_true.1 hall c h)
  | .num n, c, h => space_le_of_mem_toDigits h
  | .str s, c, h => space_le_of_mem_quote h
  | .arr [], c, h => by
      have hall : (arr []).chars.all (0x20 ≤ ·.toNat) = true := by decide
      exact of_decide_eq_true (List.all_eq_true.1 hall c h)
  | .arr (item :: items), c, h => by
      simp only [chars, List.mem_cons, List.mem_append, List.not_mem_nil, or_false] at h
      rcases h with rfl | h | h | rfl
      · decide
      · exact space_le_of_mem_chars item h
      · exact space_le_of_mem_charsItems items h
      · decide
  | .obj [], c, h => by
      have hall : (obj []).chars.all (0x20 ≤ ·.toNat) = true := by decide
      exact of_decide_eq_true (List.all_eq_true.1 hall c h)
  | .obj ((key, value) :: fields), c, h => by
      simp only [chars, List.mem_cons, List.mem_append, List.not_mem_nil, or_false] at h
      rcases h with rfl | h | rfl | h | h | rfl
      · decide
      · exact space_le_of_mem_quote h
      · decide
      · exact space_le_of_mem_chars value h
      · exact space_le_of_mem_charsFields fields h
      · decide

theorem space_le_of_mem_charsItems :
    ∀ (items : List Json) {c : Char}, c ∈ charsItems items → 0x20 ≤ c.toNat
  | [], c, h => absurd h List.not_mem_nil
  | item :: items, c, h => by
      simp only [charsItems, List.mem_cons, List.mem_append] at h
      rcases h with rfl | h | h
      · decide
      · exact space_le_of_mem_chars item h
      · exact space_le_of_mem_charsItems items h

theorem space_le_of_mem_charsFields :
    ∀ (fields : List (String × Json)) {c : Char}, c ∈ charsFields fields → 0x20 ≤ c.toNat
  | [], c, h => absurd h List.not_mem_nil
  | (key, value) :: fields, c, h => by
      simp only [charsFields, List.mem_cons, List.mem_append] at h
      rcases h with rfl | h | rfl | h | h
      · decide
      · exact space_le_of_mem_quote h
      · decide
      · exact space_le_of_mem_chars value h
      · exact space_le_of_mem_charsFields fields h

end

end Json
