/-
**Replacing a pattern in a text.**

From the left, each occurrence of the pattern that starts behind the last one gives way to the filler.

Main definitions:

* `Redaction.replace` — the text with the filler in place of the pattern.

Main results:

* `Redaction.mem_replace` — nothing appears but what was there or is in the filler.
-/

import Mathlib.Data.List.Basic

namespace Redaction

variable {α : Type} [DecidableEq α] {pattern filler text : List α} {c : α}

/-- The rest of a text, of which so many characters still belong to the last occurrence. -/
def replaceFrom (pattern filler : List α) : ℕ → List α → List α
  | _, [] => []
  | skip + 1, _ :: rest => replaceFrom pattern filler skip rest
  | 0, c :: rest =>
    if pattern.isPrefixOf (c :: rest) then
      filler ++ replaceFrom pattern filler (pattern.length - 1) rest
    else
      c :: replaceFrom pattern filler 0 rest

def replace (pattern filler text : List α) : List α := replaceFrom pattern filler 0 text

example : replace [1, 1] [7] [0, 1, 1, 1, 2] = [0, 7, 1, 2] := by decide

theorem mem_replaceFrom {skip : ℕ} (h : c ∈ replaceFrom pattern filler skip text) :
    c ∈ text ∨ c ∈ filler := by
  induction text generalizing skip with
  | nil => exact .inl h
  | cons d rest ih =>
    cases skip with
    | succ => exact (ih h).imp (List.mem_cons_of_mem d) id
    | zero =>
      rw [replaceFrom] at h
      split at h
      · rcases List.mem_append.1 h with hfiller | hrest
        · exact .inr hfiller
        · exact (ih hrest).imp (List.mem_cons_of_mem d) id
      · rcases List.mem_cons.1 h with rfl | hrest
        · exact .inl List.mem_cons_self
        · exact (ih hrest).imp (List.mem_cons_of_mem d) id

theorem mem_replace (h : c ∈ replace pattern filler text) : c ∈ text ∨ c ∈ filler :=
  mem_replaceFrom h

/-- **A character that is replaced is gone.** -/
theorem notMem_replace_singleton (hc : c ∉ filler) : c ∉ replace [c] filler text := by
  unfold replace
  induction text with
  | nil => exact List.not_mem_nil
  | cons d rest ih =>
    rw [replaceFrom]
    split
    · rw [List.mem_append, not_or]
      exact ⟨hc, ih⟩
    · rename_i hnot
      rw [List.mem_cons, not_or]
      refine ⟨?_, ih⟩
      rintro rfl
      exact hnot (by simp)

theorem replace_singleton (hempty : pattern ≠ []) (hne : pattern ≠ [c]) :
    replace pattern filler [c] = [c] := by
  have hnot : ¬pattern.isPrefixOf [c] := by
    rw [List.isPrefixOf_iff_prefix, List.prefix_cons_iff]
    rintro (h | ⟨rest, h, hrest⟩)
    · exact hempty h
    · rw [List.prefix_nil.1 hrest] at h
      exact hne h
  rw [replace, replaceFrom, if_neg hnot, replaceFrom]

end Redaction
