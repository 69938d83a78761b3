/-
**Cutting a byte string into parts of a fixed size.**

`Cut.cut n l` cuts `l` after every `n` entries. All parts but the last are full, and the last one is
never empty unless `l` is: a string that ends exactly at a boundary gets no empty part behind it.
This is the cut a buffered writer makes when it flushes a full buffer only once more input arrives.

Main results:

* `Cut.flatten_cut` — the parts put together again are the string.
-/

import Mathlib.Data.List.Basic
import Mathlib.Tactic.Common

namespace Cut

variable {α : Type}

/-- The parts of `l`, all of length `n` but the last. -/
def cut (n : ℕ) (l : List α) : List (List α) :=
  if n = 0 ∨ l.length ≤ n then
    [l]
  else
    l.take n :: cut n (l.drop n)
termination_by l.length
decreasing_by
  rw [List.length_drop]
  omega

theorem cut_of_le {n : ℕ} {l : List α} (h : l.length ≤ n) : cut n l = [l] := by
  rw [cut, if_pos (Or.inr h)]

theorem cut_append {n : ℕ} {a l : List α} (hn : n ≠ 0) (ha : a.length = n) (hl : l ≠ []) :
    cut n (a ++ l) = a :: cut n l := by
  have hpos : l.length ≠ 0 := by simpa using hl
  have hlong : ¬(n = 0 ∨ (a ++ l).length ≤ n) := by
    rw [List.length_append]
    omega
  rw [cut, if_neg hlong, List.take_left' ha, List.drop_left' ha]

theorem cut_eq_append {n : ℕ} {parts : List (List α)} {l : List α} (hn : n ≠ 0)
    (hparts : ∀ a ∈ parts, a.length = n) (hl : l ≠ []) :
    cut n (parts.flatten ++ l) = parts ++ cut n l := by
  induction parts with
  | nil => rfl
  | cons a parts ih =>
    have ha : a.length = n := hparts a List.mem_cons_self
    have htail := ih (List.forall_mem_cons.1 hparts).2
    rw [List.flatten_cons, List.append_assoc, cut_append hn ha (by simp [hl]), htail]
    rfl

theorem cut_ne_nil (n : ℕ) (l : List α) : cut n l ≠ [] := by
  rw [cut]
  split <;> simp

theorem flatten_cut (n : ℕ) (l : List α) : (cut n l).flatten = l := by
  induction hk : l.length using Nat.strongRecOn generalizing l with
  | ind k ih =>
    rw [cut]
    split
    · simp
    · have hdrop : (l.drop n).length = l.length - n := List.length_drop
      rw [List.flatten_cons, ih (l.drop n).length (by omega) _ rfl, List.take_append_drop]

theorem length_of_mem_cut {n : ℕ} {l a : List α} (hn : n ≠ 0) (hl : l ≠ []) (h : a ∈ cut n l) :
    a ≠ [] ∧ a.length ≤ n := by
  induction hk : l.length using Nat.strongRecOn generalizing l with
  | ind k ih =>
    rw [cut] at h
    split at h
    · obtain rfl : a = l := by simpa using h
      exact ⟨hl, by omega⟩
    · have hdrop : (l.drop n).length = l.length - n := List.length_drop
      rcases List.mem_cons.1 h with rfl | h
      · have htake : (l.take n).length = n := by
          rw [List.length_take]
          omega
        refine ⟨fun hnil => hn ?_, Nat.le_of_eq htake⟩
        rw [hnil] at htake
        exact htake.symm
      · refine ih (l.drop n).length (by omega) (fun hnil => ?_) h rfl
        have hzero : (l.drop n).length = 0 := by rw [hnil]; rfl
        omega

theorem cut_eq_concat {n : ℕ} {l : List α} (hn : n ≠ 0) (hl : l ≠ []) :
    ∃ parts last, cut n l = parts ++ [last] ∧ (∀ a ∈ parts, a.length = n) ∧ last ≠ []
      ∧ last.length ≤ n := by
  induction hk : l.length using Nat.strongRecOn generalizing l with
  | ind k ih =>
    by_cases hle : l.length ≤ n
    · exact ⟨[], l, cut_of_le hle, by simp, hl, hle⟩
    · have hdrop : (l.drop n).length = l.length - n := List.length_drop
      have hne : l.drop n ≠ [] := by
        intro hnil
        rw [hnil] at hdrop
        simp at hdrop
        omega
      obtain ⟨parts, last, hcut, hparts, hlast⟩ := ih _ (by omega) hne rfl
      refine ⟨l.take n :: parts, last, ?_, ?_, hlast⟩
      · rw [cut, if_neg (by omega), hcut]
        rfl
      · intro a ha
        rcases List.mem_cons.1 ha with rfl | ha
        · rw [List.length_take]
          omega
        · exact hparts a ha

theorem mul_le_length {n i : ℕ} {l : List α} (hn : n ≠ 0) (hl : l ≠ []) (h : i < (cut n l).length) :
    i * n ≤ l.length := by
  obtain ⟨parts, last, hcut, hfull, -, -⟩ := cut_eq_concat hn hl
  have hparts : parts.flatten.length = parts.length * n := by
    clear hcut
    induction parts with
    | nil => simp
    | cons part parts ih =>
      rw [List.flatten_cons, List.length_append, hfull part List.mem_cons_self,
        ih (List.forall_mem_cons.1 hfull).2, List.length_cons, Nat.succ_mul,
        Nat.add_comm]
  have hwhole : l.length = parts.length * n + last.length := by
    rw [← hparts, ← flatten_cut n l, hcut, List.flatten_concat, List.length_append]
  rw [hcut, List.length_append, List.length_singleton] at h
  have hle : i * n ≤ parts.length * n := Nat.mul_le_mul_right n (by omega)
  omega

theorem of_mem_zipIdx_cut {n : ℕ} {l : List α} (hn : n ≠ 0) (hl : l ≠ []) {k : ℕ}
    {part : List α × ℕ} (h : part ∈ (cut n l).zipIdx k) :
    ∃ j, part.2 = k + j ∧ part.1 = (l.drop (j * n)).take n ∧ j * n < l.length := by
  induction hlength : l.length using Nat.strongRecOn generalizing l k with
  | ind m ih =>
    rw [cut] at h
    split at h
    · rename_i hlast
      obtain rfl := List.mem_singleton.1 h
      refine ⟨0, rfl, ?_, ?_⟩
      · rw [Nat.zero_mul, List.drop_zero, List.take_of_length_le (by omega)]
      · have hpos := List.length_pos_iff.2 hl
        omega
    · rename_i hmore
      have hdrop : (l.drop n).length = l.length - n := List.length_drop
      rcases List.mem_cons.1 h with rfl | htail
      · exact ⟨0, rfl, by rw [Nat.zero_mul, List.drop_zero], by omega⟩
      · have hne : l.drop n ≠ [] := by
          intro hnil
          rw [hnil, List.length_nil] at hdrop
          omega
        obtain ⟨j, hindex, hpart, hinside⟩ := ih _ (by omega) hne htail rfl
        refine ⟨j + 1, by omega, ?_, ?_⟩
        · rw [hpart, List.drop_drop, Nat.succ_mul, Nat.add_comm n]
        · rw [Nat.succ_mul]
          omega

theorem length_le_mul {n : ℕ} {l : List α} (hn : n ≠ 0) (hl : l ≠ []) :
    l.length ≤ (cut n l).length * n := by
  have hparts : ∀ parts : List (List α), (∀ a ∈ parts, a.length ≤ n) →
      parts.flatten.length ≤ parts.length * n := by
    intro parts hall
    induction parts with
    | nil => simp
    | cons part parts ih =>
      have hfirst := hall part List.mem_cons_self
      have hrest := ih (List.forall_mem_cons.1 hall).2
      rw [List.flatten_cons, List.length_append, List.length_cons, Nat.succ_mul]
      omega
  have hle := hparts (cut n l) fun a ha => (length_of_mem_cut hn hl ha).2
  rwa [flatten_cut] at hle

end Cut
