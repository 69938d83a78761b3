/-
**Selecting by a key.**

A loop over a list that keeps the last of the elements whose key is largest. Where different elements
have different keys there is only one such element, and the loop gives the same for every order of the
list.

Main definitions:

* `Selection.lastMax` — the last of the elements whose key is largest.

Main results:

* `Selection.lastMax_eq_some_iff` — **the loop finds the element on top**.
-/

import Mathlib.Data.List.Basic
import Mathlib.Order.Lattice

namespace Selection

variable {α κ : Type} [LinearOrder κ] {key : α → κ} {l l' : List α} {a b : α}

def lastMaxFrom (key : α → κ) (best : Option α) (l : List α) : Option α :=
  l.foldl
    (fun best a =>
      match best with
      | none => some a
      | some best => if key best ≤ key a then some a else some best)
    best

def lastMax (key : α → κ) (l : List α) : Option α := lastMaxFrom key none l

structure IsTop (key : α → κ) (s : α → Prop) (a : α) : Prop where
  mem : s a
  lt : ∀ b, s b → b ≠ a → key b < key a

theorem IsTop.unique {s : α → Prop} (ha : IsTop key s a) (hb : IsTop key s b) : a = b := by
  by_contra hne
  have hlt := hb.lt a ha.mem hne
  exact lt_asymm hlt (ha.lt b hb.mem (Ne.symm hne))

/-! ### The loop -/

theorem lastMaxFrom_none (a : α) (l : List α) :
    lastMaxFrom key none (a :: l) = lastMaxFrom key (some a) l := rfl

theorem lastMaxFrom_some (best a : α) (l : List α) : lastMaxFrom key (some best) (a :: l) =
    lastMaxFrom key (if key best ≤ key a then some a else some best) l := rfl

theorem exists_lastMaxFrom (best : α) (l : List α) :
    ∃ a, lastMaxFrom key (some best) l = some a ∧ (a = best ∨ a ∈ l) ∧ key best ≤ key a ∧
      ∀ b ∈ l, key b ≤ key a := by
  induction l generalizing best with
  | nil => exact ⟨best, rfl, .inl rfl, le_refl _, List.forall_mem_nil _⟩
  | cons c l ih =>
    rw [lastMaxFrom_some]
    by_cases hle : key best ≤ key c
    · obtain ⟨a, heq, hmem, hbest, hall⟩ := ih c
      rw [if_pos hle, heq]
      refine ⟨a, rfl, .inr ?_, le_trans hle hbest, ?_⟩
      · rcases hmem with rfl | hmem
        · exact List.mem_cons_self
        · exact List.mem_cons_of_mem _ hmem
      · intro b hb
        rcases List.mem_cons.1 hb with rfl | hb
        · exact hbest
        · exact hall b hb
    · obtain ⟨a, heq, hmem, hbest, hall⟩ := ih best
      rw [if_neg hle, heq]
      refine ⟨a, rfl, hmem.imp_right (List.mem_cons_of_mem _), hbest, ?_⟩
      intro b hb
      rcases List.mem_cons.1 hb with rfl | hb
      · exact le_trans (le_of_not_ge hle) hbest
      · exact hall b hb

theorem lastMax_eq_none_iff : lastMax key l = none ↔ l = [] := by
  cases l with
  | nil => exact ⟨fun _ => rfl, fun _ => rfl⟩
  | cons a l =>
    obtain ⟨_, heq, -⟩ := @exists_lastMaxFrom α κ _ key a l
    rw [lastMax, lastMaxFrom_none, heq]
    exact ⟨nofun, nofun⟩

theorem lastMax_eq_some (h : lastMax key l = some a) : a ∈ l ∧ ∀ b ∈ l, key b ≤ key a := by
  cases l with
  | nil => cases h
  | cons c l =>
    obtain ⟨b, heq, hmem, hbest, hall⟩ := @exists_lastMaxFrom α κ _ key c l
    rw [lastMax, lastMaxFrom_none, heq] at h
    cases h
    refine ⟨?_, ?_⟩
    · rcases hmem with rfl | hmem
      · exact List.mem_cons_self
      · exact List.mem_cons_of_mem _ hmem
    · intro b hb
      rcases List.mem_cons.1 hb with rfl | hb
      · exact hbest
      · exact hall b hb

theorem lastMax_key_congr {β : Type} {key' : β → κ} {m : List β} (h : (l.map key).Perm (m.map key')) :
    (lastMax key l).map key = (lastMax key' m).map key' := by
  cases hl : lastMax key l with
  | none =>
    rw [lastMax_eq_none_iff.1 hl, List.map_nil] at h
    rw [List.map_eq_nil_iff.1 h.nil_eq.symm]
    rfl
  | some =>
    cases hm : lastMax key' m with
    | none =>
      rw [lastMax_eq_none_iff.1 hm, List.map_nil] at h
      rw [List.map_eq_nil_iff.1 h.eq_nil] at hl
      cases hl
    | some =>
      obtain ⟨ha, hmaxA⟩ := lastMax_eq_some hl
      obtain ⟨hb, hmaxB⟩ := lastMax_eq_some hm
      obtain ⟨c, hc, hkey⟩ := List.mem_map.1 (h.mem_iff.1 (List.mem_map_of_mem ha))
      obtain ⟨d, hd, hkey'⟩ := List.mem_map.1 (h.mem_iff.2 (List.mem_map_of_mem hb))
      exact congrArg some (le_antisymm (hkey ▸ hmaxB c hc) (hkey' ▸ hmaxA d hd))

/-! ### Different keys -/

/-- **The loop finds the element on top**, where different elements have different keys. -/
theorem lastMax_eq_some_iff (hkeys : ∀ a ∈ l, ∀ b ∈ l, key a = key b → a = b) :
    lastMax key l = some a ↔ IsTop key (· ∈ l) a := by
  have htop : ∀ c, lastMax key l = some c → IsTop key (· ∈ l) c := by
    intro c hc
    obtain ⟨hmem, hall⟩ := lastMax_eq_some hc
    exact ⟨hmem, fun b hb hne => lt_of_le_of_ne (hall b hb) fun heq => hne (hkeys b hb c hmem heq)⟩
  refine ⟨htop a, ?_⟩
  intro ha
  cases hfound : lastMax key l with
  | none =>
    rw [lastMax_eq_none_iff.1 hfound] at ha
    exact absurd ha.mem List.not_mem_nil
  | some c => rw [(htop c hfound).unique ha]

end Selection
