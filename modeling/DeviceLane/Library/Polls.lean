/-
**Reading a log by numbers.**

A reader of a log asks for the elements with a number above the largest one that it has seen. The log
grows at its end, and it can lose what it got last; an element that it has lost may come back. The
reader has caught up if it has seen all elements up to that largest number once, those among them that
the log has lost included.

Main definitions:

* `Polls.mark` — the largest number that a reader has seen.

Main results:

* `Polls.CaughtUp.poll` — **a reader that has caught up gets every element exactly once**.
-/

import Mathlib.Data.List.Count
import Mathlib.Data.List.Perm.Basic

namespace Polls

variable {ε : Type} (num : ε → ℕ)

def mark (seen : List ε) : ℕ := seen.foldr (fun e n => max (num e) n) 0

/-- All elements up to the mark have been seen once, those that the log has lost included. -/
def CaughtUp (lost log seen : List ε) : Prop :=
  seen.Perm (lost ++ log.filter fun e => num e ≤ mark num seen)

variable {num}

theorem le_mark {seen : List ε} {e : ε} (h : e ∈ seen) : num e ≤ mark num seen := by
  induction seen with
  | nil => exact absurd h List.not_mem_nil
  | cons first rest ih =>
    change num e ≤ max (num first) (mark num rest)
    rcases List.mem_cons.1 h with rfl | hrest
    · exact Nat.le_max_left _ _
    · exact Nat.le_trans (ih hrest) (Nat.le_max_right _ _)

theorem caughtUp_nil : CaughtUp num [] [] [] := List.Perm.refl []

variable {lost log seen : List ε}

theorem CaughtUp.mem_of_lost (h : CaughtUp num lost log seen) {e : ε} (he : e ∈ lost) : e ∈ seen :=
  h.mem_iff.2 (List.mem_append_left _ he)

theorem CaughtUp.append [DecidableEq ε] (h : CaughtUp num lost log seen) {new : List ε}
    (hnew : (new.filter fun e => num e ≤ mark num seen).Subperm lost) :
    CaughtUp num (lost.diff new) (log ++ new) seen := by
  have hback : (lost.diff new ++ new.filter fun e => num e ≤ mark num seen).Perm lost := by
    rw [List.perm_iff_count]
    intro e
    rw [List.count_append, List.count_diff]
    by_cases hlow : num e ≤ mark num seen
    · have hle := hnew.count_le e
      have hsame : (new.filter fun e => num e ≤ mark num seen).count e = new.count e :=
        List.count_filter (decide_eq_true (p := num e ≤ mark num seen) hlow)
      rw [hsame] at hle ⊢
      omega
    · -- an element above the mark was not lost
      have hlost : e ∉ lost := fun he => hlow (le_mark (h.mem_of_lost he))
      have hfiltered : e ∉ new.filter fun e => num e ≤ mark num seen :=
        fun he => hlow (of_decide_eq_true (List.mem_filter.1 he).2)
      rw [List.count_eq_zero_of_not_mem hlost, List.count_eq_zero_of_not_mem hfiltered]
      omega
  unfold CaughtUp
  rw [List.filter_append]
  refine h.trans ((hback.symm.append_right _).trans ?_)
  rw [List.append_assoc]
  exact List.perm_append_comm.append_left _

theorem CaughtUp.lose {kept gone : List ε} (h : CaughtUp num lost (kept ++ gone) seen)
    (hgone : ∀ e ∈ gone, num e ≤ mark num seen) : CaughtUp num (lost ++ gone) kept seen := by
  have hall : (gone.filter fun e => num e ≤ mark num seen) = gone :=
    List.filter_eq_self.2 fun e he => decide_eq_true (hgone e he)
  unfold CaughtUp at h ⊢
  rw [List.filter_append, hall] at h
  rw [List.append_assoc]
  exact h.trans (List.perm_append_comm.append_left _)

/-- **A reader that has caught up gets every element exactly once.** -/
theorem CaughtUp.poll (h : CaughtUp num lost log seen) :
    (seen ++ log.filter fun e => mark num seen < num e).Perm (lost ++ log) := by
  have hsplit : ((log.filter fun e => num e ≤ mark num seen)
      ++ log.filter fun e => mark num seen < num e).Perm log := by
    have hparts := List.filter_append_perm (fun e => decide (num e ≤ mark num seen)) log
    have habove : (log.filter fun e => mark num seen < num e)
        = log.filter fun e => !decide (num e ≤ mark num seen) := by
      refine List.filter_congr fun e _ => ?_
      rw [← decide_not]
      exact decide_eq_decide.2 Nat.not_le.symm
    rw [habove]
    exact hparts
  refine (h.append_right _).trans ?_
  rw [List.append_assoc]
  exact hsplit.append_left lost

theorem CaughtUp.next (h : CaughtUp num lost log seen) :
    CaughtUp num lost log (seen ++ log.filter fun e => mark num seen < num e) := by
  have hall : (log.filter fun e =>
      num e ≤ mark num (seen ++ log.filter fun e => mark num seen < num e)) = log :=
    List.filter_eq_self.2 fun e he =>
      decide_eq_true (le_mark (h.poll.mem_iff.2 (List.mem_append_right lost he)))
  unfold CaughtUp
  rw [hall]
  exact h.poll

end Polls
