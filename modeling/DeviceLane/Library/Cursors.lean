/-
**Reading a sorted list in pages.**

The elements of a list are in the order of their keys. A reader holds a key, its cursor, and asks for
what lies beyond it; a page is a first part of that, and the key of its last element is the next cursor.

Main definitions:

* `Cursors.upTo`, `Cursors.beyond` — what lies up to a cursor, and beyond it.

Main results:

* `Cursors.upTo_of_seen` — **the next cursor lies where a page ends**.
-/

import Mathlib.Order.Lattice
import Mathlib.Data.List.Pairwise
import Mathlib.Data.List.Basic

namespace Cursors

variable {α κ : Type} [LinearOrder κ] (key : α → κ)

def Sorted (items : List α) : Prop := items.Pairwise fun a b => key a < key b

def upTo (cursor : κ) (items : List α) : List α := items.filter fun a => key a ≤ cursor

def beyond (cursor : κ) (items : List α) : List α := items.filter fun a => cursor < key a

variable {key}

theorem upTo_eq_self {cursor : κ} {items : List α} (h : ∀ a ∈ items, key a ≤ cursor) :
    upTo key cursor items = items :=
  List.filter_eq_self.2 fun a ha => decide_eq_true (h a ha)

theorem upTo_eq_nil {cursor : κ} {items : List α} (h : ∀ a ∈ items, cursor < key a) :
    upTo key cursor items = [] :=
  List.filter_eq_nil_iff.2 fun a ha hle => absurd (of_decide_eq_true hle) (not_le.2 (h a ha))

theorem upTo_append (cursor : κ) (items items' : List α) :
    upTo key cursor (items ++ items') = upTo key cursor items ++ upTo key cursor items' :=
  List.filter_append ..

/-- **A cursor cuts a sorted list in two.** -/
theorem upTo_append_beyond {items : List α} (h : Sorted key items) (cursor : κ) :
    upTo key cursor items ++ beyond key cursor items = items := by
  induction items with
  | nil => rfl
  | cons a items ih =>
    obtain ⟨hfirst, hrest⟩ := List.pairwise_cons.1 h
    by_cases ha : key a ≤ cursor
    · have hcons : upTo key cursor (a :: items) = a :: upTo key cursor items :=
        List.filter_cons_of_pos (decide_eq_true ha)
      have hskip : beyond key cursor (a :: items) = beyond key cursor items :=
        List.filter_cons_of_neg (by simpa using ha)
      rw [hcons, hskip, List.cons_append, ih hrest]
    · -- Everything after an element beyond the cursor is beyond it, too.
      have hlt : ∀ b ∈ a :: items, cursor < key b := by
        intro b hb
        rcases List.mem_cons.1 hb with rfl | hb
        · exact not_le.1 ha
        · exact (not_le.1 ha).trans (hfirst b hb)
      rw [upTo_eq_nil hlt, List.nil_append]
      exact List.filter_eq_self.2 fun b hb => decide_eq_true (hlt b hb)

theorem Sorted.le_getLast {items : List α} (h : Sorted key items) {last : α}
    (hlast : last ∈ items.getLast?) {a : α} (ha : a ∈ items) : key a ≤ key last := by
  obtain ⟨_, rfl⟩ := List.getLast?_eq_some_iff.1 hlast
  rcases List.mem_append.1 ha with ha | ha
  · exact le_of_lt ((List.pairwise_append.1 h).2.2 a ha last List.mem_cons_self)
  · rw [List.mem_singleton.1 ha]

/-- **The next cursor lies where a page ends.** -/
theorem upTo_of_seen {items seen unseen : List α} {cursor : κ} {last : α} (h : Sorted key items)
    (hseen : beyond key cursor items = seen ++ unseen) (hlast : last ∈ seen.getLast?) :
    upTo key (key last) items = upTo key cursor items ++ seen := by
  obtain ⟨before, hbefore⟩ : ∃ before, upTo key cursor items = before := ⟨_, rfl⟩
  have hcut := upTo_append_beyond h cursor
  rw [hseen, hbefore] at hcut
  subst hcut
  obtain ⟨-, hrest, hlt⟩ := List.pairwise_append.1 h
  obtain ⟨hpage, -, hafter⟩ := List.pairwise_append.1 hrest
  have hmem : last ∈ seen := List.mem_of_mem_getLast? hlast
  have hfirst : ∀ a ∈ before, key a ≤ key last := fun a ha =>
    le_of_lt (hlt a ha last (List.mem_append_left _ hmem))
  have hmiddle : ∀ a ∈ seen, key a ≤ key last := fun a ha => Sorted.le_getLast hpage hlast ha
  rw [hbefore, upTo_append, upTo_append, upTo_eq_self hfirst, upTo_eq_self hmiddle,
    upTo_eq_nil (hafter last hmem), List.append_nil]

theorem upTo_of_append {items new : List α} {cursor : κ} (h : ∀ a ∈ new, cursor < key a) :
    upTo key cursor (items ++ new) = upTo key cursor items := by
  rw [upTo_append, upTo_eq_nil h, List.append_nil]

end Cursors
