/-
**Fields with a separator between them.**

A text that joins fields with a separator can be taken apart again, as long as at most one of the fields
may hold the separator: the fields before it are read from the front, and those behind it from the end.

Main definitions:

* `Fields.behind` — fields behind a text, each with a separator in front of it.

Main results:

* `Fields.inFront_inj`, `Fields.behind_inj` — the fields and the text are found again.
-/

import Mathlib.Data.List.Basic
import Mathlib.Tactic.Common

namespace Fields

variable {α : Type} {sep : α}

theorem cons_inj_of_front {field field' rest rest' : List α} (hfield : sep ∉ field)
    (hfield' : sep ∉ field') (h : field ++ sep :: rest = field' ++ sep :: rest') :
    field = field' ∧ rest = rest' := by
  induction field generalizing field' with
  | nil =>
    cases field' with
    | nil => exact ⟨rfl, (List.cons.inj h).2⟩
    | cons => exact absurd ((List.cons.inj h).1 ▸ List.mem_cons_self) hfield'
  | cons first field ih =>
    cases field' with
    | nil => exact absurd ((List.cons.inj h).1 ▸ List.mem_cons_self) hfield
    | cons =>
      obtain ⟨hfirst, htail⟩ := List.cons.inj h
      obtain ⟨hsame, hrest⟩ := ih (fun hmem => hfield (List.mem_cons_of_mem _ hmem))
        (fun hmem => hfield' (List.mem_cons_of_mem _ hmem)) htail
      exact ⟨congrArg₂ _ hfirst hsame, hrest⟩

theorem cons_inj_of_end {field field' rest rest' : List α} (hfield : sep ∉ field)
    (hfield' : sep ∉ field') (h : rest ++ sep :: field = rest' ++ sep :: field') :
    rest = rest' ∧ field = field' := by
  have hreverse : field.reverse ++ sep :: rest.reverse = field'.reverse ++ sep :: rest'.reverse := by
    have hboth := congrArg List.reverse h
    rw [List.reverse_append, List.reverse_append, List.reverse_cons, List.reverse_cons,
      List.append_assoc, List.append_assoc] at hboth
    exact hboth
  obtain ⟨hlast, hrest⟩ := cons_inj_of_front (fun hmem => hfield (List.mem_reverse.1 hmem))
    (fun hmem => hfield' (List.mem_reverse.1 hmem)) hreverse
  exact ⟨List.reverse_injective hrest, List.reverse_injective hlast⟩

def inFront (sep : α) (fields : List (List α)) (text : List α) : List α :=
  fields.foldr (fun field rest => field ++ sep :: rest) text

def behind (sep : α) (text : List α) (fields : List (List α)) : List α :=
  fields.foldl (fun rest field => rest ++ sep :: field) text

/-- **Fields in front of a text are found again.** -/
theorem inFront_inj {fields fields' : List (List α)} {text text' : List α}
    (hlength : fields.length = fields'.length) (hfields : ∀ field ∈ fields, sep ∉ field)
    (hfields' : ∀ field ∈ fields', sep ∉ field) (h : inFront sep fields text = inFront sep fields' text') :
    fields = fields' ∧ text = text' := by
  induction fields generalizing fields' with
  | nil =>
    obtain rfl := List.length_eq_zero_iff.1 hlength.symm
    exact ⟨rfl, h⟩
  | cons field fields ih =>
    cases fields' with
    | nil => cases hlength
    | cons field' =>
      obtain ⟨hfirst, hrest⟩ := cons_inj_of_front (hfields field List.mem_cons_self)
        (hfields' field' List.mem_cons_self) h
      obtain ⟨hsame, htext⟩ := ih (Nat.succ.inj hlength)
        (List.forall_mem_cons.1 hfields).2
        (List.forall_mem_cons.1 hfields').2 hrest
      exact ⟨congrArg₂ _ hfirst hsame, htext⟩

/-- **Fields behind a text are found again.** -/
theorem behind_inj {fields fields' : List (List α)} {text text' : List α}
    (hlength : fields.length = fields'.length) (hfields : ∀ field ∈ fields, sep ∉ field)
    (hfields' : ∀ field ∈ fields', sep ∉ field) (h : behind sep text fields = behind sep text' fields') :
    text = text' ∧ fields = fields' := by
  induction fields generalizing fields' text text' with
  | nil =>
    obtain rfl := List.length_eq_zero_iff.1 hlength.symm
    exact ⟨h, rfl⟩
  | cons field fields ih =>
    cases fields' with
    | nil => cases hlength
    | cons field' =>
      obtain ⟨hfirst, hrest⟩ := ih (Nat.succ.inj hlength)
        (List.forall_mem_cons.1 hfields).2
        (List.forall_mem_cons.1 hfields').2 h
      obtain ⟨htext, hfield⟩ := cons_inj_of_end (hfields field List.mem_cons_self)
        (hfields' field' List.mem_cons_self) hfirst
      exact ⟨htext, congrArg₂ _ hfield hrest⟩

end Fields
