/-
**Lists in which the first one counts.**

Elements are told apart by a key. Elements that come in are appended to a list unless one with their key
is there already, so that of all that have come in with one key the first one stays, at its place.

Main definitions:

* `FirstOf.merge` — a list with what comes in.

Main results:

* `FirstOf.find?_merge` — **of all elements with one key, the first one is kept**.
-/

import Mathlib.Data.List.Nodup

namespace FirstOf

variable {α κ : Type} [DecidableEq κ] (key : α → κ)

def merge (existing incoming : List α) : List α :=
  incoming.foldl (fun existing a =>
    if existing.any fun current => key current = key a then existing else existing ++ [a]) existing

variable {key} {existing : List α}

@[simp] theorem merge_nil : merge key existing [] = existing := rfl

theorem merge_append (incoming later : List α) :
    merge key existing (incoming ++ later) = merge key (merge key existing incoming) later :=
  List.foldl_append

theorem merge_cons_of_mem {a : α} {incoming : List α} (h : ∃ current ∈ existing, key current = key a) :
    merge key existing (a :: incoming) = merge key existing incoming := by
  obtain ⟨current, hmem, hkey⟩ := h
  rw [merge, List.foldl_cons, if_pos (List.any_eq_true.2 ⟨current, hmem, decide_eq_true hkey⟩)]
  rfl

theorem merge_cons_of_new {a : α} {incoming : List α} (h : ∀ current ∈ existing, key current ≠ key a) :
    merge key existing (a :: incoming) = merge key (existing ++ [a]) incoming := by
  rw [merge, List.foldl_cons, if_neg]
  · rfl
  · rw [List.any_eq_true]
    rintro ⟨current, hmem, hkey⟩
    exact h current hmem (of_decide_eq_true hkey)

theorem merge_singleton {a : α} (h : ∀ current ∈ existing, key current ≠ key a) :
    merge key existing [a] = existing ++ [a] :=
  merge_cons_of_new h

theorem covered_or_new (key : α → κ) (existing : List α) (a : α) :
    (∃ current ∈ existing, key current = key a) ∨ ∀ current ∈ existing, key current ≠ key a := by
  by_cases h : ∃ current ∈ existing, key current = key a
  · exact .inl h
  · exact .inr fun current hmem hkey => h ⟨current, hmem, hkey⟩

theorem prefix_merge (existing incoming : List α) : existing <+: merge key existing incoming := by
  induction incoming generalizing existing with
  | nil => exact List.prefix_refl existing
  | cons a incoming ih =>
    rcases covered_or_new key existing a with hmem | hnew
    · rw [merge_cons_of_mem hmem]
      exact ih existing
    · rw [merge_cons_of_new hnew]
      exact (List.prefix_append existing [a]).trans (ih _)

theorem covered_merge {existing incoming : List α} {a : α} (h : a ∈ incoming) :
    ∃ current ∈ merge key existing incoming, key current = key a := by
  induction incoming generalizing existing with
  | nil => exact absurd h List.not_mem_nil
  | cons b incoming ih =>
    rcases covered_or_new key existing b with hmem | hnew
    · rw [merge_cons_of_mem hmem]
      rcases List.mem_cons.1 h with rfl | hrest
      · obtain ⟨current, hcurrent, hkey⟩ := hmem
        exact ⟨current, (prefix_merge existing incoming).subset hcurrent, hkey⟩
      · exact ih hrest
    · rw [merge_cons_of_new hnew]
      rcases List.mem_cons.1 h with rfl | hrest
      · have hlast : a ∈ existing ++ [a] := List.mem_append_right _ (List.mem_singleton_self a)
        exact ⟨a, (prefix_merge _ incoming).subset hlast, rfl⟩
      · exact ih hrest

theorem nodup_merge (h : (existing.map key).Nodup) (incoming : List α) :
    ((merge key existing incoming).map key).Nodup := by
  induction incoming generalizing existing with
  | nil => exact h
  | cons a incoming ih =>
    rcases covered_or_new key existing a with hmem | hnew
    · rw [merge_cons_of_mem hmem]
      exact ih h
    · rw [merge_cons_of_new hnew]
      refine ih ?_
      rw [List.map_append, List.map_singleton, List.nodup_append]
      refine ⟨h, List.nodup_singleton _, fun k hk k' hk' => ?_⟩
      obtain ⟨current, hcurrent, rfl⟩ := List.mem_map.1 hk
      rw [List.mem_singleton.1 hk']
      exact hnew current hcurrent

/-- **Of all elements with one key, the first one is kept.** -/
theorem find?_merge (existing incoming : List α) (k : κ) :
    (merge key existing incoming).find? (fun a => key a = k)
      = (existing ++ incoming).find? (fun a => key a = k) := by
  induction incoming generalizing existing with
  | nil => rw [merge_nil, List.append_nil]
  | cons a incoming ih =>
    rcases covered_or_new key existing a with hmem | hnew
    · rw [merge_cons_of_mem hmem, ih, List.find?_append, List.find?_append, List.find?_cons]
      split
      · -- the one that comes in is not the first one with its key
        rename_i hkey
        obtain ⟨current, hcurrent, hsame⟩ := hmem
        have hsome : (existing.find? fun a => key a = k).isSome := by
          rw [List.find?_isSome]
          exact ⟨current, hcurrent, decide_eq_true (hsame.trans (of_decide_eq_true hkey))⟩
        obtain ⟨found, hfound⟩ := Option.isSome_iff_exists.1 hsome
        rw [hfound, Option.some_or, Option.some_or]
      · rfl
    · rw [merge_cons_of_new hnew, ih, List.append_assoc, List.singleton_append]

theorem merge_of_covered {existing incoming : List α}
    (h : ∀ a ∈ incoming, ∃ current ∈ existing, key current = key a) :
    merge key existing incoming = existing := by
  induction incoming with
  | nil => rfl
  | cons a incoming ih =>
    rw [merge_cons_of_mem (h a List.mem_cons_self)]
    exact ih (List.forall_mem_cons.1 h).2

end FirstOf
