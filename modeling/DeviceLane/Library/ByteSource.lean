/-
**Reading bytes from a source that delivers them in pieces.**

A byte source answers a request for at most `n` bytes with some of the bytes it still holds, and
with none only when it is exhausted. How it cuts them is its own business; readers recover exact
extents by asking again. This module develops that, for any source:

* `ByteSource` — a source, and `LawfulByteSource` — what it still holds and the laws of reading;
* `ByteSource.readExact` — exactly `n` bytes, or the end of the source;
* `Take` — a source limited to a number of bytes, and `Take.At` — it stands before given bytes.

Main result:

* `Take.readExact_at` — **an exact read inside the limit returns the bytes that come next**, and
  leaves the source standing after them, however the underlying source cuts them.
-/

import Mathlib.Data.List.Basic
import Mathlib.Data.Nat.Init
import Mathlib.Tactic.Common

/-- A source of bytes: `read n` delivers at most `n` of them. -/
class ByteSource (R : Type) where
  read : ℕ → R → List UInt8 × R

/-- The bytes a source still holds, and the laws of reading them. -/
class LawfulByteSource (R : Type) extends ByteSource R where
  remaining : R → List UInt8
  /-- What is read is what comes next. -/
  read_append : ∀ n r, (read n r).1 ++ remaining (read n r).2 = remaining r
  /-- No more than the requested number of bytes is read. -/
  read_length_le : ∀ n r, (read n r).1.length ≤ n
  /-- Nothing is read only when nothing is left. -/
  read_ne_nil : ∀ n r, n ≠ 0 → remaining r ≠ [] → (read n r).1 ≠ []

namespace ByteSource

def readExact {R : Type} [ByteSource R] (n : ℕ) (r : R) : Option (List UInt8) × R :=
  if n = 0 then
    (some [], r)
  else
    let (bs, r') := read n r
    if bs = [] then
      (none, r')
    else
      match readExact (n - bs.length) r' with
      | (some rest, r'') => (some (bs ++ rest), r'')
      | (none, r'') => (none, r'')
termination_by n
decreasing_by
  have : bs.length ≠ 0 := by simpa
  omega

end ByteSource

structure Take (R : Type) where
  inner : R
  limit : ℕ

namespace Take

variable {R : Type}

instance [ByteSource R] : ByteSource (Take R) where
  read n t :=
    if t.limit = 0 then
      ([], t)
    else
      let (bs, inner) := ByteSource.read (min n t.limit) t.inner
      (bs, { inner, limit := t.limit - bs.length })

/-- The source stands before `bs`, which exhausts the limit, and `tail` follows. -/
structure At [LawfulByteSource R] (bs tail : List UInt8) (t : Take R) : Prop where
  remaining_eq : LawfulByteSource.remaining t.inner = bs ++ tail
  limit_eq : t.limit = bs.length

/-- **An exact read inside the limit returns the bytes that come next.** -/
theorem readExact_at [LawfulByteSource R] {a b tail : List UInt8} {t : Take R}
    (h : At (a ++ b) tail t) :
    ∃ t', ByteSource.readExact a.length t = (some a, t') ∧ At b tail t' := by
  -- induction on the number of bytes still wanted; every piece delivered is a prefix of them
  induction hn : a.length using Nat.strong_induction_on generalizing a t with
  | _ n ih =>
    subst hn
    rw [ByteSource.readExact]
    rcases eq_or_ne a [] with rfl | ha
    · exact ⟨t, by simp, by simpa using h⟩
    · have hlen : a.length ≠ 0 := by simpa using ha
      have hlimit : t.limit ≠ 0 := by
        rw [h.limit_eq, List.length_append]
        omega
      have hmin : min a.length t.limit ≠ 0 := by omega
      set piece := ByteSource.read (min a.length t.limit) t.inner with hpiece
      have hread : ByteSource.read a.length t
          = (piece.1, (⟨piece.2, t.limit - piece.1.length⟩ : Take R)) := by
        show (if t.limit = 0 then _ else _) = _
        rw [if_neg hlimit]
      have happ : piece.1 ++ LawfulByteSource.remaining piece.2 = (a ++ b) ++ tail := by
        rw [← h.remaining_eq]
        exact LawfulByteSource.read_append _ _
      have hle : piece.1.length ≤ a.length :=
        Nat.le_trans (LawfulByteSource.read_length_le _ _) (Nat.min_le_left _ _)
      have hne : piece.1 ≠ [] := by
        refine LawfulByteSource.read_ne_nil _ _ hmin ?_
        rw [h.remaining_eq]
        simp [ha]
      obtain ⟨a', ha'⟩ : ∃ a', a = piece.1 ++ a' := by
        refine ⟨a.drop piece.1.length, ?_⟩
        have htake : piece.1 = a.take piece.1.length := by
          have := congrArg (List.take piece.1.length) happ
          rwa [List.take_left' rfl, List.append_assoc, List.take_append_of_le_length hle] at this
        conv_lhs => rw [← List.take_append_drop piece.1.length a, ← htake]
      have hpos : piece.1.length ≠ 0 := by simpa using hne
      have halen : a.length = piece.1.length + a'.length := by
        conv_lhs => rw [ha', List.length_append]
      have hat : At (a' ++ b) tail (⟨piece.2, t.limit - piece.1.length⟩ : Take R) := by
        refine ⟨?_, ?_⟩
        · rw [ha', List.append_assoc, List.append_assoc] at happ
          rw [List.append_assoc]
          exact List.append_cancel_left happ
        · have := h.limit_eq
          simp only [List.length_append] at this ⊢
          omega
      have hsub : a.length - piece.1.length = a'.length := by omega
      obtain ⟨t', ht', hb⟩ := ih a'.length (by omega) hat rfl
      refine ⟨t', ?_, hb⟩
      rw [if_neg hlen, hread]
      simp only [hne, if_false, hsub, ht']
      rw [← ha']

structure Consumed [LawfulByteSource R] (bs : List UInt8) (t t' : Take R) : Prop where
  remaining_eq : LawfulByteSource.remaining t.inner = bs ++ LawfulByteSource.remaining t'.inner
  limit_eq : t.limit = bs.length + t'.limit

theorem Consumed.refl [LawfulByteSource R] (t : Take R) : Consumed [] t t :=
  ⟨rfl, (Nat.zero_add _).symm⟩

theorem Consumed.append [LawfulByteSource R] {a b : List UInt8} {t t' t'' : Take R}
    (h : Consumed a t t') (h' : Consumed b t' t'') : Consumed (a ++ b) t t'' := by
  refine ⟨?_, ?_⟩
  · rw [h.remaining_eq, h'.remaining_eq, List.append_assoc]
  · rw [h.limit_eq, h'.limit_eq, List.length_append, Nat.add_assoc]

/-- **An exact read that succeeds has taken what it returns.** -/
theorem consumed_of_readExact [LawfulByteSource R] {n : ℕ} {bs : List UInt8} {t t' : Take R}
    (h : ByteSource.readExact n t = (some bs, t')) : bs.length = n ∧ Consumed bs t t' := by
  -- induction on the number of bytes still wanted
  induction n using Nat.strong_induction_on generalizing bs t t' with
  | _ n ih =>
    rw [ByteSource.readExact] at h
    by_cases hn : n = 0
    · rw [if_pos hn] at h
      cases h
      exact ⟨hn.symm, Consumed.refl t⟩
    rw [if_neg hn] at h
    by_cases hlimit : t.limit = 0
    · have hread : ByteSource.read n t = ([], t) := if_pos hlimit
      rw [hread] at h
      cases h
    set piece := ByteSource.read (min n t.limit) t.inner with hpiece
    have hread : ByteSource.read n t
        = (piece.1, (⟨piece.2, t.limit - piece.1.length⟩ : Take R)) := if_neg hlimit
    have hle : piece.1.length ≤ min n t.limit := LawfulByteSource.read_length_le _ _
    have htaken : Consumed piece.1 t ⟨piece.2, t.limit - piece.1.length⟩ := by
      refine ⟨(LawfulByteSource.read_append _ _).symm, ?_⟩
      change t.limit = piece.1.length + (t.limit - piece.1.length)
      omega
    rw [hread] at h
    dsimp only at h
    by_cases hnil : piece.1 = []
    · rw [if_pos hnil] at h
      cases h
    rw [if_neg hnil] at h
    have hpos : piece.1.length ≠ 0 := by simpa using hnil
    cases hrest : ByteSource.readExact (n - piece.1.length)
        (⟨piece.2, t.limit - piece.1.length⟩ : Take R) with
    | mk rest t'' =>
      rw [hrest] at h
      cases rest with
      | none => cases h
      | some =>
        cases h
        obtain ⟨_, hconsumed⟩ := ih (n - piece.1.length) (by omega) hrest
        refine ⟨?_, htaken.append hconsumed⟩
        rw [List.length_append]
        omega

end Take
