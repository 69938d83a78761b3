/-
**Programs that do not panic.**

A program of type `Eff σ (Fault ε) α` returns a value, returns an error or panics. That it never
panics depends on what its states satisfy, and for a run of several programs each of them has to leave
the states so. Both are said at once here, as a triple with one invariant.

Main definitions:

* `Effect.PanicFree` — from the states with an invariant a program does not panic, and keeps it.

Main results:

* `Effect.PanicFree.bind`, `get`, `attempt_bind` and so on — the rules for the parts of a program.
-/

import DeviceLane.Library.Effect

namespace Effect

variable {σ τ ε ε' α β : Type}

def Regular (r : Except (Fault ε) α) : Prop := r ≠ .error .panicked

/-- From the states with `P` a program does not panic, and it ends in a state with `P`. -/
def PanicFree (P : σ → Prop) (m : Eff σ (Fault ε) α) : Prop := Triple P m fun r s => Regular r ∧ P s

theorem regular_ok (a : α) : Regular (.ok a : Except (Fault ε) α) := by
  intro h
  cases h

theorem regular_returned (error : ε) : Regular (.error (.returned error) : Except (Fault ε) α) := by
  intro h
  cases h

theorem Regular.error {fault : Fault ε} (h : Regular (.error fault : Except (Fault ε) α)) :
    Regular (.error fault : Except (Fault ε) β) := by
  intro hpanic
  cases hpanic
  exact h rfl

theorem regular_mapError_returned (onError : ε' → ε) (r : Except ε' α) :
    Regular (r.mapError fun error => Fault.returned (onError error)) := by
  cases r with
  | ok a => exact regular_ok a
  | error => exact regular_returned _

namespace PanicFree

variable {P : σ → Prop} {m : Eff σ (Fault ε) α}

theorem pure (a : α) : PanicFree P (Pure.pure a : Eff σ (Fault ε) α) :=
  Triple.pure fun _ hs => ⟨regular_ok a, hs⟩

theorem throw {fault : Fault ε} (h : Regular (.error fault : Except (Fault ε) α)) :
    PanicFree P (MonadExcept.throw fault : Eff σ (Fault ε) α) :=
  Triple.throw fun _ hs => ⟨h, hs⟩

theorem throwReturned (error : ε) :
    PanicFree P (MonadExcept.throw (Fault.returned error) : Eff σ (Fault ε) α) :=
  throw (regular_returned error)

theorem modify {f : σ → σ} (h : ∀ s, P s → P (f s)) :
    PanicFree P (modify f : Eff σ (Fault ε) PUnit) :=
  Triple.modify fun s hs => ⟨regular_ok _, h s hs⟩

/-- **The rule of sequence.** -/
theorem bind {f : α → Eff σ (Fault ε) β} (hm : PanicFree P m) (hf : ∀ a, PanicFree P (f a)) :
    PanicFree P (m >>= f) :=
  Triple.bind hm (fun _ _ h => ⟨h.1.error, h.2⟩) fun a s h => hf a s h.2

/-- Reading the state: the rest of the program may use that what it has read satisfies `P`. -/
theorem get {f : σ → Eff σ (Fault ε) β} (h : ∀ s, P s → PanicFree P (f s)) :
    PanicFree P (MonadState.get >>= f) :=
  fun s hs => h s hs s hs

theorem ite {c : Prop} [Decidable c] {m₁ m₂ : Eff σ (Fault ε) α} (h₁ : c → PanicFree P m₁)
    (h₂ : ¬c → PanicFree P m₂) : PanicFree P (if c then m₁ else m₂) :=
  Triple.ite h₁ h₂

theorem throwIf (c : Prop) [Decidable c] (error : ε) :
    PanicFree P (Effect.throwIf c (Fault.returned error)) :=
  ite (fun _ => throwReturned error) fun _ => pure ()

theorem okOr (o : Option α) (error : ε) : PanicFree P (Effect.okOr o (Fault.returned error)) := by
  cases o with
  | none => exact throwReturned error
  | some a => exact pure a

theorem okOr_some {o : Option α} (h : o.isSome) (fault : Fault ε) :
    PanicFree P (Effect.okOr o fault) := by
  obtain ⟨a, rfl⟩ := Option.isSome_iff_exists.1 h
  exact pure a

theorem orThrow {onError : ε' → Fault ε} {r : Except ε' α} (h : Regular (r.mapError onError)) :
    PanicFree P (Effect.orThrow onError r) :=
  fun _ hs => ⟨h, hs⟩

theorem orThrow_bind {onError : ε' → Fault ε} {r : Except ε' α} {f : α → Eff σ (Fault ε) β}
    (h : Regular (r.mapError onError)) (hf : ∀ a, r = .ok a → PanicFree P (f a)) :
    PanicFree P (Effect.orThrow onError r >>= f) := by
  intro s hs
  rw [exec_orThrow_bind]
  cases r with
  | error => exact ⟨h.error, hs⟩
  | ok a => exact hf a rfl s hs

theorem attempt_bind {f : Except (Fault ε) α → Eff σ (Fault ε) β} (hm : PanicFree P m)
    (hf : ∀ r, Regular r → PanicFree P (f r)) : PanicFree P (attempt m >>= f) :=
  fun s hs => hf _ (hm s hs).1 _ (hm s hs).2

theorem attempt_bind_of {m : Eff σ ε' α} {f : Except ε' α → Eff σ (Fault ε) β}
    (hm : ∀ s, P s → P (m.exec s).2) (hf : ∀ r, PanicFree P (f r)) : PanicFree P (attempt m >>= f) :=
  fun s hs => hf _ _ (hm s hs)

theorem onPart {get : σ → τ} {put : τ → σ → σ} {onError : ε' → Fault ε} {m : Eff τ ε' α}
    (hm : ∀ t, Regular ((m.exec t).1.mapError onError)) (hput : ∀ s, P s → P (put (m.exec (get s)).2 s)) :
    PanicFree P (Effect.onPart get put onError m) :=
  fun s hs => ⟨hm _, hput s hs⟩

/-- **An invariant holds after any programs that keep it without a panic.** -/
theorem foldl {ι : Type} {program : ι → Eff σ (Fault ε) α} (h : ∀ i, PanicFree P (program i))
    (inputs : List ι) {s : σ} (hs : P s) :
    P (inputs.foldl (fun s i => ((program i).exec s).2) s) :=
  Preserves.foldl (fun s i hs => (h i s hs).2) inputs s hs

end PanicFree

end Effect
