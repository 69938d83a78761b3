/-
**Programs that run alike until one of them fails.**

A program is compared with another one, over a state of its own. From related states they return the same
and end in related states again, or the first one has failed on its way; what is known then is not lost
by what the second one still does.

Main definitions:

* `Effect.Follows` — the first program follows the second one until it fails.

Main results:

* `Effect.Follows.bind`, `Effect.Follows.attempt` — **the rules of sequence**.
-/

import DeviceLane.Library.Effect

namespace Effect

variable {σ τ ε ε' α β : Type}

/-- From states related by `Same` the first program does as the second one, or it fails with `Failed`. -/
def Follows (Same Failed : σ → τ → Prop) (m : Eff σ ε α) (m' : Eff τ ε α) : Prop :=
  ∀ s t, Same s t →
    (m.exec s).1 = (m'.exec t).1 ∧ Same (m.exec s).2 (m'.exec t).2 ∨
      (∃ e, (m.exec s).1 = .error e) ∧ Failed (m.exec s).2 (m'.exec t).2

namespace Follows

variable {Same Failed : σ → τ → Prop} {R : τ → τ → Prop}

theorem pure (a : α) : Follows Same Failed (Pure.pure a : Eff σ ε α) (Pure.pure a) :=
  fun _ _ h => .inl ⟨rfl, h⟩

theorem throw (e : ε) : Follows Same Failed (MonadExcept.throw e : Eff σ ε α) (MonadExcept.throw e) :=
  fun _ _ h => .inl ⟨rfl, h⟩

/-- **The rule of sequence.**  After a failure the second program only moves along `R`, which keeps what is
known of it. -/
theorem bind {m : Eff σ ε α} {m' : Eff τ ε α} {f : α → Eff σ ε β} {f' : α → Eff τ ε β}
    (hkeeps : ∀ s t t', Failed s t → R t t' → Failed s t') (hm : Follows Same Failed m m')
    (hf : ∀ a, Follows Same Failed (f a) (f' a)) (hmoves : ∀ a, Within R (f' a)) :
    Follows Same Failed (m >>= f) (m' >>= f') := by
  intro s t hsame
  rw [exec_bind, exec_bind]
  rcases hm s t hsame with ⟨hresult, hafter⟩ | ⟨⟨e, hresult⟩, hfailed⟩
  · cases hrun : (m'.exec t).1 with
    | ok a =>
      rw [hrun] at hresult
      rw [hresult]
      exact hf a _ _ hafter
    | error =>
      rw [hrun] at hresult
      rw [hresult]
      exact .inl ⟨rfl, hafter⟩
  · rw [hresult]
    refine .inr ⟨⟨e, rfl⟩, ?_⟩
    cases hrun : (m'.exec t).1 with
    | ok a => exact hkeeps _ _ _ hfailed (hmoves a _)
    | error => exact hfailed

theorem ite {c : Prop} [Decidable c] {m₁ m₂ : Eff σ ε α} {m₁' m₂' : Eff τ ε α}
    (h₁ : c → Follows Same Failed m₁ m₁') (h₂ : ¬c → Follows Same Failed m₂ m₂') :
    Follows Same Failed (if c then m₁ else m₂) (if c then m₁' else m₂') := by
  split
  · exact h₁ ‹_›
  · exact h₂ ‹_›

/-- The rule for a program whose failure is looked at: what is done about it fails as well. -/
theorem attempt {m : Eff σ ε α} {m' : Eff τ ε α} {f : Except ε α → Eff σ ε' β}
    {f' : Except ε α → Eff τ ε' β} (hkeeps : ∀ s t t', Failed s t → R t t' → Failed s t')
    (hm : Follows Same Failed m m') (hf : ∀ a, Follows Same Failed (f (.ok a)) (f' (.ok a)))
    (herror : ∀ e, ∃ e', f (.error e) = MonadExcept.throw e' ∧ f' (.error e) = MonadExcept.throw e')
    (hmoves : ∀ r, Within R (f' r)) :
    Follows Same Failed (Effect.attempt m >>= f) (Effect.attempt m' >>= f') := by
  intro s t hsame
  rw [exec_bind, exec_bind, exec_attempt, exec_attempt]
  rcases hm s t hsame with ⟨hresult, hafter⟩ | ⟨⟨e, hresult⟩, hfailed⟩
  · dsimp only
    rw [hresult]
    cases hrun : (m'.exec t).1 with
    | ok a => exact hf a _ _ hafter
    | error e =>
      obtain ⟨e', hthrow, hthrow'⟩ := herror e
      rw [hthrow, hthrow']
      exact .inl ⟨rfl, hafter⟩
  · obtain ⟨e', hthrow, -⟩ := herror e
    dsimp only
    rw [hresult, hthrow]
    exact .inr ⟨⟨e', rfl⟩, hkeeps _ _ _ hfailed (hmoves _ _)⟩

end Follows

end Effect
