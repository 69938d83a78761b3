/-
**Stateful programs that may fail.**

A program that reads and changes a state and may stop with an error is a value of
`Effect.Eff σ ε α`. As in most systems code an error does not undo the changes made before it, so
running a program from a state gives an outcome *and* a final state in either case.

This module fixes how such programs run and the rules by which facts about them compose:

* `Effect.Eff.exec` — the outcome and the final state of a run;
* `Effect.attempt` — the outcome of a program as a value, for callers that handle the error;
* `Effect.onPart` — a program on a part of the state as a program on the whole;
* `Effect.Triple` — what a program guarantees from the states satisfying a precondition;
* `Effect.Within` — the state moves along a given relation, whatever the outcome;
* `Effect.FailsWithin` — the state moves along a relation where the program fails;
* `Effect.Preserves` — the moves that keep an invariant;
* `Effect.Shadows` — a program runs as another one does on a part of its state.

The rules `Effect.Triple.bind` and `Effect.Within.bind` are the ones the proofs about concrete
programs are made of: the first carries facts from one statement to the next, the second composes
frame conditions and invariants, which are preorders on states.
-/

import Mathlib.Order.Defs.Unbundled

namespace Effect

/-- Programs over the state `σ` that stop with an error in `ε` or a value in `α`. -/
abbrev Eff (σ ε α : Type) : Type := ExceptT ε (StateM σ) α

/-- How a program stops whose errors are returned to the caller and which may also panic. -/
inductive Fault (ε : Type)
  | returned (error : ε)
  | panicked
  deriving DecidableEq, Repr

variable {σ τ ε ε' α β : Type}

/-- The outcome of running a program from a state, and the state it ends in. -/
def Eff.exec (m : Eff σ ε α) (s : σ) : Except ε α × σ := StateT.run (ExceptT.run m) s

def ofRun (f : σ → Except ε α × σ) : Eff σ ε α := ExceptT.mk (fun s => f s)

def attempt (m : Eff σ ε α) : Eff σ ε' (Except ε α) :=
  ofRun fun s => (.ok (m.exec s).1, (m.exec s).2)

def onPart (get : σ → τ) (put : τ → σ → σ) (onError : ε → ε') (m : Eff τ ε α) : Eff σ ε' α :=
  ofRun fun s => ((m.exec (get s)).1.mapError onError, put (m.exec (get s)).2 s)

def orThrow (onError : ε → ε') (r : Except ε α) : Eff σ ε' α := ofRun fun s => (r.mapError onError, s)

def okOr (o : Option α) (e : ε) : Eff σ ε α :=
  match o with
  | some a => pure a
  | none => throw e

def throwIf (c : Prop) [Decidable c] (e : ε) : Eff σ ε Unit := if c then throw e else pure ()

def failIf (c : Prop) [Decidable c] (e : ε) : Except ε Unit := if c then .error e else .ok ()

def onlyIf (c : Prop) [Decidable c] (m : Eff σ ε Unit) : Eff σ ε Unit := if c then m else pure ()

/-! ### Runs -/

@[simp] theorem exec_ofRun (f : σ → Except ε α × σ) (s : σ) : (ofRun f).exec s = f s := rfl

@[simp] theorem exec_pure (a : α) (s : σ) : (pure a : Eff σ ε α).exec s = (.ok a, s) := rfl

@[simp] theorem exec_throw (e : ε) (s : σ) : (throw e : Eff σ ε α).exec s = (.error e, s) := rfl

theorem exec_bind (m : Eff σ ε α) (f : α → Eff σ ε β) (s : σ) :
    (m >>= f).exec s =
      match (m.exec s).1 with
      | .ok a => (f a).exec (m.exec s).2
      | .error e => (.error e, (m.exec s).2) := by
  unfold Eff.exec ExceptT.run StateT.run
  simp only [bind, ExceptT.bind, ExceptT.mk, StateT.bind]
  rcases m s with ⟨r, _⟩
  cases r with
  | ok | error => rfl

theorem exec_bind_ok {m : Eff σ ε α} {f : α → Eff σ ε β} {s s' : σ} {a : α}
    (h : m.exec s = (.ok a, s')) : (m >>= f).exec s = (f a).exec s' := by
  rw [exec_bind, h]

theorem exec_bind_error {m : Eff σ ε α} {f : α → Eff σ ε β} {s s' : σ} {e : ε}
    (h : m.exec s = (.error e, s')) : (m >>= f).exec s = (.error e, s') := by
  rw [exec_bind, h]

theorem exec_bind_of {m : Eff σ ε α} {f : α → Eff σ ε β} {s s' : σ} {a : α} {r : Except ε β × σ}
    (h : m.exec s = (.ok a, s')) (hrest : (f a).exec s' = r) : (m >>= f).exec s = r :=
  (exec_bind_ok h).trans hrest

theorem exec_bind_inv {m : Eff σ ε α} {f : α → Eff σ ε β} {s s' : σ} {b : β}
    (h : (m >>= f).exec s = (.ok b, s')) :
    ∃ a s₁, m.exec s = (.ok a, s₁) ∧ (f a).exec s₁ = (.ok b, s') := by
  rw [exec_bind] at h
  rcases hm : m.exec s with ⟨r, s₁⟩
  rw [hm] at h
  cases r with
  | ok a => exact ⟨a, s₁, rfl, h⟩
  | error => cases h

@[simp] theorem exec_get (s : σ) : (get : Eff σ ε σ).exec s = (.ok s, s) := rfl

@[simp] theorem exec_set (s s' : σ) : (set s' : Eff σ ε PUnit).exec s = (.ok ⟨⟩, s') := rfl

@[simp] theorem exec_modify (f : σ → σ) (s : σ) :
    (modify f : Eff σ ε PUnit).exec s = (.ok ⟨⟩, f s) := rfl

@[simp] theorem exec_attempt (m : Eff σ ε α) (s : σ) :
    (attempt m : Eff σ ε' (Except ε α)).exec s = (.ok (m.exec s).1, (m.exec s).2) := rfl

theorem exec_attempt_of {m : Eff σ ε α} {s s' : σ} {r : Except ε α} (h : m.exec s = (r, s')) :
    (attempt m : Eff σ ε' (Except ε α)).exec s = (.ok r, s') := by
  rw [exec_attempt, h]

@[simp] theorem exec_onPart (get : σ → τ) (put : τ → σ → σ) (onError : ε → ε') (m : Eff τ ε α)
    (s : σ) : (onPart get put onError m).exec s =
      ((m.exec (get s)).1.mapError onError, put (m.exec (get s)).2 s) := rfl

@[simp] theorem exec_orThrow (onError : ε → ε') (r : Except ε α) (s : σ) :
    (orThrow onError r).exec s = (r.mapError onError, s) := rfl

theorem exec_orThrow_bind (onError : ε → ε') (r : Except ε α) (f : α → Eff σ ε' β) (s : σ) :
    (orThrow onError r >>= f).exec s =
      match r with
      | .ok a => (f a).exec s
      | .error e => (.error (onError e), s) := by
  cases r with
  | ok => exact exec_bind_ok rfl
  | error => exact exec_bind_error rfl

theorem exec_throwIf (c : Prop) [Decidable c] (e : ε) (s : σ) :
    (throwIf c e).exec s = (failIf c e, s) := by
  rw [throwIf, failIf]
  split <;> rfl

@[simp] theorem exec_throwIf_bind (c : Prop) [Decidable c] (e : ε) (f : Unit → Eff σ ε β) (s : σ) :
    (throwIf c e >>= f).exec s = if c then (.error e, s) else (f ()).exec s := by
  by_cases h : c
  · rw [if_pos h, throwIf, if_pos h, exec_bind, exec_throw]
  · rw [if_neg h, throwIf, if_neg h, exec_bind, exec_pure]

theorem exec_throwIf_of_not {c : Prop} [Decidable c] (h : ¬c) (e : ε) (s : σ) :
    (throwIf c e).exec s = (.ok (), s) := by
  rw [exec_throwIf, failIf, if_neg h]

theorem exec_onlyIf_of {c : Prop} [Decidable c] (h : c) (m : Eff σ ε Unit) (s : σ) :
    (onlyIf c m).exec s = m.exec s := by
  rw [onlyIf, if_pos h]

theorem exec_onlyIf_of_not {c : Prop} [Decidable c] (h : ¬c) (m : Eff σ ε Unit) (s : σ) :
    (onlyIf c m).exec s = (.ok (), s) := by
  rw [onlyIf, if_neg h, exec_pure]

theorem exec_throwIf_inv {c : Prop} [Decidable c] {e : ε} {f : Unit → Eff σ ε β} {s s' : σ} {b : β}
    (h : (throwIf c e >>= f).exec s = (.ok b, s')) : ¬c ∧ (f ()).exec s = (.ok b, s') := by
  rw [exec_throwIf_bind] at h
  split at h
  · cases h
  · exact ⟨‹_›, h⟩

theorem exec_orThrow_inv {onError : ε → ε'} {r : Except ε α} {f : α → Eff σ ε' β} {s s' : σ} {b : β}
    (h : (orThrow onError r >>= f).exec s = (.ok b, s')) :
    ∃ a, r = .ok a ∧ (f a).exec s = (.ok b, s') := by
  rw [exec_orThrow_bind] at h
  cases r with
  | ok a => exact ⟨a, rfl, h⟩
  | error => cases h

theorem exec_onPart_inv {get : σ → τ} {put : τ → σ → σ} {onError : ε → ε'} {m : Eff τ ε α}
    {s s' : σ} {a : α} (h : (onPart get put onError m).exec s = (.ok a, s')) :
    ∃ t, m.exec (get s) = (.ok a, t) ∧ s' = put t s := by
  rw [exec_onPart] at h
  rcases hm : m.exec (get s) with ⟨r, t⟩
  rw [hm] at h
  cases r with
  | ok =>
    cases h
    exact ⟨t, rfl, rfl⟩
  | error => cases h

theorem ok_bind (a : α) (f : α → Except ε β) : (Except.ok a >>= f) = f a := rfl

theorem error_bind (e : ε) (f : α → Except ε β) : (Except.error e >>= f) = .error e := rfl

theorem bind_eq_ok {r : Except ε α} {f : α → Except ε β} {b : β} :
    (r >>= f) = .ok b ↔ ∃ a, r = .ok a ∧ f a = .ok b := by
  cases r with
  | ok => simp [ok_bind]
  | error => simp [error_bind]

@[simp] theorem exec_okOr_some_bind (a : α) (e : ε) (f : α → Eff σ ε β) (s : σ) :
    (okOr (some a) e >>= f).exec s = (f a).exec s := exec_bind_ok rfl

@[simp] theorem exec_okOr_none_bind (e : ε) (f : α → Eff σ ε β) (s : σ) :
    (okOr none e >>= f).exec s = (.error e, s) := exec_bind_error rfl

theorem exec_okOr_inv {o : Option α} {e : ε} {f : α → Eff σ ε β} {s s' : σ} {b : β}
    (h : (okOr o e >>= f).exec s = (.ok b, s')) : ∃ a, o = some a ∧ (f a).exec s = (.ok b, s') := by
  cases o with
  | none =>
    rw [exec_okOr_none_bind] at h
    cases h
  | some a => exact ⟨a, rfl, by rwa [exec_okOr_some_bind] at h⟩

@[simp] theorem failIf_bind (c : Prop) [Decidable c] (e : ε) (f : Unit → Except ε β) :
    (failIf c e >>= f) = if c then .error e else f () := by
  rw [failIf]
  split <;> rfl

@[simp] theorem exec_ite (c : Prop) [Decidable c] (m₁ m₂ : Eff σ ε α) (s : σ) :
    (if c then m₁ else m₂).exec s = if c then m₁.exec s else m₂.exec s := by
  split <;> rfl

@[simp] theorem exec_liftExcept_ok (a : α) (s : σ) :
    (liftM (Except.ok a : Except ε α) : Eff σ ε α).exec s = (.ok a, s) := rfl

@[simp] theorem exec_liftExcept (r : Except ε α) (s : σ) :
    (liftM r : Eff σ ε α).exec s = (r, s) := by
  cases r with
  | ok | error => rfl

/-! ### Triples -/

/-- From every state satisfying `P`, the outcome and the final state satisfy `Q`. -/
def Triple (P : σ → Prop) (m : Eff σ ε α) (Q : Except ε α → σ → Prop) : Prop :=
  ∀ s, P s → Q (m.exec s).1 (m.exec s).2

namespace Triple

variable {P P' : σ → Prop} {Q Q' : Except ε α → σ → Prop} {m : Eff σ ε α}

theorem pure {a : α} (h : ∀ s, P s → Q (.ok a) s) : Triple P (Pure.pure a) Q := h

theorem throw {e : ε} (h : ∀ s, P s → Q (.error e) s) : Triple P (MonadExcept.throw e) Q := h

theorem modify {f : σ → σ} {Q : Except ε PUnit → σ → Prop} (h : ∀ s, P s → Q (.ok ⟨⟩) (f s)) :
    Triple P (modify f : Eff σ ε PUnit) Q := h

/-- **The rule of sequence.**  An error of the first program is the outcome of the whole. -/
theorem bind {f : α → Eff σ ε β} {Q : Except ε β → σ → Prop} {M : Except ε α → σ → Prop}
    (hm : Triple P m M) (herr : ∀ e s, M (.error e) s → Q (.error e) s)
    (hf : ∀ a, Triple (M (.ok a)) (f a) Q) : Triple P (m >>= f) Q := by
  intro s hs
  have hM := hm s hs
  rw [exec_bind]
  cases h : (m.exec s).1 with
  | ok a =>
    rw [h] at hM
    exact hf a _ hM
  | error e =>
    rw [h] at hM
    exact herr e _ hM

theorem get {f : σ → Eff σ ε β} {Q : Except ε β → σ → Prop}
    (h : ∀ s, P s → Triple (fun s' => s' = s) (f s) Q) :
    Triple P (MonadState.get >>= f) Q := by
  intro s hs
  exact h s hs s rfl

theorem ite {c : Prop} [Decidable c] {m₁ m₂ : Eff σ ε α}
    (h₁ : c → Triple P m₁ Q) (h₂ : ¬c → Triple P m₂ Q) : Triple P (if c then m₁ else m₂) Q := by
  split
  · exact h₁ ‹_›
  · exact h₂ ‹_›

end Triple

/-! ### One program as the shadow of another -/

/-- On the part `view` of its state `m` runs as `m'` does, with the same outcome. -/
def Shadows (view : σ → τ) (m : Eff σ ε α) (m' : Eff τ ε α) : Prop :=
  ∀ s, m'.exec (view s) = ((m.exec s).1, view (m.exec s).2)

namespace Shadows

variable {view : σ → τ} {m : Eff σ ε α} {m' : Eff τ ε α}

theorem pure (a : α) : Shadows view (Pure.pure a : Eff σ ε α) (Pure.pure a) := fun _ => rfl

theorem throw (e : ε) : Shadows view (MonadExcept.throw e : Eff σ ε α) (MonadExcept.throw e) :=
  fun _ => rfl

theorem lift (r : Except ε α) : Shadows view (liftM r : Eff σ ε α) (liftM r) := by
  intro _
  rw [exec_liftExcept, exec_liftExcept]

/-- **The rule of sequence for shadows.** -/
theorem bind {f : α → Eff σ ε β} {f' : α → Eff τ ε β} (hm : Shadows view m m')
    (hf : ∀ a, Shadows view (f a) (f' a)) : Shadows view (m >>= f) (m' >>= f') := by
  intro s
  have hrun := hm s
  rcases hexec : m.exec s with ⟨r, s'⟩
  rw [hexec] at hrun
  cases r with
  | ok a =>
    rw [exec_bind_ok hexec, exec_bind_ok hrun]
    exact hf a s'
  | error => rw [exec_bind_error hexec, exec_bind_error hrun]

theorem ite {c : Prop} [Decidable c] {m₁ m₂ : Eff σ ε α} {m₁' m₂' : Eff τ ε α}
    (h₁ : Shadows view m₁ m₁') (h₂ : Shadows view m₂ m₂') :
    Shadows view (if c then m₁ else m₂) (if c then m₁' else m₂') := by
  split
  · exact h₁
  · exact h₂

end Shadows

/-! ### Moves of the state -/

/-- Whatever the outcome, the state moves along `R`. -/
def Within (R : σ → σ → Prop) (m : Eff σ ε α) : Prop := ∀ s, R s (m.exec s).2

namespace Within

variable {R R' : σ → σ → Prop} {m : Eff σ ε α}

theorem mono (h : Within R m) (hle : ∀ s s', R s s' → R' s s') : Within R' m :=
  fun s => hle _ _ (h s)

theorem pure [Std.Refl R] (a : α) : Within R (Pure.pure a : Eff σ ε α) :=
  fun s => refl s

theorem throw [Std.Refl R] (e : ε) : Within R (MonadExcept.throw e : Eff σ ε α) :=
  fun s => refl s

theorem modify {f : σ → σ} (h : ∀ s, R s (f s)) : Within R (modify f : Eff σ ε PUnit) := h

theorem okOr [Std.Refl R] (o : Option α) (e : ε) : Within R (Effect.okOr o e) := by
  cases o with
  | none | some => exact fun s => refl s

theorem throwIf [Std.Refl R] (c : Prop) [Decidable c] (e : ε) : Within R (Effect.throwIf c e) := by
  intro s
  rw [exec_throwIf]
  exact refl s

theorem orThrow [Std.Refl R] (onError : ε' → ε) (r : Except ε' α) :
    Within R (Effect.orThrow onError r) :=
  fun s => refl s

theorem throwIf_bind [Std.Refl R] {c : Prop} [Decidable c] {e : ε} {f : Unit → Eff σ ε β}
    (h : ¬c → Within R (f ())) : Within R (Effect.throwIf c e >>= f) := by
  intro s
  rw [exec_throwIf_bind]
  split
  · exact refl s
  · exact h ‹_› s

/-- **The rule of sequence for moves.** -/
theorem bind [IsTrans σ R] {f : α → Eff σ ε β} (hm : Within R m) (hf : ∀ a, Within R (f a)) :
    Within R (m >>= f) := by
  intro s
  rw [exec_bind]
  cases h : (m.exec s).1 with
  | ok a => exact IsTrans.trans _ _ _ (hm s) (hf a _)
  | error => exact hm s

theorem get {f : σ → Eff σ ε β} (h : ∀ s, R s ((f s).exec s).2) :
    Within R (MonadState.get >>= f) := h

theorem attempt (h : Within R m) : Within R (Effect.attempt m : Eff σ ε' (Except ε α)) := h

theorem ite {c : Prop} [Decidable c] {m₁ m₂ : Eff σ ε α} (h₁ : c → Within R m₁)
    (h₂ : ¬c → Within R m₂) : Within R (if c then m₁ else m₂) := by
  split
  · exact h₁ ‹_›
  · exact h₂ ‹_›

end Within

/-- Where a program stops with an error, the state has moved along `R`. -/
def FailsWithin (R : σ → σ → Prop) (m : Eff σ ε α) : Prop :=
  ∀ s e, (m.exec s).1 = .error e → R s (m.exec s).2

namespace FailsWithin

variable {R S : σ → σ → Prop} {m : Eff σ ε α}

theorem of_within (h : Within R m) : FailsWithin R m := fun s _ _ => h s

/-- **The rule of sequence for failures.**  What comes before the failing program has succeeded, and
moved along `S`. -/
theorem bind {f : α → Eff σ ε β} (hm : FailsWithin R m)
    (hok : ∀ s a, (m.exec s).1 = .ok a → S s (m.exec s).2) (hf : ∀ a, FailsWithin R (f a))
    (htrans : ∀ s t u, S s t → R t u → R s u) : FailsWithin R (m >>= f) := by
  intro s e herror
  rw [exec_bind] at herror ⊢
  cases h : (m.exec s).1 with
  | ok a =>
    rw [h] at herror
    exact htrans _ _ _ (hok s a h) (hf a _ e herror)
  | error e' => exact hm s e' h

theorem bind_within [IsTrans σ R] {f : α → Eff σ ε β} (hm : Within R m)
    (hf : ∀ a, FailsWithin R (f a)) : FailsWithin R (m >>= f) :=
  bind (of_within hm) (fun s _ _ => hm s) hf fun _ _ _ => IsTrans.trans _ _ _

theorem get {f : σ → Eff σ ε β}
    (h : ∀ s e, ((f s).exec s).1 = .error e → R s ((f s).exec s).2) :
    FailsWithin R (MonadState.get >>= f) := h

end FailsWithin

def Preserves (P : σ → Prop) (s s' : σ) : Prop := P s → P s'

instance (P : σ → Prop) : Std.Refl (Preserves P) := ⟨fun _ h => h⟩

instance (P : σ → Prop) : IsTrans σ (Preserves P) where
  trans _ _ _ h h' hs := h' (h hs)

theorem Preserves.foldl {ι : Type} {P : σ → Prop} {step : σ → ι → σ}
    (hstep : ∀ s i, Preserves P s (step s i)) (inputs : List ι) (s : σ) :
    Preserves P s (inputs.foldl step s) := by
  induction inputs generalizing s with
  | nil => exact refl s
  | cons i inputs ih => exact IsTrans.trans _ _ _ (hstep s i) (ih (step s i))

end Effect
