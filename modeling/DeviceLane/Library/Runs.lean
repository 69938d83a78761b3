/-
**Runs of steps.**

A system takes one step for each input. Where its invariant survives a step exactly if the step meets a
condition, the invariant holds in every state of a run exactly if every step of the run meets the
condition where it is taken.

Main definitions:

* `Runs.AllSteps` — every step of a run meets a condition.

Main results:

* `Runs.always_iff_allSteps` — **an invariant holds throughout a run exactly if all steps keep it**.
-/

import Mathlib.Data.List.Basic

namespace Runs

variable {σ ι : Type} (step : σ → ι → σ)

/-- Every step of a run meets a condition in the state it is taken from. -/
def AllSteps (P : σ → ι → Prop) : List ι → σ → Prop
  | [], _ => True
  | input :: inputs, s => P s input ∧ AllSteps P inputs (step s input)

def SomeStep (P : σ → ι → Prop) (inputs : List ι) (s : σ) : Prop :=
  ∃ before input after, inputs = before ++ input :: after ∧ P (before.foldl step s) input

/-- Every state of a run, from the first one on, satisfies a predicate. -/
def Always (I : σ → Prop) (inputs : List ι) (s : σ) : Prop :=
  ∀ before after, inputs = before ++ after → I (before.foldl step s)

variable {step} {P : σ → ι → Prop} {I W : σ → Prop}

theorem always_nil {s : σ} : Always step I [] s ↔ I s := by
  constructor
  · intro h
    exact h [] [] rfl
  · intro h _ _ happend
    rw [(List.append_eq_nil_iff.1 happend.symm).1]
    exact h

theorem always_cons {input : ι} {inputs : List ι} {s : σ} :
    Always step I (input :: inputs) s ↔ I s ∧ Always step I inputs (step s input) := by
  constructor
  · intro h
    refine ⟨h [] _ rfl, fun before after happend => ?_⟩
    exact h (input :: before) after (by rw [happend, List.cons_append])
  · rintro ⟨hfirst, hrest⟩ before after happend
    cases before with
    | nil => exact hfirst
    | cons first before =>
      rw [List.cons_append, List.cons.injEq] at happend
      obtain ⟨rfl, happend⟩ := happend
      exact hrest before after happend

theorem Always.last {inputs : List ι} {s : σ} (h : Always step I inputs s) :
    I (inputs.foldl step s) :=
  h inputs [] (List.append_nil _).symm

theorem allSteps_append {before after : List ι} {s : σ} :
    AllSteps step P (before ++ after) s ↔
      AllSteps step P before s ∧ AllSteps step P after (before.foldl step s) := by
  induction before generalizing s with
  | nil => simp [AllSteps]
  | cons input inputs ih =>
    rw [List.cons_append, AllSteps, AllSteps, ih, List.foldl_cons, and_assoc]

theorem allSteps_map {κ : Type} {f : κ → ι} {inputs : List κ} {s : σ} :
    AllSteps step P (inputs.map f) s ↔
      AllSteps (fun s input => step s (f input)) (fun s input => P s (f input)) inputs s := by
  induction inputs generalizing s with
  | nil => exact Iff.rfl
  | cons input inputs ih =>
    rw [List.map_cons, AllSteps, AllSteps, ih]

theorem AllSteps.always (hstep : ∀ s i, I s → P s i → I (step s i)) {s : σ} (hI : I s)
    {inputs : List ι} (h : AllSteps step P inputs s) : Always step I inputs s := by
  induction inputs generalizing s with
  | nil => exact always_nil.2 hI
  | cons input inputs ih => exact always_cons.2 ⟨hI, ih (hstep s input hI h.1) h.2⟩

theorem always_of_step (hstep : ∀ s i, I s → I (step s i)) {s : σ} (hI : I s) (inputs : List ι) :
    Always step I inputs s := by
  induction inputs generalizing s with
  | nil => exact always_nil.2 hI
  | cons input inputs ih => exact always_cons.2 ⟨hI, ih (hstep s input hI)⟩

theorem AllSteps.mono {Q : σ → ι → Prop} {inputs : List ι} {s : σ} (h : AllSteps step P inputs s)
    (himp : ∀ s, ∀ input ∈ inputs, P s input → Q s input) : AllSteps step Q inputs s := by
  induction inputs generalizing s with
  | nil => trivial
  | cons input inputs ih =>
    refine ⟨himp s input List.mem_cons_self h.1, ih h.2 fun s other hmem => ?_⟩
    exact himp s other (List.mem_cons_of_mem input hmem)

theorem AllSteps.and {Q : σ → ι → Prop} {inputs : List ι} {s : σ} (hP : AllSteps step P inputs s)
    (hQ : AllSteps step Q inputs s) : AllSteps step (fun s input => P s input ∧ Q s input) inputs s := by
  induction inputs generalizing s with
  | nil => trivial
  | cons input inputs ih => exact ⟨⟨hP.1, hQ.1⟩, ih hP.2 hQ.2⟩

theorem AllSteps.imp {Q : σ → ι → Prop} (hstep : ∀ s i, I s → P s i → I (step s i) ∧ Q s i) {s : σ}
    (hI : I s) {inputs : List ι} (h : AllSteps step P inputs s) : AllSteps step Q inputs s := by
  induction inputs generalizing s with
  | nil => trivial
  | cons input inputs ih =>
    obtain ⟨hnext, hQ⟩ := hstep s input hI h.1
    exact ⟨hQ, ih hnext h.2⟩

theorem allSteps_of_mem {inputs : List ι} (h : ∀ s, ∀ input ∈ inputs, P s input) (s : σ) :
    AllSteps step P inputs s := by
  induction inputs generalizing s with
  | nil => trivial
  | cons input inputs ih =>
    refine ⟨h s input List.mem_cons_self, ih (fun s other hmem => ?_) (step s input)⟩
    exact h s other (List.mem_cons_of_mem input hmem)

theorem SomeStep.cons {inputs : List ι} {input : ι} {s : σ}
    (h : SomeStep step P inputs (step s input)) : SomeStep step P (input :: inputs) s := by
  obtain ⟨before, other, after, rfl, hother⟩ := h
  exact ⟨input :: before, other, after, rfl, hother⟩

theorem someStep_concat {inputs : List ι} {input : ι} {s : σ} :
    SomeStep step P (inputs ++ [input]) s ↔
      SomeStep step P inputs s ∨ P (inputs.foldl step s) input := by
  constructor
  · rintro ⟨before, other, after, happend, hother⟩
    rcases List.eq_nil_or_concat after with rfl | ⟨middle, last, rfl⟩
    · obtain ⟨rfl, hsingle⟩ := List.append_inj' happend rfl
      cases hsingle
      exact .inr hother
    · rw [List.concat_eq_append, ← List.cons_append, ← List.append_assoc] at happend
      obtain ⟨rfl, -⟩ := List.append_inj' happend rfl
      exact .inl ⟨before, other, middle, rfl, hother⟩
  · rintro (⟨before, other, after, rfl, hother⟩ | hlast)
    · exact ⟨before, other, after ++ [input], by simp, hother⟩
    · exact ⟨inputs, input, [], rfl, hlast⟩

theorem AllSteps.kept_or {Q : σ → ι → Prop} (hstep : ∀ s i, I s → P s i → I (step s i) ∨ Q s i) {s : σ}
    (hI : I s) {inputs : List ι} (h : AllSteps step P inputs s) :
    I (inputs.foldl step s) ∨ SomeStep step Q inputs s := by
  induction inputs generalizing s with
  | nil => exact .inl hI
  | cons input inputs ih =>
    rcases hstep s input hI h.1 with hnext | hdone
    · exact (ih hnext h.2).imp id SomeStep.cons
    · exact .inr ⟨[], input, inputs, rfl, hdone⟩

/-- **An invariant holds throughout a run exactly if all steps keep it.**  The steps are judged under
what holds of all states anyway. -/
theorem always_iff_allSteps (hW : ∀ s i, W s → W (step s i))
    (hstep : ∀ s i, W s → I s → (I (step s i) ↔ P s i)) {s : σ} (hs : W s) (hI : I s)
    (inputs : List ι) : Always step I inputs s ↔ AllSteps step P inputs s := by
  induction inputs generalizing s with
  | nil => simp [always_nil, AllSteps, hI]
  | cons input inputs ih =>
    rw [always_cons, AllSteps]
    constructor
    · rintro ⟨-, hrest⟩
      have hnext : I (step s input) := hrest [] _ rfl
      exact ⟨(hstep s input hs hI).1 hnext, (ih (hW s input hs) hnext).1 hrest⟩
    · rintro ⟨hkeeps, hrest⟩
      have hnext : I (step s input) := (hstep s input hs hI).2 hkeeps
      exact ⟨hI, (ih (hW s input hs) hnext).2 hrest⟩

end Runs
