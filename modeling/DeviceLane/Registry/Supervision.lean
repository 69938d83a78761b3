/-
**The status of the registry.**

The listener of the registry runs under `supervise_with`, which publishes how it has ended; every
connection is handled under `supervise_dispatcher`, which records a panic for the listener to publish,
and publishes it itself where the listener has already published a clean stop. A panic is recorded
under one mutex and published under another, and so is what the listener finds: between the two mutexes
a dispatcher may record its panic and find that nothing has been published yet.

Main definitions:

* `Registry.Supervision` — the listener, the dispatchers and what they share.

Main results:

* `Registry.Supervision.reports_of_timely` — **without such a step the status is right**.
-/

import DeviceLane.Library.Runs

namespace Registry

/-! ### The listener and the dispatchers -/

inductive RegistryRuntimeState
  | running
  | stopped
  | failed (code : String)
  deriving DecidableEq, Repr

inductive OperationEnd
  | returned
  | failed (error : String)
  | panicked
  deriving DecidableEq, Repr

/-- Where a call of `supervise_with` is: in its operation, after it, after `before_publish`, with the
failure code taken, or back. -/
inductive Listening
  | operating
  | ended (outcome : OperationEnd)
  | closed (outcome : OperationEnd)
  | taken (outcome : OperationEnd) (state : RegistryRuntimeState) (result : Except String Unit)
  | returned (outcome : OperationEnd) (result : Except String Unit)
  deriving DecidableEq

/-- Where a call of `supervise_dispatcher` is: in its operation, or back from one that has returned;
after a panic it takes the mutex of the admission, sets the flag that stops the listener, sets the
failure code, and reads the status. -/
inductive Dispatching
  | operating
  | panicked
  | admitted
  | stopping
  | coded
  | returned (result : Except String Unit)
  deriving DecidableEq

structure Supervision where
  status : RegistryRuntimeState
  failureCode : Option String
  stopping : Bool
  /-- The dispatcher that holds the mutex of the admission. -/
  admission : Option ℕ
  listening : Listening
  dispatching : List Dispatching
  deriving DecidableEq

def publication (failureCode : Option String) (outcome : OperationEnd) :
    RegistryRuntimeState × Except String Unit :=
  match failureCode with
  | some code => (.failed code, .error code)
  | none =>
    match outcome with
    | .returned => (.stopped, .ok ())
    | .failed error => (.failed "registry_listener_failed", .error error)
    | .panicked => (.failed "registry_listener_panicked", .error "registry listener panicked")

/-- What happens next: the listener takes a step, a dispatcher is called, or a dispatcher takes a step.
How an operation ends is of interest only where it does so. -/
inductive SupervisionStep
  | listener (outcome : OperationEnd)
  | call
  | dispatcher (i : ℕ) (panics : Bool)
  deriving DecidableEq

namespace Supervision

/-- The registry at its start. -/
def started : Supervision :=
  { status := .running
    failureCode := none
    stopping := false
    admission := none
    listening := .operating
    dispatching := [] }

def superviseWith (outcome : OperationEnd) (s : Supervision) : Supervision :=
  match s.listening with
  | .operating => { s with listening := .ended outcome }
  | .ended outcome => { s with stopping := true, listening := .closed outcome }
  | .closed outcome =>
    { s with
      failureCode := none
      listening := .taken outcome (publication s.failureCode outcome).1
        (publication s.failureCode outcome).2 }
  | .taken outcome state result =>
    match s.status with
    | .failed code => { s with listening := .returned outcome (.error code) }
    | _ => { s with status := state, listening := .returned outcome result }
  | .returned _ _ => s

def workerPanicked : RegistryRuntimeState → RegistryRuntimeState
  | .stopped => .failed "registry_worker_panicked"
  | state => state

def superviseDispatcher (i : ℕ) (panics : Bool) (s : Supervision) : Supervision :=
  match s.dispatching[i]? with
  | some .operating =>
    { s with dispatching := s.dispatching.set i (if panics then .panicked else .returned (.ok ())) }
  | some .panicked =>
    if s.admission = none then
      { s with admission := some i, dispatching := s.dispatching.set i .admitted }
    else
      s
  | some .admitted => { s with stopping := true, dispatching := s.dispatching.set i .stopping }
  | some .stopping =>
    { s with
      failureCode := some "registry_worker_panicked"
      dispatching := s.dispatching.set i .coded }
  | some .coded =>
    { s with
      status := workerPanicked s.status
      admission := none
      dispatching := s.dispatching.set i (.returned (.error "registry worker panicked")) }
  | some (.returned _) | none => s

def next (s : Supervision) : SupervisionStep → Supervision
  | .listener outcome => s.superviseWith outcome
  | .call => { s with dispatching := s.dispatching ++ [.operating] }
  | .dispatcher i panics => s.superviseDispatcher i panics

/-! ### What has happened -/

end Supervision

namespace Dispatching

def hasPanicked : Dispatching → Bool
  | .operating | .returned (.ok _) => false
  | _ => true

def hasCoded : Dispatching → Bool
  | .coded | .returned (.error _) => true
  | _ => false

def hasReported : Dispatching → Bool
  | .returned (.error _) => true
  | _ => false

def isBack : Dispatching → Bool
  | .returned _ => true
  | _ => false

theorem hasReported_of_back {d : Dispatching} (hback : d.isBack) (hpanicked : d.hasPanicked) :
    d.hasReported := by
  cases d with
  | returned result =>
    cases result with
    | ok => cases hpanicked
    | error => rfl
  | _ => cases hback

theorem hasCoded_of_hasReported {d : Dispatching} (h : d.hasReported) : d.hasCoded := by
  cases d with
  | returned result =>
    cases result with
    | ok => cases h
    | error => rfl
  | _ => cases h

end Dispatching

/-- How the operation of the listener has ended, if it has. -/
def Listening.outcome : Listening → Option OperationEnd
  | .operating => none
  | .ended outcome | .closed outcome | .taken outcome _ _ | .returned outcome _ => some outcome

def Listening.isBack : Listening → Bool
  | .returned _ _ => true
  | _ => false

namespace Supervision

variable {i : ℕ} {new old : Dispatching} {s : Supervision}

/-- Something has failed: a dispatcher has panicked, or the operation of the listener has not returned
what it should. -/
def Faulty (s : Supervision) : Prop :=
  (∃ d ∈ s.dispatching, d.hasPanicked) ∨ ∃ outcome ∈ s.listening.outcome, outcome ≠ .returned

def AllBack (s : Supervision) : Prop := s.listening.isBack ∧ ∀ d ∈ s.dispatching, d.isBack

def verdict (s : Supervision) : Option (OperationEnd × RegistryRuntimeState) :=
  match s.listening with
  | .taken outcome state _ => some (outcome, state)
  | .returned outcome _ => some (outcome, s.status)
  | _ => none

structure Sound (s : Supervision) : Prop where
  running : s.listening.isBack = false → s.status = .running
  coded : s.verdict = none → (∃ d ∈ s.dispatching, d.hasCoded) → s.failureCode.isSome
  blamed : s.failureCode.isSome → ∃ d ∈ s.dispatching, d.hasPanicked
  verdict_ne : ∀ outcome state, s.verdict = some (outcome, state) → state ≠ .running
  verdict_faulty : ∀ outcome state, s.verdict = some (outcome, state) → state ≠ .stopped → s.Faulty
  verdict_failed : ∀ outcome state, s.verdict = some (outcome, state) → outcome ≠ .returned →
    state ≠ .stopped

theorem sound_started : started.Sound where
  running _ := rfl
  coded _ h := by simp [started] at h
  blamed h := by cases h
  verdict_ne _ _ h := by cases h
  verdict_faulty _ _ h := by cases h
  verdict_failed _ _ h := by cases h

/-! ### A step of a dispatcher -/

theorem exists_mem_set {α : Type} {l : List α} {old new : α} (hold : l[i]? = some old) {p : α → Prop}
    (hnew : p old → p new) (h : ∃ d ∈ l, p d) : ∃ d ∈ l.set i new, p d := by
  obtain ⟨d, hmem, hd⟩ := h
  obtain ⟨j, hj⟩ := List.mem_iff_getElem?.1 hmem
  by_cases hij : i = j
  · subst hij
    rw [hold] at hj
    cases hj
    have hlength : i < l.length := (List.getElem?_eq_some_iff.1 hold).1
    exact ⟨new, List.mem_iff_getElem?.2 ⟨i, by simp [hlength]⟩, hnew hd⟩
  · exact ⟨d, List.mem_iff_getElem?.2 ⟨j, by rw [List.getElem?_set_ne hij, hj]⟩, hd⟩

theorem Faulty.set {s' : Supervision} (h : s.Faulty) (hold : s.dispatching[i]? = some old)
    (hnew : old.hasPanicked → new.hasPanicked) (hlistening : s'.listening = s.listening)
    (hdispatching : s'.dispatching = s.dispatching.set i new) : s'.Faulty := by
  rw [Faulty, hlistening, hdispatching]
  exact h.imp (exists_mem_set hold hnew) id

theorem Sound.move (h : s.Sound) (hold : s.dispatching[i]? = some old)
    (hnew : old.hasPanicked → new.hasPanicked) (hcoded : new.hasCoded = false) (stopping : Bool)
    (admission : Option ℕ) :
    ({ s with stopping, admission, dispatching := s.dispatching.set i new } : Supervision).Sound where
  running := h.running
  coded hverdict hd := by
    obtain ⟨d, hmem, hd⟩ := hd
    rcases List.mem_or_eq_of_mem_set hmem with hmem | rfl
    · exact h.coded hverdict ⟨d, hmem, hd⟩
    · rw [hcoded] at hd
      cases hd
  blamed hsome := exists_mem_set hold hnew (h.blamed hsome)
  verdict_ne := h.verdict_ne
  verdict_faulty outcome state hverdict hstate :=
    (h.verdict_faulty outcome state hverdict hstate).set hold hnew rfl rfl
  verdict_failed := h.verdict_failed

theorem Sound.code (h : s.Sound) (hold : s.dispatching[i]? = some old) :
    ({ s with
      failureCode := some "registry_worker_panicked"
      dispatching := s.dispatching.set i .coded } : Supervision).Sound where
  running := h.running
  coded _ _ := rfl
  blamed _ := by
    have hlength : i < s.dispatching.length := (List.getElem?_eq_some_iff.1 hold).1
    exact ⟨.coded, List.mem_iff_getElem?.2 ⟨i, by simp [hlength]⟩, rfl⟩
  verdict_ne := h.verdict_ne
  verdict_faulty outcome state hverdict hstate :=
    (h.verdict_faulty outcome state hverdict hstate).set hold (fun _ => rfl) rfl rfl
  verdict_failed := h.verdict_failed

theorem workerPanicked_ne_stopped (state : RegistryRuntimeState) :
    workerPanicked state ≠ .stopped := by
  cases state <;> simp [workerPanicked]

theorem workerPanicked_ne_running {state : RegistryRuntimeState} (h : state ≠ .running) :
    workerPanicked state ≠ .running := by
  cases state <;> simp_all [workerPanicked]

/-- The verdict once a dispatcher has read the status: a clean stop is no longer published. -/
theorem verdict_report {outcome : OperationEnd} {state : RegistryRuntimeState} (h : ({ s with
      status := workerPanicked s.status
      admission := none
      dispatching := s.dispatching.set i new } : Supervision).verdict = some (outcome, state)) :
    (∃ result, s.listening = .taken outcome state result) ∨
      ∃ result, s.listening = .returned outcome result ∧ state = workerPanicked s.status := by
  cases hlistening : s.listening <;> simp_all [verdict]

theorem Sound.report (h : s.Sound) (hold : s.dispatching[i]? = some .coded) (error : String) :
    ({ s with
      status := workerPanicked s.status
      admission := none
      dispatching := s.dispatching.set i (.returned (.error error)) } : Supervision).Sound := by
  have hmem : Dispatching.coded ∈ s.dispatching := List.mem_iff_getElem?.2 ⟨i, hold⟩
  have hpanicked : ∃ d ∈ s.dispatching.set i (.returned (.error error)), d.hasPanicked :=
    exists_mem_set hold (fun _ => rfl) ⟨_, hmem, rfl⟩
  have hverdict : ∀ outcome state result, s.listening = .taken outcome state result →
      s.verdict = some (outcome, state) := by
    intro outcome state result hlistening
    simp [verdict, hlistening]
  refine ⟨?_, ?_, fun _ => hpanicked, ?_, fun _ _ _ _ => .inl hpanicked, ?_⟩
  · intro hback
    have hrunning := h.running hback
    simp [hrunning, workerPanicked]
  · intro _ _
    refine h.coded ?_ ⟨_, hmem, rfl⟩
    cases hlistening : s.listening <;> simp_all [verdict]
  · intro outcome state hstate
    rcases verdict_report hstate with ⟨result, hlistening⟩ | ⟨result, hlistening, rfl⟩
    · exact h.verdict_ne outcome state (hverdict outcome state result hlistening)
    · exact workerPanicked_ne_running
        (h.verdict_ne outcome s.status (by simp [verdict, hlistening]))
  · intro outcome state hstate hbad
    rcases verdict_report hstate with ⟨result, hlistening⟩ | ⟨result, hlistening, rfl⟩
    · exact h.verdict_failed outcome state (hverdict outcome state result hlistening) hbad
    · exact workerPanicked_ne_stopped s.status

theorem sound_superviseDispatcher (h : s.Sound) (i : ℕ) (panics : Bool) :
    (s.superviseDispatcher i panics).Sound := by
  unfold superviseDispatcher
  split
  · rename_i hold
    refine h.move hold (fun hpanicked => by cases hpanicked) ?_ s.stopping s.admission
    split <;> rfl
  · rename_i hold
    split
    · exact h.move hold (fun _ => rfl) rfl s.stopping (some i)
    · exact h
  · rename_i hold
    exact h.move hold (fun _ => rfl) rfl true s.admission
  · rename_i hold
    exact h.code hold
  · rename_i hold
    exact h.report hold _
  · exact h
  · exact h

/-! ### A step of the listener -/

theorem publication_ne_running (failureCode : Option String) (outcome : OperationEnd) :
    (publication failureCode outcome).1 ≠ .running := by
  cases failureCode <;> cases outcome <;> simp [publication]

theorem publication_eq_stopped {failureCode : Option String} {outcome : OperationEnd} :
    (publication failureCode outcome).1 = .stopped ↔ failureCode = none ∧ outcome = .returned := by
  cases failureCode <;> cases outcome <;> simp [publication]

theorem sound_superviseWith (h : s.Sound) (outcome : OperationEnd) :
    (s.superviseWith outcome).Sound := by
  unfold superviseWith
  split
  · rename_i hlistening
    exact
      { running := fun _ => h.running (by simp [hlistening, Listening.isBack])
        coded := fun _ => h.coded (by simp [verdict, hlistening])
        blamed := h.blamed
        verdict_ne := fun _ _ hverdict => by cases hverdict
        verdict_faulty := fun _ _ hverdict => by cases hverdict
        verdict_failed := fun _ _ hverdict => by cases hverdict }
  · rename_i hlistening
    exact
      { running := fun _ => h.running (by simp [hlistening, Listening.isBack])
        coded := fun _ => h.coded (by simp [verdict, hlistening])
        blamed := h.blamed
        verdict_ne := fun _ _ hverdict => by cases hverdict
        verdict_faulty := fun _ _ hverdict => by cases hverdict
        verdict_failed := fun _ _ hverdict => by cases hverdict }
  · rename_i outcome hlistening
    refine
      { running := fun _ => h.running (by simp [hlistening, Listening.isBack])
        coded := fun hnone => by cases hnone
        blamed := fun hsome => by cases hsome
        verdict_ne := ?_
        verdict_faulty := ?_
        verdict_failed := ?_ }
    · rintro _ _ ⟨⟩
      exact publication_ne_running _ _
    · rintro _ _ ⟨⟩ hstate
      -- Either the code was set by a dispatcher that has panicked, or the operation has failed.
      by_cases hcode : s.failureCode = none
      · refine .inr ⟨outcome, rfl, fun hreturned => hstate ?_⟩
        exact publication_eq_stopped.2 ⟨hcode, hreturned⟩
      · exact .inl (h.blamed (Option.isSome_iff_ne_none.2 hcode))
    · rintro _ _ ⟨⟩ hbad hstopped
      exact hbad (publication_eq_stopped.1 hstopped).2
  · rename_i outcome state result hlistening
    have hrunning := h.running (by simp [hlistening, Listening.isBack])
    have hverdict : s.verdict = some (outcome, state) := by simp [verdict, hlistening]
    rw [hrunning]
    refine
      { running := fun hback => by cases hback
        coded := fun hnone => by cases hnone
        blamed := h.blamed
        verdict_ne := ?_
        verdict_faulty := ?_
        verdict_failed := ?_ }
    · rintro _ _ ⟨⟩
      exact h.verdict_ne outcome state hverdict
    · rintro _ _ ⟨⟩ hstate
      refine (h.verdict_faulty outcome state hverdict hstate).imp id ?_
      simp [hlistening, Listening.outcome]
    · rintro _ _ ⟨⟩
      exact h.verdict_failed outcome state hverdict
  · exact h

theorem sound_call (h : s.Sound) :
    ({ s with dispatching := s.dispatching ++ [.operating] } : Supervision).Sound where
  running := h.running
  coded hnone hd := h.coded hnone (by simpa [Dispatching.hasCoded] using hd)
  blamed hsome := by simpa [Dispatching.hasPanicked] using h.blamed hsome
  verdict_ne := h.verdict_ne
  verdict_faulty outcome state hverdict hstate := by
    simpa [Faulty, Dispatching.hasPanicked] using h.verdict_faulty outcome state hverdict hstate
  verdict_failed := h.verdict_failed

/-- **Every step keeps the soundness.** -/
theorem sound_next (h : s.Sound) (step : SupervisionStep) : (s.next step).Sound := by
  cases step with
  | listener outcome => exact sound_superviseWith h outcome
  | call => exact sound_call h
  | dispatcher i panics => exact sound_superviseDispatcher h i panics

/-! ### What the status says -/

theorem failed_next {code : String} (h : s.status = .failed code) (step : SupervisionStep) :
    (s.next step).status = .failed code := by
  cases step with
  | listener =>
    rw [next, superviseWith]
    split
    · exact h
    · exact h
    · exact h
    · rw [h]
    · exact h
  | call => exact h
  | dispatcher =>
    rw [next, superviseDispatcher]
    split
    · exact h
    · split <;> exact h
    · exact h
    · exact h
    · simp [h, workerPanicked]
    · exact h
    · exact h

theorem failed_run {code : String} (h : s.status = .failed code) (steps : List SupervisionStep) :
    (steps.foldl next s).status = .failed code :=
  (Runs.always_of_step (I := fun s : Supervision => s.status = .failed code)
    (fun _ step hs => failed_next hs step) h steps).last

/-- The status says what has happened, once all calls are back; a failure is said for good, and the
listener does not leave the registry running. -/
structure Reports (s : Supervision) : Prop where
  failed : s.AllBack → s.Faulty → ∃ code, s.status = .failed code
  stopped : s.AllBack → ¬s.Faulty → s.status = .stopped
  final : ∀ (code : String) (steps : List SupervisionStep), s.status = .failed code →
    (steps.foldl next s).status = .failed code
  ended : s.listening.isBack → s.status ≠ .running

/-- No dispatcher has read the status before a clean stop is published. -/
def Unreported (s : Supervision) : Prop :=
  ∀ outcome, s.verdict = some (outcome, .stopped) → ∀ d ∈ s.dispatching, d.hasReported = false

/-- The step is not that of a dispatcher which reads the status while the listener is about to publish a
clean stop. -/
def Timely (s : Supervision) (step : SupervisionStep) : Prop :=
  ∀ i panics, step = .dispatcher i panics → s.dispatching[i]? = some .coded →
    ∀ outcome result, s.listening ≠ .taken outcome .stopped result

theorem unreported_superviseWith (hsound : s.Sound) (h : s.Unreported) (outcome : OperationEnd) :
    (s.superviseWith outcome).Unreported := by
  unfold superviseWith
  split
  · intro _ hverdict
    cases hverdict
  · intro _ hverdict
    cases hverdict
  · rename_i outcome hlistening
    intro _ hverdict d hd
    simp only [verdict, Option.some.injEq, Prod.mk.injEq] at hverdict
    have hnone := (publication_eq_stopped.1 hverdict.2).1
    -- A dispatcher that had set the failure code would have been found.
    by_contra hreported
    have hcoded := Dispatching.hasCoded_of_hasReported (by simpa using hreported)
    have hsome := hsound.coded (by simp [verdict, hlistening]) ⟨d, hd, hcoded⟩
    rw [hnone] at hsome
    cases hsome
  · rename_i outcome state result hlistening
    rw [hsound.running (by simp [hlistening, Listening.isBack])]
    intro _ hverdict
    simp only [verdict, Option.some.injEq, Prod.mk.injEq] at hverdict
    exact h outcome (by simp [verdict, hlistening, hverdict.2])
  · exact h

theorem Unreported.move (h : s.Unreported) (hnew : new.hasReported = false) {s' : Supervision}
    (hverdict : s'.verdict = s.verdict) (hdispatching : s'.dispatching = s.dispatching.set i new) :
    s'.Unreported := by
  intro outcome hstopped d hd
  rw [hverdict] at hstopped
  rw [hdispatching] at hd
  rcases List.mem_or_eq_of_mem_set hd with hmem | rfl
  · exact h outcome hstopped d hmem
  · exact hnew

theorem unreported_superviseDispatcher (h : s.Unreported) {panics : Bool}
    (htimely : s.Timely (.dispatcher i panics)) : (s.superviseDispatcher i panics).Unreported := by
  unfold superviseDispatcher
  split
  · refine h.move ?_ rfl rfl
    split <;> rfl
  · split
    · exact h.move rfl rfl rfl
    · exact h
  · exact h.move rfl rfl rfl
  · exact h.move rfl rfl rfl
  · rename_i hold
    intro outcome hverdict
    rcases verdict_report hverdict with ⟨result, hlistening⟩ | ⟨result, hlistening, hstopped⟩
    · exact absurd hlistening (htimely i panics rfl hold outcome result)
    · exact absurd hstopped.symm (workerPanicked_ne_stopped s.status)
  · exact h
  · exact h

theorem unreported_next (hsound : s.Sound) (h : s.Unreported) {step : SupervisionStep}
    (htimely : s.Timely step) : (s.next step).Unreported := by
  cases step with
  | listener outcome => exact unreported_superviseWith hsound h outcome
  | call =>
    intro outcome hverdict d hd
    rcases List.mem_append.1 hd with hmem | hmem
    · exact h outcome hverdict d hmem
    · rw [List.mem_singleton.1 hmem]
      rfl
  | dispatcher => exact unreported_superviseDispatcher h htimely

theorem reports_of_sound (hsound : s.Sound) (h : s.Unreported) : s.Reports := by
  have hverdict : s.AllBack → ∃ outcome, s.listening.outcome = some outcome ∧
      s.verdict = some (outcome, s.status) := by
    rintro ⟨hback, -⟩
    cases hlistening : s.listening <;> simp_all [Listening.isBack, Listening.outcome, verdict]
  refine
    { failed := fun hall hfaulty => ?_
      stopped := fun hall hfaulty => ?_
      final := fun code steps hfailed => failed_run hfailed steps
      ended := fun hback hrunning => ?_ }
  · obtain ⟨outcome, houtcome, hstatus⟩ := hverdict hall
    have hstopped : s.status ≠ .stopped := by
      rcases hfaulty with ⟨d, hd, hpanicked⟩ | ⟨_, hother, hbad⟩
      · intro hstopped
        rw [hstopped] at hstatus
        have hreported := Dispatching.hasReported_of_back (hall.2 d hd) hpanicked
        rw [h outcome hstatus d hd] at hreported
        cases hreported
      · rw [houtcome] at hother
        cases hother
        exact hsound.verdict_failed outcome _ hstatus hbad
    cases hstate : s.status with
    | running => exact absurd hstate (hsound.verdict_ne outcome _ hstatus)
    | stopped => exact absurd hstate hstopped
    | failed code => exact ⟨code, rfl⟩
  · obtain ⟨outcome, -, hstatus⟩ := hverdict hall
    by_contra hstopped
    exact hfaulty (hsound.verdict_faulty outcome _ hstatus hstopped)
  · cases hlistening : s.listening with
    | returned outcome =>
      exact hsound.verdict_ne outcome s.status (by simp [verdict, hlistening]) hrunning
    | _ => simp [hlistening, Listening.isBack] at hback

/-- **The status is right in every state of a run** in which no dispatcher reads it while the listener is
about to publish a clean stop. -/
theorem reports_of_timely {steps : List SupervisionStep}
    (h : Runs.AllSteps next Timely steps started) : Runs.Always next Reports steps started := by
  have hkept := Runs.AllSteps.always (I := fun s => s.Sound ∧ s.Unreported)
    (fun _ step hs htimely => ⟨sound_next hs.1 step, unreported_next hs.1 hs.2 htimely⟩)
    ⟨sound_started, fun _ hverdict => by cases hverdict⟩ h
  intro before after hsteps
  obtain ⟨hsound, hunreported⟩ := hkept before after hsteps
  exact reports_of_sound hsound hunreported

theorem timely_listener (s : Supervision) (outcome : OperationEnd) : s.Timely (.listener outcome) := by
  intro _ _ hstep
  cases hstep

theorem timely_call (s : Supervision) : s.Timely .call := by
  intro _ _ hstep
  cases hstep

theorem timely_of_operating (h : s.listening = .operating) (step : SupervisionStep) :
    s.Timely step := by
  intro _ panics _ _ _ _ htaken
  rw [h] at htaken
  cases htaken

/-- A dispatcher panics while the listener is in its operation, which then returns. -/
theorem reports_panic :
    Runs.Always next Reports
      [.call, .dispatcher 0 true, .dispatcher 0 true, .dispatcher 0 true, .dispatcher 0 true,
        .dispatcher 0 true, .listener .returned, .listener .returned, .listener .returned,
        .listener .returned] started :=
  reports_of_timely
    ⟨timely_call _, timely_of_operating rfl _, timely_of_operating rfl _, timely_of_operating rfl _,
      timely_of_operating rfl _, timely_of_operating rfl _, timely_listener _ _, timely_listener _ _,
      timely_listener _ _, timely_listener _ _, trivial⟩

/-- The status is right in every state of every run. -/
def AlwaysReports : Prop := ∀ steps, Runs.Always next Reports steps started

def lostPanic : List SupervisionStep :=
  [.call, .listener .returned, .listener .returned, .listener .returned, .dispatcher 0 true,
    .dispatcher 0 true, .dispatcher 0 true, .dispatcher 0 true, .dispatcher 0 true, .listener .returned]

/-- **A dispatcher that panics between the two mutexes of the listener is not reported.** -/
theorem not_alwaysReports : ¬AlwaysReports := by
  intro h
  have hback : (lostPanic.foldl next started).AllBack := by
    refine ⟨rfl, fun d hd => ?_⟩
    rw [List.mem_singleton.1 hd]
    rfl
  have hfaulty : (lostPanic.foldl next started).Faulty := .inl ⟨_, List.mem_singleton_self _, rfl⟩
  obtain ⟨code, hcode⟩ := (h lostPanic).last.failed hback hfaulty
  cases hcode

end Supervision

end Registry
