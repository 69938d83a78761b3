/-
**Submissions of jobs.**

A client submits a job under a key that it has made up, and the registry makes the name of the job from the
key. What the registry knows of a submission is on the disk before the client gets to know the name of the
job, so that a crash does not take it back. An Apple job is compared with what has been submitted under
its key; a plain job is not, and nobody looks at who submits it.

Main definitions:

* `Registry.DurableState.Keeps` — what is recorded of submissions in one state is recorded in another one.

Main results:

* `Registry.lasts_of_submits` — **what the registry has taken stays recorded**, over any number of crashes;
* `Registry.submissionsOwned_of_run` — **where all submissions are proper, they are owned**.
-/

import DeviceLane.Registry.Cancels
import DeviceLane.Registry.Writers

namespace Registry

open Dashboard (u64Max)
open Runs

variable {jobId : String}

theorem storeState_of_stores {runtime : Runtime} {env : Env} (h : runtime.storesState env) :
    runtime.storeState env = { runtime with storedState := runtime.state } := by
  obtain ⟨hrecovery, hwrite⟩ := h
  unfold Runtime.storeState
  rw [hwrite]
  exact if_pos ⟨hrecovery, rfl⟩

/-! ### What is recorded of submissions -/

namespace DurableState

variable {state state' : DurableState}

/-- What is recorded of submissions in one state is recorded in another one. -/
structure Keeps (state state' : DurableState) : Prop where
  run : ∀ requestId jobId, state.requests.lookup requestId = some jobId →
    state'.requests.lookup requestId = some jobId
  apple : ∀ key jobId, state.appleRequests.lookup key = some jobId →
    state'.appleRequests.lookup key = some jobId ∧
      state'.appleOperations.lookup key = state.appleOperations.lookup key ∧
      state'.jobClients.lookup jobId = state.jobClients.lookup jobId

structure SameBooks (state state' : DurableState) : Prop where
  requests : state'.requests = state.requests
  appleRequests : state'.appleRequests = state.appleRequests
  appleOperations : state'.appleOperations = state.appleOperations
  jobClients : state'.jobClients = state.jobClients

theorem SameBooks.refl (state : DurableState) : state.SameBooks state := ⟨rfl, rfl, rfl, rfl⟩

theorem SameBooks.trans {state₁ state₂ state₃ : DurableState} (h : state₁.SameBooks state₂)
    (h' : state₂.SameBooks state₃) : state₁.SameBooks state₃ :=
  ⟨h'.requests.trans h.requests, h'.appleRequests.trans h.appleRequests,
    h'.appleOperations.trans h.appleOperations, h'.jobClients.trans h.jobClients⟩

theorem SameBooks.symm (h : state.SameBooks state') : state'.SameBooks state :=
  ⟨h.requests.symm, h.appleRequests.symm, h.appleOperations.symm, h.jobClients.symm⟩

theorem sameBooks_of_core (h : state'.core = state.core) : state.SameBooks state' :=
  ⟨read_of_core DurableState.requests (fun _ => rfl) h,
    read_of_core DurableState.appleRequests (fun _ => rfl) h,
    read_of_core DurableState.appleOperations (fun _ => rfl) h,
    read_of_core DurableState.jobClients (fun _ => rfl) h⟩

theorem SameBooks.keeps (h : state.SameBooks state') : state.Keeps state' := by
  refine ⟨fun requestId jobId hlookup => ?_, fun key jobId hlookup => ⟨?_, ?_, ?_⟩⟩
  · rw [h.requests]
    exact hlookup
  · rw [h.appleRequests]
    exact hlookup
  · rw [h.appleOperations]
  · rw [h.jobClients]

theorem Keeps.refl (state : DurableState) : state.Keeps state := (SameBooks.refl state).keeps

theorem Keeps.trans {state₁ state₂ state₃ : DurableState} (h : state₁.Keeps state₂)
    (h' : state₂.Keeps state₃) : state₁.Keeps state₃ := by
  refine ⟨fun requestId jobId hlookup => h'.run _ _ (h.run _ _ hlookup), fun key jobId hlookup => ?_⟩
  obtain ⟨hrequest, hoperation, hclient⟩ := h.apple key jobId hlookup
  obtain ⟨hrequest', hoperation', hclient'⟩ := h'.apple key jobId hrequest
  exact ⟨hrequest', hoperation'.trans hoperation, hclient'.trans hclient⟩

end DurableState

/-- What is on the disk is older than what is in memory, and nothing of it is missing, unless a thread has
panicked. -/
structure Runtime.Recorded (runtime : Runtime) : Prop where
  older : runtime.state.recoveryError.isSome ∨ runtime.storedState.Keeps runtime.state
  saved : runtime.state.recoveryError.isSome ∨ runtime.holder = some .panicked ∨
    runtime.state.Keeps runtime.storedState

theorem recorded_empty : Runtime.empty.Recorded := ⟨.inr (.refl _), .inr (.inr (.refl _))⟩

theorem eq_of_lookup_insert_new {m : Map String String} {key : String}
    (hnew : ∀ key', m.lookup key' ≠ some jobId)
    (hinj : ∀ a b c, m.lookup a = some c → m.lookup b = some c → a = b) (a b c : String)
    (ha : (m.insert key jobId).lookup a = some c) (hb : (m.insert key jobId).lookup b = some c) :
    a = b := by
  rw [Map.lookup_insert] at ha hb
  split at ha
  · split at hb
    · rename_i hka hkb
      rw [hka, hkb]
    · cases ha
      exact absurd hb (hnew b)
  · split at hb
    · cases hb
      exact absurd ha (hnew a)
    · exact hinj a b c ha hb

/-! ### Submissions -/

inductive Submission
  | run (operation : RunRequest)
  | apple (operation : AppleRequest)
  deriving DecidableEq

namespace Submission

inductive Comes (peerId : String) : Submission → Event → Prop
  | run (operation : RunRequest) : Comes peerId (.run operation) (.request peerId (.run operation))
  | asked (operation : AppleRequest) :
      Comes peerId (.apple operation) (.request peerId (.appleRun operation))
  | leased (operation : AppleRequest) :
      Comes peerId (.apple operation) (.resume (.leased peerId operation))

def SameKey : Submission → Submission → Prop
  | .run operation, .run operation' => operation.requestId = operation'.requestId
  | .apple operation, .apple operation' => operation.idempotencyKey = operation'.idempotencyKey
  | _, _ => False

end Submission

def DurableState.Records (state : DurableState) (owner : Option String) (jobId : String) :
    Submission → Prop
  | .run operation => state.requests.lookup operation.requestId = some jobId
  | .apple operation => state.appleRequests.lookup operation.idempotencyKey = some jobId ∧
      state.appleOperations.lookup operation.idempotencyKey = some operation ∧
      ∀ peerId, owner = some peerId → state.jobClients.lookup jobId = some peerId

theorem DurableState.Keeps.records {state state' : DurableState} (h : state.Keeps state')
    {owner : Option String} {submission : Submission} (hrecords : state.Records owner jobId submission) :
    state'.Records owner jobId submission := by
  cases submission with
  | run => exact h.run _ _ hrecords
  | apple =>
    obtain ⟨hkey, hoperation, hclient⟩ := hrecords
    obtain ⟨hkey', hoperation', hclient'⟩ := h.apple _ _ hkey
    exact ⟨hkey', hoperation'.trans hoperation, fun peerId h => hclient'.trans (hclient peerId h)⟩

theorem Runtime.Recorded.stored_records {runtime : Runtime} (h : runtime.Recorded)
    (hrecovery : runtime.state.recoveryError = none) (hholder : runtime.holder = none)
    {owner : Option String} {submission : Submission}
    (hrecords : runtime.state.Records owner jobId submission) :
    runtime.storedState.Records owner jobId submission := by
  rcases h.saved with hsome | hpanicked | hkeeps
  · rw [hrecovery] at hsome
    cases hsome
  · rw [hholder] at hpanicked
    cases hpanicked
  · exact hkeeps.records hrecords

theorem appleRunLease_cases (env : Env) (peerId : String) (operation : AppleRequest)
    (runtime : Runtime) :
    ∃ after result, appleRunLease env peerId operation runtime = (after, result) ∧
      after.state = runtime.state ∧
      ((∃ error, result = some (errorResponse error)) ∧ after.flights = runtime.flights ∨
        result = none ∧ after.flights = .leased peerId operation :: runtime.flights) := by
  have hflights : ∀ leases : LeaseBook,
      (Runtime.storeLeases { runtime with leases } env).flights = runtime.flights := by
    intro leases
    unfold Runtime.storeLeases
    split
    · rfl
    · rfl
  unfold appleRunLease
  dsimp only
  split
  · exact ⟨_, _, rfl, state_storeLeases _ env, .inl ⟨⟨_, rfl⟩, hflights _⟩⟩
  · split
    · exact ⟨_, _, rfl, state_storeLeases _ env, .inl ⟨⟨_, rfl⟩, hflights _⟩⟩
    · refine ⟨_, _, rfl, state_storeLeases _ env, .inr ⟨rfl, ?_⟩⟩
      exact congrArg (List.cons _) (hflights _)

section

variable [Sha256]

variable {input : Input} {operation : AppleRequest} {owner : Option String} {peerId peerId' : String}
  {submission : Submission}

structure NewName (runtime : Runtime) (event : Event) : Prop where
  run : ∀ peerId operation, event = .request peerId (.run operation) →
    runtime.state.requests.lookup operation.requestId = none →
      ∀ requestId, runtime.state.requests.lookup requestId ≠ some (runJobId operation.requestId)
  apple : ∀ peerId operation,
    (event = .request peerId (.appleRun operation) ∨ event = .resume (.leased peerId operation)) →
      runtime.state.appleRequests.lookup operation.idempotencyKey = none →
        ∀ key, runtime.state.appleRequests.lookup key ≠ some (appleJobId operation.idempotencyKey)

variable {config : Config} {env : Env} {event : Event} {runtime : Runtime} {state : DurableState}
  {leases : LeaseBook}

theorem books_of_change (hchange : Change config env event runtime state leases) :
    runtime.state.SameBooks state ∨
      (∃ peerId operation, event = .request peerId (.run operation) ∧
        runtime.state.requests.lookup operation.requestId = none ∧
        state = runtime.state.acceptRun (runJobId operation.requestId) operation) ∨
      ∃ peerId operation target,
        (event = .request peerId (.appleRun operation) ∨ event = .resume (.leased peerId operation)) ∧
        runtime.state.appleRequests.lookup operation.idempotencyKey = none ∧
        state = runtime.state.acceptApple peerId (appleJobId operation.idempotencyKey) target
          operation := by
  have hcore : ∀ {before : DurableState}, state.core = before.core → runtime.state.SameBooks before →
      runtime.state.SameBooks state :=
    fun h hbefore => hbefore.trans (DurableState.sameBooks_of_core h)
  cases hchange with
  | same hstate => exact .inl (hcore hstate ⟨rfl, rfl, rfl, rfl⟩)
  | inventory hevent hagent howner hlocked hstate => exact .inl (hcore hstate ⟨rfl, rfl, rfl, rfl⟩)
  | reject hevent hnext hneeds hlease hstate => exact .inl (hcore hstate ⟨rfl, rfl, rfl, rfl⟩)
  | grant hevent hnext hneeds hlease hstate => exact .inl (hcore hstate ⟨rfl, rfl, rfl, rfl⟩)
  | reconcile hholder hstate => exact .inl (hcore hstate ⟨rfl, rfl, rfl, rfl⟩)
  | terminal hevent hagent hstate => exact .inl (hcore hstate ⟨rfl, rfl, rfl, rfl⟩)
  | lease hevent hstate => exact .inl (hcore hstate ⟨rfl, rfl, rfl, rfl⟩)
  | acceptRun hevent hnew => exact .inr (.inl ⟨_, _, hevent, hnew, rfl⟩)
  | acceptApple hevent hnew =>
    exact .inr (.inr ⟨_, _, _, hevent.imp And.left id, hnew, rfl⟩)
  | _ => exact .inl ⟨rfl, rfl, rfl, rfl⟩

/-- **An event keeps what is recorded of submissions.** -/
theorem keeps_change (hname : NewName runtime event)
    (hchange : Change config env event runtime state leases) : runtime.state.Keeps state := by
  rcases books_of_change hchange with hsame | ⟨peerId, operation, hevent, hnew, rfl⟩ |
    ⟨peerId, operation, target, hevent, hnew, rfl⟩
  · exact hsame.keeps
  · refine ⟨fun requestId jobId hlookup => ?_, fun key jobId hlookup => ⟨hlookup, rfl, rfl⟩⟩
    have hne : requestId ≠ operation.requestId := by
      rintro rfl
      rw [hnew] at hlookup
      cases hlookup
    exact (Map.lookup_insert_ne hne _).trans hlookup
  · refine ⟨fun requestId jobId hlookup => hlookup, fun key jobId hlookup => ?_⟩
    have hne : key ≠ operation.idempotencyKey := by
      rintro rfl
      rw [hnew] at hlookup
      cases hlookup
    -- the name of the new job is not the name of this one
    have hjob : jobId ≠ appleJobId operation.idempotencyKey := by
      rintro rfl
      exact hname.apple peerId operation hevent hnew key hlookup
    exact ⟨(Map.lookup_insert_ne hne _).trans hlookup, Map.lookup_insert_ne hne _,
      Map.lookup_insert_ne hjob _⟩

/-! ### Threads that have panicked -/

/-- What a thread has done that has panicked, or has not panicked and has written what it has recorded. -/
inductive Saves (before after : Runtime) : Prop
  | panicked (h : after.holder = some .panicked)
  | same (h : before.state.SameBooks after.state)
  | stored (h : after.storedState = after.state)

theorem saves_run (env : Env) (operation : RunRequest) (runtime : Runtime) :
    Saves runtime (run env operation runtime).1 := by
  unfold run
  split
  · exact .same (.refl _)
  · split
    · exact .same (.refl _)
    · split
      · exact .same (.refl _)
      · dsimp only
        split
        · rename_i hstores
          rw [storeState_of_stores hstores]
          exact .stored rfl
        · exact .panicked rfl

theorem saves_appleRunAccept (config : Config) (env : Env) (peerId : String) (operation : AppleRequest)
    (runtime : Runtime) : Saves runtime (appleRunAccept config env peerId operation runtime).1 := by
  unfold appleRunAccept
  split
  · split
    · exact .same (.refl _)
    · exact .same (.refl _)
  · split
    · exact .same (.refl _)
    · unfold Runtime.storeStateOrPanic
      dsimp only
      split
      · rename_i hstores
        rw [storeState_of_stores hstores]
        exact .stored rfl
      · exact .panicked rfl

theorem saves_appleRun (config : Config) (env : Env) (peerId : String) (operation : AppleRequest)
    (runtime : Runtime) : Saves runtime (appleRun config env peerId operation runtime).1 := by
  unfold appleRun
  split
  · exact .same (.refl _)
  · split
    · unfold appleRunLease
      dsimp only
      split
      · exact .same (DurableState.sameBooks_of_core (by rw [state_storeLeases]))
      · split
        · exact .same (DurableState.sameBooks_of_core (by rw [state_storeLeases]))
        · exact .same (DurableState.sameBooks_of_core (by
            change (Runtime.storeLeases _ _).state.core = _
            rw [state_storeLeases]))
    · exact saves_appleRunAccept config env peerId operation runtime

/-- **What an event records is on the disk**, or the thread has panicked. -/
theorem saves_handle (config : Config) (env : Env) (event : Event) (runtime : Runtime) :
    Saves runtime (handle config env event runtime).1 := by
  rcases books_of_change (handle_change config env event runtime) with hsame |
    ⟨peerId, operation, rfl, -, -⟩ | ⟨peerId, operation, target, rfl | rfl, -, -⟩
  · exact .same hsame
  · rcases handle_request_cases config env peerId (.run operation) runtime with
      ⟨result, h, -⟩ | ⟨-, -, h⟩
    · rw [h]
      exact .same (.refl _)
    · rw [h]
      exact saves_run env operation runtime
  · rcases handle_request_cases config env peerId (.appleRun operation) runtime with
      ⟨result, h, -⟩ | ⟨-, -, h⟩
    · rw [h]
      exact .same (.refl _)
    · rw [h]
      exact saves_appleRun config env peerId operation runtime
  · rcases handle_resume_cases config env (.leased peerId operation) runtime with h | ⟨-, -, h⟩
    · rw [h]
      exact .same (.refl _)
    · rw [h]
      cases saves_appleRunAccept config env peerId operation
        { runtime with flights := runtime.flights.erase (.leased peerId operation) } with
      | panicked h => exact .panicked h
      | same h => exact .same h
      | stored h => exact .stored h

theorem panicked_handle (h : runtime.holder = some .panicked) (config : Config) (env : Env)
    (event : Event) : (handle config env event runtime).1.holder = some .panicked := by
  cases event with
  | request peerId req =>
    rcases handle_request_cases config env peerId req runtime with ⟨_, heq, -⟩ | ⟨hfree, -, -⟩
    · rw [heq]
      exact h
    · rw [h] at hfree
      cases hfree
  | resume flight =>
    rcases handle_resume_cases config env flight runtime with heq | ⟨-, hfree, heq⟩
    · rw [heq]
      exact h
    · rw [heq]
      have hneeds : flight.needsState = false := by
        rw [← Bool.not_eq_true]
        intro hneeds
        rw [h] at hfree
        cases hfree hneeds
      cases flight with
      | inventoried =>
        change (heartbeatExpire _ _ _).1.holder = _
        unfold heartbeatExpire
        dsimp only
        split
        · exact (holder_storeLeases _ env).trans h
        · exact (holder_storeLeases _ env).trans h
      | expired | registering => exact h
      | _ => cases hneeds
  | settle =>
    have hperform : perform config env .settle runtime = (runtime, none) := by
      unfold perform
      dsimp only
      rw [h]
      rfl
    unfold handle
    rw [hperform]
    split
    · exact h
    · exact h

/-! ### Crashes -/

theorem recorded_handle (hguarded : runtime.Guarded) (h : runtime.Recorded)
    (hname : NewName runtime event) : (handle config env event runtime).1.Recorded := by
  by_cases hrecovery : runtime.state.recoveryError.isSome
  · have hidles : Idles runtime (handle config env event runtime).1 :=
      idles_handle hrecovery (hguarded hrecovery) env event
    have hsame : (handle config env event runtime).1.state.recoveryError.isSome := by
      rw [read_of_core DurableState.recoveryError (fun _ => rfl) hidles.core]
      exact hrecovery
    exact ⟨.inl hsame, .inl hsame⟩
  · have holder := h.older.resolve_left hrecovery
    have hsaved := h.saved.resolve_left hrecovery
    have hkeeps := keeps_change hname (handle_change config env event runtime)
    have hstores := (handle_stores config env event runtime).state
    refine ⟨.inr ?_, .inr ?_⟩
    · rcases hstores with hsame | hcore
      · rw [hsame]
        exact holder.trans hkeeps
      · exact (DurableState.sameBooks_of_core hcore).symm.keeps
    · rcases hsaved with hpanicked | hsaved
      · exact .inl (panicked_handle hpanicked config env event)
      · cases saves_handle config env event runtime with
        | panicked h => exact .inl h
        | same hbooks =>
          refine .inr ?_
          rcases hstores with hsame | hcore
          · rw [hsame]
            exact hbooks.symm.keeps.trans hsaved
          · exact (DurableState.sameBooks_of_core hcore).keeps
        | stored h =>
          refine .inr ?_
          rw [h]
          exact .refl _

/-- **What has been recorded is found again after a crash.** -/
theorem recorded_next (hguarded : runtime.Guarded) (h : runtime.Recorded)
    (hname : Meets NewName runtime input) : (runtime.next config input).Recorded := by
  cases input with
  | event => exact recorded_handle hguarded h hname
  | start env again unreadable debris =>
    unfold Runtime.next
    dsimp only
    split
    · obtain ⟨-, hcore, -, hstored, -⟩ := start_cases env again unreadable debris runtime
      cases unreadable with
      | none =>
        have hloaded : runtime.storedState.SameBooks
            (start env again none debris runtime).state := by
          have hbooks := DurableState.sameBooks_of_core hcore
          exact ⟨hbooks.requests, hbooks.appleRequests, hbooks.appleOperations, hbooks.jobClients⟩
        have hkept : (start env again none debris runtime).storedState.SameBooks
            (start env again none debris runtime).state := by
          rcases hstored with hsame | hsame
          · rw [hsame]
            exact hloaded
          · exact (DurableState.sameBooks_of_core hsame).symm
        exact ⟨.inr hkept.keeps, .inr (.inr hkept.symm.keeps)⟩
      | some error =>
        have hrecovery : (start env again (some error) debris runtime).state.recoveryError.isSome := by
          rw [read_of_core DurableState.recoveryError (fun _ => rfl) hcore]
          rfl
        exact ⟨.inl hrecovery, .inl hrecovery⟩
    · exact h

/-! ### Books -/

structure DurableState.Booked (state : DurableState) : Prop where
  run : ∀ requestId jobId, state.requests.lookup requestId = some jobId → jobId = runJobId requestId
  apple : ∀ key jobId, state.appleRequests.lookup key = some jobId → jobId = appleJobId key ∧
    ∃ operation peerId, state.appleOperations.lookup key = some operation ∧
      operation.idempotencyKey = key ∧ state.jobClients.lookup jobId = some peerId
  runs : ∀ requestId requestId' jobId, state.requests.lookup requestId = some jobId →
    state.requests.lookup requestId' = some jobId → requestId = requestId'
  apples : ∀ key key' jobId, state.appleRequests.lookup key = some jobId →
    state.appleRequests.lookup key' = some jobId → key = key'

theorem DurableState.Booked.of_sameBooks {state' : DurableState} (h : state.Booked)
    (hsame : state.SameBooks state') : state'.Booked := by
  obtain ⟨hrequests, hkeys, hoperations, hclients⟩ := hsame
  refine ⟨?_, ?_, ?_, ?_⟩
  · rw [hrequests]
    exact h.run
  · rw [hkeys, hoperations, hclients]
    exact h.apple
  · rw [hrequests]
    exact h.runs
  · rw [hkeys]
    exact h.apples

theorem booked_empty : DurableState.empty.Booked :=
  ⟨fun _ _ h => (by cases h), fun _ _ h => (by cases h), fun _ _ _ h => (by cases h),
    fun _ _ _ h => (by cases h)⟩

theorem booked_change (h : runtime.state.Booked) (hname : NewName runtime event)
    (hchange : Change config env event runtime state leases) : state.Booked := by
  rcases books_of_change hchange with hsame | ⟨peerId, operation, hevent, hnew, rfl⟩ |
    ⟨peerId, operation, target, hevent, hnew, rfl⟩
  · exact h.of_sameBooks hsame
  · refine ⟨fun requestId jobId hlookup => ?_, h.apple, ?_, h.apples⟩
    · change (Map.insert _ _ _).lookup requestId = _ at hlookup
      rw [Map.lookup_insert] at hlookup
      split at hlookup
      · rename_i hrequest
        rw [hrequest]
        exact (Option.some.inj hlookup).symm
      · exact h.run requestId jobId hlookup
    · exact eq_of_lookup_insert_new (hname.run peerId operation hevent hnew) h.runs
  · have hfresh := hname.apple peerId operation hevent hnew
    refine ⟨h.run, fun key jobId hlookup => ?_, h.runs, eq_of_lookup_insert_new hfresh h.apples⟩
    change (Map.insert _ _ _).lookup key = _ at hlookup
    change jobId = appleJobId key ∧ ∃ found client,
      (runtime.state.appleOperations.insert operation.idempotencyKey operation).lookup key
          = some found ∧
        found.idempotencyKey = key ∧
        (runtime.state.jobClients.insert (appleJobId operation.idempotencyKey) peerId).lookup jobId
          = some client
    rw [Map.lookup_insert] at hlookup
    split at hlookup
    · rename_i hkey
      subst hkey
      cases hlookup
      exact ⟨rfl, operation, peerId, Map.lookup_insert_self _ _ _, rfl, Map.lookup_insert_self _ _ _⟩
    · rename_i hkey
      obtain ⟨hjob, found, client, hfound, hkeyed, hclient⟩ := h.apple key jobId hlookup
      have hne : jobId ≠ appleJobId operation.idempotencyKey := by
        rintro rfl
        exact hfresh key hlookup
      exact ⟨hjob, found, client, (Map.lookup_insert_ne hkey _).trans hfound, hkeyed,
        (Map.lookup_insert_ne hne _).trans hclient⟩

theorem booked_lasting (config : Config) : Lasting config DurableState.Booked NewName where
  core hcore h := h.of_sameBooks (DurableState.sameBooks_of_core hcore)
  recovery _ _ h := h.of_sameBooks ⟨rfl, rfl, rfl, rfl⟩
  change h hname hchange := booked_change h hname hchange

/-! ### What the registry takes -/

/-- **The registry takes a submission**: it answers with the name of a job, or the client of a plain job
waits for it. -/
def Submits (config : Config) (env : Env) (event : Event) (runtime : Runtime) (peerId : String)
    (submission : Submission) (jobId : String) : Prop :=
  submission.Comes peerId event ∧
    ((∃ answer, (handle config env event runtime).2 = some answer ∧ answer.jobId = some jobId) ∨
      (handle config env event runtime).1.flights = .running jobId :: runtime.flights)

def OwnClient (runtime : Runtime) (event : Event) : Prop :=
  ∀ peerId operation jobId,
    (event = .request peerId (.appleRun operation) ∧ operation.operation.mutatesDevice = false ∨
      event = .resume (.leased peerId operation) ∧ .leased peerId operation ∈ runtime.flights) →
    runtime.holder = none →
    runtime.state.appleRequests.lookup operation.idempotencyKey = some jobId →
    runtime.state.appleOperations.lookup operation.idempotencyKey = some operation →
      runtime.state.jobClients.lookup jobId = some peerId

theorem run_cases (env : Env) (operation : RunRequest) (runtime : Runtime) :
    (∃ jobId, runtime.state.requests.lookup operation.requestId = some jobId ∧
      run env operation runtime = (runtime, some (jobResponse runtime.state jobId))) ∨
    runtime.state.requests.lookup operation.requestId = none ∧
      ((∃ answer, run env operation runtime = (runtime, some answer) ∧ answer.jobId = none ∧
          answer.accepted = false) ∨
        (∃ after, run env operation runtime = (after, none) ∧ after.flights = runtime.flights) ∨
        ∃ state, state = runtime.state.acceptRun (runJobId operation.requestId) operation ∧
          run env operation runtime
            = (Runtime.fly
                { runtime with
                  state
                  storedState := state } (.running (runJobId operation.requestId)), none)) := by
  unfold run
  split
  · rename_i jobId hknown
    exact .inl ⟨jobId, hknown, rfl⟩
  · rename_i hnew
    refine .inr ⟨hnew, ?_⟩
    split
    · exact .inl ⟨_, rfl, rfl, rfl⟩
    · split
      · exact .inl ⟨_, rfl, rfl, rfl⟩
      · dsimp only
        split
        · rename_i hstores
          rw [storeState_of_stores hstores]
          exact .inr (.inr ⟨_, rfl, rfl⟩)
        · refine .inr (.inl ⟨_, rfl, ?_⟩)
          unfold Runtime.storeState
          split
          · rfl
          · rfl

theorem appleRunAccept_cases (config : Config) (env : Env) (peerId : String) (operation : AppleRequest)
    (runtime : Runtime) :
    (∃ jobId, runtime.state.appleRequests.lookup operation.idempotencyKey = some jobId ∧
      ((∃ found, runtime.state.appleOperations.lookup operation.idempotencyKey = some found ∧
          found ≠ operation ∧ appleRunAccept config env peerId operation runtime
            = (runtime, some (errorResponse "idempotency_conflict"))) ∨
        (∀ found, runtime.state.appleOperations.lookup operation.idempotencyKey = some found →
            found = operation) ∧
          appleRunAccept config env peerId operation runtime
            = (runtime, some { response with jobId := some jobId }))) ∨
    runtime.state.appleRequests.lookup operation.idempotencyKey = none ∧
      (appleRunAccept config env peerId operation runtime
          = (runtime, some (errorResponse "no_eligible_host")) ∨
        (∃ after, appleRunAccept config env peerId operation runtime = (after, none) ∧
          after.flights = runtime.flights) ∨
        ∃ target state,
          state = runtime.state.acceptApple peerId (appleJobId operation.idempotencyKey) target
            operation ∧
          appleRunAccept config env peerId operation runtime
            = ({ runtime with
                  state
                  storedState := state },
                some { response with jobId := some (appleJobId operation.idempotencyKey) })) := by
  unfold appleRunAccept
  split
  · rename_i jobId hknown
    refine .inl ⟨jobId, hknown, ?_⟩
    cases hfound : runtime.state.appleOperations.lookup operation.idempotencyKey with
    | none => exact .inr ⟨fun found h => (by cases h), if_neg Bool.false_ne_true⟩
    | some found =>
      by_cases hsame : found = operation
      · refine .inr ⟨fun other h => (Option.some.inj h).symm.trans hsame, if_neg ?_⟩
        rw [Option.any_some, decide_eq_true_eq]
        exact not_not.2 hsame
      · refine .inl ⟨found, rfl, hsame, if_pos ?_⟩
        rw [Option.any_some, decide_eq_true_eq]
        exact hsame
  · rename_i hnew
    refine .inr ⟨hnew, ?_⟩
    split
    · exact .inl rfl
    · rename_i entry hentry
      unfold Runtime.storeStateOrPanic
      dsimp only
      split
      · rename_i hstores
        rw [storeState_of_stores hstores]
        exact .inr (.inr ⟨_, _, rfl, rfl⟩)
      · refine .inr (.inl ⟨_, rfl, ?_⟩)
        change (Runtime.storeState _ _).flights = _
        unfold Runtime.storeState
        split
        · rfl
        · rfl

theorem flights_appleRunAccept (config : Config) (env : Env) (peerId : String)
    (operation : AppleRequest) (runtime : Runtime) :
    (appleRunAccept config env peerId operation runtime).1.flights = runtime.flights := by
  rcases appleRunAccept_cases config env peerId operation runtime with
    ⟨_, -, ⟨_, -, -, h⟩ | ⟨-, h⟩⟩ | ⟨-, h | ⟨_, h, hflights⟩ | ⟨_, _, -, h⟩⟩
  · rw [h]
  · rw [h]
  · rw [h]
  · rw [h]
    exact hflights
  · rw [h]

theorem records_of_accept (flights : List Flight) (hrecorded : runtime.Recorded)
    (hbooked : runtime.state.Booked) (hrecovery : runtime.state.recoveryError = none)
    (hholder : runtime.holder = none) (howner : ∀ client, owner = some client → client = peerId ∧
      ∀ jobId, runtime.state.appleRequests.lookup operation.idempotencyKey = some jobId →
        runtime.state.appleOperations.lookup operation.idempotencyKey = some operation →
          runtime.state.jobClients.lookup jobId = some peerId) {answer : Response}
    (hanswer : (appleRunAccept config env peerId operation { runtime with flights }).2 = some answer)
    (hjob : answer.jobId = some jobId) :
    (appleRunAccept config env peerId operation { runtime with flights }).1.state.Records owner jobId
        (.apple operation) ∧
      (appleRunAccept config env peerId operation { runtime with flights }).1.storedState.Records owner
        jobId (.apple operation) := by
  rcases appleRunAccept_cases config env peerId operation { runtime with flights } with
    ⟨_, hknown, ⟨found, -, -, h⟩ | ⟨honly, h⟩⟩ | ⟨_, h | ⟨_, h, -⟩ | ⟨_, state, hstate, h⟩⟩
  · rw [h] at hanswer
    cases hanswer
    cases hjob
  · rw [h] at hanswer ⊢
    cases hanswer
    cases hjob
    obtain ⟨-, found, client, hfound, -, -⟩ := hbooked.apple _ _ hknown
    obtain rfl := honly found hfound
    have hrecords : runtime.state.Records owner jobId (.apple found) := by
      refine ⟨hknown, hfound, fun client h => ?_⟩
      obtain ⟨rfl, hown⟩ := howner client h
      exact hown jobId hknown hfound
    exact ⟨hrecords, hrecorded.stored_records hrecovery hholder hrecords⟩
  · rw [h] at hanswer
    cases hanswer
    cases hjob
  · rw [h] at hanswer
    cases hanswer
  · rw [h] at hanswer ⊢
    cases hanswer
    cases hjob
    have hrecords : state.Records owner (appleJobId operation.idempotencyKey) (.apple operation) := by
      rw [hstate]
      refine ⟨Map.lookup_insert_self _ _ _, Map.lookup_insert_self _ _ _, fun client h => ?_⟩
      obtain ⟨rfl, -⟩ := howner client h
      exact Map.lookup_insert_self _ _ _
    exact ⟨hrecords, hrecords⟩

/-- **A submission that is taken is recorded**, in memory and on the disk. -/
theorem records_of_submits (hguarded : runtime.Guarded) (hrecorded : runtime.Recorded)
    (hbooked : runtime.Lasts DurableState.Booked)
    (howner : ∀ client, owner = some client → client = peerId ∧ OwnClient runtime event)
    (h : Submits config env event runtime peerId submission jobId) :
    (handle config env event runtime).1.state.Records owner jobId submission ∧
      (handle config env event runtime).1.storedState.Records owner jobId submission := by
  obtain ⟨hcomes, htaken⟩ := h
  -- a section that names no job, and whose client does not wait, has not taken the submission
  have hnot : ∀ {result : Option Response}, handle config env event runtime = (runtime, result) →
      (∀ answer, result = some answer → answer.jobId = none) → False := by
    intro result heq hjob
    rw [heq] at htaken
    rcases htaken with ⟨answer, hanswer, hsome⟩ | hflights
    · rw [hjob answer hanswer] at hsome
      cases hsome
    · exact List.ne_cons_self hflights
  have hstate : runtime.state.recoveryError = none → runtime.state.Booked := fun hrecovery =>
    hbooked.state.resolve_left (by rw [hrecovery]; exact Bool.false_ne_true)
  cases hcomes with
  | run operation =>
    rcases handle_request_cases config env peerId (.run operation) runtime with
      ⟨result, heq, herror⟩ | ⟨hholder, hreads, heq⟩
    · exact (hnot heq fun answer h => by obtain ⟨error, rfl⟩ := herror answer h; rfl).elim
    · have hrecovery := hreads.resolve_left Bool.false_ne_true
      change handle _ _ _ _ = run env operation runtime at heq
      rw [heq] at htaken ⊢
      rcases run_cases env operation runtime with ⟨known, hknown, hrun⟩ |
        ⟨hnew, ⟨answer, hrun, hjob, -⟩ | ⟨after, hrun, hsame⟩ | ⟨state, hstate, hrun⟩⟩
      · rw [hrun] at htaken ⊢
        rcases htaken with ⟨answer, hanswer, hjob⟩ | hflights
        · cases hanswer
          cases hjob
          have hrecords : runtime.state.Records owner _ (.run operation) := hknown
          exact ⟨hrecords, hrecorded.stored_records hrecovery hholder hrecords⟩
        · exact absurd hflights List.ne_cons_self
      · exact (hnot (heq.trans hrun) fun answer' h => by cases h; exact hjob).elim
      · rw [hrun] at htaken
        rcases htaken with ⟨answer, hanswer, -⟩ | hflights
        · cases hanswer
        · exact absurd (hsame.symm.trans hflights) List.ne_cons_self
      · rw [hrun] at htaken ⊢
        rcases htaken with ⟨answer, hanswer, -⟩ | hflights
        · cases hanswer
        · cases hflights
          have hrecords : state.Records owner (runJobId operation.requestId) (.run operation) := by
            rw [hstate]
            exact Map.lookup_insert_self _ _ _
          exact ⟨hrecords, hrecords⟩
  | asked operation =>
    rcases handle_request_cases config env peerId (.appleRun operation) runtime with
      ⟨result, heq, herror⟩ | ⟨hholder, hreads, heq⟩
    · exact (hnot heq fun answer h => by obtain ⟨error, rfl⟩ := herror answer h; rfl).elim
    · have hrecovery := hreads.resolve_left Bool.false_ne_true
      change handle _ _ _ _ = appleRun config env peerId operation runtime at heq
      cases hvalid : validateRequestEnvelope operation with
      | error error =>
        have hrefused : appleRun config env peerId operation runtime
            = (runtime, some (errorResponse error.code)) := by
          unfold appleRun
          rw [hvalid]
        exact (hnot (heq.trans hrefused) fun answer h => by cases h; rfl).elim
      | ok =>
        cases hmutates : operation.operation.mutatesDevice with
        | true =>
          have hlease : appleRun config env peerId operation runtime
              = appleRunLease env peerId operation runtime := by
            unfold appleRun
            rw [hvalid]
            exact if_pos hmutates
          rw [heq, hlease] at htaken
          obtain ⟨after, result, hresult, -, ⟨⟨error, rfl⟩, hsame⟩ | ⟨rfl, hflights⟩⟩ :=
            appleRunLease_cases env peerId operation runtime
          · rw [hresult] at htaken
            rcases htaken with ⟨answer, hanswer, hjob⟩ | hwaits
            · cases hanswer
              cases hjob
            · exact absurd (hsame.symm.trans hwaits) List.ne_cons_self
          · rw [hresult] at htaken
            rcases htaken with ⟨answer, hanswer, hjob⟩ | hwaits
            · cases hanswer
            · cases hflights.symm.trans hwaits
        | false =>
          have hplain : appleRun config env peerId operation runtime
              = appleRunAccept config env peerId operation runtime := by
            unfold appleRun
            rw [hvalid]
            exact if_neg (by rw [hmutates]; exact Bool.false_ne_true)
          rw [heq, hplain] at htaken ⊢
          rcases htaken with ⟨answer, hanswer, hjob⟩ | hwaits
          · exact records_of_accept runtime.flights hrecorded (hstate hrecovery)
              hrecovery hholder (fun client h => ⟨(howner client h).1, fun known hknown hfound =>
                (howner client h).2 peerId operation known (.inl ⟨rfl, hmutates⟩) hholder hknown
                  hfound⟩) hanswer hjob
          · rw [flights_appleRunAccept] at hwaits
            exact absurd hwaits List.ne_cons_self
  | leased operation =>
    rcases handle_resume_cases config env (.leased peerId operation) runtime with
      heq | ⟨hmem, hfree, heq⟩
    · exact (hnot heq fun answer h => by cases h).elim
    · have hrecovery : runtime.state.recoveryError = none := by
        rw [← Option.not_isSome_iff_eq_none]
        intro hsome
        rw [hguarded hsome] at hmem
        cases hmem
      change handle _ _ _ _ = appleRunAccept config env peerId operation _ at heq
      rw [heq] at htaken ⊢
      rcases htaken with ⟨answer, hanswer, hjob⟩ | hwaits
      · exact records_of_accept _ hrecorded (hstate hrecovery) hrecovery (hfree rfl)
          (fun client h => ⟨(howner client h).1, fun known hknown hfound =>
            (howner client h).2 peerId operation known (.inr ⟨rfl, hmem⟩) (hfree rfl) hknown hfound⟩)
          hanswer hjob
      · rw [flights_appleRunAccept] at hwaits
        have hlength : (runtime.flights.erase (.leased peerId operation)).length = _ :=
          congrArg List.length hwaits
        have hle := List.length_erase_le (a := Flight.leased peerId operation) (l := runtime.flights)
        rw [List.length_cons] at hlength
        omega

/-! ### Runs -/

theorem records_lasting (config : Config) (owner : Option String) (jobId : String)
    (submission : Submission) :
    Lasting config (fun state => state.Records owner jobId submission) NewName where
  core hcore h := (DurableState.sameBooks_of_core hcore).keeps.records h
  recovery state error h :=
    have hsame : state.SameBooks { state with recoveryError := error } := ⟨rfl, rfl, rfl, rfl⟩
    hsame.keeps.records h
  change h hname hchange := (keeps_change hname hchange).records h

structure Runtime.BooksKept (runtime : Runtime) : Prop where
  guarded : runtime.Guarded
  recorded : runtime.Recorded
  booked : runtime.Lasts DurableState.Booked

theorem booksKept_next (h : runtime.BooksKept) (hname : Meets NewName runtime input) :
    (runtime.next config input).BooksKept :=
  ⟨guarded_next h.guarded input, recorded_next h.guarded h.recorded hname,
    (booked_lasting config).next h.guarded h.booked hname⟩

theorem booksKept_run {inputs : List Input}
    (hnames : AllSteps (Runtime.next config) (Meets NewName) inputs Runtime.empty) :
    (Runtime.empty.runInputs config inputs).BooksKept := by
  have hempty : Runtime.empty.BooksKept :=
    ⟨fun _ => rfl, recorded_empty, ⟨.inr booked_empty, booked_empty⟩⟩
  exact (hnames.always (I := Runtime.BooksKept) (fun _ _ h hname => booksKept_next h hname) hempty).last

def SubmittedAt (config : Config) (before : List Input) (peerId : String) (submission : Submission)
    (jobId : String) : Input → Prop
  | .event env event =>
    Submits config env event (Runtime.empty.runInputs config before) peerId submission jobId
  | .start _ _ _ _ => False

theorem runInputs_append (config : Config) (before : List Input) (input : Input) (after : List Input) :
    Runtime.empty.runInputs config (before ++ input :: after)
      = ((Runtime.empty.runInputs config before).next config input).runInputs config after := by
  rw [Runtime.runInputs, List.foldl_append, List.foldl_cons]
  rfl

/-- **What the registry has taken stays recorded**, whatever crashes there are. -/
theorem lasts_of_submits {before : List Input} {after : List Input}
    (hnames : AllSteps (Runtime.next config) (Meets NewName) (before ++ input :: after) Runtime.empty)
    (howner : ∀ client, owner = some client → client = peerId ∧
      Meets OwnClient (Runtime.empty.runInputs config before) input)
    (h : SubmittedAt config before peerId submission jobId input) :
    (Runtime.empty.runInputs config (before ++ input :: after)).Lasts
      fun state => state.Records owner jobId submission := by
  obtain ⟨hbefore, _, hafter⟩ := allSteps_append.1 hnames
  have hkept := booksKept_run hbefore
  rw [runInputs_append]
  cases input with
  | start => exact h.elim
  | event env event =>
    obtain ⟨hstate, hstored⟩ := records_of_submits hkept.guarded hkept.recorded hkept.booked howner h
    have hlasts : (handle config env event (Runtime.empty.runInputs config before)).1.Lasts
        fun state => state.Records owner jobId submission := ⟨.inr hstate, hstored⟩
    have hguarded : (handle config env event (Runtime.empty.runInputs config before)).1.Guarded :=
      guarded_next hkept.guarded (.event env event)
    refine (hafter.always (I := fun runtime => runtime.Guarded ∧ runtime.Lasts
      fun state => state.Records owner jobId submission) ?_ ⟨hguarded, hlasts⟩).last.2
    intro runtime input hsofar hname
    exact ⟨guarded_next hsofar.1 input,
      (records_lasting config owner jobId submission).next hsofar.1 hsofar.2 hname⟩

/-! ### Owned submissions -/

/-- A section refuses a submission: nothing is recorded, and the client gets to know no name. -/
def Refuses (config : Config) (env : Env) (event : Event) (runtime : Runtime) : Prop :=
  (handle config env event runtime).1.state = runtime.state ∧
    ∀ answer, (handle config env event runtime).2 = some answer →
      answer.accepted = false ∧ answer.jobId = none

/-- **Submissions are owned**: those that are answered with one name are the same, and come from one peer;
others under the same key are refused; and an Apple job stays one of the client that has submitted it. -/
structure SubmissionsOwned (config : Config) (inputs : List Input) : Prop where
  one : ∀ earlier input middle input' after, inputs = earlier ++ input :: (middle ++ input' :: after) →
    ∀ peerId submission peerId' submission' jobId,
      SubmittedAt config earlier peerId submission jobId input →
      SubmittedAt config (earlier ++ input :: middle) peerId' submission' jobId input' →
        submission' = submission ∧ peerId' = peerId
  others : ∀ earlier input middle env event after,
    inputs = earlier ++ input :: (middle ++ .event env event :: after) →
    ∀ peerId submission peerId' submission' jobId,
      SubmittedAt config earlier peerId submission jobId input →
      submission'.Comes peerId' event → submission'.SameKey submission →
      ¬ (submission' = submission ∧ peerId' = peerId) →
        Refuses config env event (Runtime.empty.runInputs config (earlier ++ input :: middle))
  client : ∀ earlier input middle after, inputs = earlier ++ input :: (middle ++ after) →
    ∀ peerId operation jobId,
      SubmittedAt config earlier peerId (.apple operation) jobId input →
        (Runtime.empty.runInputs config (earlier ++ input :: middle)).state.recoveryError.isSome ∨
          (Runtime.empty.runInputs config (earlier ++ input :: middle)).state.jobClients.lookup jobId
            = some peerId

/-- A plain job whose request has been taken is only submitted again as it was, by the same peer, while
the registry is at work. -/
def RepeatsRuns (config : Config) (inputs : List Input) : Prop :=
  ∀ earlier input middle env peerId operation after,
    inputs = earlier ++ input :: (middle ++ .event env (.request peerId (.run operation)) :: after) →
    (Runtime.empty.runInputs config (earlier ++ input :: middle)).holder = none →
    (Runtime.empty.runInputs config (earlier ++ input :: middle)).state.recoveryError = none →
    ∀ peerId' operation' jobId, SubmittedAt config earlier peerId' (.run operation') jobId input →
      operation.requestId = operation'.requestId → operation = operation' ∧ peerId = peerId'

/-- **Proper submissions**: names are new, plain jobs are submitted again as they were, and a client that
submits an Apple job again is its client. -/
structure Proper (config : Config) (inputs : List Input) : Prop where
  named : AllSteps (Runtime.next config) (Meets NewName) inputs Runtime.empty
  runs : RepeatsRuns config inputs
  clients : AllSteps (Runtime.next config) (Meets OwnClient) inputs Runtime.empty

theorem working_of_submits {operation : RunRequest}
    (h : Submits config env event runtime peerId (.run operation) jobId) :
    event = .request peerId (.run operation) ∧ runtime.holder = none ∧
      runtime.state.recoveryError = none := by
  obtain ⟨hcomes, htaken⟩ := h
  cases hcomes
  rcases handle_request_cases config env peerId (.run operation) runtime with
    ⟨_, heq, herror⟩ | ⟨hholder, hreads, -⟩
  · rw [heq] at htaken
    rcases htaken with ⟨answer, hanswer, hjob⟩ | hflights
    · obtain ⟨_, rfl⟩ := herror answer hanswer
      cases hjob
    · exact absurd hflights List.ne_cons_self
  · exact ⟨rfl, hholder, hreads.resolve_left Bool.false_ne_true⟩

theorem refused_of_records {operation' : AppleRequest}
    (hrecords : runtime.state.Records (some peerId) jobId (.apple operation))
    (hkey : operation'.idempotencyKey = operation.idempotencyKey)
    (hother : ¬ (operation' = operation ∧ peerId' = peerId))
    (hown : runtime.state.appleOperations.lookup operation'.idempotencyKey = some operation' →
      runtime.state.jobClients.lookup jobId = some peerId') (flights : List Flight) :
    appleRunAccept config env peerId' operation' { runtime with flights }
      = ({ runtime with flights }, some (errorResponse "idempotency_conflict")) := by
  obtain ⟨hknown, hfound, hclient⟩ := hrecords
  rcases appleRunAccept_cases config env peerId' operation' { runtime with flights } with
    ⟨_, _, ⟨_, -, -, h⟩ | ⟨honly, h⟩⟩ | ⟨hnew, -⟩
  · exact h
  · rw [← hkey] at hfound hknown
    obtain rfl := honly operation hfound
    have hpeer := (hown hfound).symm.trans (hclient peerId rfl)
    exact absurd ⟨rfl, Option.some.inj hpeer⟩ hother
  · change runtime.state.appleRequests.lookup _ = none at hnew
    rw [hkey, hknown] at hnew
    cases hnew

theorem DurableState.Booked.one (h : state.Booked) {submission' : Submission}
    (hrecords : state.Records (some peerId) jobId submission)
    (hrecords' : state.Records (some peerId') jobId submission') :
    (∃ operation operation', submission = .run operation ∧ submission' = .run operation' ∧
        operation'.requestId = operation.requestId) ∨
      submission' = submission ∧ peerId' = peerId := by
  cases submission with
  | run operation =>
    cases submission' with
    | run operation' =>
      exact .inl ⟨operation, operation', rfl, rfl, h.runs _ _ jobId hrecords' hrecords⟩
    | apple =>
      have hrun := h.run _ _ hrecords
      have happle := (h.apple _ _ hrecords'.1).1
      exact absurd (hrun.symm.trans happle) (runJobId_ne_appleJobId _ _)
  | apple =>
    obtain ⟨hknown, hfound, hclient⟩ := hrecords
    cases submission' with
    | run =>
      have hrun := h.run _ _ hrecords'
      have happle := (h.apple _ _ hknown).1
      exact absurd (hrun.symm.trans happle) (runJobId_ne_appleJobId _ _)
    | apple =>
      obtain ⟨hknown', hfound', hclient'⟩ := hrecords'
      have hkey := h.apples _ _ jobId hknown' hknown
      rw [hkey, hfound] at hfound'
      have hpeer := (hclient' peerId' rfl).symm.trans (hclient peerId rfl)
      exact .inr ⟨congrArg Submission.apple (Option.some.inj hfound').symm, Option.some.inj hpeer⟩

theorem refuses_of_handle {after : Runtime} {result : Option Response}
    (h : handle config env event runtime = (after, result)) (hstate : after.state = runtime.state)
    (herror : ∀ answer, result = some answer → ∃ error, answer = errorResponse error) :
    Refuses config env event runtime := by
  unfold Refuses
  rw [h]
  refine ⟨hstate, fun answer hanswer => ?_⟩
  obtain ⟨error, rfl⟩ := herror answer hanswer
  exact ⟨rfl, rfl⟩

/-- An Apple job that is known is refused to whoever is not its client, and under its key nothing else is
taken. -/
theorem refuses_apple (hguarded : runtime.Guarded) {operation' : AppleRequest}
    (hlasts : runtime.Lasts fun state => state.Records (some peerId) jobId (.apple operation))
    (hown : OwnClient runtime event) (hcomes : Submission.Comes peerId' (.apple operation') event)
    (hkey : operation'.idempotencyKey = operation.idempotencyKey)
    (hother : ¬ (operation' = operation ∧ peerId' = peerId)) : Refuses config env event runtime := by
  have hrecords : runtime.state.recoveryError = none →
      runtime.state.Records (some peerId) jobId (.apple operation) := fun hrecovery =>
    hlasts.state.resolve_left (by rw [hrecovery]; exact Bool.false_ne_true)
  cases hcomes with
  | asked =>
    rcases handle_request_cases config env peerId' (.appleRun operation') runtime with
      ⟨result, heq, herror⟩ | ⟨hholder, hreads, heq⟩
    · exact refuses_of_handle heq rfl herror
    · have hrecords := hrecords (hreads.resolve_left Bool.false_ne_true)
      change handle _ _ _ _ = appleRun config env peerId' operation' runtime at heq
      cases hvalid : validateRequestEnvelope operation' with
      | error error =>
        have hrefused : appleRun config env peerId' operation' runtime
            = (runtime, some (errorResponse error.code)) := by
          unfold appleRun
          rw [hvalid]
        exact refuses_of_handle (heq.trans hrefused) rfl fun answer h => ⟨_, (Option.some.inj h).symm⟩
      | ok =>
        cases hmutates : operation'.operation.mutatesDevice with
        | true =>
          have hlease : appleRun config env peerId' operation' runtime
              = appleRunLease env peerId' operation' runtime := by
            unfold appleRun
            rw [hvalid]
            exact if_pos hmutates
          obtain ⟨_, result, hresult, hstate, hends⟩ :=
            appleRunLease_cases env peerId' operation' runtime
          refine refuses_of_handle ((heq.trans hlease).trans hresult) hstate fun answer h => ?_
          rcases hends with ⟨⟨error, herror⟩, -⟩ | ⟨hnone, -⟩
          · exact ⟨error, Option.some.inj (h.symm.trans herror)⟩
          · cases h.symm.trans hnone
        | false =>
          have hplain : appleRun config env peerId' operation' runtime
              = appleRunAccept config env peerId' operation' runtime := by
            unfold appleRun
            rw [hvalid]
            exact if_neg (by rw [hmutates]; exact Bool.false_ne_true)
          have hrefused : appleRunAccept config env peerId' operation' runtime
              = (runtime, some (errorResponse "idempotency_conflict")) :=
            refused_of_records hrecords hkey hother
              (hown peerId' operation' jobId (.inl ⟨rfl, hmutates⟩) hholder (hkey ▸ hrecords.1))
              runtime.flights
          exact refuses_of_handle ((heq.trans hplain).trans hrefused) rfl
            fun answer h => ⟨_, (Option.some.inj h).symm⟩
  | leased =>
    rcases handle_resume_cases config env (.leased peerId' operation') runtime with
      heq | ⟨hmem, hfree, heq⟩
    · exact refuses_of_handle heq rfl fun answer h => by cases h
    · have hrecovery : runtime.state.recoveryError = none := by
        rw [← Option.not_isSome_iff_eq_none]
        intro hsome
        rw [hguarded hsome] at hmem
        cases hmem
      have hrecords := hrecords hrecovery
      change handle _ _ _ _ = appleRunAccept config env peerId' operation' _ at heq
      have hrefused := heq.trans (refused_of_records hrecords hkey hother
        (hown peerId' operation' jobId (.inr ⟨rfl, hmem⟩) (hfree rfl) (hkey ▸ hrecords.1))
        (runtime.flights.erase (.leased peerId' operation')))
      exact refuses_of_handle hrefused rfl fun answer h => ⟨_, (Option.some.inj h).symm⟩

/-- **Where all submissions are proper, they are owned.** -/
theorem submissionsOwned_of_run (config : Config) (inputs : List Input) (h : Proper config inputs) :
    SubmissionsOwned config inputs := by
  obtain ⟨hnamed, hruns, hclients⟩ := h
  -- what is known of a submission at any later time
  have hlasts : ∀ {earlier : List Input} {input : Input} {middle after : List Input},
      inputs = earlier ++ input :: (middle ++ after) → ∀ {peerId jobId submission},
      SubmittedAt config earlier peerId submission jobId input →
      (Runtime.empty.runInputs config (earlier ++ input :: middle)).Lasts
        fun state => state.Records (some peerId) jobId submission := by
    intro earlier input middle after hinputs peerId jobId submission hsubmitted
    have hsplit : inputs = (earlier ++ input :: middle) ++ after := by simp [hinputs]
    rw [hsplit] at hnamed hclients
    have hclient := (allSteps_append.1 (allSteps_append.1 hclients).1).2.1
    exact lasts_of_submits (allSteps_append.1 hnamed).1
      (fun client hsome => ⟨(Option.some.inj hsome).symm, hclient⟩) hsubmitted
  refine ⟨?_, ?_, ?_⟩
  · intro earlier input middle input' after hinputs peerId submission peerId' submission' jobId
      hsubmitted hsubmitted'
    have hinputs' : inputs = earlier ++ input :: ((middle ++ [input']) ++ after) := by simp [hinputs]
    have hlate : inputs = (earlier ++ input :: middle) ++ input' :: ([] ++ after) := by simp [hinputs]
    have hearlierRecords := (hlasts hinputs' hsubmitted).stored
    have hlaterRecords := (hlasts hlate hsubmitted').stored
    have hsame : earlier ++ input :: (middle ++ [input']) = (earlier ++ input :: middle) ++ [input'] := by
      simp
    rw [hsame] at hearlierRecords
    have hupto : inputs = ((earlier ++ input :: middle) ++ [input']) ++ after := by simp [hinputs]
    rw [hupto] at hnamed
    have hbooked := (booksKept_run (allSteps_append.1 hnamed).1).booked.stored
    rcases hbooked.one hearlierRecords hlaterRecords with ⟨operation, operation', rfl, rfl, hkey⟩ | hone
    · -- plain jobs are not compared by the registry
      cases input' with
      | start env again unreadable debris => exact hsubmitted'.elim
      | event env event =>
        obtain ⟨rfl, hholder, hrecovery⟩ := working_of_submits hsubmitted'
        obtain ⟨rfl, rfl⟩ := hruns earlier input middle env peerId' operation' after hinputs hholder
          hrecovery peerId operation jobId hsubmitted hkey
        exact ⟨rfl, rfl⟩
    · exact hone
  · intro earlier input middle env event after hinputs peerId submission peerId' submission' jobId
      hsubmitted hcomes hkey hother
    have hrecords := hlasts hinputs hsubmitted
    have hsplit : inputs = (earlier ++ input :: middle) ++ .event env event :: after := by simp [hinputs]
    rw [hsplit] at hnamed hclients
    have hguarded := (booksKept_run (allSteps_append.1 hnamed).1).guarded
    have hown := (allSteps_append.1 hclients).2.1
    cases submission' with
    | run operation' =>
      cases submission with
      | apple operation => exact hkey.elim
      | run operation =>
        cases hcomes
        rcases handle_request_cases config env peerId' (.run operation')
          (Runtime.empty.runInputs config (earlier ++ input :: middle)) with
          ⟨result, heq, herror⟩ | ⟨hholder, hreads, -⟩
        · exact refuses_of_handle heq rfl herror
        · obtain ⟨rfl, rfl⟩ := hruns earlier input middle env peerId' operation' after hinputs hholder
            (hreads.resolve_left Bool.false_ne_true) peerId operation jobId hsubmitted hkey
          exact absurd ⟨rfl, rfl⟩ hother
    | apple operation' =>
      cases submission with
      | run operation => exact hkey.elim
      | apple operation =>
        refine refuses_apple hguarded hrecords hown hcomes hkey fun hsame => hother ?_
        exact ⟨congrArg Submission.apple hsame.1, hsame.2⟩
  · intro earlier input middle after hinputs peerId operation jobId hsubmitted
    exact (hlasts hinputs hsubmitted).state.imp_right fun hrecords => hrecords.2.2 peerId rfl

/-! ### A plain job that is submitted twice -/

theorem repeatsRuns_of_mem {inputs : List Input} {operation : RunRequest}
    (h : ∀ env peerId' operation', .event env (.request peerId' (.run operation')) ∈ inputs →
      operation' = operation ∧ peerId' = peerId) : RepeatsRuns config inputs := by
  intro _ input _ env peerId₁ operation₁ _ hinputs _ _ peerId₂ operation₂ _
    hsubmitted _
  have hlate : operation₁ = operation ∧ peerId₁ = peerId := h env peerId₁ operation₁ (by simp [hinputs])
  have hearly : operation₂ = operation ∧ peerId₂ = peerId := by
    cases input with
    | start => exact hsubmitted.elim
    | event env =>
      obtain ⟨hcomes, -⟩ := hsubmitted
      cases hcomes
      exact h env peerId₂ operation₂ (by simp [hinputs])
  exact ⟨hlate.1.trans hearly.1.symm, hlate.2.trans hearly.2.symm⟩

theorem newName_of_ne (hrun : ∀ peerId operation, event ≠ .request peerId (.run operation))
    (happle : ∀ peerId operation, event ≠ .request peerId (.appleRun operation))
    (hleased : ∀ peerId operation, event ≠ .resume (.leased peerId operation)) :
    NewName runtime event := by
  refine ⟨fun peerId operation hevent => absurd hevent (hrun peerId operation), ?_⟩
  rintro peerId operation (hevent | hevent)
  · exact absurd hevent (happle peerId operation)
  · exact absurd hevent (hleased peerId operation)

def sampleStarted : Runtime :=
  { sampleOnline with
    state := sampleOwned.acceptRun sampleRunId sampleRun
    storedState := sampleOwned.acceptRun sampleRunId sampleRun
    flights := [.running sampleRunId, .online "host"] }

def submitTwice (peerId : String) : List (Env × Event) :=
  sampleHostSteps ++
    [(sampleEnv, .request "client" (.run sampleRun)), (sampleEnv, .request peerId (.run sampleRun))]

theorem step_sampleSubmit :
    sampleOnline.step sampleConfig (sampleEnv, .request "client" (.run sampleRun)) = sampleStarted :=
  step_sampleRun rfl rfl rfl (Nat.le_of_ble_eq_true rfl)

theorem requests_sampleStarted : sampleStarted.state.requests.lookup "run" = some sampleRunId :=
  Map.lookup_insert_self _ _ _

theorem handle_sampleStarted (peerId : String) :
    handle sampleConfig sampleEnv (.request peerId (.run sampleRun)) sampleStarted
      = (sampleStarted, some (jobResponse sampleStarted.state sampleRunId)) := by
  have hrequest : request sampleConfig sampleEnv peerId sampleStarted (.run sampleRun)
      = (sampleStarted, some (jobResponse sampleStarted.state sampleRunId)) := by
    change run sampleEnv sampleRun sampleStarted = _
    unfold run
    rw [show sampleStarted.state.requests.lookup sampleRun.requestId = some sampleRunId from
      requests_sampleStarted]
  rw [handle_of_free rfl rfl, hrequest]
  exact if_pos (Nat.le_of_ble_eq_true rfl)

theorem named_submitTwice :
    AllSteps (Runtime.next sampleConfig) (Meets NewName) (eventInputs (submitTwice "client"))
      Runtime.empty := by
  rw [eventInputs, Runs.allSteps_map]
  change AllSteps (Runtime.step sampleConfig) (fun runtime input => NewName runtime input.2)
    (submitTwice "client") Runtime.empty
  rw [submitTwice, Runs.allSteps_append, foldl_sampleHostSteps]
  refine ⟨⟨?_, ?_, ?_, ?_, trivial⟩, ⟨?_, ?_⟩, ?_, trivial⟩
  iterate 4
    · refine newName_of_ne ?_ ?_ ?_
      all_goals
        intro peerId operation hevent
        cases hevent
  · intro peerId operation hevent _ _ hlookup
    cases hlookup
  · rintro peerId operation (hevent | hevent)
    · cases hevent
    · cases hevent
  · rw [step_sampleSubmit]
    refine ⟨fun peerId operation hevent hnew => ?_, ?_⟩
    · -- the request is known by now
      cases hevent
      cases requests_sampleStarted.symm.trans hnew
    · rintro peerId operation (hevent | hevent)
      · cases hevent
      · cases hevent

omit [Sha256] in
/-- The client that has submitted the plain job submits it again. -/
theorem submissionsOwned_sample : letI := sampleHash
    SubmissionsOwned sampleConfig (eventInputs (submitTwice "client")) := by
  let _ := sampleHash
  refine submissionsOwned_of_run _ _ ⟨named_submitTwice, ?_, ?_⟩
  · have honly : ∀ env peerId operation,
        .event env (.request peerId (.run operation)) ∈ eventInputs (submitTwice "client") →
          operation = sampleRun ∧ peerId = "client" := by
      intro env peerId operation hmem
      simp only [eventInputs, submitTwice, sampleHostSteps, List.cons_append, List.nil_append,
        List.map_cons, List.map_nil, List.mem_cons, Input.event.injEq, Event.request.injEq,
        Request.run.injEq, reduceCtorEq, and_false, false_or, List.not_mem_nil, or_false, or_self] at hmem
      exact ⟨hmem.2.2, hmem.2.1⟩
    exact repeatsRuns_of_mem honly
  · refine allSteps_of_mem ?_ _
    rintro runtime input hmem
    simp only [eventInputs, submitTwice, sampleHostSteps, List.cons_append, List.nil_append, List.map_cons,
      List.map_nil, List.mem_cons, List.not_mem_nil, or_false] at hmem
    rcases hmem with rfl | rfl | rfl | rfl | rfl | rfl
    all_goals
      rintro peerId operation jobId (⟨hevent, -⟩ | ⟨hevent, -⟩)
      · cases hevent
      · cases hevent

/-- Submissions are owned in every run. -/
def AlwaysSubmissionsOwned : Prop :=
  ∀ (config : Config) (inputs : List Input), SubmissionsOwned config inputs

omit [Sha256] in
/-- A stranger submits the plain job of a client again, and gets to know its name, whatever the hash
function. -/
theorem not_alwaysSubmissionsOwned : ¬ ∃ _ : Sha256, AlwaysSubmissionsOwned := by
  rintro ⟨hash, h⟩
  let again (peerId : String) : Input := .event sampleEnv (.request peerId (.run sampleRun))
  have hrun : Runtime.empty.runInputs sampleConfig (eventInputs sampleHostSteps) = sampleOnline := by
    rw [runInputs_eventInputs, foldl_sampleHostSteps]
  have hnext : Runtime.empty.runInputs sampleConfig (eventInputs sampleHostSteps ++ [again "client"])
      = sampleStarted := by
    rw [runInputs_append, hrun]
    exact step_sampleSubmit
  have hfirst : SubmittedAt sampleConfig (eventInputs sampleHostSteps) "client" (.run sampleRun)
      sampleRunId (again "client") := by
    refine ⟨.run sampleRun, .inr ?_⟩
    rw [hrun]
    exact congrArg Runtime.flights step_sampleSubmit
  have hsecond : SubmittedAt sampleConfig (eventInputs sampleHostSteps ++ [again "client"]) "stranger"
      (.run sampleRun) sampleRunId (again "stranger") := by
    refine ⟨.run sampleRun, .inl ⟨jobResponse sampleStarted.state sampleRunId, ?_, rfl⟩⟩
    rw [hnext, handle_sampleStarted]
  have hone := (h sampleConfig (eventInputs sampleHostSteps ++ [again "client", again "stranger"])).one
    (eventInputs sampleHostSteps) (again "client") [] (again "stranger") [] rfl "client" (.run sampleRun)
    "stranger" (.run sampleRun) sampleRunId hfirst hsecond
  exact absurd hone.2 (by decide)

end

end Registry
