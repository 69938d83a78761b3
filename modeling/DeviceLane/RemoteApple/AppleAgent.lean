/-
**The Apple agent.**

An agent runs the operation of a request once. A request that comes again, under its identifier or under
its key, gets the job that it has got before; every identifier that is used with a job stays with this
job, so that no later request can connect two jobs.

Main definitions:

* `RemoteApple.AgentState`, `RemoteApple.submit` — the agent, and a request that is submitted.

Main results:

* `RemoteApple.idempotent_of_run` — **submissions are idempotent, in every run**.
-/

import DeviceLane.Registry.LeaseQueue
import DeviceLane.RemoteApple.Jobs

namespace RemoteApple

open Dashboard (u64Max)
open Registry (AppleRequest ProtocolError repr_injective)

variable {history : List (AppleRequest × String)}

structure AgentState where
  nextJob : ℕ
  requestJobs : Map String String
  idempotencyJobs : Map String String
  jobRequests : Map String AppleRequest
  events : Map String (List ProgressEvent)

namespace AgentState

def empty : AgentState :=
  { nextJob := 1
    requestJobs := ∅
    idempotencyJobs := ∅
    jobRequests := ∅
    events := ∅ }

def identify (state : AgentState) (request : AppleRequest) (jobId : String) : AgentState :=
  { state with
    requestJobs := state.requestJobs.insert request.requestId jobId
    idempotencyJobs := state.idempotencyJobs.insert request.idempotencyKey jobId }

end AgentState

def appleJobName (n : ℕ) : String := "apple-job-" ++ Nat.repr n

theorem appleJobName_injective {m n : ℕ} (h : appleJobName m = appleJobName n) : m = n :=
  repr_injective ((String.append_right_inj "apple-job-").1 h)

/-- A job for a request that is new. -/
def AgentState.start (state : AgentState) (request : AppleRequest) : AgentState :=
  { state.identify request (appleJobName state.nextJob) with
    nextJob := state.nextJob + 1
    jobRequests := state.jobRequests.insert (appleJobName state.nextJob) request
    events := state.events.insert (appleJobName state.nextJob) acceptedEvents }

/-- **A request is submitted**: the job that it gets, or why it gets none. Without an outcome the code
has panicked: it has run out of numbers for jobs. -/
def submit (site : Site) (request : AppleRequest) (state : AgentState) :
    Option (Except ProtocolError String × AgentState) :=
  match validate site request with
  | .error error => some (.error error, state)
  | .ok () =>
    let requestJob := state.requestJobs.lookup request.requestId
    let idempotencyJob := state.idempotencyJobs.lookup request.idempotencyKey
    if requestJob.isSome ∧ idempotencyJob.isSome ∧ requestJob ≠ idempotencyJob then
      some (.error (idempotencyConflict "request identifiers refer to different jobs"), state)
    else
      match requestJob.or idempotencyJob with
      | some jobId =>
        if (state.jobRequests.lookup jobId).any fun original => sameOperation original request then
          some (.ok jobId, state.identify request jobId)
        else
          some (.error (idempotencyConflict
            "request identifier was reused for a different operation"), state)
      | none =>
        if u64Max ≤ state.nextJob then none
        else some (.ok (appleJobName state.nextJob), state.start request)

def appendEvent (state : AgentState) (jobId kind payload : String) (terminal : Bool) : AgentState :=
  match state.events.lookup jobId with
  | none => state
  | some events =>
    { state with events := state.events.insert jobId (append events kind payload terminal) }

/-- What happens to an agent: requests, and what the threads of jobs report. Without a result the
operation has panicked. -/
inductive Call
  | submit (site : Site) (request : AppleRequest)
  | progress (jobId payload : String)
  | finished (jobId : String) (result : Option (Except String String))

def next (state : AgentState) : Call → AgentState
  | .submit site request => (submit site request state).elim state Prod.snd
  | .progress jobId payload => appendEvent state jobId "progress" payload false
  | .finished jobId (some (.ok payload)) => appendEvent state jobId "succeeded" payload true
  | .finished jobId (some (.error payload)) => appendEvent state jobId "failed" payload true
  | .finished jobId none => appendEvent state jobId "failed" "operation panicked" true

def runCalls (calls : List Call) (state : AgentState) : AgentState := calls.foldl next state

def acceptedJob (state : AgentState) : Call → Option (AppleRequest × String)
  | .submit site request =>
    match submit site request state with
    | some (.ok jobId, _) => some (request, jobId)
    | _ => none
  | _ => none

/-- The submissions of a run that are accepted, with their jobs. -/
def accepted : List Call → AgentState → List (AppleRequest × String)
  | [], _ => []
  | call :: calls, state => (acceptedJob state call).toList ++ accepted calls (next state call)

/-! ### Submissions -/

/-- **What becomes of a submission**: it is refused and nothing changes, it gets the job of its
identifiers, or a new job. -/
inductive Submitted (state : AgentState) (request : AppleRequest) :
    Option (Except ProtocolError String × AgentState) → Prop
  | panicked : Submitted state request none
  | refused (error : ProtocolError) : Submitted state request (some (.error error, state))
  | known {jobId : String} {original : AppleRequest}
      (hrequest : ∀ other, state.requestJobs.lookup request.requestId = some other → other = jobId)
      (hkey : ∀ other, state.idempotencyJobs.lookup request.idempotencyKey = some other →
        other = jobId)
      (horiginal : state.jobRequests.lookup jobId = some original)
      (hsame : sameOperation original request = true) :
      Submitted state request (some (.ok jobId, state.identify request jobId))
  | new (hrequest : state.requestJobs.lookup request.requestId = none)
      (hkey : state.idempotencyJobs.lookup request.idempotencyKey = none) :
      Submitted state request (some (.ok (appleJobName state.nextJob), state.start request))

theorem submitted (site : Site) (request : AppleRequest) (state : AgentState) :
    Submitted state request (submit site request state) := by
  unfold submit
  split
  · exact .refused _
  · dsimp only
    split
    · exact .refused _
    · rename_i hdiffer
      split
      · rename_i jobId hknown
        split
        · rename_i hany
          obtain ⟨original, horiginal, hsame⟩ := (Option.any_eq_true _ _).1 hany
          refine .known ?_ ?_ horiginal hsame
          · intro other hother
            rw [hother, Option.some_or] at hknown
            exact Option.some.inj hknown
          · intro other hother
            cases hrequest : state.requestJobs.lookup request.requestId with
            | none =>
              rw [hrequest, Option.none_or, hother] at hknown
              exact Option.some.inj hknown
            | some =>
              rw [hrequest, Option.some_or] at hknown
              rw [hrequest, hother, not_and, not_and] at hdiffer
              have hequal := not_not.1 (hdiffer rfl rfl)
              exact (Option.some.inj hequal).symm.trans (Option.some.inj hknown)
        · exact .refused _
      · rename_i hnone
        rw [Option.or_eq_none_iff] at hnone
        split
        · exact .panicked
        · exact .new hnone.1 hnone.2

/-! ### What is kept -/

/-- **What has been accepted is kept**: the identifiers lead to the job, and the job is for the operation;
identifiers lead to no other jobs, and jobs have their own names. -/
structure Kept (state : AgentState) (history : List (AppleRequest × String)) : Prop where
  requestJob : ∀ request jobId, (request, jobId) ∈ history →
    state.requestJobs.lookup request.requestId = some jobId
  idempotencyJob : ∀ request jobId, (request, jobId) ∈ history →
    state.idempotencyJobs.lookup request.idempotencyKey = some jobId
  operation : ∀ request jobId, (request, jobId) ∈ history →
    ∃ original, state.jobRequests.lookup jobId = some original ∧ sameOperation original request = true
  requested : ∀ requestId jobId, state.requestJobs.lookup requestId = some jobId →
    ∃ request, (request, jobId) ∈ history ∧ request.requestId = requestId
  keyed : ∀ key jobId, state.idempotencyJobs.lookup key = some jobId →
    ∃ request, (request, jobId) ∈ history ∧ request.idempotencyKey = key
  named : ∀ jobId request, state.jobRequests.lookup jobId = some request →
    ∃ n, n < state.nextJob ∧ jobId = appleJobName n
  events : ∀ jobId request, state.jobRequests.lookup jobId = some request →
    ∃ events, state.events.lookup jobId = some events ∧ Orderly events

theorem kept_empty : Kept AgentState.empty [] where
  requestJob request jobId hmem := absurd hmem List.not_mem_nil
  idempotencyJob request jobId hmem := absurd hmem List.not_mem_nil
  operation request jobId hmem := absurd hmem List.not_mem_nil
  requested requestId jobId h := by cases h
  keyed key jobId h := by cases h
  named jobId request h := by cases h
  events jobId request h := by cases h

variable {state : AgentState}

theorem Kept.identify (h : Kept state history) {request original : AppleRequest} {jobId : String}
    (hrequest : ∀ other, state.requestJobs.lookup request.requestId = some other → other = jobId)
    (hkey : ∀ other, state.idempotencyJobs.lookup request.idempotencyKey = some other → other = jobId)
    (horiginal : state.jobRequests.lookup jobId = some original)
    (hsame : sameOperation original request = true) :
    Kept (state.identify request jobId) (history ++ [(request, jobId)]) := by
  constructor
  · intro found other hmem
    change (Map.insert _ _ _).lookup found.requestId = some other
    rw [Map.lookup_insert]
    rcases List.mem_append.1 hmem with hbefore | hlast
    · have hlookup := h.requestJob found other hbefore
      split
      · rename_i hid
        rw [hid] at hlookup
        rw [hrequest other hlookup]
      · exact hlookup
    · cases List.mem_singleton.1 hlast
      exact if_pos rfl
  · intro found other hmem
    change (Map.insert _ _ _).lookup found.idempotencyKey = some other
    rw [Map.lookup_insert]
    rcases List.mem_append.1 hmem with hbefore | hlast
    · have hlookup := h.idempotencyJob found other hbefore
      split
      · rename_i hid
        rw [hid] at hlookup
        rw [hkey other hlookup]
      · exact hlookup
    · cases List.mem_singleton.1 hlast
      exact if_pos rfl
  · intro found other hmem
    rcases List.mem_append.1 hmem with hbefore | hlast
    · exact h.operation found other hbefore
    · cases List.mem_singleton.1 hlast
      exact ⟨original, horiginal, hsame⟩
  · intro requestId other hlookup
    change (Map.insert _ _ _).lookup requestId = some other at hlookup
    rw [Map.lookup_insert] at hlookup
    split at hlookup
    · rename_i hid
      cases hlookup
      exact ⟨request, List.mem_append_right _ List.mem_cons_self, hid.symm⟩
    · obtain ⟨found, hmem, hid⟩ := h.requested requestId other hlookup
      exact ⟨found, List.mem_append_left _ hmem, hid⟩
  · intro key other hlookup
    change (Map.insert _ _ _).lookup key = some other at hlookup
    rw [Map.lookup_insert] at hlookup
    split at hlookup
    · rename_i hid
      cases hlookup
      exact ⟨request, List.mem_append_right _ List.mem_cons_self, hid.symm⟩
    · obtain ⟨found, hmem, hid⟩ := h.keyed key other hlookup
      exact ⟨found, List.mem_append_left _ hmem, hid⟩
  · exact h.named
  · exact h.events

theorem Kept.add (h : Kept state history) (request : AppleRequest) :
    Kept
      { state with
        nextJob := state.nextJob + 1
        jobRequests := state.jobRequests.insert (appleJobName state.nextJob) request
        events := state.events.insert (appleJobName state.nextJob) acceptedEvents } history := by
  have hfresh : state.jobRequests.lookup (appleJobName state.nextJob) = none := by
    by_contra hsome
    obtain ⟨found, hfound⟩ := Option.ne_none_iff_exists'.1 hsome
    obtain ⟨n, hlt, hname⟩ := h.named _ found hfound
    have hnumber := appleJobName_injective hname
    omega
  refine ⟨h.requestJob, h.idempotencyJob, fun found jobId hmem => ?_, h.requested, h.keyed,
    fun jobId found hlookup => ?_, fun jobId found hlookup => ?_⟩
  · obtain ⟨original, horiginal, hsame⟩ := h.operation found jobId hmem
    refine ⟨original, ?_, hsame⟩
    have hne : jobId ≠ appleJobName state.nextJob := by
      rintro rfl
      rw [hfresh] at horiginal
      cases horiginal
    exact (Map.lookup_insert_ne hne _).trans horiginal
  · change (Map.insert _ _ _).lookup jobId = some found at hlookup
    rw [Map.lookup_insert] at hlookup
    split at hlookup
    · exact ⟨state.nextJob, Nat.lt_succ_self _, ‹_›⟩
    · obtain ⟨n, hlt, hname⟩ := h.named jobId found hlookup
      exact ⟨n, Nat.lt_succ_of_lt hlt, hname⟩
  · change (Map.insert _ _ _).lookup jobId = some found at hlookup
    change ∃ events, (Map.insert _ _ _).lookup jobId = some events ∧ _
    rw [Map.lookup_insert] at hlookup ⊢
    split at hlookup
    · rename_i hname
      rw [if_pos hname]
      exact ⟨acceptedEvents, rfl, orderly_acceptedEvents⟩
    · rename_i hname
      rw [if_neg hname]
      exact h.events jobId found hlookup

theorem Kept.start (h : Kept state history) {request : AppleRequest}
    (hrequest : state.requestJobs.lookup request.requestId = none)
    (hkey : state.idempotencyJobs.lookup request.idempotencyKey = none) :
    Kept (state.start request) (history ++ [(request, appleJobName state.nextJob)]) := by
  refine (h.add request).identify (fun other hother => ?_) (fun other hother => ?_)
    (Map.lookup_insert_self _ _ _) (sameOperation_self request)
  · change state.requestJobs.lookup request.requestId = some other at hother
    rw [hrequest] at hother
    cases hother
  · change state.idempotencyJobs.lookup request.idempotencyKey = some other at hother
    rw [hkey] at hother
    cases hother

theorem Kept.appendEvent (h : Kept state history) (jobId kind payload : String) (terminal : Bool) :
    Kept (appendEvent state jobId kind payload terminal) history := by
  unfold RemoteApple.appendEvent
  split
  · exact h
  · rename_i events hevents
    refine ⟨h.requestJob, h.idempotencyJob, h.operation, h.requested, h.keyed, h.named,
      fun other request hlookup => ?_⟩
    obtain ⟨found, hfound, horderly⟩ := h.events other request hlookup
    change ∃ events, (Map.insert _ _ _).lookup other = some events ∧ _
    rw [Map.lookup_insert]
    split
    · rename_i hjob
      obtain rfl := Option.some.inj (hevents.symm.trans (hjob ▸ hfound))
      exact ⟨_, rfl, horderly.append kind payload terminal⟩
    · exact ⟨found, hfound, horderly⟩

/-- **A call keeps what has been accepted.** -/
theorem kept_next (h : Kept state history) (call : Call) :
    Kept (next state call) (history ++ (acceptedJob state call).toList) := by
  have hnothing : ∀ {after : AgentState}, Kept after history → Kept after (history ++ []) := by
    intro after hafter
    rw [List.append_nil]
    exact hafter
  cases call with
  | submit site request =>
    have hsubmitted := submitted site request state
    unfold next acceptedJob
    dsimp only
    generalize submit site request state = outcome at hsubmitted
    cases hsubmitted with
    | panicked | refused => exact hnothing h
    | known hrequest hkey horiginal hsame => exact h.identify hrequest hkey horiginal hsame
    | new hrequest hkey => exact h.start hrequest hkey
  | progress jobId payload => exact hnothing (h.appendEvent jobId "progress" payload false)
  | finished jobId result =>
    cases result with
    | none => exact hnothing (h.appendEvent jobId "failed" "operation panicked" true)
    | some result =>
      cases result with
      | ok payload => exact hnothing (h.appendEvent jobId "succeeded" payload true)
      | error payload => exact hnothing (h.appendEvent jobId "failed" payload true)

theorem kept_runCalls (h : Kept state history) (calls : List Call) :
    Kept (runCalls calls state) (history ++ accepted calls state) := by
  induction calls generalizing state history with
  | nil =>
    rw [accepted, List.append_nil]
    exact h
  | cons call calls ih =>
    rw [accepted, ← List.append_assoc]
    exact ih (kept_next h call)

/-! ### Idempotence -/

/-- **Submissions are idempotent**: accepted submissions with a common identifier have one job, and ask for
the same; identifiers lead to jobs with the operation that has been submitted with them; what is refused
changes nothing; and the events of jobs are orderly. -/
structure Idempotent (state : AgentState) (history : List (AppleRequest × String)) : Prop where
  same : ∀ left right, left ∈ history → right ∈ history → Shares left.1 right.1 →
    left.2 = right.2 ∧ sameOperation left.1 right.1 = true
  requested : ∀ requestId jobId, state.requestJobs.lookup requestId = some jobId →
    ∃ original request, state.jobRequests.lookup jobId = some original ∧ (request, jobId) ∈ history ∧
      request.requestId = requestId ∧ sameOperation original request = true
  keyed : ∀ key jobId, state.idempotencyJobs.lookup key = some jobId →
    ∃ original request, state.jobRequests.lookup jobId = some original ∧ (request, jobId) ∈ history ∧
      request.idempotencyKey = key ∧ sameOperation original request = true
  refused : ∀ site request error after, submit site request state = some (.error error, after) →
    after = state
  events : ∀ jobId request, state.jobRequests.lookup jobId = some request →
    ∃ events, state.events.lookup jobId = some events ∧ Orderly events

theorem Kept.idempotent (h : Kept state history) : Idempotent state history where
  same left right hleft hright hshares := by
    have hjob : left.2 = right.2 := by
      rcases hshares with hid | hkey
      · have hlookup := h.requestJob left.1 left.2 hleft
        rw [hid, h.requestJob right.1 right.2 hright] at hlookup
        exact (Option.some.inj hlookup).symm
      · have hlookup := h.idempotencyJob left.1 left.2 hleft
        rw [hkey, h.idempotencyJob right.1 right.2 hright] at hlookup
        exact (Option.some.inj hlookup).symm
    obtain ⟨original, horiginal, hsame⟩ := h.operation left.1 left.2 hleft
    obtain ⟨_, horiginal', hsame'⟩ := h.operation right.1 right.2 hright
    rw [hjob] at horiginal
    obtain rfl := Option.some.inj (horiginal.symm.trans horiginal')
    exact ⟨hjob, sameOperation_trans (sameOperation_symm hsame) hsame'⟩
  requested requestId jobId hlookup := by
    obtain ⟨request, hmem, hid⟩ := h.requested requestId jobId hlookup
    obtain ⟨original, horiginal, hsame⟩ := h.operation request jobId hmem
    exact ⟨original, request, horiginal, hmem, hid, hsame⟩
  keyed key jobId hlookup := by
    obtain ⟨request, hmem, hkey⟩ := h.keyed key jobId hlookup
    obtain ⟨original, horiginal, hsame⟩ := h.operation request jobId hmem
    exact ⟨original, request, horiginal, hmem, hkey, hsame⟩
  refused site request error after hrefused := by
    have hsubmitted := submitted site request state
    rw [hrefused] at hsubmitted
    cases hsubmitted with
    | refused => rfl
  events := h.events

/-- **Submissions are idempotent, in every run.** -/
theorem idempotent_of_run (calls : List Call) :
    Idempotent (runCalls calls AgentState.empty) (accepted calls AgentState.empty) := by
  have hkept := kept_runCalls kept_empty calls
  rw [List.nil_append] at hkept
  exact hkept.idempotent

end RemoteApple
