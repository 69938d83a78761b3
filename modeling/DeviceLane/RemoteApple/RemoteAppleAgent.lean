/-
**The remote Apple agent.**

This agent starts a thread for every job, and what it can do is looked up for every request anew. It
takes a request that comes again for the job of either identifier, the request identifier first, and does
not keep the other one. So an identifier that came with a known one is not known afterwards, and may be
given to a second job.

Main definitions:

* `RemoteApple.RemoteState`, `RemoteApple.RemoteState.submit` — the agent, and a request that is submitted.

Main results:

* `RemoteApple.honoured_iff_of_run` — **every job is started once, and a run honours its submissions
  exactly if their identifiers are known**.
-/

import DeviceLane.Library.Runs
import DeviceLane.Registry.LeaseQueue
import DeviceLane.RemoteApple.Jobs

namespace RemoteApple

open Dashboard (u64Max)
open Registry (AppleRequest ProtocolError repr_injective)

variable {request : AppleRequest} {jobId : String}

structure Job where
  request : AppleRequest
  cancelled : Bool
  events : List ProgressEvent

structure RemoteState where
  nextJob : ℕ
  requestJobs : Map String String
  idempotencyJobs : Map String String
  jobs : Map String Job
  started : List (String × AppleRequest)

namespace RemoteState

def empty : RemoteState :=
  { nextJob := 1
    requestJobs := ∅
    idempotencyJobs := ∅
    jobs := ∅
    started := [] }

def jobName (state : RemoteState) : String := "remote-apple-job-" ++ Nat.repr state.nextJob

/-- A job for a request that is new, and the thread that runs its operation. -/
def start (state : RemoteState) (request : AppleRequest) : RemoteState :=
  { nextJob := state.nextJob + 1
    requestJobs := state.requestJobs.insert request.requestId state.jobName
    idempotencyJobs := state.idempotencyJobs.insert request.idempotencyKey state.jobName
    jobs := state.jobs.insert state.jobName
      { request
        cancelled := false
        events := acceptedEvents }
    started := state.started ++ [(state.jobName, request)] }

/-- The job that the identifiers of a request are known for; the request identifier comes first. -/
def known (state : RemoteState) (request : AppleRequest) : Option String :=
  (state.requestJobs.lookup request.requestId).or
    (state.idempotencyJobs.lookup request.idempotencyKey)

def requestOf (state : RemoteState) (jobId : String) : Option AppleRequest :=
  (state.jobs.lookup jobId).map Job.request

def isFor (state : RemoteState) (jobId : String) (request : AppleRequest) : Bool :=
  (state.requestOf jobId).any fun original => sameOperation original request

def check (discovered : Option Site) (request : AppleRequest) : Except ProtocolError Unit :=
  match discovered with
  | none => .error ⟨"workspace_path_denied", "workspace is unavailable"⟩
  | some site => validate site request

/-- **A request is submitted**: the job that it gets, or why it gets none. Without an outcome the code
has panicked: it has run out of numbers for jobs. -/
def submit (discovered : Option Site) (request : AppleRequest) (state : RemoteState) :
    Option (Except ProtocolError String × RemoteState) :=
  match check discovered request with
  | .error error => some (.error error, state)
  | .ok () =>
    match state.known request with
    | some jobId =>
      if state.isFor jobId request then some (.ok jobId, state)
      else
        some (.error (idempotencyConflict
          "request identifier was reused for a different operation"), state)
    | none =>
      if u64Max ≤ state.nextJob then none
      else some (.ok state.jobName, state.start request)

def updateJob (state : RemoteState) (jobId : String) (change : Job → Job) : RemoteState :=
  match state.jobs.lookup jobId with
  | none => state
  | some job => { state with jobs := state.jobs.insert jobId (change job) }

def appendEvent (state : RemoteState) (jobId kind payload : String) (terminal : Bool) : RemoteState :=
  state.updateJob jobId fun job => { job with events := append job.events kind payload terminal }

def cancel (state : RemoteState) (jobId : String) : Except ProtocolError Unit × RemoteState :=
  match state.jobs.lookup jobId with
  | none => (.error ⟨"unknown_job", "job is not available"⟩, state)
  | some _ => (.ok (), state.updateJob jobId fun job => { job with cancelled := true })

/-- What a thread reports at its end; one that is cancelled and fails says so. -/
def finish (state : RemoteState) (jobId : String) (result : Except String String) : RemoteState :=
  match result with
  | .ok payload => state.appendEvent jobId "succeeded" payload true
  | .error payload =>
    if (state.jobs.lookup jobId).any fun job => job.cancelled then
      state.appendEvent jobId "cancelled" payload true
    else
      state.appendEvent jobId "failed" payload true

end RemoteState

/-- What happens to the agent: requests and cancels, and what the threads of jobs report. A thread that
panics reports nothing. -/
inductive RemoteCall
  | submit (discovered : Option Site) (request : AppleRequest)
  | cancel (jobId : String)
  | progress (jobId payload : String)
  | finished (jobId : String) (result : Except String String)

def RemoteState.acceptedJob (state : RemoteState) : RemoteCall → Option (AppleRequest × String)
  | .submit discovered request =>
    match state.submit discovered request with
    | some (.ok jobId, _) => some (request, jobId)
    | _ => none
  | _ => none

def RemoteState.next (state : RemoteState) : RemoteCall → RemoteState
  | .submit discovered request => (state.submit discovered request).elim state Prod.snd
  | .cancel jobId => (state.cancel jobId).2
  | .progress jobId payload => state.appendEvent jobId "progress" payload false
  | .finished jobId result => state.finish jobId result

/-- The agent, with the submissions that it has accepted. -/
structure Served where
  state : RemoteState
  history : List (AppleRequest × String)

def Served.empty : Served := ⟨RemoteState.empty, []⟩

def Served.next (served : Served) (call : RemoteCall) : Served :=
  ⟨served.state.next call, served.history ++ (served.state.acceptedJob call).toList⟩

/-! ### What the agent is to do -/

/-- **A submission is honoured**: if it is accepted, then with the job and the operation of every accepted
submission with one of its identifiers; and if it passes the checks and is refused, or the agent gives up,
then for such a submission only in the first case, and nothing changes. -/
structure Honours (served : Served) (discovered : Option Site) (request : AppleRequest) : Prop where
  accepted : ∀ jobId after, served.state.submit discovered request = some (.ok jobId, after) →
    ∀ earlier ∈ served.history, Shares earlier.1 request →
      earlier.2 = jobId ∧ sameOperation earlier.1 request = true
  refused : ∀ error after, RemoteState.check discovered request = .ok () →
    served.state.submit discovered request = some (.error error, after) →
      error.code = "idempotency_conflict" ∧ after = served.state ∧
        ∃ earlier ∈ served.history, Shares earlier.1 request
  panicked : served.state.submit discovered request = none →
    ∀ earlier ∈ served.history, ¬ Shares earlier.1 request

def Honoured (served : Served) : RemoteCall → Prop
  | .submit discovered request => Honours served discovered request
  | _ => True

/-- Every job is started exactly once, with the operation of its request, and nothing else is started. -/
def StartedOnce (served : Served) : Prop :=
  (served.state.started.map Prod.fst).Nodup ∧
    ∀ jobId request, (jobId, request) ∈ served.state.started ↔
      served.state.requestOf jobId = some request

/-- **The identifiers of a submission are known.**  They are not known for two jobs, unless the first one
is for another operation; and unless a job of theirs is for another operation, one of them is known for
the job of every accepted submission that they have been used with. -/
structure Records (served : Served) (request : AppleRequest) : Prop where
  agree : ∀ left right, served.state.requestJobs.lookup request.requestId = some left →
    served.state.idempotencyJobs.lookup request.idempotencyKey = some right →
    served.state.isFor left request = true → left = right
  reached : (∀ jobId, served.state.requestJobs.lookup request.requestId = some jobId ∨
      served.state.idempotencyJobs.lookup request.idempotencyKey = some jobId →
      served.state.isFor jobId request = true) →
    ∀ earlier ∈ served.history, Shares earlier.1 request →
      served.state.requestJobs.lookup request.requestId = some earlier.2 ∨
        served.state.idempotencyJobs.lookup request.idempotencyKey = some earlier.2

def Recorded (served : Served) : RemoteCall → Prop
  | .submit discovered request =>
    RemoteState.check discovered request = .ok () → Records served request
  | _ => True

/-! ### Submissions -/

/-- **What becomes of a submission**: a check fails, the job of its identifiers is for another operation or
is its job, or its identifiers are not known. -/
inductive Answered (discovered : Option Site) (request : AppleRequest) (state : RemoteState) :
    Option (Except ProtocolError String × RemoteState) → Prop
  | unchecked {error : ProtocolError} (hcheck : RemoteState.check discovered request = .error error) :
      Answered discovered request state (some (.error error, state))
  | conflict {jobId message : String} (hcheck : RemoteState.check discovered request = .ok ())
      (hknown : state.known request = some jobId) (hfor : state.isFor jobId request = false) :
      Answered discovered request state (some (.error (idempotencyConflict message), state))
  | known {jobId : String} (hcheck : RemoteState.check discovered request = .ok ())
      (hknown : state.known request = some jobId) (hfor : state.isFor jobId request = true) :
      Answered discovered request state (some (.ok jobId, state))
  | panicked (hcheck : RemoteState.check discovered request = .ok ())
      (hknown : state.known request = none) : Answered discovered request state none
  | new (hcheck : RemoteState.check discovered request = .ok ())
      (hknown : state.known request = none) :
      Answered discovered request state (some (.ok state.jobName, state.start request))

theorem answered (discovered : Option Site) (request : AppleRequest) (state : RemoteState) :
    Answered discovered request state (state.submit discovered request) := by
  unfold RemoteState.submit
  split
  · exact .unchecked ‹_›
  · rename_i hcheck
    split
    · rename_i jobId hknown
      split
      · exact .known hcheck hknown ‹_›
      · exact .conflict hcheck hknown (Bool.not_eq_true _ ▸ ‹_›)
    · rename_i hknown
      split
      · exact .panicked hcheck hknown
      · exact .new hcheck hknown

variable {state : RemoteState}

theorem known_eq_none (h : state.known request = none) :
    state.requestJobs.lookup request.requestId = none ∧
      state.idempotencyJobs.lookup request.idempotencyKey = none :=
  Option.or_eq_none_iff.1 h

theorem known_eq_some (h : state.known request = some jobId) :
    state.requestJobs.lookup request.requestId = some jobId ∨
      state.requestJobs.lookup request.requestId = none ∧
        state.idempotencyJobs.lookup request.idempotencyKey = some jobId :=
  Option.or_eq_some_iff.1 h

theorem isFor_iff :
    state.isFor jobId request = true ↔
      ∃ original, state.requestOf jobId = some original ∧ sameOperation original request = true :=
  Option.any_eq_true _ _

/-! ### What is kept -/

/-- **What holds in every run**: accepted submissions have a job for their operation, identifiers are known
only for jobs that they were accepted for, jobs have their own names, and each is started once. -/
structure Serving (served : Served) : Prop where
  operation : ∀ earlier ∈ served.history, served.state.isFor earlier.2 earlier.1 = true
  requested : ∀ requestId jobId, served.state.requestJobs.lookup requestId = some jobId →
    ∃ request, (request, jobId) ∈ served.history ∧ request.requestId = requestId
  keyed : ∀ key jobId, served.state.idempotencyJobs.lookup key = some jobId →
    ∃ request, (request, jobId) ∈ served.history ∧ request.idempotencyKey = key
  named : ∀ jobId request, served.state.requestOf jobId = some request →
    ∃ n, n < served.state.nextJob ∧ jobId = "remote-apple-job-" ++ Nat.repr n
  started : StartedOnce served

theorem serving_empty : Serving Served.empty where
  operation earlier hmem := absurd hmem List.not_mem_nil
  requested requestId jobId h := by cases h
  keyed key jobId h := by cases h
  named jobId request h := by cases h
  started := ⟨List.nodup_nil, fun jobId request => by simp [Served.empty, RemoteState.empty,
    RemoteState.requestOf]⟩

structure Unmoved (state after : RemoteState) : Prop where
  nextJob : after.nextJob = state.nextJob
  requestJobs : after.requestJobs = state.requestJobs
  idempotencyJobs : after.idempotencyJobs = state.idempotencyJobs
  started : after.started = state.started
  requestOf : ∀ jobId, after.requestOf jobId = state.requestOf jobId

theorem Unmoved.refl (state : RemoteState) : Unmoved state state :=
  ⟨rfl, rfl, rfl, rfl, fun _ => rfl⟩

theorem unmoved_updateJob (state : RemoteState) (jobId : String) {change : Job → Job}
    (h : ∀ job, (change job).request = job.request) : Unmoved state (state.updateJob jobId change) := by
  unfold RemoteState.updateJob
  split
  · exact .refl state
  · rename_i job hjob
    refine ⟨rfl, rfl, rfl, rfl, fun other => ?_⟩
    change (Map.lookup (Map.insert _ _ _) other).map Job.request = (state.jobs.lookup other).map _
    rw [Map.lookup_insert]
    split
    · rename_i hother
      rw [hother, hjob, Option.map_some, Option.map_some, h]
    · rfl

theorem unmoved_appendEvent (state : RemoteState) (jobId kind payload : String) (terminal : Bool) :
    Unmoved state (state.appendEvent jobId kind payload terminal) :=
  unmoved_updateJob state jobId fun _ => rfl

theorem unmoved_cancel (state : RemoteState) (jobId : String) :
    Unmoved state (state.cancel jobId).2 := by
  unfold RemoteState.cancel
  split
  · exact .refl state
  · exact unmoved_updateJob state jobId fun _ => rfl

theorem unmoved_finish (state : RemoteState) (jobId : String) (result : Except String String) :
    Unmoved state (state.finish jobId result) := by
  unfold RemoteState.finish
  split
  · exact unmoved_appendEvent state jobId _ _ _
  · split
    · exact unmoved_appendEvent state jobId _ _ _
    · exact unmoved_appendEvent state jobId _ _ _

variable {served : Served}

theorem Serving.unmoved (h : Serving served) {after : RemoteState} (hsame : Unmoved served.state after) :
    Serving ⟨after, served.history⟩ where
  operation earlier hmem := by
    obtain ⟨original, horiginal, hoperation⟩ := isFor_iff.1 (h.operation earlier hmem)
    exact isFor_iff.2 ⟨original, (hsame.requestOf earlier.2).trans horiginal, hoperation⟩
  requested requestId jobId hlookup := h.requested requestId jobId (hsame.requestJobs ▸ hlookup)
  keyed key jobId hlookup := h.keyed key jobId (hsame.idempotencyJobs ▸ hlookup)
  named jobId request hrequest := by
    rw [hsame.requestOf] at hrequest
    rw [hsame.nextJob]
    exact h.named jobId request hrequest
  started := by
    refine ⟨?_, fun jobId request => ?_⟩
    · rw [hsame.started]
      exact h.started.1
    · rw [hsame.started, hsame.requestOf]
      exact h.started.2 jobId request

theorem Serving.requestOf_jobName (h : Serving served) :
    served.state.requestOf served.state.jobName = none := by
  by_contra hsome
  obtain ⟨request, hrequest⟩ := Option.ne_none_iff_exists'.1 hsome
  obtain ⟨_, _, hname⟩ := h.named _ request hrequest
  have hnumber := repr_injective ((String.append_right_inj "remote-apple-job-").1 hname)
  omega

theorem Serving.reuse (h : Serving served) (hfor : served.state.isFor jobId request = true) :
    Serving ⟨served.state, served.history ++ [(request, jobId)]⟩ where
  operation earlier hmem := by
    rcases List.mem_append.1 hmem with hbefore | hlast
    · exact h.operation earlier hbefore
    · cases List.mem_singleton.1 hlast
      exact hfor
  requested requestId other hlookup := by
    obtain ⟨found, hmem, hid⟩ := h.requested requestId other hlookup
    exact ⟨found, List.mem_append_left _ hmem, hid⟩
  keyed key other hlookup := by
    obtain ⟨found, hmem, hkey⟩ := h.keyed key other hlookup
    exact ⟨found, List.mem_append_left _ hmem, hkey⟩
  named := h.named
  started := h.started

theorem requestOf_start (state : RemoteState) (request : AppleRequest) (jobId : String) :
    (state.start request).requestOf jobId =
      if jobId = state.jobName then some request else state.requestOf jobId := by
  change (Map.lookup (Map.insert _ _ _) jobId).map Job.request = _
  rw [Map.lookup_insert]
  split
  · rfl
  · rfl

theorem Serving.start (h : Serving served) (request : AppleRequest) :
    Serving ⟨served.state.start request, served.history ++ [(request, served.state.jobName)]⟩ where
  operation earlier hmem := by
    refine isFor_iff.2 ?_
    change ∃ original, (served.state.start request).requestOf earlier.2 = some original ∧ _
    rw [requestOf_start]
    rcases List.mem_append.1 hmem with hbefore | hlast
    · obtain ⟨original, horiginal, hsame⟩ := isFor_iff.1 (h.operation earlier hbefore)
      refine ⟨original, ?_, hsame⟩
      rw [if_neg, horiginal]
      intro hname
      rw [hname, h.requestOf_jobName] at horiginal
      cases horiginal
    · cases List.mem_singleton.1 hlast
      exact ⟨request, if_pos rfl, sameOperation_self request⟩
  requested requestId jobId hlookup := by
    change (Map.insert _ _ _).lookup requestId = some jobId at hlookup
    rw [Map.lookup_insert] at hlookup
    split at hlookup
    · rename_i hid
      cases hlookup
      exact ⟨request, List.mem_append_right _ List.mem_cons_self, hid.symm⟩
    · obtain ⟨found, hmem, hid⟩ := h.requested requestId jobId hlookup
      exact ⟨found, List.mem_append_left _ hmem, hid⟩
  keyed key jobId hlookup := by
    change (Map.insert _ _ _).lookup key = some jobId at hlookup
    rw [Map.lookup_insert] at hlookup
    split at hlookup
    · rename_i hid
      cases hlookup
      exact ⟨request, List.mem_append_right _ List.mem_cons_self, hid.symm⟩
    · obtain ⟨found, hmem, hid⟩ := h.keyed key jobId hlookup
      exact ⟨found, List.mem_append_left _ hmem, hid⟩
  named jobId found hfound := by
    change (served.state.start request).requestOf jobId = some found at hfound
    rw [requestOf_start] at hfound
    change ∃ n, n < served.state.nextJob + 1 ∧ _
    split at hfound
    · exact ⟨served.state.nextJob, Nat.lt_succ_self _, ‹_›⟩
    · obtain ⟨n, hlt, hname⟩ := h.named jobId found hfound
      exact ⟨n, Nat.lt_succ_of_lt hlt, hname⟩
  started := by
    have hfresh : ∀ found, (served.state.jobName, found) ∉ served.state.started := by
      intro found hmem
      have hrequest := (h.started.2 served.state.jobName found).1 hmem
      rw [h.requestOf_jobName] at hrequest
      cases hrequest
    refine ⟨?_, fun jobId found => ?_⟩
    · change ((served.state.started ++ [(served.state.jobName, request)]).map Prod.fst).Nodup
      rw [List.map_append, List.nodup_append]
      refine ⟨h.started.1, List.nodup_singleton _, fun name hname other hother hequal => ?_⟩
      obtain ⟨⟨first, found⟩, hmem, hfirst⟩ := List.mem_map.1 hname
      have hjob : first = served.state.jobName :=
        hfirst.trans (hequal.trans (List.mem_singleton.1 hother))
      exact hfresh found (hjob ▸ hmem)
    · change (jobId, found) ∈ served.state.started ++ [(served.state.jobName, request)] ↔
        (served.state.start request).requestOf jobId = some found
      rw [requestOf_start, List.mem_append, List.mem_singleton, Prod.mk.injEq]
      split
      · rename_i hname
        subst hname
        rw [Option.some.injEq]
        constructor
        · rintro (hmem | ⟨-, rfl⟩)
          · exact absurd hmem (hfresh found)
          · rfl
        · rintro rfl
          exact .inr ⟨rfl, rfl⟩
      · rename_i hname
        rw [h.started.2 jobId found]
        exact or_iff_left fun hlast => hname hlast.1

/-- **A call keeps what holds in every run.** -/
theorem serving_next (h : Serving served) (call : RemoteCall) : Serving (served.next call) := by
  have hquiet : ∀ {after : RemoteState}, Unmoved served.state after →
      Serving ⟨after, served.history ++ []⟩ := by
    intro after hsame
    rw [List.append_nil]
    exact h.unmoved hsame
  cases call with
  | submit discovered request =>
    have hanswered := answered discovered request served.state
    unfold Served.next RemoteState.next RemoteState.acceptedJob
    dsimp only
    generalize served.state.submit discovered request = outcome at hanswered
    cases hanswered with
    | unchecked | conflict => exact hquiet (.refl _)
    | known hcheck hknown hfor => exact h.reuse hfor
    | panicked => exact hquiet (.refl _)
    | new => exact h.start request
  | cancel jobId => exact hquiet (unmoved_cancel _ jobId)
  | progress jobId => exact hquiet (unmoved_appendEvent _ jobId _ _ _)
  | finished jobId result => exact hquiet (unmoved_finish _ jobId result)

/-! ### Where submissions are honoured -/

theorem Serving.shares (h : Serving served) (hknown : served.state.known request = some jobId) :
    ∃ earlier ∈ served.history, Shares earlier.1 request ∧ earlier.2 = jobId := by
  rcases known_eq_some hknown with hrequest | ⟨-, hkey⟩
  · obtain ⟨found, hmem, hid⟩ := h.requested _ jobId hrequest
    exact ⟨_, hmem, .inl hid, rfl⟩
  · obtain ⟨found, hmem, hid⟩ := h.keyed _ jobId hkey
    exact ⟨_, hmem, .inr hid, rfl⟩

theorem Records.honours (h : Serving served) {discovered : Option Site}
    (hrecords : RemoteState.check discovered request = .ok () → Records served request) :
    Honours served discovered request := by
  have hanswered := answered discovered request served.state
  -- where no identifier is known, no identifier has been used
  have hunused : RemoteState.check discovered request = .ok () →
      served.state.known request = none → ∀ earlier ∈ served.history, ¬ Shares earlier.1 request := by
    intro hcheck hknown earlier hmem hshares
    obtain ⟨hrequest, hkey⟩ := known_eq_none hknown
    have hreached := (hrecords hcheck).reached (fun jobId hlookup => ?_) earlier hmem hshares
    · rw [hrequest, hkey] at hreached
      rcases hreached with hsome | hsome
      · cases hsome
      · cases hsome
    · rw [hrequest, hkey] at hlookup
      rcases hlookup with hsome | hsome
      · cases hsome
      · cases hsome
  constructor
  · intro jobId after haccepted earlier hmem hshares
    rw [haccepted] at hanswered
    cases hanswered with
    | known hcheck hknown hfor =>
      have hrecorded := hrecords hcheck
      -- identifiers that are known are known for this job
      have hall : ∀ other, served.state.requestJobs.lookup request.requestId = some other ∨
          served.state.idempotencyJobs.lookup request.idempotencyKey = some other →
          other = jobId := by
        intro other hother
        rcases known_eq_some hknown with hrequest | ⟨hrequest, hkey⟩
        · rcases hother with hother | hother
          · exact Option.some.inj (hother.symm.trans hrequest)
          · exact (hrecorded.agree jobId other hrequest hother hfor).symm
        · rw [hrequest, hkey] at hother
          rcases hother with hother | hother
          · cases hother
          · exact (Option.some.inj hother).symm
      have hjob : earlier.2 = jobId := by
        refine hall _ (hrecorded.reached (fun other hother => ?_) earlier hmem hshares)
        rw [hall other hother]
        exact hfor
      refine ⟨hjob, ?_⟩
      obtain ⟨_, horiginal, hsame⟩ := isFor_iff.1 (h.operation earlier hmem)
      obtain ⟨_, horiginal', hsame'⟩ := isFor_iff.1 hfor
      rw [hjob] at horiginal
      obtain rfl := Option.some.inj (horiginal.symm.trans horiginal')
      exact sameOperation_trans (sameOperation_symm hsame) hsame'
    | new hcheck hknown => exact absurd hshares (hunused hcheck hknown earlier hmem)
  · intro _ after hcheck hrefused
    rw [hrefused] at hanswered
    cases hanswered with
    | unchecked hfails =>
      rw [hcheck] at hfails
      cases hfails
    | conflict hcheck hknown =>
      obtain ⟨earlier, hmem, hshares, -⟩ := h.shares hknown
      exact ⟨rfl, rfl, earlier, hmem, hshares⟩
  · intro hpanicked
    rw [hpanicked] at hanswered
    cases hanswered with
    | panicked hcheck hknown => exact hunused hcheck hknown

theorem Honours.records (h : Serving served) {discovered : Option Site}
    (hhonours : Honours served discovered request)
    (hcheck : RemoteState.check discovered request = .ok ()) : Records served request := by
  -- a request whose identifiers are not known must be the first one with them
  have hnone : served.state.known request = none →
      (∀ earlier ∈ served.history, ¬ Shares earlier.1 request) → Records served request := by
    intro hknown hunused
    refine ⟨fun left right hleft => ?_, fun _ earlier hmem hshares => ?_⟩
    · rw [(known_eq_none hknown).1] at hleft
      cases hleft
    · exact absurd hshares (hunused earlier hmem)
  have haccepted := hhonours.accepted
  have hpanicked := hhonours.panicked
  have hanswered := answered discovered request served.state
  generalize served.state.submit discovered request = outcome at hanswered haccepted hpanicked
  cases hanswered with
  | unchecked hfails =>
    rw [hcheck] at hfails
    cases hfails
  | @conflict jobId message hcheck hknown hfor =>
    refine ⟨fun left right hleft hright hleftFor => ?_, fun hall => ?_⟩
    · rcases known_eq_some hknown with hrequest | ⟨hrequest, -⟩
      · obtain rfl := Option.some.inj (hleft.symm.trans hrequest)
        rw [hfor] at hleftFor
        cases hleftFor
      · rw [hrequest] at hleft
        cases hleft
    · have hother := hall jobId ((known_eq_some hknown).imp_right And.right)
      rw [hfor] at hother
      cases hother
  | @known jobId hcheck hknown hfor =>
    refine ⟨fun left right hleft hright hleftFor => ?_, fun _ earlier hmem hshares => ?_⟩
    · rcases known_eq_some hknown with hrequest | ⟨hrequest, -⟩
      · obtain rfl := Option.some.inj (hleft.symm.trans hrequest)
        obtain ⟨_, hmem, hkey⟩ := h.keyed _ right hright
        exact (haccepted left _ rfl _ hmem (.inr hkey)).1.symm
      · rw [hrequest] at hleft
        cases hleft
    · rw [(haccepted jobId _ rfl earlier hmem hshares).1]
      exact (known_eq_some hknown).imp_right And.right
  | panicked hcheck hknown => exact hnone hknown (hpanicked rfl)
  | new hcheck hknown =>
    refine hnone hknown fun earlier hmem hshares => ?_
    obtain ⟨_, horiginal, -⟩ := isFor_iff.1 (h.operation earlier hmem)
    rw [(haccepted _ _ rfl earlier hmem hshares).1, h.requestOf_jobName] at horiginal
    cases horiginal

theorem honoured_iff_recorded (h : Serving served) (call : RemoteCall) :
    Honoured served call ↔ Recorded served call := by
  cases call with
  | submit =>
    constructor
    · intro hhonours
      exact Honours.records h hhonours
    · intro hrecords
      exact Records.honours h hrecords
  | cancel | progress | finished => exact Iff.rfl

/-- **Every job is started once, and a run honours its submissions exactly if their identifiers are
known.** -/
theorem honoured_iff_of_run (calls : List RemoteCall) :
    Runs.Always Served.next StartedOnce calls Served.empty ∧
      (Runs.AllSteps Served.next Honoured calls Served.empty ↔
        Runs.AllSteps Served.next Recorded calls Served.empty) := by
  have hnext : ∀ served call, Serving served → Serving (served.next call) :=
    fun served call h => serving_next h call
  refine ⟨?_, fun hhonoured => ?_, fun hrecorded => ?_⟩
  · intro before after happend
    exact (Runs.always_of_step hnext serving_empty calls before after happend).started
  · refine Runs.AllSteps.imp (fun served call h hcall => ?_) serving_empty hhonoured
    exact ⟨hnext served call h, (honoured_iff_recorded h call).1 hcall⟩
  · refine Runs.AllSteps.imp (fun served call h hcall => ?_) serving_empty hrecorded
    exact ⟨hnext served call h, (honoured_iff_recorded h call).2 hcall⟩

/-! ### Two jobs -/

def sampleSubmit (requestId idempotencyKey : String) : RemoteCall :=
  .submit (some sampleSite)
    { version := ⟨1, 0⟩
      requestId
      idempotencyKey
      capability := "apple.device@1"
      workspacePath := "app"
      deviceId := some "phone"
      leaseId := none
      operation := .physicalDevice }

def AlwaysHonoured : Prop :=
  ∀ calls, Runs.AllSteps Served.next Honoured calls Served.empty

/-- The second request comes with a key that is not kept; the third one, with this key, starts the
operation once more. -/
theorem not_alwaysHonoured : ¬ AlwaysHonoured := by
  intro h
  obtain ⟨-, -, hthird, -⟩ := h [sampleSubmit "one" "first", sampleSubmit "one" "second",
    sampleSubmit "two" "second"]
  obtain ⟨hjob, -⟩ := hthird.accepted "remote-apple-job-2" _ rfl (_, "remote-apple-job-1")
    (List.mem_cons_of_mem _ List.mem_cons_self) (.inr rfl)
  exact absurd hjob (by decide)

end RemoteApple
