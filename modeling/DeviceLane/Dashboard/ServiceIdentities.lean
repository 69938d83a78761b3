/-
**Whether an activity keeps its identity.**

The identifier of an activity is chosen by whoever asks for it. What is observed of an activity takes
over what its current record says of it. But a request and a decision write what they are about
themselves, and so does the local user interface, and none of them looks at the record that there is.

Main definitions:

* `Dashboard.ServiceCall.KeepsTo` — the calls that write only where they own the activity.

Main results:

* `keepsIdentities_of_run` — **in every run of such calls the activities keep their identities**.
-/

import DeviceLane.Dashboard.ServiceWrites

namespace Dashboard

open Effect Runs

variable [Sha256]

/-! ### What has to be kept -/

open DashboardService in
def ServiceCall.AsksAbout (s : DashboardService) : ServiceCall → AccessRequest → Prop
  | requestApproval access _ _ _ => fun asked => asked = access
  | requestAdminMutationApproval mutation _ _ _ => s.AsksForMutation mutation
  | decideApproval _ _ access _ _ => fun asked => asked = access
  | decidePendingApproval approvalId _ _ _ => fun asked =>
    ∃ pending, s.pending.lookup approvalId = some pending ∧ asked = pending.access
  | _ => fun _ => False

namespace DashboardService

/-- Along a run every activity keeps its identity, and what is asked for another access under the
identifier of an activity leaves the state of its record alone. -/
structure KeepsIdentities (s : DashboardService) (calls : List ServiceCall) : Prop where
  identity : ∀ before after id record, calls = before ++ after →
    (runCalls before s).activities.lookup id = some record →
      ((runCalls calls s).activities.lookup id).map ActivityEvent.identity = some record.identity
  state : ∀ before call after access record, calls = before ++ call :: after →
    call.AsksAbout (runCalls before s) access →
      (runCalls before s).activities.lookup access.activityId = some record →
        record.identity ≠ access.identity →
          ((call.next (runCalls before s)).activities.lookup access.activityId).map
            ActivityEvent.state = some record.state

/-! ### Calls that write only what they own -/

def Owns (s : DashboardService) (id : ActivityId) (identity : Identity) : Prop :=
  ∀ record, s.activities.lookup id = some record → record.identity = identity

/-- The activity that an event of the local user interface goes under is its own. -/
def OwnsLocal (s : DashboardService) (number : ℕ) (operation : OperationId) : Prop :=
  ∀ id, parseId ("admin-" ++ Nat.repr number ++ "-" ++ operation.text) = .ok id →
    s.Owns id ⟨localUser, s.localHostId, s.localHostId, none, operation, [], none⟩

def IsAuthorized (s : DashboardService) (call : ServiceCall) : Prop :=
  ∀ ask ∈ call.ask,
    ((authorizeAdmin ask.operation ask.resource ask.mutationDigest ask.nowMs).exec s).1 = .ok ()

def GetsThrough (s : DashboardService) (nonce : String) (session : AuthenticatedTargetSession)
    (access : AccessRequest) (decision : ApprovalDecision) (nowMs : ℕ) : Prop :=
  s.AsksEngine access nowMs ∧
    (s.FindsExpired nonce nowMs ∨ s.TakesDecision nonce session access decision nowMs)

end DashboardService

open DashboardService in
def ServiceCall.KeepsTo (s : DashboardService) : ServiceCall → Prop
  | recordPreapprovalTargetOffline access _ =>
    s.auditHealthy = true → s.Owns access.activityId access.identity
  | requestApproval access _ nowMs _ =>
    s.LooksInto access nowMs → s.Owns access.activityId access.identity
  | requestAdminMutationApproval mutation _ nowMs _ => ∀ access,
      s.AsksForMutation mutation access → s.LooksInto access nowMs →
        s.Owns access.activityId access.identity
  | decideApproval nonce session access decision nowMs =>
    s.GetsThrough nonce session access decision nowMs → s.Owns access.activityId access.identity
  | decidePendingApproval approvalId session decision nowMs => ∀ pending,
      s.pending.lookup approvalId = some pending →
        s.GetsThrough pending.nonce session pending.access decision nowMs →
          s.Owns pending.access.activityId pending.access.identity
  | recordActivity event _ => s.Owns event.activityId event.identity
  | putPolicyRule rule nowMs =>
    s.IsAuthorized (.putPolicyRule rule nowMs) → s.OwnsLocal s.nextAuditSequence policyPut
  | putPolicyRuleExact rule expectedRevision nowMs =>
    s.IsAuthorized (.putPolicyRuleExact rule expectedRevision nowMs) →
      s.OwnsLocal s.nextAuditSequence policyPut
  | deletePolicyRule id nowMs =>
    s.IsAuthorized (.deletePolicyRule id nowMs) → s.OwnsLocal s.nextAuditSequence policyDelete
  | deletePolicyRuleIfRevision id expectedRevision nowMs =>
    s.IsAuthorized (.deletePolicyRuleIfRevision id expectedRevision nowMs) →
      s.OwnsLocal s.nextAuditSequence policyDelete
  | pause existing hash nowMs =>
    s.IsAuthorized (.pause existing hash nowMs) →
      s.OwnsLocal (s.pauseNumber existing) remoteAccessPause
  | resume nowMs =>
    s.IsAuthorized (.resume nowMs) → s.OwnsLocal s.nextAuditSequence remoteAccessResume
  | _ => True

namespace DashboardService

/-! ### What is put keeps the identities -/

/-- An event that goes on from the record it replaces, or that owns its activity. -/
def Faithful (s : DashboardService) (current : Option ActivityEvent) (event : ActivityEvent) : Prop :=
  (∃ record, current = some record ∧ event.identity = record.identity) ∨
    s.Owns event.activityId event.identity

section

variable {s s' : DashboardService}

variable {record event : ActivityEvent} {current : Option ActivityEvent} {access : AccessRequest}
  {nowMs : ℕ} {call : ServiceCall}

section

omit [Sha256]

/-- **Faithful events keep every identity.** -/
theorem identity_of_puts (h : Puts s.Faithful s s') {id : ActivityId}
    (hlookup : s.activities.lookup id = some record) :
    (s'.activities.lookup id).map ActivityEvent.identity = some record.identity := by
  refine h.keeps (I := fun activities =>
    (activities.lookup id).map ActivityEvent.identity = some record.identity) ?_ ?_
  · intro activities event ih hevent
    rw [Map.lookup_insert]
    split
    · rename_i hid
      rw [hid] at hlookup ih
      rcases hevent with ⟨before, hbefore, hidentity⟩ | howns
      · -- The record that is replaced has kept the identity so far.
        rw [hbefore, Option.map_some, Option.some_inj] at ih
        rw [Option.map_some, hidentity, ih]
      · rw [Option.map_some, howns record hlookup]
    · exact ih
  · rw [hlookup, Option.map_some]

theorem faithful_of_goesOn (hcurrent : current = some record) (hgoesOn : event.GoesOn record) :
    s.Faithful current event :=
  .inl ⟨record, hcurrent, hgoesOn.identity⟩

theorem faithful_of_about (habout : event.About access)
    (howns : s.Owns access.activityId access.identity) : s.Faithful current event := by
  refine .inr ?_
  rw [habout.activityId, habout.identity]
  exact howns

theorem faithful_of_local {number : ℕ} {operation : OperationId}
    (hput : LocalPut s.localHostId number operation event) (howns : s.OwnsLocal number operation) :
    s.Faithful current event := by
  refine .inr ?_
  rw [hput.identity]
  exact howns _ hput.activityId

end

theorem getsThrough_of_put {nonce : String} {session : AuthenticatedTargetSession}
    {decision : ApprovalDecision} (h : s.DecisionPut nonce session access decision nowMs current event) :
    s.GetsThrough nonce session access decision nowMs ∧ event.activityId = access.activityId ∧
      (s.Owns access.activityId access.identity → s.Faithful current event) := by
  cases h with
  | decided current event hasks htakes habout =>
    exact ⟨⟨hasks, .inr htakes⟩, habout.activityId, faithful_of_about habout⟩
  | expired current event hasks hexpired hid hgoesOn =>
    exact ⟨⟨hasks, .inl hexpired⟩, hgoesOn.activityId.trans hid, fun _ =>
      faithful_of_goesOn rfl hgoesOn⟩

/-! ### Calls that are not authorized -/

theorem sameActivities_of_unauthorized {operation : OperationId} {resource : ResourceClass}
    {mutationDigest : Option String} {α : Type} {f : Unit → ServiceEff α}
    (h : ((authorizeAdmin operation resource mutationDigest nowMs).exec s).1 ≠ .ok ()) :
    ((authorizeAdmin operation resource mutationDigest nowMs >>= f).exec s).2.activities
      = s.activities := by
  have hsame := sameActivities_authorizeAdmin operation resource mutationDigest nowMs s
  rcases hexec : (authorizeAdmin operation resource mutationDigest nowMs).exec s with ⟨outcome, _⟩
  rw [hexec] at h hsame
  cases outcome with
  | ok => exact absurd rfl h
  | error =>
    rw [exec_bind_error hexec]
    exact hsame

theorem sameActivities_of_mutation {mutation : AdminMutation} {resource : ResourceClass} {α : Type}
    {f : Unit → ServiceEff α} (h : ∃ ask ∈ mutationAsk mutation resource nowMs,
      ((authorizeAdmin ask.operation ask.resource ask.mutationDigest ask.nowMs).exec s).1 ≠ .ok ()) :
    ((orThrow .returned mutation.digest >>= fun digest =>
      authorizeAdmin mutation.operationAndResource.1 resource (some digest) nowMs >>= f).exec
        s).2.activities = s.activities := by
  obtain ⟨ask, hask, hrefused⟩ := h
  rw [mutationAsk] at hask
  rw [exec_orThrow_bind]
  cases hdigest : mutation.digest with
  | error => rfl
  | ok =>
    rw [hdigest] at hask
    cases hask
    exact sameActivities_of_unauthorized hrefused

/-- A call that records something of the local user interface records nothing if it is not authorized. -/
theorem sameActivities_of_not_isAuthorized (h : ¬s.IsAuthorized call) :
    (call.next s).activities = s.activities := by
  rw [IsAuthorized] at h
  push Not at h
  cases call with
  | putPolicyRule | putPolicyRuleExact => exact sameActivities_of_mutation h
  | deletePolicyRule | deletePolicyRuleIfRevision =>
    rw [ServiceCall.next, ServiceCall.program, exec_dropValue]
    exact sameActivities_of_mutation h
  | deleteAudit | deleteAuditExact =>
    exact within_dropValue (sameActivities_deleteAuditExact _ _ _) s
  | cancelActivity =>
    obtain ⟨ask, hask, hrefused⟩ := h
    cases hask
    rw [ServiceCall.next, ServiceCall.program, exec_dropValue]
    exact sameActivities_of_unauthorized hrefused
  | pause | resume =>
    obtain ⟨ask, hask, hrefused⟩ := h
    cases hask
    exact sameActivities_of_unauthorized hrefused
  | applyConnectionChange =>
    exact sameActivities_applyConnectionChange _ _ _ s
  | _ =>
    obtain ⟨ask, hask, -⟩ := h
    cases hask

/-! ### One call -/

/-- **What a call that keeps to its activities puts is faithful.** -/
theorem faithful_next (hs : s.Keyed) (hcall : call.KeepsTo s) : Puts s.Faithful s (call.next s) := by
  -- What the local user interface records is looked at only if the call is authorized.
  have hlocal : ∀ number operation, (s.IsAuthorized call → s.OwnsLocal number operation) →
      (∀ current event, s.OwnsLocal number operation → call.Puts s current event →
        s.Faithful current event) →
      Puts s.Faithful s (call.next s) := by
    intro number operation howns hputs
    by_cases hauthorized : s.IsAuthorized call
    · exact (puts_next hs call).mono fun current event => hputs current event (howns hauthorized)
    · exact .of_same hs (sameActivities_of_not_isAuthorized hauthorized)
  cases call with
  | putPolicyRule | putPolicyRuleExact | deletePolicyRule | deletePolicyRuleIfRevision =>
    exact hlocal _ _ hcall fun _ _ howns hput => faithful_of_local hput howns
  | resume => exact hlocal _ _ hcall fun _ _ howns hput => faithful_of_local hput howns
  | pause =>
    refine hlocal _ _ hcall fun current event howns hput => ?_
    rcases hput with ⟨-, record, hcurrent, hend⟩ | hput
    · exact faithful_of_goesOn hcurrent hend.goesOn
    · exact faithful_of_local hput howns
  | recordPreapprovalTargetOffline =>
    refine (puts_next hs _).mono fun current event hput => ?_
    obtain ⟨hhealthy, habout, -⟩ := hput
    exact faithful_of_about habout (hcall hhealthy)
  | requestApproval =>
    exact (puts_next hs _).mono fun current event hput =>
      faithful_of_about hput.about (hcall hput.looks)
  | requestAdminMutationApproval =>
    refine (puts_next hs _).mono fun current event hput => ?_
    obtain ⟨access, hasks, hput⟩ := hput
    exact faithful_of_about hput.about (hcall access hasks hput.looks)
  | decideApproval =>
    refine (puts_next hs _).mono fun current event hput => ?_
    obtain ⟨hthrough, -, hfaithful⟩ := getsThrough_of_put hput
    exact hfaithful (hcall hthrough)
  | decidePendingApproval =>
    refine (puts_next hs _).mono fun current event hput => ?_
    obtain ⟨pending, hpending, hput⟩ := hput
    obtain ⟨hthrough, -, hfaithful⟩ := getsThrough_of_put hput
    exact hfaithful (hcall pending hpending hthrough)
  | recordActivity event =>
    refine (puts_next hs _).mono fun current put hput => .inr ?_
    obtain rfl : put = event := hput
    exact hcall
  | transitionActivity =>
    refine (puts_next hs _).mono fun current event hput => ?_
    obtain ⟨record, hcurrent, hput⟩ := hput
    exact faithful_of_goesOn hcurrent hput.goesOn
  | recordAuditUnavailableTerminal | cancelActivity =>
    refine (puts_next hs _).mono fun current event hput => ?_
    obtain ⟨record, hcurrent, -, hput⟩ := hput
    exact faithful_of_goesOn hcurrent hput.goesOn
  | reconcileAfterRestart =>
    refine (puts_next hs _).mono fun current event hput => .inr fun other hother => ?_
    obtain ⟨record, hrecord, -, hput⟩ := hput
    obtain rfl : record = other := Option.some.inj (hrecord.symm.trans hother)
    exact hput.goesOn.identity.symm
  | _ => exact (puts_next hs _).mono fun _ _ hput => hput.elim

/-- **What is asked for another access leaves the records alone.** -/
theorem sameActivities_of_foreign (hs : s.Keyed) (hcall : call.KeepsTo s)
    (hasks : call.AsksAbout s access) (hlookup : s.activities.lookup access.activityId = some record)
    (hforeign : record.identity ≠ access.identity) : (call.next s).activities = s.activities := by
  have hnone : ∀ {P : Option ActivityEvent → ActivityEvent → Prop}, call.Puts s = P →
      (∀ current event, ¬P current event) → (call.next s).activities = s.activities := by
    intro P hP hnot
    refine (puts_next hs call).keeps (I := fun activities => activities = s.activities) ?_ rfl
    intro activities event _ hput
    rw [hP] at hput
    exact absurd hput (hnot _ _)
  cases call with
  | requestApproval asked =>
    obtain rfl : access = asked := hasks
    exact hnone rfl fun current event hput => hforeign (hcall hput.looks record hlookup)
  | requestAdminMutationApproval =>
    refine hnone rfl fun current event hput => ?_
    obtain ⟨asked, hasked, hput⟩ := hput
    obtain rfl := hasks.unique hasked
    exact hforeign (hcall access hasks hput.looks record hlookup)
  | decideApproval nonce session asked =>
    obtain rfl : access = asked := hasks
    exact hnone rfl fun current event hput =>
      hforeign (hcall (getsThrough_of_put hput).1 record hlookup)
  | decidePendingApproval =>
    obtain ⟨pending, hpending, rfl⟩ := hasks
    refine hnone rfl fun current event hput => ?_
    obtain ⟨other, hother, hput⟩ := hput
    obtain rfl : pending = other := Option.some.inj (hpending.symm.trans hother)
    exact hforeign (hcall pending hpending (getsThrough_of_put hput).1 record hlookup)
  | _ => exact hasks.elim


theorem identity_next (hs : s.Keyed) (hcall : call.KeepsTo s) {id : ActivityId}
    (hlookup : s.activities.lookup id = some record) :
    ((call.next s).activities.lookup id).map ActivityEvent.identity = some record.identity :=
  identity_of_puts (faithful_next hs hcall) hlookup

end

/-! ### Runs -/

/-- Every call of the run writes only what it owns. -/
def RespectsIdentities (s : DashboardService) (calls : List ServiceCall) : Prop :=
  AllSteps (fun s call => ServiceCall.next call s) (fun s call => call.KeepsTo s) calls s

theorem keyed_runCalls {s : DashboardService} (hs : s.Keyed) (calls : List ServiceCall) :
    (runCalls calls s).Keyed := by
  induction calls generalizing s with
  | nil => exact hs
  | cons call calls ih => exact ih (puts_next hs call).keyed

/-- **The identities over a run.** -/
theorem identity_run {s : DashboardService} (hs : s.Keyed) {calls : List ServiceCall}
    (hcalls : s.RespectsIdentities calls) {id : ActivityId} {record : ActivityEvent}
    (hlookup : s.activities.lookup id = some record) :
    ((runCalls calls s).activities.lookup id).map ActivityEvent.identity = some record.identity := by
  induction calls generalizing s record with
  | nil => rw [runCalls_nil, hlookup, Option.map_some]
  | cons call calls ih =>
    obtain ⟨_, hnext, hidentity⟩ :=
      Option.map_eq_some_iff.1 (identity_next hs hcalls.1 hlookup)
    rw [runCalls_cons, ih (puts_next hs call).keyed hcalls.2 hnext, hidentity]

/-- **In every run of calls that write only what they own the activities keep their identities**, and
what is asked for another access under the identifier of an activity leaves its record alone. -/
theorem keepsIdentities_of_run {s : DashboardService} (hs : s.Reachable) {calls : List ServiceCall}
    (hcalls : s.RespectsIdentities calls) : s.KeepsIdentities calls := by
  have hkeyed : s.Keyed := fun id event hlookup =>
    (soundActivities_of_reachable hs id event hlookup).1
  constructor
  · rintro before after id record rfl hlookup
    have hafter := (allSteps_append.1 hcalls).2
    rw [runCalls_append]
    exact identity_run (keyed_runCalls hkeyed before) hafter hlookup
  · rintro before call after access record rfl hasks hlookup hforeign
    have hcall := (allSteps_append.1 hcalls).2.1
    have hsame := sameActivities_of_foreign (keyed_runCalls hkeyed before) hcall hasks hlookup hforeign
    rw [hsame, hlookup, Option.map_some]

/-! ### An identifier that is used again -/

def takenUp : DashboardService :=
  { sampleService with
    events := sampleService.events.pushed "first" EventJournal.sampleEvent
    activities := sampleService.activities.insert EventJournal.sampleEvent.activityId
      EventJournal.sampleEvent }

theorem exec_takenUp :
    (recordActivity EventJournal.sampleEvent "first").exec sampleService = (.ok (), takenUp) ∧
      takenUp.Calm 1 := exec_first

theorem reachable_sampleService : sampleService.Reachable :=
  ⟨sampleService, [], .new _ (.withBounds 1 0 Dashboard.maxEvents maxEventBytes) _ _, rfl⟩

omit [Sha256] in
theorem requestKey_ne_first (nonce : String) : "approval-request:" ++ nonce ≠ "first" := by
  intro heq
  have hchar := congrArg (fun text : String => text.toList[0]?) heq
  simp only [String.toList_append] at hchar
  rw [List.getElem?_append_left (by decide)] at hchar
  exact absurd hchar (by decide)

omit [Sha256] in
theorem idText_stranger : IdText "stranger" := by decide

def strangeRequest : AccessRequest :=
  { PolicyEngine.sampleRequest with principalId := ⟨"stranger", idText_stranger⟩ }

theorem asks_strangeRequest : takenUp.Asks strangeRequest 0 PolicyEngine.sampleNonce where
  running := rfl
  host := rfl
  undecided := PolicyEngine.evaluate_of_no_rules rfl rfl 0
  valid := rfl
  plain := rfl
  first := rfl
  free _ hrule := absurd hrule List.not_mem_nil
  firstDay := by decide
  sequence_lt := by
    have hlookup : takenUp.activities.lookup strangeRequest.activityId
        = some EventJournal.sampleEvent := Map.lookup_insert_self _ _ _
    rw [nextSequence, hlookup]
    decide
  fresh := Map.lookup_insert_ne (requestKey_ne_first _) _
  expected := by
    have hlookup : takenUp.activities.lookup strangeRequest.activityId
        = some EventJournal.sampleEvent := Map.lookup_insert_self _ _ _
    have hsequence : takenUp.events.activitySequences.lookup strangeRequest.activityId = some 1 :=
      Map.lookup_insert_self _ _ _
    rw [hsequence, nextSequence, hlookup]
    rfl

/-- In every run the activities keep their identities. -/
def AlwaysKeepsIdentities : Prop :=
  ∀ (s : DashboardService) (calls : List ServiceCall), s.Reachable → s.KeepsIdentities calls

omit [Sha256] in
/-- The request of another principal takes the queued activity over. -/
theorem not_alwaysKeepsIdentities : ¬∃ _ : Sha256, AlwaysKeepsIdentities := by
  rintro ⟨_, halways⟩
  obtain ⟨hfirst, hcalm⟩ := exec_takenUp
  obtain ⟨audit, hexec, -⟩ := hcalm.requestApproval (by decide : 1 < 30)
    (fun _ => PolicyEngine.sampleNonce) (by decide : 1000 ≠ 0) asks_strangeRequest
  have hrecorded : ServiceCall.next (.recordActivity EventJournal.sampleEvent "first") sampleService
      = takenUp := next_of_exec hfirst
  have hrequested : ServiceCall.next
      (.requestApproval strangeRequest 1000 0 fun _ => PolicyEngine.sampleNonce) takenUp
      = takenUp.requested audit strangeRequest 1000 0 PolicyEngine.sampleNonce := by
    rw [ServiceCall.next, ServiceCall.program, exec_dropValue]
    exact congrArg Prod.snd hexec
  have hkeeps := halways sampleService
    [.recordActivity EventJournal.sampleEvent "first",
      .requestApproval strangeRequest 1000 0 fun _ => PolicyEngine.sampleNonce]
    reachable_sampleService
  have hidentity := hkeeps.identity [.recordActivity EventJournal.sampleEvent "first"] _
    EventJournal.sampleEvent.activityId EventJournal.sampleEvent rfl
  rw [runCalls_cons, hrecorded, runCalls_nil, runCalls_cons, hrecorded, runCalls_cons, hrequested,
    runCalls_nil] at hidentity
  have hlookup : (takenUp.requested audit strangeRequest 1000 0
      PolicyEngine.sampleNonce).activities.lookup EventJournal.sampleEvent.activityId
        = some (requestEvent strangeRequest (takenUp.nextSequence strangeRequest.activityId) 0
          (waitId PolicyEngine.sampleNonce)) := Map.lookup_insert_self _ _ _
  have hsame := hidentity (Map.lookup_insert_self _ _ _)
  rw [hlookup, Option.map_some, Option.some_inj] at hsame
  have hprincipal : strangeRequest.principalId = EventJournal.sampleEvent.principalId :=
    congrArg Identity.principalId hsame
  exact absurd hprincipal (by decide)

omit [Sha256] in
/-- A request of the same principal for the same access keeps to its activity. -/
theorem sampleRequest_keepsIdentities : letI := EventJournal.eventHash
    sampleService.KeepsIdentities
      [.recordActivity EventJournal.sampleEvent "first",
        .requestApproval PolicyEngine.sampleRequest 1000 0 fun _ => PolicyEngine.sampleNonce] := by
  let _ := EventJournal.eventHash
  have hrecorded : ServiceCall.next (.recordActivity EventJournal.sampleEvent "first") sampleService
      = takenUp := next_of_exec exec_takenUp.1
  refine keepsIdentities_of_run reachable_sampleService ⟨fun record hlookup => ?_, ?_⟩
  · cases hlookup
  · change AllSteps _ _ _
      (ServiceCall.next (.recordActivity EventJournal.sampleEvent "first") sampleService)
    rw [hrecorded]
    refine ⟨fun _ record hlookup => ?_, trivial⟩
    have hsample : takenUp.activities.lookup PolicyEngine.sampleRequest.activityId
        = some EventJournal.sampleEvent := Map.lookup_insert_self _ _ _
    obtain rfl : EventJournal.sampleEvent = record := Option.some.inj (hsample.symm.trans hlookup)
    rfl

end DashboardService

end Dashboard
