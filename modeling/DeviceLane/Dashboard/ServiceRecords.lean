/-
**What the service records and waits for.**

An event becomes the current record of its activity only if it has passed the checks of the journal. An
approval is waited for after a valid request, under the identifier that belongs to its nonce, or it
has been taken over from a checkpoint. All other calls keep what is waited for, bind it to a mutation
or stop waiting. So what holds of such approvals from the start holds of them for ever.

Main definitions:

* `Dashboard.DashboardService.AllPending` — a property of everything that is waited for.

Main results:

* `AllPending.next`, `AllPending.runCalls` — **a property of new approvals is one of all of them**.
-/

import DeviceLane.Dashboard.ServiceApprovals
import DeviceLane.Dashboard.ServiceAuditLoss
import DeviceLane.Dashboard.ServiceRestart
import DeviceLane.Dashboard.Snapshot

namespace Dashboard

open Effect

variable [Sha256]

namespace DashboardService

variable {s restored s' : DashboardService}

/-! ### Activities -/

/-- Every current record is an event that can be serialized, under its own identifier. -/
def SoundActivities (s : DashboardService) : Prop :=
  ∀ id event, s.activities.lookup id = some event → event.activityId = id ∧ event.toVec.isOk = true

omit [Sha256] in
theorem toVec_isOk_iff {event : ActivityEvent} : event.toVec.isOk = true ↔
    event.validate = .ok () ∧ ∀ m ∈ event.message, m.validate = .ok () := by
  constructor
  · intro h
    cases hbytes : event.toVec with
    | error =>
      rw [hbytes] at h
      cases h
    | ok =>
      obtain ⟨hvalid, hmessage, -⟩ := EventJournal.toVec_eq_ok.1 hbytes
      exact ⟨hvalid, hmessage⟩
  · rintro ⟨hvalid, hmessage⟩
    rw [EventJournal.toVec_eq_ok.2 ⟨hvalid, hmessage, rfl⟩]
    rfl

omit [Sha256] in
theorem SoundActivities.insert (h : s.SoundActivities) {event : ActivityEvent}
    (hbytes : event.toVec.isOk = true) {id : ActivityId} {other : ActivityEvent}
    (hlookup : (s.activities.insert event.activityId event).lookup id = some other) :
    other.activityId = id ∧ other.toVec.isOk = true := by
  rw [Map.lookup_insert] at hlookup
  split at hlookup
  · cases hlookup
    exact ⟨(‹id = event.activityId›).symm, hbytes⟩
  · exact h id other hlookup

theorem soundActivities_recordActivity (event : ActivityEvent) (idempotencyKey : String) :
    Within (Preserves SoundActivities) (recordActivity event idempotencyKey) := by
  intro s hs
  rw [exec_recordActivity]
  cases hplan : s.events.plan idempotencyKey event with
  | error => exact hs
  | ok planned =>
    have hbytes : event.toVec.isOk = true := by
      obtain ⟨_, hchecked, -⟩ := bind_eq_ok.1 hplan
      rw [(EventJournal.checkEvent_inv hchecked).2.2]
      rfl
    cases planned with
    | none => exact fun id other hlookup => hs.insert hbytes hlookup
    | some =>
      dsimp only
      split
      · exact hs
      · exact fun id other hlookup => hs.insert hbytes hlookup

theorem fullFrame_soundActivities : FullFrame (Preserves SoundActivities) where
  appendAudit record := (sameActivities_appendAudit record).mono fun s s' h hs => by
    rwa [SoundActivities, h]
  recordActivity := soundActivities_recordActivity
  persistState activities s hs := by
    rw [exec_persistState]
    exact hs
  deleteAudit _ _ _ hs := hs
  unhealthy _ hs := hs
  adminGrants _ _ hs := hs
  paused _ _ hs := hs
  rules _ _ hs := hs
  subscribers _ _ hs := hs
  core _ _ _ _ hs := hs

theorem serializes_of_digest {payload : ActivityCheckpointPayload} {digest : String}
    (h : payload.digest = .ok digest) : payload.Serializes := by
  rw [ActivityCheckpointPayload.digest, failIf_bind] at h
  split at h
  · cases h
  · exact not_not.1 ‹_›

omit [Sha256] in
theorem soundActivities_of_restored {activities : List ActivityEvent} (hempty : s.activities = ∅)
    (hserializes : ∀ event ∈ activities, event.toVec.isOk = true)
    (h : (restoreActivities activities).exec s = (.ok (), restored)) : restored.SoundActivities := by
  intro _ event hlookup
  obtain ⟨hmem, hid⟩ := mem_of_restored hempty h hlookup
  exact ⟨hid, hserializes event hmem⟩

theorem soundActivities_of_takenOver {checkpoint : ActivityCheckpoint} {hash : HashOrder ActivityEvent}
    {nowMs : ℕ} {engine : PolicyEngine} (hempty : s.activities = ∅)
    (h : TakenOver checkpoint hash nowMs s restored engine s') : s'.SoundActivities := by
  have hserializes := (serializes_of_digest h.digest).activities
  have hrestored := soundActivities_of_restored hempty hserializes h.activities
  have hreconciled := fullFrame_soundActivities.reconcile nowMs
    (hash.order restored.activeActivities) (restored.withPayload checkpoint.payload engine) hrestored
  rwa [h.reconciled] at hreconciled

theorem reachable_induction {P : DashboardService → Prop} (h : s.Reachable)
    (hnew : ∀ localHostId events audit policy checkpoint,
      P { new localHostId events audit policy with checkpoint })
    (htaken : ∀ localHostId events audit policy file checkpoint hash nowMs restored engine s',
      TakenOver checkpoint hash nowMs
        { new localHostId events audit policy with checkpoint := some file } restored engine s' →
      P s') (hcalls : ∀ s call, P s → P (ServiceCall.next call s)) : P s := by
  obtain ⟨s₀, calls, hstarted, rfl⟩ := h
  have hstart : P s₀ := by
    cases hstarted with
    | new => exact hnew _ _ _ _ none
    | newPersistent localHostId hevents audit policy file read hash nowMs hok =>
      cases read with
      | error => cases hok
      | ok content =>
        cases content with
        | none => exact hnew _ _ _ _ (some file)
        | some =>
          obtain ⟨restored, engine, htakenOver⟩ := restore_ok (Prod.ext hok rfl)
          exact htaken _ _ _ _ _ _ _ _ _ _ _ htakenOver
  exact Preserves.foldl (fun s call => hcalls s call) calls s₀ hstart

/-- **In every state of the service every current record is sound.** -/
theorem soundActivities_of_reachable (h : s.Reachable) : s.SoundActivities := by
  refine reachable_induction h (fun _ _ _ _ _ => ?_) (fun _ _ _ _ _ _ _ _ _ _ _ htaken => ?_)
    fun s call hs => fullFrame_soundActivities.program call s hs
  · intro _ _ hlookup
    cases hlookup
  · exact soundActivities_of_takenOver rfl htaken

/-! ### What a request adds -/

structure Offered (access : AccessRequest) (lifetimeMs nowMs : ℕ) (random : ℕ → Digest)
    (challenge : ApprovalChallenge) (id : ApprovalId) : Prop where
  valid : validateRequest access = .ok ()
  lifetime_ne : lifetimeMs ≠ 0
  nonce : ∃ attempt, challenge.nonce = hex (random attempt).toList
  expires : challenge.expiresAtMs = PolicyEngine.expiry nowMs lifetimeMs
  id_eq : approvalIdOf challenge.nonce = .ok id

/-- Everything that is waited for was waited for before, up to the mutation it is bound to. -/
def NothingNew (s s' : DashboardService) : Prop :=
  ∀ id pending, s'.pending.lookup id = some pending →
    ∃ before, s.pending.lookup id = some before ∧ before.core = pending.core

instance : Std.Refl NothingNew := ⟨fun _ _ pending hlookup => ⟨pending, hlookup, rfl⟩⟩

instance : IsTrans DashboardService NothingNew where
  trans s s' s'' h h' := by
    intro id pending hlookup
    obtain ⟨middle, hmiddle, hcore⟩ := h' id pending hlookup
    obtain ⟨before, hbefore, hcore'⟩ := h id middle hmiddle
    exact ⟨before, hbefore, hcore'.trans hcore⟩

omit [Sha256] in
theorem SameApprovals.nothingNew (h : SameApprovals s s') :
    NothingNew s s' := fun _ _ hlookup => h.lookup hlookup

inductive Asked (access : AccessRequest) (lifetimeMs nowMs : ℕ) (random : ℕ → Digest)
    (s s' : DashboardService) : Prop
  | kept (h : NothingNew s s')
  | waits (challenge : ApprovalChallenge) (id : ApprovalId)
      (hoffered : Offered access lifetimeMs nowMs random challenge id)
      (hpending : s'.pending = s.pending.insert id (pendingFor id challenge access nowMs))

section

variable {access : AccessRequest} {lifetimeMs nowMs : ℕ} {random : ℕ → Digest}

/-- **What a request does to the approvals that are waited for.** -/
theorem asked_requestApproval (access : AccessRequest) (lifetimeMs nowMs : ℕ) (random : ℕ → Digest)
    (s : DashboardService) : Asked access lifetimeMs nowMs random s
      ((requestApproval access lifetimeMs nowMs random).exec s).2 := by
  rcases requestApproval_cases access lifetimeMs nowMs random s with
    hsame | ⟨s₁, challenge, nextPolicy, hcore, hcreated, hexec⟩
  · exact .kept hsame.sameApprovals.nothingNew
  rw [hexec]
  rcases awaitApproval_cases access challenge nextPolicy nowMs s₁ rfl with
    hsame | ⟨id, hid, ⟨hpending, -⟩ | ⟨hpending, -⟩⟩
  · exact .kept (IsTrans.trans _ _ _ hcore hsame).sameApprovals.nothingNew
  · rcases PolicyEngine.exec_createApproval s₁.policy access nowMs lifetimeMs random with
      ⟨fault, hoffer⟩ | ⟨fault, hoffer⟩ | ⟨_, _, hvalid, hlifetime, -, hnonce, -, hoffer⟩
    · cases hcreated.symm.trans hoffer
    · cases hcreated.symm.trans hoffer
    · cases hcreated.symm.trans hoffer
      refine .waits _ id ⟨hvalid, hlifetime, hnonce, rfl, hid⟩ ?_
      rw [hpending, hcore.pending]
  · -- The approval is not waited for any more, nor is one that it has taken the place of.
    refine .kept fun id' pending hlookup => ⟨pending, ?_, rfl⟩
    rw [hpending, hcore.pending] at hlookup
    split at hlookup
    · cases hlookup
    · exact hlookup

theorem asked_requestAdminMutationApproval (mutation : AdminMutation) (lifetimeMs nowMs : ℕ)
    (random : ℕ → Digest) (s : DashboardService) :
    NothingNew s ((requestAdminMutationApproval mutation lifetimeMs nowMs random).exec s).2 ∨
      ∃ access requested, Asked access lifetimeMs nowMs random s requested ∧
        NothingNew requested
          ((requestAdminMutationApproval mutation lifetimeMs nowMs random).exec s).2 := by
  rw [requestAdminMutationApproval]
  cases mutation.digest with
  | error => exact .inl (refl s)
  | ok digest =>
    rw [exec_bind_ok (exec_orThrow _ _ _)]
    cases takeBytes 16 digest.toList with
    | none => exact .inl (refl s)
    | some start =>
      rw [exec_okOr_some_bind]
      cases (parseId ("admin-" ++ String.ofList start) :
        Except (Fault DashboardServiceError) ActivityId) with
      | error fault => exact .inl (refl s)
      | ok activityId =>
        rw [exec_bind_ok (exec_orThrow _ _ _), exec_bind_ok (exec_get _)]
        dsimp only
        generalize adminRequest s.localHostId activityId _ _ = access
        refine .inr ⟨access, _, asked_requestApproval access lifetimeMs nowMs random s, ?_⟩
        rw [exec_bind]
        generalize (requestApproval access lifetimeMs nowMs random).exec s = requested
        rcases requested with ⟨outcome, s₁⟩
        cases outcome with
        | error => exact refl s₁
        | ok created =>
          refine SameApprovals.nothingNew ?_
          exact Within.bind (sameApprovals_bindMutation created.nonce digest)
            (fun _ => .pure _) s₁

end

/-! ### Decisions -/

omit [Sha256] in
theorem lookup_erasePending {entry : Option (ApprovalId × Pending)} {pending : Map ApprovalId Pending}
    {id : ApprovalId} {p : Pending} (h : (erasePending entry pending).lookup id = some p) :
    pending.lookup id = some p := by
  cases entry with
  | none => exact h
  | some =>
    rw [erasePending, Map.lookup_erase] at h
    split at h
    · cases h
    · exact h

theorem nothingNew_decideApproval (nonce : String) (session : AuthenticatedTargetSession)
    (access : AccessRequest) (decision : ApprovalDecision) (nowMs : ℕ) :
    Within NothingNew (decideApproval nonce session access decision nowMs) := by
  intro s
  have hdecides := decides_decideApproval nonce session access decision nowMs s
  revert hdecides
  generalize (decideApproval nonce session access decision nowMs).exec s = outcome
  intro hdecides
  cases hdecides with
  | refused fault hsame => exact hsame.nothingNew
  | expired fault approval hlookup hexpired hpending =>
    intro id pending hwaits
    rw [hpending] at hwaits
    exact ⟨pending, lookup_erasePending hwaits, rfl⟩
  | redeemed createdRule approval hredeems hpending =>
    intro id pending hwaits
    rw [hpending] at hwaits
    exact ⟨pending, lookup_erasePending hwaits, rfl⟩

/-! ### A property of all of them -/

def Unbound (Q : ApprovalId → Pending → Prop) : Prop :=
  ∀ id pending pending', pending.core = pending'.core → Q id pending → Q id pending'

def AllPending (Q : ApprovalId → Pending → Prop) (s : DashboardService) : Prop :=
  ∀ id pending, s.pending.lookup id = some pending → Q id pending

def HoldsOfNew (Q : ApprovalId → Pending → Prop) (nowMs : ℕ) : Prop :=
  ∀ access lifetimeMs random challenge id, Offered access lifetimeMs nowMs random challenge id →
    Q id (pendingFor id challenge access nowMs)

namespace AllPending

variable {Q : ApprovalId → Pending → Prop} {s s' : DashboardService}

omit [Sha256] in
theorem nothingNew (h : AllPending Q s) (hQ : Unbound Q) (hnew : NothingNew s s') :
    AllPending Q s' := by
  intro id pending hlookup
  obtain ⟨before, hbefore, hcore⟩ := hnew id pending hlookup
  exact hQ id before pending hcore (h id before hbefore)

theorem asked (h : AllPending Q s) (hQ : Unbound Q) {access : AccessRequest} {lifetimeMs nowMs : ℕ}
    {random : ℕ → Digest} (hnew : HoldsOfNew Q nowMs)
    (hasked : Asked access lifetimeMs nowMs random s s') : AllPending Q s' := by
  cases hasked with
  | kept hkept => exact h.nothingNew hQ hkept
  | waits challenge id hoffered hpending =>
    intro id' pending hlookup
    rw [hpending, Map.lookup_insert] at hlookup
    split at hlookup
    · rename_i hid
      cases hlookup
      rw [hid]
      exact hnew _ _ _ _ _ hoffered
    · exact h id' pending hlookup

/-- **One call.** -/
theorem next (h : AllPending Q s) (hQ : Unbound Q) {call : ServiceCall}
    (hnew : HoldsOfNew Q call.time) : AllPending Q (call.next s) := by
  rw [ServiceCall.next]
  cases habout : call.isAboutApprovals with
  | false => exact h.nothingNew hQ (frame_sameApprovals.program habout s).nothingNew
  | true =>
    cases call with
    | requestApproval =>
      rw [ServiceCall.program, exec_dropValue]
      exact h.asked hQ hnew (asked_requestApproval _ _ _ _ s)
    | requestAdminMutationApproval mutation lifetimeMs nowMs random =>
      rw [ServiceCall.program, exec_dropValue]
      rcases asked_requestAdminMutationApproval mutation lifetimeMs nowMs random s with
        hkept | ⟨access, requested, hasked, hkept⟩
      · exact h.nothingNew hQ hkept
      · exact (h.asked hQ hnew hasked).nothingNew hQ hkept
    | decideApproval =>
      rw [ServiceCall.program, exec_dropValue]
      exact h.nothingNew hQ (nothingNew_decideApproval _ _ _ _ _ s)
    | decidePendingApproval =>
      rw [ServiceCall.program, exec_dropValue]
      refine h.nothingNew hQ ?_
      exact Within.get (fun s => Within.bind (R := NothingNew) (.okOr _ _)
        (fun pending => nothingNew_decideApproval _ _ _ _ _) s) s
    | _ => cases habout

end AllPending

/-! ### Approvals that could be taken over -/

/-- What taking over an approval checks, besides the time of its request. -/
structure Restorable (id : ApprovalId) (pending : Pending) : Prop where
  id_eq : pending.request.id = id
  nonce_ne : pending.nonce ≠ ""
  resources : validateUniqueResources pending.request.resources = .ok ()
  expires_ne : pending.request.expiresAtMs ≠ 0
  access : validateRequest pending.access = .ok ()

theorem unbound_restorable : Unbound Restorable := by
  intro _ pending pending' hcore h
  obtain ⟨hnonce, hrequest, haccess⟩ : pending.nonce = pending'.nonce ∧
      pending.request = pending'.request ∧ pending.access = pending'.access := by
    simpa [Pending.core] using hcore
  exact ⟨hrequest ▸ h.id_eq, hnonce ▸ h.nonce_ne, hrequest ▸ h.resources, hrequest ▸ h.expires_ne,
    haccess ▸ h.access⟩

theorem holdsOfNew_restorable (nowMs : ℕ) : HoldsOfNew Restorable nowMs := by
  intro _ _ random challenge _ hoffered
  refine ⟨rfl, ?_, validateUniqueResources_of_request hoffered.valid, ?_, hoffered.valid⟩
  · obtain ⟨attempt, hattempt⟩ := hoffered.nonce
    change challenge.nonce ≠ ""
    intro hempty
    have hsize := Json.utf8ByteSize_hex (random attempt).toList
    rw [← hattempt, hempty, Endian.Block.toList_length] at hsize
    cases hsize
  · change challenge.expiresAtMs ≠ 0
    have hlifetime := hoffered.lifetime_ne
    have hmax : maxApprovalLifetimeMs ≠ 0 := by decide
    have hu64 : u64Max ≠ 0 := by decide
    rw [hoffered.expires, PolicyEngine.expiry, saturatingAdd]
    omega

theorem restorable_of_takenOver {checkpoint : ActivityCheckpoint} {hash : HashOrder ActivityEvent}
    {nowMs : ℕ} {engine : PolicyEngine} (h : TakenOver checkpoint hash nowMs s restored engine s') :
    AllPending Restorable s' := by
  have hcore := writes_sameCore.reconcile nowMs (hash.order restored.activeActivities)
    (restored.withPayload checkpoint.payload engine)
  rw [h.reconciled] at hcore
  intro id pending hlookup
  rw [hcore.pending] at hlookup
  obtain ⟨hid, hnonce, hexpires⟩ := h.pending (id, pending) (Map.mem_toList.2 hlookup)
  obtain ⟨hrequest, haccess⟩ := (serializes_of_digest h.digest).pending pending (Map.mem_values.2 ⟨id, hlookup⟩)
  rw [ApprovalRequest.validate, check_bind_eq_ok] at hrequest
  exact ⟨hid, hnonce, hrequest.1, hexpires, haccess⟩

/-- **In every state of the service what is waited for could be taken over.** -/
theorem restorable_of_reachable (h : s.Reachable) : AllPending Restorable s := by
  refine reachable_induction h (fun _ _ _ _ _ => ?_) (fun _ _ _ _ _ _ _ _ _ _ _ htaken => ?_)
    fun s call hs => hs.next unbound_restorable (holdsOfNew_restorable _)
  · intro _ _ hlookup
    cases hlookup
  · exact restorable_of_takenOver htaken

end DashboardService

end Dashboard
