/-
**Closing the records of activities.**

A call that moves an activity on writes an event that follows the current record, under a key made
from the identifier of the activity. What such an event needs of the journal and of the checkpoint is
said here once, for one event and for the loops that write one for each of many activities.

Main definitions:

* `Dashboard.Closing` — an event that is to follow a record, with its key.

Main results:

* `Clear.recordActivity` — **a closing that is clear is recorded**, and the others stay clear.
-/

import DeviceLane.Dashboard.ServiceRecords
import DeviceLane.Dashboard.ServiceRoom

namespace Dashboard

open Effect

/-! ### Closings -/

structure Closing where
  current : ActivityEvent
  event : ActivityEvent
  idempotencyKey : String

namespace Closing

variable {current : ActivityEvent} {nowMs : ℕ}

def observing (current : ActivityEvent) (state : ActivityState) (metrics : MetricSnapshot)
    (message : Option DisplayMessage) (nowMs : ℕ) : Closing where
  current := current
  event := current.observed (current.sequence + 1) state metrics message nowMs
  idempotencyKey := "observer:" ++ current.activityId.text ++ ":" ++ Nat.repr (current.sequence + 1)
    ++ ":" ++ state.debugName

def cancelling (nowMs : ℕ) (current : ActivityEvent) : Closing where
  current := current
  event := current.cancelled nowMs
  idempotencyKey := "cancel:" ++ current.activityId.text

def restarting (nowMs : ℕ) (current : ActivityEvent) : Closing where
  current := current
  event := current.failedWith .daemonRestarted nowMs
  idempotencyKey := "restart:" ++ current.activityId.text ++ ":"
    ++ Nat.repr (saturatingAdd current.sequence 1)

/-- What the journal checks of a closing: the clock has not been set back before the start of the
activity, the key is short and new, and the journal knows the record that is followed. -/
structure Passes (c : Closing) (inner : EventJournal) : Prop where
  started_le : ∀ started ∈ c.current.startedAtMs, started ≤ c.event.occurredAtMs
  key_le : c.idempotencyKey.utf8ByteSize ≤ 256
  fresh : inner.idempotency.lookup c.idempotencyKey = none
  inStep : inner.activitySequences.lookup c.current.activityId = some c.current.sequence
  capacity : inner.maxEvents ≠ 0
  fits : c.event.toJson.toVec.length ≤ inner.maxBytes

structure Follows (c : Closing) : Prop where
  activityId : c.event.activityId = c.current.activityId
  sequence : c.event.sequence = c.current.sequence + 1
  sequence_lt : c.current.sequence + 1 < u64Max
  serializes : c.event.toVec.isOk = true
  notBlank : trim c.idempotencyKey ≠ ""

theorem Passes.not_needsRotation {c : Closing} {inner : EventJournal} (h : c.Passes inner)
    (hfollows : c.Follows) : ¬inner.needsRotation c.event := by
  rintro ⟨hnone, -⟩
  rw [hfollows.activityId, h.inStep] at hnone
  cases hnone

theorem Passes.accepts {c : Closing} {inner : EventJournal} (h : c.Passes inner)
    (hfollows : c.Follows) (hcursor : inner.nextCursorSequence + 1 ≤ u64Max) :
    inner.Accepts c.idempotencyKey c.event c.event.toJson.toVec where
  checked := by
    obtain ⟨hvalid, hmessage⟩ := DashboardService.toVec_isOk_iff.1 hfollows.serializes
    exact EventJournal.checkEvent_eq_ok hvalid hmessage hfollows.notBlank h.key_le
  fresh := h.fresh
  sequence_ne := by
    have hlt := hfollows.sequence_lt
    rw [hfollows.sequence]
    omega
  capacity := h.capacity
  fits := h.fits
  expected := by
    have hlt := hfollows.sequence_lt
    rw [hfollows.activityId, h.inStep, hfollows.sequence]
    exact if_pos (Nat.le_of_lt hlt)
  epoch_lt hfull := absurd hfull (h.not_needsRotation hfollows)
  cursor_lt _ := hcursor

/-! ### What the calls write -/

theorem serializes_next {event : ActivityEvent} (hcurrent : current.toVec.isOk = true)
    (hresources : event.resources = current.resources) (hmetrics : event.metrics.validate = .ok ())
    (htimes : validateLifecycle event.state event.startedAtMs event.finishedAtMs
      (some event.occurredAtMs) = .ok ()) (hmessage : ∀ m ∈ event.message, m.validate = .ok ()) :
    event.toVec.isOk = true := by
  obtain ⟨hvalid, -⟩ := DashboardService.toVec_isOk_iff.1 hcurrent
  obtain ⟨⟨⟩, hunique, -⟩ := bind_eq_ok.1 hvalid
  refine DashboardService.toVec_isOk_iff.2 ⟨?_, hmessage⟩
  rw [ActivityEvent.validate, hresources, hunique, ok_bind, hmetrics, ok_bind]
  exact htimes

theorem validate_message (code : MessageCode) :
    ∀ m ∈ some (⟨code, []⟩ : DisplayMessage), m.validate = .ok () := by
  intro m hm
  cases hm
  rfl

theorem metrics_of_isOk (h : current.toVec.isOk = true) : current.metrics.validate = .ok () := by
  obtain ⟨hvalid, -⟩ := DashboardService.toVec_isOk_iff.1 h
  obtain ⟨⟨⟩, -, hvalid⟩ := bind_eq_ok.1 hvalid
  obtain ⟨⟨⟩, hmetrics, -⟩ := bind_eq_ok.1 hvalid
  exact hmetrics

theorem getD_le {startedAtMs : Option ℕ} (h : ∀ started ∈ startedAtMs, started ≤ nowMs) :
    ∀ started ∈ some (startedAtMs.getD nowMs), started ≤ nowMs := by
  intro started hmem
  cases hmem
  cases startedAtMs with
  | none => exact Nat.le_refl _
  | some started => exact h started rfl

theorem follows_observing (hcurrent : current.toVec.isOk = true)
    (hsequence : current.sequence + 1 < u64Max) {state : ActivityState}
    (hvalid : validTransition current.state state = true) {metrics : MetricSnapshot}
    (hmetrics : metrics.validate = .ok ()) {message : Option DisplayMessage}
    (hmessage : ∀ m ∈ message, m.validate = .ok ())
    (hstarted : ∀ started ∈ current.startedAtMs, started ≤ nowMs) :
    (observing current state metrics message nowMs).Follows where
  activityId := rfl
  sequence := rfl
  sequence_lt := hsequence
  serializes := by
    have hle := getD_le hstarted
    refine serializes_next hcurrent rfl hmetrics (validateLifecycle_eq_ok.2 ⟨?_, ?_, ?_, ?_⟩) hmessage
    · change LifecycleTimes state (some _)
        (if state = .running ∨ state = .reconnecting then none else some nowMs)
      -- Only these four states can be observed.
      cases state with
      | running | reconnecting | succeeded | failed => exact ⟨rfl, rfl⟩
      | awaitingApproval | queued | denied | cancelled =>
        cases hcase : current.state <;> rw [hcase] at hvalid <;> cases hvalid
    · intro started hmem occurred hoccurred
      cases hoccurred
      exact hle started hmem
    · intro started hmem finished hfinished
      change finished ∈ (if state = .running ∨ state = .reconnecting then none else some nowMs)
        at hfinished
      split at hfinished
      · cases hfinished
      · cases hfinished
        exact hle started hmem
    · intro occurred hoccurred finished hfinished
      cases hoccurred
      change finished ∈ (if state = .running ∨ state = .reconnecting then none else some nowMs)
        at hfinished
      split at hfinished
      · cases hfinished
      · cases hfinished
        exact Nat.le_refl _
  notBlank := by
    change trim ("observer:" ++ _ ++ ":" ++ _ ++ ":" ++ _) ≠ ""
    simp only [String.append_assoc]
    exact EventJournal.trim_append_ne_empty "observer:" _ (c := 'o') rfl rfl

theorem follows_cancelling (hcurrent : current.toVec.isOk = true)
    (hsequence : current.sequence + 1 < u64Max)
    (hstarted : ∀ started ∈ current.startedAtMs, started ≤ nowMs) :
    (cancelling nowMs current).Follows where
  activityId := rfl
  sequence := Nat.min_eq_left (Nat.le_of_lt hsequence)
  sequence_lt := hsequence
  serializes := by
    have hmetrics := metrics_of_isOk hcurrent
    refine serializes_next hcurrent rfl hmetrics
      (validateLifecycle_eq_ok.2 ⟨rfl, ?_, ?_, ?_⟩) (validate_message _)
    · intro started hmem occurred hoccurred
      cases hoccurred
      exact hstarted started hmem
    · intro started hmem finished hfinished
      cases hfinished
      exact hstarted started hmem
    · intro occurred hoccurred finished hfinished
      cases hoccurred
      cases hfinished
      exact Nat.le_refl _
  notBlank := EventJournal.trim_append_ne_empty "cancel:" _ (c := 'c') rfl rfl

theorem follows_restarting (hcurrent : current.toVec.isOk = true)
    (hsequence : current.sequence + 1 < u64Max)
    (hstarted : ∀ started ∈ current.startedAtMs, started ≤ nowMs) :
    (restarting nowMs current).Follows where
  activityId := rfl
  sequence := Nat.min_eq_left (Nat.le_of_lt hsequence)
  sequence_lt := hsequence
  serializes := by
    have hle := getD_le hstarted
    have hmetrics := metrics_of_isOk hcurrent
    refine serializes_next hcurrent rfl hmetrics
      (validateLifecycle_eq_ok.2 ⟨⟨rfl, rfl⟩, ?_, ?_, ?_⟩) (validate_message _)
    · intro started hmem occurred hoccurred
      cases hoccurred
      exact hle started hmem
    · intro started hmem finished hfinished
      cases hfinished
      exact hle started hmem
    · intro occurred hoccurred finished hfinished
      cases hoccurred
      cases hfinished
      exact Nat.le_refl _
  notBlank := by
    change trim ("restart:" ++ _ ++ ":" ++ _) ≠ ""
    simp only [String.append_assoc]
    exact EventJournal.trim_append_ne_empty "restart:" _ (c := 'r') rfl rfl

end Closing

namespace DashboardService

variable [Sha256]

/-! ### Closings one after the other -/

def closeAll (closings : List Closing) (activities : Map ActivityId ActivityEvent) :
    Map ActivityId ActivityEvent :=
  closings.foldl (fun activities c => activities.insert c.event.activityId c.event) activities

omit [Sha256] in
theorem closeAll_append (before closings : List Closing) (activities : Map ActivityId ActivityEvent) :
    closeAll (before ++ closings) activities = closeAll closings (closeAll before activities) :=
  List.foldl_append

/-- The service can write some closings, one after the other. -/
structure Clear (s : DashboardService) (closings : List Closing) : Prop where
  passes : ∀ c ∈ closings, c.Passes s.events
  cursor_le : s.events.nextCursorSequence + closings.length ≤ u64Max
  room : ∀ before c, before ++ [c] <+: closings → s.Room (closeAll (before ++ [c]) s.activities)

/-- The closings are of different activities, and have different keys. -/
def Distinct (closings : List Closing) : Prop :=
  closings.Pairwise fun c d =>
    c.current.activityId ≠ d.current.activityId ∧ c.idempotencyKey ≠ d.idempotencyKey

structure Advanced (s : DashboardService) (closings : List Closing) (audits : ℕ)
    (s' : DashboardService) : Prop extends SameCore s s' where
  fresh : ∀ key, (∀ c ∈ closings, key ≠ c.idempotencyKey) →
    s.events.idempotency.lookup key = none → s'.events.idempotency.lookup key = none
  sequences : ∀ id, (∀ c ∈ closings, id ≠ c.current.activityId) →
    s'.events.activitySequences.lookup id = s.events.activitySequences.lookup id
  epoch : s'.events.epoch = s.events.epoch
  maxEvents : s'.events.maxEvents = s.events.maxEvents
  maxBytes : s'.events.maxBytes = s.events.maxBytes
  cursor : s'.events.nextCursorSequence = s.events.nextCursorSequence + closings.length
  activities : s'.activities = closeAll closings s.activities
  nextAuditSequence : s'.nextAuditSequence = s.nextAuditSequence + audits
  checkpoint : s'.checkpoint = none ↔ s.checkpoint = none
  stores : s.Stores → s'.Stores

namespace Advanced

variable {s s' : DashboardService}

section

omit [Sha256]

theorem refl (s : DashboardService) : Advanced s [] 0 s :=
  ⟨⟨rfl, rfl, rfl, rfl, rfl⟩, fun _ _ h => h, fun _ _ => rfl, rfl, rfl, rfl, rfl, rfl, rfl, Iff.rfl,
    fun h => h⟩

theorem of_audited (h : Audited s s') : Advanced s [] 1 s' := by
  obtain ⟨_, rfl⟩ := h
  exact ⟨⟨rfl, rfl, rfl, rfl, rfl⟩, fun _ _ h => h, fun _ _ => rfl, rfl, rfl, rfl, rfl, rfl, rfl,
    Iff.rfl, fun h => h⟩

theorem trans {s₁ s₂ : DashboardService} {before closings : List Closing} {m n : ℕ}
    (h : Advanced s before m s₁) (h' : Advanced s₁ closings n s₂) :
    Advanced s (before ++ closings) (m + n) s₂ where
  localHostId := h'.localHostId.trans h.localHostId
  policy := h'.policy.trans h.policy
  pending := h'.pending.trans h.pending
  adminGrants := h'.adminGrants.trans h.adminGrants
  paused := h'.paused.trans h.paused
  fresh key hkey hlookup :=
    h'.fresh key (List.forall_mem_append.1 hkey).2
      (h.fresh key (List.forall_mem_append.1 hkey).1 hlookup)
  sequences id hid :=
    (h'.sequences id (List.forall_mem_append.1 hid).2).trans
      (h.sequences id (List.forall_mem_append.1 hid).1)
  epoch := h'.epoch.trans h.epoch
  maxEvents := h'.maxEvents.trans h.maxEvents
  maxBytes := h'.maxBytes.trans h.maxBytes
  cursor := by rw [h'.cursor, h.cursor, List.length_append, Nat.add_assoc]
  activities := by rw [h'.activities, h.activities, closeAll_append]
  nextAuditSequence := by rw [h'.nextAuditSequence, h.nextAuditSequence, Nat.add_assoc]
  checkpoint := h'.checkpoint.trans h.checkpoint
  stores hstores := h'.stores (h.stores hstores)

end

theorem of_recorded {c : Closing} (hpasses : c.Passes s.events) (hfollows : c.Follows)
    (h : Recorded s c.event c.idempotencyKey s') : Advanced s [c] 0 s' := by
  have hopened : s.events.opened c.event = s.events :=
    if_neg (hpasses.not_needsRotation hfollows)
  obtain ⟨_, _, _, -, hpublish⟩ := EventJournal.publish_eq s.events
    c.idempotencyKey c.event c.event.toJson.toVec (s.events.nextCursorSequence + 1)
  have hevents := h.events
  rw [hopened, hpublish] at hevents
  refine ⟨h.toSameCore, fun key hkey hlookup => ?_, fun id hid => ?_, ?_, ?_, ?_, ?_, h.activities,
    h.nextAuditSequence, h.checkpoint, fun _ => h.stores⟩
  · rw [hevents]
    refine (Map.lookup_insert_ne (hkey c (List.mem_singleton_self c)) _).trans ?_
    exact lookup_eraseAll_of_none hlookup
  · rw [hevents]
    refine Map.lookup_insert_ne ?_ _
    rw [hfollows.activityId]
    exact hid c (List.mem_singleton_self c)
  · rw [hevents]
  · rw [hevents]
  · rw [hevents]
  · rw [hevents]
    rfl

omit [Sha256] in
theorem sameRoom {closings : List Closing} {audits : ℕ} (h : Advanced s closings audits s') :
    SameRoom s s' :=
  h.toSameCore.sameRoom h.checkpoint

end Advanced

namespace Clear

variable {s s' : DashboardService}

theorem of_advanced {before closings : List Closing} {audits : ℕ}
    (hadvanced : Advanced s before audits s') (h : Clear s (before ++ closings))
    (hdistinct : Distinct (before ++ closings)) : Clear s' closings where
  passes d hmem := by
    obtain ⟨-, -, hcross⟩ := List.pairwise_append.1 hdistinct
    have hpasses := h.passes d (List.mem_append_right _ hmem)
    exact
      { started_le := hpasses.started_le
        key_le := hpasses.key_le
        fresh := hadvanced.fresh _ (fun c hc => (hcross c hc d hmem).2.symm) hpasses.fresh
        inStep := (hadvanced.sequences _ fun c hc => (hcross c hc d hmem).1.symm).trans hpasses.inStep
        capacity := by rw [hadvanced.maxEvents]; exact hpasses.capacity
        fits := by rw [hadvanced.maxBytes]; exact hpasses.fits }
  cursor_le := by
    have hle := h.cursor_le
    rw [List.length_append] at hle
    rw [hadvanced.cursor]
    omega
  room first d hprefix := by
    have hroom := h.room (before ++ first) d (by
      rw [List.append_assoc]
      exact (List.prefix_append_right_inj before).2 hprefix)
    rw [List.append_assoc, closeAll_append, ← hadvanced.activities] at hroom
    exact hadvanced.sameRoom.room hroom

/-- **A closing that is clear is recorded.** -/
theorem recordActivity {c : Closing} {closings : List Closing} (h : Clear s (c :: closings))
    (hfollows : c.Follows) (hstores : s.Stores) (hnext : s.nextAuditSequence - 1 ≤ u64Max) :
    ∃ s', (DashboardService.recordActivity c.event c.idempotencyKey).exec s = (.ok (), s') ∧
      Advanced s [c] 0 s' := by
  have hpasses := h.passes c List.mem_cons_self
  have hcursor : s.events.nextCursorSequence + 1 ≤ u64Max := by
    have hle := h.cursor_le
    rw [List.length_cons] at hle
    omega
  have hroom : s.Room (s.activities.insert c.event.activityId c.event) :=
    h.room [] c (List.prefix_append [c] closings)
  obtain ⟨s', hexec, hrecorded⟩ :=
    recordActivity_ok (hpasses.accepts hfollows hcursor) hstores hroom hnext
  exact ⟨s', hexec, .of_recorded hpasses hfollows hrecorded⟩

end Clear

end DashboardService

end Dashboard
