/-
**Preflights.**

The checks of an append are made ahead of it, in another order, and without those of the counters that an
append advances. An event that is retained has passed them all, so that the order makes no difference.

Main definitions:

* `Dashboard.EventJournal.preflight` — the call that makes the checks.

Main results:

* `Dashboard.EventJournal.preflight_agrees` — **a preflight succeeds exactly if an append would, but for
  the counters of the journal**.
-/

import DeviceLane.Dashboard.EventLogHistory
import Mathlib.Algebra.Order.BigOperators.Group.List

namespace Dashboard

open Effect

namespace EventJournal

variable [Sha256]

variable {event : ActivityEvent} {inner : EventJournal} {idempotencyKey : String}

/-! ### Retained events -/

omit [Sha256] in
theorem sequence_of_toVec {event' : ActivityEvent} (h : event.toJson.toVec = event'.toJson.toVec) :
    event.sequence = event'.sequence := by
  have hfields : event.fields = event'.fields := Json.obj.inj (Json.toVec_injective h)
  have hfield : event.fields[1]? = event'.fields[1]? := by rw [hfields]
  have hvalue : (JsonCodec.toJson event.sequence) = JsonCodec.toJson event'.sequence :=
    (Prod.mk.inj (Option.some.inj hfield)).2
  exact JsonCodec.toJson_injective hvalue

omit [Sha256] in
/-- No retained event has the last number. -/
def Numbered (inner : EventJournal) : Prop := ∀ stored ∈ inner.events, stored.event.sequence ≠ u64Max

theorem Numbered.change {inner' : EventJournal} {entries : List Entry} (h : inner.Numbered)
    (hchange : Change inner entries inner') : inner'.Numbered := by
  have hnone : ∀ epoch revision, (inner.rotateLocked epoch revision).Numbered :=
    fun _ _ _ hstored => absurd hstored List.not_mem_nil
  cases hchange with
  | subscribers => exact h
  | rotated => exact hnone _ _
  | restored => exact h
  | @published idempotencyKey event eventJson haccepts =>
    have hopened : (inner.opened event).Numbered := by
      rw [opened]
      split
      · exact hnone _ _
      · exact h
    obtain ⟨_, _, _, hevents, hpublish⟩ :=
      publish_eq (inner.opened event) idempotencyKey event eventJson
        ((inner.opened event).nextCursorSequence + 1)
    rw [hpublish]
    intro stored hstored
    rcases List.mem_append.1 hstored with hretained | hnew
    · exact hopened stored (hevents ▸ List.mem_append_right _ hretained)
    · rw [List.mem_singleton.1 hnew]
      exact haccepts.sequence_ne

/-- **What a journal retains has a number that another one can follow.** -/
theorem numbered_of_history {maxEvents maxBytes : ℕ} {log : List Entry}
    (h : History maxEvents maxBytes inner log) : inner.Numbered := by
  induction h with
  | withBounds => exact List.forall_mem_nil _
  | step hprevious hstep ih =>
    exact ih.change (hstep.change (consistent_of_history hprevious).bounded)

/-! ### The call -/

def preflight (idempotencyKey : String) (event : ActivityEvent) : Eff EventJournal AppendError Unit :=
  ofRun fun inner => (inner.preflightAppend idempotencyKey event, inner)

/-- The digest tells an event from the one that is retained under its key. -/
def CollisionFree (inner : EventJournal) (idempotencyKey : String) (event : ActivityEvent) :
    Prop :=
  ∀ stored ∈ inner.events, stored.idempotencyKey = idempotencyKey →
    Sha256.digest stored.event.toJson.toVec = Sha256.digest event.toJson.toVec →
    stored.event.toJson.toVec = event.toJson.toVec

structure Admits (inner : EventJournal) (idempotencyKey : String) (event : ActivityEvent)
    (eventJson : List UInt8) : Prop where
  checked : checkEvent idempotencyKey event = .ok eventJson
  sequence_ne : event.sequence ≠ u64Max
  capacity : inner.maxEvents ≠ 0
  fits : eventJson.length ≤ inner.maxBytes
  known : ∀ existing, inner.idempotency.lookup idempotencyKey = some existing →
    existing.eventDigest = Sha256.digest eventJson
  expected : inner.idempotency.lookup idempotencyKey = none →
    expectedSequence (inner.activitySequences.lookup event.activityId) = some event.sequence

theorem preflightAppend_eq_ok :
    inner.preflightAppend idempotencyKey event = .ok ()
      ↔ ∃ eventJson, inner.Admits idempotencyKey event eventJson := by
  constructor
  · intro h
    rw [preflightAppend] at h
    cases hcheck : checkEvent idempotencyKey event with
    | error =>
      rw [hcheck] at h
      cases h
    | ok eventJson =>
      rw [hcheck, ok_bind] at h
      simp only [failIf_bind] at h
      split_ifs at h with hmax hfits
      rw [not_or] at hfits
      refine ⟨eventJson, hcheck, hmax, hfits.1, Nat.le_of_not_lt hfits.2, ?_, ?_⟩
      · intro existing hkey
        simp only [hkey] at h
        split at h
        · assumption
        · cases h
      · intro hkey
        simp only [hkey] at h
        cases hexpected : expectedSequence (inner.activitySequences.lookup event.activityId) with
        | none =>
          rw [hexpected] at h
          cases h
        | some =>
          simp only [hexpected, failIf] at h
          split_ifs at h with hseq
          rw [not_not.1 hseq]
  · rintro ⟨eventJson, h⟩
    have hfits : ¬(inner.maxEvents = 0 ∨ eventJson.length > inner.maxBytes) := by
      rintro (hzero | hlong)
      · exact h.capacity hzero
      · exact Nat.not_lt_of_le h.fits hlong
    rw [preflightAppend, h.checked, ok_bind]
    simp only [failIf_bind, if_neg h.sequence_ne, if_neg hfits]
    cases hkey : inner.idempotency.lookup idempotencyKey with
    | some existing => exact if_pos (h.known existing hkey)
    | none =>
      simp only [h.expected hkey]
      exact if_neg (not_not_intro rfl)

theorem plan_eq_none_iff :
    inner.plan idempotencyKey event = .ok none ↔
      ∃ eventJson existing, checkEvent idempotencyKey event = .ok eventJson ∧
        inner.idempotency.lookup idempotencyKey = some existing ∧
        existing.eventDigest = Sha256.digest eventJson := by
  constructor
  · intro h
    obtain ⟨existing, hkey⟩ := lookup_of_plan_eq_none h
    rw [plan] at h
    cases hcheck : checkEvent idempotencyKey event with
    | error =>
      rw [hcheck] at h
      cases h
    | ok eventJson =>
      rw [hcheck, ok_bind, hkey] at h
      by_cases hdigest : existing.eventDigest = Sha256.digest eventJson
      · exact ⟨eventJson, existing, rfl, hkey, hdigest⟩
      · dsimp only at h
        rw [if_neg hdigest] at h
        cases h
  · rintro ⟨eventJson, existing, hcheck, hkey, hdigest⟩
    rw [plan, hcheck, ok_bind, hkey]
    exact if_pos hdigest

theorem exec_append (inner : EventJournal) (idempotencyKey : String) (event : ActivityEvent) :
    ((append idempotencyKey event).exec inner).1 =
      (inner.plan idempotencyKey event).map fun planned =>
        if planned = none then .duplicateCollapsed else .appended := by
  rw [append, exec_ofRun, exec_appendWithPrecommit]
  cases inner.plan idempotencyKey event with
  | error => rfl
  | ok planned =>
    cases planned with
    | none | some => rfl

/-! ### Preflights and appends -/

/-- A preflight says what an append would do: it succeeds where the append does, and where it succeeds the
append fails only for a counter of the journal at its last value. -/
structure Agrees (inner : EventJournal) (idempotencyKey : String) (event : ActivityEvent) : Prop where
  unchanged : ((preflight idempotencyKey event).exec inner).2 = inner
  of_append : ∀ outcome, ((append idempotencyKey event).exec inner).1 = .ok outcome →
    ((preflight idempotencyKey event).exec inner).1 = .ok ()
  append : ((preflight idempotencyKey event).exec inner).1 = .ok () →
    (∃ outcome, ((append idempotencyKey event).exec inner).1 = .ok outcome)
      ∨ (inner.needsRotation event ∧ u64Max ≤ inner.epoch
        ∧ ((append idempotencyKey event).exec inner).1 = .error .epochOverflow)
      ∨ (¬inner.needsRotation event ∧ u64Max ≤ inner.nextCursorSequence
        ∧ ((append idempotencyKey event).exec inner).1 = .error .sequenceOverflow)

theorem Admits.of_known {log : List Entry} (h : inner.Consistent log) (hnumbered : inner.Numbered)
    (hfree : inner.CollisionFree idempotencyKey event) {eventJson : List UInt8}
    (hcheck : checkEvent idempotencyKey event = .ok eventJson) {existing : IdempotencyRecord}
    (hkey : inner.idempotency.lookup idempotencyKey = some existing)
    (hdigest : existing.eventDigest = Sha256.digest eventJson) :
    inner.Admits idempotencyKey event eventJson := by
  obtain ⟨stored, hstored, hstoredKey, hrecord⟩ := (h.idempotency_iff _ _).1 hkey
  have hbytes := eq_toVec_of_checkEvent hcheck
  have hsame : stored.event.toJson.toVec = event.toJson.toVec := by
    refine hfree stored hstored hstoredKey ?_
    rw [hrecord, hbytes] at hdigest
    exact hdigest
  have hsize : eventJson.length ≤ inner.serializedBytes := by
    rw [h.bounded.serializedBytes_eq, hbytes, ← hsame, ← h.sizes stored hstored]
    exact List.le_sum_of_mem (List.mem_map_of_mem hstored)
  refine
    { checked := hcheck
      sequence_ne := sequence_of_toVec hsame ▸ hnumbered stored hstored
      capacity := ?_
      fits := hsize.trans h.bounded.serializedBytes_le
      known := fun other hother => ?_
      expected := fun hnone => ?_ }
  · have hlength := h.bounded.events_le
    have hpos := List.length_pos_of_mem hstored
    omega
  · rw [hkey] at hother
    cases hother
    exact hdigest
  · rw [hkey] at hnone
    cases hnone

/-- **A preflight succeeds exactly if an append would, but for the counters of the journal.** -/
theorem preflight_agrees {inner : EventJournal} (h : Reachable inner) {idempotencyKey : String}
    {event : ActivityEvent} (hfree : inner.CollisionFree idempotencyKey event) :
    inner.Agrees idempotencyKey event := by
  obtain ⟨maxEvents, maxBytes, log, hhistory⟩ := reachable_iff_history.1 h
  have hconsistent := consistent_of_history hhistory
  refine ⟨rfl, fun outcome happend => ?_, fun hpreflight => ?_⟩
  · refine preflightAppend_eq_ok.2 ?_
    rw [exec_append] at happend
    cases hplan : inner.plan idempotencyKey event with
    | error error =>
      rw [hplan] at happend
      cases happend
    | ok planned =>
      cases planned with
      | none =>
        obtain ⟨eventJson, existing, hcheck, hkey, hdigest⟩ := plan_eq_none_iff.1 hplan
        exact ⟨eventJson,
          .of_known hconsistent (numbered_of_history hhistory) hfree hcheck hkey hdigest⟩
      | some eventJson =>
        have haccepts := plan_eq_some_iff.1 hplan
        refine ⟨eventJson, haccepts.checked, haccepts.sequence_ne, haccepts.capacity,
          haccepts.fits, fun existing hkey => ?_, fun _ => haccepts.expected⟩
        rw [haccepts.fresh] at hkey
        cases hkey
  · obtain ⟨eventJson, hadmits⟩ := preflightAppend_eq_ok.1 hpreflight
    rw [exec_append]
    cases hkey : inner.idempotency.lookup idempotencyKey with
    | some existing =>
      rw [plan_eq_none_iff.2 ⟨eventJson, existing, hadmits.checked, hkey, hadmits.known existing hkey⟩]
      exact .inl ⟨_, rfl⟩
    | none =>
      have hexpected := hadmits.expected hkey
      rw [plan, hadmits.checked, ok_bind]
      have hfits : ¬(inner.maxEvents = 0 ∨ eventJson.length > inner.maxBytes) := by
        rintro (hzero | hlong)
        · exact hadmits.capacity hzero
        · exact Nat.not_lt_of_le hadmits.fits hlong
      simp only [hkey, hexpected, failIf_bind, if_neg hadmits.sequence_ne, if_neg hfits,
        if_neg (not_not_intro (rfl : event.sequence = event.sequence))]
      by_cases hepoch : inner.needsRotation event ∧ u64Max < inner.epoch + 1
      · rw [if_pos hepoch]
        exact .inr (.inl ⟨hepoch.1, Nat.le_of_lt_succ hepoch.2, rfl⟩)
      · rw [if_neg hepoch]
        by_cases hcursor : ¬inner.needsRotation event ∧ u64Max < inner.nextCursorSequence + 1
        · rw [if_pos hcursor]
          exact .inr (.inr ⟨hcursor.1, Nat.le_of_lt_succ hcursor.2, rfl⟩)
        · rw [if_neg hcursor]
          exact .inl ⟨_, rfl⟩

omit [Sha256] in
/-- The event that the sample journal retains is admitted again. -/
theorem agrees_sampleJournal : letI := eventHash
    sampleJournal.Agrees "key" sampleEvent := by
  let _ := eventHash
  refine preflight_agrees (reachable_iff_history.2 ⟨_, _, _, history_sampleJournal⟩) ?_
  intro stored hstored _ _
  rw [List.mem_singleton.1 hstored]

end EventJournal

end Dashboard
