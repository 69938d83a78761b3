/-
**The subscribers of the event journal.**

A subscriber acknowledges the cursor it has read up to. Acknowledgements may come late, twice or out
of order, from several clients, while events are appended and dropped, idle subscribers are forgotten
and epochs begin; what a subscriber has acknowledged never goes back while it stays registered.

Main definitions:

* `Dashboard.EventJournal.Registered` — what holds of the subscribers of a journal.

Main results:

* `Dashboard.EventJournal.acknowledged_of_reachable` — **acknowledgements are monotone and bounded**.
-/

import DeviceLane.Dashboard.EventLogHistory
import Mathlib.Logic.Relation

namespace Dashboard

open Effect

namespace EventJournal

variable {inner inner' : EventJournal}

/-- What holds of the subscribers of a journal. -/
structure Registered (inner : EventJournal) : Prop where
  cursor_pos : 0 < inner.nextCursorSequence
  epoch_eq : ∀ id subscriber, inner.subscribers.lookup id = some subscriber →
    subscriber.acknowledged.epoch = inner.epoch
  sequence_lt : ∀ id subscriber, inner.subscribers.lookup id = some subscriber →
    subscriber.acknowledged.sequence < inner.nextCursorSequence
  len_le : inner.subscribers.len ≤ maxSubscribers

/-- What a call does to the subscribers: the cursors go on under them, they are all forgotten, a new
one starts with the epoch, one is brought up to a cursor that is not ahead, or some are forgotten. -/
inductive SubscriberChange (inner inner' : EventJournal) : Prop
  | same (hepoch : inner'.epoch = inner.epoch)
      (hcursor : inner.nextCursorSequence ≤ inner'.nextCursorSequence)
      (h : inner'.subscribers = inner.subscribers)
  | cleared (hcursor : 0 < inner'.nextCursorSequence) (h : inner'.subscribers = ∅)
  | subscribed (id : SubscriberId) (nowMs : ℕ) (hnew : inner.subscribers.lookup id = none)
      (hroom : inner.subscribers.len < maxSubscribers)
      (h : inner' = { inner with
        subscribers := inner.subscribers.insert id ⟨⟨inner.epoch, 0⟩, nowMs⟩ })
  | acknowledged (id : SubscriberId) (cursor : EventCursor) (nowMs : ℕ) (subscriber : Subscriber)
      (hold : inner.subscribers.lookup id = some subscriber)
      (hepoch : cursor.epoch = inner.epoch) (hahead : cursor.sequence < inner.nextCursorSequence)
      (h : inner' = { inner with
        subscribers := inner.subscribers.insert id
          ⟨if cursor.sequence ≥ subscriber.acknowledged.sequence then cursor
            else subscriber.acknowledged, nowMs⟩ })
  | expired (keep : SubscriberId → Subscriber → Bool)
      (h : inner' = { inner with subscribers := inner.subscribers.retain keep })

theorem subscriberChange_opened (inner : EventJournal) (event : ActivityEvent) :
    SubscriberChange inner (inner.opened event) := by
  rw [opened]
  by_cases hfull : inner.needsRotation event
  · rw [if_pos hfull]
    exact SubscriberChange.cleared Nat.one_pos rfl
  · rw [if_neg hfull]
    exact SubscriberChange.same rfl (Nat.le_refl _) rfl

theorem Step.subscriberChange [Sha256] {entries : List Entry} (hstep : Step inner entries inner') :
    SubscriberChange inner inner' := by
  have hsame : SubscriberChange inner inner := SubscriberChange.same rfl (Nat.le_refl _) rfl
  cases hstep with
  | appendWithPrecommit idempotencyKey event precommit s =>
    rw [exec_appendWithPrecommit]
    cases hplan : inner.plan idempotencyKey event with
    | error => exact hsame
    | ok planned =>
      cases planned with
      | none => exact hsame
      | some eventJson =>
        cases hrun : (precommit.exec s).1 with
        | error => exact subscriberChange_opened inner event
        | ok =>
          obtain ⟨_, _, _, -, heq⟩ := publish_eq (inner.opened event)
            idempotencyKey event eventJson ((inner.opened event).nextCursorSequence + 1)
          dsimp only
          rw [heq, opened]
          by_cases hfull : inner.needsRotation event
          · rw [if_pos hfull]
            exact SubscriberChange.cleared (Nat.succ_pos _) rfl
          · rw [if_neg hfull]
            exact SubscriberChange.same rfl (Nat.le_succ _) rfl
  | subscribe id nowMs =>
    rw [exec_subscribe]
    split_ifs with hexists hfull
    · exact hsame
    · exact hsame
    · rw [Option.not_isSome_iff_eq_none] at hexists
      exact SubscriberChange.subscribed id nowMs hexists (Nat.lt_of_not_le hfull) rfl
  | restoreActivitySequence =>
    rw [exec_restoreActivitySequence]
    split_ifs
    · exact hsame
    · exact hsame
    · exact hsame
    · exact SubscriberChange.same rfl (Nat.le_refl _) rfl
  | acknowledge id cursor nowMs =>
    rcases exec_acknowledge inner id cursor nowMs with
      ⟨error, heq⟩ | ⟨subscriber, hold, hepoch, hahead, heq⟩
    · rw [heq]
      exact hsame
    · rw [heq]
      exact SubscriberChange.acknowledged id cursor nowMs subscriber hold hepoch hahead rfl
  | expireIdle => exact SubscriberChange.expired _ rfl
  | rotateEpoch =>
    rw [exec_rotateEpoch]
    split_ifs with hepoch
    · exact hsame
    · exact SubscriberChange.cleared Nat.one_pos rfl

theorem registered_withBounds (epoch snapshotRevision maxEvents maxBytes : ℕ) :
    (withBounds epoch snapshotRevision maxEvents maxBytes).Registered :=
  { cursor_pos := Nat.one_pos
    epoch_eq := fun _ _ h => nomatch h
    sequence_lt := fun _ _ h => nomatch h
    len_le := Nat.zero_le _ }

theorem forall_lookup_insert {P : Subscriber → Prop} {subscribers : Map SubscriberId Subscriber}
    {id : SubscriberId} {subscriber : Subscriber} (hnew : P subscriber)
    (hold : ∀ id subscriber, subscribers.lookup id = some subscriber → P subscriber) :
    ∀ id' subscriber', (subscribers.insert id subscriber).lookup id' = some subscriber' →
      P subscriber' := by
  intro id' subscriber' hlookup
  rw [Map.lookup_insert] at hlookup
  split_ifs at hlookup
  · rw [← Option.some.inj hlookup]
    exact hnew
  · exact hold id' subscriber' hlookup

theorem Registered.change (h : inner.Registered) (hchange : SubscriberChange inner inner') :
    inner'.Registered := by
  cases hchange with
  | same hepoch hcursor hsame =>
    have hpos := h.cursor_pos
    refine ⟨by omega, ?_, ?_, ?_⟩
    · rw [hsame, hepoch]
      exact h.epoch_eq
    · intro id subscriber hlookup
      rw [hsame] at hlookup
      exact Nat.lt_of_lt_of_le (h.sequence_lt id subscriber hlookup) hcursor
    · rw [hsame]
      exact h.len_le
  | cleared hcursor hnone =>
    refine ⟨hcursor, ?_, ?_, ?_⟩
    · rw [hnone]
      intro id subscriber hlookup
      cases hlookup
    · rw [hnone]
      intro id subscriber hlookup
      cases hlookup
    · rw [hnone]
      exact Nat.zero_le _
  | subscribed id nowMs hnew hroom heq =>
    subst heq
    refine ⟨h.cursor_pos, forall_lookup_insert rfl h.epoch_eq,
      forall_lookup_insert h.cursor_pos h.sequence_lt, ?_⟩
    change (Map.insert _ _ _).len ≤ maxSubscribers
    rw [Map.len_insert_of_none hnew]
    exact hroom
  | acknowledged id cursor nowMs subscriber hold hepoch hahead heq =>
    subst heq
    refine ⟨h.cursor_pos, forall_lookup_insert ?_ h.epoch_eq,
      forall_lookup_insert ?_ h.sequence_lt, ?_⟩
    · dsimp only
      split_ifs
      · exact hepoch
      · exact h.epoch_eq id subscriber hold
    · dsimp only
      split_ifs
      · exact hahead
      · exact h.sequence_lt id subscriber hold
    · change (Map.insert _ _ _).len ≤ maxSubscribers
      rw [Map.len_insert_of_some hold]
      exact h.len_le
  | expired keep heq =>
    subst heq
    have hretained : ∀ id subscriber, (inner.subscribers.retain keep).lookup id = some subscriber →
        inner.subscribers.lookup id = some subscriber := by
      intro id subscriber hlookup
      rw [Map.lookup_retain, Option.filter_eq_some_iff] at hlookup
      exact hlookup.1
    exact ⟨h.cursor_pos, fun id s hs => h.epoch_eq id s (hretained id s hs),
      fun id s hs => h.sequence_lt id s (hretained id s hs),
      Nat.le_trans (Map.len_retain_le _ _) h.len_le⟩

theorem registered_of_reachable [Sha256] (h : Reachable inner) : inner.Registered := by
  obtain ⟨_, _, _, hlog⟩ := reachable_iff_history.1 h
  clear h
  induction hlog with
  | withBounds => exact registered_withBounds _ _ _ _
  | step _ hstep ih => exact ih.change hstep.subscriberChange

/-! ### Runs during which a subscriber stays registered -/

def StaysStep [Sha256] (id : SubscriberId) (inner inner' : EventJournal) : Prop :=
  ∃ entries subscriber, Step inner entries inner' ∧
    inner'.subscribers.lookup id = some subscriber

/-- Runs during which a subscriber stays registered. -/
def Stays [Sha256] (id : SubscriberId) : EventJournal → EventJournal → Prop :=
  Relation.ReflTransGen (StaysStep id)

theorem SubscriberChange.acknowledged_le (h : SubscriberChange inner inner') {id : SubscriberId}
    {before after : Subscriber} (hbefore : inner.subscribers.lookup id = some before)
    (hafter : inner'.subscribers.lookup id = some after) :
    inner'.epoch = inner.epoch ∧ before.acknowledged.sequence ≤ after.acknowledged.sequence := by
  cases h with
  | same hepoch hcursor hsame =>
    rw [hsame, hbefore] at hafter
    cases hafter
    exact ⟨hepoch, Nat.le_refl _⟩
  | cleared hcursor hnone =>
    rw [hnone] at hafter
    cases hafter
  | subscribed id' nowMs hnew hroom heq =>
    subst heq
    dsimp only at hafter
    rw [Map.lookup_insert] at hafter
    by_cases hid : id = id'
    · rw [← hid, hbefore] at hnew
      cases hnew
    · rw [if_neg hid, hbefore] at hafter
      cases hafter
      exact ⟨rfl, Nat.le_refl _⟩
  | acknowledged id' cursor nowMs subscriber hold hepoch hahead heq =>
    subst heq
    refine ⟨rfl, ?_⟩
    dsimp only at hafter
    rw [Map.lookup_insert] at hafter
    by_cases hid : id = id'
    · rw [← hid, hbefore] at hold
      rw [if_pos hid] at hafter
      cases hold
      cases hafter
      -- A cursor that is older than the one acknowledged is not taken over.
      dsimp only
      split_ifs with hnewer
      · exact hnewer
      · exact Nat.le_refl _
    · rw [if_neg hid, hbefore] at hafter
      cases hafter
      exact Nat.le_refl _
  | expired keep heq =>
    subst heq
    dsimp only at hafter
    rw [Map.lookup_retain, Option.filter_eq_some_iff, hbefore] at hafter
    cases hafter.1
    exact ⟨rfl, Nat.le_refl _⟩

section

variable [Sha256] {inner inner' : EventJournal} {id : SubscriberId} {before : Subscriber}

theorem Reachable.stays (h : Reachable inner) (hrun : Stays id inner inner') :
    Reachable inner' := by
  induction hrun with
  | refl => exact h
  | tail _ hstep ih =>
    obtain ⟨_, _, hstep, -⟩ := hstep
    exact ih.step hstep

theorem Stays.acknowledged_le (hrun : Stays id inner inner')
    (hbefore : inner.subscribers.lookup id = some before) :
    ∃ after, inner'.subscribers.lookup id = some after ∧ inner'.epoch = inner.epoch ∧
      before.acknowledged.sequence ≤ after.acknowledged.sequence := by
  induction hrun with
  | refl => exact ⟨before, hbefore, rfl, Nat.le_refl _⟩
  | tail _ hstep ih =>
    obtain ⟨_, hmiddle, hepoch, hle⟩ := ih
    obtain ⟨_, after, hstep, hafter⟩ := hstep
    obtain ⟨hepoch', hle'⟩ := hstep.subscriberChange.acknowledged_le hmiddle hafter
    exact ⟨after, hafter, hepoch'.trans hepoch, hle.trans hle'⟩

/-- **Acknowledgements are monotone and bounded.**  In a reachable journal every subscriber has
acknowledged a cursor of the current epoch that is not ahead, and there are at most 32 of them; an
acknowledgement that fails changes nothing; and while a subscriber stays registered, whatever is
called, its cursor does not go back and stays of the current epoch and not ahead. -/
theorem acknowledged_of_reachable (h : Reachable inner) :
    inner.Registered ∧
      (∀ id cursor nowMs error, ((acknowledge id cursor nowMs).exec inner).1 = .error error →
        ((acknowledge id cursor nowMs).exec inner).2 = inner) ∧
      ∀ id before inner', inner.subscribers.lookup id = some before → Stays id inner inner' →
        ∃ after, inner'.subscribers.lookup id = some after ∧
          before.acknowledged.epoch = after.acknowledged.epoch ∧
          before.acknowledged.sequence ≤ after.acknowledged.sequence ∧
          after.acknowledged.epoch = inner'.epoch ∧
          after.acknowledged.sequence < inner'.nextCursorSequence := by
  have hregistered := registered_of_reachable h
  refine ⟨hregistered, ?_, ?_⟩
  · intro id cursor nowMs error hfailed
    rcases exec_acknowledge inner id cursor nowMs with ⟨_, heq⟩ | ⟨subscriber, -, -, -, heq⟩
    · rw [heq]
    · rw [heq] at hfailed
      cases hfailed
  · intro id before inner' hbefore hrun
    obtain ⟨after, hafter, hepoch, hle⟩ := hrun.acknowledged_le hbefore
    have hregistered' := registered_of_reachable (h.stays hrun)
    have hafterEpoch := hregistered'.epoch_eq id after hafter
    refine ⟨after, hafter, ?_, hle, hafterEpoch, hregistered'.sequence_lt id after hafter⟩
    rw [hregistered.epoch_eq id before hbefore, hafterEpoch, hepoch]

end

/-! ### A subscriber that reads nothing -/

def sampleSubscriber : SubscriberId := ⟨"client", by decide⟩

def subscribedJournal : EventJournal := ((subscribe sampleSubscriber 0).exec (new 1 0)).2

def acknowledgedJournal : EventJournal :=
  ((acknowledge sampleSubscriber ⟨1, 0⟩ 5).exec subscribedJournal).2

theorem acknowledgedJournal_acknowledged : letI := eventHash
    ∃ after, acknowledgedJournal.subscribers.lookup sampleSubscriber = some after ∧
      after.acknowledged.epoch = 1 ∧ after.acknowledged.sequence < 1 := by
  let _ := eventHash
  have hreachable : Reachable subscribedJournal :=
    (Reachable.withBounds 1 0 _ _).subscribe sampleSubscriber 0
  have hstep : StaysStep sampleSubscriber subscribedJournal acknowledgedJournal :=
    ⟨[], ⟨⟨1, 0⟩, 5⟩, Step.acknowledge subscribedJournal sampleSubscriber ⟨1, 0⟩ 5, rfl⟩
  obtain ⟨-, -, hmonotone⟩ := acknowledged_of_reachable hreachable
  obtain ⟨after, hafter, -, -, hepoch, hsequence⟩ := hmonotone sampleSubscriber ⟨⟨1, 0⟩, 0⟩
    acknowledgedJournal rfl (Relation.ReflTransGen.single hstep)
  exact ⟨after, hafter, hepoch, hsequence⟩

end EventJournal

end Dashboard
