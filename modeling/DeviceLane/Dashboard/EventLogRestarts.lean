/-
**Cursors and restarts of the daemon.**

A daemon begins with an empty journal of epoch 1, and what was read from the journal of the daemon before
it is forgotten. A reader that continues from a cursor of that time is told to start over where the
epochs differ, or where the event after the cursor has been dropped; otherwise the cursor is taken for
one of the new journal.

Main definitions:

* `Dashboard.EventJournal.Lifetimes` — the daemons that follow each other, the cursors that were read from
  the earlier ones, and the journal and the cursors of the present one.

Main results:

* `restartNoticed_iff` — **a restart is noticed exactly if every earlier cursor is of another epoch, or an
  event after it has been dropped**.
-/

import DeviceLane.Dashboard.EventLogRead

namespace Dashboard

open Effect

def EventRead.cursors : EventRead → List EventCursor
  | .events _ nextCursor => [nextCursor]
  | .cursorAhead newestAvailable => [newestAvailable]
  | .resyncRequired oldestAvailable _ => [oldestAvailable]
  | .limitExceeded => []

namespace EventJournal

/-- The daemons that follow each other: the cursors that reads of the earlier ones have returned, the
journal of the present one, what it has taken in, and the cursors that its reads have returned. -/
inductive Lifetimes [Sha256] :
    List EventCursor → EventJournal → List Entry → List EventCursor → Prop
  | started : Lifetimes [] (new 1 0) [] []
  | call {earlier given : List EventCursor} {inner inner' : EventJournal} {log entries : List Entry}
      (h : Lifetimes earlier inner log given) (hstep : Step inner entries inner') :
      Lifetimes earlier inner' (log ++ entries) given
  | read {earlier given : List EventCursor} {inner : EventJournal} {log : List Entry}
      (h : Lifetimes earlier inner log given) (cursor : EventCursor) (limit : ReadLimit)
      (included : ActivityEvent → Bool) :
      Lifetimes earlier inner log (given ++ (inner.readFiltered cursor limit included).cursors)
  | restarted {earlier given : List EventCursor} {inner : EventJournal} {log : List Entry}
      (h : Lifetimes earlier inner log given) : Lifetimes (earlier ++ given) (new 1 0) [] []

/-- Readers that continue from cursors of earlier daemons are told to start over. -/
def RestartNoticed (earlier : List EventCursor) (inner : EventJournal) : Prop :=
  ∀ cursor ∈ earlier, ∀ limit included, ∃ oldest revision,
    inner.readFiltered cursor limit included = .resyncRequired oldest revision

section

variable [Sha256] {inner : EventJournal} {log : List Entry} {earlier given : List EventCursor}

theorem Lifetimes.history (h : Lifetimes earlier inner log given) :
    History Dashboard.maxEvents maxEventBytes inner log := by
  induction h with
  | started => exact History.withBounds 1 0
  | call _ hstep ih => exact ih.step hstep
  | read _ cursor limit included ih => exact ih
  | restarted => exact History.withBounds 1 0

theorem Consistent.missed_iff (h : inner.Consistent log) {cursor : EventCursor}
    (hepoch : cursor.epoch = inner.epoch) :
    inner.Missed log cursor ↔ cursor.sequence + 1 < inner.nextCursorSequence - inner.events.length := by
  have hlength := h.length_le
  have hcursor := h.cursor_eq
  rw [Missed, hepoch]
  constructor
  · rintro ⟨sequence, _, _, hmissed⟩
    by_contra hnew
    have hmem : sequence ∈ inner.events.map StoredEvent.cursorSequence := by
      rw [h.consecutive, List.mem_range'_1]
      omega
    obtain ⟨stored, hstored, hsame⟩ := List.mem_map.1 hmem
    exact hmissed stored hstored hsame
  · intro _
    refine ⟨cursor.sequence + 1, Nat.lt_succ_self _, by omega, fun stored hstored hsame => ?_⟩
    have hmem : stored.cursorSequence ∈ inner.events.map StoredEvent.cursorSequence :=
      List.mem_map_of_mem hstored
    rw [h.consecutive, List.mem_range'_1] at hmem
    omega

/-- **The cursors with which a reader is told to start over.** -/
theorem Consistent.resync_iff (h : inner.Consistent log) (cursor : EventCursor) :
    (∀ limit included, ∃ oldest revision,
        inner.readFiltered cursor limit included = .resyncRequired oldest revision) ↔
      cursor.epoch ≠ inner.epoch ∨ inner.Missed log cursor := by
  by_cases hepoch : cursor.epoch = inner.epoch
  · rw [h.missed_iff hepoch]
    constructor
    · intro hresync
      obtain ⟨oldest, revision, hread⟩ := hresync .default fun _ => true
      right
      by_contra hnew
      rw [readFiltered, if_neg (not_not_intro hepoch)] at hread
      split at hread
      · cases hread
      · have hnone : ((inner.events.head?.map StoredEvent.cursorSequence).filter fun oldest =>
            decide (cursor.sequence < oldest - 1)) = none := by
          rw [h.oldest]
          split_ifs
          · rfl
          · rw [Option.filter_some, if_neg (by simp only [decide_eq_true_eq]; omega)]
        rw [hnone] at hread
        dsimp only at hread
        split at hread
        · cases hread
        · split at hread
          · cases hread
          · cases hread
    · rintro (hover | hbehind) limit included
      · exact absurd hepoch hover
      · exact ⟨_, _, h.resync hepoch hbehind (by omega) limit included⟩
  · constructor
    · intro _
      exact Or.inl hepoch
    · intro _ limit included
      rw [readFiltered, if_pos hepoch]
      exact ⟨_, _, rfl⟩

/-- **A restart is noticed exactly if every earlier cursor is of another epoch, or an event after it has
been dropped.** -/
theorem restartNoticed_iff (h : Lifetimes earlier inner log given) :
    RestartNoticed earlier inner ↔
      ∀ cursor ∈ earlier, cursor.epoch ≠ inner.epoch ∨ inner.Missed log cursor := by
  have hconsistent := consistent_of_history h.history
  constructor
  · intro hnoticed cursor hcursor
    exact (hconsistent.resync_iff cursor).1 (hnoticed cursor hcursor)
  · intro hall cursor hcursor
    exact (hconsistent.resync_iff cursor).2 (hall cursor hcursor)

end

/-! ### A restart that a reader does not notice -/

theorem read_sampleJournal [Sha256] : ∃ page, sampleJournal.readFiltered ⟨1, 0⟩ .default
    (fun _ => true) = .events page ⟨1, 1⟩ := by
  have hconsistent := consistent_of_history history_sampleJournal
  have hmem : ⟨1, sampleEvent, sampleEvent.toJson.toVec.length, "key"⟩ ∈ sampleJournal.events :=
    List.mem_append_right _ (List.mem_singleton_self _)
  have hhead : ∀ oldest ∈ sampleJournal.events.head?, oldest.cursorSequence ≤ 0 + 1 := by
    intro oldest holdest
    cases holdest
    exact Nat.le_refl 1
  have hfits : ∀ stored ∈ sampleJournal.events, FitsPage stored.event := by
    intro stored hstored
    cases List.mem_singleton.1 hstored
    exact fitsPage_of_inU64 inU64_sampleEvent validate_sampleEvent nofun
  obtain ⟨page, next, hread, hnext⟩ := hconsistent.readable_iff.2 hfits ⟨1, 0⟩ rfl (Nat.succ_pos 1)
    hhead fun _ => true
  obtain ⟨-, hepoch, _, -, hle, -⟩ := hconsistent.page_eq hread
  have hmoved : 1 ≤ next.sequence := hnext ⟨_, hmem, Nat.one_pos⟩
  have hmost : next.sequence ≤ 1 := hle
  have hcursor : next = ⟨1, 1⟩ := by
    cases next with
    | mk =>
      cases Nat.le_antisymm hmost hmoved
      cases hepoch
      rfl
  exact ⟨page, by rw [hread, hcursor]⟩

theorem lifetimes_sampleJournal [Sha256] :
    Lifetimes [⟨1, 1⟩] sampleJournal [.published 1 "key" sampleEvent] [] := by
  have hstep : Step (new 1 0) [.published 1 "key" sampleEvent] sampleJournal :=
    Step.of_accepts (accepts_new checkEvent_sampleEvent length_sampleEvent_le rfl)
      (pure () : Eff Unit Unit Unit) () rfl
  obtain ⟨_, hread⟩ := read_sampleJournal
  have hfirst := ((Lifetimes.started.call hstep).read ⟨1, 0⟩ .default fun _ => true).restarted
  rw [hread] at hfirst
  exact hfirst.call hstep

/-- A reader is given nothing of the second daemon's event, and is not told to start over. -/
theorem not_restartNoticed : ¬∃ _ : Sha256, ∀ earlier inner log given,
    Lifetimes earlier inner log given → RestartNoticed earlier inner := by
  rintro ⟨_, hall⟩
  have hnoticed := hall _ _ _ _ lifetimes_sampleJournal ⟨1, 1⟩ (List.mem_singleton_self _)
  have hconsistent := consistent_of_history lifetimes_sampleJournal.history
  rcases (hconsistent.resync_iff ⟨1, 1⟩).1 hnoticed with hepoch | ⟨sequence, hafter, hle, -⟩
  · exact hepoch rfl
  · exact absurd hle (Nat.not_le_of_lt hafter)

/-- A restart is noticed once the new daemon has gone on to another epoch. -/
theorem rotated_restartNoticed : letI := eventHash
    RestartNoticed [⟨1, 1⟩] ((rotateEpoch 2 0).exec sampleJournal).2 := by
  let _ := eventHash
  have hlifetimes := lifetimes_sampleJournal.call (Step.rotateEpoch sampleJournal 2 0)
  refine (restartNoticed_iff hlifetimes).2 fun cursor hcursor => Or.inl ?_
  rw [List.mem_singleton.1 hcursor]
  decide

end EventJournal

end Dashboard
