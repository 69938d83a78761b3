/-
**Reading the event journal.**

A reader continues from the cursor that its last page ended at. A page holds the events after the
cursor that the reader wants to see, up to a limit on their number and one on their size; the events
that the reader does not want move the cursor only. A reader that has missed events is told to start
over.

Main definitions:

* `Dashboard.EventJournal.readFiltered` — reading a page, with `fillPage` for its loop.

Main results:

* `Dashboard.EventJournal.delivery_gap_free` — **a reader is given every event it wants once and in
  order, or is told to start over**.
-/

import DeviceLane.Dashboard.EventLogHistory
import DeviceLane.Library.JsonLength

namespace Dashboard

open Effect

def maxPageEvents : ℕ := 256

def maxPageBytes : ℕ := 256 * 1024

structure ReadLimit where
  maxEvents : ℕ
  maxBytes : ℕ
  deriving DecidableEq, Repr

def ReadLimit.default : ReadLimit := ⟨maxPageEvents, maxPageBytes⟩

inductive EventRead
  | events (events : List ActivityEvent) (nextCursor : EventCursor)
  | cursorAhead (newestAvailable : EventCursor)
  | resyncRequired (oldestAvailable : EventCursor) (snapshotRevision : ℕ)
  | limitExceeded
  deriving DecidableEq

namespace EventJournal

variable {byteLimit : ℕ} {entries : List StoredEvent} {s : String}

def separator (events : List ActivityEvent) : ℕ := if events = [] then 0 else 1

/-- The loop that fills a page from the entries after the cursor, over the events it has, the number
of the next cursor and the bytes of the page. There is no page if the first event that the reader
wants does not fit. -/
def fillPage (eventLimit byteLimit : ℕ) (included : ActivityEvent → Bool) :
    List StoredEvent → List ActivityEvent → ℕ → ℕ → Option (List ActivityEvent × ℕ)
  | [], events, next, _ => some (events, next)
  | entry :: entries, events, next, pageBytes =>
    if events.length = eventLimit then
      some (events, next)
    else if included entry.event = false then
      fillPage eventLimit byteLimit included entries events entry.cursorSequence pageBytes
    else if saturatingAdd (saturatingAdd pageBytes (separator events)) entry.serializedBytes
        > byteLimit then
      if events = [] then none else some (events, next)
    else
      fillPage eventLimit byteLimit included entries (events ++ [entry.event])
        entry.cursorSequence (pageBytes + (separator events + entry.serializedBytes))

/-- A page of the events after a cursor that the reader wants. -/
def readFiltered (inner : EventJournal) (cursor : EventCursor) (limit : ReadLimit)
    (included : ActivityEvent → Bool) : EventRead :=
  let oldestEvent := inner.events.head?.map StoredEvent.cursorSequence
  let newest := inner.nextCursorSequence - 1
  if cursor.epoch ≠ inner.epoch then
    .resyncRequired ⟨inner.epoch, (oldestEvent.map (· - 1)).getD newest⟩ inner.snapshotRevision
  else if cursor.sequence > newest then
    .cursorAhead ⟨inner.epoch, newest⟩
  else
    match oldestEvent.filter fun oldest => cursor.sequence < oldest - 1 with
    | some oldest => .resyncRequired ⟨inner.epoch, oldest - 1⟩ inner.snapshotRevision
    | none =>
      let eventLimit := min limit.maxEvents maxPageEvents
      let byteLimit := min limit.maxBytes maxPageBytes
      if eventLimit = 0 ∨ byteLimit = 0 then
        .limitExceeded
      else
        match fillPage eventLimit byteLimit included
            (inner.events.filter fun entry => cursor.sequence < entry.cursorSequence)
            [] cursor.sequence 2 with
        | none => .limitExceeded
        | some (events, next) => .events events ⟨inner.epoch, next⟩

/-! ### Pages -/

def cursorAfter (next : ℕ) (entries : List StoredEvent) : ℕ :=
  (entries.getLast?.map StoredEvent.cursorSequence).getD next

theorem cursorAfter_cons (entry : StoredEvent) (next : ℕ) (seen : List StoredEvent) :
    cursorAfter entry.cursorSequence seen = cursorAfter next (entry :: seen) := by
  cases seen with
  | nil => rfl
  | cons =>
    rw [cursorAfter, cursorAfter, List.getLast?_cons_cons]
    rfl

theorem exists_of_fillPage {eventLimit : ℕ} {included : ActivityEvent → Bool}
    {events page : List ActivityEvent} {next next' pageBytes : ℕ}
    (h : fillPage eventLimit byteLimit included entries events next pageBytes = some (page, next')) :
    ∃ seen unseen, entries = seen ++ unseen ∧
      page = events ++ (seen.map StoredEvent.event).filter included ∧
      next' = cursorAfter next seen := by
  -- Where the loop stops, nothing more of the entries has been seen.
  have hstop : ∀ {entries : List StoredEvent} {events : List ActivityEvent} {next : ℕ},
      some (events, next) = some (page, next') → ∃ seen unseen, entries = seen ++ unseen ∧
        page = events ++ (seen.map StoredEvent.event).filter included ∧
        next' = cursorAfter next seen := by
    intro entries events next heq
    cases heq
    exact ⟨[], entries, rfl, (List.append_nil _).symm, rfl⟩
  induction entries generalizing events next pageBytes with
  | nil => exact hstop h
  | cons entry entries ih =>
    rw [fillPage] at h
    split_ifs at h with hfull hskip hbytes hempty
    · exact hstop h
    · obtain ⟨seen, unseen, hentries, hpage, hnext⟩ := ih h
      refine ⟨entry :: seen, unseen, by rw [hentries, List.cons_append], ?_, ?_⟩
      · rw [hpage, List.map_cons, List.filter_cons, hskip]
        rfl
      · rw [hnext, cursorAfter_cons _ next]
    · exact hstop h
    · obtain ⟨seen, unseen, hentries, hpage, hnext⟩ := ih h
      refine ⟨entry :: seen, unseen, by rw [hentries, List.cons_append], ?_, ?_⟩
      · rw [Bool.not_eq_false] at hskip
        rw [hpage, List.map_cons, List.filter_cons, hskip, List.append_assoc]
        rfl
      · rw [hnext, cursorAfter_cons _ next]

theorem next_of_fillPage_nil {eventLimit : ℕ} (hlimit : 0 < eventLimit)
    {included : ActivityEvent → Bool} {next next' pageBytes : ℕ}
    (h : fillPage eventLimit byteLimit included entries [] next pageBytes = some ([], next')) :
    next' = cursorAfter next entries := by
  induction entries generalizing next pageBytes with
  | nil =>
    cases h
    rfl
  | cons entry entries ih =>
    rw [fillPage] at h
    split_ifs at h with hfull hskip hbytes hempty
    · exact absurd hfull (Nat.ne_of_lt hlimit)
    · rw [ih h, cursorAfter_cons _ next]
    · exact absurd rfl hempty
    · obtain ⟨_, _, -, hpage, -⟩ := exists_of_fillPage h
      cases hpage

theorem filter_eq_drop {first : ℕ}
    (h : entries.map StoredEvent.cursorSequence = List.range' first entries.length) (cursor : ℕ) :
    (entries.filter fun entry => cursor < entry.cursorSequence)
      = entries.drop (cursor + 1 - first) := by
  induction entries generalizing first with
  | nil => rw [List.filter_nil, List.drop_nil]
  | cons entry entries ih =>
    rw [List.map_cons, List.length_cons, List.range'_succ, List.cons.injEq] at h
    obtain ⟨hfirst, hrest⟩ := h
    rw [List.filter_cons, ih hrest, hfirst]
    by_cases hafter : cursor < first
    · have hnone : cursor + 1 - first = 0 := by omega
      have hnone' : cursor + 1 - (first + 1) = 0 := by omega
      rw [if_pos (decide_eq_true hafter), hnone, hnone', List.drop_zero, List.drop_zero]
    · have hsucc : cursor + 1 - first = cursor + 1 - (first + 1) + 1 := by omega
      rw [if_neg (by simpa using hafter), hsucc, List.drop_succ_cons]

theorem cursorAfter_eq {seen unseen : List StoredEvent} {cursor count : ℕ}
    (h : (seen ++ unseen).map StoredEvent.cursorSequence = List.range' (cursor + 1) count) :
    cursorAfter cursor seen = cursor + seen.length := by
  rcases List.eq_nil_or_concat seen with rfl | ⟨front, last, rfl⟩
  · rfl
  · have hlast := congrArg (fun cursors => cursors[front.length]?) h
    have hcount : front.length < count := by
      have hlength := congrArg List.length h
      simp at hlength
      omega
    simp [hcount] at hlast
    simp [cursorAfter, hlast]
    omega

section

variable [Sha256] {inner : EventJournal} {log : List Entry}

variable {limit : ReadLimit} {next : EventCursor} {page : List ActivityEvent}

theorem Consistent.oldest (h : inner.Consistent log) :
    (inner.events.head?.map StoredEvent.cursorSequence) =
      if inner.events = [] then none
      else some (inner.nextCursorSequence - inner.events.length) := by
  have hhead := congrArg List.head? h.consecutive
  rw [List.head?_map, List.head?_range'] at hhead
  rw [hhead]
  simp only [List.length_eq_zero_iff]

theorem Consistent.first_eq_one (h : inner.Consistent log) (hempty : inner.events = []) :
    inner.nextCursorSequence = 1 := by
  rw [h.cursor_eq, h.nonempty hempty, List.length_nil]

theorem Consistent.remaining (h : inner.Consistent log) {cursor : ℕ}
    (hold : inner.nextCursorSequence - inner.events.length ≤ cursor + 1) :
    (inner.events.filter fun entry => cursor < entry.cursorSequence).map StoredEvent.event =
      ((published log inner.epoch).drop cursor).map Prod.snd := by
  have hretained := List.suffix_iff_eq_drop.1 h.retained
  have hlength := h.length_le
  rw [h.cursor_eq] at hold hlength
  rw [List.length_map] at hretained
  have hevents := congrArg (List.map Prod.snd) hretained
  rw [List.map_map] at hevents
  have hall : inner.events.map StoredEvent.event =
      ((published log inner.epoch).drop
        ((published log inner.epoch).length - inner.events.length)).map Prod.snd := hevents
  rw [filter_eq_drop h.consecutive, List.map_drop, hall, ← List.map_drop, List.drop_drop,
    h.cursor_eq]
  congr 2
  omega

theorem Consistent.remaining_cursors (h : inner.Consistent log) {cursor : ℕ}
    (hold : inner.nextCursorSequence - inner.events.length ≤ cursor + 1) :
    ∃ count, (inner.events.filter fun entry => cursor < entry.cursorSequence).map
      StoredEvent.cursorSequence = List.range' (cursor + 1) count := by
  refine ⟨inner.events.length -
    (cursor + 1 - (inner.nextCursorSequence - inner.events.length)), ?_⟩
  rw [filter_eq_drop h.consecutive, List.map_drop, h.consecutive, List.drop_range']
  congr 1
  omega

theorem Consistent.resync (h : inner.Consistent log) {cursor : EventCursor}
    (hepoch : cursor.epoch = inner.epoch)
    (hbehind : cursor.sequence + 1 < inner.nextCursorSequence - inner.events.length)
    (hnewest : cursor.sequence < inner.nextCursorSequence) (limit : ReadLimit)
    (included : ActivityEvent → Bool) :
    inner.readFiltered cursor limit included =
      .resyncRequired ⟨inner.epoch, inner.nextCursorSequence - inner.events.length - 1⟩
        inner.snapshotRevision := by
  have hnonempty : inner.events ≠ [] := by
    intro hempty
    rw [h.first_eq_one hempty] at hnewest hbehind
    omega
  have hnot : ¬cursor.sequence > inner.nextCursorSequence - 1 := by omega
  rw [readFiltered, if_neg (not_not_intro hepoch), if_neg hnot, h.oldest, if_neg hnonempty,
    Option.filter_some, if_pos (decide_eq_true (by omega))]

theorem Consistent.of_readFiltered (h : inner.Consistent log) {cursor : EventCursor}
    {included : ActivityEvent → Bool}
    (hread : inner.readFiltered cursor limit included = .events page next) :
    cursor.epoch = inner.epoch ∧ cursor.sequence < inner.nextCursorSequence ∧
      inner.nextCursorSequence - inner.events.length ≤ cursor.sequence + 1 ∧
      next.epoch = inner.epoch ∧
      fillPage (min limit.maxEvents maxPageEvents) (min limit.maxBytes maxPageBytes) included
        (inner.events.filter fun entry => cursor.sequence < entry.cursorSequence) []
        cursor.sequence 2 = some (page, next.sequence) := by
  have hlength := h.length_le
  rw [readFiltered] at hread
  split_ifs at hread with hepoch hahead
  rw [not_not] at hepoch
  have hnewest : cursor.sequence < inner.nextCursorSequence := by omega
  by_cases hbehind : cursor.sequence + 1 < inner.nextCursorSequence - inner.events.length
  · have hresync := h.resync hepoch hbehind hnewest limit included
    rw [readFiltered, if_neg (not_not_intro hepoch), if_neg hahead] at hresync
    rw [hresync] at hread
    cases hread
  · have hnone : ((inner.events.head?.map StoredEvent.cursorSequence).filter fun oldest =>
        decide (cursor.sequence < oldest - 1)) = none := by
      rw [h.oldest]
      split_ifs
      · rfl
      · rw [Option.filter_some, if_neg (by simp only [decide_eq_true_eq]; omega)]
    rw [hnone] at hread
    dsimp only at hread
    split_ifs at hread
    cases hpage : fillPage (min limit.maxEvents maxPageEvents) (min limit.maxBytes maxPageBytes)
        included (inner.events.filter fun entry => cursor.sequence < entry.cursorSequence) []
        cursor.sequence 2 with
    | none =>
      rw [hpage] at hread
      cases hread
    | some result =>
      rw [hpage] at hread
      cases hread
      exact ⟨hepoch, hnewest, by omega, rfl, rfl⟩

/-- **A page holds the wanted events that were published from its cursor on**, up to the cursor that
comes with it. -/
theorem Consistent.page_eq (h : inner.Consistent log) {cursor : EventCursor}
    {included : ActivityEvent → Bool}
    (hread : inner.readFiltered cursor limit included = .events page next) :
    cursor.epoch = inner.epoch ∧ next.epoch = inner.epoch ∧
      ∃ count, next.sequence = cursor.sequence + count ∧
        next.sequence ≤ (published log inner.epoch).length ∧
        page = ((((published log inner.epoch).drop cursor.sequence).take count).map
          Prod.snd).filter included := by
  obtain ⟨hepoch, hnewest, hold, hnextEpoch, hpage⟩ := h.of_readFiltered hread
  obtain ⟨seen, _, hentries, hevents, hnext⟩ := exists_of_fillPage hpage
  obtain ⟨count, hcursors⟩ := h.remaining_cursors hold
  have hremaining := h.remaining hold
  rw [hentries] at hcursors hremaining
  rw [cursorAfter_eq hcursors] at hnext
  rw [List.map_append] at hremaining
  have hseen : seen.map StoredEvent.event =
      (((published log inner.epoch).drop cursor.sequence).take seen.length).map Prod.snd := by
    rw [List.map_take, ← hremaining, List.take_left' (List.length_map _)]
  have hcount : seen.length ≤ (published log inner.epoch).length - cursor.sequence := by
    have hlength := congrArg List.length hremaining
    simp only [List.length_append, List.length_map, List.length_drop] at hlength
    omega
  have hle : cursor.sequence ≤ (published log inner.epoch).length := by
    rw [h.cursor_eq] at hnewest
    omega
  refine ⟨hepoch, hnextEpoch, seen.length, hnext, by omega, ?_⟩
  rw [hevents, List.nil_append, hseen]

/-! ### Delivery -/

/-- What a reader that starts at a cursor has been given, and the cursor it continues from, while
calls on the journal and its own reads follow each other in any order. -/
inductive Delivery (maxEvents maxBytes : ℕ) (included : ActivityEvent → Bool)
    (start : EventCursor) :
    EventJournal → List Entry → EventCursor → List ActivityEvent → Prop
  | start {inner : EventJournal} {log : List Entry} (h : History maxEvents maxBytes inner log)
      (hepoch : start.epoch = inner.epoch) :
      Delivery maxEvents maxBytes included start inner log start []
  | call {inner inner' : EventJournal} {log entries : List Entry} {cursor : EventCursor}
      {delivered : List ActivityEvent}
      (h : Delivery maxEvents maxBytes included start inner log cursor delivered)
      (hstep : Step inner entries inner') :
      Delivery maxEvents maxBytes included start inner' (log ++ entries) cursor delivered
  | read {inner : EventJournal} {log : List Entry} {cursor next : EventCursor}
      {delivered page : List ActivityEvent}
      (h : Delivery maxEvents maxBytes included start inner log cursor delivered)
      (limit : ReadLimit) (hread : inner.readFiltered cursor limit included = .events page next) :
      Delivery maxEvents maxBytes included start inner log next (delivered ++ page)

/-- The wanted events of an epoch between two cursors. -/
def wanted (included : ActivityEvent → Bool) (log : List Entry) (start : EventCursor)
    (sequence : ℕ) : List ActivityEvent :=
  ((((published log start.epoch).take sequence).drop start.sequence).map Prod.snd).filter included

section

omit [Sha256]

theorem wanted_start (included : ActivityEvent → Bool) (log : List Entry) (start : EventCursor) :
    wanted included log start start.sequence = [] := by
  rw [wanted, List.drop_eq_nil_of_le (List.length_take_le _ _)]
  rfl

theorem wanted_le {included : ActivityEvent → Bool} {start : EventCursor} {n m : ℕ} (h : n ≤ m) :
    wanted included log start n <+: wanted included log start m := by
  rw [wanted, wanted, List.drop_take, List.drop_take]
  exact ((List.take_prefix_take_left (Nat.sub_le_sub_right h _)).map _).filter _

theorem wanted_append {included : ActivityEvent → Bool} {start : EventCursor} {n : ℕ}
    (h : n ≤ (published log start.epoch).length) (entries : List Entry) :
    wanted included (log ++ entries) start n = wanted included log start n := by
  rw [wanted, wanted, published_append, List.take_append_of_le_length h]

end

/-- An event of the epoch after the cursor that is no longer retained. -/
def Missed (inner : EventJournal) (log : List Entry) (cursor : EventCursor) : Prop :=
  ∃ sequence, cursor.sequence < sequence ∧ sequence ≤ (published log cursor.epoch).length ∧
    ∀ stored ∈ inner.events, stored.cursorSequence ≠ sequence

variable {maxEvents maxBytes : ℕ} {included : ActivityEvent → Bool} {start cursor : EventCursor}
  {delivered : List ActivityEvent}

theorem Delivery.history
    (h : Delivery maxEvents maxBytes included start inner log cursor delivered) :
    History maxEvents maxBytes inner log := by
  induction h with
  | start h => exact h
  | call _ hstep ih => exact ih.step hstep
  | read _ limit hread ih => exact ih

/-- The reader's cursor is where it started, or among the events of the epoch; what lies between the
two has been delivered. -/
structure Delivered (included : ActivityEvent → Bool) (start : EventCursor) (log : List Entry)
    (cursor : EventCursor) (delivered : List ActivityEvent) : Prop where
  epoch_eq : cursor.epoch = start.epoch
  start_le : start.sequence ≤ cursor.sequence
  within : cursor = start ∨ cursor.sequence ≤ (published log start.epoch).length
  delivered_eq : delivered = wanted included log start cursor.sequence

omit [Sha256] in
theorem Delivered.append (h : Delivered included start log cursor delivered)
    (entries : List Entry) :
    Delivered included start (log ++ entries) cursor delivered := by
  refine ⟨h.epoch_eq, h.start_le, ?_, ?_⟩
  · rcases h.within with hstart | hle
    · exact Or.inl hstart
    · right
      rw [published_append, List.length_append]
      omega
  · rw [h.delivered_eq, wanted, wanted]
    rcases h.within with hstart | hle
    · rw [hstart, List.drop_eq_nil_of_le (List.length_take_le _ _),
        List.drop_eq_nil_of_le (List.length_take_le _ _)]
    · rw [published_append, List.take_append_of_le_length hle]

theorem Delivered.read (h : Delivered included start log cursor delivered)
    (hconsistent : inner.Consistent log)
    (hread : inner.readFiltered cursor limit included = .events page next) :
    Delivered included start log next (delivered ++ page) := by
  obtain ⟨hepoch, hnextEpoch, _, hnext, hle, hpage⟩ := hconsistent.page_eq hread
  have hsame : inner.epoch = start.epoch := hepoch.symm.trans h.epoch_eq
  have hstart := h.start_le
  rw [hsame] at hle hpage
  refine ⟨hnextEpoch.trans hsame, by omega, Or.inr hle, ?_⟩
  -- The events up to the new cursor are those up to the old one and then those of the page.
  have hwithin : start.sequence ≤ ((published log start.epoch).take cursor.sequence).length := by
    rw [List.length_take]
    omega
  rw [h.delivered_eq, hpage, wanted, wanted, hnext, List.take_add,
    List.drop_append_of_le_length hwithin, List.map_append, List.filter_append]

theorem Consistent.page_ne_nil_or (h : inner.Consistent log) (hlimit : 0 < min limit.maxEvents maxPageEvents)
    (hread : inner.readFiltered cursor limit included = .events page next) :
    page ≠ [] ∨ next.sequence = (published log inner.epoch).length := by
  obtain ⟨-, hlt, hold, -, hpage⟩ := h.of_readFiltered hread
  by_cases hempty : page = []
  · right
    subst hempty
    obtain ⟨_, hcursors⟩ := h.remaining_cursors hold
    have hlength := congrArg List.length (h.remaining hold)
    rw [next_of_fillPage_nil hlimit hpage]
    rw [← List.append_nil (List.filter _ _)] at hcursors
    rw [cursorAfter_eq hcursors]
    rw [List.length_map, List.length_map, List.length_drop] at hlength
    rw [h.cursor_eq] at hlt
    omega
  · exact .inl hempty

theorem Delivery.toDelivered
    (h : Delivery maxEvents maxBytes included start inner log cursor delivered) :
    Delivered included start log cursor delivered := by
  induction h with
  | start =>
    exact ⟨rfl, Nat.le_refl _, Or.inl rfl, (wanted_start _ _ _).symm⟩
  | call _ hstep ih => exact ih.append _
  | read hprevious limit hread ih => exact ih.read (consistent_of_history hprevious.history) hread

/-- **A reader is given every event it wants once and in order**: what it has been given are the
wanted events of its epoch between the cursor it started from and the one it continues from; and once
the epoch is over, or an event after its cursor is no longer retained, every read tells it to start
over. -/
theorem delivery_gap_free
    (h : Delivery maxEvents maxBytes included start inner log cursor delivered) :
    cursor.epoch = start.epoch ∧ delivered = wanted included log start cursor.sequence ∧
      (inner.epoch ≠ start.epoch ∨ inner.Missed log cursor → ∀ limit, ∃ oldest,
        inner.readFiltered cursor limit included =
          .resyncRequired oldest inner.snapshotRevision) := by
  have hdelivered := h.toDelivered
  have hconsistent := consistent_of_history h.history
  refine ⟨hdelivered.epoch_eq, hdelivered.delivered_eq, ?_⟩
  intro hgap limit
  by_cases hepoch : cursor.epoch = inner.epoch
  · rcases hgap with hover | ⟨sequence, hafter, hpublished, hmissed⟩
    · exact absurd (hepoch.symm.trans hdelivered.epoch_eq) hover
    · rw [hepoch] at hpublished
      have hcursor := hconsistent.cursor_eq
      have hlength := hconsistent.length_le
      -- The event is older than all that are retained, so that the cursor is behind them.
      have hold : sequence < inner.nextCursorSequence - inner.events.length := by
        by_contra hnew
        have hmem : sequence ∈ inner.events.map StoredEvent.cursorSequence := by
          rw [hconsistent.consecutive, List.mem_range'_1]
          omega
        obtain ⟨stored, hstored, hsame⟩ := List.mem_map.1 hmem
        exact hmissed stored hstored hsame
      exact ⟨_, hconsistent.resync hepoch (by omega) (by omega) limit included⟩
  · rw [readFiltered, if_pos hepoch]
    exact ⟨_, rfl⟩

end

/-! ### Pages of the default size -/

/-- Readers of pages of the default size go on: from every cursor that is neither ahead nor behind,
and whatever the reader wants to see, a page is returned, and the cursor moves on if an event is
left. -/
def Readable (inner : EventJournal) : Prop :=
  ∀ cursor : EventCursor, cursor.epoch = inner.epoch →
    cursor.sequence < inner.nextCursorSequence →
    (∀ oldest ∈ inner.events.head?, oldest.cursorSequence ≤ cursor.sequence + 1) →
    ∀ included, ∃ page next,
      inner.readFiltered cursor .default included = .events page next ∧
        ((∃ stored ∈ inner.events, cursor.sequence < stored.cursorSequence) →
          cursor.sequence < next.sequence)

def ReadableBy (inner : EventJournal) (count : ℕ) : Prop :=
  ∀ cursor : EventCursor, cursor.epoch = inner.epoch →
    cursor.sequence < inner.nextCursorSequence →
    (∀ oldest ∈ inner.events.head?, oldest.cursorSequence ≤ cursor.sequence + 1) →
    ∀ included, ∃ page next,
      inner.readFiltered cursor ⟨count, maxPageBytes⟩ included = .events page next ∧
        ((∃ stored ∈ inner.events, cursor.sequence < stored.cursorSequence) →
          cursor.sequence < next.sequence)

/-- The events that fit a page of the default size. -/
def FitsPage (event : ActivityEvent) : Prop := event.toJson.toVec.length + 2 ≤ maxPageBytes

/-- What is taken in fits a page. -/
def Entry.FitsPage : Entry → Prop
  | .published _ _ event => EventJournal.FitsPage event
  | .restored _ _ _ => True

theorem pageBytes_le {size : ℕ} (hsize : size + 2 ≤ byteLimit) :
    ¬saturatingAdd (saturatingAdd 2 (separator [])) size > byteLimit := by
  rw [saturatingAdd, saturatingAdd, separator, if_pos rfl]
  omega

theorem fillPage_isSome {eventLimit byteLimit : ℕ} {included : ActivityEvent → Bool}
    {entries : List StoredEvent} (hfits : ∀ entry ∈ entries, entry.serializedBytes + 2 ≤ byteLimit)
    {events : List ActivityEvent} {next pageBytes : ℕ} (hpage : events = [] → pageBytes = 2) :
    (fillPage eventLimit byteLimit included entries events next pageBytes).isSome = true := by
  induction entries generalizing events next pageBytes with
  | nil => rfl
  | cons entry entries ih =>
    have hrest : ∀ entry ∈ entries, entry.serializedBytes + 2 ≤ byteLimit := fun e he =>
      hfits e (List.mem_cons_of_mem _ he)
    rw [fillPage]
    split_ifs with hfull hskip hbytes hempty
    · rfl
    · exact ih hrest hpage
    · -- The first event of a page fits.
      rw [hempty, hpage hempty] at hbytes
      exact absurd hbytes (pageBytes_le (hfits entry List.mem_cons_self))
    · rfl
    · exact ih hrest fun happend => absurd happend (List.append_ne_nil_of_right_ne_nil _
        (List.cons_ne_nil _ _))

theorem fillPage_cons {eventLimit byteLimit : ℕ} {included : ActivityEvent → Bool}
    {entry : StoredEvent} {entries : List StoredEvent} (hlimit : eventLimit ≠ 0)
    (hfits : entry.serializedBytes + 2 ≤ byteLimit) (next : ℕ) :
    ∃ events pageBytes, fillPage eventLimit byteLimit included (entry :: entries) [] next 2 =
      fillPage eventLimit byteLimit included entries events entry.cursorSequence pageBytes := by
  rw [fillPage, List.length_nil, if_neg (Ne.symm hlimit)]
  by_cases hskip : included entry.event = false
  · rw [if_pos hskip]
    exact ⟨_, _, rfl⟩
  · rw [if_neg hskip, if_neg (pageBytes_le hfits)]
    exact ⟨_, _, rfl⟩

section

variable [Sha256] {inner : EventJournal} {log : List Entry}

theorem Consistent.readFiltered_current (h : inner.Consistent log) {count : ℕ} (hcount : 0 < count)
    {cursor : EventCursor} (hepoch : cursor.epoch = inner.epoch)
    (hahead : cursor.sequence < inner.nextCursorSequence)
    (hold : inner.nextCursorSequence - inner.events.length ≤ cursor.sequence + 1)
    (included : ActivityEvent → Bool) :
    inner.readFiltered cursor ⟨count, maxPageBytes⟩ included =
      match fillPage (min count maxPageEvents) maxPageBytes included
        (inner.events.filter fun entry => cursor.sequence < entry.cursorSequence) []
        cursor.sequence 2 with
      | none => .limitExceeded
      | some (events, next) => .events events ⟨inner.epoch, next⟩ := by
  have hnone : ((inner.events.head?.map StoredEvent.cursorSequence).filter fun oldest =>
      decide (cursor.sequence < oldest - 1)) = none := by
    rw [h.oldest]
    split_ifs
    · rfl
    · rw [Option.filter_some, if_neg (by simp only [decide_eq_true_eq]; omega)]
  have hnot : ¬cursor.sequence > inner.nextCursorSequence - 1 := by omega
  have hlimits : ¬(min count maxPageEvents = 0 ∨ min maxPageBytes maxPageBytes = 0) := by
    rw [maxPageEvents, maxPageBytes]
    omega
  rw [readFiltered, if_neg (not_not_intro hepoch), if_neg hnot, hnone]
  dsimp only
  rw [if_neg hlimits, Nat.min_self]

/-- Readers go on exactly if every event that is retained fits a page, however many they ask for. -/
theorem Consistent.readableBy_iff (h : inner.Consistent log) {count : ℕ} (hcount : 0 < count) :
    inner.ReadableBy count ↔ ∀ stored ∈ inner.events, FitsPage stored.event := by
  have hlimit : min count maxPageEvents ≠ 0 := by
    rw [maxPageEvents]
    omega
  have hlength := h.length_le
  constructor
  · intro hreadable stored hstored
    by_contra hbig
    obtain ⟨front, back, hevents⟩ := List.append_of_mem hstored
    have hcursors := h.consecutive
    -- The reader whose next event is the one that does not fit.
    have hcursor : stored.cursorSequence =
        inner.nextCursorSequence - inner.events.length + front.length := by
      have hat := congrArg (fun cursors => cursors[front.length]?) hcursors
      simp [hevents] at hat
      rw [hat, hevents, List.length_append, List.length_cons]
    have hsplit : inner.events.length = front.length + (back.length + 1) := by
      rw [hevents, List.length_append, List.length_cons]
    have hsequence : stored.cursorSequence - 1 + 1
        - (inner.nextCursorSequence - inner.events.length) = front.length := by
      omega
    have hfilter : (inner.events.filter fun entry => stored.cursorSequence - 1
        < entry.cursorSequence) = stored :: back := by
      rw [filter_eq_drop hcursors, hsequence, hevents, List.drop_left]
    have hlarge : saturatingAdd (saturatingAdd 2 (separator [])) stored.serializedBytes
        > maxPageBytes := by
      rw [FitsPage, ← h.sizes stored hstored] at hbig
      have hmax : maxPageBytes < u64Max := by decide
      rw [saturatingAdd, saturatingAdd, separator, if_pos rfl]
      omega
    obtain ⟨page, next, hread, -⟩ := hreadable ⟨inner.epoch, stored.cursorSequence - 1⟩ rfl
      (by dsimp only; omega)
      (by
        intro oldest holdest
        have hfirst := h.oldest
        rw [Option.mem_def.1 holdest, if_neg (List.ne_nil_of_mem hstored)] at hfirst
        have := Option.some.inj hfirst
        dsimp only
        omega)
      fun _ => true
    rw [h.readFiltered_current hcount rfl (by dsimp only; omega) (by dsimp only; omega), hfilter,
      fillPage, List.length_nil, if_neg (Ne.symm hlimit), if_neg (by decide), if_pos hlarge,
      if_pos rfl] at hread
    cases hread
  · intro hfits cursor hepoch hahead holdest included
    have hold : inner.nextCursorSequence - inner.events.length ≤ cursor.sequence + 1 := by
      have hfirst := h.oldest
      cases hhead : inner.events.head? with
      | none =>
        rw [List.head?_eq_none_iff] at hhead
        rw [h.first_eq_one hhead]
        omega
      | some oldest =>
        rw [hhead, if_neg (List.ne_nil_of_mem (List.mem_of_mem_head? hhead))] at hfirst
        rw [← Option.some.inj hfirst]
        exact holdest oldest hhead
    have hsizes : ∀ entry ∈ inner.events.filter fun entry => cursor.sequence
        < entry.cursorSequence, entry.serializedBytes + 2 ≤ maxPageBytes := by
      intro entry hentry
      have hmem := List.mem_of_mem_filter hentry
      rw [h.sizes entry hmem]
      exact hfits entry hmem
    rw [h.readFiltered_current hcount hepoch hahead hold]
    obtain ⟨remaining, hcursors⟩ := h.remaining_cursors hold
    obtain ⟨⟨page, next⟩, hpage⟩ := Option.isSome_iff_exists.1
      (@fillPage_isSome (min count maxPageEvents) _ included _ hsizes [] cursor.sequence 2 fun _ => rfl)
    rw [hpage]
    refine ⟨page, ⟨inner.epoch, next⟩, rfl, ?_⟩
    rintro ⟨stored, hstored, hafter⟩
    have hmem : stored ∈ inner.events.filter fun entry => cursor.sequence
        < entry.cursorSequence :=
      List.mem_filter.2 ⟨hstored, decide_eq_true hafter⟩
    dsimp only
    cases hentries : inner.events.filter fun entry => cursor.sequence < entry.cursorSequence with
    | nil =>
      rw [hentries] at hmem
      cases hmem
    | cons entry entries =>
      rw [hentries] at hcursors hpage hsizes
      obtain ⟨_, _, heq⟩ := @fillPage_cons _ _ included entry entries
        hlimit (hsizes entry List.mem_cons_self) cursor.sequence
      rw [heq] at hpage
      obtain ⟨seen, unseen, hsplit, -, hnext⟩ := exists_of_fillPage hpage
      have hmoved := @cursorAfter_eq (entry :: seen) unseen cursor.sequence remaining (by
        rw [List.cons_append, ← hsplit]
        exact hcursors)
      rw [hnext, cursorAfter_cons _ cursor.sequence, hmoved, List.length_cons]
      omega

theorem Consistent.readable_iff (h : inner.Consistent log) :
    inner.Readable ↔ ∀ stored ∈ inner.events, FitsPage stored.event :=
  @Consistent.readableBy_iff _ _ _ h maxPageEvents (Nat.succ_pos _)

theorem Consistent.exists_published (h : inner.Consistent log) {stored : StoredEvent}
    (hstored : stored ∈ inner.events) :
    .published inner.epoch stored.idempotencyKey stored.event ∈ log := by
  have hmem := h.retained.subset (List.mem_map_of_mem hstored)
  obtain ⟨entry, hentry, heq⟩ := List.mem_filterMap.1 hmem
  cases entry with
  | restored => cases heq
  | published =>
    rw [Entry.publishedIn] at heq
    split_ifs at heq with hepoch
    cases heq
    rw [← hepoch]
    exact hentry

/-- **Readers of a journal that has taken in only events that fit a page are never stuck**; and in any
journal they go on exactly if the events that are retained fit. -/
theorem readable_of_history {maxEvents maxBytes : ℕ} (h : History maxEvents maxBytes inner log) :
    ((∀ entry ∈ log, entry.FitsPage) → inner.Readable) ∧
      (inner.Readable ↔ ∀ stored ∈ inner.events, FitsPage stored.event) := by
  have hconsistent := consistent_of_history h
  refine ⟨?_, hconsistent.readable_iff⟩
  intro hlog
  rw [hconsistent.readable_iff]
  intro stored hstored
  exact hlog _ (hconsistent.exists_published hstored)

section

omit [Sha256]

theorem fitsPage_of_inU64 {event : ActivityEvent} (hnum : event.InU64)
    (h : event.validate = .ok ()) (hmessage : ∀ m ∈ event.message, m.validate = .ok ()) :
    FitsPage event :=
  ActivityEvent.length_toJson_le hnum h hmessage

theorem sampleJournal_readable : letI := eventHash
    sampleJournal.Readable := by
  let _ := eventHash
  refine (readable_of_history history_sampleJournal).1 ?_
  rw [List.forall_mem_singleton]
  exact fitsPage_of_inU64 inU64_sampleEvent validate_sampleEvent nofun

/-- A reader that starts with the journal is given the sample event. -/
theorem sampleJournal_delivered : letI := eventHash
    ∃ cursor, Delivery Dashboard.maxEvents maxEventBytes (fun _ => true) ⟨1, 0⟩ sampleJournal
      [.published 1 "key" sampleEvent] cursor [sampleEvent] := by
  let _ := eventHash
  have hmem : ⟨1, sampleEvent, sampleEvent.toJson.toVec.length, "key"⟩ ∈ sampleJournal.events :=
    List.mem_append_right _ (List.mem_singleton_self _)
  have hhead : ∀ oldest ∈ sampleJournal.events.head?, oldest.cursorSequence ≤ 0 + 1 := by
    intro oldest holdest
    cases holdest
    exact Nat.le_refl 1
  have hfits : ∀ stored ∈ sampleJournal.events, FitsPage stored.event := by
    intro stored hstored
    rw [List.mem_singleton.1 hstored]
    exact fitsPage_of_inU64 inU64_sampleEvent validate_sampleEvent fun _ hm => by cases hm
  obtain ⟨page, next, hread, hnext⟩ := (consistent_of_history history_sampleJournal).readable_iff.2
    hfits ⟨1, 0⟩ rfl (Nat.succ_pos 1) hhead fun _ => true
  have hdelivery := (Delivery.start history_sampleJournal rfl).read _ hread
  obtain ⟨-, hdelivered, -⟩ := delivery_gap_free hdelivery
  have hmoved : 1 ≤ next.sequence := hnext ⟨_, hmem, Nat.one_pos⟩
  have hwanted : wanted (fun _ => true) [.published 1 "key" sampleEvent] ⟨1, 0⟩ next.sequence
      = [sampleEvent] := by
    have hpublished : published [.published 1 "key" sampleEvent] 1 = [("key", sampleEvent)] := rfl
    rw [wanted, hpublished, List.take_of_length_le hmoved]
    rfl
  rw [hdelivered, hwanted] at hdelivery
  exact ⟨next, hdelivery⟩

end

end

/-! ### An event that does not fit a page -/

/-- Readers of every reachable journal go on. -/
def NeverWedged [Sha256] : Prop := ∀ inner, Reachable inner → inner.Readable

def longText : String := String.ofList (List.replicate maxPageBytes 'a')

theorem utf8ByteSize_longText : longText.utf8ByteSize = maxPageBytes := by
  have hsize : ∀ n, Json.bytes (List.replicate n 'a') = n := by
    intro n
    induction n with
    | zero => rfl
    | succ n ih =>
      have hone : ('a' : Char).utf8Size = 1 := by decide
      rw [List.replicate_succ, Json.bytes_cons, ih, hone, Nat.add_comm]
  exact hsize maxPageBytes

def withDigest (s : String) : ActivityEvent := { sampleEvent with remoteOperationSha256 := some s }

theorem not_fitsPage_withDigest (h : s.utf8ByteSize = maxPageBytes) : ¬FitsPage (withDigest s) := by
  have hfield : ("remote_operation_sha256", Json.str s) ∈ (withDigest s).fields :=
    List.mem_append_left _ (List.mem_append_right _ (List.mem_singleton_self _))
  have hlength := Json.le_length_toVec_obj hfield
  rw [h] at hlength
  rw [FitsPage, ActivityEvent.toJson]
  omega

theorem length_withDigest_le (h : s.utf8ByteSize = maxPageBytes) :
    (withDigest s).toJson.toVec.length ≤ (new 1 0).maxBytes := by
  have hlength := ActivityEvent.length_toJson_le_add inU64_sampleEvent validate_sampleEvent nofun
    (some s)
  rw [Option.elim_some, h] at hlength
  have hmax : 190000 + 6 * maxPageBytes ≤ (new 1 0).maxBytes := by decide
  exact hlength.trans hmax

theorem not_readable_withDigest [Sha256] (h : s.utf8ByteSize = maxPageBytes) :
    ∃ inner, Reachable inner ∧ ¬inner.Readable := by
  have haccepts := accepts_new
    (@checkEvent_eq_ok "key" (withDigest s) validate_sampleEvent nofun (by decide) (by decide))
    (length_withDigest_le h) rfl
  have hhistory := (@History.withBounds _ Dashboard.maxEvents maxEventBytes 1 0).step
    (Step.of_accepts haccepts (pure () : Eff Unit Unit Unit) () rfl)
  refine ⟨_, reachable_iff_history.2 ⟨_, _, _, hhistory⟩, ?_⟩
  intro hreadable
  have hfits := (consistent_of_history hhistory).readable_iff.1 hreadable
  refine not_fitsPage_withDigest h (hfits
    ⟨1, withDigest s, (withDigest s).toJson.toVec.length, "key"⟩ ?_)
  exact List.mem_append_right _ (List.mem_singleton_self _)

/-- A reader that waits for an event with a text of the size of a page gets no page. -/
theorem not_neverWedged : ¬∃ _ : Sha256, NeverWedged := by
  rintro ⟨_, hnever⟩
  obtain ⟨inner, hreachable, hwedged⟩ := not_readable_withDigest utf8ByteSize_longText
  exact hwedged (hnever inner hreachable)

end EventJournal

end Dashboard
