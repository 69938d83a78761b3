/-
**The event stream of the desktop application.**

The application reads the journal of the daemon page by page, from a cursor of its own. A page that
holds events is acknowledged before the cursor moves on; a reader that has been overtaken is told to
start over and first fetches a fresh snapshot; a reader that is ahead of the journal goes back to its
end; and after an error of the transport the page is read again later. Two guards end the loop where it
would start over without having read anything in between.

Main definitions:

* `Desktop.EventStream` — the loop and the journal, while calls on the journal, restarts of the daemon,
  errors and the steps of the loop follow each other in any order.

Main results:

* `streams_of_run` — **in every run** both hold.
-/

import DeviceLane.Dashboard.EventLogRestarts
import DeviceLane.Dashboard.Snapshot
import DeviceLane.Library.Runs

namespace Desktop

open Dashboard Effect

/-! ### The loop -/

def reconnectDelayMs (attempt : ℕ) : ℕ := min 30000 (1000 * 2 ^ attempt)

inductive Phase
  | scheduled (delayMs : ℕ)
  | reading
  | answered (page : EventRead)
  | acknowledging (count : ℕ) (nextCursor : EventCursor)
  | refreshing (oldestAvailable : EventCursor)
  | stopped
  | aborted
  deriving DecidableEq

/-- The state of the loop, with what it shows: whether it reconnects, its error, and all events that it
has handed on. -/
structure EventPump where
  phase : Phase
  cursor : EventCursor
  reconnectAttempt : ℕ
  lastResyncKey : Option String
  cursorAheadRecovered : Bool
  streamReconnecting : Bool
  streamError : String
  events : List ActivityEvent
  deriving DecidableEq

namespace EventPump

/-- The loop as it starts: the first page is asked for at once. -/
def start (streamReconnecting : Bool) (streamError : String) : EventPump :=
  { phase := .reading
    cursor := ⟨0, 0⟩
    reconnectAttempt := 0
    lastResyncKey := none
    cursorAheadRecovered := false
    streamReconnecting
    streamError
    events := [] }

def stop (text : String) (pump : EventPump) : EventPump :=
  { pump with
    phase := .stopped
    streamReconnecting := false
    streamError := text }

def resyncKey (oldestAvailable : EventCursor) (snapshotRevision : ℕ) : String :=
  toString oldestAvailable.epoch ++ ":" ++ toString snapshotRevision

def receive (pump : EventPump) : EventRead → EventPump
  | .events events nextCursor =>
    { pump with
      lastResyncKey := none
      events := pump.events ++ events
      phase := .acknowledging events.length nextCursor }
  | .resyncRequired oldestAvailable snapshotRevision =>
    if pump.lastResyncKey = some (resyncKey oldestAvailable snapshotRevision) then
      pump.stop "Aktivitätsstream benötigt erneut eine Synchronisierung"
    else
      { pump with
        lastResyncKey := some (resyncKey oldestAvailable snapshotRevision)
        phase := .refreshing oldestAvailable }
  | .cursorAhead newestAvailable =>
    if pump.cursorAheadRecovered then
      pump.stop "Aktivitäts-Cursor bleibt dem verfügbaren Stream voraus"
    else
      { pump with
        cursorAheadRecovered := true
        cursor := newestAvailable
        phase := .scheduled 0 }
  | .limitExceeded => pump.stop "Aktivitätsseite überschreitet das sichere Größenlimit"

/-- The page has been acknowledged. -/
def acknowledged (count : ℕ) (nextCursor : EventCursor) (pump : EventPump) : EventPump :=
  { pump with
    cursor := nextCursor
    reconnectAttempt := 0
    cursorAheadRecovered := false
    streamReconnecting := false
    streamError := ""
    phase := .scheduled (if count = 100 then 0 else 1000) }

/-- The fresh snapshot has arrived; the next page is asked for at once. -/
def refreshed (oldestAvailable : EventCursor) (pump : EventPump) : EventPump :=
  { pump with
    cursor := oldestAvailable
    phase := .reading }

def failed (message : String) (pump : EventPump) : EventPump :=
  { pump with
    reconnectAttempt := pump.reconnectAttempt + 1
    streamReconnecting := true
    streamError := message
    phase := .scheduled (reconnectDelayMs pump.reconnectAttempt) }

end EventPump

/-! ### The loop and the journal -/

/-- The loop that reads the events of a scope, and the journal of the daemon. The acknowledged pages are
counted for the statements alone. -/
structure EventStream where
  localHostId : HostId
  scope : DashboardScope
  journal : EventJournal
  pump : EventPump
  pages : ℕ

/-- What happens next: a call on the journal, a restart of the daemon, or a step of the loop. -/
inductive StreamEvent
  | call (journal : EventJournal)
  | restart (epoch snapshotRevision : ℕ)
  | fire
  | serve
  | receive
  | acknowledged
  | refreshed
  | fail (message : String)
  | abort

namespace EventStream

/-- The application starts. -/
def started (localHostId : HostId) (scope : DashboardScope) (epoch snapshotRevision : ℕ)
    (streamReconnecting : Bool) (streamError : String) : EventStream :=
  { localHostId
    scope
    journal := .new epoch snapshotRevision
    pump := .start streamReconnecting streamError
    pages := 0 }

/-- The events that the daemon returns for the scope. -/
def included (s : EventStream) (event : ActivityEvent) : Bool :=
  decide (s.scope = .mesh ∨ event.sourceHostId = s.localHostId ∨ event.targetHostId = s.localHostId)

/-- What the daemon answers. -/
def answer (s : EventStream) : EventRead :=
  s.journal.readFiltered s.pump.cursor ⟨100, maxPageBytes⟩ s.included

def next (s : EventStream) : StreamEvent → EventStream
  | .call journal => { s with journal }
  | .restart epoch snapshotRevision => { s with journal := .new epoch snapshotRevision }
  | .fire =>
    match s.pump.phase with
    | .scheduled _ => { s with pump := { s.pump with phase := .reading } }
    | _ => s
  | .serve =>
    match s.pump.phase with
    | .reading => { s with pump := { s.pump with phase := .answered s.answer } }
    | _ => s
  | .receive =>
    match s.pump.phase with
    | .answered page => { s with pump := s.pump.receive page }
    | _ => s
  | .acknowledged =>
    match s.pump.phase with
    | .acknowledging count nextCursor =>
      { s with
        pump := s.pump.acknowledged count nextCursor
        pages := s.pages + 1 }
    | _ => s
  | .refreshed =>
    match s.pump.phase with
    | .refreshing oldestAvailable => { s with pump := s.pump.refreshed oldestAvailable }
    | _ => s
  | .fail message =>
    match s.pump.phase with
    | .reading | .answered _ | .acknowledging _ _ | .refreshing _ =>
      { s with pump := s.pump.failed message }
    | _ => s
  | .abort => { s with pump := { s.pump with phase := .aborted } }

/-! ### What is said of it -/

/-- The calls on the journal are its own. -/
def Legal [Sha256] (s : EventStream) : StreamEvent → Prop
  | .call journal => ∃ entries, EventJournal.Step s.journal entries journal
  | _ => True

/-- The timer is set, or a request is underway, unless the loop has been aborted. -/
def GoesOn (s : EventStream) : Prop := s.pump.phase ≠ .stopped

def Small (s : EventStream) : StreamEvent → Prop
  | .receive => s.pump.phase ≠ .answered .limitExceeded
  | _ => True

/-- No page that is too large arrives, none that is ahead again, and none that asks for the same
resynchronization again, with no page of events in between. -/
def Unrepeated (s : EventStream) : StreamEvent → Prop
  | .receive => ∀ page, s.pump.phase = .answered page →
      page ≠ .limitExceeded ∧
      (∀ newest, page = .cursorAhead newest → s.pump.cursorAheadRecovered = false) ∧
      (∀ oldest revision, page = .resyncRequired oldest revision →
        s.pump.lastResyncKey ≠ some (EventPump.resyncKey oldest revision))
  | _ => True

def due (s : EventStream) : List ActivityEvent :=
  ((s.journal.events.filter fun stored => s.pump.cursor.sequence < stored.cursorSequence).map
    StoredEvent.event).filter s.included

structure Current (s : EventStream) : Prop where
  epoch_eq : s.pump.cursor.epoch = s.journal.epoch
  sequence_lt : s.pump.cursor.sequence < s.journal.nextCursorSequence
  oldest_le : s.journal.nextCursorSequence - s.journal.events.length ≤ s.pump.cursor.sequence + 1

/-- The journal stays, and what it drops has been read. -/
def Undisturbed (s : EventStream) : StreamEvent → Prop
  | .restart _ _ => False
  | event => (s.next event).Current

/-- What is due at a read has been handed on as soon as so many pages have been acknowledged, in every
continuation that meets a condition. -/
def Delivers (P : EventStream → StreamEvent → Prop) (s : EventStream) : Prop :=
  s.pump.phase = .reading → s.Current → ∀ after, Runs.AllSteps next P after (s.next .serve) →
    s.pages + s.due.length ≤ (after.foldl next (s.next .serve)).pages →
      ∀ event ∈ s.due, event ∈ (after.foldl next (s.next .serve)).pump.events.drop s.pump.events.length

/-- After the snapshot of a resynchronization, the loop reads on from the oldest event. -/
def Resumes (s : EventStream) : Prop :=
  ∀ oldest, s.pump.phase = .refreshing oldest →
    (s.next .refreshed).pump.phase = .reading ∧ (s.next .refreshed).pump.cursor = oldest

/-! ### What ends the loop -/

variable {s : EventStream}

/-- A page ends the loop exactly if it is too large or a guard holds it for a repetition. -/
theorem phase_receive_ne_stopped {pump : EventPump} {page : EventRead} :
    (pump.receive page).phase ≠ .stopped ↔
      page ≠ .limitExceeded ∧
        (∀ newest, page = .cursorAhead newest → pump.cursorAheadRecovered = false) ∧
        (∀ oldest revision, page = .resyncRequired oldest revision →
          pump.lastResyncKey ≠ some (EventPump.resyncKey oldest revision)) := by
  cases page with
  | events => simp [EventPump.receive]
  | cursorAhead =>
    by_cases hrecovered : pump.cursorAheadRecovered <;>
      simp [EventPump.receive, EventPump.stop, hrecovered]
  | resyncRequired oldest revision =>
    by_cases hkey : pump.lastResyncKey = some (EventPump.resyncKey oldest revision) <;>
      simp [EventPump.receive, EventPump.stop, hkey]
  | limitExceeded => simp [EventPump.receive, EventPump.stop]

theorem goesOn_next (h : s.GoesOn) (event : StreamEvent) :
    (s.next event).GoesOn ↔ s.Unrepeated event := by
  cases event with
  | receive =>
    cases hphase : s.pump.phase with
    | answered page =>
      have hnext : (s.next .receive).pump = s.pump.receive page := by simp only [next, hphase]
      rw [GoesOn, hnext, phase_receive_ne_stopped, Unrepeated, hphase]
      simp only [Phase.answered.injEq, forall_eq']
    | _ => simp_all [GoesOn, next, Unrepeated]
  | _ =>
    cases hphase : s.pump.phase <;>
      simp_all [GoesOn, next, Unrepeated, EventPump.acknowledged, EventPump.refreshed,
        EventPump.failed]

theorem goesOn_started (localHostId : HostId) (scope : DashboardScope) (epoch snapshotRevision : ℕ)
    (streamReconnecting : Bool) (streamError : String) :
    (started localHostId scope epoch snapshotRevision streamReconnecting streamError).GoesOn :=
  Phase.noConfusion

/-- **The loop goes on exactly if no page ends it.** -/
theorem goesOn_iff (h : s.GoesOn) (events : List StreamEvent) :
    Runs.Always next GoesOn events s ↔ Runs.AllSteps next Unrepeated events s := by
  have hstep : ∀ (s : EventStream) (event : StreamEvent), True → s.GoesOn →
      ((s.next event).GoesOn ↔ s.Unrepeated event) := fun _ event _ hs => goesOn_next hs event
  exact Runs.always_iff_allSteps (fun _ _ _ => trivial) hstep trivial h events

/-! ### What has been handed on -/

variable [Sha256]

theorem due_eq {log : List EventJournal.Entry} (hconsistent : s.journal.Consistent log)
    (hcurrent : s.Current) :
    s.due = EventJournal.wanted s.included log s.pump.cursor
      (EventJournal.published log s.pump.cursor.epoch).length := by
  rw [due, hconsistent.remaining hcurrent.oldest_le, EventJournal.wanted, List.take_length,
    hcurrent.epoch_eq]

theorem page_ne_nil_or {log : List EventJournal.Entry} (hconsistent : s.journal.Consistent log)
    {page : List ActivityEvent} {next : EventCursor} (hread : s.answer = .events page next) :
    page ≠ [] ∨ next.sequence = (EventJournal.published log s.journal.epoch).length :=
  hconsistent.page_ne_nil_or (by decide) hread

structure Advances (s₀ : EventStream) (log : List EventJournal.Entry) (read : List ActivityEvent)
    (next : EventCursor) (read' : List ActivityEvent) : Prop where
  delivered : EventJournal.Delivered s₀.included s₀.pump.cursor log next read'
  progress : min s₀.due.length (read.length + 1) ≤ read'.length

def Underway (s₀ : EventStream) (log : List EventJournal.Entry) (read events : List ActivityEvent) :
    Phase → Prop
  | .answered page => page = .limitExceeded ∨
      ∃ page' next, page = .events page' next ∧ s₀.Advances log read next (read ++ page')
  | .acknowledging _ next =>
    ∃ page', page' ⊆ events ∧ s₀.Advances log read next (read ++ page')
  | .refreshing _ => False
  | .scheduled _ | .reading | .stopped | .aborted => True

/-- The stream since it was about to read: what has been acknowledged, `read`, has been handed on, and it
is at least as many events as pages, unless it is all that was due. -/
structure Follows (s₀ : EventStream) (log₀ : List EventJournal.Entry) (s : EventStream)
    (log : List EventJournal.Entry) (read events : List ActivityEvent) : Prop where
  consistent : s.journal.Consistent log
  grows : log₀ <+: log
  due_eq : s₀.due = EventJournal.wanted s₀.included log₀ s₀.pump.cursor
    (EventJournal.published log₀ s₀.pump.cursor.epoch).length
  included_eq : s.included = s₀.included
  current : s.Current
  delivered : EventJournal.Delivered s₀.included s₀.pump.cursor log s.pump.cursor read
  handed : s.pump.events = s₀.pump.events ++ events
  subset : read ⊆ events
  underway : s₀.Underway log read events s.pump.phase
  pages_le : s₀.pages ≤ s.pages
  count : min s₀.due.length (s.pages - s₀.pages) ≤ read.length

variable {s₀ : EventStream} {log₀ log : List EventJournal.Entry} {read events : List ActivityEvent}

omit [Sha256] in
theorem Advances.append {next : EventCursor} {read' : List ActivityEvent}
    (h : s₀.Advances log read next read') (entries : List EventJournal.Entry) :
    s₀.Advances (log ++ entries) read next read' :=
  ⟨h.delivered.append entries, h.progress⟩

omit [Sha256] in
theorem Underway.append {phase : Phase} (h : s₀.Underway log read events phase)
    (entries : List EventJournal.Entry) : s₀.Underway (log ++ entries) read events phase := by
  cases phase with
  | answered =>
    rcases h with hlimit | ⟨page', next, hpage, hadvances⟩
    · exact .inl hlimit
    · exact .inr ⟨page', next, hpage, hadvances.append entries⟩
  | acknowledging =>
    obtain ⟨page', hsubset, hadvances⟩ := h
    exact ⟨page', hsubset, hadvances.append entries⟩
  | refreshing => exact h
  | _ => trivial

theorem follows_refl (hconsistent : s.journal.Consistent log) (hcurrent : s.Current)
    (hphase : s.pump.phase = .reading) : Follows s log s log [] [] where
  consistent := hconsistent
  grows := List.prefix_refl _
  due_eq := due_eq hconsistent hcurrent
  included_eq := rfl
  current := hcurrent
  delivered := ⟨rfl, Nat.le_refl _, .inl rfl, (EventJournal.wanted_start _ _ _).symm⟩
  handed := (List.append_nil _).symm
  subset := List.Subset.refl _
  underway := by rw [hphase]; trivial
  pages_le := Nat.le_refl _
  count := by rw [Nat.sub_self, Nat.min_zero]; exact Nat.zero_le _

theorem Follows.wait (h : Follows s₀ log₀ s log read events) {pump : EventPump}
    (hcursor : pump.cursor = s.pump.cursor) (hevents : pump.events = s.pump.events)
    (hphase : s₀.Underway log read events pump.phase) :
    Follows s₀ log₀ { s with pump } log read events :=
  { h with
    current := by
      obtain ⟨hepoch, hlt, hold⟩ := h.current
      rw [← hcursor] at hepoch hlt hold
      exact ⟨hepoch, hlt, hold⟩
    delivered := by
      have hdelivered := h.delivered
      rw [← hcursor] at hdelivered
      exact hdelivered
    handed := hevents.trans h.handed
    underway := hphase }

theorem Follows.due_wanted (h : Follows s₀ log₀ s log read events) :
    ∃ n ≤ (EventJournal.published log s₀.pump.cursor.epoch).length,
      s₀.due = EventJournal.wanted s₀.included log s₀.pump.cursor n := by
  obtain ⟨_, rfl⟩ := h.grows
  refine ⟨(EventJournal.published log₀ s₀.pump.cursor.epoch).length, ?_, ?_⟩
  · rw [EventJournal.published_append, List.length_append]
    omega
  · rw [h.due_eq, EventJournal.wanted_append (Nat.le_refl _)]

theorem Follows.due_subset (h : Follows s₀ log₀ s log read events)
    (hlength : s₀.due.length ≤ read.length) : s₀.due ⊆ read := by
  obtain ⟨n, -, hdue⟩ := h.due_wanted
  have hdueLe : s₀.due <+: EventJournal.wanted s₀.included log s₀.pump.cursor
      (max n s.pump.cursor.sequence) := by
    rw [hdue]
    exact EventJournal.wanted_le (Nat.le_max_left _ _)
  have hreadLe : read <+: EventJournal.wanted s₀.included log s₀.pump.cursor
      (max n s.pump.cursor.sequence) := by
    rw [h.delivered.delivered_eq]
    exact EventJournal.wanted_le (Nat.le_max_right _ _)
  exact (List.prefix_of_prefix_length_le hdueLe hreadLe hlength).subset

theorem Follows.advances (h : Follows s₀ log₀ s log read events) {page : List ActivityEvent}
    {next : EventCursor} (hread : s.answer = .events page next) :
    s₀.Advances log read next (read ++ page) := by
  have hdelivered : EventJournal.Delivered s₀.included s₀.pump.cursor log next (read ++ page) := by
    rw [answer, h.included_eq] at hread
    exact h.delivered.read h.consistent hread
  refine ⟨hdelivered, ?_⟩
  rw [List.length_append]
  rcases page_ne_nil_or h.consistent hread with hsome | hall
  · have hpos := List.length_pos_iff.2 hsome
    omega
  · -- All that has been published has been read, and so all that was due.
    obtain ⟨_, hn, hdue⟩ := h.due_wanted
    have hepoch : s.journal.epoch = s₀.pump.cursor.epoch :=
      h.current.epoch_eq.symm.trans h.delivered.epoch_eq
    have hprefix : s₀.due <+: read ++ page := by
      rw [hdue, hdelivered.delivered_eq, hall, hepoch]
      exact EventJournal.wanted_le hn
    have hle := hprefix.length_le
    rw [List.length_append] at hle
    omega

theorem Follows.answers (h : Follows s₀ log₀ s log read events) :
    s₀.Underway log read events (.answered s.answer) := by
  obtain ⟨hepoch, hlt, hold⟩ := h.current
  have hanswer := h.consistent.readFiltered_current (by decide : 0 < 100) hepoch hlt hold s.included
  cases hpage : EventJournal.fillPage (min 100 maxPageEvents) maxPageBytes s.included
      (s.journal.events.filter fun entry => s.pump.cursor.sequence < entry.cursorSequence) []
      s.pump.cursor.sequence 2 with
  | none =>
    rw [hpage] at hanswer
    exact .inl hanswer
  | some result =>
    rw [hpage] at hanswer
    exact .inr ⟨result.1, _, hanswer, h.advances hanswer⟩

theorem Follows.call (h : Follows s₀ log₀ s log read events) {journal : EventJournal}
    {entries : List EventJournal.Entry} (hstep : EventJournal.Step s.journal entries journal)
    (hcurrent : ({ s with journal } : EventStream).Current) :
    Follows s₀ log₀ { s with journal } (log ++ entries) read events :=
  { h with
    consistent := h.consistent.change (hstep.change h.consistent.bounded)
    grows := h.grows.trans (List.prefix_append _ _)
    current := hcurrent
    delivered := h.delivered.append entries
    underway := h.underway.append entries }

theorem Follows.receive (h : Follows s₀ log₀ s log read events) {page : EventRead}
    (hphase : s.pump.phase = .answered page) :
    ∃ events', Follows s₀ log₀ { s with pump := s.pump.receive page } log read events' := by
  have hunderway := h.underway
  rw [hphase] at hunderway
  rcases hunderway with rfl | ⟨page', next, rfl, hadvances⟩
  · exact ⟨events, h.wait rfl rfl trivial⟩
  · refine ⟨events ++ page', ?_⟩
    exact
      { consistent := h.consistent
        grows := h.grows
        due_eq := h.due_eq
        included_eq := h.included_eq
        current := ⟨h.current.epoch_eq, h.current.sequence_lt, h.current.oldest_le⟩
        delivered := h.delivered
        handed := by
          rw [← List.append_assoc, ← h.handed]
          rfl
        subset := List.Subset.trans h.subset (List.subset_append_left _ _)
        underway := ⟨page', List.subset_append_right _ _, hadvances⟩
        pages_le := h.pages_le
        count := h.count }

theorem Follows.acknowledged (h : Follows s₀ log₀ s log read events) {count : ℕ}
    {nextCursor : EventCursor} (hphase : s.pump.phase = .acknowledging count nextCursor)
    (hcurrent : (s.next .acknowledged).Current) :
    ∃ read', Follows s₀ log₀ (s.next .acknowledged) log read' events := by
  have hunderway := h.underway
  rw [hphase] at hunderway
  obtain ⟨page', hsubset, hadvances⟩ := hunderway
  have hnext : s.next .acknowledged =
      { s with
        pump := s.pump.acknowledged count nextCursor
        pages := s.pages + 1 } := by
    simp only [next, hphase]
  rw [hnext] at hcurrent ⊢
  refine ⟨read ++ page', ?_⟩
  exact
    { consistent := h.consistent
      grows := h.grows
      due_eq := h.due_eq
      included_eq := h.included_eq
      current := hcurrent
      delivered := hadvances.delivered
      handed := h.handed
      subset := List.append_subset.2 ⟨h.subset, hsubset⟩
      underway := trivial
      pages_le := Nat.le_succ_of_le h.pages_le
      count := by
        have hcount := h.count
        have hprogress := hadvances.progress
        have hpages := h.pages_le
        dsimp only
        omega }

/-- **One step**: what has been handed on since a read goes on with what is due. -/
theorem Follows.next (h : Follows s₀ log₀ s log read events) (event : StreamEvent)
    (hlegal : s.Legal event) (hundisturbed : s.Undisturbed event) :
    ∃ log' read' events', Follows s₀ log₀ (s.next event) log' read' events' := by
  cases event with
  | call =>
    obtain ⟨_, hstep⟩ := hlegal
    exact ⟨_, _, _, h.call hstep hundisturbed⟩
  | restart => exact hundisturbed.elim
  | fire =>
    cases hphase : s.pump.phase with
    | scheduled =>
      simp only [EventStream.next, hphase]
      exact ⟨_, _, _, h.wait rfl rfl trivial⟩
    | _ => simp only [EventStream.next, hphase]; exact ⟨_, _, _, h⟩
  | serve =>
    cases hphase : s.pump.phase with
    | reading =>
      simp only [EventStream.next, hphase]
      exact ⟨_, _, _, h.wait rfl rfl h.answers⟩
    | _ => simp only [EventStream.next, hphase]; exact ⟨_, _, _, h⟩
  | receive =>
    cases hphase : s.pump.phase with
    | answered =>
      obtain ⟨events', hevents'⟩ := h.receive hphase
      simp only [EventStream.next, hphase]
      exact ⟨_, _, _, hevents'⟩
    | _ => simp only [EventStream.next, hphase]; exact ⟨_, _, _, h⟩
  | acknowledged =>
    cases hphase : s.pump.phase with
    | acknowledging =>
      obtain ⟨read', hread'⟩ := h.acknowledged hphase hundisturbed
      exact ⟨_, _, _, hread'⟩
    | _ => simp only [EventStream.next, hphase]; exact ⟨_, _, _, h⟩
  | refreshed =>
    cases hphase : s.pump.phase with
    | refreshing =>
      have hunderway := h.underway
      rw [hphase] at hunderway
      exact hunderway.elim
    | _ => simp only [EventStream.next, hphase]; exact ⟨_, _, _, h⟩
  | fail =>
    cases hphase : s.pump.phase with
    | reading | answered | acknowledging | refreshing =>
      simp only [EventStream.next, hphase]
      exact ⟨_, _, _, h.wait rfl rfl trivial⟩
    | _ => simp only [EventStream.next, hphase]; exact ⟨_, _, _, h⟩
  | abort => exact ⟨_, _, _, h.wait rfl rfl trivial⟩

theorem Follows.run {after : List StreamEvent} (h : Follows s₀ log₀ s log read events)
    (hsteps : Runs.AllSteps EventStream.next (fun s event => s.Legal event ∧ s.Undisturbed event)
      after s) :
    ∃ log' read' events', Follows s₀ log₀ (after.foldl EventStream.next s) log' read' events' := by
  induction after generalizing s log read events with
  | nil => exact ⟨_, _, _, h⟩
  | cons event after ih =>
    obtain ⟨⟨hlegal, hundisturbed⟩, hrest⟩ := hsteps
    obtain ⟨log', read', events', hnext⟩ := h.next event hlegal hundisturbed
    exact ih hnext hrest

/-- **What is due at a read has been handed on after as many pages**, if the journal drops nothing that
has not been read. -/
theorem delivered_of_undisturbed (hconsistent : s.journal.Consistent log) :
    s.Delivers fun s event => s.Legal event ∧ s.Undisturbed event := by
  intro hphase hcurrent after hsteps _ event hevent
  have hserve : (s.next .serve).Current := by
    simp only [EventStream.next, hphase]
    exact ⟨hcurrent.epoch_eq, hcurrent.sequence_lt, hcurrent.oldest_le⟩
  have hrun : Runs.AllSteps EventStream.next (fun s event => s.Legal event ∧ s.Undisturbed event)
      (.serve :: after) s := ⟨⟨trivial, hserve⟩, hsteps⟩
  obtain ⟨_, _, _, hfollows⟩ := (follows_refl hconsistent hcurrent hphase).run hrun
  rw [List.foldl_cons] at hfollows
  have hcount := hfollows.count
  have hsubset := hfollows.due_subset (by omega)
  rw [hfollows.handed, List.drop_left]
  exact hfollows.subset (hsubset hevent)

/-! ### Every run -/

def Sound (s : EventStream) : Prop := ∃ log, s.journal.Consistent log

theorem sound_next (h : s.Sound) (event : StreamEvent) (hlegal : s.Legal event) :
    (s.next event).Sound := by
  obtain ⟨log, hlog⟩ := h
  cases event with
  | call =>
    obtain ⟨entries, hstep⟩ := hlegal
    exact ⟨log ++ entries, hlog.change (hstep.change hlog.bounded)⟩
  | restart => exact ⟨[], EventJournal.consistent_withBounds _ _ _ _⟩
  | abort => exact ⟨log, hlog⟩
  | _ =>
    cases hphase : s.pump.phase <;> simp only [EventStream.next, hphase] <;> exact ⟨log, hlog⟩

omit [Sha256] in
theorem resumes (s : EventStream) : s.Resumes := by
  intro oldest hphase
  simp only [EventStream.next, hphase]
  exact ⟨rfl, rfl⟩

/-- A loop that is sent no page that is too large goes on. -/
def AlwaysGoesOn : Prop :=
  ∀ localHostId scope epoch snapshotRevision streamReconnecting streamError events,
    Runs.AllSteps next (fun s event => s.Legal event ∧ s.Small event) events
      (started localHostId scope epoch snapshotRevision streamReconnecting streamError) →
    Runs.Always next GoesOn events
      (started localHostId scope epoch snapshotRevision streamReconnecting streamError)

/-- What is due at a read is handed on, whatever happens in between. -/
def AlwaysDelivers : Prop :=
  ∀ localHostId scope epoch snapshotRevision streamReconnecting streamError events,
    Runs.AllSteps next Legal events
      (started localHostId scope epoch snapshotRevision streamReconnecting streamError) →
    Runs.Always next (Delivers Legal) events
      (started localHostId scope epoch snapshotRevision streamReconnecting streamError)

open EventJournal in
def laterEvent : ActivityEvent := { sampleEvent with sequence := 2 }

open EventJournal in
def laterJournal : EventJournal :=
  { sampleJournal with
    nextCursorSequence := 3
    events := sampleJournal.events ++
      [⟨2, laterEvent, laterEvent.toJson.toVec.length, "later"⟩]
    serializedBytes := sampleJournal.serializedBytes + laterEvent.toJson.toVec.length
    idempotency := sampleJournal.idempotency.insert "later" ⟨Sha256.digest laterEvent.toJson.toVec⟩
    activitySequences := sampleJournal.activitySequences.insert laterEvent.activityId 2 }

open EventJournal in
theorem step_sampleJournal : ∃ entries, Step (new 1 0) entries sampleJournal :=
  ⟨_, Step.of_accepts (accepts_new checkEvent_sampleEvent length_sampleEvent_le rfl)
    (pure () : Eff Unit Unit Unit) () rfl⟩

open EventJournal in
theorem serializedBytes_publish_new (epoch snapshotRevision next : ℕ) (key : String)
    (event : ActivityEvent) (eventJson : List UInt8) :
    ((new epoch snapshotRevision).publish key event eventJson next).serializedBytes =
      eventJson.length := by
  have hempty : (evict eventJson.length (new epoch snapshotRevision)
      (new epoch snapshotRevision).events).serializedBytes = 0 := rfl
  rw [publish]
  dsimp only
  rw [hempty, Nat.zero_add]

omit [Sha256] in
open EventJournal in
theorem evict_of_fits {size : ℕ} {journal : EventJournal} {oldest : StoredEvent}
    {stored : List StoredEvent} (hevents : journal.events = oldest :: stored)
    (hfits : ¬(stored.length + 1 ≥ journal.maxEvents ∨
      journal.serializedBytes > journal.maxBytes - size)) :
    evict size journal journal.events = journal := by
  rw [hevents, evict, if_neg hfits, ← hevents]

open EventJournal in
theorem step_laterJournal : ∃ entries, Step sampleJournal entries laterJournal := by
  have hvalid : laterEvent.validate = .ok () := rfl
  have hnumbers : laterEvent.InU64 := { inU64_sampleEvent with sequence_le := by decide }
  have hlater := ActivityEvent.length_toJson_le hnumbers hvalid nofun
  have hsample := length_sampleEvent
  have hmax : sampleJournal.maxBytes = 8 * 1024 * 1024 := rfl
  have hcount : sampleJournal.maxEvents = 1000 := rfl
  have hbytes : sampleJournal.serializedBytes = sampleEvent.toJson.toVec.length :=
    serializedBytes_publish_new 1 0 2 "key" sampleEvent _
  have hlen : sampleJournal.activitySequences.len = 1 := rfl
  have hcursor : sampleJournal.nextCursorSequence = 2 := rfl
  have hevents : sampleJournal.events =
      [⟨1, sampleEvent, sampleEvent.toJson.toVec.length, "key"⟩] := rfl
  have hroom : ¬sampleJournal.needsRotation laterEvent := by
    intro hrotation
    have hfull : 1 ≥ Dashboard.maxEvents := hlen ▸ hrotation.2
    exact absurd hfull (by decide)
  have haccepts : sampleJournal.Accepts "later" laterEvent laterEvent.toJson.toVec :=
    { checked := checkEvent_eq_ok hvalid nofun (by decide) (by decide)
      fresh := rfl
      sequence_ne := by decide
      capacity := by omega
      fits := by omega
      expected := rfl
      epoch_lt := fun hrotation => absurd hrotation hroom
      cursor_lt := by
        rw [hcursor]
        exact fun _ => by decide }
  have hstep := Step.of_accepts haccepts (pure () : Eff Unit Unit Unit) () rfl
  have hopened : sampleJournal.opened laterEvent = sampleJournal := if_neg hroom
  rw [hopened] at hstep
  -- Both events fit, so that none is dropped.
  have hevict : evict laterEvent.toJson.toVec.length sampleJournal sampleJournal.events =
      sampleJournal := by
    refine evict_of_fits hevents ?_
    rw [List.length_nil]
    omega
  have hpublish : sampleJournal.publish "later" laterEvent laterEvent.toJson.toVec 3 = laterJournal := by
    rw [publish, hevict]
    rfl
  exact ⟨_, hpublish ▸ hstep⟩

omit [Sha256] in
theorem small_receive {page : EventRead} (hphase : s.pump.phase = .answered page)
    (hpage : page ≠ .limitExceeded) : s.Small .receive := by
  rw [Small, hphase]
  exact mt Phase.answered.inj hpage

def reader (journal : EventJournal) (cursor : EventCursor) (cursorAheadRecovered : Bool) (delayMs : ℕ) :
    EventStream :=
  { localHostId := ⟨"desktop", by decide⟩
    scope := .local
    journal
    pump := { EventPump.start false "" with phase := .scheduled delayMs, cursor, cursorAheadRecovered }
    pages := 1 }

open EventJournal in
theorem run_reader :
    Runs.AllSteps next (fun s event => s.Legal event ∧ s.Small event)
        [.call sampleJournal, .call laterJournal, .serve, .receive, .refreshed, .serve, .receive,
          .acknowledged]
        (started ⟨"desktop", by decide⟩ .local 1 0 false "") ∧
      [.call sampleJournal, .call laterJournal, .serve, .receive, .refreshed, .serve, .receive,
          .acknowledged].foldl next (started ⟨"desktop", by decide⟩ .local 1 0 false "") =
        reader laterJournal ⟨1, 2⟩ false 1000 := by
  refine ⟨⟨⟨step_sampleJournal, trivial⟩, ⟨step_laterJournal, trivial⟩, ⟨trivial, trivial⟩, ⟨trivial, ?_⟩,
    ⟨trivial, trivial⟩, ⟨trivial, trivial⟩, ⟨trivial, ?_⟩, ⟨trivial, trivial⟩, trivial⟩, rfl⟩
  · exact @small_receive _ (.resyncRequired ⟨1, 0⟩ 0) rfl EventRead.noConfusion
  · exact @small_receive _ (.events [] ⟨1, 2⟩) rfl EventRead.noConfusion

open EventJournal in
theorem run_restarts :
    Runs.AllSteps next (fun s event => s.Legal event ∧ s.Small event)
        [.restart 1 0, .call sampleJournal, .fire, .serve, .receive, .restart 1 0, .fire, .serve, .receive]
        (reader laterJournal ⟨1, 2⟩ false 1000) ∧
      ([.restart 1 0, .call sampleJournal, .fire, .serve, .receive, .restart 1 0, .fire, .serve,
          .receive].foldl next (reader laterJournal ⟨1, 2⟩ false 1000)).pump.phase = .stopped := by
  refine ⟨⟨⟨trivial, trivial⟩, ⟨step_sampleJournal, trivial⟩, ⟨trivial, trivial⟩, ⟨trivial, trivial⟩,
    ⟨trivial, ?_⟩, ⟨trivial, trivial⟩, ⟨trivial, trivial⟩, ⟨trivial, trivial⟩, ⟨trivial, ?_⟩, trivial⟩, rfl⟩
  · exact @small_receive _ (.cursorAhead ⟨1, 1⟩) rfl EventRead.noConfusion
  · exact @small_receive _ (.cursorAhead ⟨1, 0⟩) rfl EventRead.noConfusion

section

omit [Sha256]

theorem not_alwaysGoesOn : ¬∃ _ : Sha256, AlwaysGoesOn := by
  rintro ⟨_, hall⟩
  obtain ⟨hfirst, hstate⟩ := run_reader
  obtain ⟨hrest, hstopped⟩ := run_restarts
  rw [← hstate] at hrest hstopped
  have hgoesOn := (hall _ _ _ _ _ _ _ (Runs.allSteps_append.2 ⟨hfirst, hrest⟩)).last
  rw [List.foldl_append] at hgoesOn
  exact hgoesOn hstopped

open EventJournal in
theorem not_alwaysDelivers : ¬∃ _ : Sha256, AlwaysDelivers := by
  rintro ⟨_, hall⟩
  have hdelivers := (hall ⟨"desktop", by decide⟩ .mesh 1 0 false ""
    [.call sampleJournal, .serve, .receive, .refreshed]
    ⟨step_sampleJournal, trivial, trivial, trivial, trivial⟩).last
  have hmem := hdelivers rfl ⟨rfl, Nat.zero_lt_two, Nat.le_refl _⟩
    [.fail "", .restart 1 0, .fire, .serve, .receive, .acknowledged]
    ⟨trivial, trivial, trivial, trivial, trivial, trivial, trivial⟩ (Nat.le_refl 1) sampleEvent
    List.mem_cons_self
  exact List.not_mem_nil hmem

end

end EventStream

end Desktop
