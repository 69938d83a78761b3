/-
**The event stream of a process.**

`run_process` has two reader threads that send what they read into one channel, and a loop that passes
it on, numbered, until the child has ended, the time is up or the run is cancelled. The loop then waits
for both readers, passes on what is left in the channel, and closes the stream with one `Terminal` event.
Every list of actions below is one interleaving of the three threads; an action whose thread cannot take
it changes nothing. Bytes count as read from the moment a reader has them, so a chunk may be in the
reader's buffer, in the channel, or delivered.

Main definitions:

* `Process.RunState`, `Process.RunState.step` — the three threads, and one step of one of them.

Main results:

* `Process.wellFormed_run` — **every interleaving delivers a complete and well-formed stream**.
-/

import DeviceLane.Library.Runs
import Mathlib.Logic.Function.Basic
import Mathlib.Data.List.Range

namespace Process

/-! ### Events -/

inductive TerminalStatus
  | exited (code : ℤ)
  | timedOut
  | cancelled
  deriving DecidableEq, Repr

inductive EventKind
  | started
  | stdout
  | stderr
  | terminal (status : TerminalStatus)
  deriving DecidableEq, Repr

structure ProcessEvent where
  sequence : ℕ
  kind : EventKind
  payload : List UInt8
  deriving DecidableEq, Repr

inductive Pipe
  | stdout
  | stderr
  deriving DecidableEq, Repr

def Pipe.kind : Pipe → EventKind
  | .stdout => .stdout
  | .stderr => .stderr

theorem Pipe.kind_injective {pipe other : Pipe} (h : pipe.kind = other.kind) : pipe = other := by
  cases pipe <;> cases other <;> first | rfl | cases h

def EventKind.IsTerminal : EventKind → Prop
  | .terminal _ => True
  | _ => False

theorem Pipe.not_isTerminal (pipe : Pipe) : ¬pipe.kind.IsTerminal := by
  cases pipe <;> exact id

/-! ### The reader threads -/

abbrev Chunk := {bytes : List UInt8 // bytes.length ≤ 4096}

inductive ReadOutcome
  | ok (chunk : Chunk)
  | interrupted
  | failed

/-- Where a reader thread stands: before a `read`, with a chunk to send, after its loop, or ended. -/
inductive Reader
  | reading
  | sending (chunk : List UInt8)
  | closing
  | finished

def Reader.held : Reader → List UInt8
  | .sending chunk => chunk
  | _ => []

/-- One turn of the loop of `read_stream`, up to the point where a chunk is to be sent. -/
def Reader.read (outcome : ReadOutcome) : Reader → Reader
  | .reading =>
    match outcome with
    | .ok chunk => if chunk.val.length = 0 then .closing else .sending chunk.val
    | .interrupted => .reading
    | .failed => .closing
  | reader => reader

def Reader.received : Reader → ReadOutcome → List UInt8
  | .reading, .ok chunk => chunk.val
  | _, _ => []

/-- What a reader thread sends next. -/
def Reader.message (pipe : Pipe) : Reader → Option (Option (Pipe × List UInt8))
  | .sending chunk => some (some (pipe, chunk))
  | .closing => some none
  | _ => none

def Reader.send : Reader → Reader
  | .sending _ => .reading
  | .closing => .finished
  | reader => reader

/-! ### The loop -/

inductive Phase
  | starting
  | draining
  | checking
  | joining (status : TerminalStatus)
  | collecting (status : TerminalStatus)
  | ended

/-- The three threads and the channel between them. `delivered` is what went into the channel of the
caller, and `read` all that the readers have had from the child. -/
structure RunState where
  readers : Pipe → Reader
  output : List (Option (Pipe × List UInt8))
  sequence : ℕ
  closedStreams : ℕ
  exitCode : Option ℤ
  phase : Phase
  delivered : List ProcessEvent
  read : Pipe → List UInt8

/-- One step of one thread, with what the system answers there: a read, whether the run is cancelled or
its time is up, and the exit status that `try_wait` sees, which a signal leaves without a code. -/
inductive Action
  | read (pipe : Pipe) (outcome : ReadOutcome)
  | send (pipe : Pipe)
  | advance (isCancelled timeUp : Bool) (tryWait : Option (Option ℤ))

namespace RunState

def start : RunState where
  readers _ := .reading
  output := []
  sequence := 1
  closedStreams := 0
  exitCode := none
  phase := .starting
  delivered := []
  read _ := []

def deliver (s : RunState) (kind : EventKind) (payload : List UInt8) : RunState :=
  { s with sequence := s.sequence + 1, delivered := s.delivered ++ [⟨s.sequence + 1, kind, payload⟩] }

/-- A message taken from the channel: a chunk is passed on, the end of a stream is counted. -/
def take (s : RunState) (message : Option (Pipe × List UInt8)) : RunState :=
  match message with
  | some (pipe, payload) => s.deliver pipe.kind payload
  | none => { s with closedStreams := s.closedStreams + 1 }

def check (s : RunState) (isCancelled timeUp : Bool) (tryWait : Option (Option ℤ)) : RunState :=
  if isCancelled then
    { s with phase := .joining .cancelled }
  else if timeUp then
    { s with phase := .joining .timedOut }
  else
    let exitCode := s.exitCode.orElse fun _ => tryWait.map fun code => code.getD (-1)
    match exitCode.filter fun _ => s.closedStreams = 2 with
    | some code => { s with exitCode := exitCode, phase := .joining (.exited code) }
    | none => { s with exitCode := exitCode, phase := .draining }

def advance (s : RunState) (isCancelled timeUp : Bool) (tryWait : Option (Option ℤ)) : RunState :=
  match s.phase with
  | .starting =>
    { s with phase := .draining, delivered := s.delivered ++ [⟨s.sequence, .started, []⟩] }
  | .draining =>
    match s.output with
    | message :: rest => { s.take message with output := rest }
    | [] => { s with phase := .checking }
  | .checking => s.check isCancelled timeUp tryWait
  | .joining status =>
    -- `join` blocks until both readers have ended
    match s.readers .stdout, s.readers .stderr with
    | .finished, .finished => { s with phase := .collecting status }
    | _, _ => s
  | .collecting status =>
    -- the senders are gone, so the iterator ends with the last message
    match s.output with
    | message :: rest => { s.take message with output := rest }
    | [] => { s.deliver (.terminal status) [] with phase := .ended }
  | .ended => s

def step (s : RunState) : Action → RunState
  | .read pipe outcome =>
    { s with
      readers := Function.update s.readers pipe ((s.readers pipe).read outcome)
      read := Function.update s.read pipe (s.read pipe ++ (s.readers pipe).received outcome) }
  | .send pipe =>
    { s with
      readers := Function.update s.readers pipe (s.readers pipe).send
      output := s.output ++ ((s.readers pipe).message pipe).toList }
  | .advance isCancelled timeUp tryWait => s.advance isCancelled timeUp tryWait

end RunState

/-! ### What a run delivers -/

def payloads (pipe : Pipe) (events : List ProcessEvent) : List UInt8 :=
  events.flatMap fun event => if event.kind = pipe.kind then event.payload else []

def queued (pipe : Pipe) (output : List (Option (Pipe × List UInt8))) : List UInt8 :=
  output.flatMap fun message =>
    match message with
    | some (other, chunk) => if other = pipe then chunk else []
    | none => []

/-- The events of a stream that has begun and not ended: numbered from 1, with `Started` first. -/
structure Running (events : List ProcessEvent) : Prop where
  numbered : events.map ProcessEvent.sequence = List.range' 1 events.length
  started : ∃ rest, events = ⟨1, .started, []⟩ :: rest
  going : ∀ event ∈ events, ¬event.kind.IsTerminal

theorem numbered_concat {events : List ProcessEvent}
    (h : events.map ProcessEvent.sequence = List.range' 1 events.length) (kind : EventKind)
    (payload : List UInt8) :
    (events ++ [ProcessEvent.mk (events.length + 1) kind payload]).map ProcessEvent.sequence =
      List.range' 1 (events.length + 1) := by
  rw [List.map_append, h, List.range'_1_concat, Nat.add_comm]
  rfl

theorem Running.concat {events : List ProcessEvent} (h : Running events) {kind : EventKind}
    (hkind : ¬kind.IsTerminal) (payload : List UInt8) :
    Running (events ++ [⟨events.length + 1, kind, payload⟩]) := by
  refine ⟨?_, ?_, ?_⟩
  · rw [numbered_concat h.numbered, List.length_append, List.length_singleton]
  · obtain ⟨rest, hrest⟩ := h.started
    exact ⟨rest ++ [⟨events.length + 1, kind, payload⟩], by rw [← List.cons_append, ← hrest]⟩
  · intro event hevent
    rcases List.mem_append.1 hevent with hevent | hevent
    · exact h.going event hevent
    · rw [List.mem_singleton.1 hevent]
      exact hkind

theorem payloads_append (pipe : Pipe) (events more : List ProcessEvent) :
    payloads pipe (events ++ more) = payloads pipe events ++ payloads pipe more :=
  List.flatMap_append

theorem queued_append (pipe : Pipe) (output more : List (Option (Pipe × List UInt8))) :
    queued pipe (output ++ more) = queued pipe output ++ queued pipe more :=
  List.flatMap_append

namespace RunState

def Counts (s : RunState) : Prop := Running s.delivered ∧ s.sequence = s.delivered.length

def Joined (s : RunState) : Prop := ∀ pipe, s.readers pipe = .finished

/-- What holds where the loop stands: past the two joins no reader is left, and at the end no message. -/
def Coherent (s : RunState) : Prop :=
  match s.phase with
  | .starting => s.delivered = [] ∧ s.sequence = 1
  | .collecting _ => s.Joined ∧ s.Counts
  | .ended => s.Joined ∧ s.output = [] ∧ ∃ body status, Running body ∧
      s.delivered = body ++ [⟨body.length + 1, .terminal status, []⟩]
  | _ => s.Counts

/-- A byte that was read is delivered, in the channel or with its reader, in this order. -/
def Conserved (s : RunState) : Prop :=
  ∀ pipe, payloads pipe s.delivered ++ queued pipe s.output ++ (s.readers pipe).held = s.read pipe

/-- **A complete and well-formed stream.**  What is delivered is numbered and starts with `Started`; a
`Terminal` event comes last, and exactly when the run has ended; and each pipe's payloads are what was
read from it so far, and all of it once the run has ended. -/
structure WellFormed (s : RunState) : Prop where
  numbered : s.delivered.map ProcessEvent.sequence = List.range' 1 s.delivered.length
  started : ∀ event rest, s.delivered = event :: rest → event.kind = .started
  going : s.phase ≠ .ended → ∀ event ∈ s.delivered, ¬event.kind.IsTerminal
  terminated : s.phase = .ended → ∃ body event, s.delivered = body ++ [event] ∧
    event.kind.IsTerminal ∧ ∀ earlier ∈ body, ¬earlier.kind.IsTerminal
  partly : ∀ pipe, payloads pipe s.delivered <+: s.read pipe
  complete : s.phase = .ended → ∀ pipe, payloads pipe s.delivered = s.read pipe

/-! ### The steps -/

variable {s : RunState}

theorem Conserved.take {message : Option (Pipe × List UInt8)}
    {rest : List (Option (Pipe × List UInt8))} (h : s.Conserved) (houtput : s.output = message :: rest) :
    Conserved { s.take message with output := rest } := by
  intro pipe
  have hpipe := h pipe
  rw [houtput] at hpipe
  cases message with
  | none => exact hpipe
  | some pair =>
    obtain ⟨other, _⟩ := pair
    rw [← List.singleton_append, queued_append] at hpipe
    refine Eq.trans ?_ hpipe
    simp only [RunState.take, RunState.deliver, payloads_append, List.append_assoc]
    congr 1
    by_cases hsame : other = pipe
    · simp [payloads, queued, hsame]
    · have hkind : ¬other.kind = pipe.kind := fun hkind => hsame (Pipe.kind_injective hkind)
      simp [payloads, queued, hsame, hkind]

theorem Conserved.deliver {kind : EventKind} (h : s.Conserved) : (s.deliver kind []).Conserved := by
  intro pipe
  refine Eq.trans ?_ (h pipe)
  simp [RunState.deliver, payloads]

/-- **No step loses, repeats or reorders a byte.** -/
theorem Conserved.step (h : s.Conserved) (action : Action) : (s.step action).Conserved := by
  cases action with
  | read pipe outcome =>
    intro other
    by_cases hsame : other = pipe
    · subst hsame
      have hother := h other
      dsimp only [RunState.step]
      rw [Function.update_self, Function.update_self, ← hother]
      cases hreader : s.readers other with
      | reading =>
        cases outcome with
        | ok chunk =>
          by_cases hempty : chunk.val.length = 0
          · simp [Reader.read, Reader.received, Reader.held, List.length_eq_zero_iff.1 hempty]
          · simp [Reader.read, Reader.received, Reader.held, hempty]
        | interrupted | failed => simp [Reader.read, Reader.received, Reader.held]
      | sending | closing | finished => simp [Reader.read, Reader.received, Reader.held]
    · have hother := h other
      dsimp only [RunState.step]
      rwa [Function.update_of_ne hsame, Function.update_of_ne hsame]
  | send pipe =>
    intro other
    have hother := h other
    dsimp only [RunState.step]
    rw [queued_append, ← hother]
    by_cases hsame : other = pipe
    · subst hsame
      rw [Function.update_self]
      cases s.readers other <;> simp [Reader.send, Reader.held, Reader.message, queued]
    · have hnot : ¬pipe = other := fun heq => hsame heq.symm
      rw [Function.update_of_ne hsame]
      cases s.readers pipe <;> simp [Reader.message, queued, hnot]
  | advance =>
    dsimp only [RunState.step, advance]
    split
    · intro pipe
      rw [← h pipe]
      cases pipe <;> simp [payloads, Pipe.kind]
    · split
      · exact h.take ‹_›
      · exact h
    · unfold check
      split
      · exact h
      split
      · exact h
      dsimp only
      split <;> exact h
    · split <;> exact h
    · split
      · exact h.take ‹_›
      · exact h.deliver
    · exact h

/-! ### The phases -/

theorem Counts.deliver (h : s.Counts) {kind : EventKind} (hkind : ¬kind.IsTerminal)
    (payload : List UInt8) : (s.deliver kind payload).Counts := by
  refine ⟨?_, ?_⟩
  · rw [RunState.deliver, h.2]
    exact h.1.concat hkind payload
  · simp [RunState.deliver, h.2]

theorem Counts.take (h : s.Counts) (message : Option (Pipe × List UInt8)) : (s.take message).Counts := by
  cases message with
  | none => exact h
  | some pair => exact h.deliver pair.1.not_isTerminal pair.2

theorem joined_iff : s.Joined ↔ s.readers .stdout = .finished ∧ s.readers .stderr = .finished := by
  constructor
  · intro h
    exact ⟨h .stdout, h .stderr⟩
  · rintro ⟨hstdout, hstderr⟩ pipe
    cases pipe with
    | stdout => exact hstdout
    | stderr => exact hstderr

theorem Joined.read (h : s.Joined) (pipe : Pipe) (outcome : ReadOutcome) :
    s.step (.read pipe outcome) = s := by
  have hreader : (s.readers pipe).read outcome = s.readers pipe := by
    rw [h pipe]
    rfl
  have hreceived : (s.readers pipe).received outcome = [] := by
    rw [h pipe]
    rfl
  rw [RunState.step, hreader, hreceived, List.append_nil, Function.update_eq_self,
    Function.update_eq_self]

theorem Joined.send (h : s.Joined) (pipe : Pipe) : s.step (.send pipe) = s := by
  have hreader : (s.readers pipe).send = s.readers pipe := by
    rw [h pipe]
    rfl
  rw [RunState.step, hreader, Function.update_eq_self, h pipe]
  simp [Reader.message]

@[simp] theorem take_readers (message : Option (Pipe × List UInt8)) :
    (s.take message).readers = s.readers := by
  cases message <;> rfl

@[simp] theorem take_phase (message : Option (Pipe × List UInt8)) :
    (s.take message).phase = s.phase := by
  cases message <;> rfl

theorem Counts.check (h : s.Counts) (isCancelled timeUp : Bool) (tryWait : Option (Option ℤ)) :
    (s.check isCancelled timeUp tryWait).Coherent := by
  unfold RunState.check
  split
  · exact h
  split
  · exact h
  dsimp only
  split
  · exact h
  · exact h

theorem Coherent.advance (h : s.Coherent) (isCancelled timeUp : Bool) (tryWait : Option (Option ℤ)) :
    (s.advance isCancelled timeUp tryWait).Coherent := by
  unfold RunState.advance
  cases hphase : s.phase with
  | starting =>
    simp only [Coherent, hphase] at h
    simp only [h.1, h.2, List.nil_append]
    exact ⟨⟨rfl, ⟨[], rfl⟩, by simp [EventKind.IsTerminal]⟩, rfl⟩
  | draining =>
    simp only [Coherent, hphase] at h
    dsimp only
    split
    · simp only [Coherent, take_phase, hphase]
      exact h.take _
    · exact h
  | checking =>
    simp only [Coherent, hphase] at h
    exact h.check isCancelled timeUp tryWait
  | joining =>
    simp only [Coherent, hphase] at h
    dsimp only
    split
    · exact ⟨joined_iff.2 ⟨‹_›, ‹_›⟩, h⟩
    · simpa only [Coherent, hphase] using h
  | collecting status =>
    simp only [Coherent, hphase] at h
    dsimp only
    split
    · simp only [Coherent, take_phase, hphase]
      refine ⟨?_, h.2.take _⟩
      simpa only [Joined, take_readers] using h.1
    · refine ⟨h.1, ‹_›, s.delivered, status, h.2.1, ?_⟩
      simp only [RunState.deliver, h.2.2]
  | ended => exact h

theorem Coherent.step (h : s.Coherent) (action : Action) : (s.step action).Coherent := by
  cases action with
  | read =>
    by_cases hjoined : s.Joined
    · rwa [hjoined.read]
    · unfold Coherent at h ⊢
      dsimp only [RunState.step]
      split at h
      · exact h
      · exact absurd h.1 hjoined
      · exact absurd h.1 hjoined
      · exact h
  | send =>
    by_cases hjoined : s.Joined
    · rwa [hjoined.send]
    · unfold Coherent at h ⊢
      dsimp only [RunState.step]
      split at h
      · exact h
      · exact absurd h.1 hjoined
      · exact absurd h.1 hjoined
      · exact h
  | advance isCancelled timeUp tryWait => exact h.advance isCancelled timeUp tryWait

theorem Conserved.partly (h : s.Conserved) (pipe : Pipe) :
    payloads pipe s.delivered <+: s.read pipe := by
  rw [← h pipe, List.append_assoc]
  exact List.prefix_append _ _

theorem Counts.wellFormed (h : s.Counts) (hconserved : s.Conserved) (hphase : s.phase ≠ .ended) :
    s.WellFormed where
  numbered := h.1.numbered
  started event rest hevents := by
    obtain ⟨_, hothers⟩ := h.1.started
    rw [hothers, List.cons.injEq] at hevents
    rw [← hevents.1]
  going _ := h.1.going
  terminated hended := absurd hended hphase
  partly := hconserved.partly
  complete hended := absurd hended hphase

theorem Coherent.wellFormed (h : s.Coherent) (hconserved : s.Conserved) : s.WellFormed := by
  unfold Coherent at h
  split at h
  · rename_i hphase
    have hopen : s.phase ≠ .ended := by simp [hphase]
    exact
      { numbered := by simp [h.1]
        started := by simp [h.1]
        going := by simp [h.1]
        terminated := fun hended => absurd hended hopen
        partly := hconserved.partly
        complete := fun hended => absurd hended hopen }
  · rename_i hphase
    exact h.2.wellFormed hconserved (by simp [hphase])
  · obtain ⟨hjoined, houtput, body, status, hbody, hdelivered⟩ := h
    obtain ⟨others, hothers⟩ := hbody.started
    refine ⟨?_, ?_, fun hopen => absurd ‹_› hopen, fun _ => ?_, hconserved.partly, fun _ pipe => ?_⟩
    · rw [hdelivered, numbered_concat hbody.numbered, List.length_append, List.length_singleton]
    · intro event rest hevents
      rw [hdelivered, hothers, List.cons_append, List.cons.injEq] at hevents
      rw [← hevents.1]
    · exact ⟨body, _, hdelivered, trivial, hbody.going⟩
    · -- nothing is left in the channel or with a reader
      have hpipe := hconserved pipe
      rw [houtput, hjoined pipe] at hpipe
      simpa [queued, Reader.held] using hpipe
  · exact h.wellFormed hconserved ‹_›

/-! ### The end of a run -/

/-- The steps the loop has left once both readers have ended and the run is cancelled. -/
def left (s : RunState) : ℕ :=
  match s.phase with
  | .starting => s.output.length + 5
  | .draining => s.output.length + 4
  | .checking => s.output.length + 3
  | .joining _ => s.output.length + 2
  | .collecting _ => s.output.length + 1
  | .ended => 0

theorem Joined.advance (h : s.Joined) (hphase : s.phase ≠ .ended) :
    (s.advance true false none).Joined ∧ (s.advance true false none).left + 1 = s.left := by
  unfold RunState.advance left
  cases hcase : s.phase with
  | starting => exact ⟨h, rfl⟩
  | draining =>
    cases houtput : s.output with
    | nil => simpa [Joined] using h
    | cons => simpa [hcase, Joined] using h
  | checking => exact ⟨h, rfl⟩
  | joining => simpa [h .stdout, h .stderr, Joined] using h
  | collecting =>
    cases houtput : s.output with
    | nil => simpa [RunState.deliver, Joined] using h
    | cons => simpa [hcase, Joined] using h
  | ended => exact absurd hcase hphase

theorem Joined.exists_ended (h : s.Joined) :
    ∃ more : List Action, (more.foldl RunState.step s).phase = .ended := by
  induction hleft : s.left generalizing s with
  | zero =>
    refine ⟨[], ?_⟩
    by_contra hphase
    have hstep := (h.advance hphase).2
    omega
  | succ n ih =>
    by_cases hphase : s.phase = .ended
    · exact ⟨[], hphase⟩
    · obtain ⟨hjoined, hstep⟩ := h.advance hphase
      obtain ⟨more, hmore⟩ := ih hjoined (by omega)
      exact ⟨.advance true false none :: more, hmore⟩

/-- A reader sends what it has, meets the end of its pipe, and ends. -/
def finishing (pipe : Pipe) : List Action := [.send pipe, .read pipe .failed, .send pipe]

theorem readers_finishing (s : RunState) (pipe : Pipe) :
    ((finishing pipe).foldl RunState.step s).readers = Function.update s.readers pipe .finished := by
  have hreader : ∀ reader : Reader, (reader.send.read .failed).send = .finished := by
    intro reader
    cases reader <;> rfl
  simp [finishing, RunState.step, hreader]

theorem exists_joined (s : RunState) : ∃ more : List Action, (more.foldl RunState.step s).Joined := by
  refine ⟨finishing .stdout ++ finishing .stderr, ?_⟩
  rw [List.foldl_append, joined_iff, readers_finishing, readers_finishing]
  exact ⟨rfl, rfl⟩

end RunState

/-! ### Every run -/

/-- The state after the actions of one interleaving. -/
def run (actions : List Action) : RunState := actions.foldl RunState.step .start

theorem conserved_run (actions : List Action) : (run actions).Conserved := by
  have hstart : RunState.start.Conserved := fun _ => rfl
  exact (Runs.always_of_step (fun _ action h => h.step action) hstart actions).last

theorem coherent_run (actions : List Action) : (run actions).Coherent := by
  have hstart : RunState.start.Coherent := ⟨rfl, rfl⟩
  exact (Runs.always_of_step (fun _ action h => h.step action) hstart actions).last

theorem exists_ended (actions : List Action) :
    ∃ more, (run (actions ++ more)).phase = .ended := by
  obtain ⟨first, hjoined⟩ := RunState.exists_joined (run actions)
  obtain ⟨rest, _⟩ := hjoined.exists_ended
  refine ⟨first ++ rest, ?_⟩
  rwa [run, List.foldl_append, List.foldl_append]

/-- **Every interleaving delivers a complete and well-formed stream**, and can be continued to the end of
the run. -/
theorem wellFormed_run (actions : List Action) :
    (run actions).WellFormed ∧ ∃ more, (run (actions ++ more)).phase = .ended :=
  ⟨(coherent_run actions).wellFormed (conserved_run actions), exists_ended actions⟩

end Process
