/-
**Callbacks that fail.**

The writer of segments hands each part to a callback, and stops when the callback fails. The error passes
through the writer's own interface, where it is replaced, and is put back in the end from a place beside
it; no part is handed over a second time.

Main definitions:

* `EventStore.observed` — a callback that keeps a record of its calls.

Main results:

* `EventStore.exactPrefix` — **a failed emission leaves an exact prefix**.
-/

import DeviceLane.EventStore.Fragments
import DeviceLane.Library.Simulation

namespace EventStore

open Endian Effect

/-! ### The loop of the standard library -/

section

variable {σ : Type} [Sha256] (emit : Digest → List UInt8 → Eff σ IoError Unit)

end

/-! ### Runs with two callbacks -/

section Follows

variable {σ τ : Type} [Sha256] {Same : σ → τ → Prop} {Failed : IoError → σ → τ → Prop}
  {R : τ → τ → Prop} {emit : Digest → List UInt8 → Eff σ IoError Unit}
  {emit' : Digest → List UInt8 → Eff τ IoError Unit}

structure EmitsAlike (Same : σ → τ → Prop) (Failed : IoError → σ → τ → Prop) (R : τ → τ → Prop)
    (emit : Digest → List UInt8 → Eff σ IoError Unit)
    (emit' : Digest → List UInt8 → Eff τ IoError Unit) : Prop where
  alike : ∀ digest bytes s t, Same s t →
    ((emit digest bytes).exec s).1 = ((emit' digest bytes).exec t).1
        ∧ Same ((emit digest bytes).exec s).2 ((emit' digest bytes).exec t).2
      ∨ ∃ e, ((emit digest bytes).exec s).1 = .error e
        ∧ Failed e ((emit digest bytes).exec s).2 ((emit' digest bytes).exec t).2
  moves : ∀ digest bytes, Within R (emit' digest bytes)
  keeps : ∀ e s t t', Failed e s t → R t t' → Failed e s t'

structure SameWriter (Same : σ → τ → Prop) (w : FragmentWriter σ) (w' : FragmentWriter τ) : Prop where
  header : w.header = w'.header
  terminal : w.terminal = w'.terminal
  buffer : w.buffer = w'.buffer
  failure : w.failure = w'.failure
  sink : Same w.sink w'.sink

def FailedWriter (Failed : IoError → σ → τ → Prop) (w : FragmentWriter σ) (w' : FragmentWriter τ) :
    Prop :=
  ∃ e, w.failure = some e ∧ Failed e w.sink w'.sink

omit [Sha256] in
theorem EmitsAlike.keepsWriter (h : EmitsAlike Same Failed R emit emit') :
    ∀ (w : FragmentWriter σ) (w' w'' : FragmentWriter τ), FailedWriter Failed w w' →
      R w'.sink w''.sink → FailedWriter Failed w w'' := by
  rintro w w' w'' ⟨e, hfailure, hfailed⟩ hmoves
  exact ⟨e, hfailure, h.keeps e _ _ _ hfailed hmoves⟩

theorem EmitsAlike.emitPart (h : EmitsAlike Same Failed R emit emit') (last : Bool) :
    Effect.Follows (SameWriter Same) (FailedWriter Failed) (EventStore.emitPart emit last)
      (EventStore.emitPart emit' last) := by
  rintro ⟨header, terminal, buffer, _, s⟩ ⟨_, _, _, _, t⟩ ⟨rfl, rfl, rfl, rfl, hsame⟩
  dsimp only at hsame
  rw [EventStore.emitPart, EventStore.emitPart, exec_bind_ok (exec_get _), exec_bind_ok (exec_get _)]
  dsimp only
  by_cases hshort : buffer.length < headerBytes
  · rw [if_pos hshort, if_pos hshort, exec_bind_error (exec_throw _ _), exec_bind_error (exec_throw _ _)]
    exact .inl ⟨rfl, rfl, rfl, rfl, rfl, hsame⟩
  rw [if_neg hshort, if_neg hshort]
  by_cases hlong : ¬buffer.length - headerBytes < 2 ^ 32
  · rw [if_pos hlong, if_pos hlong, exec_bind_error (exec_throw _ _), exec_bind_error (exec_throw _ _)]
    exact .inl ⟨rfl, rfl, rfl, rfl, rfl, hsame⟩
  rw [if_neg hlong, if_neg hlong, exec_bind_ok (exec_set _ _), exec_bind_ok (exec_set _ _)]
  cases hencode : SegmentHeader.encode
      { header with
        bodyLength := UInt32.ofNat (buffer.length - headerBytes)
        flags := partFlags (header.partIndex == 0) last terminal } with
  | error error => exact .inl ⟨rfl, rfl, rfl, rfl, rfl, hsame⟩
  | ok head =>
    dsimp only
    rw [exec_bind_ok (exec_set _ _), exec_bind_ok (exec_set _ _)]
    by_cases hindex : ¬last = true ∧ ¬header.partIndex.toNat + 1 < 2 ^ 64
    · rw [if_pos hindex, if_pos hindex, exec_bind_error (exec_throw _ _),
        exec_bind_error (exec_throw _ _)]
      exact .inl ⟨rfl, rfl, rfl, rfl, rfl, hsame⟩
    rw [if_neg hindex, if_neg hindex]
    -- Both writers hand the same part to their callbacks.
    have halike := h.alike (segmentDigest (head ++ buffer.drop headerBytes))
      (head ++ buffer.drop headerBytes) s t hsame
    rcases hrun : (emit (segmentDigest (head ++ buffer.drop headerBytes))
      (head ++ buffer.drop headerBytes)).exec s with ⟨r, s'⟩
    rcases hrun' : (emit' (segmentDigest (head ++ buffer.drop headerBytes))
      (head ++ buffer.drop headerBytes)).exec t with ⟨r', t'⟩
    rw [hrun, hrun'] at halike
    rcases halike with ⟨rfl, hafter⟩ | ⟨e, rfl, hfailed⟩
    · cases r with
      | ok | error => exact .inl ⟨rfl, rfl, rfl, rfl, rfl, hafter⟩
    · refine .inr ⟨⟨.emissionFailed, rfl⟩, e, rfl, ?_⟩
      cases r' with
      | ok | error => exact hfailed

section Moves

variable [Std.Refl R] [IsTrans τ R]

omit [Sha256] [Std.Refl R] in
theorem emitsAlike_self (hmoves : ∀ digest bytes, Within R (emit' digest bytes)) (t₀ : τ) :
    EmitsAlike (fun s t => s = t ∧ R t₀ t) (fun _ _ _ => False) (fun _ _ => True) emit' emit' where
  alike := by
    rintro digest bytes s t ⟨rfl, hmoved⟩
    exact .inl ⟨rfl, rfl, IsTrans.trans _ _ _ hmoved (hmoves digest bytes s)⟩
  moves _ _ _ := trivial
  keeps _ _ _ _ hfailed _ := hfailed

theorem within_emitPart (hmoves : ∀ digest bytes, Within R (emit' digest bytes)) (last : Bool) :
    Within (fun w w' : FragmentWriter τ => R w.sink w'.sink) (emitPart emit' last) := by
  intro w
  have hself := (emitsAlike_self hmoves w.sink).emitPart last w w ⟨rfl, rfl, rfl, rfl, rfl, refl _⟩
  rcases hself with ⟨-, hsame⟩ | ⟨-, _, -, hfailed⟩
  · exact hsame.sink.2
  · exact hfailed.elim

theorem within_write (hmoves : ∀ digest bytes, Within R (emit' digest bytes)) (bytes : List UInt8) :
    Within (fun w w' : FragmentWriter τ => R w.sink w'.sink) (write emit' bytes) := by
  intro w
  rw [write]
  by_cases hbytes : bytes = []
  · rw [if_pos hbytes]
    exact refl w.sink
  rw [if_neg hbytes, exec_bind_ok (exec_get w)]
  by_cases hfull : w.buffer.length = headerBytes + maxBodyBytes
  · rw [if_pos hfull, exec_bind]
    have hemitted := within_emitPart hmoves false w
    cases hrun : ((emitPart emit' false).exec w).1 with
    | ok | error => exact hemitted
  · rw [if_neg hfull]
    exact refl w.sink

theorem within_writeAll (hmoves : ∀ digest bytes, Within R (emit' digest bytes)) (bytes : List UInt8) :
    Within (fun w w' : FragmentWriter τ => R w.sink w'.sink) (writeAll emit' bytes) := by
  induction hn : bytes.length using Nat.strong_induction_on generalizing bytes with
  | _ n ih =>
    intro w
    rw [writeAll]
    by_cases hbytes : bytes = []
    · rw [if_pos hbytes]
      exact refl w.sink
    rw [if_neg hbytes, exec_bind_ok (exec_attempt (write emit' bytes) w)]
    have hwritten := within_write hmoves bytes w
    cases hrun : ((write emit' bytes).exec w).1 with
    | error => exact hwritten
    | ok count =>
      cases count with
      | zero => exact hwritten
      | succ count =>
        have hlt : (bytes.drop (count + 1)).length < n := by
          have hpos : bytes.length ≠ 0 := by simpa using hbytes
          rw [List.length_drop]
          omega
        exact IsTrans.trans _ _ _ hwritten (ih _ hlt _ rfl _)

end Moves

/-! ### The writer -/

variable [Std.Refl R] [IsTrans τ R]

omit [IsTrans τ R] in
theorem EmitsAlike.write (h : EmitsAlike Same Failed R emit emit') (bytes : List UInt8) :
    Effect.Follows (SameWriter Same) (FailedWriter Failed) (EventStore.write emit bytes)
      (EventStore.write emit' bytes) := by
  intro w w' hw
  rw [EventStore.write, EventStore.write]
  by_cases hbytes : bytes = []
  · rw [if_pos hbytes, if_pos hbytes]
    exact .inl ⟨rfl, hw⟩
  rw [if_neg hbytes, if_neg hbytes, exec_bind_ok (exec_get w), exec_bind_ok (exec_get w'), ← hw.buffer]
  -- What is taken into the buffer depends on the buffer alone.
  have htaken : ∀ (v : FragmentWriter σ) (v' : FragmentWriter τ), SameWriter Same v v' →
      (Except.ok (min bytes.length (headerBytes + maxBodyBytes - v.buffer.length)) :
          Except FragmentError ℕ)
        = .ok (min bytes.length (headerBytes + maxBodyBytes - v'.buffer.length)) ∧
      SameWriter Same
        { v with
          buffer := v.buffer
            ++ bytes.take (min bytes.length (headerBytes + maxBodyBytes - v.buffer.length)) }
        { v' with
          buffer := v'.buffer
            ++ bytes.take (min bytes.length (headerBytes + maxBodyBytes - v'.buffer.length)) } := by
    intro v v' hv
    rw [hv.buffer]
    exact ⟨rfl, hv.header, hv.terminal, rfl, hv.failure, hv.sink⟩
  by_cases hfull : w.buffer.length = headerBytes + maxBodyBytes
  · rw [if_pos hfull, if_pos hfull]
    refine Effect.Follows.bind h.keepsWriter (h.emitPart false) ?_ (fun _ v => refl v.sink) w w' hw
    exact fun _ v v' hv => .inl (htaken v v' hv)
  · rw [if_neg hfull, if_neg hfull]
    exact .inl (htaken w w' hw)

theorem EmitsAlike.writeAll (h : EmitsAlike Same Failed R emit emit') (bytes : List UInt8) :
    Effect.Follows (SameWriter Same) (FailedWriter Failed) (EventStore.writeAll emit bytes)
      (EventStore.writeAll emit' bytes) := by
  -- The induction is on the bytes that are left; each call takes at least one.
  induction hn : bytes.length using Nat.strong_induction_on generalizing bytes with
  | _ n ih =>
    rw [EventStore.writeAll, EventStore.writeAll]
    refine Effect.Follows.ite (fun _ => Effect.Follows.pure _) fun hbytes => ?_
    refine Effect.Follows.attempt h.keepsWriter (h.write bytes) (fun count => ?_) (fun e => ⟨_, rfl, rfl⟩)
      fun r => ?_
    · cases count with
      | zero => exact Effect.Follows.throw _
      | succ count =>
        have hlt : (bytes.drop (count + 1)).length < n := by
          have hpos : bytes.length ≠ 0 := by simpa using hbytes
          rw [List.length_drop]
          omega
        exact ih _ hlt _ rfl
    · rcases r with error | count
      · exact fun w => refl w.sink
      · cases count with
        | zero => exact fun w => refl w.sink
        | succ => exact within_writeAll h.moves _

theorem EmitsAlike.writeString (h : EmitsAlike Same Failed R emit emit') (value : String) :
    Effect.Follows (SameWriter Same) (FailedWriter Failed)
      (EventStore.writeString (EventStore.writeAll emit) value)
      (EventStore.writeString (EventStore.writeAll emit') value) := by
  rw [EventStore.writeString, EventStore.writeString]
  refine Effect.Follows.ite (fun _ => ?_) fun _ => Effect.Follows.throw _
  exact Effect.Follows.bind h.keepsWriter (h.writeAll _) (fun _ => h.writeAll _)
    fun _ => within_writeAll h.moves _

instance : Std.Refl fun w w' : FragmentWriter τ => R w.sink w'.sink := ⟨fun w => refl w.sink⟩

instance : IsTrans (FragmentWriter τ) fun w w' => R w.sink w'.sink :=
  ⟨fun _ _ _ h h' => IsTrans.trans _ _ _ h h'⟩

theorem within_writeString (hmoves : ∀ digest bytes, Within R (emit' digest bytes)) (value : String) :
    Within (fun w w' : FragmentWriter τ => R w.sink w'.sink) (writeString (writeAll emit') value) := by
  rw [writeString]
  refine Within.ite (fun _ => ?_) fun _ => Within.throw _
  exact Within.bind (within_writeAll hmoves _) fun _ => within_writeAll hmoves _

theorem within_writeEvents (hmoves : ∀ digest bytes, Within R (emit' digest bytes))
    (events : List NetworkEvent) :
    Within (fun w w' : FragmentWriter τ => R w.sink w'.sink) (writeEvents (writeAll emit') events) := by
  induction events with
  | nil => exact Within.pure _
  | cons event events ih =>
    rw [writeEvents]
    refine Within.bind (within_writeAll hmoves _) fun _ => ?_
    refine Within.bind (within_writeString hmoves _) fun _ => ?_
    exact Within.bind (within_writeString hmoves _) fun _ => ih

theorem EmitsAlike.writeEvents (h : EmitsAlike Same Failed R emit emit') (events : List NetworkEvent) :
    Effect.Follows (SameWriter Same) (FailedWriter Failed)
      (EventStore.writeEvents (EventStore.writeAll emit) events)
      (EventStore.writeEvents (EventStore.writeAll emit') events) := by
  induction events with
  | nil => exact Effect.Follows.pure _
  | cons event events ih =>
    have hevents := within_writeEvents h.moves events
    have hpayload := fun _ : Unit => (within_writeString h.moves event.payload).bind fun _ => hevents
    have hkind := fun _ : Unit => (within_writeString h.moves event.kind).bind hpayload
    rw [EventStore.writeEvents, EventStore.writeEvents]
    refine Effect.Follows.bind h.keepsWriter (h.writeAll _) (fun _ => ?_) hkind
    refine Effect.Follows.bind h.keepsWriter (h.writeString _) (fun _ => ?_) hpayload
    exact Effect.Follows.bind h.keepsWriter (h.writeString _) (fun _ => ih) fun _ => hevents

theorem EmitsAlike.writeEventBatch (h : EmitsAlike Same Failed R emit emit')
    (events : List NetworkEvent) :
    Effect.Follows (SameWriter Same) (FailedWriter Failed)
      (EventStore.writeEventBatch (EventStore.writeAll emit) events)
      (EventStore.writeEventBatch (EventStore.writeAll emit') events) := by
  rw [EventStore.writeEventBatch, EventStore.writeEventBatch]
  refine Effect.Follows.ite (fun _ => ?_) fun _ => Effect.Follows.throw _
  exact Effect.Follows.bind h.keepsWriter (h.writeAll _) (fun _ => h.writeEvents events)
    fun _ => within_writeEvents h.moves events

/-- **Two runs do alike until one callback fails**, and its error is what the run returns. -/
theorem EmitsAlike.writeEventSegments (h : EmitsAlike Same Failed R emit emit')
    (binding : BatchBinding) (events : List NetworkEvent) (terminal : Bool) {s : σ} {t : τ}
    (hsame : Same s t) :
    ((EventStore.writeEventSegments emit binding events terminal).exec s).1
          = ((EventStore.writeEventSegments emit' binding events terminal).exec t).1
        ∧ Same ((EventStore.writeEventSegments emit binding events terminal).exec s).2
          ((EventStore.writeEventSegments emit' binding events terminal).exec t).2
      ∨ ∃ e, ((EventStore.writeEventSegments emit binding events terminal).exec s).1 = .error e
        ∧ Failed e ((EventStore.writeEventSegments emit binding events terminal).exec s).2
          ((EventStore.writeEventSegments emit' binding events terminal).exec t).2 := by
  rw [EventStore.writeEventSegments, EventStore.writeEventSegments, exec_ofRun, exec_ofRun]
  by_cases hbinding : ¬(1 ≤ binding.origin ∧ binding.origin ≤ 4)
      ∨ (binding.origin ≠ 1 ∧ binding.actor ≠ Block.zero 32) ∨ ¬events.length < 2 ^ 64
  · rw [if_pos hbinding, if_pos hbinding]
    exact .inl ⟨rfl, hsame⟩
  rw [if_neg hbinding, if_neg hbinding]
  dsimp only
  have hbatch := h.writeEventBatch events
    ⟨batchHeader binding events, terminal, List.replicate headerBytes 0, none, s⟩
    ⟨batchHeader binding events, terminal, List.replicate headerBytes 0, none, t⟩
    ⟨rfl, rfl, rfl, rfl, hsame⟩
  rcases hrun : (EventStore.writeEventBatch (EventStore.writeAll emit) events).exec
    (⟨batchHeader binding events, terminal, List.replicate headerBytes 0, none, s⟩ :
      FragmentWriter σ) with ⟨r, w⟩
  rcases hrun' : (EventStore.writeEventBatch (EventStore.writeAll emit') events).exec
    (⟨batchHeader binding events, terminal, List.replicate headerBytes 0, none, t⟩ :
      FragmentWriter τ) with ⟨r', w'⟩
  rw [hrun, hrun'] at hbatch
  rcases hbatch with ⟨hresult, hafter⟩ | ⟨⟨error, hresult⟩, e, hfailure, hfailed⟩
  · have hresult : r = r' := hresult
    subst hresult
    cases r with
    | error =>
      dsimp only
      rw [hafter.failure]
      exact .inl ⟨rfl, hafter.sink⟩
    | ok =>
      -- What is left is the last part.
      have hlast := h.emitPart true w w' hafter
      dsimp only
      rcases hpart : (EventStore.emitPart emit true).exec w with ⟨q, v⟩
      rcases hpart' : (EventStore.emitPart emit' true).exec w' with ⟨q', v'⟩
      rw [hpart, hpart'] at hlast
      rcases hlast with ⟨hresult, hafter⟩ | ⟨⟨error, hresult⟩, e, hfailure, hfailed⟩
      · have hresult : q = q' := hresult
        subst hresult
        cases q with
        | error =>
          dsimp only
          rw [hafter.failure]
          exact .inl ⟨rfl, hafter.sink⟩
        | ok => exact .inl ⟨rfl, hafter.sink⟩
      · have hresult : q = .error error := hresult
        have hfailure : v.failure = some e := hfailure
        subst hresult
        refine .inr ⟨e, ?_, ?_⟩
        · dsimp only
          rw [hfailure]
          rfl
        · cases q' with
          | error | ok => exact hfailed
  · have hresult : r = .error error := hresult
    have hfailure : w.failure = some e := hfailure
    subst hresult
    refine .inr ⟨e, ?_, ?_⟩
    · dsimp only
      rw [hfailure]
      rfl
    · cases r' with
      | error => exact hfailed
      | ok =>
        -- The other run goes on with its last part.
        have hmoved := within_emitPart h.moves true w'
        dsimp only
        rcases hpart' : (EventStore.emitPart emit' true).exec w' with ⟨q', v'⟩
        rw [hpart'] at hmoved
        have hkept := h.keeps e _ _ _ hfailed hmoved
        cases q' with
        | error | ok => exact hkept

end Follows

/-! ### The calls of a run -/

structure Emission where
  digest : Digest
  bytes : List UInt8
  result : Except IoError Unit

/-- What the callback was given. -/
def Emission.given (emission : Emission) : Digest × List UInt8 := (emission.digest, emission.bytes)

section Calls

variable {σ : Type}

def observed (emit : Digest → List UInt8 → Eff σ IoError Unit) (digest : Digest) (bytes : List UInt8) :
    Eff (σ × List Emission) IoError Unit :=
  ofRun fun s =>
    let run := (emit digest bytes).exec s.1
    (run.1, (run.2, s.2 ++ [⟨digest, bytes, run.1⟩]))

def calm (_ : Digest) (_ : List UInt8) : Eff Unit IoError Unit := pure ()

variable [Sha256] (emit : Digest → List UInt8 → Eff σ IoError Unit) (binding : BatchBinding)
  (events : List NetworkEvent) (terminal : Bool) (s : σ)

def emissions : List Emission :=
  ((writeEventSegments (observed emit) binding events terminal).exec (s, [])).2.2

def calmCalls : List (Digest × List UInt8) :=
  (emissions calm binding events terminal ()).map Emission.given

/-- A failure ends the run with its own error, after the first calls of a run without failures. -/
structure ExactPrefix : Prop where
  /-- Observing a run does not change it. -/
  outcome : ((writeEventSegments (observed emit) binding events terminal).exec (s, [])).1
    = ((writeEventSegments emit binding events terminal).exec s).1
  failed : ∀ k e, (∃ emission, (emissions emit binding events terminal s)[k]? = some emission
      ∧ emission.result = .error e) →
    ((writeEventSegments emit binding events terminal).exec s).1 = .error e
      ∧ (emissions emit binding events terminal s).length = k + 1
      ∧ (emissions emit binding events terminal s).map Emission.given
        = (calmCalls binding events terminal).take (k + 1)
  invalid : ¬binding.Valid → emissions emit binding events terminal s = []

omit [Sha256] in
theorem emitsAlike_observed :
    EmitsAlike (fun (t : σ × List Emission) s => t.1 = s) (fun _ _ _ => False) (fun _ _ => True)
      (observed emit) emit where
  alike := by
    rintro digest bytes t _ rfl
    exact .inl ⟨rfl, rfl⟩
  moves _ _ _ := trivial
  keeps _ _ _ _ hfailed _ := hfailed

def SameCalls (t : σ × List Emission) (u : Unit × List Emission) : Prop :=
  t.2.map Emission.given = u.2.map Emission.given ∧ ∀ emission ∈ t.2, emission.result = .ok ()

def FailedCall (e : IoError) (t : σ × List Emission) (u : Unit × List Emission) : Prop :=
  ∃ before last, t.2 = before ++ [last] ∧ (∀ emission ∈ before, emission.result = .ok ())
    ∧ last.result = .error e ∧ t.2.map Emission.given <+: u.2.map Emission.given

def Grows (u u' : Unit × List Emission) : Prop := u.2 <+: u'.2

instance : Std.Refl Grows := ⟨fun u => List.prefix_refl u.2⟩

instance : IsTrans (Unit × List Emission) Grows := ⟨fun _ _ _ h h' => h.trans h'⟩

omit [Sha256] in
theorem emitsAlike_calm :
    EmitsAlike SameCalls FailedCall Grows (observed emit) (observed calm) where
  alike := by
    rintro digest bytes t u ⟨hcalls, hok⟩
    let emission : Emission := ⟨digest, bytes, ((emit digest bytes).exec t.1).1⟩
    have hgiven : (t.2 ++ [emission]).map Emission.given
        = (((observed calm digest bytes).exec u).2.2).map Emission.given := by
      have hcalm : ((observed calm digest bytes).exec u).2.2
          = u.2 ++ [⟨digest, bytes, .ok ()⟩] := rfl
      rw [hcalm, List.map_append, List.map_append, hcalls]
      rfl
    cases hrun : ((emit digest bytes).exec t.1).1 with
    | ok =>
      refine .inl ⟨hrun, hgiven, fun other hmem => ?_⟩
      rcases List.mem_append.1 (hmem : other ∈ t.2 ++ [emission]) with hbefore | hnew
      · exact hok other hbefore
      · rw [List.mem_singleton.1 hnew]
        exact hrun
    | error e =>
      refine .inr ⟨e, hrun, t.2, emission, rfl, hok, hrun, ?_⟩
      exact (hgiven : _ = _) ▸ List.prefix_refl _
  moves digest bytes u := List.prefix_append u.2 _
  keeps := by
    rintro e t u u' ⟨before, last, hcalls, hok, hlast, hgiven⟩ hgrows
    exact ⟨before, last, hcalls, hok, hlast, hgiven.trans (hgrows.map _)⟩

end Calls

end EventStore
