/-
**The loads of a reader.**

What the reader returns is a function of the byte strings its loader delivers. This module takes
the reader apart into the loads and that function, and keeps the loads of a run as a list.

Main definitions:

* `EventStore.recorded` — a loader that writes down what it is asked for and what it delivers.

Main results:

* `EventStore.exec_visit_recorded` — a pass of the loop loads one part and admits it.
-/

import DeviceLane.EventStore.Reader

namespace EventStore

open Endian Effect

abbrev Load : Type := Digest × Except IoError (List UInt8)

theorem checkedAdd_ok {a b c : ℕ} (h : checkedAdd a b = .ok c) : c = a + b ∧ a + b < 2 ^ 64 := by
  rw [checkedAdd] at h
  split at h
  · cases h
    exact ⟨rfl, ‹_›⟩
  · cases h

theorem decodePart_ok {bytes body : List UInt8} {header : SegmentHeader} {part : Part}
    (h : decodePart bytes = .ok (header, body, part)) :
    decodeSegment bytes = .ok (header, body) ∧ part.bytes = bytes := by
  unfold decodePart at h
  split at h
  · cases h
  · rename_i header' body' hdec
    cases h
    exact ⟨hdec, rfl⟩

section Loads

variable {τ : Type} [Sha256] (storeId : Block 16) (job : Block 32)
  (load : Digest → Eff τ IoError (List UInt8))

def admitPart (walk : Walk) (bytes : List UInt8) : Except IoError (SegmentHeader × Walk) := do
  let (header, body, part) ← decodePart bytes
  if segmentDigest bytes ≠ walk.current ∨ header.storeId ≠ storeId ∨ header.job ≠ job then
    throw invalidBatch
  let physicalBytes ← checkedAdd walk.physicalBytes bytes.length
  let bodyBytes ← checkedAdd walk.bodyBytes body.length
  let parts ← checkedAdd walk.parts 1
  let walk ← expect header
    { walk with seen := walk.current :: walk.seen, physicalBytes, bodyBytes, parts }
  pure (header, { walk with retained := walk.retained ++ [part] })

def recorded (digest : Digest) : Eff (τ × List Load) IoError (List UInt8) :=
  ofRun fun s =>
    (((load digest).exec s.1).1,
      ((load digest).exec s.1).2, s.2 ++ [(digest, ((load digest).exec s.1).1)])

/-- The loads of the reader's run from `t`, in order. -/
def loads (tail : Digest) (t : τ) : List Load :=
  ((readEventSegmentBatch storeId job (recorded load) tail).exec (t, [])).2.2

omit [Sha256] in
theorem recorded_shadows (digest : Digest) :
    Shadows Prod.fst (recorded load digest) (load digest) :=
  fun _ => rfl

theorem visit_shadows (walk : Walk) :
    Shadows Prod.fst (visit storeId job (recorded load) walk) (visit storeId job load walk) := by
  refine Shadows.ite (Shadows.throw _) (Shadows.bind (recorded_shadows load _) fun bytes => ?_)
  refine Shadows.bind (Shadows.lift _) fun ⟨header, body, part⟩ => ?_
  refine Shadows.ite (Shadows.throw _) (Shadows.bind (Shadows.lift _) fun physicalBytes => ?_)
  refine Shadows.bind (Shadows.lift _) fun bodyBytes => ?_
  refine Shadows.bind (Shadows.lift _) fun parts => ?_
  exact Shadows.bind (Shadows.lift _) fun walk => Shadows.pure _

theorem descend_shadows (n : ℕ) (header : SegmentHeader) (walk : Walk) :
    Shadows Prod.fst (descend storeId job (recorded load) n header walk)
      (descend storeId job load n header walk) := by
  induction n generalizing header walk with
  | zero => exact Shadows.pure _
  | succ n ih => exact Shadows.bind (visit_shadows storeId job load _) fun ⟨h, w⟩ => ih h w

theorem readEventSegmentBatch_shadows (tail : Digest) :
    Shadows Prod.fst (readEventSegmentBatch storeId job (recorded load) tail)
      (readEventSegmentBatch storeId job load tail) := by
  refine Shadows.bind (visit_shadows storeId job load _) fun ⟨header, walk⟩ => ?_
  exact Shadows.bind (descend_shadows storeId job load _ _ _) fun ⟨h, w⟩ => Shadows.lift _

/-- **Writing down the loads changes nothing else.** -/
theorem exec_readEventSegmentBatch_recorded (tail : Digest) (t : τ) :
    (readEventSegmentBatch storeId job (recorded load) tail).exec (t, [])
      = (((readEventSegmentBatch storeId job load tail).exec t).1,
          ((readEventSegmentBatch storeId job load tail).exec t).2,
          loads storeId job load tail t) := by
  rw [readEventSegmentBatch_shadows storeId job load tail (t, [])]
  rfl

/-- A pass of the loop: it stops at a digest it has seen, and otherwise loads one part and admits
it. -/
theorem exec_visit_recorded (walk : Walk) (t : τ) (log : List Load) :
    (visit storeId job (recorded load) walk).exec (t, log)
      = if walk.current ∈ walk.seen then (.error invalidBatch, t, log)
        else ((((load walk.current).exec t).1 >>= admitPart storeId job walk),
          ((load walk.current).exec t).2,
          log ++ [(walk.current, ((load walk.current).exec t).1)]) := by
  rw [visit]
  split
  · rfl
  rcases hload : (load walk.current).exec t with ⟨r, t'⟩
  have hrecorded : (recorded load walk.current).exec (t, log)
      = (r, t', log ++ [(walk.current, r)]) := by
    rw [recorded, exec_ofRun, hload]
  cases r with
  | error =>
    rw [exec_bind_error hrecorded]
    rfl
  | ok bytes =>
    rw [exec_bind_ok hrecorded, ok_bind, admitPart]
    cases decodePart bytes with
    | error => rfl
    | ok decoded =>
      obtain ⟨header, body, _⟩ := decoded
      rw [exec_bind_ok (exec_liftExcept_ok _ _), ok_bind]
      dsimp only
      split
      · rfl
      cases checkedAdd walk.physicalBytes bytes.length with
      | error => rfl
      | ok =>
        rw [exec_bind_ok (exec_liftExcept_ok _ _), ok_bind]
        cases checkedAdd walk.bodyBytes body.length with
        | error => rfl
        | ok =>
          rw [exec_bind_ok (exec_liftExcept_ok _ _), ok_bind]
          cases checkedAdd walk.parts 1 with
          | error => rfl
          | ok =>
            rw [exec_bind_ok (exec_liftExcept_ok _ _), ok_bind]
            rw [exec_bind, exec_liftExcept]
            cases expect header _ with
            | error | ok => rfl

/-! ### Parts that have been admitted -/

variable {storeId job}

/-- What is known of an admitted part, and of the walk behind it. -/
structure Admitted (storeId : Block 16) (job : Block 32) (walk : Walk) (part : Part)
    (body : List UInt8) (header : SegmentHeader) (counted walk' : Walk) : Prop where
  decoded : decodeSegment part.bytes = .ok (header, body)
  digest : segmentDigest part.bytes = walk.current
  store_eq : header.storeId = storeId
  job_eq : header.job = job
  bodyBytes_lt : walk.bodyBytes + body.length < 2 ^ 64
  expected : expect header (walk.count part body) = .ok counted
  after : walk' = { counted with retained := counted.retained ++ [part] }

theorem admitPart_ok {walk walk' : Walk} {bytes : List UInt8} {header : SegmentHeader}
    (h : admitPart storeId job walk bytes = .ok (header, walk')) :
    ∃ part body counted, part.bytes = bytes
      ∧ Admitted storeId job walk part body header counted walk' := by
  rw [admitPart] at h
  rcases hdec : decodePart bytes with e | ⟨header', body, part⟩
  · rw [hdec] at h
    cases h
  rw [hdec, ok_bind] at h
  dsimp only at h
  split at h
  · cases h
  rename_i hguard
  simp only [not_or, not_not] at hguard
  obtain ⟨hdigest, hstore, hjob⟩ := hguard
  rcases hphysical : checkedAdd walk.physicalBytes bytes.length with e | physicalBytes
  · rw [hphysical] at h
    cases h
  rcases hbody : checkedAdd walk.bodyBytes body.length with e | bodyBytes
  · rw [hphysical, hbody] at h
    cases h
  rcases hparts : checkedAdd walk.parts 1 with e | parts
  · rw [hphysical, hbody, hparts] at h
    cases h
  rw [hphysical, hbody, hparts, ok_bind, ok_bind, ok_bind] at h
  obtain ⟨rfl, -⟩ := checkedAdd_ok hphysical
  obtain ⟨rfl, hlt⟩ := checkedAdd_ok hbody
  obtain ⟨rfl, -⟩ := checkedAdd_ok hparts
  obtain ⟨hdecoded, rfl⟩ := decodePart_ok hdec
  rw [show ({ walk with
    seen := walk.current :: walk.seen
    bodyBytes := walk.bodyBytes + body.length
    physicalBytes := walk.physicalBytes + part.bytes.length
    parts := walk.parts + 1 } : Walk) = walk.count part body from rfl] at h
  rcases hexpect : expect header' (walk.count part body) with e | counted
  · rw [hexpect] at h
    cases h
  rw [hexpect] at h
  cases h
  exact ⟨part, body, counted, rfl, hdecoded, hdigest, hstore, hjob, hlt, hexpect, rfl⟩

end Loads

end EventStore
