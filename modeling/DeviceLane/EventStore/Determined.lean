/-
**A tail determines its history.**

The digest of a part covers its header, and the header names the part before it. So two runs of the
reader from one tail that both return a batch have loaded the same byte strings, unless they have met
two byte strings with one digest, and return the same batch. Whatever the loader delivers, a run asks
for no digest twice, for at most as many parts as the tail announces, and each time for the
predecessor of a part that is not the first of its batch.

Main definitions:

* `EventStore.Trail` — the invariant of the walk and the loads made so far.

Main results:

* `EventStore.tail_determines_batch` — **a tail determines its history**.
-/

import DeviceLane.EventStore.Canonical
import Mathlib.Data.List.Chain

namespace EventStore

open Endian Effect

section Determined

variable {τ : Type} [Sha256] {storeId : Block 16} {job : Block 32}
  {load : Digest → Eff τ IoError (List UInt8)}

variable {header : SegmentHeader} {log log' : List Load} {walk : Walk} {tail : Digest}

/-- The byte strings that were delivered. -/
def delivered (log : List Load) : List (List UInt8) := log.filterMap fun entry => entry.2.toOption

/-- The byte strings have different digests. -/
def CollisionFree (segs : List (List UInt8)) : Prop :=
  ∀ a ∈ segs, ∀ b ∈ segs, segmentDigest a = segmentDigest b → a = b

/-! ### Two runs -/

theorem visit_recorded_pass {walk' : Walk} {t t' : τ}
    (h : (visit storeId job (recorded load) walk).exec (t, log) = (.ok (header, walk'), t', log')) :
    ∃ bytes, admitPart storeId job walk bytes = .ok (header, walk')
      ∧ segmentDigest bytes = walk.current ∧ bytes ∈ delivered log' := by
  rw [exec_visit_recorded] at h
  split at h
  · cases h
  rcases hload : (load walk.current).exec t with ⟨r, _⟩
  rw [hload] at h
  cases r with
  | error => cases h
  | ok =>
    obtain ⟨hpass, hstate⟩ := Prod.mk.inj h
    obtain ⟨part', _, _, rfl, hadmitted'⟩ := admitPart_ok hpass
    obtain ⟨-, rfl⟩ := Prod.mk.inj hstate
    refine ⟨part'.bytes, hpass, hadmitted'.digest, ?_⟩
    simp [delivered, Except.toOption]

theorem visit_log_grows (storeId : Block 16) (job : Block 32)
    (load : Digest → Eff τ IoError (List UInt8)) (walk : Walk) :
    Within (fun s s' : τ × List Load => s.2 <+: s'.2) (visit storeId job (recorded load) walk) := by
  rintro ⟨_, _⟩
  rw [exec_visit_recorded]
  split
  · exact List.prefix_rfl
  · exact List.prefix_append _ _

theorem descend_log_grows (storeId : Block 16) (job : Block 32)
    (load : Digest → Eff τ IoError (List UInt8)) (n : ℕ) (header : SegmentHeader) (walk : Walk) :
    Within (fun s s' : τ × List Load => s.2 <+: s'.2)
      (descend storeId job (recorded load) n header walk) := by
  induction n generalizing header walk with
  | zero => exact fun s => List.prefix_rfl
  | succ n ih =>
    have htrans : IsTrans (τ × List Load) fun s s' => s.2 <+: s'.2 :=
      ⟨fun _ _ _ h h' => List.IsPrefix.trans h h'⟩
    exact Within.bind (visit_log_grows storeId job load _) fun ⟨h, w⟩ => ih h w

omit [Sha256] in
theorem delivered_subset (h : log <+: log') : delivered log ⊆ delivered log' :=
  (h.sublist.filterMap _).subset

variable {τ' : Type} {load' : Digest → Eff τ' IoError (List UInt8)}

theorem visit_determined {segs : List (List UInt8)} (hcoll : CollisionFree segs) {w₁ w₂ : Walk}
    {h₁ h₂ : SegmentHeader} {s s₁ : τ × List Load} {s' s₂ : τ' × List Load}
    (hrun : (visit storeId job (recorded load) walk).exec s = (.ok (h₁, w₁), s₁))
    (hrun' : (visit storeId job (recorded load') walk).exec s' = (.ok (h₂, w₂), s₂))
    (hsub : delivered s₁.2 ⊆ segs) (hsub' : delivered s₂.2 ⊆ segs) : (h₁, w₁) = (h₂, w₂) := by
  obtain ⟨a, hpass, hdigest, hmem⟩ := visit_recorded_pass hrun
  obtain ⟨b, hpass', hdigest', hmem'⟩ := visit_recorded_pass hrun'
  obtain rfl : a = b := hcoll a (hsub hmem) b (hsub' hmem') (hdigest.trans hdigest'.symm)
  rw [hpass] at hpass'
  exact Except.ok.inj hpass'

theorem descend_determined {segs : List (List UInt8)} (hcoll : CollisionFree segs) {n : ℕ}
    {h₁ h₂ : SegmentHeader} {w₁ w₂ : Walk} {s s₁ : τ × List Load} {s' s₂ : τ' × List Load}
    (hrun : (descend storeId job (recorded load) n header walk).exec s = (.ok (h₁, w₁), s₁))
    (hrun' : (descend storeId job (recorded load') n header walk).exec s' = (.ok (h₂, w₂), s₂))
    (hsub : delivered s₁.2 ⊆ segs) (hsub' : delivered s₂.2 ⊆ segs) : (h₁, w₁) = (h₂, w₂) := by
  induction n generalizing header walk s s' with
  | zero =>
    cases hrun
    cases hrun'
    rfl
  | succ n ih =>
    obtain ⟨⟨h, w⟩, s₃, hvisit, hrest⟩ := exec_bind_inv hrun
    obtain ⟨⟨h', w'⟩, s₄, hvisit', hrest'⟩ := exec_bind_inv hrun'
    have hgrow := descend_log_grows storeId job load n h w s₃
    have hgrow' := descend_log_grows storeId job load' n h' w' s₄
    rw [hrest] at hgrow
    rw [hrest'] at hgrow'
    obtain ⟨rfl, rfl⟩ := Prod.mk.inj (visit_determined hcoll hvisit hvisit'
      (List.Subset.trans (delivered_subset hgrow) hsub)
      (List.Subset.trans (delivered_subset hgrow') hsub'))
    exact ih hrest hrest'

/-! ### One run -/

/-- A request for the predecessor that the part delivered before names, and this part is not the
first of its batch. -/
def Follows (a b : Load) : Prop :=
  ∃ bytes body header, a.2 = .ok bytes ∧ decodeSegment bytes = .ok (header, body)
    ∧ header.partIndex ≠ 0 ∧ b.1 = header.predecessor

def tailIndex (log : List Load) : ℕ :=
  ((log.head?.bind fun entry => entry.2.toOption).bind partIndexOf).getD 0

/-- **What the loads of every run look like**: they start at the tail, go from part to predecessor,
ask for no digest twice, and are at most as many as the tail announces. -/
structure Bounded (tail : Digest) (log : List Load) : Prop where
  head : (log.map Prod.fst).head? = some tail
  nodup : (log.map Prod.fst).Nodup
  chain : log.IsChain Follows
  length_le : log.length ≤ tailIndex log + 1

/-- **What they look like when the run returns a batch**: the last part loaded is the first of its
batch, whose predecessor is not asked for. -/
structure Stopped (batch : DecodedBatch) (log : List Load) : Prop where
  last : ∃ digest bytes body header, log.getLast? = some (digest, .ok bytes)
    ∧ decodeSegment bytes = .ok (header, body) ∧ header.partIndex = 0
    ∧ header.predecessor = batch.binding.predecessor
  predecessor : ∀ preceding, segmentDigest preceding = batch.binding.predecessor →
    CollisionFree (preceding :: delivered log) → preceding ∉ delivered log →
    batch.binding.predecessor ∉ log.map Prod.fst

/-- The walk and the loads made so far, the header being the one of the part loaded last. -/
structure Trail (tail : Digest) (header : SegmentHeader) (walk : Walk) (log : List Load) : Prop where
  head : (log.map Prod.fst).head? = some tail
  seen : walk.seen = (log.map Prod.fst).reverse
  nodup : (log.map Prod.fst).Nodup
  chain : log.IsChain Follows
  last : ∃ digest bytes body, log.getLast? = some (digest, .ok bytes)
    ∧ decodeSegment bytes = .ok (header, body)
  index : header.partIndex = walk.index
  expected : walk.expected.isSome
  length_eq : log.length + walk.index.toNat = tailIndex log + 1

section

omit [Sha256]

theorem Trail.bounded (h : Trail tail header walk log) : Bounded tail log := by
  refine ⟨h.head, h.nodup, h.chain, ?_⟩
  have hlen := h.length_eq
  omega

theorem Trail.ne_nil (h : Trail tail header walk log) : log ≠ [] := by
  rintro rfl
  exact Option.some_ne_none _ h.head.symm

theorem tailIndex_append (hne : log ≠ []) (more : List Load) :
    tailIndex (log ++ more) = tailIndex log := by
  obtain ⟨_, log, rfl⟩ := List.exists_cons_of_ne_nil hne
  rfl

theorem Trail.request (h : Trail tail header walk log) (hindex : walk.index ≠ 0)
    (hnew : header.predecessor ∉ walk.seen) (r : Except IoError (List UInt8)) :
    Bounded tail (log ++ [(header.predecessor, r)]) := by
  obtain ⟨_, bytes, body, hlast, hdec⟩ := h.last
  have hpos : walk.index.toNat ≠ 0 := fun hzero => hindex (UInt64.toNat_inj.1 hzero)
  refine ⟨?_, ?_, ?_, ?_⟩
  · rw [List.map_append, List.head?_append, h.head]
    rfl
  · rw [List.map_append, List.map_singleton]
    refine List.Nodup.append h.nodup (List.nodup_singleton _) ?_
    rw [List.disjoint_singleton]
    rw [h.seen] at hnew
    exact fun hmem => hnew (List.mem_reverse.2 hmem)
  · refine h.chain.append (List.isChain_singleton _) ?_
    intro _ ha _ hb
    rw [hlast, Option.mem_some_iff] at ha
    rw [List.head?_cons, Option.mem_some_iff] at hb
    subst ha hb
    exact ⟨bytes, body, header, rfl, hdec, by rw [h.index]; exact hindex, rfl⟩
  · have hlen := h.length_eq
    rw [tailIndex_append h.ne_nil, List.length_append, List.length_singleton]
    omega

end

theorem Trail.admitted {header' : SegmentHeader} {counted walk' : Walk} {part : Part}
    {body : List UInt8} (h : Trail tail header walk log) (hindex : walk.index ≠ 0)
    (hadmitted : Admitted storeId job
      { walk with index := walk.index - 1, current := header.predecessor } part body header' counted
      walk') (hbounded : Bounded tail (log ++ [(header.predecessor, .ok part.bytes)])) :
    Trail tail header' walk' (log ++ [(header.predecessor, .ok part.bytes)])
      ∧ walk'.index = walk.index - 1 := by
  obtain ⟨e, he⟩ := Option.isSome_iff_exists.1 h.expected
  obtain ⟨rfl, -, -, -, -, -, hpart, -⟩ :=
    expect_some_ok (e := e) (by exact he) hadmitted.expected
  obtain rfl := hadmitted.after
  refine ⟨⟨hbounded.head, ?_, hbounded.nodup, hbounded.chain,
    ⟨_, _, _, List.getLast?_concat, hadmitted.decoded⟩, hpart, h.expected, ?_⟩, rfl⟩
  · rw [List.map_append, List.map_singleton, List.reverse_append, ← h.seen]
    rfl
  · obtain ⟨_, hn⟩ := Nat.exists_eq_succ_of_ne_zero
      (fun hzero => hindex (UInt64.toNat_inj.1 hzero) : walk.index.toNat ≠ 0)
    have hlen := h.length_eq
    rw [tailIndex_append h.ne_nil, List.length_append, List.length_singleton]
    change log.length + 1 + (walk.index - 1).toNat = _
    rw [index_pred hn]
    omega

/-- **The walk down keeps to the trail**, whatever its outcome. -/
theorem descend_bounded {n : ℕ} {t t' : τ} {r : Except IoError (SegmentHeader × Walk)}
    (htrail : Trail tail header walk log) (hn : walk.index.toNat = n)
    (hrun : (descend storeId job (recorded load) n header walk).exec (t, log) = (r, t', log')) :
    Bounded tail log' ∧ ∀ header' walk', r = .ok (header', walk') →
      Trail tail header' walk' log' ∧ walk'.index = 0 := by
  -- induction on the index the walk stands at
  induction n generalizing header walk t log with
  | zero =>
    cases hrun
    refine ⟨htrail.bounded, ?_⟩
    rintro _ _ ⟨⟩
    exact ⟨htrail, UInt64.toNat_inj.1 hn⟩
  | succ n ih =>
    have hindex : walk.index ≠ 0 := by
      intro hzero
      rw [hzero] at hn
      exact absurd hn (Nat.succ_ne_zero n).symm
    set walk₁ : Walk := { walk with index := walk.index - 1, current := header.predecessor }
      with hwalk₁
    have hvisit := exec_visit_recorded storeId job load walk₁ t log
    rw [descend] at hrun
    by_cases hseen : header.predecessor ∈ walk.seen
    · rw [if_pos (show walk₁.current ∈ walk₁.seen from hseen)] at hvisit
      rw [exec_bind_error hvisit] at hrun
      cases hrun
      refine ⟨htrail.bounded, ?_⟩
      rintro _ _ ⟨⟩
    rw [if_neg (show ¬walk₁.current ∈ walk₁.seen from hseen)] at hvisit
    rcases hload : (load walk₁.current).exec t with ⟨answer, _⟩
    rw [hload] at hvisit
    have hbounded := htrail.request hindex hseen answer
    cases hpass : answer >>= admitPart storeId job walk₁ with
    | error =>
      rw [hpass] at hvisit
      rw [exec_bind_error hvisit] at hrun
      cases hrun
      refine ⟨hbounded, ?_⟩
      rintro _ _ ⟨⟩
    | ok passed =>
      obtain ⟨_, _⟩ := passed
      rw [hpass] at hvisit
      rw [exec_bind_ok hvisit] at hrun
      cases answer with
      | error => cases hpass
      | ok =>
        obtain ⟨_, _, _, rfl, hadmitted⟩ := admitPart_ok hpass
        obtain ⟨htrail', hindex'⟩ := htrail.admitted hindex hadmitted hbounded
        exact ih htrail' (by rw [hindex', index_pred hn]) hrun

theorem loads_trail (storeId : Block 16) (job : Block 32)
    (load : Digest → Eff τ IoError (List UInt8)) (tail : Digest) (t : τ) :
    Bounded tail (loads storeId job load tail t)
      ∧ ∀ batch, ((readEventSegmentBatch storeId job load tail).exec t).1 = .ok batch →
        ∃ header walk, Trail tail header walk (loads storeId job load tail t) ∧ walk.index = 0
          ∧ assemble storeId job header.predecessor walk = .ok batch := by
  have hrun := exec_readEventSegmentBatch_recorded storeId job load tail t
  set log := loads storeId job load tail t
  set start : Walk :=
    { current := tail, seen := [], retained := [], expected := none, index := 0, bodyBytes := 0,
      physicalBytes := 0, parts := 0 }
  have hvisit := exec_visit_recorded storeId job load start t []
  rw [if_neg (show ¬start.current ∈ start.seen from List.not_mem_nil)] at hvisit
  rcases hload : (load start.current).exec t with ⟨answer, t₁⟩
  rw [hload] at hvisit
  have hone : Bounded tail [(tail, answer)] :=
    ⟨rfl, List.nodup_singleton _, List.isChain_singleton _, Nat.le_add_left _ _⟩
  rw [readEventSegmentBatch] at hrun
  cases hpass : answer >>= admitPart storeId job start with
  | error =>
    rw [hpass] at hvisit
    rw [exec_bind_error hvisit] at hrun
    obtain ⟨hout, hstate⟩ := Prod.mk.inj hrun
    obtain ⟨-, hlog⟩ := Prod.mk.inj hstate
    rw [← hlog, ← hout]
    refine ⟨hone, ?_⟩
    rintro _ ⟨⟩
  | ok passed =>
    obtain ⟨header, walk⟩ := passed
    rw [hpass] at hvisit
    rw [exec_bind_ok hvisit] at hrun
    cases answer with
    | error => cases hpass
    | ok =>
      obtain ⟨part, body, _, rfl, hadmitted⟩ := admitPart_ok hpass
      obtain ⟨rfl, -⟩ := expect_none_ok (by rfl) hadmitted.expected
      obtain rfl := hadmitted.after
      have htrail : Trail tail header
          { start.count part body with
            index := header.partIndex
            expected := some header
            retained := start.retained ++ [part] } [(tail, .ok part.bytes)] := by
        refine ⟨rfl, rfl, hone.nodup, hone.chain, ⟨_, _, _, rfl, hadmitted.decoded⟩, rfl, rfl, ?_⟩
        have hindex : tailIndex [(tail, .ok part.bytes)] = header.partIndex.toNat := by
          simp [tailIndex, Except.toOption, partIndexOf, hadmitted.decoded]
        rw [hindex]
        exact Nat.add_comm _ _
      rcases hdescend : (descend storeId job (recorded load) header.partIndex.toNat header
          { start.count part body with
            index := header.partIndex
            expected := some header
            retained := start.retained ++ [part] }).exec (t₁, [(tail, .ok part.bytes)])
        with ⟨r, t₂, log₂⟩
      obtain ⟨hbounded, hdown⟩ := descend_bounded htrail rfl hdescend
      cases r with
      | error =>
        replace hrun := (exec_bind_error hdescend).symm.trans hrun
        obtain ⟨hout, hstate⟩ := Prod.mk.inj hrun
        obtain ⟨-, hlog⟩ := Prod.mk.inj hstate
        rw [← hlog, ← hout]
        refine ⟨hbounded, ?_⟩
        rintro _ ⟨⟩
      | ok landed =>
        obtain ⟨header', walk'⟩ := landed
        obtain ⟨htrail', hzero⟩ := hdown header' walk' rfl
        replace hrun := (exec_bind_ok hdescend).symm.trans hrun
        rw [exec_liftExcept] at hrun
        obtain ⟨hout, hstate⟩ := Prod.mk.inj hrun
        obtain ⟨-, hlog⟩ := Prod.mk.inj hstate
        rw [← hlog, ← hout]
        exact ⟨hbounded, fun batch hbatch => ⟨header', walk', htrail', hzero, hbatch⟩⟩

/-- **A tail determines its history.**  Two runs from one tail that return a batch return the same
one, unless two of the byte strings they were delivered have one digest. The loads of every run are
bounded, and those of a run that returns a batch stop at its first part: the predecessor of the batch
is not asked for, unless it is the digest of a part of this very batch. -/
theorem tail_determines_batch {τ' : Type} (storeId : Block 16) (job : Block 32)
    (load : Digest → Eff τ IoError (List UInt8)) (load' : Digest → Eff τ' IoError (List UInt8))
    (tail : Digest) (t : τ) (t' : τ') :
    (∀ batch batch', CollisionFree (delivered (loads storeId job load tail t)
          ++ delivered (loads storeId job load' tail t')) →
        ((readEventSegmentBatch storeId job load tail).exec t).1 = .ok batch →
        ((readEventSegmentBatch storeId job load' tail).exec t').1 = .ok batch' → batch = batch')
      ∧ Bounded tail (loads storeId job load tail t)
      ∧ ∀ batch, ((readEventSegmentBatch storeId job load tail).exec t).1 = .ok batch →
        Stopped batch (loads storeId job load tail t) := by
  obtain ⟨hbounded, hread⟩ := loads_trail storeId job load tail t
  refine ⟨?_, hbounded, ?_⟩
  · intro batch batch' hcoll hok hok'
    have hrun := exec_readEventSegmentBatch_recorded storeId job load tail t
    have hrun' := exec_readEventSegmentBatch_recorded storeId job load' tail t'
    rw [hok] at hrun
    rw [hok'] at hrun'
    set log := loads storeId job load tail t
    set log' := loads storeId job load' tail t'
    have hsub : delivered log ⊆ delivered log ++ delivered log' := List.subset_append_left _ _
    have hsub' : delivered log' ⊆ delivered log ++ delivered log' := List.subset_append_right _ _
    rw [readEventSegmentBatch] at hrun hrun'
    obtain ⟨⟨e, w₁⟩, s₁, hvisit, hrun⟩ := exec_bind_inv hrun
    obtain ⟨⟨e', w₁'⟩, s₁', hvisit', hrun'⟩ := exec_bind_inv hrun'
    obtain ⟨⟨header, w₂⟩, s₂, hdescend, hrun⟩ := exec_bind_inv hrun
    obtain ⟨⟨header', w₂'⟩, s₂', hdescend', hrun'⟩ := exec_bind_inv hrun'
    rw [exec_liftExcept] at hrun hrun'
    obtain ⟨hassemble, hstate⟩ := Prod.mk.inj hrun
    obtain ⟨hassemble', hstate'⟩ := Prod.mk.inj hrun'
    have hgrow := descend_log_grows storeId job load
      w₁.index.toNat e w₁ s₁
    have hgrow' := descend_log_grows storeId job load'
      w₁'.index.toNat e' w₁' s₁'
    rw [hdescend, hstate] at hgrow
    rw [hdescend', hstate'] at hgrow'
    -- the first passes agree, so the walks down start alike
    obtain ⟨rfl, rfl⟩ := Prod.mk.inj (visit_determined hcoll hvisit hvisit'
      (List.Subset.trans (delivered_subset hgrow) hsub)
      (List.Subset.trans (delivered_subset hgrow') hsub'))
    obtain ⟨rfl, rfl⟩ := Prod.mk.inj (descend_determined hcoll hdescend hdescend'
      (by rw [hstate]; exact hsub) (by rw [hstate']; exact hsub'))
    rw [hassemble] at hassemble'
    exact Except.ok.inj hassemble'
  · intro batch hok
    obtain ⟨header, walk, htrail, hindex, hassemble⟩ := hread batch hok
    obtain ⟨digest, bytes, body, hlast, hdec⟩ := htrail.last
    obtain ⟨e, he⟩ := Option.isSome_iff_exists.1 htrail.expected
    obtain ⟨-, -, hbinding, -, -⟩ := assemble_ok he hassemble
    refine ⟨⟨digest, bytes, body, header, hlast, hdec, ?_, ?_⟩, ?_⟩
    · rw [htrail.index, hindex]
    · rw [hbinding]
    · intro preceding hpreceding hcoll hnew hmem
      -- what was requested was delivered, so the predecessor would be a part of the batch
      have hlog := (loads_eq_segments hok).log_eq
      rw [hlog, List.map_map, List.mem_map] at hmem
      obtain ⟨seg, hseg, hdigest⟩ := hmem
      have hdelivered : seg ∈ delivered (loads storeId job load tail t) := by
        rw [delivered, hlog, List.mem_filterMap]
        exact ⟨answered seg, List.mem_map_of_mem hseg, rfl⟩
      have hsame := hcoll preceding List.mem_cons_self seg (List.mem_cons_of_mem _ hdelivered)
        (hpreceding.trans hdigest.symm)
      exact hnew (hsame ▸ hdelivered)

end Determined

def deliverSample (_ : Digest) : Eff Unit IoError (List UInt8) := pure sampleSegment

theorem serves_deliverSample : Serves deliverSample (fun _ => some sampleSegment) () := by
  refine ⟨fun _ _ => True, trivial, ?_⟩
  rintro loaded ⟨⟩ d bytes - - ⟨⟩
  exact ⟨(), rfl, trivial⟩

theorem delivered_sample {τ : Type} {load : Digest → Eff τ IoError (List UInt8)}
    {disk : Digest → Option (List UInt8)} {t : τ} (hserves : Serves load disk t) :
    letI := sampleSha
    disk (segmentDigest sampleSegment) = some sampleSegment →
    delivered (loads sampleBinding.storeId sampleBinding.job load (segmentDigest sampleSegment) t)
      = [sampleSegment] := by
  let _ := sampleSha
  intro hdisk
  rw [(loads_eq_segments (read_sampleSegment hserves hdisk)).log_eq, sample_segments]
  rfl

/-- The sample read from its shelf is the one read from a loader that always delivers it. -/
theorem sample_determined : letI := sampleSha
    ∃ batch, ((readEventSegmentBatch sampleBinding.storeId sampleBinding.job Shelf.load
        (segmentDigest sampleSegment)).exec [(segmentDigest sampleSegment, sampleSegment)]).1
          = .ok batch
      ∧ ((readEventSegmentBatch sampleBinding.storeId sampleBinding.job deliverSample
        (segmentDigest sampleSegment)).exec ()).1 = .ok batch
      ∧ Stopped batch (loads sampleBinding.storeId sampleBinding.job Shelf.load
        (segmentDigest sampleSegment) [(segmentDigest sampleSegment, sampleSegment)]) := by
  let _ := sampleSha
  have hserves := Shelf.serves_load [(segmentDigest sampleSegment, sampleSegment)]
  have hread := read_sampleSegment hserves List.lookup_cons_self
  have hread' := read_sampleSegment serves_deliverSample rfl
  obtain ⟨hsame, -, hstopped⟩ := tail_determines_batch sampleBinding.storeId sampleBinding.job
    Shelf.load deliverSample (segmentDigest sampleSegment)
    [(segmentDigest sampleSegment, sampleSegment)] ()
  rw [delivered_sample hserves List.lookup_cons_self, delivered_sample serves_deliverSample rfl]
    at hsame
  have hcoll : CollisionFree ([sampleSegment] ++ [sampleSegment]) := by
    intro a ha b hb _
    simp only [List.singleton_append, List.mem_cons, List.not_mem_nil, or_false, or_self] at ha hb
    rw [ha, hb]
  have hbatch := hsame _ _ hcoll hread hread'
  exact ⟨_, hread, by rw [hbatch]; exact hread', hstopped _ hread⟩

end EventStore
