/-
**The body of an event batch.**

A batch body is the number of events followed by the events in order: the sequence number, then the
kind and the payload, each preceded by its length in bytes. All numbers are little-endian 64-bit
words. The writer streams these pieces to any sink; the reader takes them from any source, inside
an extent given by the caller.

Main definitions:

* `EventStore.batchBytes` — the canonical body.

Main results:

* `EventStore.readEventBatch_batchBytes` — **the reader recovers the events from the canonical
  body**, and leaves what follows the extent unread.
-/

import DeviceLane.EventStore.Codec
import DeviceLane.Library.ByteSource
import DeviceLane.Library.Effect

namespace EventStore

open Endian Effect

structure NetworkEvent where
  sequence : UInt64
  kind : String
  payload : String
  deriving DecidableEq, Repr

def invalidData : IoError := ⟨.invalidData, "invalid event body"⟩

/-- The error of an exact read past the end of its source. -/
def unexpectedEof : IoError := ⟨.unexpectedEof, "failed to fill whole buffer"⟩

/-! ### Writing -/

section Writing

variable {W : Type} (writeAll : List UInt8 → Eff W IoError Unit)

def writeU64 (value : UInt64) : Eff W IoError Unit := writeAll (u64Le value)

def writeString (value : String) : Eff W IoError Unit :=
  if value.utf8ByteSize < 2 ^ 64 then do
    writeU64 writeAll (UInt64.ofNat value.utf8ByteSize)
    writeAll (textBytes value)
  else
    throw invalidData

def writeEvents : List NetworkEvent → Eff W IoError Unit
  | [] => pure ()
  | event :: events => do
      writeU64 writeAll event.sequence
      writeString writeAll event.kind
      writeString writeAll event.payload
      writeEvents events

/-- Streams the canonical event batch body without buffering the full encoding. -/
def writeEventBatch (events : List NetworkEvent) : Eff W IoError Unit :=
  if events.length < 2 ^ 64 then do
    writeU64 writeAll (UInt64.ofNat events.length)
    writeEvents writeAll events
  else
    throw invalidData

end Writing

def stringBytes (value : String) : List UInt8 :=
  u64Le (UInt64.ofNat value.utf8ByteSize) ++ textBytes value

def eventBytes (event : NetworkEvent) : List UInt8 :=
  u64Le event.sequence ++ (stringBytes event.kind ++ stringBytes event.payload)

def batchBytes (events : List NetworkEvent) : List UInt8 :=
  u64Le (UInt64.ofNat events.length) ++ events.flatMap eventBytes

@[simp] theorem stringBytes_length (s : String) : (stringBytes s).length = 8 + s.utf8ByteSize := by
  simp [stringBytes]

@[simp] theorem eventBytes_length (e : NetworkEvent) :
    (eventBytes e).length = 24 + e.kind.utf8ByteSize + e.payload.utf8ByteSize := by
  simp [eventBytes]
  omega

theorem length_le_flatMap_eventBytes (events : List NetworkEvent) :
    24 * events.length ≤ (events.flatMap eventBytes).length := by
  induction events with
  | nil => simp
  | cons =>
    simp only [List.flatMap_cons, List.length_append, List.length_cons, eventBytes_length]
    omega

/-- The lengths of a batch fit the words that announce them, as they do for values in the memory of
a 64-bit process. -/
structure Announceable (events : List NetworkEvent) : Prop where
  count : events.length < 2 ^ 64
  kind : ∀ e ∈ events, e.kind.utf8ByteSize < 2 ^ 64
  payload : ∀ e ∈ events, e.payload.utf8ByteSize < 2 ^ 64

theorem Announceable.of_length {events : List NetworkEvent}
    (h : (batchBytes events).length < 2 ^ 64) : Announceable events := by
  have hsum : (events.flatMap eventBytes).length < 2 ^ 64 := by
    simp only [batchBytes, List.length_append] at h
    omega
  have hmem : ∀ e ∈ events, (eventBytes e).length ≤ (events.flatMap eventBytes).length := by
    intro e he
    obtain ⟨_, _, rfl⟩ := List.append_of_mem he
    simp only [List.flatMap_append, List.flatMap_cons, List.length_append]
    omega
  have hcount := length_le_flatMap_eventBytes events
  refine ⟨by omega, fun e he => ?_, fun e he => ?_⟩
  · have := hmem e he
    simp only [eventBytes_length] at this
    omega
  · have := hmem e he
    simp only [eventBytes_length] at this
    omega

section WriteSpec

variable {W : Type} {writeAll : List UInt8 → Eff W IoError Unit}
  {Written : List UInt8 → W → Prop} {Failed : IoError → W → Prop} {total : List UInt8}

def WriteOutcome (Written : List UInt8 → W → Prop) (Failed : IoError → W → Prop)
    (p : List UInt8) (r : Except IoError Unit) (w : W) : Prop :=
  match r with
  | .ok _ => Written p w
  | .error e => Failed e w

/-- The sink takes every piece of `total`: what is written grows by the piece, or the sink fails. -/
def Accepts (writeAll : List UInt8 → Eff W IoError Unit) (Written : List UInt8 → W → Prop)
    (Failed : IoError → W → Prop) (total : List UInt8) : Prop :=
  ∀ p bs, p ++ bs <+: total →
    Triple (Written p) (writeAll bs) (WriteOutcome Written Failed (p ++ bs))

theorem writeString_spec (h : Accepts writeAll Written Failed total) {p : List UInt8} {s : String}
    (hs : s.utf8ByteSize < 2 ^ 64) (hp : p ++ stringBytes s <+: total) :
    Triple (Written p) (writeString writeAll s)
      (WriteOutcome Written Failed (p ++ stringBytes s)) := by
  rw [stringBytes, ← List.append_assoc] at hp ⊢
  rw [writeString, if_pos hs]
  refine Triple.bind (h p _ ((List.prefix_append _ _).trans hp)) (fun _ _ he => he) fun _ => ?_
  exact h _ _ hp

theorem writeEvents_spec (h : Accepts writeAll Written Failed total) {p : List UInt8}
    {events : List NetworkEvent} (hk : ∀ e ∈ events, e.kind.utf8ByteSize < 2 ^ 64)
    (hl : ∀ e ∈ events, e.payload.utf8ByteSize < 2 ^ 64)
    (hp : p ++ events.flatMap eventBytes <+: total) :
    Triple (Written p) (writeEvents writeAll events)
      (WriteOutcome Written Failed (p ++ events.flatMap eventBytes)) := by
  induction events generalizing p with
  | nil => exact Triple.pure fun w hw => by simpa [WriteOutcome] using hw
  | cons e events ih =>
    have hsplit : p ++ (e :: events).flatMap eventBytes
        = p ++ u64Le e.sequence ++ stringBytes e.kind ++ stringBytes e.payload
          ++ events.flatMap eventBytes := by
      simp [eventBytes]
    rw [hsplit] at hp ⊢
    have h₃ := (List.prefix_append _ _).trans hp
    have h₂ := (List.prefix_append _ _).trans h₃
    have h₁ := (List.prefix_append _ _).trans h₂
    have hke := hk e List.mem_cons_self
    have hle := hl e List.mem_cons_self
    have hrest := ih (List.forall_mem_cons.1 hk).2
      (List.forall_mem_cons.1 hl).2 hp
    rw [writeEvents]
    refine Triple.bind (h p _ h₁) (fun _ _ he => he) fun _ => ?_
    refine Triple.bind (writeString_spec h hke h₂) (fun _ _ he => he) fun _ => ?_
    exact Triple.bind (writeString_spec h hle h₃) (fun _ _ he => he) fun _ => hrest

/-- **The writer hands the canonical body to its sink, piece by piece.** -/
theorem writeEventBatch_spec {events : List NetworkEvent} (hev : Announceable events)
    (h : Accepts writeAll Written Failed (batchBytes events)) :
    Triple (Written []) (writeEventBatch writeAll events)
      (WriteOutcome Written Failed (batchBytes events)) := by
  rw [writeEventBatch, if_pos hev.count]
  refine Triple.bind (h [] _ (List.prefix_append _ _)) (fun _ _ he => he) fun _ => ?_
  exact writeEvents_spec h hev.kind hev.payload (List.prefix_refl _)

end WriteSpec

/-! ### Reading -/

section Reading

variable {R : Type} [ByteSource R]

def readExact (n : ℕ) : Eff (Take R) IoError (List UInt8) :=
  ofRun fun t =>
    match ByteSource.readExact n t with
    | (some bs, t') => (.ok bs, t')
    | (none, t') => (.error unexpectedEof, t')

def readU64 : Eff (Take R) IoError UInt64 := do
  let bytes ← readExact 8
  pure (u64OfLe bytes)

/-- The bytes of a text, read through a scratch buffer of 8192 bytes. -/
def readChunks (remaining : ℕ) : Eff (Take R) IoError (List UInt8) :=
  if remaining = 0 then
    pure []
  else do
    let chunk ← readExact (min remaining 8192)
    let bytes ← readChunks (remaining - min remaining 8192)
    pure (chunk ++ bytes)
termination_by remaining

def readString : Eff (Take R) IoError String := do
  let length ← readU64
  if length.toNat > (← get).limit then
    throw invalidData
  let bytes ← readChunks length.toNat
  match ofTextBytes bytes with
  | some s => pure s
  | none => throw invalidData

def readEvents : ℕ → Eff (Take R) IoError (List NetworkEvent)
  | 0 => pure []
  | count + 1 => do
      let sequence ← readU64
      let kind ← readString
      let payload ← readString
      let events ← readEvents count
      pure (⟨sequence, kind, payload⟩ :: events)

def readLimited : Eff (Take R) IoError (List NetworkEvent) := do
  let count ← readU64
  if count.toNat > (← get).limit / 24 then
    throw invalidData
  let events ← readEvents count.toNat
  if (← get).limit ≠ 0 then
    throw invalidData
  pure events

/-- Reads exactly one canonical event batch body from the supplied extent. Any following bytes
remain unread. -/
def readEventBatch (reader : R) (encodedLength : ℕ) : Except IoError (List NetworkEvent) × R :=
  let (result, taken) := readLimited.exec ⟨reader, encodedLength⟩
  (result, taken.inner)

end Reading

section ReadSpec

variable {R : Type} [LawfulByteSource R] {tail : List UInt8}

variable {b : List UInt8} {t : Take R}

theorem exec_readExact {a : List UInt8} {n : ℕ} (hn : a.length = n) (h : t.At (a ++ b) tail) :
    ∃ t', (readExact n).exec t = (.ok a, t') ∧ Take.At b tail t' := by
  subst hn
  obtain ⟨t', ht', hb⟩ := Take.readExact_at h
  exact ⟨t', by simp [readExact, ht'], hb⟩

theorem exec_readU64 {x : UInt64} (h : t.At (u64Le x ++ b) tail) :
    ∃ t', readU64.exec t = (.ok x, t') ∧ Take.At b tail t' := by
  obtain ⟨t', ht', hb⟩ := exec_readExact (u64Le_length x) h
  exact ⟨t', by rw [readU64, exec_bind_ok ht', exec_pure, u64OfLe_u64Le], hb⟩

theorem exec_readChunks {a : List UInt8} (h : t.At (a ++ b) tail) :
    ∃ t', (readChunks a.length).exec t = (.ok a, t') ∧ Take.At b tail t' := by
  -- induction on the number of bytes still wanted, which a scratch buffer decreases
  induction hn : a.length using Nat.strong_induction_on generalizing a t with
  | _ n ih =>
    subst hn
    rw [readChunks]
    rcases eq_or_ne a [] with rfl | ha
    · exact ⟨t, by simp, by simpa using h⟩
    · have hpos : a.length ≠ 0 := by simpa using ha
      rw [if_neg hpos]
      have hchunk : (a.take (min a.length 8192)).length = min a.length 8192 := by
        rw [List.length_take]
        omega
      have hrest : (a.drop (min a.length 8192)).length = a.length - min a.length 8192 :=
        List.length_drop
      rw [← List.take_append_drop (min a.length 8192) a, List.append_assoc] at h
      obtain ⟨_, ht₁, h₁⟩ := exec_readExact hchunk h
      obtain ⟨t₂, ht₂, h₂⟩ := ih (a.drop (min a.length 8192)).length (by omega) h₁ rfl
      refine ⟨t₂, ?_, h₂⟩
      rw [exec_bind_ok ht₁, ← hrest, exec_bind_ok ht₂, exec_pure, List.take_append_drop]

theorem exec_readString {s : String} (hs : s.utf8ByteSize < 2 ^ 64)
    (h : t.At (stringBytes s ++ b) tail) :
    ∃ t', readString.exec t = (.ok s, t') ∧ Take.At b tail t' := by
  rw [stringBytes, List.append_assoc] at h
  obtain ⟨t₁, ht₁, h₁⟩ := exec_readU64 h
  obtain ⟨t₂, ht₂, h₂⟩ := exec_readChunks h₁
  have hlen : (UInt64.ofNat s.utf8ByteSize).toNat = (textBytes s).length := by
    rw [UInt64.toNat_ofNat_of_lt' hs, textBytes_length]
  have hlimit : ¬(textBytes s).length > t₁.limit := by
    rw [h₁.limit_eq, List.length_append]
    omega
  refine ⟨t₂, ?_, h₂⟩
  rw [readString, exec_bind_ok ht₁, hlen, exec_bind_ok (exec_get t₁), if_neg hlimit]
  dsimp only
  rw [exec_bind_ok ht₂, ofTextBytes_textBytes]
  rfl

theorem exec_readEvents {events : List NetworkEvent} (hk : ∀ e ∈ events, e.kind.utf8ByteSize < 2 ^ 64)
    (hl : ∀ e ∈ events, e.payload.utf8ByteSize < 2 ^ 64)
    (h : t.At (events.flatMap eventBytes ++ b) tail) :
    ∃ t', (readEvents events.length).exec t = (.ok events, t') ∧ Take.At b tail t' := by
  induction events generalizing t with
  | nil => exact ⟨t, rfl, h⟩
  | cons e events ih =>
    have hsplit : (e :: events).flatMap eventBytes ++ b = u64Le e.sequence ++ (stringBytes e.kind
        ++ (stringBytes e.payload ++ (events.flatMap eventBytes ++ b))) := by
      simp [eventBytes]
    rw [hsplit] at h
    obtain ⟨_, ht₁, h₁⟩ := exec_readU64 h
    obtain ⟨_, ht₂, h₂⟩ := exec_readString (hk e List.mem_cons_self) h₁
    obtain ⟨_, ht₃, h₃⟩ := exec_readString (hl e List.mem_cons_self) h₂
    obtain ⟨t₄, ht₄, h₄⟩ := ih (List.forall_mem_cons.1 hk).2
      (List.forall_mem_cons.1 hl).2 h₃
    refine ⟨t₄, ?_, h₄⟩
    rw [List.length_cons, readEvents, exec_bind_ok ht₁, exec_bind_ok ht₂, exec_bind_ok ht₃,
      exec_bind_ok ht₄, exec_pure]

/-- **The reader recovers the events from the canonical body**, and leaves what follows unread. -/
theorem readEventBatch_batchBytes {events : List NetworkEvent} (hev : Announceable events)
    {reader : R} (h : LawfulByteSource.remaining reader = batchBytes events ++ tail) :
    ∃ reader', readEventBatch reader (batchBytes events).length = (.ok events, reader')
      ∧ LawfulByteSource.remaining reader' = tail := by
  have h₀ : Take.At (batchBytes events ++ []) tail
      (⟨reader, (batchBytes events).length⟩ : Take R) := ⟨by simpa using h, by simp⟩
  have hsplit : batchBytes events ++ []
      = u64Le (UInt64.ofNat events.length) ++ (events.flatMap eventBytes ++ []) := by
    simp [batchBytes]
  rw [hsplit] at h₀
  obtain ⟨t₁, ht₁, h₁⟩ := exec_readU64 h₀
  obtain ⟨t₂, ht₂, h₂⟩ := exec_readEvents hev.kind hev.payload h₁
  have hlen : (UInt64.ofNat events.length).toNat = events.length :=
    UInt64.toNat_ofNat_of_lt' hev.count
  have hcount : ¬events.length > t₁.limit / 24 := by
    have hle := length_le_flatMap_eventBytes events
    have hlimit := h₁.limit_eq
    rw [List.append_nil] at hlimit
    omega
  have hlimit : t₂.limit = 0 := h₂.limit_eq
  refine ⟨t₂.inner, ?_, by simpa using h₂.remaining_eq⟩
  have hrun : readLimited.exec (⟨reader, (batchBytes events).length⟩ : Take R)
      = (.ok events, t₂) := by
    rw [readLimited, exec_bind_ok ht₁, hlen, exec_bind_ok (exec_get t₁), if_neg hcount]
    dsimp only
    rw [exec_bind_ok ht₂, exec_bind_ok (exec_get t₂), if_neg (by simp [hlimit])]
    rfl
  rw [readEventBatch, hrun]

end ReadSpec

end EventStore
