/-
**Finite maps.**

Maps with finitely many entries, each key at most once. They are Mathlib's association lists with
values of one type, and with what programs do with maps besides looking up, inserting and erasing:
counting the entries, keeping some of them, and going through them in the order of the keys.

Main definitions:

* `Map` — maps from one type to another, with `Map.lookup`, `Map.insert` and `Map.erase`.

Main results:

* `Map.mem_toList`, `Map.mem_inOrder`, `Map.mem_entriesIn` — the entries are what can be looked up.
-/

import Mathlib.Data.List.AList
import Mathlib.Data.List.Sort

structure KeyOrder (α : Type) where
  order : List α → List α
  perm : ∀ keys, (order keys).Perm keys

/-- A finite map. -/
def Map (α β : Type) : Type := AList fun _ : α => β

namespace Map

variable {α β : Type}

instance : EmptyCollection (Map α β) := inferInstanceAs (EmptyCollection (AList fun _ : α => β))

instance [DecidableEq α] [DecidableEq β] : DecidableEq (Map α β) :=
  inferInstanceAs (DecidableEq (AList fun _ : α => β))

/-- The entries. -/
def toList (m : Map α β) : List (α × β) := (AList.entries m).map fun e => (e.1, e.2)

def len (m : Map α β) : ℕ := (AList.entries m).length

def retain (p : α → β → Bool) (m : Map α β) : Map α β :=
  ⟨(AList.entries m).filter fun e => p e.1 e.2, (AList.nodupKeys m).sublist List.filter_sublist⟩

def mapValues (f : α → β → β) (m : Map α β) : Map α β :=
  ⟨(AList.entries m).map fun e => ⟨e.1, f e.1 e.2⟩, by
    have hkeys := AList.nodupKeys m
    rw [List.NodupKeys, List.keys] at hkeys ⊢
    rw [List.map_map]
    exact hkeys⟩

def values (m : Map α β) : List β := m.toList.map Prod.snd

def keys (m : Map α β) : List α := m.toList.map Prod.fst

def inOrder {γ : Type} [LE γ] [DecidableLE γ] (rank : α → γ) (m : Map α β) : List (α × β) :=
  m.toList.mergeSort fun a b => rank a.1 ≤ rank b.1

@[simp] theorem len_empty : (∅ : Map α β).len = 0 := rfl

@[simp] theorem length_toList (m : Map α β) : m.toList.length = m.len := List.length_map _

@[simp] theorem length_inOrder {γ : Type} [LE γ] [DecidableLE γ] (rank : α → γ) (m : Map α β) :
    (m.inOrder rank).length = m.len := by
  rw [inOrder, List.length_mergeSort, length_toList]

@[simp] theorem inOrder_empty {γ : Type} [LE γ] [DecidableLE γ] (rank : α → γ) :
    (∅ : Map α β).inOrder rank = [] :=
  List.eq_nil_of_length_eq_zero ((length_inOrder rank ∅).trans len_empty)

@[simp] theorem len_mapValues (f : α → β → β) (m : Map α β) : (m.mapValues f).len = m.len :=
  List.length_map _

theorem len_retain_le (p : α → β → Bool) (m : Map α β) : (m.retain p).len ≤ m.len :=
  List.length_filter_le _ _

theorem nodup_keys (m : Map α β) : m.keys.Nodup := by
  have hkeys : m.keys = AList.keys m := by
    rw [keys, toList, List.map_map]
    rfl
  rw [hkeys]
  exact AList.keys_nodup m

variable [DecidableEq α]

/-- The value of a key. -/
def lookup (m : Map α β) (a : α) : Option β := AList.lookup a m

def insert (m : Map α β) (a : α) (b : β) : Map α β := AList.insert a b m

def erase (m : Map α β) (a : α) : Map α β := AList.erase a m

def entriesIn (hash : KeyOrder α) (m : Map α β) : List (α × β) :=
  (hash.order m.keys).filterMap fun a => (m.lookup a).map fun b => (a, b)

/-! ### Looking up -/

theorem mem_toList {m : Map α β} {a : α} {b : β} : (a, b) ∈ m.toList ↔ m.lookup a = some b := by
  have hentry : m.lookup a = some b ↔ (⟨a, b⟩ : Sigma fun _ : α => β) ∈ AList.entries m :=
    AList.mem_lookup_iff
  rw [hentry, toList, List.mem_map]
  constructor
  · rintro ⟨⟨_, _⟩, hmem, heq⟩
    cases heq
    exact hmem
  · intro hmem
    exact ⟨⟨a, b⟩, hmem, rfl⟩

theorem mem_inOrder {γ : Type} [LE γ] [DecidableLE γ] {rank : α → γ} {m : Map α β} {a : α} {b : β} :
    (a, b) ∈ m.inOrder rank ↔ m.lookup a = some b := by
  rw [inOrder, List.mem_mergeSort, mem_toList]

theorem mem_values {m : Map α β} {b : β} : b ∈ m.values ↔ ∃ a, m.lookup a = some b := by
  rw [values, List.mem_map]
  constructor
  · rintro ⟨⟨a, _⟩, hmem, rfl⟩
    exact ⟨a, mem_toList.1 hmem⟩
  · rintro ⟨a, ha⟩
    exact ⟨(a, b), mem_toList.2 ha, rfl⟩

theorem mem_keys {m : Map α β} {a : α} : a ∈ m.keys ↔ ∃ b, m.lookup a = some b := by
  rw [keys, List.mem_map]
  constructor
  · rintro ⟨⟨_, b⟩, hmem, rfl⟩
    exact ⟨b, mem_toList.1 hmem⟩
  · rintro ⟨b, hb⟩
    exact ⟨(a, b), mem_toList.2 hb, rfl⟩

theorem mem_entriesIn {hash : KeyOrder α} {m : Map α β} {a : α} {b : β} :
    (a, b) ∈ m.entriesIn hash ↔ m.lookup a = some b := by
  rw [entriesIn, List.mem_filterMap]
  constructor
  · rintro ⟨_, -, h⟩
    obtain ⟨_, hlookup, heq⟩ := Option.map_eq_some_iff.1 h
    cases heq
    exact hlookup
  · intro h
    exact ⟨a, (hash.perm _).mem_iff.2 (mem_keys.2 ⟨b, h⟩), by rw [h]; rfl⟩

theorem nodup_entriesIn (hash : KeyOrder α) (m : Map α β) :
    ((m.entriesIn hash).map Prod.fst).Nodup := by
  have hnodup : (hash.order m.keys).Nodup := (hash.perm _).nodup_iff.2 (nodup_keys m)
  have hkeys : (m.entriesIn hash).map Prod.fst
      = (hash.order m.keys).filter fun a => (m.lookup a).isSome := by
    rw [entriesIn]
    induction hash.order m.keys with
    | nil => rfl
    | cons a keys ih =>
      cases h : m.lookup a with
      | none | some => simp [h, ih]
  rw [hkeys]
  exact hnodup.filter _

/-- The values of a function on the keys are distinct if the function tells the keys apart. -/
theorem nodup_map_inOrder {γ δ : Type} [LE γ] [DecidableLE γ] {rank : α → γ} (f : α → δ)
    {m : Map α β} :
    ((m.inOrder rank).map fun entry => f entry.1).Nodup ↔
      ∀ a b a' b', m.lookup a = some b → m.lookup a' = some b' → f a = f a' → a = a' := by
  have hperm : ((m.inOrder rank).map fun entry => f entry.1).Perm (m.keys.map f) := by
    rw [keys, List.map_map]
    exact (List.mergeSort_perm _ _).map _
  rw [hperm.nodup_iff, List.nodup_map_iff_inj_on (nodup_keys m)]
  constructor
  · intro h a b a' b' ha ha'
    exact h a (mem_keys.2 ⟨b, ha⟩) a' (mem_keys.2 ⟨b', ha'⟩)
  · intro h a ha a' ha'
    obtain ⟨b, hb⟩ := mem_keys.1 ha
    obtain ⟨b', hb'⟩ := mem_keys.1 ha'
    exact h a b a' b' hb hb'

@[simp] theorem lookup_empty (a : α) : (∅ : Map α β).lookup a = none := rfl

theorem lookup_insert (m : Map α β) (a a' : α) (b : β) :
    (m.insert a b).lookup a' = if a' = a then some b else m.lookup a' := by
  by_cases h : a' = a
  · subst h
    rw [if_pos rfl]
    exact AList.lookup_insert m
  · rw [if_neg h]
    exact AList.lookup_insert_ne h

@[simp] theorem lookup_insert_self (m : Map α β) (a : α) (b : β) :
    (m.insert a b).lookup a = some b := by
  rw [lookup_insert, if_pos rfl]

theorem lookup_insert_ne {m : Map α β} {a a' : α} (h : a' ≠ a) (b : β) :
    (m.insert a b).lookup a' = m.lookup a' := by
  rw [lookup_insert, if_neg h]

theorem eq_of_lookup_insert_empty {a a' : α} {b b' : β}
    (h : ((∅ : Map α β).insert a b).lookup a' = some b') : a' = a := by
  rw [lookup_insert] at h
  split at h
  · assumption
  · cases h

theorem isSome_lookup_insert {m : Map α β} {a' : α} (h : (m.lookup a').isSome) (a : α) (b : β) :
    ((m.insert a b).lookup a').isSome := by
  rw [lookup_insert]
  split
  · rfl
  · exact h

theorem lookup_erase (m : Map α β) (a a' : α) :
    (m.erase a).lookup a' = if a' = a then none else m.lookup a' := by
  by_cases h : a' = a
  · subst h
    rw [if_pos rfl]
    exact AList.lookup_erase a' m
  · rw [if_neg h]
    exact AList.lookup_erase_ne h

theorem lookup_retain (p : α → β → Bool) (m : Map α β) (a : α) :
    (m.retain p).lookup a = (m.lookup a).filter (p a) := by
  apply Option.ext
  intro _
  rw [← mem_toList, Option.filter_eq_some_iff, ← mem_toList]
  simp only [toList, retain, List.mem_map, List.mem_filter, Prod.mk.injEq]
  constructor
  · rintro ⟨e, ⟨hmem, hp⟩, rfl, rfl⟩
    exact ⟨⟨e, hmem, rfl, rfl⟩, hp⟩
  · rintro ⟨⟨e, hmem, rfl, rfl⟩, hp⟩
    exact ⟨e, ⟨hmem, hp⟩, rfl, rfl⟩

theorem lookup_mapValues (f : α → β → β) (m : Map α β) (a : α) :
    (m.mapValues f).lookup a = (m.lookup a).map (f a) := by
  apply Option.ext
  intro _
  rw [← mem_toList, Option.map_eq_some_iff]
  simp only [toList, mapValues, List.map_map, List.mem_map, Function.comp, Prod.mk.injEq]
  constructor
  · rintro ⟨e, hmem, rfl, rfl⟩
    exact ⟨e.2, mem_toList.1 (List.mem_map.2 ⟨e, hmem, rfl⟩), rfl⟩
  · rintro ⟨_, hlookup, rfl⟩
    obtain ⟨e, hmem, heq⟩ := List.mem_map.1 (mem_toList.2 hlookup)
    cases heq
    exact ⟨e, hmem, rfl, rfl⟩

/-! ### Counting -/

theorem len_insert_of_none {m : Map α β} {a : α} (h : m.lookup a = none) (b : β) :
    (m.insert a b).len = m.len + 1 := by
  rw [len, insert, AList.entries_insert_of_notMem (AList.lookup_eq_none.1 h)]
  rfl

theorem len_insert_of_some {m : Map α β} {a : α} {b : β} (h : m.lookup a = some b) (b' : β) :
    (m.insert a b').len = m.len := by
  have hmem : a ∈ AList.keys m :=
    AList.mem_keys.1 (AList.lookup_isSome.1 (Option.isSome_of_eq_some h))
  have hkeys : (m.insert a b').len = (a :: (AList.keys m).erase a).length := by
    rw [← AList.keys_insert m, AList.keys, List.keys, List.length_map]
    rfl
  have hlen : (AList.keys m).length = m.len := List.length_map _
  have hpos : 0 < (AList.keys m).length := List.length_pos_of_mem hmem
  rw [hkeys, List.length_cons, List.length_erase_of_mem hmem]
  omega

theorem len_erase_of_some {m : Map α β} {a : α} {b : β} (h : m.lookup a = some b) :
    (m.erase a).len + 1 = m.len := by
  have hmem : a ∈ AList.keys m :=
    AList.mem_keys.1 (AList.lookup_isSome.1 (Option.isSome_of_eq_some h))
  have hlen : (AList.keys m).length = m.len := List.length_map _
  have hleft : (AList.keys (AList.erase a m)).length = (m.erase a).len := List.length_map _
  have hkeys := congrArg List.length (AList.keys_erase a m)
  have hpos : 0 < (AList.keys m).length := List.length_pos_of_mem hmem
  rw [List.length_erase_of_mem hmem] at hkeys
  omega

theorem len_insert_le (m : Map α β) (a : α) (b : β) : (m.insert a b).len ≤ m.len + 1 := by
  cases h : m.lookup a with
  | none => rw [len_insert_of_none h]
  | some =>
    rw [len_insert_of_some h]
    omega

end Map
