/-
**Values with a JSON form.**

A type with a codec has a JSON form for each of its values and reads it back. Enumerations are
written as the names of their values, structures as objects with their fields in order; the reader of
a structure rejects fields it does not know and fields that occur twice.

Main definitions:

* `JsonCodec` — a type whose values have a JSON form.
-/

import DeviceLane.Library.Json
import Mathlib.Logic.Function.Basic

/-- A JSON form of the values of a type. No value is written as `null`, which is left to absent
values. -/
class JsonCodec (α : Type) where
  toJson : α → Json
  fromJson : Json → Option α
  fromJson_toJson : ∀ a, fromJson (toJson a) = some a
  toJson_ne_null : ∀ a, toJson a ≠ .null

attribute [simp] JsonCodec.fromJson_toJson

/-- An enumeration, with the name each of its values is written as. -/
class JsonName (α : Type) where
  all : List α
  name : α → String
  mem_all : ∀ a, a ∈ all
  name_injective : Function.Injective name

namespace JsonCodec

variable {α : Type}

instance : JsonCodec ℕ where
  toJson := .num
  fromJson
    | .num n => some n
    | _ => none
  fromJson_toJson _ := rfl
  toJson_ne_null _ := nofun

instance : JsonCodec String where
  toJson := .str
  fromJson
    | .str s => some s
    | _ => none
  fromJson_toJson _ := rfl
  toJson_ne_null _ := nofun

instance : JsonCodec Bool where
  toJson := .bool
  fromJson
    | .bool b => some b
    | _ => none
  fromJson_toJson _ := rfl
  toJson_ne_null _ := nofun

def ofName [JsonName α] (s : String) : Option α :=
  (JsonName.all (α := α)).find? fun a => JsonName.name a = s

@[simp] theorem ofName_name [JsonName α] (a : α) : ofName (JsonName.name a) = some a := by
  cases h : ofName (α := α) (JsonName.name a) with
  | none =>
    have hnone := List.find?_eq_none.1 h a (JsonName.mem_all a)
    simp at hnone
  | some =>
    have hb := List.find?_some h
    rw [JsonName.name_injective (of_decide_eq_true hb)]

instance [JsonName α] : JsonCodec α where
  toJson a := .str (JsonName.name a)
  fromJson
    | .str s => ofName s
    | _ => none
  fromJson_toJson a := ofName_name a
  toJson_ne_null _ := nofun

theorem mapM_fromJson_toJson [JsonCodec α] (l : List α) :
    (l.map toJson).mapM (@fromJson α _) = some l := by
  induction l with
  | nil => rfl
  | cons a l ih => simp [ih]

instance [JsonCodec α] : JsonCodec (List α) where
  toJson l := .arr (l.map toJson)
  fromJson
    | .arr items => items.mapM fromJson
    | _ => none
  fromJson_toJson := mapM_fromJson_toJson
  toJson_ne_null _ := nofun

def optionToJson [JsonCodec α] : Option α → Json
  | none => .null
  | some a => toJson a

theorem toJson_injective [JsonCodec α] : Function.Injective (@toJson α _) := by
  intro _ _ h
  have := congrArg (@fromJson α _) h
  rwa [fromJson_toJson, fromJson_toJson, Option.some_inj] at this

theorem optionToJson_injective [JsonCodec α] : Function.Injective (@optionToJson α _) := by
  intro a b h
  cases a with
  | none =>
    cases b with
    | none => rfl
    | some b => exact absurd h.symm (toJson_ne_null b)
  | some a =>
    cases b with
    | none => exact absurd h (toJson_ne_null a)
    | some => exact congrArg some (toJson_injective h)

end JsonCodec

namespace Json

open JsonCodec

variable {α : Type}

def fieldsOf (known : List String) : Json → Option (List (String × Json))
  | .obj fields =>
    if (fields.all fun field => known.contains field.1) ∧ (fields.map Prod.fst).Nodup then
      some fields
    else
      none
  | _ => none

def required [JsonCodec α] (fields : List (String × Json)) (key : String) : Option α := do
  let j ← fields.lookup key
  fromJson j

def optional [JsonCodec α] (fields : List (String × Json)) (key : String) : Option (Option α) :=
  match fields.lookup key with
  | none => some none
  | some .null => some none
  | some j => (fromJson j).map some

theorem bind_of_eq_some {β : Type} {x : Option α} {a : α} {f : α → Option β} {b : Option β}
    (hx : x = some a) (hf : f a = b) : (x >>= f) = b := by
  rw [hx]
  exact hf

theorem required_of_lookup [JsonCodec α] {fields : List (String × Json)} {key : String} {a : α}
    (h : fields.lookup key = some (toJson a)) : required fields key = some a := by
  rw [required, h]
  exact fromJson_toJson a

theorem optional_of_lookup [JsonCodec α] {fields : List (String × Json)} {key : String}
    {a : Option α} (h : fields.lookup key = some (optionToJson a)) :
    optional fields key = some a := by
  rw [optional, h]
  cases a with
  | none => rfl
  | some a =>
    change (match some (toJson a) with
      | none => _
      | some .null => _
      | some j => _) = _
    split
    · rename_i hnone
      cases hnone
    · rename_i hnull
      exact absurd (Option.some_inj.1 hnull) (toJson_ne_null a)
    · rename_i j _ hj
      cases hj
      rw [fromJson_toJson]
      rfl

end Json
