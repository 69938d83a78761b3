/-
**Validated identifiers and codes.**

Every identifier of the dashboard is a text without surrounding blanks, not empty and of at most
256 bytes; every code is a short text over a small alphabet. Both types carry the proof, so that a
value that is not valid cannot be built.

Main definitions:

* `Dashboard.ValidatedId`, `Dashboard.ValidatedId.parse` — identifiers, of one kind for each use.

Main results:

* `Dashboard.ValidatedId.parse_text` — the text of an identifier parses to the identifier.
-/

import Mathlib.Data.List.DropRight
import Mathlib.Data.Nat.Init
import Mathlib.Tactic.Common

namespace Dashboard

structure ValidationError where
  code : String
  path : String
  index : Option ℕ
  deriving DecidableEq, Repr

def ValidationError.at (code path : String) : ValidationError := ⟨code, path, none⟩

def ValidationError.atIndex (code path : String) (index : ℕ) : ValidationError :=
  ⟨code, path, some index⟩

def ValidationError.display (error : ValidationError) : String :=
  match error.index with
  | some index => error.code ++ " at " ++ error.path ++ "[" ++ Nat.repr index ++ "]"
  | none => error.code ++ " at " ++ error.path

/-! ### Trimming -/

def isWhiteSpace (c : Char) : Bool :=
  let n := c.toNat
  (0x09 ≤ n ∧ n ≤ 0x0D) ∨ n = 0x20 ∨ n = 0x85 ∨ n = 0xA0 ∨ n = 0x1680 ∨ (0x2000 ≤ n ∧ n ≤ 0x200A)
    ∨ n = 0x2028 ∨ n = 0x2029 ∨ n = 0x202F ∨ n = 0x205F ∨ n = 0x3000

def trimChars (cs : List Char) : List Char := (cs.dropWhile isWhiteSpace).rdropWhile isWhiteSpace

def trim (s : String) : String := String.ofList (trimChars s.toList)

def toAsciiLowercase (value : String) : String := String.ofList (value.toList.map Char.toLower)

theorem dropWhile_trimChars (cs : List Char) :
    (trimChars cs).dropWhile isWhiteSpace = trimChars cs := by
  rw [List.dropWhile_eq_self_iff]
  intro hpos
  obtain ⟨_, htail⟩ : trimChars cs <+: cs.dropWhile isWhiteSpace := List.rdropWhile_prefix _ _
  have hlong : 0 < (cs.dropWhile isWhiteSpace).length := by
    rw [← htail, List.length_append]
    omega
  have hhead : (trimChars cs)[0] = (cs.dropWhile isWhiteSpace)[0] := by
    rw [List.getElem_of_eq htail.symm hlong, List.getElem_append_left hpos]
  rw [hhead]
  exact (List.dropWhile_eq_self_iff.1 (List.dropWhile_idempotent _ _)) hlong

@[simp] theorem trimChars_trimChars (cs : List Char) : trimChars (trimChars cs) = trimChars cs := by
  have h := dropWhile_trimChars cs
  rw [trimChars, h]
  exact List.rdropWhile_idempotent _ _

@[simp] theorem trim_trim (s : String) : trim (trim s) = trim s := by
  simp [trim]

theorem utf8ByteSize_trim_le (s : String) : (trim s).utf8ByteSize ≤ s.utf8ByteSize := by
  obtain ⟨tail, htail⟩ : trimChars s.toList <+: s.toList.dropWhile isWhiteSpace :=
    List.rdropWhile_prefix _ _
  have hsplit : s = String.ofList (s.toList.takeWhile isWhiteSpace)
      ++ (trim s ++ String.ofList tail) := by
    rw [trim, ← String.ofList_append, ← String.ofList_append, htail, List.takeWhile_append_dropWhile,
      String.ofList_toList]
  have hsize := congrArg String.utf8ByteSize hsplit
  rw [String.utf8ByteSize_append, String.utf8ByteSize_append] at hsize
  omega

/-! ### Identifiers -/

inductive IdKind
  | host
  | device
  | activity
  | principal
  | rule
  | operation
  | approval
  | subscriber
  | lease
  deriving DecidableEq, Repr

def maxIdBytes : ℕ := 256

structure IdText (s : String) : Prop where
  size_le : s.utf8ByteSize ≤ maxIdBytes
  trimmed : trim s = s
  ne_empty : s ≠ ""

instance (s : String) : Decidable (IdText s) :=
  decidable_of_iff (s.utf8ByteSize ≤ maxIdBytes ∧ trim s = s ∧ s ≠ "")
    ⟨fun ⟨h₁, h₂, h₃⟩ => ⟨h₁, h₂, h₃⟩, fun h => ⟨h.size_le, h.trimmed, h.ne_empty⟩⟩

@[ext]
structure ValidatedId (kind : IdKind) where
  text : String
  valid : IdText text
  deriving DecidableEq

instance {kind : IdKind} : LawfulBEq (ValidatedId kind) := inferInstance

abbrev HostId : Type := ValidatedId .host
abbrev DeviceId : Type := ValidatedId .device
abbrev ActivityId : Type := ValidatedId .activity
abbrev PrincipalId : Type := ValidatedId .principal
abbrev RuleId : Type := ValidatedId .rule
abbrev OperationId : Type := ValidatedId .operation
abbrev ApprovalId : Type := ValidatedId .approval
abbrev SubscriberId : Type := ValidatedId .subscriber
abbrev LeaseId : Type := ValidatedId .lease

def ValidatedId.parse {kind : IdKind} (value : String) : Except ValidationError (ValidatedId kind) :=
  if hsize : value.utf8ByteSize ≤ maxIdBytes then
    if hne : trim value = "" then
      .error (.at "empty_id" "id")
    else
      .ok ⟨trim value, Nat.le_trans (utf8ByteSize_trim_le value) hsize, trim_trim value, hne⟩
  else
    .error (.at "id_too_long" "id")

@[simp] theorem ValidatedId.parse_text {kind : IdKind} (id : ValidatedId kind) :
    parse id.text = .ok id := by
  have hne : ¬trim id.text = "" := by
    rw [id.valid.trimmed]
    exact id.valid.ne_empty
  rw [parse, dif_pos id.valid.size_le, dif_neg hne]
  exact congrArg Except.ok (ValidatedId.ext id.valid.trimmed)

theorem utf8ByteSize_ofList_le (cs : List Char) :
    (String.ofList cs).utf8ByteSize ≤ 4 * cs.length := by
  induction cs with
  | nil => exact Nat.le_refl 0
  | cons c =>
    have hone : (String.ofList [c]).utf8ByteSize = c.utf8Size := by
      rw [← String.singleton_eq_ofList, String.utf8ByteSize_singleton]
    have hle : c.utf8Size ≤ 4 := Char.utf8Size_le_four c
    rw [← List.singleton_append, String.ofList_append, String.utf8ByteSize_append, hone,
      List.length_append, List.length_singleton]
    omega

theorem idText_ofList {cs : List Char} (hne : cs ≠ []) (hlen : cs.length ≤ 64)
    (hchars : ∀ c ∈ cs, isWhiteSpace c = false) : IdText (String.ofList cs) := by
  have hsize := utf8ByteSize_ofList_le cs
  have hfront : cs.dropWhile isWhiteSpace = cs := by
    rw [List.dropWhile_eq_self_iff]
    intro hpos
    rw [hchars _ (List.getElem_mem hpos)]
    exact Bool.false_ne_true
  have hback : cs.rdropWhile isWhiteSpace = cs := by
    rw [List.rdropWhile_eq_self_iff]
    intro h
    rw [hchars _ (List.getLast_mem h)]
    exact Bool.false_ne_true
  refine ⟨?_, ?_, ?_⟩
  · change _ ≤ 256
    omega
  · rw [trim, String.toList_ofList, trimChars, hfront, hback]
  · intro hempty
    apply hne
    rw [← String.toList_ofList (l := cs), hempty]
    rfl

/-! ### Codes -/

def isCodeChar (c : Char) : Bool := c.isLower || c.isDigit || c = '_' || c = '.' || c = '-'

structure CodeText (s : String) : Prop where
  ne_empty : s ≠ ""
  size_le : s.utf8ByteSize ≤ 128
  chars : s.toList.all isCodeChar = true

instance (s : String) : Decidable (CodeText s) :=
  decidable_of_iff (s ≠ "" ∧ s.utf8ByteSize ≤ 128 ∧ s.toList.all isCodeChar = true)
    ⟨fun ⟨h₁, h₂, h₃⟩ => ⟨h₁, h₂, h₃⟩, fun h => ⟨h.ne_empty, h.size_le, h.chars⟩⟩

@[ext]
structure SafeCode where
  text : String
  valid : CodeText text
  deriving DecidableEq

def SafeCode.parse (value : String) : Except ValidationError SafeCode :=
  if hne : value = "" then
    .error (.at "empty_code" "code")
  else if hsize : value.utf8ByteSize ≤ 128 then
    if hchars : value.toList.all isCodeChar = true then
      .ok ⟨value, hne, hsize, hchars⟩
    else
      .error (.at "invalid_code" "code")
  else
    .error (.at "code_too_long" "code")

@[simp] theorem SafeCode.parse_text (code : SafeCode) : parse code.text = .ok code := by
  rw [parse, dif_neg code.valid.ne_empty, dif_pos code.valid.size_le, dif_pos code.valid.chars]

/-! ### Capabilities -/

def capabilityParts (value : String) : String × Option String :=
  match value.toList.span (· ≠ '@') with
  | (name, []) => (String.ofList name, none)
  | (name, _ :: version) => (String.ofList name, some (String.ofList version))

def VersionText (version : String) : Prop :=
  version ≠ "" ∧ version.toList.head? ≠ some '0' ∧ version.toList.all Char.isDigit = true

instance (version : String) : Decidable (VersionText version) :=
  inferInstanceAs (Decidable (_ ∧ _ ∧ _))

structure CapabilityText (s : String) : Prop where
  size_le : s.utf8ByteSize ≤ 128
  version : ∀ version ∈ (capabilityParts s).2, VersionText version
  name : ∃ code, SafeCode.parse (capabilityParts s).1 = .ok code

@[ext]
structure CapabilityCode where
  text : String
  valid : CapabilityText text
  deriving DecidableEq

def CapabilityCode.parse (value : String) : Except ValidationError CapabilityCode :=
  if hsize : value.utf8ByteSize ≤ 128 then
    if hversion : ∀ version ∈ (capabilityParts value).2, VersionText version then
      match hname : SafeCode.parse (capabilityParts value).1 with
      | .error error => .error error
      | .ok code => .ok ⟨value, hsize, hversion, code, hname⟩
    else
      .error (.at "invalid_capability_version" "capability")
  else
    .error (.at "code_too_long" "capability")

end Dashboard
