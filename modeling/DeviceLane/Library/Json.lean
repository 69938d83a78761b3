/-
**JSON texts.**

Values, the compact text of a value, and a reader of texts. The compact text has no blanks, writes
natural numbers in decimal, and escapes in strings the quotation mark, the backslash and the control
characters. The reader accepts blanks between tokens and all escapes, and is limited by fuel.

Main definitions:

* `Json` — values, with objects as lists of fields in the order of the text.

Main results:

* `Json.fromSlice_toVec` — **the compact text of a value is read back as the value**.
-/

import DeviceLane.Library.Endian
import Mathlib.Tactic.SplitIfs

inductive Json
  | null
  | bool (b : Bool)
  | num (n : ℕ)
  | str (s : String)
  | arr (items : List Json)
  | obj (fields : List (String × Json))

namespace Json

open Endian

variable {c : Char} {rest cs tail mid : List Char} {fuel : ℕ}

/-! ### The compact text -/

def escape (c : Char) : List Char :=
  if c = '"' then ['\\', '"']
  else if c = '\\' then ['\\', '\\']
  else if c = '\x08' then ['\\', 'b']
  else if c = '\x0c' then ['\\', 'f']
  else if c = '\n' then ['\\', 'n']
  else if c = '\r' then ['\\', 'r']
  else if c = '\t' then ['\\', 't']
  else if c.toNat < 0x20 then
    ['\\', 'u', '0', '0', (c.toNat / 16).digitChar, (c.toNat % 16).digitChar]
  else [c]

def quote (s : String) : List Char := '"' :: (s.toList.flatMap escape ++ ['"'])

mutual

def chars : Json → List Char
  | .null => ['n', 'u', 'l', 'l']
  | .bool true => ['t', 'r', 'u', 'e']
  | .bool false => ['f', 'a', 'l', 's', 'e']
  | .num n => Nat.toDigits 10 n
  | .str s => quote s
  | .arr [] => ['[', ']']
  | .arr (item :: items) => '[' :: (chars item ++ (charsItems items ++ [']']))
  | .obj [] => ['{', '}']
  | .obj ((key, value) :: fields) =>
    '{' :: (quote key ++ ':' :: (chars value ++ (charsFields fields ++ ['}'])))

def charsItems : List Json → List Char
  | [] => []
  | item :: items => ',' :: (chars item ++ charsItems items)

def charsFields : List (String × Json) → List Char
  | [] => []
  | (key, value) :: fields => ',' :: (quote key ++ ':' :: (chars value ++ charsFields fields))

end

/-- The bytes of the compact text. -/
def toVec (j : Json) : List UInt8 := textBytes (String.ofList j.chars)

/-! ### The reader -/

def isSpace (c : Char) : Bool := c = ' ' ∨ c = '\n' ∨ c = '\t' ∨ c = '\r'

def skipSpace (cs : List Char) : List Char := cs.dropWhile isSpace

def hexValue (c : Char) : Option ℕ :=
  if c.isDigit then some (c.toNat - '0'.toNat)
  else if 'a' ≤ c ∧ c ≤ 'f' then some (c.toNat - 'a'.toNat + 10)
  else if 'A' ≤ c ∧ c ≤ 'F' then some (c.toNat - 'A'.toNat + 10)
  else none

def readHex : List Char → Option (ℕ × List Char)
  | a :: b :: c :: d :: rest => do
      let a ← hexValue a
      let b ← hexValue b
      let c ← hexValue c
      let d ← hexValue d
      some (((a * 16 + b) * 16 + c) * 16 + d, rest)
  | _ => none

/-- What follows a backslash and a `u`: one code point, or a pair of surrogates. -/
def readUnicode (cs : List Char) : Option (Char × List Char) := do
  let (high, rest) ← readHex cs
  if 0xD800 ≤ high ∧ high ≤ 0xDBFF then
    match rest with
    | '\\' :: 'u' :: rest =>
      let (low, rest) ← readHex rest
      if 0xDC00 ≤ low ∧ low ≤ 0xDFFF then
        some (Char.ofNat (0x10000 + (high - 0xD800) * 0x400 + (low - 0xDC00)), rest)
      else
        none
    | _ => none
  else if 0xDC00 ≤ high ∧ high ≤ 0xDFFF then
    none
  else
    some (Char.ofNat high, rest)

def readEscape : List Char → Option (Char × List Char)
  | '"' :: rest => some ('"', rest)
  | '\\' :: rest => some ('\\', rest)
  | '/' :: rest => some ('/', rest)
  | 'b' :: rest => some ('\x08', rest)
  | 'f' :: rest => some ('\x0c', rest)
  | 'n' :: rest => some ('\n', rest)
  | 'r' :: rest => some ('\r', rest)
  | 't' :: rest => some ('\t', rest)
  | 'u' :: rest => readUnicode rest
  | _ => none

def readString : ℕ → List Char → Option (List Char × List Char)
  | 0, _ => none
  | _ + 1, [] => none
  | fuel + 1, c :: rest =>
    if c = '"' then
      some ([], rest)
    else if c = '\\' then do
      let (c, rest) ← readEscape rest
      let (cs, rest) ← readString fuel rest
      some (c :: cs, rest)
    else if c.toNat < 0x20 then
      none
    else do
      let (cs, rest) ← readString fuel rest
      some (c :: cs, rest)

def readNum (cs : List Char) : Option (Json × List Char) :=
  match cs.takeWhile Char.isDigit with
  | [] => none
  | ['0'] => some (.num 0, cs.dropWhile Char.isDigit)
  | '0' :: _ => none
  | digits => some (.num (Nat.ofDigitChars 10 digits 0), cs.dropWhile Char.isDigit)

def readWord (word : List Char) (j : Json) (rest : List Char) : Option (Json × List Char) :=
  if word.isPrefixOf rest then some (j, rest.drop word.length) else none

mutual

def readValue : ℕ → List Char → Option (Json × List Char)
  | 0, _ => none
  | fuel + 1, cs =>
    match skipSpace cs with
    | [] => none
    | c :: rest =>
      if c = 'n' then readWord ['u', 'l', 'l'] .null rest
      else if c = 't' then readWord ['r', 'u', 'e'] (.bool true) rest
      else if c = 'f' then readWord ['a', 'l', 's', 'e'] (.bool false) rest
      else if c = '"' then do
        let (s, rest) ← readString fuel rest
        some (.str (String.ofList s), rest)
      else if c = '[' then
        if (skipSpace rest).head? = some ']' then
          some (.arr [], (skipSpace rest).tail)
        else do
          let (item, rest) ← readValue fuel rest
          let (items, rest) ← readItems fuel rest
          some (.arr (item :: items), rest)
      else if c = '\x7b' then
        if (skipSpace rest).head? = some '\x7d' then
          some (.obj [], (skipSpace rest).tail)
        else do
          let (field, rest) ← readField fuel rest
          let (fields, rest) ← readFields fuel rest
          some (.obj (field :: fields), rest)
      else
        readNum (c :: rest)

def readItems : ℕ → List Char → Option (List Json × List Char)
  | 0, _ => none
  | fuel + 1, cs =>
    match skipSpace cs with
    | [] => none
    | c :: rest =>
      if c = ']' then
        some ([], rest)
      else if c = ',' then do
        let (item, rest) ← readValue fuel rest
        let (items, rest) ← readItems fuel rest
        some (item :: items, rest)
      else
        none

def readField : ℕ → List Char → Option ((String × Json) × List Char)
  | 0, _ => none
  | fuel + 1, cs =>
    match skipSpace cs with
    | [] => none
    | c :: rest =>
      if c = '"' then do
        let (key, rest) ← readString fuel rest
        if (skipSpace rest).head? = some ':' then
          let (value, rest) ← readValue fuel (skipSpace rest).tail
          some ((String.ofList key, value), rest)
        else
          none
      else
        none

def readFields : ℕ → List Char → Option (List (String × Json) × List Char)
  | 0, _ => none
  | fuel + 1, cs =>
    match skipSpace cs with
    | [] => none
    | c :: rest =>
      if c = '\x7d' then
        some ([], rest)
      else if c = ',' then do
        let (field, rest) ← readField fuel rest
        let (fields, rest) ← readFields fuel rest
        some (field :: fields, rest)
      else
        none

end

def parse (cs : List Char) : Option Json := do
  let (j, rest) ← readValue (cs.length + 1) cs
  if skipSpace rest = [] then
    some j
  else
    none

def fromSlice (bytes : List UInt8) : Option Json := do
  let s ← ofTextBytes bytes
  parse s.toList

/-! ### Reading back the compact text -/

theorem hexValue_digitChar {d : ℕ} (h : d < 16) : hexValue d.digitChar = some d := by
  have hall : ∀ d : Fin 16, hexValue d.val.digitChar = some d.val := by decide
  exact hall ⟨d, h⟩

theorem readUnicode_control (h : c.toNat < 0x20) :
    readUnicode ('0' :: '0' :: (c.toNat / 16).digitChar :: (c.toNat % 16).digitChar :: rest)
      = some (c, rest) := by
  have hzero : hexValue '0' = some 0 := by decide
  have hhigh := hexValue_digitChar (show c.toNat / 16 < 16 by omega)
  have hlow := hexValue_digitChar (show c.toNat % 16 < 16 by omega)
  have hvalue : ((0 * 16 + 0) * 16 + c.toNat / 16) * 16 + c.toNat % 16 = c.toNat := by omega
  have hhex : readHex
      ('0' :: '0' :: (c.toNat / 16).digitChar :: (c.toNat % 16).digitChar :: rest)
        = some (c.toNat, rest) := by
    rw [readHex, hzero, hhigh, hlow]
    simp only [Option.bind_eq_bind, Option.bind_some, hvalue]
  rw [readUnicode, hhex]
  simp only [Option.bind_eq_bind, Option.bind_some]
  rw [if_neg (by omega), if_neg (by omega), Char.ofNat_toNat]

theorem readString_escape {after : List Char} (h : readString fuel rest = some (cs, after)) :
    readString (fuel + 1) (escape c ++ rest) = some (c :: cs, after) := by
  have hescape : ∀ e tail, readEscape (e :: tail) = some (c, rest) →
      readString (fuel + 1) ('\\' :: e :: tail) = some (c :: cs, after) := by
    intro e tail he
    rw [readString, if_neg (by decide), if_pos rfl, he]
    simp only [Option.bind_eq_bind, Option.bind_some, h]
  unfold escape
  split_ifs with h₁ h₂ h₃ h₄ h₅ h₆ h₇ h₈
  · exact hescape _ _ (by rw [h₁]; rfl)
  · exact hescape _ _ (by rw [h₂]; rfl)
  · exact hescape _ _ (by rw [h₃]; rfl)
  · exact hescape _ _ (by rw [h₄]; rfl)
  · exact hescape _ _ (by rw [h₅]; rfl)
  · exact hescape _ _ (by rw [h₆]; rfl)
  · exact hescape _ _ (by rw [h₇]; rfl)
  · exact hescape _ _ (readUnicode_control h₈)
  · rw [List.singleton_append, readString, if_neg h₁, if_neg h₂, if_neg h₈, h]
    rfl

theorem readString_flatMap (h : cs.length < fuel) :
    readString fuel (cs.flatMap escape ++ '"' :: rest) = some (cs, rest) := by
  induction cs generalizing fuel with
  | nil =>
    cases fuel with
    | zero => omega
    | succ => rw [List.flatMap_nil, List.nil_append, readString, if_pos rfl]
  | cons c cs ih =>
    cases fuel with
    | zero => omega
    | succ =>
      rw [List.flatMap_cons, List.append_assoc]
      exact readString_escape (ih (by simp only [List.length_cons] at h; omega))

def NoDigit (rest : List Char) : Prop := ∀ c tail, rest = c :: tail → c.isDigit = false

theorem takeWhile_isDigit {digits : List Char} (hd : ∀ c ∈ digits, c.isDigit = true)
    (hrest : NoDigit rest) : (digits ++ rest).takeWhile Char.isDigit = digits
      ∧ (digits ++ rest).dropWhile Char.isDigit = rest := by
  induction digits with
  | nil =>
    cases rest with
    | nil => simp
    | cons c tail => simp [hrest c tail rfl]
  | cons c digits ih =>
    have hc := hd c List.mem_cons_self
    have htail := ih (List.forall_mem_cons.1 hd).2
    simp [hc, htail]

theorem toDigits_head {n : ℕ} (h : Nat.toDigits 10 n = '0' :: tail) : n = 0 := by
  -- induction on the number, following its digits from the last to the first
  induction n using Nat.strong_induction_on generalizing tail with
  | _ n ih =>
    rw [Nat.toDigits_eq_if (by omega)] at h
    split at h
    · rename_i hlt
      have hall : ∀ d : Fin 10, d.val.digitChar = '0' → d.val = 0 := by decide
      exact hall ⟨n, hlt⟩ (List.cons.inj h).1
    · rename_i hge
      cases hdigits : Nat.toDigits 10 (n / 10) with
      | nil => exact absurd hdigits Nat.toDigits_ne_nil
      | cons =>
        rw [hdigits, List.cons_append] at h
        rw [(List.cons.inj h).1] at hdigits
        have := ih (n / 10) (by omega) hdigits
        omega

theorem readNum_toDigits {n : ℕ} (hrest : NoDigit rest) :
    readNum (Nat.toDigits 10 n ++ rest) = some (.num n, rest) := by
  have hdigits : ∀ c ∈ Nat.toDigits 10 n, c.isDigit = true :=
    fun c hc => Nat.isDigit_of_mem_toDigits (by omega) (by omega) hc
  obtain ⟨htake, hdrop⟩ := takeWhile_isDigit hdigits hrest
  have hvalue : Nat.ofDigitChars 10 (Nat.toDigits 10 n) 0 = n :=
    Nat.ofDigitChars_toDigits (by omega) (by omega)
  rw [readNum, htake, hdrop]
  split
  · rename_i hnil
    exact absurd hnil Nat.toDigits_ne_nil
  · rename_i hzero
    rw [toDigits_head hzero]
  · rename_i tail hne hzero
    have hn := toDigits_head hzero
    subst hn
    rw [Nat.toDigits_zero] at hzero
    cases hzero
    exact absurd rfl hne
  · rw [hvalue]

/-! ### Reading back a value -/

theorem noDigit_cons (h : c.isDigit = false) : NoDigit (c :: rest) := by
  intro _ _ heq
  cases heq
  exact h

theorem chars_head (j : Json) : ∃ c rest, j.chars = c :: rest ∧ isSpace c = false ∧ c ≠ ']'
    ∧ c ≠ '\x7d' := by
  cases j with
  | null => exact ⟨_, _, rfl, by decide⟩
  | bool b => cases b <;> exact ⟨_, _, rfl, by decide⟩
  | num n =>
    cases hd : Nat.toDigits 10 n with
    | nil => exact absurd hd Nat.toDigits_ne_nil
    | cons c cs =>
      have hc : c.isDigit = true :=
        Nat.isDigit_of_mem_toDigits (by omega : 0 < 10) (by omega) (hd ▸ List.mem_cons_self)
      refine ⟨c, cs, hd, ?_, ?_, ?_⟩
      · cases hs : isSpace c with
        | false => rfl
        | true =>
          have : c = ' ' ∨ c = '\n' ∨ c = '\t' ∨ c = '\r' := by
            simpa [isSpace] using hs
          rcases this with rfl | rfl | rfl | rfl <;> cases hc
      · rintro rfl
        cases hc
      · rintro rfl
        cases hc
  | str => exact ⟨_, _, rfl, by decide⟩
  | arr items => cases items <;> exact ⟨_, _, rfl, by decide⟩
  | obj fields =>
    cases fields with
    | nil | cons => exact ⟨_, _, rfl, by decide⟩

theorem skipSpace_cons (h : isSpace c = false) : skipSpace (c :: rest) = c :: rest := by
  rw [skipSpace, List.dropWhile_cons, h]
  rfl

theorem skipSpace_chars (j : Json) (rest : List Char) :
    skipSpace (j.chars ++ rest) = j.chars ++ rest := by
  obtain ⟨_, _, hc, hspace, -⟩ := chars_head j
  rw [hc, List.cons_append, skipSpace_cons hspace]

theorem length_le_flatMap_escape (cs : List Char) : cs.length ≤ (cs.flatMap escape).length := by
  induction cs with
  | nil => simp
  | cons c =>
    have hpos : 1 ≤ (escape c).length := by
      unfold escape
      split_ifs <;> simp
    rw [List.flatMap_cons, List.length_append, List.length_cons]
    omega

theorem readString_quote {s : String} {rest : List Char} {fuel : ℕ}
    (h : (quote s).length ≤ fuel) :
    readString fuel (s.toList.flatMap escape ++ ['"'] ++ rest) = some (s.toList, rest) := by
  have hlen := length_le_flatMap_escape s.toList
  rw [List.append_assoc]
  refine readString_flatMap ?_
  simp only [quote, List.length_cons, List.length_append, List.length_nil] at h
  omega

theorem readValue_digit (h : c.isDigit = true) :
    readValue (fuel + 1) (c :: cs) = readNum (c :: cs) := by
  have hne : ∀ d : Char, d.isDigit = false → c ≠ d := by
    rintro d hd rfl
    rw [h] at hd
    cases hd
  have hspace : isSpace c = false := by
    simp [isSpace, hne ' ' rfl, hne '\n' rfl, hne '\t' rfl, hne '\r' rfl]
  rw [readValue, skipSpace_cons hspace]
  dsimp only
  rw [if_neg (hne _ rfl), if_neg (hne _ rfl), if_neg (hne _ rfl), if_neg (hne _ rfl),
    if_neg (hne _ rfl), if_neg (hne _ rfl)]

theorem readValue_quote (cs : List Char) :
    readValue (fuel + 1) ('"' :: cs)
      = (readString fuel cs).bind fun r => some (.str (String.ofList r.1), r.2) := rfl

theorem readValue_arr {item : Json} {items : List Json}
    (hitem : readValue fuel (item.chars ++ tail) = some (item, mid))
    (hitems : readItems fuel mid = some (items, rest)) :
    readValue (fuel + 1) ('[' :: (item.chars ++ tail)) = some (.arr (item :: items), rest) := by
  obtain ⟨_, _, hc, _, hbracket, -⟩ := chars_head item
  have hopen : ¬(skipSpace (item.chars ++ tail)).head? = some ']' := by
    rw [skipSpace_chars, hc]
    simpa using hbracket
  rw [readValue, skipSpace_cons (by decide)]
  dsimp only
  rw [if_neg (by decide), if_neg (by decide), if_neg (by decide), if_neg (by decide), if_pos rfl,
    if_neg hopen, hitem]
  simp only [Option.bind_eq_bind, Option.bind_some, hitems]

theorem readValue_obj {key : String} {value : Json} {fields : List (String × Json)}
    (hfield : readField fuel (quote key ++ tail) = some ((key, value), mid))
    (hfields : readFields fuel mid = some (fields, rest)) :
    readValue (fuel + 1) ('\x7b' :: (quote key ++ tail))
      = some (.obj ((key, value) :: fields), rest) := by
  have hopen : ¬(skipSpace (quote key ++ tail)).head? = some '\x7d' := by
    rw [quote, List.cons_append, skipSpace_cons (by decide)]
    simp
  rw [readValue, skipSpace_cons (by decide)]
  dsimp only
  rw [if_neg (by decide), if_neg (by decide), if_neg (by decide), if_neg (by decide),
    if_neg (by decide), if_pos rfl, if_neg hopen, hfield]
  simp only [Option.bind_eq_bind, Option.bind_some, hfields]

theorem readField_chars {key : String} {value : Json} (hkey : (quote key).length ≤ fuel)
    (hvalue : readValue fuel (value.chars ++ rest) = some (value, rest)) :
    readField (fuel + 1) (quote key ++ ':' :: (value.chars ++ rest))
      = some ((key, value), rest) := by
  have hquote := @readString_quote key (':' :: (value.chars ++ rest)) fuel hkey
  rw [readField, quote, List.cons_append, skipSpace_cons (by decide)]
  dsimp only
  rw [if_pos rfl, hquote]
  simp only [Option.bind_eq_bind, Option.bind_some]
  rw [skipSpace_cons (by decide), List.head?_cons, if_pos rfl, List.tail_cons, hvalue]
  simp only [Option.bind_some, String.ofList_toList]

theorem noDigit_charsItems (items : List Json) (rest : List Char) :
    NoDigit (charsItems items ++ ']' :: rest) := by
  cases items with
  | nil | cons => exact noDigit_cons (by decide)

theorem noDigit_charsFields (fields : List (String × Json)) (rest : List Char) :
    NoDigit (charsFields fields ++ '\x7d' :: rest) := by
  cases fields with
  | nil | cons => exact noDigit_cons (by decide)

theorem readItems_cons {item : Json} {items : List Json}
    (hitem : readValue fuel tail = some (item, mid)) (hitems : readItems fuel mid = some (items, rest)) :
    readItems (fuel + 1) (',' :: tail) = some (item :: items, rest) := by
  rw [readItems, skipSpace_cons (by decide)]
  dsimp only
  rw [if_neg (by decide), if_pos rfl, hitem]
  simp only [Option.bind_eq_bind, Option.bind_some, hitems]

theorem readFields_cons {field : String × Json} {fields : List (String × Json)}
    (hfield : readField fuel tail = some (field, mid))
    (hfields : readFields fuel mid = some (fields, rest)) :
    readFields (fuel + 1) (',' :: tail) = some (field :: fields, rest) := by
  rw [readFields, skipSpace_cons (by decide)]
  dsimp only
  rw [if_neg (by decide), if_pos rfl, hfield]
  simp only [Option.bind_eq_bind, Option.bind_some, hfields]

mutual

/-- **A value is read back from its compact text.** -/
theorem readValue_chars : ∀ (j : Json) (fuel : ℕ) (rest : List Char), j.chars.length < fuel →
    NoDigit rest → readValue fuel (j.chars ++ rest) = some (j, rest)
  | _, 0, _, h, _ => by omega
  | .null, fuel + 1, rest, _, _ => rfl
  | .bool true, fuel + 1, rest, _, _ => rfl
  | .bool false, fuel + 1, rest, _, _ => rfl
  | .num n, fuel + 1, rest, _, hrest => by
      have hnum := readNum_toDigits (n := n) hrest
      rw [chars]
      cases hd : Nat.toDigits 10 n with
      | nil => exact absurd hd Nat.toDigits_ne_nil
      | cons c =>
        have hc : c.isDigit = true :=
          Nat.isDigit_of_mem_toDigits (by omega : 0 < 10) (by omega) (hd ▸ List.mem_cons_self)
        rw [hd] at hnum
        rw [List.cons_append, readValue_digit hc]
        exact hnum
  | .str s, fuel + 1, rest, h, _ => by
      rw [chars] at h
      rw [chars, quote, List.cons_append, readValue_quote, readString_quote (by omega)]
      simp only [Option.bind_some, String.ofList_toList]
  | .arr [], fuel + 1, rest, _, _ => rfl
  | .arr (item :: items), fuel + 1, rest, h, _ => by
      have happ : chars (.arr (item :: items)) ++ rest
          = '[' :: (item.chars ++ (charsItems items ++ ']' :: rest)) := by
        simp [chars]
      simp only [chars, List.length_cons, List.length_append, List.length_nil] at h
      rw [happ]
      exact readValue_arr
        (readValue_chars item fuel _ (by omega) (noDigit_charsItems items rest))
        (readItems_chars items fuel rest (by omega))
  | .obj [], fuel + 1, rest, _, _ => rfl
  | .obj ((key, value) :: fields), 1, rest, h, _ => by
      simp only [chars, List.length_cons, List.length_append, List.length_nil] at h
      omega
  | .obj ((key, value) :: fields), fuel + 2, rest, h, _ => by
      have happ : chars (.obj ((key, value) :: fields)) ++ rest
          = '\x7b' :: (quote key ++ (':' :: (value.chars ++ (charsFields fields ++ '\x7d' :: rest)))) := by
        simp [chars]
      simp only [chars, List.length_cons, List.length_append, List.length_nil] at h
      rw [happ]
      exact readValue_obj
        (readField_chars (by omega)
          (readValue_chars value fuel _ (by omega) (noDigit_charsFields fields rest)))
        (readFields_chars fields (fuel + 1) rest (by omega))

theorem readItems_chars : ∀ (items : List Json) (fuel : ℕ) (rest : List Char),
    (charsItems items).length < fuel →
      readItems fuel (charsItems items ++ ']' :: rest) = some (items, rest)
  | _, 0, _, h => by omega
  | [], fuel + 1, rest, _ => rfl
  | item :: items, fuel + 1, rest, h => by
      simp only [charsItems, List.length_cons, List.length_append] at h
      rw [charsItems, List.cons_append, List.append_assoc]
      have hitem : 0 < item.chars.length := by
        obtain ⟨_, _, hc, -⟩ := chars_head item
        rw [hc]
        simp
      exact readItems_cons
        (readValue_chars item fuel _ (by omega) (noDigit_charsItems items rest))
        (readItems_chars items fuel rest (by omega))

theorem readFields_chars : ∀ (fields : List (String × Json)) (fuel : ℕ) (rest : List Char),
    (charsFields fields).length < fuel →
      readFields fuel (charsFields fields ++ '\x7d' :: rest) = some (fields, rest)
  | _, 0, _, h => by omega
  | [], fuel + 1, rest, _ => rfl
  | (key, value) :: fields, 1, rest, h => by
      simp only [charsFields, List.length_cons, List.length_append] at h
      omega
  | (key, value) :: fields, fuel + 2, rest, h => by
      have happ : charsFields ((key, value) :: fields) ++ '\x7d' :: rest
          = ',' :: (quote key ++ (':' :: (value.chars ++ (charsFields fields ++ '\x7d' :: rest)))) := by
        simp [charsFields]
      simp only [charsFields, List.length_cons, List.length_append] at h
      rw [happ]
      exact readFields_cons
        (readField_chars (by omega)
          (readValue_chars value fuel _ (by omega) (noDigit_charsFields fields rest)))
        (readFields_chars fields (fuel + 1) rest (by omega))

end

theorem parse_chars (j : Json) : parse j.chars = some j := by
  have hread := readValue_chars j (j.chars.length + 1) [] (Nat.lt_succ_self _)
    (by intro c tail h; cases h)
  rw [List.append_nil] at hread
  rw [parse, hread]
  rfl

/-- **The compact text of a value is read back as the value.** -/
@[simp] theorem fromSlice_toVec (j : Json) : fromSlice j.toVec = some j := by
  rw [fromSlice, toVec, ofTextBytes_textBytes]
  simp only [Option.bind_eq_bind, Option.bind_some, String.toList_ofList, parse_chars]

theorem toVec_injective : Function.Injective toVec := by
  intro _ _ h
  have := congrArg fromSlice h
  rwa [fromSlice_toVec, fromSlice_toVec, Option.some_inj] at this

end Json
