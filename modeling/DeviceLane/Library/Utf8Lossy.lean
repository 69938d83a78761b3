/-
**Texts from any bytes.**

Bytes that are no text are read as one all the same. Where a character begins that is not finished, what
there is of it gives way to one replacement character, and the reading goes on behind it.

Main definitions:

* `Utf8.fromUtf8Lossy` — the text of any bytes.

Main results:

* `Utf8.lossyChars_ascii` — bytes of plain characters are these characters.
-/

import Mathlib.Data.List.Basic

namespace Utf8

def replacement : Char := '\ufffd'

def isTail (b : UInt8) : Bool := 0x80 ≤ b && b ≤ 0xbf

/-- What may follow the first byte of a character of three or four bytes: no character is written longer
than it has to be, and there are none for surrogates or beyond the last one. -/
def isSecond (first b : UInt8) : Bool :=
  if first = 0xe0 then 0xa0 ≤ b && b ≤ 0xbf
  else if first = 0xed then 0x80 ≤ b && b ≤ 0x9f
  else if first = 0xf0 then 0x90 ≤ b && b ≤ 0xbf
  else if first = 0xf4 then 0x80 ≤ b && b ≤ 0x8f
  else isTail b

def readTails (value : ℕ) : List (UInt8 → Bool) → List UInt8 → Char × List UInt8
  | [], rest => (Char.ofNat value, rest)
  | _ :: _, [] => (replacement, [])
  | ok :: oks, b :: rest =>
    if ok b then readTails (value * 64 + b.toNat % 64) oks rest else (replacement, b :: rest)

def readChar (first : UInt8) (rest : List UInt8) : Char × List UInt8 :=
  if first < 0x80 then readTails first.toNat [] rest
  else if 0xc2 ≤ first ∧ first ≤ 0xdf then readTails (first.toNat % 32) [isTail] rest
  else if 0xe0 ≤ first ∧ first ≤ 0xef then
    readTails (first.toNat % 16) [isSecond first, isTail] rest
  else if 0xf0 ≤ first ∧ first ≤ 0xf4 then
    readTails (first.toNat % 8) [isSecond first, isTail, isTail] rest
  else (replacement, rest)

def lossyChars : ℕ → List UInt8 → List Char
  | 0, _ => []
  | _ + 1, [] => []
  | fuel + 1, first :: rest => (readChar first rest).1 :: lossyChars fuel (readChar first rest).2

def fromUtf8Lossy (bytes : List UInt8) : String := String.ofList (lossyChars bytes.length bytes)

example : fromUtf8Lossy [0x61, 0xe2, 0x82, 0xac, 0xe2, 0x82, 0x62, 0xff, 0xed, 0xa0]
    = "a\u20ac\ufffdb\ufffd\ufffd\ufffd" := by decide

/-! ### What is read -/

theorem lossyChars_ascii {bytes : List UInt8} (h : ∀ b ∈ bytes, b < 0x80) :
    lossyChars bytes.length bytes = bytes.map fun b => Char.ofNat b.toNat := by
  induction bytes with
  | nil => rfl
  | cons first rest ih =>
    have hfirst : readChar first rest = (Char.ofNat first.toNat, rest) :=
      if_pos (h first List.mem_cons_self)
    rw [List.length_cons, lossyChars, hfirst, List.map_cons,
      ih (List.forall_mem_cons.1 h).2]

end Utf8
