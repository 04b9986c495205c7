/-
**The bytes of a text.**

* `bytes` — a text in UTF-8. `bytes_ofList` — an ASCII text has one byte for each character.
* **`bytes_lt_iff`** — the bytes of ASCII texts are ordered as their characters are.
-/

import Mathlib.Data.Char
import Mathlib.Data.List.Lex

namespace Utf8Text

def bytes (text : String) : List UInt8 := text.toByteArray.data.toList

/-- All characters are of the first 128. -/
def Ascii (chars : List Char) : Prop := ∀ c ∈ chars, c.toNat < 128

theorem Ascii.append {first second : List Char} (one : Ascii first) (two : Ascii second) :
    Ascii (first ++ second) := by
  intro c member
  rcases List.mem_append.mp member with here | there
  · exact one c here
  · exact two c there

theorem Ascii.cons {c : Char} {rest : List Char} (first : c.toNat < 128) (others : Ascii rest) :
    Ascii (c :: rest) := by
  intro d member
  rcases List.mem_cons.mp member with rfl | there
  · exact first
  · exact others d there

theorem Ascii.digits {chars : List Char} (digits : chars.all Char.isDigit) : Ascii chars := by
  intro c member
  have digit := List.all_eq_true.mp digits c member
  rw [Char.isDigit, Bool.and_eq_true, decide_eq_true_iff, decide_eq_true_iff] at digit
  have bound : c.val.toNat ≤ 57 := UInt32.le_iff_toNat_le.mp digit.2
  exact lt_of_le_of_lt bound (by decide)

/-- The byte of an ASCII character. -/
def byte (c : Char) : UInt8 := UInt8.ofNat c.toNat

theorem byte_toNat {c : Char} (ascii : c.toNat < 128) : (byte c).toNat = c.toNat := by
  rw [byte, UInt8.toNat_ofNat', Nat.mod_eq_of_lt (by omega)]

/-- **An ASCII text has one byte for each character.** -/
theorem bytes_ofList {chars : List Char} (ascii : Ascii chars) :
    bytes (String.ofList chars) = chars.map byte := by
  have encoded : bytes (String.ofList chars) = chars.flatMap String.utf8EncodeChar := by
    rw [bytes, String.toByteArray_ofList, List.utf8Encode, List.toList_data_toByteArray]
  rw [encoded, List.map_eq_flatMap]
  refine List.flatMap_congr fun c member => ?_
  have small : c.val.toNat ≤ 127 := Nat.le_of_lt_succ (ascii c member)
  unfold String.utf8EncodeChar
  rw [if_pos small]
  rfl

theorem map_byte_lt_iff {first second : List Char} (one : Ascii first) (two : Ascii second) :
    first.map byte < second.map byte ↔ first < second := by
  induction first generalizing second with
  | nil =>
    cases second with
    | nil => simp
    | cons d others => simp
  | cons c rest ih =>
    cases second with
    | nil => simp
    | cons d others =>
      have here := one c List.mem_cons_self
      have there := two d List.mem_cons_self
      have tails := ih (fun e member => one e (List.mem_cons_of_mem _ member))
        fun e member => two e (List.mem_cons_of_mem _ member)
      have less : byte c < byte d ↔ c < d := by
        rw [UInt8.lt_iff_toNat_lt, byte_toNat here, byte_toNat there]
        exact Iff.rfl
      have same : byte c = byte d ↔ c = d := by
        rw [← UInt8.toNat_inj, byte_toNat here, byte_toNat there, Char.toNat_inj]
      rw [List.map_cons, List.map_cons, List.cons_lt_cons_iff, List.cons_lt_cons_iff, less, same, tails]

/-- **The bytes of ASCII texts are ordered as their characters are.** -/
theorem bytes_lt_iff {first second : List Char} (one : Ascii first) (two : Ascii second) :
    bytes (String.ofList first) < bytes (String.ofList second) ↔ first < second := by
  rw [bytes_ofList one, bytes_ofList two, map_byte_lt_iff one two]

end Utf8Text
