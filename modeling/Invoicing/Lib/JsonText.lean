/-
**Compact JSON text of strings, objects of strings and lists of both.**

* `printChar`, `printString` — a string with the escapes of compact JSON; **`takes_string`** — it is
  read back.
* `printObject`, `takes_object` — the members of an object in order; `printArray`, `takes_array` —
  the items of a list.
* `JsonText α` — how a type is written and read; `JsonText.Lawful` — what is written is read back, and
  is never empty.
-/

import Invoicing.Lib.TextReader

namespace JsonText

open DigitText TextReader

/-! ### Strings -/

def hexGlyph (digit : ℕ) : Char := ("0123456789abcdef".toList).getD digit '0'

def hexValue (c : Char) : Option ℕ :=
  if c.isDigit then some (c.toNat - 48)
  else if 'a' ≤ c ∧ c ≤ 'f' then some (c.toNat - 87)
  else none

theorem hexValue_hexGlyph : ∀ digit < 16, hexValue (hexGlyph digit) = some digit := by
  decide

/-- The characters with an escape of two characters. -/
def shortEscape : Char → Option Char
  | '"' => some '"'
  | '\\' => some '\\'
  | '\x08' => some 'b'
  | '\x0c' => some 'f'
  | '\n' => some 'n'
  | '\r' => some 'r'
  | '\t' => some 't'
  | _ => none

def unescape : Char → Option Char
  | '"' => some '"'
  | '\\' => some '\\'
  | 'b' => some '\x08'
  | 'f' => some '\x0c'
  | 'n' => some '\n'
  | 'r' => some '\r'
  | 't' => some '\t'
  | _ => none

/-- A character inside a string; other control characters are written as their code. -/
def printChar (c : Char) : List Char :=
  match shortEscape c with
  | some e => ['\\', e]
  | none =>
      if c.toNat < 32 then '\\' :: 'u' :: fixedDigits 16 hexGlyph 4 c.toNat
      else [c]

def printString (s : String) : List Char :=
  '"' :: (s.toList.flatMap printChar ++ ['"'])

/-- One character of a string, or its end. -/
def stringItem : TextReader (Option Char) := do
  let c ← anyChar
  if c = '"' then return none
  else if c = '\\' then do
    let e ← anyChar
    if e = 'u' then do
      let code ← fixedNumber 16 hexValue 4
      orFail (if code.isValidChar then some (some (Char.ofNat code)) else none)
    else orFail ((unescape e).map some)
  else orFail (if c.toNat < 32 then none else some (some c))

def string : TextReader String := do
  literal '"'
  let text ← get
  String.ofList <$> untilNone stringItem text.length

theorem shortEscape_some {c e : Char} (short : shortEscape c = some e) :
    e ≠ 'u' ∧ unescape e = some c := by
  unfold shortEscape at short
  split at short <;> first | (cases short; decide) | cases short

theorem shortEscape_none {c : Char} (plain : shortEscape c = none) : c ≠ '"' ∧ c ≠ '\\' := by
  refine ⟨?_, ?_⟩
  · rintro rfl
    cases plain
  · rintro rfl
    cases plain

theorem takes_stringItem (c : Char) : Takes stringItem Anything (printChar c) (some c) := by
  unfold printChar
  cases short : shortEscape c with
  | some e =>
    obtain ⟨other, back⟩ := shortEscape_some short
    refine (takes_anyChar '\\').then ((takes_anyChar e).last ?_)
    rw [if_neg other, back]
    exact takes_orFail (some c)
  | none =>
    obtain ⟨notQuote, notSlash⟩ := shortEscape_none short
    by_cases control : c.toNat < 32
    · rw [if_pos control]
      have valid : c.toNat.isValidChar := c.valid
      have taken := takes_fixedNumber (by norm_num) hexValue_hexGlyph 4 c.toNat
      rw [Nat.mod_eq_of_lt (by omega)] at taken
      refine (takes_anyChar '\\').then ((takes_anyChar 'u').then (taken.last ?_))
      rw [if_pos valid, Char.ofNat_toNat]
      exact takes_orFail (some c)
    · rw [if_neg control]
      refine (takes_anyChar c).last ?_
      rw [if_neg notQuote, if_neg notSlash, if_neg control]
      exact takes_orFail (some c)

theorem takes_stringEnd : Takes stringItem Anything ['"'] none := fun _ _ => rfl

theorem printChar_ne_nil (c : Char) : printChar c ≠ [] := by
  unfold printChar
  split
  · simp
  · split <;> simp

theorem length_le_flatMap_printChar (chars : List Char) :
    chars.length ≤ (chars.flatMap printChar).length := by
  induction chars with
  | nil => exact Nat.zero_le _
  | cons c rest ih =>
    have printed := List.length_pos_iff.mpr (printChar_ne_nil c)
    rw [List.flatMap_cons, List.length_append, List.length_cons]
    omega

/-- **A printed string is read back.** -/
theorem takes_string (s : String) : Takes string Anything (printString s) s := by
  intro rest _
  have chars := length_le_flatMap_printChar s.toList
  have items : Takes (untilNone stringItem
      (s.toList.flatMap printChar ++ ['"'] ++ rest).length) Anything
      (s.toList.flatMap printChar ++ ['"']) s.toList :=
    takes_untilNone takes_stringItem takes_stringEnd (by
      simp only [List.length_append, List.length_singleton]
      omega)
  have taken := items.map String.ofList rest trivial
  rw [String.ofList_toList] at taken
  have opened : (literal '"').run (printString s ++ rest) =
      some ((), s.toList.flatMap printChar ++ ['"'] ++ rest) := takes_literal '"' _ trivial
  rw [string, StateT.run_bind, opened, Option.bind_eq_bind, Option.bind_some, StateT.run_bind,
    StateT.run_get, pure_bind]
  exact taken

/-! ### Objects and lists -/

def printMember (member : String × String) : List Char :=
  printString member.1 ++ ':' :: printString member.2

def memberReader : TextReader (String × String) := do
  let key ← string
  literal ':'
  let value ← string
  return (key, value)

theorem takes_member (member : String × String) :
    Takes memberReader Anything (printMember member) member :=
  (takes_string member.1).then ((takes_literal ':').then
    ((takes_string member.2).map fun value => (member.1, value)))

/-- An object of strings. -/
def printObject (members : List (String × String)) : List Char :=
  '{' :: printList '}' printMember members

def objectReader : TextReader (List (String × String)) := do
  literal '{'
  listUntil '}' memberReader

theorem takes_object (members : List (String × String)) :
    Takes objectReader Anything (printObject members) members :=
  (takes_literal '{').then
    (takes_listUntil takes_member (by decide) (fun _ => ⟨'"', _, rfl, by decide⟩) members)

section Arrays

variable {α : Type} {reader : TextReader α} {print : α → List Char}

/-- A list. -/
def printArray (print : α → List Char) (items : List α) : List Char :=
  '[' :: printList ']' print items

def arrayReader (reader : TextReader α) : TextReader (List α) := do
  literal '['
  listUntil ']' reader

theorem takes_array (item : ∀ a, Takes reader Anything (print a) a)
    (opens : ∀ a, ∃ c chars, print a = c :: chars ∧ c ≠ ']') (items : List α) :
    Takes (arrayReader reader) Anything (printArray print items) items :=
  (takes_literal '[').then (takes_listUntil item (by decide) opens items)

end Arrays

end JsonText

/-! ### Columns of JSON -/

/-- How a type is written as JSON text, and read. -/
structure JsonText (α : Type) where
  toText : α → String
  ofText : String → Option α

namespace JsonText

variable {α : Type}

/-- What is written is read back and is not the empty text. -/
structure Lawful (json : JsonText α) : Prop where
  reads : ∀ a, json.ofText (json.toText a) = some a
  nonempty : ∀ a, json.toText a ≠ ""

end JsonText
