/-
**Readers of texts, and what they take off the front.**

* `TextReader α` — a reader takes a value off the front of a text and leaves the rest.
* `Takes reader follow text a` — whatever follows `text`, as long as `follow` allows it, the reader
  takes `a` for it. `Takes.pure`, **`Takes.bind`**, `Takes.map` follow the structure of a reader.
* `literal`, `fixedNumber`, `number` — one character, a number of so many digits, and a number of all
  the digits in front; each takes what `DigitText` prints.
* `untilNone`, `listUntil` — items up to a stop, and items with commas between up to a closing
  character; each takes what is printed item by item.
-/

import Invoicing.Lib.DigitText

/-- A reader of texts. -/
abbrev TextReader (α : Type) := StateT (List Char) Option α

namespace TextReader

open DigitText

variable {α β : Type}

/-- Whatever follows. -/
def Anything : List Char → Prop := fun _ => True

/-- The reader takes `a` for `text` when the rest may follow it. -/
def Takes (reader : TextReader α) (follow : List Char → Prop) (text : List Char) (a : α) : Prop :=
  ∀ rest, follow rest → reader.run (text ++ rest) = some (a, rest)

/-- Read a whole text. -/
def readAll (reader : TextReader α) (text : List Char) : Option α :=
  match reader.run text with
  | some (a, []) => some a
  | _ => none

/-! ### Rules -/

theorem Takes.pure (a : α) {follow : List Char → Prop} : Takes (Pure.pure a) follow [] a :=
  fun _ _ => rfl

/-- **One reader after the other.** -/
theorem Takes.bind {reader : TextReader α} {next : α → TextReader β} {follow follow' : List Char → Prop}
    {text text' : List Char} {a : α} {b : β} (first : Takes reader follow text a)
    (second : Takes (next a) follow' text' b) (meets : ∀ rest, follow' rest → follow (text' ++ rest)) :
    Takes (reader >>= next) follow' (text ++ text') b := by
  intro rest allowed
  rw [List.append_assoc, StateT.run_bind, first _ (meets rest allowed)]
  exact second rest allowed

/-- A reader that takes its text whatever follows, then another. -/
theorem Takes.then {reader : TextReader α} {next : α → TextReader β} {follow : List Char → Prop}
    {text text' : List Char} {a : α} {b : β} (first : Takes reader Anything text a)
    (second : Takes (next a) follow text' b) : Takes (reader >>= next) follow (text ++ text') b :=
  first.bind second fun _ _ => trivial

/-- What comes last may take nothing. -/
theorem Takes.last {reader : TextReader α} {next : α → TextReader β} {follow : List Char → Prop}
    {text : List Char} {a : α} {b : β} (first : Takes reader Anything text a)
    (second : Takes (next a) follow [] b) : Takes (reader >>= next) follow text b := by
  have taken := first.then second
  rwa [List.append_nil] at taken

theorem Takes.map {reader : TextReader α} {follow : List Char → Prop} {text : List Char} {a : α}
    (taken : Takes reader follow text a) (f : α → β) : Takes (f <$> reader) follow text (f a) := by
  intro rest allowed
  rw [StateT.run_map, taken rest allowed]
  rfl

/-- A text that is taken is read whole. -/
theorem Takes.readAll {reader : TextReader α} {follow : List Char → Prop} {text : List Char} {a : α}
    (taken : Takes reader follow text a) (ends : follow []) : reader.readAll text = some a := by
  have whole := taken [] ends
  rw [List.append_nil] at whole
  rw [TextReader.readAll, whole]

/-- A reader in two parts that went through, taken apart. -/
theorem bind_some {reader : TextReader α} {next : α → TextReader β} {text rest : List Char} {b : β}
    (done : (reader >>= next).run text = some (b, rest)) :
    ∃ a left, reader.run text = some (a, left) ∧ (next a).run left = some (b, rest) := by
  rw [StateT.run_bind] at done
  obtain ⟨⟨a, left⟩, first, second⟩ := Option.bind_eq_some_iff.mp done
  exact ⟨a, left, first, second⟩

/-- A text that is read whole is taken, with nothing left. -/
theorem readAll_some {reader : TextReader α} {text : List Char} {a : α}
    (read : readAll reader text = some a) : reader.run text = some (a, []) := by
  unfold readAll at read
  split at read
  · rename_i found
    cases read
    exact found
  · cases read

/-! ### Characters -/

def anyChar : TextReader Char
  | [] => none
  | c :: rest => some (c, rest)

theorem takes_anyChar (c : Char) : Takes anyChar Anything [c] c := fun _ _ => rfl

/-- A value that may be missing. -/
def orFail : Option α → TextReader α
  | none => failure
  | some a => Pure.pure a

theorem takes_orFail (a : α) : Takes (orFail (some a)) Anything [] a := fun _ _ => rfl

/-- This character. -/
def literal (c : Char) : TextReader Unit := do
  let d ← anyChar
  if d = c then Pure.pure () else failure

theorem takes_literal (c : Char) : Takes (literal c) Anything [c] () := by
  refine (takes_anyChar c).last ?_
  rw [if_pos rfl]
  exact .pure ()

/-- These characters. -/
def literals : List Char → TextReader Unit
  | [] => Pure.pure ()
  | c :: rest => do
      literal c
      literals rest

theorem takes_literals (text : List Char) : Takes (literals text) Anything text () := by
  induction text with
  | nil => exact .pure ()
  | cons c rest ih => exact (takes_literal c).then ih

/-! ### Numbers -/

/-- A number of so many digits. -/
def fixedNumber (base : ℕ) (value : Char → Option ℕ) : ℕ → TextReader ℕ
  | 0 => Pure.pure 0
  | width + 1 => do
      let c ← anyChar
      let digit ← orFail (value c)
      let low ← fixedNumber base value width
      return base ^ width * digit + low

/-- **Fixed-width digits are read back**, modulo what the width can hold. -/
theorem takes_fixedNumber {base : ℕ} {glyph : ℕ → Char} {value : Char → Option ℕ}
    (positive : 0 < base) (glyphs : ∀ digit < base, value (glyph digit) = some digit) (width n : ℕ) :
    Takes (fixedNumber base value width) Anything (fixedDigits base glyph width n)
      (n % base ^ width) := by
  induction width with
  | zero =>
    rw [pow_zero, Nat.mod_one]
    exact .pure 0
  | succ width ih =>
    rw [mod_pow_succ_split]
    show Takes _ _ ([glyph (n / base ^ width % base)] ++ fixedDigits base glyph width n) _
    refine (takes_anyChar _).then ?_
    rw [glyphs _ (Nat.mod_lt _ positive)]
    show Takes _ _ ([] ++ fixedDigits base glyph width n) _
    refine (takes_orFail _).then ?_
    have low := ih.map fun low => base ^ width * (n / base ^ width % base) + low
    rw [map_eq_pure_bind] at low
    exact low

/-- A number of so many digits was read off so many digits. -/
theorem fixedNumber_some {base : ℕ} {value : Char → Option ℕ} {width n : ℕ} {text rest : List Char}
    (done : (fixedNumber base value width).run text = some (n, rest)) :
    width ≤ text.length ∧ ∀ c ∈ text.take width, (value c).isSome := by
  induction width generalizing text rest n with
  | zero => exact ⟨Nat.zero_le _, by simp⟩
  | succ width ih =>
    obtain ⟨c, left, first, done⟩ := bind_some done
    obtain ⟨digit, left', second, done⟩ := bind_some done
    obtain ⟨low, _, lower, _⟩ := bind_some done
    cases text with
    | nil => cases first
    | cons d text =>
      cases first
      cases known : value c with
      | none =>
        rw [known] at second
        cases second
      | some found =>
        rw [known] at second
        cases second
        obtain ⟨long, digits⟩ := ih lower
        refine ⟨Nat.succ_le_succ long, ?_⟩
        rw [List.take_succ_cons, List.forall_mem_cons, known]
        exact ⟨rfl, digits⟩

/-- The value of a decimal digit. -/
def decimalValue (c : Char) : Option ℕ := if c.isDigit then some (c.toNat - 48) else none

theorem decimalValue_digitChar : ∀ digit < 10, decimalValue (Nat.digitChar digit) = some digit := by
  decide

/-- A number of so many decimal digits. -/
abbrev decimalNumber (width : ℕ) : TextReader ℕ := fixedNumber 10 decimalValue width

theorem takes_decimalNumber {width n : ℕ} (room : n < 10 ^ width) :
    Takes (decimalNumber width) Anything (decimalDigits width n) n := by
  have taken := takes_fixedNumber (by norm_num) decimalValue_digitChar width n
  rwa [Nat.mod_eq_of_lt room] at taken

/-- The text goes on with something other than a digit, or ends. -/
def NoDigit (rest : List Char) : Prop := rest.head?.all fun c => !c.isDigit

/-- All the digits in front, at least one: how many, and the number. -/
def number : TextReader (ℕ × ℕ) := fun text =>
  let digits := text.takeWhile Char.isDigit
  if digits = [] then none
  else some ((digits.length, Nat.ofDigitChars 10 digits 0), text.dropWhile Char.isDigit)

theorem takes_number {digits : List Char} (all : digits.all Char.isDigit) (nonempty : digits ≠ []) :
    Takes number NoDigit digits (digits.length, Nat.ofDigitChars 10 digits 0) := by
  intro rest stops
  have every : ∀ c ∈ digits, c.isDigit = true := fun c member => List.all_eq_true.mp all c member
  have none : rest.takeWhile Char.isDigit = [] ∧ rest.dropWhile Char.isDigit = rest := by
    cases rest with
    | nil => exact ⟨rfl, rfl⟩
    | cons c rest =>
      have other : c.isDigit = false := by simpa [NoDigit] using stops
      simp [other]
  show number (digits ++ rest) = _
  unfold number
  rw [List.takeWhile_append_of_pos every, List.dropWhile_append_of_pos every, none.1, none.2,
    List.append_nil, if_neg nonempty]

/-! ### Repetition -/

/-- Items until the reader says that there are no more; `fuel` bounds their number. -/
def untilNone (reader : TextReader (Option α)) : ℕ → TextReader (List α)
  | 0 => failure
  | fuel + 1 => do
      match ← reader with
      | none => return []
      | some a => (a :: ·) <$> untilNone reader fuel

/-- **Items printed one after the other are read back.** -/
theorem takes_untilNone {reader : TextReader (Option α)} {print : α → List Char} {stop : List Char}
    (item : ∀ a, Takes reader Anything (print a) (some a)) (ends : Takes reader Anything stop none)
    {items : List α} {fuel : ℕ} (enough : items.length < fuel) :
    Takes (untilNone reader fuel) Anything (items.flatMap print ++ stop) items := by
  induction items generalizing fuel with
  | nil =>
    cases fuel with
    | zero => simp at enough
    | succ fuel => exact ends.last (.pure [])
  | cons a rest ih =>
    cases fuel with
    | zero => simp at enough
    | succ fuel =>
      rw [List.flatMap_cons, List.append_assoc]
      exact (item a).then ((ih (by simpa using enough)).map (a :: ·))

/-- Items with commas between, up to a closing character. -/
def printList (close : Char) (print : α → List Char) : List α → List Char
  | [] => [close]
  | [a] => print a ++ [close]
  | a :: b :: rest => print a ++ ',' :: printList close print (b :: rest)

/-- Read items with commas between, up to a closing character. -/
def someUntil (close : Char) (reader : TextReader α) : ℕ → TextReader (List α)
  | 0 => failure
  | fuel + 1 => do
      let a ← reader
      let c ← anyChar
      if c = ',' then (a :: ·) <$> someUntil close reader fuel
      else if c = close then return [a]
      else failure

/-- The same, where there may be no items. -/
def listUntil (close : Char) (reader : TextReader α) : TextReader (List α) := fun text =>
  if text.head? = some close then some ([], text.tail)
  else someUntil close reader text.length text

section Lists

variable {close : Char} {reader : TextReader α} {print : α → List Char}
  (item : ∀ a, Takes reader Anything (print a) a)

include item

theorem takes_someUntil (noComma : close ≠ ',') {items : List α} {fuel : ℕ}
    (nonempty : items ≠ []) (enough : items.length ≤ fuel) :
    Takes (someUntil close reader fuel) Anything (printList close print items) items := by
  induction items generalizing fuel with
  | nil => exact absurd rfl nonempty
  | cons a rest ih =>
    cases fuel with
    | zero => simp at enough
    | succ fuel =>
      rw [someUntil]
      cases rest with
      | nil =>
        refine (item a).then ((takes_anyChar close).last ?_)
        rw [if_neg noComma, if_pos rfl]
        exact .pure [a]
      | cons b rest =>
        show Takes _ _ (print a ++ ([','] ++ printList close print (b :: rest))) _
        refine (item a).then ((takes_anyChar ',').then ?_)
        rw [if_pos rfl]
        exact (ih (by simp) (by simpa using enough)).map (a :: ·)

omit item in
theorem length_le_printList (items : List α) :
    items.length ≤ (printList close print items).length := by
  induction items with
  | nil => exact Nat.zero_le _
  | cons a rest ih =>
    cases rest with
    | nil => simp [printList]
    | cons b rest =>
      simp only [printList, List.length_append, List.length_cons] at ih ⊢
      omega

/-- **A list printed with commas between its items is read back.** -/
theorem takes_listUntil (noComma : close ≠ ',')
    (opens : ∀ a, ∃ c chars, print a = c :: chars ∧ c ≠ close) (items : List α) :
    Takes (listUntil close reader) Anything (printList close print items) items := by
  intro rest _
  show listUntil close reader (printList close print items ++ rest) = _
  unfold listUntil
  cases items with
  | nil => exact if_pos rfl
  | cons a others =>
    obtain ⟨c, chars, shape, other⟩ := opens a
    have head : (printList close print (a :: others) ++ rest).head? ≠ some close := by
      cases others <;> simpa [printList, shape] using other
    have enough : (a :: others).length ≤ (printList close print (a :: others) ++ rest).length := by
      have items : (a :: others).length ≤ (printList close print (a :: others)).length :=
        length_le_printList _
      rw [List.length_append]
      omega
    rw [if_neg head]
    exact takes_someUntil item noComma (by simp) enough rest trivial

end Lists

end TextReader
