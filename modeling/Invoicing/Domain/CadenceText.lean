/-
**The texts a cadence is read from.**

* `Spells` — a text spells a cadence: each number may carry a plus sign and zeros in front.
  **`Cadence.fromStr_ok_iff`** — `from_str` accepts exactly these.
* `InGrammar` — the documented grammar: plain numbers, two digits in a yearly date. `Lenient` — what else
  spells a cadence.
* **`Cadence.grammar_exact_iff`** — a text is accepted just when it is in the grammar, and printed back as it
  is, unless it is a lenient spelling; every cadence is read back from its own text.
-/

import Invoicing.Domain.Schedule
import Invoicing.Lib.Numerals

namespace Invoicing

open DigitText
open SplitText (toList_joined)

/-! ### What is accepted -/

/-- What is before the first separator and after it. -/
theorem splitOnce_eq_some_iff {c : Char} {text first rest : List Char} :
    splitOnce c text = some (first, rest) ↔ text = first ++ c :: rest ∧ c ∉ first := by
  constructor
  · intro split
    unfold splitOnce at split
    by_cases member : c ∈ text
    · rw [if_pos member, Option.some.injEq, Prod.mk.injEq] at split
      obtain ⟨rfl, rfl⟩ := split
      have other : c ∉ text.takeWhile (· != c) := by
        intro inside
        exact absurd (List.mem_takeWhile_imp inside) (by simp)
      refine ⟨?_, other⟩
      have whole := List.takeWhile_append_dropWhile (p := (· != c)) (l := text)
      cases after : text.dropWhile (· != c) with
      | nil =>
        rw [after, List.append_nil] at whole
        exact absurd (whole.symm ▸ member) other
      | cons d others =>
        have stop : d = c := by
          have head := List.head?_dropWhile_not (· != c) text
          rw [after] at head
          simpa using head
        rw [after] at whole
        subst stop
        exact whole.symm
    · rw [if_neg member] at split
      cases split
  · rintro ⟨rfl, absent⟩
    exact splitOnce_append absent rest

theorem parseU8_eq_some_iff {text : List Char} {n : ℕ} :
    parseU8 text = some n ↔ n ≤ 255 ∧ ∃ plus zeros, text = spelling plus zeros n :=
  readUnsigned_eq_some_iff

theorem Cadence.parseDom_ok_iff {text : List Char} {dom : DayOfMonth} :
    parseDom text = .ok dom ↔ ∃ plus zeros, text = spelling plus zeros dom.val := by
  have valid := dom.valid
  unfold parseDom
  constructor
  · intro read
    cases number : parseU8 text with
    | none =>
      rw [number] at read
      cases read
    | some n =>
      rw [number] at read
      dsimp only at read
      split at read
      · obtain rfl := Except.ok.inj read
        exact (parseU8_eq_some_iff.mp number).2
      · cases read
  · rintro spelled
    rw [parseU8_eq_some_iff.mpr ⟨by omega, spelled⟩]
    exact dif_pos valid

theorem not_mem_spelling_dash (plus : Bool) (zeros n : ℕ) : '-' ∉ spelling plus zeros n := by
  intro member
  rcases List.mem_append.mp member with sign | digit
  · cases plus with
    | true => exact absurd sign (by decide)
    | false => cases sign
  · exact absurd (List.all_eq_true.mp (isDigit_zeros_append zeros n) _ digit) (by decide)

theorem Cadence.parseMonthDay_ok_iff {text : List Char} {on : MonthDay} :
    parseMonthDay text = .ok on ↔ ∃ plus zeros plus' zeros',
      text = spelling plus zeros on.month ++ '-' :: spelling plus' zeros' on.day := by
  have valid := on.valid
  unfold parseMonthDay
  constructor
  · intro read
    cases split : splitOnce '-' text with
    | none =>
      rw [split] at read
      cases read
    | some parts =>
      obtain ⟨mm, dd⟩ := parts
      rw [split] at read
      dsimp only at read
      cases month : parseU8 mm with
      | none =>
        rw [month] at read
        cases read
      | some m =>
        cases day : parseU8 dd with
        | none =>
          rw [month, day] at read
          cases read
        | some d =>
          rw [month, day] at read
          dsimp only at read
          split at read
          · obtain rfl := Except.ok.inj read
            obtain ⟨plus, zeros, rfl⟩ := (parseU8_eq_some_iff.mp month).2
            obtain ⟨plus', zeros', rfl⟩ := (parseU8_eq_some_iff.mp day).2
            exact ⟨plus, zeros, plus', zeros', (splitOnce_eq_some_iff.mp split).1⟩
          · cases read
  · rintro ⟨plus, zeros, plus', zeros', rfl⟩
    rw [splitOnce_append (not_mem_spelling_dash _ _ _)]
    dsimp only
    rw [parseU8_eq_some_iff.mpr ⟨by omega, _, _, rfl⟩, parseU8_eq_some_iff.mpr ⟨by omega, _, _, rfl⟩]
    exact dif_pos valid

/-- A text spells a cadence. -/
def Spells (text : String) : Cadence → Prop
  | .monthly dom => ∃ plus zeros, text = "monthly@" ++ String.ofList (spelling plus zeros dom.val)
  | .quarterly dom => ∃ plus zeros, text = "quarterly@" ++ String.ofList (spelling plus zeros dom.val)
  | .yearly on => ∃ plus zeros plus' zeros', text = "yearly@" ++
      String.ofList (spelling plus zeros on.month ++ '-' :: spelling plus' zeros' on.day)

/-- The text of a prefix and its argument. -/
theorem eq_prefix_append {text kind : String} {arg : List Char}
    (split : splitOnce '@' text.toList = some (kind.toList, arg)) :
    text = kind ++ "@" ++ String.ofList arg := by
  apply String.toList_injective
  rw [(splitOnce_eq_some_iff.mp split).1, toList_joined '@' rfl, String.toList_ofList]

theorem map_eq_ok_iff {α β ε : Type} {f : α → β} {x : Except ε α} {b : β} :
    (f <$> x) = .ok b ↔ ∃ a, x = .ok a ∧ f a = b := by
  cases x with
  | error e => exact iff_of_false nofun nofun
  | ok a => exact ⟨fun same => ⟨a, rfl, Except.ok.inj same⟩, fun ⟨_, same, fits⟩ => by
      cases same
      exact congrArg Except.ok fits⟩

/-- **`from_str` accepts exactly the spellings of a cadence.** -/
theorem Cadence.fromStr_ok_iff {text : String} {cadence : Cadence} :
    fromStr text = .ok cadence ↔ Spells text cadence := by
  constructor
  · intro read
    unfold fromStr at read
    cases split : splitOnce '@' text.toList with
    | none =>
      rw [split] at read
      cases read
    | some parts =>
      obtain ⟨kind, arg⟩ := parts
      rw [split] at read
      dsimp only at read
      split at read
      · rename_i monthly
        subst monthly
        obtain ⟨dom, parsed, rfl⟩ := map_eq_ok_iff.mp read
        obtain ⟨plus, zeros, rfl⟩ := parseDom_ok_iff.mp parsed
        exact ⟨plus, zeros, eq_prefix_append split⟩
      · split at read
        · rename_i quarterly
          subst quarterly
          obtain ⟨dom, parsed, rfl⟩ := map_eq_ok_iff.mp read
          obtain ⟨plus, zeros, rfl⟩ := parseDom_ok_iff.mp parsed
          exact ⟨plus, zeros, eq_prefix_append split⟩
        · split at read
          · rename_i yearly
            subst yearly
            obtain ⟨on, parsed, rfl⟩ := map_eq_ok_iff.mp read
            obtain ⟨plus, zeros, plus', zeros', rfl⟩ := parseMonthDay_ok_iff.mp parsed
            exact ⟨plus, zeros, plus', zeros', eq_prefix_append split⟩
          · cases read
  · intro spells
    cases cadence with
    | monthly dom =>
      obtain ⟨plus, zeros, rfl⟩ := spells
      rw [fromStr_monthly, parseDom_ok_iff.mpr ⟨plus, zeros, rfl⟩]
      rfl
    | quarterly dom =>
      obtain ⟨plus, zeros, rfl⟩ := spells
      rw [fromStr_quarterly, parseDom_ok_iff.mpr ⟨plus, zeros, rfl⟩]
      rfl
    | yearly on =>
      obtain ⟨plus, zeros, plus', zeros', rfl⟩ := spells
      rw [fromStr_yearly, parseMonthDay_ok_iff.mpr ⟨plus, zeros, plus', zeros', rfl⟩]
      rfl

/-! ### The documented grammar -/

/-- The documented grammar: `monthly@` or `quarterly@` and a plain number, `yearly@` and `MM-DD`. -/
def InGrammar (text : String) : Prop :=
  (∃ kind ∈ ["monthly@", "quarterly@"], ∃ n, (1 ≤ n ∧ n ≤ 28) ∧
      text = kind ++ String.ofList (Nat.toDigits 10 n)) ∨
    ∃ m d, (1 ≤ m ∧ m ≤ 12) ∧ (1 ≤ d ∧ d ≤ 28) ∧
      text = "yearly@" ++ String.ofList (decimalDigits 2 m ++ '-' :: decimalDigits 2 d)

/-- Two digits. -/
def TwoDigits (plus : Bool) (zeros n : ℕ) : Prop := plus = false ∧ zeros = if n < 10 then 1 else 0

/-- The other spellings: a sign or a zero in front of a day of the month, or a yearly date that is not two
times two digits. -/
def Lenient (text : String) : Prop :=
  (∃ kind ∈ ["monthly@", "quarterly@"], ∃ n plus zeros, (1 ≤ n ∧ n ≤ 28) ∧ (plus = true ∨ 0 < zeros) ∧
      text = kind ++ String.ofList (spelling plus zeros n)) ∨
    ∃ m d plus zeros plus' zeros', (1 ≤ m ∧ m ≤ 12) ∧ (1 ≤ d ∧ d ≤ 28) ∧
      ¬ (TwoDigits plus zeros m ∧ TwoDigits plus' zeros' d) ∧
      text = "yearly@" ++ String.ofList (spelling plus zeros m ++ '-' :: spelling plus' zeros' d)

/-- The grammar is what cadences are printed as. -/
theorem inGrammar_iff {text : String} : InGrammar text ↔ ∃ cadence : Cadence, cadence.text = text := by
  constructor
  · rintro (⟨kind, member, n, valid, rfl⟩ | ⟨m, d, months, days, rfl⟩)
    · rcases List.mem_cons.mp member with rfl | member
      · exact ⟨.monthly ⟨n, valid⟩, rfl⟩
      · obtain rfl := List.mem_singleton.mp member
        exact ⟨.quarterly ⟨n, valid⟩, rfl⟩
    · exact ⟨.yearly ⟨m, d, months, days⟩, rfl⟩
  · rintro ⟨cadence, rfl⟩
    cases cadence with
    | monthly dom => exact Or.inl ⟨_, List.mem_cons_self, dom.val, dom.valid, rfl⟩
    | quarterly dom => exact Or.inl ⟨_, List.mem_cons_of_mem _ List.mem_cons_self, dom.val, dom.valid, rfl⟩
    | yearly on => exact Or.inr ⟨on.month, on.day, on.valid.1, on.valid.2, rfl⟩

/-- Texts after one prefix are compared by their characters. -/
theorem prefixed_inj {kind : String} {first second : List Char} :
    kind ++ String.ofList first = kind ++ String.ofList second ↔ first = second := by
  rw [← String.toList_inj, String.toList_append, String.toList_append, List.append_cancel_left_eq,
    String.toList_ofList, String.toList_ofList]

/-- A spelled day of the month is the printed one without sign and zeros only. -/
theorem spelledText_eq_iff {kind : String} {plus : Bool} {zeros n : ℕ} :
    kind ++ String.ofList (Nat.toDigits 10 n) = kind ++ String.ofList (spelling plus zeros n) ↔
      ¬ (plus = true ∨ 0 < zeros) := by
  rw [prefixed_inj, eq_comm, spelling_eq_toDigits_iff]
  cases plus with
  | true => simp
  | false => simp

/-- A spelled yearly date is the printed one where both numbers have two digits. -/
theorem yearlyText_eq_iff {plus plus' : Bool} {zeros zeros' m d : ℕ} (months : m < 100) (days : d < 100) :
    "yearly@" ++ String.ofList (decimalDigits 2 m ++ '-' :: decimalDigits 2 d) =
        "yearly@" ++ String.ofList (spelling plus zeros m ++ '-' :: spelling plus' zeros' d) ↔
      TwoDigits plus zeros m ∧ TwoDigits plus' zeros' d := by
  rw [prefixed_inj, TwoDigits, TwoDigits, ← spelling_eq_twoDigits_iff months, ← spelling_eq_twoDigits_iff days]
  constructor
  · intro same
    -- the first dash ends the month on both sides
    have absent : '-' ∉ decimalDigits 2 m := by
      intro member
      exact absurd (List.all_eq_true.mp (isDigit_decimalDigits 2 m) _ member) (by decide)
    have split := splitOnce_append absent (decimalDigits 2 d)
    rw [same, splitOnce_append (not_mem_spelling_dash _ _ _)] at split
    obtain ⟨first, second⟩ := Prod.mk.inj (Option.some.inj split)
    exact ⟨first, second⟩
  · rintro ⟨first, second⟩
    rw [first, second]

/-- **A spelling that is not printed back is a lenient one.** -/
theorem Spells.lenient {text : String} {cadence : Cadence} (spells : Spells text cadence)
    (other : cadence.text ≠ text) : Lenient text := by
  cases cadence with
  | monthly dom =>
    obtain ⟨plus, zeros, rfl⟩ := spells
    have odd : plus = true ∨ 0 < zeros := by
      by_contra plain
      exact other (spelledText_eq_iff.mpr plain)
    exact Or.inl ⟨_, List.mem_cons_self, dom.val, plus, zeros, dom.valid, odd, rfl⟩
  | quarterly dom =>
    obtain ⟨plus, zeros, rfl⟩ := spells
    have odd : plus = true ∨ 0 < zeros := by
      by_contra plain
      exact other (spelledText_eq_iff.mpr plain)
    exact Or.inl ⟨_, List.mem_cons_of_mem _ List.mem_cons_self, dom.val, plus, zeros, dom.valid, odd, rfl⟩
  | yearly on =>
    obtain ⟨plus, zeros, plus', zeros', rfl⟩ := spells
    have valid := on.valid
    have odd : ¬ (TwoDigits plus zeros on.month ∧ TwoDigits plus' zeros' on.day) := by
      intro plain
      exact other ((yearlyText_eq_iff (by omega) (by omega)).mpr plain)
    exact Or.inr ⟨on.month, on.day, plus, zeros, plus', zeros', valid.1, valid.2, odd, rfl⟩

/-- A lenient spelling spells a cadence that is printed otherwise. -/
theorem Lenient.spells {text : String} (lenient : Lenient text) :
    ∃ cadence, Spells text cadence ∧ cadence.text ≠ text := by
  rcases lenient with ⟨kind, member, n, plus, zeros, valid, odd, rfl⟩ |
    ⟨m, d, plus, zeros, plus', zeros', months, days, odd, rfl⟩
  · rcases List.mem_cons.mp member with rfl | member
    · exact ⟨.monthly ⟨n, valid⟩, ⟨plus, zeros, rfl⟩, fun same => spelledText_eq_iff.mp same odd⟩
    · obtain rfl := List.mem_singleton.mp member
      exact ⟨.quarterly ⟨n, valid⟩, ⟨plus, zeros, rfl⟩, fun same => spelledText_eq_iff.mp same odd⟩
  · refine ⟨.yearly ⟨m, d, months, days⟩, ⟨plus, zeros, plus', zeros', rfl⟩, fun same => odd ?_⟩
    exact (yearlyText_eq_iff (by omega) (by omega)).mp same

/-- **The grammar is met exactly at the texts that are not lenient spellings.** -/
theorem Cadence.grammar_exact_iff (text : String) :
    ((((∃ cadence, fromStr text = .ok cadence) ↔ InGrammar text) ∧
        ∀ cadence, fromStr text = .ok cadence → cadence.text = text) ↔ ¬ Lenient text) ∧
      ∀ cadence, fromStr cadence.text = .ok cadence := by
  refine ⟨⟨?_, ?_⟩, fromStr_text⟩
  · rintro ⟨_, printed⟩ lenient
    obtain ⟨cadence, spells, other⟩ := lenient.spells
    exact other (printed cadence (fromStr_ok_iff.mpr spells))
  · intro plain
    have printed : ∀ cadence, fromStr text = .ok cadence → cadence.text = text := by
      intro cadence read
      by_contra other
      exact plain ((fromStr_ok_iff.mp read).lenient other)
    refine ⟨?_, printed⟩
    rw [inGrammar_iff]
    constructor
    · rintro ⟨cadence, read⟩
      exact ⟨cadence, printed cadence read⟩
    · rintro ⟨cadence, rfl⟩
      exact ⟨cadence, fromStr_text cadence⟩

/-- `monthly@+5` and `yearly@1-007` are read, and printed as `monthly@5` and `yearly@01-07`. -/
theorem lenient_spellings_read :
    ((Cadence.fromStr "monthly@+5").toOption.map Cadence.text = some "monthly@5" ∧
        ¬ InGrammar "monthly@+5") ∧
      (Cadence.fromStr "yearly@1-007").toOption.map Cadence.text = some "yearly@01-07" := by
  refine ⟨⟨by decide +kernel, ?_⟩, by decide +kernel⟩
  rw [inGrammar_iff]
  rintro ⟨cadence, printed⟩
  have read := Cadence.fromStr_text cadence
  rw [printed] at read
  have other : (Cadence.fromStr "monthly@+5").toOption.map Cadence.text = some "monthly@5" := by
    decide +kernel
  rw [read] at other
  exact absurd (printed.symm.trans (Option.some.inj other)) (by decide)

end Invoicing
