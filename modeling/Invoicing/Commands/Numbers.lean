/-
**Document numbers and the count they come from.**

* `documentNumber_inj` — a number determines its year and its sequence, for years `0000..9999`.
* `inYear`, `firstSecondOf` — issue times of a year, and of its first second.
* **`countInYear_add`** — the count of a year misses the documents of the year's first second, whose
  `+00:00` spelling sorts before the `Z` of the bound, and has those of the next year's instead.
  `Aligned` — the two are equally many and the count fits its 32 bits; **`nextSequence_of_aligned`**.
* `invoiceNumbering`, `creditNoteNumbering` — the two tables as numbered series.
  **`nextSequence_of_gapless`** — aligned, the next number is the one the series needs.
-/

import Invoicing.Commands.Credit
import Invoicing.Lib.Series

namespace Invoicing

open Chrono DigitText Series

/-! ### Numbers -/

theorem paddedYear_of_range {year : ℤ} (low : 0 ≤ year) (high : year ≤ 9999) :
    paddedYear year = yearText year := by
  have small : year.natAbs < 10 ^ 4 := by omega
  have same : year.natAbs = year.toNat := by omega
  unfold paddedYear padDigits
  rw [if_neg (by omega), if_pos small, yearText_of_range low high, same]

/-- **A number determines its year and its sequence.** -/
theorem documentNumber_inj {series : String} {year year' : ℤ} {sequence sequence' : ℕ}
    (low : 0 ≤ year) (high : year ≤ 9999) (low' : 0 ≤ year') (high' : year' ≤ 9999)
    (same : documentNumber series year sequence = documentNumber series year' sequence') :
    year = year' ∧ sequence = sequence' := by
  have texts := congrArg String.toList same
  simp only [documentNumber, String.toList_append, String.toList_ofList, List.append_assoc,
    List.append_cancel_left_eq] at texts
  rw [paddedYear_of_range low high, paddedYear_of_range low' high'] at texts
  obtain ⟨years, rest⟩ := List.append_inj texts
    (by rw [length_yearText low high, length_yearText low' high'])
  rw [List.append_cancel_left_eq] at rest
  exact ⟨(yearText_inj low high low' high').mp years, padDigits_injective (by omega) rest⟩

/-! ### Counts -/

/-- The issue time is in the year. -/
def inYear (year : ℤ) (time : Option DateTime) : Bool := time.any fun t => decide (t.year = year)

/-- The issue time is in the first second of the year. -/
def firstSecondOf (year : ℤ) (time : Option DateTime) : Bool :=
  time.any fun t => decide (t.year = year ∧ t.InFirstSecond)

/-- Issue times of years `0000..9998`. -/
def IssuedInRange (times : List (Option DateTime)) : Prop :=
  ∀ time, some time ∈ times → 0 ≤ time.year ∧ time.year ≤ 9998

/-- **The text bounds of a year** leave out its first second and take in the next year's. -/
theorem textInYear_iff {year : ℤ} {time : DateTime} (low : 0 ≤ year) (high : year ≤ 9998)
    (low' : 0 ≤ time.year) (high' : time.year ≤ 9998) :
    Db.textInYear year time = true ↔
      (time.year = year ∧ ¬ time.InFirstSecond) ∨ (time.year = year + 1 ∧ time.InFirstSecond) := by
  unfold Db.textInYear Db.yearBound
  rw [Bool.and_eq_true, decide_eq_true_eq, decide_eq_true_eq, ← not_lt,
    paddedYear_of_range low (by omega), paddedYear_of_range (by omega) (by omega),
    DateTime.text_lt_yearStart_iff low' (by omega) low (by omega),
    DateTime.text_lt_yearStart_iff low' (by omega) (by omega) (by omega)]
  by_cases first : time.InFirstSecond
  · simp only [first, and_true, not_true_eq_false, and_false, false_or]
    omega
  · simp only [first, and_false, or_false, not_false_eq_true, and_true]
    omega

/-- **What the count of a year counts.** -/
theorem countInYear_add {year : ℤ} (low : 0 ≤ year) (high : year ≤ 9998)
    {times : List (Option DateTime)} (range : IssuedInRange times) :
    Db.countInYear year times + times.countP (firstSecondOf year) =
      times.countP (inYear year) + times.countP (firstSecondOf (year + 1)) := by
  induction times with
  | nil => rfl
  | cons time rest ih =>
    have rest' := ih fun t member => range t (List.mem_cons_of_mem _ member)
    unfold Db.countInYear at rest' ⊢
    rw [KeyedTable.countP_cons_toNat, KeyedTable.countP_cons_toNat, KeyedTable.countP_cons_toNat,
      KeyedTable.countP_cons_toNat]
    have head : (time.any (Db.textInYear year)).toNat + (firstSecondOf year time).toNat =
        (inYear year time).toNat + (firstSecondOf (year + 1) time).toNat := by
      cases time with
      | none => rfl
      | some t =>
        obtain ⟨low', high'⟩ := range t List.mem_cons_self
        have text := textInYear_iff low high low' high'
        unfold inYear firstSecondOf
        simp only [Option.any_some]
        by_cases first : t.InFirstSecond
        · by_cases here : t.year = year
          · have notText : Db.textInYear year t = false := by
              rw [← Bool.not_eq_true, text]
              simp [here, first]
            simp [notText, here, first]
          · by_cases next : t.year = year + 1
            · have inText : Db.textInYear year t = true := by
                rw [text]
                exact Or.inr ⟨next, first⟩
              simp [inText, next, first]
            · have notText : Db.textInYear year t = false := by
                rw [← Bool.not_eq_true, text]
                simp [here, next]
              simp [notText, here, next]
        · by_cases here : t.year = year
          · have inText : Db.textInYear year t = true := by
              rw [text]
              exact Or.inl ⟨here, first⟩
            simp [inText, here, first]
          · have notText : Db.textInYear year t = false := by
              rw [← Bool.not_eq_true, text]
              simp [here, first]
            simp [notText, here, first]
    omega

/-- As many documents issued in the first second of the year as in that of the next one, and a count
that fits its 32 bits. -/
def Aligned (year : ℤ) (times : List (Option DateTime)) : Prop :=
  times.countP (firstSecondOf year) = times.countP (firstSecondOf (year + 1)) ∧
    times.countP (inYear year) + 1 < 2 ^ 32

instance (year : ℤ) (times : List (Option DateTime)) : Decidable (Aligned year times) :=
  inferInstanceAs (Decidable (_ ∧ _))

theorem nextSequence_wrapU32 {count : ℕ} (fits : count + 1 < 2 ^ 32) :
    nextSequence (wrapU32 count) = count + 1 := by
  unfold nextSequence wrapU32
  rw [Nat.mod_eq_of_lt (by omega : count < 2 ^ 32), Nat.mod_eq_of_lt fits]

/-- **Aligned, the next sequence number follows the documents of the year.** -/
theorem nextSequence_of_aligned {year : ℤ} (low : 0 ≤ year) (high : year ≤ 9998)
    {times : List (Option DateTime)} (range : IssuedInRange times) (aligned : Aligned year times) :
    nextSequence (wrapU32 (Db.countInYear year times)) = times.countP (inYear year) + 1 := by
  have same : Db.countInYear year times = times.countP (inYear year) := by
    have sums := countInYear_add low high range
    have first := aligned.1
    omega
  rw [same, nextSequence_wrapU32 aligned.2]

/-! ### The two series -/

/-- The years whose documents are numbered apart. -/
def CoveredYear (year : ℤ) : Prop := 0 ≤ year ∧ year ≤ 9998

instance (year : ℤ) : Decidable (CoveredYear year) := inferInstanceAs (Decidable (_ ∧ _))

/-- A table of documents as a numbered series. -/
def documentNumbering {ρ κ : Type} (series : String) (key : ρ → κ) (merge : ρ → ρ → ρ)
    (number : ρ → Option String) (issuedAt : ρ → Option DateTime)
    (keepsKey : KeyedTable.KeepsKey key merge)
    (merge_number : ∀ old row, number (merge old row) = number row)
    (merge_issuedAt : ∀ old row, issuedAt (merge old row) = issuedAt row) :
    Numbering ρ κ ℤ String where
  key := key
  merge := merge
  number := number
  period row := (issuedAt row).map DateTime.year
  name := documentNumber series
  Covered := CoveredYear
  keepsKey := keepsKey
  merge_number := merge_number
  merge_period old row := congrArg (Option.map DateTime.year) (merge_issuedAt old row)
  name_injective := fun _ _ _ _ covered covered' same =>
    documentNumber_inj covered.1 (covered.2.trans (by norm_num)) covered'.1
      (covered'.2.trans (by norm_num)) same

def invoiceNumbering : Numbering Invoice InvoiceId ℤ String :=
  documentNumbering "INV" Invoice.id Invoice.mergeRow Invoice.number Invoice.issuedAt
    Invoice.keepsKey (fun _ _ => rfl) (fun _ _ => rfl)

def creditNoteNumbering : Numbering CreditNote CreditNoteId ℤ String :=
  documentNumbering "CN" CreditNote.id CreditNote.mergeRow CreditNote.number CreditNote.issuedAt
    CreditNote.keepsKey (fun _ _ => rfl) (fun _ _ => rfl)

section Documents

variable {ρ κ : Type} (numbering : Numbering ρ κ ℤ String) {issuedAt : ρ → Option DateTime}

/-- The documents issued in a year, as a count of issue times. -/
theorem countP_issuedIn (period : ∀ row, numbering.period row = (issuedAt row).map DateTime.year)
    (table : List ρ) (year : ℤ) :
    table.countP (numbering.issuedIn year) = (table.map issuedAt).countP (inYear year) := by
  rw [List.countP_map]
  congr 1
  funext row
  show decide (numbering.period row = some year) = inYear year (issuedAt row)
  rw [period]
  cases issuedAt row with
  | none => rfl
  | some time => simp [inYear]

/-- The issue times of a gapless table are in the covered years. -/
theorem issuedInRange_of_gapless {table : List ρ} {log : List (κ × ℤ)}
    (period : ∀ row, numbering.period row = (issuedAt row).map DateTime.year)
    (covers : numbering.Covered = CoveredYear) (gapless : Gapless numbering table log) :
    IssuedInRange (table.map issuedAt) := by
  intro time member
  obtain ⟨row, inTable, issued⟩ := List.mem_map.mp member
  have inRange := gapless.covered row inTable time.year (by rw [period, issued]; rfl)
  rw [covers] at inRange
  exact inRange

/-- **Aligned, the next sequence number follows the entries of the year.** -/
theorem nextSequence_of_gapless {table : List ρ} {log : List (κ × ℤ)} {year : ℤ}
    (period : ∀ row, numbering.period row = (issuedAt row).map DateTime.year)
    (covers : numbering.Covered = CoveredYear) (gapless : Gapless numbering table log)
    (covered : CoveredYear year) (aligned : Aligned year (table.map issuedAt)) :
    nextSequence (wrapU32 (Db.countInYear year (table.map issuedAt))) =
      (entriesOf log year).length + 1 := by
  have range := issuedInRange_of_gapless numbering period covers gapless
  rw [nextSequence_of_aligned covered.1 covered.2 range aligned, ← countP_issuedIn numbering period,
    gapless.count]

end Documents

end Invoicing
