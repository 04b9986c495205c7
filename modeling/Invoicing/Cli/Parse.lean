/-
**Line specs of the command line.**

* `parseLine` — a line `<desc>:<qty>:<price>`, split at its last two colons.
  **`parseLine_ok_iff`** — what it accepts, and what it makes of it.
* **`line_specs_exact`** — a description with any number of colons, a quantity and a price are read back;
  the description of an accepted line is all that stands before its second-to-last colon.
-/

import Invoicing.Lib.Decimal
import Invoicing.Lib.Fallible
import Invoicing.Lib.SplitText

namespace Invoicing

open SplitText

namespace Cli

/-- A parsed line. -/
structure LineSpec where
  description : String
  quantity : Decimal
  unitPrice : Decimal
  deriving DecidableEq

section Parse

-- how decimals are read, with the message where they are not
variable (fromStr : String → Except String Decimal)

def parseDecimal (label raw : String) : Except String Decimal :=
  (fromStr raw).mapError fun e => "invalid " ++ label ++ " `" ++ raw ++ "`: " ++ e

def parseLine (raw : String) : Except String LineSpec :=
  match rsplitn ':' 3 raw.toList with
  | [price, qty, desc] => do
      let unitPrice ← parseDecimal fromStr "line unit_price" (String.ofList price)
      let quantity ← parseDecimal fromStr "line quantity" (String.ofList qty)
      let description := String.ofList desc
      if (trim description.toList).isEmpty then
        .error ("--line `" ++ raw ++ "`: description must not be empty")
      else .ok ⟨description, quantity, unitPrice⟩
  | _ => .error ("invalid --line `" ++ raw ++ "` (expected `<desc>:<qty>:<price>`)")

variable {fromStr}

theorem parseDecimal_ok_iff {label raw : String} {d : Decimal} :
    parseDecimal fromStr label raw = .ok d ↔ fromStr raw = .ok d := by
  unfold parseDecimal
  cases fromStr raw with
  | error e => exact iff_of_false nofun nofun
  | ok read => exact Iff.rfl

/-- The characters of a line. -/
theorem toList_line (description quantity unitPrice : String) :
    (description ++ ":" ++ quantity ++ ":" ++ unitPrice).toList =
      joinedRight ':' description.toList [unitPrice.toList, quantity.toList] := by
  rw [toList_joined ':' rfl, toList_joined ':' rfl]
  rfl

/-- **What a line is accepted as**: a description that is not blank, and two numbers without colons. -/
theorem parseLine_ok_iff {raw : String} {spec : LineSpec} :
    parseLine fromStr raw = .ok spec ↔
      ∃ quantity unitPrice : String, raw = spec.description ++ ":" ++ quantity ++ ":" ++ unitPrice ∧
        ':' ∉ quantity.toList ∧ ':' ∉ unitPrice.toList ∧ fromStr quantity = .ok spec.quantity ∧
        fromStr unitPrice = .ok spec.unitPrice ∧ trim spec.description.toList ≠ [] := by
  constructor
  · intro accepted
    unfold parseLine at accepted
    split at accepted
    · rename_i price qty desc split
      have pieces : rsplitn ':' ([price, qty].length + 1) raw.toList = [price, qty] ++ [desc] := split
      obtain ⟨text, free⟩ := rsplitn_eq_iff.mp pieces
      obtain ⟨unitPrice, priced, rest⟩ := bind_ok accepted
      obtain ⟨quantity, counted, rest⟩ := bind_ok rest
      dsimp only at rest
      split at rest
      · cases rest
      · rename_i notBlank
        obtain rfl := Except.ok.inj rest
        refine ⟨String.ofList qty, String.ofList price, ?_, ?_, ?_, parseDecimal_ok_iff.mp counted,
          parseDecimal_ok_iff.mp priced, fun blank => notBlank (List.isEmpty_iff.mpr blank)⟩
        · apply String.toList_injective
          rw [toList_line, text]
          simp only [String.toList_ofList]
        · rw [String.toList_ofList]
          exact free qty (by simp)
        · rw [String.toList_ofList]
          exact free price (by simp)
    · cases accepted
  · rintro ⟨quantity, unitPrice, rfl, free, free', counted, priced, notBlank⟩
    have absent : ∀ piece ∈ [unitPrice.toList, quantity.toList], ':' ∉ piece := by
      simp only [List.forall_mem_cons]
      exact ⟨free', free, fun _ none => by cases none⟩
    have split : rsplitn ':' 3 (spec.description ++ ":" ++ quantity ++ ":" ++ unitPrice).toList =
        [unitPrice.toList, quantity.toList, spec.description.toList] :=
      rsplitn_eq_iff.mpr ⟨toList_line _ _ _, absent⟩
    have read : ∀ label, parseDecimal fromStr label quantity = .ok spec.quantity :=
      fun label => parseDecimal_ok_iff.mpr counted
    have read' : ∀ label, parseDecimal fromStr label unitPrice = .ok spec.unitPrice :=
      fun label => parseDecimal_ok_iff.mpr priced
    unfold parseLine
    rw [split]
    simp only [String.ofList_toList, read, read']
    exact if_neg fun blank => notBlank (List.isEmpty_iff.mp blank)

end Parse

/-! ### Exact lines -/

theorem colon_not_mem_decimal (d : Decimal) : ':' ∉ d.toString.toList := by
  intro member
  rw [Decimal.toString, String.toList_ofList] at member
  rcases Decimal.mem_text member with digit | minus | point
  · exact absurd digit (by decide)
  · exact absurd minus (by decide)
  · exact absurd point (by decide)

/-- **Line specs are exact.** A description that is not blank, a quantity and a price, with a colon between
each two, are read back as they are, however many colons the description has. The description of any line
that is accepted is what stands before its second-to-last colon. -/
theorem line_specs_exact {fromStr : String → Except String Decimal}
    (documented : ∀ d : Decimal, fromStr d.toString = .ok d) :
    (∀ (description : String) (q p : Decimal), trim description.toList ≠ [] →
        parseLine fromStr (description ++ ":" ++ q.toString ++ ":" ++ p.toString) =
          .ok ⟨description, q, p⟩) ∧
      ∀ raw spec, parseLine fromStr raw = .ok spec →
        ∃ quantity unitPrice : String, raw = spec.description ++ ":" ++ quantity ++ ":" ++ unitPrice ∧
          ':' ∉ quantity.toList ∧ ':' ∉ unitPrice.toList := by
  refine ⟨?_, ?_⟩
  · intro description q p notBlank
    exact parseLine_ok_iff.mpr ⟨q.toString, p.toString, rfl, colon_not_mem_decimal q,
      colon_not_mem_decimal p, documented q, documented p, notBlank⟩
  · intro raw spec accepted
    obtain ⟨quantity, unitPrice, text, free, free', _⟩ := parseLine_ok_iff.mp accepted
    exact ⟨quantity, unitPrice, text, free, free'⟩

/-- Plain decimal text as it is read. -/
def plainDecimal (text : String) : Except String Decimal :=
  match Decimal.fromStr text with
  | none => .error "Invalid decimal: unknown character"
  | some d => .ok d

theorem line_specs_exact_apartment :
    trim "Apt 1:second floor".toList ≠ [] ∧
      parseLine plainDecimal "Apt 1:second floor:2:50.50" =
        .ok ⟨"Apt 1:second floor", ⟨2, 0, by decide⟩, ⟨5050, 2, by decide⟩⟩ := by
  have documented : ∀ d : Decimal, plainDecimal d.toString = .ok d := by
    intro d
    rw [plainDecimal, Decimal.fromStr_toString]
  have notBlank : trim "Apt 1:second floor".toList ≠ [] := by decide +kernel
  have printed : "Apt 1:second floor:2:50.50" = "Apt 1:second floor" ++ ":" ++
      Decimal.toString ⟨2, 0, by decide⟩ ++ ":" ++ Decimal.toString ⟨5050, 2, by decide⟩ := by
    decide +kernel
  rw [printed]
  exact ⟨notBlank, (line_specs_exact documented).1 _ _ _ notBlank⟩

end Cli

end Invoicing
