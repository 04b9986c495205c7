/-
**What the tax of a line is.**

* `SameText` — texts that differ in ASCII case only. `TaxRate.Matches`, `TaxTable.matching` — the rows
  of a seller for a buyer, a category and a date; `TaxTable.applied` — those whose rates are charged.
* `NexusConfirmed` — the seller collects in the buyer's state. `specifiedTax` — amount, rows and flags
  of a line, in rational numbers.
* `treatment`, **`resolveTax_figures`** — the engine up to its warnings: which of four ways a line is
  treated, and what each way gives.
* **`resolveTax_specified`** — with exact operators the engine computes `specifiedTax`, and fails on an
  empty country only.
-/

import Invoicing.Lib.Rounding
import Invoicing.Tax.Resolver

namespace Invoicing

open Chrono (DateTime NaiveDate)

/-! ### Letter case -/

/-- The texts differ in ASCII case only. -/
def SameText (first second : String) : Prop :=
  first.toList.map Char.toLower = second.toList.map Char.toLower

instance (first second : String) : Decidable (SameText first second) :=
  inferInstanceAs (Decidable (_ = _))

theorem SameText.refl (s : String) : SameText s s := rfl

theorem SameText.symm {first second : String} (same : SameText first second) :
    SameText second first := Eq.symm same

theorem SameText.trans {first second third : String} (same : SameText first second)
    (same' : SameText second third) : SameText first third := Eq.trans same same'

theorem eqIgnoreAsciiCase_iff {first second : String} :
    eqIgnoreAsciiCase first second = true ↔ SameText first second := beq_iff_eq

/-- A comparison does not see the case of its right side. -/
theorem SameText.congr_right {text first second : String} (same : SameText first second) :
    SameText text first ↔ SameText text second :=
  ⟨fun there => there.trans same, fun there => there.trans same.symm⟩

theorem SameText.congr_left {text first second : String} (same : SameText first second) :
    SameText first text ↔ SameText second text :=
  ⟨fun there => same.symm.trans there, fun there => same.trans there⟩

theorem SameText.empty_iff {first second : String} (same : SameText first second) :
    first = "" ↔ second = "" := by
  have lengths : first.toList.length = second.toList.length := by
    have mapped := congrArg List.length same
    rw [List.length_map, List.length_map] at mapped
    exact mapped
  have none : ∀ text : String, text = "" ↔ text.toList.length = 0 := by
    intro text
    rw [← String.toList_inj, List.length_eq_zero_iff]
    rfl
  rw [none first, none second, lengths]

/-! ### Rows -/

/-- The row is one of the seller's, for this buyer, category and date. -/
def TaxRate.Matches (row : TaxRate) (seller : Jurisdiction) (buyer : Address)
    (category : TaxCategory) (date : NaiveDate) : Prop :=
  row.jurisdiction = seller ∧
    (∀ country ∈ row.appliesToBuyer.country, SameText country buyer.country) ∧
    (∀ want ∈ row.appliesToBuyer.region, ∃ region ∈ buyer.region, SameText want region) ∧
    row.category = category ∧ row.effectiveFrom ≤ date ∧ ∀ last ∈ row.effectiveTo, date ≤ last

instance (row : TaxRate) (seller : Jurisdiction) (buyer : Address) (category : TaxCategory)
    (date : NaiveDate) : Decidable (row.Matches seller buyer category date) :=
  inferInstanceAs (Decidable (_ ∧ _ ∧ _ ∧ _ ∧ _ ∧ _))

/-- The rows that match, in table order. -/
def TaxTable.matching (table : TaxTable) (seller : Jurisdiction) (buyer : Address)
    (category : TaxCategory) (date : NaiveDate) : List TaxRate :=
  table.rates.filter fun row => decide (row.Matches seller buyer category date)

/-- The rows whose rates a taxed line is charged at: the reduced ones for a reduced line when there are
any, else the standard ones. -/
def TaxTable.applied (table : TaxTable) (seller : Jurisdiction) (buyer : Address)
    (category : TaxCategory) (date : NaiveDate) : List TaxRate :=
  if category = .reduced ∧ table.matching seller buyer .reduced date ≠ [] then
    table.matching seller buyer .reduced date
  else table.matching seller buyer .standard date

/-- **A lookup finds the rows that match.** -/
theorem TaxTable.lookup_eq (table : TaxTable) (seller : Jurisdiction) (buyer : Address)
    (category : TaxCategory) (date : NaiveDate) :
    table.lookup seller buyer.country buyer.region category date =
      table.matching seller buyer category date := by
  refine List.filter_congr fun row _ => ?_
  have effective : row.isEffectiveOn date = true ↔
      row.effectiveFrom ≤ date ∧ ∀ last ∈ row.effectiveTo, date ≤ last := by
    unfold TaxRate.isEffectiveOn
    cases row.effectiveTo with
    | none => simp
    | some last => simp
  obtain ⟨buyerCountry, buyerRegion, _, _, _, _⟩ := buyer
  obtain ⟨_, _, ⟨country, region⟩, _, _, _, _⟩ := row
  rw [Bool.eq_iff_iff]
  cases country <;> cases region <;> cases buyerRegion <;>
    simp [TaxRate.Matches, effective, eqIgnoreAsciiCase_iff, and_assoc]

theorem TaxTable.applied_standard (table : TaxTable) (seller : Jurisdiction) (buyer : Address)
    (date : NaiveDate) :
    table.applied seller buyer .standard date = table.matching seller buyer .standard date :=
  if_neg fun both => absurd both.1 (by decide)

/-- **The rows picked for a taxed line.** -/
theorem pickRates_taxed {category : TaxCategory} (taxed : category = .standard ∨ category = .reduced)
    (seller : Jurisdiction) (buyer : Address) (table : TaxTable) (date : NaiveDate) :
    (pickRates seller buyer category table date).1 = table.applied seller buyer category date := by
  rcases taxed with rfl | rfl
  · rw [table.applied_standard]
    exact table.lookup_eq seller buyer .standard date
  · unfold pickRates TaxTable.applied
    simp only [table.lookup_eq, true_and]
    by_cases none : table.matching seller buyer .reduced date = []
    · rw [if_pos none, if_neg (not_not_intro none)]
    · rw [if_neg none, if_pos none]

/-- The rows recorded for a line without tax. -/
theorem pickRates_untaxed {category : TaxCategory}
    (untaxed : category = .zeroRated ∨ category = .exempt) (seller : Jurisdiction) (buyer : Address)
    (table : TaxTable) (date : NaiveDate) :
    (pickRates seller buyer category table date).1 = table.matching seller buyer category date := by
  rcases untaxed with rfl | rfl
  · exact table.lookup_eq seller buyer .zeroRated date
  · exact table.lookup_eq seller buyer .exempt date

/-! ### Nexus -/

/-- Enabled, and without thresholds or with one that is reached. -/
def NexusThreshold.Met (threshold : NexusThreshold) (figures : NexusFigures) : Prop :=
  threshold.enabled = true ∧
    ((threshold.revenue = none ∧ threshold.txnCount = none) ∨
      (∃ bound ∈ threshold.revenue, bound ≤ figures.revenue) ∨
        ∃ bound ∈ threshold.txnCount, bound ≤ figures.txnCount)

theorem NexusThreshold.hasNexus_iff {threshold : NexusThreshold} {figures : NexusFigures} :
    threshold.hasNexus figures = true ↔ threshold.Met figures := by
  unfold NexusThreshold.hasNexus NexusThreshold.Met
  cases threshold.revenue <;> cases threshold.txnCount <;> simp

/-- The seller collects in the buyer's state. -/
def NexusConfirmed (nexus : NexusConfig) (figures : NexusFigures) (buyer : Address) : Prop :=
  ∃ region ∈ buyer.region, ∃ threshold ∈ nexus.get region, threshold.Met figures

/-- What the code asks of the state. -/
theorem nexusConfirmed_iff {nexus : NexusConfig} {figures : NexusFigures} {buyer : Address} :
    NexusConfirmed nexus figures buyer ↔
      ∃ region ∈ buyer.region, ((nexus.get region).any fun row => row.hasNexus figures) = true := by
  unfold NexusConfirmed
  refine exists_congr fun region => and_congr_right fun _ => ?_
  cases nexus.get region with
  | none => simp
  | some threshold => simp [NexusThreshold.hasNexus_iff]

instance (nexus : NexusConfig) (figures : NexusFigures) (buyer : Address) :
    Decidable (NexusConfirmed nexus figures buyer) := decidable_of_iff' _ nexusConfirmed_iff

/-! ### The tax of a line -/

/-- The line's category has a rate of zero. -/
def TaxCategory.Untaxed (category : TaxCategory) : Prop := category = .zeroRated ∨ category = .exempt

instance (category : TaxCategory) : Decidable category.Untaxed :=
  inferInstanceAs (Decidable (_ ∨ _))

theorem TaxCategory.taxed_of_not {category : TaxCategory} (taxed : ¬ category.Untaxed) :
    category = .standard ∨ category = .reduced := by
  cases category with
  | standard => exact Or.inl rfl
  | reduced => exact Or.inr rfl
  | zeroRated => exact absurd (Or.inl rfl) taxed
  | exempt => exact absurd (Or.inr rfl) taxed

/-- The buyer is in the seller's country. -/
def AtHome (seller : Jurisdiction) (buyer : Address) : Prop := SameText buyer.country seller.country

/-- The buyer is known to be in the seller's region. -/
def InRegion (seller : Jurisdiction) (buyer : Address) : Prop :=
  ∃ region ∈ buyer.region, SameText region (sellerRegion seller)

instance (seller : Jurisdiction) (buyer : Address) : Decidable (AtHome seller buyer) :=
  inferInstanceAs (Decidable (SameText _ _))

instance (seller : Jurisdiction) (buyer : Address) : Decidable (InRegion seller buyer) :=
  inferInstanceAs (Decidable (∃ region ∈ buyer.region, SameText region (sellerRegion seller)))

/-- Amount, rows and flags of a line. -/
structure SpecifiedTax where
  amount : ℚ
  appliedRateIds : List String
  nexusReview : Bool
  isExport : Bool

/-- What the tax of a line is to be. -/
def specifiedTax (seller : Jurisdiction) (buyer : Address) (line : InvoiceLine) (currency : Currency)
    (table : TaxTable) (nexus : NexusConfig) (figures : NexusFigures) (date : NaiveDate) :
    SpecifiedTax :=
  if line.taxCategory.Untaxed then
    ⟨0, (table.matching seller buyer line.taxCategory date).map (·.id), false,
      decide (¬ AtHome seller buyer)⟩
  else if ¬ AtHome seller buyer then ⟨0, [], false, true⟩
  else if seller = .delawareUs ∧ ¬ InRegion seller buyer ∧ ¬ NexusConfirmed nexus figures buyer then
    ⟨0, [], true, false⟩
  else
    let rows := table.applied seller buyer line.taxCategory date
    ⟨Decimal.halfEven currency.scale
        (line.quantity.value * line.unitPrice.value * (rows.map (·.rate.value)).sum),
      rows.map (·.id), false, false⟩

/-! ### The engine up to its warnings -/

/-- What a resolution says apart from its warnings. -/
structure TaxFigures where
  amount : Decimal
  appliedRateIds : List String
  nexusReview : Bool
  isExport : Bool
  buyerScope : BuyerScope
  deriving DecidableEq

def ResolvedTax.figures (resolved : ResolvedTax) : TaxFigures :=
  ⟨resolved.amount, resolved.appliedRateIds, resolved.nexusReview, resolved.isExport,
    resolved.buyerScope⟩

/-- The ways a line is treated. -/
inductive TaxTreatment
  | recorded
  | exported
  | review
  | charged
  deriving DecidableEq

/-- The way a line is treated in a scope; `confirmed` is whether nexus is. -/
def treatment (seller : Jurisdiction) (category : TaxCategory) (confirmed : Bool) :
    BuyerScope → TaxTreatment
  | .exported => if category.Untaxed then .recorded else .exported
  | .domesticLocal => if category.Untaxed then .recorded else .charged
  | .domesticOther =>
      if category.Untaxed then .recorded
      else if seller = .delawareUs ∧ confirmed = false then .review
      else .charged

/-- What a way gives. -/
def TaxTreatment.figures (arith : Arith) (currency : Currency) (scope : BuyerScope) (base : Decimal)
    (recorded applied : List TaxRate) : TaxTreatment → Except (Stop TaxError) TaxFigures
  | .recorded => .ok ⟨currency.round Decimal.zero, recorded.map (·.id), false,
      decide (scope = .exported), scope⟩
  | .exported => .ok ⟨currency.round Decimal.zero, [], false, true, scope⟩
  | .review => .ok ⟨currency.round Decimal.zero, [], true, false, scope⟩
  | .charged => do
      let amount ← orPanic (taxOf arith base applied)
      return ⟨currency.round amount, applied.map (·.id), false, false, scope⟩

theorem applyRates_figures (arith : Arith) (currency : Currency) (scope : BuyerScope) (base : Decimal)
    (recorded rates : List TaxRate) (warnings : List String) :
    (applyRates arith currency scope base rates warnings).map ResolvedTax.figures =
      TaxTreatment.charged.figures arith currency scope base recorded rates := by
  unfold applyRates TaxTreatment.figures
  cases taxOf arith base rates with
  | none => rfl
  | some amount => rfl

/-- Rates over no rows give no tax. -/
theorem charged_none (arith : Arith) (currency : Currency) (scope : BuyerScope) (base : Decimal)
    (recorded : List TaxRate) :
    TaxTreatment.charged.figures arith currency scope base recorded [] =
      .ok ⟨currency.round Decimal.zero, [], false, false, scope⟩ := rfl

/-- **The engine up to its warnings.** -/
theorem resolveTax_figures (arith : Arith) (seller : Jurisdiction) (buyer : Address)
    (line : InvoiceLine) (currency : Currency) (table : TaxTable) (nexus : NexusConfig)
    (figures : NexusFigures) (time : DateTime) :
    (resolveTax arith seller buyer line currency table nexus figures time).map ResolvedTax.figures =
      (do
        let scope ← (classify seller buyer).mapError Stop.error
        let base ← orPanic (arith.mul line.quantity line.unitPrice)
        (treatment seller line.taxCategory (decide (NexusConfirmed nexus figures buyer)) scope).figures
          arith currency scope base (table.matching seller buyer line.taxCategory time.dateNaive)
          (table.applied seller buyer line.taxCategory time.dateNaive)) := by
  unfold resolveTax
  cases classify seller buyer with
  | error e => rfl
  | ok scope =>
    cases arith.mul line.quantity line.unitPrice with
    | none => rfl
    | some base =>
      simp only [Except.mapError, orPanic, bind, Except.bind]
      by_cases untaxed : line.taxCategory.Untaxed
      · have ids := pickRates_untaxed untaxed seller buyer table time.dateNaive
        have untaxed' : line.taxCategory = .zeroRated ∨ line.taxCategory = .exempt := untaxed
        rw [if_pos untaxed', ids]
        cases scope <;> simp only [treatment, untaxed, if_true] <;> rfl
      · have picked := pickRates_taxed (TaxCategory.taxed_of_not untaxed) seller buyer table
          time.dateNaive
        have taxed : ¬ (line.taxCategory = .zeroRated ∨ line.taxCategory = .exempt) := untaxed
        rw [if_neg taxed, picked]
        cases scope with
        | exported =>
          simp only [treatment, untaxed, if_false]
          rfl
        | domesticLocal =>
          simp only [treatment, untaxed, if_false]
          by_cases none : table.applied seller buyer line.taxCategory time.dateNaive = []
          · rw [if_pos none, none, charged_none]
            rfl
          · rw [if_neg none]
            exact applyRates_figures ..
        | domesticOther =>
          simp only [treatment, untaxed, if_false]
          cases seller with
          | quebecCa => exact applyRates_figures ..
          | algiersDz => exact applyRates_figures ..
          | delawareUs =>
            simp only [true_and]
            cases region : buyer.region with
            | none =>
              have unknown : ¬ NexusConfirmed nexus figures buyer := by
                rintro ⟨state, there, _⟩
                rw [region] at there
                cases there
              simp only [unknown, decide_false, if_true]
              rfl
            | some state =>
              have asked : NexusConfirmed nexus figures buyer ↔
                  ((nexus.get state).any fun row => row.hasNexus figures) = true := by
                rw [nexusConfirmed_iff, region]
                simp
              by_cases confirmed : NexusConfirmed nexus figures buyer
              · simp only [asked.mp confirmed, confirmed, if_true, decide_true, Bool.true_eq_false,
                  if_false]
                exact applyRates_figures ..
              · simp only [mt asked.mpr confirmed, confirmed, decide_false, if_true]
                rfl

/-! ### Scopes -/

/-- Where the buyer stands, when there is a country. -/
def scopeOf (seller : Jurisdiction) (buyer : Address) : BuyerScope :=
  if ¬ AtHome seller buyer then .exported
  else if InRegion seller buyer ∨ (buyer.region = none ∧ seller = .algiersDz) then .domesticLocal
  else .domesticOther

/-- **Classification fails on an empty country only.** -/
theorem classify_eq (seller : Jurisdiction) (buyer : Address) :
    classify seller buyer =
      if buyer.country = "" then .error (.invalidBuyerCountry buyer.country)
      else .ok (scopeOf seller buyer) := by
  unfold classify
  by_cases empty : buyer.country = ""
  · rw [if_pos empty, if_pos empty]
  · rw [if_neg empty, if_neg empty]
    unfold scopeOf
    by_cases home : AtHome seller buyer
    · have known : eqIgnoreAsciiCase buyer.country seller.country = true :=
        eqIgnoreAsciiCase_iff.mpr home
      rw [known, if_neg (not_not_intro home)]
      cases region : buyer.region with
      | none => cases seller <;> simp [InRegion, region]
      | some state =>
        by_cases there : SameText state (sellerRegion seller)
        · simp [InRegion, region, there, eqIgnoreAsciiCase_iff.mpr there]
        · simp [InRegion, region, there, mt eqIgnoreAsciiCase_iff.mp there]
    · have abroad : eqIgnoreAsciiCase buyer.country seller.country = false :=
        Bool.eq_false_iff.mpr (mt eqIgnoreAsciiCase_iff.mp home)
      rw [abroad, if_pos home]
      rfl

/-- The engine up to its warnings, for a buyer with a country. -/
theorem resolveTax_of_country {buyer : Address} (country : buyer.country ≠ "") (arith : Arith)
    (seller : Jurisdiction) (line : InvoiceLine) (currency : Currency) (table : TaxTable)
    (nexus : NexusConfig) (figures : NexusFigures) (time : DateTime) :
    (resolveTax arith seller buyer line currency table nexus figures time).map ResolvedTax.figures =
      (do
        let base ← orPanic (arith.mul line.quantity line.unitPrice)
        (treatment seller line.taxCategory (decide (NexusConfirmed nexus figures buyer))
            (scopeOf seller buyer)).figures arith currency (scopeOf seller buyer) base
          (table.matching seller buyer line.taxCategory time.dateNaive)
          (table.applied seller buyer line.taxCategory time.dateNaive)) := by
  rw [resolveTax_figures, classify_eq, if_neg country]
  rfl

theorem resolveTax_of_no_country {buyer : Address} (country : buyer.country = "") (arith : Arith)
    (seller : Jurisdiction) (line : InvoiceLine) (currency : Currency) (table : TaxTable)
    (nexus : NexusConfig) (figures : NexusFigures) (time : DateTime) :
    resolveTax arith seller buyer line currency table nexus figures time =
      .error (.error (.invalidBuyerCountry "")) := by
  unfold resolveTax
  rw [classify_eq, if_pos country, country]
  rfl

/-! ### The engine computes the specified tax -/

/-- Exact operators add the rates up. -/
theorem taxOf_value {arith : Arith} (exact : arith.Exact) {base : Decimal} {rows : List TaxRate}
    {amount : Decimal} (summed : taxOf arith base rows = some amount) :
    amount.value = base.value * (rows.map (·.rate.value)).sum := by
  have from_start : ∀ (rows : List TaxRate) (start amount : Decimal),
      rows.foldlM (fun amount row => do arith.add amount (← arith.mul base row.rate)) start =
        some amount → amount.value = start.value + base.value * (rows.map (·.rate.value)).sum := by
    intro rows
    induction rows with
    | nil =>
      intro start amount same
      cases same
      simp
    | cons row rest ih =>
      intro start amount same
      rw [List.foldlM_cons] at same
      obtain ⟨next, step, same⟩ := Option.bind_eq_some_iff.mp same
      obtain ⟨tax, product, sum⟩ := Option.bind_eq_some_iff.mp step
      rw [ih next amount same, exact.add _ _ _ sum, exact.mul _ _ _ product, List.map_cons,
        List.sum_cons]
      ring
  rw [from_start rows Decimal.zero amount summed, Decimal.value_zero, zero_add]

/-- An operator overflows on the line. -/
def TaxOverflows (arith : Arith) (line : InvoiceLine) (rows : List TaxRate) : Prop :=
  arith.mul line.quantity line.unitPrice = none ∨
    ∃ base, arith.mul line.quantity line.unitPrice = some base ∧ taxOf arith base rows = none

/-- A rounded amount is in minor units. -/
theorem Currency.round_ofPlaces (currency : Currency) (amount : Decimal) :
    Decimal.OfPlaces currency.scale (currency.round amount).value :=
  Decimal.roundDp_ofPlaces currency.scale amount

theorem Currency.value_round_zero (currency : Currency) :
    (currency.round Decimal.zero).value = 0 := by
  rw [Currency.round, Decimal.value_roundDp_of_ofPlaces, Decimal.value_zero]
  rw [Decimal.value_zero]
  exact .zero _

/-- A way fails only where the rates overflow. -/
theorem TaxTreatment.figures_error {arith : Arith} {currency : Currency} {scope : BuyerScope}
    {base : Decimal} {recorded applied : List TaxRate} {way : TaxTreatment} {stop : Stop TaxError}
    (failed : way.figures arith currency scope base recorded applied = .error stop) :
    stop = .panic ∧ taxOf arith base applied = none := by
  cases way with
  | charged =>
    unfold TaxTreatment.figures at failed
    cases summed : taxOf arith base applied with
    | none =>
      rw [summed] at failed
      cases failed
      exact ⟨rfl, rfl⟩
    | some amount =>
      rw [summed] at failed
      cases failed
  | _ => cases failed

/-- What a way gives is the specified tax. -/
theorem TaxTreatment.figures_specified {arith : Arith} (exact : arith.Exact) {seller : Jurisdiction}
    {buyer : Address} {line : InvoiceLine} {currency : Currency} {table : TaxTable}
    {nexus : NexusConfig} {figures : NexusFigures} {date : NaiveDate} {base : Decimal}
    (product : arith.mul line.quantity line.unitPrice = some base) {result : TaxFigures}
    (done : (treatment seller line.taxCategory (decide (NexusConfirmed nexus figures buyer))
        (scopeOf seller buyer)).figures arith currency (scopeOf seller buyer) base
      (table.matching seller buyer line.taxCategory date)
      (table.applied seller buyer line.taxCategory date) = .ok result) :
    SpecifiedTax.mk result.amount.value result.appliedRateIds result.nexusReview result.isExport =
      specifiedTax seller buyer line currency table nexus figures date := by
  have charged : ∀ {scope : BuyerScope} {recorded : List TaxRate},
      TaxTreatment.charged.figures arith currency scope base recorded
        (table.applied seller buyer line.taxCategory date) = .ok result →
      SpecifiedTax.mk result.amount.value result.appliedRateIds result.nexusReview result.isExport =
        ⟨Decimal.halfEven currency.scale (line.quantity.value * line.unitPrice.value *
            ((table.applied seller buyer line.taxCategory date).map (·.rate.value)).sum),
          (table.applied seller buyer line.taxCategory date).map (·.id), false, false⟩ := by
    intro scope recorded given
    unfold TaxTreatment.figures at given
    cases summed : taxOf arith base (table.applied seller buyer line.taxCategory date) with
    | none =>
      rw [summed] at given
      cases given
    | some amount =>
      rw [summed] at given
      cases given
      rw [Currency.round, Decimal.value_roundDp, taxOf_value exact summed, exact.mul _ _ _ product]
  unfold specifiedTax
  unfold scopeOf at done
  by_cases untaxed : line.taxCategory.Untaxed
  · rw [if_pos untaxed]
    by_cases home : AtHome seller buyer
    · rw [if_neg (not_not_intro home)] at done
      split at done <;>
        simp only [treatment, untaxed, if_true, TaxTreatment.figures, Except.ok.injEq] at done <;>
        rw [← done, currency.value_round_zero] <;> simp [home]
    · rw [if_pos home] at done
      simp only [treatment, untaxed, if_true, TaxTreatment.figures, Except.ok.injEq] at done
      rw [← done, currency.value_round_zero]
      simp [home]
  · rw [if_neg untaxed]
    by_cases home : AtHome seller buyer
    · rw [if_neg (not_not_intro home)] at done ⊢
      by_cases near : InRegion seller buyer ∨ (buyer.region = none ∧ seller = .algiersDz)
      · rw [if_pos near] at done
        simp only [treatment, untaxed, if_false] at done
        rw [if_neg, charged done]
        rintro ⟨us, outside, _⟩
        rcases near with inside | ⟨_, dz⟩
        · exact outside inside
        · rw [us] at dz
          cases dz
      · rw [if_neg near] at done
        have outside : ¬ InRegion seller buyer := fun inside => near (Or.inl inside)
        by_cases review : seller = .delawareUs ∧ ¬ NexusConfirmed nexus figures buyer
        · rw [if_pos ⟨review.1, outside, review.2⟩]
          simp only [treatment, untaxed, if_false, review.1, review.2, decide_false, and_self,
            if_true, TaxTreatment.figures, Except.ok.injEq] at done
          rw [← done, currency.value_round_zero]
        · rw [if_neg fun all => review ⟨all.1, all.2.2⟩]
          have gate : ¬ (seller = .delawareUs ∧
              decide (NexusConfirmed nexus figures buyer) = false) := by
            rintro ⟨us, unconfirmed⟩
            exact review ⟨us, of_decide_eq_false unconfirmed⟩
          simp only [treatment, untaxed, if_false, gate] at done
          exact charged done
    · rw [if_pos home] at done ⊢
      simp only [treatment, untaxed, if_false, TaxTreatment.figures, Except.ok.injEq] at done
      rw [← done, currency.value_round_zero]

/-- **The engine computes the specified tax**: it fails on an empty country only, and with exact
operators it gives the specified amount, rows and flags unless one of them overflows. -/
theorem resolveTax_specified {arith : Arith} (exact : arith.Exact) (seller : Jurisdiction)
    (buyer : Address) (line : InvoiceLine) (currency : Currency) (table : TaxTable)
    (nexus : NexusConfig) (figures : NexusFigures) (time : DateTime) :
    ((∃ e, resolveTax arith seller buyer line currency table nexus figures time =
        .error (.error e)) ↔ buyer.country = "") ∧
      (resolveTax arith seller buyer line currency table nexus figures time = .error .panic →
        TaxOverflows arith line (table.applied seller buyer line.taxCategory time.dateNaive)) ∧
      ∀ resolved,
        resolveTax arith seller buyer line currency table nexus figures time = .ok resolved →
          SpecifiedTax.mk resolved.amount.value resolved.appliedRateIds resolved.nexusReview
              resolved.isExport =
            specifiedTax seller buyer line currency table nexus figures time.dateNaive := by
  by_cases country : buyer.country = ""
  · have failed := resolveTax_of_no_country country arith seller line currency table nexus figures time
    rw [failed]
    refine ⟨⟨fun _ => country, fun _ => ⟨_, rfl⟩⟩, fun panic => ?_, fun resolved done => ?_⟩
    · cases panic
    · cases done
  · have parts := resolveTax_of_country country arith seller line currency table nexus figures time
    cases product : arith.mul line.quantity line.unitPrice with
    | none =>
      rw [product] at parts
      cases resolution : resolveTax arith seller buyer line currency table nexus figures time with
      | ok resolved =>
        rw [resolution] at parts
        cases parts
      | error stop =>
        rw [resolution] at parts
        cases parts
        refine ⟨⟨?_, fun empty => absurd empty country⟩, fun _ => Or.inl product, ?_⟩
        · rintro ⟨e, same⟩
          cases same
        · intro resolved done
          cases done
    | some base =>
      rw [product] at parts
      cases resolution : resolveTax arith seller buyer line currency table nexus figures time with
      | ok resolved =>
        rw [resolution] at parts
        refine ⟨⟨?_, fun empty => absurd empty country⟩, fun panic => ?_, fun result done => ?_⟩
        · rintro ⟨e, same⟩
          cases same
        · cases panic
        · cases done
          exact TaxTreatment.figures_specified exact product parts.symm
      | error stop =>
        rw [resolution] at parts
        obtain ⟨rfl, overflow⟩ := TaxTreatment.figures_error parts.symm
        refine ⟨⟨?_, fun empty => absurd empty country⟩, fun _ => Or.inr ⟨base, product, overflow⟩,
          fun result done => ?_⟩
        · rintro ⟨e, same⟩
          cases same
        · cases done

/-! ### A sale in Quebec -/

theorem valid_taxDay : Chrono.ValidYmd 2026 1 1 := by decide

theorem valid_noon : Chrono.ValidTime 43200 0 := by decide

def taxDay : NaiveDate := ⟨2026, 1, 1, valid_taxDay⟩

def taxNoon : DateTime := ⟨taxDay, 43200, 0, valid_noon⟩

theorem fits_price : Decimal.Fits 100 0 := by decide

theorem fits_gst : Decimal.Fits 5 2 := by decide

theorem fits_qst : Decimal.Fits 9975 5 := by decide

theorem fits_quebecTax : Decimal.Fits 1498 2 := by decide

/-- One unit at 100. -/
def unitLine (category : TaxCategory) : InvoiceLine where
  id := ⟨1⟩
  invoiceId := ⟨1⟩
  position := 0
  description := "Work"
  quantity := ⟨1, 0, Decimal.fits_one⟩
  unitPrice := ⟨100, 0, fits_price⟩
  taxRateIds := []
  taxCategory := category
  taxAmount := Decimal.zero
  lineTotal := Decimal.zero
  metadata := []

/-- A buyer known by country and region. -/
def buyerIn (country : String) (region : Option String) : Address :=
  ⟨country, region, none, none, none, none⟩

/-- 5 % for buyers in Canada. -/
def gstRow : TaxRate :=
  ⟨"ca-qc-gst", .quebecCa, ⟨some "CA", none⟩, .standard, ⟨5, 2, fits_gst⟩, taxDay, none⟩

/-- 9.975 % for buyers in Quebec. -/
def qstRow : TaxRate :=
  ⟨"ca-qc-qst", .quebecCa, ⟨some "CA", some "QC"⟩, .standard, ⟨9975, 5, fits_qst⟩, taxDay, none⟩

/-- 14.975 rounded to the even cent. -/
def quebecTax : ResolvedTax :=
  ⟨⟨1498, 2, fits_quebecTax⟩, ["ca-qc-gst", "ca-qc-qst"], false, false, .domesticLocal, []⟩

theorem resolveTax_specified_quebec :
    resolveTax Arith.exact .quebecCa (buyerIn "ca" (some "qc")) (unitLine .standard) Currency.cad
        ⟨[gstRow, qstRow]⟩ ⟨[]⟩ .default taxNoon = .ok quebecTax ∧
      SpecifiedTax.mk quebecTax.amount.value quebecTax.appliedRateIds quebecTax.nexusReview
          quebecTax.isExport =
        specifiedTax .quebecCa (buyerIn "ca" (some "qc")) (unitLine .standard) Currency.cad
          ⟨[gstRow, qstRow]⟩ ⟨[]⟩ .default taxDay := by
  have done : resolveTax Arith.exact .quebecCa (buyerIn "ca" (some "qc")) (unitLine .standard)
      Currency.cad ⟨[gstRow, qstRow]⟩ ⟨[]⟩ .default taxNoon = .ok quebecTax := by decide +kernel
  exact ⟨done, (resolveTax_specified Arith.exact_isExact .quebecCa (buyerIn "ca" (some "qc"))
    (unitLine .standard) Currency.cad ⟨[gstRow, qstRow]⟩ ⟨[]⟩ .default taxNoon).2.2 quebecTax done⟩

end Invoicing
