/-
**Laws of the tax engine.**

* **`signalled_iff`** — when a taxable line at home that no row applies to is reported: always, except a
  standard line of the Canadian or Algerian seller to a buyer outside the seller's region.
* **`same_case_iff`** — when two spellings of one address are taxed alike: always, except at the nexus
  gate, for a configuration that has one of the spellings as a key and not the upper-case one.
* **`national_tax`** — the Algerian seller charges every buyer in Algeria the same.
-/

import Mathlib
import Invoicing.Tax.Specification

namespace Invoicing

open Chrono (DateTime NaiveDate)

/-! ### A buyer at home has a country -/

theorem AtHome.country_ne {seller : Jurisdiction} {buyer : Address} (home : AtHome seller buyer) :
    buyer.country ≠ "" := by
  intro empty
  have none : seller.country = "" := home.empty_iff.mp empty
  cases seller <;> exact absurd none (by decide)

/-! ### Warnings -/

/-- What rates give, apart from the amount. -/
theorem applyRates_ok {arith : Arith} {currency : Currency} {scope : BuyerScope} {base : Decimal}
    {rates : List TaxRate} {warnings : List String} {resolved : ResolvedTax}
    (done : applyRates arith currency scope base rates warnings = .ok resolved) :
    resolved.appliedRateIds = rates.map (·.id) ∧ resolved.warnings = warnings := by
  obtain ⟨amount, _, rest⟩ := bind_ok done
  cases rest
  exact ⟨rfl, rfl⟩

section Signals

variable (arith : Arith) {seller : Jurisdiction} {buyer : Address} {line : InvoiceLine}
  (currency : Currency) (table : TaxTable) (nexus : NexusConfig) (figures : NexusFigures)
  (time : DateTime)

/-- Outside its region the Canadian or Algerian seller applies the rows there are. -/
theorem resolveTax_otherRegion (home : AtHome seller buyer)
    (other : scopeOf seller buyer = .domesticOther) (notUs : seller ≠ .delawareUs)
    (taxed : ¬ line.taxCategory.Untaxed) :
    resolveTax arith seller buyer line currency table nexus figures time = (do
      let base ← orPanic (arith.mul line.quantity line.unitPrice)
      applyRates arith currency .domesticOther base
        (pickRates seller buyer line.taxCategory table time.dateNaive).1
        (pickRates seller buyer line.taxCategory table time.dateNaive).2) := by
  have charged : ¬ (line.taxCategory = .zeroRated ∨ line.taxCategory = .exempt) := taxed
  unfold resolveTax
  rw [classify_eq, if_neg home.country_ne, other]
  simp only [Except.mapError, bind, Except.bind, if_neg charged]
  cases seller with
  | quebecCa => rfl
  | delawareUs => exact absurd rfl notUs
  | algiersDz => rfl

/-- In its region a seller says so when there are no rows. -/
theorem resolveTax_inRegion (home : AtHome seller buyer)
    (near : scopeOf seller buyer = .domesticLocal) (taxed : ¬ line.taxCategory.Untaxed)
    {resolved : ResolvedTax}
    (done : resolveTax arith seller buyer line currency table nexus figures time = .ok resolved)
    (unapplied : resolved.appliedRateIds = []) : resolved.warnings ≠ [] := by
  have charged : ¬ (line.taxCategory = .zeroRated ∨ line.taxCategory = .exempt) := taxed
  unfold resolveTax at done
  rw [classify_eq, if_neg home.country_ne, near] at done
  simp only [Except.mapError, bind, Except.bind, if_neg charged] at done
  cases product : arith.mul line.quantity line.unitPrice with
  | none =>
    rw [product] at done
    cases done
  | some base =>
    rw [product] at done
    simp only [orPanic] at done
    by_cases none : (pickRates seller buyer line.taxCategory table time.dateNaive).1 = []
    · rw [if_pos none] at done
      cases done
      exact List.append_ne_nil_of_right_ne_nil _ (List.cons_ne_nil _ _)
    · rw [if_neg none] at done
      rw [(applyRates_ok done).1] at unapplied
      exact absurd (List.map_eq_nil_iff.mp unapplied) none

/-- Outside its region the United States seller says so, or asks for review. -/
theorem resolveTax_otherState (home : AtHome .delawareUs buyer)
    (other : scopeOf .delawareUs buyer = .domesticOther) (taxed : ¬ line.taxCategory.Untaxed)
    {resolved : ResolvedTax}
    (done : resolveTax arith .delawareUs buyer line currency table nexus figures time = .ok resolved)
    (unapplied : resolved.appliedRateIds = []) :
    resolved.warnings ≠ [] ∨ resolved.nexusReview = true := by
  have charged : ¬ (line.taxCategory = .zeroRated ∨ line.taxCategory = .exempt) := taxed
  unfold resolveTax at done
  rw [classify_eq, if_neg home.country_ne, other] at done
  simp only [Except.mapError, bind, Except.bind, if_neg charged] at done
  cases product : arith.mul line.quantity line.unitPrice with
  | none =>
    rw [product] at done
    cases done
  | some base =>
    rw [product] at done
    simp only [orPanic] at done
    cases region : buyer.region with
    | none =>
      rw [region] at done
      cases done
      exact Or.inr rfl
    | some state =>
      rw [region] at done
      simp only at done
      split at done
      · obtain ⟨ids, warnings⟩ := applyRates_ok done
        rw [ids] at unapplied
        have none := List.map_eq_nil_iff.mp unapplied
        rw [warnings, if_pos none]
        exact Or.inl (List.append_ne_nil_of_right_ne_nil _ (List.cons_ne_nil _ _))
      · cases done
        exact Or.inr rfl

end Signals

/-! ### Untaxed without a word -/

/-- The Canadian seller has a buyer not known to be in Quebec, or the Algerian seller one known to be
outside Algiers. -/
def OtherRegion (seller : Jurisdiction) (buyer : Address) : Prop :=
  (seller = .quebecCa ∧ ¬ InRegion .quebecCa buyer) ∨
    (seller = .algiersDz ∧ buyer.region ≠ none ∧ ¬ InRegion .algiersDz buyer)

/-- A standard line that no row applies to, for such a buyer; the line's amount fits. -/
def SilentlyUntaxed (arith : Arith) (seller : Jurisdiction) (buyer : Address) (line : InvoiceLine)
    (table : TaxTable) (date : NaiveDate) : Prop :=
  OtherRegion seller buyer ∧ line.taxCategory = .standard ∧
    table.matching seller buyer .standard date = [] ∧
    arith.mul line.quantity line.unitPrice ≠ none

theorem scopeOf_other_iff {seller : Jurisdiction} {buyer : Address} (home : AtHome seller buyer) :
    scopeOf seller buyer = .domesticOther ∧ seller ≠ .delawareUs ↔ OtherRegion seller buyer := by
  unfold scopeOf OtherRegion
  rw [if_neg (not_not_intro home)]
  cases seller <;> simp [not_or, and_comm]

/-- The standard line of such a buyer has no tax, no warning and no flag. -/
theorem SilentlyUntaxed.silent {arith : Arith} {seller : Jurisdiction} {buyer : Address}
    {line : InvoiceLine} {table : TaxTable} {time : DateTime} (home : AtHome seller buyer)
    (silent : SilentlyUntaxed arith seller buyer line table time.dateNaive) (currency : Currency)
    (nexus : NexusConfig) (figures : NexusFigures) :
    resolveTax arith seller buyer line currency table nexus figures time =
      .ok (noTax currency .domesticOther false []) := by
  obtain ⟨region, standard, none, fits⟩ := silent
  obtain ⟨other, notUs⟩ := (scopeOf_other_iff home).mpr region
  have taxed : ¬ line.taxCategory.Untaxed := by
    rw [standard]
    decide
  obtain ⟨base, product⟩ := Option.ne_none_iff_exists'.mp fits
  have picked : pickRates seller buyer .standard table time.dateNaive = ([], []) :=
    Prod.ext ((table.lookup_eq seller buyer .standard time.dateNaive).trans none) rfl
  rw [resolveTax_otherRegion arith currency table nexus figures time home other notUs taxed, standard,
    picked, product]
  rfl

/-- The rows of a taxable line and the warnings that come with them. -/
theorem pickRates_silent {category : TaxCategory} {seller : Jurisdiction} {buyer : Address}
    {table : TaxTable} {date : NaiveDate} (taxed : category = .standard ∨ category = .reduced)
    (none : (pickRates seller buyer category table date).1 = [])
    (silent : (pickRates seller buyer category table date).2 = []) :
    category = .standard ∧ table.matching seller buyer .standard date = [] := by
  rcases taxed with rfl | rfl
  · exact ⟨rfl, (table.lookup_eq seller buyer .standard date).symm.trans none⟩
  · unfold pickRates at none silent
    simp only at none silent
    split at silent
    · cases silent
    · rename_i some
      rw [if_neg some] at none
      exact absurd none some

/-- **Taxable lines without rows are reported, except** a standard line for a buyer outside the region
of the Canadian or the Algerian seller. -/
theorem signalled_iff (arith : Arith) {seller : Jurisdiction} {buyer : Address} {line : InvoiceLine}
    (currency : Currency) (table : TaxTable) (nexus : NexusConfig) (figures : NexusFigures)
    (time : DateTime) (home : AtHome seller buyer)
    (taxed : line.taxCategory = .standard ∨ line.taxCategory = .reduced) :
    (∀ resolved,
        resolveTax arith seller buyer line currency table nexus figures time = .ok resolved →
          resolved.appliedRateIds = [] → resolved.warnings ≠ [] ∨ resolved.nexusReview = true) ↔
      ¬ SilentlyUntaxed arith seller buyer line table time.dateNaive := by
  have charged : ¬ line.taxCategory.Untaxed := by
    rcases taxed with same | same <;> rw [same] <;> decide
  constructor
  · intro signalled silent
    rcases signalled _ (silent.silent home currency nexus figures) rfl with warned | review
    · exact warned rfl
    · cases review
  · intro loud resolved done unapplied
    cases scope : scopeOf seller buyer with
    | exported =>
      unfold scopeOf at scope
      rw [if_neg (not_not_intro home)] at scope
      split at scope <;> cases scope
    | domesticLocal =>
      exact Or.inl (resolveTax_inRegion arith currency table nexus figures time home scope charged done
        unapplied)
    | domesticOther =>
      by_cases us : seller = .delawareUs
      · subst us
        exact resolveTax_otherState arith currency table nexus figures time home scope charged done
          unapplied
      · rw [resolveTax_otherRegion arith currency table nexus figures time home scope us charged] at done
        obtain ⟨base, product, applied⟩ := bind_ok done
        obtain ⟨ids, warnings⟩ := applyRates_ok applied
        rw [ids] at unapplied
        refine Or.inl fun silent => loud ?_
        obtain ⟨standard, none⟩ := pickRates_silent taxed (List.map_eq_nil_iff.mp unapplied)
          (warnings.symm.trans silent)
        refine ⟨(scopeOf_other_iff home).mp ⟨scope, us⟩, standard, none, ?_⟩
        rw [orPanic_ok product]
        exact Option.some_ne_none base

/-- A buyer in Ontario, and rows for Quebec only. -/
theorem ontario_untaxed :
    ¬ ∀ resolved,
      resolveTax Arith.exact .quebecCa (buyerIn "CA" (some "ON")) (unitLine .standard) Currency.cad
          ⟨[qstRow]⟩ ⟨[]⟩ .default taxNoon = .ok resolved →
        resolved.appliedRateIds = [] → resolved.warnings ≠ [] ∨ resolved.nexusReview = true := by
  intro signalled
  have home : AtHome .quebecCa (buyerIn "CA" (some "ON")) := by decide
  have outside : ¬ InRegion .quebecCa (buyerIn "CA" (some "ON")) := by decide
  have silent : SilentlyUntaxed Arith.exact .quebecCa (buyerIn "CA" (some "ON")) (unitLine .standard)
      ⟨[qstRow]⟩ taxDay := ⟨Or.inl ⟨rfl, outside⟩, rfl, by decide, by decide⟩
  have done : resolveTax Arith.exact .quebecCa (buyerIn "CA" (some "ON")) (unitLine .standard)
      Currency.cad ⟨[qstRow]⟩ ⟨[]⟩ .default taxNoon = .ok (noTax Currency.cad .domesticOther false []) :=
    silent.silent home Currency.cad ⟨[]⟩ .default
  rcases signalled _ done rfl with warned | review
  · exact warned rfl
  · cases review

theorem signalled_iff_quebec :
    AtHome .quebecCa (buyerIn "CA" (some "QC")) ∧
      ((∀ resolved,
          resolveTax Arith.exact .quebecCa (buyerIn "CA" (some "QC")) (unitLine .reduced)
              Currency.cad ⟨[]⟩ ⟨[]⟩ .default taxNoon = .ok resolved →
            resolved.appliedRateIds = [] → resolved.warnings ≠ [] ∨ resolved.nexusReview = true) ↔
        ¬ SilentlyUntaxed Arith.exact .quebecCa (buyerIn "CA" (some "QC")) (unitLine .reduced) ⟨[]⟩
          taxDay) := by
  have home : AtHome .quebecCa (buyerIn "CA" (some "QC")) := by decide
  exact ⟨home, signalled_iff Arith.exact Currency.cad ⟨[]⟩ ⟨[]⟩ .default taxNoon home (Or.inr rfl)⟩

/-! ### Spellings of one address -/

/-- The addresses differ in the ASCII case of country and region only. -/
def SameAddress (first second : Address) : Prop :=
  SameText first.country second.country ∧ Option.Rel SameText first.region second.region ∧
    second = { first with country := second.country, region := second.region }

section Spellings

variable {first second : Address}

theorem SameAddress.atHome_iff (same : SameAddress first second) (seller : Jurisdiction) :
    AtHome seller first ↔ AtHome seller second := same.1.congr_left

theorem SameAddress.exists_region_iff (same : SameAddress first second) (text : String) :
    (∃ region ∈ first.region, SameText text region) ↔ ∃ region ∈ second.region, SameText text region := by
  obtain ⟨_, regions, _⟩ := same
  generalize first.region = region at regions ⊢
  generalize second.region = region' at regions ⊢
  cases regions with
  | none => exact Iff.rfl
  | some spelled => simpa using spelled.congr_right

theorem SameAddress.inRegion_iff (same : SameAddress first second) (seller : Jurisdiction) :
    InRegion seller first ↔ InRegion seller second := by
  have regions := same.exists_region_iff (sellerRegion seller)
  unfold InRegion
  simpa only [show ∀ a b, SameText a b ↔ SameText b a from fun _ _ => ⟨.symm, .symm⟩] using regions

theorem SameAddress.region_none_iff (same : SameAddress first second) :
    first.region = none ↔ second.region = none := by
  obtain ⟨_, regions, _⟩ := same
  generalize first.region = region at regions ⊢
  generalize second.region = region' at regions ⊢
  cases regions with
  | none => exact Iff.rfl
  | some _ => simp

theorem SameAddress.scopeOf_eq (same : SameAddress first second) (seller : Jurisdiction) :
    scopeOf seller first = scopeOf seller second := by
  unfold scopeOf
  simp only [same.atHome_iff seller, same.inRegion_iff seller, same.region_none_iff]

theorem SameAddress.matches_iff (same : SameAddress first second) (row : TaxRate)
    (seller : Jurisdiction) (category : TaxCategory) (date : NaiveDate) :
    row.Matches seller first category date ↔ row.Matches seller second category date := by
  unfold TaxRate.Matches
  simp only [same.1.congr_right, same.exists_region_iff]

theorem SameAddress.matching_eq (same : SameAddress first second) (table : TaxTable)
    (seller : Jurisdiction) (category : TaxCategory) (date : NaiveDate) :
    table.matching seller first category date = table.matching seller second category date := by
  refine List.filter_congr fun row _ => ?_
  simp only [same.matches_iff]

theorem SameAddress.applied_eq (same : SameAddress first second) (table : TaxTable)
    (seller : Jurisdiction) (category : TaxCategory) (date : NaiveDate) :
    table.applied seller first category date = table.applied seller second category date := by
  unfold TaxTable.applied
  simp only [same.matching_eq]

end Spellings

/-- The state has a row under this very key, and the row is met. -/
def MetUnder (nexus : NexusConfig) (figures : NexusFigures) (key : String) : Prop :=
  ∃ threshold ∈ nexus.states.lookup key, threshold.Met figures

/-- The line reaches the nexus gate: a taxable line of the United States seller whose amount fits, for a
buyer at home outside Delaware. -/
def ReachesGate (arith : Arith) (seller : Jurisdiction) (buyer : Address) (line : InvoiceLine) : Prop :=
  seller = .delawareUs ∧ AtHome seller buyer ∧ ¬ InRegion seller buyer ∧ ¬ line.taxCategory.Untaxed ∧
    arith.mul line.quantity line.unitPrice ≠ none

/-- The configuration answers differently to two spellings of a state: it has no row under the upper-case
code, and the rows under the two spellings differ. -/
def SpellingMatters (nexus : NexusConfig) (figures : NexusFigures) (first second : Address) : Prop :=
  ∃ region ∈ first.region, ∃ region' ∈ second.region,
    nexus.states.lookup (toAsciiUppercase region) = none ∧
      ¬ (MetUnder nexus figures region ↔ MetUnder nexus figures region')

/-- Spellings of one text have one upper-case form. -/
theorem SameText.upper_eq {first second : String} (same : SameText first second) :
    toAsciiUppercase first = toAsciiUppercase second := by
  have lowered : ∀ s : String, s.toList.map Char.toUpper = (s.toList.map Char.toLower).map Char.toUpper := by
    intro s
    rw [List.map_map]
    exact List.map_congr_left fun c _ => (Char.toUpper_toLower_eq_toUpper c).symm
  unfold toAsciiUppercase
  rw [lowered first, lowered second, same]

/-- **The gate sees the spelling exactly then.** -/
theorem spellingMatters_iff {nexus : NexusConfig} {figures : NexusFigures} {first second : Address}
    (same : SameAddress first second) :
    SpellingMatters nexus figures first second ↔
      ¬ (NexusConfirmed nexus figures first ↔ NexusConfirmed nexus figures second) := by
  obtain ⟨_, regions, _⟩ := same
  unfold SpellingMatters NexusConfirmed
  generalize first.region = region at regions ⊢
  generalize second.region = region' at regions ⊢
  cases regions with
  | none => simp
  | @some region region' spelled =>
    have upper := spelled.upper_eq
    have found : ∀ {key : String}, toAsciiUppercase key = toAsciiUppercase region' →
        nexus.states.lookup (toAsciiUppercase region') = none →
        nexus.get key = nexus.states.lookup key := by
      intro key spelling absent
      unfold NexusConfig.get
      rw [spelling, absent]
      rfl
    simp only [Option.mem_def, Option.some.injEq, exists_eq_left', upper]
    cases row : nexus.states.lookup (toAsciiUppercase region') with
    | some threshold =>
      have first : nexus.get region = some threshold := by
        unfold NexusConfig.get
        rw [upper, row]
        rfl
      have second : nexus.get region' = some threshold := by
        unfold NexusConfig.get
        rw [row]
        rfl
      simp [first, second]
    | none =>
      simp only [true_and, found upper row, found rfl row]
      exact Iff.rfl

theorem scopeOf_us_other_iff {buyer : Address} :
    scopeOf .delawareUs buyer = .domesticOther ↔
      AtHome .delawareUs buyer ∧ ¬ InRegion .delawareUs buyer := by
  unfold scopeOf
  by_cases home : AtHome .delawareUs buyer
  · by_cases inside : InRegion .delawareUs buyer <;> simp [home, inside]
  · simp [home]

/-- Review and charging never give the same. -/
theorem review_ne_charged (arith : Arith) (currency : Currency) (scope : BuyerScope) (base : Decimal)
    (recorded applied : List TaxRate) :
    TaxTreatment.review.figures arith currency scope base recorded applied ≠
      TaxTreatment.charged.figures arith currency scope base recorded applied := by
  unfold TaxTreatment.figures
  intro same
  cases summed : taxOf arith base applied with
  | none =>
    rw [summed] at same
    cases same
  | some amount =>
    rw [summed] at same
    have flags : true = false := congrArg TaxFigures.nexusReview (Except.ok.inj same)
    cases flags

/-- The nexus answer matters at the gate only. -/
theorem treatment_congr {seller : Jurisdiction} {category : TaxCategory} {scope : BuyerScope}
    {confirmed confirmed' : Bool}
    (same : seller = .delawareUs → scope = .domesticOther → ¬ category.Untaxed → confirmed = confirmed') :
    treatment seller category confirmed scope = treatment seller category confirmed' scope := by
  by_cases untaxed : category.Untaxed
  · cases scope <;> simp only [treatment, untaxed, if_true]
  · cases scope with
    | domesticOther =>
      by_cases us : seller = .delawareUs
      · rw [same us rfl untaxed]
      · simp only [treatment, untaxed, us, false_and, if_false]
    | _ => rfl

/-- At the gate, a line is charged or kept for review. -/
theorem treatment_gate {category : TaxCategory} (taxed : ¬ category.Untaxed) (confirmed : Bool) :
    treatment .delawareUs category confirmed .domesticOther =
      if confirmed then .charged else .review := by
  cases confirmed <;> simp [treatment, taxed]

/-- Two spellings the gate tells apart are taxed differently. -/
theorem SpellingMatters.differ {arith : Arith} {seller : Jurisdiction} {line : InvoiceLine}
    {nexus : NexusConfig} {figures : NexusFigures} {first second : Address}
    (same : SameAddress first second) (reaches : ReachesGate arith seller first line)
    (spelling : SpellingMatters nexus figures first second) (currency : Currency) (table : TaxTable)
    (time : DateTime) :
    (resolveTax arith seller first line currency table nexus figures time).map ResolvedTax.figures ≠
      (resolveTax arith seller second line currency table nexus figures time).map
        ResolvedTax.figures := by
  obtain ⟨us, home, outside, taxed, fits⟩ := reaches
  obtain ⟨base, product⟩ := Option.ne_none_iff_exists'.mp fits
  have apart := (spellingMatters_iff same).mp spelling
  subst us
  have home' : AtHome .delawareUs second := (same.atHome_iff .delawareUs).mp home
  rw [resolveTax_of_country home.country_ne, resolveTax_of_country home'.country_ne,
    same.matching_eq, same.applied_eq, product, ← same.scopeOf_eq,
    scopeOf_us_other_iff.mpr ⟨home, outside⟩, treatment_gate taxed, treatment_gate taxed]
  intro equal
  by_cases confirmed : NexusConfirmed nexus figures first
  · have unconfirmed : ¬ NexusConfirmed nexus figures second := fun there =>
      apart (iff_of_true confirmed there)
    simp only [confirmed, unconfirmed, decide_true, decide_false, if_true, Bool.false_eq_true,
      if_false, orPanic, bind, Except.bind] at equal
    exact review_ne_charged _ _ _ _ _ _ equal.symm
  · have confirmed' : NexusConfirmed nexus figures second := by
      by_contra there
      exact apart (iff_of_false confirmed there)
    simp only [confirmed, confirmed', decide_true, decide_false, if_true, Bool.false_eq_true,
      if_false, orPanic, bind, Except.bind] at equal
    exact review_ne_charged _ _ _ _ _ _ equal

/-- Spellings the gate does not tell apart are taxed alike. -/
theorem same_case {arith : Arith} {seller : Jurisdiction} {line : InvoiceLine} {nexus : NexusConfig}
    {figures : NexusFigures} {first second : Address} (same : SameAddress first second)
    (blind : ¬ (ReachesGate arith seller first line ∧ SpellingMatters nexus figures first second))
    (currency : Currency) (table : TaxTable) (time : DateTime) :
    (resolveTax arith seller first line currency table nexus figures time).map ResolvedTax.figures =
      (resolveTax arith seller second line currency table nexus figures time).map
        ResolvedTax.figures := by
  by_cases country : first.country = ""
  · rw [resolveTax_of_no_country country, resolveTax_of_no_country (same.1.empty_iff.mp country)]
  · rw [resolveTax_of_country country, resolveTax_of_country (mt same.1.empty_iff.mpr country),
      same.scopeOf_eq, same.matching_eq, same.applied_eq]
    cases product : arith.mul line.quantity line.unitPrice with
    | none => rfl
    | some base =>
      rw [treatment_congr]
      intro us other taxed
      subst us
      rw [← same.scopeOf_eq] at other
      obtain ⟨home, outside⟩ := scopeOf_us_other_iff.mp other
      have alike : NexusConfirmed nexus figures first ↔ NexusConfirmed nexus figures second := by
        by_contra differ
        refine blind ⟨⟨rfl, home, outside, taxed, ?_⟩, (spellingMatters_iff same).mpr differ⟩
        rw [product]
        exact Option.some_ne_none base
      exact decide_eq_decide.mpr alike

/-- **Tax does not depend on letter case, except** at a nexus gate that answers differently to two
spellings. -/
theorem same_case_iff (arith : Arith) (seller : Jurisdiction) (line : InvoiceLine)
    (currency : Currency) (table : TaxTable) (nexus : NexusConfig) (figures : NexusFigures)
    (time : DateTime) {first second : Address} (same : SameAddress first second) :
    (resolveTax arith seller first line currency table nexus figures time).map ResolvedTax.figures =
        (resolveTax arith seller second line currency table nexus figures time).map
          ResolvedTax.figures ↔
      ¬ (ReachesGate arith seller first line ∧ SpellingMatters nexus figures first second) :=
  ⟨fun equal both => both.2.differ same both.1 currency table time equal,
    fun blind => same_case same blind currency table time⟩

/-- The seller collects in California, written in lower case. -/
def lowerCaseNexus : NexusConfig := ⟨[("ca", ⟨true, none, none⟩)]⟩

theorem sameAddress_california :
    SameAddress (buyerIn "US" (some "CA")) (buyerIn "us" (some "ca")) :=
  ⟨by decide, .some (by decide), rfl⟩

theorem california_spelled :
    SameAddress (buyerIn "US" (some "CA")) (buyerIn "us" (some "ca")) ∧
      (resolveTax Arith.exact .delawareUs (buyerIn "US" (some "CA")) (unitLine .standard) Currency.usd
          ⟨[]⟩ lowerCaseNexus .default taxNoon).map ResolvedTax.figures ≠
        (resolveTax Arith.exact .delawareUs (buyerIn "us" (some "ca")) (unitLine .standard)
          Currency.usd ⟨[]⟩ lowerCaseNexus .default taxNoon).map ResolvedTax.figures := by
  have outside : ¬ InRegion .delawareUs (buyerIn "US" (some "CA")) := by decide
  have reaches : ReachesGate Arith.exact .delawareUs (buyerIn "US" (some "CA")) (unitLine .standard) :=
    ⟨rfl, by decide, outside, by decide, by decide⟩
  have spelling : SpellingMatters lowerCaseNexus .default (buyerIn "US" (some "CA"))
      (buyerIn "us" (some "ca")) := by
    refine ⟨"CA", rfl, "ca", rfl, by decide, fun same => ?_⟩
    obtain ⟨_, there, _⟩ := same.mpr ⟨_, rfl, rfl, Or.inl ⟨rfl, rfl⟩⟩
    have absent : lowerCaseNexus.states.lookup "CA" = none := by decide
    rw [absent] at there
    cases there
  exact ⟨sameAddress_california, spelling.differ sameAddress_california reaches Currency.usd ⟨[]⟩ taxNoon⟩

theorem same_case_iff_california :
    SameAddress (buyerIn "US" (some "CA")) (buyerIn "us" (some "ca")) ∧
      ((resolveTax Arith.exact .delawareUs (buyerIn "US" (some "CA")) (unitLine .standard)
            Currency.usd ⟨[]⟩ lowerCaseNexus .default taxNoon).map ResolvedTax.figures =
          (resolveTax Arith.exact .delawareUs (buyerIn "us" (some "ca")) (unitLine .standard)
            Currency.usd ⟨[]⟩ lowerCaseNexus .default taxNoon).map ResolvedTax.figures ↔
        ¬ (ReachesGate Arith.exact .delawareUs (buyerIn "US" (some "CA")) (unitLine .standard) ∧
          SpellingMatters lowerCaseNexus .default (buyerIn "US" (some "CA"))
            (buyerIn "us" (some "ca")))) :=
  ⟨sameAddress_california, same_case_iff Arith.exact .delawareUs (unitLine .standard) Currency.usd ⟨[]⟩
    lowerCaseNexus .default taxNoon sameAddress_california⟩

/-! ### The nexus gate -/

/-- A taxable line at the gate: charged at the rows there are, or untaxed and kept for review. -/
theorem resolveTax_gate {arith : Arith} {buyer : Address} {line : InvoiceLine} {currency : Currency}
    {table : TaxTable} {nexus : NexusConfig} {figures : NexusFigures} {time : DateTime}
    {resolved : ResolvedTax} (home : AtHome .delawareUs buyer) (outside : ¬ InRegion .delawareUs buyer)
    (taxed : ¬ line.taxCategory.Untaxed)
    (done : resolveTax arith .delawareUs buyer line currency table nexus figures time = .ok resolved) :
    (NexusConfirmed nexus figures buyer →
      resolved.nexusReview = false ∧
        resolved.appliedRateIds =
          (table.applied .delawareUs buyer line.taxCategory time.dateNaive).map (·.id) ∧
        ∃ base amount, arith.mul line.quantity line.unitPrice = some base ∧
          taxOf arith base (table.applied .delawareUs buyer line.taxCategory time.dateNaive) =
            some amount ∧
          resolved.amount = currency.round amount) ∧
      (¬ NexusConfirmed nexus figures buyer → resolved.nexusReview = true) := by
  have parts := resolveTax_of_country home.country_ne arith .delawareUs line currency table nexus
    figures time
  rw [done, scopeOf_us_other_iff.mpr ⟨home, outside⟩, treatment_gate taxed] at parts
  obtain ⟨base, product, rest⟩ := bind_ok parts.symm
  constructor
  · intro confirmed
    simp only [confirmed, decide_true, if_true] at rest
    obtain ⟨amount, summed, rest⟩ := bind_ok rest
    have same : TaxFigures.mk (currency.round amount) _ false false .domesticOther =
      resolved.figures := Except.ok.inj rest
    exact ⟨(congrArg TaxFigures.nexusReview same).symm, (congrArg TaxFigures.appliedRateIds same).symm,
      base, amount, orPanic_ok product, orPanic_ok summed, (congrArg TaxFigures.amount same).symm⟩
  · intro unconfirmed
    simp only [unconfirmed, decide_false, if_false, Bool.false_eq_true] at rest
    exact (congrArg TaxFigures.nexusReview (Except.ok.inj rest)).symm

/-- A line without tax is not kept for review. -/
theorem resolveTax_untaxed {arith : Arith} {seller : Jurisdiction} {buyer : Address} {line : InvoiceLine}
    {currency : Currency} {table : TaxTable} {nexus : NexusConfig} {figures : NexusFigures}
    {time : DateTime} {resolved : ResolvedTax} (untaxed : line.taxCategory.Untaxed)
    (done : resolveTax arith seller buyer line currency table nexus figures time = .ok resolved) :
    resolved.nexusReview = false := by
  have parts := resolveTax_figures arith seller buyer line currency table nexus figures time
  rw [done] at parts
  obtain ⟨scope, _, rest⟩ := bind_ok parts.symm
  obtain ⟨base, _, rest⟩ := bind_ok rest
  have recorded : treatment seller line.taxCategory (decide (NexusConfirmed nexus figures buyer)) scope =
      .recorded := by
    cases scope <;> simp only [treatment, untaxed, if_true]
  rw [recorded] at rest
  exact (congrArg TaxFigures.nexusReview (Except.ok.inj rest)).symm

/-! ### The Algerian seller -/

/-- Amount and rows. -/
def TaxFigures.charge (figures : TaxFigures) : Decimal × List String :=
  (figures.amount, figures.appliedRateIds)

/-- What a way charges does not depend on the scope. -/
theorem TaxTreatment.charge_eq (arith : Arith) (currency : Currency) (scope scope' : BuyerScope)
    (base : Decimal) (recorded applied : List TaxRate) (way : TaxTreatment) :
    (way.figures arith currency scope base recorded applied).map TaxFigures.charge =
      (way.figures arith currency scope' base recorded applied).map TaxFigures.charge := by
  cases way with
  | charged =>
    unfold TaxTreatment.figures
    cases taxOf arith base applied with
    | none => rfl
    | some amount => rfl
  | _ => rfl

theorem treatment_dz {category : TaxCategory} {confirmed : Bool} {scope : BuyerScope}
    (home : scope ≠ .exported) :
    treatment .algiersDz category confirmed scope =
      if category.Untaxed then .recorded else .charged := by
  cases scope with
  | exported => exact absurd rfl home
  | domesticLocal => rfl
  | domesticOther => simp [treatment]

theorem scopeOf_ne_exported {seller : Jurisdiction} {buyer : Address} (home : AtHome seller buyer) :
    scopeOf seller buyer ≠ .exported := by
  unfold scopeOf
  rw [if_neg (not_not_intro home)]
  split <;> decide

/-- No row of the Algerian seller asks for a region. -/
def TaxTable.National (table : TaxTable) : Prop :=
  ∀ row ∈ table.rates, row.jurisdiction = .algiersDz → row.appliesToBuyer.region = none

theorem TaxTable.National.matching_eq {table : TaxTable} (national : table.National)
    {first second : Address} (home : AtHome .algiersDz first) (home' : AtHome .algiersDz second)
    (category : TaxCategory) (date : NaiveDate) :
    table.matching .algiersDz first category date = table.matching .algiersDz second category date := by
  have country : SameText first.country second.country := home.trans home'.symm
  refine List.filter_congr fun row member => ?_
  have same : row.Matches .algiersDz first category date ↔
      row.Matches .algiersDz second category date := by
    unfold TaxRate.Matches
    refine and_congr_right fun seller => ?_
    simp only [national row member seller, country.congr_right, Option.mem_def, reduceCtorEq,
      false_implies, implies_true]
  simp only [same]

theorem ResolvedTax.charge_eq (result : Except (Stop TaxError) ResolvedTax) :
    result.map (fun resolved => (resolved.amount, resolved.appliedRateIds)) =
      (result.map ResolvedTax.figures).map TaxFigures.charge := by
  cases result <;> rfl

/-- **Algerian tax is national**: whatever the regions, two buyers in Algeria are charged the same. -/
theorem national_tax (arith : Arith) {table : TaxTable} (national : table.National)
    {first second : Address} (home : AtHome .algiersDz first) (home' : AtHome .algiersDz second)
    (line : InvoiceLine) (currency : Currency) (nexus : NexusConfig) (figures : NexusFigures)
    (time : DateTime) :
    (resolveTax arith .algiersDz first line currency table nexus figures time).map
        (fun resolved => (resolved.amount, resolved.appliedRateIds)) =
      (resolveTax arith .algiersDz second line currency table nexus figures time).map
        (fun resolved => (resolved.amount, resolved.appliedRateIds)) := by
  have applied : table.applied .algiersDz first line.taxCategory time.dateNaive =
      table.applied .algiersDz second line.taxCategory time.dateNaive := by
    unfold TaxTable.applied
    simp only [national.matching_eq home home']
  rw [ResolvedTax.charge_eq, ResolvedTax.charge_eq, resolveTax_of_country home.country_ne,
    resolveTax_of_country home'.country_ne, treatment_dz (scopeOf_ne_exported home),
    treatment_dz (scopeOf_ne_exported home'), national.matching_eq home home', applied]
  cases arith.mul line.quantity line.unitPrice with
  | none => rfl
  | some base => exact TaxTreatment.charge_eq ..

theorem fits_tva : Decimal.Fits 19 2 := by decide

/-- 19 % for buyers in Algeria. -/
def tvaRow : TaxRate :=
  ⟨"dz-tva-standard", .algiersDz, ⟨some "DZ", none⟩, .standard, ⟨19, 2, fits_tva⟩, taxDay, none⟩

theorem national_tva : TaxTable.National ⟨[tvaRow]⟩ := by
  intro row member _
  rw [List.mem_singleton.mp member]
  rfl

theorem national_tax_oran :
    (TaxTable.National ⟨[tvaRow]⟩) ∧
      (resolveTax Arith.exact .algiersDz (buyerIn "DZ" none) (unitLine .standard) Currency.dzd
          ⟨[tvaRow]⟩ ⟨[]⟩ .default taxNoon).map
        (fun resolved => (resolved.amount, resolved.appliedRateIds)) =
      (resolveTax Arith.exact .algiersDz (buyerIn "dz" (some "31")) (unitLine .standard) Currency.dzd
          ⟨[tvaRow]⟩ ⟨[]⟩ .default taxNoon).map
        (fun resolved => (resolved.amount, resolved.appliedRateIds)) := by
  have unknown : AtHome .algiersDz (buyerIn "DZ" none) := by decide
  have oran : AtHome .algiersDz (buyerIn "dz" (some "31")) := by decide
  exact ⟨national_tva, national_tax Arith.exact national_tva unknown oran (unitLine .standard)
    Currency.dzd ⟨[]⟩ .default taxNoon⟩

end Invoicing
