/-
**The tax engine.**

* `TaxRate`, `TaxTable.lookup` — the rows of the tax table, and those that match a seller, a buyer,
  a category and a date, in table order.
* `NexusConfig`, `NexusThreshold.hasNexus` — the US states the seller collects in.
* `classify`, `pickRates`, **`resolveTax`** — where the buyer stands, which rows apply, and the tax
  of one line. Sums and products go through `Arith`; one that overflows aborts with `Stop.panic`.
* **`onlyPanics_resolveTax`** — for a buyer that is classified, nothing else stops the resolution.
-/

import Invoicing.Domain.Invoice
import Invoicing.Lib.DebugText
import Invoicing.Lib.Fallible

namespace Invoicing

open Chrono (DateTime NaiveDate)

/-! ### Failing and aborting -/

/-- Why a computation has no result: an error it returns, or a panic. -/
inductive Stop (ε : Type)
  | error (e : ε)
  | panic
  deriving DecidableEq

def Stop.map {ε ε' : Type} (f : ε → ε') : Stop ε → Stop ε'
  | .error e => .error (f e)
  | .panic => .panic

/-- An operator's result; an overflow panics. -/
def orPanic {ε α : Type} (result : Option α) : Except (Stop ε) α :=
  match result with
  | none => .error .panic
  | some a => .ok a

theorem orPanic_ok {ε α : Type} {result : Option α} {a : α}
    (there : (orPanic result : Except (Stop ε) α) = .ok a) : result = some a := by
  cases result with
  | none => cases there
  | some b =>
    cases there
    rfl

/-- The failure, if there is one, is an overflow. -/
def OnlyPanics {ε α : Type} (result : Except (Stop ε) α) : Prop :=
  ∀ stop, result = .error stop → stop = .panic

section OnlyPanics

variable {ε ε' α β γ : Type}

theorem OnlyPanics.ok (a : α) : OnlyPanics (.ok a : Except (Stop ε) α) := by
  intro stop same
  cases same

theorem onlyPanics_orPanic (result : Option α) : OnlyPanics (orPanic result : Except (Stop ε) α) := by
  intro stop same
  cases result with
  | none =>
    cases same
    rfl
  | some a => cases same

theorem OnlyPanics.bind {first : Except (Stop ε) α} {rest : α → Except (Stop ε) β}
    (panics : OnlyPanics first) (panics' : ∀ a, OnlyPanics (rest a)) : OnlyPanics (first >>= rest) := by
  intro stop failed
  rcases bind_error failed with early | ⟨a, _, late⟩
  · exact panics stop early
  · exact panics' a stop late

theorem OnlyPanics.mapError {result : Except (Stop ε) α} (panics : OnlyPanics result) (f : ε → ε') :
    OnlyPanics (result.mapError (Stop.map f)) := by
  intro stop same
  cases result with
  | error stop' =>
    cases same
    rw [panics stop' rfl]
    rfl
  | ok a => cases same

theorem OnlyPanics.foldlM {step : β → γ → Except (Stop ε) β} {items : List γ}
    (panics : ∀ b, ∀ item ∈ items, OnlyPanics (step b item)) (start : β) :
    OnlyPanics (items.foldlM step start) := by
  induction items generalizing start with
  | nil => exact .ok start
  | cons item rest ih =>
    rw [List.foldlM_cons]
    exact (panics start item List.mem_cons_self).bind fun next =>
      ih (fun b other there => panics b other (List.mem_cons_of_mem item there)) next

/-- What only an overflow stops goes through without one. -/
theorem OnlyPanics.ok_of_ne {result : Except (Stop ε) α} (panics : OnlyPanics result)
    (calm : result ≠ .error .panic) : ∃ a, result = .ok a := by
  cases done : result with
  | ok a => exact ⟨a, rfl⟩
  | error stop => exact absurd (by rw [done, panics stop done]) calm

end OnlyPanics

/-! ### Texts -/

/-- Equality of texts up to ASCII case. -/
def eqIgnoreAsciiCase (first second : String) : Bool :=
  first.toList.map Char.toLower == second.toList.map Char.toLower

def toAsciiUppercase (s : String) : String := String.ofList (s.toList.map Char.toUpper)

/-! ### Rates -/

/-- Buyer filter of a row; an absent filter matches every buyer. -/
structure AppliesToBuyer where
  country : Option String
  region : Option String
  deriving DecidableEq

/-- A configured rate. -/
structure TaxRate where
  id : String
  jurisdiction : Jurisdiction
  appliesToBuyer : AppliesToBuyer
  category : TaxCategory
  rate : Decimal
  effectiveFrom : NaiveDate
  effectiveTo : Option NaiveDate
  deriving DecidableEq

/-- The row is effective on a date, both ends included. -/
def TaxRate.isEffectiveOn (row : TaxRate) (date : NaiveDate) : Bool :=
  decide (row.effectiveFrom ≤ date) &&
    match row.effectiveTo with
    | none => true
    | some last => decide (date ≤ last)

structure TaxTable where
  rates : List TaxRate

/-- The rows that match, in table order. -/
def TaxTable.lookup (table : TaxTable) (seller : Jurisdiction) (buyerCountry : String)
    (buyerRegion : Option String) (category : TaxCategory) (date : NaiveDate) : List TaxRate :=
  table.rates.filter fun row =>
    decide (row.jurisdiction = seller) &&
      (match row.appliesToBuyer.country with
        | some country => eqIgnoreAsciiCase country buyerCountry
        | none => true) &&
      (match row.appliesToBuyer.region, buyerRegion with
        | none, _ => true
        | some _, none => false
        | some want, some region => eqIgnoreAsciiCase want region) &&
      decide (row.category = category) && row.isEffectiveOn date

/-! ### Nexus -/

/-- Opt-in and thresholds of one state. -/
structure NexusThreshold where
  enabled : Bool
  revenue : Option Decimal
  txnCount : Option ℕ

/-- The seller's figures in a state. -/
structure NexusFigures where
  revenue : Decimal
  txnCount : ℕ

def NexusFigures.default : NexusFigures := ⟨Decimal.zero, 0⟩

/-- Enabled, and either no threshold is set or one is met. -/
def NexusThreshold.hasNexus (threshold : NexusThreshold) (figures : NexusFigures) : Bool :=
  threshold.enabled &&
    ((threshold.revenue.isNone && threshold.txnCount.isNone) ||
      (threshold.revenue.any fun bound => decide (bound ≤ figures.revenue)) ||
        threshold.txnCount.any fun bound => decide (bound ≤ figures.txnCount))

/-- The states by code. -/
structure NexusConfig where
  states : List (String × NexusThreshold)

/-- The row of a state: under the upper-case code, else under the code as given. -/
def NexusConfig.get (config : NexusConfig) (state : String) : Option NexusThreshold :=
  (config.states.lookup (toAsciiUppercase state)).orElse fun _ => config.states.lookup state

/-! ### Resolution -/

/-- Where the buyer stands to the seller. -/
inductive BuyerScope
  | domesticLocal
  | domesticOther
  | exported
  deriving DecidableEq

structure ResolvedTax where
  amount : Decimal
  appliedRateIds : List String
  nexusReview : Bool
  isExport : Bool
  buyerScope : BuyerScope
  warnings : List String
  deriving DecidableEq

inductive TaxError
  | invalidBuyerCountry (country : String)
  | noRatesConfigured (seller : Jurisdiction) (scope : BuyerScope)
  deriving DecidableEq

def sellerRegion : Jurisdiction → String
  | .quebecCa => "QC"
  | .delawareUs => "DE"
  | .algiersDz => "16"

def classify (seller : Jurisdiction) (buyer : Address) : Except TaxError BuyerScope :=
  if buyer.country = "" then .error (.invalidBuyerCountry buyer.country)
  else if !eqIgnoreAsciiCase buyer.country seller.country then .ok .exported
  else
    match buyer.region with
    | some region =>
        if eqIgnoreAsciiCase region (sellerRegion seller) then .ok .domesticLocal
        else .ok .domesticOther
    -- without a region only the national tax of the DZ seller is local
    | none => if seller = .algiersDz then .ok .domesticLocal else .ok .domesticOther

def pickRates (seller : Jurisdiction) (buyer : Address) (category : TaxCategory)
    (table : TaxTable) (date : NaiveDate) : List TaxRate × List String :=
  let lookupWith := fun cat => table.lookup seller buyer.country buyer.region cat date
  match category with
  | .standard => (lookupWith .standard, [])
  | .reduced =>
      let reduced := lookupWith .reduced
      if reduced = [] then
        (lookupWith .standard,
          ["reduced rate requested for seller " ++ seller.asStr ++ " -> buyer " ++ buyer.country ++
            "/" ++ debugText (buyer.region.getD "-") ++
            "; no reduced row found, falling back to standard"])
      else (reduced, [])
  | .zeroRated => (lookupWith .zeroRated, [])
  | .exempt => (lookupWith .exempt, [])

/-- The tax of a base at some rates, before rounding. -/
def taxOf (arith : Arith) (base : Decimal) (rates : List TaxRate) : Option Decimal :=
  rates.foldlM (fun amount row => do arith.add amount (← arith.mul base row.rate)) Decimal.zero

/-- The result of applying rates. -/
def applyRates (arith : Arith) (currency : Currency) (scope : BuyerScope) (base : Decimal)
    (rates : List TaxRate) (warnings : List String) : Except (Stop TaxError) ResolvedTax := do
  let amount ← orPanic (taxOf arith base rates)
  return { amount := currency.round amount
           appliedRateIds := rates.map (·.id)
           nexusReview := false
           isExport := false
           buyerScope := scope
           warnings := warnings }

/-- The result without tax. -/
def noTax (currency : Currency) (scope : BuyerScope) (nexusReview : Bool)
    (warnings : List String) : ResolvedTax :=
  { amount := currency.round Decimal.zero
    appliedRateIds := []
    nexusReview := nexusReview
    isExport := false
    buyerScope := scope
    warnings := warnings }

/-- Why a US sale outside the seller's state is not taxed. -/
def noNexusReason : Option NexusThreshold → String
  | some threshold =>
      if threshold.enabled then "nexus enabled but threshold not crossed"
      else "nexus disabled for this state"
  | none => "no nexus row configured for this state"

/-- **The tax of one line.** -/
def resolveTax (arith : Arith) (seller : Jurisdiction) (buyer : Address) (line : InvoiceLine)
    (currency : Currency) (table : TaxTable) (nexus : NexusConfig) (figures : NexusFigures)
    (time : DateTime) : Except (Stop TaxError) ResolvedTax := do
  let scope ← (classify seller buyer).mapError Stop.error
  let date := time.dateNaive
  let base ← orPanic (arith.mul line.quantity line.unitPrice)
  let (rates, warnings) := pickRates seller buyer line.taxCategory table date
  if line.taxCategory = .zeroRated ∨ line.taxCategory = .exempt then
    return { noTax currency scope false warnings with
      appliedRateIds := rates.map (·.id)
      isExport := decide (scope = .exported) }
  else
    match scope, seller with
    | .exported, _ => return { noTax currency scope false [] with isExport := true }
    | .domesticLocal, _ =>
        if rates = [] then
          return noTax currency scope false (warnings ++
            ["no tax rows for seller " ++ seller.asStr ++ " -> domestic-local buyer " ++
              buyer.country ++ "/" ++ debugText (buyer.region.getD "-") ++ "; defaulting to 0%"])
        else applyRates arith currency scope base rates warnings
    | .domesticOther, .quebecCa => applyRates arith currency scope base rates warnings
    | .domesticOther, .algiersDz => applyRates arith currency scope base rates warnings
    | .domesticOther, .delawareUs =>
        match buyer.region with
        | none =>
            return noTax currency scope true
              ["US-DE seller / US buyer: no region on address; cannot evaluate nexus, " ++
                "flagging review"]
        | some region =>
            let threshold := nexus.get region
            if threshold.any fun row => row.hasNexus figures then
              applyRates arith currency scope base rates (warnings ++
                if rates = [] then
                  ["US-DE seller / US-" ++ region ++
                    " buyer: nexus crossed but no rate row found"]
                else [])
            else
              return noTax currency scope true
                ["US-DE seller / US-" ++ region ++ " buyer: " ++ noNexusReason threshold ++
                  "; 0% applied"]

/-! ### Why a line has no tax -/

theorem onlyPanics_applyRates (arith : Arith) (currency : Currency) (scope : BuyerScope) (base : Decimal)
    (rates : List TaxRate) (warnings : List String) :
    OnlyPanics (applyRates arith currency scope base rates warnings) :=
  (onlyPanics_orPanic _).bind fun _ => .ok _

/-- **Once the buyer is classified, only an overflow stops the resolution of a tax**, under any rates and
on any date. -/
theorem onlyPanics_resolveTax {seller : Jurisdiction} {buyer : Address} {scope : BuyerScope}
    (classified : classify seller buyer = .ok scope) (arith : Arith) (line : InvoiceLine)
    (currency : Currency) (table : TaxTable) (nexus : NexusConfig) (figures : NexusFigures)
    (time : DateTime) :
    OnlyPanics (resolveTax arith seller buyer line currency table nexus figures time) := by
  unfold resolveTax
  rw [classified]
  refine (OnlyPanics.ok scope).bind fun scope => (onlyPanics_orPanic _).bind fun base => ?_
  dsimp only
  split
  · exact .ok _
  · split
    · exact .ok _
    · split
      · exact .ok _
      · exact onlyPanics_applyRates _ _ _ _ _ _
    · exact onlyPanics_applyRates _ _ _ _ _ _
    · exact onlyPanics_applyRates _ _ _ _ _ _
    · split
      · exact .ok _
      · split
        · exact onlyPanics_applyRates _ _ _ _ _ _
        · exact .ok _

end Invoicing
