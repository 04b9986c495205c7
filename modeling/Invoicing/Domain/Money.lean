/-
**Currencies.**

* `Currency` — a code of three upper-case ASCII letters; `Currency.new` upper-cases and checks it, and
  reads a code back (`Currency.new_code`).
* `Currency.scale`, `Currency.round` — the places of the minor unit, and rounding to it with ties to
  the even neighbour.
-/

import Invoicing.Lib.Decimal

namespace Invoicing

/-- What makes a text a currency code. -/
def CurrencyCode (code : String) : Prop :=
  code.length = 3 ∧ code.toList.all Char.isUpper

instance (code : String) : Decidable (CurrencyCode code) := inferInstanceAs (Decidable (_ ∧ _))

/-- An ISO 4217 code. -/
structure Currency where
  code : String
  valid : CurrencyCode code
  deriving DecidableEq

namespace Currency

def usd : Currency := ⟨"USD", by decide⟩
def cad : Currency := ⟨"CAD", by decide⟩
def dzd : Currency := ⟨"DZD", by decide⟩

/-- Read a code in any letter case. -/
def new (code : String) : Option Currency :=
  let upper := String.ofList (code.toList.map Char.toUpper)
  if valid : CurrencyCode upper then some ⟨upper, valid⟩ else none

theorem toUpper_of_isUpper {c : Char} (upper : c.isUpper = true) : c.toUpper = c := by
  have le : c.val ≤ 'Z'.val := (of_decide_eq_true upper).2
  unfold Char.toUpper
  rw [dif_neg]
  rintro ⟨low, _⟩
  exact absurd (UInt32.le_trans low le) (by decide)

/-- **A code is read back.** -/
theorem new_code (currency : Currency) : new currency.code = some currency := by
  obtain ⟨code, valid⟩ := currency
  have upper : String.ofList (code.toList.map Char.toUpper) = code := by
    rw [List.map_congr_left fun c member => toUpper_of_isUpper (List.all_eq_true.mp valid.2 c member),
      List.map_id', String.ofList_toList]
  unfold new
  simp only [upper]
  exact dif_pos valid

def asStr (currency : Currency) : String := currency.code

/-- Decimal places of the minor unit. -/
def scale (currency : Currency) : ℕ :=
  if currency = dzd then 0 else 2

/-- Round an amount to the minor unit. -/
def round (currency : Currency) (amount : Decimal) : Decimal :=
  amount.roundDp currency.scale

end Currency

end Invoicing
