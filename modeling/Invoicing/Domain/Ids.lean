/-
**Entity ids.**

* `Entity` — the kinds of entity that have an id, each with its typeid prefix.
* `EntityId entity` — an id: 128 bits. `EntityId.text` is its printed form, the prefix and 26
  base-32 characters; **`EntityId.text_injective`** — two ids of one entity with one text are equal.
* Fresh ids are UUIDv7 values drawn outside this repository; a command takes them from its context.
-/

import Invoicing.Lib.DigitText

namespace Invoicing

open DigitText

/-- The kinds of entity with an id. -/
inductive Entity
  | invoice
  | customer
  | creditNote
  | schedule
  | reminder
  | line
  | history
  deriving DecidableEq

/-- The typeid prefix of an entity. -/
def Entity.prefixText : Entity → String
  | .invoice => "invoice"
  | .customer => "customer"
  | .creditNote => "creditnote"
  | .schedule => "schedule"
  | .reminder => "reminder"
  | .line => "line"
  | .history => "history"

/-- An id of one kind of entity. -/
structure EntityId (entity : Entity) where
  uuid : BitVec 128
  deriving DecidableEq

abbrev InvoiceId := EntityId .invoice
abbrev CustomerId := EntityId .customer
abbrev CreditNoteId := EntityId .creditNote
abbrev ScheduleId := EntityId .schedule
abbrev LineId := EntityId .line
abbrev HistoryId := EntityId .history

/-- The base-32 alphabet of typeids: lower case, without `i`, `l`, `o` and `u`. -/
def base32Char (digit : ℕ) : Char :=
  ("0123456789abcdefghjkmnpqrstvwxyz".toList).getD digit '0'

theorem base32Char_inj : ∀ a < 32, ∀ b < 32, base32Char a = base32Char b → a = b := by
  decide

namespace EntityId

variable {entity : Entity}

/-- The suffix of a typeid: the 128 bits in base 32. -/
def suffix (id : EntityId entity) : List Char := fixedDigits 32 base32Char 26 id.uuid.toNat

/-- The printed form of an id. -/
def text (id : EntityId entity) : String :=
  entity.prefixText ++ "_" ++ String.ofList id.suffix

@[simp] theorem length_suffix (id : EntityId entity) : id.suffix.length = 26 :=
  length_fixedDigits _ _ _ _

theorem suffix_injective : Function.Injective (@suffix entity) := by
  intro first second same
  have digits := (fixedDigits_inj (by norm_num) base32Char_inj).mp same
  have room : (2 : ℕ) ^ 128 ≤ 32 ^ 26 := by norm_num
  have bound := first.uuid.isLt
  have bound' := second.uuid.isLt
  rw [Nat.mod_eq_of_lt (by omega), Nat.mod_eq_of_lt (by omega)] at digits
  cases first
  cases second
  simpa [BitVec.toNat_inj] using digits

/-- **The printed form determines the id.** -/
theorem text_injective : Function.Injective (@text entity) := by
  intro first second same
  have lists := congrArg String.toList same
  simp only [text, String.toList_append, String.toList_ofList] at lists
  exact suffix_injective (List.append_cancel_left lists)

end EntityId

end Invoicing
