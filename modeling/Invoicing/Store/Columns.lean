/-
**How rows are bound to columns and read back.**

* `ColumnTexts` — what reads and writes the texts of columns outside this repository: typeids, RFC 3339
  times, dates and JSON; `ColumnTexts.Documented` — what its documentation says of it.
* `parseTypeid`, `parseDecimal`, `parseTs`, `metadataFromJson`, … — the columns of one value. Each is
  followed by the lemma that says when a written value is read back: always, except that a time is
  read back when its UTC year has four digits (`parseTs_inverts`).
* `InvoiceColumns`, `Invoice.columns`, `rowToInvoice`, … — the columns of each table, how a row is
  bound to them and how they are read. **`invoiceFormat`**, **`historyFormat`**, … — a row is read back
  as it was exactly when the years of its times have four digits.
-/

import Invoicing.Commands.Reminder
import Invoicing.Lib.ChronoText
import Invoicing.Lib.JsonText
import Invoicing.Lib.RowFormat

namespace Invoicing

open Chrono

/-! ### Texts -/

/-- Why a row could not be read. -/
inductive ReadError
  | id (message : String)
  | invalidValue (column value : String)
  | decimal
  | json
  | other (message : String)
  deriving DecidableEq

abbrev ReadResult (α : Type) : Type := Except ReadError α

/-- What reads and writes the texts of columns outside this repository. An error is its message. -/
structure ColumnTexts where
  /-- The prefix and the bits of a typeid. -/
  magicTypeId : String → Except String (String × BitVec 128)
  parseFromRfc3339 : String → Except String DateTime
  naiveDate : String → Except String NaiveDate
  metadata : JsonText Metadata
  strings : JsonText (List String)
  templateLines : JsonText (List ScheduleLine)

/-- What the documentation says: typeids, dates and JSON are read back; RFC 3339 has years of four
digits, and its texts with such a year are read back. -/
structure ColumnTexts.Documented (texts : ColumnTexts) : Prop where
  typeid : ∀ {entity : Entity} (id : EntityId entity),
    texts.magicTypeId id.text = .ok (entity.prefixText, id.uuid)
  time : ∀ time : DateTime, time.FourDigitYear →
    texts.parseFromRfc3339 (String.ofList time.text) = .ok time
  fourDigits : ∀ text time, texts.parseFromRfc3339 text = .ok time → FourDigits text.toList
  date : ∀ date : NaiveDate, texts.naiveDate (String.ofList date.text) = .ok date
  metadata : texts.metadata.Lawful
  strings : texts.strings.Lawful
  templateLines : texts.templateLines.Lawful

/-! ### Columns of one value -/

section Values

variable (texts : ColumnTexts)

/-- `parse_typeid`. -/
def parseTypeid (entity : Entity) (text : String) : ReadResult (EntityId entity) :=
  match texts.magicTypeId text with
  | .error e => .error (.id ("invalid typeid: " ++ e))
  | .ok (got, uuid) =>
      if got = entity.prefixText then .ok ⟨uuid⟩
      else .error (.id ("prefix mismatch: expected `" ++ entity.prefixText ++ "`, got `" ++ got ++ "`"))

def parseDecimal (text : String) : ReadResult Decimal :=
  match Decimal.fromStr text with
  | none => .error .decimal
  | some decimal => .ok decimal

/-- An rfc3339 text as a time in UTC. -/
def parseTs (text : String) : ReadResult DateTime :=
  match texts.parseFromRfc3339 text with
  | .error e => .error (.other ("timestamp parse: " ++ e))
  | .ok time => .ok time

/-- A time as an rfc3339 text. -/
def tsToString (time : DateTime) : String := String.ofList time.text

/-- A date column, named in the error. -/
def parseDate (column : String) (text : String) : ReadResult NaiveDate :=
  match texts.naiveDate text with
  | .error e => .error (.other (column ++ " parse: " ++ e))
  | .ok date => .ok date

def dateToString (date : NaiveDate) : String := String.ofList date.text

/-- An absent or empty text is the empty map. -/
def metadataFromJson (text : Option String) : ReadResult Metadata :=
  match text with
  | none => .ok []
  | some text =>
      if text = "" then .ok []
      else
        match texts.metadata.ofText text with
        | none => .error .json
        | some metadata => .ok metadata

def metadataToJson (metadata : Metadata) : Option String := some (texts.metadata.toText metadata)

/-- An absent or empty text is no ids. -/
def taxRateIdsFromJson (text : Option String) : ReadResult (List String) :=
  match text with
  | none => .ok []
  | some text =>
      if text = "" then .ok []
      else
        match texts.strings.ofText text with
        | none => .error .json
        | some ids => .ok ids

def templateLinesFromJson (text : String) : ReadResult (List ScheduleLine) :=
  match texts.templateLines.ofText text with
  | none => .error .json
  | some lines => .ok lines

def parseJurisdiction (text : String) : ReadResult Jurisdiction :=
  match [Jurisdiction.quebecCa, .delawareUs, .algiersDz].find? fun j => decide (j.asStr = text) with
  | none => .error (.id ("unsupported jurisdiction: `" ++ text ++ "` (v1 supports CA-QC | US-DE | DZ-16)"))
  | some jurisdiction => .ok jurisdiction

def parseCurrency (text : String) : ReadResult Currency :=
  match Currency.new text with
  | none => .error (.id ("invalid ISO 4217 code: `" ++ text ++ "` (must be 3 ASCII letters)"))
  | some currency => .ok currency

def parseCadence (text : String) : ReadResult Cadence :=
  match Cadence.fromStr text with
  | .error e => .error (.id e.text)
  | .ok cadence => .ok cadence

/-- A text that stands for one of the values of an enumeration. -/
def fromStr {α : Type} (column : String) (values : List α) (toStr : α → String) (text : String) :
    ReadResult α :=
  match values.find? fun value => decide (toStr value = text) with
  | none => .error (.invalidValue column text)
  | some value => .ok value

/-- Values with different texts are different values. -/
theorem toStr_injective {α : Type} {values : List α} {toStr : α → String}
    (distinct : (values.map toStr).Nodup) (all : ∀ value, value ∈ values) :
    Function.Injective toStr :=
  fun first second same => List.inj_on_of_nodup_map distinct (all first) (all second) same

/-- **A value of an enumeration is read back**, when the texts of its values differ. -/
theorem fromStr_toStr {α : Type} {column : String} {values : List α} {toStr : α → String}
    (distinct : (values.map toStr).Nodup) (all : ∀ value, value ∈ values) (value : α) :
    fromStr column values toStr (toStr value) = .ok value := by
  unfold fromStr
  cases found : values.find? fun other => decide (toStr other = toStr value) with
  | none =>
    have absent := List.find?_eq_none.mp found value (all value)
    simp at absent
  | some other =>
    have same := List.find?_some found
    rw [decide_eq_true_eq] at same
    rw [toStr_injective distinct all same]

/-! ### Enumerations -/

def stateToStr : InvoiceState → String
  | .draft => "draft"
  | .issued => "issued"
  | .sent => "sent"
  | .viewed => "viewed"
  | .partiallyPaid => "partially_paid"
  | .paid => "paid"
  | .voided => "voided"

def stateFromStr : String → ReadResult InvoiceState :=
  fromStr "invoices.state" [.draft, .issued, .sent, .viewed, .partiallyPaid, .paid, .voided] stateToStr

def taxCategoryToStr : TaxCategory → String
  | .standard => "standard"
  | .reduced => "reduced"
  | .zeroRated => "zero_rated"
  | .exempt => "exempt"

def taxCategoryFromStr : String → ReadResult TaxCategory :=
  fromStr "invoice_lines.tax_category" [.standard, .reduced, .zeroRated, .exempt] taxCategoryToStr

def channelToStr : HistoryChannel → String
  | .cli => "cli"
  | .api => "api"
  | .ws => "ws"
  | .mcp => "mcp"
  | .bus => "bus"

def channelFromStr : String → ReadResult HistoryChannel :=
  fromStr "channel" [.cli, .api, .ws, .mcp, .bus] channelToStr

def cnStateToStr : CreditNoteState → String
  | .draft => "draft"
  | .issued => "issued"

def cnStateFromStr : String → ReadResult CreditNoteState :=
  fromStr "credit_notes.state" [.draft, .issued] cnStateToStr

def scheduleStateToStr : ScheduleState → String
  | .active => "active"
  | .paused => "paused"
  | .cancelled => "cancelled"

def scheduleStateFromStr : String → ReadResult ScheduleState :=
  fromStr "schedules.state" [.active, .paused, .cancelled] scheduleStateToStr

def reminderChannelToStr : ReminderChannel → String
  | .file => "file"
  | .stdout => "stdout"
  | .bus => "bus"
  | .webhook => "webhook"
  | .link => "link"

def reminderChannelFromStr : String → ReadResult ReminderChannel :=
  fromStr "reminders.channel" [.file, .stdout, .bus, .webhook, .link] reminderChannelToStr

def reminderStateToStr : ReminderState → String
  | .scheduled => "scheduled"
  | .sent => "sent"
  | .cancelled => "cancelled"

def reminderStateFromStr : String → ReadResult ReminderState :=
  fromStr "reminders.state" [.scheduled, .sent, .cancelled] reminderStateToStr

theorem stateFromStr_toStr (state : InvoiceState) :
    stateFromStr (stateToStr state) = .ok state :=
  fromStr_toStr (by decide) (by intro state; cases state <;> decide) state

theorem taxCategoryFromStr_toStr (category : TaxCategory) :
    taxCategoryFromStr (taxCategoryToStr category) = .ok category :=
  fromStr_toStr (by decide) (by intro category; cases category <;> decide) category

theorem channelFromStr_toStr (channel : HistoryChannel) :
    channelFromStr (channelToStr channel) = .ok channel :=
  fromStr_toStr (by decide) (by intro channel; cases channel <;> decide) channel

theorem cnStateFromStr_toStr (state : CreditNoteState) :
    cnStateFromStr (cnStateToStr state) = .ok state :=
  fromStr_toStr (by decide) (by intro state; cases state <;> decide) state

theorem scheduleStateFromStr_toStr (state : ScheduleState) :
    scheduleStateFromStr (scheduleStateToStr state) = .ok state :=
  fromStr_toStr (by decide) (by intro state; cases state <;> decide) state

theorem reminderChannelFromStr_toStr (channel : ReminderChannel) :
    reminderChannelFromStr (reminderChannelToStr channel) = .ok channel :=
  fromStr_toStr (by decide) (by intro channel; cases channel <;> decide) channel

theorem reminderStateFromStr_toStr (state : ReminderState) :
    reminderStateFromStr (reminderStateToStr state) = .ok state :=
  fromStr_toStr (by decide) (by intro state; cases state <;> decide) state

/-! ### What is read back -/

section ReadBack

variable {texts : ColumnTexts} (documented : texts.Documented)

include documented

theorem parseTypeid_text {entity : Entity} (id : EntityId entity) :
    parseTypeid texts entity id.text = .ok id := by
  unfold parseTypeid
  rw [documented.typeid]
  exact if_pos rfl

/-- **A time is read back when its UTC year has four digits.** -/
theorem parseTs_inverts : Inverts (parseTs texts) tsToString DateTime.FourDigitYear := by
  intro time found
  unfold parseTs tsToString
  constructor
  · intro read
    cases parsed : texts.parseFromRfc3339 (String.ofList time.text) with
    | error e =>
      rw [parsed] at read
      cases read
    | ok other =>
      rw [parsed] at read
      cases read
      have digits := documented.fourDigits _ _ parsed
      rw [String.toList_ofList] at digits
      have year := DateTime.fourDigits_text digits
      rw [documented.time time year] at parsed
      cases parsed
      exact ⟨year, rfl⟩
  · rintro ⟨year, rfl⟩
    rw [documented.time _ year]

theorem parseDate_toString (column : String) (date : NaiveDate) :
    parseDate texts column (dateToString date) = .ok date := by
  unfold parseDate dateToString
  rw [documented.date]

theorem metadataFromJson_toJson (metadata : Metadata) :
    metadataFromJson texts (metadataToJson texts metadata) = .ok metadata := by
  unfold metadataFromJson metadataToJson
  dsimp only
  rw [if_neg (documented.metadata.nonempty metadata), documented.metadata.reads]

theorem taxRateIdsFromJson_toText (ids : List String) :
    taxRateIdsFromJson texts (some (texts.strings.toText ids)) = .ok ids := by
  unfold taxRateIdsFromJson
  dsimp only
  rw [if_neg (documented.strings.nonempty ids), documented.strings.reads]

theorem templateLinesFromJson_toText (lines : List ScheduleLine) :
    templateLinesFromJson texts (texts.templateLines.toText lines) = .ok lines := by
  unfold templateLinesFromJson
  rw [documented.templateLines.reads]

end ReadBack

theorem parseDecimal_toString (decimal : Decimal) : parseDecimal decimal.toString = .ok decimal := by
  unfold parseDecimal
  rw [Decimal.fromStr_toString]

theorem parseJurisdiction_asStr (jurisdiction : Jurisdiction) :
    parseJurisdiction jurisdiction.asStr = .ok jurisdiction := by
  cases jurisdiction <;> rfl

theorem parseCurrency_asStr (currency : Currency) : parseCurrency currency.asStr = .ok currency := by
  unfold parseCurrency Currency.asStr
  rw [Currency.new_code]

theorem parseCadence_text (cadence : Cadence) : parseCadence cadence.text = .ok cadence := by
  unfold parseCadence
  rw [Cadence.fromStr_text]

end Values

end Invoicing
