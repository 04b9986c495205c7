/-
**The lists of the repositories, from the texts of their statements.**

* `RowFilter` — an owner, a state, a limit and an offset, each there or not; `InvoiceFilter`,
  `ScheduleFilter` and `CreditNoteFilter` are the three.
* `Listing` — a list of a repository: the texts its statement is put together from, and its table.
  `Listing.sql` and `Listing.binds` are the two chains of conditions; `InvoiceRepo.list`,
  `ScheduleRepo.list` and `CreditNoteRepo.list` run them.
* **`Listing.Names.prepare_eq`** — the chains are in step: every value goes to its own placeholder, an
  offset without a limit is refused, and every other filter is the query it says. `invoiceRepo_list`, … —
  these are the `list` queries of the stored tables.
* `Lists` — the rows that match, in the order of their creation, a page of them. **`Listing.lists_iff`**,
  **`Listing.lists_all_iff`** — exactly when this is what a list gives.
-/

import Invoicing.Lib.SelectText
import Invoicing.Store.Queries
import Invoicing.Store.Sql
import Invoicing.Store.TimeText

namespace Invoicing

open Chrono (DateTime)
open SelectText

/-! ### Filters -/

/-- What a list is restricted to; the owner is the customer, of a credit note the invoice. -/
structure RowFilter (owner : Entity) (σ : Type) where
  ownerId : Option (EntityId owner)
  state : Option σ
  limit : Option ℤ
  offset : Option ℤ
  deriving DecidableEq

abbrev InvoiceFilter := RowFilter .customer InvoiceState
abbrev ScheduleFilter := RowFilter .customer ScheduleState
abbrev CreditNoteFilter := RowFilter .invoice CreditNoteState

namespace RowFilter

variable {owner : Entity} {σ : Type} (filter : RowFilter owner σ)

/-- The limit and the offset are not negative. -/
def InRange : Prop := (∀ limit ∈ filter.limit, 0 ≤ limit) ∧ ∀ offset ∈ filter.offset, 0 ≤ offset

/-- An offset comes with a limit. -/
def Paged : Prop := filter.offset.isSome = true → filter.limit.isSome = true

instance : Decidable filter.Paged := inferInstanceAs (Decidable (_ → _))

/-- No restriction. -/
def default : RowFilter owner σ := ⟨none, none, none, none⟩

/-- The rows of a page: the first ones dropped, and at most so many kept. -/
def page {ρ : Type} (rows : List ρ) : List ρ :=
  let rest := rows.drop (filter.offset.getD 0).toNat
  match filter.limit with
  | none => rest
  | some limit => rest.take limit.toNat

/-- The filter as one of the query. -/
def listed : ListFilter owner σ :=
  ⟨filter.ownerId, filter.state, filter.limit.map fun limit => (limit, filter.offset)⟩

/-- The page of the query is that of the filter. -/
theorem pageRows_listed {ρ : Type} {filter : RowFilter owner σ} (inRange : filter.InRange)
    (paged : filter.Paged) (rows : List ρ) : pageRows filter.listed.page rows = filter.page rows := by
  obtain ⟨ownerId, state, limit, offset⟩ := filter
  cases limit with
  | none =>
    cases offset with
    | none => rfl
    | some offset => exact absurd (paged rfl) Bool.false_ne_true
  | some limit => exact if_neg (not_lt.mpr (inRange.1 limit rfl))

theorem default_inRange : (default : RowFilter owner σ).InRange :=
  ⟨fun _ absent => (by cases absent), fun _ absent => (by cases absent)⟩

theorem default_paged : (default : RowFilter owner σ).Paged := fun absent => (by cases absent)

end RowFilter

/-! ### Statements -/

/-- A list of a repository: the head of its statement, the condition on the owner, and what they are of. -/
structure Listing (γ ρ : Type) (owner : Entity) (σ : Type) where
  head : String
  ownerClause : String
  stateToStr : σ → String
  schema : Schema γ
  rowOf : ColumnTexts → γ → ReadResult ρ

/-- `query.bind`, when there is a value. -/
def bindSome (values : List Value) (value : Option Value) : List Value :=
  match value with
  | none => values
  | some value => values ++ [value]

theorem bindSome_eq (values : List Value) (value : Option Value) :
    bindSome values value = values ++ value.toList := by
  cases value with
  | none => exact (List.append_nil values).symm
  | some value => rfl

/-- Why a list fails: its statement is refused, or a row is not read. -/
inductive ListError
  | statement
  | row (e : ReadError)
  deriving DecidableEq

namespace Listing

variable {γ ρ : Type} {owner : Entity} {σ : Type} (listing : Listing γ ρ owner σ)

/-- The text of the statement, clause by clause. -/
def sql (filter : RowFilter owner σ) : String :=
  let sql := listing.head
  let sql := if filter.ownerId.isSome then sql ++ listing.ownerClause else sql
  let sql := if filter.state.isSome then sql ++ " AND state = ?" else sql
  let sql := sql ++ " ORDER BY created_at ASC"
  let sql := if filter.limit.isSome then sql ++ " LIMIT ?" else sql
  if filter.offset.isSome then sql ++ " OFFSET ?" else sql

/-- The values bound to it, one after the other. -/
def binds (filter : RowFilter owner σ) : List Value :=
  let values := bindSome [] (filter.ownerId.map fun id => .text id.text)
  let values := bindSome values (filter.state.map fun state => .text (listing.stateToStr state))
  let values := bindSome values (filter.limit.map .int)
  bindSome values (filter.offset.map .int)

/-- Run the statement and read every row. -/
def list (texts : ColumnTexts) (engine : ∀ column : γ → String, OrderBy column)
    (filter : RowFilter owner σ) (stored : List γ) : Except ListError (List ρ) :=
  match prepare listing.schema engine (portableSql .sqlite (listing.sql filter)) (listing.binds filter) with
  | none => .error .statement
  | some query => (select (listing.rowOf texts) query stored).mapError .row

end Listing

/-! ### The three lists -/

def invoiceSchema : Schema InvoiceColumns where
  table := "invoices"
  columns := ["id", "number", "customer_id", "seller_jur", "currency", "state", "issued_at", "due_at",
    "sent_at", "viewed_at", "paid_at", "voided_at", "subtotal", "tax_total", "total", "amount_paid",
    "schedule_id", "template_path", "pdf_blob_ref", "idempotency_key", "nexus_review", "metadata",
    "created_at", "updated_at"]
  text
    | "id" => some InvoiceColumns.id
    | "customer_id" => some InvoiceColumns.customerId
    | "seller_jur" => some InvoiceColumns.sellerJur
    | "currency" => some InvoiceColumns.currency
    | "state" => some InvoiceColumns.state
    | "subtotal" => some InvoiceColumns.subtotal
    | "tax_total" => some InvoiceColumns.taxTotal
    | "total" => some InvoiceColumns.total
    | "amount_paid" => some InvoiceColumns.amountPaid
    | "created_at" => some InvoiceColumns.createdAt
    | "updated_at" => some InvoiceColumns.updatedAt
    | _ => none

def scheduleSchema : Schema ScheduleColumns where
  table := "schedules"
  columns := ["id", "customer_id", "template_lines", "currency", "cadence", "start_date", "end_date",
    "auto_issue", "next_run", "last_run", "state", "metadata", "created_at", "updated_at"]
  text
    | "id" => some ScheduleColumns.id
    | "customer_id" => some ScheduleColumns.customerId
    | "template_lines" => some ScheduleColumns.templateLines
    | "currency" => some ScheduleColumns.currency
    | "cadence" => some ScheduleColumns.cadence
    | "start_date" => some ScheduleColumns.startDate
    | "next_run" => some ScheduleColumns.nextRun
    | "state" => some ScheduleColumns.state
    | "created_at" => some ScheduleColumns.createdAt
    | "updated_at" => some ScheduleColumns.updatedAt
    | _ => none

def creditNoteSchema : Schema CreditNoteColumns where
  table := "credit_notes"
  columns := ["id", "number", "invoice_id", "state", "amount", "currency", "reason", "refund_ref",
    "issued_at", "created_at", "metadata"]
  text
    | "id" => some CreditNoteColumns.id
    | "invoice_id" => some CreditNoteColumns.invoiceId
    | "state" => some CreditNoteColumns.state
    | "amount" => some CreditNoteColumns.amount
    | "currency" => some CreditNoteColumns.currency
    | "created_at" => some CreditNoteColumns.createdAt
    | _ => none

def invoiceListing : Listing InvoiceColumns Invoice .customer InvoiceState where
  head :=
    "SELECT id, number, customer_id, seller_jur, currency, state, " ++
    "issued_at, due_at, sent_at, viewed_at, paid_at, voided_at, " ++
    "subtotal, tax_total, total, amount_paid, " ++
    "schedule_id, template_path, pdf_blob_ref, idempotency_key, " ++
    "nexus_review, metadata, created_at, updated_at " ++
    "FROM invoices WHERE 1=1"
  ownerClause := " AND customer_id = ?"
  stateToStr := stateToStr
  schema := invoiceSchema
  rowOf := rowToInvoice

def scheduleListing : Listing ScheduleColumns Schedule .customer ScheduleState where
  head :=
    "SELECT id, customer_id, template_lines, currency, cadence, start_date, end_date, " ++
    "auto_issue, next_run, last_run, state, metadata, created_at, updated_at " ++
    "FROM schedules WHERE 1=1"
  ownerClause := " AND customer_id = ?"
  stateToStr := scheduleStateToStr
  schema := scheduleSchema
  rowOf := rowToSchedule

def creditNoteListing : Listing CreditNoteColumns CreditNote .invoice CreditNoteState where
  head :=
    "SELECT id, number, invoice_id, state, amount, currency, reason, refund_ref, issued_at, created_at, " ++
    "metadata FROM credit_notes WHERE 1=1"
  ownerClause := " AND invoice_id = ?"
  stateToStr := cnStateToStr
  schema := creditNoteSchema
  rowOf := rowToCreditNote

def InvoiceRepo.list := invoiceListing.list
def ScheduleRepo.list := scheduleListing.list
def CreditNoteRepo.list := creditNoteListing.list

/-- The texts of a listing are those of its table, and of the columns the conditions are about. -/
structure Listing.Names {γ ρ : Type} {owner : Entity} {σ : Type} (listing : Listing γ ρ owner σ)
    (ownerName : String) (ownerColumn stateColumn createdAt : γ → String) : Prop where
  columns : listing.schema.columns ≠ []
  head : tokens listing.head = .word "SELECT" :: (nameTokens listing.schema.columns ++
    .word "FROM" :: .word listing.schema.table :: .word "WHERE" :: [.word "1", .equals, .word "1"])
  space : ∃ rest, listing.ownerClause.toList = ' ' :: rest
  clause : tokens listing.ownerClause = [.word "AND", .word ownerName, .equals, .mark]
  name : operand (.word ownerName) = some (.column ownerName)
  owner : listing.schema.text ownerName = some ownerColumn
  state : listing.schema.text "state" = some stateColumn
  createdAt : listing.schema.text "created_at" = some createdAt

/-! ### The chains of conditions in step -/

section Names

variable {γ ρ : Type} {owner : Entity} {σ : Type} {listing : Listing γ ρ owner σ} {ownerName : String}
  {ownerColumn stateColumn createdAt : γ → String}

/-- The tokens of a text that is extended by a clause or not. -/
theorem tokens_extended {clause : String} {read : List Token} (space : ∃ rest, clause.toList = ' ' :: rest)
    (clauseTokens : tokens clause = read) (present : Bool) (first : String) :
    tokens (if present then first ++ clause else first) = tokens first ++ if present then read else [] := by
  obtain ⟨rest, space⟩ := space
  cases present with
  | false => exact (List.append_nil _).symm
  | true => exact (tokens_append first space).trans (congrArg _ clauseTokens)

/-- The tokens of the conditions. -/
def conditionTokens (ownerName : String) (owner state : Bool) : List Token :=
  [.word "1", .equals, .word "1"] ++ (if owner then [.word "AND", .word ownerName, .equals, .mark] else []) ++
    if state then [.word "AND", .word "state", .equals, .mark] else []

/-- The tokens of the page. -/
def pageTokens (limit offset : Bool) : List Token :=
  (if limit then [.word "LIMIT", .mark] else []) ++ if offset then [.word "OFFSET", .mark] else []

/-- **The tokens of a statement**, clause by clause. -/
theorem Listing.Names.tokens_sql (names : listing.Names ownerName ownerColumn stateColumn createdAt)
    (filter : RowFilter owner σ) :
    tokens (listing.sql filter) = .word "SELECT" :: (nameTokens listing.schema.columns ++
      .word "FROM" :: .word listing.schema.table :: .word "WHERE" ::
        (conditionTokens ownerName filter.ownerId.isSome filter.state.isSome ++
          .word "ORDER" :: .word "BY" :: .word "created_at" :: .word "ASC" ::
            pageTokens filter.limit.isSome filter.offset.isSome)) := by
  have owner := tokens_extended names.space names.clause filter.ownerId.isSome
  have state := @tokens_extended " AND state = ?" [.word "AND", .word "state", .equals, .mark]
    ⟨_, rfl⟩ (by decide +kernel) filter.state.isSome
  have limit := @tokens_extended " LIMIT ?" [.word "LIMIT", .mark]
    ⟨_, rfl⟩ (by decide +kernel) filter.limit.isSome
  have offset := @tokens_extended " OFFSET ?" [.word "OFFSET", .mark]
    ⟨_, rfl⟩ (by decide +kernel) filter.offset.isSome
  have order : ∀ first, tokens (first ++ " ORDER BY created_at ASC") = tokens first ++
      [.word "ORDER", .word "BY", .word "created_at", .word "ASC"] := by
    intro first
    have read : tokens " ORDER BY created_at ASC" =
        [.word "ORDER", .word "BY", .word "created_at", .word "ASC"] := by decide +kernel
    exact (tokens_append first rfl).trans (congrArg _ read)
  unfold Listing.sql
  simp only [owner, state, limit, offset, order, names.head, conditionTokens, pageTokens,
    List.append_assoc, List.cons_append, List.nil_append]

/-- The conditions are read back: the owner and the state are compared with a placeholder each. -/
theorem conditions_conditionTokens (name : operand (.word ownerName) = some (.column ownerName))
    (owner state : Bool) (rest : List Token) :
    conditions (conditionTokens ownerName owner state ++ .word "ORDER" :: rest) =
      some ((.number 1, .number 1) :: ((if owner then [(.column ownerName, .mark)] else []) ++
        if state then [(.column "state", .mark)] else []), .word "ORDER" :: rest) := by
  have one : operand (.word "1") = some (.number 1) := by decide +kernel
  have stateName : operand (.word "state") = some (.column "state") := by decide +kernel
  have mark : operand .mark = some .mark := rfl
  have order : ("ORDER" : String) ≠ "AND" := by decide
  cases owner with
  | false =>
    cases state with
    | false => simp [conditionTokens, conditions, one, order]
    | true => simp [conditionTokens, conditions, one, stateName, mark, order]
  | true =>
    cases state with
    | false => simp [conditionTokens, conditions, one, name, mark, order]
    | true => simp [conditionTokens, conditions, one, name, stateName, mark, order]

/-- **An offset is read only after a limit.** -/
theorem limits_pageTokens (limit offset : Bool) :
    limits (pageTokens limit offset) = if offset = true ∧ limit = false then none
      else some (if limit then some .mark else none, if offset then some .mark else none) := by
  cases limit with
  | false => cases offset <;> decide +kernel
  | true => cases offset <;> decide +kernel

/-- The values of the page. -/
def pageBinds (limit offset : Option ℤ) : List Value :=
  (limit.map Value.int).toList ++ (offset.map Value.int).toList

/-- **The owner and the state go to their own placeholders**, and the values of the page are left. -/
theorem Listing.Names.keep_binds (names : listing.Names ownerName ownerColumn stateColumn createdAt)
    (filter : RowFilter owner σ) :
    listing.schema.keep ((.number 1, .number 1) ::
        ((if filter.ownerId.isSome then [(.column ownerName, .mark)] else []) ++
          if filter.state.isSome then [(.column "state", .mark)] else [])) (listing.binds filter) =
      some (fun row => filter.listed.keep listing.stateToStr (ownerColumn row) (stateColumn row),
        pageBinds filter.limit filter.offset) := by
  obtain ⟨ownerId, state, limit, offset⟩ := filter
  have binds : listing.binds ⟨ownerId, state, limit, offset⟩ =
      (ownerId.map fun id => Value.text id.text).toList ++
        ((state.map fun state => Value.text (listing.stateToStr state)).toList ++
          pageBinds limit offset) := by
    simp only [Listing.binds, bindSome_eq, pageBinds, List.nil_append, List.append_assoc]
  rw [binds]
  cases ownerId with
  | none =>
    cases state with
    | none => simp [Schema.keep, Schema.resolve, ListFilter.keep, RowFilter.listed]
    | some state => simp [Schema.keep, Schema.resolve, ListFilter.keep, RowFilter.listed, names.state]
  | some id =>
    cases state with
    | none => simp [Schema.keep, Schema.resolve, ListFilter.keep, RowFilter.listed, names.owner]
    | some state =>
      simp [Schema.keep, Schema.resolve, ListFilter.keep, RowFilter.listed, names.owner, names.state]

/-- **So do the limit and the offset.** -/
theorem rowCount_pageBinds (limit offset : Option ℤ) :
    ∃ rest, rowCount (if limit.isSome then some .mark else none) (pageBinds limit offset) =
        some (limit, rest) ∧
      rowCount (if offset.isSome then some .mark else none) rest = some (offset, []) := by
  cases limit with
  | none =>
    cases offset with
    | none => exact ⟨[], rfl, rfl⟩
    | some offset => exact ⟨[.int offset], rfl, rfl⟩
  | some limit =>
    cases offset with
    | none => exact ⟨[], rfl, rfl⟩
    | some offset => exact ⟨[.int offset], rfl, rfl⟩

theorem RowFilter.not_paged_iff {filter : RowFilter owner σ} :
    ¬ filter.Paged ↔ filter.offset.isSome = true ∧ filter.limit.isSome = false := by
  unfold RowFilter.Paged
  rw [Classical.not_imp, Bool.not_eq_true]

/-- **A filter with an offset and no limit is refused; every other filter is the query it says.** -/
theorem Listing.Names.prepare_eq (names : listing.Names ownerName ownerColumn stateColumn createdAt)
    (engine : ∀ column : γ → String, OrderBy column) (filter : RowFilter owner σ) :
    prepare listing.schema engine (portableSql .sqlite (listing.sql filter)) (listing.binds filter) =
      if filter.Paged then some (.ordered
        (fun row => filter.listed.keep listing.stateToStr (ownerColumn row) (stateColumn row))
        (engine createdAt) filter.listed.page) else none := by
  have read := conditions_conditionTokens names.name filter.ownerId.isSome filter.state.isSome
    (.word "BY" :: .word "created_at" :: .word "ASC" ::
      pageTokens filter.limit.isSome filter.offset.isSome)
  have parsed := @parse_clauses _ names.columns listing.schema.table _ _ _ _ read
  rw [← names.tokens_sql, limits_pageTokens] at parsed
  show prepare listing.schema engine (listing.sql filter) (listing.binds filter) = _
  by_cases paged : filter.Paged
  · rw [if_neg fun without => RowFilter.not_paged_iff.mpr without paged] at parsed
    obtain ⟨rest, limited, skipped⟩ := rowCount_pageBinds filter.limit filter.offset
    rw [if_pos paged]
    exact prepare_of_parse parsed rfl rfl (names.keep_binds filter) limited skipped names.createdAt
  · rw [if_pos (RowFilter.not_paged_iff.mp paged)] at parsed
    rw [if_neg paged]
    exact prepare_of_refused parsed

end Names

/-! ### What a list gives -/

section Rows

variable {γ ρ : Type} {owner : Entity} {σ : Type} [DecidableEq σ]

/-- A row of this owner and this state matches the filter. -/
def RowFilter.Admits (filter : RowFilter owner σ) (id : EntityId owner) (state : σ) : Prop :=
  (∀ wanted ∈ filter.ownerId, id = wanted) ∧ ∀ wanted ∈ filter.state, state = wanted

instance (filter : RowFilter owner σ) (id : EntityId owner) (state : σ) :
    Decidable (filter.Admits id state) := inferInstanceAs (Decidable (_ ∧ _))

variable (ownerOf : ρ → EntityId owner) (stateOf : ρ → σ) (createdOf : ρ → DateTime)

/-- **What a list is for**: it succeeds with a page of the rows that match, in the order of their
creation. -/
def Lists (filter : RowFilter owner σ) (table : List ρ) (result : Except ListError (List ρ)) : Prop :=
  ∃ ordered, ordered.Perm (table.filter fun row => decide (filter.Admits (ownerOf row) (stateOf row))) ∧
    (ordered.Pairwise fun first second => createdOf first ≤ createdOf second) ∧
    result = .ok (filter.page ordered)

/-- The rows of a table as the columns a list compares and orders by. -/
structure Listing.Stores (listing : Listing γ ρ owner σ) (ownerColumn stateColumn createdAt : γ → String)
    (texts : ColumnTexts) (format : RowFormat ρ γ ReadError) : Prop where
  read : format.read = listing.rowOf texts
  owner : ∀ row, ownerColumn (format.write row) = (ownerOf row).text
  state : ∀ row, stateColumn (format.write row) = listing.stateToStr (stateOf row)
  created : ∀ row, createdAt (format.write row) = tsToString (createdOf row)
  year : ∀ row, format.Fits row → (createdOf row).FourDigitYear
  states : Function.Injective listing.stateToStr

variable {ownerOf stateOf createdOf} {listing : Listing γ ρ owner σ} {ownerName : String}
  {ownerColumn stateColumn createdAt : γ → String} {texts : ColumnTexts}
  {format : RowFormat ρ γ ReadError}

/-- The stored rows that are kept are those that match. -/
theorem Listing.Stores.keep_iff
    (stores : listing.Stores ownerOf stateOf createdOf ownerColumn stateColumn createdAt texts format)
    (filter : RowFilter owner σ) (row : ρ) :
    filter.listed.keep listing.stateToStr (ownerColumn (format.write row))
        (stateColumn (format.write row)) = decide (filter.Admits (ownerOf row) (stateOf row)) := by
  rw [stores.owner, stores.state, Bool.eq_iff_iff, decide_eq_true_iff]
  unfold ListFilter.keep RowFilter.listed RowFilter.Admits
  simp only [Bool.and_eq_true, Option.all_eq_true, decide_eq_true_iff, text_eq_iff,
    stores.states.eq_iff, Option.mem_def]

omit [DecidableEq σ] in
/-- A list runs the query of its filter, if that is a statement. -/
theorem Listing.Names.list_eq (names : listing.Names ownerName ownerColumn stateColumn createdAt)
    (engine : ∀ column : γ → String, OrderBy column) (filter : RowFilter owner σ) (stored : List γ) :
    listing.list texts engine filter stored =
      if filter.Paged then (select (listing.rowOf texts) (.ordered
        (fun row => filter.listed.keep listing.stateToStr (ownerColumn row) (stateColumn row))
        (engine createdAt) filter.listed.page) stored).mapError .row
      else .error .statement := by
  unfold Listing.list
  rw [names.prepare_eq]
  by_cases paged : filter.Paged
  · rw [if_pos paged, if_pos paged]
  · rw [if_neg paged, if_neg paged]

variable (names : listing.Names ownerName ownerColumn stateColumn createdAt)
  (stores : listing.Stores ownerOf stateOf createdOf ownerColumn stateColumn createdAt texts format)
  (engine : ∀ column : γ → String, OrderBy column)

include names stores

/-- **Over rows that are read back, a filter is answered exactly when its offset comes with a limit.** -/
theorem Listing.lists_iff {table : List ρ} (fits : ∀ row ∈ table, format.Fits row)
    {filter : RowFilter owner σ} (inRange : filter.InRange) :
    Lists ownerOf stateOf createdOf filter table
      (listing.list texts engine filter (table.map format.write)) ↔ filter.Paged := by
  rw [names.list_eq]
  by_cases paged : filter.Paged
  · refine iff_of_true ?_ paged
    obtain ⟨ordered, perm, sorted, selected⟩ := format.select_in_order
      (fun row => filter.listed.keep listing.stateToStr (ownerColumn row) (stateColumn row))
      (fun row there _ => fits row there) (engine createdAt) filter.listed.page
    simp only [stores.keep_iff] at perm
    refine ⟨ordered, perm, ?_, ?_⟩
    · have inside : ∀ row ∈ ordered, (createdOf row).FourDigitYear := fun row member =>
        stores.year row (fits row (List.mem_of_mem_filter (perm.mem_iff.mp member)))
      simp only [stores.created] at sorted
      exact pairwise_in_time inside sorted
    · rw [if_pos paged, ← stores.read, selected, filter.pageRows_listed inRange paged]
      rfl
  · refine iff_of_false ?_ paged
    rintro ⟨ordered, _, _, listed⟩
    rw [if_neg paged] at listed
    cases listed

/-- **A table is listed under every such filter exactly when all of its rows are read back.** -/
theorem Listing.lists_all_iff (table : List ρ) :
    (∀ filter : RowFilter owner σ, filter.InRange → filter.Paged → Lists ownerOf stateOf createdOf filter table
        (listing.list texts engine filter (table.map format.write))) ↔
      ∀ row ∈ table, format.Fits row := by
  constructor
  · intro all row there
    obtain ⟨ordered, _, _, listed⟩ := all .default RowFilter.default_inRange RowFilter.default_paged
    rw [names.list_eq, if_pos RowFilter.default_paged, ← stores.read] at listed
    generalize done : select _ _ _ = selected at listed
    cases selected with
    | error e => cases listed
    | ok found =>
      exact format.fits_of_select done (Query.mem_ordered.mpr ⟨List.mem_map_of_mem there, rfl⟩)
  · intro fits filter inRange paged
    exact (Listing.lists_iff names stores engine fits inRange).mpr paged

end Rows

/-! ### The three repositories -/

theorem invoiceListing_names : invoiceListing.Names "customer_id" InvoiceColumns.customerId
    InvoiceColumns.state InvoiceColumns.createdAt where
  columns := List.cons_ne_nil _ _
  head := tokens_ofList
    (append_ofList (append_ofList (append_ofList (append_ofList (append_ofList rfl rfl) rfl) rfl) rfl) rfl)
    (by decide +kernel)
  space := ⟨_, rfl⟩
  clause := by decide +kernel
  name := by decide +kernel
  owner := rfl
  state := rfl
  createdAt := rfl

theorem scheduleListing_names : scheduleListing.Names "customer_id" ScheduleColumns.customerId
    ScheduleColumns.state ScheduleColumns.createdAt where
  columns := List.cons_ne_nil _ _
  head := tokens_ofList (append_ofList (append_ofList rfl rfl) rfl)
    (by decide +kernel)
  space := ⟨_, rfl⟩
  clause := by decide +kernel
  name := by decide +kernel
  owner := rfl
  state := rfl
  createdAt := rfl

theorem creditNoteListing_names : creditNoteListing.Names "invoice_id" CreditNoteColumns.invoiceId
    CreditNoteColumns.state CreditNoteColumns.createdAt where
  columns := List.cons_ne_nil _ _
  head := tokens_ofList (append_ofList rfl rfl)
    (by decide +kernel)
  space := ⟨_, rfl⟩
  clause := by decide +kernel
  name := by decide +kernel
  owner := rfl
  state := rfl
  createdAt := rfl

/-- **The lists of the stored tables**, where the statement is one. -/
theorem invoiceRepo_list (texts : ColumnTexts) (engine : ∀ column : InvoiceColumns → String, OrderBy column)
    (filter : InvoiceFilter) (stored : StoredDb) :
    InvoiceRepo.list texts engine filter stored.invoices =
      if filter.Paged then (stored.listInvoices texts filter.listed (engine _)).mapError .row
      else .error .statement :=
  invoiceListing_names.list_eq engine filter stored.invoices

theorem scheduleRepo_list (texts : ColumnTexts) (engine : ∀ column : ScheduleColumns → String, OrderBy column)
    (filter : ScheduleFilter) (stored : StoredDb) :
    ScheduleRepo.list texts engine filter stored.schedules =
      if filter.Paged then (stored.listSchedules texts filter.listed (engine _)).mapError .row
      else .error .statement :=
  scheduleListing_names.list_eq engine filter stored.schedules

theorem creditNoteRepo_list (texts : ColumnTexts)
    (engine : ∀ column : CreditNoteColumns → String, OrderBy column) (filter : CreditNoteFilter)
    (stored : StoredDb) :
    CreditNoteRepo.list texts engine filter stored.creditNotes =
      if filter.Paged then (stored.listCreditNotes texts filter.listed (engine _)).mapError .row
      else .error .statement :=
  creditNoteListing_names.list_eq engine filter stored.creditNotes

section Stores

variable {texts : ColumnTexts} (documented : texts.Documented)

theorem invoiceListing_stores : invoiceListing.Stores Invoice.customerId Invoice.state Invoice.createdAt
    InvoiceColumns.customerId InvoiceColumns.state InvoiceColumns.createdAt texts
    (invoiceFormat documented) where
  read := rfl
  owner _ := rfl
  state _ := rfl
  created _ := rfl
  year inv fits := fits inv.createdAt (List.mem_append_right _ List.mem_cons_self)
  states := injective_of_read stateFromStr_toStr

theorem scheduleListing_stores : scheduleListing.Stores Schedule.customerId Schedule.state
    Schedule.createdAt ScheduleColumns.customerId ScheduleColumns.state ScheduleColumns.createdAt texts
    (scheduleFormat documented) where
  read := rfl
  owner _ := rfl
  state _ := rfl
  created _ := rfl
  year schedule fits := fits schedule.createdAt List.mem_cons_self
  states := injective_of_read scheduleStateFromStr_toStr

theorem creditNoteListing_stores : creditNoteListing.Stores CreditNote.invoiceId CreditNote.state
    CreditNote.createdAt CreditNoteColumns.invoiceId CreditNoteColumns.state CreditNoteColumns.createdAt
    texts (creditNoteFormat documented) where
  read := rfl
  owner _ := rfl
  state _ := rfl
  created _ := rfl
  year note fits := fits note.createdAt (List.mem_append_right _ List.mem_cons_self)
  states := injective_of_read cnStateFromStr_toStr

end Stores

end Invoicing
