/-
**The texts of the statements and the backends they are sent to.**

* `Backend`, `rewrite`, `portableSql` — the backends, and a text as it is sent to one.
* `Backend.Accepts` — the backend takes the text with so many bound values: the numbered placeholders are
  exactly those, or there are so many `?`.
* `RepoSql` — the statements of the repositories. **`RepoSql.accepted`** — every backend accepts them.
* `countInvoicesSql`, `countCreditNotesSql` — the two texts that are sent as they are.
-/

import Invoicing.Lib.Placeholders

namespace Invoicing

open Placeholders

/-! ### Backends -/

inductive Backend
  | sqlite
  | postgres
  | mysql
  deriving DecidableEq

/-- Placeholders become numbers on Postgres. -/
def rewrite (backend : Backend) (sql : String) : String :=
  match backend with
  | .postgres => String.ofList (rewritePostgres sql.toList)
  | .sqlite | .mysql => sql

/-- The text for the backend of a pool. -/
def portableSql (backend : Backend) (sql : String) : String := rewrite backend sql

/-- The text for the backend of a transaction. -/
def portableSqlForTx (backend : Backend) (sql : String) : String := rewrite backend sql

/-- The backend takes the text with so many bound values. -/
def Backend.Accepts (backend : Backend) (sql : String) (binds : ℕ) : Prop :=
  match backend with
  | .postgres => Numbered binds sql.toList
  | .sqlite | .mysql => sql.toList.count '?' = binds

instance (backend : Backend) (sql : String) (binds : ℕ) : Decidable (backend.Accepts sql binds) := by
  cases backend
  · exact inferInstanceAs (Decidable (_ = _))
  · exact inferInstanceAs (Decidable (Numbered _ _))
  · exact inferInstanceAs (Decidable (_ = _))

/-- **A rewritten text is accepted everywhere**, when the text itself has no numbers and one `?` for each
bound value. -/
theorem accepts_rewrite {sql : String} {binds : ℕ} (plain : Plain sql.toList)
    (count : sql.toList.count '?' = binds) (backend : Backend) :
    backend.Accepts (rewrite backend sql) binds := by
  cases backend with
  | postgres =>
    show Numbered binds (String.ofList (rewritePostgres sql.toList)).toList
    rw [String.toList_ofList, ← count]
    exact numbered_rewritePostgres plain
  | _ => exact count

/-! ### The statements of the repositories -/

theorem append_ofList {first second : String} {chars more : List Char} (same : first = String.ofList chars)
    (same' : second = String.ofList more) : first ++ second = String.ofList (chars ++ more) := by
  rw [same, same', String.ofList_append]

/-- A statement of a repository. -/
inductive RepoSql
  | saveInvoice
  | getInvoice
  | findByIdempotencyKey
  | deleteLines
  | insertLine
  | listLines
  | insertHistory
  | getCustomer
  | findSend
  | insertSend
  | saveCreditNote
  | getCreditNote
  | insertCreditHistory

namespace RepoSql

def text : RepoSql → String
  | saveInvoice =>
      "INSERT INTO invoices " ++
      "(id, number, customer_id, seller_jur, currency, state, " ++
      "issued_at, due_at, sent_at, viewed_at, paid_at, voided_at, " ++
      "subtotal, tax_total, total, amount_paid, " ++
      "schedule_id, template_path, pdf_blob_ref, idempotency_key, " ++
      "nexus_review, metadata, created_at, updated_at) " ++
      "VALUES (?, ?, ?, ?, ?, ?, ?, ?, ?, ?, ?, ?, ?, ?, ?, ?, ?, ?, ?, ?, ?, ?, ?, ?) " ++
      "ON CONFLICT (id) DO UPDATE SET " ++
      "number = excluded.number, " ++
      "customer_id = excluded.customer_id, " ++
      "seller_jur = excluded.seller_jur, " ++
      "currency = excluded.currency, " ++
      "state = excluded.state, " ++
      "issued_at = excluded.issued_at, " ++
      "due_at = excluded.due_at, " ++
      "sent_at = excluded.sent_at, " ++
      "viewed_at = excluded.viewed_at, " ++
      "paid_at = excluded.paid_at, " ++
      "voided_at = excluded.voided_at, " ++
      "subtotal = excluded.subtotal, " ++
      "tax_total = excluded.tax_total, " ++
      "total = excluded.total, " ++
      "amount_paid = excluded.amount_paid, " ++
      "schedule_id = excluded.schedule_id, " ++
      "template_path = excluded.template_path, " ++
      "pdf_blob_ref = excluded.pdf_blob_ref, " ++
      "idempotency_key = excluded.idempotency_key, " ++
      "nexus_review = excluded.nexus_review, " ++
      "metadata = excluded.metadata, " ++
      "updated_at = excluded.updated_at"
  | getInvoice =>
      "SELECT id, number, customer_id, seller_jur, currency, state, " ++
      "issued_at, due_at, sent_at, viewed_at, paid_at, voided_at, " ++
      "subtotal, tax_total, total, amount_paid, " ++
      "schedule_id, template_path, pdf_blob_ref, idempotency_key, " ++
      "nexus_review, metadata, created_at, updated_at " ++
      "FROM invoices WHERE id = ?"
  | findByIdempotencyKey =>
      "SELECT id, number, customer_id, seller_jur, currency, state, " ++
      "issued_at, due_at, sent_at, viewed_at, paid_at, voided_at, " ++
      "subtotal, tax_total, total, amount_paid, " ++
      "schedule_id, template_path, pdf_blob_ref, idempotency_key, " ++
      "nexus_review, metadata, created_at, updated_at " ++
      "FROM invoices WHERE idempotency_key = ? LIMIT 1"
  | deleteLines => "DELETE FROM invoice_lines WHERE invoice_id = ?"
  | insertLine =>
      "INSERT INTO invoice_lines " ++
      "(id, invoice_id, position, description, quantity, unit_price, " ++
      "tax_rate_ids, tax_category, tax_amount, line_total, metadata) " ++
      "VALUES (?, ?, ?, ?, ?, ?, ?, ?, ?, ?, ?)"
  | listLines =>
      "SELECT id, invoice_id, position, description, quantity, unit_price, " ++
      "tax_rate_ids, tax_category, tax_amount, line_total, metadata " ++
      "FROM invoice_lines WHERE invoice_id = ? ORDER BY position ASC"
  | insertHistory =>
      "INSERT INTO invoice_state_history " ++
      "(id, invoice_id, from_state, to_state, event, actor, channel, " ++
      "bus_event_id, reason, occurred_at, published_at, metadata) " ++
      "VALUES (?, ?, ?, ?, ?, ?, ?, ?, ?, ?, ?, ?)"
  | getCustomer =>
      "SELECT id, display_name, email, address_json, metadata, created_at, updated_at " ++
      "FROM customers WHERE id = ?"
  | findSend =>
      "SELECT invoice_id, idempotency_key, history_id, delivered_to, created_at " ++
      "FROM send_idempotency WHERE invoice_id = ? AND idempotency_key = ?"
  | insertSend =>
      "INSERT INTO send_idempotency " ++
      "(invoice_id, idempotency_key, history_id, delivered_to, created_at) " ++
      "VALUES (?, ?, ?, ?, ?)"
  | saveCreditNote =>
      "INSERT INTO credit_notes " ++
      "(id, number, invoice_id, state, amount, currency, reason, refund_ref, issued_at, created_at, " ++
      "metadata) " ++
      "VALUES (?, ?, ?, ?, ?, ?, ?, ?, ?, ?, ?) " ++
      "ON CONFLICT (id) DO UPDATE SET " ++
      "number = excluded.number, " ++
      "invoice_id = excluded.invoice_id, " ++
      "state = excluded.state, " ++
      "amount = excluded.amount, " ++
      "currency = excluded.currency, " ++
      "reason = excluded.reason, " ++
      "refund_ref = excluded.refund_ref, " ++
      "issued_at = excluded.issued_at, " ++
      "metadata = excluded.metadata"
  | getCreditNote =>
      "SELECT id, number, invoice_id, state, amount, currency, reason, refund_ref, issued_at, " ++
      "created_at, metadata " ++
      "FROM credit_notes WHERE id = ?"
  | insertCreditHistory =>
      "INSERT INTO credit_note_state_history " ++
      "(id, credit_note_id, from_state, to_state, event, actor, channel, bus_event_id, " ++
      "occurred_at, published_at, metadata) " ++
      "VALUES (?, ?, ?, ?, ?, ?, ?, ?, ?, ?, ?)"

/-- The values the repository binds to it. -/
def binds : RepoSql → ℕ
  | saveInvoice => 24
  | getInvoice => 1
  | findByIdempotencyKey => 1
  | deleteLines => 1
  | insertLine => 11
  | listLines => 1
  | insertHistory => 12
  | getCustomer => 1
  | findSend => 2
  | insertSend => 5
  | saveCreditNote => 11
  | getCreditNote => 1
  | insertCreditHistory => 11

set_option maxRecDepth 20000 in
/-- The texts have no numbers, and one `?` for each bound value. -/
theorem plain (statement : RepoSql) :
    Plain statement.text.toList ∧ statement.text.toList.count '?' = statement.binds := by
  -- a literal is the list of its characters, a text the lists of its literals
  have spelled : ∃ chars, statement.text = String.ofList chars ∧
      Plain chars ∧ chars.count '?' = statement.binds := by
    cases statement
    all_goals
      unfold text
      apply Exists.intro
      apply And.intro
      · repeat' first | apply append_ofList | exact rfl
      · decide +kernel
  obtain ⟨chars, same, facts⟩ := spelled
  rw [same, String.toList_ofList]
  exact facts

/-- **Every backend accepts the statements of the repositories.** -/
theorem accepted (statement : RepoSql) (backend : Backend) :
    backend.Accepts (rewrite backend statement.text) statement.binds :=
  accepts_rewrite statement.plain.1 statement.plain.2 backend

end RepoSql

/-! ### The counts -/

/-- The text of the count of issued invoices; it is not rewritten. -/
def countInvoicesSql : String :=
  "SELECT COUNT(*) AS c FROM invoices " ++
  "WHERE issued_at IS NOT NULL AND issued_at >= ? AND issued_at < ?"

/-- The text of the count of issued credit notes; it is not rewritten. -/
def countCreditNotesSql : String :=
  "SELECT COUNT(*) AS c FROM credit_notes " ++
  "WHERE issued_at IS NOT NULL AND issued_at >= ? AND issued_at < ?"

/-- **Postgres refuses the counts, SQLite takes them.** -/
theorem countSql_accepts {sql : String} (count : sql = countInvoicesSql ∨ sql = countCreditNotesSql) :
    Backend.sqlite.Accepts sql 2 ∧ ¬ Backend.postgres.Accepts sql 2 := by
  have spelled : ∃ chars, sql = String.ofList chars ∧ chars.count '?' = 2 := by
    rcases count with rfl | rfl <;>
      exact ⟨_, append_ofList rfl rfl, by decide +kernel⟩
  obtain ⟨chars, rfl, two⟩ := spelled
  constructor
  · show (String.ofList chars).toList.count '?' = 2
    rw [String.toList_ofList]
    exact two
  · refine not_numbered ?_
    rw [String.toList_ofList]
    exact List.count_pos_iff.mp (by omega)

end Invoicing
