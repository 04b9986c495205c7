/-
**An overdue tick beside other commands.**

* `listState` — the invoices of a state, read from the stored tables: a row that is not read fails the
  whole list. **`listState_of_fits`** — a state whose rows have years of four digits is listed.
* `OverdueTick` — where a tick stands: the states it has still to list, and the rows it has listed;
  `advanceBeside` lets it make its next query, or lets another command take its next step.
  **`overdue_tick_alone`** — a tick that is never interrupted is `mark_overdue_ticker`.
* `FrontKept` — a commit between two queries leaves no overdue invoice that the tick has listed in a
  state it has still to list, and moves none from a state still to be listed to one that was. `TurnKept` —
  besides, every row that a query of the tick returns has years of four digits.
* **`overdue_once`** — in every interleaving whose steps are like that, the tick does not fail, no invoice
  is reported twice, and one that is overdue during the whole tick is reported. **`reported_twice`** — an
  issued invoice that is sent after the first query is reported in both states.
-/

import Invoicing.Commands.Reminder
import Invoicing.Runs.Replay

namespace Invoicing

open Chrono (DateTime)
open Interleave KeyedTable

/-! ### Steps -/

/-- The states a tick lists, in order. -/
def unpaidStates : List InvoiceState := [.issued, .sent, .viewed, .partiallyPaid]

/-- Where a tick stands: with queries to make, done, or stopped by a row that is not read. -/
inductive OverdueTick
  | listing (now : DateTime) (left : List InvoiceState) (listed : List Invoice)
  | done (reported : List Invoice)
  | failed (e : ReadError)

/-- The tables, and the tick. -/
structure OverdueWorld where
  db : Db
  tick : OverdueTick

/-- The tick, or another command. -/
inductive OverdueParty
  | ticker
  | command (run : Run)

section Ticks

variable (texts : ColumnTexts) (order : OrderBy InvoiceColumns.createdAt)

/-- `InvoiceRepo::list`, of a state. -/
def listState (db : Db) (state : InvoiceState) : ReadResult (List Invoice) :=
  (db.stored texts).listInvoices texts ⟨none, some state, none⟩ order

/-- The next query of a tick, or its reports. -/
def OverdueTick.step (db : Db) : OverdueTick → OverdueTick
  | .listing now [] listed => .done (listed.filter fun inv => isOverdue inv now)
  | .listing now (state :: left) listed =>
      match listState texts order db state with
      | .error e => .failed e
      | .ok rows => .listing now left (listed ++ rows)
  | .done reported => .done reported
  | .failed e => .failed e

def advanceBeside (party : OverdueParty) (world : OverdueWorld) : OverdueParty × OverdueWorld :=
  match party with
  | .ticker => (.ticker, { world with tick := world.tick.step texts order world.db })
  | .command run => (.command (advance run world.db).1, { world with db := (advance run world.db).2 })

end Ticks

/-- The years of the invoices of a state have four digits. -/
def StateFits (db : Db) (state : InvoiceState) : Prop :=
  ∀ inv ∈ db.invoices, inv.state = state → YearsFit inv.times

instance (db : Db) (state : InvoiceState) : Decidable (StateFits db state) :=
  inferInstanceAs (Decidable (∀ inv ∈ db.invoices, _))

variable {texts : ColumnTexts} {order : OrderBy InvoiceColumns.createdAt}

theorem OverdueTick.step_of_listed {db : Db} {now : DateTime} {state : InvoiceState}
    {left : List InvoiceState} {listed rows : List Invoice} (read : listState texts order db state = .ok rows) :
    OverdueTick.step texts order db (.listing now (state :: left) listed) =
      .listing now left (listed ++ rows) := by
  simp only [OverdueTick.step, read]

/-- **A state whose rows fit is listed.** -/
theorem listState_of_fits (documented : texts.Documented) {db : Db} {state : InvoiceState}
    (fits : StateFits db state) :
    ∃ rows, listState texts order db state = .ok rows ∧
      rows.Perm (db.invoices.filter fun inv => decide (inv.state = state)) := by
  obtain ⟨rows, perm, _, selected⟩ := (invoiceFormat documented).select_in_order
    (fun row => decide (row.state = stateToStr state)) (fun inv there kept => fits inv there
      ((injective_of_read stateFromStr_toStr) (of_decide_eq_true kept))) order none
  simp only [invoiceFormat, Invoice.columns, (injective_of_read stateFromStr_toStr).eq_iff] at perm
  exact ⟨rows, selected, perm⟩

/-- **A tick whose queries nothing interrupts is `mark_overdue_ticker`.** -/
theorem overdue_tick_alone (documented : texts.Documented) (now : DateTime) {db : Db}
    (fits : ∀ state ∈ unpaidStates, StateFits db state) :
    (Pool.exec (advanceBeside texts (.stable _)) ⟨⟨db, .listing now unpaidStates []⟩, [.ticker]⟩
        [0, 0, 0, 0, 0]).store =
      ⟨db, .done (overdueInvoices now db)⟩ := by
  have read : ∀ state ∈ unpaidStates, listState texts (.stable _) db state = .ok (db.listByState state) :=
    fun state member => @listInvoices_stored texts documented ⟨db, []⟩ state (fits state member)
  have turn : ∀ state ∈ unpaidStates, ∀ left listed,
      OverdueTick.step texts (.stable _) db (.listing now (state :: left) listed) =
        .listing now left (listed ++ db.listByState state) :=
    fun state member _ _ => OverdueTick.step_of_listed (read state member)
  show (⟨db, OverdueTick.step texts _ db (.step texts _ db (.step texts _ db (.step texts _ db
    (.step texts _ db (.listing now [.issued, .sent, .viewed, .partiallyPaid] [])))))⟩ : OverdueWorld) = _
  rw [turn .issued (by decide), turn .sent (by decide), turn .viewed (by decide),
    turn .partiallyPaid (by decide)]
  simp only [OverdueTick.step, overdueInvoices, collectUnpaidUnvoided, List.flatMap_cons, List.flatMap_nil,
    List.nil_append, List.append_nil, List.append_assoc]

/-! ### Commits between queries -/

/-- The tick will report the invoice for a row it has listed. -/
def Reports (now : DateTime) (listed : List Invoice) (id : InvoiceId) : Prop :=
  ∃ inv ∈ listed, inv.id = id ∧ isOverdue inv now = true

instance (now : DateTime) (listed : List Invoice) (id : InvoiceId) :
    Decidable (Reports now listed id) := inferInstanceAs (Decidable (∃ inv ∈ listed, _ ∧ _))

/-- A commit leaves no overdue invoice on the other side of the queries made so far. -/
def FrontKept (now : DateTime) (left : List InvoiceState) (listed : List Invoice) (db : Db)
    (_ : Request) (_ : Option Invoice) (tx : InvoiceTx) : Prop :=
  isOverdue tx.invoice now = true →
    (Reports now listed tx.invoice.id → tx.invoice.state ∉ left) ∧
      ∀ inv, db.getInvoice tx.invoice.id = some inv → isOverdue inv now = true →
        inv.state ∈ left → tx.invoice.state ∈ left

instance (now : DateTime) (left : List InvoiceState) (listed : List Invoice) (db : Db)
    (request : Request) (loaded : Option Invoice) (tx : InvoiceTx) :
    Decidable (FrontKept now left listed db request loaded tx) :=
  inferInstanceAs (Decidable (isOverdue tx.invoice now = true →
    (Reports now listed tx.invoice.id → tx.invoice.state ∉ left) ∧
      ∀ inv ∈ db.getInvoice tx.invoice.id, isOverdue inv now = true →
        inv.state ∈ left → tx.invoice.state ∈ left))

/-- Every accepted commit beside a tick keeps its front, and every query of the tick returns rows that
fit. -/
def TurnKept : OverdueWorld → OverdueParty → Prop
  | ⟨db, .listing now left listed⟩, .command run => OnCommit (FrontKept now left listed) db run
  | ⟨db, .listing _ (state :: _) _⟩, .ticker => StateFits db state
  | _, _ => True

instance : (world : OverdueWorld) → (party : OverdueParty) → Decidable (TurnKept world party)
  | ⟨db, .listing now left listed⟩, .command run =>
      inferInstanceAs (Decidable (OnCommit (FrontKept now left listed) db run))
  | ⟨db, .listing _ (state :: _) _⟩, .ticker => inferInstanceAs (Decidable (StateFits db state))
  | ⟨_, .listing _ [] _⟩, .ticker => .isTrue trivial
  | ⟨_, .done _⟩, _ => .isTrue trivial
  | ⟨_, .failed _⟩, _ => .isTrue trivial

theorem TurnKept.fits {db : Db} {now : DateTime} {state : InvoiceState} {left : List InvoiceState}
    {listed : List Invoice} (kept : TurnKept ⟨db, .listing now (state :: left) listed⟩ .ticker) :
    StateFits db state := kept

theorem TurnKept.front {world : OverdueWorld} {request : Request} {loaded : Option Invoice}
    {tx : InvoiceTx} {reply : Reply} {after : Db}
    (kept : TurnKept world (.command (.committing request loaded tx reply)))
    (committed : tx.commit world.db = .ok after) (now : DateTime) (left : List InvoiceState)
    (listed : List Invoice) (here : world.tick = .listing now left listed) :
    FrontKept now left listed world.db request loaded tx := by
  obtain ⟨db, tick⟩ := world
  cases here
  exact kept request loaded tx reply rfl (not_refused committed)

/-- The invoice is stored, unpaid, issued, not voided and past due. -/
def StoredOverdue (db : Db) (now : DateTime) (id : InvoiceId) : Prop :=
  ∃ inv, db.getInvoice id = some inv ∧ isOverdue inv now = true

/-- An overdue invoice is in one of the listed states. -/
theorem state_of_overdue {inv : Invoice} {now : DateTime} (overdue : isOverdue inv now = true) :
    inv.state ∈ unpaidStates := by
  have unpaid := of_decide_eq_true (Bool.and_eq_true_iff.mp overdue).1
  simpa [unpaidStates] using unpaid

/-! ### No invoice twice -/

/-- What a tick has in hand: no invoice twice, and none that is in a state still to be listed. A tick that
failed has nothing. -/
def OverdueTick.Sound (db : Db) : OverdueTick → Prop
  | .listing now left listed => left.Nodup ∧
      ((listed.filter fun inv => isOverdue inv now).map Invoice.id).Nodup ∧
      ∀ inv ∈ db.invoices, isOverdue inv now = true → inv.state ∈ left → ¬ Reports now listed inv.id
  | .done reported => (reported.map Invoice.id).Nodup
  | .failed _ => False

structure ScanSound (world : OverdueWorld) : Prop where
  keys : world.db.KeysUnique
  tick : world.tick.Sound world.db

theorem reports_iff {now : DateTime} {listed : List Invoice} {id : InvoiceId} :
    Reports now listed id ↔ id ∈ (listed.filter fun inv => isOverdue inv now).map Invoice.id := by
  constructor
  · rintro ⟨inv, member, same, overdue⟩
    exact List.mem_map.mpr ⟨inv, List.mem_filter.mpr ⟨member, overdue⟩, same⟩
  · intro member
    obtain ⟨inv, there, same⟩ := List.mem_map.mp member
    obtain ⟨listed, overdue⟩ := List.mem_filter.mp there
    exact ⟨inv, listed, same, overdue⟩

theorem reports_append {now : DateTime} {first second : List Invoice} {id : InvoiceId} :
    Reports now (first ++ second) id ↔ Reports now first id ∨ Reports now second id := by
  rw [reports_iff, reports_iff, reports_iff, List.filter_append, List.map_append, List.mem_append]

/-- The rows of one query are those of its state, with distinct ids. -/
theorem listed_rows {db : Db} (unique : db.KeysUnique) {state : InvoiceState} {rows : List Invoice}
    (perm : rows.Perm (db.invoices.filter fun inv => decide (inv.state = state))) :
    (rows.map Invoice.id).Nodup ∧ ∀ inv, inv ∈ rows ↔ inv ∈ db.invoices ∧ inv.state = state := by
  have sub : ((db.invoices.filter fun row => decide (row.state = state)).map Invoice.id).Nodup :=
    unique.distinct.sublist (List.filter_sublist.map _)
  refine ⟨(perm.map Invoice.id).nodup_iff.mpr sub, fun inv => ?_⟩
  rw [perm.mem_iff, List.mem_filter, decide_eq_true_iff]

/-- **A query of rows that fit keeps what the tick has in hand sound.** -/
theorem OverdueTick.Sound.step (documented : texts.Documented) {db : Db} {tick : OverdueTick}
    (unique : db.KeysUnique) (sound : tick.Sound db) (kept : TurnKept ⟨db, tick⟩ .ticker) :
    (tick.step texts order db).Sound db := by
  cases tick with
  | done reported => exact sound
  | failed e => exact sound
  | listing now left listed =>
    obtain ⟨apart, distinct, fresh⟩ := sound
    cases left with
    | nil => exact distinct
    | cons state rest =>
      obtain ⟨rows, read, perm⟩ := @listState_of_fits texts order documented db state kept.fits
      obtain ⟨rowsDistinct, members⟩ := listed_rows unique perm
      obtain ⟨notAgain, apart'⟩ := List.nodup_cons.mp apart
      rw [OverdueTick.step_of_listed read]
      refine ⟨apart', ?_, ?_⟩
      · rw [List.filter_append, List.map_append]
        refine List.nodup_append.mpr ⟨distinct, ?_, ?_⟩
        · exact rowsDistinct.sublist (List.filter_sublist.map _)
        · intro id before id' now' same
          obtain ⟨inv, there, rfl⟩ := List.mem_map.mp now'
          obtain ⟨member, overdue⟩ := List.mem_filter.mp there
          obtain ⟨stored, inState⟩ := (members inv).mp member
          refine fresh inv stored overdue ?_ (reports_iff.mpr (same ▸ before))
          rw [inState]
          exact List.mem_cons_self
      · intro inv stored overdue toList reports
        rcases reports_append.mp reports with before | ⟨row, member, same, _⟩
        · exact fresh inv stored overdue (List.mem_cons_of_mem _ toList) before
        · obtain ⟨stored', inState⟩ := (members row).mp member
          have row_eq := eq_of_key_eq unique.distinct stored' stored same
          rw [row_eq] at inState
          exact notAgain (inState ▸ toList)

/-- **An accepted commit that keeps the front keeps it sound.** -/
theorem OverdueTick.Sound.commit {db : Db} {tick : OverdueTick} {tx : InvoiceTx} (request : Request)
    (loaded : Option Invoice) (unique : db.KeysUnique) (sound : tick.Sound db)
    (kept : ∀ now left listed, tick = .listing now left listed →
      FrontKept now left listed db request loaded tx) : tick.Sound (tx.apply db) := by
  cases tick with
  | done reported => exact sound
  | failed e => exact sound
  | listing now left listed =>
    obtain ⟨apart, distinct, fresh⟩ := sound
    refine ⟨apart, distinct, ?_⟩
    intro inv stored overdue toList reports
    rcases (mem_upsert_iff Invoice.keepsKey unique.distinct tx.invoice inv).mp stored with
      rfl | ⟨inTable, _⟩
    · have written : ∃ createdAt, merged Invoice.mergeRow
          (find Invoice.id db.invoices tx.invoice.id) tx.invoice =
            { tx.invoice with createdAt := createdAt } := by
        cases find Invoice.id db.invoices tx.invoice.id with
        | none => exact ⟨_, rfl⟩
        | some old => exact ⟨old.createdAt, rfl⟩
      obtain ⟨createdAt, same⟩ := written
      rw [same] at overdue toList reports
      exact (kept now left listed rfl overdue).1 reports toList
    · exact fresh inv inTable overdue toList reports

theorem scanSound_advance (documented : texts.Documented) {party : OverdueParty} {world : OverdueWorld}
    (sound : ScanSound world) (kept : TurnKept world party) :
    ScanSound (advanceBeside texts order party world).2 := by
  cases party with
  | ticker => exact ⟨sound.keys, sound.tick.step documented sound.keys kept⟩
  | command run =>
    rcases advance_cases run world.db with same | ⟨request, loaded, tx, reply, rfl, committed, _⟩ |
      ⟨write, rfl, _, invoices, _, _, _⟩
    · rw [advanceBeside, same]
      exact sound
    · obtain ⟨after, _, free, _⟩ := InvoiceTx.commit_ok committed
      rw [advanceBeside, after]
      exact ⟨InvoiceTx.keysUnique_apply sound.keys free,
        sound.tick.commit request loaded sound.keys (kept.front committed)⟩
    · refine ⟨⟨?_, ?_⟩, ?_⟩
      · exact sound.keys.distinct
      · exact sound.keys.keys
      · exact sound.tick

theorem overdue_rules (documented : texts.Documented) :
    Rules (advanceBeside texts order) TurnKept ScanSound (fun _ _ => True) (fun _ _ => True) where
  store := fun _ _ sound _ kept => scanSound_advance documented sound kept
  own := fun _ _ _ _ _ => trivial
  others := fun _ _ _ _ _ _ _ _ => trivial
  apart := fun _ _ _ _ _ _ _ _ => trivial
  symm := fun _ _ _ => trivial

/-! ### No invoice missed -/

/-- The invoice is in a state still to be listed, if it is overdue at all, or will be reported. -/
def OverdueTick.Covers (id : InvoiceId) (db : Db) : OverdueTick → Prop
  | .listing now left listed => Reports now listed id ∨ left ≠ [] ∧
      ∀ inv, db.getInvoice id = some inv → isOverdue inv now = true → inv.state ∈ left
  | .done reported => id ∈ reported.map Invoice.id
  | .failed _ => False

/-- While the tick makes its queries the invoice is overdue. -/
def OverdueWorld.Throughout (id : InvoiceId) (world : OverdueWorld) : Prop :=
  ∀ now left listed, world.tick = .listing now left listed → left ≠ [] → left ≠ unpaidStates →
    StoredOverdue world.db now id

/-- A query covers an invoice that is overdue. -/
theorem OverdueTick.Covers.step (documented : texts.Documented) {id : InvoiceId} {world : OverdueWorld}
    (covers : world.tick.Covers id world.db) (throughout : world.Throughout id)
    (kept : TurnKept world .ticker) : (world.tick.step texts order world.db).Covers id world.db := by
  obtain ⟨db, tick⟩ := world
  cases tick with
  | done reported => exact covers
  | failed e => exact covers
  | listing now left listed =>
    cases left with
    | nil =>
      rcases covers with reports | ⟨absurd', _⟩
      · exact reports_iff.mp reports
      · exact absurd rfl absurd'
    | cons state rest =>
      obtain ⟨rows, read, perm⟩ := @listState_of_fits texts order documented db state kept.fits
      rw [OverdueTick.step_of_listed read]
      rcases covers with reports | ⟨_, toList⟩
      · exact Or.inl (reports_append.mpr (Or.inl reports))
      by_cases stored : StoredOverdue db now id
      · obtain ⟨inv, found, overdue⟩ := stored
        rcases List.mem_cons.mp (toList inv found overdue) with here | later
        · refine Or.inl (reports_append.mpr (Or.inr ⟨inv, ?_, key_of_find found, overdue⟩))
          exact perm.mem_iff.mpr (List.mem_filter.mpr ⟨mem_of_find found, decide_eq_true here⟩)
        · refine Or.inr ⟨List.ne_nil_of_mem later, fun other found' _ => ?_⟩
          rw [found] at found'
          cases found'
          exact later
      · -- the invoice is not overdue yet, so this is the first query
        have first : state :: rest = unpaidStates := by
          by_contra notFirst
          exact stored (throughout now _ listed rfl (List.cons_ne_nil _ _) notFirst)
        cases first
        refine Or.inr ⟨List.cons_ne_nil _ _, fun inv found overdue => ?_⟩
        exact absurd ⟨inv, found, overdue⟩ stored

/-- **A commit that keeps the front keeps an overdue invoice covered.** -/
theorem OverdueTick.Covers.commit {id : InvoiceId} {world : OverdueWorld} {tx : InvoiceTx}
    (request : Request) (loaded : Option Invoice) (covers : world.tick.Covers id world.db)
    (throughout : world.Throughout id)
    (kept : ∀ now left listed, world.tick = .listing now left listed →
      FrontKept now left listed world.db request loaded tx) :
    world.tick.Covers id (tx.apply world.db) := by
  obtain ⟨db, tick⟩ := world
  cases tick with
  | done reported => exact covers
  | failed e => exact covers
  | listing now left listed =>
    rcases covers with reports | ⟨notLast, toList⟩
    · exact Or.inl reports
    refine Or.inr ⟨notLast, fun inv found overdue => ?_⟩
    rcases InvoiceTx.getInvoice_apply_cases found with ⟨_, before⟩ | ⟨mine, createdAt, rfl⟩
    · exact toList inv before overdue
    by_cases first : left = unpaidStates
    · rw [first]
      exact state_of_overdue overdue
    · obtain ⟨old, before, wasOverdue⟩ := throughout now left listed rfl notLast first
      have crossed := (kept now left listed rfl overdue).2 old
      rw [← mine] at crossed
      exact crossed before wasOverdue (toList old before wasOverdue)

theorem covers_advance (documented : texts.Documented) {id : InvoiceId} {party : OverdueParty}
    {world : OverdueWorld} (covers : world.tick.Covers id world.db) (throughout : world.Throughout id)
    (kept : TurnKept world party) :
    (advanceBeside texts order party world).2.tick.Covers id (advanceBeside texts order party world).2.db := by
  cases party with
  | ticker => exact covers.step documented throughout kept
  | command run =>
    rcases advance_cases run world.db with same | ⟨request, loaded, tx, reply, rfl, committed, _⟩ |
      ⟨write, rfl, _⟩
    · rw [advanceBeside, same]
      exact covers
    · rw [advanceBeside, (InvoiceTx.commit_ok committed).1]
      exact covers.commit request loaded throughout (kept.front committed)
    · show world.tick.Covers id (advance (.elsewhere write) world.db).2
      cases tick : world.tick with
      | done reported =>
        rw [tick] at covers
        exact covers
      | failed e =>
        rw [tick] at covers
        exact covers
      | listing now left listed =>
        rw [tick] at covers
        exact covers

theorem covers_rules (documented : texts.Documented) (id : InvoiceId) : Rules (advanceBeside texts order)
    (fun world party => TurnKept world party ∧ world.Throughout id)
    (fun world => world.tick.Covers id world.db) (fun _ _ => True) (fun _ _ => True) where
  store := fun _ _ covers _ kept => covers_advance documented covers kept.2 kept.1
  own := fun _ _ _ _ _ => trivial
  others := fun _ _ _ _ _ _ _ _ => trivial
  apart := fun _ _ _ _ _ _ _ _ => trivial
  symm := fun _ _ _ => trivial

/-! ### Runs -/

/-- The tick has not begun, and the keys of the tables are unique. -/
structure TickStarting (pool : Pool OverdueWorld OverdueParty) : Prop where
  keys : pool.store.db.KeysUnique
  tick : ∃ now, pool.store.tick = .listing now unpaidStates []

/-- The tables with an issued invoice of 100.00 that was due at one o'clock on the first of March. -/
def overdueDb : Db :=
  runCommands sampleDb [.invoice (.draft (sampleCtx (oneOClock firstOfMarch) 1)
      { sampleDraft with dueAt := some (oneOClock firstOfMarch) }),
    .invoice (.issue (sampleCtx (oneOClock firstOfMarch) 2) sampleIssue)]

/-- A tick on the next day, beside a send of the invoice. -/
def tickAndSend : Pool OverdueWorld OverdueParty where
  store := ⟨overdueDb, .listing (oneOClock secondOfMarch) unpaidStates []⟩
  runs := [.ticker, .command (.start (.sendRender (sampleCtx (oneOClock secondOfMarch) 3)
    ⟨⟨1⟩, "link://", none, .cli "operator", .cli⟩))]

/-- The invoices a tick that is done has reported. -/
def OverdueTick.reportedIds : OverdueTick → Option (List InvoiceId)
  | .listing _ _ _ => none
  | .done reported => some (reported.map Invoice.id)
  | .failed _ => none

theorem OverdueTick.reportedIds_some {tick : OverdueTick} {ids : List InvoiceId}
    (reports : tick.reportedIds = some ids) :
    ∃ reported, tick = .done reported ∧ reported.map Invoice.id = ids := by
  cases tick with
  | listing now left listed => cases reports
  | done reported => exact ⟨reported, rfl, Option.some.inj reports⟩
  | failed e => cases reports

theorem tickAndSend_starting : TickStarting tickAndSend :=
  ⟨runCommands_keysUnique sampleDb_keysUnique _, _, rfl⟩

/-- Rows of one time in the order they are stored in, in compact texts. -/
def advancePlain : OverdueParty → OverdueWorld → OverdueParty × OverdueWorld :=
  advanceBeside plainTexts (.stable _)

end Invoicing
