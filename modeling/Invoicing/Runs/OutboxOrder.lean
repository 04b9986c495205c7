/-
**The order of the outbox.**

* `Server`, `Turn` — a relay that makes one call at a time, with commands between any two of its calls;
  a new pass may begin at any moment, also when the pass before it stopped half way.
* `Server.InPass` — what a pass has published so far follows the times of the rows, table by table.
* `InTime` — the rows of an invoice carry later times the later they were committed. `Orderly` — then
  nothing published for the invoice is later than a row still to be published.
* **`outbox_order`** — a pass publishes in the order of the times; the audit list is in the order of the
  commits exactly when the rows are in time, and then the relay publishes in that order.
  **`payment_before_issue`** — a payment received before the issue comes first in both.
-/

import Invoicing.Runs.Lifecycle
import Invoicing.Runs.Relay

namespace Invoicing

open Chrono (DateTime)

/-! ### The server -/

/-- The relay and the commands of a server: the pass of the relay, how many publications there were when
it began, and the tables. -/
structure Server where
  pass : RelayPass
  begun : ℕ
  store : RelayStore

/-- A command runs, a pass begins, or the relay makes its next call. -/
inductive Turn
  | action (action : Action)
  | poll (world : RelayWorld) (limit : ℤ)
  | relay

def Turn.execute (turn : Turn) (server : Server) : Server :=
  match turn with
  | .action next =>
      { server with store := { server.store with db := next.execute server.store.db } }
  | .poll world limit => ⟨.start world limit, server.store.accepted.length, server.store⟩
  | .relay =>
      let after := server.pass.advance server.store
      ⟨after.1, server.begun, after.2⟩

/-- A server takes turns one after the other. -/
def runServer (server : Server) : List Turn → Server
  | [] => server
  | turn :: rest => runServer (turn.execute server) rest

/-- A server that starts on empty tables, its first pass about to begin. -/
def Server.boot (world : RelayWorld) (limit : ℤ) : Server := ⟨.start world limit, 0, ⟨emptyDb, []⟩⟩

/-- What the pass has published. -/
def Server.recent (server : Server) : List Publication := server.store.accepted.drop server.begun

/-- **Whatever every turn keeps holds after a run.** -/
theorem runServer_induction {I : Server → Prop}
    (step : ∀ (turn : Turn) server, I server → I (turn.execute server)) {server : Server} (start : I server)
    (turns : List Turn) : I (runServer server turns) := by
  induction turns generalizing server with
  | nil => exact start
  | cons turn rest ih => exact ih (step turn server start)

/-! ### Inside a pass -/

/-- The pass has yet to select rows of the table. -/
def RelayPoint.Selects (outbox : Outbox) : RelayPoint → Prop
  | .selecting next => next = outbox ∨ outbox = .creditNotes
  | .relaying row _ _ => row.outbox = .invoices ∧ outbox = .creditNotes
  | _ => False

/-- The rows a pass has are of one table and in the order of their times. -/
structure Sorted (rows : List OutboxRow) : Prop where
  sorted : rows.Pairwise fun first second => first.timeText ≤ second.timeText
  oneTable : ∀ row ∈ rows, ∀ other ∈ rows, row.outbox = other.outbox

theorem Sorted.nil : Sorted [] := ⟨List.Pairwise.nil, fun _ absent => by cases absent⟩

theorem Sorted.tail {row : OutboxRow} {rest : List OutboxRow} (sorted : Sorted (row :: rest)) :
    Sorted rest :=
  ⟨(List.pairwise_cons.mp sorted.sorted).2, fun row member other member' =>
    sorted.oneTable row (List.mem_cons_of_mem _ member) other (List.mem_cons_of_mem _ member')⟩

/-- The first row is not later than the others. -/
theorem Sorted.head_le {row : OutboxRow} {rest : List OutboxRow} (sorted : Sorted (row :: rest)) :
    ∀ other ∈ row :: rest, row.timeText ≤ other.timeText := by
  intro other member
  rcases List.mem_cons.mp member with rfl | later
  · exact le_refl _
  · exact (List.pairwise_cons.mp sorted.sorted).1 other later

theorem sorted_pendingOutbox (db : Db) (order : OrderBy OutboxRow.timeText) (limit : ℤ)
    (outbox : Outbox) : Sorted (db.pendingOutbox order limit outbox) := by
  refine ⟨(order.sorted _).sublist (limitRows_isPrefix limit _).sublist, ?_⟩
  intro row member other member'
  rw [Db.outbox_of_mem (Db.mem_pendingOutbox member).1,
    Db.outbox_of_mem (Db.mem_pendingOutbox member').1]

/-- What a pass has published follows the times, and is not later than what it still has. -/
structure Server.InPass (server : Server) : Prop where
  begun : server.begun ≤ server.store.accepted.length
  rows : Sorted server.pass.point.rows
  published : server.recent.Pairwise fun first second =>
    first.row.outbox = second.row.outbox → first.row.timeText ≤ second.row.timeText
  before : ∀ done ∈ server.recent, ∀ row ∈ server.pass.point.rows,
    done.row.outbox = row.outbox → done.row.timeText ≤ row.timeText
  fresh : ∀ done ∈ server.recent, ¬ server.pass.point.Selects done.row.outbox

/-- The table of the rows a pass goes on with is not selected from again. -/
theorem selects_nextPoint {outbox table : Outbox} {rows : List OutboxRow}
    (own : ∀ row ∈ rows, row.outbox = outbox) :
    (nextPoint outbox rows).Selects table ↔ outbox = .invoices ∧ table = .creditNotes := by
  cases rows with
  | cons row rest =>
    show row.outbox = .invoices ∧ table = .creditNotes ↔ _
    rw [own row List.mem_cons_self]
  | nil =>
    cases outbox with
    | invoices =>
      show (Outbox.creditNotes = table ∨ table = .creditNotes) ↔ _
      simp [eq_comm]
    | creditNotes =>
      show False ↔ _
      simp

/-- A pass that stops keeps what it published. -/
theorem Server.InPass.stop {server : Server} (inPass : server.InPass) {calls : ℕ} {stats : OutboxStats}
    {point : RelayPoint} (noRows : point.rows = []) (noTable : ∀ outbox, ¬ point.Selects outbox) :
    Server.InPass ⟨⟨server.pass.world, server.pass.limit, calls, stats, point⟩, server.begun,
      server.store⟩ where
  begun := inPass.begun
  rows := by
    show Sorted point.rows
    rw [noRows]
    exact .nil
  published := inPass.published
  before done _ row member := by
    have absent : row ∈ point.rows := member
    rw [noRows] at absent
    cases absent
  fresh done _ := noTable _

/-- **A call of the relay keeps the order of its pass.** -/
theorem Server.InPass.relay {server : Server} (inPass : server.InPass) :
    (Turn.relay.execute server).InPass := by
  obtain ⟨⟨world, limit, calls, stats, point⟩, begun, store⟩ := server
  obtain ⟨_, _, _, after, same, next⟩ :=
    RelayPass.advanced ⟨world, limit, calls, stats, point⟩ store
  show Server.InPass ⟨(RelayPass.advance _ store).1, begun, (RelayPass.advance _ store).2⟩
  rw [same]
  cases next with
  | selected outbox =>
    have own : ∀ row ∈ store.db.pendingOutbox world.order limit outbox, row.outbox = outbox :=
      fun row member => Db.outbox_of_mem (Db.mem_pendingOutbox member).1
    refine ⟨inPass.begun, ?_, inPass.published, ?_, ?_⟩
    · rw [rows_nextPoint]
      exact sorted_pendingOutbox _ _ _ _
    · intro done member row there same
      rw [rows_nextPoint] at there
      refine absurd (Or.inl ?_) (inPass.fresh done member)
      rw [same, own row there]
    · intro done member
      rw [selects_nextPoint own]
      rintro ⟨_, table⟩
      exact inPass.fresh done member (Or.inr table)
  | accepted row event left rest =>
    have grown : (store.accept row event).accepted.drop begun =
        store.accepted.drop begun ++ [⟨row, event⟩] := List.drop_append_of_le_length inPass.begun
    have recent : ∀ done ∈ (store.accept row event).accepted.drop begun,
        done ∈ store.accepted.drop begun ∨ done = ⟨row, event⟩ := by
      intro done member
      rw [grown, List.mem_append, List.mem_singleton] at member
      exact member
    refine ⟨?_, inPass.rows, ?_, ?_, ?_⟩
    · exact Nat.le_trans inPass.begun (by simp [RelayStore.accept])
    · show ((store.accept row event).accepted.drop begun).Pairwise _
      rw [grown, List.pairwise_append]
      refine ⟨inPass.published, List.pairwise_singleton _ _, ?_⟩
      intro done member new same
      obtain rfl := List.mem_singleton.mp same
      exact inPass.before done member row List.mem_cons_self
    · intro done member other there same
      rcases recent done member with old | rfl
      · exact inPass.before done old other there same
      · exact inPass.rows.head_le other there
    · intro done member
      rcases recent done member with old | rfl
      · exact inPass.fresh done old
      · rintro ⟨mine, other⟩
        rw [mine] at other
        cases other
  | marked row rest time =>
    have own : ∀ other ∈ rest, other.outbox = row.outbox := fun other member =>
      inPass.rows.oneTable other (List.mem_cons_of_mem _ member) row List.mem_cons_self
    refine ⟨inPass.begun, ?_, inPass.published, ?_, ?_⟩
    · rw [rows_nextPoint]
      exact inPass.rows.tail
    · intro done member other there
      rw [rows_nextPoint] at there
      exact inPass.before done member other (List.mem_cons_of_mem _ there)
    · intro done member
      rw [selects_nextPoint own]
      exact inPass.fresh done member
  | refused => exact inPass.stop rfl (fun _ => id)
  | ended atEnd =>
    exact ⟨inPass.begun, inPass.rows, inPass.published, inPass.before, inPass.fresh⟩

theorem Server.InPass.execute {server : Server} (inPass : server.InPass) (turn : Turn) :
    (turn.execute server).InPass := by
  cases turn with
  | action action =>
    exact ⟨inPass.begun, inPass.rows, inPass.published, inPass.before, inPass.fresh⟩
  | poll world limit =>
    have none : (Turn.execute (.poll world limit) server).recent = [] := List.drop_length
    refine ⟨le_refl _, .nil, ?_, ?_, ?_⟩
    · rw [none]
      exact List.Pairwise.nil
    · rw [none]
      intro _ absent
      cases absent
    · rw [none]
      intro _ absent
      cases absent
  | relay => exact inPass.relay

/-! ### Rows in time -/

/-- A history row of the invoice. -/
def OutboxRow.Of (id : InvoiceId) : OutboxRow → Prop
  | .invoice row => row.invoiceId = id
  | .creditNote _ => False

instance (id : InvoiceId) (row : OutboxRow) : Decidable (row.Of id) :=
  match row with
  | .invoice row => inferInstanceAs (Decidable (row.invoiceId = id))
  | .creditNote _ => inferInstanceAs (Decidable False)

theorem OutboxRow.Of.outbox {id : InvoiceId} {row : OutboxRow} (mine : row.Of id) :
    row.outbox = .invoices := by
  cases row with
  | invoice row => rfl
  | creditNote row => exact mine.elim

@[simp] theorem OutboxRow.of_afterMark (id : InvoiceId) (row : OutboxRow) (time : DateTime)
    (other : OutboxRow) : (row.afterMark time other).Of id ↔ other.Of id := by
  unfold OutboxRow.afterMark
  split
  · cases other <;> rfl
  · rfl

/-- The rows of the invoice carry later times the later they were committed. -/
def InTime (id : InvoiceId) (table : List OutboxRow) : Prop :=
  table.Pairwise fun first second => first.Of id → second.Of id → first.timeText < second.timeText

theorem inTime_afterMark {id : InvoiceId} {row : OutboxRow} {time : DateTime}
    {table : List OutboxRow} : InTime id (table.map (row.afterMark time)) ↔ InTime id table := by
  unfold InTime
  rw [List.pairwise_map]
  simp

/-- The table has a row of the invoice with the id and the time of this one. -/
def Listed (id : InvoiceId) (table : List OutboxRow) (row : OutboxRow) : Prop :=
  ∃ stored ∈ table, stored.Of id ∧ stored.id = row.id ∧ stored.timeText = row.timeText

/-- What holds between the history table, the rows a pass still has, and what was published. -/
structure Orderly (id : InvoiceId) (table rows : List OutboxRow) (accepted : List Publication) :
    Prop where
  ids : (table.map OutboxRow.id).Nodup
  stored : ∀ row ∈ rows, row.outbox = .invoices → row ∈ table ∧ row.Pending
  distinct : rows.Pairwise fun first second => first.outbox = .invoices → first.id ≠ second.id
  sorted : rows.Pairwise fun first second => first.timeText ≤ second.timeText
  listed : ∀ done ∈ accepted, done.row.Of id → Listed id table done.row
  published : InTime id table → accepted.Pairwise fun first second =>
    first.row.Of id → second.row.Of id → first.row.timeText ≤ second.row.timeText
  behind : InTime id table → ∀ done ∈ accepted, done.row.Of id →
    ∀ row ∈ table, row.Of id → row.Pending → done.row.timeText ≤ row.timeText
  ahead : InTime id table → ∀ next ∈ rows, next.Of id →
    ∀ row ∈ table, row.Of id → row.Pending → row ∈ rows ∨ next.timeText ≤ row.timeText

namespace Orderly

variable {id : InvoiceId} {table rows rest : List OutboxRow} {row : OutboxRow}
  {accepted : List Publication}

/-- Empty tables. -/
theorem start (id : InvoiceId) : Orderly id [] [] [] where
  ids := List.nodup_nil
  stored _ absent := by cases absent
  distinct := List.Pairwise.nil
  sorted := List.Pairwise.nil
  listed _ absent := by cases absent
  published _ := List.Pairwise.nil
  behind _ _ absent := by cases absent
  ahead _ _ absent := by cases absent

/-- A pass that has no rows, or rows of credit notes. -/
theorem leave (orderly : Orderly id table rows accepted) {others : List OutboxRow}
    (none : ∀ row ∈ others, row.outbox ≠ .invoices)
    (sorted : others.Pairwise fun first second => first.timeText ≤ second.timeText) :
    Orderly id table others accepted where
  ids := orderly.ids
  stored row member mine := absurd mine (none row member)
  distinct := List.pairwise_iff_forall_sublist.mpr fun sub mine =>
    absurd mine (none _ (sub.subset List.mem_cons_self))
  sorted := sorted
  listed := orderly.listed
  published := orderly.published
  behind := orderly.behind
  ahead _ next member mine := absurd mine.outbox (none next member)

/-- A row is committed. -/
theorem commit (orderly : Orderly id table rows accepted) {new : OutboxRow}
    (fresh : ∀ old ∈ table, old.id ≠ new.id) : Orderly id (table ++ [new]) rows accepted := by
  have before : InTime id (table ++ [new]) → InTime id table ∧
      ∀ old ∈ table, old.Of id → new.Of id → old.timeText < new.timeText := by
    intro inTime
    obtain ⟨old, _, later⟩ := List.pairwise_append.mp inTime
    exact ⟨old, fun row member => later row member new List.mem_cons_self⟩
  refine ⟨nodup_concat orderly.ids fresh, ?_, orderly.distinct, orderly.sorted, ?_, fun inTime =>
    orderly.published (before inTime).1, ?_, ?_⟩
  · intro row member mine
    obtain ⟨there, pending⟩ := orderly.stored row member mine
    exact ⟨List.mem_append_left _ there, pending⟩
  · intro done member mine
    obtain ⟨row, there, same⟩ := orderly.listed done member mine
    exact ⟨row, List.mem_append_left _ there, same⟩
  · intro inTime done member mine row there here pending
    rcases List.mem_append.mp there with old | same
    · exact orderly.behind (before inTime).1 done member mine row old here pending
    · obtain rfl := List.mem_singleton.mp same
      obtain ⟨stored, inTable, owner, _, sameTime⟩ := orderly.listed done member mine
      rw [← sameTime]
      exact le_of_lt ((before inTime).2 stored inTable owner here)
  · intro inTime next member mine row there here pending
    rcases List.mem_append.mp there with old | same
    · exact orderly.ahead (before inTime).1 next member mine row old here pending
    · obtain rfl := List.mem_singleton.mp same
      have inTable := (orderly.stored next member mine.outbox).1
      exact Or.inr (le_of_lt ((before inTime).2 next inTable mine here))

/-- Rows are selected from the invoice history. -/
theorem select (orderly : Orderly id table rows accepted) (order : OrderBy OutboxRow.timeText)
    (limit : ℤ) : Orderly id table
      (limitRows limit (order.rows (table.filter fun row => decide row.Pending))) accepted := by
  have chosen := (limitRows_isPrefix limit
    (order.rows (table.filter fun row => decide row.Pending))).sublist
  have pendingIn : ∀ row ∈ order.rows (table.filter fun row => decide row.Pending),
      row ∈ table ∧ row.Pending := by
    intro row member
    rw [order.mem_rows, List.mem_filter] at member
    exact ⟨member.1, of_decide_eq_true member.2⟩
  have ids : ((order.rows (table.filter fun row => decide row.Pending)).map OutboxRow.id).Nodup := by
    rw [((order.perm _).map OutboxRow.id).nodup_iff]
    exact (List.filter_sublist.map OutboxRow.id).nodup orderly.ids
  refine ⟨orderly.ids, fun row member _ => pendingIn row (chosen.subset member), ?_,
    (order.sorted _).sublist chosen, orderly.listed, orderly.published, orderly.behind, ?_⟩
  · have apart := List.pairwise_map.mp ((chosen.map OutboxRow.id).nodup ids)
    refine apart.imp ?_
    intro first second different _
    exact different
  · intro _ next member mine row there here pending
    have candidate : row ∈ table.filter fun row => decide row.Pending :=
      List.mem_filter.mpr ⟨there, decide_eq_true pending⟩
    exact order.of_limitRows member candidate

/-- The first row is not later than any other pending row of its invoice. -/
theorem head_le (orderly : Orderly id table (row :: rest) accepted) (inTime : InTime id table)
    (mine : row.Of id) {other : OutboxRow} (there : other ∈ table) (here : other.Of id)
    (pending : other.Pending) : row.timeText ≤ other.timeText := by
  rcases orderly.ahead inTime row List.mem_cons_self mine other there here pending with among | le
  · rcases List.mem_cons.mp among with rfl | later
    · exact le_refl _
    · exact (List.pairwise_cons.mp orderly.sorted).1 other later
  · exact le

/-- An event of the first row is published. -/
theorem accept (orderly : Orderly id table (row :: rest) accepted) (event : BusEvent) :
    Orderly id table (row :: rest) (accepted ++ [⟨row, event⟩]) := by
  refine ⟨orderly.ids, orderly.stored, orderly.distinct, orderly.sorted, ?_, ?_, ?_, orderly.ahead⟩
  · intro done member mine
    rcases List.mem_append.mp member with old | same
    · exact orderly.listed done old mine
    · obtain rfl := List.mem_singleton.mp same
      exact ⟨row, (orderly.stored row List.mem_cons_self mine.outbox).1, mine, rfl, rfl⟩
  · intro inTime
    rw [List.pairwise_append]
    refine ⟨orderly.published inTime, List.pairwise_singleton _ _, ?_⟩
    intro done member new same mine here
    obtain rfl := List.mem_singleton.mp same
    obtain ⟨there, pending⟩ := orderly.stored row List.mem_cons_self here.outbox
    exact orderly.behind inTime done member mine row there here pending
  · intro inTime done member mine other there here pending
    rcases List.mem_append.mp member with old | same
    · exact orderly.behind inTime done old mine other there here pending
    · obtain rfl := List.mem_singleton.mp same
      exact orderly.head_le inTime mine there here pending

/-- The first row is marked. -/
theorem mark (orderly : Orderly id table (row :: rest) accepted) (time : DateTime) :
    Orderly id (table.map (row.afterMark time)) rest accepted := by
  obtain ⟨apart, distinct⟩ := List.pairwise_cons.mp orderly.distinct
  have pendingIn : ∀ other ∈ table.map (row.afterMark time), other.Pending →
      other ∈ table ∧ other ≠ row := by
    intro other member pending
    obtain ⟨old, there, rfl⟩ := List.mem_map.mp member
    obtain ⟨same, different⟩ := OutboxRow.pending_afterMark pending
    rw [same]
    refine ⟨there, ?_⟩
    rintro rfl
    exact different ⟨rfl, rfl⟩
  refine ⟨?_, ?_, distinct, (List.pairwise_cons.mp orderly.sorted).2, ?_, ?_, ?_, ?_⟩
  · rw [OutboxRow.ids_afterMark]
    exact orderly.ids
  · intro other member mine
    obtain ⟨there, pending⟩ := orderly.stored other (List.mem_cons_of_mem _ member) mine
    refine ⟨List.mem_map.mpr ⟨other, there, if_neg ?_⟩, pending⟩
    rintro ⟨sameTable, sameId⟩
    exact apart other member (sameTable ▸ mine) sameId.symm
  · intro done member mine
    obtain ⟨stored, there, owner, sameId, sameTime⟩ := orderly.listed done member mine
    exact ⟨row.afterMark time stored, List.mem_map_of_mem there,
      (OutboxRow.of_afterMark id row time stored).mpr owner,
      by rw [OutboxRow.id_afterMark, sameId], by rw [OutboxRow.timeText_afterMark, sameTime]⟩
  · intro inTime
    exact orderly.published (inTime_afterMark.mp inTime)
  · intro inTime done member mine other there here pending
    exact orderly.behind (inTime_afterMark.mp inTime) done member mine other
      (pendingIn other there pending).1 here pending
  · intro inTime next member mine other there here pending
    obtain ⟨old, different⟩ := pendingIn other there pending
    rcases orderly.ahead (inTime_afterMark.mp inTime) next (List.mem_cons_of_mem _ member) mine other
      old here pending with among | le
    · rcases List.mem_cons.mp among with same | later
      · exact absurd same different
      · exact Or.inl later
    · exact Or.inr le

end Orderly

/-! ### Runs -/

/-- The rows the relay publishes for the invoice are in the order of their times. -/
def Server.Orderly (id : InvoiceId) (server : Server) : Prop :=
  Invoicing.Orderly id (server.store.db.outbox .invoices) server.pass.point.rows
    server.store.accepted

/-- A command keeps the order: it only adds rows after those of the table. -/
theorem Orderly.action {id : InvoiceId} {rows : List OutboxRow} {accepted : List Publication} {db : Db}
    (orderly : Orderly id (db.outbox .invoices) rows accepted) (action : Action) :
    Orderly id ((action.execute db).outbox .invoices) rows accepted := by
  refine Action.keeps (I := fun db => Orderly id (db.outbox .invoices) rows accepted)
    (P := fun _ _ => True) ?_ ?_ orderly (Action.each_of_forall (fun _ _ => trivial) db action)
  · intro before after same holds
    show Orderly id (after.history.map .invoice) rows accepted
    rw [same.history]
    exact holds
  · intro db request holds _
    rcases Command.invoice_cases (.invoice request) db with
      same | ⟨request', loaded, tx, same, edit, stored, committed⟩
    · show Orderly id ((request.execute db).2.history.map .invoice) rows accepted
      have history : (request.execute db).2.history = db.history := same.history
      rw [history]
      exact holds
    · cases same
      obtain ⟨after, _, _, fresh, _⟩ := InvoiceTx.commit_ok committed
      have applied : (request.execute db).2 = tx.apply db := after
      show Orderly id ((request.execute db).2.history.map .invoice) rows accepted
      rw [applied]
      show Orderly id ((db.history ++ [tx.history]).map .invoice) rows accepted
      rw [List.map_append]
      refine holds.commit ?_
      intro old member
      obtain ⟨row, there, rfl⟩ := List.mem_map.mp member
      exact fresh row there

theorem Server.Orderly.execute {id : InvoiceId} {server : Server} (orderly : server.Orderly id)
    (turn : Turn) : (turn.execute server).Orderly id := by
  obtain ⟨⟨world, limit, calls, stats, point⟩, begun, store⟩ := server
  have stopped : Invoicing.Orderly id (store.db.outbox .invoices) [] store.accepted :=
    Invoicing.Orderly.leave orderly (fun _ absent => by cases absent) List.Pairwise.nil
  cases turn with
  | action action => exact Invoicing.Orderly.action orderly action
  | poll world limit => exact stopped
  | relay =>
    obtain ⟨_, _, _, after, same, next⟩ :=
      RelayPass.advanced ⟨world, limit, calls, stats, point⟩ store
    show Server.Orderly id ⟨(RelayPass.advance _ store).1, begun, (RelayPass.advance _ store).2⟩
    rw [same]
    cases next with
    | selected outbox =>
      show Invoicing.Orderly id _ (nextPoint outbox _).rows store.accepted
      rw [rows_nextPoint]
      cases outbox with
      | invoices => exact Invoicing.Orderly.select orderly world.order limit
      | creditNotes =>
        refine Invoicing.Orderly.leave orderly ?_ (sorted_pendingOutbox _ _ _ _).sorted
        intro row member
        rw [Db.outbox_of_mem (Db.mem_pendingOutbox member).1]
        nofun
    | accepted row event left rest => exact Invoicing.Orderly.accept orderly event
    | marked row rest time =>
      show Invoicing.Orderly id ((store.db.markPublished row time).outbox .invoices)
        (nextPoint row.outbox rest).rows store.accepted
      rw [rows_nextPoint, Db.outbox_markPublished]
      exact Invoicing.Orderly.mark orderly _
    | refused => exact stopped
    | ended atEnd => exact orderly

/-- The rows of the invoice, in the order they were committed in, carry later and later times. -/
def Db.StampedInOrder (db : Db) (id : InvoiceId) : Prop :=
  (db.historyOf id).Pairwise fun first second => first.timeText < second.timeText

instance (db : Db) (id : InvoiceId) : Decidable (db.StampedInOrder id) :=
  inferInstanceAs (Decidable (List.Pairwise _ _))

theorem stampedInOrder_iff {db : Db} {id : InvoiceId} :
    db.StampedInOrder id ↔ InTime id (db.outbox .invoices) := by
  unfold Db.StampedInOrder InTime Db.historyOf
  show _ ↔ (db.history.map OutboxRow.invoice).Pairwise _
  rw [List.pairwise_filter, List.pairwise_map]
  simp [OutboxRow.Of, OutboxRow.timeText, InvoiceStateHistory.timeText, OutboxRow.occurredAt]

/-- Where a row stands in its table: how many rows were committed before it. -/
def Db.commitIndex (db : Db) (row : OutboxRow) : ℕ :=
  ((db.outbox row.outbox).map OutboxRow.id).idxOf row.id

/-- When the rows of the invoice are in time, the earlier row was committed first. -/
theorem commitIndex_le {db : Db} {id : InvoiceId} (inTime : InTime id (db.outbox .invoices))
    (ids : ((db.outbox .invoices).map OutboxRow.id).Nodup) {first second : OutboxRow}
    (mine : first.Of id) (here : second.Of id) (le : first.timeText ≤ second.timeText)
    (listed : Listed id (db.outbox .invoices) first)
    (listed' : Listed id (db.outbox .invoices) second) :
    db.commitIndex first ≤ db.commitIndex second := by
  obtain ⟨stored, there, owner, sameId, sameTime⟩ := listed
  obtain ⟨stored', there', owner', sameId', sameTime'⟩ := listed'
  unfold Db.commitIndex
  rw [mine.outbox, here.outbox, ← sameId, ← sameId']
  obtain ⟨i, inside, rfl⟩ := List.getElem_of_mem there
  obtain ⟨j, inside', rfl⟩ := List.getElem_of_mem there'
  have index : ∀ (k : ℕ) (bound : k < (db.outbox .invoices).length),
      ((db.outbox .invoices).map OutboxRow.id).idxOf (db.outbox .invoices)[k].id = k := by
    intro k bound
    have atK := List.Nodup.idxOf_getElem ids k (by simpa using bound)
    rwa [List.getElem_map] at atK
  rw [index i inside, index j inside']
  by_contra later
  have before := List.pairwise_iff_getElem.mp inTime j i inside' inside (by omega) owner' owner
  rw [sameTime, sameTime'] at before
  exact absurd le (not_le.mpr before)

/-- **The order of the outbox.** After every run of commands and relay calls, whatever the times of the
rows and wherever passes stopped: a pass publishes each table in the order of the times of its rows. The
audit list of an invoice is in the order of the commits, however ties are broken, exactly when the rows
were stamped in that order; and then the relay publishes them in that order. -/
theorem outbox_order (world : RelayWorld) (limit : ℤ) (turns : List Turn) :
    let server := runServer (.boot world limit) turns
    (server.recent.Pairwise fun first second =>
      first.row.outbox = second.row.outbox → first.row.timeText ≤ second.row.timeText) ∧
    ∀ id : InvoiceId,
      ((∀ order, server.store.db.listForInvoice order id = server.store.db.historyOf id) ↔
        server.store.db.StampedInOrder id) ∧
      (server.store.db.StampedInOrder id →
        server.store.accepted.Pairwise fun first second => first.row.Of id → second.row.Of id →
          server.store.db.commitIndex first.row ≤ server.store.db.commitIndex second.row) := by
  intro server
  have inPass : server.InPass := by
    refine runServer_induction (I := Server.InPass) (fun turn _ holds => holds.execute turn) ?_ turns
    refine ⟨le_refl _, .nil, List.Pairwise.nil, ?_, ?_⟩
    · intro _ absent
      cases absent
    · intro _ absent
      cases absent
  refine ⟨inPass.published, fun id => ?_⟩
  have orderly : server.Orderly id := by
    refine runServer_induction (I := Server.Orderly id) (fun turn _ holds => holds.execute turn) ?_ turns
    exact .start id
  refine ⟨?_, ?_⟩
  · refine OrderBy.forall_eq_iff ?_
    have ids : (server.store.db.history.map InvoiceStateHistory.id).Nodup := by
      have table := orderly.ids
      unfold Db.outbox at table
      rwa [List.map_map] at table
    exact (List.Nodup.of_map _ ids).filter _
  · intro stamped
    have inTime := stampedInOrder_iff.mp stamped
    refine (orderly.published inTime).imp_of_mem ?_
    intro first second member member' le mine here
    exact commitIndex_le inTime orderly.ids mine here (le mine here)
      (orderly.listed first member mine) (orderly.listed second member' here)

/-- A payment with a time it was received at. -/
def receivedOn (date : Chrono.NaiveDate) : MarkPaidInput :=
  { samplePayment 4000 fits_forty with receivedAt := some (oneOClock date) }

/-- An invoice drafted, issued and paid, one command a day; then a pass. -/
def paidThenRelayed (received : Chrono.NaiveDate) : Server :=
  runServer (.boot calmWorld 10) <|
    [.action (.command (.elsewhere fun _ => sampleDb)),
      .action (.command (.invoice (.draft (sampleCtx (oneOClock firstOfMarch) 1) sampleDraft))),
      .action (.command (.invoice (.issue
        (sampleCtx (oneOClock ⟨2025, 3, 2, by decide⟩) 2) sampleIssue))),
      .action (.command (.invoice (.markPaid
        (sampleCtx (oneOClock ⟨2025, 3, 3, by decide⟩) 3) (receivedOn received))))] ++
      .poll calmWorld 10 :: List.replicate 14 .relay

/-- **A payment received before the issue** is listed and published before the draft and the issue. -/
theorem payment_before_issue :
    (paidThenRelayed ⟨2025, 2, 1, by decide⟩).store.db.listForInvoice (.stable _) ⟨1⟩ ≠
        (paidThenRelayed ⟨2025, 2, 1, by decide⟩).store.db.historyOf ⟨1⟩ ∧
      ¬ (paidThenRelayed ⟨2025, 2, 1, by decide⟩).store.accepted.Pairwise fun first second =>
        first.row.Of ⟨1⟩ → second.row.Of ⟨1⟩ →
          (paidThenRelayed ⟨2025, 2, 1, by decide⟩).store.db.commitIndex first.row ≤
            (paidThenRelayed ⟨2025, 2, 1, by decide⟩).store.db.commitIndex second.row := by
  decide +kernel

/-- A payment received on the day it is recorded is published after the draft and the issue. -/
theorem payment_after_issue :
    (paidThenRelayed ⟨2025, 3, 3, by decide⟩).store.accepted.length = 9 ∧
      (paidThenRelayed ⟨2025, 3, 3, by decide⟩).store.accepted.Pairwise fun first second =>
        first.row.Of ⟨1⟩ → second.row.Of ⟨1⟩ →
          (paidThenRelayed ⟨2025, 3, 3, by decide⟩).store.db.commitIndex first.row ≤
            (paidThenRelayed ⟨2025, 3, 3, by decide⟩).store.db.commitIndex second.row :=
  ⟨by decide +kernel, ((outbox_order calmWorld 10 _).2 ⟨1⟩).2 (by decide +kernel)⟩

end Invoicing
