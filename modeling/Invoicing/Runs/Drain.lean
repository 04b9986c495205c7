/-
**Passes drain the outbox.**

* **`runOutboxRelay_done`** — a pass that goes through published the rows it selected of each table.
* `relayOutbox_relayed` — a pass whose calls succeed publishes the first rows of a table, up to the
  limit, and leaves the others pending. **`runOutboxRelay_answers`** — so does the whole pass, for both
  tables. **`relayPasses_drain`** — enough passes leave nothing pending, each row published once.
* **`outbox_at_least_once`** — the relay among commits, and the passes that nothing interrupts.
-/

import Invoicing.Runs.Lifecycle
import Invoicing.Runs.Relay
import Mathlib.Algebra.Order.Floor.Div

namespace Invoicing

open Chrono (DateTime)

/-! ### Pending rows -/

/-- The rows of a table still to be published. -/
def Db.pending (db : Db) (outbox : Outbox) : List OutboxRow :=
  (db.outbox outbox).filter fun row => decide row.Pending

/-- Two rows are the same row of a table. -/
def OutboxRow.SameKey (row other : OutboxRow) : Prop := other.outbox = row.outbox ∧ other.id = row.id

instance (row other : OutboxRow) : Decidable (row.SameKey other) :=
  inferInstanceAs (Decidable (_ ∧ _))

theorem Db.mem_pending {db : Db} {outbox : Outbox} {row : OutboxRow} :
    row ∈ db.pending outbox ↔ row ∈ db.outbox outbox ∧ row.Pending := by
  unfold Db.pending
  rw [List.mem_filter, decide_eq_true_iff]

/-- A mark takes one row out of the pending ones. -/
theorem pending_markPublished (db : Db) (row : OutboxRow) (time : DateTime) (outbox : Outbox) :
    (db.markPublished row time).pending outbox =
      (db.pending outbox).filter fun other => decide (¬ row.SameKey other) := by
  unfold Db.pending
  rw [Db.outbox_markPublished, List.filter_map, List.filter_filter]
  have same : (db.outbox outbox).filter ((fun other => decide other.Pending) ∘ row.afterMark time) =
      (db.outbox outbox).filter fun other => decide (¬ row.SameKey other) && decide other.Pending := by
    refine List.filter_congr fun other _ => ?_
    by_cases mine : row.SameKey other
    · have marked : ¬ (row.afterMark time other).Pending := fun pending =>
        (OutboxRow.pending_afterMark pending).2 mine
      simp [mine, marked]
    · have left : row.afterMark time other = other := if_neg mine
      simp [mine, left]
  rw [same]
  refine (List.map_congr_left fun other member => ?_).trans (List.map_id _)
  have different : ¬ row.SameKey other := by
    have holds := (List.mem_filter.mp member).2
    simp only [Bool.and_eq_true, decide_eq_true_iff] at holds
    exact holds.1
  exact if_neg different

/-! ### A pass that goes through -/

section Done

variable (world : RelayWorld)

theorem publishEvents_done (row : OutboxRow) (left : List BusEvent) (run : RelayRun)
    (done : (publishEvents world row left run).1 = true) :
    (publishEvents world row left run).2.store =
      ⟨run.store.db, run.store.accepted ++ left.map (Publication.mk row)⟩ := by
  induction left generalizing run with
  | nil =>
    rw [List.map_nil, List.append_nil]
    rfl
  | cons event left ih =>
    unfold publishEvents at done ⊢
    by_cases answer : world.answers run.calls = true
    · rw [if_pos answer] at done ⊢
      rw [ih _ done]
      simp [RelayStore.accept]
    · rw [if_neg answer] at done
      cases done

theorem relayRow_done (row : OutboxRow) (run : RelayRun) (done : (relayRow world row run).1 = true) :
    ∃ time, (relayRow world row run).2.store =
      ⟨run.store.db.markPublished row time, run.store.accepted ++ row.publications⟩ := by
  unfold relayRow at done ⊢
  cases published : publishEvents world row row.events run with
  | mk all between =>
    rw [published] at done
    cases all with
    | false => cases done
    | true =>
      have store := publishEvents_done world row row.events run (by rw [published])
      rw [published] at store
      simp only at done ⊢
      by_cases answer : world.answers between.calls = true
      · rw [if_pos answer]
        refine ⟨world.clock between.calls, ?_⟩
        show between.store.mark row _ = _
        rw [show between.store = _ from store]
        rfl
      · rw [if_neg answer] at done
        cases done

theorem relayRows_done (rows : List OutboxRow) (run : RelayRun)
    (done : (relayRows world rows run).1 = true) :
    (relayRows world rows run).2.store.accepted =
        run.store.accepted ++ rows.flatMap OutboxRow.publications ∧
      (run.store.db.OutboxKeys → (relayRows world rows run).2.store.db.OutboxKeys) ∧
      ∀ outbox, (relayRows world rows run).2.store.db.pending outbox =
        (run.store.db.pending outbox).filter fun other => decide (∀ row ∈ rows, ¬ row.SameKey other) := by
  induction rows generalizing run with
  | nil =>
    refine ⟨by simp [relayRows], id, fun outbox => ?_⟩
    simp [relayRows]
  | cons row rest ih =>
    unfold relayRows at done ⊢
    cases relayed : relayRow world row run with
    | mk marked between =>
      rw [relayed] at done
      cases marked with
      | false => cases done
      | true =>
        obtain ⟨time, store⟩ := relayRow_done world row run (by rw [relayed])
        rw [relayed] at store
        obtain ⟨accepted, keys, pending⟩ := ih between done
        rw [show between.store = _ from store] at accepted keys pending
        refine ⟨?_, fun unique => keys (outboxKeys_mark unique row time), fun outbox => ?_⟩
        · show (relayRows world rest between).2.store.accepted = _
          rw [accepted, List.flatMap_cons, List.append_assoc]
        · show (relayRows world rest between).2.store.db.pending outbox = _
          rw [pending, pending_markPublished, List.filter_filter]
          refine List.filter_congr fun other _ => ?_
          simp only [List.mem_cons, forall_eq_or_imp]
          rw [Bool.decide_and, Bool.and_comm]

/-- The part of a pass on one table: the selected rows are published, and no other row of any table is
taken out of the pending ones. -/
theorem relayOutbox_done (limit : ℤ) (outbox : Outbox) (run : RelayRun)
    (done : (relayOutbox world limit outbox run).1 = true) :
    (relayOutbox world limit outbox run).2.store.accepted = run.store.accepted ++
        (run.store.db.pendingOutbox world.order limit outbox).flatMap OutboxRow.publications ∧
      (run.store.db.OutboxKeys → (relayOutbox world limit outbox run).2.store.db.OutboxKeys) ∧
      ∀ table, (relayOutbox world limit outbox run).2.store.db.pending table =
        (run.store.db.pending table).filter fun other =>
          decide (∀ row ∈ run.store.db.pendingOutbox world.order limit outbox, ¬ row.SameKey other) := by
  unfold relayOutbox at done ⊢
  by_cases answer : world.answers run.calls = true
  · rw [if_pos answer] at done ⊢
    exact relayRows_done world _ _ done
  · rw [if_neg answer] at done
    cases done

/-- The other table is left alone. -/
theorem relayOutbox_other (limit : ℤ) {outbox table : Outbox} (run : RelayRun)
    (done : (relayOutbox world limit outbox run).1 = true) (different : table ≠ outbox) :
    (relayOutbox world limit outbox run).2.store.db.pending table = run.store.db.pending table := by
  rw [(relayOutbox_done world limit outbox run done).2.2]
  refine List.filter_eq_self.mpr fun other member => ?_
  rw [decide_eq_true_iff]
  rintro row chosen ⟨sameTable, _⟩
  rw [Db.outbox_of_mem (Db.mem_pending.mp member).1,
    Db.outbox_of_mem (Db.mem_pendingOutbox chosen).1] at sameTable
  exact different sameTable

/-- **What a pass that goes through published**: the rows it selected of each table, in order. -/
theorem runOutboxRelay_done {limit : ℤ} {store : RelayStore} {stats : OutboxStats}
    (done : (runOutboxRelay world limit store).1 = some stats) :
    (runOutboxRelay world limit store).2.accepted = store.accepted ++
      (store.db.pendingOutbox world.order limit .invoices ++
        store.db.pendingOutbox world.order limit .creditNotes).flatMap OutboxRow.publications := by
  unfold runOutboxRelay at done ⊢
  cases first : relayOutbox world limit .invoices ⟨0, ⟨0, 0⟩, store⟩ with
  | mk invoicesDone between =>
    rw [first] at done
    cases invoicesDone with
    | false => cases done
    | true =>
      have invoices := relayOutbox_done world limit .invoices ⟨0, ⟨0, 0⟩, store⟩ (by rw [first])
      have untouched : between.store.db.pending .creditNotes = store.db.pending .creditNotes := by
        have different : Outbox.creditNotes ≠ .invoices := nofun
        have other := relayOutbox_other world limit ⟨0, ⟨0, 0⟩, store⟩ (by rw [first]) different
        rwa [first] at other
      rw [first] at invoices
      simp only at done ⊢
      cases second : relayOutbox world limit .creditNotes between with
      | mk creditNotesDone after =>
        rw [second] at done
        cases creditNotesDone with
        | false => cases done
        | true =>
          have creditNotes := relayOutbox_done world limit .creditNotes between (by rw [second])
          rw [second] at creditNotes
          have rows : between.store.db.pendingOutbox world.order limit .creditNotes =
              store.db.pendingOutbox world.order limit .creditNotes := by
            show limitRows limit (world.order.rows (between.store.db.pending .creditNotes)) = _
            rw [untouched]
            rfl
          show after.store.accepted = _
          rw [creditNotes.1, rows, invoices.1, List.flatMap_append, List.append_assoc]

end Done

/-! ### A pass that nothing interrupts -/

/-- Every call succeeds. -/
def RelayWorld.Answers (world : RelayWorld) : Prop := ∀ n, world.answers n = true

section Answers

variable {world : RelayWorld} (answers : world.Answers)

include answers

theorem publishEvents_answers (row : OutboxRow) (left : List BusEvent) (run : RelayRun) :
    (publishEvents world row left run).1 = true := by
  induction left generalizing run with
  | nil => rfl
  | cons event left ih =>
    unfold publishEvents
    rw [if_pos (answers run.calls)]
    exact ih _

theorem relayRow_answers (row : OutboxRow) (run : RelayRun) : (relayRow world row run).1 = true := by
  have published := publishEvents_answers answers row row.events run
  unfold relayRow
  cases all : publishEvents world row row.events run with
  | mk done between =>
    rw [all] at published
    obtain rfl : done = true := published
    simp only [if_pos (answers between.calls)]

theorem relayRows_answers (rows : List OutboxRow) (run : RelayRun) :
    (relayRows world rows run).1 = true := by
  induction rows generalizing run with
  | nil => rfl
  | cons row rest ih =>
    have marked := relayRow_answers answers row run
    unfold relayRows
    cases all : relayRow world row run with
    | mk done between =>
      rw [all] at marked
      obtain rfl : done = true := marked
      exact ih between

theorem relayOutbox_answers (limit : ℤ) (outbox : Outbox) (run : RelayRun) :
    (relayOutbox world limit outbox run).1 = true := by
  unfold relayOutbox
  rw [if_pos (answers run.calls)]
  exact relayRows_answers answers _ _

/-- What the part of a pass on one table does: the first rows are published, the others are left, and the
other table is left alone. -/
structure Relayed (limit : ℕ) (outbox : Outbox) (before after : RelayStore) (sent : List OutboxRow) :
    Prop where
  keys : after.db.OutboxKeys
  accepted : after.accepted = before.accepted ++ sent.flatMap OutboxRow.publications
  split : (before.db.pending outbox).Perm (sent ++ after.db.pending outbox)
  left : (after.db.pending outbox).length = (before.db.pending outbox).length - limit
  other : ∀ table, table ≠ outbox → after.db.pending table = before.db.pending table

/-- **A part of a pass** publishes as many rows as the limit allows. -/
theorem relayOutbox_relayed (run : RelayRun) (keys : run.store.db.OutboxKeys) (limit : ℕ)
    (outbox : Outbox) : ∃ sent,
      Relayed limit outbox run.store (relayOutbox world limit outbox run).2.store sent := by
  have chosen : run.store.db.pendingOutbox world.order limit outbox =
      (world.order.rows (run.store.db.pending outbox)).take limit := limitRows_of_pos _
  have done := relayOutbox_answers answers limit outbox run
  obtain ⟨accepted, keys', pending⟩ := relayOutbox_done world limit outbox run done
  have ordered := world.order.perm (run.store.db.pending outbox)
  have parts := List.take_append_drop limit (world.order.rows (run.store.db.pending outbox))
  have ids : ((world.order.rows (run.store.db.pending outbox)).map OutboxRow.id).Nodup := by
    rw [(ordered.map OutboxRow.id).nodup_iff]
    exact (List.filter_sublist.map OutboxRow.id).nodup (keys outbox)
  -- the rows of the pass are no longer pending, the others still are
  have left : ((relayOutbox world limit outbox run).2.store.db.pending outbox).Perm
      ((world.order.rows (run.store.db.pending outbox)).drop limit) := by
    rw [pending, chosen]
    refine (ordered.symm.filter _).trans ?_
    conv_lhs => arg 2; rw [← parts]
    rw [List.filter_append, List.filter_eq_nil_iff.mpr, List.nil_append, List.filter_eq_self.mpr]
    · intro other member
      rw [decide_eq_true_iff]
      rintro row first ⟨_, sameId⟩
      rw [← parts, List.map_append, List.nodup_append] at ids
      exact ids.2.2 _ (List.mem_map_of_mem first) _ (List.mem_map_of_mem member) sameId.symm
    · intro other member
      rw [decide_eq_true_iff]
      exact fun none => none other member ⟨rfl, rfl⟩
  refine ⟨run.store.db.pendingOutbox world.order limit outbox, keys' keys, accepted, ?_, ?_,
    fun table different => relayOutbox_other world limit run done different⟩
  · rw [chosen]
    refine ordered.symm.trans ?_
    conv_lhs => rw [← parts]
    exact left.symm.append_left _
  · rw [left.length_eq, List.length_drop, ordered.length_eq]

/-- **A pass publishes as many rows of each table as the limit allows.** -/
theorem runOutboxRelay_answers {store : RelayStore} (keys : store.db.OutboxKeys) (limit : ℕ) :
    ∃ sent sent', (runOutboxRelay world limit store).2.db.OutboxKeys ∧
      (runOutboxRelay world limit store).2.accepted =
        store.accepted ++ (sent ++ sent').flatMap OutboxRow.publications ∧
      (store.db.pending .invoices).Perm
        (sent ++ (runOutboxRelay world limit store).2.db.pending .invoices) ∧
      (store.db.pending .creditNotes).Perm
        (sent' ++ (runOutboxRelay world limit store).2.db.pending .creditNotes) ∧
      ∀ outbox, ((runOutboxRelay world limit store).2.db.pending outbox).length =
        (store.db.pending outbox).length - limit := by
  obtain ⟨sent, relayed⟩ := relayOutbox_relayed answers ⟨0, ⟨0, 0⟩, store⟩ keys limit .invoices
  have first := relayOutbox_answers answers limit .invoices ⟨0, ⟨0, 0⟩, store⟩
  generalize result : relayOutbox world limit .invoices ⟨0, ⟨0, 0⟩, store⟩ = between at relayed first
  obtain ⟨done, between⟩ := between
  obtain rfl : done = true := first
  obtain ⟨sent', relayed'⟩ := relayOutbox_relayed answers between relayed.keys limit .creditNotes
  have second := relayOutbox_answers answers limit .creditNotes between
  generalize result' : relayOutbox world limit .creditNotes between = after at relayed' second
  obtain ⟨done, after⟩ := after
  obtain rfl : done = true := second
  have ran : runOutboxRelay world limit store = (some after.stats, after.store) := by
    unfold runOutboxRelay
    rw [result]
    simp only
    rw [result']
  rw [ran]
  have invoices := relayed'.other .invoices nofun
  have creditNotes := relayed.other .creditNotes nofun
  refine ⟨sent, sent', relayed'.keys, ?_, ?_, ?_, fun outbox => ?_⟩
  · rw [relayed'.accepted, relayed.accepted, List.append_assoc, List.flatMap_append]
  · rw [invoices]
    exact relayed.split
  · rw [← creditNotes]
    exact relayed'.split
  · cases outbox with
    | invoices =>
      rw [invoices]
      exact relayed.left
    | creditNotes =>
      rw [relayed'.left, creditNotes]

end Answers

/-! ### Many passes -/

/-- Passes one after the other. -/
def relayPasses (limit : ℤ) (worlds : List RelayWorld) (store : RelayStore) : RelayStore :=
  worlds.foldl (fun store world => (runOutboxRelay world limit store).2) store

/-- **Enough passes leave nothing pending**, and publish each pending row once. -/
theorem relayPasses_drain {limit : ℕ} {worlds : List RelayWorld}
    (answers : ∀ world ∈ worlds, world.Answers) {store : RelayStore} (keys : store.db.OutboxKeys)
    (enough : ∀ outbox, (store.db.pending outbox).length ≤ limit * worlds.length) :
    (∀ outbox, (relayPasses limit worlds store).db.pending outbox = []) ∧
      ∃ sent : List OutboxRow,
        sent.Perm (store.db.pending .invoices ++ store.db.pending .creditNotes) ∧
        (relayPasses limit worlds store).accepted =
          store.accepted ++ sent.flatMap OutboxRow.publications := by
  induction worlds generalizing store with
  | nil =>
    have nothing : ∀ outbox, store.db.pending outbox = [] := fun outbox =>
      List.eq_nil_of_length_eq_zero (by simpa using enough outbox)
    refine ⟨nothing, [], ?_, (List.append_nil _).symm⟩
    rw [nothing, nothing]
    exact List.Perm.refl _
  | cons world rest ih =>
    obtain ⟨sent, sent', keys', accepted, invoices, creditNotes, left⟩ :=
      runOutboxRelay_answers (answers world List.mem_cons_self) keys limit
    have enough' : ∀ outbox, ((runOutboxRelay world limit store).2.db.pending outbox).length ≤
        limit * rest.length := by
      intro outbox
      have bound := enough outbox
      rw [List.length_cons, Nat.mul_succ] at bound
      rw [left]
      omega
    obtain ⟨nothing, later, order, accepted'⟩ :=
      ih (fun other member => answers other (List.mem_cons_of_mem _ member)) keys' enough'
    refine ⟨nothing, sent ++ sent' ++ later, ?_, ?_⟩
    · refine (order.append_left _).trans ?_
      refine List.Perm.trans ?_ (invoices.append creditNotes).symm
      rw [List.append_assoc, List.append_assoc]
      exact (List.perm_append_comm_assoc _ _ _).append_left _
    · show (relayPasses limit rest _).accepted = _
      rw [accepted', accepted, List.append_assoc, ← List.flatMap_append]

/-- **The outbox publishes every row at least once.** From any tables: in every interleaving of passes and
commits, whatever calls fail and wherever passes stop, a marked row was marked at the start or all of its
events were accepted in order, and a row that is not marked stays pending. When every call succeeds and
nothing is committed, as many passes as the longer table has batches leave nothing pending and publish
each pending row once. -/
theorem outbox_at_least_once {start : Db} (keys : start.OutboxKeys) :
    (∀ parties, RelayStarting parties → ∀ order,
      Settled start ((relayPool start parties).exec relayStep order).store ∧
        ∀ m n, m ≤ n → Carries ((relayPool start parties).exec relayStep (order.take m)).store
          ((relayPool start parties).exec relayStep (order.take n)).store) ∧
    ∀ (limit : ℕ) (worlds : List RelayWorld), 0 < limit → (∀ world ∈ worlds, world.Answers) →
      worlds.length =
        max ((start.pending .invoices).length ⌈/⌉ limit) ((start.pending .creditNotes).length ⌈/⌉ limit) →
      (∀ outbox, (relayPasses limit worlds ⟨start, []⟩).db.pending outbox = []) ∧
        ∃ sent : List OutboxRow, sent.Perm (start.pending .invoices ++ start.pending .creditNotes) ∧
          (relayPasses limit worlds ⟨start, []⟩).accepted = sent.flatMap OutboxRow.publications := by
  refine ⟨fun parties starting order => relay_safe keys starting order, ?_⟩
  intro limit worlds positive answers enough
  refine relayPasses_drain answers keys fun outbox => ?_
  rw [← ceilDiv_le_iff_le_mul positive, enough]
  cases outbox with
  | invoices => exact le_max_left _ _
  | creditNotes => exact le_max_right _ _

/-- A drafted and issued invoice and a credit note against it, all rows pending. -/
def backlog : Db :=
  runCommands issuedDb
    [.createCreditNote (sampleCtx (oneOClock firstOfMarch) 3)
      ⟨⟨1⟩, ⟨1000, 2, by decide⟩, none, none, none, .cli "operator", .cli⟩]

/-- A world in which the first three calls succeed. -/
def failingWorld : RelayWorld := ⟨.stable _, fun _ => oneOClock firstOfMarch, fun n => decide (n < 3)⟩

/-- A pass that fails, another pass, and a payment. -/
def relayCrew : List Party :=
  [.relay (.start failingWorld 1), .relay (.start failingWorld 1),
    .writer (Command.toCommit (.invoice (.markPaid (sampleCtx (oneOClock firstOfMarch) 4)
      (samplePayment 4000 fits_forty))))]

theorem backlog_at_least_once :
    (Settled backlog ((relayPool backlog relayCrew).exec relayStep [0, 1, 0, 2, 1, 0, 0, 1, 1]).store ∧
      ∀ m n, m ≤ n →
        Carries ((relayPool backlog relayCrew).exec relayStep ([0, 1, 0, 2, 1, 0, 0, 1, 1].take m)).store
          ((relayPool backlog relayCrew).exec relayStep ([0, 1, 0, 2, 1, 0, 0, 1, 1].take n)).store) ∧
    (∀ outbox, (relayPasses 1 [calmWorld, calmWorld] ⟨backlog, []⟩).db.pending outbox = []) ∧
      ∃ sent : List OutboxRow, sent.Perm (backlog.pending .invoices ++ backlog.pending .creditNotes) ∧
        (relayPasses 1 [calmWorld, calmWorld] ⟨backlog, []⟩).accepted =
          sent.flatMap OutboxRow.publications := by
  have keys : backlog.OutboxKeys := by
    intro outbox
    cases outbox <;> decide +kernel
  obtain ⟨safe, drained⟩ := outbox_at_least_once keys
  refine ⟨safe _ ?_ _, drained 1 _ (by decide) ?_ (by decide +kernel)⟩
  · intro party member
    simp only [relayCrew, List.mem_cons, List.not_mem_nil, or_false] at member
    rcases member with rfl | rfl | rfl
    · exact Or.inl ⟨_, _, rfl⟩
    · exact Or.inl ⟨_, _, rfl⟩
    · exact Or.inr ⟨_, rfl⟩
  · intro world member
    simp only [List.mem_cons, List.not_mem_nil, or_false, or_self] at member
    subst member
    intro n
    rfl

end Invoicing
