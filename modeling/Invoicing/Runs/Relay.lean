/-
**The relay among commits.**

* `Commit` — whatever another party writes between two calls of a pass: pending rows under new ids, after
  those of the tables. **`Command.toCommit`** — every command is one.
* `Party`, `relayStep` — any number of passes, each one call at a time, and any number of commits.
* `Stepped` — what one step does: nothing, one more event accepted, a row marked whose events were all
  accepted, or a commit. `RelayPoint.Sound` is what a pass has in hand.
* `Carries` — no row is lost, and one that is no longer pending was published. **`relay_safe`** — this
  relates any two moments of any interleaving, whatever calls fail and wherever passes stop.
-/

import Invoicing.Bus.Outbox
import Invoicing.Lib.Interleave
import Invoicing.Runs.Stays

namespace Invoicing

open Chrono (DateTime)
open Interleave

/-! ### Commits -/

/-- Ids are the primary keys of the history tables. -/
def Db.OutboxKeys (db : Db) : Prop := ∀ outbox, ((db.outbox outbox).map OutboxRow.id).Nodup

/-- Rows with one id are one row. -/
theorem Db.OutboxKeys.eq {db : Db} (keys : db.OutboxKeys) {outbox : Outbox} {row other : OutboxRow}
    (member : row ∈ db.outbox outbox) (member' : other ∈ db.outbox outbox) (same : row.id = other.id) :
    row = other :=
  List.inj_on_of_nodup_map (keys outbox) member member' same

/-- What a commit does to the history tables. -/
structure Adds (before after : Db) : Prop where
  keys : before.OutboxKeys → after.OutboxKeys
  rows : ∀ outbox, ∃ new, after.outbox outbox = before.outbox outbox ++ new ∧ ∀ row ∈ new, row.Pending

/-- A commit of another party. -/
structure Commit where
  write : Db → Db
  adds : ∀ db, Adds db (write db)

theorem Adds.of_same {before after : Db} (same : ∀ outbox, after.outbox outbox = before.outbox outbox) :
    Adds before after where
  keys keys outbox := by
    rw [same]
    exact keys outbox
  rows outbox := ⟨[], by rw [same, List.append_nil], fun _ absent => by cases absent⟩

/-- One more row, under a new id. -/
theorem nodup_concat {table : List OutboxRow} (keys : (table.map OutboxRow.id).Nodup) {new : OutboxRow}
    (fresh : ∀ row ∈ table, row.id ≠ new.id) : ((table ++ [new]).map OutboxRow.id).Nodup := by
  rw [List.map_append, List.nodup_append]
  refine ⟨keys, List.nodup_singleton _, ?_⟩
  intro old member other same
  obtain ⟨row, there, rfl⟩ := List.mem_map.mp member
  obtain rfl := List.mem_singleton.mp same
  exact fresh row there

/-- The transaction of an invoice command. -/
theorem InvoiceTx.adds {tx : InvoiceTx} (pending : tx.history.publishedAt = none) {db db' : Db}
    (committed : tx.commit db = .ok db') : Adds db db' := by
  obtain ⟨rfl, _, _, fresh, _⟩ := InvoiceTx.commit_ok committed
  have history : (tx.apply db).outbox .invoices = db.outbox .invoices ++ [.invoice tx.history] := by
    show (db.history ++ [tx.history]).map OutboxRow.invoice = _
    rw [List.map_append]
    rfl
  refine ⟨fun keys outbox => ?_, fun outbox => ?_⟩
  · cases outbox with
    | invoices =>
      rw [history]
      refine nodup_concat (keys .invoices) ?_
      intro row member
      obtain ⟨old, there, rfl⟩ := List.mem_map.mp member
      exact fresh old there
    | creditNotes => exact keys .creditNotes
  · cases outbox with
    | invoices =>
      refine ⟨[.invoice tx.history], history, ?_⟩
      intro row member
      obtain rfl := List.mem_singleton.mp member
      exact pending
    | creditNotes => exact ⟨[], (List.append_nil _).symm, fun _ absent => by cases absent⟩

/-- The transaction of a credit-note command. -/
theorem CreditTx.adds {tx : CreditTx} (pending : tx.history.publishedAt = none) {db db' : Db}
    (committed : tx.commit db = .ok db') : Adds db db' := by
  have fresh := CreditTx.commit_new committed
  obtain ⟨rfl, _⟩ := CreditTx.commit_ok committed
  have history : (tx.apply db).outbox .creditNotes =
      db.outbox .creditNotes ++ [.creditNote tx.history] := by
    show (db.creditHistory ++ [tx.history]).map OutboxRow.creditNote = _
    rw [List.map_append]
    rfl
  refine ⟨fun keys outbox => ?_, fun outbox => ?_⟩
  · cases outbox with
    | invoices => exact keys .invoices
    | creditNotes =>
      rw [history]
      refine nodup_concat (keys .creditNotes) ?_
      intro row member
      obtain ⟨old, there, rfl⟩ := List.mem_map.mp member
      exact fresh old there
  · cases outbox with
    | invoices => exact ⟨[], (List.append_nil _).symm, fun _ absent => by cases absent⟩
    | creditNotes =>
      refine ⟨[.creditNote tx.history], history, ?_⟩
      intro row member
      obtain rfl := List.mem_singleton.mp member
      exact pending

/-- Every command writes its history row unpublished. -/
theorem Edit.pending {request : Request} {loaded : Option Invoice} {tx : InvoiceTx}
    (edit : Edit request loaded tx) : tx.history.publishedAt = none := by
  cases edit <;> rfl

theorem performCredit_adds {α : Type} (output : CreditNote → α) {prepared : CoreResult CreditTx}
    {db : Db} (pending : ∀ tx, prepared = .ok tx → tx.history.publishedAt = none) :
    Adds db (performCredit output prepared db).2 := by
  unfold performCredit
  cases same : prepared with
  | error e => exact .of_same fun _ => rfl
  | ok tx =>
    simp only
    cases committed : tx.commit db with
    | error e => exact .of_same fun _ => rfl
    | ok db' => exact CreditTx.adds (pending tx same) committed

theorem Command.adds (command : Command) (db : Db) : Adds db (command.execute db).2 := by
  cases command with
  | invoice request =>
    show Adds db (request.execute db).2
    cases request.executed db with
    | failed stop same noKey =>
      rw [same]
      exact .of_same fun _ => rfl
    | answered reply notIssue same =>
      rw [same]
      exact .of_same fun _ => rfl
    | committed loaded tx reply edit stored counted same =>
      rw [same]
      unfold commitOutcome
      cases committed : tx.commit db with
      | error e => exact .of_same fun _ => rfl
      | ok db' => exact InvoiceTx.adds edit.pending committed
  | createCreditNote ctx input =>
    refine performCredit_adds _ ?_
    intro tx done
    obtain ⟨inv, _, rfl⟩ := prepareCreateCreditNote_ok done
    rfl
  | issueCreditNote ctx input =>
    refine performCredit_adds _ ?_
    intro tx done
    obtain ⟨note, _, _, rfl⟩ := prepareIssueCreditNote_ok done
    rfl
  | elsewhere write =>
    refine .of_same fun outbox => ?_
    cases outbox <;> rfl

/-- **Every command is a commit.** -/
def Command.toCommit (command : Command) : Commit := ⟨fun db => (command.execute db).2, command.adds⟩

/-! ### Steps -/

/-- A pass, or another party that commits. -/
inductive Party
  | relay (pass : RelayPass)
  | writer (commit : Commit)

/-- The next call of a pass, or a commit. -/
def relayStep : Party → RelayStore → Party × RelayStore
  | .relay pass, store => (.relay (pass.advance store).1, (pass.advance store).2)
  | .writer commit, store => (.writer commit, { store with db := commit.write store.db })

/-- The tables have the row, marked or not. -/
def Stored (db : Db) (row : OutboxRow) : Prop :=
  ∃ stored ∈ db.outbox row.outbox, stored.unmarked = row.unmarked

/-- Every event of the row was accepted, in order. -/
def Published (accepted : List Publication) (row : OutboxRow) : Prop :=
  row.unmarked.publications.Sublist accepted

/-- What has been accepted of the row a pass is at. -/
def RelayPoint.Sent (accepted : List Publication) : RelayPoint → Prop
  | .relaying row left _ =>
      ∃ done, row.events = done ++ left ∧ (done.map (Publication.mk row)).Sublist accepted
  | _ => True

/-- What a pass has in hand. -/
structure RelayPoint.Sound (store : RelayStore) (point : RelayPoint) : Prop where
  rows : ∀ row ∈ point.rows, row.Pending ∧ Stored store.db row
  sent : point.Sent store.accepted

def Party.Sound (store : RelayStore) : Party → Prop
  | .relay pass => pass.point.Sound store
  | .writer _ => True

/-- What one step does to the tables and to what was accepted. -/
inductive Stepped (store : RelayStore) : RelayStore → Prop
  | same : Stepped store store
  | accepted (row : OutboxRow) (event : BusEvent) : Stepped store (store.accept row event)
  | marked (row : OutboxRow) (time : DateTime) (stored : Stored store.db row)
      (published : Published store.accepted row) : Stepped store (store.mark row time)
  | committed (commit : Commit) : Stepped store { store with db := commit.write store.db }

/-- **What a step does**: a pass marks a row only when every event of the row was accepted. -/
theorem relayStep_stepped {store : RelayStore} {party : Party} (sound : party.Sound store) :
    Stepped store (relayStep party store).2 := by
  cases party with
  | writer commit => exact .committed commit
  | relay pass =>
    obtain ⟨world, limit, calls, stats, point⟩ := pass
    obtain ⟨_, _, _, after, same, next⟩ := RelayPass.advanced ⟨world, limit, calls, stats, point⟩ store
    have moved : (relayStep (.relay _) store).2 = after := congrArg Prod.snd same
    rw [moved]
    cases next with
    | selected outbox => exact .same
    | accepted row event left rest => exact .accepted row event
    | marked row rest time =>
      obtain ⟨pending, stored⟩ := sound.rows row List.mem_cons_self
      obtain ⟨done, all, sent⟩ := sound.sent
      refine .marked row time stored ?_
      unfold Published OutboxRow.publications
      rw [pending.unmarked_eq, all, List.append_nil]
      exact sent
    | refused => exact .same
    | ended atEnd => exact .same

/-! ### Any two moments -/

/-- What became of a row: it is the same but for its mark, it is pending or was published, and a mark
stays. -/
structure Became (accepted : List Publication) (row stored : OutboxRow) : Prop where
  same : stored.unmarked = row.unmarked
  pending : row.Pending → stored.Pending ∨ Published accepted stored
  marked : ¬ row.Pending → ¬ stored.Pending

/-- Nothing that was accepted is forgotten, and every row is still there. -/
structure Carries (before after : RelayStore) : Prop where
  accepted : before.accepted <+: after.accepted
  rows : ∀ outbox, ∀ row ∈ before.db.outbox outbox,
    ∃ stored ∈ after.db.outbox outbox, Became after.accepted row stored

theorem Became.refl (accepted : List Publication) (row : OutboxRow) : Became accepted row row :=
  ⟨rfl, Or.inl, id⟩

theorem Carries.refl (store : RelayStore) : Carries store store :=
  ⟨List.prefix_rfl, fun _ row member => ⟨row, member, .refl _ row⟩⟩

theorem Published.mono {before after : List Publication} (more : before <+: after) {row : OutboxRow}
    (published : Published before row) : Published after row :=
  List.Sublist.trans published more.sublist

theorem Published.congr {accepted : List Publication} {row other : OutboxRow}
    (same : row.unmarked = other.unmarked) : Published accepted row ↔ Published accepted other := by
  unfold Published
  rw [same]

theorem Carries.trans {first second third : RelayStore} (one : Carries first second)
    (two : Carries second third) : Carries first third := by
  refine ⟨one.accepted.trans two.accepted, fun outbox row member => ?_⟩
  obtain ⟨middle, inMiddle, became⟩ := one.rows outbox row member
  obtain ⟨stored, there, became'⟩ := two.rows outbox middle inMiddle
  refine ⟨stored, there, became'.same.trans became.same, ?_, became'.marked ∘ became.marked⟩
  intro pending
  rcases became.pending pending with still | published
  · exact became'.pending still
  · exact Or.inr ((Published.congr became'.same).mpr (published.mono two.accepted))

theorem stored_of_carries {before after : RelayStore} (carries : Carries before after) {row : OutboxRow}
    (stored : Stored before.db row) : Stored after.db row := by
  obtain ⟨old, member, same⟩ := stored
  obtain ⟨new, there, became⟩ := carries.rows row.outbox old member
  exact ⟨new, there, became.same.trans same⟩

/-- What a mark makes of a row of the tables. -/
theorem became_afterMark {store : RelayStore} (keys : store.db.OutboxKeys) {row other : OutboxRow}
    (stored : Stored store.db row) (published : Published store.accepted row) {outbox : Outbox}
    (member : other ∈ store.db.outbox outbox) (time : DateTime) :
    Became store.accepted other (row.afterMark time other) := by
  by_cases mine : other.outbox = row.outbox ∧ other.id = row.id
  · obtain ⟨sameTable, sameId⟩ := mine
    obtain ⟨old, there, same⟩ := stored
    have sameRow : other = old := by
      rw [← sameTable, Db.outbox_of_mem member] at there
      refine keys.eq member there ?_
      rw [sameId, ← OutboxRow.id_unmarked, ← same, OutboxRow.id_unmarked]
    have after : row.afterMark time other = other.marked time := if_pos ⟨sameTable, sameId⟩
    refine ⟨OutboxRow.unmarked_afterMark _ _ _, fun _ => Or.inr ?_, fun _ pending => ?_⟩
    · refine (Published.congr ?_).mpr published
      rw [OutboxRow.unmarked_afterMark, sameRow, same]
    · rw [after] at pending
      cases (OutboxRow.publishedAt_marked time other).symm.trans pending
  · have after : row.afterMark time other = other := if_neg mine
    rw [after]
    exact .refl _ other

theorem Stepped.carries {store after : RelayStore} (keys : store.db.OutboxKeys)
    (step : Stepped store after) : Carries store after := by
  cases step with
  | same => exact .refl store
  | accepted row event =>
    exact ⟨List.prefix_append _ _, fun _ row member => ⟨row, member, .refl _ row⟩⟩
  | marked row time stored published =>
    refine ⟨List.prefix_rfl, fun outbox other member => ⟨row.afterMark time other, ?_,
      became_afterMark keys stored published member time⟩⟩
    show _ ∈ (store.db.markPublished row time).outbox outbox
    rw [Db.outbox_markPublished]
    exact List.mem_map_of_mem member
  | committed commit =>
    refine ⟨List.prefix_rfl, fun outbox row member => ⟨row, ?_, .refl _ row⟩⟩
    obtain ⟨new, appended, _⟩ := (commit.adds store.db).rows outbox
    show row ∈ (commit.write store.db).outbox outbox
    rw [appended]
    exact List.mem_append_left _ member

/-! ### Invariants -/

/-- A marked row was marked at the start, or was published. -/
structure Settled (start : Db) (store : RelayStore) : Prop where
  keys : store.db.OutboxKeys
  marked : ∀ outbox, ∀ row ∈ store.db.outbox outbox, ¬ row.Pending →
    (∃ old ∈ start.outbox outbox, ¬ old.Pending ∧ old.id = row.id) ∨ Published store.accepted row

theorem outboxKeys_mark {db : Db} (keys : db.OutboxKeys) (row : OutboxRow) (time : DateTime) :
    (db.markPublished row time).OutboxKeys := by
  intro outbox
  rw [Db.outbox_markPublished, OutboxRow.ids_afterMark]
  exact keys outbox

theorem Settled.stepped {start : Db} {store after : RelayStore} (settled : Settled start store)
    (step : Stepped store after) : Settled start after := by
  cases step with
  | same => exact settled
  | accepted row event =>
    refine ⟨settled.keys, fun outbox other member marked => ?_⟩
    rcases settled.marked outbox other member marked with old | published
    · exact Or.inl old
    · exact Or.inr (published.mono (List.prefix_append _ _))
  | marked row time stored published =>
    refine ⟨outboxKeys_mark settled.keys row time, fun outbox other member marked => ?_⟩
    have inTable : other ∈ (store.db.markPublished row time).outbox outbox := member
    rw [Db.outbox_markPublished, List.mem_map] at inTable
    obtain ⟨old, there, rfl⟩ := inTable
    have became := became_afterMark settled.keys stored published there time
    by_cases pending : old.Pending
    · exact Or.inr ((became.pending pending).resolve_left marked)
    · rcases settled.marked outbox old there pending with atStart | before
      · rw [OutboxRow.id_afterMark]
        exact Or.inl atStart
      · exact Or.inr ((Published.congr became.same).mpr before)
  | committed commit =>
    obtain ⟨keys, rows⟩ := commit.adds store.db
    refine ⟨keys settled.keys, fun outbox other member marked => ?_⟩
    obtain ⟨new, appended, pending⟩ := rows outbox
    have split : other ∈ (commit.write store.db).outbox outbox := member
    rw [appended, List.mem_append] at split
    rcases split with old | fresh
    · exact settled.marked outbox other old marked
    · exact absurd (pending other fresh) marked

/-- A pass with nothing in hand. -/
theorem RelayPoint.Sound.of_no_rows {store : RelayStore} {point : RelayPoint} (none : point.rows = [])
    (sent : point.Sent store.accepted) : point.Sound store := by
  refine ⟨?_, sent⟩
  rw [none]
  intro row absent
  cases absent

/-- A pass keeps what it has in hand while others step. -/
theorem RelayPoint.Sound.carries {before after : RelayStore} (carries : Carries before after)
    {point : RelayPoint} (sound : point.Sound before) : point.Sound after := by
  refine ⟨fun row member => ?_, ?_⟩
  · obtain ⟨pending, stored⟩ := sound.rows row member
    exact ⟨pending, stored_of_carries carries stored⟩
  · cases point with
    | relaying row left rest =>
      obtain ⟨done, all, sent⟩ := sound.sent
      exact ⟨done, all, sent.trans carries.accepted.sublist⟩
    | _ => trivial

/-- A pass at rows of which nothing was published yet. -/
theorem sound_nextPoint {store : RelayStore} {outbox : Outbox} {rows : List OutboxRow}
    (stored : ∀ row ∈ rows, row.Pending ∧ Stored store.db row) : (nextPoint outbox rows).Sound store := by
  refine ⟨?_, ?_⟩
  · rw [rows_nextPoint]
    exact stored
  · cases rows with
    | cons row rest => exact ⟨[], rfl, List.nil_sublist _⟩
    | nil => cases outbox <;> trivial

theorem relayStep_sound {store : RelayStore} {party : Party} (keys : store.db.OutboxKeys)
    (sound : party.Sound store) : (relayStep party store).1.Sound (relayStep party store).2 := by
  have carries := (relayStep_stepped sound).carries keys
  cases party with
  | writer commit => trivial
  | relay pass =>
    obtain ⟨world, limit, calls, stats, point⟩ := pass
    obtain ⟨_, _, point', after, same, next⟩ :=
      RelayPass.advanced ⟨world, limit, calls, stats, point⟩ store
    have moved : (relayStep (.relay _) store).2 = after := congrArg Prod.snd same
    rw [moved] at carries
    have kept : point.Sound after := RelayPoint.Sound.carries carries sound
    show RelayPoint.Sound (RelayPass.advance _ store).2 (RelayPass.advance _ store).1.point
    rw [same]
    show point'.Sound after
    cases next with
    | selected outbox =>
      refine sound_nextPoint fun row member => ?_
      obtain ⟨there, pending⟩ := Db.mem_pendingOutbox member
      refine ⟨pending, row, ?_, rfl⟩
      rw [Db.outbox_of_mem there]
      exact there
    | accepted row event left rest =>
      obtain ⟨done, all, sent⟩ := sound.sent
      refine ⟨kept.rows, done ++ [event], ?_, ?_⟩
      · rw [all, List.append_assoc]
        rfl
      · rw [List.map_append]
        exact sent.append (List.Sublist.refl _)
    | marked row rest time =>
      exact sound_nextPoint fun other member => kept.rows other (List.mem_cons_of_mem _ member)
    | refused => exact .of_no_rows rfl trivial
    | ended atEnd => exact kept

/-- The obligations of the invariant. -/
theorem relay_rules (start : Db) :
    Rules relayStep (fun _ _ => True) (Settled start) (fun store party => party.Sound store)
      (fun _ _ => True) where
  store _ _ settled sound _ := settled.stepped (relayStep_stepped sound)
  own _ _ settled sound _ := relayStep_sound settled.keys sound
  others _ _ other settled sound sound' _ _ := by
    have carries := (relayStep_stepped sound).carries settled.keys
    cases other with
    | relay pass => exact RelayPoint.Sound.carries carries sound'
    | writer commit => trivial
  apart _ _ _ _ _ _ _ _ := trivial
  symm _ _ _ := trivial

/-- No pass has made a call. -/
def RelayStarting (parties : List Party) : Prop :=
  ∀ party ∈ parties, (∃ world limit, party = .relay (.start world limit)) ∨ ∃ commit, party = .writer commit

/-- The tables at the start, and nothing accepted. -/
def relayPool (start : Db) (parties : List Party) : Pool RelayStore Party := ⟨⟨start, []⟩, parties⟩

theorem relay_holds {start : Db} (keys : start.OutboxKeys) {parties : List Party}
    (starting : RelayStarting parties) :
    Holds (Settled start) (fun store party => party.Sound store) (fun _ _ => True)
      (relayPool start parties) := by
  refine ⟨⟨keys, fun outbox row member marked => Or.inl ⟨row, member, marked, rfl⟩⟩, ?_,
    fun _ _ _ _ _ _ _ => trivial⟩
  intro i party found
  rcases starting party (List.mem_of_getElem? found) with ⟨world, limit, rfl⟩ | ⟨commit, rfl⟩
  · exact .of_no_rows rfl trivial
  · trivial

/-- **Passes among commits lose nothing.** At every moment a marked row was marked at the start or every
event of it was accepted in order; between any two moments no row is lost, one that is pending stays so
until it is marked, and what was accepted stays accepted. -/
theorem relay_safe {start : Db} (keys : start.OutboxKeys) {parties : List Party}
    (starting : RelayStarting parties) (order : List ℕ) :
    Settled start ((relayPool start parties).exec relayStep order).store ∧
      ∀ m n, m ≤ n → Carries ((relayPool start parties).exec relayStep (order.take m)).store
        ((relayPool start parties).exec relayStep (order.take n)).store := by
  have holds := relay_holds keys starting
  refine ⟨((relay_rules start).holds_exec holds (allTurns_true _ _)).store, fun m n later => ?_⟩
  exact (relay_rules start).relates_take Carries.refl (fun _ _ _ => Carries.trans)
    (fun _ _ settled sound _ => (relayStep_stepped sound).carries settled.keys) holds
    (allTurns_true _ _) later

/-- Rows with one time in the order of the table, a clock that stands still, and no failures. -/
def calmWorld : RelayWorld := ⟨.stable _, fun _ => oneOClock firstOfMarch, fun _ => true⟩

end Invoicing
