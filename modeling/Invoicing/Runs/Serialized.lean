/-
**Commands on different invoices are as good as one after another.**

* `Request.Apart` — the calls are on different invoices, at most one of them issues, and they do not draft
  under one key.
* `SameReads` — everything the steps of a call read is the same in two states of the tables; by
  **`Edit.sameReads`** an edit of a call apart leaves it so.
* `HasRead` — what a run has read so far is what it would read now.
* **`commands_serializable`** — however the steps of such calls are interleaved, the tables and the answers
  are those of executing the calls one at a time, in the order in which they finished.
-/

import Invoicing.Lib.Serial
import Invoicing.Runs.Stays

namespace Invoicing

open Interleave KeyedTable

/-! ### Calls apart -/

def Request.Issues : Request → Prop
  | .issue _ _ => True
  | _ => False

/-- The id a draft draws is new. -/
def Request.DrawsNew (request : Request) (db : Db) : Prop :=
  match request with
  | .draft ctx _ => db.getInvoice ctx.newInvoiceId = none
  | _ => True

/-- Calls on different invoices, of which at most one counts, and which share no draft key. -/
structure Request.Apart (first second : Request) : Prop where
  invoices : ∀ id, first.On id → ¬ second.On id
  issues : first.Issues → ¬ second.Issues
  keys : ∀ key, first.draftKey = some key → second.draftKey ≠ some key

/-! ### What a call reads -/

/-- Everything the steps of a call read is the same. -/
structure SameReads (request : Request) (before after : Db) : Prop where
  invoice : ∀ id, request.On id → after.getInvoice id = before.getInvoice id
  lines : ∀ id, request.On id → after.linesOf id = before.linesOf id
  sends : ∀ id, request.On id → ∀ key, after.findSend id key = before.findSend id key
  customers : after.customers = before.customers
  key : ∀ key, request.draftKey = some key → before.findByIdempotencyKey key = none →
    after.findByIdempotencyKey key = none
  count : request.Issues → ∀ year, after.countIssuedInvoices year = before.countIssuedInvoices year

theorem SameReads.refl (request : Request) (db : Db) : SameReads request db db :=
  ⟨fun _ _ => rfl, fun _ _ => rfl, fun _ _ _ => rfl, rfl, fun _ _ absent => absent, fun _ _ => rfl⟩

namespace SameReads

variable {request : Request} {before after : Db}

theorem invoiceOf (same : SameReads request before after) {id : InvoiceId} (on : request.On id) :
    Invoicing.invoiceOf after id = Invoicing.invoiceOf before id := by
  unfold Invoicing.invoiceOf
  rw [same.invoice id on]

theorem customerOf (same : SameReads request before after) :
    Invoicing.customerOf after = Invoicing.customerOf before := by
  funext inv
  unfold Invoicing.customerOf Db.getCustomer
  rw [same.customers]

theorem prepareSend (same : SameReads request before after) {id : InvoiceId} (on : request.On id)
    (ctx : CoreCtx) : Invoicing.prepareSend ctx id after = Invoicing.prepareSend ctx id before := by
  unfold Invoicing.prepareSend
  rw [same.invoiceOf on, same.customerOf, same.lines id on]

theorem tryReplay (same : SameReads request before after) {id : InvoiceId} (on : request.On id)
    (ctx : CoreCtx) (key : String) :
    Invoicing.tryReplay ctx id key after = Invoicing.tryReplay ctx id key before := by
  unfold Invoicing.tryReplay
  rw [same.invoiceOf on, same.customerOf, same.lines id on, same.sends id on]

theorem replayOr (same : SameReads request before after) {id : InvoiceId} (on : request.On id)
    (ctx : CoreCtx) (key : Option String) (go : CoreResult (Prepared SendInvoiceOutput)) :
    Invoicing.replayOr ctx id key after go = Invoicing.replayOr ctx id key before go := by
  unfold Invoicing.replayOr
  cases key with
  | none => rfl
  | some key =>
    dsimp only
    rw [same.tryReplay on]

/-- **A call that is not done after its first step** loads the same. -/
theorem load (same : SameReads request before after) (open_ : (request.load before).outcome = none) :
    request.load after = request.load before := by
  cases request with
  | draft ctx input =>
    have prepares : prepareDraft ctx input after = prepareDraft ctx input before := by
      cases keyed : input.idempotencyKey with
      | none =>
        unfold prepareDraft
        rw [keyed]
        rfl
      | some key =>
        have absent : before.findByIdempotencyKey key = none := by
          cases found : before.findByIdempotencyKey key with
          | none => rfl
          | some existing =>
            have bound : input.idempotencyKey.bind before.findByIdempotencyKey = some existing := by
              rw [keyed]
              exact found
            simp only [Request.load] at open_
            cases valid : input.validate with
            | error e =>
              have failed : prepareDraft ctx input before = .error e := by
                unfold prepareDraft
                rw [valid]
                rfl
              rw [failed] at open_
              cases open_
            | ok _ =>
              rw [prepareDraft_of_found valid bound] at open_
              cases open_
        have still := same.key key keyed absent
        have first : input.idempotencyKey.bind before.findByIdempotencyKey = none := by
          rw [keyed]
          exact absent
        have second : input.idempotencyKey.bind after.findByIdempotencyKey = none := by
          rw [keyed]
          exact still
        unfold prepareDraft
        rw [first, second]
    simp only [Request.load, prepares]
  | issue ctx input =>
    have prepares : prepareIssue ctx input after = prepareIssue ctx input before := by
      unfold prepareIssue
      rw [same.invoiceOf rfl, same.customerOf, same.lines input.invoiceId rfl]
    simp only [Request.load, prepares]
  | send ctx input =>
    have prepares : prepareSendInvoice ctx input after = prepareSendInvoice ctx input before := by
      unfold prepareSendInvoice
      rw [same.prepareSend rfl]
      simp only [same.replayOr rfl]
    simp only [Request.load, prepares]
  | sendRender ctx input =>
    have prepares : prepareSendRender ctx input after = prepareSendRender ctx input before := by
      unfold prepareSendRender
      rw [same.prepareSend rfl]
      simp only [same.replayOr rfl]
    simp only [Request.load, prepares]
  | view state token =>
    have prepares : prepareView state token after = prepareView state token before := by
      unfold prepareView
      cases verified : state.verifyLink token with
      | none => rfl
      | some id =>
        have customers : after.getCustomer = before.getCustomer := by
          funext customer
          unfold Db.getCustomer
          rw [same.customers]
        show (do
          let inv ← orInvalidLink (after.getInvoice id)
          _) = _
        rw [same.invoice id verified, same.lines id verified, customers]
        rfl
    simp only [Request.load, prepares]
  | markPaid ctx input =>
    have prepares : prepareMarkPaid ctx input after = prepareMarkPaid ctx input before := by
      unfold prepareMarkPaid
      rw [same.invoiceOf rfl]
    simp only [Request.load, prepares]
  | void ctx input =>
    have prepares : prepareVoid ctx input after = prepareVoid ctx input before := by
      unfold prepareVoid
      rw [same.invoiceOf rfl]
    simp only [Request.load, prepares]

end SameReads

/-! ### What an edit of a call apart changes -/

/-- Only an issue sets the time of issue; a draft has none. -/
theorem Edit.issuedAt {request : Request} {loaded : Option Invoice} {tx : InvoiceTx}
    (edit : Edit request loaded tx) (other : ¬ request.Issues) :
    tx.invoice.issuedAt = loaded.bind Invoice.issuedAt := by
  cases edit with
  | issue draft toState target owners => exact absurd trivial other
  | _ => rfl

/-- The record of a send is one of its invoice. -/
theorem Edit.sendKey_owner {request : Request} {loaded : Option Invoice} {tx : InvoiceTx}
    (edit : Edit request loaded tx) :
    ∀ record, tx.sendKey = some record → record.invoiceId = tx.invoice.id := by
  intro record written
  cases edit with
  | send target open' =>
    obtain ⟨key, _, rfl⟩ := Option.map_eq_some_iff.mp written
    rfl
  | sendRender target open' =>
    obtain ⟨key, _, rfl⟩ := Option.map_eq_some_iff.mp written
    rfl
  | _ => cases written

/-- A draft writes a new row, every other call the row it loaded. -/
theorem Edit.loaded_iff {request : Request} {loaded : Option Invoice} {tx : InvoiceTx} {db : Db}
    (edit : Edit request loaded tx) (new : request.DrawsNew db)
    (stored : ∀ inv, loaded = some inv → db.getInvoice inv.id = some inv) :
    db.getInvoice tx.invoice.id = loaded := by
  cases loaded with
  | none =>
    cases edit with
    | draft summed => exact new
  | some inv =>
    rw [← edit.owners.2 inv rfl]
    exact stored inv rfl

/-- **An edit that is no issue moves no count.** -/
theorem Edit.count {request : Request} {loaded : Option Invoice} {tx : InvoiceTx} {db : Db}
    (edit : Edit request loaded tx) (other : ¬ request.Issues) (new : request.DrawsNew db)
    (stored : ∀ inv, loaded = some inv → db.getInvoice inv.id = some inv) (year : ℤ) :
    (tx.apply db).countIssuedInvoices year = db.countIssuedInvoices year := by
  have moved := countP_upsert Invoice.id Invoice.mergeRow
    (fun inv => inv.issuedAt.any (Db.textInYear year)) db.invoices tx.invoice
  have row : find Invoice.id db.invoices tx.invoice.id = loaded := edit.loaded_iff new stored
  have time := edit.issuedAt other
  rw [row] at moved
  have counts : ∀ table : List Invoice, Db.countInYear year (table.map Invoice.issuedAt) =
      table.countP fun inv => inv.issuedAt.any (Db.textInYear year) := fun _ => List.countP_map
  show Db.countInYear year ((upsert Invoice.id Invoice.mergeRow db.invoices tx.invoice).map _) = _
  unfold Db.countIssuedInvoices
  rw [counts, counts]
  cases loaded with
  | none =>
    have never : (merged Invoice.mergeRow none tx.invoice).issuedAt = none := time
    simpa [never] using moved
  | some inv =>
    have kept : (merged Invoice.mergeRow (some inv) tx.invoice).issuedAt = inv.issuedAt := time
    simpa [kept] using moved

/-- No draft key comes to be stored but by a draft under it. -/
theorem Edit.key_absent {request : Request} {loaded : Option Invoice} {tx : InvoiceTx} {db : Db}
    {key : String} (edit : Edit request loaded tx) (other : request.draftKey ≠ some key)
    (stored : ∀ inv, loaded = some inv → db.getInvoice inv.id = some inv)
    (absent : db.findByIdempotencyKey key = none) : (tx.apply db).findByIdempotencyKey key = none := by
  have none_ : ∀ inv ∈ db.invoices, inv.idempotencyKey ≠ some key := by
    intro inv there
    simpa using List.find?_eq_none.mp absent inv there
  have written : tx.invoice.idempotencyKey ≠ some key := by
    rcases edit.key with ⟨_, drafted⟩ | ⟨inv, loads, _, keyed⟩
    · rw [drafted]
      exact other
    · rw [keyed]
      exact none_ inv (mem_of_find (stored inv loads))
  refine List.find?_eq_none.mpr fun inv there => ?_
  have differs : inv.idempotencyKey ≠ some key := by
    rcases mem_upsert there with old | rfl | ⟨old, rfl⟩
    · exact none_ inv old
    · exact written
    · exact written
  simpa using differs

/-- **An edit of a call apart leaves what a call reads.** -/
theorem Edit.sameReads {call request : Request} {loaded : Option Invoice} {tx : InvoiceTx} {db : Db}
    (edit : Edit request loaded tx) (apart : call.Apart request) (new : request.DrawsNew db)
    (stored : ∀ inv, loaded = some inv → db.getInvoice inv.id = some inv) :
    SameReads call db (tx.apply db) := by
  have elsewhere : ∀ id, call.On id → id ≠ tx.invoice.id := by
    rintro id on rfl
    exact apart.invoices _ on edit.on
  refine ⟨?_, ?_, ?_, rfl, ?_, ?_⟩
  · intro id on
    exact InvoiceTx.getInvoice_apply_other db (elsewhere id on)
  · intro id on
    exact InvoiceTx.linesOf_apply edit.lines_owner (elsewhere id on)
  · intro id on key
    show (db.sendKeys ++ tx.sendKey.toList).find? _ = db.sendKeys.find? _
    rw [List.find?_append]
    cases recorded : tx.sendKey with
    | none => exact Option.or_none
    | some record =>
      have foreign : record.invoiceId ≠ id := by
        rw [edit.sendKey_owner record recorded]
        exact Ne.symm (elsewhere id on)
      simp [foreign]
  · intro key keyed absent
    exact edit.key_absent (apart.keys key keyed) stored absent
  · intro issues year
    exact edit.count (apart.issues issues) new stored year

/-! ### Runs -/

/-- What the run of a call has read so far is what it would read now. -/
def HasRead (request : Request) (run : Run) (db : Db) : Prop :=
  request.DrawsNew db ∧
    (run = .start request ∨ run = request.load db ∨
      ∃ ctx input ready, request.load db = .counting ctx input ready ∧
        run = (advance (.counting ctx input ready) db).1)

/-- What an issue knows when it counts. -/
theorem load_counting {request : Request} {db : Db} {ctx : CoreCtx} {input : IssueInvoiceInput}
    {ready : IssueReady} (there : request.load db = .counting ctx input ready) :
    request = .issue ctx input ∧ ready.Checked input ∧ db.getInvoice input.invoiceId = some ready.loaded := by
  have call : (request.load db).request? = some request := advance_request (.start request) db
  rw [there] at call
  obtain rfl : Request.issue ctx input = request := Option.some.inj call
  simp only [Request.load] at there
  split at there
  · cases there
  · rename_i done
    cases there
    exact ⟨rfl, prepareIssue_checked done⟩

/-- **A run that is about to commit** carries an edit of a row that is stored now. -/
theorem HasRead.committing {request request' : Request} {db : Db} {loaded : Option Invoice} {tx : InvoiceTx}
    {reply : Reply} (read : HasRead request (.committing request' loaded tx reply) db) :
    Edit request loaded tx ∧ ∀ inv, loaded = some inv → db.getInvoice inv.id = some inv := by
  obtain ⟨_, never | loads | ⟨ctx, input, ready, counts, finishes⟩⟩ := read
  · cases never
  · exact (load_committing loads.symm).2
  · obtain ⟨rfl, checked, found⟩ := load_counting counts
    obtain ⟨rfl, rfl, edit, _⟩ := counting_committing checked finishes.symm
    refine ⟨edit, fun inv same => ?_⟩
    obtain rfl := Option.some.inj same
    rw [getInvoice_id found]
    exact found

/-- What a loaded run has read stays current in tables that read the same. -/
theorem HasRead.stays {request : Request} {run : Run} {db after : Db} (read : HasRead request run db)
    (open_ : run.outcome = none) (same : SameReads request db after) (new : request.DrawsNew after) :
    HasRead request run after := by
  obtain ⟨_, first | loads | ⟨ctx, input, ready, counts, finishes⟩⟩ := read
  · exact ⟨new, Or.inl first⟩
  · refine ⟨new, Or.inr (Or.inl ?_)⟩
    rw [same.load (loads ▸ open_)]
    exact loads
  · have again : request.load after = .counting ctx input ready := by
      rw [same.load (by rw [counts]; rfl)]
      exact counts
    obtain ⟨rfl, _⟩ := load_counting counts
    have number :
        countInvoicesIssuedInYear after ctx.now.year = countInvoicesIssuedInYear db ctx.now.year := by
      unfold countInvoicesIssuedInYear
      rw [same.count trivial]
    refine ⟨new, Or.inr (Or.inr ⟨ctx, input, ready, again, ?_⟩)⟩
    simp only [advance, number]
    exact finishes

/-- A prepared run commits next, or is done. -/
theorem prepared_shape {α : Type} (request : Request) (reply : α → Reply) (result : CoreResult (Prepared α)) :
    (∃ w, prepared request reply result = .finished request w) ∨
      ∃ loaded tx r, prepared request reply result = .committing request loaded tx r := by
  unfold prepared
  split
  · exact Or.inl ⟨_, rfl⟩
  · exact Or.inl ⟨_, rfl⟩
  · exact Or.inr ⟨_, _, _, rfl⟩

/-- A loaded run commits next, or is done, or is an issue that counts. -/
theorem load_shape (request : Request) (db : Db) :
    (∃ w, request.load db = .finished request w) ∨
      (∃ loaded tx r, request.load db = .committing request loaded tx r) ∨
      ∃ ctx input ready, request.load db = .counting ctx input ready := by
  have shape : ∀ {α : Type} (reply : α → Reply) (result : CoreResult (Prepared α)),
      request.load db = prepared request reply result →
        (∃ w, request.load db = .finished request w) ∨
          (∃ loaded tx r, request.load db = .committing request loaded tx r) ∨
          ∃ ctx input ready, request.load db = .counting ctx input ready := by
    intro α reply result loads
    rw [loads]
    rcases prepared_shape request reply result with done | commits
    · exact Or.inl done
    · exact Or.inr (Or.inl commits)
  cases request with
  | draft ctx input => exact shape .drafted _ rfl
  | send ctx input => exact shape .sent _ rfl
  | sendRender ctx input => exact shape .sent _ rfl
  | markPaid ctx input => exact shape .paid _ rfl
  | void ctx input => exact shape .voided _ rfl
  | issue ctx input =>
    simp only [Request.load]
    split
    · exact Or.inl ⟨_, rfl⟩
    · exact Or.inr (Or.inr ⟨_, _, _, rfl⟩)
  | view state token =>
    simp only [Request.load]
    split
    · exact Or.inl ⟨_, rfl⟩
    · exact Or.inl ⟨_, rfl⟩
    · exact Or.inr (Or.inl ⟨_, _, _, rfl⟩)

theorem finished_of_outcome {run : Run} {w : Outcome} (done : run.outcome = some w) :
    ∃ request, run = .finished request w := by
  cases run with
  | finished request outcome =>
    obtain rfl := Option.some.inj done
    exact ⟨request, rfl⟩
  | _ => cases done

/-- A commit finishes its run. -/
theorem committing_finishes (request : Request) (loaded : Option Invoice) (tx : InvoiceTx) (reply : Reply)
    (db : Db) : ((advance (.committing request loaded tx reply) db).1.outcome).isSome = true := by
  simp only [advance]
  split
  · rfl
  · rfl

/-- A step that does not finish the run of a call only reads. -/
theorem HasRead.reads {request : Request} {run : Run} {db : Db} (read : HasRead request run db)
    (open_ : run.outcome = none) (still : (advance run db).1.outcome = none) :
    (advance run db).2 = db ∧ HasRead request (advance run db).1 db := by
  obtain ⟨new, rfl | rfl | ⟨ctx, input, ready, counts, rfl⟩⟩ := read
  · exact ⟨rfl, new, Or.inr (Or.inl rfl)⟩
  · rcases load_shape request db with ⟨w, done⟩ | ⟨loaded, tx, r, commits⟩ | ⟨ctx, input, ready, counts⟩
    · rw [done] at open_
      cases open_
    · rw [commits] at still
      have done := committing_finishes request loaded tx r db
      rw [still] at done
      cases done
    · rw [counts]
      exact ⟨rfl, new, Or.inr (Or.inr ⟨ctx, input, ready, counts, rfl⟩)⟩
  · rcases prepared_shape (.issue ctx input) .issued
        (finishIssue ctx input ready (countInvoicesIssuedInYear db ctx.now.year)) with
      ⟨w, done⟩ | ⟨loaded, tx, r, commits⟩
    · simp only [advance, done] at open_
      cases open_
    · have next : (advance (.counting ctx input ready) db).1 =
          .committing (.issue ctx input) loaded tx r := commits
      rw [next] at still
      have done := committing_finishes (.issue ctx input) loaded tx r db
      rw [still] at done
      cases done

/-- **The step that finishes the run of a call** executes the call. -/
theorem HasRead.ends {request : Request} {run : Run} {db : Db} {w : Outcome} (read : HasRead request run db)
    (done : (advance run db).1.outcome = some w) : request.execute db = (w, (advance run db).2) := by
  have alone := solo_execute request db
  obtain ⟨q, ended⟩ := finished_of_outcome done
  obtain ⟨after, step⟩ : ∃ after, advance run db = (.finished q w, after) := ⟨_, Prod.ext ended rfl⟩
  have whole : solo request db = (.finished q w, after) := by
    have loads : advance (.start request) db = (request.load db, db) := rfl
    obtain ⟨_, rfl | rfl | ⟨ctx, input, ready, counts, rfl⟩⟩ := read
    · have first : advance (.start request) db = (.finished q w, after) := step
      simp only [solo, first]
      rfl
    · simp only [solo, loads, step]
      rfl
    · simp only [solo, loads, counts]
      exact step
  rw [step]
  rw [whole] at alone
  obtain ⟨run_, store⟩ := Prod.mk.inj alone
  exact Prod.ext (Run.finished.inj run_).2.symm store.symm

/-- **The commit of a call apart** leaves what a run has read. -/
theorem HasRead.apart {call other : Request} {run active : Run} {db : Db} (read : HasRead call run db)
    (open_ : run.outcome = none) (running : HasRead other active db) (apart : call.Apart other) :
    HasRead call run (advance active db).2 := by
  rcases advance_cases active db with same | ⟨request, loaded, tx, reply, rfl, committed, _⟩ |
    ⟨write, rfl, _⟩
  · rw [same]
    exact read
  · obtain ⟨edit, stored⟩ := running.committing
    rw [(InvoiceTx.commit_ok committed).1]
    have same := edit.sameReads apart running.1 stored
    refine read.stays open_ same ?_
    cases call with
    | draft ctx input =>
      show (tx.apply db).getInvoice ctx.newInvoiceId = none
      rw [same.invoice ctx.newInvoiceId rfl]
      exact read.1
    | _ => trivial
  · obtain ⟨_, never | loads | ⟨ctx, input, ready, _, finishes⟩⟩ := running
    · cases never
    · have call := advance_request (.start other) db
      rw [show (advance (.start other) db).1 = .elsewhere write from loads.symm] at call
      cases call
    · have call := advance_request (.counting ctx input ready) db
      rw [← finishes] at call
      cases call

/-- **The runs of calls apart are optimistic.** -/
theorem commands_optimistic :
    Optimistic advance Run.outcome (fun db request => request.execute db) HasRead Request.Apart where
  stays run db done := by
    obtain ⟨w, ended⟩ := Option.isSome_iff_exists.mp done
    obtain ⟨request, rfl⟩ := finished_of_outcome ended
    rfl
  reads _ _ _ read open_ still := read.reads open_ still
  ends _ _ _ _ read _ done := read.ends done
  apart _ _ _ _ _ read open_ running _ _ apart := read.apart open_ running apart

theorem Request.Apart.symm {first second : Request} (apart : first.Apart second) : second.Apart first where
  invoices id on on' := apart.invoices id on' on
  issues issues issues' := apart.issues issues' issues
  keys key keyed keyed' := apart.keys key keyed' keyed

/-- The pool of runs at the beginning. -/
def Request.pool (requests : List Request) (db : Db) : Pool Db Run := ⟨db, requests.map Run.start⟩

/-- **Commands on different invoices are serializable.** However their steps are interleaved, the tables
and the answers are those of executing, one at a time, the calls whose runs finished, in the order in which
they finished; each of these is executed once. -/
theorem commands_serializable {db : Db} {requests : List Request} (apart : requests.Pairwise Request.Apart)
    (new : ∀ request ∈ requests, request.DrawsNew db) (order : List ℕ) :
    let pool := Request.pool requests db
    let ended := finishing advance Run.outcome pool order
    let final := pool.exec advance order
    final.store = Mealy.after (fun db request => request.execute db) db (served requests ended) ∧
      ended.map (fun i => final.runs[i]?.bind Run.outcome) =
        (Mealy.outputs (fun db request => request.execute db) db (served requests ended)).map some ∧
      ended.Nodup ∧
      ∀ i, i ∈ ended ↔ ∃ run, final.runs[i]? = some run ∧ run.outcome.isSome = true := by
  intro pool ended final
  have symmetric : ∀ (i j : ℕ) a b, i ≠ j → requests[i]? = some a → requests[j]? = some b → a.Apart b := by
    intro i j a b differ first second
    obtain ⟨insideI, rfl⟩ := List.getElem?_eq_some_iff.mp first
    obtain ⟨insideJ, rfl⟩ := List.getElem?_eq_some_iff.mp second
    rcases Nat.lt_or_gt_of_ne differ with less | more
    · exact List.pairwise_iff_getElem.mp apart i j insideI insideJ less
    · exact (List.pairwise_iff_getElem.mp apart j i insideJ insideI more).symm
  have begun : ∀ (i : ℕ) run, pool.runs[i]? = some run → ∃ request, requests[i]? = some request ∧
      run = .start request := by
    intro i run there
    have mapped : (requests.map Run.start)[i]? = some run := there
    rw [List.getElem?_map] at mapped
    obtain ⟨request, asked, rfl⟩ := Option.map_eq_some_iff.mp mapped
    exact ⟨request, asked, rfl⟩
  have serving : Serving Run.outcome HasRead requests pool := by
    refine ⟨List.length_map _, ?_⟩
    intro i call run asked there _
    obtain ⟨request, asked', rfl⟩ := begun i run there
    obtain rfl : call = request := Option.some.inj (asked.symm.trans asked')
    exact ⟨new call (List.mem_of_getElem? asked), Or.inl rfl⟩
  obtain ⟨store, outcomes⟩ := commands_optimistic.serializable symmetric serving order
  refine ⟨store, outcomes, commands_optimistic.finishing_nodup pool order, fun i => ?_⟩
  rw [commands_optimistic.mem_finishing pool order i]
  refine ⟨And.right, fun done => ⟨?_, done⟩⟩
  -- a run at the end was there at the beginning, and had not started
  obtain ⟨run, there, _⟩ := done
  have length : final.runs.length = pool.runs.length := runs_exec_length pool order
  obtain ⟨inside, _⟩ := List.getElem?_eq_some_iff.mp there
  have before := List.getElem?_eq_getElem (length ▸ inside)
  obtain ⟨request, _, started⟩ := begun i _ before
  exact ⟨_, before, by rw [started]; rfl⟩

/-- A payment of the issued invoice, and a draft of another one. -/
def payAndDraft : List Request :=
  [.markPaid (sampleCtx (oneOClock firstOfMarch) 3) (samplePayment 4000 fits_forty),
    .draft (sampleCtx (oneOClock firstOfMarch) 5) sampleDraft]

/-- They are apart; the draft commits between the payment's read and its commit, and comes first. -/
theorem commands_serializable_payAndDraft :
    let pool := Request.pool payAndDraft issuedDb
    finishing advance Run.outcome pool [0, 1, 1, 0] = [1, 0] ∧
      (pool.exec advance [0, 1, 1, 0]).store = Mealy.after (fun db request => request.execute db) issuedDb
        (served payAndDraft (finishing advance Run.outcome pool [0, 1, 1, 0])) := by
  refine ⟨by decide +kernel, (commands_serializable ?_ ?_ [0, 1, 1, 0]).1⟩
  · refine List.pairwise_pair.mpr ⟨?_, nofun, nofun⟩
    rintro id rfl drafts
    have differ : (⟨BitVec.ofNat 128 5⟩ : InvoiceId) ≠ ⟨1⟩ := by decide
    exact differ drafts
  · intro request there
    rcases List.mem_pair.mp there with rfl | rfl
    · trivial
    · show issuedDb.getInvoice _ = none
      decide +kernel

end Invoicing
