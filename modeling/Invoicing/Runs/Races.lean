/-
**Races of issues for numbers.**

* `Tables` — what holds of the tables at every moment: a gapless series, unique idempotency keys and
  line places, and no issue time in the first second of a year.
* `Kept` — the draft of a call, its lines and its history are as they were at the beginning.
* `Racing` — what holds of an issue wherever it stands. An issue that counted has seen at most as
  many invoices as are issued now, and its number follows what it saw.
* **`races_leave_no_gap`** — in every interleaving of issues of different drafts the numbers of each
  year are `1 … k`; an issue refused at its commit is refused for its number, has changed nothing, and
  succeeds when it is retried alone, on any day on which its sums do not overflow. Each count has to
  find fewer than `2 ^ 32 - 1` invoices issued in its year; **`sequence_wraps`** — otherwise the next
  number is `0`.
-/

import Invoicing.Runs.Numbering

namespace Invoicing

open Chrono Interleave KeyedTable Series

/-! ### Tables -/

/-- What holds of the tables at every moment of a race that began with `start`. -/
structure Tables (start db : Db) : Prop where
  gapless : ∃ log, Gapless invoiceNumbering db.invoices log
  customers : db.customers = start.customers
  keys : db.KeysUnique
  lines : Db.LinesFit [] db.lines
  calm : ∀ inv ∈ db.invoices, ∀ time, inv.issuedAt = some time → ¬ time.InFirstSecond

/-- The invoices issued in a year. -/
def issuedCount (db : Db) (year : ℤ) : ℕ := (db.invoices.map Invoice.issuedAt).countP (inYear year)

/-- The numbers of a year are the first `k`, each of one invoice. -/
structure NumbersAre (db : Db) (year : ℤ) (k : ℕ) : Prop where
  first : ∀ n, (∃ inv ∈ db.invoices, inv.number = some (invoiceNumber year n)) ↔ 1 ≤ n ∧ n ≤ k
  issued : ∀ inv ∈ db.invoices, inv.issuedAt.map DateTime.year = some year →
    ∃ n, inv.number = some (invoiceNumber year n)
  one : ∀ inv ∈ db.invoices, ∀ other ∈ db.invoices, inv.number ≠ none →
    inv.number = other.number → inv = other

theorem Tables.numbersAre {start db : Db} (tables : Tables start db) {year : ℤ}
    (covered : CoveredYear year) : ∃ k, NumbersAre db year k := by
  obtain ⟨log, gapless⟩ := tables.gapless
  refine ⟨(entriesOf log year).length, gapless.taken_iff covered, ?_,
    fun _ inTable _ inTable' numbered same => gapless.unique inTable inTable' numbered same⟩
  intro inv inTable issued
  obtain ⟨k, _, named⟩ := gapless.logged inv inTable year issued
  exact ⟨k + 1, named⟩

theorem issuedCount_eq {db : Db} {log : List (InvoiceId × ℤ)}
    (gapless : Gapless invoiceNumbering db.invoices log) (year : ℤ) :
    issuedCount db year = (entriesOf log year).length := by
  rw [← gapless.count year]
  exact (countP_issuedIn invoiceNumbering (fun _ => rfl) db.invoices year).symm

/-- Without issue times in first seconds, the count of a year is right. -/
theorem Tables.countIssued {start db : Db} (tables : Tables start db) {year : ℤ}
    (covered : CoveredYear year) : db.countIssuedInvoices year = issuedCount db year := by
  obtain ⟨log, gapless⟩ := tables.gapless
  have calm : ∀ y, (db.invoices.map Invoice.issuedAt).countP (firstSecondOf y) = 0 := by
    intro y
    refine List.countP_eq_zero.mpr ?_
    intro time member
    obtain ⟨inv, inTable, rfl⟩ := List.mem_map.mp member
    cases issued : inv.issuedAt with
    | none => simp [firstSecondOf]
    | some time =>
      have quiet := tables.calm inv inTable time issued
      simp [firstSecondOf, quiet]
  have range := issuedInRange_of_gapless invoiceNumbering (fun _ => rfl) rfl gapless
  have sums := countInYear_add covered.1 covered.2 range
  rw [calm, calm, Nat.add_zero, Nat.add_zero] at sums
  exact sums

/-- The next sequence number follows the invoices of the year. -/
theorem Tables.nextSequence {start db : Db} (tables : Tables start db) {year : ℤ}
    (covered : CoveredYear year) (fits : issuedCount db year + 1 < 2 ^ 32) :
    nextSequence (countInvoicesIssuedInYear db year) = issuedCount db year + 1 := by
  unfold countInvoicesIssuedInYear
  rw [tables.countIssued covered, nextSequence_wrapU32 fits]

/-! ### Drafts -/

/-- The draft, its lines and its history are as at the beginning. -/
structure Kept (start db : Db) (id : InvoiceId) : Prop where
  invoice : db.getInvoice id = start.getInvoice id
  lines : db.linesOf id = start.linesOf id
  history : db.historyOf id = start.historyOf id

theorem Kept.refl (db : Db) (id : InvoiceId) : Kept db db id := ⟨rfl, rfl, rfl⟩

/-- An issue prepares from the draft, its lines and the customers. -/
theorem prepareIssue_congr (ctx : CoreCtx) {input : IssueInvoiceInput} {start db : Db}
    (kept : Kept start db input.invoiceId) (customers : db.customers = start.customers) :
    prepareIssue ctx input db = prepareIssue ctx input start := by
  unfold prepareIssue invoiceOf customerOf Db.getCustomer
  rw [kept.invoice, kept.lines, customers]

/-- Two calls that resolve taxes alike: under one configuration, on one day. -/
structure SameWorld (ctx retry : CoreCtx) : Prop where
  taxTable : retry.taxTable = ctx.taxTable
  nexus : retry.nexus = ctx.nexus
  day : retry.now.dateNaive = ctx.now.dateNaive
  arith : retry.arith = ctx.arith

theorem prepareIssue_sameWorld {ctx retry : CoreCtx} (same : SameWorld ctx retry)
    (input : IssueInvoiceInput) (db : Db) :
    prepareIssue retry input db = prepareIssue ctx input db := by
  unfold prepareIssue issueLine resolveTax
  rw [same.taxTable, same.nexus, same.day, same.arith]

/-- The renderers and the blob store always answer. -/
structure CoreCtx.Renders (ctx : CoreCtx) : Prop where
  html : ∀ template inv customer lines, ∃ html,
    ctx.renderHtml template inv customer lines = .ok html
  pdf : ∀ html, ∃ pdf, ctx.renderPdf html = .ok pdf
  blob : ∀ put, ctx.blobStore = some put → ∀ pdf, ∃ ref, put pdf = .ok ref

theorem finishIssue_renders {ctx : CoreCtx} (renders : ctx.Renders) (input : IssueInvoiceInput)
    (ready : IssueReady) (count : ℕ) :
    ∃ prepared, finishIssue ctx input ready count = .ok prepared := by
  obtain ⟨html, rendered⟩ := renders.html (issuedRow ctx ready count).templatePath
    (issuedRow ctx ready count) ready.customer ready.lines
  obtain ⟨pdf, printed⟩ := renders.pdf html
  have stored : ∃ blobRef, storePdf ctx (issuedRow ctx ready count) pdf = .ok blobRef := by
    unfold storePdf
    cases blobStore : ctx.blobStore with
    | none => exact ⟨_, rfl⟩
    | some put =>
      obtain ⟨ref, put'⟩ := renders.blob put blobStore pdf
      exact ⟨some ref, by simp only [put']⟩
  have both : ctx.render (issuedRow ctx ready count) ready.customer ready.lines =
      .ok (html, pdf) := by
    unfold CoreCtx.render
    rw [rendered]
    show (((ctx.renderPdf html).mapError _ >>= _) : CoreResult _) = _
    rw [printed]
    rfl
  obtain ⟨blobRef, stored⟩ := stored
  cases done : finishIssue ctx input ready count with
  | ok prepared => exact ⟨prepared, rfl⟩
  | error stop =>
    rcases bind_error done with failed | ⟨pair, rendered', rest⟩
    · rw [both] at failed
      cases failed
    · rw [both] at rendered'
      cases rendered'
      rcases bind_error rest with failed | ⟨_, _, rest⟩
      · rw [stored] at failed
        cases failed
      · cases rest

/-! ### One commit -/

/-- Lines with the places of a table's lines fit like them. -/
theorem linesFit_perm {lines other : List InvoiceLine} (fit : Db.LinesFit [] lines)
    (places : (other.map InvoiceLine.place).Perm (lines.map InvoiceLine.place)) :
    Db.LinesFit [] other := by
  have column : ∀ {γ : Type} (read : LineId × InvoiceId × ℕ → γ),
      ((lines.map InvoiceLine.place).map read).Nodup →
      ((other.map InvoiceLine.place).map read).Nodup := by
    intro γ read nodup
    exact ((places.map read).nodup_iff).mpr nodup
  have ids := column Prod.fst (by rw [List.map_map]; exact fit.1)
  have positions := column Prod.snd (by rw [List.map_map]; exact fit.2)
  rw [List.map_map] at ids positions
  exact ⟨ids, positions⟩

/-- The lines an issue writes fit where the draft's lines were. -/
theorem linesFit_issue {db : Db} {id : InvoiceId} {new : List InvoiceLine}
    (fit : Db.LinesFit [] db.lines)
    (places : new.map InvoiceLine.place = (db.linesOf id).map InvoiceLine.place) :
    Db.LinesFit [] ((db.lines.filter fun line => decide (line.invoiceId ≠ id)) ++ new) := by
  refine linesFit_perm fit ?_
  rw [List.map_append, places, ← List.map_append]
  refine List.Perm.map _ ?_
  have sorted : (db.linesOf id).Perm
      (db.lines.filter fun line => decide (line.invoiceId = id)) := List.perm_insertionSort _ _
  refine (sorted.append_left _).trans ?_
  have split := List.filter_append_perm (fun line => decide (line.invoiceId ≠ id)) db.lines
  have same : (db.lines.filter fun line => !decide (line.invoiceId ≠ id)) =
      db.lines.filter fun line => decide (line.invoiceId = id) :=
    List.filter_congr fun line _ => by simp
  rw [same] at split
  exact split

/-- An issue in hand: prepared from the draft, which is as at the beginning. -/
structure Untouched (start db : Db) (ctx : CoreCtx) (input : IssueInvoiceInput) : Prop where
  kept : Kept start db input.invoiceId
  history : ∀ row ∈ db.history, row.id ≠ ctx.newHistoryId
  year : CoveredYear ctx.now.year
  calm : ¬ ctx.now.InFirstSecond

/-- Drafts have not been issued, at the beginning. -/
def StartUnissued (start : Db) : Prop :=
  ∀ id inv, start.getInvoice id = some inv → inv.state = .draft → inv.issuedAt = none

section Commit

variable {start db : Db} {ctx : CoreCtx} {input : IssueInvoiceInput} {ready : IssueReady}
  {blobRef : Option String} {count : ℕ}

theorem Untouched.stored (untouched : Untouched start db ctx input)
    (prepared' : prepareIssue ctx input start = .ok ready) :
    db.getInvoice ready.loaded.id = some ready.loaded ∧ ready.loaded.id = input.invoiceId := by
  obtain ⟨found, _⟩ := prepareIssue_ok prepared'
  have target := getInvoice_id found
  rw [target]
  exact ⟨untouched.kept.invoice.trans found, rfl⟩

/-- **A commit with a free number goes through.** -/
theorem issue_admissible (tables : Tables start db) (untouched : Untouched start db ctx input)
    (prepared' : prepareIssue ctx input start = .ok ready)
    (free : ¬ Db.Clashes Invoice.id Invoice.number db.invoices
      (issueTx ctx input ready count blobRef).invoice) :
    (issueTx ctx input ready count blobRef).Admissible db where
  number := free
  key := by
    rintro ⟨other, inTable, different, keyed, same⟩
    exact different (tables.keys.keys ready.loaded (mem_of_find (untouched.stored prepared').1) other
      inTable keyed same)
  customer := by
    obtain ⟨_, _, _, buyer, _⟩ := prepareIssue_ok prepared'
    unfold Db.getCustomer at buyer ⊢
    rw [tables.customers]
    show find Customer.id start.customers ready.loaded.customerId ≠ none
    rw [buyer]
    exact Option.some_ne_none _
  lines := by
    intro new same
    cases same
    obtain ⟨_, _, _, _, places⟩ := prepareIssue_ok prepared'
    rw [← untouched.kept.lines] at places
    have target := (untouched.stored prepared').2
    refine ⟨?_, (prepareIssue_checked prepared').1.owners⟩
    have fit := linesFit_issue tables.lines places
    rw [← target] at fit
    exact fit
  history := ⟨untouched.history, rfl⟩
  send := by
    intro record absent
    cases absent

/-- The stored draft is unissued. -/
theorem Untouched.unissued (unissued : StartUnissued start) (untouched : Untouched start db ctx input)
    (prepared' : prepareIssue ctx input start = .ok ready) {before : Invoice}
    (there : db.getInvoice ready.loaded.id = some before) : before.issuedAt = none := by
  obtain ⟨found, isDraft, _⟩ := prepareIssue_ok prepared'
  rw [(untouched.stored prepared').1] at there
  cases there
  exact unissued _ _ found isDraft

/-- **A commit with a free number keeps the tables.** -/
theorem tables_issue (unissued : StartUnissued start) (tables : Tables start db)
    (untouched : Untouched start db ctx input) (prepared' : prepareIssue ctx input start = .ok ready)
    {seen : ℕ} (named : nextSequence count = seen + 1) (stale : seen ≤ issuedCount db ctx.now.year)
    (free : ¬ Db.Clashes Invoice.id Invoice.number db.invoices
      (issueTx ctx input ready count blobRef).invoice) :
    Tables start ((issueTx ctx input ready count blobRef).apply db) := by
  obtain ⟨log, gapless⟩ := tables.gapless
  have stored := (untouched.stored prepared').1
  have noPeriod : ∀ before, db.getInvoice ready.loaded.id = some before →
      before.issuedAt = none := fun _ there => untouched.unissued unissued prepared' there
  have number : (issueTx ctx input ready count blobRef).invoice.number =
      some (invoiceNumber ctx.now.year (seen + 1)) := by
    rw [← named]
    rfl
  -- a free number is the next one, however old the count is
  have current : seen = (entriesOf log ctx.now.year).length := by
    rw [issuedCount_eq gapless] at stale
    by_contra behind
    obtain ⟨other, inTable, taken⟩ := (gapless.taken_iff untouched.year (seen + 1)).mpr
      ⟨by omega, by omega⟩
    refine free ⟨other, inTable, ?_, ?_, ?_⟩
    · intro same
      have found : db.getInvoice other.id = some other := find_of_mem gapless.distinct inTable
      rw [show other.id = ready.loaded.id from same] at found
      have period := noPeriod other found
      have none' := gapless.unnumbered other inTable
        (by show other.issuedAt.map DateTime.year = none; rw [period]; rfl)
      rw [taken] at none'
      cases none'
    · rw [number]
      exact Option.some_ne_none _
    · rw [number]
      exact taken
  have members := mem_upsert_iff Invoice.keepsKey gapless.distinct
    (issueTx ctx input ready count blobRef).invoice
  have row : merged Invoice.mergeRow (find Invoice.id db.invoices
        (issueTx ctx input ready count blobRef).invoice.id)
      (issueTx ctx input ready count blobRef).invoice =
      Invoice.mergeRow ready.loaded (issueTx ctx input ready count blobRef).invoice := by
    have found : find Invoice.id db.invoices (issueTx ctx input ready count blobRef).invoice.id =
        some ready.loaded := stored
    rw [found]
    rfl
  refine ⟨⟨log ++ [(ready.loaded.id, ctx.now.year)], ?_⟩, tables.customers, ?_, ?_, ?_⟩
  · refine gapless.issue (issueTx ctx input ready count blobRef).invoice ?_ rfl untouched.year ?_
    · intro before there
      show before.issuedAt.map DateTime.year = none
      rw [noPeriod before there]
      rfl
    · rw [← current]
      exact number
  · exact InvoiceTx.keysUnique_apply tables.keys
      (issue_admissible tables untouched prepared' free).key
  · obtain ⟨_, _, _, _, places⟩ := prepareIssue_ok prepared'
    rw [← untouched.kept.lines] at places
    have fit := linesFit_issue tables.lines places
    rw [← (untouched.stored prepared').2] at fit
    exact fit
  · intro inv inTable time issued
    rcases (members inv).mp inTable with rfl | ⟨there, _⟩
    · rw [row] at issued
      cases issued
      exact untouched.calm
    · exact tables.calm inv there time issued

/-- The invoices issued in a year only grow. -/
theorem issuedCount_apply (unissued : StartUnissued start) (untouched : Untouched start db ctx input)
    (prepared' : prepareIssue ctx input start = .ok ready) (year : ℤ) :
    issuedCount db year ≤ issuedCount ((issueTx ctx input ready count blobRef).apply db) year := by
  have found : find Invoice.id db.invoices (issueTx ctx input ready count blobRef).invoice.id =
      some ready.loaded := (untouched.stored prepared').1
  have notYet : inYear year ready.loaded.issuedAt = false := by
    rw [untouched.unissued unissued prepared' (untouched.stored prepared').1]
    rfl
  have moved := countP_upsert Invoice.id Invoice.mergeRow
    (fun inv => inYear year inv.issuedAt) db.invoices (issueTx ctx input ready count blobRef).invoice
  rw [found] at moved
  simp only [Option.elim, notYet, Bool.toNat_false] at moved
  unfold issuedCount
  rw [List.countP_map, List.countP_map]
  exact le_of_le_of_eq (Nat.le_add_right _ _) moved.symm

/-- A commit of another draft leaves this one alone. -/
theorem Kept.apply {id : InvoiceId} (kept : Kept start db id)
    (prepared' : prepareIssue ctx input start = .ok ready) (other : id ≠ input.invoiceId) :
    Kept start ((issueTx ctx input ready count blobRef).apply db) id := by
  obtain ⟨checked, _⟩ := prepareIssue_checked prepared'
  have different : id ≠ (issueTx ctx input ready count blobRef).invoice.id := by
    show id ≠ ready.loaded.id
    rw [checked.target]
    exact other
  refine ⟨?_, ?_, ?_⟩
  · rw [InvoiceTx.getInvoice_apply_other db different]
    exact kept.invoice
  · rw [InvoiceTx.linesOf_apply ?_ different]
    · exact kept.lines
    · intro new same
      cases same
      exact checked.owners
  · have apart : ¬ (issueTx ctx input ready count blobRef).history.invoiceId = id :=
      fun same => different same.symm
    unfold Db.historyOf InvoiceTx.apply
    rw [List.filter_append]
    simp only [List.filter_cons, apart, decide_false, List.filter_nil]
    rw [← Db.historyOf, kept.history]
    exact List.append_nil _

end Commit

/-! ### Wherever an issue stands -/

/-- What holds of an issue wherever it stands. -/
inductive Racing (start db : Db) : Run → Prop
  | start {ctx : CoreCtx} {input : IssueInvoiceInput} (untouched : Untouched start db ctx input) :
      Racing start db (.start (.issue ctx input))
  | counting {ctx : CoreCtx} {input : IssueInvoiceInput} {ready : IssueReady}
      (untouched : Untouched start db ctx input)
      (prepared : prepareIssue ctx input start = .ok ready) :
      Racing start db (.counting ctx input ready)
  | committing {ctx : CoreCtx} {input : IssueInvoiceInput} {ready : IssueReady} {count seen : ℕ}
      {blobRef : Option String} {reply : Reply} (untouched : Untouched start db ctx input)
      (prepared : prepareIssue ctx input start = .ok ready)
      (named : nextSequence count = seen + 1) (stale : seen ≤ issuedCount db ctx.now.year) :
      Racing start db (.committing (.issue ctx input) (some ready.loaded)
        (issueTx ctx input ready count blobRef) reply)
  | failed {ctx : CoreCtx} {input : IssueInvoiceInput} {stop : Stop ApiError}
      (kept : Kept start db input.invoiceId)
      (why : ∀ e, stop = .error (.core (.repo e)) → (∃ message, e = .blob message) ∨
        (e = .unique "invoices.number" ∧ ∃ ready, prepareIssue ctx input start = .ok ready)) :
      Racing start db (.finished (.issue ctx input) (.error stop))
  | issued {ctx : CoreCtx} {input : IssueInvoiceInput} {reply : Reply} :
      Racing start db (.finished (.issue ctx input) (.ok reply))

/-- Two issues of different drafts, that draw different ids. -/
def Rivals (run other : Run) : Prop :=
  ∀ ctx input ctx' input', run.request? = some (.issue ctx input) →
    other.request? = some (.issue ctx' input') →
    input.invoiceId ≠ input'.invoiceId ∧ ctx.newHistoryId ≠ ctx'.newHistoryId

/-- A count finds fewer than `2 ^ 32 - 1` invoices issued in its year. -/
def CountsFit (db : Db) (run : Run) : Prop :=
  ∀ ctx input ready, run = .counting ctx input ready → issuedCount db ctx.now.year + 1 < 2 ^ 32

instance (db : Db) : (run : Run) → Decidable (CountsFit db run)
  | .counting ctx _ _ => decidable_of_iff (issuedCount db ctx.now.year + 1 < 2 ^ 32)
      ⟨fun fits _ _ _ same => by cases same; exact fits, fun fits => fits _ _ _ rfl⟩
  | .start _ | .committing _ _ _ _ | .finished _ _ | .elsewhere _ =>
      .isTrue fun _ _ _ same => by cases same

section Steps

variable {start db : Db}

/-- A failure before the commit is not a violated key. -/
theorem failed_early {ctx : CoreCtx} {input : IssueInvoiceInput} {stop : Stop CoreError}
    {α : Type} (untouched : Untouched start db ctx input)
    (free : SchemaFree (.error stop : CoreResult α)) :
    Racing start db (.finished (.issue ctx input) (.error (stop.map ApiError.core))) := by
  refine .failed untouched.kept ?_
  intro e same
  cases stop with
  | panic => cases same
  | error e' =>
    cases same
    exact Or.inl (free e rfl)

theorem Untouched.apply {ctx ctx' : CoreCtx} {input input' : IssueInvoiceInput}
    {ready : IssueReady} {blobRef : Option String} {count : ℕ}
    (untouched : Untouched start db ctx' input')
    (prepared' : prepareIssue ctx input start = .ok ready)
    (other : input'.invoiceId ≠ input.invoiceId)
    (otherId : ctx.newHistoryId ≠ ctx'.newHistoryId) :
    Untouched start ((issueTx ctx input ready count blobRef).apply db) ctx' input' where
  kept := untouched.kept.apply prepared' other
  history := by
    intro row member
    rcases List.mem_append.mp (show row ∈ db.history ++ _ from member) with before | new
    · exact untouched.history row before
    · rw [List.mem_singleton.mp new]
      exact otherId
  year := untouched.year
  calm := untouched.calm

/-- **A commit leaves its rivals where they stand.** -/
theorem Racing.apply {ctx : CoreCtx} {input : IssueInvoiceInput} {ready : IssueReady}
    {blobRef : Option String} {count : ℕ} {other : Run} (unissued : StartUnissued start)
    (untouched : Untouched start db ctx input)
    (prepared' : prepareIssue ctx input start = .ok ready) (racing : Racing start db other)
    (rivals : ∀ ctx' input', other.request? = some (.issue ctx' input') →
      input.invoiceId ≠ input'.invoiceId ∧ ctx.newHistoryId ≠ ctx'.newHistoryId) :
    Racing start ((issueTx ctx input ready count blobRef).apply db) other := by
  cases racing with
  | start untouched' =>
    obtain ⟨invoice, history⟩ := rivals _ _ rfl
    exact .start (untouched'.apply prepared' (Ne.symm invoice) history)
  | counting untouched' prepared'' =>
    obtain ⟨invoice, history⟩ := rivals _ _ rfl
    exact .counting (untouched'.apply prepared' (Ne.symm invoice) history) prepared''
  | committing untouched' prepared'' named stale =>
    obtain ⟨invoice, history⟩ := rivals _ _ rfl
    exact .committing (untouched'.apply prepared' (Ne.symm invoice) history) prepared'' named
      (stale.trans (issuedCount_apply unissued untouched prepared' _))
  | failed kept why =>
    obtain ⟨invoice, _⟩ := rivals _ _ rfl
    exact .failed (kept.apply prepared' (Ne.symm invoice)) why
  | issued => exact .issued

/-- **Each step of an issue**: the tables stay, or its commit goes through with a free number. -/
theorem racing_step (tables : Tables start db) {run : Run}
    (racing : Racing start db run) (fits : CountsFit db run) :
    Racing start (advance run db).2 (advance run db).1 ∧
      ((advance run db).2 = db ∨
        ∃ ctx input ready count seen blobRef,
          run.request? = some (.issue ctx input) ∧ Untouched start db ctx input ∧
          prepareIssue ctx input start = .ok ready ∧ nextSequence count = seen + 1 ∧
          seen ≤ issuedCount db ctx.now.year ∧
          ¬ Db.Clashes Invoice.id Invoice.number db.invoices
            (issueTx ctx input ready count blobRef).invoice ∧
          (advance run db).2 = (issueTx ctx input ready count blobRef).apply db) := by
  cases racing with
  | @start ctx input untouched =>
    refine ⟨?_, Or.inl rfl⟩
    show Racing start db (Request.load (.issue ctx input) db)
    simp only [Request.load]
    have same := prepareIssue_congr ctx untouched.kept tables.customers
    cases done : prepareIssue ctx input db with
    | error stop =>
      have free := schemaFree_prepareIssue ctx input db
      rw [done] at free
      exact failed_early untouched free
    | ok ready =>
      rw [same] at done
      exact .counting untouched done
  | @counting ctx input ready untouched prepared' =>
    refine ⟨?_, Or.inl rfl⟩
    show Racing start db (prepared _ _ _)
    have named := tables.nextSequence untouched.year (fits ctx input ready rfl)
    cases done : finishIssue ctx input ready (countInvoicesIssuedInYear db ctx.now.year) with
    | error stop =>
      have free := schemaFree_finishIssue ctx input ready (countInvoicesIssuedInYear db ctx.now.year)
      rw [done] at free
      exact failed_early untouched free
    | ok result =>
      obtain ⟨blobRef, html, pdf, rfl⟩ := finishIssue_write done
      exact .committing untouched prepared' named le_rfl
  | @committing ctx input ready count seen blobRef reply untouched prepared' named stale =>
    by_cases clash : Db.Clashes Invoice.id Invoice.number db.invoices
        (issueTx ctx input ready count blobRef).invoice
    · have refused := InvoiceTx.commit_of_clash clash
      simp only [advance, refused]
      refine ⟨.failed untouched.kept ?_, Or.inl trivial⟩
      intro e same
      cases same
      exact Or.inr ⟨rfl, ready, prepared'⟩
    · have committed := InvoiceTx.commit_of_admissible
        (issue_admissible tables untouched prepared' clash)
      simp only [advance, committed]
      exact ⟨.issued, Or.inr ⟨ctx, input, ready, count, seen, blobRef, rfl, untouched, prepared',
        named, stale, clash, rfl⟩⟩
  | failed kept why => exact ⟨.failed kept why, Or.inl rfl⟩
  | issued => exact ⟨.issued, Or.inl rfl⟩

/-- What holds of the tables and the runs of a race. -/
theorem race_rules (unissued : StartUnissued start) :
    Rules advance CountsFit (Tables start) (Racing start) Rivals where
  store := by
    intro db run tables racing fits
    rcases (racing_step tables racing fits).2 with same | ⟨ctx, input, ready, count, seen,
      blobRef, _, untouched, prepared', named, stale, free, after⟩
    · rw [same]
      exact tables
    · rw [after]
      exact tables_issue unissued tables untouched prepared' named stale free
  own := fun db run tables racing fits => (racing_step tables racing fits).1
  others := by
    intro db run other tables racing otherRacing rivals fits
    rcases (racing_step tables racing fits).2 with same | ⟨ctx, input, ready, count, seen,
      blobRef, request, untouched, prepared', _, _, _, after⟩
    · rw [same]
      exact otherRacing
    · rw [after]
      exact otherRacing.apply unissued untouched prepared'
        fun ctx' input' request' => rivals ctx input ctx' input' request request'
  apart := by
    intro db run other _ _ _ rivals _ ctx input ctx' input' request request'
    rw [advance_request] at request
    exact rivals ctx input ctx' input' request request'
  symm := by
    intro run other rivals ctx input ctx' input' request request'
    obtain ⟨invoice, history⟩ := rivals ctx' input' ctx input request' request
    exact ⟨Ne.symm invoice, Ne.symm history⟩

/-- A draft that is as at the beginning is issued by a call alone, if its renderers answer and the
number it draws is free. -/
theorem issue_through (tables : Tables start db) {ctx : CoreCtx} {input : IssueInvoiceInput}
    {ready : IssueReady} (untouched : Untouched start db ctx input)
    (prepared' : prepareIssue ctx input start = .ok ready) (renders : ctx.Renders)
    (free : ∀ inv ∈ db.invoices, inv.number ≠ some (invoiceNumber ctx.now.year
      (nextSequence (countInvoicesIssuedInYear db ctx.now.year)))) :
    ∃ output blobRef, issueInvoice ctx input db = (.ok output,
      (issueTx ctx input ready (countInvoicesIssuedInYear db ctx.now.year) blobRef).apply db) := by
  have same := prepareIssue_congr ctx untouched.kept tables.customers
  obtain ⟨result, done⟩ := finishIssue_renders renders input ready
    (countInvoicesIssuedInYear db ctx.now.year)
  obtain ⟨blobRef, html, pdf, rfl⟩ := finishIssue_write done
  have unclashed : ¬ Db.Clashes Invoice.id Invoice.number db.invoices
      (issueTx ctx input ready (countInvoicesIssuedInYear db ctx.now.year) blobRef).invoice := by
    rintro ⟨other, inTable, _, _, taken⟩
    exact free other inTable taken
  have committed := InvoiceTx.commit_of_admissible
    (issue_admissible tables untouched prepared' unclashed)
  refine ⟨⟨(issueTx ctx input ready (countInvoicesIssuedInYear db ctx.now.year) blobRef).invoice,
    ready.lines, html, pdf⟩, blobRef, ?_⟩
  unfold issueInvoice
  rw [same, prepared']
  show perform (finishIssue ctx input ready _) db = _
  rw [done]
  simp only [perform, Prepared.finish, committed]

/-- **A retry alone succeeds.** -/
theorem issue_alone (tables : Tables start db) {ctx : CoreCtx} {input : IssueInvoiceInput}
    {ready : IssueReady} (untouched : Untouched start db ctx input)
    (prepared' : prepareIssue ctx input start = .ok ready) (renders : ctx.Renders)
    (fits : issuedCount db ctx.now.year + 1 < 2 ^ 32) :
    ∃ output, (issueInvoice ctx input db).1 = .ok output := by
  obtain ⟨log, gapless⟩ := tables.gapless
  have next := tables.nextSequence untouched.year fits
  rw [issuedCount_eq gapless] at next
  obtain ⟨output, blobRef, done⟩ := issue_through tables untouched prepared' renders (by
    rw [next]
    exact gapless.next_free untouched.year)
  exact ⟨output, by rw [done]⟩

end Steps

/-! ### Races -/

/-- Issues of different drafts that all begin. -/
structure Race (pool : Pool Db Run) : Prop where
  issues : ∀ run ∈ pool.runs, ∃ ctx input, run = .start (.issue ctx input) ∧
    CoveredYear ctx.now.year ∧ ¬ ctx.now.InFirstSecond ∧
    ∀ row ∈ pool.store.history, row.id ≠ ctx.newHistoryId
  rivals : ∀ (i j : ℕ) run other, i ≠ j → pool.runs[i]? = some run → pool.runs[j]? = some other →
    Rivals run other
  tables : Tables pool.store pool.store
  unissued : StartUnissued pool.store

/-- A call that can be retried in some tables, at any later time: in a year with room for its number, with
a history id that was not drawn before. -/
structure Retry (db : Db) (retry : CoreCtx) : Prop where
  year : CoveredYear retry.now.year
  calm : ¬ retry.now.InFirstSecond
  room : issuedCount db retry.now.year + 1 < 2 ^ 32
  renders : retry.Renders
  fresh : ∀ row ∈ db.history, row.id ≠ retry.newHistoryId

/-- What a race leaves at a moment: the numbers of each year are `1 … k`; an issue that failed has
changed nothing; and if the schema refused it, it was for its number, and a retry alone succeeds: on the
same day, and on every day on which its sums do not overflow. -/
structure LeavesNoGap (start : Db) (pool : Pool Db Run) : Prop where
  numbers : ∀ year, CoveredYear year → ∃ k, NumbersAre pool.store year k
  kept : ∀ run ∈ pool.runs, ∀ ctx input stop,
    run = .finished (.issue ctx input) (.error stop) → Kept start pool.store input.invoiceId
  refused : ∀ run ∈ pool.runs, ∀ ctx input e,
    run = .finished (.issue ctx input) (.error (.error (.core (.repo e)))) →
    (∀ message, e ≠ .blob message) →
    e = .unique "invoices.number" ∧
      ∀ retry, Retry pool.store retry →
        SameWorld ctx retry ∨ prepareIssue retry input pool.store ≠ .error .panic →
        ∃ output, (issueInvoice retry input pool.store).1 = .ok output

/-- **Races on numbers leave no gap**, at any moment of any order of steps in which each count finds
fewer than `2 ^ 32 - 1` invoices issued in its year. -/
theorem races_leave_no_gap {pool : Pool Db Run} (race : Race pool) {order : List ℕ}
    (fits : AllTurns advance CountsFit pool order) (n : ℕ) :
    LeavesNoGap pool.store (pool.exec advance (order.take n)) := by
  have start : Holds (Tables pool.store) (Racing pool.store) Rivals pool := by
    refine ⟨race.tables, ?_, race.rivals⟩
    intro i run found
    obtain ⟨ctx, input, rfl, year, calm, fresh⟩ := race.issues run (List.mem_of_getElem? found)
    exact .start ⟨Kept.refl _ _, fresh, year, calm⟩
  have now := (race_rules race.unissued).holds_exec start (fits.take n)
  have racing : ∀ run ∈ (pool.exec advance (order.take n)).runs,
      Racing pool.store (pool.exec advance (order.take n)).store run := by
    intro run member
    obtain ⟨i, there⟩ := List.mem_iff_getElem?.mp member
    exact now.runs i run there
  refine ⟨fun year covered => now.store.numbersAre covered, ?_, ?_⟩
  · rintro run member ctx input stop rfl
    cases racing _ member with
    | failed kept why => exact kept
  · rintro run member ctx input e rfl notBlob
    cases racing _ member with
    | failed kept why =>
      rcases why e rfl with ⟨message, blob⟩ | ⟨unique, ready, prepared'⟩
      · exact absurd blob (notBlob message)
      · refine ⟨unique, ?_⟩
        intro retry possible alike
        -- the draft is as it was, so only an overflow stops the retry
        have same := prepareIssue_congr retry kept now.store.customers
        have again : ∃ ready, prepareIssue retry input pool.store = .ok ready := by
          rcases alike with world | fits
          · exact ⟨ready, (prepareIssue_sameWorld world input pool.store).trans prepared'⟩
          · rw [same] at fits
            exact (onlyPanics_prepareIssue prepared' retry).ok_of_ne fits
        obtain ⟨ready', prepared''⟩ := again
        exact issue_alone now.store ⟨kept, possible.fresh, possible.year, possible.calm⟩ prepared''
          possible.renders possible.room

/-! ### The end of the numbers -/

/-- A draft. -/
def crowdedDraft (i : ℕ) : Invoice :=
  draftRow (sampleCtx (oneOClock firstOfMarch) i) sampleDraft Decimal.zero

/-- An invoice issued in 2025. -/
def crowdedInvoice (i : ℕ) : Invoice :=
  { crowdedDraft (i + 2) with
    state := .issued
    number := some (invoiceNumber 2025 (i + 1))
    issuedAt := some (oneOClock firstOfMarch) }

def crowdedInvoices (n : ℕ) : List Invoice :=
  crowdedDraft 1 :: crowdedDraft 0 :: (List.range n).map crowdedInvoice

def crowdedLog (n : ℕ) : List (InvoiceId × ℤ) :=
  (List.range n).map fun i => ((crowdedInvoice i).id, 2025)

/-- `n` invoices issued, and two drafts to issue. -/
def crowded (n : ℕ) : Pool Db Run where
  store := { sampleDb with invoices := crowdedInvoices n }
  runs :=
    [.start (.issue (sampleCtx (oneOClock firstOfMarch) 2) sampleIssue),
      .start (.issue (sampleCtx (oneOClock firstOfMarch) 3) { sampleIssue with invoiceId := ⟨0⟩ })]

theorem mem_crowdedInvoices {n : ℕ} {inv : Invoice} (member : inv ∈ crowdedInvoices n) :
    inv = crowdedDraft 1 ∨ inv = crowdedDraft 0 ∨ ∃ i < n, inv = crowdedInvoice i := by
  rcases List.mem_cons.mp member with rfl | member
  · exact Or.inl rfl
  rcases List.mem_cons.mp member with rfl | issued
  · exact Or.inr (Or.inl rfl)
  · obtain ⟨i, inside, rfl⟩ := List.mem_map.mp issued
    exact Or.inr (Or.inr ⟨i, List.mem_range.mp inside, rfl⟩)

/-- The ids drawn differ. -/
theorem crowded_fresh {n : ℕ} (bound : n + 2 < 2 ^ 128) :
    find Invoice.id (crowdedInvoices n) (crowdedInvoice n).id = none := by
  have different : ∀ i < n + 2, (⟨BitVec.ofNat 128 i⟩ : InvoiceId) ≠ ⟨BitVec.ofNat 128 (n + 2)⟩ := by
    intro i less same
    have numbers := congrArg BitVec.toNat (congrArg EntityId.uuid same)
    rw [BitVec.toNat_ofNat, BitVec.toNat_ofNat, Nat.mod_eq_of_lt (by omega),
      Nat.mod_eq_of_lt bound] at numbers
    omega
  refine find_eq_none.mpr ?_
  intro inv member
  rcases mem_crowdedInvoices member with rfl | rfl | ⟨i, less, rfl⟩
  · exact different 1 (by omega)
  · exact different 0 (by omega)
  · exact different (i + 2) (by omega)

theorem length_crowdedLog (n : ℕ) : (entriesOf (crowdedLog n) (2025 : ℤ)).length = n := by
  simp [entriesOf, crowdedLog, List.filter_map, Function.comp_def]

theorem crowded_gapless (n : ℕ) (bound : n + 2 < 2 ^ 128) :
    Gapless invoiceNumbering (crowdedInvoices n) (crowdedLog n) := by
  induction n with
  | zero =>
    exact ((Gapless.nil invoiceNumbering).keep (crowdedDraft 1) rfl rfl).keep (crowdedDraft 0) rfl rfl
  | succ n ih =>
    have fresh := crowded_fresh (show n + 2 < 2 ^ 128 by omega)
    have rows : crowdedInvoices (n + 1) = crowdedInvoices n ++ [crowdedInvoice n] := by
      unfold crowdedInvoices
      rw [List.range_succ, List.map_append]
      rfl
    have table : invoiceNumbering.save (crowdedInvoices n) (crowdedInvoice n) =
        crowdedInvoices (n + 1) := (upsert_of_fresh fresh).trans rows.symm
    have log : crowdedLog (n + 1) = crowdedLog n ++ [((crowdedInvoice n).id, 2025)] := by
      rw [crowdedLog, List.range_succ, List.map_append]
      rfl
    rw [← table, log]
    refine (ih (by omega)).issue (crowdedInvoice n) ?_ rfl (show CoveredYear 2025 by decide) ?_
    · intro before there
      have none' : find Invoice.id (crowdedInvoices n) (crowdedInvoice n).id = some before := there
      rw [fresh] at none'
      cases none'
    · rw [length_crowdedLog]
      rfl

theorem crowded_tables (n : ℕ) (bound : n + 2 < 2 ^ 128) :
    Tables (crowded n).store (crowded n).store := by
  have gapless := crowded_gapless n bound
  refine ⟨⟨crowdedLog n, gapless⟩, rfl, ⟨gapless.distinct, ?_⟩, ?_, ?_⟩
  · intro inv member other _ keyed
    rcases mem_crowdedInvoices member with rfl | rfl | ⟨i, _, rfl⟩
    · exact absurd rfl keyed
    · exact absurd rfl keyed
    · exact absurd rfl keyed
  · exact ⟨List.nodup_nil, List.nodup_nil⟩
  · intro inv member time issued
    rcases mem_crowdedInvoices member with rfl | rfl | ⟨i, _, rfl⟩
    · cases issued
    · cases issued
    · cases issued
      decide

theorem crowded_race (n : ℕ) (bound : n + 2 < 2 ^ 128) : Race (crowded n) := by
  refine ⟨?_, ?_, crowded_tables n bound, ?_⟩
  · intro run member
    simp only [crowded, List.mem_cons, List.not_mem_nil, or_false] at member
    rcases member with rfl | rfl
    · exact ⟨_, _, rfl, by decide, by decide, fun _ absent => by cases absent⟩
    · exact ⟨_, _, rfl, by decide, by decide, fun _ absent => by cases absent⟩
  · intro i j run other different found found'
    obtain ⟨inside, rfl⟩ := List.getElem?_eq_some_iff.mp found
    obtain ⟨inside', rfl⟩ := List.getElem?_eq_some_iff.mp found'
    have two : (crowded n).runs.length = 2 := rfl
    have order : (i = 0 ∧ j = 1) ∨ (i = 1 ∧ j = 0) := by omega
    rcases order with ⟨rfl, rfl⟩ | ⟨rfl, rfl⟩
    · intro ctx input ctx' input' same same'
      cases same
      cases same'
      decide
    · intro ctx input ctx' input' same same'
      cases same
      cases same'
      decide
  · intro id inv found draft
    rcases mem_crowdedInvoices (mem_of_find found) with rfl | rfl | ⟨i, _, rfl⟩
    · rfl
    · rfl
    · cases draft

/-- With `2 ^ 32 - 1` invoices issued in the year, the next one gets the number `0`. -/
theorem crowded_wraps {n : ℕ} (full : n + 1 = 2 ^ 32) :
    Race (crowded n) ∧ ¬ LeavesNoGap (crowded n).store ((crowded n).exec advance [0, 0, 0]) := by
  have bound : n + 2 < 2 ^ 128 := by omega
  have race := crowded_race n bound
  have tables := race.tables
  have prepared' : ∃ ready, prepareIssue (sampleCtx (oneOClock firstOfMarch) 2) sampleIssue
      (crowded n).store = .ok ready := ⟨_, rfl⟩
  obtain ⟨ready, prepared'⟩ := prepared'
  have count : issuedCount (crowded n).store 2025 = n := by
    rw [issuedCount_eq (crowded_gapless n bound), length_crowdedLog]
  have zero : nextSequence (countInvoicesIssuedInYear (crowded n).store 2025) = 0 := by
    unfold countInvoicesIssuedInYear
    rw [tables.countIssued (by decide), count]
    unfold nextSequence wrapU32
    omega
  have untouched : Untouched (crowded n).store (crowded n).store
      (sampleCtx (oneOClock firstOfMarch) 2) sampleIssue :=
    ⟨Kept.refl _ _, fun _ absent => (by cases absent), by decide, by decide⟩
  have renders : (sampleCtx (oneOClock firstOfMarch) 2).Renders :=
    ⟨fun _ _ _ _ => ⟨_, rfl⟩, fun _ => ⟨_, rfl⟩, fun _ absent => (by cases absent)⟩
  obtain ⟨output, blobRef, done⟩ := issue_through tables untouched prepared' renders (by
    intro inv member taken
    have year : (sampleCtx (oneOClock firstOfMarch) 2).now.year = 2025 := rfl
    rw [year, zero] at taken
    have bounds := ((crowded_gapless n bound).taken_iff (show CoveredYear 2025 by decide) 0).mp
      ⟨inv, member, taken⟩
    omega)
  have after : ((crowded n).exec advance [0, 0, 0]).store =
      (issueInvoice (sampleCtx (oneOClock firstOfMarch) 2) sampleIssue (crowded n).store).2 :=
    congrArg Prod.snd (solo_execute
      (.issue (sampleCtx (oneOClock firstOfMarch) 2) sampleIssue) (crowded n).store)
  rw [done] at after
  refine ⟨race, ?_⟩
  intro leaves
  obtain ⟨k, numbers⟩ := leaves.numbers 2025 (by decide)
  have member := mem_of_find (find_upsert_self Invoice.keepsKey (crowded n).store.invoices
    (issueTx (sampleCtx (oneOClock firstOfMarch) 2) sampleIssue ready
      (countInvoicesIssuedInYear (crowded n).store 2025) blobRef).invoice)
  have bounds := (numbers.first 0).mp ⟨_, by rw [after]; exact member, by
    rw [← zero]
    exact invoiceNumbering.merged_number _ _⟩
  omega

/-- **The sequence number wraps** after `2 ^ 32 - 1` invoices of a year. -/
theorem sequence_wraps :
    Race (crowded (2 ^ 32 - 1)) ∧ ¬ LeavesNoGap (crowded (2 ^ 32 - 1)).store
      ((crowded (2 ^ 32 - 1)).exec advance [0, 0, 0]) := crowded_wraps (by norm_num)

/-- Both issues load and count before either commits; the second is refused. -/
theorem races_leave_no_gap_of_two :
    LeavesNoGap (crowded 1).store
      ((crowded 1).exec advance (([0, 1, 0, 1, 0, 1] : List ℕ).take 6)) :=
  races_leave_no_gap (crowded_race 1 (by norm_num)) (by decide +kernel) 6

end Invoicing
