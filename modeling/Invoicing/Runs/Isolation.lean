/-
**A failing schedule and the others of its tick.**

* `Db.without` — the tables without a schedule. **`schedulesTick_without`** — a tick there runs the
  other due schedules in the same order, with the same effect on everything else.
* `SameRun` — a schedule's row and the invoice of its run, with lines and history, are the same.
* `StepFails` — the draft or the issue step of a run returns an error. `FailsAtOnce` — a run that
  fails before it writes anything.
* **`isolated_iff_last`** — the other schedules fare as if the failing one were absent exactly when the
  next due one, if there is one, fails at once too. **`march_unbilled`** — a schedule in euros keeps the
  one behind it from being billed.
-/

import Invoicing.Runs.Recovery

namespace Invoicing

open Chrono KeyedTable

/-! ### Tables with other schedules -/

/-- The same tables with other schedules. -/
def Db.withSchedules (db : Db) (rows : List Schedule) : Db := { db with schedules := rows }

/-- A result with the tables it left, with other schedules in them. -/
def onSchedules {α : Type} (rows : List Schedule) (result : CoreResult α × Db) : CoreResult α × Db :=
  (result.1, result.2.withSchedules rows)

/-- Two checks of one condition fail alike. -/
theorem guarded_map {ε α β : Type} {c c' : Prop} [Decidable c] [Decidable c'] {e : ε}
    {first : Except ε β} {second : Except ε α} {f : α → β} (same : c ↔ c')
    (rest : first = second.map f) :
    (if c then .error e else first) = (if c' then .error e else second).map f := by
  by_cases holds : c'
  · rw [if_pos holds, if_pos (same.mpr holds)]
    rfl
  · rw [if_neg holds, if_neg (same.not.mpr holds)]
    exact rest

theorem insertLines_withSchedules (lines : List InvoiceLine) (db : Db) (rows : List Schedule) :
    lines.foldlM Db.insertLine (db.withSchedules rows) =
      (lines.foldlM Db.insertLine db).map fun after => after.withSchedules rows := by
  induction lines generalizing db with
  | nil => rfl
  | cons line rest ih =>
    have one : (db.withSchedules rows).insertLine line =
        (db.insertLine line).map fun after => after.withSchedules rows :=
      guarded_map Iff.rfl (guarded_map Iff.rfl (guarded_map Iff.rfl rfl))
    rw [List.foldlM_cons, List.foldlM_cons, one]
    cases db.insertLine line with
    | error e => rfl
    | ok after => exact ih after

/-- No statement of an invoice transaction reads the schedules. -/
theorem InvoiceTx.commit_withSchedules (tx : InvoiceTx) (db : Db) (rows : List Schedule) :
    tx.commit (db.withSchedules rows) =
      (tx.commit db).map fun after => after.withSchedules rows := by
  have saved : (db.withSchedules rows).saveInvoice tx.invoice =
      (db.saveInvoice tx.invoice).map fun after => after.withSchedules rows :=
    guarded_map Iff.rfl (guarded_map Iff.rfl (guarded_map Iff.rfl rfl))
  have written : ∀ db : Db, (db.withSchedules rows).writeLines tx.invoice.id tx.lines =
      (db.writeLines tx.invoice.id tx.lines).map fun after => after.withSchedules rows := by
    intro db
    cases tx.lines with
    | none => rfl
    | some lines =>
      let kept := db.lines.filter fun line => decide (line.invoiceId ≠ tx.invoice.id)
      exact insertLines_withSchedules lines { db with lines := kept } rows
  have inserted : ∀ db : Db, (db.withSchedules rows).insertHistory tx.history =
      (db.insertHistory tx.history).map fun after => after.withSchedules rows :=
    fun db => guarded_map Iff.rfl (guarded_map Iff.rfl rfl)
  have recorded : ∀ db : Db, (db.withSchedules rows).writeSendKey tx.sendKey =
      (db.writeSendKey tx.sendKey).map fun after => after.withSchedules rows := by
    intro db
    cases tx.sendKey with
    | none => rfl
    | some record => exact guarded_map Iff.rfl (guarded_map Iff.rfl rfl)
  unfold InvoiceTx.commit
  rw [saved]
  cases db.saveInvoice tx.invoice with
  | error e => rfl
  | ok first =>
    show ((first.withSchedules rows).writeLines _ _ >>= _) = Except.map _ (first.writeLines _ _ >>= _)
    rw [written]
    cases first.writeLines tx.invoice.id tx.lines with
    | error e => rfl
    | ok second =>
      show ((second.withSchedules rows).insertHistory _ >>= _) =
        Except.map _ (second.insertHistory _ >>= _)
      rw [inserted]
      cases second.insertHistory tx.history with
      | error e => rfl
      | ok third => exact recorded third

/-- A command whose preparation reads no schedules. -/
theorem perform_withSchedules {α : Type} (prepared : CoreResult (Prepared α)) (db : Db)
    (rows : List Schedule) :
    perform prepared (db.withSchedules rows) = onSchedules rows (perform prepared db) := by
  cases prepared with
  | error e => rfl
  | ok done =>
    cases done with
    | answer output => rfl
    | write loaded tx output =>
      simp only [perform, Prepared.finish, InvoiceTx.commit_withSchedules]
      cases tx.commit db with
      | error e => rfl
      | ok after => rfl

/-! ### A tick without a schedule -/

/-- The tables without a schedule. -/
def Db.without (db : Db) (id : ScheduleId) : Db :=
  db.withSchedules (db.schedules.filter fun row => decide (row.id ≠ id))

/-- A result with the tables it left, without a schedule. -/
def resultWithout {α : Type} (id : ScheduleId) (result : CoreResult α × Db) : CoreResult α × Db :=
  (result.1, result.2.without id)

theorem getSchedule_without (db : Db) {id out : ScheduleId} (other : id ≠ out) :
    (db.without out).getSchedule id = db.getSchedule id :=
  find_filter_other db.schedules other

theorem onSchedules_without {α : Type} {result : CoreResult α × Db} {db : Db} (id : ScheduleId)
    (same : result.2.schedules = db.schedules) :
    onSchedules (db.schedules.filter fun row => decide (row.id ≠ id)) result =
      resultWithout id result := by
  unfold onSchedules resultWithout Db.without
  rw [same]

theorem draftStep_without (ctx : TickCtx) (schedule : Schedule) (db : Db) (id : ScheduleId) :
    draftStep ctx schedule (db.without id) = resultWithout id (draftStep ctx schedule db) := by
  rw [← onSchedules_without id (draftStep_leaves ctx schedule db).2]
  exact perform_withSchedules (prepareDraft (ctx.draft schedule.id) schedule.draftInput db) db _

theorem issueStep_without (ctx : TickCtx) (schedule : Schedule) (output : DraftInvoiceOutput)
    (db : Db) (id : ScheduleId) :
    issueStep ctx schedule output (db.without id) =
      resultWithout id (issueStep ctx schedule output db) := by
  have issue : issueInvoice (ctx.issue schedule.id) (tickIssueInput output.invoice.id) (db.without id) =
      onSchedules (db.schedules.filter fun row => decide (row.id ≠ id))
        (issueInvoice (ctx.issue schedule.id) (tickIssueInput output.invoice.id) db) :=
    perform_withSchedules _ db _
  rw [← onSchedules_without id (issueStep_leaves ctx schedule output db).2]
  unfold issueStep
  rw [issue]
  split
  · cases issueInvoice (ctx.issue schedule.id) (tickIssueInput output.invoice.id) db with
    | mk result after => cases result <;> rfl
  · rfl

theorem advanceStep_without (ctx : TickCtx) {schedule : Schedule} (db : Db) {id : ScheduleId}
    (other : schedule.id ≠ id) :
    advanceStep ctx schedule (db.without id) = resultWithout id (advanceStep ctx schedule db) := by
  unfold advanceStep
  cases schedule.cadence.advance schedule.nextRun with
  | none => rfl
  | some next =>
    show saveRow (schedule.advanced next ctx.now) () (db.without id) = _
    have put : (db.without id).putSchedule (schedule.advanced next ctx.now) =
        (db.putSchedule (schedule.advanced next ctx.now)).without id := by
      unfold Db.without Db.withSchedules Db.putSchedule
      rw [filter_upsert_other Schedule.keepsKey db.schedules
        (show (schedule.advanced next ctx.now).id ≠ id from other)]
    have saved : (db.without id).saveSchedule (schedule.advanced next ctx.now) =
        (db.saveSchedule (schedule.advanced next ctx.now)).map fun after => after.without id :=
      guarded_map Iff.rfl (congrArg Except.ok put)
    show _ = resultWithout id (saveRow (schedule.advanced next ctx.now) () db)
    unfold saveRow
    rw [saved]
    cases db.saveSchedule (schedule.advanced next ctx.now) <;> rfl

theorem materialise_without (ctx : TickCtx) {schedule : Schedule} (db : Db) {id : ScheduleId}
    (other : schedule.id ≠ id) :
    materialise ctx schedule (db.without id) = resultWithout id (materialise ctx schedule db) := by
  unfold materialise
  rw [draftStep_without]
  cases draftStep ctx schedule db with
  | mk result first =>
    cases result with
    | error stop => rfl
    | ok drafted =>
      show andThen (issueStep ctx schedule drafted (first.without id)) _ =
        resultWithout id (andThen (issueStep ctx schedule drafted first) _)
      rw [issueStep_without]
      cases issueStep ctx schedule drafted first with
      | mk result second =>
        cases result with
        | error stop => rfl
        | ok _ =>
          show andThen (advanceStep ctx schedule (second.without id)) _ =
            resultWithout id (andThen (advanceStep ctx schedule second) _)
          rw [advanceStep_without ctx second other]
          cases advanceStep ctx schedule second with
          | mk result third => cases result <;> rfl

/-- **The loop over other schedules does the same without a schedule.** -/
theorem tickLoop_without (ctx : TickCtx) {rows : List Schedule} {id : ScheduleId}
    (others : ∀ row ∈ rows, row.id ≠ id) (done : SchedulesTickOutput) (db : Db) :
    tickLoop ctx rows done (db.without id) = resultWithout id (tickLoop ctx rows done db) := by
  induction rows generalizing done db with
  | nil => rfl
  | cons schedule rest ih =>
    have inRest := fun row member => others row (List.mem_cons_of_mem _ member)
    rw [tickLoop, tickLoop]
    split
    · exact ih inRest done db
    · rw [materialise_without ctx db (others schedule List.mem_cons_self)]
      cases materialise ctx schedule db with
      | mk result after =>
        cases result with
        | error stop => rfl
        | ok drafted => exact ih inRest _ after

/-- The due schedules, in their order, without one of them. -/
theorem dueSchedules_without (db : Db) (id : ScheduleId) (cutoff : NaiveDate) :
    (db.without id).dueSchedules cutoff =
      (db.dueSchedules cutoff).filter fun row => decide (row.id ≠ id) := by
  have total : Std.Total fun first second : Schedule => first.nextRun.text ≤ second.nextRun.text :=
    ⟨fun first second => le_total first.nextRun.text second.nextRun.text⟩
  have transitive : IsTrans Schedule fun first second => first.nextRun.text ≤ second.nextRun.text :=
    ⟨fun _ _ _ => le_trans⟩
  unfold Db.dueSchedules
  rw [filter_insertionSort]
  congr 1
  show ((db.schedules.filter _).filter _) = _
  rw [List.filter_comm]

section Split

variable {ctx : TickCtx} {db reached : Db} {done : SchedulesTickOutput}

/-- The schedules of a tick that another one has the loop go through are others. -/
theorem others_of_split {schedule : Schedule} {ahead behind : List Schedule} (sound : db.Sound)
    (split : db.dueSchedules ctx.today = ahead ++ schedule :: behind) :
    ∀ row ∈ ahead ++ behind, row.id ≠ schedule.id := by
  have distinct := dueSchedules_distinct sound ctx.today
  unfold Distinct at distinct
  rw [split, List.map_append, List.map_cons] at distinct
  obtain ⟨notThere, _⟩ := List.nodup_cons.mp (List.perm_middle.nodup_iff.mp distinct)
  intro row member same
  refine notThere ?_
  rw [← List.map_append, ← same]
  exact List.mem_map_of_mem member

/-- **A tick without a schedule** runs the others, with the same effect on everything else. -/
theorem schedulesTick_without {schedule : Schedule} {ahead behind : List Schedule}
    (sound : db.Sound) (split : db.dueSchedules ctx.today = ahead ++ schedule :: behind)
    (loop : tickLoop ctx ahead ⟨[], []⟩ db = (.ok done, reached)) :
    schedulesTick ctx (db.without schedule.id) =
      resultWithout schedule.id (tickLoop ctx behind done reached) := by
  have others := others_of_split sound split
  have due : (db.without schedule.id).dueSchedules ctx.today = ahead ++ behind := by
    rw [dueSchedules_without, split, List.filter_append, List.filter_cons_of_neg (by simp),
      ← List.filter_append]
    exact List.filter_eq_self.mpr fun row member => decide_eq_true (others row member)
  unfold schedulesTick
  rw [due, tickLoop_without ctx others, tickLoop_append, loop]
  rfl

/-- The rows of the schedules a tick has not come to are as they were. -/
theorem row_of_split {ahead behind : List Schedule} (sound : db.Sound)
    (split : db.dueSchedules ctx.today = ahead ++ behind)
    (draws : DrawsFresh ctx (db.dueSchedules ctx.today) db)
    (loop : tickLoop ctx ahead ⟨[], []⟩ db = (.ok done, reached)) :
    ∀ row ∈ behind, reached.getSchedule row.id = some row := by
  intro row member
  have due : row ∈ db.dueSchedules ctx.today := by
    rw [split]
    exact List.mem_append_right _ member
  have distinct := dueSchedules_distinct sound ctx.today
  unfold Distinct at distinct
  rw [split, List.map_append] at distinct
  obtain ⟨_, _, apart⟩ := List.nodup_append.mp distinct
  rw [split] at draws
  have frame := tickLoop_frame ⟨[], []⟩ sound (draws.behind sound ⟨[], []⟩).1
  rw [loop] at frame
  have earlier : ∀ other ∈ ahead, other.id ≠ row.id := fun other there =>
    apart _ (List.mem_map_of_mem there) _ (List.mem_map_of_mem member)
  rw [frame.rows _ earlier]
  exact getSchedule_of_due sound due

end Split

/-! ### What the others come to -/

/-- A schedule's row, and the invoice of its run with its lines and history, are the same. -/
structure SameRun (schedule : Schedule) (first second : Db) : Prop where
  row : first.getSchedule schedule.id = second.getSchedule schedule.id
  invoice : first.findByIdempotencyKey schedule.runKey = second.findByIdempotencyKey schedule.runKey
  lines : ∀ inv, first.findByIdempotencyKey schedule.runKey = some inv →
    first.linesOf inv.id = second.linesOf inv.id
  history : ∀ inv, first.findByIdempotencyKey schedule.runKey = some inv →
    first.historyOf inv.id = second.historyOf inv.id

theorem SameRun.of_stays {schedule : Schedule} {reached first second : Db}
    (one : KeyStays schedule.runKey reached first) (two : KeyStays schedule.runKey reached second)
    (row : first.getSchedule schedule.id = second.getSchedule schedule.id) :
    SameRun schedule first second := by
  refine ⟨row, one.find.trans two.find.symm, ?_, ?_⟩
  · intro inv found
    have found' := one.find.symm.trans found
    exact (one.stays inv found').lines.trans (two.stays inv found').lines.symm
  · intro inv found
    have found' := one.find.symm.trans found
    exact (one.stays inv found').history.trans (two.stays inv found').history.symm

/-- The row of another schedule is none of the invoices. -/
theorem SameRun.without_iff {schedule : Schedule} {first second : Db} {id : ScheduleId}
    (other : schedule.id ≠ id) :
    SameRun schedule first (second.without id) ↔ SameRun schedule first second := by
  have rows := getSchedule_without second other
  constructor
  · rintro ⟨row, invoice, lines, history⟩
    exact ⟨row.trans rows, invoice, lines, history⟩
  · rintro ⟨row, invoice, lines, history⟩
    exact ⟨row.trans rows.symm, invoice, lines, history⟩

/-- The draft or the issue step of a run returns an error. -/
inductive StepFails (ctx : TickCtx) (schedule : Schedule) (db : Db) : Prop
  | draft {stop : Stop CoreError} (failed : (draftStep ctx schedule db).1 = .error stop)
  | issue {output : DraftInvoiceOutput} {after : Db} {stop : Stop CoreError}
      (draft : draftStep ctx schedule db = (.ok output, after))
      (failed : (issueStep ctx schedule output after).1 = .error stop)

/-- A run that fails before it writes anything: at its draft, or at a later step when its draft is
already there. -/
inductive FailsAtOnce (ctx : TickCtx) (schedule : Schedule) (db : Db) : Prop
  | draft {stop : Stop CoreError} (failed : draftStep ctx schedule db = (.error stop, db))
  | issue {output : DraftInvoiceOutput} {stop : Stop CoreError}
      (draft : draftStep ctx schedule db = (.ok output, db))
      (failed : issueStep ctx schedule output db = (.error stop, db))
  | save {output : DraftInvoiceOutput} {stop : Stop CoreError}
      (draft : draftStep ctx schedule db = (.ok output, db))
      (skipped : issueStep ctx schedule output db = (.ok (), db))
      (failed : advanceStep ctx schedule db = (.error stop, db))

theorem StepFails.materialise {ctx : TickCtx} {schedule : Schedule} {db : Db}
    (fails : StepFails ctx schedule db) :
    ∃ stop, (Invoicing.materialise ctx schedule db).1 = .error stop := by
  unfold Invoicing.materialise
  cases fails with
  | draft failed =>
    rw [draftStep_error failed]
    exact ⟨_, rfl⟩
  | @issue output after stop draft failed =>
    rw [draft]
    refine ⟨stop, ?_⟩
    show (andThen (issueStep ctx schedule output after) _).1 = _
    generalize issueStep ctx schedule output after = result at failed ⊢
    obtain ⟨result, final⟩ := result
    rw [show result = .error stop from failed]
    rfl

theorem FailsAtOnce.materialise {ctx : TickCtx} {schedule : Schedule} {db : Db}
    (fails : FailsAtOnce ctx schedule db) :
    ∃ stop, Invoicing.materialise ctx schedule db = (.error stop, db) := by
  unfold Invoicing.materialise
  cases fails with
  | draft failed =>
    rw [failed]
    exact ⟨_, rfl⟩
  | @issue output stop draft failed =>
    rw [draft]
    refine ⟨stop, ?_⟩
    show andThen (issueStep ctx schedule _ db) _ = _
    rw [failed]
    rfl
  | @save output stop draft skipped failed =>
    rw [draft]
    refine ⟨stop, ?_⟩
    show andThen (issueStep ctx schedule _ db) _ = _
    rw [skipped]
    show andThen (advanceStep ctx schedule db) _ = _
    rw [failed]
    rfl

/-- A draft step that went through and left its key as it was wrote nothing. -/
theorem draftStep_again {ctx : TickCtx} {schedule : Schedule} {db after : Db} {inv : Invoice}
    {output : DraftInvoiceOutput} (sound : db.Sound)
    (row : db.getSchedule schedule.id = some schedule)
    (fresh : db.getInvoice (ctx.draft schedule.id).newInvoiceId = none)
    (draft : draftStep ctx schedule db = (.ok output, after))
    (before : db.findByIdempotencyKey schedule.runKey = some inv) : after = db ∧ output.invoice = inv := by
  obtain ⟨valid, _, _⟩ := draftStep_stored sound fresh draft
  have begun : Begun schedule inv db := ⟨sound, valid, before, row⟩
  have replayed := begun.draftStep ctx
  rw [draft] at replayed
  cases replayed
  exact ⟨rfl, rfl⟩

/-- **A run that leaves its key and its row as they were fails at once.** -/
theorem failsAtOnce_of_same {ctx : TickCtx} {schedule : Schedule} {db : Db} (sound : db.Sound)
    (row : db.getSchedule schedule.id = some schedule)
    (fresh : db.getInvoice (ctx.draft schedule.id).newInvoiceId = none)
    (sameKey : (materialise ctx schedule db).2.findByIdempotencyKey schedule.runKey =
      db.findByIdempotencyKey schedule.runKey)
    (sameRow : (materialise ctx schedule db).2.getSchedule schedule.id =
      db.getSchedule schedule.id) : FailsAtOnce ctx schedule db := by
  have ends := materialise_cases ctx schedule db
  generalize materialise ctx schedule db = result at ends sameKey sameRow
  cases ends with
  | refused draft => exact .draft draft
  | drafted draft issue =>
    have begun := begun_of_draft sound row fresh draft
    obtain ⟨rfl, _⟩ := draftStep_again sound row fresh draft (sameKey.symm.trans begun.found)
    exact .issue draft issue
  | @issued output between after stop draft issue save =>
    have begun := begun_of_draft sound row fresh draft
    obtain ⟨inv, begun', state⟩ := begun.afterIssueStep issue
    obtain ⟨rfl, same⟩ := draftStep_again sound row fresh draft (sameKey.symm.trans begun'.found)
    rcases issueStep_cases ctx schedule output between with
      ⟨_, skipped⟩ | ⟨auto, ⟨_, _, failed⟩ | ⟨issued, done, _⟩⟩
    · have nothing := skipped.symm.trans issue
      cases nothing
      exact .save draft issue save
    · rw [failed] at issue
      cases issue
    · -- an issue in the meantime would show under the key
      obtain ⟨other, found, draftState, _⟩ := issueInvoice_ok done
      have stored : other = output.invoice := Option.some.inj (found.symm.trans begun.stored.1)
      rw [stored, same, state auto] at draftState
      cases draftState
  | @done output first second next draft issue next' =>
    have stored := Db.getSchedule_put second (schedule.advanced next ctx.now)
    have stored := stored.symm.trans (sameRow.trans row)
    have nextRun := congrArg Schedule.nextRun (Option.some.inj stored)
    have later : next = schedule.nextRun := by
      cases found : second.getSchedule (schedule.advanced next ctx.now).id with
      | none =>
        rw [found] at nextRun
        exact nextRun
      | some old =>
        rw [found] at nextRun
        exact nextRun
    exact absurd (Cadence.advance_gt next') (by rw [later]; exact lt_irrefl _)

/-! ### The whole tick -/

/-- What the run of the first schedule left stays through the loop over the rest. -/
theorem tickLoop_keeps_first {ctx : TickCtx} {next : Schedule} {rest : List Schedule} {db : Db}
    (done : SchedulesTickOutput) (sound : db.Sound) (draws : DrawsFresh ctx (next :: rest) db)
    (active : next.state = .active) (others : ∀ row ∈ rest, row.id ≠ next.id) :
    (tickLoop ctx (next :: rest) done db).2.findByIdempotencyKey next.runKey =
        (materialise ctx next db).2.findByIdempotencyKey next.runKey ∧
      (tickLoop ctx (next :: rest) done db).2.getSchedule next.id =
        (materialise ctx next db).2.getSchedule next.id := by
  have frame := materialise_frame sound (draws.absent next List.mem_cons_self)
  have draws' := draws.after sound
  rw [tickLoop, if_neg (by rw [active]; exact fun different => different rfl)]
  cases ran : materialise ctx next db with
  | mk result after =>
    rw [ran] at frame draws'
    cases result with
    | error stop => exact ⟨rfl, rfl⟩
    | ok drafted =>
      have loop := tickLoop_frame ⟨done.ranScheduleIds ++ [next.id], done.drafts ++ [drafted]⟩
        frame.sound draws'
      exact ⟨(loop.keys _ fun row member => runKey_ne (others row member)).find,
        loop.rows _ others⟩

/-- **The other schedules of a tick fare as if the failing one were absent** exactly when no schedule
comes after it, or the next one fails too before it writes anything. -/
theorem isolated_iff_last {ctx : TickCtx} {db reached : Db} {failing : Schedule}
    {ahead behind : List Schedule} {done : SchedulesTickOutput} (sound : db.Sound)
    (draws : DrawsFresh ctx (db.dueSchedules ctx.today) db)
    (split : db.dueSchedules ctx.today = ahead ++ failing :: behind)
    (loop : tickLoop ctx ahead ⟨[], []⟩ db = (.ok done, reached))
    (fails : StepFails ctx failing reached) :
    (∀ other ∈ db.dueSchedules ctx.today, other.id ≠ failing.id →
      SameRun other (schedulesTick ctx db).2 (schedulesTick ctx (db.without failing.id)).2) ↔
      ∀ next ∈ behind.head?, FailsAtOnce ctx next reached := by
  have reach := reached_of_split sound split draws loop
  obtain ⟨stop, failed⟩ := fails.materialise
  have frame := materialise_frame reach.sound (reach.draws.absent failing List.mem_cons_self)
  have stopped : schedulesTick ctx db = (.error stop, (materialise ctx failing reached).2) := by
    rw [schedulesTick_split split loop]
    generalize materialise ctx failing reached = result at failed ⊢
    obtain ⟨result, final⟩ := result
    rw [show result = .error stop from failed]
    rfl
  rw [stopped, schedulesTick_without sound split loop]
  have same : ∀ other, other.id ≠ failing.id → ∀ final, KeyStays other.runKey reached final →
      final.getSchedule other.id = reached.getSchedule other.id →
      SameRun other (materialise ctx failing reached).2 (final.without failing.id) := by
    intro other different final stays row
    refine (SameRun.without_iff different).mpr (.of_stays (frame.keys _ (runKey_ne different)) stays ?_)
    exact (frame.rows _ different).trans row.symm
  cases behind with
  | nil =>
    refine iff_of_true ?_ (fun next none => by cases none)
    intro other _ different
    exact same other different reached (.refl _ _) rfl
  | cons next rest =>
    have rows := row_of_split sound split draws loop
    have active := (mem_dueSchedules.mp
      (show next ∈ db.dueSchedules ctx.today by rw [split]; simp)).2.1
    have apart : ∀ row ∈ rest, row.id ≠ next.id := by
      have distinct := dueSchedules_distinct sound ctx.today
      unfold Distinct at distinct
      rw [split] at distinct
      have tail := ((List.sublist_append_right ahead (failing :: next :: rest)).map
        Schedule.id).nodup distinct
      obtain ⟨notThere, _⟩ := List.nodup_cons.mp (List.nodup_cons.mp tail).2
      intro row member same
      refine notThere ?_
      rw [← same]
      exact List.mem_map_of_mem member
    have fresh := reach.draws.tail.absent next List.mem_cons_self
    constructor
    · intro isolated head isHead
      obtain rfl : next = head := Option.some.inj isHead
      have different := reach.later next List.mem_cons_self
      have due : next ∈ db.dueSchedules ctx.today := by
        rw [split]
        exact List.mem_append_right _ (List.mem_cons_of_mem _ List.mem_cons_self)
      have sameRun := (SameRun.without_iff different).mp (isolated next due different)
      have stays := frame.keys _ (runKey_ne different)
      obtain ⟨find, row⟩ := tickLoop_keeps_first done reach.sound reach.draws.tail active apart
      refine failsAtOnce_of_same reach.sound (rows next (by simp)) fresh ?_ ?_
      · exact find.symm.trans (sameRun.invoice.symm.trans stays.find)
      · exact row.symm.trans (sameRun.row.symm.trans (frame.rows _ different))
    · intro atOnce
      obtain ⟨stop', failed'⟩ := (atOnce next rfl).materialise
      intro other _ different
      rw [tickLoop, if_neg (by rw [active]; exact fun different => different rfl), failed']
      exact same other different reached (.refl _ _) rfl

/-! ### A schedule in euros -/

/-- A schedule in euros, and one behind it that can be billed. -/
def euros : Schedule := newSchedule (sampleCtx (oneOClock firstOfMarch) 1) euroSchedule

def billed : Schedule := newSchedule (sampleCtx (oneOClock firstOfMarch) 2) sampleSchedule

def marchDb : Db := (sampleDb.putSchedule euros).putSchedule billed

theorem march_due : marchDb.dueSchedules firstTick.today = [] ++ euros :: [billed] := by
  decide +kernel

/-- The draft in euros is refused, and the schedule behind it is not billed; without the schedule in
euros it is. -/
theorem march_unbilled :
    (draftStep firstTick euros marchDb).1.toOption = none ∧
      billed ∈ marchDb.dueSchedules firstTick.today ∧ billed.id ≠ euros.id ∧
      ((schedulesTick firstTick (marchDb.without euros.id)).2.findByIdempotencyKey
        billed.runKey).isSome ∧
      ¬ SameRun billed (schedulesTick firstTick marchDb).2
        (schedulesTick firstTick (marchDb.without euros.id)).2 := by
  refine ⟨by decide +kernel, by decide +kernel, by decide +kernel, by decide +kernel, ?_⟩
  intro same
  have none : ((schedulesTick firstTick marchDb).2.findByIdempotencyKey billed.runKey).isSome =
      false := by decide +kernel
  rw [same.invoice] at none
  exact absurd none (by decide +kernel)

theorem isolated_iff_last_march :
    (∀ other ∈ marchDb.dueSchedules firstTick.today, other.id ≠ euros.id →
      SameRun other (schedulesTick firstTick marchDb).2
        (schedulesTick firstTick (marchDb.without euros.id)).2) ↔
      ∀ next ∈ [billed].head?, FailsAtOnce firstTick next marchDb := by
  have sound : marchDb.Sound :=
    ⟨⟨List.nodup_nil, fun _ absent => by cases absent⟩,
      show (marchDb.schedules.map Schedule.id).Nodup from by decide +kernel⟩
  have draws : DrawsFresh firstTick (marchDb.dueSchedules firstTick.today) marchDb := by
    rw [march_due]
    exact ⟨fun row _ => rfl, by decide +kernel⟩
  exact isolated_iff_last sound draws march_due rfl (.draft rfl)

end Invoicing
