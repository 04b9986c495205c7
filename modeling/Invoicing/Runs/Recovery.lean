/-
**A tick that stops in the middle of a run, and the tick after it.**

* `StoppedAt` — the tables when a tick stops after the draft, after the issue, or at a schedule row
  that is not saved. `Completed` — one invoice under the run's key, issued if the schedule says so, and
  a later next run.
* `ErrorFree` — the later tick comes to the schedule, and nothing fails there for a draft.
* **`recovered_iff_draft`** — the later tick completes the run exactly when the schedule does not issue
  by itself or the invoice of the run is still a draft. **`stuck_after_issue`** — a tick that stopped
  after its issue is never completed: the draft is found issued and the tick fails on it.
-/

import Invoicing.Runs.Accepted
import Invoicing.Runs.Cycle

namespace Invoicing

open Chrono KeyedTable

/-! ### Where a tick stops -/

/-- The tables when a tick stops inside the run of a schedule. -/
inductive StoppedAt (ctx : TickCtx) (schedule : Schedule) (db : Db) : Db → Prop
  | afterDraft {output : DraftInvoiceOutput} {after : Db}
      (draft : draftStep ctx schedule db = (.ok output, after)) : StoppedAt ctx schedule db after
  | afterIssue {output : DraftInvoiceOutput} {between after : Db} {issued : IssueInvoiceOutput}
      (draft : draftStep ctx schedule db = (.ok output, between)) (auto : schedule.autoIssue = true)
      (issue : issueInvoice (ctx.issue schedule.id) (tickIssueInput output.invoice.id) between =
        (.ok issued, after)) : StoppedAt ctx schedule db after
  | saveFailing {output : DraftInvoiceOutput} {between after : Db}
      (draft : draftStep ctx schedule db = (.ok output, between))
      (issue : issueStep ctx schedule output between = (.ok (), after)) :
      StoppedAt ctx schedule db after

/-- What a stopped tick leaves of a run: the invoice under its key, and the schedule as it was. -/
structure Begun (schedule : Schedule) (inv : Invoice) (db : Db) : Prop where
  sound : db.Sound
  valid : schedule.draftInput.validate = .ok ()
  found : db.findByIdempotencyKey schedule.runKey = some inv
  row : db.getSchedule schedule.id = some schedule

theorem Begun.stored {schedule : Schedule} {inv : Invoice} {db : Db}
    (begun : Begun schedule inv db) :
    db.getInvoice inv.id = some inv ∧ inv.idempotencyKey = some schedule.runKey := by
  obtain ⟨member, keyed⟩ := begun.sound.keys.findByIdempotencyKey_iff.mp begun.found
  exact ⟨find_of_mem begun.sound.keys.distinct member, keyed⟩

/-- An invoice in its place under the key. -/
theorem findByKey_of_stored {db : Db} (sound : db.Sound) {id : InvoiceId} {inv : Invoice} {key : String}
    (stored : db.getInvoice id = some inv) (keyed : inv.idempotencyKey = some key) :
    db.findByIdempotencyKey key = some inv :=
  sound.keys.findByIdempotencyKey (mem_of_find stored) keyed

/-- The issue of the invoice a run began with leaves the run begun. -/
theorem Begun.issued {ctx : TickCtx} {schedule : Schedule} {output : DraftInvoiceOutput}
    {issued : IssueInvoiceOutput} {db after : Db} (begun : Begun schedule output.invoice db)
    (auto : schedule.autoIssue = true)
    (issue : issueInvoice (ctx.issue schedule.id) (tickIssueInput output.invoice.id) db =
      (.ok issued, after)) :
    Begun schedule issued.invoice after ∧ issued.invoice.state = .issued := by
  obtain ⟨stored, keyed⟩ := begun.stored
  have step : issueStep ctx schedule output db = (.ok (), after) := by
    unfold issueStep
    rw [if_pos auto, issue]
    rfl
  have frame := issueStep_frame ctx output.invoice.id begun.sound keyed stored
  rw [step] at frame
  obtain ⟨inv, found, _, state, sameKey, after'⟩ := issueInvoice_ok (congrArg Prod.fst issue)
  rw [issue] at after'
  have same : inv = output.invoice := Option.some.inj (found.symm.trans stored)
  refine ⟨⟨frame.sound, begun.valid, ?_, ?_⟩, state⟩
  · refine findByKey_of_stored frame.sound after' ?_
    rw [sameKey, same]
    exact keyed
  · have schedules := issueStep_leaves ctx schedule output db
    rw [step] at schedules
    unfold Db.getSchedule
    rw [schedules.2]
    exact begun.row

/-- A draft step that went through begins a run. -/
theorem begun_of_draft {ctx : TickCtx} {schedule : Schedule} {output : DraftInvoiceOutput}
    {db after : Db} (sound : db.Sound) (row : db.getSchedule schedule.id = some schedule)
    (fresh : db.getInvoice (ctx.draft schedule.id).newInvoiceId = none)
    (draft : draftStep ctx schedule db = (.ok output, after)) :
    Begun schedule output.invoice after := by
  obtain ⟨valid, keyed, stored⟩ := draftStep_stored sound fresh draft
  have frame := draftStep_frame ctx sound fresh
  have schedules := draftStep_leaves ctx schedule db
  rw [draft] at frame schedules
  refine ⟨frame.sound, valid, findByKey_of_stored frame.sound stored keyed, ?_⟩
  unfold Db.getSchedule
  rw [schedules.2]
  exact row

/-- The issue step goes on from a begun run to a begun run. -/
theorem Begun.afterIssueStep {ctx : TickCtx} {schedule : Schedule} {output : DraftInvoiceOutput}
    {db after : Db} (begun : Begun schedule output.invoice db)
    (issue : issueStep ctx schedule output db = (.ok (), after)) :
    ∃ inv, Begun schedule inv after ∧ (schedule.autoIssue = true → inv.state = .issued) := by
  rcases issueStep_cases ctx schedule output db with
    ⟨auto, same⟩ | ⟨auto, ⟨stop, _, same⟩ | ⟨issued, done, same⟩⟩
  · rw [issue] at same
    cases same
    refine ⟨_, begun, ?_⟩
    rw [auto]
    exact Bool.noConfusion
  · rw [issue] at same
    cases same
  · rw [issue] at same
    have whole : issueInvoice (ctx.issue schedule.id) (tickIssueInput output.invoice.id) db =
        (.ok issued, after) := Prod.ext done (congrArg Prod.snd same).symm
    obtain ⟨begun', state⟩ := begun.issued auto whole
    exact ⟨_, begun', fun _ => state⟩

/-- **A stopped tick leaves its run begun.** -/
theorem StoppedAt.begun {ctx : TickCtx} {schedule : Schedule} {db stopped : Db}
    (stop : StoppedAt ctx schedule db stopped) (sound : db.Sound)
    (row : db.getSchedule schedule.id = some schedule)
    (fresh : db.getInvoice (ctx.draft schedule.id).newInvoiceId = none) :
    ∃ inv, Begun schedule inv stopped := by
  cases stop with
  | afterDraft draft => exact ⟨_, begun_of_draft sound row fresh draft⟩
  | afterIssue draft auto issue =>
    obtain ⟨begun, _⟩ := (begun_of_draft sound row fresh draft).issued auto issue
    exact ⟨_, begun⟩
  | saveFailing draft issue =>
    obtain ⟨inv, begun, _⟩ := (begun_of_draft sound row fresh draft).afterIssueStep issue
    exact ⟨inv, begun⟩

/-! ### The later tick -/

/-- The run of a schedule is complete: exactly one invoice under its key, issued if the schedule asks
for it, and a later next run. -/
structure Completed (schedule : Schedule) (db : Db) : Prop where
  once : ∃! inv, inv ∈ db.invoices ∧ inv.idempotencyKey = some schedule.runKey
  issued : schedule.autoIssue = true → ∀ inv ∈ db.invoices,
    inv.idempotencyKey = some schedule.runKey → inv.state = .issued
  advanced : ∃ row, db.getSchedule schedule.id = some row ∧ schedule.nextRun < row.nextRun

/-- Nothing fails at a schedule but what the state of its invoice makes fail. -/
structure NoFault (ctx : TickCtx) (schedule : Schedule) (db : Db) : Prop where
  issues : ∀ inv, db.findByIdempotencyKey schedule.runKey = some inv → inv.state = .draft →
    ∃ output, (issueInvoice (ctx.issue schedule.id) (tickIssueInput inv.id) db).1 = .ok output
  next : ∃ next, schedule.cadence.advance schedule.nextRun = some next
  customer : db.getCustomer schedule.customerId ≠ none

/-- A tick that comes to a schedule without an error and meets no fault there. -/
def ErrorFree (ctx : TickCtx) (schedule : Schedule) (db : Db) : Prop :=
  ∀ ahead behind, db.dueSchedules ctx.today = ahead ++ schedule :: behind →
    ∃ done reached, tickLoop ctx ahead ⟨[], []⟩ db = (.ok done, reached) ∧
      NoFault ctx schedule reached

/-- A run that has begun is drafted by its stored invoice. -/
theorem Begun.draftStep {schedule : Schedule} {inv : Invoice} {db : Db}
    (begun : Begun schedule inv db) (ctx : TickCtx) :
    Invoicing.draftStep ctx schedule db = (.ok ⟨inv, db.linesOf inv.id, true⟩, db) :=
  draftInvoice_of_stored begun.sound.keys rfl begun.valid begun.stored.1 begun.stored.2

/-- **A run whose invoice is a draft, or is not to be issued, is completed.** -/
theorem Begun.completes {ctx : TickCtx} {schedule : Schedule} {inv : Invoice} {db : Db}
    (begun : Begun schedule inv db) (noFault : NoFault ctx schedule db)
    (open' : schedule.autoIssue = true → inv.state = .draft) :
    ∃ output after, materialise ctx schedule db = (.ok output, after) ∧ after.Sound ∧
      (∃ inv', after.findByIdempotencyKey schedule.runKey = some inv' ∧
        (schedule.autoIssue = true → inv'.state = .issued)) ∧
      ∃ row, after.getSchedule schedule.id = some row ∧ schedule.nextRun < row.nextRun := by
  have issue : ∃ between, issueStep ctx schedule ⟨inv, db.linesOf inv.id, true⟩ db =
      (.ok (), between) := by
    rcases issueStep_cases ctx schedule ⟨inv, db.linesOf inv.id, true⟩ db with
      ⟨_, same⟩ | ⟨auto, ⟨stop, failed, _⟩ | ⟨issued, _, same⟩⟩
    · exact ⟨_, same⟩
    · obtain ⟨output, done⟩ := noFault.issues inv begun.found (open' auto)
      rw [done] at failed
      cases failed
    · exact ⟨_, same⟩
  obtain ⟨between, issue⟩ := issue
  obtain ⟨inv', begun', state⟩ := Begun.afterIssueStep begun issue
  obtain ⟨next, next'⟩ := noFault.next
  have customer : between.getCustomer schedule.customerId ≠ none := by
    have customers := (issueStep_leaves ctx schedule ⟨inv, db.linesOf inv.id, true⟩ db).1
    rw [issue] at customers
    unfold Db.getCustomer
    rw [customers]
    exact noFault.customer
  have frame := putSchedule_frame "" inv.id begun'.sound (schedule.advanced next ctx.now)
  have stored := Db.getSchedule_put between (schedule.advanced next ctx.now)
  refine ⟨⟨inv, db.linesOf inv.id, true⟩, between.putSchedule (schedule.advanced next ctx.now), ?_,
    frame.sound, ⟨inv', begun'.found, state⟩, _, stored, ?_⟩
  · unfold materialise
    rw [begun.draftStep ctx]
    show andThen (issueStep ctx schedule _ db) _ = _
    rw [issue]
    show andThen (advanceStep ctx schedule between) _ = _
    rw [advanceStep_of_next next' customer]
    rfl
  · cases between.getSchedule (schedule.advanced next ctx.now).id <;> exact Cadence.advance_gt next'

/-- **A run whose invoice was issued and is to be issued again is refused.** -/
theorem Begun.refused {schedule : Schedule} {inv : Invoice} {db : Db}
    (begun : Begun schedule inv db) (ctx : TickCtx) (auto : schedule.autoIssue = true)
    (notDraft : inv.state ≠ .draft) :
    ∃ stop, materialise ctx schedule db = (.error stop, db) := by
  have issue : ∃ stop, issueStep ctx schedule ⟨inv, db.linesOf inv.id, true⟩ db =
      (.error stop, db) := by
    rcases issueStep_cases ctx schedule ⟨inv, db.linesOf inv.id, true⟩ db with
      ⟨skipped, _⟩ | ⟨_, ⟨stop, _, same⟩ | ⟨issued, done, _⟩⟩
    · rw [auto] at skipped
      cases skipped
    · exact ⟨stop, same⟩
    · obtain ⟨other, found, draft, _⟩ := issueInvoice_ok done
      have same : inv = other := Option.some.inj (begun.stored.1.symm.trans found)
      rw [same] at notDraft
      exact absurd draft notDraft
  obtain ⟨stop, issue⟩ := issue
  refine ⟨stop, ?_⟩
  unfold materialise
  rw [begun.draftStep ctx]
  show andThen (issueStep ctx schedule _ db) _ = _
  rw [issue]
  rfl

/-! ### The whole tick -/

/-- What is complete of a run shows under its key and on its schedule row. -/
theorem completed_iff {schedule : Schedule} {db : Db} (sound : db.Sound) :
    Completed schedule db ↔
      (∃ inv, db.findByIdempotencyKey schedule.runKey = some inv ∧
        (schedule.autoIssue = true → inv.state = .issued)) ∧
      ∃ row, db.getSchedule schedule.id = some row ∧ schedule.nextRun < row.nextRun := by
  have found := @Db.KeysUnique.findByIdempotencyKey_iff db sound.keys
  constructor
  · rintro ⟨⟨inv, ⟨member, keyed⟩, _⟩, issued, advanced⟩
    exact ⟨⟨inv, found.mpr ⟨member, keyed⟩, fun auto => issued auto inv member keyed⟩, advanced⟩
  · rintro ⟨⟨inv, there, issued⟩, advanced⟩
    have only : ∀ other, other ∈ db.invoices ∧ other.idempotencyKey = some schedule.runKey →
        other = inv := fun other holds => Option.some.inj ((found.mpr holds).symm.trans there)
    refine ⟨⟨inv, found.mp there, only⟩, ?_, advanced⟩
    intro auto other member keyed
    rw [only other ⟨member, keyed⟩]
    exact issued auto

/-- A schedule that was due is due in a later tick, as long as its row stays. -/
theorem due_later {db stopped : Db} {schedule : Schedule} {first later : TickCtx}
    (due : schedule ∈ db.dueSchedules first.today)
    (row : stopped.getSchedule schedule.id = some schedule)
    (order : first.today ≤ later.today)
    (years : 0 ≤ first.today.year ∧ first.today.year ≤ 9999)
    (years' : 0 ≤ later.today.year ∧ later.today.year ≤ 9999) :
    schedule ∈ stopped.dueSchedules later.today := by
  obtain ⟨_, active, early⟩ := mem_dueSchedules.mp due
  refine mem_dueSchedules.mpr ⟨mem_of_find row, active, early.trans ?_⟩
  exact (NaiveDate.text_le_iff years.1 years.2 years'.1 years'.2).mpr order

/-- **The tick after a stopped one completes the run** exactly when the schedule does not issue by
itself or the invoice of the run is still a draft. -/
theorem recovered_iff_draft {first later : TickCtx} {db stopped : Db} {schedule : Schedule}
    (sound : db.Sound) (due : schedule ∈ db.dueSchedules first.today)
    (fresh : db.getInvoice (first.draft schedule.id).newInvoiceId = none)
    (stop : StoppedAt first schedule db stopped) (order : first.today ≤ later.today)
    (years : 0 ≤ first.today.year ∧ first.today.year ≤ 9999)
    (years' : 0 ≤ later.today.year ∧ later.today.year ≤ 9999)
    (draws : DrawsFresh later (stopped.dueSchedules later.today) stopped)
    (errorFree : ErrorFree later schedule stopped) :
    Completed schedule (schedulesTick later stopped).2 ↔
      (schedule.autoIssue = true → ∀ inv,
        stopped.findByIdempotencyKey schedule.runKey = some inv → inv.state = .draft) := by
  obtain ⟨inv, begun⟩ := stop.begun sound (getSchedule_of_due sound due) fresh
  have due' := due_later due begun.row order years years'
  obtain ⟨ahead, behind, split⟩ := List.append_of_mem due'
  obtain ⟨done, reached, loop, noFault⟩ := errorFree ahead behind split
  have reach := reached_of_split begun.sound split draws loop
  have begun' : Begun schedule inv reached :=
    ⟨reach.sound, begun.valid, reach.key.find.trans begun.found, reach.row⟩
  rw [schedulesTick_split split loop]
  by_cases open' : schedule.autoIssue = true → inv.state = .draft
  · -- the run goes through, and the schedules behind leave what it did
    refine iff_of_true ?_ ?_
    · obtain ⟨output, after, ran, sound', ⟨inv', found, issued⟩, row, stored, later'⟩ :=
        begun'.completes noFault open'
      have draws' := reach.draws.after reach.sound
      rw [ran] at draws' ⊢
      show Completed schedule (tickLoop later behind ⟨_, _⟩ after).2
      have frame := tickLoop_frame
        ⟨done.ranScheduleIds ++ [schedule.id], done.drafts ++ [output]⟩ sound' draws'
      refine (completed_iff frame.sound).mpr ⟨⟨inv', ?_, issued⟩, row, ?_, later'⟩
      · rw [(frame.keys _ fun other member => runKey_ne (reach.later other member)).find]
        exact found
      · rw [frame.rows _ reach.later]
        exact stored
    · intro auto other found
      rw [begun.found] at found
      cases found
      exact open' auto
  · -- the run is refused, and the schedule row stays
    obtain ⟨auto, notDraft⟩ := Classical.not_imp.mp open'
    refine iff_of_false ?_ ?_
    · obtain ⟨stop, ran⟩ := begun'.refused later auto notDraft
      rw [ran]
      intro completed
      obtain ⟨row, stored, advanced⟩ := completed.advanced
      have stored : reached.getSchedule schedule.id = some row := stored
      rw [reach.row] at stored
      cases stored
      exact lt_irrefl _ advanced
    · intro drafts
      exact notDraft (drafts auto inv begun.found)

/-! ### A tick that stops after its issue -/

/-- The tables with one schedule, due on the first of March. -/
def monthlyDb : Db := sampleDb.putSchedule monthly

/-- The tick of the first of March, and one later on the same day. -/
def firstTick : TickCtx := sampleTick (oneOClock firstOfMarch) 10

def secondTick : TickCtx := sampleTick (oneOClock firstOfMarch) 20

/-- The tables after the draft of the first tick, and after its issue. -/
def draftedDb : Db := (draftStep firstTick monthly monthlyDb).2

def issuedByTick : CoreResult IssueInvoiceOutput × Db :=
  issueInvoice (firstTick.issue monthly.id) (tickIssueInput ⟨12⟩) draftedDb

/-- The first tick stops after its issue: the second one finds the invoice issued, fails on it, and
the schedule stays at the first of March. -/
theorem stuck_after_issue :
    StoppedAt firstTick monthly monthlyDb issuedByTick.2 ∧
      (schedulesTick secondTick issuedByTick.2).1.toOption.isNone ∧
      ¬ Completed monthly (schedulesTick secondTick issuedByTick.2).2 := by
  refine ⟨.afterIssue rfl rfl rfl, by decide +kernel, ?_⟩
  intro completed
  have stays : ((schedulesTick secondTick issuedByTick.2).2.getSchedule monthly.id).map
      Schedule.nextRun = some monthly.nextRun := by decide +kernel
  obtain ⟨row, stored, advanced⟩ := completed.advanced
  rw [stored] at stays
  exact absurd advanced (by rw [Option.some.inj stays]; exact lt_irrefl _)

theorem recovered_iff_draft_after_draft :
    Completed monthly (schedulesTick secondTick draftedDb).2 ↔
      (monthly.autoIssue = true → ∀ inv,
        draftedDb.findByIdempotencyKey monthly.runKey = some inv → inv.state = .draft) := by
  have due : draftedDb.dueSchedules secondTick.today = [monthly] := by decide +kernel
  have sound : monthlyDb.Sound :=
    ⟨⟨List.nodup_nil, fun _ absent => by cases absent⟩, List.nodup_singleton _⟩
  have stop : StoppedAt firstTick monthly monthlyDb draftedDb := .afterDraft rfl
  refine recovered_iff_draft sound (by decide +kernel) rfl stop le_rfl (by decide) (by decide) ?_ ?_
  · rw [due]
    refine ⟨?_, List.nodup_singleton _⟩
    intro row member
    rw [List.mem_singleton.mp member]
    rfl
  · intro ahead behind split
    rw [due] at split
    obtain ⟨rfl, same⟩ : ahead = [] ∧ [monthly] = monthly :: behind := by
      cases ahead with
      | nil => exact ⟨rfl, split⟩
      | cons first rest => simp at split
    refine ⟨_, _, rfl, ?_, ⟨_, rfl⟩, by decide +kernel⟩
    intro inv found draft
    have drafted : (draftedDb.findByIdempotencyKey monthly.runKey).map Invoice.id = some ⟨12⟩ := by
      decide +kernel
    rw [found] at drafted
    rw [Option.some.inj drafted]
    exact ⟨_, rfl⟩

end Invoicing
