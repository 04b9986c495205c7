/-
**Each run date of a schedule is billed once.**

* `Action.Regular` — ticks are free of errors and draw new ids, and other commands use no key of a run.
* `Billed` — the invoices under the keys of a schedule's runs are the first members of its recurrence,
  one for each, and its row stands at the next member.
* **`schedulesTick_due`** — a tick that went through has run each due schedule once.
  **`materialised_once`** — every accepted schedule is billed so at every moment after its creation.
-/

import Invoicing.Lib.Recurrence
import Invoicing.Runs.Actions
import Invoicing.Runs.Recovery

namespace Invoicing

open Chrono KeyedTable Recurrence

/-! ### Regular actions -/

/-- The dates of the ticks among actions. -/
def tickDates : List Action → List NaiveDate
  | [] => []
  | .tick ctx :: rest => ctx.today :: tickDates rest
  | _ :: rest => tickDates rest

/-- A command that drafts under no key of a run and draws a new id when it drafts, and leaves the
schedules. -/
def Command.Aside (db : Db) : Command → Prop
  | .invoice request => (∀ id date, request.draftKey ≠ some (runKey id date)) ∧
      ∀ ctx input, request = .draft ctx input → db.getInvoice ctx.newInvoiceId = none
  | .elsewhere write => (write db).schedules = db.schedules
  | _ => True

/-- A date of the years `0..9999`. -/
def InYears (date : NaiveDate) : Prop := 0 ≤ date.year ∧ date.year ≤ 9999

/-- A new schedule gets a new id, a tick is free of errors and draws new ids, dates are of the years
`0..9999`, and other commands use no key of a run. -/
def Action.Regular (db : Db) : Action → Prop
  | .create ctx _ => db.getSchedule ctx.newScheduleId = none
  | .tick ctx => (∃ output, (schedulesTick ctx db).1 = .ok output) ∧
      DrawsFresh ctx (db.dueSchedules ctx.today) db ∧ InYears ctx.today ∧
      ∀ row ∈ db.schedules, InYears row.nextRun
  | .command other => other.Aside db

/-! ### Keys of runs -/

/-- The date of a run is materialised: an invoice is stored under its key. -/
def Materialised (db : Db) (id : ScheduleId) (date : NaiveDate) : Prop :=
  ∃ inv ∈ db.invoices, inv.idempotencyKey = some (runKey id date)

theorem materialised_iff {db : Db} (unique : db.KeysUnique) {id : ScheduleId} {date : NaiveDate} :
    Materialised db id date ↔ ∃ inv, db.findByIdempotencyKey (runKey id date) = some inv := by
  unfold Materialised
  simp only [unique.findByIdempotencyKey_iff]

theorem materialised_of_stays {before after : Db} {id : ScheduleId} {date : NaiveDate}
    (unique : before.KeysUnique) (unique' : after.KeysUnique)
    (stays : KeyStays (runKey id date) before after) :
    Materialised after id date ↔ Materialised before id date := by
  rw [materialised_iff unique, materialised_iff unique', stays.find]

/-- Only drafts load no row. -/
theorem Edit.draft_of_none {request : Request} {tx : InvoiceTx} (edit : Edit request none tx) :
    ∃ ctx input, request = .draft ctx input := by
  cases edit with
  | draft summed => exact ⟨_, _, rfl⟩

/-- **Other commands neither add nor remove keys of runs.** -/
theorem Command.Aside.materialised {command : Command} {db : Db} (unique : db.KeysUnique)
    (aside : command.Aside db) (id : ScheduleId) (date : NaiveDate) :
    Materialised (command.execute db).2 id date ↔ Materialised db id date := by
  rcases command.invoice_cases db with same | ⟨request, loaded, tx, rfl, edit, stored, committed⟩
  · unfold Materialised
    rw [same.invoices]
  · obtain ⟨notDrafted, fresh⟩ := aside
    rw [(InvoiceTx.commit_ok committed).1]
    have members := mem_upsert_iff Invoice.keepsKey unique.distinct tx.invoice
    have mergedKey : (merged Invoice.mergeRow (find Invoice.id db.invoices tx.invoice.id)
        tx.invoice).idempotencyKey = tx.invoice.idempotencyKey := by
      cases find Invoice.id db.invoices tx.invoice.id <;> rfl
    constructor
    · rintro ⟨inv, member, keyed⟩
      rcases (members inv).mp member with rfl | ⟨inTable, _⟩
      · rw [mergedKey] at keyed
        rcases edit.key with ⟨_, drafted⟩ | ⟨old, same, _, oldKey⟩
        · exact absurd (drafted.symm.trans keyed) (notDrafted id date)
        · exact ⟨old, mem_of_find (stored old same), oldKey.symm.trans keyed⟩
      · exact ⟨inv, inTable, keyed⟩
    · rintro ⟨inv, inTable, keyed⟩
      by_cases other : inv.id = tx.invoice.id
      · refine ⟨_, (members _).mpr (Or.inl rfl), ?_⟩
        rw [mergedKey]
        have found : db.getInvoice tx.invoice.id = some inv := by
          rw [← other]
          exact find_of_mem unique.distinct inTable
        rcases edit.key with ⟨none, drafted⟩ | ⟨old, same, sameId, oldKey⟩
        · subst none
          obtain ⟨ctx, input, rfl⟩ := edit.draft_of_none
          have target : ctx.newInvoiceId = tx.invoice.id := edit.on
          have absent := fresh ctx input rfl
          rw [target, found] at absent
          cases absent
        · have theirs := stored old same
          rw [sameId, found] at theirs
          cases theirs
          exact oldKey.trans keyed
      · exact ⟨inv, (members inv).mpr (Or.inr ⟨inTable, other⟩), keyed⟩

/-- Credit-note commands leave the schedules. -/
theorem performCredit_schedules {α : Type} (output : CreditNote → α)
    (prepared : CoreResult CreditTx) (db : Db) :
    (performCredit output prepared db).2.schedules = db.schedules := by
  rcases performCredit_cases output prepared db with ⟨same, _⟩ | ⟨tx, _, same⟩
  · rw [same]
  · rw [same]
    rfl

/-- Other commands leave the schedules. -/
theorem Command.Aside.schedules {command : Command} {db : Db} (aside : command.Aside db) :
    (command.execute db).2.schedules = db.schedules := by
  cases command with
  | invoice request => exact (request.leaves_others db).2
  | createCreditNote ctx input => exact performCredit_schedules _ _ db
  | issueCreditNote ctx input => exact performCredit_schedules _ _ db
  | elsewhere write => exact aside

/-! ### What a tick does to a schedule -/

theorem andThen_ok {α β : Type} {first : CoreResult α × Db} {next : α → Db → CoreResult β × Db}
    {b : β} (done : (andThen first next).1 = .ok b) :
    ∃ a db, first = (.ok a, db) ∧ andThen first next = next a db ∧ (next a db).1 = .ok b := by
  obtain ⟨result, db⟩ := first
  cases result with
  | error stop => cases done
  | ok a => exact ⟨a, db, rfl, rfl, done⟩

/-- **A tick that went through has run each due schedule**: its date is materialised and its row
advanced to the next one. -/
theorem schedulesTick_due {ctx : TickCtx} {db : Db} {output : SchedulesTickOutput} {row : Schedule}
    (sound : db.Sound) (draws : DrawsFresh ctx (db.dueSchedules ctx.today) db)
    (done : (schedulesTick ctx db).1 = .ok output) (due : row ∈ db.dueSchedules ctx.today) :
    Materialised (schedulesTick ctx db).2 row.id row.nextRun ∧
      ∃ next createdAt, row.cadence.advance row.nextRun = some next ∧
        (schedulesTick ctx db).2.getSchedule row.id =
          some { row.advanced next ctx.now with createdAt := createdAt } := by
  obtain ⟨ahead, behind, split⟩ := List.append_of_mem due
  have appended : schedulesTick ctx db =
      andThen (tickLoop ctx ahead ⟨[], []⟩ db) (tickLoop ctx (row :: behind)) := by
    unfold schedulesTick
    rw [split, tickLoop_append]
  rw [appended] at done
  obtain ⟨ran, reached, loop, _, _⟩ := andThen_ok done
  rw [← appended, schedulesTick_split split loop] at done
  obtain ⟨drafted, after, materialised, rest, _⟩ := andThen_ok done
  have reach := reached_of_split sound split draws loop
  have frame := materialise_frame reach.sound (reach.draws.absent row List.mem_cons_self)
  have draws' := reach.draws.after reach.sound
  rw [materialised] at frame draws'
  have behindFrame := tickLoop_frame ⟨ran.ranScheduleIds ++ [row.id], ran.drafts ++ [drafted]⟩
    frame.sound draws'
  rw [schedulesTick_split split loop, rest]
  have ends := materialise_cases ctx row reached
  rw [materialised] at ends
  cases ends with
  | @done output first second next draft issue next' =>
    have begun := begun_of_draft reach.sound reach.row
      (reach.draws.absent row List.mem_cons_self) draft
    obtain ⟨inv, begun', _⟩ := begun.afterIssueStep issue
    refine ⟨(materialised_iff behindFrame.sound.keys).mpr ⟨inv, ?_⟩, next, ?_⟩
    · rw [show runKey row.id row.nextRun = row.runKey from rfl,
        (behindFrame.keys _ fun other member => runKey_ne (reach.later other member)).find]
      exact begun'.found
    · rw [behindFrame.rows _ reach.later]
      have stored := Db.getSchedule_put second (row.advanced next ctx.now)
      cases old : second.getSchedule (row.advanced next ctx.now).id with
      | none =>
        rw [old] at stored
        exact ⟨_, next', stored⟩
      | some before =>
        rw [old] at stored
        exact ⟨_, next', stored⟩

section Tick

variable {ctx : TickCtx} {db : Db} {row : Schedule}

/-- Two stored schedules of one id are one. -/
theorem eq_of_stored (sound : db.Sound) {other : Schedule}
    (stored : db.getSchedule row.id = some row) (inTable : other ∈ db.schedules)
    (same : other.id = row.id) : other = row :=
  eq_of_key_eq sound.schedules inTable (mem_of_find stored) same

/-- A schedule that is not due keeps its row. -/
theorem schedulesTick_notDue (sound : db.Sound)
    (draws : DrawsFresh ctx (db.dueSchedules ctx.today) db)
    (stored : db.getSchedule row.id = some row) (notDue : row ∉ db.dueSchedules ctx.today) :
    (schedulesTick ctx db).2.getSchedule row.id = some row := by
  have others : ∀ other ∈ db.dueSchedules ctx.today, other.id ≠ row.id := by
    intro other due same
    rw [eq_of_stored sound stored (mem_dueSchedules.mp due).1 same] at due
    exact notDue due
  exact ((tickLoop_frame ⟨[], []⟩ sound draws).rows _ others).trans stored

/-- A tick materialises no date of a schedule but the one that is due. -/
theorem schedulesTick_otherDates (sound : db.Sound)
    (draws : DrawsFresh ctx (db.dueSchedules ctx.today) db)
    (stored : db.getSchedule row.id = some row) {date : NaiveDate}
    (other : row ∈ db.dueSchedules ctx.today → row.runKey ≠ runKey row.id date) :
    Materialised (schedulesTick ctx db).2 row.id date ↔ Materialised db row.id date := by
  have frame := tickLoop_frame ⟨[], []⟩ sound draws
  refine materialised_of_stays sound.keys frame.sound.keys (frame.keys _ ?_)
  intro due member same
  obtain rfl := eq_of_stored sound stored (mem_dueSchedules.mp member).1 (runKey_inj same).1
  exact other member same

end Tick

/-! ### Where a schedule stands -/

/-- Where a schedule stands when `n` of its dates are done. -/
def Schedule.position (row : Schedule) (n : ℕ) : Position NaiveDate :=
  ⟨n, row.nextRun, row.state = .cancelled⟩

/-- The run dates of a schedule. -/
def Schedule.runDate (row : Schedule) : ℕ → Option NaiveDate :=
  member row.cadence.advance row.startDate

/-- What `n` runs of a schedule come to: after ticks at some dates its row stands at the `n`-th run
date, and one invoice is stored for each date before it and none for any other. -/
structure Billed (row : Schedule) (ticks : List NaiveDate) (n : ℕ) (db : Db) : Prop where
  follows : Follows row.cadence.advance row.startDate row.endDate ticks (row.position n)
  running : row.state ≠ .paused
  once : ∀ m < n, ∀ date, row.runDate m = some date →
    ∃! inv, inv ∈ db.invoices ∧ inv.idempotencyKey = some (runKey row.id date)
  only : ∀ date, InYears date → Materialised db row.id date → ∃ m < n, row.runDate m = some date

/-- The same rule for the run dates. -/
structure SameRule (row other : Schedule) : Prop where
  id : row.id = other.id
  cadence : row.cadence = other.cadence
  startDate : row.startDate = other.startDate
  endDate : row.endDate = other.endDate

theorem SameRule.refl (row : Schedule) : SameRule row row := ⟨rfl, rfl, rfl, rfl⟩

theorem SameRule.trans {first second third : Schedule} (one : SameRule first second)
    (two : SameRule second third) : SameRule first third :=
  ⟨one.id.trans two.id, one.cadence.trans two.cadence, one.startDate.trans two.startDate,
    one.endDate.trans two.endDate⟩

theorem once_of_materialised {db : Db} (unique : db.KeysUnique) {id : ScheduleId} {date : NaiveDate}
    (materialised : Materialised db id date) :
    ∃! inv, inv ∈ db.invoices ∧ inv.idempotencyKey = some (runKey id date) := by
  obtain ⟨inv, member, keyed⟩ := materialised
  refine ⟨inv, ⟨member, keyed⟩, ?_⟩
  rintro other ⟨member', keyed'⟩
  have found := unique.findByIdempotencyKey member keyed
  have found' := unique.findByIdempotencyKey member' keyed'
  exact Option.some.inj (found'.symm.trans found)

theorem Billed.materialised {row : Schedule} {ticks : List NaiveDate} {n : ℕ} {db : Db}
    (billed : Billed row ticks n db) {m : ℕ} (before : m < n) {date : NaiveDate}
    (found : row.runDate m = some date) : Materialised db row.id date := by
  obtain ⟨inv, ⟨member, keyed⟩, _⟩ := billed.once m before date found
  exact ⟨inv, member, keyed⟩

/-- A row stands at one place of its recurrence. -/
theorem Billed.unique {row : Schedule} {ticks ticks' : List NaiveDate} {n n' : ℕ} {db db' : Db}
    (one : Billed row ticks n db) (two : Billed row ticks' n' db') : n = n' :=
  member_inj (fun _ _ => Cadence.advance_gt) one.follows.next two.follows.next

/-- The same row, where the same dates are materialised. -/
theorem Billed.congr {row : Schedule} {ticks ticks' : List NaiveDate} {n : ℕ} {db db' : Db}
    (unique : db'.KeysUnique) (billed : Billed row ticks n db)
    (follows : Follows row.cadence.advance row.startDate row.endDate ticks' (row.position n))
    (same : ∀ date, Materialised db' row.id date ↔ Materialised db row.id date) :
    Billed row ticks' n db' where
  follows := follows
  running := billed.running
  once := fun _ before date found =>
    once_of_materialised unique ((same date).mpr (billed.materialised before found))
  only := fun date years holds => billed.only date years ((same date).mp holds)

/-- **A tick that went through keeps a schedule billed**, done once more if it was due. -/
theorem Billed.tick {ctx : TickCtx} {db : Db} {row : Schedule} {ticks : List NaiveDate} {n : ℕ}
    (sound : db.Sound) (regular : (Action.tick ctx).Regular db)
    (stored : db.getSchedule row.id = some row) (billed : Billed row ticks n db) :
    ∃ row' n', (schedulesTick ctx db).2.getSchedule row.id = some row' ∧ SameRule row' row ∧
      Billed row' (ticks ++ [ctx.today]) n' (schedulesTick ctx db).2 ∧ n ≤ n' ∧ n' ≤ n + 1 := by
  obtain ⟨⟨output, done⟩, draws, years, rows⟩ := regular
  have later : ∀ a b, row.cadence.advance a = some b → a < b := fun _ _ => Cadence.advance_gt
  have unique' := (tickLoop_frame ⟨[], []⟩ sound draws).sound.keys
  have inYears := rows row (mem_of_find stored)
  have early : row.nextRun.text ≤ ctx.today.text ↔ row.nextRun ≤ ctx.today :=
    NaiveDate.text_le_iff inYears.1 inYears.2 years.1 years.2
  by_cases due : row ∈ db.dueSchedules ctx.today
  · obtain ⟨ran, next, createdAt, next', row'⟩ := schedulesTick_due sound draws done due
    obtain ⟨_, active, isDue⟩ := mem_dueSchedules.mp due
    have running : ¬ (row.position n).ended := by
      show ¬ row.state = .cancelled
      rw [active]
      exact ScheduleState.noConfusion
    have ended : (row.advanced next ctx.now).state = .cancelled ↔
        ∃ last ∈ row.endDate, last < next := by
      show (if _ then _ else _) = _ ↔ _
      split
      · rename_i past
        exact iff_of_true rfl past
      · rename_i inside
        exact iff_of_false running inside
    have taken := billed.follows.tick later (.take running (early.mp isDue) next')
    refine ⟨_, n + 1, row', ⟨rfl, rfl, rfl, rfl⟩, ⟨?_, ?_, ?_, ?_⟩, Nat.le_succ n, le_rfl⟩
    · show Follows row.cadence.advance row.startDate row.endDate _
        ⟨n + 1, next, (row.advanced next ctx.now).state = .cancelled⟩
      rw [show ((row.advanced next ctx.now).state = .cancelled) =
        ∃ last ∈ row.endDate, last < next from propext ended]
      exact taken
    · show (if _ then _ else _) ≠ _
      split
      · exact ScheduleState.noConfusion
      · exact billed.running
    · intro k before date found
      have found : row.runDate k = some date := found
      refine once_of_materialised unique' ?_
      by_cases same : row.runKey = runKey row.id date
      · obtain ⟨inv, member, keyed⟩ := ran
        exact ⟨inv, member, keyed.trans (congrArg some same)⟩
      · refine (schedulesTick_otherDates sound draws stored fun _ => same).mpr ?_
        rcases Nat.lt_succ_iff_lt_or_eq.mp before with less | rfl
        · exact billed.materialised less found
        · refine absurd ?_ same
          rw [Option.some.inj (billed.follows.next.symm.trans found).symm]
          rfl
    · intro date dateYears holds
      by_cases same : row.runKey = runKey row.id date
      · have sameDate : row.nextRun = date := NaiveDate.text_inj inYears.1 inYears.2 dateYears.1
          dateYears.2 (runKey_inj same).2
        refine ⟨n, Nat.lt_succ_self n, ?_⟩
        rw [← sameDate]
        exact billed.follows.next
      · have before := (schedulesTick_otherDates sound draws stored fun _ => same).mp holds
        obtain ⟨m, less, found⟩ := billed.only date dateYears before
        exact ⟨m, Nat.lt_succ_of_lt less, found⟩
  · have idle : (row.position n).ended ∨ ctx.today < (row.position n).next := by
      by_contra open'
      obtain ⟨running, isDue⟩ := not_or.mp open'
      refine due (mem_dueSchedules.mpr ⟨mem_of_find stored, ?_, early.mpr (not_lt.mp isDue)⟩)
      have notPaused := billed.running
      have notCancelled : ¬ row.state = .cancelled := running
      cases state : row.state with
      | active => rfl
      | paused => exact absurd state notPaused
      | cancelled => exact absurd state notCancelled
    refine ⟨row, n, schedulesTick_notDue sound draws stored due, .refl row, ?_, le_rfl, Nat.le_succ n⟩
    exact billed.congr unique' (billed.follows.tick later (.rest idle)) fun date =>
      schedulesTick_otherDates sound draws stored fun isDue => absurd isDue due

/-! ### Runs -/

/-- The keys of runs are of stored schedules. -/
def RunKeysOwned (db : Db) : Prop :=
  ∀ id date, Materialised db id date → db.getSchedule id ≠ none

/-- A created schedule is stored, and the others stay. -/
theorem getSchedule_created {ctx : CoreCtx} {input : ScheduleCreateInput} {db : Db}
    (fresh : db.getSchedule ctx.newScheduleId = none) {id : ScheduleId} {row : Schedule}
    (stored : db.getSchedule id = some row) :
    (scheduleCreate ctx input db).2.getSchedule id = some row := by
  cases created : (scheduleCreate ctx input db).1 with
  | error stop => rw [scheduleCreate_error created, stored]
  | ok output =>
    rw [(scheduleCreate_stored created).2.2]
    have different : id ≠ (newSchedule ctx input).id := by
      rintro rfl
      have absent : db.getSchedule (newSchedule ctx input).id = none := fresh
      rw [absent] at stored
      cases stored
    exact (find_upsert_other Schedule.keepsKey db.schedules different).trans stored

theorem scheduleCreate_invoices (ctx : CoreCtx) (input : ScheduleCreateInput) (db : Db) :
    (scheduleCreate ctx input db).2.invoices = db.invoices := by
  cases created : (scheduleCreate ctx input db).1 with
  | error stop => rw [scheduleCreate_error created]
  | ok output =>
    rw [(scheduleCreate_stored created).2.2]
    rfl

/-- **Regular actions keep the keys unique and the keys of runs owned.** -/
theorem Action.Regular.keeps {action : Action} {db : Db} (regular : action.Regular db)
    (sound : db.Sound) (owned : RunKeysOwned db) :
    (action.execute db).Sound ∧ RunKeysOwned (action.execute db) := by
  cases action with
  | create ctx input =>
    have invoices := scheduleCreate_invoices ctx input db
    refine ⟨⟨⟨?_, ?_⟩, ?_⟩, ?_⟩
    · show Distinct Invoice.id (scheduleCreate ctx input db).2.invoices
      rw [invoices]
      exact sound.keys.distinct
    · rw [show ((Action.create ctx input).execute db).invoices = db.invoices from invoices]
      exact sound.keys.keys
    · show Distinct Schedule.id (scheduleCreate ctx input db).2.schedules
      cases created : (scheduleCreate ctx input db).1 with
      | error stop =>
        rw [scheduleCreate_error created]
        exact sound.schedules
      | ok output =>
        rw [(scheduleCreate_stored created).2.2]
        exact distinct_upsert Schedule.keepsKey _ sound.schedules
    · rintro id date ⟨inv, member, keyed⟩
      have member : inv ∈ (scheduleCreate ctx input db).2.invoices := member
      rw [invoices] at member
      obtain ⟨row, stored⟩ := Option.ne_none_iff_exists'.mp (owned id date ⟨inv, member, keyed⟩)
      rw [show (Action.create ctx input).execute db = (scheduleCreate ctx input db).2 from rfl,
        getSchedule_created regular stored]
      exact Option.some_ne_none _
  | tick ctx =>
    obtain ⟨⟨output, done⟩, draws, _, _⟩ := regular
    have frame := tickLoop_frame ⟨[], []⟩ sound draws
    refine ⟨frame.sound, ?_⟩
    intro id date holds
    have stays : ∀ row, db.getSchedule id = some row →
        (schedulesTick ctx db).2.getSchedule id ≠ none := by
      intro row stored
      obtain rfl : row.id = id := key_of_find stored
      by_cases due : row ∈ db.dueSchedules ctx.today
      · obtain ⟨_, _, _, _, row'⟩ := schedulesTick_due sound draws done due
        rw [row']
        exact Option.some_ne_none _
      · rw [schedulesTick_notDue sound draws stored due]
        exact Option.some_ne_none _
    by_cases ours : ∃ row ∈ db.dueSchedules ctx.today, row.runKey = runKey id date
    · obtain ⟨row, due, same⟩ := ours
      obtain rfl : row.id = id := (runKey_inj same).1
      exact stays row (getSchedule_of_due sound due)
    · have others : ∀ row ∈ db.dueSchedules ctx.today, row.runKey ≠ runKey id date :=
        fun row due same => ours ⟨row, due, same⟩
      have before := (materialised_of_stays sound.keys frame.sound.keys
        (frame.keys _ others)).mp holds
      obtain ⟨row, stored⟩ := Option.ne_none_iff_exists'.mp (owned id date before)
      exact stays row stored
  | command other =>
    have aside : other.Aside db := regular
    have schedules := aside.schedules
    refine ⟨⟨Command.keysUnique sound.keys other, ?_⟩, ?_⟩
    · show Distinct Schedule.id (other.execute db).2.schedules
      rw [schedules]
      exact sound.schedules
    · intro id date holds
      show (other.execute db).2.getSchedule id ≠ none
      unfold Db.getSchedule
      rw [schedules]
      exact owned id date ((aside.materialised sound.keys id date).mp holds)

/-- **A regular action keeps a schedule billed.** -/
theorem Billed.step {action : Action} {db : Db} {row : Schedule} {ticks : List NaiveDate} {n : ℕ}
    (sound : db.Sound) (owned : RunKeysOwned db) (regular : action.Regular db)
    (stored : db.getSchedule row.id = some row) (billed : Billed row ticks n db) :
    ∃ row' n', (action.execute db).getSchedule row.id = some row' ∧ SameRule row' row ∧
      Billed row' (ticks ++ tickDates [action]) n' (action.execute db) ∧ n ≤ n' ∧ n' ≤ n + 1 := by
  have unique' := (regular.keeps sound owned).1.keys
  cases action with
  | create ctx input =>
    refine ⟨row, n, getSchedule_created regular stored, .refl row, ?_, le_rfl, Nat.le_succ n⟩
    rw [show ticks ++ tickDates [.create ctx input] = ticks from List.append_nil _]
    refine billed.congr unique' billed.follows fun date => ?_
    unfold Materialised
    rw [show ((Action.create ctx input).execute db).invoices = db.invoices from
      scheduleCreate_invoices ctx input db]
  | tick ctx => exact billed.tick sound regular stored
  | command other =>
    have aside : other.Aside db := regular
    refine ⟨row, n, ?_, .refl row, ?_, le_rfl, Nat.le_succ n⟩
    · show (other.execute db).2.getSchedule row.id = _
      unfold Db.getSchedule
      rw [aside.schedules]
      exact stored
    · rw [show ticks ++ tickDates [.command other] = ticks from List.append_nil _]
      exact billed.congr unique' billed.follows (aside.materialised sound.keys row.id)

/-- A run of regular actions keeps the keys unique and the keys of runs owned. -/
theorem runActions_keeps {db : Db} {actions : List Action} (sound : db.Sound)
    (owned : RunKeysOwned db) (regular : AllActions (fun db action => action.Regular db) db actions) :
    (runActions db actions).Sound ∧ RunKeysOwned (runActions db actions) := by
  induction actions generalizing db with
  | nil => exact ⟨sound, owned⟩
  | cons action rest ih =>
    obtain ⟨sound', owned'⟩ := regular.1.keeps sound owned
    exact ih sound' owned' regular.2

/-- A run of regular actions keeps a schedule billed. -/
theorem Billed.run {actions : List Action} {db : Db} {row : Schedule} {ticks : List NaiveDate}
    {n : ℕ} (sound : db.Sound) (owned : RunKeysOwned db)
    (regular : AllActions (fun db action => action.Regular db) db actions)
    (stored : db.getSchedule row.id = some row) (billed : Billed row ticks n db) :
    ∃ row' n', (runActions db actions).getSchedule row.id = some row' ∧ SameRule row' row ∧
      Billed row' (ticks ++ tickDates actions) n' (runActions db actions) := by
  induction actions generalizing db row ticks n with
  | nil =>
    refine ⟨row, n, stored, .refl row, ?_⟩
    rw [show ticks ++ tickDates [] = ticks from List.append_nil ticks]
    exact billed
  | cons action rest ih =>
    obtain ⟨sound', owned'⟩ := regular.1.keeps sound owned
    obtain ⟨row', n', stored', rule, billed', _⟩ := billed.step sound owned regular.1 stored
    rw [← rule.id] at stored'
    obtain ⟨row'', n'', stored'', rule', billed''⟩ := ih sound' owned' regular.2 stored' billed'
    refine ⟨row'', n'', rule.id ▸ stored'', rule'.trans rule, ?_⟩
    have dates : ticks ++ tickDates [action] ++ tickDates rest = ticks ++ tickDates (action :: rest) := by
      cases action <;> simp [tickDates]
    rw [← dates]
    exact billed''

/-- **A billed schedule at every moment of a run.** -/
theorem Billed.moments {actions : List Action} {db : Db} {row : Schedule} {n : ℕ} (sound : db.Sound)
    (owned : RunKeysOwned db)
    (regular : AllActions (fun db action => action.Regular db) db actions)
    (stored : db.getSchedule row.id = some row) (billed : Billed row [] n db) :
    ∃ (rows : ℕ → Schedule) (count : ℕ → ℕ),
      (∀ k, (runActions db (actions.take k)).getSchedule row.id = some (rows k) ∧
          SameRule (rows k) row ∧
          Billed (rows k) (tickDates (actions.take k)) (count k)
            (runActions db (actions.take k))) ∧
      ∀ k, count k ≤ count (k + 1) ∧ count (k + 1) ≤ count k + 1 := by
  have split : ∀ k, AllActions (fun db action => action.Regular db) db (actions.take k) ∧
      AllActions (fun db action => action.Regular db) (runActions db (actions.take k))
        (actions.drop k) := by
    intro k
    rw [← allActions_append, List.take_append_drop]
    exact regular
  choose rows count moments using fun k => billed.run sound owned (split k).1 stored
  refine ⟨rows, count, moments, ?_⟩
  intro k
  obtain ⟨stored', rule, billed'⟩ := moments k
  obtain ⟨next, _, nextBilled⟩ := moments (k + 1)
  cases there : actions[k]? with
  | none =>
    have all := List.getElem?_eq_none_iff.mp there
    rw [List.take_of_length_le (Nat.le_succ_of_le all)] at next nextBilled
    rw [List.take_of_length_le all] at stored' billed'
    rw [stored'] at next
    obtain same := Option.some.inj next
    rw [← same] at nextBilled
    rw [nextBilled.unique billed']
    exact ⟨le_rfl, Nat.le_succ _⟩
  | some action =>
    obtain ⟨inside, rfl⟩ := List.getElem?_eq_some_iff.mp there
    have later := (split k).2
    rw [← List.getElem_cons_drop inside] at later
    obtain ⟨sound', owned'⟩ := runActions_keeps sound owned (split k).1
    rw [← rule.id] at stored' next
    obtain ⟨row', n', after, _, billed'', grows⟩ := billed'.step sound' owned' later.1 stored'
    have one : runActions db (actions.take (k + 1)) =
        actions[k].execute (runActions db (actions.take k)) := by
      rw [List.take_succ_eq_append_getElem inside, runActions_append]
      rfl
    rw [one, after] at next
    obtain same := Option.some.inj next
    rw [← same] at nextBilled
    rw [nextBilled.unique billed'']
    exact grows

/-- A created schedule is billed for no date. -/
theorem billed_of_created {ctx : CoreCtx} {input : ScheduleCreateInput} {db : Db}
    {output : ScheduleCreateOutput} (owned : RunKeysOwned db)
    (fresh : db.getSchedule ctx.newScheduleId = none)
    (accepted : (scheduleCreate ctx input db).1 = .ok output) :
    (scheduleCreate ctx input db).2.getSchedule output.schedule.id = some output.schedule ∧
      Billed output.schedule [] 0 (scheduleCreate ctx input db).2 := by
  obtain ⟨valid, made, stored⟩ := scheduleCreate_stored accepted
  have inside : ∀ last ∈ input.endDate, input.startDate ≤ last := by
    intro last isEnd
    have inOrder := (ScheduleCreateInput.validate_ok valid).2.2
    exact not_lt.mp fun early => inOrder ⟨last, isEnd, early⟩
  rw [made]
  refine ⟨?_, ?_, ScheduleState.noConfusion, fun m none => absurd none (Nat.not_lt_zero m), ?_⟩
  · rw [stored, Db.getSchedule_put, show db.getSchedule (newSchedule ctx input).id = none from fresh]
    rfl
  · rw [show (newSchedule ctx input).position 0 = ⟨0, input.startDate, False⟩ from
      congrArg (Position.mk 0 input.startDate) (eq_false ScheduleState.noConfusion)]
    exact .begun inside
  · rintro date _ ⟨inv, member, keyed⟩
    rw [scheduleCreate_invoices] at member
    exact absurd fresh (owned _ date ⟨inv, member, keyed⟩)

/-- **Every accepted schedule is billed once for each of its run dates**, at every moment after its
creation: the dates done are a prefix of its recurrence inside its end date, each done by a tick at or
after it, and at most one more at a time; its row stands at the next date, and is cancelled exactly
when that lies past the end. A date is done after one more tick at or after it than there are dates
before it. -/
theorem materialised_once {start : Db} {before after : List Action} {ctx : CoreCtx}
    {input : ScheduleCreateInput} {output : ScheduleCreateOutput} (unique : start.KeysUnique)
    (noSchedules : start.schedules = [])
    (unused : ∀ inv ∈ start.invoices, ∀ id date, inv.idempotencyKey ≠ some (runKey id date))
    (regular : AllActions (fun db action => action.Regular db) start
      (before ++ .create ctx input :: after))
    (accepted : (scheduleCreate ctx input (runActions start before)).1 = .ok output) :
    ∃ (row : ℕ → Schedule) (count : ℕ → ℕ),
      (∀ k, (runActions start (before ++ .create ctx input :: after.take k)).getSchedule
            output.schedule.id = some (row k) ∧ SameRule (row k) output.schedule ∧
          Billed (row k) (tickDates (after.take k)) (count k)
            (runActions start (before ++ .create ctx input :: after.take k))) ∧
      (∀ k, count k ≤ count (k + 1) ∧ count (k + 1) ≤ count k + 1) ∧
      ∀ k m date, (row k).runDate m = some date → (∀ last ∈ (row k).endDate, date ≤ last) →
        m < (tickDates (after.take k)).countP (fun today => decide (date ≤ today)) →
        m < count k := by
  have sound : start.Sound := by
    refine ⟨unique, ?_⟩
    rw [noSchedules]
    exact List.nodup_nil
  have owned : RunKeysOwned start := by
    rintro id date ⟨inv, member, keyed⟩
    exact absurd keyed (unused inv member id date)
  obtain ⟨first, fresh, second⟩ := allActions_append.mp regular
  obtain ⟨sound, owned⟩ := runActions_keeps sound owned first
  obtain ⟨stored, begun⟩ := billed_of_created owned fresh accepted
  have kept : ((Action.create ctx input).execute (runActions start before)).Sound ∧
      RunKeysOwned ((Action.create ctx input).execute (runActions start before)) :=
    Action.Regular.keeps fresh sound owned
  obtain ⟨rows, count, moments, grows⟩ := begun.moments kept.1 kept.2 second stored
  have whole : ∀ k, runActions start (before ++ .create ctx input :: after.take k) =
      runActions (scheduleCreate ctx input (runActions start before)).2 (after.take k) :=
    fun k => runActions_append start before _
  refine ⟨rows, count, ?_, grows, ?_⟩
  · intro k
    rw [whole k]
    exact moments k
  · intro k m date found inside enough
    exact (moments k).2.2.follows.complete found inside enough

/-- The first tick draws a new id. -/
theorem monthlyDb_draws : DrawsFresh firstTick (monthlyDb.dueSchedules firstTick.today) monthlyDb := by
  have due : monthlyDb.dueSchedules firstTick.today = [monthly] := by decide +kernel
  rw [due]
  refine ⟨?_, List.nodup_singleton _⟩
  intro row member
  rw [List.mem_singleton.mp member]
  rfl

/-- The schedule of the first of March and its first tick: the first of March is billed. -/
theorem materialised_once_in_march :
    ∃ row count,
      (runActions sampleDb ([] ++ .create (sampleCtx (oneOClock firstOfMarch) 1) sampleSchedule ::
        [.tick firstTick])).getSchedule monthly.id = some row ∧
      Billed row [firstOfMarch] count
        (runActions sampleDb ([] ++ .create (sampleCtx (oneOClock firstOfMarch) 1) sampleSchedule ::
          [.tick firstTick])) ∧ 0 < count := by
  have years : ∀ row ∈ monthlyDb.schedules, InYears row.nextRun := by
    intro row member
    rw [List.mem_singleton.mp member]
    exact ⟨by decide, by decide⟩
  have tick : (Action.tick firstTick).Regular monthlyDb :=
    ⟨⟨_, rfl⟩, monthlyDb_draws, ⟨by decide, by decide⟩, years⟩
  have unique : sampleDb.KeysUnique := ⟨List.nodup_nil, fun _ absent => by cases absent⟩
  have accepted : (scheduleCreate (sampleCtx (oneOClock firstOfMarch) 1) sampleSchedule
      (runActions sampleDb [])).1 = .ok ⟨monthly⟩ := rfl
  have regular : AllActions (fun db action => action.Regular db) sampleDb
      ([] ++ .create (sampleCtx (oneOClock firstOfMarch) 1) sampleSchedule :: [.tick firstTick]) :=
    ⟨rfl, tick, trivial⟩
  obtain ⟨rows, count, moments, _, complete⟩ := materialised_once unique rfl
    (fun _ absent => by cases absent) regular accepted
  obtain ⟨stored, rule, billed⟩ := moments 1
  refine ⟨rows 1, count 1, stored, billed, complete 1 0 firstOfMarch ?_ ?_ (by decide +kernel)⟩
  · exact congrArg some rule.startDate
  · intro last isEnd
    rw [rule.endDate] at isEnd
    cases isEnd

end Invoicing
