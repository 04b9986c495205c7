/-
**Schedules, ticks and commands executed one at a time.**

* `Action` — a schedule is created, a tick, or another command; `runActions` runs a list of them.
* `Action.Each P` — `P` holds of each invoice command an action executes, its tick's drafts and issues
  included, and of the tables it is executed on.
* **`Action.keeps`**, **`runActions_keeps_of`** — whatever the commits of invoice commands keep, and
  whatever leaves the invoice tables alone keeps, every run of actions keeps.
-/

import Invoicing.Commands.Schedule
import Invoicing.Runs.Stays

namespace Invoicing

/-! ### Actions -/

/-- A schedule is created, a tick, or another command. -/
inductive Action
  | create (ctx : CoreCtx) (input : ScheduleCreateInput)
  | tick (ctx : TickCtx)
  | command (command : Command)

def Action.execute (action : Action) (db : Db) : Db :=
  match action with
  | .create ctx input => (scheduleCreate ctx input db).2
  | .tick ctx => (schedulesTick ctx db).2
  | .command other => (other.execute db).2

/-- Run actions one after the other. -/
def runActions (db : Db) : List Action → Db
  | [] => db
  | action :: rest => runActions (action.execute db) rest

/-- The condition holds of each action where it is executed. -/
def AllActions (P : Db → Action → Prop) (db : Db) : List Action → Prop
  | [] => True
  | action :: rest => P db action ∧ AllActions P (action.execute db) rest

theorem runActions_append (db : Db) (first second : List Action) :
    runActions db (first ++ second) = runActions (runActions db first) second := by
  induction first generalizing db with
  | nil => rfl
  | cons action rest ih => exact ih _

theorem allActions_append {P : Db → Action → Prop} {db : Db} {first second : List Action} :
    AllActions P db (first ++ second) ↔
      AllActions P db first ∧ AllActions P (runActions db first) second := by
  induction first generalizing db with
  | nil => simp [AllActions, runActions]
  | cons action rest ih => simp only [List.cons_append, AllActions, runActions, ih, and_assoc]

/-- The condition at an action, and at those before it. -/
theorem AllActions.at {P : Db → Action → Prop} {db : Db} {before after : List Action}
    {action : Action} (all : AllActions P db (before ++ action :: after)) :
    AllActions P db before ∧ P (runActions db before) action := by
  obtain ⟨first, here, _⟩ := allActions_append.mp all
  exact ⟨first, here⟩

/-! ### The invoice commands of an action -/

/-- The condition holds of each draft and issue of the loop of a tick. -/
def EachOfLoop (P : Db → Request → Prop) (ctx : TickCtx) : List Schedule → Db → Prop
  | [], _ => True
  | schedule :: rest, db =>
      if schedule.state ≠ .active then EachOfLoop P ctx rest db
      else P db (.draft (ctx.draft schedule.id) schedule.draftInput) ∧
        (∀ drafted after, draftStep ctx schedule db = (.ok drafted, after) →
          schedule.autoIssue = true →
            P after (.issue (ctx.issue schedule.id) (tickIssueInput drafted.invoice.id))) ∧
        EachOfLoop P ctx rest (materialise ctx schedule db).2

/-- The condition holds of each invoice command an action executes. -/
def Action.Each (P : Db → Request → Prop) (db : Db) : Action → Prop
  | .tick ctx => EachOfLoop P ctx (db.dueSchedules ctx.today) db
  | .command (.invoice request) => P db request
  | _ => True

theorem eachOfLoop_of_forall {P : Db → Request → Prop} (all : ∀ db request, P db request)
    (ctx : TickCtx) (rows : List Schedule) (db : Db) : EachOfLoop P ctx rows db := by
  induction rows generalizing db with
  | nil => trivial
  | cons schedule rest ih =>
    unfold EachOfLoop
    split
    · exact ih db
    · exact ⟨all _ _, fun _ _ _ _ => all _ _, ih _⟩

theorem Action.each_of_forall {P : Db → Request → Prop} (all : ∀ db request, P db request) (db : Db)
    (action : Action) : action.Each P db := by
  cases action with
  | create ctx input => trivial
  | tick ctx => exact eachOfLoop_of_forall all ctx _ db
  | command other =>
    cases other with
    | invoice request => exact all db request
    | _ => trivial

/-! ### Invariants -/

section Invariant

variable {I : Db → Prop} {P : Db → Request → Prop}
  (same : ∀ {before after : Db}, SameInvoices before after → I before → I after)
  (request : ∀ {db : Db} {request : Request}, I db → P db request → I (request.execute db).2)

include same request

theorem materialise_keeps {ctx : TickCtx} {schedule : Schedule} {db : Db} (holds : I db)
    (draft : P db (.draft (ctx.draft schedule.id) schedule.draftInput))
    (issue : ∀ drafted after, draftStep ctx schedule db = (.ok drafted, after) →
      schedule.autoIssue = true →
        P after (.issue (ctx.issue schedule.id) (tickIssueInput drafted.invoice.id))) :
    I (materialise ctx schedule db).2 := by
  have drafted : I (draftStep ctx schedule db).2 := request holds draft
  have issued : ∀ {output : DraftInvoiceOutput} {between after : Db},
      draftStep ctx schedule db = (.ok output, between) →
      issueStep ctx schedule output between = (.ok (), after) → I after := by
    intro output between after drafts step
    have here : I between := by
      rw [drafts] at drafted
      exact drafted
    rcases issueStep_cases ctx schedule output between with
      ⟨_, skipped⟩ | ⟨auto, ⟨stop, _, failed⟩ | ⟨done, _, after'⟩⟩
    · rw [skipped] at step
      cases step
      exact here
    · rw [failed] at step
      cases step
    · rw [after'] at step
      cases step
      exact request here (issue _ _ drafts auto)
  have ends := materialise_cases ctx schedule db
  generalize materialise ctx schedule db = result at ends ⊢
  cases ends with
  | refused step => exact holds
  | drafted step failed =>
    rw [step] at drafted
    exact drafted
  | issued step done failed => exact issued step done
  | done step done next =>
    refine same ?_ (issued step done)
    exact ⟨rfl, rfl, rfl, rfl⟩

theorem tickLoop_keeps {ctx : TickCtx} {rows : List Schedule} (done : SchedulesTickOutput) {db : Db}
    (holds : I db) (each : EachOfLoop P ctx rows db) : I (tickLoop ctx rows done db).2 := by
  induction rows generalizing done db with
  | nil => exact holds
  | cons schedule rest ih =>
    unfold EachOfLoop at each
    rw [tickLoop]
    split
    · rename_i inactive
      rw [if_pos inactive] at each
      exact ih done holds each
    · rename_i active
      rw [if_neg active] at each
      obtain ⟨draft, issue, others⟩ := each
      have kept := materialise_keeps same request holds draft issue
      cases ran : materialise ctx schedule db with
      | mk result after =>
        rw [ran] at kept others
        cases result with
        | error stop => exact kept
        | ok drafted => exact ih _ kept others

/-- **An action keeps whatever its invoice commands keep.** -/
theorem Action.keeps {action : Action} {db : Db} (holds : I db) (each : action.Each P db) :
    I (action.execute db) := by
  cases action with
  | create ctx input =>
    refine same ?_ holds
    show SameInvoices db (scheduleCreate ctx input db).2
    unfold scheduleCreate
    cases input.validate with
    | error stop => exact .refl db
    | ok _ =>
      show SameInvoices db (saveRow (newSchedule ctx input) _ db).2
      unfold saveRow
      cases saved : db.saveSchedule (newSchedule ctx input) with
      | error e => exact .refl db
      | ok db' =>
        rw [Db.saveSchedule_ok saved]
        exact ⟨rfl, rfl, rfl, rfl⟩
  | tick ctx => exact tickLoop_keeps same request _ holds each
  | command other =>
    cases other with
    | invoice call => exact request holds each
    | createCreditNote ctx input => exact same (performCredit_sameInvoices _ _ db) holds
    | issueCreditNote ctx input => exact same (performCredit_sameInvoices _ _ db) holds
    | elsewhere write =>
      refine same ?_ holds
      exact ⟨rfl, rfl, rfl, rfl⟩

/-- **A run of actions keeps whatever its invoice commands keep.** -/
theorem runActions_keeps_of {db : Db} {actions : List Action} (holds : I db)
    (each : AllActions (fun db action => action.Each P db) db actions) :
    I (runActions db actions) := by
  induction actions generalizing db with
  | nil => exact holds
  | cons action rest ih => exact ih (Action.keeps same request holds each.1) each.2

end Invariant

theorem allActions_of_forall {P : Db → Action → Prop} (all : ∀ db action, P db action) (db : Db)
    (actions : List Action) : AllActions P db actions := by
  induction actions generalizing db with
  | nil => trivial
  | cons action rest ih => exact ⟨all db action, ih _⟩

end Invoicing
