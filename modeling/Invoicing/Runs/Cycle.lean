/-
**What one run of a schedule changes.**

* `Db.Sound` — the keys of invoices and schedules are unique. `DrawsFresh` — a tick draws a new id for
  each draft.
* `RunFrame` — what a run leaves alone: whatever is stored under other keys, the ids it did not draw,
  and the other schedules. **`materialise_frame`** — one run does, wherever it ends;
  **`tickLoop_frame`** — and so does the loop over any list of schedules.
* `runKey_inj` — the keys of the runs of two schedules differ.
-/

import Invoicing.Commands.Schedule
import Invoicing.Runs.Stays

namespace Invoicing

open Chrono KeyedTable

/-! ### Keys of runs -/

theorem length_idText {entity : Entity} (id : EntityId entity) :
    id.text.toList.length = entity.prefixText.toList.length + 27 := by
  simp only [EntityId.text, String.toList_append, String.toList_ofList, List.length_append,
    EntityId.length_suffix]
  rfl

/-- **The key of a run names its schedule and the text of its date.** -/
theorem runKey_inj {id other : ScheduleId} {date date' : NaiveDate}
    (same : runKey id date = runKey other date') : id = other ∧ date.text = date'.text := by
  have lists := congrArg String.toList same
  simp only [runKey, String.toList_append, String.toList_ofList, List.append_assoc] at lists
  have rest := List.append_cancel_left lists
  obtain ⟨ids, tails⟩ := List.append_inj rest (by rw [length_idText, length_idText])
  refine ⟨EntityId.text_injective (String.toList_injective ids), ?_⟩
  exact List.append_cancel_left tails

theorem runKey_ne {schedule other : Schedule} (different : schedule.id ≠ other.id) :
    schedule.runKey ≠ other.runKey := fun same => different (runKey_inj same).1

/-! ### Sound tables -/

/-- The keys of invoices and schedules are unique. -/
structure Db.Sound (db : Db) : Prop where
  keys : db.KeysUnique
  schedules : Distinct Schedule.id db.schedules

/-- What a step of a run of schedule `id`, under a key and with a drawn invoice id, leaves alone. -/
structure RunFrame (key : String) (drawn : InvoiceId) (id : ScheduleId) (before after : Db) :
    Prop where
  sound : after.Sound
  keys : ∀ other, other ≠ key → KeyStays other before after
  absent : ∀ other, other ≠ drawn → before.getInvoice other = none → after.getInvoice other = none
  rows : ∀ other, other ≠ id → after.getSchedule other = before.getSchedule other

section Frame

variable {key : String} {drawn : InvoiceId} {id : ScheduleId}

theorem RunFrame.refl {db : Db} (sound : db.Sound) : RunFrame key drawn id db db :=
  ⟨sound, fun _ _ => .refl _ _, fun _ _ absent => absent, fun _ _ => rfl⟩

theorem RunFrame.trans {first second third : Db} (one : RunFrame key drawn id first second)
    (two : RunFrame key drawn id second third) : RunFrame key drawn id first third where
  sound := two.sound
  keys := fun other different => (one.keys other different).trans (two.keys other different)
  absent := fun other different absent =>
    two.absent other different (one.absent other different absent)
  rows := fun other different => (two.rows other different).trans (one.rows other different)

/-- An invoice command that leaves other keys and other absent ids alone. -/
theorem RunFrame.ofRequest {db : Db} (sound : db.Sound) (request : Request)
    (keys : ∀ other, other ≠ key → (Command.invoice request).LeavesKey other db)
    (absent : ∀ other, other ≠ drawn → db.getInvoice other = none → ¬ request.On other) :
    RunFrame key drawn id db (request.execute db).2 where
  sound := by
    refine ⟨Command.keysUnique sound.keys (.invoice request), ?_⟩
    rw [(request.leaves_others db).2]
    exact sound.schedules
  keys := fun other different => Command.keyStays sound.keys (keys other different)
  absent := by
    intro other different none
    have leaves : (Command.invoice request).Leaves other := absent other different none
    have stays : InvoiceStays other db (request.execute db).2 := Command.stays leaves db
    rw [stays.invoice]
    exact none
  rows := by
    intro other _
    unfold Db.getSchedule
    rw [(request.leaves_others db).2]

end Frame

/-! ### One run -/

/-- The draft step of a run, under a fresh id. -/
theorem draftStep_frame (ctx : TickCtx) {schedule : Schedule} {db : Db} (sound : db.Sound)
    (fresh : db.getInvoice (ctx.draft schedule.id).newInvoiceId = none) :
    RunFrame schedule.runKey (ctx.draft schedule.id).newInvoiceId schedule.id db
      (draftStep ctx schedule db).2 := by
  refine RunFrame.ofRequest sound (.draft (ctx.draft schedule.id) schedule.draftInput) ?_ ?_
  · intro other different
    refine ⟨fun same => different (Option.some.inj same).symm, ?_⟩
    intro inv found on
    obtain ⟨member, _⟩ := sound.keys.findByIdempotencyKey_iff.mp found
    have stored := find_of_mem sound.keys.distinct member
    have target : (ctx.draft schedule.id).newInvoiceId = inv.id := on
    rw [target] at fresh
    exact absurd (stored.symm.trans fresh) (Option.some_ne_none _)
  · intro other different _ on
    exact different on.symm

/-- The draft and the issue leave the customers and the schedules. -/
theorem draftStep_leaves (ctx : TickCtx) (schedule : Schedule) (db : Db) :
    (draftStep ctx schedule db).2.customers = db.customers ∧
      (draftStep ctx schedule db).2.schedules = db.schedules :=
  Request.leaves_others (.draft (ctx.draft schedule.id) schedule.draftInput) db

theorem issueStep_leaves (ctx : TickCtx) (schedule : Schedule) (output : DraftInvoiceOutput)
    (db : Db) : (issueStep ctx schedule output db).2.customers = db.customers ∧
      (issueStep ctx schedule output db).2.schedules = db.schedules := by
  rcases issueStep_cases ctx schedule output db with
    ⟨_, same⟩ | ⟨_, ⟨stop, _, same⟩ | ⟨issued, _, same⟩⟩
  · exact ⟨by rw [same], by rw [same]⟩
  · exact ⟨by rw [same], by rw [same]⟩
  · rw [same]
    exact Request.leaves_others
      (.issue (ctx.issue schedule.id) (tickIssueInput output.invoice.id)) db

/-- What the draft step leaves under the key of the run. -/
theorem draftStep_stored {ctx : TickCtx} {schedule : Schedule} {db after : Db}
    {output : DraftInvoiceOutput} (sound : db.Sound)
    (fresh : db.getInvoice (ctx.draft schedule.id).newInvoiceId = none)
    (draft : draftStep ctx schedule db = (.ok output, after)) :
    schedule.draftInput.validate = .ok () ∧
      output.invoice.idempotencyKey = some schedule.runKey ∧
      after.getInvoice output.invoice.id = some output.invoice := by
  have done : (draftInvoice (ctx.draft schedule.id) schedule.draftInput db).1 = .ok output :=
    congrArg Prod.fst draft
  have stored := draftInvoice_stored sound.keys fresh rfl done
  have same : (draftInvoice (ctx.draft schedule.id) schedule.draftInput db).2 = after :=
    congrArg Prod.snd draft
  rw [same] at stored
  exact stored

/-- The issue step of a run, on the invoice under its key. -/
theorem issueStep_frame (ctx : TickCtx) (drawn : InvoiceId) {schedule : Schedule} {db : Db}
    {output : DraftInvoiceOutput} (sound : db.Sound)
    (keyed : output.invoice.idempotencyKey = some schedule.runKey)
    (stored : db.getInvoice output.invoice.id = some output.invoice) :
    RunFrame schedule.runKey drawn schedule.id db (issueStep ctx schedule output db).2 := by
  rcases issueStep_cases ctx schedule output db with
    ⟨_, same⟩ | ⟨_, ⟨stop, _, same⟩ | ⟨issued, _, same⟩⟩
  · rw [same]
    exact .refl sound
  · rw [same]
    exact .refl sound
  · rw [same]
    refine RunFrame.ofRequest sound
      (.issue (ctx.issue schedule.id) (tickIssueInput output.invoice.id)) ?_ ?_
    · intro other different
      refine ⟨(Option.some_ne_none other).symm, ?_⟩
      intro inv found on
      obtain ⟨member, holds⟩ := sound.keys.findByIdempotencyKey_iff.mp found
      have target : output.invoice.id = inv.id := on
      have theirs : db.getInvoice inv.id = some inv := find_of_mem sound.keys.distinct member
      rw [target, theirs] at stored
      cases stored
      exact different (Option.some.inj (holds.symm.trans keyed))
    · intro other _ absent on
      have target : output.invoice.id = other := on
      rw [← target, stored] at absent
      cases absent

/-- Saving a schedule leaves the invoices and the other schedules. -/
theorem putSchedule_frame (key : String) (drawn : InvoiceId) {db : Db} (sound : db.Sound)
    (row : Schedule) : RunFrame key drawn row.id db (db.putSchedule row) where
  sound := ⟨⟨sound.keys.distinct, sound.keys.keys⟩,
    distinct_upsert Schedule.keepsKey row sound.schedules⟩
  keys := by
    intro other _
    refine SameInvoices.keyStays ?_ other
    exact ⟨rfl, rfl, rfl, rfl⟩
  absent := fun _ _ absent => absent
  rows := by
    intro other different
    exact find_upsert_other Schedule.keepsKey db.schedules different

/-- **What a run of a schedule leaves alone**, wherever it ends. -/
theorem materialise_frame {ctx : TickCtx} {schedule : Schedule} {db : Db} (sound : db.Sound)
    (fresh : db.getInvoice (ctx.draft schedule.id).newInvoiceId = none) :
    RunFrame schedule.runKey (ctx.draft schedule.id).newInvoiceId schedule.id db
      (materialise ctx schedule db).2 := by
  have first : ∀ {output : DraftInvoiceOutput} {after : Db},
      draftStep ctx schedule db = (.ok output, after) →
      RunFrame schedule.runKey (ctx.draft schedule.id).newInvoiceId schedule.id db after := by
    intro output after draft
    have frame := draftStep_frame ctx sound fresh
    rw [draft] at frame
    exact frame
  have second : ∀ {output : DraftInvoiceOutput} {between after : Db},
      draftStep ctx schedule db = (.ok output, between) →
      issueStep ctx schedule output between = (.ok (), after) →
      RunFrame schedule.runKey (ctx.draft schedule.id).newInvoiceId schedule.id db after := by
    intro output between after draft issue
    obtain ⟨_, keyed, stored⟩ := draftStep_stored sound fresh draft
    have frame := issueStep_frame ctx (ctx.draft schedule.id).newInvoiceId (first draft).sound keyed
      stored
    rw [issue] at frame
    exact (first draft).trans frame
  have ends := materialise_cases ctx schedule db
  generalize materialise ctx schedule db = result at ends ⊢
  cases ends with
  | refused draft => exact .refl sound
  | drafted draft issue => exact first draft
  | issued draft issue save => exact second draft issue
  | done draft issue next =>
    exact (second draft issue).trans
      (putSchedule_frame _ _ (second draft issue).sound (schedule.advanced _ ctx.now))

/-! ### The loop -/

/-- A tick draws a new id for the draft of each schedule in the list. -/
structure DrawsFresh (ctx : TickCtx) (rows : List Schedule) (db : Db) : Prop where
  absent : ∀ row ∈ rows, db.getInvoice (ctx.draft row.id).newInvoiceId = none
  distinct : (rows.map fun row => (ctx.draft row.id).newInvoiceId).Nodup

/-- A list of schedules goes on drawing new ids after the run of its first. -/
theorem DrawsFresh.after {ctx : TickCtx} {schedule : Schedule} {rest : List Schedule} {db : Db}
    (draws : DrawsFresh ctx (schedule :: rest) db) (sound : db.Sound) :
    DrawsFresh ctx rest (materialise ctx schedule db).2 := by
  obtain ⟨notThere, distinct⟩ := List.nodup_cons.mp draws.distinct
  refine ⟨?_, distinct⟩
  intro row member
  have frame := materialise_frame sound (draws.absent schedule List.mem_cons_self)
  refine frame.absent _ ?_ (draws.absent row (List.mem_cons_of_mem _ member))
  intro same
  exact notThere (List.mem_map.mpr ⟨row, member, same⟩)

theorem DrawsFresh.tail {ctx : TickCtx} {schedule : Schedule} {rest : List Schedule} {db : Db}
    (draws : DrawsFresh ctx (schedule :: rest) db) : DrawsFresh ctx rest db :=
  ⟨fun row member => draws.absent row (List.mem_cons_of_mem _ member),
    (List.nodup_cons.mp draws.distinct).2⟩

/-- What the runs of a list of schedules leave alone. -/
structure LoopFrame (ctx : TickCtx) (rows : List Schedule) (before after : Db) : Prop where
  sound : after.Sound
  keys : ∀ key, (∀ row ∈ rows, row.runKey ≠ key) → KeyStays key before after
  absent : ∀ id, (∀ row ∈ rows, (ctx.draft row.id).newInvoiceId ≠ id) →
    before.getInvoice id = none → after.getInvoice id = none
  rows : ∀ id, (∀ row ∈ rows, row.id ≠ id) → after.getSchedule id = before.getSchedule id

theorem LoopFrame.refl {ctx : TickCtx} {rows : List Schedule} {db : Db} (sound : db.Sound) :
    LoopFrame ctx rows db db :=
  ⟨sound, fun _ _ => .refl _ _, fun _ _ absent => absent, fun _ _ => rfl⟩

theorem LoopFrame.cons {ctx : TickCtx} {schedule : Schedule} {rest : List Schedule}
    {first second third : Db}
    (one : RunFrame schedule.runKey (ctx.draft schedule.id).newInvoiceId schedule.id first second)
    (others : LoopFrame ctx rest second third) : LoopFrame ctx (schedule :: rest) first third where
  sound := others.sound
  keys := by
    intro key different
    have inRest := fun row member => different row (List.mem_cons_of_mem _ member)
    exact (one.keys key (different schedule List.mem_cons_self).symm).trans (others.keys key inRest)
  absent := by
    intro id different absent
    have inRest := fun row member => different row (List.mem_cons_of_mem _ member)
    exact others.absent id inRest (one.absent id (different schedule List.mem_cons_self).symm absent)
  rows := by
    intro id different
    have inRest := fun row member => different row (List.mem_cons_of_mem _ member)
    exact (others.rows id inRest).trans (one.rows id (different schedule List.mem_cons_self).symm)

/-- **The loop over any schedules leaves other keys and other schedules alone.** -/
theorem tickLoop_frame {ctx : TickCtx} {rows : List Schedule} (done : SchedulesTickOutput) {db : Db}
    (sound : db.Sound) (draws : DrawsFresh ctx rows db) :
    LoopFrame ctx rows db (tickLoop ctx rows done db).2 := by
  induction rows generalizing done db with
  | nil => exact .refl sound
  | cons schedule rest ih =>
    rw [tickLoop]
    split
    · exact .cons (.refl sound) (ih done sound draws.tail)
    · have frame := materialise_frame sound (draws.absent schedule List.mem_cons_self)
      have draws' := draws.after sound
      cases ran : materialise ctx schedule db with
      | mk result after =>
        rw [ran] at frame draws'
        cases result with
        | error stop => exact .cons frame (.refl frame.sound)
        | ok drafted => exact .cons frame (ih _ frame.sound draws')

/-- A tick goes on drawing new ids behind the schedules it has been through. -/
theorem DrawsFresh.behind {ctx : TickCtx} {ahead behind : List Schedule} {db : Db}
    (draws : DrawsFresh ctx (ahead ++ behind) db) (sound : db.Sound) (done : SchedulesTickOutput) :
    DrawsFresh ctx ahead db ∧ DrawsFresh ctx behind (tickLoop ctx ahead done db).2 := by
  have distinct := draws.distinct
  rw [List.map_append, List.nodup_append] at distinct
  obtain ⟨first, second, apart⟩ := distinct
  have draws' : DrawsFresh ctx ahead db :=
    ⟨fun row member => draws.absent row (List.mem_append_left _ member), first⟩
  refine ⟨draws', ?_, second⟩
  intro row member
  refine (tickLoop_frame done sound draws').absent _ ?_
    (draws.absent row (List.mem_append_right _ member))
  intro other there
  exact apart _ (List.mem_map_of_mem there) _ (List.mem_map_of_mem member)

/-- The loop over two lists is one loop after the other. -/
theorem tickLoop_append (ctx : TickCtx) (first second : List Schedule) (done : SchedulesTickOutput)
    (db : Db) : tickLoop ctx (first ++ second) done db =
      andThen (tickLoop ctx first done db) (tickLoop ctx second) := by
  induction first generalizing done db with
  | nil => rfl
  | cons schedule rest ih =>
    rw [List.cons_append, tickLoop, tickLoop]
    split
    · exact ih done db
    · cases materialise ctx schedule db with
      | mk result after =>
        cases result with
        | error stop => rfl
        | ok drafted => exact ih _ after

/-! ### The due schedules -/

/-- Which schedules are due. -/
theorem mem_dueSchedules {db : Db} {cutoff : NaiveDate} {row : Schedule} :
    row ∈ db.dueSchedules cutoff ↔
      row ∈ db.schedules ∧ row.state = .active ∧ row.nextRun.text ≤ cutoff.text := by
  unfold Db.dueSchedules
  rw [List.mem_insertionSort, List.mem_filter]
  simp

theorem getSchedule_of_due {db : Db} {cutoff : NaiveDate} {row : Schedule} (sound : db.Sound)
    (due : row ∈ db.dueSchedules cutoff) : db.getSchedule row.id = some row :=
  find_of_mem sound.schedules (mem_dueSchedules.mp due).1

/-- **Each schedule is due once.** -/
theorem dueSchedules_distinct {db : Db} (sound : db.Sound) (cutoff : NaiveDate) :
    Distinct Schedule.id (db.dueSchedules cutoff) := by
  have sorted := List.perm_insertionSort
    (fun first second : Schedule => first.nextRun.text ≤ second.nextRun.text)
    (db.schedules.filter fun row =>
      decide (row.state = .active) && decide (row.nextRun.text ≤ cutoff.text))
  exact (sorted.map Schedule.id).nodup_iff.mpr
    (sound.schedules.sublist (List.filter_sublist.map Schedule.id))

/-- What holds when a tick comes to a schedule it found due. -/
structure Reached (ctx : TickCtx) (schedule : Schedule) (behind : List Schedule) (db reached : Db) :
    Prop where
  sound : reached.Sound
  draws : DrawsFresh ctx (schedule :: behind) reached
  key : KeyStays schedule.runKey db reached
  row : reached.getSchedule schedule.id = some schedule
  later : ∀ row ∈ behind, row.id ≠ schedule.id

/-- **A tick comes to a schedule** with its row and whatever is stored under its key as they were. -/
theorem reached_of_split {ctx : TickCtx} {schedule : Schedule} {ahead behind : List Schedule}
    {done : SchedulesTickOutput} {db reached : Db} (sound : db.Sound)
    (split : db.dueSchedules ctx.today = ahead ++ schedule :: behind)
    (draws : DrawsFresh ctx (db.dueSchedules ctx.today) db)
    (loop : tickLoop ctx ahead ⟨[], []⟩ db = (.ok done, reached)) :
    Reached ctx schedule behind db reached := by
  have due : schedule ∈ db.dueSchedules ctx.today := by
    rw [split]
    exact List.mem_append_right _ List.mem_cons_self
  have distinct := dueSchedules_distinct sound ctx.today
  unfold Distinct at distinct
  rw [split, List.map_append, List.map_cons] at distinct
  obtain ⟨_, rest, apart⟩ := List.nodup_append.mp distinct
  rw [split] at draws
  obtain ⟨draws', behind'⟩ := draws.behind sound ⟨[], []⟩
  have frame := tickLoop_frame ⟨[], []⟩ sound draws'
  rw [loop] at frame behind'
  have earlier : ∀ row ∈ ahead, row.id ≠ schedule.id := fun row member =>
    apart _ (List.mem_map_of_mem member) _ List.mem_cons_self
  refine ⟨frame.sound, behind', frame.keys _ fun row member => runKey_ne (earlier row member), ?_, ?_⟩
  · rw [frame.rows _ earlier]
    exact getSchedule_of_due sound due
  · intro row member same
    refine (List.nodup_cons.mp rest).1 ?_
    rw [← same]
    exact List.mem_map_of_mem member

/-- The tick from a due schedule on. -/
theorem schedulesTick_split {ctx : TickCtx} {schedule : Schedule} {ahead behind : List Schedule}
    {done : SchedulesTickOutput} {db reached : Db}
    (split : db.dueSchedules ctx.today = ahead ++ schedule :: behind)
    (loop : tickLoop ctx ahead ⟨[], []⟩ db = (.ok done, reached)) :
    schedulesTick ctx db = andThen (materialise ctx schedule reached) fun drafted db =>
      tickLoop ctx behind ⟨done.ranScheduleIds ++ [schedule.id], done.drafts ++ [drafted]⟩ db := by
  have due : schedule ∈ db.dueSchedules ctx.today := by
    rw [split]
    exact List.mem_append_right _ List.mem_cons_self
  have active := (mem_dueSchedules.mp due).2.1
  unfold schedulesTick
  rw [split, tickLoop_append, loop]
  show tickLoop ctx (schedule :: behind) done reached = _
  rw [tickLoop, if_neg (by rw [active]; exact fun different => different rfl)]

end Invoicing
