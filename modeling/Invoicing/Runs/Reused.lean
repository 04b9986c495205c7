/-
**An idempotency key used again for something else.**

* `KeyedCall.AsksElse` — two drafts that differ in customer, seller, currency, lines or due date; two
  sends of one invoice to different destinations.
* `RefusedForKey` — the call fails with the idempotency error and changes no table.
* **`reused_key`** — a second, different request under a key that succeeded is never refused for it.
  Exactly when it passes its own checks, its rows are read back, and for a send the invoice still renders,
  it is answered with the entity of the first. **`another_order`** — a draft of another order is answered
  so.
-/

import Invoicing.Runs.Replay

namespace Invoicing

/-- The invoice a send is of, and its destination. -/
def KeyedCall.destination : KeyedCall → Option (InvoiceId × String)
  | .send input => some (input.invoiceId, input.destinationUri)
  | .sendRender input => some (input.invoiceId, input.destinationUri)
  | _ => none

/-- The second call asks for something else than the first. -/
def KeyedCall.AsksElse : KeyedCall → KeyedCall → Prop
  | .draft first, .draft second =>
      first.customerId ≠ second.customerId ∨ first.sellerJurisdiction ≠ second.sellerJurisdiction ∨
        first.currency ≠ second.currency ∨ first.lines ≠ second.lines ∨ first.dueAt ≠ second.dueAt
  | first, second => ∃ id uri uri', first.destination = some (id, uri) ∧
      second.destination = some (id, uri') ∧ uri ≠ uri'

/-- Two drafts, or two sends of one invoice. -/
theorem KeyedCall.AsksElse.kinds {first second : KeyedCall} (differs : first.AsksElse second) :
    (∃ input input', first = .draft input ∧ second = .draft input') ∨
      ∃ id uri uri', first.destination = some (id, uri) ∧ second.destination = some (id, uri') := by
  unfold AsksElse at differs
  split at differs
  · exact Or.inl ⟨_, _, rfl, rfl⟩
  · obtain ⟨id, uri, uri', one, two, _⟩ := differs
    exact Or.inr ⟨id, uri, uri', one, two⟩

/-- The call fails with the idempotency error and changes no table. -/
def RefusedForKey (call : KeyedCall) (ctx : CoreCtx) (db : Db) : Prop :=
  ∃ message, call.execute ctx db = (.error (.error (.idempotency message)), db)

/-- The call passes the checks it makes before it looks at the tables. -/
def KeyedCall.Accepted : KeyedCall → Prop
  | .draft input => input.validate = .ok ()
  | .send input => input.Checked
  | .sendRender input => validateDestination input.destinationUri = .ok ()
  | .markPaid input => input.validate = .ok ()
  | .createCreditNote input => input.validate = .ok ()

/-! ### No command raises the idempotency error -/

/-- The result is not the idempotency error. -/
def NeverConflicts {α : Type} (result : CoreResult α) : Prop :=
  ∀ message, result ≠ .error (.error (.idempotency message))

section NeverConflicts

variable {α β : Type}

theorem NeverConflicts.ok (a : α) : NeverConflicts (.ok a) := by
  intro message same
  cases same

theorem NeverConflicts.fail {e : CoreError} (other : ∀ message, e ≠ .idempotency message) :
    NeverConflicts (fail e : CoreResult α) := by
  intro message same
  cases same
  exact other message rfl

theorem NeverConflicts.bind {first : CoreResult α} {rest : α → CoreResult β}
    (early : NeverConflicts first) (late : ∀ a, NeverConflicts (rest a)) :
    NeverConflicts (first >>= rest) := by
  intro message failed
  rcases bind_error failed with stopped | ⟨a, _, stopped⟩
  · exact early message stopped
  · exact late a message stopped

theorem NeverConflicts.mapError {ε : Type} {wrap : ε → CoreError}
    (other : ∀ e message, wrap e ≠ .idempotency message) (result : Except ε α) :
    NeverConflicts (result.mapError fun e => Stop.error (wrap e)) := by
  intro message same
  cases result with
  | error e =>
    have wrapped : wrap e = .idempotency message := Stop.error.inj (Except.error.inj same)
    exact other e message wrapped
  | ok a => cases same

theorem neverConflicts_orNotFound (found : Option α) (what : String) :
    NeverConflicts (orNotFound found what) := by
  cases found with
  | none => exact .fail fun _ => by simp
  | some a => exact .ok a

theorem neverConflicts_orPanic (result : Option α) : NeverConflicts (orPanic result) := by
  intro message same
  cases result with
  | none => cases same
  | some a => cases same

theorem neverConflicts_render (ctx : CoreCtx) (inv : Invoice) (customer : Customer)
    (lines : List InvoiceLine) : NeverConflicts (ctx.render inv customer lines) :=
  (NeverConflicts.mapError (fun _ _ => by simp) _).bind fun _ =>
    (NeverConflicts.mapError (fun _ _ => by simp) _).bind fun _ => .ok _

theorem NeverConflicts.perform {prepared : CoreResult (Prepared α)} (free : NeverConflicts prepared)
    (db : Db) : NeverConflicts (perform prepared db).1 := by
  intro message failed
  cases prepared with
  | error e =>
    cases failed
    exact free message rfl
  | ok prepared =>
    cases prepared with
    | answer output => cases failed
    | write loaded tx output =>
      simp only [Invoicing.perform, Prepared.finish] at failed
      cases committed : tx.commit db with
      | error e =>
        rw [committed] at failed
        cases failed
      | ok after =>
        rw [committed] at failed
        cases failed

end NeverConflicts

theorem neverConflicts_validateLines (i : ℕ) (lines : List DraftLineInput) :
    NeverConflicts (validateLines i lines) := by
  induction lines generalizing i with
  | nil => exact .ok ()
  | cons line rest ih =>
    refine NeverConflicts.bind ?_ fun _ => ih (i + 1)
    unfold DraftLineInput.validate
    split
    · exact .fail fun _ => by simp
    · split
      · exact .fail fun _ => by simp
      · split
        · exact .fail fun _ => by simp
        · exact .ok ()

theorem neverConflicts_prepareDraft (ctx : CoreCtx) (input : DraftInvoiceInput) (db : Db) :
    NeverConflicts (prepareDraft ctx input db) := by
  refine NeverConflicts.bind ?_ fun _ => ?_
  · unfold DraftInvoiceInput.validate
    split
    · exact .fail fun _ => by simp
    · split
      · exact .fail fun _ => by simp
      · exact neverConflicts_validateLines 0 input.lines
  · split
    · exact .ok _
    · exact (neverConflicts_orPanic _).bind fun _ => .ok _

theorem neverConflicts_validateDestination (uri : String) :
    NeverConflicts (validateDestination uri) := by
  unfold validateDestination
  split
  · exact .fail fun _ => by simp
  · exact .ok ()

theorem neverConflicts_checkScheme (scheme : String) : NeverConflicts (checkScheme scheme) := by
  unfold checkScheme
  split
  · exact .ok ()
  · split
    · exact .fail fun _ => by simp
    · exact .fail fun _ => by simp

theorem neverConflicts_prepareSend (ctx : CoreCtx) (id : InvoiceId) (db : Db) :
    NeverConflicts (prepareSend ctx id db) :=
  (neverConflicts_orNotFound _ _).bind fun _ =>
    (NeverConflicts.mapError (fun _ _ => by simp) _).bind fun _ =>
      (neverConflicts_orNotFound _ _).bind fun _ => (neverConflicts_render _ _ _ _).bind fun _ =>
        .ok _

theorem neverConflicts_deliver (ctx : CoreCtx) (input : SendInvoiceInput) (pdf : List UInt8) :
    NeverConflicts (deliver ctx input pdf) := by
  unfold deliver
  split
  · refine NeverConflicts.bind ?_ fun _ => ?_
    · unfold filePathFromUri
      split
      · exact .fail fun _ => by simp
      · split
        · exact .fail fun _ => by simp
        · exact .ok _
    · split
      · exact .fail fun _ => by simp
      · exact .ok _
  · split
    · exact .fail fun _ => by simp
    · split
      · exact .fail fun _ => by simp
      · exact .ok _

/-- A recorded key is answered, not refused. -/
theorem neverConflicts_replayOr (ctx : CoreCtx) (id : InvoiceId) (key : Option String) (db : Db)
    {go : CoreResult (Prepared SendInvoiceOutput)} (free : NeverConflicts go) :
    NeverConflicts (replayOr ctx id key db go) := by
  unfold replayOr
  split
  · exact free
  · refine NeverConflicts.bind ?_ fun replay => ?_
    · unfold tryReplay
      split
      · exact .ok _
      · exact (neverConflicts_orNotFound _ _).bind fun _ =>
          (neverConflicts_orNotFound _ _).bind fun _ =>
            (neverConflicts_render _ _ _ _).bind fun _ => .ok _
    · split
      · exact .ok _
      · exact free

theorem neverConflicts_prepareSendInvoice (ctx : CoreCtx) (input : SendInvoiceInput) (db : Db) :
    NeverConflicts (prepareSendInvoice ctx input db) :=
  (neverConflicts_validateDestination _).bind fun _ => (neverConflicts_checkScheme _).bind fun _ =>
    neverConflicts_replayOr _ _ _ _ ((neverConflicts_prepareSend _ _ _).bind fun _ =>
      (neverConflicts_deliver _ _ _).bind fun _ => .ok _)

theorem neverConflicts_prepareSendRender (ctx : CoreCtx) (input : SendInvoiceRenderInput)
    (db : Db) : NeverConflicts (prepareSendRender ctx input db) :=
  (neverConflicts_validateDestination _).bind fun _ =>
    neverConflicts_replayOr _ _ _ _ ((neverConflicts_prepareSend _ _ _).bind fun _ => .ok _)

theorem NeverConflicts.returning {α : Type} {result : CoreResult α × Db} (read : α → Returned)
    (free : NeverConflicts result.1) : NeverConflicts (returning read result).1 := by
  intro message failed
  have mapped : result.1.map read = .error (.error (.idempotency message)) := failed
  cases shape : result.1 with
  | error e =>
    rw [shape] at mapped
    cases mapped
    exact free message shape
  | ok output =>
    rw [shape] at mapped
    cases mapped

/-! ### The second request -/

theorem neverConflicts_execute {call : KeyedCall}
    (kind : (∃ input, call = .draft input) ∨ ∃ target, call.destination = some target)
    (ctx : CoreCtx) (db : Db) : NeverConflicts (call.execute ctx db).1 := by
  cases call with
  | draft input => exact ((neverConflicts_prepareDraft ctx input db).perform db).returning _
  | send input => exact ((neverConflicts_prepareSendInvoice ctx input db).perform db).returning _
  | sendRender input =>
    exact ((neverConflicts_prepareSendRender ctx input db).perform db).returning _
  | markPaid input => rcases kind with ⟨_, other⟩ | ⟨_, other⟩ <;> cases other
  | createCreditNote input => rcases kind with ⟨_, other⟩ | ⟨_, other⟩ <;> cases other

/-- A call that is answered passed its checks. -/
theorem Replayed.accepted {texts : RowTexts} {call : KeyedCall} {ctx : CoreCtx} {db : Db}
    {entity : Returned} (replayed : Replayed texts call ctx db entity) : call.Accepted := by
  have done : (call.execute ctx db).1 = .ok entity := congrArg Prod.fst replayed.answered
  cases call with
  | draft input =>
    obtain ⟨output, done, _⟩ := returning_ok done
    rcases perform_ok done with ⟨answered, _⟩ | ⟨_, _, written, _⟩
    · exact (prepareDraft_answer answered).1
    · exact (prepareDraft_write written).1
  | send input =>
    obtain ⟨output, done, _⟩ := returning_ok done
    exact sendInvoice_checked done
  | sendRender input =>
    obtain ⟨output, done, _⟩ := returning_ok done
    exact sendInvoiceRender_checked done
  | markPaid input => exact absurd replayed (markPaid_not_replayed _ _ _ _ _)
  | createCreditNote input => exact absurd replayed (createCreditNote_not_replayed _ _ _ _ _)

/-- A keyed send that is accepted looks its key up. It reads what the send loads, and is replayed when its
invoice renders and the years of what it loads fit. -/
theorem KeyedCall.looksUp {call : KeyedCall} {id : InvoiceId} {uri key : String}
    (target : call.destination = some (id, uri)) (keyed : call.key = some key)
    (accepted : call.Accepted) :
    ∃ send, LooksUp id key send ∧
      (∀ texts db, call.Reads texts db ↔ ∀ k ∈ call.key, db.LoadsSend texts id k) ∧
      (∀ ctx db entity, call.Replays ctx db entity ↔
        StillRenders ctx db entity ∧ ∀ k ∈ call.key, db.SendFits id k) ∧
      ∀ ctx db, call.execute ctx db = returning (fun output => .inl output.invoice) (send ctx db) := by
  cases call with
  | send input =>
    cases target
    exact ⟨_, sendInvoice_looksUp keyed accepted, fun _ _ => Iff.rfl, fun _ _ _ => Iff.rfl,
      fun _ _ => rfl⟩
  | sendRender input =>
    cases target
    exact ⟨_, sendInvoiceRender_looksUp keyed accepted, fun _ _ => Iff.rfl, fun _ _ _ => Iff.rfl,
      fun _ _ => rfl⟩
  | _ => cases target

/-- A send that succeeded was accepted. -/
theorem KeyedCall.accepted_of_sent {call : KeyedCall} {target : InvoiceId × String} {ctx : CoreCtx}
    {db : Db} {entity : Returned} (sends : call.destination = some target)
    (done : (call.execute ctx db).1 = .ok entity) : call.Accepted := by
  cases call with
  | send input =>
    obtain ⟨output, done, _⟩ := returning_ok done
    exact sendInvoice_checked done
  | sendRender input =>
    obtain ⟨output, done, _⟩ := returning_ok done
    exact sendInvoiceRender_checked done
  | _ => cases sends

/-- **A second draft under a key is answered with the first draft**, whatever it asks for, exactly when the
row of the first is read back. -/
theorem draft_reused {texts : RowTexts} (documented : texts.Documented)
    {input input' : DraftInvoiceInput} {key : String} {ctx ctx' : CoreCtx} {db : Db} {entity : Returned}
    {between : List Command} (unique : db.KeysUnique) (fresh : db.getInvoice ctx.newInvoiceId = none)
    (keyed : input.idempotencyKey = some key) (keyed' : input'.idempotencyKey = some key)
    (valid : input'.validate = .ok ()) (first : ((KeyedCall.draft input).execute ctx db).1 = .ok entity)
    (others : ∀ command ∈ between, command.Avoids entity) :
    Replayed texts (.draft input') ctx'
        (runCommands ((KeyedCall.draft input).execute ctx db).2 between) entity ↔ EntityFits entity := by
  obtain ⟨output, done, rfl⟩ := returning_ok first
  obtain ⟨_, holds, stored⟩ := draftInvoice_stored unique fresh keyed done
  have unique' : (draftInvoice ctx input db).2.KeysUnique :=
    Command.keysUnique unique (.invoice (.draft ctx input))
  have stays := runCommands_stays others (draftInvoice ctx input db).2
  exact draft_replayed documented (runCommands_keysUnique unique' between) keyed' valid
    (stays.invoice.trans stored) holds

/-- **A key used again for something else is never refused.** A second request that differs from the
first one under its key does not fail with the idempotency error. It is answered with the entity of
the first exactly when it passes its own checks, the rows it loads are read back and, for a send, the
invoice still renders. -/
theorem reused_key {first second : KeyedCall} {key : String} {ctx ctx' : CoreCtx} {db : Db}
    {entity : Returned} (between : List Command) (keyed : first.key = some key)
    (keyed' : second.key = some key) (differs : first.AsksElse second)
    (done : (first.execute ctx db).1 = .ok entity) :
    let later := runCommands (first.execute ctx db).2 between
    ¬ RefusedForKey second ctx' later ∧
      ∀ texts : RowTexts, texts.Documented → db.KeysUnique → first.DrawsFresh ctx db →
        (∀ command ∈ between, command.Avoids entity) →
        (Replayed texts second ctx' later entity ↔
          second.Accepted ∧ second.Replays ctx' later entity) := by
  intro later
  rcases differs.kinds with ⟨input, input', rfl, rfl⟩ | ⟨id, uri, uri', sends, sends'⟩
  · refine ⟨?_, ?_⟩
    · rintro ⟨message, refused⟩
      exact neverConflicts_execute (Or.inl ⟨input', rfl⟩) ctx' later message
        (congrArg Prod.fst refused)
    · intro texts documented unique fresh others
      have again : (KeyedCall.draft input').Accepted →
          (Replayed texts (.draft input') ctx' later entity ↔ EntityFits entity) :=
        fun valid => draft_reused documented unique fresh keyed keyed' valid done others
      refine ⟨fun replayed => ⟨replayed.accepted, (again replayed.accepted).mp replayed⟩, ?_⟩
      rintro ⟨accepted, fits⟩
      exact (again accepted).mpr fits
  · refine ⟨?_, ?_⟩
    · rintro ⟨message, refused⟩
      exact neverConflicts_execute (Or.inr ⟨_, sends'⟩) ctx' later message
        (congrArg Prod.fst refused)
    · intro texts documented unique fresh others
      have again : second.Accepted → (Replayed texts second ctx' later entity ↔
          second.Replays ctx' later entity) := by
        intro accepted
        obtain ⟨send, looksUp, _, _, executes⟩ :=
          first.looksUp sends keyed (first.accepted_of_sent sends done)
        obtain ⟨send', looksUp', reads, replays, executes'⟩ := second.looksUp sends' keyed' accepted
        have sent : later = runCommands (send ctx db).2 between := by
          show runCommands (first.execute ctx db).2 between = _
          rw [executes]
          rfl
        rw [executes] at done
        obtain ⟨output, sentOnce, rfl⟩ := returning_ok done
        rw [replays]
        refine send_replayed documented (reads texts later) ?_
        rw [executes', sent]
        exact looksUp.sent_again looksUp' sentOnce others
      refine ⟨fun replayed => ⟨replayed.accepted, (again replayed.accepted).mp replayed⟩, ?_⟩
      rintro ⟨accepted, replays⟩
      exact (again accepted).mpr replays

/-- A draft of other work, under the key of `keyedDraft`. -/
def otherDraft : DraftInvoiceInput :=
  { keyedDraft with
    lines := [⟨"Other work", ⟨1, 0, Decimal.fits_one⟩, ⟨4000, 2, fits_forty⟩, .standard⟩] }

/-- The second order is not refused: it is answered with the invoice of the first. -/
theorem another_order :
    let first := (KeyedCall.draft keyedDraft).execute (sampleCtx (oneOClock firstOfMarch) 1) sampleDb
    ∃ entity, first.1 = .ok entity ∧ (KeyedCall.draft keyedDraft).AsksElse (.draft otherDraft) ∧
      keyedDraft.idempotencyKey = otherDraft.idempotencyKey ∧
      ¬ RefusedForKey (.draft otherDraft) (sampleCtx (oneOClock firstOfMarch) 2) first.2 ∧
      Replayed plainRowTexts (.draft otherDraft) (sampleCtx (oneOClock firstOfMarch) 2) first.2 entity := by
  refine ⟨_, rfl, ?_, rfl, ?_, ?_, rfl⟩
  · show _ ∨ _ ∨ _ ∨ keyedDraft.lines ≠ otherDraft.lines ∨ _
    exact Or.inr (Or.inr (Or.inr (Or.inl (by decide))))
  · rintro ⟨message, refused⟩
    cases congrArg Prod.fst refused
  · rintro key ⟨⟩
    decide +kernel

/-- A send to an address, under a key. -/
def keyedSend (uri : String) : SendInvoiceRenderInput := ⟨⟨1⟩, uri, some "send-1", .api "api", .api⟩

theorem reused_key_for_another_address :
    let first := (KeyedCall.sendRender (keyedSend "webhook://one")).execute
      (sampleCtx (oneOClock firstOfMarch) 3) issuedDb
    ∃ entity, first.1 = .ok entity ∧
      ¬ RefusedForKey (.sendRender (keyedSend "webhook://two"))
        (sampleCtx (oneOClock firstOfMarch) 4) first.2 ∧
      Replayed plainRowTexts (.sendRender (keyedSend "webhook://two"))
        (sampleCtx (oneOClock firstOfMarch) 4) first.2 entity := by
  have reused := @reused_key (.sendRender (keyedSend "webhook://one"))
    (.sendRender (keyedSend "webhook://two")) "send-1" (sampleCtx (oneOClock firstOfMarch) 3)
    (sampleCtx (oneOClock firstOfMarch) 4) issuedDb _ [] rfl rfl ⟨_, _, _, rfl, rfl, by decide⟩ rfl
  have unique : issuedDb.KeysUnique := runCommands_keysUnique sampleDb_keysUnique _
  refine ⟨_, rfl, reused.1,
    (reused.2 plainRowTexts plainRowTexts_documented unique trivial fun _ absent => by cases absent).mpr
      ⟨rfl, ⟨_, rfl, _, rfl⟩, ?_⟩⟩
  rintro key ⟨⟩
  exact Db.SendFits.of_found rfl rfl rfl (by decide +kernel)

end Invoicing
