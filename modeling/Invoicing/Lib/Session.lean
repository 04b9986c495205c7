/-
**Database sessions whose calls may fail.**

* `Connection` — what is committed, and the working copy of an open transaction. `Session` — a program
  that makes database calls: a query, `begin`, a statement, `commit`. Any of them may fail, as the
  faults of the run say, and a statement may refuse; `raise` fails without a call.
* `Session.run` — a program on a database. A transaction that is still open at the end is rolled back.
* `NeverOk` — a program that never succeeds, because the database refuses one of its calls.
* `Quiet` — a program that changes nothing. `Atomic` — one that changes nothing unless it succeeds:
  **`Quiet.bind_atomic`**, **`transaction_atomic`**, **`Atomic.run`**.
* `Reads`, `Does` — what a program computes, and what it leaves, when no call fails;
  **`Reads.bind_does`**, **`transaction_does`**.
-/

import Mathlib.Data.List.Basic

namespace Session

/-! ### Programs -/

/-- Why a program failed: for a reason of its own, or because a database call failed. -/
inductive Failure (ε : Type)
  | raised (e : ε)
  | database
  deriving DecidableEq

/-- Which database calls fail, by their number. -/
abbrev Faults := ℕ → Bool

/-- No call fails. -/
def noFaults : Faults := fun _ => false

/-- What is committed, the working copy of the open transaction, and the calls made so far. -/
structure Connection (σ : Type) where
  committed : σ
  working : Option σ
  calls : ℕ

end Session

/-- A program that makes database calls. -/
def Session (σ ε α : Type) : Type :=
  Session.Faults → Session.Connection σ → Except (Session.Failure ε) α × Session.Connection σ

namespace Session

variable {σ ε δ α β : Type}

instance : Monad (Session σ ε) where
  pure a := fun _ connection => (.ok a, connection)
  bind program rest := fun faults connection =>
    match program faults connection with
    | (.error e, after) => (.error e, after)
    | (.ok a, after) => rest a faults after

/-- A computation without a database call. -/
def raise (result : Except ε α) : Session σ ε α :=
  fun _ connection => (result.mapError .raised, connection)

/-- A database call: it fails, or acts. -/
def call (act : Connection σ → Except ε α × Connection σ) : Session σ ε α :=
  fun faults connection =>
    let counted := { connection with calls := connection.calls + 1 }
    if faults connection.calls then (.error .database, counted)
    else ((act counted).1.mapError .raised, (act counted).2)

/-- A database call that the database refuses. -/
def refused : Session σ ε α :=
  fun _ connection => (.error .database, { connection with calls := connection.calls + 1 })

/-- A query outside any transaction. -/
def query (select : σ → α) : Session σ ε α :=
  call fun connection => (.ok (select connection.committed), connection)

def begin : Session σ ε Unit :=
  call fun connection => (.ok (), { connection with working := some connection.committed })

/-- A statement: in the open transaction, or by itself. `wrap` is how its refusal is raised. -/
def execute (wrap : δ → ε) (statement : σ → Except δ σ) : Session σ ε Unit :=
  call fun connection =>
    match statement (connection.working.getD connection.committed) with
    | .error e => (.error (wrap e), connection)
    | .ok after =>
        (.ok (), match connection.working with
          | none => { connection with committed := after }
          | some _ => { connection with working := some after })

/-- What the open transaction did becomes committed. -/
def commit : Session σ ε Unit :=
  call fun connection =>
    (.ok (), ⟨connection.working.getD connection.committed, none, connection.calls⟩)

/-- Statements one after the other. -/
def executeAll (wrap : δ → ε) : List (σ → Except δ σ) → Session σ ε Unit
  | [] => pure ()
  | statement :: rest => do
      execute wrap statement
      executeAll wrap rest

/-- What the statements do to a database, when each runs. -/
def inOrder : List (σ → Except δ σ) → σ → Except δ σ
  | [], db => .ok db
  | statement :: rest, db => do
      let after ← statement db
      inOrder rest after

theorem inOrder_append (first second : List (σ → Except δ σ)) (db : σ) :
    inOrder (first ++ second) db = inOrder first db >>= inOrder second := by
  induction first generalizing db with
  | nil => rfl
  | cons statement rest ih =>
    rw [List.cons_append, inOrder, inOrder]
    cases statement db with
    | error e => rfl
    | ok after => exact ih after

/-- A transaction of the given statements. -/
def transaction (wrap : δ → ε) (statements : List (σ → Except δ σ)) : Session σ ε Unit := do
  begin
  executeAll wrap statements
  commit

/-- Run a program on a database; an open transaction is rolled back. -/
def run (program : Session σ ε α) (faults : Faults) (db : σ) : Except (Failure ε) α × σ :=
  ((program faults ⟨db, none, 0⟩).1, (program faults ⟨db, none, 0⟩).2.committed)

/-! ### One program after another -/

section Bind

variable {program : Session σ ε α} {rest : α → Session σ ε β} {faults : Faults}
  {connection after : Connection σ}

theorem bind_failed {e : Failure ε} (failed : program faults connection = (.error e, after)) :
    (program >>= rest) faults connection = (.error e, after) := by
  simp only [bind, failed]

theorem bind_went {a : α} (went : program faults connection = (.ok a, after)) :
    (program >>= rest) faults connection = rest a faults after := by
  simp only [bind, went]

theorem call_failed {act : Connection σ → Except ε α × Connection σ}
    (fault : faults connection.calls = true) :
    call act faults connection =
      (.error .database, { connection with calls := connection.calls + 1 }) := by
  simp only [call, fault, if_true]

theorem call_went {act : Connection σ → Except ε α × Connection σ}
    (fault : faults connection.calls = false) :
    call act faults connection =
      ((act { connection with calls := connection.calls + 1 }).1.mapError .raised,
        (act { connection with calls := connection.calls + 1 }).2) := by
  simp only [call, fault, Bool.false_eq_true, if_false]

theorem begin_went {committed : σ} {calls : ℕ} (fault : faults calls = false) :
    (begin : Session σ ε Unit) faults ⟨committed, none, calls⟩ =
      (.ok (), ⟨committed, some committed, calls + 1⟩) := call_went fault

variable {committed copy copy' : σ} {calls : ℕ} {statement : σ → Except δ σ}

theorem execute_refused (wrap : δ → ε) (fault : faults calls = false) {e : δ}
    (ran : statement copy = .error e) :
    execute wrap statement faults ⟨committed, some copy, calls⟩ =
      (.error (.raised (wrap e)), ⟨committed, some copy, calls + 1⟩) := by
  unfold execute
  rw [call_went fault]
  simp only [Option.getD_some, ran]
  rfl

theorem execute_ran (wrap : δ → ε) (fault : faults calls = false)
    (ran : statement copy = .ok copy') :
    execute wrap statement faults ⟨committed, some copy, calls⟩ =
      (.ok (), ⟨committed, some copy', calls + 1⟩) := by
  unfold execute
  rw [call_went fault]
  simp only [Option.getD_some, ran]
  rfl

end Bind

/-! ### Programs that change nothing unless they succeed -/

/-- The program changes nothing and leaves no transaction open. -/
def Quiet (program : Session σ ε α) : Prop :=
  ∀ faults connection, connection.working = none →
    (program faults connection).2.committed = connection.committed ∧
      (program faults connection).2.working = none

/-- The program changes nothing if it fails. -/
def Atomic (program : Session σ ε α) : Prop :=
  ∀ faults connection, connection.working = none →
    ∀ e, (program faults connection).1 = .error e →
      (program faults connection).2.committed = connection.committed

theorem Quiet.pure (a : α) : Quiet (Pure.pure a : Session σ ε α) := fun _ _ closed => ⟨rfl, closed⟩

theorem Quiet.raise (result : Except ε α) : Quiet (raise result : Session σ ε α) :=
  fun _ _ closed => ⟨rfl, closed⟩

theorem Quiet.query (select : σ → α) : Quiet (query select : Session σ ε α) := by
  intro faults connection closed
  unfold Session.query
  cases fault : faults connection.calls with
  | true =>
    rw [call_failed fault]
    exact ⟨rfl, closed⟩
  | false =>
    rw [call_went fault]
    exact ⟨rfl, closed⟩

theorem Quiet.bind {program : Session σ ε α} {rest : α → Session σ ε β} (first : Quiet program)
    (later : ∀ a, Quiet (rest a)) : Quiet (program >>= rest) := by
  intro faults connection closed
  have before := first faults connection closed
  cases reached : program faults connection with
  | mk result after =>
    rw [reached] at before
    cases result with
    | error e =>
      rw [bind_failed reached]
      exact before
    | ok a =>
      rw [bind_went reached]
      have whole := later a faults after before.2
      exact ⟨whole.1.trans before.1, whole.2⟩

theorem Quiet.atomic {program : Session σ ε α} (quiet : Quiet program) : Atomic program :=
  fun faults connection closed _ _ => (quiet faults connection closed).1

/-- **A program that changes nothing, then an atomic one.** -/
theorem Quiet.bind_atomic {program : Session σ ε α} {rest : α → Session σ ε β}
    (first : Quiet program) (later : ∀ a, Atomic (rest a)) : Atomic (program >>= rest) := by
  intro faults connection closed e failed
  have before := first faults connection closed
  cases reached : program faults connection with
  | mk result after =>
    rw [reached] at before
    cases result with
    | error e' => rw [bind_failed reached]; exact before.1
    | ok a =>
      rw [bind_went reached] at failed ⊢
      exact (later a faults after before.2 e failed).trans before.1

/-- An atomic program, then an output that cannot fail. -/
theorem Atomic.bind_pure {program : Session σ ε α} (atomic : Atomic program) (output : α → β) :
    Atomic (program >>= fun a => Pure.pure (output a)) := by
  intro faults connection closed e failed
  cases reached : program faults connection with
  | mk result after =>
    cases result with
    | error e' =>
      rw [bind_failed reached]
      have kept := atomic faults connection closed e'
      rw [reached] at kept
      exact kept rfl
    | ok a =>
      rw [bind_went reached] at failed
      cases failed

/-- Statements of an open transaction leave what is committed alone. -/
theorem executeAll_committed (wrap : δ → ε) (statements : List (σ → Except δ σ)) (faults : Faults)
    (committed copy : σ) (calls : ℕ) :
    (executeAll wrap statements faults ⟨committed, some copy, calls⟩).2.committed = committed := by
  induction statements generalizing copy calls with
  | nil => rfl
  | cons statement rest ih =>
    rw [executeAll]
    cases fault : faults calls with
    | true =>
      have failed : execute wrap statement faults ⟨committed, some copy, calls⟩ =
          (.error .database, ⟨committed, some copy, calls + 1⟩) := call_failed fault
      rw [bind_failed failed]
    | false =>
      cases ran : statement copy with
      | error e => rw [bind_failed (execute_refused wrap fault ran)]
      | ok copy' =>
        rw [bind_went (execute_ran wrap fault ran)]
        exact ih copy' (calls + 1)

/-- **A transaction is atomic.** -/
theorem transaction_atomic (wrap : δ → ε) (statements : List (σ → Except δ σ)) :
    Atomic (transaction wrap statements) := by
  rintro faults ⟨committed, working, calls⟩ closed e failed
  obtain rfl : working = none := closed
  rw [transaction] at failed ⊢
  cases fault : faults calls with
  | true =>
    have refused : (begin : Session σ ε Unit) faults ⟨committed, none, calls⟩ =
        (.error .database, ⟨committed, none, calls + 1⟩) := call_failed fault
    rw [bind_failed refused]
  | false =>
    rw [bind_went (begin_went fault)] at failed ⊢
    have kept := executeAll_committed wrap statements faults committed committed (calls + 1)
    cases reached : executeAll wrap statements faults ⟨committed, some committed, calls + 1⟩ with
    | mk result after =>
      rw [reached] at kept
      cases result with
      | error e' =>
        rw [bind_failed reached]
        exact kept
      | ok a =>
        rw [bind_went reached] at failed ⊢
        cases fault' : faults after.calls with
        | true =>
          rw [commit, call_failed fault']
          exact kept
        | false =>
          rw [commit, call_went fault'] at failed
          cases failed

/-- **A run of an atomic program that fails leaves the database as it was.** -/
theorem Atomic.run {program : Session σ ε α} (atomic : Atomic program) {faults : Faults} {db : σ}
    {e : Failure ε} (failed : (Session.run program faults db).1 = .error e) :
    (Session.run program faults db).2 = db :=
  atomic faults ⟨db, none, 0⟩ rfl e failed

/-! ### Programs that never succeed -/

/-- The program fails, whatever is stored and whichever calls fail. -/
def NeverOk (program : Session σ ε α) : Prop :=
  ∀ faults connection, ∃ e, (program faults connection).1 = .error e

theorem neverOk_refused : NeverOk (refused : Session σ ε α) := fun _ _ => ⟨_, rfl⟩

theorem NeverOk.bind {program : Session σ ε α} (never : NeverOk program) (rest : α → Session σ ε β) :
    NeverOk (program >>= rest) := by
  intro faults connection
  obtain ⟨e, failed⟩ := never faults connection
  cases reached : program faults connection with
  | mk result after =>
    rw [reached] at failed
    cases failed
    exact ⟨e, by rw [bind_failed reached]⟩

/-- A program never succeeds when what follows its first part never does. -/
theorem NeverOk.later {rest : α → Session σ ε β} (never : ∀ a, NeverOk (rest a))
    (program : Session σ ε α) : NeverOk (program >>= rest) := by
  intro faults connection
  cases reached : program faults connection with
  | mk result after =>
    cases result with
    | error e => exact ⟨e, by rw [bind_failed reached]⟩
    | ok a =>
      rw [bind_went reached]
      exact never a faults after

/-! ### Without faults -/

/-- What the program computes from what is committed, when no call fails; it changes nothing. -/
def Reads (program : Session σ ε α) (result : σ → Except ε α) : Prop :=
  ∀ connection, connection.working = none → ∃ calls, program noFaults connection =
    ((result connection.committed).mapError .raised, { connection with calls := calls })

theorem Reads.pure (a : α) : Reads (Pure.pure a : Session σ ε α) fun _ => .ok a :=
  fun connection _ => ⟨connection.calls, rfl⟩

theorem Reads.raise (result : Except ε α) : Reads (raise result : Session σ ε α) fun _ => result :=
  fun connection _ => ⟨connection.calls, rfl⟩

theorem Reads.query (select : σ → α) :
    Reads (query select : Session σ ε α) fun db => .ok (select db) :=
  fun connection _ => ⟨connection.calls + 1, call_went rfl⟩

/-- **Programs that read, one after the other.** -/
theorem Reads.bind {program : Session σ ε α} {rest : α → Session σ ε β} {result : σ → Except ε α}
    {later : α → σ → Except ε β} (first : Reads program result)
    (second : ∀ a, Reads (rest a) (later a)) :
    Reads (program >>= rest) fun db => result db >>= fun a => later a db := by
  intro connection closed
  obtain ⟨calls, reached⟩ := first connection closed
  dsimp only
  cases computed : result connection.committed with
  | error e =>
    rw [computed] at reached
    exact ⟨calls, bind_failed reached⟩
  | ok a =>
    rw [computed] at reached
    obtain ⟨calls', ended⟩ := second a { connection with calls := calls } closed
    exact ⟨calls', (bind_went reached).trans ended⟩

theorem Reads.congr {program : Session σ ε α} {result result' : σ → Except ε α}
    (reads : Reads program result) (same : ∀ db, result db = result' db) :
    Reads program result' := by
  intro connection closed
  rw [← same]
  exact reads connection closed

/-- What the program returns and leaves committed, when no call fails. -/
def Does (program : Session σ ε α) (effect : σ → Except ε α × σ) : Prop :=
  ∀ db calls, (program noFaults ⟨db, none, calls⟩).1 = (effect db).1.mapError .raised ∧
    (program noFaults ⟨db, none, calls⟩).2.committed = (effect db).2

/-- A computation on the database, then an effect. -/
def afterwards (result : σ → Except ε α) (later : α → σ → Except ε β × σ) (db : σ) :
    Except ε β × σ :=
  match result db with
  | .error e => (.error e, db)
  | .ok a => later a db

/-- The effect of a transaction. -/
def transactionEffect (wrap : δ → ε) (statements : List (σ → Except δ σ)) (output : α) (db : σ) :
    Except ε α × σ :=
  match inOrder statements db with
  | .error e => (.error (wrap e), db)
  | .ok after => (.ok output, after)

theorem executeAll_ran (wrap : δ → ε) {statements : List (σ → Except δ σ)} {copy after : σ}
    (ran : inOrder statements copy = .ok after) (committed : σ) (calls : ℕ) :
    ∃ calls', executeAll wrap statements noFaults ⟨committed, some copy, calls⟩ =
      (.ok (), ⟨committed, some after, calls'⟩) := by
  induction statements generalizing copy calls with
  | nil =>
    cases ran
    exact ⟨calls, rfl⟩
  | cons statement rest ih =>
    rw [inOrder] at ran
    cases first : statement copy with
    | error e =>
      rw [first] at ran
      cases ran
    | ok copy' =>
      rw [first] at ran
      obtain ⟨calls', ended⟩ := ih ran (calls + 1)
      exact ⟨calls', (bind_went (execute_ran wrap rfl first)).trans ended⟩

theorem executeAll_refused (wrap : δ → ε) {statements : List (σ → Except δ σ)} {copy : σ} {e : δ}
    (refused : inOrder statements copy = .error e) (committed : σ) (calls : ℕ) :
    (executeAll wrap statements noFaults ⟨committed, some copy, calls⟩).1 =
      .error (.raised (wrap e)) := by
  induction statements generalizing copy calls with
  | nil => cases refused
  | cons statement rest ih =>
    rw [inOrder] at refused
    rw [executeAll]
    cases first : statement copy with
    | error e' =>
      rw [first] at refused
      cases refused
      rw [bind_failed (execute_refused wrap rfl first)]
    | ok copy' =>
      rw [first] at refused
      rw [bind_went (execute_ran wrap rfl first)]
      exact ih refused (calls + 1)

/-- **A transaction without faults** runs its statements, or none. -/
theorem transaction_does (wrap : δ → ε) (statements : List (σ → Except δ σ)) (output : α) :
    Does (do
      transaction wrap statements
      return output) (transactionEffect wrap statements output) := by
  intro db calls
  unfold transactionEffect
  cases ran : inOrder statements db with
  | error e =>
    have failed := executeAll_refused wrap ran db (calls + 1)
    have kept := executeAll_committed wrap statements noFaults db db (calls + 1)
    cases reached : executeAll wrap statements noFaults ⟨db, some db, calls + 1⟩ with
    | mk result after =>
      rw [reached] at failed kept
      obtain rfl : result = .error (.raised (wrap e)) := failed
      have whole : transaction wrap statements noFaults ⟨db, none, calls⟩ =
          (.error (.raised (wrap e)), after) := by
        rw [transaction, bind_went (begin_went rfl), bind_failed reached]
      rw [bind_failed whole]
      exact ⟨rfl, kept⟩
  | ok after =>
    obtain ⟨calls', reached⟩ := executeAll_ran wrap ran db (calls + 1)
    have whole : transaction wrap statements noFaults ⟨db, none, calls⟩ =
        (.ok (), ⟨after, none, calls' + 1⟩) := by
      rw [transaction, bind_went (begin_went rfl), bind_went reached, commit, call_went rfl]
      rfl
    rw [bind_went whole]
    exact ⟨rfl, rfl⟩

theorem Does.pure (a : α) : Does (Pure.pure a : Session σ ε α) fun db => (.ok a, db) :=
  fun _ _ => ⟨rfl, rfl⟩

/-- **A program that reads, then one with an effect.** -/
theorem Reads.bind_does {program : Session σ ε α} {rest : α → Session σ ε β}
    {result : σ → Except ε α} {later : α → σ → Except ε β × σ} (first : Reads program result)
    (second : ∀ a, Does (rest a) (later a)) :
    Does (program >>= rest) (afterwards result later) := by
  intro db calls
  obtain ⟨calls', reached⟩ := first ⟨db, none, calls⟩ rfl
  unfold afterwards
  cases computed : result db with
  | error e =>
    rw [computed] at reached
    rw [bind_failed reached]
    exact ⟨rfl, rfl⟩
  | ok a =>
    rw [computed] at reached
    rw [bind_went reached]
    exact second a db calls'

/-- A run without faults. -/
theorem Does.run {program : Session σ ε α} {effect : σ → Except ε α × σ}
    (does : Does program effect) (db : σ) :
    Session.run program noFaults db = ((effect db).1.mapError .raised, (effect db).2) :=
  Prod.ext (does db 0).1 (does db 0).2

end Session
