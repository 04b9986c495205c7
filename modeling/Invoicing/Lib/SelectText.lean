/-
**`SELECT` statements, from their text to their rows.**

* `Token`, `tokens` — the words and marks of a text; **`tokens_append`** — what follows a space is read on
  its own.
* `Select`, `parse` — the statements `SELECT … FROM … WHERE … ORDER BY … ASC`, with a `LIMIT` and, only
  after it, an `OFFSET`. **`parse_clauses`** reads one clause by clause.
* `Schema`, `prepare` — a table and its columns, and the query of a text: every column it names is there,
  and every placeholder has a value of its own, in the order of the text.
-/

import Invoicing.Lib.RowFormat
import Mathlib.Data.String.Basic

namespace SelectText

/-! ### Tokens -/

inductive Token
  | word (text : String)
  | comma
  | equals
  | mark
  deriving DecidableEq

/-- A character that is a token by itself. -/
def punctuation (c : Char) : Option Token :=
  if c = ',' then some .comma else if c = '=' then some .equals else if c = '?' then some .mark else none

/-- A word that ends. -/
def closeWord (chars : List Char) : List Token :=
  if chars = [] then [] else [.word (String.ofList chars)]

/-- The tokens of a text; a word that is being read comes first. -/
def scan : List Char → List Char → List Token
  | open', [] => closeWord open'
  | open', c :: rest =>
      if c = ' ' then closeWord open' ++ scan [] rest
      else
        match punctuation c with
        | some token => closeWord open' ++ token :: scan [] rest
        | none => scan (open' ++ [c]) rest

def tokens (text : String) : List Token := scan [] text.toList

theorem tokens_ofList {text : String} {chars : List Char} {read : List Token}
    (same : text = String.ofList chars) (scanned : scan [] chars = read) : tokens text = read := by
  rw [tokens, same, String.toList_ofList, scanned]

theorem scan_space (open' first rest : List Char) :
    scan open' (first ++ ' ' :: rest) = scan open' first ++ scan [] rest := by
  induction first generalizing open' with
  | nil => rfl
  | cons c first ih =>
    rw [List.cons_append, scan, scan]
    split
    · rw [ih, List.append_assoc]
    · split
      · rw [ih, List.append_assoc, List.cons_append]
      · exact ih _

/-- **What follows a space is read on its own.** -/
theorem tokens_append (first : String) {rest : String} {chars : List Char}
    (space : rest.toList = ' ' :: chars) : tokens (first ++ rest) = tokens first ++ tokens rest := by
  unfold tokens
  rw [String.toList_append, space, scan_space]
  rfl

/-! ### Statements -/

/-- What is compared, or how many rows. -/
inductive Operand
  | column (name : String)
  | number (n : ℕ)
  | mark
  deriving DecidableEq

structure Select where
  columns : List String
  table : String
  conditions : List (Operand × Operand)
  orderBy : String
  limit : Option Operand
  offset : Option Operand
  deriving DecidableEq

def operand : Token → Option Operand
  | .word text =>
      if text.toList.all Char.isDigit then some (.number (Nat.ofDigitChars 10 text.toList 0))
      else some (.column text)
  | .mark => some .mark
  | _ => none

/-- Names with commas between them. -/
def columnNames : List Token → Option (List String × List Token)
  | .word name :: .comma :: rest => (columnNames rest).map fun (names, rest) => (name :: names, rest)
  | .word name :: rest => some ([name], rest)
  | _ => none

/-- Comparisons with `AND` between them, up to the word that is not one. -/
def conditions : List Token → Option (List (Operand × Operand) × List Token)
  | left :: .equals :: right :: .word next :: rest => do
      let first ← operand left
      let second ← operand right
      if next = "AND" then
        (conditions rest).map fun (others, rest) => ((first, second) :: others, rest)
      else some ([(first, second)], .word next :: rest)
  | _ => none

/-- How many rows: an offset only after a limit, and nothing after them. -/
def limits : List Token → Option (Option Operand × Option Operand)
  | [] => some (none, none)
  | [.word first, limit] =>
      if first = "LIMIT" then (operand limit).map fun limit => (some limit, none) else none
  | [.word first, limit, .word second, offset] =>
      if first = "LIMIT" ∧ second = "OFFSET" then do
        let limit ← operand limit
        let offset ← operand offset
        return (some limit, some offset)
      else none
  | _ => none

/-- A statement, clause by clause. -/
def parse : List Token → Option Select
  | .word select :: rest => do
      guard (select = "SELECT")
      let (columns, rest) ← columnNames rest
      match rest with
      | .word source :: .word table :: .word filter :: rest => do
          guard (source = "FROM" ∧ filter = "WHERE")
          let (conditions, rest) ← conditions rest
          match rest with
          | .word order :: .word by' :: .word column :: .word ascending :: rest => do
              guard (order = "ORDER" ∧ by' = "BY" ∧ ascending = "ASC")
              let (limit, offset) ← limits rest
              return { columns, table, conditions, orderBy := column, limit, offset }
          | _ => none
      | _ => none
  | _ => none

/-- Names with commas between them, written. -/
def nameTokens : List String → List Token
  | [] => []
  | [name] => [.word name]
  | name :: rest => .word name :: .comma :: nameTokens rest

theorem columnNames_nameTokens {names : List String} (some' : names ≠ []) (next : String)
    (rest : List Token) :
    columnNames (nameTokens names ++ .word next :: rest) = some (names, .word next :: rest) := by
  induction names with
  | nil => exact absurd rfl some'
  | cons name names ih =>
    cases names with
    | nil => rfl
    | cons second others =>
      show (columnNames (nameTokens (second :: others) ++ .word next :: rest)).map _ = _
      rw [ih (List.cons_ne_nil _ _)]
      rfl

/-- **A statement is read clause by clause.** -/
theorem parse_clauses {names : List String} (some' : names ≠ []) {table column : String}
    {rest last : List Token} {found : List (Operand × Operand)}
    (where' : conditions rest =
      some (found, .word "ORDER" :: .word "BY" :: .word column :: .word "ASC" :: last)) :
    parse (.word "SELECT" :: (nameTokens names ++ .word "FROM" :: .word table :: .word "WHERE" :: rest)) =
      (limits last).map fun page => ⟨names, table, found, column, page.1, page.2⟩ := by
  unfold parse
  simp only [guard_true, columnNames_nameTokens some', where', and_self, Option.bind_eq_bind,
    Option.bind_some, Option.pure_def]
  cases limits last with
  | none => rfl
  | some page => rfl

/-! ### Prepared statements -/

/-- A value that is bound to a placeholder. -/
inductive Value
  | text (s : String)
  | int (n : ℤ)
  deriving DecidableEq

/-- A table: its name, its columns, and those of them that are texts and never null. -/
structure Schema (γ : Type) where
  table : String
  columns : List String
  text : String → Option (γ → String)

variable {γ : Type} (schema : Schema γ)

/-- What an operand stands for in a row; a placeholder takes the next value. -/
def Schema.resolve : Operand → List Value → Option ((γ → Value) × List Value)
  | .column name, values => (schema.text name).map fun column => (fun row => .text (column row), values)
  | .number n, values => some (fun _ => .int n, values)
  | .mark, value :: values => some (fun _ => value, values)
  | .mark, [] => none

/-- The rows that meet every comparison. -/
def Schema.keep : List (Operand × Operand) → List Value → Option ((γ → Bool) × List Value)
  | [], values => some (fun _ => true, values)
  | (left, right) :: rest, values => do
      let (first, values) ← schema.resolve left values
      let (second, values) ← schema.resolve right values
      let (others, values) ← Schema.keep rest values
      return (fun row => decide (first row = second row) && others row, values)

/-- How many rows; a placeholder takes the next value, which must be a number. -/
def rowCount : Option Operand → List Value → Option (Option ℤ × List Value)
  | none, values => some (none, values)
  | some (.number n), values => some (some n, values)
  | some .mark, .int n :: values => some (some n, values)
  | _, _ => none

/-- The query of a text with the values bound to its placeholders; how rows of one value are ordered is up
to the engine. `none` when the engine refuses the text or the values. -/
def prepare (engine : ∀ column : γ → String, OrderBy column) (sql : String) (values : List Value) :
    Option (Query γ) := do
  let statement ← parse (tokens sql)
  guard (statement.table = schema.table ∧ (∀ name ∈ statement.columns, name ∈ schema.columns) ∧
    ∀ name ∈ schema.columns, name ∈ statement.columns)
  let (keep, values) ← schema.keep statement.conditions values
  let (limit, values) ← rowCount statement.limit values
  let (offset, values) ← rowCount statement.offset values
  guard (values = [])
  let column ← schema.text statement.orderBy
  return .ordered keep (engine column) (limit.map fun limit => (limit, offset))

variable {schema} {engine : ∀ column : γ → String, OrderBy column} {sql : String} {values : List Value}

/-- A text that is not a statement is refused. -/
theorem prepare_of_refused (refused : parse (tokens sql) = none) : prepare schema engine sql values = none := by
  rw [prepare, refused]
  rfl

/-- **The query of a statement whose columns are there and whose placeholders have their values.** -/
theorem prepare_of_parse {statement : Select} {keep : γ → Bool} {rest page : List Value}
    {limit offset : Option ℤ} {column : γ → String} (parsed : parse (tokens sql) = some statement)
    (table : statement.table = schema.table) (columns : statement.columns = schema.columns)
    (kept : schema.keep statement.conditions values = some (keep, rest))
    (limited : rowCount statement.limit rest = some (limit, page))
    (skipped : rowCount statement.offset page = some (offset, []))
    (ordered : schema.text statement.orderBy = some column) :
    prepare schema engine sql values =
      some (.ordered keep (engine column) (limit.map fun limit => (limit, offset))) := by
  have there : statement.table = schema.table ∧ (∀ name ∈ statement.columns, name ∈ schema.columns) ∧
      ∀ name ∈ schema.columns, name ∈ statement.columns := by
    rw [columns]
    exact ⟨table, fun _ member => member, fun _ member => member⟩
  simp only [prepare, parsed, kept, limited, skipped, ordered, guard, if_pos there, if_true,
    Option.bind_eq_bind, Option.bind_some, Option.pure_def]

end SelectText
