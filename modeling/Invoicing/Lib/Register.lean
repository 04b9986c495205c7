/-
**Registers, and the tables that show them.**

* A register is a partial function from keys to items; `alter` changes the item under one key, where the
  change is allowed.
* `Keeps` — every item is still there, and later; **`alter_keeps`** — where the change only moves items on.
* `Shows` — a table shows a register when every key has a row and an item that are related, or neither.
  **`Shows.upsert`** — an upsert shows the register in which the item under its key was changed to one its
  row is related to; **`Shows.upsert_same`** — or the same register.
-/

import Invoicing.Lib.KeyedTable

namespace Register

variable {κ α ρ : Type}

/-! ### Items that only move on -/

/-- A change leaves an item that is later than the one it found. -/
def Advances (Later : α → α → Prop) (change : Option α → Option α) : Prop :=
  ∀ before after, change (some before) = some after → Later before after

/-- Every item is still there, later. -/
def Keeps (Later : α → α → Prop) (before after : κ → Option α) : Prop :=
  ∀ k item, before k = some item → ∃ item', after k = some item' ∧ Later item item'

variable {Later : α → α → Prop}

theorem Keeps.refl (same : ∀ item, Later item item) (register : κ → Option α) :
    Keeps Later register register :=
  fun _ item there => ⟨item, there, same item⟩

theorem Keeps.trans (trans : ∀ {a b c}, Later a b → Later b c → Later a c) {first second third : κ → Option α}
    (one : Keeps Later first second) (two : Keeps Later second third) : Keeps Later first third := by
  intro k item there
  obtain ⟨next, there, later⟩ := one k item there
  obtain ⟨last, there, later'⟩ := two k next there
  exact ⟨last, there, trans later later'⟩

/-! ### Changes of one item -/

variable [DecidableEq κ]

/-- Change the item under a key, where the change is allowed. -/
def alter (register : κ → Option α) (k : κ) (change : Option α → Option α) : Option (κ → Option α) :=
  (change (register k)).map fun item => Function.update register k (some item)

/-- A change leaves the items under other keys. -/
theorem alter_other {register after : κ → Option α} {k other : κ} {change : Option α → Option α}
    (altered : alter register k change = some after) (different : other ≠ k) :
    after other = register other := by
  obtain ⟨item, _, rfl⟩ := Option.map_eq_some_iff.mp altered
  exact Function.update_of_ne different _ _

/-- The item a change leaves. -/
theorem alter_self {register after : κ → Option α} {k : κ} {change : Option α → Option α}
    (altered : alter register k change = some after) : after k = change (register k) := by
  obtain ⟨item, changed, rfl⟩ := Option.map_eq_some_iff.mp altered
  rw [changed]
  exact Function.update_self _ _ _

/-- **A change that advances keeps the register.** -/
theorem alter_keeps (same : ∀ item, Later item item) {change : Option α → Option α}
    (advances : Advances Later change) {register after : κ → Option α} {k : κ}
    (altered : alter register k change = some after) : Keeps Later register after := by
  intro other item there
  by_cases mine : other = k
  · subst mine
    have left := alter_self altered
    rw [there] at left
    obtain ⟨item', changed, _⟩ := Option.map_eq_some_iff.mp altered
    rw [there] at changed
    exact ⟨item', left.trans changed, advances item item' changed⟩
  · exact ⟨item, (alter_other altered mine).trans there, same item⟩

/-! ### Tables -/

/-- Every key has a row and an item that are related, or neither. -/
def Shows (key : ρ → κ) (R : ρ → α → Prop) (table : List ρ) (register : κ → Option α) : Prop :=
  ∀ k, Option.Rel R (KeyedTable.find key table k) (register k)

variable {key : ρ → κ} {R : ρ → α → Prop} {table : List ρ} {register : κ → Option α}

/-- The item of a stored row. -/
theorem Shows.item (shows : Shows key R table register) {k : κ} {row : ρ}
    (found : KeyedTable.find key table k = some row) : ∃ item, register k = some item ∧ R row item := by
  have related := shows k
  rw [found] at related
  cases there : register k with
  | none =>
    rw [there] at related
    cases related
  | some item =>
    rw [there] at related
    cases related with
    | some related => exact ⟨item, rfl, related⟩

/-- There is no item where there is no row. -/
theorem Shows.absent (shows : Shows key R table register) {k : κ}
    (absent : KeyedTable.find key table k = none) : register k = none := by
  have related := shows k
  rw [absent] at related
  cases there : register k with
  | none => rfl
  | some item =>
    rw [there] at related
    cases related

/-- There is an item where there is a row. -/
theorem Shows.present (shows : Shows key R table register) {k : κ}
    (present : KeyedTable.find key table k ≠ none) : register k ≠ none := by
  obtain ⟨row, found⟩ := Option.ne_none_iff_exists'.mp present
  obtain ⟨item, there, _⟩ := shows.item found
  rw [there]
  exact Option.some_ne_none item

/-- **A kept register keeps the rows that show it**: every row is still there, of a later item. -/
theorem Shows.keeps {Later : α → α → Prop} {table' : List ρ} {register' : κ → Option α}
    (shows : Shows key R table register) (kept : Keeps Later register register')
    (shows' : Shows key R table' register') {k : κ} {row : ρ}
    (found : KeyedTable.find key table k = some row) :
    ∃ row' item item', KeyedTable.find key table' k = some row' ∧ R row item ∧ R row' item' ∧
      Later item item' := by
  obtain ⟨item, there, related⟩ := shows.item found
  obtain ⟨item', there', later⟩ := kept k item there
  have related' := shows' k
  rw [there'] at related'
  cases found' : KeyedTable.find key table' k with
  | none =>
    rw [found'] at related'
    cases related'
  | some row' =>
    rw [found'] at related'
    cases related' with
    | some related' => exact ⟨row', item, item', rfl, related, related', later⟩

variable {merge : ρ → ρ → ρ}

theorem shows_upsert (keeps : KeyedTable.KeepsKey key merge) (shows : Shows key R table register) {row : ρ}
    {item : α} (related : R (KeyedTable.merged merge (KeyedTable.find key table (key row)) row) item) :
    Shows key R (KeyedTable.upsert key merge table row) (Function.update register (key row) (some item)) := by
  intro k
  rw [KeyedTable.find_upsert keeps]
  by_cases same : k = key row
  · subst same
    rw [if_pos rfl, Function.update_self]
    exact .some related
  · rw [if_neg same, Function.update_of_ne same]
    exact shows k

/-- **An upsert shows the changed register.** -/
theorem Shows.upsert (shows : Shows key R table register) (keeps : KeyedTable.KeepsKey key merge) {row : ρ}
    {item : α} {change : Option α → Option α} (changed : change (register (key row)) = some item)
    (related : R (KeyedTable.merged merge (KeyedTable.find key table (key row)) row) item) :
    ∃ after, alter register (key row) change = some after ∧
      Shows key R (KeyedTable.upsert key merge table row) after := by
  refine ⟨_, ?_, shows_upsert keeps shows related⟩
  rw [alter, changed]
  rfl

/-- **An upsert shows the same register** where its row is related to the item that is there. -/
theorem Shows.upsert_same (shows : Shows key R table register) (keeps : KeyedTable.KeepsKey key merge)
    {row : ρ} {item : α} (there : register (key row) = some item)
    (related : R (KeyedTable.merged merge (KeyedTable.find key table (key row)) row) item) :
    Shows key R (KeyedTable.upsert key merge table row) register := by
  have same := shows_upsert keeps shows related
  rwa [← there, Function.update_eq_self] at same

end Register
