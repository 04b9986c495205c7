/-
**Recurrences and the work done along them.**

* `Recurrence.member` — the members of a recurrence: a start and, from each member, the next one while
  there is one. **`member_increases`** — what grows from a member to the next grows along all of them;
  where the next is always later, the members increase (`member_lt`) and pass every day that has a next
  one (`exists_member_past`).
* `Position` — how many members are done, the one to do next, and whether the work has ended. `Tick` —
  a tick does the next member when it is due, and ends the work where the next one lies past the last
  date.
* **`Follows.tick`** — after any ticks the members done are a prefix of the recurrence, inside its last
  date, each done by a tick at or after it; and a member that is not done yet has seen no more ticks
  than there are members done.
-/

import Mathlib.Order.Basic
import Mathlib.Order.Lattice
import Mathlib.Data.Option.Basic

namespace Recurrence

variable {α : Type}

/-! ### Members -/

/-- The members of a recurrence. -/
def member (advance : α → Option α) (start : α) : ℕ → Option α
  | 0 => some start
  | n + 1 => (member advance start n).bind advance

section Members

variable {advance : α → Option α} {start : α}

/-- What holds of the start and is kept from a member to the next holds of every member. -/
theorem member_keeps {I : α → Prop} (kept : ∀ a b, I a → advance a = some b → I b) (first : I start)
    {n : ℕ} {a : α} (found : member advance start n = some a) : I a := by
  induction n generalizing a with
  | zero =>
    cases found
    exact first
  | succ n ih =>
    obtain ⟨c, before, next⟩ := Option.bind_eq_some_iff.mp found
    exact kept c a (ih before) next

/-- **What grows from a member to the next grows along the recurrence**, on members that keep `I`. -/
theorem member_increases {β : Type} [Preorder β] {f : α → β} {I : α → Prop}
    (kept : ∀ a b, I a → advance a = some b → I b) (grows : ∀ a b, I a → advance a = some b → f a < f b)
    (start' : I start) {m n : ℕ} {a b : α} (before : m < n)
    (first : member advance start m = some a) (second : member advance start n = some b) :
    f a < f b := by
  induction n generalizing b with
  | zero => exact absurd before (Nat.not_lt_zero m)
  | succ n ih =>
    obtain ⟨c, found, next⟩ := Option.bind_eq_some_iff.mp second
    have step := grows c b (member_keeps kept start' found) next
    rcases Nat.lt_succ_iff_lt_or_eq.mp before with less | rfl
    · exact (ih less found).trans step
    · rw [first] at found
      cases found
      exact step

variable [LinearOrder α]

/-- **The members of a recurrence whose next is always later increase.** -/
theorem member_lt (later : ∀ a b, advance a = some b → a < b) {m n : ℕ} {a b : α} (before : m < n)
    (first : member advance start m = some a) (second : member advance start n = some b) :
    a < b :=
  member_increases (I := fun _ => True) (f := id) (fun _ _ _ _ => trivial) (fun a b _ => later a b)
    trivial before first second

theorem member_le (later : ∀ a b, advance a = some b → a < b) {m n : ℕ} {a b : α} (before : m ≤ n)
    (first : member advance start m = some a) (second : member advance start n = some b) :
    a ≤ b := by
  rcases before.lt_or_eq with less | rfl
  · exact (member_lt later less first second).le
  · rw [first] at second
    cases second
    exact le_rfl

theorem member_inj (later : ∀ a b, advance a = some b → a < b) {m n : ℕ} {a : α}
    (first : member advance start m = some a) (second : member advance start n = some a) :
    m = n := by
  rcases lt_trichotomy m n with less | same | less
  · exact absurd (member_lt later less first second) (lt_irrefl a)
  · exact same
  · exact absurd (member_lt later less second first) (lt_irrefl a)

/-- **A catch-up ends**: where every date up to a day has a next one, and only finitely many ranks lie
below it, some member lies past the day. -/
theorem exists_member_past {rank : α → ℤ} (ranked : ∀ a b, a < b → rank a < rank b)
    (later : ∀ a b, advance a = some b → a < b) {today : α}
    (defined : ∀ a, a ≤ today → ∃ b, advance a = some b) (start : α) :
    ∃ n a, member advance start n = some a ∧ today < a := by
  -- with `k` members found, all of them up to today, the last has a rank at least `k` above the start
  by_contra stuck
  have upTo : ∀ n a, member advance start n = some a → a ≤ today :=
    fun n a found => not_lt.mp fun past => stuck ⟨n, a, found, past⟩
  have climb : ∀ n, ∃ a, member advance start n = some a ∧ rank start + n ≤ rank a := by
    intro n
    induction n with
    | zero => exact ⟨start, rfl, by simp⟩
    | succ n ih =>
      obtain ⟨a, found, high⟩ := ih
      obtain ⟨b, next⟩ := defined a (upTo n a found)
      have step := ranked a b (later a b next)
      refine ⟨b, ?_, by push_cast; omega⟩
      show (member advance start n).bind advance = some b
      rw [found]
      exact next
  obtain ⟨a, found, high⟩ := climb (rank today - rank start + 1).toNat
  have low : rank a ≤ rank today := by
    rcases (upTo _ a found).lt_or_eq with less | rfl
    · exact (ranked a today less).le
    · exact le_rfl
  omega

end Members

/-! ### Work along a recurrence -/

variable [LinearOrder α]

/-- Where the work stands: the members done, the next one, and whether the work has ended. -/
structure Position (α : Type) where
  done : ℕ
  next : α
  ended : Prop

/-- What a tick does. -/
inductive Tick (advance : α → Option α) (last : Option α) (today : α) :
    Position α → Position α → Prop
  | rest {p : Position α} (idle : p.ended ∨ today < p.next) : Tick advance last today p p
  | take {p : Position α} {next : α} (running : ¬ p.ended) (due : p.next ≤ today)
      (advanced : advance p.next = some next) :
      Tick advance last today p ⟨p.done + 1, next, ∃ end' ∈ last, end' < next⟩

/-- Where the work stands after ticks at some dates. -/
structure Follows (advance : α → Option α) (start : α) (last : Option α) (ticks : List α)
    (p : Position α) : Prop where
  next : member advance start p.done = some p.next
  within : ∀ m < p.done, ∀ a, member advance start m = some a → ∀ end' ∈ last, a ≤ end'
  ended : p.ended ↔ ∃ end' ∈ last, end' < p.next
  caused : ∀ m < p.done, ∀ a, member advance start m = some a → ∃ today ∈ ticks, a ≤ today
  counted : ∀ m a, member advance start m = some a → (∀ end' ∈ last, a ≤ end') → p.done ≤ m →
    ticks.countP (fun today => decide (a ≤ today)) ≤ p.done

section Work

variable {advance : α → Option α} {start : α} {last : Option α}

/-- Work that has not begun. -/
theorem Follows.begun (inside : ∀ end' ∈ last, start ≤ end') :
    Follows advance start last [] ⟨0, start, False⟩ where
  next := rfl
  within := fun m before => absurd before (Nat.not_lt_zero m)
  ended := by
    refine iff_of_false id ?_
    rintro ⟨end', isEnd, early⟩
    exact absurd early (not_lt.mpr (inside end' isEnd))
  caused := fun m before => absurd before (Nat.not_lt_zero m)
  counted := fun _ _ _ _ _ => le_rfl

/-- **A tick keeps to the recurrence.** -/
theorem Follows.tick (later : ∀ a b, advance a = some b → a < b) {ticks : List α} {today : α}
    {p q : Position α} (follows : Follows advance start last ticks p)
    (tick : Tick advance last today p q) : Follows advance start last (ticks ++ [today]) q := by
  cases tick with
  | rest idle =>
    refine ⟨follows.next, follows.within, follows.ended, ?_, ?_⟩
    · intro m before a found
      obtain ⟨date, member, atLeast⟩ := follows.caused m before a found
      exact ⟨date, List.mem_append_left _ member, atLeast⟩
    · intro m a found inside open'
      have notYet : ¬ a ≤ today := by
        have behind := member_le later open' follows.next found
        rcases idle with ended | early
        · obtain ⟨end', isEnd, past⟩ := follows.ended.mp ended
          exact absurd (past.trans_le behind) (not_lt.mpr (inside end' isEnd))
        · exact not_le.mpr (early.trans_le behind)
      rw [List.countP_append, List.countP_singleton, if_neg (by simpa using notYet), Nat.add_zero]
      exact follows.counted m a found inside open'
  | take running due advanced =>
    refine ⟨?_, ?_, Iff.rfl, ?_, ?_⟩
    · show (member advance start p.done).bind advance = _
      rw [follows.next]
      exact advanced
    · intro m before a found end' isEnd
      rcases Nat.lt_succ_iff_lt_or_eq.mp before with less | rfl
      · exact follows.within m less a found end' isEnd
      · rw [follows.next] at found
        cases found
        exact not_lt.mp fun past => running (follows.ended.mpr ⟨end', isEnd, past⟩)
    · intro m before a found
      rcases Nat.lt_succ_iff_lt_or_eq.mp before with less | rfl
      · obtain ⟨date, member, atLeast⟩ := follows.caused m less a found
        exact ⟨date, List.mem_append_left _ member, atLeast⟩
      · rw [follows.next] at found
        cases found
        exact ⟨today, List.mem_append_right _ (List.mem_singleton_self _), due⟩
    · intro m a found inside open'
      have before := follows.counted m a found inside (Nat.le_of_succ_le open')
      rw [List.countP_append, List.countP_singleton]
      show _ ≤ p.done + 1
      split <;> omega

/-- **Enough ticks do a member**: one more tick at or after it than there are members before it. -/
theorem Follows.complete {ticks : List α} {p : Position α}
    (follows : Follows advance start last ticks p) {m : ℕ} {a : α}
    (found : member advance start m = some a) (inside : ∀ end' ∈ last, a ≤ end')
    (enough : m < ticks.countP fun today => decide (a ≤ today)) : m < p.done := by
  by_contra notDone
  have open' := Nat.not_lt.mp notDone
  have few := follows.counted m a found inside open'
  omega

end Work

end Recurrence
