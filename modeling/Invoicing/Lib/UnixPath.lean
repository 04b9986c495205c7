/-
**Paths as lists of components.**

* `components` — what a path is made of: a root when it begins with a separator, the names between its
  separators, `..`, and a leading `.`. Empty names and every other `.` are left out.
* `join` — a path appended to another one; a rooted path takes its place.
  **`components_join`** — a path that is not rooted adds its own components behind those of the base.
* `place` — where components lead, by names from the start. **`place_below`** — components without a root
  and without `..` lead to somewhere below.
-/

import Mathlib.Data.List.Basic
import Mathlib.Data.List.Induction

namespace UnixPath

variable {α : Type} [DecidableEq α]

/-- A component of a path. Only paths of other systems have one of the first kind. -/
inductive Component (α : Type)
  | pathPrefix (text : List α)
  | rootDir
  | curDir
  | parentDir
  | normal (name : List α)
  deriving DecidableEq

/-- A component that does not lead out of where one is. -/
def Component.stays : Component α → Bool
  | .normal _ => true
  | .curDir => true
  | _ => false

omit [DecidableEq α] in
theorem Component.stays_iff {c : Component α} : c.stays ↔ c = .curDir ∨ ∃ name, c = .normal name := by
  cases c with
  | pathPrefix text => simp [stays]
  | rootDir => simp [stays]
  | curDir => simp [stays]
  | parentDir => simp [stays]
  | normal name => simp [stays]

section Split

variable (sep dot : α)

/-- What stands between two separators; an empty name and `.` count for nothing. -/
def component (name : List α) : List (Component α) :=
  if name = [] ∨ name = [dot] then []
  else if name = [dot, dot] then [.parentDir]
  else [.normal name]

def names (path : List α) : List (Component α) := (path.splitOn sep).flatMap (component dot)

/-- The root, or the `.` a path begins with. -/
def front (path : List α) : List (Component α) :=
  if path.head? = some sep then [.rootDir]
  else if (path.splitOn sep).head? = some [dot] then [.curDir]
  else []

def components (path : List α) : List (Component α) := front sep dot path ++ names sep dot path

/-- A path behind another one, with one separator between them; a rooted path replaces it. -/
def join (base path : List α) : List α :=
  if path.head? = some sep then path
  else if base = [] ∨ base.getLast? = some sep then base ++ path
  else base ++ sep :: path

end Split

/-! ### Joined paths -/

variable {sep dot : α}

theorem names_nil : names sep dot [] = [] := rfl

theorem names_append (base path : List α) :
    names sep dot (base ++ sep :: path) = names sep dot base ++ names sep dot path := by
  unfold names
  rw [List.splitOn_append_cons_self, List.flatMap_append]

/-- A path begins as its base does. -/
theorem front_append {base path : List α} (nonempty : base ≠ []) :
    front sep dot (base ++ sep :: path) = front sep dot base := by
  obtain ⟨name, rest, split⟩ := List.exists_cons_of_ne_nil (List.splitOn_ne_nil sep base)
  unfold front
  rw [List.splitOn_append_cons_self, split, List.head?_append_of_ne_nil base nonempty]
  rfl

theorem components_append {base : List α} (nonempty : base ≠ []) (path : List α) :
    components sep dot (base ++ sep :: path) = components sep dot base ++ names sep dot path := by
  unfold components
  rw [front_append nonempty, names_append, List.append_assoc]

/-- Behind a separator that closes the base. -/
theorem components_closed (before path : List α) :
    components sep dot (before ++ sep :: path) =
      components sep dot (before ++ [sep]) ++ names sep dot path := by
  by_cases empty : before = []
  · -- the base is the root
    have rooted : ∀ rest, front sep dot (sep :: rest) = [.rootDir] := fun _ => if_pos rfl
    have split : ∀ rest, names sep dot (sep :: rest) = names sep dot rest := names_append []
    rw [empty, List.nil_append, List.nil_append]
    unfold components
    rw [rooted, rooted, split, split, names_nil, List.append_nil]
  · rw [components_append empty, components_append empty, names_nil, List.append_nil]

/-- A rooted path has its root among its components. -/
theorem relative_of_stays {path : List α} (stays : ∀ c ∈ components sep dot path, c.stays) :
    path.head? ≠ some sep := by
  intro rooted
  have root : Component.rootDir ∈ components sep dot path := by
    unfold components front
    rw [if_pos rooted]
    exact List.mem_cons_self
  cases stays _ root

/-- The text of a joined path: the base, at most one separator, the path. -/
theorem join_text {base path : List α} (relative : path.head? ≠ some sep) :
    ∃ between, (between = [] ∨ between = [sep]) ∧ join sep base path = base ++ between ++ path := by
  unfold join
  rw [if_neg relative]
  split
  · exact ⟨[], Or.inl rfl, by rw [List.append_nil]⟩
  · exact ⟨[sep], Or.inr rfl, by rw [List.append_assoc, List.singleton_append]⟩

/-- **A path that is not rooted adds components of its own**, behind those of the base. -/
theorem components_join (base : List α) {path : List α} (relative : path.head? ≠ some sep) :
    ∃ below, components sep dot (join sep base path) = components sep dot base ++ below ∧
      below.Sublist (components sep dot path) := by
  have own : (names sep dot path).Sublist (components sep dot path) := List.sublist_append_right _ _
  unfold join
  rw [if_neg relative]
  by_cases empty : base = []
  · rw [if_pos (Or.inl empty), empty]
    exact ⟨components sep dot path, rfl, List.Sublist.refl _⟩
  · by_cases closed : base.getLast? = some sep
    · -- the separator is there already
      obtain ⟨before, rfl⟩ := List.getLast?_eq_some_iff.mp closed
      rw [if_pos (Or.inr closed)]
      refine ⟨names sep dot path, ?_, own⟩
      rw [List.append_assoc, List.singleton_append]
      exact components_closed before path
    · rw [if_neg (not_or.mpr ⟨empty, closed⟩)]
      exact ⟨names sep dot path, components_append empty path, own⟩

/-! ### Where components lead -/

omit [DecidableEq α]

/-- One component further. -/
def visit (place : List (List α)) : Component α → List (List α)
  | .pathPrefix _ => []
  | .rootDir => []
  | .curDir => place
  | .parentDir => place.dropLast
  | .normal name => place ++ [name]

/-- Where components lead, by names. -/
def place (path : List (Component α)) : List (List α) := path.foldl visit []

theorem visit_stays {here : List (List α)} {c : Component α} (stays : c.stays) :
    here <+: visit here c := by
  cases c with
  | pathPrefix text => cases stays
  | rootDir => cases stays
  | curDir => exact List.prefix_rfl
  | parentDir => cases stays
  | normal name => exact List.prefix_append here [name]

/-- **Components without a root and without `..` lead below.** -/
theorem place_below {base below : List (Component α)} (stays : ∀ c ∈ below, c.stays) :
    place base <+: place (base ++ below) := by
  induction below using List.reverseRecOn with
  | nil => simp only [List.append_nil, List.prefix_rfl]
  | append_singleton front last ih =>
    have here := ih fun c member => stays c (List.mem_append_left _ member)
    have onward : place (base ++ (front ++ [last])) = visit (place (base ++ front)) last := by
      unfold place
      rw [← List.append_assoc, List.foldl_append]
      rfl
    rw [onward]
    exact here.trans (visit_stays (stays last (List.mem_append_right _ List.mem_cons_self)))

end UnixPath
