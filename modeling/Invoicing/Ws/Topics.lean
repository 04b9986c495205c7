/-
**The topic patterns of a subscription.**

* `topicMatches` — a pattern matches a topic segment by segment: `*` stands for any one segment, a last
  `#` for the rest of the topic.
* **`topicMatches_hash`** — the pattern `#` matches every topic.
* `Agree`, `PatternMatches` — the pattern language by itself, on lists of segments.
* **`topicMatches_iff`** — the loop decides it; a `#` before the last segment matches nothing.
-/

import Mathlib.Data.List.Forall2

namespace Invoicing

/-- What lies between the dots of a text. -/
def segments (text : String) : List String := (text.toList.splitOn '.').map String.ofList

/-- The loop over the segments of a pattern and of a topic. -/
def segmentsMatch : List String → List String → Bool
  | [], topic => topic.isEmpty
  | segment :: rest, topic =>
      if segment = "#" then rest.isEmpty
      else
        match topic with
        | [] => false
        | first :: others =>
            if segment ≠ "*" ∧ segment ≠ first then false else segmentsMatch rest others

def topicMatches (pattern topic : String) : Bool := segmentsMatch (segments pattern) (segments topic)

/-- **The pattern `#` matches every topic.** -/
theorem topicMatches_hash (topic : String) : topicMatches "#" topic = true := by
  have lone : segments "#" = ["#"] := by decide
  unfold topicMatches
  rw [lone]
  rfl

/-! ### The pattern language -/

/-- A segment of a pattern stands for a segment of a topic. -/
def SegmentAgrees (segment first : String) : Prop := segment = "*" ∨ segment = first

/-- The segments agree one by one, and there are as many of them. -/
abbrev Agree : List String → List String → Prop := List.Forall₂ SegmentAgrees

/-- **The pattern language.** A pattern without `#` agrees with the whole topic, one that ends in its only
`#` with the first segments of the topic. -/
def PatternMatches (pattern topic : List String) : Prop :=
  ("#" ∉ pattern ∧ Agree pattern topic) ∨
    ∃ front, pattern = front ++ ["#"] ∧ "#" ∉ front ∧
      ∃ covered rest, topic = covered ++ rest ∧ Agree front covered

/-- The empty pattern matches the empty topic. -/
theorem patternMatches_nil (topic : List String) : PatternMatches [] topic ↔ topic = [] := by
  constructor
  · rintro (⟨_, agree⟩ | ⟨front, ends, _⟩)
    · exact List.forall₂_nil_left_iff.mp agree
    · exact absurd ends (by simp)
  · rintro rfl
    exact Or.inl ⟨List.not_mem_nil, List.Forall₂.nil⟩

/-- A pattern that begins with `#` has nothing after it. -/
theorem patternMatches_hash (rest topic : List String) : PatternMatches ("#" :: rest) topic ↔ rest = [] := by
  constructor
  · rintro (⟨free, _⟩ | ⟨front, ends, free, _⟩)
    · exact absurd List.mem_cons_self free
    · cases front with
      | nil => exact (List.cons.inj ends).2
      | cons first others =>
        obtain ⟨rfl, _⟩ := List.cons.inj ends
        exact absurd List.mem_cons_self free
  · rintro rfl
    exact Or.inr ⟨[], rfl, List.not_mem_nil, [], topic, rfl, List.Forall₂.nil⟩

/-- Another first segment needs a segment of the topic that it agrees with. -/
theorem patternMatches_cons {segment : String} (literal : segment ≠ "#") (rest topic : List String) :
    PatternMatches (segment :: rest) topic ↔
      ∃ first others, topic = first :: others ∧ SegmentAgrees segment first ∧ PatternMatches rest others := by
  constructor
  · rintro (⟨free, agree⟩ | ⟨front, ends, free, covered, after, rfl, agree⟩)
    · obtain ⟨first, others, agrees, after, rfl⟩ := List.forall₂_cons_left_iff.mp agree
      exact ⟨first, others, rfl, agrees, Or.inl ⟨fun later => free (List.mem_cons_of_mem _ later), after⟩⟩
    · cases front with
      | nil => exact absurd (List.cons.inj ends).1 literal
      | cons head front =>
        obtain ⟨rfl, shape⟩ := List.cons.inj ends
        obtain ⟨first, others, agrees, fronts, rfl⟩ := List.forall₂_cons_left_iff.mp agree
        exact ⟨first, others ++ after, rfl, agrees, Or.inr ⟨front, shape,
          fun later => free (List.mem_cons_of_mem _ later), others, after, rfl, fronts⟩⟩
  · rintro ⟨first, others, rfl, agrees, ⟨free, agree⟩ | ⟨front, rfl, free, covered, after, rfl, agree⟩⟩
    · refine Or.inl ⟨?_, List.Forall₂.cons agrees agree⟩
      rw [List.mem_cons, not_or]
      exact ⟨fun same => literal same.symm, free⟩
    · refine Or.inr ⟨segment :: front, rfl, ?_, first :: covered, after, rfl, List.Forall₂.cons agrees agree⟩
      rw [List.mem_cons, not_or]
      exact ⟨fun same => literal same.symm, free⟩

/-- The loop decides the pattern language, segment by segment. -/
theorem segmentsMatch_iff (pattern topic : List String) :
    segmentsMatch pattern topic = true ↔ PatternMatches pattern topic := by
  induction pattern generalizing topic with
  | nil =>
    rw [patternMatches_nil]
    exact List.isEmpty_iff
  | cons segment rest ih =>
    by_cases hash : segment = "#"
    · subst hash
      rw [patternMatches_hash]
      exact List.isEmpty_iff
    · rw [patternMatches_cons hash]
      cases topic with
      | nil => simp [segmentsMatch, hash]
      | cons first others =>
        have step : segmentsMatch (segment :: rest) (first :: others) = true ↔
            SegmentAgrees segment first ∧ segmentsMatch rest others = true := by
          by_cases agrees : SegmentAgrees segment first
          · have passes : ¬ (segment ≠ "*" ∧ segment ≠ first) := by
              rintro ⟨noStar, differs⟩
              exact agrees.elim noStar differs
            simp [segmentsMatch, hash, passes, agrees]
          · have stops : segment ≠ "*" ∧ segment ≠ first := not_or.mp agrees
            simp [segmentsMatch, hash, stops, agrees]
        rw [step, ih]
        constructor
        · rintro ⟨agrees, after⟩
          exact ⟨first, others, rfl, agrees, after⟩
        · rintro ⟨_, _, same, agrees, after⟩
          obtain ⟨rfl, rfl⟩ := List.cons.inj same
          exact ⟨agrees, after⟩

/-- A `#` that is not the last segment is in no pattern that matches. -/
theorem not_patternMatches_of_hash {before rest : List String} (more : rest ≠ []) (topic : List String) :
    ¬ PatternMatches (before ++ "#" :: rest) topic := by
  rintro (⟨free, _⟩ | ⟨front, ends, free, _⟩)
  · exact free (List.mem_append_right _ List.mem_cons_self)
  · obtain ⟨init, last, rfl⟩ := (List.eq_nil_or_concat' rest).resolve_left more
    have shape : before ++ "#" :: init = front := by
      have same : (before ++ "#" :: init) ++ [last] = front ++ ["#"] := by simpa using ends
      exact (List.append_inj' same rfl).1
    exact free (shape ▸ List.mem_append_right _ List.mem_cons_self)

/-- **`topic_matches` decides the pattern language.** -/
theorem topicMatches_iff (pattern topic : String) :
    (topicMatches pattern topic = true ↔ PatternMatches (segments pattern) (segments topic)) ∧
      ∀ before rest, segments pattern = before ++ "#" :: rest → rest ≠ [] → topicMatches pattern topic = false := by
  have decides := segmentsMatch_iff (segments pattern) (segments topic)
  refine ⟨decides, ?_⟩
  intro before rest shape more
  rw [shape] at decides
  rw [← Bool.not_eq_true]
  intro matched
  exact not_patternMatches_of_hash more _ (decides.mp (shape ▸ matched))

end Invoicing
