/-
**References to stored blobs.**

* `BlobRef` — a text `blob://<backend>/<path>`. `BlobRef.new`, `BlobRef.parse` — from its parts and from a
  text; `backend`, `path` — what stands before and after the first slash.
-/

import Mathlib
import Invoicing.Domain.CadenceText

namespace Invoicing

open SplitText (toList_joined)

/-! ### References -/

/-- Why there is no such reference, or why it does not lead to a file. -/
inductive BlobError
  | emptyBackend
  | missingScheme (text : String)
  | missingPath (text : String)
  | otherBackend (backend : String)
  | disallowedComponent (path : String)
  deriving DecidableEq

/-- The message of an error; texts are quoted as the language's debug format does. -/
def BlobError.text (quoted : String → String) : BlobError → String
  | .emptyBackend => "empty backend segment"
  | .missingScheme text => "missing blob:// scheme in " ++ quoted text
  | .missingPath text => "missing path segment in " ++ quoted text
  | .otherBackend backend => "blob ref backend " ++ quoted backend ++ " is not handled by local store"
  | .disallowedComponent path => "blob path " ++ quoted path ++ " contains a disallowed component"

def scheme : List Char := "blob://".toList

/-- The text of a backend and a path. -/
def blobText (backend path : List Char) : List Char := scheme ++ (backend ++ '/' :: path)

/-- A reference: some backend in lower case and some path. -/
structure BlobRef where
  text : String
  formed : ∃ backend path : List Char, backend ≠ [] ∧ text = String.ofList (blobText (backend.map Char.toLower) path)
  deriving DecidableEq

namespace BlobRef

/-- What follows some characters at the start of a text. -/
def stripPrefix (start text : List Char) : Option (List Char) :=
  if start <+: text then some (text.drop start.length) else none

/-- A path without one slash in front. -/
def withoutSlash (path : List Char) : List Char := (stripPrefix ['/'] path).getD path

def new (backend path : String) : Except BlobError BlobRef :=
  if empty : backend.toList = [] then .error .emptyBackend
  else
    .ok ⟨String.ofList (blobText (backend.toList.map Char.toLower) (withoutSlash path.toList)),
      backend.toList, withoutSlash path.toList, empty, rfl⟩

def parse (s : String) : Except BlobError BlobRef :=
  match stripPrefix scheme s.toList with
  | none => .error (.missingScheme s)
  | some rest =>
      match splitOnce '/' rest with
      | none => .error (.missingPath s)
      | some (backend, path) => new (String.ofList backend) (String.ofList path)

/-- The text behind the scheme. -/
def rest (r : BlobRef) : List Char := (stripPrefix scheme r.text.toList).getD r.text.toList

def backend (r : BlobRef) : String :=
  String.ofList (((splitOnce '/' r.rest).map Prod.fst).getD r.rest)

def path (r : BlobRef) : String := String.ofList (((splitOnce '/' r.rest).map Prod.snd).getD [])

def asStr (r : BlobRef) : String := r.text

@[ext] theorem ext {r other : BlobRef} (same : r.text = other.text) : r = other := by
  cases r
  cases other
  congr

/-! ### The two parts -/

theorem stripPrefix_eq_some_iff {start text rest : List Char} :
    stripPrefix start text = some rest ↔ text = start ++ rest := by
  unfold stripPrefix
  constructor
  · intro stripped
    split at stripped
    · rename_i begins
      obtain ⟨others, rfl⟩ := begins
      rw [List.drop_left] at stripped
      rw [Option.some.inj stripped]
    · cases stripped
  · rintro rfl
    rw [if_pos (List.prefix_append start rest), List.drop_left]

theorem withoutSlash_cons (path : List Char) : withoutSlash ('/' :: path) = path := by
  have stripped : stripPrefix ['/'] ('/' :: path) = some path := stripPrefix_eq_some_iff.mpr rfl
  rw [withoutSlash, stripped, Option.getD_some]

theorem withoutSlash_of_ne {path : List Char} (other : path.head? ≠ some '/') :
    withoutSlash path = path := by
  cases stripped : stripPrefix ['/'] path with
  | none => rw [withoutSlash, stripped, Option.getD_none]
  | some rest =>
    rw [stripPrefix_eq_some_iff.mp stripped] at other
    exact absurd rfl other

/-- A path is stored as it is exactly when it does not begin with a slash. -/
theorem withoutSlash_eq_self_iff {path : List Char} : withoutSlash path = path ↔ path.head? ≠ some '/' := by
  refine ⟨fun same begins => ?_, withoutSlash_of_ne⟩
  obtain ⟨rest, rfl⟩ := List.head?_eq_some_iff.mp begins
  rw [withoutSlash_cons] at same
  exact absurd (congrArg List.length same) (by simp)

/-- A slash is left exactly of a path that begins with two. -/
theorem head?_withoutSlash_iff {path : List Char} :
    (withoutSlash path).head? = some '/' ↔ ['/', '/'] <+: path := by
  by_cases begins : path.head? = some '/'
  · obtain ⟨rest, rfl⟩ := List.head?_eq_some_iff.mp begins
    rw [withoutSlash_cons, List.cons_prefix_cons]
    cases rest with
    | nil => simp
    | cons c others => simp [eq_comm]
  · rw [withoutSlash_of_ne begins]
    refine iff_of_false begins ?_
    rintro ⟨rest, rfl⟩
    exact begins rfl

/-- Lower case neither makes nor removes a slash. -/
theorem slash_mem_lower {text : List Char} : '/' ∈ text.map Char.toLower ↔ '/' ∈ text := by
  constructor
  · intro member
    obtain ⟨c, there, lowered⟩ := List.mem_map.mp member
    have same : c = '/' := by
      by_cases upper : c.isUpper
      · have letter : ('/' : Char).isLower = c.isAlpha := by
          rw [← lowered, Char.isLower_toLower_eq_isAlpha]
        rw [Char.isAlpha, upper, Bool.true_or] at letter
        exact absurd letter (by decide)
      · rwa [Char.toLower_eq_of_not_isUpper upper] at lowered
    rwa [same] at there
  · intro there
    exact List.mem_map.mpr ⟨'/', there, rfl⟩

theorem lower_lower (text : List Char) : (text.map Char.toLower).map Char.toLower = text.map Char.toLower := by
  rw [List.map_map]
  exact List.map_congr_left fun c _ => Char.toLower_toLower_eq_toLower c

/-- What a reference is made of. -/
theorem new_ok_iff {backend path : String} {r : BlobRef} :
    new backend path = .ok r ↔ backend.toList ≠ [] ∧
      r.text = String.ofList (blobText (backend.toList.map Char.toLower) (withoutSlash path.toList)) := by
  unfold new
  split
  · rename_i empty
    exact iff_of_false nofun fun made => made.1 empty
  · rename_i nonempty
    rw [Except.ok.injEq, BlobRef.ext_iff, eq_comm]
    exact ⟨fun text => ⟨nonempty, text⟩, And.right⟩

section Parts

variable {b p : List Char}

theorem stripPrefix_blobText : stripPrefix scheme (blobText b p) = some (b ++ '/' :: p) :=
  stripPrefix_eq_some_iff.mpr rfl

/-- **The parts of a reference whose backend has no slash.** -/
theorem parts_of_text {r : BlobRef} (absent : '/' ∉ b) (text : r.text = String.ofList (blobText b p)) :
    r.backend = String.ofList b ∧ r.path = String.ofList p := by
  have behind : r.rest = b ++ '/' :: p := by
    rw [rest, text, String.toList_ofList, stripPrefix_blobText, Option.getD_some]
  unfold backend path
  rw [behind, splitOnce_append absent]
  exact ⟨rfl, rfl⟩

/-- The text of a reference has one backend without a slash. -/
theorem blobText_inj {b' p' : List Char} (absent : '/' ∉ b) (absent' : '/' ∉ b')
    (same : blobText b p = blobText b' p') : b = b' ∧ p = p' := by
  rw [blobText, blobText, List.append_cancel_left_eq] at same
  have split := splitOnce_append absent p
  rw [same, splitOnce_append absent', Option.some.injEq, Prod.mk.injEq] at split
  exact ⟨split.1.symm, split.2.symm⟩

/-- Parsing splits at the first slash behind the scheme. -/
theorem parse_blobText (absent : '/' ∉ b) :
    parse (String.ofList (blobText b p)) = new (String.ofList b) (String.ofList p) := by
  unfold parse
  rw [String.toList_ofList, stripPrefix_blobText]
  dsimp only
  rw [splitOnce_append absent]

/-- **A reference is parsed to itself exactly when its path begins with no slash.** -/
theorem reparsed_iff {r : BlobRef} (nonempty : b ≠ []) (absent : '/' ∉ b)
    (text : r.text = String.ofList (blobText (b.map Char.toLower) p)) :
    parse r.asStr = .ok r ↔ p.head? ≠ some '/' := by
  have absent' : '/' ∉ b.map Char.toLower := fun member => absent (slash_mem_lower.mp member)
  have cancel : blobText (b.map Char.toLower) p = blobText (b.map Char.toLower) (withoutSlash p) ↔
      withoutSlash p = p := by
    rw [blobText, blobText, List.append_cancel_left_eq, List.append_cancel_left_eq, List.cons_inj_right]
    exact eq_comm
  rw [asStr, text, parse_blobText absent', new_ok_iff, String.toList_ofList, String.toList_ofList,
    lower_lower, text, String.ofList_inj, cancel, withoutSlash_eq_self_iff]
  exact and_iff_right (mt List.map_eq_nil_iff.mp nonempty)

end Parts

/-- What is parsed is a backend without a slash, and a path behind it. -/
theorem parse_ok_iff {s : String} {r : BlobRef} :
    parse s = .ok r ↔ ∃ backend path : List Char, '/' ∉ backend ∧ s = String.ofList (blobText backend path) ∧
      new (String.ofList backend) (String.ofList path) = .ok r := by
  constructor
  · intro parsed
    unfold parse at parsed
    split at parsed
    · cases parsed
    · rename_i behind stripped
      split at parsed
      · cases parsed
      · rename_i backend path split
        obtain ⟨rfl, absent⟩ := splitOnce_eq_some_iff.mp split
        refine ⟨backend, path, absent, ?_, parsed⟩
        rw [← String.ofList_toList (s := s), stripPrefix_eq_some_iff.mp stripped]
        rfl
  · rintro ⟨backend, path, absent, rfl, made⟩
    rw [parse_blobText absent]
    exact made

theorem slash_not_mem_backend (r : BlobRef) : '/' ∉ r.backend.toList := by
  unfold backend
  rw [String.toList_ofList]
  cases split : splitOnce '/' r.rest with
  | none =>
    intro member
    have there : '/' ∈ r.rest := member
    rw [splitOnce, if_pos there] at split
    cases split
  | some parts => exact (splitOnce_eq_some_iff.mp split).2

/-! ### Round trips -/

/-- A path that begins with two slashes. -/
def TwoSlashes (path : String) : Prop := ['/', '/'] <+: path.toList

/-- The path of a text begins with two slashes. -/
def PathTwoSlashes (s : String) : Prop :=
  ∃ backend path : String, '/' ∉ backend.toList ∧ s = "blob://" ++ backend ++ "/" ++ path ∧ TwoSlashes path

theorem pathTwoSlashes_iff {b p : List Char} (absent : '/' ∉ b) :
    PathTwoSlashes (String.ofList (blobText b p)) ↔ ['/', '/'] <+: p := by
  have written : ∀ backend path : String, "blob://" ++ backend ++ "/" ++ path =
      String.ofList (blobText backend.toList path.toList) := by
    intro backend path
    apply String.toList_injective
    rw [toList_joined '/' rfl, String.toList_append, List.append_assoc]
    exact String.toList_ofList.symm
  constructor
  · rintro ⟨backend, path, absent', same, two⟩
    rw [written, String.ofList_inj] at same
    rw [(blobText_inj absent absent' same).2]
    exact two
  · intro two
    refine ⟨String.ofList b, String.ofList p, by rwa [String.toList_ofList], ?_, ?_⟩
    · rw [written, String.toList_ofList, String.toList_ofList]
    · rwa [TwoSlashes, String.toList_ofList]

/-- **Exactly which references are read back**: a reference made of two parts is, with these parts, when the
backend has no slash and the path does not begin with two; one that was parsed is when the path of the text
does not. -/
theorem blob_refs_read_back_iff (backend path s : String) :
    (∀ r, new backend path = .ok r →
        ((parse r.asStr = .ok r ∧ r.backend = String.ofList (backend.toList.map Char.toLower) ∧
            r.path = String.ofList (withoutSlash path.toList)) ↔
          '/' ∉ backend.toList ∧ ¬ TwoSlashes path)) ∧
      ∀ r, parse s = .ok r → (parse r.asStr = .ok r ↔ ¬ PathTwoSlashes s) := by
  refine ⟨?_, ?_⟩
  · intro r made
    obtain ⟨nonempty, text⟩ := new_ok_iff.mp made
    by_cases slash : '/' ∈ backend.toList
    · refine iff_of_false ?_ fun plain => plain.1 slash
      rintro ⟨_, part, _⟩
      -- what stands before the first slash has none
      have none := r.slash_not_mem_backend
      rw [part, String.toList_ofList, slash_mem_lower] at none
      exact none slash
    · have absent : '/' ∉ backend.toList.map Char.toLower := fun member => slash (slash_mem_lower.mp member)
      have parts := parts_of_text absent text
      rw [reparsed_iff nonempty slash text, ne_eq, head?_withoutSlash_iff]
      exact ⟨fun holds => ⟨slash, holds.1⟩, fun plain => ⟨plain.2, parts⟩⟩
  · intro r parsed
    obtain ⟨front, behind, absent, rfl, made⟩ := parse_ok_iff.mp parsed
    obtain ⟨nonempty, text⟩ := new_ok_iff.mp made
    rw [String.toList_ofList] at nonempty text
    rw [String.toList_ofList] at text
    rw [reparsed_iff nonempty absent text, ne_eq, head?_withoutSlash_iff, pathTwoSlashes_iff absent]

/-- **Slashes are lost, and a backend is cut**: a path with two slashes in front, given or parsed, comes back
with one less; of a backend with a slash only the part before it is left. -/
theorem slashes_lost :
    (∃ r, new "local" "//a" = .ok r ∧ parse r.asStr ≠ .ok r) ∧
      (∃ r, parse "blob://local///a" = .ok r ∧ parse r.asStr ≠ .ok r) ∧
      ∃ r, new "a/b" "c" = .ok r ∧ r.backend ≠ "a/b" := by
  have other : ∀ {s : String} {r : BlobRef}, (parse s).toOption.map asStr ≠ some r.asStr →
      parse s ≠ .ok r := by
    intro s r differ same
    rw [same] at differ
    exact differ rfl
  refine ⟨⟨_, rfl, other ?_⟩, ⟨_, rfl, other ?_⟩, ⟨_, rfl, ?_⟩⟩
  · decide +kernel
  · decide +kernel
  · decide +kernel

end BlobRef

end Invoicing
