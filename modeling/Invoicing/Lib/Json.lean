/-
**JSON values and the structs they are read as.**

* `Json` — a JSON value without arrays and numbers; the fields of an object in the order they were
  written. `Json.field` is the value of a field.
* `FieldType`, `Schema` — a struct as a deserialiser knows it: its fields, each a text, a truth value,
  a text a parser must accept, or optional.
* `Schema.Reads` — a value is read as the struct. Fields the struct does not have are ignored, and an
  optional field may be missing or `null`. **`Schema.not_reads_of_missing`** — a value without a field
  the struct needs is not read.
-/

import Mathlib.Data.List.Basic

/-- A JSON value. -/
inductive Json
  | null
  | bool (value : Bool)
  | str (text : String)
  | obj (fields : List (String × Json))

namespace Json

/-- The value of a field of an object. -/
def field (name : String) : Json → Option Json
  | obj fields => fields.lookup name
  | _ => none

/-- The text of a value. -/
def text? : Json → Option String
  | str text => some text
  | _ => none

/-- An optional text, `null` when it is absent. -/
def ofOption : Option String → Json
  | none => null
  | some text => str text

/-- An optional field that is left out when it is absent. -/
def unlessNone (name : String) : Option String → List (String × Json)
  | none => []
  | some text => [(name, str text)]

/-- What a field of a struct may hold; `parsed k` is a text the parser `k` accepts. -/
inductive FieldType (κ : Type)
  | string
  | bool
  | parsed (kind : κ)
  | optionalString

/-- The fields of a struct. -/
abbrev Schema (κ : Type) := List (String × FieldType κ)

namespace Schema

variable {κ : Type} (accepts : κ → String → Bool)

/-- A field's value is read; `none` is a field that is not there. -/
def readsField : FieldType κ → Option Json → Bool
  | .string, some (.str _) => true
  | .bool, some (.bool _) => true
  | .parsed kind, some (.str text) => accepts kind text
  | .optionalString, none => true
  | .optionalString, some .null => true
  | .optionalString, some (.str _) => true
  | _, _ => false

/-- The value is read as the struct. -/
def Reads (schema : Schema κ) (value : Json) : Prop :=
  ∀ entry ∈ schema, readsField accepts entry.2 (value.field entry.1) = true

instance (schema : Schema κ) (value : Json) : Decidable (schema.Reads accepts value) :=
  inferInstanceAs (Decidable (∀ entry ∈ schema, _ = true))

/-- **A field that must be there and is not.** -/
theorem not_reads_of_missing {schema : Schema κ} {value : Json} {name : String}
    {type : FieldType κ} (member : (name, type) ∈ schema) (needed : type ≠ .optionalString)
    (missing : value.field name = none) : ¬ schema.Reads accepts value := by
  intro reads
  have read := reads _ member
  simp only [missing] at read
  cases type with
  | optionalString => exact needed rfl
  | string => cases read
  | bool => cases read
  | parsed kind => cases read

end Schema

end Json
