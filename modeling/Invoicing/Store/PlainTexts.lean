/-
**Readers of the texts of columns.**

* `readTypeid` — a prefix, an underscore and 26 base-32 characters; **`readTypeid_text`** reads an id
  back.
* `printTemplateLine`, `templateLineReader` — a template line as a JSON object, its fields in order.
* `addressMembers`, `addressOf` — an address as the members of a JSON object, those that are there.
* `plainTexts` — these, with the RFC 3339 and date readers and compact JSON;
  **`plainTexts_documented`** — they are as documented. `plainRowTexts` — with addresses.
-/

import Invoicing.Store.Lookups

namespace Invoicing

open Chrono DigitText TextReader JsonText

/-! ### Typeids -/

def base32Value (c : Char) : Option ℕ := "0123456789abcdefghjkmnpqrstvwxyz".toList.idxOf? c

theorem base32Value_base32Char : ∀ digit < 32, base32Value (base32Char digit) = some digit := by
  decide

/-- The prefix and the bits of a typeid. -/
def readTypeid (text : List Char) : Option (String × BitVec 128) :=
  let front := text.take (text.length - 26)
  if front.getLast? = some '_' then
    (readAll (fixedNumber 32 base32Value 26) (text.drop (text.length - 26))).bind fun bits =>
      if bits < 2 ^ 128 then some (String.ofList front.dropLast, BitVec.ofNat 128 bits) else none
  else none

theorem readSuffix {entity : Entity} (id : EntityId entity) :
    readAll (fixedNumber 32 base32Value 26) id.suffix = some id.uuid.toNat := by
  have bound := id.uuid.isLt
  have room : (2 : ℕ) ^ 128 ≤ 32 ^ 26 := by norm_num
  have taken := takes_fixedNumber (by norm_num) base32Value_base32Char 26 id.uuid.toNat
  rw [Nat.mod_eq_of_lt (by omega)] at taken
  exact taken.readAll trivial

/-- **An id is read back.** -/
theorem readTypeid_text {entity : Entity} (id : EntityId entity) :
    readTypeid id.text.toList = some (entity.prefixText, id.uuid) := by
  have shape : id.text.toList = (entity.prefixText.toList ++ ['_']) ++ id.suffix := by
    unfold EntityId.text
    rw [String.toList_append, String.toList_append, String.toList_ofList (l := id.suffix)]
    rfl
  have front : id.text.toList.length - 26 = (entity.prefixText.toList ++ ['_']).length := by
    rw [shape, List.length_append, EntityId.length_suffix]
    omega
  unfold readTypeid
  rw [front, shape, List.take_left, List.drop_left, if_pos List.getLast?_concat, readSuffix,
    Option.bind_some, if_pos id.uuid.isLt, List.dropLast_concat, String.ofList_toList,
    BitVec.ofNat_toNat, BitVec.setWidth_eq]

/-! ### Template lines -/

/-- The member of an object under a key, read from its string. -/
def jsonField {α : Type} (key : String) (parse : String → Option α) : TextReader α := do
  literals (printString key)
  literal ':'
  let text ← string
  orFail (parse text)

theorem takes_jsonField {α : Type} {key text : String} {parse : String → Option α} {a : α}
    (parsed : parse text = some a) :
    Takes (jsonField key parse) Anything (printMember (key, text)) a := by
  refine (takes_literals _).then ((takes_literal ':').then ((takes_string text).last ?_))
  rw [parsed]
  exact takes_orFail a

def lineIdOf (text : String) : Option LineId :=
  match readTypeid text.toList with
  | none => none
  | some (got, uuid) => if got = Entity.line.prefixText then some ⟨uuid⟩ else none

/-- A template line as an object. -/
def printTemplateLine (line : ScheduleLine) : List Char :=
  printObject [("description", line.description), ("quantity", line.quantity.toString),
    ("unit_price", line.unitPrice.toString), ("tax_category", taxCategoryToStr line.taxCategory),
    ("id", line.id.text)]

def templateLineReader : TextReader ScheduleLine := do
  literal '{'
  let description ← jsonField "description" some
  literal ','
  let quantity ← jsonField "quantity" Decimal.fromStr
  literal ','
  let unitPrice ← jsonField "unit_price" Decimal.fromStr
  literal ','
  let taxCategory ← jsonField "tax_category" fun text => (taxCategoryFromStr text).toOption
  literal ','
  let id ← jsonField "id" lineIdOf
  literal '}'
  return { description, quantity, unitPrice, taxCategory, id }

theorem lineIdOf_text (id : LineId) : lineIdOf id.text = some id := by
  unfold lineIdOf
  rw [readTypeid_text]
  exact if_pos rfl

/-- **A template line is read back.** -/
theorem takes_templateLine (line : ScheduleLine) :
    Takes templateLineReader Anything (printTemplateLine line) line := by
  have category : (taxCategoryFromStr (taxCategoryToStr line.taxCategory)).toOption =
      some line.taxCategory := by
    rw [taxCategoryFromStr_toStr]
    rfl
  refine (takes_literal '{').then ((takes_jsonField rfl).then ((takes_literal ',').then
    ((takes_jsonField (Decimal.fromStr_toString _)).then ((takes_literal ',').then
      ((takes_jsonField (Decimal.fromStr_toString _)).then ((takes_literal ',').then
        ((takes_jsonField category).then ((takes_literal ',').then
          ((takes_jsonField (lineIdOf_text _)).then ((takes_literal '}').last ?_))))))))))
  exact .pure line

/-! ### Addresses -/

/-- A member that is left out when there is none. -/
def optionalMember (key : String) (text : Option String) : List (String × String) :=
  text.toList.map fun text => (key, text)

def addressMembers (address : Address) : List (String × String) :=
  ("country", address.country) :: (optionalMember "region" address.region ++
    optionalMember "city" address.city ++ optionalMember "postal" address.postal ++
    optionalMember "line1" address.line1 ++ optionalMember "line2" address.line2)

def addressOf (members : List (String × String)) : Option Address := do
  let country ← members.lookup "country"
  return { country, region := members.lookup "region", city := members.lookup "city",
           postal := members.lookup "postal", line1 := members.lookup "line1",
           line2 := members.lookup "line2" }

/-- **An address is read back.** -/
theorem addressOf_members (address : Address) : addressOf (addressMembers address) = some address := by
  obtain ⟨country, region, city, postal, line1, line2⟩ := address
  cases region <;> cases city <;> cases postal <;> cases line1 <;> cases line2 <;> rfl

/-! ### The texts of columns -/

/-- A value, or what is said when there is none. -/
def orMessage {α : Type} (message : String) : Option α → Except String α
  | none => .error message
  | some a => .ok a

/-- How a type is printed and read as JSON. -/
def jsonOf {α : Type} (print : α → List Char) (reader : TextReader α) : JsonText α where
  toText a := String.ofList (print a)
  ofText text := readAll reader text.toList

theorem jsonOf_lawful {α : Type} {print : α → List Char} {reader : TextReader α}
    (taken : ∀ a, Takes reader Anything (print a) a) (printed : ∀ a, print a ≠ []) :
    (jsonOf print reader).Lawful where
  reads a := by
    show readAll reader (String.ofList (print a)).toList = some a
    rw [String.toList_ofList]
    exact (taken a).readAll trivial
  nonempty a empty := by
    have chars : (String.ofList (print a)).toList = "".toList := congrArg String.toList empty
    rw [String.toList_ofList] at chars
    exact printed a chars

/-- Typeids, RFC 3339 times in UTC, dates and compact JSON. -/
def plainTexts : ColumnTexts where
  magicTypeId text := orMessage "invalid format" (readTypeid text.toList)
  parseFromRfc3339 text := orMessage "input contains invalid characters" (readRfc3339 text.toList)
  naiveDate text := orMessage "input contains invalid characters" (readDate text.toList)
  metadata := jsonOf printObject objectReader
  strings := jsonOf (printArray printString) (arrayReader string)
  templateLines := jsonOf (printArray printTemplateLine) (arrayReader templateLineReader)

/-- **They are as documented.** -/
theorem plainTexts_documented : plainTexts.Documented where
  typeid id := by
    show orMessage _ (readTypeid _) = _
    rw [readTypeid_text]
    rfl
  time time inside := by
    show orMessage _ (readRfc3339 (String.ofList time.text).toList) = _
    rw [String.toList_ofList, readRfc3339_text inside]
    rfl
  fourDigits text time parsed := by
    change orMessage _ (readRfc3339 text.toList) = _ at parsed
    cases found : readRfc3339 text.toList with
    | none =>
      rw [found] at parsed
      cases parsed
    | some other => exact readRfc3339_fourDigits found
  date date := by
    show orMessage _ (readDate (String.ofList date.text).toList) = _
    rw [String.toList_ofList, readDate_text]
    rfl
  metadata := jsonOf_lawful takes_object fun _ => List.cons_ne_nil _ _
  strings := jsonOf_lawful (takes_array takes_string fun _ => ⟨'"', _, rfl, by decide⟩)
    fun _ => List.cons_ne_nil _ _
  templateLines := jsonOf_lawful (takes_array takes_templateLine fun _ => ⟨'{', _, rfl, by decide⟩)
    fun _ => List.cons_ne_nil _ _

def addressReader : TextReader Address := do
  let members ← objectReader
  orFail (addressOf members)

theorem takes_address (address : Address) :
    Takes addressReader Anything (printObject (addressMembers address)) address := by
  refine (takes_object (addressMembers address)).last ?_
  rw [addressOf_members]
  exact takes_orFail address

/-- With an address as the object of its members. -/
def plainRowTexts : RowTexts where
  toColumnTexts := plainTexts
  address := jsonOf (fun address => printObject (addressMembers address)) addressReader

theorem plainRowTexts_documented : plainRowTexts.Documented where
  toDocumented := plainTexts_documented
  address := jsonOf_lawful takes_address fun _ => List.cons_ne_nil _ _

end Invoicing
