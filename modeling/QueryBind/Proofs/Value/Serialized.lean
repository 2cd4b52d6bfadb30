import Mathlib.Algebra.GroupWithZero.Nat
import QueryBind.Proofs.Value.Merging
import QueryBind.Value.Json

/-! # Data and its serialized text

Data are the values that a serialized text can stand for: null, truth values, numbers and texts, and
lists and records of data. Every one has a text, and its length is the sum of the lengths of its
parts (`Value.Json.size_list`, `Value.Json.size_record`), in whatever order a record has its fields.
-/

namespace QueryBind

namespace Value

inductive Data : Value → Prop
  | null : Data .null
  | bool (b : Bool) : Data (.bool b)
  | number (n : Number) : Data (.number n)
  | text (s : String) : Data (.text s)
  | list {items : List Value} (each : ∀ item ∈ items, Data item) : Data (.list items)
  | record {fields : Fields} (proper : fields.Proper) (each : ∀ field ∈ fields, Data field.2) :
    Data (.record fields)

/-- The fields of data are proper. -/
theorem Data.proper {fields : Fields} (data : (Value.record fields).Data) : fields.Proper := by
  cases data with
  | record proper _ => exact proper

private theorem Data.isFunction {value : Value} (data : value.Data) : value.isFunction = false := by
  cases data <;> rfl

namespace Json

/-- The text of a value, or an empty text if there is none. -/
def textOf (value : Value) : String :=
  (write true value).toOption.join.getD ""

/-- The length of the text of a value. -/
def size (value : Value) : Nat :=
  (textOf value).length

/-- A value that has a text. -/
def HasText (value : Value) : Prop :=
  write true value = .ok (some (textOf value))

private theorem textOf_of_write {value : Value} {text : String}
    (written : write true value = .ok (some text)) : textOf value = text := by
  rw [textOf, written]
  rfl

private theorem hasText_of_write {value : Value} {text : String}
    (written : write true value = .ok (some text)) : HasText value := by
  rw [HasText, textOf_of_write written, written]

/-! ## Lengths -/

private theorem length_intercalate (texts : List String) :
    (",".intercalate texts).length = (texts.map String.length).sum + (texts.length - 1) := by
  induction texts with
  | nil => rfl
  | cons text rest ih =>
      cases rest with
      | nil =>
          rw [String.intercalate_singleton]
          rfl
      | cons next others =>
          have comma : ",".length = 1 := rfl
          rw [String.intercalate_cons_cons, String.length_append, String.length_append, ih, comma]
          simp only [List.map_cons, List.sum_cons, List.length_cons]
          omega

private theorem length_brackets (texts : List String) :
    (brackets texts).length = 2 + (texts.map String.length).sum + (texts.length - 1) := by
  have opening : "[".length = 1 := rfl
  have closing : "]".length = 1 := rfl
  rw [brackets, String.length_append, String.length_append, length_intercalate, opening, closing]
  omega

/-- The length of a record's text. -/
theorem length_braces (fields : List (String × String)) :
    (braces fields).length =
      2 + (fields.map fun field => (quoted field.1).length + 1 + field.2.length).sum +
        (fields.length - 1) := by
  have opening : "\x7b".length = 1 := rfl
  have closing : "\x7d".length = 1 := rfl
  have lengths : (fields.map fun field => quoted field.1 ++ ":" ++ field.2).map String.length =
      fields.map fun field => (quoted field.1).length + 1 + field.2.length := by
    rw [List.map_map]
    refine List.map_congr_left fun field _ => ?_
    have colon : ":".length = 1 := rfl
    rw [Function.comp_apply, String.length_append, String.length_append, colon]
  rw [braces, String.length_append, String.length_append, length_intercalate, opening, closing,
    lengths, List.length_map]
  omega

/-- The length of a field in braces. -/
def fieldSize (field : String × Value) : Nat :=
  (quoted field.1).length + 1 + size field.2

section Lists

variable {items : List Value} (each : ∀ item ∈ items, HasText item)

include each

private theorem writeItems_of_hasText : writeItems items = .ok (items.map textOf) := by
  induction items with
  | nil => rfl
  | cons item rest ih =>
      obtain ⟨first, others⟩ := List.forall_mem_cons.mp each
      rw [writeItems, first, ih others]
      rfl

/-- A list is written item by item. -/
theorem write_list : write true (.list items) = .ok (some (brackets (items.map textOf))) := by
  rw [write, writeItems_of_hasText each]
  rfl

/-- The size of a list. -/
theorem size_list : size (.list items) = 2 + (items.map size).sum + (items.length - 1) := by
  rw [size, textOf_of_write (write_list each), length_brackets, List.map_map, List.length_map]
  rfl

end Lists

section Fields

variable {fields : Fields} (each : ∀ field ∈ fields, HasText field.2)

include each

private theorem writeFields_of_hasText :
    writeFields fields = .ok (fields.map fun field => (field.1, textOf field.2)) := by
  induction fields with
  | nil => rfl
  | cons field rest ih =>
      obtain ⟨first, others⟩ := List.forall_mem_cons.mp each
      rw [writeFields, first, ih others]
      rfl

variable (formless : offersForm fields = false)

include formless

/-- A record is written field by field. -/
theorem write_record :
    write true (.record fields) =
      .ok (some (braces (fields.map fun field => (field.1, textOf field.2)))) := by
  rw [write, formless, writeFields_of_hasText each]
  rfl

/-- The size of a record. -/
theorem size_record :
    size (.record fields) = 2 + (fields.map fieldSize).sum + (fields.length - 1) := by
  rw [size, textOf_of_write (write_record each formless), length_braces, List.map_map,
    List.length_map]
  rfl

end Fields

private theorem offersForm_of_data {fields : Fields} (each : ∀ field ∈ fields, field.2.Data) :
    offersForm fields = false := by
  unfold offersForm Fields.get?
  cases found : fields.lookup "toJSON" with
  | none => rfl
  | some value =>
      obtain ⟨before, after, rfl, -⟩ := List.lookup_eq_some_iff.mp found
      exact (each ("toJSON", value) (by simp)).isFunction

end Json

/-- Data have a text. -/
theorem Data.hasText {value : Value} (data : value.Data) : Json.HasText value := by
  induction data with
  | null | bool b | number n | text s => exact Json.hasText_of_write rfl
  | list each ih => exact Json.hasText_of_write (Json.write_list ih)
  | record proper each ih =>
      exact Json.hasText_of_write (Json.write_record ih (Json.offersForm_of_data each))

/-- The parts of a record of data may be added up in any order. -/
theorem Data.size_record {fields : Fields} (data : (Value.record fields).Data) :
    Json.size (.record fields) =
      2 + (fields.map Json.fieldSize).sum + (fields.length - 1) := by
  cases data with
  | record proper each =>
      exact Json.size_record (fun field among => (each field among).hasText)
        (Json.offersForm_of_data each)

/-- The size of a list of data. -/
theorem Data.size_list {items : List Value} (data : (Value.list items).Data) :
    Json.size (.list items) = 2 + (items.map Json.size).sum + (items.length - 1) := by
  cases data with
  | list each => exact Json.size_list fun item among => (each item among).hasText

/-- Records of data are merged to one. -/
theorem Data.merge {base extra : Fields} (data : (Value.record base).Data)
    (dataToo : (Value.record extra).Data) : (Value.record (Fields.merge base extra)).Data := by
  cases data with
  | record proper each =>
      cases dataToo with
      | record properToo eachToo =>
          refine .record (proper.merge properToo) fun field among => ?_
          have perm := Fields.merge_perm proper.distinct properToo.distinct
          rcases List.mem_append.mp (perm.mem_iff.mp among) with kept | added
          · exact each field ((List.mem_filter.mp kept).1)
          · exact eachToo field added

/-- Records of data are merged to data. -/
theorem Data.merge_chain {base : Fields} (data : (Value.record base).Data) {chain : List Fields}
    (each : ∀ extra ∈ chain, (Value.record extra).Data) :
    (Value.record (chain.foldl Fields.merge base)).Data := by
  induction chain generalizing base with
  | nil => exact data
  | cons extra chain ih =>
      obtain ⟨first, others⟩ := List.forall_mem_cons.mp each
      exact ih (data.merge first) others

end Value

end QueryBind
