import ModuleContext.Foundation.ConfigValue

/-!
# AMQP fields

What the bus module uses of `AMQP::Field`, `AMQP::Array` and `AMQP::Table`. The library is not
part of the repository, so its classes are a parameter, and what it documents of them are the
laws of `LawfulAmqpFields`.
-/

namespace ModuleContext.RabbitMqBus
open Foundation Misc

/-- The classes of fields and containers, with `Append` and `Set` of the configuration values
that they are converted to. Fields nest to a finite depth. -/
class AmqpFields extends ConfigBuilding where
  /-- `AMQP::Field`, `AMQP::Array` and `AMQP::Table`. -/
  Field : Type
  FieldArray : Type
  Table : Type
  /-- The fields that are constructed, a container being a field itself. -/
  voidField : Field
  booleanSet (value : Bool) : Field
  longLong (value : Int64) : Field
  double (bits : UInt64) : Field
  longString (text : String) : Field
  arrayField (items : FieldArray) : Field
  tableField (entries : Table) : Field
  /-- The predicates, and what a field is cast to or printed as. -/
  isVoid (field : Field) : Bool
  isBoolean (field : Field) : Bool
  isString (field : Field) : Bool
  isArray (field : Field) : Bool
  isTable (field : Field) : Bool
  isDecimal (field : Field) : Bool
  isInteger (field : Field) : Bool
  typeID (field : Field) : Char
  booleanValue (field : Field) : UInt8
  stringValue (field : Field) : String
  toArray (field : Field) : FieldArray
  toTable (field : Field) : Table
  doubleValue (field : Field) : UInt64
  integerValue (field : Field) : Int64
  printed (field : Field) : String
  /-- `AMQP::Array`. -/
  emptyArray : FieldArray
  pushBack (field : Field) (items : FieldArray) : FieldArray
  count (items : FieldArray) : Nat
  item (index : Nat) (items : FieldArray) : Field
  /-- `AMQP::Table`. -/
  emptyTable : Table
  setField (key : String) (field : Field) (entries : Table) : Table
  keys (entries : Table) : List String
  get (key : String) (entries : Table) : Field
  depth (field : Field) : Nat
  depth_item (field : Field) (index : Nat) : isArray field = true →
    index < count (toArray field) → depth (item index (toArray field)) < depth field
  depth_get (field : Field) (key : String) : isTable field = true →
    key ∈ keys (toTable field) → depth (get key (toTable field)) < depth field

namespace AmqpFields

/-- Which of the five kinds with a predicate of their own a field answers to. -/
structure Answers where
  isVoid : Bool := false
  isBoolean : Bool := false
  isString : Bool := false
  isArray : Bool := false
  isTable : Bool := false
  deriving DecidableEq

def answers [AmqpFields] (field : Field) : Answers where
  isVoid := isVoid field
  isBoolean := isBoolean field
  isString := isString field
  isArray := isArray field
  isTable := isTable field

theorem answers_eq [AmqpFields] {field : Field} {kind : Answers}
    (answered : answers field = kind) :
    isVoid field = kind.isVoid ∧ isBoolean field = kind.isBoolean ∧
      isString field = kind.isString ∧ isArray field = kind.isArray ∧
      isTable field = kind.isTable := by
  subst answered
  exact ⟨rfl, rfl, rfl, rfl, rfl⟩

end AmqpFields

open AmqpFields

/-- The documented behaviour: a field answers the predicates for its own kind only and is cast to
the value that it was constructed from, an array is a list, and a table is a map. -/
class LawfulAmqpFields [AmqpFields] : Prop extends LawfulConfigBuilding where
  voidField_answers : answers voidField = { isVoid := true }
  booleanSet_answers (value : Bool) : answers (booleanSet value) = { isBoolean := true }
  longString_answers (text : String) : answers (longString text) = { isString := true }
  arrayField_answers (items : FieldArray) : answers (arrayField items) = { isArray := true }
  tableField_answers (entries : Table) : answers (tableField entries) = { isTable := true }
  double_answers (bits : UInt64) : answers (double bits) = {}
  longLong_answers (value : Int64) : answers (longLong value) = {}
  double_typeID (bits : UInt64) : typeID (double bits) = 'd'
  longLong_typeID (value : Int64) : typeID (longLong value) ≠ 'f' ∧ typeID (longLong value) ≠ 'd'
  longLong_isDecimal (value : Int64) : isDecimal (longLong value) = false
  longLong_isInteger (value : Int64) : isInteger (longLong value) = true
  booleanValue_booleanSet (value : Bool) : booleanValue (booleanSet value) = if value then 1 else 0
  stringValue_longString (text : String) : stringValue (longString text) = text
  toArray_arrayField (items : FieldArray) : toArray (arrayField items) = items
  toTable_tableField (entries : Table) : toTable (tableField entries) = entries
  doubleValue_double (bits : UInt64) : doubleValue (double bits) = bits
  integerValue_longLong (value : Int64) : integerValue (longLong value) = value
  count_emptyArray : count emptyArray = 0
  count_pushBack (field : Field) (items : FieldArray) :
    count (pushBack field items) = count items + 1
  item_pushBack (field : Field) (items : FieldArray) (index : Nat) : index ≤ count items →
    item index (pushBack field items) = if index = count items then field else item index items
  keys_emptyTable : keys emptyTable = []
  mem_keys_setField (key other : String) (field : Field) (entries : Table) :
    other ∈ keys (setField key field entries) ↔ other = key ∨ other ∈ keys entries
  get_setField (key other : String) (field : Field) (entries : Table) :
    get other (setField key field entries) = if other = key then field else get other entries

/-! ## Plain fields

Fields as the library documents them: the kinds that are constructed here, and among those that
other clients send an integer of another width, a decimal, and one that can only be printed. -/

inductive PlainField where
  | void
  | boolean (value : Bool)
  | string (text : String)
  | array (items : List PlainField)
  | table (entries : List (String × PlainField))
  | double (bits : UInt64)
  | longLong (value : Int64)
  | short (value : Int16)
  | decimal (bits : UInt64)
  | timestamp (printed : String)

namespace PlainField

mutual

def depth : PlainField → Nat
  | .array items => depthItems items + 1
  | .table entries => depthEntries entries + 1
  | _ => 0

def depthItems : List PlainField → Nat
  | [] => 0
  | item :: items => max item.depth (depthItems items)

def depthEntries : List (String × PlainField) → Nat
  | [] => 0
  | (_, field) :: entries => max field.depth (depthEntries entries)

end

theorem depth_le_items {items : List PlainField} {item : PlainField} (member : item ∈ items) :
    item.depth ≤ depthItems items := by
  induction items with
  | nil => cases member
  | cons first items ih =>
    rw [depthItems]
    rcases List.mem_cons.mp member with rfl | later
    · exact le_max_left _ _
    · exact (ih later).trans (le_max_right _ _)

def items : PlainField → List PlainField
  | .array items => items
  | _ => []

def entries : PlainField → List (String × PlainField)
  | .table entries => entries
  | _ => []

def value : PlainField → Int64
  | .longLong value => value
  | .short value => value.toInt64
  | _ => 0

def bits : PlainField → UInt64
  | .double bits => bits
  | .decimal bits => bits
  | _ => 0

def typeID : PlainField → Char
  | .void => 'V'
  | .boolean _ => 't'
  | .string _ => 'S'
  | .array _ => 'A'
  | .table _ => 'F'
  | .double _ => 'd'
  | .longLong _ => 'L'
  | .short _ => 'U'
  | .decimal _ => 'D'
  | .timestamp _ => 'T'

/-- `get` of a table: a key that is not there has an empty string. -/
def get (key : String) (entries : List (String × PlainField)) : PlainField :=
  (entries.lookup key).getD (.string "")

theorem get_depth {key : String} {entries : List (String × PlainField)}
    (present : key ∈ entries.map Prod.fst) : (get key entries).depth ≤ depthEntries entries := by
  induction entries with
  | nil => cases present
  | cons entry entries ih =>
    obtain ⟨other, field⟩ := entry
    rw [depthEntries, get, List.lookup_cons]
    by_cases same : key = other
    · simp [same]
    · have later : key ∈ entries.map Prod.fst := by simpa [same] using present
      rw [show (key == other) = false by simpa using same]
      exact (ih later).trans (le_max_right _ _)

end PlainField

namespace PlainFields

scoped instance : AmqpFields where
  append item
    | .array items => .ok (.array (items ++ [item]))
    | _ => .error ConfigValue.accessError
  set key item
    | .object fields => .ok (.object (assign key item fields))
    | _ => .error ConfigValue.accessError
  Field := PlainField
  FieldArray := List PlainField
  Table := List (String × PlainField)
  voidField := .void
  booleanSet := .boolean
  longLong := .longLong
  double := .double
  longString := .string
  arrayField := .array
  tableField := .table
  isVoid field := field matches .void
  isBoolean field := field matches .boolean _
  isString field := field matches .string _
  isArray field := field matches .array _
  isTable field := field matches .table _
  isDecimal field := field matches .decimal _
  isInteger field := field matches .longLong _ | .short _
  typeID := PlainField.typeID
  booleanValue
    | .boolean true => 1
    | _ => 0
  stringValue
    | .string text => text
    | _ => ""
  toArray := PlainField.items
  toTable := PlainField.entries
  doubleValue := PlainField.bits
  integerValue := PlainField.value
  printed
    | .timestamp printed => printed
    | _ => ""
  emptyArray := []
  pushBack field items := items ++ [field]
  count := List.length
  item index items := items[index]?.getD .void
  emptyTable := []
  setField := assign
  keys entries := entries.map Prod.fst
  get := PlainField.get
  depth := PlainField.depth
  depth_item field index isArray inside := by
    cases field with
    | array items =>
      have inside : index < items.length := inside
      show (items[index]?.getD .void).depth < PlainField.depthItems items + 1
      rw [List.getElem?_eq_getElem inside]
      exact Nat.lt_succ_of_le (PlainField.depth_le_items (List.getElem_mem inside))
    | _ => cases isArray
  depth_get field key isTable present := by
    cases field with
    | table entries => exact Nat.lt_succ_of_le (PlainField.get_depth present)
    | _ => cases isTable

scoped instance : LawfulAmqpFields where
  append_array _ _ := rfl
  set_object _ _ _ := rfl
  voidField_answers := rfl
  booleanSet_answers _ := rfl
  longString_answers _ := rfl
  arrayField_answers _ := rfl
  tableField_answers _ := rfl
  double_answers _ := rfl
  longLong_answers _ := rfl
  double_typeID _ := rfl
  longLong_typeID _ := (by decide : 'L' ≠ 'f' ∧ 'L' ≠ 'd')
  longLong_isDecimal _ := rfl
  longLong_isInteger _ := rfl
  booleanValue_booleanSet value := by cases value <;> rfl
  stringValue_longString _ := rfl
  toArray_arrayField _ := rfl
  toTable_tableField _ := rfl
  doubleValue_double _ := rfl
  integerValue_longLong _ := rfl
  count_emptyArray := rfl
  count_pushBack (field : PlainField) (items : List PlainField) := by
    show (items ++ [field]).length = items.length + 1
    rw [List.length_append, List.length_singleton]
  item_pushBack (field : PlainField) (items : List PlainField) index inside := by
    show (items ++ [field])[index]?.getD .void =
      if index = items.length then field else items[index]?.getD .void
    by_cases last : index = items.length
    · rw [if_pos last, last, List.getElem?_concat_length, Option.getD_some]
    · have inside : index < items.length := Nat.lt_of_le_of_ne inside last
      rw [if_neg last, List.getElem?_append_left inside]
  keys_emptyTable := rfl
  mem_keys_setField key other field entries := mem_keys_assign key other field entries
  get_setField key other field entries := by
    show PlainField.get other (assign key field entries) = _
    rw [PlainField.get, lookup_assign]
    split
    · rfl
    · rfl

end PlainFields

end ModuleContext.RabbitMqBus
