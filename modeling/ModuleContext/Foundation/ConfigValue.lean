import Mathlib.Data.String.Basic
import ModuleContext.Foundation.Result
import ModuleContext.Misc.SortedEntries

/-!
# Configuration trees

`foundation::config::ConfigValue`. Doubles are kept as their bit patterns, since the
repository only moves them around. An object is a map, kept as the list of its fields; a map that
was built by assignments has them in key order. The typed accessors succeed exactly on values of
their type.
-/

namespace ModuleContext.Foundation
open Misc

/-- `foundation::config::ConfigValue`. -/
inductive ConfigValue where
  | null
  | bool (value : Bool)
  | int64 (value : Int64)
  | double (bits : UInt64)
  | string (value : String)
  | array (items : List ConfigValue)
  | object (fields : List (String × ConfigValue))
  deriving Repr

namespace ConfigValue

/-- `ConfigValue::Object`. -/
abbrev Object := List (String × ConfigValue)

mutual

/-- Structural comparison of two values. -/
def beq : ConfigValue → ConfigValue → Bool
  | .null, .null => true
  | .bool a, .bool b => a == b
  | .int64 a, .int64 b => a == b
  | .double a, .double b => a == b
  | .string a, .string b => a == b
  | .array a, .array b => beqItems a b
  | .object a, .object b => beqFields a b
  | _, _ => false

def beqItems : List ConfigValue → List ConfigValue → Bool
  | [], [] => true
  | a :: as, b :: bs => beq a b && beqItems as bs
  | _, _ => false

def beqFields : List (String × ConfigValue) → List (String × ConfigValue) → Bool
  | [], [] => true
  | (key, a) :: as, (key', b) :: bs => key == key' && beq a b && beqFields as bs
  | _, _ => false

end

mutual

theorem beq_iff_eq (a b : ConfigValue) : beq a b = true ↔ a = b := by
  cases a <;> cases b <;> simp [beq]
  case array.array as bs => exact beqItems_iff_eq as bs
  case object.object as bs => exact beqFields_iff_eq as bs

theorem beqItems_iff_eq (as bs : List ConfigValue) : beqItems as bs = true ↔ as = bs := by
  cases as with
  | nil => cases bs <;> simp [beqItems]
  | cons a as =>
    cases bs with
    | nil => simp [beqItems]
    | cons b bs => simp [beqItems, beq_iff_eq a b, beqItems_iff_eq as bs]

theorem beqFields_iff_eq (as bs : List (String × ConfigValue)) :
    beqFields as bs = true ↔ as = bs := by
  cases as with
  | nil => cases bs <;> simp [beqFields]
  | cons a as =>
    obtain ⟨key, a⟩ := a
    cases bs with
    | nil => simp [beqFields]
    | cons b bs => simp [beqFields, beq_iff_eq a b.2, beqFields_iff_eq as bs, Prod.ext_iff]

end

instance : DecidableEq ConfigValue := fun a b => decidable_of_iff _ (beq_iff_eq a b)

/-- The error of a typed accessor on a value of another type. The repository replaces its
text by one of its own wherever this error can occur. -/
def accessError : Error := ⟨.parseError, "unexpected configuration value type"⟩

def isObject : ConfigValue → Bool
  | .object _ => true
  | _ => false

def isArray : ConfigValue → Bool
  | .array _ => true
  | _ => false

/-- `ConfigValue::Contains`. -/
def contains (key : String) : ConfigValue → Bool
  | .object fields => (fields.lookup key).isSome
  | _ => false

/-- `ConfigValue::ObjectGet`. -/
def objectGet (key : String) : ConfigValue → Result ConfigValue
  | .object fields =>
      match fields.lookup key with
      | some value => .ok value
      | none => .error ⟨.notFound, "configuration key was not found"⟩
  | _ => .error accessError

def asBool : ConfigValue → Result Bool
  | .bool value => .ok value
  | _ => .error accessError

def asInt64 : ConfigValue → Result Int64
  | .int64 value => .ok value
  | _ => .error accessError

def asString : ConfigValue → Result String
  | .string value => .ok value
  | _ => .error accessError

def asArray : ConfigValue → Result (List ConfigValue)
  | .array items => .ok items
  | _ => .error accessError

def asObject : ConfigValue → Result Object
  | .object fields => .ok fields
  | _ => .error accessError

/-- `ConfigValue::MakeObject`. -/
def makeObject : ConfigValue := .object []

/-- `ConfigValue::MakeArray`. -/
def makeArray : ConfigValue := .array []

mutual

/-- The fields of every object in the value are in key order. -/
def KeysSorted : ConfigValue → Prop
  | .array items => ItemsKeysSorted items
  | .object fields => Ascending fields ∧ FieldsKeysSorted fields
  | _ => True

def ItemsKeysSorted : List ConfigValue → Prop
  | [] => True
  | item :: items => KeysSorted item ∧ ItemsKeysSorted items

def FieldsKeysSorted : List (String × ConfigValue) → Prop
  | [] => True
  | (_, value) :: fields => KeysSorted value ∧ FieldsKeysSorted fields

end

theorem itemsKeysSorted_iff {items : List ConfigValue} :
    ItemsKeysSorted items ↔ ∀ item ∈ items, KeysSorted item := by
  induction items with
  | nil => simp [ItemsKeysSorted]
  | cons item items ih => rw [ItemsKeysSorted, ih, List.forall_mem_cons]

theorem fieldsKeysSorted_iff {fields : List (String × ConfigValue)} :
    FieldsKeysSorted fields ↔ ∀ entry ∈ fields, KeysSorted entry.2 := by
  induction fields with
  | nil => simp [FieldsKeysSorted]
  | cons entry fields ih => rw [FieldsKeysSorted, ih, List.forall_mem_cons]

end ConfigValue

/-- `ConfigValue::Append` and `ConfigValue::Set`: what a value is after the call, or the error
that the call returns. -/
class ConfigBuilding where
  append (item value : ConfigValue) : Result ConfigValue
  set (key : String) (item value : ConfigValue) : Result ConfigValue

/-- An array takes any further item, and an object any field. -/
class LawfulConfigBuilding [ConfigBuilding] : Prop where
  append_array (item : ConfigValue) (items : List ConfigValue) :
    ConfigBuilding.append item (.array items) = .ok (.array (items ++ [item]))
  set_object (key : String) (item : ConfigValue) (fields : ConfigValue.Object) :
    ConfigBuilding.set key item (.object fields) = .ok (.object (assign key item fields))

end ModuleContext.Foundation
