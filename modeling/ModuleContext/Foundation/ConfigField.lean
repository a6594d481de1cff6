import ModuleContext.Foundation.ConfigValue
import Mathlib.Data.List.Forall2

/-!
# What a configuration says

The value that a configuration object gives for a key, or the one that stands in when the key
is absent. The grammars of both configuration formats are stated with it, and the typed
accessors are characterised by the values on which they succeed.
-/

namespace ModuleContext.Foundation

namespace ConfigValue

/-- The value under `key`, given or defaulted. -/
def fieldOr (root : ConfigValue) (key : String) (default : ConfigValue) : ConfigValue :=
  match root with
  | .object fields => (fields.lookup key).getD default
  | _ => default

/-- The elements of an array. -/
def items : ConfigValue → List ConfigValue
  | .array items => items
  | _ => []

/-- The text of a string. -/
def text : ConfigValue → String
  | .string text => text
  | _ => ""

@[simp] theorem text_string (text : String) : (ConfigValue.string text).text = text := rfl

@[simp] theorem items_array (items : List ConfigValue) : (ConfigValue.array items).items = items :=
  rfl

@[simp] theorem asBool_eq_ok {value : ConfigValue} {b : Bool} :
    value.asBool = .ok b ↔ value = .bool b := by
  cases value <;> simp [asBool]

@[simp] theorem asInt64_eq_ok {value : ConfigValue} {n : Int64} :
    value.asInt64 = .ok n ↔ value = .int64 n := by
  cases value <;> simp [asInt64]

@[simp] theorem asString_eq_ok {value : ConfigValue} {text : String} :
    value.asString = .ok text ↔ value = .string text := by
  cases value <;> simp [asString]

@[simp] theorem asArray_eq_ok {value : ConfigValue} {items : List ConfigValue} :
    value.asArray = .ok items ↔ value = .array items := by
  cases value <;> simp [asArray]

@[simp] theorem asObject_eq_ok {value : ConfigValue} {fields : Object} :
    value.asObject = .ok fields ↔ value = .object fields := by
  cases value <;> simp [asObject]

theorem fieldOr_of_found {root value : ConfigValue} {key : String}
    (found : root.objectGet key = .ok value) (default : ConfigValue) :
    root.fieldOr key default = value := by
  cases root <;> simp only [objectGet] at found
  case object fields =>
    cases entry : fields.lookup key with
    | none => simp [entry] at found
    | some other =>
      rw [entry] at found
      cases found
      simp only [fieldOr, entry, Option.getD_some]
  all_goals cases found

theorem isObject_of_found {root value : ConfigValue} {key : String}
    (found : root.objectGet key = .ok value) : root.isObject = true := by
  cases root <;> simp [objectGet] at found
  rfl

theorem fieldOr_of_missing {root : ConfigValue} {key : String} {e : Error}
    (missing : root.objectGet key = .error e) (default : ConfigValue) :
    root.fieldOr key default = default := by
  cases root <;> simp only [objectGet] at missing
  case object fields =>
    cases entry : fields.lookup key with
    | none => simp only [fieldOr, entry, Option.getD_none]
    | some other => simp [entry] at missing
  all_goals rfl

/-- A key is found exactly if the object contains it. -/
theorem contains_iff {root : ConfigValue} {key : String} :
    root.contains key = true ↔ ∃ value, root.objectGet key = .ok value := by
  cases root <;> simp only [contains, objectGet]
  case object fields =>
    cases fields.lookup key <;> simp
  all_goals simp

/-- A required field, where null stands in for an absent one. -/
theorem objectGet_iff {root value : ConfigValue} {key : String} (notNull : value ≠ .null) :
    root.objectGet key = .ok value ↔ root.fieldOr key .null = value := by
  cases found : root.objectGet key with
  | error e =>
    rw [fieldOr_of_missing found]
    exact iff_of_false (by simp) notNull.symm
  | ok other =>
    rw [fieldOr_of_found found]
    exact ⟨fun same => by cases same; rfl, fun same => by rw [same]⟩

/-- A field that is there is the same whatever stands in for it. -/
theorem fieldOr_eq {root : ConfigValue} {key : String} (present : root.contains key = true)
    (default default' : ConfigValue) : root.fieldOr key default = root.fieldOr key default' := by
  obtain ⟨value, found⟩ := contains_iff.mp present
  rw [fieldOr_of_found found, fieldOr_of_found found]

theorem fieldOr_of_absent {root : ConfigValue} {key : String} (absent : ¬root.contains key = true)
    (default : ConfigValue) : root.fieldOr key default = default := by
  cases found : root.objectGet key with
  | error e => exact fieldOr_of_missing found default
  | ok value => exact absurd (contains_iff.mpr ⟨value, found⟩) absent

end ConfigValue

end ModuleContext.Foundation
