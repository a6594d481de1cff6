import ModuleContext.RabbitMqBus.AmqpFields
import ModuleContext.RabbitMqBus.Types

/-!
# AMQP field tables

The conversions between configuration trees and AMQP field tables.
-/

namespace ModuleContext.RabbitMqBus
open Foundation Misc
open AmqpFields ConfigValue

section Conversions

variable [AmqpFields]

mutual

def configValueToAmqpField : ConfigValue → Result Field
  | .null => .ok voidField
  | .bool value => .ok (booleanSet value)
  | .int64 value => .ok (longLong value)
  | .double bits => .ok (double bits)
  | .string text => .ok (longString text)
  | .array items =>
      match configArrayToAmqpArrayFrom emptyArray items with
      | .error e => .error e
      | .ok converted => .ok (arrayField converted)
  | .object fields =>
      match configObjectToAmqpTableFrom emptyTable fields with
      | .error e => .error e
      | .ok converted => .ok (tableField converted)

/-- The loop of `ConfigArrayToAmqpArray`: every element is pushed back onto `converted`. -/
def configArrayToAmqpArrayFrom (converted : FieldArray) : List ConfigValue → Result FieldArray
  | [] => .ok converted
  | value :: values =>
      match configValueToAmqpField value with
      | .error e => .error e
      | .ok field => configArrayToAmqpArrayFrom (pushBack field converted) values

/-- The loop of `ConfigObjectToAmqpTable`: every entry is set in `converted`. -/
def configObjectToAmqpTableFrom (converted : Table) : List (String × ConfigValue) → Result Table
  | [] => .ok converted
  | (key, value) :: fields =>
      match configValueToAmqpField value with
      | .error e => .error e
      | .ok field => configObjectToAmqpTableFrom (setField key field converted) fields

end

def configArrayToAmqpArray (array : List ConfigValue) : Result FieldArray :=
  configArrayToAmqpArrayFrom emptyArray array

def configObjectToAmqpTable (object : ConfigValue.Object) : Result Table :=
  configObjectToAmqpTableFrom emptyTable object

def amqpFieldToConfigValue (field : Field) : Result ConfigValue :=
  if isVoid field then .ok .null
  else if isBoolean field then .ok (.bool (booleanValue field != 0))
  else if isString field then .ok (.string (stringValue field))
  else if _ : isArray field = true then
    (List.range (count (toArray field))).attach.foldlM
      (fun value index =>
        match amqpFieldToConfigValue (item index.1 (toArray field)) with
        | .error e => .error e
        | .ok item => ConfigBuilding.append item value)
      ConfigValue.makeArray
  else if _ : isTable field = true then
    (keys (toTable field)).attach.foldlM
      (fun value key =>
        match amqpFieldToConfigValue (get key.1 (toTable field)) with
        | .error e => .error e
        | .ok item => ConfigBuilding.set key.1 item value)
      ConfigValue.makeObject
  else if isDecimal field || typeID field == 'f' || typeID field == 'd' then
    .ok (.double (doubleValue field))
  else if isInteger field then .ok (.int64 (integerValue field))
  else .ok (.string (printed field))
termination_by depth field
decreasing_by
  · exact depth_item field index.1 ‹isArray field = true› (List.mem_range.mp index.2)
  · exact depth_get field key.1 ‹isTable field = true› key.2

def amqpTableToConfigObject (table : Table) : Result ConfigValue.Object :=
  (keys table).foldlM
    (fun object key =>
      match amqpFieldToConfigValue (get key table) with
      | .error e => .error e
      | .ok value => .ok (assign key value object))
    []

/-! No conversion to AMQP ever fails: the error paths only pass errors on. -/

mutual

theorem configValueToAmqpField_ok (value : ConfigValue) :
    ∃ field, configValueToAmqpField value = .ok field := by
  cases value with
  | array items =>
    obtain ⟨converted, ok⟩ := configArrayToAmqpArrayFrom_ok emptyArray items
    exact ⟨arrayField converted, by rw [configValueToAmqpField, ok]⟩
  | object fields =>
    obtain ⟨converted, ok⟩ := configObjectToAmqpTableFrom_ok emptyTable fields
    exact ⟨tableField converted, by rw [configValueToAmqpField, ok]⟩
  | _ => exact ⟨_, by rw [configValueToAmqpField]⟩

theorem configArrayToAmqpArrayFrom_ok (converted : FieldArray) (values : List ConfigValue) :
    ∃ all, configArrayToAmqpArrayFrom converted values = .ok all := by
  cases values with
  | nil => exact ⟨converted, by rw [configArrayToAmqpArrayFrom]⟩
  | cons value values =>
    obtain ⟨field, fieldOk⟩ := configValueToAmqpField_ok value
    obtain ⟨all, ok⟩ := configArrayToAmqpArrayFrom_ok (pushBack field converted) values
    exact ⟨all, by rw [configArrayToAmqpArrayFrom, fieldOk, ← ok]⟩

theorem configObjectToAmqpTableFrom_ok (converted : Table)
    (fields : List (String × ConfigValue)) :
    ∃ all, configObjectToAmqpTableFrom converted fields = .ok all := by
  cases fields with
  | nil => exact ⟨converted, by rw [configObjectToAmqpTableFrom]⟩
  | cons entry fields =>
    obtain ⟨key, value⟩ := entry
    obtain ⟨field, fieldOk⟩ := configValueToAmqpField_ok value
    obtain ⟨all, ok⟩ := configObjectToAmqpTableFrom_ok (setField key field converted) fields
    exact ⟨all, by rw [configObjectToAmqpTableFrom, fieldOk, ← ok]⟩

end

theorem configObjectToAmqpTable_ok (object : ConfigValue.Object) :
    ∃ table, configObjectToAmqpTable object = .ok table :=
  configObjectToAmqpTableFrom_ok emptyTable object

/-! ## What is constructed from a value -/

mutual

/-- The field is constructed from the value, and from nothing else of it or beside it. -/
inductive Represents : Field → ConfigValue → Prop where
  | null : Represents voidField .null
  | bool (value : Bool) : Represents (booleanSet value) (.bool value)
  | int64 (value : Int64) : Represents (longLong value) (.int64 value)
  | double (bits : UInt64) : Represents (double bits) (.double bits)
  | string (text : String) : Represents (longString text) (.string text)
  | array {items : FieldArray} {values : List ConfigValue} :
      RepresentsItems items values → Represents (arrayField items) (.array values)
  | object {entries : Table} {fields : ConfigValue.Object} :
      RepresentsEntries entries fields → Represents (tableField entries) (.object fields)

/-- Every value was pushed back in turn. -/
inductive RepresentsItems : FieldArray → List ConfigValue → Prop where
  | empty : RepresentsItems emptyArray []
  | pushed {items : FieldArray} {values : List ConfigValue} {field : Field}
      {value : ConfigValue} :
      RepresentsItems items values → Represents field value →
      RepresentsItems (pushBack field items) (values ++ [value])

/-- Every entry was set in turn. -/
inductive RepresentsEntries : Table → ConfigValue.Object → Prop where
  | empty : RepresentsEntries emptyTable []
  | assigned {entries : Table} {fields : ConfigValue.Object} {key : String} {field : Field}
      {value : ConfigValue} :
      RepresentsEntries entries fields → Represents field value →
      RepresentsEntries (setField key field entries) (fields ++ [(key, value)])

end

mutual

theorem configValueToAmqpField_represents {value : ConfigValue} {field : Field}
    (converts : configValueToAmqpField value = .ok field) : Represents field value := by
  cases value with
  | array items =>
    obtain ⟨converted, ok⟩ := configArrayToAmqpArrayFrom_ok emptyArray items
    rw [configValueToAmqpField, ok, Except.ok.injEq] at converts
    subst converts
    exact .array (configArrayToAmqpArrayFrom_represents ok .empty)
  | object fields =>
    obtain ⟨converted, ok⟩ := configObjectToAmqpTableFrom_ok emptyTable fields
    rw [configValueToAmqpField, ok, Except.ok.injEq] at converts
    subst converts
    exact .object (configObjectToAmqpTableFrom_represents ok .empty)
  | _ =>
    rw [configValueToAmqpField, Except.ok.injEq] at converts
    subst converts
    constructor

theorem configArrayToAmqpArrayFrom_represents {converted all : FieldArray}
    {before values : List ConfigValue}
    (converts : configArrayToAmqpArrayFrom converted values = .ok all)
    (represents : RepresentsItems converted before) : RepresentsItems all (before ++ values) := by
  cases values with
  | nil =>
    rw [configArrayToAmqpArrayFrom, Except.ok.injEq] at converts
    rw [← converts, List.append_nil]
    exact represents
  | cons value values =>
    obtain ⟨field, fieldOk⟩ := configValueToAmqpField_ok value
    rw [configArrayToAmqpArrayFrom, fieldOk] at converts
    have pushed := represents.pushed (configValueToAmqpField_represents fieldOk)
    rw [List.append_cons]
    exact configArrayToAmqpArrayFrom_represents converts pushed

theorem configObjectToAmqpTableFrom_represents {converted all : Table}
    {before fields : List (String × ConfigValue)}
    (converts : configObjectToAmqpTableFrom converted fields = .ok all)
    (represents : RepresentsEntries converted before) :
    RepresentsEntries all (before ++ fields) := by
  cases fields with
  | nil =>
    rw [configObjectToAmqpTableFrom, Except.ok.injEq] at converts
    rw [← converts, List.append_nil]
    exact represents
  | cons entry fields =>
    obtain ⟨key, value⟩ := entry
    obtain ⟨field, fieldOk⟩ := configValueToAmqpField_ok value
    rw [configObjectToAmqpTableFrom, fieldOk] at converts
    have assigned : RepresentsEntries (setField key field converted) (before ++ [(key, value)]) :=
      represents.assigned (configValueToAmqpField_represents fieldOk)
    rw [List.append_cons]
    exact configObjectToAmqpTableFrom_represents converts assigned

end

theorem configObjectToAmqpTable_represents {object : ConfigValue.Object} {table : Table}
    (converts : configObjectToAmqpTable object = .ok table) : RepresentsEntries table object :=
  configObjectToAmqpTableFrom_represents converts .empty

/-! ## The loops of the conversion back -/

/-- The body of the loop over the items of an array. -/
def appendItem (items : FieldArray) (value : ConfigValue) (index : Nat) : Result ConfigValue :=
  match amqpFieldToConfigValue (item index items) with
  | .error e => .error e
  | .ok item => ConfigBuilding.append item value

/-- The body of the loop over the keys of a table. -/
def setEntry (entries : Table) (value : ConfigValue) (key : String) : Result ConfigValue :=
  match amqpFieldToConfigValue (get key entries) with
  | .error e => .error e
  | .ok item => ConfigBuilding.set key item value

theorem amqpFieldToConfigValue_eq (field : Field) :
    amqpFieldToConfigValue field =
      if isVoid field then .ok .null
      else if isBoolean field then .ok (.bool (booleanValue field != 0))
      else if isString field then .ok (.string (stringValue field))
      else if isArray field then
        (List.range (count (toArray field))).foldlM (appendItem (toArray field))
          ConfigValue.makeArray
      else if isTable field then
        (keys (toTable field)).foldlM (setEntry (toTable field)) ConfigValue.makeObject
      else if isDecimal field || typeID field == 'f' || typeID field == 'd' then
        .ok (.double (doubleValue field))
      else if isInteger field then .ok (.int64 (integerValue field))
      else .ok (.string (printed field)) := by
  have loop {α : Type} (f : ConfigValue → α → Result ConfigValue) (xs : List α)
      (init : ConfigValue) :
      xs.attach.foldlM (fun value x => f value x.1) init = xs.foldlM f init := by
    rw [List.foldlM_subtype (g := f) fun _ _ _ => rfl, List.unattach_attach]
  rw [amqpFieldToConfigValue, ← loop (appendItem (toArray field)),
    ← loop (setEntry (toTable field))]
  rfl

/-- What a field is read as, if it can be read. -/
def valueOf (field : Field) : ConfigValue :=
  (amqpFieldToConfigValue field).toOption.getD .null

theorem valueOf_eq {field : Field} {value : ConfigValue}
    (reads : amqpFieldToConfigValue field = .ok value) : valueOf field = value := by
  rw [valueOf, reads]
  rfl

/-- The field can be read. -/
def Readable (field : Field) : Prop :=
  amqpFieldToConfigValue field = .ok (valueOf field)

theorem readable_of_eq {field : Field} {value : ConfigValue}
    (reads : amqpFieldToConfigValue field = .ok value) : Readable field := by
  rw [Readable, reads, valueOf_eq reads]

theorem readable_sorted {field : Field} {value : ConfigValue}
    (reads : amqpFieldToConfigValue field = .ok value) (sorted : KeysSorted value) :
    Readable field ∧ KeysSorted (valueOf field) :=
  ⟨readable_of_eq reads, (valueOf_eq reads).symm ▸ sorted⟩

def itemValues (items : FieldArray) : List ConfigValue :=
  (List.range (count items)).map fun index => valueOf (item index items)

def entryValues (entries : Table) : ConfigValue.Object :=
  assignAll (fun key => valueOf (get key entries)) [] (keys entries)

theorem amqpTableToConfigObject_of_readable {entries : Table}
    (readable : ∀ key ∈ keys entries, Readable (get key entries)) :
    amqpTableToConfigObject entries = .ok (entryValues entries) := by
  refine foldlM_eq_ok id (fun object key => assign key (valueOf (get key entries)) object) ?_ []
  intro object key member
  rw [readable key member]
  rfl

/-! The objects that are read of a field are in key order at every place, whatever the field was
made of. -/

theorem itemValues_sorted {items : FieldArray}
    (sorted : ∀ index < count items, KeysSorted (valueOf (item index items))) :
    KeysSorted (.array (itemValues items)) := by
  rw [KeysSorted, itemsKeysSorted_iff]
  intro value member
  obtain ⟨index, inside, rfl⟩ := List.mem_map.mp member
  exact sorted index (List.mem_range.mp inside)

theorem entryValues_sorted {entries : Table}
    (sorted : ∀ key ∈ keys entries, KeysSorted (valueOf (get key entries))) :
    KeysSorted (.object (entryValues entries)) := by
  obtain ⟨ascending, members⟩ :=
    assignAll_spec (fun key => valueOf (get key entries)) (keys entries)
  rw [KeysSorted, fieldsKeysSorted_iff]
  refine ⟨ascending, fun entry member => ?_⟩
  obtain ⟨present, value⟩ := (members entry).mp member
  rw [value]
  exact sorted entry.1 present

variable [LawfulConfigBuilding]

theorem appendItems_of_readable {items : FieldArray}
    (readable : ∀ index < count items, Readable (item index items)) :
    (List.range (count items)).foldlM (appendItem items) ConfigValue.makeArray =
      .ok (.array (itemValues items)) := by
  have steps : ∀ values, ∀ index ∈ List.range (count items),
      appendItem items (.array values) index =
        .ok (.array (values ++ [valueOf (item index items)])) := by
    intro values index member
    rw [appendItem, readable index (List.mem_range.mp member)]
    exact LawfulConfigBuilding.append_array _ values
  have collected : (List.range (count items)).foldl
      (fun values index => values ++ [valueOf (item index items)]) [] = itemValues items := by
    rw [List.foldl_append_eq_append, List.nil_append, ← List.flatMap_def, itemValues,
      List.map_eq_flatMap]
  rw [← collected]
  exact foldlM_eq_ok ConfigValue.array _ steps []

theorem setEntries_of_readable {entries : Table}
    (readable : ∀ key ∈ keys entries, Readable (get key entries)) :
    (keys entries).foldlM (setEntry entries) ConfigValue.makeObject =
      .ok (.object (entryValues entries)) := by
  refine foldlM_eq_ok ConfigValue.object
    (fun object key => assign key (valueOf (get key entries)) object) ?_ []
  intro object key member
  rw [setEntry, readable key member]
  exact LawfulConfigBuilding.set_object key _ object

/-- Every field can be read. The induction is on the depth to which fields nest. -/
theorem readable (field : Field) : Readable field ∧ KeysSorted (valueOf field) := by
  induction level : depth field using Nat.strong_induction_on generalizing field with
  | _ level ih =>
    subst level
    have reads := amqpFieldToConfigValue_eq field
    split at reads
    · exact readable_sorted reads trivial
    split at reads
    · exact readable_sorted reads trivial
    split at reads
    · exact readable_sorted reads trivial
    split at reads
    · rename_i isArray
      have inner (index : Nat) (inside : index < count (toArray field)) :=
        ih _ (depth_item field index isArray inside) (item index (toArray field)) rfl
      rw [appendItems_of_readable fun index inside => (inner index inside).1] at reads
      exact readable_sorted reads (itemValues_sorted fun index inside => (inner index inside).2)
    split at reads
    · rename_i isTable
      have inner (key : String) (present : key ∈ keys (toTable field)) :=
        ih _ (depth_get field key isTable present) (get key (toTable field)) rfl
      rw [setEntries_of_readable fun key present => (inner key present).1] at reads
      exact readable_sorted reads (entryValues_sorted fun key present => (inner key present).2)
    split at reads
    · exact readable_sorted reads trivial
    split at reads
    · exact readable_sorted reads trivial
    · exact readable_sorted reads trivial

theorem amqpTableToConfigObject_ok (entries : Table) :
    ∃ object, amqpTableToConfigObject entries = .ok object ∧ KeysSorted (.object object) :=
  ⟨_, amqpTableToConfigObject_of_readable fun key _ => (readable (get key entries)).1,
    entryValues_sorted fun key _ => (readable (get key entries)).2⟩

end Conversions

section RoundTrip

variable [AmqpFields] [LawfulAmqpFields]

open LawfulAmqpFields

/-! Each constructed field is taken for what it is. -/

theorem read_voidField : amqpFieldToConfigValue voidField = .ok .null := by
  obtain ⟨isVoid, -⟩ := answers_eq voidField_answers
  simp [amqpFieldToConfigValue_eq, isVoid]

theorem read_booleanSet (value : Bool) :
    amqpFieldToConfigValue (booleanSet value) = .ok (.bool value) := by
  obtain ⟨isVoid, isBoolean, -⟩ := answers_eq (booleanSet_answers value)
  cases value <;> simp [amqpFieldToConfigValue_eq, isVoid, isBoolean, booleanValue_booleanSet]

theorem read_longString (text : String) :
    amqpFieldToConfigValue (longString text) = .ok (.string text) := by
  obtain ⟨isVoid, isBoolean, isString, -⟩ := answers_eq (longString_answers text)
  simp [amqpFieldToConfigValue_eq, isVoid, isBoolean, isString, stringValue_longString]

theorem read_double (bits : UInt64) :
    amqpFieldToConfigValue (double bits) = .ok (.double bits) := by
  obtain ⟨isVoid, isBoolean, isString, isArray, isTable⟩ := answers_eq (double_answers bits)
  simp [amqpFieldToConfigValue_eq, isVoid, isBoolean, isString, isArray, isTable,
    double_typeID, doubleValue_double]

theorem read_longLong (value : Int64) :
    amqpFieldToConfigValue (longLong value) = .ok (.int64 value) := by
  obtain ⟨isVoid, isBoolean, isString, isArray, isTable⟩ := answers_eq (longLong_answers value)
  simp [amqpFieldToConfigValue_eq, isVoid, isBoolean, isString, isArray, isTable,
    longLong_isDecimal, longLong_typeID, longLong_isInteger, integerValue_longLong]

theorem read_arrayField (items : FieldArray) :
    amqpFieldToConfigValue (arrayField items) =
      (List.range (count items)).foldlM (appendItem items) ConfigValue.makeArray := by
  obtain ⟨isVoid, isBoolean, isString, isArray, -⟩ := answers_eq (arrayField_answers items)
  simp [amqpFieldToConfigValue_eq, isVoid, isBoolean, isString, isArray, toArray_arrayField]

theorem read_tableField (entries : Table) :
    amqpFieldToConfigValue (tableField entries) =
      (keys entries).foldlM (setEntry entries) ConfigValue.makeObject := by
  obtain ⟨isVoid, isBoolean, isString, isArray, isTable⟩ :=
    answers_eq (tableField_answers entries)
  simp [amqpFieldToConfigValue_eq, isVoid, isBoolean, isString, isArray, isTable,
    toTable_tableField]

/-! ## The round trip -/

/-- `all` is `converted` with fields behind it that are read as `values`. -/
structure ReadsItems (converted all : FieldArray) (values : List ConfigValue) : Prop where
  count_eq : count all = count converted + values.length
  earlier : ∀ index < count converted, item index all = item index converted
  reads : ∀ index value, values[index]? = some value →
    amqpFieldToConfigValue (item (count converted + index) all) = .ok value

/-- `all` is `converted` with the keys of `fields` set to fields that are read as their values. -/
structure ReadsEntries (converted all : Table) (fields : ConfigValue.Object) : Prop where
  mem_keys : ∀ key, key ∈ keys all ↔ key ∈ fields.map Prod.fst ∨ key ∈ keys converted
  others : ∀ key, key ∉ fields.map Prod.fst → get key all = get key converted
  reads : ∀ key value, (key, value) ∈ fields →
    amqpFieldToConfigValue (get key all) = .ok value

variable {field : Field} {value : ConfigValue}

theorem ReadsItems.cons {converted all : FieldArray} {values : List ConfigValue}
    (head : amqpFieldToConfigValue field = .ok value)
    (rest : ReadsItems (pushBack field converted) all values) :
    ReadsItems converted all (value :: values) := by
  have counted := count_pushBack field converted
  refine ⟨?_, fun index inside => ?_, fun index other found => ?_⟩
  · rw [rest.count_eq, counted, List.length_cons]
    omega
  · rw [rest.earlier index (by omega), item_pushBack field converted index (by omega),
      if_neg (by omega)]
  · cases index with
    | zero =>
      cases found
      rw [Nat.add_zero, rest.earlier _ (by omega), item_pushBack field converted _ le_rfl,
        if_pos rfl]
      exact head
    | succ index =>
      have read := rest.reads index other found
      rw [counted] at read
      rwa [show count converted + (index + 1) = count converted + 1 + index by omega]

theorem ReadsEntries.cons {converted all : Table} {fields : ConfigValue.Object} {key : String}
    (head : amqpFieldToConfigValue field = .ok value) (fresh : key ∉ fields.map Prod.fst)
    (rest : ReadsEntries (setField key field converted) all fields) :
    ReadsEntries converted all ((key, value) :: fields) := by
  refine ⟨fun other => ?_, fun other absent => ?_, fun other found member => ?_⟩
  · rw [rest.mem_keys, mem_keys_setField, List.map_cons, List.mem_cons]
    exact or_left_comm.trans or_assoc.symm
  · rw [List.map_cons, List.mem_cons, not_or] at absent
    rw [rest.others other absent.2, get_setField, if_neg absent.1]
  · rcases List.mem_cons.mp member with here | later
    · cases here
      rw [rest.others key fresh, get_setField, if_pos rfl]
      exact head
    · exact rest.reads other found later

theorem ReadsItems.array {all : FieldArray} {values : List ConfigValue}
    (read : ReadsItems emptyArray all values) :
    amqpFieldToConfigValue (arrayField all) = .ok (.array values) := by
  have whole : count all = values.length := by
    rw [read.count_eq, count_emptyArray, Nat.zero_add]
  have reads (index : Nat) (inside : index < values.length) :
      amqpFieldToConfigValue (item index all) = .ok values[index] := by
    have here := read.reads index _ (List.getElem?_eq_getElem inside)
    rwa [count_emptyArray, Nat.zero_add] at here
  have collected : itemValues all = values := by
    refine List.ext_getElem (by simp [itemValues, whole]) fun index _ inside => ?_
    simp only [itemValues, List.getElem_map, List.getElem_range]
    exact valueOf_eq (reads index inside)
  rw [read_arrayField, appendItems_of_readable, collected]
  exact fun index inside => readable_of_eq (reads index (whole ▸ inside))

theorem ReadsEntries.object {all : Table} {fields : ConfigValue.Object}
    (read : ReadsEntries emptyTable all fields) (ascending : Ascending fields) :
    amqpTableToConfigObject all = .ok fields ∧
      amqpFieldToConfigValue (tableField all) = .ok (.object fields) := by
  have mem_keys (key : String) : key ∈ keys all ↔ key ∈ fields.map Prod.fst := by
    rw [read.mem_keys, keys_emptyTable]
    simp
  have readable (key : String) (present : key ∈ keys all) : Readable (get key all) := by
    obtain ⟨⟨_, value⟩, member, rfl⟩ := List.mem_map.mp ((mem_keys key).mp present)
    exact readable_of_eq (read.reads _ value member)
  obtain ⟨sorted, members⟩ := assignAll_spec (fun key => valueOf (get key all)) (keys all)
  have collected : entryValues all = fields := by
    refine sorted.ext ascending fun entry => ?_
    obtain ⟨key, value⟩ := entry
    rw [members, mem_keys]
    constructor
    · rintro ⟨present, isRead⟩
      obtain ⟨⟨_, stored⟩, member, rfl⟩ := List.mem_map.mp present
      have same : value = stored := isRead.trans (valueOf_eq (read.reads _ stored member))
      rwa [same]
    · intro member
      exact ⟨List.mem_map_of_mem member, (valueOf_eq (read.reads key value member)).symm⟩
  constructor
  · rw [amqpTableToConfigObject_of_readable readable, collected]
  · rw [read_tableField, setEntries_of_readable readable, collected]

mutual

/-- The conversion of a value is undone by the conversion back. -/
theorem amqpField_inverse (value : ConfigValue) (sorted : KeysSorted value) :
    ∃ field, configValueToAmqpField value = .ok field ∧
      amqpFieldToConfigValue field = .ok value := by
  cases value with
  | null => exact ⟨_, by rw [configValueToAmqpField], read_voidField⟩
  | bool value => exact ⟨_, by rw [configValueToAmqpField], read_booleanSet value⟩
  | int64 value => exact ⟨_, by rw [configValueToAmqpField], read_longLong value⟩
  | double bits => exact ⟨_, by rw [configValueToAmqpField], read_double bits⟩
  | string text => exact ⟨_, by rw [configValueToAmqpField], read_longString text⟩
  | array items =>
    rw [KeysSorted] at sorted
    obtain ⟨all, forward, read⟩ := amqpItems_inverse items sorted emptyArray
    exact ⟨arrayField all, by rw [configValueToAmqpField, forward], read.array⟩
  | object fields =>
    rw [KeysSorted] at sorted
    obtain ⟨all, forward, read⟩ := amqpEntries_inverse fields sorted.2 sorted.1 emptyTable
    exact ⟨tableField all, by rw [configValueToAmqpField, forward], (read.object sorted.1).2⟩

theorem amqpItems_inverse (values : List ConfigValue) (sorted : ItemsKeysSorted values)
    (converted : FieldArray) :
    ∃ all, configArrayToAmqpArrayFrom converted values = .ok all ∧
      ReadsItems converted all values := by
  cases values with
  | nil => exact ⟨converted, by rw [configArrayToAmqpArrayFrom], rfl, fun _ _ => rfl, by simp⟩
  | cons value values =>
    rw [ItemsKeysSorted] at sorted
    obtain ⟨field, forward, back⟩ := amqpField_inverse value sorted.1
    obtain ⟨all, rest, read⟩ := amqpItems_inverse values sorted.2 (pushBack field converted)
    exact ⟨all, by rw [configArrayToAmqpArrayFrom, forward, ← rest], read.cons back⟩

theorem amqpEntries_inverse (fields : List (String × ConfigValue))
    (sorted : FieldsKeysSorted fields) (ascending : Ascending fields) (converted : Table) :
    ∃ all, configObjectToAmqpTableFrom converted fields = .ok all ∧
      ReadsEntries converted all fields := by
  cases fields with
  | nil =>
    exact ⟨converted, by rw [configObjectToAmqpTableFrom], by simp, fun _ _ => rfl, by simp⟩
  | cons entry fields =>
    obtain ⟨key, value⟩ := entry
    rw [FieldsKeysSorted] at sorted
    have distinct := List.nodup_cons.mp ascending.keys_nodup
    obtain ⟨field, forward, back⟩ := amqpField_inverse value sorted.1
    obtain ⟨all, rest, read⟩ := amqpEntries_inverse fields sorted.2
      (List.pairwise_cons.mp ascending).2 (setField key field converted)
    exact ⟨all, by rw [configObjectToAmqpTableFrom, forward, ← rest],
      read.cons back distinct.1⟩

end

theorem amqpObject_inverse (object : ConfigValue.Object) (sorted : KeysSorted (.object object)) :
    ∃ table, configObjectToAmqpTable object = .ok table ∧
      amqpTableToConfigObject table = .ok object := by
  rw [KeysSorted] at sorted
  obtain ⟨table, forward, read⟩ := amqpEntries_inverse object sorted.2 sorted.1 emptyTable
  exact ⟨table, forward, (read.object sorted.1).1⟩

/-- The round trip through AMQP, over any fields that keep the laws. Every configuration value
converts to a field, and converting the field back yields the value that was given, with the same
type at every place. The same holds of an object and its table. Objects are maps, so their fields
are in key order. -/
theorem amqp_roundTrip (value : ConfigValue) (sorted : KeysSorted value) :
    (∃ field, configValueToAmqpField value = .ok field ∧
      amqpFieldToConfigValue field = .ok value) ∧
    ∀ object, value = .object object → ∃ table, configObjectToAmqpTable object = .ok table ∧
      amqpTableToConfigObject table = .ok object := by
  refine ⟨amqpField_inverse value sorted, ?_⟩
  rintro object rfl
  exact amqpObject_inverse object sorted

end RoundTrip

open PlainFields

/-- Message headers with values of every type, nested in both ways. -/
def nestedHeaders : ConfigValue.Object :=
  [("empty", .object []), ("origin", .string "bus"),
    ("trace", .array [.null, .bool true, .object [("depth", .int64 (-1)), ("ratio", .double 7)]])]

theorem amqp_roundTrip_nested :
    KeysSorted (.object nestedHeaders) ∧
      ∃ table, configObjectToAmqpTable nestedHeaders = .ok table ∧
        amqpTableToConfigObject table = .ok nestedHeaders := by
  have sorted : KeysSorted (.object nestedHeaders) := by
    exact ⟨by decide, ⟨.nil, trivial⟩, trivial,
      ⟨trivial, trivial, ⟨by decide, trivial, trivial, trivial⟩, trivial⟩, trivial⟩
  exact ⟨sorted, (amqp_roundTrip (.object nestedHeaders) sorted).2 nestedHeaders rfl⟩

end ModuleContext.RabbitMqBus
