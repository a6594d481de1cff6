import ModuleContext.Foundation.ConfigField
import ModuleContext.Framework.ModuleConfig
import Mathlib.Data.List.Induction

/-!
# The grammar of the module configuration

Which JSON documents `ReadModuleConfig` accepts, stated on the document alone, and which error
code the others get: the one of the first violation, where the elements of `modules` are
looked at by index.
-/

namespace ModuleContext.Framework
open Foundation Misc

/-- An array element that describes a module: its three strings are given and not empty, and
its `config`, if there is one, is an object. -/
structure WellFormedEntry (value : ConfigValue) : Prop where
  object : value.isObject = true
  name : ∃ name, value.fieldOr "name" .null = .string name ∧ name ≠ ""
  type : ∃ type, value.fieldOr "type" .null = .string type ∧ type ≠ ""
  libraryPath : ∃ path, value.fieldOr "library_path" .null = .string path ∧ path ≠ ""
  config : (value.fieldOr "config" .makeObject).isObject = true

/-- The name that an array element gives its module. -/
def entryName (value : ConfigValue) : String := (value.fieldOr "name" .null).text

/-- Array elements that describe modules under pairwise distinct names. -/
structure ProperEntries (values : List ConfigValue) : Prop where
  wellFormed : ∀ value ∈ values, WellFormedEntry value
  distinct : (values.map entryName).Nodup

/-- The documents that are module configurations. -/
structure ModuleConfigGrammar (root : ConfigValue) : Prop where
  object : root.isObject = true
  schemaVersion : root.fieldOr "schema_version" .null = .int64 2
  modules : ∃ values, root.fieldOr "modules" .null = .array values ∧ ProperEntries values

/-- `FirstViolation root code`: the first thing wrong with the document has this code. An
element offends if it is malformed or gives a name that a smaller index has already used, and
the elements before the offending one are `ProperEntries`. -/
inductive FirstViolation (root : ConfigValue) : ErrorCode → Prop where
  | root (notObject : ¬root.isObject = true) : FirstViolation root .parseError
  | schemaVersion (object : root.isObject = true)
      (notInteger : ∀ version, root.fieldOr "schema_version" .null ≠ .int64 version) :
      FirstViolation root .parseError
  | version {version : Int64} (integer : root.fieldOr "schema_version" .null = .int64 version)
      (other : version ≠ 2) : FirstViolation root .versionMismatch
  | modules (supported : root.fieldOr "schema_version" .null = .int64 2)
      (notArray : ∀ values, root.fieldOr "modules" .null ≠ .array values) :
      FirstViolation root .parseError
  | malformed {before after : List ConfigValue} {value : ConfigValue}
      (supported : root.fieldOr "schema_version" .null = .int64 2)
      (array : root.fieldOr "modules" .null = .array (before ++ value :: after))
      (proper : ProperEntries before) (offending : ¬WellFormedEntry value) :
      FirstViolation root .parseError
  | duplicate {before after : List ConfigValue} {value : ConfigValue}
      (supported : root.fieldOr "schema_version" .null = .int64 2)
      (array : root.fieldOr "modules" .null = .array (before ++ value :: after))
      (proper : ProperEntries before) (wellFormed : WellFormedEntry value)
      (used : entryName value ∈ before.map entryName) : FirstViolation root .alreadyExists

/-! One array element. -/

theorem EntryMatches.entryName_eq {fs : FileSystem} {directory : String} {value : ConfigValue}
    {spec : ModuleConfigSpec} (matched : EntryMatches fs directory value spec) :
    entryName value = spec.name := by
  rw [entryName, matched.name, ConfigValue.text_string]

theorem EntryMatches.wellFormed {fs : FileSystem} {directory : String} {value : ConfigValue}
    {spec : ModuleConfigSpec} (matched : EntryMatches fs directory value spec) :
    WellFormedEntry value := by
  obtain ⟨path, pathGiven, pathNonempty, -⟩ := matched.libraryPath
  refine ⟨?_, ⟨spec.name, matched.name, matched.nameNonempty⟩,
    ⟨spec.type, matched.type, matched.typeNonempty⟩, ⟨path, pathGiven, pathNonempty⟩, ?_⟩
  · exact ConfigValue.isObject_of_found
      ((ConfigValue.objectGet_iff (by simp)).mpr matched.name)
  · rw [ConfigValue.makeObject, matched.config]
    exact matched.configObject

/-- Every well-formed element is parsed. -/
theorem parseModuleConfigEntry_complete (fs : FileSystem) {value : ConfigValue} (index : Nat)
    (configDirectory : String) (wellFormed : WellFormedEntry value) :
    ∃ spec, parseModuleConfigEntry fs value index configDirectory = .ok spec := by
  obtain ⟨object, ⟨name, nameIs, nameNonempty⟩, ⟨type, typeIs, typeNonempty⟩,
    ⟨path, pathIs, pathNonempty⟩, configIs⟩ := wellFormed
  rw [← ConfigValue.objectGet_iff (by simp)] at nameIs typeIs pathIs
  have nonempty : (name.isEmpty || type.isEmpty || path.isEmpty) = false := by
    simp [nameNonempty, typeNonempty, pathNonempty]
  simp only [parseModuleConfigEntry, object, nameIs, typeIs, pathIs, ConfigValue.asString,
    nonempty]
  by_cases present : value.contains "config" = true
  · obtain ⟨config, found⟩ := ConfigValue.contains_iff.mp present
    rw [ConfigValue.fieldOr_of_found found] at configIs
    simp [present, found, configIs]
  · simp [present]

/-- Whatever is wrong with an element, its error is a parse error. -/
theorem parseModuleConfigEntry_error {fs : FileSystem} {value : ConfigValue} {index : Nat}
    {configDirectory : String} {e : Error}
    (failed : parseModuleConfigEntry fs value index configDirectory = .error e) :
    e.code = .parseError := by
  unfold parseModuleConfigEntry at failed
  repeat' split at failed
  all_goals cases failed
  all_goals rfl

/-! The loop over the elements. -/

section Loop

variable {fs : FileSystem} {configFilePath configDirectory : String}

/-- The loop passes elements that are proper and whose names were not seen before: it adds one
spec for each and goes on behind them. -/
theorem readModuleEntries_passes {before : List ConfigValue} (after : List ConfigValue)
    {index : Nat} {seenNames : List String} (proper : ProperEntries before)
    (fresh : ∀ value ∈ before, entryName value ∉ seenNames) :
    ∃ specs, readModuleEntries fs configFilePath configDirectory (before ++ after) index
        seenNames =
      (readModuleEntries fs configFilePath configDirectory after (index + before.length)
        ((before.map entryName).reverse ++ seenNames)).map (specs ++ ·) := by
  induction before generalizing index seenNames with
  | nil =>
    refine ⟨[], ?_⟩
    rw [List.nil_append, List.length_nil, Nat.add_zero, List.map_nil, List.reverse_nil,
      List.nil_append]
    cases readModuleEntries fs configFilePath configDirectory after index seenNames <;> rfl
  | cons value before ih =>
    obtain ⟨wellFormed, distinct⟩ := proper
    rw [List.map_cons, List.nodup_cons] at distinct
    obtain ⟨spec, parsed⟩ := parseModuleConfigEntry_complete fs index configDirectory
      (wellFormed value List.mem_cons_self)
    have sameName := (parseModuleConfigEntry_ok parsed).entryName_eq
    have unseen : seenNames.contains spec.name = false := by
      rw [← sameName, Bool.eq_false_iff, ne_eq, List.contains_iff_mem]
      exact fresh value List.mem_cons_self
    obtain ⟨specs, passed⟩ := @ih (index + 1) (spec.name :: seenNames)
      ⟨fun later member => wellFormed later (List.mem_cons_of_mem _ member), distinct.2⟩ (by
        intro later member clash
        rcases List.mem_cons.mp clash with same | earlier
        · exact distinct.1 (sameName ▸ same ▸ List.mem_map_of_mem member)
        · exact fresh later (List.mem_cons_of_mem _ member) earlier)
    refine ⟨spec :: specs, ?_⟩
    have position : index + 1 + before.length = index + (value :: before).length := by
      rw [List.length_cons]
      omega
    have names : (before.map entryName).reverse ++ spec.name :: seenNames =
        ((value :: before).map entryName).reverse ++ seenNames := by
      simp [sameName]
    rw [position, names] at passed
    simp only [List.cons_append, readModuleEntries, parsed, unseen, passed]
    cases readModuleEntries fs configFilePath configDirectory after
      (index + (value :: before).length)
      (((value :: before).map entryName).reverse ++ seenNames) <;> rfl

/-- An element that is malformed, after proper ones, ends the loop with a parse error. -/
theorem readModuleEntries_malformed {before after : List ConfigValue} {value : ConfigValue}
    (proper : ProperEntries before) (offending : ¬WellFormedEntry value) :
    ∃ message, readModuleEntries fs configFilePath configDirectory
      (before ++ value :: after) 0 [] = .error ⟨.parseError, message⟩ := by
  obtain ⟨specs, passed⟩ := @readModuleEntries_passes fs configFilePath configDirectory before
    (value :: after) 0 [] proper (by simp)
  rw [passed, readModuleEntries]
  cases parsed : parseModuleConfigEntry fs value (0 + before.length) configDirectory with
  | ok spec => exact absurd (parseModuleConfigEntry_ok parsed).wellFormed offending
  | error e =>
    rw [← parseModuleConfigEntry_error parsed]
    exact ⟨_, rfl⟩

/-- An element that gives a name again ends the loop with its own error. -/
theorem readModuleEntries_duplicate {before after : List ConfigValue} {value : ConfigValue}
    (proper : ProperEntries before) (wellFormed : WellFormedEntry value)
    (used : entryName value ∈ before.map entryName) :
    ∃ message, readModuleEntries fs configFilePath configDirectory
      (before ++ value :: after) 0 [] = .error ⟨.alreadyExists, message⟩ := by
  obtain ⟨specs, passed⟩ := @readModuleEntries_passes fs configFilePath configDirectory before
    (value :: after) 0 [] proper (by simp)
  obtain ⟨spec, parsed⟩ := parseModuleConfigEntry_complete fs (0 + before.length) configDirectory
    wellFormed
  have seen : ((before.map entryName).reverse ++ []).contains spec.name = true := by
    rw [← (parseModuleConfigEntry_ok parsed).entryName_eq, List.contains_iff_mem,
      List.append_nil, List.mem_reverse]
    exact used
  rw [passed, readModuleEntries]
  simp only [parsed, seen]
  exact ⟨_, rfl⟩

end Loop

/-- Either all elements are proper, or there is a first one that offends. -/
theorem properEntries_or_offending (values : List ConfigValue) :
    ProperEntries values ∨ ∃ before value after, values = before ++ value :: after ∧
      ProperEntries before ∧
      (¬WellFormedEntry value ∨
        (WellFormedEntry value ∧ entryName value ∈ before.map entryName)) := by
  induction values using List.reverseRecOn with
  | nil => exact Or.inl ⟨by simp, by simp⟩
  | append_singleton rest last ih =>
    rcases ih with proper | ⟨before, value, after, rfl, proper, offends⟩
    · by_cases wellFormed : WellFormedEntry last
      · by_cases used : entryName last ∈ rest.map entryName
        · exact Or.inr ⟨rest, last, [], rfl, proper, Or.inr ⟨wellFormed, used⟩⟩
        · refine Or.inl ⟨?_, ?_⟩
          · intro value member
            rcases List.mem_append.mp member with earlier | here
            · exact proper.wellFormed value earlier
            · exact List.mem_singleton.mp here ▸ wellFormed
          · rw [List.map_append, List.map_singleton, List.nodup_append]
            refine ⟨proper.distinct, by simp, ?_⟩
            intro name member other here same
            rw [List.mem_singleton.mp here] at same
            exact used (same ▸ member)
      · exact Or.inr ⟨rest, last, [], rfl, proper, Or.inl wellFormed⟩
    · exact Or.inr ⟨before, value, after ++ [last], by simp, proper, offends⟩

/-- Every document is a module configuration or has a first violation. -/
theorem grammar_or_violation (root : ConfigValue) :
    ModuleConfigGrammar root ∨ ∃ code, FirstViolation root code := by
  by_cases object : root.isObject = true
  case neg => exact Or.inr ⟨_, .root object⟩
  by_cases integer : ∃ version, root.fieldOr "schema_version" .null = .int64 version
  case neg => exact Or.inr ⟨_, .schemaVersion object (by simpa using integer)⟩
  obtain ⟨version, integer⟩ := integer
  by_cases supported : version = 2
  case neg => exact Or.inr ⟨_, .version integer supported⟩
  subst supported
  by_cases array : ∃ values, root.fieldOr "modules" .null = .array values
  case neg => exact Or.inr ⟨_, .modules integer (by simpa using array)⟩
  obtain ⟨values, array⟩ := array
  rcases properEntries_or_offending values with
    proper | ⟨before, value, after, rfl, proper, malformed | ⟨wellFormed, used⟩⟩
  · exact Or.inl ⟨object, integer, values, array, proper⟩
  · exact Or.inr ⟨_, .malformed integer array proper malformed⟩
  · exact Or.inr ⟨_, .duplicate integer array proper wellFormed used⟩

section Document

variable {fs : FileSystem} {configFilePath : String} {root : ConfigValue}

/-- A document with the supported version and an array of modules is read by the loop. -/
theorem readModuleConfig_array {values : List ConfigValue}
    (loaded : fs.loadFromJsonFile configFilePath = .ok root)
    (supported : root.fieldOr "schema_version" .null = .int64 2)
    (array : root.fieldOr "modules" .null = .array values) :
    readModuleConfig fs configFilePath = readModuleEntries fs configFilePath
      (configDirectoryOf fs configFilePath) values 0 [] := by
  rw [← ConfigValue.objectGet_iff (by simp)] at supported array
  simp [readModuleConfig, loaded, ConfigValue.isObject_of_found supported, supported, array,
    Except.bind, ConfigValue.asInt64, ConfigValue.asArray, kConfigSchemaVersion]

/-- A document of the grammar is read. -/
theorem readModuleConfig_complete (loaded : fs.loadFromJsonFile configFilePath = .ok root)
    (grammar : ModuleConfigGrammar root) :
    ∃ specs, readModuleConfig fs configFilePath = .ok specs := by
  obtain ⟨-, supported, values, array, proper⟩ := grammar
  obtain ⟨specs, passed⟩ := @readModuleEntries_passes fs configFilePath
    (configDirectoryOf fs configFilePath) values [] 0 [] proper (by simp)
  rw [List.append_nil, readModuleEntries] at passed
  rw [readModuleConfig_array loaded supported array, passed]
  exact ⟨_, rfl⟩

/-- A document with a first violation is refused with the code of that violation. -/
theorem readModuleConfig_refuses (loaded : fs.loadFromJsonFile configFilePath = .ok root)
    {code : ErrorCode} (violation : FirstViolation root code) :
    ∃ message, readModuleConfig fs configFilePath = .error ⟨code, message⟩ := by
  cases violation with
  | root notObject => exact ⟨_, by simp only [readModuleConfig, loaded, notObject]; rfl⟩
  | schemaVersion object notInteger =>
    cases read : (root.objectGet "schema_version").bind ConfigValue.asInt64 with
    | error e => exact ⟨_, by simp only [readModuleConfig, loaded, object, read]; rfl⟩
    | ok version =>
      obtain ⟨value, found, integer⟩ := bind_eq_ok.mp read
      rw [ConfigValue.asInt64_eq_ok] at integer
      exact absurd (integer ▸ ConfigValue.fieldOr_of_found found .null) (notInteger version)
  | version integer other =>
    rw [← ConfigValue.objectGet_iff (by simp)] at integer
    simp only [readModuleConfig, loaded, ConfigValue.isObject_of_found integer, integer,
      Except.bind, ConfigValue.asInt64, kConfigSchemaVersion, if_true]
    exact ⟨_, if_pos other⟩
  | modules supported notArray =>
    rw [← ConfigValue.objectGet_iff (by simp)] at supported
    simp only [readModuleConfig, loaded, ConfigValue.isObject_of_found supported, supported,
      Except.bind, ConfigValue.asInt64, kConfigSchemaVersion, if_true]
    cases found : root.objectGet "modules" with
    | error e => exact ⟨_, rfl⟩
    | ok value =>
      cases array : value.asArray with
      | error e => exact ⟨_, by simp only [array]; rfl⟩
      | ok values =>
        rw [ConfigValue.asArray_eq_ok] at array
        exact absurd (array ▸ ConfigValue.fieldOr_of_found found .null) (notArray values)
  | malformed supported array proper offending =>
    rw [readModuleConfig_array loaded supported array]
    exact readModuleEntries_malformed proper offending
  | duplicate supported array proper wellFormed used =>
    rw [readModuleConfig_array loaded supported array]
    exact readModuleEntries_duplicate proper wellFormed used

end Document

/-- `ReadModuleConfig` accepts exactly the grammar. The specs it returns correspond to the array
elements one to one and in order, and the error of any other document has the code of its first
violation. -/
theorem readModuleConfig_grammar (fs : FileSystem) (configFilePath : String) (root : ConfigValue)
    (loaded : fs.loadFromJsonFile configFilePath = .ok root) :
    ((∃ specs, readModuleConfig fs configFilePath = .ok specs) ↔ ModuleConfigGrammar root) ∧
    (∀ specs, readModuleConfig fs configFilePath = .ok specs →
      ∃ values, root.fieldOr "modules" .null = .array values ∧
        List.Forall₂ (EntryMatches fs (fs.getParentPath (fs.getAbsolutePath configFilePath)))
          values specs) ∧
    ∀ code, (∃ message, readModuleConfig fs configFilePath = .error ⟨code, message⟩) ↔
      FirstViolation root code := by
  refine ⟨⟨?_, readModuleConfig_complete loaded⟩, ?_, ?_⟩
  · rintro ⟨specs, read⟩
    rcases grammar_or_violation root with grammar | ⟨code, violation⟩
    · exact grammar
    · obtain ⟨message, refused⟩ := readModuleConfig_refuses loaded violation
      rw [read] at refused
      cases refused
  · intro specs read
    obtain ⟨values, ⟨listed, loaded', array⟩, matched, -⟩ := readModuleConfig_ok read
    rw [loaded] at loaded'
    cases loaded'
    exact ⟨values, ConfigValue.fieldOr_of_found array _, matched⟩
  · intro code
    refine ⟨?_, readModuleConfig_refuses loaded⟩
    rintro ⟨message, read⟩
    rcases grammar_or_violation root with grammar | ⟨other, violation⟩
    · obtain ⟨specs, accepted⟩ := readModuleConfig_complete loaded grammar
      rw [accepted] at read
      cases read
    · obtain ⟨text, refused⟩ := readModuleConfig_refuses loaded violation
      rw [refused] at read
      cases read
      exact violation

/-- An element of `modules` without inline configuration. -/
def plainEntry (name type libraryPath : String) : ConfigValue :=
  .object [("name", .string name), ("type", .string type), ("library_path", .string libraryPath)]

/-- A document whose third element is malformed and whose second one repeats the first name. -/
def repeatedNameDocument : ConfigValue :=
  .object [("schema_version", .int64 2),
    ("modules", .array [plainEntry "bus" "rabbitmq_bus" "libbus.so",
      plainEntry "bus" "demo" "libdemo.so", .null])]

/-- A file system with one document. -/
def singleFile (document : ConfigValue) : FileSystem where
  loadFromJsonFile _ := .ok document
  errorCodeToString _ := "error"
  isAbsolute path := path.startsWith "/"
  getAbsolutePath path := path
  getParentPath _ := "."
  join directory path := directory ++ "/" ++ path

/-- The repeated name comes first, so it decides the error. -/
theorem readModuleConfig_grammar_repeated :
    ∃ message, readModuleConfig (singleFile repeatedNameDocument) "modules.json" =
      .error ⟨.alreadyExists, message⟩ := by
  have wellFormed : ∀ type path, type ≠ "" → path ≠ "" →
      WellFormedEntry (plainEntry "bus" type path) := by
    intro type path typeNonempty pathNonempty
    exact ⟨rfl, ⟨"bus", rfl, by decide⟩, ⟨type, rfl, typeNonempty⟩, ⟨path, rfl, pathNonempty⟩, rfl⟩
  refine ((readModuleConfig_grammar (singleFile repeatedNameDocument) "modules.json"
    repeatedNameDocument rfl).2.2 .alreadyExists).mpr ?_
  refine @FirstViolation.duplicate _ [plainEntry "bus" "rabbitmq_bus" "libbus.so"] [.null]
    (plainEntry "bus" "demo" "libdemo.so") rfl rfl ⟨?_, by simp⟩ ?_ ?_
  · intro value member
    rw [List.mem_singleton.mp member]
    exact wellFormed _ _ (by decide) (by decide)
  · exact wellFormed _ _ (by decide) (by decide)
  · exact List.mem_singleton.mpr rfl

end ModuleContext.Framework
