import ModuleContext.Foundation.ConfigField
import ModuleContext.Misc.Upsert

/-!
# The module configuration file

`ParseModuleConfigEntry` and `ReadModuleConfig` of `src/framework/ModuleManager.cpp`. The
file system and the JSON reader belong to the `foundation` library and are parameters.
-/

namespace ModuleContext.Framework
open Foundation Misc

/-- What the manager asks of `ConfigReader` and `PathUtils`. -/
structure FileSystem where
  loadFromJsonFile : String → Except ErrorCode ConfigValue
  errorCodeToString : ErrorCode → String
  isAbsolute : String → Bool
  getAbsolutePath : String → String
  getParentPath : String → String
  join : String → String → String

/-- `ModuleConfigSpec`. -/
structure ModuleConfigSpec where
  name : String
  type : String
  libraryPath : String
  config : ConfigValue
  deriving DecidableEq, Repr

def kConfigSchemaVersion : Int64 := 2

/-- The error of an entry: its index and what is wrong with it. -/
def makeConfigSpecError (index : Nat) (detail : String) : Error :=
  ⟨.parseError, "Invalid module config entry at modules[" ++ toString index ++ "]: " ++ detail⟩

/-- The library path of an entry, made absolute against the directory of the file. -/
def normalizeLibraryPath (fs : FileSystem) (configDirectory libraryPath : String) : String :=
  if fs.isAbsolute libraryPath then fs.getAbsolutePath libraryPath
  else fs.getAbsolutePath (fs.join configDirectory libraryPath)

def parseModuleConfigEntry (fs : FileSystem) (value : ConfigValue) (index : Nat)
    (configDirectory : String) : Result ModuleConfigSpec :=
  if value.isObject then
    match value.objectGet "name" with
    | .error _ => .error (makeConfigSpecError index "missing 'name'")
    | .ok nameValue =>
    match value.objectGet "type" with
    | .error _ => .error (makeConfigSpecError index "missing 'type'")
    | .ok typeValue =>
    match value.objectGet "library_path" with
    | .error _ => .error (makeConfigSpecError index "missing 'library_path'")
    | .ok libraryPathValue =>
    match nameValue.asString, typeValue.asString, libraryPathValue.asString with
    | .ok name, .ok type, .ok libraryPath =>
        if name.isEmpty || type.isEmpty || libraryPath.isEmpty then
          .error (makeConfigSpecError index
            "'name', 'type', and 'library_path' must not be empty")
        else
          let spec : ModuleConfigSpec :=
            { name, type
              libraryPath := normalizeLibraryPath fs configDirectory libraryPath
              config := .makeObject }
          if value.contains "config" then
            match value.objectGet "config" with
            | .error _ => .error (makeConfigSpecError index "failed to read 'config'")
            | .ok config =>
                if config.isObject then .ok { spec with config }
                else .error (makeConfigSpecError index "'config' must be an object")
          else .ok spec
    | _, _, _ => .error (makeConfigSpecError index
        "'name', 'type', and 'library_path' must all be strings")
  else .error (makeConfigSpecError index "expected object")

/-- The loop of `ReadModuleConfig`, from element `index` on, with the names seen before it. -/
def readModuleEntries (fs : FileSystem) (configFilePath configDirectory : String) :
    List ConfigValue → Nat → List String → Result (List ModuleConfigSpec)
  | [], _, _ => .ok []
  | value :: values, index, seenNames =>
      match parseModuleConfigEntry fs value index configDirectory with
      | .error e => .error ⟨e.code, buildMessage
          ("Failed to parse module config file '" ++ configFilePath ++ "'") e.message⟩
      | .ok spec =>
          if seenNames.contains spec.name then
            .error ⟨.alreadyExists,
              "Module config contains duplicate module name '" ++ spec.name ++ "'"⟩
          else
            match readModuleEntries fs configFilePath configDirectory values (index + 1)
                (spec.name :: seenNames) with
            | .error e => .error e
            | .ok specs => .ok (spec :: specs)

/-- `config_directory` of `ReadModuleConfig`. -/
def configDirectoryOf (fs : FileSystem) (configFilePath : String) : String :=
  fs.getParentPath (fs.getAbsolutePath configFilePath)

def readModuleConfig (fs : FileSystem) (configFilePath : String) :
    Result (List ModuleConfigSpec) :=
  match fs.loadFromJsonFile configFilePath with
  | .error loadError => .error ⟨loadError, "Failed to load module config file '" ++
      configFilePath ++ "' as JSON (error=" ++ fs.errorCodeToString loadError ++ ")"⟩
  | .ok root =>
  if root.isObject then
    match (root.objectGet "schema_version").bind ConfigValue.asInt64 with
    | .error _ => .error
        ⟨.parseError, "Module config must contain integer field 'schema_version'"⟩
    | .ok schemaVersion =>
    if schemaVersion ≠ kConfigSchemaVersion then
      .error ⟨.versionMismatch, "Unsupported module config schema_version: " ++
        toString schemaVersion.toInt⟩
    else
    match root.objectGet "modules" with
    | .error _ => .error ⟨.parseError, "Module config must contain array field 'modules'"⟩
    | .ok modulesValue =>
    match modulesValue.asArray with
    | .error _ => .error ⟨.parseError, "Module config field 'modules' must be an array"⟩
    | .ok modules =>
        readModuleEntries fs configFilePath (configDirectoryOf fs configFilePath) modules 0 []
  else .error ⟨.parseError, "Module config root must be a JSON object"⟩

/-- `spec` is what the array element `value` says: its three strings, none empty, the path made
absolute, against `directory` if it is not absolute itself, and its `config` object, which is
empty if the element has none. -/
structure EntryMatches (fs : FileSystem) (directory : String) (value : ConfigValue)
    (spec : ModuleConfigSpec) : Prop where
  name : value.fieldOr "name" .null = .string spec.name
  type : value.fieldOr "type" .null = .string spec.type
  nameNonempty : spec.name ≠ ""
  typeNonempty : spec.type ≠ ""
  libraryPath : ∃ path, value.fieldOr "library_path" .null = .string path ∧ path ≠ "" ∧
    spec.libraryPath = if fs.isAbsolute path then fs.getAbsolutePath path
      else fs.getAbsolutePath (fs.join directory path)
  config : value.fieldOr "config" (.object []) = spec.config
  configObject : spec.config.isObject = true

/-- The array elements that a configuration file lists under `modules`. -/
def ListsModules (fs : FileSystem) (configFilePath : String) (values : List ConfigValue) :
    Prop :=
  ∃ root, fs.loadFromJsonFile configFilePath = .ok root ∧
    root.objectGet "modules" = .ok (.array values)

theorem string_of_asString {value : ConfigValue} {text : String}
    (parsed : value.asString = .ok text) : value = .string text := by
  cases value <;> simp [ConfigValue.asString] at parsed
  rw [parsed]

theorem array_of_asArray {value : ConfigValue} {items : List ConfigValue}
    (parsed : value.asArray = .ok items) : value = .array items := by
  cases value <;> simp [ConfigValue.asArray] at parsed
  rw [parsed]

theorem parseModuleConfigEntry_ok {fs : FileSystem} {value : ConfigValue} {index : Nat}
    {configDirectory : String} {spec : ModuleConfigSpec}
    (parsed : parseModuleConfigEntry fs value index configDirectory = .ok spec) :
    EntryMatches fs configDirectory value spec := by
  unfold parseModuleConfigEntry at parsed
  split at parsed
  case isFalse => cases parsed
  split at parsed
  case h_1 => cases parsed
  rename_i nameValue nameRead
  split at parsed
  case h_1 => cases parsed
  rename_i typeValue typeRead
  split at parsed
  case h_1 => cases parsed
  rename_i libraryPathValue libraryPathRead
  split at parsed
  case h_2 => cases parsed
  rename_i name type libraryPath nameString typeString libraryPathString
  have nameIs := string_of_asString nameString
  have typeIs := string_of_asString typeString
  have libraryPathIs := string_of_asString libraryPathString
  subst nameIs typeIs libraryPathIs
  split at parsed
  case isTrue => cases parsed
  rename_i nonempty
  simp only [Bool.or_eq_true, not_or, String.isEmpty_iff] at nonempty
  have nameGiven := ConfigValue.fieldOr_of_found nameRead .null
  have typeGiven := ConfigValue.fieldOr_of_found typeRead .null
  have pathGiven := ConfigValue.fieldOr_of_found libraryPathRead .null
  dsimp only at parsed
  split at parsed
  · rename_i present
    split at parsed
    case h_1 => cases parsed
    rename_i config configRead
    split at parsed
    case isFalse => cases parsed
    rename_i isObject
    cases parsed
    exact ⟨nameGiven, typeGiven, nonempty.1.1, nonempty.1.2,
      ⟨libraryPath, pathGiven, nonempty.2, rfl⟩, ConfigValue.fieldOr_of_found configRead _,
      isObject⟩
  · rename_i absent
    cases parsed
    exact ⟨nameGiven, typeGiven, nonempty.1.1, nonempty.1.2,
      ⟨libraryPath, pathGiven, nonempty.2, rfl⟩, ConfigValue.fieldOr_of_absent absent _, rfl⟩

/-- The loop returns one spec for each element, in order, with names that are pairwise
distinct and were not seen before. -/
theorem readModuleEntries_ok {fs : FileSystem} {configFilePath configDirectory : String}
    {values : List ConfigValue} {index : Nat} {seenNames : List String}
    {specs : List ModuleConfigSpec}
    (parsed : readModuleEntries fs configFilePath configDirectory values index seenNames =
      .ok specs) :
    List.Forall₂ (EntryMatches fs configDirectory) values specs ∧
      (specs.map (·.name)).Nodup ∧ ∀ spec ∈ specs, spec.name ∉ seenNames := by
  induction values generalizing index seenNames specs with
  | nil =>
    simp only [readModuleEntries, Except.ok.injEq] at parsed
    subst parsed
    simp
  | cons value values ih =>
    unfold readModuleEntries at parsed
    split at parsed
    case h_1 => cases parsed
    rename_i spec entryParsed
    split at parsed
    case isTrue => cases parsed
    rename_i fresh
    split at parsed
    case h_1 => cases parsed
    rename_i rest restParsed
    cases parsed
    obtain ⟨matched, distinct, unseen⟩ := ih restParsed
    simp only [List.contains_iff_mem] at fresh
    exact ⟨.cons (parseModuleConfigEntry_ok entryParsed) matched,
      distinct_cons.mpr ⟨fresh, distinct, unseen⟩⟩

/-- A successful read returns the listed modules, in array order, under distinct names. -/
theorem readModuleConfig_ok {fs : FileSystem} {configFilePath : String}
    {specs : List ModuleConfigSpec} (parsed : readModuleConfig fs configFilePath = .ok specs) :
    ∃ values, ListsModules fs configFilePath values ∧
      List.Forall₂ (EntryMatches fs (fs.getParentPath (fs.getAbsolutePath configFilePath))) values
        specs ∧
      (specs.map (·.name)).Nodup := by
  unfold readModuleConfig at parsed
  split at parsed
  case h_1 => cases parsed
  rename_i root loaded
  split at parsed
  case isFalse => cases parsed
  split at parsed
  case h_1 => cases parsed
  split at parsed
  case isTrue => cases parsed
  split at parsed
  case h_1 => cases parsed
  rename_i modulesValue modulesRead
  split at parsed
  case h_1 => cases parsed
  rename_i modules arrayRead
  rw [array_of_asArray arrayRead] at modulesRead
  obtain ⟨matched, distinct, -⟩ := readModuleEntries_ok parsed
  exact ⟨modules, ⟨root, loaded, modulesRead⟩, matched, distinct⟩

end ModuleContext.Framework
