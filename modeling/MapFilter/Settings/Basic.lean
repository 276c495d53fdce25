import MapFilter.Files
import MapFilter.Number.Reading
import MapFilter.Settings.EnvFile
import MapFilter.Value.Basic

/-!
# Settings

What the service can be told from outside: where the data lies, what the features call their
properties, which layers and metrics there are, and how filters are applied. Every setting has a
default, and most can be replaced by a variable of the environment.

- `Setting`: one setting, its variable and its default
- `Settings.ofEnvironment`: the table of all settings
-/

namespace MapFilter

/-! ## §1 Kinds of settings -/

/-- How the text of a variable is read. -/
inductive SettingKind where
  | text
  /-- A path, written without detours. -/
  | path
  /-- Names between commas. -/
  | names
  | number
  | integer
deriving DecidableEq

/-- A setting that a variable of the environment can replace. -/
structure Setting where
  name : String
  variableName : String
  kind : SettingKind
  default : Option String
deriving DecidableEq

/-- Why there are no settings. -/
inductive SettingsError where
  /-- A variable holds no number where one is needed. -/
  | noNumber (text : String)
  /-- A variable holds no integer where one is needed. -/
  | noInteger (e : Number.IntegerTextError)
  /-- A variable of the environment file cannot be set. -/
  | unusableVariable
deriving DecidableEq

def SettingsError.message? : SettingsError → Option String
  | .noNumber text => some (Number.unreadableMessage text)
  | .noInteger e => some e.message
  | .unusableVariable => none

/-- The names between commas, trimmed; empty ones are left out. -/
def splitNames (text : String) : List String :=
  ((text.splitOn ",").map Text.trim).filter fun name => !name.isEmpty

/-- The value that a text gives a setting. -/
def SettingKind.read (kind : SettingKind) (text : String) : Except SettingsError Value :=
  match kind with
  | .text => .ok (.text text)
  | .path => .ok (.text (Files.normalize text))
  | .names => .ok (.list ((splitNames text).map .text))
  | .number =>
    match Number.ofSetting? text with
    | some x => .ok (.float x)
    | none => .error (.noNumber text)
  | .integer =>
    match Number.settingInt text with
    | .ok i => .ok (.int i)
    | .error e => .error (.noInteger e)

/-- The name and the value of a setting in an environment. A text setting without a default may
have no value. -/
def Setting.value (setting : Setting) (env : Environment) : Except SettingsError (String × Value) :=
  match (env.lookup setting.variableName).or setting.default with
  | some text => (setting.kind.read text).map fun v => (setting.name, v)
  | none => .ok (setting.name, .null)

/-! ## §2 The table -/

namespace Settings

/-- A setting whose variable has the name of the setting after the mark of this service. -/
def own (name : String) (kind : SettingKind) (default : String) : Setting :=
  ⟨name, "WLHEAT_" ++ name, kind, some default⟩

def dataSettings : List Setting :=
  [own "DUCKDB_PATH" .path "data/warehouse.duckdb",
    own "CSV_GLOB" .text "data/*.csv",
    ⟨"BUCKET_URL", "BUCKET_URL", .text, none⟩,
    ⟨"BUCKET_KEY", "BUCKET_KEY", .text, none⟩,
    own "SOURCE_ID" .text "wl-src",
    own "TILESET_ID" .text "ckunkel.bp872kqi",
    own "SOURCE_LAYER" .text "MapBox-42vjbp"]

/-- What the features call their properties. The date key may stand behind a byte order mark. -/
def fieldSettings : List Setting :=
  [own "BRANCH_FIELD" .text "BranchName",
    own "GROUP_FIELD" .text "ProductGroupLevel1",
    own "DATE_TEXT_FIELD" .text "SaleDate",
    own "DATE_KEY_FIELD" .text "SaleDateKey",
    own "DATE_KEY_ALT_FIELDS" .names "\ufeffSaleDateKey"]

def metricLabels : Value :=
  .object [("sales", .text "Sales"), ("tickets", .text "Tickets")]

def metricSettings : List Setting :=
  [⟨"sales", "WLHEAT_SALES_FIELD", .text, some "TotalSales"⟩,
    ⟨"tickets", "WLHEAT_TICKETS_FIELD", .text, some "TicketCount"⟩]

def layers : Value :=
  .list [.object [("id", .text "wl-heat"), ("type", .text "heatmap")],
    .object [("id", .text "wl-points"), ("type", .text "circle")]]

/-- Where the layers show, and how filters are applied. -/
def behaviourSettings : List Setting :=
  [own "HEATMAP_MAX_ZOOM" .number "10",
    own "POINTS_MIN_ZOOM" .number "7.25",
    own "FILTER_DEBOUNCE_SECONDS" .number "0.25",
    own "PROBE_SAMPLE_SIZE" .integer "25",
    own "MAX_ENUMERATED_DAYS" .integer "370"]

/-- The values of some settings in an environment; the first that cannot be read is the error. -/
def values (settings : List Setting) (env : Environment) : Except SettingsError Record :=
  settings.mapM (Setting.value · env)

/-- The settings in an environment. -/
def ofEnvironment (env : Environment) : Except SettingsError Record := do
  let data ← values dataSettings env
  let fields ← values fieldSettings env
  let metrics ← values metricSettings env
  let behaviour ← values behaviourSettings env
  return data ++ fields ++ [("METRICS", metricLabels), ("METRIC_FIELDS", .object metrics),
    ("LAYERS", layers)] ++ behaviour

/-- Whether a name is that of a setting: its letters are capitals. -/
def isName (name : String) : Bool :=
  name.any Char.isUpper && !name.any Char.isLower

/-- The settings with others put in their place. What is not named like a setting is left out. -/
def replace (settings others : Record) : Record :=
  Record.insertAll settings (others.filter fun entry => isName entry.1)

/-- The settings in an environment and an environment file, whose variables count where the
environment has none. -/
def ofBundle (env : Environment) (file : String) : Except SettingsError Record :=
  match env.extend? file with
  | some env => ofEnvironment env
  | none => .error .unusableVariable

end Settings

end MapFilter
