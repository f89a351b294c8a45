import ClusterPlan.Value

/-!
# Settings of the tool

The settings come in groups of named values with defaults. A settings file is laid over the defaults
group by group: a mapping replaces the values that it names and leaves the others, and anything else
takes the place of the whole group, whose settings can then no longer be asked for. Names that no group
or setting has are ignored.
-/

namespace ClusterPlan

/-- The name of a setting: its group and its name there. -/
structure Setting where
  group : String
  name : String
deriving DecidableEq, Repr

namespace Setting

def propertiesPrefix : Setting := ⟨"file_names", "properties_prefix"⟩
def baseConfig : Setting := ⟨"file_names", "base_config"⟩
def debugMode : Setting := ⟨"env_vars", "debug_mode"⟩
def configFile : Setting := ⟨"env_vars", "config"⟩
def confDir : Setting := ⟨"env_vars", "conf_dir"⟩
def applicationIdKey : Setting := ⟨"session", "application_id_key"⟩
def jobManagerKey : Setting := ⟨"session", "job_manager_key"⟩
def dynamicPropertiesKey : Setting := ⟨"session", "dynamic_properties_key"⟩
def dynamicPropertiesSeparator : Setting := ⟨"session", "dynamic_properties_separator"⟩
def maxWidth : Setting := ⟨"plan_panel", "max_width"⟩
def minWidth : Setting := ⟨"plan_panel", "min_width"⟩
def borderStyle : Setting := ⟨"plan_panel", "border_style"⟩
def titleStyle : Setting := ⟨"plan_panel", "title_style"⟩
def ruleStyle : Setting := ⟨"plan_panel", "rule_style"⟩
def keyStyle : Setting := ⟨"plan_panel", "key_style"⟩
def valueStyle : Setting := ⟨"plan_panel", "value_style"⟩
def notesStyle : Setting := ⟨"plan_panel", "notes_style"⟩
def standardDate : Setting := ⟨"date_formats", "standard"⟩
def defaultExit : Setting := ⟨"exit_codes", "default"⟩
def unexpectedExit : Setting := ⟨"exit_codes", "unexpected_error"⟩
def maxRoundingError : Setting := ⟨"size", "max_rounding_error"⟩

end Setting

/-- A group of settings, or what a settings file put in its place. -/
inductive SettingGroup where
  | fields (values : List (String × Value))
  | plain (v : Value)

/-- The settings: the groups by name, and the name of the program. -/
structure Settings where
  groups : List (String × SettingGroup)
  binaryName : Value

namespace Settings

/-- The groups with the names and the defaults of their settings. -/
def schema : List (String × List (String × Value)) :=
  [("file_names", [("properties_prefix", .str "yarn"), ("base_config", .str "config.yaml")]),
    ("env_vars", [("debug_mode", .str "YS_DEBUG"), ("config", .str "YS_CONFIG"),
      ("conf_dir", .str "YS_CONF_DIR")]),
    ("session", [("application_id_key", .str "applicationID"),
      ("job_manager_key", .str "jobManager"),
      ("dynamic_properties_key", .str "dynamicPropertiesString"),
      ("dynamic_properties_separator", .str "@@")]),
    ("plan_panel", [("max_width", .null), ("min_width", .int 80), ("border_style", .str "white"),
      ("title_style", .str "white bold"), ("rule_style", .str "white"),
      ("key_style", .str "default bold"), ("value_style", .str "white"),
      ("notes_style", .str "grey50")]),
    ("date_formats", [("standard", .str "%Y-%m-%d %H:%M:%S")]),
    ("exit_codes", [("default", .int 91), ("unexpected_error", .int 99)]),
    ("size", [("max_rounding_error", .float (.ofRatio false 1 10))])]

/-- The key of the program's name. -/
def binaryNameKey : String := "binary_name"

/-- Lays data over the settings of one group. -/
def overlayGroup (defaults : List (String × Value)) : Option Value → SettingGroup
  | none => .fields defaults
  | some (.mapping es) =>
    .fields (defaults.map fun (name, v) => (name, (Value.entry? name es).getD v))
  | some v => .plain v

/-- Lays a nested mapping over the defaults. -/
def overlay (data : List (Value × Value)) : Settings where
  groups := schema.map fun (name, defaults) => (name, overlayGroup defaults (Value.entry? name data))
  binaryName := (Value.entry? binaryNameKey data).getD (.str "ys")

/-- The defaults. -/
def standard : Settings := overlay []

instance : Inhabited Settings := ⟨standard⟩

/-- A group as a value of a settings file. -/
def SettingGroup.toValue : SettingGroup → Value
  | .fields values => .ofEntries values
  | .plain v => v

/-- The settings as the entries of a settings file. -/
def toEntries (s : Settings) : List (Value × Value) :=
  s.groups.map (fun (name, g) => (.str name, SettingGroup.toValue g))
    ++ [(.str binaryNameKey, s.binaryName)]

/-- The value of a setting. A value in the place of a group has no settings. -/
def get (s : Settings) (x : Setting) : Except Failure Value :=
  match s.groups.lookup x.group with
  | some (.fields values) =>
    match values.lookup x.name with
    | some v => .ok v
    | none => .error (.noAttribute x.group x.name)
  | some (.plain v) => .error (.noAttribute v.kindName x.name)
  | none => .error (.noAttribute x.group x.name)

/-- The value of a setting that is asked for by way of another name. -/
def getBy (name : String) (s : Settings) (x : Setting) : Except Failure Value :=
  match s.groups.lookup x.group with
  | some (.plain v) => .error (.noAttribute v.kindName name)
  | _ => s.get x

/-- How much rounding may change a size that is shown. -/
def tolerance (s : Settings) : Tolerance :=
  match s.get .maxRoundingError with
  | .error f => .unusable f
  | .ok (.float x) => .ratio x
  | .ok v =>
    match v.asInt? with
    | some i => .whole i
    | none => .unusable (.notComparable "<=" "float" v.kindName)

end Settings

end ClusterPlan
