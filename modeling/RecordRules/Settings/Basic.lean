import RecordRules.Settings.Key
import RecordRules.Settings.Source

/-!
# The settings of an engine

Settings come from a file of defaults, a file of a given name and the environment.  For
each field the last source that sets it counts, and only its value has to convert to the
type of the field; unknown keys are passed over.  A file that is there has to be readable.
-/

namespace RecordRules

open Text

/-- The settings of an engine. -/
structure Settings where
  /-- Whether a rule that cannot be prepared spoils the whole set. -/
  strictCompile : Bool := false
  /-- Whether findings about rules are reported when they are prepared. -/
  validateOnBuild : Bool := false
  logLevel : String := "info"
  logFormat : String := "pretty"
deriving DecidableEq, Repr

namespace Settings

def isJsonLogs (settings : Settings) : Bool :=
  equalsIgnoringAsciiCase settings.logFormat.toList "json".toList

/-- The start of the names of variables that are settings, in lower case. -/
def variableStart : String := "rule_engine_"

def variableKey? (name : String) : Option String :=
  let lowered := lower name.toList
  if variableStart.toList.isPrefixOf lowered then
    some (String.ofList (lowered.drop variableStart.length))
  else none

def ofEnvironment (environment : List (String × String)) : List (String × Setting) :=
  environment.filterMap fun (name, value) =>
    (variableKey? name).map fun key => (key, Setting.ofVariable value)

/-- The field that a key sets and its value there. -/
def assignment (key : String) (setting : Setting) : String × Setting :=
  match Key.parts key with
  | (field, true) => (field, .composite)
  | (field, false) => (field, setting)

def last? (settings : List (String × Setting)) (field : String) : Option Setting :=
  settings.foldl
    (fun found (key, setting) =>
      let (assigned, value) := assignment key setting
      if assigned == field then some (value.replacing found) else found)
    none

/-- The value of a field: its default if nothing sets it, and nothing if it does not convert. -/
def field? {α : Type} (convert : Setting → Option α) (default : α) :
    Option Setting → Option α
  | none => some default
  | some setting => convert setting

/-- The settings of keys and values, of which later ones count more. -/
def ofList? (settings : List (String × Setting)) : Option Settings := do
  let strictCompile ← field? Setting.bool? false (last? settings "strict_compile")
  let validateOnBuild ← field? Setting.bool? false (last? settings "validate_on_build")
  let logLevel ← field? Setting.text? "info" (last? settings "log_level")
  let logFormat ← field? Setting.text? "pretty" (last? settings "log_format")
  some ⟨strictCompile, validateOnBuild, logLevel, logFormat⟩

/-- The settings of the file of defaults, the file of a name and the environment. -/
def ofSources? (defaults named : Source) (environment : List (String × String)) :
    Option Settings := do
  let base ← defaults.settings?
  let special ← named.settings?
  ofList? (base ++ special ++ ofEnvironment environment)

/-- The path of a file in a directory; a path from the root stays as it is. -/
def inDirectory (directory file : String) : String :=
  if file.toList.head? == some '/' then file
  else if directory.isEmpty || directory.toList.getLast? == some '/' then directory ++ file
  else directory ++ "/" ++ file

def filePaths (directory name : String) : String × String :=
  (inDirectory directory "default.toml", inDirectory directory (name ++ ".toml"))

/-- The settings of a name in a directory, given what can be read from files. -/
def loadFrom? (read : String → Option String) (environment : List (String × String))
    (directory name : String) : Option Settings :=
  let (defaults, named) := filePaths directory name
  ofSources? (Source.find read defaults) (Source.find read named) environment

/-- The directory that the environment names, or the usual one. -/
def directoryOf (environment : List (String × String)) : String :=
  ((environment.find? (·.1 == "CONFIG_DIR")).map (·.2)).getD "config"

def load? (read : String → Option String) (environment : List (String × String)) (name : String) :
    Option Settings :=
  loadFrom? read environment (directoryOf environment) name

end Settings

end RecordRules
