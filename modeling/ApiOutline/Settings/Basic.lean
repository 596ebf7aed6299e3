import ApiOutline.Data.Value
import ApiOutline.Json.Basic
import ApiOutline.Text.Blank
import ApiOutline.Text.Case

/-!
# Settings of a run

What a run writes and where, which directories it leaves out, and how strict it is. Settings come in
layers: the built-in ones, a settings file, flags in the environment and the command line, each over
the one before.
-/

namespace ApiOutline

open Data (Value)

namespace Settings

/-- The format of an artifact. -/
inductive OutputFormat where
  | text
  | json
deriving DecidableEq, Repr, Inhabited

namespace OutputFormat

/-- The name of a format. -/
def name : OutputFormat → String
  | .text => "text"
  | .json => "json"

/-- The suffix of the artifacts of a format. -/
def extension : OutputFormat → String
  | .text => "txt"
  | .json => "json"

/-- The format of a name. -/
def ofName? : String → Option OutputFormat
  | "text" => some .text
  | "json" => some .json
  | _ => none

/-- All formats. -/
def all : List OutputFormat := [.text, .json]

theorem ofName?_name (format : OutputFormat) : ofName? format.name = some format := by
  cases format <;> rfl

end OutputFormat

/-- A setting that is on or off. -/
inductive Flag where
  | strictSyntax
  | contextualVisibility
deriving DecidableEq, Repr

/-- The name of a flag in settings files. -/
def Flag.name : Flag → String
  | .strictSyntax => "strict_syntax"
  | .contextualVisibility => "contextual_visibility"

/-- The environment variable of a flag. -/
def Flag.variable : Flag → String
  | .strictSyntax => "CODEMAP_STRICT_SYNTAX"
  | .contextualVisibility => "CODEMAP_CONTEXTUAL_VISIBILITY"

/-- Why settings are refused. -/
inductive SettingsFault where
  /-- There is no settings file at the path. -/
  | fileNotFound (path : String)
  /-- The settings file is not well-formed. -/
  | malformed (path : String)
  /-- The settings are a value of the named type and not a mapping. -/
  | notMapping (typeName : String)
  | emptyOutputDir
  | badExcludeDirs
  /-- No format has the shown name. -/
  | unknownFormat (shown : String)
  | notBoolean (flag : Flag)
deriving DecidableEq, Repr

/-- The text of a fault. -/
def SettingsFault.message : SettingsFault → String
  | .fileNotFound path => "Config file not found: " ++ path
  | .malformed path => "Failed to parse config at " ++ path
  | .notMapping typeName => "Config must be an object, got " ++ typeName
  | .emptyOutputDir => "'output_dir' must not be empty"
  | .badExcludeDirs => "'exclude_dirs' must be a list of directory names"
  | .unknownFormat shown =>
    "Unknown output format '" ++ shown ++ "' (expected one of: " ++
      Text.joinStrings ", " (OutputFormat.all.map OutputFormat.name) ++ ")"
  | .notBoolean flag => "'" ++ flag.name ++ "' must be true or false"

/-- The format that a value names, without regard to case and to blanks around it. -/
def OutputFormat.ofValue (value : Value) : Except SettingsFault OutputFormat :=
  let shown := value.text
  match OutputFormat.ofName? (String.ofList (Text.lower (Text.trim shown))) with
  | some format => .ok format
  | none => .error (.unknownFormat (String.ofList shown))

end Settings

open Settings

/-- The settings of a run. -/
structure Settings where
  outputFormat : OutputFormat := .text
  outputDir : String := "codebase_ast"
  /-- Names of directories that are left out. -/
  excludeDirs : List String := ["bin", "obj"]
  /-- Leave out files with syntax errors. -/
  strictSyntax : Bool := false
  /-- Unmarked members of classes and records are private. -/
  contextualVisibility : Bool := false
deriving DecidableEq, Repr

namespace Settings

/-- The document of settings. -/
def document (settings : Settings) : Json :=
  .obj [("output_format", .str settings.outputFormat.name), ("output_dir", .str settings.outputDir),
    ("exclude_dirs", .arr (settings.excludeDirs.map .str)),
    ("strict_syntax", .bool settings.strictSyntax),
    ("contextual_visibility", .bool settings.contextualVisibility)]

/-- The names of all settings. -/
def names : List String :=
  ["output_format", "output_dir", "exclude_dirs", "strict_syntax", "contextual_visibility"]

/-- Settings that go over others, as far as they are given. -/
structure Overrides where
  outputFormat : Option OutputFormat := none
  outputDir : Option String := none
  excludeDirs : Option (List String) := none
  strictSyntax : Option Bool := none
  contextualVisibility : Option Bool := none
deriving DecidableEq, Repr

/-- The settings with all overrides that are given. -/
def override (settings : Settings) (overrides : Overrides) : Settings where
  outputFormat := overrides.outputFormat.getD settings.outputFormat
  outputDir := overrides.outputDir.getD settings.outputDir
  excludeDirs := overrides.excludeDirs.getD settings.excludeDirs
  strictSyntax := overrides.strictSyntax.getD settings.strictSyntax
  contextualVisibility := overrides.contextualVisibility.getD settings.contextualVisibility

/-- Why fields give no overrides. -/
inductive OverrideFault where
  /-- The format is none. -/
  | format (fault : SettingsFault)
  /-- There is no setting of the name. -/
  | unknownName (name : String)
deriving DecidableEq, Repr

/-- The overrides that fields give. Nulls give nothing; the format is checked before the names. -/
def Overrides.ofFields (fields : List (String × Json)) : Except OverrideFault Overrides := do
  let given := fields.filter fun field => field.2 != .null
  let outputFormat ←
    match Json.field? "output_format" given with
    | none => pure none
    | some value => ((OutputFormat.ofValue (.ofJson value)).map some).mapError .format
  match given.find? fun field => !names.contains field.1 with
  | some (name, _) => throw (.unknownName name)
  | none =>
    return {
      outputFormat
      outputDir := (Json.field? "output_dir" given).bind Json.text?
      excludeDirs := (Json.field? "exclude_dirs" given).bind Json.texts?
      strictSyntax := (Json.field? "strict_syntax" given).bind Json.truth?
      contextualVisibility := (Json.field? "contextual_visibility" given).bind Json.truth? }

@[simp]
theorem override_none (settings : Settings) : settings.override {} = settings := rfl

/-- The texts that switch a flag on. -/
def onWords : List String := ["1", "true", "yes", "on"]

/-- The variables of the environment. -/
abbrev Environment := List (String × String)

/-- A flag in the environment: any value of its variable that is not a word for "on" is "off". -/
def flagIn (environment : Environment) (flag : Flag) : Option Bool :=
  (environment.lookup flag.variable).map fun value =>
    onWords.contains (Text.lowerString (Text.trimString value))

/-- The settings with the flags of the environment. -/
def withEnvironment (settings : Settings) (environment : Environment) : Settings :=
  { settings with
    strictSyntax := (flagIn environment .strictSyntax).getD settings.strictSyntax
    contextualVisibility :=
      (flagIn environment .contextualVisibility).getD settings.contextualVisibility }

end Settings

end ApiOutline
