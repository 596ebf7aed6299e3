import ApiOutline.Files.Store
import ApiOutline.Journal.Record
import ApiOutline.Json.Reader
import ApiOutline.Settings.Basic
import ApiOutline.Traced
import ApiOutline.Yaml.Fault

/-!
# Settings files

A settings file is JSON if its name ends in `.json`, and YAML otherwise. It holds a mapping; what it
does not set stays as it was, and names that mean nothing are reported and passed by. The values are
checked in a fixed order, and the first that is not right is the fault of the file.

The host gives the reader of YAML: loading takes whatever value or fault it has for a text. `Yaml.read` is one.
-/

namespace ApiOutline.Settings

open Data (Value)
open Files (Store StoreFault)
open Journal (Message)

/-- Why settings cannot be loaded. -/
inductive LoadFault where
  /-- The settings are refused. -/
  | refused (fault : SettingsFault)
  | unreadable (fault : StoreFault)
  | notUtf8 (fault : Text.Utf8.Fault)
  /-- A value of a YAML file is none. -/
  | yaml (fault : Yaml.Fault)
  /-- An integer of a JSON file has too many digits. -/
  | tooManyDigits (fault : Number.TooManyDigits)
  /-- A name that means nothing is not even a text. -/
  | unknownName
  /-- An integer in a value that is to be shown has too many digits. -/
  | unwritable
deriving DecidableEq, Repr

/-- A step of loading settings. -/
abbrev Loading (α : Type) := Traced Message LoadFault α

/-- What reads the text of a YAML file. -/
abbrev YamlReader := List Char → Except Yaml.Fault Value

/-- A warning about settings. -/
def warning (text : String) : Message :=
  ⟨.warning, "core.run_config", text⟩

/-- A path text without empty parts and single dots. -/
def shownPath (path : String) : String :=
  let lead := if Files.isDoubled path then "//" else if Files.isAbsolute path then "/" else ""
  let parts := (Files.partsOf path).filter (· ≠ ".")
  if lead.isEmpty && parts.isEmpty then "." else lead ++ Files.joinParts parts

/-- The last dot of a name and what follows it in lower case, if something stands on both sides of
the dot. -/
def lastSuffix (name : String) : String :=
  let cs := name.toList
  let tail := (cs.reverse.takeWhile (· ≠ '.')).reverse
  if tail.isEmpty || cs.length ≤ tail.length + 1 then ""
  else Text.lowerString (String.ofList ('.' :: tail))

/-- Whether a path text names a JSON file. -/
def isJsonPath (path : String) : Bool :=
  lastSuffix ((Files.partsOf path).getLast?.getD "") = ".json"

/-- Whether there is a file at a path text. A name that is too long is a fault of its own. -/
def isFile (store : Store) (path : String) : Except StoreFault Bool :=
  match store.resolve path with
  | .error .nameTooLong => .error .nameTooLong
  | .error _ => .ok false
  | .ok place => .ok ((store.find? place).any Files.Entry.isFile)

/-- The text of a settings file. -/
def fileText (store : Store) (path : String) : Except LoadFault (List Char) := do
  if !(← (isFile store path).mapError .unreadable) then throw (.refused (.fileNotFound path))
  let bytes ← (store.read path).mapError .unreadable
  let text ← (Text.Utf8.decode bytes).mapError .notUtf8
  return Text.plainLines text

/-- The value in the text of a settings file. -/
def fileValue (readYaml : YamlReader) (path : String) (text : List Char) : Except LoadFault Value :=
  if isJsonPath path then
    match Json.parse text with
    | .ok json => .ok (.ofJson json)
    | .error .malformed => .error (.refused (.malformed path))
    | .error (.tooManyDigits fault) => .error (.tooManyDigits fault)
  else
    match readYaml text with
    | .ok value => .ok value
    | .error .malformed => .error (.refused (.malformed path))
    | .error fault => .error (.yaml fault)

/-- The entries of a settings file; an empty file has none. -/
def fileEntries (readYaml : YamlReader) (store : Store) (path : String) :
    Loading (List (Value × Value)) := do
  let text ← .lift (fileText store path)
  let value ← .lift (fileValue readYaml path text)
  match value with
  | .null =>
    .leave [warning ("Config file " ++ path ++ " is empty; using defaults")]
    return []
  | .map entries => return entries
  | other => .fail (.refused (.notMapping other.typeName))

/-- The names in entries that mean nothing; none if one of them is not a text. -/
def unknownNames? : List (Value × Value) → Option (List String)
  | [] => some []
  | (.str name, _) :: entries =>
    (unknownNames? entries).map fun unknown =>
      if names.contains name then unknown else name :: unknown
  | _ :: _ => none

/-- Report the names that mean nothing, in order. -/
def reportUnknown (entries : List (Value × Value)) : Loading Unit :=
  match unknownNames? entries with
  | none => .fail .unknownName
  | some [] => pure ()
  | some unknown =>
    .leave [warning ("Ignoring unknown config keys: " ++
      Text.joinStrings ", " (unknown.mergeSort fun a b => a ≤ b))]

/-- A value as it is shown on its own, if all its integers can be written. -/
def shownText (value : Value) : Except LoadFault (List Char) :=
  if value.isWritable then .ok value.text else .error .unwritable

/-- The output directory of entries, without blanks around it. -/
def outputDirIn (entries : List (Value × Value)) (base : Settings) : Except LoadFault String := do
  let shown ←
    match Value.entry? "output_dir" entries with
    | none => pure base.outputDir.toList
    | some value => shownText value
  match Text.trim shown with
  | [] => throw (.refused .emptyOutputDir)
  | path => return String.ofList path

/-- Texts, if all values are texts. -/
def textsOf? : List Value → Option (List String)
  | [] => some []
  | .str text :: values => (textsOf? values).map (text :: ·)
  | _ :: _ => none

/-- The names of directories in a value. -/
def dirNames? : Value → Option (List String)
  | .list items => textsOf? items
  | .pairs [] => some []
  | _ => none

/-- Names without blanks around them; names that are nothing but blanks are left out. -/
def trimmedNames (excluded : List String) : List String :=
  (excluded.map Text.trimString).filter fun name => !name.isEmpty

/-- The excluded directories of entries. -/
def excludeDirsIn (entries : List (Value × Value)) (base : Settings) :
    Except SettingsFault (List String) :=
  match Value.entry? "exclude_dirs" entries with
  | none => .ok (trimmedNames base.excludeDirs)
  | some value =>
    match dirNames? value with
    | some excluded => .ok (trimmedNames excluded)
    | none => .error .badExcludeDirs

/-- The format of entries. A value that is none is shown in the fault. -/
def outputFormatIn (entries : List (Value × Value)) (base : Settings) :
    Except LoadFault OutputFormat :=
  match Value.entry? "output_format" entries with
  | none => .ok base.outputFormat
  | some value => do
    let _ ← shownText value
    (OutputFormat.ofValue value).mapError .refused

/-- A flag of entries. -/
def flagOf (entries : List (Value × Value)) (flag : Flag) (base : Bool) : Except SettingsFault Bool :=
  match Value.entry? flag.name entries with
  | none => .ok base
  | some (.bool value) => .ok value
  | some _ => .error (.notBoolean flag)

/-- Settings with what entries set. -/
def ofEntries (entries : List (Value × Value)) (base : Settings) : Except LoadFault Settings := do
  let outputDir ← outputDirIn entries base
  let excludeDirs ← (excludeDirsIn entries base).mapError .refused
  let outputFormat ← outputFormatIn entries base
  let strictSyntax ← (flagOf entries .strictSyntax base.strictSyntax).mapError .refused
  let contextualVisibility ←
    (flagOf entries .contextualVisibility base.contextualVisibility).mapError .refused
  return { outputFormat, outputDir, excludeDirs, strictSyntax, contextualVisibility }

/-- Settings with what the file at a path sets. -/
def load (readYaml : YamlReader) (store : Store) (path : String) (base : Settings) :
    Loading Settings := do
  let entries ← fileEntries readYaml store (shownPath path)
  reportUnknown entries
  .lift (ofEntries entries base)

end ApiOutline.Settings
