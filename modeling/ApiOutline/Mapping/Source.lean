import ApiOutline.Journal.Record
import ApiOutline.Mapping.Fault
import ApiOutline.Outline.Walk
import ApiOutline.Settings.Basic

/-!
# Mapping one source

Parsing is a function from bytes to a syntax tree that the caller provides. A source in which the parser
reports an error is mapped as far as it parsed, or refused, as the settings say.
-/

namespace ApiOutline.Mapping

open Files (Location Store)
open Journal (Message Level)
open Outline (FileMap Note)
open Syntax (Node)
open Text (Bytes)

/-- A step of mapping files. -/
abbrev Step (α : Type) := Traced Message MapFault α

/-- Where sources come from: the store, and the tree of the bytes of a source. -/
structure Sources where
  store : Store
  parse : Bytes → Node

/-- A message of the parser. -/
def parserMessage (text : String) : Message :=
  ⟨.debug, "codemap.parser", text⟩

/-- A message of mapping. -/
def mapperMessage (level : Level) (text : String) : Message :=
  ⟨level, "codemap.mapper", text⟩

/-- A message of the walk. -/
def walkMessage (text : String) : Message :=
  ⟨.debug, "codemap.traversal", text⟩

/-- What is said about a note of the walk. -/
def noteMessage : Note → Message
  | .hidden kind line => walkMessage s!"Skipping non-public {kind.name} at line {line}"
  | .rawSummary =>
    ⟨.debug, "codemap.doc_summary", "Doc comment is not well-formed XML; using raw summary text"⟩

/-- A value of the named type was given for a source. -/
structure NotBytes where
  typeName : String
deriving DecidableEq, Repr

/-- The text of the fault. -/
def NotBytes.message (fault : NotBytes) : String :=
  "Source must be bytes, got " ++ fault.typeName

/-- The bytes of a source that is given as a value. -/
def sourceBytes : Data.Value → Except NotBytes Bytes
  | .binary bytes => .ok bytes
  | other => .error ⟨other.typeName⟩

/-- Parse the bytes of a source. -/
def parseBytes (parse : Bytes → Node) (bytes : Bytes) : Step Node :=
  ⟨[parserMessage "Created tree-sitter C# parser",
    parserMessage s!"Parsed {bytes.length} bytes of C# code"], .ok (parse bytes)⟩

/-- Refuse a tree with an error, or warn about it, as the settings say. -/
def checkSyntax (settings : Settings) (path : String) (root : Node) : Step Unit :=
  if !root.hasError then pure ()
  else if settings.strictSyntax then .fail (.file ⟨path, .syntaxErrors root.errorCount⟩)
  else
    let count := root.errorCount
    .leave [mapperMessage .warning
      s!"File {path} contains syntax errors ({count} error nodes); mapping what parsed"]

/-- What is said at the end about the outline of a file. -/
def outlineMessage (path : String) : Option FileMap → Message
  | none => walkMessage s!"No public declarations in {path}"
  | some file => walkMessage s!"Mapped {file.members.length} top-level members from {path}"

/-- The outline of a tree under a path. -/
def outlineTree (settings : Settings) (path : String) (bytes : Bytes) (root : Node)
    (fault : Outline.Fault → MapFault) : Step (Option FileMap) := do
  let file ← (Outline.mapTree ⟨bytes, settings.contextualVisibility⟩ path root).reword
    noteMessage fault
  .leave [outlineMessage path file]
  return file

/-- The outline of a source in memory. -/
def mapSource (parse : Bytes → Node) (settings : Settings) (path : String) (bytes : Bytes) :
    Step (Option FileMap) := do
  let root ← parseBytes parse bytes
  checkSyntax settings path root
  outlineTree settings path bytes root .tree

/-- The bytes of a source file without a byte order mark, and their tree. -/
def readSource (sources : Sources) (path : String) : Step (Bytes × Node) :=
  match sources.store.read path with
  | .error .nullCharacter => .fail .nullCharacter
  | .error fault => .fail (.file ⟨path, .unreadable fault⟩)
  | .ok content => do
    let bytes := Text.Utf8.dropMark content
    match Text.Utf8.decode bytes with
    | .error fault => .fail (.file ⟨path, .notUtf8 fault⟩)
    | .ok _ =>
      let root ← parseBytes sources.parse bytes
      .leave [parserMessage s!"Successfully parsed file: {path}"]
      return (bytes, root)

/-- The path that a file has in an outline: from the root of its project, or only its name. -/
def recordedPath (store : Store) (root : Option String) (location : Location) : String :=
  match root with
  | none => location.name
  | some root => (store.locate root).relativeTo location

/-- The outline of a source file. -/
def mapFile (sources : Sources) (settings : Settings) (root : Option String) (path : String) :
    Step (Option FileMap) := do
  let location := sources.store.locate path
  let recorded := recordedPath sources.store root location
  let (bytes, tree) ← readSource sources location.text
  checkSyntax settings recorded tree
  outlineTree settings recorded bytes tree (.ofTree recorded)

end ApiOutline.Mapping
