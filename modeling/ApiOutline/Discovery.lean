import ApiOutline.Files.Store
import ApiOutline.Journal.Record
import ApiOutline.Traced

/-!
# Discovery of projects

A project is a directory with a project file; its sources are the source files below that directory.
Hidden directories and those on the list of excluded names are not looked into. Everything found is
in the order of its path text. A tree without any project file is one project of its own.
-/

namespace ApiOutline.Discovery

open Files (Entry Location Store entriesBelow)
open Journal (Message Level)

/-- A project to map. -/
structure ProjectUnit where
  name : String
  /-- The directory of the project. -/
  root : String
  /-- The paths of its sources. -/
  sourceFiles : List String
deriving DecidableEq, Repr

/-- Why no project is found. -/
inductive DiscoveryFault where
  /-- There is no directory at the path. -/
  | notDirectory (path : String)
  /-- No project file is below the path. -/
  | noProjects (path : String)
deriving DecidableEq, Repr

/-- The suffix of source files. -/
def sourceSuffix : String := ".cs"

/-- The suffix of project files. -/
def projectSuffix : String := ".csproj"

/-- The name of a project without a project file. -/
def implicitName : String := "codebase"

/-- The text of a fault. -/
def DiscoveryFault.message : DiscoveryFault → String
  | .notDirectory path => "Directory not found: " ++ path
  | .noProjects path => "No " ++ projectSuffix ++ " files found under " ++ path

/-- A message of discovery. -/
def message (level : Level) (text : String) : Message :=
  ⟨level, "codemap.discovery", text⟩

/-- Whether a directory of the given name is looked into. -/
def isEntered (excluded : List String) (name : String) : Bool :=
  name.toList.head? ≠ some '.' && !excluded.contains name

/-- Whether an entry is a file with the given suffix. -/
def hasSuffix (suffix : String) (found : List String × Entry) : Bool :=
  found.2.isFile && Files.suffix (found.1.getLast?.getD "") = suffix

/-- The files with a suffix below a location, in the order of their path texts. -/
def filesBelow (store : Store) (suffix : String) (excluded : List String) (location : Location) :
    List Location :=
  let found := (entriesBelow (isEntered excluded) ((store.directory? location.parts).getD [])).filter
    (hasSuffix suffix)
  (found.map fun entry => { location with parts := location.parts ++ entry.1 : Location }).mergeSort
    fun a b => a.text ≤ b.text

/-- The source files below a location. -/
def sourcesBelow (store : Store) (excluded : List String) (location : Location) : List String :=
  (filesBelow store sourceSuffix excluded location).map Location.text

/-- The message about the source files that were found. -/
def sourcesFound (count : Nat) (path : String) : Message :=
  message .debug s!"Found {count} C# files in {path}"

/-- Find the source files below a path. -/
def findSources (store : Store) (excluded : List String) (path : String) :
    Traced Message DiscoveryFault (List String) :=
  let location := store.locate path
  let files := sourcesBelow store excluded location
  ⟨[sourcesFound files.length location.text], .ok files⟩

/-- The project of a project file. -/
def unitOf (store : Store) (excluded : List String) (projectFile : Location) : ProjectUnit where
  name := (Files.splitSuffix projectFile.name).1
  root := projectFile.parent.text
  sourceFiles := sourcesBelow store excluded projectFile.parent

/-- Find the projects below a path, of which there has to be one. -/
def findUnits (store : Store) (excluded : List String) (path : String) :
    Traced Message DiscoveryFault (List ProjectUnit) :=
  let location := store.locate path
  if (store.directory? location.parts).isNone then .fail (.notDirectory location.text)
  else
    match filesBelow store projectSuffix excluded location with
    | [] => .fail (.noProjects location.text)
    | projectFiles =>
      let units := projectFiles.map (unitOf store excluded)
      ⟨units.map fun u => sourcesFound u.sourceFiles.length u.root, .ok units⟩

/-- Find the projects below a path. If there is no project file, all sources below the path are one
project. -/
def findProjects (store : Store) (excluded : List String) (path : String) :
    Traced Message DiscoveryFault (List ProjectUnit) :=
  let location := store.locate path
  let units := findUnits store excluded path
  match units.outcome with
  | .error (.noProjects missing) => do
    let warning := (DiscoveryFault.noProjects missing).message ++
      "; scanning the whole directory as one project"
    .leave (units.notes ++ [message .warning warning])
    let files ← findSources store excluded path
    return [⟨implicitName, location.text, files⟩]
  | .error fault => ⟨units.notes, .error fault⟩
  | .ok found =>
    ⟨units.notes ++ [message .info s!"Found {found.length} project(s) in {location.text}"], .ok found⟩

end ApiOutline.Discovery
