import ApiOutline.Discovery
import ApiOutline.Mapping.Source

/-!
# Mapping a project

Every source file of a project is mapped on its own. A file that cannot be mapped is reported and
left out, and a file without visible declarations is dropped; neither affects the others.
-/

namespace ApiOutline.Mapping

open Discovery (ProjectUnit)
open Files (Store)
open Journal (Message)
open Outline (FileMap Project countFiles)

/-- What becomes of a source file of a project. -/
inductive FileOutcome where
  | mapped (file : FileMap)
  /-- No declaration is visible. -/
  | empty
  /-- The file is left out; its path in the project is given. -/
  | failed (path : String)

/-- The path under which a file that is left out is listed. -/
def failedPath (store : Store) (root path : String) : Step String :=
  if path.isEmpty then do
    .leave [mapperMessage .warning
      s!"Cannot compute relative path for {path} from {root}. Using absolute path."]
    return path
  else pure (recordedPath store (some root) (store.locate path))

/-- Map a source file of a project; a fault of the file is reported and becomes its outcome. -/
def mapListed (sources : Sources) (settings : Settings) (root path : String) : Step FileOutcome :=
  let step := mapFile sources settings (some root) path
  match step.outcome with
  | .ok none => ⟨step.notes, .ok .empty⟩
  | .ok (some file) => ⟨step.notes, .ok (.mapped file)⟩
  | .error (.file fault) => do
    .leave (step.notes ++
      [mapperMessage .error s!"Error parsing {fault.path}: {fault.reason}"])
    let listed ← failedPath sources.store root path
    return .failed listed
  | .error fault => ⟨step.notes, .error fault⟩

/-- Map source files of a project one after another. -/
def mapAll (sources : Sources) (settings : Settings) (root : String) :
    List String → Step (List FileOutcome)
  | [] => pure []
  | path :: paths => do
    let outcome ← mapListed sources settings root path
    let outcomes ← mapAll sources settings root paths
    return outcome :: outcomes

/-- The outline of a file, if it has one. -/
def FileOutcome.file? : FileOutcome → Option FileMap
  | .mapped file => some file
  | _ => none

/-- The path of a file that is left out. -/
def FileOutcome.failed? : FileOutcome → Option String
  | .failed path => some path
  | _ => none

/-- The outlines of the files of a project. -/
def mapProject (sources : Sources) (settings : Settings) (projectUnit : ProjectUnit) :
    Step Project := do
  let outcomes ← mapAll sources settings projectUnit.root projectUnit.sourceFiles
  let files := outcomes.filterMap FileOutcome.file?
  let count := projectUnit.sourceFiles.length
  .leave [mapperMessage .info s!"Mapped {projectUnit.name}: {files.length} of {count} files"]
  return {
    name := projectUnit.name
    files
    counts := countFiles files
    failedFiles := outcomes.filterMap FileOutcome.failed? }

end ApiOutline.Mapping
