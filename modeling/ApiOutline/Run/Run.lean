import ApiOutline.Mapping.Project
import ApiOutline.Run.Result
import ApiOutline.Run.Write

/-!
# A run

A run finds the projects below a root, maps each one and writes its artifact. Projects without any
outline have no artifact, and an artifact that cannot be written is reported and does not stop the
rest. Finding, mapping and writing are phases of the journal, and each is left again, also at a fault.
-/

namespace ApiOutline.Run

open Discovery (DiscoveryFault ProjectUnit)
open Files (Store StoreFault WriteFaults)
open Journal (Message Level)
open Mapping (MapFault Sources mapperMessage)
open Outline (Project)
open Syntax (Node)
open Text (Bytes)

/-- What a run works on. -/
structure World where
  store : Store
  journal : Journal := {}

/-- Why a run stops. -/
inductive RunFault where
  | discovery (fault : DiscoveryFault)
  | mapping (fault : MapFault)
  /-- An artifact has a path that is not one. -/
  | nullCharacter
  /-- A number of an artifact or of the totals has more digits than are written. -/
  | unwritable
deriving DecidableEq, Repr

/-- Say a message. -/
def World.say (world : World) (message : Message) : World :=
  { world with journal := world.journal.say message }

/-- Take a step inside a phase: its notes are said there, and the phase is left. -/
def World.during {ε α : Type} (world : World) (phase : String) (step : Traced Message ε α) :
    Except ε α × World :=
  (step.outcome, { world with journal := ((world.journal.enter phase).sayAll step.notes).leave })

/-- Write the artifact of a project in its phase. A failure is said there, and the path is kept. -/
def writeMapped (settings : Settings) (result : RunResult) (project : Project) (world : World) :
    Except RunFault RunResult × World :=
  let (outcome, store) := writeProject world.store .nowhere settings project
  let after := { world with store }
  match outcome with
  | .error .unwritable => (.error .unwritable, after)
  | .error (.artifact ⟨path, fault⟩) =>
    if fault = .nullCharacter then (.error .nullCharacter, after)
    else
      let reason := (ArtifactFault.mk path fault).reason world.store
      let failed := mapperMessage .error s!"Failed to write artifact {path}: {reason}"
      let step : Traced Message RunFault RunResult :=
        ⟨[failed], .ok { result with failedWrites := result.failedWrites ++ [path] }⟩
      after.during "write" step
  | .ok path =>
    let result := { result with
      summary := result.summary.add project.totals
      artifacts := result.artifacts ++ [path] }
    (.ok result,
      after.say (mapperMessage .info s!"{project.name}: {project.files.length} files -> {path}"))

/-- Map a project in its phase and write its artifact, if it has any outline. -/
def runUnit (parse : Bytes → Node) (settings : Settings) (result : RunResult)
    (projectUnit : ProjectUnit) (world : World) : Except RunFault RunResult × World :=
  let mapped := Mapping.mapProject ⟨world.store, parse⟩ settings projectUnit
  match world.during ("map:" ++ projectUnit.name) mapped with
  | (.error fault, world) => (.error (.mapping fault), world)
  | (.ok project, world) =>
    let failed := project.failedFiles.map fun path => projectUnit.name ++ "/" ++ path
    let result := { result with failedFiles := result.failedFiles ++ failed }
    if project.files.isEmpty then
      (.ok result,
        world.say (mapperMessage .info
          s!"Skipping {projectUnit.name}: no public declarations found"))
    else writeMapped settings result project world

/-- Map and write projects one after another. -/
def runUnits (parse : Bytes → Node) (settings : Settings) :
    List ProjectUnit → RunResult → World → Except RunFault RunResult × World
  | [], result, world => (.ok result, world)
  | projectUnit :: units, result, world =>
    match runUnit parse settings result projectUnit world with
    | (.error fault, world) => (.error fault, world)
    | (.ok result, world) => runUnits parse settings units result world

/-- Map every project below a root and write its artifact. -/
def run (parse : Bytes → Node) (settings : Settings) (root : String) (world : World) :
    Except RunFault RunResult × World :=
  let location := world.store.locate root
  if (world.store.directory? location.parts).isNone then
    (.error (.discovery (.notDirectory location.text)), world)
  else
    let found := Discovery.findProjects world.store settings.excludeDirs location.text
    match world.during "discover" found with
    | (.error fault, world) => (.error (.discovery fault), world)
    | (.ok units, world) =>
      match runUnits parse settings units {} world with
      | (.error fault, world) => (.error fault, world)
      | (.ok result, world) =>
        match summaryLine result.summary with
        | .error _ => (.error .unwritable, world)
        | .ok line => (.ok result, world.say (mapperMessage .info line))

end ApiOutline.Run
