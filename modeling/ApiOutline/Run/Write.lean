import ApiOutline.Artifact.Document
import ApiOutline.Artifact.Listing
import ApiOutline.Files.Write
import ApiOutline.Settings.Basic

/-!
# Writing artifacts and reports

The artifact of a project is a file with the name of the project in the output directory. The report
of a run is a JSON document with sorted keys in plain ASCII, named for the run. Neither is written if a
number in it has too many digits, and then nothing is touched.
-/

namespace ApiOutline.Run

open Files (Store StoreFault WriteFaults joinPaths)
open Number (Unwritable)
open Outline (Project)
open Settings (OutputFormat)

/-- An artifact that could not be written, and why. -/
structure ArtifactFault where
  path : String
  fault : StoreFault
deriving DecidableEq, Repr

/-- Why the artifact could not be written, in the words of the store as it was before. -/
def ArtifactFault.reason (before : Store) (fault : ArtifactFault) : String :=
  fault.fault.message (before.writeSubject fault.path)

/-- The text of a fault. -/
def ArtifactFault.message (before : Store) (fault : ArtifactFault) : String :=
  fault.path ++ ": " ++ fault.reason before

/-- Why a project is not written. -/
inductive ProjectFault where
  /-- A number of the project has more digits than are written. -/
  | unwritable
  | artifact (fault : ArtifactFault)
deriving DecidableEq, Repr

/-- A project in a format. -/
def render (format : OutputFormat) (project : Project) : Except Unwritable String :=
  match format with
  | .text => Artifact.renderText project
  | .json => Artifact.renderJson project

/-- The path of an artifact. -/
def artifactPath (outputDir name extension : String) : String :=
  joinPaths outputDir (name ++ "." ++ extension)

/-- Write the text of an artifact. -/
def writeArtifact (store : Store) (faults : WriteFaults) (content outputDir name extension : String) :
    Except StoreFault String × Store :=
  store.writeText faults (artifactPath outputDir name extension) content

/-- The path of the artifact of a project. -/
def projectPath (settings : Settings) (project : Project) : String :=
  artifactPath settings.outputDir project.name settings.outputFormat.extension

/-- Write the artifact of a project. -/
def writeProject (store : Store) (faults : WriteFaults) (settings : Settings) (project : Project) :
    Except ProjectFault String × Store :=
  match render settings.outputFormat project with
  | .error _ => (.error .unwritable, store)
  | .ok content =>
    let (outcome, store) := store.writeText faults (projectPath settings project) content
    (outcome.mapError fun fault => .artifact ⟨projectPath settings project, fault⟩, store)

/-- The report with a field, unless it has one of that name. -/
def withDefault (key value : String) (report : List (String × Json)) : List (String × Json) :=
  if (Json.field? key report).isSome then report else report ++ [(key, .str value)]

/-- Reports are plain ASCII and put every item on a line of its own. -/
def reportStyle : Json.Style := ⟨true, true⟩

/-- The fields of a written report: its own and, unless it has them, the run and the time. -/
def reportFields (report : List (String × Json)) (runId timestamp : String) :
    List (String × Json) :=
  withDefault "timestamp_utc" timestamp (withDefault "run_id" runId report)

/-- The text of a report, in the order of the keys, if its numbers can be written. -/
def reportText (report : List (String × Json)) (runId timestamp : String) :
    Except Unwritable String :=
  ((Json.obj (reportFields report runId timestamp)).sorted.dump reportStyle).map (· ++ "\n")

/-- Why a report is not written. -/
inductive ReportFault where
  /-- A number of the report has more digits than are written. -/
  | unwritable
  | store (fault : StoreFault)
deriving DecidableEq, Repr

/-- The path of a report. -/
def reportPath (outputDir runId : String) : String :=
  joinPaths outputDir (runId ++ ".json")

/-- Write the report of a run. Nothing is touched for a report that has no text. -/
def writeReport (store : Store) (faults : WriteFaults) (report : List (String × Json))
    (runId timestamp outputDir : String) : Except ReportFault String × Store :=
  match reportText report runId timestamp with
  | .error _ => (.error .unwritable, store)
  | .ok content =>
    let (outcome, store) := store.writeText faults (reportPath outputDir runId) content
    (outcome.mapError .store, store)

end ApiOutline.Run
