import ApiOutline.Outline.Member
import ApiOutline.Settings.Basic

/-!
# The result of a run

What a run has written and what it could not map or write, with the totals of all projects written.
-/

namespace ApiOutline.Run

open Number (intText isWritable Unwritable)
open Outline (RunSummary)

/-- Whether the totals of a run can be written. -/
def summaryWritable (summary : RunSummary) : Bool :=
  isWritable summary.projects && isWritable summary.files && isWritable summary.counts.namespaces &&
    isWritable summary.counts.types && isWritable summary.counts.methods

/-- The totals of a run as one line, if they can be written. -/
def summaryLine (summary : RunSummary) : Except Unwritable String :=
  if summaryWritable summary then
    .ok ("Mapped " ++ intText summary.projects ++ " project(s): " ++ intText summary.files ++
      " files, " ++ intText summary.counts.namespaces ++ " namespaces, " ++
      intText summary.counts.types ++ " types, " ++ intText summary.counts.methods ++ " methods")
  else .error {}

/-- The document of the totals of a run. -/
def summaryDocument (summary : RunSummary) : Json :=
  .obj [("projects", .int summary.projects), ("files", .int summary.files),
    ("namespaces", .int summary.counts.namespaces), ("types", .int summary.counts.types),
    ("methods", .int summary.counts.methods)]

/-- The outcome of a run. -/
structure RunResult where
  summary : RunSummary := {}
  /-- Paths of the artifacts written. -/
  artifacts : List String := []
  /-- Files that could not be mapped, each after the name of its project. -/
  failedFiles : List String := []
  /-- Paths of the artifacts that could not be written. -/
  failedWrites : List String := []
deriving DecidableEq, Repr

/-- The fields of the report of a run. -/
def RunResult.report (result : RunResult) (settings : Settings) : List (String × Json) :=
  [("summary", summaryDocument result.summary), ("config", settings.document),
    ("artifacts", .arr (result.artifacts.map .str)),
    ("failed_files", .arr (result.failedFiles.map .str)),
    ("failed_writes", .arr (result.failedWrites.map .str))]

end ApiOutline.Run
