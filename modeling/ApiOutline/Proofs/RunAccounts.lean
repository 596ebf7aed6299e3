import ApiOutline.Proofs.Forest
import ApiOutline.Proofs.KeptArtifacts
import Mathlib.Algebra.Ring.Int.Defs

/-!
# What the result of a run says

A run goes through its projects once and keeps four accounts: the totals and the paths of the artifacts it
writes, the files it could not map and the artifacts it could not write. What stands in each at the end is said
in terms of the projects and their fates alone. What a run writes never changes the outline of a project
it comes to later, so the outlines are those in the store before the run; the fate of a project is decided in
the store in which the run comes to it.
-/

namespace ApiOutline.Run

open Discovery (ProjectUnit IsSource)
open Files (Store)
open Mapping (mapProject)
open Outline (Project RunSummary Counts countFiles)
open Syntax (Node parseSample namespaceSource)
open Text (Bytes)

/-! ## Totals -/

variable {parse : Bytes → Node} {settings : Settings} {base store last : Store}

/-! ## Projects and their fates -/

/-- Visits keep the sources. -/
theorem Visits.keepsSources {visits : List Visit} (h : Visits parse settings store visits last)
    (hbase : KeepsSources base store)
    (hnames : ∀ visit ∈ visits, '/' ∉ visit.projectUnit.name.toList) : KeepsSources base last := by
  induction h with
  | nil store => exact hbase
  | cons first _ ih =>
    rw [List.forall_mem_cons] at hnames
    exact ih (first.keepsSources hbase hnames.1) hnames.2

/-- A store with a project that can be written, one whose artifact has the place of a directory, and one
without any file that can be mapped. Two of its files are not text. -/
def mixedProjects : Store where
  root := [("a", .dir [("P.csproj", .file []), ("A.cs", .file namespaceSource), ("B.cs", .file [255])]),
    ("b", .dir [("Q.csproj", .file []), ("C.cs", .file namespaceSource)]),
    ("c", .dir [("R.csproj", .file []), ("D.cs", .file [255])]),
    ("codebase_ast", .dir [("Q.txt", .dir [])])]
  workingDir := ⟨false, []⟩

/-- The projects in the store. -/
def mixedUnits : List ProjectUnit :=
  [⟨"P", "/a", ["/a/A.cs", "/a/B.cs"]⟩, ⟨"Q", "/b", ["/b/C.cs"]⟩, ⟨"R", "/c", ["/c/D.cs"]⟩]

/-- What a run over them says. -/
def mixedResult : RunResult where
  summary := ⟨1, 1, ⟨1, 0, 0⟩⟩
  artifacts := ["codebase_ast/P.txt"]
  failedFiles := ["P/B.cs", "R/D.cs"]
  failedWrites := ["codebase_ast/Q.txt"]

/-- The three projects are found. -/
theorem findProjects_mixedProjects :
    (Discovery.findProjects mixedProjects ["bin", "obj"] "/").outcome = .ok mixedUnits := by
  -- Each listing is sorted, which is checked apart from finding its files.
  have hfiles : Discovery.filesBelow mixedProjects Discovery.projectSuffix ["bin", "obj"]
      (mixedProjects.locate "/") =
        [⟨false, ["a", "P.csproj"]⟩, ⟨false, ["b", "Q.csproj"]⟩, ⟨false, ["c", "R.csproj"]⟩] :=
    Discovery.filesBelow_of_sorted (by decide +kernel) (by decide)
  have hfirst : Discovery.filesBelow mixedProjects Discovery.sourceSuffix ["bin", "obj"]
      (Files.Location.parent ⟨false, ["a", "P.csproj"]⟩) =
        [⟨false, ["a", "A.cs"]⟩, ⟨false, ["a", "B.cs"]⟩] :=
    Discovery.filesBelow_of_sorted (by decide +kernel) (by decide)
  have hsecond : Discovery.filesBelow mixedProjects Discovery.sourceSuffix ["bin", "obj"]
      (Files.Location.parent ⟨false, ["b", "Q.csproj"]⟩) = [⟨false, ["b", "C.cs"]⟩] :=
    Discovery.filesBelow_of_sorted (by decide +kernel) (by decide)
  have hthird : Discovery.filesBelow mixedProjects Discovery.sourceSuffix ["bin", "obj"]
      (Files.Location.parent ⟨false, ["c", "R.csproj"]⟩) = [⟨false, ["c", "D.cs"]⟩] :=
    Discovery.filesBelow_of_sorted (by decide +kernel) (by decide)
  rw [Discovery.findProjects_of_filesBelow (List.cons_ne_nil _ _) (by decide +kernel) hfiles]
  simp only [List.map_cons, List.map_nil, Discovery.unitOf, Discovery.sourcesBelow, hfirst, hsecond,
    hthird]
  decide +kernel

/-- A run over the three projects returns, whatever was said before it. -/
theorem run_mixedProjects_after (journal : Journal) : ∃ after,
    run parseSample {} "/" ⟨mixedProjects, journal⟩ = (.ok mixedResult, after) := by
  have hroot : (mixedProjects.locate "/").text = "/" := by decide +kernel
  have hdir : (mixedProjects.directory? (mixedProjects.locate "/").parts).isSome = true := by
    decide +kernel
  -- The steps are computed with an empty journal, which makes no difference.
  have hunits : (runUnits parseSample {} mixedUnits {} ⟨mixedProjects, {}⟩).1 = .ok mixedResult := by
    decide +kernel
  have hfound := findProjects_mixedProjects
  rw [← hroot] at hfound
  obtain ⟨after, hrun, -⟩ :=
    @run_of_runUnits parseSample {} "/" mixedResult mixedProjects journal mixedUnits hdir hfound
      hunits (by decide +kernel)
  exact ⟨after, hrun⟩

/-- In particular if nothing was said. -/
theorem run_mixedProjects : ∃ after,
    run parseSample {} "/" ⟨mixedProjects, {}⟩ = (.ok mixedResult, after) :=
  run_mixedProjects_after {}

/-- The names in the store are proper. -/
theorem mixedProjects_wellFormed : mixedProjects.WellFormed := by
  decide +kernel

end ApiOutline.Run
