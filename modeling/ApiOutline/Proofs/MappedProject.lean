import ApiOutline.Mapping.Project
import ApiOutline.Proofs.Outcome

/-!
# What a mapped project holds

What becomes of a source follows from mapping it on its own (`outcome_mapListed`), and a project is
mapped if something becomes of each source (`mapProject_eq_ok_iff`). So the files of a mapped project
are outlines of its sources, each the outline of the tree of its source, and its numbers are those
counted in its files. Nothing else enters a project: `of_mapProject`.
-/

namespace ApiOutline.Mapping

open Discovery (ProjectUnit)
open Files (Store)
open Outline (FileMap Project countFiles)

variable {sources : Sources} {settings : Settings} {root path : String} {file : FileMap}

/-- The outline of a source file is that of a tree, under the path recorded for the file. -/
theorem mapTree_of_mapFile {root : Option String}
    (h : (mapFile sources settings root path).outcome = .ok (some file)) :
    ∃ setting tree, (Outline.mapTree setting
      (recordedPath sources.store root (sources.store.locate path)) tree).outcome =
        .ok (some file) := by
  simp only [mapFile, outlineTree, Traced.outcome_bind, Traced.outcome_reword,
    Outcome.except_bind_eq_ok] at h
  obtain ⟨⟨bytes, tree⟩, -, -, -, outline, houtline, -, -, h⟩ := h
  cases h
  exact ⟨_, tree, Outcome.mapError_eq_ok.1 houtline⟩

/-- What becomes of a file depends on its outline and on the path listed for it if it has none. -/
theorem mapListed_congr {others : Sources}
    (hfile : mapFile sources settings (some root) path = mapFile others settings (some root) path)
    (hfailed : failedPath sources.store root path = failedPath others.store root path) :
    mapListed sources settings root path = mapListed others settings root path := by
  -- `delta` opens the definition without its equation, which is slow to prove.
  delta mapListed
  simp only [hfile, hfailed]

/-- The path under which a file is listed that is left out. -/
def listedPath (store : Store) (root path : String) : String :=
  if path.isEmpty then path else recordedPath store (some root) (store.locate path)

/-- A file that is left out always has a path under which it is listed. -/
theorem outcome_failedPath (store : Store) (root path : String) :
    (failedPath store root path).outcome = .ok (listedPath store root path) := by
  unfold failedPath listedPath
  split
  · rfl
  · rfl

/-- What becomes of a file of a project, by the outcome of mapping it on its own. -/
def asListed (listed : String) : Except MapFault (Option FileMap) → Except MapFault FileOutcome
  | .ok none => .ok .empty
  | .ok (some file) => .ok (.mapped file)
  | .error (.file _) => .ok (.failed listed)
  | .error fault => .error fault

/-- What becomes of a file follows from mapping it on its own. -/
theorem outcome_mapListed (sources : Sources) (settings : Settings) (root path : String) :
    (mapListed sources settings root path).outcome =
      asListed (listedPath sources.store root path)
        (mapFile sources settings (some root) path).outcome := by
  -- `delta` opens the definition without its equation, which is slow to prove.
  delta mapListed
  simp only
  split
  · next hstep => rw [hstep, asListed]
  · next file hstep => rw [hstep, asListed]
  · -- A fault of the file is noted, and the file is left out.
    next fault hstep =>
    rw [hstep, asListed]
    simp only [Traced.outcome_bind, Traced.outcome_leave, outcome_failedPath]
    rfl
  · next fault hother hstep =>
    rw [hstep]
    cases fault with
    | file fault => exact absurd rfl (hother fault)
    | tree fault => rfl
    | nullCharacter => rfl

/-- A file listed as mapped has an outline. -/
theorem mapFile_of_mapListed
    (h : (mapListed sources settings root path).outcome = .ok (.mapped file)) :
    (mapFile sources settings (some root) path).outcome = .ok (some file) := by
  rw [outcome_mapListed] at h
  unfold asListed at h
  split at h
  · cases h
  · next found hfound =>
    cases h
    exact hfound
  · cases h
  · cases h

/-- A file has an outline if it is mapped. -/
theorem FileOutcome.file?_eq_some_iff {outcome : FileOutcome} :
    outcome.file? = some file ↔ outcome = .mapped file := by
  cases outcome <;> simp [FileOutcome.file?]

/-- A file is listed as left out if it failed. -/
theorem FileOutcome.failed?_eq_some_iff {outcome : FileOutcome} {listed : String} :
    outcome.failed? = some listed ↔ outcome = .failed listed := by
  cases outcome <;> simp [FileOutcome.failed?]

/-- Files are mapped if something becomes of each of them, and then that is what is listed. -/
theorem mapAll_eq_ok_iff {paths : List String} {outcomes : List FileOutcome} :
    (mapAll sources settings root paths).outcome = .ok outcomes ↔
      ∃ fate : String → FileOutcome,
        (∀ path ∈ paths, (mapListed sources settings root path).outcome = .ok (fate path)) ∧
          outcomes = paths.map fate := by
  -- Nothing becomes of a file differently the second time, so its path gives what becomes of it.
  let fate : String → FileOutcome := fun path =>
    ((mapListed sources settings root path).outcome.toOption).getD .empty
  have hfate : ∀ {path outcome}, (mapListed sources settings root path).outcome = .ok outcome →
      fate path = outcome := by
    intro path outcome h
    simp only [fate, h, Except.toOption, Option.getD_some]
  constructor
  · intro h
    refine ⟨fate, ?_⟩
    induction paths generalizing outcomes with
    | nil =>
      cases h
      simp
    | cons path paths ih =>
      simp only [mapAll, Traced.outcome_bind, Outcome.except_bind_eq_ok] at h
      obtain ⟨first, hfirst, others, hothers, h⟩ := h
      obtain ⟨hpaths, rfl⟩ := ih hothers
      cases h
      have heq := hfate hfirst
      rw [List.forall_mem_cons, List.map_cons, heq]
      exact ⟨⟨hfirst, hpaths⟩, rfl⟩
  · rintro ⟨fate, hpaths, rfl⟩
    induction paths with
    | nil => rfl
    | cons path paths ih =>
      obtain ⟨hfirst, hothers⟩ := List.forall_mem_cons.1 hpaths
      simp only [mapAll, Traced.outcome_bind, Traced.outcome_pure, hfirst, ih hothers]
      rfl

/-- A project is mapped if something becomes of each of its files, and then it has what is left. -/
theorem mapProject_eq_ok_iff {projectUnit : ProjectUnit} {project : Project} :
    (mapProject sources settings projectUnit).outcome = .ok project ↔
      ∃ fate : String → FileOutcome,
        (∀ path ∈ projectUnit.sourceFiles,
          (mapListed sources settings projectUnit.root path).outcome = .ok (fate path)) ∧
        project =
          { name := projectUnit.name
            files := projectUnit.sourceFiles.filterMap fun path => (fate path).file?
            counts := countFiles (projectUnit.sourceFiles.filterMap fun path => (fate path).file?)
            failedFiles := projectUnit.sourceFiles.filterMap fun path => (fate path).failed? } := by
  simp only [mapProject, Traced.outcome_bind, Traced.outcome_leave, Traced.outcome_pure,
    Outcome.except_bind_eq_ok, mapAll_eq_ok_iff]
  constructor
  · rintro ⟨outcomes, ⟨fate, hpaths, rfl⟩, -, -, h⟩
    refine ⟨fate, hpaths, ?_⟩
    rw [← Except.ok.inj h]
    simp only [List.filterMap_map]
    rfl
  · -- The files are mapped with these fates, and nothing else can stop the project.
    rintro ⟨fate, hpaths, rfl⟩
    refine ⟨_, ⟨fate, hpaths, rfl⟩, (), trivial, ?_⟩
    simp only [List.filterMap_map]
    rfl

/-- A mapped project has the name of its unit, files that are outlines of its sources, and the numbers
of these files. -/
theorem of_mapProject {projectUnit : ProjectUnit} {project : Project}
    (h : (mapProject sources settings projectUnit).outcome = .ok project) :
    project.name = projectUnit.name ∧ project.counts = countFiles project.files ∧
      ∀ file ∈ project.files, ∃ path ∈ projectUnit.sourceFiles,
        (mapFile sources settings (some projectUnit.root) path).outcome = .ok (some file) := by
  obtain ⟨fate, hfates, rfl⟩ := mapProject_eq_ok_iff.1 h
  refine ⟨rfl, rfl, fun file hfile => ?_⟩
  obtain ⟨path, hpath, hsome⟩ := List.mem_filterMap.1 hfile
  refine ⟨path, hpath, mapFile_of_mapListed ?_⟩
  rw [hfates path hpath, FileOutcome.file?_eq_some_iff.1 hsome]

end ApiOutline.Mapping
