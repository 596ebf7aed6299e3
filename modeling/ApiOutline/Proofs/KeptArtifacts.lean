import ApiOutline.Proofs.ParsedTrees
import ApiOutline.Proofs.RunTrace
import Mathlib.Data.List.Nodup

/-!
# Which artifacts a run keeps

Nothing that a run writes is a source, so every project is mapped as if nothing had been written
(`mapProject_of_keepsSources`). An artifact is put at a place that depends on the name of its project
alone. So what a run has written for a project is there at its end exactly until it writes the artifact of
another project of the same name, and all artifacts are kept if and only if the projects written have
different names.
-/

namespace ApiOutline.Run

open Discovery (ProjectUnit IsSource)
open Files (Store IsFile)
open Mapping (Sources mapFile mapListed mapAll mapProject)
open Outline (Project)
open Syntax (Node parseSample namespaceSource)
open Text (Bytes)

/-! ## Sources are kept -/

/-- Whether a store has the sources of another one, and grew from it. -/
structure KeepsSources (base store : Store) : Prop where
  grows : base.Grows store
  files : ∀ location, IsFile base Discovery.sourceSuffix location →
    store.sight? location.parts = base.sight? location.parts

variable {parse : Bytes → Node} {settings : Settings} {base store next last : Store}

/-- A store keeps its own sources. -/
theorem KeepsSources.refl (store : Store) : KeepsSources store store :=
  ⟨.refl store, fun _ _ => rfl⟩

/-- A source is read as before. -/
theorem read_of_keepsSources (h : KeepsSources base store) {path : String}
    (hsource : IsSource base path) :
    store.read (base.locate path).text = base.read (base.locate path).text := by
  obtain ⟨location, rfl, hfile⟩ := hsource
  obtain ⟨bytes, hbytes⟩ := hfile.file
  rw [Files.locate_text hfile.proper, Files.read_text hfile.proper hbytes,
    Files.read_text hfile.proper ((h.files location hfile).trans hbytes)]

/-- A source is mapped as before. -/
theorem mapListed_of_keepsSources (h : KeepsSources base store) {path : String}
    (hsource : IsSource base path) (root : String) :
    mapListed ⟨store, parse⟩ settings root path = mapListed ⟨base, parse⟩ settings root path := by
  have hfile : mapFile ⟨store, parse⟩ settings (some root) path =
      mapFile ⟨base, parse⟩ settings (some root) path := by
    simp only [mapFile, Mapping.readSource, Mapping.recordedPath, h.grows.locate,
      read_of_keepsSources h hsource]
  have hfailed : Mapping.failedPath store root path = Mapping.failedPath base root path := by
    simp only [Mapping.failedPath, Mapping.recordedPath, h.grows.locate]
  exact Mapping.mapListed_congr hfile hfailed

/-- A project is mapped as before. -/
theorem mapProject_of_keepsSources (h : KeepsSources base store) {projectUnit : ProjectUnit}
    (hsources : ∀ source ∈ projectUnit.sourceFiles, IsSource base source) :
    mapProject ⟨store, parse⟩ settings projectUnit =
      mapProject ⟨base, parse⟩ settings projectUnit := by
  -- File after file, and each of them is a source.
  have hall : ∀ paths : List String, (∀ source ∈ paths, IsSource base source) →
      mapAll ⟨store, parse⟩ settings projectUnit.root paths =
        mapAll ⟨base, parse⟩ settings projectUnit.root paths := by
    intro paths hpaths
    induction paths with
    | nil => rfl
    | cons path paths ih =>
      rw [List.forall_mem_cons] at hpaths
      rw [mapAll, mapAll, mapListed_of_keepsSources h hpaths.1, ih hpaths.2]
  rw [mapProject, mapProject, hall _ hsources]

/-- A visit changes a store as writing its artifact does, or not at all. -/
theorem Handles.store_eq {visit : Visit} (h : Handles parse settings store visit next) :
    next = store ∨
      next = (store.writeText .nowhere (visit.path settings) visit.text).2 := by
  -- A skipped visit writes nothing; the two other fates say what writing has done.
  obtain ⟨-, h⟩ := h
  split at h
  · exact .inl h.2
  · rw [h.2.2]
    exact .inr rfl
  · obtain ⟨-, -, fault, hwrite⟩ := h
    rw [hwrite]
    exact .inr rfl

/-- Directories stay directories at a visit. -/
theorem Handles.grows {visit : Visit} (h : Handles parse settings store visit next) :
    store.Grows next := by
  obtain hnext | hnext := h.store_eq
  · rw [hnext]
    exact .refl store
  · rw [hnext]
    exact Store.grows_writeText store .nowhere _ _

/-- The place of a source is not that of an artifact. -/
theorem ne_locate_path {visit : Visit} (hname : '/' ∉ visit.projectUnit.name.toList)
    {location : Files.Location} (hfile : IsFile base Discovery.sourceSuffix location)
    (store : Store) : location.parts ≠ (store.locate (visit.path settings)).parts := by
  intro heq
  rw [Visit.path, locate_artifactPath hname] at heq
  -- The last part of one is the name of a source, and that of the other is not.
  have hsuffix := hfile.suffix
  rw [Files.Location.name, heq, List.getLast?_concat, Option.getD_some] at hsuffix
  exact (suffix_artifactName _ _).1 hsuffix

/-- A visit keeps the sources. -/
theorem Handles.keepsSources {visit : Visit} (h : Handles parse settings store visit next)
    (hbase : KeepsSources base store) (hname : '/' ∉ visit.projectUnit.name.toList) :
    KeepsSources base next := by
  refine ⟨hbase.grows.trans h.grows, fun location hfile => ?_⟩
  obtain ⟨bytes, hbytes⟩ := hfile.file
  -- A source is no artifact, so it stays even where the artifact is written.
  have hstore := (hbase.files location hfile).trans hbytes
  obtain hnext | hnext := h.store_eq
  · rw [hnext]
    exact hbase.files location hfile
  · rw [hnext, Store.sight?_writeText_of_ne hstore (ne_locate_path hname hfile store), hbytes]

/-- A file stays as it is at a visit that does not write its artifact there. -/
theorem Handles.sight?_file {visit : Visit} (h : Handles parse settings store visit next)
    {p : List String} {bytes : Bytes} (hp : store.sight? p = some (.file bytes))
    (hne : visit.fate = .written → p ≠ (store.locate (visit.path settings)).parts) :
    next.sight? p = some (.file bytes) := by
  obtain ⟨-, h⟩ := h
  split at h
  · rw [h.2]
    exact hp
  · -- Writing changes the file at the place of the artifact alone.
    rename_i hfate
    have hkept : (store.writeText .nowhere (visit.path settings) visit.text).2.sight? p =
        some (.file bytes) := Store.sight?_writeText_of_ne hp (hne hfate)
    rwa [h.2.2] at hkept
  · -- A failed write changes no file at all.
    obtain ⟨-, -, fault, hwrite⟩ := h
    have hkept : (store.writeText .nowhere (visit.path settings) visit.text).2.sight? p =
        some (.file bytes) := Store.sight?_writeText_of_error hp (by rw [hwrite])
    rwa [hwrite] at hkept

/-! ## Visits one after another -/

namespace Visits

variable {visits before later : List Visit} {visit : Visit}

/-- Directories stay directories. -/
theorem grows (h : Visits parse settings store visits last) : store.Grows last := by
  induction h with
  | nil store => exact .refl store
  | cons first _ ih => exact first.grows.trans ih

/-- Every project is mapped as if nothing had been written before. -/
theorem mapProject_base (h : Visits parse settings store visits last)
    (hbase : KeepsSources base store)
    (hunits : ∀ visit ∈ visits, '/' ∉ visit.projectUnit.name.toList ∧
      ∀ source ∈ visit.projectUnit.sourceFiles, IsSource base source) :
    ∀ visit ∈ visits,
      (mapProject ⟨base, parse⟩ settings visit.projectUnit).outcome = .ok visit.project := by
  induction h with
  | nil store => simp
  | cons first _ ih =>
    rw [List.forall_mem_cons] at hunits ⊢
    refine ⟨?_, ih (first.keepsSources hbase hunits.1.1) hunits.2⟩
    rw [← mapProject_of_keepsSources hbase hunits.1.2]
    exact first.1

/-- A file stays as it is unless a visit writes its artifact there. -/
theorem sight?_file (h : Visits parse settings store visits last) {p : List String} {bytes : Bytes}
    (hp : store.sight? p = some (.file bytes))
    (hne : ∀ visit ∈ visits, visit.fate = .written →
      p ≠ (store.locate (visit.path settings)).parts) : last.sight? p = some (.file bytes) := by
  induction h with
  | nil store => exact hp
  | cons first _ ih =>
    rw [List.forall_mem_cons] at hne
    refine ih ?_ fun visit hvisit hwritten => ?_
    · exact first.sight?_file hp hne.1
    · rw [first.grows.locate]
      exact hne.2 visit hvisit hwritten

/-- Visits are those before a visit, the visit, and those after it. -/
theorem split (h : Visits parse settings store (before ++ visit :: later) last) :
    ∃ middle next, Visits parse settings store before middle ∧
      Handles parse settings middle visit next ∧ Visits parse settings next later last := by
  induction before generalizing store with
  | nil =>
    obtain _ | ⟨first, rest⟩ := h
    exact ⟨_, _, .nil _, first, rest⟩
  | cons other before ih =>
    obtain _ | ⟨first, rest⟩ := h
    obtain ⟨middle, next, hbefore, hvisit, hlater⟩ := ih rest
    exact ⟨middle, next, .cons first hbefore, hvisit, hlater⟩

end Visits

/-- Artifacts of projects with different names have different places. -/
theorem locate_path_ne {visit other : Visit} (hvisit : '/' ∉ visit.projectUnit.name.toList)
    (hother : '/' ∉ other.projectUnit.name.toList)
    (hne : other.projectUnit.name ≠ visit.projectUnit.name) (store : Store) :
    (store.locate (visit.path settings)).parts ≠ (store.locate (other.path settings)).parts := by
  -- Both places are in the same directory, and the names in it differ.
  rw [Visit.path, Visit.path, locate_artifactPath hvisit, locate_artifactPath hother, Ne,
    List.append_cancel_left_eq, List.singleton_inj, artifactName, artifactName]
  intro heq
  exact hne (by simpa using heq.symm)

/-- Whether a store has the artifact of a visit, with the outline of its project. -/
structure Visit.KeptIn (settings : Settings) (visit : Visit) (store : Store) : Prop where
  rendered : render settings.outputFormat visit.project = .ok visit.text
  read : store.read (visit.path settings) = .ok (Text.Utf8.ofString visit.text)

/-- What a visit writes is there at the end, unless a later visit of a project of the same name
writes. -/
theorem keptIn_of_visits {visit : Visit} {later : List Visit}
    (hvisit : Handles parse settings store visit next)
    (hlater : Visits parse settings next later last) (hwritten : visit.fate = .written)
    (hslash : ∀ other ∈ visit :: later, '/' ∉ other.projectUnit.name.toList)
    (hnames : ∀ other ∈ later, other.fate = .written →
      other.projectUnit.name ≠ visit.projectUnit.name) :
    visit.KeptIn settings last := by
  rw [List.forall_mem_cons] at hslash
  obtain ⟨-, hwrite⟩ := hvisit
  simp only [hwritten] at hwrite
  obtain ⟨-, hrendered, hwrite⟩ := hwrite
  obtain ⟨-, place, name, htarget, hfile⟩ := Store.exists_target_of_writeText
    (congrArg Prod.fst hwrite)
  rw [hwrite] at htarget hfile
  have hplace := htarget.locate
  -- Later artifacts have other names and so other places, and the file stays as it was written.
  have hlast : last.sight? (place ++ [name]) =
      some (.file (Text.Utf8.ofString visit.text)) := by
    refine hlater.sight?_file hfile fun other hother hfate => ?_
    rw [← hplace]
    exact locate_path_ne hslash.1 (hslash.2 other hother) (hnames other hother hfate) next
  have hmono := htarget.mono hlater.grows.workingDir hlater.grows.dirs (by simp [hlast])
  exact ⟨hrendered, hmono.read_eq hlast⟩

/-- The visits at which an artifact is written. -/
def writtenVisits (visits : List Visit) : List Visit :=
  visits.filter fun visit => visit.fate = .written

/-- A visit is among the written ones if it is a visit and its fate says so. -/
theorem mem_writtenVisits {visits : List Visit} {visit : Visit} :
    visit ∈ writtenVisits visits ↔ visit ∈ visits ∧ visit.fate = .written := by
  rw [writtenVisits, List.mem_filter, decide_eq_true_eq]

/-- Around a written visit, the written ones before and after it are found apart. -/
theorem writtenVisits_append_cons {visit : Visit} (h : visit.fate = .written)
    (before later : List Visit) :
    writtenVisits (before ++ visit :: later) =
      writtenVisits before ++ visit :: writtenVisits later := by
  simp [writtenVisits, h]

/-- The visits at which an artifact could not be written. -/
def failedVisits (visits : List Visit) : List Visit :=
  visits.filter fun visit => visit.fate = .failed

/-- What visits record, field by field: each adds its own part to what was there before. -/
theorem foldl_record (visits : List Visit) (result : RunResult) :
    visits.foldl (RunResult.record settings) result = {
      summary := (writtenVisits visits).foldl
        (fun summary visit => summary.add visit.project.totals) result.summary
      artifacts := result.artifacts ++ (writtenVisits visits).map (Visit.path settings)
      failedFiles := result.failedFiles ++ visits.flatMap fun visit =>
        visit.project.failedFiles.map fun path => visit.projectUnit.name ++ "/" ++ path
      failedWrites := result.failedWrites ++ (failedVisits visits).map (Visit.path settings) } := by
  induction visits generalizing result with
  | nil => simp [writtenVisits, failedVisits]
  | cons visit visits ih =>
    rw [List.foldl_cons, ih]
    cases hfate : visit.fate <;> simp [RunResult.record, writtenVisits, failedVisits, hfate]

/-- The artifacts of a run are those of the visits that are written. -/
theorem artifacts_foldl (visits : List Visit) (result : RunResult) :
    (visits.foldl (RunResult.record settings) result).artifacts =
      result.artifacts ++ (writtenVisits visits).map (Visit.path settings) := by
  rw [foldl_record]

/-- Artifacts have different paths if and only if their projects have different names. -/
theorem nodup_paths_iff {visits : List Visit}
    (hslash : ∀ visit ∈ visits, '/' ∉ visit.projectUnit.name.toList) :
    (visits.map (Visit.path settings)).Nodup ↔
      (visits.map fun visit => visit.projectUnit.name).Nodup := by
  have hpaths : visits.map (Visit.path settings) =
      (visits.map fun visit => visit.projectUnit.name).map fun name =>
        artifactPath settings.outputDir name settings.outputFormat.extension := by
    rw [List.map_map]
    rfl
  rw [hpaths]
  constructor
  · exact List.Nodup.of_map _
  · intro hnodup
    refine hnodup.map_on ?_
    intro name hname other hother heq
    obtain ⟨visit, hvisit, rfl⟩ := List.mem_map.1 hname
    obtain ⟨visit', hvisit', rfl⟩ := List.mem_map.1 hother
    exact artifactPath_injective (hslash visit hvisit) _ _ (hslash visit' hvisit') heq

/-- A run that returns maps each project that it finds as if it wrote nothing, and its artifacts are
those of the projects it writes, in order. At its end the artifact of a project it writes has the
outline of the project, unless a project of the same name is written later. So all artifacts have
different paths and each has the outline of its project if and only if the projects written have
different names. -/
theorem artifacts_kept_iff_names_differ (parse : Bytes → Node) (settings : Settings) (root : String)
    (world after : World) (result : RunResult) (hstore : world.store.WellFormed)
    (h : run parse settings root world = (.ok result, after)) :
    ∃ units visits, (Discovery.findProjects world.store settings.excludeDirs
        (world.store.locate root).text).outcome = .ok units ∧
      visits.map Visit.projectUnit = units ∧
      Visits parse settings world.store visits after.store ∧
      (∀ visit ∈ visits, (mapProject ⟨world.store, parse⟩ settings visit.projectUnit).outcome =
        .ok visit.project) ∧
      result.artifacts = (writtenVisits visits).map (Visit.path settings) ∧
      (∀ before visit later, visits = before ++ visit :: later → visit.fate = .written →
        (∀ other ∈ later, other.fate = .written →
          other.projectUnit.name ≠ visit.projectUnit.name) →
        visit.KeptIn settings after.store) ∧
      (result.artifacts.Nodup ∧
          (∀ visit ∈ writtenVisits visits, visit.KeptIn settings after.store) ↔
        ((writtenVisits visits).map fun visit => visit.projectUnit.name).Nodup) := by
  obtain ⟨units, visits, hfound, hunits, hvisits, rfl⟩ := visits_of_run h
  have hfacts : ∀ visit ∈ visits, '/' ∉ visit.projectUnit.name.toList ∧
      ∀ source ∈ visit.projectUnit.sourceFiles, IsSource world.store source := by
    intro visit hvisit
    exact Discovery.of_findProjects hstore hfound _ (hunits ▸ List.mem_map_of_mem hvisit)
  have hslash := fun visit hvisit => (hfacts visit hvisit).1
  have hartifacts := @artifacts_foldl settings visits {}
  rw [List.nil_append] at hartifacts
  -- Each visit is split off from those after it.
  have hread : ∀ before visit later, visits = before ++ visit :: later → visit.fate = .written →
      (∀ other ∈ later, other.fate = .written →
        other.projectUnit.name ≠ visit.projectUnit.name) →
      visit.KeptIn settings after.store := by
    rintro before visit later rfl hwritten hnames
    obtain ⟨middle, next, -, hvisit, hlater⟩ := hvisits.split
    exact keptIn_of_visits hvisit hlater hwritten
      (fun other hother => hslash other (List.mem_append_right _ hother)) hnames
  refine ⟨units, visits, hfound, hunits, hvisits, hvisits.mapProject_base (.refl _) hfacts,
    hartifacts, hread, ?_⟩
  have hnames : ∀ visit ∈ writtenVisits visits, '/' ∉ visit.projectUnit.name.toList :=
    fun visit hvisit => hslash visit (mem_writtenVisits.1 hvisit).1
  rw [hartifacts, nodup_paths_iff hnames]
  refine ⟨fun hkept => hkept.1, fun hnodup => ⟨hnodup, fun visit hvisit => ?_⟩⟩
  -- Where all names differ, no project written after a visit has the name of the visit.
  obtain ⟨hmem, hwritten⟩ := mem_writtenVisits.1 hvisit
  obtain ⟨before, later, rfl⟩ := List.append_of_mem hmem
  refine hread before visit later rfl hwritten fun other hother hfate heq => ?_
  rw [writtenVisits_append_cons hwritten, List.map_append, List.map_cons] at hnodup
  have hnot := (List.nodup_cons.1 (List.nodup_append.1 hnodup).2.1).1
  exact hnot (List.mem_map.2 ⟨other, mem_writtenVisits.2 ⟨hother, hfate⟩, heq⟩)

/-- A store with two projects of the same name, with one source each. -/
def twinProjects : Store where
  root := [("a", .dir [("P.csproj", .file []), ("A.cs", .file namespaceSource)]),
    ("b", .dir [("P.csproj", .file []), ("B.cs", .file namespaceSource)])]
  workingDir := ⟨false, []⟩

/-- What a run over the two projects says. -/
def twinResult : RunResult where
  summary := ⟨2, 2, ⟨2, 0, 0⟩⟩
  artifacts := ["codebase_ast/P.txt", "codebase_ast/P.txt"]

/-- Both projects are found. -/
theorem findProjects_twinProjects :
    (Discovery.findProjects twinProjects ["bin", "obj"] "/").outcome =
      .ok [⟨"P", "/a", ["/a/A.cs"]⟩, ⟨"P", "/b", ["/b/B.cs"]⟩] := by
  have hfiles : Discovery.filesBelow twinProjects Discovery.projectSuffix ["bin", "obj"]
      (twinProjects.locate "/") = [⟨false, ["a", "P.csproj"]⟩, ⟨false, ["b", "P.csproj"]⟩] :=
    Discovery.filesBelow_of_sorted (by decide +kernel) (by decide)
  have hfirst : Discovery.filesBelow twinProjects Discovery.sourceSuffix ["bin", "obj"]
      (Files.Location.parent ⟨false, ["a", "P.csproj"]⟩) = [⟨false, ["a", "A.cs"]⟩] :=
    Discovery.filesBelow_of_sorted (by decide +kernel) (by decide)
  have hsecond : Discovery.filesBelow twinProjects Discovery.sourceSuffix ["bin", "obj"]
      (Files.Location.parent ⟨false, ["b", "P.csproj"]⟩) = [⟨false, ["b", "B.cs"]⟩] :=
    Discovery.filesBelow_of_sorted (by decide +kernel) (by decide)
  rw [Discovery.findProjects_of_filesBelow (List.cons_ne_nil _ _) (by decide +kernel) hfiles]
  simp only [List.map_cons, List.map_nil, Discovery.unitOf, Discovery.sourcesBelow, hfirst, hsecond]
  decide +kernel

/-- A run over the two projects returns, and its store is that of the two steps. -/
theorem run_twinProjects : ∃ after,
    run parseSample {} "/" ⟨twinProjects, {}⟩ = (.ok twinResult, after) ∧
      after.store = (runUnits parseSample {} [⟨"P", "/a", ["/a/A.cs"]⟩, ⟨"P", "/b", ["/b/B.cs"]⟩] {}
        ⟨twinProjects, {}⟩).2.store := by
  -- The run is computed in parts, since sorting is no part of a computation in the logic.
  have hroot : (twinProjects.locate "/").text = "/" := by decide +kernel
  have hdir : (twinProjects.directory? (twinProjects.locate "/").parts).isSome = true := by
    decide +kernel
  have hunits : (runUnits parseSample {} [⟨"P", "/a", ["/a/A.cs"]⟩, ⟨"P", "/b", ["/b/B.cs"]⟩] {}
      ⟨twinProjects, {}⟩).1 = .ok twinResult := by
    decide +kernel
  have hfound := findProjects_twinProjects
  rw [← hroot] at hfound
  exact run_of_runUnits hdir hfound hunits (by decide +kernel)

/-- The names in the store are proper. -/
theorem twinProjects_wellFormed : twinProjects.WellFormed := by
  decide +kernel

/-- A run over the two projects returns, and two projects of the same name are written in it. -/
theorem twinProjects_not_kept : twinProjects.WellFormed ∧
    ∃ after visits, run parseSample {} "/" ⟨twinProjects, {}⟩ = (.ok twinResult, after) ∧
      Visits parseSample {} twinProjects visits after.store ∧
      ¬ ((writtenVisits visits).map fun visit => visit.projectUnit.name).Nodup := by
  obtain ⟨after, hrun, -⟩ := run_twinProjects
  obtain ⟨units, visits, -, -, hvisits, -, -, -, hkept⟩ :=
    artifacts_kept_iff_names_differ parseSample {} "/" _ after _ twinProjects_wellFormed hrun
  refine ⟨twinProjects_wellFormed, after, visits, hrun, hvisits, fun hnodup => ?_⟩
  exact absurd (hkept.2 hnodup).1 (by decide)

/-- Of two projects with the same name, both written, the artifact of the first one is lost. -/
theorem twinProjects_share_artifact : ∃ after project text,
    run parseSample {} "/" ⟨twinProjects, {}⟩ = (.ok twinResult, after) ∧
      ¬ twinResult.artifacts.Nodup ∧
      (mapProject ⟨twinProjects, parseSample⟩ {} ⟨"P", "/a", ["/a/A.cs"]⟩).outcome = .ok project ∧
      render .text project = .ok text ∧
      after.store.read "codebase_ast/P.txt" ≠ .ok (Text.Utf8.ofString text) := by
  obtain ⟨after, hrun, hstore⟩ := run_twinProjects
  -- The second artifact has another text, which is computed here.
  obtain ⟨project, hproject, hwritable, hread⟩ : ∃ project,
      (mapProject ⟨twinProjects, parseSample⟩ {} ⟨"P", "/a", ["/a/A.cs"]⟩).outcome = .ok project ∧
        Artifact.numbersWritable project = true ∧
        (runUnits parseSample {} [⟨"P", "/a", ["/a/A.cs"]⟩, ⟨"P", "/b", ["/b/B.cs"]⟩] {}
          ⟨twinProjects, {}⟩).2.store.read "codebase_ast/P.txt" ≠
            .ok (Text.Utf8.ofString (Artifact.listingText project)) :=
    ⟨_, rfl, by decide +kernel⟩
  refine ⟨after, project, _, hrun, by decide, hproject, if_pos hwritable, ?_⟩
  rw [hstore]
  exact hread

end ApiOutline.Run
