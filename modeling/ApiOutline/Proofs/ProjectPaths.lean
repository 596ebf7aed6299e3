import ApiOutline.Proofs.DiscoveryExact
import ApiOutline.Proofs.KeptArtifacts
import ApiOutline.Proofs.StrictSyntax
import ApiOutline.Proofs.TidyMembers

/-!
# Paths as keys of a project

The sources of a project that is found lie below its root, so that each of them, seen from the root, is the
parts that follow those of the root. Put after the root these parts give the source back (`IsKey`), and as
all sources start with the root, their keys are in the order of the sources. Hence no two sources of a
project share a path, be they mapped or left out (`Keyed`).
-/

namespace ApiOutline.Files

/-! ## Paths seen from a directory -/

/-- From a base to what is below it no step leads up. -/
theorem dropShared_append (base rest : List String) :
    Location.dropShared base (base ++ rest) = (0, rest) := by
  induction base with
  | nil => cases rest <;> rfl
  | cons part base ih =>
    rw [List.cons_append, Location.dropShared, if_pos rfl]
    exact ih

/-- What lies below a base is, seen from it, the parts that follow those of the base. -/
theorem relativeTo_append (base : Location) (doubled : Bool) {rest : List String} (h : rest ≠ []) :
    base.relativeTo ⟨doubled, base.parts ++ rest⟩ = joinParts rest := by
  cases rest with
  | nil => exact absurd rfl h
  | cons part rest =>
    rw [Location.relativeTo]
    simp only [dropShared_append, List.replicate_zero, List.nil_append]

/-- A path text that does not start at the root follows the first one and a slash. -/
theorem joinPaths_of_relative (first : String) {second : String} (h : isAbsolute second = false) :
    joinPaths first second = joinPaths first "" ++ second := by
  have hempty : isAbsolute "" = false := rfl
  rw [joinPaths, joinPaths, h, hempty]
  simp only [Bool.false_eq_true, if_false]
  split_ifs
  · rw [String.append_empty]
  · rw [String.append_empty]

/-- Texts with the same start are in the order of what follows it. -/
theorem lt_of_append_lt {start first second : String} (h : start ++ first < start ++ second) :
    first < second := by
  rw [String.lt_iff_toList_lt, String.toList_append, String.toList_append] at h
  rw [String.lt_iff_toList_lt]
  generalize start.toList = cs at h
  induction cs with
  | nil => exact h
  | cons c cs ih =>
    obtain hlt | ⟨-, hrest⟩ := List.cons_lt_cons_iff.1 h
    · exact absurd hlt (lt_irrefl c)
    · exact ih hrest

/-- Whether an entry of a project stands for a source: it leads down from the root of the project, to the
source. -/
structure IsKey (root source entry : String) : Prop where
  relative : isAbsolute entry = false
  downward : (partsOf entry).head? ≠ some ".."
  joined : joinPaths root entry = source

/-- What lies below a directory is given back by its parts after the directory. -/
theorem isKey_joinParts (doubled : Bool) {parts rest : List String}
    (h : ∀ part ∈ parts ++ rest, ProperName part) (hrest : rest ≠ []) :
    IsKey (Location.text ⟨doubled, parts⟩) (Location.text ⟨doubled, parts ++ rest⟩) (joinParts rest) := by
  -- The parts are proper names, so the first of them is neither a slash nor a way up.
  obtain ⟨hparts, hproper⟩ := List.forall_mem_append.1 h
  have hrelative : isAbsolute (joinParts rest) = false :=
    decide_eq_false
      (head_joinParts fun part hpart => ⟨(hproper part hpart).nonempty, (hproper part hpart).noSlash⟩)
  refine ⟨hrelative, ?_, ?_⟩
  · rw [partsOf_joinParts fun part hpart => ⟨(hproper part hpart).nonempty, (hproper part hpart).noSlash⟩]
    exact fun hhead => (hproper ".." (List.mem_of_mem_head? hhead)).noDots.2 rfl
  · rw [joinPaths_of_relative _ hrelative, ← text_append doubled hparts hrest]

/-- Keys are in the order of what they stand for. -/
theorem IsKey.lt {root first second entry other : String} (h : IsKey root first entry)
    (hother : IsKey root second other) (hlt : first < second) : entry < other := by
  rw [← h.joined, ← hother.joined, joinPaths_of_relative root h.relative,
    joinPaths_of_relative root hother.relative] at hlt
  exact lt_of_append_lt hlt

end ApiOutline.Files

namespace ApiOutline.Discovery

open Files (IsKey Location ProperName Store)

/-! ## Projects that are found -/

variable {store : Store} {excluded : List String} {path : String} {units : List ProjectUnit}
  {projectUnit : ProjectUnit}

/-- A project that is found has the sources below a directory. -/
theorem exists_base_of_findProjects (hstore : store.WellFormed)
    (h : (findProjects store excluded path).outcome = .ok units) (hunit : projectUnit ∈ units) :
    ∃ base : Location, (∀ part ∈ base.parts, ProperName part) ∧ projectUnit.root = base.text ∧
      projectUnit.sourceFiles = sourcesBelow store excluded base := by
  unfold findProjects at h
  simp only [outcome_findUnits] at h
  by_cases hdir : store.sight? (store.locate path).parts ≠ some .dir
  · simp only [if_pos hdir] at h
    cases h
  simp only [if_neg hdir] at h
  by_cases hfiles : filesBelow store projectSuffix excluded (store.locate path) = []
  · -- Without a project file all sources below the path are one project.
    simp only [if_pos hfiles, Traced.outcome_bind, Traced.outcome_leave, Traced.outcome_pure] at h
    cases h
    cases List.mem_singleton.1 hunit
    obtain ⟨entries, hentries⟩ :=
      Option.isSome_iff_exists.1 (Store.directory?_isSome_iff.2 (not_not.1 hdir))
    exact ⟨store.locate path, (wellFormed_of_directory? hstore hentries).2, rfl, rfl⟩
  · simp only [if_neg hfiles] at h
    cases h
    obtain ⟨project, hproject, rfl⟩ := List.mem_map.1 hunit
    have hfound := (mem_filesBelow_iff hstore (by decide)).1 hproject
    obtain ⟨dirs, hparent, -, -, hproper⟩ := hfound.exists_parent hstore
    refine ⟨project.parent, ?_, rfl, rfl⟩
    rw [hparent]
    exact hproper

/-- The sources below a directory lie below it, under proper names. -/
theorem exists_rest_of_mem_sourcesBelow (hstore : store.WellFormed) {base : Location} {source : String}
    (h : source ∈ sourcesBelow store excluded base) :
    ∃ rest, rest ≠ [] ∧ (∀ part ∈ base.parts ++ rest, ProperName part) ∧
      source = Location.text ⟨base.doubled, base.parts ++ rest⟩ := by
  obtain ⟨file, hfile, rfl⟩ := List.mem_map.1 h
  obtain ⟨dirs, name, bytes, rfl, hsight, -, -⟩ := (mem_filesBelow_iff hstore (by decide)).1 hfile
  exact ⟨dirs ++ [name], by simp, properName_of_file hstore hsight, rfl⟩

/-- The sources of a project that is found are in the order of their path texts. -/
theorem increasing_of_findProjects (hstore : store.WellFormed)
    (h : (findProjects store excluded path).outcome = .ok units) (hunit : projectUnit ∈ units) :
    projectUnit.sourceFiles.Pairwise (· < ·) := by
  obtain ⟨base, -, -, hsources⟩ := exists_base_of_findProjects hstore h hunit
  rw [hsources, sourcesBelow, List.pairwise_map]
  exact (listsFiles_filesBelow hstore (by decide)).increasing

/-- A source of a project that is found is given back by the path that is listed for it. -/
theorem isKey_of_findProjects (hstore : store.WellFormed)
    (h : (findProjects store excluded path).outcome = .ok units) (hunit : projectUnit ∈ units)
    (other : Store) {source : String} (hsource : source ∈ projectUnit.sourceFiles) :
    IsKey projectUnit.root source
      (Mapping.recordedPath other (some projectUnit.root) (other.locate source)) := by
  obtain ⟨base, hbase, hroot, hsources⟩ := exists_base_of_findProjects hstore h hunit
  rw [hsources] at hsource
  obtain ⟨rest, hrest, hproper, rfl⟩ := exists_rest_of_mem_sourcesBelow hstore hsource
  -- The path text of a source leads to it from every store.
  have hlocated : other.locate (Location.text ⟨base.doubled, base.parts ++ rest⟩) =
      ⟨base.doubled, base.parts ++ rest⟩ :=
    @Files.locate_text ⟨base.doubled, base.parts ++ rest⟩ hproper other
  rw [hroot, Mapping.recordedPath, Files.locate_text hbase, hlocated,
    Files.relativeTo_append base base.doubled hrest]
  exact Files.isKey_joinParts base.doubled hproper hrest

end ApiOutline.Discovery

namespace ApiOutline.Mapping

open Discovery (ProjectUnit)
open Files (IsKey Store)
open Outline (FileMap Project)

/-! ## Projects that are mapped -/

/-- The path under which a file of a project is listed, if it is. -/
def FileOutcome.entry? : FileOutcome → Option String
  | .mapped file => some file.path
  | .empty => none
  | .failed path => some path

variable {sources : Sources} {settings : Settings} {root path entry : String}

/-- A file is listed under the path that is recorded for it. -/
theorem entry?_of_mapListed {outcome : FileOutcome} (hpath : path ≠ "")
    (h : (mapListed sources settings root path).outcome = .ok outcome)
    (hentry : outcome.entry? = some entry) :
    entry = recordedPath sources.store (some root) (sources.store.locate path) := by
  cases outcome with
  | mapped file =>
    cases hentry
    obtain ⟨setting, tree, htree⟩ := mapTree_of_mapFile (mapFile_of_mapListed h)
    exact (Outline.shaped_of_mapTree htree).1
  | empty => cases hentry
  -- A file that is left out is listed under the path that would have been recorded.
  | failed listed =>
    cases hentry
    rw [eq_listedPath_of_mapListed h, listedPath, if_neg (by simpa using hpath)]

/-- Whether the paths in a project are its keys: they are listed in order and once, lead down from the root of
the project, and each stands for the one source that it comes from. -/
structure Keyed (sources : Sources) (settings : Settings) (projectUnit : ProjectUnit)
    (project : Project) : Prop where
  files : (project.files.map FileMap.path).Pairwise (· < ·)
  failedFiles : project.failedFiles.Pairwise (· < ·)
  disjoint : (project.files.map FileMap.path).Disjoint project.failedFiles
  /-- What is listed for a source is its key. -/
  source : ∀ source ∈ projectUnit.sourceFiles, ∀ outcome entry,
    (mapListed sources settings projectUnit.root source).outcome = .ok outcome →
      outcome.entry? = some entry → IsKey projectUnit.root source entry
  /-- Every file of the project is listed for a source. -/
  mapped : ∀ file ∈ project.files, ∃ source ∈ projectUnit.sourceFiles,
    IsKey projectUnit.root source file.path ∧
      (mapListed sources settings projectUnit.root source).outcome = .ok (.mapped file)
  /-- Every file that is left out is listed for a source. -/
  leftOut : ∀ entry ∈ project.failedFiles, ∃ source ∈ projectUnit.sourceFiles,
    IsKey projectUnit.root source entry ∧
      (mapListed sources settings projectUnit.root source).outcome = .ok (.failed entry)

section Found

variable {store : Store} {excluded : List String} {units : List ProjectUnit} {projectUnit : ProjectUnit}
  (hstore : store.WellFormed)
  (hunits : (Discovery.findProjects store excluded path).outcome = .ok units) (hunit : projectUnit ∈ units)

include hstore hunits hunit

/-- What is listed for a source of a project that is found is its key. -/
theorem isKey_of_mapListed {source : String} {outcome : FileOutcome}
    (hsource : source ∈ projectUnit.sourceFiles)
    (h : (mapListed sources settings projectUnit.root source).outcome = .ok outcome)
    (hentry : outcome.entry? = some entry) : IsKey projectUnit.root source entry := by
  have hne : source ≠ "" := by
    obtain ⟨location, rfl, -⟩ :=
      (Discovery.of_findProjects hstore hunits projectUnit hunit).2 source hsource
    exact Files.text_ne_empty location
  rw [entry?_of_mapListed hne h hentry]
  exact Discovery.isKey_of_findProjects hstore hunits hunit sources.store hsource

/-- Keys that are listed for the sources of a project are in order. -/
theorem increasing_filterMap {select : String → Option String}
    (h : ∀ source ∈ projectUnit.sourceFiles, ∀ entry, select source = some entry →
      IsKey projectUnit.root source entry) :
    (projectUnit.sourceFiles.filterMap select).Pairwise (· < ·) := by
  rw [List.pairwise_filterMap]
  refine (Discovery.increasing_of_findProjects hstore hunits hunit).imp_of_mem ?_
  intro first second hfirst hsecond hlt entry hentry other hother
  exact (h first hfirst entry hentry).lt (h second hsecond other hother) hlt

end Found

/-- The paths in a mapped project are its keys. -/
theorem mapProject_paths_are_keys (store : Store) (excluded : List String) (path : String)
    (units : List ProjectUnit) (projectUnit : ProjectUnit) (sources : Sources) (settings : Settings)
    (project : Project) (hstore : store.WellFormed)
    (hunits : (Discovery.findProjects store excluded path).outcome = .ok units)
    (hunit : projectUnit ∈ units)
    (hproject : (mapProject sources settings projectUnit).outcome = .ok project) :
    Keyed sources settings projectUnit project := by
  -- Each source has its fate, and its entry, if it has one, is its key.
  obtain ⟨fate, hfates, rfl⟩ := mapProject_eq_ok_iff.1 hproject
  have hkey : ∀ source ∈ projectUnit.sourceFiles, ∀ outcome entry,
      (mapListed sources settings projectUnit.root source).outcome = .ok outcome →
        outcome.entry? = some entry → IsKey projectUnit.root source entry :=
    fun source hsource outcome entry h hentry =>
      isKey_of_mapListed hstore hunits hunit hsource h hentry
  have hmapped : ∀ source ∈ projectUnit.sourceFiles, ∀ file, fate source = .mapped file →
      IsKey projectUnit.root source file.path :=
    fun source hsource file hfate =>
      hkey source hsource _ _ (hfates source hsource) (congrArg FileOutcome.entry? hfate)
  have hfailed : ∀ source ∈ projectUnit.sourceFiles, ∀ entry, fate source = .failed entry →
      IsKey projectUnit.root source entry :=
    fun source hsource entry hfate =>
      hkey source hsource _ _ (hfates source hsource) (congrArg FileOutcome.entry? hfate)
  constructor
  case files =>
    rw [List.map_filterMap]
    refine increasing_filterMap hstore hunits hunit fun source hsource entry hentry => ?_
    obtain ⟨file, hfile, rfl⟩ := Option.map_eq_some_iff.1 hentry
    exact hmapped source hsource file (FileOutcome.file?_eq_some_iff.1 hfile)
  case failedFiles =>
    refine increasing_filterMap hstore hunits hunit fun source hsource entry hentry => ?_
    exact hfailed source hsource entry (FileOutcome.failed?_eq_some_iff.1 hentry)
  case disjoint =>
    -- An entry of both lists would be the key of one source that is mapped and left out.
    intro entry hlisted hleft
    obtain ⟨file, hfile, rfl⟩ := List.mem_map.1 hlisted
    obtain ⟨first, hfirst, hmap⟩ := List.mem_filterMap.1 hfile
    obtain ⟨second, hsecond, hfail⟩ := List.mem_filterMap.1 hleft
    rw [FileOutcome.file?_eq_some_iff] at hmap
    rw [FileOutcome.failed?_eq_some_iff] at hfail
    have hsame : first = second :=
      (hmapped first hfirst file hmap).joined.symm.trans (hfailed second hsecond _ hfail).joined
    rw [hsame, hfail] at hmap
    cases hmap
  case source => exact hkey
  case mapped =>
    intro file hfile
    obtain ⟨source, hsource, hfile⟩ := List.mem_filterMap.1 hfile
    have hfate := FileOutcome.file?_eq_some_iff.1 hfile
    exact ⟨source, hsource, hmapped source hsource file hfate, hfate ▸ hfates source hsource⟩
  case leftOut =>
    intro entry hentry
    obtain ⟨source, hsource, hentry⟩ := List.mem_filterMap.1 hentry
    have hfate := FileOutcome.failed?_eq_some_iff.1 hentry
    exact ⟨source, hsource, hfailed source hsource entry hfate, hfate ▸ hfates source hsource⟩

/-- A store with a project at its root, whose sources have blanks and dots in their names and are in
directories of which one name starts the other. One of them is not text. -/
def rootedProject : Store where
  root := [("..x.cs", .file Syntax.namespaceSource), ("P.csproj", .file []), ("a b.cs", .file [255]),
    ("a.d", .dir [("F.cs", .file Syntax.namespaceSource)]),
    ("a", .dir [("D.cs", .file Syntax.namespaceSource), ("E.cs", .file [255])])]
  workingDir := ⟨false, []⟩

/-- The project. -/
def rootedUnit : ProjectUnit :=
  ⟨"P", "/", ["/..x.cs", "/a b.cs", "/a.d/F.cs", "/a/D.cs", "/a/E.cs"]⟩

/-- The project at the root is found with all its sources, in order. -/
theorem findProjects_rootedProject :
    (Discovery.findProjects rootedProject [] "/").outcome = .ok [rootedUnit] := by
  -- What is found below the root is sorted, which is checked apart from finding it.
  have hfiles : Discovery.filesBelow rootedProject Discovery.projectSuffix []
      (rootedProject.locate "/") = [⟨false, ["P.csproj"]⟩] :=
    Discovery.filesBelow_of_sorted (by decide +kernel) (by decide)
  have hsources : Discovery.filesBelow rootedProject Discovery.sourceSuffix []
      (Files.Location.parent ⟨false, ["P.csproj"]⟩) =
        [⟨false, ["..x.cs"]⟩, ⟨false, ["a b.cs"]⟩, ⟨false, ["a.d", "F.cs"]⟩, ⟨false, ["a", "D.cs"]⟩,
          ⟨false, ["a", "E.cs"]⟩] :=
    Discovery.filesBelow_of_sorted (by decide +kernel) (by decide)
  rw [Discovery.findProjects_of_filesBelow (List.cons_ne_nil _ _) (by decide +kernel) hfiles]
  simp only [List.map_cons, List.map_nil, Discovery.unitOf, Discovery.sourcesBelow, hsources]
  decide +kernel

/-- Two files of the project are left out, and three are mapped. -/
theorem rootedProject_keys : rootedProject.WellFormed ∧
    (Discovery.findProjects rootedProject [] "/").outcome = .ok [rootedUnit] ∧
    ∃ project, (mapProject ⟨rootedProject, Syntax.parseSample⟩ {} rootedUnit).outcome = .ok project ∧
      project.files.map FileMap.path = ["..x.cs", "a.d/F.cs", "a/D.cs"] ∧
      project.failedFiles = ["a b.cs", "a/E.cs"] ∧
      Keyed ⟨rootedProject, Syntax.parseSample⟩ {} rootedUnit project := by
  have hstore : rootedProject.WellFormed := by decide +kernel
  obtain ⟨project, hproject, hfiles, hfailed⟩ : ∃ project,
      (mapProject ⟨rootedProject, Syntax.parseSample⟩ {} rootedUnit).outcome = .ok project ∧
        project.files.map FileMap.path = ["..x.cs", "a.d/F.cs", "a/D.cs"] ∧
        project.failedFiles = ["a b.cs", "a/E.cs"] :=
    ⟨_, rfl, by decide +kernel⟩
  exact ⟨hstore, findProjects_rootedProject, project, hproject, hfiles, hfailed,
    mapProject_paths_are_keys rootedProject [] "/" [rootedUnit] rootedUnit
      ⟨rootedProject, Syntax.parseSample⟩ {} project hstore findProjects_rootedProject
      List.mem_cons_self hproject⟩

end ApiOutline.Mapping
