import ApiOutline.Proofs.MappedProject
import ApiOutline.Proofs.ParsedTrees
import Mathlib.Data.List.Basic

/-!
# What strict syntax changes

Two runs over one project are compared that differ in nothing but whether sources with errors are
refused. A file can fail in three ways: it cannot be read, its tree is refused, or the walk through its
tree fails. Refusal comes between the other two, so strictness turns the outcome of a malformed file into
a failure, whatever it was, and leaves that of every other file alone (`outcome_mapListed_strict`). What
holds of the files then holds of the two projects.

Which files are malformed is for the parser to say. As far as it reports the faulty nodes of a tree, a
file with such a node is one of them; and it is so only for these if the parser reports nothing else.
-/

namespace ApiOutline.Mapping

open Discovery (ProjectUnit)
open Outline (FileMap Project countFiles)
open Syntax (Node)

/-- Settings that say whether sources with errors are refused. -/
def withStrict (settings : Settings) (strict : Bool) : Settings :=
  { settings with strictSyntax := strict }

/-- Whether a source file can be read and the parser reports an error in it. -/
def isMalformed (sources : Sources) (path : String) : Bool :=
  match (readSource sources (sources.store.locate path).text).outcome with
  | .ok (_, tree) => tree.hasError
  | .error _ => false

/-- How the outcome of a file changes when sources with errors are refused. -/
structure Tightened (sources : Sources) (path : String) (before after : FileOutcome) : Prop where
  /-- A file that is left out anyway is listed as before. -/
  failed : ∀ listed, before = .failed listed → after = .failed listed
  /-- A malformed file is left out. -/
  malformed : isMalformed sources path = true → ∃ listed, after = .failed listed
  /-- Nothing becomes of other files but what did before. -/
  kept : isMalformed sources path = false → after = before
  /-- A file with a faulty node is left out if the parser reports such nodes. -/
  faulty : ∀ bytes tree,
    (readSource sources (sources.store.locate path).text).outcome = .ok (bytes, tree) →
    tree.ReportsFaults → (∃ node, tree.Within node ∧ node.isFaulty = true) →
    ∃ listed, after = .failed listed
  /-- A file without a faulty node is not, if the parser reports nothing else. -/
  unmarked : ∀ bytes tree,
    (readSource sources (sources.store.locate path).text).outcome = .ok (bytes, tree) →
    tree.ReportsOnlyFaults → (¬ ∃ node, tree.Within node ∧ node.isFaulty = true) → after = before

variable {sources : Sources} {settings : Settings} {root path : String}

/-! ## One file -/

section OneFile

/-- A file is read, its tree is checked, and then it is outlined. -/
theorem outcome_mapFile (sources : Sources) (settings : Settings) (root : Option String)
    (path : String) :
    let recorded := recordedPath sources.store root (sources.store.locate path)
    (mapFile sources settings root path).outcome =
      (readSource sources (sources.store.locate path).text).outcome.bind fun source =>
        (checkSyntax settings recorded source.2).outcome.bind fun _ =>
          (outlineTree settings recorded source.1 source.2 (.ofTree recorded)).outcome := by
  simp only [mapFile, Traced.outcome_bind]

/-- Without strictness every tree passes. -/
theorem checkSyntax_lenient (path : String) (tree : Node) :
    (checkSyntax (withStrict settings false) path tree).outcome = .ok () := by
  unfold checkSyntax
  split_ifs with hclean hstrict
  · rfl
  · exact absurd hstrict Bool.false_ne_true
  · rfl

/-- With strictness a tree passes if it has no error. -/
theorem checkSyntax_strict (path : String) (tree : Node) :
    (checkSyntax (withStrict settings true) path tree).outcome =
      if tree.hasError then .error (.file ⟨path, .syntaxErrors tree.errorCount⟩) else .ok () := by
  unfold checkSyntax
  cases tree.hasError with
  | true => rfl
  | false => rfl

/-- A file that can be read is malformed if its tree has an error. -/
theorem isMalformed_of_readSource {bytes : Text.Bytes} {tree : Node}
    (h : (readSource sources (sources.store.locate path).text).outcome = .ok (bytes, tree)) :
    isMalformed sources path = tree.hasError := by
  rw [isMalformed, h]

/-- A malformed file is refused with strictness. -/
theorem mapFile_strict_of_malformed (root : Option String) (h : isMalformed sources path = true) :
    ∃ fault, (mapFile sources (withStrict settings true) root path).outcome =
      .error (.file fault) := by
  rw [outcome_mapFile]
  unfold isMalformed at h
  cases hread : (readSource sources (sources.store.locate path).text).outcome with
  | error fault =>
    rw [hread] at h
    exact absurd h Bool.false_ne_true
  | ok source =>
    -- The error is found before the file is outlined.
    rw [hread] at h
    simp only [Except.bind, checkSyntax_strict, h, if_true]
    exact ⟨_, rfl⟩

/-- Strictness is not noticed in a file that is not malformed. -/
theorem mapFile_strict_of_not_malformed (root : Option String)
    (h : isMalformed sources path = false) :
    (mapFile sources (withStrict settings true) root path).outcome =
      (mapFile sources (withStrict settings false) root path).outcome := by
  rw [outcome_mapFile, outcome_mapFile]
  unfold isMalformed at h
  cases hread : (readSource sources (sources.store.locate path).text).outcome with
  | error fault => rfl
  | ok source =>
    rw [hread] at h
    -- The outline itself depends on the settings only through which declarations are visible.
    have houtline : ∀ recorded fault,
        outlineTree (withStrict settings true) recorded source.1 source.2 fault =
          outlineTree (withStrict settings false) recorded source.1 source.2 fault :=
      fun recorded fault => rfl
    simp only [Except.bind, checkSyntax_strict, checkSyntax_lenient, h, houtline,
      Bool.false_eq_true, if_false]

/-- With strictness a malformed file is left out, and what becomes of another one stays. -/
theorem outcome_mapListed_strict (sources : Sources) (settings : Settings) (root path : String) :
    (mapListed sources (withStrict settings true) root path).outcome =
      if isMalformed sources path then .ok (.failed (listedPath sources.store root path))
      else (mapListed sources (withStrict settings false) root path).outcome := by
  rw [outcome_mapListed, outcome_mapListed]
  cases hmalformed : isMalformed sources path with
  | true =>
    obtain ⟨fault, hfault⟩ : ∃ fault,
        (mapFile sources (withStrict settings true) (some root) path).outcome =
          .error (.file fault) := mapFile_strict_of_malformed _ hmalformed
    rw [hfault]
    rfl
  | false =>
    rw [mapFile_strict_of_not_malformed _ hmalformed]
    rfl

/-- A file that is left out is listed under its own path. -/
theorem eq_listedPath_of_mapListed {listed : String}
    (h : (mapListed sources settings root path).outcome = .ok (.failed listed)) :
    listed = listedPath sources.store root path := by
  rw [outcome_mapListed] at h
  unfold asListed at h
  split at h
  · cases h
  · cases h
  · cases h
    rfl
  · cases h

/-- What becomes of a file with strictness if something becomes of it without. -/
def tighten (sources : Sources) (root path : String) (before : FileOutcome) : FileOutcome :=
  if isMalformed sources path then .failed (listedPath sources.store root path) else before

/-- A file with an outcome without strictness has one with it. -/
theorem mapListed_strict_of_lenient {before : FileOutcome}
    (h : (mapListed sources (withStrict settings false) root path).outcome = .ok before) :
    (mapListed sources (withStrict settings true) root path).outcome =
      .ok (tighten sources root path before) := by
  rw [outcome_mapListed_strict, h, tighten]
  split_ifs
  · rfl
  · rfl

/-- The two outcomes are related as they should be. -/
theorem tightened_of_mapListed {before : FileOutcome}
    (h : (mapListed sources settings root path).outcome = .ok before) :
    Tightened sources path before (tighten sources root path before) where
  failed := by
    rintro listed rfl
    rw [eq_listedPath_of_mapListed h, tighten]
    split_ifs
    · rfl
    · rfl
  malformed hmalformed := by
    rw [tighten, if_pos hmalformed]
    exact ⟨_, rfl⟩
  kept hmalformed := by
    rw [tighten, hmalformed, if_neg Bool.false_ne_true]
  faulty bytes tree hread hreports hfaulty := by
    -- A faulty node is below the root, so the parser reports an error there.
    have herror := hreports tree (Node.within_self tree) hfaulty
    rw [tighten, isMalformed_of_readSource hread, if_pos herror]
    exact ⟨_, rfl⟩
  unmarked bytes tree hread hreports hnone := by
    have herror := mt (hreports tree (Node.within_self tree)).1 hnone
    rw [tighten, isMalformed_of_readSource hread, if_neg herror]

end OneFile

/-! ## All files of a project -/

/-- What one selection takes is a part of what another takes if that takes the same and more. -/
theorem sublist_filterMap {α β : Type} {f g : α → Option β} {xs : List α}
    (h : ∀ x ∈ xs, ∀ y, f x = some y → g x = some y) : (xs.filterMap f).Sublist (xs.filterMap g) := by
  induction xs with
  | nil => exact List.Sublist.refl _
  | cons x xs ih =>
    obtain ⟨hx, hxs⟩ := List.forall_mem_cons.1 h
    have hrest := ih hxs
    cases hf : f x with
    | none =>
      rw [List.filterMap_cons_none hf]
      refine hrest.trans ?_
      exact (List.sublist_cons_self x xs).filterMap g
    | some y =>
      rw [List.filterMap_cons_some hf, List.filterMap_cons_some (hx y hf)]
      exact hrest.cons_cons y

/-- Strict syntax only moves malformed files to the failures. If a project is mapped without it, it is
mapped with it. File by file the outcomes are related as `Tightened` says. So the files are those
of the lenient project that are not malformed, in order; all failures of the lenient project are
listed, in order, among those of the strict one; and the numbers are those of the files left. -/
theorem mapProject_strict (sources : Sources) (settings : Settings) (projectUnit : ProjectUnit)
    (lenient : Project)
    (h : (mapProject sources (withStrict settings false) projectUnit).outcome = .ok lenient) :
    ∃ strict, (mapProject sources (withStrict settings true) projectUnit).outcome = .ok strict ∧
      ∃ before after : String → FileOutcome,
        (∀ path ∈ projectUnit.sourceFiles,
          (mapListed sources (withStrict settings false) projectUnit.root path).outcome =
              .ok (before path) ∧
            (mapListed sources (withStrict settings true) projectUnit.root path).outcome =
              .ok (after path) ∧
            Tightened sources path (before path) (after path)) ∧
        lenient.files = projectUnit.sourceFiles.filterMap (fun path => (before path).file?) ∧
        strict.files = (projectUnit.sourceFiles.filter fun path => !isMalformed sources path).filterMap
          (fun path => (before path).file?) ∧
        strict.files.Sublist lenient.files ∧
        lenient.failedFiles = projectUnit.sourceFiles.filterMap (fun path => (before path).failed?) ∧
        strict.failedFiles = projectUnit.sourceFiles.filterMap (fun path => (after path).failed?) ∧
        lenient.failedFiles.Sublist strict.failedFiles ∧
        strict.counts = countFiles strict.files := by
  obtain ⟨before, hbefore, rfl⟩ := mapProject_eq_ok_iff.1 h
  -- With strictness the same files have outcomes, tightened one by one.
  let after : String → FileOutcome := fun path =>
    tighten sources projectUnit.root path (before path)
  have hafter : ∀ path ∈ projectUnit.sourceFiles,
      (mapListed sources (withStrict settings true) projectUnit.root path).outcome =
        .ok (after path) :=
    fun path hpath => mapListed_strict_of_lenient (hbefore path hpath)
  have htightened : ∀ path ∈ projectUnit.sourceFiles,
      Tightened sources path (before path) (after path) :=
    fun path hpath => tightened_of_mapListed (hbefore path hpath)
  -- What is left of the files is what is not malformed.
  have hfiles : projectUnit.sourceFiles.filterMap (fun path => (after path).file?) =
      (projectUnit.sourceFiles.filter fun path => !isMalformed sources path).filterMap
        (fun path => (before path).file?) := by
    rw [List.filterMap_filter]
    refine List.filterMap_congr fun path _ => ?_
    simp only [after, tighten]
    cases isMalformed sources path with
    | true => rfl
    | false => rfl
  have hfailed : (projectUnit.sourceFiles.filterMap fun path => (before path).failed?).Sublist
      (projectUnit.sourceFiles.filterMap fun path => (after path).failed?) := by
    refine sublist_filterMap fun path hpath listed hlisted => ?_
    cases hfate : before path with
    | mapped file =>
      rw [hfate] at hlisted
      cases hlisted
    | empty =>
      rw [hfate] at hlisted
      cases hlisted
    | failed found =>
      rw [hfate] at hlisted
      rw [(htightened path hpath).failed found hfate]
      exact hlisted
  refine ⟨_, mapProject_eq_ok_iff.2 ⟨after, hafter, rfl⟩, before, after,
    fun path hpath => ⟨hbefore path hpath, hafter path hpath, htightened path hpath⟩,
    rfl, hfiles, ?_, rfl, rfl, hfailed, rfl⟩
  simp only [hfiles]
  exact List.filter_sublist.filterMap _

/-- A project with a well-formed source, one with a faulty node, one that is not UTF-8, and one without
declarations. -/
def mixedSources : Sources where
  store := {
    root := [("a", .dir [("A.cs", .file (Text.Utf8.ofString "class é \x7b \x7d")),
      ("B.cs", .file (Text.Utf8.ofString "class 1A \x7b \x7d")), ("C.cs", .file [255]),
      ("D.cs", .file (Text.Utf8.ofString "// c"))])]
    workingDir := ⟨false, []⟩ }
  parse := Syntax.parseSample

/-- The project of these files. -/
def mixedUnit : ProjectUnit :=
  ⟨"P", "/a", ["/a/A.cs", "/a/B.cs", "/a/C.cs", "/a/D.cs"]⟩

/-- Strictness moves the file with the faulty node to the failures, and no other. -/
theorem mixedUnit_strict : ∃ lenient strict,
    (mapProject mixedSources (withStrict {} false) mixedUnit).outcome = .ok lenient ∧
      (mapProject mixedSources (withStrict {} true) mixedUnit).outcome = .ok strict ∧
      lenient.files.map FileMap.path = ["A.cs", "B.cs"] ∧ lenient.failedFiles = ["C.cs"] ∧
      strict.files.map FileMap.path = ["A.cs"] ∧ strict.failedFiles = ["B.cs", "C.cs"] ∧
      strict.files.Sublist lenient.files ∧ strict.counts = countFiles strict.files := by
  -- Both projects are computed, and the relations between them follow.
  obtain ⟨lenient, hlenient, hshown⟩ : ∃ lenient,
      (mapProject mixedSources (withStrict {} false) mixedUnit).outcome = .ok lenient ∧
        lenient.files.map FileMap.path = ["A.cs", "B.cs"] ∧ lenient.failedFiles = ["C.cs"] :=
    ⟨_, rfl, by decide +kernel⟩
  obtain ⟨strict, hstrict, before, after, -, -, -, hfiles, -, -, -, hcounts⟩ :=
    mapProject_strict mixedSources {} mixedUnit lenient hlenient
  have hlisted : (mapProject mixedSources (withStrict {} true) mixedUnit).outcome.map
      (fun project => (project.files.map FileMap.path, project.failedFiles)) =
        .ok (["A.cs"], ["B.cs", "C.cs"]) := by
    rfl
  rw [hstrict] at hlisted
  obtain ⟨hpaths, hfailed⟩ := Prod.mk.inj (Except.ok.inj hlisted)
  exact ⟨lenient, strict, hlenient, hstrict, hshown.1, hshown.2, hpaths, hfailed, hfiles, hcounts⟩

/-- A project with an enumeration that has no name. -/
def unnamedSources : Sources where
  store := {
    root := [("a", .dir [("E.cs", .file (Text.Utf8.ofString "enum \x7b A \x7d"))])]
    workingDir := ⟨false, []⟩ }
  parse := Syntax.parseSample

/-- That the parser reports faulty nodes and that a tree has none is not enough for its file to be
kept: the parser can report an error that no node shows. -/
theorem unmarked_file_not_kept : ¬ ∀ (sources : Sources) (settings : Settings)
    (projectUnit : ProjectUnit) (lenient strict : Project),
    (mapProject sources (withStrict settings false) projectUnit).outcome = .ok lenient →
    (mapProject sources (withStrict settings true) projectUnit).outcome = .ok strict →
    (∀ bytes, (sources.parse bytes).ReportsFaults) →
    ∀ path ∈ projectUnit.sourceFiles, ∀ bytes tree,
      (readSource sources (sources.store.locate path).text).outcome = .ok (bytes, tree) →
      (¬ ∃ node, tree.Within node ∧ node.isFaulty = true) →
      (mapListed sources (withStrict settings true) projectUnit.root path).outcome =
        (mapListed sources (withStrict settings false) projectUnit.root path).outcome := by
  intro h
  -- No node of the tree is faulty, though the parser reports an error.
  have hunmarked : ¬ ∃ node ∈ Syntax.unnamedTree.nodes, node.isFaulty = true := by decide +kernel
  have hsame := h unnamedSources {} ⟨"P", "/a", ["/a/E.cs"]⟩ _ _ rfl rfl
    Syntax.parseSample_reportsFaults "/a/E.cs" (List.mem_singleton.2 rfl) _ _ rfl hunmarked
  have hkept : (mapListed unnamedSources (withStrict {} false) "/a" "/a/E.cs").outcome.map
      FileOutcome.failed? = .ok none := by
    rfl
  have hrefused : (mapListed unnamedSources (withStrict {} true) "/a" "/a/E.cs").outcome.map
      FileOutcome.failed? = .ok (some "E.cs") := by
    rfl
  rw [hsame, hkept] at hrefused
  cases hrefused

end ApiOutline.Mapping
