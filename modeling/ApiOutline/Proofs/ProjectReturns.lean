import ApiOutline.Proofs.CommentStyles
import ApiOutline.Proofs.StoreView
import ApiOutline.Proofs.StrictSyntax

/-!
# Mapping a project returns

With a parser that grounds its trees, a source file comes to nothing in four ways only: it cannot be
read, it is not a text, strict syntax refuses its tree, or a summary in it has too long a number
(`Refused`). Every other file is accepted, and its tree is walked to the end (`mapFile_cases`). So
something becomes of each file of a project by what the file itself holds, and the project is mapped
whatever its files hold.
-/

namespace ApiOutline.Files.Store

/-- Reading fails because of a null character only where the path has one. -/
theorem read_ne_nullCharacter {store : Store} {path : String} (h : '\x00' ∉ path.toList) :
    store.read path ≠ .error .nullCharacter := by
  intro hread
  -- Reading follows the path and then looks at what is there, and only the path is checked for the character.
  obtain hresolve | ⟨place, -, hplace⟩ := Outcome.bind_eq_error.1 hread
  · unfold resolve at hresolve
    obtain ⟨hnull, -⟩ | ⟨-, hresolve⟩ := Outcome.unless_eq_error.1 hresolve
    · exact h hnull
    obtain ⟨-, ⟨⟩⟩ | ⟨-, hresolve⟩ := Outcome.unless_eq_error.1 hresolve
    obtain hfollow | ⟨place, -, hplace⟩ := Outcome.bind_eq_error.1 hresolve
    · exact follow_ne_nullCharacter _ _ _ hfollow
    obtain ⟨-, ⟨⟩⟩ | ⟨-, ⟨⟩⟩ := Outcome.unless_eq_error.1 hplace
  · split at hplace
    · cases hplace
    · cases hplace
    · cases hplace

end ApiOutline.Files.Store

namespace ApiOutline.Outline

open Syntax (Node)

/-- A tree has an outline if a place of it is reached. -/
theorem mapTree_eq_none_iff {setting : Setting} {path : String} {root : Node}
    {result : Option FileMap} (h : (mapTree setting path root).outcome = .ok result) :
    result = none ↔ ∀ place, ¬ Reached setting root place := by
  obtain ⟨placed, hplaced, rfl⟩ := exists_placeTree_of_mapTree h
  have hmem := (covers_placeTree hplaced).mem_iff
  cases placed with
  | nil =>
    simp only [List.isEmpty_nil, if_true, true_iff]
    intro place hplace
    exact absurd ((hmem place).2 hplace) (by simp)
  | cons item placed =>
    -- The first member stands at a place that is reached.
    have hfirst : Reached setting root (none, item.path) := by
      rw [← hmem]
      cases item
      exact List.mem_append_left _ List.mem_cons_self
    simp only [List.isEmpty_cons, Bool.false_eq_true, if_false, reduceCtorEq, false_iff]
    exact fun hnone => hnone _ hfirst

end ApiOutline.Outline

namespace ApiOutline.Mapping

open Discovery (ProjectUnit)
open Files (Store)
open Outline (FileMap Project Reached OverlongAt countFiles)
open Syntax (Node)
open Text (Bytes)
open Text.Utf8 (decode dropMark)

/-- Whether a parser grounds the tree of every text in it. -/
def GroundsTexts (parse : Bytes → Node) : Prop :=
  ∀ bytes text, decode bytes = .ok text → (parse bytes).Grounded bytes

/-- Whether the file at a path holds a text with the given bytes and tree. -/
def HoldsText (sources : Sources) (path : String) (bytes : Bytes) (tree : Node) : Prop :=
  ∃ content text, sources.store.read (sources.store.locate path).text = .ok content ∧
    bytes = dropMark content ∧ decode bytes = .ok text ∧ tree = sources.parse bytes

/-- Whether a summary in a tree that belongs to its outline has too long a number. -/
def HasLongNumber (settings : Settings) (bytes : Bytes) (tree : Node) : Prop :=
  ∃ place, Reached ⟨bytes, settings.contextualVisibility⟩ tree place ∧
    OverlongAt ⟨bytes, settings.contextualVisibility⟩ tree place.2

/-- Why the source file at a path is left out. -/
inductive Refused (sources : Sources) (settings : Settings) (path : String) : FileCause → Prop where
  | unreadable {fault : Files.StoreFault} :
    sources.store.read (sources.store.locate path).text = .error fault →
    Refused sources settings path (.unreadable fault)
  | notUtf8 {content : Bytes} {fault : Text.Utf8.Fault} :
    sources.store.read (sources.store.locate path).text = .ok content →
    decode (dropMark content) = .error fault → Refused sources settings path (.notUtf8 fault)
  | syntaxErrors {bytes : Bytes} {tree : Node} :
    HoldsText sources path bytes tree → settings.strictSyntax = true → tree.hasError = true →
    Refused sources settings path (.syntaxErrors tree.errorCount)
  | tooManyDigits {bytes : Bytes} {tree : Node} (fault : Number.TooManyDigits) :
    HoldsText sources path bytes tree → HasLongNumber settings bytes tree →
    Refused sources settings path (.tooManyDigits fault)

/-- Whether the file at a path is outlined, by its bytes and tree. -/
structure Accepted (sources : Sources) (settings : Settings) (path : String) (bytes : Bytes)
    (tree : Node) : Prop where
  holds : HoldsText sources path bytes tree
  wellFormed : settings.strictSyntax = true → tree.hasError = false
  short : ¬ HasLongNumber settings bytes tree

/-- What becomes of a source file by what it holds. -/
inductive Becomes (sources : Sources) (settings : Settings) (root path : String) :
    FileOutcome → Prop where
  | mapped {bytes : Bytes} {tree : Node} {file : FileMap} :
    Accepted sources settings path bytes tree →
    (Outline.mapTree ⟨bytes, settings.contextualVisibility⟩
      (recordedPath sources.store (some root) (sources.store.locate path)) tree).outcome =
        .ok (some file) →
    Becomes sources settings root path (.mapped file)
  /-- No declaration is visible. -/
  | empty {bytes : Bytes} {tree : Node} :
    Accepted sources settings path bytes tree →
    (∀ place, ¬ Reached ⟨bytes, settings.contextualVisibility⟩ tree place) →
    Becomes sources settings root path .empty
  | failed {cause : FileCause} :
    Refused sources settings path cause →
    Becomes sources settings root path (.failed (listedPath sources.store root path))

variable {sources : Sources} {settings : Settings} {path : String}

/-- A file holds at most one text. -/
theorem HoldsText.unique {bytes bytes' : Bytes} {tree tree' : Node}
    (h : HoldsText sources path bytes tree) (h' : HoldsText sources path bytes' tree') :
    bytes = bytes' ∧ tree = tree' := by
  obtain ⟨content, text, hread, rfl, -, rfl⟩ := h
  obtain ⟨content', text', hread', rfl, -, rfl⟩ := h'
  cases hread.symm.trans hread'
  exact ⟨rfl, rfl⟩

/-- No file is both refused and accepted. -/
theorem Accepted.not_refused {bytes : Bytes} {tree : Node} {cause : FileCause}
    (h : Accepted sources settings path bytes tree) : ¬ Refused sources settings path cause := by
  -- The file holds one text, and what refuses it would hold of that text.
  obtain ⟨⟨content, text, hread, hbytes, htext, htree⟩, hclean, hshort⟩ := h
  have hholds : HoldsText sources path bytes tree := ⟨content, text, hread, hbytes, htext, htree⟩
  intro hrefused
  cases hrefused with
  | unreadable hfault => cases hread.symm.trans hfault
  | notUtf8 hread' hfault =>
    cases hread.symm.trans hread'
    rw [← hbytes, htext] at hfault
    cases hfault
  | syntaxErrors hholds' hstrict herror =>
    obtain ⟨rfl, rfl⟩ := hholds.unique hholds'
    rw [hclean hstrict] at herror
    cases herror
  | tooManyDigits fault hholds' hlong =>
    obtain ⟨rfl, rfl⟩ := hholds.unique hholds'
    exact hshort hlong

/-- A file that can be read as a text holds one, and otherwise it is refused. -/
theorem readSource_cases (settings : Settings)
    (hnull : '\x00' ∉ (sources.store.locate path).text.toList) :
    (∃ named cause, (readSource sources (sources.store.locate path).text).outcome =
        .error (.file ⟨named, cause⟩) ∧ Refused sources settings path cause) ∨
      ∃ bytes tree, (readSource sources (sources.store.locate path).text).outcome =
        .ok (bytes, tree) ∧ HoldsText sources path bytes tree := by
  cases hread : sources.store.read (sources.store.locate path).text with
  | error fault =>
    -- The path has no null character, so the fault is one of the file.
    have hfault : fault ≠ .nullCharacter := by
      rintro rfl
      exact Store.read_ne_nullCharacter hnull hread
    refine .inl ⟨(sources.store.locate path).text, .unreadable fault, ?_, .unreadable hread⟩
    unfold readSource
    rw [hread]
    cases fault with
    | nullCharacter => exact absurd rfl hfault
    | _ => rfl
  | ok content =>
    unfold readSource
    simp only [hread]
    cases htext : decode (dropMark content) with
    | error fault => exact .inl ⟨_, _, rfl, .notUtf8 hread htext⟩
    | ok text =>
      exact .inr ⟨_, _, rfl, content, text, hread, rfl, htext, rfl⟩

/-- A tree passes that has no error, or that may have some. -/
theorem checkSyntax_of_passes {tree : Node}
    (h : tree.hasError = false ∨ settings.strictSyntax = false) (recorded : String) :
    (checkSyntax settings recorded tree).outcome = .ok () := by
  unfold checkSyntax
  obtain hclean | hlenient := h
  · rw [hclean]
    rfl
  · rw [hlenient]
    split
    · rfl
    · rfl

/-- If the parser reports nothing but faulty nodes, a tree is refused for its errors only if it has such
a node. -/
theorem exists_isFaulty_of_refused {bytes : Bytes} {tree : Node} {count : Nat}
    (hholds : HoldsText sources path bytes tree) (hreports : tree.ReportsOnlyFaults)
    (hrefused : Refused sources settings path (.syntaxErrors count)) :
    ∃ node, tree.Within node ∧ node.isFaulty = true := by
  cases hrefused with
  | syntaxErrors hholds' _ herror =>
    obtain ⟨-, rfl⟩ := hholds.unique hholds'
    exact (hreports tree tree.within_self).1 herror

/-- Outlining a tree fails as the walk does. -/
theorem outcome_outlineTree (settings : Settings) (recorded : String) (bytes : Bytes) (tree : Node)
    (fault : Outline.Fault → MapFault) :
    (outlineTree settings recorded bytes tree fault).outcome =
      (Outline.mapTree ⟨bytes, settings.contextualVisibility⟩ recorded tree).outcome.mapError
        fault := by
  simp only [outlineTree, Traced.outcome_bind, Traced.outcome_reword]
  cases (Outline.mapTree ⟨bytes, settings.contextualVisibility⟩ recorded tree).outcome with
  | error cause => rfl
  | ok result => rfl

/-- A file is refused, and then mapping it fails as a fault of this file, or accepted, and then its
outline is that of its tree. -/
theorem mapFile_cases (settings : Settings) (root : Option String)
    (hparse : GroundsTexts sources.parse)
    (hnull : '\x00' ∉ (sources.store.locate path).text.toList) :
    (∃ named cause, (mapFile sources settings root path).outcome = .error (.file ⟨named, cause⟩) ∧
        Refused sources settings path cause) ∨
      ∃ bytes tree result, Accepted sources settings path bytes tree ∧
        (mapFile sources settings root path).outcome = .ok result ∧
        (Outline.mapTree ⟨bytes, settings.contextualVisibility⟩
          (recordedPath sources.store root (sources.store.locate path)) tree).outcome =
            .ok result := by
  obtain ⟨named, cause, hread, hrefused⟩ | ⟨bytes, tree, hread, hholds⟩ :=
    readSource_cases settings hnull
  · exact .inl ⟨named, cause, by rw [outcome_mapFile, hread]; rfl, hrefused⟩
  obtain ⟨content, text, -, -, htext, htree⟩ := id hholds
  have hgrounded : tree.Grounded bytes := htree ▸ hparse bytes text htext
  by_cases hclean : tree.hasError = false ∨ settings.strictSyntax = false
  · -- The tree passes, perhaps with a warning, and the walk is all that can still fail.
    have hfile := outcome_mapFile sources settings root path
    simp only [hread, Except.bind, checkSyntax_of_passes hclean, outcome_outlineTree] at hfile
    obtain ⟨⟨result, hresult⟩, hshort⟩ | ⟨⟨fault, hfault⟩, hlong⟩ :=
      Outline.mapTree_cases ⟨bytes, settings.contextualVisibility⟩
        (recordedPath sources.store root (sources.store.locate path)) htext hgrounded
    · rw [hresult] at hfile
      refine .inr ⟨bytes, tree, result, ⟨hholds, ?_, ?_⟩, hfile, hresult⟩
      · intro hstrict
        obtain hclean | hlenient := hclean
        · exact hclean
        · rw [hlenient] at hstrict
          cases hstrict
      · rintro ⟨place, hreached, hover⟩
        exact hshort place hreached hover
    · rw [hfault] at hfile
      exact .inl ⟨_, .tooManyDigits fault, hfile, .tooManyDigits fault hholds hlong⟩
  · -- Strict syntax refuses the tree for an error that is reported.
    rw [not_or, Bool.not_eq_false, Bool.not_eq_false] at hclean
    obtain ⟨herror, hstrict⟩ := hclean
    have hfile := outcome_mapFile sources settings root path
    simp only [hread, Except.bind, checkSyntax, herror, hstrict, Bool.not_true, Bool.false_eq_true,
      if_false, if_true, Traced.outcome_fail] at hfile
    exact .inl ⟨_, _, hfile, .syntaxErrors hholds hstrict herror⟩

/-- Something becomes of every source file, by what the file holds. -/
theorem exists_becomes (settings : Settings) (root : String) (hparse : GroundsTexts sources.parse)
    (hnull : '\x00' ∉ (sources.store.locate path).text.toList) :
    ∃ outcome, (mapListed sources settings root path).outcome = .ok outcome ∧
      Becomes sources settings root path outcome := by
  rw [outcome_mapListed]
  obtain ⟨named, cause, hfault, hrefused⟩ | ⟨bytes, tree, result, haccepted, hresult, htree⟩ :=
    mapFile_cases settings (some root) hparse hnull
  · rw [hfault]
    exact ⟨_, rfl, .failed hrefused⟩
  · rw [hresult]
    cases result with
    | none => exact ⟨_, rfl, .empty haccepted ((Outline.mapTree_eq_none_iff htree).1 rfl)⟩
    | some file => exact ⟨_, rfl, .mapped haccepted htree⟩

/-- What becomes of a file depends on nothing in the store but what is read at its path. -/
theorem mapListed_of_read {others : Store} (hdir : others.workingDir = sources.store.workingDir)
    (hread : others.read (sources.store.locate path).text =
      sources.store.read (sources.store.locate path).text) (root : String) :
    mapListed ⟨others, sources.parse⟩ settings root path =
      mapListed sources settings root path := by
  -- Paths are located from the same directory in both stores.
  have hlocate : ∀ path, others.locate path = sources.store.locate path := by
    intro path
    rw [Store.locate, Store.locate, hdir]
  apply mapListed_congr
  · simp only [mapFile, readSource, recordedPath, hlocate, hread]
  · simp only [failedPath, recordedPath, hlocate]

/-- Mapping a project returns, with a parser that grounds its trees. The outline of a tree of a text
comes out unless a summary in it has too long a number, which is the only fault. A source file is mapped
unless it is refused, and then the fault is one of this file. It is refused for its errors only if it has a
faulty node, as far as the parser reports nothing else. And whatever the files of a project hold,
something becomes of each by what it holds itself, and the project has the files that are mapped and
those that are left out, both in the order of the sources. What becomes of a file is the same in every
store in which the file reads the same. -/
theorem mapProject_returns (sources : Sources) (settings : Settings)
    (hparse : GroundsTexts sources.parse) :
    (∀ (setting : Outline.Setting) (path : String) (tree : Node) (text : List Char),
      decode setting.source = .ok text → tree.Grounded setting.source →
      ((∃ result, (Outline.mapTree setting path tree).outcome = .ok result ∧
          (result = none ↔ ∀ place, ¬ Reached setting tree place)) ∧
        ∀ place, Reached setting tree place → ¬ OverlongAt setting tree place.2) ∨
      ((∃ fault, (Outline.mapTree setting path tree).outcome = .error (.tooManyDigits fault)) ∧
        ∃ place, Reached setting tree place ∧ OverlongAt setting tree place.2)) ∧
    (∀ (root : Option String) (path : String),
      '\x00' ∉ (sources.store.locate path).text.toList →
      ((∃ result, (mapFile sources settings root path).outcome = .ok result) ∧
          ∀ cause, ¬ Refused sources settings path cause) ∨
        ∃ named cause, (mapFile sources settings root path).outcome =
          .error (.file ⟨named, cause⟩) ∧ Refused sources settings path cause) ∧
    (∀ (path : String) (bytes : Bytes) (tree : Node) (count : Nat),
      HoldsText sources path bytes tree → tree.ReportsOnlyFaults →
      Refused sources settings path (.syntaxErrors count) →
      ∃ node, tree.Within node ∧ node.isFaulty = true) ∧
    ∀ projectUnit : ProjectUnit,
      (∀ path ∈ projectUnit.sourceFiles, '\x00' ∉ (sources.store.locate path).text.toList) →
      ∃ fate : String → FileOutcome,
        (mapProject sources settings projectUnit).outcome = .ok
          { name := projectUnit.name
            files := projectUnit.sourceFiles.filterMap fun path => (fate path).file?
            counts := countFiles (projectUnit.sourceFiles.filterMap fun path => (fate path).file?)
            failedFiles := projectUnit.sourceFiles.filterMap fun path => (fate path).failed? } ∧
        ∀ path ∈ projectUnit.sourceFiles,
          Becomes sources settings projectUnit.root path (fate path) ∧
          ∀ others : Store, others.workingDir = sources.store.workingDir →
            others.read (sources.store.locate path).text =
              sources.store.read (sources.store.locate path).text →
            (mapListed ⟨others, sources.parse⟩ settings projectUnit.root path).outcome =
              .ok (fate path) := by
  refine ⟨?_, ?_, fun path bytes tree count => exists_isFaulty_of_refused, ?_⟩
  · intro setting path tree text htext hgrounded
    obtain ⟨⟨result, hresult⟩, hshort⟩ | hlong :=
      Outline.mapTree_cases setting path htext hgrounded
    · exact .inl ⟨⟨result, hresult, Outline.mapTree_eq_none_iff hresult⟩, hshort⟩
    · exact .inr hlong
  · intro root path hnull
    obtain hrefused | ⟨bytes, tree, result, haccepted, hresult, -⟩ :=
      mapFile_cases settings root hparse hnull
    · exact .inr hrefused
    · exact .inl ⟨⟨result, hresult⟩, fun cause => haccepted.not_refused⟩
  · intro projectUnit hnull
    -- The fate of a source is what becomes of it; of other paths it does not matter.
    have hsome : ∀ path, ∃ outcome, path ∈ projectUnit.sourceFiles →
        (mapListed sources settings projectUnit.root path).outcome = .ok outcome ∧
          Becomes sources settings projectUnit.root path outcome := by
      intro path
      by_cases hpath : path ∈ projectUnit.sourceFiles
      · obtain ⟨outcome, houtcome⟩ :=
          exists_becomes settings projectUnit.root hparse (hnull path hpath)
        exact ⟨outcome, fun _ => houtcome⟩
      · exact ⟨.empty, fun hmem => absurd hmem hpath⟩
    obtain ⟨fate, hfate⟩ := Classical.axiomOfChoice hsome
    refine ⟨fate, mapProject_eq_ok_iff.2 ⟨fate, fun path hpath => (hfate path hpath).1, rfl⟩, ?_⟩
    intro path hpath
    refine ⟨(hfate path hpath).2, fun others hdir hread => ?_⟩
    rw [mapListed_of_read hdir hread]
    exact (hfate path hpath).1

/-- A project with a source of a class `é`, one whose tree has a faulty node, one that is not UTF-8, a
comment, a directory, and a file that is not there. -/
def fallibleSources : Sources where
  store := {
    root := [("a", .dir [("A.cs", .file (Text.Utf8.ofString "class é \x7b \x7d")),
      ("B.cs", .file (Text.Utf8.ofString "class 1A \x7b \x7d")), ("C.cs", .file [0xC3, 40]),
      ("D.cs", .file (Text.Utf8.ofString "// c")), ("E.cs", .dir [])])]
    workingDir := ⟨false, []⟩ }
  parse := Syntax.parseSample

/-- The project. -/
def fallibleUnit : ProjectUnit :=
  ⟨"P", "/a", ["/a/A.cs", "/a/B.cs", "/a/C.cs", "/a/D.cs", "/a/E.cs", "/a/F.cs"]⟩

/-- The parser of the project grounds its trees. -/
theorem fallibleSources_groundsTexts : GroundsTexts fallibleSources.parse :=
  fun _ _ htext => Syntax.parseSample_grounded htext

/-- Of the six files one is mapped and one has no declarations, and the others are left out. -/
theorem fallibleUnit_returns : GroundsTexts fallibleSources.parse ∧
    (∀ path ∈ fallibleUnit.sourceFiles,
      '\x00' ∉ (fallibleSources.store.locate path).text.toList) ∧
    ∃ fate : String → FileOutcome, ∃ project,
      (mapProject fallibleSources { strictSyntax := true } fallibleUnit).outcome = .ok project ∧
      project.files.map FileMap.path = ["A.cs"] ∧
      project.failedFiles = ["B.cs", "C.cs", "E.cs", "F.cs"] ∧
      ∀ path ∈ fallibleUnit.sourceFiles,
        Becomes fallibleSources { strictSyntax := true } "/a" path (fate path) := by
  have hnull : ∀ path ∈ fallibleUnit.sourceFiles,
      '\x00' ∉ (fallibleSources.store.locate path).text.toList := by decide +kernel
  obtain ⟨-, -, -, hproject⟩ :=
    mapProject_returns fallibleSources { strictSyntax := true } fallibleSources_groundsTexts
  obtain ⟨fate, hmapped, hfate⟩ := hproject fallibleUnit hnull
  have hlisted : (mapProject fallibleSources { strictSyntax := true } fallibleUnit).outcome.map
      (fun project => (project.files.map FileMap.path, project.failedFiles)) =
        .ok (["A.cs"], ["B.cs", "C.cs", "E.cs", "F.cs"]) := by
    rfl
  rw [hmapped] at hlisted
  obtain ⟨hpaths, hfailed⟩ := Prod.mk.inj (Except.ok.inj hlisted)
  exact ⟨fallibleSources_groundsTexts, hnull, fate, _, hmapped, hpaths, hfailed,
    fun path hpath => (hfate path hpath).1⟩

/-! ## A text that is not mapped -/

/-- A text with a tree that is grounded in it has no outline if a number in a summary is too long. -/
theorem longNumber_not_mapped :
    let sample : Outline.Commented := ⟨[], Doc.lineComment Doc.longLine, ['\n']⟩
    decode sample.source = .ok sample.text ∧ sample.tree.Grounded sample.source ∧
      ∃ fault, (Outline.mapTree ⟨sample.source, false⟩ "A.cs" sample.tree).outcome =
        .error (.tooManyDigits fault) := by
  intro sample
  have hgap : sample.gap ≤ 1 := by decide
  obtain ⟨hdoc, hlong⟩ := Doc.longLine_comments sample.comment (List.mem_cons_self ..)
  exact ⟨sample.decode_source, sample.grounded_tree, Outline.Commented.tree_fails hgap hdoc hlong "A.cs"⟩

end ApiOutline.Mapping
