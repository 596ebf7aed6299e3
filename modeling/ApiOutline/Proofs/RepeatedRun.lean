import ApiOutline.Proofs.RunAccounts
import ApiOutline.Proofs.StoreListing
import ApiOutline.Proofs.WholeWrites

/-!
# A run repeated

A run that is repeated on the store it leaves returns the same result and changes no file. Three facts carry
this over the steps of both runs. What a run writes is never listed as a project or a source, so both find
the same projects and map them to the same outlines. All artifacts go to one directory, and once a write has
made the way to it, this way and the directories beside it are the same for every later write (`SameWay`):
so an artifact is written by both runs or by neither. Last, at each place the second run shows what the first
has left at its end or what the first shows at the same step (`Between`), and at its end these are the same.
-/

namespace ApiOutline.Files.Store

/-! ## The way to a place -/

/-- Whether the way to a place is the same in two stores: making it has the same outcome, and then there are
the same directories. -/
structure SameWay (place : List String) (store other : Store) : Prop where
  workingDir : other.workingDir = store.workingDir
  outcome : (other.makeDirectories place).1 = (store.makeDirectories place).1
  dirs : ∀ p, (other.makeDirectories place).2.sight? p = some .dir ↔
    (store.makeDirectories place).2.sight? p = some .dir

namespace SameWay

variable {place : List String} {store other third : Store} {path content : String}

/-- The way is the same in one store. -/
theorem refl (place : List String) (store : Store) : SameWay place store store :=
  ⟨rfl, rfl, fun _ => .rfl⟩

/-- The way is the same in either direction. -/
theorem symm (h : SameWay place store other) : SameWay place other store :=
  ⟨h.workingDir.symm, h.outcome.symm, fun p => (h.dirs p).symm⟩

/-- The way is the same through a third store. -/
theorem trans (h : SameWay place store other) (h' : SameWay place other third) :
    SameWay place store third :=
  ⟨h'.workingDir.trans h.workingDir, h'.outcome.trans h.outcome, fun p => (h'.dirs p).trans (h.dirs p)⟩

/-- The way is the same where it was made, as long as nothing on it is changed and the directories are the
same. -/
theorem of_made (hwork : other.workingDir = store.workingDir)
    (hway : ∀ p, p <+: place → other.sight? p = (store.makeDirectories place).2.sight? p)
    (hdirs : ∀ p, other.sight? p = some .dir ↔
      (store.makeDirectories place).2.sight? p = some .dir) : SameWay place store other := by
  obtain ⟨houtcome, hsight⟩ := makeAll_again hway
  refine ⟨hwork, houtcome, fun p => ?_⟩
  have hagain : (other.makeDirectories place).2.sight? p = other.sight? p := congrFun hsight p
  rw [hagain, hdirs]

/-- Writing a text keeps the way to its directory. -/
theorem writeText (store : Store) (path content : String) :
    SameWay (store.locate path).parent.parts store (store.writeText .nowhere path content).2 := by
  by_cases hfails : ∃ step, StepFails store .nowhere path step
  · -- A write that fails leaves nothing but the way.
    obtain ⟨fault, hwrite⟩ := writeText_of_stepFails content hfails
    rw [hwrite]
    exact of_made rfl (fun p _ => rfl) fun p => .rfl
  · obtain ⟨name, htarget, hwrite⟩ := writeText_of_no_stepFails content hfails
    rw [hwrite]
    refine of_made rfl (fun p hp => ?_) fun p => ?_
    · -- The file is below the end of the way, so not on it.
      rw [sight?_put _ htarget.dir htarget.free, Function.update_of_ne]
      rintro rfl
      have hlength := hp.length_le
      rw [List.length_append, List.length_singleton] at hlength
      omega
    · rw [sight?_put _ htarget.dir htarget.free]
      by_cases hp : p = (store.locate path).parent.parts ++ [name]
      · rw [hp, Function.update_self]
        exact ⟨nofun, fun h => absurd h htarget.free⟩
      · rw [Function.update_of_ne hp]

/-- A path has the same target where the way to its directory is the same. -/
theorem target_iff (h : SameWay place store other) {directory : List String} {name : String} :
    Target (other.makeDirectories place).2 path directory name ↔
      Target (store.makeDirectories place).2 path directory name :=
  ⟨fun ht => ht.mono h.workingDir.symm (fun p => (h.dirs p).1) (mt (h.dirs _).2 ht.free),
    fun ht => ht.mono h.workingDir (fun p => (h.dirs p).2) (mt (h.dirs _).1 ht.free)⟩

/-- The same steps of writing a text fail where the way to its directory is the same. -/
theorem stepFails_iff (h : SameWay (store.locate path).parent.parts store other)
    (faults : WriteFaults) (step : WriteStep) :
    StepFails other faults path step ↔ StepFails store faults path step := by
  have hlocate := locate_of_workingDir h.workingDir path
  cases step with
  | makeDirectories => simp only [StepFails, hlocate, h.outcome]
  | makeTemporary => exact .rfl
  | fill => exact .rfl
  | replace => simp only [StepFails, hlocate, h.target_iff]

/-- Writing a text fails in both stores or in none where the way to its directory is the same. -/
theorem writeText_fails_iff (h : SameWay (store.locate path).parent.parts store other)
    (faults : WriteFaults) (content : String) :
    (∃ fault, (other.writeText faults path content).1 = .error fault) ↔
      ∃ fault, (store.writeText faults path content).1 = .error fault := by
  rw [(wholeWrite_writeText other faults path content).raises,
    (wholeWrite_writeText store faults path content).raises]
  exact exists_congr (h.stepFails_iff faults)

end SameWay

variable {store other last : Store} {path content : String}

/-- A path has no place for a file because of a null character if and only if it has one. -/
theorem moveTarget_nullCharacter_iff :
    store.moveTarget path = .error .nullCharacter ↔ '\x00' ∈ path.toList := by
  unfold moveTarget
  -- The path is checked first, and no later step looks for the character.
  rw [Outcome.unless_eq_error]
  refine ⟨?_, fun hnull => .inl ⟨hnull, rfl⟩⟩
  rintro (⟨hnull, -⟩ | ⟨-, h⟩)
  · exact hnull
  exfalso
  obtain ⟨-, ⟨⟩⟩ | ⟨-, h⟩ := Outcome.unless_eq_error.1 h
  obtain h | ⟨place, -, h⟩ := Outcome.bind_eq_error.1 h
  · exact follow_ne_nullCharacter _ _ _ h
  cases hdir : store.directory? place with
  | none =>
    rw [hdir] at h
    cases h
  | some entries =>
    simp only [hdir] at h
    cases hlast : (partsOf path).getLast? with
    | none =>
      rw [hlast] at h
      cases h
    | some name =>
      simp only [hlast] at h
      obtain ⟨-, ⟨⟩⟩ | ⟨-, h⟩ := Outcome.unless_eq_error.1 h
      obtain ⟨-, ⟨⟩⟩ | ⟨-, h⟩ := Outcome.unless_eq_error.1 h
      obtain ⟨-, ⟨⟩⟩ | ⟨-, h⟩ := Outcome.unless_eq_error.1 h
      split at h <;> cases h

/-- Writing a text meets a null character on the way to its directory or, if that can be made, in the path. -/
theorem writeText_nullCharacter_iff :
    (store.writeText .nowhere path content).1 = .error .nullCharacter ↔
      (store.makeDirectories (store.locate path).parent.parts).1 = .error .nullCharacter ∨
        (store.makeDirectories (store.locate path).parent.parts).1 = .ok () ∧
          '\x00' ∈ path.toList := by
  rw [writeText_eq]
  simp only [WriteFaults.nowhere, Option.none_or]
  -- The way fails, or the file is moved to its place and only that can meet the character.
  rcases store.makeDirectories (store.locate path).parent.parts with ⟨fault | _, made⟩
  · simp
  · simp only [true_and, reduceCtorEq, false_or]
    rw [← @moveTarget_nullCharacter_iff (made.put (store.locate path).parent.parts
      (temporaryName ((made.directory? (store.locate path).parent.parts).getD []))
      (.file (Text.Utf8.ofString content)))]
    generalize Store.moveTarget _ path = moved
    rcases moved with fault | ⟨directory, name⟩ <;> simp

/-- Writing a text meets a null character in both stores or in none where the way to its directory is the
same. -/
theorem SameWay.writeText_nullCharacter_iff
    (h : SameWay (store.locate path).parent.parts store other) :
    (other.writeText .nowhere path content).1 = .error .nullCharacter ↔
      (store.writeText .nowhere path content).1 = .error .nullCharacter := by
  rw [Store.writeText_nullCharacter_iff, Store.writeText_nullCharacter_iff,
    locate_of_workingDir h.workingDir, h.outcome]

/-! ## Between two stores -/

/-- Whether each place of a store is as in one of two others. -/
def Between (last store other : Store) : Prop :=
  ∀ p, other.sight? p = last.sight? p ∨ other.sight? p = store.sight? p

/-- A store stays between two others when the same way is made in it and in one of them. -/
theorem Between.makeDirectories {place : List String} (h : Between last store other)
    (hway : SameWay place store other) :
    Between last (store.makeDirectories place).2 (other.makeDirectories place).2 := by
  intro p
  obtain hkept | ⟨-, hnew, -⟩ := (makesWay_makeDirectories other place).sight p
  · obtain hlast | hstore := h p
    · exact .inl (hkept.trans hlast)
    · right
      obtain hsame | ⟨hnone, hdir, -⟩ := (makesWay_makeDirectories store place).sight p
      · rw [hkept, hstore, hsame]
      · -- A directory that is new in one store is there in the other, too, so it is not missing.
        rw [(hway.dirs p).2 hdir, hdir]
  · exact .inr (by rw [hnew, (hway.dirs p).1 hnew])

/-- A store stays between two others when the same text is written to it and to one of them. -/
theorem Between.writeText (h : Between last store other)
    (hway : SameWay (store.locate path).parent.parts store other) (content : String) :
    Between last (store.writeText .nowhere path content).2
      (other.writeText .nowhere path content).2 := by
  have hmade := h.makeDirectories hway
  have hlocate := locate_of_workingDir hway.workingDir path
  have hsteps : (∃ step, StepFails other .nowhere path step) ↔
      ∃ step, StepFails store .nowhere path step :=
    exists_congr (hway.stepFails_iff .nowhere)
  by_cases hfails : ∃ step, StepFails store .nowhere path step
  · -- Both writes end with the way that they made.
    obtain ⟨_, hwrite⟩ := writeText_of_stepFails content hfails
    obtain ⟨_, hwrite'⟩ := writeText_of_stepFails content (hsteps.2 hfails)
    rw [hwrite, hwrite', hlocate]
    exact hmade
  · obtain ⟨name, htarget, hwrite⟩ := writeText_of_no_stepFails content hfails
    obtain ⟨name', htarget', hwrite'⟩ := writeText_of_no_stepFails content (mt hsteps.1 hfails)
    -- Both targets have the last part of the path as their name.
    obtain rfl : name' = name := Option.some_inj.1 (htarget'.last.symm.trans htarget.last)
    rw [hlocate] at htarget' hwrite'
    intro p
    rw [hwrite, hwrite', sight?_put _ htarget.dir htarget.free, sight?_put _ htarget'.dir htarget'.free]
    by_cases hp : p = (store.locate path).parent.parts ++ [name']
    · rw [hp, Function.update_self, Function.update_self]
      exact .inr rfl
    · rw [Function.update_of_ne hp, Function.update_of_ne hp]
      exact hmade p

end ApiOutline.Files.Store

namespace ApiOutline.Run

open Discovery (ProjectUnit IsSource SameListing sourceSuffix projectSuffix)
open Files (Store)
open Mapping (mapProject)
open Syntax (Node parseSample)
open Text (Bytes)

variable {parse : Bytes → Node} {settings : Settings} {base last store other next : Store}

/-! ## What a run leaves alone -/

/-- All artifacts of a run are put in the output directory. -/
theorem parent_locate_path {visit : Visit} (hname : '/' ∉ visit.projectUnit.name.toList)
    (hgrows : base.Grows store) :
    (store.locate (visit.path settings)).parent.parts = (base.locate settings.outputDir).parts := by
  rw [Visit.path, Files.Location.parent, locate_artifactPath hname, ← hgrows.locate settings.outputDir,
    List.dropLast_concat]

/-- A visit changes no listing of sources or projects. -/
theorem Handles.sameListing {visit : Visit} (h : Handles parse settings store visit next)
    (hname : '/' ∉ visit.projectUnit.name.toList) :
    SameListing sourceSuffix store next ∧ SameListing projectSuffix store next := by
  obtain hnext | hnext := h.store_eq
  · rw [hnext]
    exact ⟨fun _ => rfl, fun _ => rfl⟩
  · -- The name of the artifact has another suffix, so no listing shows it.
    have hartifact : (store.locate (visit.path settings)).name =
        artifactName visit.projectUnit.name settings.outputFormat := by
      rw [Files.Location.name, Visit.path, locate_artifactPath hname, List.getLast?_concat,
        Option.getD_some]
    have hsuffix := suffix_artifactName visit.projectUnit.name settings.outputFormat
    rw [← hartifact] at hsuffix
    rw [hnext]
    exact ⟨Discovery.sameListing_writeText _ _ hsuffix.1, Discovery.sameListing_writeText _ _ hsuffix.2⟩

/-- A visit keeps the way to the output directory. -/
theorem Handles.sameWay {visit : Visit} (h : Handles parse settings store visit next)
    (hname : '/' ∉ visit.projectUnit.name.toList) (hgrows : base.Grows store) :
    Store.SameWay (base.locate settings.outputDir).parts store next := by
  obtain hnext | hnext := h.store_eq
  · rw [hnext]
    exact .refl _ _
  · rw [hnext, ← parent_locate_path hname hgrows]
    exact .writeText store _ _

/-- Visits change no listing of sources or projects and keep the way to the output directory. -/
theorem Visits.sameListing_sameWay {visits : List Visit}
    (h : Visits parse settings store visits last) (hgrows : base.Grows store)
    (hnames : ∀ visit ∈ visits, '/' ∉ visit.projectUnit.name.toList) :
    SameListing sourceSuffix store last ∧ SameListing projectSuffix store last ∧
      Store.SameWay (base.locate settings.outputDir).parts store last := by
  induction h with
  | nil store => exact ⟨fun _ => rfl, fun _ => rfl, .refl _ _⟩
  | cons first _ ih =>
    rw [List.forall_mem_cons] at hnames
    obtain ⟨hsources, hprojects⟩ := first.sameListing hnames.1
    obtain ⟨hsources', hprojects', hway⟩ := ih (hgrows.trans first.grows) hnames.2
    exact ⟨fun enters => (hsources' enters).trans (hsources enters),
      fun enters => (hprojects' enters).trans (hprojects enters),
      (first.sameWay hnames.1 hgrows).trans hway⟩

/-! ## Two runs side by side -/

/-- How the store of a repeated run stands to that of the first run at the same step, where the first run
started from a base and was at its end as in `last`. -/
structure Repeats (settings : Settings) (base last store other : Store) : Prop where
  /-- Both runs read the same sources. -/
  sources : KeepsSources base store
  sources' : KeepsSources base other
  /-- Artifacts are written in both runs or in neither. -/
  way : Store.SameWay (base.locate settings.outputDir).parts store other
  between : Store.Between last store other

/-- A visit is one in another store, too, if the project has the same outline there and its artifact fails to
be written in both stores or in none. -/
theorem Handles.transfer {visit : Visit} (h : Handles parse settings store visit next)
    (hmap : mapProject ⟨other, parse⟩ settings visit.projectUnit =
      mapProject ⟨store, parse⟩ settings visit.projectUnit)
    (hfails : (∃ fault, (other.writeText .nowhere (visit.path settings) visit.text).1 =
        .error fault) ↔
      ∃ fault, (store.writeText .nowhere (visit.path settings) visit.text).1 =
        .error fault) :
    ∃ next', Handles parse settings other visit next' ∧
      (next = store ∧ next' = other ∨
        next = (store.writeText .nowhere (visit.path settings) visit.text).2 ∧
        next' = (other.writeText .nowhere (visit.path settings) visit.text).2) := by
  obtain ⟨hmapped, h⟩ := h
  rw [← hmap] at hmapped
  -- A write that succeeds answers with the path it was given.
  have hanswer := @Store.exists_target_of_writeText other .nowhere (visit.path settings)
    visit.text
  cases hfate : visit.fate with
  | skipped =>
    simp only [hfate] at h
    refine ⟨other, ⟨hmapped, ?_⟩, .inl ⟨h.2, rfl⟩⟩
    simpa only [hfate, and_true] using h.1
  | written =>
    simp only [hfate] at h
    obtain ⟨hfiles, hrendered, hwrite⟩ := h
    rw [hwrite] at hfails ⊢
    generalize hstep : other.writeText .nowhere (visit.path settings) visit.text = step
      at hfails hanswer ⊢
    obtain ⟨fault | answer, next'⟩ := step
    · obtain ⟨_, hnone⟩ := hfails.1 ⟨fault, rfl⟩
      cases hnone
    · obtain ⟨rfl, -⟩ := hanswer rfl
      refine ⟨next', ⟨hmapped, ?_⟩, .inr ⟨rfl, rfl⟩⟩
      simpa only [hfate] using ⟨hfiles, hrendered, hstep⟩
  | failed =>
    simp only [hfate] at h
    obtain ⟨hfiles, hrendered, fault, hwrite⟩ := h
    rw [hwrite] at hfails ⊢
    obtain ⟨fault', hfault'⟩ := hfails.2 ⟨fault, rfl⟩
    generalize hstep : other.writeText .nowhere (visit.path settings) visit.text = step
      at hfault' ⊢
    obtain ⟨outcome, next'⟩ := step
    refine ⟨next', ⟨hmapped, ?_⟩, .inr ⟨rfl, rfl⟩⟩
    cases hfault'
    simpa only [hfate] using ⟨hfiles, hrendered, fault', hstep⟩

/-- A visit of the first run is one of the second run, after which that goes on if the first does. -/
theorem Repeats.handles {visit : Visit} (h : Repeats settings base last store other)
    (hvisit : Handles parse settings store visit next) (hgoes : GoesOn settings store visit)
    (hname : '/' ∉ visit.projectUnit.name.toList)
    (hsources : ∀ source ∈ visit.projectUnit.sourceFiles, IsSource base source) :
    ∃ next', Handles parse settings other visit next' ∧ GoesOn settings other visit ∧
      Repeats settings base last next next' := by
  -- In both stores the sources are those of the base, so the outline is the one there.
  have hmap : mapProject ⟨other, parse⟩ settings visit.projectUnit =
      mapProject ⟨store, parse⟩ settings visit.projectUnit := by
    rw [mapProject_of_keepsSources h.sources' hsources, mapProject_of_keepsSources h.sources hsources]
  have hway : Store.SameWay (store.locate (visit.path settings)).parent.parts store other := by
    rw [parent_locate_path hname h.sources.grows]
    exact h.way
  obtain ⟨next', hvisit', hnext⟩ :=
    hvisit.transfer hmap (hway.writeText_fails_iff .nowhere visit.text)
  have hkept := (hvisit.sameWay hname h.sources.grows).symm.trans h.way
  refine ⟨next', hvisit', fun hfate => mt hway.writeText_nullCharacter_iff.1 (hgoes hfate), ?_⟩
  exact {
    sources := hvisit.keepsSources h.sources hname
    sources' := hvisit'.keepsSources h.sources' hname
    way := hkept.trans (hvisit'.sameWay hname h.sources'.grows)
    between := by
      obtain ⟨hstore, hother⟩ | ⟨hstore, hother⟩ := hnext
      · rw [hstore, hother]
        exact h.between
      · rw [hstore, hother]
        exact h.between.writeText hway _ }

/-- Steps of the first run that succeed do so in the second run, with the same result. -/
theorem Repeats.runUnits {journal : Journal} {after : World} {result final : RunResult}
    {units : List ProjectUnit} (h : Repeats settings base last store other)
    (hunits : ∀ projectUnit ∈ units, '/' ∉ projectUnit.name.toList ∧
      ∀ source ∈ projectUnit.sourceFiles, IsSource base source)
    (hrun : runUnits parse settings units result ⟨store, journal⟩ = (.ok final, after))
    (journal' : Journal) :
    ∃ again, runUnits parse settings units result ⟨other, journal'⟩ = (.ok final, again) ∧
      Repeats settings base last after.store again.store := by
  induction units generalizing store other journal journal' result with
  | nil =>
    cases hrun
    exact ⟨_, rfl, h⟩
  | cons projectUnit units ih =>
    rw [List.forall_mem_cons] at hunits
    rw [Run.runUnits] at hrun
    generalize hstep : runUnit parse settings result projectUnit ⟨store, journal⟩ = step at hrun
    obtain ⟨fault | middle, world⟩ := step
    · cases hrun
    -- The step is a visit, which is carried over to the other store and is a step again there.
    obtain ⟨visit, rfl, hvisit, hgoes, rfl⟩ := visit_of_runUnit hstep
    obtain ⟨next', hvisit', hgoes', hnext⟩ := h.handles hvisit hgoes hunits.1.1 hunits.1.2
    obtain ⟨world', hstep', rfl⟩ :=
      @runUnit_of_handles parse settings visit ⟨other, journal'⟩ next' hvisit' hgoes' result
    obtain ⟨again, hagain, hlast⟩ := ih hnext hunits.2 hrun world'.journal
    refine ⟨again, ?_, hlast⟩
    rw [Run.runUnits, hstep']
    exact hagain

/-- A run that returns can be repeated on the store that it leaves: the second run returns the same result
and changes nothing in any place of the store. Whatever the first run wrote or made, the same files are listed
as sources and as projects below every place as before it, so the same projects are found. -/
theorem run_again (parse : Bytes → Node) (settings : Settings) (root : String) (world after : World)
    (result : RunResult) (hstore : world.store.WellFormed)
    (h : run parse settings root world = (.ok result, after)) :
    (∀ journal, ∃ again, run parse settings root ⟨after.store, journal⟩ = (.ok result, again) ∧
      again.store.sight? = after.store.sight?) ∧
    (∀ excluded location,
      Discovery.filesBelow after.store sourceSuffix excluded location =
        Discovery.filesBelow world.store sourceSuffix excluded location ∧
      Discovery.filesBelow after.store projectSuffix excluded location =
        Discovery.filesBelow world.store projectSuffix excluded location) ∧
    Discovery.findProjects after.store settings.excludeDirs (after.store.locate root).text =
      Discovery.findProjects world.store settings.excludeDirs (world.store.locate root).text := by
  obtain ⟨units, hdir, hsummary, hfound, journal, middle, hunits, hmiddle⟩ := runUnits_of_run h
  obtain ⟨visits, hvisited, hvisits, -⟩ := visits_of_runUnits hunits
  rw [hmiddle] at hvisits
  have hfacts := Discovery.of_findProjects hstore hfound
  have hnames : ∀ visit ∈ visits, '/' ∉ visit.projectUnit.name.toList := fun visit hvisit =>
    (hfacts _ (hvisited ▸ List.mem_map_of_mem hvisit)).1
  have hgrows := hvisits.grows
  obtain ⟨hsources, hprojects, hway⟩ := hvisits.sameListing_sameWay (.refl _) hnames
  have hfind : Discovery.findProjects after.store settings.excludeDirs (after.store.locate root).text =
      Discovery.findProjects world.store settings.excludeDirs (world.store.locate root).text := by
    -- The root is there, so its names are proper and its text leads to it.
    obtain ⟨entries, hentries⟩ := Option.isSome_iff_exists.1 hdir
    have htree : (Files.Entry.dir world.store.root).WellFormed := hstore
    have hroot := Files.locate_text (htree.of_find? (Store.find?_of_directory? hentries)).2 world.store
    rw [hgrows.locate]
    exact Discovery.findProjects_of_sameListing hprojects hsources hgrows (by rw [hroot]; exact hdir) _
  refine ⟨fun journal => ?_, fun excluded location => ?_, hfind⟩
  · have hstart : Repeats settings world.store after.store world.store after.store := {
      sources := .refl _
      sources' := hvisits.keepsSources (.refl _) hnames
      way := hway
      between := fun p => .inl rfl }
    obtain ⟨last, hlast, hend⟩ := hstart.runUnits hfacts hunits {}
    -- The root is still a directory, and the same projects are found below it.
    have hdir' : (after.store.directory? (after.store.locate root).parts).isSome = true := by
      rw [hgrows.locate]
      exact Store.directory?_isSome_iff.2 (hgrows.dirs _ (Store.directory?_isSome_iff.1 hdir))
    have hfound' := hfound
    rw [← hfind] at hfound'
    obtain ⟨again, hagain, hstores⟩ := @run_of_runUnits parse settings root result after.store journal
      units hdir' hfound' (by rw [hlast]) hsummary
    refine ⟨again, hagain, ?_⟩
    funext p
    rw [hstores, hlast]
    -- At its end the first run shows what it has left, so the second run shows that everywhere.
    obtain hsame | hsame := hend.between p
    · exact hsame
    · rw [hsame, hmiddle]
  · exact ⟨hsources.filesBelow_eq excluded location, hprojects.filesBelow_eq excluded location⟩

/-- Two runs over the three projects leave the same store, although one artifact cannot be written and the
output directory is below the root. -/
theorem mixedProjects_again : mixedProjects.WellFormed ∧ ∃ after again,
    run parseSample {} "/" ⟨mixedProjects, {}⟩ = (.ok mixedResult, after) ∧
      run parseSample {} "/" after = (.ok mixedResult, again) ∧
      again.store.sight? = after.store.sight? := by
  obtain ⟨after, hrun⟩ := run_mixedProjects
  obtain ⟨hagain, -⟩ :=
    run_again parseSample {} "/" ⟨mixedProjects, {}⟩ after mixedResult mixedProjects_wellFormed hrun
  obtain ⟨again, hsecond, hsight⟩ := hagain after.journal
  exact ⟨mixedProjects_wellFormed, after, again, hrun, hsecond, hsight⟩

end ApiOutline.Run
