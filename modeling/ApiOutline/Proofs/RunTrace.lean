import ApiOutline.Proofs.Discovered
import ApiOutline.Proofs.MappedProject
import ApiOutline.Run.Run

/-!
# The course of a run

A run visits the projects it finds one after another. A `Visit` is a project with its outline and its
fate: skipped, because it has no outline of any file, written, or failed to be written. `Handles` says
what one visit does to the store and `Visits` what a list of them does; `visits_of_run` says that every
run that returns is such a course, and that its result is what the visits record. Visits are steps of a run
again (`runUnit_of_handles`), unless a path with a null character stops it. A run that returns has met no
project without a text, so every visit that is not skipped has one.
-/

namespace ApiOutline.Run

open Discovery (ProjectUnit)
open Files (Store)
open Mapping (mapProject)
open Outline (Project)
open Syntax (Node)
open Text (Bytes)

/-- What becomes of a project in a run. -/
inductive Fate where
  /-- No file of it has an outline. -/
  | skipped
  | written
  /-- Its artifact could not be written. -/
  | failed
deriving DecidableEq

/-- A project that a run comes to, with its outline. -/
structure Visit where
  projectUnit : ProjectUnit
  project : Project
  /-- The text of its artifact, unless it is skipped. -/
  text : String := ""
  fate : Fate

/-- The path of the artifact of a visit. -/
def Visit.path (settings : Settings) (visit : Visit) : String :=
  artifactPath settings.outputDir visit.projectUnit.name settings.outputFormat.extension

/-- Whether the text of a visit is that of its project. -/
def Visit.Rendered (settings : Settings) (visit : Visit) : Prop :=
  render settings.outputFormat visit.project = .ok visit.text

/-- What a visit does to a store. -/
def Handles (parse : Bytes → Node) (settings : Settings) (store : Store) (visit : Visit)
    (next : Store) : Prop :=
  (mapProject ⟨store, parse⟩ settings visit.projectUnit).outcome = .ok visit.project ∧
    match visit.fate with
    | .skipped => visit.project.files = [] ∧ next = store
    | .written => visit.project.files ≠ [] ∧ visit.Rendered settings ∧
        store.writeText .nowhere (visit.path settings) visit.text = (.ok (visit.path settings), next)
    | .failed => visit.project.files ≠ [] ∧ visit.Rendered settings ∧ ∃ fault,
        store.writeText .nowhere (visit.path settings) visit.text = (.error fault, next)

/-- What visits, one after another, do to a store. -/
inductive Visits (parse : Bytes → Node) (settings : Settings) : Store → List Visit → Store → Prop
  | nil (store : Store) : Visits parse settings store [] store
  | cons {store next last : Store} {visit : Visit} {visits : List Visit}
      (first : Handles parse settings store visit next)
      (rest : Visits parse settings next visits last) :
      Visits parse settings store (visit :: visits) last

/-- What a visit adds to the result of a run. -/
def RunResult.record (settings : Settings) (result : RunResult) (visit : Visit) : RunResult where
  summary :=
    if visit.fate = .written then result.summary.add visit.project.totals else result.summary
  artifacts := result.artifacts ++ if visit.fate = .written then [visit.path settings] else []
  failedFiles := result.failedFiles ++
    visit.project.failedFiles.map fun path => visit.projectUnit.name ++ "/" ++ path
  failedWrites := result.failedWrites ++ if visit.fate = .failed then [visit.path settings] else []

variable {parse : Bytes → Node} {settings : Settings}

/-- Whether a run goes on after a visit: an artifact that fails to be written does not stop it, unless its
path has a null character. -/
def GoesOn (settings : Settings) (store : Store) (visit : Visit) : Prop :=
  visit.fate = .failed →
    (store.writeText .nowhere (visit.path settings) visit.text).1 ≠ .error .nullCharacter

/-- Writing an artifact in a run that goes on is a visit that is written or failed. -/
theorem fate_of_writeMapped {result next : RunResult} {project : Project} {world after : World}
    (h : writeMapped settings result project world = (.ok next, after)) :
    ∃ content, render settings.outputFormat project = .ok content ∧
      ((world.store.writeText .nowhere (projectPath settings project) content =
          (.ok (projectPath settings project), after.store) ∧
        next = { result with
          summary := result.summary.add project.totals
          artifacts := result.artifacts ++ [projectPath settings project] }) ∨
      ∃ fault, fault ≠ .nullCharacter ∧
        world.store.writeText .nowhere (projectPath settings project) content =
          (.error fault, after.store) ∧
        next = { result with
          failedWrites := result.failedWrites ++ [projectPath settings project] }) := by
  unfold writeMapped at h
  simp only [writeProject] at h
  -- A run stops where there is no text to be written.
  cases hrender : render settings.outputFormat project with
  | error fault =>
    rw [hrender] at h
    cases h
  | ok content =>
    simp only [hrender] at h
    refine ⟨content, rfl, ?_⟩
    -- A write that succeeds answers with the path it was given.
    have hanswer := @Store.exists_target_of_writeText world.store .nowhere
      (projectPath settings project) content
    generalize world.store.writeText .nowhere (projectPath settings project) content =
      step at h hanswer ⊢
    obtain ⟨fault | answer, store⟩ := step
    · -- The run goes on after a fault unless the path has a null character.
      simp only [Outcome.mapError_error, World.during] at h
      split_ifs at h with hnull
      · cases h
      · cases h
        exact .inr ⟨fault, hnull, rfl, rfl⟩
    · obtain ⟨rfl, -⟩ := hanswer rfl
      cases h
      exact .inl ⟨rfl, rfl⟩

/-- A step of a run that succeeds is a visit. -/
theorem visit_of_runUnit {result next : RunResult} {projectUnit : ProjectUnit} {world after : World}
    (h : runUnit parse settings result projectUnit world = (.ok next, after)) :
    ∃ visit, visit.projectUnit = projectUnit ∧
      Handles parse settings world.store visit after.store ∧ GoesOn settings world.store visit ∧
      next = result.record settings visit := by
  unfold runUnit at h
  simp only [World.during] at h
  cases hmap : (mapProject ⟨world.store, parse⟩ settings projectUnit).outcome with
  | error fault => simp [hmap] at h
  | ok project =>
    simp only [hmap] at h
    have hpath : projectPath settings project =
        artifactPath settings.outputDir projectUnit.name settings.outputFormat.extension := by
      rw [projectPath, (Mapping.of_mapProject hmap).1]
    split_ifs at h with hempty
    · cases h
      refine ⟨⟨projectUnit, project, "", .skipped⟩, rfl, ⟨hmap, by simpa using hempty, rfl⟩, nofun, ?_⟩
      simp [RunResult.record]
    · have hfiles : project.files ≠ [] := by simpa using hempty
      obtain ⟨content, hrender, hfate⟩ := fate_of_writeMapped h
      obtain ⟨hwrite, rfl⟩ | ⟨fault, hnull, hwrite, rfl⟩ := hfate
      · rw [hpath] at hwrite ⊢
        refine ⟨⟨projectUnit, project, content, .written⟩, rfl, ⟨hmap, hfiles, hrender, hwrite⟩,
          nofun, ?_⟩
        simp [RunResult.record, Visit.path]
      · rw [hpath] at hwrite ⊢
        refine ⟨⟨projectUnit, project, content, .failed⟩, rfl,
          ⟨hmap, hfiles, hrender, fault, hwrite⟩, ?_, ?_⟩
        · intro _ hbad
          exact hnull (Except.error.inj ((congrArg Prod.fst hwrite).symm.trans hbad))
        · simp [RunResult.record, Visit.path]

/-- A visit after which a run goes on is a step that succeeds. -/
theorem runUnit_of_handles {visit : Visit} {world : World} {next : Store}
    (h : Handles parse settings world.store visit next) (hgoes : GoesOn settings world.store visit)
    (result : RunResult) :
    ∃ after, runUnit parse settings result visit.projectUnit world =
        (.ok (result.record settings visit), after) ∧ after.store = next := by
  obtain ⟨hmap, h⟩ := h
  have hpath : projectPath settings visit.project = visit.path settings := by
    rw [projectPath, (Mapping.of_mapProject hmap).1, Visit.path]
  unfold runUnit
  simp only [World.during, hmap]
  cases hfate : visit.fate with
  | skipped =>
    simp only [hfate] at h
    obtain ⟨hfiles, rfl⟩ := h
    rw [if_pos (by simp [hfiles])]
    refine ⟨_, Prod.ext (congrArg Except.ok ?_) rfl, rfl⟩
    simp [RunResult.record, hfate]
  | written =>
    simp only [hfate] at h
    obtain ⟨hfiles, hrender, hwrite⟩ := h
    rw [Visit.Rendered] at hrender
    rw [if_neg (by simpa using hfiles)]
    unfold writeMapped
    simp only [writeProject, hrender, hpath, hwrite, Outcome.mapError_ok]
    refine ⟨_, Prod.ext (congrArg Except.ok ?_) rfl, rfl⟩
    simp [RunResult.record, hfate]
  | failed =>
    simp only [hfate] at h
    obtain ⟨hfiles, hrender, fault, hwrite⟩ := h
    have hnull : fault ≠ .nullCharacter := by
      have hne := hgoes hfate
      rw [hwrite] at hne
      simpa using hne
    rw [Visit.Rendered] at hrender
    rw [if_neg (by simpa using hfiles)]
    unfold writeMapped
    simp only [writeProject, hrender, hpath, hwrite, Outcome.mapError_error, if_neg hnull,
      World.during]
    refine ⟨_, Prod.ext (congrArg Except.ok ?_) rfl, rfl⟩
    simp [RunResult.record, hfate]

/-- Steps of a run that succeed are visits of the projects, one after another. -/
theorem visits_of_runUnits {units : List ProjectUnit} {result final : RunResult}
    {world after : World} (h : runUnits parse settings units result world = (.ok final, after)) :
    ∃ visits, visits.map Visit.projectUnit = units ∧
      Visits parse settings world.store visits after.store ∧
      final = visits.foldl (RunResult.record settings) result := by
  induction units generalizing result world with
  | nil =>
    cases h
    exact ⟨[], rfl, .nil _, rfl⟩
  | cons projectUnit units ih =>
    rw [runUnits] at h
    generalize hstep : runUnit parse settings result projectUnit world = step at h
    obtain ⟨fault | next, middle⟩ := step
    · cases h
    · -- The first step is a visit, and the others follow from the store that it leaves.
      obtain ⟨visit, hunit, hfirst, -, rfl⟩ := visit_of_runUnit hstep
      obtain ⟨visits, hunits, hrest, hfinal⟩ := ih h
      exact ⟨visit :: visits, by rw [List.map_cons, hunit, hunits], .cons hfirst hrest, hfinal⟩

/-- A run that returns finds projects, the steps for them succeed, and the totals can be written. -/
theorem runUnits_of_run {root : String} {result : RunResult} {world after : World}
    (h : run parse settings root world = (.ok result, after)) :
    ∃ units, (world.store.directory? (world.store.locate root).parts).isSome = true ∧
      summaryWritable result.summary = true ∧
      (Discovery.findProjects world.store settings.excludeDirs
        (world.store.locate root).text).outcome = .ok units ∧
      ∃ journal last, runUnits parse settings units {} ⟨world.store, journal⟩ = (.ok result, last) ∧
        last.store = after.store := by
  unfold run at h
  simp only [World.during] at h
  split_ifs at h with hdir
  · cases h
  · generalize hfound : (Discovery.findProjects world.store settings.excludeDirs
      (world.store.locate root).text).outcome = outcome at h
    cases outcome with
    | error fault => cases h
    | ok units =>
      simp only [] at h
      split at h
      · cases h
      · -- At its end a run writes the totals into its journal.
        rename_i final last hunits
        unfold summaryLine at h
        by_cases hsummary : summaryWritable final.summary = true
        · rw [if_pos hsummary] at h
          cases h
          exact ⟨units, Option.isNone_eq_false_iff.1 (Bool.not_eq_true _ ▸ hdir), hsummary, rfl, _,
            last, hunits, rfl⟩
        · rw [if_neg hsummary] at h
          cases h

/-- A run that returns visits the projects that are found, one after another, and its result is what
the visits record. -/
theorem visits_of_run {root : String} {result : RunResult} {world after : World}
    (h : run parse settings root world = (.ok result, after)) :
    ∃ units visits, (Discovery.findProjects world.store settings.excludeDirs
        (world.store.locate root).text).outcome = .ok units ∧
      visits.map Visit.projectUnit = units ∧
      Visits parse settings world.store visits after.store ∧
      result = visits.foldl (RunResult.record settings) {} := by
  obtain ⟨units, -, -, hfound, journal, last, hunits, hlast⟩ := runUnits_of_run h
  obtain ⟨visits, hmap, hvisits, hresult⟩ := visits_of_runUnits hunits
  exact ⟨units, visits, hfound, hmap, hlast ▸ hvisits, hresult⟩

/-! ## The journal -/

/-- What a step of a run does to its result and to the store does not depend on the journal. -/
theorem runUnit_journal (parse : Bytes → Node) (settings : Settings) (result : RunResult)
    (projectUnit : ProjectUnit) (store : Store) (journal other : Journal) :
    (runUnit parse settings result projectUnit ⟨store, journal⟩).1 =
        (runUnit parse settings result projectUnit ⟨store, other⟩).1 ∧
      (runUnit parse settings result projectUnit ⟨store, journal⟩).2.store =
        (runUnit parse settings result projectUnit ⟨store, other⟩).2.store := by
  unfold runUnit
  simp only [World.during]
  -- The outline depends on the store alone.
  cases (Mapping.mapProject ⟨store, parse⟩ settings projectUnit).outcome with
  | error fault => exact ⟨rfl, rfl⟩
  | ok project =>
    simp only []
    split_ifs
    · exact ⟨rfl, rfl⟩
    · unfold writeMapped
      simp only []
      generalize writeProject store .nowhere settings project = step
      obtain ⟨(_ | ⟨path, fault⟩) | path, next⟩ := step
      · exact ⟨rfl, rfl⟩
      · simp only []
        split_ifs <;> exact ⟨rfl, rfl⟩
      · exact ⟨rfl, rfl⟩

/-- The same for steps one after another. -/
theorem runUnits_journal (parse : Bytes → Node) (settings : Settings) (units : List ProjectUnit)
    (result : RunResult) (store : Store) (journal other : Journal) :
    (runUnits parse settings units result ⟨store, journal⟩).1 =
        (runUnits parse settings units result ⟨store, other⟩).1 ∧
      (runUnits parse settings units result ⟨store, journal⟩).2.store =
        (runUnits parse settings units result ⟨store, other⟩).2.store := by
  induction units generalizing result store journal other with
  | nil => exact ⟨rfl, rfl⟩
  | cons projectUnit units ih =>
    obtain ⟨houtcome, hstore⟩ :=
      runUnit_journal parse settings result projectUnit store journal other
    rw [runUnits, runUnits]
    -- Both steps end with the same outcome and store, and only what they have said differs.
    generalize runUnit parse settings result projectUnit ⟨store, journal⟩ = step at houtcome hstore ⊢
    generalize runUnit parse settings result projectUnit ⟨store, other⟩ = step' at houtcome hstore ⊢
    obtain ⟨outcome, next, said⟩ := step
    obtain ⟨outcome', next', said'⟩ := step'
    simp only at houtcome hstore
    subst houtcome hstore
    cases outcome with
    | error fault => exact ⟨rfl, rfl⟩
    | ok result => exact ih result next said said'

/-- A run returns if there are projects to find, the steps for them succeed, and the totals can be
written. -/
theorem run_of_runUnits {root : String} {result : RunResult} {store : Store} {journal : Journal}
    {units : List ProjectUnit}
    (hdir : (store.directory? (store.locate root).parts).isSome = true)
    (hfound : (Discovery.findProjects store settings.excludeDirs (store.locate root).text).outcome =
      .ok units)
    (hunits : (runUnits parse settings units {} ⟨store, {}⟩).1 = .ok result)
    (hsummary : summaryWritable result.summary = true) :
    ∃ after, run parse settings root ⟨store, journal⟩ = (.ok result, after) ∧
      after.store = (runUnits parse settings units {} ⟨store, {}⟩).2.store := by
  unfold run
  rw [if_neg (by rw [Bool.not_eq_true, Option.isNone_eq_false_iff]; exact hdir)]
  simp only [World.during, hfound]
  -- What was said before the first step is of no account, so it is given a name.
  generalize Journal.leave _ = said
  obtain ⟨houtcome, hstore⟩ := runUnits_journal parse settings units {} store said {}
  rw [hunits] at houtcome
  generalize runUnits parse settings units {} ⟨store, said⟩ = step at houtcome hstore ⊢
  obtain ⟨outcome, after⟩ := step
  simp only at houtcome hstore
  subst houtcome
  simp only [summaryLine, hsummary, if_true]
  exact ⟨_, rfl, hstore⟩

end ApiOutline.Run
