import ApiOutline.Proofs.RunAccounts

/-!
# What a run says of its failures

A run speaks in three phases and outside of them, and leaves each phase again. Mapping a project says one
error for each file that is left out, in the order of the files, and nothing else in it is an error; a
failed write says one. So the errors in the journal of a run are its failures, one by one and in order.
`Told` lists all that a run says, visit by visit, with the phase in which it is said.
-/

namespace ApiOutline.Traced

variable {ν ε α β : Type} {first : Traced ν ε α} {next : α → Traced ν ε β}

/-- The notes of a step come before those of the step after it. -/
theorem notes_bind_of_ok {a : α} (h : first.outcome = .ok a) :
    (first >>= next).notes = first.notes ++ (next a).notes := by
  show (andThen first next).notes = _
  unfold andThen
  rw [h]

/-- What holds of the notes of each step holds of all notes. -/
theorem forall_notes_bind {P : ν → Prop} (hfirst : ∀ note ∈ first.notes, P note)
    (hnext : ∀ a, ∀ note ∈ (next a).notes, P note) : ∀ note ∈ (first >>= next).notes, P note := by
  cases h : first.outcome with
  | error fault =>
    show ∀ note ∈ (andThen first next).notes, P note
    unfold andThen
    rw [h]
    exact hfirst
  | ok a =>
    rw [notes_bind_of_ok h]
    intro note hnote
    exact (List.mem_append.1 hnote).elim (hfirst note) (hnext a note)

end ApiOutline.Traced

namespace ApiOutline.Journal

/-- Whether a message is about an error. -/
def Message.isError (message : Message) : Bool :=
  message.level = .error

/-- Whether a record is about an error. -/
def Record.isError (record : Record) : Bool :=
  record.message.isError

/-- Whether no message is about an error. -/
def Quiet (messages : List Message) : Prop :=
  ∀ message ∈ messages, message.isError = false

variable {messages others : List Message}

/-- Nothing said is no error. -/
theorem Quiet.nil : Quiet [] := by
  simp [Quiet]

/-- What is said in two steps is no error if neither step says one. -/
theorem Quiet.append (h : Quiet messages) (h' : Quiet others) : Quiet (messages ++ others) := by
  intro message hmem
  exact (List.mem_append.1 hmem).elim (h message) (h' message)

/-- There are no errors among messages that are none. -/
theorem Quiet.filter_isError (h : Quiet messages) : messages.filter Message.isError = [] := by
  rw [List.filter_eq_nil_iff]
  intro message hmem
  rw [h message hmem]
  exact Bool.false_ne_true

/-- A phase does not change what is an error. -/
theorem filter_isError_map (phase : String) (messages : List Message) :
    (messages.map (Record.mk phase)).filter Record.isError =
      (messages.filter Message.isError).map (Record.mk phase) := by
  rw [List.filter_map]
  rfl

end ApiOutline.Journal

namespace ApiOutline.Discovery

open Journal (Quiet)

/-- Finding projects says no error. -/
theorem quiet_findProjects (store : Files.Store) (excluded : List String) (path : String) :
    Quiet (findProjects store excluded path).notes := by
  -- All messages of discovery are of the two lower levels.
  have hfound : ∀ (count : Nat) (path : String), (sourcesFound count path).isError = false :=
    fun _ _ => rfl
  have hunits : Quiet (findUnits store excluded path).notes := by
    unfold findUnits
    simp only
    split
    · simp [Quiet, Traced.fail]
    · split
      · simp [Quiet, Traced.fail]
      · intro message hmem
        obtain ⟨unit, -, rfl⟩ := List.mem_map.1 hmem
        exact hfound _ _
  unfold findProjects
  simp only
  split
  · apply Traced.forall_notes_bind
    · refine hunits.append ?_
      rintro message hmem
      cases List.mem_singleton.1 hmem
      rfl
    · intro _
      apply Traced.forall_notes_bind
      · intro message hmem
        cases List.mem_singleton.1 hmem
        exact hfound _ _
      · exact fun _ => Quiet.nil
  · exact hunits
  · refine hunits.append ?_
    rintro message hmem
    cases List.mem_singleton.1 hmem
    rfl

end ApiOutline.Discovery

namespace ApiOutline.Mapping

open Discovery (ProjectUnit)
open Journal (Message Quiet)
open Outline (FileMap Project)

variable {sources : Sources} {settings : Settings} {root path : String}

/-- What is said of a file that is left out. -/
def parsingFailed (fault : FileFault) : Message :=
  mapperMessage .error s!"Error parsing {fault.path}: {fault.reason}"

/-- The fault for which a file is left out, if it is. -/
def failureOf (sources : Sources) (settings : Settings) (root path : String) : Option FileFault :=
  match (mapFile sources settings (some root) path).outcome with
  | .error (.file fault) => some fault
  | _ => none

/-- The files of a project that are left out, each with its fault, in order. -/
def failures (sources : Sources) (settings : Settings) (projectUnit : ProjectUnit) :
    List (String × FileFault) :=
  projectUnit.sourceFiles.filterMap fun path =>
    (failureOf sources settings projectUnit.root path).map (path, ·)

/-- Mapping one file says no error, whatever comes of it. -/
theorem quiet_mapFile (sources : Sources) (settings : Settings) (root : Option String)
    (path : String) : Quiet (mapFile sources settings root path).notes := by
  -- Reading, checking and outlining are quiet, each in all its branches.
  have hread : Quiet (readSource sources (sources.store.locate path).text).notes := by
    unfold readSource
    split
    · simp [Quiet, Traced.fail]
    · simp [Quiet, Traced.fail]
    · simp only
      split
      · simp [Quiet, Traced.fail]
      · apply Traced.forall_notes_bind
        · simp [parseBytes, parserMessage, Message.isError]
        · intro tree
          apply Traced.forall_notes_bind
          · simp [Traced.leave, parserMessage, Message.isError]
          · exact fun _ => Quiet.nil
  have hcheck : ∀ recorded tree, Quiet (checkSyntax settings recorded tree).notes := by
    intro recorded tree
    unfold checkSyntax
    split
    · exact Quiet.nil
    · split
      · exact Quiet.nil
      · simp [Quiet, Traced.leave, mapperMessage, Message.isError]
  have houtline : ∀ recorded bytes tree fault,
      Quiet (outlineTree settings recorded bytes tree fault).notes := by
    intro recorded bytes tree fault
    apply Traced.forall_notes_bind
    · intro message hmem
      obtain ⟨note, -, rfl⟩ := List.mem_map.1 hmem
      cases note with
      | hidden kind line => rfl
      | rawSummary => rfl
    · intro file
      apply Traced.forall_notes_bind
      · intro message hmem
        cases List.mem_singleton.1 hmem
        cases file with
        | none => rfl
        | some file => rfl
      · exact fun _ => Quiet.nil
  apply Traced.forall_notes_bind hread
  rintro ⟨bytes, tree⟩
  apply Traced.forall_notes_bind (hcheck _ _)
  exact fun _ => houtline _ _ _ _

/-- The errors said of a file of a project are that it is left out, if it is. -/
theorem errors_mapListed (sources : Sources) (settings : Settings) (root path : String) :
    (mapListed sources settings root path).notes.filter Message.isError =
      (failureOf sources settings root path).toList.map parsingFailed := by
  have hquiet := (quiet_mapFile sources settings (some root) path).filter_isError
  have hfailed : Quiet (failedPath sources.store root path).notes := by
    unfold failedPath
    split
    · apply Traced.forall_notes_bind
      · simp [Traced.leave, mapperMessage, Message.isError]
      · exact fun _ => Quiet.nil
    · exact Quiet.nil
  -- Of the ways in which mapping a file ends, only a fault of the file adds an error.
  unfold failureOf
  delta mapListed
  simp only
  split
  · next hstep => simp [hstep, hquiet]
  · next file hstep => simp [hstep, hquiet]
  · next fault hstep =>
    have hnotes : (failedPath sources.store root path >>= fun listed =>
        (pure (.failed listed) : Step FileOutcome)).notes =
          (failedPath sources.store root path).notes := by
      rw [Traced.notes_bind_of_ok (outcome_failedPath sources.store root path)]
      exact List.append_nil _
    rw [Traced.notes_bind_of_ok rfl, hnotes, List.filter_append, hfailed.filter_isError, hstep]
    -- The error stands between what mapping the file said and what naming its path says.
    show List.filter _ (_ ++ [parsingFailed fault]) ++ [] = [parsingFailed fault]
    rw [List.append_nil, List.filter_append, hquiet]
    rfl
  · next fault hother hstep =>
    rw [hstep, hquiet]
    cases fault with
    | file fault => exact absurd rfl (hother fault)
    | tree fault => rfl
    | nullCharacter => rfl

/-- The errors said of files are those of each. -/
theorem errors_mapAll {paths : List String} {outcomes : List FileOutcome}
    (h : (mapAll sources settings root paths).outcome = .ok outcomes) :
    (mapAll sources settings root paths).notes.filter Message.isError =
      (paths.filterMap (failureOf sources settings root)).map parsingFailed := by
  induction paths generalizing outcomes with
  | nil => rfl
  | cons path paths ih =>
    simp only [mapAll, Traced.outcome_bind, Outcome.except_bind_eq_ok] at h
    obtain ⟨first, hfirst, others, hothers, -⟩ := h
    have hnotes : (mapAll sources settings root (path :: paths)).notes =
        (mapListed sources settings root path).notes ++
          (mapAll sources settings root paths).notes := by
      rw [mapAll, Traced.notes_bind_of_ok hfirst, Traced.notes_bind_of_ok hothers]
      exact congrArg _ (List.append_nil _)
    rw [hnotes, List.filter_append, errors_mapListed, ih hothers]
    -- The files after it say their errors after its own.
    cases hfailure : failureOf sources settings root path with
    | none => simp [hfailure]
    | some fault => simp [hfailure]

/-- A mapped project lists the files that are left out, and says one error for each. -/
theorem failures_of_mapProject {projectUnit : ProjectUnit} {project : Project}
    (h : (mapProject sources settings projectUnit).outcome = .ok project) :
    project.failedFiles = (failures sources settings projectUnit).map
        (fun failure => listedPath sources.store projectUnit.root failure.1) ∧
      (mapProject sources settings projectUnit).notes.filter Message.isError =
        (failures sources settings projectUnit).map fun failure => parsingFailed failure.2 := by
  constructor
  · -- Both lists leave out the same files, since both go by what mapping each file comes to.
    obtain ⟨fate, hfate, rfl⟩ := mapProject_eq_ok_iff.1 h
    simp only [failures, List.map_filterMap, Option.map_map]
    apply List.filterMap_congr
    intro path hpath
    have hlisted := hfate path hpath
    rw [outcome_mapListed] at hlisted
    unfold failureOf
    unfold asListed at hlisted
    split at hlisted
    · next hstep =>
      rw [hstep, ← Except.ok.inj hlisted]
      rfl
    · next file hstep =>
      rw [hstep, ← Except.ok.inj hlisted]
      rfl
    · next fault hstep =>
      rw [hstep, ← Except.ok.inj hlisted]
      rfl
    · cases hlisted
  · rw [mapProject] at h ⊢
    simp only [Traced.outcome_bind, Outcome.except_bind_eq_ok] at h
    obtain ⟨outcomes, houtcomes, -⟩ := h
    -- The message at the end gives the numbers of files and is no error.
    rw [Traced.notes_bind_of_ok houtcomes, Traced.notes_bind_of_ok rfl, List.filter_append,
      errors_mapAll houtcomes]
    refine (List.append_nil _).trans ?_
    simp only [failures, List.map_filterMap, Option.map_map]
    rfl

/-- The files that are listed as left out fail with their faults. -/
theorem of_mem_failures {projectUnit : ProjectUnit} {failure : String × FileFault}
    (h : failure ∈ failures sources settings projectUnit) :
    failure.1 ∈ projectUnit.sourceFiles ∧
      (mapFile sources settings (some projectUnit.root) failure.1).outcome =
        .error (.file failure.2) := by
  obtain ⟨path, hpath, hfailure⟩ := List.mem_filterMap.1 h
  obtain ⟨fault, hfault, rfl⟩ := Option.map_eq_some_iff.1 hfailure
  refine ⟨hpath, ?_⟩
  unfold failureOf at hfault
  split at hfault
  · next found hfound =>
    cases hfault
    exact hfound
  · cases hfault

end ApiOutline.Mapping

namespace ApiOutline.Run

open Discovery (ProjectUnit)
open Files (Store StoreFault)
open Journal (Message Record)
open Mapping (FileFault mapFile mapProject mapperMessage listedPath failures parsingFailed)
open Outline (Project)
open Syntax (Node parseSample)
open Text (Bytes)

/-- What is said of an artifact that cannot be written. -/
def writingFailed (before : Store) (path : String) (fault : StoreFault) : Message :=
  mapperMessage .error s!"Failed to write artifact {path}: {(ArtifactFault.mk path fault).reason before}"

/-- The last record of a visit: outside of all phases of the run, in the phase around it, unless writing
fails. -/
inductive Closes (settings : Settings) (phase : String) (store : Store) (visit : Visit) :
    Record → Prop where
  | skipped : visit.fate = .skipped →
    Closes settings phase store visit ⟨phase, mapperMessage .info
      s!"Skipping {visit.projectUnit.name}: no public declarations found"⟩
  | written : visit.fate = .written →
    Closes settings phase store visit ⟨phase, mapperMessage .info
      s!"{visit.project.name}: {visit.project.files.length} files -> {visit.path settings}"⟩
  | failed {fault : StoreFault} : visit.fate = .failed →
    (store.writeText .nowhere (visit.path settings) visit.text).1 = .error fault →
    Closes settings phase store visit ⟨"write", writingFailed store (visit.path settings) fault⟩

/-- What visits, one after another, say: of each, what mapping its project says, in the phase of the
project, and then its last record. -/
inductive Told (parse : Bytes → Node) (settings : Settings) (phase : String) :
    Store → List Visit → List Record → Store → Prop where
  | nil (store : Store) : Told parse settings phase store [] [] store
  | cons {store next last : Store} {visit : Visit} {visits : List Visit} {closing : Record}
      {records : List Record} (first : Handles parse settings store visit next)
      (closes : Closes settings phase store visit closing)
      (rest : Told parse settings phase next visits records last) :
      Told parse settings phase store (visit :: visits)
        ((mapProject ⟨store, parse⟩ settings visit.projectUnit).notes.map
          (Record.mk ("map:" ++ visit.projectUnit.name)) ++ [closing] ++ records) last

/-- The errors that a visit says: one for each file that its project lists as left out, in order, and one
for its artifact, if it fails to be written. -/
def VisitErrors (parse : Bytes → Node) (settings : Settings) (store : Store) (visit : Visit)
    (report : List Record) : Prop :=
  ∃ files : List (String × FileFault), ∃ write : List Record,
    visit.project.failedFiles =
      files.map (fun failure => listedPath store visit.projectUnit.root failure.1) ∧
    (∀ failure ∈ files, failure.1 ∈ visit.projectUnit.sourceFiles ∧
      (mapFile ⟨store, parse⟩ settings (some visit.projectUnit.root) failure.1).outcome =
        .error (.file failure.2)) ∧
    report = files.map (fun failure =>
      ⟨"map:" ++ visit.projectUnit.name, parsingFailed failure.2⟩) ++ write ∧
    (visit.fate ≠ .failed ∧ write = [] ∨
      visit.fate = .failed ∧ ∃ fault,
        (store.writeText .nowhere (visit.path settings) visit.text).1 = .error fault ∧
          write = [⟨"write", writingFailed store (visit.path settings) fault⟩])

/-- The errors that visits say, one after another. -/
inductive Reported (parse : Bytes → Node) (settings : Settings) :
    Store → List Visit → List Record → Store → Prop where
  | nil (store : Store) : Reported parse settings store [] [] store
  | cons {store next last : Store} {visit : Visit} {visits : List Visit}
      {report reports : List Record} (first : Handles parse settings store visit next)
      (said : VisitErrors parse settings store visit report)
      (rest : Reported parse settings next visits reports last) :
      Reported parse settings store (visit :: visits) (report ++ reports) last

variable {parse : Bytes → Node} {settings : Settings} {phase : String} {store next last : Store}

/-! ## Phases are left -/

/-- A phase is left, whatever comes of the step in it. -/
@[simp]
theorem phases_during {ε α : Type} (world : World) (phase : String) (step : Traced Message ε α) :
    (world.during phase step).2.journal.phases = world.journal.phases := rfl

/-- Saying something leaves the phases as they are. -/
@[simp]
theorem phases_world_say (world : World) (message : Message) :
    (world.say message).journal.phases = world.journal.phases := rfl

/-- Writing an artifact leaves the phases as they were, also where it fails. -/
theorem phases_writeMapped (settings : Settings) (result : RunResult) (project : Project)
    (world : World) :
    (writeMapped settings result project world).2.journal.phases = world.journal.phases := by
  unfold writeMapped
  generalize writeProject world.store .nowhere settings project = step
  -- Writing can be refused, fail or succeed.
  obtain ⟨(_ | ⟨path, fault⟩) | path, store⟩ := step
  · rfl
  · simp only
    split
    · rfl
    · rfl
  · rfl

/-- A visit leaves the phases as they were. -/
theorem phases_runUnit (parse : Bytes → Node) (settings : Settings) (result : RunResult)
    (projectUnit : ProjectUnit) (world : World) :
    (runUnit parse settings result projectUnit world).2.journal.phases = world.journal.phases := by
  unfold runUnit
  simp only [World.during]
  cases (mapProject ⟨world.store, parse⟩ settings projectUnit).outcome with
  | error fault => rfl
  | ok project =>
    simp only
    split
    · rfl
    · exact phases_writeMapped _ _ _ _

/-- So do all visits. -/
theorem phases_runUnits (parse : Bytes → Node) (settings : Settings) (units : List ProjectUnit)
    (result : RunResult) (world : World) :
    (runUnits parse settings units result world).2.journal.phases = world.journal.phases := by
  induction units generalizing result world with
  | nil => rfl
  | cons projectUnit units ih =>
    have hfirst := phases_runUnit parse settings result projectUnit world
    rw [runUnits]
    generalize runUnit parse settings result projectUnit world = step at hfirst ⊢
    obtain ⟨fault | result, middle⟩ := step
    · exact hfirst
    · exact (ih result middle).trans hfirst

/-- A run leaves the journal in the phase in which it found it, also when it stops at a fault. -/
theorem phases_run (parse : Bytes → Node) (settings : Settings) (root : String) (world : World) :
    (run parse settings root world).2.journal.phases = world.journal.phases := by
  unfold run
  simp only [World.during]
  split
  · rfl
  · cases (Discovery.findProjects world.store settings.excludeDirs
      (world.store.locate root).text).outcome with
    | error fault => rfl
    | ok units =>
      -- The visits start when discovery is left, with the phases of the start.
      simp only
      generalize hjournal : Journal.leave _ = journal
      have hphases : journal.phases = world.journal.phases := by rw [← hjournal]; rfl
      have hunits := phases_runUnits parse settings units {} ⟨world.store, journal⟩
      generalize runUnits parse settings units {} ⟨world.store, journal⟩ = step at hunits ⊢
      obtain ⟨fault | result, after⟩ := step
      · exact hunits.trans hphases
      · simp only
        split
        · exact hunits.trans hphases
        · exact hunits.trans hphases

/-! ## All that is said -/

/-- A visit says what mapping its project says, and then its last record. -/
theorem journal_of_runUnit {result final : RunResult} {visit : Visit} {world after : World}
    (hvisit : Handles parse settings world.store visit next)
    (h : runUnit parse settings result visit.projectUnit world = (.ok final, after)) :
    ∃ closing, Closes settings world.journal.phase world.store visit closing ∧
      after.journal = ⟨world.journal.phases, world.journal.records ++
        ((mapProject ⟨world.store, parse⟩ settings visit.projectUnit).notes.map
          (Record.mk ("map:" ++ visit.projectUnit.name)) ++ [closing])⟩ := by
  obtain ⟨hmap, hvisit⟩ := hvisit
  have hpath : projectPath settings visit.project = visit.path settings := by
    rw [projectPath, (Mapping.of_mapProject hmap).1, Visit.path]
  unfold runUnit at h
  simp only [World.during, hmap] at h
  -- Which record comes last depends on what became of the visit.
  cases hfate : visit.fate with
  | skipped =>
    simp only [hfate] at hvisit
    rw [if_pos (by simp [hvisit.1])] at h
    cases h
    refine ⟨_, .skipped hfate, ?_⟩
    simp only [World.say, Journal.say, Journal.leave, Journal.sayAll, Journal.enter,
      List.append_assoc]
    rfl
  | written =>
    simp only [hfate] at hvisit
    obtain ⟨hfiles, hrendered, hwrite⟩ := hvisit
    rw [Visit.Rendered] at hrendered
    rw [if_neg (by simpa using hfiles)] at h
    unfold writeMapped at h
    simp only [writeProject, hrendered, hpath, hwrite, Outcome.mapError_ok] at h
    cases h
    refine ⟨_, .written hfate, ?_⟩
    simp only [World.say, Journal.say, Journal.leave, Journal.sayAll, Journal.enter,
      List.append_assoc]
    rfl
  | failed =>
    simp only [hfate] at hvisit
    obtain ⟨hfiles, hrendered, fault, hwrite⟩ := hvisit
    rw [Visit.Rendered] at hrendered
    rw [if_neg (by simpa using hfiles)] at h
    unfold writeMapped at h
    simp only [writeProject, hrendered, hpath, hwrite, Outcome.mapError_error, World.during] at h
    split at h
    · cases h
    · cases h
      refine ⟨_, .failed hfate (congrArg Prod.fst hwrite), ?_⟩
      simp only [Journal.leave, Journal.sayAll, Journal.enter, List.append_assoc]
      rfl

/-- Steps of a run that succeed are visits, and say what the visits say. -/
theorem told_of_runUnits {units : List ProjectUnit} {result final : RunResult}
    {world after : World} (h : runUnits parse settings units result world = (.ok final, after)) :
    ∃ visits records, visits.map Visit.projectUnit = units ∧
      Told parse settings world.journal.phase world.store visits records after.store ∧
      final = visits.foldl (RunResult.record settings) result ∧
      after.journal = ⟨world.journal.phases, world.journal.records ++ records⟩ := by
  induction units generalizing result world with
  | nil =>
    cases h
    exact ⟨[], [], rfl, .nil _, rfl, by rw [List.append_nil]⟩
  | cons projectUnit units ih =>
    rw [runUnits] at h
    generalize hstep : runUnit parse settings result projectUnit world = step at h
    obtain ⟨fault | middleResult, middle⟩ := step
    · cases h
    obtain ⟨visit, rfl, hvisit, -, rfl⟩ := visit_of_runUnit hstep
    obtain ⟨closing, hcloses, hjournal⟩ := journal_of_runUnit hvisit hstep
    obtain ⟨visits, records, hunits, htold, hfinal, hafter⟩ := ih h
    -- The phase is that of the world before the visit, which the visit has left as it was.
    have hphase : middle.journal.phase = world.journal.phase := by rw [hjournal]; rfl
    rw [hphase] at htold
    refine ⟨visit :: visits, _, by rw [List.map_cons, hunits], .cons hvisit hcloses htold, hfinal, ?_⟩
    rw [hafter, hjournal]
    simp only [List.append_assoc]

/-- The last record of a visit is an error if writing fails, and only then. -/
theorem Closes.errors {visit : Visit} {closing : Record}
    (h : Closes settings phase store visit closing) :
    visit.fate ≠ .failed ∧ [closing].filter Record.isError = [] ∨
      visit.fate = .failed ∧ ∃ fault,
        (store.writeText .nowhere (visit.path settings) visit.text).1 = .error fault ∧
          [closing].filter Record.isError =
            [⟨"write", writingFailed store (visit.path settings) fault⟩] := by
  cases h with
  | skipped hfate => exact .inl ⟨by simp [hfate], rfl⟩
  | written hfate => exact .inl ⟨by simp [hfate], rfl⟩
  | failed hfate hwrite => exact .inr ⟨hfate, _, hwrite, rfl⟩

/-- The errors that are said are those that visits report. -/
theorem Told.reported {visits : List Visit} {records : List Record}
    (h : Told parse settings phase store visits records last) :
    Reported parse settings store visits (records.filter Record.isError) last := by
  induction h with
  | nil store => exact .nil store
  | cons hfirst hcloses _ ih =>
    obtain ⟨hlisted, herrors⟩ := Mapping.failures_of_mapProject hfirst.1
    rw [List.filter_append, List.filter_append, Journal.filter_isError_map, herrors, List.map_map]
    refine .cons hfirst ?_ ih
    exact ⟨_, _, hlisted, fun _ => Mapping.of_mem_failures, rfl, hcloses.errors⟩

/-- There are as many reports as failures. -/
theorem Reported.length_eq {visits : List Visit} {reports : List Record}
    (h : Reported parse settings store visits reports last) :
    reports.length = (visits.flatMap fun visit => visit.project.failedFiles).length +
      (failedVisits visits).length := by
  induction h with
  | nil store => rfl
  | @cons store next last visit visits report reports _ hsaid _ ih =>
    -- One report for each file that is left out, and one more if writing failed.
    obtain ⟨files, write, hlisted, -, rfl, hwrite⟩ := hsaid
    have hfiles : visit.project.failedFiles.length = files.length := by
      rw [hlisted, List.length_map]
    have hfailed : (failedVisits (visit :: visits)).length =
        write.length + (failedVisits visits).length := by
      obtain ⟨hfate, rfl⟩ | ⟨hfate, fault, -, rfl⟩ := hwrite
      · simp [failedVisits, hfate]
      · simp [failedVisits, hfate, Nat.add_comm]
    simp only [List.length_append, List.length_map, List.flatMap_cons, ih, hfailed]
    omega

/-- A run says every failure once, in the phase it comes from. Whatever comes of a run, it leaves the journal
in the phase in which it found it. If it returns, it has said in turn what finding the projects says, in
its phase, what its visits say, and the totals, in the phase before the run, in which also the last record
of each visit is that is no error. The errors in this are those that the visits report: one in the phase of
the project for each file that a project lists as left out, and one in that of writing for each artifact
that could not be written, in the order in which the result lists them, and as many as it lists. -/
theorem run_reports_failures (parse : Bytes → Node) (settings : Settings) (root : String)
    (world : World) :
    (run parse settings root world).2.journal.phases = world.journal.phases ∧
    ∀ result after, run parse settings root world = (.ok result, after) →
      ∃ visits fresh told line, after.journal.records = world.journal.records ++ fresh ∧
        summaryLine result.summary = .ok line ∧
        fresh = (Discovery.findProjects world.store settings.excludeDirs
            (world.store.locate root).text).notes.map (Record.mk "discover") ++ told ++
          [⟨world.journal.phase, mapperMessage .info line⟩] ∧
        (Discovery.findProjects world.store settings.excludeDirs
          (world.store.locate root).text).outcome = .ok (visits.map Visit.projectUnit) ∧
        Told parse settings world.journal.phase world.store visits told after.store ∧
        Reported parse settings world.store visits (fresh.filter Record.isError) after.store ∧
        result.failedFiles = (visits.flatMap fun visit =>
          visit.project.failedFiles.map fun path => visit.projectUnit.name ++ "/" ++ path) ∧
        result.failedWrites = (failedVisits visits).map (Visit.path settings) ∧
        (fresh.filter Record.isError).length =
          result.failedFiles.length + result.failedWrites.length := by
  refine ⟨phases_run parse settings root world, ?_⟩
  intro result after h
  unfold run at h
  simp only [World.during] at h
  split at h
  · cases h
  · generalize hfound : (Discovery.findProjects world.store settings.excludeDirs
      (world.store.locate root).text).outcome = outcome at h
    cases outcome with
    | error fault => cases h
    | ok units =>
      simp only at h
      split at h
      · cases h
      · next final last hunits =>
        split at h
        · cases h
        next line hline =>
        cases h
        obtain ⟨visits, told, rfl, htold, rfl, hjournal⟩ := told_of_runUnits hunits
        -- Neither finding the projects nor the totals is an error.
        have hreported := htold.reported
        have hquiet := (Discovery.quiet_findProjects world.store settings.excludeDirs
          (world.store.locate root).text).filter_isError
        refine ⟨visits, _, told, line, ?_, hline, rfl, rfl, htold, ?_, ?_, ?_, ?_⟩
        · show (last.journal.say _).records = _
          rw [hjournal]
          simp only [Journal.say, Journal.leave, Journal.sayAll, Journal.enter, List.append_assoc]
          rfl
        · rw [List.filter_append, List.filter_append, Journal.filter_isError_map, hquiet]
          exact (List.append_nil _).symm ▸ hreported
        · rw [foldl_record]
          simp
        · rw [foldl_record]
          simp
        · rw [List.filter_append, List.filter_append, Journal.filter_isError_map, hquiet]
          refine (congrArg List.length (List.append_nil _)).trans (hreported.length_eq.trans ?_)
          rw [foldl_record]
          simp [List.length_flatMap]

/-- In a run inside another phase two files and an artifact fail, and three errors are said. -/
theorem mixedProjects_reported : ∃ after visits fresh,
    run parseSample {} "/" ⟨mixedProjects, ⟨["report"], []⟩⟩ = (.ok mixedResult, after) ∧
      after.journal = ⟨["report"], fresh⟩ ∧
      Reported parseSample {} mixedProjects visits (fresh.filter Record.isError) after.store ∧
      (fresh.filter Record.isError).length = 3 := by
  obtain ⟨after, hrun⟩ := run_mixedProjects_after ⟨["report"], []⟩
  obtain ⟨hphases, hsaid⟩ :=
    run_reports_failures parseSample {} "/" ⟨mixedProjects, ⟨["report"], []⟩⟩
  obtain ⟨visits, fresh, told, line, hrecords, -, -, -, -, hreported, -, -, hcount⟩ :=
    hsaid mixedResult after hrun
  rw [hrun] at hphases
  have hjournal : after.journal = ⟨after.journal.phases, after.journal.records⟩ := rfl
  rw [hphases, hrecords] at hjournal
  exact ⟨after, visits, fresh, hrun, hjournal, hreported, hcount⟩

end ApiOutline.Run
