import ApiOutline.Proofs.PathText

/-!
# A write is whole or changes no file

Writing a text takes four steps, and each can fail: by what stands in the store, or for a reason outside of it.
`StepFails` says when. If no step fails, the file at the target is the text and all other files are as before
(`writeText_of_no_stepFails`); if any does, the write raises a fault and nothing is different but directories
that were made on the way to the target (`writeText_of_stepFails`). No temporary file is left in either case.
`WholeWrite` puts this together, and it holds of a text and of the artifact of a project alike.
-/

namespace ApiOutline.Files.Store

open Text (Bytes)

variable {store : Store} {faults : WriteFaults} {path content : String}

/-- Whether a step of writing a text to a path fails. Any step can fail for a reason outside the store. The
directory of the target cannot be made if the store does not allow it, and the temporary file cannot be moved
if the path then leads to no place for a file. -/
def StepFails (store : Store) (faults : WriteFaults) (path : String) : WriteStep → Prop
  | .makeDirectories => faults .makeDirectories ≠ none ∨
      ∃ fault, (store.makeDirectories (store.locate path).parent.parts).1 = .error fault
  | .makeTemporary => faults .makeTemporary ≠ none
  | .fill => faults .fill ≠ none
  | .replace => faults .replace ≠ none ∨ ∀ place name,
      ¬ Target (store.makeDirectories (store.locate path).parent.parts).2 path place name

/-- What a write of a text to a path keeps, if it has the given outcome and store at its end. -/
structure WholeWrite {ε : Type} (store : Store) (path content : String) (fails : Prop)
    (outcome : Except ε String) (after : Store) : Prop where
  /-- It raises a fault if and only if it fails. -/
  raises : (∃ fault, outcome = .error fault) ↔ fails
  /-- If it fails, the files are those that there were, with the same content. -/
  files_kept : fails → ∀ p bytes,
    after.sight? p = some (.file bytes) ↔ store.sight? p = some (.file bytes)
  /-- If it fails, all that is new are directories on the way to the target. -/
  way_made : fails → ∀ p, after.sight? p = store.sight? p ∨
    store.sight? p = none ∧ after.sight? p = some .dir ∧ p <+: (store.locate path).parent.parts
  /-- If it does not fail, the text is read under the path, which is the answer. -/
  written : ¬ fails → outcome = .ok path ∧ after.read path = .ok (Text.Utf8.ofString content)
  /-- If it does not fail, the files are the one at the target, which is the text, and all others that there
  were, with the same content. -/
  others_kept : ¬ fails → ∀ p bytes, after.sight? p = some (.file bytes) ↔
    if p = (store.locate path).parts then bytes = Text.Utf8.ofString content
    else store.sight? p = some (.file bytes)

/-- The files are the same where only directories on the way to a place are new. -/
theorem MakesWay.file_iff {made : Store} {place : List String} (h : MakesWay store made place)
    (p : List String) (bytes : Bytes) :
    made.sight? p = some (.file bytes) ↔ store.sight? p = some (.file bytes) := by
  obtain hsame | ⟨hnone, hdir, -⟩ := h.sight p
  · rw [hsame]
  · simp [hnone, hdir]

/-- A target is in the directory of its path text. -/
theorem Target.place_eq {place : List String} {name : String} (h : Target store path place name) :
    place = (store.locate path).parent.parts := by
  rw [Location.parent, h.locate, List.dropLast_concat]

/-- If a step fails, a write raises a fault, and at most the directory of its target is made. -/
theorem writeText_of_stepFails (content : String) (h : ∃ step, StepFails store faults path step) :
    ∃ fault, store.writeText faults path content = (.error fault,
      if (faults .makeDirectories).isSome then store
      else (store.makeDirectories (store.locate path).parent.parts).2) := by
  have hdir := @dir_of_makeDirectories store (store.locate path).parent.parts
  rw [writeText_eq]
  -- The steps are gone through in order, and each one that fails ends the write.
  cases hmake : faults .makeDirectories with
  | some fault => exact ⟨fault, rfl⟩
  | none =>
    simp only [Option.isSome_none, Bool.false_eq_true, if_false]
    cases hstep : store.makeDirectories (store.locate path).parent.parts with
    | mk made middle =>
      rw [hstep] at hdir
      cases made with
      | error fault => exact ⟨fault, rfl⟩
      | ok _ =>
        cases hothers : (faults .makeTemporary).or ((faults .fill).or (faults .replace)) with
        | some fault => exact ⟨fault, rfl⟩
        | none =>
          simp only [Option.or_eq_none_iff] at hothers
          simp only []
          -- All that is left to fail is the move.
          obtain ⟨step, hfails⟩ := h
          cases hmove : (middle.put (store.locate path).parent.parts
              (temporaryName ((middle.directory? (store.locate path).parent.parts).getD []))
              (.file (Text.Utf8.ofString content))).moveTarget path with
          | error fault => exact ⟨fault, rfl⟩
          | ok target =>
            -- The move succeeds too, so there is no step left that fails.
            have htarget := (moveTarget_put_temporary (hdir rfl) _).1 hmove
            cases step with
            | makeDirectories => simp [StepFails, hmake, hstep] at hfails
            | makeTemporary => exact absurd hothers.1 hfails
            | fill => exact absurd hothers.2.1 hfails
            | replace =>
              obtain hfails | hfails := hfails
              · exact absurd hothers.2.2 hfails
              · rw [hstep] at hfails
                exact absurd htarget (hfails _ _)

/-- If no step fails, a write makes the directory of its target and puts the file there. -/
theorem writeText_of_no_stepFails (content : String) (h : ¬ ∃ step, StepFails store faults path step) :
    ∃ name, Target (store.makeDirectories (store.locate path).parent.parts).2 path
        (store.locate path).parent.parts name ∧
      store.writeText faults path content =
        (.ok path, (store.makeDirectories (store.locate path).parent.parts).2.put
          (store.locate path).parent.parts name (.file (Text.Utf8.ofString content))) := by
  rw [not_exists] at h
  have hmake := h .makeDirectories
  have htemporary := h .makeTemporary
  have hfill := h .fill
  have hreplace := h .replace
  simp only [StepFails, not_or, not_not, not_exists] at hmake htemporary hfill hreplace
  have hway := makesWay_makeDirectories store (store.locate path).parent.parts
  have hdir := @dir_of_makeDirectories store (store.locate path).parent.parts
  rw [writeText_eq, hmake.1, htemporary, hfill, hreplace.1]
  cases hstep : store.makeDirectories (store.locate path).parent.parts with
  | mk outcome made =>
    rw [hstep] at hmake hreplace hway hdir
    cases outcome with
    | error fault => exact absurd rfl (hmake.2 fault)
    | ok _ =>
      -- The move does not fail, so there is a target.
      obtain ⟨place, name, htarget⟩ : ∃ place name, Target made path place name := by
        by_contra hnone
        exact hreplace.2 fun place name htarget => hnone ⟨place, name, htarget⟩
      have hplace := htarget.place_eq
      rw [locate_of_workingDir hway.workingDir] at hplace
      subst hplace
      have hmove := (moveTarget_put_temporary (hdir rfl) (Text.Utf8.ofString content)).2 htarget
      refine ⟨name, htarget, ?_⟩
      simp only [Option.none_or, hmove]

/-- A write of a text is whole or changes no file. -/
theorem wholeWrite_writeText (store : Store) (faults : WriteFaults) (path content : String) :
    WholeWrite store path content (∃ step, StepFails store faults path step)
      (store.writeText faults path content).1 (store.writeText faults path content).2 := by
  have hway := makesWay_makeDirectories store (store.locate path).parent.parts
  by_cases hfails : ∃ step, StepFails store faults path step
  · obtain ⟨fault, hwrite⟩ := writeText_of_stepFails content hfails
    -- A failed write makes way at most.
    have hway : MakesWay store (store.writeText faults path content).2
        (store.locate path).parent.parts := by
      rw [hwrite]
      split_ifs
      · exact ⟨rfl, fun p => .inl rfl⟩
      · exact hway
    rw [hwrite] at hway ⊢
    exact {
      raises := ⟨fun _ => hfails, fun _ => ⟨fault, rfl⟩⟩
      files_kept := fun _ => hway.file_iff
      way_made := fun _ => hway.sight
      written := fun h => absurd hfails h
      others_kept := fun h => absurd hfails h }
  · obtain ⟨name, htarget, hwrite⟩ := writeText_of_no_stepFails content hfails
    have hplace : (store.locate path).parts = (store.locate path).parent.parts ++ [name] := by
      rw [← htarget.locate, locate_of_workingDir hway.workingDir]
    have hsight := sight?_put (Text.Utf8.ofString content) htarget.dir htarget.free
    rw [hwrite]
    exact {
      raises := ⟨fun ⟨_, h⟩ => (nomatch h), fun h => absurd h hfails⟩
      files_kept := fun h => absurd h hfails
      way_made := fun h => absurd h hfails
      written := by
        intro _
        have hok := congrArg Prod.fst hwrite
        obtain ⟨-, place, target, hat, hfile⟩ := exists_target_of_writeText hok
        rw [hwrite] at hat hfile
        exact ⟨rfl, hat.read_eq hfile⟩
      others_kept := by
        intro _ p bytes
        rw [hsight, hplace]
        split_ifs with hp
        · rw [hp, Function.update_self, Option.some_inj, Sight.file.injEq, eq_comm]
        · rw [Function.update_of_ne hp, hway.file_iff] }

/-- A write stays whole if its faults are put in other words. -/
theorem WholeWrite.mapError {ε δ : Type} {fails : Prop} {outcome : Except ε String} {after : Store}
    (h : WholeWrite store path content fails outcome after) (f : ε → δ) :
    WholeWrite store path content fails (outcome.mapError f) after where
  raises := by
    rw [← h.raises]
    simp only [Outcome.mapError_eq_error]
    exact ⟨fun ⟨_, cause, hcause, _⟩ => ⟨cause, hcause⟩, fun ⟨cause, hcause⟩ => ⟨_, cause, hcause, rfl⟩⟩
  files_kept := h.files_kept
  way_made := h.way_made
  written := fun hfails => ⟨Outcome.mapError_eq_ok.2 (h.written hfails).1, (h.written hfails).2⟩
  others_kept := h.others_kept

/-- A write fails if its target is a directory. -/
theorem stepFails_of_dir (h : store.sight? (store.locate path).parts = some .dir) :
    StepFails store faults path .replace := by
  refine .inr fun place name htarget => ?_
  have hway := makesWay_makeDirectories store (store.locate path).parent.parts
  -- The target is where the path is located, and the directory there stays one.
  have hplace := htarget.locate
  rw [locate_of_workingDir hway.workingDir] at hplace
  rw [hplace] at h
  exact htarget.free (hway.sight_eq h)

/-- A write fails if a file stands on the way to its target. -/
theorem stepFails_of_file {place : List String} {bytes : Bytes}
    (hplace : place <+: (store.locate path).parent.parts)
    (hfile : store.sight? place = some (.file bytes)) :
    StepFails store faults path .makeDirectories := by
  refine .inr ?_
  have hkept := (makesWay_makeDirectories store (store.locate path).parent.parts).sight_eq hfile
  cases hmade : (store.makeDirectories (store.locate path).parent.parts).1 with
  | error fault => exact ⟨fault, rfl⟩
  | ok _ =>
    have hdir := dir_of_makeDirectories hmade
    obtain ⟨rest, hrest⟩ := hplace
    -- All that leads to a directory is one, and the file is none.
    have hnot : (store.makeDirectories (store.locate path).parent.parts).2.sight? place =
        some .dir := by
      by_cases hnil : rest = []
      · rw [hnil, List.append_nil] at hrest
        rw [hrest]
        exact hdir
      · rw [← hrest] at hdir ⊢
        exact sightIn_append_dir hnil (by rw [← sight?, hdir]; simp)
    rw [hkept] at hnot
    cases hnot

end ApiOutline.Files.Store

namespace ApiOutline.Run

open Files (Store WriteFaults)
open Outline (Project)

/-- The artifact of a project is its text at its path, and a fault names the path. -/
theorem writeProject_eq {store : Store} {faults : WriteFaults} {settings : Settings}
    {project : Project} {content : String} (h : render settings.outputFormat project = .ok content) :
    writeProject store faults settings project =
      ((store.writeText faults (projectPath settings project) content).1.mapError fun fault =>
        .artifact ⟨projectPath settings project, fault⟩,
      (store.writeText faults (projectPath settings project) content).2) := by
  rw [writeProject, h]

/-- Nothing is touched for a project without a text. -/
theorem writeProject_of_unwritable {store : Store} {faults : WriteFaults} {settings : Settings}
    {project : Project} {fault : Number.Unwritable}
    (h : render settings.outputFormat project = .error fault) :
    writeProject store faults settings project = (.error .unwritable, store) := by
  rw [writeProject, h]

/-- A write of a text is whole or changes no file: it raises a fault if and only if one of its steps fails, also
when the target is a directory or a file stands on the way to it. The same holds of the artifact of a project
that has a text, and a fault of it names the path of the artifact beside the reason for which the text could
not be written. For a project without a text nothing is touched. -/
theorem write_whole_or_unchanged (store : Store) (faults : WriteFaults) (path content : String)
    (settings : Settings) (project : Project) :
    store.WholeWrite path content (∃ step, store.StepFails faults path step)
      (store.writeText faults path content).1 (store.writeText faults path content).2 ∧
    (store.sight? (store.locate path).parts = some .dir →
      ∃ step, store.StepFails faults path step) ∧
    (∀ place bytes, place <+: (store.locate path).parent.parts →
      store.sight? place = some (.file bytes) → ∃ step, store.StepFails faults path step) ∧
    (∀ text, render settings.outputFormat project = .ok text →
      store.WholeWrite (artifactPath settings.outputDir project.name settings.outputFormat.extension)
        text
        (∃ step, store.StepFails faults
          (artifactPath settings.outputDir project.name settings.outputFormat.extension) step)
        (writeProject store faults settings project).1 (writeProject store faults settings project).2 ∧
      ∀ fault, (writeProject store faults settings project).1 = .error fault →
        ∃ cause, fault = .artifact ⟨artifactPath settings.outputDir project.name
            settings.outputFormat.extension, cause⟩ ∧
          (store.writeText faults (artifactPath settings.outputDir project.name
            settings.outputFormat.extension) text).1 = .error cause) ∧
    ∀ fault, render settings.outputFormat project = .error fault →
      writeProject store faults settings project = (.error .unwritable, store) := by
  refine ⟨store.wholeWrite_writeText faults path content, fun h => ⟨_, Store.stepFails_of_dir h⟩,
    fun place bytes hplace hfile => ⟨_, Store.stepFails_of_file hplace hfile⟩, ?_,
    fun fault => writeProject_of_unwritable⟩
  intro text htext
  -- Writing an artifact is writing its text, with the path named in the fault.
  rw [writeProject_eq htext]
  refine ⟨(store.wholeWrite_writeText faults _ _).mapError _, fun fault hfault => ?_⟩
  obtain ⟨cause, hcause, rfl⟩ := Outcome.mapError_eq_error.1 hfault
  exact ⟨cause, rfl, hcause⟩

end ApiOutline.Run
