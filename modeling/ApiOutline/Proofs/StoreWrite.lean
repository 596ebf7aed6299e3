import ApiOutline.Proofs.Outcome
import ApiOutline.Proofs.StoreView

/-!
# What writing a text changes

`writeText_eq` says what writing a text does to a store: it makes directories on the way to its target, and
then either fails and changes nothing more, or puts the file at its target. The temporary file is gone in
both cases. `writeText_cases` says the same of the view. Directories stay directories, so a path text that
led somewhere still leads there (`follow_of_dirs`), and what was written is read under the path text it was
written to, until something else is written to the same place (`Target.read_eq`).
-/

namespace ApiOutline.Files

open Text (Bytes)

/-- What stands at parts below an entry is found in two steps. -/
theorem Entry.find?_append (entry : Entry) (parts rest : List String) :
    entry.find? (parts ++ rest) = (entry.find? parts).bind fun found => found.find? rest := by
  induction parts generalizing entry with
  | nil => cases entry <;> rfl
  | cons part parts ih =>
    cases entry with
    | file content => rfl
    | dir entries =>
      rw [List.cons_append, Entry.find?, Entry.find?]
      cases entries.lookup part with
      | none => rfl
      | some next => exact ih next

namespace Store

/-- What stands at parts from the root. -/
def sight? (store : Store) (parts : List String) : Option Sight :=
  sightIn store.root parts

variable {store other : Store} {path : String} {place found : List String}

/-- There is a directory where one is seen. -/
theorem directory?_isSome_iff : (store.directory? place).isSome = true ↔
    store.sight? place = some .dir := by
  rw [directory?, sight?, sightIn, find?]
  rcases (Entry.dir store.root).find? place with _ | _ | _ <;> simp [Entry.sight]

/-- There is no directory where none is seen. -/
theorem directory?_eq_none_iff : store.directory? place = none ↔ store.sight? place ≠ some .dir := by
  rw [Ne, ← directory?_isSome_iff, Bool.not_eq_true, Option.isSome_eq_false_iff,
    Option.isNone_iff_eq_none]

/-- A directory that is there is found. -/
theorem find?_of_directory? {entries : Directory} (h : store.directory? place = some entries) :
    store.find? place = some (.dir entries) := by
  rw [directory?] at h
  split at h
  · cases h
    assumption
  · cases h

/-- What stands in a directory are its entries. -/
theorem sight?_child {entries : Directory} (h : store.directory? place = some entries)
    (name : String) : store.sight? (place ++ [name]) = (entries.lookup name).map Entry.sight := by
  rw [sight?, sightIn, Entry.find?_append, ← find?, find?_of_directory? h, ← sightIn_singleton]
  rfl

/-! ## Following path texts -/

/-- A part is followed from a directory only: it stays, goes up, or goes down to what stands there. -/
theorem follow_cons {part : String} {parts : List String} :
    store.follow place (part :: parts) = .ok found ↔
      store.sight? place = some .dir ∧
        if part = "." then store.follow place parts = .ok found
        else if part = ".." then store.follow place.dropLast parts = .ok found
        else part.utf8ByteSize ≤ maxNameBytes ∧ store.sight? (place ++ [part]) ≠ none ∧
          store.follow (place ++ [part]) parts = .ok found := by
  rw [follow]
  cases hdir : store.directory? place with
  | none => simp [directory?_eq_none_iff.1 hdir]
  | some entries =>
    have hsight : store.sight? place = some .dir := directory?_isSome_iff.1 (by rw [hdir]; rfl)
    have hchild : store.sight? (place ++ [part]) ≠ none ↔ (entries.lookup part).isSome = true := by
      rw [sight?_child hdir]
      cases entries.lookup part <;> simp
    simp only [hsight, true_and, hchild]
    split_ifs with hdot hdots hlong hsome
    · rfl
    · rfl
    · simp only [Nat.not_le.2 hlong, false_and]
    · exact ⟨fun h => ⟨Nat.not_lt.1 hlong, hsome, h⟩, fun h => h.2.2⟩
    · simp only [reduceCtorEq, hsome, false_and, and_false]

/-- Parts after others are followed from where those lead. -/
theorem follow_append {parts rest : List String} {middle : List String}
    (h : store.follow place parts = .ok middle) :
    store.follow place (parts ++ rest) = store.follow middle rest := by
  induction parts generalizing place with
  | nil =>
    cases h
    rfl
  | cons part parts ih =>
    rw [List.cons_append, follow]
    rw [follow] at h
    cases hdir : store.directory? place with
    | none => simp [hdir] at h
    | some entries =>
      simp only [hdir] at h ⊢
      split_ifs at h ⊢
      · exact ih h
      · exact ih h
      · exact ih h

/-- Following parts ends where the parts lead by their text. -/
theorem eq_foldl_of_follow {parts : List String} (h : store.follow place parts = .ok found) :
    found = parts.foldl Location.step place := by
  induction parts generalizing place with
  | nil =>
    cases h
    rfl
  | cons part parts ih =>
    obtain ⟨-, h⟩ := follow_cons.1 h
    rw [List.foldl_cons, Location.step]
    split_ifs at h ⊢
    · exact ih h
    · exact ih h
    · exact ih h.2.2

/-- What is followed to a directory starts at one. -/
theorem dir_of_follow {parts : List String} (h : store.follow place parts = .ok found)
    (hfound : store.sight? found = some .dir) : store.sight? place = some .dir := by
  cases parts with
  | nil =>
    cases h
    exact hfound
  | cons part parts => exact (follow_cons.1 h).1

/-- Where all directories are directories still, parts that led to one lead to it still. -/
theorem follow_of_dirs (hdirs : ∀ p, store.sight? p = some .dir → other.sight? p = some .dir)
    {parts : List String} (h : store.follow place parts = .ok found)
    (hfound : store.sight? found = some .dir) : other.follow place parts = .ok found := by
  induction parts generalizing place with
  | nil => exact h
  | cons part parts ih =>
    obtain ⟨hplace, h⟩ := follow_cons.1 h
    refine follow_cons.2 ⟨hdirs _ hplace, ?_⟩
    split_ifs at h ⊢
    · exact ih h
    · exact ih h
    · -- The next place is a directory too, for the rest of the parts leads from it to one.
      have hdir := hdirs _ (dir_of_follow h.2.2 hfound)
      exact ⟨h.1, by simp [hdir], ih h.2.2⟩

/-- Path texts have the same location where the working directory is the same. -/
theorem locate_of_workingDir (h : other.workingDir = store.workingDir) (path : String) :
    other.locate path = store.locate path := by
  rw [locate, locate, h]

/-- The location of a path text is where its parts lead from its start. -/
theorem locate_parts (store : Store) (path : String) :
    (store.locate path).parts = (partsOf path).foldl Location.step (store.start path) := by
  rw [locate, Location.of, start]
  split_ifs <;> rfl

/-- Whether a path text leads to a name in a directory at which a file can be put. -/
structure Target (store : Store) (path : String) (place : List String) (name : String) : Prop where
  noNull : '\x00' ∉ path.toList
  nonempty : path.isEmpty = false
  follow : store.follow (store.start path) (partsOf path).dropLast = .ok place
  dir : store.sight? place = some .dir
  last : (partsOf path).getLast? = some name
  noDots : name ≠ "." ∧ name ≠ ".."
  short : name.utf8ByteSize ≤ maxNameBytes
  noSlash : endsWithSlash path = false
  /-- No directory has the name. -/
  free : store.sight? (place ++ [name]) ≠ some .dir

/-- The place to which a file is moved is a target. -/
theorem target_of_moveTarget {name : String} (h : store.moveTarget path = .ok (place, name)) :
    Target store path place name := by
  unfold moveTarget at h
  obtain ⟨hnull, h⟩ := Outcome.unless_eq_ok.1 h
  obtain ⟨hempty, h⟩ := Outcome.unless_eq_ok.1 h
  obtain ⟨found, hfollow, h⟩ := Outcome.bind_eq_ok.1 h
  -- Each check that was passed is a field of the target.
  cases hdir : store.directory? found with
  | none => simp [hdir] at h
  | some entries =>
    simp only [hdir] at h
    cases hlast : (partsOf path).getLast? with
    | none => simp [hlast] at h
    | some last =>
      simp only [hlast] at h
      obtain ⟨hdots, h⟩ := Outcome.unless_eq_ok.1 h
      obtain ⟨hlong, h⟩ := Outcome.unless_eq_ok.1 h
      obtain ⟨hslash, h⟩ := Outcome.unless_eq_ok.1 h
      have hchild := sight?_child hdir last
      split at h
      · cases h
      · rename_i hfree
        cases h
        exact {
          noNull := hnull
          nonempty := by simpa using hempty
          follow := hfollow
          dir := directory?_isSome_iff.1 (by rw [hdir]; rfl)
          last := hlast
          noDots := not_or.1 hdots
          short := Nat.not_lt.1 hlong
          noSlash := by simpa using hslash
          free := by
            rw [hchild]
            rcases hentry : entries.lookup name with _ | _ | inner
            · simp
            · simp [Entry.sight]
            · exact absurd hentry (hfree inner) }

/-- A file is moved to a target. -/
theorem moveTarget_of_target {name : String} (h : Target store path place name) :
    store.moveTarget path = .ok (place, name) := by
  obtain ⟨entries, hentries⟩ := Option.isSome_iff_exists.1 (directory?_isSome_iff.2 h.dir)
  have hfree := h.free
  rw [sight?_child hentries] at hfree
  unfold moveTarget
  simp only [h.noNull, h.nonempty, h.follow, bind, Except.bind, hentries, h.last, h.noDots.1,
    h.noDots.2, Nat.not_lt.2 h.short, h.noSlash, or_self, if_false, Bool.false_eq_true]
  rcases hlook : entries.lookup name with _ | _ | inner
  · rfl
  · rfl
  · simp [hlook, Entry.sight] at hfree

namespace Target

variable {name : String} {bytes : Bytes}

/-- The name of a target is the last part of its path text. -/
theorem parts_eq (h : Target store path place name) :
    partsOf path = (partsOf path).dropLast ++ [name] := by
  obtain ⟨parts, hparts⟩ := List.getLast?_eq_some_iff.1 h.last
  rw [hparts, List.dropLast_concat]

/-- A target is at the location of its path text. -/
theorem locate (h : Target store path place name) : (store.locate path).parts = place ++ [name] := by
  have hplace := eq_foldl_of_follow h.follow
  rw [locate_parts, h.parts_eq, List.foldl_append, ← hplace, List.foldl_cons, List.foldl_nil,
    Location.step, if_neg h.noDots.1, if_neg h.noDots.2]

/-- A target stays one where directories stay directories and none takes its place. -/
theorem mono (h : Target store path place name) (hwork : other.workingDir = store.workingDir)
    (hdirs : ∀ p, store.sight? p = some .dir → other.sight? p = some .dir)
    (hfree : other.sight? (place ++ [name]) ≠ some .dir) : Target other path place name where
  noNull := h.noNull
  nonempty := h.nonempty
  follow := by
    have hstart : other.start path = store.start path := by rw [start, start, hwork]
    rw [hstart]
    exact follow_of_dirs hdirs h.follow h.dir
  dir := hdirs _ h.dir
  last := h.last
  noDots := h.noDots
  short := h.short
  noSlash := h.noSlash
  free := hfree

/-- The file at a target is read under its path text. -/
theorem read_eq (h : Target store path place name)
    (hfile : store.sight? (place ++ [name]) = some (.file bytes)) : store.read path = .ok bytes := by
  -- The last part leads from the directory to the file.
  have hfollow : store.follow (store.start path) (partsOf path) = .ok (place ++ [name]) := by
    rw [h.parts_eq, follow_append h.follow, follow_cons, if_neg h.noDots.1, if_neg h.noDots.2]
    exact ⟨h.dir, h.short, by simp [hfile], rfl⟩
  have hresolve : store.resolve path = .ok (place ++ [name]) := by
    rw [resolve, if_neg h.noNull, h.nonempty, hfollow]
    simp only [h.noSlash]
    rfl
  have hfind : store.find? (place ++ [name]) = some (.file bytes) := by
    rw [sight?, sightIn] at hfile
    obtain ⟨entry, hentry, hsight⟩ := Option.map_eq_some_iff.1 hfile
    cases entry with
    | file content =>
      cases hsight
      exact hentry
    | dir entries => cases hsight
  rw [read, hresolve]
  simp only [hfind, bind, Except.bind]
  rfl

end Target

/-! ## Writing -/

/-- Every name in a directory is shorter than the name of its temporary file. -/
theorem lookup_temporaryName (entries : Directory) : entries.lookup (temporaryName entries) = none := by
  have hlongest : ∀ entry ∈ entries, entry.1.length ≤ longestName entries := by
    intro entry hentry
    induction entries with
    | nil => cases hentry
    | cons other entries ih =>
      rw [longestName, List.foldr_cons]
      obtain rfl | hentry := List.mem_cons.1 hentry
      · exact Nat.le_max_left _ _
      · exact Nat.le_trans (ih hentry) (Nat.le_max_right _ _)
  rw [List.lookup_eq_none_iff]
  intro entry hentry
  have hlength := hlongest entry hentry
  -- The temporary name is longer than the longest one by its suffix.
  have hne : temporaryName entries ≠ entry.1 := by
    intro heq
    have htmp : ".tmp".length = 4 := by decide
    rw [← heq] at hlength
    simp only [temporaryName, String.length_append, String.length_ofList, List.length_replicate,
      htmp] at hlength
    omega
  simpa using hne

/-- Whether a store differs from another one by nothing but directories made on the way to a place. -/
structure MakesWay (store made : Store) (place : List String) : Prop where
  workingDir : made.workingDir = store.workingDir
  sight : ∀ p, made.sight? p = store.sight? p ∨
    store.sight? p = none ∧ made.sight? p = some .dir ∧ p <+: place

/-- Making directories makes way. -/
theorem makesWay_makeDirectories (store : Store) (place : List String) :
    MakesWay store (store.makeDirectories place).2 place :=
  ⟨rfl, sightIn_makeAll place store.root⟩

/-- A directory that was made is there. -/
theorem dir_of_makeDirectories {place : List String}
    (h : (store.makeDirectories place).1 = .ok ()) :
    (store.makeDirectories place).2.sight? place = some .dir :=
  sightIn_makeAll_self h

/-- Putting a file changes the view at its place. -/
theorem sight?_put {name : String} (bytes : Bytes) (hplace : store.sight? place = some .dir)
    (hname : store.sight? (place ++ [name]) ≠ some .dir) :
    (store.put place name (.file bytes)).sight? =
      Function.update store.sight? (place ++ [name]) (some (.file bytes)) :=
  sightIn_setFile bytes hplace hname

/-- Of two entries put in one place the second stays. -/
theorem put_put {name : String} (first second : Entry) :
    (store.put place name first).put place name second = store.put place name second := by
  simp only [put, alterAt_alterAt, setEntry_setEntry]

/-- A new entry can be removed again, and the store is as it was. -/
theorem erase_put {entries : Directory} {name : String}
    (hdir : store.directory? place = some entries) (hnew : entries.lookup name = none)
    (entry : Entry) : (store.put place name entry).erase place name = store := by
  have hfixed : alterAt (fun inner => eraseEntry name (setEntry name entry inner)) place store.root =
      store.root :=
    alterAt_of_fixed (find?_of_directory? hdir) (eraseEntry_setEntry entry hnew)
  simp only [put, erase, alterAt_alterAt, hfixed]

/-- What writing a text does: it makes the directory of its target and, if no step fails, puts the file
there. The temporary file is gone in all cases, as if it had never been. -/
theorem writeText_eq (store : Store) (faults : WriteFaults) (path content : String) :
    store.writeText faults path content =
      match faults .makeDirectories with
      | some fault => (.error fault, store)
      | none =>
        match store.makeDirectories (store.locate path).parent.parts with
        | (.error fault, made) => (.error fault, made)
        | (.ok (), made) =>
          match (faults .makeTemporary).or ((faults .fill).or (faults .replace)) with
          | some fault => (.error fault, made)
          | none =>
            match (made.put (store.locate path).parent.parts
                (temporaryName ((made.directory? (store.locate path).parent.parts).getD []))
                (.file (Text.Utf8.ofString content))).moveTarget path with
            | .error fault => (.error fault, made)
            | .ok (directory, name) =>
              (.ok path, made.put directory name (.file (Text.Utf8.ofString content))) := by
  unfold writeText
  cases faults .makeDirectories with
  | some fault => rfl
  | none =>
    simp only []
    have hend := @dir_of_makeDirectories store (store.locate path).parent.parts
    generalize (store.locate path).parent.parts = place at hend ⊢
    generalize store.makeDirectories place = step at hend ⊢
    obtain ⟨_ | _, made⟩ := step
    · rfl
    -- The directory is there, and the name of the temporary file is new in it.
    obtain ⟨entries, hentries⟩ := Option.isSome_iff_exists.1 (directory?_isSome_iff.2 (hend rfl))
    have herase := erase_put hentries (lookup_temporaryName entries)
    simp only [hentries, Option.getD_some, put_put, herase]
    cases faults .makeTemporary with
    | some fault => rfl
    | none =>
      cases faults .fill with
      | some fault => rfl
      | none =>
        cases faults .replace with
        | some fault => rfl
        | none => rfl

/-- Beside the temporary file of a directory there are the same directories as without it. -/
theorem dir_put_temporary (hdir : store.sight? place = some .dir) (bytes : Bytes) (p : List String) :
    (store.put place (temporaryName ((store.directory? place).getD [])) (.file bytes)).sight? p =
      some .dir ↔ store.sight? p = some .dir := by
  obtain ⟨entries, hentries⟩ := Option.isSome_iff_exists.1 (directory?_isSome_iff.2 hdir)
  rw [hentries, Option.getD_some]
  -- The temporary file takes a place where nothing stood.
  have hnew : store.sight? (place ++ [temporaryName entries]) = none := by
    rw [sight?_child hentries, lookup_temporaryName]
    rfl
  rw [sight?_put bytes hdir (by simp [hnew])]
  by_cases hp : p = place ++ [temporaryName entries]
  · rw [hp, Function.update_self, hnew]
    simp
  · rw [Function.update_of_ne hp]

/-- The temporary file of a directory can be moved where a file can be put without it. -/
theorem moveTarget_put_temporary (hdir : store.sight? place = some .dir) (bytes : Bytes)
    {target : List String} {name : String} :
    (store.put place (temporaryName ((store.directory? place).getD [])) (.file bytes)).moveTarget path =
      .ok (target, name) ↔ Target store path target name := by
  have hdirs := dir_put_temporary hdir bytes
  constructor
  · intro h
    have htarget := target_of_moveTarget h
    exact htarget.mono rfl (fun p => (hdirs p).1) (mt (hdirs _).2 htarget.free)
  · intro h
    exact moveTarget_of_target (h.mono rfl (fun p => (hdirs p).2) (mt (hdirs _).1 h.free))

/-- All that writing a text can do: it makes way to its target, and then fails and changes nothing more,
or puts the file at its target. -/
theorem writeText_cases (store : Store) (faults : WriteFaults) (path content : String) :
    ∃ made, MakesWay store made (store.locate path).parent.parts ∧
      (store.writeText faults path content).2.workingDir = store.workingDir ∧
      ((∃ fault, (store.writeText faults path content).1 = .error fault ∧
          (store.writeText faults path content).2.sight? = made.sight?) ∨
        ∃ place name, (store.writeText faults path content).1 = .ok path ∧
          Target made path place name ∧
          (store.writeText faults path content).2.sight? = Function.update made.sight?
            (place ++ [name]) (some (.file (Text.Utf8.ofString content)))) := by
  have hrefl : MakesWay store store (store.locate path).parent.parts := ⟨rfl, fun p => .inl rfl⟩
  rw [writeText_eq]
  cases faults .makeDirectories with
  | some fault => exact ⟨store, hrefl, rfl, .inl ⟨fault, rfl, rfl⟩⟩
  | none =>
    simp only []
    have hway := makesWay_makeDirectories store (store.locate path).parent.parts
    have hend := @dir_of_makeDirectories store (store.locate path).parent.parts
    generalize (store.locate path).parent.parts = place at hway hend ⊢
    generalize store.makeDirectories place = step at hway hend ⊢
    obtain ⟨_ | _, made⟩ := step
    · -- Directories that were made before the fault stay.
      exact ⟨made, hway, hway.workingDir, .inl ⟨_, rfl, rfl⟩⟩
    refine ⟨made, hway, ?_⟩
    cases (faults .makeTemporary).or ((faults .fill).or (faults .replace)) with
    | some fault => exact ⟨hway.workingDir, .inl ⟨fault, rfl, rfl⟩⟩
    | none =>
      simp only []
      cases hmove : (made.put place (temporaryName ((made.directory? place).getD []))
          (.file (Text.Utf8.ofString content))).moveTarget path with
      | error fault => exact ⟨hway.workingDir, .inl ⟨fault, rfl, rfl⟩⟩
      | ok target =>
        obtain ⟨directory, name⟩ := target
        -- The temporary file does not count for where the target is.
        have htarget := (moveTarget_put_temporary (hend rfl) _).1 hmove
        exact ⟨hway.workingDir, .inr ⟨directory, name, rfl, htarget,
          sight?_put _ htarget.dir htarget.free⟩⟩

/-! ## What a write keeps -/

/-- Whether a store is another one after some writes: directories stay directories. -/
structure Grows (store other : Store) : Prop where
  workingDir : other.workingDir = store.workingDir
  dirs : ∀ p, store.sight? p = some .dir → other.sight? p = some .dir

/-- Without a write nothing changes. -/
theorem Grows.refl (store : Store) : Grows store store := ⟨rfl, fun _ h => h⟩

/-- Some writes after others. -/
theorem Grows.trans {middle : Store} (h : Grows store middle) (h' : Grows middle other) :
    Grows store other :=
  ⟨h'.workingDir.trans h.workingDir, fun p hp => h'.dirs p (h.dirs p hp)⟩

/-- Path texts have the same location after writes. -/
theorem Grows.locate (h : Grows store other) (path : String) :
    other.locate path = store.locate path :=
  locate_of_workingDir h.workingDir path

/-- Making way keeps all that stands. -/
theorem MakesWay.sight_eq {made : Store} (h : MakesWay store made place) {p : List String}
    {sight : Sight} (hp : store.sight? p = some sight) : made.sight? p = some sight := by
  obtain hsame | ⟨hnone, -⟩ := h.sight p
  · rw [hsame, hp]
  · rw [hnone] at hp
    cases hp

section Write

variable (store) (faults : WriteFaults) (path content : String)

/-- Directories stay directories when a text is written. -/
theorem grows_writeText : Grows store (store.writeText faults path content).2 := by
  obtain ⟨made, hway, hwork, ⟨fault, -, hsight⟩ | ⟨place, name, -, htarget, hsight⟩⟩ :=
    writeText_cases store faults path content
  · exact ⟨hwork, fun p hp => by rw [hsight, hway.sight_eq hp]⟩
  · refine ⟨hwork, fun p hp => ?_⟩
    -- The target is no directory, so a directory is elsewhere.
    have hmade := hway.sight_eq hp
    have hne : p ≠ place ++ [name] := fun heq => htarget.free (heq ▸ hmade)
    rw [hsight, Function.update_of_ne hne, hmade]

variable {store faults path content}

/-- What is not at the target of a write stays as it is. -/
theorem sight?_writeText_of_ne {p : List String} {sight : Sight} (hp : store.sight? p = some sight)
    (hne : p ≠ (store.locate path).parts) :
    (store.writeText faults path content).2.sight? p = some sight := by
  obtain ⟨made, hway, -, ⟨fault, -, hsight⟩ | ⟨place, name, -, htarget, hsight⟩⟩ :=
    writeText_cases store faults path content
  · rw [hsight, hway.sight_eq hp]
  · rw [← locate_of_workingDir hway.workingDir, htarget.locate] at hne
    rw [hsight, Function.update_of_ne hne, hway.sight_eq hp]

/-- A write that fails keeps all that stands. -/
theorem sight?_writeText_of_error {p : List String} {sight : Sight}
    (hp : store.sight? p = some sight) {fault : StoreFault}
    (h : (store.writeText faults path content).1 = .error fault) :
    (store.writeText faults path content).2.sight? p = some sight := by
  obtain ⟨made, hway, -, ⟨_, -, hsight⟩ | ⟨place, name, hok, -⟩⟩ :=
    writeText_cases store faults path content
  · rw [hsight, hway.sight_eq hp]
  · rw [h] at hok
    cases hok

/-- A write that succeeds puts the text at its target. -/
theorem exists_target_of_writeText {answer : String}
    (h : (store.writeText faults path content).1 = .ok answer) :
    answer = path ∧ ∃ place name, Target (store.writeText faults path content).2 path place name ∧
      (store.writeText faults path content).2.sight? (place ++ [name]) =
        some (.file (Text.Utf8.ofString content)) := by
  obtain ⟨made, hway, hwork, ⟨fault, hfault, -⟩ | ⟨place, name, hok, htarget, hsight⟩⟩ :=
    writeText_cases store faults path content
  · rw [h] at hfault
    cases hfault
  · rw [h] at hok
    cases hok
    have hfile : (store.writeText faults path content).2.sight? (place ++ [name]) =
        some (.file (Text.Utf8.ofString content)) := by
      rw [hsight, Function.update_self]
    refine ⟨rfl, place, name, ?_, hfile⟩
    refine htarget.mono (hwork.trans hway.workingDir.symm) (fun p hp => ?_) (by simp [hfile])
    have hne : p ≠ place ++ [name] := fun heq => htarget.free (heq ▸ hp)
    rw [hsight, Function.update_of_ne hne, hp]

end Write

end Store

end ApiOutline.Files
