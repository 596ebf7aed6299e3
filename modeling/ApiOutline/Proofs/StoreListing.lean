import ApiOutline.Discovery
import ApiOutline.Proofs.StoreWrite

/-!
# What writing changes in listings

Discovery lists the files with a suffix below a directory. `listedAt` is this list for every place of a tree,
before it is sorted. It stays the same when an entry is set that lists as much as the one before
(`listedAt_setEntry`), so neither a file of another suffix nor a directory made on the way to it is ever
listed. Hence a text that is written under a name of another suffix changes no listing
(`sameListing_writeText`), and projects are found as before (`SameListing.findProjects_eq`).
-/

namespace ApiOutline.Discovery

open Files (Entry Directory Location Store WriteFaults entriesBelow setEntry alterAt makeAll sightIn)
open Text (Bytes)

/-! ## Listings -/

section Listing

variable (enters : String → Bool) (suffix : String)

/-- The files with a suffix below an entry, with their parts from it. -/
def listed (entry : Entry) : List (List String × Entry) :=
  (entry.contents enters).filter (hasSuffix suffix)

/-- The files with a suffix below what stands at the end of parts; there are none if nothing does. -/
def listedAt (entry : Entry) (parts : List String) : List (List String × Entry) :=
  ((entry.find? parts).map (listed enters suffix)).getD []

/-- What an entry adds to the listing of its directory: itself, if it is a file with the suffix, and what is
below it, if it is looked into. -/
def listedUnder (name : String) (entry : Entry) : List (List String × Entry) :=
  (if hasSuffix suffix ([name], entry) then [([name], entry)] else []) ++
    if enters name then (listed enters suffix entry).map fun found => (name :: found.1, found.2) else []

variable {enters suffix}

/-- What is listed in a directory has at least one part. -/
theorem parts_ne_nil_of_mem_entriesBelow {entries : Directory} {found : List String × Entry}
    (h : found ∈ entriesBelow enters entries) : found.1 ≠ [] := by
  induction entries with
  | nil => cases h
  | cons first rest ih =>
    obtain ⟨name, entry⟩ := first
    rw [entriesBelow, List.cons_append, List.mem_cons, List.mem_append] at h
    obtain rfl | hinner | hrest := h
    · simp
    · obtain ⟨inner, -, rfl⟩ := List.mem_map.1 hinner
      simp
    · exact ih hrest

/-- The same for any entry. -/
theorem parts_ne_nil_of_mem_contents {entry : Entry} {found : List String × Entry}
    (h : found ∈ entry.contents enters) : found.1 ≠ [] := by
  cases entry with
  | file content => cases h
  | dir entries => exact parts_ne_nil_of_mem_entriesBelow h

/-- A file has its suffix also when it is seen from the directory above. -/
theorem hasSuffix_cons {found : List String × Entry} (h : found.1 ≠ []) (name : String) :
    hasSuffix suffix (name :: found.1, found.2) = hasSuffix suffix found := by
  obtain ⟨part, parts, hparts⟩ := List.exists_cons_of_ne_nil h
  rw [hasSuffix, hasSuffix, hparts, List.getLast?_cons_cons]

/-- A directory lists its files with the suffix. -/
theorem listed_dir (entries : Directory) :
    listed enters suffix (.dir entries) = (entriesBelow enters entries).filter (hasSuffix suffix) := rfl

/-- A directory lists what its entries add, one after another. -/
theorem listed_cons (name : String) (entry : Entry) (rest : Directory) :
    listed enters suffix (.dir ((name, entry) :: rest)) =
      listedUnder enters suffix name entry ++ listed enters suffix (.dir rest) := by
  have hsame : ∀ found ∈ entry.contents enters,
      (hasSuffix suffix ∘ fun found => (name :: found.1, found.2)) found = hasSuffix suffix found := by
    intro found hfound
    rw [Function.comp_apply, hasSuffix_cons (parts_ne_nil_of_mem_contents hfound)]
  -- The parts in front of a file do not count for its suffix, so listing and looking inside commute.
  have hinner : ((if enters name then entry.contents enters else []).map
      fun found => (name :: found.1, found.2)).filter (hasSuffix suffix) =
        if enters name then (listed enters suffix entry).map fun found => (name :: found.1, found.2)
        else [] := by
    split_ifs
    · rw [List.filter_map, List.filter_congr hsame, listed]
    · rfl
  rw [listed_dir, listed_dir, entriesBelow, List.cons_append, List.filter_cons, List.filter_append, hinner,
    listedUnder]
  split_ifs <;> simp

/-- A directory lists the same when an entry is set that adds as much as the one before. -/
theorem listed_setEntry {name : String} {entry : Entry} {entries : Directory}
    (h : listedUnder enters suffix name entry =
      ((entries.lookup name).map (listedUnder enters suffix name)).getD []) :
    listed enters suffix (.dir (setEntry name entry entries)) = listed enters suffix (.dir entries) := by
  induction entries with
  | nil =>
    rw [setEntry, listed_cons, h]
    rfl
  | cons other rest ih =>
    obtain ⟨key, value⟩ := other
    rw [Files.lookup_cons_eq_ite] at h
    rw [setEntry]
    -- The first entry of the name is the one that is found and the one that is set.
    by_cases hkey : key = name
    · rw [if_pos hkey.symm] at h
      rw [if_pos hkey, listed_cons, listed_cons, h, hkey]
      rfl
    · rw [if_neg (Ne.symm hkey)] at h
      rw [if_neg hkey, listed_cons, listed_cons, ih h]

/-- What is listed at the entry itself is listed below it. -/
theorem listedAt_nil (entry : Entry) : listedAt enters suffix entry [] = listed enters suffix entry := by
  cases entry <;> rfl

/-- Nothing is listed below a file. -/
theorem listedAt_file (bytes : Bytes) (parts : List String) :
    listedAt enters suffix (.file bytes) parts = [] := by
  cases parts <;> rfl

/-- Nothing is listed in an empty directory. -/
theorem listedAt_empty (parts : List String) : listedAt enters suffix (.dir []) parts = [] := by
  cases parts <;> rfl

/-- A part leads to the listings of the entry of its name. -/
theorem listedAt_cons (entries : Directory) (part : String) (parts : List String) :
    listedAt enters suffix (.dir entries) (part :: parts) =
      ((entries.lookup part).map fun entry => listedAt enters suffix entry parts).getD [] := by
  rw [listedAt, Entry.find?]
  cases entries.lookup part <;> rfl

/-- All listings stay the same when an entry is set below which the listings are those below the one before,
and neither of the two is itself listed. -/
theorem listedAt_setEntry {name : String} {entry : Entry} {entries : Directory}
    (hentry : hasSuffix suffix ([name], entry) = false)
    (hbefore : ∀ old, entries.lookup name = some old → hasSuffix suffix ([name], old) = false)
    (hbelow : ∀ parts, listedAt enters suffix entry parts =
      ((entries.lookup name).map fun old => listedAt enters suffix old parts).getD []) :
    listedAt enters suffix (.dir (setEntry name entry entries)) =
      listedAt enters suffix (.dir entries) := by
  have hlisted : listed enters suffix entry =
      ((entries.lookup name).map (listed enters suffix)).getD [] := by
    simpa only [listedAt_nil] using hbelow []
  funext parts
  cases parts with
  | nil =>
    rw [listedAt_nil, listedAt_nil]
    apply listed_setEntry
    rw [listedUnder, hentry, hlisted]
    cases hlook : entries.lookup name with
    | none => simp
    | some old => simp [listedUnder, hbefore old hlook]
  | cons part parts =>
    rw [listedAt_cons, listedAt_cons, Files.lookup_setEntry]
    by_cases hpart : part = name
    · rw [if_pos hpart, hpart, ← hbelow]
      rfl
    · rw [if_neg hpart]

/-- All listings stay the same when a directory is set whose listings are those of the one before, which may
be an empty one that was not there. -/
theorem listedAt_setDir {part : String} {entries inner changed : Directory}
    (hinner : entries.lookup part = some (.dir inner) ∨ entries.lookup part = none ∧ inner = [])
    (hbelow : listedAt enters suffix (.dir changed) = listedAt enters suffix (.dir inner)) :
    listedAt enters suffix (.dir (setEntry part (.dir changed) entries)) =
      listedAt enters suffix (.dir entries) := by
  obtain hlook | ⟨hlook, rfl⟩ := hinner
  · refine listedAt_setEntry rfl (fun old hold => ?_) fun parts => ?_
    · rw [hlook] at hold
      cases hold
      rfl
    · rw [hlook, hbelow]
      rfl
  · -- What was not there lists as much as an empty directory.
    refine listedAt_setEntry rfl (fun old hold => ?_) fun parts => ?_
    · rw [hlook] at hold
      cases hold
    · rw [hlook, hbelow, listedAt_empty]
      rfl

/-- A file of another suffix that is put where no directory stands changes no listing. -/
theorem listedAt_setFile {place : List String} {name : String} {entries : Directory} (bytes : Bytes)
    (hsuffix : Files.suffix name ≠ suffix) (hfree : sightIn entries (place ++ [name]) ≠ some .dir) :
    listedAt enters suffix (.dir (alterAt (setEntry name (.file bytes)) place entries)) =
      listedAt enters suffix (.dir entries) := by
  induction place generalizing entries with
  | nil =>
    have hnone : ∀ entry, hasSuffix suffix ([name], entry) = false := by
      intro entry
      simp [hasSuffix, hsuffix]
    refine listedAt_setEntry (hnone _) (fun old _ => hnone old) fun parts => ?_
    rw [listedAt_file]
    rw [List.nil_append, Files.sightIn_singleton] at hfree
    rcases hlook : entries.lookup name with _ | _ | inner
    · rfl
    · exact (listedAt_file _ parts).symm
    · simp [hlook, Entry.sight] at hfree
  | cons part place ih =>
    rw [List.cons_append, Files.sightIn_cons] at hfree
    rw [alterAt]
    -- Where the way ends before the place, nothing is changed at all.
    rcases hlook : entries.lookup part with _ | _ | inner
    · rfl
    · rfl
    · simp only [hlook] at hfree
      exact listedAt_setDir (.inl hlook) (ih hfree)

/-- Directories that are made change no listing. -/
theorem listedAt_makeAll (parts : List String) (entries : Directory) :
    listedAt enters suffix (.dir (makeAll parts entries).2) = listedAt enters suffix (.dir entries) := by
  induction parts generalizing entries with
  | nil => rfl
  | cons part parts ih =>
    obtain ⟨fault, hmake⟩ | ⟨inner, hinner, hmake⟩ := Files.makeAll_cons part parts entries
    · rw [hmake entries rfl]
    · rw [hmake]
      exact listedAt_setDir hinner (ih inner)

end Listing

/-! ## Stores with the same listings -/

/-- Whether two stores list the same files with a suffix below every place. -/
def SameListing (suffix : String) (store other : Store) : Prop :=
  ∀ enters, listedAt enters suffix (.dir other.root) = listedAt enters suffix (.dir store.root)

variable {store other : Store} {suffix : String}

/-- A text written under a name of another suffix changes no listing. -/
theorem sameListing_writeText (faults : WriteFaults) {path : String} (content : String)
    (hsuffix : Files.suffix (store.locate path).name ≠ suffix) :
    SameListing suffix store (store.writeText faults path content).2 := by
  intro enters
  rw [Store.writeText_eq]
  cases faults .makeDirectories with
  | some fault => rfl
  | none =>
    simp only []
    -- Making the directories on the way changes no listing, and so far nothing else is done.
    have hmade : listedAt enters suffix
        (.dir (store.makeDirectories (store.locate path).parent.parts).2.root) =
          listedAt enters suffix (.dir store.root) := listedAt_makeAll _ store.root
    have hway := Store.makesWay_makeDirectories store (store.locate path).parent.parts
    have hend := @Store.dir_of_makeDirectories store (store.locate path).parent.parts
    generalize store.makeDirectories (store.locate path).parent.parts = step at hmade hway hend ⊢
    obtain ⟨_ | _, made⟩ := step
    · exact hmade
    cases (faults .makeTemporary).or ((faults .fill).or (faults .replace)) with
    | some fault => exact hmade
    | none =>
      simp only []
      cases hmove : (made.put (store.locate path).parent.parts
          (Files.temporaryName ((made.directory? (store.locate path).parent.parts).getD []))
          (.file (Text.Utf8.ofString content))).moveTarget path with
      | error fault => exact hmade
      | ok target =>
        obtain ⟨place, name⟩ := target
        have htarget := (Store.moveTarget_put_temporary (hend rfl) _).1 hmove
        -- The name of the target is that of the path.
        have hname : (store.locate path).name = name := by
          rw [← Store.locate_of_workingDir hway.workingDir, Location.name, htarget.locate,
            List.getLast?_concat, Option.getD_some]
        exact (listedAt_setFile _ (hname ▸ hsuffix) htarget.free).trans hmade

/-- The files below a location are those that are listed there. -/
theorem SameListing.filesBelow_eq (h : SameListing suffix store other) (excluded : List String)
    (location : Location) :
    filesBelow other suffix excluded location = filesBelow store suffix excluded location := by
  -- The files of either store are those that it lists at the location, in one order.
  have hlisted : ∀ s : Store, (entriesBelow (isEntered excluded)
      ((s.directory? location.parts).getD [])).filter (hasSuffix suffix) =
        listedAt (isEntered excluded) suffix (.dir s.root) location.parts := by
    intro s
    rw [Store.directory?, Store.find?, listedAt]
    rcases (Entry.dir s.root).find? location.parts with _ | _ | _ <;> rfl
  rw [filesBelow, filesBelow, hlisted, hlisted, h]

/-- Projects are found as before, from a directory that was there. -/
theorem findProjects_of_sameListing (hprojects : SameListing projectSuffix store other)
    (hsources : SameListing sourceSuffix store other) (hgrows : store.Grows other) {path : String}
    (hdir : (store.directory? (store.locate path).parts).isSome = true) (excluded : List String) :
    findProjects other excluded path = findProjects store excluded path := by
  have hdir' : (other.directory? (store.locate path).parts).isSome = true :=
    Store.directory?_isSome_iff.2 (hgrows.dirs _ (Store.directory?_isSome_iff.1 hdir))
  have hunit : unitOf other excluded = unitOf store excluded := by
    funext projectFile
    simp only [unitOf, sourcesBelow, hsources.filesBelow_eq]
  have hunits : findUnits other excluded path = findUnits store excluded path := by
    simp only [findUnits, hgrows.locate, hprojects.filesBelow_eq, hunit,
      Option.isNone_eq_false_iff.2 hdir, Option.isNone_eq_false_iff.2 hdir']
  simp only [findProjects, findSources, sourcesBelow, hunits, hgrows.locate, hsources.filesBelow_eq]

end ApiOutline.Discovery
