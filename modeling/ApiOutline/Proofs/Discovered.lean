import ApiOutline.Discovery
import ApiOutline.Proofs.PathText

/-!
# What discovery finds

In a store whose directories have proper and different names, everything that is listed below a
directory stands where its parts lead (`Entry.find?_of_mem_contents`). Hence the sources of a project
that is found are files of the store with the suffix of sources (`IsSource`), and the names of projects
have no slash.
-/

namespace ApiOutline.Files

open Text (Bytes)

/-! ## Well-formed stores -/

mutual

/-- Whether all names in and below an entry are proper, and different in each directory. -/
def Entry.WellFormed : Entry → Prop
  | .file _ => True
  | .dir entries => WellFormedEntries entries

/-- `Entry.WellFormed`, for the entries of a directory. -/
def WellFormedEntries : List (String × Entry) → Prop
  | [] => True
  | (name, entry) :: rest =>
    (ProperName name ∧ entry.WellFormed ∧ ∀ other ∈ rest, other.1 ≠ name) ∧ WellFormedEntries rest

end

mutual

/-- Whether an entry is well-formed can be computed. -/
def Entry.decideWellFormed : (entry : Entry) → Decidable entry.WellFormed
  | .file _ => .isTrue trivial
  | .dir entries => decideWellFormedEntries entries

/-- `Entry.decideWellFormed`, for the entries of a directory. -/
def decideWellFormedEntries : (entries : Directory) → Decidable (WellFormedEntries entries)
  | [] => .isTrue trivial
  | (name, entry) :: rest =>
    have := entry.decideWellFormed
    have := decideWellFormedEntries rest
    inferInstanceAs (Decidable
      ((ProperName name ∧ entry.WellFormed ∧ ∀ other ∈ rest, other.1 ≠ name) ∧ WellFormedEntries rest))

end

/-- Whether all names in a store are proper, and different in each directory. -/
def Store.WellFormed (store : Store) : Prop :=
  WellFormedEntries store.root

instance (store : Store) : Decidable store.WellFormed :=
  decideWellFormedEntries store.root

/-- Every entry of a well-formed directory is found under its name, which is proper. -/
theorem WellFormedEntries.lookup_of_mem {entries : Directory} (h : WellFormedEntries entries)
    {name : String} {entry : Entry} (hmem : (name, entry) ∈ entries) :
    entries.lookup name = some entry := by
  induction entries with
  | nil => cases hmem
  | cons first rest ih =>
    obtain ⟨key, value⟩ := first
    obtain ⟨⟨-, -, hdifferent⟩, hrest⟩ := h
    rw [lookup_cons_eq_ite]
    -- The first entry with the name counts, and later ones have other names.
    obtain heq | hmem := List.mem_cons.1 hmem
    · cases heq
      rw [if_pos rfl]
    · rw [if_neg (hdifferent _ hmem), ih hrest hmem]

/-- What is found in a well-formed directory is well-formed, under a proper name. -/
theorem WellFormedEntries.of_lookup {entries : Directory} (h : WellFormedEntries entries)
    {name : String} {entry : Entry} (hlook : entries.lookup name = some entry) :
    ProperName name ∧ entry.WellFormed := by
  induction entries with
  | nil => cases hlook
  | cons first rest ih =>
    obtain ⟨key, value⟩ := first
    obtain ⟨⟨hproper, hentry, -⟩, hrest⟩ := h
    rw [lookup_cons_eq_ite] at hlook
    split_ifs at hlook with hkey
    · cases hlook
      exact ⟨hkey ▸ hproper, hentry⟩
    · exact ih hrest hlook

/-- What stands below a well-formed entry is well-formed, and the names that lead there are proper. -/
theorem Entry.WellFormed.of_find? {entry found : Entry} (h : entry.WellFormed) {parts : List String}
    (hfind : entry.find? parts = some found) : found.WellFormed ∧ ∀ part ∈ parts, ProperName part := by
  induction parts generalizing entry with
  | nil =>
    cases entry <;> cases hfind <;> exact ⟨h, by simp⟩
  | cons part parts ih =>
    cases entry with
    | file content => cases hfind
    | dir entries =>
      rw [Entry.find?] at hfind
      cases hlook : entries.lookup part with
      | none => simp [hlook] at hfind
      | some next =>
        simp only [hlook] at hfind
        obtain ⟨hproper, hnext⟩ := WellFormedEntries.of_lookup h hlook
        obtain ⟨hfound, hparts⟩ := ih hnext hfind
        exact ⟨hfound, List.forall_mem_cons.2 ⟨hproper, hparts⟩⟩

/-! ## What is listed below a directory -/

mutual

/-- What is listed below a well-formed entry stands there. -/
theorem Entry.find?_of_mem_contents (enters : String → Bool) : ∀ (entry : Entry),
    entry.WellFormed → ∀ parts found, (parts, found) ∈ entry.contents enters →
      entry.find? parts = some found
  | .file _, _, _, _, hmem => by cases hmem
  | .dir entries, h, parts, found, hmem => by
    -- The names are different, so looking up the first name finds the entry that was listed.
    obtain ⟨name, rest, entry, rfl, hname, hfind⟩ :=
      exists_of_mem_entriesBelow enters entries h parts found hmem
    rw [Entry.find?, h.lookup_of_mem hname]
    exact hfind

/-- What is listed in and below well-formed entries stands below one of them. -/
theorem exists_of_mem_entriesBelow (enters : String → Bool) : ∀ (entries : Directory),
    WellFormedEntries entries → ∀ parts found, (parts, found) ∈ entriesBelow enters entries →
      ∃ name rest entry, parts = name :: rest ∧ (name, entry) ∈ entries ∧
        entry.find? rest = some found
  | [], _, _, _, hmem => by cases hmem
  | (name, entry) :: rest, ⟨⟨_, hentry, _⟩, hrest⟩, parts, found, hmem => by
    rw [entriesBelow, List.cons_append, List.mem_cons, List.mem_append] at hmem
    -- The entry itself is listed, then what is below it if it is entered, then the other entries.
    obtain heq | hinner | hmem := hmem
    · cases heq
      exact ⟨name, [], entry, rfl, List.mem_cons_self, by cases entry <;> rfl⟩
    · obtain ⟨⟨inner, other⟩, hlisted, heq⟩ := List.mem_map.1 hinner
      cases heq
      split_ifs at hlisted
      · exact ⟨name, inner, entry, rfl, List.mem_cons_self,
          Entry.find?_of_mem_contents enters entry hentry inner other hlisted⟩
      · cases hlisted
    · obtain ⟨key, parts, value, hparts, hkey, hfind⟩ :=
        exists_of_mem_entriesBelow enters rest hrest parts found hmem
      exact ⟨key, parts, value, hparts, List.mem_cons_of_mem _ hkey, hfind⟩

end

/-- A file of a store with the given suffix, under proper names. -/
structure IsFile (store : Store) (suffix : String) (location : Location) : Prop where
  proper : ∀ part ∈ location.parts, ProperName part
  suffix : Files.suffix location.name = suffix
  file : ∃ bytes, store.sight? location.parts = some (.file bytes)

end ApiOutline.Files

namespace ApiOutline.Discovery

open Files (Entry Location Store IsFile ProperName)

/-! ## Projects and their sources -/

variable {store : Store} (hstore : store.WellFormed) {excluded : List String}

include hstore

/-- What is found below a location is a file there with the suffix. -/
theorem isFile_of_mem_filesBelow {suffix : String} {base location : Location}
    (h : location ∈ filesBelow store suffix excluded base) : IsFile store suffix location := by
  rw [filesBelow, List.mem_mergeSort] at h
  obtain ⟨⟨parts, entry⟩, hfound, rfl⟩ := List.mem_map.1 h
  obtain ⟨hbelow, hsuffix⟩ := List.mem_filter.1 hfound
  cases hdir : store.directory? base.parts with
  | none =>
    rw [hdir] at hbelow
    cases hbelow
  | some entries =>
    rw [hdir, Option.getD_some] at hbelow
    have hroot : (Entry.dir store.root).WellFormed := hstore
    have hbase : (Entry.dir store.root).find? base.parts = some (.dir entries) :=
      Store.find?_of_directory? hdir
    have hentry : (Entry.dir entries).find? parts = some entry :=
      Entry.find?_of_mem_contents _ _ (hroot.of_find? hbase).1 parts entry hbelow
    have hfind : (Entry.dir store.root).find? (base.parts ++ parts) = some entry := by
      rw [Entry.find?_append, hbase]
      exact hentry
    rw [hasSuffix, Bool.and_eq_true, decide_eq_true_eq] at hsuffix
    -- The directory itself is listed with no parts, but it is no file.
    have hne : parts ≠ [] := by
      rintro rfl
      cases hentry
      cases hsuffix.1
    refine ⟨(hroot.of_find? hfind).2, ?_, ?_⟩
    · obtain ⟨last, hlast⟩ := Option.ne_none_iff_exists'.1 (mt List.getLast?_eq_none_iff.1 hne)
      rw [hlast] at hsuffix
      rw [Location.name, List.getLast?_append, hlast]
      exact hsuffix.2
    · cases entry with
      | file content => exact ⟨content, by rw [Store.sight?, Files.sightIn, hfind]; rfl⟩
      | dir inner => cases hsuffix.1

/-- Whether a path text is that of a source file of a store. -/
def IsSource (store : Store) (path : String) : Prop :=
  ∃ location, path = location.text ∧ IsFile store sourceSuffix location

omit hstore in
/-- The names of project files are the last parts of their locations. -/
theorem properName_name {suffix : String} {location : Location}
    (h : IsFile store suffix location) : ProperName location.name := by
  obtain ⟨bytes, hfile⟩ := h.file
  obtain hnil | ⟨parts, name, hparts⟩ := location.parts.eq_nil_or_concat
  · rw [hnil] at hfile
    cases hfile
  · have hname : location.name = name := by simp [Location.name, hparts]
    rw [hname]
    exact h.proper name (by simp [hparts])

/-- The sources below a location are source files of the store. -/
theorem isSource_of_mem_sourcesBelow {location : Location} {path : String}
    (h : path ∈ sourcesBelow store excluded location) : IsSource store path := by
  obtain ⟨source, hsource, rfl⟩ := List.mem_map.1 h
  exact ⟨source, rfl, isFile_of_mem_filesBelow hstore hsource⟩

/-- A unit found by its project file has a name without a slash, and source files of the store. -/
theorem of_unitOf {projectFile : Location} (h : IsFile store projectSuffix projectFile) :
    '/' ∉ (unitOf store excluded projectFile).name.toList ∧
      ∀ source ∈ (unitOf store excluded projectFile).sourceFiles, IsSource store source := by
  constructor
  · intro hslash
    exact (properName_name h).noSlash (Files.splitSuffix_fst_subset _ hslash)
  · intro source hsource
    exact isSource_of_mem_sourcesBelow hstore hsource

/-- Projects that are found have names without a slash, and source files of the store. -/
theorem of_findProjects {path : String} {units : List ProjectUnit}
    (h : (findProjects store excluded path).outcome = .ok units) :
    ∀ projectUnit ∈ units, '/' ∉ projectUnit.name.toList ∧
      ∀ source ∈ projectUnit.sourceFiles, IsSource store source := by
  unfold findProjects at h
  simp only [] at h
  split at h
  · -- Without a project file all sources are one project.
    simp only [Traced.outcome_bind, Traced.outcome_leave, Traced.outcome_pure] at h
    obtain ⟨_, -, h⟩ := Outcome.except_bind_eq_ok.1 h
    obtain ⟨files, hfiles, h⟩ := Outcome.except_bind_eq_ok.1 h
    cases h
    cases hfiles
    have hname : '/' ∉ implicitName.toList := by decide
    rw [List.forall_mem_singleton]
    exact ⟨hname, fun source hsource => isSource_of_mem_sourcesBelow hstore hsource⟩
  · cases h
  · rename_i found hfound
    cases h
    unfold findUnits at hfound
    simp only [] at hfound
    split_ifs at hfound
    · cases hfound
    · -- Without a directory, or without a project file in it, no project is found.
      split at hfound
      · cases hfound
      · cases hfound
        rw [List.forall_mem_map]
        intro projectFile hfile
        exact of_unitOf hstore (isFile_of_mem_filesBelow hstore hfile)

omit hstore in
/-- Files that are listed in order are found as they are listed. -/
theorem filesBelow_of_sorted {suffix : String} {location : Location} {found : List Location}
    (hlisted : ((Files.entriesBelow (isEntered excluded)
      ((store.directory? location.parts).getD [])).filter (hasSuffix suffix)).map
        (fun entry => { location with parts := location.parts ++ entry.1 : Location }) = found)
    (hsorted : found.Pairwise fun a b => a.text ≤ b.text) :
    filesBelow store suffix excluded location = found := by
  rw [filesBelow, hlisted]
  exact List.mergeSort_of_pairwise (hsorted.imp fun h => decide_eq_true h)

omit hstore in
/-- The projects of the project files below a path are found. -/
theorem findProjects_of_filesBelow {path : String} {files : List Location} (hne : files ≠ [])
    (hdir : (store.directory? (store.locate path).parts).isSome = true)
    (hfiles : filesBelow store projectSuffix excluded (store.locate path) = files) :
    (findProjects store excluded path).outcome = .ok (files.map (unitOf store excluded)) := by
  have hunits : (findUnits store excluded path).outcome =
      .ok (files.map (unitOf store excluded)) := by
    unfold findUnits
    rw [if_neg (by rw [Bool.not_eq_true, Option.isNone_eq_false_iff]; exact hdir), hfiles]
    cases files with
    | nil => exact absurd rfl hne
    | cons file files => rfl
  unfold findProjects
  simp only [hunits]

end ApiOutline.Discovery
