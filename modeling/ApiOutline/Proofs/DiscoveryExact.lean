import ApiOutline.Proofs.Discovered
import ApiOutline.Proofs.StoreListing
import Mathlib.Data.List.Nodup
import Mathlib.Data.List.Sort
import Mathlib.Data.List.TakeWhile
import Mathlib.Data.String.Basic

/-!
# Discovery finds exactly the files it should

A file is found below a directory if its suffix is the one looked for and every directory on the way to it is
entered (`FoundBelow`). In a well-formed store discovery gives exactly these files, each once, in the order
of their path texts (`ListsFiles`). There is only one such list, which depends on what stands where and not on
the order in which directories list their entries; and the sources of a project are those of the whole tree
that lie below the directory of the project (`discovery_exact`).
-/

namespace ApiOutline.Files

open Text (lower)

/-! ## All that is listed below a directory -/

section Listing

variable {enters : String → Bool}

/-- Each entry of a directory is listed, and what is below it if its name is accepted. -/
theorem mem_entriesBelow_iff {entries : Directory} {parts : List String} {found : Entry} :
    (parts, found) ∈ entriesBelow enters entries ↔
      ∃ name entry rest, parts = name :: rest ∧ (name, entry) ∈ entries ∧
        (rest = [] ∧ found = entry ∨ enters name = true ∧ (rest, found) ∈ entry.contents enters) := by
  induction entries with
  | nil => simp [entriesBelow]
  | cons first entries ih =>
    obtain ⟨key, value⟩ := first
    rw [entriesBelow, List.cons_append, List.mem_cons, List.mem_append, ih]
    constructor
    · rintro (heq | hinner | ⟨name, entry, rest, hparts, hmem, hrest⟩)
      · cases heq
        exact ⟨key, found, [], rfl, List.mem_cons_self, .inl ⟨rfl, rfl⟩⟩
      · obtain ⟨⟨rest, other⟩, hlisted, heq⟩ := List.mem_map.1 hinner
        cases heq
        split_ifs at hlisted with henters
        · exact ⟨key, value, rest, rfl, List.mem_cons_self, .inr ⟨henters, hlisted⟩⟩
        · cases hlisted
      · exact ⟨name, entry, rest, hparts, List.mem_cons_of_mem _ hmem, hrest⟩
    · rintro ⟨name, entry, rest, rfl, hmem, hrest⟩
      obtain heq | hmem := List.mem_cons.1 hmem
      · cases heq
        obtain ⟨rfl, rfl⟩ | ⟨henters, hlisted⟩ := hrest
        · exact .inl rfl
        · refine .inr (.inl ?_)
          rw [if_pos henters]
          exact List.mem_map.2 ⟨(rest, found), hlisted, rfl⟩
      · exact .inr (.inr ⟨name, entry, rest, rfl, hmem, hrest⟩)

/-- What is listed below a well-formed entry is what stands there, with accepted names on the way. -/
theorem mem_contents_iff {entry found : Entry} (h : entry.WellFormed) {parts : List String} :
    (parts, found) ∈ entry.contents enters ↔
      ∃ dirs name, parts = dirs ++ [name] ∧ entry.find? parts = some found ∧
        ∀ dir ∈ dirs, enters dir = true := by
  induction parts generalizing entry with
  | nil =>
    constructor
    · intro hmem
      exact absurd rfl (Discovery.parts_ne_nil_of_mem_contents hmem)
    · rintro ⟨dirs, name, hparts, -⟩
      simp at hparts
  | cons part parts ih =>
    cases entry with
    | file content =>
      constructor
      · intro hmem
        cases hmem
      · rintro ⟨_, _, -, hfind, -⟩
        cases hfind
    | dir entries =>
      rw [Entry.contents, mem_entriesBelow_iff, Entry.find?]
      constructor
      · -- Names are different, so the entry that is listed under the first name is the one found there.
        rintro ⟨name, entry, rest, heq, hmem, hrest⟩
        cases heq
        rw [WellFormedEntries.lookup_of_mem h hmem]
        obtain ⟨rfl, rfl⟩ | ⟨henters, hlisted⟩ := hrest
        · exact ⟨[], part, rfl, by cases found <;> rfl, by simp⟩
        · have hentry := (WellFormedEntries.of_lookup h (WellFormedEntries.lookup_of_mem h hmem)).2
          obtain ⟨dirs, name, rfl, hfind, hdirs⟩ := (ih hentry).1 hlisted
          exact ⟨part :: dirs, name, rfl, hfind, List.forall_mem_cons.2 ⟨henters, hdirs⟩⟩
      · rintro ⟨dirs, name, hparts, hfind, hdirs⟩
        -- What is found stands in an entry of the directory, and that entry is listed with all below it.
        cases hlook : entries.lookup part with
        | none => simp [hlook] at hfind
        | some entry =>
          simp only [hlook] at hfind
          obtain ⟨front, back, hentries, -⟩ := List.lookup_eq_some_iff.1 hlook
          refine ⟨part, entry, parts, rfl, by simp [hentries], ?_⟩
          cases dirs with
          | nil =>
            cases hparts
            refine .inl ⟨rfl, ?_⟩
            cases entry <;> cases hfind <;> rfl
          | cons dir dirs =>
            cases hparts
            obtain ⟨henters, hdirs⟩ := List.forall_mem_cons.1 hdirs
            exact .inr ⟨henters,
              (ih (WellFormedEntries.of_lookup h hlook).2).2 ⟨dirs, name, rfl, hfind, hdirs⟩⟩

mutual

/-- Nothing is listed twice below a well-formed entry. -/
theorem Entry.nodup_contents (enters : String → Bool) : ∀ entry : Entry, entry.WellFormed →
    ((entry.contents enters).map Prod.fst).Nodup
  | .file _, _ => List.nodup_nil
  | .dir entries, h => nodup_entriesBelow enters entries h

/-- Nothing is listed twice in and below well-formed entries. -/
theorem nodup_entriesBelow (enters : String → Bool) : ∀ entries : Directory, WellFormedEntries entries →
    ((entriesBelow enters entries).map Prod.fst).Nodup
  | [], _ => List.nodup_nil
  | (name, entry) :: entries, ⟨⟨_, hentry, hdifferent⟩, hentries⟩ => by
    -- Three groups are listed, told apart by how their parts begin and how many there are.
    have hlisted : ∀ parts ∈ (entriesBelow enters entries).map Prod.fst, parts.head? ≠ some name := by
      rw [List.forall_mem_map]
      rintro ⟨parts, found⟩ hmem
      obtain ⟨other, value, rest, rfl, hother, -⟩ := mem_entriesBelow_iff.1 hmem
      simpa using hdifferent _ hother
    have hbelow : ∀ parts ∈ ((if enters name then entry.contents enters else []).map
        fun found => (name :: found.1, found.2)).map Prod.fst, parts.head? = some name ∧ parts ≠ [name] := by
      rw [List.map_map, List.forall_mem_map]
      intro found hfound
      refine ⟨rfl, fun heq => ?_⟩
      split_ifs at hfound
      · exact Discovery.parts_ne_nil_of_mem_contents hfound (List.cons.inj heq).2
      · cases hfound
    have hinner : (((if enters name then entry.contents enters else []).map
        fun found => (name :: found.1, found.2)).map Prod.fst).Nodup := by
      split_ifs
      · have hcontents := Entry.nodup_contents enters entry hentry
        simpa [List.map_map, Function.comp_def] using hcontents.map (List.cons_injective (a := name))
      · exact List.nodup_nil
    -- The entry itself has one part, what is below it more of them, and the others start with another name.
    rw [entriesBelow, List.cons_append, List.map_cons, List.map_append, List.nodup_cons, List.nodup_append,
      List.mem_append, not_or]
    refine ⟨⟨fun hmem => (hbelow _ hmem).2 rfl, fun hmem => hlisted _ hmem rfl⟩, hinner,
      nodup_entriesBelow enters entries hentries, ?_⟩
    rintro parts hparts other hother rfl
    exact hlisted _ hother (hbelow _ hparts).1

end

end Listing

/-! ## Suffixes of names -/

/-- Whether the suffix of a name in lower case is the given one: it starts at the last dot, before which
some character is no dot. -/
def EndsIn (suffix name : String) : Prop :=
  ∃ stem ext : List Char, name.toList = stem ++ '.' :: ext ∧ '.' ∉ ext ∧ (∃ c ∈ stem, c ≠ '.') ∧
    String.ofList (lower ('.' :: ext)) = suffix

/-- A name that has a suffix ends in it. -/
theorem suffix_eq_iff {suffix name : String} (h : suffix ≠ "") :
    Files.suffix name = suffix ↔ EndsIn suffix name := by
  -- The suffix is that of the last dot, which the two directions take from different sides.
  have hsplit : ∀ stem ext, '.' ∉ ext → name.toList = stem ++ '.' :: ext →
      Files.suffix name = if stem.any (· ≠ '.') then String.ofList (lower ('.' :: ext)) else "" := by
    intro stem ext hext hname
    rw [Files.suffix, splitSuffix, hname, splitSuffixAt_append stem hext]
    split_ifs <;> simp [Text.lowerString, lower]
  constructor
  · intro hsuffix
    by_cases hdot : '.' ∈ name.toList
    · -- The last dot is the first one from the end.
      obtain ⟨ext, stem, hreverse, hext⟩ := List.eq_append_cons_of_mem (List.mem_reverse.2 hdot)
      have hname : name.toList = stem.reverse ++ '.' :: ext.reverse := by
        rw [← List.reverse_reverse name.toList, hreverse]
        simp
      have hnone : '.' ∉ ext.reverse := by rwa [List.mem_reverse]
      rw [hsplit _ _ hnone hname] at hsuffix
      split_ifs at hsuffix with hany
      · refine ⟨_, _, hname, hnone, ?_, hsuffix⟩
        simpa using hany
      · exact absurd hsuffix.symm h
    · -- Without a dot there is no suffix.
      have htail : (name.toList.reverse.takeWhile (· ≠ '.')).reverse = name.toList := by
        rw [List.takeWhile_eq_self_iff.2, List.reverse_reverse]
        intro c hc
        rw [decide_eq_true_eq]
        exact fun heq => hdot (heq ▸ List.mem_reverse.1 hc)
      rw [Files.suffix, splitSuffix, splitSuffixAt, htail, if_neg (by simp)] at hsuffix
      exact absurd hsuffix.symm h
  · rintro ⟨stem, ext, hname, hext, ⟨c, hc, hdot⟩, hsuffix⟩
    have hany : stem.any (· ≠ '.') = true := List.any_eq_true.2 ⟨c, hc, decide_eq_true hdot⟩
    rw [hsplit stem ext hext hname, if_pos hany, hsuffix]

/-! ## Paths below a directory -/

/-- Whether a path text is below a directory: it goes on after that of the directory and a slash. -/
def LiesBelow (directory path : String) : Prop :=
  (joinPaths directory "").toList <+: path.toList

instance (directory path : String) : Decidable (LiesBelow directory path) :=
  inferInstanceAs (Decidable ((joinPaths directory "").toList <+: path.toList))

/-- With a slash at its end a path text has the same parts. -/
theorem exists_joinPaths_empty {path : String} (h : path ≠ "") :
    ∃ front, joinPaths path "" = front ++ "/" ∧ partsOf front = partsOf path := by
  have habsolute : isAbsolute "" = false := rfl
  rw [joinPaths, habsolute]
  simp only [Bool.false_eq_true, if_false, Bool.or_eq_true, String.isEmpty_iff, decide_eq_true_eq, h,
    false_or, String.append_empty]
  split_ifs with hlast
  · obtain ⟨cs, hcs⟩ := List.getLast?_eq_some_iff.1 hlast
    have htext : path = String.ofList cs ++ "/" := by
      rw [← String.toList_inj, hcs]
      simp
    have hparts := partsOf_append_slash (String.ofList cs) ""
    rw [String.append_empty, partsOf_empty, List.append_nil] at hparts
    exact ⟨String.ofList cs, htext, by rw [htext, hparts]⟩
  · exact ⟨path, rfl, rfl⟩

/-- A path text below a directory has the parts of the directory and then others. -/
theorem LiesBelow.startsWith {directory path : String} (hdirectory : directory ≠ "")
    (h : LiesBelow directory path) : partsOf directory <+: partsOf path := by
  obtain ⟨front, hfront, hparts⟩ := exists_joinPaths_empty hdirectory
  obtain ⟨rest, hrest⟩ := h
  have hpath : path = front ++ "/" ++ String.ofList rest := by
    rw [← String.toList_inj, ← hrest, hfront]
    simp
  rw [hpath, partsOf_append_slash, hparts]
  exact List.prefix_append _ _

/-- Parts put together in two groups have a slash between the groups. -/
theorem joinParts_append {parts rest : List String} (hparts : parts ≠ []) (hrest : rest ≠ []) :
    joinParts (parts ++ rest) = joinParts parts ++ "/" ++ joinParts rest := by
  have hpieces : parts.map String.toList ≠ [] := by simpa using hparts
  have hothers : rest.map String.toList ≠ [] := by simpa using hrest
  simp only [joinParts, Text.joinStrings, ← String.toList_inj, String.toList_append, String.toList_ofList,
    List.map_append, Text.join_append _ hpieces hothers]

/-- The path text of a location is not empty. -/
theorem text_ne_empty (location : Location) : location.text ≠ "" := by
  rw [Location.text]
  split_ifs <;> simp

/-- More parts than those of a directory follow its path text and a slash. -/
theorem text_append (doubled : Bool) {parts rest : List String} (h : ∀ part ∈ parts, ProperName part)
    (hrest : rest ≠ []) :
    Location.text ⟨doubled, parts ++ rest⟩ =
      joinPaths (Location.text ⟨doubled, parts⟩) "" ++ joinParts rest := by
  -- The root has no last part; its text ends in a slash by itself.
  obtain rfl | ⟨place, name, rfl⟩ := parts.eq_nil_or_concat
  · have hroot : joinPaths (Location.text ⟨doubled, []⟩) "" = if doubled then "//" else "/" := by
      cases doubled <;> decide
    rw [hroot, List.nil_append, Location.text]
  · rw [List.concat_eq_append] at h ⊢
    have hlast : (Location.text ⟨doubled, place ++ [name]⟩).toList.getLast? ≠ some '/' :=
      of_decide_eq_false (endsWithSlash_text doubled place (h name (by simp)))
    have hslash : joinPaths (Location.text ⟨doubled, place ++ [name]⟩) "" =
        Location.text ⟨doubled, place ++ [name]⟩ ++ "/" := by
      rw [joinPaths, if_neg (by decide), if_neg (by simp [hlast, text_ne_empty]), String.append_empty]
    rw [hslash, Location.text, Location.text, joinParts_append (by simp) hrest]
    simp only [String.append_assoc]

/-- What has more parts than a directory is below it. -/
theorem liesBelow_text (doubled : Bool) {parts rest : List String}
    (h : ∀ part ∈ parts, ProperName part) (hrest : rest ≠ []) :
    LiesBelow (Location.text ⟨doubled, parts⟩) (Location.text ⟨doubled, parts ++ rest⟩) := by
  rw [LiesBelow, text_append doubled h hrest, String.toList_append]
  exact List.prefix_append _ _

end ApiOutline.Files

namespace ApiOutline.Discovery

open Files (Entry Directory Location Store ProperName EndsIn LiesBelow)

/-! ## The files that are found -/

/-- Whether a location is that of a file below a base whose suffix is the given one, and no directory between
the base and the file is hidden or excluded. -/
def FoundBelow (store : Store) (excluded : List String) (suffix : String) (base file : Location) : Prop :=
  ∃ dirs name bytes, file = ⟨base.doubled, base.parts ++ (dirs ++ [name])⟩ ∧
    store.sight? file.parts = some (.file bytes) ∧
    (∀ dir ∈ dirs, dir.toList.head? ≠ some '.' ∧ dir ∉ excluded) ∧ EndsIn suffix name

/-- Whether a list has exactly the files that are found below a base, in the order of their path texts. -/
structure ListsFiles (store : Store) (excluded : List String) (suffix : String) (base : Location)
    (files : List Location) : Prop where
  increasing : files.Pairwise fun a b => a.text < b.text
  mem_iff : ∀ file, file ∈ files ↔ FoundBelow store excluded suffix base file

/-- There is only one list in order of the files that are found. -/
theorem ListsFiles.unique {store other : Store} {excluded : List String} {suffix : String}
    {base : Location} {files others : List Location} (h : ListsFiles store excluded suffix base files)
    (hother : ListsFiles other excluded suffix base others)
    (hfound : ∀ file, FoundBelow store excluded suffix base file ↔
      FoundBelow other excluded suffix base file) : files = others := by
  have hnodup : ∀ {files : List Location}, (files.Pairwise fun a b => a.text < b.text) → files.Nodup :=
    fun hfiles => hfiles.imp fun hlt heq => absurd hlt (by simp [heq])
  -- Both lists have the same files, and an order that no two files share.
  have hperm : files.Perm others := by
    rw [List.perm_ext_iff_of_nodup (hnodup h.increasing) (hnodup hother.increasing)]
    intro file
    rw [h.mem_iff, hother.mem_iff, hfound]
  refine hperm.eq_of_pairwise ?_ h.increasing hother.increasing
  intro a b _ _ hlt hgt
  exact absurd hgt (lt_asymm hlt)

/-- A directory is looked into if it is neither hidden nor excluded. -/
theorem isEntered_iff {excluded : List String} {name : String} :
    isEntered excluded name = true ↔ name.toList.head? ≠ some '.' ∧ name ∉ excluded := by
  simp [isEntered]

/-- What stands below a directory of a store is what stands in the directory. -/
theorem sight?_append {store : Store} {place : List String} {entries : Directory}
    (h : store.directory? place = some entries) (rest : List String) :
    store.sight? (place ++ rest) = Files.sightIn entries rest := by
  rw [Store.sight?, Files.sightIn, Entry.find?_append, ← Store.find?, Store.find?_of_directory? h]
  rfl

/-- A file is seen where it stands. -/
theorem sightIn_eq_file_iff {entries : Directory} {parts : List String} {bytes : Text.Bytes} :
    Files.sightIn entries parts = some (.file bytes) ↔
      (Entry.dir entries).find? parts = some (.file bytes) := by
  rw [Files.sightIn, Option.map_eq_some_iff]
  constructor
  · rintro ⟨entry, hfind, hsight⟩
    cases entry with
    | file content =>
      cases hsight
      exact hfind
    | dir inner => cases hsight
  · intro hfind
    exact ⟨_, hfind, rfl⟩

section Found

variable {store : Store} (hstore : store.WellFormed) {excluded : List String} {suffix : String}
  {base file : Location}

include hstore

/-- The directories of a well-formed store are well-formed, under proper names. -/
theorem wellFormed_of_directory? {place : List String} {entries : Directory}
    (h : store.directory? place = some entries) :
    (Entry.dir entries).WellFormed ∧ ∀ part ∈ place, ProperName part := by
  have hroot : (Entry.dir store.root).WellFormed := hstore
  exact hroot.of_find? (Store.find?_of_directory? h)

/-- The names that lead to a file of a well-formed store are proper. -/
theorem properName_of_file {place : List String} {bytes : Text.Bytes}
    (h : store.sight? place = some (.file bytes)) : ∀ part ∈ place, ProperName part := by
  have hroot : (Entry.dir store.root).WellFormed := hstore
  exact (hroot.of_find? (sightIn_eq_file_iff.1 h)).2

/-- What discovery finds below a base are the files below it that should be found. -/
theorem mem_filesBelow_iff (hsuffix : suffix ≠ "") :
    file ∈ filesBelow store suffix excluded base ↔ FoundBelow store excluded suffix base file := by
  rw [filesBelow, List.mem_mergeSort, List.mem_map]
  constructor
  · rintro ⟨⟨parts, entry⟩, hfound, rfl⟩
    obtain ⟨hbelow, hhas⟩ := List.mem_filter.1 hfound
    rw [hasSuffix, Bool.and_eq_true, decide_eq_true_eq] at hhas
    cases hdir : store.directory? base.parts with
    | none =>
      rw [hdir] at hbelow
      cases hbelow
    | some entries =>
      rw [hdir, Option.getD_some] at hbelow
      obtain ⟨dirs, name, rfl, hfind, hdirs⟩ :=
        (Files.mem_contents_iff (wellFormed_of_directory? hstore hdir).1).1 hbelow
      obtain ⟨hfile, hname⟩ := hhas
      cases entry with
      | dir inner => cases hfile
      | file bytes =>
        refine ⟨dirs, name, bytes, rfl, ?_, fun dir hmem => isEntered_iff.1 (hdirs dir hmem), ?_⟩
        · rw [sight?_append hdir, sightIn_eq_file_iff, hfind]
        · rw [← Files.suffix_eq_iff hsuffix, ← hname]
          simp
  · rintro ⟨dirs, name, bytes, rfl, hsight, hdirs, hends⟩
    have hne : dirs ++ [name] ≠ [] := by simp
    -- A file below the base means that the base is a directory, whose contents are listed.
    have hbase : store.sight? base.parts = some .dir :=
      Files.sightIn_append_dir hne (by rw [← Store.sight?, hsight]; simp)
    obtain ⟨entries, hdir⟩ := Option.isSome_iff_exists.1 (Store.directory?_isSome_iff.2 hbase)
    rw [sight?_append hdir, sightIn_eq_file_iff] at hsight
    refine ⟨(dirs ++ [name], .file bytes), List.mem_filter.2 ⟨?_, ?_⟩, rfl⟩
    · rw [hdir, Option.getD_some]
      exact (Files.mem_contents_iff (wellFormed_of_directory? hstore hdir).1).2
        ⟨dirs, name, rfl, hsight, fun dir hmem => isEntered_iff.2 (hdirs dir hmem)⟩
    · rw [← Files.suffix_eq_iff hsuffix] at hends
      simp [hasSuffix, Entry.isFile, hends]

/-- Discovery finds no file twice. -/
theorem nodup_filesBelow : (filesBelow store suffix excluded base).Nodup := by
  have hentries : Files.WellFormedEntries ((store.directory? base.parts).getD []) := by
    cases hdir : store.directory? base.parts with
    | none => trivial
    | some entries => exact (wellFormed_of_directory? hstore hdir).1
  have hparts := Files.nodup_entriesBelow (isEntered excluded) _ hentries
  have hfound := hparts.sublist ((List.filter_sublist (p := hasSuffix suffix)).map Prod.fst)
  have hinjective : Function.Injective fun parts =>
      ({ base with parts := base.parts ++ parts } : Location) := by
    intro parts other heq
    exact List.append_cancel_left (congrArg Location.parts heq)
  rw [filesBelow, (List.mergeSort_perm _ _).nodup_iff]
  simpa [List.map_map, Function.comp_def] using hfound.map hinjective

/-- Discovery lists exactly the files that should be found, in the order of their path texts. -/
theorem listsFiles_filesBelow (hsuffix : suffix ≠ "") :
    ListsFiles store excluded suffix base (filesBelow store suffix excluded base) where
  mem_iff _ := mem_filesBelow_iff hstore hsuffix
  increasing := by
    have hsorted : (filesBelow store suffix excluded base).Pairwise fun a b => a.text ≤ b.text := by
      refine (List.pairwise_mergeSort ?_ ?_ _).imp of_decide_eq_true
      · intro a b c hab hbc
        exact decide_eq_true (le_trans (of_decide_eq_true hab) (of_decide_eq_true hbc))
      · intro a b
        simpa using le_total a.text b.text
    -- Sorted and without repetition is strictly sorted.
    refine (hsorted.and (nodup_filesBelow hstore)).imp_of_mem ?_
    rintro a b ha hb ⟨hle, hne⟩
    refine lt_of_le_of_ne hle fun htext => hne ?_
    -- Files with the same path text have the same parts, below the same base.
    have hparts : a.parts = b.parts := by
      rw [← Files.partsOf_text (isFile_of_mem_filesBelow hstore ha).proper, htext,
        Files.partsOf_text (isFile_of_mem_filesBelow hstore hb).proper]
    obtain ⟨_, _, _, rfl, -⟩ := (mem_filesBelow_iff hstore hsuffix).1 ha
    obtain ⟨_, _, _, rfl, -⟩ := (mem_filesBelow_iff hstore hsuffix).1 hb
    exact congrArg (Location.mk base.doubled) hparts

/-- The directory of a file that is found is the base or below it, through directories that are entered. -/
theorem FoundBelow.exists_parent {project : Location} (h : FoundBelow store excluded suffix base project) :
    ∃ dirs, project.parent = ⟨base.doubled, base.parts ++ dirs⟩ ∧
      (∀ dir ∈ dirs, dir.toList.head? ≠ some '.' ∧ dir ∉ excluded) ∧
      store.sight? (base.parts ++ dirs) = some .dir ∧ ∀ part ∈ base.parts ++ dirs, ProperName part := by
  obtain ⟨dirs, name, bytes, rfl, hsight, hdirs, -⟩ := h
  rw [← List.append_assoc] at hsight
  have hdir : store.sight? (base.parts ++ dirs) = some .dir :=
    Files.sightIn_append_dir (List.cons_ne_nil name []) (by rw [← Store.sight?, hsight]; simp)
  obtain ⟨entries, hentries⟩ := Option.isSome_iff_exists.1 (Store.directory?_isSome_iff.2 hdir)
  refine ⟨dirs, ?_, hdirs, hdir, (wellFormed_of_directory? hstore hentries).2⟩
  rw [Location.parent, ← List.append_assoc, List.dropLast_concat]

/-- The files below the directory of a project are the files of the whole tree that lie below it. -/
theorem filesBelow_parent {other : String} {project : Location} (hsuffix : suffix ≠ "")
    (h : FoundBelow store excluded other base project) :
    filesBelow store suffix excluded project.parent =
      (filesBelow store suffix excluded base).filter fun file =>
        LiesBelow project.parent.text file.text := by
  obtain ⟨dirs, hparent, hdirs, hdir, hproper⟩ := h.exists_parent hstore
  rw [hparent]
  refine (listsFiles_filesBelow hstore hsuffix).unique ⟨?_, fun file => ?_⟩ fun _ => Iff.rfl
  · exact (listsFiles_filesBelow hstore hsuffix).increasing.filter _
  rw [List.mem_filter, mem_filesBelow_iff hstore hsuffix, decide_eq_true_eq]
  constructor
  · -- A file of the whole tree that lies below the directory has the parts of the directory first.
    rintro ⟨⟨inner, name, bytes, rfl, hsight, hinner, hends⟩, hbelow⟩
    have hfile : ∀ part ∈ base.parts ++ (inner ++ [name]), ProperName part :=
      properName_of_file hstore hsight
    have hstarts := hbelow.startsWith (Files.text_ne_empty _)
    rw [Files.partsOf_text hproper, Files.partsOf_text hfile, List.prefix_append_right_inj] at hstarts
    -- The directory itself is no file, so parts are left after it.
    obtain hdirectory | ⟨rest, rfl⟩ := List.prefix_concat_iff.1 hstarts
    · rw [hdirectory, hsight] at hdir
      cases hdir
    · exact ⟨rest, name, bytes, by simp, hsight,
        fun dir hmem => hinner dir (List.mem_append_right _ hmem), hends⟩
  · -- Conversely, the way from the base to the file goes through the directory.
    rintro ⟨inner, name, bytes, rfl, hsight, hinner, hends⟩
    have hparts : base.parts ++ dirs ++ (inner ++ [name]) = base.parts ++ (dirs ++ inner ++ [name]) := by
      simp
    constructor
    · refine ⟨dirs ++ inner, name, bytes, by rw [hparts], hsight, ?_, hends⟩
      rw [List.forall_mem_append]
      exact ⟨hdirs, hinner⟩
    · exact Files.liesBelow_text base.doubled hproper (by simp)

/-- The sources of the project of a project file that is found are the sources of the whole tree that lie
below its directory. -/
theorem unitOf_eq {other : String} {project : Location} (h : FoundBelow store excluded other base project) :
    unitOf store excluded project = {
      name := (Files.splitSuffix project.name).1
      root := project.parent.text
      sourceFiles := (sourcesBelow store excluded base).filter (LiesBelow project.parent.text) } := by
  rw [unitOf, sourcesBelow, sourcesBelow, filesBelow_parent hstore (by decide) h, List.filter_map]
  rfl

/-- In a store where the same files and directories stand, in whatever order directories list them, the same
files are found. -/
theorem filesBelow_of_sight {other : Store} (hother : other.WellFormed)
    (hsight : ∀ parts, other.sight? parts = store.sight? parts) (hsuffix : suffix ≠ "") :
    filesBelow other suffix excluded base = filesBelow store suffix excluded base := by
  refine (listsFiles_filesBelow hother hsuffix).unique (listsFiles_filesBelow hstore hsuffix) fun file => ?_
  unfold FoundBelow
  simp only [hsight]

end Found

/-- What finding projects comes to: a fault if the path is no directory or there is no project file, and
else the project of each project file. -/
theorem outcome_findUnits (store : Store) (excluded : List String) (path : String) :
    (findUnits store excluded path).outcome =
      if store.sight? (store.locate path).parts ≠ some .dir then
        .error (.notDirectory (store.locate path).text)
      else if filesBelow store projectSuffix excluded (store.locate path) = [] then
        .error (.noProjects (store.locate path).text)
      else .ok ((filesBelow store projectSuffix excluded (store.locate path)).map
        (unitOf store excluded)) := by
  unfold findUnits
  simp only [Option.isNone_iff_eq_none, Store.directory?_eq_none_iff]
  by_cases hdir : store.sight? (store.locate path).parts ≠ some .dir
  · rw [if_pos hdir, if_pos hdir]
    rfl
  · rw [if_neg hdir, if_neg hdir]
    cases filesBelow store projectSuffix excluded (store.locate path) with
    | nil => rfl
    | cons file files => rfl

/-- The order in which directories list their entries does not matter to discovery. -/
theorem find_of_sight {store other : Store} (hstore : store.WellFormed) (hother : other.WellFormed)
    (hdir : other.workingDir = store.workingDir)
    (hsight : ∀ parts, other.sight? parts = store.sight? parts) (excluded : List String) (path : String) :
    findSources other excluded path = findSources store excluded path ∧
      findUnits other excluded path = findUnits store excluded path := by
  have hlocate : other.locate path = store.locate path := Store.locate_of_workingDir hdir path
  -- All that discovery reads is what files are found below a location, which is the same in both.
  have hsources : ∀ location, sourcesBelow other excluded location = sourcesBelow store excluded location := by
    intro location
    rw [sourcesBelow, sourcesBelow, filesBelow_of_sight hstore hother hsight (by decide)]
  have hunits : unitOf other excluded = unitOf store excluded := by
    funext project
    rw [unitOf, unitOf, hsources]
  have hprojects : filesBelow other projectSuffix excluded (store.locate path) =
      filesBelow store projectSuffix excluded (store.locate path) :=
    filesBelow_of_sight hstore hother hsight (by decide)
  constructor
  · unfold findSources
    simp only [hlocate, hsources]
  · unfold findUnits
    simp only [hlocate, hunits, hprojects, Option.isNone_iff_eq_none, Store.directory?_eq_none_iff, hsight]

/-- **Discovery is exact.** In a well-formed store, below every path:
* the sources are exactly the files with the suffix of sources that are in no hidden or excluded directory
  below the path, in the order of their path texts, each once;
* there is one project for each file with the suffix of projects of which the same holds, in that order, and
  there is a fault if the path is no directory, or else if there is no such file;
* the sources of a project are those of the sources below the path that lie below its directory;
* none of this depends on the order in which directories list their entries. -/
theorem discovery_exact {store : Store} (hstore : store.WellFormed) (excluded : List String)
    (path : String) : ∃ sources projects : List Location,
      ListsFiles store excluded ".cs" (store.locate path) sources ∧
      ListsFiles store excluded ".csproj" (store.locate path) projects ∧
      (findSources store excluded path).outcome = .ok (sources.map Location.text) ∧
      (findUnits store excluded path).outcome =
        (if store.sight? (store.locate path).parts ≠ some .dir then
          .error (.notDirectory (store.locate path).text)
        else if projects = [] then .error (.noProjects (store.locate path).text)
        else .ok (projects.map fun project => {
          name := (Files.splitSuffix project.name).1
          root := project.parent.text
          sourceFiles := (sources.map Location.text).filter (LiesBelow project.parent.text) })) ∧
      ∀ other : Store, other.WellFormed → other.workingDir = store.workingDir →
        (∀ parts, other.sight? parts = store.sight? parts) →
        findSources other excluded path = findSources store excluded path ∧
          findUnits other excluded path = findUnits store excluded path := by
  refine ⟨filesBelow store ".cs" excluded (store.locate path),
    filesBelow store ".csproj" excluded (store.locate path), listsFiles_filesBelow hstore (by decide),
    listsFiles_filesBelow hstore (by decide), rfl, ?_, ?_⟩
  · have hsuffix : projectSuffix ≠ "" := by decide
    have hunit : ∀ project ∈ filesBelow store projectSuffix excluded (store.locate path), _ :=
      fun project hproject => unitOf_eq hstore ((mem_filesBelow_iff hstore hsuffix).1 hproject)
    rw [outcome_findUnits, List.map_congr_left hunit]
    rfl
  · intro other hother hdir hsight
    exact find_of_sight hstore hother hdir hsight excluded path

/-! ## A store in two orders -/

/-- A directory with a project, one with a similar name and a hidden one, in the order of their path texts. -/
def neighbours : Store where
  root := [(".h", .dir [("Z.cs", .file [])]), ("A.B", .dir [("Y.cs", .file [])]),
    ("A", .dir [("P.csproj", .file []), ("X.CS", .file [])])]
  workingDir := ⟨false, []⟩

/-- The same directories in another order. -/
def neighboursReordered : Store where
  root := [("A", .dir [("P.csproj", .file []), ("X.CS", .file [])]), (".h", .dir [("Z.cs", .file [])]),
    ("A.B", .dir [("Y.cs", .file [])])]
  workingDir := ⟨false, []⟩

/-- In the two stores the same files and directories stand in the same places. -/
theorem sight?_neighboursReordered (parts : List String) :
    neighboursReordered.sight? parts = neighbours.sight? parts := by
  cases parts with
  | nil => rfl
  | cons part parts =>
    have hlookup : neighboursReordered.root.lookup part = neighbours.root.lookup part := by
      simp only [neighboursReordered, neighbours, Files.lookup_cons_eq_ite]
      -- Whichever of the three names is looked up, it stands for the same directory in both.
      split_ifs <;> simp_all
    rw [Store.sight?, Store.sight?, Files.sightIn_cons, Files.sightIn_cons, hlookup]

/-- The project is found with its own source only, in whatever order the directories are listed. -/
theorem neighbours_found : neighbours.WellFormed ∧ neighboursReordered.WellFormed ∧
    (findSources neighboursReordered [] "/").outcome = .ok ["/A.B/Y.cs", "/A/X.CS"] ∧
    (findUnits neighboursReordered [] "/").outcome = .ok [⟨"P", "/A", ["/A/X.CS"]⟩] := by
  have hstore : neighbours.WellFormed := by decide +kernel
  have hother : neighboursReordered.WellFormed := by decide +kernel
  obtain ⟨sources, projects, hsources, hprojects, hfound, hunits, hsame⟩ := discovery_exact hstore [] "/"
  obtain ⟨hsameSources, hsameUnits⟩ := hsame neighboursReordered hother rfl sight?_neighboursReordered
  -- Both lists can be computed, since there is only one list in order.
  have hsources : sources = [⟨false, ["A.B", "Y.cs"]⟩, ⟨false, ["A", "X.CS"]⟩] :=
    (hsources.unique (listsFiles_filesBelow hstore (by decide)) fun _ => Iff.rfl).trans
      (filesBelow_of_sorted (by decide +kernel) (by decide))
  have hprojects : projects = [⟨false, ["A", "P.csproj"]⟩] :=
    (hprojects.unique (listsFiles_filesBelow hstore (by decide)) fun _ => Iff.rfl).trans
      (filesBelow_of_sorted (by decide +kernel) (by decide))
  refine ⟨hstore, hother, ?_, ?_⟩
  · rw [hsameSources, hfound, hsources]
    decide +kernel
  · rw [hsameUnits, hunits, hsources, hprojects]
    decide +kernel

end ApiOutline.Discovery
