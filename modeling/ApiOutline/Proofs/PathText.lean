import ApiOutline.Proofs.SplitJoin
import ApiOutline.Proofs.StoreWrite
import ApiOutline.Run.Write

/-!
# Path texts

A location all of whose parts are proper names is given back by its path text (`locate_text`), and the
file there is read under it (`read_text`). A name put after a path text is the last part of the whole,
so artifacts of different names have different path texts and different places in one directory
(`locate_artifactPath`, `artifactPath_injective`).
-/

namespace ApiOutline.Files

open Text (splitAt join Bytes)

/-! ## Names -/

/-- Whether a name can stand in a directory. -/
structure ProperName (name : String) : Prop where
  nonempty : name ≠ ""
  noSlash : '/' ∉ name.toList
  noDots : name ≠ "." ∧ name ≠ ".."
  checked : checkName name = .ok ()

/-- Whether a name is let pass can be computed. -/
instance (name : String) : Decidable (checkName name = .ok ()) :=
  match checkName name with
  | .ok () => .isTrue rfl
  | .error _ => .isFalse nofun

/-- Whether a name is proper can be computed. -/
instance (name : String) : Decidable (ProperName name) :=
  decidable_of_iff
    (name ≠ "" ∧ '/' ∉ name.toList ∧ (name ≠ "." ∧ name ≠ "..") ∧ checkName name = .ok ())
    ⟨fun h => ⟨h.1, h.2.1, h.2.2.1, h.2.2.2⟩, fun h => ⟨h.nonempty, h.noSlash, h.noDots, h.checked⟩⟩

/-- A proper name has no null character. -/
theorem ProperName.noNull {name : String} (h : ProperName name) : '\x00' ∉ name.toList := by
  have hchecked := h.checked
  unfold checkName at hchecked
  split_ifs at hchecked with hnull
  exact hnull

/-- A proper name is no longer than a directory takes. -/
theorem ProperName.short {name : String} (h : ProperName name) :
    name.utf8ByteSize ≤ maxNameBytes := by
  have hchecked := h.checked
  unfold checkName at hchecked
  split_ifs at hchecked with _ hlong
  exact Nat.not_lt.1 hlong

/-! ## Parts of a path text -/

/-- A slash divides the parts of a path text. -/
theorem partsOf_append_slash (first second : String) :
    partsOf (first ++ "/" ++ second) = partsOf first ++ partsOf second := by
  have htext : (first ++ "/" ++ second).toList = first.toList ++ '/' :: second.toList := by simp
  simp only [partsOf, htext, Text.splitAt_append_cons, List.filter_append, List.map_append]

/-- There is no part in nothing. -/
@[simp]
theorem partsOf_empty : partsOf "" = [] := rfl

/-- A slash in front adds no part. -/
theorem partsOf_slash (path : String) : partsOf ("/" ++ path) = partsOf path := by
  have h := partsOf_append_slash "" path
  rwa [String.empty_append, partsOf_empty, List.nil_append] at h

/-- Text without a slash is one part. -/
theorem partsOf_name {name : String} (hname : name ≠ "") (hslash : '/' ∉ name.toList) :
    partsOf name = [name] := by
  have hne : name.toList ≠ [] := by simpa using hname
  simp [partsOf, Text.splitAt_of_not_mem hslash, hne]

/-- Parts put together are divided into the same parts. -/
theorem partsOf_joinParts {parts : List String}
    (h : ∀ part ∈ parts, part ≠ "" ∧ '/' ∉ part.toList) : partsOf (joinParts parts) = parts := by
  by_cases hparts : parts = []
  · subst hparts
    rfl
  -- No part has a slash in it, so the text is divided where it was joined.
  have hsplit : splitAt '/' (join ['/'] (parts.map String.toList)) = parts.map String.toList := by
    refine Text.splitAt_join (by simpa using hparts) ?_
    rw [List.forall_mem_map]
    exact fun part hpart => (h part hpart).2
  have hfilter : (parts.map String.toList).filter (· ≠ []) = parts.map String.toList := by
    rw [List.filter_eq_self, List.forall_mem_map]
    intro part hpart
    simpa using (h part hpart).1
  have hslash : "/".toList = ['/'] := rfl
  rw [partsOf, joinParts, Text.joinStrings, String.toList_ofList, hslash, hsplit, hfilter,
    List.map_map]
  simp

/-- Parts put together do not start with a slash. -/
theorem head_joinParts {parts : List String} (h : ∀ part ∈ parts, part ≠ "" ∧ '/' ∉ part.toList) :
    (joinParts parts).toList.head? ≠ some '/' := by
  rw [joinParts, Text.joinStrings, String.toList_ofList]
  cases parts with
  | nil => simp [join]
  | cons part parts =>
    obtain ⟨hpart, hslash⟩ := h part List.mem_cons_self
    -- The text starts with the first character of the first part.
    cases hchars : part.toList with
    | nil => exact absurd (by simpa using hchars) hpart
    | cons c cs =>
      have hc : c ≠ '/' := fun heq => hslash (by simp [hchars, heq])
      cases parts <;> simp [join, hchars, hc]

/-- A name does not start at the root. -/
theorem isAbsolute_name {name : String} (hslash : '/' ∉ name.toList) : isAbsolute name = false := by
  rw [isAbsolute, decide_eq_false_iff_not]
  exact fun h => hslash (List.mem_of_mem_head? h)

/-- A name after a path text starts where the path text does. -/
theorem isAbsolute_joinPaths (first : String) {name : String} (hslash : '/' ∉ name.toList) :
    isAbsolute (joinPaths first name) = isAbsolute first := by
  have hname := isAbsolute_name hslash
  rw [joinPaths, hname]
  by_cases hfirst : first = ""
  · subst hfirst
    simpa [isAbsolute] using hname
  · have hhead : ∀ cs, (first.toList ++ cs).head? = first.toList.head? := by
      intro cs
      cases hchars : first.toList with
      | nil => exact absurd (by simpa using hchars) hfirst
      | cons c cs => rfl
    simp only [Bool.false_eq_true, if_false]
    split_ifs <;> simp only [isAbsolute, String.toList_append, List.append_assoc, hhead]

/-- A name after a path text is one more part. -/
theorem partsOf_joinPaths (first : String) {name : String} (hname : name ≠ "")
    (hslash : '/' ∉ name.toList) : partsOf (joinPaths first name) = partsOf first ++ [name] := by
  rw [joinPaths, isAbsolute_name hslash, ← partsOf_name hname hslash]
  simp only [Bool.false_eq_true, if_false, Bool.or_eq_true, String.isEmpty_iff, decide_eq_true_eq]
  split_ifs with hfirst
  · obtain rfl | hlast := hfirst
    · rw [String.empty_append, partsOf_empty, List.nil_append]
    · -- A slash at the end of the first text divides the two texts.
      obtain ⟨cs, hcs⟩ := List.getLast?_eq_some_iff.1 hlast
      have htext : first = String.ofList cs ++ "/" := by
        rw [← String.toList_inj, hcs]
        simp
      have hempty := partsOf_append_slash (String.ofList cs) ""
      rw [String.append_empty, partsOf_empty, List.append_nil] at hempty
      rw [htext, partsOf_append_slash, hempty]
  · exact partsOf_append_slash first name

/-! ## Locations -/

/-- Names that are neither `.` nor `..` lead down. -/
theorem foldl_step {parts : List String} (h : ∀ part ∈ parts, ProperName part)
    (place : List String) : parts.foldl Location.step place = place ++ parts := by
  induction parts generalizing place with
  | nil => rw [List.foldl_nil, List.append_nil]
  | cons part parts ih =>
    rw [List.forall_mem_cons] at h
    rw [List.foldl_cons, Location.step, if_neg h.1.noDots.1, if_neg h.1.noDots.2, ih h.2,
      List.append_assoc, List.singleton_append]

/-- The path text of a location starts at the root. -/
theorem isAbsolute_text (location : Location) : isAbsolute location.text = true := by
  rw [isAbsolute, Location.text]
  split_ifs <;> simp

section Proper

variable {location : Location} (h : ∀ part ∈ location.parts, ProperName part)

include h

/-- The parts of the path text of a location are its parts. -/
theorem partsOf_text : partsOf location.text = location.parts := by
  have hjoin : partsOf (joinParts location.parts) = location.parts :=
    partsOf_joinParts fun part hpart => ⟨(h part hpart).nonempty, (h part hpart).noSlash⟩
  rw [Location.text]
  split_ifs
  · -- Both slashes in front add no part.
    have htwo : "//" ++ joinParts location.parts = "/" ++ ("/" ++ joinParts location.parts) := by
      rw [← String.append_assoc]
      rfl
    rw [htwo, partsOf_slash, partsOf_slash, hjoin]
  · rw [partsOf_slash, hjoin]

/-- The path text of a location starts with two slashes if it is to be written so. -/
theorem isDoubled_text : isDoubled location.text = location.doubled := by
  have hhead := head_joinParts fun part hpart => ⟨(h part hpart).nonempty, (h part hpart).noSlash⟩
  rw [isDoubled, Location.text]
  cases location.doubled with
  | true =>
    have htext : ("//" ++ joinParts location.parts).toList =
        '/' :: '/' :: (joinParts location.parts).toList := by simp
    simp only [if_true, htext]
    split
    · simp_all
    · rfl
    · simp_all
  | false =>
    have htext : ("/" ++ joinParts location.parts).toList =
        '/' :: (joinParts location.parts).toList := by simp
    simp only [Bool.false_eq_true, if_false, htext]
    split
    · rfl
    · simp_all
    · rfl

/-- A location is given back by its path text, from every store. -/
theorem locate_text (store : Store) : store.locate location.text = location := by
  rw [Store.locate, Location.of, if_pos (isAbsolute_text location), isDoubled_text h,
    partsOf_text h, foldl_step h, List.nil_append]

end Proper

/-- The path text of a location below the root does not end with a slash. -/
theorem endsWithSlash_text (doubled : Bool) (place : List String) {name : String} (hname : ProperName name) :
    Store.endsWithSlash (Location.text ⟨doubled, place ++ [name]⟩) = false := by
  obtain ⟨cs, hcs⟩ := Text.exists_join_concat "/".toList (place.map String.toList) name.toList
  have htext : (Location.text ⟨doubled, place ++ [name]⟩).toList =
      (if doubled then "//" else "/").toList ++ cs ++ name.toList := by
    rw [Location.text, String.toList_append, joinParts, Text.joinStrings, String.toList_ofList,
      List.map_append, List.map_singleton, hcs, List.append_assoc]
  obtain hnil | ⟨ds, d, hds⟩ := name.toList.eq_nil_or_concat
  · exact absurd (by simpa using hnil) hname.nonempty
  · have hd : d ≠ '/' := fun heq => hname.noSlash (by simp [hds, heq])
    simp [Store.endsWithSlash, htext, hds, hd]

/-- Where something stands, the names on the way lead to it. -/
theorem follow_names {store : Store} {parts : List String} (h : ∀ part ∈ parts, ProperName part)
    {place : List String} (hsight : store.sight? (place ++ parts) ≠ none) :
    store.follow place parts = .ok (place ++ parts) := by
  induction parts generalizing place with
  | nil => rw [List.append_nil]; rfl
  | cons part parts ih =>
    rw [List.forall_mem_cons] at h
    -- The way goes on from here, so here is a directory, and the next name stands in it.
    have hplace : store.sight? place = some .dir :=
      sightIn_append_dir (List.cons_ne_nil part parts) hsight
    rw [← List.singleton_append, ← List.append_assoc] at hsight ⊢
    have hnext : store.sight? (place ++ [part]) ≠ none := by
      by_cases hparts : parts = []
      · rwa [hparts, List.append_nil] at hsight
      · have hdir : store.sight? (place ++ [part]) = some .dir := sightIn_append_dir hparts hsight
        simp [hdir]
    rw [List.singleton_append, Store.follow_cons, if_neg h.1.noDots.1, if_neg h.1.noDots.2]
    exact ⟨hplace, h.1.short, hnext, ih h.2 hsight⟩

/-- The file at a location is read under its path text. -/
theorem read_text {store : Store} {location : Location} {bytes : Bytes}
    (h : ∀ part ∈ location.parts, ProperName part)
    (hfile : store.sight? location.parts = some (.file bytes)) :
    store.read location.text = .ok bytes := by
  obtain ⟨doubled, parts⟩ := location
  -- The root is a directory, so there is a last part, and the path text leads to a target.
  obtain rfl | ⟨place, name, rfl⟩ := parts.eq_nil_or_concat
  · cases hfile
  rw [List.concat_eq_append] at h hfile ⊢
  have hparts := partsOf_text h
  have hname : ProperName name := h name (by simp)
  have hdir : store.sight? place = some .dir :=
    sightIn_append_dir (List.cons_ne_nil name []) (by rw [← Store.sight?, hfile]; simp)
  -- No part has a null character, and a slash is none.
  have hchars : ∀ c ∈ (joinParts (place ++ [name])).toList, c ≠ '\x00' := by
    rw [joinParts, Text.joinStrings, String.toList_ofList]
    refine Text.forall_mem_join (by simp) ?_
    rw [List.forall_mem_map]
    intro part hpart c hc heq
    exact (h part hpart).noNull (heq ▸ hc)
  have htarget : store.Target (Location.text ⟨doubled, place ++ [name]⟩) place name := {
    noNull := by
      intro hnull
      rw [Location.text, String.toList_append, List.mem_append] at hnull
      obtain hnull | hnull := hnull
      · revert hnull
        cases doubled <;> simp
      · exact hchars _ hnull rfl
    nonempty := by
      rw [Location.text]
      cases doubled <;> simp
    follow := by
      rw [Store.start, if_pos (isAbsolute_text _), hparts, List.dropLast_concat]
      exact follow_names (fun part hpart => h part (List.mem_append_left _ hpart)) (by
        rw [List.nil_append, hdir]
        simp)
    dir := hdir
    last := by rw [hparts, List.getLast?_concat]
    noDots := hname.noDots
    short := hname.short
    noSlash := endsWithSlash_text doubled place hname
    free := by rw [hfile]; simp }
  exact htarget.read_eq hfile

/-! ## Suffixes -/

/-- What follows the last dot of a name is its suffix, unless only dots stand before it. -/
theorem splitSuffixAt_append (base : List Char) {ext : List Char} (h : '.' ∉ ext) :
    splitSuffixAt (base ++ '.' :: ext) =
      if base.any (· ≠ '.') then (base, '.' :: ext) else (base ++ '.' :: ext, []) := by
  have hext : ∀ c ∈ ext.reverse, decide (c ≠ '.') = true := by
    intro c hc
    rw [decide_eq_true_eq]
    exact fun heq => h (heq ▸ List.mem_reverse.1 hc)
  -- Read from the end, the extension comes up to the last dot.
  have htail : ((base ++ '.' :: ext).reverse.takeWhile (· ≠ '.')).reverse = ext := by
    rw [List.reverse_append, List.reverse_cons, List.append_assoc,
      List.takeWhile_append_of_pos hext, List.singleton_append,
      List.takeWhile_cons_of_neg (by decide), List.append_nil, List.reverse_reverse]
  have hstem : (base ++ '.' :: ext).take ((base ++ '.' :: ext).length - ext.length - 1) = base := by
    have hlength : (base ++ '.' :: ext).length - ext.length - 1 = base.length := by
      rw [List.length_append, List.length_cons]
      omega
    rw [hlength, List.take_left]
  have hlt : ext.length < (base ++ '.' :: ext).length := by
    rw [List.length_append, List.length_cons]
    omega
  rw [splitSuffixAt, htail, hstem]
  simp only [hlt, true_and]

/-- The suffix of a name that ends with one is that or none. -/
theorem suffix_append (base : String) {ext : String} (h : '.' ∉ ext.toList) :
    suffix (base ++ "." ++ ext) = Text.lowerString ("." ++ ext) ∨ suffix (base ++ "." ++ ext) = "" := by
  have htext : (base ++ "." ++ ext).toList = base.toList ++ '.' :: ext.toList := by simp
  rw [suffix, splitSuffix, htext, splitSuffixAt_append _ h]
  split_ifs
  · left
    simp [Text.lowerString]
  · right
    rfl

/-- The stem of a name has no characters but those of the name. -/
theorem splitSuffix_fst_subset (name : String) : (splitSuffix name).1.toList ⊆ name.toList := by
  rw [splitSuffix, splitSuffixAt]
  split_ifs
  · rw [String.toList_ofList]
    exact List.take_subset _ _
  · rw [String.toList_ofList]
    exact List.Subset.refl _

end ApiOutline.Files

namespace ApiOutline.Run

open Files (Store partsOf joinPaths)
open Settings (OutputFormat)

/-! ## Artifacts -/

/-- The name of the file of an artifact. -/
def artifactName (name : String) (format : OutputFormat) : String :=
  name ++ "." ++ format.extension

/-- The file of an artifact is no source and no project. -/
theorem suffix_artifactName (name : String) (format : OutputFormat) :
    Files.suffix (artifactName name format) ≠ ".cs" ∧
      Files.suffix (artifactName name format) ≠ ".csproj" := by
  have hdot : '.' ∉ format.extension.toList := by cases format <;> decide
  -- The suffix is that of the format or none.
  obtain h | h := Files.suffix_append name hdot
  · rw [artifactName, h]
    cases format <;> decide
  · rw [artifactName, h]
    decide

/-- The file of an artifact is neither `.` nor `..`. -/
theorem artifactName_ne (name : String) (format : OutputFormat) {dots : String}
    (h : dots.length ≤ 2) : artifactName name format ≠ dots := by
  intro heq
  have hlength := congrArg String.length heq
  have hext : 3 ≤ format.extension.length := by cases format <;> decide
  rw [artifactName, String.length_append, String.length_append] at hlength
  omega

/-- The file of an artifact has no slash in its name if the artifact has none. -/
theorem slash_artifactName {name : String} (h : '/' ∉ name.toList) (format : OutputFormat) :
    '/' ∉ (artifactName name format).toList := by
  rw [artifactName, String.toList_append, String.toList_append, List.mem_append, List.mem_append]
  rintro ((hname | hdot) | hext)
  · exact h hname
  · exact absurd hdot (by decide)
  · cases format <;> exact absurd hext (by decide)

variable {name other : String} (hname : '/' ∉ name.toList) (outputDir : String)
  (format : OutputFormat)

include hname

/-- The parts of the path of an artifact. -/
theorem partsOf_artifactPath :
    partsOf (artifactPath outputDir name format.extension) =
      partsOf outputDir ++ [artifactName name format] :=
  Files.partsOf_joinPaths outputDir (artifactName_ne name format (by decide))
    (slash_artifactName hname format)

/-- An artifact is in the output directory under its name. -/
theorem locate_artifactPath (store : Store) :
    (store.locate (artifactPath outputDir name format.extension)).parts =
      (store.locate outputDir).parts ++ [artifactName name format] := by
  have hstart : store.start (artifactPath outputDir name format.extension) =
      store.start outputDir := by
    have habsolute := Files.isAbsolute_joinPaths outputDir (slash_artifactName hname format)
    rw [Store.start, Store.start, artifactPath, ← artifactName, habsolute]
  rw [Store.locate_parts, Store.locate_parts, partsOf_artifactPath hname, hstart,
    List.foldl_append, List.foldl_cons, List.foldl_nil, Files.Location.step,
    if_neg (artifactName_ne name format (by decide)),
    if_neg (artifactName_ne name format (by decide))]

/-- Artifacts with different names have different paths. -/
theorem artifactPath_injective (hother : '/' ∉ other.toList)
    (h : artifactPath outputDir name format.extension =
      artifactPath outputDir other format.extension) : name = other := by
  have hparts := congrArg partsOf h
  rw [partsOf_artifactPath hname, partsOf_artifactPath hother, List.append_cancel_left_eq,
    List.singleton_inj, artifactName, artifactName] at hparts
  simpa using hparts

end ApiOutline.Run
