import ApiOutline.Proofs.JsonCharacters
import ApiOutline.Proofs.JsonRoundTrip
import ApiOutline.Proofs.PathText
import ApiOutline.Proofs.SettingLayers
import ApiOutline.Proofs.StoreWrite
import ApiOutline.Proofs.Utf8Encoding
import Mathlib.Data.List.Basic

/-!
# Saved settings are loaded back

Whatever file settings are loaded from, they come out in a normal form (`Normal`): blanks around the output
directory and around the names of the excluded directories are gone, and nothing is left that is empty. A file
with the JSON document of settings in normal form says all of them and nothing else, so loading it gives them
back, over any others and without a note. Loading is thus stable under saving and loading again.
-/

namespace ApiOutline.Traced

variable {ν ε α β : Type}

/-- After a step that succeeds without a note comes the next one. -/
theorem ok_bind (a : α) (next : α → Traced ν ε β) : ((⟨[], .ok a⟩ : Traced ν ε α) >>= next) = next a := rfl

end ApiOutline.Traced

namespace ApiOutline.Settings

open Files (Store partsOf joinParts isAbsolute isDoubled)
open Files.Store (Target)

/-! ## Shown paths -/

section Shown

variable {path part : String}

/-- The parts of a path text are not empty and have no slash. -/
theorem of_mem_partsOf (h : part ∈ partsOf path) :
    part ≠ "" ∧ '/' ∉ part.toList ∧ part.toList ⊆ path.toList := by
  obtain ⟨piece, hpiece, rfl⟩ := List.mem_map.1 h
  obtain ⟨hmem, hne⟩ := List.mem_filter.1 hpiece
  obtain ⟨hslash, hsub⟩ := Text.of_mem_splitAt hmem
  rw [String.toList_ofList]
  exact ⟨by simpa using hne, hslash, hsub⟩

/-- The parts of a path text that are shown. -/
def shownParts (path : String) : List String :=
  (partsOf path).filter (· ≠ ".")

/-- The same for the parts that are shown. -/
theorem of_mem_shownParts (h : part ∈ shownParts path) :
    part ≠ "" ∧ '/' ∉ part.toList ∧ part.toList ⊆ path.toList :=
  of_mem_partsOf (List.mem_filter.1 h).1

/-- What stands before the shown parts: the slashes that lead to the root. -/
def shownLead (path : String) : String :=
  if isDoubled path then "//" else if isAbsolute path then "/" else ""

/-- A path with parts is shown by what leads to them and the parts themselves. -/
theorem shownPath_eq (h : shownParts path ≠ []) :
    shownPath path = shownLead path ++ joinParts (shownParts path) := by
  have hparts : (shownParts path).isEmpty = false := List.isEmpty_eq_false_iff.2 h
  show (if (shownLead path).isEmpty && (shownParts path).isEmpty then "."
    else shownLead path ++ joinParts (shownParts path)) = _
  rw [hparts, Bool.and_false, if_neg Bool.false_ne_true]

/-- The slashes in front are none, one or two. -/
theorem shownLead_cases (path : String) :
    isAbsolute path = false ∧ shownLead path = "" ∨
      isAbsolute path = true ∧ (shownLead path = "/" ∨ shownLead path = "//") := by
  -- What starts with two slashes starts with one.
  have hdoubled : isDoubled path = true → isAbsolute path = true := by
    intro h
    unfold isDoubled at h
    split at h
    · cases h
    · next rest hchars => simp [isAbsolute, hchars]
    · cases h
  unfold shownLead
  cases hdouble : isDoubled path with
  | true => exact .inr ⟨hdoubled hdouble, .inr rfl⟩
  | false =>
    cases habsolute : isAbsolute path with
    | true => exact .inr ⟨rfl, .inl rfl⟩
    | false => exact .inl ⟨rfl, rfl⟩

/-- A shown path has the shown parts. -/
theorem partsOf_shownPath (h : shownParts path ≠ []) : partsOf (shownPath path) = shownParts path := by
  have hjoin : partsOf (joinParts (shownParts path)) = shownParts path :=
    Files.partsOf_joinParts fun part hpart => ⟨(of_mem_shownParts hpart).1, (of_mem_shownParts hpart).2.1⟩
  have htwo : ∀ text : String, "//" ++ text = "/" ++ ("/" ++ text) := by
    intro text
    rw [← String.append_assoc]
    rfl
  rw [shownPath_eq h]
  obtain ⟨-, hlead⟩ | ⟨-, hlead | hlead⟩ := shownLead_cases path
  · rw [hlead, String.empty_append, hjoin]
  · rw [hlead, Files.partsOf_slash, hjoin]
  · rw [hlead, htwo, Files.partsOf_slash, Files.partsOf_slash, hjoin]

/-- A shown path starts at the root if the path does. -/
theorem isAbsolute_shownPath (h : shownParts path ≠ []) : isAbsolute (shownPath path) = isAbsolute path := by
  rw [shownPath_eq h]
  obtain ⟨habsolute, hlead⟩ | ⟨habsolute, hlead | hlead⟩ := shownLead_cases path
  · rw [hlead, habsolute, String.empty_append, isAbsolute, decide_eq_false_iff_not]
    exact Files.head_joinParts fun part hpart =>
      ⟨(of_mem_shownParts hpart).1, (of_mem_shownParts hpart).2.1⟩
  · rw [hlead, habsolute, isAbsolute]
    simp
  · rw [hlead, habsolute, isAbsolute]
    simp

/-- A shown path has no other characters than the path and slashes. -/
theorem toList_shownPath_subset (h : shownParts path ≠ []) (c : Char) (hc : c ∈ (shownPath path).toList) :
    c = '/' ∨ c ∈ path.toList := by
  rw [shownPath_eq h, String.toList_append, List.mem_append] at hc
  obtain hc | hc := hc
  · obtain ⟨-, hlead⟩ | ⟨-, hlead | hlead⟩ := shownLead_cases path
    · simp [hlead] at hc
    · simp [hlead] at hc
      exact .inl hc
    · simp [hlead] at hc
      exact .inl hc
  · rw [joinParts, Text.joinStrings, String.toList_ofList] at hc
    have hslash : ∀ c ∈ "/".toList, c = '/' ∨ c ∈ path.toList := by simp
    refine Text.forall_mem_join hslash ?_ c hc
    rw [List.forall_mem_map]
    exact fun part hpart c hc => .inr ((of_mem_shownParts hpart).2.2 hc)

/-- The last part, if it is no dot, is shown. -/
theorem shownParts_eq {name : String} (hlast : (partsOf path).getLast? = some name) (hname : name ≠ ".") :
    shownParts path = (partsOf path).dropLast.filter (· ≠ ".") ++ [name] := by
  obtain ⟨front, hfront⟩ := List.getLast?_eq_some_iff.1 hlast
  rw [shownParts, hfront, List.dropLast_concat, List.filter_append]
  simp [hname]

variable {store : Store} {place found : List String} {name : String}

/-- Dots are followed to where one is. -/
theorem follow_shown {parts : List String} (h : store.follow place parts = .ok found) :
    store.follow place (parts.filter (· ≠ ".")) = .ok found := by
  induction parts generalizing place with
  | nil => exact h
  | cons part parts ih =>
    obtain ⟨hdir, h⟩ := Store.follow_cons.1 h
    -- A dot stays where one is, so it can be left out.
    by_cases hdot : part = "."
    · rw [if_pos hdot] at h
      rw [List.filter_cons_of_neg (by simpa using hdot)]
      exact ih h
    · rw [if_neg hdot] at h
      rw [List.filter_cons_of_pos (by simpa using hdot), Store.follow_cons, if_neg hdot]
      refine ⟨hdir, ?_⟩
      split_ifs at h ⊢
      · exact ih h
      · exact ⟨h.1, h.2.1, ih h.2.2⟩

/-- A path text and the path that is shown for it lead to the same target. -/
theorem target_shownPath (h : Target store path place name) : Target store (shownPath path) place name := by
  -- The last part is shown, and the way to it is that of the other parts.
  have hparts := shownParts_eq h.last h.noDots.1
  have hne : shownParts path ≠ [] := by simp [hparts]
  have hname : name ∈ shownParts path := by simp [hparts]
  have hpartsOf := partsOf_shownPath hne
  have hstart : store.start (shownPath path) = store.start path := by
    rw [Store.start, Store.start, isAbsolute_shownPath hne]
  -- The last part has characters, none of which is a slash.
  obtain ⟨before, hbefore⟩ : ∃ before, (shownPath path).toList = before ++ name.toList := by
    obtain ⟨before, hbefore⟩ := Text.exists_join_concat "/".toList
      (((partsOf path).dropLast.filter (· ≠ ".")).map String.toList) name.toList
    refine ⟨(shownLead path).toList ++ before, ?_⟩
    rw [shownPath_eq hne, String.toList_append, joinParts, Text.joinStrings, String.toList_ofList, hparts,
      List.map_append, List.map_singleton, hbefore, List.append_assoc]
  have hchars : name.toList ≠ [] := by simpa using (of_mem_shownParts hname).1
  exact {
    noNull := fun hnull => (toList_shownPath_subset hne _ hnull).elim (by decide) h.noNull
    nonempty := by
      rw [← Bool.not_eq_true, String.isEmpty_iff, ← String.toList_inj, hbefore]
      simp [hchars]
    follow := by
      rw [hstart, hpartsOf, hparts, List.dropLast_concat]
      exact follow_shown h.follow
    dir := h.dir
    last := by rw [hpartsOf, hparts, List.getLast?_concat]
    noDots := h.noDots
    short := h.short
    noSlash := by
      rw [Store.endsWithSlash, hbefore, List.getLast?_append_of_ne_nil _ hchars, decide_eq_false_iff_not]
      exact fun hlast => (of_mem_shownParts hname).2.1 (List.mem_of_getLast? hlast)
    free := h.free }

/-- A shown path has the suffix of the path. -/
theorem isJsonPath_shownPath (h : Target store path place name) :
    isJsonPath (shownPath path) = isJsonPath path := by
  rw [isJsonPath, isJsonPath, (target_shownPath h).last, h.last]

end Shown

/-! ## The normal form of settings -/

open Data (Value)

/-- Whether a text has no blanks around it and is not empty. -/
def IsTrimmed (text : String) : Prop :=
  Text.trim text.toList = text.toList ∧ text ≠ ""

/-- Whether settings are in the form in which they are loaded. -/
structure Normal (settings : Settings) : Prop where
  outputDir : IsTrimmed settings.outputDir
  excludeDirs : ∀ name ∈ settings.excludeDirs, IsTrimmed name

section Normal

variable {entries : List (Value × Value)} {base settings : Settings}

/-- What is left after trimming is trimmed. -/
theorem isTrimmed_trim {cs : List Char} (h : Text.trim cs ≠ []) : IsTrimmed (String.ofList (Text.trim cs)) := by
  rw [IsTrimmed, String.toList_ofList, Text.trim_trim, ← String.toList_inj.ne, String.toList_ofList]
  exact ⟨rfl, by simpa using h⟩

/-- An output directory is taken without the blanks around it. -/
theorem isTrimmed_of_outputDirIn {dir : String} (h : outputDirIn entries base = .ok dir) : IsTrimmed dir := by
  unfold outputDirIn at h
  dsimp only at h
  -- The directory is taken from the file or from the settings below it, and trimmed either way.
  split at h <;>
  · obtain ⟨shown, -, h⟩ := Outcome.bind_eq_ok.1 h
    split at h
    · cases h
    · next hne =>
      cases h
      exact isTrimmed_trim hne

/-- Names are taken without the blanks around them. -/
theorem isTrimmed_of_mem_trimmedNames {excluded : List String} {name : String}
    (h : name ∈ trimmedNames excluded) : IsTrimmed name := by
  rw [trimmedNames_eq, List.mem_filter] at h
  obtain ⟨hmem, hname⟩ := h
  obtain ⟨text, -, rfl⟩ := List.mem_map.1 hmem
  refine isTrimmed_trim ?_
  simpa [Text.trimString] using hname

/-- Trimmed names are taken as they are. -/
theorem trimmedNames_of_isTrimmed {excluded : List String} (h : ∀ name ∈ excluded, IsTrimmed name) :
    trimmedNames excluded = excluded := by
  have hmap : excluded.map Text.trimString = excluded := by
    refine (List.map_congr_left fun name hname => ?_).trans excluded.map_id
    rw [Text.trimString, (h name hname).1, String.ofList_toList, id]
  rw [trimmedNames_eq, hmap, List.filter_eq_self]
  intro name hname
  simpa using (h name hname).2

/-- Excluded directories are taken without the blanks around their names. -/
theorem isTrimmed_of_excludeDirsIn {excluded : List String} (h : excludeDirsIn entries base = .ok excluded) :
    ∀ name ∈ excluded, IsTrimmed name := by
  unfold excludeDirsIn at h
  split at h
  · cases h
    exact fun name => isTrimmed_of_mem_trimmedNames
  · split at h
    · cases h
      exact fun name => isTrimmed_of_mem_trimmedNames
    · cases h

/-- What the entries of a file say is taken in normal form. -/
theorem normal_of_ofEntries (h : ofEntries entries base = .ok settings) : settings.Normal := by
  obtain ⟨hdir, hexcluded, -, -⟩ := ofEntries_eq_ok_iff.1 h
  exact ⟨isTrimmed_of_outputDirIn hdir, isTrimmed_of_excludeDirsIn hexcluded⟩

/-- Settings are loaded in normal form. -/
theorem normal_of_load {readYaml : YamlReader} {store : Store} {path : String}
    (h : (load readYaml store path base).outcome = .ok settings) :
    settings.Normal := by
  rw [outcome_load, Outcome.except_bind_eq_ok] at h
  obtain ⟨entries, -, h⟩ := h
  obtain ⟨-, -, h⟩ := Outcome.except_bind_eq_ok.1 h
  exact normal_of_ofEntries h

end Normal

/-! ## Loading the document -/

section Document

variable {settings base : Settings} {readYaml : YamlReader} {store : Store} {path : String}

/-- The entries of the document of settings. -/
def documentEntries (settings : Settings) : List (Value × Value) :=
  [(.str "output_format", .str settings.outputFormat.name), (.str "output_dir", .str settings.outputDir),
    (.str "exclude_dirs", .list (settings.excludeDirs.map .str)),
    (.str "strict_syntax", .bool settings.strictSyntax),
    (.str "contextual_visibility", .bool settings.contextualVisibility)]

/-- The texts of a document are texts as values. -/
theorem ofItems_texts (texts : List String) : Value.ofItems (texts.map .str) = texts.map .str := by
  induction texts with
  | nil => rfl
  | cons text texts ih => rw [List.map_cons, Value.ofItems, ih, List.map_cons, Value.ofJson]

/-- The document of settings has these entries. -/
theorem ofJson_document (settings : Settings) :
    Value.ofJson settings.document = .map settings.documentEntries := by
  rw [document, documentEntries, ← ofItems_texts]
  rfl

/-- Values that are texts are read as these texts. -/
theorem textsOf?_texts (texts : List String) : textsOf? (texts.map .str) = some texts := by
  induction texts with
  | nil => rfl
  | cons text texts ih => rw [List.map_cons, textsOf?, ih, Option.map_some]

/-- All names in the document are known. -/
theorem reportUnknown_document (settings : Settings) : reportUnknown settings.documentEntries = pure () := by
  have hknown : unknownNames? settings.documentEntries = some [] := rfl
  rw [reportUnknown, hknown]

/-- The document of settings in normal form says all of them, over any others. -/
theorem ofEntries_document (h : settings.Normal) (base : Settings) :
    ofEntries settings.documentEntries base = .ok settings := by
  rw [ofEntries_eq_ok_iff]
  refine ⟨?_, ?_, ?_, ?_⟩
  · -- The output directory is trimmed already, so it comes back.
    have hentry : Value.entry? "output_dir" settings.documentEntries = some (.str settings.outputDir) := rfl
    have hne : Text.trim settings.outputDir.toList ≠ [] := by simpa [h.outputDir.1] using h.outputDir.2
    obtain ⟨c, cs, hcons⟩ := List.exists_cons_of_ne_nil hne
    have hdir : String.ofList (c :: cs) = settings.outputDir := by
      rw [← hcons, h.outputDir.1, String.ofList_toList]
    have hshown : shownText (.str settings.outputDir) = .ok settings.outputDir.toList := rfl
    unfold outputDirIn
    simp only [hentry, hshown, bind, Except.bind, hcons, hdir]
    rfl
  · -- So are the names of the excluded directories.
    have hentry : Value.entry? "exclude_dirs" settings.documentEntries =
        some (.list (settings.excludeDirs.map .str)) := rfl
    have hnames : dirNames? (.list (settings.excludeDirs.map .str)) = some settings.excludeDirs :=
      textsOf?_texts _
    rw [excludeDirsIn, hentry]
    simp only [hnames, trimmedNames_of_isTrimmed h.excludeDirs]
  · -- A format is found by its name.
    have hentry : Value.entry? "output_format" settings.documentEntries =
        some (.str settings.outputFormat.name) := rfl
    have hformat : ∀ format : OutputFormat, OutputFormat.ofValue (.str format.name) = .ok format := by
      intro format
      cases format <;> rfl
    rw [outputFormatIn, hentry]
    simp only [hformat]
    rfl
  · intro flag
    cases flag <;> rfl

/-- A file with the document of settings in normal form is loaded as these settings, and nothing is noted. -/
theorem load_of_document (h : settings.Normal) {text : List Char}
    (hpath : isJsonPath (shownPath path) = true) (htext : HasText store (shownPath path) text)
    (hparse : Json.parse text = .ok settings.document) (base : Settings) :
    load readYaml store path base = ⟨[], .ok settings⟩ := by
  have hvalue : fileValue readYaml (shownPath path) text = .ok (.map settings.documentEntries) := by
    rw [fileValue, if_pos hpath, hparse, ← ofJson_document]
  have htextOk : (Traced.lift (fileText store (shownPath path)) : Loading _) = ⟨[], .ok text⟩ := by
    rw [fileText_eq_ok_iff.2 htext, Traced.lift]
  have hentries : fileEntries readYaml store (shownPath path) = ⟨[], .ok settings.documentEntries⟩ := by
    rw [fileEntries, htextOk, Traced.ok_bind, hvalue, Traced.lift, Traced.ok_bind]
    rfl
  rw [load, hentries, Traced.ok_bind, reportUnknown_document, ofEntries_document h]
  rfl

/-! ## Saved texts -/

/-- Whether a text is a JSON text of settings, with no line ends but line feeds. -/
structure IsSaved (settings : Settings) (content : String) : Prop where
  noReturn : '\r' ∉ content.toList
  parses : Json.parseString content = .ok settings.document

/-- The document has different keys and no floating-point numbers. -/
theorem plain_document (settings : Settings) : settings.document.Plain := by
  have hkeys : names.Nodup := by decide
  exact ⟨hkeys, trivial, trivial, Json.plainItems_texts _, trivial, trivial, trivial⟩

/-- The document has no number at all. -/
theorem oversized?_document (settings : Settings) : settings.document.oversized? = none := by
  have hitems : Json.oversizedItem? (settings.excludeDirs.map .str) = none := by
    rw [Json.oversizedItem?_eq_none, List.forall_mem_map]
    exact fun _ _ => rfl
  have hdocument : settings.document.oversized? =
      (none.or (none.or ((Json.oversizedItem? (settings.excludeDirs.map .str)).or (none.or (none.or none))))) := rfl
  rw [hdocument, hitems]
  rfl

/-- Every style writes a JSON text of the settings. -/
theorem isSaved_write (settings : Settings) (style : Json.Style) :
    settings.IsSaved (settings.document.write style) where
  noReturn hmem := by
    rw [Json.write, String.toList_ofList] at hmem
    exact (Json.writtenText_writeAt style 0 settings.document _ hmem).ne_return rfl
  parses := by
    have hparse := Json.parse_writeAt style settings.plain_document (List.forall_mem_nil _)
    rw [List.append_nil, oversized?_document] at hparse
    rw [Json.parseString, Json.write, String.toList_ofList, hparse]
    rfl

/-- A saved text is read from its bytes as it is. -/
theorem IsSaved.hasText {content : String} (h : settings.IsSaved content)
    (hbytes : HasBytes store path (Text.Utf8.ofString content)) : HasText store path content.toList := by
  refine ⟨_, _, hbytes, Text.Utf8.decode_encode _, ?_⟩
  have hplain := Text.plainLines_append_of_not_mem h.noReturn []
  rwa [List.append_nil, Text.plainLines, List.append_nil, eq_comm] at hplain

/-- What can be read is a file. -/
theorem hasBytes_of_read {bytes : Text.Bytes} (h : store.read path = .ok bytes) : HasBytes store path bytes := by
  refine ⟨?_, h⟩
  unfold Store.read at h
  obtain ⟨place, hplace, h⟩ := Outcome.bind_eq_ok.1 h
  cases hfind : store.find? place with
  | none => simp [hfind, throw, throwThe, MonadExceptOf.throw] at h
  | some entry =>
    cases entry with
    | dir inner => simp [hfind, throw, throwThe, MonadExceptOf.throw] at h
    | file content =>
      rw [isFile, hplace]
      simp [hfind, Files.Entry.isFile]

/-- Loaded settings are stable under saving. Every style writes a JSON text of them, and a file with such a text
at a path with the suffix of JSON is loaded as the same settings, over any others and without a note. So is
what a write to such a path leaves. -/
theorem load_saved_settings (h : (load readYaml store path base).outcome = .ok settings) :
    (∀ style, settings.IsSaved (settings.document.write style)) ∧
    ∀ content, settings.IsSaved content → ∀ saved target others,
      (isJsonPath (shownPath target) = true →
        HasBytes saved (shownPath target) (Text.Utf8.ofString content) →
        load readYaml saved target others = ⟨[], .ok settings⟩) ∧
      ∀ faults answer, isJsonPath target = true →
        (saved.writeText faults target content).1 = .ok answer →
        load readYaml (saved.writeText faults target content).2 target others = ⟨[], .ok settings⟩ := by
  have hnormal := normal_of_load h
  refine ⟨isSaved_write settings, fun content hsaved saved target others => ?_⟩
  have hload : ∀ saved, isJsonPath (shownPath target) = true →
      HasBytes saved (shownPath target) (Text.Utf8.ofString content) →
      load readYaml saved target others = ⟨[], .ok settings⟩ :=
    fun saved hpath hbytes => load_of_document hnormal hpath (hsaved.hasText hbytes) hsaved.parses others
  refine ⟨hload saved, fun faults answer hpath hwrite => ?_⟩
  -- What was written is read under the path that is shown for the target.
  obtain ⟨-, place, name, htarget, hfile⟩ := Store.exists_target_of_writeText hwrite
  refine hload _ ?_ (hasBytes_of_read ((target_shownPath htarget).read_eq hfile))
  rw [isJsonPath_shownPath htarget, hpath]

end Document

open Command (settingsStore)

/-- Settings with blanks in their file are loaded without them, saved under a path with a dot and a suffix in
capitals, and loaded back over other settings. -/
theorem blanks_saved_once :
    let store := settingsStore "c.json" "\x7b\"output_dir\": \" out\", \"exclude_dirs\": [\"a \", \" \"]\x7d"
    let settings : Settings := { outputDir := "out", excludeDirs := ["a"] }
    let content := settings.document.write ⟨true, true⟩
    (load Yaml.read store "c.json" {}).outcome = .ok settings ∧
    (store.writeText (fun _ => none) "./s.JSON" content).1 = .ok "./s.JSON" ∧
    load Yaml.read (store.writeText (fun _ => none) "./s.JSON" content).2 "./s.JSON" { outputDir := "x" } =
      ⟨[], .ok settings⟩ := by
  intro store settings content
  have hload : (load Yaml.read store "c.json" {}).outcome = .ok settings :=
    Command.eq_ok_of_toOption (by decide +kernel)
  have hwrite : (store.writeText (fun _ => none) "./s.JSON" content).1 = .ok "./s.JSON" :=
    Command.eq_ok_of_toOption (by decide +kernel)
  obtain ⟨hstyles, hsaved⟩ := load_saved_settings hload
  exact ⟨hload, hwrite, (hsaved content (hstyles _) store "./s.JSON" _).2 _ _ (by decide +kernel) hwrite⟩

end ApiOutline.Settings
