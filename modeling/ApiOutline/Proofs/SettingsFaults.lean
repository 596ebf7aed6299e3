import ApiOutline.Command.Line
import ApiOutline.Proofs.Discovered
import ApiOutline.Proofs.JsonNumbers
import ApiOutline.Yaml.Meaning

/-!
# Which settings files are reported

A settings file is accepted, or it is refused with a fault that the command reports. `Escapes` lists the
files that are neither. Loading goes through decoding, parsing, the names and the values in this order,
and a fault that is no refusal arises from exactly one of them: `load_eq_error_iff`. What the command
does then follows from what loading gives.
-/

namespace ApiOutline.Settings

open Data (Value)
open Files (Store StoreFault)
open Text (Bytes)

/-- Whether a fault is a refusal. -/
def LoadFault.isRefused : LoadFault → Bool
  | .refused _ => true
  | _ => false

/-- Whether there is a file at a path that has the given bytes. -/
def HasBytes (store : Store) (path : String) (bytes : Bytes) : Prop :=
  isFile store path = .ok true ∧ store.read path = .ok bytes

/-- Whether there is a file at a path that holds the given text. -/
def HasText (store : Store) (path : String) (text : List Char) : Prop :=
  ∃ bytes cs, HasBytes store path bytes ∧ Text.Utf8.decode bytes = .ok cs ∧
    text = Text.plainLines cs

/-- Whether there is a file at a path that holds a mapping with the given entries. -/
def HasEntries (readYaml : YamlReader) (store : Store) (path : String)
    (entries : List (Value × Value)) : Prop :=
  ∃ text, HasText store path text ∧ fileValue readYaml path text = .ok (.map entries)

/-- Whether every key of a mapping is a text. -/
def Named (entries : List (Value × Value)) : Prop :=
  ∀ entry ∈ entries, ∃ name, entry.1 = .str name

/-- The settings files that are neither accepted nor refused, with the fault that loading ends in. -/
inductive Escapes (readYaml : YamlReader) (store : Store) (path : String) (base : Settings) :
    LoadFault → Prop where
  /-- The path has a name that is too long. -/
  | path {fault : StoreFault} (h : isFile store path = .error fault) :
    Escapes readYaml store path base (.unreadable fault)
  /-- The bytes are not those of a text. -/
  | bytes {bytes : Bytes} {fault : Text.Utf8.Fault} (hbytes : HasBytes store path bytes)
    (h : Text.Utf8.decode bytes = .error fault) : Escapes readYaml store path base (.notUtf8 fault)
  /-- JSON is well-formed and has an integer with too many digits. -/
  | json {text : List Char} {fault : Number.TooManyDigits} (htext : HasText store path text)
    (hjson : isJsonPath path = true) (h : Json.parse text = .error (.tooManyDigits fault)) :
    Escapes readYaml store path base (.tooManyDigits fault)
  /-- YAML is well-formed and has a value that is none. -/
  | yaml {text : List Char} {fault : Yaml.Fault} (htext : HasText store path text)
    (hyaml : isJsonPath path = false) (h : readYaml text = .error fault)
    (hvalue : fault ≠ .malformed) : Escapes readYaml store path base (.yaml fault)
  /-- A key is not a text. -/
  | key {entries : List (Value × Value)} (hentries : HasEntries readYaml store path entries)
    (h : ¬ Named entries) : Escapes readYaml store path base .unknownName
  /-- The output directory has an integer that is not written. -/
  | outputDir {entries : List (Value × Value)} {value : Value}
    (hentries : HasEntries readYaml store path entries) (hnamed : Named entries)
    (hvalue : Value.entry? "output_dir" entries = some value) (h : value.isWritable = false) :
    Escapes readYaml store path base .unwritable
  /-- The directories are as they should be, and the format has an integer that is not written. -/
  | outputFormat {entries : List (Value × Value)} {value : Value} {dir : String}
    {excluded : List String} (hentries : HasEntries readYaml store path entries) (hnamed : Named entries)
    (hdir : outputDirIn entries base = .ok dir) (hexcluded : excludeDirsIn entries base = .ok excluded)
    (hvalue : Value.entry? "output_format" entries = some value) (h : value.isWritable = false) :
    Escapes readYaml store path base .unwritable

variable {readYaml : YamlReader} {store : Store} {path : String} {base : Settings}
  {entries : List (Value × Value)} {fault : LoadFault}

/-! ## The text of a file -/

/-- What is a file can be read. -/
theorem exists_hasBytes (h : isFile store path = .ok true) : ∃ bytes, HasBytes store path bytes := by
  have hread : ∃ bytes, store.read path = .ok bytes := by
    unfold isFile at h
    unfold Store.read
    -- What is a file leads to a place, and there to bytes.
    cases hplace : store.resolve path with
    | error cause =>
      rw [hplace] at h
      cases cause <;> cases h
    | ok place =>
      rw [hplace] at h
      simp only [Except.ok.injEq, Option.any_eq_true] at h
      obtain ⟨entry, hentry, hfile⟩ := h
      cases entry with
      | file content =>
        refine ⟨content, ?_⟩
        simp only [bind, Except.bind, hentry]
        rfl
      | dir inner => cases hfile
  obtain ⟨bytes, hbytes⟩ := hread
  exact ⟨bytes, h, hbytes⟩

/-- The text of a file is found if there is one. -/
theorem fileText_eq_ok_iff {text : List Char} :
    fileText store path = .ok text ↔ HasText store path text := by
  unfold fileText
  simp only [Outcome.bind_eq_ok, Outcome.mapError_eq_ok, Outcome.unless_eq_ok, Outcome.pure_eq_ok,
    HasText, HasBytes]
  constructor
  · rintro ⟨found, hfound, htrue, bytes, hbytes, cs, hcs, htext⟩
    cases found with
    | false => exact absurd rfl htrue
    | true => exact ⟨bytes, cs, ⟨hfound, hbytes⟩, hcs, htext⟩
  · rintro ⟨bytes, cs, ⟨hfound, hbytes⟩, hcs, htext⟩
    exact ⟨true, hfound, Bool.false_ne_true, bytes, hbytes, cs, hcs, htext⟩

/-- Reading escapes by the path or by the bytes. -/
theorem escapes_of_fileText (hfault : fault.isRefused = false)
    (h : fileText store path = .error fault) : Escapes readYaml store path base fault := by
  unfold fileText at h
  simp only [Outcome.bind_eq_error, Outcome.mapError_eq_error, Outcome.mapError_eq_ok,
    Outcome.unless_eq_error] at h
  obtain ⟨cause, hcause, rfl⟩ | ⟨found, hfound, ⟨-, rfl⟩ | ⟨htrue, h⟩⟩ := h
  · exact .path hcause
  · cases hfault
  · -- There is a file, so its bytes can be read and only decoding is left to fail.
    have hfile : isFile store path = .ok true := by
      cases found with
      | false => exact absurd rfl htrue
      | true => exact hfound
    obtain ⟨bytes, hbytes⟩ := exists_hasBytes hfile
    rw [hbytes.2] at h
    obtain ⟨cause, hcause, -⟩ | ⟨read, hread, ⟨cause, hcause, rfl⟩ | ⟨cs, -, h⟩⟩ := h
    · cases hcause
    · cases hread
      exact .bytes hbytes hcause
    · cases h

/-! ## The entries of a file -/

/-- Parsing escapes by an integer of JSON or by a value of YAML. -/
theorem escapes_of_fileValue {text : List Char} (hfault : fault.isRefused = false)
    (htext : HasText store path text) (h : fileValue readYaml path text = .error fault) :
    Escapes readYaml store path base fault := by
  unfold fileValue at h
  split_ifs at h with hjson
  · split at h
    · cases h
    · cases h
      cases hfault
    · next cause hcause =>
      cases h
      exact .json htext hjson hcause
  · split at h
    · cases h
    · cases h
      cases hfault
    · next cause hmalformed hcause =>
      cases h
      exact .yaml htext (Bool.not_eq_true _ ▸ hjson) hcause hmalformed

/-- A file has no entries if it is empty, and those of its mapping otherwise. -/
theorem fileEntries_eq_ok_iff :
    (fileEntries readYaml store path).outcome = .ok entries ↔
      (entries = [] ∧ ∃ text, HasText store path text ∧ fileValue readYaml path text = .ok .null) ∨
        HasEntries readYaml store path entries := by
  unfold fileEntries
  simp only [Traced.outcome_bind, Traced.outcome_lift, Outcome.except_bind_eq_ok, fileText_eq_ok_iff]
  constructor
  · rintro ⟨text, htext, value, hvalue, h⟩
    cases value with
    | null =>
      cases h
      exact .inl ⟨rfl, text, htext, hvalue⟩
    | map found =>
      cases h
      exact .inr ⟨text, htext, hvalue⟩
    | _ => cases h
  · rintro (⟨rfl, text, htext, hvalue⟩ | ⟨text, htext, hvalue⟩)
    · exact ⟨text, htext, .null, hvalue, rfl⟩
    · exact ⟨text, htext, .map entries, hvalue, rfl⟩

/-- Entries are not found only if reading or parsing fails, or if the value is no mapping. -/
theorem escapes_of_fileEntries (hfault : fault.isRefused = false)
    (h : (fileEntries readYaml store path).outcome = .error fault) : Escapes readYaml store path base fault := by
  unfold fileEntries at h
  simp only [Traced.outcome_bind, Traced.outcome_lift] at h
  obtain h | ⟨text, htext, h⟩ := Outcome.bind_eq_error.1 h
  · exact escapes_of_fileText hfault h
  · rw [fileText_eq_ok_iff] at htext
    obtain h | ⟨value, -, h⟩ := Outcome.bind_eq_error.1 h
    · exact escapes_of_fileValue hfault htext h
    · -- A value that is neither null nor a mapping is refused.
      cases value with
      | null => cases h
      | map found => cases h
      | _ =>
        cases h
        cases hfault

/-- Names are compared only if all of them are texts. -/
theorem unknownNames?_eq_none_iff : unknownNames? entries = none ↔ ¬ Named entries := by
  induction entries with
  | nil => simp [unknownNames?, Named]
  | cons entry entries ih =>
    obtain ⟨key, value⟩ := entry
    have hcons : Named ((key, value) :: entries) ↔ (∃ name, key = .str name) ∧ Named entries :=
      List.forall_mem_cons
    rw [hcons, not_and_or, ← ih]
    cases key with
    | str name => simp [unknownNames?]
    | _ => simp [unknownNames?]

/-- Unknown names are reported if all of them are texts, and otherwise loading fails. -/
theorem outcome_reportUnknown (entries : List (Value × Value)) :
    (Named entries → (reportUnknown entries).outcome = .ok ()) ∧
      (¬ Named entries → (reportUnknown entries).outcome = .error .unknownName) := by
  rw [← unknownNames?_eq_none_iff, ← not_not (a := Named entries), ← unknownNames?_eq_none_iff]
  unfold reportUnknown
  constructor
  · intro hnamed
    split
    · next hnone => exact absurd hnone hnamed
    · rfl
    · rfl
  · intro hnone
    rw [hnone]
    rfl

/-! ## The values of a file -/

/-- A value is shown if all its integers are written. -/
theorem shownText_eq_error_iff {value : Value} :
    shownText value = .error fault ↔ value.isWritable = false ∧ fault = .unwritable := by
  unfold shownText
  cases value.isWritable with
  | true => simp
  | false => simp [eq_comm]

/-- The output directory escapes only by an integer that is not written. -/
theorem outputDirIn_eq_error_iff (hfault : fault.isRefused = false) :
    outputDirIn entries base = .error fault ↔ fault = .unwritable ∧
      ∃ value, Value.entry? "output_dir" entries = some value ∧ value.isWritable = false := by
  unfold outputDirIn
  cases hentry : Value.entry? "output_dir" entries with
  | none =>
    simp only [Outcome.bind_eq_error]
    constructor
    · rintro (h | ⟨shown, -, h⟩)
      · cases h
      · -- A path of nothing but blanks is refused.
        split at h
        · cases h
          cases hfault
        · cases h
    · rintro ⟨-, value, h, -⟩
      cases h
  | some value =>
    simp only [Outcome.bind_eq_error, shownText_eq_error_iff]
    constructor
    · rintro (⟨hlong, rfl⟩ | ⟨shown, -, h⟩)
      · exact ⟨rfl, value, rfl, hlong⟩
      · split at h
        · cases h
          cases hfault
        · cases h
    · rintro ⟨rfl, found, hfound, hlong⟩
      cases hfound
      exact .inl ⟨hlong, rfl⟩

/-- The format escapes only by an integer that is not written. -/
theorem outputFormatIn_eq_error_iff (hfault : fault.isRefused = false) :
    outputFormatIn entries base = .error fault ↔ fault = .unwritable ∧
      ∃ value, Value.entry? "output_format" entries = some value ∧ value.isWritable = false := by
  unfold outputFormatIn
  cases hentry : Value.entry? "output_format" entries with
  | none => simp
  | some value =>
    simp only [Outcome.bind_eq_error, Outcome.mapError_eq_error, shownText_eq_error_iff]
    constructor
    · rintro (⟨hlong, rfl⟩ | ⟨shown, -, cause, -, rfl⟩)
      · exact ⟨rfl, value, rfl, hlong⟩
      · cases hfault
    · rintro ⟨rfl, found, hfound, hlong⟩
      cases hfound
      exact .inl ⟨hlong, rfl⟩

/-- A check that only refuses does not end in any other fault. -/
theorem mapError_refused_ne {α : Type} {x : Except SettingsFault α} (hfault : fault.isRefused = false) :
    x.mapError .refused ≠ .error fault := by
  intro h
  obtain ⟨cause, -, rfl⟩ := Outcome.mapError_eq_error.1 h
  cases hfault

/-- Checking the values escapes by the output directory or, if the directories are as they should be,
by the format. -/
theorem ofEntries_eq_error_iff (hfault : fault.isRefused = false) :
    ofEntries entries base = .error fault ↔ outputDirIn entries base = .error fault ∨
      ∃ dir excluded, outputDirIn entries base = .ok dir ∧
        excludeDirsIn entries base = .ok excluded ∧ outputFormatIn entries base = .error fault := by
  unfold ofEntries
  simp only [Outcome.bind_eq_error, Outcome.mapError_eq_ok, mapError_refused_ne hfault, false_or]
  constructor
  · -- The directories that are excluded and the flags are refused or taken.
    rintro (h | ⟨dir, hdir, excluded, hexcluded, h | ⟨_, _, _, _, _, _, h⟩⟩)
    · exact .inl h
    · exact .inr ⟨dir, excluded, hdir, hexcluded, h⟩
    · cases h
  · rintro (h | ⟨dir, excluded, hdir, hexcluded, h⟩)
    · exact .inl h
    · exact .inr ⟨dir, hdir, excluded, hexcluded, .inl h⟩

/-! ## Loading -/

/-- Loading is reading the entries, looking at their names and taking their values. -/
theorem outcome_load (readYaml : YamlReader) (store : Store) (path : String) (base : Settings) :
    (load readYaml store path base).outcome =
      (fileEntries readYaml store (shownPath path)).outcome.bind fun entries =>
        (reportUnknown entries).outcome.bind fun _ => ofEntries entries base := by
  simp only [load, Traced.outcome_bind, Traced.outcome_lift]

/-- No entries escape nothing. -/
theorem ofEntries_nil_ne (hfault : fault.isRefused = false) : ofEntries [] base ≠ .error fault := by
  intro h
  rw [ofEntries_eq_error_iff hfault, outputDirIn_eq_error_iff hfault,
    outputFormatIn_eq_error_iff hfault] at h
  obtain ⟨-, value, hvalue, -⟩ | ⟨_, _, -, -, -, value, hvalue, -⟩ := h
  · cases hvalue
  · cases hvalue

/-- The entries of a mapping escape by a key or by a value. -/
theorem escapes_of_hasEntries (hfault : fault.isRefused = false)
    (hentries : HasEntries readYaml store path entries)
    (h : ((reportUnknown entries).outcome.bind fun _ => ofEntries entries base) = .error fault) :
    Escapes readYaml store path base fault := by
  by_cases hnamed : Named entries
  · -- All names can be compared, so it is a value that is not taken.
    rw [(outcome_reportUnknown entries).1 hnamed] at h
    obtain hdir | ⟨dir, excluded, hdir, hexcluded, hformat⟩ := (ofEntries_eq_error_iff hfault).1 h
    · obtain ⟨rfl, value, hvalue, hlong⟩ := (outputDirIn_eq_error_iff hfault).1 hdir
      exact .outputDir hentries hnamed hvalue hlong
    · obtain ⟨rfl, value, hvalue, hlong⟩ := (outputFormatIn_eq_error_iff hfault).1 hformat
      exact .outputFormat hentries hnamed hdir hexcluded hvalue hlong
  · rw [(outcome_reportUnknown entries).2 hnamed] at h
    cases h
    exact .key hentries hnamed

/-- A file that escapes at its values is loaded up to there. -/
theorem load_of_hasEntries (hentries : HasEntries readYaml store (shownPath path) entries)
    (hnamed : Named entries) : (load readYaml store path base).outcome = ofEntries entries base := by
  rw [outcome_load, fileEntries_eq_ok_iff.2 (.inr hentries)]
  simp only [Except.bind, (outcome_reportUnknown entries).1 hnamed]

/-- A text that is not parsed ends loading. -/
theorem load_of_hasText {text : List Char} (htext : HasText store (shownPath path) text)
    (h : fileValue readYaml (shownPath path) text = .error fault) :
    (load readYaml store path base).outcome = .error fault := by
  have hentries : (fileEntries readYaml store (shownPath path)).outcome = .error fault := by
    unfold fileEntries
    simp only [Traced.outcome_bind, Traced.outcome_lift, fileText_eq_ok_iff.2 htext, Except.bind, h]
  rw [outcome_load, hentries]
  rfl

/-- A text that is not found ends loading. -/
theorem load_of_fileText (h : fileText store (shownPath path) = .error fault) :
    (load readYaml store path base).outcome = .error fault := by
  have hentries : (fileEntries readYaml store (shownPath path)).outcome = .error fault := by
    unfold fileEntries
    simp only [Traced.outcome_bind, Traced.outcome_lift, h, Except.bind]
  rw [outcome_load, hentries]
  rfl

/-- A file that escapes is loaded with its fault, which is no refusal. -/
theorem load_of_escapes (h : Escapes readYaml store (shownPath path) base fault) :
    (load readYaml store path base).outcome = .error fault ∧ fault.isRefused = false := by
  cases h with
  | path hpath =>
    refine ⟨load_of_fileText ?_, rfl⟩
    simp only [fileText, hpath, Except.mapError, bind, Except.bind]
  | bytes hbytes hdecode =>
    refine ⟨load_of_fileText ?_, rfl⟩
    obtain ⟨hfile, hread⟩ := hbytes
    simp only [fileText, hfile, hread, hdecode, Except.mapError, bind, Except.bind]
    rfl
  | json htext hjson hparse =>
    refine ⟨load_of_hasText htext ?_, rfl⟩
    rw [fileValue, if_pos hjson, hparse]
  | @yaml text cause htext hyaml hread hvalue =>
    refine ⟨load_of_hasText htext ?_, rfl⟩
    rw [fileValue, hyaml, if_neg Bool.false_ne_true, hread]
    cases cause with
    | malformed => exact absurd rfl hvalue
    | _ => rfl
  | @key entries hentries hnamed =>
    refine ⟨?_, rfl⟩
    rw [outcome_load, fileEntries_eq_ok_iff.2 (.inr hentries)]
    simp only [Except.bind, (outcome_reportUnknown entries).2 hnamed]
  | outputDir hentries hnamed hvalue hlong =>
    have hdir : outputDirIn _ base = .error .unwritable :=
      (outputDirIn_eq_error_iff rfl).2 ⟨rfl, _, hvalue, hlong⟩
    refine ⟨?_, rfl⟩
    rw [load_of_hasEntries hentries hnamed]
    exact (ofEntries_eq_error_iff rfl).2 (.inl hdir)
  | outputFormat hentries hnamed hdir hexcluded hvalue hlong =>
    have hformat : outputFormatIn _ base = .error .unwritable :=
      (outputFormatIn_eq_error_iff rfl).2 ⟨rfl, _, hvalue, hlong⟩
    refine ⟨?_, rfl⟩
    rw [load_of_hasEntries hentries hnamed]
    exact (ofEntries_eq_error_iff rfl).2 (.inr ⟨_, _, hdir, hexcluded, hformat⟩)

/-- Loading ends in a fault that is no refusal exactly for the files that escape with it. -/
theorem load_eq_error_iff (hfault : fault.isRefused = false) :
    (load readYaml store path base).outcome = .error fault ↔ Escapes readYaml store (shownPath path) base fault := by
  refine ⟨fun h => ?_, fun h => (load_of_escapes h).1⟩
  rw [outcome_load] at h
  obtain h | ⟨entries, hentries, h⟩ := Outcome.bind_eq_error.1 h
  · exact escapes_of_fileEntries hfault h
  · -- Either the file is empty or it holds a mapping.
    obtain ⟨rfl, -⟩ | hentries := fileEntries_eq_ok_iff.1 hentries
    · exact absurd h (ofEntries_nil_ne hfault)
    · exact escapes_of_hasEntries hfault hentries h

/-- A settings file is accepted or refused if it does not escape. -/
theorem accepted_or_refused_iff :
    ((∃ settings, (load readYaml store path base).outcome = .ok settings) ∨
        ∃ cause, (load readYaml store path base).outcome = .error (.refused cause)) ↔
      ∀ fault, ¬ Escapes readYaml store (shownPath path) base fault := by
  constructor
  · rintro (⟨settings, hload⟩ | ⟨cause, hload⟩) fault h
    · rw [(load_of_escapes h).1] at hload
      cases hload
    · obtain ⟨hfault, hrefused⟩ := load_of_escapes h
      rw [hfault] at hload
      cases hload
      cases hrefused
  · intro h
    cases hload : (load readYaml store path base).outcome with
    | ok settings => exact .inl ⟨settings, rfl⟩
    | error fault =>
      -- Faults other than refusals belong to files that escape.
      cases hfault : fault.isRefused with
      | false => exact absurd ((load_eq_error_iff hfault).1 hload) (h fault)
      | true =>
        cases fault with
        | refused cause => exact .inr ⟨cause, rfl⟩
        | _ => cases hfault

/-! ## JSON files -/

/-- The keys of a JSON object are texts. -/
theorem named_ofFields (fields : List (String × Json)) : Named (Value.ofFields fields) := by
  induction fields with
  | nil => exact fun entry hentry => absurd hentry List.not_mem_nil
  | cons field fields ih => exact List.forall_mem_cons.2 ⟨⟨field.1, rfl⟩, ih⟩

/-- The values of a mapping that can be written can be written. -/
theorem isWritable_of_found {key : String} {value : Value}
    (h : Value.entriesWritable entries = true) (hvalue : Value.entry? key entries = some value) :
    value.isWritable = true := by
  obtain ⟨entry, hentry, rfl⟩ := Option.map_eq_some_iff.1 hvalue
  have hmem := List.mem_of_find?_eq_some hentry
  clear hvalue hentry
  induction entries with
  | nil => cases hmem
  | cons first rest ih =>
    rw [Value.entriesWritable, Bool.and_eq_true, Bool.and_eq_true] at h
    obtain rfl | hmem := List.mem_cons.1 hmem
    · exact h.1.2
    · exact ih h.2 hmem

/-- The mapping in a JSON file has texts for its keys and can be written. -/
theorem json_entries (hjson : isJsonPath path = true) (h : HasEntries readYaml store path entries) :
    Named entries ∧ Value.entriesWritable entries = true := by
  obtain ⟨text, -, hvalue⟩ := h
  rw [fileValue, if_pos hjson] at hvalue
  split at hvalue
  · next doc hdoc =>
    -- An integer that was parsed has few enough digits to be written.
    have hwritable := Json.writable_of_parse hdoc
    cases doc with
    | obj fields =>
      cases hvalue
      exact ⟨named_ofFields fields, hwritable⟩
    | _ => cases hvalue
  · cases hvalue
  · cases hvalue

/-- A JSON file escapes only before its document is read. -/
theorem escapes_json (hjson : isJsonPath path = true) (h : Escapes readYaml store path base fault) :
    fault ≠ .unknownName ∧ fault ≠ .unwritable := by
  cases h with
  | path hpath => exact ⟨nofun, nofun⟩
  | bytes hbytes hdecode => exact ⟨nofun, nofun⟩
  | json htext hpath hparse => exact ⟨nofun, nofun⟩
  | yaml htext hyaml hread hvalue => exact ⟨nofun, nofun⟩
  | key hentries hnamed => exact absurd (json_entries hjson hentries).1 hnamed
  | outputDir hentries hnamed hvalue hlong =>
    rw [isWritable_of_found (json_entries hjson hentries).2 hvalue] at hlong
    cases hlong
  | outputFormat hentries hnamed hdir hexcluded hvalue hlong =>
    rw [isWritable_of_found (json_entries hjson hentries).2 hvalue] at hlong
    cases hlong

end ApiOutline.Settings

namespace ApiOutline.Command

open Files (Store)
open Journal (Message Level)
open Run (RunFault RunResult World)
open Settings (Environment Escapes LoadFault SettingsFault YamlReader load shownPath)
open Syntax (Node)
open Text (Bytes)

/-! ## Runs in a directory -/

/-- Only discovery says that something is no directory. -/
theorem runUnits_ne_discovery {parse : Bytes → Node} {settings : Settings}
    {fault : Discovery.DiscoveryFault} (units : List Discovery.ProjectUnit) (result : RunResult)
    (world : World) : (Run.runUnits parse settings units result world).1 ≠ .error (.discovery fault) := by
  -- A write that fails does so by its own faults.
  have hwrite : ∀ result project world,
      (Run.writeMapped settings result project world).1 ≠ .error (.discovery fault) := by
    intro result project world h
    unfold Run.writeMapped at h
    simp only at h
    split at h
    · cases h
    · split_ifs at h
      · cases h
      · cases h
    · cases h
  -- So does a step of the run, whether it maps or writes.
  have hunit : ∀ result projectUnit world,
      (Run.runUnit parse settings result projectUnit world).1 ≠ .error (.discovery fault) := by
    intro result projectUnit world h
    unfold Run.runUnit at h
    simp only at h
    split at h
    · cases h
    · split_ifs at h
      exact hwrite _ _ _ h
  induction units generalizing result world with
  | nil => exact nofun
  | cons projectUnit units ih =>
    intro h
    rw [Run.runUnits] at h
    split at h
    · next cause next hstep =>
      have hcause := hunit result projectUnit world
      rw [hstep] at hcause
      exact hcause h
    · exact ih _ _ h

/-- In a directory projects are found. -/
theorem exists_units {store : Store} {excluded : List String} {location : Files.Location}
    (hstore : store.WellFormed) (hdir : (store.directory? location.parts).isSome = true) :
    ∃ units, (Discovery.findProjects store excluded location.text).outcome = .ok units := by
  have hproper : ∀ part ∈ location.parts, Files.ProperName part := by
    -- The parts of a directory in the store are names in it.
    unfold Files.Store.directory? at hdir
    split at hdir
    · next entries hentries =>
      have hroot : (Files.Entry.dir store.root).WellFormed := hstore
      exact (hroot.of_find? hentries).2
    · cases hdir
  have hlocate : store.locate location.text = location := Files.locate_text hproper store
  have hnone : (store.directory? location.parts).isNone = false := by
    rw [← Option.not_isSome, hdir]
    rfl
  unfold Discovery.findProjects Discovery.findUnits
  simp only [hlocate, hnone, Bool.false_eq_true, if_false]
  cases Discovery.filesBelow store Discovery.projectSuffix excluded location with
  | nil => exact ⟨_, rfl⟩
  | cons first others => exact ⟨_, rfl⟩

/-- A run in a directory does not say that there is none. -/
theorem run_ne_notDirectory {parse : Bytes → Node} {settings : Settings} {root path : String}
    {world : World} (hstore : world.store.WellFormed)
    (hdir : (world.store.directory? (world.store.locate root).parts).isSome = true) :
    (Run.run parse settings root world).1 ≠ .error (.discovery (.notDirectory path)) := by
  obtain ⟨units, hunits⟩ : ∃ units, (Discovery.findProjects world.store settings.excludeDirs
      (world.store.locate root).text).outcome = .ok units := exists_units hstore hdir
  have hnone : (world.store.directory? (world.store.locate root).parts).isNone = false := by
    rw [← Option.not_isSome, hdir]
    rfl
  intro h
  unfold Run.run at h
  simp only [hnone, Bool.false_eq_true, if_false, World.during, hunits] at h
  split at h
  · -- Projects are found, so the run fails in a later step.
    next cause next hrun =>
    cases h
    exact runUnits_ne_discovery units {} _ (congrArg Prod.fst hrun)
  · split at h
    · cases h
    · cases h

/-! ## The command -/

/-- The settings that a settings file goes over. -/
def builtIn (store : Store) : Settings where
  outputDir := Files.joinPaths store.workingDir.text "codebase_ast"

/-- Whether the command is given a settings file at a path. An empty path is none. -/
def Asks (arguments : Arguments) (path : String) : Prop :=
  arguments.config = some path ∧ path ≠ ""

/-- Whether the directory that the command is to map is one. -/
def InDirectory (arguments : Arguments) (store : Store) : Prop :=
  (store.directory?
    (store.locate (arguments.root.getD store.workingDir.text)).parts).isSome = true

/-- The message about settings that are refused. -/
def refusal (fault : SettingsFault) : Message :=
  message .error ("Configuration error: " ++ fault.message)

variable {readYaml : YamlReader} {store : Store} {environment : Environment} {arguments : Arguments}
  {host : Host} {world : World} {path : String}

/-- With a settings file the settings are those that are loaded, under the other layers. -/
theorem outcome_settingsFor (h : Asks arguments path) :
    (settingsFor readYaml store environment arguments).outcome =
      (load readYaml store path (builtIn store)).outcome.map fun loaded =>
        (loaded.withEnvironment environment).override arguments.overrides := by
  obtain ⟨hconfig, hne⟩ := h
  have hempty : path.isEmpty = false := by simpa using hne
  unfold settingsFor
  simp only [hconfig, hempty, Traced.outcome_bind, Traced.outcome_pure, Bool.false_eq_true, if_false]
  rw [← builtIn]
  cases (load readYaml store path (builtIn store)).outcome with
  | error fault => rfl
  | ok loaded => rfl

/-- Without a settings file there are always settings. -/
theorem exists_settingsFor (h : ∀ path, ¬ Asks arguments path) :
    ∃ settings, (settingsFor readYaml store environment arguments).outcome = .ok settings := by
  unfold settingsFor
  cases hconfig : arguments.config with
  | none => exact ⟨_, rfl⟩
  | some path =>
    -- A path that is given without asking for a file is empty.
    have hempty : path = "" := by
      by_contra hne
      exact h path ⟨hconfig, hne⟩
    subst hempty
    exact ⟨_, rfl⟩

/-- The settings fail exactly as the settings file does. -/
theorem settingsFor_eq_error_iff {fault : LoadFault} :
    (settingsFor readYaml store environment arguments).outcome = .error fault ↔
      ∃ path, Asks arguments path ∧ (load readYaml store path (builtIn store)).outcome = .error fault := by
  constructor
  · intro h
    by_cases hasks : ∃ path, Asks arguments path
    · obtain ⟨path, hpath⟩ := hasks
      refine ⟨path, hpath, ?_⟩
      rw [outcome_settingsFor hpath] at h
      cases hload : (load readYaml store path (builtIn store)).outcome with
      | ok loaded =>
        rw [hload] at h
        cases h
      | error cause =>
        rw [hload] at h
        exact congrArg _ (Except.error.inj h)
    · obtain ⟨settings, hsettings⟩ := exists_settingsFor (not_exists.1 hasks)
      rw [hsettings] at h
      cases h
  · rintro ⟨path, hpath, hload⟩
    rw [outcome_settingsFor hpath, hload]
    rfl

/-- With settings, the command in a directory ends well or breaks off in the run or its report. -/
theorem runWith_in_directory (host : Host) (settings : Settings) (journal : Journal)
    (hstore : store.WellFormed) (hdir : InDirectory arguments store) :
    (∀ fault, (runWith host arguments settings ⟨store, journal⟩).1 ≠ .error (.load fault)) ∧
      ∀ ending, (runWith host arguments settings ⟨store, journal⟩).1 = .ok ending →
        ending.exitCode = 0 := by
  have hreport : ∀ result world fault,
      (reportRun host arguments settings result world).1 ≠ .error (.load fault) := by
    intro result world fault h
    unfold reportRun at h
    split at h
    · cases h
    · split_ifs at h
      simp only at h
      split at h
      · cases h
      · cases h
      · cases h
      · cases h
  unfold runWith
  simp only
  split
  · next path after hrun =>
    have hnot := congrArg Prod.fst hrun
    -- The root is a directory, so the run does not say otherwise.
    exact absurd hnot (run_ne_notDirectory hstore hdir)
  · exact ⟨nofun, nofun⟩
  · split
    · next result after hrun fault last hfault =>
      refine ⟨?_, nofun⟩
      rintro cause ⟨⟩
      exact hreport _ _ _ (congrArg Prod.fst hfault)
    · split
      · exact ⟨nofun, nofun⟩
      · refine ⟨nofun, ?_⟩
        rintro ending ⟨⟩
        rfl

/-- Refused settings end the command with the message about them. -/
theorem perform_of_refused (host : Host) {fault : SettingsFault} (hpath : Asks arguments path)
    (h : (load host.readYaml world.store path (builtIn world.store)).outcome = .error (.refused fault)) :
    (perform host arguments world).1 = .ok ⟨1, []⟩ ∧
      (perform host arguments world).2.journal.records.getLast?.map Journal.Record.message =
        some (refusal fault) := by
  have hsettings : (settingsFor host.readYaml world.store host.environment arguments).outcome =
      .error (.refused fault) := settingsFor_eq_error_iff.2 ⟨path, hpath, h⟩
  unfold perform
  simp only [hsettings, World.say, Journal.say, List.getLast?_concat, Option.map_some, true_and]
  rfl

/-- The command breaks off in loading exactly for a settings file that escapes. -/
theorem perform_eq_load_iff {fault : LoadFault} (hstore : world.store.WellFormed)
    (hdir : InDirectory arguments world.store) :
    (perform host arguments world).1 = .error (.load fault) ↔
      ∃ path, Asks arguments path ∧
        Escapes host.readYaml world.store (shownPath path) (builtIn world.store) fault := by
  constructor
  · intro h
    -- The fault is not from the run, so it is from the settings and no refusal.
    have hsettings : (settingsFor host.readYaml world.store host.environment arguments).outcome = .error fault ∧
        fault.isRefused = false := by
      unfold perform at h
      simp only at h
      split at h
      · cases h
      · next cause hrefused hcause =>
        cases h
        refine ⟨hcause, ?_⟩
        cases fault with
        | refused cause => exact absurd rfl (hrefused cause)
        | _ => rfl
      · next settings hok => exact absurd h ((runWith_in_directory host settings _ hstore hdir).1 fault)
    obtain ⟨path, hpath, hload⟩ := settingsFor_eq_error_iff.1 hsettings.1
    exact ⟨path, hpath, (Settings.load_eq_error_iff hsettings.2).1 hload⟩
  · rintro ⟨path, hpath, hescapes⟩
    obtain ⟨hload, hrefused⟩ := Settings.load_of_escapes hescapes
    have hsettings : (settingsFor host.readYaml world.store host.environment arguments).outcome = .error fault :=
      settingsFor_eq_error_iff.2 ⟨path, hpath, hload⟩
    unfold perform
    simp only [hsettings]
    cases fault with
    | refused cause => cases hrefused
    | _ => rfl

/-- A command in a directory that ends has done its work, or has been given settings that are refused. -/
theorem exitCode_of_perform {ending : Ending} (hstore : world.store.WellFormed)
    (hdir : InDirectory arguments world.store) (h : (perform host arguments world).1 = .ok ending) :
    ending.exitCode = 0 ∨ ∃ path fault, Asks arguments path ∧
      (load host.readYaml world.store path (builtIn world.store)).outcome = .error (.refused fault) := by
  cases hsettings : (settingsFor host.readYaml world.store host.environment arguments).outcome with
  | ok settings =>
    unfold perform at h
    simp only [hsettings] at h
    exact .inl ((runWith_in_directory host settings _ hstore hdir).2 ending h)
  | error fault =>
    cases fault with
    | refused cause =>
      obtain ⟨path, hpath, hload⟩ := settingsFor_eq_error_iff.1 hsettings
      exact .inr ⟨path, cause, hpath, hload⟩
    | _ =>
      unfold perform at h
      simp only [hsettings] at h
      cases h

/-- A settings file is accepted or reported unless it escapes. Loading gives settings or a refusal
exactly for the files that do not escape, and any other fault exactly for those that escape with it;
a JSON file does not escape once its document is read. The command in a directory breaks off in
loading exactly for a file that escapes; if it ends, then with exit code 0, or with 1 and a message about
refused settings at last, and refused settings always end it so. -/
theorem settings_reported_unless_escaped (host : Host) (arguments : Arguments) (world : World)
    (path : String) (base : Settings) :
    (((∃ settings, (load host.readYaml world.store path base).outcome = .ok settings) ∨
        ∃ cause, (load host.readYaml world.store path base).outcome = .error (.refused cause)) ↔
      ∀ fault, ¬ Escapes host.readYaml world.store (shownPath path) base fault) ∧
    (∀ fault : LoadFault, fault.isRefused = false →
      ((load host.readYaml world.store path base).outcome = .error fault ↔
        Escapes host.readYaml world.store (shownPath path) base fault) ∧
      (Settings.isJsonPath (shownPath path) = true → Escapes host.readYaml world.store (shownPath path) base fault →
        fault ≠ .unknownName ∧ fault ≠ .unwritable)) ∧
    (world.store.WellFormed → InDirectory arguments world.store →
      (∀ fault, (perform host arguments world).1 = .error (.load fault) ↔
        ∃ path, Asks arguments path ∧
          Escapes host.readYaml world.store (shownPath path) (builtIn world.store) fault) ∧
      (∀ ending, (perform host arguments world).1 = .ok ending → ending.exitCode = 0 ∨
        ending.exitCode = 1 ∧ ∃ path fault, Asks arguments path ∧
          (load host.readYaml world.store path (builtIn world.store)).outcome = .error (.refused fault) ∧
          (perform host arguments world).2.journal.records.getLast?.map Journal.Record.message =
            some (refusal fault)) ∧
      (∀ path fault, Asks arguments path →
        (load host.readYaml world.store path (builtIn world.store)).outcome = .error (.refused fault) →
          (perform host arguments world).1 = .ok ⟨1, []⟩)) := by
  refine ⟨Settings.accepted_or_refused_iff, fun fault hfault =>
    ⟨Settings.load_eq_error_iff hfault, Settings.escapes_json⟩, fun hstore hdir => ?_⟩
  refine ⟨fun fault => perform_eq_load_iff hstore hdir, fun ending hending => ?_,
    fun path fault hpath hload => (perform_of_refused host hpath hload).1⟩
  obtain hzero | ⟨path, fault, hpath, hload⟩ := exitCode_of_perform hstore hdir hending
  · exact .inl hzero
  · -- What ended the command is the refusal, so its message is the last one.
    have hrefused := perform_of_refused host hpath hload
    rw [hrefused.1] at hending
    cases hending
    exact .inr ⟨rfl, path, fault, hpath, hload, hrefused.2⟩

/-- The fault that an outcome is. -/
def faultIn? {ε α : Type} : Except ε α → Option ε
  | .ok _ => none
  | .error fault => some fault

/-- An outcome that has a fault is this fault. -/
theorem eq_error_of_faultIn? {ε α : Type} {outcome : Except ε α} {fault : ε}
    (h : faultIn? outcome = some fault) : outcome = .error fault := by
  cases outcome with
  | ok a => cases h
  | error cause =>
    cases h
    rfl

/-- A store with nothing but a settings file. -/
def settingsStore (name text : String) : Store where
  root := [(name, .file (Text.Utf8.ofString text))]
  workingDir := ⟨false, []⟩

/-- A host that parses everything as an empty file. -/
def quietHost : Host where
  environment := []
  parse _ := { type := "compilation_unit", start := 0, stop := 0 }
  readYaml := Yaml.read
  runId := "r"
  timestamp := "t"

/-- Arguments with nothing but a settings file. -/
def withConfig (path : String) : Arguments where
  config := some path

/-- A list is refused, and a mapping with a number for a key escapes. -/
theorem listed_refused_numbered_escapes :
    (settingsStore "c.json" "[]").WellFormed ∧
      InDirectory (withConfig "c.json") (settingsStore "c.json" "[]") ∧
      (∀ fault, ¬ Escapes Yaml.read (settingsStore "c.json" "[]") "c.json"
        (builtIn (settingsStore "c.json" "[]")) fault) ∧
      (perform quietHost (withConfig "c.json") ⟨settingsStore "c.json" "[]", {}⟩).1 = .ok ⟨1, []⟩ ∧
      Escapes Yaml.read (settingsStore "c.yml" "1: 2") "c.yml" {} .unknownName := by
  have hstore : (settingsStore "c.json" "[]").WellFormed := by decide +kernel
  have hdir : InDirectory (withConfig "c.json") (settingsStore "c.json" "[]") := by
    rw [InDirectory]
    decide +kernel
  have hload : (load Yaml.read (settingsStore "c.json" "[]") "c.json"
      (builtIn (settingsStore "c.json" "[]"))).outcome = .error (.refused (.notMapping "list")) :=
    eq_error_of_faultIn? (by decide +kernel)
  have hescapes : (load Yaml.read (settingsStore "c.yml" "1: 2") "c.yml" {}).outcome = .error .unknownName :=
    eq_error_of_faultIn? (by decide +kernel)
  have hshown : shownPath "c.json" = "c.json" ∧ shownPath "c.yml" = "c.yml" := by decide +kernel
  obtain ⟨hiff, -, hperforms⟩ := settings_reported_unless_escaped quietHost (withConfig "c.json")
    ⟨settingsStore "c.json" "[]", {}⟩ "c.json" (builtIn (settingsStore "c.json" "[]"))
  have hrefused := hiff.1 (.inr ⟨_, hload⟩)
  obtain ⟨-, hfaults, -⟩ := settings_reported_unless_escaped quietHost (withConfig "c.yml")
    ⟨settingsStore "c.yml" "1: 2", {}⟩ "c.yml" {}
  have hnumbered := (hfaults .unknownName rfl).1.1 hescapes
  rw [hshown.1] at hrefused
  rw [hshown.2] at hnumbered
  have hasks : Asks (withConfig "c.json") "c.json" := ⟨rfl, by decide⟩
  have hended := (hperforms hstore hdir).2.2 _ _ hasks hload
  exact ⟨hstore, hdir, hrefused, hended, hnumbered⟩

/-- Not every settings file is accepted or refused, and the command does not report every one: a mapping
may have a number for a key. -/
theorem numbered_key_not_reported :
    (¬ ∀ (store : Store) (path : String) (base : Settings),
      Settings.isFile store (shownPath path) = .ok true →
        (∃ settings, (load Yaml.read store path base).outcome = .ok settings) ∨
          ∃ cause, (load Yaml.read store path base).outcome = .error (.refused cause)) ∧
    ¬ ∀ (host : Host) (arguments : Arguments) (world : World), host.readYaml = Yaml.read →
      world.store.WellFormed → InDirectory arguments world.store →
        ∀ fault, (perform host arguments world).1 ≠ .error (.load fault) := by
  -- Loading ends in a fault that is no refusal.
  have hload : (load Yaml.read (settingsStore "c.yml" "1: 2") "c.yml" {}).outcome = .error .unknownName :=
    eq_error_of_faultIn? (by decide +kernel)
  constructor
  · intro h
    obtain ⟨settings, hok⟩ | ⟨cause, hrefused⟩ :=
      h (settingsStore "c.yml" "1: 2") "c.yml" {} rfl
    · rw [hload] at hok
      cases hok
    · rw [hload] at hrefused
      cases hrefused
  · intro h
    have hdir : InDirectory (withConfig "c.yml") (settingsStore "c.yml" "1: 2") := by
      rw [InDirectory]
      decide +kernel
    refine h quietHost (withConfig "c.yml") ⟨settingsStore "c.yml" "1: 2", {}⟩ rfl (by decide +kernel)
      hdir .unknownName ?_
    exact eq_error_of_faultIn? (by decide +kernel)

end ApiOutline.Command
