import ApiOutline.Proofs.OneLine
import ApiOutline.Proofs.SettingsFaults

/-!
# Layers of settings

A setting comes from the highest layer that gives it: the command line, the environment, the settings file,
and last the built-in value. A line is read as the uses of switches that it makes, and `Takes` says what
one use after another does to the arguments. A file gives the values of the names it knows and no others, so
that each setting is a function of its own layers alone.
-/

namespace ApiOutline.Settings

open Data (Value)

/-- The value of the highest layer that gives one, or else the base. -/
def highest {α : Type} (layers : List (Option α)) (base : α) : α :=
  (layers.findSome? id).getD base

section Highest

variable {α : Type} {layers : List (Option α)} {base : α}

@[simp]
theorem highest_nil : highest [] base = base := rfl

@[simp]
theorem highest_cons (layer : Option α) :
    highest (layer :: layers) base = layer.getD (highest layers base) := by
  cases layer <;> rfl

end Highest

/-- A flag of settings. -/
def isOn (settings : Settings) : Flag → Bool
  | .strictSyntax => settings.strictSyntax
  | .contextualVisibility => settings.contextualVisibility

/-! ## The settings file -/

/-- The directory that a value of a settings file stands for. -/
def dirText (value : Value) : String :=
  String.ofList (Text.trim value.text)

/-- The name of the format that a value of a settings file stands for. -/
def formatText (value : Value) : String :=
  String.ofList (Text.lower (Text.trim value.text))

/-- The names of directories that a value of a settings file stands for. -/
def dirsIn (value : Value) : List String :=
  (((dirNames? value).getD []).map Text.trimString).filter (· ≠ "")

/-- The truth value that a value of a settings file is. -/
def truthOf : Value → Bool
  | .bool truth => truth
  | _ => false

/-- Whether the directories in entries are names, and their flags truth values. -/
structure Sound (entries : List (Value × Value)) : Prop where
  dirs : ∀ value, Value.entry? "exclude_dirs" entries = some value → (dirNames? value).isSome = true
  flags : ∀ (flag : Flag) value, Value.entry? flag.name entries = some value →
    ∃ truth, value = .bool truth

section File

variable {entries others : List (Value × Value)} {base loaded : Settings}

/-- Names are trimmed, and empty ones left out. -/
theorem trimmedNames_eq (excluded : List String) :
    trimmedNames excluded = (excluded.map Text.trimString).filter (· ≠ "") := by
  refine List.filter_congr fun name _ => ?_
  rw [Bool.eq_iff_iff]
  simp

/-- The output directory that is loaded comes from the file or else from the settings below. -/
theorem outputDirIn_eq_ok {dir : String} (h : outputDirIn entries base = .ok dir) :
    dir = highest [(Value.entry? "output_dir" entries).map dirText]
      (Text.trimString base.outputDir) := by
  unfold outputDirIn at h
  cases hentry : Value.entry? "output_dir" entries with
  | none =>
    simp only [hentry] at h
    obtain ⟨shown, hshown, h⟩ := Outcome.bind_eq_ok.1 h
    cases hshown
    split at h
    · cases h
    · exact Outcome.pure_eq_ok.1 h
  | some value =>
    simp only [hentry, shownText] at h
    obtain ⟨shown, hshown, h⟩ := Outcome.bind_eq_ok.1 h
    split_ifs at hshown
    cases hshown
    split at h
    · cases h
    · exact Outcome.pure_eq_ok.1 h

/-- The excluded directories that are loaded come from the file or else from the settings below. -/
theorem excludeDirsIn_eq_ok {excluded : List String} (h : excludeDirsIn entries base = .ok excluded) :
    (∀ value, Value.entry? "exclude_dirs" entries = some value → (dirNames? value).isSome = true) ∧
      excluded = highest [(Value.entry? "exclude_dirs" entries).map dirsIn]
        (trimmedNames base.excludeDirs) := by
  unfold excludeDirsIn at h
  cases hentry : Value.entry? "exclude_dirs" entries with
  | none =>
    rw [hentry] at h
    cases h
    exact ⟨fun value hvalue => absurd hvalue (Option.some_ne_none value).symm, rfl⟩
  -- A value that stands for no names is refused.
  | some value =>
    rw [hentry] at h
    cases hnames : dirNames? value with
    | none =>
      simp only [hnames] at h
      cases h
    | some found =>
      simp only [hnames] at h
      cases h
      refine ⟨?_, ?_⟩
      · rintro _ ⟨⟩
        rw [hnames]
        rfl
      · rw [trimmedNames_eq]
        simp [dirsIn, hnames]

/-- A format that is found by a name has this name. -/
theorem name_of_ofName? {name : String} {format : OutputFormat} (h : OutputFormat.ofName? name = some format) :
    format.name = name := by
  unfold OutputFormat.ofName? at h
  split at h
  · cases h
    rfl
  · cases h
    rfl
  · cases h

/-- The format that is loaded comes from the file or else from the settings below. -/
theorem outputFormatIn_eq_ok {format : OutputFormat} (h : outputFormatIn entries base = .ok format) :
    format.name = highest [(Value.entry? "output_format" entries).map formatText]
      base.outputFormat.name := by
  unfold outputFormatIn at h
  cases hentry : Value.entry? "output_format" entries with
  | none =>
    rw [hentry] at h
    cases h
    rfl
  | some value =>
    rw [hentry] at h
    obtain ⟨-, -, h⟩ := Outcome.bind_eq_ok.1 h
    rw [Outcome.mapError_eq_ok] at h
    unfold OutputFormat.ofValue at h
    dsimp only at h
    split at h
    · next found hfound =>
      cases h
      exact name_of_ofName? hfound
    · cases h

/-- A flag that is loaded comes from the file or else from the settings below. -/
theorem flagOf_eq_ok {flag : Flag} {default truth : Bool} (h : flagOf entries flag default = .ok truth) :
    (∀ value, Value.entry? flag.name entries = some value → ∃ truth, value = .bool truth) ∧
      truth = highest [(Value.entry? flag.name entries).map truthOf] default := by
  unfold flagOf at h
  split at h
  · next hentry =>
    cases h
    rw [hentry]
    exact ⟨fun value hvalue => absurd hvalue (Option.some_ne_none value).symm, rfl⟩
  · next value hentry =>
    cases h
    rw [hentry]
    refine ⟨?_, rfl⟩
    rintro _ ⟨⟩
    exact ⟨_, rfl⟩
  · cases h

/-- Entries are accepted if each setting in them is. -/
theorem ofEntries_eq_ok_iff :
    ofEntries entries base = .ok loaded ↔ outputDirIn entries base = .ok loaded.outputDir ∧
      excludeDirsIn entries base = .ok loaded.excludeDirs ∧
      outputFormatIn entries base = .ok loaded.outputFormat ∧
      ∀ flag, flagOf entries flag (base.isOn flag) = .ok (loaded.isOn flag) := by
  unfold ofEntries
  simp only [Outcome.bind_eq_ok, Outcome.mapError_eq_ok, Outcome.pure_eq_ok]
  constructor
  · rintro ⟨dir, hdir, excluded, hexcluded, format, hformat, strict, hstrict, contextual,
      hcontextual, rfl⟩
    refine ⟨hdir, hexcluded, hformat, fun flag => ?_⟩
    cases flag with
    | strictSyntax => exact hstrict
    | contextualVisibility => exact hcontextual
  · rintro ⟨hdir, hexcluded, hformat, hflags⟩
    exact ⟨_, hdir, _, hexcluded, _, hformat, _, hflags .strictSyntax, _,
      hflags .contextualVisibility, rfl⟩

/-- Entries that are accepted are sound. -/
theorem sound_of_ofEntries (h : ofEntries entries base = .ok loaded) : Sound entries := by
  obtain ⟨-, hdirs, -, hflags⟩ := ofEntries_eq_ok_iff.1 h
  exact ⟨(excludeDirsIn_eq_ok hdirs).1, fun flag => (flagOf_eq_ok (hflags flag)).1⟩

/-- Names that mean nothing change nothing. -/
theorem ofEntries_congr
    (h : ∀ name ∈ names, Value.entry? name others = Value.entry? name entries) :
    ofEntries others base = ofEntries entries base := by
  -- The settings look up their own names only.
  unfold ofEntries outputDirIn excludeDirsIn outputFormatIn flagOf
  rw [h "output_dir" (by decide), h "exclude_dirs" (by decide), h "output_format" (by decide),
    h Flag.strictSyntax.name (by decide), h Flag.contextualVisibility.name (by decide)]

end File

end ApiOutline.Settings

namespace ApiOutline.Command

open Data (Value)
open Files (Store)
open Settings

/-! ## The command line -/

/-- The uses of switches in words, each with its value, in order. -/
def switchUses : List Word → List (Switch × Option String)
  | [] => []
  | .unknown _ :: rest => switchUses rest
  | .switch switch _ (some value) :: rest => (switch, some value) :: switchUses rest
  | .switch switch _ none :: rest =>
    if switch.takesValue then
      match rest with
      | .plain value :: rest => (switch, some value) :: switchUses rest
      | _ => []
    else (switch, none) :: switchUses rest
  | .letters _ :: rest => switchUses rest
  | .plain _ :: rest => switchUses rest
  | .mark :: _ => []

/-- The value of the last use of a switch. -/
def lastValue (switch : Switch) (uses : List (Switch × Option String)) : Option String :=
  uses.reverse.findSome? fun use => if use.1 = switch then use.2 else none

/-- Whether a switch is used. -/
def isUsed (switch : Switch) (uses : List (Switch × Option String)) : Bool :=
  uses.any fun use => use.1 = switch

/-- The switch of a flag. -/
def switchOf : Flag → Switch
  | .strictSyntax => .strictSyntax
  | .contextualVisibility => .contextualVisibility

/-- The value of a switch in arguments. -/
def Arguments.value? (arguments : Arguments) : Switch → Option String
  | .format => arguments.outputFormat.map OutputFormat.name
  | .outputDir => arguments.outputDir
  | .config => arguments.config
  | .reportDir => arguments.reportDir
  | _ => none

/-- Whether a flag is on in arguments. -/
def Arguments.isOn (arguments : Arguments) : Flag → Bool
  | .strictSyntax => arguments.strictSyntax
  | .contextualVisibility => arguments.contextualVisibility

/-- What uses of switches do to arguments: the last value of a switch stays, and a flag that is used is on. -/
structure Takes (before : Arguments) (uses : List (Switch × Option String)) (after : Arguments) :
    Prop where
  value : ∀ switch, after.value? switch = (lastValue switch uses).or (before.value? switch)
  flag : ∀ flag, after.isOn flag = (isUsed (switchOf flag) uses || before.isOn flag)

section Line

variable {before after last : Arguments} {uses : List (Switch × Option String)} {switch : Switch}
  {progress final : Progress} {words : List Word}

/-- The last value is that of the later uses if they have one. -/
theorem lastValue_append (switch : Switch) (first rest : List (Switch × Option String)) :
    lastValue switch (first ++ rest) = (lastValue switch rest).or (lastValue switch first) := by
  simp [lastValue, List.findSome?_append]

/-- Some uses after others. -/
theorem Takes.append {first rest : List (Switch × Option String)} (hfirst : Takes before first after)
    (hrest : Takes after rest last) : Takes before (first ++ rest) last where
  value switch := by
    rw [hrest.value, hfirst.value, lastValue_append, Option.or_assoc]
  flag flag := by
    rw [hrest.flag, hfirst.flag, isUsed, isUsed, isUsed, List.any_append, ← Bool.or_assoc,
      Bool.or_comm (rest.any _)]

/-- From no arguments on, values are what the uses give. -/
theorem Takes.value_eq (h : Takes {} uses after) (switch : Switch) :
    after.value? switch = lastValue switch uses := by
  rw [h.value]
  cases switch <;> exact Option.or_none

/-- From no arguments on, the flags that are on are those used. -/
theorem Takes.isOn_eq (h : Takes {} uses after) (flag : Flag) :
    after.isOn flag = isUsed (switchOf flag) uses := by
  rw [h.flag]
  cases flag <;> exact Bool.or_false _

/-- The root of the arguments is not given by a switch. -/
theorem takes_root (arguments : Arguments) (root : Option String) :
    Takes arguments [] { arguments with root } where
  value switch := by cases switch <;> rfl
  flag flag := by cases flag <;> rfl

/-- A plain word uses no switch. -/
theorem takes_takePlain (progress : Progress) (text : String) :
    Takes progress.arguments [] (takePlain progress text).arguments := by
  unfold takePlain
  split_ifs
  · exact takes_root _ progress.arguments.root
  · exact takes_root _ _

/-- The words at the end of a line use no switch. -/
theorem takes_takeLast (progress : Progress) (words : List Word) :
    Takes progress.arguments [] (takeLast progress words).arguments := by
  unfold takeLast
  split_ifs
  · exact takes_root _ progress.arguments.root
  · dsimp only
    split
    · exact takes_root _ progress.arguments.root
    · exact takes_root _ _

/-- A value for a switch is one use of it. -/
theorem takes_set {value : String} (hswitch : switch.takesValue = true)
    (h : before.set switch value = .ok after) : Takes before [(switch, some value)] after := by
  cases switch with
  | format =>
    unfold Arguments.set at h
    dsimp only at h
    split at h
    · next format hformat =>
      -- A format is kept as what its name stands for.
      cases h
      have hname := name_of_ofName? hformat
      refine ⟨fun switch => ?_, fun flag => by cases flag <;> rfl⟩
      cases switch <;> simp [lastValue, Arguments.value?, hname]
    · cases h
  | outputDir | config | reportDir =>
    cases h
    exact ⟨fun switch => by cases switch <;> rfl, fun flag => by cases flag <;> rfl⟩
  | help | strictSyntax | contextualVisibility | verbose => cases hswitch

/-- Turning on a switch is one use of it. -/
theorem takes_turnOn (arguments : Arguments) (hswitch : switch.takesValue = false) :
    Takes arguments [(switch, none)] (arguments.turnOn switch) := by
  cases switch with
  | format | outputDir | config | reportDir => cases hswitch
  | help | strictSyntax | contextualVisibility | verbose =>
    exact ⟨fun switch => by cases switch <;> rfl, fun flag => by cases flag <;> rfl⟩

/-- Words without a switch make no use of one. -/
theorem switchUses_of_plain (h : words.any Word.isSwitch = false) : switchUses words = [] := by
  induction words with
  | nil => rfl
  | cons word words ih =>
    rw [List.any_cons, Bool.or_eq_false_iff] at h
    cases word with
    | mark => rfl
    | plain text => exact ih h.2
    | switch switch name value => cases h.1
    | letters letters => cases h.1
    | unknown text => cases h.1

/-- Words are taken use by use. -/
theorem takes_of_takeWords (h : takeWords words progress = .ok (some final)) :
    Takes progress.arguments (switchUses words) final.arguments := by
  fun_induction takeWords words progress with
  | case1 progress =>
    cases h
    exact takes_takeLast progress []
  | case2 text rest progress ih => exact ih h
  | case3 switch name value rest progress hvalue ih =>
    obtain ⟨next, hset, h⟩ := Outcome.bind_eq_ok.1 h
    exact (takes_set hvalue hset).append (ih next h)
  | case4 => cases h
  | case5 letters rest progress =>
    -- Letters after the short name of help ask for help or are refused.
    obtain ⟨-, -, h⟩ := Outcome.map_eq_ok.1 h
    cases h
  | case6 => cases h
  | case7 switch name progress hhelp hvalue value rest ih =>
    obtain ⟨next, hset, h⟩ := Outcome.bind_eq_ok.1 h
    rw [switchUses, if_pos hvalue]
    exact (takes_set hvalue hset).append (ih next h)
  | case8 => cases h
  | case9 switch name rest progress hhelp hvalue ih =>
    have huses : switchUses (.switch switch name none :: rest) = (switch, none) :: switchUses rest := by
      rw [switchUses.eq_def]
      exact if_neg hvalue
    rw [huses]
    exact (takes_turnOn _ (Bool.eq_false_iff.2 hvalue)).append (ih h)
  | case10 text rest progress hswitch ih => exact (takes_takePlain progress text).append (ih h)
  | case11 text rest progress hswitch =>
    -- No word after this one is a switch, so none is used.
    cases h
    rw [switchUses, switchUses_of_plain (Bool.eq_false_iff.2 hswitch)]
    exact takes_takeLast progress (.plain text :: rest)
  | case12 rest progress =>
    cases h
    exact takes_takeLast progress (.mark :: rest)

/-- The arguments of a line that is accepted are what its switches give. -/
theorem takes_of_parse {line : List String} {arguments : Arguments}
    (h : parse line = .ok (.map arguments)) :
    ∃ words, wordsOf line = .ok words ∧ Takes {} (switchUses words) arguments := by
  unfold parse at h
  obtain ⟨words, hwords, h⟩ := Outcome.bind_eq_ok.1 h
  obtain ⟨taken, htaken, h⟩ := Outcome.bind_eq_ok.1 h
  refine ⟨words, hwords, ?_⟩
  cases taken with
  | none => cases h
  | some progress =>
    dsimp only at h
    split_ifs at h
    cases h
    exact takes_of_takeWords htaken

end Line

/-! ## All layers -/

/-- The entries that a store gives for the path of a settings file. An empty path is none. -/
inductive Configured (readYaml : YamlReader) (store : Store) (config : Option String) :
    List (Value × Value) → Prop where
  | missing (h : config.getD "" = "") : Configured readYaml store config []
  /-- The file is empty. -/
  | empty {path : String} {text : List Char} (hconfig : config = some path) (hpath : path ≠ "")
    (htext : HasText store (shownPath path) text)
    (hvalue : fileValue readYaml (shownPath path) text = .ok .null) : Configured readYaml store config []
  /-- The file holds a mapping. -/
  | mapping {path : String} {entries : List (Value × Value)} (hconfig : config = some path)
    (hpath : path ≠ "") (hentries : HasEntries readYaml store (shownPath path) entries)
    (hnamed : Named entries) : Configured readYaml store config entries

/-- Whether every setting is the value of the highest of its layers that gives one. -/
structure Layered (store : Store) (environment : Environment) (uses : List (Switch × Option String))
    (entries : List (Value × Value)) (settings : Settings) : Prop where
  outputFormat : settings.outputFormat.name =
    highest [lastValue .format uses, (Value.entry? "output_format" entries).map formatText] "text"
  outputDir : settings.outputDir =
    highest [lastValue .outputDir uses, (Value.entry? "output_dir" entries).map dirText]
      (Files.joinPaths store.workingDir.text "codebase_ast")
  excludeDirs : settings.excludeDirs =
    highest [(Value.entry? "exclude_dirs" entries).map dirsIn] ["bin", "obj"]
  flag (flag : Flag) : settings.isOn flag =
    highest [if isUsed (switchOf flag) uses then some true else none,
      (environment.lookup flag.variable).map fun value =>
        Text.lowerString (Text.trimString value) ∈ ["1", "true", "yes", "on"],
      (Value.entry? flag.name entries).map truthOf] false

section Layers

variable {store : Store} {environment : Environment} {arguments : Arguments}
  {entries : List (Value × Value)} {settings : Settings}

/-- The built-in output directory is an absolute path. -/
theorem head?_builtIn (store : Store) : (builtIn store).outputDir.toList.head? = some '/' := by
  have hroot : store.workingDir.text.toList.head? = some '/' :=
    of_decide_eq_true (Files.isAbsolute_text store.workingDir)
  have hname : Files.isAbsolute "codebase_ast" = false := by decide
  rw [builtIn, Files.joinPaths, hname, if_neg Bool.false_ne_true]
  split_ifs <;> simp [List.head?_append, hroot]

/-- The built-in output directory has no blanks around it. -/
theorem trim_builtIn (store : Store) :
    Text.trim (builtIn store).outputDir.toList = (builtIn store).outputDir.toList := by
  have hlast : (builtIn store).outputDir.toList.getLast? = some 't' := by
    have hname : Files.isAbsolute "codebase_ast" = false := by decide
    rw [builtIn, Files.joinPaths, hname, if_neg Bool.false_ne_true]
    split_ifs <;> simp [List.getLast?_append]
  refine Text.trim_of_ends ?_ (by decide : Text.isBlank 't' = false) hlast
  rw [head?_builtIn]
  rfl

/-- A file that sets nothing leaves the built-in settings. -/
theorem ofEntries_nil (store : Store) : ofEntries [] (builtIn store) = .ok (builtIn store) := by
  have hdir : outputDirIn [] (builtIn store) = .ok (builtIn store).outputDir := by
    have hentry : Value.entry? "output_dir" [] = none := rfl
    unfold outputDirIn
    simp only [hentry]
    refine Outcome.bind_eq_ok.2 ⟨_, rfl, ?_⟩
    rw [trim_builtIn]
    cases hcs : (builtIn store).outputDir.toList with
    | nil =>
      have hhead := head?_builtIn store
      rw [hcs] at hhead
      cases hhead
    | cons c cs =>
      dsimp only
      rw [← hcs, String.ofList_toList]
      rfl
  refine ofEntries_eq_ok_iff.2 ⟨hdir, ?_, rfl, fun flag => ?_⟩
  · show Except.ok (trimmedNames ["bin", "obj"]) = .ok ["bin", "obj"]
    decide +kernel
  · cases flag <;> rfl

/-- The settings for the entries of a file are these with the environment and the line over them. -/
theorem outcome_of_configured (h : Configured readYaml store arguments.config entries) :
    (settingsFor readYaml store environment arguments).outcome =
      (ofEntries entries (builtIn store)).map fun loaded =>
        (loaded.withEnvironment environment).override arguments.overrides := by
  cases h with
  | missing hconfig =>
    rw [ofEntries_nil]
    unfold settingsFor
    cases hpath : arguments.config with
    | none => rfl
    | some path =>
      obtain rfl : path = "" := by rwa [hpath] at hconfig
      rfl
  | empty hconfig hpath htext hvalue =>
    -- No entries means that no name is unknown.
    have hnamed : Named [] := fun entry hentry => absurd hentry List.not_mem_nil
    rw [outcome_settingsFor ⟨hconfig, hpath⟩, outcome_load,
      fileEntries_eq_ok_iff.2 (.inl ⟨rfl, _, htext, hvalue⟩)]
    simp only [Except.bind, (outcome_reportUnknown []).1 hnamed]
  | mapping hconfig hpath hentries hnamed =>
    rw [outcome_settingsFor ⟨hconfig, hpath⟩, load_of_hasEntries hentries hnamed]

/-- A settings file that is accepted gives entries that are. -/
theorem exists_configured
    (h : ∀ path, Asks arguments path →
      ∃ loaded, (load readYaml store path (builtIn store)).outcome = .ok loaded) :
    ∃ entries loaded, Configured readYaml store arguments.config entries ∧
      ofEntries entries (builtIn store) = .ok loaded := by
  -- Either a settings file is asked for, or its path is missing or empty.
  by_cases hasks : ∃ path, Asks arguments path
  · obtain ⟨path, hpath⟩ := hasks
    obtain ⟨loaded, hloaded⟩ := h path hpath
    rw [outcome_load] at hloaded
    obtain ⟨entries, hentries, hloaded⟩ := Outcome.except_bind_eq_ok.1 hloaded
    obtain ⟨⟨⟩, hreport, hloaded⟩ := Outcome.except_bind_eq_ok.1 hloaded
    refine ⟨entries, loaded, ?_, hloaded⟩
    obtain ⟨rfl, text, htext, hvalue⟩ | hentries := fileEntries_eq_ok_iff.1 hentries
    · exact .empty hpath.1 hpath.2 htext hvalue
    · -- A name that is not a text stops the file from being loaded.
      refine .mapping hpath.1 hpath.2 hentries ?_
      by_contra hnamed
      rw [(outcome_reportUnknown entries).2 hnamed] at hreport
      cases hreport
  · refine ⟨[], _, .missing ?_, ofEntries_nil store⟩
    by_contra hne
    cases hconfig : arguments.config with
    | none => exact hne (by rw [hconfig]; rfl)
    | some path => exact hasks ⟨path, hconfig, by rwa [hconfig] at hne⟩

/-- A flag of a line is over the environment, and the environment is over what is loaded. -/
theorem isOn_override (loaded : Settings) (environment : Environment) (arguments : Arguments)
    (flag : Flag) :
    ((loaded.withEnvironment environment).override arguments.overrides).isOn flag =
      highest [if arguments.isOn flag then some true else none, flagIn environment flag]
        (loaded.isOn flag) := by
  rw [highest_cons, highest_cons, highest_nil]
  cases flag <;> rfl

/-- A flag of the environment is on if its value is one of the words for it. -/
theorem flagIn_eq (environment : Environment) (flag : Flag) :
    flagIn environment flag = (environment.lookup flag.variable).map fun value =>
      decide (Text.lowerString (Text.trimString value) ∈ ["1", "true", "yes", "on"]) := by
  unfold flagIn
  simp only [List.contains_eq_mem, onWords]

/-- The layers of the settings that entries give under an environment and a line. -/
theorem layered_of_ofEntries {loaded : Settings} {uses : List (Switch × Option String)}
    (huses : Takes {} uses arguments) (h : ofEntries entries (builtIn store) = .ok loaded) :
    Layered store environment uses entries
      ((loaded.withEnvironment environment).override arguments.overrides) := by
  obtain ⟨hdir, hdirs, hformat, hflags⟩ := ofEntries_eq_ok_iff.1 h
  constructor
  · -- The file gives a name or leaves the built-in one, and the line is over both.
    have hname : loaded.outputFormat.name =
        highest [(Value.entry? "output_format" entries).map formatText] "text" :=
      outputFormatIn_eq_ok hformat
    rw [highest_cons, ← huses.value_eq .format, ← hname]
    show (arguments.outputFormat.getD loaded.outputFormat).name = _
    cases hgiven : arguments.outputFormat <;> simp [Arguments.value?, hgiven]
  · -- The built-in directory stays as it is when it is trimmed.
    have htrim : Text.trimString (builtIn store).outputDir = (builtIn store).outputDir := by
      rw [Text.trimString, trim_builtIn, String.ofList_toList]
    rw [highest_cons, ← huses.value_eq .outputDir]
    have hloaded := outputDirIn_eq_ok hdir
    rw [htrim] at hloaded
    exact congrArg arguments.outputDir.getD hloaded
  · exact (excludeDirsIn_eq_ok hdirs).2
  · intro flag
    -- No flag is on to begin with.
    have hbase : (builtIn store).isOn flag = false := by cases flag <;> rfl
    have hloaded := (flagOf_eq_ok (hflags flag)).2
    rw [hbase] at hloaded
    rw [isOn_override, hloaded, huses.isOn_eq, flagIn_eq]
    simp only [highest_cons, highest_nil]

/-- Every setting of the command comes from the highest layer that gives it, whatever the other settings
are, and names in the settings file that mean nothing do not count. -/
theorem settings_from_highest_layer (readYaml : YamlReader) (store : Store)
    (environment : Environment) (line : List String) (arguments : Arguments)
    (hline : parse line = .ok (.map arguments))
    (haccepted : ∀ path, Asks arguments path →
      ∃ loaded, (load readYaml store path (builtIn store)).outcome = .ok loaded) :
    ∃ words entries settings, wordsOf line = .ok words ∧
      Configured readYaml store (lastValue .config (switchUses words)) entries ∧ Sound entries ∧
      (settingsFor readYaml store environment arguments).outcome = .ok settings ∧
      Layered store environment (switchUses words) entries settings ∧
      ∀ (other : Store) (others : List (Value × Value)), other.workingDir = store.workingDir →
        Configured readYaml other (lastValue .config (switchUses words)) others →
          (∀ name ∈ Settings.names, Value.entry? name others = Value.entry? name entries) →
            (settingsFor readYaml other environment arguments).outcome = .ok settings := by
  obtain ⟨words, hwords, htakes⟩ := takes_of_parse hline
  obtain ⟨entries, loaded, hentries, hloaded⟩ := exists_configured haccepted
  have hconfig : lastValue .config (switchUses words) = arguments.config :=
    (htakes.value_eq .config).symm
  refine ⟨words, entries, _, hwords, hconfig ▸ hentries, sound_of_ofEntries hloaded, ?_,
    layered_of_ofEntries htakes hloaded, ?_⟩
  · rw [outcome_of_configured hentries, hloaded]
    rfl
  · intro other others hdir hothers hsame
    -- The built-in settings depend on the working directory alone.
    have hbase : builtIn other = builtIn store := by rw [builtIn, hdir, builtIn]
    rw [outcome_of_configured (hconfig ▸ hothers), ofEntries_congr hsame, hbase, hloaded]
    rfl

end Layers

/-- An outcome with a value is this value. -/
theorem eq_ok_of_toOption {ε α : Type} {outcome : Except ε α} {a : α} (h : outcome.toOption = some a) :
    outcome = .ok a := by
  cases outcome with
  | error fault => cases h
  | ok b => exact congrArg _ (Option.some.inj h)

/-- A store with a settings file that sets all but the directory, among them a flag that is on. -/
def layeredStore : Store :=
  settingsStore "c.json" ("\x7b\"output_format\": \" JSON \", \"exclude_dirs\": [\" x \", \"\"], " ++
    "\"strict_syntax\": true, \"contextual_visibility\": false, \"extra\": 1\x7d")

/-- A line that names a switch by the start of its name, and gives a directory twice. -/
def layeredLine : List String :=
  ["--output-dir", "a", "--contextual", "--config=c.json", "--output-dir= b "]

/-- What the line is read as. -/
def layeredArguments : Arguments where
  outputDir := some " b "
  config := some "c.json"
  contextualVisibility := true

/-- The last directory of the line counts as it is; the environment turns off what the file turns on, and
the line turns on what the file turns off. -/
theorem layeredLine_settings :
    parse layeredLine = .ok (.map layeredArguments) ∧
      (∀ path, Asks layeredArguments path →
        ∃ loaded, (load Yaml.read layeredStore path (builtIn layeredStore)).outcome = .ok loaded) ∧
      ∃ words entries settings, wordsOf layeredLine = .ok words ∧
        Configured Yaml.read layeredStore (lastValue .config (switchUses words)) entries ∧
        Layered layeredStore [("CODEMAP_STRICT_SYNTAX", " No ")] (switchUses words) entries settings ∧
        settings = ⟨.json, " b ", ["x"], false, true⟩ := by
  -- The line and its file are read by computation.
  have hline : parse layeredLine = .ok (.map layeredArguments) :=
    eq_ok_of_toOption (by decide +kernel)
  have hloaded : (load Yaml.read layeredStore "c.json" (builtIn layeredStore)).outcome =
      .ok ⟨.json, "/codebase_ast", ["x"], true, false⟩ :=
    eq_ok_of_toOption (by decide +kernel)
  have haccepted : ∀ path, Asks layeredArguments path →
      ∃ loaded, (load Yaml.read layeredStore path (builtIn layeredStore)).outcome = .ok loaded := by
    rintro path ⟨hpath, -⟩
    cases hpath
    exact ⟨_, hloaded⟩
  refine ⟨hline, haccepted, ?_⟩
  obtain ⟨words, entries, settings, hwords, hconfigured, -, hsettings, hlayered, -⟩ :=
    settings_from_highest_layer Yaml.read layeredStore [("CODEMAP_STRICT_SYNTAX", " No ")] layeredLine
      layeredArguments hline haccepted
  refine ⟨words, entries, settings, hwords, hconfigured, hlayered, ?_⟩
  rw [outcome_settingsFor ⟨rfl, by decide⟩, hloaded] at hsettings
  cases hsettings
  decide +kernel

end ApiOutline.Command
