import ApiOutline.Command.Switch

/-!
# Arguments of the command

The words of a command line are taken one after another. The first plain word that is no value of a
switch is the root; words left over are faults, which are reported after all others.
-/

namespace ApiOutline.Command

open Settings (OutputFormat)

/-- What the command is asked for. -/
structure Arguments where
  /-- The directory to map, if not the working directory. -/
  root : Option String := none
  outputFormat : Option OutputFormat := none
  outputDir : Option String := none
  config : Option String := none
  strictSyntax : Bool := false
  contextualVisibility : Bool := false
  reportDir : Option String := none
  verbose : Bool := false
deriving DecidableEq, Repr

/-- What a command line asks for: help, or work with some arguments. -/
inductive Request where
  | help
  | map (arguments : Arguments)
deriving DecidableEq, Repr

/-- The arguments with a switch that has no value. -/
def Arguments.turnOn (arguments : Arguments) : Switch → Arguments
  | .strictSyntax => { arguments with strictSyntax := true }
  | .contextualVisibility => { arguments with contextualVisibility := true }
  | .verbose => { arguments with verbose := true }
  | _ => arguments

/-- The arguments with a switch and its value. -/
def Arguments.set (arguments : Arguments) (switch : Switch) (value : String) :
    Except UsageFault Arguments :=
  match switch with
  | .format =>
    match OutputFormat.ofName? value with
    | some format => .ok { arguments with outputFormat := some format }
    | none => .error (.invalidFormat value)
  | .outputDir => .ok { arguments with outputDir := some value }
  | .config => .ok { arguments with config := some value }
  | .reportDir => .ok { arguments with reportDir := some value }
  | _ => .ok arguments

/-- The settings that the arguments give. A switch without a value can only turn a setting on. -/
def Arguments.overrides (arguments : Arguments) : Settings.Overrides where
  outputFormat := arguments.outputFormat
  outputDir := arguments.outputDir
  strictSyntax := if arguments.strictSyntax then some true else none
  contextualVisibility := if arguments.contextualVisibility then some true else none

/-- What is known while words are taken. -/
structure Progress where
  arguments : Arguments := {}
  /-- The root has been decided. -/
  rootTaken : Bool := false
  /-- Words left over. -/
  extras : List String := []

/-- Take plain words and the mark at the end, after all switches: the first plain word, before or
after the mark, is the root if there is none yet. -/
def takeLast (progress : Progress) (words : List Word) : Progress :=
  if progress.rootTaken then { progress with extras := progress.extras ++ words.map Word.text }
  else
    let words := match words with
      | .mark :: rest => rest
      | words => words
    match words with
    | [] => { progress with rootTaken := true }
    | first :: rest =>
      let rest := match first, rest with
        | .plain _, .mark :: more => more
        | _, rest => rest
      { progress with
        rootTaken := true
        arguments := { progress.arguments with root := some first.text }
        extras := progress.extras ++ rest.map Word.text }

/-- Take a plain word before a switch. -/
def takePlain (progress : Progress) (text : String) : Progress :=
  if progress.rootTaken then { progress with extras := progress.extras ++ [text] }
  else { progress with rootTaken := true, arguments := { progress.arguments with root := some text } }

/-- Whether a word is taken as a switch. -/
def Word.isSwitch : Word → Bool
  | .switch _ _ _ => true
  | .letters _ => true
  | .unknown _ => true
  | _ => false

/-- The letters after the short name of help stand for one switch each, all of which ask for help up to the first
other letter; what follows that one is not looked at. A dash, or an equals sign after a letter, starts a value,
and help has none. -/
def helpLetters : List Char → Except UsageFault Unit
  | [] => .ok ()
  | '-' :: rest => .error (.ignoredValue .help (String.ofList ('-' :: rest)))
  | 'h' :: '=' :: value => .error (.ignoredValue .help (String.ofList value))
  | 'h' :: rest => helpLetters rest
  | _ :: _ => .ok ()

/-- Take words from the first to the last. -/
def takeWords : List Word → Progress → Except UsageFault (Option Progress)
  | [], progress => .ok (some (takeLast progress []))
  | .unknown text :: rest, progress =>
    takeWords rest { progress with extras := progress.extras ++ [text] }
  | .switch switch _ (some value) :: rest, progress =>
    if switch.takesValue then do
      takeWords rest { progress with arguments := ← progress.arguments.set switch value }
    else .error (.ignoredValue switch value)
  | .letters letters :: _, _ => (helpLetters letters).map fun _ => none
  | .switch switch _ none :: rest, progress =>
    if switch = .help then .ok none
    else if switch.takesValue then
      match rest with
      | .plain value :: rest => do
        takeWords rest { progress with arguments := ← progress.arguments.set switch value }
      | _ => .error (.expectedValue switch)
    else takeWords rest { progress with arguments := progress.arguments.turnOn switch }
  | .plain text :: rest, progress =>
    if rest.any Word.isSwitch then takeWords rest (takePlain progress text)
    else .ok (some (takeLast progress (.plain text :: rest)))
  | .mark :: rest, progress => .ok (some (takeLast progress (.mark :: rest)))

/-- What a command line asks for. -/
def parse (line : List String) : Except UsageFault Request := do
  match ← takeWords (← wordsOf line) {} with
  | none => return .help
  | some progress =>
    if progress.extras.isEmpty then return .map progress.arguments
    else throw (.unrecognized progress.extras)

end ApiOutline.Command
