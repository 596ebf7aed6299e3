import ApiOutline.Settings.Basic
import ApiOutline.Text.Digit
import ApiOutline.Text.Quoted

/-!
# Switches of the command

The switches that the command knows, and how a word of the command line is taken: as a switch by its
name or by the start of its long name, perhaps with a value after an equals sign, or else as a plain
word. A word that looks like a switch and is none is kept as such.
-/

namespace ApiOutline.Command

/-- A switch of the command. -/
inductive Switch where
  | help
  | format
  | outputDir
  | config
  | strictSyntax
  | contextualVisibility
  | reportDir
  | verbose
deriving DecidableEq, Repr

namespace Switch

/-- All switches. -/
def all : List Switch :=
  [.help, .format, .outputDir, .config, .strictSyntax, .contextualVisibility, .reportDir, .verbose]

/-- The names of a switch. -/
def names : Switch → List String
  | .help => ["-h", "--help"]
  | .format => ["--format"]
  | .outputDir => ["--output-dir"]
  | .config => ["--config"]
  | .strictSyntax => ["--strict-syntax"]
  | .contextualVisibility => ["--contextual-visibility"]
  | .reportDir => ["--report-dir"]
  | .verbose => ["--verbose"]

/-- Whether a switch has a value. -/
def takesValue : Switch → Bool
  | .format | .outputDir | .config | .reportDir => true
  | .help | .strictSyntax | .contextualVisibility | .verbose => false

/-- All names with their switches. -/
def table : List (String × Switch) :=
  all.flatMap fun switch => switch.names.map fun name => (name, switch)

/-- The switch of a name. -/
def ofName? (name : String) : Option Switch :=
  table.lookup name

end Switch

/-- Why a command line is refused. -/
inductive UsageFault where
  /-- The start of a name belongs to several switches. -/
  | ambiguous (word : String) (names : List String)
  /-- The value of a switch is missing. -/
  | expectedValue (switch : Switch)
  /-- The value of the format is none. -/
  | invalidFormat (value : String)
  /-- A value is given for a switch that has none. -/
  | ignoredValue (switch : Switch) (value : String)
  /-- Words that mean nothing. -/
  | unrecognized (words : List String)
deriving DecidableEq, Repr

/-- The words that a fault of a switch starts with. -/
def Switch.lead (switch : Switch) : String :=
  "argument " ++ Text.joinStrings "/" switch.names ++ ": "

/-- The text of a fault. -/
def UsageFault.message : UsageFault → String
  | .ambiguous word names =>
    "ambiguous option: " ++ word ++ " could match " ++ Text.joinStrings ", " names
  | .expectedValue switch => switch.lead ++ "expected one argument"
  | .invalidFormat value =>
    let formats := Settings.OutputFormat.all.map fun format => Text.quoted format.name
    Switch.format.lead ++ "invalid choice: " ++ Text.quoted value ++ " (choose from " ++
      Text.joinStrings ", " formats ++ ")"
  | .ignoredValue switch value => switch.lead ++ "ignored explicit argument " ++ Text.quoted value
  | .unrecognized words => "unrecognized arguments: " ++ Text.joinStrings " " words

/-- A word of the command line. -/
inductive Word where
  /-- The mark after which every word is plain. -/
  | mark
  | plain (text : String)
  /-- A switch as it is written out, perhaps with a value after an equals sign. -/
  | switch (switch : Switch) (name : String) (value : Option String)
  /-- The short name of help with more letters after it. -/
  | letters (more : List Char)
  /-- A word that looks like a switch and is none. -/
  | unknown (text : String)
deriving DecidableEq, Repr

/-- The text before the first equals sign and the one after it. -/
def splitEquals? (word : List Char) : Option (String × String) :=
  match word.span (· != '=') with
  | (name, _ :: value) => some (String.ofList name, String.ofList value)
  | _ => none

/-- Whether a word is a negative number, in the digits of any script. One line feed at its end does not count. -/
def isNegativeNumber (word : List Char) : Bool :=
  match if word.getLast? = some '\n' then word.dropLast else word with
  | '-' :: rest =>
    let whole := rest.takeWhile Text.isDecimalDigit
    match rest.dropWhile Text.isDecimalDigit with
    | [] => !whole.isEmpty
    | '.' :: fraction => !fraction.isEmpty && fraction.all Text.isDecimalDigit
    | _ => false
  | _ => false

/-- The switches that a word can stand for by the start of a long name, or by a short name with more
after it, each with the name that it stands for. Only help has a short name. -/
def candidates (word : List Char) : List (String × Word) :=
  match word with
  | '-' :: '-' :: _ =>
    let (start, value) :=
      match splitEquals? word with
      | some (name, value) => (name.toList, some value)
      | none => (word, none)
    (Switch.table.filter fun entry => start.isPrefixOf entry.1.toList).map fun entry =>
      (entry.1, .switch entry.2 entry.1 value)
  | '-' :: letter :: rest =>
    Switch.table.filterMap fun entry =>
      if entry.1.toList = ['-', letter] then some (entry.1, .letters rest)
      else if word.isPrefixOf entry.1.toList then some (entry.1, .switch entry.2 entry.1 none)
      else none
  | _ => []

/-- The switch whose name is the word up to an equals sign. -/
def withEquals? (word : List Char) : Option Word := do
  let (name, value) ← splitEquals? word
  let switch ← Switch.ofName? name
  return .switch switch name (some value)

/-- How a word before the mark is taken. -/
def Word.of (word : String) : Except UsageFault Word :=
  let cs := word.toList
  if cs.head? ≠ some '-' then .ok (.plain word)
  else
    match Switch.ofName? word with
    | some found => .ok (.switch found word none)
    | none =>
      if cs.length = 1 then .ok (.plain word)
      else
        match withEquals? cs with
        | some taken => .ok taken
        | none =>
          match candidates cs with
          | [(_, taken)] => .ok taken
          | [] =>
            if isNegativeNumber cs || cs.contains ' ' then .ok (.plain word)
            else .ok (.unknown word)
          | several => .error (.ambiguous word (several.map (·.1)))

/-- How the words of a command line are taken. -/
def wordsOf : List String → Except UsageFault (List Word)
  | [] => .ok []
  | word :: rest =>
    if word = "--" then .ok (.mark :: rest.map .plain)
    else do return (← Word.of word) :: (← wordsOf rest)

/-- The text of a word as it is written. -/
def Word.text : Word → String
  | .mark => "--"
  | .plain text => text
  | .switch _ name none => name
  | .switch _ name (some value) => name ++ "=" ++ value
  | .letters more => "-h" ++ String.ofList more
  | .unknown text => text

end ApiOutline.Command
