import ApiOutline.Command.Arguments
import ApiOutline.Journal.Console
import ApiOutline.Run.Run
import ApiOutline.Settings.Load

/-!
# The command

The command puts its settings together, runs, and writes a report if it is asked for one. Settings
that are refused and a root that is no directory end it with a message; other faults end it as they
are.
-/

namespace ApiOutline.Command

open Files (Store StoreFault)
open Journal (Message Level Console)
open Run (RunFault RunResult World)
open Settings (Environment LoadFault YamlReader)
open Syntax (Node)
open Text (Bytes)

/-- The settings for some arguments: the built-in ones, the settings file, the environment and the
arguments, each over the one before. -/
def settingsFor (readYaml : YamlReader) (store : Store) (environment : Environment)
    (arguments : Arguments) : Settings.Loading Settings := do
  let base : Settings := { outputDir := Files.joinPaths store.workingDir.text "codebase_ast" }
  let loaded ←
    match arguments.config with
    | none => pure base
    | some path => if path.isEmpty then pure base else Settings.load readYaml store path base
  return (loaded.withEnvironment environment).override arguments.overrides

/-- What the command is given besides its words. -/
structure Host where
  environment : Environment
  /-- The tree of the bytes of a source. -/
  parse : Bytes → Node
  /-- What reads a settings file that is not JSON. -/
  readYaml : YamlReader
  /-- The name of the run. -/
  runId : String
  /-- The time of the run. -/
  timestamp : String

/-- Why the command breaks off. -/
inductive CommandFault where
  | load (fault : LoadFault)
  | run (fault : RunFault)
  /-- The report has a path that is not one. -/
  | nullCharacter
  /-- The report or the summary has a number with more digits than are written. -/
  | unwritable
deriving DecidableEq, Repr

/-- A message of the command. -/
def message (level : Level) (text : String) : Message :=
  ⟨level, "run_codemap", text⟩

/-- How the command ended: its exit code and the lines of its output. -/
structure Ending where
  exitCode : Nat
  output : List String := []
deriving DecidableEq, Repr

/-- Write the report of a run if a directory for it is given. -/
def reportRun (host : Host) (arguments : Arguments) (settings : Settings) (result : RunResult)
    (world : World) : Except CommandFault Unit × World :=
  match arguments.reportDir with
  | none => (.ok (), world)
  | some directory =>
    if directory.isEmpty then (.ok (), world)
    else
      let (outcome, store) := Run.writeReport world.store .nowhere (result.report settings) host.runId
        host.timestamp directory
      let subject := world.store.writeSubject (Run.reportPath directory host.runId)
      let world := { world with store }
      match outcome with
      | .ok path => (.ok (), world.say (message .info ("Run report written to " ++ path)))
      | .error .unwritable => (.error .unwritable, world)
      | .error (.store .nullCharacter) => (.error .nullCharacter, world)
      | .error (.store fault) =>
        (.ok (), world.say (message .error ("Failed to write run report: " ++ fault.message subject)))

/-- Run with settings and report. -/
def runWith (host : Host) (arguments : Arguments) (settings : Settings) (world : World) :
    Except CommandFault Ending × World :=
  let root := arguments.root.getD world.store.workingDir.text
  let shown (path : String) := (world.store.locate path).text
  let world := ((world.say (message .info ("Root directory   : " ++ shown root))).say
    (message .info ("Output format    : " ++ settings.outputFormat.name))).say
    (message .info ("Output directory : " ++ shown settings.outputDir))
  match Run.run host.parse settings root world with
  | (.error (.discovery (.notDirectory path)), world) =>
    let text := (Discovery.DiscoveryFault.notDirectory path).message
    (.ok ⟨1, []⟩, world.say (message .error ("File error: " ++ text)))
  | (.error fault, world) => (.error (.run fault), world)
  | (.ok result, world) =>
    match reportRun host arguments settings result world with
    | (.error fault, world) => (.error fault, world)
    | (.ok (), world) =>
      match Run.summaryLine result.summary with
      | .error _ => (.error .unwritable, world)
      | .ok line => (.ok ⟨0, [line]⟩, world)

/-- Do what the arguments ask for. -/
def perform (host : Host) (arguments : Arguments) (world : World) :
    Except CommandFault Ending × World :=
  let settings := settingsFor host.readYaml world.store host.environment arguments
  let world := { world with journal := world.journal.sayAll settings.notes }
  match settings.outcome with
  | .error (.refused fault) =>
    (.ok ⟨1, []⟩, world.say (message .error ("Configuration error: " ++ fault.message)))
  | .error fault => (.error (.load fault), world)
  | .ok settings => runWith host arguments settings world

/-- The console of the command: one handler that shows all messages, or all but those for
debugging. -/
def consoleFor (host : Host) (arguments : Arguments) : Console :=
  (({} : Console).configure (if arguments.verbose then .debug else .info)).setRun host.runId

/-- The lines that the command shows for its records. -/
def logLines (host : Host) (arguments : Arguments) (journal : Journal) : List String :=
  journal.records.flatMap (consoleFor host arguments).display

end ApiOutline.Command
