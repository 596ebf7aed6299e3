import ApiOutline.Command.Snapshot
import ApiOutline.Yaml.Meaning

/-!
# The command line

The outer layer of the command. It reads a snapshot from the standard input, does what its words ask
for, shows the lines of the journal on the standard error, writes the files that have changed and
prints the summary.
-/

namespace ApiOutline

open Command (Arguments Host Snapshot)

/-- The lines of the standard input up to its end. -/
partial def readLines (input : IO.FS.Stream) (lines : Array String) : IO (List String) := do
  let line ← input.getLine
  if line.isEmpty then return lines.toList
  else readLines input (lines.push line)

/-- The variables of the flags, as far as they are set. -/
def readEnvironment : IO Settings.Environment := do
  let flags : List Settings.Flag := [.strictSyntax, .contextualVisibility]
  flags.filterMapM fun flag => do
    return (← IO.getEnv flag.variable).map fun value => (flag.variable, value)

/-- A name for a run: twelve hexadecimal digits. -/
def newRunId : IO String := do
  let number ← IO.rand 0 0xFFFFFFFFFFFF
  let digits := Nat.toDigits 16 number
  return String.ofList (List.replicate (12 - digits.length) '0' ++ digits)

/-- Do what the arguments ask for on a snapshot. -/
def performOn (snapshot : Snapshot) (arguments : Arguments) : IO UInt32 := do
  let host : Host := ⟨← readEnvironment, snapshot.parse, Yaml.read, ← newRunId, snapshot.time⟩
  let (ending, world) := Command.perform host arguments ⟨snapshot.store, {}⟩
  for line in Command.logLines host arguments world.journal do
    IO.eprintln line
  for (directory, path, content) in snapshot.changes world.store do
    IO.FS.createDirAll directory
    IO.FS.writeBinFile path (ByteArray.mk content.toArray)
  match ending with
  | .error fault =>
    IO.eprintln (reprStr fault)
    return 1
  | .ok ending =>
    for line in ending.output do
      IO.println line
    return ending.exitCode.toUInt32

end ApiOutline

open ApiOutline in
/-- Take the words of the command line. -/
def main (words : List String) : IO UInt32 := do
  match Command.parse words with
  | .error fault =>
    IO.eprintln ("error: " ++ fault.message)
    return 2
  | .ok .help =>
    for switch in Command.Switch.all do
      IO.println (Text.joinStrings ", " switch.names)
    return 0
  | .ok (.map arguments) =>
    let workingDir := toString (← IO.currentDir)
    let lines ← readLines (← IO.getStdin) #[]
    match (Command.Snapshot.empty workingDir).addLines 1 lines with
    | .error number =>
      IO.eprintln s!"error: line {number} of the snapshot is not understood"
      return 2
    | .ok snapshot => performOn snapshot arguments
