import ApiOutline.Journal.Record

/-!
# The console

A console shows the records that reach its threshold, once on each of its handlers. A handler shows
the bare text of a message until the console is configured; then it shows level, run, phase and
source in front of it. Configuring again changes the threshold and nothing else.
-/

namespace ApiOutline.Journal

/-- One place where records are shown. -/
structure Handler where
  /-- Show level, run, phase and source. -/
  structured : Bool := false
  /-- Number of filters that add run and phase to a record. -/
  filters : Nat := 0
deriving DecidableEq, Repr

/-- A handler after configuring: structured, with a filter. -/
def Handler.configured (handler : Handler) : Handler :=
  ⟨true, if handler.filters = 0 then 1 else handler.filters⟩

/-- The places where records are shown, from which level on, and for which run. -/
structure Console where
  threshold : Level := .warning
  handlers : List Handler := []
  runId : String := "-"

namespace Console

/-- Set the threshold and make all handlers structured; a console without any gets one. -/
def configure (console : Console) (level : Level) : Console :=
  let handlers := if console.handlers.isEmpty then [{}] else console.handlers
  { console with threshold := level, handlers := handlers.map Handler.configured }

/-- Name the run. -/
def setRun (console : Console) (runId : String) : Console :=
  { console with runId }

/-- The line of a record with all that is known about it. -/
def line (runId : String) (record : Record) : String :=
  record.message.level.name ++ " | run_id=" ++ runId ++ " | phase=" ++ record.phase ++ " | " ++
    record.message.source ++ " | " ++ record.message.text

/-- The lines that a console shows for a record. Without any handler, the bare text is shown from
warnings on. -/
def display (console : Console) (record : Record) : List String :=
  if !record.message.level.reaches console.threshold then []
  else if console.handlers.isEmpty then
    if record.message.level.reaches .warning then [record.message.text] else []
  else
    console.handlers.map fun handler =>
      if handler.structured then line console.runId record else record.message.text

end Console

end ApiOutline.Journal
