/-!
# Records

Parts of the program report what they do by messages, each with a level and the name of the part.
The journal stamps a message with the phase of the work it comes from and keeps it as a record.
Phases nest: work inside a phase leaves the phase as it found it, also when it fails.
-/

namespace ApiOutline.Journal

/-- How much a message matters. -/
inductive Level where
  | debug
  | info
  | warning
  | error
deriving DecidableEq, Repr, Inhabited

namespace Level

/-- The rank of a level; more matters more. -/
def rank : Level → Nat
  | .debug => 10
  | .info => 20
  | .warning => 30
  | .error => 40

/-- The name of a level. -/
def name : Level → String
  | .debug => "DEBUG"
  | .info => "INFO"
  | .warning => "WARNING"
  | .error => "ERROR"

/-- The level of a name. -/
def ofName? : String → Option Level
  | "DEBUG" => some .debug
  | "INFO" => some .info
  | "WARNING" => some .warning
  | "ERROR" => some .error
  | _ => none

/-- Whether a message of a level is shown from a threshold on. -/
def reaches (level threshold : Level) : Bool :=
  threshold.rank ≤ level.rank

theorem ofName?_name (level : Level) : ofName? level.name = some level := by
  cases level <;> rfl

end Level

/-- What a part of the program has to say. -/
structure Message where
  level : Level
  /-- The part of the program. -/
  source : String
  text : String
deriving DecidableEq, Repr

/-- A message with the phase it was said in. -/
structure Record where
  phase : String
  message : Message
deriving DecidableEq, Repr

end ApiOutline.Journal

namespace ApiOutline

open Journal (Message Record)

/-- The records of the work done so far and the phases that the work is in, the innermost first. -/
structure Journal where
  phases : List String := []
  records : List Record := []

namespace Journal

/-- The phase that records are stamped with. -/
def phase (journal : Journal) : String :=
  journal.phases.headD "-"

/-- Keep a message. -/
def say (journal : Journal) (message : Message) : Journal :=
  { journal with records := journal.records ++ [⟨journal.phase, message⟩] }

/-- Keep messages in turn. -/
def sayAll (journal : Journal) (messages : List Message) : Journal :=
  { journal with records := journal.records ++ messages.map (⟨journal.phase, ·⟩) }

/-- Enter a phase. -/
def enter (journal : Journal) (phase : String) : Journal :=
  { journal with phases := phase :: journal.phases }

/-- Leave the innermost phase. -/
def leave (journal : Journal) : Journal :=
  { journal with phases := journal.phases.tail }

@[simp]
theorem phases_say (journal : Journal) (message : Message) :
    (journal.say message).phases = journal.phases := rfl

@[simp]
theorem phases_sayAll (journal : Journal) (messages : List Message) :
    (journal.sayAll messages).phases = journal.phases := rfl

@[simp]
theorem leave_enter (journal : Journal) (phase : String) : (journal.enter phase).leave = journal := rfl

end Journal

end ApiOutline
