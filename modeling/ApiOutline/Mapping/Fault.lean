import ApiOutline.Files.Store
import ApiOutline.Outline.Fault
import ApiOutline.Text.Quoted

/-!
# Faults of mapping files

A fault of one file leaves that file out of its project. Other faults stop all work.
-/

namespace ApiOutline.Mapping

open Files (StoreFault)

/-- Why a file is left out. -/
inductive FileCause where
  | unreadable (fault : StoreFault)
  /-- The content is not UTF-8. -/
  | notUtf8 (fault : Text.Utf8.Fault)
  /-- The tree has faulty nodes, and these are not accepted. -/
  | syntaxErrors (count : Nat)
  /-- The text of a node is not UTF-8. -/
  | badText (fault : Text.Utf8.Fault)
  /-- A documentation comment refers to a character by too long a number. -/
  | tooManyDigits (fault : Number.TooManyDigits)
deriving DecidableEq, Repr

/-- The text of a cause for the file at a path. -/
def FileCause.message (path : String) : FileCause → String
  | .unreadable fault => "cannot read file: " ++ fault.message (Text.quoted path)
  | .notUtf8 fault => "file is not valid UTF-8: " ++ fault.message
  | .syntaxErrors count => s!"source contains {count} syntax error(s)"
  | .badText fault => "traversal failed: " ++ fault.message
  | .tooManyDigits fault => "traversal failed: " ++ fault.message

/-- A file that is left out, and why. -/
structure FileFault where
  path : String
  cause : FileCause
deriving DecidableEq, Repr

/-- Why the file is left out. -/
def FileFault.reason (fault : FileFault) : String :=
  fault.cause.message fault.path

/-- The text of a fault. -/
def FileFault.message (fault : FileFault) : String :=
  fault.path ++ ": " ++ fault.reason

/-- Why a source cannot be mapped. -/
inductive MapFault where
  /-- The file is left out. -/
  | file (fault : FileFault)
  /-- The tree cannot be mapped. -/
  | tree (fault : Outline.Fault)
  /-- The path is not one. -/
  | nullCharacter
deriving DecidableEq, Repr

/-- The fault of the tree of a file, as seen by the project: only a missing base type stops all. A host that runs
out of stack in a very deep tree leaves that file out too, with the text `traversal failed: ` and its own words;
no limit of the stack is part of the outline, so no fault stands for it here. -/
def MapFault.ofTree (path : String) : Outline.Fault → MapFault
  | .notUtf8 fault => .file ⟨path, .badText fault⟩
  | .tooManyDigits fault => .file ⟨path, .tooManyDigits fault⟩
  | .noBaseType => .tree .noBaseType

end ApiOutline.Mapping
