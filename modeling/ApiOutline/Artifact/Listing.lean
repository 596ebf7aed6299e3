import ApiOutline.Number.Decimal
import ApiOutline.Outline.Member
import ApiOutline.Text.Lines

/-!
# The text artifact

A project as text: a line with its totals, and for each file its path and one line per member, each
level of nesting two spaces deeper. A member's line has its kind in brackets, its signature, and then
its base types, attributes, line and documentation, as far as it has them. There is no such text for a
project with a number that has too many digits.
-/

namespace ApiOutline.Artifact

open Number (ofInt isWritable Unwritable)
open Outline (Kind Member FileMap Project Totals)
open Text (join)

/-- The line with the totals. -/
def totalsLine (totals : Totals) : List Char :=
  "# Summary: files=".toList ++ ofInt totals.files ++
    " namespaces=".toList ++ ofInt totals.counts.namespaces ++
    " types=".toList ++ ofInt totals.counts.types ++
    " methods=".toList ++ ofInt totals.counts.methods

/-- The tag of a member: its kind, and whether it is static. -/
def tag (kind : Kind) (isStatic : Bool) : List Char :=
  '[' :: kind.name.toList ++ (if isStatic then ":static".toList else []) ++ [']']

/-- What follows the signature of a member on its line. -/
def details (member : Member) : List Char :=
  let bases := join ", ".toList (member.baseTypes.map String.toList)
  let attributes := join ", ".toList (member.attributes.map String.toList)
  (if member.baseTypes.isEmpty then [] else " : ".toList ++ bases) ++
    (if member.attributes.isEmpty then [] else " [".toList ++ attributes ++ [']']) ++
    (match member.line with
      | none => []
      | some line => " :".toList ++ ofInt line) ++
    (match member.doc with
      | none => []
      | some doc => if doc.isEmpty then [] else " // ".toList ++ doc.toList)

/-- The line of a member at the given depth. -/
def memberLine (member : Member) (depth : Nat) : List Char :=
  List.replicate (2 * depth) ' ' ++ tag member.kind member.isStatic ++
    ' ' :: member.signature.toList ++ details member

mutual

/-- The lines of a member and of all that is nested in it. -/
def memberLines (depth : Nat) : Member → List (List Char)
  | ⟨kind, signature, line, isStatic, doc, baseTypes, attributes, children⟩ =>
    memberLine ⟨kind, signature, line, isStatic, doc, baseTypes, attributes, children⟩ depth ::
      forestLines (depth + 1) children

/-- The lines of a forest. -/
def forestLines (depth : Nat) : List Member → List (List Char)
  | [] => []
  | member :: members => memberLines depth member ++ forestLines depth members

end

/-- The lines of a file: its path, its members and an empty line. -/
def fileLines (file : FileMap) : List (List Char) :=
  ("# ".toList ++ file.path.toList) :: forestLines 1 file.members ++ [[]]

/-- The lines of a project. -/
def projectLines (project : Project) : List (List Char) :=
  totalsLine project.totals :: [] :: project.files.flatMap fileLines

/-- Whether all totals can be written. -/
def totalsWritable (totals : Totals) : Bool :=
  isWritable totals.files && isWritable totals.counts.namespaces && isWritable totals.counts.types &&
    isWritable totals.counts.methods

mutual

/-- Whether the line numbers of a member and of all that is nested in it can be written. -/
def memberWritable : Member → Bool
  | ⟨_, _, line, _, _, _, _, children⟩ => line.all isWritable && forestWritable children

/-- Whether the line numbers of a forest can be written. -/
def forestWritable : List Member → Bool
  | [] => true
  | member :: members => memberWritable member && forestWritable members

end

/-- Whether all numbers of a project can be written. -/
def numbersWritable (project : Project) : Bool :=
  totalsWritable project.totals && project.files.all fun file => forestWritable file.members

/-- The lines of a project as one text; each ends with a line feed. -/
def listingText (project : Project) : String :=
  String.ofList (join ['\n'] (projectLines project) ++ ['\n'])

/-- The text artifact of a project, if its numbers can be written. -/
def renderText (project : Project) : Except Unwritable String :=
  if numbersWritable project then .ok (listingText project) else .error {}

end ApiOutline.Artifact
