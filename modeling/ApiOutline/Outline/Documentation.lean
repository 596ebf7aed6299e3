import ApiOutline.Doc.Comment
import ApiOutline.Doc.Summary
import ApiOutline.Outline.Fault
import ApiOutline.Syntax.Node

/-!
# Documentation of a declaration

The documentation of a declaration is the run of comments directly before it, in which each comment
ends at most one row before what follows it. Ordinary comments in the run are passed by.
-/

namespace ApiOutline.Outline

open Syntax (Node)
open Text (Bytes join)

/-- The documentation comments in the run that ends before `row`, in source order. `before` lists the
named siblings before the declaration, the nearest first. -/
def docCommentsFrom (source : Bytes) (row : Nat) : List Node → Except Fault (List (List Char))
  | [] => .ok []
  | sibling :: before =>
    if !sibling.isOf "comment" || row - sibling.stopRow source > 1 then .ok []
    else do
      let text ← (sibling.text source).mapError Fault.notUtf8
      let comments ← docCommentsFrom source (sibling.startRow source) before
      return if Doc.isDocComment text then comments ++ [text] else comments

/-- The documentation comments of a node with the named siblings before it, the nearest first. -/
def docComments (source : Bytes) (before : List Node) (node : Node) :
    Except Fault (List (List Char)) :=
  docCommentsFrom source (node.startRow source) before

/-- The body of several comments: each without its marks. -/
def docBody (comments : List (List Char)) : List Char :=
  join ['\n'] (comments.map Doc.clean)

/-- The short summary of the documentation of a node. -/
def docSummary (source : Bytes) (before : List Node) (node : Node) : Walked (Option String) := do
  let comments ← .lift (docComments source before node)
  if comments.isEmpty then return none
  let body := docBody comments
  .leave (if Doc.usesRawText body then [.rawSummary] else [])
  let summary ← .lift ((Doc.summarize body).mapError .tooManyDigits)
  return summary.map String.ofList

end ApiOutline.Outline
