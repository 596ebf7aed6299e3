import ApiOutline.Json.Basic
import ApiOutline.Syntax.Node

/-!
# Syntax trees as documents

A parser hands over a tree as a document: a node is an object with its type `t`, its range `s` and `e`
and, where they apply, its field `f`, the marks `a` of a node that carries no structure, `m` of a
missing one and `x` of one with an error at it or below, and its children `c`.
-/

namespace ApiOutline.Syntax

/-- The text of a field. -/
def textIn? (key : String) (fields : List (String × Json)) : Option String :=
  (Json.field? key fields).bind Json.text?

/-- The offset that a field gives. -/
def offsetIn? (key : String) (fields : List (String × Json)) : Option Nat :=
  match Json.field? key fields with
  | some (.int offset) => if offset < 0 then none else some offset.toNat
  | _ => none

mutual

/-- The tree that a document describes. -/
def Node.ofDocument? : Json → Option Node
  | .obj fields => do
    let type ← textIn? "t" fields
    let start ← offsetIn? "s" fields
    let stop ← offsetIn? "e" fields
    let children ← childrenIn? fields
    return { type, start, stop, children
             field := textIn? "f" fields
             named := (Json.field? "a" fields).isNone
             missing := (Json.field? "m" fields).isSome
             hasError := (Json.field? "x" fields).isSome }
  | _ => none

/-- The children that fields describe. -/
def childrenIn? : List (String × Json) → Option (List Node)
  | [] => some []
  | (key, value) :: fields =>
    if key = "c" then
      match value with
      | .arr items => nodesOf? items
      | _ => none
    else childrenIn? fields

/-- The trees that documents describe. -/
def nodesOf? : List Json → Option (List Node)
  | [] => some []
  | item :: items => do return (← Node.ofDocument? item) :: (← nodesOf? items)

end

end ApiOutline.Syntax
