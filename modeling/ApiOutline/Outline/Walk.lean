import ApiOutline.Outline.Documentation
import ApiOutline.Outline.Member
import ApiOutline.Outline.Signature
import ApiOutline.Outline.Visibility
import ApiOutline.Syntax.Errors
import ApiOutline.Syntax.Role

/-!
# From a syntax tree to an outline

The walk looks at the named nodes of a container in source order. A declaration that is visible
becomes a member; inside a type the walk goes on in its body. A declaration that is not visible is
passed by with all that is in it. Transparent containers are walked as part of the container around
them. A namespace for the rest of the file takes all that follows it in its container.

The walk is a structural recursion on nodes and lists of nodes. `before` always lists the named
siblings before the node at hand, the nearest first, in which its comments are found.
-/

namespace ApiOutline.Outline

open Syntax (Node)
open Text (Bytes)

/-- What the walk is about: the source of the tree, and whether visibility depends on context. -/
structure Setting where
  source : Bytes
  contextual : Bool

/-- The member of a namespace with the given contents. -/
def namespaceMember (source : Bytes) (node : Node) (children : List Member) :
    Except Fault Member := do
  let signature ← signatureOf source node .nameSpace
  return {
    kind := .nameSpace
    signature := String.ofList signature
    line := some (node.line source)
    children }

/-- The member of a declaration with the given modifiers and contents. -/
def declarationMember (source : Bytes) (before : List Node) (node : Node) (kind : Kind)
    (modifiers : List String) (children : List Member) : Walked Member := do
  let bases ← .lift (if kind.showsBaseTypes then baseTypes source node else .ok [])
  let signature ← .lift (signatureOf source node kind)
  let doc ← docSummary source before node
  let attributes ← .lift (attributesOf source node)
  return {
    kind
    signature := String.ofList signature
    line := some (node.line source)
    isStatic := isStatic modifiers
    doc
    baseTypes := bases
    attributes
    children }

/-- Which child is the body of a node with the given children: the one in its field, or else the
first list of declarations. -/
def isBodyAmong (children : List Node) : Node → Bool :=
  if children.any (Node.fills "body") then Node.fills "body" else Node.isOf "declaration_list"

mutual

/-- The members that a node stands for, inside a declaration of kind `parent` if any. -/
def walkNode (setting : Setting) (parent : Option Kind) (before : List Node) :
    Node → Walked (List Member)
  | ⟨type, start, stop, field, named, missing, hasError, children⟩ =>
    let node : Node := ⟨type, start, stop, field, named, missing, hasError, children⟩
    match Syntax.Role.of type with
    | .blockNamespace => do
      let inner ← walkBody setting (some .nameSpace) (isBodyAmong children) children
      let member ← .lift (namespaceMember setting.source node inner)
      return [member]
    | .declaration kind => do
      let modifiers ← .lift (modifiersOf setting.source node)
      if isVisibleIn modifiers parent setting.contextual then
        let inner ←
          if kind.canNest then walkBody setting (some kind) (isBodyAmong children) children
          else pure []
        let member ← declarationMember setting.source before node kind modifiers inner
        return [member]
      else
        .leave [.hidden kind (node.line setting.source)]
        return []
    | .transparent => walkFrom setting parent [] children
    | .fileNamespace => pure []
    | .other => pure []

/-- The members in the first of the nodes that is the body; none if there is no body. -/
def walkBody (setting : Setting) (parent : Option Kind) (isBody : Node → Bool) :
    List Node → Walked (List Member)
  | [] => pure []
  | node :: nodes =>
    if isBody node then walkInside setting parent node
    else walkBody setting parent isBody nodes

/-- The members inside a container. -/
def walkInside (setting : Setting) (parent : Option Kind) : Node → Walked (List Member)
  | ⟨_, _, _, _, _, _, _, children⟩ => walkFrom setting parent [] children

/-- The members among the rest of the nodes of a container. -/
def walkFrom (setting : Setting) (parent : Option Kind) (before : List Node) :
    List Node → Walked (List Member)
  | [] => pure []
  | node :: nodes =>
    if !node.named then walkFrom setting parent before nodes
    else if node.role = .fileNamespace then do
      let inner ← walkInside setting (some .nameSpace) node
      let following ← walkRest setting (node :: before) nodes
      let member ← .lift (namespaceMember setting.source node (inner ++ following))
      return [member]
    else do
      let members ← walkNode setting parent before node
      let following ← walkFrom setting parent (node :: before) nodes
      return members ++ following

/-- The members that follow a namespace for the rest of the file. -/
def walkRest (setting : Setting) (before : List Node) : List Node → Walked (List Member)
  | [] => pure []
  | node :: nodes =>
    if !node.named then walkRest setting before nodes
    else do
      let members ← walkNode setting (some .nameSpace) before node
      let following ← walkRest setting (node :: before) nodes
      return members ++ following

end

/-- The members of a whole tree. -/
def walkTree (setting : Setting) (root : Node) : Walked (List Member) :=
  walkInside setting none root

/-- The outline of a file: its members under its path, or nothing if it has none. -/
def mapTree (setting : Setting) (path : String) (root : Node) : Walked (Option FileMap) := do
  let members ← walkTree setting root
  return if members.isEmpty then none else some ⟨path, members⟩

end ApiOutline.Outline
