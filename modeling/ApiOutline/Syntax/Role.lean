import ApiOutline.Outline.Kind
import ApiOutline.Syntax.Node

/-!
# What nodes mean to an outline

Most nodes of a syntax tree mean nothing to an outline. `Role.of` tells by its type whether a node is
a namespace of either form, a declaration of one of the other kinds, or a container whose contents
belong to the node around it.
-/

namespace ApiOutline.Syntax

open Outline (Kind)

/-- The part that a node plays in an outline. -/
inductive Role where
  /-- `namespace A.B { … }`. -/
  | blockNamespace
  /-- `namespace A.B;`, which holds the rest of its container. -/
  | fileNamespace
  /-- A declaration of a type or of a member of a type. -/
  | declaration (kind : Kind)
  /-- A body or a region of conditional compilation. -/
  | transparent
  | other
deriving DecidableEq, Repr

/-- The types of declarations. -/
def declarationTypes : List (String × Kind) :=
  [("class_declaration", .classType), ("interface_declaration", .interfaceType),
    ("record_declaration", .record), ("enum_declaration", .enumeration),
    ("constructor_declaration", .constructor), ("method_declaration", .method),
    ("property_declaration", .property)]

/-- The types of containers whose contents belong to the node around. -/
def transparentTypes : List String :=
  ["declaration_list", "preproc_if", "preproc_elif", "preproc_else", "preproc_region"]

/-- The role of nodes of a type. -/
def Role.of (type : String) : Role :=
  if type = "namespace_declaration" then .blockNamespace
  else if type = "file_scoped_namespace_declaration" then .fileNamespace
  else
    match declarationTypes.lookup type with
    | some kind => .declaration kind
    | none => if type ∈ transparentTypes then .transparent else .other

/-- The role of a node. -/
def Node.role (node : Node) : Role :=
  .of node.type

/-- The kind of declaration that a role stands for. -/
def Role.kind? : Role → Option Kind
  | .blockNamespace => some .nameSpace
  | .fileNamespace => some .nameSpace
  | .declaration kind => some kind
  | _ => none

end ApiOutline.Syntax
