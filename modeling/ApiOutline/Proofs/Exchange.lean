import ApiOutline.Proofs.Placement

/-!
# What is read of a node

The text of a node, its type and its field are those of its `face`: none of them depends on its children.
What the outline says of a declaration depends on the faces of its children, its `shape`, and on what is in
the lists of attributes, base types and enumerated names among them, which are read through the shapes of
their entries. Everything else comes from the body.

The lemmas here say so in the form in which it is used: one child of a node is exchanged for another one with
the same face. The node is then read as before if the two children are, as far as anything below them is read
at all (`placeNode_exchange`, `placeFrom_set`).
-/

namespace ApiOutline.Syntax

namespace Node

/-- A node without its children. -/
def face (node : Node) : Node :=
  { node with children := [] }

/-- A node with its children, but without what is below them. -/
def shape (node : Node) : Node :=
  { node with children := node.children.map face }

/-- A node with another child at a position. -/
def exchange (node : Node) (i : Nat) (child : Node) : Node :=
  { node with children := node.children.set i child }

variable {node other child new : Node} {i : Nat}

/-- Exchanging a child does not change what is read of the node itself. -/
@[simp]
theorem exchange_face (node : Node) (i : Nat) (child : Node) : (node.exchange i child).face = node.face :=
  rfl

@[simp]
theorem exchange_children (node : Node) (i : Nat) (child : Node) :
    (node.exchange i child).children = node.children.set i child := rfl

/-- What does not depend on children is the same for nodes with the same face. -/
theorem of_face {α : Type} (read : Node → α) (hread : ∀ node, read node.face = read node)
    (h : other.face = node.face) : read other = read node := by
  rw [← hread other, h, hread node]

/-- The role of a node is read from its face. -/
theorem role_of_face (h : other.face = node.face) : other.role = node.role :=
  of_face role (fun _ => rfl) h

/-- So is whether it is named. -/
theorem named_of_face (h : other.face = node.face) : other.named = node.named :=
  of_face named (fun _ => rfl) h

/-- So is its type. -/
theorem isOf_of_face (h : other.face = node.face) (type : String) : other.isOf type = node.isOf type :=
  of_face (isOf type) (fun _ => rfl) h

/-- So is its field. -/
theorem fills_of_face (h : other.face = node.face) (field : String) : other.fills field = node.fills field :=
  of_face (fills field) (fun _ => rfl) h

/-- The face of a node is part of its shape. -/
theorem face_of_shape (h : other.shape = node.shape) : other.face = node.face := by
  have hface : other.shape.face = node.shape.face := by rw [h]
  exact hface

/-- The faces of a list stay as they are when a node is exchanged for one with the same face. -/
theorem map_face_set {nodes : List Node} (hchild : nodes[i]? = some child) (hface : new.face = child.face) :
    (nodes.set i new).map face = nodes.map face := by
  -- The new face is the one that the list has at that position already.
  have hsame : (nodes.map face)[i]? = some new.face := by rw [List.getElem?_map, hchild, hface]; rfl
  obtain ⟨hlt, hget⟩ := List.getElem?_eq_some_iff.1 hsame
  rw [List.map_set, ← hget, List.set_getElem_self]

/-- The shape of a node stays as it is when a child is exchanged for one with the same face. -/
theorem shape_exchange (hchild : node.children[i]? = some child) (hface : new.face = child.face) :
    (node.exchange i new).shape = node.shape := by
  simp only [shape, exchange, map_face_set hchild hface]

/-- The named children of a shape. -/
theorem namedChildren_shape (node : Node) : node.shape.namedChildren = node.namedChildren.map face := by
  simp only [namedChildren, shape, List.filter_map]
  rfl

/-- The child in a field, in the shape. -/
theorem childIn?_shape (node : Node) (field : String) :
    node.shape.childIn? field = (node.childIn? field).map face := by
  simp only [childIn?, shape, List.find?_map]
  rfl

/-- The child of a type, in the shape. -/
theorem childOf?_shape (node : Node) (type : String) :
    node.shape.childOf? type = (node.childOf? type).map face := by
  simp only [childOf?, shape, List.find?_map]
  rfl

/-- The shapes of the named children stay as they are when a child is exchanged for one of the same shape. -/
theorem map_shape_namedChildren_exchange (hchild : node.children[i]? = some child)
    (hshape : new.shape = child.shape) :
    (node.exchange i new).namedChildren.map shape = node.namedChildren.map shape := by
  have hnamed : ∀ nodes : List Node, (nodes.filter (·.named)).map shape =
      (nodes.map shape).filter (·.named) := by
    intro nodes
    rw [List.filter_map]
    rfl
  -- The new shape is the one that the list has at that position already.
  have hsame : (node.children.map shape)[i]? = some new.shape := by
    rw [List.getElem?_map, hchild, hshape]
    rfl
  obtain ⟨hlt, hget⟩ := List.getElem?_eq_some_iff.1 hsame
  simp only [namedChildren, hnamed, exchange, List.map_set]
  rw [← hget, List.set_getElem_self]

end Node

end ApiOutline.Syntax

namespace ApiOutline.Outline

open Syntax (Node Path)
open Text (Bytes)

/-! ## What depends on faces and shapes only -/

section Readings

variable (source : Bytes)

/-- The text of a child is that of its face. -/
theorem lineOf?_face (child : Option Node) : lineOf? source (child.map Node.face) = lineOf? source child := by
  cases child <;> rfl

/-- The name of a node is read from its shape. -/
theorem nameOf_shape (node : Node) : nameOf source node.shape = nameOf source node := by
  rw [nameOf, nameOf, Node.childIn?_shape, lineOf?_face]

/-- The parameters are found in the shape. -/
theorem parameters?_shape (node : Node) : parameters? node.shape = (parameters? node).map Node.face := by
  rw [parameters?, parameters?, Node.childIn?_shape, Node.childOf?_shape, Option.map_or]

/-- All signatures but those of enumerations depend on the shape only. -/
theorem signatureOf_shape (node : Node) {kind : Kind} (hkind : kind ≠ .enumeration) :
    signatureOf source node.shape kind = signatureOf source node kind := by
  have htype : lineOf? source ((node.shape.childIn? "returns").or (node.shape.childIn? "type")) =
      lineOf? source ((node.childIn? "returns").or (node.childIn? "type")) := by
    rw [Node.childIn?_shape, Node.childIn?_shape, ← Option.map_or, lineOf?_face]
  cases kind with
  | enumeration => exact absurd rfl hkind
  | nameSpace | classType | interfaceType => exact nameOf_shape source node
  | record | constructor =>
    simp only [signatureOf, callableSignature, nameOf_shape, parameters?_shape, lineOf?_face]
  | method =>
    simp only [signatureOf, methodSignature, nameOf_shape, parameters?_shape, lineOf?_face, htype]
  | property =>
    simp only [signatureOf, propertySignature, nameOf_shape, Node.childIn?_shape, lineOf?_face]

/-- Modifiers are read from the faces of the children. -/
theorem modifierTexts_face (nodes : List Node) :
    modifierTexts source (nodes.map Node.face) = modifierTexts source nodes := by
  induction nodes with
  | nil => rfl
  | cons node nodes ih =>
    rw [List.map_cons, modifierTexts, modifierTexts, ih]
    rfl

/-- Names are read through the shapes of the nodes. -/
theorem namesOf_shape (type : String) (nodes : List Node) :
    namesOf source (Node.isOf type) (nodes.map Node.shape) = namesOf source (Node.isOf type) nodes := by
  induction nodes with
  | nil => rfl
  | cons node nodes ih =>
    rw [List.map_cons, namesOf, namesOf, nameOf_shape, ih]
    rfl

/-- A step that starts with finding a node and then reads its face only. -/
theorem bind_face {β : Type} (found : Except Fault Node) {read : Node → Except Fault β}
    (hread : ∀ node, read node.face = read node) : found >>= read = found.map Node.face >>= read := by
  cases found with
  | error fault => rfl
  | ok node => exact (hread node).symm

/-- The node that names a base type is found in the shape of the entry. -/
theorem baseNode_shape (entry : Node) :
    (baseNode entry.shape).map Node.face = (baseNode entry).map Node.face := by
  have hprimary : entry.shape.isOf "primary_constructor_base_type" =
      entry.isOf "primary_constructor_base_type" := rfl
  rw [baseNode, baseNode, Node.childIn?_shape, Node.namedChildren_shape, List.head?_map, ← Option.map_or,
    hprimary]
  split_ifs
  · cases (entry.childIn? "type").or entry.namedChildren.head? <;> rfl
  · rfl

/-- An entry of a list of base types is read through its face and that of the node that names it. -/
theorem baseNames_cons {entry other : Node} {entries others : List Node} (hface : other.face = entry.face)
    (hbase : (baseNode other).map Node.face = (baseNode entry).map Node.face)
    (hrest : baseNames source others = baseNames source entries) :
    baseNames source (other :: others) = baseNames source (entry :: entries) := by
  rw [baseNames, baseNames, hrest, Node.isOf_of_face hface, Node.isOf_of_face hface,
    bind_face (baseNode other) (fun _ => rfl), hbase, ← bind_face (baseNode entry) (fun _ => rfl)]

/-- Base types are read through the shapes of the entries. -/
theorem baseNames_shape (entries : List Node) :
    baseNames source (entries.map Node.shape) = baseNames source entries := by
  induction entries with
  | nil => rfl
  | cons entry entries ih => exact baseNames_cons source rfl (baseNode_shape entry) ih

/-- Documentation comments are read through the faces of the siblings before. -/
theorem docCommentsFrom_face (row : Nat) (before : List Node) :
    docCommentsFrom source row (before.map Node.face) = docCommentsFrom source row before := by
  induction before generalizing row with
  | nil => rfl
  | cons sibling before ih =>
    rw [List.map_cons, docCommentsFrom, docCommentsFrom, ih]
    rfl

end Readings

/-! ## Readings of a node with an exchanged child -/

section Lists

variable {α : Type} {xs : List α} {test : α → Bool} {x y : α} {i : Nat}

/-- The first item that passes a test is the exchanged one if that is where the first one was. -/
theorem find?_set_of_findIdx? (hx : xs[i]? = some x) (htest : test y = test x)
    (hfirst : xs.findIdx? test = some i) : xs.find? test = some x ∧ (xs.set i y).find? test = some y := by
  induction xs generalizing i with
  | nil => cases hx
  | cons z xs ih =>
    rw [List.findIdx?_cons] at hfirst
    cases i with
    | zero =>
      cases hx
      by_cases hx : test x = true
      · simp [htest, hx]
      · simp [hx] at hfirst
    | succ i =>
      by_cases hz : test z = true
      · simp [hz] at hfirst
      · have hrest : xs.findIdx? test = some i := by simpa [hz] using hfirst
        simpa [hz] using ih hx hrest

/-- The first item that passes a test is the same as before if another one is exchanged. -/
theorem find?_set_of_ne (hx : xs[i]? = some x) (htest : test y = test x)
    (hfirst : xs.findIdx? test ≠ some i) : (xs.set i y).find? test = xs.find? test := by
  induction xs generalizing i with
  | nil => rfl
  | cons z xs ih =>
    rw [List.findIdx?_cons] at hfirst
    cases i with
    | zero =>
      cases hx
      by_cases hx : test x = true
      · simp [hx] at hfirst
      · rw [List.set_cons_zero, List.find?_cons_of_neg (by rwa [htest]), List.find?_cons_of_neg hx]
    | succ i =>
      by_cases hz : test z = true
      · simp [hz]
      · have hrest : xs.findIdx? test ≠ some i := by simpa [hz] using hfirst
        simpa [hz] using ih hx hrest

end Lists

/-- The position of the list of the names of an enumeration. -/
def enumIndex? (node : Node) : Option Nat :=
  (node.children.findIdx? (Node.fills "body")).or
    (node.children.findIdx? (Node.isOf "enum_member_declaration_list"))

section Exchange

variable {source : Bytes} {node child new : Node} {i : Nat}
  (hchild : node.children[i]? = some child) (hface : new.face = child.face)

include hchild hface

/-- Modifiers are as before. -/
theorem modifiersOf_exchange : modifiersOf source (node.exchange i new) = modifiersOf source node := by
  rw [modifiersOf, modifiersOf, ← modifierTexts_face, Node.exchange_children,
    Node.map_face_set hchild hface, modifierTexts_face]

/-- The name is as before. -/
theorem nameOf_exchange : nameOf source (node.exchange i new) = nameOf source node := by
  rw [← nameOf_shape, Node.shape_exchange hchild hface, nameOf_shape]

/-- Attributes are as before if the exchanged child is no list of them or has the same ones. -/
theorem attributesOf_exchange (hattributes : child.isOf "attribute_list" = true →
      namesOf source (Node.isOf "attribute") new.namedChildren =
        namesOf source (Node.isOf "attribute") child.namedChildren) :
    attributesOf source (node.exchange i new) = attributesOf source node := by
  rw [attributesOf, attributesOf, Node.exchange_children]
  have hlist := Node.isOf_of_face hface "attribute_list"
  -- The exchanged child is somewhere among the children; the lists before and after it are the same.
  generalize node.children = nodes at hchild
  induction nodes generalizing i with
  | nil => rfl
  | cons first nodes ih =>
    cases i with
    | zero =>
      cases hchild
      rw [List.set_cons_zero, List.filter_cons, List.filter_cons, hlist]
      split_ifs with hattribute
      · rw [attributeNames, attributeNames, hattributes hattribute]
      · rfl
    | succ i =>
      rw [List.set_cons_succ, List.filter_cons, List.filter_cons]
      split_ifs
      · rw [attributeNames, attributeNames, ih hchild]
      · exact ih hchild

/-- Base types are as before if the exchanged child is not the list of them or has the same ones. -/
theorem baseTypes_exchange
    (hbases : node.children.findIdx? (Node.isOf "base_list") = some i →
      baseNames source new.namedChildren = baseNames source child.namedChildren) :
    baseTypes source (node.exchange i new) = baseTypes source node := by
  have hlist := Node.isOf_of_face hface "base_list"
  rw [baseTypes, baseTypes, Node.childOf?, Node.childOf?, Node.exchange_children]
  -- Either the exchanged child is the list that counts, or that list is where it was.
  by_cases hfirst : node.children.findIdx? (Node.isOf "base_list") = some i
  · obtain ⟨hold, hnew⟩ := find?_set_of_findIdx? hchild hlist hfirst
    simp only [hold, hnew, hbases hfirst]
  · rw [find?_set_of_ne hchild hlist hfirst]

/-- Enumerated names are as before if the exchanged child is not the list of them or has the same ones. -/
theorem enumNames_exchange (henum : enumIndex? node = some i →
      namesOf source (Node.isOf "enum_member_declaration") new.namedChildren =
        namesOf source (Node.isOf "enum_member_declaration") child.namedChildren) :
    enumNames source (node.exchange i new) = enumNames source node := by
  have hbody := Node.fills_of_face hface "body"
  have hlist := Node.isOf_of_face hface "enum_member_declaration_list"
  rw [enumNames, enumNames, Node.childIn?, Node.childIn?, Node.childOf?, Node.childOf?,
    Node.exchange_children]
  -- The list is sought by its field first and by its type only if no child has that field.
  by_cases hfirst : node.children.findIdx? (Node.fills "body") = some i
  · obtain ⟨hold, hnew⟩ := find?_set_of_findIdx? hchild hbody hfirst
    have hindex : enumIndex? node = some i := by rw [enumIndex?, hfirst, Option.some_or]
    simp only [hold, hnew, Option.some_or, henum hindex]
  · rw [find?_set_of_ne hchild hbody hfirst]
    cases hin : node.children.find? (Node.fills "body") with
    | some body => rfl
    | none =>
      have hnone : node.children.findIdx? (Node.fills "body") = none := by
        rw [List.findIdx?_eq_none_iff]
        simpa using List.find?_eq_none.1 hin
      rw [Option.none_or, Option.none_or]
      by_cases hsecond : node.children.findIdx? (Node.isOf "enum_member_declaration_list") = some i
      · obtain ⟨hold, hnew⟩ := find?_set_of_findIdx? hchild hlist hsecond
        have hindex : enumIndex? node = some i := by rw [enumIndex?, hnone, Option.none_or, hsecond]
        simp only [hold, hnew, henum hindex]
      · rw [find?_set_of_ne hchild hlist hsecond]

/-- A signature is as before if the names of an enumeration are. -/
theorem signatureOf_exchange {kind : Kind} (henum : kind = .enumeration → enumIndex? node = some i →
      namesOf source (Node.isOf "enum_member_declaration") new.namedChildren =
        namesOf source (Node.isOf "enum_member_declaration") child.namedChildren) :
    signatureOf source (node.exchange i new) kind = signatureOf source node kind := by
  by_cases hkind : kind = .enumeration
  · subst hkind
    simp only [signatureOf, enumSignature, enumNames_exchange hchild hface (henum rfl),
      nameOf_exchange hchild hface]
  · rw [← signatureOf_shape source _ hkind, Node.shape_exchange hchild hface, signatureOf_shape _ _ hkind]

/-- The body is sought as before. -/
theorem isBodyAmong_exchange : isBodyAmong (node.exchange i new).children = isBodyAmong node.children := by
  -- Whether some child has the field is read from the faces.
  have hany : ∀ nodes : List Node, nodes.any (Node.fills "body") =
      (nodes.map Node.face).any (Node.fills "body") := by
    intro nodes
    rw [List.any_map]
    rfl
  unfold isBodyAmong
  rw [hany, Node.exchange_children, Node.map_face_set hchild hface, ← hany]

end Exchange

/-! ## Places in a tree with an exchanged child -/

variable {setting : Setting} {pre : Path} {parent : Option Kind} {before before' : List Node}

/-- The siblings before a node are read through their faces. -/
theorem docSummary_of_face {source : Bytes} (h : before'.map Node.face = before.map Node.face) (node : Node) :
    docSummary source before' node = docSummary source before node := by
  unfold docSummary docComments
  rw [← docCommentsFrom_face, h, docCommentsFrom_face]

/-- A node is placed alike after siblings with the same faces. -/
theorem placeNode_of_face (h : before'.map Node.face = before.map Node.face) (node : Node) :
    placeNode setting pre parent before' node = placeNode setting pre parent before node := by
  obtain ⟨type, start, stop, field, named, missing, hasError, children⟩ := node
  simp only [placeNode, declarationMember, docSummary_of_face h]

/-- So are the nodes that follow a namespace for the rest of the file. -/
theorem placeRest_of_face (i : Nat) (h : before'.map Node.face = before.map Node.face) (nodes : List Node) :
    placeRest setting pre i before' nodes = placeRest setting pre i before nodes := by
  induction nodes generalizing i before before' with
  | nil => rfl
  | cons node nodes ih =>
    have hnext : (node :: before').map Node.face = (node :: before).map Node.face := by
      rw [List.map_cons, List.map_cons, h]
    rw [placeRest, placeRest, placeNode_of_face h, ih _ h, ih _ hnext]

/-- So are all nodes of a container. -/
theorem placeFrom_of_face (i : Nat) (h : before'.map Node.face = before.map Node.face) (nodes : List Node) :
    placeFrom setting pre i parent before' nodes = placeFrom setting pre i parent before nodes := by
  induction nodes generalizing i before before' with
  | nil => rfl
  | cons node nodes ih =>
    have hnext : (node :: before').map Node.face = (node :: before).map Node.face := by
      rw [List.map_cons, List.map_cons, h]
    rw [placeFrom, placeFrom, placeNode_of_face h, placeRest_of_face _ hnext, ih _ h, ih _ hnext]

section Set

variable {nodes : List Node} {child new : Node} {i : Nat}

/-- A body is placed as before if the exchanged node is not the body or is placed as before. -/
theorem placeBody_set {isBody : Node → Bool} {j position : Nat} (hchild : nodes[i]? = some child)
    (hbody : isBody new = isBody child) (hposition : position = j + i)
    (hinside : nodes.findIdx? isBody = some i →
      placeInside setting (pre ++ [position]) parent new =
        placeInside setting (pre ++ [position]) parent child) :
    placeBody setting pre j parent isBody (nodes.set i new) = placeBody setting pre j parent isBody nodes := by
  induction nodes generalizing i j with
  | nil => rfl
  | cons node nodes ih =>
    rw [List.findIdx?_cons] at hinside
    cases i with
    | zero =>
      cases hchild
      rw [List.set_cons_zero, placeBody, placeBody, hbody]
      split_ifs with hchild
      · rw [Nat.add_zero] at hposition
        rw [← hposition, hinside (by simp [hchild])]
      · rfl
    | succ i =>
      rw [List.set_cons_succ, placeBody, placeBody]
      split_ifs with hnode
      · rfl
      · exact ih hchild (by omega) fun hfirst => hinside (by simp [hnode, hfirst])

variable (hface : new.face = child.face)

include hface

/-- What follows a namespace for the rest of the file is placed as before if the exchanged node is. -/
theorem placeRest_set {j position : Nat} (hchild : nodes[i]? = some child) (hposition : position = j + i)
    (hnode : ∀ before, placeNode setting (pre ++ [position]) (some .nameSpace) before new =
      placeNode setting (pre ++ [position]) (some .nameSpace) before child)
    (hbefore : before'.map Node.face = before.map Node.face) :
    placeRest setting pre j before' (nodes.set i new) = placeRest setting pre j before nodes := by
  induction nodes generalizing i j before before' with
  | nil => cases hchild
  | cons node nodes ih =>
    cases i with
    | zero =>
      cases hchild
      rw [Nat.add_zero] at hposition
      have hnext : (new :: before').map Node.face = (child :: before).map Node.face := by
        rw [List.map_cons, List.map_cons, hface, hbefore]
      rw [List.set_cons_zero, placeRest, placeRest, Node.named_of_face hface, ← hposition, hnode,
        placeNode_of_face hbefore, placeRest_of_face _ hbefore, placeRest_of_face _ hnext]
    | succ i =>
      have hnext : (node :: before').map Node.face = (node :: before).map Node.face := by
        rw [List.map_cons, List.map_cons, hbefore]
      rw [List.set_cons_succ, placeRest, placeRest, placeNode_of_face hbefore,
        ih hchild (by omega) hbefore, ih hchild (by omega) hnext]

/-- A namespace has the same member with the same contents if its name is the same. -/
theorem namespaceMember_of_face {source : Bytes} (hname : nameOf source new = nameOf source child)
    (members : List Member) :
    namespaceMember source new members = namespaceMember source child members := by
  have hline : new.line source = child.line source := Node.of_face (Node.line source) (fun _ => rfl) hface
  simp only [namespaceMember, signatureOf, hname, hline]

/-- The nodes of a container are placed as before if the exchanged node is: as part of what is around the
container, as the first namespace for the rest of the file, or as part of that namespace. -/
theorem placeFrom_set {j position : Nat} (hchild : nodes[i]? = some child) (hposition : position = j + i)
    (hnode : (∀ f, nodes.findIdx? opensFile = some f → i < f) → ∀ before,
      placeNode setting (pre ++ [position]) parent before new =
        placeNode setting (pre ++ [position]) parent before child)
    (hfile : nodes.findIdx? opensFile = some i →
      placeInside setting (pre ++ [position]) (some .nameSpace) new =
          placeInside setting (pre ++ [position]) (some .nameSpace) child ∧
        nameOf setting.source new = nameOf setting.source child)
    (hfollowing : (∃ f, nodes.findIdx? opensFile = some f ∧ f < i) → ∀ before,
      placeNode setting (pre ++ [position]) (some .nameSpace) before new =
        placeNode setting (pre ++ [position]) (some .nameSpace) before child)
    (hbefore : before'.map Node.face = before.map Node.face) :
    placeFrom setting pre j parent before' (nodes.set i new) =
      placeFrom setting pre j parent before nodes := by
  induction nodes generalizing i j before before' with
  | nil => cases hchild
  | cons node nodes ih =>
    simp only [List.findIdx?_cons] at hnode hfile hfollowing
    cases i with
    | zero =>
      cases hchild
      rw [Nat.add_zero] at hposition
      have hnext : (new :: before').map Node.face = (child :: before).map Node.face := by
        rw [List.map_cons, List.map_cons, hface, hbefore]
      rw [List.set_cons_zero, placeFrom, placeFrom, Node.named_of_face hface, Node.role_of_face hface,
        ← hposition]
      split_ifs with hnamed hrole
      · -- A node without a name counts for nothing, whatever is exchanged below it.
        rw [placeFrom_of_face _ hbefore]
      · -- The exchanged node is the namespace itself.
        have hopens : opensFile child = true := by simpa [opensFile, hrole] using hnamed
        obtain ⟨hinside, hname⟩ := hfile (by simp [hopens])
        simp only [hinside, placeRest_of_face _ hnext, namespaceMember_of_face hface hname]
      · have hopens : opensFile child = false := by simp [opensFile, hrole]
        rw [hnode (by simp [hopens]), placeNode_of_face hbefore, placeFrom_of_face _ hnext]
    | succ i =>
      have hnext : (node :: before').map Node.face = (node :: before).map Node.face := by
        rw [List.map_cons, List.map_cons, hbefore]
      rw [List.getElem?_cons_succ] at hchild
      -- After a node that is no such namespace the positions of the others are one less.
      have hskip : opensFile node = false → ∀ {before before' : List Node},
          before'.map Node.face = before.map Node.face →
          placeFrom setting pre (j + 1) parent before' (nodes.set i new) =
            placeFrom setting pre (j + 1) parent before nodes := by
        intro hopens before before' hbefore
        simp only [hopens, Bool.false_eq_true, if_false] at hnode hfile hfollowing
        refine ih hchild (by omega) (fun hlt => hnode fun f hf => ?_) (fun hf => hfile (by simp [hf]))
          (fun hafter => hfollowing ?_) hbefore
        · obtain ⟨f, hfirst, rfl⟩ := Option.map_eq_some_iff.1 hf
          exact Nat.succ_lt_succ (hlt f hfirst)
        · obtain ⟨f, hf, hlt⟩ := hafter
          exact ⟨f + 1, by simp [hf], by omega⟩
      rw [List.set_cons_succ, placeFrom, placeFrom]
      split_ifs with hnamed hrole
      · exact hskip (by simpa [opensFile] using fun h => absurd h (by simpa using hnamed)) hbefore
      · have hopens : opensFile node = true := by simpa [opensFile, hrole] using hnamed
        have hrest := hfollowing ⟨0, by simp [hopens], Nat.succ_pos i⟩
        -- The first one is the namespace, and the exchanged node is part of it.
        rw [placeRest_set hface hchild (by omega) hrest hnext]
      · rw [placeNode_of_face hbefore, hskip (by simp [opensFile, hrole]) hnext]

end Set

/-- What has to be the same below two children with the same face so that the node at `pre` is placed alike
with either of them at position `i`. -/
structure SamePart (setting : Setting) (pre : Path) (parent : Option Kind) (node : Node) (i : Nat)
    (child new : Node) : Prop where
  face : new.face = child.face
  /-- The attributes in them, if the node has attributes and they are lists of them. -/
  attributes : ∀ kind, node.role = .declaration kind → child.isOf "attribute_list" = true →
    namesOf setting.source (Node.isOf "attribute") new.namedChildren =
      namesOf setting.source (Node.isOf "attribute") child.namedChildren
  /-- The base types in them, if those of the node are read and the children are the list of them. -/
  bases : ∀ kind, node.role = .declaration kind → kind.showsBaseTypes = true →
    node.children.findIdx? (Node.isOf "base_list") = some i →
    baseNames setting.source new.namedChildren = baseNames setting.source child.namedChildren
  /-- The names in them, if the node is an enumeration of them. -/
  names : node.role = .declaration .enumeration → enumIndex? node = some i →
    namesOf setting.source (Node.isOf "enum_member_declaration") new.namedChildren =
      namesOf setting.source (Node.isOf "enum_member_declaration") child.namedChildren
  /-- The members in them, if they are the body of the node. -/
  body : bodyIndex? node = some i → ∀ kind,
    node.role = .blockNamespace ∧ kind = .nameSpace ∨ node.role = .declaration kind ∧ kind.canNest = true →
    placeInside setting (pre ++ [i]) (some kind) new = placeInside setting (pre ++ [i]) (some kind) child
  /-- The members in the node, if it is a transparent container. -/
  inside : node.role = .transparent →
    placeInside setting pre parent (node.exchange i new) = placeInside setting pre parent node

section Exchange

variable {node child new : Node} {i : Nat}

/-- The body is looked for by faces. -/
theorem isBodyAmong_of_face (nodes : List Node) (hface : new.face = child.face) :
    isBodyAmong nodes new = isBodyAmong nodes child := by
  unfold isBodyAmong
  split_ifs
  · exact Node.fills_of_face hface "body"
  · exact Node.isOf_of_face hface "declaration_list"

variable (hchild : node.children[i]? = some child) (h : SamePart setting pre parent node i child new)

include hchild h

/-- The contents of a body are as before. -/
theorem placeInner_exchange {kind : Kind} (hkind : node.role = .blockNamespace ∧ kind = .nameSpace ∨
      node.role = .declaration kind ∧ kind.canNest = true) :
    placeInner setting pre kind (node.exchange i new) = placeInner setting pre kind node := by
  rw [placeInner, placeInner, isBodyAmong_exchange hchild h.face, Node.exchange_children]
  refine placeBody_set hchild (isBodyAmong_of_face _ h.face) (Nat.zero_add i).symm fun hbody => ?_
  exact h.body (by rw [bodyIndex?_eq, hbody]) kind hkind

/-- What is said of a declaration is as before. -/
theorem declarationMember_exchange {kind : Kind} (hrole : node.role = .declaration kind)
    (modifiers : List String) (members : List Member) :
    declarationMember setting.source before (node.exchange i new) kind modifiers members =
      declarationMember setting.source before node kind modifiers members := by
  have hbases : (if kind.showsBaseTypes then baseTypes setting.source (node.exchange i new) else .ok []) =
      if kind.showsBaseTypes then baseTypes setting.source node else .ok [] := by
    split_ifs with hshows
    · exact baseTypes_exchange hchild h.face (h.bases kind hrole hshows)
    · rfl
  have hsignature : signatureOf setting.source (node.exchange i new) kind =
      signatureOf setting.source node kind :=
    signatureOf_exchange hchild h.face fun henum => h.names (henum ▸ hrole)
  unfold declarationMember
  rw [hbases, hsignature, attributesOf_exchange hchild h.face (h.attributes kind hrole)]
  rfl

/-- A node with an exchanged child is placed as before if nothing that is read below the child differs. -/
theorem placeNode_exchange : placeNode setting pre parent before (node.exchange i new) =
    placeNode setting pre parent before node := by
  have hsame : (node.exchange i new).role = node.role := rfl
  rw [placeNode_eq, placeNode_eq, hsame]
  -- What is read below the child depends on what the node is.
  cases hrole : node.role with
  | blockNamespace =>
    have hname : nameOf setting.source (node.exchange i new) = nameOf setting.source node :=
      nameOf_exchange hchild h.face
    simp only [placeInner_exchange hchild h (.inl ⟨hrole, rfl⟩),
      namespaceMember_of_face (Node.exchange_face node i new) hname]
  | declaration kind =>
    have hcontents : placeContents setting pre kind (node.exchange i new) =
        placeContents setting pre kind node := by
      rw [placeContents, placeContents]
      split_ifs with hnest
      · exact placeInner_exchange hchild h (.inr ⟨hrole, hnest⟩)
      · rfl
    simp only [modifiersOf_exchange hchild h.face, declarationMember_exchange hchild h hrole, hcontents]
  | transparent => exact h.inside hrole
  | fileNamespace => rfl
  | other => rfl

end Exchange

end ApiOutline.Outline
