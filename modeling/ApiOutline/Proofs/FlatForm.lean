import ApiOutline.Proofs.HiddenParts
import ApiOutline.Proofs.NamespaceForms
import ApiOutline.Proofs.SafeWalk

/-!
# The flat form of a tree

A region is a transparent container among the nodes of another container, such as a region of conditional
compilation. The flat form of a tree has the named nodes of each region that the walk gets to in place of the
region (`flatTree`), at every depth. The walk does not get to any region in it (`flatTree_has_no_region`).

All nodes in place of one node of a container are described by `InPlaceOf`: they are the node itself with
another body, or nodes of the region that it is.
-/

namespace ApiOutline.Outline

open Syntax (Node Path)
open Relation (ReflTransGen)

/-! ## The flat form of a tree -/

/-- Whether the walk goes on in the body of a declaration of the given kind. -/
def entersBody (setting : Setting) (parent : Option Kind) (node : Node) (kind : Kind) : Bool :=
  match modifiersOf setting.source node with
  | .ok modifiers => kind.canNest && isVisibleIn modifiers parent setting.contextual
  | .error _ => false

mutual

/-- The nodes in place of a named node of a container: in place of a region what is in it, and in place of any
other node that node, with a flat body if the walk goes on there. -/
def flatNode (setting : Setting) (parent : Option Kind) : Node → List Node
  | ⟨type, start, stop, field, named, missing, hasError, children⟩ =>
    let node : Node := ⟨type, start, stop, field, named, missing, hasError, children⟩
    match Syntax.Role.of type with
    | .blockNamespace =>
      [{ node with children := flatBody setting (some .nameSpace) (isBodyAmong children) children }]
    | .declaration kind =>
      if entersBody setting parent node kind then
        [{ node with children := flatBody setting (some kind) (isBodyAmong children) children }]
      else [node]
    | .transparent => (flatFrom setting parent children).filter (·.named)
    | .fileNamespace => [node]
    | .other => [node]

/-- The nodes with the first one that is the body made flat. -/
def flatBody (setting : Setting) (parent : Option Kind) (isBody : Node → Bool) : List Node → List Node
  | [] => []
  | node :: nodes =>
    if isBody node then flatInside setting parent node :: nodes
    else node :: flatBody setting parent isBody nodes

/-- A container without regions among its nodes. -/
def flatInside (setting : Setting) (parent : Option Kind) : Node → Node
  | ⟨type, start, stop, field, named, missing, hasError, children⟩ =>
    ⟨type, start, stop, field, named, missing, hasError, flatFrom setting parent children⟩

/-- The nodes in place of the nodes of a container. -/
def flatFrom (setting : Setting) (parent : Option Kind) : List Node → List Node
  | [] => []
  | node :: nodes =>
    if !node.named then node :: flatFrom setting parent nodes
    else if node.role = .fileNamespace then
      flatInside setting (some .nameSpace) node :: flatRest setting nodes
    else flatNode setting parent node ++ flatFrom setting parent nodes

/-- The nodes in place of those that follow a namespace for the rest of the file. -/
def flatRest (setting : Setting) : List Node → List Node
  | [] => []
  | node :: nodes =>
    if !node.named then node :: flatRest setting nodes
    else flatNode setting (some .nameSpace) node ++ flatRest setting nodes

end

/-- The flat form of a tree. -/
def flatTree (setting : Setting) (root : Node) : Node :=
  flatInside setting none root

/-- A node with its body made flat. -/
def withFlatBody (setting : Setting) (parent : Option Kind) (node : Node) : Node :=
  { node with children := flatBody setting parent (isBodyAmong node.children) node.children }

section Flat

variable {setting : Setting} {parent : Option Kind} {node : Node}

/-- What comes in place of a node, by its role. -/
theorem flatNode_eq (setting : Setting) (parent : Option Kind) (node : Node) :
    flatNode setting parent node =
      match node.role with
      | .blockNamespace => [withFlatBody setting (some .nameSpace) node]
      | .declaration kind =>
        if entersBody setting parent node kind then [withFlatBody setting (some kind) node] else [node]
      | .transparent => (flatFrom setting parent node.children).filter (·.named)
      | .fileNamespace => [node]
      | .other => [node] := by
  cases node
  rw [flatNode]
  rfl

/-- A container made flat is read as before, but for its nodes. -/
@[simp]
theorem face_flatInside (setting : Setting) (parent : Option Kind) (node : Node) :
    (flatInside setting parent node).face = node.face := by
  cases node
  rfl

/-- The nodes of a flat container come in place of those of the container. -/
@[simp]
theorem children_flatInside (setting : Setting) (parent : Option Kind) (node : Node) :
    (flatInside setting parent node).children = flatFrom setting parent node.children := by
  cases node
  rfl

/-- Only the body of a node is made flat. -/
theorem flatBody_cases (setting : Setting) (parent : Option Kind) (isBody : Node → Bool) (nodes : List Node) :
    (nodes.findIdx? isBody = none ∧ flatBody setting parent isBody nodes = nodes) ∨
      ∃ i body, nodes.findIdx? isBody = some i ∧ nodes[i]? = some body ∧
        flatBody setting parent isBody nodes = nodes.set i (flatInside setting parent body) := by
  induction nodes with
  | nil => exact .inl ⟨rfl, rfl⟩
  | cons node nodes ih =>
    rw [flatBody, List.findIdx?_cons]
    by_cases hbody : isBody node = true
    · -- The body is the first node, and nothing after it is looked at.
      refine .inr ⟨0, node, ?_, rfl, ?_⟩
      · rw [if_pos hbody]
      · rw [if_pos hbody]
        rfl
    · rw [if_neg hbody, if_neg hbody]
      obtain ⟨hnone, hsame⟩ | ⟨i, body, hfirst, hchild, hset⟩ := ih
      · exact .inl ⟨by rw [hnone]; rfl, by rw [hsame]⟩
      · exact .inr ⟨i + 1, body, by rw [hfirst]; rfl, hchild, by rw [hset]; rfl⟩

/-- A node with a flat body is the node itself or has a child exchanged. -/
theorem withFlatBody_cases (setting : Setting) (parent : Option Kind) (node : Node) :
    withFlatBody setting parent node = node ∨
      ∃ i body, node.children.findIdx? (isBodyAmong node.children) = some i ∧
        node.children[i]? = some body ∧
        withFlatBody setting parent node = node.exchange i (flatInside setting parent body) := by
  unfold withFlatBody
  obtain ⟨-, hsame⟩ | ⟨i, body, hfirst, hchild, hset⟩ :=
    flatBody_cases setting parent (isBodyAmong node.children) node.children
  · left
    rw [hsame]
    cases node
    rfl
  · exact .inr ⟨i, body, hfirst, hchild, by rw [hset]; rfl⟩

/-- The body is sought as before. -/
theorem isBodyAmong_withFlatBody (setting : Setting) (parent : Option Kind) (node : Node) :
    isBodyAmong (withFlatBody setting parent node).children = isBodyAmong node.children := by
  obtain hsame | ⟨i, body, -, hchild, hexchange⟩ := withFlatBody_cases setting parent node
  · rw [hsame]
  · rw [hexchange, isBodyAmong_exchange hchild (face_flatInside setting parent body)]

/-- The body of a node with a flat body is its body, made flat. -/
theorem bodyOf?_withFlatBody (setting : Setting) (parent : Option Kind) (node : Node) :
    bodyOf? (withFlatBody setting parent node) = (bodyOf? node).map (flatInside setting parent) := by
  have hface : ∀ child, isBodyAmong node.children (flatInside setting parent child) =
      isBodyAmong node.children child :=
    fun child => isBodyAmong_of_face node.children (face_flatInside setting parent child)
  unfold bodyOf?
  rw [isBodyAmong_withFlatBody, withFlatBody]
  -- What counts as the body stays fixed while the children are gone through.
  generalize isBodyAmong node.children = isBody at hface ⊢
  dsimp only
  induction node.children with
  | nil => rfl
  | cons child children ih =>
    rw [flatBody, List.find?_cons]
    cases hbody : isBody child with
    | true => rw [if_pos rfl, List.find?_cons, hface, hbody, Option.map_some]
    | false => rw [if_neg Bool.false_ne_true, List.find?_cons, hbody, ih]

/-- The name of a node is not in its body. -/
theorem nameOf_withFlatBody (setting : Setting) (parent : Option Kind) (node : Node) :
    nameOf setting.source (withFlatBody setting parent node) = nameOf setting.source node := by
  obtain hsame | ⟨i, body, -, hchild, hexchange⟩ := withFlatBody_cases setting parent node
  · rw [hsame]
  · rw [hexchange, nameOf_exchange hchild (face_flatInside setting parent body)]

/-- The modifiers of a node are not in its body. -/
theorem modifiersOf_withFlatBody (setting : Setting) (parent : Option Kind) (node : Node) :
    modifiersOf setting.source (withFlatBody setting parent node) = modifiersOf setting.source node := by
  obtain hsame | ⟨i, body, -, hchild, hexchange⟩ := withFlatBody_cases setting parent node
  · rw [hsame]
  · rw [hexchange, modifiersOf_exchange hchild (face_flatInside setting parent body)]

/-- The walk goes on in the body of a declaration that is visible and can have members. -/
theorem entersBody_iff {kind : Kind} {modifiers : List String}
    (h : modifiersOf setting.source node = .ok modifiers) : entersBody setting parent node kind = true ↔
      kind.canNest = true ∧ isVisibleIn modifiers parent setting.contextual = true := by
  rw [entersBody, h, Bool.and_eq_true]

end Flat

/-! ## What is in place of the nodes of a container -/

/-- Whether a node is a named one in a region, directly or in a region in it. -/
inductive InRegion (region : Node) : Node → Prop where
  | child {node : Node} : node ∈ region.children → node.named = true → InRegion region node
  | inner {inner node : Node} : InRegion region inner → inner.role = .transparent →
    node ∈ inner.children → node.named = true → InRegion region node

/-- What is in a region in a region is in the outer one. -/
theorem InRegion.trans {region inner node : Node} (h : InRegion inner node) (hinner : InRegion region inner)
    (hrole : inner.role = .transparent) : InRegion region node := by
  induction h with
  | child hmem hnamed => exact .inner hinner hrole hmem hnamed
  | inner _ hrole' hmem hnamed ih => exact .inner ih hrole' hmem hnamed

/-- What is in a region is below it. -/
theorem InRegion.within {region node : Node} (h : InRegion region node) : region.Within node := by
  induction h with
  | child hmem _ => exact Node.within_iff.2 (.inr ⟨_, hmem, Node.within_self _⟩)
  | inner _ _ hmem _ ih => exact ih.child hmem

/-- What can be in place of a node of a container: the node itself, up to its children, or the nodes that are
in it if it is a region. -/
inductive InPlaceOf (node : Node) : List Node → Prop where
  | kept {flat : Node} : (node.named = true → node.role ≠ .transparent) → flat.face = node.face →
    (node.role = .other → flat = node) → InPlaceOf node [flat]
  | region {flats : List Node} : node.named = true → node.role = .transparent →
    (∀ flat ∈ flats, flat.named = true ∧ ∃ inner, InRegion node inner ∧ flat.face = inner.face) →
    InPlaceOf node flats

section InPlaceOf

/-- A node that carries no structure is kept. -/
theorem InPlaceOf.unnamed {node : Node} (h : node.named = false) : InPlaceOf node [node] := by
  refine .kept (fun hnamed => ?_) rfl fun _ => rfl
  cases h.symm.trans hnamed

/-- Whether a list comes in place of the nodes of a container, part by part. -/
def HasParts (nodes flats : List Node) : Prop :=
  ∃ parts, List.Forall₂ InPlaceOf nodes parts ∧ flats = parts.flatten

/-- What comes in place of nodes is put together node by node. -/
theorem HasParts.cons {node : Node} {part nodes flats : List Node} (hpart : InPlaceOf node part)
    (h : HasParts nodes flats) : HasParts (node :: nodes) (part ++ flats) := by
  obtain ⟨parts, hparts, rfl⟩ := h
  exact ⟨part :: parts, .cons hpart hparts, List.flatten_cons.symm⟩

/-- A node in place of the nodes of a container has the face of one of them, or of one in a region among
them. -/
theorem HasParts.exists_of_mem {nodes flats : List Node} {flat : Node} (h : HasParts nodes flats)
    (hflat : flat ∈ flats) :
    ∃ node ∈ nodes, ((node.named = true → node.role ≠ .transparent) ∧ flat.face = node.face) ∨
      (node.named = true ∧ node.role = .transparent ∧
        ∃ inner, InRegion node inner ∧ flat.face = inner.face) := by
  obtain ⟨parts, hparts, rfl⟩ := h
  induction hparts with
  | nil => cases hflat
  | @cons node flats nodes parts hnode _ ih =>
    rw [List.flatten_cons, List.mem_append] at hflat
    obtain hflat | hflat := hflat
    · refine ⟨node, List.mem_cons_self, ?_⟩
      cases hnode with
      | kept hrole hface _ =>
        obtain rfl := List.mem_singleton.1 hflat
        exact .inl ⟨hrole, hface⟩
      | region hnamed hrole hinner => exact .inr ⟨hnamed, hrole, (hinner flat hflat).2⟩
    · obtain ⟨other, hother, hcases⟩ := ih hflat
      exact ⟨other, List.mem_cons_of_mem _ hother, hcases⟩

/-- What is in a region, in its flat form, comes in place of it. -/
theorem HasParts.region {node : Node} {flats : List Node} (h : HasParts node.children flats)
    (hnamed : node.named = true) (hrole : node.role = .transparent) :
    InPlaceOf node (flats.filter (·.named)) := by
  -- Regions in the region are flat by now, so what is in them is in this one too.
  refine .region hnamed hrole fun flat hmem => ?_
  obtain ⟨hmem, hflatNamed⟩ := List.mem_filter.1 hmem
  obtain ⟨child, hchild, ⟨-, hface⟩ | ⟨hchildNamed, hchildRole, inner, hinner, hface⟩⟩ :=
    h.exists_of_mem hmem
  · have hchildNamed : child.named = true := by rw [← Node.named_of_face hface, hflatNamed]
    exact ⟨hflatNamed, child, .child hchild hchildNamed, hface⟩
  · exact ⟨hflatNamed, inner, hinner.trans (.child hchild hchildNamed) hchildRole, hface⟩

variable (setting : Setting)

/-- The flat form of a container comes in place of its nodes. -/
theorem inPlaceOf_cases : WalkCases
    (fun parent _ node => node.named = true → InPlaceOf node (flatNode setting parent node))
    (fun parent node => HasParts node.children (flatFrom setting parent node.children))
    (fun parent _ nodes => HasParts nodes (flatFrom setting parent nodes))
    (fun _ nodes => HasParts nodes (flatRest setting nodes)) where
  -- Of all nodes only regions are replaced by others, so there alone something is to be shown.
  nameSpace {parent before node} hrole _ _ := by
    rw [flatNode_eq, hrole]
    exact .kept (fun _ => by simp [hrole]) rfl (by simp [hrole])
  declaration {parent before node kind} hrole _ _ := by
    rw [flatNode_eq, hrole]
    simp only
    split
    · exact .kept (fun _ => by simp [hrole]) rfl (by simp [hrole])
    · exact .kept (fun _ => by simp [hrole]) rfl (fun _ => rfl)
  region {parent before node} hrole ih hnamed := by
    rw [flatNode_eq, hrole]
    exact ih.region hnamed hrole
  passed {parent before node} hrole _ := by
    rw [flatNode_eq]
    obtain hrole | hrole := hrole <;> rw [hrole] <;>
      exact .kept (fun _ => by simp [hrole]) rfl (fun _ => rfl)
  opened ih := ih
  fromNil := ⟨[], .nil, rfl⟩
  fromUnnamed {parent before node nodes} hnamed ih := by
    rw [flatFrom, hnamed]
    exact .cons (.unnamed hnamed) ih
  fromFile {parent before node nodes} hnamed hrole _ ih := by
    rw [flatFrom, hnamed, if_pos hrole]
    exact .cons (.kept (fun _ => by simp [hrole]) (face_flatInside _ _ _) (by simp [hrole])) ih
  fromNode {parent before node nodes} hnamed hrole hlook ih := by
    rw [flatFrom, hnamed, if_neg hrole]
    exact .cons (hlook hnamed) ih
  restNil := ⟨[], .nil, rfl⟩
  restUnnamed {before node nodes} hnamed ih := by
    rw [flatRest, hnamed]
    exact .cons (.unnamed hnamed) ih
  restNode {before node nodes} hnamed hlook ih := by
    rw [flatRest, hnamed]
    exact .cons (hlook hnamed) ih

/-- What is made of a named node comes in place of it. -/
theorem inPlaceOf_flatNode (parent : Option Kind) {node : Node} (hnamed : node.named = true) :
    InPlaceOf node (flatNode setting parent node) :=
  (inPlaceOf_cases setting).look parent [] node hnamed

/-- What is made of the nodes of a container comes in place of them. -/
theorem hasParts_flatFrom (parent : Option Kind) (nodes : List Node) :
    HasParts nodes (flatFrom setting parent nodes) :=
  (inPlaceOf_cases setting).leftFrom parent [] nodes

end InPlaceOf

/-- Whether no namespace for the rest of the file is in a transparent container. -/
def FilesOutside (root : Node) : Prop :=
  ∀ region, root.Within region → region.role = .transparent →
    ∀ node, region.Within node → node.role ≠ .fileNamespace

instance (root : Node) : Decidable (FilesOutside root) :=
  inferInstanceAs (Decidable (∀ region ∈ root.nodes, region.role = .transparent →
    ∀ node ∈ region.nodes, node.role ≠ .fileNamespace))

/-- Whether regions are read for their members only. -/
structure RegionsApart (root : Node) : Prop where
  files : FilesOutside root
  /-- If the body of a declaration is also a list of attributes, there are none in the regions in it. -/
  attributes : ∀ node kind body region inner, root.Within node → node.role = .declaration kind →
    kind.canNest = true → node.children.find? (isBodyAmong node.children) = some body →
    body.isOf "attribute_list" = true → region ∈ body.children → region.named = true →
    region.role = .transparent → InRegion region inner → inner.isOf "attribute" = false
  /-- If the body of a declaration is also its list of base types, there is no region in it. -/
  bases : ∀ node kind body region, root.Within node → node.role = .declaration kind → kind.canNest = true →
    node.children.find? (isBodyAmong node.children) = some body → kind.showsBaseTypes = true →
    node.children.find? (Node.isOf "base_list") = some body → region ∈ body.children →
    region.named = true → region.role ≠ .transparent
  /-- If a region in a namespace for the rest of the file is not after its name, then it is not the name and
  has none in it. -/
  names : ∀ node pre region post, root.Within node → node.role = .fileNamespace →
    node.children = pre ++ region :: post → (∀ child ∈ pre, child.fills "name" = false) →
    region.named = true → region.role = .transparent →
    region.fills "name" = false ∧ ∀ inner, InRegion region inner → inner.fills "name" = false

/-- Regions are apart in the trees below. -/
theorem RegionsApart.child {root child : Node} (h : RegionsApart root) (hchild : child ∈ root.children) :
    RegionsApart child := by
  have hwithin : ∀ node, child.Within node → root.Within node :=
    fun node hnode => Node.within_iff.2 (.inr ⟨child, hchild, hnode⟩)
  exact ⟨fun region hregion => h.files region (hwithin region hregion),
    fun node kind body region inner hnode => h.attributes node kind body region inner (hwithin node hnode),
    fun node kind body region hnode => h.bases node kind body region (hwithin node hnode),
    fun node pre region post hnode => h.names node pre region post (hwithin node hnode)⟩

/-- Regions are apart if there is none among attributes, base types and the parts of namespaces for the rest of
the file. -/
theorem RegionsApart.of_plain {root : Node} (hfiles : FilesOutside root)
    (hplain : ∀ node, root.Within node → node.isOf "attribute_list" = true ∨ node.isOf "base_list" = true ∨
      node.role = .fileNamespace → ∀ region ∈ node.children, region.role ≠ .transparent) :
    RegionsApart root where
  files := hfiles
  -- A body is a child of the declaration, so it is in the tree and has no region by assumption.
  attributes node _ body region _ hnode _ _ hbody hlist hregion _ hrole :=
    absurd hrole (hplain body (hnode.child (List.mem_of_find?_eq_some hbody)) (.inl hlist) region hregion)
  bases node _ body region hnode _ _ hbody _ hbases hregion _ :=
    hplain body (hnode.child (List.mem_of_find?_eq_some hbody)) (.inr (.inl (List.find?_some hbases))) region
      hregion
  names node pre region post hnode hrole hsplit _ _ hregion :=
    absurd hregion (hplain node hnode (.inr (.inr hrole)) region (by simp [hsplit]))

/-- No namespace for the rest of the file comes in place of a node that is none. -/
theorem noFileNamespace_inPlaceOf {node : Node} {flats : List Node} (h : RegionsApart node)
    (hrole : node.role ≠ .fileNamespace) (hflats : InPlaceOf node flats) : NoFileNamespace flats := by
  intro flat hflat
  cases hflats with
  | kept _ hface _ =>
    obtain rfl := List.mem_singleton.1 hflat
    rwa [Node.role_of_face hface]
  | region _ hregion hinner =>
    obtain ⟨-, inner, hin, hface⟩ := hinner flat hflat
    rw [Node.role_of_face hface]
    exact h.files node node.within_self hregion inner hin.within

/-! ## No region is left -/

/-- Whether a node is in place of one that is no region, in a declaration of the given kind if any. -/
def IsFlatNode (setting : Setting) (parent : Option Kind) (flat : Node) : Prop :=
  ∃ node, RegionsApart node ∧ node.role ≠ .transparent ∧ flatNode setting parent node = [flat]

/-- Whether a node is a container made flat, in a declaration of the given kind if any. -/
def IsFlatInside (setting : Setting) (parent : Option Kind) (flat : Node) : Prop :=
  ∃ node, RegionsApart node ∧ flat = flatInside setting parent node

/-- Whether nodes are those of a flat container: the named ones are in place of nodes that are no regions, as
part of the first namespace for the rest of the file if they come after it. -/
def IsFlatList (setting : Setting) (parent : Option Kind) (flats : List Node) : Prop :=
  (flats.findIdx? opensFile = none ∧ ∀ flat ∈ flats, flat.named = true → IsFlatNode setting parent flat) ∨
    ∃ pre inner post, flats = pre ++ flatInside setting (some .nameSpace) inner :: post ∧
      flats.findIdx? opensFile = some pre.length ∧ RegionsApart inner ∧
      (∀ flat ∈ pre, flat.named = true → IsFlatNode setting parent flat) ∧
      ∀ flat ∈ post, flat.named = true → IsFlatNode setting (some .nameSpace) flat

section Flatness

variable {setting : Setting} {parent : Option Kind} {node flat : Node}

/-- A node that is no region is kept up to its children. -/
theorem flatNode_of_ne (setting : Setting) (parent : Option Kind) (h : node.role ≠ .transparent) :
    ∃ flat, flatNode setting parent node = [flat] ∧ flat.face = node.face := by
  rw [flatNode_eq]
  split
  · exact ⟨_, rfl, rfl⟩
  · split
    · exact ⟨_, rfl, rfl⟩
    · exact ⟨_, rfl, rfl⟩
  · next hrole => exact absurd hrole h
  · exact ⟨_, rfl, rfl⟩
  · exact ⟨_, rfl, rfl⟩

/-- A flat node is no region. -/
theorem IsFlatNode.role_ne (h : IsFlatNode setting parent flat) : flat.role ≠ .transparent := by
  obtain ⟨node, -, hrole, hflat⟩ := h
  obtain ⟨kept, hkept, hface⟩ := flatNode_of_ne setting parent hrole
  cases hflat.symm.trans hkept
  rwa [Node.role_of_face hface]

/-- A node that is no region has a flat node in its place. -/
theorem isFlatNode_of_ne (hapart : RegionsApart node) (hrole : node.role ≠ .transparent) :
    ∀ flat ∈ flatNode setting parent node, IsFlatNode setting parent flat := by
  obtain ⟨kept, hkept, -⟩ := flatNode_of_ne setting parent hrole
  rw [hkept, List.forall_mem_singleton]
  exact ⟨node, hapart, hrole, hkept⟩

/-- Nodes in front that open no file leave a flat list flat. -/
theorem IsFlatList.append {front flats : List Node} (h : IsFlatList setting parent flats)
    (hopens : ∀ flat ∈ front, opensFile flat = false)
    (hfront : ∀ flat ∈ front, flat.named = true → IsFlatNode setting parent flat) :
    IsFlatList setting parent (front ++ flats) := by
  have hnone : front.findIdx? opensFile = none := by simpa [List.findIdx?_eq_none_iff] using hopens
  unfold IsFlatList
  rw [List.findIdx?_append, hnone, Option.none_or]
  -- The namespace for the rest of the file, if there is one, is where it was, behind the nodes in front.
  obtain ⟨hfile, hall⟩ | ⟨pre, inner, post, rfl, hfile, hinner, hpre, hpost⟩ := h
  · refine .inl ⟨by rw [hfile]; rfl, fun flat hflat => ?_⟩
    exact (List.mem_append.1 hflat).elim (hfront flat) (hall flat)
  · refine .inr ⟨front ++ pre, inner, post, (List.append_assoc _ _ _).symm, ?_, hinner, fun flat hflat => ?_,
      hpost⟩
    · rw [hfile, Option.map_some, List.length_append, Nat.add_comm]
    · exact (List.mem_append.1 hflat).elim (hfront flat) (hpre flat)

/-- A flat list starts with a namespace for the rest of the file and what follows it. -/
theorem isFlatList_file {flats : List Node} (hapart : RegionsApart node) (hnamed : node.named = true)
    (hrole : node.role = .fileNamespace)
    (hflats : ∀ flat ∈ flats, flat.named = true → IsFlatNode setting (some .nameSpace) flat) :
    IsFlatList setting parent (flatInside setting (some .nameSpace) node :: flats) := by
  have hface := face_flatInside setting (some .nameSpace) node
  have hopens : opensFile (flatInside setting (some .nameSpace) node) = true := by
    simp [opensFile, Node.named_of_face hface, Node.role_of_face hface, hnamed, hrole]
  refine .inr ⟨[], node, flats, rfl, ?_, hapart, by simp, hflats⟩
  rw [List.findIdx?_cons, if_pos hopens]
  rfl

/-- In a region that is made flat there is no namespace for the rest of the file. -/
theorem noFileNamespace_flatFrom (setting : Setting) (parent : Option Kind) (hapart : RegionsApart node)
    (hrole : node.role = .transparent) : NoFileNamespace (flatFrom setting parent node.children) := by
  intro flat hflat
  have hfiles := hapart.files node node.within_self hrole
  obtain ⟨child, hchild, ⟨-, hface⟩ | ⟨-, -, inner, hinner, hface⟩⟩ :=
    (hasParts_flatFrom setting parent node.children).exists_of_mem hflat
  · rw [Node.role_of_face hface]
    exact hfiles child (node.within_self.child hchild)
  · rw [Node.role_of_face hface]
    exact hfiles inner (Node.within_iff.2 (.inr ⟨child, hchild, hinner.within⟩))

/-- A flat list without a namespace for the rest of the file has flat nodes only. -/
theorem IsFlatList.isFlatNode {flats : List Node} (h : IsFlatList setting parent flats)
    (hfiles : NoFileNamespace flats) (hflat : flat ∈ flats) (hnamed : flat.named = true) :
    IsFlatNode setting parent flat := by
  obtain ⟨-, hall⟩ | ⟨pre, inner, post, -, hfile, -⟩ := h
  · -- Without such a namespace all nodes are flat, and with one there would be one in the list.
    exact hall flat hflat hnamed
  · obtain ⟨hlt, hopens, -⟩ := List.findIdx?_eq_some_iff_getElem.1 hfile
    have hrole := hfiles _ (List.getElem_mem hlt)
    simp [opensFile, hrole] at hopens

/-- The flat form of a container is a flat list. -/
theorem isFlat_cases (setting : Setting) : WalkCases
    (fun parent _ node => RegionsApart node →
      ∀ flat ∈ flatNode setting parent node, IsFlatNode setting parent flat)
    (fun parent node => RegionsApart node → IsFlatList setting parent (flatFrom setting parent node.children))
    (fun parent _ nodes => (∀ node ∈ nodes, RegionsApart node) →
      IsFlatList setting parent (flatFrom setting parent nodes))
    (fun _ nodes => (∀ node ∈ nodes, RegionsApart node) →
      ∀ flat ∈ flatRest setting nodes, flat.named = true → IsFlatNode setting (some .nameSpace) flat) where
  -- A node that is no region is flat by itself; what a region has in it is flat by induction.
  nameSpace hrole _ hapart := isFlatNode_of_ne hapart (by simp [hrole])
  declaration hrole _ hapart := isFlatNode_of_ne hapart (by simp [hrole])
  region {parent before node} hrole ih hapart flat hflat := by
    rw [flatNode_eq, hrole] at hflat
    obtain ⟨hmem, hnamed⟩ := List.mem_filter.1 hflat
    exact (ih hapart).isFlatNode (noFileNamespace_flatFrom setting parent hapart hrole) hmem hnamed
  passed hrole hapart := isFlatNode_of_ne hapart (by obtain hrole | hrole := hrole <;> simp [hrole])
  opened ih hapart := ih fun _ => hapart.child
  fromNil _ := .inl ⟨rfl, nofun⟩
  fromUnnamed {parent before node nodes} hnamed ih hapart := by
    rw [flatFrom, hnamed]
    show IsFlatList setting parent ([node] ++ flatFrom setting parent nodes)
    refine (ih (List.forall_mem_cons.1 hapart).2).append ?_ ?_
    · simp [opensFile, hnamed]
    · simp [hnamed]
  fromFile {parent before node nodes} hnamed hrole _ ih hapart := by
    obtain ⟨hfirst, hapart⟩ := List.forall_mem_cons.1 hapart
    rw [flatFrom, hnamed, if_pos hrole]
    exact isFlatList_file hfirst hnamed hrole (ih hapart)
  fromNode {parent before node nodes} hnamed hrole hlook ih hapart := by
    obtain ⟨hfirst, hapart⟩ := List.forall_mem_cons.1 hapart
    have hplace := inPlaceOf_flatNode setting parent hnamed
    rw [flatFrom, hnamed, if_neg hrole]
    refine (ih hapart).append (fun flat hflat => ?_) fun flat hflat _ => hlook hfirst flat hflat
    simp [opensFile, noFileNamespace_inPlaceOf hfirst hrole hplace flat hflat]
  restNil _ := nofun
  restUnnamed {before node nodes} hnamed ih hapart := by
    rw [flatRest, hnamed]
    refine List.forall_mem_cons.2 ⟨fun hflat => ?_, ih (List.forall_mem_cons.1 hapart).2⟩
    cases hnamed.symm.trans hflat
  restNode {before node nodes} hnamed hlook ih hapart := by
    obtain ⟨hfirst, hapart⟩ := List.forall_mem_cons.1 hapart
    rw [flatRest, hnamed]
    exact List.forall_mem_append.2 ⟨fun flat hflat _ => hlook hfirst flat hflat, ih hapart⟩

/-- The body of a node with a flat body is a flat container. -/
theorem isFlatInside_body {i : Nat} (hapart : RegionsApart node)
    (hbody : bodyIndex? (withFlatBody setting parent node) = some i) :
    ∃ body, (withFlatBody setting parent node).children[i]? = some body ∧ IsFlatInside setting parent body := by
  have hindex := hbody
  rw [bodyIndex?_eq, List.findIdx?_eq_some_iff_getElem] at hindex
  obtain ⟨hlt, -⟩ := hindex
  have hchild := List.getElem?_eq_getElem hlt
  have hfound := bodyOf?_of_bodyIndex? hbody hchild
  rw [bodyOf?_withFlatBody] at hfound
  obtain ⟨body, horigin, hflat⟩ := Option.map_eq_some_iff.1 hfound
  exact ⟨_, hchild, body, hapart.child (List.mem_of_find?_eq_some horigin), hflat.symm⟩

/-- What holds at every stage of the way through a flat tree. -/
def FlatAt (setting : Setting) (root : Node) : Path × Stage → Prop
  | (p, .opened k) => ∃ node before, root.at? [] p = some (node, before) ∧ IsFlatInside setting k node
  | (p, .looked k) => ∃ node before, root.at? [] p = some (node, before) ∧ IsFlatNode setting k node
  | (_, .mapped _) => True

/-- A step from a flat container leads to flat nodes. -/
theorem flatAt_of_opened {root : Node} {p : Path} {k : Option Kind} {next : Path × Stage}
    (h : FlatAt setting root (p, .opened k)) (hstep : Step setting root (p, .opened k) next) :
    FlatAt setting root next := by
  -- The step goes to a node before the namespace for the rest of the file, to it, or to one after it.
  obtain ⟨container, before, hat, origin, hapart, rfl⟩ := h
  have hlist := (isFlat_cases setting).open k origin hapart
  rw [← children_flatInside] at hlist
  cases hstep with
  | @child _ _ _ node _ i hat' hchild hnamed hearlier =>
    cases hat.symm.trans hat'
    refine ⟨node, _, Node.at?_child hat hchild, ?_⟩
    obtain ⟨-, hall⟩ | ⟨pre, inner, post, hsplit, hfile, -, hpre, -⟩ := hlist
    · exact hall node (List.mem_of_getElem? hchild) hnamed
    · have hlt := hearlier pre.length hfile
      rw [hsplit, List.getElem?_append_left hlt] at hchild
      exact hpre node (List.mem_of_getElem? hchild) hnamed
  | fileMapped => trivial
  | fileOpened hat' hfile' =>
    cases hat.symm.trans hat'
    obtain ⟨hnone, -⟩ | ⟨pre, inner, post, hsplit, hfile, hinner, -, -⟩ := hlist
    · cases hnone.symm.trans hfile'
    · cases hfile.symm.trans hfile'
      have hchild : (flatInside setting k origin).children[pre.length]? =
          some (flatInside setting (some .nameSpace) inner) := by
        rw [hsplit]
        simp
      exact ⟨_, _, Node.at?_child hat hchild, inner, hinner, rfl⟩
  | @following _ _ _ node _ f i hat' hfile' hlt hchild hnamed =>
    cases hat.symm.trans hat'
    refine ⟨node, _, Node.at?_child hat hchild, ?_⟩
    obtain ⟨hnone, -⟩ | ⟨pre, inner, post, hsplit, hfile, -, -, hpost⟩ := hlist
    · cases hnone.symm.trans hfile'
    · cases hfile.symm.trans hfile'
      obtain ⟨j, rfl⟩ := Nat.exists_eq_add_of_lt hlt
      rw [hsplit, List.getElem?_append_right (by omega),
        show pre.length + j + 1 - pre.length = j + 1 by omega, List.getElem?_cons_succ] at hchild
      exact hpost node (List.mem_of_getElem? hchild) hnamed

/-- A step from a flat node leads to flat containers. -/
theorem flatAt_of_looked {root : Node} {p : Path} {k : Option Kind} {next : Path × Stage}
    (h : FlatAt setting root (p, .looked k)) (hstep : Step setting root (p, .looked k) next) :
    FlatAt setting root next := by
  -- The flat node has the role of the node that it is in place of, and the role decides the step.
  obtain ⟨flat, before, hat, hflat⟩ := h
  have hregion := hflat.role_ne
  obtain ⟨node, hapart, hrole, hsingle⟩ := hflat
  obtain ⟨kept, hkept, hface⟩ := flatNode_of_ne setting k hrole
  cases hsingle.symm.trans hkept
  have hsame := Node.role_of_face hface
  rw [flatNode_eq] at hsingle
  obtain ⟨hnamespace, rfl | ⟨i, hbody, rfl⟩⟩ | ⟨kind, hkind, hshown, rfl | ⟨hnest, i, hbody, rfl⟩⟩ |
    ⟨htransparent, -⟩ := hstep.of_looked hat
  · trivial
  · rw [← hsame, hnamespace] at hsingle
    cases hsingle
    obtain ⟨body, hchild, hinside⟩ := isFlatInside_body hapart hbody
    exact ⟨body, _, Node.at?_child hat hchild, hinside⟩
  · trivial
  · rw [← hsame, hkind] at hsingle
    simp only at hsingle
    split at hsingle
    · cases hsingle
      obtain ⟨body, hchild, hinside⟩ := isFlatInside_body hapart hbody
      exact ⟨body, _, Node.at?_child hat hchild, hinside⟩
    · next henters =>
      -- A body is left as it is only if no step leads there.
      cases hsingle
      obtain ⟨modifiers, hmodifiers, hvisible⟩ := hshown
      have hcan := (canNest_iff (Syntax.Role.kind_ne_nameSpace hkind)).2 hnest
      exact absurd ((entersBody_iff hmodifiers).2 ⟨hcan, hvisible⟩) henters
  · exact absurd htransparent hregion

/-- The way through a flat tree stays flat. -/
theorem flatAt_flatTree {root : Node} (hapart : RegionsApart root) {here : Path × Stage}
    (h : ReflTransGen (Step setting (flatTree setting root)) ([], .opened none) here) :
    FlatAt setting (flatTree setting root) here := by
  induction h with
  | refl => exact ⟨_, [], rfl, root, hapart, rfl⟩
  | @tail here next _ hstep ih =>
    obtain ⟨p, _ | _ | _⟩ := here
    · exact flatAt_of_opened ih hstep
    · exact flatAt_of_looked ih hstep
    · cases hstep

/-- No node that the walk looks at in a flat tree is a region. -/
theorem flatTree_has_no_region {root : Node} (hapart : RegionsApart root) {p : Path} {k : Option Kind}
    {before : List Node}
    (h : ReflTransGen (Step setting (flatTree setting root)) ([], .opened none) (p, .looked k))
    (hat : (flatTree setting root).at? [] p = some (flat, before)) : flat.role ≠ .transparent := by
  obtain ⟨node, before', hat', hflat⟩ := flatAt_flatTree hapart h
  cases hat.symm.trans hat'
  exact hflat.role_ne

end Flatness

end ApiOutline.Outline
