import ApiOutline.Proofs.Reach

/-!
# Induction along the walk

The walk goes from a node to its body or its children, and through the children of a container one by one,
until a namespace for the rest of the file takes all that follow. `WalkCases` has one field for each of its
steps: a property of nodes and of lists of nodes that meets them holds of all nodes and lists
(`WalkCases.look`, `WalkCases.opened`). The properties are free to speak of any function that goes the same
way: the walk itself, the walk with paths, the flat form of a tree.

`PlacedCases` is the same for the tree of a root, with the paths of its nodes. The list of the nodes that are
left is then a position among the children of a container, and what stands before a node is known.
-/

namespace ApiOutline.Outline

open Syntax (Node Path)

/-! ## The equations of the walk -/

section Equations

variable (setting : Setting) (parent : Option Kind)

/-- A container is walked from its first child on. -/
theorem walkInside_eq (node : Node) :
    walkInside setting parent node = walkFrom setting parent [] node.children := by
  cases node
  rfl

/-- What a node stands for, by its role. -/
theorem walkNode_eq (before : List Node) (node : Node) :
    walkNode setting parent before node =
      match node.role with
      | .blockNamespace => do
        let inner ← walkBody setting (some .nameSpace) (isBodyAmong node.children) node.children
        let member ← .lift (namespaceMember setting.source node inner)
        return [member]
      | .declaration kind => do
        let modifiers ← .lift (modifiersOf setting.source node)
        if isVisibleIn modifiers parent setting.contextual then
          let inner ←
            if kind.canNest then walkBody setting (some kind) (isBodyAmong node.children) node.children
            else pure []
          let member ← declarationMember setting.source before node kind modifiers inner
          return [member]
        else
          .leave [.hidden kind (node.line setting.source)]
          return []
      | .transparent => walkInside setting parent node
      | .fileNamespace => pure []
      | .other => pure [] := by
  obtain ⟨type, start, stop, field, named, missing, hasError, children⟩ := node
  rw [walkNode]
  rfl

variable (before : List Node) {node : Node} (nodes : List Node)

/-- Punctuation is skipped. -/
theorem walkFrom_unnamed (hnamed : node.named = false) :
    walkFrom setting parent before (node :: nodes) = walkFrom setting parent before nodes := by
  rw [walkFrom, hnamed]
  rfl

/-- A namespace for the rest of the file takes what is in it and what follows it. -/
theorem walkFrom_file (hnamed : node.named = true) (hrole : node.role = .fileNamespace) :
    walkFrom setting parent before (node :: nodes) = do
      let inner ← walkInside setting (some .nameSpace) node
      let following ← walkRest setting (node :: before) nodes
      let member ← .lift (namespaceMember setting.source node (inner ++ following))
      return [member] := by
  rw [walkFrom, hnamed, if_pos hrole]
  rfl

/-- Any other node is looked at where it stands. -/
theorem walkFrom_node (hnamed : node.named = true) (hrole : node.role ≠ .fileNamespace) :
    walkFrom setting parent before (node :: nodes) = do
      let members ← walkNode setting parent before node
      let following ← walkFrom setting parent (node :: before) nodes
      return members ++ following := by
  rw [walkFrom, hnamed, if_neg hrole]
  rfl

/-- Punctuation is skipped after such a namespace too. -/
theorem walkRest_unnamed (hnamed : node.named = false) :
    walkRest setting before (node :: nodes) = walkRest setting before nodes := by
  rw [walkRest, hnamed]
  rfl

/-- After such a namespace a node is looked at as part of it. -/
theorem walkRest_node (hnamed : node.named = true) :
    walkRest setting before (node :: nodes) = do
      let members ← walkNode setting (some .nameSpace) before node
      let following ← walkRest setting (node :: before) nodes
      return members ++ following := by
  rw [walkRest, hnamed]
  rfl

end Equations

/-- The body of a node: the child that its members are in, if it has one. -/
def bodyOf? (node : Node) : Option Node :=
  node.children.find? (isBodyAmong node.children)

/-- The body of a node is walked as the container it is. -/
theorem walkBody_eq (setting : Setting) (parent : Option Kind) (node : Node) :
    walkBody setting parent (isBodyAmong node.children) node.children =
      match bodyOf? node with
      | none => pure []
      | some body => walkInside setting parent body := by
  unfold bodyOf?
  generalize isBodyAmong node.children = isBody
  induction node.children with
  | nil => rfl
  | cons child children ih =>
    rw [walkBody, List.find?_cons]
    cases isBody child with
    | true => rfl
    | false => exact ih

/-- The child at the position of the body is the body. -/
theorem bodyOf?_of_bodyIndex? {node body : Node} {i : Nat} (hi : bodyIndex? node = some i)
    (hbody : node.children[i]? = some body) : bodyOf? node = some body := by
  -- The body is the first child that passes the test, by position as by search.
  rw [bodyIndex?_eq, List.findIdx?_eq_some_iff_getElem] at hi
  obtain ⟨hlt, htest, hbefore⟩ := hi
  obtain ⟨-, rfl⟩ := List.getElem?_eq_some_iff.1 hbody
  rw [bodyOf?, List.find?_eq_some_iff_getElem]
  exact ⟨htest, i, hlt, rfl, fun j hj => by simpa using hbefore j hj⟩

/-! ## Along the walk -/

/-- The steps of an induction along the walk, for a property of nodes that are looked at, of containers that are
opened, of the nodes that are left in a container and of those that follow a namespace for the rest of the file.
`parent` is the kind of the declaration around, if any, and `before` what stands before in the container. -/
structure WalkCases (Look : Option Kind → List Node → Node → Prop) (Open : Option Kind → Node → Prop)
    (From : Option Kind → List Node → List Node → Prop) (Rest : List Node → List Node → Prop) : Prop where
  /-- A namespace with a body. -/
  nameSpace : ∀ {parent : Option Kind} {before : List Node} {node : Node}, node.role = .blockNamespace →
    (∀ body, bodyOf? node = some body → Open (some .nameSpace) body) → Look parent before node
  /-- Any other declaration. -/
  declaration : ∀ {parent : Option Kind} {before : List Node} {node : Node} {kind : Kind},
    node.role = .declaration kind →
    (∀ body, bodyOf? node = some body → Open (some kind) body) → Look parent before node
  /-- A container that is looked into as if it were not there. -/
  region : ∀ {parent : Option Kind} {before : List Node} {node : Node}, node.role = .transparent →
    Open parent node → Look parent before node
  /-- A node that is passed by. -/
  passed : ∀ {parent : Option Kind} {before : List Node} {node : Node},
    node.role = .fileNamespace ∨ node.role = .other → Look parent before node
  /-- A container holds its children. -/
  opened : ∀ {parent : Option Kind} {node : Node}, From parent [] node.children → Open parent node
  fromNil : ∀ {parent : Option Kind} {before : List Node}, From parent before []
  /-- A node that carries no structure is skipped. -/
  fromUnnamed : ∀ {parent : Option Kind} {before : List Node} {node : Node} {nodes : List Node},
    node.named = false → From parent before nodes → From parent before (node :: nodes)
  /-- A namespace for the rest of the file takes all that follow. -/
  fromFile : ∀ {parent : Option Kind} {before : List Node} {node : Node} {nodes : List Node},
    node.named = true → node.role = .fileNamespace → Open (some .nameSpace) node →
    Rest (node :: before) nodes → From parent before (node :: nodes)
  /-- Any other node is looked at. -/
  fromNode : ∀ {parent : Option Kind} {before : List Node} {node : Node} {nodes : List Node},
    node.named = true → node.role ≠ .fileNamespace → Look parent before node →
    From parent (node :: before) nodes → From parent before (node :: nodes)
  restNil : ∀ {before : List Node}, Rest before []
  restUnnamed : ∀ {before : List Node} {node : Node} {nodes : List Node}, node.named = false →
    Rest before nodes → Rest before (node :: nodes)
  /-- What follows is looked at as part of the namespace. -/
  restNode : ∀ {before : List Node} {node : Node} {nodes : List Node}, node.named = true →
    Look (some .nameSpace) before node → Rest (node :: before) nodes → Rest before (node :: nodes)

section WalkCases

variable {Look : Option Kind → List Node → Node → Prop} {Open : Option Kind → Node → Prop}
  {From : Option Kind → List Node → List Node → Prop} {Rest : List Node → List Node → Prop}

-- The recursion of the walk, once: on the node that is looked at or opened, and on the list that is left.
mutual

/-- The property holds of every node that is looked at. -/
theorem WalkCases.look (h : WalkCases Look Open From Rest) (parent : Option Kind) (before : List Node) :
    ∀ node : Node, Look parent before node
  | ⟨type, start, stop, field, named, missing, hasError, children⟩ => by
    have hbody := fun kind => h.openedBody kind (isBodyAmong children) children
    cases hrole : Node.role ⟨type, start, stop, field, named, missing, hasError, children⟩ with
    | blockNamespace => exact h.nameSpace hrole (hbody (some .nameSpace))
    | declaration kind => exact h.declaration hrole (hbody (some kind))
    | transparent => exact h.region hrole (h.opened (h.leftFrom parent [] children))
    | fileNamespace => exact h.passed (.inl hrole)
    | other => exact h.passed (.inr hrole)
termination_by structural node => node

/-- The property holds of the body among the nodes. -/
theorem WalkCases.openedBody (h : WalkCases Look Open From Rest) (parent : Option Kind)
    (isBody : Node → Bool) : ∀ (nodes : List Node) (body : Node), nodes.find? isBody = some body →
      Open parent body
  | [], body, hfound => by cases hfound
  | node :: nodes, body, hfound => by
    rw [List.find?_cons] at hfound
    split at hfound
    · cases hfound
      exact h.open parent node
    · exact h.openedBody parent isBody nodes body hfound
termination_by structural nodes => nodes

/-- The property holds of every container that is opened. -/
theorem WalkCases.open (h : WalkCases Look Open From Rest) (parent : Option Kind) :
    ∀ node : Node, Open parent node
  | ⟨_, _, _, _, _, _, _, children⟩ => h.opened (h.leftFrom parent [] children)
termination_by structural node => node

/-- The property holds of the nodes that are left in a container. -/
theorem WalkCases.leftFrom (h : WalkCases Look Open From Rest) (parent : Option Kind) (before : List Node) :
    ∀ nodes : List Node, From parent before nodes
  | [] => h.fromNil
  | node :: nodes => by
    cases hnamed : node.named with
    | false => exact h.fromUnnamed hnamed (h.leftFrom parent before nodes)
    | true =>
      by_cases hrole : node.role = .fileNamespace
      · exact h.fromFile hnamed hrole (h.open _ node) (h.leftRest _ nodes)
      · exact h.fromNode hnamed hrole (h.look parent before node) (h.leftFrom parent _ nodes)
termination_by structural nodes => nodes

/-- The property holds of the nodes that follow a namespace for the rest of the file. -/
theorem WalkCases.leftRest (h : WalkCases Look Open From Rest) (before : List Node) :
    ∀ nodes : List Node, Rest before nodes
  | [] => h.restNil
  | node :: nodes => by
    cases hnamed : node.named with
    | false => exact h.restUnnamed hnamed (h.leftRest before nodes)
    | true => exact h.restNode hnamed (h.look _ before node) (h.leftRest _ nodes)
termination_by structural nodes => nodes

end

end WalkCases

/-! ## Along the walk through the tree of a root -/

/-- What is left at a position starts with the item there. -/
theorem of_drop_eq_cons {α : Type} {items rest : List α} {item : α} {i : Nat}
    (h : items.drop i = item :: rest) : items[i]? = some item ∧ items.drop (i + 1) = rest := by
  constructor
  · rw [← List.head?_drop, h, List.head?_cons]
  · rw [← List.tail_drop, h, List.tail_cons]

/-- The item at a position starts what is left there. -/
theorem drop_eq_cons {α : Type} {items : List α} {item : α} {i : Nat} (h : items[i]? = some item) :
    items.drop i = item :: items.drop (i + 1) := by
  obtain ⟨hlt, rfl⟩ := List.getElem?_eq_some_iff.1 h
  exact List.drop_eq_getElem_cons hlt

/-- The named siblings before a position, the nearest first. -/
def namedBefore (nodes : List Node) (i : Nat) : List Node :=
  ((nodes.take i).filter (·.named)).reverse

/-- One position further, a named node is the nearest. -/
theorem namedBefore_succ {nodes : List Node} {node : Node} {i : Nat} (hnode : nodes[i]? = some node) :
    namedBefore nodes (i + 1) =
      if node.named then node :: namedBefore nodes i else namedBefore nodes i := by
  unfold namedBefore
  rw [List.take_add_one, hnode, List.filter_append, List.reverse_append]
  cases hnamed : node.named <;> simp [hnamed]

section Files

variable {container node : Node} {i : Nat} (hchild : container.children[i]? = some node)
  (hfile : ∀ f, fileIndex? container = some f → i ≤ f)

include hchild hfile

/-- A child that is no namespace for the rest of the file leaves the first one further on. -/
theorem lt_fileIndex (hnot : opensFile node = false) : ∀ f, fileIndex? container = some f → i + 1 ≤ f := by
  intro f hf
  obtain rfl | hlt := Nat.eq_or_lt_of_le (hfile f hf)
  · obtain ⟨other, hother, hnamed, hrole⟩ := fileIndex?_eq_some hf
    cases hchild.symm.trans hother
    simp [opensFile, hnamed, hrole] at hnot
  · exact hlt

/-- The first child from which on the first namespace for the rest of the file is found, if it is
one, is at its position. -/
theorem fileIndex_eq (hopens : opensFile node = true) : fileIndex? container = some i := by
  obtain ⟨hlt, hget⟩ := List.getElem?_eq_some_iff.1 hchild
  cases hf : fileIndex? container with
  | none =>
    -- The child itself would have been found.
    have hnone := List.findIdx?_eq_none_iff.1 hf node (List.mem_of_getElem? hchild)
    rw [hopens] at hnone
    cases hnone
  | some f =>
    -- The one that is found is the first, and it is not before the child.
    obtain ⟨hlt', -, hbefore⟩ := List.findIdx?_eq_some_iff_getElem.1 hf
    obtain rfl | hif := Nat.eq_or_lt_of_le (hfile f hf)
    · rfl
    · exact absurd (hget ▸ hopens) (hbefore i hif)

end Files

/-- The steps of an induction along the walk through the tree of a root, for a property of nodes at a path
that are looked at, of containers at a path that are opened, of the children of a container from a position on,
and of those children if they follow a namespace for the rest of the file. -/
structure PlacedCases (root : Node) (Look : Path → Option Kind → List Node → Node → Prop)
    (Open : Path → Option Kind → Node → Prop) (From Rest : Path → Option Kind → Node → Nat → Prop) :
    Prop where
  /-- A namespace with a body, which is at its position among the children. -/
  nameSpace : ∀ {pre : Path} {parent : Option Kind} {before : List Node} {node : Node},
    root.at? [] pre = some (node, before) → node.role = .blockNamespace →
    (∀ i body, bodyIndex? node = some i → node.children[i]? = some body →
      Open (pre ++ [i]) (some .nameSpace) body) → Look pre parent before node
  /-- Any other declaration. -/
  declaration : ∀ {pre : Path} {parent : Option Kind} {before : List Node} {node : Node} {kind : Kind},
    root.at? [] pre = some (node, before) → node.role = .declaration kind →
    (∀ i body, bodyIndex? node = some i → node.children[i]? = some body →
      Open (pre ++ [i]) (some kind) body) → Look pre parent before node
  /-- A container that is looked into as if it were not there. -/
  region : ∀ {pre : Path} {parent : Option Kind} {before : List Node} {node : Node},
    root.at? [] pre = some (node, before) → node.role = .transparent → Open pre parent node →
    Look pre parent before node
  /-- A node that is passed by. -/
  passed : ∀ {pre : Path} {parent : Option Kind} {before : List Node} {node : Node},
    root.at? [] pre = some (node, before) → node.role = .fileNamespace ∨ node.role = .other →
    Look pre parent before node
  /-- A container holds its children, from the first one on. -/
  opened : ∀ {pre : Path} {parent : Option Kind} {before : List Node} {node : Node},
    root.at? [] pre = some (node, before) → From pre parent node 0 → Open pre parent node
  fromNil : ∀ {pre : Path} {parent : Option Kind} {container : Node} {i : Nat},
    container.children.drop i = [] → From pre parent container i
  /-- A child that carries no structure is skipped. -/
  fromUnnamed : ∀ {pre : Path} {parent : Option Kind} {container node : Node} {i : Nat},
    container.children[i]? = some node → node.named = false → From pre parent container (i + 1) →
    From pre parent container i
  /-- The first namespace for the rest of the file is opened, and what follows is part of it. -/
  fromFile : ∀ {pre : Path} {parent : Option Kind} {siblings : List Node} {container node : Node} {i : Nat},
    root.at? [] pre = some (container, siblings) → container.children[i]? = some node →
    node.named = true → node.role = .fileNamespace → fileIndex? container = some i →
    Open (pre ++ [i]) (some .nameSpace) node → Rest pre parent container (i + 1) →
    From pre parent container i
  /-- Before the first namespace for the rest of the file a child is looked at. -/
  fromNode : ∀ {pre : Path} {parent : Option Kind} {siblings : List Node} {container node : Node} {i : Nat},
    root.at? [] pre = some (container, siblings) → container.children[i]? = some node →
    node.named = true → node.role ≠ .fileNamespace → (∀ f, fileIndex? container = some f → i + 1 ≤ f) →
    Look (pre ++ [i]) parent (namedBefore container.children i) node →
    From pre parent container (i + 1) → From pre parent container i
  restNil : ∀ {pre : Path} {parent : Option Kind} {container : Node} {i : Nat},
    container.children.drop i = [] → Rest pre parent container i
  restUnnamed : ∀ {pre : Path} {parent : Option Kind} {container node : Node} {i : Nat},
    container.children[i]? = some node → node.named = false → Rest pre parent container (i + 1) →
    Rest pre parent container i
  /-- After the first namespace for the rest of the file a child is looked at as part of it. -/
  restNode : ∀ {pre : Path} {parent : Option Kind} {siblings : List Node} {container node : Node}
    {f i : Nat}, root.at? [] pre = some (container, siblings) → container.children[i]? = some node →
    node.named = true → fileIndex? container = some f → f < i →
    Look (pre ++ [i]) (some .nameSpace) (namedBefore container.children i) node →
    Rest pre parent container (i + 1) → Rest pre parent container i

section PlacedCases

variable {root : Node} {Look : Path → Option Kind → List Node → Node → Prop}
  {Open : Path → Option Kind → Node → Prop} {From Rest : Path → Option Kind → Node → Nat → Prop}

/-- An induction with paths is one along the walk. The path of a container is fixed while its children are gone
through, and `drop` ties the nodes that are left to the container, so that positions are absolute. -/
theorem PlacedCases.walkCases (h : PlacedCases root Look Open From Rest) : WalkCases
    (fun parent before node => ∀ pre, root.at? [] pre = some (node, before) → Look pre parent before node)
    (fun parent node => ∀ pre before, root.at? [] pre = some (node, before) → Open pre parent node)
    (fun parent before nodes => ∀ pre container siblings i, root.at? [] pre = some (container, siblings) →
      container.children.drop i = nodes → namedBefore container.children i = before →
      (∀ f, fileIndex? container = some f → i ≤ f) → From pre parent container i)
    (fun before nodes => ∀ pre parent container siblings f i,
      root.at? [] pre = some (container, siblings) → container.children.drop i = nodes →
      namedBefore container.children i = before → fileIndex? container = some f → f < i →
      Rest pre parent container i) where
  nameSpace hrole ih pre hat := h.nameSpace hat hrole fun i body hi hbody =>
    ih body (bodyOf?_of_bodyIndex? hi hbody) _ _ (Node.at?_child hat hbody)
  declaration hrole ih pre hat := h.declaration hat hrole fun i body hi hbody =>
    ih body (bodyOf?_of_bodyIndex? hi hbody) _ _ (Node.at?_child hat hbody)
  region hrole ih pre hat := h.region hat hrole (ih pre _ hat)
  passed hrole pre hat := h.passed hat hrole
  opened ih pre before hat := h.opened hat (ih pre _ _ 0 hat List.drop_zero rfl fun _ _ => Nat.zero_le _)
  fromNil pre container siblings i hat hdrop hbefore hfile := h.fromNil hdrop
  fromUnnamed hnamed ih pre container siblings i hat hdrop hbefore hfile := by
    -- The child stands at the position, and the others from the next one on.
    obtain ⟨hchild, hdrop⟩ := of_drop_eq_cons hdrop
    have hnext := lt_fileIndex hchild hfile (by simp [opensFile, hnamed])
    refine h.fromUnnamed hchild hnamed (ih pre container siblings (i + 1) hat hdrop ?_ hnext)
    rw [namedBefore_succ hchild, hnamed, if_neg Bool.false_ne_true, hbefore]
  fromFile hnamed hrole hopen ih pre container siblings i hat hdrop hbefore hfile := by
    obtain ⟨hchild, hdrop⟩ := of_drop_eq_cons hdrop
    -- No namespace for the rest of the file stands before, so this one is the first.
    have hindex := fileIndex_eq hchild hfile (by simp [opensFile, hnamed, hrole])
    refine h.fromFile hat hchild hnamed hrole hindex (hopen _ _ (Node.at?_child hat hchild))
      (ih pre _ container siblings i (i + 1) hat hdrop ?_ hindex (Nat.lt_succ_self i))
    rw [namedBefore_succ hchild, hnamed, if_pos rfl, hbefore]
  fromNode hnamed hrole hlook ih pre container siblings i hat hdrop hbefore hfile := by
    obtain ⟨hchild, hdrop⟩ := of_drop_eq_cons hdrop
    have hnext := lt_fileIndex hchild hfile (by simp [opensFile, hrole])
    subst hbefore
    refine h.fromNode hat hchild hnamed hrole hnext (hlook _ (Node.at?_child hat hchild))
      (ih pre container siblings (i + 1) hat hdrop ?_ hnext)
    rw [namedBefore_succ hchild, hnamed, if_pos rfl]
  restNil pre parent container siblings f i hat hdrop hbefore hfile hlt := h.restNil hdrop
  restUnnamed hnamed ih pre parent container siblings f i hat hdrop hbefore hfile hlt := by
    obtain ⟨hchild, hdrop⟩ := of_drop_eq_cons hdrop
    refine h.restUnnamed hchild hnamed
      (ih pre parent container siblings f (i + 1) hat hdrop ?_ hfile (Nat.lt_succ_of_lt hlt))
    rw [namedBefore_succ hchild, hnamed, if_neg Bool.false_ne_true, hbefore]
  restNode hnamed hlook ih pre parent container siblings f i hat hdrop hbefore hfile hlt := by
    obtain ⟨hchild, hdrop⟩ := of_drop_eq_cons hdrop
    subst hbefore
    refine h.restNode hat hchild hnamed hfile hlt (hlook _ (Node.at?_child hat hchild))
      (ih pre parent container siblings f (i + 1) hat hdrop ?_ hfile (Nat.lt_succ_of_lt hlt))
    rw [namedBefore_succ hchild, hnamed, if_pos rfl]

/-- The property holds of every node at a path of the tree that is looked at. -/
theorem PlacedCases.look (h : PlacedCases root Look Open From Rest) {pre : Path} {before : List Node}
    {node : Node} (hat : root.at? [] pre = some (node, before)) (parent : Option Kind) :
    Look pre parent before node :=
  h.walkCases.look parent before node pre hat

/-- The property holds of every container at a path of the tree that is opened. -/
theorem PlacedCases.open (h : PlacedCases root Look Open From Rest) {pre : Path} {before : List Node}
    {node : Node} (hat : root.at? [] pre = some (node, before)) (parent : Option Kind) :
    Open pre parent node :=
  h.walkCases.open parent node pre before hat

/-- The property holds of the root, if it is opened. -/
theorem PlacedCases.openRoot (h : PlacedCases root Look Open From Rest) (parent : Option Kind) :
    Open [] parent root :=
  h.open rfl parent

/-- The property holds of the children of a container from a position on, up to the first namespace for the rest
of the file. -/
theorem PlacedCases.children (h : PlacedCases root Look Open From Rest) {pre : Path} {siblings : List Node}
    {container : Node} {i : Nat} (hat : root.at? [] pre = some (container, siblings))
    (hfile : ∀ f, fileIndex? container = some f → i ≤ f) (parent : Option Kind) :
    From pre parent container i :=
  h.walkCases.leftFrom parent _ _ pre container siblings i hat rfl rfl hfile

/-- The property holds of the children of a container that follow a namespace for the rest of the file. -/
theorem PlacedCases.later (h : PlacedCases root Look Open From Rest) {pre : Path} {siblings : List Node}
    {container : Node} {f i : Nat} (hat : root.at? [] pre = some (container, siblings))
    (hfile : fileIndex? container = some f) (hlt : f < i) (parent : Option Kind) :
    Rest pre parent container i :=
  h.walkCases.leftRest _ _ pre parent container siblings f i hat rfl rfl hfile hlt

end PlacedCases

end ApiOutline.Outline
