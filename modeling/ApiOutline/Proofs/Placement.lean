import ApiOutline.Proofs.Forest
import ApiOutline.Proofs.Outcome
import ApiOutline.Proofs.WalkInduction
import Mathlib.Data.List.Lex
import Mathlib.Order.Basic

/-!
# Where the members of an outline come from

The walk again, with each member beside the path of the node from which it is built. Without the paths
it is the walk itself (`placeInside_erase`).

`Covers` says of a placed forest that the places in it are those of a set, that their paths are
strictly increasing, and that each member is built from the node at its path. It is put together from
the smaller parts of a forest as the walk puts the forest together, and so holds of every part of the
walk for the set of the places that the part leads to.
-/

namespace ApiOutline.Outline

open Syntax (Node Path)

/-- A member with the path of the node it is built from, and its children likewise. -/
structure Placed where
  path : Path
  member : Member
  inner : List Placed

mutual

/-- A placed member and all that is nested in it. -/
def Placed.preorder : Placed → List Placed
  | ⟨path, member, inner⟩ => ⟨path, member, inner⟩ :: placedPreorder inner

/-- A placed forest and all that is nested in it. -/
def placedPreorder : List Placed → List Placed
  | [] => []
  | placed :: others => placed.preorder ++ placedPreorder others

end

mutual

/-- The places of a member inside one of the given kind, if any, and of all that is nested in it. -/
def Placed.places (parent : Option Kind) : Placed → List Place
  | ⟨path, member, inner⟩ => (parent, path) :: placesOf (some member.kind) inner

/-- The places in a forest inside a member of the given kind, if any. -/
def placesOf (parent : Option Kind) : List Placed → List Place
  | [] => []
  | placed :: others => placed.places parent ++ placesOf parent others

end

/-- The forest without the paths. -/
def membersOf (placed : List Placed) : List Member :=
  placed.map Placed.member

mutual

/-- The members that the node at a path stands for. -/
def placeNode (setting : Setting) (pre : Path) (parent : Option Kind) (before : List Node) :
    Node → Except Fault (List Placed)
  | ⟨type, start, stop, field, named, missing, hasError, children⟩ =>
    let node : Node := ⟨type, start, stop, field, named, missing, hasError, children⟩
    match Syntax.Role.of type with
    | .blockNamespace => do
      let inner ← placeBody setting pre 0 (some .nameSpace) (isBodyAmong children) children
      let member ← namespaceMember setting.source node (membersOf inner)
      return [⟨pre, member, inner⟩]
    | .declaration kind => do
      let modifiers ← modifiersOf setting.source node
      if isVisibleIn modifiers parent setting.contextual then
        let inner ←
          if kind.canNest then placeBody setting pre 0 (some kind) (isBodyAmong children) children
          else pure []
        let member ←
          (declarationMember setting.source before node kind modifiers (membersOf inner)).outcome
        return [⟨pre, member, inner⟩]
      else return []
    | .transparent => placeFrom setting pre 0 parent [] children
    | .fileNamespace => pure []
    | .other => pure []

/-- The members in the first of the children from position `i` on that is the body. -/
def placeBody (setting : Setting) (pre : Path) (i : Nat) (parent : Option Kind)
    (isBody : Node → Bool) : List Node → Except Fault (List Placed)
  | [] => pure []
  | node :: nodes =>
    if isBody node then placeInside setting (pre ++ [i]) parent node
    else placeBody setting pre (i + 1) parent isBody nodes

/-- The members inside the container at a path. -/
def placeInside (setting : Setting) (pre : Path) (parent : Option Kind) :
    Node → Except Fault (List Placed)
  | ⟨_, _, _, _, _, _, _, children⟩ => placeFrom setting pre 0 parent [] children

/-- The members among the children from position `i` on of the container at a path. -/
def placeFrom (setting : Setting) (pre : Path) (i : Nat) (parent : Option Kind)
    (before : List Node) : List Node → Except Fault (List Placed)
  | [] => pure []
  | node :: nodes =>
    if !node.named then placeFrom setting pre (i + 1) parent before nodes
    else if node.role = .fileNamespace then do
      let inner ← placeInside setting (pre ++ [i]) (some .nameSpace) node
      let following ← placeRest setting pre (i + 1) (node :: before) nodes
      let member ← namespaceMember setting.source node (membersOf (inner ++ following))
      return [⟨pre ++ [i], member, inner ++ following⟩]
    else do
      let placed ← placeNode setting (pre ++ [i]) parent before node
      let following ← placeFrom setting pre (i + 1) parent (node :: before) nodes
      return placed ++ following

/-- The members among the children from position `i` on, after a namespace for the rest of the
file. -/
def placeRest (setting : Setting) (pre : Path) (i : Nat) (before : List Node) :
    List Node → Except Fault (List Placed)
  | [] => pure []
  | node :: nodes =>
    if !node.named then placeRest setting pre (i + 1) before nodes
    else do
      let placed ← placeNode setting (pre ++ [i]) (some .nameSpace) before node
      let following ← placeRest setting pre (i + 1) (node :: before) nodes
      return placed ++ following

end

/-- The members of a whole tree, each with the path of its node. -/
def placeTree (setting : Setting) (root : Node) : Except Fault (List Placed) :=
  placeInside setting [] none root

/-! ## The equations of the walk with paths

The children of a container are gone through by their positions: `placeChildren` and `placeLater` are
`placeFrom` and `placeRest` from a position on, and there is one equation for each step of the walk. -/

/-- The members in the body of a node, inside a member of the given kind. -/
def placeInner (setting : Setting) (pre : Path) (kind : Kind) (node : Node) :
    Except Fault (List Placed) :=
  placeBody setting pre 0 (some kind) (isBodyAmong node.children) node.children

/-- The members inside a declaration: those in its body, if its kind nests. -/
def placeContents (setting : Setting) (pre : Path) (kind : Kind) (node : Node) :
    Except Fault (List Placed) :=
  if kind.canNest then placeInner setting pre kind node else pure []

/-- The members among the children of a container from a position on. -/
def placeChildren (setting : Setting) (pre : Path) (parent : Option Kind) (container : Node) (i : Nat) :
    Except Fault (List Placed) :=
  placeFrom setting pre i parent (namedBefore container.children i) (container.children.drop i)

/-- The members among the children of a container from a position on, after a namespace for the rest of the
file. -/
def placeLater (setting : Setting) (pre : Path) (container : Node) (i : Nat) : Except Fault (List Placed) :=
  placeRest setting pre i (namedBefore container.children i) (container.children.drop i)

section Equations

variable {setting : Setting} {pre : Path} {parent : Option Kind} {container node : Node} {i : Nat}

/-- What a node stands for, by its role. -/
theorem placeNode_eq (before : List Node) (node : Node) :
    placeNode setting pre parent before node =
      match node.role with
      | .blockNamespace => do
        let inner ← placeInner setting pre .nameSpace node
        let member ← namespaceMember setting.source node (membersOf inner)
        return [⟨pre, member, inner⟩]
      | .declaration kind => do
        let modifiers ← modifiersOf setting.source node
        if isVisibleIn modifiers parent setting.contextual then
          let inner ← placeContents setting pre kind node
          let member ←
            (declarationMember setting.source before node kind modifiers (membersOf inner)).outcome
          return [⟨pre, member, inner⟩]
        else return []
      | .transparent => placeInside setting pre parent node
      | .fileNamespace => pure []
      | .other => pure [] := by
  obtain ⟨type, start, stop, field, named, missing, hasError, children⟩ := node
  rw [placeNode, Node.role]
  cases Syntax.Role.of type with
  | declaration kind =>
    cases kind <;> rfl
  | blockNamespace => rfl
  | transparent => rfl
  | fileNamespace => rfl
  | other => rfl

/-- What the walk gives for a declaration: nothing if it is not visible, or else its member around its
contents. -/
theorem placeNode_declaration {kind : Kind} {before : List Node} {placed : List Placed}
    (hrole : node.role = .declaration kind) :
    placeNode setting pre parent before node = .ok placed ↔
      ∃ modifiers, modifiersOf setting.source node = .ok modifiers ∧
        if isVisibleIn modifiers parent setting.contextual = true then
          ∃ inner member, placeContents setting pre kind node = .ok inner ∧
            (declarationMember setting.source before node kind modifiers (membersOf inner)).outcome =
              .ok member ∧ placed = [⟨pre, member, inner⟩]
        else placed = [] := by
  simp only [placeNode_eq, hrole, Outcome.bind_eq_ok]
  refine exists_congr fun modifiers => and_congr_right fun _ => ?_
  split_ifs <;> simp only [Outcome.bind_eq_ok, Outcome.pure_eq_ok, exists_and_left]

/-- A namespace is its member around the members in its body. -/
theorem placeNode_namespace {before : List Node} {placed : List Placed}
    (hrole : node.role = .blockNamespace) :
    placeNode setting pre parent before node = .ok placed ↔
      ∃ inner member, placeInner setting pre .nameSpace node = .ok inner ∧
        namespaceMember setting.source node (membersOf inner) = .ok member ∧
        placed = [⟨pre, member, inner⟩] := by
  simp only [placeNode_eq, hrole, Outcome.bind_eq_ok, Outcome.pure_eq_ok, exists_and_left]

/-- The members inside a container are those of its children. -/
theorem placeInside_eq (container : Node) :
    placeInside setting pre parent container = placeChildren setting pre parent container 0 := by
  cases container
  rfl

/-- Without a body among the nodes there are no members. -/
theorem placeBody_eq_nil {isBody : Node → Bool} {nodes : List Node} (h : nodes.findIdx? isBody = none)
    (j : Nat) : placeBody setting pre j parent isBody nodes = pure [] := by
  induction nodes generalizing j with
  | nil => rfl
  | cons child nodes ih =>
    rw [List.findIdx?_cons] at h
    split_ifs at h with hbody
    rw [placeBody, if_neg hbody]
    exact ih (Option.map_eq_none_iff.1 h) (j + 1)

/-- The body among the nodes is opened as the container it is. -/
theorem placeBody_eq_inside {isBody : Node → Bool} {nodes : List Node} {body : Node}
    (h : nodes.findIdx? isBody = some i) (hbody : nodes[i]? = some body) (j : Nat) :
    placeBody setting pre j parent isBody nodes = placeInside setting (pre ++ [j + i]) parent body := by
  induction nodes generalizing i j with
  | nil => cases hbody
  | cons child nodes ih =>
    rw [List.findIdx?_cons] at h
    rw [placeBody]
    split_ifs at h ⊢
    · cases h
      cases hbody
      rfl
    · obtain ⟨k, hk, rfl⟩ := Option.map_eq_some_iff.1 h
      rw [ih hk hbody, Nat.add_assoc, Nat.add_comm 1]

/-- A node has no body and nothing in it, or its body is opened. -/
theorem placeInner_cases (pre : Path) (kind : Kind) (node : Node) :
    (bodyIndex? node = none ∧ bodyOf? node = none ∧
        ∀ setting, placeInner setting pre kind node = .ok []) ∨
      ∃ i body, bodyIndex? node = some i ∧ node.children[i]? = some body ∧ bodyOf? node = some body ∧
        ∀ setting, placeInner setting pre kind node =
          placeInside setting (pre ++ [i]) (some kind) body := by
  -- The index of the body and the body itself are found by one test.
  have hindex := bodyIndex?_eq node
  cases hi : bodyIndex? node with
  | none =>
    rw [hi] at hindex
    refine .inl ⟨rfl, ?_, fun setting => placeBody_eq_nil hindex.symm 0⟩
    rw [bodyOf?, List.find?_eq_none]
    intro child hchild
    simpa using List.findIdx?_eq_none_iff.1 hindex.symm child hchild
  | some i =>
    rw [hi] at hindex
    obtain ⟨hlt, -⟩ := List.findIdx?_eq_some_iff_getElem.1 hindex.symm
    have hbody := List.getElem?_eq_getElem hlt
    refine .inr ⟨i, _, rfl, hbody, bodyOf?_of_bodyIndex? hi hbody, fun setting => ?_⟩
    rw [placeInner, placeBody_eq_inside hindex.symm hbody, Nat.zero_add]

/-- Past the last child there are no members. -/
theorem placeChildren_nil (h : container.children.drop i = []) :
    placeChildren setting pre parent container i = .ok [] := by
  rw [placeChildren, h]
  rfl

/-- Past the last child there are none after the namespace either. -/
theorem placeLater_nil (h : container.children.drop i = []) : placeLater setting pre container i = .ok [] := by
  rw [placeLater, h]
  rfl

variable (hchild : container.children[i]? = some node)

include hchild

/-- A node that carries no structure is skipped. -/
theorem placeChildren_unnamed (hnamed : node.named = false) :
    placeChildren setting pre parent container i = placeChildren setting pre parent container (i + 1) := by
  rw [placeChildren, drop_eq_cons hchild, placeFrom, placeChildren, namedBefore_succ hchild]
  simp [hnamed]

/-- A namespace for the rest of the file takes what it holds and all that follow. -/
theorem placeChildren_file (hnamed : node.named = true) (hrole : node.role = .fileNamespace) :
    placeChildren setting pre parent container i = do
      let inner ← placeInside setting (pre ++ [i]) (some .nameSpace) node
      let following ← placeLater setting pre container (i + 1)
      let member ← namespaceMember setting.source node (membersOf (inner ++ following))
      return [⟨pre ++ [i], member, inner ++ following⟩] := by
  rw [placeChildren, drop_eq_cons hchild, placeFrom, placeLater, namedBefore_succ hchild]
  simp only [hnamed, hrole, Bool.not_true, Bool.false_eq_true, if_false, if_true]

/-- Any other node is looked at. -/
theorem placeChildren_node (hnamed : node.named = true) (hrole : node.role ≠ .fileNamespace) :
    placeChildren setting pre parent container i = do
      let placed ← placeNode setting (pre ++ [i]) parent (namedBefore container.children i) node
      let following ← placeChildren setting pre parent container (i + 1)
      return placed ++ following := by
  rw [placeChildren, drop_eq_cons hchild, placeFrom, placeChildren, namedBefore_succ hchild]
  simp only [hnamed, hrole, Bool.not_true, Bool.false_eq_true, if_false, if_true]

/-- After the namespace a node that carries no structure is skipped, too. -/
theorem placeLater_unnamed (hnamed : node.named = false) :
    placeLater setting pre container i = placeLater setting pre container (i + 1) := by
  rw [placeLater, drop_eq_cons hchild, placeRest, placeLater, namedBefore_succ hchild]
  simp [hnamed]

/-- What follows the namespace is looked at as part of it. -/
theorem placeLater_node (hnamed : node.named = true) :
    placeLater setting pre container i = do
      let placed ←
        placeNode setting (pre ++ [i]) (some .nameSpace) (namedBefore container.children i) node
      let following ← placeLater setting pre container (i + 1)
      return placed ++ following := by
  rw [placeLater, drop_eq_cons hchild, placeRest, placeLater, namedBefore_succ hchild]
  simp only [hnamed, Bool.not_true, Bool.false_eq_true, if_false, if_true]

end Equations

/-! ## Without the paths -/

/-- Nothing is placed in the empty forest. -/
@[simp]
theorem membersOf_nil : membersOf [] = [] := rfl

/-- Forests side by side have the members of each. -/
@[simp]
theorem membersOf_append (placed others : List Placed) :
    membersOf (placed ++ others) = membersOf placed ++ membersOf others :=
  List.map_append

section Erasure

variable {α β γ δ : Type}

/-- Two sequences of steps agree up to erasure if their first steps do and the rest does. -/
theorem bind_erase {x : Except Fault α} {erase : α → β} {erase' : δ → γ}
    {f : β → Except Fault γ} {g : α → Except Fault δ}
    (h : ∀ a, f (erase a) = (g a).map erase') :
    (x.map erase).bind f = (x >>= g).map erase' := by
  cases x with
  | error fault => rfl
  | ok a => exact h a

/-- Two sequences of steps that start alike agree up to erasure if the rest does. -/
theorem bind_erase_rest {x : Except Fault α} {erase' : δ → γ}
    {f : α → Except Fault γ} {g : α → Except Fault δ} (h : ∀ a, f a = (g a).map erase') :
    x.bind f = (x >>= g).map erase' := by
  cases x with
  | error fault => rfl
  | ok a => exact h a

end Erasure

/-- A part of the walk and the same part with paths agree, up to the paths. -/
def SameMembers (walked : Walked (List Member)) (placed : Except Fault (List Placed)) : Prop :=
  walked.outcome = placed.map membersOf

/-- The contents of a node agree if its body does. -/
theorem sameMembers_placeInner {setting : Setting} {kind : Kind} {node : Node} (pre : Path)
    (h : ∀ body, bodyOf? node = some body → ∀ pre,
      SameMembers (walkInside setting (some kind) body) (placeInside setting pre (some kind) body)) :
    SameMembers (walkBody setting (some kind) (isBodyAmong node.children) node.children)
      (placeInner setting pre kind node) := by
  rw [walkBody_eq]
  obtain ⟨-, hbody, hinner⟩ | ⟨i, body, -, -, hbody, hinner⟩ := placeInner_cases pre kind node
  · rw [hbody, hinner]
    rfl
  · rw [hbody, hinner]
    exact h body hbody _

/-- Without the paths, what is placed is what is walked. -/
theorem sameMembers_cases (setting : Setting) : WalkCases
    (fun parent before node => ∀ pre,
      SameMembers (walkNode setting parent before node) (placeNode setting pre parent before node))
    (fun parent node => ∀ pre,
      SameMembers (walkInside setting parent node) (placeInside setting pre parent node))
    (fun parent before nodes => ∀ pre i,
      SameMembers (walkFrom setting parent before nodes) (placeFrom setting pre i parent before nodes))
    (fun before nodes => ∀ pre i,
      SameMembers (walkRest setting before nodes) (placeRest setting pre i before nodes)) where
  nameSpace {parent before node} hrole ih pre := by
    have hinner := sameMembers_placeInner pre ih
    unfold SameMembers at hinner ⊢
    simp only [walkNode_eq, placeNode_eq, hrole, Traced.outcome_bind, Traced.outcome_lift, hinner]
    refine bind_erase fun inner => ?_
    exact bind_erase_rest fun member => rfl
  declaration {parent before node kind} hrole ih pre := by
    have hinner := sameMembers_placeInner pre ih
    unfold SameMembers at hinner ⊢
    simp only [walkNode_eq, placeNode_eq, hrole, Traced.outcome_bind, Traced.outcome_lift]
    refine bind_erase_rest fun modifiers => ?_
    split_ifs with hvisible hnest
    · -- The declaration nests, or it is a leaf; or it is hidden, and both walks give nothing.
      simp only [Traced.outcome_bind, hinner, placeContents, if_pos hnest]
      refine bind_erase fun inner => ?_
      exact bind_erase_rest fun member => rfl
    · simp only [Traced.outcome_bind, Traced.outcome_pure, placeContents, if_neg hnest]
      show ((Except.ok []).map membersOf).bind _ = _
      refine bind_erase fun inner => ?_
      exact bind_erase_rest fun member => rfl
    · rfl
  region {parent before node} hrole ih pre := by
    rw [walkNode_eq, placeNode_eq, hrole]
    exact ih pre
  passed {parent before node} hrole pre := by
    rw [walkNode_eq, placeNode_eq]
    obtain hrole | hrole := hrole <;> rw [hrole] <;> rfl
  opened {parent node} ih pre := by
    rw [walkInside_eq, placeInside_eq]
    exact ih pre 0
  fromNil pre i := rfl
  fromUnnamed hnamed ih pre i := by
    rw [walkFrom_unnamed _ _ _ _ hnamed, placeFrom, hnamed]
    exact ih pre (i + 1)
  fromFile hnamed hrole hinside ih pre i := by
    have hinner := hinside (pre ++ [i])
    have hrest := ih pre (i + 1)
    unfold SameMembers at hinner hrest ⊢
    rw [walkFrom_file _ _ _ _ hnamed hrole, placeFrom, hnamed, if_pos hrole]
    simp only [Bool.not_true, Bool.false_eq_true, if_false, Traced.outcome_bind, Traced.outcome_lift,
      hinner, hrest]
    refine bind_erase fun inner => bind_erase fun following => ?_
    rw [membersOf_append]
    exact bind_erase_rest fun member => rfl
  fromNode hnamed hrole hlook ih pre i := by
    have hnode := hlook (pre ++ [i])
    have hrest := ih pre (i + 1)
    unfold SameMembers at hnode hrest ⊢
    rw [walkFrom_node _ _ _ _ hnamed hrole, placeFrom, hnamed, if_neg hrole]
    simp only [Bool.not_true, Bool.false_eq_true, if_false, Traced.outcome_bind, hnode, hrest]
    refine bind_erase fun placed => bind_erase fun following => ?_
    exact congrArg Except.ok (membersOf_append placed following).symm
  restNil pre i := rfl
  restUnnamed hnamed ih pre i := by
    rw [walkRest_unnamed _ _ _ hnamed, placeRest, hnamed]
    exact ih pre (i + 1)
  restNode hnamed hlook ih pre i := by
    have hnode := hlook (pre ++ [i])
    have hrest := ih pre (i + 1)
    unfold SameMembers at hnode hrest ⊢
    rw [walkRest_node _ _ _ hnamed, placeRest, hnamed]
    simp only [Bool.not_true, Bool.false_eq_true, if_false, Traced.outcome_bind, hnode, hrest]
    refine bind_erase fun placed => bind_erase fun following => ?_
    exact congrArg Except.ok (membersOf_append placed following).symm

/-- The walk with paths, without them, is the walk. -/
theorem placeInside_erase (setting : Setting) (pre : Path) (parent : Option Kind) (node : Node) :
    (walkInside setting parent node).outcome = (placeInside setting pre parent node).map membersOf :=
  (sameMembers_cases setting).open parent node pre

/-! ## Paths in document order -/

/-- A path comes before the longer ones that start with it. -/
theorem lt_of_below {pre p : Path} {i : Nat} (h : pre ++ [i] <+: p) : pre < p := by
  obtain ⟨rest, rfl⟩ := h
  have hlt : pre ++ [] < pre ++ i :: rest := List.append_left_lt (List.nil_lt_cons i rest)
  simpa using hlt

/-- What is below a child comes before what is below a later child. -/
theorem lt_of_below_of_below {pre p q : Path} {i j : Nat} (hp : pre ++ [i] <+: p)
    (hq : pre ++ [j] <+: q) (hij : i < j) : p < q := by
  obtain ⟨rest, rfl⟩ := hp
  obtain ⟨rest', rfl⟩ := hq
  rw [List.append_assoc, List.append_assoc]
  refine List.append_left_lt ?_
  exact List.cons_lt_cons_iff.2 (.inl hij)

/-! ## Forests that cover a set of paths -/

/-- Whether a member is built from the node at a path: with the fields that the node gives for its
role, around the children that the member has. -/
def BuiltAt (setting : Setting) (root : Node) (p : Path) (member : Member) : Prop :=
  ∃ node before, root.at? [] p = some (node, before) ∧
    ((node.role.kind? = some .nameSpace ∧
        namespaceMember setting.source node member.children = .ok member) ∨
      ∃ kind modifiers, node.role = .declaration kind ∧
        modifiersOf setting.source node = .ok modifiers ∧
        (declarationMember setting.source before node kind modifiers member.children).outcome =
          .ok member)

/-- What a placed forest inside a member of kind `parent`, if any, says of the tree of `root` if the
places in it are to be those of a set. -/
structure Covers (setting : Setting) (root : Node) (parent : Option Kind) (places : Place → Prop)
    (placed : List Placed) : Prop where
  /-- The places in the forest are those of the set. -/
  mem_iff : ∀ place, place ∈ placesOf parent placed ↔ places place
  /-- Their paths are strictly increasing. -/
  sorted : ((placesOf parent placed).map Prod.snd).Pairwise (· < ·)
  /-- They are the paths of the members at all depths, in order. -/
  paths : (placesOf parent placed).map Prod.snd = (placedPreorder placed).map Placed.path
  /-- Each member is built from the node at its path. -/
  built : ∀ item ∈ placedPreorder placed, BuiltAt setting root item.path item.member
  /-- A member of a kind that does not nest others has no children. -/
  leaves : ∀ item ∈ placedPreorder placed, item.member.kind.canNest = false → item.member.children = []
  /-- The members at all depths are those of the forest without the paths. -/
  members : (placedPreorder placed).map Placed.member = preorderOf (membersOf placed)

variable {setting : Setting} {root node : Node} {before : List Node} {pre : Path}
  {parent k : Option Kind} {placed others : List Placed} {P Q : Place → Prop}

/-- The empty forest has no members at any depth. -/
@[simp]
theorem placedPreorder_nil : placedPreorder [] = [] := rfl

/-- The members in a single one are it and those inside it. -/
theorem placedPreorder_single (path : Path) (member : Member) (inner : List Placed) :
    placedPreorder [⟨path, member, inner⟩] = ⟨path, member, inner⟩ :: placedPreorder inner := by
  simp [placedPreorder, Placed.preorder]

/-- The members of two forests are those of the first and then those of the second. -/
@[simp]
theorem placedPreorder_append (placed others : List Placed) :
    placedPreorder (placed ++ others) = placedPreorder placed ++ placedPreorder others := by
  induction placed with
  | nil => rfl
  | cons item placed ih => simp [placedPreorder, ih]

/-- The empty forest has no places. -/
@[simp]
theorem placesOf_nil : placesOf parent [] = [] := rfl

/-- The places in a single member are its own and those inside it. -/
theorem placesOf_single (path : Path) (member : Member) (inner : List Placed) :
    placesOf parent [⟨path, member, inner⟩] =
      (parent, path) :: placesOf (some member.kind) inner := by
  simp [placesOf, Placed.places]

/-- The places of two forests are those of the first and then those of the second. -/
theorem placesOf_append (placed others : List Placed) :
    placesOf parent (placed ++ others) = placesOf parent placed ++ placesOf parent others := by
  induction placed with
  | nil => rfl
  | cons item placed ih => simp [placesOf, ih]

namespace Covers

/-- A forest covers every description of its set of places. -/
theorem congr (h : Covers setting root parent P placed) (hPQ : ∀ place, P place ↔ Q place) :
    Covers setting root parent Q placed where
  mem_iff place := (h.mem_iff place).trans (hPQ place)
  sorted := h.sorted
  paths := h.paths
  built := h.built
  leaves := h.leaves
  members := h.members

/-- The empty forest covers nothing. -/
theorem nil (hP : ∀ place, ¬ P place) : Covers setting root parent P [] where
  mem_iff place := by simp [hP place]
  sorted := by simp
  paths := rfl
  built := by simp
  leaves := by simp
  members := rfl

/-- Two forests, the first before the second, cover what either covers. -/
theorem append (h : Covers setting root parent P placed) (h' : Covers setting root parent Q others)
    (hlt : ∀ place later, P place → Q later → place.2 < later.2) :
    Covers setting root parent (fun place => P place ∨ Q place) (placed ++ others) where
  mem_iff place := by rw [placesOf_append, List.mem_append, h.mem_iff, h'.mem_iff]
  sorted := by
    rw [placesOf_append, List.map_append, List.pairwise_append]
    refine ⟨h.sorted, h'.sorted, ?_⟩
    -- What either part covers is sorted, and the first part comes before the second one.
    intro p hp q hq
    obtain ⟨place, hplace, rfl⟩ := List.mem_map.1 hp
    obtain ⟨later, hlater, rfl⟩ := List.mem_map.1 hq
    exact hlt place later ((h.mem_iff place).1 hplace) ((h'.mem_iff later).1 hlater)
  paths := by
    rw [placesOf_append, List.map_append, h.paths, h'.paths, placedPreorder_append, List.map_append]
  built := by
    intro item hitem
    rw [placedPreorder_append, List.mem_append] at hitem
    exact hitem.elim (h.built item) (h'.built item)
  leaves := by
    intro item hitem
    rw [placedPreorder_append, List.mem_append] at hitem
    exact hitem.elim (h.leaves item) (h'.leaves item)
  members := by simp [h.members, h'.members]

/-- A member around a forest covers its own place and what the forest covers inside it. -/
theorem single (parent : Option Kind) {path : Path} {member : Member} {kind : Kind}
    (h : Covers setting root (some kind) P placed) (hbuilt : BuiltAt setting root path member)
    (hshape : member.kind = kind ∧ member.children = membersOf placed)
    (hleaf : kind.canNest = false → placed = []) (hlt : ∀ place, P place → path < place.2) :
    Covers setting root parent (fun place => place = (parent, path) ∨ P place)
      [⟨path, member, placed⟩] where
  mem_iff place := by rw [placesOf_single, hshape.1, List.mem_cons, h.mem_iff]
  sorted := by
    rw [placesOf_single, hshape.1, List.map_cons, List.pairwise_cons]
    refine ⟨?_, h.sorted⟩
    intro p hp
    obtain ⟨place, hplace, rfl⟩ := List.mem_map.1 hp
    exact hlt place ((h.mem_iff place).1 hplace)
  paths := by
    rw [placesOf_single, hshape.1, List.map_cons, h.paths, placedPreorder_single, List.map_cons]
  built := by
    intro item hitem
    rw [placedPreorder_single, List.mem_cons] at hitem
    obtain rfl | hitem := hitem
    · exact hbuilt
    · exact h.built item hitem
  leaves := by
    -- The member itself nests nothing if its kind does not; of the others it is known.
    intro item hitem hnone
    rw [placedPreorder_single, List.mem_cons] at hitem
    obtain rfl | hitem := hitem
    · rw [hshape.2, hleaf (hshape.1 ▸ hnone), membersOf_nil]
    · exact h.leaves item hitem hnone
  members := by
    simp [placedPreorder_single, h.members, membersOf, Member.preorder_eq, hshape.2]

end Covers

/-! ## The walk covers what it reaches -/

/-- The member of a namespace has its kind and the children given. -/
theorem namespaceMember_kind_children {source : Text.Bytes} {children : List Member}
    {member : Member} (h : namespaceMember source node children = .ok member) :
    member.kind = .nameSpace ∧ member.children = children := by
  obtain ⟨signature, -, hmember⟩ := Outcome.bind_eq_ok.1 h
  cases hmember
  exact ⟨rfl, rfl⟩

/-- The member of a declaration has its kind and the children given. -/
theorem declarationMember_kind_children {source : Text.Bytes} {kind : Kind}
    {modifiers : List String} {children : List Member} {member : Member}
    (h : (declarationMember source before node kind modifiers children).outcome = .ok member) :
    member.kind = kind ∧ member.children = children := by
  simp only [declarationMember, Traced.outcome_bind, Traced.outcome_lift, Traced.outcome_pure,
    Outcome.except_bind_eq_ok] at h
  obtain ⟨bases, -, signature, -, doc, -, attributes, -, hmember⟩ := h
  cases hmember
  exact ⟨rfl, rfl⟩

/-- From a position on, a set holds at the position or further on. -/
theorem exists_ge_iff {C : Nat → Prop} {i : Nat} :
    (∃ j, i ≤ j ∧ C j) ↔ C i ∨ ∃ j, i + 1 ≤ j ∧ C j := by
  constructor
  · rintro ⟨j, hij, hC⟩
    obtain rfl | hlt := Nat.eq_or_lt_of_le hij
    · exact .inl hC
    · exact .inr ⟨j, hlt, hC⟩
  · rintro (hC | ⟨j, hij, hC⟩)
    · exact ⟨i, Nat.le_refl i, hC⟩
    · exact ⟨j, Nat.le_of_succ_le hij, hC⟩

/-- What the children of a container from position `i` on lead to. -/
def ChildrenLead (setting : Setting) (root : Node) (pre : Path) (parent : Option Kind)
    (container : Node) (i : Nat) (place : Place) : Prop :=
  ∃ j, i ≤ j ∧ ChildLeads setting root pre parent container j place

/-- Past the last child there is nothing. -/
theorem not_childrenLead {container : Node} {i : Nat} (h : container.children.drop i = [])
    (place : Place) : ¬ ChildrenLead setting root pre parent container i place := by
  rintro ⟨j, hij, child, hchild, -⟩
  rw [List.drop_eq_nil_iff] at h
  have hnone : container.children[j]? = none := List.getElem?_eq_none (Nat.le_trans h hij)
  rw [hnone] at hchild
  cases hchild

/-- What a child leads to comes before what later children lead to. -/
theorem lt_of_childrenLead {container : Node} {i : Nat} {p : Path} {later : Place}
    (hp : pre ++ [i] <+: p)
    (hlater : ChildrenLead setting root pre parent container (i + 1) later) : p < later.2 := by
  obtain ⟨j, hij, hlater⟩ := hlater
  exact lt_of_below_of_below hp hlater.below hij

/-- What an opened place leads to comes after it. -/
theorem lt_of_leadsTo_opened {place : Place} (hat : root.at? [] pre = some (node, before))
    (h : LeadsTo setting root (pre, .opened parent) place) : pre < place.2 := by
  obtain ⟨i, hchild⟩ := (leadsTo_opened hat).1 h
  exact lt_of_below hchild.below

/-- What the body of a node leads to, inside a member of the given kind. -/
def BodyLeads (setting : Setting) (root : Node) (pre : Path) (kind : Kind) (node : Node)
    (place : Place) : Prop :=
  ∃ i, bodyIndex? node = some i ∧ LeadsTo setting root (pre ++ [i], .opened (some kind)) place

/-- What the body leads to comes after the declaration. -/
theorem BodyLeads.lt {kind : Kind} {place : Place} (h : BodyLeads setting root pre kind node place) :
    pre < place.2 := by
  obtain ⟨i, -, hrest⟩ := h
  exact lt_of_below hrest.below

/-- A class, an interface or a record is what can nest among declarations. -/
theorem canNest_iff {kind : Kind} (hkind : kind ≠ .nameSpace) :
    kind.canNest = true ↔ kind ∈ [Kind.classType, .interfaceType, .record] := by
  cases kind <;> simp_all [Kind.canNest]

/-- The member of a declaration is built from its node. -/
theorem declaration_builtAt {kind : Kind} {modifiers : List String} {member : Member}
    {inner : List Member} (hat : root.at? [] pre = some (node, before))
    (hrole : node.role = .declaration kind)
    (hmodifiers : modifiersOf setting.source node = .ok modifiers)
    (hmember : (declarationMember setting.source before node kind modifiers inner).outcome =
      .ok member) : BuiltAt setting root pre member := by
  refine ⟨node, before, hat, .inr ⟨kind, modifiers, hrole, hmodifiers, ?_⟩⟩
  rw [(declarationMember_kind_children hmember).2]
  exact hmember

/-- The member of a namespace is built from its node. -/
theorem namespace_builtAt {member : Member} {inner : List Member}
    (hat : root.at? [] pre = some (node, before)) (hrole : node.role.kind? = some .nameSpace)
    (hmember : namespaceMember setting.source node inner = .ok member) :
    BuiltAt setting root pre member := by
  refine ⟨node, before, hat, .inl ⟨hrole, ?_⟩⟩
  rw [(namespaceMember_kind_children hmember).2]
  exact hmember

/-- The contents of a node cover what its body leads to if the body covers what it leads to. -/
theorem covers_placeInner {kind : Kind} {inner : List Placed}
    (ih : ∀ i body, bodyIndex? node = some i → node.children[i]? = some body →
      ∀ placed, placeInside setting (pre ++ [i]) (some kind) body = .ok placed →
        Covers setting root (some kind) (LeadsTo setting root (pre ++ [i], .opened (some kind))) placed)
    (h : placeInner setting pre kind node = .ok inner) :
    Covers setting root (some kind) (BodyLeads setting root pre kind node) inner := by
  obtain ⟨hindex, -, hinner⟩ | ⟨i, body, hindex, hbody, -, hinner⟩ :=
    placeInner_cases pre kind node
  · cases (hinner setting).symm.trans h
    exact .nil fun place => by simp [BodyLeads, hindex]
  · refine (ih i body hindex hbody inner (hinner setting ▸ h)).congr fun place => ?_
    simp [BodyLeads, hindex]

/-- A declaration covers what it leads to if its body does. -/
theorem covers_declaration {kind : Kind} (hat : root.at? [] pre = some (node, before))
    (hrole : node.role = .declaration kind)
    (hinner : ∀ inner, placeInner setting pre kind node = .ok inner →
      Covers setting root (some kind) (BodyLeads setting root pre kind node) inner)
    (h : placeNode setting pre parent before node = .ok placed) :
    Covers setting root parent (LeadsTo setting root (pre, .looked parent)) placed := by
  obtain ⟨modifiers, hmodifiers, h⟩ := (placeNode_declaration hrole).1 h
  split_ifs at h with hvisible
  · -- The rules show a declaration by the same modifiers as the walk.
    have hshown : Shown setting parent node := ⟨modifiers, hmodifiers, hvisible⟩
    obtain ⟨inner, member, hcontents, hmember, rfl⟩ := h
    have hbuilt := declaration_builtAt hat hrole hmodifiers hmember
    have hshape := declarationMember_kind_children hmember
    have hnest := canNest_iff (Syntax.Role.kind_ne_nameSpace hrole)
    rw [placeContents] at hcontents
    split_ifs at hcontents with hnests
    · refine ((hinner inner hcontents).single parent hbuilt hshape (fun hleaf => ?_)
        fun place => BodyLeads.lt).congr fun place => ?_
      · exact absurd hnests (hleaf ▸ Bool.false_ne_true)
      rw [leadsTo_declaration hat hrole]
      simp only [BodyLeads, hshown, true_and, hnest.1 hnests]
    · -- A kind that cannot nest has no members inside, whatever its body holds.
      cases hcontents
      refine ((Covers.nil fun _ => not_false).single parent hbuilt hshape (fun _ => rfl)
        fun place hplace => hplace.elim).congr fun place => ?_
      rw [leadsTo_declaration hat hrole]
      simp only [hshown, hnest.not.1 hnests, true_and, false_and]
  · -- The modifiers that the rules read are those that the walk found to hide the declaration.
    subst h
    refine .nil fun place => ?_
    rw [leadsTo_declaration hat hrole]
    rintro ⟨⟨modifiers', hmodifiers', hvisible'⟩, -⟩
    cases hmodifiers.symm.trans hmodifiers'
    exact hvisible hvisible'

section Children

variable {container : Node} {i : Nat} (hchild : container.children[i]? = some node)

include hchild

/-- What children lead to from a position on, if the child there carries no structure. -/
theorem childrenLead_unnamed (hnamed : node.named = false) (place : Place) :
    ChildrenLead setting root pre parent container (i + 1) place ↔
      ChildrenLead setting root pre parent container i place := by
  rw [ChildrenLead, ChildrenLead, exists_ge_iff (i := i)]
  simp [not_childLeads hchild hnamed]

end Children

/-- What the walk places covers what it leads to. -/
theorem covers_cases (setting : Setting) (root : Node) : PlacedCases root
    (fun pre parent before node => ∀ placed, placeNode setting pre parent before node = .ok placed →
      Covers setting root parent (LeadsTo setting root (pre, .looked parent)) placed)
    (fun pre parent node => ∀ placed, placeInside setting pre parent node = .ok placed →
      Covers setting root parent (LeadsTo setting root (pre, .opened parent)) placed)
    (fun pre parent container i => ∀ placed,
      placeChildren setting pre parent container i = .ok placed →
      Covers setting root parent (ChildrenLead setting root pre parent container i) placed)
    (fun pre parent container i => ∀ placed, placeLater setting pre container i = .ok placed →
      Covers setting root (some .nameSpace) (ChildrenLead setting root pre parent container i) placed) where
  nameSpace {pre parent before node} hat hrole ih placed h := by
    obtain ⟨inner, member, hinner, hmember, rfl⟩ := (placeNode_namespace hrole).1 h
    have hbuilt : BuiltAt setting root pre member :=
      namespace_builtAt hat (by simp [hrole, Syntax.Role.kind?]) hmember
    refine ((covers_placeInner ih hinner).single parent hbuilt (namespaceMember_kind_children hmember)
      nofun fun place => BodyLeads.lt).congr fun place => ?_
    rw [leadsTo_namespace hat hrole, BodyLeads]
  declaration hat hrole ih placed h := covers_declaration hat hrole (fun _ => covers_placeInner ih) h
  region {pre parent before node} hat hrole ih placed h := by
    simp only [placeNode_eq, hrole] at h
    exact (ih placed h).congr fun place => (leadsTo_transparent hat hrole).symm
  passed {pre parent before node} hat hrole placed h := by
    have hplaced : placed = [] := by
      rw [placeNode_eq] at h
      obtain hrole | hrole := hrole <;> rw [hrole] at h <;> cases h <;> rfl
    subst hplaced
    exact .nil fun place => not_leadsTo_other hat hrole.symm
  opened {pre parent before node} hat ih placed h := by
    rw [placeInside_eq] at h
    refine (ih placed h).congr fun place => ?_
    -- All children are those from the first one on.
    rw [leadsTo_opened hat]
    simp [ChildrenLead]
  fromNil {pre parent container i} hdrop placed h := by
    rw [placeChildren_nil hdrop] at h
    cases h
    exact .nil (not_childrenLead hdrop)
  fromUnnamed {pre parent container node i} hchild hnamed ih placed h := by
    rw [placeChildren_unnamed hchild hnamed] at h
    exact (ih placed h).congr (childrenLead_unnamed hchild hnamed)
  fromFile {pre parent siblings container node i} hat hchild hnamed hrole hindex hopen ih placed h := by
    -- The namespace covers its own place, what it holds, and what all later children lead to.
    rw [placeChildren_file hchild hnamed hrole] at h
    obtain ⟨inner, hinner, h⟩ := Outcome.bind_eq_ok.1 h
    obtain ⟨following, hfollowing, h⟩ := Outcome.bind_eq_ok.1 h
    obtain ⟨member, hmember, h⟩ := Outcome.bind_eq_ok.1 h
    cases h
    have hat' := Node.at?_child hat hchild
    have hbuilt : BuiltAt setting root (pre ++ [i]) member :=
      namespace_builtAt hat' (by simp [hrole, Syntax.Role.kind?]) hmember
    have hboth := (hopen inner hinner).append (ih following hfollowing)
      fun place later h h' => lt_of_childrenLead h.below h'
    refine (hboth.single parent hbuilt (namespaceMember_kind_children hmember) nofun ?_).congr
      fun place => ?_
    · rintro place (hplace | hplace)
      · exact lt_of_leadsTo_opened hat' hplace
      · exact lt_of_childrenLead (List.prefix_refl _) hplace
    · rw [ChildrenLead, ChildrenLead, exists_ge_iff (i := i), childLeads_file hchild hnamed hindex,
        or_assoc]
  fromNode {pre parent siblings container node i} hat hchild hnamed hrole hlater hlook ih placed h := by
    rw [placeChildren_node hchild hnamed hrole] at h
    obtain ⟨first, hfirst, h⟩ := Outcome.bind_eq_ok.1 h
    obtain ⟨following, hfollowing, h⟩ := Outcome.bind_eq_ok.1 h
    cases h
    refine ((hlook first hfirst).append (ih following hfollowing)
      fun place later h h' => lt_of_childrenLead h.below h').congr fun place => ?_
    rw [ChildrenLead, ChildrenLead, exists_ge_iff (i := i), childLeads_before hchild hnamed hlater]
  restNil {pre parent container i} hdrop placed h := by
    rw [placeLater_nil hdrop] at h
    cases h
    exact .nil (not_childrenLead hdrop)
  restUnnamed {pre parent container node i} hchild hnamed ih placed h := by
    rw [placeLater_unnamed hchild hnamed] at h
    exact (ih placed h).congr (childrenLead_unnamed hchild hnamed)
  restNode {pre parent siblings container node f i} hat hchild hnamed hfile hlt hlook ih placed h := by
    rw [placeLater_node hchild hnamed] at h
    obtain ⟨first, hfirst, h⟩ := Outcome.bind_eq_ok.1 h
    obtain ⟨following, hfollowing, h⟩ := Outcome.bind_eq_ok.1 h
    cases h
    refine ((hlook first hfirst).append (ih following hfollowing)
      fun place later h h' => lt_of_childrenLead h.below h').congr fun place => ?_
    rw [ChildrenLead, ChildrenLead, exists_ge_iff (i := i), childLeads_following hchild hnamed hfile hlt]

/-- A whole tree covers what its opened root leads to. -/
theorem covers_placeTree (h : placeTree setting root = .ok placed) :
    Covers setting root none (Reached setting root) placed :=
  (covers_cases setting root).openRoot none placed h

/-- Paths that are strictly increasing are different. -/
theorem nodup_of_increasing {paths : List Path} (h : paths.Pairwise (· < ·)) : paths.Nodup := by
  refine h.imp ?_
  rintro p q hlt rfl
  exact List.lt_irrefl p hlt

/-- An outline is that of the walk with paths, without the paths. -/
theorem exists_placeTree_of_mapTree {path : String} {result : Option FileMap}
    (h : (mapTree setting path root).outcome = .ok result) :
    ∃ placed, placeTree setting root = .ok placed ∧
      result = if placed.isEmpty then none else some ⟨path, membersOf placed⟩ := by
  simp only [mapTree, walkTree, Traced.outcome_bind, Traced.outcome_pure,
    placeInside_erase setting [] none root] at h
  obtain ⟨members, hmembers, hresult⟩ := Outcome.except_bind_eq_ok.1 h
  obtain ⟨placed, hplaced, rfl⟩ := Outcome.map_eq_ok.1 hmembers
  refine ⟨placed, hplaced, ?_⟩
  cases hresult
  simp [membersOf]

/-- The outline of a tree is that of its placed forest. -/
theorem mapTree_of_placeTree (h : placeTree setting root = .ok placed) (path : String) :
    (mapTree setting path root).outcome =
      .ok (if placed.isEmpty then none else some ⟨path, membersOf placed⟩) := by
  rw [placeTree] at h
  simp only [mapTree, walkTree, Traced.outcome_bind, Traced.outcome_pure,
    placeInside_erase setting [] none root, h]
  simp [membersOf, Except.map, Except.bind]

/-- The members of the outline of a tree come from the reached places of the tree and from no others,
each from one, in document order. The walk with the paths of the nodes gives the same file; its members
at all depths are built from the nodes at these paths; the paths are strictly increasing; and a place,
with the kind of the member around it, is among them if and only if it is reached. -/
theorem mapTree_places_reached (setting : Setting) (path : String) (root : Node)
    (result : Option FileMap) (h : (mapTree setting path root).outcome = .ok result) :
    ∃ placed, placeTree setting root = .ok placed ∧
      result = (if placed.isEmpty then none else some ⟨path, membersOf placed⟩) ∧
      (placedPreorder placed).map Placed.member = preorderOf (membersOf placed) ∧
      (∀ item ∈ placedPreorder placed, BuiltAt setting root item.path item.member) ∧
      (placesOf none placed).map Prod.snd = (placedPreorder placed).map Placed.path ∧
      ((placesOf none placed).map Prod.snd).Pairwise (· < ·) ∧
      ((placesOf none placed).map Prod.snd).Nodup ∧
      ∀ place, place ∈ placesOf none placed ↔ Reached setting root place := by
  obtain ⟨placed, hplaced, hresult⟩ := exists_placeTree_of_mapTree h
  have hcov := covers_placeTree hplaced
  exact ⟨placed, hplaced, hresult, hcov.members, hcov.built, hcov.paths, hcov.sorted,
    nodup_of_increasing hcov.sorted, hcov.mem_iff⟩

/-- `private`, as the source of a tree with one modifier. -/
def privateSource : Text.Bytes :=
  Text.Utf8.ofString "private"

/-- A tree with a private class inside a region, a namespace for the rest of the file, a second one
after it, and a class with a method in its body. -/
def regionTree : Node :=
  { type := "compilation_unit", start := 0, stop := 7, children := [
    { type := "preproc_if", start := 0, stop := 7, children := [
      { type := "class_declaration", start := 0, stop := 7, children := [
        { type := "modifier", start := 0, stop := 7 }] },
      { type := "enum_declaration", start := 7, stop := 7 }] },
    { type := "file_scoped_namespace_declaration", start := 7, stop := 7 },
    { type := "file_scoped_namespace_declaration", start := 7, stop := 7 },
    { type := "class_declaration", start := 7, stop := 7, children := [
      { type := "\x7b", start := 7, stop := 7, named := false },
      { type := "declaration_list", start := 7, stop := 7, children := [
        { type := "method_declaration", start := 7, stop := 7 }] }] }] }

/-- The private class in the region is not reached, and the second namespace has no member. -/
theorem regionTree_places : ∃ result placed,
    (mapTree ⟨privateSource, true⟩ "A.cs" regionTree).outcome = .ok result ∧
      placeTree ⟨privateSource, true⟩ regionTree = .ok placed ∧
      placesOf none placed = [(none, [0, 1]), (none, [1]), (some .nameSpace, [3])] ∧
      ¬ Reached ⟨privateSource, true⟩ regionTree (none, [0, 0]) := by
  refine ⟨_, _, rfl, rfl, rfl, ?_⟩
  obtain ⟨placed, hplaced, -, -, -, -, -, -, hmem⟩ :=
    mapTree_places_reached ⟨privateSource, true⟩ "A.cs" regionTree _ rfl
  cases hplaced
  rw [← hmem]
  decide

end ApiOutline.Outline
