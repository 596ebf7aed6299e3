import ApiOutline.Proofs.Exchange

/-!
# Parts of a tree that do not show

What is below a declaration that is not visible, below a node that means nothing to the outline, and below the
parts of a method, a constructor or a property has no influence on the outline: anything can stand there
instead (`Redrawn`), and the outline or the fault is the same (`placeTree_of_redrawn`).

The argument goes up from the exchanged node to the root. A step of the way of the outline from one place to
another one is turned around: if the second place is placed as before, the first one is (`PlacedAlike`). For
methods that the way does not come by, what is above them is placed as before in every respect (`ReadsAlike`).

There are two exceptions. A list of attributes or of base types can be the body of a declaration. Its entries
are then looked at as part of the body and mean nothing, and yet they are read for the declaration
(`ReadOutside`). And a method can itself be the body of what is around it, or the root (`IsBody`).
-/

namespace ApiOutline.Syntax

namespace Node

/-- The tree with another node at a path, if there is a node at the path. -/
def put (node new : Node) : Path → Node
  | [] => new
  | i :: path =>
    match node.children[i]? with
    | none => node
    | some child => node.exchange i (child.put new path)

variable {root node child new : Node} {before before' : List Node} {p : Path} {i : Nat}

/-- Putting a node at the end of a path is putting the changed node at the start of it. -/
theorem put_append (h : root.at? before p = some (node, before')) (q : Path) :
    root.put new (p ++ q) = root.put (node.put new q) p := by
  induction p generalizing root before with
  | nil =>
    cases h
    rfl
  | cons i p ih =>
    rw [at?] at h
    rw [List.cons_append, put, put]
    cases hchild : root.children[i]? with
    | none => simp [hchild] at h
    | some child =>
      simp only [hchild] at h
      simp only [ih h]

/-- Putting a node at the position of a child is exchanging the child. -/
theorem put_child (h : node.children[i]? = some child) : node.put new [i] = node.exchange i new := by
  simp only [put, h]

/-- A child that is found by its path is found by its position. -/
theorem child_of_at? (hnode : root.at? [] p = some (node, before))
    (hchild : root.at? [] (p ++ [i]) = some (child, before')) : node.children[i]? = some child := by
  obtain ⟨other, _, hother, hget, -⟩ := exists_container hchild
  cases hnode.symm.trans hother
  exact hget

end Node

end ApiOutline.Syntax

namespace ApiOutline.Outline

open Syntax (Node Path)
open Text (Bytes)
open Relation (ReflTransGen)

/-! ## Trees with other parts -/

/-- Whether the way of the outline looks at the node at a path, inside a declaration of the given kind if
any. -/
def Looked (setting : Setting) (root : Node) (parent : Option Kind) (p : Path) : Prop :=
  ReflTransGen (Step setting root) ([], .opened none) (p, .looked parent)

/-- Whether the node at a path is an attribute or a base type with arguments, in a list that is the body of a
declaration and is also read for it. -/
def ReadOutside (root : Node) (p : Path) : Prop :=
  ∃ q i j owner before kind list entry, p = q ++ [i] ++ [j] ∧ root.at? [] q = some (owner, before) ∧
    owner.role = .declaration kind ∧ bodyIndex? owner = some i ∧
    owner.children[i]? = some list ∧ list.children[j]? = some entry ∧
    (list.isOf "attribute_list" = true ∧ entry.isOf "attribute" = true ∨
      kind.showsBaseTypes = true ∧ owner.children.findIdx? (Node.isOf "base_list") = some i ∧
        entry.isOf "primary_constructor_base_type" = true)

/-- Whether the child of a node at a position is its body, as a namespace or a type. -/
def IsBodyOf (owner : Node) (i : Nat) : Prop :=
  bodyIndex? owner = some i ∧
    (owner.role = .blockNamespace ∨ ∃ kind, owner.role = .declaration kind ∧ kind.isType = true)

/-- Whether a path is that of the root or of the body of a namespace or a type. -/
def IsBody (root : Node) (p : Path) : Prop :=
  p = [] ∨ ∃ q i owner before, p = q ++ [i] ∧ root.at? [] q = some (owner, before) ∧ IsBodyOf owner i

/-- Whether one tree is another one with a part exchanged that does not show. -/
inductive Redrawn (setting : Setting) (root : Node) : Node → Prop where
  /-- A declaration that is not visible has other children, but the same modifiers. -/
  | hidden {p : Path} {k : Option Kind} {kind : Kind} {node : Node} {before children : List Node} :
    Looked setting root k p → root.at? [] p = some (node, before) → node.role = .declaration kind →
    ¬ Shown setting k node →
    children.filter (Node.isOf "modifier") = node.children.filter (Node.isOf "modifier") →
    Redrawn setting root (root.put { node with children } p)
  /-- A part of a method, a constructor or a property, other than a list of attributes, has other children. -/
  | leaf {p : Path} {kind : Kind} {node child : Node} {before children : List Node} {i : Nat} :
    root.at? [] p = some (node, before) → node.role = .declaration kind →
    kind ∈ [Kind.method, .constructor, .property] →
    (∃ k, Looked setting root k p) ∨ ¬ IsBody root p →
    node.children[i]? = some child → child.isOf "attribute_list" = false →
    Redrawn setting root (root.put { child with children } (p ++ [i]))
  /-- A node that means nothing to the outline has other children. -/
  | unmapped {p : Path} {k : Option Kind} {node : Node} {before children : List Node} :
    Looked setting root k p → root.at? [] p = some (node, before) → node.role = .other →
    ¬ ReadOutside root p →
    Redrawn setting root (root.put { node with children } p)

/-! ## Lists with an exchanged entry -/

section Entries

variable {source : Bytes} {list entry new : Node} {i : Nat} (hentry : list.children[i]? = some entry)
  (hface : new.face = entry.face)

include hentry hface

/-- The names in a list are as before if the exchanged entry has none. -/
theorem namesOf_exchange {type : String} (hnot : entry.isOf type = false) :
    namesOf source (Node.isOf type) (list.exchange i new).namedChildren =
      namesOf source (Node.isOf type) list.namedChildren := by
  rw [Node.namedChildren, Node.namedChildren, Node.exchange_children]
  have hnew := (Node.isOf_of_face hface type).trans hnot
  -- Only the entry at the position differs, and neither of the two has the type.
  generalize list.children = nodes at hentry
  induction nodes generalizing i with
  | nil => rfl
  | cons node nodes ih =>
    cases i with
    | zero =>
      cases hentry
      rw [List.set_cons_zero, List.filter_cons, List.filter_cons, Node.named_of_face hface]
      split_ifs
      · rw [namesOf, namesOf, hnew, hnot]
        rfl
      · rfl
    | succ i =>
      rw [List.set_cons_succ, List.filter_cons, List.filter_cons]
      split_ifs
      · rw [namesOf, namesOf, ih hentry]
      · exact ih hentry

/-- The base types in a list are as before if the exchanged entry has no arguments. -/
theorem baseNames_exchange (hnot : entry.isOf "primary_constructor_base_type" = false) :
    baseNames source (list.exchange i new).namedChildren = baseNames source list.namedChildren := by
  rw [Node.namedChildren, Node.namedChildren, Node.exchange_children]
  have hnew := (Node.isOf_of_face hface "primary_constructor_base_type").trans hnot
  -- An entry without arguments names the base type itself, so its face is enough.
  have hbase : (baseNode new).map Node.face = (baseNode entry).map Node.face := by
    rw [baseNode, baseNode, hnew, hnot]
    exact congrArg Except.ok hface
  generalize list.children = nodes at hentry
  induction nodes generalizing i with
  | nil => rfl
  | cons node nodes ih =>
    cases i with
    | zero =>
      cases hentry
      rw [List.set_cons_zero, List.filter_cons, List.filter_cons, Node.named_of_face hface]
      split_ifs
      · exact baseNames_cons source hface hbase rfl
      · rfl
    | succ i =>
      rw [List.set_cons_succ, List.filter_cons, List.filter_cons]
      split_ifs
      · exact baseNames_cons source rfl rfl (ih hentry)
      · exact ih hentry

end Entries

variable {setting : Setting} {root node child new : Node} {before siblings : List Node} {p : Path}
  {parent : Option Kind} {i : Nat}

/-! ## Nodes that are placed alike -/

/-- Methods, constructors and properties have no base types, no body and no enumerated names. -/
theorem leaf_kind {kind : Kind} (h : kind ∈ [Kind.method, .constructor, .property]) :
    kind.showsBaseTypes = false ∧ kind.canNest = false ∧ kind ≠ .enumeration := by
  revert h
  cases kind <;> decide

/-- A part of a method, a constructor or a property is not looked into. -/
theorem placeNode_leaf {kind : Kind} (hrole : node.role = .declaration kind)
    (hkind : kind ∈ [Kind.method, .constructor, .property]) (hchild : node.children[i]? = some child)
    (hlist : child.isOf "attribute_list" = false) (hface : new.face = child.face) :
    placeNode setting p parent before (node.exchange i new) = placeNode setting p parent before node := by
  obtain ⟨hshowsNone, hnestsNone, henumeratesNone⟩ := leaf_kind hkind
  -- Of a method nothing is read below its parts but attributes, and this part is no list of them.
  refine placeNode_exchange hchild ⟨hface, fun _ _ h => ?_, fun other h hshows => ?_, fun h => ?_,
    fun _ other h => ?_, fun h => ?_⟩
  · cases hlist.symm.trans h
  · cases hrole.symm.trans h
    cases hshowsNone.symm.trans hshows
  · cases hrole.symm.trans h
    exact absurd rfl henumeratesNone
  · obtain ⟨h, -⟩ | ⟨h, hnest⟩ := h
    · cases hrole.symm.trans h
    · cases hrole.symm.trans h
      cases hnestsNone.symm.trans hnest
  · cases hrole.symm.trans h

/-- The modifiers are those of the children that are modifiers. -/
theorem modifierTexts_filter (source : Bytes) (nodes : List Node) :
    modifierTexts source (nodes.filter (Node.isOf "modifier")) = modifierTexts source nodes := by
  induction nodes with
  | nil => rfl
  | cons node nodes ih =>
    rw [List.filter_cons, modifierTexts]
    split_ifs with hmodifier hread hread
    · rw [modifierTexts, if_pos hread, ih]
    · rw [modifierTexts, if_neg hread, ih]
    · simp [hmodifier] at hread
    · exact ih

/-- A declaration that is not visible is not looked into, whatever its children are besides modifiers. -/
theorem placeNode_hidden {kind : Kind} {children : List Node} (hrole : node.role = .declaration kind)
    (hhidden : ¬ Shown setting parent node)
    (hmodifiers : children.filter (Node.isOf "modifier") = node.children.filter (Node.isOf "modifier")) :
    placeNode setting p parent before { node with children } = placeNode setting p parent before node := by
  have hsame : modifiersOf setting.source { node with children } = modifiersOf setting.source node := by
    rw [modifiersOf, modifiersOf, ← modifierTexts_filter, hmodifiers, modifierTexts_filter]
  have hrole' : Node.role { node with children } = .declaration kind := hrole
  rw [placeNode_eq, placeNode_eq, hrole, hrole']
  simp only [hsame]
  -- All that is read of the declaration is that it does not show, or that its modifiers cannot be read.
  cases hread : modifiersOf setting.source node with
  | error fault => rfl
  | ok modifiers =>
    have hinvisible : isVisibleIn modifiers parent setting.contextual = false := by
      by_contra hvisible
      exact hhidden ⟨modifiers, hread, by simpa using hvisible⟩
    show (if isVisibleIn modifiers parent setting.contextual = true then _ else _) =
      if isVisibleIn modifiers parent setting.contextual = true then _ else _
    rw [hinvisible]
    rfl

/-- A node that means nothing to the outline has no members. -/
theorem placeNode_other (hrole : node.role = .other) : placeNode setting p parent before node = pure [] := by
  rw [placeNode_eq, hrole]

/-- A node of a role that is not that of an entry is not read outside. -/
theorem not_readOutside_of_role (hat : root.at? [] p = some (node, before)) (hrole : node.role ≠ .other) :
    ¬ ReadOutside root p := by
  rintro ⟨q, i, j, owner, _, kind, list, entry, rfl, howner, -, -, hlist, hentry, hread⟩
  have hentry' := Node.child_of_at? (Node.at?_child howner hlist) hat
  cases hentry.symm.trans hentry'
  have hattribute : node.isOf "attribute" = false := Node.isOf_eq_false hrole
  have hprimary : node.isOf "primary_constructor_base_type" = false := Node.isOf_eq_false hrole
  simp [hattribute, hprimary] at hread

/-- Whether two nodes at a path are read alike for the declaration around them, if they are its body. -/
def ReadForOwner (setting : Setting) (root : Node) (p : Path) (node new : Node) : Prop :=
  ∀ q i owner before kind, p = q ++ [i] → root.at? [] q = some (owner, before) →
    owner.role = .declaration kind → bodyIndex? owner = some i →
    (node.isOf "attribute_list" = true →
      namesOf setting.source (Node.isOf "attribute") new.namedChildren =
        namesOf setting.source (Node.isOf "attribute") node.namedChildren) ∧
    (kind.showsBaseTypes = true → owner.children.findIdx? (Node.isOf "base_list") = some i →
      baseNames setting.source new.namedChildren = baseNames setting.source node.namedChildren)

/-- Whether two nodes at a path are placed alike at a stage of the way of the outline. -/
def PlacedAlike (setting : Setting) (root : Node) (p : Path) (node new : Node) : Stage → Prop
  | .opened k => new.shape = node.shape ∧ placeInside setting p k new = placeInside setting p k node ∧
    ReadForOwner setting root p node new
  | .looked k => new.face = node.face ∧
    (∀ before, placeNode setting p k before new = placeNode setting p k before node) ∧ ¬ ReadOutside root p
  | .mapped _ => False

/-- A container is read for its owner as before if the exchanged child is not read outside. -/
theorem readForOwner_exchange (hat : root.at? [] p = some (node, before))
    (hchild : node.children[i]? = some child) (hface : new.face = child.face)
    (hout : ¬ ReadOutside root (p ++ [i])) : ReadForOwner setting root p node (node.exchange i new) := by
  rintro q j owner siblings kind rfl howner hkind hbody
  have hnode := Node.child_of_at? howner hat
  constructor
  · intro hlist
    refine namesOf_exchange hchild hface ?_
    -- An attribute in the list would be read outside.
    by_contra hattribute
    refine hout ⟨q, j, i, owner, siblings, kind, node, child, rfl, howner, hkind, hbody, hnode, hchild, ?_⟩
    exact .inl ⟨hlist, by simpa using hattribute⟩
  · intro hshows hlist
    refine baseNames_exchange hchild hface ?_
    by_contra hprimary
    refine hout ⟨q, j, i, owner, siblings, kind, node, child, rfl, howner, hkind, hbody, hnode, hchild, ?_⟩
    exact .inr ⟨hshows, hlist, by simpa using hprimary⟩

/-- A container is placed as before if the exchanged child is, in the way in which it is looked at. -/
theorem placeInside_exchange (hchild : node.children[i]? = some child) (hface : new.face = child.face)
    (hnode : (∀ f, fileIndex? node = some f → i < f) → ∀ before,
      placeNode setting (p ++ [i]) parent before new = placeNode setting (p ++ [i]) parent before child)
    (hfile : fileIndex? node = some i →
      placeInside setting (p ++ [i]) (some .nameSpace) new =
          placeInside setting (p ++ [i]) (some .nameSpace) child ∧
        nameOf setting.source new = nameOf setting.source child)
    (hfollowing : (∃ f, fileIndex? node = some f ∧ f < i) → ∀ before,
      placeNode setting (p ++ [i]) (some .nameSpace) before new =
        placeNode setting (p ++ [i]) (some .nameSpace) before child) :
    placeInside setting p parent (node.exchange i new) = placeInside setting p parent node := by
  rw [placeInside_eq, placeInside_eq]
  exact placeFrom_set hface hchild (Nat.zero_add i).symm hnode hfile hfollowing rfl

/-- Putting a node below a place is putting the changed node at the place. -/
theorem put_exchange (hat : root.at? [] p = some (node, before)) (hchild : node.children[i]? = some child) :
    root.put (node.exchange i new) p = root.put new (p ++ [i]) := by
  rw [Node.put_append hat, Node.put_child hchild]

/-- Nodes of the same shape have the same name. -/
theorem nameOf_of_shape {source : Bytes} (h : new.shape = node.shape) :
    nameOf source new = nameOf source node := by
  rw [← nameOf_shape, h, nameOf_shape]

section Turned

variable {k : Option Kind} {above : Node}
  (habove : root.at? [] p = some (above, siblings)) (hchild : above.children[i]? = some child)

include habove hchild

/-- A container is placed alike when its exchanged child is looked at and placed alike. -/
theorem PlacedAlike.opened_of_looked {kind : Option Kind}
    (h : PlacedAlike setting root (p ++ [i]) child new (.looked kind))
    (hfile : fileIndex? above ≠ some i)
    (hbefore : (∀ f, fileIndex? above = some f → i < f) → kind = k)
    (hfollowing : (∃ f, fileIndex? above = some f ∧ f < i) → kind = some .nameSpace) :
    PlacedAlike setting root p above (above.exchange i new) (.opened k) := by
  obtain ⟨hface, hplaced, hout⟩ := h
  refine ⟨Node.shape_exchange hchild hface, ?_, readForOwner_exchange habove hchild hface hout⟩
  -- The exchanged child is before the namespace for the rest of the file or after it, but not that namespace.
  refine placeInside_exchange hchild hface (fun hlt => ?_) (fun hfirst => absurd hfirst hfile) fun hlt => ?_
  · exact hbefore hlt ▸ hplaced
  · exact hfollowing hlt ▸ hplaced

/-- A container is placed alike when the first namespace for the rest of the file in it is. -/
theorem PlacedAlike.opened_of_file
    (h : PlacedAlike setting root (p ++ [i]) child new (.opened (some .nameSpace)))
    (hfile : fileIndex? above = some i) :
    PlacedAlike setting root p above (above.exchange i new) (.opened k) := by
  obtain ⟨hshape, hplaced, -⟩ := h
  have hface := Node.face_of_shape hshape
  obtain ⟨file, hfirst, -, hrole⟩ := fileIndex?_eq_some hfile
  cases hchild.symm.trans hfirst
  have hout : ¬ ReadOutside root (p ++ [i]) :=
    not_readOutside_of_role (Node.at?_child habove hchild) (by simp [hrole])
  refine ⟨Node.shape_exchange hchild hface, ?_, readForOwner_exchange habove hchild hface hout⟩
  -- The exchanged child is that namespace, so it is neither before nor after it.
  refine placeInside_exchange hchild hface (fun hlt => ?_) (fun _ => ⟨hplaced, nameOf_of_shape hshape⟩) ?_
  · exact absurd (hlt i hfile) (Nat.lt_irrefl i)
  · rintro ⟨f, hfirst, hlt⟩
    cases hfile.symm.trans hfirst
    exact absurd hlt (Nat.lt_irrefl i)

/-- A namespace is placed alike when its body is. -/
theorem PlacedAlike.looked_of_namespace (hrole : above.role = .blockNamespace)
    (h : PlacedAlike setting root (p ++ [i]) child new (.opened (some .nameSpace))) :
    PlacedAlike setting root p above (above.exchange i new) (.looked k) := by
  obtain ⟨hshape, hplaced, -⟩ := h
  refine ⟨Node.exchange_face above i new, fun before => ?_,
    not_readOutside_of_role habove (by simp [hrole])⟩
  -- Of a namespace only its name, which is in its shape, and its body are read.
  refine placeNode_exchange hchild ⟨Node.face_of_shape hshape, fun kind hkind => ?_, fun kind hkind => ?_,
    fun hkind => ?_, fun _ kind hkind => ?_, fun hother => ?_⟩
  · cases hrole.symm.trans hkind
  · cases hrole.symm.trans hkind
  · cases hrole.symm.trans hkind
  · obtain ⟨-, rfl⟩ | ⟨hkind, -⟩ := hkind
    · exact hplaced
    · cases hrole.symm.trans hkind
  · cases hrole.symm.trans hother

/-- A class, interface or record is placed alike when its body is. -/
theorem PlacedAlike.looked_of_declaration {kind : Kind} (hrole : above.role = .declaration kind)
    (hnest : kind ∈ [Kind.classType, .interfaceType, .record]) (hbody : bodyIndex? above = some i)
    (h : PlacedAlike setting root (p ++ [i]) child new (.opened (some kind))) :
    PlacedAlike setting root p above (above.exchange i new) (.looked k) := by
  obtain ⟨hshape, hplaced, hread⟩ := h
  obtain ⟨hattributes, hbases⟩ := hread p i above siblings kind rfl habove hrole hbody
  refine ⟨Node.exchange_face above i new, fun before => ?_,
    not_readOutside_of_role habove (by simp [hrole])⟩
  -- Of a declaration more is read, in case the body is also one of the lists.
  refine placeNode_exchange hchild ⟨Node.face_of_shape hshape, fun _ _ => hattributes, fun other hother => ?_,
    fun hother => ?_, fun _ other hother => ?_, fun hother => ?_⟩
  · cases hrole.symm.trans hother
    exact hbases
  · cases hrole.symm.trans hother
    simp at hnest
  · obtain ⟨hother, -⟩ | ⟨hother, -⟩ := hother
    · cases hrole.symm.trans hother
    · cases hrole.symm.trans hother
      exact hplaced
  · cases hrole.symm.trans hother

end Turned

/-- A step of the way turned around: what leads to a place that is placed alike is placed alike. -/
theorem PlacedAlike.of_step {a b : Path × Stage} (hstep : Step setting root a b)
    (hat : root.at? [] b.1 = some (node, before)) (h : PlacedAlike setting root b.1 node new b.2) :
    ∃ above siblings changed, root.at? [] a.1 = some (above, siblings) ∧
      root.put changed a.1 = root.put new b.1 ∧ PlacedAlike setting root a.1 above changed a.2 := by
  cases hstep with
  | child habove _ _ hfirst =>
    have hchild := Node.child_of_at? habove hat
    refine ⟨_, _, _, habove, put_exchange habove hchild, h.opened_of_looked habove hchild ?_ ?_ ?_⟩
    · exact fun hfile => absurd (hfirst _ hfile) (Nat.lt_irrefl _)
    · exact fun _ => rfl
    · exact fun ⟨f, hfile, hlt⟩ => absurd (hfirst f hfile) (Nat.lt_asymm hlt)
  -- No step starts from a mapped place, so it is never on the way to the exchanged node.
  | fileMapped => exact h.elim
  | fileOpened habove hfile =>
    have hchild := Node.child_of_at? habove hat
    exact ⟨_, _, _, habove, put_exchange habove hchild, h.opened_of_file habove hchild hfile⟩
  | following habove hfile hlt _ _ =>
    have hchild := Node.child_of_at? habove hat
    refine ⟨_, _, _, habove, put_exchange habove hchild, h.opened_of_looked habove hchild ?_ ?_ ?_⟩
    · rintro hother
      cases hfile.symm.trans hother
      exact Nat.lt_irrefl _ hlt
    · exact fun hfirst => absurd (hfirst _ hfile) (Nat.lt_asymm hlt)
    · exact fun _ => rfl
  | namespaceMapped => exact h.elim
  | namespaceOpened habove hrole _ =>
    have hchild := Node.child_of_at? habove hat
    exact ⟨_, _, _, habove, put_exchange habove hchild, h.looked_of_namespace habove hchild hrole⟩
  | declarationMapped => exact h.elim
  | declarationOpened habove hrole _ hnest hbody =>
    have hchild := Node.child_of_at? habove hat
    exact ⟨_, _, _, habove, put_exchange habove hchild,
      h.looked_of_declaration habove hchild hrole hnest hbody⟩
  | transparent habove hrole =>
    -- The place stays the same, only the stage changes: nothing is put together here.
    cases hat.symm.trans habove
    obtain ⟨hshape, hplaced, -⟩ := h
    have hface := Node.face_of_shape hshape
    refine ⟨_, _, _, habove, rfl, hface, fun before => ?_, not_readOutside_of_role habove (by simp [hrole])⟩
    rw [placeNode_eq, placeNode_eq, Node.role_of_face hface, hrole]
    exact hplaced

/-- A tree is placed as before with another node at a place on the way that is placed alike. -/
theorem placeTree_put {b : Path × Stage} (hreached : ReflTransGen (Step setting root) ([], .opened none) b)
    (hat : root.at? [] b.1 = some (node, before)) (h : PlacedAlike setting root b.1 node new b.2) :
    placeTree setting (root.put new b.1) = placeTree setting root := by
  induction hreached generalizing node before new with
  | refl =>
    cases hat
    exact h.2.1
  | tail _ hstep ih =>
    obtain ⟨above, siblings, changed, habove, hput, halike⟩ := PlacedAlike.of_step hstep hat h
    rw [← hput]
    exact ih habove halike

/-! ## Nodes that are read alike everywhere -/

/-- At the position of the first item that passes a test there is one that passes it. -/
theorem test_of_findIdx? {α : Type} {xs : List α} {test : α → Bool} {x : α}
    (hfirst : xs.findIdx? test = some i) (hx : xs[i]? = some x) : test x = true := by
  obtain ⟨hlt, htest, -⟩ := List.findIdx?_eq_some_iff_getElem.1 hfirst
  obtain ⟨-, rfl⟩ := List.getElem?_eq_some_iff.1 hx
  exact htest

/-- Whether two nodes are read alike wherever they stand. -/
structure ReadsAlike (setting : Setting) (node new : Node) : Prop where
  shape : new.shape = node.shape
  looked : ∀ pre parent before,
    placeNode setting pre parent before new = placeNode setting pre parent before node
  opened : ∀ pre parent, placeInside setting pre parent new = placeInside setting pre parent node
  names : ∀ type, namesOf setting.source (Node.isOf type) new.namedChildren =
    namesOf setting.source (Node.isOf type) node.namedChildren
  bases : baseNames setting.source new.namedChildren = baseNames setting.source node.namedChildren

/-- A node is read alike everywhere if the exchanged child is placed alike and, if it is one of the children
that are looked into, is read alike everywhere too. -/
theorem readsAlike_exchange (hchild : node.children[i]? = some child) (hshape : new.shape = child.shape)
    (hlooked : ∀ pre parent before,
      placeNode setting pre parent before new = placeNode setting pre parent before child)
    (hpart : IsBodyOf node i ∨ child.isOf "attribute_list" = true ∨ child.isOf "base_list" = true ∨
      child.isOf "enum_member_declaration_list" = true ∨ child.role = .fileNamespace →
      ReadsAlike setting child new) :
    ReadsAlike setting node (node.exchange i new) := by
  have hface := Node.face_of_shape hshape
  have hopened : ∀ pre parent,
      placeInside setting pre parent (node.exchange i new) = placeInside setting pre parent node := by
    -- Only as the first namespace for the rest of the file is the child opened and not looked at.
    intro pre parent
    refine placeInside_exchange hchild hface (fun _ => hlooked _ _) (fun hfile => ?_) fun _ => hlooked _ _
    obtain ⟨file, hfirst, -, hrole⟩ := fileIndex?_eq_some hfile
    cases hchild.symm.trans hfirst
    exact ⟨(hpart (.inr (.inr (.inr (.inr hrole))))).opened _ _, nameOf_of_shape hshape⟩
  refine ⟨Node.shape_exchange hchild hface, fun pre parent before => ?_, hopened, fun type => ?_, ?_⟩
  · refine placeNode_exchange hchild ⟨hface, fun _ _ hlist => ?_, fun _ _ _ hlist => ?_,
      fun hrole henum => ?_, fun hbody kind hkind => ?_, fun _ => hopened pre parent⟩
    · exact (hpart (.inr (.inl hlist))).names "attribute"
    · exact (hpart (.inr (.inr (.inl (test_of_findIdx? hlist hchild))))).bases
    · -- The enumerated names are in the body, or without one in a list that is known by its type.
      refine (hpart ?_).names "enum_member_declaration"
      cases hbody : node.children.findIdx? (Node.fills "body") with
      | none =>
        rw [enumIndex?, hbody, Option.none_or] at henum
        exact .inr (.inr (.inr (.inl (test_of_findIdx? henum hchild))))
      | some j =>
        rw [enumIndex?, hbody, Option.some_or] at henum
        refine .inl ⟨?_, .inr ⟨_, hrole, rfl⟩⟩
        rw [bodyIndex?, hbody, Option.some_or, henum]
    · refine (hpart (.inl ⟨hbody, ?_⟩)).opened _ _
      obtain ⟨hrole, -⟩ | ⟨hrole, hnest⟩ := hkind
      · exact .inl hrole
      · refine .inr ⟨kind, hrole, ?_⟩
        have hne := Syntax.Role.kind_ne_nameSpace hrole
        cases kind <;> simp_all [Kind.canNest, Kind.isType]
  · rw [← namesOf_shape, Node.map_shape_namedChildren_exchange hchild hshape, namesOf_shape]
  · rw [← baseNames_shape, Node.map_shape_namedChildren_exchange hchild hshape, baseNames_shape]

/-- A tree is read alike with another node at a path that is read alike everywhere. -/
theorem ReadsAlike.put (h : ReadsAlike setting node new) (hat : root.at? before p = some (node, siblings)) :
    ReadsAlike setting root (root.put new p) := by
  induction p generalizing root before with
  | nil =>
    cases hat
    exact h
  | cons i p ih =>
    rw [Node.at?] at hat
    rw [Node.put]
    cases hchild : root.children[i]? with
    | none => simp [hchild] at hat
    | some child =>
      simp only [hchild] at hat
      have halike := ih hat
      -- The child is read alike everywhere, whatever it is to its parent.
      exact readsAlike_exchange hchild halike.shape halike.looked fun _ => halike

/-- What is around a method, a constructor or a property that is not its body is read alike everywhere if a
part of the method is exchanged. -/
theorem readsAlike_leaf {kind : Kind} {leaf : Node} {m : Nat} (hleaf : node.children[m]? = some leaf)
    (hrole : leaf.role = .declaration kind) (hkind : kind ∈ [Kind.method, .constructor, .property])
    (hbody : ¬ IsBodyOf node m) (hchild : leaf.children[i]? = some child)
    (hlist : child.isOf "attribute_list" = false) (hface : new.face = child.face) :
    ReadsAlike setting node (node.exchange m (leaf.exchange i new)) := by
  have htype : ∀ type, Syntax.Role.of type = .other → leaf.isOf type = false := by
    intro type hother
    exact Node.isOf_eq_false (by rw [hrole, hother]; simp)
  refine readsAlike_exchange hleaf (Node.shape_exchange hchild hface)
    (fun _ _ _ => placeNode_leaf hrole hkind hchild hlist hface) ?_
  -- A method is none of the children that are looked into.
  rintro (h | h | h | h | h)
  · exact absurd h hbody
  · cases (htype _ rfl).symm.trans h
  · cases (htype _ rfl).symm.trans h
  · cases (htype _ rfl).symm.trans h
  · cases hrole.symm.trans h

/-! ## The outline of a redrawn tree -/

/-- A redrawn tree has the same members from the same places, or the same fault. -/
theorem placeTree_of_redrawn {drawn : Node} (h : Redrawn setting root drawn) :
    placeTree setting drawn = placeTree setting root := by
  cases h with
  | hidden hlooked hat hrole hhidden hmodifiers =>
    refine placeTree_put hlooked hat ⟨rfl, fun _ => placeNode_hidden hrole hhidden hmodifiers, ?_⟩
    exact not_readOutside_of_role hat (by simp [hrole])
  | unmapped hlooked hat hrole hout =>
    refine placeTree_put hlooked hat ⟨rfl, fun _ => ?_, hout⟩
    rw [placeNode_other hrole]
    exact placeNode_other hrole
  | @leaf p kind node child before children i hat hrole hkind hplace hchild hlist =>
    rw [← put_exchange hat hchild]
    obtain ⟨k, hlooked⟩ | hbody := hplace
    · -- The way comes by the declaration, and it is placed there as before.
      refine placeTree_put hlooked hat ⟨Node.exchange_face _ _ _, fun _ => ?_, ?_⟩
      · exact placeNode_leaf hrole hkind hchild hlist rfl
      · exact not_readOutside_of_role hat (by simp [hrole])
    · -- The declaration may be anywhere. What is around it is read as before, whoever reads it.
      obtain rfl | ⟨q, m, rfl⟩ := List.eq_nil_or_concat' p
      · exact absurd (.inl rfl) hbody
      obtain ⟨owner, siblings, howner, hleaf, -⟩ := Node.exists_container hat
      rw [← put_exchange howner hleaf]
      have hnone : ¬ IsBodyOf owner m := fun hbodyOf =>
        hbody (.inr ⟨q, m, owner, siblings, rfl, howner, hbodyOf⟩)
      have halike : ReadsAlike setting owner
          (owner.exchange m (node.exchange i { child with children })) :=
        readsAlike_leaf hleaf hrole hkind hnone hchild hlist rfl
      exact (halike.put howner).opened [] none

/-- **Parts that do not show have no influence.** When parts of a tree that do not show are exchanged, one
after the other, the outline of the tree is the same, or the same fault; its members are at the same places,
and each is built from a node of the tree before the exchanges. -/
theorem hidden_parts_have_no_influence {drawn : Node} (path : String)
    (h : ReflTransGen (Redrawn setting) root drawn) :
    (mapTree setting path drawn).outcome = (mapTree setting path root).outcome ∧
      placeTree setting drawn = placeTree setting root ∧
      ∀ placed, placeTree setting drawn = .ok placed →
        ∀ item ∈ placedPreorder placed, BuiltAt setting root item.path item.member := by
  -- One exchange after another, each leaves all places as they are.
  have hplaced : placeTree setting drawn = placeTree setting root := by
    induction h with
    | refl => rfl
    | tail _ hdrawn ih => rw [placeTree_of_redrawn hdrawn, ih]
  refine ⟨?_, hplaced, fun placed hdrawn => ?_⟩
  · rw [placeTree, placeTree] at hplaced
    simp only [mapTree, walkTree, Traced.outcome_bind, placeInside_erase setting [] none, hplaced]
  · exact (covers_placeTree (hplaced.symm.trans hdrawn)).built

/-! ## A file with such parts -/

/-- A modifier, a type, a name, and a byte that is no text. -/
def sheetSource : Bytes :=
  Text.Utf8.ofString "private T N" ++ [255]

/-- A file with a private class, a property and a statement, and the given nodes in each of them. -/
def sheet (inClass inProperty inStatement : List Node) : Node :=
  { type := "compilation_unit", start := 0, stop := 12, children := [
    { type := "class_declaration", start := 0, stop := 7,
      children := { type := "modifier", start := 0, stop := 7 } :: inClass },
    { type := "property_declaration", start := 8, stop := 12, children := [
      { type := "identifier", start := 8, stop := 9, field := some "type" },
      { type := "identifier", start := 10, stop := 11, field := some "name" },
      { type := "accessor_list", start := 11, stop := 12, children := inProperty }] },
    { type := "global_statement", start := 11, stop := 12, children := inStatement }] }

/-- A class whose name cannot be read. -/
def unreadable : Node :=
  { type := "class_declaration", start := 11, stop := 12, children := [
    { type := "identifier", start := 11, stop := 12, field := some "name" }] }

/-- A named child of a file is looked at if no namespace for the rest of the file is in it. -/
theorem looked_of_child (hnone : fileIndex? root = none) (hchild : root.children[i]? = some node)
    (hnamed : node.named = true) : Looked setting root none [i] :=
  ReflTransGen.single (.child rfl hchild hnamed (by simp [hnone]))

/-- The class of the file is not visible. -/
theorem not_shown_private (children : List Node) (h : children.filter (Node.isOf "modifier") = []) :
    ¬ Shown ⟨sheetSource, false⟩ none
      { type := "class_declaration", start := 0, stop := 7,
        children := { type := "modifier", start := 0, stop := 7 } :: children } := by
  have hread : modifierTexts sheetSource [{ type := "modifier", start := 0, stop := 7 }] =
      .ok ["private"] := by
    decide +kernel
  rintro ⟨modifiers, hmodifiers, hvisible⟩
  rw [modifiersOf, ← modifierTexts_filter, List.filter_cons_of_pos (by decide), h] at hmodifiers
  cases hread.symm.trans hmodifiers
  revert hvisible
  decide

/-- Classes that cannot be read do not show in the private class, the property and the statement. -/
theorem sheet_redrawn :
    ReflTransGen (Redrawn ⟨sheetSource, false⟩) (sheet [] [] [])
        (sheet [unreadable] [unreadable] [unreadable]) ∧
      (mapTree ⟨sheetSource, false⟩ "S.cs" (sheet [unreadable] [unreadable] [unreadable])).outcome.map
          (fun file => file.map fun found => found.members.map Member.signature) = .ok (some ["T N"]) := by
  have hclass : Redrawn ⟨sheetSource, false⟩ (sheet [] [] []) (sheet [unreadable] [] []) :=
    @Redrawn.hidden _ _ [0] none .classType _ _ [{ type := "modifier", start := 0, stop := 7 }, unreadable]
      (looked_of_child rfl rfl rfl) rfl rfl (not_shown_private [] rfl) rfl
  have hproperty : Redrawn ⟨sheetSource, false⟩ (sheet [unreadable] [] [])
      (sheet [unreadable] [unreadable] []) :=
    @Redrawn.leaf _ _ [1] .property _ { type := "accessor_list", start := 11, stop := 12 } _ [unreadable] 2
      rfl rfl (by decide) (.inl ⟨none, looked_of_child rfl rfl rfl⟩) rfl rfl
  have hstatement : Redrawn ⟨sheetSource, false⟩ (sheet [unreadable] [unreadable] [])
      (sheet [unreadable] [unreadable] [unreadable]) := by
    refine @Redrawn.unmapped _ _ [2] none { type := "global_statement", start := 11, stop := 12 } _
      [unreadable] (looked_of_child rfl rfl rfl) rfl rfl ?_
    rintro ⟨q, i, j, _, _, _, _, _, hpath, -⟩
    have hlength := congrArg List.length hpath
    simp at hlength
  have hredrawn := ((ReflTransGen.single hclass).tail hproperty).tail hstatement
  refine ⟨hredrawn, ?_⟩
  rw [(hidden_parts_have_no_influence "S.cs" hredrawn).1]
  decide +kernel

/-! ## Parts that show -/

/-- A class whose body is a list of attributes, with the given nodes in the attribute. -/
def attributedBody (inAttribute : List Node) : Node :=
  { type := "compilation_unit", start := 0, stop := 2, children := [
    { type := "class_declaration", start := 0, stop := 2, children := [
      { type := "identifier", start := 0, stop := 1, field := some "name" },
      { type := "attribute_list", start := 1, stop := 2, field := some "body", children := [
        { type := "attribute", start := 1, stop := 2, children := inAttribute }] }] }] }

/-- A class whose body is a method, with the given nodes in a part of the method. -/
def methodBody (inPart : List Node) : Node :=
  { type := "compilation_unit", start := 0, stop := 2, children := [
    { type := "class_declaration", start := 0, stop := 2, children := [
      { type := "identifier", start := 0, stop := 1, field := some "name" },
      { type := "method_declaration", start := 1, stop := 2, field := some "body", children := [
        { type := "declaration_list", start := 1, stop := 2, children := inPart }] }] }] }

/-- The attribute is looked at as part of the body and means nothing, and yet its name shows among the
attributes of the class. A part of a method that is itself a body shows too. -/
theorem parts_of_bodies_show :
    Looked ⟨Text.Utf8.ofString "CA", false⟩ (attributedBody []) (some .classType) [0, 1, 0] ∧
      ((attributedBody []).at? [] [0, 1, 0]).map (fun found => found.1.role) = some .other ∧
      ((placeTree ⟨Text.Utf8.ofString "CA", false⟩ (attributedBody [])).map fun placed =>
          (membersOf placed).map Member.attributes) = .ok [[]] ∧
      ((placeTree ⟨Text.Utf8.ofString "CA", false⟩ (attributedBody [
          { type := "identifier", start := 1, stop := 2, field := some "name" }])).map fun placed =>
          (membersOf placed).map Member.attributes) = .ok [["A"]] ∧
      ((methodBody []).at? [] [0, 1]).map (fun found => found.1.role) = some (.declaration .method) ∧
      ((placeTree ⟨Text.Utf8.ofString "CA", false⟩ (methodBody [])).map fun placed =>
          countMembers (membersOf placed)) = .ok ⟨0, 1, 0⟩ ∧
      ((placeTree ⟨Text.Utf8.ofString "CA", false⟩ (methodBody [
          { type := "class_declaration", start := 1, stop := 2 }])).map fun placed =>
          countMembers (membersOf placed)) = .ok ⟨0, 2, 0⟩ := by
  refine ⟨?_, rfl, by decide +kernel, by decide +kernel, rfl, by decide +kernel, by decide +kernel⟩
  have hshown : Shown ⟨Text.Utf8.ofString "CA", false⟩ none
      ((attributedBody []).children.head (List.cons_ne_nil _ _)) := ⟨[], rfl, rfl⟩
  have hclass : Looked ⟨Text.Utf8.ofString "CA", false⟩ (attributedBody []) none [0] :=
    looked_of_child rfl rfl rfl
  exact (hclass.tail (.declarationOpened rfl rfl hshown (by decide) rfl)).tail (.child rfl rfl rfl nofun)

end ApiOutline.Outline
