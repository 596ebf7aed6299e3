import ApiOutline.Proofs.Placement

/-!
# How far a namespace for the rest of the file reaches

A namespace without braces holds all that follows it in its container. The container can be a region of
conditional compilation, and regions are looked into as if their contents stood in the container around
them; but what follows the region is then outside of the namespace. `fileNamespaces` lists the namespaces
of this form that are reached from the root through transparent containers only. Each has a top-level
member, and of all members after it in document order those inside of it are exactly those whose nodes are
in its container (`fileNamespace_holds_iff_in_container`).

`HoldsRest` says this of a placed forest. It is put together along the walk: what comes before the
namespace and what comes after its region are added on either side.
-/

namespace ApiOutline.Outline

open Syntax (Node Path)

mutual

/-- The namespaces for the rest of the file that are reached in the node at a path, if that is a
transparent container. -/
def fileNamespacesAt (pre : Path) : Node → List Path
  | ⟨type, _, _, _, named, _, _, children⟩ =>
    if named && Syntax.Role.of type = .transparent then fileNamespacesFrom pre 0 children else []

/-- The namespaces for the rest of the file that are reached from position `i` on in the container at a
path. What follows the first of them in the container is part of it. -/
def fileNamespacesFrom (pre : Path) (i : Nat) : List Node → List Path
  | [] => []
  | node :: nodes =>
    if opensFile node then [pre ++ [i]]
    else fileNamespacesAt (pre ++ [i]) node ++ fileNamespacesFrom pre (i + 1) nodes

end

/-- The paths of the namespaces for the rest of the file that are reached from the root through
transparent containers only, in document order. -/
def fileNamespaces (root : Node) : List Path :=
  fileNamespacesFrom [] 0 root.children

/-- Only in a transparent container a namespace is reached. -/
theorem of_mem_fileNamespacesAt {pre p : Path} {node : Node} (h : p ∈ fileNamespacesAt pre node) :
    node.named = true ∧ node.role = .transparent ∧ p ∈ fileNamespacesFrom pre 0 node.children := by
  obtain ⟨type, start, stop, field, named, missing, hasError, children⟩ := node
  rw [fileNamespacesAt] at h
  split_ifs at h with htransparent
  · simp only [Bool.and_eq_true, decide_eq_true_eq] at htransparent
    exact ⟨htransparent.1, htransparent.2, h⟩
  · cases h

mutual

/-- What is reached in the node at a path is below it. -/
theorem below_of_mem_fileNamespacesAt (pre p : Path) : ∀ node : Node,
    p ∈ fileNamespacesAt pre node → ∃ j, pre ++ [j] <+: p
  | ⟨_, _, _, _, _, _, _, children⟩, h =>
    below_of_mem_fileNamespacesFrom pre p 0 children (of_mem_fileNamespacesAt h).2.2

/-- What is reached among the children of a container is at or below one of them. -/
theorem below_of_mem_fileNamespacesFrom (pre p : Path) (i : Nat) : ∀ nodes : List Node,
    p ∈ fileNamespacesFrom pre i nodes → ∃ j, pre ++ [j] <+: p
  | [], h => by cases h
  -- The namespace is this child, or in it, or further on.
  | node :: nodes, h => by
    rw [fileNamespacesFrom] at h
    split_ifs at h
    · exact ⟨i, List.mem_singleton.1 h ▸ List.prefix_refl _⟩
    · obtain h | h := List.mem_append.1 h
      · obtain ⟨j, hj⟩ := below_of_mem_fileNamespacesAt (pre ++ [i]) p node h
        exact ⟨i, (List.prefix_append _ [j]).trans hj⟩
      · exact below_of_mem_fileNamespacesFrom pre p (i + 1) nodes h

end

/-- The container of a namespace that is reached in a node is at the path of the node or below. -/
theorem below_container {pre container : Path} {f : Nat} {node : Node}
    (h : container ++ [f] ∈ fileNamespacesAt pre node) : pre <+: container := by
  obtain ⟨j, hj⟩ := below_of_mem_fileNamespacesAt pre (container ++ [f]) node h
  obtain heq | hin := List.prefix_concat_iff.1 hj
  · exact (List.append_inj' heq rfl).1 ▸ List.prefix_refl pre
  · exact (List.prefix_append pre [j]).trans hin

/-! ## Forests with a namespace in them -/

/-- What a placed forest says of the namespace for the rest of the file at position `f` of a container. -/
structure HoldsRest (container : Path) (f : Nat) (placed : List Placed) (item : Placed) : Prop where
  /-- It is one of the topmost members. -/
  mem : item ∈ placed
  path : item.path = container ++ [f]
  kind : item.member.kind = .nameSpace
  /-- What is placed inside it is what is nested in its member. -/
  nested : (placedPreorder item.inner).map Placed.member = preorderOf item.member.children
  /-- Of what comes after it, it holds what is in its container. -/
  holds_iff : ∀ later ∈ placedPreorder placed, item.path < later.path →
    (later ∈ placedPreorder item.inner ↔ container <+: later.path)

variable {setting : Setting} {root node : Node} {before : List Node} {pre container : Path}
  {parent : Option Kind} {placed others : List Placed} {item later : Placed} {P : Place → Prop} {f : Nat}

/-- A member at any depth of a forest is at one of the places that the forest covers. -/
theorem Covers.exists_place (h : Covers setting root parent P placed)
    (hitem : item ∈ placedPreorder placed) : ∃ place, P place ∧ place.2 = item.path := by
  have hpath : item.path ∈ (placesOf parent placed).map Prod.snd := by
    rw [h.paths]
    exact List.mem_map_of_mem hitem
  obtain ⟨place, hplace, heq⟩ := List.mem_map.1 hpath
  exact ⟨place, (h.mem_iff place).1 hplace, heq⟩

/-- A member of a forest, and what is inside it, is among the members at all depths. -/
theorem mem_placedPreorder (h : item ∈ placed) :
    item ∈ placedPreorder placed ∧ ∀ inner ∈ placedPreorder item.inner, inner ∈ placedPreorder placed := by
  obtain ⟨front, rest, rfl⟩ := List.append_of_mem h
  obtain ⟨path, member, inner⟩ := item
  have hsplit : front ++ ⟨path, member, inner⟩ :: rest =
      front ++ ([⟨path, member, inner⟩] ++ rest) := rfl
  rw [hsplit, placedPreorder_append, placedPreorder_append, placedPreorder_single]
  simp only [List.mem_append, List.mem_cons]
  exact ⟨by simp, fun later hlater => .inr (.inl (.inr hlater))⟩

/-- Members outside of the container come after those of a forest. -/
theorem HoldsRest.append_left (h : HoldsRest container f placed item)
    (hother : ∀ later ∈ placedPreorder others,
      later ∉ placedPreorder placed ∧ ¬ container <+: later.path) :
    HoldsRest container f (placed ++ others) item where
  mem := List.mem_append_left others h.mem
  path := h.path
  kind := h.kind
  nested := h.nested
  -- What is added is not in the namespace, and not in its container either.
  holds_iff := by
    intro later hlater hlt
    rw [placedPreorder_append, List.mem_append] at hlater
    obtain hlater | hlater := hlater
    · exact h.holds_iff later hlater hlt
    · obtain ⟨hnot, hout⟩ := hother later hlater
      have hinner : later ∉ placedPreorder item.inner :=
        fun hmem => hnot ((mem_placedPreorder h.mem).2 later hmem)
      exact iff_of_false hinner hout

/-- Members that come before the namespace are put in front of a forest. -/
theorem HoldsRest.append_right (h : HoldsRest container f others item)
    (hbefore : ∀ earlier ∈ placedPreorder placed, earlier.path < item.path) :
    HoldsRest container f (placed ++ others) item where
  mem := List.mem_append_right placed h.mem
  path := h.path
  kind := h.kind
  nested := h.nested
  -- What is put in front comes before the namespace, so it is no later member.
  holds_iff := by
    intro later hlater hlt
    rw [placedPreorder_append, List.mem_append] at hlater
    obtain hlater | hlater := hlater
    · exact absurd (hbefore later hlater) (List.lt_asymm hlt)
    · exact h.holds_iff later hlater hlt

/-- A namespace around all that follows it holds it. -/
theorem HoldsRest.single {member : Member} {kind : Kind} (hkind : member.kind = .nameSpace)
    (hchildren : member.children = membersOf placed) (h : Covers setting root (some kind) P placed)
    (hbelow : ∀ place, P place → container <+: place.2) :
    HoldsRest container f [⟨container ++ [f], member, placed⟩] ⟨container ++ [f], member, placed⟩ where
  mem := List.mem_singleton_self _
  path := rfl
  kind := hkind
  nested := by rw [h.members, hchildren]
  holds_iff := by
    intro later hlater hlt
    rw [placedPreorder_single, List.mem_cons] at hlater
    obtain rfl | hlater := hlater
    · exact absurd hlt (List.lt_irrefl _)
    · obtain ⟨place, hplace, heq⟩ := h.exists_place hlater
      exact iff_of_true hlater (heq ▸ hbelow place hplace)

/-! ## The walk -/

/-- What later children lead to is below the container. -/
theorem ChildrenLead.below {holder : Node} {i : Nat} {place : Place}
    (h : ChildrenLead setting root pre parent holder i place) : pre <+: place.2 := by
  obtain ⟨j, -, hchild⟩ := h
  exact (List.prefix_append pre [j]).trans hchild.below

/-- What later children lead to is not below an earlier child. -/
theorem ChildrenLead.not_below {holder : Node} {i : Nat} {place : Place}
    (h : ChildrenLead setting root pre parent holder (i + 1) place) : ¬ pre ++ [i] <+: place.2 :=
  fun hbelow => List.lt_irrefl _ (lt_of_childrenLead hbelow h)

/-- Whether a part of the walk in which the given namespaces are reached has a member for the one at position `f`
of a container, if that is among them. -/
def HoldsReached (container : Path) (f : Nat) (reached : List Path)
    (part : Except Fault (List Placed)) : Prop :=
  container ++ [f] ∈ reached → ∀ placed, part = .ok placed → ∃ item, HoldsRest container f placed item

/-- Only a transparent container can hold a namespace that is reached. -/
theorem holdsReached_of_role (h : node.role ≠ .transparent) (part : Except Fault (List Placed)) :
    HoldsReached container f (fileNamespacesAt pre node) part :=
  fun hfound => absurd (of_mem_fileNamespacesAt hfound).2.1 h

/-- The namespace itself holds what follows it in its container. -/
theorem holdsReached_file {holder : Node} {i : Nat} (hat : root.at? [] pre = some (holder, before))
    (hchild : holder.children[i]? = some node) (hnamed : node.named = true)
    (hrole : node.role = .fileNamespace) (hindex : fileIndex? holder = some i) :
    HoldsReached container f [pre ++ [i]] (placeChildren setting pre parent holder i) := by
  intro hfound placed h
  obtain ⟨rfl, hi⟩ := List.append_inj' (List.mem_singleton.1 hfound) rfl
  cases hi
  -- The part consists of what is in the namespace, what follows it, and the member around both.
  rw [placeChildren_file hchild hnamed hrole] at h
  obtain ⟨inner, hinner, h⟩ := Outcome.bind_eq_ok.1 h
  obtain ⟨following, hfollowing, h⟩ := Outcome.bind_eq_ok.1 h
  obtain ⟨member, hmember, h⟩ := Outcome.bind_eq_ok.1 h
  cases h
  have hcov := (covers_cases setting root).open (Node.at?_child hat hchild) (some .nameSpace) inner hinner
  have hcov' := (covers_cases setting root).later hat hindex (Nat.lt_succ_self f) parent following hfollowing
  have hboth := hcov.append hcov' fun place later h h' => lt_of_childrenLead h.below h'
  obtain ⟨hkind, hchildren⟩ := namespaceMember_kind_children hmember
  refine ⟨_, .single hkind hchildren hboth ?_⟩
  rintro place (hplace | hplace)
  · exact (List.prefix_append container [f]).trans hplace.below
  · exact hplace.below

/-- A namespace that is reached in a child or further on holds what follows it in its container. -/
theorem holdsReached_node {holder : Node} {i : Nat} {later : List Path}
    (hat : root.at? [] pre = some (holder, before)) (hchild : holder.children[i]? = some node)
    (hnamed : node.named = true) (hrole : node.role ≠ .fileNamespace)
    (hfile : ∀ g, fileIndex? holder = some g → i + 1 ≤ g)
    (hnode : HoldsReached container f (fileNamespacesAt (pre ++ [i]) node)
      (placeNode setting (pre ++ [i]) parent (namedBefore holder.children i) node))
    (hrest : HoldsReached container f later (placeChildren setting pre parent holder (i + 1))) :
    HoldsReached container f (fileNamespacesAt (pre ++ [i]) node ++ later)
      (placeChildren setting pre parent holder i) := by
  intro hfound placed h
  rw [placeChildren_node hchild hnamed hrole] at h
  obtain ⟨first, hfirst, h⟩ := Outcome.bind_eq_ok.1 h
  obtain ⟨following, hfollowing, h⟩ := Outcome.bind_eq_ok.1 h
  cases h
  have hcov := (covers_cases setting root).look (Node.at?_child hat hchild) parent first hfirst
  have hcov' := (covers_cases setting root).children hat hfile parent following hfollowing
  obtain hfound | hfound := List.mem_append.1 hfound
  · -- The namespace is inside this child, and all members of later children are outside of it.
    obtain ⟨item, hitem⟩ := hnode hfound first hfirst
    refine ⟨item, hitem.append_left fun later hlater => ?_⟩
    obtain ⟨place, hplace, hpath⟩ := hcov'.exists_place hlater
    rw [← hpath]
    refine ⟨fun hmem => ?_, fun hout => hplace.not_below ((below_container hfound).trans hout)⟩
    obtain ⟨other, hother, hpath'⟩ := hcov.exists_place hmem
    exact hplace.not_below (hpath ▸ hpath' ▸ hother.below)
  · -- The namespace is further on, after all members of this child.
    obtain ⟨item, hitem⟩ := hrest hfound following hfollowing
    obtain ⟨late, hlate, hpath⟩ := hcov'.exists_place (mem_placedPreorder hitem.mem).1
    refine ⟨item, hitem.append_right fun earlier hearlier => ?_⟩
    obtain ⟨early, hearly, hpath'⟩ := hcov.exists_place hearlier
    rw [← hpath, ← hpath']
    exact lt_of_childrenLead hearly.below hlate

/-- What is reached from a position on, by the child at the position. -/
theorem fileNamespacesFrom_drop {holder : Node} {i : Nat} (hchild : holder.children[i]? = some node) :
    fileNamespacesFrom pre i (holder.children.drop i) =
      if opensFile node then [pre ++ [i]]
      else fileNamespacesAt (pre ++ [i]) node ++
        fileNamespacesFrom pre (i + 1) (holder.children.drop (i + 1)) := by
  rw [drop_eq_cons hchild, fileNamespacesFrom]

/-- A namespace for the rest of the file that is reached has a member that holds what follows in its container.
Nothing but transparent containers leads to such a namespace, so only these are followed. -/
theorem holdsReached_cases (setting : Setting) (root : Node) (container : Path) (f : Nat) :
    PlacedCases root
      (fun pre parent before node => HoldsReached container f (fileNamespacesAt pre node)
        (placeNode setting pre parent before node))
      (fun pre parent node => HoldsReached container f (fileNamespacesFrom pre 0 node.children)
        (placeInside setting pre parent node))
      (fun pre parent holder i => HoldsReached container f
        (fileNamespacesFrom pre i (holder.children.drop i)) (placeChildren setting pre parent holder i))
      (fun _ _ _ _ => True) where
  nameSpace _ hrole _ := holdsReached_of_role (by simp [hrole]) _
  declaration _ hrole _ := holdsReached_of_role (by simp [hrole]) _
  region {pre parent before node} _ hrole ih := by
    rw [placeNode_eq, hrole]
    exact fun hfound => ih (of_mem_fileNamespacesAt hfound).2.2
  passed _ hrole := holdsReached_of_role (by obtain hrole | hrole := hrole <;> simp [hrole]) _
  opened _ ih := by
    rw [placeInside_eq]
    exact ih
  fromNil hdrop := by
    rw [hdrop]
    rintro ⟨⟩
  fromUnnamed {pre parent holder node i} hchild hnamed ih := by
    rw [fileNamespacesFrom_drop hchild, placeChildren_unnamed hchild hnamed, opensFile, hnamed]
    intro hfound
    obtain hfound | hfound := List.mem_append.1 hfound
    · exact absurd (of_mem_fileNamespacesAt hfound).1 (hnamed ▸ Bool.false_ne_true)
    · exact ih hfound
  fromFile {pre parent siblings holder node i} hat hchild hnamed hrole hindex _ _ := by
    rw [fileNamespacesFrom_drop hchild, if_pos (by simp [opensFile, hnamed, hrole])]
    exact holdsReached_file hat hchild hnamed hrole hindex
  fromNode {pre parent siblings holder node i} hat hchild hnamed hrole hfile hnode ih := by
    rw [fileNamespacesFrom_drop hchild, if_neg (by simp [opensFile, hrole])]
    exact holdsReached_node hat hchild hnamed hrole hfile hnode ih
  restNil _ := trivial
  restUnnamed _ _ _ := trivial
  restNode _ _ _ _ _ _ _ := trivial

/-- In the outline of a tree, a namespace for the rest of the file that is reached from the root through
transparent containers only has a top-level member, and this holds, of all members at any depth that come
after it in document order, exactly those whose nodes are in its container. So it holds the whole rest of
the file if and only if everything after it that has a member is in its container, as it is when the
namespace stands directly in the root. -/
theorem fileNamespace_holds_iff_in_container (setting : Setting) (path : String) (root : Node)
    (result : Option FileMap) (container : Path) (f : Nat)
    (hreached : container ++ [f] ∈ fileNamespaces root)
    (h : (mapTree setting path root).outcome = .ok result) :
    ∃ placed item, placeTree setting root = .ok placed ∧
      result = some ⟨path, membersOf placed⟩ ∧
      (placedPreorder placed).map Placed.member = preorderOf (membersOf placed) ∧
      (∀ later ∈ placedPreorder placed, BuiltAt setting root later.path later.member) ∧
      HoldsRest container f placed item ∧
      ((∀ later ∈ placedPreorder placed, item.path < later.path → later ∈ placedPreorder item.inner) ↔
        ∀ later ∈ placedPreorder placed, item.path < later.path → container <+: later.path) := by
  -- The placed outline has the members of the outline, and the namespace is found in it by the walk.
  obtain ⟨placed, hplaced, hresult⟩ := exists_placeTree_of_mapTree h
  have hcov := covers_placeTree hplaced
  obtain ⟨item, hitem⟩ := (holdsReached_cases setting root container f).openRoot none hreached placed hplaced
  have hne : placed.isEmpty = false := by
    rw [List.isEmpty_eq_false_iff]
    exact List.ne_nil_of_mem hitem.mem
  refine ⟨placed, item, hplaced, ?_, hcov.members, hcov.built, hitem, ?_⟩
  · rw [hresult, hne, if_neg Bool.false_ne_true]
  · refine forall₃_congr fun later hlater hlt => ?_
    exact hitem.holds_iff later hlater hlt

/-- A file in which a namespace is declared on a condition. -/
def conditionalSource : Text.Bytes :=
  Text.Utf8.ofString "#if X\nnamespace A;\nclass B \x7b \x7d\n#endif\nclass C \x7b \x7d"

/-- The tree of that file: a region with the namespace `A` and the class `B`, and after it the class `C`. -/
def conditionalTree : Node :=
  { type := "compilation_unit", start := 0, stop := 49, children := [
    { type := "preproc_if", start := 0, stop := 37, children := [
      { type := "identifier", start := 4, stop := 5, field := some "condition" },
      { type := "file_scoped_namespace_declaration", start := 6, stop := 18, children := [
        { type := "identifier", start := 16, stop := 17, field := some "name" }] },
      { type := "class_declaration", start := 19, stop := 30, children := [
        { type := "identifier", start := 25, stop := 26, field := some "name" },
        { type := "declaration_list", start := 27, stop := 30, field := some "body" }] }] },
    { type := "class_declaration", start := 38, stop := 49, children := [
      { type := "identifier", start := 44, stop := 45, field := some "name" },
      { type := "declaration_list", start := 46, stop := 49, field := some "body" }] }] }

/-- The topmost members of the outline of that file, and what is inside them. -/
theorem placeTree_conditionalTree :
    (placeTree ⟨conditionalSource, false⟩ conditionalTree).map (fun placed => placed.map fun item =>
      (item.path, (placedPreorder item.inner).map Placed.path)) =
        .ok [([0, 1], [[0, 2]]), ([1], [])] := by
  decide +kernel

/-- That file has an outline with a namespace, inside of which is a class, and a class. -/
theorem exists_placeTree_conditionalTree : ∃ first second : Placed,
    placeTree ⟨conditionalSource, false⟩ conditionalTree = .ok [first, second] ∧
      first.path = [0, 1] ∧ (placedPreorder first.inner).map Placed.path = [[0, 2]] ∧
      second.path = [1] := by
  -- The paths that are computed determine how many members there are.
  obtain ⟨placed, hplaced, hpaths⟩ := Outcome.map_eq_ok.1 placeTree_conditionalTree
  obtain ⟨first, others, rfl, hfirst, hothers⟩ := List.map_eq_cons_iff.1 hpaths
  obtain ⟨second, none, rfl, hsecond, hnone⟩ := List.map_eq_cons_iff.1 hothers
  rw [List.map_eq_nil_iff] at hnone
  cases hnone
  obtain ⟨hpath, hinner⟩ := Prod.mk.inj hfirst
  exact ⟨first, second, hplaced, hpath, hinner, (Prod.mk.inj hsecond).1⟩

/-- The class in the region is inside the namespace. -/
theorem conditionalTree_holds : ∃ result placed item,
    (mapTree ⟨conditionalSource, false⟩ "T.cs" conditionalTree).outcome = .ok result ∧
      [0] ++ [1] ∈ fileNamespaces conditionalTree ∧
      placeTree ⟨conditionalSource, false⟩ conditionalTree = .ok placed ∧
      HoldsRest [0] 1 placed item ∧ (placedPreorder item.inner).map Placed.path = [[0, 2]] := by
  obtain ⟨first, second, hplaced, hfirst, hinner, hsecond⟩ := exists_placeTree_conditionalTree
  have hresult := mapTree_of_placeTree hplaced "T.cs"
  obtain ⟨placed, item, hplaced', -, -, -, hitem, -⟩ := fileNamespace_holds_iff_in_container
    ⟨conditionalSource, false⟩ "T.cs" conditionalTree _ [0] 1 (by decide +kernel) hresult
  cases hplaced.symm.trans hplaced'
  refine ⟨_, _, item, hresult, by decide +kernel, hplaced, hitem, ?_⟩
  -- Of the two topmost members only the first one is at the path of the namespace.
  obtain rfl | hmem := List.mem_cons.1 hitem.mem
  · exact hinner
  · rw [List.mem_singleton] at hmem
    have hpath := hitem.path
    rw [hmem, hsecond] at hpath
    cases hpath

/-- The class after the region has a top-level member beside the namespace, which comes before it and is
the only one of the file. -/
theorem conditionalTree_not_held : ∃ placed item later,
    (mapTree ⟨conditionalSource, false⟩ "T.cs" conditionalTree).outcome =
        .ok (some ⟨"T.cs", membersOf placed⟩) ∧
      fileNamespaces conditionalTree = [[0, 1]] ∧
      placeTree ⟨conditionalSource, false⟩ conditionalTree = .ok placed ∧
      item ∈ placed ∧ item.path = [0, 1] ∧
      later ∈ placed ∧ item.path < later.path ∧ later ∉ placedPreorder item.inner := by
  obtain ⟨first, second, hplaced, hfirst, hinner, hsecond⟩ := exists_placeTree_conditionalTree
  refine ⟨_, first, second, mapTree_of_placeTree hplaced "T.cs", rfl, hplaced, by simp, hfirst, by simp,
    ?_, ?_⟩
  · rw [hfirst, hsecond]
    decide
  · -- All that is inside the namespace is at another path than the class.
    intro hmem
    have hpath : second.path ∈ (placedPreorder first.inner).map Placed.path := List.mem_map_of_mem hmem
    rw [hinner, hsecond] at hpath
    revert hpath
    decide

end ApiOutline.Outline
