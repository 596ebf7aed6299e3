import ApiOutline.Proofs.Placement

/-!
# Contextual outlines are pruned ones

In a contextual outline a declaration without access modifier directly inside a class or a record is
private. `isPrivateAt` says so of a place, `prune` deletes the trees of a placed forest that stand at such
places, and `placeTree_pruned` shows that the contextual walk gives the plain forest pruned. Both walks read
the same modifiers, and what the contextual walk does not look into cannot make it fail; the induction is the
one of the walk, with the node at hand tied to its path.

A pruned forest is also described member by member (`lineagesOf_prune`). The lineage of a member lists the
places that lead to it from the top of the forest, its own last. The lineages of the pruned forest are
those of the whole one, in order, without those that have a private place in them.
-/

namespace ApiOutline.Outline

open Syntax (Node Path)
open Text (Bytes)

/-! ## Private places and pruned forests -/

/-- Whether a place is private in context: a class or a record is around it, and the node there is a
declaration, not a namespace, with no access modifier. -/
def isPrivateAt (source : Bytes) (root : Node) (place : Place) : Bool :=
  (place.1 = some .classType || place.1 = some .record) &&
    match root.at? [] place.2 with
    | none => false
    | some (node, _) =>
      match node.role, modifiersOf source node with
      | .declaration _, .ok modifiers =>
        ["public", "internal", "protected", "private"].all fun access => !modifiers.contains access
      | _, _ => false

mutual

/-- A tree without the trees at hidden places in it, or nothing if it stands at one itself. All that is said
of a member stays, but for its children. -/
def Placed.prune (hidden : Place → Bool) (parent : Option Kind) : Placed → List Placed
  | ⟨path, member, inner⟩ =>
    if hidden (parent, path) then []
    else
      let kept := prune hidden (some member.kind) inner
      [⟨path, { member with children := membersOf kept }, kept⟩]

/-- A forest without the trees at hidden places. -/
def prune (hidden : Place → Bool) (parent : Option Kind) : List Placed → List Placed
  | [] => []
  | placed :: others => placed.prune hidden parent ++ prune hidden parent others

end

variable {hidden : Place → Bool} {parent : Option Kind} {path : Path} {member : Member}
  {inner : List Placed}

/-- Nothing is left of nothing. -/
@[simp]
theorem prune_nil : prune hidden parent [] = [] := rfl

/-- Forests side by side are pruned one by one. -/
theorem prune_append (placed others : List Placed) :
    prune hidden parent (placed ++ others) =
      prune hidden parent placed ++ prune hidden parent others := by
  induction placed with
  | nil => rfl
  | cons item placed ih => rw [List.cons_append, prune, prune, ih, List.append_assoc]

/-- A tree at a hidden place is deleted. -/
theorem prune_single_hidden (h : hidden (parent, path) = true) :
    prune hidden parent [⟨path, member, inner⟩] = [] := by
  rw [prune, Placed.prune, if_pos h, prune_nil, List.append_nil]

/-- A tree at any other place keeps its member, with the pruned trees inside it. -/
theorem prune_single_kept {kind : Kind} (h : hidden (parent, path) = false)
    (hkind : member.kind = kind) :
    prune hidden parent [⟨path, member, inner⟩] =
      [⟨path, { member with children := membersOf (prune hidden (some kind) inner) },
        prune hidden (some kind) inner⟩] := by
  rw [prune, Placed.prune, if_neg (by simp [h]), prune_nil, List.append_nil, ← hkind]

/-- Where nothing is hidden at the top, a forest that is not empty stays so. -/
theorem prune_eq_nil_iff (h : ∀ path, hidden (parent, path) = false) (placed : List Placed) :
    prune hidden parent placed = [] ↔ placed = [] := by
  cases placed with
  | nil => simp
  | cons item placed =>
    obtain ⟨path, member, inner⟩ := item
    rw [← List.singleton_append, prune_append, prune_single_kept (h path) rfl]
    simp

/-! ## Lineages -/

/-- What leads to a member from the top of a forest, and what is said of it. -/
structure Lineage where
  /-- The places of the members around it, the outermost first, and its own. -/
  places : List Place
  /-- The member, without its children. -/
  member : Member

/-- A member without its children. -/
def Member.bare (member : Member) : Member :=
  { member with children := [] }

mutual

/-- The lineages of a member and of all that is nested in it, below the places given. -/
def Placed.lineages (above : List Place) (parent : Option Kind) : Placed → List Lineage
  | ⟨path, member, inner⟩ =>
    ⟨above ++ [(parent, path)], member.bare⟩ ::
      lineagesOf (above ++ [(parent, path)]) (some member.kind) inner

/-- The lineages in a forest, in the order of its members. -/
def lineagesOf (above : List Place) (parent : Option Kind) : List Placed → List Lineage
  | [] => []
  | placed :: others => placed.lineages above parent ++ lineagesOf above parent others

end

/-- Whether no place that leads to a member is hidden. -/
def Lineage.isOpen (hidden : Place → Bool) (lineage : Lineage) : Bool :=
  lineage.places.all fun place => !hidden place

/-- The lineages of two forests are those of the first and then those of the second. -/
theorem lineagesOf_append (above : List Place) (placed others : List Placed) :
    lineagesOf above parent (placed ++ others) =
      lineagesOf above parent placed ++ lineagesOf above parent others := by
  induction placed with
  | nil => rfl
  | cons item placed ih => rw [List.cons_append, lineagesOf, lineagesOf, ih, List.append_assoc]

mutual

/-- Every lineage of a tree starts with the places above it. -/
theorem Placed.prefix_of_mem_lineages (above : List Place) (parent : Option Kind) :
    ∀ placed : Placed, ∀ lineage ∈ placed.lineages above parent, above <+: lineage.places
  | ⟨path, member, inner⟩ => by
    rw [Placed.lineages, List.forall_mem_cons]
    refine ⟨List.prefix_append _ _, fun lineage hlineage => ?_⟩
    exact (List.prefix_append above _).trans
      (prefix_of_mem_lineagesOf _ (some member.kind) inner lineage hlineage)

/-- Every lineage of a forest starts with the places above it. -/
theorem prefix_of_mem_lineagesOf (above : List Place) (parent : Option Kind) :
    ∀ placed : List Placed, ∀ lineage ∈ lineagesOf above parent placed, above <+: lineage.places
  | [] => by simp [lineagesOf]
  | placed :: others => by
    intro lineage hlineage
    rw [lineagesOf, List.mem_append] at hlineage
    obtain hlineage | hlineage := hlineage
    · exact Placed.prefix_of_mem_lineages above parent placed lineage hlineage
    · exact prefix_of_mem_lineagesOf above parent others lineage hlineage

end

/-- Below a hidden place no lineage is open. -/
theorem not_isOpen_of_hidden {above : List Place} {place : Place} (hplace : place ∈ above)
    (hhidden : hidden place = true) {lineage : Lineage} (habove : above <+: lineage.places) :
    lineage.isOpen hidden = false := by
  have hmem : place ∈ lineage.places := habove.subset hplace
  rw [Lineage.isOpen, List.all_eq_false]
  exact ⟨place, hmem, by simp [hhidden]⟩

mutual

/-- The lineages of a pruned tree are those of the tree that are open, if nothing above is hidden. -/
theorem Placed.lineages_prune (above : List Place) (parent : Option Kind)
    (habove : ∀ place ∈ above, hidden place = false) : ∀ placed : Placed,
    lineagesOf above parent (placed.prune hidden parent) =
      (placed.lineages above parent).filter (Lineage.isOpen hidden)
  | ⟨path, member, inner⟩ => by
    rw [Placed.prune, Placed.lineages]
    cases hplace : hidden (parent, path) with
    | true =>
      -- The tree is deleted, and its place is in all its lineages.
      have hlast : (parent, path) ∈ above ++ [(parent, path)] := by simp
      rw [if_pos rfl, eq_comm, lineagesOf, List.filter_eq_nil_iff, List.forall_mem_cons]
      refine ⟨?_, fun lineage hlineage => ?_⟩
      · rw [not_isOpen_of_hidden hlast hplace (List.prefix_refl _)]
        simp
      · rw [not_isOpen_of_hidden hlast hplace
          (prefix_of_mem_lineagesOf _ (some member.kind) inner lineage hlineage)]
        simp
    | false =>
      -- The tree stays, and all that leads to its parts is open up to them.
      have hopen : ∀ place ∈ above ++ [(parent, path)], hidden place = false := by
        rw [List.forall_mem_append, List.forall_mem_singleton]
        exact ⟨habove, hplace⟩
      have hown : Lineage.isOpen hidden ⟨above ++ [(parent, path)], member.bare⟩ = true := by
        rw [Lineage.isOpen, List.all_eq_true]
        intro place hmem
        rw [hopen place hmem]
        rfl
      rw [if_neg Bool.false_ne_true, List.filter_cons_of_pos hown,
        ← lineagesOf_prune _ (some member.kind) hopen inner]
      simp [lineagesOf, Placed.lineages, Member.bare]

/-- The lineages of a pruned forest are those of the forest that are open, if nothing above is hidden. -/
theorem lineagesOf_prune (above : List Place) (parent : Option Kind)
    (habove : ∀ place ∈ above, hidden place = false) : ∀ placed : List Placed,
    lineagesOf above parent (prune hidden parent placed) =
      (lineagesOf above parent placed).filter (Lineage.isOpen hidden)
  | [] => rfl
  | placed :: others => by
    rw [prune, lineagesOf, lineagesOf_append, List.filter_append,
      Placed.lineages_prune above parent habove placed, lineagesOf_prune above parent habove others]

end

mutual

/-- The members in the lineages are those of the forest at all depths, in order. -/
theorem Placed.lineages_members (above : List Place) (parent : Option Kind) : ∀ placed : Placed,
    (placed.lineages above parent).map Lineage.member =
      placed.preorder.map fun item => item.member.bare
  | ⟨path, member, inner⟩ => by
    rw [Placed.lineages, Placed.preorder, List.map_cons, List.map_cons, lineagesOf_members]

/-- The same for a forest. -/
theorem lineagesOf_members (above : List Place) (parent : Option Kind) : ∀ placed : List Placed,
    (lineagesOf above parent placed).map Lineage.member =
      (placedPreorder placed).map fun item => item.member.bare
  | [] => rfl
  | placed :: others => by
    rw [lineagesOf, placedPreorder, List.map_append, List.map_append,
      Placed.lineages_members above parent placed, lineagesOf_members above parent others]

end

/-! ## The contextual walk -/

variable {source : Bytes} {root node : Node} {before : List Node} {pre : Path}

/-- What a member of a namespace says does not depend on its children. -/
theorem namespaceMember_children {children : List Member}
    (h : namespaceMember source node children = .ok member) (others : List Member) :
    namespaceMember source node others = .ok { member with children := others } := by
  obtain ⟨signature, hsignature, h⟩ := Outcome.bind_eq_ok.1 h
  cases h
  rw [namespaceMember, hsignature]
  rfl

/-- What a member of a declaration says does not depend on its children. -/
theorem declarationMember_children {kind : Kind} {modifiers : List String} {children : List Member}
    (h : (declarationMember source before node kind modifiers children).outcome = .ok member)
    (others : List Member) :
    (declarationMember source before node kind modifiers others).outcome =
      .ok { member with children := others } := by
  simp only [declarationMember, Traced.outcome_bind, Traced.outcome_lift, Traced.outcome_pure,
    Outcome.except_bind_eq_ok] at h ⊢
  obtain ⟨bases, hbases, signature, hsignature, doc, hdoc, attributes, hattributes, h⟩ := h
  cases h
  exact ⟨bases, hbases, signature, hsignature, doc, hdoc, attributes, hattributes, rfl⟩

/-- A namespace is never private. -/
theorem isPrivateAt_namespace (hat : root.at? [] pre = some (node, before))
    (hrole : node.role.kind? = some .nameSpace) : isPrivateAt source root (parent, pre) = false := by
  have hnot : ∀ kind, node.role ≠ .declaration kind := by
    rintro kind hkind
    rw [hkind] at hrole
    cases hrole
    exact Syntax.Role.kind_ne_nameSpace hkind rfl
  -- The rule is about declarations, and a namespace is none.
  simp only [isPrivateAt, hat]
  split
  · rename_i hkind _
    exact absurd hkind (hnot _)
  · rw [Bool.and_false]

/-- A declaration is private in context if it is hidden by its context alone. -/
theorem isPrivateAt_declaration {kind : Kind} {modifiers : List String}
    (hat : root.at? [] pre = some (node, before)) (hrole : node.role = .declaration kind)
    (hmodifiers : modifiersOf source node = .ok modifiers) :
    isPrivateAt source root (parent, pre) =
      (parent.any Kind.hidesUnmarked && !isMarked modifiers) := by
  -- A class or a record is what hides a declaration without a mark.
  have hparent : (parent = some .classType || parent = some .record) =
      parent.any Kind.hidesUnmarked := by
    rcases parent with _ | kind
    · rfl
    · cases kind <;> rfl
  have hmarks : (["public", "internal", "protected", "private"].all fun access =>
      !modifiers.contains access) = !isMarked modifiers := by
    rw [Bool.eq_iff_iff]
    simp only [isMarked, accessModifiers, List.all_eq_true, Bool.not_eq_true', List.any_eq_false,
      List.contains_eq_mem, decide_eq_false_iff_not, decide_eq_true_eq]
    exact ⟨fun h modifier hmem haccess => h modifier haccess hmem,
      fun h access haccess hmem => h access hmem haccess⟩
  simp only [isPrivateAt, hat, hrole, hmodifiers, hparent, hmarks]

/-- A declaration is visible in context if it is visible at all and not hidden by its context. -/
theorem isVisibleIn_true (modifiers : List String) (parent : Option Kind) :
    isVisibleIn modifiers parent true =
      (isVisibleIn modifiers parent false && !(parent.any Kind.hidesUnmarked && !isMarked modifiers)) := by
  simp only [isVisibleIn, Bool.true_and, Bool.false_and, Bool.false_eq_true, if_false]
  cases parent.any Kind.hidesUnmarked && !isMarked modifiers <;> simp

/-- What the contextual walk gives at a part of the tree is what the plain one gives, pruned. -/
def IsPruned (source : Bytes) (root : Node) (parent : Option Kind)
    (place : Setting → Except Fault (List Placed)) : Prop :=
  ∀ placed, place ⟨source, false⟩ = .ok placed →
    place ⟨source, true⟩ = .ok (prune (isPrivateAt source root) parent placed)

/-- Where nothing is placed there is nothing to prune. -/
theorem isPruned_nil : IsPruned source root parent fun _ => .ok [] := by
  rintro placed ⟨⟩
  rfl

/-- The contents of a node are pruned if its body is. -/
theorem isPruned_placeInner {kind : Kind}
    (h : ∀ i body, bodyIndex? node = some i → node.children[i]? = some body →
      IsPruned source root (some kind) fun setting => placeInside setting (pre ++ [i]) (some kind) body) :
    IsPruned source root (some kind) fun setting => placeInner setting pre kind node := by
  obtain ⟨-, -, hnone⟩ | ⟨i, body, hindex, hbody, -, hinside⟩ := placeInner_cases pre kind node
  · simp only [hnone]
    exact isPruned_nil
  · simp only [hinside]
    exact h i body hindex hbody

/-- Two parts that are pruned are pruned one after the other. -/
theorem IsPruned.append {place later : Setting → Except Fault (List Placed)}
    (h : IsPruned source root parent place) (hlater : IsPruned source root parent later) :
    IsPruned source root parent fun setting => do
      let placed ← place setting
      let following ← later setting
      return placed ++ following := by
  intro all hall
  obtain ⟨placed, hplaced, hall⟩ := Outcome.bind_eq_ok.1 hall
  obtain ⟨following, hfollowing, hall⟩ := Outcome.bind_eq_ok.1 hall
  cases hall
  rw [prune_append]
  exact Outcome.bind_eq_ok.2 ⟨_, h placed hplaced, Outcome.bind_eq_ok.2 ⟨_, hlater following hfollowing, rfl⟩⟩

/-- A declaration is pruned if its contents are. -/
theorem isPruned_declaration {kind : Kind} (hat : root.at? [] pre = some (node, before))
    (hrole : node.role = .declaration kind)
    (hcontents : IsPruned source root (some kind) fun setting => placeInner setting pre kind node) :
    IsPruned source root parent fun setting => placeNode setting pre parent before node := by
  intro placed h
  obtain ⟨modifiers, hmodifiers, h⟩ := (placeNode_declaration hrole).1 h
  refine (placeNode_declaration hrole).2 ⟨modifiers, hmodifiers, ?_⟩
  have hvisible := isVisibleIn_true modifiers parent
  rw [← isPrivateAt_declaration hat hrole hmodifiers] at hvisible
  simp only [hvisible]
  cases hplain : isVisibleIn modifiers parent false with
  | false =>
    -- What is not visible at all is in neither outline.
    simp only [hplain, Bool.false_eq_true, if_false] at h
    rw [h]
    rfl
  | true =>
    simp only [hplain, if_true] at h
    obtain ⟨inner, member, hinner, hmember, rfl⟩ := h
    cases hhidden : isPrivateAt source root (parent, pre) with
    | true =>
      -- The contextual walk stops here and never looks inside.
      rw [prune_single_hidden hhidden]
      rfl
    | false =>
      -- Only the contents of the declaration differ, and they are pruned by induction.
      have hkept : placeContents ⟨source, true⟩ pre kind node =
          .ok (prune (isPrivateAt source root) (some kind) inner) := by
        rw [placeContents] at hinner ⊢
        split_ifs at hinner ⊢
        · exact hcontents inner hinner
        · cases hinner
          rfl
      rw [prune_single_kept hhidden (declarationMember_kind_children hmember).1]
      exact ⟨_, _, hkept, declarationMember_children hmember _, rfl⟩

/-- Every part of the contextual walk is pruned. -/
theorem isPruned_cases (source : Bytes) (root : Node) : PlacedCases root
    (fun pre parent before node =>
      IsPruned source root parent fun setting => placeNode setting pre parent before node)
    (fun pre parent node =>
      IsPruned source root parent fun setting => placeInside setting pre parent node)
    (fun pre parent container i =>
      IsPruned source root parent fun setting => placeChildren setting pre parent container i)
    (fun pre _ container i =>
      IsPruned source root (some .nameSpace) fun setting => placeLater setting pre container i) where
  nameSpace {pre parent before node} hat hrole ih placed h := by
    obtain ⟨inner, member, hinner, hmember, rfl⟩ := (placeNode_namespace hrole).1 h
    have hopen : isPrivateAt source root (parent, pre) = false :=
      isPrivateAt_namespace hat (by simp [hrole, Syntax.Role.kind?])
    -- A namespace stays in place, and only what is inside it is pruned.
    rw [prune_single_kept hopen (namespaceMember_kind_children hmember).1]
    exact (placeNode_namespace hrole).2
      ⟨_, _, isPruned_placeInner ih inner hinner, namespaceMember_children hmember _, rfl⟩
  declaration hat hrole ih := isPruned_declaration hat hrole (isPruned_placeInner ih)
  region {pre parent before node} hat hrole ih := by
    simp only [placeNode_eq, hrole]
    exact ih
  passed {pre parent before node} hat hrole := by
    obtain hrole | hrole := hrole <;> simp only [placeNode_eq, hrole] <;> exact isPruned_nil
  opened {pre parent before node} hat ih := by
    simp only [placeInside_eq]
    exact ih
  fromNil {pre parent container i} hdrop := by
    simp only [placeChildren_nil hdrop]
    exact isPruned_nil
  fromUnnamed {pre parent container node i} hchild hnamed ih := by
    simp only [placeChildren_unnamed hchild hnamed]
    exact ih
  fromFile {pre parent siblings container node i} hat hchild hnamed hrole hindex hopen ih placed h := by
    simp only [placeChildren_file hchild hnamed hrole] at h ⊢
    obtain ⟨inner, hinner, h⟩ := Outcome.bind_eq_ok.1 h
    obtain ⟨following, hfollowing, h⟩ := Outcome.bind_eq_ok.1 h
    obtain ⟨member, hmember, h⟩ := Outcome.bind_eq_ok.1 h
    cases h
    have hshown : isPrivateAt source root (parent, pre ++ [i]) = false :=
      isPrivateAt_namespace (Node.at?_child hat hchild) (by simp [hrole, Syntax.Role.kind?])
    -- What the namespace holds and what follows it are pruned as one forest.
    rw [prune_single_kept hshown (namespaceMember_kind_children hmember).1, prune_append]
    refine Outcome.bind_eq_ok.2 ⟨_, hopen inner hinner, Outcome.bind_eq_ok.2 ⟨_, ih following hfollowing, ?_⟩⟩
    exact Outcome.bind_eq_ok.2 ⟨_, namespaceMember_children hmember _, rfl⟩
  fromNode {pre parent siblings container node i} hat hchild hnamed hrole hlater hlook ih := by
    simp only [placeChildren_node hchild hnamed hrole]
    exact hlook.append ih
  restNil {pre parent container i} hdrop := by
    simp only [placeLater_nil hdrop]
    exact isPruned_nil
  restUnnamed {pre parent container node i} hchild hnamed ih := by
    simp only [placeLater_unnamed hchild hnamed]
    exact ih
  restNode {pre parent siblings container node f i} hat hchild hnamed hfile hlt hlook ih := by
    simp only [placeLater_node hchild hnamed]
    exact hlook.append ih

/-- The contextual forest of a tree is the plain one, pruned. -/
theorem placeTree_pruned {placed : List Placed} (h : placeTree ⟨source, false⟩ root = .ok placed) :
    placeTree ⟨source, true⟩ root = .ok (prune (isPrivateAt source root) none placed) :=
  (isPruned_cases source root).openRoot none placed h

/-- The members in the lineages of a placed forest of a tree are those of its outline, at all depths. -/
theorem lineagesOf_placeTree {setting : Setting} {placed : List Placed}
    (h : placeTree setting root = .ok placed) :
    (lineagesOf [] none placed).map Lineage.member =
      (preorderOf (membersOf placed)).map Member.bare := by
  rw [← (covers_placeTree h).members, lineagesOf_members, List.map_map]
  rfl

/-- If a tree has an outline, it has a contextual one under the same path, and one is empty if and only if the
other is. The contextual outline is the plain one without the trees at private places: a class or a record is
around such a place, and the declaration there, which is no namespace, has no access modifier. In terms of
members, each built from the node at its path: those of the contextual outline are those of the plain one, in
the same order, inside the same members and with the same fields, and a member is left out if and only if its
own place or that of a member around it is private. -/
theorem contextual_outline_pruned (source : Bytes) (path : String) (root : Node)
    (result : Option FileMap) (h : (mapTree ⟨source, false⟩ path root).outcome = .ok result) :
    ∃ placed kept, placeTree ⟨source, false⟩ root = .ok placed ∧
      kept = prune (isPrivateAt source root) none placed ∧
      result = (if placed.isEmpty then none else some ⟨path, membersOf placed⟩) ∧
      (mapTree ⟨source, true⟩ path root).outcome =
        .ok (result.map fun _ => ⟨path, membersOf kept⟩) ∧
      (∀ item ∈ placedPreorder placed, BuiltAt ⟨source, false⟩ root item.path item.member) ∧
      (lineagesOf [] none placed).map Lineage.member =
        (preorderOf (membersOf placed)).map Member.bare ∧
      (lineagesOf [] none kept).map Lineage.member =
        (preorderOf (membersOf kept)).map Member.bare ∧
      lineagesOf [] none kept = (lineagesOf [] none placed).filter
        fun lineage => lineage.places.all fun place => !isPrivateAt source root place := by
  obtain ⟨placed, hplaced, hresult⟩ := exists_placeTree_of_mapTree h
  have hkept := placeTree_pruned hplaced
  -- At the top nothing is private, so an outline does not become empty.
  have hempty : (prune (isPrivateAt source root) none placed).isEmpty = placed.isEmpty := by
    rw [Bool.eq_iff_iff, List.isEmpty_iff, List.isEmpty_iff]
    exact prune_eq_nil_iff (fun path => rfl) placed
  refine ⟨placed, _, hplaced, rfl, hresult, ?_, (covers_placeTree hplaced).built,
    lineagesOf_placeTree hplaced, lineagesOf_placeTree hkept, ?_⟩
  · rw [mapTree_of_placeTree hkept, hempty, hresult]
    cases placed.isEmpty <;> rfl
  · exact lineagesOf_prune [] none (by simp) placed

/-- `public`, as the source of a tree with one modifier. -/
def publicSource : Bytes :=
  Text.Utf8.ofString "public"

/-- A class with a method, a public class around a property, an interface around a method and a namespace
around a class, and after it an interface around a method. Only the second class has a modifier. -/
def nestedTree : Node :=
  { type := "compilation_unit", start := 0, stop := 6, children := [
    { type := "class_declaration", start := 0, stop := 6, children := [
      { type := "declaration_list", start := 0, stop := 6, children := [
        { type := "method_declaration", start := 0, stop := 0 },
        { type := "class_declaration", start := 0, stop := 6, children := [
          { type := "modifier", start := 0, stop := 6 },
          { type := "declaration_list", start := 6, stop := 6, children := [
            { type := "property_declaration", start := 6, stop := 6 }] }] },
        { type := "interface_declaration", start := 6, stop := 6, children := [
          { type := "declaration_list", start := 6, stop := 6, children := [
            { type := "method_declaration", start := 6, stop := 6 }] }] },
        { type := "namespace_declaration", start := 6, stop := 6, children := [
          { type := "declaration_list", start := 6, stop := 6, children := [
            { type := "class_declaration", start := 6, stop := 6 }] }] }] }] },
    { type := "interface_declaration", start := 6, stop := 6, children := [
      { type := "declaration_list", start := 6, stop := 6, children := [
        { type := "method_declaration", start := 6, stop := 6 }] }] }] }

/-- Of ten members the contextual outline has six: the method and the interface in the class, with all that
is in them, and the property are left out. -/
theorem nestedTree_pruned : ∃ result placed kept,
    (mapTree ⟨publicSource, false⟩ "A.cs" nestedTree).outcome = .ok result ∧
      placeTree ⟨publicSource, false⟩ nestedTree = .ok placed ∧
      (mapTree ⟨publicSource, true⟩ "A.cs" nestedTree).outcome = .ok (some ⟨"A.cs", membersOf kept⟩) ∧
      (placedPreorder placed).map Placed.path = [[0], [0, 0, 0], [0, 0, 1], [0, 0, 1, 1, 0], [0, 0, 2],
        [0, 0, 2, 0, 0], [0, 0, 3], [0, 0, 3, 0, 0], [1], [1, 0, 0]] ∧
      (placedPreorder kept).map Placed.path =
        [[0], [0, 0, 1], [0, 0, 3], [0, 0, 3, 0, 0], [1], [1, 0, 0]] := by
  obtain ⟨placed, kept, hplaced, rfl, hresult, hcontextual, -⟩ :=
    contextual_outline_pruned publicSource "A.cs" nestedTree _ rfl
  refine ⟨_, placed, _, rfl, hplaced, hcontextual, ?_, ?_⟩
  · cases hplaced
    rfl
  · cases hplaced
    decide +kernel

end ApiOutline.Outline
