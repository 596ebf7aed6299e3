import ApiOutline.Proofs.AlikeWalks
import ApiOutline.Proofs.CommentStyles
import ApiOutline.Proofs.FlatForm

/-!
# Regions are transparent

Flattening a tree does not change its outline up to documentation (`regions_transparent`): what is said of a
declaration is read from its own children, and only its body is flattened.

The exceptions are regions that are read for something else than members (`RegionsApart`), and comments with
too long a number, since comments are found among siblings.
-/

namespace ApiOutline.Outline

open Syntax (Node Path)
open Relation (ReflTransGen)
open Text (Bytes)

/-! ## What is read of a flat container -/

section Readings

variable {source : Bytes} {nodes : List Node} {parts : List (List Node)}

/-- The child in a field is the same up to its children if no region that is not after it has anything in that
field. -/
theorem find?_fills_flatten (field : String) (h : List.Forall₂ InPlaceOf nodes parts)
    (hregions : ∀ pre region post, nodes = pre ++ region :: post → (∀ node ∈ pre, node.fills field = false) →
      region.named = true → region.role = .transparent →
      region.fills field = false ∧ ∀ inner, InRegion region inner → inner.fills field = false) :
    (parts.flatten.find? (Node.fills field)).map Node.face =
      (nodes.find? (Node.fills field)).map Node.face := by
  induction h with
  | nil => rfl
  | @cons node flats nodes parts hnode _ ih =>
    -- If the first node is not in the field, the search goes on among the later ones.
    have hlater : node.fills field = false → (parts.flatten.find? (Node.fills field)).map Node.face =
        (nodes.find? (Node.fills field)).map Node.face := by
      intro hfirst
      refine ih fun pre region post hsplit hpre => hregions (node :: pre) region post ?_ ?_
      · rw [hsplit, List.cons_append]
      · exact List.forall_mem_cons.2 ⟨hfirst, hpre⟩
    rw [List.flatten_cons, List.find?_append, List.find?_cons]
    cases hnode with
    | @kept flat _ hface _ =>
      rw [List.find?_singleton, Node.fills_of_face hface]
      cases hfills : node.fills field with
      | true => exact congrArg some hface
      | false => exact hlater hfills
    | region hnamed hrole hinner =>
      obtain ⟨hnot, hnone⟩ := hregions [] node nodes rfl (by simp) hnamed hrole
      -- Nothing in the region is in the field, so what takes its place is passed by.
      have hflats : flats.find? (Node.fills field) = none := by
        rw [List.find?_eq_none]
        intro flat hflat
        obtain ⟨-, inner, hin, hface⟩ := hinner flat hflat
        rw [Node.fills_of_face hface, hnone inner hin]
        exact Bool.false_ne_true
      rw [hflats, hnot]
      exact hlater hnot

/-- Nodes in front that are not of the type have no names. -/
theorem namesOf_append {test : Node → Bool} {front : List Node} (hfront : ∀ node ∈ front, test node = false)
    (back : List Node) : namesOf source test (front ++ back) = namesOf source test back := by
  induction front with
  | nil => rfl
  | cons node front ih =>
    obtain ⟨hnode, hfront⟩ := List.forall_mem_cons.1 hfront
    rw [List.cons_append, namesOf, if_neg (Bool.eq_false_iff.1 hnode), ih hfront]

/-- The names in a list are the same if no region has nodes of their type. -/
theorem namesOf_flatten {type : String} (htype : Syntax.Role.of type = .other)
    (h : List.Forall₂ InPlaceOf nodes parts)
    (hregions : ∀ region ∈ nodes, region.named = true → region.role = .transparent →
      ∀ inner, InRegion region inner → inner.isOf type = false) :
    namesOf source (Node.isOf type) (parts.flatten.filter (·.named)) =
      namesOf source (Node.isOf type) (nodes.filter (·.named)) := by
  induction h with
  | nil => rfl
  | @cons node flats nodes parts hnode _ ih =>
    obtain ⟨hregion, hregions⟩ := List.forall_mem_cons.1 hregions
    cases hnode with
    | @kept flat _ hface hsame =>
      rw [List.flatten_cons, List.singleton_append, List.filter_cons, List.filter_cons,
        Node.named_of_face hface]
      split
      · rw [namesOf, namesOf, Node.isOf_of_face hface, ih hregions]
        -- A node of the type has no other role, and such nodes are kept with all that is in them.
        split
        · next hof =>
          have hrole : node.role = .other := by
            rw [Node.role, show node.type = type by simpa [Node.isOf] using hof, htype]
          rw [hsame hrole]
        · rfl
      · exact ih hregions
    | region hnamed hrole hinner =>
      -- No node in the region is of the type, nor is the region itself.
      have hflats : ∀ flat ∈ flats.filter (·.named), flat.isOf type = false := by
        intro flat hflat
        obtain ⟨-, inner, hin, hface⟩ := hinner flat (List.mem_of_mem_filter hflat)
        rw [Node.isOf_of_face hface, hregion hnamed hrole inner hin]
      have hnot : node.isOf type = false := Node.isOf_eq_false (by rw [hrole, htype]; decide)
      rw [List.flatten_cons, List.filter_append, namesOf_append hflats, List.filter_cons_of_pos hnamed,
        namesOf, if_neg (Bool.eq_false_iff.1 hnot), ih hregions]

/-- The base types in a list without regions are the same. -/
theorem baseNames_flatten (h : List.Forall₂ InPlaceOf nodes parts)
    (hregions : ∀ node ∈ nodes, node.named = true → node.role ≠ .transparent) :
    baseNames source (parts.flatten.filter (·.named)) = baseNames source (nodes.filter (·.named)) := by
  induction h with
  | nil => rfl
  | @cons node flats nodes parts hnode _ ih =>
    obtain ⟨hregion, hregions⟩ := List.forall_mem_cons.1 hregions
    cases hnode with
    | @kept flat _ hface hsame =>
      rw [List.flatten_cons, List.singleton_append, List.filter_cons, List.filter_cons,
        Node.named_of_face hface]
      split
      · refine baseNames_cons source hface ?_ (ih hregions)
        by_cases hbase : node.isOf "primary_constructor_base_type" = true
        · -- A base type with arguments is kept with all that is in it.
          have hrole : node.role = .other := by
            rw [Node.role, show node.type = _ by simpa [Node.isOf] using hbase]
            decide
          rw [hsame hrole]
        · rw [baseNode, baseNode, Node.isOf_of_face hface, if_neg hbase, if_neg hbase]
          exact congrArg Except.ok hface
      · exact ih hregions
    | region hnamed hrole _ => exact absurd hrole (hregion hnamed)

end Readings

/-- A namespace for the rest of the file keeps its name when it is made flat. -/
theorem nameOf_flatInside (setting : Setting) (parent : Option Kind) {node : Node} (h : RegionsApart node)
    (hrole : node.role = .fileNamespace) :
    nameOf setting.source (flatInside setting parent node) = nameOf setting.source node := by
  obtain ⟨parts, hparts, hflat⟩ := hasParts_flatFrom setting parent node.children
  -- The name is looked for among children, of which regions have no part.
  have hfound := find?_fills_flatten "name" hparts fun pre region post =>
    h.names node pre region post node.within_self hrole
  rw [nameOf, nameOf, Node.childIn?, Node.childIn?, children_flatInside, hflat, ← lineOf?_face, hfound,
    lineOf?_face]

/-- The signature, the attributes and the base types of a declaration are read as before if its body is made
flat. -/
theorem readings_withFlatBody (setting : Setting) (parent : Option Kind) {node : Node} {kind : Kind}
    (h : RegionsApart node) (hrole : node.role = .declaration kind) (hnest : kind.canNest = true) :
    signatureOf setting.source (withFlatBody setting parent node) kind = signatureOf setting.source node kind ∧
      attributesOf setting.source (withFlatBody setting parent node) = attributesOf setting.source node ∧
      (kind.showsBaseTypes = true →
        baseTypes setting.source (withFlatBody setting parent node) = baseTypes setting.source node) := by
  obtain hsame | ⟨i, body, hfirst, hchild, hexchange⟩ := withFlatBody_cases setting parent node
  · rw [hsame]
    exact ⟨rfl, rfl, fun _ => rfl⟩
  -- The body is a child like the others, and may be read as a list of attributes or of base types.
  obtain ⟨parts, hparts, hflat⟩ := hasParts_flatFrom setting parent body.children
  have hface := face_flatInside setting parent body
  have hnamed : (flatInside setting parent body).namedChildren = parts.flatten.filter (·.named) := by
    rw [Node.namedChildren, children_flatInside, hflat]
  have hwithin := node.within_self
  have hfound := (find?_set_of_findIdx? hchild rfl hfirst).1
  rw [hexchange]
  refine ⟨signatureOf_exchange hchild hface ?_, attributesOf_exchange hchild hface fun hlist => ?_,
    fun hshows => baseTypes_exchange hchild hface fun hlist => ?_⟩
  · rintro rfl
    cases hnest
  · rw [hnamed]
    exact namesOf_flatten (by decide) hparts fun region hregion hnamed htransparent inner =>
      h.attributes node kind body region inner hwithin hrole hnest hfound hlist hregion hnamed htransparent
  · rw [hnamed]
    have hbases := (find?_set_of_findIdx? hchild rfl hlist).1
    exact baseNames_flatten hparts fun region =>
      h.bases node kind body region hwithin hrole hnest hfound hshows hbases

/-! ## The walk -/

/-- A member without its documentation. -/
def Member.withoutDoc (member : Member) : Member :=
  { member with doc := none }

/-- What follows a namespace for the rest of the file is walked part by part. -/
theorem walkRest_append (setting : Setting) (before pre nodes : List Node) :
    walkRest setting before (pre ++ nodes) = do
      let members ← walkRest setting before pre
      let following ← walkRest setting ((pre.filter (·.named)).reverse ++ before) nodes
      return members ++ following := by
  induction pre generalizing before with
  | nil => simp [walkRest]
  | cons node pre ih =>
    rw [List.cons_append, walkRest, walkRest]
    -- An unnamed node is passed by and is no sibling for the nodes after it.
    by_cases hnamed : node.named = true
    · simp only [hnamed, Bool.not_true, Bool.false_eq_true, if_false, ih (node :: before),
        List.filter_cons_of_pos, List.reverse_cons, List.append_assoc, List.singleton_append,
        bind_assoc, pure_bind]
    · simp [hnamed, ih before]

/-- A single named node of a container has the members that it stands for. -/
theorem outcome_walkFrom_single {setting : Setting} {parent : Option Kind} {before : List Node} (node : Node)
    (hnamed : node.named = true) (hrole : node.role ≠ .fileNamespace) :
    (walkFrom setting parent before [node]).outcome = (walkNode setting parent before node).outcome := by
  rw [walkFrom, if_neg (by simp [hnamed]), if_neg hrole]
  simp [walkFrom]

section Walk

variable {source : Bytes} {long : Prop}

/-- Whether a node can be read shows in its face. -/
theorem readable_of_face {node other : Node} (h : Readable source long node) (hface : other.face = node.face) :
    Readable source long other := by
  have htext : other.text source = node.text source := Node.of_face (Node.text source) (fun _ => rfl) hface
  unfold Readable IsLongComment
  rw [htext, Node.isOf_of_face hface]
  exact h

/-- What is in place of a readable node can be read. -/
theorem readable_inPlaceOf {node : Node} {flats : List Node} (h : ReadableTree source long node)
    (hflats : InPlaceOf node flats) : ∀ flat ∈ flats, Readable source long flat := by
  intro flat hflat
  cases hflats with
  | kept _ hface _ =>
    obtain rfl := List.mem_singleton.1 hflat
    exact readable_of_face h.self hface
  | region _ _ hinner =>
    obtain ⟨-, inner, hin, hface⟩ := hinner flat hflat
    exact readable_of_face (h inner hin.within) hface

/-- What is in place of a readable node can be read among the siblings of the nodes that follow. -/
theorem readable_siblings {node : Node} {flats before : List Node} (h : ReadableTree source long node)
    (hflats : InPlaceOf node flats) (hbefore : ∀ sibling ∈ before, Readable source long sibling) :
    ∀ sibling ∈ (flats.filter (·.named)).reverse ++ before, Readable source long sibling := by
  intro sibling hmem
  obtain hmem | hmem := List.mem_append.1 hmem
  · exact readable_inPlaceOf h hflats sibling (List.mem_of_mem_filter (List.mem_reverse.1 hmem))
  · exact hbefore sibling hmem

variable (setting : Setting)

/-- Whether regions are read for their members only and all texts can be read. -/
structure PlainRegions (source : Bytes) (long : Prop) (node : Node) : Prop where
  apart : RegionsApart node
  read : ReadableTree source long node

/-- What holds of the regions of a tree holds of those of the trees below. -/
theorem PlainRegions.child {node child : Node} (h : PlainRegions source long node)
    (hchild : child ∈ node.children) : PlainRegions source long child :=
  ⟨h.apart.child hchild, h.read.child hchild⟩

section Bodies

variable {parent : Option Kind} {node : Node} {before before' : List Node} {kind : Kind}
  (h : PlainRegions setting.source long node)
  (ih : ∀ body, bodyOf? node = some body → PlainRegions setting.source long body → ∀ before',
    (∀ sibling ∈ before', Readable setting.source long sibling) →
    Agrees long long (SameOnce Member.withoutDoc) (walkInside setting (some kind) body).outcome
      (walkFrom setting (some kind) before' (flatFrom setting (some kind) body.children)).outcome)

include h ih

/-- A body stands for the same members when it is made flat. -/
theorem agrees_flatBody : Agrees long long (SameOnce Member.withoutDoc)
    (walkBody setting (some kind) (isBodyAmong node.children) node.children).outcome
    (walkBody setting (some kind) (isBodyAmong (withFlatBody setting (some kind) node).children)
      (withFlatBody setting (some kind) node).children).outcome := by
  rw [walkBody_eq, walkBody_eq, bodyOf?_withFlatBody]
  -- The flat body takes the place of the body.
  cases hbody : bodyOf? node with
  | none => exact .ok rfl
  | some body =>
    rw [Option.map_some]
    simp only [walkInside_eq _ _ (flatInside setting (some kind) body), children_flatInside]
    exact ih body hbody (h.child (List.mem_of_find?_eq_some hbody)) [] (by simp)

/-- A namespace stands for the same members with a flat body. -/
theorem agrees_flatNamespace (hrole : node.role = .blockNamespace) (hnamed : node.named = true)
    (hkind : kind = .nameSpace) :
    Agrees long long (SameOnce Member.withoutDoc) (walkNode setting parent before node).outcome
      (walkFrom setting parent before' (flatNode setting parent node)).outcome := by
  subst hkind
  rw [flatNode_eq, hrole]
  simp only
  have hfile : node.role ≠ .fileNamespace := by simp [hrole]
  rw [outcome_walkFrom_single (withFlatBody setting (some .nameSpace) node) hnamed hfile]
  exact agrees_namespace hrole hrole (nameOf_withFlatBody setting _ node).symm (fun _ => rfl)
    (agrees_flatBody setting h ih)

/-- A declaration stands for the same members with a flat body. -/
theorem agrees_flatDeclaration (hrole : node.role = .declaration kind) (hnamed : node.named = true)
    (hbefore : ∀ sibling ∈ before, Readable setting.source long sibling)
    (hbefore' : ∀ sibling ∈ before', Readable setting.source long sibling) :
    Agrees long long (SameOnce Member.withoutDoc) (walkNode setting parent before node).outcome
      (walkFrom setting parent before' (flatNode setting parent node)).outcome := by
  obtain ⟨modifiers, hmodifiers⟩ : ∃ modifiers, modifiersOf setting.source node = .ok modifiers :=
    exists_modifierTexts fun child hmem => (h.read.child hmem).self.1
  have hfile : node.role ≠ .fileNamespace := by simp [hrole]
  rw [flatNode_eq, hrole]
  simp only
  split
  · next henters =>
    obtain ⟨hnest, -⟩ := (entersBody_iff hmodifiers).1 henters
    obtain ⟨hsignature, hattributes, hbases⟩ := readings_withFlatBody setting (some kind) h.apart hrole hnest
    have hmodifiers' := (modifiersOf_withFlatBody setting (some kind) node).trans hmodifiers
    rw [outcome_walkFrom_single (withFlatBody setting (some kind) node) hnamed hfile]
    exact agrees_declaration hrole hrole hmodifiers hmodifiers' rfl rfl hbefore hbefore'
      (fun hshows => (hbases hshows).symm) hsignature.symm hattributes.symm (fun _ _ _ => rfl)
      fun _ _ => agrees_flatBody setting h ih
  · next henters =>
    -- The node is kept as it is, since its body is not walked.
    rw [outcome_walkFrom_single node hnamed hfile]
    refine agrees_declaration hrole hrole hmodifiers hmodifiers rfl rfl hbefore hbefore' (fun _ => rfl) rfl
      rfl (fun _ _ _ => rfl) fun hvisible hnest => ?_
    exact absurd ((entersBody_iff hmodifiers).2 ⟨hnest, hvisible⟩) henters

end Bodies

/-- What is in place of a node after a namespace for the rest of the file stands for the same members if it does
elsewhere. -/
theorem agrees_flatLater {node : Node} {before before' : List Node} (h : PlainRegions setting.source long node)
    (hnamed : node.named = true)
    (hnode : node.role ≠ .fileNamespace → Agrees long long (SameOnce Member.withoutDoc)
      (walkNode setting (some .nameSpace) before node).outcome
      (walkFrom setting (some .nameSpace) before' (flatNode setting (some .nameSpace) node)).outcome) :
    Agrees long long (SameOnce Member.withoutDoc) (walkNode setting (some .nameSpace) before node).outcome
      (walkRest setting before' (flatNode setting (some .nameSpace) node)).outcome := by
  by_cases hrole : node.role = .fileNamespace
  · -- A second one of these is passed by.
    have hskip : ∀ before, walkNode setting (some .nameSpace) before node = pure [] := by
      intro before
      rw [walkNode_eq, hrole]
    have hsingle : flatNode setting (some .nameSpace) node = [node] := by
      rw [flatNode_eq, hrole]
    rw [hsingle, hskip, walkRest_node _ _ _ hnamed, hskip]
    exact .ok rfl
  · -- Anything else is walked as the contents of a namespace are.
    have hplace := inPlaceOf_flatNode setting (some .nameSpace) hnamed
    rw [walkRest_eq_walkFrom setting before' (noFileNamespace_inPlaceOf h.apart hrole hplace)]
    exact hnode hrole

/-- A container stands for the same members when it is made flat. What stands before a node matters to its
documentation only, and the nodes of a region have the siblings before the region for their own once they are
in its place. -/
theorem agrees_flat_cases : WalkCases
    (fun parent before node => PlainRegions setting.source long node → node.named = true →
      node.role ≠ .fileNamespace → (∀ sibling ∈ before, Readable setting.source long sibling) →
      ∀ before', (∀ sibling ∈ before', Readable setting.source long sibling) →
      Agrees long long (SameOnce Member.withoutDoc) (walkNode setting parent before node).outcome
        (walkFrom setting parent before' (flatNode setting parent node)).outcome)
    (fun parent node => PlainRegions setting.source long node →
      ∀ before', (∀ sibling ∈ before', Readable setting.source long sibling) →
      Agrees long long (SameOnce Member.withoutDoc) (walkInside setting parent node).outcome
        (walkFrom setting parent before' (flatFrom setting parent node.children)).outcome)
    (fun parent before nodes => (∀ node ∈ nodes, PlainRegions setting.source long node) →
      (∀ sibling ∈ before, Readable setting.source long sibling) →
      ∀ before', (∀ sibling ∈ before', Readable setting.source long sibling) →
      Agrees long long (SameOnce Member.withoutDoc) (walkFrom setting parent before nodes).outcome
        (walkFrom setting parent before' (flatFrom setting parent nodes)).outcome)
    (fun before nodes => (∀ node ∈ nodes, PlainRegions setting.source long node) →
      (∀ sibling ∈ before, Readable setting.source long sibling) →
      ∀ before', (∀ sibling ∈ before', Readable setting.source long sibling) →
      Agrees long long (SameOnce Member.withoutDoc) (walkRest setting before nodes).outcome
        (walkRest setting before' (flatRest setting nodes)).outcome) where
  nameSpace hrole ih h hnamed _ _ _ _ := agrees_flatNamespace setting h ih hrole hnamed rfl
  declaration hrole ih h hnamed _ hbefore _ hbefore' :=
    agrees_flatDeclaration setting h ih hrole hnamed hbefore hbefore'
  region {parent before node} hrole ih h _ _ _ before' hbefore' := by
    rw [flatNode_eq, walkNode_eq, hrole]
    simp only [walkFrom_filter_named]
    exact ih h before' hbefore'
  passed {parent before node} hrole _ hnamed hfile _ before' _ := by
    have hother := hrole.resolve_left hfile
    rw [flatNode_eq, hother]
    simp only
    rw [outcome_walkFrom_single node hnamed hfile, walkNode_eq, walkNode_eq, hother]
    exact .ok rfl
  opened {parent node} ih h before' hbefore' := by
    rw [walkInside_eq]
    exact ih (fun _ => h.child) (by simp) before' hbefore'
  fromNil _ _ _ _ := .ok rfl
  fromUnnamed {parent before node nodes} hnamed ih h hbefore before' hbefore' := by
    rw [walkFrom_unnamed _ _ _ _ hnamed, flatFrom, hnamed]
    show Agrees long long _ _ (walkFrom setting parent before' (node :: flatFrom setting parent nodes)).outcome
    rw [walkFrom_unnamed _ _ _ _ hnamed]
    exact ih (List.forall_mem_cons.1 h).2 hbefore before' hbefore'
  fromFile {parent before node nodes} hnamed hrole hopen ih h hbefore before' hbefore' := by
    obtain ⟨hfirst, h⟩ := List.forall_mem_cons.1 h
    have hface := face_flatInside setting (some .nameSpace) node
    have hinside := hopen hfirst [] (by simp)
    rw [← children_flatInside, ← walkInside_eq] at hinside
    rw [walkFrom_file _ _ _ _ hnamed hrole, flatFrom, hnamed, if_pos hrole]
    show Agrees long long _ _
      (walkFrom setting parent before' (flatInside setting (some .nameSpace) node :: flatRest setting nodes)).outcome
    rw [walkFrom_file _ _ _ _ (Node.named_of_face hface ▸ hnamed) (Node.role_of_face hface ▸ hrole)]
    refine agrees_file (nameOf_flatInside setting _ hfirst.apart hrole).symm (fun member => ?_) hinside
      (ih h ?_ _ ?_)
    · rw [Node.of_face (Node.line setting.source) (fun _ => rfl) hface]
    · exact List.forall_mem_cons.2 ⟨hfirst.read.self, hbefore⟩
    · exact List.forall_mem_cons.2 ⟨readable_of_face hfirst.read.self hface, hbefore'⟩
  fromNode {parent before node nodes} hnamed hrole hlook ih h hbefore before' hbefore' := by
    obtain ⟨hfirst, h⟩ := List.forall_mem_cons.1 h
    have hplace := inPlaceOf_flatNode setting parent hnamed
    rw [walkFrom_node _ _ _ _ hnamed hrole, flatFrom, hnamed, if_neg hrole]
    show Agrees long long _ _
      (walkFrom setting parent before' (flatNode setting parent node ++ flatFrom setting parent nodes)).outcome
    rw [walkFrom_append setting parent before' (noFileNamespace_inPlaceOf hfirst.apart hrole hplace)]
    refine agrees_append (hlook hfirst hnamed hrole hbefore before' hbefore') (ih h ?_ _ ?_)
    · exact List.forall_mem_cons.2 ⟨hfirst.read.self, hbefore⟩
    · exact readable_siblings hfirst.read hplace hbefore'
  restNil _ _ _ _ := .ok rfl
  restUnnamed {before node nodes} hnamed ih h hbefore before' hbefore' := by
    rw [walkRest_unnamed _ _ _ hnamed, flatRest, hnamed]
    show Agrees long long _ _ (walkRest setting before' (node :: flatRest setting nodes)).outcome
    rw [walkRest_unnamed _ _ _ hnamed]
    exact ih (List.forall_mem_cons.1 h).2 hbefore before' hbefore'
  restNode {before node nodes} hnamed hlook ih h hbefore before' hbefore' := by
    obtain ⟨hfirst, h⟩ := List.forall_mem_cons.1 h
    have hplace := inPlaceOf_flatNode setting (some .nameSpace) hnamed
    rw [walkRest_node _ _ _ hnamed, flatRest, hnamed]
    show Agrees long long _ _
      (walkRest setting before' (flatNode setting (some .nameSpace) node ++ flatRest setting nodes)).outcome
    rw [walkRest_append]
    refine agrees_append (agrees_flatLater setting hfirst hnamed fun hrole => ?_) (ih h ?_ _ ?_)
    · exact hlook hfirst hnamed hrole hbefore before' hbefore'
    · exact List.forall_mem_cons.2 ⟨hfirst.read.self, hbefore⟩
    · exact readable_siblings hfirst.read hplace hbefore'

/-- A container and its flat form have the same members, up to documentation. -/
theorem agrees_flatInside (parent : Option Kind) {node : Node} (h : PlainRegions setting.source long node) :
    Agrees long long (SameOnce Member.withoutDoc) (walkInside setting parent node).outcome
      (walkInside setting parent (flatInside setting parent node)).outcome := by
  rw [walkInside_eq _ _ (flatInside setting parent node), children_flatInside]
  exact (agrees_flat_cases setting).open parent node h [] (by simp)

end Walk

/-- **Regions are transparent.** Let all texts of a tree be readable and its regions be read for their members
only. Then the walk gets to no region in the flat form of the tree, and both have outlines or neither does,
which are the same up to the documentation of their members. The one exception is a comment with too long a
number, which can stop one of the two. -/
theorem regions_transparent (setting : Setting) (root : Node) (htexts : root.Legible setting.source)
    (hapart : RegionsApart root) (path : String) :
    (∀ p k node before, ReflTransGen (Step setting (flatTree setting root)) ([], .opened none) (p, .looked k) →
      (flatTree setting root).at? [] p = some (node, before) → node.role ≠ .transparent) ∧
    Agrees (HasLongComment setting.source root) (HasLongComment setting.source root)
      (fun file file' => file.map (FileMap.everywhere Member.withoutDoc) =
        file'.map (FileMap.everywhere Member.withoutDoc))
      (mapTree setting path root).outcome (mapTree setting path (flatTree setting root)).outcome ∧
    (¬ HasLongComment setting.source root →
      ((∃ file, (mapTree setting path root).outcome = .ok file) ↔
        ∃ file', (mapTree setting path (flatTree setting root)).outcome = .ok file')) := by
  have hagrees := agrees_mapTree path
    (agrees_flatInside setting none ⟨hapart, readableTree_of_legible htexts⟩)
  exact ⟨fun _ _ _ _ hreach hat => flatTree_has_no_region hapart hreach hat, hagrees,
    fun hlong => hagrees.succeeds_iff hlong hlong⟩

/-- A namespace and a class with a method. -/
def regionedSource : Bytes :=
  Text.Utf8.ofString "namespace N; class A \x7b B(); \x7d"

/-- A namespace for the rest of the file, and a class in two regions with a method in one. -/
def regionedTree : Node :=
  { type := "compilation_unit", start := 0, stop := 29, children := [
    { type := "file_scoped_namespace_declaration", start := 0, stop := 12, children := [
      { type := "identifier", start := 10, stop := 11, field := some "name" }] },
    { type := "preproc_if", start := 13, stop := 29, children := [
      { type := "preproc_region", start := 13, stop := 29, children := [
        { type := "class_declaration", start := 13, stop := 29, children := [
          { type := "identifier", start := 19, stop := 20, field := some "name" },
          { type := "declaration_list", start := 21, stop := 29, field := some "body", children := [
            { type := "preproc_else", start := 23, stop := 27, children := [
              { type := "method_declaration", start := 23, stop := 27, children := [
                { type := "identifier", start := 23, stop := 24, field := some "name" },
                { type := "parameter_list", start := 24, stop := 26,
                  field := some "parameters" }] }] }] }] }] }] }] }

/-- The flat form has the class after the namespace and the method in the body of the class, and the same
outline. -/
theorem regionedTree_outline :
    let setting : Setting := ⟨regionedSource, false⟩
    regionedTree.Legible regionedSource ∧ RegionsApart regionedTree ∧
      (flatTree setting regionedTree).nodes.map Node.type =
        ["compilation_unit", "file_scoped_namespace_declaration", "identifier", "class_declaration",
          "identifier", "declaration_list", "method_declaration", "identifier", "parameter_list"] ∧
      ∃ file file', (mapTree setting "A.cs" regionedTree).outcome = .ok (some file) ∧
        (mapTree setting "A.cs" (flatTree setting regionedTree)).outcome = .ok (some file') ∧
        file.members.map (fun member => (member.signature, member.children.map Member.signature)) =
          [("N", ["A"])] ∧
        file.everywhere Member.withoutDoc = file'.everywhere Member.withoutDoc := by
  intro setting
  have hlegible : regionedTree.Legible regionedSource := by decide +kernel
  have hplain : ∀ node ∈ regionedTree.nodes, node.isOf "attribute_list" = true ∨ node.isOf "base_list" = true ∨
      node.role = .fileNamespace → ∀ region ∈ node.children, region.role ≠ .transparent := by decide +kernel
  have hapart : RegionsApart regionedTree := .of_plain (by decide +kernel) hplain
  obtain ⟨-, hagrees, -⟩ := regions_transparent setting regionedTree hlegible hapart "A.cs"
  refine ⟨hlegible, hapart, by decide +kernel, _, _, rfl, rfl, by decide +kernel, ?_⟩
  exact Option.some.inj (hagrees.results _ _ rfl rfl)

/-! ## Regions that are read for something else -/

section Parted

open Text.Utf8 (encode IsBoundary)

/-- A comment in a region, and a class in the row after it. -/
def partedSample (comment : List Char) : Commented :=
  ⟨"#if X\n".toList, comment, " #endif\n".toList⟩

/-- The condition of the region. -/
def partedCondition : Node :=
  { type := "identifier", start := 4, stop := 5, field := some "condition" }

/-- The region of the comment. -/
def partedRegion (comment : List Char) : Node :=
  { type := "preproc_if", start := 0, stop := (partedSample comment).commentNode.stop + 7, children := [
    { type := "#if", start := 0, stop := 3, named := false },
    partedCondition,
    (partedSample comment).commentNode,
    { type := "#endif", start := (partedSample comment).commentNode.stop + 1
      stop := (partedSample comment).commentNode.stop + 7, named := false }] }

/-- A tree of that source with the given children. -/
def partedUnit (comment : List Char) (children : List Node) : Node :=
  { type := "compilation_unit", start := 0, stop := (partedSample comment).source.length, children := children }

/-- The tree that a parser gives for the source. -/
def partedTree (comment : List Char) : Node :=
  partedUnit comment [partedRegion comment, (partedSample comment).classNode]

/-- In the flat form the comment stands before the class. -/
theorem flatTree_partedTree (comment : List Char) :
    flatTree ⟨(partedSample comment).source, false⟩ (partedTree comment) =
      partedUnit comment [partedCondition, (partedSample comment).commentNode, (partedSample comment).classNode] :=
  rfl

/-- There is no namespace in these trees at all. -/
theorem filesOutside_partedTree (comment : List Char) : FilesOutside (partedTree comment) := by
  have hroles : ((partedTree comment).nodes.flatMap fun region => region.nodes.map (·.role)).contains
      .fileNamespace = false := rfl
  intro region hregion _ node hnode hfile
  have hrole : node.role ∈ (partedTree comment).nodes.flatMap fun region => region.nodes.map (·.role) :=
    List.mem_flatMap.2 ⟨region, hregion, List.mem_map_of_mem hnode⟩
  rw [hfile, ← List.contains_iff_mem, hroles] at hrole
  cases hrole

variable {comment : List Char}

/-- The characters before the comment take one byte each. -/
theorem isBoundary_front {i : Nat} (hi : i ≤ 6) : IsBoundary (partedSample comment).source i := by
  have hcut := Text.Utf8.isBoundary_between []
    ((partedSample comment).comment ++ ((partedSample comment).between ++ classText))
    (by decide : Text.Utf8.IsAscii "#if X\n".toList) hi
  rw [Commented.source, Commented.text_eq, ← Nat.zero_add i]
  exact hcut

/-- The characters between the comment and the class take one byte each. -/
theorem isBoundary_behind {i : Nat} (hi : i ≤ 8) :
    IsBoundary (partedSample comment).source ((partedSample comment).commentNode.stop + i) := by
  have hcut := Text.Utf8.isBoundary_between ((partedSample comment).front ++ (partedSample comment).comment)
    classText (by decide : Text.Utf8.IsAscii " #endif\n".toList) hi
  rw [Text.Utf8.encode_append (partedSample comment).front, List.length_append, List.append_assoc] at hcut
  rw [Commented.source, Commented.text_eq]
  exact hcut

/-- The condition lies between characters. -/
theorem grounded_partedCondition : partedCondition.Grounded (partedSample comment).source :=
  Node.grounded_of_children ⟨isBoundary_front (by decide), isBoundary_front (by decide)⟩ rfl
    (by simp [partedCondition])

/-- The region and all that is in it lie between characters. -/
theorem grounded_partedRegion : (partedRegion comment).Grounded (partedSample comment).source := by
  refine Node.grounded_of_children ⟨isBoundary_front (Nat.zero_le _), isBoundary_behind (by decide)⟩ rfl ?_
  simp only [partedRegion, List.forall_mem_cons, List.not_mem_nil, false_imp_iff, implies_true, and_true]
  refine ⟨?_, grounded_partedCondition, (partedSample comment).grounded_commentNode, ?_⟩
  · exact Node.grounded_of_children ⟨isBoundary_front (by decide), isBoundary_front (by decide)⟩ rfl (by simp)
  · exact Node.grounded_of_children ⟨isBoundary_behind (by decide), isBoundary_behind (by decide)⟩ rfl (by simp)

/-- The tree is grounded if its children are. -/
theorem grounded_partedUnit {children : List Node}
    (h : ∀ child ∈ children, child.Grounded (partedSample comment).source) :
    (partedUnit comment children).Grounded (partedSample comment).source :=
  Node.grounded_of_children
    ⟨Text.Utf8.isBoundary_zero (partedSample comment).decode_source, Text.Utf8.isBoundary_length _⟩ rfl h

variable (comment)

/-- All texts of the tree can be read. -/
theorem legible_partedTree : (partedTree comment).Legible (partedSample comment).source := by
  have hgrounded : (partedTree comment).Grounded (partedSample comment).source := by
    refine grounded_partedUnit ?_
    rw [List.forall_mem_cons, List.forall_mem_singleton]
    exact ⟨grounded_partedRegion, (partedSample comment).grounded_classNode⟩
  exact fun node hnode => exists_text (partedSample comment).decode_source hgrounded hnode

/-- The comment is no sibling of the class, so it is not read. -/
theorem mapTree_partedTree (path : String) :
    ∃ file, (mapTree ⟨(partedSample comment).source, false⟩ path (partedTree comment)).outcome =
      .ok (some file) := by
  have hrole : (partedRegion comment).role = .transparent := rfl
  have hother : (partedRegion comment).isOf "comment" = false := rfl
  have hdoc : docComments (partedSample comment).source [partedRegion comment] (partedSample comment).classNode =
      .ok [] := by
    rw [docComments, docCommentsFrom, hother, Bool.not_false, Bool.true_or, if_pos rfl]
  have hregion : (walkNode ⟨(partedSample comment).source, false⟩ none [] (partedRegion comment)).outcome =
      .ok [] := rfl
  have hchildren : (partedTree comment).children = [partedRegion comment, (partedSample comment).classNode] := rfl
  obtain ⟨file, hfile, -⟩ := Commented.mapTree_of_undocumented hchildren rfl (by rw [hrole]; decide) hregion
    hdoc path
  exact ⟨file, hfile⟩

variable {comment}

/-- Without the region the comment is right before the class, and its number is read. -/
theorem flatTree_partedTree_fails (hdoc : Doc.isDocComment comment = true)
    (hlong : Doc.HasLongSummary (Doc.clean comment)) (path : String) :
    ∃ fault, (mapTree ⟨(partedSample comment).source, false⟩ path
      (flatTree ⟨(partedSample comment).source, false⟩ (partedTree comment))).outcome =
        .error (.tooManyDigits fault) := by
  have hgrounded : (partedUnit comment [partedCondition, (partedSample comment).commentNode,
      (partedSample comment).classNode]).Grounded (partedSample comment).source := by
    refine grounded_partedUnit ?_
    rw [List.forall_mem_cons, List.forall_mem_cons, List.forall_mem_singleton]
    exact ⟨grounded_partedCondition, (partedSample comment).grounded_commentNode,
      (partedSample comment).grounded_classNode⟩
  -- Only the end of the row of the comment is between it and the class.
  have hgap : (partedSample comment).gap ≤ 1 := by
    show (encode " #endif\n".toList).count 10 ≤ 1
    decide
  rw [flatTree_partedTree]
  exact Commented.mapTree_fails (i := 2) hgrounded rfl rfl rfl rfl hgap hdoc hlong path

end Parted

/-- Two names. -/
def pairSource : Bytes :=
  Text.Utf8.ofString "A B"

/-- A class with a body of another type, which has a region in it. -/
def bodyTree (type : String) (inner : Node) : Node :=
  { type := "compilation_unit", start := 0, stop := 3, children := [
    { type := "class_declaration", start := 0, stop := 3, children := [
      { type := "identifier", start := 0, stop := 1, field := some "name" },
      { type := type, start := 0, stop := 3, field := some "body", children := [
        { type := "preproc_if", start := 0, stop := 3, children := [inner] }] }] }] }

/-- An attribute in a region in a list of attributes that is also the body of the class. -/
def attributeTree : Node :=
  bodyTree "attribute_list" { type := "attribute", start := 2, stop := 3, children := [
    { type := "identifier", start := 2, stop := 3, field := some "name" }] }

/-- A base type in a region in a list of base types that is also the body of the class. -/
def baseTree : Node :=
  bodyTree "base_list" { type := "identifier", start := 2, stop := 3 }

/-- A namespace for the rest of the file with a second name in a region before its name. -/
def nameTree : Node :=
  { type := "compilation_unit", start := 0, stop := 3, children := [
    { type := "file_scoped_namespace_declaration", start := 0, stop := 3, children := [
      { type := "preproc_if", start := 0, stop := 1, children := [
        { type := "identifier", start := 0, stop := 1, field := some "name" }] },
      { type := "identifier", start := 2, stop := 3, field := some "name" }] }] }

/-- What the outline of one of these trees says of its members. -/
def headings (root : Node) : Option (List (String × List String × List String)) :=
  (mapTree ⟨pairSource, false⟩ "A.cs" root).outcome.toOption.join.map fun file =>
    file.members.map fun member => (member.signature, member.baseTypes, member.attributes)

/-- Regions are not transparent where they are read for something else: a comment in a region is none before
what follows the region, and attributes, base types and names are not looked for in regions. -/
theorem flatTree_changes_outline :
    (let comment := Doc.blockComment [Doc.longLine]
    let source := (partedSample comment).source
    (partedTree comment).Legible source ∧ FilesOutside (partedTree comment) ∧
      (∃ file, (mapTree ⟨source, false⟩ "A.cs" (partedTree comment)).outcome = .ok (some file)) ∧
      ∃ fault, (mapTree ⟨source, false⟩ "A.cs" (flatTree ⟨source, false⟩ (partedTree comment))).outcome =
        .error (.tooManyDigits fault)) ∧
    (∀ root ∈ [attributeTree, baseTree, nameTree], root.Legible pairSource ∧ FilesOutside root) ∧
    [attributeTree, baseTree, nameTree].map headings =
      [some [("A", [], [])], some [("A", ["A B"], [])], some [("B", [], [])]] ∧
    [attributeTree, baseTree, nameTree].map (fun root => headings (flatTree ⟨pairSource, false⟩ root)) =
      [some [("A", [], ["B"])], some [("A", ["B"], [])], some [("A", [], [])]] := by
  refine ⟨?_, by decide +kernel, by decide +kernel, by decide +kernel⟩
  intro comment source
  -- The comment is one of the samples whose numbers are too long.
  obtain ⟨hdoc, hlong⟩ := Doc.longLine_comments comment (List.mem_cons_of_mem _ (List.mem_cons_self ..))
  exact ⟨legible_partedTree comment, filesOutside_partedTree comment, mapTree_partedTree comment "A.cs",
    flatTree_partedTree_fails hdoc hlong "A.cs"⟩

end ApiOutline.Outline
