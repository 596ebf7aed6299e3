import ApiOutline.Outline.Walk
import Mathlib.Logic.Relation
import Mathlib.Tactic.SplitIfs

/-!
# The declarations that an outline shows

Which declarations of a syntax tree belong to its outline, said without the walk. A place of the tree
is a path of child positions. A place can be opened, which means that its named children are looked
at; it can be looked at as part of a declaration of some kind; and it can be mapped, which means that
it has a member. `Step` says how one leads to another, rule by rule, and a place is `Reached` if steps
from the opened root lead to the mapped place.

The lemmas after the rules take the first step apart, one lemma for each role of a node, so that later
proofs do not look at `Step` itself.
-/

namespace ApiOutline.Syntax

/-- Going on from the end of a path is going along the whole path. -/
theorem Node.at?_append (p q : Path) (node : Node) (before : List Node) :
    node.at? before (p ++ q) = (node.at? before p).bind fun found => found.1.at? found.2 q := by
  induction p generalizing node before with
  | nil => rfl
  | cons i p ih =>
    simp only [List.cons_append, Node.at?]
    cases node.children[i]? with
    | none => rfl
    | some child => exact ih child _

/-- The node one position below the end of a path, with the named siblings before it. -/
theorem Node.at?_child {root node child : Node} {before : List Node} {p : Path} {i : Nat}
    (hnode : root.at? [] p = some (node, before)) (hchild : node.children[i]? = some child) :
    root.at? [] (p ++ [i]) =
      some (child, ((node.children.take i).filter (·.named)).reverse) := by
  rw [Node.at?_append, hnode]
  simp [Node.at?, hchild]

/-- The parent of a node that is not the root, and its position. -/
theorem Node.exists_container {root node : Node} {before : List Node} {pre : Path} {j : Nat}
    (hat : root.at? [] (pre ++ [j]) = some (node, before)) :
    ∃ container siblings, root.at? [] pre = some (container, siblings) ∧
      container.children[j]? = some node ∧
      before = ((container.children.take j).filter (·.named)).reverse := by
  rw [Node.at?_append] at hat
  obtain ⟨⟨container, siblings⟩, hcontainer, hchild⟩ := Option.bind_eq_some_iff.1 hat
  cases hget : container.children[j]? with
  | none => simp [Node.at?, hget] at hchild
  | some child =>
    simp only [Node.at?, hget, Option.some.injEq, Prod.mk.injEq] at hchild
    obtain ⟨rfl, rfl⟩ := hchild
    exact ⟨container, siblings, hcontainer, hget, rfl⟩

/-- A node of another role than the nodes of a type is not of the type. -/
theorem Node.isOf_eq_false {node : Node} {type : String} (h : node.role ≠ Role.of type) :
    node.isOf type = false := by
  refine Bool.eq_false_iff.2 fun htype => h ?_
  have hsame : node.type = type := by simpa [Node.isOf] using htype
  rw [Node.role, hsame]

/-- Declarations are no namespaces. -/
theorem Role.kind_ne_nameSpace {type : String} {kind : Outline.Kind}
    (h : Role.of type = .declaration kind) : kind ≠ .nameSpace := by
  rintro rfl
  -- The table of declaration types has no entry for a namespace.
  cases hlookup : declarationTypes.lookup type with
  | none =>
    simp only [Role.of, hlookup] at h
    split_ifs at h
  | some found =>
    simp only [Role.of, hlookup] at h
    split_ifs at h
    obtain rfl : found = .nameSpace := by simpa using h
    obtain ⟨l, r, htypes, -⟩ := List.lookup_eq_some_iff.1 hlookup
    have hmem : (type, Outline.Kind.nameSpace) ∈ declarationTypes := by rw [htypes]; simp
    simp [declarationTypes] at hmem

end ApiOutline.Syntax

namespace ApiOutline.Outline

open Syntax (Node Path)
open Relation (ReflTransGen)

/-- What the way of an outline can do at a place. -/
inductive Stage where
  /-- The named children are looked at, inside a declaration of the given kind if any. -/
  | opened (parent : Option Kind)
  /-- The node is looked at, inside a declaration of the given kind if any. -/
  | looked (parent : Option Kind)
  /-- The node has a member, inside one of the given kind if any. -/
  | mapped (parent : Option Kind)

/-- The position of the body of a declaration: the first child in the field `body`, or else the first
list of declarations. -/
def bodyIndex? (node : Node) : Option Nat :=
  (node.children.findIdx? (Node.fills "body")).or
    (node.children.findIdx? (Node.isOf "declaration_list"))

/-- Whether a node is a named namespace for the rest of the file. -/
def opensFile (node : Node) : Bool :=
  node.named && node.role = .fileNamespace

/-- The position of the first named namespace for the rest of the file. -/
def fileIndex? (container : Node) : Option Nat :=
  container.children.findIdx? opensFile

/-- Whether a declaration inside one of the given kind, if any, is visible. -/
def Shown (setting : Setting) (parent : Option Kind) (node : Node) : Prop :=
  ∃ modifiers, modifiersOf setting.source node = .ok modifiers ∧
    isVisibleIn modifiers parent setting.contextual = true

/-- One step of the way of an outline through the tree of `root`. -/
inductive Step (setting : Setting) (root : Node) : Path × Stage → Path × Stage → Prop where
  /-- Named children before any namespace for the rest of the file are looked at. -/
  | child {p : Path} {k : Option Kind} {container node : Node} {before : List Node} {i : Nat} :
    root.at? [] p = some (container, before) → container.children[i]? = some node →
    node.named = true → (∀ f, fileIndex? container = some f → i < f) →
    Step setting root (p, .opened k) (p ++ [i], .looked k)
  /-- The first namespace for the rest of the file is mapped. -/
  | fileMapped {p : Path} {k : Option Kind} {container : Node} {before : List Node} {f : Nat} :
    root.at? [] p = some (container, before) → fileIndex? container = some f →
    Step setting root (p, .opened k) (p ++ [f], .mapped k)
  /-- The first namespace for the rest of the file is opened. -/
  | fileOpened {p : Path} {k : Option Kind} {container : Node} {before : List Node} {f : Nat} :
    root.at? [] p = some (container, before) → fileIndex? container = some f →
    Step setting root (p, .opened k) (p ++ [f], .opened (some .nameSpace))
  /-- Named children after a namespace for the rest of the file are looked at as part of it. -/
  | following {p : Path} {k : Option Kind} {container node : Node} {before : List Node} {f i : Nat} :
    root.at? [] p = some (container, before) → fileIndex? container = some f → f < i →
    container.children[i]? = some node → node.named = true →
    Step setting root (p, .opened k) (p ++ [i], .looked (some .nameSpace))
  /-- A namespace is mapped. -/
  | namespaceMapped {p : Path} {k : Option Kind} {node : Node} {before : List Node} :
    root.at? [] p = some (node, before) → node.role = .blockNamespace →
    Step setting root (p, .looked k) (p, .mapped k)
  /-- The body of a namespace is opened. -/
  | namespaceOpened {p : Path} {k : Option Kind} {node : Node} {before : List Node} {i : Nat} :
    root.at? [] p = some (node, before) → node.role = .blockNamespace →
    bodyIndex? node = some i →
    Step setting root (p, .looked k) (p ++ [i], .opened (some .nameSpace))
  /-- A declaration is mapped if it is visible. -/
  | declarationMapped {p : Path} {k : Option Kind} {kind : Kind} {node : Node}
      {before : List Node} :
    root.at? [] p = some (node, before) → node.role = .declaration kind → Shown setting k node →
    Step setting root (p, .looked k) (p, .mapped k)
  /-- The body of a visible class, interface or record is opened. -/
  | declarationOpened {p : Path} {k : Option Kind} {kind : Kind} {node : Node}
      {before : List Node} {i : Nat} :
    root.at? [] p = some (node, before) → node.role = .declaration kind → Shown setting k node →
    kind ∈ [Kind.classType, .interfaceType, .record] → bodyIndex? node = some i →
    Step setting root (p, .looked k) (p ++ [i], .opened (some kind))
  /-- A transparent container is opened as part of the declaration around it. -/
  | transparent {p : Path} {k : Option Kind} {node : Node} {before : List Node} :
    root.at? [] p = some (node, before) → node.role = .transparent →
    Step setting root (p, .looked k) (p, .opened k)

/-- Where a member belongs: the kind of the member it is nested in, if any, and the path of the node it
is built from. -/
abbrev Place := Option Kind × Path

/-- Whether steps from a path at a stage lead to a mapped place. -/
def LeadsTo (setting : Setting) (root : Node) (start : Path × Stage) (place : Place) : Prop :=
  ReflTransGen (Step setting root) start (place.2, .mapped place.1)

/-- Whether a place belongs to the outline of the tree of `root`. -/
def Reached (setting : Setting) (root : Node) (place : Place) : Prop :=
  LeadsTo setting root ([], .opened none) place

variable {setting : Setting} {root node : Node} {before : List Node} {pre : Path} {place : Place}
  {k : Option Kind}

/-- A mapped place leads nowhere else. -/
@[simp]
theorem leadsTo_mapped : LeadsTo setting root (pre, .mapped k) place ↔ place = (k, pre) := by
  constructor
  · intro h
    -- No step starts from a mapped place.
    obtain h | ⟨next, hstep, -⟩ := ReflTransGen.cases_head h
    · obtain ⟨rfl, hk⟩ := Prod.mk.inj h
      exact Prod.ext (Stage.mapped.inj hk).symm rfl
    · cases hstep
  · rintro rfl
    exact ReflTransGen.refl

/-- From any other stage there is a first step. -/
theorem leadsTo_iff_step {stage : Stage} (hstage : ∀ k, stage ≠ .mapped k) :
    LeadsTo setting root (pre, stage) place ↔
      ∃ next, Step setting root (pre, stage) next ∧ LeadsTo setting root next place := by
  constructor
  · intro h
    obtain h | ⟨next, hstep, hrest⟩ := ReflTransGen.cases_head h
    · exact absurd (Prod.mk.inj h).2 (hstage _)
    · exact ⟨next, hstep, hrest⟩
  · rintro ⟨next, hstep, hrest⟩
    exact ReflTransGen.head hstep hrest

/-- A step goes down the tree or stays. -/
theorem Step.below {a b : Path × Stage} (h : Step setting root a b) : a.1 <+: b.1 := by
  cases h <;> simp

/-- What a place leads to is at or below it. -/
theorem LeadsTo.below {start : Path × Stage} (h : LeadsTo setting root start place) :
    start.1 <+: place.2 := by
  induction h using ReflTransGen.head_induction_on with
  | refl => exact List.prefix_refl _
  | head hstep _ ih => exact hstep.below.trans ih

/-- What a step from a place that is looked at can be, by the role of its node. -/
theorem Step.of_looked {next : Path × Stage} (hat : root.at? [] pre = some (node, before))
    (h : Step setting root (pre, .looked k) next) :
    (node.role = .blockNamespace ∧ (next = (pre, .mapped k) ∨
        ∃ i, bodyIndex? node = some i ∧ next = (pre ++ [i], .opened (some .nameSpace)))) ∨
      (∃ kind, node.role = .declaration kind ∧ Shown setting k node ∧ (next = (pre, .mapped k) ∨
        kind ∈ [Kind.classType, .interfaceType, .record] ∧
          ∃ i, bodyIndex? node = some i ∧ next = (pre ++ [i], .opened (some kind)))) ∨
      (node.role = .transparent ∧ next = (pre, .opened k)) := by
  -- Each rule names the node at the place again, and it is the same node.
  cases h with
  | namespaceMapped hat' hrole =>
    cases hat.symm.trans hat'
    exact .inl ⟨hrole, .inl rfl⟩
  | namespaceOpened hat' hrole hbody =>
    cases hat.symm.trans hat'
    exact .inl ⟨hrole, .inr ⟨_, hbody, rfl⟩⟩
  | declarationMapped hat' hrole hshown =>
    cases hat.symm.trans hat'
    exact .inr (.inl ⟨_, hrole, hshown, .inl rfl⟩)
  | declarationOpened hat' hrole hshown hnest hbody =>
    cases hat.symm.trans hat'
    exact .inr (.inl ⟨_, hrole, hshown, .inr ⟨hnest, _, hbody, rfl⟩⟩)
  | transparent hat' hrole =>
    cases hat.symm.trans hat'
    exact .inr (.inr ⟨hrole, rfl⟩)

/-- A namespace is mapped, and leads on to what its body leads to. -/
theorem leadsTo_namespace (hat : root.at? [] pre = some (node, before))
    (hrole : node.role = .blockNamespace) :
    LeadsTo setting root (pre, .looked k) place ↔
      place = (k, pre) ∨ ∃ i, bodyIndex? node = some i ∧
        LeadsTo setting root (pre ++ [i], .opened (some .nameSpace)) place := by
  rw [leadsTo_iff_step (by simp)]
  constructor
  · rintro ⟨next, hstep, hrest⟩
    -- Of the steps that are possible here, the role allows those of a namespace.
    obtain ⟨-, rfl | ⟨i, hbody, rfl⟩⟩ | ⟨kind, hother, -⟩ | ⟨hother, -⟩ := hstep.of_looked hat
    · exact .inl (leadsTo_mapped.1 hrest)
    · exact .inr ⟨i, hbody, hrest⟩
    · cases hrole.symm.trans hother
    · cases hrole.symm.trans hother
  · rintro (rfl | ⟨i, hbody, hrest⟩)
    · exact ⟨_, .namespaceMapped hat hrole, leadsTo_mapped.2 rfl⟩
    · exact ⟨_, .namespaceOpened hat hrole hbody, hrest⟩

/-- A visible declaration is mapped, and a class, interface or record leads on to what its body leads
to. A declaration that is not visible leads nowhere. -/
theorem leadsTo_declaration {kind : Kind} (hat : root.at? [] pre = some (node, before))
    (hrole : node.role = .declaration kind) :
    LeadsTo setting root (pre, .looked k) place ↔
      Shown setting k node ∧ (place = (k, pre) ∨ kind ∈ [Kind.classType, .interfaceType, .record] ∧
        ∃ i, bodyIndex? node = some i ∧
          LeadsTo setting root (pre ++ [i], .opened (some kind)) place) := by
  rw [leadsTo_iff_step (by simp)]
  constructor
  · rintro ⟨next, hstep, hrest⟩
    -- Of the steps that are possible here, the role allows those of a declaration.
    obtain ⟨hother, -⟩ | ⟨kind', hkind, hshown, hnext⟩ | ⟨hother, -⟩ := hstep.of_looked hat
    · cases hrole.symm.trans hother
    · cases hrole.symm.trans hkind
      obtain rfl | ⟨hnest, i, hbody, rfl⟩ := hnext
      · exact ⟨hshown, .inl (leadsTo_mapped.1 hrest)⟩
      · exact ⟨hshown, .inr ⟨hnest, i, hbody, hrest⟩⟩
    · cases hrole.symm.trans hother
  · rintro ⟨hshown, rfl | ⟨hnest, i, hbody, hrest⟩⟩
    · exact ⟨_, .declarationMapped hat hrole hshown, leadsTo_mapped.2 rfl⟩
    · exact ⟨_, .declarationOpened hat hrole hshown hnest hbody, hrest⟩

/-- A transparent container leads to what it leads to when it is opened. -/
theorem leadsTo_transparent (hat : root.at? [] pre = some (node, before))
    (hrole : node.role = .transparent) :
    LeadsTo setting root (pre, .looked k) place ↔ LeadsTo setting root (pre, .opened k) place := by
  rw [leadsTo_iff_step (by simp)]
  constructor
  · rintro ⟨next, hstep, hrest⟩
    obtain ⟨hother, -⟩ | ⟨kind, hother, -⟩ | ⟨-, rfl⟩ := hstep.of_looked hat
    · cases hrole.symm.trans hother
    · cases hrole.symm.trans hother
    · exact hrest
  · intro hrest
    exact ⟨_, .transparent hat hrole, hrest⟩

/-- A node of any other role leads nowhere. -/
theorem not_leadsTo_other (hat : root.at? [] pre = some (node, before))
    (hrole : node.role = .other ∨ node.role = .fileNamespace) :
    ¬ LeadsTo setting root (pre, .looked k) place := by
  rw [leadsTo_iff_step (by simp)]
  rintro ⟨next, hstep, -⟩
  obtain ⟨hother, -⟩ | ⟨kind, hother, -⟩ | ⟨hother, -⟩ := hstep.of_looked hat
  · simp [hother] at hrole
  · simp [hother] at hrole
  · simp [hother] at hrole

/-! ## What the children of an opened place lead to -/

/-- Whether the child at position `i` of the opened container at `pre` leads to the mapped `place`:
as part of the declaration around the container, as the first namespace for the rest of the file, or
as part of that namespace. -/
def ChildLeads (setting : Setting) (root : Node) (pre : Path) (k : Option Kind) (container : Node)
    (i : Nat) (place : Place) : Prop :=
  ∃ node, container.children[i]? = some node ∧ node.named = true ∧
    (((∀ f, fileIndex? container = some f → i < f) ∧
        LeadsTo setting root (pre ++ [i], .looked k) place) ∨
      (fileIndex? container = some i ∧
        (place = (k, pre ++ [i]) ∨ LeadsTo setting root (pre ++ [i], .opened (some .nameSpace)) place)) ∨
      (∃ f, fileIndex? container = some f ∧ f < i ∧
        LeadsTo setting root (pre ++ [i], .looked (some .nameSpace)) place))

/-- At the position of the first namespace for the rest of the file there is a named one. -/
theorem fileIndex?_eq_some {container : Node} {f : Nat} (h : fileIndex? container = some f) :
    ∃ node, container.children[f]? = some node ∧ node.named = true ∧
      node.role = .fileNamespace := by
  obtain ⟨hlt, hopens, -⟩ := List.findIdx?_eq_some_iff_getElem.1 h
  refine ⟨container.children[f], List.getElem?_eq_getElem hlt, ?_⟩
  simpa [opensFile] using hopens

/-- An opened place leads to what its children lead to. -/
theorem leadsTo_opened {container : Node} (hat : root.at? [] pre = some (container, before)) :
    LeadsTo setting root (pre, .opened k) place ↔
      ∃ i, ChildLeads setting root pre k container i place := by
  rw [leadsTo_iff_step (by simp)]
  constructor
  · rintro ⟨next, hstep, hrest⟩
    cases hstep with
    | child hat' hchild hnamed hbefore =>
      cases hat.symm.trans hat'
      exact ⟨_, _, hchild, hnamed, .inl ⟨hbefore, hrest⟩⟩
    | fileMapped hat' hfile =>
      cases hat.symm.trans hat'
      obtain ⟨node, hchild, hnamed, -⟩ := fileIndex?_eq_some hfile
      exact ⟨_, node, hchild, hnamed, .inr (.inl ⟨hfile, .inl (leadsTo_mapped.1 hrest)⟩)⟩
    | fileOpened hat' hfile =>
      cases hat.symm.trans hat'
      obtain ⟨node, hchild, hnamed, -⟩ := fileIndex?_eq_some hfile
      exact ⟨_, node, hchild, hnamed, .inr (.inl ⟨hfile, .inr hrest⟩)⟩
    | following hat' hfile hlt hchild hnamed =>
      cases hat.symm.trans hat'
      exact ⟨_, _, hchild, hnamed, .inr (.inr ⟨_, hfile, hlt, hrest⟩)⟩
  · rintro ⟨i, node, hchild, hnamed, hleads⟩
    -- Before the namespace, at it, or after it: each case is one of the rules.
    obtain ⟨hbefore, hrest⟩ | ⟨hfile, rfl | hrest⟩ | ⟨f, hfile, hlt, hrest⟩ := hleads
    · exact ⟨_, .child hat hchild hnamed hbefore, hrest⟩
    · exact ⟨_, .fileMapped hat hfile, leadsTo_mapped.2 rfl⟩
    · exact ⟨_, .fileOpened hat hfile, hrest⟩
    · exact ⟨_, .following hat hfile hlt hchild hnamed, hrest⟩

/-- What a child leads to is at or below it. -/
theorem ChildLeads.below {container : Node} {i : Nat}
    (h : ChildLeads setting root pre k container i place) : pre ++ [i] <+: place.2 := by
  obtain ⟨node, -, -, ⟨-, hrest⟩ | ⟨-, rfl | hrest⟩ | ⟨-, -, -, hrest⟩⟩ := h
  · exact hrest.below
  · exact List.prefix_refl _
  · exact hrest.below
  · exact hrest.below

section ChildCases

variable {container : Node} {i : Nat} (hchild : container.children[i]? = some node)

include hchild

/-- A child without a name leads nowhere. -/
theorem not_childLeads (hnamed : node.named = false) :
    ¬ ChildLeads setting root pre k container i place := by
  rintro ⟨other, hother, hnamed', -⟩
  cases hchild.symm.trans hother
  simp [hnamed] at hnamed'

/-- A named child before any namespace for the rest of the file is looked at. -/
theorem childLeads_before (hnamed : node.named = true)
    (hbefore : ∀ f, fileIndex? container = some f → i < f) :
    ChildLeads setting root pre k container i place ↔
      LeadsTo setting root (pre ++ [i], .looked k) place := by
  constructor
  · -- The position is before the namespace, so neither of the other rules applies.
    rintro ⟨-, -, -, ⟨-, hrest⟩ | ⟨hfile, -⟩ | ⟨f, hfile, hlt, -⟩⟩
    · exact hrest
    · exact absurd (hbefore i hfile) (Nat.lt_irrefl i)
    · exact absurd (hbefore f hfile) (Nat.lt_asymm hlt)
  · intro hrest
    exact ⟨node, hchild, hnamed, .inl ⟨hbefore, hrest⟩⟩

/-- The first namespace for the rest of the file is mapped, and leads on to what it holds. -/
theorem childLeads_file (hnamed : node.named = true) (hfile : fileIndex? container = some i) :
    ChildLeads setting root pre k container i place ↔
      place = (k, pre ++ [i]) ∨ LeadsTo setting root (pre ++ [i], .opened (some .nameSpace)) place := by
  constructor
  · rintro ⟨-, -, -, ⟨hbefore, -⟩ | ⟨-, hrest⟩ | ⟨f, hfile', hlt, -⟩⟩
    · exact absurd (hbefore i hfile) (Nat.lt_irrefl i)
    · exact hrest
    · cases hfile.symm.trans hfile'
      exact absurd hlt (Nat.lt_irrefl i)
  · intro hrest
    exact ⟨node, hchild, hnamed, .inr (.inl ⟨hfile, hrest⟩)⟩

/-- A named child after a namespace for the rest of the file is looked at as part of it. -/
theorem childLeads_following {f : Nat} (hnamed : node.named = true)
    (hfile : fileIndex? container = some f) (hlt : f < i) :
    ChildLeads setting root pre k container i place ↔
      LeadsTo setting root (pre ++ [i], .looked (some .nameSpace)) place := by
  constructor
  · -- The position is after the namespace, so neither of the other rules applies.
    rintro ⟨-, -, -, ⟨hbefore, -⟩ | ⟨hfile', -⟩ | ⟨-, -, -, hrest⟩⟩
    · exact absurd (hbefore f hfile) (Nat.lt_asymm hlt)
    · cases hfile.symm.trans hfile'
      exact absurd hlt (Nat.lt_irrefl _)
    · exact hrest
  · intro hrest
    exact ⟨node, hchild, hnamed, .inr (.inr ⟨f, hfile, hlt, hrest⟩)⟩

end ChildCases

/-- The body that the walk finds is at the position of the body. -/
theorem bodyIndex?_eq (node : Node) :
    bodyIndex? node = node.children.findIdx? (isBodyAmong node.children) := by
  unfold bodyIndex? isBodyAmong
  split_ifs with hany
  · -- Some child fills the field, and it is the body.
    obtain ⟨i, hi⟩ : ∃ i, node.children.findIdx? (Node.fills "body") = some i := by
      rw [← Option.isSome_iff_exists, List.findIdx?_isSome]
      exact hany
    rw [hi, Option.some_or]
  · -- No child fills the field, and the list of declarations is the body.
    have hnone : node.children.findIdx? (Node.fills "body") = none := by
      rw [List.findIdx?_eq_none_iff]
      simpa using hany
    rw [hnone, Option.none_or]

end ApiOutline.Outline
