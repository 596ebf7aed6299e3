import ApiOutline.Proofs.LongReferences
import ApiOutline.Proofs.ParsedTrees
import ApiOutline.Proofs.Placement

/-!
# The walk fails in one way

A tree is grounded in its source if its nodes start and stop between characters and its base types with
arguments name a type. In such a tree every text that is read is one, so all that the walk reads of a
declaration is there, except perhaps its summary: that fails if it is taken from raw text with too long
a number. The walk thus fails exactly if it gets to a declaration with such a summary
(`mapTree_cases`).

`Fares` says of a part of the walk that it succeeds, or fails by the summary of a place that the part
leads to. As with `Covers`, it is put together as the walk is.
-/

namespace ApiOutline.Outcome

variable {ε δ α β : Type}

/-- Two steps succeed if the first one does and the second one does on whatever comes. -/
theorem exists_bind {x : Except ε α} {f : α → Except ε β} (hx : ∃ a, x = .ok a)
    (hf : ∀ a, ∃ b, f a = .ok b) : ∃ b, x >>= f = .ok b := by
  obtain ⟨a, rfl⟩ := hx
  exact hf a

theorem exists_map {x : Except ε α} (f : α → β) (hx : ∃ a, x = .ok a) : ∃ b, x.map f = .ok b := by
  obtain ⟨a, rfl⟩ := hx
  exact ⟨f a, rfl⟩

theorem exists_mapError {x : Except ε α} (f : ε → δ) (hx : ∃ a, x = .ok a) :
    ∃ a, x.mapError f = .ok a := by
  obtain ⟨a, rfl⟩ := hx
  exact ⟨a, rfl⟩

end ApiOutline.Outcome

namespace ApiOutline.Syntax

/-- The siblings before a node are in the tree. -/
theorem Node.within_of_mem_before {root node sibling : Node} {before : List Node} {p : Path}
    (hat : root.at? [] p = some (node, before)) (hsibling : sibling ∈ before) : root.Within sibling := by
  -- The root has no siblings, and those of any other node are children of its container.
  obtain rfl | ⟨pre, j, rfl⟩ := p.eq_nil_or_concat'
  · cases hat
    cases hsibling
  · obtain ⟨container, siblings, hcontainer, -, rfl⟩ := Node.exists_container hat
    exact (Node.within_of_at? hcontainer).before sibling hsibling

end ApiOutline.Syntax

namespace ApiOutline.Outline

open Syntax (Node Path)
open Text (Bytes)
open Outcome (exists_bind exists_map exists_mapError)

/-! ## What is read of a declaration -/

section Readings

variable {source : Bytes} {cs : List Char} {root node : Node} {nodes before : List Node}
  (hsource : Text.Utf8.decode source = .ok cs) (hroot : root.Grounded source)

include hsource hroot

/-- Every node of a grounded tree covers a text. -/
theorem exists_text (hnode : root.Within node) : ∃ text, node.text source = .ok text :=
  Text.Utf8.exists_decode_slice hsource (hroot.bounded node hnode).1 (hroot.bounded node hnode).2

/-- The text of a node can be put on one line. -/
theorem exists_lineOf (hnode : root.Within node) : ∃ line, lineOf source node = .ok line :=
  exists_mapError _ (exists_map _ (exists_text hsource hroot hnode))

/-- So can that of a node that may be missing. -/
theorem exists_lineOf? {found : Option Node} (hfound : ∀ node ∈ found, root.Within node) :
    ∃ line, lineOf? source found = .ok line := by
  cases found with
  | none => exact ⟨[], rfl⟩
  | some node => exact exists_lineOf hsource hroot (hfound node rfl)

/-- Every node has a name, if only an empty one. -/
theorem exists_nameOf (hnode : root.Within node) : ∃ name, nameOf source node = .ok name := by
  apply exists_map
  apply exists_lineOf? hsource hroot
  intro child hchild
  exact hnode.child (List.mem_of_find?_eq_some hchild)

/-- The names of the nodes that pass a test can be read. -/
theorem exists_namesOf (test : Node → Bool) (hnodes : ∀ node ∈ nodes, root.Within node) :
    ∃ names, namesOf source test nodes = .ok names := by
  induction nodes with
  | nil => exact ⟨[], rfl⟩
  | cons node nodes ih =>
    obtain ⟨hnode, hnodes⟩ := List.forall_mem_cons.1 hnodes
    rw [namesOf]
    split
    · apply exists_bind (exists_nameOf hsource hroot hnode)
      intro name
      apply exists_bind (ih hnodes)
      exact fun names => ⟨_, rfl⟩
    · exact ih hnodes

/-- The parts of a signature that a node may lack are in the tree if they are there. -/
theorem exists_part {first second : Node → Bool} (hnode : root.Within node) :
    ∃ line, lineOf? source ((node.children.find? first).or (node.children.find? second)) =
      .ok line := by
  apply exists_lineOf? hsource hroot
  intro child hchild
  obtain hchild | ⟨-, hchild⟩ := Option.or_eq_some_iff.1 hchild
  · exact hnode.child (List.mem_of_find?_eq_some hchild)
  · exact hnode.child (List.mem_of_find?_eq_some hchild)

/-- The names of the members of an enumeration can be read. -/
theorem exists_enumNames (hnode : root.Within node) :
    ∃ names, enumNames source node = .ok names := by
  unfold enumNames
  split
  · exact ⟨[], rfl⟩
  · next body hbody =>
    -- The body is found by its field or by its type, among the children both ways.
    have hwithin : root.Within body := by
      obtain hbody | ⟨-, hbody⟩ := Option.or_eq_some_iff.1 hbody
      · exact hnode.child (List.mem_of_find?_eq_some hbody)
      · exact hnode.child (List.mem_of_find?_eq_some hbody)
    apply exists_namesOf hsource hroot
    intro child hchild
    exact hwithin.child (List.mem_of_mem_filter hchild)

/-- Every kind of declaration has its signature. -/
theorem exists_signatureOf (hnode : root.Within node) (kind : Kind) :
    ∃ signature, signatureOf source node kind = .ok signature := by
  have hname := exists_nameOf hsource hroot hnode
  have hparameters : ∃ line, lineOf? source (parameters? node) = .ok line :=
    exists_part hsource hroot hnode
  have htype : ∃ line, lineOf? source (node.childIn? "type") = .ok line :=
    exists_lineOf? hsource hroot fun child hchild => hnode.child (List.mem_of_find?_eq_some hchild)
  have hcallable : ∃ signature, callableSignature source node = .ok signature :=
    exists_bind hname fun _ => exists_bind hparameters fun _ => ⟨_, rfl⟩
  cases kind with
  | nameSpace => exact hname
  | classType => exact hname
  | interfaceType => exact hname
  | record => exact hcallable
  | constructor => exact hcallable
  | enumeration =>
    exact exists_bind (exists_enumNames hsource hroot hnode) fun _ =>
      exists_bind hname fun _ => ⟨_, rfl⟩
  | method =>
    exact exists_bind (exists_part hsource hroot hnode) fun _ =>
      exists_bind hname fun _ => exists_bind hparameters fun _ => ⟨_, rfl⟩
  | property => exact exists_bind htype fun _ => exists_bind hname fun _ => ⟨_, rfl⟩

omit hsource in
/-- A base type names a type, with arguments or without. -/
theorem exists_baseNode (hnode : root.Within node) :
    ∃ found, baseNode node = .ok found ∧ root.Within found := by
  unfold baseNode
  split
  · next hbase =>
    -- A child in the field is found there; one that carries structure is among the named ones.
    have hsome : (node.childIn? "type").or node.namedChildren.head? ≠ none := by
      obtain ⟨child, hchild, hfills | hnamed⟩ := hroot.based node hnode hbase
      · have hfound : node.childIn? "type" ≠ none := by
          intro hnone
          exact List.find?_eq_none.1 hnone child hchild hfills
        rw [Ne, Option.or_eq_none_iff]
        exact fun hnone => hfound hnone.1
      · have hfound : node.namedChildren.head? ≠ none := by
          intro hnone
          have hmem : child ∈ node.namedChildren := List.mem_filter.2 ⟨hchild, hnamed⟩
          rw [List.head?_eq_none_iff.1 hnone] at hmem
          cases hmem
        rw [Ne, Option.or_eq_none_iff]
        exact fun hnone => hfound hnone.2
    split
    · next found hfound =>
      refine ⟨found, rfl, ?_⟩
      obtain hfound | ⟨-, hfound⟩ := Option.or_eq_some_iff.1 hfound
      · exact hnode.child (List.mem_of_find?_eq_some hfound)
      · exact hnode.child (List.mem_of_mem_filter (List.mem_of_mem_head? hfound))
    · next hnone => exact absurd hnone hsome
  · exact ⟨node, rfl, hnode⟩

/-- The names of base types can be read. -/
theorem exists_baseNames (hnodes : ∀ node ∈ nodes, root.Within node) :
    ∃ names, baseNames source nodes = .ok names := by
  induction nodes with
  | nil => exact ⟨[], rfl⟩
  | cons entry nodes ih =>
    obtain ⟨hentry, hnodes⟩ := List.forall_mem_cons.1 hnodes
    rw [baseNames]
    split
    · exact ih hnodes
    · obtain ⟨found, hfound, hwithin⟩ := exists_baseNode hroot hentry
      rw [hfound]
      apply exists_bind (exists_lineOf hsource hroot hwithin)
      intro text
      apply exists_bind (ih hnodes)
      exact fun names => ⟨_, rfl⟩

/-- The base types of a declaration can be read. -/
theorem exists_baseTypes (hnode : root.Within node) :
    ∃ names, baseTypes source node = .ok names := by
  unfold baseTypes
  split
  · exact ⟨[], rfl⟩
  · next list hlist =>
    have hwithin := hnode.child (List.mem_of_find?_eq_some hlist)
    apply exists_baseNames hsource hroot
    intro child hchild
    exact hwithin.child (List.mem_of_mem_filter hchild)

/-- The names of attributes can be read list by list. -/
theorem exists_attributeNames (hnodes : ∀ node ∈ nodes, root.Within node) :
    ∃ names, attributeNames source nodes = .ok names := by
  induction nodes with
  | nil => exact ⟨[], rfl⟩
  | cons list nodes ih =>
    obtain ⟨hlist, hnodes⟩ := List.forall_mem_cons.1 hnodes
    rw [attributeNames]
    apply exists_bind
    · apply exists_namesOf hsource hroot
      intro child hchild
      exact hlist.child (List.mem_of_mem_filter hchild)
    · intro names
      exact exists_bind (ih hnodes) fun others => ⟨_, rfl⟩

/-- The attributes of a declaration can be read. -/
theorem exists_attributesOf (hnode : root.Within node) :
    ∃ names, attributesOf source node = .ok names := by
  apply exists_attributeNames hsource hroot
  intro list hlist
  exact hnode.child (List.mem_of_mem_filter hlist)

/-- The modifiers of a declaration can be read. -/
theorem exists_modifiersOf (hnode : root.Within node) :
    ∃ modifiers, modifiersOf source node = .ok modifiers := by
  have hmodifiers : ∀ nodes : List Node, (∀ node ∈ nodes, root.Within node) →
      ∃ texts, modifierTexts source nodes = .ok texts := by
    intro nodes hnodes
    induction nodes with
    | nil => exact ⟨[], rfl⟩
    | cons node nodes ih =>
      obtain ⟨hnode, hnodes⟩ := List.forall_mem_cons.1 hnodes
      rw [modifierTexts]
      split
      · apply exists_bind (exists_mapError _ (exists_text hsource hroot hnode))
        intro text
        exact exists_bind (ih hnodes) fun texts => ⟨_, rfl⟩
      · exact ih hnodes
  exact hmodifiers node.children fun child hchild => hnode.child hchild

/-- The documentation comments before a node can be read. -/
theorem exists_docComments (hbefore : ∀ sibling ∈ before, root.Within sibling) (node : Node) :
    ∃ comments, docComments source before node = .ok comments := by
  unfold docComments
  -- The row that a comment has to end at changes with each comment, so it is generalized.
  generalize node.startRow source = row
  induction before generalizing row with
  | nil => exact ⟨[], rfl⟩
  | cons sibling before ih =>
    obtain ⟨hsibling, hbefore⟩ := List.forall_mem_cons.1 hbefore
    rw [docCommentsFrom]
    split
    · exact ⟨[], rfl⟩
    · apply exists_bind (exists_mapError _ (exists_text hsource hroot hsibling))
      intro text
      exact exists_bind (ih hbefore _) fun comments => ⟨_, rfl⟩

end Readings

/-! ## The summary of a declaration -/

/-- Whether the summary of a node is taken from raw text with too long a number. -/
def Overlong (source : Bytes) (before : List Node) (node : Node) : Prop :=
  ∃ comments, docComments source before node = .ok comments ∧ Doc.HasLongSummary (docBody comments)

/-- Whether what stands at a path is a declaration with such a summary. -/
def OverlongAt (setting : Setting) (root : Node) (p : Path) : Prop :=
  ∃ node before kind, root.at? [] p = some (node, before) ∧ node.role = .declaration kind ∧
    Overlong setting.source before node

/-- A summary with too long a number does not come out. -/
theorem not_docSummary_of_overlong {source : Bytes} {before : List Node} {node : Node}
    {doc : Option String} (h : Overlong source before node) :
    (docSummary source before node).outcome ≠ .ok doc := by
  obtain ⟨comments, hcomments, hlong⟩ := h
  intro hdoc
  simp only [docSummary, Traced.outcome_bind, Traced.outcome_lift, hcomments, Except.bind] at hdoc
  split at hdoc
  · -- Without comments there is no body with a number in it.
    next hempty =>
    rw [List.isEmpty_iff.1 hempty] at hlong
    obtain ⟨-, raw, hraw, -⟩ := hlong
    cases hraw
  · obtain ⟨fault, hfault⟩ := Doc.summarize_fails_iff.2 hlong
    rw [hfault] at hdoc
    cases hdoc

/-- With comments that can be read, the summary comes out or has too long a number. -/
theorem docSummary_cases {source : Bytes} {before : List Node} {node : Node}
    (h : ∃ comments, docComments source before node = .ok comments) :
    (∃ doc, (docSummary source before node).outcome = .ok doc) ∨
      (∃ fault, (docSummary source before node).outcome = .error (.tooManyDigits fault)) ∧
        Overlong source before node := by
  obtain ⟨comments, hcomments⟩ := h
  simp only [docSummary, Traced.outcome_bind, Traced.outcome_lift, hcomments, Except.bind]
  split
  · exact .inl ⟨none, rfl⟩
  · -- The comments are read, so only the summary of their text is left to fail.
    cases hsummary : Doc.summarize (docBody comments) with
    | ok summary => exact .inl ⟨_, rfl⟩
    | error fault =>
      exact .inr ⟨⟨fault, rfl⟩, comments, hcomments, Doc.summarize_fails_iff.1 ⟨fault, hsummary⟩⟩

/-! ## The walk -/

/-- Whether a part of the walk succeeds, or fails by the summary of one of the places. -/
def Fares (setting : Setting) (root : Node) (places : Place → Prop) {α : Type}
    (x : Except Fault α) : Prop :=
  (∃ a, x = .ok a) ∨
    (∃ fault, x = .error (.tooManyDigits fault)) ∧
      ∃ place, places place ∧ OverlongAt setting root place.2

namespace Fares

variable {setting : Setting} {root : Node} {P Q : Place → Prop} {α β : Type} {x : Except Fault α}

/-- More places may be named. -/
theorem mono (h : Fares setting root P x) (hPQ : ∀ place, P place → Q place) :
    Fares setting root Q x := by
  obtain h | ⟨hfault, place, hplace, hlong⟩ := h
  · exact .inl h
  · exact .inr ⟨hfault, place, hPQ place hplace, hlong⟩

/-- A part that succeeds fares well whatever its places are. -/
theorem ok (a : α) : Fares setting root P (.ok a) :=
  .inl ⟨a, rfl⟩

/-- The walk fares as its steps do. -/
theorem bind {f : α → Except Fault β} (hx : Fares setting root P x)
    (hf : ∀ a, Fares setting root P (f a)) : Fares setting root P (x >>= f) := by
  obtain ⟨a, rfl⟩ | ⟨⟨fault, rfl⟩, hplace⟩ := hx
  · exact hf a
  · exact .inr ⟨⟨fault, rfl⟩, hplace⟩

end Fares

section Walk

variable {cs : List Char} {setting : Setting} {root node : Node} {before : List Node} {pre : Path}
  {parent : Option Kind}

/-- The contents of a node fare as its body does. -/
theorem fares_placeInner {kind : Kind}
    (h : ∀ i body, bodyIndex? node = some i → node.children[i]? = some body →
      Fares setting root (LeadsTo setting root (pre ++ [i], .opened (some kind)))
        (placeInside setting (pre ++ [i]) (some kind) body)) :
    Fares setting root (BodyLeads setting root pre kind node) (placeInner setting pre kind node) := by
  obtain ⟨-, -, hinner⟩ | ⟨i, body, hindex, hbody, -, hinner⟩ := placeInner_cases pre kind node
  · rw [hinner]
    exact .ok []
  · rw [hinner]
    exact (h i body hindex hbody).mono fun place hplace => ⟨i, hindex, hplace⟩

section Grounded

variable (hsource : Text.Utf8.decode setting.source = .ok cs) (hroot : root.Grounded setting.source)

include hsource hroot

/-- The member of a namespace can be built. -/
theorem fares_namespaceMember {P : Place → Prop} (hnode : root.Within node) (children : List Member) :
    Fares setting root P (namespaceMember setting.source node children) :=
  .inl (exists_bind (exists_signatureOf hsource hroot hnode .nameSpace) fun _ => ⟨_, rfl⟩)

/-- The member of a declaration can be built, or else its own summary has too long a number. -/
theorem fares_declarationMember {P : Place → Prop} {kind : Kind}
    (hat : root.at? [] pre = some (node, before)) (hrole : node.role = .declaration kind)
    (hP : P (parent, pre)) (modifiers : List String) (children : List Member) :
    Fares setting root P
      (declarationMember setting.source before node kind modifiers children).outcome := by
  have hnode := Node.within_of_at? hat
  have hcomments := exists_docComments hsource hroot (fun _ => Node.within_of_mem_before hat) node
  have hbases : ∃ bases,
      (if kind.showsBaseTypes then baseTypes setting.source node else .ok []) = .ok bases := by
    split
    · exact exists_baseTypes hsource hroot hnode
    · exact ⟨[], rfl⟩
  simp only [declarationMember, Traced.outcome_bind, Traced.outcome_lift, Traced.outcome_pure]
  refine Fares.bind (.inl hbases) fun bases => ?_
  refine Fares.bind (.inl (exists_signatureOf hsource hroot hnode kind)) fun signature => ?_
  -- The summary is the one step that may fail.
  refine Fares.bind ?_ fun doc => ?_
  · obtain hdoc | ⟨hfault, hlong⟩ := docSummary_cases hcomments
    · exact .inl hdoc
    · exact .inr ⟨hfault, _, hP, node, before, kind, hat, hrole, hlong⟩
  · exact Fares.bind (.inl (exists_attributesOf hsource hroot hnode)) fun attributes => .ok _

/-- Looking at a declaration fails only by its own summary or by what its body leads to. -/
theorem fares_declaration {kind : Kind} (hat : root.at? [] pre = some (node, before))
    (hrole : node.role = .declaration kind)
    (hinner : Fares setting root (BodyLeads setting root pre kind node) (placeInner setting pre kind node)) :
    Fares setting root (LeadsTo setting root (pre, .looked parent))
      (placeNode setting pre parent before node) := by
  obtain ⟨modifiers, hmodifiers⟩ := exists_modifiersOf hsource hroot (Node.within_of_at? hat)
  simp only [placeNode_eq, hrole, hmodifiers]
  show Fares setting root _ (if isVisibleIn modifiers parent setting.contextual = true then _ else _)
  split_ifs with hvisible
  · -- The declaration is shown, so the walk leads to it and to what its body leads to.
    have hshown : Shown setting parent node := ⟨modifiers, hmodifiers, hvisible⟩
    have hown : LeadsTo setting root (pre, .looked parent) (parent, pre) :=
      (leadsTo_declaration hat hrole).2 ⟨hshown, .inl rfl⟩
    refine Fares.bind ?_ fun inner =>
      Fares.bind (fares_declarationMember hsource hroot hat hrole hown _ _) fun member => .ok _
    rw [placeContents]
    split_ifs with hnest
    · have hkind := (canNest_iff (Syntax.Role.kind_ne_nameSpace hrole)).1 hnest
      exact hinner.mono fun place hplace =>
        (leadsTo_declaration hat hrole).2 ⟨hshown, .inr ⟨hkind, hplace⟩⟩
    · exact .ok []
  · exact .ok []

/-- Every part of the walk fails only by a place that it leads to. -/
theorem fares_cases : PlacedCases root
    (fun pre parent before node => Fares setting root (LeadsTo setting root (pre, .looked parent))
      (placeNode setting pre parent before node))
    (fun pre parent node => Fares setting root (LeadsTo setting root (pre, .opened parent))
      (placeInside setting pre parent node))
    (fun pre parent container i => Fares setting root (ChildrenLead setting root pre parent container i)
      (placeChildren setting pre parent container i))
    (fun pre parent container i => Fares setting root (ChildrenLead setting root pre parent container i)
      (placeLater setting pre container i)) where
  nameSpace {pre parent before node} hat hrole ih := by
    simp only [placeNode_eq, hrole]
    refine Fares.bind ((fares_placeInner ih).mono fun place hplace => ?_) fun inner => ?_
    · exact (leadsTo_namespace hat hrole).2 (.inr hplace)
    · exact Fares.bind (fares_namespaceMember hsource hroot (Node.within_of_at? hat) _) fun member => .ok _
  declaration hat hrole ih := fares_declaration hsource hroot hat hrole (fares_placeInner ih)
  region {pre parent before node} hat hrole ih := by
    simp only [placeNode_eq, hrole]
    exact ih.mono fun place hplace => (leadsTo_transparent hat hrole).2 hplace
  passed {pre parent before node} hat hrole := by
    rw [placeNode_eq]
    obtain hrole | hrole := hrole <;> rw [hrole] <;> exact .ok []
  opened {pre parent before node} hat ih := by
    rw [placeInside_eq]
    refine ih.mono fun place hplace => ?_
    obtain ⟨i, -, hchild⟩ := hplace
    exact (leadsTo_opened hat).2 ⟨i, hchild⟩
  fromNil {pre parent container i} hdrop := by
    rw [placeChildren_nil hdrop]
    exact .ok []
  fromUnnamed {pre parent container node i} hchild hnamed ih := by
    rw [placeChildren_unnamed hchild hnamed]
    exact ih.mono fun place => (childrenLead_unnamed hchild hnamed place).1
  fromFile {pre parent siblings container node i} hat hchild hnamed hrole hindex hopen ih := by
    rw [placeChildren_file hchild hnamed hrole]
    refine Fares.bind (hopen.mono fun place hplace => ?_) fun inner => ?_
    · exact ⟨i, Nat.le_refl i, (childLeads_file hchild hnamed hindex).2 (.inr hplace)⟩
    refine Fares.bind (ih.mono fun place hplace => exists_ge_iff.2 (.inr hplace)) fun following => ?_
    have hnode := Node.within_of_at? (Node.at?_child hat hchild)
    exact Fares.bind (fares_namespaceMember hsource hroot hnode _) fun member => .ok _
  fromNode {pre parent siblings container node i} hat hchild hnamed hrole hlater hlook ih := by
    rw [placeChildren_node hchild hnamed hrole]
    refine Fares.bind (hlook.mono fun place hplace => ?_) fun first => ?_
    · exact ⟨i, Nat.le_refl i, (childLeads_before hchild hnamed hlater).2 hplace⟩
    exact Fares.bind (ih.mono fun place hplace => exists_ge_iff.2 (.inr hplace)) fun following => .ok _
  restNil {pre parent container i} hdrop := by
    rw [placeLater_nil hdrop]
    exact .ok []
  restUnnamed {pre parent container node i} hchild hnamed ih := by
    rw [placeLater_unnamed hchild hnamed]
    exact ih.mono fun place => (childrenLead_unnamed hchild hnamed place).1
  restNode {pre parent siblings container node f i} hat hchild hnamed hfile hlt hlook ih := by
    rw [placeLater_node hchild hnamed]
    refine Fares.bind (hlook.mono fun place hplace => ?_) fun first => ?_
    · exact ⟨i, Nat.le_refl i, (childLeads_following hchild hnamed hfile hlt).2 hplace⟩
    exact Fares.bind (ih.mono fun place hplace => exists_ge_iff.2 (.inr hplace)) fun following => .ok _

end Grounded

end Walk

/-- A walk that succeeds has not got to a summary with too long a number. -/
theorem not_overlongAt_of_reached {setting : Setting} {root : Node} {placed : List Placed}
    (h : placeTree setting root = .ok placed) {place : Place} (hplace : Reached setting root place) :
    ¬ OverlongAt setting root place.2 := by
  have hcov := covers_placeTree h
  -- The place is that of a member, which was built with its summary.
  have hpath : place.2 ∈ (placedPreorder placed).map Placed.path := by
    rw [← hcov.paths]
    exact List.mem_map_of_mem ((hcov.mem_iff place).2 hplace)
  obtain ⟨item, hitem, hpath⟩ := List.mem_map.1 hpath
  obtain ⟨node, before, hat, hbuilt⟩ := hcov.built item hitem
  rw [hpath] at hat
  rintro ⟨node', before', kind, hat', hrole, hlong⟩
  cases hat.symm.trans hat'
  obtain ⟨hspace, -⟩ | ⟨kind', modifiers, hrole', -, hmember⟩ := hbuilt
  · -- A namespace has no summary.
    rw [hrole] at hspace
    exact Syntax.Role.kind_ne_nameSpace hrole (Option.some.inj hspace)
  · simp only [declarationMember, Traced.outcome_bind, Traced.outcome_lift, Traced.outcome_pure,
      Outcome.except_bind_eq_ok] at hmember
    obtain ⟨bases, -, signature, -, doc, hdoc, -⟩ := hmember
    exact not_docSummary_of_overlong hlong hdoc

/-- The outline of a grounded tree of a text comes out if no summary that the walk gets to has too long
a number, and otherwise that is the fault. -/
theorem mapTree_cases (setting : Setting) (path : String) {root : Node} {cs : List Char}
    (hsource : Text.Utf8.decode setting.source = .ok cs) (hroot : root.Grounded setting.source) :
    ((∃ result, (mapTree setting path root).outcome = .ok result) ∧
        ∀ place, Reached setting root place → ¬ OverlongAt setting root place.2) ∨
      (∃ fault, (mapTree setting path root).outcome = .error (.tooManyDigits fault)) ∧
        ∃ place, Reached setting root place ∧ OverlongAt setting root place.2 := by
  have hfares := (fares_cases hsource hroot).openRoot none
  obtain ⟨placed, hplaced⟩ | ⟨⟨fault, hfault⟩, hplace⟩ := hfares
  · refine .inl ⟨⟨_, mapTree_of_placeTree hplaced path⟩, ?_⟩
    exact fun place => not_overlongAt_of_reached hplaced
  · refine .inr ⟨⟨fault, ?_⟩, hplace⟩
    simp only [mapTree, walkTree, Traced.outcome_bind, placeInside_erase setting [] none root, hfault]
    rfl

end ApiOutline.Outline
