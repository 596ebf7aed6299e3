import ApiOutline.Proofs.SafeWalk
import Mathlib.Data.List.Chain
import Mathlib.Data.List.Infix

/-!
# Whose documentation a comment is

The documentation of a node is found by going back through the named siblings before it. What is found is
described here without the search: the siblings that are looked at are the longest run of comments up to the
node in which each comment ends at most one row before what follows it (`LongestRun`), and those of them that
are documentation comments are what is given.

A run never reaches beyond a named sibling that is no comment. So the run of a later sibling stands after
such a node and the run of the node itself before it, and no comment is in both (`LongestRun.disjoint`).
Members are built from named nodes that are no comments, so a comment documents one member at most. For nodes
without a name, such as a comma, this fails: the node after the comma has the same run.
-/

namespace ApiOutline.Syntax

variable {root node container : Node} {before : List Node} {p q pre : Path} {i j : Nat}

/-- Whether every node of a tree covers a text. -/
def Node.Legible (source : Text.Bytes) (root : Node) : Prop :=
  ∀ node, root.Within node → ∃ text, node.text source = .ok text

instance (source : Text.Bytes) (root : Node) : Decidable (root.Legible source) :=
  decidable_of_iff (∀ node ∈ root.nodes, (node.text source).toOption.isSome = true) <| by
    refine forall₂_congr fun node _ => ?_
    cases node.text source <;> simp [Except.toOption]

/-- The named siblings before the node at a path, in source order, each with its path. -/
def Node.elders (root : Node) (p : Path) : List (Path × Node) :=
  match p.getLast?, root.at? [] p.dropLast with
  | some j, some (container, _) =>
    ((container.children.take j).zipIdx.filter (·.1.named)).map fun item =>
      (p.dropLast ++ [item.2], item.1)
  | _, _ => []

namespace Node

/-- The siblings before a child are those of the first children that are named. -/
theorem elders_concat (hat : root.at? [] pre = some (container, before)) (j : Nat) :
    root.elders (pre ++ [j]) =
      ((container.children.take j).zipIdx.filter (·.1.named)).map fun item =>
        (pre ++ [item.2], item.1) := by
  simp [elders, hat]

/-- Without their paths, the siblings before a node are those in which its comments are found. -/
theorem elders_nodes (hat : root.at? [] p = some (node, before)) :
    (root.elders p).reverse.map Prod.snd = before := by
  obtain rfl | ⟨pre, j, rfl⟩ := p.eq_nil_or_concat'
  · cases hat
    rfl
  · obtain ⟨container, siblings, hcontainer, -, rfl⟩ := exists_container hat
    -- Positions do not matter for what the filter keeps.
    have hnodes : ∀ nodes : List Node,
        (nodes.zipIdx.filter (·.1.named)).map Prod.fst = nodes.filter (·.named) := by
      intro nodes
      conv_rhs => rw [← List.zipIdx_map_fst 0 nodes, List.filter_map]
      rfl
    rw [elders_concat hcontainer, List.map_reverse, List.map_map, ← hnodes]
    rfl

/-- A sibling before a node is a named one at an earlier position. -/
theorem mem_elders_concat (hat : root.at? [] pre = some (container, before)) {item : Path × Node} :
    item ∈ root.elders (pre ++ [j]) ↔
      ∃ i < j, item.1 = pre ++ [i] ∧ container.children[i]? = some item.2 ∧ item.2.named = true := by
  obtain ⟨path, sibling⟩ := item
  simp only [elders_concat hat, List.mem_map, List.mem_filter, List.mem_zipIdx_iff_getElem?, Prod.exists,
    Prod.mk.injEq, List.getElem?_take]
  constructor
  · rintro ⟨other, i, ⟨hget, hnamed⟩, rfl, rfl⟩
    split_ifs at hget with hlt
    exact ⟨i, hlt, rfl, hget, hnamed⟩
  · rintro ⟨i, hlt, rfl, hget, hnamed⟩
    exact ⟨sibling, i, ⟨by rw [if_pos hlt, hget], hnamed⟩, rfl, rfl⟩

/-- Siblings come in document order. -/
theorem elders_increasing (root : Node) (p : Path) :
    (root.elders p).Pairwise fun item other => item.1 < other.1 := by
  -- Positions increase along a list, and paths with the same parent compare by them.
  have hpositions : ∀ nodes : List Node, nodes.zipIdx.Pairwise fun item other => item.2 < other.2 := by
    intro nodes
    have hrange : (List.range' 0 nodes.length).Pairwise (· < ·) := List.pairwise_lt_range'
    rwa [← List.zipIdx_map_snd, List.pairwise_map] at hrange
  unfold elders
  split
  · refine List.pairwise_map.2 (((hpositions _).filter _).imp fun hlt => ?_)
    exact List.append_left_lt (List.cons_lt_cons_iff.2 (.inl hlt))
  · exact .nil

end Node

end ApiOutline.Syntax

namespace ApiOutline.Outline

open Syntax (Node Path)
open Text (Bytes)

variable {source : Bytes} {root node : Node} {siblings run : List (Path × Node)}

/-! ## Runs of comments -/

/-- Whether nodes in source order are a run of comments up to a node: each ends at most one row before what
follows it, and the last one before the node. -/
structure IsRun (source : Bytes) (node : Node) (run : List Node) : Prop where
  comments : ∀ comment ∈ run, comment.isOf "comment" = true
  near : (run ++ [node]).IsChain fun earlier later =>
    later.startRow source ≤ earlier.stopRow source + 1

/-- Whether the last of the siblings before a node are the longest run of comments up to it. -/
structure LongestRun (source : Bytes) (siblings : List (Path × Node)) (node : Node)
    (run : List (Path × Node)) : Prop where
  suffix : run <:+ siblings
  isRun : IsRun source node (run.map Prod.snd)
  longest : ∀ other, other <:+ siblings → IsRun source node (other.map Prod.snd) →
    other.length ≤ run.length

/-- There is only one longest run. -/
theorem LongestRun.unique {other : List (Path × Node)} (h : LongestRun source siblings node run)
    (h' : LongestRun source siblings node other) : other = run := by
  have hle := h.longest other h'.suffix h'.isRun
  have hge := h'.longest run h.suffix h.isRun
  exact (List.suffix_of_suffix_length_le h'.suffix h.suffix hle).eq_of_length (Nat.le_antisymm hle hge)

/-- A run with a comment after it is a run up to that comment, which is near the node. -/
theorem isRun_concat {run : List Node} {comment : Node} :
    IsRun source node (run ++ [comment]) ↔ IsRun source comment run ∧
      comment.isOf "comment" = true ∧ node.startRow source ≤ comment.stopRow source + 1 := by
  have hchain : (run ++ [comment] ++ [node]).IsChain (fun earlier later =>
        later.startRow source ≤ earlier.stopRow source + 1) ↔
      (run ++ [comment]).IsChain (fun earlier later =>
        later.startRow source ≤ earlier.stopRow source + 1) ∧
          node.startRow source ≤ comment.stopRow source + 1 := by
    rw [List.isChain_append]
    simp
  constructor
  · intro h
    obtain ⟨hcomments, hcomment⟩ := List.forall_mem_append.1 h.comments
    obtain ⟨hnear, hrow⟩ := hchain.1 h.near
    exact ⟨⟨hcomments, hnear⟩, hcomment comment (by simp), hrow⟩
  · rintro ⟨h, hcomment, hrow⟩
    exact ⟨List.forall_mem_append.2 ⟨h.comments, by simpa using hcomment⟩, hchain.2 ⟨h.near, hrow⟩⟩

/-- No comments are a run. -/
theorem isRun_nil : IsRun source node [] where
  comments := by simp
  near := .singleton _

/-- The siblings at which the search for documentation looks, nearest first: those of `docCommentsFrom`, with
their paths. -/
def runFrom (source : Bytes) (row : Nat) : List (Path × Node) → List (Path × Node)
  | [] => []
  | sibling :: before =>
    if !sibling.2.isOf "comment" || row - sibling.2.stopRow source > 1 then []
    else sibling :: runFrom source (sibling.2.startRow source) before

/-- The search stops at a sibling that is no comment or is too far away. -/
theorem stops_iff {sibling : Node} {row : Nat} :
    (!sibling.isOf "comment" || row - sibling.stopRow source > 1) = true ↔
      ¬ (sibling.isOf "comment" = true ∧ row ≤ sibling.stopRow source + 1) := by
  cases sibling.isOf "comment" with
  | false => simp
  | true =>
    simp only [Bool.not_true, Bool.false_or, decide_eq_true_eq, true_and]
    omega

/-- What the search looks at are the nearest siblings. -/
theorem runFrom_prefix (row : Nat) (before : List (Path × Node)) :
    runFrom source row before <+: before := by
  induction before generalizing row with
  | nil => exact List.prefix_refl []
  | cons sibling before ih =>
    rw [runFrom]
    split
    · exact List.nil_prefix
    · exact List.cons_prefix_cons.2 ⟨rfl, ih _⟩

/-- What the search looks at is a run. -/
theorem isRun_runFrom (node : Node) (before : List (Path × Node)) :
    IsRun source node ((runFrom source (node.startRow source) before).reverse.map Prod.snd) := by
  induction before generalizing node with
  | nil => exact isRun_nil
  | cons sibling before ih =>
    rw [runFrom]
    split
    · exact isRun_nil
    · next hgoes =>
      rw [stops_iff, not_not] at hgoes
      rw [List.reverse_cons, List.map_append]
      exact isRun_concat.2 ⟨ih sibling.2, hgoes⟩

/-- Every run of the nearest siblings is looked at. -/
theorem prefix_runFrom (node : Node) {other before : List (Path × Node)} (hother : other <+: before)
    (hrun : IsRun source node (other.reverse.map Prod.snd)) :
    other <+: runFrom source (node.startRow source) before := by
  induction before generalizing node other with
  | nil => exact hother
  | cons sibling before ih =>
    cases other with
    | nil => exact List.nil_prefix
    | cons first other =>
      -- The nearest sibling is in the run, so it is a comment near the node, and the search does not stop
      -- there.
      obtain ⟨rfl, hlater⟩ := List.cons_prefix_cons.1 hother
      rw [List.reverse_cons, List.map_append] at hrun
      obtain ⟨hrest, hgoes⟩ := isRun_concat.1 hrun
      rw [runFrom, if_neg (by rw [stops_iff, not_not]; exact hgoes)]
      exact List.cons_prefix_cons.2 ⟨rfl, ih first.2 hlater hrest⟩

/-- The search looks at the longest run. -/
theorem longestRun_runFrom (node : Node) (siblings : List (Path × Node)) :
    LongestRun source siblings node
      (runFrom source (node.startRow source) siblings.reverse).reverse where
  suffix := by
    rw [← List.reverse_reverse siblings, List.reverse_suffix, List.reverse_reverse]
    exact runFrom_prefix _ _
  isRun := isRun_runFrom node siblings.reverse
  longest := by
    intro other hother hrun
    rw [← List.reverse_reverse other] at hrun
    have hlooked := prefix_runFrom node (List.reverse_prefix.2 hother) hrun
    simpa using hlooked.length_le

/-- What is found are the documentation comments among the siblings at which the search looks. -/
theorem docCommentsFrom_eq (row : Nat) (before : List (Path × Node))
    (htexts : ∀ item ∈ before, ∃ text, item.2.text source = .ok text) :
    ∃ texts : List (List Char),
      (runFrom source row before).reverse.map (fun item => item.2.text source) = texts.map .ok ∧
      docCommentsFrom source row (before.map Prod.snd) = .ok (texts.filter Doc.isDocComment) := by
  induction before generalizing row with
  | nil => exact ⟨[], rfl, rfl⟩
  | cons sibling before ih =>
    obtain ⟨⟨text, htext⟩, htexts⟩ := List.forall_mem_cons.1 htexts
    rw [List.map_cons, docCommentsFrom, runFrom]
    split
    · exact ⟨[], rfl, rfl⟩
    · obtain ⟨texts, hrun, hfound⟩ := ih (sibling.2.startRow source) htexts
      refine ⟨texts ++ [text], ?_, ?_⟩
      · rw [List.reverse_cons, List.map_append, hrun, List.map_append]
        exact congrArg _ (congrArg (fun x => [x]) htext)
      · rw [htext, hfound, List.filter_append]
        cases hdoc : Doc.isDocComment text <;>
          simp [Outcome.mapError_ok, hdoc, bind, Except.bind, pure, Except.pure]

/-! ## Runs of different nodes -/

section Disjoint

variable {node' : Node} {before before' : List Node} {p q : Path} {run' : List (Path × Node)}

/-- A sibling before a node has the same parent. -/
theorem dropLast_of_mem_elders (hat : root.at? [] p = some (node, before)) {item : Path × Node}
    (hitem : item ∈ root.elders p) : p ≠ [] ∧ item.1.dropLast = p.dropLast ∧ item.1 < p := by
  obtain rfl | ⟨pre, j, rfl⟩ := p.eq_nil_or_concat'
  · cases hitem
  · obtain ⟨container, siblings, hcontainer, -, -⟩ := Node.exists_container hat
    obtain ⟨i, hlt, hpath, -, -⟩ := (Node.mem_elders_concat hcontainer).1 hitem
    rw [hpath]
    refine ⟨by simp, by simp, ?_⟩
    exact List.append_left_lt (List.cons_lt_cons_iff.2 (.inl hlt))

/-- A named node is a sibling before every later one with the same parent. -/
theorem mem_elders (hp : root.at? [] p = some (node, before)) (hq : root.at? [] q = some (node', before'))
    (hparent : p.dropLast = q.dropLast) (hlt : p < q) (hne : p ≠ []) (hnamed : node.named = true) :
    (p, node) ∈ root.elders q := by
  obtain rfl | ⟨pre, i, rfl⟩ := p.eq_nil_or_concat'
  · exact absurd rfl hne
  obtain rfl | ⟨pre', j, rfl⟩ := q.eq_nil_or_concat'
  · exact absurd hlt (List.not_lt_nil _)
  simp only [List.dropLast_concat] at hparent
  subst hparent
  obtain ⟨container, siblings, hcontainer, hchild, -⟩ := Node.exists_container hp
  -- In the other order, or at the same position, the first path would not be smaller.
  have hij : i < j := by
    by_contra hge
    obtain rfl | hji := Nat.eq_or_lt_of_le (Nat.le_of_not_lt hge)
    · exact List.lt_irrefl _ hlt
    · exact List.lt_irrefl _ (List.lt_trans hlt (List.append_left_lt (List.cons_lt_cons_iff.2 (.inl hji))))
  exact (Node.mem_elders_concat hcontainer).2 ⟨i, hij, rfl, hchild, hnamed⟩

/-- No comment is in the run of a node that is no comment and also in that of a later one, unless they are
siblings and the first one has no name. -/
theorem LongestRun.disjoint (hp : root.at? [] p = some (node, before))
    (hq : root.at? [] q = some (node', before')) (hlt : p < q) (hcomment : node.isOf "comment" = false)
    (hnamed : p.dropLast = q.dropLast → node.named = true)
    (hrun : LongestRun source (root.elders p) node run)
    (hrun' : LongestRun source (root.elders q) node' run') :
    (run.map Prod.fst).Disjoint (run'.map Prod.fst) := by
  intro path hpath hpath'
  obtain ⟨item, hitem, rfl⟩ := List.mem_map.1 hpath
  obtain ⟨other, hother, heq⟩ := List.mem_map.1 hpath'
  obtain ⟨hne, hparent, hbefore⟩ := dropLast_of_mem_elders hp (hrun.suffix.subset hitem)
  obtain ⟨-, hparent', -⟩ := dropLast_of_mem_elders hq (hrun'.suffix.subset hother)
  have hsame : p.dropLast = q.dropLast := by rw [← hparent, ← hparent', heq]
  -- The first node stands between its own run and the later one.
  obtain ⟨front, hfront⟩ := hrun'.suffix
  have helder := mem_elders hp hq hsame hlt hne (hnamed hsame)
  have hsorted := Node.elders_increasing root q
  rw [← hfront] at helder hsorted
  obtain hmem | hmem := List.mem_append.1 helder
  · -- In front of the later run, the first node would come before a comment that precedes it.
    have hafter := (List.pairwise_append.1 hsorted).2.2 _ hmem other hother
    rw [heq] at hafter
    exact List.lt_irrefl _ (List.lt_trans hbefore hafter)
  · have hkind := hrun'.isRun.comments node (List.mem_map.2 ⟨_, hmem, rfl⟩)
    rw [hcomment] at hkind
    cases hkind

end Disjoint

/-! ## Members -/

/-- What is looked at or mapped is a named node, and what is mapped is a declaration or a namespace. -/
def NamedAt (root : Node) (place : Path × Stage) : Prop :=
  match place.2 with
  | .opened _ => True
  | .looked _ => ∃ node before, root.at? [] place.1 = some (node, before) ∧ node.named = true
  | .mapped _ => ∃ node before, root.at? [] place.1 = some (node, before) ∧ node.named = true ∧
      node.role.kind? ≠ none

theorem NamedAt.step {setting : Setting} {a b : Path × Stage} (h : NamedAt root a)
    (hstep : Step setting root a b) : NamedAt root b := by
  -- Mapped stages come from a namespace or a declaration, and those that are looked at from named children.
  cases hstep with
  | child hat hchild hnamed _ => exact ⟨_, _, Node.at?_child hat hchild, hnamed⟩
  | fileMapped hat hfile =>
    obtain ⟨node, hchild, hnamed, hrole⟩ := fileIndex?_eq_some hfile
    exact ⟨_, _, Node.at?_child hat hchild, hnamed, by simp [hrole, Syntax.Role.kind?]⟩
  | fileOpened _ _ => trivial
  | following hat _ _ hchild hnamed => exact ⟨_, _, Node.at?_child hat hchild, hnamed⟩
  | namespaceMapped hat hrole =>
    obtain ⟨node, before, hat', hnamed⟩ := h
    cases hat.symm.trans hat'
    exact ⟨_, _, hat, hnamed, by simp [hrole, Syntax.Role.kind?]⟩
  | namespaceOpened _ _ _ => trivial
  | declarationMapped hat hrole _ =>
    obtain ⟨node, before, hat', hnamed⟩ := h
    cases hat.symm.trans hat'
    exact ⟨_, _, hat, hnamed, by simp [hrole, Syntax.Role.kind?]⟩
  | declarationOpened _ _ _ _ _ => trivial
  | transparent _ _ => trivial

/-- Members are built from named nodes that are no comments. -/
theorem named_of_reached {setting : Setting} {place : Place} (h : Reached setting root place) :
    ∃ node before, root.at? [] place.2 = some (node, before) ∧ node.named = true ∧
      node.isOf "comment" = false := by
  have hnamed : ∀ stage, Relation.ReflTransGen (Step setting root) ([], .opened none) stage →
      NamedAt root stage := by
    intro stage hway
    induction hway with
    | refl => trivial
    | tail _ hstep ih => exact ih.step hstep
  obtain ⟨node, before, hat, hnamed, hkind⟩ := hnamed _ h
  refine ⟨node, before, hat, hnamed, Node.isOf_eq_false fun hrole => hkind ?_⟩
  rw [hrole]
  decide

/-- Whether `run` is where the documentation of the node at a path is looked for. -/
def CommentsAt (source : Bytes) (root : Node) (p : Path) (run : List (Path × Node)) : Prop :=
  ∃ node before, root.at? [] p = some (node, before) ∧ LongestRun source (root.elders p) node run

/-- **Each documentation comment belongs to one member.** In a tree whose texts can be read, the documentation
comments of every node are, in source order, those in the longest run of comments directly before it, in
which each ends at most one row before what follows. No comment is in the runs of two nodes if the first one
is no comment, and is named in case they are siblings. In particular no comment is in the runs of two members
of the outline. -/
theorem comments_document_one_member (source : Bytes) (root : Node) (htexts : root.Legible source) :
    (∀ p node before, root.at? [] p = some (node, before) →
      ∃ (run : List (Path × Node)) (texts : List (List Char)), CommentsAt source root p run ∧
        (∀ other, CommentsAt source root p other → other = run) ∧
        run.map (fun item => item.2.text source) = texts.map .ok ∧
        docComments source before node = .ok (texts.filter Doc.isDocComment)) ∧
    (∀ p q node before run run', root.at? [] p = some (node, before) → p < q →
      node.isOf "comment" = false → (p.dropLast = q.dropLast → node.named = true) →
      CommentsAt source root p run → CommentsAt source root q run' →
      (run.map Prod.fst).Disjoint (run'.map Prod.fst)) ∧
    ∀ contextual path result, (mapTree ⟨source, contextual⟩ path root).outcome = .ok result →
      ∃ placed, placeTree ⟨source, contextual⟩ root = .ok placed ∧
        result = (if placed.isEmpty then none else some ⟨path, membersOf placed⟩) ∧
        (placedPreorder placed).Pairwise fun item other => ∀ run run',
          CommentsAt source root item.path run → CommentsAt source root other.path run' →
          (run.map Prod.fst).Disjoint (run'.map Prod.fst) := by
  have hapart : ∀ p q node before run run', root.at? [] p = some (node, before) → p < q →
      node.isOf "comment" = false → (p.dropLast = q.dropLast → node.named = true) →
      CommentsAt source root p run → CommentsAt source root q run' →
      (run.map Prod.fst).Disjoint (run'.map Prod.fst) := by
    rintro p q node before run run' hat hlt hcomment hnamed ⟨_, _, hp, hrun⟩ ⟨_, _, hq, hrun'⟩
    cases hat.symm.trans hp
    exact hrun.disjoint hp hq hlt hcomment hnamed hrun'
  refine ⟨fun p node before hat => ?_, hapart, fun contextual path result h => ?_⟩
  · -- The siblings are nodes of the tree, so their texts can be read and the search goes through.
    have hsiblings : ∀ item ∈ (root.elders p).reverse, ∃ text, item.2.text source = .ok text := by
      intro item hitem
      have hbefore : item.2 ∈ before := by
        rw [← Node.elders_nodes hat]
        exact List.mem_map_of_mem hitem
      exact htexts _ (Node.within_of_mem_before hat hbefore)
    obtain ⟨texts, hrun, hfound⟩ := docCommentsFrom_eq (node.startRow source) _ hsiblings
    rw [Node.elders_nodes hat] at hfound
    refine ⟨_, texts, ⟨node, before, hat, longestRun_runFrom node _⟩, ?_, hrun, hfound⟩
    rintro other ⟨_, _, hat', hother⟩
    cases hat.symm.trans hat'
    exact (longestRun_runFrom node _).unique hother
  · obtain ⟨placed, hplaced, hresult⟩ := exists_placeTree_of_mapTree h
    have hcov := covers_placeTree hplaced
    refine ⟨placed, hplaced, hresult, ?_⟩
    -- The paths of the members are increasing, and each is that of a reached place.
    have hsorted := hcov.sorted
    rw [hcov.paths, List.pairwise_map] at hsorted
    refine hsorted.imp_of_mem fun {item other} hitem _ hlt run run' hrun hrun' => ?_
    have hpath : item.path ∈ (placesOf none placed).map Prod.snd := by
      rw [hcov.paths]
      exact List.mem_map_of_mem hitem
    obtain ⟨place, hplace, hpath⟩ := List.mem_map.1 hpath
    obtain ⟨node, before, hat, hnamed, hcomment⟩ := named_of_reached ((hcov.mem_iff place).1 hplace)
    rw [hpath] at hat
    exact hapart _ _ node before run run' hat hlt hcomment (fun _ => hnamed) hrun hrun'

/-- Comments of both kinds before a directive and before two classes. -/
def noticeSource : Bytes :=
  Text.Utf8.ofString "// a\n/// b\nu\n// c\nC\n\n// d\nD"

/-- The tree of these. -/
def noticeTree : Node :=
  { type := "compilation_unit", start := 0, stop := 27, children := [
    { type := "comment", start := 0, stop := 4 },
    { type := "comment", start := 5, stop := 10 },
    { type := "using_directive", start := 11, stop := 12 },
    { type := "comment", start := 13, stop := 17 },
    { type := "class_declaration", start := 18, stop := 19 },
    { type := "comment", start := 21, stop := 25 },
    { type := "class_declaration", start := 26, stop := 27 }] }

/-- The directive has both comments before it in its run and one of them as its documentation, and the two
classes have no comment in common. -/
theorem noticeTree_comments : noticeTree.Legible noticeSource ∧
    (∃ run node before, noticeTree.at? [] [2] = some (node, before) ∧
      CommentsAt noticeSource noticeTree [2] run ∧ run.map Prod.fst = [[0], [1]] ∧
      docComments noticeSource before node = .ok ["/// b".toList]) ∧
    ∃ placed, placeTree ⟨noticeSource, false⟩ noticeTree = .ok placed ∧
      (placedPreorder placed).map Placed.path = [[4], [6]] ∧
      (placedPreorder placed).Pairwise fun item other => ∀ run run',
        CommentsAt noticeSource noticeTree item.path run →
        CommentsAt noticeSource noticeTree other.path run' →
        (run.map Prod.fst).Disjoint (run'.map Prod.fst) := by
  have hlegible : noticeTree.Legible noticeSource := by decide +kernel
  obtain ⟨hexact, -, hmembers⟩ := comments_document_one_member noticeSource noticeTree hlegible
  obtain ⟨run, texts, hrun, honly, -, -⟩ := hexact [2] _ _ rfl
  obtain ⟨placed, hplaced, -, hapart⟩ := hmembers false "A.cs" _ rfl
  refine ⟨hlegible, ⟨run, _, _, rfl, hrun, ?_, by rfl⟩, placed, hplaced, ?_, hapart⟩
  · -- There is only one longest run, so it can be computed by the search.
    rw [← honly _ ⟨_, _, rfl, longestRun_runFrom _ _⟩]
    decide +kernel
  · cases hplaced
    rfl

/-- A comment, a comma and an entry of a list. -/
def commaSource : Bytes :=
  Text.Utf8.ofString "///\n,B"

/-- The tree of these, in which the comma has no name. -/
def commaTree : Node :=
  { type := "enum_member_declaration_list", start := 0, stop := 6, children := [
    { type := "comment", start := 0, stop := 3 },
    { type := ",", start := 4, stop := 5, named := false },
    { type := "enum_member_declaration", start := 5, stop := 6 }] }

/-- The comma and the entry after it, which are no comments, have the same comment before them. -/
theorem comma_shares_comment : commaTree.Legible commaSource ∧
    ∃ run comma entry before before', commaTree.at? [] [1] = some (comma, before) ∧
      commaTree.at? [] [2] = some (entry, before') ∧
      comma.isOf "comment" = false ∧ entry.isOf "comment" = false ∧
      CommentsAt commaSource commaTree [1] run ∧ CommentsAt commaSource commaTree [2] run ∧
      run.map Prod.fst = [[0]] ∧
      docComments commaSource before comma = .ok ["///".toList] ∧
      docComments commaSource before' entry = .ok ["///".toList] := by
  refine ⟨by decide +kernel, _, _, _, _, _, rfl, rfl, rfl, rfl,
    ⟨_, _, rfl, longestRun_runFrom _ _⟩, ⟨_, _, rfl, longestRun_runFrom _ _⟩, ?_, by rfl, by rfl⟩
  decide +kernel

end ApiOutline.Outline
