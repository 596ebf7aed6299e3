import ApiOutline.Proofs.SafeWalk
import Mathlib.Data.List.Forall2

/-!
# Lines follow the outline

The members of an outline come from nodes whose paths increase, whatever member each is nested in
(`Covers.sorted`). Paths increase in the order in which the nodes of the tree are listed
(`pairwise_at?`), so where nodes start in that order the members do too. The line of a member is that of
the offset at which its node starts, and a line never decreases with the offset (`row_mono`).
-/

namespace ApiOutline.Syntax

open Text (Bytes)

/-! ## Rows -/

/-- A later offset has no fewer line feeds before it. -/
theorem row_mono (source : Bytes) {a b : Nat} (h : a ≤ b) : row source a ≤ row source b := by
  have hpart : (source.take a).Sublist (source.take b) := by
    rw [← Nat.min_eq_left h, ← List.take_take]
    exact List.take_sublist a (source.take b)
  exact hpart.count_le 10

/-- No offset has more line feeds before it than there are. -/
theorem row_le (source : Bytes) (offset : Nat) : row source offset ≤ source.count 10 :=
  (List.take_sublist offset source).count_le 10

/-! ## Paths and the list of nodes -/

/-- The nodes in a list of trees are those of each tree in turn. -/
theorem nodesIn_eq_flatMap (nodes : List Node) : nodesIn nodes = nodes.flatMap Node.nodes := by
  induction nodes with
  | nil => rfl
  | cons node nodes ih => rw [nodesIn, ih, List.flatMap_cons]

/-- The nodes of a tree are the tree and those below its children. -/
theorem Node.nodes_eq (node : Node) : node.nodes = node :: node.children.flatMap Node.nodes := by
  cases node
  rw [nodes, nodesIn_eq_flatMap]

/-- What holds of each node and every later one in the list of nodes holds of the nodes at two increasing
paths. -/
theorem Node.pairwise_at? {R : Node → Node → Prop} {root a b : Node} {p q : Path}
    {before before' left right : List Node} (h : root.nodes.Pairwise R)
    (hp : root.at? before p = some (a, left)) (hq : root.at? before' q = some (b, right))
    (hlt : p < q) : R a b := by
  induction p generalizing root q before before' with
  | nil =>
    -- The first path ends at the root, which stands before all that is below it.
    cases hp
    cases q with
    | nil => exact absurd hlt (List.lt_irrefl [])
    | cons j q =>
      rw [at?] at hq
      cases hchild : a.children[j]? with
      | none => simp [hchild] at hq
      | some child =>
        simp only [hchild] at hq
        rw [Node.nodes_eq, List.pairwise_cons] at h
        refine h.1 b (List.mem_flatMap.2 ⟨child, List.mem_of_getElem? hchild, ?_⟩)
        exact within_of_at? hq
  | cons i p ih =>
    cases q with
    | nil => exact absurd hlt (List.not_lt_nil _)
    | cons j q =>
      rw [at?] at hp hq
      rw [Node.nodes_eq, List.pairwise_cons, List.pairwise_flatMap] at h
      obtain ⟨-, hinside, hacross⟩ := h
      cases hchild : root.children[i]? with
      | none => simp [hchild] at hp
      | some child =>
        cases hother : root.children[j]? with
        | none => simp [hother] at hq
        | some other =>
          simp only [hchild] at hp
          simp only [hother] at hq
          obtain hij | ⟨rfl, hpq⟩ := List.cons_lt_cons_iff.1 hlt
          · -- The paths part here, and all of the first child stands before all of the second.
            obtain ⟨hi, rfl⟩ := List.getElem?_eq_some_iff.1 hchild
            obtain ⟨hj, rfl⟩ := List.getElem?_eq_some_iff.1 hother
            exact List.pairwise_iff_getElem.1 hacross i j hi hj hij a (within_of_at? hp) b
              (within_of_at? hq)
          · cases hchild.symm.trans hother
            exact ih (hinside child (List.mem_of_getElem? hchild)) hp hq hpq

end ApiOutline.Syntax

namespace ApiOutline.Outline

open Syntax (Node Path row)
open Text (Bytes)

variable {setting : Setting} {root : Node} {p : Path} {member : Member}

/-! ## Lines of members -/

/-- A member has the line of the node from which it is built. -/
theorem BuiltAt.line (h : BuiltAt setting root p member) :
    ∃ node before, root.at? [] p = some (node, before) ∧
      member.line = some (node.line setting.source : Int) := by
  obtain ⟨node, before, hat, ⟨-, hbuilt⟩ | ⟨kind, modifiers, -, -, hbuilt⟩⟩ := h
  · refine ⟨node, before, hat, ?_⟩
    obtain ⟨signature, -, hmember⟩ := Outcome.bind_eq_ok.1 hbuilt
    rw [← Except.ok.inj hmember]
  · refine ⟨node, before, hat, ?_⟩
    -- The line is set when all parts are read, whatever they are.
    simp only [declarationMember, Traced.outcome_bind, Traced.outcome_lift, Traced.outcome_pure,
      Outcome.except_bind_eq_ok] at hbuilt
    obtain ⟨bases, -, signature, -, doc, -, attributes, -, hmember⟩ := hbuilt
    rw [← Except.ok.inj hmember]

/-- Whether a member is built from a node, which stands at a path. -/
def DeclaredBy (setting : Setting) (root : Node) (place : Path × Node) (member : Member) : Prop :=
  BuiltAt setting root place.1 member ∧ ∃ before, root.at? [] place.1 = some (place.2, before)

/-- Lines follow the outline. Let the nodes of a tree start in the order in which they are listed. The members
of its outline, read in order at all depths, have as many declarations, at increasing paths, and each line is
one more than the number of line feeds before the declaration of its member; the lines never decrease, and lie
between one and one more than the number of line feeds in the source. -/
theorem lines_follow_outline (setting : Setting) (path : String) (root : Node) (file : FileMap)
    (horder : (root.nodes.map Node.start).Pairwise (· ≤ ·))
    (h : (mapTree setting path root).outcome = .ok (some file)) :
    ∃ (declared : List (Path × Node)) (lines : List Nat),
      List.Forall₂ (DeclaredBy setting root) declared (preorderOf file.members) ∧
        (declared.map Prod.fst).Pairwise (· < ·) ∧
        (preorderOf file.members).map Member.line = lines.map (fun line : Nat => some (line : Int)) ∧
        lines = declared.map (fun place => 1 + (setting.source.take place.2.start).count 10) ∧
        lines.Pairwise (· ≤ ·) ∧
        ∀ line ∈ lines, 1 ≤ line ∧ line ≤ 1 + setting.source.count 10 := by
  obtain ⟨placed, hplaced, hfile⟩ := exists_placeTree_of_mapTree h
  have hcov := covers_placeTree hplaced
  have hmembers : preorderOf file.members = (placedPreorder placed).map Placed.member := by
    split_ifs at hfile
    rw [hcov.members, (Option.some.inj hfile)]
  -- Each member of the placed outline is given the node at its path.
  have hline : ∀ item ∈ placedPreorder placed, ∃ node before,
      root.at? [] item.path = some (node, before) ∧
        item.member.line = some (node.line setting.source : Int) :=
    fun item hitem => (hcov.built item hitem).line
  choose! node before hat hline using hline
  have hpaths : (placedPreorder placed).Pairwise fun item later => item.path < later.path := by
    have hsorted := hcov.sorted
    rw [hcov.paths, List.pairwise_map] at hsorted
    exact hsorted
  -- Paths increase in the outline, and starts increase with paths.
  have hstarts : (placedPreorder placed).Pairwise fun item later =>
      (node item).start ≤ (node later).start := by
    refine hpaths.imp_of_mem fun {item later} hitem hlater hlt => ?_
    exact Node.pairwise_at? (List.pairwise_map.1 horder) (hat item hitem) (hat later hlater) hlt
  refine ⟨(placedPreorder placed).map fun item => (item.path, node item),
    (placedPreorder placed).map fun item => 1 + row setting.source (node item).start,
    ?_, ?_, ?_, ?_, ?_, ?_⟩
  · rw [hmembers, List.forall₂_map_left_iff, List.forall₂_map_right_iff, List.forall₂_same]
    exact fun item hitem => ⟨hcov.built item hitem, before item, hat item hitem⟩
  · rw [List.map_map, List.pairwise_map]
    exact hpaths
  · rw [hmembers, List.map_map, List.map_map]
    refine List.map_congr_left fun item hitem => ?_
    have hcast : ((1 + row setting.source (node item).start : Nat) : Int) =
        (node item).line setting.source := by
      rw [Nat.add_comm]
      rfl
    rw [Function.comp_apply, hline item hitem, Function.comp_apply, hcast]
  · rw [List.map_map]
    rfl
  · rw [List.pairwise_map]
    refine hstarts.imp fun hle => ?_
    exact Nat.add_le_add_left (Syntax.row_mono setting.source hle) 1
  · intro line hmem
    obtain ⟨item, -, rfl⟩ := List.mem_map.1 hmem
    have hle := Syntax.row_le setting.source (node item).start
    omega

/-- A source with four line feeds, two of them in a row. -/
def feedSource : Bytes :=
  Text.Utf8.ofString "\n#\n\nE\n"

/-- A tree with an enumeration inside a region, and a namespace for the rest of the file that takes in the class
after it. -/
def feedTree : Node :=
  { type := "compilation_unit", start := 0, stop := 6, children := [
    { type := "preproc_if", start := 1, stop := 4, children := [
      { type := "enum_declaration", start := 3, stop := 4 }] },
    { type := "file_scoped_namespace_declaration", start := 4, stop := 4 },
    { type := "class_declaration", start := 4, stop := 6, children := [
      { type := "declaration_list", start := 5, stop := 6, children := [
        { type := "method_declaration", start := 6, stop := 6 }] }] }] }

/-- The lines of this tree never decrease, though its members are nested differently. -/
theorem feedTree_lines : (feedTree.nodes.map Node.start).Pairwise (· ≤ ·) ∧
    ∃ file, (mapTree ⟨feedSource, false⟩ "A.cs" feedTree).outcome = .ok (some file) ∧
      (preorderOf file.members).map Member.kind = [.enumeration, .nameSpace, .classType, .method] ∧
      (preorderOf file.members).map Member.line = [some 3, some 4, some 4, some 5] ∧
      ∃ lines : List Nat, lines.Pairwise (· ≤ ·) ∧
        (preorderOf file.members).map Member.line = lines.map (fun line : Nat => some (line : Int)) := by
  have horder : (feedTree.nodes.map Node.start).Pairwise (· ≤ ·) := by decide
  refine ⟨horder, _, rfl, by decide, by decide, ?_⟩
  obtain ⟨-, lines, -, -, hlines, -, hsorted, -⟩ :=
    lines_follow_outline ⟨feedSource, false⟩ "A.cs" feedTree _ horder rfl
  exact ⟨lines, hsorted, hlines⟩

end ApiOutline.Outline
