import ApiOutline.Proofs.Utf8Slices
import ApiOutline.Syntax.Node
import Mathlib.Data.List.Basic

/-!
# The trees of a parser

Nothing is known of a parser but what it promises of its trees. A tree is grounded in its source if its
nodes start and stop between characters and its base types with arguments name a type
(`Node.Grounded`). And the report of errors that comes with each node covers the faulty nodes that the
tree shows (`Node.ReportsFaults`). That it covers nothing else is more than a parser promises
(`Node.ReportsOnlyFaults`): a name that was made up is not marked.

`parseSample` is a parser that keeps these promises on every text.
-/

namespace ApiOutline.Syntax

open Text (Bytes)
open Text.Utf8 (IsBoundary)

mutual

/-- The nodes of a tree, in document order. -/
def Node.nodes : Node → List Node
  | ⟨type, start, stop, field, named, missing, hasError, children⟩ =>
    ⟨type, start, stop, field, named, missing, hasError, children⟩ :: nodesIn children

/-- The nodes of several trees. -/
def nodesIn : List Node → List Node
  | [] => []
  | node :: nodes => node.nodes ++ nodesIn nodes

end

/-- Whether a node is somewhere in the tree of `root`. -/
def Node.Within (root node : Node) : Prop :=
  node ∈ root.nodes

variable {root node : Node}

/-- The nodes of several trees are those of each. -/
theorem mem_nodesIn {nodes : List Node} : node ∈ nodesIn nodes ↔ ∃ tree ∈ nodes, tree.Within node := by
  induction nodes with
  | nil => simp [nodesIn]
  | cons tree nodes ih => simp [nodesIn, ih, Node.Within]

/-- The nodes of a tree are its root and the nodes of the trees below. -/
theorem Node.within_iff :
    root.Within node ↔ node = root ∨ ∃ child ∈ root.children, child.Within node := by
  cases root
  rw [Within, nodes, List.mem_cons, mem_nodesIn]

/-- A tree is in itself. -/
theorem Node.within_self (root : Node) : root.Within root :=
  within_iff.2 (.inl rfl)

/-- What is at a path of a tree is in the tree. -/
theorem Node.within_of_at? {p : Path} {before siblings : List Node}
    (h : root.at? before p = some (node, siblings)) : root.Within node := by
  induction p generalizing root before with
  | nil =>
    cases h
    exact within_self _
  | cons i p ih =>
    rw [at?] at h
    cases hchild : root.children[i]? with
    | none => simp [hchild] at h
    | some child =>
      simp only [hchild] at h
      exact within_iff.2 (.inr ⟨child, List.mem_of_getElem? hchild, ih h⟩)

-- Along the tree of the root: what is below a node of a tree below is below a node of the tree.
mutual

/-- The children of a node are in the tree with it. -/
theorem Node.Within.child {inner : Node} : ∀ {root : Node}, root.Within node →
    inner ∈ node.children → root.Within inner
  | ⟨type, start, stop, field, named, missing, hasError, children⟩, h, hinner => by
    rw [Node.within_iff] at h ⊢
    obtain rfl | hbelow := h
    · exact .inr ⟨inner, hinner, inner.within_self⟩
    · exact .inr (exists_within_child hbelow hinner)

/-- The same for several trees. -/
theorem exists_within_child {inner : Node} : ∀ {nodes : List Node},
    (∃ tree ∈ nodes, tree.Within node) → inner ∈ node.children → ∃ tree ∈ nodes, tree.Within inner
  | [], h, _ => by simp at h
  | tree :: nodes, h, hinner => by
    simp only [List.mem_cons, exists_eq_or_imp] at h ⊢
    obtain h | h := h
    · exact .inl (h.child hinner)
    · exact .inr (exists_within_child h hinner)

end

/-- The siblings before a node are in the tree. -/
theorem Node.Within.before {i : Nat} (h : root.Within node) :
    ∀ sibling ∈ ((node.children.take i).filter (·.named)).reverse, root.Within sibling := by
  intro sibling hsibling
  rw [List.mem_reverse] at hsibling
  exact h.child (List.mem_of_mem_take (List.mem_of_mem_filter hsibling))

/-! ## What a parser promises -/

/-- What a parser promises of where its nodes are. -/
structure Node.Grounded (source : Bytes) (root : Node) : Prop where
  /-- Nodes start and stop between characters. -/
  bounded : ∀ node, root.Within node → IsBoundary source node.start ∧ IsBoundary source node.stop
  /-- A base type with arguments has a child for its type, or at least one that carries structure. -/
  based : ∀ node, root.Within node → node.isOf "primary_constructor_base_type" = true →
    ∃ child ∈ node.children, child.fills "type" = true ∨ child.named = true

/-- Whether a tree is grounded can be computed, node by node. -/
instance (source : Bytes) (root : Node) : Decidable (root.Grounded source) :=
  decidable_of_iff
    ((∀ node ∈ root.nodes, IsBoundary source node.start ∧ IsBoundary source node.stop) ∧
      ∀ node ∈ root.nodes, node.isOf "primary_constructor_base_type" = true →
        ∃ child ∈ node.children, child.fills "type" = true ∨ child.named = true)
    ⟨fun h => ⟨h.1, h.2⟩, fun h => ⟨h.bounded, h.based⟩⟩

/-- What a parser promises of its reports: there is an error at every node above a faulty one. It may
report more, where a part that the source lacks was made up and the tree does not show it. -/
def Node.ReportsFaults (root : Node) : Prop :=
  ∀ node, root.Within node → (∃ inner, node.Within inner ∧ inner.isFaulty = true) →
    node.hasError = true

/-- Whether a parser reports the faulty nodes of a tree and no other errors. -/
def Node.ReportsOnlyFaults (root : Node) : Prop :=
  ∀ node, root.Within node →
    (node.hasError = true ↔ ∃ inner, node.Within inner ∧ inner.isFaulty = true)

/-- Whether all faults are reported can be computed. -/
instance (root : Node) : Decidable root.ReportsFaults :=
  inferInstanceAs (Decidable (∀ node ∈ root.nodes,
    (∃ inner ∈ node.nodes, inner.isFaulty = true) → node.hasError = true))

/-- Whether only faults are reported can be computed. -/
instance (root : Node) : Decidable root.ReportsOnlyFaults :=
  inferInstanceAs (Decidable (∀ node ∈ root.nodes,
    (node.hasError = true ↔ ∃ inner ∈ node.nodes, inner.isFaulty = true)))

/-! ## A parser of a few sources -/

/-- The tree of `class é { }`. -/
def classTree : Node :=
  { type := "compilation_unit", start := 0, stop := 12, children := [
    { type := "class_declaration", start := 0, stop := 12, children := [
      { type := "class", start := 0, stop := 5, named := false },
      { type := "identifier", start := 6, stop := 8, field := some "name" },
      { type := "declaration_list", start := 9, stop := 12, field := some "body", children := [
        { type := "\x7b", start := 9, stop := 10, named := false },
        { type := "\x7d", start := 11, stop := 12, named := false }] }] }] }

/-- The tree of `class 1A { }`, whose name starts with a digit that is read as an error. -/
def misnamedTree : Node :=
  { type := "compilation_unit", start := 0, stop := 12, hasError := true, children := [
    { type := "class_declaration", start := 0, stop := 12, hasError := true, children := [
      { type := "class", start := 0, stop := 5, named := false },
      { type := "ERROR", start := 6, stop := 7, hasError := true, children := [
        { type := "integer_literal", start := 6, stop := 7 }] },
      { type := "identifier", start := 7, stop := 8, field := some "name" },
      { type := "declaration_list", start := 9, stop := 12, field := some "body", children := [
        { type := "\x7b", start := 9, stop := 10, named := false },
        { type := "\x7d", start := 11, stop := 12, named := false }] }] }] }

/-- The tree of `enum { A }`. The parser makes a name up and reports an error, but no node is marked. -/
def unnamedTree : Node :=
  { type := "compilation_unit", start := 0, stop := 10, hasError := true, children := [
    { type := "enum_declaration", start := 0, stop := 10, hasError := true, children := [
      { type := "enum", start := 0, stop := 4, named := false },
      { type := "identifier", start := 4, stop := 4, field := some "name", hasError := true },
      { type := "enum_member_declaration_list", start := 5, stop := 10, field := some "body", children := [
        { type := "\x7b", start := 5, stop := 6, named := false },
        { type := "enum_member_declaration", start := 7, stop := 8, children := [
          { type := "identifier", start := 7, stop := 8, field := some "name" }] },
        { type := "\x7d", start := 9, stop := 10, named := false }] }] }] }

/-- The tree of `namespace N;` on a line. -/
def namespaceTree : Node :=
  { type := "compilation_unit", start := 0, stop := 13, children := [
    { type := "file_scoped_namespace_declaration", start := 0, stop := 12, children := [
      { type := "namespace", start := 0, stop := 9, named := false },
      { type := "identifier", start := 10, stop := 11, field := some "name" },
      { type := ";", start := 11, stop := 12, named := false }] }] }

/-- The tree of `// c`. -/
def commentTree : Node :=
  { type := "compilation_unit", start := 0, stop := 4, children := [
    { type := "comment", start := 0, stop := 4 }] }

/-- The source of the namespace. -/
def namespaceSource : Bytes :=
  Text.Utf8.ofString "namespace N;\n"

/-- A few sources with their trees. -/
def sampleTrees : List (Bytes × Node) :=
  [(Text.Utf8.ofString "class é \x7b \x7d", classTree),
    (Text.Utf8.ofString "class 1A \x7b \x7d", misnamedTree),
    (Text.Utf8.ofString "enum \x7b A \x7d", unnamedTree),
    (namespaceSource, namespaceTree), (Text.Utf8.ofString "// c", commentTree)]

/-- The tree of a source that cannot be read at all. -/
def unreadTree (bytes : Bytes) : Node :=
  { type := "ERROR", start := 0, stop := bytes.length, hasError := true }

/-- A parser that reads a few sources and no other. -/
def parseSample (bytes : Bytes) : Node :=
  (sampleTrees.lookup bytes).getD (unreadTree bytes)

/-- A source is one of the few, with its tree, or it is not read. -/
theorem parseSample_cases (bytes : Bytes) :
    (bytes, parseSample bytes) ∈ sampleTrees ∨ parseSample bytes = unreadTree bytes := by
  unfold parseSample
  cases hfound : sampleTrees.lookup bytes with
  | none => exact .inr rfl
  | some tree =>
    obtain ⟨before, after, hsamples, -⟩ := List.lookup_eq_some_iff.1 hfound
    rw [hsamples]
    exact .inl (List.mem_append_right _ List.mem_cons_self)

/-- The parser grounds the tree of every text. -/
theorem parseSample_grounded {bytes : Bytes} {text : List Char}
    (h : Text.Utf8.decode bytes = .ok text) : (parseSample bytes).Grounded bytes := by
  have hsamples : ∀ sample ∈ sampleTrees, sample.2.Grounded sample.1 := by decide +kernel
  obtain hsample | hunread := parseSample_cases bytes
  · exact hsamples _ hsample
  · -- The only node starts at the start of the text and stops at its end.
    rw [hunread]
    have hnodes : ∀ node, (unreadTree bytes).Within node → node = unreadTree bytes :=
      fun node hnode => List.mem_singleton.1 hnode
    refine ⟨fun node hnode => ?_, fun node hnode hbase => ?_⟩
    · rw [hnodes node hnode]
      exact ⟨Text.Utf8.isBoundary_zero h, Text.Utf8.isBoundary_length bytes⟩
    · rw [hnodes node hnode] at hbase
      cases hbase

/-- The parser reports the faulty nodes of every source. -/
theorem parseSample_reportsFaults (bytes : Bytes) : (parseSample bytes).ReportsFaults := by
  have hsamples : ∀ sample ∈ sampleTrees, sample.2.ReportsFaults := by decide +kernel
  obtain hsample | hunread := parseSample_cases bytes
  · exact hsamples _ hsample
  · -- The only node is faulty, and it is reported.
    rw [hunread]
    intro node hnode _
    obtain rfl : node = unreadTree bytes := List.mem_singleton.1 hnode
    rfl

end ApiOutline.Syntax
