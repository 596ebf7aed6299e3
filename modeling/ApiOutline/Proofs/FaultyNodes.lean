import ApiOutline.Proofs.StrictSyntax

/-!
# The number of faulty nodes

The search for faulty nodes takes one node after another off a stack and does not enter a tree in which
the parser reports no error. `Searches` follows it turn by turn. A search comes to an end, and the nodes it
has taken are those of a plain traversal that stops at the same trees (`Node.entered`), in another order.
If the parser reports every faulty node, that traversal misses none, since there is none in the trees it
does not enter, so the search counts them all (`Node.errorCount_eq`).

If it reports nothing else either, strict syntax refuses the trees with a faulty node and no others, and
says how many there are.
-/

namespace ApiOutline.Syntax

/-! ## The course of a search -/

/-- A search that has counted `count` faulty nodes so far takes the nodes `taken` off its stack, one in
each turn, until nothing is pending, and ends with the number `total`. -/
inductive Searches : (count : Nat) → (pending taken : List Node) → (total : Nat) → Prop where
  | done (count : Nat) : Searches count [] [] count
  | turn {count total : Nat} {node : Node} {pending taken : List Node} :
    Searches (if node.isFaulty then count + 1 else count) (pendingAfter node pending) taken total →
    Searches count (node :: pending) (node :: taken) total

mutual

/-- The nodes of a tree that are not below a node without an error. -/
def Node.entered : Node → List Node
  | ⟨type, start, stop, field, named, missing, hasError, children⟩ =>
    let node : Node := ⟨type, start, stop, field, named, missing, hasError, children⟩
    node :: if node.hasError then enteredIn children else []

/-- The nodes of several trees that are not below a node without an error. -/
def enteredIn : List Node → List Node
  | [] => []
  | node :: nodes => node.entered ++ enteredIn nodes

end

/-- A node is entered itself, and what is below it if the parser reports an error there. -/
theorem Node.entered_eq (node : Node) :
    node.entered = node :: if node.hasError then enteredIn node.children else [] := by
  cases node
  rfl

/-- The nodes that are entered in several trees are those of each. -/
theorem enteredIn_eq_flatMap (nodes : List Node) : enteredIn nodes = nodes.flatMap Node.entered := by
  induction nodes with
  | nil => rfl
  | cons node nodes ih => rw [enteredIn, ih, List.flatMap_cons]

/-- Trees are entered one after another. -/
theorem enteredIn_append (nodes others : List Node) :
    enteredIn (nodes ++ others) = enteredIn nodes ++ enteredIn others := by
  simp only [enteredIn_eq_flatMap, List.flatMap_append]

/-- In another order the same nodes are entered. -/
theorem enteredIn_reverse_perm (nodes : List Node) :
    (enteredIn nodes.reverse).Perm (enteredIn nodes) := by
  rw [enteredIn_eq_flatMap, enteredIn_eq_flatMap]
  exact nodes.reverse_perm.flatMap_right _

/-- One turn takes a node and leaves the rest of what was to be entered, in another order. -/
theorem enteredIn_pendingAfter (node : Node) (pending : List Node) :
    (node :: enteredIn (pendingAfter node pending)).Perm (enteredIn (node :: pending)) := by
  rw [enteredIn, Node.entered_eq, List.cons_append, pendingAfter]
  refine .cons node ?_
  by_cases herror : node.hasError = true
  · -- The children go on the stack in source order, so that the last one is taken first.
    rw [if_pos herror, if_pos herror, enteredIn_append]
    exact (enteredIn_reverse_perm node.children).append_right _
  · rw [if_neg herror, if_neg herror, List.nil_append]

/-- A search comes to an end, and takes each node to be entered once. -/
theorem exists_searches (count : Nat) (pending : List Node) :
    ∃ taken, Searches count pending taken (countPending count pending) ∧
      taken.Perm (enteredIn pending) := by
  -- The recursion of the search itself, by which the number of nodes in the pending trees decreases.
  fun_induction countPending count pending with
  | case1 count => exact ⟨[], .done count, .refl _⟩
  | case2 count node pending ih =>
    obtain ⟨taken, hsearch, hperm⟩ := ih
    refine ⟨node :: taken, .turn hsearch, ?_⟩
    exact (hperm.cons node).trans (enteredIn_pendingAfter node pending)

/-- The number that a search ends with grows by the faulty nodes among those taken. -/
theorem Searches.total_eq {count total : Nat} {pending taken : List Node}
    (h : Searches count pending taken total) : total = count + taken.countP Node.isFaulty := by
  induction h with
  | done count => rfl
  | @turn count total node pending taken _ ih =>
    -- The node that is taken counts now, the others in the turns after it.
    rw [ih, List.countP_cons]
    split_ifs <;> omega

/-! ## Nothing is missed -/

/-- The parser reports no less of the trees below a node. -/
theorem Node.ReportsFaults.child {node child : Node} (h : node.ReportsFaults)
    (hchild : child ∈ node.children) : child.ReportsFaults :=
  fun inner hinner => h inner (within_iff.2 (.inr ⟨child, hchild, hinner⟩))

/-- To report only faulty nodes is to report them all. -/
theorem Node.ReportsOnlyFaults.reportsFaults {root : Node} (h : root.ReportsOnlyFaults) :
    root.ReportsFaults :=
  fun node hnode => (h node hnode).2

/-- A tree without an error has no faulty node to count. -/
theorem Node.ReportsFaults.countP_nodes {node : Node} (h : node.ReportsFaults)
    (herror : ¬ node.hasError = true) : node.nodes.countP Node.isFaulty = 0 := by
  rw [List.countP_eq_zero]
  intro inner hinner hfaulty
  exact herror (h node node.within_self ⟨inner, hinner, hfaulty⟩)

-- Along the tree: at a node with an error both traversals go on to the children, and at another one
-- there is nothing to count below.
mutual

/-- The trees that are not entered have no faulty node. -/
theorem Node.countP_entered : ∀ node : Node, node.ReportsFaults →
    node.entered.countP Node.isFaulty = node.nodes.countP Node.isFaulty
  | ⟨type, start, stop, field, named, missing, hasError, children⟩, h => by
    rw [Node.entered_eq]
    by_cases herror : hasError = true
    · rw [if_pos herror, List.countP_cons, Node.nodes, List.countP_cons,
        countP_enteredIn children fun child => h.child]
    · -- Below a node without an error there is nothing to count, so what is not entered is not missed.
      have hnone := h.countP_nodes herror
      rw [Node.nodes, List.countP_cons] at hnone
      rw [if_neg herror, Node.nodes, List.countP_cons, List.countP_cons, List.countP_nil]
      omega

/-- The same for several trees. -/
theorem countP_enteredIn : ∀ nodes : List Node, (∀ node ∈ nodes, node.ReportsFaults) →
    (enteredIn nodes).countP Node.isFaulty = (nodesIn nodes).countP Node.isFaulty
  | [], _ => rfl
  | node :: nodes, h => by
    obtain ⟨hnode, hnodes⟩ := List.forall_mem_cons.1 h
    rw [enteredIn, nodesIn, List.countP_append, List.countP_append, Node.countP_entered node hnode,
      countP_enteredIn nodes hnodes]

end

/-- A search through one tree counts its faulty nodes. -/
theorem Node.ReportsFaults.countPending_single {root : Node} (h : root.ReportsFaults) :
    countPending 0 [root] = root.nodes.countP Node.isFaulty := by
  obtain ⟨taken, hsearch, hperm⟩ := exists_searches 0 [root]
  calc countPending 0 [root] = 0 + taken.countP Node.isFaulty := hsearch.total_eq
    _ = (enteredIn [root]).countP Node.isFaulty := by rw [Nat.zero_add, hperm.countP_eq]
    _ = root.entered.countP Node.isFaulty := by rw [enteredIn, enteredIn, List.append_nil]
    _ = root.nodes.countP Node.isFaulty := root.countP_entered h

/-- That a tree without an error is not searched at all changes nothing. -/
theorem Node.ReportsFaults.errorCount_eq_countPending {root : Node} (h : root.ReportsFaults) :
    root.errorCount = countPending 0 [root] := by
  rw [errorCount]
  split_ifs with herror
  · rfl
  · rw [h.countPending_single, h.countP_nodes herror]

/-- The faulty nodes are counted, if the parser reports them. -/
theorem Node.errorCount_eq {root : Node} (h : root.ReportsFaults) :
    root.errorCount = root.nodes.countP Node.isFaulty := by
  rw [h.errorCount_eq_countPending, h.countPending_single]

/-- There is something to count if some node is faulty. -/
theorem Node.errorCount_pos_iff {root : Node} (h : root.ReportsFaults) :
    0 < root.errorCount ↔ ∃ node, root.Within node ∧ node.isFaulty = true := by
  rw [errorCount_eq h, List.countP_pos_iff]
  rfl

end ApiOutline.Syntax

namespace ApiOutline.Mapping

open Syntax (Node Searches)

/-- With strictness a tree is refused if it has an error, for the number of its faulty nodes. -/
theorem checkSyntax_strict_eq_error_iff (settings : Settings) (path : String) (root : Node)
    (fault : MapFault) :
    (checkSyntax (withStrict settings true) path root).outcome = .error fault ↔
      root.hasError = true ∧ fault = .file ⟨path, .syntaxErrors root.errorCount⟩ := by
  rw [checkSyntax_strict]
  by_cases h : root.hasError = true
  · rw [if_pos h, Except.error.injEq, eq_comm, and_iff_right h]
  · rw [if_neg h]
    constructor
    · intro hok
      cases hok
    · intro herror
      exact absurd herror.1 h

/-- The count of faulty nodes is exact, and strict syntax reports it, where an error means that a node or
one below it is faulty. The search through a tree ends; it takes off its stack the nodes that are not below
one without an error, each once; and it counts the faulty nodes of the whole tree, also those below others.
The number is positive if and only if the tree has an error. With strictness a tree is refused if and only
if one of its nodes is faulty; the number in the message is that of its faulty nodes, and never zero. -/
theorem strict_refusal_counts_faults (settings : Settings) (path : String) (root : Node)
    (hreports : root.ReportsOnlyFaults) :
    (∃ taken, Searches 0 [root] taken root.errorCount ∧ taken.Perm root.entered) ∧
      root.errorCount = root.nodes.countP Node.isFaulty ∧
      (0 < root.errorCount ↔ root.hasError = true) ∧
      (∀ fault, (checkSyntax (withStrict settings true) path root).outcome = .error fault ↔
        (∃ node, root.Within node ∧ node.isFaulty = true) ∧
          fault = .file ⟨path, .syntaxErrors root.errorCount⟩) ∧
      (∀ fault, (checkSyntax (withStrict settings true) path root).outcome = .error fault →
        0 < root.errorCount) ∧
      (FileFault.mk path (.syntaxErrors root.errorCount)).message =
        path ++ ": " ++
          ("source contains " ++ toString (root.nodes.countP Node.isFaulty) ++ " syntax error(s)") := by
  have hfaults := hreports.reportsFaults
  have hcount := Node.errorCount_eq hfaults
  have herror : root.hasError = true ↔ ∃ node, root.Within node ∧ node.isFaulty = true :=
    hreports root root.within_self
  have hrefused : ∀ fault,
      (checkSyntax (withStrict settings true) path root).outcome = .error fault ↔
        (∃ node, root.Within node ∧ node.isFaulty = true) ∧
          fault = .file ⟨path, .syntaxErrors root.errorCount⟩ := by
    intro fault
    rw [checkSyntax_strict_eq_error_iff, herror]
  refine ⟨?_, hcount, ?_, hrefused, ?_, ?_⟩
  · obtain ⟨taken, hsearch, hperm⟩ := Syntax.exists_searches 0 [root]
    rw [Syntax.enteredIn, Syntax.enteredIn, List.append_nil] at hperm
    rw [hfaults.errorCount_eq_countPending]
    exact ⟨taken, hsearch, hperm⟩
  · rw [Node.errorCount_pos_iff hfaults, herror]
  · intro fault hfault
    exact (Node.errorCount_pos_iff hfaults).2 ((hrefused fault).1 hfault).1
  · rw [← hcount]
    rfl

/-- The tree of `class A { }` after a null character, which is an error inside an error. -/
def nullTree : Node :=
  { type := "compilation_unit", start := 0, stop := 12, hasError := true, children := [
    { type := "ERROR", start := 0, stop := 1, hasError := true, children := [
      { type := "ERROR", start := 0, stop := 1, hasError := true }] },
    { type := "class_declaration", start := 1, stop := 12, children := [
      { type := "class", start := 1, stop := 6, named := false },
      { type := "identifier", start := 7, stop := 8, field := some "name" },
      { type := "declaration_list", start := 9, stop := 12, field := some "body", children := [
        { type := "\x7b", start := 9, stop := 10, named := false },
        { type := "\x7d", start := 11, stop := 12, named := false }] }] }] }

/-- Both errors are counted, and the class is taken but not entered. -/
theorem nullTree_refused_for_two : nullTree.ReportsOnlyFaults ∧
    nullTree.entered.map Node.type = ["compilation_unit", "ERROR", "ERROR", "class_declaration"] ∧
    (checkSyntax (withStrict {} true) "A.cs" nullTree).outcome =
      .error (.file ⟨"A.cs", .syntaxErrors 2⟩) := by
  have hreports : nullTree.ReportsOnlyFaults := by decide +kernel
  obtain ⟨-, hcount, -, hrefused, -⟩ := strict_refusal_counts_faults {} "A.cs" nullTree hreports
  have htwo : nullTree.nodes.countP Node.isFaulty = 2 := by decide +kernel
  have hfault := hrefused (.file ⟨"A.cs", .syntaxErrors nullTree.errorCount⟩)
  rw [hcount, htwo] at hfault
  refine ⟨hreports, by decide +kernel, hfault.2 ⟨?_, rfl⟩⟩
  rw [← Node.errorCount_pos_iff hreports.reportsFaults, hcount, htwo]
  exact Nat.two_pos

end ApiOutline.Mapping
