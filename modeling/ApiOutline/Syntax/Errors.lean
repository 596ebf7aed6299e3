import ApiOutline.Syntax.Node

/-!
# Counting faulty nodes

`errorCount` tells how many nodes of a tree are faulty. The count keeps a stack of pending trees and
passes by every subtree in which the parser reports no error.
-/

namespace ApiOutline.Syntax

mutual

/-- The number of nodes in a tree. -/
def Node.size : Node → Nat
  | ⟨_, _, _, _, _, _, _, children⟩ => sizes children + 1

/-- The number of nodes in several trees. -/
def sizes : List Node → Nat
  | [] => 0
  | node :: nodes => node.size + sizes nodes

end

theorem Node.size_eq (node : Node) : node.size = sizes node.children + 1 := by
  cases node
  rfl

theorem sizes_append (nodes others : List Node) :
    sizes (nodes ++ others) = sizes nodes + sizes others := by
  induction nodes with
  | nil => simp [sizes]
  | cons node nodes ih => simp [sizes, ih, Nat.add_assoc]

theorem sizes_reverse (nodes : List Node) : sizes nodes.reverse = sizes nodes := by
  induction nodes with
  | nil => rfl
  | cons node nodes ih => simp [sizes, sizes_append, ih, Nat.add_comm]

/-- What is still to be searched after a node: its children, the last one first, before what was
pending. The children of a node without an error are passed by. -/
def pendingAfter (node : Node) (pending : List Node) : List Node :=
  if node.hasError then node.children.reverse ++ pending else pending

/-- A search has less before it after each node. -/
theorem sizes_pendingAfter_lt (node : Node) (pending : List Node) :
    sizes (pendingAfter node pending) < sizes (node :: pending) := by
  have hsize := node.size_eq
  unfold pendingAfter
  split
  · rw [sizes_append, sizes_reverse, sizes]
    omega
  · rw [sizes]
    omega

/-- Add the number of faulty nodes in the pending trees to `count`. -/
def countPending (count : Nat) : List Node → Nat
  | [] => count
  | node :: pending =>
    countPending (if node.isFaulty then count + 1 else count) (pendingAfter node pending)
termination_by pending => sizes pending
decreasing_by exact sizes_pendingAfter_lt node pending

/-- The number of faulty nodes in a tree. -/
def Node.errorCount (root : Node) : Nat :=
  if root.hasError then countPending 0 [root] else 0

end ApiOutline.Syntax
