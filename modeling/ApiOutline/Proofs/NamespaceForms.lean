import ApiOutline.Proofs.WalkInduction
import Mathlib.Data.List.Basic

/-!
# The forms of a namespace

A namespace can have its contents in braces (`BlockNamespace`), or it is written without braces. In the
second case a parser gives its contents as siblings after it, or as children after its name
(`FileNamespace`). The three trees have the same outline, whatever stands before the namespace
(`namespace_forms_agree`).

Only the named nodes of a container count (`walkInside_named`), and documentation is not looked for beyond a
node that is no comment (`walkFrom_beyond`): this is why neither the name nor the namespace before the
contents shows in the documentation of the first declaration in them.
-/

namespace ApiOutline

namespace Traced

variable {ν ε α β γ : Type}

/-- A fault or a result is passed on as it is, with its notes. -/
protected theorem bind_pure (step : Traced ν ε α) : step >>= pure = step := by
  obtain ⟨notes, outcome⟩ := step
  show andThen _ _ = _
  cases outcome with
  | error fault => rfl
  | ok a =>
    show Traced.mk (notes ++ []) _ = _
    rw [List.append_nil]
    rfl

/-- Steps that are grouped another way leave the same notes. -/
protected theorem bind_assoc (step : Traced ν ε α) (f : α → Traced ν ε β) (g : β → Traced ν ε γ) :
    step >>= f >>= g = step >>= fun a => f a >>= g := by
  obtain ⟨notes, outcome⟩ := step
  show andThen (andThen _ _) _ = andThen _ fun a => andThen _ _
  cases outcome with
  | error fault => rfl
  | ok a =>
    unfold andThen
    cases h : (f a).outcome with
    | error fault => simp [h]
    | ok b => simp [h]

/-- Steps with notes follow the laws of steps. -/
instance : LawfulMonad (Traced ν ε) :=
  LawfulMonad.mk' _ Traced.bind_pure (fun _ _ => rfl) Traced.bind_assoc

end Traced

namespace Outline

open Syntax (Node)
open Text (Bytes)

variable (setting : Setting) (parent : Option Kind)

/-! ## Siblings that do not count -/

/-- Unnamed nodes after a namespace for the rest of the file are passed by. -/
theorem walkRest_filter_named (before nodes : List Node) :
    walkRest setting before (nodes.filter (·.named)) = walkRest setting before nodes := by
  induction nodes generalizing before with
  | nil => rfl
  | cons node nodes ih =>
    by_cases hnamed : node.named = true
    · rw [List.filter_cons_of_pos hnamed, walkRest, walkRest, ih, ih]
    · rw [List.filter_cons_of_neg hnamed, ih, walkRest, if_pos (by simpa using hnamed)]

/-- Unnamed nodes of a container are passed by. -/
theorem walkFrom_filter_named (before nodes : List Node) :
    walkFrom setting parent before (nodes.filter (·.named)) = walkFrom setting parent before nodes := by
  induction nodes generalizing before with
  | nil => rfl
  | cons node nodes ih =>
    by_cases hnamed : node.named = true
    · rw [List.filter_cons_of_pos hnamed, walkFrom, walkFrom, ih, ih, walkRest_filter_named]
    · rw [List.filter_cons_of_neg hnamed, ih, walkFrom, if_pos (by simpa using hnamed)]

/-- The members inside a container are those of its named nodes. -/
theorem walkInside_named (container : Node) :
    walkInside setting parent container = walkFrom setting parent [] container.namedChildren :=
  (walkInside_eq setting parent container).trans (walkFrom_filter_named setting parent [] _).symm

/-- Documentation is not looked for beyond a node that is no comment. -/
theorem docCommentsFrom_beyond (source : Bytes) (row : Nat) (front back : List Node) {stop : Node}
    (h : stop.isOf "comment" = false) :
    docCommentsFrom source row (front ++ stop :: back) = docCommentsFrom source row front := by
  induction front generalizing row with
  | nil => simp [docCommentsFrom, h]
  | cons sibling front ih => simp only [List.cons_append, docCommentsFrom, ih]

/-- What stands before a node that is no comment does not matter to the members of a later node. -/
theorem walkNode_beyond (front back : List Node) {stop : Node} (h : stop.isOf "comment" = false)
    (node : Node) : walkNode setting parent (front ++ stop :: back) node =
      walkNode setting parent front node := by
  -- Of all that stands before a node only its documentation is read.
  have hdoc : docSummary setting.source (front ++ stop :: back) node =
      docSummary setting.source front node := by
    unfold docSummary docComments
    rw [docCommentsFrom_beyond _ _ _ _ h]
  obtain ⟨type, start, stop, field, named, missing, hasError, children⟩ := node
  simp only [walkNode, declarationMember, hdoc]

/-! ## Lists without a namespace for the rest of the file -/

/-- No node of a list is a namespace for the rest of the file. -/
def NoFileNamespace (nodes : List Node) : Prop :=
  ∀ node ∈ nodes, node.role ≠ .fileNamespace

/-- `walkNode_beyond`, for all nodes that follow. -/
theorem walkFrom_beyond (front back : List Node) {stop : Node} (h : stop.isOf "comment" = false)
    {nodes : List Node} (hnodes : NoFileNamespace nodes) :
    walkFrom setting parent (front ++ stop :: back) nodes = walkFrom setting parent front nodes := by
  induction nodes generalizing front with
  | nil => rfl
  | cons node nodes ih =>
    -- Each node is put before those after it, and the node that is no comment stays behind them.
    obtain ⟨hnode, hnodes⟩ := List.forall_mem_cons.1 hnodes
    rw [walkFrom, walkFrom, if_neg hnode, if_neg hnode, walkNode_beyond setting parent front back h,
      ih front hnodes, ← List.cons_append, ih (node :: front) hnodes]

/-- What follows a namespace for the rest of the file is walked as the contents of a namespace. -/
theorem walkRest_eq_walkFrom (before : List Node) {nodes : List Node} (hnodes : NoFileNamespace nodes) :
    walkRest setting before nodes = walkFrom setting (some .nameSpace) before nodes := by
  induction nodes generalizing before with
  | nil => rfl
  | cons node nodes ih =>
    obtain ⟨hnode, hnodes⟩ := List.forall_mem_cons.1 hnodes
    rw [walkRest, walkFrom, if_neg hnode, ih before hnodes, ih (node :: before) hnodes]

/-- Of a list in two parts the members of the first part come first. -/
theorem walkFrom_append (before : List Node) {pre : List Node} (hpre : NoFileNamespace pre)
    (nodes : List Node) : walkFrom setting parent before (pre ++ nodes) = do
      let members ← walkFrom setting parent before pre
      let following ← walkFrom setting parent ((pre.filter (·.named)).reverse ++ before) nodes
      return members ++ following := by
  induction pre generalizing before with
  | nil => simp [walkFrom]
  | cons node pre ih =>
    obtain ⟨hnode, hpre⟩ := List.forall_mem_cons.1 hpre
    rw [List.cons_append, walkFrom, walkFrom, if_neg hnode, if_neg hnode]
    -- An unnamed node is passed by and is no sibling for the nodes after it.
    by_cases hnamed : node.named = true
    · simp only [hnamed, Bool.not_true, Bool.false_eq_true, if_false, ih (node :: before) hpre,
        List.filter_cons_of_pos, List.reverse_cons, List.append_assoc, List.singleton_append,
        bind_assoc, pure_bind]
    · simp [hnamed, ih before hpre]

/-! ## The forms -/

/-- A namespace in braces with the given name, in whose body are the given named nodes. -/
structure BlockNamespace (name : Node) (contents : List Node) (node : Node) : Prop where
  role : node.role = .blockNamespace
  hasName : node.childIn? "name" = some name
  hasBody : ∃ body, node.children.find? (isBodyAmong node.children) = some body ∧
    body.namedChildren = contents

/-- A namespace without braces with the given name, whose other named children are the given nodes. -/
structure FileNamespace (name : Node) (contents : List Node) (node : Node) : Prop where
  role : node.role = .fileNamespace
  hasName : node.childIn? "name" = some name
  hasChildren : node.namedChildren = name :: contents

/-- The outline of a namespace with the given contents. -/
def namespaceOutline (node : Node) (contents : List Node) : Walked (List Member) := do
  let inner ← walkFrom setting (some .nameSpace) [] contents
  let member ← .lift (namespaceMember setting.source node inner)
  return [member]

/-- Namespaces of one name that start in one row have the same outline with the same contents. -/
theorem namespaceOutline_congr {node other name : Node} (hnode : node.childIn? "name" = some name)
    (hother : other.childIn? "name" = some name)
    (hrow : node.startRow setting.source = other.startRow setting.source) (contents : List Node) :
    namespaceOutline setting node contents = namespaceOutline setting other contents := by
  unfold namespaceOutline namespaceMember signatureOf nameOf Node.line
  rw [hnode, hother, hrow]

/-- The named children of a node are named. -/
theorem named_of_mem {container node : Node} {nodes : List Node} (h : container.namedChildren = nodes)
    (hmem : node ∈ nodes) : node.named = true := by
  rw [← h] at hmem
  exact (List.mem_filter.1 hmem).2

/-- The outline of a namespace in braces. -/
theorem walkFrom_blockNamespace (before : List Node) {name node : Node} {contents : List Node}
    (h : BlockNamespace name contents node) (hnamed : node.named = true) :
    walkFrom setting parent before [node] = namespaceOutline setting node contents := by
  obtain ⟨body, hbody, hcontents⟩ := h.hasBody
  have hnode : walkNode setting parent before node = namespaceOutline setting node contents := by
    have hwalked : walkBody setting (some .nameSpace) (isBodyAmong node.children) node.children =
        walkFrom setting (some .nameSpace) [] contents := by
      rw [walkBody_eq, bodyOf?, hbody, ← hcontents]
      exact walkInside_named setting (some .nameSpace) body
    rw [walkNode_eq, h.role]
    simp only [hwalked]
    rfl
  rw [walkFrom, if_neg (by simp [hnamed]), if_neg (by simp [h.role]), hnode]
  simp [walkFrom]

/-- A named node that means nothing to the outline has no members, and is a sibling of the nodes after it. -/
theorem walkFrom_cons_of_other (before : List Node) {name : Node} (hother : name.role = .other)
    (hnamed : name.named = true) (nodes : List Node) :
    walkFrom setting parent before (name :: nodes) = walkFrom setting parent (name :: before) nodes := by
  have hnone : walkNode setting parent before name = pure [] := by
    obtain ⟨type, start, stop, field, named, missing, hasError, children⟩ := name
    rw [walkNode, show Syntax.Role.of type = .other from hother]
  rw [walkFrom, if_neg (by simp [hnamed]), if_neg (by simp [hother]), hnone]
  simp

/-- The outline of a namespace without braces: its own contents after its name, and then the nodes after
it. -/
theorem walkFrom_fileNamespace (before : List Node) {name node : Node} {contents after : List Node}
    (h : FileNamespace name contents node) (hnamed : node.named = true)
    (hother : name.role = .other) (hafter : NoFileNamespace after) :
    walkFrom setting parent before (node :: after) = do
      let inner ← walkFrom setting (some .nameSpace) [name] contents
      let following ← walkFrom setting (some .nameSpace) [] after
      let member ← .lift (namespaceMember setting.source node (inner ++ following))
      return [member] := by
  have hnode : node.isOf "comment" = false := Node.isOf_eq_false (by rw [h.role]; decide)
  have hname : name.named = true := named_of_mem h.hasChildren (by simp)
  have hinner : walkInside setting (some .nameSpace) node =
      walkFrom setting (some .nameSpace) [name] contents := by
    rw [walkInside_named, h.hasChildren, walkFrom_cons_of_other setting _ [] hother hname]
  -- The namespace itself is the sibling before the rest, and it is no comment.
  have hfollowing : walkRest setting (node :: before) after =
      walkFrom setting (some .nameSpace) [] after := by
    rw [walkRest_eq_walkFrom setting _ hafter]
    exact walkFrom_beyond setting _ [] before hnode hafter
  rw [walkFrom, if_neg (by simp [hnamed]), if_pos h.role, hinner, hfollowing]

/-- **A namespace has the same outline in all its forms.** Let a container have the nodes `pre` and then a
namespace: in braces, without braces and followed by its contents, or without braces and with its contents
as children. The members inside the container are those of `pre` and then the namespace with the members of
its contents, with the same documentation, notes and faults in each form. The namespaces start in the same
row and have the same name, which is not itself a part of an outline, nor a comment if the contents are
children after it. -/
theorem namespace_forms_agree (pre contents : List Node) (name block short long : Node)
    (inBraces withSiblings withChildren : Node)
    (hpre : NoFileNamespace pre) (hcontents : NoFileNamespace contents) (hother : name.role = .other)
    (hblock : BlockNamespace name contents block) (hshort : FileNamespace name [] short)
    (hlong : FileNamespace name contents long)
    (hshortRow : short.startRow setting.source = block.startRow setting.source)
    (hlongRow : long.startRow setting.source = block.startRow setting.source)
    (hinBraces : inBraces.namedChildren = pre ++ [block])
    (hwithSiblings : withSiblings.namedChildren = pre ++ short :: contents)
    (hwithChildren : withChildren.namedChildren = pre ++ [long]) :
    walkInside setting parent inBraces = (do
        let before ← walkFrom setting parent [] pre
        let outline ← namespaceOutline setting block contents
        return before ++ outline) ∧
      walkInside setting parent withSiblings = walkInside setting parent inBraces ∧
      (name.isOf "comment" = false →
        walkInside setting parent withChildren = walkInside setting parent inBraces) := by
  -- Each of the three forms gives the outline of the block, whatever stands before it.
  have hblockOutline : ∀ before, walkFrom setting parent before [block] =
      namespaceOutline setting block contents := fun before =>
    walkFrom_blockNamespace setting parent before hblock (named_of_mem hinBraces (by simp))
  have hshortOutline : ∀ before, walkFrom setting parent before (short :: contents) =
      namespaceOutline setting block contents := by
    intro before
    rw [walkFrom_fileNamespace setting parent before hshort (named_of_mem hwithSiblings (by simp)) hother
      hcontents, ← namespaceOutline_congr setting hshort.hasName hblock.hasName hshortRow]
    simp [walkFrom, namespaceOutline]
  have hlongOutline : name.isOf "comment" = false → ∀ before, walkFrom setting parent before [long] =
      namespaceOutline setting block contents := by
    intro hcomment before
    -- The name is the sibling before the contents here, and it ends the search for documentation.
    have hbeyond : walkFrom setting (some .nameSpace) [name] contents =
        walkFrom setting (some .nameSpace) [] contents :=
      walkFrom_beyond setting (some .nameSpace) [] [] hcomment hcontents
    rw [walkFrom_fileNamespace setting parent before hlong (named_of_mem hwithChildren (by simp)) hother
      (by simp [NoFileNamespace]), hbeyond,
      ← namespaceOutline_congr setting hlong.hasName hblock.hasName hlongRow]
    simp [walkFrom, namespaceOutline]
  -- What stands before the namespace is walked first in each container.
  refine ⟨?_, ?_, fun hcomment => ?_⟩
  · simp only [walkInside_named, hinBraces, walkFrom_append setting parent [] hpre, hblockOutline]
  · simp only [walkInside_named, hinBraces, hwithSiblings, walkFrom_append setting parent [] hpre,
      hblockOutline, hshortOutline]
  · simp only [walkInside_named, hinBraces, hwithChildren, walkFrom_append setting parent [] hpre,
      hblockOutline, hlongOutline hcomment]

/-! ## A namespace after a class -/

/-- A class, the name of a namespace, and a class after a comment. -/
def formsSource : Bytes :=
  Text.Utf8.ofString "P N\n// a\nC"

/-- The class before the namespace. -/
def formsFirst : Node :=
  { type := "class_declaration", start := 0, stop := 1, children := [
    { type := "identifier", start := 0, stop := 1, field := some "name" }] }

/-- The name of the namespace. -/
def formsName : Node :=
  { type := "identifier", start := 2, stop := 3, field := some "name" }

/-- The contents of the namespace. -/
def formsContents : List Node := [
  { type := "comment", start := 4, stop := 8 },
  { type := "class_declaration", start := 9, stop := 10, children := [
    { type := "identifier", start := 9, stop := 10, field := some "name" }] }]

/-- A namespace in braces. -/
def blockForm (name : Node) (contents : List Node) : Node :=
  { type := "namespace_declaration", start := name.start, stop := name.stop, children := [
    name, { type := "declaration_list", start := name.start, stop := name.stop, field := some "body",
            children := contents }] }

/-- A namespace without braces. -/
def fileForm (name : Node) (contents : List Node) : Node :=
  { type := "file_scoped_namespace_declaration", start := name.start, stop := name.stop,
    children := name :: contents }

/-- A file with the given nodes. -/
def unitWith (nodes : List Node) : Node :=
  { type := "compilation_unit", start := 0, stop := 0, children := nodes }

/-- In each form the second class is in the namespace and the first one is not. -/
theorem forms_agree_after_class :
    ((walkInside ⟨formsSource, false⟩ none
      (unitWith [formsFirst, blockForm formsName formsContents])).outcome.map fun members =>
        members.map fun member => (member.signature, member.children.map Member.signature)) =
          .ok [("P", []), ("N", ["C"])] ∧
      walkInside ⟨formsSource, false⟩ none
          (unitWith (formsFirst :: fileForm formsName [] :: formsContents)) =
        walkInside ⟨formsSource, false⟩ none
          (unitWith [formsFirst, blockForm formsName formsContents]) ∧
      walkInside ⟨formsSource, false⟩ none (unitWith [formsFirst, fileForm formsName formsContents]) =
        walkInside ⟨formsSource, false⟩ none
          (unitWith [formsFirst, blockForm formsName formsContents]) := by
  have hpre : NoFileNamespace [formsFirst] := by
    unfold NoFileNamespace
    decide
  have hcontents : NoFileNamespace formsContents := by
    unfold NoFileNamespace
    decide
  obtain ⟨-, hsiblings, hchildren⟩ :=
    namespace_forms_agree ⟨formsSource, false⟩ none [formsFirst] formsContents formsName
      (blockForm formsName formsContents) (fileForm formsName []) (fileForm formsName formsContents)
      (unitWith [formsFirst, blockForm formsName formsContents])
      (unitWith (formsFirst :: fileForm formsName [] :: formsContents))
      (unitWith [formsFirst, fileForm formsName formsContents]) hpre hcontents rfl
      ⟨rfl, rfl, _, rfl, rfl⟩ ⟨rfl, rfl, rfl⟩ ⟨rfl, rfl, rfl⟩ rfl rfl rfl rfl rfl
  exact ⟨by decide +kernel, hsiblings, hchildren rfl⟩

/-- A class in place of the name of a namespace. -/
def declaringName : Node :=
  { type := "class_declaration", start := 0, stop := 1, field := some "name" }

/-- A name that is itself a declaration has a member of its own in a namespace without braces, and none in
a namespace in braces. -/
theorem forms_differ_if_name_declares :
    declaringName.isOf "comment" = false ∧
      BlockNamespace declaringName [] (blockForm declaringName []) ∧
      FileNamespace declaringName [] (fileForm declaringName []) ∧
      (walkInside ⟨Text.Utf8.ofString "N", false⟩ none
        (unitWith [blockForm declaringName []])).outcome.map countMembers = .ok ⟨1, 0, 0⟩ ∧
      (walkInside ⟨Text.Utf8.ofString "N", false⟩ none
        (unitWith [fileForm declaringName []])).outcome.map countMembers = .ok ⟨1, 1, 0⟩ := by
  refine ⟨rfl, ⟨rfl, rfl, _, rfl, rfl⟩, ⟨rfl, rfl, rfl⟩, ?_, ?_⟩
  · decide +kernel
  · decide +kernel

end Outline

end ApiOutline
