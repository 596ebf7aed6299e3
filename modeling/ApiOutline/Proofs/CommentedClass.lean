import ApiOutline.Proofs.SafeWalk
import ApiOutline.Proofs.Utf8Encoding

/-!
# A class after a comment

A family of sources on which the rules for documentation can be tried: something in front, a comment, something
between, and a class without members. `Commented.tree` is the tree that a parser gives if there is nothing in
front. A comment is the documentation of the class if one line feed at most is between the two
(`Commented.docComments_of_near`, `Commented.docComments_of_far`), so a comment with too long a number keeps the
class from being mapped in the first case only (`Commented.mapTree_fails`, `Commented.mapTree_of_far`).
-/

namespace ApiOutline.Text.Utf8

/-- A text is encoded part by part. -/
theorem encode_append (cs ds : List Char) : encode (cs ++ ds) = encode cs ++ encode ds :=
  List.flatMap_append

/-- The bytes of a text can be cut where the text can. -/
theorem isBoundary_encode (cs ds : List Char) : IsBoundary (encode (cs ++ ds)) (encode cs).length := by
  obtain ⟨-, hfirst⟩ := isBoundary_zero (decode_encode ds)
  rw [encode_append]
  refine ⟨?_, fun b hb => hfirst b ?_⟩
  · rw [List.length_append]
    exact Nat.le_add_right _ _
  · rwa [List.drop_left] at hb

/-- Whether each character of a text is one byte. -/
def IsAscii (cs : List Char) : Prop :=
  ∀ c ∈ cs, c.toNat < 0x80

/-- Texts can be tested for this. -/
instance : DecidablePred IsAscii :=
  List.decidableBAll fun c : Char => c.toNat < 0x80

/-- Such a text has as many bytes as characters. -/
theorem length_encode {cs : List Char} (h : IsAscii cs) : (encode cs).length = cs.length := by
  induction cs with
  | nil => rfl
  | cons c cs ih =>
    obtain ⟨hc, hcs⟩ := List.forall_mem_cons.1 h
    have hbyte : (encodeChar c).length = 1 := by
      rw [encodeChar, if_pos hc]
      rfl
    rw [← List.singleton_append, encode_append, List.length_append, ih hcs, encode, List.flatMap_singleton,
      hbyte, List.length_append]
    rfl

/-- A text can be cut at any character of a part in which they are bytes. -/
theorem isBoundary_between (pre post : List Char) {text : List Char} (h : IsAscii text) {i : Nat}
    (hi : i ≤ text.length) : IsBoundary (encode (pre ++ (text ++ post))) ((encode pre).length + i) := by
  have hsplit : pre ++ (text ++ post) = (pre ++ text.take i) ++ (text.drop i ++ post) := by
    rw [List.append_assoc, ← List.append_assoc (text.take i), List.take_append_drop]
  have hlength : (encode (pre ++ text.take i)).length = (encode pre).length + i := by
    rw [encode_append, List.length_append, length_encode fun c hc => h c (List.mem_of_mem_take hc),
      List.length_take_of_le hi]
  rw [hsplit, ← hlength]
  exact isBoundary_encode _ _

end ApiOutline.Text.Utf8

namespace ApiOutline.Syntax

open Text.Utf8 (encode encode_append IsBoundary)

/-- A node over a part of a text has that part for its text. -/
theorem Node.text_encode {node : Node} {pre text : List Char} (post : List Char)
    (hstart : node.start = (encode pre).length)
    (hstop : node.stop = (encode pre).length + (encode text).length) :
    node.text (encode (pre ++ (text ++ post))) = .ok text := by
  rw [Node.text, bytes, hstart, hstop, encode_append, encode_append, List.drop_left, Nat.add_sub_cancel_left,
    List.take_left, Text.Utf8.decode_encode]

/-- The row at the end of a part of a text is the number of line feeds in it. -/
theorem row_encode (pre post : List Char) :
    row (encode (pre ++ post)) (encode pre).length = (encode pre).count 10 := by
  rw [row, encode_append, List.take_left]

/-- A tree is grounded if its root and the trees below are. -/
theorem Node.grounded_of_children {source : Text.Bytes} {root : Node}
    (hbounded : IsBoundary source root.start ∧ IsBoundary source root.stop)
    (hbase : root.isOf "primary_constructor_base_type" = false)
    (hchildren : ∀ child ∈ root.children, child.Grounded source) : root.Grounded source := by
  constructor
  · intro node hnode
    obtain rfl | ⟨child, hchild, hnode⟩ := within_iff.1 hnode
    · exact hbounded
    · exact (hchildren child hchild).bounded node hnode
  · intro node hnode hof
    obtain rfl | ⟨child, hchild, hnode⟩ := within_iff.1 hnode
    · cases hbase.symm.trans hof
    · exact (hchildren child hchild).based node hnode hof

end ApiOutline.Syntax

namespace ApiOutline.Outline

open Syntax (Node)
open Text (Bytes)
open Text.Utf8 (encode encode_append IsBoundary)

/-! ## A class without members -/

/-- A class without members. -/
def classText : List Char :=
  "class A \x7b\x7d".toList

/-- The node of that class at an offset. -/
def bareClass (start : Nat) : Node :=
  { type := "class_declaration", start := start, stop := start + 10, children := [
    { type := "class", start := start, stop := start + 5, named := false },
    { type := "identifier", start := start + 6, stop := start + 7, field := some "name" },
    { type := "declaration_list", start := start + 8, stop := start + 10, field := some "body", children := [
      { type := "\x7b", start := start + 8, stop := start + 9, named := false },
      { type := "\x7d", start := start + 9, stop := start + 10, named := false }] }] }

/-- The node is that of a class. -/
theorem role_bareClass (start : Nat) : (bareClass start).role = .declaration .classType :=
  rfl

/-- Each character of the class is one byte. -/
theorem isAscii_classText : Text.Utf8.IsAscii classText := by
  decide

/-- A node between two characters of the class has what is between them for its text. -/
theorem text_in_classText {node : Node} {pre : List Char} {i j : Nat} (hj : i + j ≤ 10)
    (hstart : node.start = (encode pre).length + i) (hstop : node.stop = (encode pre).length + (i + j)) :
    node.text (encode (pre ++ classText)) = .ok ((classText.drop i).take j) := by
  have hlength : classText.length = 10 := rfl
  -- What is before the node and what is in it have as many bytes as characters.
  have hskipped : (encode (pre ++ classText.take i)).length = (encode pre).length + i := by
    rw [encode_append, List.length_append,
      Text.Utf8.length_encode fun c hc => isAscii_classText c (List.mem_of_mem_take hc),
      List.length_take_of_le (by omega)]
  have htaken : (encode ((classText.drop i).take j)).length = j := by
    rw [Text.Utf8.length_encode fun c hc =>
        isAscii_classText c (List.mem_of_mem_drop (List.mem_of_mem_take hc)),
      List.length_take_of_le (by rw [List.length_drop]; omega)]
  have hsplit : pre ++ classText =
      (pre ++ classText.take i) ++ ((classText.drop i).take j ++ (classText.drop i).drop j) := by
    rw [List.take_append_drop, List.append_assoc, List.take_append_drop]
  rw [hsplit]
  exact Node.text_encode _ (by rw [hskipped, hstart]) (by rw [hskipped, htaken, hstop, Nat.add_assoc])

/-- The nodes of the class begin and end between characters. -/
theorem grounded_bareClass (pre : List Char) :
    (bareClass (encode pre).length).Grounded (encode (pre ++ classText)) := by
  have hoffset : ∀ i ≤ 10, IsBoundary (encode (pre ++ classText)) ((encode pre).length + i) := by
    intro i hi
    have hcut := Text.Utf8.isBoundary_between pre [] isAscii_classText (i := i) hi
    rwa [List.append_nil] at hcut
  -- Each node goes from one offset of the class to another.
  have hnode : ∀ {node : Node} {i j : Nat}, i ≤ 10 → j ≤ 10 → node.start = (encode pre).length + i →
      node.stop = (encode pre).length + j → node.isOf "primary_constructor_base_type" = false →
      (∀ child ∈ node.children, child.Grounded (encode (pre ++ classText))) →
      node.Grounded (encode (pre ++ classText)) := by
    intro node i j hi hj hstart hstop hbase hchildren
    exact Node.grounded_of_children ⟨hstart ▸ hoffset i hi, hstop ▸ hoffset j hj⟩ hbase hchildren
  refine hnode (i := 0) (j := 10) (by decide) (by decide) rfl rfl rfl ?_
  simp only [bareClass, List.forall_mem_cons, List.not_mem_nil, false_imp_iff, implies_true, and_true]
  refine ⟨?_, ?_, ?_⟩
  · exact hnode (i := 0) (j := 5) (by decide) (by decide) rfl rfl rfl (by simp)
  · exact hnode (i := 6) (j := 7) (by decide) (by decide) rfl rfl rfl (by simp)
  · refine hnode (i := 8) (j := 10) (by decide) (by decide) rfl rfl rfl ?_
    simp only [List.forall_mem_cons, List.not_mem_nil, false_imp_iff, implies_true, and_true]
    exact ⟨hnode (i := 8) (j := 9) (by decide) (by decide) rfl rfl rfl (by simp),
      hnode (i := 9) (j := 10) (by decide) (by decide) rfl rfl rfl (by simp)⟩

/-- A class without documentation has a member of its own. -/
theorem exists_bareClass {pre : List Char} {before : List Node}
    (hdoc : docSummary (encode (pre ++ classText)) before (bareClass (encode pre).length) = pure none) :
    ∃ member, (walkNode ⟨encode (pre ++ classText), false⟩ none before
        (bareClass (encode pre).length)).outcome = .ok [member] ∧
      member.kind = .classType ∧ member.doc = none := by
  -- The name is the character at the seventh place.
  have hname : nameOf (encode (pre ++ classText)) (bareClass (encode pre).length) = .ok ['A'] := by
    have htext : ∀ name : Node, name.start = (encode pre).length + 6 → name.stop = (encode pre).length + 7 →
        lineOf (encode (pre ++ classText)) name = .ok ['A'] := by
      intro name hstart hstop
      rw [lineOf, Node.lineText, text_in_classText (i := 6) (j := 1) (by decide) hstart hstop]
      rfl
    show (lineOf _ _).map _ = _
    rw [htext _ rfl rfl]
    rfl
  -- There is nothing else to be read, since the class has nothing else.
  have hmodifiers : modifiersOf (encode (pre ++ classText)) (bareClass (encode pre).length) = .ok [] := rfl
  have hbases : baseTypes (encode (pre ++ classText)) (bareClass (encode pre).length) = .ok [] := rfl
  have hattributes : attributesOf (encode (pre ++ classText)) (bareClass (encode pre).length) = .ok [] := rfl
  have hbody : walkBody ⟨encode (pre ++ classText), false⟩ (some .classType)
      (isBodyAmong (bareClass (encode pre).length).children) (bareClass (encode pre).length).children =
        pure [] := rfl
  have hvisible : isVisibleIn [] none false = true := rfl
  have hnest : Kind.classType.canNest = true := rfl
  rw [walkNode_eq, role_bareClass]
  simp only [hmodifiers, hvisible, hnest, hbody, declarationMember, hbases, signatureOf, hname, hdoc, hattributes,
    if_true, ite_self, Traced.outcome_bind, Traced.outcome_lift, Traced.outcome_pure, Except.bind]
  exact ⟨_, rfl, rfl, rfl⟩

/-! ## A comment before the class -/

/-- A source with a comment and a class in it. -/
structure Commented where
  front : List Char
  comment : List Char
  between : List Char

namespace Commented

variable (sample : Commented)

/-- What stands before the class. -/
def before : List Char :=
  sample.front ++ (sample.comment ++ sample.between)

/-- The text of the source. -/
def text : List Char :=
  sample.before ++ classText

/-- Its bytes. -/
def source : Bytes :=
  encode sample.text

/-- The node of the comment. -/
def commentNode : Node :=
  { type := "comment", start := (encode sample.front).length
    stop := (encode sample.front).length + (encode sample.comment).length }

/-- The node of the class. -/
def classNode : Node :=
  bareClass (encode sample.before).length

/-- The tree of the source if nothing is in front. -/
def tree : Node :=
  { type := "compilation_unit", start := 0, stop := sample.source.length
    children := [sample.commentNode, sample.classNode] }

/-- The source is a text. -/
theorem decode_source : Text.Utf8.decode sample.source = .ok sample.text :=
  Text.Utf8.decode_encode _

/-- The text, part by part. -/
theorem text_eq : sample.text = sample.front ++ (sample.comment ++ (sample.between ++ classText)) := by
  rw [text, before, List.append_assoc, List.append_assoc]

/-- The node of the comment has its text. -/
theorem text_commentNode : sample.commentNode.text sample.source = .ok sample.comment := by
  rw [source, text_eq]
  exact Node.text_encode _ rfl rfl

/-- The node of the comment begins and ends between characters. -/
theorem grounded_commentNode : sample.commentNode.Grounded sample.source := by
  refine Node.grounded_of_children ⟨?_, ?_⟩ rfl (by simp [commentNode])
  · rw [source, text_eq]
    exact Text.Utf8.isBoundary_encode _ _
  · have hsplit : sample.text =
        (sample.front ++ sample.comment) ++ (sample.between ++ classText) := by
      rw [text_eq, List.append_assoc]
    have hstop : sample.commentNode.stop = (encode (sample.front ++ sample.comment)).length := by
      rw [encode_append, List.length_append]
      rfl
    rw [source, hsplit, hstop]
    exact Text.Utf8.isBoundary_encode _ _

/-- So do the nodes of the class. -/
theorem grounded_classNode : sample.classNode.Grounded sample.source :=
  grounded_bareClass sample.before

/-- So do all nodes of the tree. -/
theorem grounded_tree : sample.tree.Grounded sample.source := by
  refine Node.grounded_of_children ⟨?_, ?_⟩ rfl ?_
  · exact Text.Utf8.isBoundary_zero sample.decode_source
  · exact Text.Utf8.isBoundary_length _
  · simp only [tree, List.forall_mem_cons, List.not_mem_nil, false_imp_iff, implies_true, and_true]
    exact ⟨sample.grounded_commentNode, sample.grounded_classNode⟩

/-- The rows between the comment and the class. -/
def gap : Nat :=
  (encode sample.between).count 10

/-- The class begins this many rows after the end of the comment. -/
theorem startRow_sub_stopRow :
    sample.classNode.startRow sample.source - sample.commentNode.stopRow sample.source = sample.gap := by
  have hstart : sample.classNode.startRow sample.source = (encode sample.before).count 10 :=
    Syntax.row_encode sample.before classText
  have hstop : sample.commentNode.stopRow sample.source =
      (encode (sample.front ++ sample.comment)).count 10 := by
    have hrow := Syntax.row_encode (sample.front ++ sample.comment) (sample.between ++ classText)
    rw [List.append_assoc, ← text_eq, encode_append, List.length_append] at hrow
    rw [encode_append]
    exact hrow
  rw [hstart, hstop, before, ← List.append_assoc, encode_append, List.count_append, Nat.add_sub_cancel_left]
  rfl

variable {sample} {siblings : List Node}

/-- A comment at most one row before the class is its documentation. -/
theorem docComments_of_near (hgap : sample.gap ≤ 1) (hdoc : Doc.isDocComment sample.comment = true)
    (hsiblings : siblings.head?.all fun node => !node.isOf "comment") :
    docComments sample.source (sample.commentNode :: siblings) sample.classNode = .ok [sample.comment] := by
  -- The sibling before the comment is not one, so the run goes no further back.
  have hnone : ∀ row, docCommentsFrom sample.source row siblings = .ok [] := by
    intro row
    cases siblings with
    | nil => rfl
    | cons sibling siblings =>
      have hother : (!sibling.isOf "comment") = true := hsiblings
      rw [docCommentsFrom, hother, Bool.true_or, if_pos rfl]
  have hcomment : sample.commentNode.isOf "comment" = true := rfl
  rw [docComments, docCommentsFrom, startRow_sub_stopRow, hcomment, hnone, text_commentNode]
  simp [hgap, hdoc, Except.mapError, bind, Except.bind, pure, Except.pure]

/-- A comment two rows before the class or more is not. -/
theorem docComments_of_far (hgap : 1 < sample.gap) :
    docComments sample.source (sample.commentNode :: siblings) sample.classNode = .ok [] := by
  rw [docComments, docCommentsFrom, startRow_sub_stopRow]
  simp [hgap]

/-- The class has a summary with too long a number if a comment near it has. -/
theorem overlong_of_near (hgap : sample.gap ≤ 1) (hdoc : Doc.isDocComment sample.comment = true)
    (hlong : Doc.HasLongSummary (Doc.clean sample.comment))
    (hsiblings : siblings.head?.all fun node => !node.isOf "comment") :
    Overlong sample.source (sample.commentNode :: siblings) sample.classNode :=
  ⟨[sample.comment], docComments_of_near hgap hdoc hsiblings, hlong⟩

/-- A class without documentation after a node without members is mapped. -/
theorem mapTree_of_undocumented {root first : Node} (hchildren : root.children = [first, sample.classNode])
    (hnamed : first.named = true) (hfile : first.role ≠ .fileNamespace)
    (hfirst : (walkNode ⟨sample.source, false⟩ none [] first).outcome = .ok [])
    (hdoc : docComments sample.source [first] sample.classNode = .ok []) (path : String) :
    ∃ file, (mapTree ⟨sample.source, false⟩ path root).outcome = .ok (some file) ∧
      file.members.map (fun member => (member.kind, member.doc)) = [(.classType, none)] := by
  have hsummary : docSummary sample.source [first] sample.classNode = pure none := by
    rw [docSummary, hdoc]
    rfl
  obtain ⟨member, hclass, hkind, hnone⟩ := exists_bareClass hsummary
  -- The class is no namespace, so it is looked at where it stands.
  have hother : sample.classNode.role ≠ .fileNamespace := by
    rw [classNode, role_bareClass]
    decide
  have hwalk : (walkTree ⟨sample.source, false⟩ root).outcome = .ok [member] := by
    rw [walkTree, walkInside_eq, hchildren, walkFrom_node _ _ _ _ hnamed hfile,
      walkFrom_node _ _ _ _ rfl hother]
    simp only [Traced.outcome_bind, hfirst, Except.bind]
    rw [show (walkNode ⟨sample.source, false⟩ none [first] sample.classNode).outcome = _ from hclass]
    rfl
  refine ⟨⟨path, [member]⟩, ?_, by simp [hkind, hnone]⟩
  simp only [mapTree, Traced.outcome_bind, hwalk, Except.bind]
  rfl

/-- Far from the comment the class is mapped without documentation. -/
theorem mapTree_of_far (hgap : 1 < sample.gap) (path : String) :
    ∃ file, (mapTree ⟨sample.source, false⟩ path sample.tree).outcome = .ok (some file) ∧
      file.members.map (fun member => (member.kind, member.doc)) = [(.classType, none)] := by
  have hrole : sample.commentNode.role = .other := rfl
  refine mapTree_of_undocumented rfl rfl ?_ ?_ (docComments_of_far hgap) path
  · rw [hrole]
    decide
  · rw [walkNode_eq, hrole]
    rfl

/-- A tree in whose top level the class stands right after a comment with too long a number is not mapped. -/
theorem mapTree_fails {root : Node} {i : Nat} (hroot : root.Grounded sample.source)
    (hchild : root.children[i]? = some sample.classNode) (hfile : fileIndex? root = none)
    (hbefore : namedBefore root.children i = sample.commentNode :: siblings)
    (hsiblings : siblings.head?.all fun node => !node.isOf "comment") (hgap : sample.gap ≤ 1)
    (hdoc : Doc.isDocComment sample.comment = true) (hlong : Doc.HasLongSummary (Doc.clean sample.comment))
    (path : String) :
    ∃ fault, (mapTree ⟨sample.source, false⟩ path root).outcome = .error (.tooManyDigits fault) := by
  have hat : root.at? [] [i] = some (sample.classNode, sample.commentNode :: siblings) := by
    rw [← hbefore]
    exact Node.at?_child (p := []) rfl hchild
  have hrole : sample.classNode.role = .declaration .classType := rfl
  have hlooked : LeadsTo ⟨sample.source, false⟩ root ([i], .looked none) (none, [i]) :=
    (leadsTo_declaration hat hrole).2 ⟨⟨[], rfl, rfl⟩, .inl rfl⟩
  have hreached : Reached ⟨sample.source, false⟩ root (none, [i]) :=
    (leadsTo_opened rfl).2 ⟨i, (childLeads_before hchild rfl (by simp [hfile])).2 hlooked⟩
  have hover : OverlongAt ⟨sample.source, false⟩ root [i] :=
    ⟨_, _, _, hat, hrole, overlong_of_near hgap hdoc hlong hsiblings⟩
  obtain ⟨-, hshort⟩ | ⟨hfault, -⟩ := mapTree_cases ⟨sample.source, false⟩ path sample.decode_source hroot
  · exact absurd hover (hshort _ hreached)
  · exact hfault

/-- Near a comment with too long a number the class is not mapped. -/
theorem tree_fails (hgap : sample.gap ≤ 1) (hdoc : Doc.isDocComment sample.comment = true)
    (hlong : Doc.HasLongSummary (Doc.clean sample.comment)) (path : String) :
    ∃ fault, (mapTree ⟨sample.source, false⟩ path sample.tree).outcome = .error (.tooManyDigits fault) :=
  mapTree_fails (i := 1) sample.grounded_tree rfl rfl rfl rfl hgap hdoc hlong path

end Commented

end ApiOutline.Outline
