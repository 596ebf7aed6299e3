import ApiOutline.Proofs.OneLine
import ApiOutline.Proofs.Placement

/-!
# What the members of an outline say

Every text that the walk puts into a member stands on one line: names have no blanks, the other parts
of a declaration are written on one line, and a summary is written on one line before it is shortened.
The walk builds members in two ways only, for namespaces and for declarations, and what holds of every
member that is built holds at any depth (`HoldsOfBuilt.of_mapTree`). So `shaped_of_mapTree` follows from
one fact for each way, and `tidy_of_mapTree` from that.
-/

namespace ApiOutline.Outline

open Syntax (Node)
open Text (Bytes isBlank oneLine removeBlanks join Spaced)

/-! ## Texts on one line -/

/-- Whether a text has no line feed. -/
def OnOneLine (cs : List Char) : Prop :=
  '\n' ∉ cs

instance : DecidablePred OnOneLine := fun cs => inferInstanceAs (Decidable ('\n' ∉ cs))

/-- A text with no other blanks than spaces is on one line. -/
theorem onOneLine_of_spaced {cs : List Char} (h : Spaced cs) : OnOneLine cs :=
  fun hmem => absurd (h _ hmem (by decide)) (by decide)

/-- Whether a text has no blank. -/
def Blankless (cs : List Char) : Prop :=
  ∀ c ∈ cs, isBlank c = false

instance : DecidablePred Blankless :=
  List.decidableBAll fun c => isBlank c = false

/-- A text without blanks has no other blanks than spaces. -/
theorem Blankless.spaced {cs : List Char} (h : Blankless cs) : Spaced cs := by
  intro c hc hblank
  rw [h c hc] at hblank
  exact absurd hblank Bool.false_ne_true

/-! ## Signatures, base types and attributes -/

section Parts

variable {source : Bytes} {node : Node} {cs : List Char}

/-- The text of a node on one line has no other blanks than spaces. -/
theorem spaced_lineOf (h : lineOf source node = .ok cs) : Spaced cs := by
  obtain ⟨text, -, rfl⟩ := Outcome.map_eq_ok.1 (Outcome.mapError_eq_ok.1 h)
  exact Text.spaced_oneLine text

/-- So has that of a node that may be missing. -/
theorem spaced_lineOf? {node? : Option Node} (h : lineOf? source node? = .ok cs) : Spaced cs := by
  cases node? with
  | none =>
    cases h
    exact fun c hc => absurd hc List.not_mem_nil
  | some node => exact spaced_lineOf h

/-- A name has no blanks. -/
theorem blankless_nameOf (h : nameOf source node = .ok cs) : Blankless cs := by
  obtain ⟨text, -, rfl⟩ := Outcome.map_eq_ok.1 h
  exact fun c hc => Text.not_isBlank_of_mem_removeBlanks hc

/-- Several names are each something, without blanks. -/
theorem blankless_namesOf {test : Node → Bool} {nodes : List Node} {names : List (List Char)}
    (h : namesOf source test nodes = .ok names) : ∀ name ∈ names, name ≠ [] ∧ Blankless name := by
  induction nodes generalizing names with
  | nil =>
    cases h
    simp
  | cons node nodes ih =>
    rw [namesOf] at h
    split_ifs at h with htest
    · obtain ⟨name, hname, h⟩ := Outcome.bind_eq_ok.1 h
      obtain ⟨others, hothers, h⟩ := Outcome.bind_eq_ok.1 h
      have hrest := ih hothers
      cases h
      split_ifs with hempty
      · exact hrest
      · have hne : name ≠ [] := by simpa using hempty
        exact List.forall_mem_cons.2 ⟨⟨hne, blankless_nameOf hname⟩, hrest⟩
    · exact ih h

/-- So are those of an enumeration. -/
theorem blankless_enumNames {names : List (List Char)} (h : enumNames source node = .ok names) :
    ∀ name ∈ names, name ≠ [] ∧ Blankless name := by
  unfold enumNames at h
  split at h
  · cases h
    simp
  · exact blankless_namesOf h

/-- An enumeration is written with no other blanks than spaces. -/
theorem spaced_writeEnum {name : List Char} {names : List (List Char)} (hname : Spaced name)
    (hnames : ∀ name ∈ names, Spaced name) : Spaced (writeEnum name names) := by
  -- What is written around the names has no other blanks either.
  have hclosed : Spaced " \x7b \x7d".toList ∧ Spaced " \x7b ".toList ∧ Spaced " \x7d".toList ∧
      Spaced ", ".toList := by
    decide
  unfold writeEnum
  split_ifs
  · exact hname.append hclosed.1
  · exact ((hname.append hclosed.2.1).append (.join hclosed.2.2.2 hnames)).append hclosed.2.2.1

/-- A signature has no other blanks than spaces. -/
theorem spaced_signatureOf {kind : Kind} (h : signatureOf source node kind = .ok cs) :
    Spaced cs := by
  have hcallable : ∀ {cs}, callableSignature source node = .ok cs → Spaced cs := by
    intro cs h
    obtain ⟨name, hname, h⟩ := Outcome.bind_eq_ok.1 h
    obtain ⟨parameters, hparameters, h⟩ := Outcome.bind_eq_ok.1 h
    cases h
    exact (blankless_nameOf hname).spaced.append (spaced_lineOf? hparameters)
  cases kind with
  | nameSpace => exact (blankless_nameOf h).spaced
  | classType => exact (blankless_nameOf h).spaced
  | interfaceType => exact (blankless_nameOf h).spaced
  | record => exact hcallable h
  | constructor => exact hcallable h
  | enumeration =>
    obtain ⟨names, hnames, h⟩ := Outcome.bind_eq_ok.1 h
    obtain ⟨name, hname, h⟩ := Outcome.bind_eq_ok.1 h
    cases h
    exact spaced_writeEnum (blankless_nameOf hname).spaced fun name hname =>
      (blankless_enumNames hnames name hname).2.spaced
  | method =>
    obtain ⟨returns, hreturns, h⟩ := Outcome.bind_eq_ok.1 h
    obtain ⟨name, hname, h⟩ := Outcome.bind_eq_ok.1 h
    obtain ⟨parameters, hparameters, h⟩ := Outcome.bind_eq_ok.1 h
    cases h
    have hcall : Spaced (name ++ parameters) :=
      (blankless_nameOf hname).spaced.append (spaced_lineOf? hparameters)
    rw [List.append_assoc]
    exact (spaced_lineOf? hreturns).append hcall.space
  | property =>
    obtain ⟨type, htype, h⟩ := Outcome.bind_eq_ok.1 h
    obtain ⟨name, hname, h⟩ := Outcome.bind_eq_ok.1 h
    cases h
    exact (spaced_lineOf? htype).append (blankless_nameOf hname).spaced.space

/-- Base types are each something, with no other blanks than spaces. -/
theorem spaced_baseTypes {texts : List String} (h : baseTypes source node = .ok texts) :
    ∀ text ∈ texts, text ≠ "" ∧ Spaced text.toList := by
  -- Empty names of base types are left out.
  have hnames : ∀ {entries texts}, baseNames source entries = .ok texts →
      ∀ text ∈ texts, text ≠ "" ∧ Spaced text.toList := by
    intro entries
    induction entries with
    | nil =>
      intro texts h
      cases h
      simp
    | cons entry entries ih =>
      intro texts h
      rw [baseNames] at h
      split_ifs at h with hskip
      · exact ih h
      · obtain ⟨named, -, h⟩ := Outcome.bind_eq_ok.1 h
        obtain ⟨text, htext, h⟩ := Outcome.bind_eq_ok.1 h
        obtain ⟨others, hothers, h⟩ := Outcome.bind_eq_ok.1 h
        have hrest := ih hothers
        cases h
        split_ifs with hempty
        · exact hrest
        · have hne : String.ofList text ≠ "" := by simpa using hempty
          refine List.forall_mem_cons.2 ⟨⟨hne, ?_⟩, hrest⟩
          rw [String.toList_ofList]
          exact spaced_lineOf htext
  unfold baseTypes at h
  split at h
  · cases h
    simp
  · exact hnames h

/-- Attributes are each something, without blanks. -/
theorem blankless_attributesOf {texts : List String} (h : attributesOf source node = .ok texts) :
    ∀ text ∈ texts, text ≠ "" ∧ Blankless text.toList := by
  rw [attributesOf] at h
  generalize node.children.filter (Node.isOf "attribute_list") = lists at h
  induction lists generalizing texts with
  | nil =>
    cases h
    simp
  | cons list lists ih =>
    obtain ⟨names, hnames, h⟩ := Outcome.bind_eq_ok.1 h
    obtain ⟨others, hothers, h⟩ := Outcome.bind_eq_ok.1 h
    have hrest := ih hothers
    cases h
    rw [List.forall_mem_append, List.forall_mem_map]
    refine ⟨fun name hname => ?_, hrest⟩
    obtain ⟨hne, hblankless⟩ := blankless_namesOf hnames name hname
    rw [String.toList_ofList]
    exact ⟨by simpa using hne, hblankless⟩

end Parts

/-! ## Summaries -/

/-- A shortened text has no other blanks than spaces if the text has none. -/
theorem spaced_truncate {cs : List Char} (h : Spaced cs) : Spaced (Doc.truncate cs) := by
  have hellipsis : Spaced Doc.ellipsis := by
    decide
  simp only [Doc.truncate]
  split_ifs
  · exact h.mono (List.take_subset _ _)
  · exact (h.mono (List.take_subset _ _)).append hellipsis
  · exact h

/-- A text that is not empty is not shortened to nothing. -/
theorem truncate_ne_nil {cs : List Char} (h : cs ≠ []) : Doc.truncate cs ≠ [] := by
  simp only [Doc.truncate]
  split_ifs
  · rw [Ne, List.take_eq_nil_iff]
    simpa using h
  · exact List.append_ne_nil_of_right_ne_nil _ (by decide)
  · exact h

/-- The final form of a summary is something, with no other blanks than spaces. -/
theorem shorten?_spec {text summary : List Char} (h : Doc.shorten? text = some summary) :
    summary ≠ [] ∧ Spaced summary := by
  simp only [Doc.shorten?, List.isEmpty_iff] at h
  split_ifs at h with hempty
  cases h
  exact ⟨truncate_ne_nil hempty, spaced_truncate (Text.spaced_oneLine _)⟩

/-- The summary of a documentation is something, with no other blanks than spaces. -/
theorem docSummary_spec {source : Bytes} {before : List Node} {node : Node} {doc : String}
    (h : (docSummary source before node).outcome = .ok (some doc)) :
    doc ≠ "" ∧ Spaced doc.toList := by
  simp only [docSummary, Traced.outcome_bind, Traced.outcome_lift] at h
  obtain ⟨comments, -, h⟩ := Outcome.except_bind_eq_ok.1 h
  by_cases hempty : comments.isEmpty = true
  · rw [if_pos hempty] at h
    cases h
  · rw [if_neg hempty] at h
    simp only [Traced.outcome_bind, Traced.outcome_lift, Traced.outcome_leave,
      Traced.outcome_pure] at h
    obtain ⟨_, -, h⟩ := Outcome.except_bind_eq_ok.1 h
    obtain ⟨summary, hsummary, h⟩ := Outcome.except_bind_eq_ok.1 h
    -- The summary is the final form of some text.
    obtain ⟨text, -, rfl⟩ := Outcome.map_eq_ok.1 (Outcome.mapError_eq_ok.1 hsummary)
    obtain ⟨short, hshort, rfl⟩ := Option.map_eq_some_iff.1 (Except.ok.inj h)
    obtain ⟨found, -, hfinal⟩ := Option.bind_eq_some_iff.1 hshort
    obtain ⟨hne, hspaced⟩ := shorten?_spec hfinal
    rw [String.toList_ofList]
    exact ⟨by simpa using hne, hspaced⟩

/-! ## Members that the walk builds -/

/-- Whether a property holds of every member that the walk can build: of a namespace around any
children, and of a declaration around any children, or none if its kind does not nest others. -/
structure HoldsOfBuilt (setting : Setting) (P : Member → Prop) : Prop where
  nameSpace : ∀ {node : Node} {children : List Member} {member : Member},
    namespaceMember setting.source node children = .ok member → P member
  declaration : ∀ (node : Node) {before : List Node} {kind : Kind} {modifiers : List String}
    {children : List Member} {member : Member}, node.role = .declaration kind →
    (kind.canNest = false → children = []) →
    (declarationMember setting.source before node kind modifiers children).outcome = .ok member →
    P member

section Built

variable {setting : Setting} {P : Member → Prop}

/-- What holds of every member that is built holds of the outline of a tree at any depth, and the
outline has the path given. -/
theorem HoldsOfBuilt.of_mapTree (hP : HoldsOfBuilt setting P) {path : String} {root : Node}
    {file : FileMap} (h : (mapTree setting path root).outcome = .ok (some file)) :
    file.path = path ∧ ∀ member ∈ preorderOf file.members, P member := by
  obtain ⟨placed, hplaced, hfile⟩ := exists_placeTree_of_mapTree h
  have hcov := covers_placeTree hplaced
  split_ifs at hfile
  cases hfile
  refine ⟨rfl, fun member hmember => ?_⟩
  -- The member is that of a place, and is built from the node there.
  rw [← hcov.members] at hmember
  obtain ⟨item, hitem, rfl⟩ := List.mem_map.1 hmember
  obtain ⟨node, before, -, ⟨-, hspace⟩ | ⟨kind, modifiers, hrole, -, hbuilt⟩⟩ := hcov.built item hitem
  · exact hP.nameSpace hspace
  · have hkind := (declarationMember_kind_children hbuilt).1
    exact hP.declaration node hrole (fun hleaf => hcov.leaves item hitem (hkind ▸ hleaf)) hbuilt

end Built

/-! ## The shape of members -/

/-- What every member of an outline satisfies. -/
structure Shaped (member : Member) : Prop where
  /-- Only namespaces, classes, interfaces and records have others nested in them. -/
  children : member.kind ∈ [.enumeration, .constructor, .method, .property] → member.children = []
  /-- Only classes and interfaces have base types. -/
  bases : member.baseTypes ≠ [] → member.kind = .classType ∨ member.kind = .interfaceType
  /-- A namespace has nothing but its name and its children. -/
  nameSpace : member.kind = .nameSpace →
    member.isStatic = false ∧ member.doc = none ∧ member.attributes = []
  /-- Lines are counted from one. -/
  line : ∃ line, member.line = some line ∧ 1 ≤ line
  signature : Spaced member.signature.toList
  baseTypes : ∀ text ∈ member.baseTypes, text ≠ "" ∧ Spaced text.toList
  attributes : ∀ text ∈ member.attributes, text ≠ "" ∧ Blankless text.toList
  doc : ∀ doc, member.doc = some doc → doc ≠ "" ∧ Spaced doc.toList

/-- Lines are counted from one. -/
theorem one_le_line (source : Bytes) (node : Node) : (1 : Int) ≤ node.line source :=
  Int.natCast_pos.2 (Nat.succ_pos _)

/-- A namespace has its shape. -/
theorem shaped_namespaceMember {source : Bytes} {node : Node} {children : List Member}
    {member : Member} (h : namespaceMember source node children = .ok member) : Shaped member := by
  obtain ⟨signature, hsignature, h⟩ := Outcome.bind_eq_ok.1 h
  cases h
  exact {
    children := by simp
    bases := by simp
    nameSpace := fun _ => ⟨rfl, rfl, rfl⟩
    line := ⟨_, rfl, one_le_line source node⟩
    signature := by
      rw [String.toList_ofList]
      exact spaced_signatureOf hsignature
    baseTypes := by simp
    attributes := by simp
    doc := by simp }

/-- A declaration has its shape if only kinds that nest others have children. -/
theorem shaped_declarationMember {source : Bytes} {before : List Node} {node : Node} {kind : Kind}
    {modifiers : List String} {children : List Member} {member : Member}
    (hkind : kind ≠ .nameSpace) (hleaf : kind.canNest = false → children = [])
    (h : (declarationMember source before node kind modifiers children).outcome = .ok member) :
    Shaped member := by
  simp only [declarationMember, Traced.outcome_bind, Traced.outcome_lift, Traced.outcome_pure,
    Outcome.except_bind_eq_ok] at h
  obtain ⟨bases, hbases, signature, hsignature, doc, hdoc, attributes, hattributes, h⟩ := h
  cases h
  -- The kinds that nest nothing and those that show base types are known by a look at all kinds.
  have hleaves : ∀ k ∈ [Kind.enumeration, .constructor, .method, .property], k.canNest = false := by
    decide
  have hshown : kind.showsBaseTypes = true → kind = .classType ∨ kind = .interfaceType := by
    cases kind <;> simp [Kind.showsBaseTypes]
  exact {
    children := fun hmem => hleaf (hleaves kind hmem)
    bases := by
      intro hne
      split_ifs at hbases with hshows
      · exact hshown hshows
      · cases hbases
        exact absurd rfl hne
    nameSpace := fun heq => absurd heq hkind
    line := ⟨_, rfl, one_le_line source node⟩
    signature := by
      rw [String.toList_ofList]
      exact spaced_signatureOf hsignature
    baseTypes := by
      split_ifs at hbases
      · exact spaced_baseTypes hbases
      · cases hbases
        simp
    attributes := blankless_attributesOf hattributes
    doc := by
      rintro text rfl
      exact docSummary_spec hdoc }

/-- What the walk builds has its shape. -/
theorem holdsOfBuilt_shaped (setting : Setting) : HoldsOfBuilt setting Shaped where
  nameSpace h := shaped_namespaceMember h
  declaration := by
    intro node before kind modifiers children member hrole hleaf h
    exact shaped_declarationMember (Syntax.Role.kind_ne_nameSpace hrole) hleaf h

/-- The members of the outline of a tree have their shape at any depth, and the outline has the path
given. -/
theorem shaped_of_mapTree {setting : Setting} {path : String} {root : Node} {file : FileMap}
    (h : (mapTree setting path root).outcome = .ok (some file)) :
    file.path = path ∧ ∀ member ∈ preorderOf file.members, Shaped member :=
  (holdsOfBuilt_shaped setting).of_mapTree h

/-- Whether each text of a member is on one line. -/
structure TextsOnOneLine (member : Member) : Prop where
  signature : OnOneLine member.signature.toList
  doc : ∀ doc, member.doc = some doc → OnOneLine doc.toList
  baseTypes : ∀ text ∈ member.baseTypes, OnOneLine text.toList
  attributes : ∀ text ∈ member.attributes, OnOneLine text.toList

instance : DecidablePred TextsOnOneLine := fun member =>
  decidable_of_iff (OnOneLine member.signature.toList ∧ (∀ doc ∈ member.doc, OnOneLine doc.toList) ∧
      (∀ text ∈ member.baseTypes, OnOneLine text.toList) ∧
      ∀ text ∈ member.attributes, OnOneLine text.toList)
    ⟨fun h => ⟨h.1, h.2.1, h.2.2.1, h.2.2.2⟩, fun h => ⟨h.1, h.2, h.3, h.4⟩⟩

/-- Whether a member says something in each field that it has, and says it on one line. -/
structure Tidy (member : Member) : Prop extends TextsOnOneLine member where
  /-- Its line is known and counted from one. -/
  line : ∃ line, member.line = some line ∧ 0 < line
  /-- It has no empty documentation. -/
  doc_ne : member.doc ≠ some ""

/-- A member of this shape is tidy. -/
theorem Shaped.tidy {member : Member} (h : Shaped member) : Tidy member where
  signature := onOneLine_of_spaced h.signature
  doc doc hdoc := onOneLine_of_spaced (h.doc doc hdoc).2
  baseTypes text htext := onOneLine_of_spaced (h.baseTypes text htext).2
  attributes text htext := onOneLine_of_spaced (h.attributes text htext).2.spaced
  line := h.line
  doc_ne hdoc := (h.doc "" hdoc).1 rfl

/-- The members of the outline of a tree are tidy, at any depth, and the outline has the path given. -/
theorem tidy_of_mapTree {setting : Setting} {path : String} {root : Node} {file : FileMap}
    (h : (mapTree setting path root).outcome = .ok (some file)) :
    file.path = path ∧ ∀ member ∈ preorderOf file.members, Tidy member := by
  obtain ⟨hpath, hshaped⟩ := shaped_of_mapTree h
  exact ⟨hpath, fun member hmember => (hshaped member hmember).tidy⟩

end ApiOutline.Outline
