import ApiOutline.Proofs.AlikeWalks
import ApiOutline.Proofs.CommentStyles
import Mathlib.Data.List.Forall2

/-!
# Signatures do not depend on layout

Two trees of the same shape may belong to sources that are laid out differently: `Node.SameWords` compares
the texts of their nodes on one line. All that an outline says of a declaration is read on one line or
without blanks, or it is compared with words that have no blanks (`mem_modifierTexts_iff`). So both trees have
the same members up to their lines and their documentation (`outline_ignores_layout`).

Documentation does depend on layout, since a comment belongs to a declaration only if no line is between
them. This is how layout can decide whether a number with too many digits is read
(`longNumber_depends_on_layout`).
-/

namespace ApiOutline.Text

variable {cs word : List Char}

/-- Blanks at the end can be trimmed before blanks are collapsed. -/
theorem trimEnd_collapse (cs : List Char) : trimEnd (collapse cs) = collapse (trimEnd cs) := by
  have hspace : isBlank ' ' = true := by decide
  induction cs with
  | nil => rfl
  | cons c cs ih =>
    -- Collapsing keeps a part of each run of blanks, so nothing is left only of nothing.
    have hnil : collapse (trimEnd cs) = [] ↔ trimEnd cs = [] := by
      cases htrim : trimEnd cs with
      | nil => simp [collapse]
      | cons d ds =>
        cases hd : isBlank d with
        | true =>
          have hhead : (d :: ds).head?.any isBlank = true := hd
          simp [collapse_of_blank_head hhead]
        | false => simp [collapse_cons_of_not_blank hd]
    cases hc : isBlank c with
    | false => simp [collapse_cons_of_not_blank hc, trimEnd_cons, hc, ih]
    | true =>
      rw [collapse_cons_of_blank hc]
      by_cases hrest : trimEnd cs = []
      · -- Nothing but blanks is left, and all of it is trimmed.
        have hall : trimEnd (c :: cs) = [] := by rw [trimEnd_cons, if_pos ⟨hrest, hc⟩]
        rw [hall]
        split
        · rw [ih, hrest]
        · rw [trimEnd_cons, ih, if_pos ⟨hnil.2 hrest, hspace⟩]
          rfl
      · -- The blank stays, and whether another one follows it is seen after trimming as before.
        have hkept : trimEnd (c :: cs) = c :: trimEnd cs := by
          rw [trimEnd_cons, if_neg fun hall => hrest hall.1]
        have hhead : (trimEnd cs).head? = cs.head? := by
          cases cs with
          | nil => rfl
          | cons d ds =>
            rw [trimEnd_cons] at hrest ⊢
            split
            · next hall => exact absurd (if_pos hall) hrest
            · rfl
        rw [hkept, collapse_cons_of_blank hc, hhead]
        split
        · exact ih
        · rw [trimEnd_cons, ih, if_neg fun hall => hrest (hnil.1 hall.1)]

/-- It makes no difference whether a text is collapsed or trimmed first. -/
theorem oneLine_eq_collapse_trim (cs : List Char) : oneLine cs = collapse (trim cs) := by
  rw [oneLine, trim, trimStart_collapse, trimEnd_collapse, trim]

/-- Collapsing gives a word without blanks only if nothing was collapsed. -/
theorem collapse_eq_word_iff (hword : ∀ c ∈ word, isBlank c = false) : collapse cs = word ↔ cs = word := by
  induction cs generalizing word with
  | nil => rfl
  | cons c cs ih =>
    cases hc : isBlank c with
    | true =>
      have hblank : (c :: cs).head?.any isBlank = true := by simpa using hc
      constructor
      · -- A blank at the start leaves a space, and the word has none.
        rintro rfl
        rw [collapse_of_blank_head hblank] at hword
        exact absurd (hword ' ' List.mem_cons_self) (by decide)
      · rintro rfl
        rw [hword c List.mem_cons_self] at hc
        cases hc
    | false =>
      rw [collapse_cons_of_not_blank hc]
      cases word with
      | nil => simp
      | cons d word =>
        rw [List.cons.injEq, List.cons.injEq, ih fun c hmem => hword c (List.mem_cons_of_mem _ hmem)]

/-- A text is trimmed to a word without blanks exactly if it is that word on one line. -/
theorem trim_eq_word_iff (hword : ∀ c ∈ word, isBlank c = false) : trim cs = word ↔ oneLine cs = word := by
  rw [oneLine_eq_collapse_trim, collapse_eq_word_iff hword]

end ApiOutline.Text

namespace ApiOutline.Syntax

open Text (Bytes)

/-- Whether two nodes are alike up to their children and the blanks of their texts. -/
structure Node.SameFace (source source' : Bytes) (node other : Node) : Prop where
  type : node.type = other.type
  field : node.field = other.field
  named : node.named = other.named
  /-- Both have a text, and it is the same on one line. -/
  line : ∃ line, node.lineText source = .ok line ∧ other.lineText source' = .ok line

mutual

/-- Whether two trees have the same shape and, up to blanks, the same texts. -/
def Node.SameWords (source source' : Bytes) : Node → Node → Prop
  | ⟨type, start, stop, field, named, missing, hasError, children⟩, other =>
    Node.SameFace source source' ⟨type, start, stop, field, named, missing, hasError, children⟩ other ∧
      SameWordsIn source source' children other.children

/-- Whether two lists of trees have the same shapes and texts. -/
def SameWordsIn (source source' : Bytes) : List Node → List Node → Prop
  | [], others => others = []
  | node :: nodes, others =>
    ∃ other rest, others = other :: rest ∧ node.SameWords source source' other ∧
      SameWordsIn source source' nodes rest

end

/-- Two nodes are compared by their texts, which can be computed. -/
instance (source source' : Bytes) (node other : Node) : Decidable (node.SameFace source source' other) :=
  decidable_of_iff
    (node.type = other.type ∧ node.field = other.field ∧ node.named = other.named ∧
      (node.lineText source).toOption.isSome = true ∧
        (node.lineText source).toOption = (other.lineText source').toOption) <| by
    refine ⟨fun ⟨htype, hfield, hnamed, hline⟩ => ⟨htype, hfield, hnamed, ?_⟩, fun h => ?_⟩
    · cases hnode : node.lineText source with
      | error fault => simp [hnode, Except.toOption] at hline
      | ok line =>
        cases hother : other.lineText source' with
        | error fault => simp [hnode, hother, Except.toOption] at hline
        | ok line' => simpa [hnode, hother, Except.toOption, eq_comm] using hline
    · obtain ⟨line, hline, hline'⟩ := h.line
      exact ⟨h.type, h.field, h.named, by simp [hline, Except.toOption], by rw [hline, hline']⟩

mutual

/-- The comparison of two trees can be computed. -/
def Node.decideSameWords (source source' : Bytes) :
    ∀ node other : Node, Decidable (node.SameWords source source' other)
  | ⟨_, _, _, _, _, _, _, children⟩, other =>
    have := decideSameWordsIn source source' children other.children
    inferInstanceAs (Decidable (_ ∧ _))

/-- The comparison of two lists of trees can be computed. -/
def decideSameWordsIn (source source' : Bytes) :
    ∀ nodes others : List Node, Decidable (SameWordsIn source source' nodes others)
  | [], [] => .isTrue rfl
  | [], _ :: _ => .isFalse (by simp [SameWordsIn])
  | _ :: _, [] => .isFalse (by simp [SameWordsIn])
  | node :: nodes, other :: others =>
    have := node.decideSameWords source source' other
    have := decideSameWordsIn source source' nodes others
    decidable_of_iff (node.SameWords source source' other ∧ SameWordsIn source source' nodes others)
      (by simp [SameWordsIn])

end

/-- Trees are compared node by node. -/
instance (source source' : Bytes) (node other : Node) : Decidable (node.SameWords source source' other) :=
  node.decideSameWords source source' other

section SameWords

variable {source source' : Bytes} {node other : Node} {nodes others : List Node}

/-- Lists of trees match if they are as long and their trees do. -/
theorem sameWordsIn_iff :
    SameWordsIn source source' nodes others ↔ List.Forall₂ (Node.SameWords source source') nodes others := by
  induction nodes generalizing others with
  | nil => rw [SameWordsIn, List.forall₂_nil_left_iff]
  | cons node nodes ih =>
    rw [SameWordsIn, List.forall₂_cons_left_iff]
    constructor
    · rintro ⟨other, rest, rfl, hnode, hrest⟩
      exact ⟨other, rest, hnode, ih.1 hrest, rfl⟩
    · rintro ⟨other, rest, hnode, hrest, rfl⟩
      exact ⟨other, rest, rfl, hnode, ih.2 hrest⟩

/-- Trees match if their roots and the lists of their children do. -/
theorem Node.sameWords_iff : node.SameWords source source' other ↔
    node.SameFace source source' other ∧
      List.Forall₂ (Node.SameWords source source') node.children other.children := by
  cases node
  rw [SameWords, sameWordsIn_iff]

variable (h : node.SameWords source source' other)

include h

/-- Matching trees have matching roots. -/
theorem Node.SameWords.face : node.SameFace source source' other :=
  (sameWords_iff.1 h).1

/-- Matching trees have matching children. -/
theorem Node.SameWords.children :
    List.Forall₂ (Node.SameWords source source') node.children other.children :=
  (sameWords_iff.1 h).2

/-- Matching trees are of the same type. -/
theorem Node.SameWords.isOf (type : String) : node.isOf type = other.isOf type := by
  rw [Node.isOf, Node.isOf, h.face.type]

/-- Matching trees fill the same field. -/
theorem Node.SameWords.fills (field : String) : node.fills field = other.fills field := by
  rw [Node.fills, Node.fills, h.face.field]

/-- Matching trees have the same role. -/
theorem Node.SameWords.role : node.role = other.role := by
  rw [Node.role, Node.role, h.face.type]

/-- Matching trees have the same text on one line. -/
theorem Node.SameWords.lineText : node.lineText source = other.lineText source' := by
  obtain ⟨line, hline, hline'⟩ := h.face.line
  rw [hline, hline']

end SameWords

end ApiOutline.Syntax

namespace ApiOutline.Outline

open Syntax (Node)
open Text (Bytes isBlank)

/-! ## Readings -/

section Readings

variable {source source' : Bytes} {node other : Node} {nodes others : List Node} {found found' : Option Node}

/-- The first nodes that pass a test match. -/
theorem rel_find? {test : Node → Bool}
    (htest : ∀ {node other : Node}, node.SameWords source source' other → test node = test other)
    (h : List.Forall₂ (Node.SameWords source source') nodes others) :
    Option.Rel (Node.SameWords source source') (nodes.find? test) (others.find? test) := by
  induction h with
  | nil => exact .none
  | @cons node other nodes others hnode _ ih =>
    rw [List.find?_cons, List.find?_cons, htest hnode]
    cases test other with
    | true => exact .some hnode
    | false => exact ih

/-- The first nodes match. -/
theorem rel_head? (h : List.Forall₂ (Node.SameWords source source') nodes others) :
    Option.Rel (Node.SameWords source source') nodes.head? others.head? := by
  cases h with
  | nil => exact .none
  | cons hfirst _ => exact .some hfirst

/-- Two nodes are found that match, or none in either tree. -/
theorem rel_cases (h : Option.Rel (Node.SameWords source source') found found') :
    (found = none ∧ found' = none) ∨
      ∃ node other, found = some node ∧ found' = some other ∧ node.SameWords source source' other := by
  cases h with
  | none => exact .inl ⟨rfl, rfl⟩
  | some h => exact .inr ⟨_, _, rfl, rfl, h⟩

/-- Where one node is taken in place of another that is missing, the nodes taken match. -/
theorem rel_or {second second' : Option Node} (h : Option.Rel (Node.SameWords source source') found found')
    (h' : Option.Rel (Node.SameWords source source') second second') :
    Option.Rel (Node.SameWords source source') (found.or second) (found'.or second') := by
  cases h with
  | some h => exact .some h
  | none => exact h'

/-- The nodes that pass a test match. -/
theorem forall₂_filter {test : Node → Bool}
    (htest : ∀ {node other : Node}, node.SameWords source source' other → test node = test other)
    (h : List.Forall₂ (Node.SameWords source source') nodes others) :
    List.Forall₂ (Node.SameWords source source') (nodes.filter test) (others.filter test) := by
  induction h with
  | nil => exact .nil
  | @cons node other nodes others hnode _ ih =>
    rw [List.filter_cons, List.filter_cons, htest hnode]
    split
    · exact .cons hnode ih
    · exact ih

/-- A line is read alike. -/
theorem lineOf_eq (h : node.SameWords source source' other) : lineOf source node = lineOf source' other := by
  rw [lineOf, lineOf, h.lineText]

/-- The line of a node that may be missing is read alike. -/
theorem lineOf?_eq (h : Option.Rel (Node.SameWords source source') found found') :
    lineOf? source found = lineOf? source' found' := by
  cases h with
  | some h => exact lineOf_eq h
  | none => rfl

section Node

variable (h : node.SameWords source source' other)

include h

/-- The children in a field match. -/
theorem rel_childIn? (field : String) :
    Option.Rel (Node.SameWords source source') (node.childIn? field) (other.childIn? field) :=
  rel_find? (fun h => h.fills field) h.children

/-- The first children of a type match. -/
theorem rel_childOf? (type : String) :
    Option.Rel (Node.SameWords source source') (node.childOf? type) (other.childOf? type) :=
  rel_find? (fun h => h.isOf type) h.children

/-- The named children match. -/
theorem forall₂_namedChildren :
    List.Forall₂ (Node.SameWords source source') node.namedChildren other.namedChildren :=
  forall₂_filter (fun h => h.face.named) h.children

/-- Names are read alike. -/
theorem nameOf_eq : nameOf source node = nameOf source' other := by
  rw [nameOf, nameOf, lineOf?_eq (rel_childIn? h "name")]

end Node

/-- The names in a list are read alike. -/
theorem namesOf_eq (type : String) (h : List.Forall₂ (Node.SameWords source source') nodes others) :
    namesOf source (Node.isOf type) nodes = namesOf source' (Node.isOf type) others := by
  induction h with
  | nil => rfl
  | cons hnode _ ih => rw [namesOf, namesOf, hnode.isOf type, nameOf_eq hnode, ih]

/-- The names of an enumeration are read alike. -/
theorem enumNames_eq (h : node.SameWords source source' other) :
    enumNames source node = enumNames source' other := by
  obtain ⟨hnone, hnone'⟩ | ⟨body, body', hbody, hbody', hsame⟩ :=
    rel_cases (rel_or (rel_childIn? h "body") (rel_childOf? h "enum_member_declaration_list"))
  · simp only [enumNames, hnone, hnone']
  · simp only [enumNames, hbody, hbody', namesOf_eq _ (forall₂_namedChildren hsame)]

/-- Signatures are read alike. -/
theorem signatureOf_eq (h : node.SameWords source source' other) (kind : Kind) :
    signatureOf source node kind = signatureOf source' other kind := by
  have hname := nameOf_eq h
  have hparameters := lineOf?_eq (rel_or (rel_childIn? h "parameters") (rel_childOf? h "parameter_list"))
  have htype := lineOf?_eq (rel_childIn? h "type")
  have hreturns := lineOf?_eq (rel_or (rel_childIn? h "returns") (rel_childIn? h "type"))
  cases kind with
  | nameSpace | classType | interfaceType => exact hname
  | record | constructor => simp only [signatureOf, callableSignature, parameters?, hname, hparameters]
  | enumeration => simp only [signatureOf, enumSignature, enumNames_eq h, hname]
  | method => simp only [signatureOf, methodSignature, parameters?, hreturns, hname, hparameters]
  | property => simp only [signatureOf, propertySignature, htype, hname]

/-- The line of the node that names a base type is the same, or there is none in either tree. -/
theorem baseNode_bind_eq {β : Type} (h : node.SameWords source source' other)
    (next : List Char → Except Fault β) :
    (baseNode node >>= fun found => lineOf source found >>= next) =
      baseNode other >>= fun found => lineOf source' found >>= next := by
  unfold baseNode
  rw [h.isOf]
  -- With arguments the base type is the node in front of them, and without them the node itself.
  split
  · obtain ⟨hnone, hnone'⟩ | ⟨found, found', hfound, hfound', hsame⟩ :=
      rel_cases (rel_or (rel_childIn? h "type") (rel_head? (forall₂_namedChildren h)))
    · rw [hnone, hnone']
      rfl
    · rw [hfound, hfound']
      exact congrArg (· >>= next) (lineOf_eq hsame)
  · exact congrArg (· >>= next) (lineOf_eq h)

/-- The base types in a list are read alike. -/
theorem baseNames_eq (h : List.Forall₂ (Node.SameWords source source') nodes others) :
    baseNames source nodes = baseNames source' others := by
  induction h with
  | nil => rfl
  | cons hnode _ ih => rw [baseNames, baseNames, hnode.isOf, hnode.isOf, ih, baseNode_bind_eq hnode]

/-- Base types are read alike. -/
theorem baseTypes_eq (h : node.SameWords source source' other) :
    baseTypes source node = baseTypes source' other := by
  obtain ⟨hnone, hnone'⟩ | ⟨list, list', hlist, hlist', hsame⟩ := rel_cases (rel_childOf? h "base_list")
  · simp only [baseTypes, hnone, hnone']
  · simp only [baseTypes, hlist, hlist', baseNames_eq (forall₂_namedChildren hsame)]

/-- Attributes are read alike. -/
theorem attributesOf_eq (h : node.SameWords source source' other) :
    attributesOf source node = attributesOf source' other := by
  have hlists : ∀ {nodes others : List Node}, List.Forall₂ (Node.SameWords source source') nodes others →
      attributeNames source nodes = attributeNames source' others := by
    intro nodes others h
    induction h with
    | nil => rfl
    | cons hnode _ ih =>
      rw [attributeNames, attributeNames, namesOf_eq _ (forall₂_namedChildren hnode), ih]
  exact hlists (forall₂_filter (fun h => h.isOf "attribute_list") h.children)

end Readings

/-! ## Modifiers -/

section Modifiers

variable {source source' : Bytes} {node other : Node} {modifiers modifiers' : List String}

/-- A word is among the modifiers exactly if one of them is that word on one line. The text of a modifier may
have blanks around the word, and a modifier without text is left out. -/
theorem mem_modifierTexts_iff {nodes : List Node} (h : modifierTexts source nodes = .ok modifiers)
    {word : String} (hword : ∀ c ∈ word.toList, isBlank c = false) (hne : word.toList ≠ []) :
    word ∈ modifiers ↔
      ∃ node ∈ nodes, node.isOf "modifier" = true ∧ node.lineText source = .ok word.toList := by
  induction nodes generalizing modifiers with
  | nil =>
    cases h
    simp
  | cons node nodes ih =>
    simp only [List.mem_cons, exists_eq_or_imp]
    rw [modifierTexts] at h
    split at h
    · next hmodifier =>
      -- The modifier is trimmed, and it is the word exactly if it is the word on one line.
      rw [Bool.and_eq_true] at hmodifier
      obtain ⟨text, htext, h⟩ := Outcome.bind_eq_ok.1 h
      obtain ⟨texts, htexts, h⟩ := Outcome.bind_eq_ok.1 h
      cases h
      rw [Outcome.mapError_eq_ok] at htext
      have hline : word = String.ofList (Text.trim text) ↔ Text.oneLine text = word.toList := by
        rw [← Text.trim_eq_word_iff hword, eq_comm, ← String.toList_inj, String.toList_ofList]
      rw [List.mem_cons, ih htexts, hline, Node.lineText, htext]
      simp [hmodifier.1, Except.map]
    · next hmodifier =>
      -- What is passed over is no modifier, or it has no text and so not that of the word.
      have hnot : ¬ (node.isOf "modifier" = true ∧ node.lineText source = .ok word.toList) := by
        rintro ⟨htype, hline⟩
        have hempty : node.bytes source = [] := by simpa [htype] using hmodifier
        rw [Node.lineText, Node.text, hempty] at hline
        exact hne (Except.ok.inj hline).symm
      rw [or_iff_right hnot]
      exact ih h

/-- Visibility and the mark of a static declaration depend on these words only. -/
theorem visible_static_eq
    (h : ∀ word ∈ "static" :: accessModifiers, (word ∈ modifiers ↔ word ∈ modifiers')) :
    (∀ parent contextual, isVisibleIn modifiers parent contextual = isVisibleIn modifiers' parent contextual) ∧
      isStatic modifiers = isStatic modifiers' := by
  have hcontains : ∀ word ∈ "static" :: accessModifiers,
      modifiers.contains word = modifiers'.contains word := by
    intro word hmem
    rw [Bool.eq_iff_iff, List.contains_iff_mem, List.contains_iff_mem, h word hmem]
  have hmarked : isMarked modifiers = isMarked modifiers' := by
    rw [Bool.eq_iff_iff]
    simp only [isMarked, List.any_eq_true, List.contains_iff_mem]
    constructor
    · rintro ⟨word, hword, haccess⟩
      exact ⟨word, (h word (List.mem_cons_of_mem _ haccess)).1 hword, haccess⟩
    · rintro ⟨word, hword, haccess⟩
      exact ⟨word, (h word (List.mem_cons_of_mem _ haccess)).2 hword, haccess⟩
  refine ⟨fun parent contextual => ?_, hcontains _ List.mem_cons_self⟩
  unfold isVisibleIn isVisible
  rw [hmarked, hcontains "private" (by decide), hcontains "public" (by decide),
    hcontains "internal" (by decide)]

/-- Modifiers that can be read in both trees mean the same. -/
theorem modifiersOf_alike (h : node.SameWords source source' other)
    (hmodifiers : modifiersOf source node = .ok modifiers)
    (hmodifiers' : modifiersOf source' other = .ok modifiers') :
    (∀ parent contextual, isVisibleIn modifiers parent contextual = isVisibleIn modifiers' parent contextual) ∧
      isStatic modifiers = isStatic modifiers' := by
  -- A word is the line of a modifier in both trees or in neither.
  have hmatch : ∀ {nodes others : List Node}, List.Forall₂ (Node.SameWords source source') nodes others →
      ∀ word, (∃ node ∈ nodes, node.isOf "modifier" = true ∧ node.lineText source = .ok word) ↔
        ∃ other ∈ others, other.isOf "modifier" = true ∧ other.lineText source' = .ok word := by
    intro nodes others h word
    induction h with
    | nil => simp
    | cons hnode _ ih => simp only [List.mem_cons, exists_eq_or_imp, hnode.isOf, hnode.lineText, ih]
  -- None of the words that matter has a blank in it.
  have hwords : ∀ word ∈ "static" :: accessModifiers,
      word.toList ≠ [] ∧ ∀ c ∈ word.toList, isBlank c = false := by
    have hplain : ∀ word ∈ "static" :: accessModifiers,
        (!word.toList.isEmpty && word.toList.all fun c => !isBlank c) = true := by decide
    intro word hmem
    simpa using hplain word hmem
  apply visible_static_eq
  intro word hmem
  obtain ⟨hne, hword⟩ := hwords word hmem
  rw [mem_modifierTexts_iff hmodifiers hword hne, mem_modifierTexts_iff hmodifiers' hword hne,
    hmatch h.children]

end Modifiers

/-! ## The walk -/

/-- A member without its line and its documentation. -/
def Member.withoutLayout (member : Member) : Member :=
  { member with line := none, doc := none }

section Walk

variable {source source' : Bytes} {long long' : Prop} (contextual : Bool)

/-- The bodies of nodes that match do. -/
theorem rel_bodyOf? {node other : Node} (h : node.SameWords source source' other) :
    Option.Rel (Node.SameWords source source') (bodyOf? node) (bodyOf? other) := by
  have hany : ∀ {nodes others : List Node}, List.Forall₂ (Node.SameWords source source') nodes others →
      nodes.any (Node.fills "body") = others.any (Node.fills "body") := by
    intro nodes others h
    induction h with
    | nil => rfl
    | cons hfirst _ ih => rw [List.any_cons, List.any_cons, hfirst.fills, ih]
  -- Both lists choose their body by the same test.
  have hsame : isBodyAmong other.children = isBodyAmong node.children := by
    unfold isBodyAmong
    rw [hany h.children]
  unfold bodyOf?
  rw [hsame]
  refine rel_find? (fun hnode => ?_) h.children
  unfold isBodyAmong
  split
  · exact hnode.fills "body"
  · exact hnode.isOf "declaration_list"

/-- Whether two nodes match and their trees can be read. -/
structure ReadAlike (source source' : Bytes) (long long' : Prop) (node other : Node) : Prop where
  words : node.SameWords source source' other
  first : ReadableTree source long node
  second : ReadableTree source' long' other

/-- Trees that match and can be read do so one by one. -/
theorem forall₂_readAlike {nodes others : List Node}
    (h : List.Forall₂ (Node.SameWords source source') nodes others)
    (hread : ∀ node ∈ nodes, ReadableTree source long node)
    (hread' : ∀ other ∈ others, ReadableTree source' long' other) :
    List.Forall₂ (ReadAlike source source' long long') nodes others := by
  induction h with
  | nil => exact .nil
  | cons hnode _ ih =>
    rw [List.forall_mem_cons] at hread hread'
    exact .cons ⟨hnode, hread.1, hread'.1⟩ (ih hread.2 hread'.2)

/-- Below trees that match and can be read are such trees. -/
theorem ReadAlike.children {node other : Node} (h : ReadAlike source source' long long' node other) :
    List.Forall₂ (ReadAlike source source' long long') node.children other.children :=
  forall₂_readAlike h.words.children (fun _ => h.first.child) fun _ => h.second.child

/-- The bodies of nodes that match are walked alike if containers that match are. -/
theorem agrees_bodies {node other : Node} (h : ReadAlike source source' long long' node other) (kind : Kind)
    (ih : ∀ body, bodyOf? node = some body → ∀ body', ReadAlike source source' long long' body body' →
      Agrees long long' (SameOnce Member.withoutLayout)
        (walkInside ⟨source, contextual⟩ (some kind) body).outcome
        (walkInside ⟨source', contextual⟩ (some kind) body').outcome) :
    Agrees long long' (SameOnce Member.withoutLayout)
      (walkBody ⟨source, contextual⟩ (some kind) (isBodyAmong node.children) node.children).outcome
      (walkBody ⟨source', contextual⟩ (some kind) (isBodyAmong other.children) other.children).outcome := by
  rw [walkBody_eq, walkBody_eq]
  obtain ⟨hnone, hnone'⟩ | ⟨body, body', hbody, hbody', hwords⟩ := rel_cases (rel_bodyOf? h.words)
  · rw [hnone, hnone']
    exact .ok rfl
  · have hread := h.first.child (List.mem_of_find?_eq_some hbody)
    have hread' := h.second.child (List.mem_of_find?_eq_some hbody')
    rw [hbody, hbody']
    exact ih body hbody body' ⟨hwords, hread, hread'⟩

/-- Trees that match are walked alike. The induction is along the first tree, and the second one is taken apart
with it. What stands before a node matters to its documentation only, so it need not match. -/
theorem agrees_cases : WalkCases
    (fun parent before node => ∀ other before', ReadAlike source source' long long' node other →
      (∀ sibling ∈ before, Readable source long sibling) →
      (∀ sibling ∈ before', Readable source' long' sibling) →
      Agrees long long' (SameOnce Member.withoutLayout)
        (walkNode ⟨source, contextual⟩ parent before node).outcome
        (walkNode ⟨source', contextual⟩ parent before' other).outcome)
    (fun parent node => ∀ other, ReadAlike source source' long long' node other →
      Agrees long long' (SameOnce Member.withoutLayout)
        (walkInside ⟨source, contextual⟩ parent node).outcome
        (walkInside ⟨source', contextual⟩ parent other).outcome)
    (fun parent before nodes => ∀ others before',
      List.Forall₂ (ReadAlike source source' long long') nodes others →
      (∀ sibling ∈ before, Readable source long sibling) →
      (∀ sibling ∈ before', Readable source' long' sibling) →
      Agrees long long' (SameOnce Member.withoutLayout)
        (walkFrom ⟨source, contextual⟩ parent before nodes).outcome
        (walkFrom ⟨source', contextual⟩ parent before' others).outcome)
    (fun before nodes => ∀ others before',
      List.Forall₂ (ReadAlike source source' long long') nodes others →
      (∀ sibling ∈ before, Readable source long sibling) →
      (∀ sibling ∈ before', Readable source' long' sibling) →
      Agrees long long' (SameOnce Member.withoutLayout)
        (walkRest ⟨source, contextual⟩ before nodes).outcome
        (walkRest ⟨source', contextual⟩ before' others).outcome) where
  nameSpace hrole ih other before' h _ _ :=
    agrees_namespace hrole (h.words.role.symm.trans hrole) (nameOf_eq h.words) (fun _ => rfl)
      (agrees_bodies contextual h .nameSpace ih)
  declaration {parent before node kind} hrole ih other before' h hbefore hbefore' := by
    -- Modifiers may differ in their texts, but not in what they mean.
    obtain ⟨modifiers, hmodifiers⟩ := exists_modifierTexts fun node hmem => (h.first.child hmem).self.1
    obtain ⟨modifiers', hmodifiers'⟩ := exists_modifierTexts fun node hmem => (h.second.child hmem).self.1
    obtain ⟨hvisible, hstatic⟩ := modifiersOf_alike h.words hmodifiers hmodifiers'
    exact agrees_declaration hrole (h.words.role.symm.trans hrole) hmodifiers hmodifiers'
      (hvisible parent contextual) hstatic hbefore hbefore' (fun _ => baseTypes_eq h.words)
      (signatureOf_eq h.words kind) (attributesOf_eq h.words) (fun _ _ _ => rfl)
      (fun _ _ => agrees_bodies contextual h kind ih)
  region {parent before node} hrole ih other before' h _ _ := by
    rw [walkNode_eq, walkNode_eq ⟨source', contextual⟩, ← h.words.role, hrole]
    exact ih other h
  passed {parent before node} hrole other before' h _ _ := by
    rw [walkNode_eq, walkNode_eq ⟨source', contextual⟩, ← h.words.role]
    obtain hrole | hrole := hrole <;> rw [hrole] <;> exact .ok rfl
  opened ih other h := by
    rw [walkInside_eq, walkInside_eq]
    exact ih other.children [] h.children (by simp) (by simp)
  fromNil others before' h _ _ := by
    obtain rfl := List.forall₂_nil_left_iff.1 h
    exact .ok rfl
  fromUnnamed hnamed ih others before' h hbefore hbefore' := by
    obtain ⟨other, rest, hnode, hrest, rfl⟩ := List.forall₂_cons_left_iff.1 h
    rw [walkFrom_unnamed _ _ _ _ hnamed, walkFrom_unnamed _ _ _ _ (hnode.words.face.named ▸ hnamed)]
    exact ih rest before' hrest hbefore hbefore'
  fromFile hnamed hrole hopen ih others before' h hbefore hbefore' := by
    obtain ⟨other, rest, hnode, hrest, rfl⟩ := List.forall₂_cons_left_iff.1 h
    rw [walkFrom_file _ _ _ _ hnamed hrole,
      walkFrom_file _ _ _ _ (hnode.words.face.named ▸ hnamed) (hnode.words.role ▸ hrole)]
    refine agrees_file (nameOf_eq hnode.words) (fun _ => rfl) (hopen other hnode) (ih rest _ hrest ?_ ?_)
    · exact List.forall_mem_cons.2 ⟨hnode.first.self, hbefore⟩
    · exact List.forall_mem_cons.2 ⟨hnode.second.self, hbefore'⟩
  fromNode hnamed hrole hlook ih others before' h hbefore hbefore' := by
    obtain ⟨other, rest, hnode, hrest, rfl⟩ := List.forall₂_cons_left_iff.1 h
    rw [walkFrom_node _ _ _ _ hnamed hrole,
      walkFrom_node _ _ _ _ (hnode.words.face.named ▸ hnamed) (hnode.words.role ▸ hrole)]
    refine agrees_append (hlook other before' hnode hbefore hbefore') (ih rest _ hrest ?_ ?_)
    · exact List.forall_mem_cons.2 ⟨hnode.first.self, hbefore⟩
    · exact List.forall_mem_cons.2 ⟨hnode.second.self, hbefore'⟩
  restNil others before' h _ _ := by
    obtain rfl := List.forall₂_nil_left_iff.1 h
    exact .ok rfl
  restUnnamed hnamed ih others before' h hbefore hbefore' := by
    obtain ⟨other, rest, hnode, hrest, rfl⟩ := List.forall₂_cons_left_iff.1 h
    rw [walkRest_unnamed _ _ _ hnamed, walkRest_unnamed _ _ _ (hnode.words.face.named ▸ hnamed)]
    exact ih rest before' hrest hbefore hbefore'
  restNode hnamed hlook ih others before' h hbefore hbefore' := by
    obtain ⟨other, rest, hnode, hrest, rfl⟩ := List.forall₂_cons_left_iff.1 h
    rw [walkRest_node _ _ _ hnamed, walkRest_node _ _ _ (hnode.words.face.named ▸ hnamed)]
    refine agrees_append (hlook other before' hnode hbefore hbefore') (ih rest _ hrest ?_ ?_)
    · exact List.forall_mem_cons.2 ⟨hnode.first.self, hbefore⟩
    · exact List.forall_mem_cons.2 ⟨hnode.second.self, hbefore'⟩

end Walk

mutual

/-- Trees whose texts are compared are legible. -/
theorem legible_of_sameWords {source source' : Bytes} : ∀ root root' : Node,
    root.SameWords source source' root' → root.Legible source ∧ root'.Legible source'
  | ⟨type, start, stop, field, named, missing, hasError, children⟩, root', h => by
    obtain ⟨hbelow, hbelow'⟩ := legible_of_forall₂ children root'.children h.children
    obtain ⟨line, hline, hline'⟩ := h.face.line
    obtain ⟨text, htext, -⟩ := Outcome.map_eq_ok.1 hline
    obtain ⟨text', htext', -⟩ := Outcome.map_eq_ok.1 hline'
    constructor
    · intro node hnode
      obtain rfl | ⟨child, hchild, hinner⟩ := Node.within_iff.1 hnode
      · exact ⟨text, htext⟩
      · exact hbelow child hchild node hinner
    · intro node hnode
      obtain rfl | ⟨child, hchild, hinner⟩ := Node.within_iff.1 hnode
      · exact ⟨text', htext'⟩
      · exact hbelow' child hchild node hinner
termination_by structural root => root

/-- The same for lists of trees. -/
theorem legible_of_forall₂ {source source' : Bytes} : ∀ nodes others : List Node,
    List.Forall₂ (Node.SameWords source source') nodes others →
      (∀ node ∈ nodes, node.Legible source) ∧ ∀ other ∈ others, other.Legible source'
  | [], others, h => by
    obtain rfl := List.forall₂_nil_left_iff.1 h
    simp
  | node :: nodes, others, h => by
    obtain ⟨other, rest, hnode, hrest, rfl⟩ := List.forall₂_cons_left_iff.1 h
    obtain ⟨hfirst, hfirst'⟩ := legible_of_sameWords node other hnode
    obtain ⟨hlater, hlater'⟩ := legible_of_forall₂ nodes rest hrest
    exact ⟨List.forall_mem_cons.2 ⟨hfirst, hlater⟩, List.forall_mem_cons.2 ⟨hfirst', hlater'⟩⟩
termination_by structural nodes => nodes

end

/-- **Signatures do not depend on layout.** Let two trees of two sources have the same shape, and let their
nodes have texts that are the same on one line. Then both have outlines or neither does, and the outlines are
the same up to the lines and the documentation of their members. The one exception is a documentation comment
with too long a number, which can stop one of the two. -/
theorem outline_ignores_layout (source source' : Bytes) (root root' : Node)
    (h : root.SameWords source source' root') (contextual : Bool) (path : String) :
    Agrees (HasLongComment source root) (HasLongComment source' root')
        (fun file file' => file.map (FileMap.everywhere Member.withoutLayout) =
          file'.map (FileMap.everywhere Member.withoutLayout))
        (mapTree ⟨source, contextual⟩ path root).outcome (mapTree ⟨source', contextual⟩ path root').outcome ∧
      (¬ HasLongComment source root → ¬ HasLongComment source' root' →
        ((∃ file, (mapTree ⟨source, contextual⟩ path root).outcome = .ok file) ↔
          ∃ file', (mapTree ⟨source', contextual⟩ path root').outcome = .ok file')) := by
  -- A tree whose nodes have lines is legible, so only a long number can stop the walk.
  obtain ⟨hlegible, hlegible'⟩ := legible_of_sameWords root root' h
  have hagrees := agrees_mapTree path ((agrees_cases contextual).open none root root'
    ⟨h, readableTree_of_legible hlegible, readableTree_of_legible hlegible'⟩)
  exact ⟨hagrees, fun hlong hlong' => hagrees.succeeds_iff hlong hlong'⟩

/-- A static class with one method, all in one row. -/
def tightSource : Bytes :=
  Text.Utf8.ofString "// a\nstatic class A \x7b int B(int x) ; \x7d"

/-- The same, with more blanks and line feeds. -/
def looseSource : Bytes :=
  Text.Utf8.ofString "// a\n\n\nstatic\n\nclass  A\n\x7b\n  int B(int\n x)\n;\n\x7d"

/-- The tree of either source, with the ranges of its nodes. -/
def staticTree (stop : Nat) (type modifier name body method returns methodName parameters : Nat × Nat) : Node :=
  { type := "compilation_unit", start := 0, stop := stop, children := [
    { type := "comment", start := 0, stop := 4 },
    { type := "class_declaration", start := type.1, stop := type.2, children := [
      { type := "modifier", start := modifier.1, stop := modifier.2 },
      { type := "identifier", start := name.1, stop := name.2, field := some "name" },
      { type := "declaration_list", start := body.1, stop := body.2, field := some "body", children := [
        { type := "method_declaration", start := method.1, stop := method.2, children := [
          { type := "predefined_type", start := returns.1, stop := returns.2, field := some "returns" },
          { type := "identifier", start := methodName.1, stop := methodName.2, field := some "name" },
          { type := "parameter_list", start := parameters.1, stop := parameters.2,
            field := some "parameters" }] }] }] }] }

/-- The tree of the source in one row. -/
def tightTree : Node :=
  staticTree 38 (5, 38) (5, 11) (18, 19) (20, 38) (22, 36) (22, 25) (26, 27) (27, 34)

/-- Here the modifier has blanks around it. -/
def looseTree : Node :=
  staticTree 45 (7, 45) (6, 15) (21, 23) (24, 45) (28, 43) (28, 31) (32, 33) (33, 41)

/-- The two outlines differ in the line of the class and are the same without lines. -/
theorem looseTree_outline : tightTree.SameWords tightSource looseSource looseTree ∧
    ∃ file file', (mapTree ⟨tightSource, false⟩ "A.cs" tightTree).outcome = .ok (some file) ∧
      (mapTree ⟨looseSource, false⟩ "A.cs" looseTree).outcome = .ok (some file') ∧
      file.members.map (fun member => (member.signature, member.line, member.isStatic)) =
        [("A", some 2, true)] ∧
      file'.members.map (fun member => (member.signature, member.line, member.isStatic)) =
        [("A", some 4, true)] ∧
      file.everywhere Member.withoutLayout = file'.everywhere Member.withoutLayout := by
  have hsame : tightTree.SameWords tightSource looseSource looseTree := by decide +kernel
  obtain ⟨hagrees, -⟩ := outline_ignores_layout _ _ _ _ hsame false "A.cs"
  refine ⟨hsame, _, _, rfl, rfl, by decide +kernel, by decide +kernel, ?_⟩
  exact Option.some.inj (hagrees.results _ _ rfl rfl)

/-! ## A comment two lines away -/

section Moved

open Text.Utf8 (encode)

/-- A class has the same texts wherever it is. -/
theorem sameWords_bareClass (pre pre' : List Char) :
    (bareClass (encode pre).length).SameWords (encode (pre ++ classText)) (encode (pre' ++ classText))
      (bareClass (encode pre').length) := by
  -- Each part is at the same offset from the start of the class, and so has the same text.
  have hline : ∀ {node other : Node} {i j : Nat}, i + j ≤ 10 →
      node.start = (encode pre).length + i → node.stop = (encode pre).length + (i + j) →
      other.start = (encode pre').length + i → other.stop = (encode pre').length + (i + j) →
      ∃ line, node.lineText (encode (pre ++ classText)) = .ok line ∧
        other.lineText (encode (pre' ++ classText)) = .ok line := by
    intro node other i j hj hstart hstop hstart' hstop'
    refine ⟨_, congrArg (Except.map Text.oneLine) (text_in_classText hj hstart hstop), ?_⟩
    exact congrArg (Except.map Text.oneLine) (text_in_classText hj hstart' hstop')
  refine ⟨⟨rfl, rfl, rfl, hline (i := 0) (j := 10) (by decide) rfl rfl rfl rfl⟩, _, _, rfl, ?_⟩
  refine ⟨⟨⟨rfl, rfl, rfl, hline (i := 0) (j := 5) (by decide) rfl rfl rfl rfl⟩, rfl⟩, _, _, rfl, ?_⟩
  refine ⟨⟨⟨rfl, rfl, rfl, hline (i := 6) (j := 1) (by decide) rfl rfl rfl rfl⟩, rfl⟩, _, _, rfl, ?_⟩
  refine ⟨⟨⟨rfl, rfl, rfl, hline (i := 8) (j := 2) (by decide) rfl rfl rfl rfl⟩, _, _, rfl, ?_⟩, rfl⟩
  refine ⟨⟨⟨rfl, rfl, rfl, hline (i := 8) (j := 1) (by decide) rfl rfl rfl rfl⟩, rfl⟩, _, _, rfl, ?_⟩
  exact ⟨⟨⟨rfl, rfl, rfl, hline (i := 9) (j := 1) (by decide) rfl rfl rfl rfl⟩, rfl⟩, rfl⟩

/-- More blanks between the comment and the class do not change the texts. -/
theorem Commented.sameWords_tree {sample other : Commented} (hcomment : sample.comment = other.comment)
    (hline : Text.oneLine sample.text = Text.oneLine other.text) :
    sample.tree.SameWords sample.source other.source other.tree := by
  -- The text of the whole tree is the source, and that of the comment is the comment.
  have hwhole : ∀ sample : Commented, sample.tree.lineText sample.source = .ok (Text.oneLine sample.text) := by
    intro sample
    have htext : sample.tree.text sample.source = .ok sample.text := by
      show Text.Utf8.decode (sample.source.take (sample.source.length - 0)) = _
      rw [Nat.sub_zero, List.take_length, sample.decode_source]
    rw [Node.lineText, htext]
    rfl
  have hpart : ∀ sample : Commented,
      sample.commentNode.lineText sample.source = .ok (Text.oneLine sample.comment) := by
    intro sample
    rw [Node.lineText, sample.text_commentNode]
    rfl
  refine ⟨⟨rfl, rfl, rfl, _, hwhole sample, hline ▸ hwhole other⟩, _, _, rfl, ?_, _, _, rfl, ?_, rfl⟩
  · exact ⟨⟨rfl, rfl, rfl, _, hpart sample, hcomment ▸ hpart other⟩, rfl⟩
  · exact sameWords_bareClass sample.before other.before

end Moved

/-- Two trees of the same shape and the same texts, of which one has no outline because of a number with
4301 digits in a comment directly before the class, and the other one has an outline. -/
theorem longNumber_depends_on_layout :
    let near : Commented := ⟨[], Doc.lineComment Doc.longLine, ['\n']⟩
    let far : Commented := ⟨[], Doc.lineComment Doc.longLine, ['\n', '\n']⟩
    near.tree.SameWords near.source far.source far.tree ∧
      (∃ fault, (mapTree ⟨near.source, false⟩ "A.cs" near.tree).outcome = .error (.tooManyDigits fault)) ∧
      ∃ file, (mapTree ⟨far.source, false⟩ "A.cs" far.tree).outcome = .ok (some file) ∧
        file.members.map (fun member => (member.kind, member.doc)) = [(.classType, none)] := by
  intro near far
  have hnear : near.gap ≤ 1 := by decide
  have hfar : 1 < far.gap := by decide
  obtain ⟨hdoc, hlong⟩ := Doc.longLine_comments near.comment (List.mem_cons_self ..)
  -- The two sources differ in the number of line feeds between the comment and the class.
  have hline : Text.oneLine near.text = Text.oneLine far.text := by
    have hcollapse : Text.collapse far.text = Text.collapse near.text := by
      rw [Commented.text_eq, Commented.text_eq]
      exact Text.collapse_append_blank (by decide) (by decide) near.comment classText
    rw [Text.oneLine, Text.oneLine, hcollapse]
  exact ⟨Commented.sameWords_tree rfl hline, Commented.tree_fails hnear hdoc hlong "A.cs",
    Commented.mapTree_of_far hfar "A.cs"⟩

end ApiOutline.Outline
