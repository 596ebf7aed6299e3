import ApiOutline.Proofs.CommentRuns
import ApiOutline.Proofs.OneLine

/-!
# Walks that come to the same members

Two walks are compared, through two trees or through one tree in two ways. What they make of a declaration
may differ in its documentation, since that depends on where comments stand. So may the way they end: a
comment with too long a number stops a walk only if it is the documentation of a declaration
(`exists_longComment`). Otherwise the two come to the same members. `Agrees` says this of the outcomes of two
steps, and it is put together as the steps are (`Agrees.bind`).

`Member.everywhere` changes a member at every depth: members that are equal up to some of their fields are
equal once these are left out.
-/

namespace ApiOutline.Text

/-- Trimming leaves a part of the text. -/
theorem trim_part (cs : List Char) : trim cs <:+: cs :=
  (trimEnd_isPrefix _).isInfix.trans (List.dropWhile_suffix _).isInfix

/-- Each piece is a part of the pieces together. -/
theorem part_join (sep : List Char) {piece : List Char} {pieces : List (List Char)} (h : piece ∈ pieces) :
    piece <:+: join sep pieces := by
  fun_induction join sep pieces with
  | case1 => cases h
  | case2 only => exact List.mem_singleton.1 h ▸ List.infix_refl _
  | case3 first next rest ih =>
    obtain rfl | hrest := List.mem_cons.1 h
    · exact ⟨[], sep ++ join sep (next :: rest), by simp⟩
    · exact (ih hrest).trans (List.suffix_append _ _).isInfix

end ApiOutline.Text

namespace ApiOutline.Html

open Text (join)

variable {cs ds : List Char}

/-- A text refers by too long a number if a part of it does. -/
theorem HasLongReference.of_part (h : HasLongReference cs) (hpart : cs <:+: ds) : HasLongReference ds := by
  obtain ⟨front, number, rfl, digits, rest, rfl, hdigits, hlong⟩ := h
  obtain ⟨pre, post, rfl⟩ := hpart
  exact ⟨pre ++ front, '#' :: (digits ++ (rest ++ post)), by simp, digits, rest ++ post, rfl, hdigits, hlong⟩

/-- A number does not go on in the next line. -/
theorem startsLong_line (h : StartsLong (cs ++ '\n' :: ds)) : StartsLong cs := by
  obtain ⟨digits, rest, hcs, hdigits, hlong⟩ := h
  cases cs with
  | nil => cases hcs
  | cons mark cs =>
    obtain ⟨rfl, hsame⟩ := List.cons.inj hcs
    -- The digits end in the first line, or the line feed would be one of them.
    obtain ⟨more, rfl, -⟩ | ⟨more, rfl, hbreak⟩ := List.append_eq_append_iff.1 hsame.symm
    · exact ⟨digits, more, rfl, hdigits, hlong⟩
    · cases more with
      | nil => exact ⟨cs, [], by simp, by simpa using hdigits, by simpa using hlong⟩
      | cons c more =>
        obtain ⟨rfl, -⟩ := List.cons.inj hbreak
        exact absurd (hdigits '\n' (by simp)) (by decide)

/-- A reference is in one of the two parts around a line feed. -/
theorem hasLongReference_line (h : HasLongReference (cs ++ '\n' :: ds)) :
    HasLongReference cs ∨ HasLongReference ds := by
  obtain ⟨front, number, hcs, hlong⟩ := h
  -- The line feed is in what stands before the reference, or in the reference itself.
  obtain ⟨more, rfl, hbreak⟩ | ⟨more, rfl, hnumber⟩ := List.append_eq_append_iff.1 hcs
  · cases more with
    | nil => cases hbreak
    | cons c more => exact .inr ⟨more, number, (List.cons.inj hbreak).2, hlong⟩
  · cases more with
    | nil => cases hnumber
    | cons c more =>
      obtain ⟨rfl, rfl⟩ := List.cons.inj hnumber
      exact .inl ⟨front, more, rfl, startsLong_line hlong⟩

/-- A reference is in one of the lines. -/
theorem exists_of_join {pieces : List (List Char)} (h : HasLongReference (join ['\n'] pieces)) :
    ∃ piece ∈ pieces, HasLongReference piece := by
  fun_induction join ['\n'] pieces with
  | case1 =>
    obtain ⟨front, number, hnil, -⟩ := h
    simp at hnil
  | case2 piece => exact ⟨piece, List.mem_singleton_self piece, h⟩
  | case3 piece next rest ih =>
    rw [List.append_assoc] at h
    obtain h | h := hasLongReference_line h
    · exact ⟨piece, List.mem_cons_self, h⟩
    · obtain ⟨found, hfound, hlong⟩ := ih h
      exact ⟨found, List.mem_cons_of_mem _ hfound, hlong⟩

end ApiOutline.Html

namespace ApiOutline.Doc

open Html (HasLongReference)

/-! ## Where a long number comes from -/

/-- Taking off marks leaves a part of the line. -/
theorem cleanLine_part (line : List Char) : cleanLine line <:+: line := by
  have hopening : ∀ cs, dropOpening cs <:+: cs := by
    intro cs
    unfold dropOpening
    split
    · exact (List.drop_suffix _ _).isInfix
    · exact List.infix_refl _
  have hclosing : ∀ cs, dropClosing cs <:+: cs := by
    intro cs
    have hlast := List.dropLast_prefix cs
    have hboth := List.dropLast_prefix cs.dropLast
    unfold dropClosing
    split
    · exact (Text.trimEnd_isPrefix _).isInfix.trans (hboth.trans hlast).isInfix
    · exact List.infix_refl _
  have hstar : ∀ cs, dropStar cs <:+: cs := by
    intro cs
    unfold dropStar
    split
    · exact ((List.dropWhile_suffix _).trans (List.suffix_cons _ _)).isInfix
    · exact List.infix_refl _
  -- The four steps of cleaning a line, from the last to the first.
  exact (hstar _).trans ((hclosing _).trans ((Text.trim_part _).trans
    ((hopening _).trans (Text.trim_part line))))

/-- A long number in the body of a comment is in the comment. -/
theorem hasLongReference_clean {comment : List Char} (h : HasLongReference (clean comment)) :
    HasLongReference comment := by
  -- A reference does not go across a line end, so it is in a single line of the body.
  obtain ⟨piece, hpiece, hlong⟩ := Html.exists_of_join h
  obtain ⟨line, hline, rfl⟩ := List.mem_map.1 hpiece
  have hpart : line <:+: comment := by
    have hjoined := Text.part_join ['\n'] hline
    rwa [Text.lines, Text.join_splitAt] at hjoined
  exact hlong.of_part ((cleanLine_part line).trans hpart)

/-- A raw summary is a part of the body. -/
theorem rawSummary?_part {body raw : List Char} (h : rawSummary? body = some raw) : raw <:+: body := by
  -- The summary ends before its closing tag, so it is a prefix of what follows the opening one.
  have hclosing : ∀ {cs inner : List Char}, beforeClosing? cs = some inner → inner <+: cs := by
    intro cs
    induction cs with
    | nil => simp [beforeClosing?]
    | cons c cs ih =>
      intro inner hinner
      rw [beforeClosing?] at hinner
      split at hinner
      · cases hinner
        exact List.nil_prefix
      · obtain ⟨rest, hrest, rfl⟩ := Option.map_eq_some_iff.1 hinner
        exact List.cons_prefix_cons.2 ⟨rfl, ih hrest⟩
  have hword : ∀ {word cs rest : List Char}, dropWord? word cs = some rest → rest <:+ cs := by
    intro word cs rest hrest
    fun_induction dropWord? word cs with
    | case1 => exact Option.some.inj hrest ▸ List.suffix_refl _
    | case2 => cases hrest
    | case3 letter word c cs _ ih => exact (ih hrest).trans (List.suffix_cons _ _)
    | case4 => cases hrest
  -- What follows the opening tag is what is left after its name, its blanks and its bracket.
  have hopening : ∀ {cs inner : List Char}, openingTag? cs = some inner → inner <:+ cs := by
    intro cs inner hinner
    unfold openingTag? at hinner
    split at hinner
    · split at hinner
      · cases hinner
      · next rest hrest =>
        split at hinner
        · cases hinner
        · split at hinner
          · next mark _ hdrop =>
            cases hinner
            have htag : mark :: inner <:+ rest := hdrop ▸ List.dropWhile_suffix _
            exact ((List.suffix_cons _ _).trans htag).trans ((hword hrest).trans (List.suffix_cons _ _))
          · cases hinner
    · cases hinner
  induction body with
  | nil => cases h
  | cons c cs ih =>
    rw [rawSummary?] at h
    split at h
    · next inner hinner =>
      cases h
      obtain ⟨opened, hopened, hclosed⟩ := Option.bind_eq_some_iff.1 hinner
      exact (hclosing hclosed).isInfix.trans (hopening hopened).isInfix
    · exact (ih h).trans (List.suffix_cons _ _).isInfix

end ApiOutline.Doc

namespace ApiOutline.Outline

open Syntax (Node)
open Text (Bytes)
open Html (HasLongReference)

/-- Whether a node is a comment that refers to a character by too long a number. -/
def IsLongComment (source : Bytes) (node : Node) : Prop :=
  node.isOf "comment" = true ∧ ∃ text, node.text source = .ok text ∧ HasLongReference text

/-- Whether a tree has such a comment. -/
def HasLongComment (source : Bytes) (root : Node) : Prop :=
  ∃ node, root.Within node ∧ IsLongComment source node

section Documentation

variable {source : Bytes} {before : List Node}

/-- Among siblings with texts the documentation comments can be found. -/
theorem exists_siblings (hbefore : ∀ sibling ∈ before, ∃ text, sibling.text source = .ok text) (row : Nat) :
    ∃ comments, docCommentsFrom source row before = .ok comments ∧ ∀ text ∈ comments,
      ∃ sibling ∈ before, sibling.isOf "comment" = true ∧ sibling.text source = .ok text := by
  induction before generalizing row with
  | nil => exact ⟨[], rfl, by simp⟩
  | cons sibling before ih =>
    obtain ⟨⟨text, htext⟩, hbefore⟩ := List.forall_mem_cons.1 hbefore
    obtain ⟨comments, hcomments, hfrom⟩ := ih hbefore (sibling.startRow source)
    rw [docCommentsFrom]
    split
    · exact ⟨[], rfl, by simp⟩
    · next hcomment =>
      -- The search goes on past this sibling only because it is a comment.
      have hcomment : sibling.isOf "comment" = true := by
        simp only [Bool.or_eq_true, not_or] at hcomment
        simpa using hcomment.1
      have hlater : ∀ found ∈ comments, ∃ other ∈ sibling :: before,
          other.isOf "comment" = true ∧ other.text source = .ok found := by
        intro found hfound
        obtain ⟨other, hother, hboth⟩ := hfrom found hfound
        exact ⟨other, List.mem_cons_of_mem _ hother, hboth⟩
      simp only [htext, Outcome.mapError_ok, hcomments, bind, Except.bind]
      refine ⟨_, rfl, fun found hfound => ?_⟩
      split at hfound
      · obtain hfound | hfound := List.mem_append.1 hfound
        · exact hlater found hfound
        · obtain rfl := List.mem_singleton.1 hfound
          exact ⟨sibling, List.mem_cons_self, hcomment, htext⟩
      · exact hlater found hfound

/-- A summary comes out, or a comment before the node has too long a number. -/
theorem exists_longComment (hbefore : ∀ sibling ∈ before, ∃ text, sibling.text source = .ok text)
    (node : Node) :
    (∃ doc, (docSummary source before node).outcome = .ok doc) ∨
      (∃ fault, (docSummary source before node).outcome = .error (.tooManyDigits fault)) ∧
        ∃ sibling ∈ before, IsLongComment source sibling := by
  obtain ⟨comments, hcomments, hfrom⟩ := exists_siblings hbefore (node.startRow source)
  have hread : ∃ comments, docComments source before node = .ok comments := ⟨comments, hcomments⟩
  obtain hdoc | ⟨hfault, comments', hcomments', -, raw, hraw, hlong⟩ := docSummary_cases hread
  · exact .inl hdoc
  · cases hcomments.symm.trans hcomments'
    -- The number is in the raw summary, so in a line of the body, so in the comment it was cleaned from.
    obtain ⟨piece, hpiece, hlong⟩ := Html.exists_of_join (hlong.of_part (Doc.rawSummary?_part hraw))
    obtain ⟨comment, hcomment, rfl⟩ := List.mem_map.1 hpiece
    obtain ⟨sibling, hsibling, htype, htext⟩ := hfrom comment hcomment
    exact .inr ⟨hfault, sibling, hsibling, htype, comment, htext, Doc.hasLongReference_clean hlong⟩

end Documentation

/-! ## Outcomes -/

/-- Two steps come to results that are alike, or one of them stops at a number with too many digits. That
takes `long` in the first step and `long'` in the second one. -/
structure Agrees (long long' : Prop) {α β : Type} (alike : α → β → Prop) (x : Except Fault α)
    (y : Except Fault β) : Prop where
  results : ∀ a b, x = .ok a → y = .ok b → alike a b
  first : ∀ fault b, x = .error fault → y = .ok b → long ∧ ∃ digits, fault = .tooManyDigits digits
  second : ∀ a fault, x = .ok a → y = .error fault → long' ∧ ∃ digits, fault = .tooManyDigits digits

namespace Agrees

variable {long long' : Prop} {α β γ δ : Type} {alike : α → β → Prop} {alike' : γ → δ → Prop}
  {x : Except Fault α} {y : Except Fault β}

/-- Two results that are alike agree. -/
theorem ok {a : α} {b : β} (h : alike a b) : Agrees long long' alike (.ok a) (.ok b) where
  results := by rintro _ _ ⟨⟩ ⟨⟩; exact h
  first := by rintro _ _ ⟨⟩
  second := by rintro _ _ _ ⟨⟩

/-- A step agrees with itself. -/
theorem refl (x : Except Fault α) : Agrees long long' Eq x x where
  results := by rintro a b rfl hb; exact Except.ok.inj hb
  first := by rintro _ _ rfl ⟨⟩
  second := by rintro _ _ rfl ⟨⟩

/-- Steps after one another agree if each of them does, the later ones on results that are alike. -/
theorem bind {f : α → Except Fault γ} {g : β → Except Fault δ} (h : Agrees long long' alike x y)
    (hnext : ∀ a b, alike a b → Agrees long long' alike' (f a) (g b)) :
    Agrees long long' alike' (x.bind f) (y.bind g) := by
  -- Four ways for the two first steps to end; after two successes the rest decides.
  cases x with
  | ok a =>
    cases y with
    | ok b => exact hnext a b (h.results a b rfl rfl)
    | error fault =>
      refine ⟨fun _ _ _ hy => (by cases hy), fun _ _ _ hy => (by cases hy), fun _ _ _ hy => ?_⟩
      cases hy
      exact h.second a fault rfl rfl
  | error fault =>
    cases y with
    | ok b =>
      refine ⟨fun _ _ hx => (by cases hx), fun _ _ hx _ => ?_, fun _ _ hx => (by cases hx)⟩
      cases hx
      exact h.first fault b rfl rfl
    | error other =>
      exact ⟨fun _ _ hx => (by cases hx), fun _ _ _ hy => (by cases hy), fun _ _ hx => (by cases hx)⟩

/-- Without long numbers both steps succeed or neither does. -/
theorem succeeds_iff (h : Agrees long long' alike x y) (hlong : ¬ long) (hlong' : ¬ long') :
    (∃ a, x = .ok a) ↔ ∃ b, y = .ok b := by
  constructor
  · rintro ⟨a, rfl⟩
    cases y with
    | ok b => exact ⟨b, rfl⟩
    | error fault => exact absurd (h.second a fault rfl rfl).1 hlong'
  · rintro ⟨b, rfl⟩
    cases x with
    | ok a => exact ⟨a, rfl⟩
    | error fault => exact absurd (h.first fault b rfl rfl).1 hlong

/-- Steps that are the same agree if what follows does. -/
theorem bind_same {f g : α → Except Fault γ} {alike' : γ → γ → Prop} (x : Except Fault α)
    (hnext : ∀ a, Agrees long long' alike' (f a) (g a)) :
    Agrees long long' alike' (x.bind f) (x.bind g) :=
  (refl x).bind fun a _ hsame => hsame ▸ hnext a

end Agrees

/-! ## Members up to some of their fields -/

mutual

/-- A member that is changed, with all that is nested in it changed first. -/
def Member.everywhere (change : Member → Member) : Member → Member
  | ⟨kind, signature, line, isStatic, doc, baseTypes, attributes, children⟩ =>
    change ⟨kind, signature, line, isStatic, doc, baseTypes, attributes, everywhereIn change children⟩

/-- The members of a forest, changed at every depth. -/
def everywhereIn (change : Member → Member) : List Member → List Member
  | [] => []
  | member :: members => member.everywhere change :: everywhereIn change members

end

/-- The outline of a file with its members changed at every depth. -/
def FileMap.everywhere (change : Member → Member) (file : FileMap) : FileMap :=
  { file with members := everywhereIn change file.members }

/-- Whether two forests are the same once their members are changed. -/
def SameOnce (change : Member → Member) (members others : List Member) : Prop :=
  everywhereIn change members = everywhereIn change others

variable {change : Member → Member} {members members' others others' : List Member}

/-- A change at every depth goes through a forest tree by tree. -/
theorem everywhereIn_append (change : Member → Member) (members others : List Member) :
    everywhereIn change (members ++ others) = everywhereIn change members ++ everywhereIn change others := by
  induction members with
  | nil => rfl
  | cons member members ih => rw [List.cons_append, everywhereIn, everywhereIn, ih, List.cons_append]

theorem SameOnce.append (h : SameOnce change members members') (h' : SameOnce change others others') :
    SameOnce change (members ++ others) (members' ++ others') := by
  rw [SameOnce, everywhereIn_append, everywhereIn_append, h, h']

/-- A forest is not made empty by a change. -/
theorem SameOnce.isEmpty_eq (h : SameOnce change members members') : members.isEmpty = members'.isEmpty := by
  cases members with
  | nil =>
    cases members' with
    | nil => rfl
    | cons member members' => cases h
  | cons member members =>
    cases members' with
    | nil => cases h
    | cons member' members' => rfl

/-- One member is the same as another one once both are changed. -/
theorem SameOnce.single {member other : Member}
    (h : change { member with children := everywhereIn change member.children } =
      change { other with children := everywhereIn change other.children }) :
    SameOnce change [member] [other] := by
  cases member
  cases other
  exact congrArg (fun member => [member]) h

/-! ## Steps of the walk -/

/-- Whether the text of a node can be read, and too long a number in it, if it is a comment, means `long`. -/
def Readable (source : Bytes) (long : Prop) (node : Node) : Prop :=
  (∃ text, node.text source = .ok text) ∧ (IsLongComment source node → long)

/-- Whether this holds of every node of a tree. -/
def ReadableTree (source : Bytes) (long : Prop) (root : Node) : Prop :=
  ∀ node, root.Within node → Readable source long node

/-- The root of a readable tree can be read. -/
theorem ReadableTree.self {source : Bytes} {long : Prop} {root : Node} (h : ReadableTree source long root) :
    Readable source long root :=
  h root root.within_self

/-- The trees below a readable tree are readable. -/
theorem ReadableTree.child {source : Bytes} {long : Prop} {root child : Node}
    (h : ReadableTree source long root) (hchild : child ∈ root.children) : ReadableTree source long child :=
  fun node hnode => h node (Node.within_iff.2 (.inr ⟨child, hchild, hnode⟩))

/-- All nodes of a legible tree can be read, and it has a comment with too long a number if one of them is. -/
theorem readableTree_of_legible {source : Bytes} {root : Node} (h : root.Legible source) :
    ReadableTree source (HasLongComment source root) root :=
  fun node hnode => ⟨h node hnode, fun hlong => ⟨node, hnode, hlong⟩⟩

/-- Among children with texts the modifiers can be found. -/
theorem exists_modifierTexts {source : Bytes} {nodes : List Node}
    (h : ∀ node ∈ nodes, ∃ text, node.text source = .ok text) :
    ∃ modifiers, modifierTexts source nodes = .ok modifiers := by
  induction nodes with
  | nil => exact ⟨[], rfl⟩
  | cons node nodes ih =>
    obtain ⟨⟨text, htext⟩, hnodes⟩ := List.forall_mem_cons.1 h
    rw [modifierTexts]
    split
    · rw [htext, Outcome.mapError_ok]
      exact Outcome.exists_bind ⟨text, rfl⟩ fun _ => Outcome.exists_bind (ih hnodes) fun texts => ⟨_, rfl⟩
    · exact ih hnodes

section Steps

variable {source source' : Bytes} {long long' : Prop} {before before' : List Node} {node node' : Node}

/-- Summaries agree, whatever they say. -/
theorem agrees_docSummary (hbefore : ∀ sibling ∈ before, Readable source long sibling)
    (hbefore' : ∀ sibling ∈ before', Readable source' long' sibling) :
    Agrees long long' (fun _ _ => True) (docSummary source before node).outcome
      (docSummary source' before' node').outcome := by
  -- Each walk fails to give a summary only because of a sibling with too long a number.
  have hfirst := exists_longComment (fun sibling hmem => (hbefore sibling hmem).1) node
  have hsecond := exists_longComment (fun sibling hmem => (hbefore' sibling hmem).1) node'
  refine ⟨fun _ _ _ _ => trivial, fun fault _ hx _ => ?_, fun _ fault _ hy => ?_⟩
  · obtain ⟨doc, hdoc⟩ | ⟨⟨digits, hdigits⟩, sibling, hmem, hlong⟩ := hfirst
    · cases hdoc.symm.trans hx
    · cases hdigits.symm.trans hx
      exact ⟨(hbefore sibling hmem).2 hlong, digits, rfl⟩
  · obtain ⟨doc, hdoc⟩ | ⟨⟨digits, hdigits⟩, sibling, hmem, hlong⟩ := hsecond
    · cases hdoc.symm.trans hy
    · cases hdigits.symm.trans hy
      exact ⟨(hbefore' sibling hmem).2 hlong, digits, rfl⟩

/-- Namespaces of the same name agree if their contents do. -/
theorem agrees_namespaceMember (hname : nameOf source node = nameOf source' node')
    (hchange : ∀ member : Member, change { member with line := some (node.line source) } =
      change { member with line := some (node'.line source') })
    (hmembers : SameOnce change members members') :
    Agrees long long' (fun member member' => SameOnce change [member] [member'])
      (namespaceMember source node members) (namespaceMember source' node' members') := by
  unfold namespaceMember
  simp only [signatureOf, hname]
  refine Agrees.bind_same _ fun signature => .ok (.single ?_)
  rw [hmembers]
  exact hchange ⟨_, _, none, _, _, _, _, _⟩

/-- Declarations of which the same is read agree if their contents do, whatever their documentation. -/
theorem agrees_declarationMember {kind : Kind} {modifiers modifiers' : List String}
    (hbefore : ∀ sibling ∈ before, Readable source long sibling)
    (hbefore' : ∀ sibling ∈ before', Readable source' long' sibling)
    (hbases : kind.showsBaseTypes = true → baseTypes source node = baseTypes source' node')
    (hsignature : signatureOf source node kind = signatureOf source' node' kind)
    (hattributes : attributesOf source node = attributesOf source' node')
    (hstatic : isStatic modifiers = isStatic modifiers')
    (hchange : ∀ (member : Member) (doc doc' : Option String),
      change { member with line := some (node.line source), doc := doc } =
        change { member with line := some (node'.line source'), doc := doc' })
    (hmembers : SameOnce change members members') :
    Agrees long long' (fun member member' => SameOnce change [member] [member'])
      (declarationMember source before node kind modifiers members).outcome
      (declarationMember source' before' node' kind modifiers' members').outcome := by
  have hbases : (if kind.showsBaseTypes then baseTypes source node else .ok []) =
      if kind.showsBaseTypes then baseTypes source' node' else .ok [] := by
    split
    · next hshows => exact hbases hshows
    · rfl
  simp only [declarationMember, Traced.outcome_bind, Traced.outcome_lift, Traced.outcome_pure, hbases,
    hsignature, hattributes, hstatic]
  -- Everything but the summary is the same in both, so only there can one of them stop.
  refine .bind_same _ fun bases => .bind_same _ fun signature => ?_
  refine (agrees_docSummary hbefore hbefore').bind fun doc doc' _ => ?_
  refine .bind_same _ fun attributes => .ok (.single ?_)
  rw [hmembers]
  exact hchange ⟨_, _, none, _, none, _, _, _⟩ doc doc'

end Steps

section Nodes

variable {setting setting' : Setting} {long long' : Prop} {before before' : List Node} {node node' : Node}
  {parent : Option Kind}

/-- Parts of two walks agree one after the other. -/
theorem agrees_append {first first' later later' : Walked (List Member)}
    (h : Agrees long long' (SameOnce change) first.outcome first'.outcome)
    (hlater : Agrees long long' (SameOnce change) later.outcome later'.outcome) :
    Agrees long long' (SameOnce change)
      (do let members ← first; let following ← later; return members ++ following : Walked _).outcome
      (do let members ← first'; let following ← later'; return members ++ following : Walked _).outcome := by
  simp only [Traced.outcome_bind, Traced.outcome_pure]
  exact h.bind fun _ _ hmembers => hlater.bind fun _ _ hfollowing => .ok (hmembers.append hfollowing)

/-- Namespaces for the rest of the file of the same name agree if what is in them and what follows them do. -/
theorem agrees_file {first first' later later' : Walked (List Member)}
    (hname : nameOf setting.source node = nameOf setting'.source node')
    (hchange : ∀ member : Member, change { member with line := some (node.line setting.source) } =
      change { member with line := some (node'.line setting'.source) })
    (h : Agrees long long' (SameOnce change) first.outcome first'.outcome)
    (hlater : Agrees long long' (SameOnce change) later.outcome later'.outcome) :
    Agrees long long' (SameOnce change)
      (do let inner ← first; let following ← later
          let member ← .lift (namespaceMember setting.source node (inner ++ following))
          return [member] : Walked _).outcome
      (do let inner ← first'; let following ← later'
          let member ← .lift (namespaceMember setting'.source node' (inner ++ following))
          return [member] : Walked _).outcome := by
  simp only [Traced.outcome_bind, Traced.outcome_lift, Traced.outcome_pure]
  refine h.bind fun _ _ hinner => hlater.bind fun _ _ hfollowing => ?_
  exact (agrees_namespaceMember hname hchange (hinner.append hfollowing)).bind fun _ _ hmember => .ok hmember

/-- Namespaces of the same name stand for the same members if their bodies do. -/
theorem agrees_namespace (hrole : node.role = .blockNamespace) (hrole' : node'.role = .blockNamespace)
    (hname : nameOf setting.source node = nameOf setting'.source node')
    (hchange : ∀ member : Member, change { member with line := some (node.line setting.source) } =
      change { member with line := some (node'.line setting'.source) })
    (hbody : Agrees long long' (SameOnce change)
      (walkBody setting (some .nameSpace) (isBodyAmong node.children) node.children).outcome
      (walkBody setting' (some .nameSpace) (isBodyAmong node'.children) node'.children).outcome) :
    Agrees long long' (SameOnce change) (walkNode setting parent before node).outcome
      (walkNode setting' parent before' node').outcome := by
  rw [walkNode_eq, walkNode_eq setting', hrole, hrole']
  simp only [Traced.outcome_bind, Traced.outcome_lift, Traced.outcome_pure]
  refine hbody.bind fun inner inner' hinner => ?_
  exact (agrees_namespaceMember hname hchange hinner).bind fun _ _ hmember => .ok hmember

/-- Declarations of which the same is read stand for the same members if their bodies do, as far as they are
looked at. -/
theorem agrees_declaration {kind : Kind} {modifiers modifiers' : List String}
    (hrole : node.role = .declaration kind) (hrole' : node'.role = .declaration kind)
    (hmodifiers : modifiersOf setting.source node = .ok modifiers)
    (hmodifiers' : modifiersOf setting'.source node' = .ok modifiers')
    (hvisible : isVisibleIn modifiers parent setting.contextual =
      isVisibleIn modifiers' parent setting'.contextual)
    (hstatic : isStatic modifiers = isStatic modifiers')
    (hbefore : ∀ sibling ∈ before, Readable setting.source long sibling)
    (hbefore' : ∀ sibling ∈ before', Readable setting'.source long' sibling)
    (hbases : kind.showsBaseTypes = true →
      baseTypes setting.source node = baseTypes setting'.source node')
    (hsignature : signatureOf setting.source node kind = signatureOf setting'.source node' kind)
    (hattributes : attributesOf setting.source node = attributesOf setting'.source node')
    (hchange : ∀ (member : Member) (doc doc' : Option String),
      change { member with line := some (node.line setting.source), doc := doc } =
        change { member with line := some (node'.line setting'.source), doc := doc' })
    (hbody : isVisibleIn modifiers parent setting.contextual = true → kind.canNest = true →
      Agrees long long' (SameOnce change)
        (walkBody setting (some kind) (isBodyAmong node.children) node.children).outcome
        (walkBody setting' (some kind) (isBodyAmong node'.children) node'.children).outcome) :
    Agrees long long' (SameOnce change) (walkNode setting parent before node).outcome
      (walkNode setting' parent before' node').outcome := by
  -- The member is built last, whether or not a body was walked before.
  have hmember : ∀ {inner inner' : List Member}, SameOnce change inner inner' →
      Agrees long long' (SameOnce change)
        (declarationMember setting.source before node kind modifiers inner >>= fun member =>
          pure [member]).outcome
        (declarationMember setting'.source before' node' kind modifiers' inner' >>= fun member =>
          pure [member]).outcome := by
    intro inner inner' hinner
    simp only [Traced.outcome_bind, Traced.outcome_pure]
    exact (agrees_declarationMember hbefore hbefore' hbases hsignature hattributes hstatic hchange
      hinner).bind fun _ _ hsame => .ok hsame
  rw [walkNode_eq, walkNode_eq setting', hrole, hrole']
  simp only [Traced.outcome_bind, Traced.outcome_lift, hmodifiers, hmodifiers', Except.bind, ← hvisible]
  split
  · next hshown =>
    split
    · next hnest =>
      rw [Traced.outcome_bind, Traced.outcome_bind]
      exact (hbody hshown hnest).bind fun _ _ hinner => hmember hinner
    · exact hmember rfl
  · exact .ok rfl

end Nodes

/-- Outlines agree if the members do. -/
theorem agrees_mapTree {setting setting' : Setting} {long long' : Prop} {root root' : Node} (path : String)
    (h : Agrees long long' (SameOnce change) (walkTree setting root).outcome
      (walkTree setting' root').outcome) :
    Agrees long long'
      (fun file file' => file.map (FileMap.everywhere change) = file'.map (FileMap.everywhere change))
      (mapTree setting path root).outcome (mapTree setting' path root').outcome := by
  simp only [mapTree, Traced.outcome_bind, Traced.outcome_pure]
  refine h.bind fun members members' hsame => .ok ?_
  rw [hsame.isEmpty_eq]
  split
  · rfl
  · rw [Option.map_some, Option.map_some, FileMap.everywhere, FileMap.everywhere, hsame]

end ApiOutline.Outline
