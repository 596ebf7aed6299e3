import ApiOutline.Doc.Summary
import ApiOutline.Proofs.OneLine
import ApiOutline.Proofs.Outcome

/-!
# The two ways to a summary

The summary of a documentation comment is found in the tree of its elements, or, if it is not
well-formed, in its raw text. Where the comment starts with an escaped summary both ways lead to the
same text, so what follows the summary does not matter, not even for the way that is taken.

In the tree, the tokens of the element are followed one by one, and the element stays the first child
whatever follows. In the raw text, the first tag that is closed is the one at the start, and replacing
references undoes escaping in one pass. The tree has a line feed for every line end and the raw text
does not; once a summary is on one line this cannot be seen.
-/

namespace ApiOutline.Doc

open Text (isBlank oneLine words join plainLines SameLines)

variable {c : Char} {cs ds : List Char}

/-! ## Escaped texts -/

/-- The characters that stand for themselves nowhere in an element, each with what follows `&` in the
reference to it. -/
def references : List (Char × List Char) :=
  [('&', "amp;".toList), ('<', "lt;".toList), ('>', "gt;".toList)]

/-- A character as it is written inside an element. -/
def escapeChar (c : Char) : List Char :=
  match references.lookup c with
  | some name => '&' :: name
  | none => [c]

/-- A text as it is written inside an element. -/
def escape (cs : List Char) : List Char :=
  cs.flatMap escapeChar

/-- A text is escaped character by character. -/
theorem escape_cons (c : Char) (cs : List Char) : escape (c :: cs) = escapeChar c ++ escape cs :=
  List.flatMap_cons

/-- A character is written as a reference or as itself. -/
theorem escapeChar_cases (c : Char) :
    (∃ name, (c, name) ∈ references ∧ escapeChar c = '&' :: name) ∨
      (c ≠ '&' ∧ c ≠ '<' ∧ c ≠ '>') ∧ escapeChar c = [c] := by
  unfold escapeChar
  cases hlookup : references.lookup c with
  | some name =>
    obtain ⟨before, after, hentries, -⟩ := List.lookup_eq_some_iff.1 hlookup
    exact .inl ⟨name, by simp [hentries], rfl⟩
  | none =>
    have hne := List.lookup_eq_none_iff.1 hlookup
    simp only [references, List.forall_mem_cons, bne_iff_ne] at hne
    exact .inr ⟨⟨hne.1, hne.2.1, hne.2.2.1⟩, rfl⟩

/-- No tag starts in an escaped text. -/
theorem not_mem_escape (cs : List Char) : '<' ∉ escape cs := by
  have hnames : ∀ entry ∈ references, '<' ∉ '&' :: entry.2 := by decide
  rw [escape, List.mem_flatMap]
  rintro ⟨c, -, hc⟩
  obtain ⟨name, hname, h⟩ | ⟨⟨-, hlt, -⟩, h⟩ := escapeChar_cases c
  · rw [h] at hc
    exact hnames _ hname hc
  · rw [h, List.mem_singleton] at hc
    exact hlt hc.symm

/-- Blanks are written as themselves. -/
theorem escape_of_blank (h : ∀ c ∈ cs, isBlank c = true) : escape cs = cs := by
  have hnames : ∀ entry ∈ references, isBlank entry.1 = false := by decide
  induction cs with
  | nil => rfl
  | cons c cs ih =>
    rw [List.forall_mem_cons] at h
    have hc : escapeChar c = [c] := by
      obtain ⟨name, hname, -⟩ | ⟨-, hself⟩ := escapeChar_cases c
      · exact absurd h.1 (by rw [hnames _ hname]; decide)
      · exact hself
    rw [escape_cons, hc, ih h.2, List.singleton_append]

/-- An escaped text starts with a line feed only if the text does. -/
theorem head_of_head_escape {more : List Char} (h : escape cs = '\n' :: more) :
    ∃ rest, cs = '\n' :: rest := by
  cases cs with
  | nil => cases h
  | cons c cs =>
    rw [escape_cons] at h
    obtain ⟨name, -, hc⟩ | ⟨-, hc⟩ := escapeChar_cases c
    · rw [hc] at h
      exact absurd (List.cons.inj h).1 (by decide)
    · rw [hc] at h
      exact ⟨cs, by rw [(List.cons.inj h).1]⟩

/-- Line ends are the same before and after escaping. -/
theorem plainLines_escape (cs : List Char) : plainLines (escape cs) = escape (plainLines cs) := by
  fun_induction plainLines cs with
  | case1 => rfl
  | case2 rest ih =>
    show plainLines ('\r' :: '\n' :: escape rest) = '\n' :: escape (plainLines rest)
    rw [plainLines, ih]
  | case3 rest hrest ih =>
    show plainLines ('\r' :: escape rest) = '\n' :: escape (plainLines rest)
    rw [plainLines, ih]
    intro more hmore
    obtain ⟨others, hothers⟩ := head_of_head_escape hmore
    exact hrest others hothers
  | case4 c rest _ hc ih =>
    -- No reference has a carriage return in it.
    have hnames : ∀ entry ∈ references, '\r' ∉ '&' :: entry.2 := by decide
    have hreturn : '\r' ∉ escapeChar c := by
      obtain ⟨name, hname, h⟩ | ⟨-, h⟩ := escapeChar_cases c
      · rw [h]
        exact hnames _ hname
      · rw [h, List.mem_singleton]
        exact Ne.symm hc
    rw [escape_cons, escape_cons, Text.plainLines_append_of_not_mem hreturn, ih]

/-! ## In the tree of elements -/

section Tree

open Xml (Token Content Frame QName Name Scope content? tokens? readTokens? readMarkup? readName?
  readPart? build? addChars addElement findChild? textsOf)

variable {fuel : Nat} {tokens : List Token}

/-- A reference to an escaped character stands for that character. -/
theorem readReference?_escaped (cs : List Char) :
    ∀ entry ∈ references, Xml.readReference? (entry.2 ++ cs) = some (entry.1, cs) := by
  simp only [references, List.forall_mem_cons]
  exact ⟨rfl, rfl, rfl, by simp⟩

/-- The tokens of an escaped character and what follows it: the character, and the tokens of the
rest. -/
theorem readTokens?_escapeChar (h : readTokens? fuel (escapeChar c ++ cs) = some tokens) :
    ∃ left rest, readTokens? left cs = some rest ∧ tokens = .chars [c] :: rest := by
  cases fuel with
  | zero =>
    obtain ⟨name, -, hc⟩ | ⟨-, hc⟩ := escapeChar_cases c
    · rw [hc] at h
      cases h
    · rw [hc] at h
      cases h
  | succ left =>
    obtain ⟨name, hname, hc⟩ | ⟨⟨hamp, hlt, -⟩, hc⟩ := escapeChar_cases c
    · have hread := readReference?_escaped cs _ hname
      rw [hc, List.cons_append] at h
      simp only [readTokens?, hread, Option.bind_eq_bind, Option.bind_some] at h
      obtain ⟨rest, hrest, h⟩ := Option.bind_eq_some_iff.1 h
      exact ⟨left, rest, hrest, (Option.some.inj h).symm⟩
    · rw [hc, List.singleton_append, readTokens?] at h
      · split_ifs at h
        obtain ⟨rest, hrest, h⟩ := Option.map_eq_some_iff.1 h
        exact ⟨left, rest, hrest, h.symm⟩
      · exact hlt
      · exact hamp

/-- The tokens of an escaped text and what follows it. -/
theorem readTokens?_escape (h : readTokens? fuel (escape cs ++ ds) = some tokens) :
    ∃ left rest, readTokens? left ds = some rest ∧
      tokens = cs.map (fun c => .chars [c]) ++ rest := by
  induction cs generalizing fuel tokens with
  | nil => exact ⟨fuel, tokens, h, rfl⟩
  | cons c cs ih =>
    rw [escape_cons, List.append_assoc] at h
    obtain ⟨next, others, hothers, rfl⟩ := readTokens?_escapeChar h
    obtain ⟨left, rest, hrest, rfl⟩ := ih hothers
    exact ⟨left, rest, hrest, rfl⟩

/-- The name in the tags of a summary. -/
def summaryName : QName := ⟨none, summaryTag⟩

/-- The name in a tag is read up to the end of the tag. -/
theorem readName?_summary (cs : List Char) :
    readName? ("summary>".toList ++ cs) = some (summaryName, '>' :: cs) := by
  have hname : ∀ c ∈ "ummary".toList, Xml.isNameChar c = true := List.all_eq_true.1 (by decide)
  have hstop : ∀ c ∈ ('>' :: cs).head?, Xml.isNameChar c = false := by
    rintro c ⟨⟩
    decide
  obtain ⟨htake, hdrop⟩ := Text.takeWhile_append_of_stop hname hstop
  have hstart : Xml.isNameStart 's' = true := by decide
  have hpart : readPart? ("summary>".toList ++ cs) = some (summaryTag, '>' :: cs) := by
    show readPart? ('s' :: ("ummary".toList ++ '>' :: cs)) = _
    rw [readPart?, if_pos hstart, htake, hdrop]
    rfl
  rw [readName?, hpart]
  rfl

/-- A tag that gives a token is followed by the tokens of the rest. -/
theorem readTokens?_markup {token : Token} (hmarkup : readMarkup? cs = some (some token, ds))
    (h : readTokens? fuel ('<' :: cs) = some tokens) :
    ∃ left rest, readTokens? left ds = some rest ∧ tokens = token :: rest := by
  cases fuel with
  | zero => cases h
  | succ left =>
    simp only [readTokens?, hmarkup, Option.bind_eq_bind, Option.bind_some] at h
    obtain ⟨rest, hrest, h⟩ := Option.bind_eq_some_iff.1 h
    exact ⟨left, rest, hrest, (Option.some.inj h).symm⟩

/-- The opening tag is one token. -/
theorem readMarkup?_opening (cs : List Char) :
    readMarkup? ("summary>".toList ++ cs) = some (some (.opening summaryName [] false), cs) := by
  have hname : readName? ('s' :: 'u' :: 'm' :: 'm' :: 'a' :: 'r' :: 'y' :: '>' :: cs) =
      some (summaryName, '>' :: cs) := readName?_summary cs
  show readMarkup? ('s' :: 'u' :: 'm' :: 'm' :: 'a' :: 'r' :: 'y' :: '>' :: cs) = _
  simp only [readMarkup?, hname]
  rfl

/-- So is the closing tag. -/
theorem readMarkup?_closing (cs : List Char) :
    readMarkup? ("/summary>".toList ++ cs) = some (some (.closing summaryName), cs) := by
  have hname := readName?_summary cs
  show readMarkup? ('/' :: ("summary>".toList ++ cs)) = _
  simp only [readMarkup?, hname]
  rfl

/-- Characters as the content of an element: one run of text, or nothing. -/
def textRun (cs : List Char) : List Content :=
  if cs.isEmpty then [] else [.text cs]

/-- Add characters one by one to a content in reverse order. -/
def addRun (cs : List Char) (content : List Content) : List Content :=
  cs.foldl (fun content c => addChars [c] content) content

/-- Characters added one by one are one run of text. -/
theorem addRun_nil (cs : List Char) : addRun cs [] = textRun cs := by
  -- One more character makes the run of text longer by it.
  have hrun : ∀ run, addRun cs [.text run] = [.text (run ++ cs)] := by
    induction cs with
    | nil => simp [addRun]
    | cons c cs ih =>
      intro run
      have hstep : addRun (c :: cs) [.text run] = addRun cs [.text (run ++ [c])] := rfl
      rw [hstep, ih, List.append_assoc, List.singleton_append]
  cases cs with
  | nil => rfl
  | cons c cs =>
    have hlonger : addRun (c :: cs) [.text []] = [.text (c :: cs)] := hrun []
    exact hlonger

/-- Characters outside of all elements are added to the text there. -/
theorem build?_chars_outside (cs : List Char) (outer : List Content) (tokens : List Token) :
    build? [] outer (cs.map (fun c => .chars [c]) ++ tokens) =
      build? [] (addRun cs outer) tokens := by
  induction cs generalizing outer with
  | nil => rfl
  | cons c cs ih => exact ih (addChars [c] outer)

/-- Characters inside an element are added to its content. -/
theorem build?_chars_inside (cs : List Char) (frame : Frame) (frames : List Frame)
    (outer : List Content) (tokens : List Token) :
    build? (frame :: frames) outer (cs.map (fun c => .chars [c]) ++ tokens) =
      build? (⟨frame.tag, frame.name, frame.scope, addRun cs frame.content⟩ :: frames) outer
        tokens := by
  induction cs generalizing frame with
  | nil => rfl
  | cons c cs ih => exact ih ⟨frame.tag, frame.name, frame.scope, addChars [c] frame.content⟩

/-- Characters never reach behind an element. -/
theorem exists_addChars {name : Name} {inner old : List Content} (cs : List Char)
    (new : List Content) : ∃ more, addChars cs (new ++ .element name inner :: old) =
      more ++ .element name inner :: old := by
  -- After an element a new run of text begins.
  have helement : ∀ (other : Name) (content rest : List Content),
      addChars cs (.element other content :: rest) =
        textRun cs ++ .element other content :: rest := by
    intro other content rest
    unfold textRun
    cases cs with
    | nil => rfl
    | cons c cs => rfl
  cases new with
  | nil => exact ⟨textRun cs, helement name inner old⟩
  | cons item new =>
    cases item with
    | text run => exact ⟨.text (run ++ cs) :: new, rfl⟩
    | element other content =>
      refine ⟨textRun cs ++ .element other content :: new, ?_⟩
      rw [List.cons_append, helement, List.append_assoc, List.cons_append]

/-- An element that is complete outside of all others stays where it is, with what stands before it. -/
theorem exists_of_build? {name : Name} {inner old content : List Content} {frames : List Frame}
    (new : List Content)
    (h : build? frames (new ++ .element name inner :: old) tokens = some content) :
    ∃ more, content = (.element name inner :: old).reverse ++ more := by
  induction tokens generalizing frames new with
  | nil =>
    rw [build?] at h
    split_ifs at h
    exact ⟨new.reverse, by rw [← Option.some.inj h, List.reverse_append]⟩
  | cons token tokens ih =>
    -- Adding an element goes to the innermost open one, or in front of what is outside.
    have hadd : ∀ (element : Content) (frames : List Frame),
        build? (addElement element frames (new ++ .element name inner :: old)).1
          (addElement element frames (new ++ .element name inner :: old)).2 tokens = some content →
        ∃ more, content = (.element name inner :: old).reverse ++ more := by
      intro element frames h
      cases frames with
      | nil => exact ih (element :: new) h
      | cons frame frames => exact ih _ h
    cases token with
    | chars cs =>
      cases frames with
      | nil =>
        obtain ⟨more, hmore⟩ : ∃ more, addChars cs (new ++ .element name inner :: old) =
            more ++ .element name inner :: old := exists_addChars cs new
        rw [build?, hmore] at h
        exact ih _ h
      | cons frame frames => exact ih _ h
    | opening tag attributes closed =>
      rw [build?] at h
      simp only at h
      split at h
      · cases h
      · split_ifs at h
        · exact hadd _ _ h
        · exact ih _ h
    | closing tag =>
      cases frames with
      | nil => cases h
      | cons frame frames =>
        rw [build?] at h
        split_ifs at h
        exact hadd _ _ h

/-- The tokens of an element with nothing but text, after some text, make that element the first one. -/
theorem exists_of_build?_summary {blanks text : List Char} {content : List Content}
    (h : build? [] [] (blanks.map (fun c => .chars [c]) ++ .opening summaryName [] false ::
      (text.map (fun c => .chars [c]) ++ .closing summaryName :: tokens)) = some content) :
    ∃ more, content = textRun blanks ++ .element ⟨[], summaryTag⟩ (textRun text) :: more := by
  have hrun : ∀ cs, (textRun cs).reverse = textRun cs := by
    intro cs
    unfold textRun
    split_ifs <;> rfl
  -- The tag has no prefix, so it is in no namespace.
  have henter : Xml.enter? Xml.outerScope summaryName [] =
      some (Xml.outerScope, ⟨[], summaryTag⟩) := rfl
  rw [build?_chars_outside, addRun_nil, build?] at h
  simp only [List.head?_nil, Option.map_none, Option.getD_none, henter] at h
  rw [if_neg Bool.false_ne_true, build?_chars_inside, addRun_nil, build?] at h
  simp only [addElement, if_pos, hrun] at h
  obtain ⟨more, hmore⟩ := exists_of_build? [] h
  rw [List.reverse_cons, hrun, List.append_assoc, List.singleton_append] at hmore
  exact ⟨more, hmore⟩

/-- The first child that is a summary element with nothing but text gives that text. -/
theorem elementSummary?_eq (blanks text : List Char) (more : List Content) :
    elementSummary? (textRun blanks ++ .element ⟨[], summaryTag⟩ (textRun text) :: more) =
      some text := by
  have hchild : findChild? summaryTag
      (textRun blanks ++ .element ⟨[], summaryTag⟩ (textRun text) :: more) =
        some (textRun text) := by
    unfold textRun
    split_ifs <;> rfl
  have htext : join [' '] (textsOf (textRun text)) = text := by
    cases text with
    | nil => rfl
    | cons c cs => simp [textRun, textsOf, Content.texts, join]
  rw [elementSummary?, hchild]
  exact congrArg some htext

/-- A well-formed body that starts with an escaped summary has its text in the tree, with a line feed
for every line end. -/
theorem elementSummary?_of_content? {blanks text rest : List Char} {content : List Content}
    (hblanks : ∀ c ∈ blanks, isBlank c = true)
    (h : content? (blanks ++ "<summary>".toList ++ escape text ++ "</summary>".toList ++ rest) =
      some content) : elementSummary? content = some (plainLines text) := by
  -- Line ends are the same inside tags and outside of them, part by part.
  have hlines : plainLines
      (blanks ++ "<summary>".toList ++ escape text ++ "</summary>".toList ++ rest) =
        escape (plainLines blanks) ++ ('<' :: ("summary>".toList ++
          (escape (plainLines text) ++ ('<' :: ("/summary>".toList ++ plainLines rest))))) := by
    have hopening : '\r' ∉ "<summary>".toList := by decide
    have hclosing : '\r' ∉ "</summary>".toList := by decide
    have htag : ∀ cs, (("<summary>".toList ++ cs).head? ≠ some '\n') ∧
        ("</summary>".toList ++ cs).head? ≠ some '\n' := by
      intro cs
      exact ⟨by simp, by simp⟩
    simp only [List.append_assoc]
    calc plainLines (blanks ++ ("<summary>".toList ++ (escape text ++ ("</summary>".toList ++ rest))))
        = plainLines blanks ++ plainLines
            ("<summary>".toList ++ (escape text ++ ("</summary>".toList ++ rest))) :=
          Text.plainLines_append _ (htag _).1
      _ = plainLines (escape blanks) ++ ("<summary>".toList ++
            plainLines (escape text ++ ("</summary>".toList ++ rest))) := by
          rw [escape_of_blank hblanks, Text.plainLines_append_of_not_mem hopening]
      _ = escape (plainLines blanks) ++ ("<summary>".toList ++
            (escape (plainLines text) ++ ("</summary>".toList ++ plainLines rest))) := by
          rw [Text.plainLines_append _ (htag _).2, Text.plainLines_append_of_not_mem hclosing,
            plainLines_escape, plainLines_escape]
  -- The tokens are those of the blanks, the opening tag, the text and the closing tag.
  obtain ⟨tokens, htokens, hbuild⟩ := Option.bind_eq_some_iff.1 h
  rw [tokens?, hlines] at htokens
  obtain ⟨_, afterBlanks, hopening, rfl⟩ := readTokens?_escape htokens
  obtain ⟨_, afterOpening, htext, rfl⟩ := readTokens?_markup (readMarkup?_opening _) hopening
  obtain ⟨_, afterText, hclosing, rfl⟩ := readTokens?_escape htext
  obtain ⟨_, afterClosing, -, rfl⟩ := readTokens?_markup (readMarkup?_closing _) hclosing
  obtain ⟨more, rfl⟩ := exists_of_build?_summary hbuild
  exact elementSummary?_eq _ _ _

end Tree

/-! ## In the raw text -/

/-- What stands before the first tag is passed by. -/
theorem rawSummary?_append (hcs : '<' ∉ cs) : rawSummary? (cs ++ ds) = rawSummary? ds := by
  induction cs with
  | nil => rfl
  | cons c cs ih =>
    rw [List.mem_cons, not_or] at hcs
    have hopening : openingTag? (c :: (cs ++ ds)) = none := by
      rw [openingTag?]
      exact fun _ heq => hcs.1 (List.cons.inj heq).1.symm
    rw [List.cons_append, rawSummary?, hopening, Option.bind_none, ih hcs.2]

/-- The name of the tag is dropped from a text that starts with it. -/
theorem dropWord?_summary (cs : List Char) : dropWord? summaryTag (summaryTag ++ cs) = some cs := rfl

/-- A plain summary tag is an opening one. -/
theorem openingTag?_summary (cs : List Char) : openingTag? ("<summary>".toList ++ cs) = some cs := by
  -- The name of the tag ends at its `>`.
  have hboundary : Text.isWord '>' = false := by decide +kernel
  show openingTag? ('<' :: (summaryTag ++ '>' :: cs)) = _
  simp only [openingTag?, dropWord?_summary]
  simp [hboundary]

/-- Up to the first closing tag a text is taken as it is, if no tag starts in it. -/
theorem beforeClosing?_append (hcs : '<' ∉ cs) (ds : List Char) :
    beforeClosing? (cs ++ ("</summary>".toList ++ ds)) = some cs := by
  induction cs with
  | nil => rfl
  | cons c cs ih =>
    rw [List.mem_cons, not_or] at hcs
    have hclosing : atClosingTag (c :: (cs ++ ("</summary>".toList ++ ds))) = false := by
      rw [atClosingTag]
      exact fun _ heq => hcs.1 (List.cons.inj heq).1.symm
    rw [List.cons_append, beforeClosing?, hclosing, if_neg Bool.false_ne_true, ih hcs.2,
      Option.map_some]

/-- The raw summary of a body that starts with an escaped one is the escaped text. -/
theorem rawSummary?_eq {blanks : List Char} (hblanks : ∀ c ∈ blanks, isBlank c = true)
    (text rest : List Char) :
    rawSummary? (blanks ++ "<summary>".toList ++ escape text ++ "</summary>".toList ++ rest) =
      some (escape text) := by
  have hskip : '<' ∉ blanks := fun hmem => absurd (hblanks _ hmem) (by decide)
  have hinner := beforeClosing?_append (not_mem_escape text) rest
  simp only [List.append_assoc]
  rw [rawSummary?_append hskip]
  show rawSummary? ('<' :: ("summary>".toList ++ (escape text ++ ("</summary>".toList ++ rest)))) = _
  have hopening : openingTag?
      ('<' :: ("summary>".toList ++ (escape text ++ ("</summary>".toList ++ rest)))) =
        some (escape text ++ ("</summary>".toList ++ rest)) := openingTag?_summary _
  rw [rawSummary?, hopening, Option.bind_some, hinner]

/-- A reference to an escaped character is replaced by it. -/
theorem readReference_escaped (cs : List Char) :
    ∀ entry ∈ references, Html.readReference (entry.2 ++ cs) = .ok (some ([entry.1], cs)) := by
  have hnames : ∀ entry ∈ references, Html.ofName entry.2 = [entry.1] := by decide +kernel
  have hread : ∀ entry ∈ references,
      Html.readReference (entry.2 ++ cs) = .ok (some (Html.ofName entry.2, cs)) := by
    simp only [references, List.forall_mem_cons]
    exact ⟨rfl, rfl, rfl, by simp⟩
  intro entry hentry
  rw [hread entry hentry, hnames entry hentry]

/-- Replacing references undoes escaping. -/
theorem unescape_escape (cs : List Char) : Html.unescape (escape cs) = .ok cs := by
  -- The length is fuel enough, and a reference is longer than what it stands for.
  have hfuel : ∀ fuel, (escape cs).length ≤ fuel → Html.unescapeFrom fuel (escape cs) = .ok cs := by
    induction cs with
    | nil =>
      intro fuel _
      cases fuel <;> rfl
    | cons c cs ih =>
      intro fuel hfuel
      rw [escape_cons] at hfuel ⊢
      obtain ⟨name, hname, hc⟩ | ⟨⟨hamp, -, -⟩, hc⟩ := escapeChar_cases c
      · rw [hc] at hfuel ⊢
        simp only [List.cons_append, List.length_cons, List.length_append] at hfuel
        obtain ⟨left, rfl⟩ : ∃ left, fuel = left + 1 := ⟨fuel - 1, by omega⟩
        have hread := readReference_escaped (escape cs) _ hname
        rw [List.cons_append, Html.unescapeFrom]
        simp only [hread]
        rw [ih left (by omega)]
        rfl
      · rw [hc] at hfuel ⊢
        simp only [List.singleton_append, List.length_cons] at hfuel
        obtain ⟨left, rfl⟩ : ∃ left, fuel = left + 1 := ⟨fuel - 1, by omega⟩
        rw [List.singleton_append, Html.unescapeFrom, ih left (by omega)]
        · rfl
        · exact hamp
  exact hfuel _ (Nat.le_refl _)

/-! ## Tags in a summary -/

/-- Whether the second text is the first one with a space for every tag. A tag goes from a `<` to the
next `>`, and tags are taken from the start on. -/
inductive Untagged : List Char → List Char → Prop
  | plain {cs : List Char} (h : '<' ∉ cs) : Untagged cs cs
  /-- A `<` that no `>` follows starts no tag. -/
  | unclosed {before inner : List Char} (hbefore : '<' ∉ before) (hinner : '>' ∉ inner) :
      Untagged (before ++ '<' :: inner) (before ++ '<' :: inner)
  | tag {before inner after rest : List Char} (hbefore : '<' ∉ before) (hinner : '>' ∉ inner)
      (h : Untagged after rest) :
      Untagged (before ++ '<' :: inner ++ '>' :: after) (before ++ ' ' :: rest)

/-- What stands before the first tag is kept. -/
theorem removeTagsFrom_append (hcs : '<' ∉ cs) (ds : List Char) :
    removeTagsFrom none (cs ++ ds) = cs ++ removeTagsFrom none ds := by
  induction cs with
  | nil => rfl
  | cons c cs ih =>
    rw [List.mem_cons, not_or] at hcs
    rw [List.cons_append, removeTagsFrom, if_neg (Ne.symm hcs.1), ih hcs.2, List.cons_append]

/-- Inside a tag, characters are kept until it is closed. -/
theorem removeTagsFrom_inner (hcs : '>' ∉ cs) (opened ds : List Char) :
    removeTagsFrom (some opened) (cs ++ ds) = removeTagsFrom (some (opened ++ cs)) ds := by
  induction cs generalizing opened with
  | nil => rw [List.nil_append, List.append_nil]
  | cons c cs ih =>
    rw [List.mem_cons, not_or] at hcs
    rw [List.cons_append, removeTagsFrom]
    simp only [if_neg (Ne.symm hcs.1)]
    rw [ih hcs.2, List.append_assoc, List.singleton_append]

/-- A tag that is closed is replaced by a space. -/
theorem removeTags_tag {before inner : List Char} (hbefore : '<' ∉ before) (hinner : '>' ∉ inner)
    (after : List Char) :
    removeTags (before ++ '<' :: inner ++ '>' :: after) = before ++ ' ' :: removeTags after := by
  rw [removeTags, List.append_assoc, removeTagsFrom_append hbefore, List.cons_append]
  have hopen : removeTagsFrom none ('<' :: (inner ++ '>' :: after)) =
      removeTagsFrom (some ['<']) (inner ++ '>' :: after) := by
    rw [removeTagsFrom]
    exact if_pos rfl
  rw [hopen, removeTagsFrom_inner hinner, removeTagsFrom]
  simp only [if_pos]
  rfl

/-- A tag that is never closed stays as it is. -/
theorem removeTags_open {before inner : List Char} (hbefore : '<' ∉ before) (hinner : '>' ∉ inner) :
    removeTags (before ++ '<' :: inner) = before ++ '<' :: inner := by
  -- At the end of the text the tag is still open, so what was kept of it is given out.
  have hclose : removeTagsFrom (some ['<']) (inner ++ []) = '<' :: inner := by
    rw [removeTagsFrom_inner hinner, removeTagsFrom]
    rfl
  rw [List.append_nil] at hclose
  rw [removeTags, removeTagsFrom_append hbefore, removeTagsFrom]
  simp only [if_pos]
  rw [hclose]

/-- A text without tags stays as it is. -/
theorem removeTags_plain (hcs : '<' ∉ cs) : removeTags cs = cs := by
  have h := removeTagsFrom_append hcs []
  rwa [List.append_nil, removeTagsFrom, Option.getD_none, List.append_nil] at h

/-- Every text has a form with a space for every tag, which `removeTags` gives. -/
theorem untagged_removeTags (cs : List Char) : Untagged cs (removeTags cs) := by
  -- The induction is on the length: after a tag the rest is shorter.
  induction hlength : cs.length using Nat.strongRecOn generalizing cs with
  | ind length ih =>
    by_cases hopen : '<' ∈ cs
    · obtain ⟨before, rest, rfl, hbefore⟩ := List.eq_append_cons_of_mem hopen
      by_cases hclose : '>' ∈ rest
      · obtain ⟨inner, after, rfl, hinner⟩ := List.eq_append_cons_of_mem hclose
        have hshorter : after.length < length := by
          rw [← hlength]
          simp only [List.length_append, List.length_cons]
          omega
        have hafter := ih after.length hshorter after rfl
        have hsplit : before ++ '<' :: (inner ++ '>' :: after) =
            before ++ '<' :: inner ++ '>' :: after := by simp
        rw [hsplit, removeTags_tag hbefore hinner]
        exact .tag hbefore hinner hafter
      · rw [removeTags_open hbefore hclose]
        exact .unclosed hbefore hclose
    · rw [removeTags_plain hopen]
      exact .plain hopen

/-- A text has only one form with a space for every tag. -/
theorem Untagged.eq_removeTags {plain : List Char} (h : Untagged cs plain) :
    plain = removeTags cs := by
  induction h with
  | plain h => rw [removeTags_plain h]
  | unclosed hbefore hinner => rw [removeTags_open hbefore hinner]
  | tag hbefore hinner _ ih => rw [removeTags_tag hbefore hinner, ih]

/-- However lines end, tags are the same. The texts read so far of a tag that is open in both have the
same lines too. -/
theorem sameLines_removeTagsFrom {tag other : Option (List Char)} (h : SameLines cs ds)
    (htag : Option.Rel SameLines tag other) :
    SameLines (removeTagsFrom tag cs) (removeTagsFrom other ds) := by
  induction h generalizing tag other with
  | nil =>
    cases htag with
    | none => exact .nil
    | some hopened => exact hopened
  | cons c rest ih =>
    cases htag with
    | none =>
      rw [removeTagsFrom, removeTagsFrom]
      by_cases hc : c = '<'
      · simp only [if_pos hc]
        exact ih (.some (.cons _ .nil))
      · simp only [if_neg hc]
        exact .cons c (ih .none)
    | some hopened =>
      rw [removeTagsFrom, removeTagsFrom]
      by_cases hc : c = '>'
      · simp only [if_pos hc]
        exact .cons _ (ih .none)
      · simp only [if_neg hc]
        exact ih (.some (hopened.append (.cons c .nil)))
  | single rest ih =>
    cases htag with
    | none => exact .single (ih .none)
    | some hopened => exact ih (.some (hopened.append (.single .nil)))
  | double rest ih =>
    cases htag with
    | none => exact .double (ih .none)
    | some hopened =>
      have hpair := hopened.append (.double .nil)
      rw [← List.singleton_append, ← List.append_assoc] at hpair
      exact ih (.some hpair)

/-- The final form of a summary does not show how its lines end. -/
theorem shorten?_plainLines (cs : List Char) : shorten? (plainLines cs) = shorten? cs := by
  -- Tags are the same however lines end, and on one line the rest is too.
  have hlines := sameLines_removeTagsFrom (Text.sameLines_plainLines cs) .none
  rw [shorten?, shorten?, removeTags, removeTags, hlines.oneLine_eq]

/-- The final form of a summary by its words. -/
theorem shorten?_eq (cs : List Char) :
    shorten? cs = if words (removeTags cs) = [] then none
      else some (truncate (join [' '] (words (removeTags cs)))) := by
  rw [shorten?]
  simp only [List.isEmpty_iff, Text.oneLine_eq_nil_iff]
  rw [Text.oneLine_eq_join_words]

/-- What a body that starts with an escaped summary is summarised by, whichever way is taken. -/
theorem summarize_eq_shorten? {blanks : List Char} (hblanks : ∀ c ∈ blanks, isBlank c = true)
    (text rest : List Char) :
    summarize (blanks ++ "<summary>".toList ++ escape text ++ "</summary>".toList ++ rest) =
      .ok (shorten? text) := by
  rw [summarize, summaryText]
  -- Both ways lead to the same text, one of them with other line ends.
  cases hcontent : Xml.content?
      (blanks ++ "<summary>".toList ++ escape text ++ "</summary>".toList ++ rest) with
  | some content =>
    simp only [elementSummary?_of_content? hblanks hcontent]
    exact congrArg Except.ok (shorten?_plainLines text)
  | none =>
    simp only [rawSummary?_eq hblanks, unescape_escape]
    rfl

/-- The summary of a body that starts with an escaped text in a summary element is that text, with a
space for every tag and for every run of blanks, shortened; there is none if no word is left. It is the
same for all blanks before the element and for whatever follows it, so it does not show whether the
body is well-formed. -/
theorem summarize_escaped_element (text : List Char) :
    ∃ plain, Untagged text plain ∧ (∀ other, Untagged text other → other = plain) ∧
      ∀ blanks rest : List Char, (∀ c ∈ blanks, isBlank c = true) →
        summarize (blanks ++ "<summary>".toList ++ escape text ++ "</summary>".toList ++ rest) =
          .ok (if words plain = [] then none else some (truncate (join [' '] (words plain)))) := by
  refine ⟨removeTags text, untagged_removeTags text, fun other h => h.eq_removeTags, ?_⟩
  intro blanks rest hblanks
  rw [summarize_eq_shorten? hblanks, shorten?_eq]

/-- A summary with tags, references of its own and both kinds of line ends. -/
def sampleText : List Char := "Reads <b>all</b>\r\nof a < b &amp; \r c. Then stops".toList

/-- The summary is the same in a body that is well-formed and in one that is not. -/
theorem sampleText_summarized :
    (∀ c ∈ "\x0b ".toList, isBlank c = true) ∧
      summarize ("\x0b ".toList ++ "<summary>".toList ++ escape sampleText ++
        "</summary>".toList ++ "<summary>again".toList) =
          .ok (some "Reads all of a < b &amp; c.".toList) ∧
      summarize ([] ++ "<summary>".toList ++ escape sampleText ++ "</summary>".toList ++ []) =
          .ok (some "Reads all of a < b &amp; c.".toList) := by
  have hblanks : ∀ c ∈ "\x0b ".toList, isBlank c = true := List.all_eq_true.1 (by decide)
  obtain ⟨plain, hplain, -, hall⟩ := summarize_escaped_element sampleText
  have hshort : (if words plain = [] then none else some (truncate (join [' '] (words plain)))) =
      some "Reads all of a < b &amp; c.".toList := by
    rw [hplain.eq_removeTags]
    decide +kernel
  rw [hall _ _ hblanks, hall [] [] (by simp), hshort]
  exact ⟨hblanks, rfl, rfl⟩

end ApiOutline.Doc
