import ApiOutline.Proofs.CommentedClass
import ApiOutline.Proofs.CommentRuns
import ApiOutline.Proofs.LongReferences
import ApiOutline.Proofs.SplitJoin
import ApiOutline.Proofs.SurroundingLines

/-!
# The two styles of documentation comments

Documentation is written as line comments, one for each line, or as one block comment with a star before each
line. For lines that no mark can be confused with (`PlainLine`), taking the marks off gives the lines back from
both, only that the block has an empty line at each end. The summary does not show these lines
(`Doc.summarize_feeds`), so both styles document a declaration alike.
-/

namespace ApiOutline.Text

/-- A text stays trimmed with a character before it that is no blank. -/
theorem trim_cons_append {c : Char} {ds : List Char} (hds : trim ds = ds) (hne : ds ≠ [])
    (hc : isBlank c = false) (cs : List Char) : trim (c :: (cs ++ ds)) = c :: (cs ++ ds) := by
  obtain ⟨-, hlast⟩ := trim_eq_self_iff.1 hds
  refine trim_eq_self_iff.2 ⟨hc, ?_⟩
  rwa [← List.cons_append, List.getLast?_append_of_ne_nil _ hne]

end ApiOutline.Text

namespace ApiOutline.Doc

open Text (trim lines join isBlank)

variable {line : List Char} {ls : List (List Char)}

/-- Whether no part of a line of documentation can be taken for a mark: it is trimmed, on one line, and has
neither a star at its start nor the end mark of a block at its end. -/
structure PlainLine (line : List Char) : Prop where
  trimmed : trim line = line
  unbroken : '\n' ∉ line
  starless : line.head? ≠ some '*'
  unclosed : ¬ "*/".toList <:+ line

/-- A line as a line comment. -/
def lineComment (line : List Char) : List Char :=
  "/// ".toList ++ line

/-- A line inside a block comment. -/
def starLine (line : List Char) : List Char :=
  " * ".toList ++ line

/-- A line comment has three slashes and a space in front. -/
theorem lineComment_eq (line : List Char) : lineComment line = '/' :: '/' :: '/' :: ' ' :: line := rfl

/-- A line of a block has a star between two spaces in front. -/
theorem starLine_eq (line : List Char) : starLine line = ' ' :: '*' :: ' ' :: line := rfl

/-- Lines as a block comment, with its marks on lines of their own. -/
def blockComment (ls : List (List Char)) : List Char :=
  join ['\n'] ("/**".toList :: (ls.map starLine ++ [" */".toList]))

/-- There is nothing to take off a line without marks. -/
theorem PlainLine.drop_eq (h : PlainLine line) : dropStar (dropClosing line) = line := by
  have hclosing : dropClosing line = line := by
    rw [dropClosing, if_neg]
    rw [List.isSuffixOf_iff_suffix]
    exact h.unclosed
  rw [hclosing]
  cases line with
  | nil => rfl
  | cons c rest =>
    rw [dropStar]
    rintro _ heq
    exact h.starless (congrArg List.head? heq)

/-- A line comment is trimmed, unless its line is empty. -/
theorem trim_lineComment (h : PlainLine line) (hne : line ≠ []) :
    trim (lineComment line) = '/' :: '/' :: '/' :: ' ' :: line :=
  Text.trim_cons_append h.trimmed hne (by decide) ['/', '/', ' ']

/-- Cleaning a line comment gives its line. -/
theorem cleanLine_lineComment (h : PlainLine line) : cleanLine (lineComment line) = line := by
  by_cases hne : line = []
  · subst hne
    decide
  · have hopening : dropOpening ('/' :: '/' :: '/' :: ' ' :: line) = ' ' :: line := rfl
    have htrim : trim (' ' :: line) = line := h.trimmed
    rw [cleanLine, trim_lineComment h hne, hopening, htrim, h.drop_eq]

/-- Cleaning a line of a block gives its line. -/
theorem cleanLine_starLine (h : PlainLine line) : cleanLine (starLine line) = line := by
  by_cases hne : line = []
  · subst hne
    decide
  · have htrim : trim ('*' :: ' ' :: line) = '*' :: ' ' :: line :=
      Text.trim_cons_append h.trimmed hne (by decide) [' ']
    have hstart : trim (starLine line) = '*' :: ' ' :: line := htrim
    have hopening : dropOpening ('*' :: ' ' :: line) = '*' :: ' ' :: line := rfl
    -- The star and the space in front do not make up the end mark of a block.
    have hclosing : dropClosing ('*' :: ' ' :: line) = '*' :: ' ' :: line := by
      rw [dropClosing, if_neg]
      rw [List.isSuffixOf_iff_suffix, List.suffix_cons_iff, List.suffix_cons_iff]
      rintro (heq | heq | hsuffix)
      · exact absurd (List.cons.inj (List.cons.inj heq).2).1 (by decide)
      · exact absurd (List.cons.inj heq).1 (by decide)
      · exact h.unclosed hsuffix
    have hstar : dropStar ('*' :: ' ' :: line) = line :=
      Text.trimStart_of_not_blank_head (Text.trim_eq_self_iff.1 h.trimmed).1
    rw [cleanLine, hstart, hopening, htrim, hclosing, hstar]

/-- The body of one line comment is its line. -/
theorem clean_lineComment (h : PlainLine line) : clean (lineComment line) = line := by
  have hline : '\n' ∉ lineComment line := by
    simpa [lineComment_eq] using h.unbroken
  rw [clean, lines, Text.splitAt_of_not_mem hline, List.map_singleton, join, cleanLine_lineComment h]

/-- The body of line comments are the lines. -/
theorem join_lineComments (h : ∀ line ∈ ls, PlainLine line) :
    join ['\n'] ((ls.map lineComment).map clean) = join ['\n'] ls := by
  have hclean : (ls.map lineComment).map clean = ls := by
    rw [List.map_map]
    refine (List.map_congr_left fun line hline => ?_).trans ls.map_id
    rw [Function.comp_apply, clean_lineComment (h line hline), id]
  rw [hclean]

/-- Joined lines of documentation do not end with a carriage return. -/
theorem getLast?_join (h : ∀ line ∈ ls, PlainLine line) : (join ['\n'] ls).getLast? ≠ some '\r' := by
  -- The last line is empty, after a line feed or alone, or it ends with a character that is no blank.
  obtain rfl | ⟨front, last, rfl⟩ := ls.eq_nil_or_concat'
  · simp [join]
  · have hlast := (h last (by simp)).trimmed
    cases last with
    | nil =>
      cases front with
      | nil => simp [join]
      | cons first front =>
        rw [Text.join_append _ (List.cons_ne_nil _ _) (List.cons_ne_nil _ _), join, List.append_nil,
          List.getLast?_concat]
        decide
    | cons c cs =>
      obtain ⟨before, hbefore⟩ := Text.exists_join_concat ['\n'] front (c :: cs)
      rw [hbefore, List.getLast?_append_of_ne_nil _ (List.cons_ne_nil _ _)]
      intro hreturn
      have hblank := (Text.trim_eq_self_iff.1 hlast).2
      rw [hreturn] at hblank
      exact absurd hblank (by decide)

/-- The body of a block comment are the lines, with an empty one before and after them. -/
theorem clean_blockComment (hne : ls ≠ []) (h : ∀ line ∈ ls, PlainLine line) :
    clean (blockComment ls) = '\n' :: (join ['\n'] ls ++ ['\n']) := by
  -- No line has a line feed in it, so the lines of the comment are those it is made of.
  have hlines : lines (blockComment ls) = "/**".toList :: (ls.map starLine ++ [" */".toList]) := by
    refine Text.splitAt_join (List.cons_ne_nil _ _) ?_
    simp only [List.forall_mem_cons, List.forall_mem_append, List.forall_mem_map]
    refine ⟨by decide, fun line hline => ?_, by decide, by simp⟩
    simpa [starLine_eq] using (h line hline).unbroken
  have hstars : (ls.map starLine).map cleanLine = ls := by
    rw [List.map_map]
    refine (List.map_congr_left fun line hline => ?_).trans ls.map_id
    rw [Function.comp_apply, cleanLine_starLine (h line hline), id]
  have hopening : cleanLine "/**".toList = [] := by decide
  have hclosing : cleanLine " */".toList = [] := by decide
  rw [clean, hlines, List.map_cons, List.map_append, hstars, List.map_singleton, hopening, hclosing]
  calc join ['\n'] ([[]] ++ (ls ++ [[]]))
      = [] ++ ['\n'] ++ join ['\n'] (ls ++ [[]]) :=
        Text.join_append _ (List.cons_ne_nil _ _) (List.append_ne_nil_of_left_ne_nil hne _)
    _ = '\n' :: (join ['\n'] ls ++ ['\n'] ++ []) :=
        congrArg _ (Text.join_append _ hne (List.cons_ne_nil _ _))
    _ = '\n' :: (join ['\n'] ls ++ ['\n']) := by rw [List.append_nil]

/-- A line comment is documentation. -/
theorem isDocComment_lineComment (h : PlainLine line) : isDocComment (lineComment line) = true := by
  by_cases hne : line = []
  · subst hne
    decide
  · rw [isDocComment, trim_lineComment h hne]
    rfl

/-- A block comment is documentation. -/
theorem isDocComment_blockComment (ls : List (List Char)) : isDocComment (blockComment ls) = true := by
  obtain ⟨inner, hinner⟩ := Text.exists_join_concat ['\n'] (ls.map starLine) " */".toList
  -- The comment begins and ends with its marks, so there is nothing to trim.
  have hsplit : blockComment ls = '/' :: ('*' :: '*' :: '\n' :: inner ++ [' ', '*'] ++ ['/']) := by
    have hjoin : blockComment ls = "/**".toList ++ ['\n'] ++ (inner ++ " */".toList) := by
      rw [← hinner]
      exact Text.join_append _ (List.cons_ne_nil _ []) (by simp)
    simpa using hjoin
  have htrim : trim (blockComment ls) = blockComment ls := by
    rw [hsplit]
    exact Text.trim_cons_append (by decide) (List.cons_ne_nil _ _) (by decide) _
  rw [isDocComment, htrim, hsplit]
  rfl

/-- The summary of a block comment is that of the lines. -/
theorem hasLongSummary_blockComment (hne : ls ≠ []) (h : ∀ line ∈ ls, PlainLine line) :
    HasLongSummary (clean (blockComment ls)) ↔ HasLongSummary (join ['\n'] ls) := by
  rw [clean_blockComment hne h, ← summarize_fails_iff, (summarize_feeds (getLast?_join h)).1,
    summarize_fails_iff]

/-! ## A line with a number -/

/-- A line that is no well-formed text, with a summary that refers to a character by the given digits. -/
def numberLine (digits : List Char) : List Char :=
  "<<summary>".toList ++ (("&#".toList ++ digits) ++ "</summary>".toList)

/-- The number has more digits than are read. -/
def longLine : List Char :=
  numberLine (List.replicate 4301 '1')

section Digits

variable {digits : List Char} (hdigits : ∀ c ∈ digits, Number.isDigit c = true)

include hdigits

/-- Digits are none of the other characters. -/
theorem not_mem_digits {c : Char} (hc : Number.isDigit c = false) : c ∉ digits := by
  intro hmem
  rw [hdigits c hmem] at hc
  cases hc

/-- The line with the number can stand in a comment. -/
theorem plainLine_numberLine : PlainLine (numberLine digits) := by
  have hunbroken : '\n' ∉ numberLine digits := by
    unfold numberLine
    simp only [List.mem_append, not_or]
    exact ⟨by decide, ⟨by decide, not_mem_digits hdigits (by decide)⟩, by decide⟩
  have hhead : (numberLine digits).head? = some '<' := rfl
  have hlast : (numberLine digits).getLast? = some '>' := by
    unfold numberLine
    rw [← List.append_assoc, List.getLast?_append_of_ne_nil _ (by decide)]
    decide
  have htrim : trim (numberLine digits) = numberLine digits :=
    Text.trim_of_ends (by rw [hhead]; decide) (by decide) hlast
  refine ⟨htrim, hunbroken, by simp [hhead], ?_⟩
  -- A line that ends with `>` does not end with the end mark of a block.
  rintro ⟨front, hfront⟩
  rw [← hfront, List.getLast?_append_of_ne_nil _ (by decide)] at hlast
  exact absurd hlast (by decide)

/-- With more digits than are read, the line has too long a number in its summary. -/
theorem hasLongSummary_numberLine (hlong : Number.maxDigits < digits.length) :
    HasLongSummary (numberLine digits) := by
  have hnone : ∀ rest, Xml.content? ('<' :: '<' :: rest) = none := fun rest => rfl
  have hskip : ∀ rest, rawSummary? ('<' :: '<' :: rest) = rawSummary? ('<' :: rest) := fun rest => rfl
  have hplain : '<' ∉ "&#".toList ++ digits := by
    rw [List.mem_append, not_or]
    exact ⟨by decide, not_mem_digits hdigits (by decide)⟩
  have hinner := beforeClosing?_append hplain []
  rw [List.append_nil] at hinner
  have hraw : rawSummary? (numberLine digits) = some ("&#".toList ++ digits) := by
    -- The first of the two brackets starts no tag, so the tag is found at the second.
    refine (hskip _).trans ?_
    have hopening : openingTag?
        ('<' :: ("summary>".toList ++ (("&#".toList ++ digits) ++ "</summary>".toList))) =
          some (("&#".toList ++ digits) ++ "</summary>".toList) :=
      openingTag?_summary _
    show rawSummary? ('<' :: ("summary>".toList ++ (("&#".toList ++ digits) ++ "</summary>".toList))) = _
    rw [rawSummary?, hopening, Option.bind_some, hinner]
  have hreference : Html.HasLongReference ('&' :: '#' :: digits) :=
    Html.hasLongReference_amp.2 (.inl ⟨digits, [], by rw [List.append_nil], hdigits, hlong⟩)
  exact ⟨hnone _, _, hraw, hreference⟩

end Digits

/-- The number of the long line is made of digits. -/
theorem longLine_digits : ∀ c ∈ List.replicate 4301 '1', Number.isDigit c = true := by
  intro c hc
  rw [List.eq_of_mem_replicate hc]
  rfl

/-- The long line can stand in a comment. -/
theorem plainLine_longLine : PlainLine longLine :=
  plainLine_numberLine longLine_digits

/-- The long line has too long a number in its summary. -/
theorem hasLongSummary_longLine : HasLongSummary longLine := by
  refine hasLongSummary_numberLine longLine_digits ?_
  rw [List.length_replicate]
  exact Nat.lt_succ_self 4300

/-- The comment with that line in one of the two styles is documentation, and its summary has too long a number. -/
theorem longLine_comments : ∀ comment ∈ [lineComment longLine, blockComment [longLine]],
    isDocComment comment = true ∧ HasLongSummary (clean comment) := by
  have hlines : ∀ line ∈ [longLine], PlainLine line := by
    rw [List.forall_mem_singleton]
    exact plainLine_longLine
  rw [List.forall_mem_cons, List.forall_mem_singleton, clean_lineComment plainLine_longLine,
    hasLongSummary_blockComment (List.cons_ne_nil _ _) hlines]
  exact ⟨⟨isDocComment_lineComment plainLine_longLine, hasLongSummary_longLine⟩,
    isDocComment_blockComment _, hasLongSummary_longLine⟩

end ApiOutline.Doc

namespace ApiOutline.Outline

open Syntax (Node)
open Text (Bytes join)
open Doc (PlainLine lineComment blockComment)

variable {source : Bytes} {node : Node} {before rest run : List Node} {texts : List (List Char)}

/-- Whether the documentation comments directly before a node are those with the given texts, in source
order. The run of comments up to the node goes no further back, and ordinary comments in it do not count. -/
def DocumentedBy (source : Bytes) (before : List Node) (node : Node) (texts : List (List Char)) : Prop :=
  ∃ (run rest : List Node) (comments : List (List Char)), before = run.reverse ++ rest ∧
    IsRun source node run ∧
    (∀ sibling ∈ rest.head?, ¬ IsRun source node (sibling :: run)) ∧
    run.map (fun comment => comment.text source) = comments.map .ok ∧
    comments.filter Doc.isDocComment = texts

/-- The search finds the documentation comments of a run that goes no further back. -/
theorem docCommentsFrom_run {comments : List (List Char)} (hrun : IsRun source node run)
    (hlongest : ∀ sibling ∈ rest.head?, ¬ IsRun source node (sibling :: run))
    (htexts : run.map (fun comment => comment.text source) = comments.map .ok) :
    docCommentsFrom source (node.startRow source) (run.reverse ++ rest) =
      .ok (comments.filter Doc.isDocComment) := by
  induction run using List.reverseRecOn generalizing node comments with
  | nil =>
    obtain rfl : comments = [] := by simpa using htexts.symm
    cases rest with
    | nil => rfl
    | cons sibling rest =>
      -- Nothing further back goes on with the run, so the search stops.
      have hstops := hlongest sibling rfl
      rw [← List.nil_append [sibling], isRun_concat, and_iff_right isRun_nil] at hstops
      rw [List.reverse_nil, List.nil_append, docCommentsFrom, if_pos (stops_iff.2 hstops)]
      rfl
  | append_singleton run comment ih =>
    obtain ⟨hearlier, hnear⟩ := isRun_concat.1 hrun
    -- The texts of the earlier comments and that of the last one.
    rw [List.map_append] at htexts
    obtain ⟨earlier, last, rfl, hearlierTexts, hlastTexts⟩ := List.map_eq_append_iff.1 htexts.symm
    obtain ⟨text, rfl, hlast⟩ := List.map_eq_singleton_iff.1 hlastTexts
    have htext : comment.text source = .ok text := hlast.symm
    -- What would go on with the earlier comments would go on with the whole run.
    have hfurther : ∀ sibling ∈ rest.head?, ¬ IsRun source comment (sibling :: run) := by
      intro sibling hsibling hlonger
      refine hlongest sibling hsibling ?_
      rw [← List.cons_append]
      exact isRun_concat.2 ⟨hlonger, hnear⟩
    have hfound := ih hearlier hfurther hearlierTexts.symm
    have hgoes : ¬ (!comment.isOf "comment" || node.startRow source - comment.stopRow source > 1) = true := by
      rw [stops_iff, not_not]
      exact hnear
    rw [List.reverse_concat, List.cons_append, docCommentsFrom, if_neg hgoes, htext, hfound, List.filter_append]
    cases hdoc : Doc.isDocComment text <;>
      simp [Outcome.mapError_ok, hdoc, bind, Except.bind, pure, Except.pure]

/-- The summary of a body, with the note of one that is taken from raw text. -/
def bodySummary (body : List Char) : Walked (Option String) := do
  .leave (if Doc.usesRawText body then [.rawSummary] else [])
  let summary ← .lift ((Doc.summarize body).mapError .tooManyDigits)
  return summary.map String.ofList

/-- The note does not count for whether there is a summary. -/
theorem outcome_bodySummary (body : List Char) : (bodySummary body).outcome =
    ((Doc.summarize body).mapError .tooManyDigits).map fun summary => summary.map String.ofList := by
  simp only [bodySummary, Traced.outcome_bind, Traced.outcome_leave, Traced.outcome_lift]
  cases Doc.summarize body <;> rfl

/-- A node with documentation comments has the summary of their body. -/
theorem docSummary_of_documentedBy (h : DocumentedBy source before node texts) (hne : texts ≠ []) :
    docSummary source before node = bodySummary (docBody texts) := by
  obtain ⟨run, rest, comments, rfl, hrun, hlongest, htexts, rfl⟩ := h
  have hfound : docComments source (run.reverse ++ rest) node = .ok _ :=
    docCommentsFrom_run hrun hlongest htexts
  have hsome : (comments.filter Doc.isDocComment).isEmpty = false := List.isEmpty_eq_false_iff.2 hne
  unfold docSummary
  rw [hfound]
  show (if (comments.filter Doc.isDocComment).isEmpty then pure none
    else bodySummary (docBody (comments.filter Doc.isDocComment))) = _
  rw [hsome, if_neg Bool.false_ne_true]

/-- A node with documentation comments has no summary exactly if their body has too long a number. -/
theorem docSummary_fails_iff (h : DocumentedBy source before node texts) (hne : texts ≠ []) :
    (∃ fault, (docSummary source before node).outcome = .error fault) ↔
      Doc.HasLongSummary (docBody texts) := by
  rw [docSummary_of_documentedBy h hne, outcome_bodySummary, ← Doc.summarize_fails_iff]
  cases Doc.summarize (docBody texts) with
  | error fault => simp [Except.map, Outcome.mapError_error]
  | ok summary => simp [Except.map, Outcome.mapError_ok]

/-- The two styles of documentation comments mean the same. Line comments and a block comment for the same plain
lines are documentation comments, their bodies are these lines, in the block between two empty ones, and
declarations that they document have the same summary and leave the same notes. Neither gives a summary
exactly when the part of the lines that it would show refers to a character by too many digits. -/
theorem comment_styles_agree (ls : List (List Char)) (hne : ls ≠ []) (hls : ∀ line ∈ ls, PlainLine line) :
    join ['\n'] ((ls.map lineComment).map Doc.clean) = join ['\n'] ls ∧
    Doc.clean (blockComment ls) = '\n' :: (join ['\n'] ls ++ ['\n']) ∧
    (∀ comment ∈ blockComment ls :: ls.map lineComment, Doc.isDocComment comment = true) ∧
    ∀ source source' before before' node node',
      DocumentedBy source before node (ls.map lineComment) →
      DocumentedBy source' before' node' [blockComment ls] →
      docSummary source before node = docSummary source' before' node' ∧
        ((∃ fault, (docSummary source before node).outcome = .error fault) ↔
          Doc.HasLongSummary (join ['\n'] ls)) := by
  have hclean := Doc.join_lineComments hls
  have hblock := Doc.clean_blockComment hne hls
  refine ⟨hclean, hblock, ?_, ?_⟩
  · rw [List.forall_mem_cons, List.forall_mem_map]
    exact ⟨Doc.isDocComment_blockComment ls, fun line hline => Doc.isDocComment_lineComment (hls line hline)⟩
  · intro source source' before before' node node' hlined hblocked
    have hend := Doc.getLast?_join hls
    obtain ⟨hsummary, hraw⟩ := Doc.summarize_feeds hend
    -- The body of the block differs by line feeds at its ends, which do not count.
    have hbody : docBody [blockComment ls] = '\n' :: (join ['\n'] ls ++ ['\n']) := by
      rw [docBody, List.map_singleton, join, hblock]
    have hsome : ls.map lineComment ≠ [] := by simpa using hne
    have hfails := docSummary_fails_iff hlined hsome
    rw [docBody, hclean] at hfails
    refine ⟨?_, hfails⟩
    rw [docSummary_of_documentedBy hlined hsome, docSummary_of_documentedBy hblocked (List.cons_ne_nil _ _),
      hbody, docBody, hclean, bodySummary, bodySummary, hsummary, hraw]

/-- Two line comments before a class, and its tree. -/
def linedSource : Bytes :=
  Text.Utf8.ofString "/// <summary>A.\n/// B.</summary>\nclass A \x7b\x7d"

/-- The nodes of the two comments. -/
def linedComments : List Node :=
  [{ type := "comment", start := 0, stop := 15 }, { type := "comment", start := 16, stop := 32 }]

/-- The class after them. -/
def linedClass : Node :=
  bareClass 33

/-- The block comment with the same lines before a class, and its tree. -/
def starredSource : Bytes :=
  Text.Utf8.ofString "/**\n * <summary>A.\n * B.</summary>\n */\nclass A \x7b\x7d"

/-- The node of the block comment. -/
def starredComment : Node :=
  { type := "comment", start := 0, stop := 38 }

/-- The class after it. -/
def starredClass : Node :=
  bareClass 39

/-- The lines of both. -/
def sharedLines : List (List Char) :=
  ["<summary>A.".toList, "B.</summary>".toList]

/-- The two classes have the same summary. -/
theorem starredClass_summary :
    DocumentedBy linedSource linedComments.reverse linedClass (sharedLines.map lineComment) ∧
    DocumentedBy starredSource [starredComment] starredClass [blockComment sharedLines] ∧
    docSummary linedSource linedComments.reverse linedClass =
      docSummary starredSource [starredComment] starredClass := by
  have hplain : ∀ line ∈ sharedLines, PlainLine line := by
    rw [sharedLines, List.forall_mem_cons, List.forall_mem_singleton]
    exact ⟨⟨by decide, by decide, by decide, by decide⟩, ⟨by decide, by decide, by decide, by decide⟩⟩
  have hlined : DocumentedBy linedSource linedComments.reverse linedClass (sharedLines.map lineComment) :=
    ⟨linedComments, [], sharedLines.map lineComment, (List.append_nil _).symm,
      ⟨by decide +kernel, by decide +kernel⟩, by simp, by rfl, by decide +kernel⟩
  have hstarred : DocumentedBy starredSource [starredComment] starredClass [blockComment sharedLines] :=
    ⟨[starredComment], [], [blockComment sharedLines], rfl,
      ⟨by decide +kernel, by decide +kernel⟩, by simp, by rfl, by decide +kernel⟩
  obtain ⟨-, -, -, hsummary⟩ := comment_styles_agree _ (List.cons_ne_nil _ _) hplain
  exact ⟨hlined, hstarred, (hsummary _ _ _ _ _ _ hlined hstarred).1⟩

/-! ## A class without a summary to be given -/

/-- A class at most one row after a documentation comment is documented by it. -/
theorem Commented.documentedBy {sample : Commented} (hgap : sample.gap ≤ 1)
    (hdoc : Doc.isDocComment sample.comment = true) :
    DocumentedBy sample.source [sample.commentNode] sample.classNode [sample.comment] := by
  refine ⟨[sample.commentNode], [], [sample.comment], rfl, ?_, by simp, ?_, ?_⟩
  · rw [← List.nil_append [sample.commentNode]]
    refine isRun_concat.2 ⟨isRun_nil, rfl, ?_⟩
    have hrows := sample.startRow_sub_stopRow
    omega
  · exact congrArg (fun found => [found]) sample.text_commentNode
  · rw [List.filter_cons_of_pos hdoc, List.filter_nil]

/-- A line that gives no summary in either style, since the number in it has 4301 digits. -/
theorem longNumber_has_no_summary :
    PlainLine Doc.longLine ∧
    ∀ comment ∈ [lineComment Doc.longLine, blockComment [Doc.longLine]],
      let sample : Commented := ⟨[], comment, ['\n']⟩
      DocumentedBy sample.source [sample.commentNode] sample.classNode [comment] ∧
        ∃ fault, (docSummary sample.source [sample.commentNode] sample.classNode).outcome = .error fault := by
  refine ⟨Doc.plainLine_longLine, ?_⟩
  intro comment hcomment sample
  obtain ⟨hdoc, hlong⟩ := Doc.longLine_comments comment hcomment
  have hdocumented : DocumentedBy sample.source [sample.commentNode] sample.classNode [comment] :=
    Commented.documentedBy (by decide : (Text.Utf8.encode ['\n']).count 10 ≤ 1) hdoc
  refine ⟨hdocumented, (docSummary_fails_iff hdocumented (List.cons_ne_nil _ _)).2 ?_⟩
  rw [docBody, List.map_singleton, join]
  exact hlong

end ApiOutline.Outline
