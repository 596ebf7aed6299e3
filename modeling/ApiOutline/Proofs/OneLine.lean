import ApiOutline.Proofs.SplitJoin
import ApiOutline.Text.Blank

/-!
# Texts on one line

A text on one line is determined by its words, the runs of its characters that are no blanks:
`oneLine_eq_join_words`. So only the words of a text count, and neither which blanks stand between
them nor how many.

Two more facts follow the blanks of a text. Where all blanks are spaces (`Spaced`), no operation on
texts brings in another blank, and texts that differ only in how they end their lines (`SameLines`)
collapse to the same text.
-/

namespace ApiOutline.Text

variable {c : Char} {cs ds : List Char}

/-! ## Words -/

/-- The runs of characters of a text that are no blanks. -/
def words (cs : List Char) : List (List Char) :=
  (cs.splitOnP isBlank).filter (· ≠ [])

/-- There is no word in nothing. -/
theorem words_nil : words [] = [] := by
  simp [words, List.splitOnP_nil]

/-- A blank at the start belongs to no word. -/
theorem words_cons_of_blank (hc : isBlank c = true) : words (c :: cs) = words cs := by
  simp [words, List.splitOnP_cons_eq_if_modifyHead, hc]

/-- A character before a blank, or at the end, is a word. -/
theorem words_cons_of_stop (hc : isBlank c = false) (hcs : ∀ d ∈ cs.head?, isBlank d = true) :
    words (c :: cs) = [c] :: words cs := by
  cases cs with
  | nil => simp [words, List.splitOnP_cons_eq_if_modifyHead, List.splitOnP_nil, hc]
  | cons d ds =>
    have hd : isBlank d = true := hcs d rfl
    simp [words, List.splitOnP_cons_eq_if_modifyHead, hc, hd]

/-- A character before one that is no blank belongs to the word of that one. -/
theorem exists_words_cons {d : Char} (hc : isBlank c = false) (hd : isBlank d = false)
    (ds : List Char) :
    ∃ word rest, words (d :: ds) = word :: rest ∧ words (c :: d :: ds) = (c :: word) :: rest := by
  -- Both texts have the same pieces after the first one.
  obtain ⟨first, others, hsplit⟩ := List.exists_cons_of_ne_nil (List.splitOnP_ne_nil isBlank ds)
  refine ⟨d :: first, others.filter (· ≠ []), ?_, ?_⟩
  · simp [words, List.splitOnP_cons_eq_if_modifyHead, hd, hsplit]
  · simp [words, List.splitOnP_cons_eq_if_modifyHead, hc, hd, hsplit]

/-- Joined words are nothing only if there is no word. -/
theorem join_words_eq_nil_iff : join [' '] (words cs) = [] ↔ words cs = [] := by
  have hne : ∀ word ∈ words cs, word ≠ [] := by
    intro word hword
    simpa using (List.mem_filter.1 hword).2
  cases hwords : words cs with
  | nil => simp [join]
  | cons word rest =>
    have hword : word ≠ [] := hne word (hwords ▸ List.mem_cons_self)
    cases rest with
    | nil => simpa [join] using hword
    | cons next rest => simp [join]

/-! ## Collapsing and trimming -/

/-- A blank at the start is written as a space unless another blank follows. -/
theorem collapse_cons_of_blank (hc : isBlank c = true) :
    collapse (c :: cs) = if cs.head?.any isBlank then collapse cs else ' ' :: collapse cs := by
  cases cs with
  | nil => simp [collapse, hc]
  | cons d ds =>
    rw [collapse, if_pos hc]
    rfl

/-- Any other character stays as it is. -/
theorem collapse_cons_of_not_blank (hc : isBlank c = false) :
    collapse (c :: cs) = c :: collapse cs := by
  simp [collapse, hc]

/-- A blank after a blank does not count. -/
theorem collapse_append_blank {d : Char} (hc : isBlank c = true) (hd : isBlank d = true) (cs ds : List Char) :
    collapse (cs ++ c :: d :: ds) = collapse (cs ++ d :: ds) := by
  induction cs with
  | nil =>
    have hnext : (d :: ds).head?.any isBlank = true := hd
    rw [List.nil_append, collapse_cons_of_blank hc, hnext, if_pos rfl, List.nil_append]
  | cons b cs ih =>
    have hhead : (cs ++ c :: d :: ds).head?.any isBlank = (cs ++ d :: ds).head?.any isBlank := by
      cases cs with
      | nil => exact hc.trans hd.symm
      | cons => rfl
    rw [List.cons_append, List.cons_append]
    cases hb : isBlank b with
    | true => rw [collapse_cons_of_blank hb, collapse_cons_of_blank hb, hhead, ih]
    | false => rw [collapse_cons_of_not_blank hb, collapse_cons_of_not_blank hb, ih]

/-- A blank at the start is trimmed. -/
theorem trimStart_cons_of_blank (hc : isBlank c = true) : trimStart (c :: cs) = trimStart cs :=
  List.dropWhile_cons_of_pos hc

/-- Without a blank at the start nothing is trimmed there. -/
theorem trimStart_of_not_blank_head (h : cs.head?.any isBlank = false) : trimStart cs = cs := by
  cases cs with
  | nil => rfl
  | cons d ds =>
    have hd : ¬ isBlank d = true := by simpa using h
    exact List.dropWhile_cons_of_neg hd

/-- What is left after the blanks at the start does not begin with one. -/
theorem head?_trimStart (cs : List Char) : (trimStart cs).head?.any isBlank = false := by
  have hstop := List.head?_dropWhile_not isBlank cs
  rw [trimStart]
  cases h : (cs.dropWhile isBlank).head? with
  | none => rfl
  | some c =>
    rw [h] at hstop
    exact hstop

/-- A run of blanks at the start is written as one space. -/
theorem collapse_of_blank_head (h : cs.head?.any isBlank = true) :
    collapse cs = ' ' :: collapse (trimStart cs) := by
  induction cs with
  | nil => simp at h
  | cons c cs ih =>
    have hc : isBlank c = true := by simpa using h
    rw [collapse_cons_of_blank hc, trimStart_cons_of_blank hc]
    cases hnext : cs.head?.any isBlank with
    | true => rw [if_pos rfl, ih hnext]
    | false =>
      -- The run ends here, so nothing more is trimmed.
      rw [if_neg Bool.false_ne_true, trimStart_of_not_blank_head hnext]

/-- Blanks can be trimmed at the start before they are collapsed. -/
theorem trimStart_collapse (cs : List Char) : trimStart (collapse cs) = collapse (trimStart cs) := by
  -- Collapsing leaves the first character as it is if it is no blank.
  have hhead : ∀ ds : List Char, ds.head?.any isBlank = false →
      (collapse ds).head?.any isBlank = false := by
    intro ds hds
    cases ds with
    | nil => rfl
    | cons d ds =>
      have hd : isBlank d = false := by simpa using hds
      simpa [collapse_cons_of_not_blank hd] using hd
  cases hcs : cs.head?.any isBlank with
  | false => rw [trimStart_of_not_blank_head hcs, trimStart_of_not_blank_head (hhead cs hcs)]
  | true =>
    rw [collapse_of_blank_head hcs]
    -- The blanks have become one space, which is trimmed.
    have hspace : isBlank ' ' = true := by decide
    rw [trimStart_cons_of_blank hspace, trimStart_of_not_blank_head (hhead _ (head?_trimStart cs))]

/-- The first character of a text is trimmed at the end only if it is a blank and all is trimmed. -/
theorem trimEnd_cons (c : Char) (cs : List Char) :
    trimEnd (c :: cs) = if trimEnd cs = [] ∧ isBlank c = true then [] else c :: trimEnd cs := by
  simp only [trimEnd, List.reverse_cons, List.dropWhile_append, List.isEmpty_iff,
    List.reverse_eq_nil_iff]
  by_cases hrest : cs.reverse.dropWhile isBlank = []
  · by_cases hc : isBlank c = true
    · simp [hrest, hc]
    · simp [hrest, hc]
  · simp [hrest]

/-- On one line a text is trimmed at the start, collapsed, and trimmed at the end. -/
theorem oneLine_eq (cs : List Char) : oneLine cs = trimEnd (collapse (trimStart cs)) := by
  rw [oneLine, trim, trimStart_collapse]

/-- A blank at the start does not count. -/
theorem oneLine_cons_of_blank (hc : isBlank c = true) : oneLine (c :: cs) = oneLine cs := by
  rw [oneLine_eq, oneLine_eq, trimStart_cons_of_blank hc]

/-- A character before one that is no blank, or at the end, stays in front of the rest. -/
theorem oneLine_cons_of_go_on (hc : isBlank c = false) (hcs : cs.head?.any isBlank = false) :
    oneLine (c :: cs) = c :: oneLine cs := by
  have htrim : trimStart (c :: cs) = c :: cs := by simp [trimStart, hc]
  rw [oneLine_eq, htrim, collapse_cons_of_not_blank hc, trimEnd_cons, oneLine_eq,
    trimStart_of_not_blank_head hcs]
  simp [hc]

/-- A character before a blank has a space after it if anything follows. -/
theorem oneLine_cons_of_stop (hc : isBlank c = false) (hcs : cs.head?.any isBlank = true) :
    oneLine (c :: cs) = c :: if oneLine cs = [] then [] else ' ' :: oneLine cs := by
  have htrim : trimStart (c :: cs) = c :: cs := by simp [trimStart, hc]
  have hspace : isBlank ' ' = true := by decide
  rw [oneLine_eq (c :: cs), htrim, collapse_cons_of_not_blank hc, collapse_of_blank_head hcs,
    trimEnd_cons, trimEnd_cons, ← oneLine_eq]
  simp [hc, hspace]

/-- A text on one line is its words with a space between each two. -/
theorem oneLine_eq_join_words (cs : List Char) : oneLine cs = join [' '] (words cs) := by
  induction cs with
  | nil => rw [words_nil]; rfl
  | cons c cs ih =>
    cases hc : isBlank c with
    | true => rw [oneLine_cons_of_blank hc, words_cons_of_blank hc, ih]
    | false =>
      cases cs with
      | nil =>
        rw [oneLine_cons_of_go_on hc rfl, words_cons_of_stop hc (by simp), words_nil]
        rfl
      | cons d ds =>
        cases hd : isBlank d with
        | true =>
          -- A word ends here, and the space after it stands for the blank.
          have hwords : words (c :: d :: ds) = [c] :: words (d :: ds) :=
            words_cons_of_stop hc (by simpa using hd)
          rw [oneLine_cons_of_stop hc (by simpa using hd), hwords, ih]
          simp only [join_words_eq_nil_iff]
          cases words (d :: ds) with
          | nil => simp [join]
          | cons word rest => simp [join]
        | false =>
          -- The character goes on the front of the next word on both sides.
          obtain ⟨word, rest, hwords, hlonger⟩ := exists_words_cons hc hd ds
          rw [oneLine_cons_of_go_on hc (by simpa using hd), ih, hlonger, hwords]
          cases rest with
          | nil => rfl
          | cons next rest => simp [join]

/-- A text has nothing on one line only if it has no word. -/
theorem oneLine_eq_nil_iff : oneLine cs = [] ↔ words cs = [] := by
  rw [oneLine_eq_join_words, join_words_eq_nil_iff]

/-! ## Spaces -/

/-- Whether every blank of a text is a space. -/
def Spaced (cs : List Char) : Prop :=
  ∀ c ∈ cs, isBlank c = true → c = ' '

/-- The blanks of a text can be checked. -/
instance : DecidablePred Spaced :=
  List.decidableBAll fun c => isBlank c = true → c = ' '

/-- Texts with no other blanks than spaces can be put together. -/
theorem Spaced.append (hcs : Spaced cs) (hds : Spaced ds) : Spaced (cs ++ ds) :=
  List.forall_mem_append.2 ⟨hcs, hds⟩

/-- A space in front brings in no other blank. -/
theorem Spaced.space (hcs : Spaced cs) : Spaced (' ' :: cs) :=
  List.forall_mem_cons.2 ⟨fun _ => rfl, hcs⟩

/-- A text all of whose characters come from one with no other blank has none either. -/
theorem Spaced.mono (hds : Spaced ds) (hsub : cs ⊆ ds) : Spaced cs :=
  fun c hc => hds c (hsub hc)

/-- Texts with no other blanks than spaces can be joined by such a text. -/
theorem Spaced.join {sep : List Char} {pieces : List (List Char)} (hsep : Spaced sep)
    (hpieces : ∀ piece ∈ pieces, Spaced piece) : Spaced (join sep pieces) :=
  forall_mem_join hsep hpieces

/-- A blank that is left after blanks are collapsed is a space. -/
theorem spaced_collapse (cs : List Char) : Spaced (collapse cs) := by
  induction cs with
  | nil => exact fun c hc => absurd hc List.not_mem_nil
  | cons c cs ih =>
    cases hc : isBlank c with
    | true =>
      rw [collapse_cons_of_blank hc]
      split
      · exact ih
      · exact ih.space
    | false =>
      rw [collapse_cons_of_not_blank hc]
      refine List.forall_mem_cons.2 ⟨fun hblank => ?_, ih⟩
      rw [hc] at hblank
      exact absurd hblank Bool.false_ne_true

/-- Trimming only drops characters. -/
theorem trim_subset (cs : List Char) : trim cs ⊆ cs := by
  intro c hc
  have hend : c ∈ trimStart cs := by
    rw [trim, trimEnd, List.mem_reverse] at hc
    exact List.mem_reverse.1 ((List.dropWhile_sublist _).subset hc)
  exact (List.dropWhile_sublist _).subset hend

/-- A text with no blank at its ends is trimmed to itself. -/
theorem trim_of_ends {last : Char} (hfirst : cs.head?.any isBlank = false)
    (hlast : isBlank last = false) (h : cs.getLast? = some last) : trim cs = cs := by
  have hend : cs.reverse.head?.any isBlank = false := by
    rw [List.head?_reverse, h]
    exact hlast
  rw [trim, trimStart_of_not_blank_head hfirst]
  show (trimStart cs.reverse).reverse = cs
  rw [trimStart_of_not_blank_head hend, List.reverse_reverse]

/-- After trimming, no blank is at the end. -/
theorem getLast?_trimEnd (cs : List Char) : (trimEnd cs).getLast?.any isBlank = false := by
  rw [trimEnd, List.getLast?_reverse]
  exact head?_trimStart cs.reverse

/-- Trimming at the end leaves a prefix. -/
theorem trimEnd_isPrefix (cs : List Char) : trimEnd cs <+: cs := by
  have hend := List.dropWhile_suffix isBlank (l := cs.reverse)
  rwa [← List.reverse_prefix, List.reverse_reverse] at hend

/-- After trimming, no blank is at the start. -/
theorem head?_trim (cs : List Char) : (trim cs).head?.any isBlank = false := by
  obtain ⟨blanks, hblanks⟩ := trimEnd_isPrefix (trimStart cs)
  have hstart := head?_trimStart cs
  rw [← hblanks] at hstart
  -- What is trimmed at the end is a prefix of what is trimmed at the start alone.
  change (trim cs ++ blanks).head?.any isBlank = false at hstart
  cases htrim : trim cs with
  | nil => rfl
  | cons c rest =>
    rw [htrim] at hstart
    exact hstart

/-- A text is trimmed if it has no blank at its ends. -/
theorem trim_eq_self_iff :
    trim cs = cs ↔ cs.head?.any isBlank = false ∧ cs.getLast?.any isBlank = false := by
  constructor
  · intro h
    rw [← h]
    exact ⟨head?_trim cs, getLast?_trimEnd _⟩
  · rintro ⟨hfirst, hlast⟩
    cases hend : cs.getLast? with
    | none =>
      rw [List.getLast?_eq_none_iff.1 hend]
      rfl
    | some last =>
      rw [hend] at hlast
      exact trim_of_ends hfirst hlast hend

/-- Trimming twice is trimming once. -/
theorem trim_trim (cs : List Char) : trim (trim cs) = trim cs :=
  trim_eq_self_iff.2 ⟨head?_trim cs, getLast?_trimEnd _⟩

/-- On one line there are no other blanks than spaces. -/
theorem spaced_oneLine (cs : List Char) : Spaced (oneLine cs) :=
  (spaced_collapse cs).mono (trim_subset _)

/-- Where blanks are removed, none is left. -/
theorem not_isBlank_of_mem_removeBlanks (h : c ∈ removeBlanks cs) : isBlank c = false := by
  simpa using (List.mem_filter.1 h).2

/-! ## Line ends -/

/-- Whether two texts differ only in that the second one has a line feed where the first one ends a
line with a carriage return. -/
inductive SameLines : List Char → List Char → Prop
  | nil : SameLines [] []
  | cons (c : Char) {cs ds : List Char} (rest : SameLines cs ds) : SameLines (c :: cs) (c :: ds)
  /-- A carriage return ends a line by itself. -/
  | single {cs ds : List Char} (rest : SameLines cs ds) : SameLines ('\r' :: cs) ('\n' :: ds)
  /-- A carriage return and a line feed end one line. -/
  | double {cs ds : List Char} (rest : SameLines cs ds) :
      SameLines ('\r' :: '\n' :: cs) ('\n' :: ds)

/-- A text has the same lines as with plain line ends. -/
theorem sameLines_plainLines (cs : List Char) : SameLines cs (plainLines cs) := by
  fun_induction plainLines cs with
  | case1 => exact .nil
  | case2 rest ih => exact .double ih
  | case3 rest _ ih => exact .single ih
  | case4 c rest _ _ ih => exact .cons c ih

/-- Texts with the same lines can be put together. -/
theorem SameLines.append {as bs : List Char} (h : SameLines cs ds) (hrest : SameLines as bs) :
    SameLines (cs ++ as) (ds ++ bs) := by
  induction h with
  | nil => exact hrest
  | cons c _ ih => exact .cons c ih
  | single _ ih => exact .single ih
  | double _ ih => exact .double ih

/-- Texts with the same lines start with a blank both or neither. -/
theorem SameLines.head (h : SameLines cs ds) : cs.head?.any isBlank = ds.head?.any isBlank := by
  cases h with
  | nil => rfl
  | cons c _ => rfl
  | single _ => rfl
  | double _ => rfl

/-- However lines end, a text collapses to the same text. -/
theorem SameLines.collapse_eq (h : SameLines cs ds) : collapse cs = collapse ds := by
  have hreturn : isBlank '\r' = true := by decide
  have hfeed : isBlank '\n' = true := by decide
  induction h with
  | nil => rfl
  | cons c rest ih =>
    cases hc : isBlank c with
    | true => rw [collapse_cons_of_blank hc, collapse_cons_of_blank hc, rest.head, ih]
    | false => rw [collapse_cons_of_not_blank hc, collapse_cons_of_not_blank hc, ih]
  | single rest ih =>
    rw [collapse_cons_of_blank hreturn, collapse_cons_of_blank hfeed, rest.head, ih]
  | @double cs ds rest ih =>
    -- The carriage return has a blank after it, so it leaves no space of its own.
    have hpair : collapse ('\r' :: '\n' :: cs) = collapse ('\n' :: cs) := by
      rw [collapse_cons_of_blank hreturn]
      simp [hfeed]
    rw [hpair, collapse_cons_of_blank hfeed, collapse_cons_of_blank hfeed, rest.head, ih]

/-- However lines end, a text is the same on one line. -/
theorem SameLines.oneLine_eq (h : SameLines cs ds) : oneLine cs = oneLine ds := by
  rw [oneLine, oneLine, h.collapse_eq]

/-- A character that is no carriage return starts no line end. -/
theorem plainLines_cons (hc : c ≠ '\r') (cs : List Char) :
    plainLines (c :: cs) = c :: plainLines cs := by
  rw [plainLines]
  · exact fun _ heq _ => hc heq
  · exact hc

/-- A part without carriage returns stays as it is. -/
theorem plainLines_append_of_not_mem (hcs : '\r' ∉ cs) (ds : List Char) :
    plainLines (cs ++ ds) = cs ++ plainLines ds := by
  induction cs with
  | nil => rfl
  | cons c cs ih =>
    rw [List.mem_cons, not_or] at hcs
    rw [List.cons_append, plainLines_cons (Ne.symm hcs.1), ih hcs.2, List.cons_append]

/-- Line ends are written part by part, if the second part does not start in the midst of one. -/
theorem plainLines_append (cs : List Char) (hds : ds.head? ≠ some '\n') :
    plainLines (cs ++ ds) = plainLines cs ++ plainLines ds := by
  fun_induction plainLines cs with
  | case1 => rfl
  | case2 rest ih => rw [List.cons_append, List.cons_append, plainLines, ih, List.cons_append]
  | case3 rest hrest ih =>
    -- The second part does not complete the line end.
    have hnext : ∀ more, rest ++ ds ≠ '\n' :: more := by
      intro more heq
      cases rest with
      | nil => exact hds (by rw [List.nil_append] at heq; rw [heq]; rfl)
      | cons d rest =>
        obtain ⟨rfl, -⟩ := List.cons.inj heq
        exact hrest rest rfl
    rw [List.cons_append, plainLines, ih, List.cons_append]
    exact hnext
  | case4 c rest _ hc ih =>
    rw [List.cons_append, plainLines_cons hc, ih, List.cons_append]

/-- A line feed at the end is a line of its own, unless it ends one together with a carriage return. -/
theorem plainLines_concat (h : cs.getLast? ≠ some '\r') :
    plainLines (cs ++ ['\n']) = plainLines cs ++ ['\n'] := by
  fun_induction plainLines cs with
  | case1 => rfl
  | case2 rest ih =>
    rw [List.cons_append, List.cons_append, plainLines, ih, List.cons_append]
    rintro hlast
    exact h (by simp [List.getLast?_cons, hlast])
  | case3 rest hrest ih =>
    cases rest with
    | nil => exact absurd rfl h
    | cons d rest =>
      rw [List.cons_append, plainLines, ih, List.cons_append]
      · rwa [List.getLast?_cons_cons] at h
      · intro more heq
        exact hrest rest (by rw [(List.cons.inj heq).1])
  | case4 c rest _ hc ih =>
    rw [List.cons_append, plainLines_cons hc, ih, List.cons_append]
    rintro hlast
    exact h (by simp [List.getLast?_cons, hlast])

end ApiOutline.Text
