import ApiOutline.Proofs.SummaryRoutes
import Mathlib.Data.List.Infix
import Mathlib.Data.List.TakeWhile

/-!
# Line feeds around a body

A body between two line feeds has the summary that it has alone. In the tree of elements this is a fact
about the readers of XML, each of which reads the same before a line feed at the end of the text and leaves it
in the rest (`fed`). So the line feeds are two more tokens (`tokens?_feeds`), and as text outside of all
elements they do not show among these (`content?_feeds`). In the raw text no tag begins or ends with a line
feed.
-/

namespace ApiOutline.Xml

variable {c : Char} {cs rest : List Char} {test : Char → Bool}

/-! ## Readers of XML -/

/-- What is read of a text before a line feed: the same, and the line feed stays in the rest. -/
def fed {α : Type} (found : Option (α × List Char)) : Option (α × List Char) :=
  found.map fun read => (read.1, read.2 ++ ['\n'])

/-- What is not read is not read before a line feed either. -/
@[simp]
theorem fed_none {α : Type} : fed (none : Option (α × List Char)) = none := rfl

/-- What is read leaves the line feed in the rest. -/
@[simp]
theorem fed_some {α : Type} (a : α) (rest : List Char) :
    fed (some (a, rest)) = some (a, rest ++ ['\n']) := rfl

/-- A mark without a line feed is not completed by one. -/
theorem prefix_feed {mark : List Char} (hmark : '\n' ∉ mark) : mark <+: cs ++ ['\n'] ↔ mark <+: cs := by
  rw [List.prefix_concat_iff, or_iff_right]
  rintro rfl
  exact hmark (by simp)

/-- A run that stops before the end stops at the same place. -/
theorem span_feed {d : Char} (h : cs.dropWhile test = d :: rest) :
    (cs ++ ['\n']).takeWhile test = cs.takeWhile test ∧
      (cs ++ ['\n']).dropWhile test = d :: (rest ++ ['\n']) := by
  have hd : test d = false := by
    have hstop := List.head?_dropWhile_not test cs
    rwa [h] at hstop
  have hsplit : cs ++ ['\n'] = cs.takeWhile test ++ d :: (rest ++ ['\n']) := by
    rw [← List.cons_append, ← h, ← List.append_assoc, List.takeWhile_append_dropWhile]
  rw [hsplit]
  exact Text.takeWhile_append_of_stop (fun _ hx => List.mem_takeWhile_imp hx) (by rintro _ ⟨⟩; exact hd)

/-- A run up to the end goes on over the line feed. -/
theorem dropWhile_feed (hfeed : test '\n' = true) (h : cs.dropWhile test = []) :
    (cs ++ ['\n']).dropWhile test = [] := by
  rw [List.dropWhile_append, h]
  simp [hfeed]

/-- A run that takes no line feed stops at it. -/
theorem span_feed_of_stop (hfeed : test '\n' = false) (cs : List Char) :
    (cs ++ ['\n']).takeWhile test = cs.takeWhile test ∧
      (cs ++ ['\n']).dropWhile test = cs.dropWhile test ++ ['\n'] := by
  -- Either the run takes the whole text and stops at the line feed, or it stops before.
  cases h : cs.dropWhile test with
  | nil =>
    have hall : ∀ x ∈ cs, test x = true := List.dropWhile_eq_nil_iff.1 h
    have hself : cs.takeWhile test = cs := List.takeWhile_eq_self_iff.2 hall
    rw [hself]
    exact Text.takeWhile_append_of_stop hall (by rintro _ ⟨⟩; exact hfeed)
  | cons d rest => exact span_feed h

/-- A part of a name is read the same before a line feed. -/
theorem readPart?_feed (cs : List Char) : readPart? (cs ++ ['\n']) = fed (readPart? cs) := by
  cases cs with
  | nil => decide
  | cons c cs =>
    obtain ⟨htake, hdrop⟩ := span_feed_of_stop (by decide : isNameChar '\n' = false) cs
    rw [List.cons_append, readPart?, readPart?, htake, hdrop]
    split_ifs <;> rfl

/-- So is a name. -/
theorem readName?_feed (cs : List Char) : readName? (cs ++ ['\n']) = fed (readName? cs) := by
  rw [readName?, readName?, readPart?_feed]
  cases readPart? cs with
  | none => rfl
  | some found =>
    obtain ⟨first, rest⟩ := found
    cases rest with
    | nil => rfl
    | cons c rest =>
      by_cases hc : c = ':'
      · subst hc
        simp only [fed_some, List.cons_append]
        rw [readPart?_feed]
        cases readPart? rest with
        | none => rfl
        | some found =>
          obtain ⟨second, rest⟩ := found
          cases rest with
          | nil => rfl
          | cons d rest =>
            by_cases hd : d = ':'
            · subst hd
              rfl
            · simp [hd]
      · simp [hc]

/-- So is a reference. -/
theorem readReference?_feed (cs : List Char) :
    readReference? (cs ++ ['\n']) = fed (readReference? cs) := by
  rw [readReference?, readReference?]
  -- A reference that is not ended is not ended by a line feed.
  cases h : cs.dropWhile (· != ';') with
  | nil =>
    rw [dropWhile_feed (by decide) h]
    rfl
  | cons d rest =>
    obtain ⟨htake, hdrop⟩ := span_feed h
    rw [htake, hdrop]
    by_cases hd : d = ';'
    · subst hd
      simp only [fed, Option.map_map]
      rfl
    · simp [hd]

/-- A comment goes on where no two hyphens stand. -/
theorem skipComment?_cons (h : ¬ ['-', '-'] <+: c :: cs) :
    skipComment? (c :: cs) = if isXmlChar c then skipComment? cs else none := by
  rw [skipComment?]
  · rintro rest rfl rfl
    exact h ⟨'>' :: rest, rfl⟩
  · rintro rest rfl rfl
    exact h ⟨rest, rfl⟩

/-- A comment is passed by the same before a line feed. -/
theorem skipComment?_feed (cs : List Char) :
    skipComment? (cs ++ ['\n']) = (skipComment? cs).map (· ++ ['\n']) := by
  induction cs with
  | nil => rfl
  | cons c cs ih =>
    by_cases hmark : ['-', '-'] <+: c :: cs
    · obtain ⟨rest, hrest⟩ := hmark
      obtain ⟨rfl, rfl⟩ := List.cons.inj hrest
      cases rest with
      | nil => rfl
      | cons d rest =>
        by_cases hd : d = '>'
        · subst hd
          rfl
        · simp [skipComment?, hd]
    · -- The line feed is no hyphen, so there are no two of them now either.
      have hfed : ¬ ['-', '-'] <+: c :: (cs ++ ['\n']) := by
        rwa [← List.cons_append, prefix_feed (by decide)]
      rw [List.cons_append, skipComment?_cons hfed, skipComment?_cons hmark, ih]
      split_ifs <;> rfl

/-- A section goes on up to its end mark. -/
theorem readSection?_cons (h : ¬ [']', ']', '>'] <+: c :: cs) : readSection? (c :: cs) =
    if isXmlChar c then (readSection? cs).map fun read => (c :: read.1, read.2) else none := by
  rw [readSection?]
  rintro rest rfl rfl
  exact h ⟨rest, rfl⟩

/-- A section is read the same before a line feed. -/
theorem readSection?_feed (cs : List Char) : readSection? (cs ++ ['\n']) = fed (readSection? cs) := by
  induction cs with
  | nil => decide
  | cons c cs ih =>
    by_cases hmark : [']', ']', '>'] <+: c :: cs
    · obtain ⟨rest, hrest⟩ := hmark
      obtain ⟨rfl, rfl⟩ := List.cons.inj hrest
      rfl
    · have hfed : ¬ [']', ']', '>'] <+: c :: (cs ++ ['\n']) := by
        rwa [← List.cons_append, prefix_feed (by decide)]
      rw [List.cons_append, readSection?_cons hfed, readSection?_cons hmark, ih]
      split_ifs
      · cases readSection? cs <;> rfl
      · rfl

/-- An instruction goes on up to its end mark. -/
theorem skipInstruction?_cons (h : ¬ ['?', '>'] <+: c :: cs) :
    skipInstruction? (c :: cs) = if isXmlChar c then skipInstruction? cs else none := by
  rw [skipInstruction?]
  rintro rest rfl rfl
  exact h ⟨rest, rfl⟩

/-- An instruction is passed by the same before a line feed. -/
theorem skipInstruction?_feed (cs : List Char) :
    skipInstruction? (cs ++ ['\n']) = (skipInstruction? cs).map (· ++ ['\n']) := by
  induction cs with
  | nil => rfl
  | cons c cs ih =>
    by_cases hmark : ['?', '>'] <+: c :: cs
    · obtain ⟨rest, hrest⟩ := hmark
      obtain ⟨rfl, rfl⟩ := List.cons.inj hrest
      rfl
    · have hfed : ¬ ['?', '>'] <+: c :: (cs ++ ['\n']) := by
        rwa [← List.cons_append, prefix_feed (by decide)]
      rw [List.cons_append, skipInstruction?_cons hfed, skipInstruction?_cons hmark, ih]
      split_ifs <;> rfl

/-- So is one with its target. -/
theorem readInstruction?_feed (cs : List Char) :
    readInstruction? (cs ++ ['\n']) = (readInstruction? cs).map (· ++ ['\n']) := by
  rw [readInstruction?, readInstruction?, readPart?_feed]
  cases readPart? cs with
  | none => rfl
  | some found =>
    obtain ⟨target, rest⟩ := found
    simp only [fed_some]
    split_ifs
    · rfl
    · cases rest with
      | nil => rfl
      | cons c more =>
        by_cases hc : c = '?'
        · subst hc
          cases more with
          | nil => rfl
          | cons d more =>
            by_cases hd : d = '>'
            · subst hd
              rfl
            · simp [hd, show isSpace '?' = false from rfl]
        · cases hspace : isSpace c <;> simp [hc, hspace, skipInstruction?_feed]

/-- The end of a tag is read the same before a line feed. -/
theorem tagEnd?_feed (cs : List Char) : tagEnd? (cs ++ ['\n']) = fed (tagEnd? cs) := by
  cases cs with
  | nil => decide
  | cons c cs =>
    by_cases hc : c = '>'
    · subst hc
      rfl
    · by_cases hslash : c = '/'
      · subst hslash
        cases cs with
        | nil => decide
        | cons d cs =>
          by_cases hd : d = '>'
          · subst hd
            rfl
          · simp [tagEnd?, hd]
      · simp [tagEnd?, hc, hslash]

/-- Blanks up to the end take the line feed with them. -/
theorem skipSpace_feed (cs : List Char) :
    skipSpace (cs ++ ['\n']) = if skipSpace cs = [] then [] else skipSpace cs ++ ['\n'] := by
  rw [skipSpace, skipSpace, List.dropWhile_append]
  cases cs.dropWhile isSpace with
  | nil => rfl
  | cons d rest => rfl

/-- An attribute is read the same before a line feed. -/
theorem readAttribute?_feed (cs : List Char) : readAttribute? (cs ++ ['\n']) = fed (readAttribute? cs) := by
  rw [readAttribute?, readAttribute?, readName?_feed]
  cases readName? cs with
  | none => rfl
  | some found =>
    obtain ⟨name, rest⟩ := found
    simp only [fed_some, Option.bind_eq_bind, Option.bind_some, skipSpace_feed]
    cases skipSpace rest with
    | nil => rfl
    | cons c rest =>
      by_cases hc : c = '='
      · subst hc
        simp only [reduceCtorEq, if_false, List.cons_append, skipSpace_feed]
        cases skipSpace rest with
        | nil => rfl
        | cons quote rest =>
          simp only [reduceCtorEq, if_false, List.cons_append]
          split_ifs with hquote
          · -- The line feed does not end the value, since it is no quote.
            have hfeed : ('\n' != quote) = true := by obtain rfl | rfl := hquote <;> decide
            cases hvalue : rest.dropWhile (· != quote) with
            | nil =>
              rw [dropWhile_feed hfeed hvalue]
              rfl
            | cons d after =>
              obtain ⟨htake, hdrop⟩ := span_feed hvalue
              rw [htake, hdrop]
              cases expandFrom? none (rest.takeWhile (· != quote)) <;> rfl
          · rfl
      · simp [hc]

/-- What follows the first item that stops a run is a part of the text. -/
theorem suffix_of_dropWhile {d : Char} (h : cs.dropWhile test = d :: rest) : rest <:+ cs :=
  (List.suffix_cons d rest).trans (h ▸ List.dropWhile_suffix test)

/-- What follows a part of a name is a part of the text. -/
theorem readPart?_suffix {first : List Char} (h : readPart? cs = some (first, rest)) : rest <:+ cs := by
  cases cs with
  | nil => cases h
  | cons c cs =>
    rw [readPart?] at h
    split_ifs at h
    cases h
    exact (List.dropWhile_suffix _).trans (List.suffix_cons _ _)

/-- What follows a name is a part of the text. -/
theorem readName?_suffix {name : QName} (h : readName? cs = some (name, rest)) : rest <:+ cs := by
  rw [readName?] at h
  split at h
  · cases h
  · next hfirst =>
    split at h
    · cases h
    · cases h
    · next hrest hsecond =>
      cases h
      exact ((readPart?_suffix hsecond).trans (List.suffix_cons _ _)).trans (readPart?_suffix hfirst)
  · next hfirst =>
    cases h
    exact readPart?_suffix hfirst

/-- What follows an attribute is a part of the text. -/
theorem readAttribute?_suffix {found : QName × List Char} (h : readAttribute? cs = some (found, rest)) :
    rest <:+ cs := by
  unfold readAttribute? at h
  obtain ⟨⟨name, afterName⟩, hname, h⟩ := Option.bind_eq_some_iff.1 h
  simp only at h
  split at h
  · next afterEquals hequals =>
    have hequals : afterEquals <:+ afterName := suffix_of_dropWhile hequals
    split at h
    · next quote afterQuote hquote =>
      have hquote : afterQuote <:+ afterEquals := suffix_of_dropWhile hquote
      split_ifs at h
      split at h
      · next after hvalue =>
        have hvalue : after <:+ afterQuote := suffix_of_dropWhile hvalue
        obtain ⟨value, -, h⟩ := Option.bind_eq_some_iff.1 h
        cases h
        exact ((hvalue.trans hquote).trans hequals).trans (readName?_suffix hname)
      · cases h
    · cases h
  · cases h

/-- Attributes are read the same before a line feed, with the same fuel. -/
theorem readAttributes?_feed (fuel : Nat) (cs : List Char) :
    readAttributes? fuel (cs ++ ['\n']) =
      (readAttributes? fuel cs).map fun read => (read.1, read.2.1, read.2.2 ++ ['\n']) := by
  induction fuel generalizing cs with
  | zero => rfl
  | succ fuel ih =>
    cases cs with
    | nil => rfl
    | cons c cs =>
      rw [List.cons_append, readAttributes?, readAttributes?, ← List.cons_append, tagEnd?_feed,
        skipSpace_feed]
      cases tagEnd? (c :: cs) with
      | some found => rfl
      | none =>
        simp only [fed_none]
        split_ifs with hspace hall
        · rw [hall]
          rfl
        · -- Blanks are followed by the end of the tag or by an attribute.
          rw [tagEnd?_feed]
          cases tagEnd? (skipSpace (c :: cs)) with
          | some found => rfl
          | none =>
            simp only [fed_none, readAttribute?_feed, Option.bind_eq_bind]
            cases readAttribute? (skipSpace (c :: cs)) with
            | none => rfl
            | some found =>
              obtain ⟨first, rest⟩ := found
              simp only [fed_some, Option.bind_some, ih]
              cases readAttributes? fuel rest <;> rfl
        · rfl

/-- The length of a text is fuel enough for its attributes: each takes at least the blank before it. -/
theorem readAttributes?_more {fuel : Nat} (h : cs.length < fuel) :
    readAttributes? (fuel + 1) cs = readAttributes? fuel cs := by
  induction fuel generalizing cs with
  | zero => exact absurd h (Nat.not_lt_zero _)
  | succ fuel ih =>
    cases cs with
    | nil => rfl
    | cons c cs =>
      rw [readAttributes?, readAttributes?]
      cases tagEnd? (c :: cs) with
      | some found => rfl
      | none =>
        simp only
        split_ifs with hspace
        · have hskip : skipSpace (c :: cs) = skipSpace cs := List.dropWhile_cons_of_pos hspace
          cases tagEnd? (skipSpace (c :: cs)) with
          | some found => rfl
          | none =>
            simp only [Option.bind_eq_bind]
            cases hread : readAttribute? (skipSpace (c :: cs)) with
            | none => rfl
            | some found =>
              obtain ⟨first, rest⟩ := found
              -- The rest is shorter by the blank, so it has fuel enough by induction.
              have hrest : rest.length < fuel := by
                rw [hskip] at hread
                have hsuffix := (readAttribute?_suffix hread).trans (List.dropWhile_suffix _)
                exact Nat.lt_of_le_of_lt hsuffix.length_le (Nat.lt_of_succ_lt_succ h)
              simp only [Option.bind_some, ih hrest]
        · rfl

/-- The start tag after a `<`. -/
def readOpening? (cs : List Char) : Option (Option Token × List Char) :=
  (readName? cs).bind fun (name, rest) =>
    (readAttributes? (rest.length + 1) rest).map fun (attributes, closed, rest) =>
      (some (.opening name attributes closed), rest)

/-- A start tag is read the same before a line feed. -/
theorem readOpening?_feed (cs : List Char) : readOpening? (cs ++ ['\n']) = fed (readOpening? cs) := by
  rw [readOpening?, readOpening?, readName?_feed]
  cases readName? cs with
  | none => rfl
  | some found =>
    obtain ⟨name, rest⟩ := found
    -- The fuel is one more for the longer text, which makes no difference.
    have hfuel : (rest ++ ['\n']).length + 1 = rest.length + 1 + 1 := by simp
    simp only [fed_some, Option.bind_some]
    rw [hfuel, readAttributes?_feed, readAttributes?_more (Nat.lt_succ_self _)]
    cases readAttributes? (rest.length + 1) rest <;> rfl

/-- After `<!` there is a comment or a section, or nothing is read. -/
theorem readMarkup?_declaration (hcomment : ¬ "--".toList <+: cs) (hsection : ¬ "[CDATA[".toList <+: cs) :
    readMarkup? ('!' :: cs) = none := by
  rw [readMarkup?]
  · rfl
  · rintro rest heq
    exact hcomment ⟨rest, (List.cons.inj heq).2.symm⟩
  · rintro rest heq
    exact hsection ⟨rest, (List.cons.inj heq).2.symm⟩
  · rintro rest heq
    cases heq
  · rintro rest heq
    cases heq

/-- After `<` and none of the marks there is a start tag. -/
theorem readMarkup?_name (hc : c ≠ '!' ∧ c ≠ '?' ∧ c ≠ '/') (cs : List Char) :
    readMarkup? (c :: cs) = readOpening? (c :: cs) := by
  rw [readMarkup?]
  · rw [readOpening?]
    cases readName? (c :: cs) <;> rfl
  · exact fun rest heq => hc.1 (List.cons.inj heq).1
  · exact fun rest heq => hc.1 (List.cons.inj heq).1
  · exact fun rest heq => hc.2.1 (List.cons.inj heq).1
  · exact fun rest heq => hc.2.2 (List.cons.inj heq).1

/-- What is between `<` and `>` is read the same before a line feed. -/
theorem readMarkup?_feed (cs : List Char) : readMarkup? (cs ++ ['\n']) = fed (readMarkup? cs) := by
  cases cs with
  | nil => decide
  | cons c cs =>
    rw [List.cons_append]
    by_cases hbang : c = '!'
    · subst hbang
      -- After `!` there are comments and sections only.
      by_cases hcomment : "--".toList <+: cs
      · obtain ⟨rest, rfl⟩ := hcomment
        show (skipComment? (rest ++ ['\n'])).map _ = fed ((skipComment? rest).map _)
        rw [skipComment?_feed]
        cases skipComment? rest <;> rfl
      by_cases hsection : "[CDATA[".toList <+: cs
      · obtain ⟨rest, rfl⟩ := hsection
        show (readSection? (rest ++ ['\n'])).map _ = fed ((readSection? rest).map _)
        rw [readSection?_feed]
        cases readSection? rest <;> rfl
      · rw [readMarkup?_declaration hcomment hsection, readMarkup?_declaration]
        · rfl
        · rwa [prefix_feed (by decide)]
        · rwa [prefix_feed (by decide)]
    by_cases hinstruction : c = '?'
    · subst hinstruction
      rw [readMarkup?, readMarkup?, readInstruction?_feed]
      cases readInstruction? cs <;> rfl
    by_cases hslash : c = '/'
    · subst hslash
      rw [readMarkup?, readMarkup?, readName?_feed]
      cases readName? cs with
      | none => rfl
      | some found =>
        obtain ⟨name, rest⟩ := found
        simp only [fed_some, skipSpace_feed]
        cases skipSpace rest with
        | nil => rfl
        | cons d rest =>
          by_cases hd : d = '>'
          · subst hd
            rfl
          · simp [hd]
    · have hname := readMarkup?_name ⟨hbang, hinstruction, hslash⟩
      rw [hname, hname, ← List.cons_append, readOpening?_feed]

/-- The tokens that start at a character, and the rest. -/
def readToken? (c : Char) (cs : List Char) : Option (List Token × List Char) :=
  if c = '<' then (readMarkup? cs).map fun read => (read.1.toList, read.2)
  else if c = '&' then (readReference? cs).map fun read => ([.chars [read.1]], read.2)
  else if "]]>".toList.isPrefixOf (c :: cs) then none
  else if isXmlChar c then some ([.chars [c]], cs)
  else none

/-- Tokens are read from one character at a time. -/
theorem readTokens?_cons (fuel : Nat) (c : Char) (cs : List Char) :
    readTokens? (fuel + 1) (c :: cs) =
      (readToken? c cs).bind fun read => (readTokens? fuel read.2).map (read.1 ++ ·) := by
  rw [readToken?]
  split_ifs with hlt hamp hsection hxml
  · subst hlt
    rw [readTokens?]
    cases readMarkup? cs with
    | none => rfl
    | some read => cases h : readTokens? fuel read.2 <;> simp [h]
  · subst hamp
    rw [readTokens?]
    cases readReference? cs with
    | none => rfl
    | some read => cases h : readTokens? fuel read.2 <;> simp [h]
  · rw [readTokens?.eq_5 _ _ _ hlt hamp, if_pos hsection]
    rfl
  · rw [readTokens?.eq_5 _ _ _ hlt hamp, if_neg hsection, if_pos hxml]
    rfl
  · rw [readTokens?.eq_5 _ _ _ hlt hamp, if_neg hsection, if_neg hxml]
    rfl

/-- The tokens at a character are the same before a line feed. -/
theorem readToken?_feed (c : Char) (cs : List Char) :
    readToken? c (cs ++ ['\n']) = fed (readToken? c cs) := by
  -- The end mark of a section is not completed by the line feed.
  have hsection : "]]>".toList.isPrefixOf (c :: (cs ++ ['\n'])) = "]]>".toList.isPrefixOf (c :: cs) := by
    rw [Bool.eq_iff_iff, List.isPrefixOf_iff_prefix, List.isPrefixOf_iff_prefix, ← List.cons_append]
    exact prefix_feed (by decide)
  rw [readToken?, readToken?, readMarkup?_feed, readReference?_feed, hsection]
  split_ifs
  · cases readMarkup? cs <;> rfl
  · cases readReference? cs <;> rfl
  · rfl
  · rfl
  · rfl

/-- A line feed at the end of a text is one more token. The fuel grows with the text; where it does not reach,
both texts have no tokens. -/
theorem readTokens?_feed (fuel : Nat) (cs : List Char) :
    readTokens? (fuel + 1) (cs ++ ['\n']) = (readTokens? fuel cs).map (· ++ [.chars ['\n']]) := by
  induction fuel generalizing cs with
  | zero =>
    cases cs with
    | nil => rfl
    | cons c cs =>
      have hnone : ∀ rest, readTokens? 0 (rest ++ ['\n']) = none := fun rest => readTokens?.eq_2 _ (by simp)
      rw [readTokens?.eq_2 _ (List.cons_ne_nil _ _), List.cons_append, readTokens?_cons, readToken?_feed]
      cases readToken? c cs with
      | none => rfl
      | some read =>
        rw [fed, Option.map_some, Option.bind_some, hnone]
        rfl
  | succ fuel ih =>
    cases cs with
    | nil => rfl
    | cons c cs =>
      rw [List.cons_append, readTokens?_cons, readTokens?_cons, readToken?_feed]
      cases readToken? c cs with
      | none => rfl
      | some read =>
        rw [fed, Option.map_some, Option.bind_some, Option.bind_some, ih]
        cases readTokens? fuel read.2 <;> simp

/-! ## The tree of elements -/

section Tree

variable {frames : List Frame} {outer other : List Content}

/-- Whether an item of a content is an element. -/
def Content.isElement : Content → Bool
  | .text _ => false
  | .element _ _ => true

/-- The elements of a content, without the text between them. -/
def elements (content : List Content) : List Content :=
  content.filter Content.isElement

/-- The elements in reverse order are those of the content in reverse order. -/
theorem elements_reverse (content : List Content) : elements content.reverse = (elements content).reverse :=
  List.filter_reverse

/-- Characters add no element. -/
theorem elements_addChars (cs : List Char) (content : List Content) :
    elements (addChars cs content) = elements content := by
  cases content with
  | nil => cases cs <;> rfl
  | cons item content =>
    cases item with
    | text run => rfl
    | element name inner => cases cs <;> rfl

/-- An element is one of the elements. -/
theorem elements_cons_element (name : Name) (inner content : List Content) :
    elements (.element name inner :: content) = .element name inner :: elements content := rfl

/-- The elements of a tree do not depend on the text outside of them. -/
theorem build?_elements (h : elements outer = elements other) (tokens : List Token) :
    (build? frames outer tokens).map elements = (build? frames other tokens).map elements := by
  induction tokens generalizing frames outer other with
  | nil =>
    rw [build?, build?]
    split_ifs
    · rw [Option.map_some, Option.map_some, elements_reverse, elements_reverse, h]
    · rfl
  | cons token tokens ih =>
    -- An element goes to the innermost open one, or to both contents outside.
    have hadd : ∀ (name : Name) (inner : List Content) (frames : List Frame),
        (build? (addElement (.element name inner) frames outer).1
          (addElement (.element name inner) frames outer).2 tokens).map elements =
        (build? (addElement (.element name inner) frames other).1
          (addElement (.element name inner) frames other).2 tokens).map elements := by
      intro name inner frames
      cases frames with
      | nil =>
        have hmore : elements (.element name inner :: outer) = elements (.element name inner :: other) := by
          rw [elements_cons_element, elements_cons_element, h]
        exact ih hmore
      | cons frame frames => exact ih h
    cases token with
    | chars cs =>
      cases frames with
      | nil =>
        rw [build?, build?]
        exact ih (by rw [elements_addChars, elements_addChars, h])
      | cons frame frames => exact ih h
    | opening tag attributes closed =>
      rw [build?, build?]
      simp only
      split
      · rfl
      · split_ifs
        · exact hadd _ _ _
        · exact ih h
    | closing tag =>
      cases frames with
      | nil => rfl
      | cons frame frames =>
        rw [build?, build?]
        split_ifs
        · exact hadd _ _ _
        · rfl

/-- Characters at the end add no element. -/
theorem build?_concat_chars (cs : List Char) (tokens : List Token) :
    (build? frames outer (tokens ++ [.chars cs])).map elements =
      (build? frames outer tokens).map elements := by
  induction tokens generalizing frames outer with
  | nil =>
    cases frames with
    | nil =>
      show some (elements (addChars cs outer).reverse) = some (elements outer.reverse)
      rw [elements_reverse, elements_reverse, elements_addChars]
    | cons frame frames => rfl
  | cons token tokens ih =>
    rw [List.cons_append]
    cases token with
    | chars more =>
      cases frames with
      | nil => exact ih
      | cons frame frames => exact ih
    | opening tag attributes closed =>
      rw [build?, build?]
      simp only
      split
      · rfl
      · split_ifs
        · exact ih
        · exact ih
    | closing tag =>
      cases frames with
      | nil => rfl
      | cons frame frames =>
        rw [build?, build?]
        split_ifs
        · exact ih
        · rfl

/-- Line feeds around a text are its first token and its last one. -/
theorem tokens?_feeds (cs : List Char) :
    tokens? ('\n' :: (cs ++ ['\n'])) =
      (tokens? cs).map fun tokens => .chars ['\n'] :: (tokens ++ [.chars ['\n']]) := by
  have hlength : ('\n' :: (cs ++ ['\n'])).length = cs.length + 1 + 1 := by simp
  have hfirst : readToken? '\n' (cs ++ ['\n']) = some ([.chars ['\n']], cs ++ ['\n']) := rfl
  rw [tokens?, hlength, readTokens?_cons, hfirst, Option.bind_some, readTokens?_feed, tokens?]
  cases readTokens? cs.length cs <;> rfl

/-- The elements of a text do not change when line feeds are put around it. -/
theorem content?_feeds (h : cs.getLast? ≠ some '\r') :
    (content? ('\n' :: (cs ++ ['\n']))).map elements = (content? cs).map elements := by
  rw [content?, content?, Text.plainLines_cons (by decide), Text.plainLines_concat h, tokens?_feeds]
  cases tokens? (Text.plainLines cs) with
  | none => rfl
  | some tokens =>
    simp only [Option.map_some, Option.bind_some]
    calc (build? [] [] (.chars ['\n'] :: (tokens ++ [.chars ['\n']]))).map elements
        = (build? [] [.text ['\n']] (tokens ++ [.chars ['\n']])).map elements := rfl
      _ = (build? [] [.text ['\n']] tokens).map elements := build?_concat_chars _ _
      _ = (build? [] [] tokens).map elements :=
        build?_elements (elements_addChars ['\n'] []) tokens

end Tree

end ApiOutline.Xml

namespace ApiOutline.Doc

open Xml (elements Content content? findChild? findDeepIn?)
open Text (isBlank isWord)

variable {c : Char} {cs ds : List Char}

/-- A summary is found among the elements. -/
theorem elementSummary?_elements (content : List Content) :
    elementSummary? (elements content) = elementSummary? content := by
  -- Neither search looks at the text between elements.
  have hfound : ∀ content : List Content,
      findChild? summaryTag (elements content) = findChild? summaryTag content ∧
        findDeepIn? summaryTag (elements content) = findDeepIn? summaryTag content := by
    intro content
    induction content with
    | nil => exact ⟨rfl, rfl⟩
    | cons item content ih =>
      cases item with
      | text run => exact ih
      | element name inner =>
        rw [Xml.elements_cons_element, findChild?, findChild?, findDeepIn?, findDeepIn?, ih.1, ih.2]
        exact ⟨rfl, rfl⟩
  rw [elementSummary?, elementSummary?, (hfound content).1, (hfound content).2]

/-- A word without a line feed is dropped the same before one. -/
theorem dropWord?_feed {word : List Char} (hword : ∀ letter ∈ word, isLetter letter '\n' = false)
    (cs : List Char) :
    dropWord? word (cs ++ ['\n']) = (dropWord? word cs).map (· ++ ['\n']) := by
  induction word generalizing cs with
  | nil => rfl
  | cons letter word ih =>
    rw [List.forall_mem_cons] at hword
    cases cs with
    | nil => simp [dropWord?, hword.1]
    | cons c cs =>
      rw [List.cons_append, dropWord?, dropWord?, ih hword.2]
      split_ifs <;> rfl

/-- The name of the tag has no line feed. -/
theorem summaryTag_feed : ∀ letter ∈ summaryTag, isLetter letter '\n' = false := by
  have htag : summaryTag.all (fun letter => !isLetter letter '\n') = true := by decide
  intro letter hletter
  simpa using List.all_eq_true.1 htag letter hletter

/-- An opening tag is read the same before a line feed. -/
theorem openingTag?_feed (cs : List Char) :
    openingTag? (cs ++ ['\n']) = (openingTag? cs).map (· ++ ['\n']) := by
  cases cs with
  | nil => rfl
  | cons c cs =>
    by_cases hc : c = '<'
    · subst hc
      rw [List.cons_append, openingTag?, openingTag?, dropWord?_feed summaryTag_feed]
      cases dropWord? summaryTag cs with
      | none => rfl
      | some rest =>
        -- The line feed is no word character, so it ends a name like the end of the text.
        have hboundary : (rest ++ ['\n']).head?.any isWord = rest.head?.any isWord := by
          cases rest with
          | nil =>
            have hfeed : isWord '\n' = false := by decide +kernel
            simp [hfeed]
          | cons d rest => rfl
        simp only [Option.map_some, hboundary]
        split_ifs
        · rfl
        · cases hinner : rest.dropWhile (· != '>') with
          | nil =>
            rw [Xml.dropWhile_feed (by decide) hinner]
            rfl
          | cons d inner =>
            rw [(Xml.span_feed hinner).2]
            rfl
    · simp [openingTag?, hc]

/-- A closing tag is not completed by a line feed. -/
theorem atClosingTag_feed (cs : List Char) : atClosingTag (cs ++ ['\n']) = atClosingTag cs := by
  by_cases hmark : "</".toList <+: cs
  · obtain ⟨cs, rfl⟩ := hmark
    show atClosingTag ('<' :: '/' :: (cs ++ ['\n'])) = atClosingTag ('<' :: '/' :: cs)
    rw [atClosingTag, atClosingTag, dropWord?_feed summaryTag_feed]
    cases dropWord? summaryTag cs with
    | none => rfl
    | some rest =>
      simp only [Option.map_some]
      cases hend : rest.dropWhile isBlank with
      | nil => rw [Xml.dropWhile_feed (by decide) hend]
      | cons d after => rw [(Xml.span_feed hend).2]; rfl
  · -- Without the mark there is no closing tag, and the line feed does not complete it.
    have hnone : ∀ cs : List Char, ¬ "</".toList <+: cs → atClosingTag cs = false := by
      intro cs hcs
      rw [atClosingTag]
      rintro rest rfl
      exact hcs ⟨rest, rfl⟩
    rw [hnone cs hmark, hnone _ (by rwa [Xml.prefix_feed (by decide)])]

/-- The text before a closing tag is the same before a line feed. -/
theorem beforeClosing?_feed (cs : List Char) : beforeClosing? (cs ++ ['\n']) = beforeClosing? cs := by
  induction cs with
  | nil => rfl
  | cons c cs ih =>
    have hclosing : atClosingTag (c :: (cs ++ ['\n'])) = atClosingTag (c :: cs) := atClosingTag_feed (c :: cs)
    rw [List.cons_append, beforeClosing?, beforeClosing?, hclosing, ih]

/-- The raw summary is the same before a line feed. -/
theorem rawSummary?_feed (cs : List Char) : rawSummary? (cs ++ ['\n']) = rawSummary? cs := by
  induction cs with
  | nil => rfl
  | cons c cs ih =>
    have hopening : openingTag? (c :: (cs ++ ['\n'])) = (openingTag? (c :: cs)).map (· ++ ['\n']) :=
      openingTag?_feed (c :: cs)
    have hinner : ((openingTag? (c :: cs)).map (· ++ ['\n'])).bind beforeClosing? =
        (openingTag? (c :: cs)).bind beforeClosing? := by
      cases openingTag? (c :: cs) with
      | none => rfl
      | some inner => exact beforeClosing?_feed inner
    rw [List.cons_append, rawSummary?, rawSummary?, hopening, hinner, ih]

/-- Line feeds around a body change neither its summary nor where it is found. -/
theorem summarize_feeds (h : cs.getLast? ≠ some '\r') :
    summarize ('\n' :: (cs ++ ['\n'])) = summarize cs ∧
      usesRawText ('\n' :: (cs ++ ['\n'])) = usesRawText cs := by
  -- The first line feed begins no tag, and the last one ends none.
  have hraw : rawSummary? ('\n' :: (cs ++ ['\n'])) = rawSummary? cs :=
    (rawSummary?_append (by decide : '<' ∉ ['\n'])).trans (rawSummary?_feed cs)
  have hcontent := Xml.content?_feeds h
  rw [summarize, summarize, summaryText, summaryText, usesRawText, usesRawText, hraw]
  cases hfed : content? ('\n' :: (cs ++ ['\n'])) with
  | none =>
    rw [hfed] at hcontent
    rw [Option.map_eq_none_iff.1 hcontent.symm]
    exact ⟨rfl, rfl⟩
  | some content =>
    rw [hfed] at hcontent
    -- The elements are the same, and so is the summary among them.
    obtain ⟨other, hother, helements⟩ := Option.map_eq_some_iff.1 hcontent.symm
    have hsummary : elementSummary? content = elementSummary? other := by
      rw [← elementSummary?_elements content, ← helements, elementSummary?_elements]
    rw [hother]
    exact ⟨congrArg (fun found => Except.ok (Option.bind found shorten?)) hsummary, rfl⟩

end ApiOutline.Doc
