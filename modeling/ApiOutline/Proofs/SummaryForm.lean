import ApiOutline.Proofs.SummaryRoutes
import Mathlib.Data.List.Chain
import Mathlib.Data.List.TakeWhile
import Mathlib.Tactic.SplitIfs

/-!
# The form of a summary

A summary has its tags taken out, is written on one line and is then shortened. Each of the three steps
brings a text into a form that it does not change any more: `Tagless`, `OneLined`, and for shortening one
of the three in `exists_truncate_form`. A later step keeps the form of the earlier ones, so a summary has
all of them (`shortForm_truncate`), and the steps leave it as it is.

Shortening cuts through the first period among the first hundred characters. If there is none it cuts
after these and adds three periods, which then stand beyond the hundredth character.
-/

namespace ApiOutline.Text

variable {c : Char} {cs : List Char}

/-! ## On one line -/

/-- Whether a text is written on one line: no blank is at its ends or next to another one, and all are
spaces. -/
structure OneLined (cs : List Char) : Prop where
  first : ∀ c ∈ cs.head?, isBlank c = false
  last : ∀ c ∈ cs.getLast?, isBlank c = false
  spaced : Spaced cs
  single : cs.IsChain fun c d => ¬ (isBlank c = true ∧ isBlank d = true)

/-- The empty text is on one line. -/
theorem oneLined_nil : OneLined [] where
  first := by simp
  last := by simp
  spaced := fun c hc => absurd hc List.not_mem_nil
  single := .nil

/-- A character that is no blank can stand in front. -/
theorem OneLined.cons (h : OneLined cs) (hc : isBlank c = false) : OneLined (c :: cs) where
  first := by simpa using hc
  last := by
    cases cs with
    | nil => simpa using hc
    | cons d ds =>
      rw [List.getLast?_cons_cons]
      exact h.last
  spaced := by
    refine List.forall_mem_cons.2 ⟨fun hblank => ?_, h.spaced⟩
    rw [hc] at hblank
    cases hblank
  single := List.isChain_cons.2 ⟨fun d _ hboth => by simp [hc] at hboth, h.single⟩

/-- A character that is no blank can stand in front with a space after it, if anything follows. -/
theorem OneLined.cons_space (h : OneLined cs) (hne : cs ≠ []) (hc : isBlank c = false) :
    OneLined (c :: ' ' :: cs) where
  first := by simpa using hc
  last := by
    obtain ⟨d, ds, rfl⟩ := List.exists_cons_of_ne_nil hne
    rw [List.getLast?_cons_cons, List.getLast?_cons_cons]
    exact h.last
  spaced := by
    refine List.forall_mem_cons.2 ⟨fun hblank => ?_, h.spaced.space⟩
    rw [hc] at hblank
    cases hblank
  single := by
    refine List.isChain_cons_cons.2 ⟨fun hboth => by simp [hc] at hboth, List.isChain_cons.2 ⟨?_, h.single⟩⟩
    intro d hd hboth
    rw [h.first d hd] at hboth
    exact Bool.false_ne_true hboth.2

/-- A text on one line is written so. -/
theorem oneLined_oneLine (cs : List Char) : OneLined (oneLine cs) := by
  induction cs with
  | nil => exact oneLined_nil
  | cons c cs ih =>
    cases hc : isBlank c with
    | true =>
      rw [oneLine_cons_of_blank hc]
      exact ih
    | false =>
      cases hnext : cs.head?.any isBlank with
      | false =>
        rw [oneLine_cons_of_go_on hc hnext]
        exact ih.cons hc
      -- A blank after it becomes one space, unless nothing but blanks follows.
      | true =>
        rw [oneLine_cons_of_stop hc hnext]
        split
        · exact oneLined_nil.cons hc
        · next hne => exact ih.cons_space hne hc

/-- A text that is written on one line stays as it is. -/
theorem OneLined.oneLine_eq (h : OneLined cs) : oneLine cs = cs := by
  -- Each blank is a single space already, so collapsing changes nothing.
  have hcollapse : ∀ ds : List Char, Spaced ds →
      (ds.IsChain fun c d => ¬ (isBlank c = true ∧ isBlank d = true)) → collapse ds = ds := by
    intro ds hspaced hsingle
    induction ds with
    | nil => rfl
    | cons d ds ih =>
      obtain ⟨hd, hspaced⟩ := List.forall_mem_cons.1 hspaced
      obtain ⟨hnext, hsingle⟩ := List.isChain_cons.1 hsingle
      cases hblank : isBlank d with
      | true =>
        -- The blank is a space, and what follows it is no blank.
        have hstop : ds.head?.any isBlank = false := by
          cases hhead : ds.head? with
          | none => rfl
          | some next =>
            have hboth := hnext next hhead
            simpa [hblank] using hboth
        rw [collapse_cons_of_blank hblank, hstop, if_neg Bool.false_ne_true, ih hspaced hsingle,
          hd hblank]
      | false => rw [collapse_cons_of_not_blank hblank, ih hspaced hsingle]
  rw [oneLine, hcollapse cs h.spaced h.single]
  cases hlast : cs.getLast? with
  | none =>
    rw [List.getLast?_eq_none_iff.1 hlast]
    rfl
  | some last =>
    refine trim_of_ends ?_ (h.last last hlast) hlast
    cases hhead : cs.head? with
    | none => rfl
    | some first => exact h.first first hhead

/-- Writing a text on one line brings in no character but the space. -/
theorem mem_of_mem_oneLine (h : c ∈ oneLine cs) : c = ' ' ∨ c ∈ cs := by
  -- Collapsing brings in spaces only, and trimming nothing.
  have hcollapse : ∀ ds : List Char, c ∈ collapse ds → c = ' ' ∨ c ∈ ds := by
    intro ds hmem
    induction ds with
    | nil => exact .inr hmem
    | cons d ds ih =>
      have hlater : c ∈ collapse ds → c = ' ' ∨ c ∈ d :: ds := fun hmem =>
        (ih hmem).imp_right (List.mem_cons_of_mem d)
      cases hblank : isBlank d with
      | true =>
        rw [collapse_cons_of_blank hblank] at hmem
        split at hmem
        · exact hlater hmem
        · exact (List.mem_cons.1 hmem).elim .inl hlater
      | false =>
        rw [collapse_cons_of_not_blank hblank] at hmem
        exact (List.mem_cons.1 hmem).elim (fun heq => .inr (heq ▸ List.mem_cons_self)) hlater
  exact hcollapse cs (trim_subset _ h)

end ApiOutline.Text

namespace ApiOutline.Doc

open Text (isBlank oneLine OneLined Spaced)

variable {cs ds : List Char}

/-! ## Without tags -/

/-- Whether no `<` of a text has a `>` somewhere after it. -/
def Tagless (cs : List Char) : Prop :=
  cs.Pairwise fun c d => ¬ (c = '<' ∧ d = '>')

/-- What opens no tag has none. -/
theorem tagless_of_not_mem (h : '<' ∉ cs) : Tagless cs :=
  List.pairwise_of_forall_mem_list fun _ hc _ _ hboth => h (hboth.1 ▸ hc)

/-- A text after one that opens no tag has a tag only if it has one itself. -/
theorem Tagless.append_of_not_mem (hcs : '<' ∉ cs) (hds : Tagless ds) : Tagless (cs ++ ds) :=
  List.pairwise_append.2 ⟨tagless_of_not_mem hcs, hds, fun _ hc _ _ hboth => hcs (hboth.1 ▸ hc)⟩

/-- A text before one that closes no tag has a tag only if it has one itself. -/
theorem Tagless.append_of_not_mem_right (hcs : Tagless cs) (hds : '>' ∉ ds) (hopen : '<' ∉ ds) :
    Tagless (cs ++ ds) :=
  List.pairwise_append.2 ⟨hcs, tagless_of_not_mem hopen, fun _ _ _ hd hboth => hds (hboth.2 ▸ hd)⟩

/-- A `<` that no `>` follows opens no tag. -/
theorem tagless_open (h : '>' ∉ cs) : Tagless ('<' :: cs) := by
  refine List.pairwise_cons.2 ⟨fun d hd hboth => h (hboth.2 ▸ hd), ?_⟩
  exact List.pairwise_of_forall_mem_list fun _ _ d hd hboth => h (hboth.2 ▸ hd)

/-- A text whose tags are replaced has none left. -/
theorem Untagged.tagless {plain : List Char} (h : Untagged cs plain) : Tagless plain := by
  induction h with
  | plain hopen => exact tagless_of_not_mem hopen
  | unclosed hbefore hinner => exact .append_of_not_mem hbefore (tagless_open hinner)
  | tag hbefore hinner _ ih =>
    refine .append_of_not_mem hbefore (List.pairwise_cons.2 ⟨fun d _ hboth => ?_, ih⟩)
    exact absurd hboth.1 (by decide)

/-- A text without tags stays as it is. -/
theorem Tagless.removeTags_eq (h : Tagless cs) : removeTags cs = cs := by
  by_cases hopen : '<' ∈ cs
  · -- The first `<` opens no tag, and neither does any after it.
    obtain ⟨before, inner, rfl, hbefore⟩ := List.eq_append_cons_of_mem hopen
    refine removeTags_open hbefore fun hclose => ?_
    exact (List.pairwise_cons.1 (List.pairwise_append.1 h).2.1).1 '>' hclose ⟨rfl, rfl⟩
  · exact removeTags_plain hopen

/-- Writing a text on one line makes no tag. -/
theorem Tagless.oneLine (h : Tagless cs) : Tagless (oneLine cs) := by
  -- A character is in front of nothing on one line but what it was in front of, and spaces.
  have hcons : ∀ {c : Char} {ds : List Char}, Tagless (c :: ds) →
      ∀ d ∈ Text.oneLine ds, ¬ (c = '<' ∧ d = '>') := by
    intro c ds hds d hd hboth
    obtain rfl | hd := Text.mem_of_mem_oneLine hd
    · exact absurd hboth.2 (by decide)
    · exact (List.pairwise_cons.1 hds).1 d hd hboth
  induction cs with
  | nil => exact .nil
  | cons c cs ih =>
    have hrest := ih (List.pairwise_cons.1 h).2
    cases hc : isBlank c with
    | true =>
      rw [Text.oneLine_cons_of_blank hc]
      exact hrest
    | false =>
      cases hnext : cs.head?.any isBlank with
      | false =>
        rw [Text.oneLine_cons_of_go_on hc hnext]
        exact List.pairwise_cons.2 ⟨hcons h, hrest⟩
      | true =>
        rw [Text.oneLine_cons_of_stop hc hnext]
        split
        · exact List.pairwise_singleton _ _
        · have hspace : ¬ (c = '<' ∧ ' ' = '>') := fun hboth => absurd hboth.2 (by decide)
          refine List.pairwise_cons.2 ⟨List.forall_mem_cons.2 ⟨hspace, hcons h⟩, ?_⟩
          exact List.pairwise_cons.2 ⟨fun d _ hboth => absurd hboth.1 (by decide), hrest⟩

/-! ## Shortened -/

/-- Where no period is, every character is another one. -/
theorem bne_period (h : '.' ∉ cs) : ∀ c ∈ cs, (c != '.') = true :=
  fun _ hc => bne_iff_ne.2 (ne_of_mem_of_not_mem hc h)

/-- A text with a period among its first hundred characters is cut through the first one. -/
theorem truncate_sentence (hcs : '.' ∉ cs) (hlength : cs.length < 100) (rest : List Char) :
    truncate (cs ++ '.' :: rest) = cs ++ ['.'] := by
  have hsentence : (cs ++ '.' :: rest).takeWhile (· != '.') = cs := by
    rw [List.takeWhile_append_of_pos (bne_period hcs)]
    simp
  have htaken : (cs ++ '.' :: rest).take (cs.length + 1) = cs ++ ['.'] := by
    rw [List.take_length_add_append, List.take_succ_cons, List.take_zero]
  rw [truncate, hsentence]
  simp only [List.length_append, List.length_cons, maxLength]
  rw [if_pos ⟨by omega, hlength⟩, htaken]

/-- A longer text without such a period is cut after its first hundred characters and marked. -/
theorem truncate_long (hcs : '.' ∉ cs) (hlength : cs.length = 100) {rest : List Char}
    (hrest : rest ≠ []) : truncate (cs ++ rest) = cs ++ ellipsis := by
  -- No period is among the first hundred characters, so the sentence is not shorter.
  have hsentence : cs <+: (cs ++ rest).takeWhile (· != '.') := by
    rw [List.takeWhile_append_of_pos (bne_period hcs)]
    exact List.prefix_append _ _
  have hshort := List.length_pos_iff.2 hrest
  rw [truncate]
  simp only [List.length_append, maxLength]
  rw [if_neg fun h => by have := hsentence.length_le; omega, if_pos (by omega),
    ← hlength, List.take_left]

/-- A short text without a period stays as it is. -/
theorem truncate_short (hcs : '.' ∉ cs) (hlength : cs.length ≤ 100) : truncate cs = cs := by
  have hsentence : cs.takeWhile (· != '.') = cs := List.takeWhile_eq_self_iff.2 (bne_period hcs)
  have hlimit : maxLength = 100 := rfl
  rw [truncate, hsentence, if_neg (by omega), if_neg (by omega)]

/-- Every text is of one of the three forms that are shortened each in its own way. -/
theorem exists_truncate_form (cs : List Char) :
    (∃ sentence rest, cs = sentence ++ '.' :: rest ∧ '.' ∉ sentence ∧ sentence.length < 100) ∨
      (∃ front rest, cs = front ++ rest ∧ '.' ∉ front ∧ front.length = 100 ∧ rest ≠ []) ∨
      '.' ∉ cs ∧ cs.length ≤ 100 := by
  -- Either there is a period among the first hundred characters, or the length decides.
  by_cases hperiod : '.' ∈ cs.take 100
  · obtain ⟨sentence, rest, htake, hsentence⟩ := List.eq_append_cons_of_mem hperiod
    refine .inl ⟨sentence, rest ++ cs.drop 100, ?_, hsentence, ?_⟩
    · rw [← List.cons_append, ← List.append_assoc, ← htake, List.take_append_drop]
    · have hlength := congrArg List.length htake
      simp only [List.length_take, List.length_append, List.length_cons] at hlength
      omega
  · obtain hlong | hshort := Nat.lt_or_ge 100 cs.length
    · refine .inr (.inl ⟨cs.take 100, cs.drop 100, ?_, hperiod, ?_, ?_⟩)
      · rw [List.take_append_drop]
      · rw [List.length_take]
        omega
      · rw [Ne, List.drop_eq_nil_iff]
        omega
    · rw [List.take_of_length_le hshort] at hperiod
      exact .inr (.inr ⟨hperiod, hshort⟩)

/-- What is shortened is not shortened further. -/
theorem truncate_truncate (cs : List Char) : truncate (truncate cs) = truncate cs := by
  obtain ⟨sentence, rest, rfl, hperiod, hlength⟩ | ⟨front, rest, rfl, hperiod, hlength, hrest⟩ |
    ⟨hperiod, hlength⟩ := exists_truncate_form cs
  · rw [truncate_sentence hperiod hlength, truncate_sentence hperiod hlength]
  · rw [truncate_long hperiod hlength hrest, truncate_long hperiod hlength (by decide)]
  · rw [truncate_short hperiod hlength, truncate_short hperiod hlength]

/-- A shortened text is a start of the text, or one of a hundred characters with the mark. -/
theorem truncate_prefix (cs : List Char) :
    truncate cs <+: cs ∨
      ∃ front, front <+: cs ∧ front.length = 100 ∧ truncate cs = front ++ "...".toList := by
  obtain ⟨sentence, rest, rfl, hperiod, hlength⟩ | ⟨front, rest, rfl, hperiod, hlength, hrest⟩ |
    ⟨hperiod, hlength⟩ := exists_truncate_form cs
  · rw [truncate_sentence hperiod hlength]
    exact .inl ⟨rest, by simp⟩
  · rw [truncate_long hperiod hlength hrest]
    exact .inr ⟨front, List.prefix_append _ _, hlength, rfl⟩
  · rw [truncate_short hperiod hlength]
    exact .inl (List.prefix_refl cs)

/-! ## The form of a summary -/

/-- The form in which a summary is given. -/
structure ShortForm (cs : List Char) : Prop extends OneLined cs where
  ne_nil : cs ≠ []
  length_le : cs.length ≤ 103
  tagless : Tagless cs
  /-- A period among the first hundred characters is the last character. -/
  sentence : ∀ i < 100, cs[i]? = some '.' → i + 1 = cs.length

/-- The start of a text on one line is on one line with periods after it. -/
theorem oneLined_append_periods {periods : List Char} (h : OneLined (cs ++ ds))
    (hperiods : ∀ c ∈ periods, c = '.') (hne : periods ≠ []) : OneLined (cs ++ periods) where
  first := by
    cases cs with
    | nil =>
      intro c hc
      rw [hperiods c (List.mem_of_mem_head? hc)]
      decide
    | cons c cs => exact h.first
  last := by
    intro c hc
    rw [List.getLast?_append_of_ne_nil cs hne] at hc
    rw [hperiods c (List.mem_of_mem_getLast? hc)]
    decide
  spaced := by
    refine (h.spaced.mono (List.subset_append_left cs ds)).append fun c hc hblank => ?_
    rw [hperiods c hc] at hblank
    exact absurd hblank (by decide)
  single := by
    have hperiod : isBlank '.' = false := by decide
    refine List.isChain_append.2 ⟨h.single.left_of_append, ?_, ?_⟩
    · refine List.Pairwise.isChain (List.pairwise_of_forall_mem_list fun c hc _ _ hboth => ?_)
      rw [hperiods c hc, hperiod] at hboth
      exact Bool.false_ne_true hboth.1
    · intro c _ d hd hboth
      rw [hperiods d (List.mem_of_mem_head? hd), hperiod] at hboth
      exact Bool.false_ne_true hboth.2

/-- The start of a text without tags has none with periods after it. -/
theorem Tagless.append_periods {periods : List Char} (h : Tagless (cs ++ ds))
    (hperiods : ∀ c ∈ periods, c = '.') : Tagless (cs ++ periods) := by
  have hcs : Tagless cs := (List.pairwise_append.1 h).1
  refine hcs.append_of_not_mem_right ?_ ?_
  · exact fun hmem => absurd (hperiods _ hmem) (by decide)
  · exact fun hmem => absurd (hperiods _ hmem) (by decide)

/-- Shortening a text without tags on one line gives the form of a summary. -/
theorem shortForm_truncate (hline : OneLined cs) (htags : Tagless cs) (hne : cs ≠ []) :
    ShortForm (truncate cs) := by
  -- No period stands among the first characters that are kept before the mark or the end.
  have hbefore : ∀ {front : List Char} {i : Nat}, '.' ∉ front → i < front.length →
      ∀ rest : List Char, (front ++ rest)[i]? ≠ some '.' := by
    intro front i hperiod hi rest hget
    rw [List.getElem?_append_left hi] at hget
    exact hperiod (List.mem_of_getElem? hget)
  obtain ⟨sentence, rest, rfl, hperiod, hlength⟩ | ⟨front, rest, rfl, hperiod, hlength, hrest⟩ |
    ⟨hperiod, hlength⟩ := exists_truncate_form cs
  · rw [truncate_sentence hperiod hlength]
    have hmark : ∀ c ∈ ['.'], c = '.' := by simp
    refine ⟨oneLined_append_periods hline hmark (by simp), by simp, ?_, htags.append_periods hmark, ?_⟩
    · simp only [List.length_append, List.length_singleton]
      omega
    · intro i hi hget
      obtain ⟨hlt, -⟩ := List.getElem?_eq_some_iff.1 hget
      have hge : ¬ i < sentence.length := fun hlt => hbefore hperiod hlt _ hget
      simp only [List.length_append, List.length_singleton] at hlt ⊢
      omega
  · rw [truncate_long hperiod hlength hrest]
    -- The mark is made of periods and stands beyond the hundredth character.
    have hmark : ∀ c ∈ ellipsis, c = '.' := by
      intro c hc
      simpa using (by exact hc : c ∈ ['.', '.', '.'])
    refine ⟨oneLined_append_periods hline hmark (by decide), by simp [ellipsis], ?_,
      htags.append_periods hmark, ?_⟩
    · have hthree : ellipsis.length = 3 := rfl
      rw [List.length_append]
      omega
    · intro i hi hget
      exact absurd hget (hbefore hperiod (by omega) _)
  · rw [truncate_short hperiod hlength]
    refine ⟨hline, hne, by omega, htags, fun i hi hget => ?_⟩
    exact absurd (List.mem_of_getElem? hget) hperiod

/-- The final form of a summary is its final form again. -/
theorem ShortForm.again (h : ShortForm cs) (hshort : truncate cs = cs) :
    truncate (oneLine (removeTags cs)) = cs := by
  rw [h.tagless.removeTags_eq, h.oneLine_eq, hshort]

/-- A summary is the shortened form of some text without tags on one line, which is not empty. -/
theorem exists_plain_of_summarize {body summary : List Char}
    (h : summarize body = .ok (some summary)) :
    ∃ plain, OneLined plain ∧ Tagless plain ∧ plain ≠ [] ∧ summary = truncate plain := by
  -- The summary was shortened from what is left without tags and on one line.
  obtain ⟨text, -, hsummary⟩ := Outcome.map_eq_ok.1 h
  obtain ⟨found, -, hshort⟩ := Option.bind_eq_some_iff.1 hsummary
  simp only [shorten?, List.isEmpty_iff] at hshort
  split_ifs at hshort with hempty
  refine ⟨oneLine (removeTags found), Text.oneLined_oneLine _, ?_, hempty, ?_⟩
  · exact (untagged_removeTags found).tagless.oneLine
  · exact (Option.some.inj hshort).symm

/-- **The form of a summary.** A summary that is given is not empty, has at most 103 characters, no blank
at its ends, no blanks but single spaces, no `<` with a `>` somewhere after it, and no period among its
first hundred characters but as its last character. Taking out tags, writing on one line and shortening
give it back. Any text is shortened once and for all, to a start of it or to its first hundred characters
with three periods. -/
theorem summary_form_stable :
    (∀ body summary : List Char, summarize body = .ok (some summary) →
      ShortForm summary ∧ truncate (oneLine (removeTags summary)) = summary) ∧
    ∀ text : List Char, truncate (truncate text) = truncate text ∧
      (truncate text <+: text ∨
        ∃ front, front <+: text ∧ front.length = 100 ∧ truncate text = front ++ "...".toList) := by
  refine ⟨fun body summary h => ?_, fun text => ⟨truncate_truncate text, truncate_prefix text⟩⟩
  obtain ⟨plain, hline, htags, hne, rfl⟩ := exists_plain_of_summarize h
  have hform := shortForm_truncate hline htags hne
  exact ⟨hform, hform.again (truncate_truncate plain)⟩

/-- A text between tags in which a space is the hundredth character. -/
def cutText : List Char :=
  "<b>".toList ++ List.replicate 99 'a' ++ "</b>\t b".toList

/-- The cut is made after the space, which the three periods follow. -/
theorem cutText_stable :
    summarize ([] ++ "<summary>".toList ++ escape cutText ++ "</summary>".toList ++ []) =
        .ok (some (List.replicate 99 'a' ++ " ...".toList)) ∧
      ShortForm (List.replicate 99 'a' ++ " ...".toList) ∧
      truncate (oneLine (removeTags (List.replicate 99 'a' ++ " ...".toList))) =
        List.replicate 99 'a' ++ " ...".toList := by
  have hshort : shorten? cutText = some (List.replicate 99 'a' ++ " ...".toList) := by
    decide +kernel
  have hsummary := summarize_eq_shorten? (by simp : ∀ c ∈ ([] : List Char), isBlank c = true) cutText []
  rw [hshort] at hsummary
  exact ⟨hsummary, summary_form_stable.1 _ _ hsummary⟩

end ApiOutline.Doc
