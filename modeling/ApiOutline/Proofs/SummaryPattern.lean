import ApiOutline.Doc.Summary
import Mathlib.Order.Bounds.Basic
import Mathlib.Data.Nat.Find

/-!
# The summary in raw text

What the scan for a summary in text that is not well-formed finds, said by a pattern. `Pattern.Spans` tells
between which positions of a text a pattern matches, without saying how a match is found. The patterns of
the two tags are shown to match where the scans for the tags succeed (`openingTag?_drop`, `atClosingTag_drop`);
the scan for a closing tag stops at the least position at which one begins, and the scan for a summary at the
least position at which a whole match begins.
-/

namespace ApiOutline.Text

/-! ## Patterns -/

/-- A pattern of text. -/
inductive Pattern where
  /-- One character that satisfies a test. -/
  | one (test : Char → Bool)
  /-- No character, where a word begins or ends. -/
  | boundary
  /-- No character. -/
  | nothing
  /-- One pattern directly after another. -/
  | next (first second : Pattern)
  /-- A pattern any number of times. -/
  | many (part : Pattern)

/-- Whether a word character is directly before a position. -/
def wordBefore (text : List Char) (i : Nat) : Bool :=
  (text.take i).getLast?.any isWord

/-- Whether a word character is directly after a position. -/
def wordAfter (text : List Char) (i : Nat) : Bool :=
  (text.drop i).head?.any isWord

namespace Pattern

/-- Whether a pattern matches what is between two positions of a text. -/
inductive Spans (text : List Char) : Pattern → Nat → Nat → Prop where
  | one {test : Char → Bool} {c : Char} {i : Nat} :
    text[i]? = some c → test c = true → Spans text (.one test) i (i + 1)
  | boundary {i : Nat} : wordBefore text i ≠ wordAfter text i → Spans text .boundary i i
  | nothing {i : Nat} : Spans text .nothing i i
  | next {first second : Pattern} {i j k : Nat} :
    Spans text first i j → Spans text second j k → Spans text (.next first second) i k
  | stop {part : Pattern} {i : Nat} : Spans text (.many part) i i
  | more {part : Pattern} {i j k : Nat} :
    Spans text part i j → Spans text (.many part) j k → Spans text (.many part) i k

/-- The code point of a character without its case. The long s folds to an s like the capital one. Other
characters than these and the letters of ASCII fold to none of the letters of a tag. -/
def foldCase (c : Char) : Nat :=
  if c = 'ſ' then 's'.toNat
  else if 'A'.toNat ≤ c.toNat ∧ c.toNat ≤ 'Z'.toNat then c.toNat + 32
  else c.toNat

/-- The pattern of a word, given in lower case, in letters of either case. -/
def word : List Char → Pattern
  | [] => .nothing
  | letter :: letters => .next (.one fun c => foldCase c == letter.toNat) (word letters)

variable {text : List Char} {i j k : Nat}

/-- One character is matched if it satisfies the test. -/
@[simp]
theorem spans_one {test : Char → Bool} :
    (one test).Spans text i j ↔ (∃ c, text[i]? = some c ∧ test c = true) ∧ j = i + 1 := by
  constructor
  · intro h
    cases h with
    | one hc htest => exact ⟨⟨_, hc, htest⟩, rfl⟩
  · rintro ⟨⟨c, hc, htest⟩, rfl⟩
    exact .one hc htest

/-- A boundary is matched where a word begins or ends. -/
@[simp]
theorem spans_boundary :
    boundary.Spans text i j ↔ wordBefore text i ≠ wordAfter text i ∧ j = i := by
  constructor
  · intro h
    cases h with
    | boundary hword => exact ⟨hword, rfl⟩
  · rintro ⟨hword, rfl⟩
    exact .boundary hword

/-- Nothing is matched anywhere. -/
@[simp]
theorem spans_nothing : nothing.Spans text i j ↔ j = i := by
  constructor
  · intro h
    cases h with
    | nothing => rfl
  · rintro rfl
    exact .nothing

/-- Two patterns are matched one after the other. -/
@[simp]
theorem spans_next {first second : Pattern} :
    (next first second).Spans text i k ↔ ∃ j, first.Spans text i j ∧ second.Spans text j k := by
  constructor
  · intro h
    cases h with
    | next hfirst hsecond => exact ⟨_, hfirst, hsecond⟩
  · rintro ⟨j, hfirst, hsecond⟩
    exact .next hfirst hsecond

/-- Whether all characters between two positions satisfy a test. -/
def AllBetween (text : List Char) (test : Char → Bool) (i j : Nat) : Prop :=
  i ≤ j ∧ ∀ n, i ≤ n → n < j → ∃ c, text[n]? = some c ∧ test c = true

/-- Either nothing is between two positions, or the character at the first one passes and so do those after it. -/
theorem allBetween_iff {test : Char → Bool} :
    AllBetween text test i j ↔
      j = i ∨ (∃ c, text[i]? = some c ∧ test c = true) ∧ AllBetween text test (i + 1) j := by
  constructor
  · rintro ⟨hle, hall⟩
    rcases Nat.eq_or_lt_of_le hle with rfl | hlt
    · exact .inl rfl
    · exact .inr ⟨hall i le_rfl hlt, hlt, fun n hn hnj => hall n (by omega) hnj⟩
  · rintro (rfl | ⟨hc, hle, hall⟩)
    · exact ⟨le_rfl, fun n hn hni => absurd hni (Nat.not_lt.2 hn)⟩
    · refine ⟨by omega, fun n hn hnj => ?_⟩
      rcases Nat.eq_or_lt_of_le hn with rfl | hlt
      · exact hc
      · exact hall n hlt hnj

/-- Any number of characters of a class are characters of the class only. -/
@[simp]
theorem spans_many_one {test : Char → Bool} :
    (many (one test)).Spans text i j ↔ AllBetween text test i j := by
  constructor
  · intro h
    -- The induction is on the match, so the pattern has to be a variable.
    generalize hpattern : many (one test) = pattern at h
    induction h with
    | one => cases hpattern
    | boundary => cases hpattern
    | nothing => cases hpattern
    | next => cases hpattern
    | stop => exact allBetween_iff.2 (.inl rfl)
    | more hfirst _ _ ih =>
      cases hpattern
      obtain ⟨hc, rfl⟩ := spans_one.1 hfirst
      exact allBetween_iff.2 (.inr ⟨hc, ih rfl⟩)
  · rintro ⟨hle, hall⟩
    -- Going down from the end, one character more is matched at each position.
    induction hle using Nat.decreasingInduction with
    | self => exact .stop
    | of_succ n hn ih =>
      obtain ⟨c, hc, htest⟩ := hall n le_rfl hn
      exact .more (.one hc htest) (ih fun m hm hmj => hall m (by omega) hmj)

/-! ## Words -/

/-- A word is matched letter by letter. -/
theorem spans_word_cons {letter : Char} {letters : List Char} :
    (word (letter :: letters)).Spans text i k ↔
      (∃ c, text[i]? = some c ∧ foldCase c = letter.toNat) ∧ (word letters).Spans text (i + 1) k := by
  simp only [word, spans_next, spans_one, beq_iff_eq]
  constructor
  · rintro ⟨j, ⟨hc, rfl⟩, hrest⟩
    exact ⟨hc, hrest⟩
  · rintro ⟨hc, hrest⟩
    exact ⟨i + 1, ⟨hc, rfl⟩, hrest⟩

/-- A word in either case has only characters that fold to one of its letters. -/
theorem allBetween_of_spans_word {letters : List Char} {test : Char → Bool}
    (htest : ∀ letter ∈ letters, ∀ c, foldCase c = letter.toNat → test c = true)
    (h : (word letters).Spans text i j) : AllBetween text test i j := by
  induction letters generalizing i with
  | nil => exact allBetween_iff.2 (.inl (spans_nothing.1 h))
  | cons letter letters ih =>
    obtain ⟨hletter, hletters⟩ := List.forall_mem_cons.1 htest
    obtain ⟨⟨c, hc, hfold⟩, hrest⟩ := spans_word_cons.1 h
    exact allBetween_iff.2 (.inr ⟨⟨c, hc, hletter c hfold⟩, ih hletters hrest⟩)

/-- The last character of a word in either case folds to its last letter. -/
theorem last_of_spans_word (letters : List Char) (last : Char)
    (h : (word (letters ++ [last])).Spans text i j) :
    ∃ m c, j = m + 1 ∧ text[m]? = some c ∧ foldCase c = last.toNat := by
  induction letters generalizing i with
  | nil =>
    obtain ⟨⟨c, hc, hfold⟩, hrest⟩ := spans_word_cons.1 h
    exact ⟨i, c, spans_nothing.1 hrest, hc, hfold⟩
  | cons letter letters ih =>
    obtain ⟨-, hrest⟩ := spans_word_cons.1 h
    exact ih hrest

end Pattern

/-! ## Positions and what is left of a text -/

section Positions

variable {text : List Char} {n : Nat}

/-- At a position a text is at its end or goes on with a character. -/
theorem drop_cases (text : List Char) (n : Nat) :
    (text[n]? = none ∧ text.drop n = []) ∨
      ∃ c, text[n]? = some c ∧ text.drop n = c :: text.drop (n + 1) := by
  cases hc : text[n]? with
  | none => exact .inl ⟨rfl, List.drop_eq_nil_iff.2 (List.getElem?_eq_none_iff.1 hc)⟩
  | some c =>
    obtain ⟨hn, rfl⟩ := List.getElem?_eq_some_iff.1 hc
    exact .inr ⟨_, rfl, List.drop_eq_getElem_cons hn⟩

/-- The least position from `n` on with a property is `n`, or else the least one after it. -/
theorem isLeast_from_iff {P : Nat → Prop} {m : Nat} :
    IsLeast {k | n ≤ k ∧ P k} m ↔
      (P n ∧ m = n) ∨ (¬ P n ∧ IsLeast {k | n + 1 ≤ k ∧ P k} m) := by
  constructor
  · rintro ⟨⟨hnm, hm⟩, hleast⟩
    by_cases hn : P n
    · exact .inl ⟨hn, Nat.le_antisymm (hleast ⟨le_rfl, hn⟩) hnm⟩
    · have hne : n ≠ m := by
        rintro rfl
        exact hn hm
      refine .inr ⟨hn, ⟨by omega, hm⟩, ?_⟩
      rintro k ⟨hnk, hk⟩
      exact hleast ⟨by omega, hk⟩
  · rintro (⟨hn, rfl⟩ | ⟨hn, ⟨hnm, hm⟩, hleast⟩)
    · exact ⟨⟨le_rfl, hn⟩, fun k hk => hk.1⟩
    · refine ⟨⟨by omega, hm⟩, ?_⟩
      rintro k ⟨hnk, hk⟩
      have hne : n ≠ k := by
        rintro rfl
        exact hn hk
      exact hleast ⟨by omega, hk⟩

/-- Where there is a position with a property there is a least one. -/
theorem exists_isLeast {P : Nat → Prop} (h : ∃ k, P k) : ∃ k, IsLeast {k | P k} k := by
  classical
  exact ⟨Nat.find h, Nat.find_spec h, fun k hk => Nat.find_min' h hk⟩

/-- Dropping characters of a class goes on to the first position of another one. -/
theorem dropWhile_drop_eq_cons {test : Char → Bool} {c : Char} {rest : List Char} :
    (text.drop n).dropWhile test = c :: rest ↔
      ∃ m, Pattern.AllBetween text test n m ∧ text[m]? = some c ∧ test c = false ∧
        rest = text.drop (m + 1) := by
  induction hcs : text.drop n generalizing n with
  | nil =>
    -- At the end of the text there is no further character.
    have hnone : ∀ m, n ≤ m → text[m]? = none := by
      intro m hm
      rw [List.drop_eq_nil_iff] at hcs
      exact List.getElem?_eq_none (by omega)
    simp only [List.dropWhile_nil, reduceCtorEq, false_iff]
    rintro ⟨m, ⟨hle, -⟩, hc, -⟩
    rw [hnone m hle] at hc
    cases hc
  | cons d cs ih =>
    obtain ⟨-, hend⟩ | ⟨d', hd, hdrop⟩ := drop_cases text n
    · rw [hcs] at hend
      cases hend
    obtain ⟨rfl, rfl⟩ := List.cons.inj (hcs.symm.trans hdrop)
    by_cases htest : test d = true
    · rw [List.dropWhile_cons_of_pos htest, ih rfl]
      refine exists_congr fun m => ?_
      rw [Pattern.allBetween_iff (i := n)]
      constructor
      · rintro ⟨hall, hc⟩
        exact ⟨.inr ⟨⟨d, hd, htest⟩, hall⟩, hc⟩
      · rintro ⟨rfl | ⟨-, hall⟩, hc, hnot, hrest⟩
        · cases hd.symm.trans hc
          rw [htest] at hnot
          cases hnot
        · exact ⟨hall, hc, hnot, hrest⟩
    · -- The character does not pass, so it is the first one of another class.
      rw [List.dropWhile_cons_of_neg htest]
      constructor
      · intro h
        obtain ⟨rfl, rfl⟩ := List.cons.inj h
        exact ⟨n, Pattern.allBetween_iff.2 (.inl rfl), hd, Bool.eq_false_iff.2 htest, rfl⟩
      · rintro ⟨m, hall, hc, -, rfl⟩
        rcases Pattern.allBetween_iff.1 hall with rfl | ⟨⟨e, he, hpass⟩, -⟩
        · cases hd.symm.trans hc
          rfl
        · cases hd.symm.trans he
          exact absurd hpass htest

end Positions

end ApiOutline.Text

namespace ApiOutline.Doc

open Text (isBlank isWord Pattern wordBefore wordAfter)
open Text.Pattern (AllBetween foldCase)

/-! ## The tags -/

/-- `<summary\b[^>]*>` -/
def openingPattern : Pattern :=
  .next (.word "<summary".toList)
    (.next .boundary (.next (.many (.one (· != '>'))) (.one (· == '>'))))

/-- `</summary\s*>` -/
def closingPattern : Pattern :=
  .next (.word "</summary".toList) (.next (.many (.one isBlank)) (.one (· == '>')))

/-- `<summary\b[^>]*>.*</summary\s*>`, where the dot is any character. -/
def summaryPattern : Pattern :=
  .next openingPattern (.next (.many (.one fun _ => true)) closingPattern)

/-- Whether a closing tag begins at a position. -/
def ClosesAt (text : List Char) (k : Nat) : Prop :=
  ∃ e, closingPattern.Spans text k e

/-- Whether a character in lower case, or without case, has no other forms than its capital and, if it is
an s, the long s. -/
def IsPlain (letter : Char) : Prop :=
  letter.toNat < 128 ∧ ¬ ('A'.toNat ≤ letter.toNat ∧ letter.toNat ≤ 'Z'.toNat) ∧
    letter.toUpper.toNat =
      if 'a'.toNat ≤ letter.toNat ∧ letter.toNat ≤ 'z'.toNat then letter.toNat - 32 else letter.toNat

instance : DecidablePred IsPlain := fun _ => inferInstanceAs (Decidable (_ ∧ _ ∧ _))

/-- A letter in either case is what folds to it. -/
theorem isLetter_iff {letter : Char} (h : IsPlain letter) (c : Char) :
    isLetter letter c = true ↔ foldCase c = letter.toNat := by
  obtain ⟨hascii, hcase, hupper⟩ := h
  have heq : ∀ a b : Char, a = b ↔ a.toNat = b.toNat := fun a b => (Char.toNat_inj).symm
  simp only [isLetter, foldCase, Bool.or_eq_true, Bool.and_eq_true, beq_iff_eq, heq, hupper]
  simp only [show 'A'.toNat = 65 from rfl, show 'Z'.toNat = 90 from rfl, show 'a'.toNat = 97 from rfl,
    show 'z'.toNat = 122 from rfl, show 's'.toNat = 115 from rfl, show 'ſ'.toNat = 383 from rfl] at *
  split_ifs <;> omega

/-- The name of the tag is in plain letters. -/
theorem isPlain_summaryTag : ∀ letter ∈ summaryTag, IsPlain letter := by
  have htag : summaryTag.all (fun letter => decide (IsPlain letter)) = true := by decide
  intro letter hletter
  exact of_decide_eq_true (List.all_eq_true.1 htag letter hletter)

variable {text : List Char} {i j k : Nat}

/-- A mark in a tag has no case. -/
theorem spans_word_mark {mark : Char} {letters : List Char} (hmark : IsPlain mark)
    (hupper : mark.toUpper = mark) (hs : mark ≠ 's') :
    (Pattern.word (mark :: letters)).Spans text i k ↔
      text[i]? = some mark ∧ (Pattern.word letters).Spans text (i + 1) k := by
  have hfold : ∀ c, foldCase c = mark.toNat ↔ c = mark := by
    intro c
    rw [← isLetter_iff hmark, isLetter, hupper]
    simp [hs]
  rw [Pattern.spans_word_cons]
  simp only [hfold, exists_eq_right]

/-- The rest after a word is what is left of the text where the pattern of the word ends. -/
theorem dropWord?_drop {letters rest : List Char} (hplain : ∀ letter ∈ letters, IsPlain letter) :
    dropWord? letters (text.drop i) = some rest ↔
      ∃ j, (Pattern.word letters).Spans text i j ∧ rest = text.drop j := by
  induction letters generalizing i with
  | nil => simp [dropWord?, Pattern.word, eq_comm]
  | cons letter letters ih =>
    obtain ⟨hletter, hletters⟩ := List.forall_mem_cons.1 hplain
    simp only [Pattern.spans_word_cons]
    obtain ⟨hnone, hdrop⟩ | ⟨c, hc, hdrop⟩ := Text.drop_cases text i
    · rw [hdrop, dropWord?, hnone]
      simp
    · have hfold : (∃ d, text[i]? = some d ∧ foldCase d = letter.toNat) ↔ isLetter letter c = true := by
        rw [isLetter_iff hletter, hc]
        simp
      rw [hdrop, dropWord?, hfold]
      split_ifs with hsame
      · rw [ih hletters]
        simp [hsame]
      · simp [hsame]

/-- A word character ends the name of a tag. -/
theorem wordBefore_of_spans (h : (Pattern.word summaryTag).Spans text i j) : wordBefore text j = true := by
  -- The name ends in a y of either case, which is a word character.
  obtain ⟨m, c, rfl, hc, hfold⟩ := Pattern.last_of_spans_word "summar".toList 'y' h
  have hletter := (isLetter_iff (by decide : IsPlain 'y') c).2 hfold
  have hword : isWord c = true := by
    simp only [isLetter, Bool.or_eq_true, beq_iff_eq] at hletter
    rcases hletter with (rfl | rfl) | hs
    · rfl
    · rfl
    · simp at hs
  rw [wordBefore, List.take_add_one, hc]
  simp [hword]

/-- The rest after an opening tag, in terms of the parts of the tag. -/
theorem openingTag?_cons {c : Char} {cs inner : List Char} :
    openingTag? (c :: cs) = some inner ↔
      c = '<' ∧ ∃ rest, dropWord? summaryTag cs = some rest ∧ rest.head?.any isWord = false ∧
        ∃ d, rest.dropWhile (· != '>') = d :: inner := by
  by_cases hc : c = '<'
  · subst hc
    rw [openingTag?]
    cases dropWord? summaryTag cs with
    | none => simp
    | some rest =>
      cases hword : rest.head?.any isWord with
      | true => simp [hword]
      | false =>
        cases hrest : rest.dropWhile (· != '>') with
        | nil => simp [hword, hrest]
        | cons d after => simp [hword, hrest]
  · simp [openingTag?, hc]

/-- What the pattern of an opening tag matches. -/
theorem openingPattern_spans :
    openingPattern.Spans text i j ↔ text[i]? = some '<' ∧ ∃ n, (Pattern.word summaryTag).Spans text (i + 1) n ∧
      wordAfter text n = false ∧ ∃ m, AllBetween text (· != '>') n m ∧ text[m]? = some '>' ∧ j = m + 1 := by
  -- After a word character there is a boundary where no other one follows.
  have hboundary : ∀ n, (Pattern.word summaryTag).Spans text (i + 1) n →
      (wordBefore text n ≠ wordAfter text n ↔ wordAfter text n = false) := by
    intro n hn
    rw [wordBefore_of_spans hn]
    cases wordAfter text n <;> simp
  have hword : ∀ n, (Pattern.word "<summary".toList).Spans text i n ↔
      text[i]? = some '<' ∧ (Pattern.word summaryTag).Spans text (i + 1) n :=
    fun n => spans_word_mark (by decide) rfl (by decide)
  simp only [openingPattern, Pattern.spans_next, hword, Pattern.spans_boundary, Pattern.spans_many_one,
    Pattern.spans_one, beq_iff_eq]
  constructor
  · rintro ⟨n, ⟨hopen, hn⟩, after, ⟨hbound, rfl⟩, m, hall, ⟨c, hc, rfl⟩, rfl⟩
    exact ⟨hopen, after, hn, (hboundary after hn).1 hbound, m, hall, hc, rfl⟩
  · rintro ⟨hopen, n, hn, hbound, m, hall, hc, rfl⟩
    exact ⟨n, ⟨hopen, hn⟩, n, ⟨(hboundary n hn).2 hbound, rfl⟩, m, hall, ⟨'>', hc, rfl⟩, rfl⟩

/-- The rest after an opening tag is what is left of the text where the pattern of the tag ends. -/
theorem openingTag?_drop {inner : List Char} :
    openingTag? (text.drop i) = some inner ↔
      ∃ j, openingPattern.Spans text i j ∧ inner = text.drop j := by
  simp only [openingPattern_spans]
  obtain ⟨hnone, hdrop⟩ | ⟨c, hc, hdrop⟩ := Text.drop_cases text i
  · rw [hdrop, hnone]
    simp [openingTag?]
  · rw [hdrop, hc, openingTag?_cons]
    simp only [dropWord?_drop isPlain_summaryTag, Option.some.injEq]
    constructor
    · rintro ⟨hopen, -, ⟨n, hn, rfl⟩, hbound, d, hd⟩
      -- What is dropped ends at the first `>`.
      obtain ⟨m, hall, hm, hclose, rfl⟩ := Text.dropWhile_drop_eq_cons.1 hd
      obtain rfl : d = '>' := by simpa using hclose
      exact ⟨m + 1, ⟨hopen, n, hn, hbound, m, hall, hm, rfl⟩, rfl⟩
    · rintro ⟨-, ⟨hopen, n, hn, hbound, m, hall, hm, rfl⟩, rfl⟩
      exact ⟨hopen, _, ⟨n, hn, rfl⟩, hbound, '>',
        Text.dropWhile_drop_eq_cons.2 ⟨m, hall, hm, by decide, rfl⟩⟩

/-- What the pattern of a closing tag matches. -/
theorem closesAt_iff :
    ClosesAt text k ↔ text[k]? = some '<' ∧ text[k + 1]? = some '/' ∧
      ∃ n, (Pattern.word summaryTag).Spans text (k + 2) n ∧
        ∃ m, AllBetween text isBlank n m ∧ text[m]? = some '>' := by
  have hword : ∀ n, (Pattern.word "</summary".toList).Spans text k n ↔
      text[k]? = some '<' ∧ text[k + 1]? = some '/' ∧ (Pattern.word summaryTag).Spans text (k + 2) n := by
    intro n
    have hslash := @spans_word_mark text (k + 1) n '/' summaryTag (by decide) rfl (by decide)
    rw [← hslash]
    exact spans_word_mark (by decide) rfl (by decide)
  simp only [ClosesAt, closingPattern, Pattern.spans_next, hword, Pattern.spans_many_one,
    Pattern.spans_one, beq_iff_eq]
  constructor
  · rintro ⟨e, n, ⟨hk, hk', hn⟩, m, hall, ⟨c, hc, rfl⟩, rfl⟩
    exact ⟨hk, hk', n, hn, m, hall, hc⟩
  · rintro ⟨hk, hk', n, hn, m, hall, hc⟩
    exact ⟨m + 1, n, ⟨hk, hk', hn⟩, m, hall, ⟨'>', hc, rfl⟩, rfl⟩

/-- A closing tag is at the start of a text, in terms of the parts of the tag. -/
theorem atClosingTag_cons {c d : Char} {cs : List Char} :
    atClosingTag (c :: d :: cs) = true ↔
      c = '<' ∧ d = '/' ∧ ∃ rest, dropWord? summaryTag cs = some rest ∧
        ∃ after, rest.dropWhile isBlank = '>' :: after := by
  by_cases hmark : c = '<' ∧ d = '/'
  · obtain ⟨rfl, rfl⟩ := hmark
    rw [atClosingTag]
    cases dropWord? summaryTag cs with
    | none => simp
    | some rest => cases hrest : rest.dropWhile isBlank <;> simp [hrest]
  · rw [atClosingTag]
    · simp only [Bool.false_eq_true, false_iff]
      rintro ⟨hc, hd, -⟩
      exact hmark ⟨hc, hd⟩
    · intro rest hsame
      obtain ⟨hc, htail⟩ := List.cons.inj hsame
      exact hmark ⟨hc, (List.cons.inj htail).1⟩

/-- A closing tag is at the start of what is left where the pattern of the tag matches. -/
theorem atClosingTag_drop : atClosingTag (text.drop k) = true ↔ ClosesAt text k := by
  rw [closesAt_iff]
  obtain ⟨hnone, hdrop⟩ | ⟨c, hc, hdrop⟩ := Text.drop_cases text k
  · rw [hdrop, hnone]
    simp [atClosingTag]
  obtain ⟨hnone, hdrop'⟩ | ⟨d, hd, hdrop'⟩ := Text.drop_cases text (k + 1)
  · rw [hdrop, hdrop', hnone]
    simp [atClosingTag]
  rw [hdrop, hdrop', hc, hd, atClosingTag_cons]
  simp only [dropWord?_drop isPlain_summaryTag, Option.some.injEq]
  refine and_congr_right fun _ => and_congr_right fun _ => ?_
  constructor
  · rintro ⟨-, ⟨n, hn, rfl⟩, after, hafter⟩
    obtain ⟨m, hall, hm, -, -⟩ := Text.dropWhile_drop_eq_cons.1 hafter
    exact ⟨n, hn, m, hall, hm⟩
  · rintro ⟨n, hn, m, hall, hm⟩
    exact ⟨_, ⟨n, hn, rfl⟩, _, Text.dropWhile_drop_eq_cons.2 ⟨m, hall, hm, by decide, rfl⟩⟩

/-! ## The scan -/

/-- A closing tag begins inside a text. -/
theorem ClosesAt.lt (h : ClosesAt text k) : k < text.length :=
  (List.getElem?_eq_some_iff.1 (closesAt_iff.1 h).1).1

/-- The text before the first closing tag ends at the least position at which one begins. -/
theorem beforeClosing?_drop {inner : List Char} :
    beforeClosing? (text.drop j) = some inner ↔
      ∃ k, IsLeast {k | j ≤ k ∧ ClosesAt text k} k ∧ inner = (text.drop j).take (k - j) := by
  induction hcs : text.drop j generalizing j inner with
  | nil =>
    simp only [beforeClosing?, reduceCtorEq, false_iff]
    rintro ⟨k, ⟨⟨hjk, hk⟩, -⟩, -⟩
    have hlt := hk.lt
    rw [List.drop_eq_nil_iff] at hcs
    omega
  | cons c cs ih =>
    have hclosing : atClosingTag (c :: cs) = true ↔ ClosesAt text j := by
      rw [← hcs, atClosingTag_drop]
    obtain rfl : text.drop (j + 1) = cs := by rw [← List.tail_drop, hcs, List.tail_cons]
    -- One character more is taken than from the next position on.
    have htake : ∀ k, j + 1 ≤ k → (c :: text.drop (j + 1)).take (k - j) =
        c :: (text.drop (j + 1)).take (k - (j + 1)) := by
      intro k hk
      rw [show k - j = k - (j + 1) + 1 by omega, List.take_succ_cons]
    simp only [beforeClosing?, Text.isLeast_from_iff (n := j)]
    split_ifs with hat
    · have hj := hclosing.1 hat
      constructor
      · intro h
        cases h
        exact ⟨j, .inl ⟨hj, rfl⟩, by rw [Nat.sub_self, List.take_zero]⟩
      · rintro ⟨k, ⟨-, rfl⟩ | ⟨hnot, -⟩, rfl⟩
        · rw [Nat.sub_self, List.take_zero]
        · exact absurd hj hnot
    · -- It begins later, so this character is taken and the rest as before.
      have hj : ¬ ClosesAt text j := fun h => hat (hclosing.2 h)
      simp only [Option.map_eq_some_iff, ih rfl]
      constructor
      · rintro ⟨-, ⟨k, hleast, rfl⟩, rfl⟩
        exact ⟨k, .inr ⟨hj, hleast⟩, (htake k hleast.1.1).symm⟩
      · rintro ⟨k, ⟨hclosed, -⟩ | ⟨-, hleast⟩, rfl⟩
        · exact absurd hclosed hj
        · exact ⟨_, ⟨k, hleast, rfl⟩, (htake k hleast.1.1).symm⟩

/-- Whether a whole match of the pattern of a summary begins at a position. -/
def MatchesAt (text : List Char) (i : Nat) : Prop :=
  ∃ e, summaryPattern.Spans text i e

/-- A match is an opening tag and a closing tag somewhere after it. -/
theorem matchesAt_iff :
    MatchesAt text i ↔ ∃ j, openingPattern.Spans text i j ∧ ∃ k, j ≤ k ∧ ClosesAt text k := by
  simp only [MatchesAt, summaryPattern, Pattern.spans_next, Pattern.spans_many_one]
  constructor
  · rintro ⟨e, j, hopen, k, ⟨hjk, -⟩, hclose⟩
    exact ⟨j, hopen, k, hjk, e, hclose⟩
  · rintro ⟨j, hopen, k, hjk, e, hclose⟩
    -- Between the tags there is any character, as long as the text has one.
    have hlt : k < text.length := ClosesAt.lt ⟨e, hclose⟩
    refine ⟨e, j, hopen, k, ⟨hjk, fun n _ hnk => ?_⟩, hclose⟩
    exact ⟨text[n], List.getElem?_eq_getElem (by omega), rfl⟩

/-- Whether `raw` is between the opening tag at a position and the first closing tag after it. -/
def TakenAt (text : List Char) (i : Nat) (raw : List Char) : Prop :=
  ∃ j k, openingPattern.Spans text i j ∧ IsLeast {k | j ≤ k ∧ ClosesAt text k} k ∧
    raw = (text.drop j).take (k - j)

/-- What the scan takes at a position is between the tags there. -/
theorem takenAt_iff {raw : List Char} :
    (openingTag? (text.drop i)).bind beforeClosing? = some raw ↔ TakenAt text i raw := by
  simp only [Option.bind_eq_some_iff, openingTag?_drop, TakenAt]
  constructor
  · rintro ⟨-, ⟨j, hopen, rfl⟩, hinner⟩
    obtain ⟨k, hleast, hraw⟩ := beforeClosing?_drop.1 hinner
    exact ⟨j, k, hopen, hleast, hraw⟩
  · rintro ⟨j, k, hopen, hleast, hraw⟩
    exact ⟨_, ⟨j, hopen, rfl⟩, beforeClosing?_drop.2 ⟨k, hleast, hraw⟩⟩

/-- Something is taken at a position where a match begins. -/
theorem exists_takenAt_iff : (∃ raw, TakenAt text i raw) ↔ MatchesAt text i := by
  rw [matchesAt_iff]
  constructor
  · rintro ⟨raw, j, k, hopen, hleast, -⟩
    exact ⟨j, hopen, k, hleast.1⟩
  · rintro ⟨j, hopen, hclose⟩
    obtain ⟨k, hleast⟩ := Text.exists_isLeast hclose
    exact ⟨_, j, k, hopen, hleast, rfl⟩

/-- The scan for a summary stops at the least position at which a match begins. -/
theorem rawSummary?_drop {n : Nat} {raw : List Char} :
    rawSummary? (text.drop n) = some raw ↔
      ∃ i, IsLeast {i | n ≤ i ∧ MatchesAt text i} i ∧ TakenAt text i raw := by
  induction hcs : text.drop n generalizing n with
  | nil =>
    simp only [rawSummary?, reduceCtorEq, false_iff]
    rintro ⟨i, ⟨⟨hni, hi⟩, -⟩, -⟩
    obtain ⟨j, hopen, -⟩ := matchesAt_iff.1 hi
    have hlt := (List.getElem?_eq_some_iff.1 (openingPattern_spans.1 hopen).1).1
    rw [List.drop_eq_nil_iff] at hcs
    omega
  | cons c cs ih =>
    have htaken : ∀ inner, (openingTag? (c :: cs)).bind beforeClosing? = some inner ↔
        TakenAt text n inner := by
      intro inner
      rw [← hcs, takenAt_iff]
    obtain rfl : text.drop (n + 1) = cs := by rw [← List.tail_drop, hcs, List.tail_cons]
    simp only [rawSummary?, Text.isLeast_from_iff (n := n)]
    cases hfound : (openingTag? (c :: text.drop (n + 1))).bind beforeClosing? with
    | some inner =>
      have hn := (htaken inner).1 hfound
      have hmatch := exists_takenAt_iff.1 ⟨inner, hn⟩
      constructor
      · intro h
        cases h
        exact ⟨n, .inl ⟨hmatch, rfl⟩, hn⟩
      · rintro ⟨i, ⟨-, rfl⟩ | ⟨hnot, -⟩, hraw⟩
        · exact hfound.symm.trans ((htaken raw).2 hraw)
        · exact absurd hmatch hnot
    | none =>
      -- Nothing is taken here, so no match begins here.
      have hn : ¬ MatchesAt text n := by
        intro hmatch
        obtain ⟨inner, hinner⟩ := exists_takenAt_iff.2 hmatch
        rw [← htaken, hfound] at hinner
        cases hinner
      simp only [ih rfl]
      refine exists_congr fun i => and_congr_left fun _ => ?_
      constructor
      · intro hleast
        exact .inr ⟨hn, hleast⟩
      · rintro (⟨hmatch, -⟩ | ⟨-, hleast⟩)
        · exact absurd hmatch hn
        · exact hleast

/-- An opening tag ends with the first `>` at or after its start. -/
theorem exists_isLeast_of_spans (h : openingPattern.Spans text i j) :
    ∃ m, j = m + 1 ∧ IsLeast {m | i ≤ m ∧ text[m]? = some '>'} m := by
  obtain ⟨hopen, n, hname, -, m, ⟨hnm, hall⟩, hm, rfl⟩ := openingPattern_spans.1 h
  -- No letter of the name is a `>`.
  have hletters : AllBetween text (· != '>') (i + 1) n := by
    refine Pattern.allBetween_of_spans_word (fun letter hletter c hfold => bne_iff_ne.2 ?_) hname
    rintro rfl
    have hnone : summaryTag.all (fun letter => foldCase '>' != letter.toNat) = true := by decide
    simpa [hfold] using List.all_eq_true.1 hnone letter hletter
  obtain ⟨hin, hname⟩ := hletters
  refine ⟨m, rfl, ⟨by omega, hm⟩, ?_⟩
  rintro p ⟨hip, hp⟩
  by_contra! hpm
  -- An earlier `>` would be the mark that opens the tag, a letter of its name, or in what follows the name.
  rcases Nat.eq_or_lt_of_le hip with rfl | hlt
  · rw [hopen] at hp
    cases hp
  have hother : ∃ c, text[p]? = some c ∧ (c != '>') = true := by
    rcases Nat.lt_or_ge p n with hpn | hnp
    · exact hname p hlt hpn
    · exact hall p hnp hpm
  obtain ⟨c, hc, htest⟩ := hother
  cases hc.symm.trans hp
  exact absurd htest (by decide)

/-- What is taken at a position, with the ends of both tags as the first ones there. -/
theorem takenAt_iff_slice {raw : List Char} (h : MatchesAt text i) :
    TakenAt text i raw ↔ ∃ m k, IsLeast {m | i ≤ m ∧ text[m]? = some '>'} m ∧
      IsLeast {k | m + 1 ≤ k ∧ ClosesAt text k} k ∧ raw = (text.drop (m + 1)).take (k - (m + 1)) := by
  constructor
  · rintro ⟨j, k, hopen, hleast, hraw⟩
    obtain ⟨m, rfl, hm⟩ := exists_isLeast_of_spans hopen
    exact ⟨m, k, hm, hleast, hraw⟩
  · rintro ⟨m, k, hm, hleast, hraw⟩
    obtain ⟨j, hopen, -⟩ := matchesAt_iff.1 h
    obtain ⟨m', rfl, hm'⟩ := exists_isLeast_of_spans hopen
    obtain rfl := hm.unique hm'
    exact ⟨m + 1, k, hopen, hleast, hraw⟩

/-- A later opening tag does not end before an earlier one. -/
theorem le_of_spans_of_le {i' j' : Nat} (h : openingPattern.Spans text i j)
    (h' : openingPattern.Spans text i' j') (hle : i ≤ i') : j ≤ j' := by
  obtain ⟨m, rfl, hm⟩ := exists_isLeast_of_spans h
  obtain ⟨m', rfl, hm'⟩ := exists_isLeast_of_spans h'
  have hmm' : m ≤ m' := hm.2 ⟨hle.trans hm'.1.1, hm'.1.2⟩
  omega

/-- In a body that is not well-formed the summary is the leftmost and shortest one. It is made from the raw text
that the scan finds. The scan finds nothing if and only if the pattern of a summary matches nowhere. Otherwise
let `i` be the least position at which a match begins, `m` that of the first `>` from there on, and `k` the least
position after `m` at which a closing tag begins: the raw text is what is between `m` and `k`. If no closing tag
is after the first opening one, none is after any other. -/
theorem raw_summary_leftmost_shortest (body : List Char) (hbody : Xml.content? body = none) :
    summaryText body = (rawSummary? body).elim (.ok none) (fun raw => (Html.unescape raw).map some) ∧
      (rawSummary? body = none ↔ ∀ i e, ¬ summaryPattern.Spans body i e) ∧
      (∀ raw, rawSummary? body = some raw ↔
        ∃ i m k, IsLeast {i | ∃ e, summaryPattern.Spans body i e} i ∧
          IsLeast {m | i ≤ m ∧ body[m]? = some '>'} m ∧
          IsLeast {k | m + 1 ≤ k ∧ ∃ e, closingPattern.Spans body k e} k ∧
          raw = (body.drop (m + 1)).take (k - (m + 1))) ∧
      ∀ i j, IsLeast {i | ∃ j, openingPattern.Spans body i j} i → openingPattern.Spans body i j →
        (∀ k e, j ≤ k → ¬ closingPattern.Spans body k e) →
        ∀ i' j', openingPattern.Spans body i' j' → ∀ k e, j' ≤ k → ¬ closingPattern.Spans body k e := by
  -- The scan from the start of the body.
  have hscan : ∀ raw, rawSummary? body = some raw ↔
      ∃ i, IsLeast {i | MatchesAt body i} i ∧ TakenAt body i raw := by
    intro raw
    have hdrop := @rawSummary?_drop body 0 raw
    simpa only [List.drop_zero, Nat.zero_le, true_and] using hdrop
  refine ⟨?_, ?_, ?_, ?_⟩
  · rw [summaryText, hbody]
    cases rawSummary? body <;> rfl
  · constructor
    · intro hnone i e hspans
      have hmatch : ∃ i, MatchesAt body i := ⟨i, e, hspans⟩
      -- A match somewhere makes a first one, at which something is taken.
      obtain ⟨first, hfirst⟩ := Text.exists_isLeast hmatch
      obtain ⟨raw, hraw⟩ := exists_takenAt_iff.2 hfirst.1
      rw [(hscan raw).2 ⟨first, hfirst, hraw⟩] at hnone
      cases hnone
    · intro hnowhere
      refine Option.eq_none_iff_forall_ne_some.2 fun raw hraw => ?_
      obtain ⟨i, ⟨⟨e, hspans⟩, -⟩, -⟩ := (hscan raw).1 hraw
      exact hnowhere i e hspans
  · intro raw
    rw [hscan]
    constructor
    · rintro ⟨i, hleast, hraw⟩
      obtain ⟨m, k, htaken⟩ := (takenAt_iff_slice hleast.1).1 hraw
      exact ⟨i, m, k, hleast, htaken⟩
    · rintro ⟨i, m, k, hleast, htaken⟩
      exact ⟨i, hleast, (takenAt_iff_slice hleast.1).2 ⟨m, k, htaken⟩⟩
  · intro i j hfirst hopen hunclosed i' j' hopen' k e hk
    -- A closing tag after the other tag would be after the first one.
    have hle : j ≤ j' := le_of_spans_of_le hopen hopen' (hfirst.2 ⟨j', hopen'⟩)
    exact hunclosed k e (hle.trans hk)

/-- A name that only starts like that of a tag, an opening tag inside another, and tags with a capital letter, a long
s and a wide space. -/
def mixedTags : List Char :=
  "<summaryx>a</summary> <SUMMARY b=<ſummary c>D &amp; <e>F</Summary\u2003>G</summary><summary>".toList

/-- The first opening tag with a boundary after its name is taken, and the first closing tag after it. -/
theorem mixedTags_taken : Xml.content? mixedTags = none ∧
    rawSummary? mixedTags = some "D &amp; <e>F".toList ∧
    ∃ i m k, IsLeast {i | ∃ e, summaryPattern.Spans mixedTags i e} i ∧
      IsLeast {m | i ≤ m ∧ mixedTags[m]? = some '>'} m ∧
      IsLeast {k | m + 1 ≤ k ∧ ∃ e, closingPattern.Spans mixedTags k e} k ∧
      "D &amp; <e>F".toList = (mixedTags.drop (m + 1)).take (k - (m + 1)) := by
  have hbody : Xml.content? mixedTags = none := by decide +kernel
  have hraw : rawSummary? mixedTags = some "D &amp; <e>F".toList := by decide +kernel
  obtain ⟨-, -, hslice, -⟩ := raw_summary_leftmost_shortest mixedTags hbody
  exact ⟨hbody, hraw, (hslice _).1 hraw⟩

end ApiOutline.Doc
