import ApiOutline.Doc.Summary
import ApiOutline.Proofs.Outcome
import Mathlib.Data.List.TakeWhile
import Mathlib.Tactic.SplitIfs

/-!
# References with too many digits

Replacing the references of a text can fail in one way: a number after `&#` has more digits than are
read. No reference goes on across a `&`, so every one in the text is looked at, and replacing fails
exactly if the text has such a number somewhere (`unescape_fails_iff`). References are replaced only
in raw summaries, which makes this the one way in which a summary can fail (`summarize_fails_iff`).
-/

namespace ApiOutline.Html

open Number (isDigit maxDigits limitedValue)

/-- Whether a text starts with `#` and more digits than are read. -/
def StartsLong (cs : List Char) : Prop :=
  ∃ digits rest, cs = '#' :: (digits ++ rest) ∧ (∀ c ∈ digits, isDigit c = true) ∧
    maxDigits < digits.length

/-- Whether a text refers to a character by more digits than are read. -/
def HasLongReference (cs : List Char) : Prop :=
  ∃ front number, cs = front ++ '&' :: number ∧ StartsLong number

variable {c : Char} {cs rest replacement : List Char}

/-- A reference fails exactly if it is one by too long a number. -/
theorem readReference_fails_iff : (∃ fault, readReference cs = .error fault) ↔ StartsLong cs := by
  constructor
  · rintro ⟨fault, h⟩
    unfold readReference at h
    split at h
    · next rest =>
      split_ifs at h with hdigit
      · -- The digits are taken up to the first character that is none.
        refine ⟨rest.takeWhile isDigit, rest.dropWhile isDigit, ?_, ?_, ?_⟩
        · rw [List.takeWhile_append_dropWhile]
        · exact fun c hc => List.mem_takeWhile_imp hc
        · unfold limitedValue at h
          split_ifs at h with hlong
          exact hlong
      · split at h
        · split_ifs at h
        · cases h
    · -- A reference by name never fails.
      simp only at h
      split_ifs at h
      split at h <;> cases h
  · rintro ⟨digits, rest, rfl, hdigits, hlong⟩
    cases digits with
    | nil => exact absurd hlong (Nat.not_lt_zero _)
    | cons digit digits =>
      -- The digits that are taken include all of these, and so are too many.
      have hfirst : (digit :: digits ++ rest).head?.any isDigit = true := hdigits digit (by simp)
      have htaken : maxDigits < ((digit :: digits ++ rest).takeWhile isDigit).length := by
        rw [List.takeWhile_append_of_pos hdigits, List.length_append]
        omega
      unfold readReference
      simp only [if_pos hfirst, limitedValue, if_pos htaken]
      exact ⟨_, rfl⟩

/-- One semicolon is dropped, or nothing. -/
theorem exists_dropSemicolon (cs : List Char) :
    ∃ mark, cs = mark ++ dropSemicolon cs ∧ '&' ∉ mark := by
  unfold dropSemicolon
  split
  · exact ⟨[';'], rfl, by decide⟩
  · exact ⟨[], rfl, by simp⟩

/-- What a reference takes of the text has no further `&` in it. -/
theorem exists_taken (h : readReference cs = .ok (some (replacement, rest))) :
    ∃ taken, cs = taken ++ rest ∧ '&' ∉ taken := by
  -- In both kinds of numbers a run of digits is taken, and the semicolon after it.
  have hnumber : ∀ (isDigit : Char → Bool) (cs : List Char), isDigit '&' = false →
      ∃ taken, cs = taken ++ dropSemicolon (cs.dropWhile isDigit) ∧ '&' ∉ taken := by
    intro isDigit cs hamp
    obtain ⟨mark, hmark, hnone⟩ := exists_dropSemicolon (cs.dropWhile isDigit)
    refine ⟨cs.takeWhile isDigit ++ mark, ?_, ?_⟩
    · rw [List.append_assoc, ← hmark, List.takeWhile_append_dropWhile]
    · rw [List.mem_append, not_or]
      refine ⟨fun hmem => ?_, hnone⟩
      have hdigit := List.mem_takeWhile_imp hmem
      rw [hamp] at hdigit
      cases hdigit
  unfold readReference at h
  split at h
  · next number =>
    split_ifs at h
    · split at h
      · cases h
      · cases h
        obtain ⟨taken, htaken, hnone⟩ := hnumber isDigit number rfl
        exact ⟨'#' :: taken, congrArg _ htaken, by simp [hnone]⟩
    · split at h
      · next x digits hx =>
        split_ifs at h with hhex
        · cases h
          obtain ⟨taken, htaken, hnone⟩ := hnumber Number.isHexDigit digits rfl
          refine ⟨'#' :: x :: taken, congrArg (fun cs => '#' :: x :: cs) htaken, ?_⟩
          obtain rfl | rfl := hhex.1 <;> simp [hnone]
        · cases h
      · cases h
  · simp only at h
    -- A name is a prefix of the text, and none of its characters is a `&`.
    generalize hname : (cs.takeWhile isNameChar).take 32 = name at h
    have hprefix : name <+: cs := hname ▸ (List.take_prefix _ _).trans (List.takeWhile_prefix _)
    obtain ⟨after, rfl⟩ := hprefix
    have hnone : '&' ∉ name := by
      intro hmem
      rw [← hname] at hmem
      exact absurd (List.mem_takeWhile_imp (List.mem_of_mem_take hmem)) (by decide)
    rw [List.drop_left] at h
    split_ifs at h
    · cases h
    · split at h
      · cases h
        exact ⟨name ++ [';'], by simp, by simp [hnone]⟩
      · cases h
        exact ⟨name, rfl, hnone⟩

/-- After a `&` the text refers by too long a number there or further on. -/
theorem hasLongReference_amp :
    HasLongReference ('&' :: cs) ↔ StartsLong cs ∨ HasLongReference cs := by
  constructor
  · rintro ⟨front, number, h, hlong⟩
    cases front with
    | nil =>
      cases h
      exact .inl hlong
    | cons first front =>
      cases h
      exact .inr ⟨front, number, rfl, hlong⟩
  · rintro (hlong | ⟨front, number, rfl, hlong⟩)
    · exact ⟨[], cs, rfl, hlong⟩
    · exact ⟨'&' :: front, number, rfl, hlong⟩

/-- A part without any `&` has no reference. -/
theorem hasLongReference_append {taken : List Char} (h : '&' ∉ taken) :
    HasLongReference (taken ++ cs) ↔ HasLongReference cs := by
  induction taken with
  | nil => rfl
  | cons c taken ih =>
    rw [List.mem_cons, not_or] at h
    rw [← ih h.2]
    constructor
    · rintro ⟨front, number, hcs, hlong⟩
      cases front with
      | nil => exact absurd (List.cons.inj hcs).1.symm h.1
      | cons first front => exact ⟨front, number, (List.cons.inj hcs).2, hlong⟩
    · rintro ⟨front, number, hcs, hlong⟩
      exact ⟨c :: front, number, congrArg _ hcs, hlong⟩

/-- The induction is on the fuel, which is at least the number of characters left. -/
theorem unescapeFrom_fails_iff {fuel : Nat} (hfuel : cs.length ≤ fuel) :
    (∃ fault, unescapeFrom fuel cs = .error fault) ↔ HasLongReference cs := by
  -- What is put in front of the rest does not matter to whether it fails.
  have hmap : ∀ {fuel : Nat} {cs : List Char} (f : List Char → List Char),
      (∃ fault, (unescapeFrom fuel cs).map f = .error fault) ↔
        ∃ fault, unescapeFrom fuel cs = .error fault := by
    intro fuel cs f
    cases unescapeFrom fuel cs <;> simp [Except.map]
  induction fuel generalizing cs with
  | zero =>
    obtain rfl := List.length_eq_zero_iff.1 (Nat.le_zero.1 hfuel)
    simp [unescapeFrom, HasLongReference]
  | succ fuel ih =>
    cases cs with
    | nil => simp [unescapeFrom, HasLongReference]
    | cons c cs =>
      have hleft : cs.length ≤ fuel := Nat.le_of_succ_le_succ hfuel
      by_cases hamp : c = '&'
      · subst hamp
        rw [hasLongReference_amp, ← readReference_fails_iff, unescapeFrom]
        cases hread : readReference cs with
        | error fault => simp
        | ok found =>
          have hnone : ¬ ∃ fault, Except.ok (ε := Number.TooManyDigits) found = .error fault := by
            rintro ⟨fault, h⟩
            cases h
          rw [or_iff_right hnone]
          cases found with
          | none => exact (hmap _).trans (ih hleft)
          | some replaced =>
            obtain ⟨replacement, rest⟩ := replaced
            -- The part that is taken has no `&`, so no reference is missed in it.
            obtain ⟨taken, rfl, htaken⟩ := exists_taken hread
            rw [List.length_append] at hleft
            rw [hasLongReference_append htaken]
            exact (hmap _).trans (ih (by omega))
      · rw [unescapeFrom.eq_4 _ _ _ hamp]
        have hskip : HasLongReference ([c] ++ cs) ↔ HasLongReference cs :=
          hasLongReference_append (by simpa using Ne.symm hamp)
        exact (hmap _).trans ((ih hleft).trans hskip.symm)

/-- Replacing references fails exactly if the text refers to a character by too long a number. -/
theorem unescape_fails_iff : (∃ fault, unescape cs = .error fault) ↔ HasLongReference cs :=
  unescapeFrom_fails_iff (Nat.le_refl _)

end ApiOutline.Html

namespace ApiOutline.Doc

open Html (HasLongReference)

/-- Whether the summary of a body is taken from raw text that refers to a character by too long a
number. -/
def HasLongSummary (body : List Char) : Prop :=
  Xml.content? body = none ∧ ∃ raw, rawSummary? body = some raw ∧ HasLongReference raw

/-- A body has no summary to be given exactly if its raw one has too long a number. -/
theorem summarize_fails_iff {body : List Char} :
    (∃ fault, summarize body = .error fault) ↔ HasLongSummary body := by
  unfold summarize summaryText HasLongSummary
  cases Xml.content? body with
  | some content => simp [Except.map]
  | none =>
    cases hraw : rawSummary? body with
    | none => simp [Except.map]
    | some raw =>
      simp only [true_and, Option.some.injEq, exists_eq_left', ← Html.unescape_fails_iff]
      cases Html.unescape raw <;> simp [Except.map]

end ApiOutline.Doc
