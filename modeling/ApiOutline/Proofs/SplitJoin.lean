import ApiOutline.Text.Lines
import Mathlib.Tactic.SplitIfs

/-!
# Splitting what was joined

The parts of a text have no separator, and pieces without the separator are the parts of the text that
joins them. Together with `join_splitAt` this makes splitting and joining inverse to each other. A run of
items that pass a test is divided from what follows it if that starts with one that does not.
-/

namespace ApiOutline.Text

variable {sep : Char} {cs piece : List Char}

/-- The parts of a text with a separator in it are the parts before it and those after it. -/
theorem splitAt_append_cons (sep : Char) (cs rest : List Char) :
    splitAt sep (cs ++ sep :: rest) = splitAt sep cs ++ splitAt sep rest := by
  induction cs with
  | nil => simp [splitAt]
  | cons c cs ih =>
    rw [List.cons_append, splitAt, splitAt, ih]
    split_ifs with hc
    · rfl
    · -- The first part goes on with this character, and there is always a first part.
      cases hparts : splitAt sep cs with
      | nil => exact absurd hparts (splitAt_ne_nil sep cs)
      | cons part parts => rfl

/-- A part of a text has no separator, and its characters are those of the text. -/
theorem of_mem_splitAt (h : piece ∈ splitAt sep cs) : sep ∉ piece ∧ piece ⊆ cs := by
  induction cs generalizing piece with
  | nil =>
    rw [splitAt, List.mem_singleton] at h
    subst h
    simp
  | cons c cs ih =>
    rw [splitAt] at h
    split_ifs at h with hc
    · obtain rfl | h := List.mem_cons.1 h
      · simp
      · exact ⟨(ih h).1, List.Subset.trans (ih h).2 (List.subset_cons_self _ _)⟩
    · cases hparts : splitAt sep cs with
      | nil => exact absurd hparts (splitAt_ne_nil sep cs)
      | cons first rest =>
        rw [hparts, consFirst] at h
        obtain rfl | h := List.mem_cons.1 h
        · obtain ⟨hsep, hsub⟩ := ih (by rw [hparts]; exact List.mem_cons_self)
          exact ⟨by simpa [Ne.symm hc] using hsep, List.cons_subset_cons _ hsub⟩
        · obtain ⟨hsep, hsub⟩ := ih (by rw [hparts]; exact List.mem_cons_of_mem _ h)
          exact ⟨hsep, List.Subset.trans hsub (List.subset_cons_self _ _)⟩

/-- A text without the separator is its only part. -/
theorem splitAt_of_not_mem (h : sep ∉ cs) : splitAt sep cs = [cs] := by
  induction cs with
  | nil => rfl
  | cons c cs ih =>
    rw [List.mem_cons, not_or] at h
    rw [splitAt, if_neg (Ne.symm h.1), ih h.2, consFirst]

/-- Pieces without the separator are the parts of the text that joins them. -/
theorem splitAt_join {pieces : List (List Char)} (hne : pieces ≠ [])
    (h : ∀ piece ∈ pieces, sep ∉ piece) : splitAt sep (join [sep] pieces) = pieces := by
  induction pieces with
  | nil => exact absurd rfl hne
  | cons piece pieces ih =>
    rw [List.forall_mem_cons] at h
    cases pieces with
    | nil => rw [join, splitAt_of_not_mem h.1]
    | cons next pieces =>
      -- The first piece ends at the separator that joins it to the others.
      have hjoin : join [sep] (piece :: next :: pieces) =
          piece ++ sep :: join [sep] (next :: pieces) := by
        simp [join]
      rw [hjoin, splitAt_append_cons, splitAt_of_not_mem h.1, ih (List.cons_ne_nil _ _) h.2,
        List.singleton_append]

/-- What holds of the characters of the pieces and of the separator holds of the joined text. -/
theorem forall_mem_join {P : Char → Prop} {between : List Char} {pieces : List (List Char)}
    (hbetween : ∀ c ∈ between, P c) (hpieces : ∀ piece ∈ pieces, ∀ c ∈ piece, P c) :
    ∀ c ∈ join between pieces, P c := by
  fun_induction join between pieces with
  | case1 => simp
  | case2 piece => exact hpieces piece (List.mem_singleton_self piece)
  | case3 piece next rest ih =>
    rw [List.forall_mem_cons] at hpieces
    rw [List.forall_mem_append, List.forall_mem_append]
    exact ⟨⟨hpieces.1, hbetween⟩, ih hpieces.2⟩

/-- Pieces joined in two groups have the separator between the groups. -/
theorem join_append (between : List Char) {pieces rest : List (List Char)} (hpieces : pieces ≠ [])
    (hrest : rest ≠ []) :
    join between (pieces ++ rest) = join between pieces ++ between ++ join between rest := by
  fun_induction join between pieces with
  | case1 => exact absurd rfl hpieces
  | case2 piece =>
    obtain ⟨next, others, rfl⟩ := List.exists_cons_of_ne_nil hrest
    rfl
  | case3 piece next others ih =>
    have htail := ih (List.cons_ne_nil _ _)
    simp only [List.cons_append, join] at htail ⊢
    simp only [htail, List.append_assoc]

/-- The joined text ends with the last piece. -/
theorem exists_join_concat (between : List Char) (pieces : List (List Char)) (piece : List Char) :
    ∃ cs, join between (pieces ++ [piece]) = cs ++ piece := by
  induction pieces with
  | nil => exact ⟨[], rfl⟩
  | cons first pieces ih =>
    obtain ⟨cs, hcs⟩ := ih
    cases pieces with
    | nil => exact ⟨first ++ between, by simp [join]⟩
    | cons next pieces =>
      refine ⟨first ++ between ++ cs, ?_⟩
      rw [List.append_assoc _ cs, ← hcs]
      rfl

/-- Items that pass a test are taken up to the first one that does not. -/
theorem takeWhile_append_of_stop {α : Type} {test : α → Bool} {xs ys : List α}
    (hxs : ∀ x ∈ xs, test x = true) (hys : ∀ y ∈ ys.head?, test y = false) :
    (xs ++ ys).takeWhile test = xs ∧ (xs ++ ys).dropWhile test = ys := by
  rw [List.takeWhile_append_of_pos hxs, List.dropWhile_append_of_pos hxs]
  cases ys with
  | nil => simp
  | cons y ys =>
    have hy : test y = false := hys y rfl
    simp [hy]

end ApiOutline.Text
