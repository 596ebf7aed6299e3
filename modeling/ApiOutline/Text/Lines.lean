/-!
# Lines

`lines` divides a text at its line feeds, and `join` puts pieces together with a separator between
them. Joining the lines of a text with line feeds gives it back. `plainLines` writes every line end as
a line feed.
-/

namespace ApiOutline.Text

/-- Put a character in front of the first line. -/
def consFirst (c : Char) : List (List Char) → List (List Char)
  | [] => [[c]]
  | line :: rest => (c :: line) :: rest

/-- The parts of a text between the given separators; one more than there are separators. -/
def splitAt (sep : Char) : List Char → List (List Char)
  | [] => [[]]
  | c :: cs => if c = sep then [] :: splitAt sep cs else consFirst c (splitAt sep cs)

/-- The lines of a text. -/
def lines (cs : List Char) : List (List Char) :=
  splitAt '\n' cs

/-- The pieces with a separator between each two. -/
def join (sep : List Char) : List (List Char) → List Char
  | [] => []
  | [piece] => piece
  | piece :: next :: rest => piece ++ sep ++ join sep (next :: rest)

/-- The strings with a separator between each two. -/
def joinStrings (sep : String) (pieces : List String) : String :=
  String.ofList (join sep.toList (pieces.map String.toList))

/-- A text with line feeds for all line ends: a carriage return, alone or before a line feed, ends a
line. -/
def plainLines : List Char → List Char
  | [] => []
  | '\r' :: '\n' :: rest => '\n' :: plainLines rest
  | '\r' :: rest => '\n' :: plainLines rest
  | c :: rest => c :: plainLines rest

theorem splitAt_ne_nil (sep : Char) (cs : List Char) : splitAt sep cs ≠ [] := by
  cases cs with
  | nil => simp [splitAt]
  | cons c cs =>
    by_cases h : c = sep
    · simp [splitAt, h]
    · cases hs : splitAt sep cs <;> simp [splitAt, h, hs, consFirst]

/-- The parts between separators, joined with the separator, are the text. -/
theorem join_splitAt (sep : Char) (cs : List Char) : join [sep] (splitAt sep cs) = cs := by
  induction cs with
  | nil => rfl
  | cons c cs ih =>
    cases hs : splitAt sep cs with
    | nil => exact absurd hs (splitAt_ne_nil sep cs)
    | cons line rest =>
      rw [hs] at ih
      by_cases h : c = sep
      · simp [splitAt, h, hs, join, ih]
      · cases rest with
        | nil => simpa [splitAt, h, hs, consFirst, join] using ih
        | cons next rest =>
          have step : join [sep] (splitAt sep (c :: cs)) = c :: join [sep] (line :: next :: rest) := by
            simp [splitAt, h, hs, consFirst, join]
          rw [step, ih]

end ApiOutline.Text
