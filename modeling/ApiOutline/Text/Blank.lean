/-!
# White space

`isBlank` is the class of white space that every part of the outline uses: trimming a line of a
comment, collapsing a signature to one line and comparing settings. `trim` cuts blanks at both ends,
`collapse` writes each run of blanks as one space, and `oneLine` does both.
-/

namespace ApiOutline.Text

/-- White space: the ASCII blanks and separators, next line, no-break space and the Unicode spaces
and line separators. Zero-width characters are not white space. -/
def isBlank (c : Char) : Bool :=
  let n := c.toNat
  (9 ≤ n && n ≤ 13) || (0x1C ≤ n && n ≤ 0x20) || n == 0x85 || n == 0xA0 || n == 0x1680 ||
    (0x2000 ≤ n && n ≤ 0x200A) || n == 0x2028 || n == 0x2029 || n == 0x202F || n == 0x205F ||
    n == 0x3000

/-- Drop the blanks at the start. -/
def trimStart (cs : List Char) : List Char :=
  cs.dropWhile isBlank

/-- Drop the blanks at the end. -/
def trimEnd (cs : List Char) : List Char :=
  (cs.reverse.dropWhile isBlank).reverse

/-- Drop the blanks at both ends. -/
def trim (cs : List Char) : List Char :=
  trimEnd (trimStart cs)

/-- Write each run of blanks as one space: the last blank of the run becomes the space. -/
def collapse : List Char → List Char
  | [] => []
  | c :: cs =>
    if isBlank c then
      match cs with
      | d :: _ => if isBlank d then collapse cs else ' ' :: collapse cs
      | [] => [' ']
    else c :: collapse cs

/-- The text on one line: blanks collapsed, none at the ends. -/
def oneLine (cs : List Char) : List Char :=
  trim (collapse cs)

/-- The text without any blank. -/
def removeBlanks (cs : List Char) : List Char :=
  cs.filter fun c => !isBlank c

/-- `trim` on strings. -/
def trimString (s : String) : String :=
  String.ofList (trim s.toList)

end ApiOutline.Text
