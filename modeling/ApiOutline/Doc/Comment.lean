import ApiOutline.Text.Blank
import ApiOutline.Text.Lines

/-!
# Documentation comments

A documentation comment of C# is a line comment that starts with exactly three slashes or a block
comment that starts with `/**`. `clean` takes the comment marks off each of its lines.
-/

namespace ApiOutline.Doc

open Text (trim trimStart trimEnd lines join)

/-- Whether the text starts with the given one. -/
def startsWith (start : String) (cs : List Char) : Bool :=
  start.toList.isPrefixOf cs

/-- Whether a comment is a documentation comment. Four slashes and the empty block are not. -/
def isDocComment (comment : List Char) : Bool :=
  let text := trim comment
  !(startsWith "////" text || startsWith "/**/" text) &&
    (startsWith "///" text || startsWith "/**" text)

/-- Take an opening mark off the start of a line. -/
def dropOpening (line : List Char) : List Char :=
  if startsWith "///" line || startsWith "/**" line then line.drop 3 else line

/-- Take a closing mark off the end of a line. -/
def dropClosing (line : List Char) : List Char :=
  if "*/".toList.isSuffixOf line then trimEnd (line.dropLast.dropLast) else line

/-- Take one asterisk off the start of a line. -/
def dropStar : List Char → List Char
  | '*' :: rest => trimStart rest
  | line => line

/-- One line of a comment without its marks. -/
def cleanLine (line : List Char) : List Char :=
  dropStar (dropClosing (trim (dropOpening (trim line))))

/-- The body of a comment: its lines without marks. -/
def clean (comment : List Char) : List Char :=
  join ['\n'] ((lines comment).map cleanLine)

end ApiOutline.Doc
