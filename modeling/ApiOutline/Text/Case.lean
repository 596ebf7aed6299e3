/-!
# Letter case

Settings, suffixes and flags are compared in lower case. All of them are ASCII words, and no other
character becomes a letter of one of them in lower case, so ASCII letters are all that need to change.
-/

namespace ApiOutline.Text

/-- The text with ASCII letters in lower case. -/
def lower (cs : List Char) : List Char :=
  cs.map Char.toLower

/-- `lower` on strings. -/
def lowerString (s : String) : String :=
  String.ofList (lower s.toList)

end ApiOutline.Text
