import ApiOutline.Html.Reference
import ApiOutline.Text.Blank
import ApiOutline.Text.Lines
import ApiOutline.Text.Word
import ApiOutline.Xml.Content

/-!
# Summaries

The summary of a documentation comment is the text of its `summary` element, reduced to its first
sentence or to a hundred characters. When the body is well-formed XML the element is found in the
tree of elements (`elementSummary?`); otherwise the text between the first opening tag and the next
closing tag is taken and its character references are replaced (`rawSummary?`).
-/

namespace ApiOutline.Doc

open Number (TooManyDigits)
open Text (isBlank isWord oneLine join)

/-- The tag of the element that holds a summary. -/
def summaryTag : List Char := "summary".toList

/-- The summary element directly in a body, or else the first one at any depth: its runs of text
with a space between each two. -/
def elementSummary? (body : List Xml.Content) : Option (List Char) :=
  let found :=
    match Xml.findChild? summaryTag body with
    | some content => some content
    | none => Xml.findDeepIn? summaryTag body
  found.map fun content => join [' '] (Xml.textsOf content)

/-- Whether a character is the given lower-case letter in either case; the long s is an s. -/
def isLetter (letter c : Char) : Bool :=
  c == letter || c == letter.toUpper || (letter == 's' && c == 'ſ')

/-- The rest after a word in letters of either case. -/
def dropWord? : (word : List Char) → List Char → Option (List Char)
  | [], cs => some cs
  | _ :: _, [] => none
  | letter :: word, c :: cs => if isLetter letter c then dropWord? word cs else none

/-- An opening summary tag at the start of the text: the rest after its `>`. The name ends at a word
boundary. -/
def openingTag? : List Char → Option (List Char)
  | '<' :: cs =>
    match dropWord? summaryTag cs with
    | none => none
    | some rest =>
      if rest.head?.any isWord then none
      else
        match rest.dropWhile (· != '>') with
        | _ :: inner => some inner
        | [] => none
  | _ => none

/-- Whether a closing summary tag is at the start of the text. -/
def atClosingTag : List Char → Bool
  | '<' :: '/' :: cs =>
    match dropWord? summaryTag cs with
    | none => false
    | some rest => (rest.dropWhile isBlank).head? == some '>'
  | _ => false

/-- The text before the first closing summary tag. -/
def beforeClosing? : List Char → Option (List Char)
  | [] => none
  | c :: cs => if atClosingTag (c :: cs) then some [] else (beforeClosing? cs).map (c :: ·)

/-- The text between the first opening summary tag that is closed and the next closing one. -/
def rawSummary? : List Char → Option (List Char)
  | [] => none
  | c :: cs =>
    match (openingTag? (c :: cs)).bind beforeClosing? with
    | some inner => some inner
    | none => rawSummary? cs

/-- Whether the summary of a body is taken from raw text. -/
def usesRawText (body : List Char) : Bool :=
  (Xml.content? body).isNone && (rawSummary? body).isSome

/-- The text of the summary of a body, before it is shortened. -/
def summaryText (body : List Char) : Except TooManyDigits (Option (List Char)) :=
  match Xml.content? body with
  | some content => .ok (elementSummary? content)
  | none =>
    match rawSummary? body with
    | none => .ok none
    | some raw => (Html.unescape raw).map some

/-- Replace each tag by a space. `tag` is the part read so far of a tag that is not closed yet; what
is never closed stays as it is. -/
def removeTagsFrom (tag : Option (List Char)) : List Char → List Char
  | [] => tag.getD []
  | c :: cs =>
    match tag with
    | none => if c = '<' then removeTagsFrom (some ['<']) cs else c :: removeTagsFrom none cs
    | some opened =>
      if c = '>' then ' ' :: removeTagsFrom none cs else removeTagsFrom (some (opened ++ [c])) cs

/-- The text with each tag replaced by a space. -/
def removeTags (cs : List Char) : List Char :=
  removeTagsFrom none cs

/-- The greatest number of characters of a summary. -/
def maxLength : Nat := 100

/-- The mark at the end of a shortened summary. -/
def ellipsis : List Char := "...".toList

/-- The first sentence, if it ends within the limit; else the text up to the limit. -/
def truncate (cs : List Char) : List Char :=
  let sentence := cs.takeWhile (· != '.')
  if sentence.length < cs.length ∧ sentence.length < maxLength then cs.take (sentence.length + 1)
  else if maxLength < cs.length then cs.take maxLength ++ ellipsis
  else cs

/-- The text of a summary in its final form, or nothing if it is blank. -/
def shorten? (text : List Char) : Option (List Char) :=
  let plain := oneLine (removeTags text)
  if plain.isEmpty then none else some (truncate plain)

/-- The short summary of a body, if it has one that is not blank. -/
def summarize (body : List Char) : Except TooManyDigits (Option (List Char)) :=
  (summaryText body).map fun text => text.bind shorten?

end ApiOutline.Doc
