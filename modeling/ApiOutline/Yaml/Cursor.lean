import ApiOutline.Yaml.Fault

/-!
# Places in a YAML text

A cursor is a place in a text: what is left of it, and the number of the character, line and column.
Line feed, carriage return, next line and the two Unicode separators end a line. A byte order mark
takes up no column.
-/

namespace ApiOutline.Yaml

/-- Whether a character ends a line. -/
def isBreak (c : Char) : Bool :=
  c == '\n' || c == '\r' || c == '\x85' || c == '\u2028' || c == '\u2029'

/-- Whether a character is a space or a tab. -/
def isSpaceOrTab (c : Char) : Bool :=
  c == ' ' || c == '\t'

/-- Whether a text is at its end or at a line end. -/
def endsLine : Option Char → Bool
  | none => true
  | some c => isBreak c

/-- Whether a text is at its end, at a line end or at a space. -/
def endsWord : Option Char → Bool
  | none => true
  | some c => isBreak c || c == ' '

/-- Whether a text is at its end, at a line end, at a space or at a tab. -/
def isGap : Option Char → Bool
  | none => true
  | some c => isBreak c || isSpaceOrTab c

/-- Whether a character may stand in a YAML text. -/
def isAllowed (c : Char) : Bool :=
  let n := c.toNat
  n == 0x09 || n == 0x0A || n == 0x0D || (0x20 ≤ n && n ≤ 0x7E) || n == 0x85 ||
    (0xA0 ≤ n && n ≤ 0xD7FF) || (0xE000 ≤ n && n ≤ 0xFFFD) || 0x10000 ≤ n

/-- Whether a character may stand in the name of an anchor, a directive or a tag handle. -/
def isNameChar (c : Char) : Bool :=
  ('0' ≤ c && c ≤ '9') || ('A' ≤ c && c ≤ 'Z') || ('a' ≤ c && c ≤ 'z') || c == '-' || c == '_'

/-- A place in a text. -/
structure Cursor where
  rest : List Char
  index : Nat := 0
  line : Nat := 0
  column : Nat := 0

namespace Cursor

/-- The character at a place. -/
def peek (cursor : Cursor) : Option Char :=
  cursor.rest.head?

/-- The character some characters further. -/
def peekAt (cursor : Cursor) (n : Nat) : Option Char :=
  (cursor.rest.drop n).head?

/-- The place one character further. -/
def next (cursor : Cursor) : Cursor :=
  match cursor.rest with
  | [] => cursor
  | c :: rest =>
    if isBreak c && !(c == '\r' && rest.head? == some '\n') then
      ⟨rest, cursor.index + 1, cursor.line + 1, 0⟩
    else if c == '\ufeff' then { cursor with rest, index := cursor.index + 1 }
    else { cursor with rest, index := cursor.index + 1, column := cursor.column + 1 }

/-- The place some characters further. -/
def skip : Nat → Cursor → Cursor
  | 0, cursor => cursor
  | n + 1, cursor => skip n cursor.next

/-- The characters up to the first that fails a test, and the place of that one. -/
def span (test : Char → Bool) (cursor : Cursor) : List Char × Cursor :=
  let taken := cursor.rest.takeWhile test
  (taken, cursor.skip taken.length)

/-- The place after all characters that pass a test. -/
def skipWhile (test : Char → Bool) (cursor : Cursor) : Cursor :=
  (cursor.span test).2

/-- Pass a line end. It is kept as a line feed; the Unicode separators stay themselves. -/
def lineBreak (cursor : Cursor) : Option Char × Cursor :=
  match cursor.rest with
  | '\r' :: '\n' :: _ => (some '\n', cursor.skip 2)
  | c :: _ =>
    if c == '\u2028' || c == '\u2029' then (some c, cursor.next)
    else if isBreak c then (some '\n', cursor.next)
    else (none, cursor)
  | [] => (none, cursor)

/-- Pass a comment, if there is one, up to the end of its line. -/
def skipComment (cursor : Cursor) : Cursor :=
  if cursor.peek == some '#' then cursor.skipWhile (!isBreak ·) else cursor

/-- Whether a line with a document marker starts here. -/
def atMarker (cursor : Cursor) : Bool :=
  match cursor.rest with
  | '-' :: '-' :: '-' :: rest => isGap rest.head?
  | '.' :: '.' :: '.' :: rest => isGap rest.head?
  | _ => false

/-- Pass the blanks and the comment at the end of a line, where nothing else may stand, and the line
end. -/
def restOfLine (cursor : Cursor) : Except Fault Cursor :=
  let cursor := (cursor.skipWhile (· == ' ')).skipComment
  if endsLine cursor.peek then .ok cursor.lineBreak.2 else .error .malformed

end Cursor

end ApiOutline.Yaml
