import ApiOutline.Text.Utf8
import ApiOutline.Yaml.Cursor

/-!
# YAML tokens

The tokens of a YAML text, and how the small ones are read: directives, anchors, aliases and tags.
-/

namespace ApiOutline.Yaml

/-- A token of a YAML text. -/
inductive Token where
  /-- A directive with the version of the format. -/
  | version (major : Nat)
  /-- A directive that gives a tag handle its meaning. -/
  | tagHandle (handle : String) (meaning : String)
  /-- Any other directive. -/
  | directive
  | documentStart
  | documentEnd
  | blockSequenceStart
  | blockMappingStart
  | blockEnd
  | flowSequenceStart
  | flowSequenceEnd
  | flowMappingStart
  | flowMappingEnd
  | blockEntry
  | flowEntry
  | key
  | value
  | alias (name : String)
  | anchor (name : String)
  /-- A tag: what follows its handle, or the whole tag if it has none. -/
  | tag (handle : Option String) (suffix : String)
  /-- A scalar; one without quotes or block indicator is plain. -/
  | scalar (plain : Bool) (text : List Char)
deriving DecidableEq, Repr

/-- Whether a character may stand in a tag. -/
def isUriChar (c : Char) : Bool :=
  isNameChar c || ";/?:@&=+$,.!~*'()[]%".toList.contains c

/-- The bytes written as a percent sign and two hexadecimal digits each, and the rest. -/
def escapedBytes : List Char → Except Fault (Text.Bytes × List Char)
  | '%' :: a :: b :: rest =>
    match Number.hexValue? a, Number.hexValue? b with
    | some high, some low => do
      let (bytes, rest) ← escapedBytes rest
      return ((high * 16 + low).toUInt8 :: bytes, rest)
    | _, _ => .error .malformed
  | '%' :: _ => .error .malformed
  | rest => .ok ([], rest)

/-- The text of a tag with its escapes resolved. Escapes in a row are UTF-8. -/
def unescapeUri : (fuel : Nat) → List Char → Except Fault (List Char)
  | 0, _ => .ok []
  | _ + 1, [] => .ok []
  | fuel + 1, c :: rest =>
    if c = '%' then do
      let (bytes, rest) ← escapedBytes (c :: rest)
      match Text.Utf8.decode bytes with
      | .error _ => throw .malformed
      | .ok text => return text ++ (← unescapeUri fuel rest)
    else do return c :: (← unescapeUri fuel rest)

namespace Cursor

/-- A name of letters, digits, hyphens and underscores, which must not be empty. -/
def name (cursor : Cursor) : Except Fault (String × Cursor) :=
  let (name, cursor) := cursor.span isNameChar
  if name.isEmpty then .error .malformed else .ok (String.ofList name, cursor)

/-- The text of a tag, which must not be empty. -/
def uri (cursor : Cursor) : Except Fault (String × Cursor) := do
  let (raw, cursor) := cursor.span isUriChar
  if raw.isEmpty then throw .malformed
  let text ← unescapeUri raw.length raw
  return (String.ofList text, cursor)

/-- A tag handle: an exclamation mark, alone before a space, or a name between two of them. -/
def handle (cursor : Cursor) : Except Fault (String × Cursor) :=
  if cursor.peek != some '!' then .error .malformed
  else if cursor.peekAt 1 == some ' ' then .ok ("!", cursor.next)
  else
    let (name, cursor) := cursor.next.span isNameChar
    if cursor.peek == some '!' then .ok ("!" ++ String.ofList name ++ "!", cursor.next)
    else .error .malformed

/-- A decimal number. -/
def number (cursor : Cursor) : Except Fault (Nat × Cursor) :=
  let (digits, cursor) := cursor.span Number.isDigit
  if digits.isEmpty then .error .malformed else .ok (Number.value digits, cursor)

/-- Check that a word ends here. -/
def wordEnd (cursor : Cursor) : Except Fault Cursor :=
  if endsWord cursor.peek then .ok cursor else .error .malformed

/-- A directive after its percent sign, up to the next line. -/
def directive (cursor : Cursor) : Except Fault (Token × Cursor) := do
  let (name, cursor) ← cursor.name
  let cursor ← cursor.wordEnd
  let blanks := cursor.skipWhile (· == ' ')
  if name = "YAML" then
    let (major, cursor) ← blanks.number
    if cursor.peek != some '.' then throw .malformed
    let (_, cursor) ← cursor.next.number
    let cursor ← (← cursor.wordEnd).restOfLine
    return (.version major, cursor)
  else if name = "TAG" then
    let (handle, cursor) ← blanks.handle
    if cursor.peek != some ' ' then throw .malformed
    let (meaning, cursor) ← (cursor.skipWhile (· == ' ')).uri
    let cursor ← (← cursor.wordEnd).restOfLine
    return (.tagHandle handle meaning, cursor)
  else
    let cursor ← (cursor.skipWhile (!isBreak ·)).restOfLine
    return (.directive, cursor)

/-- Characters that may follow the name of an anchor besides blanks. -/
def afterAnchor : List Char := ['?', ':', ',', ']', '\x7d', '%', '@', '\x60']

/-- The name of an anchor or alias after its mark. -/
def anchorName (cursor : Cursor) : Except Fault (String × Cursor) := do
  let (name, cursor) ← cursor.name
  if isGap cursor.peek || cursor.peek.any afterAnchor.contains then return (name, cursor)
  else throw .malformed

/-- Whether a second exclamation mark stands in the word at a place after its first character. -/
def hasHandle (cursor : Cursor) : Bool :=
  ((cursor.rest.drop 1).takeWhile fun c => !endsWord (some c)).contains '!'

/-- A tag. -/
def tag (cursor : Cursor) : Except Fault (Token × Cursor) := do
  let (token, cursor) ←
    if cursor.peekAt 1 == some '<' then do
      let (suffix, cursor) ← (cursor.skip 2).uri
      if cursor.peek != some '>' then throw .malformed
      pure (Token.tag none suffix, cursor.next)
    else if isGap (cursor.peekAt 1) then pure (Token.tag none "!", cursor.next)
    else if cursor.hasHandle then do
      let (handle, cursor) ← cursor.handle
      let (suffix, cursor) ← cursor.uri
      pure (Token.tag (some handle) suffix, cursor)
    else do
      let (suffix, cursor) ← cursor.next.uri
      pure (Token.tag (some "!") suffix, cursor)
  return (token, ← cursor.wordEnd)

end Cursor

end ApiOutline.Yaml
