import ApiOutline.Yaml.Scalar
import ApiOutline.Yaml.Token

/-!
# From a YAML text to tokens

Outside flow collections, indentation opens and closes block collections. Whether a scalar, an alias
or a flow collection is the key of a mapping shows only at the colon after it, so the lexer remembers
for each flow depth where a key may have started. The tokens that open a key are noted with the
number of the token they belong before, and put in their places at the end.
-/

namespace ApiOutline.Yaml

/-- A place where a key may have started. -/
structure PossibleKey where
  /-- The number of the token that starts it. -/
  number : Nat
  /-- Nothing but a key can stand there. -/
  required : Bool
  index : Nat
  line : Nat
  column : Nat

/-- Whether a place for a key is too far back: on another line or more than 1024 characters. -/
def PossibleKey.isStale (key : PossibleKey) (cursor : Cursor) : Bool :=
  key.line != cursor.line || 1024 < cursor.index - key.index

/-- The state of the lexer. -/
structure Lexer where
  cursor : Cursor
  /-- The tokens so far, the last one first. -/
  tokens : List Token := []
  /-- Keys found: the number of the token before which a key opens, and whether a block mapping
  opens there too. -/
  keys : List (Nat × Bool) := []
  flowDepth : Nat := 0
  /-- The column of the innermost block collection. -/
  indent : Int := -1
  /-- The columns of the block collections around it. -/
  indents : List Int := []
  /-- A key may start here. -/
  allowsKey : Bool := true
  /-- The places where keys may have started, by flow depth. -/
  possible : List (Nat × PossibleKey) := []

namespace Lexer

/-- Whether the lexer is outside flow collections. -/
def inBlock (lexer : Lexer) : Bool :=
  lexer.flowDepth == 0

/-- Add a token. -/
def push (token : Token) (lexer : Lexer) : Lexer :=
  { lexer with tokens := token :: lexer.tokens }

/-- Go on at a place. -/
def moveTo (cursor : Cursor) (lexer : Lexer) : Lexer :=
  { lexer with cursor }

/-- Say whether a key may start here. -/
def allow (allowsKey : Bool) (lexer : Lexer) : Lexer :=
  { lexer with allowsKey }

/-- Pass blanks, comments and line ends. After a line end outside flow collections a key may
start. -/
def skipBlanks : (fuel : Nat) → Lexer → Lexer
  | 0, lexer => lexer
  | fuel + 1, lexer =>
    let cursor := (lexer.cursor.skipWhile (· == ' ')).skipComment
    match cursor.lineBreak with
    | (none, _) => lexer.moveTo cursor
    | (some _, cursor) =>
      skipBlanks fuel { lexer with cursor, allowsKey := lexer.allowsKey || lexer.inBlock }

/-- Forget the places for keys that are too far back, of which none may be required. -/
def dropStale (lexer : Lexer) : Except Fault Lexer :=
  if lexer.possible.any fun entry => entry.2.required && entry.2.isStale lexer.cursor then
    .error .malformed
  else
    .ok { lexer with
      possible := lexer.possible.filter fun entry => !entry.2.isStale lexer.cursor }

/-- The place where a key may have started at this flow depth. -/
def possibleKey? (lexer : Lexer) : Option PossibleKey :=
  lexer.possible.lookup lexer.flowDepth

/-- Forget the place for a key at this flow depth. -/
def forgetKey (lexer : Lexer) : Lexer :=
  { lexer with possible := lexer.possible.filter fun entry => entry.1 != lexer.flowDepth }

/-- Give up the place for a key at this flow depth, which may not be required. -/
def dropKey (lexer : Lexer) : Except Fault Lexer :=
  if lexer.possibleKey?.any (·.required) then .error .malformed else .ok lexer.forgetKey

/-- Remember that a key may start here. -/
def saveKey (lexer : Lexer) : Except Fault Lexer :=
  if !lexer.allowsKey then .ok lexer
  else do
    let lexer ← lexer.dropKey
    let cursor := lexer.cursor
    let key : PossibleKey :=
      { number := lexer.tokens.length
        required := lexer.inBlock && lexer.indent == (cursor.column : Int)
        index := cursor.index
        line := cursor.line
        column := cursor.column }
    return { lexer with possible := (lexer.flowDepth, key) :: lexer.possible }

/-- Close the block collections that are further in than a column. -/
def closeBlocks (column : Int) : List Int → Lexer → Lexer
  | [], lexer => lexer
  | outer :: indents, lexer =>
    if lexer.indent ≤ column then lexer
    else closeBlocks column indents { lexer.push .blockEnd with indent := outer, indents }

/-- Close the block collections that are further in than a column; flow collections have no
indentation. -/
def unwind (column : Int) (lexer : Lexer) : Lexer :=
  if lexer.inBlock then closeBlocks column lexer.indents lexer else lexer

/-- Open a block collection at a column, unless the innermost one is as far in. -/
def openBlock (column : Nat) (lexer : Lexer) : Bool × Lexer :=
  if lexer.indent < (column : Int) then
    (true, { lexer with indent := column, indents := lexer.indent :: lexer.indents })
  else (false, lexer)

/-- Open a block collection here with its token, if it is new. Outside flow collections, entries and
keys stand only where a key may start. -/
def openEntry (token : Token) (lexer : Lexer) : Except Fault Lexer :=
  if !lexer.inBlock then .ok lexer
  else if !lexer.allowsKey then .error .malformed
  else
    match lexer.openBlock lexer.cursor.column with
    | (true, lexer) => .ok (lexer.push token)
    | (false, lexer) => .ok lexer

/-- End all block collections before a document marker, a directive or the end. -/
def endBlocks (lexer : Lexer) : Except Fault Lexer := do
  return (← (lexer.unwind (-1)).dropKey).allow false

/-- A token of one character. -/
def mark (token : Token) (lexer : Lexer) : Lexer :=
  (lexer.push token).moveTo lexer.cursor.next

/-- The start of a flow collection. -/
def flowStart (token : Token) (lexer : Lexer) : Except Fault Lexer := do
  let lexer ← lexer.saveKey
  return ({ lexer with flowDepth := lexer.flowDepth + 1 }.allow true).mark token

/-- The end of a flow collection. -/
def flowEnd (token : Token) (lexer : Lexer) : Except Fault Lexer := do
  if lexer.inBlock then throw .malformed
  let lexer ← lexer.dropKey
  return ({ lexer with flowDepth := lexer.flowDepth - 1 }.allow false).mark token

/-- A comma in a flow collection. -/
def flowEntry (lexer : Lexer) : Except Fault Lexer := do
  return (← (lexer.allow true).dropKey).mark .flowEntry

/-- A hyphen before an entry of a block sequence. -/
def blockEntry (lexer : Lexer) : Except Fault Lexer := do
  let lexer ← lexer.openEntry .blockSequenceStart
  return (← (lexer.allow true).dropKey).mark .blockEntry

/-- A question mark before a key. -/
def complexKey (lexer : Lexer) : Except Fault Lexer := do
  let lexer ← lexer.openEntry .blockMappingStart
  return (← (lexer.allow lexer.inBlock).dropKey).mark .key

/-- A colon before a value. What may have been a key is one. -/
def value (lexer : Lexer) : Except Fault Lexer :=
  match lexer.possibleKey? with
  | some key =>
    let lexer := lexer.forgetKey
    let (opened, lexer) := if lexer.inBlock then lexer.openBlock key.column else (false, lexer)
    .ok (({ lexer with keys := (key.number, opened) :: lexer.keys }.allow false).mark .value)
  | none => do
    let lexer ← lexer.openEntry .blockMappingStart
    return (← (lexer.allow lexer.inBlock).dropKey).mark .value

/-- An alias, anchor, tag or quoted scalar: a key may start with it, and none right after it. -/
def word (read : Cursor → Except Fault (Token × Cursor)) (lexer : Lexer) : Except Fault Lexer := do
  let lexer ← lexer.saveKey
  let (token, cursor) ← read lexer.cursor
  return ((lexer.allow false).push token).moveTo cursor

/-- A block scalar, after which a key may start. -/
def blockScalar (folded : Bool) (lexer : Lexer) : Except Fault Lexer := do
  let lexer ← (lexer.allow true).dropKey
  let (text, cursor) ← lexer.cursor.next.blockScalar folded lexer.indent
  return (lexer.push (.scalar false text)).moveTo cursor

/-- A plain scalar. A key may start after it if its line has ended. -/
def plain (lexer : Lexer) : Except Fault Lexer := do
  let lexer ← lexer.saveKey
  let (text, atLineEnd, cursor) := lexer.cursor.plainScalar (!lexer.inBlock) lexer.indent
  return ((lexer.allow atLineEnd).push (.scalar true text)).moveTo cursor

/-- A quoted scalar as a token. -/
def quoted (quote : Char) (cursor : Cursor) : Except Fault (Token × Cursor) := do
  let (text, cursor) ← cursor.quotedScalar quote
  return (.scalar false text, cursor)

/-- An anchor or alias as a token. -/
def reference (token : String → Token) (cursor : Cursor) : Except Fault (Token × Cursor) := do
  let (name, cursor) ← cursor.next.anchorName
  return (token name, cursor)

/-- Characters that start no plain scalar. -/
def notPlain : List Char :=
  ['-', '?', ':', ',', '[', ']', '\x7b', '\x7d', '#', '&', '*', '!', '|', '>', '\x27', '\x22', '%',
    '@', '\x60']

/-- Whether a plain scalar starts with a character before another one. -/
def startsPlain (inBlock : Bool) (c : Char) (next : Option Char) : Bool :=
  (!isGap (some c) && !notPlain.contains c) ||
    (!isGap next && (c == '-' || (inBlock && (c == '?' || c == ':'))))

/-- The token that starts with a character. -/
def tokenAt (c : Char) (lexer : Lexer) : Except Fault Lexer :=
  let cursor := lexer.cursor
  let next := cursor.peekAt 1
  if cursor.column == 0 && c == '%' then do
    let lexer ← lexer.endBlocks
    let (token, cursor) ← cursor.next.directive
    return (lexer.push token).moveTo cursor
  else if cursor.column == 0 && cursor.atMarker then do
    let lexer ← lexer.endBlocks
    return (lexer.push (if c == '-' then .documentStart else .documentEnd)).moveTo (cursor.skip 3)
  else if c == '[' then lexer.flowStart .flowSequenceStart
  else if c == '\x7b' then lexer.flowStart .flowMappingStart
  else if c == ']' then lexer.flowEnd .flowSequenceEnd
  else if c == '\x7d' then lexer.flowEnd .flowMappingEnd
  else if c == ',' then lexer.flowEntry
  else if c == '-' && isGap next then lexer.blockEntry
  else if c == '?' && (!lexer.inBlock || isGap next) then lexer.complexKey
  else if c == ':' && (!lexer.inBlock || isGap next) then lexer.value
  else if c == '*' then lexer.word (reference .alias)
  else if c == '&' then lexer.word (reference .anchor)
  else if c == '!' then lexer.word Cursor.tag
  else if c == '|' && lexer.inBlock then lexer.blockScalar false
  else if c == '>' && lexer.inBlock then lexer.blockScalar true
  else if c == '\x27' || c == '\x22' then lexer.word (quoted c)
  else if startsPlain lexer.inBlock c next then lexer.plain
  else .error .malformed

/-- Read tokens up to the end of the text. -/
def readAll : (fuel : Nat) → Lexer → Except Fault Lexer
  | 0, lexer => .ok lexer
  | fuel + 1, lexer => do
    let lexer ← (lexer.skipBlanks (lexer.cursor.rest.length + 1)).dropStale
    let lexer := lexer.unwind lexer.cursor.column
    match lexer.cursor.peek with
    | none => lexer.endBlocks
    | some c => readAll fuel (← lexer.tokenAt c)

/-- The tokens that open a key before the token of a number. -/
def keyTokens (keys : List (Nat × Bool)) (number : Nat) : List Token :=
  match keys.lookup number with
  | none => []
  | some opened => if opened then [.blockMappingStart, .key] else [.key]

/-- The tokens with those that open keys in their places. -/
def placeKeys (keys : List (Nat × Bool)) : Nat → List Token → List Token
  | _, [] => []
  | number, token :: tokens => keyTokens keys number ++ token :: placeKeys keys (number + 1) tokens

end Lexer

/-- The tokens of a text. A byte order mark at its start is passed by. -/
def tokens (text : List Char) : Except Fault (List Token) := do
  if !text.all isAllowed then throw .malformed
  let start : Cursor := { rest := text }
  let start := if start.peek == some '\ufeff' then start.next else start
  let lexer ← Lexer.readAll (text.length + 1) { cursor := start }
  return Lexer.placeKeys lexer.keys 0 lexer.tokens.reverse

end ApiOutline.Yaml
