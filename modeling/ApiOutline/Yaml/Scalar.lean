import ApiOutline.Text.Utf8
import ApiOutline.Yaml.Cursor

/-!
# YAML scalars

How the text of a scalar is read: in a block, between quotes, or plain. A single line end inside a
quoted, plain or folded scalar becomes a space, and more of them become one less. The loops are given
the number of characters left as fuel; each round takes at least one character.
-/

namespace ApiOutline.Yaml

/-- What a line end and the line ends after it become when a text is folded. -/
def fold (lineEnd : Char) (more : List Char) : List Char :=
  if lineEnd ≠ '\n' then lineEnd :: more
  else if more.isEmpty then [' '] else more

/-- What is done with the line ends at the end of a block. -/
inductive Chomping where
  | strip
  | clip
  | keep
deriving DecidableEq, Repr

/-- The chomping of an indicator. -/
def Chomping.of? : Option Char → Option Chomping
  | some '-' => some .strip
  | some '+' => some .keep
  | _ => none

namespace Cursor

/-- An indentation indicator, which is a digit other than zero. -/
def increment? (cursor : Cursor) : Except Fault (Option Nat × Cursor) :=
  match cursor.peek with
  | some '0' => .error .malformed
  | some c =>
    if Number.isDigit c then .ok (some (c.toNat - 48), cursor.next) else .ok (none, cursor)
  | none => .ok (none, cursor)

/-- The indicators of a block, in either order. -/
def blockIndicators (cursor : Cursor) : Except Fault (Chomping × Option Nat × Cursor) := do
  match Chomping.of? cursor.peek with
  | some chomping =>
    let (increment, cursor) ← cursor.next.increment?
    if endsWord cursor.peek then return (chomping, increment, cursor) else throw .malformed
  | none =>
    let (increment, cursor) ← cursor.increment?
    let chomping := if increment.isSome then Chomping.of? cursor.peek else none
    let cursor := if chomping.isSome then cursor.next else cursor
    if endsWord cursor.peek then return (chomping.getD .clip, increment, cursor)
    else throw .malformed

/-- Pass spaces up to a column. -/
def skipIndent (indent : Nat) (cursor : Cursor) : Cursor :=
  cursor.skip (min (indent - cursor.column) (cursor.rest.takeWhile (· == ' ')).length)

/-- The line ends of lines that are empty up to a column, and the place after them and the spaces
that follow. -/
def blockBreaks (indent : Nat) : (fuel : Nat) → Cursor → List Char × Cursor
  | 0, cursor => ([], cursor.skipIndent indent)
  | fuel + 1, cursor =>
    let cursor := cursor.skipIndent indent
    match cursor.lineBreak with
    | (none, _) => ([], cursor)
    | (some c, cursor) =>
      let (breaks, cursor) := blockBreaks indent fuel cursor
      (c :: breaks, cursor)

/-- The line ends before the first line with a text, the greatest column of a space before it, and
the place of the text. -/
def blockIndentation : (fuel : Nat) → Nat → Cursor → List Char × Nat × Cursor
  | 0, widest, cursor => ([], widest, cursor)
  | fuel + 1, widest, cursor =>
    if cursor.peek == some ' ' then
      let cursor := cursor.next
      blockIndentation fuel (max widest cursor.column) cursor
    else
      match cursor.lineBreak with
      | (none, _) => ([], widest, cursor)
      | (some c, cursor) =>
        let (breaks, widest, cursor) := blockIndentation fuel widest cursor
        (c :: breaks, widest, cursor)

/-- Whether a line of a block with the given indentation starts here. -/
def inBlock (indent : Nat) (cursor : Cursor) : Bool :=
  cursor.column == indent && cursor.peek.isSome

/-- The lines of a block from here, after some empty lines: their text, the last line end, and the
line ends after it. -/
def blockLines (folded : Bool) (indent : Nat) : (fuel : Nat) → List Char → Cursor →
    List Char × Option Char × List Char × Cursor
  | 0, breaks, cursor => ([], none, breaks, cursor)
  | fuel + 1, breaks, cursor =>
    if cursor.inBlock indent then
      let flush := !cursor.peek.any isSpaceOrTab
      let (line, cursor) := cursor.span (!isBreak ·)
      let (lineEnd, cursor) := cursor.lineBreak
      let (next, cursor) := blockBreaks indent cursor.rest.length cursor
      if cursor.inBlock indent then
        let joined :=
          if folded && lineEnd == some '\n' && flush && !cursor.peek.any isSpaceOrTab then
            if next.isEmpty then [' '] else []
          else lineEnd.toList
        let (text, last, trailing, cursor) := blockLines folded indent fuel next cursor
        (breaks ++ line ++ joined ++ text, last, trailing, cursor)
      else (breaks ++ line, lineEnd, next, cursor)
    else ([], none, breaks, cursor)

/-- A block after its mark, inside a collection with the given indentation. -/
def blockScalar (folded : Bool) (outer : Int) (cursor : Cursor) :
    Except Fault (List Char × Cursor) := do
  let (chomping, increment, cursor) ← cursor.blockIndicators
  let cursor ← cursor.restOfLine
  let least := (max (outer + 1) 1).toNat
  let (breaks, indent, cursor) :=
    match increment with
    | some increment =>
      let indent := least + increment - 1
      let (breaks, cursor) := blockBreaks indent cursor.rest.length cursor
      (breaks, indent, cursor)
    | none =>
      let (breaks, widest, cursor) := blockIndentation cursor.rest.length 0 cursor
      (breaks, max least widest, cursor)
  let (text, last, trailing, cursor) := blockLines folded indent (cursor.rest.length + 1) breaks cursor
  return (text ++ (if chomping = .strip then [] else last.toList) ++
    (if chomping = .keep then trailing else []), cursor)

/-- The line ends of empty lines inside quotes, where no document marker may stand. -/
def quotedBreaks : (fuel : Nat) → Cursor → Except Fault (List Char × Cursor)
  | 0, cursor => .ok ([], cursor)
  | fuel + 1, cursor =>
    if cursor.atMarker then .error .malformed
    else
      let cursor := cursor.skipWhile isSpaceOrTab
      match cursor.lineBreak with
      | (none, _) => .ok ([], cursor)
      | (some c, cursor) => do
        let (breaks, cursor) ← quotedBreaks fuel cursor
        return (c :: breaks, cursor)

/-- The character that a one-letter escape stands for. -/
def shortEscape? : Char → Option Char
  | '0' => some '\x00'
  | 'a' => some '\x07'
  | 'b' => some '\x08'
  | 't' => some '\t'
  | '\t' => some '\t'
  | 'n' => some '\n'
  | 'v' => some '\x0b'
  | 'f' => some '\x0c'
  | 'r' => some '\r'
  | 'e' => some '\x1b'
  | ' ' => some ' '
  | '\x22' => some '\x22'
  | '\\' => some '\\'
  | '/' => some '/'
  | 'N' => some '\x85'
  | '_' => some '\xa0'
  | 'L' => some '\u2028'
  | 'P' => some '\u2029'
  | _ => none

/-- The number of hexadecimal digits of an escape by code point. -/
def escapeWidth? : Char → Option Nat
  | 'x' => some 2
  | 'u' => some 4
  | 'U' => some 8
  | _ => none

/-- An escape after its backslash: what it stands for. A line end stands for the empty lines after
it. -/
def escape (cursor : Cursor) : Except Fault (List Char × Cursor) :=
  match cursor.peek with
  | none => .error .malformed
  | some c =>
    match shortEscape? c, escapeWidth? c with
    | some escaped, _ => .ok ([escaped], cursor.next)
    | none, some width =>
      let digits := (cursor.next.rest.take width).takeWhile Number.isHexDigit
      let code := Number.valueIn 16 digits
      if digits.length < width then .error .malformed
      else if 0x110000 ≤ code then .error (.codePoint code)
      else .ok ([if code.isValidChar then Char.ofNat code else '\ufffd'], cursor.next.skip width)
    | none, none =>
      if isBreak c then
        let cursor := cursor.lineBreak.2
        quotedBreaks (cursor.rest.length + 1) cursor
      else .error .malformed

/-- The text of a quoted scalar after its first quote. -/
def quotedText (quote : Char) : (fuel : Nat) → Cursor → Except Fault (List Char × Cursor)
  | 0, _ => .error .malformed
  | fuel + 1, cursor => do
    match cursor.peek with
    | none => throw .malformed
    | some c =>
      if c == quote then
        if quote == '\x27' && cursor.peekAt 1 == some '\x27' then
          let (text, cursor) ← quotedText quote fuel (cursor.skip 2)
          return (c :: text, cursor)
        else return ([], cursor.next)
      else if quote == '\x22' && c == '\\' then
        let (escaped, cursor) ← cursor.next.escape
        let (text, cursor) ← quotedText quote fuel cursor
        return (escaped ++ text, cursor)
      else if isGap (some c) then
        let (blanks, cursor) := cursor.span isSpaceOrTab
        match cursor.lineBreak with
        | (none, _) =>
          let (text, cursor) ← quotedText quote fuel cursor
          return (blanks ++ text, cursor)
        | (some lineEnd, cursor) =>
          let (breaks, cursor) ← quotedBreaks (cursor.rest.length + 1) cursor
          let (text, cursor) ← quotedText quote fuel cursor
          return (fold lineEnd breaks ++ text, cursor)
      else
        let (text, cursor) ← quotedText quote fuel cursor.next
        return (c :: text, cursor)

/-- A quoted scalar. -/
def quotedScalar (quote : Char) (cursor : Cursor) : Except Fault (List Char × Cursor) :=
  quotedText quote (cursor.rest.length + 1) cursor.next

/-- The word of a plain scalar at the start of a text. It ends at a blank and at a colon before a
blank; in a flow collection also at the marks of the collection. -/
def plainWord (inFlow : Bool) : List Char → List Char
  | [] => []
  | c :: rest =>
    let marks := [',', '[', ']', '\x7b', '\x7d']
    let ends := isGap (some c) ||
      (c == ':' && (isGap rest.head? || (inFlow && rest.head?.any marks.contains))) ||
      (inFlow && (c == '?' || marks.contains c))
    if ends then [] else c :: plainWord inFlow rest

/-- The line ends of the empty lines in a plain scalar, or nothing at a document marker. -/
def plainBreaks : (fuel : Nat) → Cursor → Option (List Char) × Cursor
  | 0, cursor => (some [], cursor)
  | fuel + 1, cursor =>
    let cursor := cursor.skipWhile (· == ' ')
    match cursor.lineBreak with
    | (none, _) => (some [], cursor)
    | (some c, cursor) =>
      if cursor.atMarker then (none, cursor)
      else
        let (breaks, cursor) := plainBreaks fuel cursor
        (breaks.map (c :: ·), cursor)

/-- What stands between two words of a plain scalar, and whether a line ends there. Nothing stands
there at the end of the scalar. -/
def plainGap (cursor : Cursor) : List Char × Bool × Cursor :=
  let (spaces, cursor) := cursor.span (· == ' ')
  match cursor.lineBreak with
  | (none, _) => (spaces, false, cursor)
  | (some lineEnd, cursor) =>
    if cursor.atMarker then ([], true, cursor)
    else
      match plainBreaks (cursor.rest.length + 1) cursor with
      | (none, cursor) => ([], true, cursor)
      | (some breaks, cursor) => (fold lineEnd breaks, true, cursor)

/-- The words of a plain scalar from here after a gap, and whether a line ends after the last. -/
def plainText (inFlow : Bool) (indent : Int) : (fuel : Nat) → List Char → Bool → Cursor →
    List Char × Bool × Cursor
  | 0, _, atLineEnd, cursor => ([], atLineEnd, cursor)
  | fuel + 1, gap, atLineEnd, cursor =>
    let word := plainWord inFlow cursor.rest
    if word.isEmpty then ([], atLineEnd, cursor)
    else
      let (next, atLineEnd, cursor) := (cursor.skip word.length).plainGap
      if next.isEmpty || cursor.peek == some '#' || (!inFlow && (cursor.column : Int) < indent) then
        (gap ++ word, atLineEnd, cursor)
      else
        let (text, atLineEnd, cursor) := plainText inFlow indent fuel next atLineEnd cursor
        (gap ++ word ++ text, atLineEnd, cursor)

/-- A plain scalar inside a collection with the given indentation, and whether a line ends after
it. -/
def plainScalar (inFlow : Bool) (outer : Int) (cursor : Cursor) : List Char × Bool × Cursor :=
  plainText inFlow (outer + 1) (cursor.rest.length + 1) [] false cursor

end Cursor

end ApiOutline.Yaml
