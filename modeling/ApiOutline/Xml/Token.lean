import ApiOutline.Number.Decimal
import ApiOutline.Xml.Name

/-!
# Tokens of XML content

`tokens?` divides the content of an element into characters and tags. References are replaced by the
characters they stand for, comments and processing instructions vanish, and a character data section
gives its characters. The content is refused where it is not well-formed: a character that no
document may hold, an unknown reference, a stray `]]>`, two hyphens in a comment, an instruction for
the reserved target, a tag or attribute that does not close.
-/

namespace ApiOutline.Xml

open Number (isDigit isHexDigit valueIn)

/-- A piece of content. -/
inductive Token where
  /-- Characters of text. -/
  | chars (cs : List Char)
  /-- A start tag; `closed` if the element is empty. -/
  | opening (name : QName) (attributes : List (QName × List Char)) (closed : Bool)
  /-- An end tag. -/
  | closing (name : QName)
deriving DecidableEq, Repr

/-- The character with the given code point, if a document may hold it. -/
def charOfCode? (n : Nat) : Option Char :=
  if n < 0x110000 ∧ ¬(0xD800 ≤ n ∧ n < 0xE000) then
    let c := Char.ofNat n
    if isXmlChar c then some c else none
  else none

/-- The five names that every document may refer to. -/
def predefined : List (List Char × Char) :=
  [("lt".toList, '<'), ("gt".toList, '>'), ("amp".toList, '&'), ("quot".toList, '\x22'),
    ("apos".toList, '\x27')]

/-- The character that a reference stands for, given what lies between `&` and `;`. -/
def resolve? : List Char → Option Char
  | '#' :: 'x' :: ds =>
    if !ds.isEmpty && ds.all isHexDigit then charOfCode? (valueIn 16 ds)
    else none
  | '#' :: ds => if !ds.isEmpty && ds.all isDigit then charOfCode? (valueIn 10 ds) else none
  | name => predefined.lookup name

/-- A reference after its `&`. -/
def readReference? (cs : List Char) : Option (Char × List Char) :=
  match cs.dropWhile (· != ';') with
  | ';' :: rest => (resolve? (cs.takeWhile (· != ';'))).map (·, rest)
  | _ => none

/-- The text of an attribute value, given what lies between its quotes. `pending` holds the part of
an open reference that was read already. Each blank that is written out counts as a space, and a carriage
return with its line feed as one; a blank that a reference stands for is kept. -/
def expandFrom? (pending : Option (List Char)) : List Char → Option (List Char)
  | [] => if pending.isNone then some [] else none
  | c :: cs =>
    match pending with
    | none =>
      if c = '&' then expandFrom? (some []) cs
      else if c = '\r' ∧ cs.head? = some '\n' then expandFrom? none cs
      else if isSpace c then (expandFrom? none cs).map (' ' :: ·)
      else if c ≠ '<' ∧ isXmlChar c = true then (expandFrom? none cs).map (c :: ·)
      else none
    | some name =>
      if c = ';' then do
        let d ← resolve? name
        let rest ← expandFrom? none cs
        return d :: rest
      else expandFrom? (some (name ++ [c])) cs

/-- A comment after its `<!--`: the rest after `-->`. -/
def skipComment? : List Char → Option (List Char)
  | [] => none
  | '-' :: '-' :: '>' :: rest => some rest
  | '-' :: '-' :: _ => none
  | c :: cs => if isXmlChar c then skipComment? cs else none

/-- The characters of a section after its `<![CDATA[`, and the rest after `]]>`. -/
def readSection? : List Char → Option (List Char × List Char)
  | [] => none
  | ']' :: ']' :: '>' :: rest => some ([], rest)
  | c :: cs =>
    if isXmlChar c then (readSection? cs).map fun (inner, rest) => (c :: inner, rest)
    else none

/-- The rest after the `?>` that ends a processing instruction. -/
def skipInstruction? : List Char → Option (List Char)
  | [] => none
  | '?' :: '>' :: rest => some rest
  | c :: cs => if isXmlChar c then skipInstruction? cs else none

/-- A processing instruction after its `<?`: a target other than the reserved one, then the end or
a blank and anything up to the end. -/
def readInstruction? (cs : List Char) : Option (List Char) :=
  match readPart? cs with
  | none => none
  | some (target, rest) =>
    if target.map Char.toLower = "xml".toList then none
    else
      match rest with
      | '?' :: '>' :: rest => some rest
      | c :: rest => if isSpace c then skipInstruction? rest else none
      | [] => none

/-- The end of a start tag: `>` or `/>`. -/
def tagEnd? : List Char → Option (Bool × List Char)
  | '>' :: rest => some (false, rest)
  | '/' :: '>' :: rest => some (true, rest)
  | _ => none

/-- An attribute: its name, an equals sign and a value in quotes of either kind. -/
def readAttribute? (cs : List Char) : Option ((QName × List Char) × List Char) := do
  let (name, rest) ← readName? cs
  match skipSpace rest with
  | '=' :: rest =>
    match skipSpace rest with
    | quote :: rest =>
      if quote = '\x22' ∨ quote = '\x27' then
        match rest.dropWhile (· != quote) with
        | _ :: after => do
          let value ← expandFrom? none (rest.takeWhile (· != quote))
          return ((name, value), after)
        | [] => none
      else none
    | [] => none
  | _ => none

/-- The attributes of a start tag, and how the tag ends. Each attribute follows a blank. -/
def readAttributes? : (fuel : Nat) → List Char →
    Option (List (QName × List Char) × Bool × List Char)
  | 0, _ => none
  | fuel + 1, cs =>
    match tagEnd? cs with
    | some (closed, rest) => some ([], closed, rest)
    | none =>
      match cs with
      | c :: _ =>
        if isSpace c then
          let inner := skipSpace cs
          match tagEnd? inner with
          | some (closed, rest) => some ([], closed, rest)
          | none => do
            let (first, rest) ← readAttribute? inner
            let (others, closed, rest) ← readAttributes? fuel rest
            return (first :: others, closed, rest)
        else none
      | [] => none

/-- A tag, comment, section or instruction after its `<`: the token it gives, if any. -/
def readMarkup? (cs : List Char) : Option (Option Token × List Char) :=
  match cs with
  | '!' :: '-' :: '-' :: rest => (skipComment? rest).map (none, ·)
  | '!' :: '[' :: 'C' :: 'D' :: 'A' :: 'T' :: 'A' :: '[' :: rest =>
    (readSection? rest).map fun (cs, rest) => (some (.chars cs), rest)
  | '?' :: rest => (readInstruction? rest).map (none, ·)
  | '/' :: rest =>
    match readName? rest with
    | none => none
    | some (name, rest) =>
      match skipSpace rest with
      | '>' :: rest => some (some (.closing name), rest)
      | _ => none
  | _ =>
    match readName? cs with
    | none => none
    | some (name, rest) =>
      (readAttributes? (rest.length + 1) rest).map fun (attributes, closed, rest) =>
        (some (.opening name attributes closed), rest)

/-- The tokens of a text, read with fuel. -/
def readTokens? : (fuel : Nat) → List Char → Option (List Token)
  | _, [] => some []
  | 0, _ => none
  | fuel + 1, '<' :: cs => do
    let (token, rest) ← readMarkup? cs
    let tokens ← readTokens? fuel rest
    return token.toList ++ tokens
  | fuel + 1, '&' :: cs => do
    let (c, rest) ← readReference? cs
    let tokens ← readTokens? fuel rest
    return .chars [c] :: tokens
  | fuel + 1, c :: cs =>
    if "]]>".toList.isPrefixOf (c :: cs) then none
    else if isXmlChar c then (readTokens? fuel cs).map (.chars [c] :: ·)
    else none

/-- The tokens of a text. Every token takes at least one character, so the length is fuel enough. -/
def tokens? (cs : List Char) : Option (List Token) :=
  readTokens? cs.length cs

end ApiOutline.Xml
