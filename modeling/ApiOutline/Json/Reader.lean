import ApiOutline.Json.Basic
import ApiOutline.Number.Decimal

/-!
# Reading JSON

`Json.parse` reads one document with nothing but white space around it. Besides the standard it
takes `NaN`, `Infinity` and `-Infinity` as numbers. Strings hold no raw control characters. A whole
number with too many digits is refused with a fault of its own.

Each reader returns what it read together with the rest of the text. Values are read with fuel, of
which the length of the text is always enough: every value takes at least one character.
-/

namespace ApiOutline.Json

open Number (Binary64 TooManyDigits isDigit hexValue?)

/-- Why a text is not read. -/
inductive Fault where
  /-- The text is not JSON. -/
  | malformed
  /-- A whole number has too many digits. -/
  | tooManyDigits (fault : TooManyDigits)
deriving DecidableEq, Repr

/-- Blanks between tokens. -/
def isSpace (c : Char) : Bool :=
  c == ' ' || c == '\t' || c == '\n' || c == '\r'

/-- Drop blanks. -/
def skipSpace (cs : List Char) : List Char :=
  cs.dropWhile isSpace

/-- The value of four hexadecimal digits. -/
def hexUnit? (a b c d : Char) : Option Nat := do
  return ((← hexValue? a) * 16 + (← hexValue? b)) * 256 + (← hexValue? c) * 16 + (← hexValue? d)

/-- The character that a one-letter escape stands for. -/
def shortEscape? : Char → Option Char
  | '\x22' => some '\x22'
  | '\\' => some '\\'
  | '/' => some '/'
  | 'b' => some '\x08'
  | 'f' => some '\x0c'
  | 'n' => some '\n'
  | 'r' => some '\r'
  | 't' => some '\t'
  | _ => none

/-- The code points and escaped units of a string up to its closing quote, and the rest. -/
def readUnits : List Char → Except Fault (List Nat × List Char)
  | [] => .error .malformed
  | '\x22' :: rest => .ok ([], rest)
  | '\\' :: 'u' :: a :: b :: c :: d :: rest =>
    match hexUnit? a b c d with
    | none => .error .malformed
    | some unit => (readUnits rest).map fun (units, rest) => (unit :: units, rest)
  | '\\' :: e :: rest =>
    match shortEscape? e with
    | none => .error .malformed
    | some c => (readUnits rest).map fun (units, rest) => (c.toNat :: units, rest)
  | c :: rest =>
    if c.toNat < 0x20 then .error .malformed
    else (readUnits rest).map fun (units, rest) => (c.toNat :: units, rest)

/-- Code points from units: a high surrogate followed by a low one is one character. A surrogate without
its partner is no character of a text here: `Char.ofNat` reads it as the null character, so a document that
escapes one is read as one that escapes the null character in its place. -/
def joinUnits : List Nat → List Char
  | [] => []
  | [unit] => [Char.ofNat unit]
  | high :: low :: rest =>
    if 0xD800 ≤ high ∧ high < 0xDC00 ∧ 0xDC00 ≤ low ∧ low < 0xE000 then
      Char.ofNat (0x10000 + (high - 0xD800) * 0x400 + (low - 0xDC00)) :: joinUnits rest
    else Char.ofNat high :: joinUnits (low :: rest)

/-- A string after its opening quote. -/
def readString (cs : List Char) : Except Fault (String × List Char) :=
  (readUnits cs).map fun (units, rest) => (String.ofList (joinUnits units), rest)

/-- The fraction of a number: a point and at least one digit. -/
def readFraction : List Char → Option (List Char × List Char)
  | '.' :: cs =>
    let ds := cs.takeWhile isDigit
    if ds.isEmpty then none else some (ds, cs.dropWhile isDigit)
  | _ => none

/-- The exponent of a number: a mark, an optional sign and at least one digit. -/
def readExponent : List Char → Option (Int × List Char)
  | [] => none
  | mark :: cs =>
    if mark = 'e' ∨ mark = 'E' then
      let (negative, cs) :=
        match cs with
        | '-' :: r => (true, r)
        | '+' :: r => (false, r)
        | r => (false, r)
      let ds := cs.takeWhile isDigit
      if ds.isEmpty then none
      else
        let size : Int := Number.value ds
        some (if negative then -size else size, cs.dropWhile isDigit)
    else none

/-- The digits before the point: a single zero, or digits that do not start with zero. -/
def readWhole : List Char → Option (List Char × List Char)
  | '0' :: cs => some (['0'], cs)
  | cs =>
    let ds := cs.takeWhile isDigit
    if ds.isEmpty then none else some (ds, cs.dropWhile isDigit)

/-- A number after its sign. -/
def readNumber (negative : Bool) (cs : List Char) : Except Fault (Json × List Char) :=
  match readWhole cs with
  | none => .error .malformed
  | some (whole, rest) =>
    let (fraction, afterFraction) := (readFraction rest).getD ([], rest)
    let (exponent, afterExponent) := (readExponent afterFraction).getD (0, afterFraction)
    if afterExponent.length = rest.length then
      match Number.limitedValue whole with
      | .error fault => .error (.tooManyDigits fault)
      | .ok size => .ok (.int (if negative then -(size : Int) else size), rest)
    else
      let mantissa := Number.value (whole ++ fraction)
      .ok (.float (Binary64.ofDecimal negative mantissa (exponent - fraction.length)), afterExponent)

/-- The words that are values. -/
def words : List (List Char × Json) :=
  [("null".toList, .null), ("true".toList, .bool true), ("false".toList, .bool false),
    ("NaN".toList, .float .nan), ("Infinity".toList, .float (.infinite false)),
    ("-Infinity".toList, .float (.infinite true))]

/-- A word at the start of the text. -/
def readWord? (cs : List Char) : Option (Json × List Char) :=
  words.findSome? fun (word, value) =>
    if word.isPrefixOf cs then some (value, cs.drop word.length) else none

mutual

/-- A value at the start of the text. -/
def readValue : (fuel : Nat) → List Char → Except Fault (Json × List Char)
  | 0, _ => .error .malformed
  | fuel + 1, cs =>
    match cs with
    | [] => .error .malformed
    | '\x22' :: rest => (readString rest).map fun (s, rest) => (.str s, rest)
    | '[' :: rest =>
      match skipSpace rest with
      | ']' :: rest => .ok (.arr [], rest)
      | rest => (readItems fuel rest).map fun (items, rest) => (.arr items, rest)
    | '\x7b' :: rest =>
      match skipSpace rest with
      | '\x7d' :: rest => .ok (.obj [], rest)
      | rest => (readFields fuel rest).map fun (fields, rest) => (.obj (fieldsOf fields), rest)
    | _ =>
      match readWord? cs with
      | some found => .ok found
      | none =>
        match cs with
        | '-' :: rest => readNumber true rest
        | _ => readNumber false cs

/-- The items of an array up to its closing bracket. -/
def readItems : (fuel : Nat) → List Char → Except Fault (List Json × List Char)
  | 0, _ => .error .malformed
  | fuel + 1, cs =>
    match readValue fuel cs with
    | .error fault => .error fault
    | .ok (item, rest) =>
      match skipSpace rest with
      | ']' :: rest => .ok ([item], rest)
      | ',' :: rest =>
        (readItems fuel (skipSpace rest)).map fun (items, rest) => (item :: items, rest)
      | _ => .error .malformed

/-- The fields of an object up to its closing brace. -/
def readFields : (fuel : Nat) → List Char → Except Fault (List (String × Json) × List Char)
  | 0, _ => .error .malformed
  | fuel + 1, cs =>
    match cs with
    | '\x22' :: rest =>
      match readString rest with
      | .error fault => .error fault
      | .ok (key, rest) =>
        match skipSpace rest with
        | ':' :: rest =>
          match readValue fuel (skipSpace rest) with
          | .error fault => .error fault
          | .ok (value, rest) =>
            match skipSpace rest with
            | '\x7d' :: rest => .ok ([(key, value)], rest)
            | ',' :: rest =>
              (readFields fuel (skipSpace rest)).map fun (fields, rest) =>
                ((key, value) :: fields, rest)
            | _ => .error .malformed
        | _ => .error .malformed
    | _ => .error .malformed

end

/-- The document that a text holds. -/
def parse (text : List Char) : Except Fault Json :=
  match readValue (2 * text.length + 2) (skipSpace text) with
  | .error fault => .error fault
  | .ok (doc, rest) => if (skipSpace rest).isEmpty then .ok doc else .error .malformed

/-- The document that a string holds. -/
def parseString (s : String) : Except Fault Json :=
  parse s.toList

end ApiOutline.Json
