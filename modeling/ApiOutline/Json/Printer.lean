import ApiOutline.Json.Basic
import ApiOutline.Number.Shortest
import ApiOutline.Text.Quoted

/-!
# Writing JSON

`Json.write` lays a document out with one item or field on a line, two spaces deeper than its
container; an empty container stays on one line. `Json.line` writes it on a single line. Characters
outside ASCII are kept or escaped, as the style says. A document has a text only if no whole number in it
has too many digits: `Json.dump` fails for any other.
-/

namespace ApiOutline.Json

open Number (Format Unwritable)
open Text (hexDigits)

/-- Floating-point numbers in JSON: without exponent from `1e-4` up to below `1e16`. -/
def numberFormat : Format where
  positional := fun p => -4 < p && p ≤ 16
  exponentWidth := 2
  nan := "NaN"
  infinity := "Infinity"

/-- How a document is written. -/
structure Style where
  /-- Escape every character outside printable ASCII. -/
  asciiOnly : Bool
  /-- Put each item and field on a line of its own. -/
  spread : Bool

/-- An escape by one UTF-16 code unit. -/
def escapeUnit (unit : Nat) : List Char :=
  '\\' :: 'u' :: hexDigits 4 unit

/-- An escape by code point: one unit, or the two units of a surrogate pair. -/
def escapeCode (n : Nat) : List Char :=
  if n < 0x10000 then escapeUnit n
  else
    let rest := n - 0x10000
    escapeUnit (0xD800 + rest / 0x400) ++ escapeUnit (0xDC00 + rest % 0x400)

/-- One character of a string. -/
def writeChar (asciiOnly : Bool) (c : Char) : List Char :=
  if c = '\x22' ∨ c = '\\' then ['\\', c]
  else if c = '\n' then ['\\', 'n']
  else if c = '\r' then ['\\', 'r']
  else if c = '\t' then ['\\', 't']
  else if c = '\x0c' then ['\\', 'f']
  else if c = '\x08' then ['\\', 'b']
  else if c.toNat < 0x20 ∨ (asciiOnly = true ∧ 0x7F ≤ c.toNat) then escapeCode c.toNat
  else [c]

/-- A string in quotes. -/
def writeString (asciiOnly : Bool) (s : String) : List Char :=
  '\x22' :: s.toList.flatMap (writeChar asciiOnly) ++ ['\x22']

/-- The break before an item or the end of a container at the given depth. -/
def Style.newLine (style : Style) (depth : Nat) : List Char :=
  if style.spread then '\n' :: List.replicate (2 * depth) ' ' else []

mutual

/-- A document inside `depth` containers. -/
def writeAt (style : Style) (depth : Nat) : Json → List Char
  | .null => "null".toList
  | .bool true => "true".toList
  | .bool false => "false".toList
  | .int i => Number.ofInt i
  | .float x => numberFormat.write x
  | .str s => writeString style.asciiOnly s
  | .arr [] => "[]".toList
  | .arr (item :: items) =>
    '[' :: style.newLine (depth + 1) ++ writeAt style (depth + 1) item ++
      writeItems style depth items
  | .obj [] => "\x7b\x7d".toList
  | .obj ((key, value) :: fields) =>
    '\x7b' :: style.newLine (depth + 1) ++ writeString style.asciiOnly key ++
      ':' :: ' ' :: writeAt style (depth + 1) value ++ writeFields style depth fields

/-- The items after the first, and the end of the array. -/
def writeItems (style : Style) (depth : Nat) : List Json → List Char
  | [] => style.newLine depth ++ [']']
  | item :: items =>
    ',' :: style.newLine (depth + 1) ++ writeAt style (depth + 1) item ++
      writeItems style depth items

/-- The fields after the first, and the end of the object. -/
def writeFields (style : Style) (depth : Nat) : List (String × Json) → List Char
  | [] => style.newLine depth ++ ['\x7d']
  | (key, value) :: fields =>
    ',' :: style.newLine (depth + 1) ++ writeString style.asciiOnly key ++
      ':' :: ' ' :: writeAt style (depth + 1) value ++ writeFields style depth fields

end

/-- The document as text. -/
def write (style : Style) (doc : Json) : String :=
  String.ofList (writeAt style 0 doc)

mutual

/-- Whether every whole number of a document can be written. -/
def isWritable : Json → Bool
  | .int i => Number.isWritable i
  | .arr items => areWritable items
  | .obj fields => fieldsWritable fields
  | .null | .bool _ | .float _ | .str _ => true

/-- `isWritable`, item by item. -/
def areWritable : List Json → Bool
  | [] => true
  | item :: items => item.isWritable && areWritable items

/-- `isWritable`, on the values of fields. -/
def fieldsWritable : List (String × Json) → Bool
  | [] => true
  | (_, value) :: fields => value.isWritable && fieldsWritable fields

end

/-- The text of a document, if its numbers can be written. -/
def dump (style : Style) (doc : Json) : Except Unwritable String :=
  if doc.isWritable then .ok (doc.write style) else .error {}

/-- The document on one line. -/
def line (doc : Json) : String :=
  write ⟨false, false⟩ doc

end ApiOutline.Json
