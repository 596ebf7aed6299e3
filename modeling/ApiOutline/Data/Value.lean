import ApiOutline.Data.Calendar
import ApiOutline.Json.Basic
import ApiOutline.Number.Shortest
import ApiOutline.Text.Lines
import ApiOutline.Text.Quoted
import ApiOutline.Text.Utf8

/-!
# Values of settings files

What a settings file can hold. A JSON document is such a value; a YAML document may also hold dates,
bytes, sets and mappings with any keys. `text` shows a value on its own and `literal` inside another
value, where texts are quoted; only values that are `isWritable` are shown.
-/

namespace ApiOutline.Data

open Number (Binary64 Format)
open Text (Bytes join)

/-- A value of a settings file. -/
inductive Value where
  | null
  | bool (value : Bool)
  | int (value : Int)
  | float (value : Binary64)
  | str (value : String)
  | date (value : Date)
  | moment (value : Moment)
  | binary (value : Bytes)
  | list (items : List Value)
  | map (entries : List (Value × Value))
  | set (items : List Value)
  /-- A list of pairs of a key and a value. -/
  | pairs (entries : List (Value × Value))
  /-- A list or a mapping that contains itself, at the place where it does. -/
  | again (isMap : Bool)

namespace Value

/-- Floating-point numbers in messages: without exponent from `1e-4` up to below `1e16`. -/
def numberFormat : Format where
  positional := fun p => -4 < p && p ≤ 16
  exponentWidth := 2
  nan := "nan"
  infinity := "inf"

/-- One byte between the given quotes: printable ASCII as it is, the rest escaped. -/
def byteLiteral (quote : Char) (b : UInt8) : List Char :=
  let c := Char.ofNat b.toNat
  if 0x80 ≤ b then Text.escapeCode b.toNat else Text.quoteChar quote c

/-- Bytes in quotes. -/
def bytesLiteral (bytes : Bytes) : List Char :=
  let quote := Text.quoteFor (bytes.map fun b => Char.ofNat b.toNat)
  'b' :: quote :: bytes.flatMap (byteLiteral quote) ++ [quote]

mutual

/-- A value as it is shown inside another value. -/
def literal : Value → List Char
  | .null => "None".toList
  | .bool true => "True".toList
  | .bool false => "False".toList
  | .int i => Number.ofInt i
  | .float x => numberFormat.write x
  | .str s => (Text.quoted s).toList
  | .date d => d.literal
  | .moment m => m.literal
  | .binary b => bytesLiteral b
  | .list items => '[' :: join ", ".toList (itemLiterals items) ++ [']']
  | .map entries => '\x7b' :: join ", ".toList (entryLiterals entries) ++ ['\x7d']
  | .set [] => "set()".toList
  | .set (item :: items) => '\x7b' :: join ", ".toList (literal item :: itemLiterals items) ++ ['\x7d']
  | .pairs entries => '[' :: join ", ".toList (pairLiterals entries) ++ [']']
  | .again true => "\x7b...\x7d".toList
  | .again false => "[...]".toList

/-- `literal`, item by item. -/
def itemLiterals : List Value → List (List Char)
  | [] => []
  | item :: items => literal item :: itemLiterals items

/-- The entries of a mapping. -/
def entryLiterals : List (Value × Value) → List (List Char)
  | [] => []
  | (key, value) :: entries => (literal key ++ ": ".toList ++ literal value) :: entryLiterals entries

/-- The entries of a list of pairs. -/
def pairLiterals : List (Value × Value) → List (List Char)
  | [] => []
  | (key, value) :: entries =>
    ('(' :: literal key ++ ", ".toList ++ literal value ++ [')']) :: pairLiterals entries

end

/-- A value as it is shown on its own. -/
def text : Value → List Char
  | .str s => s.toList
  | .date d => d.text
  | .moment m => m.text
  | other => other.literal

mutual

/-- Whether every integer in a value can be written. -/
def isWritable : Value → Bool
  | .int i => Number.isWritable i
  | .list items => areWritable items
  | .map entries => entriesWritable entries
  | .set items => areWritable items
  | .pairs entries => entriesWritable entries
  | _ => true

/-- `isWritable`, item by item. -/
def areWritable : List Value → Bool
  | [] => true
  | item :: items => item.isWritable && areWritable items

/-- `isWritable`, on entries. -/
def entriesWritable : List (Value × Value) → Bool
  | [] => true
  | (key, value) :: entries => key.isWritable && value.isWritable && entriesWritable entries

end

/-- The name of the type of a value. -/
def typeName : Value → String
  | .null => "NoneType"
  | .bool _ => "bool"
  | .int _ => "int"
  | .float _ => "float"
  | .str _ => "str"
  | .date _ => "date"
  | .moment _ => "datetime"
  | .binary _ => "bytes"
  | .list _ | .pairs _ | .again false => "list"
  | .map _ | .again true => "dict"
  | .set _ => "set"

/-- The integer that a Boolean, integer or floating-point value equals. -/
def toInt? : Value → Option Int
  | .bool b => some (if b then 1 else 0)
  | .int i => some i
  | .float x => x.toInt?
  | _ => none

/-- Whether two values are the same key of a mapping. Numbers are compared by their values. -/
def sameKey (a b : Value) : Bool :=
  match a, b with
  | .null, .null => true
  | .str s, .str t => s == t
  | .date d, .date e => d == e
  | .moment m, .moment n => m == n
  | .binary x, .binary y => x == y
  | .float x, .float y => x != .nan && (x == y || (x.isZero && y.isZero))
  | a, b =>
    match a.toInt?, b.toInt? with
    | some i, some j => i == j
    | _, _ => false

/-- Whether a value can be a key. -/
def isKey : Value → Bool
  | .list _ | .map _ | .set _ | .pairs _ | .again _ => false
  | _ => true

/-- Put an entry: a key that is already there keeps its place and takes the new value. -/
def putEntry (key value : Value) : List (Value × Value) → List (Value × Value)
  | [] => [(key, value)]
  | entry :: rest =>
    if entry.1.sameKey key then (entry.1, value) :: rest else entry :: putEntry key value rest

/-- The entries in the order in which their keys were first put, each with its last value. -/
def entriesOf (pairs : List (Value × Value)) : List (Value × Value) :=
  pairs.foldl (fun entries pair => putEntry pair.1 pair.2 entries) []

/-- The value of a text key. -/
def entry? (key : String) (entries : List (Value × Value)) : Option Value :=
  (entries.find? fun entry => entry.1.sameKey (.str key)).map (·.2)

mutual

/-- A JSON document as a value. -/
def ofJson : Json → Value
  | .null => .null
  | .bool b => .bool b
  | .int i => .int i
  | .float x => .float x
  | .str s => .str s
  | .arr items => .list (ofItems items)
  | .obj fields => .map (ofFields fields)

/-- `ofJson`, item by item. -/
def ofItems : List Json → List Value
  | [] => []
  | item :: items => ofJson item :: ofItems items

/-- `ofJson`, on fields. -/
def ofFields : List (String × Json) → List (Value × Value)
  | [] => []
  | (key, value) :: fields => (.str key, ofJson value) :: ofFields fields

end

end Value

end ApiOutline.Data
