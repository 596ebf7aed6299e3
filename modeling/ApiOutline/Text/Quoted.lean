import ApiOutline.Text.Printable

/-!
# Quoted texts

How a text is shown inside a message: in single quotes, or in double quotes when it holds a single
quote and no double quote. The quote in use and the backslash are escaped, line feed, carriage return
and tab have short escapes, and what is not printable is written by its code point in hexadecimal.
-/

namespace ApiOutline.Text

/-- The last `width` hexadecimal digits of a number, in lower case. -/
def hexDigits : (width : Nat) → Nat → List Char
  | 0, _ => []
  | width + 1, n => hexDigits width (n / 16) ++ [Nat.digitChar (n % 16)]

/-- An escape by code point: two, four or eight digits, as few as fit. -/
def escapeCode (n : Nat) : List Char :=
  if n < 0x100 then '\\' :: 'x' :: hexDigits 2 n
  else if n < 0x10000 then '\\' :: 'u' :: hexDigits 4 n
  else '\\' :: 'U' :: hexDigits 8 n

/-- One character of a text between the given quotes. -/
def quoteChar (quote : Char) (c : Char) : List Char :=
  if c = quote ∨ c = '\\' then ['\\', c]
  else if c = '\n' then ['\\', 'n']
  else if c = '\r' then ['\\', 'r']
  else if c = '\t' then ['\\', 't']
  else if isPrintable c then [c]
  else escapeCode c.toNat

/-- The quote for a text: single, unless only the double quote needs no escape. -/
def quoteFor (cs : List Char) : Char :=
  if '\x27' ∈ cs ∧ '\x22' ∉ cs then '\x22' else '\x27'

/-- The text in quotes. -/
def quoted (s : String) : String :=
  let cs := s.toList
  let quote := quoteFor cs
  String.ofList (quote :: cs.flatMap (quoteChar quote) ++ [quote])

end ApiOutline.Text
