import ApiOutline.Html.Names
import ApiOutline.Number.Decimal

/-!
# Character references of HTML

`unescape` replaces character references by the characters they stand for, as browsers do: a number
may lack its semicolon, an unknown name is tried by its longest known start, and what is no reference
stays as it is.
-/

namespace ApiOutline.Html

open Number (TooManyDigits isDigit isHexDigit)

/-- The characters that the numbers from 0x80 to 0x9F stand for, by the Windows-1252 code. Numbers
that the code does not assign stand for themselves. -/
def windowsCodes : List Nat :=
  [0x20AC, 0x81, 0x201A, 0x192, 0x201E, 0x2026, 0x2020, 0x2021, 0x2C6, 0x2030, 0x160, 0x2039, 0x152,
    0x8D, 0x17D, 0x8F, 0x90, 0x2018, 0x2019, 0x201C, 0x201D, 0x2022, 0x2013, 0x2014, 0x2DC, 0x2122,
    0x161, 0x203A, 0x153, 0x9D, 0x17E, 0x178]

/-- Code points that a reference cannot give: controls and non-characters. -/
def isForbidden (n : Nat) : Bool :=
  (1 ≤ n && n ≤ 8) || n == 0xB || (0xE ≤ n && n ≤ 0x1F) || (0x7F ≤ n && n ≤ 0x9F) ||
    (0xFDD0 ≤ n && n ≤ 0xFDEF) || 0xFFFE ≤ n % 0x10000

/-- The characters that a number stands for. -/
def ofCode (n : Nat) : List Char :=
  if n = 0 then ['�']
  else if 0x80 ≤ n ∧ n < 0xA0 then [Char.ofNat (windowsCodes.getD (n - 0x80) 0xFFFD)]
  else if (0xD800 ≤ n ∧ n < 0xE000) ∨ 0x10FFFF < n then ['�']
  else if isForbidden n then []
  else [Char.ofNat n]

/-- The longest start of a name, of two or more characters and at most `size`, that is known, with
its characters and the rest of the name. -/
def longestStart? (name : List Char) : (size : Nat) → Option (List Char)
  | 0 => none
  | size + 1 =>
    if size = 0 then none
    else
      match characters? (name.take (size + 1)) with
      | some cs => some (cs ++ name.drop (size + 1))
      | none => longestStart? name size

/-- What a name after `&` is replaced by, `&` included. -/
def ofName (name : List Char) : List Char :=
  match characters? name with
  | some cs => cs
  | none => (longestStart? name (name.length - 1)).getD ('&' :: name)

/-- Whether a character may stand in a name. -/
def isNameChar (c : Char) : Bool :=
  !(c == '\t' || c == '\n' || c == '\x0c' || c == ' ' || c == '<' || c == '&' || c == '#' || c == ';')

/-- Drop one semicolon. -/
def dropSemicolon : List Char → List Char
  | ';' :: rest => rest
  | rest => rest

/-- A reference after its `&`: its replacement and the rest, or nothing if this is no reference. -/
def readReference (cs : List Char) : Except TooManyDigits (Option (List Char × List Char)) :=
  match cs with
  | '#' :: rest =>
    if rest.head?.any isDigit then
      match Number.limitedValue (rest.takeWhile isDigit) with
      | .error fault => .error fault
      | .ok n => .ok (some (ofCode n, dropSemicolon (rest.dropWhile isDigit)))
    else
      match rest with
      | x :: rest =>
        if (x = 'x' ∨ x = 'X') ∧ rest.head?.any isHexDigit = true then
          let n := Number.valueIn 16 (rest.takeWhile isHexDigit)
          .ok (some (ofCode n, dropSemicolon (rest.dropWhile isHexDigit)))
        else .ok none
      | [] => .ok none
  | _ =>
    let name := (cs.takeWhile isNameChar).take 32
    if name.isEmpty then .ok none
    else
      match cs.drop name.length with
      | ';' :: rest => .ok (some (ofName (name ++ [';']), rest))
      | rest => .ok (some (ofName name, rest))

/-- `unescape` with fuel. -/
def unescapeFrom : (fuel : Nat) → List Char → Except TooManyDigits (List Char)
  | _, [] => .ok []
  | 0, cs => .ok cs
  | fuel + 1, '&' :: cs =>
    match readReference cs with
    | .error fault => .error fault
    | .ok none => (unescapeFrom fuel cs).map ('&' :: ·)
    | .ok (some (replacement, rest)) => (unescapeFrom fuel rest).map (replacement ++ ·)
  | fuel + 1, c :: cs => (unescapeFrom fuel cs).map (c :: ·)

/-- The text with its references replaced. Each step takes a character, so the length is fuel
enough. -/
def unescape (cs : List Char) : Except TooManyDigits (List Char) :=
  unescapeFrom cs.length cs

end ApiOutline.Html
