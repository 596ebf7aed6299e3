import ApiOutline.Number.Binary64
import ApiOutline.Text.Blank
import ApiOutline.Text.Lines
import ApiOutline.Yaml.Fault

/-!
# Numbers in YAML

Integers are binary after `0b`, hexadecimal after `0x`, octal after any other zero, and decimal
otherwise. Numbers with colons count in sixties. Underscores between digits do not count.
-/

namespace ApiOutline.Yaml

open Number (Binary64)

/-- A text without underscores. -/
def dropLines (text : List Char) : List Char :=
  text.filter (· != '_')

/-- A text as a sign, which is negative or not, and the rest. -/
def splitSign : List Char → Bool × List Char
  | '-' :: rest => (true, rest)
  | '+' :: rest => (false, rest)
  | rest => (false, rest)

/-- An integer with a sign. -/
def withSign (negative : Bool) (n : Nat) : Int :=
  if negative then -(n : Int) else n

/-- Digits of a base without a mark of the base at their start. -/
def dropBaseMark (base : Nat) (text : List Char) : List Char :=
  match text with
  | '0' :: mark :: rest =>
    let mark := mark.toLower
    if (base = 2 ∧ mark = 'b') ∨ (base = 8 ∧ mark = 'o') ∨ (base = 16 ∧ mark = 'x') then rest
    else text
  | _ => text

/-- Whether a character is a digit of a base. -/
def isDigitIn (base : Nat) (c : Char) : Bool :=
  (Number.hexValue? c).any (· < base)

/-- The integer that a text stands for in a base. Blanks around it do not count, and it may have a
sign of its own. -/
def integerIn (base : Nat) (text : List Char) : Except Fault Int :=
  let (negative, unsigned) := splitSign (Text.trim text)
  let digits := dropBaseMark base unsigned
  if digits.isEmpty || !digits.all (isDigitIn base) then .error (.badInteger base (String.ofList text))
  else if base = 10 ∧ Number.maxDigits < digits.length then .error (.tooManyDigits ⟨digits.length⟩)
  else .ok (withSign negative (Number.valueIn base digits))

/-- Integers from the texts between colons. -/
def integers : List (List Char) → Except Fault (List Int)
  | [] => .ok []
  | part :: parts => do return (← integerIn 10 part) :: (← integers parts)

/-- The integer of a text without its sign. -/
def unsignedInteger (text : List Char) : Except Fault Int :=
  match text with
  | [] => .error .emptyNumber
  | ['0'] => .ok 0
  | '0' :: 'b' :: digits => integerIn 2 digits
  | '0' :: 'x' :: digits => integerIn 16 digits
  | '0' :: _ => integerIn 8 text
  | _ =>
    if text.contains ':' then do
      let parts ← integers (Text.splitAt ':' text)
      return parts.foldl (fun total part => total * 60 + part) 0
    else integerIn 10 text

/-- The integer that a text stands for. -/
def integerOf (text : List Char) : Except Fault Int :=
  match dropLines text with
  | [] => .error .emptyNumber
  | digits =>
    let (negative, unsigned) := splitSign digits
    (unsignedInteger unsigned).map fun n => if negative then -n else n

/-- The digits of an exponent with its sign, or nothing. -/
def exponentOf? : List Char → Option Int
  | [] => some 0
  | e :: rest =>
    if e = 'e' ∨ e = 'E' then
      let (negative, digits) := splitSign rest
      if digits.isEmpty || !digits.all Number.isDigit then none
      else some (withSign negative (Number.value digits))
    else none

/-- The number that a decimal text without a sign stands for. -/
def decimalOf? (negative : Bool) (text : List Char) : Option Binary64 :=
  let whole := text.takeWhile Number.isDigit
  let rest := text.dropWhile Number.isDigit
  let (fraction, rest) :=
    match rest with
    | '.' :: rest => (rest.takeWhile Number.isDigit, rest.dropWhile Number.isDigit)
    | rest => ([], rest)
  let digits := whole ++ fraction
  if digits.isEmpty then none
  else (exponentOf? rest).map fun e =>
    Binary64.ofDecimal negative (Number.value digits) (e - fraction.length)

/-- The floating-point number that a text stands for by itself. -/
def floatIn (text : List Char) : Except Fault Binary64 :=
  let (negative, unsigned) := splitSign (Text.trim text)
  let word := String.ofList (unsigned.map Char.toLower)
  if word = "inf" ∨ word = "infinity" then .ok (.infinite negative)
  else if word = "nan" then .ok .nan
  else
    match decimalOf? negative unsigned with
    | some x => .ok x
    | none => .error (.badFloat (String.ofList text))

/-- Add up numbers between colons, the last one first, each worth sixty times the one before. -/
def addSixties : (weight : Nat) → Binary64 → List (List Char) → Except Fault Binary64
  | _, total, [] => .ok total
  | weight, total, part :: parts => do
    let x ← floatIn part
    addSixties (weight * 60) (total.add (x.mul (Binary64.ofInt weight))) parts

/-- Check numbers in the order in which they are written. -/
def checkFloats : List (List Char) → Except Fault Unit
  | [] => .ok ()
  | part :: parts => do
    let _ ← floatIn part
    checkFloats parts

/-- The floating-point number that a text stands for. -/
def floatOf (text : List Char) : Except Fault Binary64 :=
  match (dropLines text).map Char.toLower with
  | [] => .error .emptyNumber
  | digits => do
    let (negative, unsigned) := splitSign digits
    let signed (x : Binary64) := if negative then x.neg else x
    if unsigned = ".inf".toList then return .infinite negative
    else if unsigned = ".nan".toList then return .nan
    else if unsigned.contains ':' then
      let parts := Text.splitAt ':' unsigned
      checkFloats parts
      return signed (← addSixties 1 (Binary64.zero false) parts.reverse)
    else return signed (← floatIn unsigned)

end ApiOutline.Yaml
