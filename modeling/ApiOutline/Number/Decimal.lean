/-!
# Decimal numerals

`digits` writes a natural number in decimal, without leading zeros, and `value` reads digits.
`ofInt` writes an integer with its sign.
-/

namespace ApiOutline.Number

/-- Whether the character is one of the ten ASCII digits. -/
def isDigit (c : Char) : Bool :=
  '0' ≤ c && c ≤ '9'

/-- The digit of a number below ten. -/
def digitChar (n : Nat) : Char :=
  Char.ofNat (48 + n)

/-- The decimal digits of a natural number. -/
def digits (n : Nat) : List Char :=
  if n < 10 then [digitChar n] else digits (n / 10) ++ [digitChar (n % 10)]

/-- The number that digits stand for, in the given base. A letter counts from ten on. -/
def valueIn (base : Nat) (cs : List Char) : Nat :=
  cs.foldl (fun n c =>
    let code := c.toNat
    let digit := if 97 ≤ code then code - 87 else if 65 ≤ code then code - 55 else code - 48
    base * n + digit) 0

/-- The number that decimal digits stand for. -/
def value (cs : List Char) : Nat :=
  valueIn 10 cs

/-- The value of a hexadecimal digit, in either case. -/
def hexValue? (c : Char) : Option Nat :=
  if isDigit c then some (c.toNat - 48)
  else if 'a' ≤ c ∧ c ≤ 'f' then some (c.toNat - 87)
  else if 'A' ≤ c ∧ c ≤ 'F' then some (c.toNat - 55)
  else none

/-- Whether the character is a hexadecimal digit. -/
def isHexDigit (c : Char) : Bool :=
  (hexValue? c).isSome

/-- The greatest number of decimal digits that a whole number is read from or written with. -/
def maxDigits : Nat := 4300

/-- A numeral has more digits than are read. -/
structure TooManyDigits where
  count : Nat
deriving DecidableEq, Repr

/-- The value of decimal digits, leading zeros included in the limit on their number. -/
def limitedValue (cs : List Char) : Except TooManyDigits Nat :=
  if maxDigits < cs.length then .error ⟨cs.length⟩ else .ok (value cs)

/-- The decimal text of an integer. -/
def ofInt : Int → List Char
  | .ofNat n => digits n
  | .negSucc n => '-' :: digits (n + 1)

/-- The decimal text of an integer, as a string. -/
def intText (i : Int) : String :=
  String.ofList (ofInt i)

/-- Whether an integer has not more digits than are written. -/
def isWritable (i : Int) : Bool :=
  (digits i.natAbs).length ≤ maxDigits

/-- An integer has more digits than are written. -/
structure Unwritable where
deriving DecidableEq, Repr

/-- The text of the fault. -/
def Unwritable.message (_ : Unwritable) : String :=
  s!"Exceeds the limit ({maxDigits} digits) for integer string conversion; " ++
    "use sys.set_int_max_str_digits() to increase the limit"

/-- The text of the fault. -/
def TooManyDigits.message (fault : TooManyDigits) : String :=
  s!"Exceeds the limit ({maxDigits} digits) for integer string conversion: value has " ++
    s!"{fault.count} digits; use sys.set_int_max_str_digits() to increase the limit"

end ApiOutline.Number
