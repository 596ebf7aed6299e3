import ApiOutline.Data.Calendar
import ApiOutline.Text.Quoted

/-!
# Faults of YAML texts

A text can break the rules of the format, and a well-formed text can hold scalars that do not stand
for the value that their tag asks for.
-/

namespace ApiOutline.Yaml

/-- Why a text does not give a value. -/
inductive Fault where
  /-- The text breaks a rule of the format, or has a tag that no value has. -/
  | malformed
  /-- An escape is beyond the last code point. -/
  | codePoint (code : Nat)
  /-- A text is not an integer in the given base. -/
  | badInteger (base : Nat) (text : String)
  /-- A text is not a floating-point number. -/
  | badFloat (text : String)
  /-- A number has no text. -/
  | emptyNumber
  /-- A text is not a word for true or false. -/
  | badBoolean
  /-- A text has not the form of a date. -/
  | badDate
  /-- A date or time does not exist. -/
  | calendar (fault : Data.CalendarFault)
  /-- A decimal integer has too many digits. -/
  | tooManyDigits (fault : Number.TooManyDigits)
deriving DecidableEq, Repr

/-- The words for a fault of a value. -/
def Fault.message? : Fault → Option String
  | .codePoint _ => some "chr() arg not in range(0x110000)"
  | .badInteger base text =>
    some (s!"invalid literal for int() with base {base}: " ++ Text.quoted text)
  | .badFloat text => some ("could not convert string to float: " ++ Text.quoted text)
  | .calendar fault => some fault.message
  | .tooManyDigits fault => some fault.message
  | .malformed | .emptyNumber | .badBoolean | .badDate => none

end ApiOutline.Yaml
