import ApiOutline.Number.Decimal
import ApiOutline.Text.Lines

/-!
# YAML tags

The tag of a node says what value it stands for. A plain scalar without a tag has the one that its
form suggests: `yes` is a Boolean, `007` an integer, `1.5` a floating-point number, `2020-01-02` a
date, `~` or nothing at all is null, and what fits no form is a text.
-/

namespace ApiOutline.Yaml

open Number (isDigit)

/-- What a node stands for. -/
inductive Tag where
  | null
  | bool
  | int
  | float
  | str
  | binary
  | timestamp
  | seq
  | map
  | set
  | omap
  | pairs
  /-- The key `<<` of a mapping that takes over the entries of others. -/
  | merge
  /-- The key `=` of the default value of a mapping. -/
  | value
  /-- A tag that no value has. -/
  | other
deriving DecidableEq, Repr

/-- What the standard tags start with. -/
def standardLead : String := "tag:yaml.org,2002:"

/-- The names of the standard tags. -/
def Tag.names : List (String × Tag) :=
  [("null", .null), ("bool", .bool), ("int", .int), ("float", .float), ("str", .str),
    ("binary", .binary), ("timestamp", .timestamp), ("seq", .seq), ("map", .map), ("set", .set),
    ("omap", .omap), ("pairs", .pairs), ("merge", .merge), ("value", .value)]

/-- The tag that is written out in full. -/
def Tag.ofUri (uri : String) : Tag :=
  ((Tag.names.find? fun entry => standardLead ++ entry.1 == uri).map (·.2)).getD .other

/-- The words for true and false. -/
def booleanWords : List (String × Bool) :=
  [("yes", true), ("true", true), ("on", true), ("no", false), ("false", false), ("off", false)]

/-- A word in lower case, with a capital, and in capitals. -/
def casings (word : String) : List String :=
  [word, word.capitalize, word.toUpper]

/-- Whether a text is a word in lower case, with a capital or in capitals. -/
def isWordIn (words : List String) (text : List Char) : Bool :=
  (words.flatMap casings).contains (String.ofList text)

/-- Whether a text is a digit or an underscore. -/
def isDigitOrLine (c : Char) : Bool :=
  isDigit c || c == '_'

/-- A text without one sign at its start. -/
def dropSign : List Char → List Char
  | '+' :: rest => rest
  | '-' :: rest => rest
  | rest => rest

/-- Whether a text is nothing, or an exponent with a sign. -/
def isExponent : List Char → Bool
  | [] => true
  | e :: sign :: digits =>
    (e == 'e' || e == 'E') && (sign == '+' || sign == '-') && !digits.isEmpty && digits.all isDigit
  | _ => false

/-- Whether a text is digits and underscores that start with a digit. -/
def isDigits : List Char → Bool
  | c :: rest => isDigit c && rest.all isDigitOrLine
  | [] => false

/-- Whether a text is a number below sixty. -/
def isSixtieth : List Char → Bool
  | [a] => isDigit a
  | [a, b] => isDigit a && a < '6' && isDigit b
  | _ => false

/-- Whether a text is at least two numbers with colons between them, all but the first below sixty.
The first is tested by `test`. -/
def isSexagesimal (test : List Char → Bool) (text : List Char) : Bool :=
  match Text.splitAt ':' text with
  | first :: next :: rest => test first && (next :: rest).all isSixtieth
  | _ => false

/-- A text up to its first point, and what follows the point. -/
def atPoint? (text : List Char) : Option (List Char × List Char) :=
  match text.span (· != '.') with
  | (whole, _ :: rest) => some (whole, rest)
  | _ => none

/-- Whether the form of a text is that of a floating-point number. -/
def looksFloat (text : List Char) : Bool :=
  let unsigned := dropSign text
  match atPoint? unsigned with
  | none => false
  | some (whole, rest) =>
    let exponent := rest.dropWhile isDigitOrLine
    let fraction := rest.takeWhile isDigitOrLine
    (isDigits whole && isExponent exponent) ||
      (text.head? == some '.' && isDigits fraction && isExponent exponent) ||
      (isSexagesimal isDigits whole && rest.all isDigitOrLine) ||
      (whole.isEmpty && ["inf", "Inf", "INF"].contains (String.ofList rest)) ||
      (text.head? == some '.' && ["nan", "NaN", "NAN"].contains (String.ofList rest))

/-- Whether a text is a decimal integer without leading zeros. -/
def isPlainDecimal (text : List Char) : Bool :=
  isDigits text && text.head? != some '0'

/-- Whether a text is not empty and consists of underscores and characters that pass a test. -/
def isRun (test : Char → Bool) (text : List Char) : Bool :=
  !text.isEmpty && text.all fun c => test c || c == '_'

/-- Whether the form of a text is that of an integer. -/
def looksInt (text : List Char) : Bool :=
  match dropSign text with
  | ['0'] => true
  | '0' :: 'b' :: rest => isRun (fun c => c == '0' || c == '1') rest
  | '0' :: 'x' :: rest => isRun Number.isHexDigit rest
  | '0' :: rest => isRun (fun c => isDigit c && c < '8') rest
  | unsigned => isPlainDecimal unsigned || isSexagesimal isPlainDecimal unsigned

end ApiOutline.Yaml
