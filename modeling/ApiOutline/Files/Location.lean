import ApiOutline.Text.Case
import ApiOutline.Text.Lines

/-!
# Locations

A path text is a list of parts between slashes. A `Location` is a place given from the root, with no
part left that is empty, `.` or `..`. `Location.of` finds the location of a path text from a working
directory by its text alone, `text` writes it, and `relativeTo` writes it as seen from another one.
-/

namespace ApiOutline.Files

open Text (splitAt join)

/-- The parts of a path text between its slashes, empty ones left out. -/
def partsOf (path : String) : List String :=
  ((splitAt '/' path.toList).filter (· ≠ [])).map String.ofList

/-- Parts with a slash between each two. -/
def joinParts (parts : List String) : String :=
  Text.joinStrings "/" parts

/-- Whether a path text starts at the root. -/
def isAbsolute (path : String) : Bool :=
  path.toList.head? = some '/'

/-- Whether a path text starts with two slashes and not three, which are then kept. -/
def isDoubled (path : String) : Bool :=
  match path.toList with
  | '/' :: '/' :: '/' :: _ => false
  | '/' :: '/' :: _ => true
  | _ => false

/-- A place given from the root. -/
structure Location where
  /-- Written with two slashes at the start. -/
  doubled : Bool := false
  parts : List String
deriving DecidableEq, Repr

namespace Location

/-- Go one part further: `.` stays, `..` goes up, anything else goes down. -/
def step (parts : List String) (part : String) : List String :=
  if part = "." then parts
  else if part = ".." then parts.dropLast
  else parts ++ [part]

/-- The location of a path text seen from a working directory. -/
def of (workingDir : Location) (path : String) : Location :=
  if isAbsolute path then ⟨isDoubled path, (partsOf path).foldl step []⟩
  else ⟨workingDir.doubled, (partsOf path).foldl step workingDir.parts⟩

/-- The path text of a location. -/
def text (location : Location) : String :=
  (if location.doubled then "//" else "/") ++ joinParts location.parts

/-- The directory that a location is in; the root is in itself. -/
def parent (location : Location) : Location :=
  ⟨location.doubled, location.parts.dropLast⟩

/-- The last part of a location. -/
def name (location : Location) : String :=
  location.parts.getLast?.getD ""

/-- A place inside a location. -/
def child (location : Location) (part : String) : Location :=
  ⟨location.doubled, location.parts ++ [part]⟩

/-- The parts of a path after those it shares at the start with another one, and how many parts of
the other one are left. -/
def dropShared : List String → List String → Nat × List String
  | b :: base, p :: parts =>
    if b = p then dropShared base parts else ((b :: base).length, p :: parts)
  | base, parts => (base.length, parts)

/-- A location as seen from a base: up from the base as far as needed, then down. -/
def relativeTo (base location : Location) : String :=
  let (up, down) := dropShared base.parts location.parts
  match List.replicate up ".." ++ down with
  | [] => "."
  | parts => joinParts parts

end Location

/-- Two path texts put together: a second one that starts at the root stands alone. -/
def joinPaths (first second : String) : String :=
  if isAbsolute second then second
  else if first.isEmpty || first.toList.getLast? = some '/' then first ++ second
  else first ++ "/" ++ second

/-- A file name as its stem and its suffix. The suffix starts at the last dot, if some character
before that is not a dot. -/
def splitSuffixAt (name : List Char) : List Char × List Char :=
  let tail := (name.reverse.takeWhile (· ≠ '.')).reverse
  let stem := name.take (name.length - tail.length - 1)
  if tail.length < name.length ∧ stem.any (· ≠ '.') then (stem, '.' :: tail) else (name, [])

/-- A file name as its stem and its suffix with the dot. Dots at the start of a name start no
suffix. -/
def splitSuffix (name : String) : String × String :=
  let (stem, suffix) := splitSuffixAt name.toList
  (String.ofList stem, String.ofList suffix)

/-- The suffix of a file name in lower case. -/
def suffix (name : String) : String :=
  Text.lowerString (splitSuffix name).2

end ApiOutline.Files
