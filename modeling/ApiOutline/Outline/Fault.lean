import ApiOutline.Number.Decimal
import ApiOutline.Outline.Kind
import ApiOutline.Text.Utf8
import ApiOutline.Traced

/-!
# Faults and notes of mapping

What can stop the mapping of a tree, and what is worth noting on the way. Only what stands in the tree and in its
source can stop it: the depth of the host's stack is taken to be enough.
-/

namespace ApiOutline.Outline

/-- Why a tree cannot be mapped. The walk goes as deep as the tree does. A host whose stack is bounded may give
up on a very deep tree, whatever the tree says; that limit is the host's, and it is none of these faults. -/
inductive Fault where
  /-- A text that is needed is not UTF-8. -/
  | notUtf8 (fault : Text.Utf8.Fault)
  /-- A base type with constructor arguments names no type. -/
  | noBaseType
  /-- A documentation comment refers to a character by too long a number. -/
  | tooManyDigits (fault : Number.TooManyDigits)
deriving DecidableEq, Repr

/-- What is worth noting while a tree is mapped. -/
inductive Note where
  /-- A declaration of the kind at the line is not visible. -/
  | hidden (kind : Kind) (line : Nat)
  /-- A documentation comment is not well-formed, and its summary is taken from raw text. -/
  | rawSummary
deriving DecidableEq, Repr

/-- A step of mapping a tree. -/
abbrev Walked (α : Type) := Traced Note Fault α

end ApiOutline.Outline
