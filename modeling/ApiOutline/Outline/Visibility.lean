import ApiOutline.Outline.Kind

/-!
# Visibility

A declaration belongs to the outline by its access modifiers: with `public` or `internal` and without
`private`, or without any access modifier. In a contextual outline a declaration without access
modifier directly inside a class or a record is private.
-/

namespace ApiOutline.Outline

/-- The modifiers that set accessibility. -/
def accessModifiers : List String := ["public", "internal", "protected", "private"]

/-- Whether some modifier sets accessibility. -/
def isMarked (modifiers : List String) : Bool :=
  modifiers.any (accessModifiers.contains ·)

/-- Whether a declaration with these modifiers is visible. -/
def isVisible (modifiers : List String) : Bool :=
  if !isMarked modifiers then true
  else if modifiers.contains "private" then false
  else modifiers.contains "public" || modifiers.contains "internal"

/-- Whether a declaration with these modifiers is visible inside a declaration of the given kind, if
any. -/
def isVisibleIn (modifiers : List String) (parent : Option Kind) (contextual : Bool) : Bool :=
  if contextual && parent.any Kind.hidesUnmarked && !isMarked modifiers then false
  else isVisible modifiers

/-- Whether a declaration with these modifiers is static. -/
def isStatic (modifiers : List String) : Bool :=
  modifiers.contains "static"

end ApiOutline.Outline
