import ApiOutline.Text.Lines
import ApiOutline.Xml.Token

/-!
# Elements and their texts

`content?` builds the tree of elements from tokens: end tags match start tags, names are resolved in
the namespaces in scope, no element has two attributes of one name. Characters between two tags make
one run of text. `texts` lists the runs inside a content, and `findChild?` and `findDeep?` look for
an element without namespace by its name.
-/

namespace ApiOutline.Xml

/-- A name with its namespace; the empty namespace is none. -/
structure Name where
  space : List Char
  part : List Char
deriving DecidableEq, Repr

/-- A run of text or an element with its content. -/
inductive Content where
  | text (cs : List Char)
  | element (name : Name) (content : List Content)

/-- The namespace of each prefix in scope, the innermost first; `none` is the default namespace. -/
abbrev Scope := List (Option (List Char) × List Char)

/-- The namespace that the prefix `xml` is always bound to. -/
def xmlSpace : List Char := "http://www.w3.org/XML/1998/namespace".toList

/-- The namespace of namespace declarations. -/
def xmlnsSpace : List Char := "http://www.w3.org/2000/xmlns/".toList

/-- The scope outside of all elements. -/
def outerScope : Scope := [(some "xml".toList, xmlSpace)]

/-- Whether a prefix may be bound to a namespace: a prefix is not unbound, `xmlns` is not bound, the
prefix `xml` and its namespace go together, and no namespace name holds a closing brace. -/
def bindable (pre : Option (List Char)) (space : List Char) : Bool :=
  !(pre.isSome && space.isEmpty) && pre != some "xmlns".toList &&
    (pre == some "xml".toList) == (space == xmlSpace) && space != xmlnsSpace &&
    !space.contains '\x7d'

/-- The prefix that an attribute declares: none for `xmlns`, `p` for `xmlns:p`. -/
def declared? (name : QName) : Option (Option (List Char)) :=
  match name.pre with
  | none => if name.part = "xmlns".toList then some none else none
  | some pre => if pre = "xmlns".toList then some (some name.part) else none

/-- The scope after the declarations among the attributes. -/
def declare? (scope : Scope) : List (QName × List Char) → Option Scope
  | [] => some scope
  | (name, value) :: rest =>
    match declared? name with
    | none => declare? scope rest
    | some pre => if bindable pre value then declare? ((pre, value) :: scope) rest else none

/-- The name in a scope; without a prefix the namespace is `bare`. -/
def QName.resolve? (scope : Scope) (bare : List Char) (name : QName) : Option Name :=
  match name.pre with
  | none => some ⟨bare, name.part⟩
  | some pre => (scope.lookup (some pre)).map (⟨·, name.part⟩)

/-- Whether no two entries are equal. -/
def distinct {α : Type} [DecidableEq α] : List α → Bool
  | [] => true
  | a :: as => !as.contains a && distinct as

/-- The scope and the name of an element with the given attributes, if they are in order. -/
def enter? (scope : Scope) (name : QName) (attributes : List (QName × List Char)) :
    Option (Scope × Name) := do
  if !distinct (attributes.map (·.1)) then none
  let scope ← declare? scope attributes
  let proper := attributes.filter fun entry => (declared? entry.1).isNone
  let names ← proper.mapM fun entry => entry.1.resolve? scope []
  if !distinct (names.filter fun name => !name.space.isEmpty) then none
  let default := (scope.lookup none).getD []
  let resolved ← name.resolve? scope default
  return (scope, resolved)

/-- An element whose end tag is still to come, with its content so far in reverse order. -/
structure Frame where
  tag : QName
  name : Name
  scope : Scope
  content : List Content

/-- Add characters to a content in reverse order, joining them to the run before. -/
def addChars (cs : List Char) : List Content → List Content
  | .text run :: rest => .text (run ++ cs) :: rest
  | content => if cs.isEmpty then content else .text cs :: content

/-- Add an element to the innermost open element, or to the content outside. -/
def addElement (element : Content) (frames : List Frame) (outer : List Content) :
    List Frame × List Content :=
  match frames with
  | [] => ([], element :: outer)
  | frame :: frames => (⟨frame.tag, frame.name, frame.scope, element :: frame.content⟩ :: frames, outer)

/-- Build the tree: `frames` are the open elements, the innermost first, and `outer` is the content
outside of them in reverse order. -/
def build? (frames : List Frame) (outer : List Content) : List Token → Option (List Content)
  | [] => if frames.isEmpty then some outer.reverse else none
  | .chars cs :: tokens =>
    match frames with
    | [] => build? [] (addChars cs outer) tokens
    | frame :: frames =>
      build? (⟨frame.tag, frame.name, frame.scope, addChars cs frame.content⟩ :: frames) outer tokens
  | .opening tag attributes closed :: tokens =>
    let scope := (frames.head?.map (·.scope)).getD outerScope
    match enter? scope tag attributes with
    | none => none
    | some (scope, name) =>
      if closed then
        let (frames, outer) := addElement (.element name []) frames outer
        build? frames outer tokens
      else build? (⟨tag, name, scope, []⟩ :: frames) outer tokens
  | .closing tag :: tokens =>
    match frames with
    | [] => none
    | frame :: frames =>
      if frame.tag = tag then
        let (frames, outer) := addElement (.element frame.name frame.content.reverse) frames outer
        build? frames outer tokens
      else none

/-- The content that a text holds, if it is well-formed. Every line end in it is a line feed. -/
def content? (cs : List Char) : Option (List Content) :=
  (tokens? (Text.plainLines cs)).bind (build? [] [])

mutual

/-- The runs of text in an item, in document order. -/
def Content.texts : Content → List (List Char)
  | .text cs => [cs]
  | .element _ content => textsOf content

/-- The runs of text in a content, in document order. -/
def textsOf : List Content → List (List Char)
  | [] => []
  | item :: items => item.texts ++ textsOf items

end

/-- Whether a name has no namespace and the given local part. -/
def Name.isPlain (name : Name) (part : List Char) : Bool :=
  name.space.isEmpty && name.part == part

/-- The content of the first element of that name directly in a content. -/
def findChild? (part : List Char) : List Content → Option (List Content)
  | [] => none
  | .text _ :: items => findChild? part items
  | .element name content :: items =>
    if name.isPlain part then some content else findChild? part items

mutual

/-- The content of the first element of that name in an item, in document order. -/
def Content.findDeep? (part : List Char) : Content → Option (List Content)
  | .text _ => none
  | .element name content => if name.isPlain part then some content else findDeepIn? part content

/-- The content of the first element of that name at any depth, in document order. -/
def findDeepIn? (part : List Char) : List Content → Option (List Content)
  | [] => none
  | item :: items =>
    match item.findDeep? part with
    | some content => some content
    | none => findDeepIn? part items

end

end ApiOutline.Xml
