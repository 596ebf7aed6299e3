import ApiOutline.Outline.Fault
import ApiOutline.Syntax.Role
import ApiOutline.Text.Lines

/-!
# Signatures

The signature of a declaration is its name and, by kind, its parameters, its type or its enumerated
names, copied from the source on one line. Names lose all their blanks. A part that the tree does not
have is empty.
-/

namespace ApiOutline.Outline

open Syntax (Node)
open Text (Bytes removeBlanks join)

/-- The text of a node on one line. -/
def lineOf (source : Bytes) (node : Node) : Except Fault (List Char) :=
  (node.lineText source).mapError .notUtf8

/-- The text on one line of a node that may be absent. -/
def lineOf? (source : Bytes) : Option Node → Except Fault (List Char)
  | none => .ok []
  | some node => lineOf source node

/-- The name of a node, without blanks. -/
def nameOf (source : Bytes) (node : Node) : Except Fault (List Char) :=
  (lineOf? source (node.childIn? "name")).map removeBlanks

/-- The parameters of a node: by field, or else the first list of parameters. -/
def parameters? (node : Node) : Option Node :=
  (node.childIn? "parameters").or (node.childOf? "parameter_list")

/-- The name followed by the parameters. -/
def callableSignature (source : Bytes) (node : Node) : Except Fault (List Char) := do
  let name ← nameOf source node
  let parameters ← lineOf? source (parameters? node)
  return name ++ parameters

/-- The names that are not empty, in order, of those of the nodes that satisfy a test. -/
def namesOf (source : Bytes) (test : Node → Bool) : List Node → Except Fault (List (List Char))
  | [] => .ok []
  | node :: nodes =>
    if test node then do
      let name ← nameOf source node
      let names ← namesOf source test nodes
      return if name.isEmpty then names else name :: names
    else namesOf source test nodes

/-- The names that an enumeration declares, in order. -/
def enumNames (source : Bytes) (node : Node) : Except Fault (List (List Char)) :=
  match (node.childIn? "body").or (node.childOf? "enum_member_declaration_list") with
  | none => .ok []
  | some body => namesOf source (Node.isOf "enum_member_declaration") body.namedChildren

/-- A name and the names it enumerates, in braces. -/
def writeEnum (name : List Char) (names : List (List Char)) : List Char :=
  if names.isEmpty then name ++ " \x7b \x7d".toList
  else name ++ " \x7b ".toList ++ join ", ".toList names ++ " \x7d".toList

/-- The signature of an enumeration. -/
def enumSignature (source : Bytes) (node : Node) : Except Fault (List Char) := do
  let names ← enumNames source node
  let name ← nameOf source node
  return writeEnum name names

/-- The return type, the name and the parameters. -/
def methodSignature (source : Bytes) (node : Node) : Except Fault (List Char) := do
  let returns ← lineOf? source ((node.childIn? "returns").or (node.childIn? "type"))
  let name ← nameOf source node
  let parameters ← lineOf? source (parameters? node)
  return returns ++ ' ' :: name ++ parameters

/-- The type and the name. -/
def propertySignature (source : Bytes) (node : Node) : Except Fault (List Char) := do
  let type ← lineOf? source (node.childIn? "type")
  let name ← nameOf source node
  return type ++ ' ' :: name

/-- The signature of a declaration of a kind. -/
def signatureOf (source : Bytes) (node : Node) : Kind → Except Fault (List Char)
  | .nameSpace | .classType | .interfaceType => nameOf source node
  | .record | .constructor => callableSignature source node
  | .enumeration => enumSignature source node
  | .method => methodSignature source node
  | .property => propertySignature source node

/-- The node that names a base type: for a base type with constructor arguments its type, or else its
first named child. -/
def baseNode (entry : Node) : Except Fault Node :=
  if entry.isOf "primary_constructor_base_type" then
    match (entry.childIn? "type").or entry.namedChildren.head? with
    | some node => .ok node
    | none => .error .noBaseType
  else .ok entry

/-- The base types among the entries of a list of them; comments and arguments are none. -/
def baseNames (source : Bytes) : List Node → Except Fault (List String)
  | [] => .ok []
  | entry :: entries =>
    if entry.isOf "comment" || entry.isOf "argument_list" then baseNames source entries
    else do
      let node ← baseNode entry
      let text ← lineOf source node
      let names ← baseNames source entries
      return if text.isEmpty then names else String.ofList text :: names

/-- The base types of a declaration, in order, without constructor arguments. -/
def baseTypes (source : Bytes) (node : Node) : Except Fault (List String) :=
  match node.childOf? "base_list" with
  | none => .ok []
  | some list => baseNames source list.namedChildren

/-- The names of the attributes in lists of them, in order. -/
def attributeNames (source : Bytes) : List Node → Except Fault (List String)
  | [] => .ok []
  | list :: lists => do
    let names ← namesOf source (Node.isOf "attribute") list.namedChildren
    let others ← attributeNames source lists
    return names.map String.ofList ++ others

/-- The names of the attributes of a declaration, in order, without arguments. -/
def attributesOf (source : Bytes) (node : Node) : Except Fault (List String) :=
  attributeNames source (node.children.filter (Node.isOf "attribute_list"))

/-- The modifiers among nodes, in order. -/
def modifierTexts (source : Bytes) : List Node → Except Fault (List String)
  | [] => .ok []
  | node :: nodes =>
    if node.isOf "modifier" && !(node.bytes source).isEmpty then do
      let text ← (node.text source).mapError Fault.notUtf8
      let texts ← modifierTexts source nodes
      return String.ofList (Text.trim text) :: texts
    else modifierTexts source nodes

/-- The modifiers of a declaration, in order. -/
def modifiersOf (source : Bytes) (node : Node) : Except Fault (List String) :=
  modifierTexts source node.children

end ApiOutline.Outline
