import ApiOutline.Text.Blank
import ApiOutline.Text.Utf8

/-!
# Syntax trees

A syntax tree of a source, as a parser of C# gives it: every node has a type of the grammar, the range
of bytes it covers, the field it fills in its parent, and its children in source order. Named nodes
carry structure, the others are punctuation and keywords. The parser marks what it could not read by
nodes of type `ERROR` and what it had to assume by missing nodes, and it reports of every node whether
there is an error at it or below. The report is the parser's own: it can tell of errors that no node in
the tree shows.
-/

namespace ApiOutline.Syntax

open Text (Bytes)

/-- A node of a syntax tree. It covers the bytes `start ≤ i < stop` of the source. -/
structure Node where
  type : String
  start : Nat
  stop : Nat
  field : Option String := none
  named : Bool := true
  missing : Bool := false
  /-- Whether the parser reports an error at the node or below. -/
  hasError : Bool := false
  children : List Node := []
deriving Inhabited

namespace Node

/-- The bytes that a node covers. -/
def bytes (source : Bytes) (node : Node) : Bytes :=
  (source.drop node.start).take (node.stop - node.start)

/-- The text that a node covers. -/
def text (source : Bytes) (node : Node) : Except Text.Utf8.Fault (List Char) :=
  Text.Utf8.decode (node.bytes source)

/-- The text of a node on one line. -/
def lineText (source : Bytes) (node : Node) : Except Text.Utf8.Fault (List Char) :=
  (node.text source).map Text.oneLine

/-- The children that carry structure. -/
def namedChildren (node : Node) : List Node :=
  node.children.filter (·.named)

/-- Whether a node fills the given field of its parent. -/
def fills (field : String) (node : Node) : Bool :=
  node.field == some field

/-- Whether a node is of the given type. -/
def isOf (type : String) (node : Node) : Bool :=
  node.type == type

/-- The first child in the given field. -/
def childIn? (field : String) (node : Node) : Option Node :=
  node.children.find? (fills field)

/-- The first child of the given type. -/
def childOf? (type : String) (node : Node) : Option Node :=
  node.children.find? (isOf type)

/-- Whether the parser could not read what the node covers, or assumed the node. -/
def isFaulty (node : Node) : Bool :=
  node.type == "ERROR" || node.missing

end Node

/-- The number of line feeds before an offset. -/
def row (source : Bytes) (offset : Nat) : Nat :=
  (source.take offset).count 10

/-- The row in which a node starts. -/
def Node.startRow (source : Bytes) (node : Node) : Nat :=
  row source node.start

/-- The row in which a node ends. -/
def Node.stopRow (source : Bytes) (node : Node) : Nat :=
  row source node.stop

/-- The line of a node, counted from one. -/
def Node.line (source : Bytes) (node : Node) : Nat :=
  node.startRow source + 1

/-- The path of child positions from a node to one of its descendants. -/
abbrev Path := List Nat

/-- The node at a path, with the named siblings before it, the nearest first. -/
def Node.at? (node : Node) (before : List Node) : Path → Option (Node × List Node)
  | [] => some (node, before)
  | i :: path =>
    match node.children[i]? with
    | none => none
    | some child => child.at? ((node.children.take i).filter (·.named)).reverse path

end ApiOutline.Syntax
