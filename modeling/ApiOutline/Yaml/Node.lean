import ApiOutline.Yaml.Lexer
import ApiOutline.Yaml.Tag
import ApiOutline.Yaml.Timestamp

/-!
# YAML nodes

A document is a tree of scalars, sequences and mappings, each with its tag. An alias stands for the
node with that anchor; inside that very node it stands for the node again, without an end.

Nodes are read from tokens with fuel, of which four for each token are enough: every second call
takes a token.
-/

namespace ApiOutline.Yaml

/-- A node of a document. -/
inductive Node where
  | scalar (tag : Tag) (text : List Char)
  | sequence (tag : Tag) (items : List Node)
  | mapping (tag : Tag) (pairs : List (Node × Node))
  /-- A collection around this place, once more. -/
  | again (isMapping : Bool)
deriving Inhabited

/-- The tag of a plain scalar by its form. -/
def Tag.ofPlain (text : List Char) : Tag :=
  if isWordIn (booleanWords.map (·.1)) text then .bool
  else if looksFloat text then .float
  else if looksInt text then .int
  else if text = ['<', '<'] then .merge
  else if text = [] ∨ text = ['~'] ∨ isWordIn ["null"] text then .null
  else if looksTimestamp text then .timestamp
  else if text = ['='] then .value
  else if text = ['!'] ∨ text = ['&'] ∨ text = ['*'] then .other
  else .str

/-- The node of nothing. -/
def Node.empty : Node := .scalar .null []

/-- What is left to read, and what has been said so far. -/
structure Reading where
  tokens : List Token
  /-- The nodes of anchors. -/
  anchors : List (String × Node) := []
  /-- The meanings of tag handles. -/
  handles : List (String × String) := [("!", "!"), ("!!", standardLead)]

/-- A step of reading nodes. -/
abbrev Read := StateT Reading (Except Fault)

namespace Read

/-- Fail. -/
def malformed {α : Type} : Read α := throw .malformed

/-- The next token, which stays. -/
def peek : Read (Option Token) := do
  return (← get).tokens.head?

/-- Pass the next token. -/
def skip : Read Unit :=
  modify fun reading => { reading with tokens := reading.tokens.tail }

/-- Pass the next token if it is the given one. -/
def skipIf (token : Token) : Read Bool := do
  if (← peek) = some token then
    skip
    return true
  else return false

/-- Whether the next token is one of those given. -/
def isNext (tokens : List Token) : Read Bool := do
  return (← peek).any tokens.contains

/-- Give an anchor its node; a later one of the same name takes its place. -/
def setAnchor (anchor : Option String) (node : Node) : Read Unit :=
  match anchor with
  | none => pure ()
  | some name => modify fun reading => { reading with anchors := (name, node) :: reading.anchors }

/-- The anchor before a node, whose name must be new. -/
def anchor? : Read (Option String) := do
  match ← peek with
  | some (.anchor name) =>
    skip
    if ((← get).anchors.lookup name).isSome then malformed
    return some name
  | _ => return none

/-- The tag before a node, written out in full. -/
def tag? : Read (Option String) := do
  match ← peek with
  | some (.tag none suffix) =>
    skip
    return some suffix
  | some (.tag (some handle) suffix) =>
    skip
    match (← get).handles.lookup handle with
    | some meaning => return some (meaning ++ suffix)
    | none => malformed
  | _ => return none

/-- The anchor and the tag before a node, in either order. -/
def properties : Read (Option String × Option String) := do
  match ← anchor? with
  | some name => return (some name, ← tag?)
  | none =>
    let tag ← tag?
    return (← anchor?, tag)

/-- The tag of a node: the one given, unless it says nothing, or else the one by default. -/
def tagOr (tag : Option String) (default : Tag) : Tag :=
  match tag with
  | none => default
  | some uri => if uri = "!" then default else Tag.ofUri uri

/-- The tag of a scalar. Its form counts if it is plain or has the tag that says nothing. -/
def scalarTag (tag : Option String) (plain : Bool) (text : List Char) : Tag :=
  tagOr tag (if plain || tag.isSome then Tag.ofPlain text else .str)

mutual

/-- A node. Block collections are read only if `block` says so, and entries of a sequence without
indentation only if `entries` does. -/
def node : (fuel : Nat) → (block entries : Bool) → Read Node
  | 0, _, _ => malformed
  | fuel + 1, block, entries => do
    if let some (.alias name) ← peek then
      skip
      match (← get).anchors.lookup name with
      | some node => return node
      | none => malformed
    else
      let (anchor, tag) ← properties
      match ← peek with
      | some (.scalar plain text) =>
        skip
        let node := Node.scalar (scalarTag tag plain text) text
        setAnchor anchor node
        return node
      | some .flowSequenceStart =>
        skip
        setAnchor anchor (.again false)
        let node := Node.sequence (tagOr tag .seq) (← flowItems fuel true)
        setAnchor anchor node
        return node
      | some .flowMappingStart =>
        skip
        setAnchor anchor (.again true)
        let node := Node.mapping (tagOr tag .map) (← flowPairs fuel true)
        setAnchor anchor node
        return node
      | next =>
        if entries && next = some .blockEntry then
          setAnchor anchor (.again false)
          let node := Node.sequence (tagOr tag .seq) (← looseItems fuel)
          setAnchor anchor node
          return node
        else if block && next = some .blockSequenceStart then
          skip
          setAnchor anchor (.again false)
          let node := Node.sequence (tagOr tag .seq) (← blockItems fuel)
          setAnchor anchor node
          return node
        else if block && next = some .blockMappingStart then
          skip
          setAnchor anchor (.again true)
          let node := Node.mapping (tagOr tag .map) (← blockPairs fuel)
          setAnchor anchor node
          return node
        else if anchor.isSome || tag.isSome then
          let node := Node.scalar (tagOr tag .null) []
          setAnchor anchor node
          return node
        else malformed

/-- A node, or nothing before one of the given tokens or the end. -/
def nodeBefore : (fuel : Nat) → (stops : List Token) → (block entries : Bool) → Read Node
  | 0, _, _, _ => malformed
  | fuel + 1, stops, block, entries => do
    if ← isNext stops then return .empty else node fuel block entries

/-- The items of an indented block sequence. -/
def blockItems : (fuel : Nat) → Read (List Node)
  | 0 => malformed
  | fuel + 1 => do
    if ← skipIf .blockEntry then
      let item ← nodeBefore fuel [.blockEntry, .blockEnd] true false
      return item :: (← blockItems fuel)
    else if ← skipIf .blockEnd then return []
    else malformed

/-- The items of a block sequence that is not indented further than its mapping. -/
def looseItems : (fuel : Nat) → Read (List Node)
  | 0 => malformed
  | fuel + 1 => do
    if ← skipIf .blockEntry then
      let item ← nodeBefore fuel [.blockEntry, .key, .value, .blockEnd] true false
      return item :: (← looseItems fuel)
    else return []

/-- The pairs of a block mapping. -/
def blockPairs : (fuel : Nat) → Read (List (Node × Node))
  | 0 => malformed
  | fuel + 1 => do
    if ← skipIf .key then
      let key ← nodeBefore fuel [.key, .value, .blockEnd] true true
      let value ← blockValue fuel
      return (key, value) :: (← blockPairs fuel)
    else if ← skipIf .blockEnd then return []
    else malformed

/-- The value after a key of a block mapping, perhaps nothing. -/
def blockValue : (fuel : Nat) → Read Node
  | 0 => malformed
  | fuel + 1 => do
    if ← skipIf .value then nodeBefore fuel [.key, .value, .blockEnd] true true
    else return .empty

/-- The items of a flow sequence, after a comma unless it is the first. An item can be a single pair
of a key and a value. -/
def flowItems : (fuel : Nat) → (first : Bool) → Read (List Node)
  | 0, _ => malformed
  | fuel + 1, first => do
    if ← skipIf .flowSequenceEnd then return []
    if !first && !(← skipIf .flowEntry) then malformed
    if ← skipIf .key then
      let key ← nodeBefore fuel [.value, .flowEntry, .flowSequenceEnd] false false
      let value ← flowValue fuel .flowSequenceEnd
      return .mapping .map [(key, value)] :: (← flowItems fuel false)
    else if ← skipIf .flowSequenceEnd then return []
    else
      let item ← node fuel false false
      return item :: (← flowItems fuel false)

/-- The value after a key in a flow collection that ends with the given token, perhaps nothing. -/
def flowValue : (fuel : Nat) → (stop : Token) → Read Node
  | 0, _ => malformed
  | fuel + 1, stop => do
    if ← skipIf .value then nodeBefore fuel [.flowEntry, stop] false false
    else return .empty

/-- The pairs of a flow mapping, after a comma unless it is the first. A node alone is a key without
a value. -/
def flowPairs : (fuel : Nat) → (first : Bool) → Read (List (Node × Node))
  | 0, _ => malformed
  | fuel + 1, first => do
    if ← skipIf .flowMappingEnd then return []
    if !first && !(← skipIf .flowEntry) then malformed
    if ← skipIf .key then
      let key ← nodeBefore fuel [.value, .flowEntry, .flowMappingEnd] false false
      let value ← flowValue fuel .flowMappingEnd
      return (key, value) :: (← flowPairs fuel false)
    else if ← skipIf .flowMappingEnd then return []
    else
      let key ← node fuel false false
      return (key, .empty) :: (← flowPairs fuel false)

end

/-- The directives before a document: at most one version, which has to start with 1, and meanings of
tag handles, each handle once. -/
def directives : (fuel : Nat) → (version : Bool) → (seen : List String) → Read Unit
  | 0, _, _ => malformed
  | fuel + 1, version, seen => do
    match ← peek with
    | some (.version major) =>
      skip
      if version || major ≠ 1 then malformed
      directives fuel true seen
    | some (.tagHandle handle meaning) =>
      skip
      if seen.contains handle then malformed
      modify fun reading => { reading with handles := (handle, meaning) :: reading.handles }
      directives fuel version (handle :: seen)
    | some .directive =>
      skip
      directives fuel version seen
    | _ => pure ()

/-- Pass document ends. -/
def skipEnds : (fuel : Nat) → Read Unit
  | 0 => pure ()
  | fuel + 1 => do
    if ← skipIf .documentEnd then skipEnds fuel

/-- The node of the only document of a stream, or nothing if there is none. A document without a
start mark has no directives. -/
def document (fuel : Nat) : Read (Option Node) := do
  match ← peek with
  | none => return none
  | some (.version _) | some (.tagHandle _ _) | some .directive | some .documentStart =>
    directives fuel false []
    if !(← skipIf .documentStart) then malformed
    match ← peek with
    | none => return some .empty
    | some _ =>
      if ← isNext [.documentStart, .documentEnd, .directive] then return some .empty
      else node fuel true false
  | some _ => node fuel true false

end Read

/-- The node of the only document that tokens hold, if any. Only document ends may follow it. -/
def Node.ofTokens (tokens : List Token) : Except Fault (Option Node) := do
  let fuel := 4 * tokens.length + 4
  let (node, reading) ← (do
    let node ← Read.document fuel
    Read.skipEnds fuel
    return node : Read (Option Node)).run { tokens }
  if reading.tokens.isEmpty then return node else throw .malformed

end ApiOutline.Yaml
