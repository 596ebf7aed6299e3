import ApiOutline.Data.Value
import ApiOutline.Yaml.Node
import ApiOutline.Yaml.Number

/-!
# The values of YAML nodes

The value of a node follows from its tag. A mapping takes over the entries of the mappings under its
key `<<` before its own ones.

A faulty node is found level by level: all scalars directly inside a collection are looked at before
anything inside the collections next to them. So `firstFault` goes through the tree by levels, and
`value` builds the value of a tree without any fault.
-/

namespace ApiOutline.Yaml

open Data (Value)

/-- The tag of a node. -/
def Node.tag : Node → Tag
  | .scalar tag _ => tag
  | .sequence tag _ => tag
  | .mapping tag _ => tag
  | .again true => .map
  | .again false => .seq

mutual

/-- How deep a node is. -/
def Node.depth : Node → Nat
  | .scalar _ _ => 0
  | .again _ => 0
  | .sequence _ items => itemsDepth items + 1
  | .mapping _ pairs => pairsDepth pairs + 1

/-- How deep the deepest of some nodes is. -/
def itemsDepth : List Node → Nat
  | [] => 0
  | item :: items => max item.depth (itemsDepth items)

/-- How deep the deepest node of some pairs is. -/
def pairsDepth : List (Node × Node) → Nat
  | [] => 0
  | (key, value) :: pairs => max (max key.depth value.depth) (pairsDepth pairs)

end

mutual

/-- The text of a scalar, or of the default value of a mapping. -/
def Node.text? : Node → Option (List Char)
  | .scalar _ text => some text
  | .mapping _ pairs => defaultText? pairs
  | .sequence _ _ => none
  | .again _ => none

/-- The text of the value under the key `=`. -/
def defaultText? : List (Node × Node) → Option (List Char)
  | [] => none
  | (key, value) :: pairs => if key.tag = .value then value.text? else defaultText? pairs

end

/-- The six bits of a character of base 64. -/
def sixBits? (c : Char) : Option Nat :=
  let n := c.toNat
  if 'A' ≤ c ∧ c ≤ 'Z' then some (n - 65)
  else if 'a' ≤ c ∧ c ≤ 'z' then some (n - 71)
  else if '0' ≤ c ∧ c ≤ '9' then some (n + 4)
  else if c = '+' then some 62
  else if c = '/' then some 63
  else none

/-- The bytes of a text in base 64 from a place in a group of four characters, with the bits left
over before it and the number of padding characters seen. Characters outside the alphabet do not
count. -/
def base64From (place left pads : Nat) : List Char → Option Text.Bytes
  | [] => if place = 0 then some [] else none
  | c :: rest =>
    if c = '=' then
      if 2 ≤ place then
        if 4 ≤ place + (pads + 1) then some [] else base64From place left (pads + 1) rest
      else base64From place left pads rest
    else
      match sixBits? c with
      | none => base64From place left pads rest
      | some bits =>
        match place with
        | 0 => base64From 1 bits 0 rest
        | 1 => (base64From 2 (bits % 16) 0 rest).map ((left * 4 + bits / 16).toUInt8 :: ·)
        | 2 => (base64From 3 (bits % 4) 0 rest).map ((left * 16 + bits / 4).toUInt8 :: ·)
        | _ => (base64From 0 0 0 rest).map ((left * 64 + bits).toUInt8 :: ·)

/-- The bytes of a text in base 64. -/
def base64? (text : List Char) : Option Text.Bytes :=
  if text.all fun c => c.toNat < 0x80 then base64From 0 0 0 text else none

/-- The Boolean that a word stands for. -/
def booleanOf (text : List Char) : Except Fault Bool :=
  match booleanWords.lookup (String.ofList (text.map Char.toLower)) with
  | some b => .ok b
  | none => .error .badBoolean

/-- The date or time that a text stands for. -/
def timestampOf (text : List Char) : Except Fault Value :=
  match dateText? text with
  | none => .error .badDate
  | some written =>
    match written.time with
    | none => (written.date.check.mapError .calendar).map .date
    | some time =>
      let moment : Data.Moment :=
        { date := written.date
          hour := Number.value time.hour
          minute := Number.value time.minute
          second := Number.value time.second
          microsecond := microseconds time.fraction
          offset := time.zone.map ZoneText.seconds }
      (moment.check.mapError .calendar).map .moment

/-- The value of a text under the tag of a scalar. -/
def scalarValue (tag : Tag) (text : List Char) : Except Fault Value :=
  match tag with
  | .null => .ok .null
  | .bool => (booleanOf text).map .bool
  | .int => (integerOf text).map .int
  | .float => (floatOf text).map .float
  | .str => .ok (.str (String.ofList text))
  | .timestamp => timestampOf text
  | .binary =>
    match base64? text with
    | some bytes => .ok (.binary bytes)
    | none => .error .malformed
  | _ => .error .malformed

/-- Whether a tag is that of a collection. -/
def Tag.isCollection : Tag → Bool
  | .seq | .map | .set | .omap | .pairs => true
  | _ => false

/-- The value of a node that is no collection. -/
def Node.atom (node : Node) : Except Fault Value :=
  match node.text? with
  | some text => scalarValue node.tag text
  | none => .error .malformed

/-- A key with its tag: the key `=` is a text. -/
def plainKey : Node → Node
  | .scalar .value text => .scalar .str text
  | key => key

mutual

/-- The entries that a mapping takes over from the value of its key `<<`. -/
def mergedEntries : Node → Except Fault (List (Node × Node))
  | .mapping _ pairs => do
    let (merged, own) ← splitMerged pairs
    return merged ++ own
  | .sequence _ items => mergedItems items
  | .again _ => .ok []
  | .scalar _ _ => .error .malformed

/-- The entries taken over from several mappings, those of the last mapping first. -/
def mergedItems : List Node → Except Fault (List (Node × Node))
  | [] => .ok []
  | .mapping _ pairs :: items => do
    let (merged, own) ← splitMerged pairs
    return (← mergedItems items) ++ (merged ++ own)
  | .again true :: items => mergedItems items
  | _ :: _ => .error .malformed

/-- The entries that a mapping takes over, and its own ones. -/
def splitMerged : List (Node × Node) → Except Fault (List (Node × Node) × List (Node × Node))
  | [] => .ok ([], [])
  | (key, value) :: pairs =>
    if key.tag = .merge then do
      let entries ← mergedEntries value
      let (merged, own) ← splitMerged pairs
      return (entries ++ merged, own)
    else do
      let (merged, own) ← splitMerged pairs
      return (merged, (plainKey key, value) :: own)

end

/-- The entries of a mapping: those taken over, and then its own. -/
def flattened (pairs : List (Node × Node)) : Except Fault (List (Node × Node)) := do
  let (merged, own) ← splitMerged pairs
  return merged ++ own

/-- Look at a node inside a collection: a collection is left for later, and anything else has to
have a value. -/
def touch (node : Node) : Except Fault (List Node) :=
  match node with
  | .again _ => .ok []
  | node => if node.tag.isCollection then .ok [node] else node.atom.map fun _ => []

/-- Look at nodes in turn. -/
def touchAll : List Node → Except Fault (List Node)
  | [] => .ok []
  | node :: nodes => do return (← touch node) ++ (← touchAll nodes)

/-- Look at the entries of a mapping in turn. No collection is a key. -/
def touchEntries : List (Node × Node) → Except Fault (List Node)
  | [] => .ok []
  | (key, value) :: entries => do
    let _ ← touch key
    if key.tag.isCollection then throw .malformed
    return (← touch value) ++ (← touchEntries entries)

/-- Look at a list of pairs in turn, each of which is a mapping with one entry. -/
def touchPairs : List Node → Except Fault (List Node)
  | [] => .ok []
  | .mapping _ [(key, value)] :: nodes => do
    return (← touch key) ++ (← touch value) ++ (← touchPairs nodes)
  | _ :: _ => .error .malformed

/-- Look at all that is directly inside a collection; the answer is the collections there. -/
def Node.inspect (node : Node) : Except Fault (List Node) :=
  match node.tag, node with
  | .seq, .sequence _ items => touchAll items
  | .map, .mapping _ pairs => do touchEntries (← flattened pairs)
  | .set, .mapping _ pairs => do touchEntries (← flattened pairs)
  | .omap, .sequence _ items => touchPairs items
  | .pairs, .sequence _ items => touchPairs items
  | _, _ => .error .malformed

/-- Look at all that is directly inside collections. -/
def inspectAll : List Node → Except Fault (List Node)
  | [] => .ok []
  | node :: nodes => do return (← node.inspect) ++ (← inspectAll nodes)

/-- Look at collections level by level. -/
def inspectLevels : (fuel : Nat) → List Node → Except Fault Unit
  | 0, _ => .ok ()
  | _ + 1, [] => .ok ()
  | fuel + 1, level => do inspectLevels fuel (← inspectAll level)

/-- The first fault of a tree, if there is one. -/
def Node.check (node : Node) : Except Fault Unit := do
  inspectLevels (node.depth + 1) (← touch node)

/-- The only entry of a mapping. -/
def Node.entry? : Node → Option (Node × Node)
  | .mapping _ [entry] => some entry
  | _ => none

/-- The value of a tree without any fault. -/
def build : (fuel : Nat) → Node → Value
  | 0, _ => .null
  | fuel + 1, node =>
    let buildEntry (entry : Node × Node) := (build fuel entry.1, build fuel entry.2)
    match node with
    | .again isMapping => .again isMapping
    | .sequence .seq items => .list (items.map (build fuel))
    | .sequence .omap items => .pairs ((items.filterMap Node.entry?).map buildEntry)
    | .sequence .pairs items => .pairs ((items.filterMap Node.entry?).map buildEntry)
    | .mapping .map pairs =>
      .map (Value.entriesOf (((flattened pairs).toOption.getD []).map buildEntry))
    | .mapping .set pairs =>
      .set ((Value.entriesOf (((flattened pairs).toOption.getD []).map buildEntry)).map (·.1))
    | node => node.atom.toOption.getD .null

/-- The value of a node. -/
def Node.value (node : Node) : Except Fault Value := do
  node.check
  return build (node.depth + 1) node

/-- The value that a YAML text stands for; a text without a document stands for null. -/
def read (text : List Char) : Except Fault Value := do
  match ← Node.ofTokens (← tokens text) with
  | none => return .null
  | some node => node.value

end ApiOutline.Yaml
