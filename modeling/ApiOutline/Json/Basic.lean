import ApiOutline.Number.Binary64

/-!
# JSON documents

Whole numbers are integers of any size; numbers written with a fraction or an exponent are binary
floating point. The fields of an object keep their order.
-/

namespace ApiOutline

open Number (Binary64)

/-- A JSON document. -/
inductive Json where
  | null
  | bool (value : Bool)
  | int (value : Int)
  | float (value : Binary64)
  | str (value : String)
  | arr (items : List Json)
  | obj (fields : List (String × Json))
deriving Inhabited

namespace Json

mutual

/-- Whether two documents are the same, fields in the same order. -/
def same : Json → Json → Bool
  | .null, .null => true
  | .bool a, .bool b => a == b
  | .int a, .int b => a == b
  | .float a, .float b => a == b
  | .str a, .str b => a == b
  | .arr a, .arr b => sameItems a b
  | .obj a, .obj b => sameFields a b
  | _, _ => false

/-- `same`, item by item. -/
def sameItems : List Json → List Json → Bool
  | [], [] => true
  | a :: as, b :: bs => same a b && sameItems as bs
  | _, _ => false

/-- `same`, field by field. -/
def sameFields : List (String × Json) → List (String × Json) → Bool
  | [], [] => true
  | (k, a) :: as, (l, b) :: bs => k == l && same a b && sameFields as bs
  | _, _ => false

end

instance : BEq Json := ⟨same⟩

/-- Put a field: a key that is already there keeps its place and takes the new value. -/
def putField (key : String) (value : Json) : List (String × Json) → List (String × Json)
  | [] => [(key, value)]
  | field :: rest =>
    if field.1 = key then (key, value) :: rest else field :: putField key value rest

/-- The fields in the order in which their keys were first put, each with its last value. -/
def fieldsOf (pairs : List (String × Json)) : List (String × Json) :=
  pairs.foldl (fun fields pair => putField pair.1 pair.2 fields) []

/-- The value of a field. -/
def field? (key : String) (fields : List (String × Json)) : Option Json :=
  fields.lookup key

/-- The text that a document is. -/
def text? : Json → Option String
  | .str text => some text
  | _ => none

/-- The truth value that a document is. -/
def truth? : Json → Option Bool
  | .bool value => some value
  | _ => none

/-- The texts that a document lists. -/
def texts? : Json → Option (List String)
  | .arr items => items.mapM text?
  | _ => none

mutual

/-- The document with the fields of every object in increasing order of their keys. -/
def sorted : Json → Json
  | .arr items => .arr (sortedItems items)
  | .obj fields => .obj ((sortedFields fields).mergeSort fun a b => a.1 ≤ b.1)
  | other => other

/-- `sorted`, item by item. -/
def sortedItems : List Json → List Json
  | [] => []
  | item :: items => sorted item :: sortedItems items

/-- `sorted`, on the values of fields. -/
def sortedFields : List (String × Json) → List (String × Json)
  | [] => []
  | (key, value) :: fields => (key, sorted value) :: sortedFields fields

end

end Json

end ApiOutline
