/-!
# Kinds of declarations
-/

namespace ApiOutline.Outline

/-- The kinds of declarations that an outline shows. -/
inductive Kind where
  | nameSpace
  | classType
  | interfaceType
  | record
  | enumeration
  | constructor
  | method
  | property
deriving DecidableEq, Inhabited, Repr

namespace Kind

/-- All kinds. -/
def all : List Kind :=
  [nameSpace, classType, interfaceType, record, enumeration, constructor, method, property]

/-- The name of a kind in artifacts. -/
def name : Kind → String
  | nameSpace => "Namespace"
  | classType => "Class"
  | interfaceType => "Interface"
  | record => "Record"
  | enumeration => "Enum"
  | constructor => "Constructor"
  | method => "Method"
  | property => "Property"

/-- The kind of a name. -/
def ofName? (name : String) : Option Kind :=
  all.find? fun kind => kind.name == name

/-- Whether declarations of the kind are types. -/
def isType : Kind → Bool
  | classType | interfaceType | record | enumeration => true
  | _ => false

/-- Whether declarations of the kind can be called. -/
def isCallable : Kind → Bool
  | method | constructor => true
  | _ => false

/-- Whether declarations inside one of the kind belong to the outline. -/
def canNest : Kind → Bool
  | nameSpace | classType | interfaceType | record => true
  | _ => false

/-- Whether the outline shows the base types of declarations of the kind. -/
def showsBaseTypes : Kind → Bool
  | classType | interfaceType => true
  | _ => false

/-- Whether a declaration without access modifier directly inside one of the kind is private. -/
def hidesUnmarked : Kind → Bool
  | classType | record => true
  | _ => false

/-- A name names one kind. -/
theorem ofName?_name (kind : Kind) : ofName? kind.name = some kind := by
  cases kind <;> decide

end Kind

end ApiOutline.Outline
