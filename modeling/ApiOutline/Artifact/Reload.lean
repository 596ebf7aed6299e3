import ApiOutline.Artifact.Document
import ApiOutline.Data.Value
import ApiOutline.Json.Reader

/-!
# Reading the JSON artifact

`reload` reads a JSON artifact back into its totals and files. It checks the shape of the document as
far as it uses it: a member must have a known kind and a signature, its lists must be lists, or texts
or objects, which count as the lists of their characters and of their keys. The line and the
documentation of a member are taken as they are.
-/

namespace ApiOutline.Artifact

open Data (Value)
open Outline (Kind Member FileMap Project Totals)

/-- A member as an artifact describes it. -/
structure ReloadedMember where
  kind : Kind
  signature : String
  line : Json
  isStatic : Bool
  doc : Json
  baseTypes : List Json
  attributes : List Json
  children : List ReloadedMember

/-- A file as an artifact describes it. -/
structure ReloadedFile where
  path : String
  members : List ReloadedMember

/-- An artifact read back. The totals are any entries with keys that are no containers. -/
structure Reloaded where
  totals : List (Json × Json)
  files : List ReloadedFile

/-- Why a text is not read as an artifact. -/
inductive ReloadFault where
  | json (fault : Json.Fault)
  /-- The document is no object. -/
  | notAnObject
  /-- Its files are no list. -/
  | filesNotAList
  /-- A member lacks its kind or its signature. -/
  | incompleteMember
  /-- The kind of a member is unknown. -/
  | unknownKind (value : Json)
  /-- A file lacks its path. -/
  | noPath
  /-- The totals have an entry that is no pair. -/
  | totalsNotPairs
  /-- A value has the wrong type. -/
  | wrongType

/-- The document as a value in a message. -/
def literal (doc : Json) : String :=
  String.ofList (Value.ofJson doc).literal

/-- The document as a text. -/
def textOf (doc : Json) : String :=
  String.ofList (Value.ofJson doc).text

/-- The items of a document that can be gone through one by one. -/
def itemsOf : Json → Except ReloadFault (List Json)
  | .arr items => .ok items
  | .str s => .ok (s.toList.map fun c => .str (String.ofList [c]))
  | .obj fields => .ok (fields.map fun field => .str field.1)
  | _ => .error .wrongType

/-- The items of a field that may be absent. -/
def fieldItems (key : String) (fields : List (String × Json)) : Except ReloadFault (List Json) :=
  match Json.field? key fields with
  | none => .ok []
  | some doc => itemsOf doc

/-- Whether a document counts as true. -/
def isTrue : Json → Bool
  | .null => false
  | .bool b => b
  | .int i => i != 0
  | .float x => !x.isZero
  | .str s => !s.isEmpty
  | .arr items => !items.isEmpty
  | .obj fields => !fields.isEmpty

/-- Whether a text holds another one. -/
def holds (part : List Char) : List Char → Bool
  | [] => part.isEmpty
  | c :: cs => part.isPrefixOf (c :: cs) || holds part cs

/-- Whether a document mentions a key: as a field, an item or a part of a text. -/
def mentions (key : String) : Json → Except ReloadFault Bool
  | .obj fields => .ok (fields.any fun field => field.1 == key)
  | .arr items => .ok (items.any (· == .str key))
  | .str s => .ok (holds key.toList s.toList)
  | _ => .error .wrongType

/-- What is wrong with a document that should be a member and is no object. -/
def memberFault (doc : Json) : ReloadFault :=
  match mentions "kind" doc, mentions "signature" doc with
  | .ok true, .ok true => .wrongType
  | .ok _, .ok _ => .incompleteMember
  | _, _ => .wrongType

/-- The kind that a document names. -/
def kindOf (doc : Json) : Except ReloadFault Kind :=
  match doc with
  | .str name =>
    match Kind.ofName? name with
    | some kind => .ok kind
    | none => .error (.unknownKind doc)
  | _ => .error (.unknownKind doc)

mutual

/-- The member that a document describes. -/
def memberOf : Json → Except ReloadFault ReloadedMember
  | .obj fields =>
    match Json.field? "kind" fields, Json.field? "signature" fields with
    | some kindDoc, some signature => do
      let kind ← kindOf kindDoc
      let baseTypes ← fieldItems "baseTypes" fields
      let attributes ← fieldItems "attributes" fields
      let children ← childrenOf fields
      return {
        kind
        signature := textOf signature
        line := (Json.field? "line" fields).getD .null
        isStatic := ((Json.field? "static" fields).map isTrue).getD false
        doc := (Json.field? "doc" fields).getD .null
        baseTypes
        attributes
        children }
    | _, _ => .error .incompleteMember
  | other => .error (memberFault other)

/-- The members in the field of children, if there is one. -/
def childrenOf : List (String × Json) → Except ReloadFault (List ReloadedMember)
  | [] => .ok []
  | (key, doc) :: fields => if key = "children" then membersOf doc else childrenOf fields

/-- The members that the items of a document describe. -/
def membersOf : Json → Except ReloadFault (List ReloadedMember)
  | .arr items => memberList items
  | .str s =>
    match s.toList with
    | [] => .ok []
    | c :: _ => .error (memberFault (.str (String.ofList [c])))
  | .obj fields =>
    match fields with
    | [] => .ok []
    | (key, _) :: _ => .error (memberFault (.str key))
  | _ => .error .wrongType

/-- The members that documents describe, one by one. -/
def memberList : List Json → Except ReloadFault (List ReloadedMember)
  | [] => .ok []
  | doc :: docs => do
    let member ← memberOf doc
    let members ← memberList docs
    return member :: members

end

/-- The file that a document describes. -/
def fileOf : Json → Except ReloadFault ReloadedFile
  | .obj fields =>
    match Json.field? "path" fields with
    | none => .error .noPath
    | some path => do
      let members ←
        match Json.field? "members" fields with
        | none => pure []
        | some doc => membersOf doc
      return ⟨textOf path, members⟩
  | _ => .error .wrongType

/-- The files that documents describe, one by one. -/
def fileList : List Json → Except ReloadFault (List ReloadedFile)
  | [] => .ok []
  | doc :: docs => do
    let file ← fileOf doc
    let files ← fileList docs
    return file :: files

/-- Whether a document can be a key. -/
def isKey : Json → Bool
  | .arr _ | .obj _ => false
  | _ => true

/-- Put an entry: a key that is already there keeps its place and takes the new value. -/
def putEntry (key value : Json) : List (Json × Json) → List (Json × Json)
  | [] => [(key, value)]
  | entry :: rest =>
    if (Value.ofJson entry.1).sameKey (Value.ofJson key) then (entry.1, value) :: rest
    else entry :: putEntry key value rest

/-- Entries from documents that have two items each. -/
def entriesFrom (entries : List (Json × Json)) : List Json → Except ReloadFault (List (Json × Json))
  | [] => .ok entries
  | doc :: docs =>
    match itemsOf doc with
    | .error fault => .error fault
    | .ok [key, value] =>
      if isKey key then entriesFrom (putEntry key value entries) docs else .error .wrongType
    | .ok _ => .error .totalsNotPairs

/-- The entries that a document of totals holds: the fields of an object, or pairs. -/
def totalsOf : Json → Except ReloadFault (List (Json × Json))
  | .obj fields => .ok (fields.map fun field => (.str field.1, field.2))
  | other => do
    let items ← itemsOf other
    entriesFrom [] items

/-- The totals and files of an artifact. -/
def reloadDocument : Json → Except ReloadFault Reloaded
  | .obj fields =>
    match Json.field? "files" fields with
    | some (.arr docs) => do
      let files ← fileList docs
      let totals ← totalsOf ((Json.field? "summary" fields).getD (.obj []))
      return ⟨totals, files⟩
    | _ => .error .filesNotAList
  | _ => .error .notAnObject

/-- Read an artifact. -/
def reload (text : String) : Except ReloadFault Reloaded :=
  match Json.parseString text with
  | .error fault => .error (.json fault)
  | .ok doc => reloadDocument doc

/-- The text of a fault, where it has one. -/
def ReloadFault.message? : ReloadFault → Option String
  | .json .malformed => none
  | .json (.tooManyDigits fault) => some fault.message
  | .notAnObject => some "artifact must be an object"
  | .filesNotAList => some "artifact 'files' must be a list"
  | .incompleteMember => some "member requires 'kind' and 'signature'"
  | .unknownKind value => some (literal value ++ " is not a valid MemberKind")
  | .noPath => none
  | .totalsNotPairs => none
  | .wrongType => none

mutual

/-- A member as it is read back from the artifact that shows it: line zero and the empty
documentation are not written. -/
def asReloaded : Member → ReloadedMember
  | ⟨kind, signature, line, isStatic, doc, baseTypes, attributes, children⟩ =>
    { kind
      signature
      line :=
        match line with
        | none => .null
        | some line => if line = 0 then .null else .int line
      isStatic
      doc :=
        match doc with
        | none => .null
        | some doc => if doc.isEmpty then .null else .str doc
      baseTypes := baseTypes.map .str
      attributes := attributes.map .str
      children := allReloaded children }

/-- `asReloaded`, member by member. -/
def allReloaded : List Member → List ReloadedMember
  | [] => []
  | member :: members => asReloaded member :: allReloaded members

end

mutual

/-- Whether a member read back is the given one. -/
def ReloadedMember.isSame : ReloadedMember → Member → Bool
  | ⟨kind, signature, line, isStatic, doc, baseTypes, attributes, children⟩, member =>
    kind == member.kind && signature == member.signature &&
      line == ((member.line.map Json.int).getD .null) && isStatic == member.isStatic &&
      doc == ((member.doc.map Json.str).getD .null) && baseTypes == member.baseTypes.map .str &&
      attributes == member.attributes.map .str && allSame children member.children

/-- `isSame`, member by member. -/
def allSame : List ReloadedMember → List Member → Bool
  | [], [] => true
  | reloaded :: others, member :: members => reloaded.isSame member && allSame others members
  | _, _ => false

end

/-- Whether files read back are the given ones. -/
def filesSame : List ReloadedFile → List FileMap → Bool
  | [], [] => true
  | reloaded :: others, file :: files =>
    reloaded.path == file.path && allSame reloaded.members file.members && filesSame others files
  | _, _ => false

end ApiOutline.Artifact
