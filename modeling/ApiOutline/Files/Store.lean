import ApiOutline.Files.Location
import ApiOutline.Text.Utf8

/-!
# The file store

A store is a tree of directories and files, seen from a working directory. Each directory lists its
entries in an order of its own. A path text is followed part by part through the tree: every part but
the last has to lead to a directory, and what stands in the way is a `StoreFault`.
-/

namespace ApiOutline.Files

open Text (Bytes)

/-- What stands at a place of a store. -/
inductive Entry where
  | file (content : Bytes)
  | dir (entries : List (String × Entry))
deriving Inhabited

/-- The entries of a directory, in the order in which it lists them. -/
abbrev Directory := List (String × Entry)

/-- Why a store cannot do what it is asked for. -/
inductive StoreFault where
  | missing
  | busy
  | taken
  | notDirectory
  | isDirectory
  | nameTooLong
  | nullCharacter
deriving DecidableEq, Repr

/-- The number and the words of a fault of the system. -/
def StoreFault.report? : StoreFault → Option (Nat × String)
  | .missing => some (2, "No such file or directory")
  | .busy => some (16, "Device or resource busy")
  | .taken => some (17, "File exists")
  | .notDirectory => some (20, "Not a directory")
  | .isDirectory => some (21, "Is a directory")
  | .nameTooLong => some (36, "File name too long")
  | .nullCharacter => none

/-- The text of a fault about a subject: the path, in quotes, that was to be read or made, or two of them. -/
def StoreFault.message (fault : StoreFault) (subject : String) : String :=
  match fault.report? with
  | some (number, words) => s!"[Errno {number}] {words}: {subject}"
  | none => "embedded null byte"

/-- The greatest number of bytes of a name. -/
def maxNameBytes : Nat := 255

/-- Check that a name can be looked up and made. -/
def checkName (name : String) : Except StoreFault Unit :=
  if '\x00' ∈ name.toList then .error .nullCharacter
  else if maxNameBytes < name.utf8ByteSize then .error .nameTooLong
  else .ok ()

/-- What stands at the end of parts below an entry. -/
def Entry.find? : Entry → List String → Option Entry
  | entry, [] => some entry
  | .file _, _ :: _ => none
  | .dir entries, part :: parts =>
    match entries.lookup part with
    | none => none
    | some entry => entry.find? parts

/-- Whether an entry is a file. -/
def Entry.isFile : Entry → Bool
  | .file _ => true
  | .dir _ => false

/-- Set the entry of a name: one that is there keeps its place, a new one goes last. -/
def setEntry (name : String) (entry : Entry) : Directory → Directory
  | [] => [(name, entry)]
  | other :: rest =>
    if other.1 = name then (name, entry) :: rest else other :: setEntry name entry rest

/-- Remove the entry of a name. -/
def eraseEntry (name : String) (entries : Directory) : Directory :=
  entries.filter fun entry => entry.1 ≠ name

/-- Change the directory at the end of parts, if there is one. -/
def alterAt (change : Directory → Directory) : List String → Directory → Directory
  | [], entries => change entries
  | part :: parts, entries =>
    match entries.lookup part with
    | some (.dir inner) => setEntry part (.dir (alterAt change parts inner)) entries
    | _ => entries

/-- Make the directories of parts that are not there. Those made before a fault stay. -/
def makeAll : List String → Directory → Except StoreFault Unit × Directory
  | [], entries => (.ok (), entries)
  | part :: parts, entries =>
    match entries.lookup part with
    | some (.dir inner) =>
      let (made, inner) := makeAll parts inner
      (made, setEntry part (.dir inner) entries)
    | some (.file _) =>
      match parts with
      | [] => (.error .taken, entries)
      | next :: _ =>
        (.error (if '\x00' ∈ next.toList then .nullCharacter else .notDirectory), entries)
    | none =>
      match checkName part with
      | .error fault => (.error fault, entries)
      | .ok () =>
        let (made, inner) := makeAll parts []
        (made, setEntry part (.dir inner) entries)

mutual

/-- All entries below an entry with their parts from it. Only directories whose names `enters`
accepts are looked into. -/
def Entry.contents (enters : String → Bool) : Entry → List (List String × Entry)
  | .file _ => []
  | .dir entries => entriesBelow enters entries

/-- All entries in and below a directory. -/
def entriesBelow (enters : String → Bool) : List (String × Entry) → List (List String × Entry)
  | [] => []
  | (name, entry) :: rest =>
    let inner := if enters name then entry.contents enters else []
    ([name], entry) :: inner.map (fun found => (name :: found.1, found.2)) ++
      entriesBelow enters rest

end

/-- A tree of files seen from a working directory. -/
structure Store where
  root : Directory
  workingDir : Location

namespace Store

/-- The location that a path text stands for. -/
def locate (store : Store) (path : String) : Location :=
  Location.of store.workingDir path

/-- What stands at parts from the root. -/
def find? (store : Store) (parts : List String) : Option Entry :=
  (Entry.dir store.root).find? parts

/-- The directory at parts from the root. -/
def directory? (store : Store) (parts : List String) : Option Directory :=
  match store.find? parts with
  | some (.dir entries) => some entries
  | _ => none

/-- Set an entry in the directory at parts. -/
def put (store : Store) (parts : List String) (name : String) (entry : Entry) : Store :=
  { store with root := alterAt (setEntry name entry) parts store.root }

/-- Remove an entry from the directory at parts. -/
def erase (store : Store) (parts : List String) (name : String) : Store :=
  { store with root := alterAt (eraseEntry name) parts store.root }

/-- Make the directories of parts that are not there. -/
def makeDirectories (store : Store) (parts : List String) : Except StoreFault Unit × Store :=
  let (made, root) := makeAll parts store.root
  (made, { store with root })

/-- Follow parts from a place, one directory after another. -/
def follow (store : Store) (place : List String) : List String → Except StoreFault (List String)
  | [] => .ok place
  | part :: parts =>
    match store.directory? place with
    | none => .error .notDirectory
    | some entries =>
      if part = "." then store.follow place parts
      else if part = ".." then store.follow place.dropLast parts
      else if maxNameBytes < part.utf8ByteSize then .error .nameTooLong
      else if (entries.lookup part).isSome then store.follow (place ++ [part]) parts
      else .error .missing

/-- The place where following a path text starts. -/
def start (store : Store) (path : String) : List String :=
  if isAbsolute path then [] else store.workingDir.parts

/-- Whether a path text ends with a slash, which only a directory may have. -/
def endsWithSlash (path : String) : Bool :=
  path.toList.getLast? = some '/'

/-- The place that a path text leads to. -/
def resolve (store : Store) (path : String) : Except StoreFault (List String) := do
  if '\x00' ∈ path.toList then throw .nullCharacter
  if path.isEmpty then throw .missing
  let place ← store.follow (store.start path) (partsOf path)
  if endsWithSlash path && (store.directory? place).isNone then throw .notDirectory
  return place

/-- The content of the file that a path text leads to. -/
def read (store : Store) (path : String) : Except StoreFault Bytes := do
  let place ← store.resolve path
  match store.find? place with
  | some (.file content) => return content
  | some (.dir _) => throw .isDirectory
  | none => throw .missing

end Store

end ApiOutline.Files
