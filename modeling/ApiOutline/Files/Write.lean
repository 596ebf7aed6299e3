import ApiOutline.Files.Store
import ApiOutline.Text.Quoted

/-!
# Writing whole files

A text is written to a new temporary file in the directory of its target, and the temporary file
takes the place of the target only when it is complete. If a step fails, the temporary file is
removed, so that no file is left half written. Which steps fail is the store's affair; `WriteFaults`
names further steps that fail, as on a full disk.
-/

namespace ApiOutline.Files

/-- The steps of writing a text. -/
inductive WriteStep where
  | makeDirectories
  | makeTemporary
  | fill
  | replace
deriving DecidableEq, Repr

/-- The steps that fail for reasons outside the store. -/
abbrev WriteFaults := WriteStep → Option StoreFault

/-- Every step is left to the store. -/
def WriteFaults.nowhere : WriteFaults := fun _ => none

/-- The greatest length of the names in a directory. -/
def longestName (entries : Directory) : Nat :=
  entries.foldr (fun entry longest => max entry.1.length longest) 0

/-- A name for a temporary file. It is longer than every name in the directory, hence new. -/
def temporaryName (entries : Directory) : String :=
  ".codemap-" ++ String.ofList (List.replicate (longestName entries) '0') ++ ".tmp"

/-- The parts up to the first directory of them that cannot be made. -/
def partsUnmade : List String → Directory → List String
  | [], _ => []
  | part :: parts, entries =>
    match entries.lookup part with
    | some (.dir inner) => part :: partsUnmade parts inner
    | some (.file _) => part :: parts.take 1
    | none =>
      match checkName part with
      | .error _ => [part]
      | .ok () => part :: partsUnmade parts []

namespace Store

/-- The directory and the name that a file gets when it is moved to a path text. The target must not
be a directory. -/
def moveTarget (store : Store) (path : String) : Except StoreFault (List String × String) := do
  if '\x00' ∈ path.toList then throw .nullCharacter
  if path.isEmpty then throw .missing
  let parts := partsOf path
  let place ← store.follow (store.start path) parts.dropLast
  match store.directory? place with
  | none => throw .notDirectory
  | some entries =>
    match parts.getLast? with
    | none => throw .busy
    | some name =>
      if name = "." ∨ name = ".." then throw .busy
      if maxNameBytes < name.utf8ByteSize then throw .nameTooLong
      if endsWithSlash path then throw .notDirectory
      match entries.lookup name with
      | some (.dir _) => throw .isDirectory
      | _ => return (place, name)

/-- Write a text to a path, whole or not at all. The answer is the path. -/
def writeText (store : Store) (faults : WriteFaults) (path content : String) :
    Except StoreFault String × Store :=
  let place := (store.locate path).parent.parts
  match faults .makeDirectories with
  | some fault => (.error fault, store)
  | none =>
    match store.makeDirectories place with
    | (.error fault, store) => (.error fault, store)
    | (.ok (), store) =>
      match faults .makeTemporary with
      | some fault => (.error fault, store)
      | none =>
        let temporary := temporaryName ((store.directory? place).getD [])
        let opened := store.put place temporary (.file [])
        match faults .fill with
        | some fault => (.error fault, opened.erase place temporary)
        | none =>
          let bytes := Text.Utf8.ofString content
          let filled := opened.put place temporary (.file bytes)
          let target : Except StoreFault (List String × String) :=
            match faults .replace with
            | some fault => .error fault
            | none => filled.moveTarget path
          match target with
          | .error fault => (.error fault, filled.erase place temporary)
          | .ok (directory, name) =>
            (.ok path, (filled.erase place temporary).put directory name (.file bytes))

/-- What a message about a text that the store does not write names: the directory that cannot be made, or the
temporary file and the path that it was to be moved to. -/
def writeSubject (store : Store) (path : String) : String :=
  let directory := (store.locate path).parent
  match store.makeDirectories directory.parts with
  | (.error _, _) => Text.quoted (Location.mk directory.doubled (partsUnmade directory.parts store.root)).text
  | (.ok (), made) =>
    let temporary := temporaryName ((made.directory? directory.parts).getD [])
    let opened : Location := ⟨directory.doubled, directory.parts ++ [temporary]⟩
    Text.quoted opened.text ++ " -> " ++ Text.quoted path

end Store

end ApiOutline.Files
