import ApiOutline.Command.Line
import ApiOutline.Syntax.Document

/-!
# Snapshots

The command works on a snapshot of a tree of files, with the syntax trees of its sources. A snapshot is
written as one document a line: an object with the `path` of a file, its `text` or its bytes as `hex`,
and the `tree` of a source. A line with a `time` tells when the snapshot was taken. Afterwards
`changes` lists the files that the command wrote.
-/

namespace ApiOutline.Command

open Files (Entry Location Store)
open Syntax (Node)
open Text (Bytes)

/-- A tree of files with the syntax trees of sources. -/
structure Snapshot where
  store : Store
  trees : List (Bytes × Node) := []
  time : String := ""

namespace Snapshot

/-- A snapshot without any file but the working directory. -/
def empty (workingDir : String) : Snapshot :=
  let location := Location.of ⟨false, []⟩ workingDir
  let bare : Store := ⟨[], location⟩
  ⟨(bare.makeDirectories location.parts).2, [], ""⟩

/-- The bytes that pairs of hexadecimal digits stand for. -/
def bytesOfHex? : List Char → Option Bytes
  | [] => some []
  | high :: low :: rest => do
    let value := (← Number.hexValue? high) * 16 + (← Number.hexValue? low)
    return value.toUInt8 :: (← bytesOfHex? rest)
  | _ => none

/-- The content of a file that is written as text or as hexadecimal digits. -/
def contentIn? (fields : List (String × Json)) : Option Bytes :=
  match Syntax.textIn? "text" fields with
  | some text => some (Text.Utf8.ofString text)
  | none => do bytesOfHex? (← Syntax.textIn? "hex" fields).toList

/-- Put a file at its place. -/
def putFile (snapshot : Snapshot) (path : String) (content : Bytes) : Snapshot :=
  let location := snapshot.store.locate path
  let store := (snapshot.store.makeDirectories location.parent.parts).2
  { snapshot with store := store.put location.parent.parts location.name (.file content) }

/-- The snapshot with what one document adds to it. -/
def add? (snapshot : Snapshot) : Json → Option Snapshot
  | .obj fields =>
    match Syntax.textIn? "path" fields with
    | none => do return { snapshot with time := ← Syntax.textIn? "time" fields }
    | some path => do
      let content ← contentIn? fields
      let snapshot := snapshot.putFile path content
      match Json.field? "tree" fields with
      | none => return snapshot
      | some document =>
        let tree ← Node.ofDocument? document
        return { snapshot with trees := (Text.Utf8.dropMark content, tree) :: snapshot.trees }
  | _ => none

/-- The snapshot with what lines add to it, or the number of the first line that adds nothing. -/
def addLines (snapshot : Snapshot) (number : Nat) : List String → Except Nat Snapshot
  | [] => .ok snapshot
  | line :: lines =>
    match (Json.parseString line).toOption.bind snapshot.add? with
    | none => .error number
    | some snapshot => snapshot.addLines (number + 1) lines

/-- The tree of the bytes of a source. Bytes without a tree have an empty one. -/
def parse (snapshot : Snapshot) (bytes : Bytes) : Node :=
  (snapshot.trees.lookup bytes).getD ⟨"compilation_unit", 0, bytes.length, none, true, false, false, []⟩

/-- The files of a store with their parts. -/
def files (store : Store) : List (List String × Bytes) :=
  ((Entry.dir store.root).contents fun _ => true).filterMap fun
    | (parts, .file content) => some (parts, content)
    | _ => none

/-- The files of a store that are not the same in the snapshot: their directory, path and content. -/
def changes (snapshot : Snapshot) (after : Store) : List (String × String × Bytes) :=
  let before := files snapshot.store
  ((files after).filter fun file => before.lookup file.1 ≠ some file.2).map fun (parts, content) =>
    let location : Location := ⟨false, parts⟩
    (location.parent.text, location.text, content)

end Snapshot

end ApiOutline.Command
