import ApiOutline.Json.Printer
import ApiOutline.Outline.Member

/-!
# The JSON artifact

A project as a JSON document with its totals and its files. A member always has its kind and its
signature; every other field is written only if it has something to say.
-/

namespace ApiOutline.Artifact

open Number (Unwritable)
open Outline (Member FileMap Project Totals)

/-- A list of texts. -/
def textItems (texts : List String) : Json :=
  .arr (texts.map .str)

mutual

/-- The document of a member. -/
def memberDocument : Member → Json
  | ⟨kind, signature, line, isStatic, doc, baseTypes, attributes, children⟩ =>
    .obj (
      [("kind", .str kind.name), ("signature", .str signature)] ++
      (match line with
        | none => []
        | some line => if line = 0 then [] else [("line", .int line)]) ++
      (if isStatic then [("static", .bool true)] else []) ++
      (match doc with
        | none => []
        | some doc => if doc.isEmpty then [] else [("doc", .str doc)]) ++
      (if baseTypes.isEmpty then [] else [("baseTypes", textItems baseTypes)]) ++
      (if attributes.isEmpty then [] else [("attributes", textItems attributes)]) ++
      (if children.isEmpty then [] else [("children", .arr (memberDocuments children))]))

/-- The documents of a forest. -/
def memberDocuments : List Member → List Json
  | [] => []
  | member :: members => memberDocument member :: memberDocuments members

end

/-- The document of a file. -/
def fileDocument (file : FileMap) : Json :=
  .obj [("path", .str file.path), ("members", .arr (memberDocuments file.members))]

/-- The document of totals. -/
def totalsDocument (totals : Totals) : Json :=
  .obj [("files", .int totals.files), ("namespaces", .int totals.counts.namespaces),
    ("types", .int totals.counts.types), ("methods", .int totals.counts.methods)]

/-- The document of a project. -/
def projectDocument (project : Project) : Json :=
  .obj [("summary", totalsDocument project.totals), ("files", .arr (project.files.map fileDocument))]

/-- Artifacts keep characters outside ASCII and put every item on a line of its own. -/
def artifactStyle : Json.Style := ⟨false, true⟩

/-- The JSON artifact of a project, if its numbers can be written. -/
def renderJson (project : Project) : Except Unwritable String :=
  ((projectDocument project).dump artifactStyle).map (· ++ "\n")

end ApiOutline.Artifact
