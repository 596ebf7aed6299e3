import ApiOutline.Outline.Kind

/-!
# Outlines

The outline of a source is a forest of members, each with its signature, its line and what the source
says about it. A project is the list of the outlines of its files.
-/

namespace ApiOutline.Outline

/-- A declaration in an outline, with the declarations nested in it. -/
structure Member where
  kind : Kind
  /-- The declaration on one line. -/
  signature : String
  /-- The line of the declaration, counted from one, if known. -/
  line : Option Int := none
  isStatic : Bool := false
  /-- The short summary of its documentation. -/
  doc : Option String := none
  baseTypes : List String := []
  attributes : List String := []
  children : List Member := []
deriving Inhabited

/-- The outline of a file. -/
structure FileMap where
  path : String
  members : List Member

/-- The numbers of namespaces, types and methods. -/
structure Counts where
  namespaces : Int := 0
  types : Int := 0
  methods : Int := 0
deriving DecidableEq, Repr

/-- Numbers add up one by one. -/
def Counts.add (a b : Counts) : Counts :=
  ⟨a.namespaces + b.namespaces, a.types + b.types, a.methods + b.methods⟩

instance : Add Counts := ⟨Counts.add⟩

/-- What one declaration of a kind counts for. -/
def Counts.ofKind (kind : Kind) : Counts where
  namespaces := if kind = .nameSpace then 1 else 0
  types := if kind.isType then 1 else 0
  methods := if kind.isCallable then 1 else 0

mutual

/-- The numbers in a member and all that is nested in it. -/
def Member.counts : Member → Counts
  | ⟨kind, _, _, _, _, _, _, children⟩ => Counts.ofKind kind + countMembers children

/-- The numbers in a forest. -/
def countMembers : List Member → Counts
  | [] => {}
  | member :: members => member.counts + countMembers members

end

/-- The numbers in files. -/
def countFiles : List FileMap → Counts
  | [] => {}
  | file :: files => countMembers file.members + countFiles files

/-- The outlines of the files of a project. -/
structure Project where
  name : String
  files : List FileMap := []
  counts : Counts := {}
  /-- Files that could not be mapped. -/
  failedFiles : List String := []

/-- The head of an artifact: how many files, namespaces, types and methods it shows. -/
structure Totals where
  files : Int
  counts : Counts
deriving DecidableEq, Repr

/-- The totals of a project. -/
def Project.totals (project : Project) : Totals :=
  ⟨project.files.length, project.counts⟩

/-- The totals of a run over several projects. -/
structure RunSummary where
  projects : Int := 0
  files : Int := 0
  counts : Counts := {}
deriving DecidableEq, Repr

/-- Add the totals of one project. -/
def RunSummary.add (summary : RunSummary) (totals : Totals) : RunSummary :=
  ⟨summary.projects + 1, summary.files + totals.files, summary.counts + totals.counts⟩

end ApiOutline.Outline
