import ApiOutline.Artifact.Reload
import ApiOutline.Proofs.Outcome

/-!
# What an artifact is rejected for

Reading an artifact looks at its parts in a fixed order: the document, each file with its members at every depth,
and the totals. `parts` lists them, and `Part.faults` is what is wrong with a part by itself. Reading stops at the
first of all these faults and succeeds if there is none (`reports_reloadDocument`): each reader is a sequence of
steps, and a sequence reports the faults of its steps one after the other (`Reports.bind`).

Not every fault is a refusal. Reading goes through lists, and takes fields of files, before it has looked at what
they are, so a fault there is one of the access itself (`ReloadFault.escapes`).
-/

namespace ApiOutline.Outcome

variable {ε α β : Type}

/-- Whether an outcome tells the first of the given faults: it fails with that fault, and succeeds if there is
none. -/
def Reports (x : Except ε α) (faults : List ε) : Prop :=
  match faults with
  | [] => ∃ a, x = .ok a
  | fault :: _ => x = .error fault

/-- A success tells no fault. -/
theorem Reports.ok (a : α) : Reports (.ok a : Except ε α) [] :=
  ⟨a, rfl⟩

/-- A failure tells its fault first, whatever else there is. -/
theorem Reports.error (fault : ε) (faults : List ε) : Reports (.error fault : Except ε α) (fault :: faults) :=
  rfl

/-- Two steps tell the faults of the first one and then those of the second one. -/
theorem Reports.bind {x : Except ε α} {f : α → Except ε β} {faults others : List ε} (hx : Reports x faults)
    (hf : ∀ a, x = .ok a → Reports (f a) others) : Reports (x >>= f) (faults ++ others) := by
  cases faults with
  | nil =>
    obtain ⟨a, rfl⟩ := hx
    exact hf a rfl
  | cons fault faults =>
    obtain rfl : x = .error fault := hx
    exact .error fault _

/-- A step that only returns something else tells the same faults. -/
theorem Reports.bind_pure {x : Except ε α} {faults : List ε} (hx : Reports x faults) (f : α → β) :
    Reports (x >>= fun a => pure (f a)) faults := by
  have hbind := hx.bind fun a _ => Reports.ok (ε := ε) (f a)
  rwa [List.append_nil] at hbind

/-- An outcome succeeds if it has no fault to tell. -/
theorem Reports.eq_ok_iff {x : Except ε α} {faults : List ε} (h : Reports x faults) :
    (∃ a, x = .ok a) ↔ faults = [] := by
  cases faults with
  | nil => exact ⟨fun _ => rfl, fun _ => h⟩
  | cons fault faults =>
    obtain rfl : x = .error fault := h
    simp

/-- An outcome fails with the first fault it has to tell. -/
theorem Reports.eq_error_iff {x : Except ε α} {faults : List ε} (h : Reports x faults) {fault : ε} :
    x = .error fault ↔ faults.head? = some fault := by
  cases faults with
  | nil =>
    obtain ⟨a, rfl⟩ := h
    simp
  | cons first faults =>
    obtain rfl : x = .error first := h
    simp

end ApiOutline.Outcome

namespace ApiOutline.Artifact

open Outcome (Reports)
open Outline (Kind)

/-! ## Parts and their faults -/

/-- A part of an artifact in which something can be wrong. -/
inductive Part where
  | document (doc : Json)
  | file (doc : Json)
  | member (doc : Json)
  | totals (doc : Json)

/-- Whether a document has nothing to go through. -/
def isScalar : Json → Bool
  | .null | .bool _ | .int _ | .float _ => true
  | .str _ | .arr _ | .obj _ => false

/-- What is wrong with a document that is gone through. -/
def listFaults (doc : Json) : List ReloadFault :=
  if isScalar doc then [.wrongType] else []

/-- What is wrong with a field that is gone through if it is there. -/
def fieldFaults (key : String) (fields : List (String × Json)) : List ReloadFault :=
  ((Json.field? key fields).map listFaults).getD []

/-- What is wrong with a field that must be there. -/
def absenceFaults (key : String) (fields : List (String × Json)) (fault : ReloadFault) : List ReloadFault :=
  if (Json.field? key fields).isSome then [] else [fault]

/-- What is wrong with the kind of a member, if it has one. -/
def kindFaults (fields : List (String × Json)) : List ReloadFault :=
  match Json.field? "kind" fields with
  | none => []
  | some (.str name) => if (Kind.ofName? name).isSome then [] else [.unknownKind (.str name)]
  | some doc => [.unknownKind doc]

/-- What is wrong with an entry of totals that are listed as pairs. -/
def pairFaults (doc : Json) : List ReloadFault :=
  match itemsOf doc with
  | .error fault => [fault]
  | .ok [key, _] => if isKey key then [] else [.wrongType]
  | .ok _ => [.totalsNotPairs]

/-- What is wrong with a part by itself, in the order in which reading looks at it. -/
def Part.faults : Part → List ReloadFault
  | .document (.obj fields) =>
    match Json.field? "files" fields with
    | some (.arr _) => []
    | _ => [.filesNotAList]
  | .document _ => [.notAnObject]
  | .file (.obj fields) => absenceFaults "path" fields .noPath ++ fieldFaults "members" fields
  | .file _ => [.wrongType]
  | .member (.obj fields) =>
    absenceFaults "kind" fields .incompleteMember ++ absenceFaults "signature" fields .incompleteMember ++
      kindFaults fields ++ fieldFaults "baseTypes" fields ++ fieldFaults "attributes" fields ++
      fieldFaults "children" fields
  | .member doc => [memberFault doc]
  | .totals (.obj _) => []
  | .totals doc =>
    match itemsOf doc with
    | .error fault => [fault]
    | .ok items => items.flatMap pairFaults

mutual

/-- A member and the members below it, each before its children. -/
def memberParts : Json → List Part
  | .obj fields => .member (.obj fields) :: childParts fields
  | doc => [.member doc]

/-- The members in the field of children and below them. -/
def childParts : List (String × Json) → List Part
  | [] => []
  | (key, doc) :: fields => if key = "children" then listedParts doc else childParts fields

/-- The members that a document lists. The characters of a text and the keys of an object count as its items. -/
def listedParts : Json → List Part
  | .arr items => itemParts items
  | .str s => s.toList.map fun c => .member (.str (String.ofList [c]))
  | .obj fields => fields.map fun field => .member (.str field.1)
  | _ => []

/-- `memberParts`, item by item. -/
def itemParts : List Json → List Part
  | [] => []
  | doc :: docs => memberParts doc ++ itemParts docs

end

/-- A file and all its members. -/
def fileParts : Json → List Part
  | .obj fields => .file (.obj fields) :: ((Json.field? "members" fields).map listedParts).getD []
  | doc => [.file doc]

/-- The parts of an artifact in the order in which they are read. -/
def parts : Json → List Part
  | .obj fields =>
    .document (.obj fields) ::
      ((match Json.field? "files" fields with
        | some (.arr docs) => docs.flatMap fileParts
        | _ => []) ++
      [.totals ((Json.field? "summary" fields).getD (.obj []))])
  | doc => [.document doc]

/-- All that is wrong with parts. -/
def faultsOf (ps : List Part) : List ReloadFault :=
  ps.flatMap Part.faults

/-- The faults of a part come before those of the later parts. -/
@[simp]
theorem faultsOf_cons (part : Part) (ps : List Part) : faultsOf (part :: ps) = part.faults ++ faultsOf ps :=
  List.flatMap_cons

/-- Parts side by side have the faults of each. -/
@[simp]
theorem faultsOf_append (ps qs : List Part) : faultsOf (ps ++ qs) = faultsOf ps ++ faultsOf qs :=
  List.flatMap_append

/-- Without parts there is no fault. -/
@[simp]
theorem faultsOf_nil : faultsOf [] = [] := rfl

/-- Whether a fault is one of an access to a value, rather than a refusal of the artifact. -/
def ReloadFault.escapes : ReloadFault → Bool
  | .noPath | .wrongType => true
  | .json _ | .notAnObject | .filesNotAList | .incompleteMember | .unknownKind _ | .totalsNotPairs => false

/-! ## Reading a member -/

variable {fields : List (String × Json)}

/-- Going through a document fails if there is nothing to go through. -/
theorem reports_itemsOf (doc : Json) : Reports (itemsOf doc) (listFaults doc) := by
  cases doc with
  | arr items => exact .ok items
  | str s => exact .ok _
  | obj fields => exact .ok _
  | _ => exact .error _ _

/-- Going through a field fails if the field is there and has nothing to go through. -/
theorem reports_fieldItems (key : String) (fields : List (String × Json)) :
    Reports (fieldItems key fields) (fieldFaults key fields) := by
  unfold fieldItems fieldFaults
  cases Json.field? key fields with
  | none => exact .ok []
  | some doc => exact reports_itemsOf doc

/-- A kind is refused if it is not the name of one. -/
theorem reports_kindOf {doc : Json} (h : Json.field? "kind" fields = some doc) :
    Reports (kindOf doc) (kindFaults fields) := by
  unfold kindOf kindFaults
  rw [h]
  cases doc with
  | str name =>
    cases hkind : Kind.ofName? name with
    | none => simpa [hkind] using Reports.error _ _
    | some kind => simpa [hkind] using Reports.ok kind
  | _ => exact .error _ _

/-- A member tells its own faults and then those of its children, if they do. -/
theorem reports_memberOf_obj
    (hchildren : Reports (childrenOf fields) (fieldFaults "children" fields ++ faultsOf (childParts fields))) :
    Reports (memberOf (.obj fields)) (faultsOf (memberParts (.obj fields))) := by
  rw [memberOf, memberParts, faultsOf_cons, Part.faults]
  -- Both fields must be there before anything else is looked at.
  cases hkind : Json.field? "kind" fields with
  | none => simpa [absenceFaults, hkind] using Reports.error _ _
  | some kindDoc =>
    cases hsignature : Json.field? "signature" fields with
    | none => simpa [absenceFaults, hkind, hsignature] using Reports.error _ _
    | some signature =>
      simp only [absenceFaults, hkind, hsignature, Option.isSome_some, if_true, List.nil_append, List.append_assoc]
      -- From here on each step is a reading of one field.
      refine (reports_kindOf hkind).bind fun kind _ => ?_
      refine (reports_fieldItems "baseTypes" fields).bind fun baseTypes _ => ?_
      refine (reports_fieldItems "attributes" fields).bind fun attributes _ => ?_
      exact hchildren.bind_pure _

mutual

/-- A member tells its faults and those below it. -/
theorem reports_memberOf : ∀ doc : Json, Reports (memberOf doc) (faultsOf (memberParts doc))
  | .obj fields => reports_memberOf_obj (reports_childrenOf fields)
  | .null => .error _ _
  | .bool _ => .error _ _
  | .int _ => .error _ _
  | .float _ => .error _ _
  | .str _ => .error _ _
  | .arr _ => .error _ _

/-- The children of a member tell their faults after that of their list. -/
theorem reports_childrenOf : ∀ fields : List (String × Json),
    Reports (childrenOf fields) (fieldFaults "children" fields ++ faultsOf (childParts fields))
  | [] => .ok []
  | (key, doc) :: fields => by
    have hlisted := reports_membersOf doc
    have hrest := reports_childrenOf fields
    unfold fieldFaults at hrest ⊢
    rw [childrenOf, childParts, Json.field?, List.lookup_cons]
    -- The first field of that name is the one that counts.
    by_cases hkey : key = "children"
    · simpa [hkey] using hlisted
    · have hbeq : ("children" == key) = false := by simpa using Ne.symm hkey
      rw [if_neg hkey, if_neg hkey, hbeq]
      exact hrest

/-- The members that a document lists tell their faults after that of the list. -/
theorem reports_membersOf : ∀ doc : Json, Reports (membersOf doc) (listFaults doc ++ faultsOf (listedParts doc))
  | .arr items => by
    simpa [listFaults, isScalar, membersOf, listedParts] using reports_memberList items
  -- A character is no member, so the first one is refused.
  | .str s => by
    rw [membersOf, listedParts]
    cases s.toList with
    | nil => exact .ok []
    | cons c cs => exact .error _ _
  | .obj [] => .ok []
  | .obj ((key, doc) :: fields) => .error _ _
  | .null => .error _ _
  | .bool _ => .error _ _
  | .int _ => .error _ _
  | .float _ => .error _ _

/-- Members one after the other tell their faults in that order. -/
theorem reports_memberList : ∀ docs : List Json, Reports (memberList docs) (faultsOf (itemParts docs))
  | [] => .ok []
  | doc :: docs => by
    rw [memberList, itemParts, faultsOf_append]
    exact (reports_memberOf doc).bind fun member _ => (reports_memberList docs).bind_pure _

end

/-! ## Reading files and totals -/

/-- A file tells its faults and those of its members. -/
theorem reports_fileOf (doc : Json) : Reports (fileOf doc) (faultsOf (fileParts doc)) := by
  cases doc with
  | obj fields =>
    rw [fileOf, fileParts, faultsOf_cons, Part.faults]
    cases hpath : Json.field? "path" fields with
    | none => simpa [absenceFaults, hpath] using Reports.error _ _
    | some path =>
      simp only [absenceFaults, fieldFaults, hpath, Option.isSome_some, if_true, List.nil_append]
      cases Json.field? "members" fields with
      | none => exact .ok _
      | some doc => exact (reports_membersOf doc).bind_pure _
  | _ => exact .error _ _

/-- Files one after the other tell their faults in that order. -/
theorem reports_fileList (docs : List Json) : Reports (fileList docs) (faultsOf (docs.flatMap fileParts)) := by
  induction docs with
  | nil => exact .ok []
  | cons doc docs ih =>
    rw [fileList, List.flatMap_cons, faultsOf_append]
    exact (reports_fileOf doc).bind fun file _ => ih.bind_pure _

/-- Entries of totals tell their faults in their order, whatever was put before. -/
theorem reports_entriesFrom (entries : List (Json × Json)) (docs : List Json) :
    Reports (entriesFrom entries docs) (docs.flatMap pairFaults) := by
  induction docs generalizing entries with
  | nil => exact .ok entries
  | cons doc docs ih =>
    rw [List.flatMap_cons, entriesFrom, pairFaults]
    cases itemsOf doc with
    | error fault => exact .error _ _
    | ok items =>
      -- Only two items make a pair, and the first one must be a key.
      match items with
      | [] => exact .error _ _
      | [_] => exact .error _ _
      | [key, value] =>
        cases hkey : isKey key with
        | true => simpa [hkey] using ih (putEntry key value entries)
        | false => simpa [hkey] using Reports.error _ _
      | _ :: _ :: _ :: _ => exact .error _ _

/-- Totals that are no object are read as pairs. -/
theorem reports_totalsOf (doc : Json) : Reports (totalsOf doc) (Part.totals doc).faults := by
  have hlisted : ∀ other : Json, Reports (itemsOf other >>= entriesFrom [])
      (match itemsOf other with
      | .error fault => [fault]
      | .ok items => items.flatMap pairFaults) := by
    intro other
    cases itemsOf other with
    | error fault => exact .error _ _
    | ok items => exact reports_entriesFrom [] items
  cases doc with
  | obj fields => exact .ok _
  | _ => exact hlisted _

/-- Reading stops at the first fault of all parts. -/
theorem reports_reloadDocument (doc : Json) : Reports (reloadDocument doc) (faultsOf (parts doc)) := by
  cases doc with
  | obj fields =>
    rw [reloadDocument, parts, faultsOf_cons, Part.faults]
    cases Json.field? "files" fields with
    | none => exact .error _ _
    | some doc =>
      cases doc with
      -- The files come before the totals.
      | arr docs =>
        rw [List.nil_append, faultsOf_append, faultsOf_cons, faultsOf_nil, List.append_nil]
        exact (reports_fileList docs).bind fun files _ => (reports_totalsOf _).bind_pure _
      | _ => exact .error _ _
  | _ => exact .error _ _

/-! ## The first fault -/

/-- Whether a part is the first one with which something is wrong, and what is wrong with it first. -/
def FirstFault (doc : Json) (part : Part) (fault : ReloadFault) : Prop :=
  ∃ before after, parts doc = before ++ part :: after ∧ (∀ earlier ∈ before, earlier.faults = []) ∧
    part.faults.head? = some fault

/-- The first of all faults is the first one of the first part that has any. -/
theorem head?_faultsOf_iff {ps : List Part} {fault : ReloadFault} :
    (faultsOf ps).head? = some fault ↔
      ∃ part before after, ps = before ++ part :: after ∧ (∀ earlier ∈ before, earlier.faults = []) ∧
        part.faults.head? = some fault := by
  constructor
  · intro h
    induction ps with
    | nil => cases h
    | cons first ps ih =>
      rw [faultsOf_cons, List.head?_append] at h
      -- A part without faults is passed, and otherwise it is the part that is looked for.
      cases hfirst : first.faults with
      | nil =>
        rw [hfirst, List.head?_nil, Option.none_or] at h
        obtain ⟨part, before, after, rfl, hbefore, hpart⟩ := ih h
        exact ⟨part, first :: before, after, rfl, List.forall_mem_cons.2 ⟨hfirst, hbefore⟩, hpart⟩
      | cons cause faults =>
        rw [hfirst, List.head?_cons, Option.some_or] at h
        exact ⟨first, [], ps, rfl, by simp, by rw [hfirst, List.head?_cons, h]⟩
  · rintro ⟨part, before, after, rfl, hbefore, hpart⟩
    have hnone : faultsOf before = [] := List.flatMap_eq_nil_iff.2 hbefore
    rw [faultsOf_append, hnone, List.nil_append, faultsOf_cons, List.head?_append, hpart, Option.some_or]

/-- A text is read if it is a document with no fault in any part. -/
theorem reload_eq_ok_iff {text : String} : (∃ artifact, reload text = .ok artifact) ↔
    ∃ doc, Json.parseString text = .ok doc ∧ ∀ part ∈ parts doc, part.faults = [] := by
  unfold reload
  cases Json.parseString text with
  | error cause => simp
  | ok doc =>
    have hok := (reports_reloadDocument doc).eq_ok_iff
    rw [faultsOf, List.flatMap_eq_nil_iff] at hok
    simpa using hok

/-- A text is rejected as no document, or for the first fault of the first part that has any. -/
theorem reload_eq_error_iff {text : String} {fault : ReloadFault} : reload text = .error fault ↔
    (∃ cause, Json.parseString text = .error cause ∧ fault = .json cause) ∨
      ∃ doc part, Json.parseString text = .ok doc ∧ FirstFault doc part fault := by
  unfold reload
  cases Json.parseString text with
  | error cause => simpa using eq_comm
  | ok doc =>
    have hfails : reloadDocument doc = .error fault ↔ ∃ part, FirstFault doc part fault :=
      (reports_reloadDocument doc).eq_error_iff.trans head?_faultsOf_iff
    simpa using hfails

/-- A text is read as an artifact, or it is rejected for the first thing that is wrong with it: that it is no
JSON text, or the first fault of the first part that has one. So it is accepted or refused unless that fault
is one of an access, at whatever depth the part lies. -/
theorem reload_rejects_by_first_fault (text : String) :
    ((∃ artifact, reload text = .ok artifact) ↔
      ∃ doc, Json.parseString text = .ok doc ∧ ∀ part ∈ parts doc, part.faults = []) ∧
    (∀ fault, reload text = .error fault ↔
      (∃ cause, Json.parseString text = .error cause ∧ fault = .json cause) ∨
        ∃ doc part, Json.parseString text = .ok doc ∧ FirstFault doc part fault) ∧
    ((∃ artifact, reload text = .ok artifact) ∨
        (∃ fault, reload text = .error fault ∧ fault.escapes = false) ↔
      ∀ doc part fault, Json.parseString text = .ok doc → FirstFault doc part fault →
        fault.escapes = false) := by
  refine ⟨reload_eq_ok_iff, fun fault => reload_eq_error_iff, ?_, ?_⟩
  · -- The first fault is the one with which reading fails, so it is the one that was refused.
    intro hreturns doc part fault hparse hfirst
    have herror : reload text = .error fault := reload_eq_error_iff.2 (.inr ⟨doc, part, hparse, hfirst⟩)
    obtain ⟨artifact, hartifact⟩ | ⟨cause, hcause, hrefused⟩ := hreturns
    · rw [herror] at hartifact
      cases hartifact
    · rw [herror] at hcause
      cases hcause
      exact hrefused
  · intro hrefused
    cases hreload : reload text with
    | ok artifact => exact .inl ⟨artifact, rfl⟩
    | error fault =>
      refine .inr ⟨fault, rfl, ?_⟩
      -- A text that is no document is refused, and any other one by its first fault.
      obtain ⟨cause, -, rfl⟩ | ⟨doc, part, hparse, hfirst⟩ := reload_eq_error_iff.1 hreload
      · rfl
      · exact hrefused doc part fault hparse hfirst

/-- Whether reading a text ends in a fault that is no refusal. -/
def reloadEscapes (text : String) : Bool :=
  match reload text with
  | .ok _ => false
  | .error fault => fault.escapes

/-- Artifacts with a number or nothing where a file, the path of a file, a member, a child of a member or the
totals should be. -/
def strayTexts : List String :=
  ["\x7b\"files\": [1]\x7d", "\x7b\"files\": [\x7b\x7d]\x7d",
    "\x7b\"files\": [\x7b\"path\": \"a\", \"members\": [null]\x7d]\x7d",
    "\x7b\"files\": [\x7b\"path\": \"a\", \"members\": " ++
      "[\x7b\"kind\": \"Class\", \"signature\": \"A\", \"children\": [1]\x7d]\x7d]\x7d",
    "\x7b\"files\": [], \"summary\": 1\x7d"]

/-- All of them are rejected by a fault that is no refusal. -/
theorem strayTexts_escape : strayTexts.all reloadEscapes = true := by
  decide +kernel

end ApiOutline.Artifact
