import ApiOutline.Artifact.Reload
import ApiOutline.Proofs.ArtifactNumbers
import ApiOutline.Proofs.JsonRoundTrip
import ApiOutline.Proofs.TidyMembers

/-!
# The JSON artifact is read back

The document of a member lists those of eight entries that have a value (`memberDocument_eq`), and an
entry is looked up in it by its key alone (`lookup_present`). Hence reading the document gives the
member back, but for line zero and the empty documentation, which are not written
(`memberOf_memberDocument`). Together with the round trip of JSON texts this says what reading a whole
artifact gives. There is an artifact to be read unless a number of the project has too many digits.
-/

namespace ApiOutline.Artifact

open Json (unlessOversized Plain PlainItems PlainFields oversized? oversizedItem? oversizedField?)
open Data (Value)
open Number (maxDigits digits)
open Outline (Kind Member FileMap Project Totals preorderOf preorderOf_cons)

/-! ## Entries that are present -/

/-- The entries that have a value. -/
def present (entries : List (String × Option Json)) : List (String × Json) :=
  entries.filterMap fun entry => entry.2.map (entry.1, ·)

/-- An entry with a value is present. -/
theorem present_cons_some (key : String) (value : Json) (entries : List (String × Option Json)) :
    present ((key, some value) :: entries) = (key, value) :: present entries := rfl

/-- An entry without a value is not. -/
theorem present_cons_none (key : String) (entries : List (String × Option Json)) :
    present ((key, none) :: entries) = present entries := rfl

/-- The keys that are present are some of the keys, in order. -/
theorem keys_present_sublist (entries : List (String × Option Json)) :
    ((present entries).map Prod.fst).Sublist (entries.map Prod.fst) := by
  induction entries with
  | nil => exact List.Sublist.refl _
  | cons entry entries ih =>
    obtain ⟨key, _ | value⟩ := entry
    · exact ih.cons key
    · exact ih.cons_cons key

/-- A key that no entry has is not looked up. -/
theorem lookup_present_of_not_mem {key : String} {entries : List (String × Option Json)}
    (h : key ∉ entries.map Prod.fst) : (present entries).lookup key = none := by
  rw [List.lookup_eq_none_iff]
  intro field hfield
  have hmem := (keys_present_sublist entries).subset (List.mem_map_of_mem hfield)
  have hne : key ≠ field.1 := fun heq => h (heq ▸ hmem)
  simpa using hne

/-- Where the keys are different, looking up a key gives the value of its entry, if it has one. -/
theorem lookup_present (key : String) {entries : List (String × Option Json)}
    (h : (entries.map Prod.fst).Nodup) :
    (present entries).lookup key = (entries.lookup key).join := by
  induction entries with
  | nil => rfl
  | cons entry entries ih =>
    obtain ⟨first, value⟩ := entry
    rw [List.map_cons, List.nodup_cons] at h
    by_cases hkey : key = first
    · subst hkey
      cases value with
      | none =>
        -- A second entry with the key would be found instead, but there is none.
        rw [present_cons_none, lookup_present_of_not_mem h.1]
        simp
      | some value => simp [present_cons_some]
    · have hbeq : (key == first) = false := by simpa using hkey
      cases value with
      | none => rw [present_cons_none, ih h.2]; simp [List.lookup_cons, hbeq]
      | some value => rw [present_cons_some]; simp [List.lookup_cons, hbeq, ih h.2]

/-! ## The entries of a member -/

/-- The line that an artifact writes. -/
def writtenLine (line : Option Int) : Option Json :=
  match line with
  | none => none
  | some line => if line = 0 then none else some (.int line)

/-- The documentation that an artifact writes. -/
def writtenDoc (doc : Option String) : Option Json :=
  match doc with
  | none => none
  | some doc => if doc.isEmpty then none else some (.str doc)

/-- The list that an artifact writes. -/
def writtenItems (items : List Json) : Option Json :=
  if items.isEmpty then none else some (.arr items)

/-- All that an artifact can say about a member. -/
def memberEntries (member : Member) : List (String × Option Json) :=
  [("kind", some (.str member.kind.name)), ("signature", some (.str member.signature)),
    ("line", writtenLine member.line),
    ("static", if member.isStatic then some (.bool true) else none),
    ("doc", writtenDoc member.doc),
    ("baseTypes", writtenItems (member.baseTypes.map .str)),
    ("attributes", writtenItems (member.attributes.map .str)),
    ("children", writtenItems (memberDocuments member.children))]

/-- The keys of a member are different. -/
theorem memberEntries_keys (member : Member) : ((memberEntries member).map Prod.fst).Nodup := by
  simp [memberEntries]

/-- A forest has documents if it has members. -/
theorem memberDocuments_isEmpty (members : List Member) :
    (memberDocuments members).isEmpty = members.isEmpty := by
  cases members <;> rfl

/-- The field of a value that may be absent. -/
def optionalField (key : String) (value : Option Json) : List (String × Json) :=
  value.toList.map (key, ·)

/-- A present entry stands in front of the others. -/
theorem present_cons (key : String) (value : Option Json) (entries : List (String × Option Json)) :
    present ((key, value) :: entries) = optionalField key value ++ present entries := by
  cases value <;> rfl

/-- A value that is left out on a condition is a field that is left out. -/
theorem optionalField_ite (key : String) (c : Prop) [Decidable c] (value : Json) :
    optionalField key (if c then none else some value) = if c then [] else [(key, value)] := by
  split_ifs <;> rfl

/-- The document of a member has the entries that are present. -/
theorem memberDocument_eq (member : Member) :
    memberDocument member = .obj (present (memberEntries member)) := by
  obtain ⟨kind, signature, line, isStatic, doc, baseTypes, attributes, children⟩ := member
  have hline : optionalField "line" (writtenLine line) =
      match line with
      | none => []
      | some line => if line = 0 then [] else [("line", .int line)] := by
    cases line with
    | none => rfl
    | some line => exact optionalField_ite _ _ _
  have hstatic : optionalField "static" (if isStatic then some (.bool true) else none) =
      if isStatic then [("static", .bool true)] else [] := by
    cases isStatic <;> rfl
  have hdoc : optionalField "doc" (writtenDoc doc) =
      match doc with
      | none => []
      | some doc => if doc.isEmpty then [] else [("doc", .str doc)] := by
    cases doc with
    | none => rfl
    | some doc => exact optionalField_ite _ _ _
  simp only [memberEntries, present_cons, hline, hstatic, hdoc, writtenItems, List.isEmpty_map,
    memberDocuments_isEmpty, optionalField_ite]
  simp only [optionalField, Option.toList_some, List.map_cons, List.map_nil, present,
    List.filterMap_nil, List.append_nil, List.cons_append, List.nil_append]
  -- With the line and the documentation known, no choice is left that the two sides make apart.
  cases line <;> cases doc <;>
    simp only [memberDocument, textItems, List.cons_append, List.nil_append, List.append_assoc]

/-- What the document of a member says under each key. -/
theorem memberDocument_fields (member : Member) :
    let fields := present (memberEntries member)
    Json.field? "kind" fields = some (.str member.kind.name) ∧
      Json.field? "signature" fields = some (.str member.signature) ∧
      Json.field? "line" fields = writtenLine member.line ∧
      Json.field? "static" fields = (if member.isStatic then some (.bool true) else none) ∧
      Json.field? "doc" fields = writtenDoc member.doc ∧
      Json.field? "baseTypes" fields = writtenItems (member.baseTypes.map .str) ∧
      Json.field? "attributes" fields = writtenItems (member.attributes.map .str) ∧
      Json.field? "children" fields = writtenItems (memberDocuments member.children) := by
  simp only [Json.field?, lookup_present _ (memberEntries_keys member)]
  simp [memberEntries, List.lookup_cons]

/-! ## Reading the document of a member -/

/-- The members in the field of children are those of its document. -/
theorem childrenOf_eq (fields : List (String × Json)) :
    childrenOf fields =
      match Json.field? "children" fields with
      | none => .ok []
      | some doc => membersOf doc := by
  induction fields with
  | nil => rfl
  | cons field fields ih =>
    obtain ⟨key, doc⟩ := field
    rw [childrenOf, Json.field?, List.lookup_cons]
    -- The first field with the key counts, in both.
    by_cases hkey : key = "children"
    · simp [hkey]
    · have hbeq : ("children" == key) = false := by simpa using Ne.symm hkey
      rw [if_neg hkey, hbeq]
      exact ih

/-- A list of texts that may be left out is read back. -/
theorem fieldItems_written {key : String} {fields : List (String × Json)} {items : List Json}
    (h : Json.field? key fields = writtenItems items) : fieldItems key fields = .ok items := by
  rw [fieldItems, h, writtenItems]
  cases items <;> rfl

/-- The kind of a member is read back. -/
theorem kindOf_name (kind : Kind) : kindOf (.str kind.name) = .ok kind := by
  rw [kindOf, Kind.ofName?_name]

/-- A text is its own text. -/
theorem textOf_str (s : String) : textOf (.str s) = s := by
  rw [textOf, Value.ofJson, Value.text, String.ofList_toList]

/-- A member is read back with the line and the documentation that the artifact writes. -/
theorem asReloaded_eq (member : Member) :
    asReloaded member =
      { kind := member.kind
        signature := member.signature
        line := (writtenLine member.line).getD .null
        isStatic := member.isStatic
        doc := (writtenDoc member.doc).getD .null
        baseTypes := member.baseTypes.map .str
        attributes := member.attributes.map .str
        children := allReloaded member.children } := by
  -- A value that is left out on a condition is read as `null`.
  have hite : ∀ (c : Prop) [Decidable c] (value : Json),
      (if c then none else some value).getD .null = if c then .null else value := by
    intro c _ value
    split_ifs <;> rfl
  obtain ⟨kind, signature, _ | line, isStatic, _ | doc, baseTypes, attributes, children⟩ := member
  · rfl
  · simp only [writtenDoc, hite]; rfl
  · simp only [writtenLine, hite]; rfl
  · simp only [writtenLine, writtenDoc, hite]; rfl

/-- The document of a member is read back if the documents of its children are. -/
theorem memberOf_of_children (member : Member)
    (h : memberList (memberDocuments member.children) = .ok (allReloaded member.children)) :
    memberOf (memberDocument member) = .ok (asReloaded member) := by
  obtain ⟨hkind, hsignature, hline, hstatic, hdoc, hbases, hattributes, hchildren⟩ :=
    memberDocument_fields member
  -- The field of children is left out if there are none, and an absent field is read as no children.
  have hinner : childrenOf (present (memberEntries member)) = .ok (allReloaded member.children) := by
    rw [childrenOf_eq, hchildren, ← h, writtenItems]
    cases member.children <;> rfl
  have hstaticValue : ((if member.isStatic then some (.bool true) else none).map isTrue).getD false =
      member.isStatic := by
    cases member.isStatic <;> rfl
  rw [memberDocument_eq, memberOf, asReloaded_eq]
  simp only [hkind, hsignature, hline, hstatic, hdoc, hinner, kindOf_name, textOf_str, hstaticValue,
    fieldItems_written hbases, fieldItems_written hattributes]
  rfl

mutual

/-- The document of a member is read as the member without line zero and the empty documentation. -/
theorem memberOf_memberDocument : ∀ member : Member,
    memberOf (memberDocument member) = .ok (asReloaded member)
  | ⟨_, _, _, _, _, _, _, children⟩ =>
    memberOf_of_children _ (memberList_memberDocuments children)

/-- The documents of a forest are read back member by member. -/
theorem memberList_memberDocuments : ∀ members : List Member,
    memberList (memberDocuments members) = .ok (allReloaded members)
  | [] => rfl
  | member :: members => by
    rw [memberDocuments, memberList, memberOf_memberDocument member,
      memberList_memberDocuments members]
    rfl

end

/-! ## Reading the document of a project -/

/-- A file as it is read back from the artifact that shows it. -/
def reloadedFile (file : FileMap) : ReloadedFile :=
  ⟨file.path, allReloaded file.members⟩

/-- Totals as they are read back. -/
def totalsEntries (totals : Totals) : List (Json × Json) :=
  [(.str "files", .int totals.files), (.str "namespaces", .int totals.counts.namespaces),
    (.str "types", .int totals.counts.types), (.str "methods", .int totals.counts.methods)]

/-- The document of a file is read back. -/
theorem fileOf_fileDocument (file : FileMap) : fileOf (fileDocument file) = .ok (reloadedFile file) := by
  have hpath : Json.field? "path" [("path", .str file.path),
      ("members", .arr (memberDocuments file.members))] = some (.str file.path) := rfl
  have hmembers : Json.field? "members" [("path", .str file.path),
      ("members", .arr (memberDocuments file.members))] =
        some (.arr (memberDocuments file.members)) := rfl
  rw [fileDocument, fileOf]
  simp only [hpath, hmembers, membersOf, memberList_memberDocuments, textOf_str]
  rfl

/-- The documents of files are read back, file by file. -/
theorem fileList_fileDocuments (files : List FileMap) :
    fileList (files.map fileDocument) = .ok (files.map reloadedFile) := by
  induction files with
  | nil => rfl
  | cons file files ih =>
    rw [List.map_cons, fileList, fileOf_fileDocument, ih]
    rfl

/-- The document of a project is read back. -/
theorem reloadDocument_projectDocument (project : Project) :
    reloadDocument (projectDocument project) =
      .ok ⟨totalsEntries project.totals, project.files.map reloadedFile⟩ := by
  have hfiles : Json.field? "files" [("summary", totalsDocument project.totals),
      ("files", .arr (project.files.map fileDocument))] =
        some (.arr (project.files.map fileDocument)) := rfl
  rw [projectDocument, reloadDocument]
  simp only [hfiles, fileList_fileDocuments]
  rfl

/-! ## Documents whose numbers can be read -/

/-- What holds of the values that are present holds of each entry with a value. -/
theorem forall_present {P : Json → Prop} {entries : List (String × Option Json)} :
    (∀ field ∈ present entries, P field.2) ↔
      ∀ entry ∈ entries, ∀ value, entry.2 = some value → P value := by
  induction entries with
  | nil => simp [present]
  | cons entry entries ih =>
    obtain ⟨key, _ | value⟩ := entry
    · rw [present_cons_none, ih, List.forall_mem_cons]
      simp
    · rw [present_cons_some, List.forall_mem_cons, ih, List.forall_mem_cons]
      simp

/-- What holds of all texts and lists of texts holds of the fields of a member if it holds of its line
and of its children. -/
theorem forall_memberFields {P : Json → Prop} (member : Member) (hstr : ∀ s, P (.str s))
    (htexts : ∀ texts : List String, P (.arr (texts.map .str))) (htrue : P (.bool true)) :
    (∀ field ∈ present (memberEntries member), P field.2) ↔
      (∀ line, member.line = some line → line ≠ 0 → P (.int line)) ∧
        (member.children ≠ [] → P (.arr (memberDocuments member.children))) := by
  -- Each of the eight entries is present or absent on its own condition.
  have hline : (∀ value, writtenLine member.line = some value → P value) ↔
      ∀ line, member.line = some line → line ≠ 0 → P (.int line) := by
    cases member.line with
    | none => simp [writtenLine]
    | some line => by_cases h : line = 0 <;> simp [writtenLine, h]
  have hdoc : ∀ value, writtenDoc member.doc = some value → P value := by
    intro value hvalue
    unfold writtenDoc at hvalue
    split at hvalue
    · exact nomatch hvalue
    · split_ifs at hvalue
      cases hvalue
      exact hstr _
  have hstatic : ∀ value, (if member.isStatic then some (.bool true) else none) = some value →
      P value := by
    intro value hvalue
    split_ifs at hvalue
    cases hvalue
    exact htrue
  have hitems : ∀ texts : List String, ∀ value, writtenItems (texts.map .str) = some value →
      P value := by
    intro texts value hvalue
    unfold writtenItems at hvalue
    split_ifs at hvalue
    cases hvalue
    exact htexts texts
  have hchildren : (∀ value, writtenItems (memberDocuments member.children) = some value → P value) ↔
      (member.children ≠ [] → P (.arr (memberDocuments member.children))) := by
    cases member.children <;> simp [writtenItems, memberDocuments]
  -- Of the eight, only the line and the children are not covered by the three assumptions.
  rw [forall_present]
  simp only [memberEntries, List.forall_mem_cons, hline, hchildren, List.not_mem_nil, false_implies,
    implies_true, and_true, Option.some.injEq, forall_eq', hstr, true_and]
  exact ⟨fun h => ⟨h.1, h.2.2.2.2.2⟩, fun h => ⟨h.1, hstatic, hdoc, hitems _, hitems _, h.2⟩⟩

mutual

/-- The document of a member is plain. -/
theorem plain_memberDocument : ∀ member : Member, (memberDocument member).Plain
  | ⟨kind, signature, line, isStatic, doc, baseTypes, attributes, children⟩ => by
    rw [memberDocument_eq, Plain, Json.plainFields_iff]
    -- The keys are different, and what is under them is plain.
    refine ⟨(keys_present_sublist _).nodup (memberEntries_keys _), ?_⟩
    refine (forall_memberFields _ (fun _ => trivial) Json.plainItems_texts trivial).2 ⟨?_, ?_⟩
    · intro line _ _
      trivial
    · intro _
      exact plainItems_memberDocuments children

/-- The documents of a forest are plain. -/
theorem plainItems_memberDocuments : ∀ members : List Member, PlainItems (memberDocuments members)
  | [] => trivial
  | member :: members => ⟨plain_memberDocument member, plainItems_memberDocuments members⟩

end

/-- The document of a project is plain. -/
theorem plain_projectDocument (project : Project) : (projectDocument project).Plain := by
  -- Files and totals have few keys, and these are written out.
  have hfiles : PlainItems (project.files.map fileDocument) := by
    rw [Json.plainItems_iff, List.forall_mem_map]
    intro file _
    exact ⟨by simp, trivial, plainItems_memberDocuments file.members, trivial⟩
  have htotals : (totalsDocument project.totals).Plain :=
    ⟨by simp, trivial, trivial, trivial, trivial, trivial⟩
  exact ⟨by simp, htotals, hfiles, trivial⟩

mutual

/-- The document of a member has no oversized number if its line and those of all in it fit. -/
theorem oversized?_memberDocument : ∀ member : Member,
    (memberDocument member).oversized? = none ↔ ∀ inner ∈ member.preorder, LineFits inner
  | ⟨kind, signature, line, isStatic, doc, baseTypes, attributes, children⟩ => by
    -- Only the line and the children of a member can hold numbers.
    have hfields := forall_memberFields (P := fun value => value.oversized? = none)
      ⟨kind, signature, line, isStatic, doc, baseTypes, attributes, children⟩ (fun _ => rfl)
      (fun texts => by simp [oversized?, Json.oversizedItem?_eq_none]) rfl
    rw [memberDocument_eq, oversized?, Json.oversizedField?_eq_none, hfields, Member.preorder_eq,
      List.forall_mem_cons]
    refine and_congr ?_ ?_
    · -- The line zero is not written, and would fit.
      refine forall₂_congr fun value _ => ?_
      rw [Json.oversized?_int]
      by_cases hzero : value = 0
      · simp [hzero, fits_zero]
      · simp [hzero, Fits]
    · rw [← oversizedItem?_memberDocuments children]
      cases children <;> simp [oversized?, oversizedItem?, memberDocuments]

/-- The same for the documents of a forest. -/
theorem oversizedItem?_memberDocuments : ∀ members : List Member,
    oversizedItem? (memberDocuments members) = none ↔ ∀ inner ∈ preorderOf members, LineFits inner
  | [] => by simp [memberDocuments, oversizedItem?]
  | member :: members => by
    rw [memberDocuments, oversizedItem?, Option.or_eq_none_iff, oversized?_memberDocument member,
      oversizedItem?_memberDocuments members, preorderOf_cons, List.forall_mem_append]

end

/-- The document of totals has no oversized number if each of them fits. -/
theorem oversized?_totalsDocument (totals : Totals) :
    (totalsDocument totals).oversized? = none ↔
      Fits totals.files ∧ Fits totals.counts.namespaces ∧ Fits totals.counts.types ∧
        Fits totals.counts.methods := by
  rw [totalsDocument, oversized?, Json.oversizedField?_eq_none]
  simp only [List.forall_mem_cons, Json.oversized?_int, List.not_mem_nil, false_implies,
    implies_true, and_true, Fits]

/-- The document of a project has no oversized number if all its numbers fit. -/
theorem oversized?_projectDocument (project : Project) :
    (projectDocument project).oversized? = none ↔ NumbersFit project := by
  have hfiles : oversizedItem? (project.files.map fileDocument) = none ↔
      ∀ file ∈ project.files, ∀ member ∈ preorderOf file.members, LineFits member := by
    rw [Json.oversizedItem?_eq_none, List.forall_mem_map]
    refine forall₂_congr fun file _ => ?_
    rw [← oversizedItem?_memberDocuments]
    simp [fileDocument, oversized?, oversizedField?]
  rw [projectDocument, oversized?, Json.oversizedField?_eq_none]
  simp only [List.forall_mem_cons, oversized?_totalsDocument, oversized?, hfiles, List.not_mem_nil,
    false_implies, implies_true, and_true, Project.totals]
  exact ⟨fun h => ⟨h.1.1, h.1.2.1, h.1.2.2.1, h.1.2.2.2, h.2⟩,
    fun h => ⟨⟨h.files, h.namespaces, h.types, h.methods⟩, h.lines⟩⟩

/-- The text of the document of a project. -/
def documentText (project : Project) : String :=
  (projectDocument project).write artifactStyle ++ "\n"

/-- A project has a JSON artifact if its numbers fit, and then it is the text of its document. -/
theorem renderJson_eq_ok_iff {project : Project} {text : String} :
    renderJson project = .ok text ↔ NumbersFit project ∧ text = documentText project := by
  simp only [renderJson, Outcome.map_eq_ok, Json.dump_eq_ok_iff, oversized?_projectDocument]
  exact ⟨fun ⟨_, ⟨hfit, hwritten⟩, htext⟩ => ⟨hfit, by rw [documentText, ← hwritten, htext]⟩,
    fun ⟨hfit, htext⟩ => ⟨_, ⟨hfit, rfl⟩, htext.symm⟩⟩

/-- Rendering fails if a number does not fit. -/
theorem renderJson_eq_error_iff {project : Project} {fault : Number.Unwritable} :
    renderJson project = .error fault ↔ ¬ NumbersFit project := by
  rw [renderJson, Outcome.map_eq_error, Json.dump_eq_error_iff, ne_eq, oversized?_projectDocument]

/-- The artifact of a project is read back as its totals and its files. -/
theorem reload_of_renderJson {project : Project} {text : String}
    (h : renderJson project = .ok text) :
    reload text = .ok ⟨totalsEntries project.totals, project.files.map reloadedFile⟩ := by
  obtain ⟨hfit, rfl⟩ := renderJson_eq_ok_iff.1 h
  -- The line feed at the end of the file is a blank after the document.
  have htext : (documentText project).toList =
      Json.writeAt artifactStyle 0 (projectDocument project) ++ ['\n'] := by
    simp [documentText, Json.write]
  have hparse : Json.parseString (documentText project) = .ok (projectDocument project) := by
    rw [Json.parseString, htext, Json.parse_writeAt artifactStyle (plain_projectDocument project)
      (List.forall_mem_singleton.2 rfl), (oversized?_projectDocument project).2 hfit]
    rfl
  rw [reload, hparse]
  exact reloadDocument_projectDocument project

/-! ## Comparing what is read with what was written -/

/-- Texts are the same if they are equal. -/
theorem str_beq_str (a b : String) : (Json.str a == Json.str b) = (a == b) := rfl

/-- Lists of texts are the same as themselves. -/
theorem texts_beq_self (texts : List String) :
    (texts.map Json.str == texts.map Json.str) = true := by
  induction texts with
  | nil => rfl
  | cons text texts ih =>
    rw [List.map_cons, List.cons_beq_cons, str_beq_str, ih, beq_self_eq_true, Bool.and_self]

/-- Whether the artifact says all that there is to say about the line and the documentation of a
member. -/
def FullyWritten (member : Member) : Prop :=
  member.line ≠ some 0 ∧ member.doc ≠ some ""

/-- A line is read back unless it is zero. -/
theorem line_beq_iff (line : Option Int) :
    ((writtenLine line).getD .null == (line.map Json.int).getD .null) = true ↔ line ≠ some 0 := by
  cases line with
  | none => simp [writtenLine, BEq.beq, Json.same]
  | some line => by_cases h : line = 0 <;> simp [writtenLine, BEq.beq, Json.same, h]

/-- A documentation is read back unless it is empty. -/
theorem doc_beq_iff (doc : Option String) :
    ((writtenDoc doc).getD .null == (doc.map Json.str).getD .null) = true ↔ doc ≠ some "" := by
  cases doc with
  | none => simp [writtenDoc, BEq.beq, Json.same]
  | some doc => by_cases h : doc = "" <;> simp [writtenDoc, BEq.beq, Json.same, h]

mutual

/-- A member is read back as it is exactly if the artifact says all about it and all in it. -/
theorem isSame_asReloaded : ∀ member : Member,
    (asReloaded member).isSame member = true ↔ ∀ inner ∈ member.preorder, FullyWritten inner
  | ⟨kind, signature, line, isStatic, doc, baseTypes, attributes, children⟩ => by
    rw [asReloaded_eq, Member.preorder_eq, List.forall_mem_cons, ← allSame_allReloaded children]
    simp only [ReloadedMember.isSame, Bool.and_eq_true, beq_self_eq_true, line_beq_iff, doc_beq_iff,
      texts_beq_self, FullyWritten, true_and, and_true]

/-- A forest is read back as it is exactly if the artifact says all about every member in it. -/
theorem allSame_allReloaded : ∀ members : List Member,
    allSame (allReloaded members) members = true ↔ ∀ inner ∈ preorderOf members, FullyWritten inner
  | [] => by simp [allReloaded, allSame]
  | member :: members => by
    rw [allReloaded, allSame, Bool.and_eq_true, isSame_asReloaded member,
      allSame_allReloaded members, preorderOf_cons, List.forall_mem_append]

end

/-- Files are read back as they are exactly if the artifact says all about each member in them. -/
theorem filesSame_reloadedFile (files : List FileMap) :
    filesSame (files.map reloadedFile) files = true ↔
      ∀ file ∈ files, ∀ member ∈ preorderOf file.members, FullyWritten member := by
  induction files with
  | nil => simp [filesSame]
  | cons file files ih =>
    rw [List.map_cons, filesSame, Bool.and_eq_true, ih, List.forall_mem_cons, Bool.and_eq_true,
      reloadedFile, allSame_allReloaded]
    simp

/-- The artifact says all about the members of the outline of a tree. -/
theorem fullyWritten_of_tidy {member : Member} (h : Outline.Tidy member) : FullyWritten member := by
  obtain ⟨line, hline, hpos⟩ := h.line
  constructor
  · rw [hline]
    intro heq
    cases heq
    exact absurd hpos (by decide)
  · exact h.doc_ne

/-- Rendering a project as JSON fails exactly if a number in it has more digits than are written, and
otherwise the text is read back to its totals and its files in order, with line zero and the empty
documentation of a member left out at every depth. The files read back are the files of the project if and
only if no member at any depth has line zero or an empty documentation, and so whenever they are outlines
of trees. -/
theorem reload_renderJson (project : Project) :
    ((∃ fault, renderJson project = .error fault) ↔ ¬ NumbersFit project) ∧
    (∀ text, renderJson project = .ok text →
      reload text = .ok ⟨totalsEntries project.totals, project.files.map reloadedFile⟩) ∧
    (filesSame (project.files.map reloadedFile) project.files = true ↔
      ∀ file ∈ project.files, ∀ member ∈ preorderOf file.members,
        member.line ≠ some 0 ∧ member.doc ≠ some "") ∧
    ((∀ file ∈ project.files, ∃ setting path root,
        (Outline.mapTree setting path root).outcome = .ok (some file)) →
      filesSame (project.files.map reloadedFile) project.files = true) := by
  refine ⟨?_, fun text => reload_of_renderJson, filesSame_reloadedFile project.files, ?_⟩
  · -- There is one way for rendering to fail, so any fault is the fault.
    constructor
    · rintro ⟨fault, hfault⟩
      exact renderJson_eq_error_iff.1 hfault
    · intro hlong
      exact ⟨{}, renderJson_eq_error_iff.2 hlong⟩
  · intro houtlines
    rw [filesSame_reloadedFile]
    intro file hfile member hmember
    obtain ⟨setting, path, root, hmap⟩ := houtlines file hfile
    exact fullyWritten_of_tidy ((Outline.tidy_of_mapTree hmap).2 member hmember)

/-- A project with a class that has line zero, in a namespace on line two. -/
def zeroLineProject : Project where
  name := "P"
  files := [⟨"A.cs", [{ kind := .nameSpace, signature := "N", line := some 2, children :=
    [{ kind := .classType, signature := "A", line := some 0, doc := some "" }] }]⟩]
  counts := ⟨1, 1, 0⟩

/-- The numbers of the project fit. -/
theorem zeroLineProject_numbersFit : NumbersFit zeroLineProject := by
  decide +kernel

/-- The class comes back without its line, and an outline of a tree comes back as it is. -/
theorem zeroLineProject_reload :
    (∃ text, renderJson zeroLineProject = .ok text ∧
      reload text = .ok ⟨totalsEntries zeroLineProject.totals,
        [⟨"A.cs", [⟨.nameSpace, "N", .int 2, false, .null, [], [],
          [⟨.classType, "A", .null, false, .null, [], [], []⟩]⟩]⟩]⟩) ∧
      filesSame (zeroLineProject.files.map reloadedFile) zeroLineProject.files = false ∧
      ∃ file, (Outline.mapTree ⟨Outline.privateSource, true⟩ "A.cs" Outline.regionTree).outcome =
        .ok (some file) ∧ filesSame [reloadedFile file] [file] = true := by
  have hrender := renderJson_eq_ok_iff.2 ⟨zeroLineProject_numbersFit, rfl⟩
  obtain ⟨-, hread, -, -⟩ := reload_renderJson zeroLineProject
  refine ⟨⟨_, hrender, hread _ hrender⟩, by decide, _, rfl, ?_⟩
  obtain ⟨-, -, -, houtlines⟩ := reload_renderJson { name := "P", files := [_] }
  exact houtlines (List.forall_mem_singleton.2
    ⟨⟨Outline.privateSource, true⟩, "A.cs", Outline.regionTree, rfl⟩)

/-- A project with a class on a line that is a number of one digit too many. -/
def farLineProject : Project where
  name := "P"
  files := [⟨"A.cs", [{ kind := .classType, signature := "A", line := some (10 ^ maxDigits) }]⟩]
  counts := ⟨0, 1, 0⟩

/-- A project on such a line has no artifact. -/
theorem farLineProject_not_rendered : renderJson farLineProject = .error {} := by
  rw [renderJson_eq_error_iff]
  intro hfit
  have hline : Fits (10 ^ maxDigits) :=
    hfit.lines _ List.mem_cons_self _ List.mem_cons_self _ rfl
  have hten : (10 : Int).natAbs = 10 := rfl
  rw [Fits, Int.natAbs_pow, hten] at hline
  exact lt_irrefl _ hline

end ApiOutline.Artifact
