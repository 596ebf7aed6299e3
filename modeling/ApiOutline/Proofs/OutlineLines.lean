import ApiOutline.Proofs.ListingRead

/-!
# One line for each member

A reader of the text artifact may end lines at any of the characters that count as line breaks, not
only at line feeds. `brokenLines` divides a text in that way. The texts of a member have no other blank
than spaces (`Shaped`), and every line break is a blank, so the artifact of mapped files has the lines
it was made of and no others, as long as the paths have no line break.
-/

namespace ApiOutline.Artifact

open Outline (Member FileMap Project Shaped preorderOf preorderOf_cons mapTree)
open Syntax (Node)
open Text (isBlank join Spaced)

/-! ## Lines that end at any break -/

/-- The characters that end a line: line feed, line tabulation, form feed, carriage return, the
separators of files, groups and records, next line, and the separators of lines and paragraphs. -/
def isLineBreak (c : Char) : Bool :=
  let n := c.toNat
  (10 ≤ n && n ≤ 13) || (0x1C ≤ n && n ≤ 0x1E) || n == 0x85 || n == 0x2028 || n == 0x2029

/-- The lines of a text, where `current` is what the first line has so far. A carriage return with a
line feed after it is one break, and after the last break there is a line only if it is not empty. -/
def brokenFrom (current : List Char) : List Char → List (List Char)
  | [] => if current.isEmpty then [] else [current]
  | '\r' :: '\n' :: rest => current :: brokenFrom [] rest
  | c :: rest =>
    if isLineBreak c then current :: brokenFrom [] rest else brokenFrom (current ++ [c]) rest

/-- The lines of a text. -/
def brokenLines (text : List Char) : List (List Char) :=
  brokenFrom [] text

/-- Whether a text has no line break. -/
def Unbroken (cs : List Char) : Prop :=
  ∀ c ∈ cs, isLineBreak c = false

/-- Whether a text has a line break can be computed. -/
instance : DecidablePred Unbroken :=
  List.decidableBAll fun c => isLineBreak c = false

/-- A character that is no line break goes on the line. -/
theorem brokenFrom_cons {c : Char} (hc : isLineBreak c = false) (current rest : List Char) :
    brokenFrom current (c :: rest) = brokenFrom (current ++ [c]) rest := by
  have hreturn : c ≠ '\r' := by
    rintro rfl
    exact absurd hc (by decide)
  rw [brokenFrom, hc, if_neg Bool.false_ne_true]
  rintro rest rfl
  exact absurd rfl hreturn

/-- A text without breaks and the line feed after it make one line. -/
theorem brokenFrom_line {piece : List Char} (hpiece : Unbroken piece) (current rest : List Char) :
    brokenFrom current (piece ++ '\n' :: rest) = (current ++ piece) :: brokenFrom [] rest := by
  induction piece generalizing current with
  | nil =>
    rw [List.nil_append, List.append_nil, brokenFrom, if_pos (by decide)]
    rintro rest hreturn
    exact absurd hreturn (by decide)
  | cons c piece ih =>
    obtain ⟨hc, hrest⟩ := List.forall_mem_cons.1 hpiece
    calc brokenFrom current (c :: piece ++ '\n' :: rest)
        = brokenFrom (current ++ [c]) (piece ++ '\n' :: rest) := brokenFrom_cons hc current _
      _ = (current ++ [c] ++ piece) :: brokenFrom [] rest := ih hrest _
      _ = (current ++ c :: piece) :: brokenFrom [] rest := by
        rw [List.append_assoc, List.singleton_append]

/-- Lines without breaks, joined by line feeds and with one at the end, come back. -/
theorem brokenLines_join {pieces : List (List Char)} (hne : pieces ≠ [])
    (hpieces : ∀ piece ∈ pieces, Unbroken piece) :
    brokenLines (join ['\n'] pieces ++ ['\n']) = pieces := by
  induction pieces with
  | nil => exact absurd rfl hne
  | cons piece pieces ih =>
    obtain ⟨hpiece, hrest⟩ := List.forall_mem_cons.1 hpieces
    cases pieces with
    | nil => exact brokenFrom_line hpiece [] []
    | cons next pieces =>
      -- The first piece and its line feed make the first line, and the others are divided again.
      have hjoin : join ['\n'] (piece :: next :: pieces) ++ ['\n'] =
          piece ++ '\n' :: (join ['\n'] (next :: pieces) ++ ['\n']) := by
        simp [join]
      rw [hjoin, brokenLines, brokenFrom_line hpiece, List.nil_append, ← brokenLines,
        ih (List.cons_ne_nil _ _) hrest]

/-! ## The artifact -/

/-- A line break is a blank. -/
theorem isBlank_of_isLineBreak {c : Char} (hc : isLineBreak c = true) : isBlank c = true := by
  simp only [isLineBreak, isBlank, Bool.or_eq_true, Bool.and_eq_true, decide_eq_true_eq,
    beq_iff_eq] at hc ⊢
  omega

/-- A line break is no mark. -/
theorem not_isMark_of_isLineBreak {c : Char} (hc : isLineBreak c = true) : isMark c = false := by
  have hspace : ' '.toNat = 32 ∧ '~'.toNat = 126 := by
    decide
  by_contra hmark
  rw [Bool.not_eq_false, isMark, Bool.and_eq_true, decide_eq_true_eq, decide_eq_true_eq] at hmark
  -- A mark is between the space and the tilde, and no line break is.
  have hlow : ' '.toNat ≤ c.toNat := hmark.1
  have hhigh : c.toNat ≤ '~'.toNat := hmark.2
  simp only [isLineBreak, Bool.or_eq_true, Bool.and_eq_true, decide_eq_true_eq, beq_iff_eq] at hc
  omega

/-- A text with no other blanks than spaces has no line break. -/
theorem not_mem_of_spaced {c : Char} {cs : List Char} (hc : isLineBreak c = true)
    (h : Spaced cs) : c ∉ cs := by
  intro hmem
  have hspace : c = ' ' := h c hmem (isBlank_of_isLineBreak hc)
  rw [hspace] at hc
  exact absurd hc (by decide)

/-- A member that has its shape has no line break in its texts. -/
theorem lacks_of_shaped {c : Char} {member : Member} (hc : isLineBreak c = true)
    (h : Shaped member) : Lacks c member where
  signature := not_mem_of_spaced hc h.signature
  doc doc hdoc := not_mem_of_spaced hc (h.doc doc hdoc).2
  baseTypes text htext := not_mem_of_spaced hc (h.baseTypes text htext).2
  attributes text htext := not_mem_of_spaced hc (h.attributes text htext).2.spaced

/-- The lines of the artifact have no line break if no path has one and the members have their shape. -/
theorem unbroken_projectLines {project : Project}
    (h : ∀ file ∈ project.files, Unbroken file.path.toList ∧
      ∀ member ∈ preorderOf file.members, Shaped member) :
    ∀ line ∈ projectLines project, Unbroken line := by
  intro line hline c hmem
  by_contra hbreak
  have hc : isLineBreak c = true := by simpa using hbreak
  refine not_mem_projectLines (not_isMark_of_isLineBreak hc) (fun file hfile => ?_) line hline hmem
  obtain ⟨hpath, hmembers⟩ := h file hfile
  refine ⟨fun hin => ?_, fun member hmember => lacks_of_shaped hc (hmembers member hmember)⟩
  rw [hpath c hin] at hc
  exact Bool.false_ne_true hc

mutual

/-- A member has a line for itself and one for each member nested in it. -/
theorem length_memberLines : ∀ (depth : Nat) (member : Member),
    (memberLines depth member).length = member.preorder.length
  | depth, ⟨kind, signature, line, isStatic, doc, baseTypes, attributes, children⟩ => by
    rw [memberLines, Member.preorder, List.length_cons, List.length_cons,
      length_forestLines (depth + 1) children]

/-- A forest has a line for each of its members at any depth. -/
theorem length_forestLines : ∀ (depth : Nat) (members : List Member),
    (forestLines depth members).length = (preorderOf members).length
  | _, [] => rfl
  | depth, member :: members => by
    rw [forestLines, preorderOf_cons, List.length_append, List.length_append,
      length_memberLines depth member, length_forestLines depth members]

end

/-- The number of lines of the artifact of files. -/
def lineCount (files : List FileMap) : Nat :=
  2 + (files.map fun file => 2 + (preorderOf file.members).length).sum

/-- The artifact has two lines for the totals, two for each file and one for each member. -/
theorem length_projectLines (project : Project) :
    (projectLines project).length = lineCount project.files := by
  have hfile : ∀ file : FileMap, (fileLines file).length = 2 + (preorderOf file.members).length := by
    intro file
    simp only [fileLines, List.length_append, List.length_cons, List.length_nil, length_forestLines]
    omega
  simp only [projectLines, List.length_cons, List.length_flatMap, hfile, lineCount]
  omega

/-- The members of an outline have their shape, and the artifact has a line for each of them. Each
member at any depth of what is mapped from a tree is `Shaped`. For a project of files that are each
mapped from some tree, and whose paths have no line break, the lines of the text artifact are those it
was made of, wherever lines are taken to end: two for the totals, two for each file and one for each
member. There is a text artifact if no number of the project has too many digits. -/
theorem mapTree_shaped_and_lines :
    (∀ (setting : Outline.Setting) (path : String) (root : Node) (file : FileMap),
      (mapTree setting path root).outcome = .ok (some file) →
        ∀ member ∈ preorderOf file.members, Shaped member) ∧
    (∀ project : Project,
      (∀ file ∈ project.files, Unbroken file.path.toList ∧ ∃ setting path root,
        (mapTree setting path root).outcome = .ok (some file)) →
        ((∃ text, renderText project = .ok text) ↔ NumbersFit project) ∧
        ∀ text, renderText project = .ok text →
          brokenLines text.toList = projectLines project ∧
            (brokenLines text.toList).length = lineCount project.files) := by
  refine ⟨fun setting path root file h => (Outline.shaped_of_mapTree h).2, ?_⟩
  intro project hfiles
  -- Each file comes from a tree, so its members have their shape.
  have hshaped : ∀ file ∈ project.files, Unbroken file.path.toList ∧
      ∀ member ∈ preorderOf file.members, Shaped member := by
    intro file hfile
    obtain ⟨hpath, setting, path, root, hmap⟩ := hfiles file hfile
    exact ⟨hpath, (Outline.shaped_of_mapTree hmap).2⟩
  have hlines : brokenLines (listingText project).toList = projectLines project := by
    rw [listingText, String.toList_ofList]
    exact brokenLines_join (List.cons_ne_nil _ _) (unbroken_projectLines hshaped)
  refine ⟨by simp only [renderText_eq_ok_iff, exists_and_left, exists_eq, and_true], ?_⟩
  intro text htext
  obtain ⟨-, rfl⟩ := renderText_eq_ok_iff.1 htext
  refine ⟨hlines, ?_⟩
  rw [hlines, length_projectLines]

/-- A class with an attribute, a base type with a line separator in it, and a method with its parameters
on two lines. -/
def separatedSource : Text.Bytes :=
  Text.Utf8.ofString "[A]class C:B\u2028D\x7bint\u0085M(x,\n y);\x7d"

/-- The tree of that source. -/
def separatedTree : Node :=
  { type := "compilation_unit", start := 0, stop := 32, children := [
    { type := "class_declaration", start := 0, stop := 32, children := [
      { type := "attribute_list", start := 0, stop := 3, children := [
        { type := "attribute", start := 1, stop := 2, children := [
          { type := "identifier", start := 1, stop := 2, field := some "name" }] }] },
      { type := "identifier", start := 9, stop := 10, field := some "name" },
      { type := "base_list", start := 10, stop := 16, children := [
        { type := "qualified_name", start := 11, stop := 16 }] },
      { type := "declaration_list", start := 16, stop := 32, field := some "body", children := [
        { type := "method_declaration", start := 17, stop := 31, children := [
          { type := "predefined_type", start := 17, stop := 20, field := some "returns" },
          { type := "identifier", start := 22, stop := 23, field := some "name" },
          { type := "parameter_list", start := 23, stop := 30, field := some "parameters" }] }] }] }] }

/-- The artifact of this source has one line for the class and one for the method. -/
theorem separatedTree_shaped_and_lines : ∃ file text,
    (mapTree ⟨separatedSource, false⟩ "C.cs" separatedTree).outcome = .ok (some file) ∧
      (∀ member ∈ preorderOf file.members, Shaped member) ∧
      renderText ⟨"P", [file], ⟨0, 1, 1⟩, []⟩ = .ok text ∧
      (brokenLines text.toList).map String.ofList =
        ["# Summary: files=1 namespaces=0 types=1 methods=1", "", "# C.cs",
          "  [Class] C : B D [A] :1", "    [Method] int M(x, y) :1", ""] := by
  -- All that is shown of the outline is computed at once.
  have hshown : ((mapTree ⟨separatedSource, false⟩ "C.cs" separatedTree).outcome.toOption.bind id).map
      (fun file => (numbersWritable ⟨"P", [file], ⟨0, 1, 1⟩, []⟩,
        (projectLines ⟨"P", [file], ⟨0, 1, 1⟩, []⟩).map String.ofList)) =
        some (true, ["# Summary: files=1 namespaces=0 types=1 methods=1", "", "# C.cs",
          "  [Class] C : B D [A] :1", "    [Method] int M(x, y) :1", ""]) := by
    decide +kernel
  obtain ⟨file, hfile, hpair⟩ := Option.map_eq_some_iff.1 hshown
  obtain ⟨hwritable, hlines⟩ := Prod.mk.inj hpair
  have hmap : (mapTree ⟨separatedSource, false⟩ "C.cs" separatedTree).outcome = .ok (some file) := by
    obtain ⟨found, hfound, rfl⟩ := Option.bind_eq_some_iff.1 hfile
    cases houtcome : (mapTree ⟨separatedSource, false⟩ "C.cs" separatedTree).outcome with
    | error fault =>
      rw [houtcome] at hfound
      cases hfound
    | ok result =>
      rw [houtcome] at hfound
      exact congrArg Except.ok (Option.some.inj hfound)
  have hfiles : ∀ other ∈ [file], Unbroken other.path.toList ∧ ∃ setting path root,
      (mapTree setting path root).outcome = .ok (some other) := by
    intro other hother
    cases List.mem_singleton.1 hother
    refine ⟨?_, _, _, _, hmap⟩
    rw [(Outline.shaped_of_mapTree hmap).1]
    decide +kernel
  obtain ⟨hshaped, hbroken⟩ := mapTree_shaped_and_lines
  obtain ⟨hrendered, hbroken⟩ := hbroken ⟨"P", [file], ⟨0, 1, 1⟩, []⟩ hfiles
  obtain ⟨text, htext⟩ := hrendered.2 (numbersWritable_iff.1 hwritable)
  refine ⟨file, text, hmap, hshaped _ _ _ _ hmap, htext, ?_⟩
  rw [(hbroken text htext).1, hlines]

end ApiOutline.Artifact
