import ApiOutline.Proofs.ArtifactNumbers
import ApiOutline.Proofs.MappedProject
import ApiOutline.Proofs.TidyMembers

/-!
# The text artifact is read back

`readListing?` reads a text artifact. It takes each line on its own, as a path, a member at a depth or
an empty line, and goes through the lines from the last one to the first: a member takes the members
below it that are deeper, and a path takes all members that are left. For a project whose texts have
no line feed this gives the paths, and for each the forest of its members with kind, static flag, the
rest of each line and the nesting. The signature and what follows it stand on the line with nothing
to tell them apart, so they come back as one text.
-/

namespace ApiOutline.Artifact

open Number (ofInt digits value isDigit)
open Outline (Kind Member FileMap Project Totals Counts OnOneLine TextsOnOneLine preorderOf
  preorderOf_cons tally)
open Text (join splitAt)

/-! ## What the artifact shows -/

/-- A member as the text artifact shows it. -/
structure ListedMember where
  kind : Kind
  isStatic : Bool
  /-- What stands on its line after the tag. -/
  rest : String
  children : List ListedMember

/-- A file as the text artifact shows it. -/
structure ListedFile where
  path : String
  members : List ListedMember

/-- A project as the text artifact shows it. -/
structure Listing where
  totals : Totals
  files : List ListedFile

/-- What stands on the line of a member after its tag. -/
def afterTag (member : Member) : List Char :=
  ' ' :: member.signature.toList ++ details member

mutual

/-- What the artifact shows of a member. -/
def listedMember : Member → ListedMember
  | ⟨kind, signature, line, isStatic, doc, baseTypes, attributes, children⟩ =>
    { kind
      isStatic
      rest := String.ofList
        (afterTag ⟨kind, signature, line, isStatic, doc, baseTypes, attributes, children⟩)
      children := listedMembers children }

/-- What the artifact shows of a forest. -/
def listedMembers : List Member → List ListedMember
  | [] => []
  | member :: members => listedMember member :: listedMembers members

end

/-- What the artifact shows of a file. -/
def listedFile (file : FileMap) : ListedFile :=
  ⟨file.path, listedMembers file.members⟩

/-- What the artifact shows of a project. -/
def listingOf (project : Project) : Listing :=
  ⟨project.totals, project.files.map listedFile⟩

mutual

/-- The kinds of a listed member and of all that is nested in it. -/
def ListedMember.kinds : ListedMember → List Kind
  | ⟨kind, _, _, children⟩ => kind :: kindsOf children

/-- The kinds in a listed forest. -/
def kindsOf : List ListedMember → List Kind
  | [] => []
  | member :: members => member.kinds ++ kindsOf members

end

/-- The kinds of all members of a listing. -/
def Listing.kinds (listing : Listing) : List Kind :=
  listing.files.flatMap fun file => kindsOf file.members

/-! ## Reading -/

/-- What a line of the artifact below the totals says. -/
inductive ListingLine where
  | blank
  | path (path : String)
  | member (depth : Nat) (kind : Kind) (isStatic : Bool) (rest : String)

/-- The integer of a decimal text. -/
def readInt? : List Char → Option Int
  | '-' :: cs => if cs.all isDigit then some (-value cs) else none
  | cs => if cs.all isDigit then some (value cs) else none

/-- The number of a field with the given name. -/
def readField? (name : String) (cs : List Char) : Option Int :=
  match splitAt '=' cs with
  | [key, number] => if key = name.toList then readInt? number else none
  | _ => none

/-- The totals in the first line. -/
def readTotals? (line : List Char) : Option Totals :=
  match splitAt ' ' line with
  | [_, _, files, namespaces, types, methods] => do
    let files ← readField? "files" files
    let namespaces ← readField? "namespaces" namespaces
    let types ← readField? "types" types
    let methods ← readField? "methods" methods
    return ⟨files, ⟨namespaces, types, methods⟩⟩
  | _ => none

/-- The kind and the static flag between the brackets of a tag. -/
def readTag? (cs : List Char) : Option (Kind × Bool) :=
  match splitAt ':' cs with
  | [name] => (Kind.ofName? (String.ofList name)).map fun kind => (kind, false)
  | [name, flag] =>
    if flag = "static".toList then (Kind.ofName? (String.ofList name)).map fun kind => (kind, true)
    else none
  | _ => none

/-- The member on a line: the spaces before its tag give its depth. -/
def readMember? (line : List Char) : Option ListingLine :=
  match line.dropWhile (· == ' ') with
  | '[' :: cs => do
    let (kind, isStatic) ← readTag? (cs.takeWhile (· != ']'))
    let rest := (cs.dropWhile (· != ']')).drop 1
    return .member ((line.takeWhile (· == ' ')).length / 2) kind isStatic (String.ofList rest)
  | _ => none

/-- What a line says. -/
def readLine? : List Char → Option ListingLine
  | [] => some .blank
  | '#' :: ' ' :: path => some (.path (String.ofList path))
  | line => readMember? line

/-- What the lines from some line on say: members that stand below no path among these lines, each with
its depth, and the files after them. -/
structure Reading where
  pending : List (Nat × ListedMember)
  files : List ListedFile

/-- Put a line in front. A member takes the members after it that are deeper, up to the first one that
is not, and a path takes all members after it that no other path has taken. -/
def Reading.add (reading : Reading) : ListingLine → Reading
  | .blank => reading
  | .path path => ⟨[], ⟨path, reading.pending.map Prod.snd⟩ :: reading.files⟩
  | .member depth kind isStatic rest =>
    let children := (reading.pending.takeWhile fun item => depth < item.1).map Prod.snd
    ⟨(depth, ⟨kind, isStatic, rest, children⟩) ::
      reading.pending.dropWhile fun item => depth < item.1, reading.files⟩

/-- What lines say together. -/
def readLines? : List (List Char) → Option Reading
  | [] => some ⟨[], []⟩
  | line :: lines => do
    let reading ← readLines? lines
    let said ← readLine? line
    return reading.add said

/-- Read a text artifact. -/
def readListing? (text : String) : Option Listing :=
  match Text.lines text.toList with
  | [] => none
  | header :: lines => do
    let totals ← readTotals? header
    let reading ← readLines? lines
    return ⟨totals, reading.files⟩

/-! ## The lines of the artifact -/

/-- A decimal text has no other characters than digits and a sign. -/
theorem isDigit_or_of_mem_ofInt {i : Int} {c : Char} (hc : c ∈ ofInt i) :
    isDigit c = true ∨ c = '-' := by
  cases i with
  | ofNat n => exact .inl (Number.isDigit_of_mem_digits hc)
  | negSucc n =>
    rw [ofInt, List.mem_cons] at hc
    exact hc.symm.imp_left Number.isDigit_of_mem_digits

/-- A character that is no digit and no sign is not in a decimal text. -/
theorem not_mem_ofInt {c : Char} (hdigit : isDigit c = false) (hsign : c ≠ '-') (i : Int) :
    c ∉ ofInt i := by
  intro hc
  obtain h | h := isDigit_or_of_mem_ofInt hc
  · rw [hdigit] at h
    cases h
  · exact hsign h

/-- Whether a character is a space or a visible ASCII character: the artifact has no others of its own. -/
def isMark (c : Char) : Bool :=
  ' ' ≤ c && c ≤ '~'

/-- Whether no text of a member has the character. -/
structure Lacks (c : Char) (member : Member) : Prop where
  signature : c ∉ member.signature.toList
  doc : ∀ doc, member.doc = some doc → c ∉ doc.toList
  baseTypes : ∀ text ∈ member.baseTypes, c ∉ text.toList
  attributes : ∀ text ∈ member.attributes, c ∉ text.toList

/-- A member whose texts are on one line has no line feed in them. -/
theorem lacks_of_textsOnOneLine {member : Member} (h : TextsOnOneLine member) : Lacks '\n' member :=
  ⟨h.signature, h.doc, h.baseTypes, h.attributes⟩

section Marks

variable {c : Char} {member : Member}

/-- A character that is no mark is not in a text of marks. -/
theorem not_mem_of_all_isMark {cs : List Char} (hc : isMark c = false) (h : cs.all isMark = true) :
    c ∉ cs := by
  intro hmem
  have hmark := List.all_eq_true.1 h c hmem
  rw [hc] at hmark
  exact Bool.false_ne_true hmark

/-- A digit is visible. -/
theorem not_isDigit_of_not_isMark (hc : isMark c = false) : isDigit c = false := by
  by_contra hdigit
  rw [Bool.not_eq_false, isDigit, Bool.and_eq_true, decide_eq_true_eq, decide_eq_true_eq] at hdigit
  have hmark : isMark c = true := by
    rw [isMark, Bool.and_eq_true, decide_eq_true_eq, decide_eq_true_eq]
    exact ⟨Char.le_trans (by decide) hdigit.1, Char.le_trans hdigit.2 (by decide)⟩
  rw [hc] at hmark
  exact Bool.false_ne_true hmark

/-- The sign of a number is visible. -/
theorem ne_sign_of_not_isMark (hc : isMark c = false) : c ≠ '-' := by
  rintro rfl
  exact absurd hc (by decide)

/-- A tag is made of marks. -/
theorem not_mem_tag (hc : isMark c = false) (kind : Kind) (isStatic : Bool) :
    c ∉ tag kind isStatic := by
  refine not_mem_of_all_isMark hc ?_
  cases kind <;> cases isStatic <;> decide

/-- A character that is in no piece and not between them is not in the pieces joined. -/
theorem not_mem_join {sep : List Char} {pieces : List (List Char)} (hsep : c ∉ sep)
    (hpieces : ∀ piece ∈ pieces, c ∉ piece) : c ∉ join sep pieces := by
  have hchars : ∀ d ∈ join sep pieces, d ≠ c := by
    refine Text.forall_mem_join (fun d hd heq => hsep (heq ▸ hd)) ?_
    intro piece hpiece d hd heq
    exact hpieces piece hpiece (heq ▸ hd)
  exact fun hmem => hchars c hmem rfl

/-- What follows a signature has no other characters than marks and those of the member's texts. -/
theorem not_mem_details (hc : isMark c = false) (h : Lacks c member) : c ∉ details member := by
  -- The words and brackets of the artifact itself are marks.
  have hmark : ∀ text : String, text.toList.all isMark = true → c ∉ text.toList :=
    fun text => not_mem_of_all_isMark hc
  have hjoin : ∀ texts : List String, (∀ text ∈ texts, c ∉ text.toList) →
      c ∉ join ", ".toList (texts.map String.toList) := by
    intro texts htexts
    exact not_mem_join (hmark ", " (by decide)) (List.forall_mem_map.2 htexts)
  have hclose : c ∉ [']'] := not_mem_of_all_isMark hc (by decide)
  simp only [details, List.mem_append, not_or]
  refine ⟨⟨⟨?_, ?_⟩, ?_⟩, ?_⟩
  · -- The base types, the attributes, the line and the documentation, each with its sign in front.
    split_ifs
    · exact List.not_mem_nil
    · exact fun hmem => (List.mem_append.1 hmem).elim (hmark " : " (by decide))
        (hjoin _ h.baseTypes)
  · split_ifs
    · exact List.not_mem_nil
    · rw [List.mem_append, List.mem_append, not_or, not_or]
      exact ⟨⟨hmark " [" (by decide), hjoin _ h.attributes⟩, hclose⟩
  · cases member.line with
    | none => exact List.not_mem_nil
    | some line =>
      rw [List.mem_append, not_or]
      exact ⟨hmark " :" (by decide),
        not_mem_ofInt (not_isDigit_of_not_isMark hc) (ne_sign_of_not_isMark hc) line⟩
  · cases hsome : member.doc with
    | none => exact List.not_mem_nil
    | some doc =>
      simp only
      split_ifs
      · exact List.not_mem_nil
      · rw [List.mem_append, not_or]
        exact ⟨hmark " // " (by decide), h.doc doc hsome⟩

/-- What follows a tag is made of marks and the texts of the member. -/
theorem not_mem_afterTag (hc : isMark c = false) (h : Lacks c member) : c ∉ afterTag member := by
  have hspace : c ≠ ' ' := by
    rintro rfl
    exact absurd hc (by decide)
  rw [afterTag, List.cons_append, List.mem_cons, List.mem_append, not_or, not_or]
  exact ⟨hspace, h.signature, not_mem_details hc h⟩

end Marks

/-- The line of a member has its indentation, its tag and the rest. -/
theorem memberLine_eq (member : Member) (depth : Nat) :
    memberLine member depth =
      List.replicate (2 * depth) ' ' ++ (tag member.kind member.isStatic ++ afterTag member) := by
  simp [memberLine, afterTag]

/-- The line of a member is made of marks and its texts. -/
theorem not_mem_memberLine {c : Char} {member : Member} (hc : isMark c = false)
    (h : Lacks c member) (depth : Nat) : c ∉ memberLine member depth := by
  have hspaces : (List.replicate (2 * depth) ' ').all isMark = true := by
    refine List.all_eq_true.2 fun d hd => ?_
    rw [List.eq_of_mem_replicate hd]
    decide
  rw [memberLine_eq, List.mem_append, List.mem_append, not_or, not_or]
  exact ⟨not_mem_of_all_isMark hc hspaces, not_mem_tag hc _ _, not_mem_afterTag hc h⟩

mutual

/-- The lines of a member are made of marks and the texts of all members in it. -/
theorem not_mem_memberLines {c : Char} (hc : isMark c = false) : ∀ (member : Member) (depth : Nat),
    (∀ inner ∈ member.preorder, Lacks c inner) → ∀ line ∈ memberLines depth member, c ∉ line
  | ⟨kind, signature, line, isStatic, doc, baseTypes, attributes, children⟩, depth, h => by
    rw [Member.preorder, List.forall_mem_cons] at h
    rw [memberLines, List.forall_mem_cons]
    exact ⟨not_mem_memberLine hc h.1 depth, not_mem_forestLines hc children (depth + 1) h.2⟩

/-- The same for a forest. -/
theorem not_mem_forestLines {c : Char} (hc : isMark c = false) :
    ∀ (members : List Member) (depth : Nat), (∀ inner ∈ preorderOf members, Lacks c inner) →
      ∀ line ∈ forestLines depth members, c ∉ line
  | [], _, _ => by simp [forestLines]
  | member :: members, depth, h => by
    rw [preorderOf_cons, List.forall_mem_append] at h
    rw [forestLines, List.forall_mem_append]
    exact ⟨not_mem_memberLines hc member depth h.1, not_mem_forestLines hc members depth h.2⟩

end

/-- Whether no text that the artifact shows has a line feed. -/
def ShowsOneLiners (project : Project) : Prop :=
  ∀ file ∈ project.files, OnOneLine file.path.toList ∧
    ∀ member ∈ preorderOf file.members, TextsOnOneLine member

/-- Whether texts have a line feed can be computed. -/
instance : DecidablePred ShowsOneLiners := fun project =>
  inferInstanceAs (Decidable (∀ file ∈ project.files, OnOneLine file.path.toList ∧
    ∀ member ∈ preorderOf file.members, TextsOnOneLine member))

/-- A number with its name, as the totals show it. -/
def totalsField (name : String) (i : Int) : List Char :=
  name.toList ++ '=' :: ofInt i

/-- The words on the line with the totals. -/
def totalsWords (totals : Totals) : List (List Char) :=
  ["#".toList, "Summary:".toList, totalsField "files" totals.files,
    totalsField "namespaces" totals.counts.namespaces, totalsField "types" totals.counts.types,
    totalsField "methods" totals.counts.methods]

/-- The totals are shown in words with spaces between them. -/
theorem totalsLine_eq (totals : Totals) : totalsLine totals = join [' '] (totalsWords totals) := by
  -- `delta` opens the definition without its equation, which is slow to prove.
  delta totalsLine
  simp [totalsWords, totalsField, join]

/-- A character that is not in a number, nor in the texts around the numbers, is in no word. -/
theorem not_mem_totalsWords {c : Char} (hdigit : isDigit c = false) (hsign : c ≠ '-')
    (htexts : ∀ text ∈ ["#", "Summary:", "files", "namespaces", "types", "methods", "="],
      c ∉ text.toList) (totals : Totals) : ∀ word ∈ totalsWords totals, c ∉ word := by
  have hfield : ∀ name i, c ∉ name.toList → c ∉ totalsField name i := by
    intro name i hname
    have hequals : c ∉ ['='] := htexts "=" (by simp)
    rw [totalsField, List.mem_append, List.mem_cons, not_or, not_or]
    exact ⟨hname, by simpa using hequals, not_mem_ofInt hdigit hsign i⟩
  simp only [List.forall_mem_cons] at htexts
  obtain ⟨hmark, hsummary, hfiles, hnamespaces, htypes, hmethods, -⟩ := htexts
  simp only [totalsWords, List.forall_mem_cons]
  exact ⟨hmark, hsummary, hfield _ _ hfiles, hfield _ _ hnamespaces, hfield _ _ htypes,
    hfield _ _ hmethods, by simp⟩

/-- The line with the totals is made of marks. -/
theorem not_mem_totalsLine {c : Char} (hc : isMark c = false) (totals : Totals) :
    c ∉ totalsLine totals := by
  have htexts : ∀ text ∈ ["#", "Summary:", "files", "namespaces", "types", "methods", "="],
      text.toList.all isMark = true := by
    decide
  rw [totalsLine_eq]
  refine not_mem_join (not_mem_of_all_isMark hc (by decide)) ?_
  exact not_mem_totalsWords (not_isDigit_of_not_isMark hc) (ne_sign_of_not_isMark hc)
    (fun text htext => not_mem_of_all_isMark hc (htexts text htext)) totals

/-- A character that is no mark is in a line of the artifact only if a path or a member has it. -/
theorem not_mem_projectLines {c : Char} {project : Project} (hc : isMark c = false)
    (h : ∀ file ∈ project.files, c ∉ file.path.toList ∧
      ∀ member ∈ preorderOf file.members, Lacks c member) :
    ∀ line ∈ projectLines project, c ∉ line := by
  rw [projectLines, List.forall_mem_cons, List.forall_mem_cons]
  refine ⟨not_mem_totalsLine hc _, List.not_mem_nil, fun line hline => ?_⟩
  obtain ⟨file, hfile, hline⟩ := List.mem_flatMap.1 hline
  obtain ⟨hpath, hmembers⟩ := h file hfile
  simp only [fileLines, List.cons_append, List.mem_cons, List.mem_append, List.not_mem_nil,
    or_false] at hline
  -- The line is that of the path, one of a member or the empty one at the end.
  obtain rfl | hline | rfl := hline
  · rw [List.mem_append, not_or]
    exact ⟨not_mem_of_all_isMark hc (by decide), hpath⟩
  · exact not_mem_forestLines hc _ 1 hmembers line hline
  · exact List.not_mem_nil

/-- With no line feed in the texts, none is in a line. -/
theorem onOneLine_projectLines {project : Project} (h : ShowsOneLiners project) :
    ∀ line ∈ projectLines project, OnOneLine line := by
  refine not_mem_projectLines (by decide) fun file hfile => ?_
  obtain ⟨hpath, hmembers⟩ := h file hfile
  exact ⟨hpath, fun member hmember => lacks_of_textsOnOneLine (hmembers member hmember)⟩

/-- The artifact is divided into the lines it was made of; after the last line feed there is nothing. -/
theorem lines_listingText {project : Project} (h : ShowsOneLiners project) :
    Text.lines (listingText project).toList = projectLines project ++ [[]] := by
  have hne : projectLines project ≠ [] := List.cons_ne_nil _ _
  rw [listingText, String.toList_ofList, Text.lines, Text.splitAt_append_cons,
    Text.splitAt_join hne (onOneLine_projectLines h)]
  rfl

/-! ## The totals -/

/-- An integer is read back. -/
theorem readInt?_ofInt (i : Int) : readInt? (ofInt i) = some i := by
  have hall : ∀ n, (digits n).all isDigit = true := by
    intro n
    rw [List.all_eq_true]
    exact fun c hc => Number.isDigit_of_mem_digits hc
  cases i with
  | ofNat n =>
    -- A numeral does not start with a sign, so the second equation applies.
    have hsign : ∀ cs, digits n ≠ '-' :: cs := by
      intro cs heq
      have hdigit : isDigit '-' = true := Number.isDigit_of_mem_digits (heq ▸ List.mem_cons_self)
      exact absurd hdigit (by decide)
    rw [ofInt, readInt?.eq_2 _ hsign, if_pos (hall n), Number.value_digits]
    rfl
  | negSucc n =>
    rw [ofInt, readInt?, if_pos (hall (n + 1)), Number.value_digits]
    rfl

/-- A number is read back by its name. -/
theorem readField?_totalsField {name : String} (hname : '=' ∉ name.toList) (i : Int) :
    readField? name (totalsField name i) = some i := by
  have hnumber : '=' ∉ ofInt i := not_mem_ofInt (by decide) (by decide) i
  have hsplit : splitAt '=' (totalsField name i) = [name.toList, ofInt i] := by
    rw [totalsField, Text.splitAt_append_cons, Text.splitAt_of_not_mem hname,
      Text.splitAt_of_not_mem hnumber]
    rfl
  rw [readField?, hsplit]
  simp only [if_true]
  exact readInt?_ofInt i

/-- The totals are read back. -/
theorem readTotals?_totalsLine (totals : Totals) : readTotals? (totalsLine totals) = some totals := by
  have hsplit : splitAt ' ' (totalsLine totals) = totalsWords totals := by
    rw [totalsLine_eq]
    exact Text.splitAt_join (List.cons_ne_nil _ _)
      (not_mem_totalsWords (by decide) (by decide) (by decide) totals)
  rw [readTotals?, hsplit]
  simp only [totalsWords]
  rw [readField?_totalsField (by decide), readField?_totalsField (by decide),
    readField?_totalsField (by decide), readField?_totalsField (by decide)]
  rfl

/-! ## Members -/

/-- What stands between the brackets of a tag. -/
def tagText (kind : Kind) (isStatic : Bool) : List Char :=
  kind.name.toList ++ if isStatic then ":static".toList else []

/-- A tag is its text in brackets. -/
theorem tag_eq (kind : Kind) (isStatic : Bool) :
    tag kind isStatic = '[' :: (tagText kind isStatic ++ [']']) := by
  rw [tag, tagText, List.cons_append, List.cons_append]

/-- A tag is read back. -/
theorem readTag?_tagText (kind : Kind) (isStatic : Bool) :
    readTag? (tagText kind isStatic) = some (kind, isStatic) := by
  cases kind <;> cases isStatic <;> decide

/-- A tag ends at its first closing bracket. -/
theorem not_mem_tagText (kind : Kind) (isStatic : Bool) : ']' ∉ tagText kind isStatic := by
  cases kind <;> cases isStatic <;> decide

/-- The line of a member is read back. The spaces in front of the tag are counted exactly, for the
tag starts with a bracket, and the tag ends at its own bracket whatever follows it. -/
theorem readLine?_memberLine (member : Member) (depth : Nat) :
    readLine? (memberLine member (depth + 1)) =
      some (.member (depth + 1) member.kind member.isStatic (String.ofList (afterTag member))) := by
  have hindent : memberLine member (depth + 1) = List.replicate (2 * (depth + 1)) ' ' ++
      '[' :: (tagText member.kind member.isStatic ++ ']' :: afterTag member) := by
    rw [memberLine_eq, tag_eq]
    simp
  -- The line starts with a space, so it is neither empty nor that of a path.
  have hfirst : readLine? (memberLine member (depth + 1)) =
      readMember? (memberLine member (depth + 1)) := by
    rw [hindent, Nat.mul_succ, List.replicate_succ, List.cons_append]
    rfl
  obtain ⟨htake, hdrop⟩ := @Text.takeWhile_append_of_stop Char (· == ' ')
    (List.replicate (2 * (depth + 1)) ' ')
    ('[' :: (tagText member.kind member.isStatic ++ ']' :: afterTag member)) (by simp) (by simp)
  -- Up to the first closing bracket stands the text of the tag.
  have hbracket : ∀ c ∈ tagText member.kind member.isStatic, (c != ']') = true := by
    intro c hc
    rw [bne_iff_ne]
    rintro rfl
    exact not_mem_tagText _ _ hc
  obtain ⟨htext, hrest⟩ := @Text.takeWhile_append_of_stop Char (· != ']') _
    (']' :: afterTag member) hbracket (by simp)
  rw [hfirst, readMember?, hindent, hdrop, htake]
  simp only [htext, hrest, readTag?_tagText]
  simp

/-- A line in front of lines that are read adds to what they say. -/
theorem readLines?_cons {line : List Char} {lines : List (List Char)} {said : ListingLine}
    {reading : Reading} (hline : readLine? line = some said) (hlines : readLines? lines = some reading) :
    readLines? (line :: lines) = some (reading.add said) := by
  rw [readLines?, hlines, Option.bind_eq_bind, Option.bind_some, hline]
  rfl

mutual

/-- The lines of a member add the member at its depth, if the lines after them do not go on deeper. -/
theorem readLines?_memberLines : ∀ (member : Member) (depth : Nat) (lines : List (List Char))
    (reading : Reading), readLines? lines = some reading →
    (∀ item ∈ reading.pending.head?, item.1 ≤ depth + 1) →
    readLines? (memberLines (depth + 1) member ++ lines) =
      some ⟨(depth + 1, listedMember member) :: reading.pending, reading.files⟩
  | ⟨kind, signature, line, isStatic, doc, baseTypes, attributes, children⟩, depth, lines, reading,
      hlines, hhead => by
    have hchildren := readLines?_forestLines children (depth + 1) lines reading hlines
      fun item hitem => (hhead item hitem).trans (Nat.le_succ _)
    rw [memberLines, List.cons_append, readLines?_cons (readLine?_memberLine _ depth) hchildren]
    -- All children are deeper than the member, and what follows them is not.
    obtain ⟨htake, hdrop⟩ := @Text.takeWhile_append_of_stop (Nat × ListedMember)
      (fun item => decide (depth + 1 < item.1))
      ((listedMembers children).map fun child => (depth + 1 + 1, child)) reading.pending (by simp)
      (fun item hitem => by simpa using hhead item hitem)
    simp only [Reading.add, htake, hdrop, listedMember, List.map_map]
    simp [Function.comp_def]

/-- The lines of a forest add its members at their depth. -/
theorem readLines?_forestLines : ∀ (members : List Member) (depth : Nat) (lines : List (List Char))
    (reading : Reading), readLines? lines = some reading →
    (∀ item ∈ reading.pending.head?, item.1 ≤ depth + 1) →
    readLines? (forestLines (depth + 1) members ++ lines) =
      some ⟨((listedMembers members).map fun member => (depth + 1, member)) ++ reading.pending,
        reading.files⟩
  | [], depth, lines, reading, hlines, hhead => by
    rw [forestLines, listedMembers]
    exact hlines
  | member :: members, depth, lines, reading, hlines, hhead => by
    have hrest := readLines?_forestLines members depth lines reading hlines hhead
    have hmember := readLines?_memberLines member depth _ _ hrest
    rw [forestLines, List.append_assoc, hmember, listedMembers]
    · rfl
    · -- The first item after the member is its next sibling, or what follows the forest.
      cases members with
      | nil => exact hhead
      | cons next members =>
        intro item hitem
        cases hitem
        exact le_rfl

end

/-! ## Files and projects -/

/-- An empty line says nothing. -/
theorem readLines?_blank {lines : List (List Char)} {reading : Reading}
    (h : readLines? lines = some reading) : readLines? ([] :: lines) = some reading := by
  have hline : readLine? [] = some .blank := rfl
  exact readLines?_cons hline h

/-- The lines of a file add the file. -/
theorem readLines?_fileLines {lines : List (List Char)} {files : List ListedFile} (file : FileMap)
    (h : readLines? lines = some ⟨[], files⟩) :
    readLines? (fileLines file ++ lines) = some ⟨[], listedFile file :: files⟩ := by
  -- The members come before an empty line, and the path takes all of them.
  have hmembers := readLines?_forestLines file.members 0 _ _ (readLines?_blank h) (by simp)
  have hpath : readLine? ("# ".toList ++ file.path.toList) = some (.path file.path) := by
    have hmark : "# ".toList = ['#', ' '] := by decide
    rw [hmark, List.cons_append, List.cons_append, List.nil_append, readLine?, String.ofList_toList]
  have hlines : fileLines file ++ lines = ("# ".toList ++ file.path.toList) ::
      (forestLines (0 + 1) file.members ++ [] :: lines) := by
    simp [fileLines]
  rw [hlines, readLines?_cons hpath hmembers]
  simp [Reading.add, listedFile, Function.comp_def]

/-- The lines of files add the files. -/
theorem readLines?_flatMap_fileLines {lines : List (List Char)} (files : List FileMap)
    (h : readLines? lines = some ⟨[], []⟩) :
    readLines? (files.flatMap fileLines ++ lines) = some ⟨[], files.map listedFile⟩ := by
  induction files with
  | nil => exact h
  | cons file files ih =>
    rw [List.flatMap_cons, List.append_assoc, readLines?_fileLines file ih, List.map_cons]

/-- The artifact of a project whose texts have no line feed is read back. -/
theorem readListing?_of_showsOneLiners {project : Project} {text : String}
    (h : ShowsOneLiners project) (htext : renderText project = .ok text) :
    readListing? text = some (listingOf project) := by
  obtain ⟨-, rfl⟩ := renderText_eq_ok_iff.1 htext
  have hend : readLines? [[]] = some ⟨[], []⟩ := rfl
  have hfiles := readLines?_flatMap_fileLines project.files hend
  rw [readListing?, lines_listingText h, projectLines]
  simp only [List.cons_append, readTotals?_totalsLine, readLines?_blank hfiles]
  rfl

mutual

/-- A listed member has the kinds of the member, at all depths. -/
theorem kinds_listedMember : ∀ member : Member,
    (listedMember member).kinds = member.preorder.map Member.kind
  | ⟨kind, signature, line, isStatic, doc, baseTypes, attributes, children⟩ => by
    rw [listedMember, ListedMember.kinds, kindsOf_listedMembers children, Member.preorder,
      List.map_cons]

/-- The same for a forest. -/
theorem kindsOf_listedMembers : ∀ members : List Member,
    kindsOf (listedMembers members) = (preorderOf members).map Member.kind
  | [] => rfl
  | member :: members => by
    rw [listedMembers, kindsOf, kinds_listedMember member, kindsOf_listedMembers members,
      preorderOf_cons, List.map_append]

end

/-- What is listed of a project has the kinds of all its members. -/
theorem kinds_listingOf (project : Project) :
    (listingOf project).kinds =
      (project.files.flatMap fun file => preorderOf file.members).map Member.kind := by
  simp only [Listing.kinds, listingOf, listedFile, List.flatMap_map, kindsOf_listedMembers,
    List.map_flatMap]

/-- Only a path can bring a line feed into the artifact of a mapped project. -/
theorem showsOneLiners_of_mapProject {sources : Mapping.Sources} {settings : Settings}
    {projectUnit : Discovery.ProjectUnit} {project : Project}
    (h : (Mapping.mapProject sources settings projectUnit).outcome = .ok project)
    (hpaths : ∀ file ∈ project.files, OnOneLine file.path.toList) : ShowsOneLiners project := by
  intro file hfile
  -- Each file is mapped from a tree, and all texts that are taken from a tree are on one line.
  obtain ⟨-, -, hfiles⟩ := Mapping.of_mapProject h
  obtain ⟨path, -, hmap⟩ := hfiles file hfile
  obtain ⟨setting, tree, htree⟩ := Mapping.mapTree_of_mapFile hmap
  refine ⟨hpaths file hfile, fun member hmember => ?_⟩
  exact ((Outline.tidy_of_mapTree htree).2 member hmember).toTextsOnOneLine

/-- The text artifact shows the structure of a project without loss. There is one if no number of the
project has too many digits. If no path, signature, base type, attribute or documentation has a line feed,
the paths and the forests are read back from the text, with the kind, the static flag, the rest of the line
and the nesting of every member. So two such projects with the same text show the same. For a mapped
project only the paths need to be on one line, and the totals read back are the numbers of files,
namespaces, types and methods read back. -/
theorem renderText_read_back :
    (∀ project : Project, (∃ text, renderText project = .ok text) ↔ NumbersFit project) ∧
    (∀ (project : Project) (text : String), ShowsOneLiners project → renderText project = .ok text →
      readListing? text = some (listingOf project)) ∧
    (∀ (project other : Project) (text : String), ShowsOneLiners project → ShowsOneLiners other →
      renderText project = .ok text → renderText other = .ok text →
      listingOf project = listingOf other) ∧
    (∀ (sources : Mapping.Sources) (settings : Settings) (projectUnit : Discovery.ProjectUnit)
      (project : Project) (text : String),
      (Mapping.mapProject sources settings projectUnit).outcome = .ok project →
      (∀ file ∈ project.files, OnOneLine file.path.toList) → renderText project = .ok text →
        ∃ listing, readListing? text = some listing ∧
          listing = listingOf project ∧ listing.totals.files = listing.files.length ∧
          listing.totals.counts = tally listing.kinds) := by
  refine ⟨?_, fun project text => readListing?_of_showsOneLiners, ?_, ?_⟩
  · intro project
    simp only [renderText_eq_ok_iff, exists_and_left, exists_eq, and_true]
  · -- Both listings are what is read from the one text.
    intro project other text hproject hother htext htext'
    have hread := readListing?_of_showsOneLiners hproject htext
    rw [readListing?_of_showsOneLiners hother htext'] at hread
    exact (Option.some.inj hread).symm
  · intro sources settings projectUnit project text hmap hpaths htext
    have hshows := showsOneLiners_of_mapProject hmap hpaths
    refine ⟨listingOf project, readListing?_of_showsOneLiners hshows htext, rfl, ?_, ?_⟩
    · simp [listingOf, Project.totals]
    · obtain ⟨-, hcounts, -⟩ := Mapping.of_mapProject hmap
      rw [kinds_listingOf, ← Outline.countFiles_eq_tally]
      exact hcounts

/-- A project with a file that has no members, a member three levels deep before one at the top, and
texts that look like paths, tags and indentation. -/
def deepProject : Project where
  name := "P"
  files := [⟨"A.cs", [
      { kind := .nameSpace, signature := "# N", line := some 1, children := [
        { kind := .classType, signature := "  [Class] C", baseTypes := ["B", "I"], children := [
          { kind := .method, signature := "]", isStatic := true, doc := some "x" }] }] },
      { kind := .enumeration, signature := "" }]⟩,
    ⟨"# B.cs", []⟩]
  counts := ⟨7, -1, 0⟩

/-- The same project with the base types of its class in the signature. -/
def flatProject : Project where
  name := "Q"
  files := [⟨"A.cs", [
      { kind := .nameSpace, signature := "# N", line := some 1, children := [
        { kind := .classType, signature := "  [Class] C : B, I", children := [
          { kind := .method, signature := "]", isStatic := true, doc := some "x" }] }] },
      { kind := .enumeration, signature := "" }]⟩,
    ⟨"# B.cs", []⟩]
  counts := ⟨7, -1, 0⟩

/-- A store with one source of the given name. -/
def regionSources (name : String) : Mapping.Sources where
  store := {
    root := [("a", .dir [(name, .file Outline.privateSource)])]
    workingDir := ⟨false, []⟩ }
  parse _ := Outline.regionTree

/-- Both projects have one text, from which the nesting is read back, and the totals of a mapped project
are those of what is read. -/
theorem deepProject_read_back :
    ShowsOneLiners deepProject ∧ ShowsOneLiners flatProject ∧
      (∃ text, renderText deepProject = .ok text ∧ renderText flatProject = .ok text ∧
        readListing? text = some (listingOf deepProject)) ∧
      listingOf deepProject = listingOf flatProject ∧
      ∃ project text listing,
        (Mapping.mapProject (regionSources "A.cs") {} ⟨"P", "/a", ["/a/A.cs"]⟩).outcome = .ok project ∧
          project.counts = ⟨1, 2, 1⟩ ∧ renderText project = .ok text ∧
          readListing? text = some listing ∧ listing.totals = ⟨1, tally listing.kinds⟩ := by
  have hdeep : ShowsOneLiners deepProject := by decide +kernel
  have hflat : ShowsOneLiners flatProject := by decide +kernel
  -- The base types are in the signature or after it, and the lines are the same.
  have hlines : projectLines deepProject = projectLines flatProject := by decide +kernel
  have htext : renderText deepProject = .ok (listingText deepProject) :=
    if_pos (by decide +kernel)
  have htext' : renderText flatProject = .ok (listingText deepProject) := by
    rw [listingText, hlines]
    exact if_pos (by decide +kernel)
  obtain ⟨-, hread, hsame, hmapped⟩ := renderText_read_back
  refine ⟨hdeep, hflat, ⟨_, htext, htext', hread _ _ hdeep htext⟩,
    hsame _ _ _ hdeep hflat htext htext', ?_⟩
  have hmap : ∃ project,
      (Mapping.mapProject (regionSources "A.cs") {} ⟨"P", "/a", ["/a/A.cs"]⟩).outcome = .ok project ∧
        project.counts = ⟨1, 2, 1⟩ ∧ project.files.length = 1 ∧
        (∀ file ∈ project.files, OnOneLine file.path.toList) ∧
        numbersWritable project = true :=
    ⟨_, rfl, by decide +kernel⟩
  obtain ⟨project, hproject, hcounts, hfiles, hpaths, hwritable⟩ := hmap
  obtain ⟨listing, hlisting, hshown, -, htally⟩ :=
    hmapped _ _ _ _ _ hproject hpaths (if_pos hwritable)
  refine ⟨project, _, listing, hproject, hcounts, if_pos hwritable, hlisting, ?_⟩
  rw [← htally, hshown, listingOf, Project.totals, hfiles]
  rfl

/-- A project with the text of a mapped project whose only file has a line feed in its name. -/
def lookalikeProject : Project where
  name := "P"
  files := [⟨"x", [
    { kind := .classType, signature := "y.cs" },
    { kind := .enumeration, signature := " \x7b \x7d", line := some 1 },
    { kind := .nameSpace, signature := "", line := some 1, children := [
      { kind := .classType, signature := "", line := some 1, children := [
        { kind := .method, signature := " ", line := some 1 }] }] }]⟩]
  counts := ⟨1, 2, 1⟩

/-- A file name with a line feed can look like a member, so no reader finds the numbers of every mapped
project. -/
theorem brokenPath_not_read_back : ¬ ∃ read : String → Option Listing,
    (∀ (project : Project) (text : String), ShowsOneLiners project → renderText project = .ok text →
      read text = some (listingOf project)) ∧
    (∀ (sources : Mapping.Sources) (settings : Settings) (projectUnit : Discovery.ProjectUnit)
      (project : Project) (text : String),
      (Mapping.mapProject sources settings projectUnit).outcome = .ok project →
      renderText project = .ok text →
        ∃ listing, read text = some listing ∧
          listing.totals.files = listing.files.length ∧
          listing.totals.counts = tally listing.kinds) := by
  rintro ⟨read, hread, hmapped⟩
  have hlookalike : ShowsOneLiners lookalikeProject := by decide +kernel
  -- The name of the file brings the line of a member into the text.
  obtain ⟨project, hproject, hjoined, hwritable⟩ : ∃ project,
      (Mapping.mapProject (regionSources "x\n  [Class] y.cs") {}
        ⟨"P", "/a", ["/a/x\n  [Class] y.cs"]⟩).outcome = .ok project ∧
        join ['\n'] (projectLines project) = join ['\n'] (projectLines lookalikeProject) ∧
        numbersWritable project = true :=
    ⟨_, rfl, by decide +kernel⟩
  have htext : renderText project = .ok (listingText lookalikeProject) := by
    rw [listingText, ← hjoined]
    exact if_pos hwritable
  have htext' : renderText lookalikeProject = .ok (listingText lookalikeProject) :=
    if_pos (by decide +kernel)
  obtain ⟨listing, hlisting, -, hcounts⟩ := hmapped _ _ _ _ _ hproject htext
  rw [hread lookalikeProject _ hlookalike htext'] at hlisting
  cases hlisting
  -- The header counts two types, and the reader finds a third one in the name.
  exact absurd hcounts (by decide +kernel)

end ApiOutline.Artifact
