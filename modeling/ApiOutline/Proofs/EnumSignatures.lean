import ApiOutline.Proofs.SplitJoin
import ApiOutline.Proofs.TidyMembers

/-!
# Enumerations are read back from their signatures

The signature of an enumeration is words with a space between each two: the name, an opening brace, the
declared names with a comma after each but the last, and a closing brace (`writeEnum_eq_join`). A name may be
a brace or end in a comma, so neither of these divides the names; spaces do, since no name has a blank.
`readEnum?` takes a text apart at its spaces, and it accepts what is written of names without a space and
nothing else (`readEnum?_eq_some_iff`). So a signature has one reading.
-/

namespace ApiOutline.Outline

open Syntax (Node)
open Text (Bytes join splitAt)

variable {cs name : List Char} {names words : List (List Char)}

/-! ## Commas -/

/-- The names with a comma after each but the last. -/
def withCommas : List (List Char) → List (List Char)
  | [] => []
  | [name] => [name]
  | name :: next :: rest => (name ++ [',']) :: withCommas (next :: rest)

/-- The words without the comma at the end, which each but the last has. -/
def dropCommas? : List (List Char) → Option (List (List Char))
  | [] => some []
  | [word] => some [word]
  | word :: next :: rest =>
    if word.getLast? = some ',' then (dropCommas? (next :: rest)).map (word.dropLast :: ·) else none

@[simp]
theorem withCommas_eq_nil_iff : withCommas names = [] ↔ names = [] := by
  fun_cases withCommas names <;> simp

/-- A name that another one follows has its comma. -/
theorem withCommas_cons (hnames : names ≠ []) :
    withCommas (name :: names) = (name ++ [',']) :: withCommas names := by
  obtain ⟨next, rest, rfl⟩ := List.exists_cons_of_ne_nil hnames
  rfl

/-- A comma before another word is dropped. -/
theorem dropCommas?_cons (hwords : words ≠ []) :
    dropCommas? ((name ++ [',']) :: words) = (dropCommas? words).map (name :: ·) := by
  obtain ⟨next, rest, rfl⟩ := List.exists_cons_of_ne_nil hwords
  rw [dropCommas?, List.getLast?_concat, if_pos rfl, List.dropLast_concat]

/-- Commas can be dropped if they were put there. -/
theorem dropCommas?_eq_some_iff : dropCommas? words = some names ↔ withCommas names = words := by
  constructor
  · intro h
    fun_induction dropCommas? words generalizing names with
    | case1 =>
      cases h
      rfl
    | case2 word =>
      cases h
      rfl
    | case3 word next rest hlast ih =>
      obtain ⟨others, hothers, rfl⟩ := Option.map_eq_some_iff.1 h
      have hrest := ih hothers
      -- Another word follows, so another name does, and the comma goes back between them.
      have hne : others ≠ [] := by
        rintro rfl
        cases hrest
      rw [withCommas_cons hne, hrest, List.dropLast_append_getLast? ',' hlast]
    | case4 => cases h
  · rintro rfl
    fun_induction withCommas names with
    | case1 => rfl
    | case2 name => rfl
    | case3 name next rest ih =>
      rw [dropCommas?_cons (by simp), ih, Option.map_some]

/-- Commas are no spaces. -/
theorem forall_mem_withCommas_iff :
    (∀ word ∈ withCommas names, ' ' ∉ word) ↔ ∀ name ∈ names, ' ' ∉ name := by
  fun_induction withCommas names with
  | case1 => rfl
  | case2 name => rfl
  | case3 name next rest ih =>
    rw [List.forall_mem_cons, List.forall_mem_cons, ih, List.mem_append]
    simp

/-- A comma and a space between names is a space between the names with their commas. -/
theorem join_withCommas (names : List (List Char)) :
    join [' '] (withCommas names) = join ", ".toList names := by
  fun_induction withCommas names with
  | case1 => rfl
  | case2 name => rfl
  | case3 name next rest ih =>
    obtain ⟨word, words, hwords⟩ := List.exists_cons_of_ne_nil
      (mt withCommas_eq_nil_iff.1 (List.cons_ne_nil next rest))
    rw [join, ← ih, hwords, join]
    simp

/-! ## Words -/

/-- The words of a written enumeration. -/
def enumWords (name : List Char) (names : List (List Char)) : List (List Char) :=
  [name, ['\x7b']] ++ (withCommas names ++ [['\x7d']])

/-- The name and the declared names of an enumeration with the given words. -/
def enumOfWords? : List (List Char) → Option (List Char × List (List Char))
  | name :: ['\x7b'] :: words =>
    if words.getLast? = some ['\x7d'] then (dropCommas? words.dropLast).map (name, ·) else none
  | _ => none

/-- The name and the declared names of a written enumeration. -/
def readEnum? (cs : List Char) : Option (List Char × List (List Char)) :=
  enumOfWords? (splitAt ' ' cs)

/-- An enumeration is written as its words, with or without declared names. -/
theorem writeEnum_eq_join (name : List Char) (names : List (List Char)) :
    writeEnum name names = join [' '] (enumWords name names) := by
  unfold writeEnum enumWords
  split_ifs with hempty
  · -- The one space between the braces is that between two words.
    rw [List.isEmpty_iff.1 hempty]
    simp [withCommas, join]
  · have hnames : withCommas names ≠ [] :=
      mt withCommas_eq_nil_iff.1 (mt List.isEmpty_iff.2 hempty)
    rw [Text.join_append _ (List.cons_ne_nil _ _) (by simp),
      Text.join_append _ hnames (List.cons_ne_nil _ _), join_withCommas]
    simp [join]

/-- The words are divided by the spaces, of which the names have none. -/
theorem splitAt_eq_enumWords_iff :
    splitAt ' ' cs = enumWords name names ↔
      cs = writeEnum name names ∧ ' ' ∉ name ∧ ∀ other ∈ names, ' ' ∉ other := by
  -- Braces and commas are no spaces, so only the names can have one.
  have hspaces : (∀ word ∈ enumWords name names, ' ' ∉ word) ↔
      ' ' ∉ name ∧ ∀ other ∈ names, ' ' ∉ other := by
    rw [enumWords, List.forall_mem_append, List.forall_mem_append, forall_mem_withCommas_iff]
    simp
  rw [← hspaces, writeEnum_eq_join]
  constructor
  · intro h
    rw [← h, Text.join_splitAt]
    exact ⟨rfl, fun word hword => (Text.of_mem_splitAt hword).1⟩
  · rintro ⟨rfl, hwords⟩
    exact Text.splitAt_join (List.cons_ne_nil _ _) hwords

/-- Words are those of an enumeration if a name and declared names are read from them. -/
theorem enumOfWords?_eq_some_iff :
    enumOfWords? words = some (name, names) ↔ words = enumWords name names := by
  constructor
  · fun_cases enumOfWords? words with
    | case1 first inner hlast =>
      intro h
      obtain ⟨others, hothers, heq⟩ := Option.map_eq_some_iff.1 h
      cases heq
      -- The closing brace and the commas go back where they were taken off.
      rw [enumWords, dropCommas?_eq_some_iff.1 hothers, List.dropLast_append_getLast? _ hlast]
      rfl
    | case2 => simp
    | case3 => simp
  · rintro rfl
    have hcommas := dropCommas?_eq_some_iff.2 (Eq.refl (withCommas names))
    rw [enumWords, List.cons_append, List.cons_append, List.nil_append, enumOfWords?,
      List.getLast?_concat, if_pos rfl, List.dropLast_concat, hcommas, Option.map_some]

/-- Reading accepts what is written of names without a space, and nothing else. -/
theorem readEnum?_eq_some_iff :
    readEnum? cs = some (name, names) ↔
      cs = writeEnum name names ∧ ' ' ∉ name ∧ ∀ other ∈ names, ' ' ∉ other := by
  rw [readEnum?, enumOfWords?_eq_some_iff, splitAt_eq_enumWords_iff]

-- Without a space between them, two names are one.
example : readEnum? "Level \x7b Low, High \x7d".toList =
      some ("Level".toList, ["Low".toList, "High".toList]) ∧
    readEnum? "Level \x7b Low,High \x7d".toList = some ("Level".toList, ["Low,High".toList]) ∧
    readEnum? "Level \x7b Low High \x7d".toList = none := by
  decide

/-! ## Signatures -/

/-- A text without blanks has no space. -/
theorem Blankless.space_not_mem (h : Blankless cs) : ' ' ∉ cs :=
  fun hmem => absurd (h _ hmem) (by decide)

/-- What is written of names without blanks is read back. -/
theorem readEnum?_writeEnum (hname : Blankless name) (hnames : ∀ other ∈ names, Blankless other) :
    readEnum? (writeEnum name names) = some (name, names) :=
  readEnum?_eq_some_iff.2
    ⟨rfl, hname.space_not_mem, fun other hother => (hnames other hother).space_not_mem⟩

/-- The signature of an enumeration is that of its name and its declared names, and it is read back to
them. -/
theorem readEnum?_enumSignature {source : Bytes} {node : Node} (h : enumSignature source node = .ok cs) :
    ∃ name names, nameOf source node = .ok name ∧ enumNames source node = .ok names ∧
      cs = writeEnum name names ∧ readEnum? cs = some (name, names) := by
  obtain ⟨names, hnames, h⟩ := Outcome.bind_eq_ok.1 h
  obtain ⟨name, hname, h⟩ := Outcome.bind_eq_ok.1 h
  cases h
  exact ⟨name, names, hname, hnames, rfl, readEnum?_writeEnum (blankless_nameOf hname)
    fun other hother => (blankless_enumNames hnames other hother).2⟩

/-- Signatures of enumerations lose nothing. Where those of two nodes are equal, of whatever trees and
sources, the two have one name and declare the same names in the same order. These are read from the
signature alone, and no other names without blanks are written as it. -/
theorem enum_signature_lossless {source source' : Bytes} {node node' : Node} {signature : List Char}
    (h : enumSignature source node = .ok signature) (h' : enumSignature source' node' = .ok signature) :
    ∃ name names, readEnum? signature = some (name, names) ∧
      (nameOf source node = .ok name ∧ enumNames source node = .ok names) ∧
      (nameOf source' node' = .ok name ∧ enumNames source' node' = .ok names) ∧
      ∀ other others, Blankless other → (∀ declared ∈ others, Blankless declared) →
        (writeEnum other others = signature ↔ other = name ∧ others = names) := by
  obtain ⟨name, names, hname, hnames, hwritten, hread⟩ := readEnum?_enumSignature h
  obtain ⟨name', names', hname', hnames', -, hread'⟩ := readEnum?_enumSignature h'
  -- The reading does not depend on the node, so the two nodes share it.
  obtain ⟨rfl, rfl⟩ : name = name' ∧ names = names' := by
    simpa only [Option.some.injEq, Prod.mk.injEq] using hread.symm.trans hread'
  refine ⟨name, names, hread, ⟨hname, hnames⟩, ⟨hname', hnames'⟩, ?_⟩
  intro other others hother hothers
  constructor
  · rintro rfl
    simpa only [Option.some.injEq, Prod.mk.injEq] using
      (readEnum?_writeEnum hother hothers).symm.trans hread
  · rintro ⟨rfl, rfl⟩
    exact hwritten.symm

/-- A member of an enumeration whose name covers the given bytes. -/
def memberNamed (start stop : Nat) : Node :=
  { type := "enum_member_declaration", start := start, stop := stop, children := [
    { type := "identifier", start := start, stop := stop, field := some "name" }] }

/-- A source with a name that ends in a comma and one that is a brace. -/
def oddSource : Bytes :=
  Text.Utf8.ofString "E A, \x7d"

/-- The enumeration of its names. -/
def oddEnum : Node :=
  { type := "enum_declaration", start := 0, stop := 6, children := [
    { type := "identifier", start := 0, stop := 1, field := some "name" },
    { type := "block", start := 2, stop := 6, field := some "body", children := [
      memberNamed 2 4, memberNamed 5 6] }] }

/-- A source with the same names in other places, one of them with a blank in it. -/
def scatteredSource : Bytes :=
  Text.Utf8.ofString "E A ,\x7d \n"

/-- The enumeration of its names and of one that is all blanks. -/
def scatteredEnum : Node :=
  { type := "enum_declaration", start := 0, stop := 8, children := [
    { type := "identifier", start := 0, stop := 2, field := some "name" },
    { type := "enum_member_declaration_list", start := 2, stop := 8, children := [
      memberNamed 2 5, memberNamed 6 8, memberNamed 5 6] }] }

/-- The two enumerations have one signature, and the same names. -/
theorem oddEnum_scatteredEnum_alike :
    enumSignature oddSource oddEnum = .ok "E \x7b A,, \x7d \x7d".toList ∧
      enumSignature scatteredSource scatteredEnum = .ok "E \x7b A,, \x7d \x7d".toList ∧
      nameOf oddSource oddEnum = .ok "E".toList ∧ nameOf scatteredSource scatteredEnum = .ok "E".toList ∧
      enumNames oddSource oddEnum = .ok ["A,".toList, "\x7d".toList] ∧
      enumNames scatteredSource scatteredEnum = .ok ["A,".toList, "\x7d".toList] := by
  have hodd : enumSignature oddSource oddEnum = .ok "E \x7b A,, \x7d \x7d".toList := by rfl
  have hscattered : enumSignature scatteredSource scatteredEnum = .ok "E \x7b A,, \x7d \x7d".toList := by rfl
  obtain ⟨name, names, -, ⟨hname, hnames⟩, ⟨hname', hnames'⟩, hunique⟩ :=
    enum_signature_lossless hodd hscattered
  obtain ⟨rfl, rfl⟩ := (hunique "E".toList ["A,".toList, "\x7d".toList] (by decide) (by decide)).1 rfl
  exact ⟨hodd, hscattered, hname, hname', hnames, hnames'⟩

end ApiOutline.Outline
