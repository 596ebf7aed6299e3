import ApiOutline.Json.Printer
import ApiOutline.Proofs.Decimal
import Mathlib.Tactic.IntervalCases

/-!
# The characters of written JSON

A written document has line feeds and no other control characters, and in the style for it no characters outside
ASCII, whatever its texts hold (`writtenText_writeAt`).
-/

namespace ApiOutline.Json

open Number (digits isDigit Format dropZeros)
open Text (hexDigits)

/-- Whether a character may stand in a written document. -/
structure Written (asciiOnly : Bool) (c : Char) : Prop where
  printable : c = '\n' ∨ 0x20 ≤ c.toNat
  ascii : asciiOnly = true → c.toNat < 0x7F

instance (asciiOnly : Bool) (c : Char) : Decidable (Written asciiOnly c) :=
  decidable_of_iff ((c = '\n' ∨ 0x20 ≤ c.toNat) ∧ (asciiOnly = true → c.toNat < 0x7F))
    ⟨fun h => ⟨h.1, h.2⟩, fun h => ⟨h.1, h.2⟩⟩

/-- Whether all characters of a text may stand in a written document. -/
def WrittenText (asciiOnly : Bool) (cs : List Char) : Prop :=
  ∀ c ∈ cs, Written asciiOnly c

variable {asciiOnly : Bool} {c : Char} {cs ds : List Char}

/-- Carriage returns are escaped. -/
theorem Written.ne_return (h : Written asciiOnly c) : c ≠ '\r' := by
  rintro rfl
  exact absurd h.printable (by decide)

/-- A text may be written if its parts may. -/
theorem writtenText_append :
    WrittenText asciiOnly (cs ++ ds) ↔ WrittenText asciiOnly cs ∧ WrittenText asciiOnly ds :=
  List.forall_mem_append

/-- A text may be written if its characters may. -/
theorem writtenText_cons : WrittenText asciiOnly (c :: cs) ↔ Written asciiOnly c ∧ WrittenText asciiOnly cs :=
  List.forall_mem_cons

/-- Nothing may be written. -/
theorem writtenText_nil : WrittenText asciiOnly [] :=
  List.forall_mem_nil _

/-- A text of characters that may be written may be written. -/
theorem WrittenText.mono (h : WrittenText asciiOnly ds) (hsub : cs ⊆ ds) : WrittenText asciiOnly cs :=
  fun c hc => h c (hsub hc)

/-- Characters of ASCII may stand in a document of both styles. -/
theorem Written.of_ascii (h : Written true c) : Written asciiOnly c :=
  ⟨h.printable, fun _ => h.ascii rfl⟩

/-- Texts of ASCII may be written in both styles. -/
theorem writtenText_ascii (cs : List Char) (h : cs.all (Written true ·) = true) : WrittenText asciiOnly cs :=
  fun c hc => .of_ascii (by simpa using List.all_eq_true.1 h c hc)

/-! ## Numbers and strings -/

/-- Digits may be written. -/
theorem writtenText_of_digits (h : ∀ c ∈ cs, isDigit c = true) : WrittenText asciiOnly cs := by
  intro c hc
  have hrange : '0' ≤ c ∧ c ≤ '9' := by simpa [isDigit] using h c hc
  have hlow : 48 ≤ c.toNat := hrange.1
  have hhigh : c.toNat ≤ 57 := hrange.2
  exact ⟨.inr (by omega), fun _ => by omega⟩

/-- Numerals may be written. -/
theorem writtenText_digits (n : Nat) : WrittenText asciiOnly (digits n) :=
  writtenText_of_digits fun _ hc => Number.isDigit_of_mem_digits hc

/-- Zeros may be written. -/
theorem writtenText_zeros (n : Nat) : WrittenText asciiOnly (List.replicate n '0') :=
  writtenText_of_digits (Number.isDigit_zeros n)

/-- Dropping zeros leaves some of the digits. -/
theorem dropZeros_subset (ds : List Char) : dropZeros ds ⊆ ds := by
  intro c hc
  rw [dropZeros, List.mem_reverse] at hc
  exact List.mem_reverse.1 ((List.dropWhile_sublist _).subset hc)

/-- A number laid out from its digits has the digits, zeros and the marks of the format. -/
theorem writtenText_layout (n : Format) (hds : WrittenText asciiOnly ds) (p : Int) :
    WrittenText asciiOnly (n.layout ds p) := by
  have hpadded : ∀ k, WrittenText asciiOnly (ds ++ List.replicate k '0') :=
    fun k => writtenText_append.2 ⟨hds, writtenText_zeros k⟩
  have hpoint : Written asciiOnly '.' := .of_ascii (by decide)
  unfold Format.layout
  split
  · -- In full, either below one or with the point among the digits.
    split
    · exact writtenText_append.2
        ⟨writtenText_append.2 ⟨writtenText_ascii _ (by decide), writtenText_zeros _⟩, hds⟩
    · refine writtenText_append.2
        ⟨(hpadded _).mono (List.take_subset _ _), writtenText_cons.2 ⟨hpoint, ?_⟩⟩
      split
      · exact writtenText_ascii _ (by decide)
      · exact (hpadded _).mono (List.drop_subset _ _)
  · -- With an exponent: a digit, the others after a point, the mark and the sign of the exponent.
    refine writtenText_append.2 ⟨?_, writtenText_digits _⟩
    refine writtenText_append.2 ⟨writtenText_append.2 ⟨hds.mono (List.take_subset _ _), ?_⟩, ?_⟩
    · split
      · exact writtenText_nil
      · exact writtenText_cons.2 ⟨hpoint, hds.mono (List.drop_subset _ _)⟩
    · refine writtenText_cons.2 ⟨.of_ascii (by decide), writtenText_cons.2 ⟨?_, writtenText_zeros _⟩⟩
      split
      · exact .of_ascii (by decide)
      · exact .of_ascii (by decide)

/-- A number in a format may be written if the names for what is no number may. -/
theorem writtenText_number (n : Format) (hnan : WrittenText asciiOnly n.nan.toList)
    (hinfinity : WrittenText asciiOnly n.infinity.toList) (x : Number.Binary64) :
    WrittenText asciiOnly (n.write x) := by
  have hsign : ∀ negative, WrittenText asciiOnly (if negative = true then ['-'] else []) := by
    intro negative
    split
    · exact writtenText_ascii _ (by decide)
    · exact writtenText_nil
  cases x with
  | nan => exact hnan
  | infinite negative => exact writtenText_append.2 ⟨hsign negative, hinfinity⟩
  | finite negative m e =>
    unfold Format.write
    dsimp only
    split
    · exact writtenText_append.2 ⟨hsign negative, writtenText_ascii _ (by decide)⟩
    · exact writtenText_append.2 ⟨hsign negative,
        writtenText_layout n ((writtenText_digits _).mono (dropZeros_subset _)) _⟩

/-- Hexadecimal digits may be written. -/
theorem writtenText_hexDigits (width n : Nat) : WrittenText asciiOnly (hexDigits width n) := by
  have hdigit : ∀ d < 16, WrittenText asciiOnly [Nat.digitChar d] := by
    intro d hd
    interval_cases d <;> exact writtenText_ascii _ (by decide)
  induction width generalizing n with
  | zero => exact writtenText_nil
  | succ width ih => exact writtenText_append.2 ⟨ih _, hdigit _ (Nat.mod_lt _ (by decide))⟩

/-- An escaped character is written in ASCII. -/
theorem writtenText_escapeCode (n : Nat) : WrittenText asciiOnly (escapeCode n) := by
  have hunit : ∀ unit, WrittenText asciiOnly (escapeUnit unit) := by
    intro unit
    have hmarks : WrittenText asciiOnly ['\\', 'u'] := writtenText_ascii _ (by decide)
    exact writtenText_append.2 ⟨hmarks, writtenText_hexDigits 4 unit⟩
  unfold escapeCode
  split
  · exact hunit _
  · exact writtenText_append.2 ⟨hunit _, hunit _⟩

/-- However a character is written, the result may be written. -/
theorem writtenText_writeChar (asciiOnly : Bool) (c : Char) : WrittenText asciiOnly (writeChar asciiOnly c) := by
  unfold writeChar
  split_ifs with hquote hfeed hreturn htab hform hback hescape
  · obtain rfl | rfl := hquote <;> exact writtenText_ascii _ (by decide)
  · exact writtenText_ascii _ (by decide)
  · exact writtenText_ascii _ (by decide)
  · exact writtenText_ascii _ (by decide)
  · exact writtenText_ascii _ (by decide)
  · exact writtenText_ascii _ (by decide)
  · exact writtenText_escapeCode _
  · -- What is written as it is is no control character, and no other one that has to be escaped.
    rw [not_or, not_and, Nat.not_lt, Nat.not_le] at hescape
    exact writtenText_cons.2 ⟨⟨.inr hescape.1, hescape.2⟩, writtenText_nil⟩

/-- A text in quotes may be written. -/
theorem writtenText_writeString (asciiOnly : Bool) (s : String) :
    WrittenText asciiOnly (writeString asciiOnly s) := by
  refine writtenText_append.2 ⟨writtenText_cons.2 ⟨.of_ascii (by decide), ?_⟩, writtenText_ascii _ (by decide)⟩
  intro c hc
  obtain ⟨d, -, hc⟩ := List.mem_flatMap.1 hc
  exact writtenText_writeChar asciiOnly d c hc

/-! ## Documents -/

/-- A line feed and spaces, or nothing, may be written. -/
theorem writtenText_newLine (style : Style) (depth : Nat) :
    WrittenText style.asciiOnly (style.newLine depth) := by
  have hspace : ∀ n, WrittenText style.asciiOnly (List.replicate n ' ') := by
    intro n c hc
    rw [List.eq_of_mem_replicate hc]
    exact .of_ascii (by decide)
  unfold Style.newLine
  split
  · exact writtenText_cons.2 ⟨.of_ascii (by decide), hspace _⟩
  · exact writtenText_nil

-- The recursion is the one of the printer.
mutual

/-- A document may be written, whatever is in it. -/
theorem writtenText_writeAt (style : Style) : ∀ (depth : Nat) (doc : Json),
    WrittenText style.asciiOnly (writeAt style depth doc)
  | _, .null => writtenText_ascii "null".toList (by decide)
  | _, .bool true => writtenText_ascii "true".toList (by decide)
  | _, .bool false => writtenText_ascii "false".toList (by decide)
  | _, .int (.ofNat n) => writtenText_digits n
  | _, .int (.negSucc n) => writtenText_append.2
      ⟨writtenText_ascii ['-'] (by decide), writtenText_digits (n + 1)⟩
  | _, .float x => writtenText_number numberFormat (writtenText_ascii _ (by decide))
      (writtenText_ascii _ (by decide)) x
  | _, .str s => writtenText_writeString _ s
  | _, .arr [] => writtenText_ascii "[]".toList (by decide)
  | depth, .arr (item :: items) => by
    show WrittenText style.asciiOnly ('[' :: style.newLine (depth + 1) ++ writeAt style (depth + 1) item ++
      writeItems style depth items)
    simp only [writtenText_append, writtenText_cons]
    exact ⟨⟨⟨.of_ascii (by decide), writtenText_newLine style _⟩, writtenText_writeAt style (depth + 1) item⟩,
      writtenText_writeItems style depth items⟩
  | _, .obj [] => writtenText_ascii "\x7b\x7d".toList (by decide)
  | depth, .obj ((key, value) :: fields) => by
    show WrittenText style.asciiOnly ('\x7b' :: style.newLine (depth + 1) ++ writeString style.asciiOnly key ++
      ':' :: ' ' :: writeAt style (depth + 1) value ++ writeFields style depth fields)
    simp only [writtenText_append, writtenText_cons]
    exact ⟨⟨⟨⟨.of_ascii (by decide), writtenText_newLine style _⟩, writtenText_writeString _ key⟩,
      .of_ascii (by decide), .of_ascii (by decide), writtenText_writeAt style (depth + 1) value⟩,
      writtenText_writeFields style depth fields⟩

/-- So may the items of a list after the first. -/
theorem writtenText_writeItems (style : Style) : ∀ (depth : Nat) (items : List Json),
    WrittenText style.asciiOnly (writeItems style depth items)
  | _, [] => writtenText_append.2 ⟨writtenText_newLine style _, writtenText_ascii _ (by decide)⟩
  | depth, item :: items => by
    show WrittenText style.asciiOnly (',' :: style.newLine (depth + 1) ++ writeAt style (depth + 1) item ++
      writeItems style depth items)
    simp only [writtenText_append, writtenText_cons]
    exact ⟨⟨⟨.of_ascii (by decide), writtenText_newLine style _⟩, writtenText_writeAt style (depth + 1) item⟩,
      writtenText_writeItems style depth items⟩

/-- So may the fields of an object after the first. -/
theorem writtenText_writeFields (style : Style) : ∀ (depth : Nat) (fields : List (String × Json)),
    WrittenText style.asciiOnly (writeFields style depth fields)
  | _, [] => writtenText_append.2 ⟨writtenText_newLine style _, writtenText_ascii _ (by decide)⟩
  | depth, (key, value) :: fields => by
    show WrittenText style.asciiOnly (',' :: style.newLine (depth + 1) ++ writeString style.asciiOnly key ++
      ':' :: ' ' :: writeAt style (depth + 1) value ++ writeFields style depth fields)
    simp only [writtenText_append, writtenText_cons]
    exact ⟨⟨⟨⟨.of_ascii (by decide), writtenText_newLine style _⟩, writtenText_writeString _ key⟩,
      .of_ascii (by decide), .of_ascii (by decide), writtenText_writeAt style (depth + 1) value⟩,
      writtenText_writeFields style depth fields⟩

end

end ApiOutline.Json
