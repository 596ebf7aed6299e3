import ApiOutline.Proofs.NumberText
import ApiOutline.Proofs.Outcome

/-!
# JSON documents are read back

`readValue_writeAt` says what reading gives for a written document, whatever text follows it: the
document and that text, or the fault of its first number with too many digits. It holds for documents
that are `Plain`, in which every object has different keys and every floating-point number is one of
the format, and for both ways to write characters outside ASCII.

The proof goes bottom up: characters and strings, blanks, and then documents by a recursion that
follows the printer. The fuel of the reader is bounded by the length of the text.
-/

namespace ApiOutline.Json

open Number (digits isDigit digitChar maxDigits hexValue?)
open Text (hexDigits)

/-! ## Strings -/

/-- Characters end below seventeen planes. -/
theorem toNat_lt (c : Char) : c.toNat < 0x110000 := by
  have hvalid := c.valid
  simp only [UInt32.isValidChar, Nat.isValidChar] at hvalid
  change c.val.toNat < 0x110000
  omega

/-- The code point of a character is no surrogate. -/
theorem not_surrogate (c : Char) : ¬ (0xD800 ≤ c.toNat ∧ c.toNat < 0xE000) := by
  have hvalid := c.valid
  simp only [UInt32.isValidChar, Nat.isValidChar] at hvalid
  change ¬ (0xD800 ≤ c.val.toNat ∧ c.val.toNat < 0xE000)
  omega

/-- A hexadecimal digit is read back. -/
theorem hexValue?_digitChar {d : Nat} (hd : d < 16) : hexValue? (Nat.digitChar d) = some d := by
  interval_cases d <;> rfl

/-- Four hexadecimal digits are read back as one unit. -/
theorem hexUnit?_hexDigits {n : Nat} (hn : n < 0x10000) :
    ∃ a b c d, hexDigits 4 n = [a, b, c, d] ∧ hexUnit? a b c d = some n := by
  refine ⟨_, _, _, _, rfl, ?_⟩
  simp only [hexUnit?, hexValue?_digitChar (Nat.mod_lt _ (by omega : 0 < 16)), Option.bind_eq_bind,
    Option.bind_some, Option.pure_def, Option.some.injEq]
  omega

/-- The units by which a character is written: two for an escaped one outside the first plane. -/
def unitsOf (asciiOnly : Bool) (c : Char) : List Nat :=
  if asciiOnly = true ∧ 0x10000 ≤ c.toNat then
    [0xD800 + (c.toNat - 0x10000) / 0x400, 0xDC00 + (c.toNat - 0x10000) % 0x400]
  else [c.toNat]

/-- An escape by one unit is read back. -/
theorem readUnits_escapeUnit {n : Nat} (hn : n < 0x10000) (rest : List Char) :
    readUnits (escapeUnit n ++ rest) = (readUnits rest).map fun r => (n :: r.1, r.2) := by
  obtain ⟨a, b, c, d, hdigits, hunit⟩ := hexUnit?_hexDigits hn
  rw [escapeUnit, hdigits]
  simp only [List.cons_append, List.nil_append, readUnits, hunit]

/-- A character that needs no escape is read as it is. -/
theorem readUnits_raw {c : Char} (hquote : c ≠ '\x22') (hslash : c ≠ '\\') (hcode : 0x20 ≤ c.toNat)
    (rest : List Char) :
    readUnits (c :: rest) = (readUnits rest).map fun r => (c.toNat :: r.1, r.2) := by
  rw [readUnits.eq_def]
  -- All cases but the last are about the end, a quote or an escape.
  split
  · simp_all
  · simp_all
  · simp_all
  · simp_all
  · rename_i heq
    obtain ⟨rfl, rfl⟩ := List.cons.inj heq
    rw [if_neg (by omega)]

/-- An escape by code point is read back, as one unit or as two. -/
theorem readUnits_escapeCode (c : Char) (rest : List Char) :
    readUnits (escapeCode c.toNat ++ rest) =
      (readUnits rest).map fun r => (unitsOf true c ++ r.1, r.2) := by
  have hrange := toNat_lt c
  unfold escapeCode unitsOf
  split_ifs with hsmall hpair hpair
  · omega
  · exact readUnits_escapeUnit hsmall rest
  · rw [List.append_assoc, readUnits_escapeUnit (by omega), readUnits_escapeUnit (by omega)]
    cases readUnits rest <;> rfl
  · exact absurd ⟨rfl, by omega⟩ hpair

/-- A written character is read back as its units. -/
theorem readUnits_writeChar (asciiOnly : Bool) (c : Char) (rest : List Char) :
    readUnits (writeChar asciiOnly c ++ rest) =
      (readUnits rest).map fun r => (unitsOf asciiOnly c ++ r.1, r.2) := by
  -- The cases are those of the printer: short escapes, escapes by code, and the character itself.
  unfold writeChar
  split_ifs with hquote hn hr ht hf hb hescape
  · obtain rfl | rfl := hquote <;> simp [readUnits, shortEscape?, unitsOf]
  · subst hn; simp [readUnits, shortEscape?, unitsOf]
  · subst hr; simp [readUnits, shortEscape?, unitsOf]
  · subst ht; simp [readUnits, shortEscape?, unitsOf]
  · subst hf; simp [readUnits, shortEscape?, unitsOf]
  · subst hb; simp [readUnits, shortEscape?, unitsOf]
  · have hunits : unitsOf asciiOnly c = unitsOf true c := by
      unfold unitsOf
      obtain hsmall | ⟨rfl, -⟩ := hescape
      · rw [if_neg (by omega), if_neg (by omega)]
      · rfl
    rw [hunits]
    exact readUnits_escapeCode c rest
  · rw [not_or] at hquote hescape
    have hunits : unitsOf asciiOnly c = [c.toNat] := by
      refine if_neg ?_
      rintro ⟨hascii, hlarge⟩
      exact hescape.2 ⟨hascii, by omega⟩
    rw [hunits]
    exact readUnits_raw hquote.1 hquote.2 (by omega) rest

/-- A written string is read back up to its closing quote. -/
theorem readUnits_flatMap (asciiOnly : Bool) (cs rest : List Char) :
    readUnits (cs.flatMap (writeChar asciiOnly) ++ '\x22' :: rest) =
      .ok (cs.flatMap (unitsOf asciiOnly), rest) := by
  induction cs with
  | nil => simp [readUnits]
  | cons c cs ih =>
    rw [List.flatMap_cons, List.append_assoc, readUnits_writeChar, ih]
    rfl

/-- A code point that is no high surrogate is a character of its own. -/
theorem joinUnits_cons {n : Nat} (hn : ¬ (0xD800 ≤ n ∧ n < 0xDC00)) (units : List Nat) :
    joinUnits (n :: units) = Char.ofNat n :: joinUnits units := by
  cases units with
  | nil => rfl
  | cons low rest =>
    rw [joinUnits, if_neg]
    rintro ⟨hlow, hhigh, -⟩
    exact hn ⟨hlow, hhigh⟩

/-- The units of characters are joined to the characters. -/
theorem joinUnits_flatMap (asciiOnly : Bool) (cs : List Char) :
    joinUnits (cs.flatMap (unitsOf asciiOnly)) = cs := by
  induction cs with
  | nil => rfl
  | cons c cs ih =>
    have hcode := not_surrogate c
    have hrange := toNat_lt c
    rw [List.flatMap_cons, unitsOf]
    split_ifs with hpair
    · rw [List.cons_append, List.cons_append, List.nil_append, joinUnits, if_pos (by omega), ih]
      -- The two units hold the code point less the size of the first plane.
      have hsum : 0x10000 + (0xD800 + (c.toNat - 0x10000) / 0x400 - 0xD800) * 0x400 +
          (0xDC00 + (c.toNat - 0x10000) % 0x400 - 0xDC00) = c.toNat := by omega
      rw [hsum, Char.ofNat_toNat]
    · rw [List.singleton_append, joinUnits_cons (by omega), Char.ofNat_toNat, ih]

/-- A written string is read back after its opening quote. -/
theorem readString_writeString (asciiOnly : Bool) (s : String) (rest : List Char) :
    ∃ tail, writeString asciiOnly s ++ rest = '\x22' :: tail ∧
      readString tail = .ok (s, rest) := by
  refine ⟨s.toList.flatMap (writeChar asciiOnly) ++ '\x22' :: rest, ?_, ?_⟩
  · simp [writeString]
  · rw [readString, readUnits_flatMap, Except.map]
    dsimp only
    rw [joinUnits_flatMap, String.ofList_toList]

/-! ## Documents -/

mutual

/-- Whether the floating-point numbers of a document are proper ones and each of its objects has
different keys. -/
def Plain : Json → Prop
  | .null | .bool _ | .int _ | .str _ => True
  | .float x => x.Proper
  | .arr items => PlainItems items
  | .obj fields => (fields.map Prod.fst).Nodup ∧ PlainFields fields

/-- `Plain`, item by item. -/
def PlainItems : List Json → Prop
  | [] => True
  | item :: items => item.Plain ∧ PlainItems items

/-- `Plain`, on the values of fields. -/
def PlainFields : List (String × Json) → Prop
  | [] => True
  | (_, value) :: fields => value.Plain ∧ PlainFields fields

end

mutual

/-- The number of digits of the first whole number of a document that has too many of them. -/
def oversized? : Json → Option Nat
  | .int i =>
    if maxDigits < (digits i.natAbs).length then some (digits i.natAbs).length else none
  | .arr items => oversizedItem? items
  | .obj fields => oversizedField? fields
  | .null | .bool _ | .float _ | .str _ => none

/-- `oversized?`, item by item. -/
def oversizedItem? : List Json → Option Nat
  | [] => none
  | item :: items => item.oversized?.or (oversizedItem? items)

/-- `oversized?`, on the values of fields. -/
def oversizedField? : List (String × Json) → Option Nat
  | [] => none
  | (_, value) :: fields => value.oversized?.or (oversizedField? fields)

end

/-- Items are plain if each of them is. -/
theorem plainItems_iff {items : List Json} : PlainItems items ↔ ∀ item ∈ items, item.Plain := by
  induction items with
  | nil => simp [PlainItems]
  | cons item items ih => rw [PlainItems, ih, List.forall_mem_cons]

/-- Texts are plain. -/
theorem plainItems_texts (texts : List String) : PlainItems (texts.map .str) := by
  rw [plainItems_iff, List.forall_mem_map]
  intro text _
  trivial

/-- Fields are plain if each of their values is. -/
theorem plainFields_iff {fields : List (String × Json)} :
    PlainFields fields ↔ ∀ field ∈ fields, field.2.Plain := by
  induction fields with
  | nil => simp [PlainFields]
  | cons field fields ih => rw [PlainFields, ih, List.forall_mem_cons]

/-- A whole number has too many digits if it is too large. -/
theorem oversized?_int {i : Int} : (Json.int i).oversized? = none ↔ i.natAbs < 10 ^ maxDigits := by
  rw [oversized?, ← Number.length_digits_le_iff (by decide : 1 ≤ maxDigits), ← Nat.not_lt]
  split_ifs with h <;> simp [h]

/-- Items have no oversized number if none of them has one. -/
theorem oversizedItem?_eq_none {items : List Json} :
    oversizedItem? items = none ↔ ∀ item ∈ items, item.oversized? = none := by
  induction items with
  | nil => simp [oversizedItem?]
  | cons item items ih => rw [oversizedItem?, Option.or_eq_none_iff, ih, List.forall_mem_cons]

/-- Fields have no oversized number if none of their values has one. -/
theorem oversizedField?_eq_none {fields : List (String × Json)} :
    oversizedField? fields = none ↔ ∀ field ∈ fields, field.2.oversized? = none := by
  induction fields with
  | nil => simp [oversizedField?]
  | cons field fields ih => rw [oversizedField?, Option.or_eq_none_iff, ih, List.forall_mem_cons]

mutual

/-- A number that is found has too many digits. -/
theorem lt_of_oversized? : ∀ {doc : Json} {count : Nat}, doc.oversized? = some count →
    maxDigits < count
  | .int i, count, h => by
    rw [oversized?] at h
    split_ifs at h with hlt
    cases h
    exact hlt
  | .arr _, _, h => lt_of_oversizedItem? h
  | .obj _, _, h => lt_of_oversizedField? h

/-- The same for items. -/
theorem lt_of_oversizedItem? : ∀ {items : List Json} {count : Nat},
    oversizedItem? items = some count → maxDigits < count
  | _ :: _, _, h => by
    obtain h | ⟨-, h⟩ := Option.or_eq_some_iff.1 h
    · exact lt_of_oversized? h
    · exact lt_of_oversizedItem? h

/-- The same for the values of fields. -/
theorem lt_of_oversizedField? : ∀ {fields : List (String × Json)} {count : Nat},
    oversizedField? fields = some count → maxDigits < count
  | _ :: _, _, h => by
    obtain h | ⟨-, h⟩ := Option.or_eq_some_iff.1 h
    · exact lt_of_oversized? h
    · exact lt_of_oversizedField? h

end

mutual

/-- A document can be written if no number in it has too many digits. -/
theorem isWritable_iff : ∀ {doc : Json}, doc.isWritable = true ↔ doc.oversized? = none
  | .int _ => by
    rw [isWritable, Number.isWritable, decide_eq_true_eq, ← Nat.not_lt, oversized?]
    split_ifs with h <;> simp [h]
  | .arr _ => areWritable_iff
  | .obj _ => fieldsWritable_iff
  | .null => by simp [isWritable, oversized?]
  | .bool _ => by simp [isWritable, oversized?]
  | .float _ => by simp [isWritable, oversized?]
  | .str _ => by simp [isWritable, oversized?]

/-- The same for items. -/
theorem areWritable_iff : ∀ {items : List Json},
    areWritable items = true ↔ oversizedItem? items = none
  | [] => by simp [areWritable, oversizedItem?]
  | item :: items => by
    rw [areWritable, Bool.and_eq_true, oversizedItem?, Option.or_eq_none_iff, isWritable_iff,
      areWritable_iff]

/-- The same for the values of fields. -/
theorem fieldsWritable_iff : ∀ {fields : List (String × Json)},
    fieldsWritable fields = true ↔ oversizedField? fields = none
  | [] => by simp [fieldsWritable, oversizedField?]
  | (_, value) :: fields => by
    rw [fieldsWritable, Bool.and_eq_true, oversizedField?, Option.or_eq_none_iff, isWritable_iff,
      fieldsWritable_iff]

end

/-- A document has a text if no number in it has too many digits. -/
theorem dump_eq_ok_iff {style : Style} {doc : Json} {text : String} :
    doc.dump style = .ok text ↔ doc.oversized? = none ∧ text = doc.write style := by
  rw [dump, ← isWritable_iff]
  split_ifs with h
  · simp [h, eq_comm]
  · simp [h]

/-- Any other document has none. -/
theorem dump_eq_error_iff {style : Style} {doc : Json} {fault : Number.Unwritable} :
    doc.dump style = .error fault ↔ doc.oversized? ≠ none := by
  rw [dump, ne_eq, ← isWritable_iff]
  split_ifs with h
  · simp [h]
  · simp [h]

/-- What reading gives that finds the first oversized number, if any, and else a result. -/
def unlessOversized {α : Type} (found : Option Nat) (result : α) : Except Fault α :=
  match found with
  | some count => .error (.tooManyDigits ⟨count⟩)
  | none => .ok result

/-- Blanks at the start are dropped before anything else. -/
theorem skipSpace_newLine (style : Style) (depth : Nat) (cs : List Char) :
    skipSpace (style.newLine depth ++ cs) = skipSpace cs := by
  unfold Style.newLine skipSpace
  split
  · -- With an indentation a line break and blanks are written, and without one nothing.
    have hspaces : ∀ c ∈ '\n' :: List.replicate (2 * depth) ' ', isSpace c = true := by
      intro c hc
      rw [List.mem_cons, List.mem_replicate] at hc
      obtain rfl | ⟨-, rfl⟩ := hc <;> rfl
    rw [List.dropWhile_append_of_pos hspaces]
  · rfl

/-- Nothing is dropped where no blank is. -/
theorem skipSpace_cons {c : Char} (hc : isSpace c = false) (cs : List Char) :
    skipSpace (c :: cs) = c :: cs := by
  simp [skipSpace, hc]

/-- What follows a value in a document is no part of a number. -/
theorem stops_newLine (style : Style) (depth : Nat) {c : Char} (cs : List Char)
    (hc : isDigit c = false ∧ c ≠ '.' ∧ c ≠ 'e' ∧ c ≠ 'E') :
    Stops (style.newLine depth ++ c :: cs) := by
  intro d hd
  unfold Style.newLine at hd
  split at hd
  · cases hd
    decide
  · cases hd
    exact hc

/-- A plain document starts with a character that is no blank and does not close an array. -/
theorem writeAt_eq_cons (style : Style) (depth : Nat) {doc : Json} (hdoc : doc.Plain) :
    ∃ c cs, writeAt style depth doc = c :: cs ∧ isSpace c = false ∧ c ≠ ']' := by
  cases doc with
  | null => exact ⟨'n', _, rfl, by decide⟩
  | bool b => cases b <;> exact ⟨_, _, rfl, by decide⟩
  | int i =>
    cases i with
    | ofNat n =>
      obtain ⟨d, ds, hd, heq⟩ := Number.exists_digits_eq_cons n
      refine ⟨digitChar d, ds, heq, ?_⟩
      interval_cases d <;> decide
    | negSucc n => exact ⟨'-', _, rfl, by decide⟩
  | float x => exact write_eq_cons hdoc
  | str s => exact ⟨'\x22', _, rfl, by decide⟩
  | arr items => cases items <;> exact ⟨'[', _, rfl, by decide⟩
  | obj fields => cases fields <;> exact ⟨'\x7b', _, rfl, by decide⟩

/-- A new key goes last. -/
theorem putField_of_not_mem {key : String} (value : Json) {fields : List (String × Json)}
    (hkey : key ∉ fields.map Prod.fst) : putField key value fields = fields ++ [(key, value)] := by
  induction fields with
  | nil => rfl
  | cons field fields ih =>
    rw [List.map_cons, List.mem_cons, not_or] at hkey
    rw [putField, if_neg (Ne.symm hkey.1), ih hkey.2, List.cons_append]

/-- Fields with different keys stay as they are. -/
theorem fieldsOf_eq {fields : List (String × Json)} (h : (fields.map Prod.fst).Nodup) :
    fieldsOf fields = fields := by
  -- The fields put so far and those to come have different keys together.
  have hfold : ∀ (pairs done : List (String × Json)), ((done ++ pairs).map Prod.fst).Nodup →
      pairs.foldl (fun fields pair => putField pair.1 pair.2 fields) done = done ++ pairs := by
    intro pairs
    induction pairs with
    | nil => simp
    | cons pair pairs ih =>
      intro done hnodup
      have hkey : pair.1 ∉ done.map Prod.fst := by
        rw [List.map_append, List.map_cons, List.nodup_append] at hnodup
        intro hmem
        exact hnodup.2.2 _ hmem _ (List.mem_cons_self) rfl
      rw [List.foldl_cons, putField_of_not_mem _ hkey, ih _ (by simpa using hnodup)]
      simp
  exact hfold fields [] h

/-- The items of an array from its first to its closing bracket. -/
def writeList (style : Style) (depth : Nat) : List Json → List Char
  | [] => []
  | item :: items => writeAt style (depth + 1) item ++ writeItems style depth items

/-- The fields of an object from its first to its closing brace. -/
def writeFieldList (style : Style) (depth : Nat) : List (String × Json) → List Char
  | [] => []
  | (key, value) :: fields =>
    writeString style.asciiOnly key ++
      ':' :: ' ' :: writeAt style (depth + 1) value ++ writeFields style depth fields

/-- An array with items is a bracket and its items. -/
theorem writeAt_arr (style : Style) (depth : Nat) (item : Json) (items : List Json) :
    writeAt style depth (.arr (item :: items)) =
      '[' :: (style.newLine (depth + 1) ++ writeList style depth (item :: items)) := by
  rw [writeAt, writeList, List.cons_append, List.cons_append, List.append_assoc]

/-- Further items are a comma and the items from there on. -/
theorem writeItems_cons (style : Style) (depth : Nat) (item : Json) (items : List Json) :
    writeItems style depth (item :: items) =
      ',' :: (style.newLine (depth + 1) ++ writeList style depth (item :: items)) := by
  rw [writeItems, writeList, List.cons_append, List.cons_append, List.append_assoc]

/-- An object with fields is a brace and its fields. -/
theorem writeAt_obj (style : Style) (depth : Nat) (field : String × Json)
    (fields : List (String × Json)) :
    writeAt style depth (.obj (field :: fields)) =
      '\x7b' :: (style.newLine (depth + 1) ++ writeFieldList style depth (field :: fields)) := by
  obtain ⟨key, value⟩ := field
  rw [writeAt, writeFieldList]
  simp only [List.cons_append, List.append_assoc]

/-- Further fields are a comma and the fields from there on. -/
theorem writeFields_cons (style : Style) (depth : Nat) (field : String × Json)
    (fields : List (String × Json)) :
    writeFields style depth (field :: fields) =
      ',' :: (style.newLine (depth + 1) ++ writeFieldList style depth (field :: fields)) := by
  obtain ⟨key, value⟩ := field
  rw [writeFields, writeFieldList]
  simp only [List.cons_append, List.append_assoc]

/-- The fields of an object start with a quote. -/
theorem writeFieldList_eq_cons (style : Style) (depth : Nat) (field : String × Json)
    (fields : List (String × Json)) :
    ∃ cs, writeFieldList style depth (field :: fields) = '\x22' :: cs := by
  simp [writeFieldList, writeString]

/-- A result that is changed stays apart from the fault. -/
theorem map_unlessOversized {α β : Type} (found : Option Nat) (a : α) (f : α → β) :
    (unlessOversized found a).map f = unlessOversized found (f a) := by
  cases found <;> rfl

/-- A whole number is read back unless it is oversized. -/
theorem wholeNumber_eq (negative : Bool) (n : Nat) (rest : List Char) :
    wholeNumber negative n rest =
      unlessOversized (oversized? (.int (if negative then -(n : Int) else n)))
        (.int (if negative then -(n : Int) else n), rest) := by
  have habs : (if negative then -(n : Int) else n).natAbs = n := by
    cases negative
    · exact Int.natAbs_natCast n
    · exact (Int.natAbs_neg n).trans (Int.natAbs_natCast n)
  rw [wholeNumber, oversized?, habs]
  split_ifs <;> rfl

/-- An array that is not closed at once is read item by item. -/
theorem readValue_array (style : Style) (depth fuel : Nat) {c : Char} (cs : List Char)
    (hspace : isSpace c = false) (hclose : c ≠ ']') :
    readValue (fuel + 1) ('[' :: (style.newLine depth ++ c :: cs)) =
      (readItems fuel (c :: cs)).map fun r => (.arr r.1, r.2) := by
  rw [readValue]
  simp only [skipSpace_newLine, skipSpace_cons hspace]
  -- What is written for an item does not start with the closing bracket.
  split
  · rename_i heq
    exact absurd (List.cons.inj heq).1 hclose
  · rfl

/-- An object that is not closed at once is read field by field. -/
theorem readValue_object (style : Style) (depth fuel : Nat) (cs : List Char) :
    readValue (fuel + 1) ('\x7b' :: (style.newLine depth ++ '\x22' :: cs)) =
      (readFields fuel ('\x22' :: cs)).map fun r => (.obj (fieldsOf r.1), r.2) := by
  rw [readValue]
  simp only [skipSpace_newLine, skipSpace_cons (c := '\x22') rfl]
  rfl

/-- After an item comes the end of the array. -/
theorem readItems_last (style : Style) (depth fuel : Nat) {cs rest : List Char} {item : Json}
    {found : Option Nat}
    (hread : readValue fuel cs =
      unlessOversized found (item, style.newLine depth ++ ']' :: rest)) :
    readItems (fuel + 1) cs = unlessOversized found ([item], rest) := by
  rw [readItems, hread]
  cases found with
  | some count => rfl
  | none => simp only [unlessOversized, skipSpace_newLine, skipSpace_cons (c := ']') rfl]

/-- After an item comes a comma and the next item. -/
theorem readItems_next (style : Style) (depth fuel : Nat) {c : Char} {cs tail rest : List Char}
    {item : Json} {items : List Json} {found others : Option Nat} (hspace : isSpace c = false)
    (hread : readValue fuel cs =
      unlessOversized found (item, ',' :: (style.newLine depth ++ c :: tail)))
    (hrest : readItems fuel (c :: tail) = unlessOversized others (items, rest)) :
    readItems (fuel + 1) cs = unlessOversized (found.or others) (item :: items, rest) := by
  rw [readItems, hread]
  cases found with
  | some count => rfl
  | none =>
    simp only [unlessOversized, skipSpace_cons (c := ',') rfl, skipSpace_newLine,
      skipSpace_cons hspace, hrest]
    exact map_unlessOversized others _ _

/-- After a field comes the end of the object. -/
theorem readFields_last (style : Style) (depth fuel : Nat) {c : Char} {cs tail rest : List Char}
    {key : String} {value : Json} {found : Option Nat} (hspace : isSpace c = false)
    (hkey : readString cs = .ok (key, ':' :: ' ' :: c :: tail))
    (hread : readValue fuel (c :: tail) =
      unlessOversized found (value, style.newLine depth ++ '\x7d' :: rest)) :
    readFields (fuel + 1) ('\x22' :: cs) = unlessOversized found ([(key, value)], rest) := by
  rw [readFields]
  have hblank : skipSpace (' ' :: c :: tail) = c :: tail := skipSpace_cons hspace tail
  simp only [hkey, skipSpace_cons (c := ':') rfl, hblank, hread]
  cases found with
  | some count => rfl
  | none => simp only [unlessOversized, skipSpace_newLine, skipSpace_cons (c := '\x7d') rfl]

/-- After a field comes a comma and the next field. -/
theorem readFields_next (style : Style) (depth fuel : Nat) {c : Char}
    {cs tail next rest : List Char} {key : String} {value : Json} {fields : List (String × Json)}
    {found others : Option Nat} (hspace : isSpace c = false)
    (hkey : readString cs = .ok (key, ':' :: ' ' :: c :: tail))
    (hread : readValue fuel (c :: tail) =
      unlessOversized found (value, ',' :: (style.newLine depth ++ '\x22' :: next)))
    (hrest : readFields fuel ('\x22' :: next) = unlessOversized others (fields, rest)) :
    readFields (fuel + 1) ('\x22' :: cs) =
      unlessOversized (found.or others) ((key, value) :: fields, rest) := by
  rw [readFields]
  have hblank : skipSpace (' ' :: c :: tail) = c :: tail := skipSpace_cons hspace tail
  simp only [hkey, skipSpace_cons (c := ':') rfl, hblank, hread]
  cases found with
  | some count => rfl
  | none =>
    simp only [unlessOversized, skipSpace_cons (c := ',') rfl, skipSpace_newLine,
      skipSpace_cons (c := '\x22') rfl, hrest]
    exact map_unlessOversized others _ _

-- The recursion is the one of the printer. The length of what is written bounds the fuel, since every
-- value and every comma takes at least one character.
mutual

/-- Reading a written document gives it back with the text after it, or the fault of its first
oversized number. -/
theorem readValue_writeAt (style : Style) : ∀ (doc : Json) (depth fuel : Nat) (rest : List Char),
    doc.Plain → Stops rest → (writeAt style depth doc).length ≤ fuel →
    readValue fuel (writeAt style depth doc ++ rest) = unlessOversized doc.oversized? (doc, rest)
  | doc, depth, 0, rest, hdoc, _, hfuel => by
    -- Something is written for every document, so some fuel is left.
    obtain ⟨c, cs, heq, -⟩ := writeAt_eq_cons style depth hdoc
    rw [heq] at hfuel
    simp at hfuel
  | .null, depth, fuel + 1, rest, _, _, _ => rfl
  | .bool true, depth, fuel + 1, rest, _, _, _ => rfl
  | .bool false, depth, fuel + 1, rest, _, _, _ => rfl
  | .int (.ofNat n), depth, fuel + 1, rest, _, hrest, _ => by
    -- The first digit leads the reader to a number.
    obtain ⟨c, cs, heq, hc⟩ := head_of_whole (digits_eq_zero_or_significant n)
    have hread := readNumber_digits false n hrest
    rw [wholeNumber_eq, heq] at hread
    show readValue (fuel + 1) (digits n ++ rest) = _
    rw [heq]
    exact (readValue_of_isDigit fuel hc (cs ++ rest)).trans hread
  | .int (.negSucc n), depth, fuel + 1, rest, _, hrest, _ => by
    -- The sign does, and the digits are those of the size.
    obtain ⟨c, cs, heq, hc⟩ := head_of_whole (digits_eq_zero_or_significant (n + 1))
    have hread := readNumber_digits true (n + 1) hrest
    rw [wholeNumber_eq, heq] at hread
    show readValue (fuel + 1) ('-' :: digits (n + 1) ++ rest) = _
    rw [heq]
    exact (readValue_sign fuel hc (cs ++ rest)).trans hread
  | .float x, depth, fuel + 1, rest, hdoc, hrest, _ => readValue_write hdoc fuel hrest
  | .str s, depth, fuel + 1, rest, _, _, _ => by
    obtain ⟨tail, heq, hread⟩ := readString_writeString style.asciiOnly s rest
    rw [writeAt, heq, readValue, hread]
    rfl
  | .arr [], depth, fuel + 1, rest, _, _, _ => rfl
  | .arr (item :: items), depth, fuel + 1, rest, hdoc, _, hfuel => by
    -- The array is not closed at once, and its items are read from the first one on.
    obtain ⟨c, cs, heq, hspace, hclose⟩ := writeAt_eq_cons style (depth + 1) hdoc.1
    rw [writeAt_arr, List.length_cons, List.length_append] at hfuel
    have hread := readItems_writeList style (item :: items) depth fuel rest (by simp) hdoc
      (by omega)
    have hcons : ∃ tail, writeList style depth (item :: items) ++ rest = c :: tail := by
      simp [writeList, heq]
    obtain ⟨tail, htail⟩ := hcons
    rw [writeAt_arr, List.cons_append, List.append_assoc, htail,
      readValue_array style _ _ _ hspace hclose, ← htail, hread, map_unlessOversized]
    rfl
  | .obj [], depth, fuel + 1, rest, _, _, _ => rfl
  | .obj (field :: fields), depth, fuel + 1, rest, hdoc, _, hfuel => by
    -- The fields are read from the first quote on, and as their keys differ, they are the object.
    rw [writeAt_obj, List.length_cons, List.length_append] at hfuel
    have hread := readFields_writeFieldList style (field :: fields) depth fuel rest (by simp)
      hdoc.2 (by omega)
    obtain ⟨cs, hcs⟩ := writeFieldList_eq_cons style depth field fields
    rw [hcs, List.cons_append] at hread
    rw [writeAt_obj, List.cons_append, List.append_assoc, hcs, List.cons_append, readValue_object,
      hread, map_unlessOversized, fieldsOf_eq hdoc.1]
    rfl
termination_by structural doc => doc

/-- Reading the items of a written array gives them back, or the fault of their first oversized number. -/
theorem readItems_writeList (style : Style) :
    ∀ (items : List Json) (depth fuel : Nat) (rest : List Char), items ≠ [] → PlainItems items →
    (writeList style depth items).length ≤ fuel →
    readItems fuel (writeList style depth items ++ rest) =
      unlessOversized (oversizedItem? items) (items, rest)
  | [], _, _, _, hne, _, _ => absurd rfl hne
  | item :: items, depth, 0, rest, _, hitems, hfuel => by
    obtain ⟨c, cs, heq, -⟩ := writeAt_eq_cons style (depth + 1) hitems.1
    simp [writeList, heq] at hfuel
  | item :: items, depth, fuel + 1, rest, _, hitems, hfuel => by
    have ih := readItems_writeList style items depth fuel rest
    have hitem := fun rest => readValue_writeAt style item (depth + 1) fuel rest hitems.1
    rw [writeList, List.length_append] at hfuel
    rw [writeList, List.append_assoc]
    -- After the last item stands the closing bracket, and after any other one a comma.
    cases items with
    | nil =>
      simp only [writeItems, List.length_append, List.length_singleton] at hfuel
      have hread := hitem (style.newLine depth ++ ']' :: rest)
        (stops_newLine style depth rest (by decide)) (by omega)
      rw [oversizedItem?, oversizedItem?, Option.or_none]
      rw [writeItems, List.append_assoc, List.singleton_append]
      exact readItems_last style depth fuel hread
    | cons next others =>
      -- The next item starts after the comma, and it is read there by induction.
      rw [writeItems_cons, List.length_cons, List.length_append] at hfuel
      obtain ⟨c, cs, heq, hspace, -⟩ := writeAt_eq_cons style (depth + 1) hitems.2.1
      have hrest := ih (by simp) hitems.2 (by omega)
      have hcons : ∃ tail, writeList style depth (next :: others) ++ rest = c :: tail := by
        simp [writeList, heq]
      obtain ⟨tail, htail⟩ := hcons
      rw [writeItems_cons, List.cons_append, List.append_assoc, htail]
      rw [htail] at hrest
      have hread := hitem (',' :: (style.newLine (depth + 1) ++ c :: tail))
        (by rintro d ⟨⟩; decide) (by omega)
      exact readItems_next style (depth + 1) fuel hspace hread hrest
termination_by structural items => items

/-- Reading the fields of a written object gives them back, or the fault of their first oversized number. -/
theorem readFields_writeFieldList (style : Style) :
    ∀ (fields : List (String × Json)) (depth fuel : Nat) (rest : List Char), fields ≠ [] →
    PlainFields fields → (writeFieldList style depth fields).length ≤ fuel →
    readFields fuel (writeFieldList style depth fields ++ rest) =
      unlessOversized (oversizedField? fields) (fields, rest)
  | [], _, _, _, hne, _, _ => absurd rfl hne
  | field :: fields, depth, 0, rest, _, hfields, hfuel => by
    obtain ⟨cs, hcs⟩ := writeFieldList_eq_cons style depth field fields
    simp [hcs] at hfuel
  | (key, value) :: fields, depth, fuel + 1, rest, _, hfields, hfuel => by
    have ih := readFields_writeFieldList style fields depth fuel rest
    have hvalue := fun rest => readValue_writeAt style value (depth + 1) fuel rest hfields.1
    obtain ⟨c, cs, heq, hspace, -⟩ := writeAt_eq_cons style (depth + 1) hfields.1
    simp only [writeFieldList, List.length_append, List.length_cons] at hfuel
    -- After the key stand a colon, a blank and the value.
    have htext : ∀ tail, writeFieldList style depth ((key, value) :: fields) ++ tail =
        writeString style.asciiOnly key ++
          (':' :: ' ' :: (writeAt style (depth + 1) value ++
            (writeFields style depth fields ++ tail))) := by
      intro tail
      simp [writeFieldList]
    obtain ⟨start, hstart, hkey⟩ := readString_writeString style.asciiOnly key
      (':' :: ' ' :: (writeAt style (depth + 1) value ++ (writeFields style depth fields ++ rest)))
    rw [htext, hstart]
    cases fields with
    | nil =>
      simp only [writeFields, List.length_append, List.length_singleton] at hfuel
      rw [writeFields, List.append_assoc, List.singleton_append] at hkey
      have hread := hvalue (style.newLine depth ++ '\x7d' :: rest)
        (stops_newLine style depth rest (by decide)) (by omega)
      rw [heq, List.cons_append] at hkey hread
      rw [oversizedField?, oversizedField?, Option.or_none]
      exact readFields_last style depth fuel hspace hkey hread
    | cons next others =>
      -- The value ends at the comma, and the next key is read by induction.
      rw [writeFields_cons, List.length_cons, List.length_append] at hfuel
      have hrest := ih (by simp) hfields.2 (by omega)
      obtain ⟨tail, htail⟩ := writeFieldList_eq_cons style depth next others
      rw [writeFields_cons, List.cons_append, List.append_assoc, htail, List.cons_append] at hkey
      rw [htail, List.cons_append] at hrest
      have hread := hvalue (',' :: (style.newLine (depth + 1) ++ '\x22' :: (tail ++ rest)))
        (by rintro d ⟨⟩; decide) (by omega)
      rw [heq, List.cons_append] at hkey hread
      exact readFields_next style (depth + 1) fuel hspace hkey hread hrest
termination_by structural fields => fields

end

/-- A written document with blanks after it is parsed to itself, or to the fault of its first oversized
number. -/
theorem parse_writeAt (style : Style) {doc : Json} (hdoc : doc.Plain) {blanks : List Char}
    (hblanks : ∀ c ∈ blanks, isSpace c = true) :
    parse (writeAt style 0 doc ++ blanks) = unlessOversized doc.oversized? doc := by
  -- Blanks end a number, and nothing else is left after the document.
  have hstops : Stops blanks := by
    intro c hc
    have hspace := hblanks c (List.mem_of_mem_head? hc)
    simp only [isSpace, Bool.or_eq_true, beq_iff_eq] at hspace
    obtain ((rfl | rfl) | rfl) | rfl := hspace <;> decide
  have hskip : skipSpace blanks = [] := List.dropWhile_eq_nil_iff.2 hblanks
  obtain ⟨c, cs, heq, hspace, -⟩ := writeAt_eq_cons style 0 hdoc
  have hstart : skipSpace (writeAt style 0 doc ++ blanks) = writeAt style 0 doc ++ blanks := by
    rw [heq, List.cons_append, skipSpace_cons hspace]
  have hfuel : (writeAt style 0 doc).length ≤ 2 * (writeAt style 0 doc ++ blanks).length + 2 := by
    rw [List.length_append]
    omega
  rw [parse, hstart, readValue_writeAt style doc 0 _ blanks hdoc hstops hfuel]
  cases doc.oversized? with
  | some count => rfl
  | none => simp [unlessOversized, hskip]

end ApiOutline.Json
