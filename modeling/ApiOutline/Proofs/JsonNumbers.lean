import ApiOutline.Data.Value
import ApiOutline.Json.Reader
import ApiOutline.Proofs.Decimal
import ApiOutline.Proofs.Outcome
import Mathlib.Data.List.Induction
import Mathlib.Data.List.TakeWhile

/-!
# Integers of JSON documents

The reader takes no integer with more digits than are written, so every document that is read can be
shown as a value: `writable_of_parse`.
-/

namespace ApiOutline.Number

/-- Digits stand for a number below the power of ten with as many zeros. -/
theorem value_lt {cs : List Char} (h : ∀ c ∈ cs, isDigit c = true) : value cs < 10 ^ cs.length := by
  -- One more digit at the end multiplies the bound by ten.
  induction cs using List.reverseRecOn with
  | nil => decide
  | append_singleton cs c ih =>
    rw [List.forall_mem_append, List.forall_mem_singleton] at h
    obtain ⟨hcs, hc⟩ := h
    have hrest := ih hcs
    obtain ⟨d, hd, rfl⟩ := exists_eq_digitChar hc
    rw [value_append_digit cs hd, List.length_append, List.length_singleton, Nat.pow_succ]
    omega

/-- What is read within the limit on digits is written within it. -/
theorem length_digits_limitedValue {cs : List Char} {n : Nat} (hcs : ∀ c ∈ cs, isDigit c = true)
    (h : limitedValue cs = .ok n) : (digits n).length ≤ maxDigits := by
  rw [limitedValue] at h
  split_ifs at h with hlong
  cases h
  rw [length_digits_le_iff (by decide)]
  calc value cs < 10 ^ cs.length := value_lt hcs
    _ ≤ 10 ^ maxDigits := Nat.pow_le_pow_right (by decide) (Nat.not_lt.1 hlong)

end ApiOutline.Number

namespace ApiOutline.Json

open Data (Value)
open Number (isDigit)

/-! ## Writable documents -/

/-- Whether every integer of a document can be written. -/
def Writable (doc : Json) : Prop :=
  (Value.ofJson doc).isWritable = true

/-- An array can be written if each of its items can. -/
theorem writable_arr {items : List Json} : (Json.arr items).Writable ↔ ∀ item ∈ items, item.Writable := by
  rw [Writable, Value.ofJson, Value.isWritable]
  induction items with
  | nil => simp [Value.ofItems, Value.areWritable]
  | cons item items ih =>
    rw [Value.ofItems, Value.areWritable, Bool.and_eq_true, ih, List.forall_mem_cons]
    rfl

/-- An object can be written if each of its values can: a key is no integer. -/
theorem writable_obj {fields : List (String × Json)} :
    (Json.obj fields).Writable ↔ ∀ field ∈ fields, field.2.Writable := by
  rw [Writable, Value.ofJson, Value.isWritable]
  induction fields with
  | nil => simp [Value.ofFields, Value.entriesWritable]
  | cons field fields ih =>
    rw [Value.ofFields, Value.entriesWritable, Bool.and_eq_true, Bool.and_eq_true, ih,
      List.forall_mem_cons]
    simp [Writable, Value.isWritable]

/-- The fields of an object have values of the pairs they are made of. -/
theorem forall_mem_fieldsOf {P : Json → Prop} {pairs : List (String × Json)}
    (h : ∀ pair ∈ pairs, P pair.2) : ∀ field ∈ fieldsOf pairs, P field.2 := by
  -- A field is put in its old place or last, and either way it brings a value of its own.
  have hput : ∀ (key : String) (value : Json) (fields : List (String × Json)), P value →
      (∀ field ∈ fields, P field.2) → ∀ field ∈ putField key value fields, P field.2 := by
    intro key value fields hvalue hfields
    induction fields with
    | nil => simpa [putField] using hvalue
    | cons field fields ih =>
      obtain ⟨hfield, hrest⟩ := List.forall_mem_cons.1 hfields
      rw [putField]
      split_ifs
      · exact List.forall_mem_cons.2 ⟨hvalue, hrest⟩
      · exact List.forall_mem_cons.2 ⟨hfield, ih hrest⟩
  have hfold : ∀ fields : List (String × Json), (∀ field ∈ fields, P field.2) →
      ∀ field ∈ pairs.foldl (fun fields pair => putField pair.1 pair.2 fields) fields, P field.2 := by
    induction pairs with
    | nil => exact fun fields hfields => hfields
    | cons pair pairs ih =>
      obtain ⟨hpair, hpairs⟩ := List.forall_mem_cons.1 h
      exact fun fields hfields => ih hpairs _ (hput _ _ _ hpair hfields)
  exact hfold [] (by simp)

/-! ## Documents that are read -/

/-- What is read before the point of a number are digits. -/
theorem isDigit_of_readWhole {cs whole rest : List Char} (h : readWhole cs = some (whole, rest)) :
    ∀ c ∈ whole, isDigit c = true := by
  unfold readWhole at h
  split at h
  · cases h
    exact List.forall_mem_singleton.2 rfl
  · simp only at h
    split_ifs at h
    cases h
    exact fun c hc => List.mem_takeWhile_imp hc

/-- A number that is read can be written. -/
theorem writable_of_readNumber {negative : Bool} {cs rest : List Char} {doc : Json}
    (h : readNumber negative cs = .ok (doc, rest)) : doc.Writable := by
  unfold readNumber at h
  split at h
  · cases h
  · next whole after hwhole =>
    simp only at h
    split at h
    · split at h
      · cases h
      · next size hsize =>
        cases h
        have hdigits := Number.length_digits_limitedValue (isDigit_of_readWhole hwhole) hsize
        -- The sign is not counted among the digits.
        have habs : (if negative then -(size : Int) else size).natAbs = size := by
          cases negative with
          | true => exact Int.natAbs_neg size
          | false => rfl
        rw [Writable, Value.ofJson, Value.isWritable, Number.isWritable, habs]
        exact decide_eq_true hdigits
    · cases h
      rfl

/-- A word is no integer. -/
theorem writable_of_readWord? {cs rest : List Char} {doc : Json}
    (h : readWord? cs = some (doc, rest)) : doc.Writable := by
  have hwords : ∀ word ∈ words, word.2.Writable := by
    simp [words, Writable, Value.ofJson, Value.isWritable]
  obtain ⟨word, hword, h⟩ := List.exists_of_findSome?_eq_some h
  simp only at h
  split_ifs at h
  cases h
  exact hwords word hword

/-- Whatever is read with some fuel can be written. -/
theorem writable_of_read (fuel : Nat) :
    (∀ cs doc rest, readValue fuel cs = .ok (doc, rest) → doc.Writable) ∧
    (∀ cs items rest, readItems fuel cs = .ok (items, rest) → ∀ item ∈ items, item.Writable) ∧
    (∀ cs fields rest, readFields fuel cs = .ok (fields, rest) →
      ∀ field ∈ fields, field.2.Writable) := by
  induction fuel with
  | zero =>
    refine ⟨?_, ?_, ?_⟩
    · rintro cs doc rest ⟨⟩
    · rintro cs items rest ⟨⟩
    · rintro cs fields rest ⟨⟩
  | succ fuel ih =>
    obtain ⟨hvalue, hitems, hfields⟩ := ih
    refine ⟨?_, ?_, ?_⟩
    · -- A value: a string, an array, an object, a word or a number.
      intro cs doc rest h
      rw [readValue.eq_def] at h
      simp only at h
      split at h
      · cases h
      · obtain ⟨_, -, h⟩ := Outcome.map_eq_ok.1 h
        cases h
        rfl
      · split at h
        · cases h
          exact writable_arr.2 (by simp)
        · obtain ⟨⟨items, after⟩, hread, h⟩ := Outcome.map_eq_ok.1 h
          cases h
          exact writable_arr.2 (hitems _ _ _ hread)
      · split at h
        · cases h
          exact writable_obj.2 (by simp)
        · obtain ⟨⟨fields, after⟩, hread, h⟩ := Outcome.map_eq_ok.1 h
          cases h
          exact writable_obj.2 (forall_mem_fieldsOf (hfields _ _ _ hread))
      · split at h
        · next found hfound =>
          cases h
          exact writable_of_readWord? hfound
        · split at h
          · exact writable_of_readNumber h
          · exact writable_of_readNumber h
    · -- Items: the first one is a value, the others are items again.
      intro cs items rest h
      rw [readItems] at h
      split at h
      · cases h
      · next item after hitem =>
        have hfirst := hvalue _ _ _ hitem
        split at h
        · cases h
          exact List.forall_mem_singleton.2 hfirst
        · obtain ⟨⟨others, last⟩, hread, h⟩ := Outcome.map_eq_ok.1 h
          cases h
          exact List.forall_mem_cons.2 ⟨hfirst, hitems _ _ _ hread⟩
        · cases h
    · -- Fields: after a key the value, and then fields again.
      intro cs fields rest h
      rw [readFields.eq_def] at h
      simp only at h
      split at h
      · split at h
        · cases h
        · split at h
          · split at h
            · cases h
            · next value after hread =>
              have hfirst := hvalue _ _ _ hread
              split at h
              · cases h
                exact List.forall_mem_singleton.2 hfirst
              · obtain ⟨⟨others, last⟩, hothers, h⟩ := Outcome.map_eq_ok.1 h
                cases h
                exact List.forall_mem_cons.2 ⟨hfirst, hfields _ _ _ hothers⟩
              · cases h
          · cases h
      · cases h

/-- Every integer of a document that is read can be written. -/
theorem writable_of_parse {text : List Char} {doc : Json} (h : parse text = .ok doc) :
    doc.Writable := by
  unfold parse at h
  split at h
  · cases h
  · next found rest hread =>
    split_ifs at h
    cases h
    exact (writable_of_read _).1 _ _ _ hread

end ApiOutline.Json
