import ApiOutline.Proofs.JsonNumbers
import ApiOutline.Proofs.JsonRoundTrip
import Mathlib.Data.List.Nodup
import Mathlib.Data.List.Perm.Basic
import Mathlib.Data.String.Basic

/-!
# Documents with sorted keys

Sorting the fields of every object keeps the entries of a document (`sameEntries_sorted`) and puts
the keys of each object in increasing order (`ordered_sorted`). Two documents have the same entries
if they differ in the order of fields only.
-/

namespace ApiOutline.Json

/-! ## Objects in a document -/

mutual

/-- The fields of every object in a document, the document itself included. -/
def objects : Json → List (List (String × Json))
  | .arr items => objectsOfItems items
  | .obj fields => fields :: objectsOfFields fields
  | .null | .bool _ | .int _ | .float _ | .str _ => []

/-- `objects`, item by item. -/
def objectsOfItems : List Json → List (List (String × Json))
  | [] => []
  | item :: items => item.objects ++ objectsOfItems items

/-- `objects`, on the values of fields. -/
def objectsOfFields : List (String × Json) → List (List (String × Json))
  | [] => []
  | (_, value) :: fields => value.objects ++ objectsOfFields fields

end

/-- The keys of every object are in increasing order of their code points. -/
def Ordered (doc : Json) : Prop :=
  ∀ fields ∈ doc.objects, (fields.map Prod.fst).Pairwise (· < ·)

/-- Two documents have the same items in the same order, and the same values under the same keys. -/
inductive SameEntries : Json → Json → Prop where
  | refl (doc : Json) : SameEntries doc doc
  | arr {items others : List Json} :
    List.Forall₂ SameEntries items others → SameEntries (.arr items) (.arr others)
  | obj {fields others : List (String × Json)} :
    (∀ key, Option.Rel SameEntries (field? key fields) (field? key others)) →
    SameEntries (.obj fields) (.obj others)

/-- An object in a list is one in an item. -/
theorem mem_objectsOfItems {items : List Json} {fields : List (String × Json)} :
    fields ∈ objectsOfItems items ↔ ∃ item ∈ items, fields ∈ item.objects := by
  induction items with
  | nil => simp [objectsOfItems]
  | cons item items ih => simp [objectsOfItems, ih]

/-- An object in fields is one in a value. -/
theorem mem_objectsOfFields {inner fields : List (String × Json)} :
    fields ∈ objectsOfFields inner ↔ ∃ field ∈ inner, fields ∈ field.2.objects := by
  induction inner with
  | nil => simp [objectsOfFields]
  | cons field inner ih => simp [objectsOfFields, ih]

/-! ## Induction -/

/-- Induction over documents, with the hypothesis for every item and every value of a field. -/
@[elab_as_elim]
theorem inductOn {motive : Json → Prop} (doc : Json) (null : motive .null)
    (bool : ∀ b, motive (.bool b)) (int : ∀ i, motive (.int i)) (float : ∀ x, motive (.float x))
    (str : ∀ s, motive (.str s))
    (arr : ∀ items, (∀ item ∈ items, motive item) → motive (.arr items))
    (obj : ∀ fields, (∀ field ∈ fields, motive field.2) → motive (.obj fields)) : motive doc :=
  match doc with
  | .null => null
  | .bool b => bool b
  | .int i => int i
  | .float x => float x
  | .str s => str s
  | .arr items => arr items fun item _ => inductOn item null bool int float str arr obj
  | .obj fields => obj fields fun field _ => inductOn field.2 null bool int float str arr obj
termination_by sizeOf doc
decreasing_by
  · next hitem =>
    have := List.sizeOf_lt_of_mem hitem
    simp only [Json.arr.sizeOf_spec]
    omega
  · next hfield =>
    have := List.sizeOf_lt_of_mem hfield
    obtain ⟨key, value⟩ := field
    simp only [Prod.mk.sizeOf_spec] at this
    simp only [Json.obj.sizeOf_spec]
    omega

/-! ## Sorting -/

/-- Items are sorted one by one. -/
theorem sortedItems_eq (items : List Json) : sortedItems items = items.map sorted := by
  induction items with
  | nil => rfl
  | cons item items ih => rw [sortedItems, ih, List.map_cons]

/-- The values of fields are sorted one by one. -/
theorem sortedFields_eq (fields : List (String × Json)) :
    sortedFields fields = fields.map fun field => (field.1, field.2.sorted) := by
  induction fields with
  | nil => rfl
  | cons field fields ih => rw [sortedFields, ih, List.map_cons]

/-- The fields of a sorted object are those of the object with their values sorted. -/
theorem sorted_obj (fields : List (String × Json)) :
    ∃ others, (Json.obj fields).sorted = .obj others ∧
      others.Perm (fields.map fun field => (field.1, field.2.sorted)) ∧
      others.Pairwise fun a b => a.1 ≤ b.1 := by
  refine ⟨_, rfl, ?_, ?_⟩
  · rw [← sortedFields_eq]
    exact List.mergeSort_perm _ _
  · -- The order of keys is transitive and total, as sorting needs it.
    have htrans : ∀ a b c : String × Json, decide (a.1 ≤ b.1) = true → decide (b.1 ≤ c.1) = true →
        decide (a.1 ≤ c.1) = true := by
      intro a b c hab hbc
      exact decide_eq_true (String.le_trans (of_decide_eq_true hab) (of_decide_eq_true hbc))
    have htotal : ∀ a b : String × Json, (decide (a.1 ≤ b.1) || decide (b.1 ≤ a.1)) = true := by
      intro a b
      simpa using String.le_total a.1 b.1
    exact (List.pairwise_mergeSort htrans htotal _).imp fun h => of_decide_eq_true h

/-- Sorting keeps the keys. -/
theorem keys_sorted {fields others : List (String × Json)}
    (h : others.Perm (fields.map fun field => (field.1, field.2.sorted))) :
    (others.map Prod.fst).Perm (fields.map Prod.fst) := by
  have hkeys := h.map Prod.fst
  rwa [List.map_map] at hkeys

/-- Sorting keeps documents plain. -/
theorem plain_sorted {doc : Json} (h : doc.Plain) : doc.sorted.Plain := by
  induction doc using inductOn with
  | null | bool _ | int _ | float _ | str _ => exact h
  | arr items ih =>
    rw [Plain, plainItems_iff] at h
    rw [sorted, Plain, plainItems_iff, sortedItems_eq, List.forall_mem_map]
    exact fun item hitem => ih item hitem (h item hitem)
  | obj fields ih =>
    obtain ⟨others, heq, hperm, -⟩ := sorted_obj fields
    rw [Plain, plainFields_iff] at h
    rw [heq, Plain, plainFields_iff]
    refine ⟨(keys_sorted hperm).nodup_iff.2 h.1, fun field hfield => ?_⟩
    obtain ⟨own, hown, rfl⟩ := List.mem_map.1 (hperm.subset hfield)
    exact ih own hown (h.2 own hown)

/-- Sorting makes no number larger. -/
theorem oversized?_sorted {doc : Json} (h : doc.oversized? = none) : doc.sorted.oversized? = none := by
  induction doc using inductOn with
  | null | bool _ | int _ | float _ | str _ => exact h
  | arr items ih =>
    rw [oversized?, oversizedItem?_eq_none] at h
    rw [sorted, oversized?, oversizedItem?_eq_none, sortedItems_eq, List.forall_mem_map]
    exact fun item hitem => ih item hitem (h item hitem)
  | obj fields ih =>
    obtain ⟨others, heq, hperm, -⟩ := sorted_obj fields
    rw [oversized?, oversizedField?_eq_none] at h
    rw [heq, oversized?, oversizedField?_eq_none]
    intro field hfield
    obtain ⟨own, hown, rfl⟩ := List.mem_map.1 (hperm.subset hfield)
    exact ih own hown (h own hown)

/-- A sorted document has its keys in order. -/
theorem ordered_sorted {doc : Json} (h : doc.Plain) : doc.sorted.Ordered := by
  induction doc using inductOn with
  | null | bool _ | int _ | float _ | str _ => exact List.forall_mem_nil _
  | arr items ih =>
    rw [Plain, plainItems_iff] at h
    intro inner hinner
    rw [sorted, objects, sortedItems_eq, mem_objectsOfItems] at hinner
    obtain ⟨item, hitem, hinner⟩ := hinner
    obtain ⟨own, hown, rfl⟩ := List.mem_map.1 hitem
    exact ih own hown (h own hown) inner hinner
  | obj fields ih =>
    obtain ⟨others, heq, hperm, hsorted⟩ := sorted_obj fields
    rw [Plain, plainFields_iff] at h
    intro inner hinner
    rw [heq, objects, List.mem_cons, mem_objectsOfFields] at hinner
    obtain rfl | ⟨field, hfield, hinner⟩ := hinner
    · -- Different keys in weakly increasing order are in strictly increasing order.
      have hdifferent := (keys_sorted hperm).nodup_iff.2 h.1
      have hle : (inner.map Prod.fst).Pairwise (· ≤ ·) := List.pairwise_map.2 hsorted
      exact (hle.and hdifferent).imp fun ⟨hle, hne⟩ => lt_of_le_of_ne hle hne
    · obtain ⟨own, hown, rfl⟩ := List.mem_map.1 (hperm.subset hfield)
      exact ih own hown (h.2 own hown) inner hinner

/-- Where keys are different, the value of a field is what stands with its key. -/
theorem field?_eq_some_iff {fields : List (String × Json)} (h : (fields.map Prod.fst).Nodup)
    {key : String} {value : Json} : field? key fields = some value ↔ (key, value) ∈ fields := by
  induction fields with
  | nil => simp [field?]
  | cons field fields ih =>
    obtain ⟨own, first⟩ := field
    rw [List.map_cons, List.nodup_cons] at h
    rw [field?, List.lookup_cons, List.mem_cons, Prod.mk.injEq]
    by_cases hkey : key = own
    · subst hkey
      -- The key stands once, so no later field has it.
      have hnot : (key, value) ∉ fields := fun hmem => h.1 (List.mem_map.2 ⟨_, hmem, rfl⟩)
      simp [hnot, eq_comm]
    · rw [beq_false_of_ne hkey]
      simpa [hkey, field?] using ih h.2

/-- Sorting keeps the entries of a document. -/
theorem sameEntries_sorted {doc : Json} (h : doc.Plain) : SameEntries doc doc.sorted := by
  induction doc using inductOn with
  | null | bool _ | int _ | float _ | str _ => exact .refl _
  | arr items ih =>
    rw [Plain, plainItems_iff] at h
    rw [sorted, sortedItems_eq]
    refine .arr ?_
    rw [List.forall₂_map_right_iff, List.forall₂_same]
    exact fun item hitem => ih item hitem (h item hitem)
  | obj fields ih =>
    obtain ⟨others, heq, hperm, -⟩ := sorted_obj fields
    rw [Plain, plainFields_iff] at h
    rw [heq]
    refine .obj fun key => ?_
    have hothers : (others.map Prod.fst).Nodup := (keys_sorted hperm).nodup_iff.2 h.1
    cases hvalue : field? key fields with
    | some value =>
      have hmem := (field?_eq_some_iff h.1).1 hvalue
      have hmoved : (key, value.sorted) ∈ others := hperm.symm.subset (List.mem_map_of_mem hmem)
      rw [(field?_eq_some_iff hothers).2 hmoved]
      exact .some (ih _ hmem (h.2 _ hmem))
    | none =>
      cases hmoved : field? key others with
      | none => exact .none
      | some value =>
        -- A field of the sorted object comes from one of the object, which has none under this key.
        obtain ⟨own, hown, heq⟩ := List.mem_map.1 (hperm.subset ((field?_eq_some_iff hothers).1 hmoved))
        cases heq
        rw [(field?_eq_some_iff h.1).2 hown] at hvalue
        cases hvalue

end ApiOutline.Json
