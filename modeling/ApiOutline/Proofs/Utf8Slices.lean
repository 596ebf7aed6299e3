import ApiOutline.Proofs.Outcome
import ApiOutline.Text.Utf8
import Mathlib.Tactic.SplitIfs

/-!
# Slices of texts

A position in bytes is a boundary if the byte after it does not continue a character. The decoder takes
a byte of that kind only between characters, so bytes that are divided at a boundary decode part by part
(`decodeFrom_append`), and what lies between two boundaries of a text is a text again
(`exists_decode_slice`).
-/

namespace ApiOutline.Text.Utf8

/-- Whether a byte continues a character. -/
def continues (b : UInt8) : Bool :=
  0x80 ≤ b && b ≤ 0xBF

/-- Whether a position lies in the bytes or at their end, and not inside a character. -/
def IsBoundary (bytes : Bytes) (i : Nat) : Prop :=
  i ≤ bytes.length ∧ ∀ b ∈ (bytes.drop i).head?, continues b = false

/-- Boundaries can be tested. -/
instance (bytes : Bytes) (i : Nat) : Decidable (IsBoundary bytes i) :=
  inferInstanceAs (Decidable (i ≤ bytes.length ∧ ∀ b ∈ (bytes.drop i).head?, continues b = false))

/-- Whether an open character goes on only with bytes that continue one. -/
def Partial.Limited (p : Partial) : Prop :=
  0x80 ≤ p.low ∧ p.high ≤ 0xBF

/-- An open character as it is when its first byte stands elsewhere. -/
def Partial.movedTo (start : Nat) (p : Partial) : Partial :=
  { p with start }

variable {pos : Nat} {b : UInt8} {bytes rest : Bytes} {pending : Option Partial} {cs : List Char}

/-- A byte within the limits of an open character continues it. -/
theorem Partial.Limited.continues {p : Partial} (h : p.Limited) (hb : p.low ≤ b ∧ b ≤ p.high) :
    continues b = true := by
  rw [Utf8.continues, Bool.and_eq_true, decide_eq_true_eq, decide_eq_true_eq]
  exact ⟨UInt8.le_trans h.1 hb.1, UInt8.le_trans hb.2 h.2⟩

/-- A first byte opens a character with proper limits. -/
theorem limited_of_begin {p : Partial} (h : begin pos b = some (.inr p)) : p.Limited := by
  unfold begin at h
  simp only at h
  split_ifs at h <;> cases h <;> simp [Partial.Limited]

/-- Further bytes keep the limits proper. -/
theorem limited_of_extend {p q : Partial} (h : p.extend b = .inr q) : q.Limited := by
  unfold Partial.extend at h
  split at h
  · cases h
  · cases h
    simp [Partial.Limited]

/-- The end of any bytes is a boundary. -/
theorem isBoundary_length (bytes : Bytes) : IsBoundary bytes bytes.length := by
  refine ⟨Nat.le_refl _, ?_⟩
  rw [List.drop_length]
  simp

/-- No character starts with a byte that continues one. -/
theorem begin_of_continues (h : continues b = true) : begin pos b = none := by
  rw [continues, Bool.and_eq_true, decide_eq_true_eq, decide_eq_true_eq] at h
  -- The bytes that continue a character lie between those of one byte and the first ones of two.
  have hlow : ¬ b < 0x80 := UInt8.not_lt.2 h.1
  have hhigh : b < 0xC2 := UInt8.lt_of_le_of_lt h.2 (by decide)
  rw [begin, if_neg hlow, if_pos hhigh]

/-- The start of a text is a boundary. -/
theorem isBoundary_zero (h : decode bytes = .ok cs) : IsBoundary bytes 0 := by
  refine ⟨Nat.zero_le _, fun b hb => ?_⟩
  cases bytes with
  | nil => cases hb
  | cons first rest =>
    obtain rfl : first = b := Option.some.inj hb
    cases hcontinues : continues first with
    | false => rfl
    | true =>
      rw [decode, decodeFrom, begin_of_continues hcontinues] at h
      cases h

/-- Bytes that are divided at a boundary decode part by part. -/
theorem decodeFrom_append (hpending : ∀ p ∈ pending, p.Limited)
    (hrest : ∀ b ∈ rest.head?, continues b = false)
    (h : decodeFrom pos pending (bytes ++ rest) = .ok cs) :
    ∃ front back, decodeFrom pos pending bytes = .ok front ∧
      decodeFrom (pos + bytes.length) none rest = .ok back ∧ cs = front ++ back := by
  induction bytes generalizing pos pending cs with
  | nil =>
    cases pending with
    | none => exact ⟨[], cs, rfl, h, rfl⟩
    | some p =>
      -- An open character would have to go on after the boundary, or end with the bytes.
      cases rest with
      | nil => cases h
      | cons b rest =>
        rw [List.nil_append, decodeFrom] at h
        split_ifs at h with hlimits
        have hcontinues := (hpending p rfl).continues hlimits
        rw [hrest b rfl] at hcontinues
        cases hcontinues
  | cons b bytes ih =>
    have hlength : pos + (b :: bytes).length = pos + 1 + bytes.length := by
      rw [List.length_cons]
      omega
    -- After a whole character both parts go on between characters.
    have hwhole : ∀ {c}, (decodeFrom (pos + 1) none (bytes ++ rest)).map (c :: ·) = .ok cs →
        ∃ front back, (decodeFrom (pos + 1) none bytes).map (c :: ·) = .ok front ∧
          decodeFrom (pos + 1 + bytes.length) none rest = .ok back ∧ cs = front ++ back := by
      intro c hc
      obtain ⟨more, hmore, rfl⟩ := Outcome.map_eq_ok.1 hc
      obtain ⟨front, back, hfront, hback, rfl⟩ := ih (by simp) hmore
      exact ⟨c :: front, back, Outcome.map_eq_ok.2 ⟨front, hfront, rfl⟩, hback, rfl⟩
    rw [hlength]
    rw [List.cons_append] at h
    cases pending with
    | none =>
      rw [decodeFrom] at h ⊢
      cases hbegin : begin pos b with
      | none =>
        rw [hbegin] at h
        cases h
      | some begun =>
        rw [hbegin] at h
        cases begun with
        | inl c => exact hwhole h
        | inr p =>
          refine ih ?_ h
          rintro q ⟨⟩
          exact limited_of_begin hbegin
    | some p =>
      rw [decodeFrom] at h ⊢
      split_ifs at h with hlimits
      rw [if_pos hlimits]
      cases hextend : p.extend b with
      | inl c =>
        rw [hextend] at h
        exact hwhole h
      | inr q =>
        rw [hextend] at h
        refine ih ?_ h
        rintro _ ⟨⟩
        exact limited_of_extend hextend

/-- Where bytes stand shows only in faults. -/
theorem decodeFrom_of_pos (other start : Nat) (h : decodeFrom pos pending bytes = .ok cs) :
    decodeFrom other (pending.map (Partial.movedTo start)) bytes = .ok cs := by
  induction bytes generalizing pos other pending start cs with
  | nil =>
    cases pending with
    | none => exact h
    | some p => cases h
  | cons b bytes ih =>
    cases pending with
    | none =>
      -- Only the start of the open character shows where the byte stands.
      have hbegin : begin other b = (begin pos b).map (Sum.map id (Partial.movedTo other)) := by
        unfold begin
        simp only
        split_ifs <;> rfl
      rw [Option.map_none, decodeFrom, hbegin]
      rw [decodeFrom] at h
      cases hfirst : begin pos b with
      | none =>
        rw [hfirst] at h
        cases h
      | some begun =>
        rw [hfirst] at h
        cases begun with
        | inl c =>
          obtain ⟨more, hmore, rfl⟩ := Outcome.map_eq_ok.1 h
          exact Outcome.map_eq_ok.2 ⟨more, ih (other + 1) start hmore, rfl⟩
        | inr p => exact ih (other + 1) other h
    | some p =>
      have hextend : (p.movedTo start).extend b = (p.extend b).map id (Partial.movedTo start) := by
        cases hmore : p.more with
        | zero => simp [Partial.extend, Partial.movedTo, hmore]
        | succ more => simp [Partial.extend, Partial.movedTo, hmore]
      rw [decodeFrom] at h
      split_ifs at h with hlimits
      have hmoved : (p.movedTo start).low ≤ b ∧ b ≤ (p.movedTo start).high := hlimits
      rw [Option.map_some, decodeFrom, if_pos hmoved, hextend]
      cases hnext : p.extend b with
      | inl c =>
        rw [hnext] at h
        obtain ⟨more, hmore, rfl⟩ := Outcome.map_eq_ok.1 h
        exact Outcome.map_eq_ok.2 ⟨more, ih (other + 1) start hmore, rfl⟩
      | inr q =>
        rw [hnext] at h
        exact ih (other + 1) start h

/-- A text divided at a boundary is two texts. -/
theorem exists_decode_split (h : decode (bytes ++ rest) = .ok cs)
    (hrest : ∀ b ∈ rest.head?, continues b = false) :
    ∃ front back, decode bytes = .ok front ∧ decode rest = .ok back ∧ cs = front ++ back := by
  obtain ⟨front, back, hfront, hback, hcs⟩ := decodeFrom_append (by simp) hrest h
  exact ⟨front, back, hfront, decodeFrom_of_pos 0 0 hback, hcs⟩

/-- What lies between two boundaries of a text is a text. -/
theorem exists_decode_slice {i j : Nat} (h : decode bytes = .ok cs) (hi : IsBoundary bytes i)
    (hj : IsBoundary bytes j) : ∃ text, decode ((bytes.drop i).take (j - i)) = .ok text := by
  by_cases hij : i ≤ j
  · -- First everything before `i` goes, then everything after `j`.
    rw [← List.take_append_drop i bytes] at h
    obtain ⟨-, back, -, hback, -⟩ := exists_decode_split h hi.2
    rw [← List.take_append_drop (j - i) (bytes.drop i)] at hback
    have hlast : ∀ b ∈ ((bytes.drop i).drop (j - i)).head?, continues b = false := by
      rw [List.drop_drop, Nat.add_sub_cancel' hij]
      exact hj.2
    obtain ⟨text, -, htext, -⟩ := exists_decode_split hback hlast
    exact ⟨text, htext⟩
  · refine ⟨[], ?_⟩
    rw [Nat.sub_eq_zero_of_le (Nat.le_of_not_le hij), List.take_zero]
    rfl

end ApiOutline.Text.Utf8
