import ApiOutline.Number.Decimal
import ApiOutline.Proofs.SplitJoin
import Mathlib.Tactic.IntervalCases
import Mathlib.Tactic.Ring

/-!
# Decimal numerals are read back

`digits` and `value` are inverse, the digits of a number start with a zero only if it is zero, and a
number has at most `k` digits if and only if it is below `10 ^ k`. A numeral is taken off the start of
a text by `takeWhile` if no digit follows it.
-/

namespace ApiOutline.Number

/-- A digit is a digit. -/
theorem isDigit_digitChar {d : Nat} (hd : d < 10) : isDigit (digitChar d) = true := by
  interval_cases d <;> rfl

/-- The code of a digit counts from the code of zero. -/
theorem toNat_digitChar {d : Nat} (hd : d < 10) : (digitChar d).toNat = 48 + d := by
  interval_cases d <;> rfl

/-- Every digit is the digit of a number below ten. -/
theorem exists_eq_digitChar {c : Char} (hc : isDigit c = true) : ∃ d < 10, c = digitChar d := by
  have hcodes : '0'.toNat ≤ c.toNat ∧ c.toNat ≤ '9'.toNat := by
    rw [isDigit, Bool.and_eq_true, decide_eq_true_eq, decide_eq_true_eq] at hc
    exact hc
  have hends : '0'.toNat = 48 ∧ '9'.toNat = 57 := by decide
  refine ⟨c.toNat - 48, by omega, ?_⟩
  rw [digitChar, show 48 + (c.toNat - 48) = c.toNat by omega, Char.ofNat_toNat]

/-- All characters of a numeral are digits. -/
theorem isDigit_of_mem_digits {n : Nat} {c : Char} (hc : c ∈ digits n) : isDigit c = true := by
  -- The last digit is written after the digits of the rest.
  induction n using digits.induct with
  | case1 n hn =>
    rw [digits, if_pos hn, List.mem_singleton] at hc
    rw [hc]
    exact isDigit_digitChar hn
  | case2 n hn ih =>
    rw [digits, if_neg hn, List.mem_append, List.mem_singleton] at hc
    obtain hc | rfl := hc
    · exact ih hc
    · exact isDigit_digitChar (Nat.mod_lt n (by omega))

/-- Zeros are digits. -/
theorem isDigit_zeros (k : Nat) : ∀ c ∈ List.replicate k '0', isDigit c = true := by
  intro c hc
  rw [List.eq_of_mem_replicate hc]
  rfl

/-- A numeral is not empty. -/
theorem digits_ne_nil (n : Nat) : digits n ≠ [] := by
  rw [digits]
  split <;> simp

/-- The first character of a numeral is the digit of a number below ten. -/
theorem exists_digits_eq_cons (n : Nat) : ∃ d ds, d < 10 ∧ digits n = digitChar d :: ds := by
  induction n using digits.induct with
  | case1 n hn => exact ⟨n, [], hn, by rw [digits, if_pos hn]⟩
  | case2 n hn ih =>
    obtain ⟨d, ds, hd, heq⟩ := ih
    exact ⟨d, ds ++ [digitChar (n % 10)], hd, by rw [digits, if_neg hn, heq, List.cons_append]⟩

/-- One more digit is ten times the number and the digit. -/
theorem value_append_digit (cs : List Char) {d : Nat} (hd : d < 10) :
    value (cs ++ [digitChar d]) = 10 * value cs + d := by
  have hcode := toNat_digitChar hd
  simp only [value, valueIn, List.foldl_append, List.foldl_cons, List.foldl_nil, hcode]
  rw [if_neg (by omega), if_neg (by omega)]
  omega

/-- A numeral is read back as its number. -/
theorem value_digits (n : Nat) : value (digits n) = n := by
  induction n using digits.induct with
  | case1 n hn =>
    rw [digits, if_pos hn]
    have hvalue := value_append_digit [] hn
    simpa [value, valueIn] using hvalue
  | case2 n hn ih =>
    rw [digits, if_neg hn, value_append_digit _ (Nat.mod_lt n (by omega)), ih]
    omega

/-- Only zero starts with a zero. -/
theorem head?_digits_ne_zero {n : Nat} (hn : n ≠ 0) : (digits n).head? ≠ some '0' := by
  induction n using digits.induct with
  | case1 n hlt =>
    rw [digits, if_pos hlt]
    interval_cases n <;> simp_all [digitChar]
  | case2 n hlt ih =>
    -- The first digit is that of the rest, which is not zero since `n` has two digits at least.
    have hhead := ih (by omega)
    rw [digits, if_neg hlt, List.head?_append]
    cases hfirst : (digits (n / 10)).head? with
    | none => exact absurd (List.head?_eq_none_iff.1 hfirst) (digits_ne_nil _)
    | some c =>
      rw [hfirst] at hhead
      exact hhead

/-- A number has at most `k` digits if it is below `10 ^ k`, and only then. -/
theorem length_digits_le_iff {n k : Nat} (hk : 1 ≤ k) : (digits n).length ≤ k ↔ n < 10 ^ k := by
  induction n using digits.induct generalizing k with
  | case1 n hn =>
    have hpow : 10 ^ 1 ≤ 10 ^ k := Nat.pow_le_pow_right (by omega) hk
    rw [digits, if_pos hn]
    simp only [List.length_singleton]
    omega
  | case2 n hn ih =>
    rw [digits, if_neg hn, List.length_append, List.length_singleton]
    obtain rfl | hlt := Nat.eq_or_lt_of_le hk
    · -- With one digit allowed there is no room for the digits of `n / 10`.
      have hpos : 0 < (digits (n / 10)).length := List.length_pos_iff.2 (digits_ne_nil _)
      omega
    · obtain ⟨j, rfl⟩ : ∃ j, k = j + 1 := ⟨k - 1, by omega⟩
      have hiff := ih (k := j) (by omega)
      rw [Nat.add_le_add_iff_right, hiff, Nat.div_lt_iff_lt_mul (by omega), pow_succ]

/-- Digits are taken whole from the start of a text that goes on with no digit. -/
theorem takeWhile_isDigit {ds rest : List Char} (hds : ∀ c ∈ ds, isDigit c = true)
    (hrest : ∀ c ∈ rest.head?, isDigit c = false) :
    (ds ++ rest).takeWhile isDigit = ds ∧ (ds ++ rest).dropWhile isDigit = rest :=
  Text.takeWhile_append_of_stop hds hrest

end ApiOutline.Number
