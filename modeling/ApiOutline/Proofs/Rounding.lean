import ApiOutline.Number.Binary64
import Mathlib.Algebra.Order.Field.Power
import Mathlib.Algebra.Order.Field.Rat
import Mathlib.Tactic.FieldSimp
import Mathlib.Tactic.Linarith
import Mathlib.Tactic.NormNum
import Mathlib.Tactic.Positivity
import Mathlib.Tactic.Ring

/-!
# Rounding to the nearest number

`Near m e r` says that the rational `r` rounds to `m · 2^e`: it lies within half a unit of the last
place, and just at half a unit only if `m` is even. Below a power of two the numbers lie twice as
close, so there it lies within a quarter. `ofRatio_of_near` and `ofDecimal_of_near` prove that such
a rational, as a quotient or as a decimal, is read as `m · 2^e`.

A quotient is first rounded at its own binary exponent (`firstExponent`). This is the exponent of
the number, but for the quotients just below a power of two that are rounded up to it: their
mantissa fills up and moves to the next exponent.
-/

namespace ApiOutline.Number

/-- A mantissa and an exponent are those of a finite number. -/
structure IsFinite (m : ℕ) (e : ℤ) : Prop where
  mantissa_lt : m < 2 ^ 53
  min_le : -1074 ≤ e
  le_max : e ≤ 971
  normal : 2 ^ 52 ≤ m ∨ e = -1074

/-- A number has the parts of one of the format. -/
def Binary64.Proper : Binary64 → Prop
  | .nan | .infinite _ => True
  | .finite _ m e => IsFinite m e

/-- A rational rounds to `m · 2^e`. -/
structure Near (m : ℕ) (e : ℤ) (r : ℚ) : Prop where
  low : m - 1 / 2 ≤ r / 2 ^ e
  high : r / 2 ^ e ≤ m + 1 / 2
  tie : r / 2 ^ e = m - 1 / 2 ∨ r / 2 ^ e = m + 1 / 2 → m % 2 = 0
  carry : m = 2 ^ 52 → -1074 < e → m - 1 / 4 ≤ r / 2 ^ e

/-! ## The nearest integer -/

/-- A quotient is rounded down or up, by what is left of the division. -/
theorem roundQuotient_cases (num den : ℕ) :
    (roundQuotient num den = num / den ∧ 2 * (num % den) ≤ den ∧
        (2 * (num % den) = den → num / den % 2 = 0)) ∨
      (roundQuotient num den = num / den + 1 ∧ den ≤ 2 * (num % den) ∧
        (2 * (num % den) = den → (num / den + 1) % 2 = 0)) := by
  unfold roundQuotient
  dsimp only
  split
  · exact .inl ⟨rfl, by omega, by omega⟩
  · split
    · exact .inr ⟨rfl, by omega, by omega⟩
    · split
      · exact .inl ⟨rfl, by omega, by omega⟩
      · exact .inr ⟨rfl, by omega, by omega⟩

/-- The nearest integer is at most half a unit away, and even if it is just half a unit away. -/
theorem roundQuotient_spec (num : ℕ) {den : ℕ} (hden : 0 < den) :
    |(roundQuotient num den : ℚ) - num / den| ≤ 1 / 2 ∧
      (|(roundQuotient num den : ℚ) - num / den| = 1 / 2 → roundQuotient num den % 2 = 0) := by
  have hpos : (0 : ℚ) < den := by exact_mod_cast hden
  -- The quotient is its whole part and a fraction `t` of a unit.
  obtain ⟨t, ht⟩ : ∃ t : ℚ, t = (num % den : ℕ) / den := ⟨_, rfl⟩
  have hquotient : (num : ℚ) / den = (num / den : ℕ) + t := by
    have h : (num : ℚ) = den * (num / den : ℕ) + (num % den : ℕ) := by
      exact_mod_cast (Nat.div_add_mod num den).symm
    rw [ht, div_eq_iff hpos.ne', add_mul, div_mul_cancel₀ _ hpos.ne']
    linarith
  have hrest : ((num % den : ℕ) : ℚ) = t * den := by rw [ht, div_mul_cancel₀ _ hpos.ne']
  have ht₀ : 0 ≤ t := by rw [ht]; positivity
  have ht₁ : t ≤ 1 := by
    rw [ht, div_le_one hpos]
    exact_mod_cast (Nat.mod_lt num hden).le
  have htie : t = 1 / 2 → 2 * (num % den) = den := by
    intro h
    rw [h] at hrest
    have : (2 * (num % den : ℕ) : ℚ) = den := by linarith
    exact_mod_cast this
  rw [hquotient]
  -- Rounded down, the fraction is what is lost; rounded up, its complement is what is added.
  obtain ⟨heq, hhalf, heven⟩ | ⟨heq, hhalf, heven⟩ := roundQuotient_cases num den
  · have : t ≤ 1 / 2 := by
      have : (2 * (num % den : ℕ) : ℚ) ≤ den := by exact_mod_cast hhalf
      rw [ht, div_le_iff₀ hpos]
      linarith
    have habs : |((num / den : ℕ) : ℚ) - ((num / den : ℕ) + t)| = t := by
      rw [sub_add_cancel_left, abs_neg, abs_of_nonneg ht₀]
    rw [heq, habs]
    exact ⟨this, fun h => heven (htie h)⟩
  · have : 1 / 2 ≤ t := by
      have : (den : ℚ) ≤ 2 * (num % den : ℕ) := by exact_mod_cast hhalf
      rw [ht, le_div_iff₀ hpos]
      linarith
    have habs : |((num / den + 1 : ℕ) : ℚ) - ((num / den : ℕ) + t)| = 1 - t := by
      rw [Nat.cast_add, Nat.cast_one, add_sub_add_left_eq_sub, abs_of_nonneg (by linarith)]
    rw [heq, habs]
    exact ⟨by linarith, fun h => heven (htie (by linarith))⟩

/-- An integer at most half a unit away is the nearest one, if it is even where it is just half a
unit away. -/
theorem roundQuotient_eq {num den n : ℕ} (hden : 0 < den) (hlow : (n : ℚ) - 1 / 2 ≤ num / den)
    (hhigh : (num : ℚ) / den ≤ n + 1 / 2)
    (htie : (num : ℚ) / den = n - 1 / 2 ∨ (num : ℚ) / den = n + 1 / 2 → n % 2 = 0) :
    roundQuotient num den = n := by
  obtain ⟨hnear, heven⟩ := roundQuotient_spec num hden
  generalize roundQuotient num den = q at *
  obtain ⟨hqlow, hqhigh⟩ := abs_le.1 hnear
  have hle : q ≤ n + 1 := by
    have : (q : ℚ) ≤ n + 1 := by linarith
    exact_mod_cast this
  have hge : n ≤ q + 1 := by
    have : (n : ℚ) ≤ q + 1 := by linarith
    exact_mod_cast this
  -- Two neighbours that are both half a unit away would both be even.
  obtain hq | hq | hq : q = n ∨ q = n + 1 ∨ n = q + 1 := by omega
  · exact hq
  · have hcast : (q : ℚ) = n + 1 := by exact_mod_cast hq
    have hmid : (num : ℚ) / den = n + 1 / 2 := by linarith
    have hq₂ : q % 2 = 0 := heven (by rw [hcast, hmid, add_sub_add_left_eq_sub]; norm_num)
    have hn₂ := htie (.inr hmid)
    omega
  · have hcast : (n : ℚ) = q + 1 := by exact_mod_cast hq
    have hmid : (num : ℚ) / den = n - 1 / 2 := by linarith
    have hq₂ : q % 2 = 0 := heven (by rw [hmid, hcast, add_sub_assoc, sub_add_cancel_left]; norm_num)
    have hn₂ := htie (.inl hmid)
    omega

/-! ## Quotients -/

namespace Binary64

/-- Scaling keeps the divisor positive. -/
theorem scale_pos (num : ℕ) {den : ℕ} (hden : 0 < den) (e : ℤ) : 0 < (scale num den e).2 := by
  unfold scale
  split
  · rw [Nat.shiftLeft_eq]
    positivity
  · exact hden

/-- Scaling divides by a power of two. -/
theorem scale_div (num den : ℕ) (e : ℤ) :
    ((scale num den e).1 : ℚ) / (scale num den e).2 = num / den / 2 ^ e := by
  unfold scale
  split
  case isTrue h =>
    have hpow : (2 : ℚ) ^ e = 2 ^ e.toNat := by
      rw [← zpow_natCast, Int.toNat_of_nonneg h]
    rw [Nat.shiftLeft_eq, hpow, div_div]
    push_cast
    rfl
  case isFalse h =>
    have hpow : (2 : ℚ) ^ (-e).toNat = (2 ^ e)⁻¹ := by
      rw [← zpow_natCast, Int.toNat_of_nonneg (by omega), zpow_neg]
    rw [Nat.shiftLeft_eq, div_eq_mul_inv ((num : ℚ) / den), ← hpow]
    push_cast
    ring

/-- The binary exponent of a quotient, for a mantissa of 53 bits. -/
def firstExponent (num den : ℕ) : ℤ :=
  let k : ℤ := num.log2 - den.log2
  if (scale num den k).2 ≤ (scale num den k).1 then k - 52 else k - 53

/-- A mantissa at an exponent as a number: a full mantissa moves to the next exponent. -/
def pack (negative : Bool) (m : ℕ) (e : ℤ) : Binary64 :=
  let (m, e) := if m = 1 <<< 53 then (1 <<< 52, e + 1) else (m, e)
  if maxExponent < e then .infinite negative else .finite negative m e

/-- A quotient is rounded at its exponent and packed. -/
theorem ofRatio_eq (negative : Bool) {num : ℕ} (hnum : num ≠ 0) (den : ℕ) {e : ℤ}
    (he : max (firstExponent num den) minExponent = e) :
    ofRatio negative num den =
      pack negative (roundQuotient (scale num den e).1 (scale num den e).2) e := by
  subst he
  rw [ofRatio, if_neg hnum]
  rfl

/-- At its exponent a quotient has a mantissa of 53 bits. -/
theorem firstExponent_spec {num den : ℕ} (hnum : num ≠ 0) (hden : 0 < den) :
    (2 : ℚ) ^ (firstExponent num den + 52) ≤ num / den ∧
      (num : ℚ) / den < 2 ^ (firstExponent num den + 53) := by
  have hpos : (0 : ℚ) < den := by exact_mod_cast hden
  have hnum₁ : (2 : ℚ) ^ num.log2 ≤ num := by exact_mod_cast Nat.log2_self_le hnum
  have hnum₂ : (num : ℚ) < 2 ^ (num.log2 + 1) := by exact_mod_cast Nat.lt_log2_self
  have hden₁ : (2 : ℚ) ^ den.log2 ≤ den := by exact_mod_cast Nat.log2_self_le hden.ne'
  have hden₂ : (den : ℚ) < 2 ^ (den.log2 + 1) := by exact_mod_cast Nat.lt_log2_self
  unfold firstExponent
  dsimp only
  generalize num.log2 = a at *
  generalize den.log2 = b at *
  -- The logarithms of both numbers bound their quotient within a factor of four.
  have hlow : (2 : ℚ) ^ ((a : ℤ) - b - 1) ≤ num / den := by
    rw [le_div_iff₀ hpos]
    calc (2 : ℚ) ^ ((a : ℤ) - b - 1) * den
        ≤ 2 ^ ((a : ℤ) - b - 1) * 2 ^ ((b : ℤ) + 1) := by
          gcongr
          exact_mod_cast hden₂.le
      _ = 2 ^ a := by
          rw [← zpow_add₀ two_ne_zero, ← zpow_natCast]
          congr 1
          ring
      _ ≤ num := hnum₁
  have hhigh : (num : ℚ) / den < 2 ^ ((a : ℤ) - b + 1) := by
    rw [div_lt_iff₀ hpos]
    calc (num : ℚ) < 2 ^ (a + 1) := hnum₂
      _ = 2 ^ ((a : ℤ) - b + 1) * 2 ^ (b : ℤ) := by
          rw [← zpow_add₀ two_ne_zero, ← zpow_natCast]
          congr 1
          push_cast
          ring
      _ ≤ 2 ^ ((a : ℤ) - b + 1) * den := by
          gcongr
          rw [zpow_natCast]
          exact hden₁
  -- The comparison of the scaled quotient with one is that of the quotient with a power of two.
  have hscaled : (scale num den (a - b)).2 ≤ (scale num den (a - b)).1 ↔
      (2 : ℚ) ^ ((a : ℤ) - b) ≤ num / den := by
    have hb : (0 : ℚ) < (scale num den (a - b)).2 := by exact_mod_cast scale_pos num hden _
    rw [← Nat.cast_le (α := ℚ), ← one_le_div hb, scale_div,
      one_le_div (zpow_pos two_pos _)]
  split
  case isTrue h =>
    rw [sub_add_cancel, show (a : ℤ) - b - 52 + 53 = a - b + 1 by ring]
    exact ⟨hscaled.1 h, hhigh⟩
  case isFalse h =>
    rw [sub_add_cancel, show (a : ℤ) - b - 53 + 52 = a - b - 1 by ring]
    exact ⟨hlow, not_le.1 fun hle => h (hscaled.2 hle)⟩

/-- The parts of a finite number are packed as they are. -/
theorem pack_eq {m : ℕ} {e : ℤ} (h : IsFinite m e) (negative : Bool) :
    pack negative m e = .finite negative m e := by
  have hm : m ≠ 1 <<< 53 := h.mantissa_lt.ne
  have he : ¬maxExponent < e := not_lt.2 h.le_max
  unfold pack
  rw [if_neg hm]
  exact if_neg he

/-- A full mantissa is the least one at the next exponent. -/
theorem pack_full {e : ℤ} (he : e ≤ 971) (negative : Bool) :
    pack negative (2 ^ 53) (e - 1) = .finite negative (2 ^ 52) e := by
  have hfull : 2 ^ 53 = 1 <<< 53 := rfl
  unfold pack
  rw [if_pos hfull, sub_add_cancel]
  exact if_neg (not_lt.2 he)

end Binary64

/-- The exponent at which a rational near `m · 2^e` is first rounded is `e`, or the one below it if
the rational lies just below a power of two. -/
theorem Near.exponent_cases {m : ℕ} {e f : ℤ} {r : ℚ} (hnear : Near m e r) (h : IsFinite m e)
    (hlow : (2 : ℚ) ^ (f + 52) ≤ r) (hhigh : r < 2 ^ (f + 53)) :
    max f Binary64.minExponent = e ∨
      max f Binary64.minExponent = e - 1 ∧ m = 2 ^ 52 ∧
        (2 ^ 53 - 1 / 2 : ℚ) ≤ r / 2 ^ (e - 1) ∧ r / 2 ^ (e - 1) < 2 ^ 53 := by
  have hpow : (0 : ℚ) < 2 ^ e := zpow_pos two_pos e
  have hm : (m : ℚ) + 1 ≤ 2 ^ 53 := by exact_mod_cast h.mantissa_lt
  -- The first exponent is not above that of the number, since the quotient is too small for it.
  have hle : f ≤ e := by
    have hlt : r < 2 ^ (e + 53) := by
      rw [zpow_add₀ two_ne_zero, mul_comm, ← div_lt_iff₀ hpow]
      exact lt_of_le_of_lt hnear.high (lt_of_lt_of_le (by linarith) hm)
    have := (zpow_lt_zpow_iff_right₀ one_lt_two).1 (hlow.trans_lt hlt)
    omega
  -- At the least exponent no other one is left.
  obtain hnormal | hleast := h.normal
  swap
  · exact .inl (by rw [hleast] at hle ⊢; exact max_eq_right hle)
  -- And it is at most one below.
  have hge : e - 1 ≤ f := by
    have hlt : (2 : ℚ) ^ (e + 51) < r := by
      have : (2 : ℚ) ^ 52 ≤ m := by exact_mod_cast hnormal
      rw [zpow_add₀ two_ne_zero, mul_comm, ← lt_div_iff₀ hpow, zpow_ofNat]
      exact lt_of_lt_of_le (by linarith) hnear.low
    have := (zpow_lt_zpow_iff_right₀ one_lt_two).1 (hlt.trans hhigh)
    omega
  by_cases hfe : max f Binary64.minExponent = e
  · exact .inl hfe
  -- Otherwise the rational is below `2^52 · 2^e`, and the least mantissa is the only one near it.
  have hmin := h.min_le
  have hf : f = e - 1 := by unfold Binary64.minExponent at hfe; omega
  have htop : r / 2 ^ e < 2 ^ 52 := by
    rw [div_lt_iff₀ hpow, mul_comm]
    rw [hf, show e - 1 + 53 = e + 52 by ring, zpow_add₀ two_ne_zero] at hhigh
    exact_mod_cast hhigh
  have hm₅₂ : m = 2 ^ 52 := by
    have : (m : ℚ) < 2 ^ 52 + 1 := by have := hnear.low; linarith
    have : m < 2 ^ 52 + 1 := by exact_mod_cast this
    omega
  have htwice : r / 2 ^ (e - 1) = 2 * (r / 2 ^ e) := by
    rw [zpow_sub_one₀ two_ne_zero]
    field_simp
  have hcarry : (2 ^ 52 - 1 / 4 : ℚ) ≤ r / 2 ^ e := by
    have := hnear.carry hm₅₂ (by unfold Binary64.minExponent at hfe; omega)
    rw [hm₅₂] at this
    exact_mod_cast this
  refine .inr ⟨?_, hm₅₂, ?_, ?_⟩
  · unfold Binary64.minExponent at hfe ⊢; omega
  · rw [htwice]; linarith
  · rw [htwice]; linarith

/-- What is near to a positive number is positive. -/
theorem Near.pos {m : ℕ} {e : ℤ} {r : ℚ} (hnear : Near m e r) (hm : 0 < m) : 0 < r := by
  have hm₁ : (1 : ℚ) ≤ m := by exact_mod_cast hm
  have hlow : 0 < r / 2 ^ e := lt_of_lt_of_le (by linarith) hnear.low
  rwa [lt_div_iff₀ (zpow_pos two_pos e), zero_mul] at hlow

/-- Rationals near a positive number are neither too small nor too large. -/
theorem Near.bounds {m : ℕ} {e : ℤ} {r : ℚ} (hnear : Near m e r) (h : IsFinite m e) (hm : 0 < m) :
    (2 : ℚ) ^ (-1075 : ℤ) ≤ r ∧ r < 2 ^ (1024 : ℤ) := by
  have hpow : (0 : ℚ) < 2 ^ e := zpow_pos two_pos e
  have hm₁ : (1 : ℚ) ≤ m := by exact_mod_cast hm
  have hm₂ : (m : ℚ) + 1 ≤ 2 ^ 53 := by exact_mod_cast h.mantissa_lt
  constructor
  · calc (2 : ℚ) ^ (-1075 : ℤ) ≤ 2 ^ (e - 1) :=
          zpow_le_zpow_right₀ one_le_two (by have := h.min_le; omega)
      _ = 1 / 2 * 2 ^ e := by rw [zpow_sub_one₀ two_ne_zero]; ring
      _ ≤ r := by
          rw [← le_div_iff₀ hpow]
          have := hnear.low
          linarith
  · calc r < 2 ^ 53 * 2 ^ e := by
          rw [← div_lt_iff₀ hpow]
          have := hnear.high
          linarith
      _ = 2 ^ (53 + e) := by rw [zpow_add₀ two_ne_zero, zpow_ofNat]
      _ ≤ 2 ^ (1024 : ℤ) := zpow_le_zpow_right₀ one_le_two (by have := h.le_max; omega)

namespace Binary64

/-- A quotient is rounded to the number it is near to. -/
theorem ofRatio_of_near {m num den : ℕ} {e : ℤ} (h : IsFinite m e) (hm : 0 < m) (hden : 0 < den)
    (hnear : Near m e (num / den)) (negative : Bool) :
    ofRatio negative num den = .finite negative m e := by
  have hnum : num ≠ 0 := by
    rintro rfl
    exact (hnear.pos hm).ne' (by rw [Nat.cast_zero, zero_div])
  obtain ⟨hlow, hhigh⟩ := firstExponent_spec hnum hden
  obtain he | ⟨he, rfl, hlow', hhigh'⟩ := hnear.exponent_cases h hlow hhigh
  · -- Rounded at the exponent of the number, the quotient gives its mantissa.
    rw [ofRatio_eq negative hnum den he, roundQuotient_eq (scale_pos num hden e)]
    · exact pack_eq h negative
    all_goals rw [scale_div]
    · exact hnear.low
    · exact hnear.high
    · exact hnear.tie
  · -- Rounded one exponent below, it gives a full mantissa, which moves to the next one.
    rw [ofRatio_eq negative hnum den he,
      roundQuotient_eq (n := 2 ^ 53) (scale_pos num hden (e - 1))]
    · exact pack_full h.le_max negative
    all_goals rw [scale_div]
    · exact_mod_cast hlow'
    · push_cast; linarith
    · exact fun _ => rfl

/-- A decimal is rounded to the number it is near to: it is not cut off. -/
theorem ofDecimal_of_near {m d : ℕ} {e f : ℤ} (h : IsFinite m e) (hm : 0 < m)
    (hnear : Near m e (d * 10 ^ f)) (negative : Bool) :
    ofDecimal negative d f = .finite negative m e := by
  obtain ⟨hlow, hhigh⟩ := hnear.bounds h hm
  have hd : d ≠ 0 := by
    rintro rfl
    exact (hnear.pos hm).ne' (by rw [Nat.cast_zero, zero_mul])
  -- A large exponent alone would make the decimal too large.
  have hlarge : ¬400 < f := by
    intro hf
    have hd₁ : (1 : ℚ) ≤ d := by exact_mod_cast Nat.pos_of_ne_zero hd
    refine absurd hhigh (not_lt.2 ?_)
    calc (2 : ℚ) ^ (1024 : ℤ) ≤ 2 ^ (3 * 400 : ℤ) := zpow_le_zpow_right₀ one_le_two (by norm_num)
      _ = (2 ^ (3 : ℤ)) ^ (400 : ℤ) := zpow_mul 2 3 400
      _ ≤ 10 ^ (400 : ℤ) := zpow_le_zpow_left₀ (by norm_num) (by norm_num) (by norm_num)
      _ ≤ 10 ^ f := zpow_le_zpow_right₀ (by norm_num) hf.le
      _ ≤ d * 10 ^ f := le_mul_of_one_le_left (by positivity) hd₁
  -- And a small exponent makes it too small, even for many digits.
  have hsmall : ¬f + d.log2 < -1200 := by
    intro hf
    have hd₂ : (d : ℚ) < 2 ^ ((d.log2 : ℤ) + 1) := by exact_mod_cast Nat.lt_log2_self
    have hbase : (10 : ℚ) ^ f ≤ 2 ^ f := by
      obtain ⟨n, rfl⟩ : ∃ n : ℕ, f = -n := ⟨(-f).toNat, by omega⟩
      rw [zpow_neg, zpow_neg, zpow_natCast, zpow_natCast]
      exact inv_anti₀ (by positivity) (pow_le_pow_left₀ (by norm_num) (by norm_num) _)
    refine absurd hlow (not_le.2 ?_)
    calc (d : ℚ) * 10 ^ f ≤ d * 2 ^ f := by gcongr
      _ < 2 ^ ((d.log2 : ℤ) + 1) * 2 ^ f := by gcongr
      _ = 2 ^ ((d.log2 : ℤ) + 1 + f) := (zpow_add₀ two_ne_zero _ _).symm
      _ ≤ 2 ^ (-1075 : ℤ) := zpow_le_zpow_right₀ one_le_two (by omega)
  rw [ofDecimal, if_neg hd, if_neg hlarge, if_neg hsmall]
  split
  case isTrue hf =>
    obtain ⟨n, rfl⟩ := Int.eq_ofNat_of_zero_le hf
    refine ofRatio_of_near h hm one_pos ?_ negative
    simpa using hnear
  case isFalse hf =>
    obtain ⟨n, rfl⟩ : ∃ n : ℕ, f = -n := ⟨(-f).toNat, by omega⟩
    refine ofRatio_of_near h hm (Nat.pow_pos (by norm_num)) ?_ negative
    rw [zpow_neg, ← div_eq_mul_inv] at hnear
    simpa using hnear

end Binary64

end ApiOutline.Number
