import ApiOutline.Number.Shortest
import ApiOutline.Proofs.Decimal
import ApiOutline.Proofs.Rounding

/-!
# The shortest decimal is read back

A number's basin holds just the rationals near it (`has_of_iff_near`). The search for the shortest
decimal ends in the basin: a number of 53 bits has a neighbour in it on the grid of twenty digits,
if not on a coarser one. So the decimal that `shortest` finds rounds to the number
(`near_shortest`).
-/

namespace ApiOutline.Number

/-! ## Ratios -/

/-- A ratio as a rational number. -/
def Ratio.toRat (r : Ratio) : ℚ :=
  r.num / r.den

/-- Ratios are compared as rationals. -/
theorem Ratio.le_iff {a b : Ratio} (ha : 0 < a.den) (hb : 0 < b.den) :
    a.le b = true ↔ a.toRat ≤ b.toRat := by
  have ha' : (0 : ℚ) < a.den := by exact_mod_cast ha
  have hb' : (0 : ℚ) < b.den := by exact_mod_cast hb
  rw [Ratio.le, decide_eq_true_iff, Ratio.toRat, Ratio.toRat, div_le_div_iff₀ ha' hb']
  exact_mod_cast Iff.rfl

/-- The same for the strict order. -/
theorem Ratio.lt_iff {a b : Ratio} (ha : 0 < a.den) (hb : 0 < b.den) :
    a.lt b = true ↔ a.toRat < b.toRat := by
  have ha' : (0 : ℚ) < a.den := by exact_mod_cast ha
  have hb' : (0 : ℚ) < b.den := by exact_mod_cast hb
  rw [Ratio.lt, decide_eq_true_iff, Ratio.toRat, Ratio.toRat, div_lt_div_iff₀ ha' hb']
  exact_mod_cast Iff.rfl

/-- A scaled number is a ratio with a positive denominator. -/
theorem Ratio.den_scaled_pos (n : ℕ) {base : ℕ} (hbase : 0 < base) (e : ℤ) :
    0 < (Ratio.scaled n base e).den := by
  unfold Ratio.scaled
  split
  · exact one_pos
  · exact Nat.pow_pos hbase

/-- A scaled number is its product with a power of the base. -/
theorem Ratio.toRat_scaled (n base : ℕ) (e : ℤ) : (Ratio.scaled n base e).toRat = n * base ^ e := by
  unfold Ratio.scaled Ratio.toRat
  -- A power with a negative exponent stands in the denominator.
  split
  case isTrue h =>
    obtain ⟨k, rfl⟩ := Int.eq_ofNat_of_zero_le h
    simp
  case isFalse h =>
    obtain ⟨k, rfl⟩ : ∃ k : ℕ, e = -k := ⟨(-e).toNat, by omega⟩
    simp [div_eq_mul_inv]

/-! ## Basins -/

/-- The value of a basin is the number itself. -/
theorem Basin.toRat_value (m : ℕ) (e : ℤ) : (Basin.of m e).value.toRat = m * 2 ^ e :=
  Ratio.toRat_scaled m 2 e

/-- A basin ends half a unit above the number. -/
theorem Basin.toRat_high (m : ℕ) (e : ℤ) : (Basin.of m e).high.toRat = (m + 1 / 2) * 2 ^ e := by
  refine (Ratio.toRat_scaled _ 2 _).trans ?_
  push_cast
  rw [zpow_sub_one₀ two_ne_zero]
  ring

/-- A basin begins half a unit below the number, or a quarter if the unit gets smaller there. -/
theorem Basin.toRat_low {m : ℕ} (hm : 0 < m) (e : ℤ) :
    (Basin.of m e).low.toRat =
      (m - if m = 2 ^ 52 ∧ -1074 < e then 1 / 4 else 1 / 2) * 2 ^ e := by
  have hlow : (Basin.of m e).low =
      if m = 2 ^ 52 ∧ -1074 < e then .scaled (4 * m - 1) 2 (e - 2)
      else .scaled (2 * m - 1) 2 (e - 1) := rfl
  rw [hlow]
  split
  · rw [Ratio.toRat_scaled, Nat.cast_sub (by omega)]
    push_cast
    rw [zpow_sub₀ two_ne_zero, zpow_ofNat]
    ring
  · rw [Ratio.toRat_scaled, Nat.cast_sub (by omega)]
    push_cast
    rw [zpow_sub_one₀ two_ne_zero]
    ring

/-- The ratios of a basin have positive denominators. -/
theorem Basin.den_pos (m : ℕ) (e : ℤ) :
    0 < (Basin.of m e).value.den ∧ 0 < (Basin.of m e).low.den ∧ 0 < (Basin.of m e).high.den := by
  refine ⟨Ratio.den_scaled_pos _ two_pos _, ?_, Ratio.den_scaled_pos _ two_pos _⟩
  unfold Basin.of
  dsimp only
  split
  · exact Ratio.den_scaled_pos _ two_pos _
  · exact Ratio.den_scaled_pos _ two_pos _

/-- The basin of a positive number holds the rationals near it. -/
theorem Basin.has_of_iff_near {m : ℕ} (hm : 0 < m) (e : ℤ) {r : Ratio} (hr : 0 < r.den) :
    (Basin.of m e).has r = true ↔ Near m e r.toRat := by
  obtain ⟨-, hlow, hhigh⟩ := Basin.den_pos m e
  have hpow : (0 : ℚ) < 2 ^ e := zpow_pos two_pos e
  have hclosed : (Basin.of m e).closed = decide (m % 2 = 0) := rfl
  unfold Basin.has
  rw [hclosed]
  by_cases heven : m % 2 = 0
  · -- The ends belong to the basin of an even mantissa.
    rw [if_pos (decide_eq_true heven), Bool.and_eq_true, Ratio.le_iff hlow hr,
      Ratio.le_iff hr hhigh, Basin.toRat_low hm, Basin.toRat_high, ← le_div_iff₀ hpow,
      ← div_le_iff₀ hpow]
    constructor
    · rintro ⟨hl, hh⟩
      refine ⟨?_, hh, fun _ => heven, fun h₁ h₂ => ?_⟩
      · split at hl <;> linarith
      · rwa [if_pos ⟨h₁, h₂⟩] at hl
    · intro hnear
      refine ⟨?_, hnear.high⟩
      split
      case isTrue h => exact hnear.carry h.1 h.2
      case isFalse => exact hnear.low
  · -- An odd mantissa is no power of two.
    have hpower : ¬(m = 2 ^ 52 ∧ -1074 < e) := by
      rintro ⟨rfl, -⟩
      exact heven rfl
    rw [if_neg (by simpa using heven), Bool.and_eq_true, Ratio.lt_iff hlow hr,
      Ratio.lt_iff hr hhigh, Basin.toRat_low hm, Basin.toRat_high, if_neg hpower,
      ← lt_div_iff₀ hpow, ← div_lt_iff₀ hpow]
    constructor
    · rintro ⟨hl, hh⟩
      exact ⟨hl.le, hh.le, by rintro (h | h) <;> linarith, fun h₁ h₂ => absurd ⟨h₁, h₂⟩ hpower⟩
    · intro hnear
      refine ⟨lt_of_le_of_ne hnear.low fun h => heven (hnear.tie (.inl h.symm)),
        lt_of_le_of_ne hnear.high fun h => heven (hnear.tie (.inr h))⟩

/-- Rationals less than a quarter of a unit away are near. -/
theorem near_of_abs_lt {m : ℕ} {e : ℤ} {r : ℚ} (h : |r - m * 2 ^ e| < 2 ^ e / 4) : Near m e r := by
  have hpow : (0 : ℚ) < 2 ^ e := zpow_pos two_pos e
  have hunit : |r / 2 ^ e - m| < 1 / 4 := by
    rw [show r / 2 ^ e - m = (r - m * 2 ^ e) / 2 ^ e by field_simp, abs_div, abs_of_pos hpow,
      div_lt_iff₀ hpow]
    linarith
  -- Less than a quarter is also less than a half, so no bound is met.
  obtain ⟨hl, hh⟩ := abs_lt.1 hunit
  exact ⟨by linarith, by linarith, by rintro (h | h) <;> linarith, fun _ _ => by linarith⟩

/-! ## Grids -/

/-- The magnitude of a ratio, if it lies within the range that is searched. -/
theorem magnitude_spec {r : Ratio} (hr : 0 < r.den) {fuel : ℕ} {start : ℤ}
    (hlow : (10 : ℚ) ^ (start - 1) ≤ r.toRat) (hhigh : r.toRat < 10 ^ (start + fuel)) :
    (10 : ℚ) ^ (magnitude r fuel start - 1) ≤ r.toRat ∧ r.toRat < 10 ^ magnitude r fuel start := by
  induction fuel generalizing start with
  | zero =>
    rw [Nat.cast_zero, add_zero] at hhigh
    exact ⟨hlow, hhigh⟩
  | succ fuel ih =>
    have hlt : r.lt (.scaled 1 10 start) = true ↔ r.toRat < 10 ^ start := by
      rw [Ratio.lt_iff hr (Ratio.den_scaled_pos _ (by norm_num) _), Ratio.toRat_scaled]
      simp
    unfold magnitude
    split
    case isTrue h => exact ⟨hlow, hlt.1 h⟩
    case isFalse h =>
      refine ih ?_ ?_
      · rw [add_sub_cancel_right]
        exact not_lt.1 (mt hlt.2 h)
      · rw [add_assoc, add_comm 1]
        exact_mod_cast hhigh

/-- What is found on a grid is in the basin. -/
theorem Basin.has_of_onGrid {b : Basin} {e : ℤ} {d : ℕ} (h : b.onGrid e = some d) :
    b.has (.scaled d 10 e) = true := by
  unfold Basin.onGrid at h
  extract_lets unit num den below nearest other at h
  by_cases hnearest : b.has (.scaled nearest 10 e) = true
  · rw [if_pos hnearest] at h
    exact Option.some.inj h ▸ hnearest
  · rw [if_neg hnearest] at h
    by_cases hother : b.has (.scaled other 10 e) = true
    · rw [if_pos hother] at h
      exact Option.some.inj h ▸ hother
    · rw [if_neg hother] at h
      cases h

/-- A grid of less than half a unit has a neighbour of the number in its basin. -/
theorem Basin.isSome_onGrid {m : ℕ} (hm : 0 < m) {e g : ℤ} (hg : (10 : ℚ) ^ g < 2 ^ e / 2) :
    ((Basin.of m e).onGrid g).isSome = true := by
  have hten : (0 : ℚ) < 10 ^ g := zpow_pos (by norm_num) g
  obtain ⟨hvalue, -, -⟩ := Basin.den_pos m e
  have hunit : (Ratio.scaled 1 10 g).toRat = 10 ^ g := by
    rw [Ratio.toRat_scaled]
    simp
  have hnum : 0 < (Ratio.scaled 1 10 g).num := by
    rw [Nat.pos_iff_ne_zero]
    intro h
    rw [Ratio.toRat, h, Nat.cast_zero, zero_div] at hunit
    exact hten.ne hunit
  unfold Basin.onGrid
  extract_lets unit num den below nearest other
  -- The nearest multiple of the grid is at most half a step away.
  have hnearest : |(nearest : ℚ) - m * 2 ^ e / 10 ^ g| ≤ 1 / 2 := by
    have hquotient : (num : ℚ) / den = m * 2 ^ e / 10 ^ g := by
      rw [← Basin.toRat_value, ← hunit, Ratio.toRat, Ratio.toRat, div_div_div_eq]
      simp only [num, den, unit, Nat.cast_mul]
    rw [← hquotient]
    exact (roundQuotient_spec num (Nat.mul_pos hvalue hnum)).1
  -- Half a step is less than a quarter of a unit, so it stays in the basin.
  have hhas : (Basin.of m e).has (.scaled nearest 10 g) = true := by
    rw [Basin.has_of_iff_near hm e (Ratio.den_scaled_pos _ (by norm_num) _), Ratio.toRat_scaled]
    refine near_of_abs_lt ?_
    calc |(nearest : ℚ) * (10 : ℕ) ^ g - m * 2 ^ e|
        = |((nearest : ℚ) - m * 2 ^ e / 10 ^ g) * 10 ^ g| := by
          rw [sub_mul, div_mul_cancel₀ _ hten.ne']
          norm_cast
      _ = |(nearest : ℚ) - m * 2 ^ e / 10 ^ g| * 10 ^ g := by rw [abs_mul, abs_of_pos hten]
      _ ≤ 1 / 2 * 10 ^ g := by gcongr
      _ < 2 ^ e / 4 := by linarith
  rw [if_pos hhas]
  rfl

/-- The search ends in the basin if one of its grids does. -/
theorem Basin.has_search (b : Basin) (p : ℤ) (fuel count : ℕ)
    (h : ∃ j < fuel, (b.onGrid (p - (count + j : ℕ))).isSome = true) :
    b.has (.scaled (b.search p fuel count).1 10 (b.search p fuel count).2) = true := by
  induction fuel generalizing count with
  | zero =>
    obtain ⟨j, hj, -⟩ := h
    omega
  | succ fuel ih =>
    obtain ⟨j, hj, hsome⟩ := h
    rw [Basin.search]
    cases hgrid : b.onGrid (p - count) with
    | some d => exact Basin.has_of_onGrid hgrid
    | none =>
      -- The grid that has a neighbour is not this one, so it is a later one.
      refine ih (count + 1) ⟨j - 1, ?_, ?_⟩
      all_goals
        have hj₀ : j ≠ 0 := by
          rintro rfl
          rw [Nat.add_zero, hgrid] at hsome
          exact absurd hsome (by simp)
      · omega
      · rwa [show count + 1 + (j - 1) = count + j by omega]

/-! ## The shortest decimal -/

/-- Positive numbers lie in the range of magnitudes that is searched. -/
theorem range_value {m : ℕ} {e : ℤ} (h : IsFinite m e) (hm : 0 < m) :
    (10 : ℚ) ^ (-331 : ℤ) ≤ m * 2 ^ e ∧ (m : ℚ) * 2 ^ e < 10 ^ (370 : ℤ) := by
  have hpow : (0 : ℚ) < 2 ^ e := zpow_pos two_pos e
  have hm₁ : (1 : ℚ) ≤ m := by exact_mod_cast hm
  have hm₂ : (m : ℚ) < 2 ^ 53 := by exact_mod_cast h.mantissa_lt
  have hleast : 2 ^ 1074 ≤ 10 ^ 331 := by decide +kernel
  constructor
  · calc (10 : ℚ) ^ (-331 : ℤ) ≤ 2 ^ (-1074 : ℤ) := by
          rw [zpow_neg, zpow_neg]
          exact inv_anti₀ (zpow_pos two_pos _) (by exact_mod_cast hleast)
      _ ≤ 2 ^ e := zpow_le_zpow_right₀ one_le_two h.min_le
      _ ≤ m * 2 ^ e := le_mul_of_one_le_left hpow.le hm₁
  · calc (m : ℚ) * 2 ^ e < 2 ^ 53 * 2 ^ e := by gcongr
      _ = 2 ^ (53 + e) := by rw [zpow_add₀ two_ne_zero, zpow_ofNat]
      _ ≤ 2 ^ (3 * 370 : ℤ) := zpow_le_zpow_right₀ one_le_two (by have := h.le_max; omega)
      _ = (2 ^ (3 : ℤ)) ^ (370 : ℤ) := zpow_mul 2 3 370
      _ < 10 ^ (370 : ℤ) := zpow_lt_zpow_left₀ (by norm_num) (by norm_num) (by norm_num)

/-- The shortest decimal of a positive number rounds to it. -/
theorem near_shortest {m : ℕ} {e : ℤ} (h : IsFinite m e) (hm : 0 < m) :
    Near m e ((shortest m e).1 * 10 ^ (shortest m e).2) := by
  have hpow : (0 : ℚ) < 2 ^ e := zpow_pos two_pos e
  have hm₂ : (m : ℚ) < 2 ^ 53 := by exact_mod_cast h.mantissa_lt
  have hvalue := Basin.toRat_value m e
  obtain ⟨hlow, hhigh⟩ := range_value h hm
  have hmagnitude : (10 : ℚ) ^ (magnitude (Basin.of m e).value 700 (-330) - 1) ≤ m * 2 ^ e := by
    rw [← hvalue] at hlow hhigh ⊢
    exact (magnitude_spec (Basin.den_pos m e).1 hlow hhigh).1
  unfold shortest
  dsimp only
  generalize magnitude (Basin.of m e).value 700 (-330) = p at *
  -- Twenty digits make steps of less than half a unit of a mantissa of 53 bits.
  have hgrid : (10 : ℚ) ^ (p - 20) < 2 ^ e / 2 := by
    calc (10 : ℚ) ^ (p - 20) = 10 ^ (p - 1) / 10 ^ 19 := by
          rw [show p - 20 = p - 1 - 19 by ring, zpow_sub₀ (by norm_num) _ 19, zpow_ofNat]
      _ ≤ m * 2 ^ e / 10 ^ 19 := by gcongr
      _ < 2 ^ 53 * 2 ^ e / 10 ^ 19 := by gcongr
      _ ≤ 2 ^ e / 2 := by linarith
  have hhas := Basin.has_search (Basin.of m e) p 20 1
    ⟨19, by norm_num, Basin.isSome_onGrid hm (by exact_mod_cast hgrid)⟩
  rw [Basin.has_of_iff_near hm e (Ratio.den_scaled_pos _ (by norm_num) _), Ratio.toRat_scaled] at hhas
  exact_mod_cast hhas

end ApiOutline.Number
