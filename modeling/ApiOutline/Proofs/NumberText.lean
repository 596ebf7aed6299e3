import ApiOutline.Json.Printer
import ApiOutline.Json.Reader
import ApiOutline.Proofs.ShortestDecimal
import Mathlib.Data.List.Induction
import Mathlib.Data.List.TakeWhile

/-!
# Numbers in JSON are read back

A number is read up to a text that does not go on with a part of a number (`Stops`). A whole number
is read back, or refused for its length (`readNumber_digits`). A floating-point number is written as
the shortest decimal that rounds to it. Digits with a point, with an exponent or with both are read
as the decimal that they were laid out from (`isDecimal_layout`), so a number of the format is read
back from whatever is written for it (`readValue_write`).
-/

namespace ApiOutline.Number

/-! ## Digits -/

/-- Digits in front count as many times ten as there are digits behind them. -/
theorem value_append (cs ds : List Char) : value (cs ++ ds) = value cs * 10 ^ ds.length + value ds := by
  induction ds using List.reverseRecOn with
  | nil => simp [value, valueIn]
  | append_singleton ds c ih =>
    -- One more digit at the end multiplies by ten and adds the same number in both texts.
    obtain ⟨k, hk⟩ : ∃ k, ∀ es : List Char, value (es ++ [c]) = 10 * value es + k :=
      ⟨_, fun es => List.foldl_concat _ _ _ _⟩
    rw [← List.append_assoc, hk, hk, ih, List.length_append, List.length_singleton, pow_succ]
    ring

/-- Zeros stand for zero. -/
theorem value_replicate_zero (k : ℕ) : value (List.replicate k '0') = 0 := by
  induction k with
  | zero => rfl
  | succ k ih =>
    rw [List.replicate_succ', value_append, ih, zero_mul]
    rfl

/-- Digits that start with another one than zero. -/
structure Significant (ds : List Char) : Prop where
  isDigit : ∀ c ∈ ds, isDigit c = true
  head : ∃ c cs, ds = c :: cs ∧ c ≠ '0'

/-- The digits of a number other than zero start with another digit than zero. -/
theorem significant_digits {n : ℕ} (hn : n ≠ 0) : Significant (digits n) := by
  refine ⟨fun c hc => isDigit_of_mem_digits hc, ?_⟩
  have hhead := head?_digits_ne_zero hn
  cases hds : digits n with
  | nil => exact absurd hds (digits_ne_nil n)
  | cons c cs =>
    rw [hds, List.head?_cons] at hhead
    exact ⟨c, cs, rfl, fun hc => hhead (congrArg some hc)⟩

/-- The first digits of a number are those of a number. -/
theorem Significant.take {ds : List Char} (h : Significant ds) {k : ℕ} (hk : 0 < k) :
    Significant (ds.take k) := by
  refine ⟨fun c hc => h.isDigit c (List.mem_of_mem_take hc), ?_⟩
  obtain ⟨c, cs, rfl, hc⟩ := h.head
  obtain ⟨j, rfl⟩ : ∃ j, k = j + 1 := ⟨k - 1, by omega⟩
  exact ⟨c, cs.take j, rfl, hc⟩

/-- Zeros can be put after digits. -/
theorem Significant.append_zeros {ds : List Char} (h : Significant ds) (k : ℕ) :
    Significant (ds ++ List.replicate k '0') := by
  refine ⟨List.forall_mem_append.2 ⟨h.isDigit, isDigit_zeros k⟩, ?_⟩
  obtain ⟨c, cs, rfl, hc⟩ := h.head
  exact ⟨c, cs ++ List.replicate k '0', rfl, hc⟩

/-- Only zeros are dropped. -/
theorem exists_eq_dropZeros_append (ds : List Char) :
    ∃ k, ds = dropZeros ds ++ List.replicate k '0' := by
  have hzeros : ∀ c ∈ ds.reverse.takeWhile (· == '0'), c = '0' := fun c hc => by
    simpa using List.mem_takeWhile_imp hc
  refine ⟨(ds.reverse.takeWhile (· == '0')).length, ?_⟩
  calc ds = (ds.reverse.takeWhile (· == '0') ++ ds.reverse.dropWhile (· == '0')).reverse := by
        rw [List.takeWhile_append_dropWhile, List.reverse_reverse]
    _ = dropZeros ds ++ (ds.reverse.takeWhile (· == '0')).reverse := List.reverse_append
    _ = dropZeros ds ++ List.replicate (ds.reverse.takeWhile (· == '0')).length '0' := by
        rw [← List.reverse_replicate, ← List.eq_replicate_of_mem hzeros]

/-- Zeros at the end can be dropped from digits. -/
theorem Significant.dropZeros {ds : List Char} (h : Significant ds) :
    Significant (dropZeros ds) := by
  obtain ⟨k, hk⟩ := exists_eq_dropZeros_append ds
  obtain ⟨c, cs, hcs, hc⟩ := h.head
  refine ⟨fun c hc => h.isDigit c (hk ▸ List.mem_append_left _ hc), ?_⟩
  cases hds : Number.dropZeros ds with
  -- Not all digits are zeros, since the first one is not.
  | nil =>
    have hmem : c ∈ List.replicate k '0' := by
      rw [hds, List.nil_append] at hk
      rw [← hk, hcs]
      exact List.mem_cons_self
    exact absurd (List.eq_of_mem_replicate hmem) hc
  | cons b bs =>
    rw [hds, hcs] at hk
    cases hk
    exact ⟨c, bs, rfl, hc⟩

end ApiOutline.Number

namespace ApiOutline.Json

open Number (Binary64 Format IsFinite Significant digits isDigit digitChar maxDigits)

/-! ## Whole numbers -/

/-- Whether a text does not go on with a part of a number. -/
def Stops (rest : List Char) : Prop :=
  ∀ c, rest.head? = some c → isDigit c = false ∧ c ≠ '.' ∧ c ≠ 'e' ∧ c ≠ 'E'

/-- No fraction is read where no number goes on. -/
theorem readFraction_of_stops {rest : List Char} (hrest : Stops rest) : readFraction rest = none := by
  cases rest with
  | nil => rfl
  | cons c cs =>
    have hc := (hrest c rfl).2.1
    simp [readFraction, hc]

/-- No exponent is read where no number goes on. -/
theorem readExponent_of_stops {rest : List Char} (hrest : Stops rest) : readExponent rest = none := by
  cases rest with
  | nil => rfl
  | cons c cs =>
    have hc := (hrest c rfl).2.2
    simp [readExponent, hc]

/-- Digits before the point are read as they are. A zero among them stands alone. -/
theorem readWhole_append {ds rest : List Char} (hds : ds = ['0'] ∨ Significant ds)
    (hrest : ∀ c ∈ rest.head?, isDigit c = false) : readWhole (ds ++ rest) = some (ds, rest) := by
  obtain rfl | hds := hds
  · rfl
  · obtain ⟨htake, hdrop⟩ := Number.takeWhile_isDigit hds.isDigit hrest
    obtain ⟨c, cs, rfl, hc⟩ := hds.head
    -- The first digit is no zero, so the digits are taken one by one.
    rw [readWhole.eq_def]
    split
    · next heq =>
      cases heq
      exact absurd rfl hc
    · rw [htake, hdrop]
      rfl

/-- A written number is a zero or starts with another digit. -/
theorem digits_eq_zero_or_significant (n : Nat) : digits n = ['0'] ∨ Significant (digits n) := by
  obtain rfl | hn := Nat.eq_zero_or_pos n
  · exact .inl (by rw [digits]; rfl)
  · exact .inr (Number.significant_digits (by omega))

/-- What reading a whole number gives: the fault of too many digits, or the number. -/
def wholeNumber (negative : Bool) (n : Nat) (rest : List Char) : Except Fault (Json × List Char) :=
  if maxDigits < (digits n).length then .error (.tooManyDigits ⟨(digits n).length⟩)
  else .ok (.int (if negative then -(n : Int) else n), rest)

/-- A written number is read back, or refused for its length. -/
theorem readNumber_digits (negative : Bool) (n : Nat) {rest : List Char} (hrest : Stops rest) :
    readNumber negative (digits n ++ rest) = wholeNumber negative n rest := by
  rw [readNumber, readWhole_append (digits_eq_zero_or_significant n) fun c hc => (hrest c hc).1]
  simp only [readFraction_of_stops hrest, readExponent_of_stops hrest, Option.getD_none, if_true,
    Number.limitedValue, wholeNumber, Number.value_digits]
  split_ifs <;> rfl

/-- A value that starts with a digit is a number. -/
theorem readValue_of_isDigit (fuel : Nat) {c : Char} (hc : isDigit c = true) (cs : List Char) :
    readValue (fuel + 1) (c :: cs) = readNumber false (c :: cs) := by
  obtain ⟨d, hd, rfl⟩ := Number.exists_eq_digitChar hc
  interval_cases d <;> rfl

/-- A value that starts with a sign and a digit is a negative number. -/
theorem readValue_sign (fuel : Nat) {c : Char} (hc : isDigit c = true) (cs : List Char) :
    readValue (fuel + 1) ('-' :: c :: cs) = readNumber true (c :: cs) := by
  obtain ⟨d, hd, rfl⟩ := Number.exists_eq_digitChar hc
  interval_cases d <;> rfl

/-! ## Decimals -/

/-- A number with a fraction or an exponent is read as a decimal. -/
theorem readNumber_decimal {negative : Bool} {cs whole fraction rest after last : List Char}
    {exponent : Int} (hwhole : readWhole cs = some (whole, rest))
    (hfraction : (readFraction rest).getD ([], rest) = (fraction, after))
    (hexponent : (readExponent after).getD (0, after) = (exponent, last))
    (hlast : last.length < rest.length) :
    readNumber negative cs =
      .ok (.float (Binary64.ofDecimal negative (Number.value (whole ++ fraction))
        (exponent - fraction.length)), last) := by
  rw [readNumber, hwhole]
  simp only [hfraction, hexponent]
  rw [if_neg hlast.ne]

/-- Digits after a point are read as a fraction. -/
theorem readFraction_point {fraction rest : List Char} (hfraction : ∀ c ∈ fraction, isDigit c = true)
    (hne : fraction ≠ []) (hrest : ∀ c ∈ rest.head?, isDigit c = false) :
    readFraction ('.' :: (fraction ++ rest)) = some (fraction, rest) := by
  obtain ⟨htake, hdrop⟩ := Number.takeWhile_isDigit hfraction hrest
  have hempty : fraction.isEmpty = false := List.isEmpty_eq_false_iff.2 hne
  simp [readFraction, htake, hdrop, hempty]

/-- Digits after an exponent's mark and sign are read as the exponent. -/
theorem readExponent_mark {e : ℤ} {size rest : List Char} (hsize : ∀ c ∈ size, isDigit c = true)
    (hne : size ≠ []) (hvalue : Number.value size = e.natAbs)
    (hrest : ∀ c ∈ rest.head?, isDigit c = false) :
    readExponent ('e' :: (if e < 0 then '-' else '+') :: (size ++ rest)) = some (e, rest) := by
  obtain ⟨htake, hdrop⟩ := Number.takeWhile_isDigit hsize hrest
  have hempty : size.isEmpty = false := List.isEmpty_eq_false_iff.2 hne
  split
  case isTrue h => simp [readExponent, htake, hdrop, hempty, hvalue, abs_of_neg h]
  case isFalse h => simp [readExponent, htake, hdrop, hempty, hvalue, abs_of_nonneg (not_lt.1 h)]

/-- A text is read as a decimal of the given size, whatever sign stands before it. -/
structure IsDecimal (text : List Char) (size : ℚ) : Prop where
  head : ∃ c cs, text = c :: cs ∧ isDigit c = true
  read : ∀ (negative : Bool) {rest : List Char}, Stops rest → ∃ (d : ℕ) (f : ℤ),
    readNumber negative (text ++ rest) = .ok (.float (Binary64.ofDecimal negative d f), rest) ∧
      (d : ℚ) * 10 ^ f = size

/-- What stands before the point starts with a digit. -/
theorem head_of_whole {ds : List Char} (hds : ds = ['0'] ∨ Significant ds) :
    ∃ c cs, ds = c :: cs ∧ isDigit c = true := by
  obtain rfl | hds := hds
  · exact ⟨'0', [], rfl, rfl⟩
  · obtain ⟨c, cs, rfl, -⟩ := hds.head
    exact ⟨c, cs, rfl, hds.isDigit c List.mem_cons_self⟩

/-- Digits around a point are a decimal. -/
theorem isDecimal_point {whole fraction : List Char} (hwhole : whole = ['0'] ∨ Significant whole)
    (hfraction : ∀ c ∈ fraction, isDigit c = true) (hne : fraction ≠ []) :
    IsDecimal (whole ++ '.' :: fraction)
      (Number.value (whole ++ fraction) * 10 ^ (-(fraction.length : ℤ))) := by
  refine ⟨?_, fun negative rest hrest => ⟨_, _, ?_, rfl⟩⟩
  · obtain ⟨c, cs, rfl, hc⟩ := head_of_whole hwhole
    exact ⟨c, _, rfl, hc⟩
  · -- The fraction takes the digits after the point, and then no exponent is found.
    have hread : (readFraction ('.' :: (fraction ++ rest))).getD ([], '.' :: (fraction ++ rest)) =
        (fraction, rest) := by
      rw [readFraction_point hfraction hne fun c hc => (hrest c hc).1]
      rfl
    have hexponent : (readExponent rest).getD (0, rest) = (0, rest) := by
      rw [readExponent_of_stops hrest]
      rfl
    rw [List.append_assoc, List.cons_append, ← zero_sub]
    refine readNumber_decimal (readWhole_append hwhole ?_) hread hexponent ?_
    · rintro c ⟨⟩
      rfl
    · rw [List.length_cons, List.length_append]
      omega

/-- Digits with an exponent are a decimal, with a fraction or without one. -/
theorem isDecimal_exponent {whole fraction point size : List Char} {e : ℤ} (hwhole : Significant whole)
    (hfraction : ∀ c ∈ fraction, isDigit c = true)
    (hpoint : fraction = [] ∧ point = [] ∨ fraction ≠ [] ∧ point = '.' :: fraction)
    (hsize : ∀ c ∈ size, isDigit c = true) (hne : size ≠ []) (hvalue : Number.value size = e.natAbs) :
    IsDecimal (whole ++ (point ++ 'e' :: (if e < 0 then '-' else '+') :: size))
      (Number.value (whole ++ fraction) * 10 ^ (e - fraction.length)) := by
  refine ⟨?_, fun negative rest hrest => ⟨_, _, ?_, rfl⟩⟩
  · obtain ⟨c, cs, rfl, hc⟩ := head_of_whole (.inr hwhole)
    exact ⟨c, _, rfl, hc⟩
  · -- From the mark on the text is read as the exponent; before it the fraction is read, if there is one.
    generalize htail : 'e' :: (if e < 0 then '-' else '+') :: (size ++ rest) = tail
    have hmark : ∀ c ∈ tail.head?, isDigit c = false := by
      rw [← htail]
      rintro c ⟨⟩
      rfl
    have hexponent : (readExponent tail).getD (0, tail) = (e, rest) := by
      rw [← htail, readExponent_mark hsize hne hvalue fun c hc => (hrest c hc).1]
      rfl
    have hread : (readFraction (point ++ tail)).getD ([], point ++ tail) = (fraction, tail) := by
      obtain ⟨rfl, rfl⟩ | ⟨hne, rfl⟩ := hpoint
      · rw [← htail]
        rfl
      · rw [List.cons_append, readFraction_point hfraction hne hmark]
        rfl
    have hstop : ∀ c ∈ (point ++ tail).head?, isDigit c = false := by
      obtain ⟨rfl, rfl⟩ | ⟨hne, rfl⟩ := hpoint
      · exact hmark
      · rintro c ⟨⟩
        rfl
    rw [List.append_assoc, List.append_assoc, List.cons_append, List.cons_append, htail]
    refine readNumber_decimal (readWhole_append (.inr hwhole) hstop) hread hexponent ?_
    rw [← htail, List.length_append, List.length_cons, List.length_cons, List.length_append]
    omega

/-- Digits without an exponent, for a magnitude of zero or less: zeros stand before them. -/
theorem isDecimal_small {ds : List Char} (hds : Significant ds) {p : ℤ} (hp : p ≤ 0) :
    IsDecimal ("0.".toList ++ List.replicate (-p).toNat '0' ++ ds)
      (Number.value ds * 10 ^ (p - ds.length)) := by
  obtain ⟨k, rfl⟩ : ∃ k : ℕ, p = -k := ⟨(-p).toNat, by omega⟩
  have hzeros : ∀ c ∈ List.replicate k '0' ++ ds, isDigit c = true :=
    List.forall_mem_append.2 ⟨Number.isDigit_zeros k, hds.isDigit⟩
  have hne : List.replicate k '0' ++ ds ≠ [] := by
    obtain ⟨c, cs, rfl, -⟩ := hds.head
    simp
  have h := isDecimal_point (.inl rfl) hzeros hne
  have hvalue : Number.value (['0'] ++ (List.replicate k '0' ++ ds)) = Number.value ds := by
    rw [← List.append_assoc, Number.value_append, ← List.replicate_one, ← List.replicate_add,
      Number.value_replicate_zero, zero_mul, zero_add]
  have hlength : -((List.replicate k '0' ++ ds).length : ℤ) = -k - ds.length := by
    rw [List.length_append, List.length_replicate]
    omega
  rw [hvalue, hlength] at h
  rw [neg_neg, Int.toNat_natCast, List.append_assoc]
  exact h

/-- Digits without an exponent, for a positive magnitude: they go on over the point, or zeros fill
up to it. -/
theorem isDecimal_large {ds : List Char} (hds : Significant ds) {n : ℕ} (hn : 0 < n) :
    IsDecimal ((ds ++ List.replicate (n - ds.length) '0').take n ++
        '.' :: (if ((ds ++ List.replicate (n - ds.length) '0').drop n).isEmpty then ['0']
          else (ds ++ List.replicate (n - ds.length) '0').drop n))
      (Number.value ds * 10 ^ ((n : ℤ) - ds.length)) := by
  obtain hle | hlt := le_or_gt ds.length n
  · -- The digits end at the point or before it, and a zero is written after it.
    obtain ⟨k, rfl⟩ := Nat.exists_eq_add_of_le hle
    have hlength : (ds ++ List.replicate k '0').length = ds.length + k := by
      rw [List.length_append, List.length_replicate]
    have hsize : (Number.value (ds ++ List.replicate k '0' ++ ['0']) : ℚ) * 10 ^ (-1 : ℤ) =
        Number.value ds * 10 ^ (((ds.length + k : ℕ) : ℤ) - ds.length) := by
      rw [List.append_assoc, ← List.replicate_succ', Number.value_append, Number.value_replicate_zero,
        List.length_replicate, add_zero, Nat.cast_add, add_sub_cancel_left, zpow_natCast]
      push_cast
      rw [pow_succ, zpow_neg_one]
      ring
    rw [Nat.add_sub_cancel_left, List.take_of_length_le hlength.le, List.drop_of_length_le hlength.le,
      ← hsize]
    exact isDecimal_point (.inr (hds.append_zeros k)) (List.forall_mem_singleton.2 rfl) (by simp)
  · have hdrop : ds.drop n ≠ [] := by
      rw [ne_eq, List.drop_eq_nil_iff]
      omega
    have h := isDecimal_point (.inr (hds.take hn))
      (fun c hc => hds.isDigit c (List.mem_of_mem_drop hc)) hdrop
    rw [List.take_append_drop, List.length_drop, Nat.cast_sub hlt.le, neg_sub] at h
    rw [Nat.sub_eq_zero_of_le hlt.le, List.replicate_zero, List.append_nil,
      if_neg (by simpa using hlt)]
    exact h

/-- Digits with an exponent: the point stands after the first of them. -/
theorem isDecimal_scientific {ds : List Char} (hds : Significant ds) (p : ℤ) (width : ℕ) :
    IsDecimal (ds.take 1 ++ (if ds.length ≤ 1 then [] else '.' :: ds.drop 1) ++
        'e' :: (if p - 1 < 0 then '-' else '+') ::
          List.replicate (width - (digits (p - 1).natAbs).length) '0' ++ digits (p - 1).natAbs)
      (Number.value ds * 10 ^ (p - ds.length)) := by
  generalize width - (digits (p - 1).natAbs).length = k
  -- The exponent may be filled up with zeros, which change no value.
  have hsize : ∀ c ∈ List.replicate k '0' ++ digits (p - 1).natAbs, isDigit c = true :=
    List.forall_mem_append.2 ⟨Number.isDigit_zeros k, fun _ hc => Number.isDigit_of_mem_digits hc⟩
  have hvalue : Number.value (List.replicate k '0' ++ digits (p - 1).natAbs) = (p - 1).natAbs := by
    rw [Number.value_append, Number.value_replicate_zero, zero_mul, zero_add, Number.value_digits]
  -- There is a point exactly if there is more than one digit.
  have hpoint : ds.drop 1 = [] ∧ (if ds.length ≤ 1 then [] else '.' :: ds.drop 1) = [] ∨
      ds.drop 1 ≠ [] ∧ (if ds.length ≤ 1 then [] else '.' :: ds.drop 1) = '.' :: ds.drop 1 := by
    rw [ne_eq, List.drop_eq_nil_iff]
    split
    case isTrue h => exact .inl ⟨h, rfl⟩
    case isFalse h => exact .inr ⟨h, rfl⟩
  have hexponent : p - 1 - ((ds.drop 1).length : ℤ) = p - ds.length := by
    obtain ⟨c, cs, rfl, -⟩ := hds.head
    rw [List.drop_one, List.tail_cons, List.length_cons]
    omega
  have h := isDecimal_exponent (hds.take one_pos)
    (fun c hc => hds.isDigit c (List.mem_of_mem_drop hc)) hpoint hsize
    (List.append_ne_nil_of_right_ne_nil _ (Number.digits_ne_nil _)) hvalue
  rw [List.take_append_drop, hexponent] at h
  simpa only [List.append_assoc, List.cons_append] using h

/-- Digits are laid out as the decimal with a point before the first of them and their magnitude as
exponent. -/
theorem isDecimal_layout (format : Format) {ds : List Char} (hds : Significant ds) (p : ℤ) :
    IsDecimal (format.layout ds p) (Number.value ds * 10 ^ (p - ds.length)) := by
  unfold Format.layout
  split
  · split
    case isTrue hp => exact isDecimal_small hds hp
    case isFalse hp =>
      obtain ⟨n, rfl⟩ := Int.eq_ofNat_of_zero_le (show 0 ≤ p by omega)
      exact isDecimal_large hds (by omega)
  · exact isDecimal_scientific hds p format.exponentWidth

/-! ## Floating-point numbers -/

/-- The digits of the shortest decimal are laid out as a decimal that rounds to the number. -/
theorem near_layout_shortest (format : Format) {m : ℕ} {e : ℤ} (h : IsFinite m e) (hm : 0 < m) :
    ∃ size, Number.Near m e size ∧
      IsDecimal (format.layout (Number.dropZeros (digits (Number.shortest m e).1))
        ((digits (Number.shortest m e).1).length + (Number.shortest m e).2)) size := by
  have hnear := Number.near_shortest h hm
  generalize (Number.shortest m e).1 = d at *
  generalize (Number.shortest m e).2 = f at *
  -- Nothing that is near to a positive number is zero.
  have hd : d ≠ 0 := by
    rintro rfl
    exact (hnear.pos hm).ne' (by rw [Nat.cast_zero, zero_mul])
  refine ⟨_, ?_, isDecimal_layout format (Number.significant_digits hd).dropZeros _⟩
  -- The zeros that are dropped from the digits count in the exponent.
  obtain ⟨k, hk⟩ := Number.exists_eq_dropZeros_append (digits d)
  have hvalue : (d : ℚ) = Number.value (Number.dropZeros (digits d)) * 10 ^ (k : ℤ) := by
    have := congrArg Number.value hk
    rw [Number.value_digits, Number.value_append, Number.value_replicate_zero, List.length_replicate,
      add_zero] at this
    exact_mod_cast this
  have hlength : ((digits d).length : ℤ) + f - (Number.dropZeros (digits d)).length = k + f := by
    have := congrArg List.length hk
    rw [List.length_append, List.length_replicate] at this
    omega
  rw [hlength, zpow_add₀ (by norm_num), ← mul_assoc, ← hvalue]
  exact hnear

/-- A finite number is read back from what is written for it after its sign. -/
theorem exists_write_finite (format : Format) {m : ℕ} {e : ℤ} (h : IsFinite m e) :
    ∃ text size, (∀ negative, format.write (.finite negative m e) =
        (if negative then ['-'] else []) ++ text) ∧ IsDecimal text size ∧
      ∀ (negative : Bool) (d : ℕ) (f : ℤ), (d : ℚ) * 10 ^ f = size →
        Binary64.ofDecimal negative d f = .finite negative m e := by
  obtain rfl | hm := Nat.eq_zero_or_pos m
  · -- Zero has the least exponent.
    have he : e = Binary64.minExponent := h.normal.resolve_left (by norm_num)
    refine ⟨"0.0".toList, 0, fun negative => rfl, ?_, ?_⟩
    · have hdigit : ∀ c ∈ ['0'], isDigit c = true := List.forall_mem_singleton.2 rfl
      have hzero := isDecimal_point (.inl rfl) hdigit (by simp)
      rwa [← List.replicate_one, ← List.replicate_add, Number.value_replicate_zero, Nat.cast_zero,
        zero_mul] at hzero
    · intro negative d f hsize
      have hd : d = 0 := by
        have : (10 : ℚ) ^ f ≠ 0 := zpow_ne_zero f (by norm_num)
        exact_mod_cast (mul_eq_zero.1 hsize).resolve_right this
      rw [hd, Binary64.ofDecimal, if_pos rfl, he]
      rfl
  · obtain ⟨size, hnear, hdecimal⟩ := near_layout_shortest format h hm
    refine ⟨_, size, fun negative => ?_, hdecimal, ?_⟩
    · rw [Format.write, if_neg hm.ne']
    · rintro negative d f rfl
      exact Binary64.ofDecimal_of_near h hm hnear negative

/-- A floating-point number starts with a digit, a sign or a letter. -/
theorem write_eq_cons {x : Binary64} (hx : x.Proper) :
    ∃ c cs, numberFormat.write x = c :: cs ∧ isSpace c = false ∧ c ≠ ']' := by
  cases x with
  | nan => exact ⟨'N', _, rfl, by decide⟩
  | infinite negative => cases negative <;> exact ⟨_, _, rfl, by decide⟩
  | finite negative m e =>
    obtain ⟨text, size, hwrite, hdecimal, -⟩ := exists_write_finite numberFormat hx
    rw [hwrite]
    cases negative with
    | false =>
      obtain ⟨c, cs, rfl, hc⟩ := hdecimal.head
      refine ⟨c, cs, rfl, ?_⟩
      obtain ⟨d, hd, rfl⟩ := Number.exists_eq_digitChar hc
      interval_cases d <;> decide
    | true => exact ⟨'-', text, rfl, by decide⟩

/-- A floating-point number is read back. -/
theorem readValue_write {x : Binary64} (hx : x.Proper) (fuel : Nat) {rest : List Char}
    (hrest : Stops rest) :
    readValue (fuel + 1) (numberFormat.write x ++ rest) = .ok (.float x, rest) := by
  cases x with
  | nan => rfl
  | infinite negative => cases negative <;> rfl
  | finite negative m e =>
    obtain ⟨text, size, hwrite, hdecimal, hround⟩ := exists_write_finite numberFormat hx
    -- The text is read as a decimal of that size, which rounds to the number.
    obtain ⟨d, f, hread, hsize⟩ := hdecimal.read negative hrest
    obtain ⟨c, cs, rfl, hc⟩ := hdecimal.head
    rw [hwrite, ← hround negative d f hsize, ← hread]
    cases negative with
    | false => exact readValue_of_isDigit fuel hc (cs ++ rest)
    | true => exact readValue_sign fuel hc (cs ++ rest)

end ApiOutline.Json
