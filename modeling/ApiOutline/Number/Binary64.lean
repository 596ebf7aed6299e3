/-!
# Binary floating-point numbers of 64 bits

A finite number is an integer mantissa times a power of two. Arithmetic is exact on rationals and
rounds once, to the nearest number, a tie to the even mantissa (`ofRatio`).
-/

namespace ApiOutline.Number

/-- A floating-point number. The finite number `finite negative m e` has the value `m · 2^e`, with
`m < 2^53` and `-1074 ≤ e ≤ 971`, and `2^52 ≤ m` unless `e` is the least exponent. -/
inductive Binary64 where
  | nan
  | infinite (negative : Bool)
  | finite (negative : Bool) (mantissa : Nat) (exponent : Int)
deriving DecidableEq, Repr

/-- The nearest integer to `num / den`, a tie to the even one. -/
def roundQuotient (num den : Nat) : Nat :=
  let q := num / den
  let rest := num % den
  if 2 * rest < den then q
  else if den < 2 * rest then q + 1
  else if q % 2 = 0 then q else q + 1

namespace Binary64

/-- The least exponent. -/
def minExponent : Int := -1074

/-- The greatest exponent. -/
def maxExponent : Int := 971

/-- Zero with a sign. -/
def zero (negative : Bool) : Binary64 :=
  .finite negative 0 minExponent

/-- `num · 2^(-e) / den` as a quotient of natural numbers. -/
def scale (num den : Nat) (e : Int) : Nat × Nat :=
  if 0 ≤ e then (num, den <<< e.toNat) else (num <<< (-e).toNat, den)

/-- The number nearest to `num / den` with a sign, where `den` is positive. -/
def ofRatio (negative : Bool) (num den : Nat) : Binary64 :=
  if num = 0 then zero negative
  else
    let k : Int := num.log2 - den.log2
    let (a, b) := scale num den k
    let natural := if b ≤ a then k - 52 else k - 53
    let e := max natural minExponent
    let (a, b) := scale num den e
    let m := roundQuotient a b
    let (m, e) := if m = 1 <<< 53 then (1 <<< 52, e + 1) else (m, e)
    if maxExponent < e then .infinite negative else .finite negative m e

/-- The number nearest to `m · 10^e`. Exponents far outside the range give zero or infinity at
once. -/
def ofDecimal (negative : Bool) (m : Nat) (e : Int) : Binary64 :=
  if m = 0 then zero negative
  else if 400 < e then .infinite negative
  else if e + m.log2 < -1200 then zero negative
  else if 0 ≤ e then ofRatio negative (m * Nat.pow 10 e.toNat) 1
  else ofRatio negative m (Nat.pow 10 (-e).toNat)

/-- The number nearest to an integer. -/
def ofInt (i : Int) : Binary64 :=
  ofRatio (i < 0) i.natAbs 1

/-- Change the sign. -/
def neg : Binary64 → Binary64
  | .nan => .nan
  | .infinite s => .infinite (!s)
  | .finite s m e => .finite (!s) m e

/-- The number nearest to `i · 2^e`; `zeroSign` is the sign of a zero. -/
def ofScaled (zeroSign : Bool) (i : Int) (e : Int) : Binary64 :=
  if i = 0 then zero zeroSign
  else if 0 ≤ e then ofRatio (i < 0) (i.natAbs <<< e.toNat) 1
  else ofRatio (i < 0) i.natAbs (1 <<< (-e).toNat)

/-- A mantissa with its sign. -/
def signed (negative : Bool) (m : Nat) : Int :=
  if negative then -(m : Int) else m

/-- The sum, rounded once. -/
def add : Binary64 → Binary64 → Binary64
  | .nan, _ => .nan
  | _, .nan => .nan
  | .infinite s, .infinite t => if s = t then .infinite s else .nan
  | .infinite s, .finite .. => .infinite s
  | .finite .., .infinite t => .infinite t
  | .finite s m e, .finite t n f =>
    let g := min e f
    let total := signed s (m <<< (e - g).toNat) + signed t (n <<< (f - g).toNat)
    ofScaled (s && t) total g

/-- The product, rounded once. -/
def mul : Binary64 → Binary64 → Binary64
  | .nan, _ => .nan
  | _, .nan => .nan
  | .infinite s, .infinite t => .infinite (s != t)
  | .infinite s, .finite t n _ => if n = 0 then .nan else .infinite (s != t)
  | .finite s m _, .infinite t => if m = 0 then .nan else .infinite (s != t)
  | .finite s m e, .finite t n f =>
    ofScaled (s != t) (signed (s != t) (m * n)) (e + f)

/-- Whether the number is zero. -/
def isZero : Binary64 → Bool
  | .finite _ m _ => m = 0
  | _ => false

/-- The integer that the number equals, if any. -/
def toInt? : Binary64 → Option Int
  | .finite s m e =>
    if 0 ≤ e then some (signed s (m <<< e.toNat))
    else if m % (1 <<< (-e).toNat) = 0 then some (signed s (m >>> (-e).toNat))
    else none
  | _ => none

end Binary64

end ApiOutline.Number
