import ApiOutline.Number.Binary64
import ApiOutline.Number.Decimal

/-!
# The shortest decimal of a floating-point number

`shortest` finds the fewest significant digits that read back as the number, and of those the
nearest. It tries grids of 1, 2, … digits and tests the two neighbours of the number on each, in
exact arithmetic. `Format` says how digits and exponent become text.
-/

namespace ApiOutline.Number

/-- The rational `num / den`, with a positive denominator. -/
structure Ratio where
  num : Nat
  den : Nat

/-- `a ≤ b` as rationals. -/
def Ratio.le (a b : Ratio) : Bool :=
  a.num * b.den ≤ b.num * a.den

/-- `a < b` as rationals. -/
def Ratio.lt (a b : Ratio) : Bool :=
  a.num * b.den < b.num * a.den

/-- `n · base^e`. -/
def Ratio.scaled (n base : Nat) (e : Int) : Ratio :=
  if 0 ≤ e then ⟨n * base.pow e.toNat, 1⟩ else ⟨n, base.pow (-e).toNat⟩

/-- The interval of rationals that round to a finite number, and whether its ends belong to it. -/
structure Basin where
  value : Ratio
  low : Ratio
  high : Ratio
  closed : Bool

/-- The basin of `m · 2^e`. Below a power of two the numbers lie twice as close. -/
def Basin.of (m : Nat) (e : Int) : Basin where
  value := .scaled m 2 e
  low :=
    if m = 1 <<< 52 ∧ Binary64.minExponent < e then .scaled (4 * m - 1) 2 (e - 2)
    else .scaled (2 * m - 1) 2 (e - 1)
  high := .scaled (2 * m + 1) 2 (e - 1)
  closed := m % 2 = 0

/-- Whether a rational rounds to the number. -/
def Basin.has (b : Basin) (r : Ratio) : Bool :=
  if b.closed then b.low.le r && r.le b.high else b.low.lt r && r.lt b.high

/-- The least `p` from `start` on with `r < 10^p`. -/
def magnitude (r : Ratio) : (fuel : Nat) → (start : Int) → Int
  | 0, p => p
  | fuel + 1, p => if r.lt (.scaled 1 10 p) then p else magnitude r fuel (p + 1)

/-- The neighbour of the number on the grid of multiples of `10^e` that rounds to it: the nearer one
of two, the even one of two equally near. -/
def Basin.onGrid (b : Basin) (e : Int) : Option Nat :=
  let unit := Ratio.scaled 1 10 e
  let num := b.value.num * unit.den
  let den := b.value.den * unit.num
  let below := num / den
  let nearest := roundQuotient num den
  let other := if nearest = below then below + 1 else below
  if b.has (.scaled nearest 10 e) then some nearest
  else if b.has (.scaled other 10 e) then some other
  else none

/-- Search grids of `count`, `count + 1`, … digits; `p` is the magnitude of the number. -/
def Basin.search (b : Basin) (p : Int) : (fuel count : Nat) → Nat × Int
  | 0, count => (b.value.num / b.value.den, p - count)
  | fuel + 1, count =>
    match b.onGrid (p - count) with
    | some d => (d, p - count)
    | none => b.search p fuel (count + 1)

/-- The shortest decimal `d · 10^e` that reads back as the positive number `m · 2^e`. -/
def shortest (m : Nat) (e : Int) : Nat × Int :=
  let b := Basin.of m e
  b.search (magnitude b.value 700 (-330)) 20 1

/-- How a floating-point number is written. -/
structure Format where
  /-- Magnitudes `p`, as in `0.d₁d₂… · 10^p`, that are written without an exponent. -/
  positional : Int → Bool
  /-- The least number of digits of an exponent. -/
  exponentWidth : Nat
  nan : String
  infinity : String

/-- Digits without trailing zeros, and the zeros dropped. -/
def dropZeros (ds : List Char) : List Char :=
  (ds.reverse.dropWhile (· == '0')).reverse

/-- Digits and magnitude as text. -/
def Format.layout (n : Format) (ds : List Char) (p : Int) : List Char :=
  if n.positional p then
    if p ≤ 0 then "0.".toList ++ List.replicate (-p).toNat '0' ++ ds
    else
      let whole := p.toNat
      let padded := ds ++ List.replicate (whole - ds.length) '0'
      let fraction := padded.drop whole
      padded.take whole ++ '.' :: (if fraction.isEmpty then ['0'] else fraction)
  else
    let e := p - 1
    let mark := if e < 0 then '-' else '+'
    let size := digits e.natAbs
    let mantissa := ds.take 1 ++ (if ds.length ≤ 1 then [] else '.' :: ds.drop 1)
    mantissa ++ 'e' :: mark :: List.replicate (n.exponentWidth - size.length) '0' ++ size

/-- A floating-point number as text. -/
def Format.write (n : Format) : Binary64 → List Char
  | .nan => n.nan.toList
  | .infinite negative => (if negative then ['-'] else []) ++ n.infinity.toList
  | .finite negative m e =>
    let sign := if negative then ['-'] else []
    if m = 0 then sign ++ "0.0".toList
    else
      let (d, f) := shortest m e
      let ds := digits d
      sign ++ n.layout (dropZeros ds) (ds.length + f)

end ApiOutline.Number
