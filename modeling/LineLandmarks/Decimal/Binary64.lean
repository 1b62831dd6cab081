/-!
# Binary floating-point numbers of 64 bits

The values of the format binary64 as exact integers and powers of two, and the rounding of a
decimal number to the nearest of them, an exact half going to the even mantissa.

The text of a value has the fewest digits that read back as it, of those the nearest to it, the
greater one where two are equally near. The digits are laid out by position, however many zeros that
takes, and there is always a point with a digit after it.
-/

namespace LineLandmarks.Decimal

/-- A value of the format; `finite negative m q` has the magnitude `m * 2 ^ q`. -/
inductive Binary64 where
  | nan
  | infinite (negative : Bool)
  | finite (negative : Bool) (mantissa : Nat) (exponent : Int)
  deriving DecidableEq, Repr, Inhabited

/-- The quotient `num / den` rounded to the nearest integer, a half to the even one. -/
def roundHalfEven (num den : Nat) : Nat :=
  let q := num / den
  let r := num % den
  if 2 * r < den then q
  else if den < 2 * r then q + 1
  else q + q % 2

/-- The quotient `num / den * 2 ^ e`, as numerator and denominator. -/
def scaleByTwo (num den : Nat) (e : Int) : Nat × Nat :=
  if 0 ≤ e then (num * Nat.pow 2 e.toNat, den) else (num, den * Nat.pow 2 (-e).toNat)

/-- The quotient `num / den * 10 ^ e`, as numerator and denominator. -/
def scaleByTen (num den : Nat) (e : Int) : Nat × Nat :=
  if 0 ≤ e then (num * Nat.pow 10 e.toNat, den) else (num, den * Nat.pow 10 (-e).toNat)

/-- The greatest `e` with `2 ^ e ≤ num / den`, for a positive quotient. -/
def log2Quotient (num den : Nat) : Int :=
  let guess : Int := (num.log2 : Int) - (den.log2 : Int)
  let (n, d) := scaleByTwo num den (-guess)
  if d ≤ n then guess else guess - 1

namespace Binary64

/-- The mantissas of `finite` values are below `2 ^ 53`. -/
def mantissaBound : Nat := Nat.pow 2 53

/-- The least exponent of a `finite` value. -/
def minExponent : Int := -1074

/-- The greatest exponent of a `finite` value. -/
def maxExponent : Int := 971

/-- The value nearest to the positive quotient `num / den`, or to its negative. -/
def ofQuotient (negative : Bool) (num den : Nat) : Binary64 :=
  let q := max (log2Quotient num den - 52) minExponent
  let (n, d) := scaleByTwo num den (-q)
  let m := roundHalfEven n d
  let (m, q) := if m = mantissaBound then (m / 2, q + 1) else (m, q)
  if maxExponent < q then infinite negative else finite negative m q

/-- No decimal with an exponent above `decimalBound` is finite, none below `-decimalBound` is above
half of the least positive value. -/
def decimalBound : Int := 400

/-- The value nearest to `digits * 10 ^ exponent`, or to its negative. -/
def ofDecimal (negative : Bool) (digits : Nat) (exponent : Int) : Binary64 :=
  if digits = 0 then finite negative 0 minExponent
  else if decimalBound < exponent then infinite negative
  else if (digits.log2 : Int) / 3 + 2 + exponent < -decimalBound then
    finite negative 0 minExponent
  else
    let (num, den) := scaleByTen digits 1 exponent
    ofQuotient negative num den

end Binary64

/-! ## Shortest decimals -/

/-- How many decimal digits `n` has. -/
def digitCount (n : Nat) : Nat :=
  (Nat.toDigits 10 n).length

/-- The greatest `e` with `10 ^ e ≤ num / den`, for a positive quotient. -/
def log10Quotient (num den : Nat) : Int :=
  if den ≤ num then (digitCount (num / den) : Int) - 1
  else -(digitCount ((den + num - 1) / num - 1) : Int)

/-- The numbers that round to a value: four times the value's mantissa as the `middle`, the two ends
`low` and `high` of the interval, all in quarters of its last place, and whether the ends belong to
it. -/
structure RoundingInterval where
  low : Nat
  middle : Nat
  high : Nat
  closed : Bool
  deriving DecidableEq, Repr

namespace RoundingInterval

/-- The interval of `m * 2 ^ q`; below a power of two the neighbours lie twice as close. -/
def ofFinite (m : Nat) (q : Int) : RoundingInterval where
  low := if m = Nat.pow 2 52 ∧ Binary64.minExponent < q then 4 * m - 1 else 4 * m - 2
  middle := 4 * m
  high := 4 * m + 2
  closed := m % 2 = 0

/-- The number `num / den`, in the interval's unit, belongs to `i`. -/
def contains (i : RoundingInterval) (num den : Nat) : Bool :=
  if i.closed then i.low * den ≤ num && num ≤ i.high * den
  else i.low * den < num && num < i.high * den

end RoundingInterval

/-- The decimal with a last place of `10 ^ k` that is nearest to `m * 2 ^ q` among those that read
back as it, if there is one next to the value. -/
def onGrid? (m : Nat) (q : Int) (k : Int) : Option Nat :=
  let i := RoundingInterval.ofFinite m q
  -- one step of the grid in quarters of the value's last place, as a quotient
  let (n, d) := scaleByTwo 1 1 (2 - q)
  let (n, d) := scaleByTen n d k
  let below := i.middle * d / n
  let fits (x : Nat) : Bool := i.contains (x * n) d
  let nearer : Bool := i.middle * d - below * n < (below + 1) * n - i.middle * d
  match fits below, fits (below + 1) with
  | true, true => some (if nearer then below else below + 1)
  | true, false => some below
  | false, true => some (below + 1)
  | false, false => none

/-- The first decimal that `onGrid?` finds when the last place moves down from `10 ^ k`, at most as
many times as the last argument says. -/
def firstOnGrid (m : Nat) (q : Int) (k : Int) : Nat → Nat × Int
  | 0 => ((onGrid? m q k).getD 0, k)
  | more + 1 =>
    match onGrid? m q k with
    | some digits => (digits, k)
    | none => firstOnGrid m q (k - 1) more

/-- Digits and exponent of the shortest decimal that reads back as `m * 2 ^ q`. The first grid is
one place above the value's leading digit, for values just below a power of ten. -/
def shortest (m : Nat) (q : Int) : Nat × Int :=
  let (num, den) := scaleByTwo m 1 q
  firstOnGrid m q (log10Quotient num den + 1) 18

/-- The decimal `digits * 10 ^ exponent` laid out by position. -/
def positional (digits : Nat) (exponent : Int) : String :=
  let ds := Nat.toDigits 10 digits
  if 0 ≤ exponent then
    String.ofList (ds ++ List.replicate exponent.toNat '0' ++ ['.', '0'])
  else
    let places := (-exponent).toNat
    let padded := List.replicate (places + 1 - ds.length) '0' ++ ds
    let whole := padded.take (padded.length - places)
    String.ofList (whole ++ '.' :: padded.drop (padded.length - places))

namespace Binary64

/-- The shortest `text` of a value. -/
def text : Binary64 → String
  | nan => "NaN"
  | infinite negative => if negative then "-inf" else "inf"
  | finite negative m q =>
    let sign := if negative then "-" else ""
    if m = 0 then sign ++ "0.0"
    else
      let (digits, exponent) := shortest m q
      sign ++ positional digits exponent

end Binary64

end LineLandmarks.Decimal
