import SchemaChange.Number.Binary64

/-! # The shortest decimal text of a number

Of the decimal numbers that round to a given number, the text has one with the fewest digits, and of those the nearest
one. It is positional from 0.0001 up to sixteen digits before the point, and has an exponent otherwise.
-/
namespace SchemaChange

namespace Binary64

/-- Decimal digits and where the point stands: so many digits from the left, or to the left of the digits. -/
structure Decimal where
  digits : List Char
  point : Int
  deriving DecidableEq, Repr

/-- The exact value of a significand and an exponent, and the ends of the range of values that round to it, in
quarters of the last place: numerators over one denominator. Below a power of two the range is narrower. -/
structure Rounding where
  value : Nat
  below : Nat
  above : Nat
  den : Nat
  closed : Bool

def roundingOf (m : Nat) (q : Int) : Rounding :=
  let (unit, den) := scaled 1 4 q
  let narrow := 2 * m = significandBound && leastExponent < q
  ⟨4 * m * unit, (4 * m - if narrow then 1 else 2) * unit, (4 * m + 2) * unit, den, m % 2 = 0⟩

namespace Rounding

/-- Whether a whole number times a power of ten rounds to the value. -/
def holds (r : Rounding) (n : Nat) (power : Int) : Bool :=
  let (n, d) := if 0 ≤ power then (n * Nat.pow 10 power.toNat, 1) else (n, Nat.pow 10 (-power).toNat)
  let left := r.below * d
  let middle := n * r.den
  let right := r.above * d
  (left < middle && middle < right) || (r.closed && (left = middle || middle = right))

/-- The value in units of a power of ten: the whole part, the rest and what the rest is a part of. -/
def inUnits (r : Rounding) (power : Int) : Nat × Nat × Nat :=
  let (n, d) :=
    if 0 ≤ power then (r.value, r.den * Nat.pow 10 power.toNat) else (r.value * Nat.pow 10 (-power).toNat, r.den)
  (n / d, n % d, d)

/-- The number of digits before the point; for a value below a tenth it counts the zeros after the point, negatively.
The guess is at most one too small. -/
def pointFrom (r : Rounding) (guess : Int) : Nat → Int
  | 0 => guess
  | more + 1 => if (r.inUnits guess).1 = 0 then guess else pointFrom r (guess + 1) more

/-- The whole number of units of a power of ten that is nearest to the value among those that round to it. -/
def nearest? (r : Rounding) (power : Int) : Option Nat :=
  let (whole, rest, part) := r.inUnits power
  let upFirst := part < 2 * rest || (part = 2 * rest && whole % 2 = 1)
  (if upFirst then [whole + 1, whole] else [whole, whole + 1]).find? (r.holds · power)

/-- The first number of digits, from a given one on, with which some decimal number rounds to the value. -/
def shortestFrom (r : Rounding) (point : Int) (count : Nat) : Nat → Decimal
  | 0 => ⟨[], point⟩
  | more + 1 =>
    match r.nearest? (point - count) with
    | some n =>
      let digits := (toString n).toList
      ⟨(digits.reverse.dropWhile (· = '0')).reverse, point - count + digits.length⟩
    | none => shortestFrom r point (count + 1) more

end Rounding

/-- The shortest digits of a number other than zero. Seventeen always suffice. -/
def shortest (m : Nat) (q : Int) : Decimal :=
  let r := roundingOf m q
  let guess := Int.fdiv (((m.log2 : Int) + q) * 30103) 100000
  r.shortestFrom (r.pointFrom (guess - 1) 4) 1 17

/-- The exponent after the mark `e`: a sign and at least two digits. -/
def exponentText (e : Int) : List Char :=
  let digits := (toString e.natAbs).toList
  'e' :: (if e < 0 then '-' else '+') :: (if digits.length < 2 then '0' :: digits else digits)

def Decimal.text (d : Decimal) : List Char :=
  if -4 < d.point ∧ d.point ≤ 16 then
    if d.point ≤ 0 then "0.".toList ++ List.replicate (-d.point).toNat '0' ++ d.digits
    else
      let n := d.point.toNat
      if d.digits.length ≤ n then d.digits ++ List.replicate (n - d.digits.length) '0' ++ ".0".toList
      else d.digits.take n ++ '.' :: d.digits.drop n
  else
    d.digits.take 1 ++ (if d.digits.length = 1 then [] else '.' :: d.digits.drop 1) ++ exponentText (d.point - 1)

def text : Binary64 → String
  | finite negative m q =>
    (if negative then "-" else "") ++ if m = 0 then "0.0" else String.ofList (shortest m q).text
  | infinite negative => if negative then "-inf" else "inf"
  | undefined => "nan"

end Binary64

end SchemaChange
