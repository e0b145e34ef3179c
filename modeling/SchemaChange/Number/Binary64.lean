/-! # Real numbers of double precision

A finite number is a whole significand below 2^53 times a power of two from 2^-1074 on; the significand is at least
2^52 unless the power is the least one, so each number is written in one way. Operations give the number nearest to
the exact result, and of two that are equally near the one with the even significand.
-/
namespace SchemaChange

inductive Binary64 where
  | finite (negative : Bool) (significand : Nat) (exponent : Int)
  | infinite (negative : Bool)
  | undefined
  deriving DecidableEq, Repr, Inhabited

namespace Binary64

/-- The first whole number with too many bits for a significand. -/
def significandBound : Nat := 9007199254740992

def leastExponent : Int := -1074

def greatestExponent : Int := 971

/-- A quotient rounded to the nearest whole number, a half to the even one. -/
def roundDiv (num den : Nat) : Nat :=
  if den < 2 * (num % den) ∨ (den = 2 * (num % den) ∧ num / den % 2 = 1) then num / den + 1 else num / den

/-- The rounded quotient is at most a half away from the exact one. -/
theorem roundDiv_near (num : Nat) {den : Nat} (h : 0 < den) :
    2 * num ≤ 2 * (roundDiv num den * den) + den ∧ 2 * (roundDiv num den * den) ≤ 2 * num + den := by
  have hm : den * (num / den) + num % den = num := Nat.div_add_mod num den
  have hlt : num % den < den := Nat.mod_lt num h
  rw [Nat.mul_comm] at hm
  unfold roundDiv
  split
  · rw [Nat.add_mul]
    omega
  · omega

/-- A quotient times a power of two, as a quotient. -/
def scaled (num den : Nat) (power : Int) : Nat × Nat :=
  if 0 ≤ power then (num * Nat.pow 2 power.toNat, den) else (num, den * Nat.pow 2 (-power).toNat)

/-- The number with a rounded significand, which may have reached the bound. -/
def ofRounded (negative : Bool) (significand : Nat) (exponent : Int) : Binary64 :=
  let (m, q) := if significand = significandBound then (significand / 2, exponent + 1) else (significand, exponent)
  if greatestExponent < q then infinite negative else finite negative m q

def ofRatio (negative : Bool) (num den : Nat) : Binary64 :=
  if num = 0 then finite negative 0 leastExponent
  else
    -- with this exponent the significand is between 2^52 and 2^54, or smaller at the least exponent
    let low : Int := max leastExponent ((num.log2 : Int) - (den.log2 : Int) - 53)
    let (n, d) := scaled num den (-low)
    if significandBound ≤ n / d then ofRounded negative (roundDiv n (2 * d)) (low + 1)
    else ofRounded negative (roundDiv n d) low

/-- The number nearest to a whole number times a power of two. -/
def ofDyadic (negative : Bool) (m : Nat) (power : Int) : Binary64 :=
  let (n, d) := scaled m 1 power
  ofRatio negative n d

def ofInt (n : Int) : Binary64 := ofDyadic (n < 0) n.natAbs 0

/-- The number nearest to decimal digits times a power of ten. Beyond the bounds, which are far outside the range of
finite numbers, the digits do not matter. -/
def ofDecimal (negative : Bool) (digits : List Nat) (exponent : Int) : Binary64 :=
  let digits := digits.dropWhile (· = 0)
  let n := digits.foldl (fun n d => 10 * n + d) 0
  let point : Int := exponent + digits.length
  if digits.isEmpty ∨ point < -400 then finite negative 0 leastExponent
  else if 400 < point then infinite negative
  else if 0 ≤ exponent then ofRatio negative (n * Nat.pow 10 exponent.toNat) 1
  else ofRatio negative n (Nat.pow 10 (-exponent).toNat)

def negate : Binary64 → Binary64
  | finite negative m q => finite (!negative) m q
  | infinite negative => infinite (!negative)
  | undefined => undefined

def isZero : Binary64 → Bool
  | finite _ m _ => m = 0
  | _ => false

def isNegative : Binary64 → Bool
  | finite negative _ _ => negative
  | infinite negative => negative
  | undefined => false

def mul : Binary64 → Binary64 → Binary64
  | undefined, _ => undefined
  | _, undefined => undefined
  | finite s m q, finite t n r => ofDyadic (s != t) (m * n) (q + r)
  | x, y => if x.isZero || y.isZero then undefined else infinite (x.isNegative != y.isNegative)

def signed (negative : Bool) (m : Nat) : Int := if negative then -(m : Int) else m

/-- A sum of zero is positive, unless both parts are negative. -/
def add : Binary64 → Binary64 → Binary64
  | undefined, _ => undefined
  | _, undefined => undefined
  | infinite s, infinite t => if s = t then infinite s else undefined
  | infinite s, _ => infinite s
  | _, infinite t => infinite t
  | finite s m q, finite t n r =>
    let low := min q r
    let sum := signed s (m * Nat.pow 2 (q - low).toNat) + signed t (n * Nat.pow 2 (r - low).toNat)
    ofDyadic (if sum = 0 then s && t else sum < 0) sum.natAbs low

/-- Whether two numbers are equal: zeros of both signs are, undefined ones never. -/
def sameValue : Binary64 → Binary64 → Bool
  | finite s m q, finite t n r => m = n && q = r && (s = t || m = 0)
  | infinite s, infinite t => s = t
  | _, _ => false

def isInt (x : Binary64) (n : Int) : Bool :=
  match x with
  | finite s m q =>
    if 0 ≤ q then signed s m * (Nat.pow 2 q.toNat : Nat) = n else signed s m = n * (Nat.pow 2 (-q).toNat : Nat)
  | _ => false

end Binary64

end SchemaChange
