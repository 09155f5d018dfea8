/-!
# Double-precision numbers

A finite double is a sign and a magnitude `mantissa * 2 ^ exponent`. Rounding a decimal to the
nearest double is done on exact natural numbers, ties going to the even mantissa. The mantissa
has at most 53 bits and the exponent is at least -1074; where the exponent is larger than that,
the mantissa has all its 53 bits, so each value has one representation.
-/
namespace MonkeyScan

/-- A double-precision number. -/
inductive Binary64
  | nan
  | infinite (negative : Bool)
  | finite (negative : Bool) (mantissa : Nat) (exponent : Int)
  deriving DecidableEq, Repr

namespace Binary64

def mantissaBits : Nat := 53
def minExponent : Int := -1074
def maxExponent : Int := 971

/-- Mantissas lie below this bound. -/
def mantissaBound : Nat := 0x20000000000000

/-- An exponent, or the least one if it lies below that. -/
def atLeastMinExponent (exponent : Int) : Int :=
  if exponent < minExponent then minExponent else exponent

/-- Scale a quotient by a power of two, without leaving the natural numbers. -/
def scaled (num den : Nat) (shift : Int) : Nat × Nat :=
  if 0 ≤ shift then (num, den * Nat.pow 2 shift.toNat)
  else (num * Nat.pow 2 (-shift).toNat, den)

/-- The exponent at which the quotient has 53 bits before the point, or the least one. -/
def scaleOf (num den : Nat) : Int :=
  let guess := atLeastMinExponent ((Nat.log2 num : Int) - Nat.log2 den - mantissaBits)
  let (n, d) := scaled num den guess
  if n / d < mantissaBound then guess else guess + 1

/-- The quotient rounded to the nearest natural number, a half to the even one. -/
def roundHalfEven (num den : Nat) : Nat :=
  let q := num / den
  let twice := 2 * (num % den)
  if twice < den then q
  else if twice = den then q + q % 2
  else q + 1

/-- The double nearest to a quotient of naturals, `den` not zero. -/
def ofQuotient (negative : Bool) (num den : Nat) : Binary64 :=
  if num = 0 then .finite negative 0 minExponent
  else
    let e := scaleOf num den
    let (n, d) := scaled num den e
    let m := roundHalfEven n d
    let (m, e) := if m = mantissaBound then (mantissaBound / 2, e + 1) else (m, e)
    if maxExponent < e then .infinite negative else .finite negative m e

/-- The number of decimal digits of a natural number, one for zero. -/
def decimalLength (n : Nat) : Nat :=
  (Nat.toDigits 10 n).length

/-- The double nearest to `digits * 10 ^ exponent`. Magnitudes far outside the range of doubles
are settled by their order of magnitude alone. -/
def ofDecimal (negative : Bool) (digits : Nat) (exponent : Int) : Binary64 :=
  let order := (decimalLength digits : Int) + exponent
  if digits = 0 ∨ order < -400 then .finite negative 0 minExponent
  else if 400 < order then .infinite negative
  else if 0 ≤ exponent then ofQuotient negative (digits * Nat.pow 10 exponent.toNat) 1
  else ofQuotient negative digits (Nat.pow 10 (-exponent).toNat)

end Binary64

end MonkeyScan
