/-!
# Numbers of double precision

A finite number of 53 significant bits, kept as an exact product. Every
operation computes the exact result first and then rounds it to the nearest
number, to an even last bit where two are equally near.
-/

namespace RemoteShell.Decimal

/-- The value `mantissa * 2 ^ exponent`. -/
structure Binary64 where
  mantissa : Nat
  exponent : Int
  deriving DecidableEq, Repr

namespace Binary64

/-- The least exponent; below it small numbers lose bits. -/
def minExponent : Int := -1074

/-- The greatest exponent of a finite number. -/
def maxExponent : Int := 971

/-- The least mantissa of a number that has all its bits: 53 of them. -/
def leastMantissa : Nat := 4503599627370496

/-- One more than the greatest mantissa. -/
def pastMantissa : Nat := 9007199254740992

/-- Nothing at all. -/
def zero : Binary64 := ⟨0, minExponent⟩

/-- The numerator and denominator of a number. -/
def ratio (x : Binary64) : Nat × Nat :=
  (x.mantissa * Nat.pow 2 x.exponent.toNat, Nat.pow 2 (-x.exponent).toNat)

/-- A quotient rounded to a whole number, ties to even. -/
def roundDiv (num den : Nat) : Nat :=
  let q := num / den
  let r := num % den
  if 2 * r > den ∨ (2 * r = den ∧ q % 2 = 1) then q + 1 else q

/-- The quotient divided by a power of two, as numerator and denominator. -/
def scaleDown (num den : Nat) (e : Int) : Nat × Nat :=
  (num * Nat.pow 2 (-e).toNat, den * Nat.pow 2 e.toNat)

/-- The exponent that gives the quotient 53 bits before the point. -/
def exponentFor (num den : Nat) : Int :=
  let e := (num.log2 : Int) - den.log2 - 53
  let (n, d) := scaleDown num den e
  max minExponent (if n / d < pastMantissa then e else e + 1)

/-- The number nearest to a quotient; none when it lies past the greatest. -/
def ofRatio (num den : Nat) : Option Binary64 :=
  if num = 0 then some zero
  else
    let e := exponentFor num den
    let (n, d) := scaleDown num den e
    let m := roundDiv n d
    let x : Binary64 := if m = pastMantissa then ⟨leastMantissa, e + 1⟩ else ⟨m, e⟩
    if x.exponent ≤ maxExponent then some x else none

/-- The number nearest to a natural number. -/
def ofNat (n : Nat) : Option Binary64 := ofRatio n 1

/-- The rounded product; none on overflow. -/
def mul (x y : Binary64) : Option Binary64 :=
  ofRatio (x.ratio.1 * y.ratio.1) (x.ratio.2 * y.ratio.2)

/-- The rounded quotient by a number other than zero. -/
def div (x y : Binary64) : Binary64 :=
  (ofRatio (x.ratio.1 * y.ratio.2) (x.ratio.2 * y.ratio.1)).getD zero

/-- The greatest power of ten that is a finite number. -/
def maxPowerOfTen : Nat := 308

/-- A power of ten, rounded; `k` is at most `maxPowerOfTen`. -/
def powerOfTen (k : Nat) : Binary64 := (ofNat (Nat.pow 10 k)).getD zero

/-- The number scaled by a negative power of ten, in steps of at most
`maxPowerOfTen`; once nothing is left the rest of the way is skipped. -/
def scaleByInverse (x : Binary64) (k : Nat) : Binary64 :=
  if x.mantissa = 0 then x
  else if k ≤ maxPowerOfTen then x.div (powerOfTen k)
  else scaleByInverse (x.div (powerOfTen maxPowerOfTen)) (k - maxPowerOfTen)
termination_by k
decreasing_by simp [maxPowerOfTen] at *; omega

/-- The number that a decimal stands for: the digits are rounded first and their
scaled value once more, so the result may be a neighbour of the nearest number.
None on overflow. -/
def ofDecimal (significand : Nat) (exponent : Int) : Option Binary64 := do
  let x ← ofNat significand
  if exponent < 0 then return x.scaleByInverse (-exponent).toNat
  else if exponent.toNat ≤ maxPowerOfTen then x.mul (powerOfTen exponent.toNat)
  else if x.mantissa = 0 then return x
  else none

/-- How many digits a number has in base ten. -/
def digitCount (n : Nat) : Nat := (Nat.toDigits 10 n).length

/-- Tells whether a decimal lies past the greatest number. One with at most
`maxPowerOfTen` digits before the point does not, and one with more than two digits
beyond that does, so no great power is ever needed. -/
def isPast (significand : Nat) (exponent : Int) : Bool :=
  let digits := (digitCount significand : Int) + exponent
  if significand = 0 ∨ digits ≤ maxPowerOfTen then false
  else if (maxPowerOfTen : Int) + 2 < digits then true
  else (ofRatio (significand * Nat.pow 10 exponent.toNat) (Nat.pow 10 (-exponent).toNat)).isNone

end Binary64

end RemoteShell.Decimal
