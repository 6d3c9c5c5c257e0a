import RemoteShell.Decimal.Binary64

/-!
# The shortest decimal that reads back

A number of double precision is written with the fewest digits that round to
it, and of those with the nearest. Which exponents are written out in full and
how the others look is set by `render` alone.
-/

namespace RemoteShell.Decimal

/-- The decimal `digits * 10 ^ exponent`. -/
structure Numeral where
  digits : Nat
  exponent : Int
  deriving DecidableEq, Repr

/-- How many digits a natural number has; zero has one. -/
def digitCount (n : Nat) : Nat := (Nat.toDigits 10 n).length

/-- The numerator and denominator of a decimal. -/
def Numeral.ratio (d : Numeral) : Nat × Nat :=
  (d.digits * Nat.pow 10 d.exponent.toNat, Nat.pow 10 (-d.exponent).toNat)

namespace Binary64

/-- The bounds of the interval that rounds to a number other than zero, in
quarters of its last bit. The gap below a power of two is half as wide. -/
def quarterBounds (x : Binary64) : Nat × Nat :=
  let below := if x.mantissa = leastMantissa ∧ x.exponent > minExponent then 1 else 2
  (4 * x.mantissa - below, 4 * x.mantissa + 2)

/-- Tells whether a decimal rounds to the number; the ends of the interval belong
to it when the last bit is even. -/
def isReadBy (x : Binary64) (d : Numeral) : Bool :=
  let (low, high) := x.quarterBounds
  let (num, den) := d.ratio
  let (n, m) := (Binary64.mk 1 x.exponent).ratio
  let value := 4 * num * m
  let unit := n * den
  if x.mantissa % 2 = 0 then low * unit ≤ value ∧ value ≤ high * unit
  else low * unit < value ∧ value < high * unit

/-- The power of ten of the first digit of a number other than zero. -/
def leadingPower (x : Binary64) : Int :=
  let (n, d) := x.ratio
  (digitCount (n * Nat.pow 10 400 / d) : Int) - 401

/-- The neighbours of the number among the decimals of the given exponent that read
back as it, the nearer first. Of two equally near the even one comes first. -/
def neighbours (x : Binary64) (exponent : Int) : List Numeral :=
  let (n, d) := x.ratio
  let num := n * Nat.pow 10 (-exponent).toNat
  let den := d * Nat.pow 10 exponent.toNat
  let low := num / den
  let rest := 2 * (num % den)
  let pair := if rest < den ∨ (rest = den ∧ low % 2 = 0) then [low, low + 1] else [low + 1, low]
  (pair.map fun digits => ⟨digits, exponent⟩).filter x.isReadBy

/-- The first neighbour on the grids of `count`, `count + 1`, … digits. -/
def shortestFrom (x : Binary64) : Nat → Nat → Option Numeral
  | 0, _ => none
  | tries + 1, count =>
    match x.neighbours (x.leadingPower - count + 1) with
    | d :: _ => some d
    | [] => shortestFrom x tries (count + 1)

/-- The decimal with the fewest digits that reads back as the number. Seventeen
digits are always enough. -/
def shortest (x : Binary64) : Numeral :=
  if x.mantissa = 0 then ⟨0, 0⟩ else (x.shortestFrom 17 1).getD ⟨0, 0⟩

end Binary64

/-- A decimal without zeros at the end of its digits. -/
def trimZeros (digits : List Char) : List Char :=
  match (digits.reverse.dropWhile (· = '0')).reverse with
  | [] => ['0']
  | trimmed => trimmed

/-- An exponent: a sign and at least two digits. -/
def renderExponent (e : Int) : List Char :=
  let digits := Nat.toDigits 10 e.natAbs
  (if e < 0 then '-' else '+') :: (if digits.length < 2 then '0' :: digits else digits)

/-- The text of a number. Powers of the first digit from −5 to 15 are written out
in full, with at least one digit after the point. -/
def render (negative : Bool) (x : Binary64) : String :=
  let d := x.shortest
  let all := Nat.toDigits 10 d.digits
  let power := d.exponent + all.length - 1
  let digits := trimZeros all
  let body :=
    if x.mantissa = 0 then ['0', '.', '0']
    else if power < -5 ∨ 15 < power then
      (match digits with
        | first :: [] => [first]
        | first :: more => first :: '.' :: more
        | [] => []) ++ 'e' :: renderExponent power
    else if power < 0 then
      ['0', '.'] ++ List.replicate (-power - 1).toNat '0' ++ digits
    else
      let whole := power.toNat + 1
      digits.take whole ++ List.replicate (whole - digits.length) '0' ++ '.' ::
        (if digits.length ≤ whole then ['0'] else digits.drop whole)
  .ofList (if negative then '-' :: body else body)

end RemoteShell.Decimal
