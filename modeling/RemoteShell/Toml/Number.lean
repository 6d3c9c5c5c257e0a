import RemoteShell.Decimal.Binary64
import RemoteShell.Text.Hex

/-!
# Numbers in TOML

Digits may be set apart by single underscores. Whole numbers have 64 bits and can
be written in four bases; a number with a fraction or an exponent is a float.
-/

namespace RemoteShell.Toml

/-- Reads further digits, each perhaps after an underscore. -/
def moreDigits (isDigit : Char → Bool) : List Char → List Char × List Char
  | [] => ([], [])
  | '_' :: c :: rest =>
    if isDigit c then
      let (digits, left) := moreDigits isDigit rest
      (c :: digits, left)
    else ([], '_' :: c :: rest)
  | c :: rest =>
    if isDigit c then
      let (digits, left) := moreDigits isDigit rest
      (c :: digits, left)
    else ([], c :: rest)

/-- Reads digits, of which there must be one. -/
def digits? (isDigit : Char → Bool) : List Char → Option (List Char × List Char)
  | [] => none
  | c :: rest =>
    if isDigit c then
      let (digits, left) := moreDigits isDigit rest
      some (c :: digits, left)
    else none

/-- Tells whether a character is a digit in a base up to sixteen. -/
def isDigitIn (base : Nat) (c : Char) : Bool := (Text.hexValue? c).any (· < base)

/-- What digits stand for in a base. -/
def valueIn (base : Nat) (digits : List Char) : Nat :=
  digits.foldl (fun value c => value * base + (Text.hexValue? c).getD 0) 0

/-- Reads a sign, and tells whether it is a minus. -/
def readSign : List Char → Bool × List Char
  | '+' :: rest => (false, rest)
  | '-' :: rest => (true, rest)
  | rest => (false, rest)

/-- The sign and the digits in front of a number in base ten, without leading zeros. -/
def whole? (input : List Char) : Option (Bool × List Char × List Char) :=
  match readSign input with
  | (isNegative, '0' :: rest) => some (isNegative, ['0'], rest)
  | (isNegative, rest) => (digits? Char.isDigit rest).map (isNegative, ·)

/-- One more than the greatest whole number of 64 bits. -/
def pastGreatest : Int := 9223372036854775808

/-- A number together with the rest, if it has 64 bits. -/
def inRange? (n : Int) (rest : List Char) : Option (Int × List Char) :=
  if -pastGreatest ≤ n ∧ n < pastGreatest then some (n, rest) else none

/-- Reads digits in some base. -/
def based? (base : Nat) (input : List Char) : Option (Int × List Char) := do
  let (digits, rest) ← digits? (isDigitIn base) input
  inRange? (valueIn base digits) rest

/-- A number with its sign. -/
def signed (isNegative : Bool) (n : Nat) : Int := if isNegative then -n else n

/-- Reads a whole number. Only one in base ten has a sign. -/
def integer? : List Char → Option (Int × List Char)
  | '0' :: 'x' :: rest => based? 16 rest
  | '0' :: 'o' :: rest => based? 8 rest
  | '0' :: 'b' :: rest => based? 2 rest
  | input => do
    let (isNegative, digits, rest) ← whole? input
    inRange? (signed isNegative (valueIn 10 digits)) rest

/-- Reads a fraction; a point must have one. -/
def fraction? : List Char → Option (List Char × List Char)
  | '.' :: rest => digits? Char.isDigit rest
  | rest => some ([], rest)

/-- Reads an exponent; its letter must have one. -/
def exponent? : List Char → Option (Int × List Char)
  | 'e' :: rest | 'E' :: rest => do
    let (isNegative, rest) := readSign rest
    let (digits, rest) ← digits? Char.isDigit rest
    return (signed isNegative (valueIn 10 digits), rest)
  | rest => some (0, rest)

/-- Reads a float that is written in digits. One past the greatest float is refused. -/
def decimal? (input : List Char) : Option (List Char) := do
  let (isNegative, whole, rest) ← whole? input
  let (fraction, left) ← fraction? rest
  let (exponent, left) ← exponent? left
  let isPast :=
    Decimal.Binary64.isPast (valueIn 10 (whole ++ fraction)) (exponent - fraction.length)
  if left.length = rest.length ∨ (isPast ∧ ¬ isNegative) then none else some left

/-- Reads a float that is no number in digits. -/
def special? (input : List Char) : Option (List Char) :=
  match (readSign input).2 with
  | 'i' :: 'n' :: 'f' :: rest => some rest
  | 'n' :: 'a' :: 'n' :: rest => some rest
  | _ => none

/-- Reads a float. -/
def float? (input : List Char) : Option (List Char) := decimal? input <|> special? input

end RemoteShell.Toml
