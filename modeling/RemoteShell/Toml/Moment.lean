/-!
# Dates and times in TOML

A date, a time of day down to the second, or both, and then perhaps an offset.
-/

namespace RemoteShell.Toml

/-- Reads exactly that many digits. -/
def fixedDigits? : Nat → Nat → List Char → Option (Nat × List Char)
  | 0, value, rest => some (value, rest)
  | _ + 1, _, [] => none
  | count + 1, value, c :: rest =>
    if c.isDigit then fixedDigits? count (value * 10 + (c.toNat - 48)) rest else none

/-- Reads two digits of a value between two bounds. -/
def twoDigits? (low high : Nat) (input : List Char) : Option (Nat × List Char) := do
  let (value, rest) ← fixedDigits? 2 0 input
  if low ≤ value ∧ value ≤ high then some (value, rest) else none

/-- Reads one character. -/
def exactly? (c : Char) : List Char → Option (List Char)
  | first :: rest => if first = c then some rest else none
  | [] => none

/-- Tells whether a year has a leap day. -/
def isLeap (year : Nat) : Bool := year % 4 = 0 && (year % 100 ≠ 0 || year % 400 = 0)

/-- The days of a month. -/
def daysIn (year month : Nat) : Nat :=
  if month = 2 then (if isLeap year then 29 else 28)
  else if month = 4 ∨ month = 6 ∨ month = 9 ∨ month = 11 then 30
  else 31

/-- Reads a date. -/
def date? (input : List Char) : Option (List Char) := do
  let (year, rest) ← fixedDigits? 4 0 input
  let (month, rest) ← twoDigits? 1 12 (← exactly? '-' rest)
  let (_, rest) ← twoDigits? 1 (daysIn year month) (← exactly? '-' rest)
  return rest

/-- The input without the fraction of a second in front, if it has digits. -/
def skipFraction : List Char → List Char
  | '.' :: c :: rest => if c.isDigit then rest.dropWhile Char.isDigit else '.' :: c :: rest
  | input => input

/-- Reads a time of day. The second may be a leap second. -/
def time? (input : List Char) : Option (List Char) := do
  let (_, rest) ← twoDigits? 0 23 input
  let (_, rest) ← twoDigits? 0 59 (← exactly? ':' rest)
  let (_, rest) ← twoDigits? 0 60 (← exactly? ':' rest)
  return skipFraction rest

/-- Reads an offset from universal time. -/
def offset? : List Char → Option (List Char)
  | 'Z' :: rest | 'z' :: rest => some rest
  | '+' :: rest | '-' :: rest => do
    let (_, rest) ← twoDigits? 0 23 rest
    let (_, rest) ← twoDigits? 0 59 (← exactly? ':' rest)
    return rest
  | _ => none

/-- The input without the time of day in front that belongs to a date. -/
def skipTimeOfDate : List Char → List Char
  | c :: rest =>
    if c = 'T' ∨ c = 't' ∨ c = ' ' then
      match time? rest with
      | some left => (offset? left).getD left
      | none => c :: rest
    else c :: rest
  | [] => []

/-- Reads a date, with or without a time of day, or a time of day alone. -/
def moment? (input : List Char) : Option (List Char) :=
  match date? input with
  | some rest => some (skipTimeOfDate rest)
  | none => time? input

end RemoteShell.Toml
