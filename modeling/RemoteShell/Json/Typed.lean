import RemoteShell.Json.Scanner

/-!
# Values of an expected type

Readers for the places that ask for one type of value. A value of another type
is a fault that names both.
-/

namespace RemoteShell.Json

/-- The value of a number as a fault shows it. -/
def Number.found : Number → Found
  | .natural value => .integer value
  | .negative magnitude => .integer (-(magnitude : Int))
  | .real below magnitude => .real below magnitude

/-- The fault of a value that starts with the given character and is not of the
expected type. A scalar is read first, and its own fault wins. -/
def mismatch (expected : String) (c : Char) (rest : List Char) : Error :=
  let wordFault (letters : List Char) (found : Found) : Error :=
    match readWord letters rest with
    | .error e => e
    | .ok _ => .wrongType found expected
  let numberFault (negative : Bool) (input : List Char) : Error :=
    match readNumber negative input with
    | .error e => e
    | .ok (number, _) => .wrongType number.found expected
  if c = 'n' then wordFault ['u', 'l', 'l'] .null
  else if c = 't' then wordFault ['r', 'u', 'e'] (.boolean true)
  else if c = 'f' then wordFault ['a', 'l', 's', 'e'] (.boolean false)
  else if c = '-' then numberFault true rest
  else if c.isDigit then numberFault false (c :: rest)
  else if c = '"' then
    match readText rest with
    | .error e => e
    | .ok (text, _) => .wrongType (.text (.ofList text)) expected
  else if c = '[' then .wrongType .list expected
  else if c = '{' then .wrongType .object expected
  else .malformed .expectedValue

/-- Reads a text. -/
def readTextValue (input : List Char) : Except Error (String × List Char) :=
  match skipBlanks input with
  | [] => .error (.incomplete .value)
  | c :: rest =>
    if c = '"' then
      match readText rest with
      | .error e => .error e
      | .ok (text, left) => .ok (.ofList text, left)
    else .error (mismatch "a string" c rest)

/-- How messages name a whole number of 64 bits. -/
def integerName : String := "i64"

/-- The value of a number where a whole number of 64 bits is due. -/
def Number.toInt64? (number : Number) : Except Error Int64 :=
  match number with
  | .natural value =>
    if value < maxNegative then .ok (.ofNat value)
    else .error (.wrongValue number.found integerName)
  | .negative magnitude => .ok (.ofInt (-(magnitude : Int)))
  | .real .. => .error (.wrongType number.found integerName)

/-- Reads a whole number of 64 bits. -/
def readIntegerValue (input : List Char) : Except Error (Int64 × List Char) :=
  match skipBlanks input with
  | [] => .error (.incomplete .value)
  | c :: rest =>
    let read (negative : Bool) (digits : List Char) : Except Error (Int64 × List Char) :=
      match readNumber negative digits with
      | .error e => .error e
      | .ok (number, left) => number.toInt64?.map (·, left)
    if c = '-' then read true rest
    else if c.isDigit then read false (c :: rest)
    else .error (mismatch integerName c rest)

end RemoteShell.Json
