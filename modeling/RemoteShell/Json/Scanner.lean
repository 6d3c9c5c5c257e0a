import RemoteShell.Json.Error
import RemoteShell.Text.Hex

/-!
# The tokens of a JSON text

Each reader takes the characters that are left and gives what it read together
with the rest, or the first fault. Main statements: an escape uses up characters
(`readEscape_length_lt`, `skipEscape_length_lt`), so reading a text ends.
-/

namespace RemoteShell.Json

/-- The blanks between tokens. -/
def isBlank (c : Char) : Bool := c = ' ' || c = '\n' || c = '\t' || c = '\r'

/-- The input without the blanks in front. -/
def skipBlanks (input : List Char) : List Char := input.dropWhile isBlank

/-- Reads the given letters. -/
def readWord : List Char → List Char → Except Error (List Char)
  | [], input => .ok input
  | _ :: _, [] => .error (.incomplete .value)
  | letter :: letters, c :: rest =>
    if c = letter then readWord letters rest else .error (.malformed .unknownWord)

/-! ## Texts -/

/-- The value of four digits in base sixteen. -/
def hexValue4? (a b c d : Char) : Option Nat := do
  return (((← Text.hexValue? a) * 16 + (← Text.hexValue? b)) * 16 + (← Text.hexValue? c)) * 16 +
    (← Text.hexValue? d)

/-- Reads the four digits of a numeric escape. With fewer than four bytes left the
text is cut off; with other characters it is malformed. -/
def readHex4 : List Char → Except Error (Nat × List Char)
  | a :: b :: c :: d :: rest =>
    match hexValue4? a b c d with
    | some code => .ok (code, rest)
    | none => .error (.malformed .invalidEscape)
  | short =>
    if 4 ≤ short.foldl (fun n c => n + c.utf8Size) 0 then .error (.malformed .invalidEscape)
    else .error (.incomplete .text)

theorem readHex4_length_lt {input rest : List Char} {code : Nat}
    (h : readHex4 input = .ok (code, rest)) : rest.length < input.length := by
  unfold readHex4 at h
  split at h
  · split at h <;> simp_all
    omega
  · split at h <;> simp at h

/-- The code units that open a surrogate pair. -/
def isLeadSurrogate (unit : Nat) : Bool := 0xD800 ≤ unit && unit ≤ 0xDBFF

/-- The code units that end a surrogate pair. -/
def isTrailSurrogate (unit : Nat) : Bool := 0xDC00 ≤ unit && unit ≤ 0xDFFF

/-- The character of a surrogate pair. -/
def pairedChar (lead trail : Nat) : Char :=
  .ofNat (0x10000 + (lead - 0xD800) * 0x400 + (trail - 0xDC00))

/-- Reads a numeric escape after its letter. A surrogate stands only in a pair of
escapes. -/
def readUnicodeEscape (input : List Char) : Except Error (Char × List Char) :=
  match readHex4 input with
  | .error e => .error e
  | .ok (unit, rest) =>
    if isTrailSurrogate unit then .error (.malformed .loneSurrogate)
    else if isLeadSurrogate unit then
      match rest with
      | '\\' :: 'u' :: more =>
        match readHex4 more with
        | .error e => .error e
        | .ok (trail, left) =>
          if isTrailSurrogate trail then .ok (pairedChar unit trail, left)
          else .error (.malformed .loneSurrogate)
      | ['\\'] | [] => .error (.incomplete .text)
      | _ => .error (.malformed .brokenSurrogatePair)
    else .ok (.ofNat unit, rest)

/-- The characters that have an escape of one letter. -/
def simpleEscape? : Char → Option Char
  | '"' => some '"'
  | '\\' => some '\\'
  | '/' => some '/'
  | 'b' => some '\x08'
  | 'f' => some '\x0c'
  | 'n' => some '\n'
  | 'r' => some '\r'
  | 't' => some '\t'
  | _ => none

/-- Reads an escape after its backslash. -/
def readEscape : List Char → Except Error (Char × List Char)
  | [] => .error (.incomplete .text)
  | letter :: rest =>
    match simpleEscape? letter with
    | some c => .ok (c, rest)
    | none => if letter = 'u' then readUnicodeEscape rest else .error (.malformed .invalidEscape)

theorem readUnicodeEscape_length_lt {input rest : List Char} {c : Char}
    (h : readUnicodeEscape input = .ok (c, rest)) : rest.length < input.length := by
  unfold readUnicodeEscape at h
  split at h
  · simp at h
  · rename_i unit tail hunit
    have hlt := readHex4_length_lt hunit
    split at h
    · simp at h
    · split at h
      · split at h
        · split at h
          · simp at h
          · rename_i htrail
            have := readHex4_length_lt htrail
            split at h <;> simp_all
            omega
        · simp at h
        · simp at h
        · simp at h
      · simp_all

theorem readEscape_length_lt {input rest : List Char} {c : Char}
    (h : readEscape input = .ok (c, rest)) : rest.length < input.length := by
  unfold readEscape at h
  split at h
  · simp at h
  · split at h
    · simp_all
    · split at h
      · exact Nat.lt_succ_of_lt (readUnicodeEscape_length_lt h)
      · simp at h

/-- Reads a text after its opening quote, with escapes resolved. -/
def readText : List Char → Except Error (List Char × List Char)
  | [] => .error (.incomplete .text)
  | c :: rest =>
    if c = '"' then .ok ([], rest)
    else if c = '\\' then
      match _ : readEscape rest with
      | .error e => .error e
      | .ok (escaped, left) =>
        match readText left with
        | .error e => .error e
        | .ok (text, tail) => .ok (escaped :: text, tail)
    else if c.toNat < 32 then .error (.malformed .controlCharacter)
    else
      match readText rest with
      | .error e => .error e
      | .ok (text, tail) => .ok (c :: text, tail)
termination_by input => input.length
decreasing_by
  · rename_i h
    have := readEscape_length_lt h
    simp; omega
  · simp

/-- Passes over an escape after its backslash. The digits of a numeric escape are
checked, the pairing of surrogates is not. -/
def skipEscape : List Char → Except Error (List Char)
  | [] => .error (.incomplete .text)
  | letter :: rest =>
    if (simpleEscape? letter).isSome then .ok rest
    else if letter = 'u' then (readHex4 rest).map (·.2)
    else .error (.malformed .invalidEscape)

theorem skipEscape_length_lt {input rest : List Char} (h : skipEscape input = .ok rest) :
    rest.length < input.length := by
  unfold skipEscape at h
  split at h
  · simp at h
  · split at h
    · simp_all
    · split at h
      · rename_i tail _ _
        cases hx : readHex4 tail with
        | error e => simp [hx, Except.map] at h
        | ok r =>
          have := @readHex4_length_lt tail r.2 r.1 hx
          simp [hx, Except.map] at h
          subst h
          simp; omega
      · simp at h

/-- Passes over a text after its opening quote. -/
def skipText : List Char → Except Error (List Char)
  | [] => .error (.incomplete .text)
  | c :: rest =>
    if c = '"' then .ok rest
    else if c = '\\' then
      match _ : skipEscape rest with
      | .error e => .error e
      | .ok left => skipText left
    else if c.toNat < 32 then .error (.malformed .controlCharacter)
    else skipText rest
termination_by input => input.length
decreasing_by
  · rename_i h
    have := skipEscape_length_lt h
    simp; omega
  · simp

/-! ## Numbers -/

/-- A number that has been read. Whole numbers keep their value when they fit into
64 bits, and then a negative one is below zero. -/
inductive Number where
  | natural (value : Nat)
  | negative (magnitude : Nat)
  | real (negative : Bool) (magnitude : Decimal.Binary64)
  deriving DecidableEq, Repr

/-- The value of a decimal digit. -/
def digitValue (c : Char) : Nat := c.toNat - 48

/-- The greatest significand that is kept, of 64 bits. -/
def maxSignificand : Nat := 18446744073709551615

/-- Appends digits to a significand as long as it fits into 64 bits. The count is
that of the digits left out. -/
def significand : Nat → List Char → Nat × Nat
  | acc, [] => (acc, 0)
  | acc, c :: digits =>
    if acc * 10 + digitValue c ≤ maxSignificand then significand (acc * 10 + digitValue c) digits
    else (acc, digits.length + 1)

/-- The value of all the digits. -/
def digitsValue (digits : List Char) : Nat :=
  digits.foldl (fun acc c => acc * 10 + digitValue c) 0

/-- The decimal digits in front and what follows them. -/
def splitDigits (input : List Char) : List Char × List Char :=
  (input.takeWhile Char.isDigit, input.dropWhile Char.isDigit)

/-- Reads the digits of an exponent after its letter. -/
def readExponent (input : List Char) : Except Error (Int × List Char) :=
  let (negative, rest) :=
    match input with
    | '+' :: rest => (false, rest)
    | '-' :: rest => (true, rest)
    | rest => (false, rest)
  match rest with
  | [] => .error (.incomplete .value)
  | c :: _ =>
    if c.isDigit then
      let (digits, left) := splitDigits rest
      let value : Int := digitsValue digits
      .ok (if negative then -value else value, left)
    else .error (.malformed .invalidNumber)

/-- The number with the given digits and power of ten, unless it is too great. -/
def realNumber (negative : Bool) (digits : Nat) (exponent : Int) (rest : List Char) :
    Except Error (Number × List Char) :=
  match Decimal.Binary64.ofDecimal digits exponent with
  | some magnitude => .ok (.real negative magnitude, rest)
  | none => .error (.malformed .numberOutOfRange)

/-- Reads an exponent, if there is one, and finishes a number that is not whole. -/
def readScaled (negative : Bool) (digits : Nat) (exponent : Int) (input : List Char) :
    Except Error (Number × List Char) :=
  match input with
  | 'e' :: rest | 'E' :: rest =>
    match readExponent rest with
    | .error e => .error e
    | .ok (power, left) => realNumber negative digits (exponent + power) left
  | rest => realNumber negative digits exponent rest

/-- The greatest magnitude of a negative whole number of 64 bits. -/
def maxNegative : Nat := 9223372036854775808

/-- Finishes a whole number. A negative zero and whole numbers past 64 bits are
kept as reals. -/
def wholeNumber (negative : Bool) (value : Nat) (rest : List Char) :
    Except Error (Number × List Char) :=
  if negative then
    if 1 ≤ value ∧ value ≤ maxNegative then .ok (.negative value, rest)
    else realNumber true value 0 rest
  else .ok (.natural value, rest)

/-- Reads what follows the whole part of a number. -/
def readFraction (negative : Bool) (digits omitted : Nat) (input : List Char) :
    Except Error (Number × List Char) :=
  match input with
  | '.' :: rest =>
    match splitDigits rest with
    | ([], []) => .error (.incomplete .value)
    | ([], _) => .error (.malformed .invalidNumber)
    | (fraction, left) =>
      let (all, unused) := significand digits fraction
      readScaled negative all ((omitted : Int) - (fraction.length - unused)) left
  | 'e' :: _ | 'E' :: _ => readScaled negative digits omitted input
  | rest => if omitted = 0 then wholeNumber negative digits rest
    else readScaled negative digits omitted rest

/-- Reads a number after its sign. -/
def readNumber (negative : Bool) : List Char → Except Error (Number × List Char)
  | [] => .error (.incomplete .value)
  | c :: rest =>
    if c = '0' then
      if (splitDigits rest).1 = [] then readFraction negative 0 0 rest
      else .error (.malformed .invalidNumber)
    else if c.isDigit then
      let (digits, left) := splitDigits (c :: rest)
      let (value, omitted) := significand 0 digits
      readFraction negative value omitted left
    else .error (.malformed .invalidNumber)

/-- Passes over the digits of an exponent after its letter. -/
def skipExponent (input : List Char) : Except Error (List Char) :=
  let rest :=
    match input with
    | '+' :: rest | '-' :: rest => rest
    | rest => rest
  match splitDigits rest with
  | ([], _) => .error (.malformed .invalidNumber)
  | (_, left) => .ok left

/-- Passes over an exponent, if there is one. -/
def skipScale (input : List Char) : Except Error (List Char) :=
  match input with
  | 'e' :: rest | 'E' :: rest => skipExponent rest
  | rest => .ok rest

/-- Passes over what follows the whole part of a number. -/
def skipFraction (input : List Char) : Except Error (List Char) :=
  match input with
  | '.' :: rest =>
    match splitDigits rest with
    | ([], _) => .error (.malformed .invalidNumber)
    | (_, left) => skipScale left
  | rest => skipScale rest

/-- Passes over a number after its sign. -/
def skipNumber : List Char → Except Error (List Char)
  | [] => .error (.malformed .invalidNumber)
  | c :: rest =>
    if c = '0' then
      if (splitDigits rest).1 = [] then skipFraction rest
      else .error (.malformed .invalidNumber)
    else if c.isDigit then skipFraction (splitDigits rest).2
    else .error (.malformed .invalidNumber)

end RemoteShell.Json
