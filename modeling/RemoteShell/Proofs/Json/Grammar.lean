import RemoteShell.Json.Scanner

/-!
# The grammar of JSON

What a JSON text is, without a word on how it is read. Texts come in two strengths: a text
that somebody asks for has to name its characters, so that its surrogates stand in pairs;
one that is passed over has to look like a text only.
-/

namespace RemoteShell.Json

/-- Nothing but blanks. -/
def IsBlanks (chars : List Char) : Prop := ∀ c ∈ chars, isBlank c = true

/-! ## Texts -/

/-- How a character is written in a text. -/
inductive IsSpelling : Char → List Char → Prop
  | plain {c : Char} (hquote : c ≠ '"') (hslash : c ≠ '\\') (hcontrol : 32 ≤ c.toNat) :
      IsSpelling c [c]
  | short {c letter : Char} (hletter : simpleEscape? letter = some c) :
      IsSpelling c ['\\', letter]
  | numeric {a b c d : Char} {unit : Nat} (hunit : hexValue4? a b c d = some unit)
      (hlead : isLeadSurrogate unit = false) (htrail : isTrailSurrogate unit = false) :
      IsSpelling (.ofNat unit) ['\\', 'u', a, b, c, d]
  | paired {a b c d e f g h : Char} {lead trail : Nat} (hfirst : hexValue4? a b c d = some lead)
      (hlead : isLeadSurrogate lead = true) (hsecond : hexValue4? e f g h = some trail)
      (htrail : isTrailSurrogate trail = true) :
      IsSpelling (pairedChar lead trail) ['\\', 'u', a, b, c, d, '\\', 'u', e, f, g, h]

/-- A text and what stands between its quotes. -/
inductive IsText : List Char → List Char → Prop
  | nil : IsText [] []
  | cons {c : Char} {spelling text body : List Char} (hc : IsSpelling c spelling)
      (htext : IsText text body) : IsText (c :: text) (spelling ++ body)

/-- A text between quotes. -/
inductive IsQuoted : String → List Char → Prop
  | mk {text : String} {body : List Char} (hbody : IsText text.toList body) :
      IsQuoted text ('"' :: (body ++ ['"']))

/-- What may stand between the quotes of a text that is passed over. -/
inductive IsRawText : List Char → Prop
  | nil : IsRawText []
  | plain {c : Char} {body : List Char} (hquote : c ≠ '"') (hslash : c ≠ '\\')
      (hcontrol : 32 ≤ c.toNat) (hbody : IsRawText body) : IsRawText (c :: body)
  | short {letter : Char} {body : List Char} (hletter : (simpleEscape? letter).isSome)
      (hbody : IsRawText body) : IsRawText ('\\' :: letter :: body)
  | numeric {a b c d : Char} {body : List Char} (hunit : (hexValue4? a b c d).isSome)
      (hbody : IsRawText body) : IsRawText ('\\' :: 'u' :: a :: b :: c :: d :: body)

/-! ## Numbers -/

/-- Decimal digits, at least one. -/
def IsDigits (chars : List Char) : Prop := chars ≠ [] ∧ ∀ c ∈ chars, c.isDigit = true

/-- The whole part of a number: a zero, or digits that do not begin with one. -/
inductive IsWhole : List Char → Prop
  | zero : IsWhole ['0']
  | digits {c : Char} {later : List Char} (hdigit : c.isDigit = true) (hzero : c ≠ '0')
      (hlater : ∀ d ∈ later, d.isDigit = true) : IsWhole (c :: later)

/-- The fraction of a number, if there is one. -/
inductive IsFraction : List Char → Prop
  | none : IsFraction []
  | some {digits : List Char} (hdigits : IsDigits digits) : IsFraction ('.' :: digits)

/-- The exponent of a number, if there is one. -/
inductive IsExponent : List Char → Prop
  | none : IsExponent []
  | some {letter : Char} {sign digits : List Char} (hletter : letter = 'e' ∨ letter = 'E')
      (hsign : sign = [] ∨ sign = ['+'] ∨ sign = ['-']) (hdigits : IsDigits digits) :
      IsExponent (letter :: (sign ++ digits))

/-- A number after its sign. -/
inductive IsUnsigned : List Char → Prop
  | mk {whole fraction exponent : List Char} (hwhole : IsWhole whole)
      (hfraction : IsFraction fraction) (hexponent : IsExponent exponent) :
      IsUnsigned (whole ++ fraction ++ exponent)

/-- A whole number of 64 bits: digits only, and no sign before a zero. -/
inductive IsInteger : Int64 → List Char → Prop
  | natural {value : Int64} {digits : List Char} (hdigits : IsWhole digits)
      (hvalue : value.toInt = digitsValue digits) : IsInteger value digits
  | negative {value : Int64} {digits : List Char} (hdigits : IsWhole digits)
      (hzero : digits ≠ ['0']) (hvalue : value.toInt = -(digitsValue digits : Int)) :
      IsInteger value ('-' :: digits)

/-! ## Values -/

/-- The parts of a text that hold one another: values, and what stands between the brackets
of a list and the braces of an object when they hold something. -/
inductive IsPart : Part → List Char → Prop
  | null : IsPart .value ['n', 'u', 'l', 'l']
  | true : IsPart .value ['t', 'r', 'u', 'e']
  | false : IsPart .value ['f', 'a', 'l', 's', 'e']
  | positive {number : List Char} (hnumber : IsUnsigned number) : IsPart .value number
  | negative {number : List Char} (hnumber : IsUnsigned number) : IsPart .value ('-' :: number)
  | text {body : List Char} (hbody : IsPart .text body) : IsPart .value ('"' :: body ++ ['"'])
  | emptyList {blanks : List Char} (hblanks : IsBlanks blanks) :
      IsPart .value ('[' :: blanks ++ [']'])
  | list {items : List Char} (hitems : IsPart .list items) :
      IsPart .value ('[' :: items ++ [']'])
  | emptyObject {blanks : List Char} (hblanks : IsBlanks blanks) :
      IsPart .value ('{' :: blanks ++ ['}'])
  | object {members : List Char} (hmembers : IsPart .object members) :
      IsPart .value ('{' :: members ++ ['}'])
  | body {body : List Char} (hbody : IsRawText body) : IsPart .text body
  | lastItem {before value after : List Char} (hbefore : IsBlanks before)
      (hvalue : IsPart .value value) (hafter : IsBlanks after) :
      IsPart .list (before ++ value ++ after)
  | item {before value after items : List Char} (hbefore : IsBlanks before)
      (hvalue : IsPart .value value) (hafter : IsBlanks after) (hitems : IsPart .list items) :
      IsPart .list (before ++ value ++ after ++ ',' :: items)
  | lastMember {start key gap before value after : List Char} (hstart : IsBlanks start)
      (hkey : IsPart .text key) (hgap : IsBlanks gap) (hbefore : IsBlanks before)
      (hvalue : IsPart .value value) (hafter : IsBlanks after) :
      IsPart .object (start ++ '"' :: key ++ '"' :: gap ++ ':' :: before ++ value ++ after)
  | member {start key gap before value after members : List Char} (hstart : IsBlanks start)
      (hkey : IsPart .text key) (hgap : IsBlanks gap) (hbefore : IsBlanks before)
      (hvalue : IsPart .value value) (hafter : IsBlanks after)
      (hmembers : IsPart .object members) :
      IsPart .object
        (start ++ '"' :: key ++ '"' :: gap ++ ':' :: before ++ value ++ after ++ ',' :: members)

/-- A value of any depth. -/
def IsValue (chars : List Char) : Prop := IsPart .value chars

end RemoteShell.Json
