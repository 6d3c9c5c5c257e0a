import RemoteShell.Decimal.Shortest
import RemoteShell.Text.Quoted

/-!
# What can be wrong with a JSON text

A reader reports the first fault it meets from left to right. A fault is of one
of three kinds: the text is not JSON, the text ends too early, or a value is not
of the type that its place asks for.
-/

namespace RemoteShell.Json

/-- Why a text is not JSON. -/
inductive Fault where
  | expectedValue
  | unknownWord
  | expectedColon
  | expectedCommaOrBrace
  | expectedCommaOrBracket
  | keyNotText
  | trailingComma
  | trailingCharacters
  | invalidNumber
  | numberOutOfRange
  | invalidEscape
  | loneSurrogate
  | brokenSurrogatePair
  | controlCharacter
  deriving DecidableEq, Repr

/-- The part of a text that its end cuts off. -/
inductive Part where
  | value
  | text
  | object
  | list
  deriving DecidableEq, Repr

/-- A value that stands where one of another type is due. -/
inductive Found where
  | null
  | boolean (value : Bool)
  | integer (value : Int)
  | real (negative : Bool) (magnitude : Decimal.Binary64)
  | text (value : String)
  | list
  | object
  deriving DecidableEq, Repr

/-- The first fault of a text. -/
inductive Error where
  | malformed (fault : Fault)
  | incomplete (part : Part)
  | wrongType (found : Found) (expected : String)
  | wrongValue (found : Found) (expected : String)
  | missingField (name : String)
  | duplicateField (name : String)
  | wrongLength (length : Nat) (expected : String)
  deriving DecidableEq, Repr

/-- The kinds of fault that callers tell apart. -/
inductive Category where
  /-- The text is not JSON. -/
  | malformed
  /-- The text ends too early. -/
  | incomplete
  /-- A value does not fit its place. -/
  | mismatch
  deriving DecidableEq, Repr

/-- The kind of an error. -/
def Error.category : Error → Category
  | .malformed _ => .malformed
  | .incomplete _ => .incomplete
  | _ => .mismatch

/-- The wording of a fault. -/
def Fault.message : Fault → String
  | .expectedValue => "expected value"
  | .unknownWord => "expected ident"
  | .expectedColon => "expected `:`"
  | .expectedCommaOrBrace => "expected `,` or `\x7d`"
  | .expectedCommaOrBracket => "expected `,` or `]`"
  | .keyNotText => "key must be a string"
  | .trailingComma => "trailing comma"
  | .trailingCharacters => "trailing characters"
  | .invalidNumber => "invalid number"
  | .numberOutOfRange => "number out of range"
  | .invalidEscape => "invalid escape"
  | .loneSurrogate => "lone leading surrogate in hex escape"
  | .brokenSurrogatePair => "unexpected end of hex escape"
  | .controlCharacter => "control character (\\u0000-\\u001F) found while parsing a string"

/-- The name of a part in a message. -/
def Part.name : Part → String
  | .value => "a value"
  | .text => "a string"
  | .object => "an object"
  | .list => "a list"

/-- How a message shows a value. -/
def Found.describe : Found → String
  | .null => "null"
  | .boolean value => s!"boolean `{value}`"
  | .integer value => s!"integer `{value}`"
  | .real negative magnitude => s!"floating point `{Decimal.render negative magnitude}`"
  | .text value => s!"string {Text.quoted value}"
  | .list => "sequence"
  | .object => "map"

/-- The wording of an error. -/
def Error.message : Error → String
  | .malformed fault => fault.message
  | .incomplete part => s!"EOF while parsing {part.name}"
  | .wrongType found expected => s!"invalid type: {found.describe}, expected {expected}"
  | .wrongValue found expected => s!"invalid value: {found.describe}, expected {expected}"
  | .missingField name => s!"missing field `{name}`"
  | .duplicateField name => s!"duplicate field `{name}`"
  | .wrongLength length expected => s!"invalid length {length}, expected {expected}"

end RemoteShell.Json
