import RemoteShell.Text.Utf8

/-!
# Comparing secrets

A secret is compared byte by byte without stopping at the first difference, for as
long as the expected secret goes on, so the time taken tells nothing about what was
given.
-/

namespace RemoteShell

/-- The bits in which some bytes differ from the expected ones. Bytes that are
missing count as all ones. -/
def differences : List UInt8 → List UInt8 → UInt8
  | [], _ => 0
  | e :: expected, given => (e ^^^ given.headD 0xff) ||| differences expected given.tail

/-- Tells whether some bytes are the expected ones. -/
def isSecret (expected given : List UInt8) : Bool :=
  ((if expected.length = given.length then 0 else 1) ||| differences expected given) = 0

/-- Tells whether a key is the expected one. -/
def isKey (expected given : String) : Bool :=
  isSecret (Text.utf8 expected.toList) (Text.utf8 given.toList)

end RemoteShell
