import RemoteShell.Text.Quoted

/-!
# Writing JSON

Compact text: no blanks, members in the order given. A text is written with the
fewest escapes: quotes, backslashes and controls.
-/

namespace RemoteShell.Json

/-- A control without a letter of its own, by number. -/
def controlEscape (c : Char) : List Char :=
  ['\\', 'u', '0', '0', Nat.digitChar (c.toNat / 16), Nat.digitChar (c.toNat % 16)]

/-- How a character stands in a text. -/
def escapedChar (c : Char) : List Char :=
  match c with
  | '"' => ['\\', '"']
  | '\\' => ['\\', '\\']
  | '\x08' => ['\\', 'b']
  | '\x0c' => ['\\', 'f']
  | '\n' => ['\\', 'n']
  | '\r' => ['\\', 'r']
  | '\t' => ['\\', 't']
  | c => if c.toNat < 32 then controlEscape c else [c]

/-- A text in quotes. -/
def printText (text : List Char) : List Char :=
  '"' :: text.flatMap escapedChar ++ ['"']

/-- A whole number. -/
def printInt (n : Int) : List Char :=
  if n < 0 then '-' :: Nat.toDigits 10 n.natAbs else Nat.toDigits 10 n.natAbs

/-- An object of members that are already written. -/
def printObject (members : List (String × List Char)) : List Char :=
  '{' :: (List.intercalate [',']
    (members.map fun (key, value) => printText key.toList ++ ':' :: value)) ++ ['}']

/-- A list of items that are already written. -/
def printList (items : List (List Char)) : List Char :=
  '[' :: List.intercalate [','] items ++ [']']

end RemoteShell.Json
