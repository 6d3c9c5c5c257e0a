/-!
# Parts of a text

A text that lists things has a sign between one and the next.
-/

namespace RemoteShell.Text

/-- The parts of a text between the places where a sign stands. -/
def split (sign : Char) (text : String) : List String :=
  (text.toList.splitOn sign).map String.ofList

/-- Tells whether a word stands somewhere in a text. -/
def holds (word : List Char) : List Char → Bool
  | [] => word.isEmpty
  | c :: rest => word.isPrefixOf (c :: rest) || holds word rest

end RemoteShell.Text
