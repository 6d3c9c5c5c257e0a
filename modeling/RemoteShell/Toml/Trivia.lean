/-!
# Blanks, comments and line ends in TOML

Each reader takes the characters that are left and gives those after what it has
read; a reader that can fail gives none.
-/

namespace RemoteShell.Toml

/-- The blanks inside a line. -/
def isBlank (c : Char) : Bool := c = ' ' || c = '\t'

/-- The characters that may stand in a line: no control character but the tab. -/
def isPrintable (c : Char) : Bool := c = '\t' || (' ' ≤ c && c ≠ '\x7f')

/-- The input without the blanks in front. -/
def skipBlanks (input : List Char) : List Char := input.dropWhile isBlank

/-- The input without the comment in front, which ends with its line. -/
def skipComment : List Char → List Char
  | '#' :: rest => rest.dropWhile isPrintable
  | input => input

/-- Reads the end of a line that another line follows. -/
def newline? : List Char → Option (List Char)
  | '\n' :: rest => some rest
  | '\r' :: '\n' :: rest => some rest
  | _ => none

/-- Reads what may follow in a line that holds no more: blanks, a comment and the end
of the line or of the text. -/
def lineEnd? (input : List Char) : Option (List Char) :=
  match skipComment (skipBlanks input) with
  | [] => some []
  | rest => newline? rest

theorem newline?_length_lt {input rest : List Char} (h : newline? input = some rest) :
    rest.length < input.length := by
  unfold newline? at h
  split at h <;> cases h <;> simp only [List.length_cons] <;> omega

theorem skipBlanks_length_le (input : List Char) : (skipBlanks input).length ≤ input.length :=
  (List.dropWhile_sublist _).length_le

theorem skipComment_length_le (input : List Char) :
    (skipComment input).length ≤ input.length := by
  unfold skipComment
  split
  · exact Nat.le_succ_of_le (List.dropWhile_sublist _).length_le
  · exact Nat.le_refl _

/-- The input without the blanks, comments and line ends in front. -/
def skipTrivia (input : List Char) : List Char :=
  match _ : newline? (skipComment (skipBlanks input)) with
  | some left => skipTrivia left
  | none => skipComment (skipBlanks input)
termination_by input.length
decreasing_by
  rename_i h
  have := newline?_length_lt h
  have := skipBlanks_length_le input
  have := skipComment_length_le (skipBlanks input)
  omega

/-- The input without the blanks and line ends in front. -/
def skipBlankLines (input : List Char) : List Char :=
  match _ : newline? (skipBlanks input) with
  | some left => skipBlankLines left
  | none => skipBlanks input
termination_by input.length
decreasing_by
  rename_i h
  have := newline?_length_lt h
  have := skipBlanks_length_le input
  omega

theorem skipBlankLines_length_le (input : List Char) :
    (skipBlankLines input).length ≤ input.length := by
  fun_induction skipBlankLines input with
  | case1 input left h ih =>
    have := newline?_length_lt h
    have := skipBlanks_length_le input
    omega
  | case2 input h => exact skipBlanks_length_le input

end RemoteShell.Toml
