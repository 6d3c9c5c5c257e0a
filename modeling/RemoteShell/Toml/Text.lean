import RemoteShell.Text.Hex
import RemoteShell.Toml.Trivia

/-!
# Texts in TOML

A text stands between quotes of one of two kinds, double ones with escapes and
single ones without, and either on one line or, between quotes written three
times, on several. Main statement: an escape uses up characters
(`escape?_length_lt`), so reading a text ends.
-/

namespace RemoteShell.Toml

/-- The characters that stand for themselves between double quotes. -/
def isPlain (c : Char) : Bool := isPrintable c && c ≠ '"' && c ≠ '\\'

/-- The characters that stand for themselves between single quotes. -/
def isLiteral (c : Char) : Bool := isPrintable c && c ≠ '\''

/-- Reads that many digits in base sixteen on top of a value. -/
def readHex : Nat → Nat → List Char → Option (Nat × List Char)
  | 0, value, rest => some (value, rest)
  | _ + 1, _, [] => none
  | count + 1, value, c :: rest => do readHex count (value * 16 + (← Text.hexValue? c)) rest

/-- The character with that number, if there is one. -/
def charOf? (code : Nat) : Option Char := if code.isValidChar then some (Char.ofNat code) else none

/-- The characters that have an escape of one letter. -/
def letterEscape? : Char → Option Char
  | 'b' => some '\x08'
  | 'f' => some '\x0c'
  | 'n' => some '\n'
  | 'r' => some '\r'
  | 't' => some '\t'
  | '"' => some '"'
  | '\\' => some '\\'
  | _ => none

/-- How many digits follow the letter of a numeric escape. -/
def escapeDigits? : Char → Option Nat
  | 'u' => some 4
  | 'U' => some 8
  | _ => none

/-- Reads an escape after its backslash. -/
def escape? : List Char → Option (Char × List Char)
  | [] => none
  | letter :: rest =>
    match letterEscape? letter with
    | some c => some (c, rest)
    | none => do
      let (code, rest) ← readHex (← escapeDigits? letter) 0 rest
      return (← charOf? code, rest)

theorem readHex_length_le {count value code : Nat} {input rest : List Char}
    (h : readHex count value input = some (code, rest)) : rest.length ≤ input.length := by
  fun_induction readHex count value input with
  | case1 => simp_all
  | case2 => cases h
  | case3 count value c tail ih =>
    simp only [bind, Option.bind_eq_some_iff] at h
    obtain ⟨digit, _, h⟩ := h
    exact Nat.le_succ_of_le (ih digit h)

theorem escape?_length_lt {input rest : List Char} {c : Char} (h : escape? input = some (c, rest)) :
    rest.length < input.length := by
  unfold escape? at h
  split at h
  · cases h
  · split at h
    · cases h
      exact Nat.lt_succ_self _
    · simp only [bind, Option.bind_eq_some_iff, Prod.exists] at h
      obtain ⟨count, _, code, left, hread, c, _, h⟩ := h
      cases h
      exact Nat.lt_succ_of_le (readHex_length_le hread)

/-- Reads the rest of a text on one line between double quotes. -/
def plainText? : List Char → Option (List Char × List Char)
  | [] => none
  | '"' :: rest => some ([], rest)
  | '\\' :: rest =>
    match _ : escape? rest with
    | none => none
    | some (c, left) => (plainText? left).map fun (text, left) => (c :: text, left)
  | c :: rest =>
    if isPlain c then (plainText? rest).map fun (text, left) => (c :: text, left) else none
termination_by input => input.length
decreasing_by
  · rename_i h
    have := escape?_length_lt h
    simp only [List.length_cons]
    omega
  · simp

/-- Reads the rest of a text on one line between single quotes. -/
def literalText? (input : List Char) : Option (List Char × List Char) :=
  match input.dropWhile isLiteral with
  | '\'' :: rest => some (input.takeWhile isLiteral, rest)
  | _ => none

/-- Reads the rest of a text on several lines between double quotes. One or two quotes
in a row belong to the text, also before the three that end it. A backslash at the
end of a line joins the line with what follows the blank lines after it. -/
def plainBlock? : List Char → Option (List Char × List Char)
  | '"' :: '"' :: '"' :: '"' :: '"' :: rest => some (['"', '"'], rest)
  | '"' :: '"' :: '"' :: '"' :: rest => some (['"'], rest)
  | '"' :: '"' :: '"' :: rest => some ([], rest)
  | '\\' :: rest =>
    match _ : newline? (skipBlanks rest) with
    | some left => plainBlock? (skipBlankLines left)
    | none =>
      match _ : escape? rest with
      | none => none
      | some (c, left) => (plainBlock? left).map fun (text, left) => (c :: text, left)
  | '\r' :: '\n' :: rest => (plainBlock? rest).map fun (text, left) => ('\n' :: text, left)
  | c :: rest =>
    if isPlain c ∨ c = '"' ∨ c = '\n' then
      (plainBlock? rest).map fun (text, left) => (c :: text, left)
    else none
  | [] => none
termination_by input => input.length
decreasing_by
  · rename_i h
    have := newline?_length_lt h
    have := skipBlanks_length_le rest
    have := skipBlankLines_length_le left
    simp only [List.length_cons]
    omega
  · rename_i h
    have := escape?_length_lt h
    simp only [List.length_cons]
    omega
  · simp only [List.length_cons]
    omega
  · simp

/-- Reads the rest of a text on several lines between single quotes. -/
def literalBlock? : List Char → Option (List Char × List Char)
  | '\'' :: '\'' :: '\'' :: '\'' :: '\'' :: rest => some (['\'', '\''], rest)
  | '\'' :: '\'' :: '\'' :: '\'' :: rest => some (['\''], rest)
  | '\'' :: '\'' :: '\'' :: rest => some ([], rest)
  | '\r' :: '\n' :: rest => (literalBlock? rest).map fun (text, left) => ('\n' :: text, left)
  | c :: rest =>
    if isPrintable c ∨ c = '\n' then
      (literalBlock? rest).map fun (text, left) => (c :: text, left)
    else none
  | [] => none

/-- The input without the line end right after the opening quotes of a block. -/
def skipFirstNewline (input : List Char) : List Char := (newline? input).getD input

/-- Reads a text of any kind. -/
def text? : List Char → Option (List Char × List Char)
  | '"' :: '"' :: '"' :: rest => plainBlock? (skipFirstNewline rest)
  | '"' :: rest => plainText? rest
  | '\'' :: '\'' :: '\'' :: rest => literalBlock? (skipFirstNewline rest)
  | '\'' :: rest => literalText? rest
  | _ => none

end RemoteShell.Toml
