/-!
# UTF-8

`utf8` writes characters as bytes. `nextChar` reads one character and is the
only place that knows which byte sequences are well formed; `decode?` wants a
whole well-formed text and `decodeLossy` puts a replacement character where the
bytes are not.
-/

namespace RemoteShell.Text

/-- The bytes of a text. -/
def utf8 (text : List Char) : List UInt8 := text.flatMap String.utf8EncodeChar

/-- A byte that continues a sequence. -/
def isContinuation (byte : UInt8) : Bool := 128 ≤ byte && byte ≤ 191

/-- How the bytes that follow a leading byte are read: how many there are, the
bits the leading byte gives, and the bounds of the first of them. The bounds
keep out overlong forms, surrogates and values past the last code point. -/
def sequenceOf (lead : UInt8) : Option (Nat × Nat × UInt8 × UInt8) :=
  let n := lead.toNat
  if n < 128 then some (0, n, 0, 0)
  else if 194 ≤ n ∧ n ≤ 223 then some (1, n - 192, 128, 191)
  else if n = 224 then some (2, 0, 160, 191)
  else if n = 237 then some (2, 13, 128, 159)
  else if 225 ≤ n ∧ n ≤ 239 then some (2, n - 224, 128, 191)
  else if n = 240 then some (3, 0, 144, 191)
  else if 241 ≤ n ∧ n ≤ 243 then some (3, n - 240, 128, 191)
  else if n = 244 then some (3, 4, 128, 143)
  else none

/-- Reads `count` continuation bytes on top of the bits read so far. Where one is
missing, the bytes before it have been used up. -/
def readContinuations : Nat → Nat → List UInt8 → Option Nat × List UInt8
  | 0, bits, rest => (some bits, rest)
  | _ + 1, _, [] => (none, [])
  | count + 1, bits, byte :: rest =>
    if isContinuation byte then readContinuations count (bits * 64 + (byte.toNat - 128)) rest
    else (none, byte :: rest)

/-- Reads one character. With no well-formed sequence at the front there is no
character, and the longest front part of a possible sequence is used up. -/
def nextChar (lead : UInt8) (rest : List UInt8) : Option Char × List UInt8 :=
  match sequenceOf lead with
  | none => (none, rest)
  | some (0, bits, _, _) => (some (Char.ofNat bits), rest)
  | some (count + 1, bits, low, high) =>
    match rest with
    | [] => (none, [])
    | second :: tail =>
      if low ≤ second ∧ second ≤ high then
        let (code, left) := readContinuations count (bits * 64 + (second.toNat - 128)) tail
        (code.map Char.ofNat, left)
      else (none, second :: tail)

theorem readContinuations_length_le (count bits : Nat) (bytes : List UInt8) :
    (readContinuations count bits bytes).2.length ≤ bytes.length := by
  fun_induction readContinuations count bits bytes with
  | case3 _ _ _ _ _ ih => exact Nat.le_succ_of_le ih
  | _ => exact Nat.le_refl _

/-- Reading a character uses up at least its leading byte. -/
theorem nextChar_length_le (lead : UInt8) (rest : List UInt8) :
    (nextChar lead rest).2.length ≤ rest.length := by
  unfold nextChar
  split
  · simp
  · simp
  · split
    · simp
    · split
      · exact Nat.le_succ_of_le (readContinuations_length_le ..)
      · simp

/-- The text that the bytes spell, if they are well formed throughout. -/
def decode? : List UInt8 → Option (List Char)
  | [] => some []
  | lead :: rest =>
    match _ : nextChar lead rest with
    | (some c, left) => (decode? left).map (c :: ·)
    | (none, _) => none
termination_by bytes => bytes.length
decreasing_by
  rename_i h
  have hle := nextChar_length_le lead rest
  rw [h] at hle
  exact Nat.lt_succ_of_le hle

/-- The text that the bytes spell, with a replacement character for each front
part of a sequence that does not go on. -/
def decodeLossy : List UInt8 → List Char
  | [] => []
  | lead :: rest =>
    match _ : nextChar lead rest with
    | (some c, left) => c :: decodeLossy left
    | (none, left) => '\uFFFD' :: decodeLossy left
termination_by bytes => bytes.length
decreasing_by
  all_goals
    rename_i h
    have hle := nextChar_length_le lead rest
    rw [h] at hle
    exact Nat.lt_succ_of_le hle

end RemoteShell.Text
