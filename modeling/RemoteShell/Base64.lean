/-!
# Base64 with the standard alphabet

Four symbols carry three bytes. The last group may be filled with one or two
pads, and then the bits that carry no byte are zero, so each byte string has
exactly one text. `encode` writes that text and `decode` reads it back.
-/

namespace RemoteShell.Base64

/-- Why a text is not the base64 of any bytes. Offsets count bytes of the text. -/
inductive Error where
  /-- A byte outside the alphabet, or a pad where a symbol is due. -/
  | invalidSymbol (offset : Nat) (symbol : UInt8)
  /-- The last symbol has bits set that carry no byte. -/
  | invalidLastSymbol (offset : Nat) (symbol : UInt8)
  /-- The last group has a single symbol. -/
  | invalidLength (length : Nat)
  /-- The last group is not filled to four with pads. -/
  | invalidPadding
  deriving DecidableEq, Repr

/-- The wording of an error. -/
def Error.message : Error → String
  | .invalidSymbol offset symbol => s!"Invalid symbol {symbol.toNat}, offset {offset}."
  | .invalidLastSymbol offset symbol =>
    s!"Invalid last symbol {symbol.toNat}, offset {offset}."
  | .invalidLength length => s!"Invalid input length: {length}"
  | .invalidPadding => "Invalid padding"

/-- The filler of the last group, an equals sign. -/
def pad : UInt8 := 61

/-- The symbol of a value below 64: `A` to `Z`, `a` to `z`, `0` to `9`, `+`, `/`. -/
def symbol (value : Nat) : UInt8 :=
  if value < 26 then .ofNat (value + 65)
  else if value < 52 then .ofNat (value + 71)
  else if value < 62 then .ofNat (value - 4)
  else if value = 62 then 43
  else 47

/-- The value of a symbol; none for a byte outside the alphabet, the pad included. -/
def value? (symbol : UInt8) : Option Nat :=
  let n := symbol.toNat
  if 65 ≤ n ∧ n ≤ 90 then some (n - 65)
  else if 97 ≤ n ∧ n ≤ 122 then some (n - 71)
  else if 48 ≤ n ∧ n ≤ 57 then some (n + 4)
  else if n = 43 then some 62
  else if n = 47 then some 63
  else none

/-- The text of a byte string. -/
def encode : List UInt8 → List UInt8
  | [] => []
  | [a] => [symbol (a.toNat / 4), symbol (a.toNat % 4 * 16), pad, pad]
  | [a, b] =>
    [symbol (a.toNat / 4), symbol (a.toNat % 4 * 16 + b.toNat / 16),
      symbol (b.toNat % 16 * 4), pad]
  | a :: b :: c :: rest =>
    symbol (a.toNat / 4) :: symbol (a.toNat % 4 * 16 + b.toNat / 16) ::
      symbol (b.toNat % 16 * 4 + c.toNat / 64) :: symbol (c.toNat % 64) :: encode rest

/-- The value of the symbol at an offset. -/
def valueAt (offset : Nat) (symbol : UInt8) : Except Error Nat :=
  match value? symbol with
  | some value => .ok value
  | none => .error (.invalidSymbol offset symbol)

/-- The first byte of a group. -/
def firstByte (va vb : Nat) : UInt8 := .ofNat (va * 4 + vb / 16)

/-- The second byte of a group. -/
def secondByte (vb vc : Nat) : UInt8 := .ofNat (vb % 16 * 16 + vc / 4)

/-- The third byte of a group. -/
def thirdByte (vc vd : Nat) : UInt8 := .ofNat (vc % 4 * 64 + vd)

/-- Reads the last group, which may be short or hold pads. -/
def decodeLast (offset : Nat) : List UInt8 → Except Error (List UInt8)
  | [] => .ok []
  | [a] => do
    let _ ← valueAt offset a
    throw (.invalidLength (offset + 1))
  | [a, b] => do
    let _ ← valueAt offset a
    let _ ← valueAt (offset + 1) b
    throw .invalidPadding
  | [a, b, c] => do
    let _ ← valueAt offset a
    let _ ← valueAt (offset + 1) b
    if c ≠ pad then
      let _ ← valueAt (offset + 2) c
    throw .invalidPadding
  | a :: b :: c :: d :: _ => do
    let va ← valueAt offset a
    let vb ← valueAt (offset + 1) b
    if c = pad then
      if d ≠ pad then throw (.invalidSymbol (offset + 2) pad)
      if vb % 16 ≠ 0 then throw (.invalidLastSymbol (offset + 1) b)
      return [firstByte va vb]
    let vc ← valueAt (offset + 2) c
    if d = pad then
      if vc % 4 ≠ 0 then throw (.invalidLastSymbol (offset + 2) c)
      return [firstByte va vb, secondByte vb vc]
    let vd ← valueAt (offset + 3) d
    return [firstByte va vb, secondByte vb vc, thirdByte vc vd]

/-- Reads the text from an offset on; only its last group may be short or padded. -/
def decodeFrom (offset : Nat) : List UInt8 → Except Error (List UInt8)
  | a :: b :: c :: d :: e :: rest => do
    let va ← valueAt offset a
    let vb ← valueAt (offset + 1) b
    let vc ← valueAt (offset + 2) c
    let vd ← valueAt (offset + 3) d
    let bytes ← decodeFrom (offset + 4) (e :: rest)
    return firstByte va vb :: secondByte vb vc :: thirdByte vc vd :: bytes
  | last => decodeLast offset last

/-- Tells whether a byte can neither be a symbol nor a pad. -/
def isForeign (symbol : UInt8) : Bool := symbol ≠ pad ∧ value? symbol = none

/-- Reads a text. A foreign byte that stands alone at the end, such as a line
break, is reported before anything else. -/
def decode (text : List UInt8) : Except Error (List UInt8) :=
  match text.getLast? with
  | some last =>
    if text.length % 4 = 1 ∧ isForeign last then
      .error (.invalidSymbol (text.length - 1) last)
    else decodeFrom 0 text
  | none => .ok []

end RemoteShell.Base64
