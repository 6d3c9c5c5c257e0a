import RemoteShell.Text.Hex
import RemoteShell.Text.Split
import RemoteShell.Text.Utf8

/-!
# Percent escapes

In an address a byte may be written as a percent sign and two digits in base
sixteen. A form is a list of named values in this writing, with `+` for a space.
Main statement: bytes without a percent sign stand for themselves
(`unescape_eq_self`).
-/

namespace RemoteShell.Text.Percent

/-- The byte of two digits in base sixteen. -/
def byteOf? (high low : UInt8) : Option UInt8 := do
  let h ← hexValue? (Char.ofNat high.toNat)
  let l ← hexValue? (Char.ofNat low.toNat)
  return .ofNat (h * 16 + l)

/-- The percent sign. -/
def sign : UInt8 := 37

/-- The bytes that are meant. A percent sign without two digits stands for itself. -/
def unescape : List UInt8 → List UInt8
  | [] => []
  | [a] => [a]
  | [a, b] => [a, b]
  | a :: b :: c :: rest =>
    if a = sign then
      match byteOf? b c with
      | some byte => byte :: unescape rest
      | none => a :: unescape (b :: c :: rest)
    else a :: unescape (b :: c :: rest)
termination_by bytes => bytes.length

/-- Bytes without a percent sign stand for themselves. -/
theorem unescape_eq_self {bytes : List UInt8} (h : sign ∉ bytes) : unescape bytes = bytes := by
  fun_induction unescape bytes with
  | case1 => rfl
  | case2 => rfl
  | case3 => rfl
  | case4 => simp at h
  | case5 => simp at h
  | case6 a b c rest _ ih => rw [ih (List.not_mem_of_not_mem_cons h)]

/-- The bytes that a name or a value of a form stands for. -/
def formBytes (bytes : List UInt8) : List UInt8 :=
  unescape (bytes.map fun byte => if byte = 43 then 32 else byte)

/-- One named value in bytes: what is before and after the first equals sign. -/
def formField (bytes : List UInt8) : List UInt8 × List UInt8 :=
  (formBytes (bytes.takeWhile (· ≠ 61)), formBytes ((bytes.dropWhile (· ≠ 61)).drop 1))

/-- The named values of a form in bytes, in order. Ampersands separate them, and nothing
between two ampersands is no value. -/
def formFields (form : String) : List (List UInt8 × List UInt8) :=
  ((split '&' form).filter (· ≠ "")).map fun part => formField (utf8 part.toList)

/-- The text of a name or a value. Bytes that spell no text give replacement characters. -/
def formText (bytes : List UInt8) : String := .ofList (decodeLossy bytes)

/-- The named values of a form as texts. -/
def formPairs (form : String) : List (String × String) :=
  (formFields form).map fun (name, value) => (formText name, formText value)

end RemoteShell.Text.Percent
