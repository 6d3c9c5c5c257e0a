import RemoteShell.Json.Printer
import RemoteShell.Proofs.Json.Grammar

/-!
# What is written is JSON

The writers keep to the grammar: a text stands between its quotes with each character
spelled in one of the ways that the grammar allows (`isQuoted_printText`), and a whole
number of 64 bits is written with the digits of its value (`isInteger_printInt`).
-/

namespace RemoteShell.Json

/-! ## Texts -/

/-- The escape of a control names the control by its number. -/
theorem hexValue4?_control {n : Nat} (hn : n < 32) :
    hexValue4? '0' '0' (Nat.digitChar (n / 16)) (Nat.digitChar (n % 16)) = some n := by
  revert n
  decide

theorem isSpelling_controlEscape {c : Char} (hc : c.toNat < 32) :
    IsSpelling c (controlEscape c) := by
  have hunit := hexValue4?_control hc
  have hlead : isLeadSurrogate c.toNat = false := by
    simp only [isLeadSurrogate, Bool.and_eq_false_iff, decide_eq_false_iff_not]
    omega
  have htrail : isTrailSurrogate c.toNat = false := by
    simp only [isTrailSurrogate, Bool.and_eq_false_iff, decide_eq_false_iff_not]
    omega
  have hspelling : IsSpelling (.ofNat c.toNat) (controlEscape c) := .numeric hunit hlead htrail
  rwa [Char.ofNat_toNat] at hspelling

/-- Every character is written in a way that the grammar knows. -/
theorem isSpelling_escapedChar (c : Char) : IsSpelling c (escapedChar c) := by
  unfold escapedChar
  split
  case h_8 hquote hslash _ _ _ _ _ =>
    split
    · rename_i hcontrol
      exact isSpelling_controlEscape hcontrol
    · rename_i hshown
      exact .plain hquote hslash (Nat.le_of_not_lt hshown)
  all_goals exact .short rfl

theorem isText_flatMap_escapedChar (text : List Char) :
    IsText text (text.flatMap escapedChar) := by
  induction text with
  | nil => exact .nil
  | cons c text ih =>
    rw [List.flatMap_cons]
    exact .cons (isSpelling_escapedChar c) ih

/-- A text is written between quotes. -/
theorem isQuoted_printText (text : String) : IsQuoted text (printText text.toList) := by
  rw [printText, List.cons_append]
  exact .mk (isText_flatMap_escapedChar text.toList)

/-! ## Whole numbers -/

/-- The digits of a number have its value. -/
theorem digitsValue_toDigits (n : Nat) : digitsValue (Nat.toDigits 10 n) = n := by
  have hvalue : Nat.ofDigitChars 10 (Nat.toDigits 10 n) 0 = n := Nat.ofDigitChars_ten_toDigits
  rw [Nat.ofDigitChars_eq_foldl] at hvalue
  simp only [Nat.mul_comm 10] at hvalue
  exact hvalue

/-- A whole part other than a zero goes on with any digits. -/
theorem IsWhole.append {whole later : List Char} (h : IsWhole whole) (hzero : whole ≠ ['0'])
    (hlater : ∀ c ∈ later, c.isDigit = true) : IsWhole (whole ++ later) := by
  cases h with
  | zero => exact absurd rfl hzero
  | digits hdigit hfirst hrest =>
    refine .digits hdigit hfirst fun c hc => ?_
    rcases List.mem_append.mp hc with hc | hc
    · exact hrest c hc
    · exact hlater c hc

/-- No zero stands in front of other digits. -/
theorem isWhole_toDigits (n : Nat) : IsWhole (Nat.toDigits 10 n) := by
  induction n using Nat.strongRecOn with
  | ind n ih =>
    by_cases hn : n < 10
    · rw [Nat.toDigits_of_lt_base hn]
      by_cases hzero : n = 0
      · rw [hzero]
        exact .zero
      · exact .digits (by simp [hn]) (by simpa using hzero) (by simp)
    · have hfront : Nat.toDigits 10 (n / 10) ≠ ['0'] := by
        intro h
        have hvalue := digitsValue_toDigits (n / 10)
        rw [h, show digitsValue ['0'] = 0 from rfl] at hvalue
        omega
      rw [Nat.toDigits_of_base_le (by decide) (Nat.le_of_not_lt hn)]
      exact (ih (n / 10) (by omega)).append hfront (by simp; omega)

/-- A whole number of 64 bits is written with its sign and the digits of its value. -/
theorem isInteger_printInt (value : Int64) : IsInteger value (printInt value.toInt) := by
  have hwhole := isWhole_toDigits value.toInt.natAbs
  have hvalue := digitsValue_toDigits value.toInt.natAbs
  unfold printInt
  split
  · rename_i hnegative
    have hzero : Nat.toDigits 10 value.toInt.natAbs ≠ ['0'] := by
      intro h
      rw [h, show digitsValue ['0'] = 0 from rfl] at hvalue
      omega
    exact .negative hwhole hzero (by omega)
  · exact .natural hwhole (by omega)

end RemoteShell.Json
