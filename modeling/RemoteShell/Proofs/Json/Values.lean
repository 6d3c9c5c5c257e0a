import RemoteShell.Proofs.Json.Tokens

/-!
# Reading values of an expected type

Texts and whole numbers are read exactly as they are written: with blanks in front, and
with the value that their characters stand for.
-/

namespace RemoteShell.Json

variable {input rest body digits literal : List Char}

/-- A reader takes the literals of some kind, with blanks in front, and finds the values
that they stand for. The literal may be a number, and ends where no further character of
one follows. -/
structure Reads {α : Type} (read : List Char → Except Error (α × List Char))
    (IsLiteral : α → List Char → Prop) : Prop where
  sound : ∀ {input rest : List Char} {value : α}, read input = .ok (value, rest) →
    ∃ before literal, IsBlanks before ∧ IsLiteral value literal ∧
      input = before ++ (literal ++ rest)
  complete : ∀ {before literal rest : List Char} {value : α}, IsBlanks before →
    IsLiteral value literal → EndsNumber rest →
    read (before ++ (literal ++ rest)) = .ok (value, rest)

/-! ## Texts -/

theorem isQuoted_of_readTextValue {text : String} (h : readTextValue input = .ok (text, rest)) :
    ∃ before literal, IsBlanks before ∧ IsQuoted text literal ∧
      input = before ++ (literal ++ rest) := by
  unfold readTextValue at h
  split at h
  · cases h
  · rename_i c tail hskip
    obtain ⟨-, before, hbefore, rfl⟩ := skipBlanks_eq_cons_iff.mp hskip
    split at h
    · rename_i hquote
      split at h
      · cases h
      · rename_i chars left hread
        cases h
        obtain ⟨body, hbody, rfl⟩ := readText_eq_ok_iff.mp hread
        have hchars : IsText (String.ofList chars).toList body := by simpa using hbody
        exact ⟨before, _, hbefore, .mk hchars, by simp [hquote]⟩
    · cases h

/-- Texts are read with their escapes resolved. -/
theorem reads_text : Reads readTextValue IsQuoted where
  sound := isQuoted_of_readTextValue
  complete := by
    rintro before _ rest text hbefore ⟨hbody⟩ _
    have hread := readText_of_isText hbody rest
    simp [readTextValue, skipBlanks_append hbefore, skipBlanks_cons, isBlank, hread]

/-! ## Significands -/

/-- The digits of a number only make it greater. -/
theorem le_foldl_digits (value : Nat) (digits : List Char) :
    value ≤ digits.foldl (fun acc c => acc * 10 + digitValue c) value := by
  induction digits generalizing value with
  | nil => exact Nat.le_refl value
  | cons c later ih =>
    have hnext := ih (value * 10 + digitValue c)
    rw [List.foldl_cons]
    omega

/-- Digits whose value is small enough are all kept. -/
theorem significand_of_le {value : Nat}
    (h : digits.foldl (fun acc c => acc * 10 + digitValue c) value ≤ maxSignificand) :
    significand value digits =
      (digits.foldl (fun acc c => acc * 10 + digitValue c) value, 0) := by
  induction digits generalizing value with
  | nil => rfl
  | cons c later ih =>
    rw [List.foldl_cons] at h ⊢
    have hnext := le_foldl_digits (value * 10 + digitValue c) later
    have hfits : value * 10 + digitValue c ≤ maxSignificand := Nat.le_trans hnext h
    rw [significand, if_pos hfits, ih h]

/-- If no digit is left out, the significand is the value of the digits. -/
theorem of_significand_eq {value kept : Nat} (h : significand value digits = (kept, 0)) :
    kept = digits.foldl (fun acc c => acc * 10 + digitValue c) value := by
  induction digits generalizing value with
  | nil =>
    cases h
    rfl
  | cons c later ih =>
    rw [significand] at h
    split at h
    · exact ih h
    · cases h

/-! ## Whole numbers -/

/-- Tells whether a number is one of the whole numbers of 64 bits. -/
def Number.isWhole : Number → Bool
  | natural _ | negative _ => true
  | real .. => false

theorem isWhole_of_realNumber {negative : Bool} {value : Nat} {exponent : Int} {number : Number}
    (h : realNumber negative value exponent input = .ok (number, rest)) :
    number.isWhole = false := by
  unfold realNumber at h
  split at h
  · cases h
    rfl
  · cases h

theorem isWhole_of_readScaled {negative : Bool} {value : Nat} {exponent : Int} {number : Number}
    (h : readScaled negative value exponent input = .ok (number, rest)) :
    number.isWhole = false := by
  unfold readScaled at h
  split at h
  · split at h
    · cases h
    · exact isWhole_of_realNumber h
  · split at h
    · cases h
    · exact isWhole_of_realNumber h
  · exact isWhole_of_realNumber h

theorem of_wholeNumber {isNegative : Bool} {value : Nat} {number : Number}
    (h : wholeNumber isNegative value input = .ok (number, rest))
    (hwhole : number.isWhole = true) :
    input = rest ∧ (isNegative = false ∧ number = .natural value ∨
      isNegative = true ∧ number = .negative value ∧ 1 ≤ value ∧ value ≤ maxNegative) := by
  unfold wholeNumber at h
  split at h
  · rename_i hnegative
    split at h
    · rename_i hrange
      cases h
      exact ⟨rfl, .inr ⟨hnegative, rfl, hrange⟩⟩
    · simp [isWhole_of_realNumber h] at hwhole
  · rename_i hpositive
    cases h
    exact ⟨rfl, .inl ⟨by simpa using hpositive, rfl⟩⟩

/-- A whole number has neither a fraction nor an exponent, and no digit of it is left out. -/
theorem of_readFraction {negative : Bool} {value omitted : Nat} {number : Number}
    (h : readFraction negative value omitted input = .ok (number, rest))
    (hwhole : number.isWhole = true) :
    omitted = 0 ∧ wholeNumber negative value input = .ok (number, rest) := by
  unfold readFraction at h
  split at h
  · split at h
    · cases h
    · cases h
    · simp [isWhole_of_readScaled h] at hwhole
  · simp [isWhole_of_readScaled h] at hwhole
  · simp [isWhole_of_readScaled h] at hwhole
  · split at h
    · rename_i homitted
      exact ⟨homitted, h⟩
    · simp [isWhole_of_readScaled h] at hwhole

/-- Reading a whole number passes over its digits. -/
theorem of_readNumber {negative : Bool} {number : Number}
    (h : readNumber negative input = .ok (number, rest)) (hwhole : number.isWhole = true) :
    ∃ digits, IsWhole digits ∧ input = digits ++ rest ∧
      wholeNumber negative (digitsValue digits) rest = .ok (number, rest) := by
  unfold readNumber at h
  split at h
  · cases h
  · rename_i c tail
    split at h
    · rename_i hzero
      split at h
      · obtain ⟨-, hnumber⟩ := of_readFraction h hwhole
        obtain ⟨rfl, -⟩ := of_wholeNumber hnumber hwhole
        refine ⟨['0'], .zero, by rw [hzero]; rfl, hnumber⟩
      · cases h
    · rename_i hzero
      split at h
      · rename_i hdigit
        cases hsplit : splitDigits (c :: tail) with
        | mk digits left =>
          rw [hsplit] at h
          obtain ⟨hdigits, hends, hinput⟩ := of_splitDigits_eq hsplit
          cases hkept : significand 0 digits with
          | mk kept omitted =>
            simp only [hkept] at h
            obtain ⟨rfl, hnumber⟩ := of_readFraction h hwhole
            obtain ⟨rfl, -⟩ := of_wholeNumber hnumber hwhole
            refine ⟨digits, ?_, hinput, ?_⟩
            · cases digits with
              | nil =>
                rw [List.nil_append] at hinput
                have hc : c.isDigit = false := hends c (by rw [← hinput]; rfl)
                simp [hdigit] at hc
              | cons d later =>
                obtain ⟨rfl, -⟩ := List.cons.inj hinput
                exact .digits hdigit hzero fun d hd => hdigits d (List.mem_cons_of_mem _ hd)
            · rw [digitsValue, ← of_significand_eq hkept]
              exact hnumber
      · cases h

theorem readFraction_of_endsNumber (negative : Bool) (value : Nat) (hrest : EndsNumber rest) :
    readFraction negative value 0 rest = wholeNumber negative value rest := by
  unfold readFraction
  split
  · exact absurd rfl (hrest '.' rfl).2.1
  · exact absurd rfl (hrest 'e' rfl).2.2.1
  · exact absurd rfl (hrest 'E' rfl).2.2.2
  · rw [if_pos rfl]

/-- A whole number that is not too long is read as such. -/
theorem readNumber_of_isWhole (negative : Bool) (hdigits : IsWhole digits)
    (hfits : digitsValue digits ≤ maxSignificand) (hrest : EndsNumber rest) :
    readNumber negative (digits ++ rest) = wholeNumber negative (digitsValue digits) rest := by
  have hfraction := readFraction_of_endsNumber negative (digitsValue digits) hrest
  cases hdigits with
  | zero =>
    have hnone : ∀ c ∈ ([] : List Char), c.isDigit = true := by simp
    have hsplit := splitDigits_append hnone hrest.endsDigits
    rw [List.nil_append] at hsplit
    simpa [readNumber, hsplit, digitsValue, digitValue] using hfraction
  | @digits c later hdigit hzero hlater =>
    have hall : ∀ d ∈ c :: later, d.isDigit = true := by
      simpa [hdigit] using hlater
    have hsplit : splitDigits (c :: (later ++ rest)) = (c :: later, rest) :=
      splitDigits_append hall hrest.endsDigits
    have hkept : significand 0 (c :: later) = (digitsValue (c :: later), 0) :=
      significand_of_le hfits
    simpa [readNumber, hdigit, hzero, hsplit, hkept] using hfraction

/-- A whole number other than zero has a value. -/
theorem digitsValue_pos (hdigits : IsWhole digits) (hzero : digits ≠ ['0']) :
    0 < digitsValue digits := by
  cases hdigits with
  | zero => exact absurd rfl hzero
  | @digits c later hdigit hc =>
    have hpositive : 0 < digitValue c := by
      have hrange : 48 ≤ c.toNat := by
        simp only [Char.isDigit, Bool.and_eq_true, decide_eq_true_eq] at hdigit
        exact hdigit.1
      have hne : c.toNat ≠ 48 := fun heq => hc (Char.toNat_inj.mp heq)
      rw [digitValue]
      omega
    have hle := le_foldl_digits (0 * 10 + digitValue c) later
    rw [digitsValue, List.foldl_cons]
    omega

/-! ## Whole numbers as values -/

/-- Reads a whole number after its sign. -/
def readSigned (isNegative : Bool) (input : List Char) : Except Error (Int64 × List Char) :=
  match readNumber isNegative input with
  | .error e => .error e
  | .ok (number, left) => number.toInt64?.map (·, left)

theorem readIntegerValue_eq (input : List Char) :
    readIntegerValue input =
      match skipBlanks input with
      | [] => .error (.incomplete .value)
      | c :: rest =>
        if c = '-' then readSigned true rest
        else if c.isDigit then readSigned false (c :: rest)
        else .error (mismatch integerName c rest) := rfl

theorem isWhole_of_toInt64? {number : Number} {value : Int64}
    (h : number.toInt64? = .ok value) : number.isWhole = true := by
  cases number with
  | real => cases h
  | natural | negative => rfl

theorem toInt_of_natural {value : Nat} {result : Int64}
    (h : (Number.natural value).toInt64? = .ok result) : result.toInt = value := by
  simp only [Number.toInt64?] at h
  split at h
  · rename_i hfits
    cases h
    exact Int64.toInt_ofNat_of_lt (by simpa [maxNegative] using hfits)
  · cases h

theorem toInt_of_negative {value : Nat} {result : Int64} (hfits : value ≤ maxNegative)
    (h : (Number.negative value).toInt64? = .ok result) : result.toInt = -(value : Int) := by
  cases h
  rw [maxNegative] at hfits
  exact Int64.toInt_ofInt_of_le (by omega) (by omega)

theorem of_readSigned {isNegative : Bool} {value : Int64}
    (h : readSigned isNegative input = .ok (value, rest)) :
    ∃ digits, IsInteger value (if isNegative then '-' :: digits else digits) ∧
      input = digits ++ rest := by
  unfold readSigned at h
  split at h
  · cases h
  · rename_i number left hread
    obtain ⟨result, hresult, rfl, rfl⟩ : ∃ result, number.toInt64? = .ok result ∧
        result = value ∧ left = rest := by
      cases hresult : number.toInt64? with
      | error e => simp [hresult, Except.map] at h
      | ok result => simpa [hresult, Except.map] using h
    have hwhole := isWhole_of_toInt64? hresult
    obtain ⟨digits, hdigits, rfl, hnumber⟩ := of_readNumber hread hwhole
    refine ⟨digits, ?_, rfl⟩
    rcases (of_wholeNumber hnumber hwhole).2 with ⟨rfl, rfl⟩ | ⟨rfl, rfl, hpositive, hfits⟩
    · exact .natural hdigits (toInt_of_natural hresult)
    · refine .negative hdigits ?_ (toInt_of_negative hfits hresult)
      rintro rfl
      exact absurd hpositive (by decide)

theorem readSigned_of_natural {value : Int64} (hdigits : IsWhole digits)
    (hvalue : value.toInt = digitsValue digits) (hrest : EndsNumber rest) :
    readSigned false (digits ++ rest) = .ok (value, rest) := by
  have hlt := Int64.toInt_lt value
  have hkept : digitsValue digits ≤ maxSignificand := by
    rw [maxSignificand]
    omega
  have hfits : digitsValue digits < maxNegative := by
    rw [maxNegative]
    omega
  have hsame : Int64.ofNat (digitsValue digits) = value := by
    rw [← Int64.ofInt_eq_ofNat, ← hvalue, Int64.ofInt_toInt]
  rw [readSigned, readNumber_of_isWhole false hdigits hkept hrest]
  simp [wholeNumber, Number.toInt64?, hfits, hsame, Except.map]

theorem readSigned_of_negative {value : Int64} (hdigits : IsWhole digits)
    (hzero : digits ≠ ['0']) (hvalue : value.toInt = -(digitsValue digits : Int))
    (hrest : EndsNumber rest) : readSigned true (digits ++ rest) = .ok (value, rest) := by
  have hle := Int64.le_toInt value
  have hpositive := digitsValue_pos hdigits hzero
  have hkept : digitsValue digits ≤ maxSignificand := by
    rw [maxSignificand]
    omega
  have hrange : 1 ≤ digitsValue digits ∧ digitsValue digits ≤ maxNegative := by
    rw [maxNegative]
    omega
  have hsame : Int64.ofInt (-(digitsValue digits : Int)) = value := by
    rw [← hvalue, Int64.ofInt_toInt]
  rw [readSigned, readNumber_of_isWhole true hdigits hkept hrest]
  simp only [wholeNumber, if_true, if_pos hrange, Number.toInt64?, hsame, Except.map]

theorem IsWhole.exists_cons (h : IsWhole digits) :
    ∃ c later, digits = c :: later ∧ c.isDigit = true := by
  cases h with
  | zero => exact ⟨'0', [], rfl, rfl⟩
  | @digits c later hdigit => exact ⟨c, later, rfl, hdigit⟩

theorem isBlank_of_isDigit {c : Char} (h : c.isDigit = true) : isBlank c = false := by
  refine Bool.eq_false_iff.mpr fun hblank => ?_
  simp only [isBlank, Bool.or_eq_true, decide_eq_true_eq] at hblank
  rcases hblank with ((rfl | rfl) | rfl) | rfl <;> simp at h

theorem readIntegerValue_of_isInteger {value : Int64} {before : List Char}
    (hbefore : IsBlanks before) (h : IsInteger value literal) (hrest : EndsNumber rest) :
    readIntegerValue (before ++ (literal ++ rest)) = .ok (value, rest) := by
  rw [readIntegerValue_eq, skipBlanks_append hbefore]
  cases h with
  | natural hdigits hvalue =>
    have hread := readSigned_of_natural hdigits hvalue hrest
    obtain ⟨c, later, rfl, hc⟩ := hdigits.exists_cons
    have hsign : c ≠ '-' := ne_of_isDigit hc rfl
    rw [List.cons_append] at hread ⊢
    rw [skipBlanks_cons (isBlank_of_isDigit hc)]
    simp [hsign, hc, hread]
  | negative hdigits hzero hvalue =>
    have hread := readSigned_of_negative hdigits hzero hvalue hrest
    rw [List.cons_append, skipBlanks_cons rfl]
    simpa using hread

theorem isInteger_of_readIntegerValue {value : Int64}
    (h : readIntegerValue input = .ok (value, rest)) :
    ∃ before literal, IsBlanks before ∧ IsInteger value literal ∧
      input = before ++ (literal ++ rest) := by
  rw [readIntegerValue_eq] at h
  split at h
  · cases h
  · rename_i c tail hskip
    obtain ⟨-, before, hbefore, rfl⟩ := skipBlanks_eq_cons_iff.mp hskip
    split at h
    · rename_i hsign
      obtain ⟨digits, hinteger, rfl⟩ := of_readSigned h
      exact ⟨before, '-' :: digits, hbefore, hinteger, by rw [hsign]; rfl⟩
    · split at h
      · obtain ⟨digits, hinteger, hinput⟩ := of_readSigned h
        exact ⟨before, digits, hbefore, hinteger, by rw [hinput]⟩
      · cases h

/-- Whole numbers of 64 bits are read with their values. -/
theorem reads_integer : Reads readIntegerValue IsInteger where
  sound := isInteger_of_readIntegerValue
  complete := readIntegerValue_of_isInteger

end RemoteShell.Json
