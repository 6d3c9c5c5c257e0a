import Mathlib.Data.List.TakeWhile
import RemoteShell.Json.Typed
import RemoteShell.Proofs.Json.Grammar

/-!
# Reading tokens

A reader of a token finds exactly the tokens of its kind: what it has passed over is one,
and a token in front of other characters is passed over. A text ends with its quote, so
both directions make one equivalence. A number ends where no further character fits, so
the second one asks that the next character does not (`EndsNumber`).
-/

namespace RemoteShell.Json

variable {input rest body digits : List Char}

/-! ## Blanks -/

theorem isBlanks_nil : IsBlanks [] := by
  intro c hc
  cases hc

theorem IsBlanks.append {before after : List Char} (hbefore : IsBlanks before)
    (hafter : IsBlanks after) : IsBlanks (before ++ after) := by
  intro c hc
  rcases List.mem_append.mp hc with hc | hc
  · exact hbefore c hc
  · exact hafter c hc

/-- The blanks in front of a text are passed over. -/
theorem skipBlanks_append {before : List Char} (hbefore : IsBlanks before) (input : List Char) :
    skipBlanks (before ++ input) = skipBlanks input := by
  rw [skipBlanks, List.dropWhile_append_of_pos hbefore]
  rfl

theorem skipBlanks_cons {c : Char} (hc : isBlank c = false) (rest : List Char) :
    skipBlanks (c :: rest) = c :: rest := by
  simp [skipBlanks, hc]

theorem exists_blanks (input : List Char) :
    ∃ before, IsBlanks before ∧ input = before ++ skipBlanks input := by
  refine ⟨input.takeWhile isBlank, fun c hc => ?_, (List.takeWhile_append_dropWhile).symm⟩
  exact List.all_eq_true.mp List.all_takeWhile c hc

theorem skipBlanks_eq_nil_iff : skipBlanks input = [] ↔ IsBlanks input :=
  List.dropWhile_eq_nil_iff

/-- After the blanks comes a character that is none. -/
theorem skipBlanks_eq_cons_iff {c : Char} :
    skipBlanks input = c :: rest ↔
      isBlank c = false ∧ ∃ before, IsBlanks before ∧ input = before ++ c :: rest := by
  constructor
  · intro h
    obtain ⟨before, hbefore, hinput⟩ := exists_blanks input
    rw [h] at hinput
    refine ⟨?_, before, hbefore, hinput⟩
    have hhead := List.head?_dropWhile_not isBlank input
    rw [show input.dropWhile isBlank = c :: rest from h] at hhead
    simpa using hhead
  · rintro ⟨hc, before, hbefore, rfl⟩
    rw [skipBlanks_append hbefore, skipBlanks_cons hc]

/-! ## Words -/

theorem readWord_eq_ok_iff {letters : List Char} :
    readWord letters input = .ok rest ↔ input = letters ++ rest := by
  induction letters generalizing input with
  | nil => simp [readWord]
  | cons letter letters ih =>
    cases input with
    | nil => simp [readWord]
    | cons c input =>
      by_cases hc : c = letter
      · simp [readWord, hc, ih]
      · simp [readWord, hc]

/-! ## Texts -/

theorem readHex4_eq_ok_iff {unit : Nat} :
    readHex4 input = .ok (unit, rest) ↔
      ∃ a b c d, hexValue4? a b c d = some unit ∧ input = a :: b :: c :: d :: rest := by
  unfold readHex4
  split
  · rename_i a b c d tail
    constructor
    · intro h
      split at h
      · rename_i code hcode
        cases h
        exact ⟨a, b, c, d, hcode, rfl⟩
      · cases h
    · rintro ⟨a', b', c', d', hunit, hinput⟩
      cases hinput
      simp [hunit]
  · rename_i short hshort
    constructor
    · intro h
      split at h <;> cases h
    · rintro ⟨a, b, c, d, -, rfl⟩
      exact absurd rfl (hshort a b c d rest)

/-- No surrogate opens a pair and ends one. -/
theorem isTrailSurrogate_of_isLeadSurrogate {unit : Nat} (h : isLeadSurrogate unit = true) :
    isTrailSurrogate unit = false := by
  simp only [isLeadSurrogate, isTrailSurrogate, Bool.and_eq_true, decide_eq_true_eq] at h ⊢
  simp
  omega

theorem simpleEscape?_u : simpleEscape? 'u' = none := rfl

/-- What a numeric escape is after its letter. -/
theorem readUnicodeEscape_eq_ok_iff {c : Char} :
    readUnicodeEscape input = .ok (c, rest) ↔
      ∃ spelling, IsSpelling c ('\\' :: 'u' :: spelling) ∧ input = spelling ++ rest := by
  constructor
  · intro h
    unfold readUnicodeEscape at h
    split at h
    · cases h
    · rename_i unit tail hunit
      obtain ⟨a, b, c', d, hvalue, rfl⟩ := readHex4_eq_ok_iff.mp hunit
      split at h
      · cases h
      · rename_i htrail
        split at h
        · rename_i hlead
          split at h
          · rename_i more
            split at h
            · cases h
            · rename_i trail left hsecond
              obtain ⟨e, f, g, k, hvalue', rfl⟩ := readHex4_eq_ok_iff.mp hsecond
              split at h
              · rename_i hends
                simp only [Except.ok.injEq, Prod.mk.injEq] at h
                obtain ⟨rfl, rfl⟩ := h
                exact ⟨[a, b, c', d, '\\', 'u', e, f, g, k],
                  .paired hvalue hlead hvalue' hends, rfl⟩
              · cases h
          · cases h
          · cases h
          · cases h
        · rename_i hlead
          cases h
          exact ⟨[a, b, c', d], .numeric hvalue (by simpa using hlead) (by simpa using htrail), rfl⟩
  · rintro ⟨spelling, hspelling, rfl⟩
    cases hspelling with
    | short hletter => simp [simpleEscape?] at hletter
    | @numeric a b c d unit hunit hlead htrail =>
      have hread : readHex4 (a :: b :: c :: d :: rest) = .ok (unit, rest) :=
        readHex4_eq_ok_iff.mpr ⟨a, b, c, d, hunit, rfl⟩
      simp [readUnicodeEscape, hread, hlead, htrail]
    | @paired a b c d e f g k lead trail hfirst hlead hsecond htrail =>
      have hread : readHex4 (a :: b :: c :: d :: '\\' :: 'u' :: e :: f :: g :: k :: rest) =
          .ok (lead, '\\' :: 'u' :: e :: f :: g :: k :: rest) :=
        readHex4_eq_ok_iff.mpr ⟨a, b, c, d, hfirst, rfl⟩
      have hread' : readHex4 (e :: f :: g :: k :: rest) = .ok (trail, rest) :=
        readHex4_eq_ok_iff.mpr ⟨e, f, g, k, hsecond, rfl⟩
      have hother := isTrailSurrogate_of_isLeadSurrogate hlead
      simp [readUnicodeEscape, hread, hread', hlead, hother, htrail]

/-- What an escape is after its backslash. -/
theorem readEscape_eq_ok_iff {c : Char} :
    readEscape input = .ok (c, rest) ↔
      ∃ spelling, IsSpelling c ('\\' :: spelling) ∧ input = spelling ++ rest := by
  constructor
  · intro h
    unfold readEscape at h
    split at h
    · cases h
    · rename_i letter tail
      split at h
      · rename_i c' hletter
        cases h
        exact ⟨[letter], .short hletter, rfl⟩
      · split at h
        · rename_i hu
          subst hu
          obtain ⟨spelling, hspelling, rfl⟩ := readUnicodeEscape_eq_ok_iff.mp h
          exact ⟨'u' :: spelling, hspelling, rfl⟩
        · cases h
  · rintro ⟨spelling, hspelling, rfl⟩
    cases hspelling with
    | plain _ hslash => exact absurd rfl hslash
    | short hletter => simp [readEscape, hletter]
    | @numeric a b c d unit hunit hlead htrail =>
      have hread : readUnicodeEscape (a :: b :: c :: d :: rest) = .ok (.ofNat unit, rest) :=
        readUnicodeEscape_eq_ok_iff.mpr ⟨[a, b, c, d], .numeric hunit hlead htrail, rfl⟩
      simpa [readEscape, simpleEscape?_u] using hread
    | @paired a b c d e f g k lead trail hfirst hlead hsecond htrail =>
      have hread : readUnicodeEscape (a :: b :: c :: d :: '\\' :: 'u' :: e :: f :: g :: k :: rest) =
          .ok (pairedChar lead trail, rest) :=
        readUnicodeEscape_eq_ok_iff.mpr
          ⟨[a, b, c, d, '\\', 'u', e, f, g, k], .paired hfirst hlead hsecond htrail, rfl⟩
      simpa [readEscape, simpleEscape?_u] using hread

theorem readText_cons_of_escape {c : Char} {left text : List Char}
    (hescape : readEscape input = .ok (c, left)) (hleft : readText left = .ok (text, rest)) :
    readText ('\\' :: input) = .ok (c :: text, rest) := by
  rw [readText]
  simp only [if_false, if_true, Char.reduceEq]
  split
  · rename_i heq
    simp [hescape] at heq
  · rename_i heq
    rw [hescape] at heq
    cases heq
    simp [hleft]

/-- The spelling of a character is the character itself or an escape. -/
theorem IsSpelling.cases_escape {c : Char} {spelling : List Char} (h : IsSpelling c spelling) :
    (spelling = [c] ∧ c ≠ '"' ∧ c ≠ '\\' ∧ 32 ≤ c.toNat) ∨ ∃ escape, spelling = '\\' :: escape := by
  cases h with
  | plain hquote hslash hcontrol => exact .inl ⟨rfl, hquote, hslash, hcontrol⟩
  | short | numeric | paired => exact .inr ⟨_, rfl⟩

theorem readText_of_isText {text : List Char} (h : IsText text body) (rest : List Char) :
    readText (body ++ '"' :: rest) = .ok (text, rest) := by
  induction h with
  | nil => simp [readText]
  | @cons c spelling text body hc _ ih =>
    rw [List.append_assoc]
    rcases hc.cases_escape with ⟨rfl, hquote, hslash, hcontrol⟩ | ⟨escape, rfl⟩
    · have hshown : ¬ c.toNat < 32 := by omega
      rw [List.singleton_append, readText]
      simp [hquote, hslash, hshown, ih]
    · have hescape : readEscape (escape ++ (body ++ '"' :: rest)) = .ok (c, body ++ '"' :: rest) :=
        readEscape_eq_ok_iff.mpr ⟨escape, hc, rfl⟩
      exact readText_cons_of_escape hescape ih

theorem isText_of_readText {text : List Char} (h : readText input = .ok (text, rest)) :
    ∃ body, IsText text body ∧ input = body ++ '"' :: rest := by
  fun_induction readText input generalizing text with
  | case1 => cases h
  | case2 =>
    cases h
    exact ⟨[], .nil, rfl⟩
  | case3 => cases h
  | case4 => cases h
  | case5 input escaped left hescape text' tail hleft _ ih =>
    cases h
    obtain ⟨spelling, hspelling, rfl⟩ := readEscape_eq_ok_iff.mp hescape
    obtain ⟨body, hbody, rfl⟩ := ih hleft
    exact ⟨('\\' :: spelling) ++ body, .cons hspelling hbody, by simp⟩
  | case6 => cases h
  | case7 => cases h
  | case8 c input hquote hslash hcontrol text' tail hleft ih =>
    cases h
    obtain ⟨body, hbody, rfl⟩ := ih hleft
    exact ⟨[c] ++ body, .cons (.plain hquote hslash (by omega)) hbody, rfl⟩

/-- Reading a text passes over what stands between its quotes, and over the second quote. -/
theorem readText_eq_ok_iff {text : List Char} :
    readText input = .ok (text, rest) ↔ ∃ body, IsText text body ∧ input = body ++ '"' :: rest := by
  constructor
  · exact isText_of_readText
  · rintro ⟨body, hbody, rfl⟩
    exact readText_of_isText hbody rest

theorem skipText_cons_of_escape {left : List Char} (hescape : skipEscape input = .ok left) :
    skipText ('\\' :: input) = skipText left := by
  rw [skipText]
  simp only [if_false, if_true, Char.reduceEq]
  split
  · rename_i heq
    simp [hescape] at heq
  · rename_i heq
    rw [hescape] at heq
    cases heq
    rfl

theorem skipText_of_isRawText (h : IsRawText body) (rest : List Char) :
    skipText (body ++ '"' :: rest) = .ok rest := by
  induction h with
  | nil => simp [skipText]
  | @plain c body hquote hslash hcontrol _ ih =>
    have hshown : ¬ c.toNat < 32 := by omega
    rw [List.cons_append, skipText]
    simp [hquote, hslash, hshown, ih]
  | @short letter body hletter _ ih =>
    have hescape : skipEscape (letter :: (body ++ '"' :: rest)) = .ok (body ++ '"' :: rest) := by
      simp [skipEscape, hletter]
    exact (skipText_cons_of_escape hescape).trans ih
  | @numeric a b c d body hunit _ ih =>
    obtain ⟨unit, hunit⟩ := Option.isSome_iff_exists.mp hunit
    have hread : readHex4 (a :: b :: c :: d :: (body ++ '"' :: rest)) =
        .ok (unit, body ++ '"' :: rest) := readHex4_eq_ok_iff.mpr ⟨a, b, c, d, hunit, rfl⟩
    have hescape : skipEscape ('u' :: a :: b :: c :: d :: (body ++ '"' :: rest)) =
        .ok (body ++ '"' :: rest) := by
      simp [skipEscape, simpleEscape?_u, hread, Except.map]
    exact (skipText_cons_of_escape hescape).trans ih

/-- What an escape is that is passed over. -/
theorem of_skipEscape_eq_ok (h : skipEscape input = .ok rest) :
    (∃ letter, (simpleEscape? letter).isSome ∧ input = letter :: rest) ∨
      ∃ a b c d, (hexValue4? a b c d).isSome ∧ input = 'u' :: a :: b :: c :: d :: rest := by
  unfold skipEscape at h
  split at h
  · cases h
  · rename_i letter tail
    split at h
    · rename_i hletter
      cases h
      exact .inl ⟨letter, hletter, rfl⟩
    · split at h
      · rename_i hu
        cases hread : readHex4 tail with
        | error e => simp [hread, Except.map] at h
        | ok result =>
          obtain ⟨unit, left⟩ := result
          obtain ⟨a, b, c, d, hunit, rfl⟩ := readHex4_eq_ok_iff.mp hread
          obtain rfl : left = rest := by simpa [hread, Except.map] using h
          exact .inr ⟨a, b, c, d, by simp [hunit], by rw [hu]⟩
      · cases h

theorem isRawText_of_skipText (h : skipText input = .ok rest) :
    ∃ body, IsRawText body ∧ input = body ++ '"' :: rest := by
  fun_induction skipText input with
  | case1 => cases h
  | case2 =>
    cases h
    exact ⟨[], .nil, rfl⟩
  | case3 => cases h
  | case4 input left hescape _ ih =>
    obtain ⟨body, hbody, rfl⟩ := ih h
    rcases of_skipEscape_eq_ok hescape with ⟨letter, hletter, rfl⟩ | ⟨a, b, c, d, hunit, rfl⟩
    · exact ⟨'\\' :: letter :: body, .short hletter hbody, rfl⟩
    · exact ⟨'\\' :: 'u' :: a :: b :: c :: d :: body, .numeric hunit hbody, rfl⟩
  | case5 => cases h
  | case6 c input hquote hslash hcontrol ih =>
    obtain ⟨body, hbody, rfl⟩ := ih h
    exact ⟨c :: body, .plain hquote hslash (by omega) hbody, rfl⟩

/-- Passing over a text is passing over what looks like one, and over the second quote. -/
theorem skipText_eq_ok_iff :
    skipText input = .ok rest ↔ ∃ body, IsRawText body ∧ input = body ++ '"' :: rest := by
  constructor
  · exact isRawText_of_skipText
  · rintro ⟨body, hbody, rfl⟩
    exact skipText_of_isRawText hbody rest

/-! ## Digits -/

/-- The input does not go on with a character that a number could have. -/
def EndsNumber (input : List Char) : Prop :=
  ∀ c ∈ input.head?, c.isDigit = false ∧ c ≠ '.' ∧ c ≠ 'e' ∧ c ≠ 'E'

/-- The input does not go on with a digit. -/
def EndsDigits (input : List Char) : Prop := ∀ c ∈ input.head?, c.isDigit = false

theorem EndsNumber.endsDigits (h : EndsNumber input) : EndsDigits input :=
  fun c hc => (h c hc).1

theorem splitDigits_append (hdigits : ∀ c ∈ digits, c.isDigit = true) (hrest : EndsDigits rest) :
    splitDigits (digits ++ rest) = (digits, rest) := by
  have hnone : rest.takeWhile Char.isDigit = [] ∧ rest.dropWhile Char.isDigit = rest := by
    cases rest with
    | nil => simp
    | cons c rest =>
      have hc : c.isDigit = false := hrest c rfl
      simp [hc]
  rw [splitDigits, List.takeWhile_append_of_pos hdigits, List.dropWhile_append_of_pos hdigits,
    hnone.1, hnone.2, List.append_nil]

theorem of_splitDigits_eq (h : splitDigits input = (digits, rest)) :
    (∀ c ∈ digits, c.isDigit = true) ∧ EndsDigits rest ∧ input = digits ++ rest := by
  simp only [splitDigits, Prod.mk.injEq] at h
  obtain ⟨rfl, rfl⟩ := h
  refine ⟨fun c hc => ?_, fun c hc => ?_, (List.takeWhile_append_dropWhile).symm⟩
  · exact List.all_eq_true.mp List.all_takeWhile c hc
  · have hhead := List.head?_dropWhile_not Char.isDigit input
    rw [hc] at hhead
    simpa using hhead

/-! ## Passing over numbers -/

theorem IsDigits.exists_cons (h : IsDigits digits) :
    ∃ c later, digits = c :: later ∧ c.isDigit = true := by
  obtain ⟨hne, hdigits⟩ := h
  cases digits with
  | nil => exact absurd rfl hne
  | cons c later => exact ⟨c, later, rfl, hdigits c (by simp)⟩

theorem ne_of_isDigit {c d : Char} (hc : c.isDigit = true) (hd : d.isDigit = false) : c ≠ d := by
  rintro rfl
  simp [hc] at hd

/-- The input without a sign in front. -/
def dropSign : List Char → List Char
  | '+' :: rest | '-' :: rest => rest
  | rest => rest

theorem exists_sign (input : List Char) :
    ∃ sign, (sign = [] ∨ sign = ['+'] ∨ sign = ['-']) ∧ input = sign ++ dropSign input := by
  unfold dropSign
  split
  · exact ⟨['+'], .inr (.inl rfl), rfl⟩
  · exact ⟨['-'], .inr (.inr rfl), rfl⟩
  · exact ⟨[], .inl rfl, rfl⟩

theorem dropSign_append {sign : List Char} (hsign : sign = [] ∨ sign = ['+'] ∨ sign = ['-'])
    (hdigits : IsDigits digits) : dropSign (sign ++ digits ++ rest) = digits ++ rest := by
  rcases hsign with rfl | rfl | rfl
  · obtain ⟨c, later, rfl, hc⟩ := hdigits.exists_cons
    have hplus : c ≠ '+' := ne_of_isDigit hc rfl
    have hminus : c ≠ '-' := ne_of_isDigit hc rfl
    simp [dropSign, hplus, hminus]
  · rfl
  · rfl

theorem skipExponent_eq (input : List Char) :
    skipExponent input = match splitDigits (dropSign input) with
      | ([], _) => .error (.malformed .invalidNumber)
      | (_, left) => .ok left := rfl

theorem skipScale_of_isExponent {exponent : List Char} (h : IsExponent exponent)
    (hrest : EndsNumber rest) : skipScale (exponent ++ rest) = .ok rest := by
  cases h with
  | none =>
    rw [List.nil_append]
    unfold skipScale
    split
    · exact absurd rfl (hrest 'e' rfl).2.2.1
    · exact absurd rfl (hrest 'E' rfl).2.2.2
    · rfl
  | @some letter sign digits hletter hsign hdigits =>
    have hsplit := splitDigits_append hdigits.2 hrest.endsDigits
    have hskip : skipExponent (sign ++ digits ++ rest) = .ok rest := by
      rw [skipExponent_eq, dropSign_append hsign hdigits, hsplit]
      obtain ⟨c, later, rfl, -⟩ := hdigits.exists_cons
      rfl
    rcases hletter with rfl | rfl <;> exact hskip

theorem isExponent_of_skipScale (h : skipScale input = .ok rest) :
    ∃ exponent, IsExponent exponent ∧ input = exponent ++ rest := by
  have hexponent {letter : Char} {tail : List Char} (hletter : letter = 'e' ∨ letter = 'E')
      (htail : skipExponent tail = .ok rest) :
      ∃ exponent, IsExponent exponent ∧ letter :: tail = exponent ++ rest := by
    obtain ⟨sign, hsign, hinput⟩ := exists_sign tail
    rw [skipExponent_eq] at htail
    split at htail
    · cases htail
    · rename_i digits left hne hsplit
      cases htail
      obtain ⟨hdigits, -, hsame⟩ := of_splitDigits_eq hsplit
      refine ⟨letter :: (sign ++ digits), .some hletter hsign ⟨?_, hdigits⟩, ?_⟩
      · rintro rfl
        exact hne rfl
      · rw [hsame] at hinput
        simp [hinput]
  unfold skipScale at h
  split at h
  · exact hexponent (.inl rfl) h
  · exact hexponent (.inr rfl) h
  · cases h
    exact ⟨[], .none, rfl⟩

theorem endsDigits_exponent {exponent : List Char} (h : IsExponent exponent)
    (hrest : EndsNumber rest) : EndsDigits (exponent ++ rest) := by
  cases h with
  | none => exact hrest.endsDigits
  | some hletter =>
    intro c hc
    rcases hletter with rfl | rfl <;>
    · cases hc
      rfl

theorem skipFraction_of_isFraction {fraction exponent : List Char} (hfraction : IsFraction fraction)
    (hexponent : IsExponent exponent) (hrest : EndsNumber rest) :
    skipFraction (fraction ++ (exponent ++ rest)) = .ok rest := by
  have hscale := skipScale_of_isExponent hexponent hrest
  cases hfraction with
  | none =>
    rw [List.nil_append]
    unfold skipFraction
    split
    · rename_i tail heq
      cases hexponent with
      | none => 
        rw [List.nil_append] at heq
        rw [heq] at hrest
        exact absurd rfl (hrest '.' rfl).2.1
      | some hletter =>
        rcases hletter with rfl | rfl <;> cases heq
    · exact hscale
  | @some digits hdigits =>
    have hsplit := splitDigits_append hdigits.2 (endsDigits_exponent hexponent hrest)
    obtain ⟨c, later, rfl, -⟩ := hdigits.exists_cons
    rw [List.cons_append, skipFraction, hsplit]
    exact hscale

theorem isFraction_of_skipFraction (h : skipFraction input = .ok rest) :
    ∃ fraction exponent, IsFraction fraction ∧ IsExponent exponent ∧
      input = fraction ++ (exponent ++ rest) := by
  unfold skipFraction at h
  split at h
  · rename_i tail
    split at h
    · cases h
    · rename_i digits left hne hsplit
      obtain ⟨hdigits, -, hsame⟩ := of_splitDigits_eq hsplit
      obtain ⟨exponent, hexponent, rfl⟩ := isExponent_of_skipScale h
      refine ⟨'.' :: digits, exponent, .some ⟨?_, hdigits⟩, hexponent, by simp [hsame]⟩
      rintro rfl
      exact hne rfl
  · obtain ⟨exponent, hexponent, rfl⟩ := isExponent_of_skipScale h
    exact ⟨[], exponent, .none, hexponent, rfl⟩

theorem endsDigits_fraction {fraction exponent : List Char} (hfraction : IsFraction fraction)
    (hexponent : IsExponent exponent) (hrest : EndsNumber rest) :
    EndsDigits (fraction ++ (exponent ++ rest)) := by
  cases hfraction with
  | none =>
    rw [List.nil_append]
    exact endsDigits_exponent hexponent hrest
  | some =>
    intro c hc
    cases hc
    rfl

theorem skipNumber_of_isUnsigned {number : List Char} (h : IsUnsigned number)
    (hrest : EndsNumber rest) : skipNumber (number ++ rest) = .ok rest := by
  cases h with
  | @mk whole fraction exponent hwhole hfraction hexponent =>
    have hskip := skipFraction_of_isFraction hfraction hexponent hrest
    have hends := endsDigits_fraction hfraction hexponent hrest
    rw [List.append_assoc, List.append_assoc]
    cases hwhole with
    | zero =>
      have hnone : ∀ c ∈ ([] : List Char), c.isDigit = true := by simp
      have hsplit := splitDigits_append hnone hends
      rw [List.nil_append] at hsplit
      simpa [skipNumber, hsplit] using hskip
    | @digits c later hdigit hzero hlater =>
      have hsplit := splitDigits_append hlater hends
      simpa [skipNumber, hdigit, hzero, hsplit] using hskip

theorem isUnsigned_of_skipNumber (h : skipNumber input = .ok rest) :
    ∃ number, IsUnsigned number ∧ input = number ++ rest := by
  unfold skipNumber at h
  split at h
  · cases h
  · rename_i c tail
    split at h
    · rename_i hzero
      split at h
      · obtain ⟨fraction, exponent, hfraction, hexponent, rfl⟩ := isFraction_of_skipFraction h
        exact ⟨_, .mk .zero hfraction hexponent, by simp [hzero]⟩
      · cases h
    · rename_i hzero
      split at h
      · rename_i hdigit
        cases hsplit : splitDigits tail with
        | mk digits left =>
          rw [hsplit] at h
          obtain ⟨hdigits, -, rfl⟩ := of_splitDigits_eq hsplit
          obtain ⟨fraction, exponent, hfraction, hexponent, hleft⟩ := isFraction_of_skipFraction h
          change left = _ at hleft
          exact ⟨_, .mk (.digits hdigit hzero hdigits) hfraction hexponent, by simp [hleft]⟩
      · cases h

end RemoteShell.Json
