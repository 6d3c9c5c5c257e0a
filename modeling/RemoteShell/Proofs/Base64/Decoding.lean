import RemoteShell.Proofs.Base64.Canonical
import RemoteShell.Proofs.Text.Utf8

/-!
# Base64 texts that can be read

The texts that `decode` reads are the texts that `encode` writes, and it reads from each
what it was written for (`decode_eq_ok_iff`). Of texts made of characters these are the
canonical ones (`decode_utf8_eq_ok_iff`).
-/

namespace RemoteShell.Base64

variable {offset : Nat} {text bytes : List UInt8}

/-! ## Symbols -/

theorem value?_symbol {v : Nat} (hv : v < 64) : value? (symbol v) = some v := by
  revert v
  decide +kernel

theorem symbol_ne_pad {v : Nat} (hv : v < 64) : symbol v ≠ pad := by
  revert v
  decide +kernel

/-- A byte with a value is the symbol of that value. -/
theorem eq_symbol_of_value? {x : UInt8} {v : Nat} (h : value? x = some v) :
    v < 64 ∧ x = symbol v := by
  have hall : ∀ n < 256, ∀ v ∈ value? (.ofNat n), v < 64 ∧ UInt8.ofNat n = symbol v := by
    decide +kernel
  have hx := hall x.toNat x.toNat_lt
  rw [UInt8.ofNat_toNat] at hx
  exact hx v h

theorem valueAt_symbol {v : Nat} (hv : v < 64) : valueAt offset (symbol v) = .ok v := by
  rw [valueAt, value?_symbol hv]

/-- A reader that goes on after a symbol needs that symbol. -/
theorem bind_valueAt_eq_ok_iff {α : Type} {x : UInt8} {next : Nat → Except Error α} {a : α} :
    (valueAt offset x >>= next) = .ok a ↔ ∃ v < 64, x = symbol v ∧ next v = .ok a := by
  constructor
  · intro h
    cases hvalue : value? x with
    | none =>
      rw [valueAt, hvalue] at h
      cases h
    | some v =>
      rw [valueAt, hvalue] at h
      obtain ⟨hv, hx⟩ := eq_symbol_of_value? hvalue
      exact ⟨v, hv, hx, h⟩
  · rintro ⟨v, hv, rfl, h⟩
    rw [valueAt_symbol hv]
    exact h

/-! ## Groups -/

theorem firstByte_split (a : UInt8) {x : Nat} (hx : x < 16) :
    firstByte (a.toNat / 4) (a.toNat % 4 * 16 + x) = a := by
  have hbyte : a.toNat / 4 * 4 + (a.toNat % 4 * 16 + x) / 16 = a.toNat := by omega
  rw [firstByte, hbyte, UInt8.ofNat_toNat]

theorem secondByte_split (b : UInt8) (x : Nat) {y : Nat} (hy : y < 4) :
    secondByte (x * 16 + b.toNat / 16) (b.toNat % 16 * 4 + y) = b := by
  have hb := b.toNat_lt
  have hbyte : (x * 16 + b.toNat / 16) % 16 * 16 + (b.toNat % 16 * 4 + y) / 4 = b.toNat := by
    omega
  rw [secondByte, hbyte, UInt8.ofNat_toNat]

theorem thirdByte_split (c : UInt8) (x : Nat) :
    thirdByte (x * 4 + c.toNat / 64) (c.toNat % 64) = c := by
  have hc := c.toNat_lt
  have hbyte : (x * 4 + c.toNat / 64) % 4 * 64 + c.toNat % 64 = c.toNat := by omega
  rw [thirdByte, hbyte, UInt8.ofNat_toNat]

theorem toNat_firstByte {va vb : Nat} (ha : va < 64) (hb : vb < 64) :
    (firstByte va vb).toNat = va * 4 + vb / 16 := by
  rw [firstByte, UInt8.toNat_ofNat', Nat.mod_eq_of_lt (by omega)]

theorem toNat_secondByte {vb vc : Nat} (hc : vc < 64) :
    (secondByte vb vc).toNat = vb % 16 * 16 + vc / 4 := by
  rw [secondByte, UInt8.toNat_ofNat', Nat.mod_eq_of_lt (by omega)]

theorem toNat_thirdByte {vc vd : Nat} (hd : vd < 64) :
    (thirdByte vc vd).toNat = vc % 4 * 64 + vd := by
  rw [thirdByte, UInt8.toNat_ofNat', Nat.mod_eq_of_lt (by omega)]

/-- Two symbols whose unused bits are zeros are the text of their byte. -/
theorem encode_firstByte {va vb : Nat} (ha : va < 64) (hb : vb < 64) (hunused : vb % 16 = 0) :
    encode [firstByte va vb] = [symbol va, symbol vb, pad, pad] := by
  have hfirst : (va * 4 + vb / 16) / 4 = va := by omega
  have hsecond : (va * 4 + vb / 16) % 4 * 16 = vb := by omega
  rw [encode, toNat_firstByte ha hb, hfirst, hsecond]

/-- Three symbols whose unused bits are zeros are the text of their bytes. -/
theorem encode_secondByte {va vb vc : Nat} (ha : va < 64) (hb : vb < 64) (hc : vc < 64)
    (hunused : vc % 4 = 0) :
    encode [firstByte va vb, secondByte vb vc] = [symbol va, symbol vb, symbol vc, pad] := by
  have hfirst : (va * 4 + vb / 16) / 4 = va := by omega
  have hsecond : (va * 4 + vb / 16) % 4 * 16 + (vb % 16 * 16 + vc / 4) / 16 = vb := by omega
  have hthird : (vb % 16 * 16 + vc / 4) % 16 * 4 = vc := by omega
  rw [encode, toNat_firstByte ha hb, toNat_secondByte hc, hfirst, hsecond, hthird]

/-- Four symbols are the text of their bytes. -/
theorem encode_thirdByte {va vb vc vd : Nat} (ha : va < 64) (hb : vb < 64) (hc : vc < 64)
    (hd : vd < 64) (later : List UInt8) :
    encode (firstByte va vb :: secondByte vb vc :: thirdByte vc vd :: later) =
      symbol va :: symbol vb :: symbol vc :: symbol vd :: encode later := by
  have hfirst : (va * 4 + vb / 16) / 4 = va := by omega
  have hsecond : (va * 4 + vb / 16) % 4 * 16 + (vb % 16 * 16 + vc / 4) / 16 = vb := by omega
  have hthird : (vb % 16 * 16 + vc / 4) % 16 * 4 + (vc % 4 * 64 + vd) / 64 = vc := by omega
  have hfourth : (vc % 4 * 64 + vd) % 64 = vd := by omega
  rw [encode, toNat_firstByte ha hb, toNat_secondByte hc, toNat_thirdByte hd, hfirst, hsecond,
    hthird, hfourth]

/-! ## Texts -/

/-- A last group of four is read only if it is the text of its bytes. -/
theorem eq_encode_of_decodeLast_four {a b c d : UInt8}
    (h : decodeLast offset [a, b, c, d] = .ok bytes) : [a, b, c, d] = encode bytes := by
  simp only [decodeLast, bind_valueAt_eq_ok_iff] at h
  obtain ⟨va, ha, rfl, vb, hb, rfl, h⟩ := h
  -- Two pads, one pad or none: each form is read only if its unused bits are zeros.
  by_cases hpad : c = pad
  · rw [if_pos hpad] at h
    by_cases hlast : d = pad
    · rw [if_neg (not_not_intro hlast)] at h
      by_cases hunused : vb % 16 = 0
      · rw [if_neg (not_not_intro hunused)] at h
        cases h
        rw [hpad, hlast, encode_firstByte ha hb hunused]
      · rw [if_pos hunused] at h
        cases h
    · rw [if_pos hlast] at h
      cases h
  · rw [if_neg hpad, bind_valueAt_eq_ok_iff] at h
    obtain ⟨vc, hc, rfl, h⟩ := h
    by_cases hlast : d = pad
    · rw [if_pos hlast] at h
      by_cases hunused : vc % 4 = 0
      · rw [if_neg (not_not_intro hunused)] at h
        cases h
        rw [hlast, encode_secondByte ha hb hc hunused]
      · rw [if_pos hunused] at h
        cases h
    · rw [if_neg hlast, bind_valueAt_eq_ok_iff] at h
      obtain ⟨vd, hd, rfl, h⟩ := h
      cases h
      rw [encode_thirdByte ha hb hc hd, encode]

/-- The last group is read only if it is the text of its bytes. A shorter one is not read. -/
theorem eq_encode_of_decodeLast (hlength : text.length ≤ 4)
    (h : decodeLast offset text = .ok bytes) : text = encode bytes := by
  fun_cases decodeLast offset text with
  | case1 =>
    cases h
    rfl
  | case2 a =>
    simp only [decodeLast, bind_valueAt_eq_ok_iff] at h
    obtain ⟨va, ha, rfl, h⟩ := h
    cases h
  | case3 a b =>
    simp only [decodeLast, bind_valueAt_eq_ok_iff] at h
    obtain ⟨va, ha, rfl, vb, hb, rfl, h⟩ := h
    cases h
  | case4 a b c =>
    simp only [decodeLast, bind_valueAt_eq_ok_iff] at h
    obtain ⟨va, ha, rfl, vb, hb, rfl, h⟩ := h
    by_cases hpad : c = pad
    · rw [if_neg (not_not_intro hpad)] at h
      cases h
    · rw [if_pos hpad, bind_valueAt_eq_ok_iff] at h
      obtain ⟨vc, hc, rfl, h⟩ := h
      cases h
  | case5 a b c d later =>
    have hlater : later = [] := by
      simp only [List.length_cons] at hlength
      exact List.length_eq_zero_iff.mp (by omega)
    subst hlater
    exact eq_encode_of_decodeLast_four h

/-- What is read from a text is what the text is written for. -/
theorem eq_encode_of_decodeFrom (h : decodeFrom offset text = .ok bytes) :
    text = encode bytes := by
  fun_induction decodeFrom offset text generalizing bytes with
  | case1 offset a b c d e rest ih =>
    simp only [bind_valueAt_eq_ok_iff] at h
    obtain ⟨va, ha, rfl, vb, hb, rfl, vc, hc, rfl, vd, hd, rfl, h⟩ := h
    cases hlater : decodeFrom (offset + 4) (e :: rest) with
    | error e =>
      rw [hlater] at h
      cases h
    | ok later =>
      rw [hlater] at h
      cases h
      rw [encode_thirdByte ha hb hc hd, ih hlater]
  | case2 offset text hlong =>
    refine eq_encode_of_decodeLast ?_ h
    match text, hlong with
    | [], _ | [_], _ | [_, _], _ | [_, _, _], _ | [_, _, _, _], _ => simp
    | a :: b :: c :: d :: e :: rest, hlong => exact (hlong a b c d e rest rfl).elim

/-- A padded group of two symbols is read as a byte. -/
theorem decodeFrom_group_one {va vb : Nat} (ha : va < 64) (hb : vb < 64)
    (hunused : vb % 16 = 0) :
    decodeFrom offset [symbol va, symbol vb, pad, pad] = .ok [firstByte va vb] := by
  simp only [decodeFrom, decodeLast, bind_valueAt_eq_ok_iff, ne_eq, not_true_eq_false, reduceIte]
  exact ⟨va, ha, rfl, vb, hb, rfl, if_neg (not_not_intro hunused)⟩

/-- A padded group of three symbols is read as two bytes. -/
theorem decodeFrom_group_two {va vb vc : Nat} (ha : va < 64) (hb : vb < 64) (hc : vc < 64)
    (hunused : vc % 4 = 0) :
    decodeFrom offset [symbol va, symbol vb, symbol vc, pad] =
      .ok [firstByte va vb, secondByte vb vc] := by
  simp only [decodeFrom, decodeLast, bind_valueAt_eq_ok_iff, symbol_ne_pad hc, reduceIte]
  exact ⟨va, ha, rfl, vb, hb, rfl, vc, hc, rfl, if_neg (not_not_intro hunused)⟩

/-- A group of four symbols is read as three bytes, whether or not another group follows. -/
theorem decodeFrom_group_three {va vb vc vd : Nat} (ha : va < 64) (hb : vb < 64) (hc : vc < 64)
    (hd : vd < 64) {later laterBytes : List UInt8}
    (hlater : decodeFrom (offset + 4) later = .ok laterBytes) :
    decodeFrom offset (symbol va :: symbol vb :: symbol vc :: symbol vd :: later) =
      .ok (firstByte va vb :: secondByte vb vc :: thirdByte vc vd :: laterBytes) := by
  cases later with
  | nil =>
    cases hlater
    simp only [decodeFrom, decodeLast, bind_valueAt_eq_ok_iff, if_neg (symbol_ne_pad hc),
      if_neg (symbol_ne_pad hd)]
    exact ⟨va, ha, rfl, vb, hb, rfl, vc, hc, rfl, vd, hd, rfl, rfl⟩
  | cons e rest =>
    simp only [decodeFrom, bind_valueAt_eq_ok_iff, hlater]
    exact ⟨va, ha, rfl, vb, hb, rfl, vc, hc, rfl, vd, hd, rfl, rfl⟩

/-- From the text of bytes those bytes are read. -/
theorem decodeFrom_encode (offset : Nat) (bytes : List UInt8) :
    decodeFrom offset (encode bytes) = .ok bytes := by
  fun_induction encode bytes generalizing offset with
  | case1 => rfl
  | case2 a =>
    have ha := a.toNat_lt
    have hbyte := firstByte_split a (x := 0) (by decide)
    rw [decodeFrom_group_one (by omega) (by omega) (by omega)]
    rw [Nat.add_zero] at hbyte
    rw [hbyte]
  | case3 a b =>
    have ha := a.toNat_lt
    have hb := b.toNat_lt
    have hsecond := secondByte_split b (a.toNat % 4) (y := 0) (by decide)
    rw [Nat.add_zero] at hsecond
    rw [decodeFrom_group_two (by omega) (by omega) (by omega) (by omega),
      firstByte_split a (by omega), hsecond]
  | case4 a b c rest ih =>
    have ha := a.toNat_lt
    have hb := b.toNat_lt
    have hc := c.toNat_lt
    rw [decodeFrom_group_three (by omega) (by omega) (by omega) (by omega) (ih (offset + 4)),
      firstByte_split a (by omega), secondByte_split b _ (by omega), thirdByte_split]

/-- A text is written in whole groups. -/
theorem four_dvd_length_encode (bytes : List UInt8) : 4 ∣ (encode bytes).length := by
  fun_induction encode bytes with
  | case1 => simp
  | case2 | case3 => simp
  | case4 a b c rest ih =>
    simp only [List.length_cons]
    omega

/-- A text is read as the bytes that it is written for, and no other text is read. -/
theorem decode_eq_ok_iff : decode text = .ok bytes ↔ text = encode bytes := by
  constructor
  · intro h
    rw [decode] at h
    cases hlast : text.getLast? with
    | none =>
      rw [hlast] at h
      cases h
      exact List.getLast?_eq_none_iff.mp hlast
    | some last =>
      rw [hlast] at h
      by_cases hforeign : text.length % 4 = 1 ∧ isForeign last
      · simp only [if_pos hforeign] at h
        cases h
      · simp only [if_neg hforeign] at h
        exact eq_encode_of_decodeFrom h
  · rintro rfl
    rw [decode]
    cases hlast : (encode bytes).getLast? with
    | none =>
      have hnil : encode bytes = encode [] := List.getLast?_eq_none_iff.mp hlast
      have hread := decodeFrom_encode 0 bytes
      rw [hnil, decodeFrom_encode] at hread
      exact hread
    | some last =>
      -- A symbol that stands alone at the end would not fit into whole groups.
      have hlength := four_dvd_length_encode bytes
      have hwhole : ¬ ((encode bytes).length % 4 = 1 ∧ isForeign last) := by omega
      simp only [if_neg hwhole]
      exact decodeFrom_encode 0 bytes

/-! ## Characters -/

/-- A written text has symbols and pads only. -/
theorem eq_of_mem_encode {x : UInt8} (h : x ∈ encode bytes) :
    (∃ v < 64, x = symbol v) ∨ x = pad := by
  fun_induction encode bytes with
  | case1 => cases h
  | case2 a =>
    have ha := a.toNat_lt
    simp only [List.mem_cons, List.not_mem_nil, or_false, or_self] at h
    obtain rfl | rfl | hpad := h
    · exact .inl ⟨_, by omega, rfl⟩
    · exact .inl ⟨_, by omega, rfl⟩
    · exact .inr hpad
  | case3 a b =>
    have ha := a.toNat_lt
    have hb := b.toNat_lt
    simp only [List.mem_cons, List.not_mem_nil, or_false] at h
    obtain rfl | rfl | rfl | hpad := h
    · exact .inl ⟨_, by omega, rfl⟩
    · exact .inl ⟨_, by omega, rfl⟩
    · exact .inl ⟨_, by omega, rfl⟩
    · exact .inr hpad
  | case4 a b c rest ih =>
    have ha := a.toNat_lt
    have hb := b.toNat_lt
    have hc := c.toNat_lt
    simp only [List.mem_cons] at h
    obtain rfl | rfl | rfl | rfl | hrest := h
    · exact .inl ⟨_, by omega, rfl⟩
    · exact .inl ⟨_, by omega, rfl⟩
    · exact .inl ⟨_, by omega, rfl⟩
    · exact .inl ⟨_, by omega, rfl⟩
    · exact ih hrest

/-- A written text is made of single-byte characters. -/
theorem toNat_lt_of_mem_encode {x : UInt8} (h : x ∈ encode bytes) : x.toNat < 128 := by
  have hsymbol : ∀ v < 64, (symbol v).toNat < 128 := by decide +kernel
  obtain ⟨v, hv, rfl⟩ | rfl := eq_of_mem_encode h
  · exact hsymbol v hv
  · decide

/-- Of texts made of characters, the canonical ones are read. -/
theorem decode_utf8_eq_ok_iff {chars : List Char} :
    decode (Text.utf8 chars) = .ok bytes ↔ IsCanonical bytes chars := by
  rw [decode_eq_ok_iff, isCanonical_iff]
  constructor
  · intro h
    have hlow : ∀ x ∈ Text.utf8 chars, x.toNat < 128 := by
      rw [h]
      exact fun x => toNat_lt_of_mem_encode
    rw [← h]
    exact Text.eq_map_ofNat_of_utf8 hlow
  · rintro rfl
    exact Text.utf8_map_ofNat fun x => toNat_lt_of_mem_encode

end RemoteShell.Base64
