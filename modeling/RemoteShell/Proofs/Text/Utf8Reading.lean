import Mathlib.Tactic.SplitIfs
import RemoteShell.Proofs.Text.Utf8

/-!
# Texts read from bytes

A character is read exactly where its bytes stand (`nextChar_eq_some_iff`): the bounds on the
byte after the leading one keep the lengths of sequences apart. So bytes spell a text if and
only if they are the bytes of the text (`decode?_eq_some_iff`). A text with replacement
characters is different: it is given by other bytes too (`decodeLossy_eq_iff`,
`exists_decodeLossy_eq_of_mem`).
-/

namespace RemoteShell.Text

variable {lead low high second byte : UInt8} {rest later left bytes : List UInt8}
variable {count bits code : Nat} {c : Char} {text : List Char}

/-! ## Sequences -/

theorem isContinuation_iff : isContinuation byte = true ↔ 128 ≤ byte.toNat ∧ byte.toNat < 192 := by
  simp [isContinuation, UInt8.le_iff_toNat_le, Nat.lt_succ_iff]

theorem readContinuations_zero :
    readContinuations 0 bits rest = (some code, left) ↔ code = bits ∧ left = rest := by
  simp [readContinuations, eq_comm]

theorem readContinuations_succ :
    readContinuations (count + 1) bits rest = (some code, left) ↔
      ∃ byte later, rest = byte :: later ∧ isContinuation byte = true ∧
        readContinuations count (bits * 64 + (byte.toNat - 128)) later = (some code, left) := by
  cases rest with
  | nil => simp [readContinuations]
  | cons byte later =>
    constructor
    · intro h
      rw [readContinuations] at h
      split at h
      · next hbyte => exact ⟨byte, later, rfl, hbyte, h⟩
      · cases h
    · rintro ⟨byte, later, ⟨⟩, hbyte, h⟩
      rwa [readContinuations, if_pos hbyte]

/-- What a leading byte says, by the length of its sequence. -/
theorem sequenceOf_cases (h : sequenceOf lead = some (count, bits, low, high)) :
    (count = 0 ∧ bits = lead.toNat ∧ bits < 128) ∨
      (count = 1 ∧ bits + 192 = lead.toNat ∧ 2 ≤ bits ∧ bits < 32 ∧
        low.toNat = 128 ∧ high.toNat = 191) ∨
      (count = 2 ∧ bits + 224 = lead.toNat ∧ bits < 16 ∧
        (bits = 0 ∧ low.toNat = 160 ∨ bits ≠ 0 ∧ low.toNat = 128) ∧
        (bits = 13 ∧ high.toNat = 159 ∨ bits ≠ 13 ∧ high.toNat = 191)) ∨
      (count = 3 ∧ bits + 240 = lead.toNat ∧ bits ≤ 4 ∧
        (bits = 0 ∧ low.toNat = 144 ∨ bits ≠ 0 ∧ low.toNat = 128) ∧
        (bits = 4 ∧ high.toNat = 143 ∨ bits ≠ 4 ∧ high.toNat = 191)) := by
  unfold sequenceOf at h
  dsimp only at h
  split_ifs at h <;>
    simp only [Option.some.injEq, Prod.mk.injEq, ← UInt8.toNat_inj, UInt8.reduceToNat] at h
  · exact .inl (by omega)
  · exact .inr (.inl (by omega))
  · exact .inr (.inr (.inl (by omega)))
  · exact .inr (.inr (.inl (by omega)))
  · exact .inr (.inr (.inl (by omega)))
  · exact .inr (.inr (.inr (by omega)))
  · exact .inr (.inr (.inr (by omega)))
  · exact .inr (.inr (.inr (by omega)))

theorem sequenceOf_eq_none_iff :
    sequenceOf lead = none ↔ (128 ≤ lead.toNat ∧ lead.toNat < 194) ∨ 245 ≤ lead.toNat := by
  unfold sequenceOf
  dsimp only
  split_ifs <;> simp <;> omega

theorem nextChar_of_second (hlead : sequenceOf lead = some (count + 1, bits, low, high))
    (hlow : low.toNat ≤ second.toNat) (hhigh : second.toNat ≤ high.toNat)
    (hrest : readContinuations count (bits * 64 + (second.toNat - 128)) rest =
      (some c.toNat, left)) : nextChar lead (second :: rest) = (some c, left) := by
  have hbounds : low ≤ second ∧ second ≤ high :=
    ⟨UInt8.le_iff_toNat_le.mpr hlow, UInt8.le_iff_toNat_le.mpr hhigh⟩
  rw [nextChar, hlead]
  simp only [if_pos hbounds, hrest, Option.map_some, Char.ofNat_toNat]

/-! ## Characters -/

/-- The bytes of the character with a number, as numbers. -/
def byteNumbers (code : Nat) : List Nat :=
  if code < 128 then [code]
  else if code < 2048 then [code / 64 + 192, code % 64 + 128]
  else if code < 65536 then [code / 4096 + 224, code / 64 % 64 + 128, code % 64 + 128]
  else [code / 262144 + 240, code / 4096 % 64 + 128, code / 64 % 64 + 128, code % 64 + 128]

theorem map_toNat_utf8EncodeChar (c : Char) :
    (String.utf8EncodeChar c).map UInt8.toNat = byteNumbers c.toNat := by
  have hvalid : c.toNat.isValidChar := c.valid
  have hnumber : c.val.toNat = c.toNat := rfl
  simp only [String.utf8EncodeChar, hnumber, byteNumbers, Nat.lt_succ_iff (m := c.toNat)]
  generalize c.toNat = code at *
  split_ifs <;> simp <;> omega

theorem utf8EncodeChar_eq_iff :
    String.utf8EncodeChar c = bytes ↔ bytes.map UInt8.toNat = byteNumbers c.toNat := by
  rw [← map_toNat_utf8EncodeChar, eq_comm]
  exact (List.map_inj_right fun _ _ => UInt8.toNat_inj.mp).symm

/-- A character is read only where its bytes stand. -/
theorem cons_eq_of_nextChar (h : nextChar lead rest = (some c, left)) :
    lead :: rest = String.utf8EncodeChar c ++ left := by
  suffices hbytes : ∃ bytes code, lead :: rest = bytes ++ left ∧ c = Char.ofNat code ∧
      code.isValidChar ∧ bytes.map UInt8.toNat = byteNumbers code by
    obtain ⟨bytes, code, hsplit, rfl, hvalid, hbytes⟩ := hbytes
    rw [hsplit, utf8EncodeChar_eq_iff.mpr]
    rw [hbytes, toNat_ofNat hvalid]
  unfold nextChar at h
  split at h
  · cases h
  · next bits low high hlead =>
    cases h
    obtain ⟨-, hbits, hlow⟩ : _ ∧ bits = lead.toNat ∧ bits < 128 := by
      rcases sequenceOf_cases hlead with h | h | h | h <;> omega
    exact ⟨[lead], bits, rfl, rfl, .inl (by omega), by rw [byteNumbers, if_pos hlow, hbits]; rfl⟩
  · next count bits low high hlead =>
    split at h
    · cases h
    next second later =>
    split at h
    case isFalse => cases h
    next hsecond =>
    obtain ⟨hchar, hleft⟩ := Prod.mk.inj h
    obtain ⟨code, hcode, rfl⟩ := Option.map_eq_some_iff.mp hchar
    have hread : readContinuations count (bits * 64 + (second.toNat - 128)) later =
        (some code, left) := Prod.ext hcode hleft
    rw [UInt8.le_iff_toNat_le, UInt8.le_iff_toNat_le] at hsecond
    -- the bounds of the leading byte put the number into the range of this many bytes
    rcases sequenceOf_cases hlead with h | ⟨hcount, h⟩ | ⟨hcount, h⟩ | ⟨hcount, h⟩
    · omega
    · cases hcount
      obtain ⟨hcode, rfl⟩ := readContinuations_zero.mp hread
      refine ⟨[lead, second], code, rfl, rfl, .inl (by omega), ?_⟩
      rw [byteNumbers, if_neg (by omega), if_pos (by omega)]
      simp only [List.map_cons, List.map_nil, List.cons.injEq, and_true]
      omega
    · cases hcount
      obtain ⟨third, later, rfl, hthird, hread⟩ := readContinuations_succ.mp hread
      obtain ⟨hcode, rfl⟩ := readContinuations_zero.mp hread
      rw [isContinuation_iff] at hthird
      refine ⟨[lead, second, third], code, rfl, rfl, by unfold Nat.isValidChar; omega, ?_⟩
      rw [byteNumbers, if_neg (by omega), if_neg (by omega), if_pos (by omega)]
      simp only [List.map_cons, List.map_nil, List.cons.injEq, and_true]
      omega
    · cases hcount
      obtain ⟨third, later, rfl, hthird, hread⟩ := readContinuations_succ.mp hread
      obtain ⟨fourth, later, rfl, hfourth, hread⟩ := readContinuations_succ.mp hread
      obtain ⟨hcode, rfl⟩ := readContinuations_zero.mp hread
      rw [isContinuation_iff] at hthird hfourth
      refine ⟨[lead, second, third, fourth], code, rfl, rfl, by unfold Nat.isValidChar; omega, ?_⟩
      rw [byteNumbers, if_neg (by omega), if_neg (by omega), if_neg (by omega)]
      simp only [List.map_cons, List.map_nil, List.cons.injEq, and_true]
      omega

/-- Where the bytes of a character stand, it is read. -/
theorem nextChar_of_utf8EncodeChar (h : String.utf8EncodeChar c = lead :: rest) :
    nextChar lead (rest ++ left) = (some c, left) := by
  have hvalid : c.toNat.isValidChar := c.valid
  have hbytes : (lead :: rest).map UInt8.toNat = byteNumbers c.toNat := utf8EncodeChar_eq_iff.mp h
  have hsome : ∃ sequence, sequenceOf lead = some sequence := by
    rw [← Option.ne_none_iff_exists', Ne, sequenceOf_eq_none_iff]
    unfold byteNumbers at hbytes
    split_ifs at hbytes <;> rw [List.map_cons, List.cons.injEq] at hbytes <;> omega
  obtain ⟨⟨count, bits, low, high⟩, hlead⟩ := hsome
  have hcases := sequenceOf_cases hlead
  unfold byteNumbers at hbytes
  split_ifs at hbytes <;> obtain ⟨hfirst, hrest⟩ := List.cons.inj hbytes
  · cases List.map_eq_nil_iff.mp hrest
    obtain ⟨rfl, rfl⟩ : count = 0 ∧ bits = c.toNat := by omega
    rw [nextChar, hlead]
    simp
  · obtain ⟨second, _, rfl, hsecond, hrest⟩ := List.map_eq_cons_iff.mp hrest
    cases List.map_eq_nil_iff.mp hrest
    obtain ⟨rfl, hbits⟩ : count = 1 ∧ bits = c.toNat / 64 := by omega
    exact nextChar_of_second hlead (by omega) (by omega)
      (readContinuations_zero.mpr ⟨by omega, rfl⟩)
  · obtain ⟨second, _, rfl, hsecond, hrest⟩ := List.map_eq_cons_iff.mp hrest
    obtain ⟨third, _, rfl, hthird, hrest⟩ := List.map_eq_cons_iff.mp hrest
    cases List.map_eq_nil_iff.mp hrest
    obtain ⟨rfl, hbits⟩ : count = 2 ∧ bits = c.toNat / 4096 := by omega
    exact nextChar_of_second hlead (by omega) (by omega)
      (readContinuations_succ.mpr ⟨third, _, rfl, isContinuation_iff.mpr (by omega),
        readContinuations_zero.mpr ⟨by omega, rfl⟩⟩)
  · obtain ⟨second, _, rfl, hsecond, hrest⟩ := List.map_eq_cons_iff.mp hrest
    obtain ⟨third, _, rfl, hthird, hrest⟩ := List.map_eq_cons_iff.mp hrest
    obtain ⟨fourth, _, rfl, hfourth, hrest⟩ := List.map_eq_cons_iff.mp hrest
    cases List.map_eq_nil_iff.mp hrest
    obtain ⟨rfl, hbits⟩ : count = 3 ∧ bits = c.toNat / 262144 := by omega
    exact nextChar_of_second hlead (by omega) (by omega)
      (readContinuations_succ.mpr ⟨third, _, rfl, isContinuation_iff.mpr (by omega),
        readContinuations_succ.mpr ⟨fourth, _, rfl, isContinuation_iff.mpr (by omega),
          readContinuations_zero.mpr ⟨by omega, rfl⟩⟩⟩)

theorem exists_cons_utf8EncodeChar (c : Char) :
    ∃ lead rest, String.utf8EncodeChar c = lead :: rest :=
  List.exists_cons_of_ne_nil String.utf8EncodeChar_ne_nil

/-- A character is read exactly where its bytes stand. -/
theorem nextChar_eq_some_iff :
    nextChar lead rest = (some c, left) ↔ lead :: rest = String.utf8EncodeChar c ++ left := by
  refine ⟨cons_eq_of_nextChar, fun h => ?_⟩
  obtain ⟨first, later, hbytes⟩ := exists_cons_utf8EncodeChar c
  rw [hbytes, List.cons_append] at h
  cases h
  exact nextChar_of_utf8EncodeChar hbytes

/-! ## Texts -/

theorem decode?_utf8EncodeChar_append :
    decode? (String.utf8EncodeChar c ++ left) = (decode? left).map (c :: ·) := by
  obtain ⟨lead, rest, hbytes⟩ := exists_cons_utf8EncodeChar c
  have hread : nextChar lead (rest ++ left) = (some c, left) := nextChar_of_utf8EncodeChar hbytes
  rw [hbytes, List.cons_append, decode?]
  split
  · next hfound =>
    cases hread.symm.trans hfound
    rfl
  · next hfound => cases hread.symm.trans hfound

/-- Bytes spell a text if and only if they are the bytes of the text. -/
theorem decode?_eq_some_iff : decode? bytes = some text ↔ bytes = utf8 text := by
  constructor
  · intro h
    fun_induction decode? bytes generalizing text with
    | case1 => cases h; rfl
    | case2 lead rest c left hread ih =>
      obtain ⟨later, hlater, rfl⟩ := Option.map_eq_some_iff.mp h
      rw [utf8_cons, ← ih hlater, nextChar_eq_some_iff.mp hread]
    | case3 => cases h
  · rintro rfl
    induction text with
    | nil => rw [utf8, List.flatMap_nil, decode?]
    | cons c later ih => rw [utf8_cons, decode?_utf8EncodeChar_append, ih, Option.map_some]

theorem decodeLossy_utf8EncodeChar_append :
    decodeLossy (String.utf8EncodeChar c ++ left) = c :: decodeLossy left := by
  obtain ⟨lead, rest, hbytes⟩ := exists_cons_utf8EncodeChar c
  have hread : nextChar lead (rest ++ left) = (some c, left) := nextChar_of_utf8EncodeChar hbytes
  rw [hbytes, List.cons_append, decodeLossy]
  split
  · next hfound =>
    cases hread.symm.trans hfound
    rfl
  · next hfound => cases hread.symm.trans hfound

theorem decodeLossy_utf8_append : decodeLossy (utf8 text ++ left) = text ++ decodeLossy left := by
  induction text with
  | nil => rfl
  | cons c later ih =>
    rw [utf8_cons, List.append_assoc, decodeLossy_utf8EncodeChar_append, ih, List.cons_append]

/-- The bytes of a text give the text. -/
@[simp] theorem decodeLossy_utf8 : decodeLossy (utf8 text) = text := by
  have h : decodeLossy (utf8 text ++ []) = text ++ decodeLossy [] := decodeLossy_utf8_append
  rwa [decodeLossy, List.append_nil, List.append_nil] at h

/-- A text without the replacement character is given by no bytes but its own. -/
theorem decodeLossy_eq_iff (h : '\uFFFD' ∉ text) :
    decodeLossy bytes = text ↔ bytes = utf8 text := by
  refine ⟨fun hbytes => ?_, fun hbytes => hbytes ▸ decodeLossy_utf8⟩
  subst hbytes
  fun_induction decodeLossy bytes with
  | case1 => rfl
  | case2 lead rest c left hread ih =>
    rw [utf8_cons, ← ih (List.not_mem_of_not_mem_cons h), nextChar_eq_some_iff.mp hread]
  | case3 => exact absurd List.mem_cons_self h

/-- No character has 255 for its leading byte. -/
theorem decodeLossy_cons_255 : decodeLossy (255 :: left) = '\uFFFD' :: decodeLossy left := by
  have hread : nextChar 255 left = (none, left) := rfl
  rw [decodeLossy]
  split
  · next hfound => cases hread.symm.trans hfound
  · next hfound =>
    cases hread.symm.trans hfound
    rfl

/-- A text with a replacement character is also given by bytes that are not its own. -/
theorem exists_decodeLossy_eq_of_mem (h : '\uFFFD' ∈ text) :
    ∃ bytes, decodeLossy bytes = text ∧ bytes ≠ utf8 text := by
  obtain ⟨front, later, rfl⟩ := List.append_of_mem h
  refine ⟨utf8 front ++ 255 :: utf8 later, ?_, fun hbytes => ?_⟩
  · rw [decodeLossy_utf8_append, decodeLossy_cons_255, decodeLossy_utf8]
  · have hthree : (String.utf8EncodeChar '\uFFFD').length = 3 := by decide
    have hlength := congrArg List.length hbytes
    simp only [utf8_append, utf8_cons, List.length_append, List.length_cons] at hlength
    omega

end RemoteShell.Text
