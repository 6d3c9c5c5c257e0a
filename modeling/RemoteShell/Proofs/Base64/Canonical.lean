import Mathlib.Data.Nat.Bitwise
import RemoteShell.Base64

/-!
# The canonical base64 text

A byte string is a string of bits. Its canonical text has a symbol of the alphabet for each
six of them, zeros in the place of the bits that the last symbol lacks, and pads up to a
whole group of four characters. There is exactly one such text, and `encode` writes it
(`isCanonical_iff`).
-/

namespace RemoteShell.Base64

/-! ## Bits -/

/-- The lowest bits of a number, as many as the width says, with the highest of them in
front. -/
def bits : Nat → Nat → List Bool
  | 0, _ => []
  | width + 1, n => n.testBit width :: bits width n

@[simp] theorem length_bits (width n : Nat) : (bits width n).length = width := by
  induction width with
  | zero => rfl
  | succ width ih => simp [bits, ih]

/-- Higher bits do not count. -/
theorem bits_mod {low width : Nat} (h : low ≤ width) (n : Nat) :
    bits low (n % 2 ^ width) = bits low n := by
  induction low with
  | zero => rfl
  | succ low ih =>
    have hbit : (n % 2 ^ width).testBit low = n.testBit low := by
      simp only [Nat.testBit_mod_two_pow, Bool.and_eq_right_iff_imp, decide_eq_true_eq]
      omega
    rw [bits, bits, hbit, ih (by omega)]

/-- The bits of a number fall into those above some place and those below it. -/
theorem bits_add (high low n : Nat) :
    bits (high + low) n = bits high (n / 2 ^ low) ++ bits low n := by
  induction high with
  | zero => simp [bits]
  | succ high ih =>
    have hbit : n.testBit (high + low) = (n / 2 ^ low).testBit high := by
      rw [Nat.testBit_div_two_pow]
    rw [Nat.add_right_comm, bits, bits, hbit, ih, List.cons_append]

theorem testBit_eq_of_bits_eq {width n m : Nat} (h : bits width n = bits width m) {i : Nat}
    (hi : i < width) : n.testBit i = m.testBit i := by
  induction width with
  | zero => omega
  | succ width ih =>
    obtain ⟨hhighest, hlower⟩ := List.cons.inj h
    by_cases hlast : i = width
    · rw [hlast, hhighest]
    · exact ih hlower (by omega)

/-- Numbers that fit into the width are known from their bits. -/
theorem eq_of_bits_eq {width n m : Nat} (hn : n < 2 ^ width) (hm : m < 2 ^ width)
    (h : bits width n = bits width m) : n = m := by
  apply Nat.eq_of_testBit_eq
  intro i
  by_cases hi : i < width
  · exact testBit_eq_of_bits_eq h hi
  · have hpow : 2 ^ width ≤ 2 ^ i := Nat.pow_le_pow_right (by decide) (by omega)
    rw [Nat.testBit_lt_two_pow (by omega), Nat.testBit_lt_two_pow (by omega)]

/-! ## The text of bits -/

/-- The symbols in the order of their values. -/
def alphabet : List Char :=
  "ABCDEFGHIJKLMNOPQRSTUVWXYZabcdefghijklmnopqrstuvwxyz0123456789+/".toList

/-- Six bits of a byte string, as a number. -/
abbrev Sextet := Fin 64

namespace Sextet

/-- The symbol of six bits. -/
def symbol (sextet : Sextet) : Char := alphabet.get (sextet.cast (by decide +kernel))

/-- The bits of a string of sextets. -/
def allBits (sextets : List Sextet) : List Bool := sextets.flatMap fun sextet => bits 6 sextet.val

end Sextet

/-- The bits of a byte string. -/
def bitsOf (bytes : List UInt8) : List Bool := bytes.flatMap fun byte => bits 8 byte.toNat

/-- The canonical text of a byte string. -/
inductive IsCanonical (bytes : List UInt8) : List Char → Prop
  | mk {sextets : List Sextet} {unused : Nat} (pads : Nat)
      (hbits : Sextet.allBits sextets = bitsOf bytes ++ List.replicate unused false)
      (hunused : unused < 6) (hgroups : 4 ∣ sextets.length + pads) (hpads : pads < 4) :
      IsCanonical bytes (sextets.map Sextet.symbol ++ List.replicate pads '=')

/-! ## One text for each byte string -/

theorem length_allBits (sextets : List Sextet) :
    (Sextet.allBits sextets).length = 6 * sextets.length := by
  induction sextets with
  | nil => rfl
  | cons sextet later ih =>
    rw [Sextet.allBits, List.flatMap_cons, List.length_append, length_bits]
    rw [Sextet.allBits] at ih
    rw [ih, List.length_cons]
    omega

theorem length_bitsOf (bytes : List UInt8) : (bitsOf bytes).length = 8 * bytes.length := by
  induction bytes with
  | nil => rfl
  | cons byte later ih =>
    rw [bitsOf, List.flatMap_cons, List.length_append, length_bits]
    rw [bitsOf] at ih
    rw [ih, List.length_cons]
    omega

/-- A string of sextets is known from its bits. -/
theorem eq_of_allBits_eq {sextets others : List Sextet}
    (h : Sextet.allBits sextets = Sextet.allBits others) : sextets = others := by
  induction sextets generalizing others with
  | nil =>
    have hlength := congrArg List.length h
    simp only [length_allBits, List.length_nil] at hlength
    exact (List.length_eq_zero_iff.mp (by omega)).symm
  | cons sextet later ih =>
    cases others with
    | nil =>
      have hlength := congrArg List.length h
      simp only [length_allBits, List.length_nil, List.length_cons] at hlength
      omega
    | cons other rest =>
      simp only [Sextet.allBits, List.flatMap_cons] at h
      obtain ⟨hfirst, hrest⟩ := List.append_inj h (by simp)
      have hsextet : sextet.val = other.val := eq_of_bits_eq sextet.isLt other.isLt hfirst
      rw [Fin.ext hsextet, ih hrest]

/-- A byte string has one canonical text at most. -/
theorem IsCanonical.unique {bytes : List UInt8} {text other : List Char}
    (htext : IsCanonical bytes text) (hother : IsCanonical bytes other) : text = other := by
  cases htext with
  | @mk sextets unused pads hbits hunused hgroups hpads =>
    cases hother with
    | @mk sextets' unused' pads' hbits' hunused' hgroups' hpads' =>
      have hlength := congrArg List.length hbits
      have hlength' := congrArg List.length hbits'
      simp only [length_allBits, length_bitsOf, List.length_append, List.length_replicate]
        at hlength hlength'
      have hunuseds : unused = unused' := by omega
      have hsextets : sextets = sextets' := eq_of_allBits_eq (by rw [hbits, hbits', hunuseds])
      have hpadss : pads = pads' := by
        rw [hsextets] at hgroups
        omega
      rw [hsextets, hpadss]

/-! ## What is written is canonical -/

/-- Two numbers side by side have the bits of both. -/
theorem bits_join (high low x : Nat) {y : Nat} (hy : y < 2 ^ low) :
    bits (high + low) (x % 2 ^ high * 2 ^ low + y) = bits high x ++ bits low y := by
  have habove : (x % 2 ^ high * 2 ^ low + y) / 2 ^ low = x % 2 ^ high := by
    rw [Nat.mul_comm, Nat.mul_add_div (Nat.two_pow_pos low), Nat.div_eq_of_lt hy, Nat.add_zero]
  have hbelow : (x % 2 ^ high * 2 ^ low + y) % 2 ^ low = y := by
    rw [Nat.mul_comm, Nat.mul_add_mod, Nat.mod_eq_of_lt hy]
  rw [bits_add, habove, bits_mod (Nat.le_refl high), ← bits_mod (Nat.le_refl low), hbelow]

/-- A byte in two symbols. -/
theorem bits_group_one (a : Nat) :
    bits 6 (a / 4) ++ bits 6 (a % 4 * 16) = bits 8 a ++ List.replicate 4 false := by
  have hfirst : bits 8 a = bits 6 (a / 4) ++ bits 2 a := bits_add 6 2 a
  have hsecond : bits 6 (a % 4 * 16) = bits 2 a ++ bits 4 0 := by
    simpa using bits_join 2 4 a (y := 0) (by decide)
  rw [hfirst, hsecond, ← List.append_assoc]
  rfl

/-- Two bytes in three symbols. -/
theorem bits_group_two (a : Nat) {b : Nat} (hb : b < 256) :
    bits 6 (a / 4) ++ (bits 6 (a % 4 * 16 + b / 16) ++ bits 6 (b % 16 * 4)) =
      bits 8 a ++ (bits 8 b ++ List.replicate 2 false) := by
  have hfirst : bits 8 a = bits 6 (a / 4) ++ bits 2 a := bits_add 6 2 a
  have hsecond : bits 6 (a % 4 * 16 + b / 16) = bits 2 a ++ bits 4 (b / 16) :=
    bits_join 2 4 a (by omega)
  have hbyte : bits 8 b = bits 4 (b / 16) ++ bits 4 b := bits_add 4 4 b
  have hthird : bits 6 (b % 16 * 4) = bits 4 b ++ bits 2 0 := by
    simpa using bits_join 4 2 b (y := 0) (by decide)
  rw [hfirst, hsecond, hbyte, hthird]
  simp only [List.append_assoc]
  rfl

/-- Three bytes in four symbols. -/
theorem bits_group_three (a : Nat) {b c : Nat} (hb : b < 256) (hc : c < 256) :
    bits 6 (a / 4) ++ (bits 6 (a % 4 * 16 + b / 16) ++
        (bits 6 (b % 16 * 4 + c / 64) ++ bits 6 (c % 64))) =
      bits 8 a ++ (bits 8 b ++ bits 8 c) := by
  have hfirst : bits 8 a = bits 6 (a / 4) ++ bits 2 a := bits_add 6 2 a
  have hsecond : bits 6 (a % 4 * 16 + b / 16) = bits 2 a ++ bits 4 (b / 16) :=
    bits_join 2 4 a (by omega)
  have hbyte : bits 8 b = bits 4 (b / 16) ++ bits 4 b := bits_add 4 4 b
  have hthird : bits 6 (b % 16 * 4 + c / 64) = bits 4 b ++ bits 2 (c / 64) :=
    bits_join 4 2 b (by omega)
  have hbyte' : bits 8 c = bits 2 (c / 64) ++ bits 6 c := bits_add 2 6 c
  have hfourth : bits 6 (c % 64) = bits 6 c := bits_mod (Nat.le_refl 6) c
  rw [hfirst, hsecond, hbyte, hthird, hbyte', hfourth]
  simp only [List.append_assoc]

/-- The sextet of a number, of which only the six lowest bits count. -/
def Sextet.ofNat (n : Nat) : Sextet := ⟨n % 64, Nat.mod_lt n (by decide)⟩

@[simp] theorem bits_ofNat (n : Nat) : bits 6 (Sextet.ofNat n).val = bits 6 n :=
  bits_mod (Nat.le_refl 6) n

/-- The character of a byte of a text. -/
def toChar (byte : UInt8) : Char := .ofNat byte.toNat

theorem toChar_pad : toChar pad = '=' := rfl

theorem toChar_symbol {n : Nat} (hn : n < 64) : toChar (symbol n) = (Sextet.ofNat n).symbol := by
  revert n
  decide +kernel

/-- The text of a byte string is canonical. -/
theorem isCanonical_encode (bytes : List UInt8) :
    IsCanonical bytes ((encode bytes).map toChar) := by
  fun_induction encode bytes with
  | case1 =>
    have hbits : Sextet.allBits [] = bitsOf [] ++ List.replicate 0 false := rfl
    exact .mk 0 hbits (by decide) (by decide) (by decide)
  | case2 a =>
    have ha := a.toNat_lt
    have hbits : Sextet.allBits [.ofNat (a.toNat / 4), .ofNat (a.toNat % 4 * 16)] =
        bitsOf [a] ++ List.replicate 4 false := by
      simpa [Sextet.allBits, bitsOf] using bits_group_one a.toNat
    have htext := IsCanonical.mk 2 hbits (by decide) (by simp) (by decide)
    have hfirst := toChar_symbol (n := a.toNat / 4) (by omega)
    have hsecond := toChar_symbol (n := a.toNat % 4 * 16) (by omega)
    simpa [hfirst, hsecond, toChar_pad] using htext
  | case3 a b =>
    have ha := a.toNat_lt
    have hb := b.toNat_lt
    have hbits : Sextet.allBits [.ofNat (a.toNat / 4), .ofNat (a.toNat % 4 * 16 + b.toNat / 16),
        .ofNat (b.toNat % 16 * 4)] = bitsOf [a, b] ++ List.replicate 2 false := by
      simpa [Sextet.allBits, bitsOf] using bits_group_two a.toNat hb
    have htext := IsCanonical.mk 1 hbits (by decide) (by simp) (by decide)
    have hfirst := toChar_symbol (n := a.toNat / 4) (by omega)
    have hsecond := toChar_symbol (n := a.toNat % 4 * 16 + b.toNat / 16) (by omega)
    have hthird := toChar_symbol (n := b.toNat % 16 * 4) (by omega)
    simpa [hfirst, hsecond, hthird, toChar_pad] using htext
  | case4 a b c rest ih =>
    have ha := a.toNat_lt
    have hb := b.toNat_lt
    have hc := c.toNat_lt
    generalize hlater : (encode rest).map toChar = later at ih
    cases ih with
    | @mk sextets unused pads hbits hunused hgroups hpads =>
      have hgroup := bits_group_three a.toNat hb hc
      have hall : Sextet.allBits (.ofNat (a.toNat / 4) ::
          .ofNat (a.toNat % 4 * 16 + b.toNat / 16) :: .ofNat (b.toNat % 16 * 4 + c.toNat / 64) ::
            .ofNat (c.toNat % 64) :: sextets) =
          bitsOf (a :: b :: c :: rest) ++ List.replicate unused false := by
        rw [Sextet.allBits, bitsOf] at hbits
        simp only [Sextet.allBits, bitsOf, List.flatMap_cons, bits_ofNat, hbits]
        simp only [← List.append_assoc] at hgroup ⊢
        rw [hgroup]
      have htext := IsCanonical.mk pads hall hunused (by simp; omega) hpads
      have hfirst := toChar_symbol (n := a.toNat / 4) (by omega)
      have hsecond := toChar_symbol (n := a.toNat % 4 * 16 + b.toNat / 16) (by omega)
      have hthird := toChar_symbol (n := b.toNat % 16 * 4 + c.toNat / 64) (by omega)
      have hfourth := toChar_symbol (n := c.toNat % 64) (by omega)
      simpa [hfirst, hsecond, hthird, hfourth, hlater] using htext

/-- The canonical text of a byte string is the one that is written for it. -/
theorem isCanonical_iff {bytes : List UInt8} {text : List Char} :
    IsCanonical bytes text ↔ text = (encode bytes).map toChar := by
  refine ⟨fun h => h.unique (isCanonical_encode bytes), ?_⟩
  rintro rfl
  exact isCanonical_encode bytes

end RemoteShell.Base64
