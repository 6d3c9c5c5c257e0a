import RemoteShell.Proofs.Text.Utf8Reading
import RemoteShell.Text.Percent

/-!
# Texts in forms

All bytes can be given in a form: one writes them as escapes, and then no sign of the form is
left in them (`formFields_formOf`). What the bytes of a form are as texts is clear for texts
without the replacement character only (`formText_eq_iff`).
-/

namespace RemoteShell.Text.Percent

variable {c : Char} {text : String} {bytes rest : List UInt8}

/-- A byte as an escape. -/
def escapeByte (byte : UInt8) : List Char :=
  ['%', (byte.toNat / 16).digitChar, (byte.toNat % 16).digitChar]

/-- Bytes in escapes. -/
def escape (bytes : List UInt8) : List Char := bytes.flatMap escapeByte

/-- A form with one named value. -/
def formOf (name value : List UInt8) : String := .ofList (escape name ++ '=' :: escape value)

/-- Escapes are in ASCII and hold no sign that means something in a form or an address. -/
theorem of_mem_escape (h : c ∈ escape bytes) : c.toNat < 128 ∧ c ∉ ['&', '=', '+', '#'] := by
  have hdigit : ∀ n < 16, n.digitChar.toNat < 128 ∧ n.digitChar ∉ ['&', '=', '+', '#'] := by decide
  obtain ⟨byte, -, hc⟩ := List.mem_flatMap.mp h
  have hbyte := byte.toNat_lt
  simp only [escapeByte, List.mem_cons, List.not_mem_nil, or_false] at hc
  rcases hc with rfl | rfl | rfl
  · decide
  · exact hdigit _ (by omega)
  · exact hdigit _ (by omega)

theorem hexValue?_digitChar {n : Nat} (h : n < 16) :
    hexValue? (Char.ofNat (UInt8.ofNat n.digitChar.toNat).toNat) = some n := by
  revert h n
  decide

/-- An escape stands for its byte. -/
theorem unescape_escapeByte (byte : UInt8) :
    unescape ((escapeByte byte).map (fun c => .ofNat c.toNat) ++ rest) = byte :: unescape rest := by
  have hbyte := byte.toNat_lt
  have hmeant : byteOf? (.ofNat (byte.toNat / 16).digitChar.toNat)
      (.ofNat (byte.toNat % 16).digitChar.toNat) = some byte := by
    rw [byteOf?, hexValue?_digitChar (by omega), hexValue?_digitChar (by omega)]
    exact congrArg some (by rw [Nat.div_add_mod', UInt8.ofNat_toNat])
  simp only [escapeByte, List.map_cons, List.map_nil, List.cons_append, List.nil_append]
  rw [unescape, if_pos (show UInt8.ofNat '%'.toNat = sign from rfl), hmeant]

theorem utf8_escape : utf8 (escape bytes) = (escape bytes).map fun c => .ofNat c.toNat :=
  utf8_of_lt fun _ hc => (of_mem_escape hc).1

/-- The bytes that some escapes stand for. -/
theorem unescape_utf8_escape (bytes : List UInt8) : unescape (utf8 (escape bytes)) = bytes := by
  rw [utf8_escape, escape]
  induction bytes with
  | nil => rw [List.flatMap_nil, List.map_nil, unescape]
  | cons byte bytes ih => rw [List.flatMap_cons, List.map_append, unescape_escapeByte, ih]

/-- The byte of a sign is not among the bytes in escapes. -/
theorem byte_not_mem_escape (sign : Char) (hsign : sign ∈ ['&', '=', '+', '#']) :
    UInt8.ofNat sign.toNat ∉ utf8 (escape bytes) := by
  rw [utf8_escape, List.mem_map]
  rintro ⟨c, hc, hbyte⟩
  obtain ⟨hlow, hnot⟩ := of_mem_escape hc
  have hsignLow : sign.toNat < 128 := by
    have hall : ∀ sign ∈ ['&', '=', '+', '#'], sign.toNat < 128 := by simp
    exact hall sign hsign
  have hnumber := congrArg UInt8.toNat hbyte
  rw [UInt8.toNat_ofNat', UInt8.toNat_ofNat', Nat.mod_eq_of_lt (by omega),
    Nat.mod_eq_of_lt (by omega)] at hnumber
  exact hnot (Char.toNat_inj.mp hnumber ▸ hsign)

/-- Bytes in escapes stand for the bytes. -/
theorem formBytes_escape (bytes : List UInt8) : formBytes (utf8 (escape bytes)) = bytes := by
  have hplus : (utf8 (escape bytes)).map (fun byte => if byte = 43 then 32 else byte) =
      utf8 (escape bytes) := by
    refine (List.map_congr_left fun byte hbyte => if_neg ?_).trans (List.map_id' _)
    rintro rfl
    exact byte_not_mem_escape '+' (by decide) hbyte
  rw [formBytes, hplus, unescape_utf8_escape]

/-- Of the signs, only the one between a name and its value stands in a form with one value. -/
theorem not_mem_formOf {name value : List UInt8} {sign : Char} (hsign : sign ∈ ['&', '+', '#']) :
    sign ∉ (formOf name value).toList := by
  have hne : sign ≠ '=' := by
    rintro rfl
    simp at hsign
  have hescape (bytes : List UInt8) : sign ∉ escape bytes := fun h =>
    (of_mem_escape h).2 (List.subset_def.mp (by simp) hsign)
  simp [formOf, hne, hescape]

/-- A form with one named value gives the value under its name. -/
theorem formFields_formOf (name value : List UInt8) :
    formFields (formOf name value) = [(name, value)] := by
  have hname : ∀ byte ∈ utf8 (escape name), decide (byte ≠ 61) = true := by
    intro byte hbyte
    rw [decide_eq_true_iff]
    rintro rfl
    exact byte_not_mem_escape '=' (by decide) hbyte
  have hsplit : split '&' (formOf name value) = [formOf name value] := by
    rw [split, List.splitOn_eq_singleton (not_mem_formOf (by decide)), List.map_singleton,
      String.ofList_toList]
  have hbytes : utf8 (formOf name value).toList =
      utf8 (escape name) ++ 61 :: utf8 (escape value) := by
    rw [formOf, String.toList_ofList, utf8_append, utf8_cons]
    rfl
  have hnonempty : formOf name value ≠ "" := by
    intro h
    simp [formOf] at h
  have hfield : formField (utf8 (formOf name value).toList) = (name, value) := by
    rw [hbytes, formField, List.takeWhile_append_of_pos hname, List.dropWhile_append_of_pos hname]
    simp [formBytes_escape]
  rw [formFields, hsplit]
  simp [hnonempty, hfield]

/-! ## Texts -/

/-- The bytes of a text give the text. -/
@[simp] theorem formText_utf8 (text : String) : formText (utf8 text.toList) = text := by
  rw [formText, decodeLossy_utf8, String.ofList_toList]

theorem formText_eq_iff_decodeLossy : formText bytes = text ↔ decodeLossy bytes = text.toList := by
  rw [formText, ← String.toList_inj, String.toList_ofList]

/-- A text without the replacement character is given by no bytes but its own. -/
theorem formText_eq_iff (h : '\uFFFD' ∉ text.toList) :
    formText bytes = text ↔ bytes = utf8 text.toList := by
  rw [formText_eq_iff_decodeLossy, decodeLossy_eq_iff h]

/-- A text with a replacement character is also given by bytes that are not its own. -/
theorem exists_formText_eq_of_mem (h : '\uFFFD' ∈ text.toList) :
    ∃ bytes, formText bytes = text ∧ bytes ≠ utf8 text.toList := by
  obtain ⟨bytes, htext, hbytes⟩ := exists_decodeLossy_eq_of_mem h
  exact ⟨bytes, formText_eq_iff_decodeLossy.mpr htext, hbytes⟩

end RemoteShell.Text.Percent
