import RemoteShell.Text.Utf8

/-!
# Texts and their bytes

Different texts have different bytes (`utf8_inj`). A byte below 128 is a character by
itself (`utf8_of_lt`, `utf8_map_ofNat`).
-/

namespace RemoteShell.Text

variable {c : Char} {text later : List Char} {bytes : List UInt8}

theorem utf8_cons (c : Char) (later : List Char) :
    utf8 (c :: later) = String.utf8EncodeChar c ++ utf8 later := List.flatMap_cons

theorem utf8_append (text later : List Char) : utf8 (text ++ later) = utf8 text ++ utf8 later :=
  List.flatMap_append

/-- Different texts have different bytes. -/
theorem utf8_inj : utf8 text = utf8 later ↔ text = later := by
  refine ⟨fun h => ?_, congrArg utf8⟩
  have hbytes : text.utf8Encode = later.utf8Encode := congrArg List.toByteArray h
  rw [← String.toByteArray_ofList, ← String.toByteArray_ofList, String.toByteArray_inj] at hbytes
  exact String.ofList_inj.mp hbytes

/-- A single-byte character is written as its number. -/
theorem utf8EncodeChar_of_lt (h : c.toNat < 128) : String.utf8EncodeChar c = [.ofNat c.toNat] :=
  if_pos (Nat.le_of_lt_succ h)

/-- Single-byte characters are written as their numbers. -/
theorem utf8_of_lt (h : ∀ c ∈ text, c.toNat < 128) :
    utf8 text = text.map fun c => .ofNat c.toNat := by
  induction text with
  | nil => rfl
  | cons c later ih =>
    rw [List.forall_mem_cons] at h
    rw [utf8_cons, utf8EncodeChar_of_lt h.1, ih h.2]
    rfl

/-- The number of a character that is given by its number. -/
theorem toNat_ofNat {code : Nat} (h : code.isValidChar) : (Char.ofNat code).toNat = code := by
  rw [Char.ofNat, dif_pos h]
  rfl

/-- Low bytes are the bytes of the characters with these numbers. -/
theorem utf8_map_ofNat (h : ∀ x ∈ bytes, x.toNat < 128) :
    utf8 (bytes.map fun x => Char.ofNat x.toNat) = bytes := by
  induction bytes with
  | nil => rfl
  | cons x later ih =>
    rw [List.forall_mem_cons] at h
    have hnumber : (Char.ofNat x.toNat).toNat = x.toNat := toNat_ofNat (.inl (by omega))
    rw [List.map_cons, utf8_cons, utf8EncodeChar_of_lt (by omega), hnumber, UInt8.ofNat_toNat,
      ih h.2, List.singleton_append]

/-- Characters whose bytes are all low are the characters with these numbers. -/
theorem eq_map_ofNat_of_utf8 (h : ∀ x ∈ utf8 text, x.toNat < 128) :
    text = (utf8 text).map fun x => Char.ofNat x.toNat :=
  utf8_inj.mp (utf8_map_ofNat h).symm

end RemoteShell.Text
