import Mathlib.Data.List.TakeWhile
import RemoteShell.Shells

/-!
# The list of shells, line by line

What a list of shells means is said here by its lines, without regard to how they are read. A
line with nothing but white space on it names no path, and neither does one on which the first
other character is a number sign; any other line names what stands on it between white space
(`LineNames`). The paths of a text are those of its lines, in order (`TextNames`). Main
statement: these are the paths that are read (`textNames_iff`).
-/

namespace RemoteShell.Shells

/-! ## Lines -/

/-- White space is what has this property in Unicode, by the numbers of the characters. -/
def IsSpace (c : Char) : Prop :=
  (9 ≤ c.toNat ∧ c.toNat ≤ 13) ∨ c.toNat = 32 ∨ c.toNat = 0x85 ∨ c.toNat = 0xa0 ∨
    c.toNat = 0x1680 ∨ (0x2000 ≤ c.toNat ∧ c.toNat ≤ 0x200a) ∨ c.toNat = 0x2028 ∨
    c.toNat = 0x2029 ∨ c.toNat = 0x202f ∨ c.toNat = 0x205f ∨ c.toNat = 0x3000

/-- A word is not empty, and there is white space at neither end of it. -/
structure IsBare (word : List Char) : Prop where
  head : ∃ c rest, word = c :: rest ∧ ¬ IsSpace c
  last : ∃ front c, word = front ++ [c] ∧ ¬ IsSpace c

/-- The paths that a line names: one at most. -/
inductive LineNames : List Char → List String → Prop where
  | blank {line : List Char} (hline : ∀ c ∈ line, IsSpace c) : LineNames line []
  | comment {front rest : List Char} (hfront : ∀ c ∈ front, IsSpace c) :
      LineNames (front ++ '#' :: rest) []
  | path {front back : List Char} {name : String} (hfront : ∀ c ∈ front, IsSpace c)
      (hback : ∀ c ∈ back, IsSpace c) (hname : IsBare name.toList)
      (hsign : name.toList.head? ≠ some '#') : LineNames (front ++ name.toList ++ back) [name]

/-- The paths that a text names: those of its lines, in order. -/
inductive TextNames : List Char → List String → Prop where
  | last {line : List Char} {names : List String} (hline : '\n' ∉ line)
      (hnames : LineNames line names) : TextNames line names
  | cons {line rest : List Char} {names later : List String} (hline : '\n' ∉ line)
      (hnames : LineNames line names) (hrest : TextNames rest later) :
      TextNames (line ++ '\n' :: rest) (names ++ later)

variable {c : Char} {text line rest front back word : List Char} {names later : List String}

/-! ## White space -/

theorem mem_wideBlanks_iff : c ∈ Text.wideBlanks ↔ c.toNat ∈ [0x85, 0xa0, 0x1680, 0x2000, 0x2001,
    0x2002, 0x2003, 0x2004, 0x2005, 0x2006, 0x2007, 0x2008, 0x2009, 0x200a, 0x2028, 0x2029, 0x202f,
    0x205f, 0x3000] := by
  change c ∈ Text.wideBlanks ↔ c.toNat ∈ Text.wideBlanks.map Char.toNat
  rw [List.mem_map]
  constructor
  · exact fun hc => ⟨c, hc, rfl⟩
  · rintro ⟨other, hother, hnumber⟩
    exact Char.toNat_inj.mp hnumber ▸ hother

theorem isBlank_iff : Text.isBlank c = true ↔ IsSpace c := by
  have hspace : c = ' ' ↔ c.toNat = 32 := Char.toNat_inj.symm
  have hcontrol : '\t' ≤ c ∧ c ≤ '\r' ↔ 9 ≤ c.toNat ∧ c.toNat ≤ 13 := Iff.rfl
  simp only [Text.isBlank, Bool.or_eq_true, Bool.and_eq_true, decide_eq_true_eq,
    List.contains_iff_mem, mem_wideBlanks_iff, hspace, hcontrol, IsSpace, List.mem_cons,
    List.not_mem_nil, or_false]
  omega

theorem dropWhile_isBlank_append (hfront : ∀ c ∈ front, IsSpace c) :
    (front ++ rest).dropWhile Text.isBlank = rest.dropWhile Text.isBlank :=
  List.dropWhile_append_of_pos fun c hc => isBlank_iff.mpr (hfront c hc)

theorem dropWhile_isBlank_of_head (h : ¬ IsSpace c) :
    (c :: rest).dropWhile Text.isBlank = c :: rest :=
  List.dropWhile_cons_of_neg fun hblank => h (isBlank_iff.mp hblank)

/-- White space at the front comes off, and what is left does not begin with more. -/
theorem exists_eq_dropWhile_isBlank (line : List Char) :
    ∃ front, line = front ++ line.dropWhile Text.isBlank ∧ (∀ c ∈ front, IsSpace c) ∧
      ∀ c rest, line.dropWhile Text.isBlank = c :: rest → ¬ IsSpace c := by
  refine ⟨line.takeWhile Text.isBlank, List.takeWhile_append_dropWhile.symm, ?_, ?_⟩
  · exact fun c hc => isBlank_iff.mp (List.mem_takeWhile_imp hc)
  · intro c rest hrest
    have hhead := List.head?_dropWhile_not Text.isBlank line
    rw [hrest] at hhead
    rw [← isBlank_iff, Bool.not_eq_true]
    exact hhead

/-! ## What is left of a line -/

theorem trim_of_blank (hline : ∀ c ∈ line, IsSpace c) : Text.trim line = [] := by
  have hnone : (line ++ []).dropWhile Text.isBlank = [] := dropWhile_isBlank_append hline
  rw [List.append_nil] at hnone
  rw [Text.trim, hnone]
  rfl

/-- Of a word in white space the word is left. -/
theorem trim_of_isBare (hfront : ∀ c ∈ front, IsSpace c) (hback : ∀ c ∈ back, IsSpace c)
    (hword : IsBare word) : Text.trim (front ++ word ++ back) = word := by
  obtain ⟨⟨c, rest, hhead, hc⟩, inner, d, hlast, hd⟩ := hword
  have hleft : (front ++ word ++ back).dropWhile Text.isBlank = word ++ back := by
    rw [List.append_assoc, dropWhile_isBlank_append hfront, hhead, List.cons_append,
      dropWhile_isBlank_of_head hc]
  have hright : (word ++ back).reverse.dropWhile Text.isBlank = word.reverse := by
    rw [List.reverse_append, dropWhile_isBlank_append (by simpa using hback), hlast,
      List.reverse_concat, dropWhile_isBlank_of_head hd]
  rw [Text.trim, hleft, hright, List.reverse_reverse]

/-- A comment begins with its sign when the white space is gone. -/
theorem trim_of_comment (hfront : ∀ c ∈ front, IsSpace c) :
    ∃ later, Text.trim (front ++ '#' :: rest) = '#' :: later := by
  have hsign : ¬ IsSpace '#' := by simp [IsSpace]
  have hleft : (front ++ '#' :: rest).dropWhile Text.isBlank = '#' :: rest := by
    rw [dropWhile_isBlank_append hfront, dropWhile_isBlank_of_head hsign]
  rw [Text.trim, hleft, List.reverse_cons, List.dropWhile_append]
  split
  · rw [dropWhile_isBlank_of_head hsign]
    exact ⟨[], rfl⟩
  · exact ⟨_, List.reverse_concat ..⟩

/-- A line is what is left of it between its white space. -/
theorem exists_eq_trim (line : List Char) :
    ∃ front back, line = front ++ Text.trim line ++ back ∧ (∀ c ∈ front, IsSpace c) ∧
      (∀ c ∈ back, IsSpace c) ∧ (Text.trim line ≠ [] → IsBare (Text.trim line)) := by
  obtain ⟨front, hfront, hblank, hhead⟩ := exists_eq_dropWhile_isBlank line
  obtain ⟨back, hback, hblank', hlast⟩ :=
    exists_eq_dropWhile_isBlank (line.dropWhile Text.isBlank).reverse
  have hrest : line.dropWhile Text.isBlank = Text.trim line ++ back.reverse := by
    rw [Text.trim, ← List.reverse_append, ← hback, List.reverse_reverse]
  refine ⟨front, back.reverse, ?_, hblank, by simpa using hblank', fun hne => ⟨?_, ?_⟩⟩
  · rw [List.append_assoc, ← hrest, ← hfront]
  · obtain ⟨c, later, hword⟩ := List.exists_cons_of_ne_nil hne
    refine ⟨c, later, hword, hhead c (later ++ back.reverse) ?_⟩
    rw [hrest, hword, List.cons_append]
  · have hreverse : Text.trim line =
        ((line.dropWhile Text.isBlank).reverse.dropWhile Text.isBlank).reverse := rfl
    rw [hreverse, Ne, List.reverse_eq_nil_iff] at hne
    obtain ⟨d, inner, hword⟩ := List.exists_cons_of_ne_nil hne
    refine ⟨inner.reverse, d, ?_, hlast d inner hword⟩
    rw [hreverse, hword, List.reverse_cons]

/-! ## Reading -/

/-- What is read of a line. -/
def namesOn (line : List Char) : List String :=
  [String.ofList (Text.trim line)].filter fun word => word ≠ "" && !word.startsWith "#"

theorem namesOn_of_trim_eq_nil (h : Text.trim line = []) : namesOn line = [] := by
  simp [namesOn, h]

theorem namesOn_of_trim_eq_cons (h : Text.trim line = c :: rest) :
    namesOn line = if c = '#' then [] else [String.ofList (c :: rest)] := by
  by_cases hc : c = '#'
  · simp [namesOn, h, hc]
  · simp [namesOn, h, hc, Ne.symm hc]

/-- The paths that are read of a line are those that it names. -/
theorem lineNames_iff : LineNames line names ↔ namesOn line = names := by
  constructor
  · rintro (hline | hfront | ⟨hfront, hback, hname, hsign⟩)
    · exact namesOn_of_trim_eq_nil (trim_of_blank hline)
    · obtain ⟨later, htrim⟩ := trim_of_comment hfront
      rw [namesOn_of_trim_eq_cons htrim, if_pos rfl]
    · obtain ⟨c, rest, hhead, -⟩ := hname.head
      have htrim := trim_of_isBare hfront hback hname
      rw [hhead] at htrim
      rw [hhead, List.head?_cons, Ne, Option.some.injEq] at hsign
      rw [hhead, namesOn_of_trim_eq_cons htrim, if_neg hsign, ← hhead, String.ofList_toList]
  · rintro rfl
    obtain ⟨front, back, hline, hfront, hback, hbare⟩ := exists_eq_trim line
    cases htrim : Text.trim line with
    | nil =>
      rw [htrim, List.append_nil] at hline
      rw [namesOn_of_trim_eq_nil htrim]
      exact .blank fun c hc => (List.mem_append.mp (hline ▸ hc)).elim (hfront c) (hback c)
    | cons c rest =>
      rw [namesOn_of_trim_eq_cons htrim]
      split
      · next hc =>
        rw [htrim, hc, List.append_assoc, List.cons_append] at hline
        rw [hline]
        exact .comment hfront
      · next hc =>
        have hname := hbare (by simp [htrim])
        rw [htrim] at hline hname
        rw [hline]
        have hpath := @LineNames.path front back (.ofList (c :: rest)) hfront hback
        simp only [String.toList_ofList] at hpath
        exact hpath hname (by simpa using hc)

theorem listed_of_notMem (hline : '\n' ∉ line) : listed (.ofList line) = namesOn line := by
  rw [listed, Text.split, String.toList_ofList, List.splitOn_eq_singleton hline]
  simp [namesOn]

theorem listed_append (hline : '\n' ∉ line) :
    listed (.ofList (line ++ '\n' :: rest)) = namesOn line ++ listed (.ofList rest) := by
  rw [listed, Text.split, String.toList_ofList, List.splitOn_append_cons_self_of_not_mem hline]
  simp [listed, Text.split, namesOn, ← List.filter_append]

/-- The paths that are read of a text are those that it names. -/
theorem textNames_iff : TextNames text names ↔ listed (.ofList text) = names := by
  constructor
  · intro h
    induction h with
    | last hline hnames => rw [listed_of_notMem hline, lineNames_iff.mp hnames]
    | cons hline hnames _ ih => rw [listed_append hline, lineNames_iff.mp hnames, ih]
  · rintro rfl
    -- the induction is on the length, since a line is taken off at once
    induction hlength : text.length using Nat.strongRecOn generalizing text with
    | _ length ih =>
      by_cases hline : '\n' ∈ text
      · obtain ⟨line, rest, rfl, hfirst⟩ := List.eq_append_cons_of_mem hline
        have hshorter : rest.length < length := by
          rw [← hlength, List.length_append, List.length_cons]
          omega
        rw [listed_append hfirst]
        exact .cons hfirst (lineNames_iff.mpr rfl) (ih _ hshorter rfl)
      · rw [listed_of_notMem hline]
        exact .last hline (lineNames_iff.mpr rfl)

end RemoteShell.Shells
