import Mathlib.Data.List.Forall2
import RemoteShell.Proofs.Control.FrameReading
import RemoteShell.Proofs.Json.Printing

/-!
# Writing a frame

A frame is written as an object of its type and of whatever else is not zero or empty
(`isRow_members`). This is one of the forms of the grammar, so the frame is read back
(`read_print`), and what has been left out is found again as what it was.
-/

namespace RemoteShell.Control

open Json

/-! ## Rows -/

section row

variable {α : Type} {IsItem : α → List Char → Prop} {items : List α} {texts : List (List Char)}

/-- Items with a comma in front of each go on with a row. -/
theorem isTail_flatMap (h : List.Forall₂ IsItem items texts) :
    IsTail IsItem items (texts.flatMap (',' :: ·)) := by
  induction h with
  | nil => exact .nil isBlanks_nil
  | cons hitem _ ih => exact .cons isBlanks_nil isBlanks_nil hitem ih

/-- Items with commas between them are a row. -/
theorem isRow_intercalate {item : α} {text : List Char} (hitem : IsItem item text)
    (hitems : List.Forall₂ IsItem items texts) :
    IsRow IsItem (item :: items) (List.intercalate [','] (text :: texts)) := by
  have hcommas : List.intercalate [','] (text :: texts) = text ++ texts.flatMap (',' :: ·) := by
    clear hitem hitems
    induction texts generalizing text with
    | nil => simp
    | cons next later ih =>
      rw [List.intercalate_cons_of_ne_nil (by simp), ih]
      simp
  rw [hcommas]
  exact .cons isBlanks_nil hitem (isTail_flatMap hitems)

/-- An item that is left out together with its text. -/
theorem forall₂_ite {item : α} {text : List Char} (isLeftOut : Prop) [Decidable isLeftOut]
    (h : IsItem item text) :
    List.Forall₂ IsItem (if isLeftOut then [] else [item]) (if isLeftOut then [] else [text]) := by
  by_cases hout : isLeftOut
  · simp [hout]
  · simp [hout, h]

end row

/-! ## Members -/

/-- The text of a member with a value that is already written. -/
def printMember (key : String) (value : List Char) : List Char :=
  printText key.toList ++ ':' :: value

/-- A member is written with its key in quotes, and nothing around the colon. -/
theorem Member.isWritten_printMember {member : Member} {value : List Char}
    (h : member.HasValue value) : member.IsWritten (printMember member.key value) := by
  have hkey := isText_flatMap_escapedChar member.key.toList
  have hwritten := IsWritten.mk hkey isBlanks_nil isBlanks_nil h
  simpa [printMember, printText] using hwritten

/-- The members that are written for a frame: its type, and what is not zero or empty. -/
def Frame.members (frame : Frame) : List Member :=
  .kind frame.kind :: ((if frame.cols = 0 then [] else [.cols frame.cols]) ++
    ((if frame.rows = 0 then [] else [.rows frame.rows]) ++
      if frame.cmd = "" then [] else [.cmd frame.cmd]))

/-- What is left out of the members is zero or empty. -/
theorem Frame.isNamedBy_members (frame : Frame) : frame.IsNamedBy frame.members := by
  obtain ⟨kind, cols, rows, cmd⟩ := frame
  by_cases hcols : cols = 0 <;> by_cases hrows : rows = 0 <;> by_cases hcmd : cmd = "" <;>
  · constructor <;>
      simp [Frame.members, List.filterMap_cons, IsGiven, hcols, hrows, hcmd, Member.kind?,
        Member.cols?, Member.rows?, Member.cmd?]

/-- The texts of the members that are written for a frame. -/
def Frame.memberTexts (frame : Frame) : List (List Char) :=
  (if frame.cols = 0 then [] else [printMember "cols" (printInt frame.cols.toInt)]) ++
    ((if frame.rows = 0 then [] else [printMember "rows" (printInt frame.rows.toInt)]) ++
      if frame.cmd = "" then [] else [printMember "cmd" (printText frame.cmd.toList)])

theorem Frame.print_eq (frame : Frame) :
    frame.print.toList = '{' :: (List.intercalate [',']
      (printMember "type" (printText frame.kind.toList) :: frame.memberTexts) ++ ['}']) := by
  obtain ⟨kind, cols, rows, cmd⟩ := frame
  by_cases hcols : cols = 0 <;> by_cases hrows : rows = 0 <;> by_cases hcmd : cmd = "" <;>
    simp [Frame.print, printObject, Frame.memberTexts, printMember, hcols, hrows, hcmd]

/-- The object of a frame has its members in a row. -/
theorem Frame.isRow_members (frame : Frame) :
    ∃ chars, IsRow Member.IsWritten frame.members chars ∧
      frame.print.toList = '{' :: (chars ++ ['}']) := by
  have hkind := Member.isWritten_printMember (.kind (isQuoted_printText frame.kind))
  have hcols := Member.isWritten_printMember (.cols (isInteger_printInt frame.cols))
  have hrows := Member.isWritten_printMember (.rows (isInteger_printInt frame.rows))
  have hcmd := Member.isWritten_printMember (.cmd (isQuoted_printText frame.cmd))
  have hrest : List.Forall₂ Member.IsWritten _ frame.memberTexts :=
    List.rel_append (forall₂_ite (frame.cols = 0) hcols)
      (List.rel_append (forall₂_ite (frame.rows = 0) hrows) (forall₂_ite (frame.cmd = "") hcmd))
  exact ⟨_, isRow_intercalate hkind hrest, frame.print_eq⟩

/-- A frame is written in the object form, and it is read back. -/
theorem Frame.read_print (frame : Frame) : Frame.read frame.print = .ok frame := by
  obtain ⟨chars, hrow, hprint⟩ := frame.isRow_members
  have hform : frame.IsForm ('{' :: (chars ++ ['}'])) := .object hrow frame.isNamedBy_members
  have hwritten : frame.IsWritten ('{' :: (chars ++ ['}'])) := by
    simpa using Frame.IsWritten.mk isBlanks_nil hform isBlanks_nil
  rw [← hprint] at hwritten
  exact read_eq_ok_iff.mpr hwritten

/-- Every frame is read back from its text, so no two frames have the same text, although
only the members that are neither zero nor empty are written, after the type. -/
theorem print_is_read_back :
    (∀ frame : Frame, Frame.read frame.print = .ok frame) ∧ Function.Injective Frame.print ∧
      ∀ frame : Frame, ∃ chars, frame.print.toList = '{' :: (chars ++ ['}']) ∧
        IsRow Member.IsWritten frame.members chars := by
  refine ⟨Frame.read_print, fun frame other h => ?_, fun frame => ?_⟩
  · have hframe := frame.read_print
    rw [h, other.read_print] at hframe
    exact (Except.ok.inj hframe).symm
  · obtain ⟨chars, hrow, hprint⟩ := frame.isRow_members
    exact ⟨chars, hprint, hrow⟩

/-- Controls are escaped, and the least number of 64 bits is written in full. -/
example : (Frame.mk "\u000b" 0 (-9223372036854775808) "").print =
    "\x7b\"type\":\"\\u000b\",\"rows\":-9223372036854775808\x7d" := by cbv

end RemoteShell.Control
