import RemoteShell.Control.Frame
import RemoteShell.Proofs.Json.Grammar

/-!
# The grammar of frames

A frame is written as an object, whose members stand in any order and may be others than
those of a frame, or in short form as a list of up to four items.
-/

namespace RemoteShell.Control

open Json

/-! ## Rows -/

section row

variable {α : Type} (IsItem : α → List Char → Prop)

/-- The further items of a row, with a comma in front of each and blanks around. -/
inductive IsTail : List α → List Char → Prop
  | nil {after : List Char} (hafter : IsBlanks after) : IsTail [] after
  | cons {item : α} {items : List α} {after before chars tail : List Char}
      (hafter : IsBlanks after) (hbefore : IsBlanks before) (hitem : IsItem item chars)
      (htail : IsTail items tail) :
      IsTail (item :: items) (after ++ ',' :: (before ++ (chars ++ tail)))

/-- A row of items, with commas between them and blanks around. -/
inductive IsRow : List α → List Char → Prop
  | cons {item : α} {items : List α} {before chars tail : List Char} (hbefore : IsBlanks before)
      (hitem : IsItem item chars) (htail : IsTail IsItem items tail) :
      IsRow (item :: items) (before ++ (chars ++ tail))

end row

/-! ## Members -/

/-- A member of an object: one of the four of a frame, or another one. -/
inductive Member where
  | kind (value : String)
  | cols (value : Int64)
  | rows (value : Int64)
  | cmd (value : String)
  | other (key : String)

namespace Member

/-- The key of a member. -/
def key : Member → String
  | kind _ => "type"
  | cols _ => "cols"
  | rows _ => "rows"
  | cmd _ => "cmd"
  | other key => key

def kind? : Member → Option String
  | kind value => some value
  | cols _ | rows _ | cmd _ | other _ => none

def cols? : Member → Option Int64
  | cols value => some value
  | kind _ | rows _ | cmd _ | other _ => none

def rows? : Member → Option Int64
  | rows value => some value
  | kind _ | cols _ | cmd _ | other _ => none

def cmd? : Member → Option String
  | cmd value => some value
  | kind _ | cols _ | rows _ | other _ => none

/-- How the value of a member is written. Other members have keys of their own and any
value. -/
inductive HasValue : Member → List Char → Prop
  | kind {value : String} {literal : List Char} (hliteral : IsQuoted value literal) :
      HasValue (.kind value) literal
  | cols {value : Int64} {literal : List Char} (hliteral : IsInteger value literal) :
      HasValue (.cols value) literal
  | rows {value : Int64} {literal : List Char} (hliteral : IsInteger value literal) :
      HasValue (.rows value) literal
  | cmd {value : String} {literal : List Char} (hliteral : IsQuoted value literal) :
      HasValue (.cmd value) literal
  | other {key : String} {literal : List Char} (hkey : key ∉ ["type", "cols", "rows", "cmd"])
      (hliteral : IsValue literal) : HasValue (.other key) literal

/-- How a member is written: its key, a colon and its value. -/
inductive IsWritten (member : Member) : List Char → Prop
  | mk {body gap before value : List Char} (hkey : IsText member.key.toList body)
      (hgap : IsBlanks gap) (hbefore : IsBlanks before) (hvalue : HasValue member value) :
      IsWritten member ('"' :: (body ++ '"' :: (gap ++ ':' :: (before ++ value))))

end Member

/-- A value is given once, or not at all if it is the default one. -/
def IsGiven {α : Type} (default value : α) (given : List α) : Prop :=
  given = [value] ∨ given = [] ∧ value = default

/-- The members name a frame: its type once, and whatever else is not zero or empty. -/
structure Frame.IsNamedBy (frame : Frame) (members : List Member) : Prop where
  kind : members.filterMap Member.kind? = [frame.kind]
  cols : IsGiven 0 frame.cols (members.filterMap Member.cols?)
  rows : IsGiven 0 frame.rows (members.filterMap Member.rows?)
  cmd : IsGiven "" frame.cmd (members.filterMap Member.cmd?)

/-- The two forms of a frame. -/
inductive Frame.IsForm (frame : Frame) : List Char → Prop
  | object {members : List Member} {chars : List Char} (hrow : IsRow Member.IsWritten members chars)
      (hnamed : frame.IsNamedBy members) : frame.IsForm ('{' :: (chars ++ ['}']))
  | list {members : List Member} {chars : List Char} (hrow : IsRow Member.HasValue members chars)
      (horder : members <+: [.kind frame.kind, .cols frame.cols, .rows frame.rows, .cmd frame.cmd])
      (hnamed : frame.IsNamedBy members) : frame.IsForm ('[' :: (chars ++ [']']))

/-- A text that is a frame and nothing else. -/
inductive Frame.IsWritten (frame : Frame) : List Char → Prop
  | mk {before form after : List Char} (hbefore : IsBlanks before) (hform : frame.IsForm form)
      (hafter : IsBlanks after) : frame.IsWritten (before ++ (form ++ after))

end RemoteShell.Control
