/-!
# Terminal geometry
-/

namespace RemoteShell

/-- The size of a terminal in character cells. -/
structure TerminalSize where
  cols : UInt16
  rows : UInt16
  deriving DecidableEq, Repr, Inhabited

/-- The classic 80 by 24. -/
def TerminalSize.standard : TerminalSize := ⟨80, 24⟩

/-- The size as it is written in messages, columns first. -/
def TerminalSize.text (size : TerminalSize) : String := s!"{size.cols.toNat}x{size.rows.toNat}"

/-- A terminal with at least one cell. -/
def TerminalSize.IsProper (size : TerminalSize) : Prop :=
  1 ≤ size.cols.toNat ∧ 1 ≤ size.rows.toNat

end RemoteShell
