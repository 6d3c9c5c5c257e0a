import RemoteShell.Decimal.Bounded
import RemoteShell.Settings.Basic
import RemoteShell.Terminal
import RemoteShell.Text.Percent

/-!
# Opening a session

What a client asks for when it opens a session, as the query of its request says.
The query is read from the left, and the first fault decides; that the key is
missing shows only at the end. Names that mean nothing here are passed over.
-/

namespace RemoteShell.Hub

/-- What a client asks for. -/
structure Opening where
  token : String
  cols : Option UInt16
  rows : Option UInt16
  shell : Option String
  workingDir : Option String
  deriving DecidableEq, Repr

/-- Why a query opens no session. -/
inductive OpeningError where
  | missing (name : String)
  | duplicate (name : String)
  | notNumber (name : String) (error : Decimal.NumberError)
  deriving DecidableEq, Repr

/-- The wording of a fault. -/
def OpeningError.message : OpeningError → String
  | .missing name => s!"missing field `{name}`"
  | .duplicate name => s!"duplicate field `{name}`"
  | .notNumber name error => s!"{name}: {error.message}"

/-- What has been read of a query so far. -/
structure PartialOpening where
  token : Option String
  cols : Option UInt16
  rows : Option UInt16
  shell : Option String
  workingDir : Option String

namespace PartialOpening

/-- Nothing has been read. -/
def empty : PartialOpening := ⟨none, none, none, none, none⟩

/-- Reads a dimension of the terminal. -/
def readCells (name value : String) : Except OpeningError UInt16 :=
  match Decimal.readUpTo 65535 value.toList with
  | .ok n => .ok (.ofNat n)
  | .error e => .error (.notNumber name e)

/-- Takes up a value that may be given once. -/
def once {α : Type} (name : String) (known : Option α) (read : Except OpeningError α) :
    Except OpeningError (Option α) :=
  if known.isSome then .error (.duplicate name) else read.map some

/-- Takes up a named value. -/
def add (o : PartialOpening) (name value : String) : Except OpeningError PartialOpening :=
  match name with
  | "token" => do return { o with token := ← once name o.token (.ok value) }
  | "cols" => do return { o with cols := ← once name o.cols (readCells name value) }
  | "rows" => do return { o with rows := ← once name o.rows (readCells name value) }
  | "shell" => do return { o with shell := ← once name o.shell (.ok value) }
  | "working_dir" => do return { o with workingDir := ← once name o.workingDir (.ok value) }
  | _ => .ok o

end PartialOpening

namespace Opening

/-- What the named values of a query ask for. -/
def ofPairs (pairs : List (String × String)) : Except OpeningError Opening := do
  let o ← pairs.foldlM (fun o (name, value) => o.add name value) PartialOpening.empty
  match o.token with
  | none => throw (.missing "token")
  | some token => return ⟨token, o.cols, o.rows, o.shell, o.workingDir⟩

/-- What a query asks for. -/
def ofQuery (query : String) : Except OpeningError Opening := ofPairs (Text.Percent.formPairs query)

/-- A dimension that was asked for; the default if it is zero or missing. -/
def dimension (asked : Option UInt16) (default : UInt16) : UInt16 :=
  match asked with
  | none => default
  | some n => if n = 0 then default else n

/-- The terminal that a session starts with. -/
def size (opening : Opening) (settings : ServerSettings) : TerminalSize :=
  ⟨dimension opening.cols settings.defaultCols, dimension opening.rows settings.defaultRows⟩

end Opening

end RemoteShell.Hub
