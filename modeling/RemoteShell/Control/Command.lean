import RemoteShell.Base64
import RemoteShell.Control.Frame
import RemoteShell.Terminal
import RemoteShell.Text.Utf8

/-!
# Commands

What a control frame asks for: a new terminal size, input for the shell, or
nothing. `decode` goes from the text of a frame to its command.
-/

namespace RemoteShell.Control

/-- What a client asks for. -/
inductive Command where
  | resize (size : TerminalSize)
  | input (bytes : List UInt8)
  | heartbeat
  /-- A frame of a type that has no meaning here. -/
  | unknown (kind : String)
  deriving DecidableEq, Repr

/-- Why a text holds no command. -/
inductive CommandError where
  | notFrame (error : Json.Error)
  | badPayload (error : Base64.Error)
  | badSize (cols rows : Int64)
  deriving DecidableEq, Repr

/-- The wording of an error. -/
def CommandError.message : CommandError → String
  | .notFrame error => s!"malformed frame: {error.message}"
  | .badPayload error => s!"invalid cmd payload: {error.message}"
  | .badSize cols rows => s!"invalid terminal size {cols.toInt}x{rows.toInt}"

/-- A dimension that a terminal can have. -/
def dimension? (value : Int64) : Option UInt16 :=
  if 0 < value.toInt ∧ value.toInt < 65536 then some (.ofNat value.toInt.toNat) else none

/-- The size of a resize frame. -/
def Frame.size? (frame : Frame) : Option TerminalSize := do
  return ⟨← dimension? frame.cols, ← dimension? frame.rows⟩

/-- What a frame asks for. -/
def Frame.command (frame : Frame) : Except CommandError Command :=
  match frame.kind with
  | "resize" =>
    match frame.size? with
    | some size => .ok (.resize size)
    | none => .error (.badSize frame.cols frame.rows)
  | "cmd" =>
    match Base64.decode (Text.utf8 frame.cmd.toList) with
    | .ok bytes => .ok (.input bytes)
    | .error e => .error (.badPayload e)
  | "heartbeat" => .ok .heartbeat
  | kind => .ok (.unknown kind)

/-- The command of a text. -/
def decode (text : String) : Except CommandError Command :=
  match Frame.read text with
  | .ok frame => frame.command
  | .error e => .error (.notFrame e)

/-- The frame that asks for a terminal size. -/
def Frame.resize (size : TerminalSize) : Frame :=
  ⟨"resize", .ofNat size.cols.toNat, .ofNat size.rows.toNat, ""⟩

/-- The frame that carries input. -/
def Frame.input (bytes : List UInt8) : Frame :=
  ⟨"cmd", 0, 0, .ofList ((Base64.encode bytes).map fun b => .ofNat b.toNat)⟩

/-- The frame that only says that the client is there. -/
def Frame.heartbeat : Frame := .ofKind "heartbeat"

end RemoteShell.Control
