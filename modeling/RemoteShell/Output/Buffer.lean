/-!
# The output buffer

What the shell writes is kept until the next write to the client takes all of it
at once. Main statement: capturing and emitting neither lose nor reorder a byte
(`capture_append`, `emit_pending`).
-/

namespace RemoteShell

/-- The output of a shell. -/
structure OutputBuffer where
  /-- The bytes that wait for the next write. -/
  pending : List UInt8
  /-- All bytes that the shell has ever written. Nothing looks at this record. -/
  emitted : List UInt8
  /-- The count of the bytes that the shell has written. It has 64 bits and starts anew
  when they are used up. -/
  total : UInt64
  deriving DecidableEq, Repr

namespace OutputBuffer

/-- No output yet. -/
def empty : OutputBuffer := ⟨[], [], 0⟩

/-- Appends what the shell writes, and counts it. -/
def emit (buffer : OutputBuffer) (bytes : List UInt8) : OutputBuffer :=
  ⟨buffer.pending ++ bytes, buffer.emitted ++ bytes, buffer.total + .ofNat bytes.length⟩

/-- Takes all that waits. -/
def capture (buffer : OutputBuffer) : List UInt8 × OutputBuffer :=
  (buffer.pending, { buffer with pending := [] })

@[simp] theorem emit_pending (buffer : OutputBuffer) (bytes : List UInt8) :
    (buffer.emit bytes).pending = buffer.pending ++ bytes := rfl

@[simp] theorem emit_total (buffer : OutputBuffer) (bytes : List UInt8) :
    (buffer.emit bytes).total = buffer.total + .ofNat bytes.length := rfl

@[simp] theorem capture_append (buffer : OutputBuffer) :
    buffer.capture.1 ++ buffer.capture.2.pending = buffer.pending := by
  simp [capture]

@[simp] theorem capture_emitted (buffer : OutputBuffer) :
    buffer.capture.2.emitted = buffer.emitted := rfl

@[simp] theorem capture_total (buffer : OutputBuffer) :
    buffer.capture.2.total = buffer.total := rfl

end OutputBuffer

end RemoteShell
