import RemoteShell.Time

/-!
# Timing of a session
-/

namespace RemoteShell

/-- The periods and bounds that a session runs by, in nanoseconds. -/
structure Options where
  /-- How often output is sent to the client. -/
  flushInterval : Nat
  /-- How often the shell is probed. -/
  keepaliveInterval : Nat
  /-- After how many failed probes in a row the session is given up. -/
  keepaliveMaxFailures : UInt32
  /-- How long the last write, and after it the closing of the link, may take. -/
  drainTimeout : Nat
  deriving DecidableEq, Repr

namespace Options

/-- The timing of a session that nobody has configured. -/
def standard : Options := ⟨millis 60, seconds 15, 3, millis 500⟩

/-- The shortest period that a session runs by. -/
def shortest : Nat := millis 1

/-- Raises periods that are too short. -/
def clamped (options : Options) : Options :=
  { options with
    flushInterval := max options.flushInterval shortest
    keepaliveInterval := max options.keepaliveInterval shortest
    drainTimeout := max options.drainTimeout shortest }

/-- Clamping leaves periods alone that are long enough. -/
theorem clamped_of_le {options : Options} (hflush : shortest ≤ options.flushInterval)
    (hkeepalive : shortest ≤ options.keepaliveInterval)
    (hdrain : shortest ≤ options.drainTimeout) :
    options.clamped = options := by
  simp only [clamped, Nat.max_eq_left, hflush, hkeepalive, hdrain]

end Options

end RemoteShell
