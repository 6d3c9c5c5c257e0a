import RemoteShell.Fault
import RemoteShell.Output.Buffer

/-!
# Writing to the client

An outlet is the output buffer together with the client that it drains to. A
write is accepted, fails, or waits as long as the client takes nothing.
-/

namespace RemoteShell

/-- How the other side treats a call. -/
inductive Behaviour (ε : Type) where
  /-- The call returns at once. -/
  | prompt
  /-- The call waits until the behaviour changes. -/
  | stalled
  /-- The call fails. -/
  | failing (error : ε)
  deriving DecidableEq, Repr

/-- What a client has seen of its session. -/
inductive ClientEvent where
  | wrote (data : List UInt8)
  | writeFailed (data : List UInt8)
  | writeStalled (data : List UInt8)
  | closed
  deriving DecidableEq, Repr

/-- The output buffer and the client that it drains to. -/
structure Outlet where
  buffer : OutputBuffer
  writing : Behaviour ClientFault
  log : List ClientEvent
  deriving DecidableEq, Repr

namespace Outlet

/-- An outlet without output, to a client that takes writes at once. -/
def fresh : Outlet := ⟨.empty, .prompt, []⟩

/-- Records an event. -/
def record (outlet : Outlet) (event : ClientEvent) : Outlet :=
  { outlet with log := outlet.log ++ [event] }

/-- Appends output of the shell. -/
def emit (outlet : Outlet) (bytes : List UInt8) : Outlet :=
  { outlet with buffer := outlet.buffer.emit bytes }

/-- Takes all output that waits. -/
def capture (outlet : Outlet) : List UInt8 × Outlet :=
  (outlet.buffer.capture.1, { outlet with buffer := outlet.buffer.capture.2 })

end Outlet

/-- A write on its way to the client. -/
structure Write where
  data : List UInt8
  /-- Whether the client has been seen to hold it up. -/
  isHeldUp : Bool
  deriving DecidableEq, Repr

/-- What became of a write. -/
inductive Attempt where
  | accepted
  | failed (error : ClientFault)
  /-- The client holds it up, which is seen once. -/
  | heldUp
  deriving DecidableEq, Repr

/-- Tries a write; none if it is still held up. -/
def Write.attempt (write : Write) (outlet : Outlet) : Option (Attempt × Outlet) :=
  match outlet.writing with
  | .prompt => some (.accepted, outlet.record (.wrote write.data))
  | .failing error => some (.failed error, outlet.record (.writeFailed write.data))
  | .stalled =>
    if write.isHeldUp then none else some (.heldUp, outlet.record (.writeStalled write.data))

/-- Only a write that has not been seen to be held up is found to be so. -/
theorem Write.isHeldUp_of_attempt_heldUp {write : Write} {outlet outlet' : Outlet}
    (h : write.attempt outlet = some (.heldUp, outlet')) : write.isHeldUp = false := by
  unfold attempt at h
  split at h
  · simp at h
  · simp at h
  · split at h <;> simp_all

end RemoteShell
