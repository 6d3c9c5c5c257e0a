import RemoteShell.Output.Pump

/-!
# A buffer with its client alone

An outlet that is worked by hand: output is taken or flushed on call, and a pump
may run beside. A flush waits for its own write only, so several can be on their
way at once.
-/

namespace RemoteShell

/-- A flush that has been called for. -/
inductive Flush where
  | waiting (write : Write)
  /-- The flush has returned the size of its write. -/
  | returned (result : Except ClientFault Nat)
  deriving Repr

/-- An outlet, the flushes called for, in order, and the pump. -/
structure Desk where
  now : Nat
  outlet : Outlet
  flushes : List Flush
  isStopping : Bool
  period : Nat
  pump : Pump
  deriving Repr

namespace Desk

/-- A desk where nothing has happened. -/
def fresh : Desk := ⟨0, .fresh, [], false, 1, .idle⟩

/-- Lets one flush go on, if it can. -/
def stepFlush (flush : Flush) (outlet : Outlet) : Flush × Outlet :=
  match flush with
  | .returned result => (.returned result, outlet)
  | .waiting write =>
    match write.attempt outlet with
    | none => (.waiting write, outlet)
    | some (.accepted, outlet) => (.returned (.ok write.data.length), outlet)
    | some (.failed error, outlet) => (.returned (.error error), outlet)
    | some (.heldUp, outlet) => (.waiting { write with isHeldUp := true }, outlet)

/-- Lets the flushes go on in the order of their calls. -/
def stepFlushes : List Flush → Outlet → List Flush × Outlet
  | [], outlet => ([], outlet)
  | flush :: rest, outlet =>
    let (flush, outlet) := stepFlush flush outlet
    let (rest, outlet) := stepFlushes rest outlet
    (flush :: rest, outlet)

/-- Lets everything go on until it has to wait. -/
def settle (desk : Desk) : Desk :=
  let (flushes, outlet) := stepFlushes desk.flushes desk.outlet
  let (pump, outlet) := desk.pump.settle desk.period desk.now desk.isStopping outlet
  { desk with flushes, outlet, pump }

/-- Calls for a flush, which captures the buffer at once. -/
def flush (desk : Desk) : Desk :=
  match desk.outlet.capture with
  | ([], outlet) => { desk with outlet, flushes := desk.flushes ++ [.returned (.ok 0)] }
  | (data, outlet) => { desk with outlet, flushes := desk.flushes ++ [.waiting ⟨data, false⟩] }

/-- Takes the buffered output away. -/
def take (desk : Desk) : List UInt8 × Desk :=
  let (data, outlet) := desk.outlet.capture
  (data, { desk with outlet })

/-- Starts the pump. -/
def startPump (desk : Desk) (period : Nat) : Desk :=
  { desk with period, pump := .waiting desk.now }

/-- The tick that the pump waits for. -/
def nextTick? (desk : Desk) : Option Nat :=
  match desk.pump with
  | .waiting due => if desk.now < due then some due else none
  | _ => none

/-- Moves the clock, tick by tick. -/
def advanceFrom (now target : Nat) (desk : Desk) : Desk :=
  match desk.nextTick? with
  | none => { desk with now := target }.settle
  | some due =>
    if _ : now < due ∧ due ≤ target then
      advanceFrom due target { desk with now := due }.settle
    else { desk with now := target }.settle
termination_by target - now

/-- Lets time pass. -/
def advance (desk : Desk) (length : Nat) : Desk :=
  advanceFrom desk.now (desk.now + length) desk

end Desk

end RemoteShell
