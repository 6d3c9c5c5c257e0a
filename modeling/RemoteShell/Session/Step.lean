import RemoteShell.Control.Command
import RemoteShell.Session.State

/-!
# The steps of a session

Each task takes small steps. A step that has to wait, for time to pass or for
the other side to act, is not there yet. `Session.step` lets the tasks take
turns in a fixed order; between two changes from outside the order does not
matter to anybody who only sees where they come to rest.

Several tasks wait for two things at once, their end and something to do, and
look at the two in no fixed order (`race`). So a task that is to end may still
do what is at hand.
-/

namespace RemoteShell.Session

/-- A task waits for its end and for something to do. If both have come, the one that it
looks at first counts. -/
def race (s : Session) (isEnding : Bool) (ended : Session) (going : Option Session) :
    Option Session :=
  if isEnding then some (if s.endFirst then ended else going.getD ended) else going

theorem race_eq_some_iff {s s' ended : Session} {isEnding : Bool} {going : Option Session} :
    s.race isEnding ended going = some s' ↔
      isEnding = true ∧ (s.endFirst = true ∨ going = none) ∧ ended = s' ∨
        (isEnding = true → s.endFirst = false) ∧ going = some s' := by
  cases isEnding <;> cases hfirst : s.endFirst <;> cases going <;> simp [race, hfirst]

/-- Only a race that has not come to its end can go on waiting. -/
@[simp] theorem race_eq_none_iff {s ended : Session} {isEnding : Bool} {going : Option Session} :
    s.race isEnding ended going = none ↔ isEnding = false ∧ going = none := by
  cases isEnding <;> simp [race]

/-! ## Stopping -/

/-- A request to stop cancels the scope once the session runs. -/
def stepStop (s : Session) : Option Session :=
  if s.startedAt.isSome ∧ s.stopRequested ∧ ¬ s.isCancelled then some s.cancel else none

/-! ## From the client to the shell -/

/-- Offers input to the shell. Once the teardown has taken the input away, the write fails
at once and nothing comes of it. -/
def offer (s : Session) (bytes : List UInt8) : Session :=
  if s.teardown.hasTakenInput then s else { s with relay := .writing bytes }

/-- Reads a frame and starts to carry it out. One that holds no command is passed over.
A relay that ends between the two leaves no more behind than one that ends before. -/
def receive (s : Session) : Arrival → Session
  | .text text =>
    match Control.decode text with
    | .ok (.resize size) =>
      { s with shell := s.shell.record (.resized size), relay := .resizing }
    | .ok (.input bytes) => s.offer bytes
    | .ok .heartbeat | .ok (.unknown _) | .error _ => s
  | .binary bytes => s.offer bytes
  | .hangUp => { s.endWith .ended with relay := .finished }
  | .failure e => { s.endWith (.failed (.client e)) with relay := .finished }

/-- Passes some input on to the shell, as much as it takes; none if it takes nothing. -/
def feed (shell : Shell) (rest : List UInt8) : Option (Shell × Relay) :=
  if rest = [] then some (shell, .flushing)
  else if shell.stdin.failure.isSome then some (shell.record (.stdinFailed rest), .reading)
  else
    match shell.stdin.room with
    | none => some (shell.record (.stdinWrote rest), .flushing)
    | some 0 => none
    | some (room + 1) =>
      let part := rest.take (room + 1)
      let shell := { shell with stdin.room := some (room + 1 - part.length) }
      some (shell.record (.stdinWrote part), .writing (rest.drop (room + 1)))

/-- What a relay does that goes on; none if it has to wait. What goes wrong with a frame
is passed over. -/
def goRelay (s : Session) : Option Session :=
  match s.relay with
  | .idle | .finished => none
  | .reading =>
    match s.inbox with
    | [] => none
    | frame :: later => some ({ s with inbox := later }.receive frame)
  | .resizing => if s.shell.resizing = .stalled then none else some { s with relay := .reading }
  | .writing rest => (feed s.shell rest).map fun (shell, relay) => { s with shell, relay }
  | .flushing =>
    if s.shell.stdin.flushing = .stalled then none else some { s with relay := .reading }

/-- A step of the relay. -/
def stepRelay (s : Session) : Option Session :=
  match s.relay with
  | .idle | .finished => none
  | .reading | .resizing | .writing _ | .flushing =>
    s.race s.isCancelled { s with relay := .finished } s.goRelay

/-! ## From the shell to the client -/

/-- When the last write is given up: some time after the scope was cancelled, or
after the start if that came later. -/
def drainDeadline? (s : Session) : Option Nat := do
  return max (← s.scope.cancelledAt) (← s.startedAt) + s.options.drainTimeout

/-- The failure of a last write that took too long. -/
def drainTimedOut : ClientFault := .transport "final flush timed out"

/-- Takes up a state of the pump. A failed pump ends the session. -/
def withPump (s : Session) (pump : Pump) : Session :=
  match pump with
  | .finished (.error e) _ => { s.endWith (.failed (.client e)) with pump }
  | _ => { s with pump }

/-- What a pump does that goes on; none if it has to wait. -/
def goPump (s : Session) : Option Session :=
  (s.pump.step s.options.flushInterval s.now s.isCancelled s.outlet).map fun (pump, outlet) =>
    { s with outlet }.withPump pump

/-- Tells whether a write that the client holds up has taken too long. -/
def isOverdue (s : Session) : Bool :=
  s.pump.write?.any (·.isHeldUp) && s.drainDeadline?.any (· ≤ s.now)

/-- A step of the pump. -/
def stepPump (s : Session) : Option Session :=
  s.race s.isOverdue (s.withPump (s.pump.abandon drainTimedOut)) s.goPump

/-! ## Watching the shell -/

/-- How many failed probes in a row end the session. -/
def maxFailures (s : Session) : Nat := max 1 s.options.keepaliveMaxFailures.toNat

/-- What a watchdog does that goes on; none if it has to wait. -/
def goWatchdog (s : Session) : Option Session :=
  match s.watchdog with
  | .idle | .finished => none
  | .waiting due failures =>
    if due ≤ s.now then
      let (outcome, shell) := s.shell.probe
      let due := nextDue s.options.keepaliveInterval due s.now
      some { s with shell, watchdog := .probing outcome due failures }
    else none
  | .probing outcome due failures =>
    match outcome with
    | .hanging => none
    | .answered => some { s with watchdog := .waiting due 0 }
    | .failed e =>
      if s.maxFailures ≤ failures + 1 then
        some { s.endWith (.failed (.unresponsive e)) with watchdog := .finished }
      else some { s with watchdog := .waiting due (failures + 1) }

/-- A step of the watchdog. -/
def stepWatchdog (s : Session) : Option Session :=
  match s.watchdog with
  | .idle | .finished => none
  | .waiting .. | .probing .. =>
    s.race s.isCancelled { s with watchdog := .finished } s.goWatchdog

/-- How a session ends when the shell has left. -/
def exitReason : Except ShellFault Int → StopReason
  | .ok code => if isCleanExit code then .ended else .failed (.shellExited code)
  | .error e => .failed (.backend e)

/-- Starts the teardown on behalf of an owner, unless it has been started before. -/
def startTeardown? (s : Session) (owner : Owner) : Option Session :=
  match s.teardown with
  | .idle => some { s with teardown := .takingStdin owner }
  | _ => none

/-- The exit watch is told to end: it tears the shell down unless somebody else does. -/
def endExitWatch (s : Session) : Session :=
  match s.startTeardown? .exitWatch with
  | some s => { s with exitWatch := .closing }
  | none => { s with exitWatch := .finished }

/-- The exit watch hears that the shell has left. -/
def goExitWatch (s : Session) : Option Session :=
  s.shell.exit.map fun exit =>
    { s.endWith (exitReason exit) with
      shell := { s.shell with exit := none }, exitWatch := .finished }

/-- A step of the exit watch. -/
def stepExitWatch (s : Session) : Option Session :=
  match s.exitWatch with
  | .idle | .finished => none
  | .waiting => s.race s.isCancelled s.endExitWatch s.goExitWatch
  | .closing =>
    match s.teardown with
    | .finished .. => some { s with exitWatch := .finished }
    | _ => none

/-! ## Ending -/

/-- A step of the closer. -/
def stepCloser (s : Session) : Option Session :=
  match s.closer with
  | .idle | .finished => none
  | .waiting =>
    if s.isCancelled then some { s with closer := .draining, lifecycle := .draining } else none
  | .draining =>
    if s.pump.isFinished then
      some { s with
        outlet := s.outlet.record .closed, closer := .closing (s.now + s.options.drainTimeout) }
    else none
  | .closing deadline =>
    if s.closing = .stalled ∧ s.now < deadline then none else some { s with closer := .finished }

/-- Answers the call of `close` that owns the teardown. -/
def answerOwner (s : Session) (owner : Owner) (result : Except ShellFault Unit) : Session :=
  match owner with
  | .caller index => { s with closeCalls := s.closeCalls.set index (some result) }
  | _ => s

/-- Ends the teardown. -/
def finishTeardown (s : Session) (owner : Owner) (result : Except ShellFault Unit) : Session :=
  { s.answerOwner owner result with teardown := .finished owner result }

/-- A step of the teardown. It takes the input of the shell away when the relay does not
hold it. That the input cannot be shut down changes nothing. -/
def stepTeardown (s : Session) : Option Session :=
  match s.teardown with
  | .idle | .finished .. => none
  | .takingStdin owner =>
    if s.relay.holdsInput then none else some { s with teardown := .shuttingStdin owner }
  | .shuttingStdin owner =>
    if s.shell.stdin.shutdown = .stalled then none
    else
      some { s with
        shell := (s.shell.record .stdinShutDown).record .closed, teardown := .closingShell owner }
  | .closingShell owner =>
    match s.shell.closing with
    | .stalled => none
    | .prompt => some (s.finishTeardown owner (.ok ()))
    | .failing e => some (s.finishTeardown owner (.error e))

/-- Tells whether all tasks of a session that has been started have ended. -/
def tasksFinished (s : Session) : Bool :=
  s.isCancelled && s.relay = .finished && s.pump.isFinished && s.watchdog = .finished &&
    s.exitWatch = .finished && s.closer = .finished

/-- Returns from running the session. -/
def finish (s : Session) : Session :=
  { s with lifecycle := .closed, runner := .returned s.scope.result }

/-- A step of the runner. -/
def stepRunner (s : Session) : Option Session :=
  match s.runner with
  | .idle | .returned _ => none
  | .running =>
    if s.tasksFinished then
      match s.startTeardown? .runner with
      | some s => some { s with runner := .closing }
      | none => some s.finish
    else none
  | .closing =>
    match s.teardown with
    | .finished .. => some s.finish
    | _ => none

/-- The tasks that take turns. -/
inductive Task where
  | stop
  | relay
  | pump
  | watchdog
  | exitWatch
  | closer
  | teardown
  | runner
  deriving DecidableEq, Repr

/-- The next step of a task; none if it has to wait. -/
def stepOf (s : Session) : Task → Option Session
  | .stop => s.stepStop
  | .relay => s.stepRelay
  | .pump => s.stepPump
  | .watchdog => s.stepWatchdog
  | .exitWatch => s.stepExitWatch
  | .closer => s.stepCloser
  | .teardown => s.stepTeardown
  | .runner => s.stepRunner

/-- The order in which tasks are asked for a step. -/
def turns : List Task := [.stop, .relay, .pump, .watchdog, .exitWatch, .closer, .teardown, .runner]

/-- The step of the first task that has one. -/
def step (s : Session) : Option Session := turns.findSome? s.stepOf

end RemoteShell.Session
