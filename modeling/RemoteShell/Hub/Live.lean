import RemoteShell.Host.Seat
import RemoteShell.Hub.Roster
import RemoteShell.Session.Action
import RemoteShell.WebSocket.Link

/-!
# A session at work

A session of a hub joins the link of its client to a shell on the host. What the
session does to the one and to the other is carried out, and what they do in turn is
told to the session.
-/

namespace RemoteShell.Hub

/-- A session at work. -/
structure Live where
  link : WebSocket.Link
  seat : Host.Seat
  /-- The terminal that the session types on. -/
  stdin : Nat
  session : Session
  /-- How much of what the session did has been carried out at the client and the shell. -/
  clientDone : Nat
  shellDone : Nat
  deriving Repr

/-- Why a session does not come to work. -/
inductive StartFault where
  | shell (fault : ShellFault)
  /-- A timer cannot be started, and the handler of the session breaks off. -/
  | timers
  deriving DecidableEq, Repr

namespace Live

/-- The variable that tells a shell which session it belongs to. -/
def idVariable : String := "SHELLBRIDGE_SESSION"

/-- Sets a session up and runs it when the clock of the host shows some second. Programs
on the host do what `actions` say. -/
def start (files : FileTree) (options : Options) (id : String) (spec : Spec)
    (actions : List Host.Action) (clock : Nat) : Except StartFault Live :=
  let seat := Host.Seat.make files spec.shell spec.workingDir [(idVariable, id)] actions
  let (requested, seat) := seat.openTerminal spec.size
  let (taken, seat) := seat.giveInput
  let (started, seat) := seat.listen.start
  let setup : Setup := ⟨requested, taken.map fun _ => (), started⟩
  match (Session.prepare options spec.size setup).1 with
  | .error e => .error (.shell e)
  | .ok session =>
    match (session.setNow (seconds clock)).run with
    | none => .error .timers
    | some answer =>
      .ok ⟨.fresh, seat, taken.toOption.getD 0, answer.toOption.getD session, 0, 0⟩

/-- Carries out at the client what the session did. -/
def toClient (link : WebSocket.Link) : ClientEvent → WebSocket.Link
  | .wrote data => (link.write data).2
  | .closed => link.close.2
  | .writeFailed _ | .writeStalled _ => link

/-- Carries out at the shell what the session did. -/
def toShell (stdin : Nat) (seat : Host.Seat) : ShellEvent → Host.Seat
  | .resized size => (seat.resize size).2
  | .stdinWrote keys => seat.write stdin keys
  | .closed => seat.close.2
  | _ => seat

/-- Carries out what the session did. -/
def carryOut (live : Live) : Live :=
  { live with
    link := (live.session.outlet.log.drop live.clientDone).foldl toClient live.link
    clientDone := live.session.outlet.log.length
    seat := (live.session.shell.log.drop live.shellDone).foldl (toShell live.stdin) live.seat
    shellDone := live.session.shell.log.length }

/-- Lets the session do what it can. -/
def settle (live : Live) : Live :=
  carryOut { live with session := (live.session.setWriting live.link.writing).settle }

/-- Lets the shell do what it can, and tells the session. Its end comes after its output. -/
def hearShell (live : Live) : Live :=
  let (output, seat) := live.seat.settle.takeOutput
  let live := { live with seat, session := live.session.emit output }
  if live.seat.shell.child.isNone then live
  else
    match live.seat.wait? with
    | none => live
    | some (exit, seat) => { live with seat, session := live.session.withShell (·.leave exit) }

/-- Lets the session and the shell do what they can. -/
def react (live : Live) : Live := live.settle.hearShell.settle

/-- What a reading tells the session. -/
def arrivalOf? : WebSocket.Reading → Option Arrival
  | .text text => some (.text text)
  | .binary bytes => some (.binary bytes)
  | .closed => some .hangUp
  | .failed e => some (.failure e)
  | .pending => none

/-- Reads a frame, if the session waits for one. -/
def hearClient (live : Live) : Live :=
  if live.session.relay = .reading then
    let (reading, link) := live.link.read
    match arrivalOf? reading with
    | none => { live with link }
    | some inbound => react { live with link, session := live.session.arrive inbound }
  else live

/-- Lets everything go on: first what is under way, then what has arrived from the client,
and at last the end of the link if it has come. -/
def goOn (live : Live) : Live :=
  (List.range (live.link.server.inbox.length + 1)).foldl (fun live _ => live.hearClient) live.react

/-- Tells the session to stop. -/
def stop (live : Live) : Live := { live with session := live.session.stop }

/-- Lets time pass until the output has been written. -/
def waitForFlush (live : Live) : Live :=
  carryOut { live with session :=
    (live.session.setWriting live.link.writing).advance live.session.options.flushInterval }

/-- Tells whether the session has returned. -/
def isOver (live : Live) : Bool := live.session.result.isSome

end Live

end RemoteShell.Hub
