import RemoteShell.Hub.Live
import RemoteShell.Hub.Router

/-!
# A hub at work

The sessions of a hub at work, by name. A session that the roster tells to stop is
stopped, and one that is over is taken off the roster and lets go of its link.
-/

namespace RemoteShell.Hub

/-- A session of a hub, as its client visits it. -/
inductive Visit where
  | atWork (live : Live)
  /-- Only the end of the client is left of the link. -/
  | past (link : WebSocket.Link)
  deriving Repr

/-- The link of a session. -/
def Visit.link : Visit → WebSocket.Link
  | atWork live => live.link
  | past link => link

/-- Changes the link of a session. -/
def Visit.withLink (visit : Visit) (link : WebSocket.Link) : Visit :=
  match visit with
  | atWork live => .atWork { live with link }
  | past _ => .past link

/-- A hub with its sessions. -/
structure Service where
  hub : Hub
  sessions : List (String × Visit)
  deriving Repr

namespace Service

/-- Puts a session under a name. -/
def put (service : Service) (id : String) (visit : Visit) : Service :=
  { service with sessions := (id, visit) :: service.sessions.filter (·.1 ≠ id) }

/-- Takes up what a session has come to. -/
def note (service : Service) (id : String) (live : Live) : Service :=
  if live.isOver then
    put { service with hub := service.hub.withRoster (·.release id) } id
      (.past live.link.dropServer)
  else
    put { service with hub := service.hub.withRoster (·.setStage id live.session.lifecycle) } id
      (.atWork live)

/-- Lets a session go on. -/
def goOn (service : Service) (id : String) : Service :=
  match service.sessions.lookup id with
  | some (.atWork live) =>
    service.note id (if service.hub.roster.isStopped id then live.stop else live).goOn
  | _ => service

/-- Starts a session that has been entered on the roster. If that fails, the link of the
client is dropped at once. -/
def start (service : Service) (id : String) (spec : Spec) (actions : List Host.Action) : Service :=
  let hub := service.hub
  match Live.start hub.files hub.settings.timing.options id spec actions hub.clock with
  | .error _ =>
    put { service with hub := hub.withRoster (·.release id) } id
      (.past WebSocket.Link.fresh.dropServer)
  | .ok live => (service.note id live).goOn id

/-- Answers a request. A session that it opens gets the given name, and its shell does what
`actions` say. -/
def respond (service : Service) (request : Http.Request) (id : String)
    (actions : List Host.Action) : Reply × Service :=
  match service.hub.respond request id with
  | (.response response, hub) => (.response response, { service with hub })
  | (.opened id spec, hub) => (.opened id spec, { service with hub }.start id spec actions)

/-! ## What clients do -/

/-- A client sends a message. -/
def send (service : Service) (id : String) (message : WebSocket.Message) :
    Except WebSocket.LinkError Unit × Service :=
  match service.sessions.lookup id with
  | none => (.error .alreadyClosed, service)
  | some visit =>
    let (result, link) := visit.link.sendFromClient message
    (result, (service.put id (visit.withLink link)).goOn id)

/-- A client leaves without a word. -/
def drop (service : Service) (id : String) : Service :=
  match service.sessions.lookup id with
  | none => service
  | some visit => (service.put id (visit.withLink visit.link.dropClient)).goOn id

/-- A client waits for output. -/
def waitForFlush (service : Service) (id : String) : Service :=
  match service.sessions.lookup id with
  | some (.atWork live) => service.note id live.waitForFlush
  | _ => service

/-- A client listens to the end: all data, and what came after it. -/
def hear (service : Service) (id : String) : List UInt8 × WebSocket.Received × Service :=
  let service := service.goOn id
  match service.sessions.lookup id with
  | none => ([], .pending, service)
  | some visit =>
    let (data, last, link) := visit.link.hear
    (data, last, service.put id (visit.withLink link))

end Service

end RemoteShell.Hub
