import RemoteShell.Hub.Access
import RemoteShell.Hub.Handshake
import RemoteShell.Hub.Opening
import RemoteShell.Shells
import RemoteShell.Text.Split
import RemoteShell.Version

/-!
# The routes of a hub

A request is led by its path. The state of the hub is open to all; the sessions are
listed and stopped with the key in a header, and opened with the key in the query.
Main statement: without the key a guarded route leaves the hub as it is
(`respond_of_refusal`).
-/

namespace RemoteShell.Hub

open Http (Request Response jsonText jsonNat)

/-- Where a path leads. -/
inductive Route where
  | health
  | sessions
  /-- One session; its name is still escaped. -/
  | session (escaped : String)
  | opening
  deriving DecidableEq, Repr

namespace Route

/-- The route of a path. -/
def ofPath? (path : String) : Option Route :=
  match Text.split '/' path with
  | ["", "api", "health"] => some .health
  | ["", "api", "sessions"] => some .sessions
  | ["", "api", "sessions", id] => if id = "" then none else some (.session id)
  | ["", "api", "ws"] => some .opening
  | _ => none

/-- The methods that a route takes. -/
def methods : Route → List String
  | session _ => ["DELETE"]
  | _ => ["GET", "HEAD"]

/-- Tells whether a request has to show the key in a header. -/
def isGuarded : Route → Bool
  | sessions | session _ => true
  | health | opening => false

end Route

/-- How a request is answered. -/
inductive Reply where
  | response (response : Response)
  /-- The connection is taken over by a new session. -/
  | opened (id : String) (spec : Spec)
  deriving DecidableEq, Repr

/-- What is said of one session in a listing. -/
def Entry.print (entry : Entry) : List Char :=
  Json.printObject [
    ("cols", jsonNat entry.spec.size.cols.toNat),
    ("created_at", jsonNat entry.createdAt),
    ("rows", jsonNat entry.spec.size.rows.toNat),
    ("session_id", jsonText entry.id),
    ("shell", jsonText entry.spec.shell),
    ("state", jsonText entry.state),
    ("working_dir", jsonText entry.spec.workingDir)]

/-- The listing of the sessions. -/
def printListing (hub : Hub) : List Char := Json.printList (hub.roster.listing.map Entry.print)

/-- The state of the hub. -/
def health (hub : Hub) : Response :=
  .json 200 [
    ("max_sessions", jsonNat hub.roster.limit),
    ("sessions", jsonNat hub.roster.count),
    ("status", jsonText (if hub.roster.isShutDown then "shutting_down" else "ok")),
    ("uptime_secs", jsonNat hub.uptime),
    ("version", jsonText versionNumber)]

/-- The sessions. -/
def sessionsAnswer (hub : Hub) : Response :=
  .json 200 [("count", jsonNat hub.roster.count), ("sessions", hub.printListing)]

/-- Stops a session. -/
def stopSession (hub : Hub) (escaped : String) : Response × Hub :=
  match Text.decode? (Text.Percent.unescape (Text.utf8 escaped.toList)) with
  | none => (.text 400 "Invalid URL: Invalid UTF-8 in `id`", hub)
  | some name =>
    let id := String.ofList name
    if hub.roster.contains id then
      (.json 200 [("session_id", jsonText id), ("status", jsonText "stopping")],
        hub.withRoster (·.kill id))
    else
      (.json 404 [("error", jsonText "Session not found"), ("session_id", jsonText id)], hub)

/-- What a session is to run. A shell that does not exist is replaced; none if there is
no shell at all. -/
def specOf? (hub : Hub) (opening : Opening) : Option Spec := do
  let requested := opening.shell.getD hub.settings.shell.defaultShell
  let shell ← Shells.resolve hub.files requested
  return ⟨shell, opening.workingDir.getD hub.settings.shell.defaultWorkingDir,
    opening.size hub.settings.server⟩

/-- Opens a session with the given name. -/
def openSession (hub : Hub) (request : Request) (id : String) : Except Response (Spec × Hub) :=
  match Opening.ofQuery request.query with
  | .error e => .error (.text 400 s!"Failed to deserialize query string: {e.message}")
  | .ok opening =>
    match checkHandshake request with
    | .error e => .error e.response
    | .ok () =>
      if hub.acceptsKey opening.token then
        match hub.specOf? opening with
        | none => .error (.json 500 [("error", jsonText "No shell available")])
        | some spec =>
          match hub.roster.reserve id spec hub.now with
          | .error e => .error (.json 503 [("error", jsonText e.message)])
          | .ok roster => .ok (spec, { hub with roster })
      else .error (.text 403 "Forbidden")

/-- Answers a request whose method the route takes. -/
def serve (hub : Hub) (route : Route) (request : Request) (id : String) : Reply × Hub :=
  match route with
  | .health => (.response hub.health, hub)
  | .sessions => (.response hub.sessionsAnswer, hub)
  | .session escaped =>
    let (response, hub) := hub.stopSession escaped
    (.response response, hub)
  | .opening =>
    match hub.openSession request id with
    | .error response => (.response response, hub)
    | .ok (spec, hub) => (.opened id spec, hub)

/-- Answers a request on a route, if it may be made there. -/
def answerOn (hub : Hub) (route : Route) (request : Request) (id : String) : Reply × Hub :=
  match if route.isGuarded then hub.refusal? request else none with
  | some refusal => (.response refusal, hub)
  | none =>
    if request.method ∈ route.methods then hub.serve route request id
    else (.response .methodNotAllowed, hub)

/-- Gives an answer the form that the method of the request asks for. -/
def finish (reply : Reply) (route : Route) (method : String) : Reply :=
  match reply with
  | .opened id spec => .opened id spec
  | .response response =>
    let response := if method = "HEAD" then response.withoutBody else response
    if method ∈ route.methods then .response response
    else .response { response with allow := some (",".intercalate route.methods) }

/-- Answers a request. A session that it opens gets the given name. -/
def respond (hub : Hub) (request : Request) (id : String) : Reply × Hub :=
  match Route.ofPath? request.path with
  | none => (.response (.bare 404), hub)
  | some route =>
    let (reply, hub) := hub.answerOn route request id
    (finish reply route request.method, hub)

/-- A request that is refused leaves the hub as it is. -/
theorem respond_of_refusal {hub : Hub} {request : Request} {id : String} {route : Route}
    {refusal : Response} (hroute : Route.ofPath? request.path = some route)
    (hguarded : route.isGuarded = true) (hrefusal : hub.refusal? request = some refusal) :
    hub.respond request id = (finish (.response refusal) route request.method, hub) := by
  simp [respond, hroute, answerOn, hguarded, hrefusal]

end RemoteShell.Hub
