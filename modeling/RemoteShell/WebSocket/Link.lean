import RemoteShell.Output.Outlet
import RemoteShell.WebSocket.Endpoint

/-!
# A link between a server and a client

The server takes data from the link as frames; what only controls the link does not
show there.
-/

namespace RemoteShell.WebSocket

/-- A link, with both of its ends. -/
structure Link where
  server : Endpoint
  client : Endpoint
  deriving Repr

/-- What the server reads from a link. -/
inductive Reading where
  | text (text : String)
  | binary (bytes : List UInt8)
  /-- The client has left. -/
  | closed
  | failed (error : ClientFault)
  | pending
  deriving DecidableEq, Repr

/-- A failure of the link, as its user sees it. -/
def LinkError.asClientFault (error : LinkError) : ClientFault := .transport error.message

namespace Link

/-- A new link. -/
def fresh : Link := ⟨.fresh true, .fresh false⟩

/-- Reads a frame at the end of the server. Pings and pongs are passed over. -/
def readAt (server client : Endpoint) : Reading × Link :=
  match _ : server.receive client with
  | (.message (.text text), server, client) => (.text text, ⟨server, client⟩)
  | (.message (.binary bytes), server, client) => (.binary bytes, ⟨server, client⟩)
  | (.message (.close _), server, client) => (.closed, ⟨server, client⟩)
  | (.message (.ping _), server, client) => readAt server client
  | (.message (.pong _), server, client) => readAt server client
  | (.ended, server, client) => (.closed, ⟨server, client⟩)
  | (.failed error, server, client) => (.failed error.asClientFault, ⟨server, client⟩)
  | (.pending, server, client) => (.pending, ⟨server, client⟩)
termination_by server.inbox.length
decreasing_by
  all_goals exact Endpoint.length_inbox_of_receive (by assumption)

/-- Reads a frame. -/
def read (link : Link) : Reading × Link := readAt link.server link.client

/-- Writes output of the server. -/
def write (link : Link) (bytes : List UInt8) : Except ClientFault Unit × Link :=
  let (result, server, client) := link.server.send link.client (.binary bytes)
  (result.mapError LinkError.asClientFault, ⟨server, client⟩)

/-- Closes the link from the server. -/
def close (link : Link) : Except ClientFault Unit × Link :=
  let (result, server, client) := link.server.close link.client none
  (result.mapError LinkError.asClientFault, ⟨server, client⟩)

/-- Sends a message from the client. -/
def sendFromClient (link : Link) (message : Message) : Except LinkError Unit × Link :=
  let (result, client, server) := link.client.send link.server message
  (result, ⟨server, client⟩)

/-- Receives a message at the client. -/
def receiveAtClient (link : Link) : Received × Link :=
  let (received, client, server) := link.client.receive link.server
  (received, ⟨server, client⟩)

/-- How the server could write now. -/
def writing (link : Link) : Behaviour ClientFault :=
  match (link.write []).1 with
  | .ok () => .prompt
  | .error e => .failing e

/-- Receives all that has arrived at the end of the client, up to what ends the link: the
data, and what came after it. -/
def hearAt (client server : Endpoint) : List UInt8 × Received × Link :=
  match _ : client.receive server with
  | (.message (.binary bytes), client, server) =>
    let (data, last, link) := hearAt client server
    (bytes ++ data, last, link)
  | (.message (.text _), client, server) => hearAt client server
  | (.message (.ping _), client, server) => hearAt client server
  | (.message (.pong _), client, server) => hearAt client server
  | (received, client, server) => ([], received, ⟨server, client⟩)
termination_by client.inbox.length
decreasing_by
  all_goals exact Endpoint.length_inbox_of_receive (by assumption)

/-- Receives at the client all that has arrived, up to what ends the link. -/
def hear (link : Link) : List UInt8 × Received × Link := hearAt link.client link.server

/-- Drops the end of the client. -/
def dropClient (link : Link) : Link :=
  { link with client := { link.client with isGone := true, inbox := [] } }

/-- Drops the end of the server. -/
def dropServer (link : Link) : Link :=
  { link with server := { link.server with isGone := true, inbox := [] } }

end Link

end RemoteShell.WebSocket
