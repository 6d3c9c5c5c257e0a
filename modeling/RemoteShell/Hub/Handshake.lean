import RemoteShell.Http.Message
import RemoteShell.Text.Split
import RemoteShell.Text.Utf8

/-!
# Taking over a connection

A session talks over a connection that begins as a request. The request has to ask
for the change of protocol in full.
-/

namespace RemoteShell.Hub

/-- Why a connection cannot be taken over. -/
inductive HandshakeError where
  | wrongMethod
  | noUpgrade
  | noWebSocket
  | noKey
  | wrongVersion
  /-- The connection cannot change its protocol. -/
  | fixedConnection
  deriving DecidableEq, Repr

namespace HandshakeError

/-- The status of the refusal. -/
def status : HandshakeError → Nat
  | wrongMethod => 405
  | fixedConnection => 426
  | _ => 400

/-- The wording of the refusal. -/
def message : HandshakeError → String
  | wrongMethod => "Request method must be `GET`"
  | noUpgrade => "Connection header did not include 'upgrade'"
  | noWebSocket => "`Upgrade` header did not include 'websocket'"
  | noKey => "`Sec-WebSocket-Key` header missing"
  | wrongVersion => "`Sec-WebSocket-Version` header did not include '13'"
  | fixedConnection => "WebSocket request couldn't be upgraded since no upgrade state was present"

/-- The refusal. -/
def response (error : HandshakeError) : Http.Response := .text error.status error.message

end HandshakeError

/-- A header value in lower case, if it is text. -/
def lowerText? (value : List UInt8) : Option String :=
  (Text.decode? value).map fun text => .ofList (text.map Char.toLower)

/-- Tells whether a header holds a word somewhere, in any case. -/
def mentions (request : Http.Request) (name word : String) : Bool :=
  match (request.header? name).bind lowerText? with
  | some text => Text.holds word.toList text.toList
  | none => false

/-- Tells whether a header is a word, in any case. -/
def equals (request : Http.Request) (name word : String) : Bool :=
  (request.header? name).bind lowerText? = some word

/-- Checks that a request asks for the change of protocol, and that it can be had. -/
def checkHandshake (request : Http.Request) : Except HandshakeError Unit :=
  if request.method ≠ "GET" then .error .wrongMethod
  else if ¬ mentions request "connection" "upgrade" then .error .noUpgrade
  else if ¬ equals request "upgrade" "websocket" then .error .noWebSocket
  else if (request.header? "sec-websocket-key").isNone then .error .noKey
  else if ¬ equals request "sec-websocket-version" "13" then .error .wrongVersion
  else if ¬ request.canSwitch then .error .fixedConnection
  else .ok ()

end RemoteShell.Hub
