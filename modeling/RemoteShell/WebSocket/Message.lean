/-!
# Messages of a WebSocket

Text and bytes carry data. Pings, pongs and closings control the link; they are short.
-/

namespace RemoteShell.WebSocket

/-- What is said when a link is closed. -/
structure Farewell where
  code : UInt16
  reason : List UInt8
  deriving DecidableEq, Repr

/-- A message. -/
inductive Message where
  | text (text : String)
  | binary (bytes : List UInt8)
  | ping (bytes : List UInt8)
  | pong (bytes : List UInt8)
  | close (farewell : Option Farewell)
  deriving DecidableEq, Repr

/-- The longest content of a message that controls the link. -/
def longestControl : Nat := 125

/-- Tells whether a message is longer than its kind allows. -/
def Message.isTooLong : Message → Bool
  | text _ | binary _ | close none => false
  | ping bytes | pong bytes => longestControl < bytes.length
  | close (some farewell) => longestControl < farewell.reason.length + 2

/-- Tells whether a code may be said. Codes that stand for events, codes that are reserved
and codes without a meaning may not. -/
def Farewell.isAllowed (farewell : Farewell) : Bool :=
  let n := farewell.code.toNat
  (1000 ≤ n && n ≤ 1003) || (1007 ≤ n && n ≤ 1013) || (3000 ≤ n && n ≤ 4999)

/-- What is answered to one who says what may not be said. -/
def violation : Farewell := ⟨1002, "Protocol violation".toUTF8.toList⟩

/-- A farewell with a code that may be said. -/
def Farewell.proper (farewell : Farewell) : Farewell :=
  if farewell.isAllowed then farewell else violation

/-- Why a link fails. -/
inductive LinkError where
  /-- The other side has left without a word. -/
  | reset
  /-- The other side has said something after its farewell. -/
  | receivedAfterClosing
  /-- Something is to be said after the farewell. -/
  | sendAfterClosing
  | controlTooLong
  /-- The link has come to its end. -/
  | alreadyClosed
  /-- Nobody takes what is sent. -/
  | brokenPipe
  deriving DecidableEq, Repr

/-- The wording of a failure. -/
def LinkError.message : LinkError → String
  | .reset => "WebSocket protocol error: Connection reset without closing handshake"
  | .receivedAfterClosing => "WebSocket protocol error: Remote sent after having closed"
  | .sendAfterClosing => "WebSocket protocol error: Sending after closing is not allowed"
  | .controlTooLong =>
    "WebSocket protocol error: Control frame too big (payload must be 125 bytes or less)"
  | .alreadyClosed => "Trying to work with closed connection"
  | .brokenPipe => "IO error: broken pipe"

end RemoteShell.WebSocket
