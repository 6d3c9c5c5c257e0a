import RemoteShell.WebSocket.Message

/-!
# One end of a WebSocket

An end answers pings and farewells by itself. Its answer is queued and leaves with the
next thing that it does. A server that has both said and heard a farewell is done; a
client waits for the server to leave. Main statement: an end that receives a message
has one message less before it (`length_inbox_of_receive`).
-/

namespace RemoteShell.WebSocket

/-- How far the closing of a link has come, seen from one end. -/
inductive Phase where
  | active
  /-- This end has said farewell. -/
  | closing
  /-- The other end has said farewell first. -/
  | closedByPeer
  /-- The other end has answered the farewell. -/
  | acknowledged
  | terminated
  deriving DecidableEq, Repr

/-- Tells whether anything may still arrive. -/
def Phase.canReceive : Phase → Bool
  | active | closing => true
  | _ => false

/-- Tells whether the other end has said all it had to say. -/
def Phase.isPeerDone : Phase → Bool
  | closedByPeer | acknowledged => true
  | _ => false

/-- One end of a link. -/
structure Endpoint where
  isServer : Bool
  phase : Phase
  /-- The answer that is queued. -/
  reply : Option Message
  /-- Whether something could not be sent, which holds up all that follows. -/
  isStuck : Bool
  /-- Whether receiving is over. -/
  isEnded : Bool
  /-- Whether this end has been dropped. -/
  isGone : Bool
  /-- What has arrived and has not been received. -/
  inbox : List Message
  deriving Repr

/-- What an end receives. -/
inductive Received where
  | message (message : Message)
  /-- The link has ended in good order. -/
  | ended
  | failed (error : LinkError)
  /-- Nothing has arrived. -/
  | pending
  deriving DecidableEq, Repr

/-- What becomes of something that is sent. -/
inductive Sent where
  | done
  /-- It has been sent, and this was the last thing. -/
  | ended
  | broken
  deriving DecidableEq, Repr

namespace Endpoint

/-- An end of a new link. -/
def fresh (isServer : Bool) : Endpoint := ⟨isServer, .active, none, false, false, false, []⟩

/-- Puts a message before the other end. -/
def post (self other : Endpoint) (message : Message) : Bool × Endpoint × Endpoint :=
  if self.isStuck ∨ other.isGone then (false, { self with isStuck := true }, other)
  else (true, self, { other with inbox := other.inbox ++ [message] })

/-- Sends the answer that is queued, if there is one. -/
def sendReply (self other : Endpoint) : Bool × Endpoint × Endpoint :=
  match self.reply with
  | none => (!self.isStuck, self, other)
  | some message => { self with reply := none }.post other message

/-- Sends all that has to be sent. -/
def flush (self other : Endpoint) : Sent × Endpoint × Endpoint :=
  match self.sendReply other with
  | (false, self, other) => (.broken, self, other)
  | (true, self, other) =>
    if self.isServer ∧ ¬ self.phase.canReceive then
      (.ended, { self with phase := .terminated }, other)
    else (.done, self, other)

/-- Stops receiving. -/
def finish (self : Endpoint) : Endpoint := { self with isEnded := true }

/-- Takes up a message that has arrived. -/
def accept (self : Endpoint) (message : Message) : Received × Endpoint :=
  if ¬ self.phase.canReceive then (.failed .receivedAfterClosing, self.finish)
  else if message.isTooLong then (.failed .controlTooLong, self.finish)
  else
    match message with
    | .ping bytes =>
      (.message message,
        if self.phase = .active then { self with reply := some (.pong bytes) } else self)
    | .close farewell =>
      if self.phase = .active then
        let message := Message.close (farewell.map Farewell.proper)
        (.message message, { self with phase := .closedByPeer, reply := some message })
      else (.message message, { self with phase := .acknowledged })
    | _ => (.message message, self)

/-- Takes the next message that has arrived. -/
def take (self other : Endpoint) : Received × Endpoint :=
  match self.inbox with
  | message :: later => { self with inbox := later }.accept message
  | [] =>
    if other.isGone then
      (if self.phase.isPeerDone then .ended else .failed .reset,
        { self with phase := .terminated }.finish)
    else (.pending, self)

/-- Receives the next message. What is queued leaves first. -/
def receive (self other : Endpoint) : Received × Endpoint × Endpoint :=
  if self.isEnded then (.ended, self, other)
  else if self.phase = .terminated then (.ended, self.finish, other)
  else if self.reply.isSome then
    match self.flush other with
    | (.broken, self, other) => (.failed .brokenPipe, self.finish, other)
    | (.ended, self, other) => (.ended, self.finish, other)
    | (.done, self, other) =>
      let (received, self) := self.take other
      (received, self, other)
  else if self.isServer ∧ ¬ self.phase.canReceive then
    (.ended, { self with phase := .terminated }.finish, other)
  else
    let (received, self) := self.take other
    (received, self, other)

/-- Closes the link from this end, or goes on with its closing. -/
def close (self other : Endpoint) (farewell : Option Farewell) :
    Except LinkError Unit × Endpoint × Endpoint :=
  let (self, other) :=
    if self.phase = .active then
      let (_, self, other) := { self with phase := .closing }.post other (.close farewell)
      (self, other)
    else (self, other)
  match self.flush other with
  | (.broken, self, other) => (.error .brokenPipe, self, other)
  | (_, self, other) => (.ok (), self, other)

/-- Sends a message. What is queued leaves after it. -/
def send (self other : Endpoint) (message : Message) :
    Except LinkError Unit × Endpoint × Endpoint :=
  if self.phase = .terminated then (.error .alreadyClosed, self, other)
  else if self.phase ≠ .active then (.error .sendAfterClosing, self, other)
  else
    match message with
    | .close farewell => self.close other farewell
    | message =>
      let (_, self, other) := self.post other message
      match self.flush other with
      | (.broken, self, other) => (.error .brokenPipe, self, other)
      | (_, self, other) => (.ok (), self, other)

theorem inbox_post (self other : Endpoint) (message : Message) :
    (self.post other message).2.1.inbox = self.inbox := by
  unfold post
  split <;> rfl

theorem inbox_sendReply (self other : Endpoint) :
    (self.sendReply other).2.1.inbox = self.inbox := by
  unfold sendReply
  split
  · rfl
  · rw [inbox_post]

theorem inbox_flush (self other : Endpoint) : (self.flush other).2.1.inbox = self.inbox := by
  have h := inbox_sendReply self other
  unfold flush
  split
  · simp_all
  · split <;> simp_all

theorem inbox_accept (self : Endpoint) (message : Message) :
    (self.accept message).2.inbox = self.inbox := by
  unfold accept
  (repeat' split) <;> rfl

theorem length_inbox_of_take {self other self' : Endpoint} {message : Message}
    (h : self.take other = (.message message, self')) :
    self'.inbox.length < self.inbox.length := by
  unfold take at h
  split at h
  · rename_i next later hinbox
    have := inbox_accept { self with inbox := later } next
    rw [h] at this
    simp_all
  · split at h
    · split at h <;> cases h
    · cases h

/-- An end that receives a message has one message less before it. -/
theorem length_inbox_of_receive {self other self' other' : Endpoint} {message : Message}
    (h : self.receive other = (.message message, self', other')) :
    self'.inbox.length < self.inbox.length := by
  unfold receive at h
  split at h
  · cases h
  · split at h
    · cases h
    · split at h
      · split at h
        · cases h
        · cases h
        · rename_i flushed rest hflush
          have hinbox := inbox_flush self other
          rw [hflush] at hinbox
          cases htake : flushed.take rest with
          | mk received taken =>
            rw [htake] at h
            cases h
            have := length_inbox_of_take htake
            rw [← hinbox]
            exact this
      · split at h
        · cases h
        · cases htake : self.take other with
          | mk received taken =>
            rw [htake] at h
            cases h
            exact length_inbox_of_take htake

end Endpoint

end RemoteShell.WebSocket
