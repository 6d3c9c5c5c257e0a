import RemoteShell.Hub.Live
import RemoteShell.Proofs.Session.Requests

/-!
# What a link says

A server that listens to a link reads the texts and the bytes that its client has sent,
in order, up to the first farewell or failure. It passes over pings and pongs, but a ping
that cannot be answered is the last thing that is heard (`frames_eq_heard`).
-/

namespace RemoteShell.WebSocket

/-- The frame that a message carries. -/
def Message.arrival? : Message → Option Arrival
  | text content => some (.text content)
  | binary bytes => some (.binary bytes)
  | ping _ | pong _ | close _ => none

/-- The frame after which nothing is read, if a message leads to one. Whether pings can be
answered is given. -/
def Message.ending? (canAnswer : Bool) (message : Message) : Option Arrival :=
  if message.isTooLong then some (.failure LinkError.controlTooLong.asClientFault)
  else
    match message with
    | close _ => some .hangUp
    | ping _ => if canAnswer then none else some (.failure LinkError.brokenPipe.asClientFault)
    | text _ | binary _ | pong _ => none

/-- What is heard of some messages; the client may be gone after them. -/
def heard (canAnswer isGone : Bool) : List Message → List Arrival
  | [] => if isGone then [.failure LinkError.reset.asClientFault] else []
  | message :: later =>
    match message.ending? canAnswer with
    | some ending => [ending]
    | none => message.arrival?.toList ++ heard canAnswer isGone later

/-- What a message asks of the shell. -/
def Message.request? (message : Message) : Option ShellRequest :=
  message.arrival?.bind Arrival.request?

theorem isEnd_of_ending? {canAnswer : Bool} {message : Message} {ending : Arrival}
    (h : message.ending? canAnswer = some ending) : ending.isEnd = true := by
  unfold Message.ending? at h
  (repeat' split at h) <;> cases h <;> rfl

theorem isEnd_of_arrival? {message : Message} {frame : Arrival}
    (h : message.arrival? = some frame) : frame.isEnd = false := by
  cases message <;> cases h <;> rfl

/-- What is asked for is what the messages ask for, up to the first that ends the link. -/
theorem requests_heard (canAnswer isGone : Bool) (messages : List Message) :
    requests (heard canAnswer isGone messages) =
      (messages.takeWhile fun message => (message.ending? canAnswer).isNone).filterMap
        Message.request? := by
  induction messages with
  | nil => cases isGone <;> rfl
  | cons message later ih =>
    cases hending : message.ending? canAnswer with
    | some ending => simp [heard, hending, requests, isEnd_of_ending? hending]
    | none =>
      cases hframe : message.arrival? with
      | none => simp [heard, hending, hframe, Message.request?, ih]
      | some frame =>
        cases hrequest : frame.request? <;>
          simp [heard, hending, hframe, Message.request?, ih, requests, isEnd_of_arrival? hframe,
            hrequest]

namespace Endpoint

/-- Tells whether an end can send what it has to answer. -/
def canAnswer (self other : Endpoint) : Bool := !self.isStuck && !other.isGone

/-- An end of a server that waits for messages, and can send what it has to answer. -/
structure Listens (server client : Endpoint) : Prop where
  isServer : server.isServer = true
  phase : server.phase = .active
  isEnded : server.isEnded = false
  reply : server.reply.isSome → server.canAnswer client = true

variable {server client : Endpoint} {message : Message} {later : List Message}

/-- An end whose answer has left and that has some messages left. -/
def goOn (server : Endpoint) (later : List Message) : Endpoint :=
  { server with reply := none, inbox := later }

theorem goOn_inbox (h : server.reply = none) : server.goOn server.inbox = server := by
  rw [goOn, ← h]

theorem listens_goOn (h : server.Listens client) (later : List Message) (client' : Endpoint) :
    (server.goOn later).Listens client' :=
  ⟨h.isServer, h.phase, h.isEnded, nofun⟩

/-- The answer that is queued leaves, and then the next message is taken. -/
theorem receive_of_listens (h : server.Listens client) :
    ∃ client', client'.isGone = client.isGone ∧ server.receive client =
      (((server.goOn server.inbox).take client).1, ((server.goOn server.inbox).take client).2,
        client') := by
  obtain ⟨hserver, hphase, hended, hreply⟩ := h
  cases hanswer : server.reply with
  | none =>
    refine ⟨client, rfl, ?_⟩
    rw [goOn_inbox hanswer]
    simp [receive, hended, hphase, hanswer, Phase.canReceive]
  | some answer =>
    have hcan := hreply (by simp [hanswer])
    simp only [canAnswer, Bool.and_eq_true, Bool.not_eq_true'] at hcan
    refine ⟨{ client with inbox := client.inbox ++ [answer] }, rfl, ?_⟩
    simp [receive, hended, hphase, hanswer, flush, sendReply, post, hcan, Phase.canReceive, take,
      goOn]

/-- If there is a message, it is taken up. -/
theorem receive_of_cons (h : server.Listens client) (hinbox : server.inbox = message :: later) :
    ∃ client', client'.isGone = client.isGone ∧ server.receive client =
      (((server.goOn later).accept message).1, ((server.goOn later).accept message).2,
        client') := by
  obtain ⟨client', hgone, hreceive⟩ := receive_of_listens h
  refine ⟨client', hgone, ?_⟩
  rw [hreceive]
  simp [take, goOn, hinbox]

theorem accept_of_isTooLong (hphase : server.phase = .active) (hlong : message.isTooLong = true) :
    (server.accept message).1 = .failed .controlTooLong := by
  simp [accept, hphase, hlong, Phase.canReceive]

theorem accept_of_data {frame : Arrival} (hphase : server.phase = .active)
    (hframe : message.arrival? = some frame) :
    server.accept message = (.message message, server) := by
  cases message <;> cases hframe <;> simp [accept, hphase, Phase.canReceive, Message.isTooLong]

theorem accept_pong {bytes : List UInt8} (hphase : server.phase = .active)
    (hshort : (Message.pong bytes).isTooLong = false) :
    server.accept (.pong bytes) = (.message (.pong bytes), server) := by
  simp [accept, hphase, Phase.canReceive, hshort]

theorem accept_ping {bytes : List UInt8} (hphase : server.phase = .active)
    (hshort : (Message.ping bytes).isTooLong = false) :
    server.accept (.ping bytes) =
      (.message (.ping bytes), { server with reply := some (.pong bytes) }) := by
  simp [accept, hphase, Phase.canReceive, hshort]

theorem accept_close {farewell : Option Farewell} (hphase : server.phase = .active)
    (hshort : (Message.close farewell).isTooLong = false) :
    (server.accept (.close farewell)).1 = .message (.close (farewell.map Farewell.proper)) := by
  simp [accept, hphase, Phase.canReceive, hshort]

/-- An answer that cannot be sent ends the link. -/
theorem receive_of_not_canAnswer (hphase : server.phase = .active) (hended : server.isEnded = false)
    (hreply : server.reply.isSome) (hcannot : server.canAnswer client = false) :
    (server.receive client).1 = .failed .brokenPipe := by
  obtain ⟨answer, hanswer⟩ := Option.isSome_iff_exists.mp hreply
  have hblocked : server.isStuck = true ∨ client.isGone = true := by
    cases hstuck : server.isStuck <;> simp_all [canAnswer]
  simp [receive, hended, hphase, hanswer, flush, sendReply, post, hblocked]

end Endpoint

namespace Link

open Hub.Live (arrivalOf?)

variable {server client server' client' : Endpoint} {message : Message} {error : LinkError}

/-! ## Reading a frame -/

theorem readAt_of_data {frame : Arrival}
    (h : server.receive client = (.message message, server', client'))
    (hframe : message.arrival? = some frame) :
    arrivalOf? (readAt server client).1 = some frame ∧
      (readAt server client).2 = ⟨server', client'⟩ := by
  cases message <;> cases hframe <;> (rw [readAt]; split <;> simp_all [arrivalOf?])

theorem readAt_of_ping {bytes : List UInt8}
    (h : server.receive client = (.message (.ping bytes), server', client')) :
    readAt server client = readAt server' client' := by
  rw [readAt]
  split <;> simp_all

theorem readAt_of_pong {bytes : List UInt8}
    (h : server.receive client = (.message (.pong bytes), server', client')) :
    readAt server client = readAt server' client' := by
  rw [readAt]
  split <;> simp_all

theorem readAt_of_close {farewell : Option Farewell}
    (h : (server.receive client).1 = .message (.close farewell)) :
    (readAt server client).1 = .closed := by
  rw [readAt]
  split <;> simp_all

theorem readAt_of_failed (h : (server.receive client).1 = .failed error) :
    (readAt server client).1 = .failed error.asClientFault := by
  rw [readAt]
  split <;> simp_all

theorem readAt_of_pending (h : (server.receive client).1 = .pending) :
    (readAt server client).1 = .pending := by
  rw [readAt]
  split <;> simp_all

/-- A frame that is read is a message less before the server. -/
theorem length_inbox_of_readAt {frame : Arrival}
    (hframe : arrivalOf? (readAt server client).1 = some frame) (hmore : frame.isEnd = false) :
    (readAt server client).2.server.inbox.length < server.inbox.length := by
  fun_induction readAt server client with
  | case1 _ _ _ _ _ h | case2 _ _ _ _ _ h | case3 _ _ _ _ _ h =>
    exact Endpoint.length_inbox_of_receive h
  | case4 _ _ _ _ _ h ih | case5 _ _ _ _ _ h ih =>
    exact Nat.lt_trans (ih hframe) (Endpoint.length_inbox_of_receive h)
  | case6 | case7 =>
    cases hframe
    cases hmore
  | case8 => cases hframe

/-! ## Reading all frames -/

/-- All frames that the server reads from a link, up to the end or until nothing is
there. -/
def frames (link : Link) : List Arrival :=
  match _ : arrivalOf? link.read.1 with
  | none => []
  | some frame => if _ : frame.isEnd = true then [frame] else frame :: frames link.read.2
termination_by link.server.inbox.length
decreasing_by exact length_inbox_of_readAt (by assumption) (Bool.eq_false_iff.mpr (by assumption))

variable {link : Link}

theorem frames_of_data {frame : Arrival} (hframe : arrivalOf? link.read.1 = some frame)
    (hmore : frame.isEnd = false) : frames link = frame :: frames link.read.2 := by
  rw [frames]
  split <;> simp_all

theorem frames_of_end {frame : Arrival} (hframe : arrivalOf? link.read.1 = some frame)
    (hend : frame.isEnd = true) : frames link = [frame] := by
  rw [frames]
  split <;> simp_all

theorem frames_of_pending (h : arrivalOf? link.read.1 = none) : frames link = [] := by
  rw [frames]
  split <;> simp_all

theorem frames_congr {link' : Link} (h : link.read = link'.read) : frames link = frames link' := by
  cases hframe : arrivalOf? link.read.1 with
  | none => rw [frames_of_pending hframe, frames_of_pending (h ▸ hframe)]
  | some frame =>
    cases hend : frame.isEnd with
    | true => rw [frames_of_end hframe hend, frames_of_end (h ▸ hframe) hend]
    | false =>
      rw [frames_of_data hframe hend, h]
      exact (frames_of_data (h ▸ hframe) hend).symm

theorem frames_of_failed {error : LinkError} (h : (server.receive client).1 = .failed error) :
    frames ⟨server, client⟩ = [.failure error.asClientFault] := by
  have hread : (read ⟨server, client⟩).1 = .failed error.asClientFault := readAt_of_failed h
  exact frames_of_end (congrArg arrivalOf? hread) rfl

theorem frames_of_message {frame : Arrival}
    (h : server.receive client = (.message message, server', client'))
    (hframe : message.arrival? = some frame) :
    frames ⟨server, client⟩ = frame :: frames ⟨server', client'⟩ := by
  obtain ⟨hread, hlink⟩ := readAt_of_data h hframe
  have hmore := isEnd_of_arrival? hframe
  have hframes : frames ⟨server, client⟩ = frame :: frames (readAt server client).2 :=
    frames_of_data hread hmore
  rw [hframes, hlink]

/-- A server reads what it hears: the texts and the bytes of its client up to the first
message that ends the link, with pings and pongs passed over. -/
theorem frames_eq_heard (h : server.Listens client) :
    frames ⟨server, client⟩ =
      heard (server.canAnswer client) client.isGone server.inbox := by
  generalize hmessages : server.inbox = messages
  induction messages generalizing server client with
  | nil =>
    obtain ⟨client', -, hreceive⟩ := Endpoint.receive_of_listens h
    cases hgone : client.isGone with
    | true =>
      refine frames_of_failed ?_
      rw [hreceive]
      simp [Endpoint.take, Endpoint.goOn, hmessages, hgone, h.phase, Phase.isPeerDone]
    | false =>
      have hpending : (server.receive client).1 = .pending := by
        rw [hreceive]
        simp [Endpoint.take, Endpoint.goOn, hmessages, hgone]
      have hread : (read ⟨server, client⟩).1 = .pending := readAt_of_pending hpending
      exact frames_of_pending (congrArg arrivalOf? hread)
  | cons message later ih =>
    obtain ⟨client', hgone, hreceive⟩ := Endpoint.receive_of_cons h hmessages
    have hcan : server.canAnswer client' = server.canAnswer client := by
      simp [Endpoint.canAnswer, hgone]
    have hphase : (server.goOn later).phase = .active := h.phase
    have hlater : frames ⟨server.goOn later, client'⟩ =
        heard (server.canAnswer client) client.isGone later := by
      rw [← hcan, ← hgone]
      exact ih (Endpoint.listens_goOn h later client') rfl
    cases hlong : message.isTooLong with
    | true =>
      simp only [heard, Message.ending?, hlong, if_true]
      exact frames_of_failed (by rw [hreceive, Endpoint.accept_of_isTooLong hphase hlong])
    | false =>
      simp only [heard, Message.ending?, hlong, Bool.false_eq_true, if_false]
      cases message with
      | text content | binary bytes =>
        rw [Endpoint.accept_of_data hphase rfl] at hreceive
        rw [frames_of_message hreceive rfl, hlater]
        rfl
      | pong bytes =>
        rw [Endpoint.accept_pong hphase hlong] at hreceive
        have hread : read ⟨server, client⟩ = read ⟨server.goOn later, client'⟩ :=
          readAt_of_pong hreceive
        rw [frames_congr hread, hlater]
        rfl
      | close farewell =>
        have hread : (read ⟨server, client⟩).1 = .closed :=
          readAt_of_close (by rw [hreceive, Endpoint.accept_close hphase hlong])
        exact frames_of_end (congrArg arrivalOf? hread) rfl
      | ping bytes =>
        rw [Endpoint.accept_ping hphase hlong] at hreceive
        have hread : read ⟨server, client⟩ =
            read ⟨{ server.goOn later with reply := some (.pong bytes) }, client'⟩ :=
          readAt_of_ping hreceive
        rw [frames_congr hread]
        cases hanswer : server.canAnswer client with
        | true =>
          have hlisten : Endpoint.Listens { server.goOn later with reply := some (.pong bytes) }
              client' := ⟨h.isServer, h.phase, h.isEnded, fun _ => hcan.trans hanswer⟩
          have hheard : frames ⟨{ server.goOn later with reply := some (.pong bytes) }, client'⟩ =
              heard (server.canAnswer client') client'.isGone later := ih hlisten rfl
          rw [hheard, hcan, hgone, hanswer]
          rfl
        | false =>
          exact frames_of_failed (Endpoint.receive_of_not_canAnswer hphase h.isEnded rfl
            (hcan.trans hanswer))

end Link

end RemoteShell.WebSocket
