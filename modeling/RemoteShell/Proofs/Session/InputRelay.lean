import RemoteShell.Proofs.Hub.Hearing
import RemoteShell.Proofs.Session.IgnoredFrames

/-!
# The way of the input

From what the client sends to what the shell sees: the frames of a link are the texts and
the bytes of the client, they are decoded one by one, and what they ask for is carried
out in order, each request before the next one is read. Nothing that goes wrong with one
frame ends the session, and frames that ask for nothing make no difference. All of this also
holds of frames that the relay reads after the cancellation, where input may come too late.
-/

namespace RemoteShell.Session

variable {s s' t : Session} {moves : List Move}

/-- The relay goes on only when the shell has returned from a new size, or from taking input
up, or when the relay is cut off. -/
theorem returned_of_relay (h : Change s (.turn .relay) s') :
    (s.relay = .resizing → s.shell.resizing ≠ .stalled ∨
        s.isCancelled = true ∧ s'.relay = .finished) ∧
      (s.relay = .flushing → s.shell.stdin.flushing ≠ .stalled ∨
        s.isCancelled = true ∧ s'.relay = .finished) := by
  cases h with
  | relayEnds hcancelled => exact ⟨fun _ => .inr ⟨hcancelled, rfl⟩, fun _ => .inr ⟨hcancelled, rfl⟩⟩
  | relayResized _ _ hreturned => exact ⟨fun _ => .inl hreturned, by simp_all⟩
  | relayFlushed _ _ hreturned => exact ⟨by simp_all, fun _ => .inl hreturned⟩
  | relayResizes _ hrelay | relayTakes _ hrelay | relayRefused _ hrelay | relaySkips _ hrelay
  | relayMeetsEnd _ hrelay | relayMeetsFailure _ hrelay | relayFeeds _ hrelay => simp [hrelay]

/-- What the shell sees of the relay are the requests of the client, decoded frame by
frame, and one is done before the next one begins. Where the relay still reads frames when
the input of the shell has been taken away, new sizes reach the shell and no byte of input
does. At rest all requests are done in time unless the session has been cancelled or the
relay is held up. The relay ends the session only where the frames end, and not because a
frame or what it asks for is bad. Ignored frames may be left out or come in anywhere: all else
is as before but for the inbox. And what is read from a link are the requests of its
texts and bytes up to the first message that ends it. -/
theorem input_relayed {options : Options} {shell : Shell}
    (hplay : (ofShell options shell).play? moves = some t) :
    (∃ done late current later,
        requests (arrivals moves) = (done ++ late ++ current).map Prod.fst ++ later ∧
          relayed t.shell.log =
            relayed shell.log ++ (done ++ late ++ current).flatMap Prod.snd ∧
          (∀ entry ∈ done, entry.1.Done entry.2) ∧ (∀ entry ∈ late, entry.1.Late entry.2) ∧
          (late ≠ [] → t.teardown.hasTakenInput = true) ∧ t.relay.InHand current ∧
          (t.step = none → t.startedAt.isSome → t.isCancelled = false → ¬ t.IsHeldUp →
            late = [] ∧ current = [] ∧ later = [])) ∧
      (∀ u u', (u, .turn .relay) ∈ (ofShell options shell).visits moves →
          u.make? (.turn .relay) = some u' →
          (u.relay = .resizing → u.shell.resizing ≠ .stalled ∨
            u.isCancelled = true ∧ u'.relay = .finished) ∧
          (u.relay = .flushing → u.shell.stdin.flushing ≠ .stalled ∨
            u.isCancelled = true ∧ u'.relay = .finished) ∧
          (u'.scope ≠ u.scope →
            ∃ frame, frameRead? (u, .turn .relay) = some frame ∧ frame.isEnd = true)) ∧
      (∀ others, essential others = essential moves →
        ∃ moves' t', script moves' = script others ∧
          (ofShell options shell).play? moves' = some t' ∧ t' = { t with inbox := t'.inbox } ∧
          (t.step = none → t'.step = none) ∧
          ((ofShell options shell).PlaysPunctually moves →
            (ofShell options shell).PlaysPunctually moves')) ∧
      ∀ server client : WebSocket.Endpoint, server.Listens client →
        requests (WebSocket.Link.frames ⟨server, client⟩) =
          (server.inbox.takeWhile fun message =>
            (message.ending? (server.canAnswer client)).isNone).filterMap
              WebSocket.Message.request? := by
  refine ⟨requests_of_play? hplay, fun u u' _ hmake => ?_,
    fun others h => exists_play?_of_essential_eq hplay h, fun server client hlisten => ?_⟩
  · have hchange := change_of_make? hmake
    obtain ⟨hresized, hflushed⟩ := returned_of_relay hchange
    exact ⟨hresized, hflushed, end_of_relay hchange⟩
  · rw [WebSocket.Link.frames_eq_heard hlisten, WebSocket.requests_heard]

/-- A new size, a sign of life, a text that is no frame, and some input of which the shell
takes one byte before its input fails. Without the sign of life and the text that is no
frame the shell sees the same. On a link a ping and what follows a farewell do not count. -/
theorem input_relayed_in_part :
    ∃ t moves, (ofShell .standard .fresh).play? moves = some t ∧
      requests (arrivals moves) = [.resize ⟨100, 40⟩, .input [104, 105]] ∧
      relayed t.shell.log = [.resized ⟨100, 40⟩, .stdinWrote [104], .stdinFailed [105]] ∧
      (∃ done late current later,
        requests (arrivals moves) = (done ++ late ++ current).map Prod.fst ++ later ∧
        (∀ entry ∈ done, entry.1.Done entry.2) ∧ t.relay.InHand current) ∧
      (∃ moves' t', script moves' = [.act .run, .act (.arrive (.text "[\"resize\",100,40]")),
          .act (.arrive (.text "[\"cmd\",0,0,\"aGk=\"]")), .act (.shell (.setRoom (some 1))),
          .act (.shell (.setFailure (some "gone")))] ∧
        (ofShell .standard .fresh).play? moves' = some t' ∧ t'.shell.log = t.shell.log) ∧
      requests (WebSocket.Link.frames ⟨{ WebSocket.Endpoint.fresh true with
          inbox := [.text "[\"resize\",100,40]", .ping [1], .binary [104], .close none,
            .text "late"] }, .fresh false⟩) = [.resize ⟨100, 40⟩, .input [104]] := by
  generalize hmoves : ([.act .run, .act (.arrive (.text "[\"resize\",100,40]")),
    .act (.arrive (.text "[\"heartbeat\"]")), .act (.arrive (.text "no frame")),
    .act (.arrive (.text "[\"cmd\",0,0,\"aGk=\"]")), .act (.shell (.setRoom (some 1))),
    .turn .relay, .turn .relay, .turn .relay, .turn .relay, .turn .relay, .turn .relay,
    .act (.shell (.setFailure (some "gone"))), .turn .relay] : List Move) = moves
  have hrun : ((ofShell .standard .fresh).play? moves).map (fun t => relayed t.shell.log) =
      some [.resized ⟨100, 40⟩, .stdinWrote [104], .stdinFailed [105]] := by
    rw [← hmoves]
    decide +kernel
  have hrequests : requests (arrivals moves) = [.resize ⟨100, 40⟩, .input [104, 105]] := by
    rw [← hmoves]
    decide +kernel
  have hheartbeat : (Arrival.text "[\"heartbeat\"]").isIgnored = true := by decide +kernel
  have hjunk : (Arrival.text "no frame").isIgnored = true := by decide +kernel
  have hresize : (Arrival.text "[\"resize\",100,40]").isIgnored = false := by decide +kernel
  have hinput : (Arrival.text "[\"cmd\",0,0,\"aGk=\"]").isIgnored = false := by decide +kernel
  obtain ⟨t, hplay, hlog⟩ := Option.map_eq_some_iff.mp hrun
  obtain ⟨⟨done, late, current, later, hasked, -, hdone, -, -, hcurrent, -⟩, -, hothers, hlink⟩ :=
    input_relayed hplay
  obtain ⟨moves', t', hscript, hplay', hsame, -⟩ := hothers
    [.act .run, .act (.arrive (.text "[\"resize\",100,40]")),
      .act (.arrive (.text "[\"cmd\",0,0,\"aGk=\"]")), .act (.shell (.setRoom (some 1))),
      .act (.shell (.setFailure (some "gone")))] (by
        rw [← hmoves]
        simp [essential, script, Move.isOutside, Move.isIgnored, Move.arrival?, hheartbeat, hjunk,
          hresize, hinput])
  have hheard := hlink { WebSocket.Endpoint.fresh true with
      inbox := [.text "[\"resize\",100,40]", .ping [1], .binary [104], .close none,
        .text "late"] } (.fresh false)
    ⟨rfl, rfl, rfl, fun hreply => absurd hreply Bool.false_ne_true⟩
  refine ⟨t, moves, hplay, hrequests, hlog, ⟨done, late, current, later, hasked, hdone, hcurrent⟩,
    ⟨moves', t', hscript, hplay', by rw [hsame]⟩, hheard.trans ?_⟩
  decide +kernel

end RemoteShell.Session
