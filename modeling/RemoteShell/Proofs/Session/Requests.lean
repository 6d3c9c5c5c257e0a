import RemoteShell.Proofs.Session.Departure
import RemoteShell.Proofs.Session.InputClosing

/-!
# What the client asks for

Frames are decoded one by one (`requests`), and the relay carries out one request after
the other. So what the shell sees of the relay falls into one stretch for each request
that has been carried out, in the order of the requests, and one more for the request
that the relay has in hand (`requests_of_play?`).

A relay that is to end may still read a frame. If the input of the shell has been taken away
by then, what is asked for comes too late: a new size still reaches the shell, and input does
not.
-/

namespace RemoteShell

/-- What a client asks of the shell. -/
inductive ShellRequest where
  | resize (size : TerminalSize)
  | input (bytes : List UInt8)
  deriving DecidableEq, Repr

/-- What a frame asks of the shell, if it asks for anything. -/
def Arrival.request? : Arrival → Option ShellRequest
  | text content =>
    match Control.decode content with
    | .ok (.resize size) => some (.resize size)
    | .ok (.input bytes) => some (.input bytes)
    | .ok .heartbeat | .ok (.unknown _) | .error _ => none
  | binary bytes => some (.input bytes)
  | hangUp | failure _ => none

/-- All that the client asks of the shell, up to the end of the frames. -/
def requests : List Arrival → List ShellRequest
  | [] => []
  | frame :: later => if frame.isEnd then [] else frame.request?.toList ++ requests later

theorem requests_append {frames : List Arrival} (later : List Arrival)
    (hframes : ∀ frame ∈ frames, frame.isEnd = false) :
    requests (frames ++ later) = requests frames ++ requests later := by
  induction frames with
  | nil => rfl
  | cons frame rest ih =>
    rw [List.forall_mem_cons] at hframes
    simp [requests, hframes.1, ih hframes.2]

theorem requests_append_of_end {frames : List Arrival} (later : List Arrival)
    (hend : ∃ frame ∈ frames, frame.isEnd = true) :
    requests (frames ++ later) = requests frames := by
  induction frames with
  | nil => simp at hend
  | cons frame rest ih =>
    by_cases hframe : frame.isEnd = true
    · simp [requests, hframe]
    · have hrest : ∃ frame ∈ rest, frame.isEnd = true := by simpa [hframe] using hend
      simp [requests, hframe, ih hrest]

/-- A request that has been carried out, and what the shell has seen of it. Input may be
taken in parts; input that is refused has been taken up to some point. -/
inductive ShellRequest.Done : ShellRequest → List ShellEvent → Prop
  | resized (size : TerminalSize) : Done (.resize size) [.resized size]
  | taken (parts : List (List UInt8)) : Done (.input parts.flatten) (parts.map .stdinWrote)
  | refused (parts : List (List UInt8)) (rest : List UInt8) (hrest : rest ≠ []) :
      Done (.input (parts.flatten ++ rest)) (parts.map .stdinWrote ++ [.stdinFailed rest])

/-- A request that has been carried out when the input of the shell had been taken away, and
what the shell has seen of it. A write fails then before anything is offered. -/
inductive ShellRequest.Late : ShellRequest → List ShellEvent → Prop
  | resized (size : TerminalSize) : Late (.resize size) [.resized size]
  | dropped (bytes : List UInt8) : Late (.input bytes) []

/-- The request that a relay has in hand, if any, and what the shell has seen of it. The
end of the session may have cut it off. -/
inductive Relay.InHand : Relay → List (ShellRequest × List ShellEvent) → Prop
  | idle : InHand .idle []
  | reading : InHand .reading []
  | resizing (size : TerminalSize) : InHand .resizing [(.resize size, [.resized size])]
  | writing (parts : List (List UInt8)) (rest : List UInt8) :
      InHand (.writing rest) [(.input (parts.flatten ++ rest), parts.map .stdinWrote)]
  /-- All input has been passed on, and the shell has to take it up. -/
  | flushing (parts : List (List UInt8)) :
      InHand .flushing [(.input parts.flatten, parts.map .stdinWrote)]
  | cut {relay : Relay} {entries : List (ShellRequest × List ShellEvent)}
      (hentries : InHand relay entries) : InHand .finished entries

/-- Tells whether an event comes from the relay. -/
def ShellEvent.isRelayed : ShellEvent → Bool
  | resized _ | stdinWrote _ | stdinFailed _ => true
  | openedTerminal _ | gaveInput | listened | started | stdinShutDown | closed => false

/-- What a shell sees of the relay. -/
def relayed (log : List ShellEvent) : List ShellEvent := log.filter (·.isRelayed)

theorem relayed_record (shell : Shell) {event : ShellEvent} (h : event.isRelayed = true) :
    relayed (shell.record event).log = relayed shell.log ++ [event] := by
  simp [relayed, Shell.record, h]

namespace Session

variable {s s' t : Session} {move : Move} {moves : List Move} {past : List Visit}
  {base : List ShellEvent}

/-! ## One request after the other -/

/-- The requests that have been read are those that have been carried out, in time or too
late, and the one in hand, and what the shell has seen of them is all that it has seen of the
relay. -/
structure Accounts (base : List ShellEvent) (past : List Visit) (s : Session)
    (done late current : List (ShellRequest × List ShellEvent)) : Prop where
  asked : requests (framesRead past) = (done ++ late ++ current).map Prod.fst
  seen : relayed s.shell.log = base ++ (done ++ late ++ current).flatMap Prod.snd
  taken : late ≠ [] → s.teardown.hasTakenInput = true
  done : ∀ entry ∈ done, entry.1.Done entry.2
  late : ∀ entry ∈ late, entry.1.Late entry.2
  current : s.relay.InHand current

variable {done late current : List (ShellRequest × List ShellEvent)}

/-- A frame adds what it asks for, as nothing is read after the end. -/
theorem requests_framesRead_append (hends : EndsRead past s) :
    requests (framesRead (past ++ [(s, move)])) =
      requests (framesRead past) ++ requests (frameRead? (s, move)).toList := by
  rw [framesRead_append_singleton]
  cases hread : frameRead? (s, move) with
  | none => simp [requests]
  | some frame =>
    refine requests_append _ fun old hold => Bool.eq_false_iff.mpr fun hend => ?_
    obtain ⟨-, -, hrelay, -⟩ := of_frameRead?_eq_some hread
    simp [(hends old hold hend).1] at hrelay

/-- A move that neither reads a frame nor shows at the shell leaves the account as it is. -/
theorem Accounts.keep (hs : Accounts base past s done late current) (hends : EndsRead past s)
    (h : Change s move s') (hread : frameRead? (s, move) = none)
    (hcurrent : s'.relay.InHand current) (hlog : relayed s'.shell.log = relayed s.shell.log) :
    Accounts base (past ++ [(s, move)]) s' done late current where
  asked := by rw [requests_framesRead_append hends, hread, hs.asked]; exact List.append_nil _
  seen := by rw [hlog, hs.seen]
  done := hs.done
  late := hs.late
  taken hlate := hasTakenInput_of_change h (hs.taken hlate)
  current := hcurrent

theorem nil_of_reading (h : Relay.InHand .reading current) : current = [] := by
  cases h
  rfl

/-- What a frame asks for that is read is put in hand, where nothing has been before. -/
theorem Accounts.read {frame : Arrival} {later : List Arrival}
    (entries : List (ShellRequest × List ShellEvent))
    (hs : Accounts base past s done late current) (hends : EndsRead past s)
    (h : Change s (.turn .relay) s') (hgoes : s.GoesOn) (hrelay : s.relay = .reading)
    (hinbox : s.inbox = frame :: later) (hasked : requests [frame] = entries.map Prod.fst)
    (hlog : relayed s'.shell.log = relayed s.shell.log ++ entries.flatMap Prod.snd)
    (hentries : s'.relay.InHand entries) :
    Accounts base (past ++ [(s, .turn .relay)]) s' done late entries := by
  have hcurrent : current = [] := nil_of_reading (hrelay ▸ hs.current)
  subst hcurrent
  have hread := frameRead?_of_reading hgoes hrelay hinbox
  refine ⟨?_, ?_, fun hlate => hasTakenInput_of_change h (hs.taken hlate), hs.done, hs.late,
    hentries⟩
  · rw [requests_framesRead_append hends, hread, hs.asked, Option.toList_some, hasked,
      List.append_nil, ← List.map_append]
  · rw [hlog, hs.seen, List.append_nil, List.append_assoc, ← List.flatMap_append]

/-- Input that is read when it is too late comes to nothing. -/
theorem Accounts.refuse {frame : Arrival} {bytes : List UInt8} {later : List Arrival}
    (hs : Accounts base past s done late current) (hends : EndsRead past s)
    (h : Change s (.turn .relay) s') (hgoes : s.GoesOn) (hrelay : s.relay = .reading)
    (hinbox : s.inbox = frame :: later) (hasked : requests [frame] = [.input bytes])
    (htaken : s.teardown.hasTakenInput = true) (hrelay' : s'.relay = .reading)
    (hlog : relayed s'.shell.log = relayed s.shell.log) :
    Accounts base (past ++ [(s, .turn .relay)]) s' done (late ++ [(.input bytes, [])]) [] := by
  have hcurrent : current = [] := nil_of_reading (hrelay ▸ hs.current)
  subst hcurrent
  have hread := frameRead?_of_reading hgoes hrelay hinbox
  refine ⟨?_, ?_, fun _ => hasTakenInput_of_change h htaken, hs.done, ?_, ?_⟩
  · rw [requests_framesRead_append hends, hread, hs.asked, Option.toList_some, hasked]
    simp
  · rw [hlog, hs.seen]
    simp
  · exact List.forall_mem_append.mpr ⟨hs.late, List.forall_mem_singleton.mpr (.dropped bytes)⟩
  · rw [hrelay']
    exact .reading

/-- What is in hand goes on without a frame that is read. -/
theorem Accounts.goOn {entry : ShellRequest × List ShellEvent} (events : List ShellEvent)
    (hs : Accounts base past s done late [entry]) (hends : EndsRead past s)
    (h : Change s move s') (hread : frameRead? (s, move) = none)
    (hlog : relayed s'.shell.log = relayed s.shell.log ++ events)
    (hcurrent : s'.relay.InHand [(entry.1, entry.2 ++ events)]) :
    Accounts base (past ++ [(s, move)]) s' done late [(entry.1, entry.2 ++ events)] where
  asked := by
    rw [requests_framesRead_append hends, hread, hs.asked]
    simp [requests]
  seen := by
    rw [hlog, hs.seen]
    simp
  done := hs.done
  late := hs.late
  taken hlate := hasTakenInput_of_change h (hs.taken hlate)
  current := hcurrent

/-- What is in hand is done, before anything has come too late. -/
theorem Accounts.complete {entry : ShellRequest × List ShellEvent} (events : List ShellEvent)
    (hs : Accounts base past s done [] [entry]) (hends : EndsRead past s)
    (hread : frameRead? (s, move) = none)
    (hlog : relayed s'.shell.log = relayed s.shell.log ++ events)
    (hdone : entry.1.Done (entry.2 ++ events)) (hrelay : s'.relay = .reading) :
    Accounts base (past ++ [(s, move)]) s' (done ++ [(entry.1, entry.2 ++ events)]) [] [] where
  asked := by
    rw [requests_framesRead_append hends, hread, hs.asked]
    simp [requests]
  seen := by
    rw [hlog, hs.seen]
    simp
  done := List.forall_mem_append.mpr ⟨hs.done, List.forall_mem_singleton.mpr hdone⟩
  late := by simp
  taken := absurd rfl
  current := by
    rw [hrelay]
    exact .reading

/-- A new size that is in hand is done, be it late or not. -/
theorem Accounts.completeResize {size : TerminalSize}
    (hs : Accounts base past s done late [(.resize size, [.resized size])])
    (hends : EndsRead past s) (h : Change s move s') (hread : frameRead? (s, move) = none)
    (hlog : relayed s'.shell.log = relayed s.shell.log) (hrelay : s'.relay = .reading) :
    ∃ done late current, Accounts base (past ++ [(s, move)]) s' done late current := by
  by_cases hlate : late = []
  · subst hlate
    exact ⟨_, _, _, hs.complete [] hends hread (by simpa using hlog) (.resized size) hrelay⟩
  · refine ⟨done, late ++ [(.resize size, [.resized size])], [], ?_, ?_,
      fun _ => hasTakenInput_of_change h (hs.taken hlate), hs.done, ?_, ?_⟩
    · rw [requests_framesRead_append hends, hread, hs.asked]
      simp [requests]
    · rw [hlog, hs.seen]
      simp
    · exact List.forall_mem_append.mpr ⟨hs.late, List.forall_mem_singleton.mpr (.resized size)⟩
    · rw [hrelay]
      exact .reading

/-- As long as the relay holds the input of the shell, nothing has come too late. -/
theorem Accounts.late_eq_nil (hs : Accounts base past s done late current)
    (hreached : s.IsReached) (hheld : s.relay.holdsInput = true) : late = [] := by
  refine Decidable.byContradiction fun hlate => ?_
  simp [hreached.not_holdsInput (hs.taken hlate)] at hheld

/-- Some input is passed on, the last of it is, or it is refused. -/
theorem accounts_of_feed {rest : List UInt8} {shell : Shell} {relay : Relay}
    (hs : Accounts base past s done late current) (hends : EndsRead past s)
    (hreached : s.IsReached) (h : Change s (.turn .relay) { s with shell, relay })
    (hrelay : s.relay = .writing rest) (hfeed : feed s.shell rest = some (shell, relay)) :
    ∃ done late current,
      Accounts base (past ++ [(s, .turn .relay)]) { s with shell, relay } done late current := by
  have hread : frameRead? (s, .turn .relay) = none :=
    frameRead?_eq_none_of_busy (by simp [hrelay])
  obtain rfl : late = [] := hs.late_eq_nil hreached (by rw [hrelay]; rfl)
  have hhand := hs.current
  rw [hrelay] at hhand
  cases hhand with
  | writing parts =>
    cases fed_of_feed hfeed with
    | nothing hempty =>
      refine ⟨_, _, _, hs.goOn [] hends h hread (List.append_nil _).symm ?_⟩
      simpa [hempty] using Relay.InHand.flushing parts
    | refused hrest =>
      exact ⟨_, _, _, hs.complete [.stdinFailed rest] hends hread (relayed_record _ rfl)
        (.refused parts rest hrest) rfl⟩
    | taken =>
      refine ⟨_, _, _, hs.goOn [.stdinWrote rest] hends h hread (relayed_record _ rfl) ?_⟩
      simpa using Relay.InHand.flushing (parts ++ [rest])
    | @takenInPart room =>
      refine ⟨_, _, _, hs.goOn [.stdinWrote (rest.take (room + 1))] hends h hread
        (relayed_record _ rfl) ?_⟩
      simpa using Relay.InHand.writing (parts ++ [rest.take (room + 1)]) (rest.drop (room + 1))

/-- What a frame with input asks for. -/
theorem requests_of_input {frame : Arrival} {bytes : List UInt8}
    (hinput : frame.input? = some bytes) : requests [frame] = [.input bytes] := by
  have hasked : frame.request? = some (.input bytes) := by
    cases frame with
    | text content =>
      simp only [Arrival.input?] at hinput
      split at hinput
      · rename_i hdecode
        cases hinput
        simp [Arrival.request?, hdecode]
      all_goals cases hinput
    | binary => cases hinput; rfl
    | hangUp | failure => cases hinput
  simp [requests, isEnd_of_input hinput, hasked]

theorem accounts_of_change (h : Change s move s') (hreached : s.IsReached)
    (hends : EndsRead past s) (hs : Accounts base past s done late current) :
    ∃ done late current, Accounts base (past ++ [(s, move)]) s' done late current := by
  have hchange := h
  cases h with
  | runs hfresh =>
    have hcurrent := hs.current
    rw [(hreached.dormant hfresh).relay] at hcurrent
    cases hcurrent
    exact ⟨done, late, [], hs.keep hends hchange rfl .reading rfl⟩
  | shellChanges => exact ⟨done, late, current, hs.keep hends hchange rfl hs.current (by simp)⟩
  | relayEnds hcancelled _ _ hchoice =>
    have hread := frameRead?_eq_none_of_end hcancelled hchoice
    exact ⟨done, late, current, hs.keep hends hchange hread (.cut hs.current) rfl⟩
  | @relayResizes text size _ hgoes hrelay hinbox hdecode =>
    refine ⟨done, late, _, hs.read [(.resize size, [.resized size])] hends hchange hgoes hrelay
      hinbox ?_ (relayed_record _ rfl) (.resizing size)⟩
    simp [requests, Arrival.request?, Arrival.isEnd, Arrival.halt?, hdecode]
  | @relayTakes _ bytes _ hgoes hrelay hinbox hinput =>
    exact ⟨done, late, _, hs.read [(.input bytes, [])] hends hchange hgoes hrelay hinbox
      (requests_of_input hinput) (List.append_nil _).symm (.writing [] bytes)⟩
  | relayRefused hgoes hrelay hinbox hinput htaken =>
    exact ⟨_, _, _, hs.refuse hends hchange hgoes hrelay hinbox (requests_of_input hinput) htaken
      hrelay rfl⟩
  | @relaySkips text _ hgoes hrelay hinbox hresize hinput =>
    have hnone : (Arrival.text text).request? = none := by
      simp only [Arrival.request?]
      split <;> simp_all
    refine ⟨done, late, _, hs.read [] hends hchange hgoes hrelay hinbox ?_
      (List.append_nil _).symm (by rw [hrelay]; exact .reading)⟩
    simp [requests, hnone]
  | relayMeetsEnd hgoes hrelay hinbox | relayMeetsFailure hgoes hrelay hinbox =>
    exact ⟨done, late, _, hs.read [] hends hchange hgoes hrelay hinbox rfl
      (List.append_nil _).symm (.cut .reading)⟩
  | relayResized _ hrelay =>
    have hread := frameRead?_eq_none_of_busy (s := s) (by simp [hrelay])
    have hcurrent := hs.current
    rw [hrelay] at hcurrent
    cases hcurrent with
    | resizing size => exact hs.completeResize hends hchange hread rfl rfl
  | relayFeeds _ hrelay hfeed => exact accounts_of_feed hs hends hreached hchange hrelay hfeed
  | relayFlushed _ hrelay =>
    have hread := frameRead?_eq_none_of_busy (s := s) (by simp [hrelay])
    obtain rfl : late = [] := hs.late_eq_nil hreached (by rw [hrelay]; rfl)
    have hcurrent := hs.current
    rw [hrelay] at hcurrent
    cases hcurrent with
    | flushing parts =>
      refine ⟨_, _, _, hs.complete [] hends hread (List.append_nil _).symm ?_ rfl⟩
      simpa using ShellRequest.Done.taken parts
  | watchdogProbes => exact ⟨done, late, current, hs.keep hends hchange rfl hs.current (by simp)⟩
  | stdinShuts =>
    have hlog : relayed ((s.shell.record .stdinShutDown).record .closed).log =
        relayed s.shell.log := by simp [Shell.record, relayed, ShellEvent.isRelayed]
    exact ⟨done, late, current, hs.keep hends hchange rfl hs.current hlog⟩
  | _ => exact ⟨done, late, current, hs.keep hends hchange rfl hs.current rfl⟩

/-- In every run, all that has been read has been carried out, but for the request in
hand. -/
theorem accounts_of_play? {options : Options} {shell : Shell}
    (hplay : (ofShell options shell).play? moves = some t) :
    ∃ done late current,
      Accounts (relayed shell.log) ((ofShell options shell).visits moves) t done late current := by
  have hrun := play?_induction (P := fun past s => s.IsReached ∧ EndsRead past s ∧
    ∃ done late current, Accounts (relayed shell.log) past s done late current) [] ?_ hplay ?_
  · rw [List.nil_append] at hrun
    exact hrun.2.2
  · rintro past s move s' hmake ⟨hreached, hends, done, late, current, hs⟩
    have hchange := change_of_make? hmake
    exact ⟨hreached.make? hmake, endsRead_of_change hchange hreached hends,
      accounts_of_change hchange hreached hends hs⟩
  · refine ⟨isReached_ofShell options shell, by simp [EndsRead, framesRead], [], [], [], ?_⟩
    exact ⟨rfl, (List.append_nil _).symm, absurd rfl, by simp, by simp, .idle⟩

/-! ## From what arrives -/

/-- What the client asks for is what has been read, and what is to come. A session that
goes on has still to read what is in the inbox. -/
theorem requests_arrivals {options : Options} {shell : Shell}
    (hplay : (ofShell options shell).play? moves = some t) :
    ∃ later, requests (arrivals moves) =
        requests (framesRead ((ofShell options shell).visits moves)) ++ later ∧
      (t.isCancelled = false → later = requests t.inbox) := by
  have hinbox := inbox_append_arrivals hplay
  rw [show (ofShell options shell).inbox = [] from rfl, List.nil_append] at hinbox
  have hends := endsRead_of_play? hplay
  rw [hinbox]
  by_cases hend : ∃ frame ∈ framesRead ((ofShell options shell).visits moves), frame.isEnd = true
  · refine ⟨[], by rw [requests_append_of_end _ hend, List.append_nil], fun hopen => ?_⟩
    obtain ⟨frame, hmem, hframe⟩ := hend
    simp [(hends frame hmem hframe).2] at hopen
  · exact ⟨_, requests_append _ (by simpa using hend), fun _ => rfl⟩

/-- What the shell sees of the relay are the requests of the client, one after the other:
those that have been carried out in time, those that have come when the input of the shell
had been taken away, and the one in hand. When a session that goes on comes to rest and is
not held up, all have been carried out in time. -/
theorem requests_of_play? {options : Options} {shell : Shell}
    (hplay : (ofShell options shell).play? moves = some t) :
    ∃ done late current later,
      requests (arrivals moves) = (done ++ late ++ current).map Prod.fst ++ later ∧
        relayed t.shell.log =
          relayed shell.log ++ (done ++ late ++ current).flatMap Prod.snd ∧
        (∀ entry ∈ done, entry.1.Done entry.2) ∧ (∀ entry ∈ late, entry.1.Late entry.2) ∧
        (late ≠ [] → t.teardown.hasTakenInput = true) ∧ t.relay.InHand current ∧
        (t.step = none → t.startedAt.isSome → t.isCancelled = false → ¬ t.IsHeldUp →
          late = [] ∧ current = [] ∧ later = []) := by
  obtain ⟨done, late, current, hs⟩ := accounts_of_play? hplay
  obtain ⟨later, hlater, hopen⟩ := requests_arrivals hplay
  refine ⟨done, late, current, later, by rw [hlater, hs.asked], hs.seen, hs.done, hs.late,
    hs.taken, hs.current, ?_⟩
  intro hrest hstarted hgoing hfree
  have ht : t.IsReached := ⟨options, shell, moves, hplay⟩
  have hlate : late = [] := by
    refine Decidable.byContradiction fun hlate => ?_
    have hidle := (ht.undisturbed hgoing).teardown
    have htaken := hs.taken hlate
    simp [hidle, Teardown.hasTakenInput] at htaken
  rcases ht.reading_or_isHeldUp hrest hstarted hgoing with ⟨hreading, hinbox⟩ | hheld
  · have hcurrent := hs.current
    rw [hreading] at hcurrent
    exact ⟨hlate, nil_of_reading hcurrent, by rw [hopen hgoing, hinbox]; rfl⟩
  · exact absurd hheld hfree

end Session

end RemoteShell
