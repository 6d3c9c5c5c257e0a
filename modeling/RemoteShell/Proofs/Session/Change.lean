import RemoteShell.Proofs.Output.PumpTurn
import RemoteShell.Proofs.Session.Run

/-!
# What a move can change

Every move is of one of the kinds below, and each kind says when it happens and
which parts of the session it changes. What holds of all runs is proved by going
through these kinds, and nothing else opens the steps to see what they change.
-/

namespace RemoteShell

/-- The input for the shell that a frame holds. -/
def Arrival.input? : Arrival → Option (List UInt8)
  | text content =>
    match Control.decode content with
    | .ok (.input bytes) => some bytes
    | .ok _ | .error _ => none
  | binary bytes => some bytes
  | hangUp | failure _ => none

namespace Session

/-- A task that has something to do does it, although it may have been told to end. -/
abbrev GoesOn (s : Session) : Prop := s.isCancelled = true → s.endFirst = false

/-- The kinds of moves. -/
inductive Change (s : Session) : Move → Session → Prop
  | runs (hfresh : s.startedAt = none)
      (htimers : s.options.startTimers? s.now =
        some ⟨s.now, s.now + s.options.keepaliveInterval⟩) :
      Change s (.act .run)
        { s with
          startedAt := some s.now
          lifecycle := .running
          relay := .reading
          pump := .waiting s.now
          watchdog := .waiting (s.now + s.options.keepaliveInterval) 0
          exitWatch := .waiting
          closer := .waiting
          runner := .running }
  | runsAgain (hstarted : s.startedAt.isSome) : Change s (.act .run) s
  | stops : Change s (.act .stop) { s with stopRequested := true }
  | closes (hdown : s.teardown = .idle) :
      Change s (.act .close)
        { s with
          scope := s.scope.cancel s.now
          teardown := .takingStdin (.caller s.closeCalls.length)
          closeCalls := s.closeCalls ++ [none] }
  | closesAgain (hdown : s.teardown ≠ .idle) :
      Change s (.act .close)
        { s with
          scope := s.scope.cancel s.now
          closeCalls := s.closeCalls ++ [some (.ok ())] }
  | arrives (arrival : Arrival) :
      Change s (.act (.arrive arrival)) { s with inbox := s.inbox ++ [arrival] }
  | setsWriting (writing : Behaviour ClientFault) :
      Change s (.act (.setWriting writing)) { s with outlet := { s.outlet with writing } }
  | setsClosing (closing : Behaviour ClientFault) :
      Change s (.act (.setClosing closing)) { s with closing }
  | emits (bytes : List UInt8) :
      Change s (.act (.emit bytes)) { s with outlet := s.outlet.emit bytes }
  | shellChanges (act : ShellAct) :
      Change s (.act (.shell act)) { s with shell := s.shell.undergo act }
  | prefers (endFirst : Bool) : Change s (.act (.setEndFirst endFirst)) { s with endFirst }
  | passes {instant : Nat} (hle : s.now ≤ instant) :
      Change s (.pass instant) { s with now := instant }
  | stopCancels (hstarted : s.startedAt.isSome) (hstop : s.stopRequested = true)
      (hopen : s.isCancelled = false) :
      Change s (.turn .stop) { s with scope := s.scope.cancel s.now }
  | relayEnds (hcancelled : s.isCancelled = true) (hidle : s.relay ≠ .idle)
      (hgoing : s.relay ≠ .finished) (hchoice : s.endFirst = true ∨ s.goRelay = none) :
      Change s (.turn .relay) { s with relay := .finished }
  | relayResizes {text : String} {size : TerminalSize} {later : List Arrival}
      (hgoes : s.GoesOn) (hrelay : s.relay = .reading)
      (hinbox : s.inbox = .text text :: later)
      (hdecode : Control.decode text = .ok (.resize size)) :
      Change s (.turn .relay)
        { s with
          inbox := later
          shell := s.shell.record (.resized size)
          relay := .resizing }
  | relayTakes {arrival : Arrival} {bytes : List UInt8} {later : List Arrival}
      (hgoes : s.GoesOn) (hrelay : s.relay = .reading)
      (hinbox : s.inbox = arrival :: later) (hinput : arrival.input? = some bytes)
      (hthere : s.teardown.hasTakenInput = false) :
      Change s (.turn .relay) { s with inbox := later, relay := .writing bytes }
  | relayRefused {arrival : Arrival} {bytes : List UInt8} {later : List Arrival}
      (hgoes : s.GoesOn) (hrelay : s.relay = .reading)
      (hinbox : s.inbox = arrival :: later) (hinput : arrival.input? = some bytes)
      (htaken : s.teardown.hasTakenInput = true) :
      Change s (.turn .relay) { s with inbox := later }
  | relaySkips {text : String} {later : List Arrival}
      (hgoes : s.GoesOn) (hrelay : s.relay = .reading)
      (hinbox : s.inbox = .text text :: later)
      (hresize : ∀ size, Control.decode text ≠ .ok (.resize size))
      (hinput : ∀ bytes, Control.decode text ≠ .ok (.input bytes)) :
      Change s (.turn .relay) { s with inbox := later }
  | relayMeetsEnd {later : List Arrival} (hgoes : s.GoesOn)
      (hrelay : s.relay = .reading) (hinbox : s.inbox = .hangUp :: later) :
      Change s (.turn .relay)
        { s with inbox := later, scope := s.scope.endWith s.now .ended, relay := .finished }
  | relayMeetsFailure {error : ClientFault} {later : List Arrival}
      (hgoes : s.GoesOn) (hrelay : s.relay = .reading)
      (hinbox : s.inbox = .failure error :: later) :
      Change s (.turn .relay)
        { s with
          inbox := later
          scope := s.scope.endWith s.now (.failed (.client error))
          relay := .finished }
  | relayResized (hgoes : s.GoesOn)
      (hrelay : s.relay = .resizing) (hreturned : s.shell.resizing ≠ .stalled) :
      Change s (.turn .relay) { s with relay := .reading }
  | relayFeeds {rest : List UInt8} {shell : Shell} {relay : Relay}
      (hgoes : s.GoesOn) (hrelay : s.relay = .writing rest)
      (hfeed : feed s.shell rest = some (shell, relay)) :
      Change s (.turn .relay) { s with shell, relay }
  | relayFlushed (hgoes : s.GoesOn)
      (hrelay : s.relay = .flushing) (hreturned : s.shell.stdin.flushing ≠ .stalled) :
      Change s (.turn .relay) { s with relay := .reading }
  | pumpMoves {pump : Pump} {outlet : Outlet}
      (hturn : Pump.Turn s.options.flushInterval s.now s.isCancelled s.outlet s.pump pump outlet)
      (hgood : ∀ error lost, pump ≠ .finished (.error error) lost)
      (hgoes : s.isOverdue = true → s.endFirst = false) :
      Change s (.turn .pump) { s with outlet, pump }
  | pumpFails {error : ClientFault} {lost : List UInt8} {outlet : Outlet}
      (hturn : Pump.Turn s.options.flushInterval s.now s.isCancelled s.outlet s.pump
        (.finished (.error error) lost) outlet)
      (hgoes : s.isOverdue = true → s.endFirst = false) :
      Change s (.turn .pump)
        { s with
          outlet
          pump := .finished (.error error) lost
          scope := s.scope.endWith s.now (.failed (.client error)) }
  | pumpGivesUp {write : Write} {deadline : Nat} (hwrite : s.pump.write? = some write)
      (hchoice : s.endFirst = true ∨ s.outlet.writing = .stalled) (hheld : write.isHeldUp = true)
      (hdeadline : s.drainDeadline? = some deadline) (hlate : deadline ≤ s.now) :
      Change s (.turn .pump)
        { s with
          pump := .finished (.error drainTimedOut) write.data
          scope := s.scope.endWith s.now (.failed (.client drainTimedOut)) }
  | watchdogEnds (hcancelled : s.isCancelled = true) (hidle : s.watchdog ≠ .idle)
      (hgoing : s.watchdog ≠ .finished) (hchoice : s.endFirst = true ∨ s.goWatchdog = none) :
      Change s (.turn .watchdog) { s with watchdog := .finished }
  | watchdogProbes {due failures : Nat}
      (hgoes : s.GoesOn)
      (hdog : s.watchdog = .waiting due failures) (hdue : due ≤ s.now) :
      Change s (.turn .watchdog)
        { s with
          shell := s.shell.probe.2
          watchdog := .probing s.shell.probe.1
            (nextDue s.options.keepaliveInterval due s.now) failures }
  | watchdogAnswered {due failures : Nat}
      (hgoes : s.GoesOn)
      (hdog : s.watchdog = .probing .answered due failures) :
      Change s (.turn .watchdog) { s with watchdog := .waiting due 0 }
  | watchdogCounts {error : ShellFault} {due failures : Nat}
      (hgoes : s.GoesOn)
      (hdog : s.watchdog = .probing (.failed error) due failures)
      (hfew : failures + 1 < s.maxFailures) :
      Change s (.turn .watchdog) { s with watchdog := .waiting due (failures + 1) }
  | watchdogGivesUp {error : ShellFault} {due failures : Nat}
      (hgoes : s.GoesOn)
      (hdog : s.watchdog = .probing (.failed error) due failures)
      (hmany : s.maxFailures ≤ failures + 1) :
      Change s (.turn .watchdog)
        { s with
          scope := s.scope.endWith s.now (.failed (.unresponsive error))
          watchdog := .finished }
  | exitWatchTearsDown (hcancelled : s.isCancelled = true) (hwatch : s.exitWatch = .waiting)
      (hdown : s.teardown = .idle) (hchoice : s.endFirst = true ∨ s.shell.exit = none) :
      Change s (.turn .exitWatch)
        { s with exitWatch := .closing, teardown := .takingStdin .exitWatch }
  | exitWatchEnds (hcancelled : s.isCancelled = true) (hwatch : s.exitWatch = .waiting)
      (hdown : s.teardown ≠ .idle) (hchoice : s.endFirst = true ∨ s.shell.exit = none) :
      Change s (.turn .exitWatch) { s with exitWatch := .finished }
  | exitWatchReports {exit : Except ShellFault Int}
      (hgoes : s.GoesOn)
      (hwatch : s.exitWatch = .waiting) (hexit : s.shell.exit = some exit) :
      Change s (.turn .exitWatch)
        { s with
          scope := s.scope.endWith s.now (exitReason exit)
          shell := { s.shell with exit := none }
          exitWatch := .finished }
  | exitWatchJoins {owner : Owner} {result : Except ShellFault Unit}
      (hwatch : s.exitWatch = .closing) (hdown : s.teardown = .finished owner result) :
      Change s (.turn .exitWatch) { s with exitWatch := .finished }
  | closerDrains (hcancelled : s.isCancelled = true) (hcloser : s.closer = .waiting) :
      Change s (.turn .closer) { s with closer := .draining, lifecycle := .draining }
  | closerCloses (hcloser : s.closer = .draining) (hpump : s.pump.isFinished = true) :
      Change s (.turn .closer)
        { s with
          outlet := s.outlet.record .closed
          closer := .closing (s.now + s.options.drainTimeout) }
  | closerEnds {deadline : Nat} (hcloser : s.closer = .closing deadline)
      (hreturned : s.closing = .stalled → deadline ≤ s.now) :
      Change s (.turn .closer) { s with closer := .finished }
  | stdinTaken {owner : Owner} (hdown : s.teardown = .takingStdin owner)
      (hfree : s.relay.holdsInput = false) :
      Change s (.turn .teardown) { s with teardown := .shuttingStdin owner }
  | stdinShuts {owner : Owner} (hdown : s.teardown = .shuttingStdin owner)
      (hreturned : s.shell.stdin.shutdown ≠ .stalled) :
      Change s (.turn .teardown)
        { s with
          shell := (s.shell.record .stdinShutDown).record .closed
          teardown := .closingShell owner }
  | shellCloses {owner : Owner} {result : Except ShellFault Unit}
      (hdown : s.teardown = .closingShell owner)
      (hresult : s.shell.closing = .prompt ∧ result = .ok () ∨
        ∃ error, s.shell.closing = .failing error ∧ result = .error error) :
      Change s (.turn .teardown)
        { s with
          closeCalls := (s.answerOwner owner result).closeCalls
          teardown := .finished owner result }
  | runnerTearsDown (hrunner : s.runner = .running) (htasks : s.tasksFinished = true)
      (hdown : s.teardown = .idle) :
      Change s (.turn .runner)
        { s with runner := .closing, teardown := .takingStdin .runner }
  | runnerReturns (hrunner : s.runner = .running) (htasks : s.tasksFinished = true)
      (hdown : s.teardown ≠ .idle) :
      Change s (.turn .runner)
        { s with lifecycle := .closed, runner := .returned s.scope.result }
  | runnerJoins {owner : Owner} {result : Except ShellFault Unit} (hrunner : s.runner = .closing)
      (hdown : s.teardown = .finished owner result) :
      Change s (.turn .runner)
        { s with lifecycle := .closed, runner := .returned s.scope.result }

variable {s s' : Session}

private theorem startTeardown?_of_idle (owner : Owner) (h : s.teardown = .idle) :
    s.startTeardown? owner = some { s with teardown := .takingStdin owner } := by
  simp only [startTeardown?, h]

private theorem startTeardown?_of_ne_idle (owner : Owner) (h : s.teardown ≠ .idle) :
    s.startTeardown? owner = none := by
  unfold startTeardown?
  split
  · contradiction
  · rfl

/-- A session can be run if it has not been run before and its timers start. -/
theorem change_of_run (h : s.undergo? .run = some s') : Change s (.act .run) s' := by
  obtain ⟨answer, hrun, rfl⟩ := Option.map_eq_some_iff.mp h
  unfold run at hrun
  split at hrun
  · rename_i start hstarted
    cases hrun
    exact .runsAgain (by simp [hstarted])
  · rename_i hfresh
    obtain ⟨timers, htimers, rfl⟩ := Option.map_eq_some_iff.mp hrun
    obtain rfl := Options.eq_of_startTimers? htimers
    exact .runs hfresh htimers

theorem change_close (s : Session) : Change s (.act .close) s.close := by
  by_cases hdown : s.teardown = .idle
  · simp only [close, cancel, startTeardown?_of_idle, hdown]
    exact .closes hdown
  · simp only [close]
    rw [startTeardown?_of_ne_idle (s := s.cancel) _ hdown]
    exact .closesAgain hdown

theorem change_of_undergo? {act : Act} (h : s.undergo? act = some s') :
    Change s (.act act) s' := by
  cases act with
  | run => exact change_of_run h
  | stop => cases h; exact .stops
  | close => cases h; exact change_close s
  | arrive arrival => cases h; exact .arrives arrival
  | setWriting writing => cases h; exact .setsWriting writing
  | setClosing closing => cases h; exact .setsClosing closing
  | emit bytes => cases h; exact .emits bytes
  | shell act => cases h; exact .shellChanges act
  | setEndFirst endFirst => cases h; exact .prefers endFirst

theorem change_of_stepStop (h : s.stepStop = some s') : Change s (.turn .stop) s' := by
  unfold stepStop at h
  split at h
  · rename_i hcond
    cases h
    exact .stopCancels hcond.1 hcond.2.1 (by simpa using hcond.2.2)
  · cases h

/-- The ways in which input is passed on: there is none left, the shell refuses it, or the
shell takes all of it or as much as it has room for. -/
inductive Fed (shell : Shell) (rest : List UInt8) : Shell → Relay → Prop
  | nothing (hrest : rest = []) : Fed shell rest shell .flushing
  | refused (hrest : rest ≠ []) (hfailure : shell.stdin.failure.isSome) :
      Fed shell rest (shell.record (.stdinFailed rest)) .reading
  | taken (hrest : rest ≠ []) (hroom : shell.stdin.room = none) :
      Fed shell rest (shell.record (.stdinWrote rest)) .flushing
  | takenInPart {room : Nat} (hrest : rest ≠ []) (hroom : shell.stdin.room = some (room + 1)) :
      Fed shell rest
        (({ shell with
            stdin.room := some (room + 1 - (rest.take (room + 1)).length) } : Shell).record
          (.stdinWrote (rest.take (room + 1))))
        (.writing (rest.drop (room + 1)))

theorem fed_of_feed {shell shell' : Shell} {rest : List UInt8} {relay : Relay}
    (h : feed shell rest = some (shell', relay)) : Fed shell rest shell' relay := by
  unfold feed at h
  split at h
  · rename_i hrest
    cases h
    exact .nothing hrest
  · rename_i hrest
    split at h
    · rename_i hfailure
      cases h
      exact .refused hrest hfailure
    · split at h
      · rename_i hroom
        cases h
        exact .taken hrest hroom
      · cases h
      · rename_i hroom
        cases h
        exact .takenInPart hrest hroom

/-- Input is written while it is there, and comes to nothing after that. -/
theorem change_offer {arrival : Arrival} {bytes : List UInt8} {later : List Arrival}
    (hgoes : s.GoesOn) (hrelay : s.relay = .reading)
    (hinbox : s.inbox = arrival :: later) (hinput : arrival.input? = some bytes) :
    Change s (.turn .relay) (({ s with inbox := later } : Session).offer bytes) := by
  unfold offer
  split
  · rename_i htaken
    exact .relayRefused hgoes hrelay hinbox hinput htaken
  · rename_i hthere
    exact .relayTakes hgoes hrelay hinbox hinput (by simpa using hthere)

/-- Reading a frame is of one of six kinds. -/
theorem change_receive {arrival : Arrival} {later : List Arrival}
    (hgoes : s.GoesOn) (hrelay : s.relay = .reading)
    (hinbox : s.inbox = arrival :: later) :
    Change s (.turn .relay) (({ s with inbox := later } : Session).receive arrival) := by
  cases arrival with
  | text text =>
    unfold receive
    simp only
    split
    case h_1 size hdecode => exact .relayResizes hgoes hrelay hinbox hdecode
    case h_2 bytes hdecode =>
      exact change_offer hgoes hrelay hinbox (by simp [Arrival.input?, hdecode])
    all_goals
      rename_i hdecode
      exact .relaySkips hgoes hrelay hinbox (by simp [hdecode]) (by simp [hdecode])
  | binary bytes => exact change_offer hgoes hrelay hinbox rfl
  | hangUp => exact .relayMeetsEnd hgoes hrelay hinbox
  | failure error => exact .relayMeetsFailure hgoes hrelay hinbox

theorem change_of_goRelay (hgoes : s.GoesOn)
    (h : s.goRelay = some s') : Change s (.turn .relay) s' := by
  unfold goRelay at h
  split at h
  case h_1 => cases h
  case h_2 => cases h
  case h_3 hrelay =>
    split at h
    · cases h
    · rename_i hinbox
      cases h
      exact change_receive hgoes hrelay hinbox
  case h_4 hrelay =>
    split at h
    · cases h
    · rename_i hreturned
      cases h
      exact .relayResized hgoes hrelay hreturned
  case h_5 rest hrelay =>
    simp only [Option.map_eq_some_iff, Prod.exists] at h
    obtain ⟨shell, relay, hfeed, rfl⟩ := h
    exact .relayFeeds hgoes hrelay hfeed
  case h_6 hrelay =>
    split at h
    · cases h
    · rename_i hreturned
      cases h
      exact .relayFlushed hgoes hrelay hreturned

theorem change_of_stepRelay (h : s.stepRelay = some s') : Change s (.turn .relay) s' := by
  unfold stepRelay at h
  split at h
  case h_1 => cases h
  case h_2 => cases h
  all_goals
    rename_i hrelay
    rcases race_eq_some_iff.mp h with ⟨hcancelled, hchoice, rfl⟩ | ⟨hgoes, hgoing⟩
    · exact .relayEnds hcancelled (by simp [hrelay]) (by simp [hrelay]) hchoice
    · exact change_of_goRelay hgoes hgoing

/-- Taking up a state of the pump ends the session if the pump has failed. -/
theorem change_withPump {pump : Pump} {outlet : Outlet}
    (hgoes : s.isOverdue = true → s.endFirst = false)
    (hturn : Pump.Turn s.options.flushInterval s.now s.isCancelled s.outlet s.pump pump outlet) :
    Change s (.turn .pump) (({ s with outlet } : Session).withPump pump) := by
  unfold withPump
  split
  · exact .pumpFails hturn hgoes
  · rename_i hgood
    exact .pumpMoves hturn (fun error lost h => hgood error lost h) hgoes

theorem isOverdue_iff : s.isOverdue = true ↔
    (∃ write, s.pump.write? = some write ∧ write.isHeldUp = true) ∧
      ∃ deadline, s.drainDeadline? = some deadline ∧ deadline ≤ s.now := by
  simp [isOverdue, Option.any_eq_true]

/-- A pump that has a write under way and does not go on waits for a client that holds the
write up. -/
theorem stalled_of_goPump {write : Write} (hwrite : s.pump.write? = some write)
    (h : s.goPump = none) : s.outlet.writing = .stalled := by
  have hwait : s.pump.step s.options.flushInterval s.now s.isCancelled s.outlet = none :=
    Option.map_eq_none_iff.mp h
  rcases Pump.step_eq_none_iff.mp hwait with hidle | hfinished | ⟨due, hwaiting, -⟩ |
    ⟨write', -, hstalled, -⟩
  · simp [hidle, Pump.write?] at hwrite
  · cases hpump : s.pump <;> simp_all [Pump.write?, Pump.isFinished]
  · simp [hwaiting, Pump.write?] at hwrite
  · exact hstalled

theorem change_of_stepPump (h : s.stepPump = some s') : Change s (.turn .pump) s' := by
  rcases race_eq_some_iff.mp h with ⟨hoverdue, hchoice, rfl⟩ | ⟨hgoes, hgoing⟩
  · obtain ⟨⟨write, hwrite, hheld⟩, deadline, hdeadline, hlate⟩ := isOverdue_iff.mp hoverdue
    have hstate : s.withPump (s.pump.abandon drainTimedOut) =
        { s with
          pump := .finished (.error drainTimedOut) write.data
          scope := s.scope.endWith s.now (.failed (.client drainTimedOut)) } := by
      rw [Pump.abandon, Pump.inHand_of_write? hwrite]
      rfl
    rw [hstate]
    exact .pumpGivesUp hwrite (hchoice.imp_right (stalled_of_goPump hwrite)) hheld hdeadline hlate
  · obtain ⟨⟨pump, outlet⟩, hstep, rfl⟩ := Option.map_eq_some_iff.mp hgoing
    exact change_withPump hgoes (Pump.turn_of_step hstep)

theorem change_of_goWatchdog (hgoes : s.GoesOn)
    (h : s.goWatchdog = some s') : Change s (.turn .watchdog) s' := by
  unfold goWatchdog at h
  split at h
  case h_1 => cases h
  case h_2 => cases h
  case h_3 due failures hdog =>
    split at h
    · rename_i hdue
      cases h
      exact .watchdogProbes hgoes hdog hdue
    · cases h
  case h_4 outcome due failures hdog =>
    split at h
    · cases h
    · cases h
      exact .watchdogAnswered hgoes hdog
    · split at h
      · rename_i hmany
        cases h
        exact .watchdogGivesUp hgoes hdog hmany
      · rename_i hfew
        cases h
        exact .watchdogCounts hgoes hdog (by omega)

theorem change_of_stepWatchdog (h : s.stepWatchdog = some s') : Change s (.turn .watchdog) s' := by
  unfold stepWatchdog at h
  split at h
  case h_1 => cases h
  case h_2 => cases h
  all_goals
    rename_i hdog
    rcases race_eq_some_iff.mp h with ⟨hcancelled, hchoice, rfl⟩ | ⟨hgoes, hgoing⟩
    · exact .watchdogEnds hcancelled (by simp [hdog]) (by simp [hdog]) hchoice
    · exact change_of_goWatchdog hgoes hgoing

theorem change_of_stepExitWatch (h : s.stepExitWatch = some s') :
    Change s (.turn .exitWatch) s' := by
  unfold stepExitWatch at h
  split at h
  case h_1 => cases h
  case h_2 => cases h
  case h_3 hwatch =>
    rcases race_eq_some_iff.mp h with ⟨hcancelled, hchoice, rfl⟩ | ⟨hgoes, hgoing⟩
    · have hchoice' : s.endFirst = true ∨ s.shell.exit = none :=
        hchoice.imp_right Option.map_eq_none_iff.mp
      unfold endExitWatch
      by_cases hdown : s.teardown = .idle
      · rw [startTeardown?_of_idle _ hdown]
        exact .exitWatchTearsDown hcancelled hwatch hdown hchoice'
      · rw [startTeardown?_of_ne_idle _ hdown]
        exact .exitWatchEnds hcancelled hwatch hdown hchoice'
    · obtain ⟨exit, hexit, rfl⟩ := Option.map_eq_some_iff.mp hgoing
      exact .exitWatchReports hgoes hwatch hexit
  case h_4 hwatch =>
    split at h
    · rename_i hdown
      cases h
      exact .exitWatchJoins hwatch hdown
    · cases h

theorem change_of_stepCloser (h : s.stepCloser = some s') : Change s (.turn .closer) s' := by
  unfold stepCloser at h
  split at h
  case h_1 => cases h
  case h_2 => cases h
  case h_3 hcloser =>
    split at h
    · rename_i hcancelled
      cases h
      exact .closerDrains hcancelled hcloser
    · cases h
  case h_4 hcloser =>
    split at h
    · rename_i hpump
      cases h
      exact .closerCloses hcloser hpump
    · cases h
  case h_5 deadline hcloser =>
    split at h
    · cases h
    · rename_i hreturned
      cases h
      exact .closerEnds hcloser fun hstalled => by simpa [hstalled] using hreturned

private theorem finishTeardown_eq (s : Session) (owner : Owner)
    (result : Except ShellFault Unit) :
    s.finishTeardown owner result =
      { s with
        closeCalls := (s.answerOwner owner result).closeCalls
        teardown := .finished owner result } := by
  cases owner <;> rfl

theorem change_of_stepTeardown (h : s.stepTeardown = some s') : Change s (.turn .teardown) s' := by
  unfold stepTeardown at h
  split at h
  case h_1 => cases h
  case h_2 => cases h
  case h_3 owner hdown =>
    split at h
    · cases h
    · rename_i hfree
      cases h
      exact .stdinTaken hdown (by simpa using hfree)
  case h_4 owner hdown =>
    split at h
    · cases h
    · rename_i hreturned
      cases h
      exact .stdinShuts hdown hreturned
  case h_5 owner hdown =>
    split at h
    · cases h
    · rename_i hclosing
      cases h
      rw [finishTeardown_eq]
      exact .shellCloses hdown (.inl ⟨hclosing, rfl⟩)
    · rename_i error hclosing
      cases h
      rw [finishTeardown_eq]
      exact .shellCloses hdown (.inr ⟨error, hclosing, rfl⟩)

theorem change_of_stepRunner (h : s.stepRunner = some s') : Change s (.turn .runner) s' := by
  unfold stepRunner at h
  split at h
  case h_1 => cases h
  case h_2 => cases h
  case h_3 hrunner =>
    split at h
    · rename_i htasks
      by_cases hdown : s.teardown = .idle
      · rw [startTeardown?_of_idle _ hdown] at h
        cases h
        exact .runnerTearsDown hrunner htasks hdown
      · rw [startTeardown?_of_ne_idle _ hdown] at h
        cases h
        exact .runnerReturns hrunner htasks hdown
    · cases h
  case h_4 hrunner =>
    split at h
    · rename_i hdown
      cases h
      exact .runnerJoins hrunner hdown
    · cases h

/-- Every move is of one of the kinds above. -/
theorem change_of_make? {move : Move} (h : s.make? move = some s') : Change s move s' := by
  cases move with
  | act act => exact change_of_undergo? h
  | pass instant =>
    obtain ⟨hle, rfl⟩ := make?_pass_eq_some_iff.mp h
    exact .passes hle
  | turn task =>
    cases task with
    | stop => exact change_of_stepStop h
    | relay => exact change_of_stepRelay h
    | pump => exact change_of_stepPump h
    | watchdog => exact change_of_stepWatchdog h
    | exitWatch => exact change_of_stepExitWatch h
    | closer => exact change_of_stepCloser h
    | teardown => exact change_of_stepTeardown h
    | runner => exact change_of_stepRunner h

end Session

end RemoteShell
