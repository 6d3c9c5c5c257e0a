import RemoteShell.Proofs.Session.Requests

/-!
# Frames that ask for nothing

A frame that asks for nothing and does not end the session is ignored. Whatever can
happen to a session can happen as well if such frames come in between or are left out:
the outside does all else as before, at the same instants, and the session is the same
but for what is in its inbox (`exists_play?_of_essential_eq`). The relay passes over
ignored frames in turns of its own, for which nobody else has to wait.
-/

namespace RemoteShell

/-- Tells whether a frame asks for nothing and does not end the session. -/
def Arrival.isIgnored (arrival : Arrival) : Bool := arrival.request?.isNone && !arrival.isEnd

/-- Tells whether the outside makes a move, or time passes. -/
def Move.isOutside : Move → Bool
  | act _ | pass _ => true
  | turn _ => false

/-- Tells whether a frame arrives with a move that is ignored. -/
def Move.isIgnored (move : Move) : Bool := move.arrival?.any Arrival.isIgnored

/-- What happens from outside, and when. -/
def script (moves : List Move) : List Move := moves.filter Move.isOutside

/-- What happens from outside, but for ignored frames. -/
def essential (moves : List Move) : List Move := (script moves).filter (!·.isIgnored)

theorem script_append (moves later : List Move) :
    script (moves ++ later) = script moves ++ script later := List.filter_append ..

@[simp] theorem script_turns (tasks : List Session.Task) : script (tasks.map .turn) = [] := by
  simp [script, Move.isOutside]

theorem script_of_outside {moves : List Move} (h : ∀ move ∈ moves, move.isOutside = true) :
    script moves = moves := List.filter_eq_self.mpr h

theorem essential_cons_of_ignored {move : Move} (later : List Move) (h : move.isIgnored = true) :
    essential (move :: later) = essential later := by
  cases houtside : move.isOutside <;> simp [essential, script, houtside, h]

theorem essential_cons {move : Move} (later : List Move) (houtside : move.isOutside = true)
    (h : move.isIgnored = false) : essential (move :: later) = move :: essential later := by
  simp [essential, script, houtside, h]

theorem exists_of_isIgnored {move : Move} (h : move.isIgnored = true) :
    ∃ frame, move = .act (.arrive frame) ∧ frame.isIgnored = true := by
  cases move with
  | act act =>
    cases act with
    | arrive frame => exact ⟨frame, rfl, h⟩
    | _ => cases h
  | turn | pass => cases h

/-- The frames that are not ignored. -/
def heeded (frames : List Arrival) : List Arrival := frames.filter (!·.isIgnored)

theorem heeded_append (frames later : List Arrival) :
    heeded (frames ++ later) = heeded frames ++ heeded later := List.filter_append ..

theorem heeded_cons_of_ignored {frame : Arrival} (later : List Arrival)
    (h : frame.isIgnored = true) : heeded (frame :: later) = heeded later := by
  simp [heeded, h]

namespace Session

variable {s s' t : Session} {task : Task} {move : Move} {moves later : List Move}

/-! ## Sessions that differ in their inboxes -/

/-- A session with other frames before it. -/
def withInbox (s : Session) (inbox : List Arrival) : Session := { s with inbox }

@[simp] theorem withInbox_inbox (s : Session) : s.withInbox s.inbox = s := rfl

/-- The relay waits for a frame, and takes one if it is there. -/
def IsListening (s : Session) : Prop := s.GoesOn ∧ s.relay = .reading

theorem stepStop_withInbox (inbox : List Arrival) :
    (s.withInbox inbox).stepStop = s.stepStop.map (·.withInbox inbox) := by
  unfold stepStop
  rw [apply_ite (Option.map _)]
  rfl

theorem race_withInbox (inbox : List Arrival) (isEnding : Bool) (ended : Session)
    (going : Option Session) :
    (s.withInbox inbox).race isEnding (ended.withInbox inbox) (going.map (·.withInbox inbox)) =
      (s.race isEnding ended going).map (·.withInbox inbox) := by
  cases isEnding <;> cases hfirst : s.endFirst <;> cases going <;> simp [race, withInbox, hfirst]

theorem goRelay_withInbox (inbox : List Arrival) (hrelay : s.relay ≠ .reading) :
    (s.withInbox inbox).goRelay = s.goRelay.map (·.withInbox inbox) := by
  cases hbusy : s.relay with
  | idle | finished => simp [goRelay, withInbox, hbusy]
  | reading => exact absurd hbusy hrelay
  | resizing | flushing =>
    simp only [goRelay, withInbox, hbusy]
    rw [apply_ite (Option.map _)]
    rfl
  | writing rest =>
    simp only [goRelay, withInbox, hbusy, Option.map_map]
    rfl

theorem stepRelay_of_going (hidle : s.relay ≠ .idle) (hgoing : s.relay ≠ .finished) :
    s.stepRelay = s.race s.isCancelled { s with relay := .finished } s.goRelay := by
  unfold stepRelay
  split
  · contradiction
  · contradiction
  all_goals rfl

theorem stepRelay_withInbox (inbox : List Arrival) (h : ¬ s.IsListening) :
    (s.withInbox inbox).stepRelay = s.stepRelay.map (·.withInbox inbox) := by
  by_cases hidle : s.relay = .idle
  · simp [stepRelay, withInbox, hidle]
  by_cases hgoing : s.relay = .finished
  · simp [stepRelay, withInbox, hgoing]
  rw [stepRelay_of_going hidle hgoing, stepRelay_of_going (s := s.withInbox inbox) hidle hgoing]
  by_cases hrelay : s.relay = .reading
  · -- The relay does not look at its inbox, for it ends.
    obtain ⟨hcancelled, hfirst⟩ : s.isCancelled = true ∧ s.endFirst = true := by
      simpa [IsListening, GoesOn, hrelay] using h
    have hsame : (s.withInbox inbox).isCancelled = true := hcancelled
    rw [hcancelled, hsame, race, race, if_pos rfl, if_pos rfl, if_pos hfirst]
    exact congrArg some (if_pos hfirst)
  · rw [goRelay_withInbox inbox hrelay]
    exact race_withInbox inbox s.isCancelled { s with relay := .finished } s.goRelay

theorem withPump_withInbox (s : Session) (pump : Pump) (inbox : List Arrival) :
    (s.withInbox inbox).withPump pump = (s.withPump pump).withInbox inbox := by
  unfold withPump
  split <;> rfl

theorem stepPump_withInbox (inbox : List Arrival) :
    (s.withInbox inbox).stepPump = s.stepPump.map (·.withInbox inbox) := by
  have hgoing : (s.withInbox inbox).goPump = s.goPump.map (·.withInbox inbox) := by
    rw [goPump, goPump, Option.map_map]
    exact Option.map_congr fun next _ =>
      withPump_withInbox { s with outlet := next.2 } next.1 inbox
  unfold stepPump
  rw [hgoing, withPump_withInbox]
  exact race_withInbox inbox s.isOverdue _ s.goPump

theorem goWatchdog_withInbox (inbox : List Arrival) :
    (s.withInbox inbox).goWatchdog = s.goWatchdog.map (·.withInbox inbox) := by
  cases hdog : s.watchdog with
  | idle | finished => simp [goWatchdog, withInbox, hdog]
  | waiting due failures =>
    by_cases hdue : due ≤ s.now <;> simp [goWatchdog, withInbox, hdog, hdue]
  | probing outcome due failures =>
    cases outcome with
    | failed error =>
      simp only [goWatchdog, withInbox, hdog, endWith]
      rw [apply_ite (Option.map _)]
      rfl
    | answered | hanging => simp [goWatchdog, withInbox, hdog]

theorem stepWatchdog_withInbox (inbox : List Arrival) :
    (s.withInbox inbox).stepWatchdog = s.stepWatchdog.map (·.withInbox inbox) := by
  have hgoing := goWatchdog_withInbox (s := s) inbox
  cases hdog : s.watchdog with
  | idle | finished => simp [stepWatchdog, withInbox, hdog]
  | waiting | probing =>
    simp only [stepWatchdog, show (s.withInbox inbox).watchdog = s.watchdog from rfl, hdog, hgoing]
    exact race_withInbox inbox s.isCancelled { s with watchdog := .finished } s.goWatchdog

theorem endExitWatch_withInbox (inbox : List Arrival) :
    (s.withInbox inbox).endExitWatch = s.endExitWatch.withInbox inbox := by
  cases hdown : s.teardown <;> simp [endExitWatch, startTeardown?, withInbox, hdown]

theorem goExitWatch_withInbox (inbox : List Arrival) :
    (s.withInbox inbox).goExitWatch = s.goExitWatch.map (·.withInbox inbox) := by
  rw [goExitWatch, goExitWatch, Option.map_map]
  rfl

theorem stepExitWatch_withInbox (inbox : List Arrival) :
    (s.withInbox inbox).stepExitWatch = s.stepExitWatch.map (·.withInbox inbox) := by
  cases hwatch : s.exitWatch with
  | idle | finished => simp [stepExitWatch, withInbox, hwatch]
  | waiting =>
    simp only [stepExitWatch, show (s.withInbox inbox).exitWatch = s.exitWatch from rfl, hwatch,
      endExitWatch_withInbox, goExitWatch_withInbox]
    exact race_withInbox inbox s.isCancelled s.endExitWatch s.goExitWatch
  | closing => cases hdown : s.teardown <;> simp [stepExitWatch, withInbox, hwatch, hdown]

theorem stepCloser_withInbox (inbox : List Arrival) :
    (s.withInbox inbox).stepCloser = s.stepCloser.map (·.withInbox inbox) := by
  cases hcloser : s.closer with
  | idle | finished => simp [stepCloser, withInbox, hcloser]
  | waiting =>
    by_cases hcancelled : s.isCancelled = true <;> simp_all [stepCloser, withInbox, isCancelled]
  | draining =>
    by_cases hpump : s.pump.isFinished = true <;> simp_all [stepCloser, withInbox]
  | closing deadline =>
    simp only [stepCloser, withInbox, hcloser]
    rw [apply_ite (Option.map _)]
    rfl

theorem stepTeardown_withInbox (inbox : List Arrival) :
    (s.withInbox inbox).stepTeardown = s.stepTeardown.map (·.withInbox inbox) := by
  cases hdown : s.teardown with
  | idle | finished => simp [stepTeardown, withInbox, hdown]
  | takingStdin owner =>
    simp only [stepTeardown, withInbox, hdown]
    rw [apply_ite (Option.map _)]
    rfl
  | shuttingStdin owner =>
    simp only [stepTeardown, withInbox, hdown]
    rw [apply_ite (Option.map _)]
    rfl
  | closingShell owner =>
    cases hclosing : s.shell.closing <;> cases owner <;>
      simp [stepTeardown, withInbox, hdown, hclosing, finishTeardown, answerOwner]

theorem stepRunner_withInbox (inbox : List Arrival) :
    (s.withInbox inbox).stepRunner = s.stepRunner.map (·.withInbox inbox) := by
  by_cases htasks : s.tasksFinished = true <;> cases hrunner : s.runner <;>
    cases hdown : s.teardown <;>
      simp_all [stepRunner, startTeardown?, withInbox, tasksFinished, isCancelled, finish]

/-- No task but the relay looks at the inbox, and the relay does only when it listens. -/
theorem stepOf_withInbox (inbox : List Arrival) (h : task = .relay → ¬ s.IsListening) :
    (s.withInbox inbox).stepOf task = (s.stepOf task).map (·.withInbox inbox) := by
  cases task with
  | stop => exact stepStop_withInbox inbox
  | relay => exact stepRelay_withInbox inbox (h rfl)
  | pump => exact stepPump_withInbox inbox
  | watchdog => exact stepWatchdog_withInbox inbox
  | exitWatch => exact stepExitWatch_withInbox inbox
  | closer => exact stepCloser_withInbox inbox
  | teardown => exact stepTeardown_withInbox inbox
  | runner => exact stepRunner_withInbox inbox

theorem step_withInbox (inbox : List Arrival) (h : ¬ s.IsListening) (hrest : s.step = none) :
    (s.withInbox inbox).step = none := by
  simp only [step, List.findSome?_eq_none_iff] at hrest ⊢
  intro task htask
  rw [stepOf_withInbox inbox fun _ => h, hrest task htask, Option.map_none]

/-- Nothing from outside looks at the inbox. -/
theorem undergo?_withInbox {act : Act} (inbox : List Arrival)
    (h : (Move.act act).arrival? = none) :
    (s.withInbox inbox).undergo? act = (s.undergo? act).map (·.withInbox inbox) := by
  cases act with
  | run =>
    cases hstarted : s.startedAt with
    | some => simp [undergo?, run, withInbox, hstarted, Except.toOption]
    | none =>
      simp only [undergo?, run, withInbox, hstarted, Option.map_map]
      rfl
  | close =>
    cases hdown : s.teardown <;>
      simp [undergo?, close, cancel, startTeardown?, withInbox, hdown]
  | arrive => cases h
  | _ => rfl

/-! ## Passing over frames -/

theorem offer_withInbox (bytes : List UInt8) (inbox : List Arrival) :
    (s.withInbox inbox).offer bytes = (s.offer bytes).withInbox inbox := by
  rw [offer, offer, apply_ite (withInbox · inbox)]
  rfl

theorem receive_withInbox (frame : Arrival) (inbox : List Arrival) :
    (s.withInbox inbox).receive frame = (s.receive frame).withInbox inbox := by
  unfold receive
  cases frame with
  | text =>
    dsimp only
    split
    case h_2 => exact offer_withInbox _ inbox
    all_goals rfl
  | binary bytes => exact offer_withInbox bytes inbox
  | hangUp | failure => rfl

theorem receive_of_isIgnored {frame : Arrival} (h : frame.isIgnored = true) :
    s.receive frame = s := by
  cases frame with
  | text content =>
    unfold receive
    dsimp only
    split <;> simp_all [Arrival.isIgnored, Arrival.request?]
  | binary => simp [Arrival.isIgnored, Arrival.request?] at h
  | hangUp | failure => simp [Arrival.isIgnored, Arrival.isEnd, Arrival.halt?] at h

theorem stepRelay_of_isListening (frame : Arrival) (rest : List Arrival)
    (hlisten : s.IsListening) :
    (s.withInbox (frame :: rest)).stepRelay = some ((s.receive frame).withInbox rest) := by
  obtain ⟨hgoes, hrelay⟩ := hlisten
  have hrelay' : (s.withInbox (frame :: rest)).relay = .reading := hrelay
  have hgoing : (s.withInbox (frame :: rest)).goRelay =
      some ((s.withInbox rest).receive frame) := by
    simp only [goRelay, withInbox, hrelay]
  rw [stepRelay_of_going (by simp [hrelay']) (by simp [hrelay']), hgoing, receive_withInbox]
  exact race_eq_some_iff.mpr (.inr ⟨hgoes, rfl⟩)

/-- A relay that listens passes over all ignored frames that come first. -/
theorem exists_turns_skip {ignored : List Arrival} (rest : List Arrival)
    (hlisten : s.IsListening) (hignored : ∀ frame ∈ ignored, frame.isIgnored = true) :
    ∃ tasks : List Task,
      (s.withInbox (ignored ++ rest)).play? (tasks.map .turn) = some (s.withInbox rest) := by
  induction ignored with
  | nil => exact ⟨[], rfl⟩
  | cons frame ignored ih =>
    rw [List.forall_mem_cons] at hignored
    obtain ⟨tasks, hplay⟩ := ih hignored.2
    refine ⟨.relay :: tasks, ?_⟩
    rw [List.map_cons, play?, make?, stepOf, List.cons_append, stepRelay_of_isListening _ _ hlisten,
      receive_of_isIgnored hignored.1, Option.bind_some, hplay]

/-- Where no frame is heeded, a relay that listens passes over all of them. -/
theorem exists_turns_skip_all {inbox : List Arrival} (hlisten : s.IsListening)
    (hheeded : heeded inbox = heeded []) :
    ∃ tasks : List Task, (s.withInbox inbox).play? (tasks.map .turn) = some (s.withInbox []) := by
  have hignored : ∀ frame ∈ inbox, frame.isIgnored = true := by
    simpa [heeded, List.filter_eq_nil_iff] using hheeded
  obtain ⟨tasks, hplay⟩ := exists_turns_skip [] hlisten hignored
  rw [List.append_nil] at hplay
  exact ⟨tasks, hplay⟩

/-! ## Sessions that are alike -/

/-- Two sessions have the same heeded frames before them, and differ in nothing else than
their inboxes. -/
def Alike (s s' : Session) : Prop := ∃ inbox, s' = s.withInbox inbox ∧ heeded inbox = heeded s.inbox

theorem Alike.refl (s : Session) : s.Alike s := ⟨s.inbox, rfl, rfl⟩

/-- If the one is at rest, the other can come to rest by passing over frames. -/
theorem Alike.catchUp (h : s.Alike s') :
    ∃ (tasks : List Task) (s'' : Session), s'.play? (tasks.map .turn) = some s'' ∧ s.Alike s'' ∧
      (s.step = none → s''.step = none) := by
  obtain ⟨inbox, rfl, hheeded⟩ := h
  by_cases hrest : s.step = none
  · by_cases hlisten : s.IsListening
    · have hempty : s.inbox = [] := by
        cases hinbox : s.inbox with
        | nil => rfl
        | cons frame rest =>
          have hstep : s.stepRelay = none := stepOf_eq_none hrest .relay
          rw [← withInbox_inbox s, hinbox, stepRelay_of_isListening frame rest hlisten] at hstep
          cases hstep
      rw [hempty] at hheeded
      obtain ⟨tasks, hplay⟩ := exists_turns_skip_all hlisten hheeded
      rw [← hempty, withInbox_inbox] at hplay
      exact ⟨tasks, s, hplay, .refl s, id⟩
    · exact ⟨[], _, rfl, ⟨inbox, rfl, hheeded⟩, step_withInbox inbox hlisten⟩
  · exact ⟨[], _, rfl, ⟨inbox, rfl, hheeded⟩, fun hnone => absurd hnone hrest⟩

/-- A turn of the one is a turn of the other, after it has passed over some frames, or it
passes over a frame itself. -/
theorem Alike.turn {u : Session} (h : s.Alike s') (hstep : s.stepOf task = some u) :
    ∃ (tasks : List Task) (u' : Session), s'.play? (tasks.map .turn) = some u' ∧ u.Alike u' := by
  obtain ⟨inbox, rfl, hheeded⟩ := h
  by_cases hreads : task = .relay ∧ s.IsListening
  · obtain ⟨rfl, hlisten⟩ := hreads
    cases hinbox : s.inbox with
    | nil =>
      -- The relay has nothing to read, so this turn ends it, and the other one follows.
      rw [hinbox] at hheeded
      obtain ⟨tasks, hplay⟩ := exists_turns_skip_all hlisten hheeded
      rw [← hinbox, withInbox_inbox] at hplay
      refine ⟨tasks ++ [.relay], u, ?_, .refl u⟩
      rw [List.map_append, play?_append hplay, List.map_singleton, play?, make?, hstep]
      rfl
    | cons frame rest =>
      rw [← withInbox_inbox s, hinbox, stepOf, stepRelay_of_isListening frame rest hlisten,
        Option.some.injEq] at hstep
      subst hstep
      rw [hinbox] at hheeded
      cases hignored : frame.isIgnored with
      | true =>
        rw [receive_of_isIgnored hignored]
        exact ⟨[], _, rfl, inbox, rfl, hheeded.trans (heeded_cons_of_ignored rest hignored)⟩
      | false =>
        have hcons : heeded inbox = frame :: heeded rest := by
          rw [hheeded]
          simp [heeded, hignored]
        obtain ⟨ignored, rest', rfl, hskip, -, hrest⟩ := List.filter_eq_cons_iff.mp hcons
        obtain ⟨tasks, hplay⟩ := exists_turns_skip (frame :: rest') hlisten (by simpa using hskip)
        refine ⟨tasks ++ [.relay], (s.receive frame).withInbox rest', ?_, rest', rfl, hrest⟩
        rw [List.map_append, play?_append hplay, List.map_singleton, play?, make?, stepOf,
          stepRelay_of_isListening frame rest' hlisten]
        rfl
  · have hlisten : task = .relay → ¬ s.IsListening := not_and.mp hreads
    have hread : frameRead? (s, .turn task) = none := by
      cases hframe : frameRead? (s, .turn task) with
      | none => rfl
      | some frame =>
        obtain ⟨hmove, hgoes, hrelay, -⟩ := of_frameRead?_eq_some hframe
        exact absurd ⟨by simpa using hmove, hgoes, hrelay⟩ hreads
    have hmake : s.make? (.turn task) = some u := hstep
    have hkept := inbox_of_change (change_of_make? hmake)
    have hinbox : s.inbox = u.inbox := by simpa [Move.arrival?, hread] using hkept
    refine ⟨[task], u.withInbox inbox, ?_, inbox, rfl, by rw [hheeded, hinbox]⟩
    rw [List.map_singleton, play?, make?, stepOf_withInbox inbox hlisten, hstep]
    rfl

/-- Ignored frames may arrive at the other. -/
theorem Alike.arriveIgnored {ignored : List Move} (h : s.Alike s')
    (hignored : ∀ move ∈ ignored, move.isIgnored = true) :
    ∃ u', s'.play? ignored = some u' ∧ s.Alike u' ∧ s'.PlaysPunctually ignored := by
  induction ignored generalizing s' with
  | nil => exact ⟨s', rfl, h, by simp [PlaysPunctually, visits]⟩
  | cons move rest ih =>
    rw [List.forall_mem_cons] at hignored
    obtain ⟨frame, rfl, hframe⟩ := exists_of_isIgnored hignored.1
    obtain ⟨inbox, rfl, hheeded⟩ := h
    have hnext : s.Alike (s.withInbox (inbox ++ [frame])) := by
      refine ⟨_, rfl, ?_⟩
      rw [heeded_append, heeded_cons_of_ignored [] hframe, hheeded]
      exact List.append_nil _
    obtain ⟨u', hplay, halike, hpunctual⟩ := ih hnext hignored.2
    exact ⟨u', hplay, halike, (playsPunctually_cons rfl).mpr ⟨trivial, hpunctual⟩⟩

/-- What happens to the one from outside can happen to the other, once that has passed
over some frames. -/
theorem Alike.outside {u : Session} (h : s.Alike s') (houtside : move.isOutside = true)
    (hmove : move.isIgnored = false) (hmake : s.make? move = some u) :
    ∃ (tasks : List Task) (v u' : Session), s'.play? (tasks.map .turn) = some v ∧
      v.make? move = some u' ∧ u.Alike u' ∧ (s.IsPunctual move → v.IsPunctual move) := by
  obtain ⟨tasks, v, hplay, ⟨inbox, rfl, hheeded⟩, hrest⟩ := h.catchUp
  cases move with
  | turn task => cases houtside
  | pass instant =>
    obtain ⟨hle, rfl⟩ := make?_pass_eq_some_iff.mp hmake
    exact ⟨tasks, _, (s.setNow instant).withInbox inbox, hplay,
      make?_pass_eq_some_iff.mpr ⟨hle, rfl⟩, ⟨inbox, rfl, hheeded⟩,
      fun hpunctual => ⟨hrest hpunctual.1, hpunctual.2⟩⟩
  | act act =>
    cases harrival : (Move.act act).arrival? with
    | none =>
      have hkept := inbox_of_change (change_of_make? hmake)
      have hinbox : s.inbox = u.inbox := by simpa [harrival, frameRead?] using hkept
      have hundergo : s.undergo? act = some u := hmake
      refine ⟨tasks, _, u.withInbox inbox, hplay, ?_, ⟨inbox, rfl, ?_⟩, fun _ => trivial⟩
      · rw [make?, undergo?_withInbox inbox harrival, hundergo, Option.map_some]
      · rw [hheeded, hinbox]
    | some frame =>
      cases act with
      | arrive frame =>
        cases hmake
        refine ⟨tasks, _, s.withInbox (inbox ++ [frame]), hplay, rfl, ⟨_, rfl, ?_⟩,
          fun _ => trivial⟩
        rw [heeded_append, hheeded, ← heeded_append]
        rfl
      | _ => cases harrival

/-! ## Runs that differ in ignored frames -/

theorem Alike.arrive {frame : Arrival} (h : s.Alike s') (hframe : frame.isIgnored = true) :
    (s.arrive frame).Alike s' := by
  obtain ⟨inbox, rfl, hheeded⟩ := h
  refine ⟨inbox, rfl, hheeded.trans ?_⟩
  rw [Session.arrive, heeded_append, heeded_cons_of_ignored [] hframe]
  exact (List.append_nil _).symm

/-- A move of the one is followed by the other, which has some of its outside moves
before it: it makes those up to this move if it is essential, and none otherwise. -/
theorem Alike.follow {u : Session} {outer : List Move} (h : s.Alike s')
    (hmake : s.make? move = some u) (houter : ∀ move ∈ outer, move.isOutside = true)
    (hessential : outer.filter (!·.isIgnored) = essential (move :: later)) :
    ∃ followed outer' u', outer = script followed ++ outer' ∧
      outer'.filter (!·.isIgnored) = essential later ∧ s'.play? followed = some u' ∧ u.Alike u' ∧
      (s.IsPunctual move → s'.PlaysPunctually followed) := by
  by_cases houtside : move.isOutside = true
  · cases hmove : move.isIgnored with
    | true =>
      obtain ⟨frame, rfl, hframe⟩ := exists_of_isIgnored hmove
      cases hmake
      rw [essential_cons_of_ignored later hmove] at hessential
      exact ⟨[], outer, s', rfl, hessential, rfl, h.arrive hframe,
        fun _ => playsPunctually_of_timeless (by simp)⟩
    | false =>
      rw [essential_cons later houtside hmove] at hessential
      obtain ⟨ignored, outer', rfl, hignored, -, hrest⟩ := List.filter_eq_cons_iff.mp hessential
      rw [List.forall_mem_append] at houter
      obtain ⟨s₁, hs₁, halike₁, hpunctual₁⟩ := h.arriveIgnored (by simpa using hignored)
      obtain ⟨tasks, s₂, u', hs₂, hmake', halike', hpunctual'⟩ :=
        halike₁.outside houtside hmove hmake
      have hbefore : s'.play? (ignored ++ tasks.map .turn) = some s₂ := by
        rw [play?_append hs₁, hs₂]
      have hlast : s₂.play? [move] = some u' := by rw [play?, hmake', Option.bind_some, play?]
      refine ⟨(ignored ++ tasks.map .turn) ++ [move], outer', u', ?_, hrest, ?_, halike', ?_⟩
      · have hscript : script [move] = [move] := script_of_outside (by simpa using houtside)
        rw [script_append, script_append, script_turns, script_of_outside houter.1, hscript,
          List.append_nil, List.append_assoc, List.singleton_append]
      · rw [play?_append hbefore, hlast]
      · intro hpunctual
        have hnow := hpunctual₁.append hs₁ (playsPunctually_turns s₁ tasks)
        have hthen : s₂.PlaysPunctually [move] := (playsPunctually_cons hmake').mpr
          ⟨hpunctual' hpunctual, by simp [PlaysPunctually, visits]⟩
        exact hnow.append hbefore hthen
  · cases move with
    | turn task =>
      obtain ⟨tasks, u', hu', halike'⟩ := h.turn hmake
      exact ⟨tasks.map .turn, outer, u', by rw [script_turns, List.nil_append], hessential, hu',
        halike', fun _ => playsPunctually_turns s' tasks⟩
    | act | pass => exact absurd rfl houtside

/-- When the one has made its moves, the other makes the outside moves that it has left
and comes to rest if the one has. -/
theorem Alike.conclude {outer : List Move} (h : s.Alike s')
    (houter : ∀ move ∈ outer, move.isOutside = true)
    (hessential : outer.filter (!·.isIgnored) = []) :
    ∃ followed t', script followed = outer ∧ s'.play? followed = some t' ∧ s.Alike t' ∧
      (s.step = none → t'.step = none) ∧ s'.PlaysPunctually followed := by
  have hignored : ∀ move ∈ outer, move.isIgnored = true := by
    simpa [List.filter_eq_nil_iff] using hessential
  obtain ⟨u, hu, halike, hpunctual⟩ := h.arriveIgnored hignored
  obtain ⟨tasks, t', ht', halike', hrest⟩ := halike.catchUp
  refine ⟨outer ++ tasks.map .turn, t', ?_, by rw [play?_append hu, ht'], halike', hrest,
    hpunctual.append hu (playsPunctually_turns u tasks)⟩
  rw [script_append, script_turns, script_of_outside houter, List.append_nil]

/-- A run can be followed by one that is like it, in which ignored frames come anywhere. -/
theorem exists_play?_of_alike {outer : List Move} (hplay : s.play? moves = some t)
    (h : s.Alike s') (houter : ∀ move ∈ outer, move.isOutside = true)
    (hessential : outer.filter (!·.isIgnored) = essential moves) :
    ∃ moves' t', script moves' = outer ∧ s'.play? moves' = some t' ∧ t.Alike t' ∧
      (t.step = none → t'.step = none) ∧ (s.PlaysPunctually moves → s'.PlaysPunctually moves') := by
  induction moves generalizing s s' outer with
  | nil =>
    cases hplay
    obtain ⟨moves', t', hscript, ht', halike, hrest, hpunctual⟩ := h.conclude houter hessential
    exact ⟨moves', t', hscript, ht', halike, hrest, fun _ => hpunctual⟩
  | cons move later ih =>
    obtain ⟨u, hmake, hlater⟩ := play?_cons_eq_some hplay
    obtain ⟨followed, outer', u', rfl, hessential', hu', halike', hfollowed⟩ :=
      h.follow hmake houter hessential
    rw [List.forall_mem_append] at houter
    obtain ⟨moves', t', hscript, ht', halike, hrest, hpunctual⟩ :=
      ih hlater halike' houter.2 hessential'
    refine ⟨followed ++ moves', t', by rw [script_append, hscript], by rw [play?_append hu', ht'],
      halike, hrest, fun hmoves => ?_⟩
    rw [playsPunctually_cons hmake] at hmoves
    exact (hfollowed hmoves.1).append hu' (hpunctual hmoves.2)

/-- Whatever else happens from outside, ignored frames make no difference to what a
session can come to, but for what is in its inbox. -/
theorem exists_play?_of_essential_eq {others : List Move} (hplay : s.play? moves = some t)
    (h : essential others = essential moves) :
    ∃ moves' t', script moves' = script others ∧ s.play? moves' = some t' ∧
      t' = { t with inbox := t'.inbox } ∧ (t.step = none → t'.step = none) ∧
      (s.PlaysPunctually moves → s.PlaysPunctually moves') := by
  have houter : ∀ move ∈ script others, move.isOutside = true := by simp [script]
  obtain ⟨moves', t', hscript, ht', ⟨inbox, rfl, -⟩, hrest, hpunctual⟩ :=
    exists_play?_of_alike hplay (.refl s) houter h
  exact ⟨moves', _, hscript, ht', rfl, hrest, hpunctual⟩

end Session

end RemoteShell
