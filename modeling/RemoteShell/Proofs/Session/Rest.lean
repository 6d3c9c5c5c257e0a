import RemoteShell.Proofs.Session.Stage

/-!
# A cancelled session at rest

Once a session runs and has been cancelled, its tasks wait for few things only: for
the client to take a write or a close, for the shell to be shut down or closed, and
for one another (`IsReached.atRest`). If none of this is left, the session has been
torn down (`AtRest.isDown`).
-/

namespace RemoteShell

/-- Tells whether closing the shell has begun. -/
def Teardown.hasClosed : Teardown → Bool
  | closingShell _ | finished .. => true
  | idle | takingStdin _ | shuttingStdin _ => false

namespace Session

variable {s s' t : Session} {move : Move} {moves : List Move}

/-! ## Tasks that have started -/

/-- All tasks have started. -/
structure Awake (s : Session) : Prop where
  relay : s.relay ≠ .idle
  pump : s.pump ≠ .idle
  watchdog : s.watchdog ≠ .idle
  exitWatch : s.exitWatch ≠ .idle
  closer : s.closer ≠ .idle
  runner : s.runner ≠ .idle

theorem relay_ne_idle_of_feed {shell shell' : Shell} {rest : List UInt8} {relay : Relay}
    (h : feed shell rest = some (shell', relay)) : relay ≠ .idle := by
  cases fed_of_feed h <;> simp

theorem awake_of_change (h : Change s move s') (hs : s.startedAt.isSome → s.Awake)
    (hstarted : s'.startedAt.isSome) : s'.Awake := by
  cases h with
  | runs => constructor <;> simp
  | relayFeeds _ _ hfeed => exact { hs hstarted with relay := relay_ne_idle_of_feed hfeed }
  | pumpMoves hturn => exact { hs hstarted with pump := Pump.ne_idle_of_turn hturn }
  | _ =>
    obtain ⟨hrelay, hpump, hwatchdog, hexitWatch, hcloser, hrunner⟩ := hs hstarted
    constructor <;> simp_all

theorem IsReached.awake (h : s.IsReached) (hstarted : s.startedAt.isSome) : s.Awake :=
  h.induction (P := fun s => s.startedAt.isSome → s.Awake)
    (fun _ _ hstarted => by simp [ofShell] at hstarted)
    (fun _ _ _ _ hchange hs => awake_of_change hchange hs) hstarted

/-! ## Tasks that wait for the teardown -/

/-- Whoever waits for the teardown, or has done so, has seen it begin. -/
structure SeesTeardown (s : Session) : Prop where
  exitWatch : s.exitWatch = .closing → s.teardown ≠ .idle
  runner : s.runner = .closing → s.teardown ≠ .idle
  returned : s.result.isSome → s.teardown ≠ .idle

theorem seesTeardown_of_change (h : Change s move s') (hs : s.SeesTeardown) :
    s'.SeesTeardown := by
  cases h with
  | runs => constructor <;> simp [result]
  | closes | stdinTaken | stdinShuts | shellCloses | exitWatchTearsDown | runnerTearsDown =>
    constructor <;> simp
  | exitWatchEnds | exitWatchReports | exitWatchJoins => exact ⟨by simp, hs.runner, hs.returned⟩
  | runnerReturns _ _ hdown => exact ⟨hs.exitWatch, by simp, fun _ => hdown⟩
  | runnerJoins _ hdown => exact ⟨hs.exitWatch, by simp, fun _ => by simp [hdown]⟩
  | _ => exact ⟨hs.exitWatch, hs.runner, hs.returned⟩

theorem IsReached.seesTeardown (h : s.IsReached) : s.SeesTeardown :=
  h.induction (P := SeesTeardown) (fun _ _ => by constructor <;> simp [ofShell, result])
    (fun _ _ _ _ hchange hs => seesTeardown_of_change hchange hs)

/-! ## Waiting -/

theorem stepOf_eq_none (hrest : s.step = none) (task : Task) : s.stepOf task = none := by
  simp only [step, List.findSome?_eq_none_iff] at hrest
  exact hrest task (by cases task <;> simp [turns])

/-- What the tasks of a session wait for that runs and has been cancelled. -/
structure AtRest (s : Session) : Prop where
  relay : s.relay = .finished
  pump : s.pump.isFinished = true ∨ (∃ write, s.pump.write? = some write) ∧
    ∀ deadline ∈ s.drainDeadline?, s.now < deadline
  watchdog : s.watchdog = .finished
  exitWatch : s.exitWatch = .finished ∨ s.exitWatch = .closing ∧
    ∀ owner result, s.teardown ≠ .finished owner result
  closer : s.closer = .finished ∨ s.closer = .draining ∧ s.pump.isFinished = false ∨
    ∃ deadline, s.closer = .closing deadline ∧ s.now < deadline
  taking : ∀ owner, s.teardown ≠ .takingStdin owner
  shutting : ∀ owner, s.teardown = .shuttingStdin owner → s.shell.stdin.shutdown = .stalled
  shell : ∀ owner, s.teardown = .closingShell owner → s.shell.closing = .stalled
  runner : s.result.isSome ∨ s.runner = .running ∧ s.tasksFinished = false ∨
    s.runner = .closing ∧ ∀ owner result, s.teardown ≠ .finished owner result

theorem relay_of_rest (hrest : s.step = none) (hcancelled : s.isCancelled = true)
    (hawake : s.relay ≠ .idle) : s.relay = .finished := by
  have hstep : s.stepRelay = none := stepOf_eq_none hrest .relay
  cases hrelay : s.relay <;> simp_all [stepRelay]

/-- A pump that takes no step has ended or waits for a tick or for the client. -/
theorem pump_of_step_none (hstep : s.stepPump = none) :
    s.pump = .idle ∨ s.pump.isFinished = true ∨
      (∃ due, s.pump = .waiting due ∧ s.isCancelled = false) ∨
      ∃ write, s.pump.write? = some write ∧ s.outlet.writing = .stalled ∧
        ∀ deadline ∈ s.drainDeadline?, s.now < deadline := by
  obtain ⟨hearly, hwait⟩ := race_eq_none_iff.mp hstep
  rcases Pump.step_eq_none_iff.mp (Option.map_eq_none_iff.mp hwait) with hidle | hfinished |
    ⟨due, hwaiting, hopen, _⟩ | ⟨write, hwrite, hstalled, hheld⟩
  · exact .inl hidle
  · exact .inr (.inl hfinished)
  · exact .inr (.inr (.inl ⟨due, hwaiting, hopen⟩))
  · refine .inr (.inr (.inr ⟨write, hwrite, hstalled, fun deadline hdeadline => ?_⟩))
    refine Nat.lt_of_not_le fun hlate => ?_
    have hoverdue := isOverdue_iff.mpr ⟨⟨write, hwrite, hheld⟩, deadline, hdeadline, hlate⟩
    simp [hoverdue] at hearly

theorem pump_of_rest (hrest : s.step = none) (hcancelled : s.isCancelled = true)
    (hawake : s.pump ≠ .idle) :
    s.pump.isFinished = true ∨ (∃ write, s.pump.write? = some write) ∧
      ∀ deadline ∈ s.drainDeadline?, s.now < deadline := by
  have hstep : s.stepPump = none := stepOf_eq_none hrest .pump
  rcases pump_of_step_none hstep with hidle | hfinished | ⟨_, _, hopen⟩ |
    ⟨write, hwrite, _, hahead⟩
  · exact absurd hidle hawake
  · exact .inl hfinished
  · simp [hcancelled] at hopen
  · exact .inr ⟨⟨write, hwrite⟩, hahead⟩

theorem watchdog_of_rest (hrest : s.step = none) (hcancelled : s.isCancelled = true)
    (hawake : s.watchdog ≠ .idle) : s.watchdog = .finished := by
  have hstep : s.stepWatchdog = none := stepOf_eq_none hrest .watchdog
  cases hwatchdog : s.watchdog <;> simp_all [stepWatchdog]

theorem exitWatch_of_rest (hrest : s.step = none) (hcancelled : s.isCancelled = true)
    (hawake : s.exitWatch ≠ .idle) : s.exitWatch = .finished ∨ s.exitWatch = .closing ∧
      ∀ owner result, s.teardown ≠ .finished owner result := by
  have hstep : s.stepExitWatch = none := stepOf_eq_none hrest .exitWatch
  cases hexitWatch : s.exitWatch <;> cases hdown : s.teardown <;>
    simp_all [stepExitWatch]

theorem closer_of_rest (hrest : s.step = none) (hcancelled : s.isCancelled = true)
    (hawake : s.closer ≠ .idle) :
    s.closer = .finished ∨ s.closer = .draining ∧ s.pump.isFinished = false ∨
      ∃ deadline, s.closer = .closing deadline ∧ s.now < deadline := by
  have hstep : s.stepCloser = none := stepOf_eq_none hrest .closer
  cases hcloser : s.closer <;> simp_all [stepCloser]

theorem teardown_of_rest (hrest : s.step = none) (hfree : s.relay.holdsInput = false) :
    (∀ owner, s.teardown ≠ .takingStdin owner) ∧
      (∀ owner, s.teardown = .shuttingStdin owner → s.shell.stdin.shutdown = .stalled) ∧
      ∀ owner, s.teardown = .closingShell owner → s.shell.closing = .stalled := by
  have hstep : s.stepTeardown = none := stepOf_eq_none hrest .teardown
  refine ⟨?_, ?_, ?_⟩
  · intro owner hdown
    simp [stepTeardown, hdown, hfree] at hstep
  · intro owner hdown
    simpa [stepTeardown, hdown] using hstep
  · intro owner hdown
    cases hclosing : s.shell.closing <;> simp_all [stepTeardown]

theorem runner_of_rest (hrest : s.step = none) (hawake : s.runner ≠ .idle) :
    s.result.isSome ∨ s.runner = .running ∧ s.tasksFinished = false ∨
      s.runner = .closing ∧ ∀ owner result, s.teardown ≠ .finished owner result := by
  have hstep : s.stepRunner = none := stepOf_eq_none hrest .runner
  cases hrunner : s.runner <;> cases hdown : s.teardown <;>
    simp_all [stepRunner, startTeardown?, result]

theorem IsReached.atRest (h : s.IsReached) (hrest : s.step = none)
    (hcancelled : s.isCancelled = true) (hstarted : s.startedAt.isSome) : s.AtRest := by
  have hawake := h.awake hstarted
  have hrelay := relay_of_rest hrest hcancelled hawake.relay
  have hfree : s.relay.holdsInput = false := by
    rw [hrelay]
    rfl
  have hteardown := teardown_of_rest hrest hfree
  exact ⟨hrelay, pump_of_rest hrest hcancelled hawake.pump,
    watchdog_of_rest hrest hcancelled hawake.watchdog,
    exitWatch_of_rest hrest hcancelled hawake.exitWatch,
    closer_of_rest hrest hcancelled hawake.closer, hteardown.1, hteardown.2.1,
    hteardown.2.2, runner_of_rest hrest hawake.runner⟩

theorem IsReached.atRest_of_deadline {deadline : Nat} (h : s.IsReached) (hrest : s.step = none)
    (hdeadline : s.drainDeadline? = some deadline) : s.AtRest := by
  obtain ⟨instant, start, hinstant, hstart, _⟩ := drainDeadline?_eq_some_iff.mp hdeadline
  exact h.atRest hrest (isCancelled_iff.mpr ⟨instant, hinstant⟩) (by simp [hstart])

/-! ## Being torn down -/

/-- Closing the shell has begun, and running the session has returned. -/
def IsDown (s : Session) : Prop := s.teardown.hasClosed = true ∧ s.result.isSome

/-- The teardown waits for the input of the shell to be shut down, which does not return. -/
def IsStuck (s : Session) : Prop :=
  (∃ owner, s.teardown = .shuttingStdin owner) ∧ s.shell.stdin.shutdown = .stalled

theorem not_isDown_of_isStuck (h : s.IsStuck) : ¬ s.IsDown := by
  obtain ⟨⟨owner, hdown⟩, _⟩ := h
  simp [IsDown, hdown, Teardown.hasClosed]

/-- That running the session has returned stays. -/
theorem returned_of_change (h : Change s move s') (hreached : s.IsReached)
    (hreturned : s.result.isSome) : s'.result.isSome := by
  cases h with
  | runs hfresh => simp [result, (hreached.dormant hfresh).runner] at hreturned
  | runnerTearsDown hrunner => simp [result, hrunner] at hreturned
  | runnerReturns | runnerJoins => rfl
  | _ => exact hreturned

theorem isDown_of_change (h : Change s move s') (hreached : s.IsReached) (hs : s.IsDown) :
    s'.IsDown := by
  obtain ⟨hclosed, hreturned⟩ := hs
  refine ⟨?_, returned_of_change h hreached hreturned⟩
  cases h with
  | closes hdown | exitWatchTearsDown _ _ hdown | runnerTearsDown _ _ hdown | stdinTaken hdown
  | stdinShuts hdown =>
    simp [hdown, Teardown.hasClosed] at hclosed
  | shellCloses => rfl
  | _ => exact hclosed

/-- A session at rest that has nothing to wait for any more has been torn down. -/
theorem IsReached.isDown (h : s.IsReached) (hrest : s.AtRest) (hcancelled : s.isCancelled = true)
    (hpump : s.pump.isFinished = true) (hcloser : s.closer = .finished)
    (hclosing : s.shell.closing ≠ .stalled) (hstuck : ¬ s.IsStuck) : s.IsDown := by
  have hsees := h.seesTeardown
  have hsettled : s.teardown = .idle ∨ ∃ owner result, s.teardown = .finished owner result := by
    cases hdown : s.teardown with
    | idle => exact .inl rfl
    | takingStdin owner => exact absurd hdown (hrest.taking owner)
    | shuttingStdin owner => exact absurd ⟨⟨owner, hdown⟩, hrest.shutting owner hdown⟩ hstuck
    | closingShell owner => exact absurd (hrest.shell owner hdown) hclosing
    | finished owner result => exact .inr ⟨owner, result, rfl⟩
  have hexitWatch : s.exitWatch = .finished := by
    rcases hrest.exitWatch with hdone | ⟨hwaits, hgoing⟩
    · exact hdone
    · rcases hsettled with hidle | ⟨owner, result, hdone⟩
      · exact absurd hidle (hsees.exitWatch hwaits)
      · exact absurd hdone (hgoing owner result)
  have htasks : s.tasksFinished = true := by
    simp [tasksFinished, hcancelled, hrest.relay, hpump, hrest.watchdog, hexitWatch, hcloser]
  have hreturned : s.result.isSome := by
    rcases hrest.runner with hreturned | ⟨_, hgoing⟩ | ⟨hwaits, hgoing⟩
    · exact hreturned
    · simp [htasks] at hgoing
    · rcases hsettled with hidle | ⟨owner, result, hdone⟩
      · exact absurd hidle (hsees.runner hwaits)
      · exact absurd hdone (hgoing owner result)
  refine ⟨?_, hreturned⟩
  rcases hsettled with hidle | ⟨owner, result, hdone⟩
  · exact absurd hidle (hsees.returned hreturned)
  · rw [hdone]
    rfl

/-! ## What the shell sees of it -/

@[simp] theorem log_undergo (shell : Shell) (act : ShellAct) :
    (shell.undergo act).log = shell.log := by
  cases act <;> rfl

@[simp] theorem log_probe (shell : Shell) : shell.probe.2.log = shell.log := by
  cases hprobes : shell.probes <;> simp [Shell.probe, hprobes]

theorem closed_mem_of_feed {shell shell' : Shell} {rest : List UInt8} {relay : Relay}
    (h : feed shell rest = some (shell', relay)) :
    .closed ∈ shell'.log ↔ .closed ∈ shell.log := by
  cases fed_of_feed h <;> simp [Shell.record]

theorem closed_mem_iff_of_change (h : Change s move s')
    (hs : .closed ∈ s.shell.log ↔ s.teardown.hasClosed = true) :
    .closed ∈ s'.shell.log ↔ s'.teardown.hasClosed = true := by
  cases h with
  | shellChanges => simpa using hs
  | relayFeeds _ _ hfeed => rw [closed_mem_of_feed hfeed, hs]
  | relayResizes => simpa [Shell.record] using hs
  | watchdogProbes => simpa using hs
  | closes hdown | exitWatchTearsDown _ _ hdown | runnerTearsDown _ _ hdown | stdinTaken hdown =>
    rw [hdown] at hs
    exact hs
  | stdinShuts => simp [Shell.record, Teardown.hasClosed]
  | shellCloses hdown =>
    rw [hdown] at hs
    exact hs
  | _ => exact hs

/-- A shell that was open when the session was set up sees that it is closed. -/
theorem closed_mem_iff_of_play? {options : Options} {shell : Shell}
    (hplay : (ofShell options shell).play? moves = some s) (hshell : .closed ∉ shell.log) :
    .closed ∈ s.shell.log ↔ s.teardown.hasClosed = true := by
  refine (isReached_ofShell options shell).along
    (P := fun s => .closed ∈ s.shell.log ↔ s.teardown.hasClosed = true)
    (fun _ _ _ _ hchange hs => closed_mem_iff_of_change hchange hs) hplay ?_
  simpa [ofShell, Teardown.hasClosed] using hshell

end Session

end RemoteShell
