import RemoteShell.Proofs.Host.Leaving
import RemoteShell.Proofs.Session.Verdict

/-!
# Waiting for a local shell

A session whose shell runs on the host of the server goes on being probed after the shell
has left, until the waiting for it is over. A probe that comes in between finds nothing. In
a punctual run the probes are sent exactly when they are due, so the watchdog counts those
that have been due since the shell has left (`OnSchedule`).
-/

namespace RemoteShell

namespace Session

open Host (Leaving)

variable {s s' t : Session} {move : Move} {moves : List Move} {leaving : Leaving}
  {start period most now : Nat}

/-! ## Local runs -/

/-- Tells whether the watchdog would send a probe if it is due. -/
def sendsProbe (s : Session) : Bool :=
  match s.watchdog with
  | .waiting .. => !s.isCancelled
  | _ => false

/-- What may happen to a session that nobody but its shell ends, and whose shell leaves as
given. The shell is waited for from the start of the session on, and as long as the session
waits for that it is told of the end at once. -/
def IsLocal (leaving : Leaving) (s : Session) : Move → Prop
  | .act .run => s.startedAt = none → s.now ≤ leaving.leftAt
  | .act .stop | .act .close | .act (.setWriting (.failing _)) => False
  | .act (.arrive arrival) => arrival.halt? = none
  | .act (.shell (.leave exit)) =>
    s.startedAt.isSome ∧ s.now = leaving.endsAt ∧ exit = leaving.exit
  | .turn .watchdog => s.sendsProbe → leaving.Answers s.now s.shell.probe.1
  | .pass instant => s.exitWatch = .waiting → instant ≤ leaving.endsAt
  | _ => True

instance (leaving : Leaving) (s : Session) : (move : Move) → Decidable (IsLocal leaving s move)
  | .act .run => inferInstanceAs (Decidable (s.startedAt = none → s.now ≤ leaving.leftAt))
  | .act .stop | .act .close | .act (.setWriting (.failing _)) => inferInstanceAs (Decidable False)
  | .act (.arrive arrival) => inferInstanceAs (Decidable (arrival.halt? = none))
  | .act (.shell (.leave exit)) =>
    inferInstanceAs (Decidable (s.startedAt.isSome ∧ s.now = leaving.endsAt ∧ exit = leaving.exit))
  | .turn .watchdog =>
    inferInstanceAs (Decidable (s.sendsProbe → leaving.Answers s.now s.shell.probe.1))
  | .pass instant => inferInstanceAs (Decidable (s.exitWatch = .waiting → instant ≤ leaving.endsAt))
  | .act (.setWriting .prompt) | .act (.setWriting .stalled) | .act (.setClosing _)
  | .act (.emit _) | .act (.shell (.expectProbes _)) | .act (.shell (.setResizing _))
  | .act (.shell (.setClosing _)) | .act (.shell (.setFailure _)) | .act (.shell (.setRoom _))
  | .act (.shell (.setFlushing _)) | .act (.shell (.setShutdown _)) | .act (.setEndFirst _)
  | .turn .stop | .turn .relay | .turn .pump | .turn .exitWatch | .turn .closer | .turn .teardown
  | .turn .runner => inferInstanceAs (Decidable True)

/-- All moves of a run are such. -/
def PlaysLocally (s : Session) (leaving : Leaving) (moves : List Move) : Prop :=
  ∀ visit ∈ s.visits moves, IsLocal leaving visit.1 visit.2

instance (s : Session) (leaving : Leaving) (moves : List Move) :
    Decidable (s.PlaysLocally leaving moves) :=
  inferInstanceAs (Decidable (∀ visit ∈ s.visits moves, IsLocal leaving visit.1 visit.2))

/-- Nothing is on its way that ends the session. -/
structure Unprovoked (s : Session) : Prop where
  arrivals : ∀ arrival ∈ s.inbox, arrival.halt? = none
  writing : ∀ error, s.outlet.writing ≠ .failing error
  stop : s.stopRequested = false

theorem unprovoked_of_change (h : Change s move s') (hlocal : IsLocal leaving s move)
    (hs : s.Unprovoked) : s'.Unprovoked := by
  obtain ⟨harrivals, hwriting, hstop⟩ := hs
  cases h with
  | stops | closes | closesAgain => cases hlocal
  | arrives arrival =>
    refine ⟨fun other hother => ?_, hwriting, hstop⟩
    rcases List.mem_append.mp hother with hold | hnew
    · exact harrivals other hold
    · rw [List.mem_singleton.mp hnew]
      exact hlocal
  | setsWriting writing =>
    refine ⟨harrivals, fun error hfailing => ?_, hstop⟩
    change writing = .failing error at hfailing
    subst hfailing
    exact hlocal
  | relayResizes _ _ hinbox | relayTakes _ _ hinbox | relayRefused _ _ hinbox
  | relaySkips _ _ hinbox | relayMeetsEnd _ _ hinbox | relayMeetsFailure _ _ hinbox =>
    rw [hinbox, List.forall_mem_cons] at harrivals
    exact ⟨harrivals.2, hwriting, hstop⟩
  | pumpMoves hturn | pumpFails hturn =>
    refine ⟨harrivals, fun error => ?_, hstop⟩
    rw [Pump.writing_eq_of_turn hturn]
    exact hwriting error
  | _ => exact ⟨harrivals, hwriting, hstop⟩

/-! ## The schedule of the probes -/

/-- When the probe with a number is due. -/
def probeAt (start period number : Nat) : Nat := start + number * period

theorem probeAt_succ (start period number : Nat) :
    probeAt start period (number + 1) = probeAt start period number + period := by
  rw [probeAt, probeAt, Nat.add_mul, Nat.one_mul, Nat.add_assoc]

theorem probeAt_le {first second : Nat} (h : first ≤ second) :
    probeAt start period first ≤ probeAt start period second :=
  Nat.add_le_add_left (Nat.mul_le_mul_right period h) start

theorem lt_of_probeAt_lt {first second : Nat}
    (h : probeAt start period first < probeAt start period second) : first < second := by
  refine Nat.lt_of_not_le fun hle => ?_
  have := @probeAt_le start period _ _ hle
  omega

/-- The shell was there when the probe with a number was due, or that is the start; the
probes after it have failed, of which there may be none. -/
structure FailsAfter (leaving : Leaving) (start period sent failures : Nat) : Prop where
  found : probeAt start period sent ≤ leaving.leftAt
  failed : 0 < failures → leaving.leftAt ≤ probeAt start period (sent + 1)

theorem FailsAfter.fails {sent failures : Nat} (h : FailsAfter leaving start period sent failures)
    (hgone : leaving.leftAt ≤ probeAt start period (sent + failures + 1)) :
    FailsAfter leaving start period sent (failures + 1) := by
  refine ⟨h.found, fun _ => ?_⟩
  cases failures with
  | zero => exact hgone
  | succ failures => exact h.failed (Nat.succ_pos failures)

/-- The watchdog keeps the schedule, and its failures are those of the probes since the
shell has left. -/
inductive OnSchedule (leaving : Leaving) (start period most now : Nat) : Watchdog → Prop
  | waiting {sent failures : Nat} (hrow : FailsAfter leaving start period sent failures)
      (hfew : failures < most) (htime : now ≤ probeAt start period (sent + failures + 1)) :
      OnSchedule leaving start period most now
        (.waiting (probeAt start period (sent + failures + 1)) failures)
  | probing {sent failures : Nat} {probe : Probe}
      (hrow : FailsAfter leaving start period sent failures) (hfew : failures < most)
      (htime : now = probeAt start period (sent + failures + 1))
      (hanswer : leaving.Answers now probe) :
      OnSchedule leaving start period most now
        (.probing probe (probeAt start period (sent + failures + 2)) failures)

/-- A session that is running and waits for its shell. -/
structure AwaitsExit (leaving : Leaving) (start : Nat) (s : Session) : Prop where
  exitWatch : s.exitWatch = .waiting
  started : start ≤ leaving.leftAt
  inTime : s.now ≤ leaving.endsAt
  exit : ∀ exit ∈ s.shell.exit, s.now = leaving.endsAt ∧ exit = leaving.exit
  watchdog : OnSchedule leaving start s.options.keepaliveInterval s.maxFailures s.now s.watchdog

theorem exit_probe (shell : Shell) : shell.probe.2.exit = shell.exit := by
  cases hprobes : shell.probes <;> simp [Shell.probe, hprobes]

theorem exit_of_feed {shell shell' : Shell} {rest : List UInt8} {relay : Relay}
    (h : feed shell rest = some (shell', relay)) : shell'.exit = shell.exit := by
  cases fed_of_feed h <;> rfl

theorem exit_undergo {shell : Shell} {act : ShellAct} {exit : Except ShellFault Int}
    (h : (shell.undergo act).exit = some exit) : act = .leave exit ∨ shell.exit = some exit := by
  cases act with
  | leave =>
    cases h
    exact .inl rfl
  | _ => exact .inr h

/-- A tick that is dealt with when it is due leaves the schedule as it is. -/
theorem nextDue_probeAt (hperiod : 0 < period) (start number : Nat) :
    nextDue period (probeAt start period number) (probeAt start period number) =
      probeAt start period (number + 1) := by
  rw [probeAt_succ, nextDue, if_neg (by omega)]
  omega

theorem IsReached.period_pos (h : s.IsReached) : 0 < s.options.keepaliveInterval :=
  h.induction (P := fun s => 0 < s.options.keepaliveInterval)
    (fun _ _ => Nat.lt_of_lt_of_le (by decide) (Nat.le_max_right _ Options.shortest))
    (fun _ _ _ _ hchange hs => by rwa [options_of_change hchange])

/-- A session that waits for its shell lets time pass only until the next probe is due or
the waiting is over. -/
theorem awaitsExit_of_pass {instant : Nat} (hpunctual : s.IsPunctual (.pass instant))
    (hlocal : IsLocal leaving s (.pass instant))
    (hs : AwaitsExit leaving start s) : AwaitsExit leaving start (s.setNow instant) := by
  obtain ⟨hrest, hdue⟩ := hpunctual
  have hexitWatch : s.stepExitWatch = none := stepOf_eq_none hrest .exitWatch
  have hwatchdog : s.stepWatchdog = none := stepOf_eq_none hrest .watchdog
  refine ⟨hs.exitWatch, hs.started, hlocal hs.exitWatch, fun exit hexit => ?_, ?_⟩
  · have hexit : s.shell.exit = some exit := hexit
    simp [stepExitWatch, goExitWatch, hs.exitWatch, hexit] at hexitWatch
  · have hschedule := hs.watchdog
    change OnSchedule _ _ _ _ instant s.watchdog
    generalize hdog : s.watchdog = dog at hschedule
    cases hschedule with
    | @waiting sent failures hrow hfew htime =>
      have hahead : s.now < probeAt start s.options.keepaliveInterval (sent + failures + 1) := by
        refine Nat.lt_of_not_le fun hle => ?_
        simp [stepWatchdog, goWatchdog, hdog, hle] at hwatchdog
      have hmem : probeAt start s.options.keepaliveInterval (sent + failures + 1) ∈ s.timers := by
        simp [timers, hdog]
      exact .waiting hrow hfew (le_of_mem_timers hmem hahead hdue)
    | @probing sent failures probe hrow hfew htime hanswer =>
      have hreturns : probe ≠ .hanging := by
        rcases leaving.answers_iff.mp hanswer with ⟨-, rfl⟩ | ⟨-, rfl⟩ <;> simp
      simp only [stepWatchdog, hdog] at hwatchdog
      exact absurd (race_eq_none_iff.mp hwatchdog).2 (goWatchdog_ne_none hdog hreturns)

/-- A session begins to wait for its shell when it is run. -/
theorem awaitsExit_of_run (hlocal : s.now ≤ leaving.leftAt) (hexit : s.shell.exit = none)
    (h : Change s (.act .run) s') (hfresh : s.startedAt = none) :
    AwaitsExit leaving s.now s' := by
  cases h with
  | runsAgain hstarted => simp [hfresh] at hstarted
  | runs =>
    have hpositive : 0 < s.maxFailures := Nat.le_max_left 1 _
    have hfound : probeAt s.now s.options.keepaliveInterval 0 = s.now := by simp [probeAt]
    have hnext := probeAt_succ s.now s.options.keepaliveInterval 0
    rw [hfound] at hnext
    refine ⟨rfl, hlocal, Nat.le_trans hlocal leaving.leftAt_le_endsAt, by simp [hexit], ?_⟩
    have hrow : FailsAfter leaving s.now s.options.keepaliveInterval 0 0 :=
      ⟨by rw [hfound]; exact hlocal, by simp⟩
    have hschedule : OnSchedule leaving s.now s.options.keepaliveInterval s.maxFailures s.now
        (.waiting (probeAt s.now s.options.keepaliveInterval (0 + 0 + 1)) 0) :=
      .waiting hrow hpositive (by rw [hnext]; omega)
    rwa [hnext] at hschedule

/-- The watchdog keeps the schedule with each of its steps. -/
theorem onSchedule_of_turn (h : Change s (.turn .watchdog) s') (hreached : s.IsReached)
    (hlocal : IsLocal leaving s (.turn .watchdog)) (hopen : s.isCancelled = false)
    (hopen' : s'.isCancelled = false) (hs : AwaitsExit leaving start s) :
    OnSchedule leaving start s'.options.keepaliveInterval s'.maxFailures s'.now s'.watchdog := by
  have hschedule := hs.watchdog
  cases h with
  | watchdogEnds hcancelled => simp [hopen] at hcancelled
  | watchdogGivesUp => simp [isCancelled] at hopen'
  | @watchdogProbes due failures _ hdog hdue =>
    rw [hdog] at hschedule
    cases hschedule with
    | @waiting sent failures hrow hfew htime =>
      have hnow : s.now = probeAt start s.options.keepaliveInterval (sent + failures + 1) :=
        Nat.le_antisymm htime hdue
      have hsends : s.sendsProbe = true := by simp [sendsProbe, hdog, hopen]
      have hanswer : leaving.Answers s.now s.shell.probe.1 := hlocal hsends
      have hnext := nextDue_probeAt hreached.period_pos start (sent + failures + 1)
      rw [← hnow] at hnext
      change OnSchedule _ _ _ _ _ (.probing _ (nextDue _ (probeAt _ _ _) _) _)
      rw [← hnow, hnext]
      exact .probing hrow hfew hnow hanswer
  | @watchdogAnswered due failures _ hdog =>
    rw [hdog] at hschedule
    cases hschedule with
    | @probing sent failures probe hrow hfew htime hanswer =>
      rcases leaving.answers_iff.mp hanswer with ⟨hfound, -⟩ | ⟨-, hwrong⟩
      · have hnewRow : FailsAfter leaving start s.options.keepaliveInterval
            (sent + failures + 1) 0 := ⟨by rw [← htime]; exact hfound, by simp⟩
        have hnext : s.now ≤ probeAt start s.options.keepaliveInterval (sent + failures + 1 + 1) :=
          htime ▸ probeAt_le (Nat.le_succ _)
        exact .waiting hnewRow (Nat.le_max_left 1 _) hnext
      · cases hwrong
  | @watchdogCounts error due failures _ hdog hmore =>
    rw [hdog] at hschedule
    cases hschedule with
    | @probing sent failures probe hrow hfew htime hanswer =>
      rcases leaving.answers_iff.mp hanswer with ⟨-, hwrong⟩ | ⟨hgone, -⟩
      · cases hwrong
      · have hnewRow := hrow.fails (htime ▸ hgone)
        have hnext : s.now ≤ probeAt start s.options.keepaliveInterval (sent + failures + 1 + 1) :=
          htime ▸ probeAt_le (Nat.le_succ _)
        exact .waiting hnewRow hmore hnext

/-- A session goes on waiting for its shell with each move that does not end it. -/
theorem awaitsExit_of_make? (hmake : s.make? move = some s') (hreached : s.IsReached)
    (hpunctual : s.IsPunctual move) (hlocal : IsLocal leaving s move)
    (hstarted : s.startedAt.isSome) (hopen' : s'.isCancelled = false)
    (hs : AwaitsExit leaving start s) : AwaitsExit leaving start s' := by
  have h := change_of_make? hmake
  have hopen := open_of_change h hopen'
  cases h with
  | runs hfresh => simp [hfresh] at hstarted
  | shellChanges act =>
    refine ⟨hs.exitWatch, hs.started, hs.inTime, fun exit hexit => ?_, hs.watchdog⟩
    rcases exit_undergo hexit with rfl | hold
    · exact hlocal.2
    · exact hs.exit exit hold
  | passes => exact awaitsExit_of_pass hpunctual hlocal hs
  | relayFeeds _ _ hfeed =>
    refine ⟨hs.exitWatch, hs.started, hs.inTime, fun exit hexit => hs.exit exit ?_, hs.watchdog⟩
    rwa [exit_of_feed hfeed] at hexit
  | watchdogProbes hwaits hdog hdue =>
    have hschedule :=
      onSchedule_of_turn (.watchdogProbes hwaits hdog hdue) hreached hlocal hopen hopen' hs
    refine ⟨hs.exitWatch, hs.started, hs.inTime, fun exit hexit => hs.exit exit ?_, hschedule⟩
    rwa [exit_probe] at hexit
  | watchdogEnds hcancelled => simp [hopen] at hcancelled
  | watchdogAnswered hwaits hdog =>
    exact ⟨hs.exitWatch, hs.started, hs.inTime, hs.exit,
      onSchedule_of_turn (.watchdogAnswered hwaits hdog) hreached hlocal hopen hopen' hs⟩
  | watchdogCounts hwaits hdog hmore =>
    exact ⟨hs.exitWatch, hs.started, hs.inTime, hs.exit,
      onSchedule_of_turn (.watchdogCounts hwaits hdog hmore) hreached hlocal hopen hopen' hs⟩
  | exitWatchTearsDown hcancelled | exitWatchEnds hcancelled => simp [hopen] at hcancelled
  | exitWatchReports | watchdogGivesUp => simp [isCancelled] at hopen'
  | exitWatchJoins hwatch => simp [hs.exitWatch] at hwatch
  | _ => exact ⟨hs.exitWatch, hs.started, hs.inTime, hs.exit, hs.watchdog⟩

end Session

end RemoteShell
