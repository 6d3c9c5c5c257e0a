import RemoteShell.Proofs.Session.LocalRun
import RemoteShell.Proofs.Settings.Timing

/-!
# The exit of a local shell

A session that nobody but its shell ends comes to what the shell says unless enough probes
to give it up are due from when the shell has left until the waiting for it is over
(`exit_reported_unless_given_up`). Whether they are is a matter of instants only.
-/

namespace RemoteShell.Session

open Host (Leaving)

variable {s s' t : Session} {move : Move} {moves : List Move} {leaving : Leaving}
  {start period most now : Nat}

/-! ## How the session ends -/

/-- The shell ends the session, and then too few probes were due strictly within the waiting
to give it up; or a probe does that, and then enough of them were due. -/
inductive Decides (leaving : Leaving) (start period most : Nat) : StopReason → Prop
  | exit (hfew : ∀ number, 1 ≤ number → leaving.leftAt < probeAt start period number →
        leaving.endsAt ≤ probeAt start period (number + most - 1)) :
      Decides leaving start period most (exitReason (.ok leaving.code))
  | givesUp {number : Nat} (hnumber : 1 ≤ number)
      (hfirst : leaving.leftAt ≤ probeAt start period number)
      (hlast : probeAt start period (number + most - 1) ≤ leaving.endsAt) :
      Decides leaving start period most (.failed (.unresponsive Leaving.notFound))

theorem FailsAfter.decides_exit {sent failures : Nat}
    (h : FailsAfter leaving start period sent failures) (hfew : failures < most)
    (htime : leaving.endsAt ≤ probeAt start period (sent + failures + 1)) :
    Decides leaving start period most (exitReason (.ok leaving.code)) := by
  refine .exit fun number _ hlater => ?_
  have hfound := h.found
  have hlt : sent < number := lt_of_probeAt_lt (Nat.lt_of_le_of_lt hfound hlater)
  exact Nat.le_trans htime (probeAt_le (by omega))

theorem OnSchedule.decides_exit {dog : Watchdog}
    (h : OnSchedule leaving start period most leaving.endsAt dog) :
    Decides leaving start period most (exitReason (.ok leaving.code)) := by
  cases h with
  | waiting hrow hfew htime => exact hrow.decides_exit hfew htime
  | probing hrow hfew htime => exact hrow.decides_exit hfew (Nat.le_of_eq htime)

theorem OnSchedule.decides_givesUp {error : ShellFault} {due failures : Nat}
    (h : OnSchedule leaving start period most now (.probing (.failed error) due failures))
    (hmany : most ≤ failures + 1) (hnow : now ≤ leaving.endsAt) :
    Decides leaving start period most (.failed (.unresponsive error)) := by
  cases h with
  | @probing sent _ _ hrow hfew htime hanswer =>
    rcases leaving.answers_iff.mp hanswer with ⟨-, hwrong⟩ | ⟨hgone, herror⟩
    · cases hwrong
    · cases herror
      have hnumber : sent + 1 + most - 1 = sent + failures + 1 := by omega
      refine .givesUp (Nat.succ_pos sent) ((hrow.fails (htime ▸ hgone)).failed (Nat.succ_pos _)) ?_
      rw [hnumber, ← htime]
      exact hnow

/-- It has been decided how the session ends, by the time at which the waiting is over. -/
structure IsDecided (leaving : Leaving) (start : Nat) (s : Session) : Prop where
  started : start ≤ leaving.endsAt
  reason : ∃ reason, s.scope.first = some reason ∧
    Decides leaving start s.options.keepaliveInterval s.maxFailures reason
  inTime : ∃ instant, s.scope.cancelledAt = some instant ∧ instant ≤ leaving.endsAt

/-- A session that waits for its shell is ended with the reason that has been found. -/
theorem isDecided_of_endWith {reason : StopReason} (hs : AwaitsExit leaving start s)
    (hfirst : s.scope.first = none) (hfresh : s.scope.cancelledAt = none)
    (hscope : s'.scope = s.scope.endWith s.now reason) (hoptions : s'.options = s.options)
    (hreason : Decides leaving start s.options.keepaliveInterval s.maxFailures reason) :
    IsDecided leaving start s' := by
  have hsame : s'.maxFailures = s.maxFailures := by rw [maxFailures, maxFailures, hoptions]
  refine ⟨Nat.le_trans hs.started leaving.leftAt_le_endsAt, ⟨reason, ?_, ?_⟩, s.now, ?_, hs.inTime⟩
  · simp [hscope, Scope.endWith, hfirst]
  · rw [hsame, hoptions]
    exact hreason
  · simp [hscope, Scope.endWith, Scope.cancel, hfresh]

/-- What ends a session that waits for its shell. -/
theorem isDecided_of_end (h : Change s move s') (hreached : s.IsReached)
    (hlocal : IsLocal leaving s move) (hunprovoked : s.Unprovoked) (hopen : s.isCancelled = false)
    (hended : s'.isCancelled = true) (hs : AwaitsExit leaving start s) :
    IsDecided leaving start s' := by
  have hfirst := (hreached.undisturbed hopen).first
  have hfresh : s.scope.cancelledAt = none := by
    simpa [isCancelled, Scope.isCancelled] using hopen
  cases h with
  | closes | closesAgain => cases hlocal
  | stopCancels _ hstop => simp [hunprovoked.stop] at hstop
  | relayMeetsEnd _ _ hinbox =>
    have hhalt := hunprovoked.arrivals .hangUp (by simp [hinbox])
    cases hhalt
  | @relayMeetsFailure error _ _ _ hinbox =>
    have hhalt := hunprovoked.arrivals (.failure error) (by simp [hinbox])
    cases hhalt
  | pumpFails hturn => exact absurd (Pump.failing_of_turn hturn) (hunprovoked.writing _)
  | pumpGivesUp _ _ _ hdeadline => simp [drainDeadline?, hfresh] at hdeadline
  | watchdogGivesUp _ hdog hmany =>
    have hschedule := hs.watchdog
    rw [hdog] at hschedule
    have hreason := hschedule.decides_givesUp hmany hs.inTime
    exact isDecided_of_endWith hs hfirst hfresh rfl rfl hreason
  | exitWatchReports _ _ hexit =>
    obtain ⟨hnow, hcode⟩ := hs.exit _ hexit
    rw [leaving.exit_eq] at hcode
    subst hcode
    have hschedule := hs.watchdog
    rw [hnow] at hschedule
    exact isDecided_of_endWith hs hfirst hfresh rfl rfl hschedule.decides_exit
  | _ =>
    have hstill : s.isCancelled = true := hended
    simp [hopen] at hstill

theorem first_of_change_of_some {reason : StopReason} (h : Change s move s')
    (hfirst : s.scope.first = some reason) : s'.scope.first = some reason := by
  cases h <;> simp [Scope.cancel, Scope.endWith, hfirst]

theorem isDecided_of_change (h : Change s move s') (hs : IsDecided leaving start s) :
    IsDecided leaving start s' := by
  obtain ⟨hstarted, ⟨reason, hfirst, hreason⟩, instant, hinstant, hle⟩ := hs
  refine ⟨hstarted, ⟨reason, first_of_change_of_some h hfirst, ?_⟩, instant,
    cancelledAt_of_change h hinstant, hle⟩
  rw [maxFailures, options_of_change h]
  exact hreason

/-- A session whose shell leaves as given, and that nobody else ends. -/
structure Follows (leaving : Leaving) (s : Session) : Prop where
  unprovoked : s.Unprovoked
  fresh : s.startedAt = none → s.isCancelled = false ∧ s.shell.exit = none
  going : ∀ start, s.startedAt = some start → s.isCancelled = false → AwaitsExit leaving start s
  decided : ∀ start, s.startedAt = some start → s.isCancelled = true → IsDecided leaving start s

theorem follows_ofShell {options : Options} {shell : Shell} (hexit : shell.exit = none) :
    Follows leaving (ofShell options shell) where
  unprovoked := ⟨by simp [ofShell], by simp [ofShell, Outlet.fresh], rfl⟩
  fresh := fun _ => ⟨rfl, hexit⟩
  going := fun _ hstart => by simp [ofShell] at hstart
  decided := fun _ hstart => by simp [ofShell] at hstart

/-- Until it is run, a session is neither ended nor told that its shell has left. -/
theorem fresh_of_change (h : Change s move s') (hreached : s.IsReached)
    (hlocal : IsLocal leaving s move) (hfresh : s'.startedAt = none)
    (hs : s.isCancelled = false ∧ s.shell.exit = none) :
    s'.isCancelled = false ∧ s'.shell.exit = none := by
  have hold := startedAt_eq_none_of_change h hfresh
  have hdormant := hreached.dormant hold
  cases h with
  | closes | closesAgain => cases hlocal
  | shellChanges act =>
    refine ⟨hs.1, Option.eq_none_iff_forall_ne_some.mpr fun exit hexit => ?_⟩
    rcases exit_undergo hexit with rfl | hset
    · simp [hold, IsLocal] at hlocal
    · simp [hs.2] at hset
  | stopCancels hstarted => simp [hold] at hstarted
  | relayMeetsEnd _ hrelay | relayMeetsFailure _ hrelay | relayFeeds _ hrelay =>
    simp [hdormant.relay] at hrelay
  | pumpFails hturn =>
    rw [hdormant.pump] at hturn
    cases hturn
  | pumpGivesUp hwrite => simp [hdormant.pump, Pump.write?] at hwrite
  | watchdogProbes _ hdog | watchdogGivesUp _ hdog => simp [hdormant.watchdog] at hdog
  | exitWatchReports _ hwatch => simp [hdormant.exitWatch] at hwatch
  | _ => exact hs

/-- Running a session is what starts it. -/
theorem awaitsExit_of_start (h : Change s move s') (hlocal : IsLocal leaving s move)
    (hfresh : s.startedAt = none) (hstart : s'.startedAt = some start)
    (hexit : s.shell.exit = none) :
    AwaitsExit leaving start s' ∧ s'.isCancelled = s.isCancelled := by
  obtain rfl := startedAt_eq_now_of_change h hfresh hstart
  cases h with
  | runs _ htimers =>
    exact ⟨awaitsExit_of_run (hlocal hfresh) hexit (.runs hfresh htimers) hfresh, rfl⟩
  | _ => simp [hfresh] at hstart

theorem follows_of_make? (hmake : s.make? move = some s') (hreached : s.IsReached)
    (hpunctual : s.IsPunctual move) (hlocal : IsLocal leaving s move) (hs : Follows leaving s) :
    Follows leaving s' := by
  have h := change_of_make? hmake
  refine ⟨unprovoked_of_change h hlocal hs.unprovoked, fun hfresh => ?_,
    fun start hstart hopen => ?_, fun start hstart hended => ?_⟩
  · have hold := hs.fresh (startedAt_eq_none_of_change h hfresh)
    exact fresh_of_change h hreached hlocal hfresh hold
  · cases hold : s.startedAt with
    | none => exact (awaitsExit_of_start h hlocal hold hstart (hs.fresh hold).2).1
    | some old =>
      obtain rfl : old = start := by simpa [startedAt_of_change h hold] using hstart
      have hawaits := hs.going old hold (open_of_change h hopen)
      exact awaitsExit_of_make? hmake hreached hpunctual hlocal (by simp [hold]) hopen hawaits
  · cases hold : s.startedAt with
    | none =>
      obtain ⟨hopen, hexit⟩ := hs.fresh hold
      have hsame := (awaitsExit_of_start h hlocal hold hstart hexit).2
      simp [hsame, hopen] at hended
    | some old =>
      obtain rfl : old = start := by simpa [startedAt_of_change h hold] using hstart
      cases hopen : s.isCancelled with
      | true => exact isDecided_of_change h (hs.decided old hold hopen)
      | false =>
        have hawaits := hs.going old hold hopen
        exact isDecided_of_end h hreached hlocal hs.unprovoked hopen hended hawaits

theorem follows_of_play? {options : Options} {shell : Shell} (hexit : shell.exit = none)
    (hplay : (ofShell options shell).play? moves = some t)
    (hpunctual : (ofShell options shell).PlaysPunctually moves)
    (hlocal : (ofShell options shell).PlaysLocally leaving moves) : Follows leaving t := by
  have hboth := play?_preserves (P := fun s => s.IsReached ∧ Follows leaving s)
    (Q := fun visit => visit.1.IsPunctual visit.2 ∧ IsLocal leaving visit.1 visit.2) ?_ hplay
    (fun visit hvisit => ⟨hpunctual visit hvisit, hlocal visit hvisit⟩)
    ⟨isReached_ofShell options shell, follows_ofShell hexit⟩
  · exact hboth.2
  · rintro s move s' ⟨hpunctual, hlocal⟩ hmake ⟨hreached, hs⟩
    exact ⟨hreached.make? hmake, follows_of_make? hmake hreached hpunctual hlocal hs⟩

/-! ## The result -/

theorem exitReason_result (leaving : Leaving) :
    (exitReason (.ok leaving.code)).result = leaving.result := by
  by_cases hcode : leaving.code = 0 <;>
    simp [exitReason, isCleanExit, Leaving.result, StopReason.result, hcode]

/-- What running the session returns is what has been decided. -/
theorem Follows.of_result {result : Except SessionFault Unit} (hs : Follows leaving t)
    (hreached : t.IsReached) (hstart : t.startedAt = some start)
    (hresult : t.result = some result) :
    ∃ reason, result = reason.result ∧
      Decides leaving start t.options.keepaliveInterval t.maxFailures reason := by
  have hended : t.isCancelled = true := by
    have htasks := hreached.returns.tasks (.inr (by simp [hresult]))
    simp only [tasksFinished, Bool.and_eq_true] at htasks
    exact htasks.1.1.1.1.1
  obtain ⟨reason, hfirst, hreason⟩ := (hs.decided start hstart hended).reason
  refine ⟨reason, ?_, hreason⟩
  rw [hreached.returns.result result hresult, scope_result_eq, hfirst]
  rfl

/-- A session that its shell or a probe ends returns, unless the shell holds the teardown up. -/
theorem returned_of_local {options : Options} {shell : Shell} (hexit : shell.exit = none)
    (hplay : (ofShell options shell).play? moves = some t)
    (hpunctual : (ofShell options shell).PlaysPunctually moves)
    (hlocal : (ofShell options shell).PlaysLocally leaving moves)
    (hstart : t.startedAt = some start)
    (hprompt : ∀ visit ∈ (ofShell options shell).visits moves,
      visit.1.shell.closing ≠ .stalled ∧ visit.1.shell.stdin.shutdown ≠ .stalled)
    (hlate : leaving.endsAt + 2 * t.options.drainTimeout < t.now) : t.result.isSome := by
  have hs := follows_of_play? hexit hplay hpunctual hlocal
  have hended : t.isCancelled = true := by
    cases hopen : t.isCancelled with
    | true => rfl
    | false =>
      have hnow := (hs.going start hstart hopen).inTime
      omega
  obtain ⟨hstarted, -, instant, hinstant, hle⟩ := hs.decided start hstart hended
  have hlate : t.IsLate := ⟨instant, start, hinstant, hstart, by omega⟩
  rcases isDown_or_isStuck_of_play? hplay hpunctual (fun visit hvisit => (hprompt visit hvisit).1)
    hlate with hdown | ⟨u, _, hvisit, -, hstuck⟩
  · exact hdown.2
  · exact absurd hstuck.2 (hprompt _ hvisit).2

/-- Take a punctual run of a session with usable settings that nobody but its shell ends. It
comes to what the shell says, or is given up because the shell is not found any more. The
first is the case if fewer probes in a row than it takes to give the session up are due from
when the shell has left until the waiting for it is over, and the second if at least as many
are due strictly in between. So the settings alone make the first sure if the time between
these probes is longer than two seconds. And the session does return, unless the shell holds
the teardown up. -/
theorem exit_reported_unless_given_up {settings : Settings} {shell : Shell}
    (husable : settings.findUnusable? = none) (hexit : shell.exit = none)
    (hplay : (ofShell settings.timing.options shell).play? moves = some t)
    (hpunctual : (ofShell settings.timing.options shell).PlaysPunctually moves)
    (hlocal : (ofShell settings.timing.options shell).PlaysLocally leaving moves)
    (hstart : t.startedAt = some start)
    (hperiod : period = seconds settings.timing.keepaliveIntervalSecs)
    (hmost : most = max 1 settings.timing.keepaliveMaxFailures.toNat) :
    (∀ result, t.result = some result →
        result = leaving.result ∨ result = .error (.unresponsive Leaving.notFound)) ∧
      ((∀ number, 1 ≤ number → leaving.leftAt ≤ probeAt start period number →
          leaving.endsAt < probeAt start period (number + most - 1)) →
        ∀ result, t.result = some result → result = leaving.result) ∧
      ((∃ number, 1 ≤ number ∧ leaving.leftAt < probeAt start period number ∧
          probeAt start period (number + most - 1) < leaving.endsAt) →
        ∀ result, t.result = some result → result = .error (.unresponsive Leaving.notFound)) ∧
      (Host.LoginShell.drainTimeout < (most - 1) * period →
        ∀ result, t.result = some result → result = leaving.result) ∧
      ((∀ visit ∈ (ofShell settings.timing.options shell).visits moves,
          visit.1.shell.closing ≠ .stalled ∧ visit.1.shell.stdin.shutdown ≠ .stalled) →
        leaving.endsAt + 2 * settings.timing.options.drainTimeout < t.now → t.result.isSome) := by
  have ht : t.IsReached := ⟨_, shell, moves, hplay⟩
  have hs := follows_of_play? hexit hplay hpunctual hlocal
  have hoptions : t.options = settings.timing.options :=
    (options_of_play? hplay).trans (Settings.clamped_of_usable husable)
  have hdecides (result : Except SessionFault Unit) (hresult : t.result = some result) :
      ∃ reason, result = reason.result ∧ Decides leaving start period most reason := by
    have hreason := hs.of_result ht hstart hresult
    rw [maxFailures, hoptions] at hreason
    rw [hperiod, hmost]
    exact hreason
  have hsurvives (hfew : ∀ number, 1 ≤ number → leaving.leftAt ≤ probeAt start period number →
      leaving.endsAt < probeAt start period (number + most - 1)) (result : Except SessionFault Unit)
      (hresult : t.result = some result) : result = leaving.result := by
    obtain ⟨reason, rfl, hreason⟩ := hdecides result hresult
    cases hreason with
    | exit => exact exitReason_result leaving
    | givesUp hnumber hfirst hlast =>
      have := hfew _ hnumber hfirst
      omega
  refine ⟨fun result hresult => ?_, hsurvives, fun hmany result hresult => ?_, fun hlong => ?_, ?_⟩
  · obtain ⟨reason, rfl, hreason⟩ := hdecides result hresult
    cases hreason with
    | exit => exact .inl (exitReason_result leaving)
    | givesUp => exact .inr rfl
  · obtain ⟨number, hnumber, hfirst, hlast⟩ := hmany
    obtain ⟨reason, rfl, hreason⟩ := hdecides result hresult
    cases hreason with
    | exit hfew =>
      have := hfew number hnumber hfirst
      omega
    | givesUp => rfl
  · refine hsurvives fun number hnumber hfirst => ?_
    have hendsAt := leaving.endsAt_le
    have hlast : probeAt start period (number + most - 1) =
        probeAt start period number + (most - 1) * period := by
      have hpositive : 1 ≤ most := hmost ▸ Nat.le_max_left 1 _
      rw [probeAt, probeAt, Nat.add_sub_assoc hpositive, Nat.add_mul, Nat.add_assoc]
    omega
  · intro hprompt hlate
    rw [← hoptions] at hlate
    exact returned_of_local hexit hplay hpunctual hlocal hstart hprompt hlate

/-- Two probes fail after the shell has left, and the third would be due too late. -/
theorem exit_reported_unless_given_up_third_probe :
    ∃ t, (ofShell (Settings.timing
          { Settings.standard with timing := ⟨10000, 1, 3, 500⟩ }).options .fresh).play?
        [.act .run, .turn .pump, .act (.shell (.expectProbes
          [.failed Leaving.notFound, .failed Leaving.notFound])), .pass (millis 1000),
          .turn .watchdog, .turn .watchdog, .pass (millis 2000), .turn .watchdog, .turn .watchdog,
          .pass (millis 2500), .act (.shell (.leave (.ok 0))), .turn .exitWatch, .turn .relay,
          .turn .pump, .turn .watchdog, .turn .closer, .turn .closer, .turn .closer, .turn .runner,
          .turn .teardown, .turn .teardown, .turn .teardown, .turn .runner] = some t ∧
      t.result = some (.ok ()) := by
  generalize hmoves : ([.act .run, .turn .pump, .act (.shell (.expectProbes
    [.failed Leaving.notFound, .failed Leaving.notFound])), .pass (millis 1000),
    .turn .watchdog, .turn .watchdog, .pass (millis 2000), .turn .watchdog, .turn .watchdog,
    .pass (millis 2500), .act (.shell (.leave (.ok 0))), .turn .exitWatch, .turn .relay,
    .turn .pump, .turn .watchdog, .turn .closer, .turn .closer, .turn .closer, .turn .runner,
    .turn .teardown, .turn .teardown, .turn .teardown, .turn .runner] : List Move) = moves
  generalize hsettings :
    ({ Settings.standard with timing := ⟨10000, 1, 3, 500⟩ } : Settings) = settings
  generalize hleaves : Leaving.ofPath "/bin/sh" 0 (millis 500) none = leaving
  have husable : settings.findUnusable? = none := by
    rw [← hsettings]
    rfl
  have hperiod : seconds 1 = seconds settings.timing.keepaliveIntervalSecs := by
    rw [← hsettings]
  have hmost : 3 = max 1 settings.timing.keepaliveMaxFailures.toNat := by
    rw [← hsettings]
    rfl
  have hrun : ((ofShell settings.timing.options .fresh).play? moves).map
      (fun t => (t.startedAt, t.result.isSome)) = some (some 0, true) := by
    rw [← hmoves, ← hsettings]
    decide
  have hpunctual : (ofShell settings.timing.options .fresh).PlaysPunctually moves := by
    rw [← hmoves, ← hsettings]
    decide
  have hlocal : (ofShell settings.timing.options .fresh).PlaysLocally leaving moves := by
    rw [← hmoves, ← hsettings, ← hleaves]
    decide
  have hfew : ∀ number, 1 ≤ number → leaving.leftAt ≤ probeAt 0 (seconds 1) number →
      leaving.endsAt < probeAt 0 (seconds 1) (number + 3 - 1) := by
    intro number hnumber _
    have hendsAt : leaving.endsAt = millis 2500 := by
      rw [← hleaves]
      rfl
    rw [hendsAt, probeAt, millis, seconds, nanosPerMilli, nanosPerSecond]
    omega
  obtain ⟨t, hplay, hstate⟩ := Option.map_eq_some_iff.mp hrun
  rw [Prod.mk.injEq] at hstate
  obtain ⟨result, hresult⟩ := Option.isSome_iff_exists.mp hstate.2
  have hreported := exit_reported_unless_given_up husable rfl hplay hpunctual hlocal hstate.1
    hperiod hmost
  have hclean : result = .ok () := by
    rw [hreported.2.1 hfew result hresult, ← hleaves]
    rfl
  exact ⟨t, hplay, by rw [hresult, hclean]⟩

/-- A shell leaves with a status of zero half a second after the start, and a program in the
background keeps its terminal open. The probe that is due after a second gives the session
up. -/
theorem not_exit_reported_of_early_probe :
    ∃ settings : Settings, ∃ leaving moves t, settings.findUnusable? = none ∧
      leaving.result = .ok () ∧
      (ofShell settings.timing.options .fresh).play? moves = some t ∧
      (ofShell settings.timing.options .fresh).PlaysPunctually moves ∧
      (ofShell settings.timing.options .fresh).PlaysLocally leaving moves ∧
      t.result = some (.error (.unresponsive Leaving.notFound)) := by
  generalize hsettings :
    ({ Settings.standard with timing := ⟨10000, 1, 1, 500⟩ } : Settings) = settings
  generalize hleaves : Leaving.ofPath "/bin/sh" 0 (millis 500) none = leaving
  generalize hmoves : ([.act .run, .turn .pump,
    .act (.shell (.expectProbes [.failed Leaving.notFound])), .pass (millis 1000), .turn .watchdog,
    .turn .watchdog, .turn .relay, .turn .pump, .turn .exitWatch, .turn .closer, .turn .closer,
    .turn .closer, .turn .teardown, .turn .teardown, .turn .teardown, .turn .exitWatch,
    .turn .runner] : List Move) = moves
  have hrun : ((ofShell settings.timing.options .fresh).play? moves).map Session.result =
      some (some (.error (.unresponsive Leaving.notFound))) := by
    rw [← hsettings, ← hmoves]
    rfl
  have hpunctual : (ofShell settings.timing.options .fresh).PlaysPunctually moves := by
    rw [← hsettings, ← hmoves]
    decide
  have hlocal : (ofShell settings.timing.options .fresh).PlaysLocally leaving moves := by
    rw [← hsettings, ← hmoves, ← hleaves]
    decide
  obtain ⟨t, hplay, hresult⟩ := Option.map_eq_some_iff.mp hrun
  refine ⟨settings, leaving, moves, t, ?_, ?_, hplay, hpunctual, hlocal, hresult⟩
  · rw [← hsettings]
    rfl
  · rw [← hleaves]
    rfl

end RemoteShell.Session
