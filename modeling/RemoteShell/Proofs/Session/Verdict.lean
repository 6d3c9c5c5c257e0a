import RemoteShell.Proofs.Session.Deadline

/-!
# What a session comes to

A task halts when it ends the session: the relay at the end of the client's frames, the
pump at a failed write, the watchdog at one failed probe too many, the exit watch when
the shell leaves. Which moves are halts can be told from the history of a run (`halt?`),
and the first of them decides what running the session returns (`returns_first_halt`).

A task that waits for its end and for something to do looks at the two in no fixed order.
So a task may halt after the scope has been cancelled, and if nobody has halted before, that
is the first halt.
-/

namespace RemoteShell

/-- How a session ends with a frame. -/
def Arrival.halt? : Arrival → Option StopReason
  | hangUp => some .ended
  | failure error => some (.failed (.client error))
  | text _ | binary _ => none

/-- How a session ends when its shell leaves. -/
def exitHalt : Except ShellFault Int → StopReason
  | .ok 0 => .ended
  | .ok code => .failed (.shellExited code)
  | .error error => .failed (.backend error)

def Probe.isFailed : Probe → Bool
  | failed _ => true
  | answered | hanging => false

/-- How a pump has failed. -/
def Pump.error? : Pump → Option ClientFault
  | finished (.error error) _ => some error
  | idle | waiting _ | writing .. | lastWriting _ | finished (.ok ()) _ => none

/-- The failures in a row that a watchdog knows of. -/
def Watchdog.failures? : Watchdog → Option Nat
  | waiting _ failures | probing _ _ failures => some failures
  | idle | finished => none

/-- A session does not end with input. -/
theorem Arrival.halt?_of_input {arrival : Arrival} {bytes : List UInt8}
    (h : arrival.input? = some bytes) : arrival.halt? = none := by
  cases arrival <;> simp_all [Arrival.input?, Arrival.halt?]

namespace Session

variable {s s' t : Session} {move : Move} {moves : List Move} {past : List Visit} {visit : Visit}

theorem exitReason_eq_exitHalt (exit : Except ShellFault Int) :
    exitReason exit = exitHalt exit := by
  cases exit with
  | error => rfl
  | ok code => by_cases hcode : code = 0 <;> simp [exitReason, exitHalt, isCleanExit, hcode]

/-! ## Halts -/

/-- How the probe has gone that returns with a move. -/
def probed? : Visit → Option Probe
  | (s, .turn .watchdog) =>
    match s.watchdog with
    | .probing outcome _ _ => if outcome ≠ .hanging ∧ s.GoesOn then some outcome else none
    | _ => none
  | _ => none

/-- How the write that is on its way fails now. It is given up when the client has held it
up for too long and still does; if the client is about to take or to refuse it just then,
either may come first. -/
def fault? (s : Session) : Option ClientFault :=
  if s.isOverdue ∧ (s.endFirst ∨ s.outlet.writing = .stalled) then some drainTimedOut
  else
    match s.pump.write?, s.outlet.writing with
    | some _, .failing error => some error
    | _, _ => none

/-- How many probes in a row have failed last. -/
def failuresInRow (past : List Visit) : Nat :=
  ((past.filterMap probed?).reverse.takeWhile Probe.isFailed).length

/-- How a session ends with a move, if it does. -/
def halt? (past : List Visit) : Visit → Option StopReason
  | (s, .turn .relay) =>
    if s.GoesOn ∧ s.relay = .reading then s.inbox.head?.bind Arrival.halt? else none
  | (s, .turn .pump) => s.fault?.map fun error => .failed (.client error)
  | (s, .turn .watchdog) =>
    match probed? (s, .turn .watchdog) with
    | some (.failed error) =>
      if failuresInRow past + 1 = max 1 s.options.keepaliveMaxFailures.toNat then
        some (.failed (.unresponsive error))
      else none
    | _ => none
  | (s, .turn .exitWatch) =>
    if s.GoesOn ∧ s.exitWatch = .waiting then s.shell.exit.map exitHalt else none
  | _ => none

/-- All halts of a run that comes after another one. -/
def haltsFrom (past : List Visit) : List Visit → List StopReason
  | [] => []
  | visit :: later => (halt? past visit).toList ++ haltsFrom (past ++ [visit]) later

/-- All halts of a run. -/
def halts (visits : List Visit) : List StopReason := haltsFrom [] visits

/-- What the first halt of a run says. -/
def verdict (visits : List Visit) : Except SessionFault Unit :=
  ((halts visits).head?.map StopReason.result).getD (.ok ())

theorem haltsFrom_append (past visits later : List Visit) :
    haltsFrom past (visits ++ later) =
      haltsFrom past visits ++ haltsFrom (past ++ visits) later := by
  induction visits generalizing past with
  | nil => simp [haltsFrom]
  | cons visit visits ih => simp [haltsFrom, ih]

theorem halts_append (past : List Visit) (visit : Visit) :
    halts (past ++ [visit]) = halts past ++ (halt? past visit).toList := by
  rw [halts, haltsFrom_append, haltsFrom, haltsFrom, List.append_nil, List.nil_append, ← halts]

theorem head?_halts_append (past : List Visit) (visit : Visit) :
    (halts (past ++ [visit])).head? = (halts past).head?.or (halt? past visit) := by
  rw [halts_append, List.head?_append, Option.head?_toList]

/-! ## Counting failed probes -/

theorem failuresInRow_append (past : List Visit) (visit : Visit) :
    failuresInRow (past ++ [visit]) =
      match probed? visit with
      | none => failuresInRow past
      | some outcome => if outcome.isFailed then failuresInRow past + 1 else 0 := by
  cases hprobed : probed? visit with
  | none => simp [failuresInRow, hprobed]
  | some outcome => cases hfailed : outcome.isFailed <;> simp [failuresInRow, hprobed, hfailed]

theorem failuresInRow_append_of_none (h : probed? visit = none) :
    failuresInRow (past ++ [visit]) = failuresInRow past := by
  rw [failuresInRow_append, h]

/-- The watchdog counts as the history says, and has not reached its bound. -/
structure Counts (past : List Visit) (s : Session) : Prop where
  fresh : s.startedAt = none → failuresInRow past = 0
  failures : ∀ count ∈ s.watchdog.failures?, count = failuresInRow past ∧ count < s.maxFailures

theorem counts_ofShell (options : Options) (shell : Shell) : Counts [] (ofShell options shell) :=
  ⟨fun _ => rfl, by simp [ofShell, Watchdog.failures?]⟩

theorem probed?_of_probing {outcome : Probe} {due failures : Nat} (hgoes : s.GoesOn)
    (hdog : s.watchdog = .probing outcome due failures) (hreturns : outcome ≠ .hanging) :
    probed? (s, .turn .watchdog) = some outcome := by
  simp only [probed?, hdog]
  exact if_pos ⟨hreturns, hgoes⟩

theorem of_probed?_eq_some {outcome : Probe} (h : probed? (s, .turn .watchdog) = some outcome) :
    outcome ≠ .hanging ∧ s.GoesOn ∧ ∃ due failures, s.watchdog = .probing outcome due failures := by
  cases hdog : s.watchdog <;> simp only [probed?, hdog, Option.ite_none_right_eq_some] at h
  case probing found due failures =>
    obtain ⟨⟨hreturns, hgoes⟩, hfound⟩ := h
    cases hfound
    exact ⟨hreturns, hgoes, due, failures, rfl⟩
  all_goals cases h

/-- A watchdog goes on with a probe that has returned. -/
theorem goWatchdog_ne_none {outcome : Probe} {due failures : Nat}
    (hdog : s.watchdog = .probing outcome due failures) (hreturns : outcome ≠ .hanging) :
    s.goWatchdog ≠ none := by
  cases outcome with
  | hanging => contradiction
  | answered => simp [goWatchdog, hdog]
  | failed error => by_cases hmany : s.maxFailures ≤ failures + 1 <;> simp [goWatchdog, hdog, hmany]

/-- A watchdog that ends does not look at its probe any more. -/
theorem probed?_eq_none_of_end (hcancelled : s.isCancelled = true)
    (hchoice : s.endFirst = true ∨ s.goWatchdog = none) :
    probed? (s, .turn .watchdog) = none := by
  refine Option.eq_none_iff_forall_ne_some.mpr fun outcome h => ?_
  obtain ⟨hreturns, hgoes, due, failures, hdog⟩ := of_probed?_eq_some h
  rcases hchoice with hfirst | hwait
  · simp [hgoes hcancelled] at hfirst
  · exact goWatchdog_ne_none hdog hreturns hwait

theorem counts_of_change (h : Change s move s') (hreached : s.IsReached) (hs : Counts past s) :
    Counts (past ++ [(s, move)]) s' := by
  have hpositive : 0 < s.maxFailures := Nat.le_max_left 1 _
  cases h with
  | runs hfresh =>
    refine ⟨by simp, fun count hcount => ?_⟩
    cases hcount
    rw [failuresInRow_append_of_none rfl, hs.fresh hfresh]
    exact ⟨rfl, hpositive⟩
  | watchdogEnds hcancelled hidle =>
    exact ⟨fun hfresh => absurd (hreached.dormant hfresh).watchdog hidle,
      by simp [Watchdog.failures?]⟩
  | watchdogProbes _ hdog =>
    refine ⟨?_, ?_⟩ <;> rw [failuresInRow_append_of_none (by simp [probed?, hdog])]
    · exact hs.fresh
    · intro count hcount
      exact hs.failures count (by rw [hdog]; exact hcount)
  | watchdogAnswered hgoes hdog =>
    refine ⟨fun hfresh => ?_, fun count hcount => ?_⟩
    · simp [(hreached.dormant hfresh).watchdog] at hdog
    · cases hcount
      rw [failuresInRow_append, probed?_of_probing hgoes hdog (by simp)]
      exact ⟨rfl, hpositive⟩
  | watchdogCounts hgoes hdog hfew =>
    refine ⟨fun hfresh => ?_, fun count hcount => ?_⟩
    · simp [(hreached.dormant hfresh).watchdog] at hdog
    · cases hcount
      rw [failuresInRow_append, probed?_of_probing hgoes hdog (by simp)]
      have hcount := hs.failures _ (by rw [hdog]; rfl)
      exact ⟨congrArg (· + 1) hcount.1, hfew⟩
  | watchdogGivesUp _ hdog =>
    refine ⟨fun hfresh => ?_, by simp [Watchdog.failures?]⟩
    simp [(hreached.dormant hfresh).watchdog] at hdog
  | _ =>
    refine ⟨?_, ?_⟩ <;> rw [failuresInRow_append_of_none rfl]
    · exact hs.fresh
    · exact hs.failures

/-! ## Recording halts -/

theorem error?_eq_none {pump : Pump} (h : ∀ error lost, pump ≠ .finished (.error error) lost) :
    pump.error? = none := by
  unfold Pump.error?
  split
  · exact absurd rfl (h _ _)
  all_goals rfl

/-- A write that the client holds up does not go on. -/
theorem not_stalled_of_turn {period now : Nat} {isStopping : Bool} {pump pump' : Pump}
    {outlet outlet' : Outlet} {write : Write}
    (h : Pump.Turn period now isStopping outlet pump pump' outlet')
    (hwrite : pump.write? = some write) (hheld : write.isHeldUp = true) :
    outlet.writing ≠ .stalled := by
  cases h <;> simp_all [Pump.write?]

/-- A pump that takes a step fails exactly if its write fails. -/
theorem fault?_of_turn {pump : Pump} {outlet : Outlet}
    (h : Pump.Turn s.options.flushInterval s.now s.isCancelled s.outlet s.pump pump outlet)
    (hgoes : s.isOverdue = true → s.endFirst = false) : s.fault? = pump.error? := by
  have hwaits : ¬ (s.isOverdue ∧ (s.endFirst ∨ s.outlet.writing = .stalled)) := by
    rintro ⟨hoverdue, hchoice⟩
    obtain ⟨⟨write, hwrite, hheld⟩, -⟩ := isOverdue_iff.mp hoverdue
    rcases hchoice with hfirst | hstalled
    · simp [hgoes hoverdue] at hfirst
    · exact not_stalled_of_turn h hwrite hheld hstalled
  rw [fault?, if_neg hwaits]
  generalize s.pump = pump' at h
  cases h <;> simp_all [Pump.write?, Pump.error?]

/-- A write that is given up fails. -/
theorem fault?_of_overdue (hoverdue : s.isOverdue = true)
    (hchoice : s.endFirst = true ∨ s.outlet.writing = .stalled) :
    s.fault? = some drainTimedOut :=
  if_pos ⟨hoverdue, hchoice⟩

/-- A relay that ends reads no frame any more. -/
theorem halt?_of_relayEnds (hcancelled : s.isCancelled = true)
    (hchoice : s.endFirst = true ∨ s.goRelay = none) : halt? past (s, .turn .relay) = none := by
  rw [halt?, ite_eq_right_iff]
  rintro ⟨hgoes, hreading⟩
  rcases hchoice with hfirst | hwait
  · simp [hgoes hcancelled] at hfirst
  · cases hinbox : s.inbox <;> simp_all [goRelay]

/-- An exit watch that ends does not look whether the shell has left. -/
theorem halt?_of_exitWatchEnds (hcancelled : s.isCancelled = true)
    (hchoice : s.endFirst = true ∨ s.shell.exit = none) :
    halt? past (s, .turn .exitWatch) = none := by
  rw [halt?, ite_eq_right_iff]
  rintro ⟨hgoes, -⟩
  rcases hchoice with hfirst | hwait
  · simp [hgoes hcancelled] at hfirst
  · rw [hwait, Option.map_none]

/-- A move records a halt exactly if it is one. -/
theorem first_of_change (h : Change s move s') (hs : Counts past s) :
    s'.scope.first = s.scope.first.or (halt? past (s, move)) := by
  cases h with
  | relayEnds hcancelled _ _ hchoice =>
    rw [halt?_of_relayEnds hcancelled hchoice, Option.or_none]
  | relayResizes _ _ hinbox | relaySkips _ _ hinbox => simp [halt?, hinbox, Arrival.halt?]
  | relayTakes _ _ hinbox hinput | relayRefused _ _ hinbox hinput =>
    simp [halt?, hinbox, Arrival.halt?_of_input hinput]
  | relayMeetsEnd hgoes hrelay hinbox | relayMeetsFailure hgoes hrelay hinbox =>
    rw [halt?, if_pos ⟨hgoes, hrelay⟩, hinbox]
    rfl
  | relayResized _ hrelay | relayFeeds _ hrelay | relayFlushed _ hrelay => simp [halt?, hrelay]
  | pumpMoves hturn hgood hgoes =>
    rw [halt?, fault?_of_turn hturn hgoes, error?_eq_none hgood]
    exact (Option.or_none).symm
  | pumpFails hturn hgoes =>
    rw [halt?, fault?_of_turn hturn hgoes]
    rfl
  | pumpGivesUp hwrite hchoice hheld hdeadline hlate =>
    rw [halt?, fault?_of_overdue (isOverdue_iff.mpr ⟨⟨_, hwrite, hheld⟩, _, hdeadline, hlate⟩)
      hchoice]
    rfl
  | watchdogEnds hcancelled _ _ hchoice => simp [halt?, probed?_eq_none_of_end hcancelled hchoice]
  | watchdogProbes _ hdog => simp [halt?, probed?, hdog]
  | watchdogAnswered hgoes hdog => simp [halt?, probed?_of_probing hgoes hdog]
  | watchdogCounts hgoes hdog hfew =>
    have hcount := (hs.failures _ (by rw [hdog]; rfl)).1
    have hmore : failuresInRow past + 1 ≠ max 1 s.options.keepaliveMaxFailures.toNat := by
      rw [← hcount]
      exact Nat.ne_of_lt hfew
    simp [halt?, probed?_of_probing hgoes hdog, hmore]
  | watchdogGivesUp hgoes hdog hmany =>
    have hcount := hs.failures _ (by rw [hdog]; rfl)
    have hlast : failuresInRow past + 1 = max 1 s.options.keepaliveMaxFailures.toNat := by
      rw [← hcount.1]
      exact Nat.le_antisymm hcount.2 hmany
    simp [halt?, probed?_of_probing hgoes hdog, hlast, Scope.endWith]
  | exitWatchTearsDown hcancelled _ _ hchoice | exitWatchEnds hcancelled _ _ hchoice =>
    rw [halt?_of_exitWatchEnds hcancelled hchoice, Option.or_none]
  | exitWatchReports hgoes hwatch hexit =>
    rw [halt?, if_pos ⟨hgoes, hwatch⟩, hexit, exitReason_eq_exitHalt]
    rfl
  | exitWatchJoins hwatch => simp [halt?, hwatch]
  | _ => exact (Option.or_none).symm

/-- The history of a run agrees with its state. -/
structure Recorded (past : List Visit) (s : Session) : Prop where
  reached : s.IsReached
  counts : Counts past s
  first : s.scope.first = (halts past).head?

theorem recorded_of_play? {options : Options} {shell : Shell}
    (hplay : (ofShell options shell).play? moves = some s) :
    Recorded ((ofShell options shell).visits moves) s := by
  have hrun := play?_induction (P := Recorded) [] ?_ hplay ?_
  · rwa [List.nil_append] at hrun
  · rintro past s move s' hmake ⟨hreached, hcounts, hfirst⟩
    have hchange := change_of_make? hmake
    exact ⟨hreached.make? hmake, counts_of_change hchange hreached hcounts, by
      rw [head?_halts_append, ← hfirst, first_of_change hchange hcounts]⟩
  · exact ⟨isReached_ofShell options shell, counts_ofShell options shell, rfl⟩

/-! ## Returning -/

/-- Once all tasks have ended, nothing is recorded any more. -/
theorem tasksFinished_of_change (h : Change s move s') (hreached : s.IsReached)
    (hfinished : s.tasksFinished = true) :
    s'.tasksFinished = true ∧ s'.scope.first = s.scope.first := by
  simp only [tasksFinished, Bool.and_eq_true, decide_eq_true_eq] at hfinished
  obtain ⟨⟨⟨⟨⟨hcancelled, hrelay⟩, hpump⟩, hwatchdog⟩, hexitWatch⟩, hcloser⟩ := hfinished
  have hkept := isCancelled_of_change h hcancelled
  have hpumpKept := (finished_of_change h hreached hpump).1
  simp only [tasksFinished, hkept, hpumpKept, hpump]
  cases h with
  | runs hfresh => simp [(hreached.dormant hfresh).relay] at hrelay
  | pumpMoves hturn | pumpFails hturn =>
    simp [Pump.isFinished_of_turn hturn] at hpump
  | pumpGivesUp hwrite =>
    cases hpump' : s.pump <;> simp_all [Pump.write?, Pump.isFinished]
  | _ => simp_all [Scope.cancel]

theorem scope_result_eq (scope : Scope) :
    scope.result = (scope.first.map StopReason.result).getD (.ok ()) := by
  unfold Scope.result
  split <;> simp_all

/-- Running the session returns what has been recorded, and only after all tasks. -/
structure Returns (s : Session) : Prop where
  tasks : s.runner = .closing ∨ s.result.isSome → s.tasksFinished = true
  result : ∀ result ∈ s.result, result = s.scope.result

theorem returns_of_change (h : Change s move s') (hreached : s.IsReached) (hs : s.Returns) :
    s'.Returns := by
  obtain ⟨htasks, hresult⟩ := hs
  have hkept := tasksFinished_of_change h hreached
  have hscope (hend : s.runner = .closing ∨ s.result.isSome) :
      s.scope.result = s'.scope.result := by
    rw [scope_result_eq, scope_result_eq, (hkept (htasks hend)).2]
  cases h with
  | runs => constructor <;> simp [result]
  | runnerTearsDown _ hfinished => exact ⟨fun _ => hfinished, by simp [result]⟩
  | runnerReturns _ hfinished =>
    refine ⟨fun _ => hfinished, fun result hreturned => ?_⟩
    cases hreturned
    rfl
  | runnerJoins hrunner =>
    refine ⟨fun _ => htasks (.inl hrunner), fun result hreturned => ?_⟩
    cases hreturned
    rfl
  | _ =>
    refine ⟨fun hend => (hkept (htasks hend)).1, fun result hreturned => ?_⟩
    have hold : s.result = some result := hreturned
    exact (hresult result hold).trans (hscope (.inr (by simp [hold])))

theorem IsReached.returns (h : s.IsReached) : s.Returns :=
  h.induction (P := Returns) (fun _ _ => by constructor <;> simp [ofShell, result])
    (fun _ _ _ hreached hchange hs => returns_of_change hchange hreached hs)

/-! ## Halts after the cancellation -/

/-- A write fails because the client refuses it, or because it is given up. -/
theorem of_fault?_eq_some {error : ClientFault} (h : s.fault? = some error) :
    ∃ write, s.pump.write? = some write ∧
      (s.outlet.writing = .failing error ∧ (s.isOverdue = true → s.endFirst = false) ∨
        error = drainTimedOut ∧ s.isOverdue = true ∧
          (s.endFirst = true ∨ s.outlet.writing = .stalled)) := by
  unfold fault? at h
  split at h
  · rename_i hgivenUp
    obtain ⟨hoverdue, hchoice⟩ := hgivenUp
    obtain ⟨⟨write, hwrite, -⟩, -⟩ := isOverdue_iff.mp hoverdue
    cases h
    exact ⟨write, hwrite, .inr ⟨rfl, hoverdue, hchoice⟩⟩
  · rename_i hgoing
    split at h
    · rename_i write error hwrite hfailing
      cases h
      refine ⟨write, hwrite, .inl ⟨hfailing, fun hoverdue => ?_⟩⟩
      exact Bool.eq_false_iff.mpr fun hfirst => hgoing ⟨hoverdue, .inl hfirst⟩
    · cases h

/-- A write that the client refuses is the last one. -/
theorem attempts_of_failing {write : Write} {error : ClientFault}
    (h : Change s (.turn .pump) s') (hwrite : s.pump.write? = some write)
    (hfailing : s.outlet.writing = .failing error)
    (hgoes : s.isOverdue = true → s.endFirst = false) : s'.pump.isFinished = true ∧
      attempts s'.outlet.log = attempts s.outlet.log ++ [write.data] := by
  cases h with
  | pumpMoves hturn | pumpFails hturn =>
    generalize s.pump = pump at hturn hwrite
    cases hturn <;> simp_all [Pump.write?, Pump.isFinished, ClientEvent.data?]
  | pumpGivesUp hwrite hchoice hheld hdeadline hlate =>
    have hoverdue := isOverdue_iff.mpr ⟨⟨_, hwrite, hheld⟩, _, hdeadline, hlate⟩
    simp [hgoes hoverdue, hfailing] at hchoice

/-- A write that is given up is not tried again. -/
theorem attempts_of_givenUp (h : Change s (.turn .pump) s') (hoverdue : s.isOverdue = true)
    (hchoice : s.endFirst = true ∨ s.outlet.writing = .stalled) : s'.pump.isFinished = true ∧
      attempts s'.outlet.log = attempts s.outlet.log := by
  have hstalled (hgoes : s.isOverdue = true → s.endFirst = false) :
      s.outlet.writing = .stalled := by simpa [hgoes hoverdue] using hchoice
  obtain ⟨⟨write, hwrite, hheld⟩, -⟩ := isOverdue_iff.mp hoverdue
  cases h with
  | pumpMoves hturn _ hgoes | pumpFails hturn hgoes =>
    exact absurd (hstalled hgoes) (not_stalled_of_turn hturn hwrite hheld)
  | pumpGivesUp => exact ⟨rfl, rfl⟩

/-- After the cancellation only the pump can halt, and a task that does not look at its end
first. -/
theorem of_late_halt {reason : StopReason} (hcancelled : s.isCancelled = true)
    (h : halt? past (s, move) = some reason) :
    move = .turn .pump ∧ (∃ error, s.fault? = some error ∧ reason = .failed (.client error)) ∨
      s.endFirst = false ∧
        (move = .turn .relay ∨ move = .turn .watchdog ∨ move = .turn .exitWatch) := by
  cases move with
  | turn task =>
    cases task with
    | relay =>
      obtain ⟨⟨hgoes, -⟩, -⟩ := Option.ite_none_right_eq_some.mp h
      exact .inr ⟨hgoes hcancelled, .inl rfl⟩
    | pump =>
      obtain ⟨error, hfault, rfl⟩ := Option.map_eq_some_iff.mp h
      exact .inl ⟨rfl, error, hfault, rfl⟩
    | watchdog =>
      cases hprobed : probed? (s, .turn .watchdog) with
      | none => simp [halt?, hprobed] at h
      | some outcome =>
        obtain ⟨-, hgoes, -⟩ := of_probed?_eq_some hprobed
        exact .inr ⟨hgoes hcancelled, .inr (.inl rfl)⟩
    | exitWatch =>
      obtain ⟨⟨hgoes, -⟩, -⟩ := Option.ite_none_right_eq_some.mp h
      exact .inr ⟨hgoes hcancelled, .inr (.inr rfl)⟩
    | stop | closer | teardown | runner => cases h
  | act | pass => cases h

/-! ## Halts that are at hand -/

theorem stepPump_ne_none_of_fault {error : ClientFault} (h : s.fault? = some error) :
    s.stepPump ≠ none := by
  intro hstep
  obtain ⟨hearly, hwait⟩ := race_eq_none_iff.mp hstep
  obtain ⟨write, hwrite, ⟨hfailing, -⟩ | ⟨-, hoverdue, -⟩⟩ := of_fault?_eq_some h
  · simp [stalled_of_goPump hwrite hwait] at hfailing
  · simp [hearly] at hoverdue

/-- A halt is a step that can be taken. -/
theorem stepOf_ne_none_of_halt {task : Task} {reason : StopReason}
    (h : halt? past (s, .turn task) = some reason) : s.stepOf task ≠ none := by
  intro hstep
  cases task with
  | relay =>
    obtain ⟨⟨-, hreading⟩, hhead⟩ := Option.ite_none_right_eq_some.mp h
    cases hinbox : s.inbox <;> simp_all [stepOf, stepRelay, goRelay]
  | pump =>
    obtain ⟨error, hfault, -⟩ := Option.map_eq_some_iff.mp h
    exact stepPump_ne_none_of_fault hfault hstep
  | watchdog =>
    cases hprobed : probed? (s, .turn .watchdog) with
    | none => simp [halt?, hprobed] at h
    | some outcome =>
      obtain ⟨hreturns, -, due, failures, hdog⟩ := of_probed?_eq_some hprobed
      simp only [stepOf, stepWatchdog, hdog] at hstep
      have hwait := (race_eq_none_iff.mp hstep).2
      exact absurd hwait (goWatchdog_ne_none hdog hreturns)
  | exitWatch =>
    obtain ⟨⟨-, hwatch⟩, hexit⟩ := Option.ite_none_right_eq_some.mp h
    simp only [stepOf, stepExitWatch, hwatch] at hstep
    have hwait := (race_eq_none_iff.mp hstep).2
    simp [Option.map_eq_none_iff.mp hwait] at hexit
  | stop | closer | teardown | runner => cases h

/-! ## The result -/

/-- A halt of the pump after the cancellation is a write that the client refuses, after which
no other is tried, or one that is given up at the deadline. -/
theorem late_fault {options : Options} {shell : Shell} {u : Session} {later : List Visit}
    {error : ClientFault} (hplay : (ofShell options shell).play? moves = some t)
    (hvisits : (ofShell options shell).visits moves = past ++ (u, .turn .pump) :: later)
    (hfault : u.fault? = some error) :
    ∃ write, u.pump.write? = some write ∧
      (u.outlet.writing = .failing error ∧
          attempts t.outlet.log = attempts u.outlet.log ++ [write.data] ∨
        error = drainTimedOut ∧ attempts t.outlet.log = attempts u.outlet.log ∧
          ∃ deadline, u.drainDeadline? = some deadline ∧ deadline ≤ u.now ∧
            ((ofShell options shell).PlaysPunctually moves → u.now = deadline)) := by
  obtain ⟨before, after, u', rfl, hbefore, hpast, hmake, hafter, -⟩ :=
    exists_of_visits_eq hplay hvisits
  have hu : u.IsReached := ⟨options, shell, before, hbefore⟩
  have hchange := change_of_make? hmake
  obtain ⟨write, hwrite, ⟨hfailing, hgoes⟩ | ⟨herror, hoverdue, hchoice⟩⟩ :=
    of_fault?_eq_some hfault
  · obtain ⟨hfinished, hattempts⟩ := attempts_of_failing hchange hwrite hfailing hgoes
    refine ⟨write, hwrite, .inl ⟨hfailing, ?_⟩⟩
    rw [(finished_of_play? hafter (hu.make? hmake) hfinished).2, hattempts]
  · obtain ⟨hfinished, hattempts⟩ := attempts_of_givenUp hchange hoverdue hchoice
    obtain ⟨-, deadline, hdeadline, hle⟩ := isOverdue_iff.mp hoverdue
    refine ⟨write, hwrite, .inr ⟨herror, ?_, deadline, hdeadline, hle, fun hpunctual => ?_⟩⟩
    · rw [(finished_of_play? hafter (hu.make? hmake) hfinished).2, hattempts]
    · have hgoing : u.pump.isFinished = false := by
        cases hpump : u.pump <;> simp_all [Pump.write?, Pump.isFinished]
      rw [PlaysPunctually, visits_append hbefore, List.forall_mem_append] at hpunctual
      have hkeeps := keepsDeadline_of_play? hbefore hpunctual.1 deadline hdeadline
      exact Nat.le_antisymm (hkeeps.pump hgoing) hle

/-- A session that has not been run can be run if the clock can count its first probe. -/
theorem run_isSome_iff {options : Options} {shell : Shell}
    (hplay : (ofShell options shell).play? moves = some t) (hfresh : t.startedAt = none) :
    (t.make? (.act .run)).isSome ↔
      t.now + options.clamped.keepaliveInterval < seconds secondsOfClock := by
  have hoptions : t.options = options.clamped := options_of_play? hplay
  rw [← Options.startTimers?_clamped_isSome_iff, ← hoptions]
  simp [make?, undergo?, run, hfresh]

/-- Running a session returns what the first halt says, and no error if there is none;
stopping and closing it are no halts. After the cancellation the pump can halt, at its last
write or at the deadline, and otherwise only a task that does not look at its end first: if
nobody has halted before, the session then returns what the late halt says. No halt is left
at hand when a session comes to rest. Running a session begins if the clock can count the
first probe; and if it has begun and the shell does not hold the teardown up, it does
return. -/
theorem returns_first_halt {options : Options} {shell : Shell}
    (hplay : (ofShell options shell).play? moves = some t) :
    (∀ result, t.result = some result →
        result = verdict ((ofShell options shell).visits moves)) ∧
      (∀ past u move later reason,
        (ofShell options shell).visits moves = past ++ (u, move) :: later →
        u.isCancelled = true → halt? past (u, move) = some reason →
        (move = .turn .pump ∧ ∃ write error, u.pump.write? = some write ∧
            reason = .failed (.client error) ∧
              (u.outlet.writing = .failing error ∧
                  attempts t.outlet.log = attempts u.outlet.log ++ [write.data] ∨
                error = drainTimedOut ∧ attempts t.outlet.log = attempts u.outlet.log ∧
                  ∃ deadline, u.drainDeadline? = some deadline ∧ deadline ≤ u.now ∧
                    ((ofShell options shell).PlaysPunctually moves → u.now = deadline))) ∨
          u.endFirst = false ∧
            (move = .turn .relay ∨ move = .turn .watchdog ∨ move = .turn .exitWatch)) ∧
      (t.step = none →
        ∀ task, halt? ((ofShell options shell).visits moves) (t, .turn task) = none) ∧
      (t.startedAt = none →
        ((t.make? (.act .run)).isSome ↔
          t.now + options.clamped.keepaliveInterval < seconds secondsOfClock)) ∧
      ((ofShell options shell).PlaysPunctually moves →
        (∀ visit ∈ (ofShell options shell).visits moves, visit.1.shell.closing ≠ .stalled ∧
          visit.1.shell.stdin.shutdown ≠ .stalled) →
        t.IsLate → t.result = some (verdict ((ofShell options shell).visits moves))) := by
  have ht : t.IsReached := ⟨options, shell, moves, hplay⟩
  have hresult : ∀ result, t.result = some result →
      result = verdict ((ofShell options shell).visits moves) := by
    intro result hreturned
    rw [ht.returns.result result hreturned, scope_result_eq, (recorded_of_play? hplay).first]
    rfl
  refine ⟨hresult, ?_, fun hrest task => ?_, run_isSome_iff hplay, ?_⟩
  · intro past u move later reason hvisits hcancelled hhalt
    rcases of_late_halt hcancelled hhalt with ⟨rfl, error, hfault, hreason⟩ | hother
    · obtain ⟨write, hwrite, hcause⟩ := late_fault hplay hvisits hfault
      exact .inl ⟨rfl, write, error, hwrite, hreason, hcause⟩
    · exact .inr hother
  · cases hhalt : halt? ((ofShell options shell).visits moves) (t, .turn task) with
    | none => rfl
    | some reason => exact absurd (stepOf_eq_none hrest task) (stepOf_ne_none_of_halt hhalt)
  · intro hpunctual hprompt hlate
    rcases isDown_or_isStuck_of_play? hplay hpunctual (fun visit hvisit => (hprompt visit hvisit).1)
      hlate with hdown | ⟨u, instant, hvisit, -, hstuck⟩
    · obtain ⟨result, hreturned⟩ := Option.isSome_iff_exists.mp hdown.2
      rw [hreturned, hresult result hreturned]
    · exact absurd hstuck.2 (hprompt _ hvisit).2

/-- The shell leaves with a status of 3. That reading then fails does not count, and that
the client refuses the last write does not count as the first halt. -/
theorem returns_first_halt_of_two :
    ∃ t visits, (ofShell .standard .fresh).play?
        [.act .run, .act (.emit [104]), .act (.setWriting (.failing .closed)),
          .act (.shell (.leave (.ok 3))), .turn .exitWatch, .act (.arrive (.failure .closed)),
          .turn .relay, .turn .pump, .turn .pump, .turn .watchdog, .turn .closer, .turn .closer,
          .turn .closer, .turn .runner, .turn .teardown, .turn .teardown, .turn .teardown,
          .turn .runner] = some t ∧
      halts visits = [.failed (.shellExited 3), .failed (.client .closed)] ∧
      t.result = some (.error (.shellExited 3)) ∧ .error (.shellExited 3) = verdict visits := by
  generalize hmoves : ([.act .run, .act (.emit [104]), .act (.setWriting (.failing .closed)),
    .act (.shell (.leave (.ok 3))), .turn .exitWatch, .act (.arrive (.failure .closed)),
    .turn .relay, .turn .pump, .turn .pump, .turn .watchdog, .turn .closer, .turn .closer,
    .turn .closer, .turn .runner, .turn .teardown, .turn .teardown, .turn .teardown,
    .turn .runner] : List Move) = moves
  have hrun : ((ofShell .standard .fresh).play? moves).map Session.result =
      some (some (.error (.shellExited 3))) := by
    rw [← hmoves]
    rfl
  have hhalts : halts ((ofShell .standard .fresh).visits moves) =
      [.failed (.shellExited 3), .failed (.client .closed)] := by
    rw [← hmoves]
    decide
  obtain ⟨t, hplay, hresult⟩ := Option.map_eq_some_iff.mp hrun
  exact ⟨t, _, hplay, hhalts, hresult, (returns_first_halt hplay).1 _ hresult⟩

/-- Not only halts before the cancellation count. A session is closed, and then it is run
while a failure to read waits; the relay looks at its frames first, and the session returns
that failure. And if the first probe of a session lies beyond the clock, as it does with the
longest period that can be configured one second after the clock began, running it does not
return at all, although its shell leaves in good order. -/
theorem returns_late_halt :
    ((ofShell .standard .fresh).play?
        [.act .close, .act (.arrive (.failure .closed)), .act (.setEndFirst false), .act .run,
          .turn .relay, .turn .pump, .turn .watchdog, .turn .exitWatch, .turn .closer,
          .turn .closer, .turn .closer, .turn .runner]).bind Session.result =
        some (.error (.client .closed)) ∧
      ((ofShell { Options.standard with keepaliveInterval := seconds 9223372036854775807 }
          .fresh).play? [.act (.shell (.leave (.ok 0))), .pass (seconds 1)]).map
        (fun s => (s.make? (.act .run)).isSome) = some false :=
  ⟨rfl, rfl⟩

end Session

end RemoteShell
