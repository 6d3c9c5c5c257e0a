import RemoteShell.Session.Step

/-!
# Every session comes to rest

Between two changes from outside a session can take finitely many steps: with
each of them there are either fewer frames to read or less work left on the
frames that have been read (`isBefore_of_step`). So `settle` lets the tasks take
turns until none of them has a step.
-/

namespace RemoteShell

/-- The steps that a relay can still take on the frame it has read. -/
def Relay.work : Relay → Nat
  | .idle | .finished => 0
  | .reading => 1
  | .resizing | .flushing => 2
  | .writing rest => 3 + rest.length

/-- A bound of the steps that a watchdog can still take at one instant. -/
def Watchdog.work (now : Nat) : Watchdog → Nat
  | .idle | .finished => 0
  | .waiting due _ => 2 + 3 * (now + 1 - due)
  | .probing _ due _ => 3 + 3 * (now + 1 - due)

/-- The steps that an exit watch can still take. -/
def ExitWatch.work : ExitWatch → Nat
  | .idle | .finished => 0
  | .waiting => 2
  | .closing => 1

/-- The steps that a closer can still take. -/
def Closer.work : Closer → Nat
  | .idle | .finished => 0
  | .waiting => 3
  | .draining => 2
  | .closing _ => 1

/-- The steps that a teardown can still take. -/
def Teardown.work : Teardown → Nat
  | .idle => 4
  | .takingStdin _ => 3
  | .shuttingStdin _ => 2
  | .closingShell _ => 1
  | .finished .. => 0

/-- The steps that a runner can still take. -/
def Runner.work : Runner → Nat
  | .idle | .returned _ => 0
  | .running => 2
  | .closing => 1

/-- Whether a request to stop has still to be passed on to the tasks. -/
def stopWork (stopRequested : Bool) (scope : Scope) : Nat :=
  if stopRequested && !scope.isCancelled then 1 else 0

@[simp] theorem stopWork_cancel (stopRequested : Bool) (scope : Scope) (now : Nat) :
    stopWork stopRequested (scope.cancel now) = 0 := by
  simp [stopWork]

@[simp] theorem stopWork_endWith (stopRequested : Bool) (scope : Scope) (now : Nat)
    (reason : StopReason) : stopWork stopRequested (scope.endWith now reason) = 0 := by
  simp [stopWork]

namespace Session

/-- A bound of the steps that the tasks can still take without reading a frame. -/
def work (s : Session) : Nat :=
  stopWork s.stopRequested s.scope + s.relay.work + s.pump.work s.now + s.watchdog.work s.now +
    s.exitWatch.work + s.closer.work + s.teardown.work + s.runner.work

/-- Tells that a session is nearer to rest than another: there are fewer frames to
read, or as many and less work. -/
def IsBefore (s t : Session) : Prop :=
  s.inbox.length < t.inbox.length ∨ s.inbox.length = t.inbox.length ∧ s.work < t.work

/-- A race is nearer to rest if both its outcomes are. -/
theorem isBefore_of_race {s s' ended : Session} {isEnding : Bool} {going : Option Session}
    (h : s.race isEnding ended going = some s') (hended : isEnding = true → ended.IsBefore s)
    (hgoing : ∀ s', going = some s' → s'.IsBefore s) : s'.IsBefore s := by
  rcases race_eq_some_iff.mp h with ⟨hending, -, rfl⟩ | ⟨-, hstep⟩
  · exact hended hending
  · exact hgoing s' hstep

theorem isBefore_of_stepStop {s s' : Session} (h : s.stepStop = some s') : s'.IsBefore s := by
  unfold stepStop at h
  split at h
  · rename_i hc
    cases h
    have : stopWork s.stopRequested s.scope = 1 := by
      have hscope := hc.2.2
      simp only [isCancelled] at hscope
      simp [stopWork, hc.2.1, hscope]
    refine .inr ⟨rfl, ?_⟩
    simp only [work, cancel, stopWork_cancel]
    omega
  · cases h

theorem inbox_receive (s : Session) (frame : Arrival) : (s.receive frame).inbox = s.inbox := by
  unfold receive offer
  split
  · split
    case h_2 => split <;> rfl
    all_goals rfl
  · split <;> rfl
  all_goals rfl

theorem feed_work_lt {shell shell' : Shell} {rest : List UInt8} {relay : Relay}
    (h : feed shell rest = some (shell', relay)) : relay.work < (Relay.writing rest).work := by
  unfold feed at h
  split at h
  · cases h
    simp only [Relay.work]
    omega
  · split at h
    · cases h
      simp only [Relay.work]
      omega
    · split at h
      · cases h
        simp only [Relay.work]
        omega
      · cases h
      · rename_i hrest _ _ _ _
        cases h
        have := List.length_pos_iff.2 hrest
        simp only [Relay.work, List.length_drop]
        omega

theorem isBefore_of_goRelay {s s' : Session} (h : s.goRelay = some s') : s'.IsBefore s := by
  unfold goRelay at h
  split at h
  · cases h
  · cases h
  · split at h
    · cases h
    · rename_i hinbox
      cases h
      refine .inl ?_
      simp [inbox_receive, hinbox]
  · rename_i hrelay
    split at h
    · cases h
    · cases h
      exact .inr ⟨rfl, by simp [work, Relay.work, hrelay]⟩
  · rename_i rest hrelay
    simp only [Option.map_eq_some_iff, Prod.exists] at h
    obtain ⟨shell, relay, hfeed, rfl⟩ := h
    have := feed_work_lt hfeed
    refine .inr ⟨rfl, ?_⟩
    simp only [work, hrelay]
    omega
  · rename_i hrelay
    split at h
    · cases h
    · cases h
      exact .inr ⟨rfl, by simp [work, Relay.work, hrelay]⟩

theorem isBefore_of_stepRelay {s s' : Session} (h : s.stepRelay = some s') : s'.IsBefore s := by
  unfold stepRelay at h
  split at h
  · cases h
  · cases h
  all_goals
    rename_i hrelay
    refine isBefore_of_race h (fun _ => .inr ⟨rfl, ?_⟩) fun _ => isBefore_of_goRelay
    simp only [work, Relay.work, hrelay]
    omega

theorem work_withPump_le (s : Session) (pump : Pump) :
    (s.withPump pump).work ≤ ({ s with pump } : Session).work := by
  unfold withPump
  split
  · simp only [work, endWith, stopWork_endWith]
    omega
  · exact Nat.le_refl _

theorem inbox_withPump (s : Session) (pump : Pump) : (s.withPump pump).inbox = s.inbox := by
  unfold withPump
  split <;> rfl

theorem isBefore_withPump {s : Session} {pump : Pump} (outlet : Outlet)
    (h : pump.work s.now < s.pump.work s.now) :
    (({ s with outlet } : Session).withPump pump).IsBefore s := by
  refine .inr ⟨by rw [inbox_withPump], Nat.lt_of_le_of_lt (work_withPump_le _ _) ?_⟩
  simp only [work]
  omega

theorem work_abandon_lt {pump : Pump} {error : ClientFault} {now : Nat}
    (h : pump.write?.isSome) : (pump.abandon error).work now < pump.work now := by
  cases pump with
  | writing write due =>
    simp only [Pump.abandon, Pump.work]
    omega
  | lastWriting write =>
    simp only [Pump.abandon, Pump.work, Pump.writeWork]
    split <;> omega
  | idle | waiting | finished => cases h

theorem isBefore_of_stepPump {s s' : Session} (h : s.stepPump = some s') : s'.IsBefore s := by
  refine isBefore_of_race h (fun hoverdue => ?_) fun s' hgoing => ?_
  · refine isBefore_withPump s.outlet (work_abandon_lt ?_)
    cases hwrite : s.pump.write? <;> simp_all [isOverdue]
  · obtain ⟨⟨pump, outlet⟩, hstep, rfl⟩ := Option.map_eq_some_iff.mp hgoing
    exact isBefore_withPump outlet (Pump.step_work_lt hstep)

theorem isBefore_of_goWatchdog {s s' : Session} (h : s.goWatchdog = some s') : s'.IsBefore s := by
  unfold goWatchdog at h
  split at h
  · cases h
  · cases h
  · rename_i due failures hdog
    split at h
    · rename_i hdue
      cases h
      have := lt_nextDue s.options.keepaliveInterval hdue
      refine .inr ⟨rfl, ?_⟩
      simp only [work, Watchdog.work, hdog]
      omega
    · cases h
  · rename_i outcome due failures hdog
    split at h
    · cases h
    · cases h
      exact .inr ⟨rfl, by simp [work, Watchdog.work, hdog]⟩
    · split at h
      · cases h
        refine .inr ⟨rfl, ?_⟩
        simp only [work, endWith, stopWork_endWith, Watchdog.work, hdog]
        omega
      · cases h
        exact .inr ⟨rfl, by simp [work, Watchdog.work, hdog]⟩

theorem isBefore_of_stepWatchdog {s s' : Session} (h : s.stepWatchdog = some s') :
    s'.IsBefore s := by
  unfold stepWatchdog at h
  split at h
  · cases h
  · cases h
  all_goals
    rename_i hdog
    refine isBefore_of_race h (fun _ => .inr ⟨rfl, ?_⟩) fun _ => isBefore_of_goWatchdog
    simp only [work, Watchdog.work, hdog]
    omega

theorem startTeardown?_eq_some {s s' : Session} {owner : Owner}
    (h : s.startTeardown? owner = some s') :
    s.teardown.work = 4 ∧ s' = { s with teardown := .takingStdin owner } := by
  unfold startTeardown? at h
  split at h
  · rename_i hdown
    cases h
    exact ⟨by simp [hdown, Teardown.work], rfl⟩
  · cases h

theorem isBefore_endExitWatch {s : Session} (h : s.exitWatch = .waiting) :
    s.endExitWatch.IsBefore s := by
  unfold endExitWatch
  split
  · rename_i hstart
    obtain ⟨hdown, rfl⟩ := startTeardown?_eq_some hstart
    refine .inr ⟨rfl, ?_⟩
    simp only [work, h, hdown, ExitWatch.work]
    simp only [Teardown.work]
    omega
  · exact .inr ⟨rfl, by simp [work, ExitWatch.work, h]⟩

theorem isBefore_of_goExitWatch {s s' : Session} (h : s.goExitWatch = some s')
    (hwatch : s.exitWatch = .waiting) : s'.IsBefore s := by
  obtain ⟨exit, -, rfl⟩ := Option.map_eq_some_iff.mp h
  refine .inr ⟨rfl, ?_⟩
  simp only [work, endWith, stopWork_endWith, ExitWatch.work, hwatch]
  omega

theorem isBefore_of_stepExitWatch {s s' : Session} (h : s.stepExitWatch = some s') :
    s'.IsBefore s := by
  unfold stepExitWatch at h
  split at h
  · cases h
  · cases h
  · rename_i hwatch
    exact isBefore_of_race h (fun _ => isBefore_endExitWatch hwatch)
      fun _ hgoing => isBefore_of_goExitWatch hgoing hwatch
  · rename_i hwatch
    split at h
    · cases h
      exact .inr ⟨rfl, by simp [work, ExitWatch.work, hwatch]⟩
    · cases h

theorem isBefore_of_stepCloser {s s' : Session} (h : s.stepCloser = some s') : s'.IsBefore s := by
  unfold stepCloser at h
  split at h
  · cases h
  · cases h
  all_goals
    rename_i hcloser
    split at h
    · cases h
      try exact .inr ⟨rfl, by simp [work, Closer.work, hcloser]⟩
    · cases h
      try exact .inr ⟨rfl, by simp [work, Closer.work, hcloser]⟩

theorem isBefore_finishTeardown {s : Session} (owner : Owner) (result : Except ShellFault Unit)
    (h : 0 < s.teardown.work) : (s.finishTeardown owner result).IsBefore s := by
  unfold finishTeardown answerOwner
  split <;>
  · refine .inr ⟨rfl, ?_⟩
    simp only [work]
    simp only [Teardown.work] at h ⊢
    omega

theorem isBefore_of_stepTeardown {s s' : Session} (h : s.stepTeardown = some s') :
    s'.IsBefore s := by
  unfold stepTeardown at h
  split at h
  · cases h
  · cases h
  · rename_i hdown
    split at h
    · cases h
    · cases h
      exact .inr ⟨rfl, by simp [work, Teardown.work, hdown]⟩
  · rename_i hdown
    split at h
    · cases h
    · cases h
      exact .inr ⟨rfl, by simp [work, Teardown.work, hdown]⟩
  · rename_i hdown
    have hpos : 0 < s.teardown.work := by simp [hdown, Teardown.work]
    split at h
    · cases h
    · cases h
      exact isBefore_finishTeardown _ _ hpos
    · cases h
      exact isBefore_finishTeardown _ _ hpos

theorem isBefore_of_stepRunner {s s' : Session} (h : s.stepRunner = some s') : s'.IsBefore s := by
  unfold stepRunner at h
  split at h
  · cases h
  · cases h
  · rename_i hrunner
    split at h
    · split at h
      · rename_i hstart
        obtain ⟨hdown, rfl⟩ := startTeardown?_eq_some hstart
        cases h
        refine .inr ⟨rfl, ?_⟩
        simp only [work, hrunner, hdown, Runner.work]
        simp only [Teardown.work]
        omega
      · cases h
        exact .inr ⟨rfl, by simp [work, finish, Runner.work, hrunner]⟩
    · cases h
  · rename_i hrunner
    split at h
    · cases h
      exact .inr ⟨rfl, by simp [work, finish, Runner.work, hrunner]⟩
    · cases h

/-- Every step of a task brings the session nearer to rest. -/
theorem isBefore_of_stepOf {s s' : Session} {task : Task} (h : s.stepOf task = some s') :
    s'.IsBefore s := by
  cases task with
  | stop => exact isBefore_of_stepStop h
  | relay => exact isBefore_of_stepRelay h
  | pump => exact isBefore_of_stepPump h
  | watchdog => exact isBefore_of_stepWatchdog h
  | exitWatch => exact isBefore_of_stepExitWatch h
  | closer => exact isBefore_of_stepCloser h
  | teardown => exact isBefore_of_stepTeardown h
  | runner => exact isBefore_of_stepRunner h

/-- Every step brings the session nearer to rest. -/
theorem isBefore_of_step {s s' : Session} (h : s.step = some s') : s'.IsBefore s := by
  obtain ⟨task, _, htask⟩ := List.exists_of_findSome?_eq_some h
  exact isBefore_of_stepOf htask

/-- Lets the tasks take turns until none of them has a step. -/
def settle (s : Session) : Session :=
  match _ : s.step with
  | none => s
  | some s' => s'.settle
termination_by (s.inbox.length, s.work)
decreasing_by
  rename_i h
  exact Prod.lex_def.2 (isBefore_of_step h)

/-- A session that has settled is at rest. -/
theorem step_settle (s : Session) : s.settle.step = none := by
  fun_induction settle s with
  | case1 s h => exact h
  | case2 s s' h ih => exact ih

end Session

end RemoteShell
