import RemoteShell.Session.Work

/-!
# The clock of a session

Time passes from one timer to the next, and at each of them the session settles.
No step takes time (`now_of_stepOf`).
-/

namespace RemoteShell.Session

theorem now_of_race {s s' ended : Session} {isEnding : Bool} {going : Option Session}
    (h : s.race isEnding ended going = some s') (hended : ended.now = s.now)
    (hgoing : ∀ s', going = some s' → s'.now = s.now) : s'.now = s.now := by
  rcases race_eq_some_iff.mp h with ⟨-, -, rfl⟩ | ⟨-, hstep⟩
  · exact hended
  · exact hgoing s' hstep

theorem now_of_stepStop {s s' : Session} (h : s.stepStop = some s') : s'.now = s.now := by
  unfold stepStop at h
  split at h <;> cases h
  rfl

theorem now_receive (s : Session) (frame : Arrival) : (s.receive frame).now = s.now := by
  unfold receive offer
  split
  · split
    case h_2 => split <;> rfl
    all_goals rfl
  · split <;> rfl
  all_goals rfl

theorem now_of_goRelay {s s' : Session} (h : s.goRelay = some s') : s'.now = s.now := by
  unfold goRelay at h
  split at h
  · cases h
  · cases h
  · split at h <;> cases h
    rw [now_receive]
  · split at h <;> cases h
    rfl
  · obtain ⟨⟨shell, relay⟩, -, rfl⟩ := Option.map_eq_some_iff.mp h
    rfl
  · split at h <;> cases h
    rfl

theorem now_of_stepRelay {s s' : Session} (h : s.stepRelay = some s') : s'.now = s.now := by
  unfold stepRelay at h
  split at h
  · cases h
  · cases h
  all_goals exact now_of_race h rfl fun _ => now_of_goRelay

theorem now_withPump (s : Session) (pump : Pump) : (s.withPump pump).now = s.now := by
  unfold withPump
  split <;> rfl

theorem now_of_stepPump {s s' : Session} (h : s.stepPump = some s') : s'.now = s.now := by
  refine now_of_race h (now_withPump _ _) fun s' hgoing => ?_
  obtain ⟨⟨pump, outlet⟩, -, rfl⟩ := Option.map_eq_some_iff.mp hgoing
  exact now_withPump _ _

theorem now_of_goWatchdog {s s' : Session} (h : s.goWatchdog = some s') : s'.now = s.now := by
  unfold goWatchdog at h
  (repeat' split at h) <;> cases h <;> rfl

theorem now_of_stepWatchdog {s s' : Session} (h : s.stepWatchdog = some s') : s'.now = s.now := by
  unfold stepWatchdog at h
  split at h
  · cases h
  · cases h
  all_goals exact now_of_race h rfl fun _ => now_of_goWatchdog

theorem now_of_startTeardown? {s s' : Session} {owner : Owner}
    (h : s.startTeardown? owner = some s') : s'.now = s.now := by
  rw [(startTeardown?_eq_some h).2]

theorem now_endExitWatch (s : Session) : s.endExitWatch.now = s.now := by
  unfold endExitWatch
  split
  · rename_i hstart
    exact (now_of_startTeardown? hstart :)
  · rfl

theorem now_of_stepExitWatch {s s' : Session} (h : s.stepExitWatch = some s') :
    s'.now = s.now := by
  unfold stepExitWatch at h
  split at h
  · cases h
  · cases h
  · refine now_of_race h (now_endExitWatch s) fun s' hgoing => ?_
    obtain ⟨exit, -, rfl⟩ := Option.map_eq_some_iff.mp hgoing
    rfl
  · split at h <;> cases h
    rfl

theorem now_of_stepCloser {s s' : Session} (h : s.stepCloser = some s') : s'.now = s.now := by
  unfold stepCloser at h
  (repeat' split at h) <;> cases h <;> rfl

theorem now_finishTeardown (s : Session) (owner : Owner) (result : Except ShellFault Unit) :
    (s.finishTeardown owner result).now = s.now := by
  cases owner <;> rfl

theorem now_of_stepTeardown {s s' : Session} (h : s.stepTeardown = some s') : s'.now = s.now := by
  unfold stepTeardown at h
  split at h
  · cases h
  · cases h
  · split at h <;> cases h
    rfl
  · split at h <;> cases h
    rfl
  · split at h <;> cases h <;> rw [now_finishTeardown]

theorem now_of_stepRunner {s s' : Session} (h : s.stepRunner = some s') : s'.now = s.now := by
  unfold stepRunner at h
  split at h
  · cases h
  · cases h
  · split at h
    · split at h
      · rename_i hstart
        cases h
        exact (now_of_startTeardown? hstart :)
      · cases h
        rfl
    · cases h
  · split at h <;> cases h
    rfl

/-- A step takes no time. -/
theorem now_of_stepOf {s s' : Session} {task : Task} (h : s.stepOf task = some s') :
    s'.now = s.now := by
  cases task with
  | stop => exact now_of_stepStop h
  | relay => exact now_of_stepRelay h
  | pump => exact now_of_stepPump h
  | watchdog => exact now_of_stepWatchdog h
  | exitWatch => exact now_of_stepExitWatch h
  | closer => exact now_of_stepCloser h
  | teardown => exact now_of_stepTeardown h
  | runner => exact now_of_stepRunner h

/-- Settling takes no time. -/
theorem now_settle (s : Session) : s.settle.now = s.now := by
  fun_induction settle s with
  | case1 => rfl
  | case2 s s' h ih =>
    obtain ⟨task, _, htask⟩ := List.exists_of_findSome?_eq_some h
    rw [ih, now_of_stepOf htask]

/-- The instants that tasks wait for. -/
def timers (s : Session) : List Nat :=
  let pump := match s.pump with
    | .waiting due => [due]
    | .writing .. | .lastWriting .. => s.drainDeadline?.toList
    | _ => []
  let watchdog := match s.watchdog with
    | .waiting due _ => [due]
    | _ => []
  let closer := match s.closer with
    | .closing deadline => [deadline]
    | _ => []
  pump ++ watchdog ++ closer

/-- The next instant that a task waits for. -/
def nextTimer? (s : Session) : Option Nat := (s.timers.filter (s.now < ·)).min?

/-- Moves the clock. -/
def setNow (s : Session) (now : Nat) : Session := { s with now }

/-- Lets time pass until the given instant. -/
def advanceTo (s : Session) (target : Nat) : Session :=
  match s.nextTimer? with
  | none => (s.setNow target).settle
  | some due =>
    if _ : s.now < due ∧ due ≤ target then advanceTo (s.setNow due).settle target
    else (s.setNow target).settle
termination_by target - s.now
decreasing_by
  rw [now_settle]
  simp only [setNow]
  omega

/-- Lets time pass. -/
def advance (s : Session) (length : Nat) : Session := s.advanceTo (s.now + length)

end RemoteShell.Session
