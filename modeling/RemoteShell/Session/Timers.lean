import RemoteShell.Session.Options

/-!
# Starting the timers of a session

A session starts two timers when it is run: one for the output, which ticks at once, and
one for the probes, which ticks after its period. A timer needs a period that is not empty
and a first tick that the clock can count.
-/

namespace RemoteShell

/-- When the timers of a session tick first. -/
structure Timers where
  flush : Nat
  probe : Nat
  deriving DecidableEq, Repr

/-- The timers of a session that is run at an instant of the clock; none if one of them
cannot be started. -/
def Options.startTimers? (options : Options) (now : Nat) : Option Timers :=
  if options.flushInterval = 0 ∨ options.keepaliveInterval = 0 then none
  else (later? now options.keepaliveInterval).map fun probe => ⟨now, probe⟩

/-- Timers that start tick at once and after the period of the probes. -/
theorem Options.eq_of_startTimers? {options : Options} {now : Nat} {timers : Timers}
    (h : options.startTimers? now = some timers) :
    timers = ⟨now, now + options.keepaliveInterval⟩ := by
  unfold startTimers? later? at h
  split at h
  · cases h
  · split at h <;> cases h
    rfl

/-- With periods that are not empty only the first probe decides whether the timers start. -/
theorem Options.startTimers?_clamped_isSome_iff (options : Options) (now : Nat) :
    (options.clamped.startTimers? now).isSome ↔
      now + options.clamped.keepaliveInterval < seconds secondsOfClock := by
  have hshortest : 0 < shortest := by decide
  have hflush : 0 < options.clamped.flushInterval :=
    Nat.lt_of_lt_of_le hshortest (Nat.le_max_right _ _)
  have hprobe : 0 < options.clamped.keepaliveInterval :=
    Nat.lt_of_lt_of_le hshortest (Nat.le_max_right _ _)
  have hperiods :
      ¬ (options.clamped.flushInterval = 0 ∨ options.clamped.keepaliveInterval = 0) := by
    omega
  rw [startTimers?, if_neg hperiods, later?]
  split <;> simp [*]

end RemoteShell
