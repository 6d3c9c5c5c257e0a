/-!
# Time

Instants and lengths of time are natural numbers of nanoseconds. `later?` says
which instants a clock can count, and `nextDue` is the cadence of everything that
happens again and again.
-/

namespace RemoteShell

/-- The nanoseconds in a millisecond. -/
def nanosPerMilli : Nat := 1000000

/-- The nanoseconds in a second. -/
def nanosPerSecond : Nat := 1000000000

/-- Whole milliseconds as a length of time. -/
def millis (n : Nat) : Nat := n * nanosPerMilli

/-- Whole seconds as a length of time. -/
def seconds (n : Nat) : Nat := n * nanosPerSecond

/-- The seconds after which a clock ends: it counts them in 64 bits with a sign. -/
def secondsOfClock : Nat := 9223372036854775808

/-- The instant that comes some time after another one; none if the clock has ended by then. -/
def later? (instant length : Nat) : Option Nat :=
  if instant + length < seconds secondsOfClock then some (instant + length) else none

/-- How late a tick may be and still keep the schedule. -/
def tickTolerance : Nat := millis 5

/-- When the tick after one that was due and comes now is due. A tick that is not
much too late leaves the schedule as it is; a later one starts it anew. A period
is never empty. -/
def nextDue (period due now : Nat) : Nat :=
  (if due + tickTolerance < now then now else due) + max period 1

/-- A tick that comes when it is due is followed by a later one. -/
theorem lt_nextDue (period : Nat) {due now : Nat} (_ : due ≤ now) :
    due < nextDue period due now := by
  unfold nextDue
  split <;> omega

/-- Between two ticks that are due at least a period goes by. -/
theorem le_nextDue (period due now : Nat) : due + period ≤ nextDue period due now := by
  unfold nextDue
  split <;> omega

/-- After a tick no more than a period goes by until the next one is due. -/
theorem nextDue_le {period due now : Nat} (hperiod : 0 < period) (hdue : due ≤ now) :
    nextDue period due now ≤ now + period := by
  unfold nextDue
  split <;> omega

end RemoteShell
