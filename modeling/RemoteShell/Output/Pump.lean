import RemoteShell.Output.Outlet
import RemoteShell.Time

/-!
# The pump

The pump moves buffered output to the client at every tick, in one write that
holds all that has gathered. Once it is told to stop it captures the buffer a
last time, so that the client sees the end of the output. A failed write ends it.

Main statement: at one instant the pump can take finitely many steps
(`step_work_lt`).
-/

namespace RemoteShell

/-- The state of a pump. -/
inductive Pump where
  | idle
  /-- Nothing is on its way; the next tick is due. -/
  | waiting (due : Nat)
  /-- A write of an earlier tick is on its way. -/
  | writing (write : Write) (due : Nat)
  /-- The write after the stop is on its way. -/
  | lastWriting (write : Write)
  /-- The pump has ended. The bytes of a failed or given up write are lost. -/
  | finished (result : Except ClientFault Unit) (lost : List UInt8)
  deriving Repr

namespace Pump

/-- Tells whether a pump has ended. -/
def isFinished : Pump → Bool
  | finished .. => true
  | _ => false

/-- The write that is on its way. -/
def write? : Pump → Option Write
  | writing write _ | lastWriting write => some write
  | idle | waiting _ | finished .. => none

/-- The bytes that have left the buffer and that the client has not accepted. -/
def inHand : Pump → List UInt8
  | idle | waiting _ => []
  | writing write _ | lastWriting write => write.data
  | finished _ lost => lost

/-- Captures the buffer after the stop. -/
def drain (outlet : Outlet) : Pump × Outlet :=
  match outlet.capture with
  | ([], outlet) => (finished (.ok ()) [], outlet)
  | (data, outlet) => (lastWriting ⟨data, false⟩, outlet)

/-- Captures the buffer at a tick. -/
def tick (due : Nat) (outlet : Outlet) : Pump × Outlet :=
  match outlet.capture with
  | ([], outlet) => (waiting due, outlet)
  | (data, outlet) => (writing ⟨data, false⟩ due, outlet)

/-- The next step of a pump; none if it has to wait. -/
def step (period : Nat) (now : Nat) (isStopping : Bool) (pump : Pump) (outlet : Outlet) :
    Option (Pump × Outlet) :=
  match pump with
  | idle | finished .. => none
  | waiting due =>
    if isStopping then some (drain outlet)
    else if due ≤ now then some (tick (nextDue period due now) outlet)
    else none
  | writing write due =>
    (write.attempt outlet).map fun (attempt, outlet) =>
      match attempt with
      | .accepted => (waiting due, outlet)
      | .failed error => (finished (.error error) write.data, outlet)
      | .heldUp => (writing { write with isHeldUp := true } due, outlet)
  | lastWriting write =>
    (write.attempt outlet).map fun (attempt, outlet) =>
      match attempt with
      | .accepted => (finished (.ok ()) [], outlet)
      | .failed error => (finished (.error error) write.data, outlet)
      | .heldUp => (lastWriting { write with isHeldUp := true }, outlet)

/-- Ends a pump that the client holds up for too long. -/
def abandon (pump : Pump) (error : ClientFault) : Pump :=
  finished (.error error) pump.inHand

/-- A write that is held up has one step less to go. -/
def writeWork (write : Write) : Nat := if write.isHeldUp then 1 else 2

/-- A bound of the steps that a pump can still take at one instant. -/
def work (now : Nat) : Pump → Nat
  | idle | finished .. => 0
  | waiting due => 3 + 3 * (now + 1 - due)
  | writing write due => 3 + writeWork write + 3 * (now + 1 - due)
  | lastWriting write => writeWork write

theorem drain_work_le (now : Nat) (outlet : Outlet) : (drain outlet).1.work now ≤ 2 := by
  unfold drain
  split <;> simp [work, writeWork]

theorem tick_work_le (now due : Nat) (outlet : Outlet) :
    (tick due outlet).1.work now ≤ 5 + 3 * (now + 1 - due) := by
  unfold tick
  split <;> simp [work, writeWork]

theorem step_work_lt {period : Nat} {now : Nat} {isStopping : Bool} {pump pump' : Pump}
    {outlet outlet' : Outlet} (h : pump.step period now isStopping outlet = some (pump', outlet')) :
    pump'.work now < pump.work now := by
  unfold step at h
  split at h
  · simp at h
  · simp at h
  · rename_i due
    split at h
    · have hw := drain_work_le now outlet
      simp only [Option.some.injEq] at h
      rw [h] at hw
      simp only [work] at hw ⊢
      omega
    · split at h
      · rename_i hdue
        have hlt := lt_nextDue period hdue
        have hw := tick_work_le now (nextDue period due now) outlet
        simp only [Option.some.injEq] at h
        rw [h] at hw
        simp only [work] at hw ⊢
        omega
      · simp at h
  · rename_i write due
    simp only [Option.map_eq_some_iff, Prod.exists] at h
    obtain ⟨attempt, next, hattempt, h⟩ := h
    cases attempt with
    | accepted =>
      simp only [Prod.mk.injEq] at h
      simp only [← h.1, work, writeWork]
      split <;> omega
    | failed error =>
      simp only [Prod.mk.injEq] at h
      simp only [← h.1, work, writeWork]
      omega
    | heldUp =>
      have := Write.isHeldUp_of_attempt_heldUp hattempt
      simp only [Prod.mk.injEq] at h
      simp [← h.1, work, writeWork, this]
  · rename_i write
    simp only [Option.map_eq_some_iff, Prod.exists] at h
    obtain ⟨attempt, next, hattempt, h⟩ := h
    cases attempt with
    | accepted =>
      simp only [Prod.mk.injEq] at h
      simp only [← h.1, work, writeWork]
      split <;> omega
    | failed error =>
      simp only [Prod.mk.injEq] at h
      simp only [← h.1, work, writeWork]
      split <;> omega
    | heldUp =>
      have := Write.isHeldUp_of_attempt_heldUp hattempt
      simp only [Prod.mk.injEq] at h
      simp [← h.1, work, writeWork, this]

/-- Lets a pump go on until it has to wait. -/
def settle (period : Nat) (now : Nat) (isStopping : Bool) (pump : Pump) (outlet : Outlet) :
    Pump × Outlet :=
  match _ : pump.step period now isStopping outlet with
  | none => (pump, outlet)
  | some (pump, outlet) => settle period now isStopping pump outlet
termination_by pump.work now
decreasing_by
  rename_i h
  exact step_work_lt h

end Pump

end RemoteShell
