import RemoteShell.Output.Pump

/-!
# What a pump can do

Every step of a pump is of one of ten kinds. Two are captures of the buffer at a
tick, two are captures after the stop, and in each pair the buffer may turn out to
be empty. The others say what became of the write on its way.
-/

namespace RemoteShell

namespace Pump

/-- What a pump has in hand while a write is on its way. -/
theorem inHand_of_write? {pump : Pump} {write : Write} (h : pump.write? = some write) :
    pump.inHand = write.data := by
  cases pump <;> simp_all [write?, inHand]

/-- Tells whether a pump has captured the buffer for the last time. -/
def isLast : Pump → Bool
  | lastWriting _ | finished .. => true
  | idle | waiting _ | writing .. => false

/-- The kinds of steps that a pump can take. -/
inductive Turn (period now : Nat) (isStopping : Bool) (outlet : Outlet) :
    Pump → Pump → Outlet → Prop
  | tickEmpty {due : Nat} (hgoing : isStopping = false) (hdue : due ≤ now)
      (hempty : outlet.buffer.pending = []) :
      Turn period now isStopping outlet (waiting due) (waiting (nextDue period due now)) outlet
  | tick {due : Nat} (hgoing : isStopping = false) (hdue : due ≤ now)
      (hpending : outlet.buffer.pending ≠ []) :
      Turn period now isStopping outlet (waiting due)
        (writing ⟨outlet.buffer.pending, false⟩ (nextDue period due now)) outlet.capture.2
  | lastEmpty {due : Nat} (hstop : isStopping = true) (hempty : outlet.buffer.pending = []) :
      Turn period now isStopping outlet (waiting due) (finished (.ok ()) []) outlet
  | last {due : Nat} (hstop : isStopping = true) (hpending : outlet.buffer.pending ≠ []) :
      Turn period now isStopping outlet (waiting due)
        (lastWriting ⟨outlet.buffer.pending, false⟩) outlet.capture.2
  | accepted {write : Write} {due : Nat} (hprompt : outlet.writing = .prompt) :
      Turn period now isStopping outlet (writing write due) (waiting due)
        (outlet.record (.wrote write.data))
  | lastAccepted {write : Write} (hprompt : outlet.writing = .prompt) :
      Turn period now isStopping outlet (lastWriting write) (finished (.ok ()) [])
        (outlet.record (.wrote write.data))
  | failed {write : Write} {due : Nat} {error : ClientFault}
      (hfailing : outlet.writing = .failing error) :
      Turn period now isStopping outlet (writing write due) (finished (.error error) write.data)
        (outlet.record (.writeFailed write.data))
  | lastFailed {write : Write} {error : ClientFault} (hfailing : outlet.writing = .failing error) :
      Turn period now isStopping outlet (lastWriting write) (finished (.error error) write.data)
        (outlet.record (.writeFailed write.data))
  | heldUp {write : Write} {due : Nat} (hstalled : outlet.writing = .stalled)
      (hnew : write.isHeldUp = false) :
      Turn period now isStopping outlet (writing write due)
        (writing { write with isHeldUp := true } due) (outlet.record (.writeStalled write.data))
  | lastHeldUp {write : Write} (hstalled : outlet.writing = .stalled)
      (hnew : write.isHeldUp = false) :
      Turn period now isStopping outlet (lastWriting write)
        (lastWriting { write with isHeldUp := true }) (outlet.record (.writeStalled write.data))

end Pump

/-- What became of a write, and how the client saw it. -/
theorem Write.attempt_eq_some {write : Write} {outlet outlet' : Outlet} {attempt : Attempt}
    (h : write.attempt outlet = some (attempt, outlet')) :
    (outlet.writing = .prompt ∧ attempt = .accepted ∧
      outlet' = outlet.record (.wrote write.data)) ∨
    (∃ error, outlet.writing = .failing error ∧ attempt = .failed error ∧
      outlet' = outlet.record (.writeFailed write.data)) ∨
    (outlet.writing = .stalled ∧ write.isHeldUp = false ∧ attempt = .heldUp ∧
      outlet' = outlet.record (.writeStalled write.data)) := by
  unfold Write.attempt at h
  split at h
  case h_1 hprompt =>
    cases h
    exact .inl ⟨hprompt, rfl, rfl⟩
  case h_2 error hfailing =>
    cases h
    exact .inr (.inl ⟨error, hfailing, rfl, rfl⟩)
  case h_3 hstalled =>
    split at h
    · cases h
    · rename_i hnew
      cases h
      exact .inr (.inr ⟨hstalled, by simpa using hnew, rfl, rfl⟩)

/-- An outlet without output is left as it is when it is captured. -/
theorem Outlet.capture_of_empty {outlet : Outlet} (h : outlet.buffer.pending = []) :
    outlet.capture = ([], outlet) := by
  obtain ⟨⟨pending, emitted⟩, writing, log⟩ := outlet
  cases h
  rfl

namespace Pump

variable {period now : Nat} {isStopping : Bool} {pump pump' : Pump} {outlet outlet' : Outlet}

theorem tick_eq (due : Nat) (outlet : Outlet) :
    tick due outlet = if outlet.buffer.pending = [] then (waiting due, outlet)
      else (writing ⟨outlet.buffer.pending, false⟩ due, outlet.capture.2) := by
  split
  · rename_i hempty
    simp only [tick, Outlet.capture_of_empty hempty]
  · rename_i hpending
    unfold tick
    split
    · rename_i outlet' hcapture
      exact absurd (congrArg Prod.fst hcapture) hpending
    · rename_i data outlet' _ hcapture
      obtain ⟨rfl, rfl⟩ : outlet.buffer.pending = data ∧ outlet.capture.2 = outlet' :=
        ⟨congrArg Prod.fst hcapture, congrArg Prod.snd hcapture⟩
      rfl

theorem drain_eq (outlet : Outlet) :
    drain outlet = if outlet.buffer.pending = [] then (finished (.ok ()) [], outlet)
      else (lastWriting ⟨outlet.buffer.pending, false⟩, outlet.capture.2) := by
  split
  · rename_i hempty
    simp only [drain, Outlet.capture_of_empty hempty]
  · rename_i hpending
    unfold drain
    split
    · rename_i outlet' hcapture
      exact absurd (congrArg Prod.fst hcapture) hpending
    · rename_i data outlet' _ hcapture
      obtain ⟨rfl, rfl⟩ : outlet.buffer.pending = data ∧ outlet.capture.2 = outlet' :=
        ⟨congrArg Prod.fst hcapture, congrArg Prod.snd hcapture⟩
      rfl

/-- Every step of a pump is of one of the kinds above. -/
theorem turn_of_step (h : pump.step period now isStopping outlet = some (pump', outlet')) :
    Turn period now isStopping outlet pump pump' outlet' := by
  unfold step at h
  split at h
  case h_1 => cases h
  case h_2 => cases h
  case h_3 due =>
    split at h
    · rename_i hstop
      rw [drain_eq, Option.some.injEq] at h
      split at h <;> cases h
      · exact .lastEmpty hstop ‹_›
      · exact .last hstop ‹_›
    · rename_i hgoing
      split at h
      · rename_i hdue
        rw [tick_eq, Option.some.injEq] at h
        split at h <;> cases h
        · exact .tickEmpty (by simpa using hgoing) hdue ‹_›
        · exact .tick (by simpa using hgoing) hdue ‹_›
      · cases h
  case h_4 write due =>
    simp only [Option.map_eq_some_iff, Prod.exists] at h
    obtain ⟨attempt, next, hattempt, h⟩ := h
    rcases Write.attempt_eq_some hattempt with ⟨hmode, rfl, rfl⟩ | ⟨error, hmode, rfl, rfl⟩ |
      ⟨hmode, hnew, rfl, rfl⟩ <;> cases h
    · exact .accepted hmode
    · exact .failed hmode
    · exact .heldUp hmode hnew
  case h_5 write =>
    simp only [Option.map_eq_some_iff, Prod.exists] at h
    obtain ⟨attempt, next, hattempt, h⟩ := h
    rcases Write.attempt_eq_some hattempt with ⟨hmode, rfl, rfl⟩ | ⟨error, hmode, rfl, rfl⟩ |
      ⟨hmode, hnew, rfl, rfl⟩ <;> cases h
    · exact .lastAccepted hmode
    · exact .lastFailed hmode
    · exact .lastHeldUp hmode hnew

/-- A pump that has started is never idle again. -/
theorem ne_idle_of_turn (h : Turn period now isStopping outlet pump pump' outlet') :
    pump' ≠ idle := by
  cases h <;> simp

theorem isFinished_of_turn (h : Turn period now isStopping outlet pump pump' outlet') :
    pump.isFinished = false := by
  cases h <;> rfl

theorem writing_eq_of_turn (h : Turn period now isStopping outlet pump pump' outlet') :
    outlet'.writing = outlet.writing := by
  cases h <;> rfl

/-- Only a client that refuses a write makes the pump fail. -/
theorem failing_of_turn {error : ClientFault} {lost : List UInt8}
    (h : Turn period now isStopping outlet pump (finished (.error error) lost) outlet') :
    outlet.writing = .failing error := by
  cases h <;> assumption

/-- A pump that has to wait waits for a tick, or for a write that is held up. -/
theorem step_eq_none_iff :
    pump.step period now isStopping outlet = none ↔
      pump = idle ∨ pump.isFinished ∨ (∃ due, pump = waiting due ∧ isStopping = false ∧ now < due) ∨
        ∃ write, pump.write? = some write ∧ outlet.writing = .stalled ∧ write.isHeldUp = true := by
  cases pump with
  | idle => simp [step]
  | waiting due =>
    cases isStopping <;> simp [step, isFinished, write?]
  | writing write due =>
    cases hmode : outlet.writing <;> simp [step, Write.attempt, hmode, isFinished, write?]
  | lastWriting write =>
    cases hmode : outlet.writing <;> simp [step, Write.attempt, hmode, isFinished, write?]
  | finished result lost => simp [step, isFinished]

end Pump

end RemoteShell
