import RemoteShell.Proofs.Output.Account

/-!
# The capture after the stop

A pump that has to stop captures the buffer once more, and the write of this capture
is the only one that it still starts (`started_add_left_le`). When it ends well, all
that was written before this capture has been accepted (`delivered_of_turn`).
-/

namespace RemoteShell

namespace Pump

/-- Tells whether the next step of a pump captures the buffer. -/
def isWaiting : Pump → Bool
  | waiting _ => true
  | idle | writing .. | lastWriting _ | finished .. => false

theorem isWaiting_of_write? {pump : Pump} {write : Write} (h : pump.write? = some write) :
    pump.isWaiting = false := by
  cases pump <;> simp_all [write?, isWaiting]

/-- How many captures after a stop are still to come. -/
def capturesLeft (pump : Pump) : Nat := if pump.isLast then 0 else 1

/-- Tells whether a pump has captured the buffer for the last time and has not failed. -/
def goesWell : Pump → Bool
  | lastWriting _ | finished (.ok ()) _ => true
  | idle | waiting _ | writing .. | finished (.error _) _ => false

variable {period now : Nat} {isStopping : Bool} {pump pump' : Pump} {outlet outlet' : Outlet}

/-- A capture after the stop is the last one, and no other step of a pump that has to
stop is like it. -/
theorem last_of_turn (h : Turn period now true outlet pump pump' outlet')
    (hwaiting : pump.isWaiting = true) : pump'.goesWell = true ∧ pump.isLast = false := by
  cases h <;> simp_all [isWaiting, goesWell, isLast]

/-- No step leads back from the last capture. -/
theorem isLast_mono_of_turn (h : Turn period now isStopping outlet pump pump' outlet')
    (hlast : pump.isLast = true) : pump'.isLast = true := by
  cases h <;> simp_all [isLast]

/-- A pump that goes well either went well before or has made its last capture now. -/
theorem goesWell_of_turn (h : Turn period now isStopping outlet pump pump' outlet')
    (hwell : pump'.goesWell = true) :
    pump.goesWell = true ∨ pump.isWaiting = true ∧ isStopping = true := by
  cases h <;> simp_all [goesWell, isWaiting]

/-- A pump that has to stop starts no further write at a tick. -/
theorem writing_of_turn {write : Write} {due : Nat}
    (h : Turn period now true outlet pump (writing write due) outlet') :
    ∃ old, pump = writing old due ∧ old.data = write.data := by
  cases h with
  | tick hgoing => cases hgoing
  | heldUp => exact ⟨_, rfl, rfl⟩

theorem isLast_of_goesWell (h : pump.goesWell = true) : pump.isLast = true := by
  cases pump <;> simp_all [goesWell, isLast]

end Pump

/-- How many writes have been started: those that the client has accepted, and the one
that it has not. -/
def writesStarted (outlet : Outlet) (pump : Pump) : Nat :=
  (frames outlet.log).length + if pump.inHand = [] then 0 else 1

variable {period now : Nat} {isStopping : Bool} {pump pump' : Pump} {outlet outlet' : Outlet}

/-- A pump that has to stop starts a write with its last capture only. -/
theorem started_add_left_le (h : Pump.Turn period now true outlet pump pump' outlet')
    (haccount : Accounted outlet pump) :
    writesStarted outlet' pump' + pump'.capturesLeft ≤
      writesStarted outlet pump + pump.capturesLeft := by
  have hwrite := haccount.write_ne_nil
  cases h <;> simp_all [writesStarted, Pump.capturesLeft, Pump.inHand, Pump.isLast, Pump.write?,
    Outlet.capture, ClientEvent.frame?]

/-- While a pump goes well, all that was written before its last capture has been accepted
or is in its hand. -/
theorem delivered_of_turn {count : Nat}
    (h : Pump.Turn period now isStopping outlet pump pump' outlet')
    (haccount : Accounted outlet pump) (hcount : count ≤ outlet.buffer.emitted.length)
    (hdelivered : pump.goesWell = true → count ≤ (received outlet.log ++ pump.inHand).length)
    (hwell : pump'.goesWell = true) :
    count ≤ (received outlet'.log ++ pump'.inHand).length := by
  have hbalance := congrArg List.length haccount.balance
  cases h with
  | lastEmpty _ hempty =>
    simp only [hempty, Pump.inHand, List.append_nil] at hbalance ⊢
    omega
  | last =>
    simp only [Pump.inHand, List.append_nil, List.length_append, Outlet.capture] at hbalance ⊢
    omega
  | lastAccepted =>
    simpa [ClientEvent.frame?, Pump.inHand, Pump.goesWell] using hdelivered
  | lastHeldUp =>
    simpa [ClientEvent.frame?, Pump.inHand, Pump.goesWell] using hdelivered
  | _ => simp [Pump.goesWell] at hwell

/-- What the client has seen stays. -/
theorem mem_log_of_turn {event : ClientEvent}
    (h : Pump.Turn period now isStopping outlet pump pump' outlet')
    (hevent : event ∈ outlet.log) : event ∈ outlet'.log := by
  cases h <;> simp [Outlet.record, Outlet.capture, hevent]

/-- A pump leaves it to others to close the link. -/
theorem closed_mem_of_turn (h : Pump.Turn period now isStopping outlet pump pump' outlet')
    (hclosed : .closed ∈ outlet'.log) : .closed ∈ outlet.log := by
  cases h <;> simpa [Outlet.record, Outlet.capture] using hclosed

/-- A pump that fails has met a failing client, and its bytes are lost. -/
theorem writeFailed_mem_of_turn {error : ClientFault} {lost : List UInt8}
    (h : Pump.Turn period now isStopping outlet pump (.finished (.error error) lost) outlet') :
    outlet.writing = .failing error ∧ .writeFailed lost ∈ outlet'.log := by
  cases h with
  | failed hfailing | lastFailed hfailing => exact ⟨hfailing, by simp [Outlet.record]⟩

end RemoteShell
