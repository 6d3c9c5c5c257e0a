import RemoteShell.Proofs.Output.PumpTurn

/-!
# Every byte is accounted for

Each byte that the shell has written is in one of three places: the client has
accepted it, it has left the buffer with the one write that has not been accepted,
or it still waits in the buffer. In this order the three make up the output. Every
step of a pump keeps the account (`Accounted.turn`), and so does giving a write up
(`Accounted.giveUp`).
-/

namespace RemoteShell

namespace ClientEvent

/-- The bytes of a write, whatever became of it. -/
def data? : ClientEvent → Option (List UInt8)
  | wrote data | writeFailed data | writeStalled data => some data
  | closed => none

/-- The bytes of a write that was accepted. -/
def frame? : ClientEvent → Option (List UInt8)
  | wrote data => some data
  | writeFailed _ | writeStalled _ | closed => none

end ClientEvent

/-- The frames that a client has accepted. -/
def frames (log : List ClientEvent) : List (List UInt8) := log.filterMap ClientEvent.frame?

/-- All bytes that a client has accepted. -/
def received (log : List ClientEvent) : List UInt8 := (frames log).flatten

/-- The bytes of every write that a client has seen, in the order of the events. -/
def attempts (log : List ClientEvent) : List (List UInt8) := log.filterMap ClientEvent.data?

theorem received_append (log later : List ClientEvent) :
    received (log ++ later) = received log ++ received later := by
  simp [received, frames]

section record

variable (outlet : Outlet) (event : ClientEvent)

@[simp] theorem buffer_record : (outlet.record event).buffer = outlet.buffer := rfl

@[simp] theorem frames_record :
    frames (outlet.record event).log = frames outlet.log ++ event.frame?.toList := by
  cases hframe : event.frame? <;> simp [Outlet.record, frames, hframe]

@[simp] theorem received_record :
    received (outlet.record event).log = received outlet.log ++ event.frame?.getD [] := by
  cases hframe : event.frame? <;> simp [received, hframe]

@[simp] theorem attempts_record :
    attempts (outlet.record event).log = attempts outlet.log ++ event.data?.toList := by
  cases hdata : event.data? <;> simp [Outlet.record, attempts, hdata]

end record

/-- The account of an outlet and its pump. -/
structure Accounted (outlet : Outlet) (pump : Pump) : Prop where
  balance : outlet.buffer.emitted =
    received outlet.log ++ pump.inHand ++ outlet.buffer.pending
  /-- Nothing is written without a byte in it. -/
  substance : ∀ data ∈ attempts outlet.log, data ≠ []
  write_ne_nil : ∀ write ∈ pump.write?, write.data ≠ []
  /-- A pump that has ended well has lost nothing. -/
  lost_eq_nil : ∀ lost, pump = .finished (.ok ()) lost → lost = []
  /-- A failed write was the last one, and its bytes are the ones that are lost. -/
  failure : ∀ data, .writeFailed data ∈ outlet.log →
    ∃ error, pump = .finished (.error error) data

/-- No step of a pump makes output. -/
theorem Pump.emitted_of_turn {period now : Nat} {isStopping : Bool} {pump pump' : Pump}
    {outlet outlet' : Outlet} (h : Pump.Turn period now isStopping outlet pump pump' outlet') :
    outlet'.buffer.emitted = outlet.buffer.emitted := by
  cases h <;> rfl

/-- No step of a pump counts output. -/
theorem Pump.total_of_turn {period now : Nat} {isStopping : Bool} {pump pump' : Pump}
    {outlet outlet' : Outlet} (h : Pump.Turn period now isStopping outlet pump pump' outlet') :
    outlet'.buffer.total = outlet.buffer.total := by
  cases h <;> rfl

namespace Accounted

variable {period now : Nat} {isStopping : Bool} {pump pump' : Pump} {outlet outlet' : Outlet}

theorem fresh : Accounted .fresh .idle where
  balance := rfl
  substance := by simp [Outlet.fresh, attempts]
  write_ne_nil := by simp [Pump.write?]
  lost_eq_nil := by simp
  failure := by simp [Outlet.fresh]

/-- What the shell writes waits in the buffer first. -/
theorem emit (h : Accounted outlet pump) (bytes : List UInt8) :
    Accounted (outlet.emit bytes) pump where
  balance := by
    simp only [Outlet.emit, OutputBuffer.emit, h.balance, List.append_assoc]
  substance := h.substance
  write_ne_nil := h.write_ne_nil
  lost_eq_nil := h.lost_eq_nil
  failure := h.failure

/-- A pump with nothing in hand can be put in place of another such pump. -/
theorem idle_to_waiting (h : Accounted outlet .idle) (due : Nat) :
    Accounted outlet (.waiting due) where
  balance := h.balance
  substance := h.substance
  write_ne_nil := by simp [Pump.write?]
  lost_eq_nil := by simp
  failure := fun data hdata => by simpa using h.failure data hdata

/-- As long as the pump has not failed, the client has seen no failed write. -/
theorem no_failure (h : Accounted outlet pump)
    (hpump : ∀ error lost, pump ≠ .finished (.error error) lost) (data : List UInt8) :
    .writeFailed data ∉ outlet.log := by
  intro hdata
  obtain ⟨error, hfinished⟩ := h.failure data hdata
  exact hpump error data hfinished

/-- A capture moves what waits from the buffer to a new write. -/
theorem capture {due : Nat} (h : Accounted outlet (.waiting due)) {pump : Pump}
    (hwrite : pump.write? = some ⟨outlet.buffer.pending, false⟩)
    (hhand : pump.inHand = outlet.buffer.pending) (hpending : outlet.buffer.pending ≠ []) :
    Accounted outlet.capture.2 pump where
  balance := by
    have hbalance := h.balance
    simp only [Pump.inHand, List.append_nil] at hbalance
    simpa [hhand, Outlet.capture, OutputBuffer.capture] using hbalance
  substance := h.substance
  write_ne_nil := by simpa [hwrite] using hpending
  lost_eq_nil := by
    rintro lost rfl
    simp [Pump.write?] at hwrite
  failure := fun data hdata => absurd hdata (h.no_failure (by simp) data)

/-- What becomes of a write moves its bytes to the client or leaves them in hand. -/
theorem attempt (h : Accounted outlet pump) {write : Write} (hwrite : pump.write? = some write)
    {event : ClientEvent} (hdata : event.data? = some write.data)
    (hbalance : received (outlet.record event).log ++ pump'.inHand =
      received outlet.log ++ pump.inHand)
    (hwrite' : ∀ next ∈ pump'.write?, next.data = write.data)
    (hlost : ∀ lost, pump' = .finished (.ok ()) lost → lost = [])
    (hfailure : ∀ data, event = .writeFailed data →
      ∃ error, pump' = .finished (.error error) data) :
    Accounted (outlet.record event) pump' where
  balance := by rw [buffer_record, hbalance, h.balance]
  substance := by
    rw [attempts_record, hdata]
    intro data hmem
    rcases List.mem_append.mp hmem with hold | hnew
    · exact h.substance data hold
    · rw [List.mem_singleton.mp hnew]
      exact h.write_ne_nil write hwrite
  write_ne_nil := fun next hnext => by
    rw [hwrite' next hnext]
    exact h.write_ne_nil write hwrite
  lost_eq_nil := hlost
  failure := by
    intro data hmem
    rcases List.mem_append.mp hmem with hold | hnew
    · obtain ⟨error, rfl⟩ := h.failure data hold
      simp [Pump.write?] at hwrite
    · exact hfailure data (List.mem_singleton.mp hnew).symm

/-- Every step of a pump keeps the account. -/
theorem turn (h : Accounted outlet pump)
    (hturn : Pump.Turn period now isStopping outlet pump pump' outlet') :
    Accounted outlet' pump' := by
  cases hturn with
  | tickEmpty _ _ hempty =>
    exact ⟨h.balance, h.substance, by simp [Pump.write?], by simp,
      fun data hdata => absurd hdata (h.no_failure (by simp) data)⟩
  | lastEmpty _ hempty =>
    exact ⟨h.balance, h.substance, by simp [Pump.write?], by simp,
      fun data hdata => absurd hdata (h.no_failure (by simp) data)⟩
  | tick _ _ hpending => exact h.capture rfl rfl hpending
  | last _ hpending => exact h.capture rfl rfl hpending
  | accepted | lastAccepted =>
    refine h.attempt rfl rfl ?_ ?_ ?_ ?_ <;> simp [ClientEvent.frame?, Pump.inHand, Pump.write?]
  | failed | lastFailed =>
    refine h.attempt rfl rfl ?_ ?_ ?_ ?_ <;> simp [ClientEvent.frame?, Pump.inHand, Pump.write?]
  | heldUp | lastHeldUp =>
    refine h.attempt rfl rfl ?_ ?_ ?_ ?_ <;> simp [ClientEvent.frame?, Pump.inHand, Pump.write?]

/-- Giving up a write leaves its bytes in hand. -/
theorem giveUp (h : Accounted outlet pump) {write : Write} (hwrite : pump.write? = some write)
    (error : ClientFault) : Accounted outlet (.finished (.error error) write.data) where
  balance := by
    rw [h.balance, Pump.inHand_of_write? hwrite]
    rfl
  substance := h.substance
  write_ne_nil := by simp [Pump.write?]
  lost_eq_nil := by simp
  failure := by
    intro data hdata
    obtain ⟨_, rfl⟩ := h.failure data hdata
    simp [Pump.write?] at hwrite

end Accounted

end RemoteShell
