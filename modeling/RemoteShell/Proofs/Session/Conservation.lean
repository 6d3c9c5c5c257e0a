import RemoteShell.Proofs.Output.Account
import RemoteShell.Proofs.Session.Stage

/-!
# Output is neither lost, doubled nor reordered

Whatever the order of moves, the output of the shell is what the client has
accepted, then the bytes of the one write that it has not, then the buffer. The
account of the outlet is the invariant; the only moves outside the pump that touch
it are the emission of output and the first run.
-/

namespace RemoteShell

/-- What the shell writes with a move. -/
def Move.emission : Move → List UInt8
  | .act (.emit bytes) => bytes
  | _ => []

/-- What the shell writes in a run. -/
def emission (moves : List Move) : List UInt8 := moves.flatMap Move.emission

theorem emission_append (moves later : List Move) :
    emission (moves ++ later) = emission moves ++ emission later := List.flatMap_append

namespace Session

variable {s s' t : Session} {move : Move} {moves later : List Move}

theorem emitted_of_change (h : Change s move s') :
    s'.outlet.buffer.emitted = s.outlet.buffer.emitted ++ move.emission := by
  cases h with
  | emits bytes => rfl
  | pumpMoves hturn | pumpFails hturn =>
    rw [Pump.emitted_of_turn hturn]
    exact (List.append_nil _).symm
  | _ => exact (List.append_nil _).symm

theorem emitted_of_play? (hplay : s.play? moves = some t) :
    t.outlet.buffer.emitted = s.outlet.buffer.emitted ++ emission moves := by
  induction moves generalizing s with
  | nil =>
    cases hplay
    exact (List.append_nil _).symm
  | cons move later ih =>
    obtain ⟨s', hmake, hlater⟩ := play?_cons_eq_some hplay
    rw [ih hlater, emitted_of_change (change_of_make? hmake), List.append_assoc]
    rfl

theorem bytesOut_of_change (h : Change s move s') :
    s'.bytesOut = s.bytesOut + .ofNat move.emission.length := by
  cases h with
  | emits bytes => rfl
  | pumpMoves hturn | pumpFails hturn =>
    simp only [bytesOut, Pump.total_of_turn hturn]
    exact (UInt64.add_zero _).symm
  | _ => exact (UInt64.add_zero _).symm

/-- The count of the output goes up by what the shell writes. -/
theorem bytesOut_of_play? (hplay : s.play? moves = some t) :
    t.bytesOut = s.bytesOut + .ofNat (emission moves).length := by
  induction moves generalizing s with
  | nil =>
    cases hplay
    exact (UInt64.add_zero _).symm
  | cons move later ih =>
    obtain ⟨s', hmake, hlater⟩ := play?_cons_eq_some hplay
    have hcons : (emission (move :: later)).length =
        move.emission.length + (emission later).length := by
      simp [emission]
    rw [ih hlater, bytesOut_of_change (change_of_make? hmake), hcons, UInt64.ofNat_add,
      UInt64.add_assoc]

theorem accounted_of_change (h : Change s move s') (hreached : s.IsReached)
    (hs : Accounted s.outlet s.pump) : Accounted s'.outlet s'.pump := by
  cases h with
  | runs hfresh =>
    rw [(hreached.dormant hfresh).pump] at hs
    exact hs.idle_to_waiting s.now
  | setsWriting writing =>
    exact ⟨hs.balance, hs.substance, hs.write_ne_nil, hs.lost_eq_nil, hs.failure⟩
  | emits bytes => exact hs.emit bytes
  | pumpMoves hturn | pumpFails hturn => exact hs.turn hturn
  | pumpGivesUp hwrite => exact hs.giveUp hwrite drainTimedOut
  | closerCloses =>
    refine ⟨?_, ?_, hs.write_ne_nil, hs.lost_eq_nil, fun data hdata => hs.failure data ?_⟩
    · simpa [ClientEvent.frame?] using hs.balance
    · simpa [ClientEvent.data?] using hs.substance
    · simpa [Outlet.record] using hdata
  | _ => exact hs

theorem IsReached.accounted (h : s.IsReached) : Accounted s.outlet s.pump :=
  h.induction (P := fun s => Accounted s.outlet s.pump) (fun _ _ => .fresh)
    (fun _ _ _ hreached hchange hs => accounted_of_change hchange hreached hs)

/-- What the client has accepted is the beginning of the output. -/
theorem IsReached.received_prefix (h : s.IsReached) :
    received s.outlet.log <+: s.outlet.buffer.emitted := by
  rw [h.accounted.balance, List.append_assoc]
  exact List.prefix_append _ _

/-- A pump that has ended takes no further step, so that no further write is tried. -/
theorem finished_of_change (h : Change s move s') (hs : s.IsReached)
    (hfinished : s.pump.isFinished = true) :
    s'.pump = s.pump ∧ attempts s'.outlet.log = attempts s.outlet.log := by
  cases h with
  | runs hnone =>
    rw [(hs.dormant hnone).pump] at hfinished
    cases hfinished
  | pumpMoves hturn | pumpFails hturn =>
    cases hpump : s.pump with
    | finished result lost =>
      rw [hpump] at hturn
      cases hturn
    | _ => simp [hpump, Pump.isFinished] at hfinished
  | pumpGivesUp hwrite => cases hpump : s.pump <;> simp_all [Pump.isFinished, Pump.write?]
  | closerCloses => exact ⟨rfl, by simp [ClientEvent.data?]⟩
  | _ => exact ⟨rfl, rfl⟩

theorem finished_of_play? (hplay : s.play? moves = some t) (hs : s.IsReached)
    (hfinished : s.pump.isFinished = true) :
    t.pump = s.pump ∧ attempts t.outlet.log = attempts s.outlet.log := by
  refine hs.along (P := fun u => u.pump = s.pump ∧ attempts u.outlet.log = attempts s.outlet.log)
    ?_ hplay ⟨rfl, rfl⟩
  rintro u move u' hu hchange ⟨hpump, hattempts⟩
  obtain ⟨hpump', hattempts'⟩ := finished_of_change hchange hu (by rw [hpump, hfinished])
  exact ⟨hpump'.trans hpump, hattempts'.trans hattempts⟩

/-- What the shell has written is, in order, what the client has accepted, the bytes
of the one write that is on its way, has failed or was given up, and the buffer. So
the client has a prefix of the output, no write is empty, and a failed or given up write
is the last that is tried. The count of written bytes is that of the output in 64 bits,
and so it is right until they are used up. -/
theorem output_conserved {options : Options} {shell : Shell}
    (hplay : (ofShell options shell).play? moves = some s) :
    emission moves = received s.outlet.log ++ s.pump.inHand ++ s.outlet.buffer.pending ∧
      received s.outlet.log <+: emission moves ∧
      (∀ data ∈ attempts s.outlet.log, data ≠ []) ∧
      (∀ data, .writeFailed data ∈ s.outlet.log →
        ∃ error, s.pump = .finished (.error error) data) ∧
      (∀ error lost, s.pump = .finished (.error error) lost →
        ∀ later t, s.play? later = some t →
          t.pump = s.pump ∧ attempts t.outlet.log = attempts s.outlet.log) ∧
      s.bytesOut = .ofNat (emission moves).length ∧
      ((emission moves).length < UInt64.size → s.bytesOut.toNat = (emission moves).length) := by
  have hs : s.IsReached := ⟨options, shell, moves, hplay⟩
  have hemitted : s.outlet.buffer.emitted = emission moves := emitted_of_play? hplay
  have hbalance := hs.accounted.balance
  rw [hemitted] at hbalance
  have hcount : s.bytesOut = .ofNat (emission moves).length := by
    rw [bytesOut_of_play? hplay]
    exact UInt64.zero_add _
  refine ⟨hbalance, ?_, hs.accounted.substance, hs.accounted.failure, ?_, hcount, ?_⟩
  · rw [← hemitted]
    exact hs.received_prefix
  · intro error lost hpump later t hlater
    exact finished_of_play? hlater hs (by rw [hpump]; rfl)
  · intro hfits
    rw [hcount]
    exact UInt64.toNat_ofNat_of_lt' hfits

/-- Output from before the run is written at once, but the client holds it up, and the
write is given up in the end. -/
theorem output_conserved_held_up :
    ∃ s, (ofShell .standard .fresh).play?
        [.act (.emit [104]), .act .run, .act (.setWriting .stalled), .turn .pump, .turn .pump,
          .act (.emit [105]), .act .stop, .turn .stop, .pass 500000000, .turn .pump] = some s ∧
      s.pump.isFinished = true ∧ s.pump.inHand = [104] ∧ s.outlet.buffer.pending = [105] ∧
      [104, 105] = received s.outlet.log ++ s.pump.inHand ++ s.outlet.buffer.pending := by
  have hrun : ((ofShell .standard .fresh).play?
      [.act (.emit [104]), .act .run, .act (.setWriting .stalled), .turn .pump, .turn .pump,
        .act (.emit [105]), .act .stop, .turn .stop, .pass 500000000, .turn .pump]).map
      (fun s => (s.pump.isFinished, s.pump.inHand, s.outlet.buffer.pending)) =
      some (true, [104], [105]) := by decide
  obtain ⟨s, hplay, hs⟩ := Option.map_eq_some_iff.mp hrun
  simp only [Prod.mk.injEq] at hs
  exact ⟨s, hplay, hs.1, hs.2.1, hs.2.2, (output_conserved hplay).1⟩

end Session

end RemoteShell
