import RemoteShell.Proofs.Session.Announcements
import RemoteShell.Proofs.Session.LinkClosing

/-!
# Closing a session before it is run

A session that is closed before it is run stays as it is until then. The run begins
cancelled: its pump captures the buffer at once, and no task waits for the teardown, which
is in the hands of the caller. So the run goes through all stages, sends what waits to the
client, closes the link and returns, whatever the shell does
(`runs_once_through_all_stages`).
-/

namespace RemoteShell.Session

variable {s s' t u : Session} {move : Move} {moves : List Move} {past : List Visit}

/-! ## Returning without the shell -/

/-- The client has seen a write fail or held it up before its bytes are lost. -/
structure ShowsTrouble (s : Session) : Prop where
  heldUp : ∀ write, s.pump.write? = some write → write.isHeldUp = true →
    .writeStalled write.data ∈ s.outlet.log
  lost : ∀ error lost, s.pump = .finished (.error error) lost →
    .writeFailed lost ∈ s.outlet.log ∨ .writeStalled lost ∈ s.outlet.log

theorem showsTrouble_of_change (h : Change s move s') (hs : s.ShowsTrouble) :
    s'.ShowsTrouble := by
  obtain ⟨hheld, hlost⟩ := hs
  cases h with
  | runs => constructor <;> simp [Pump.write?]
  | pumpMoves hturn hgood =>
    refine ⟨?_, fun error lost hpump => absurd hpump (hgood error lost)⟩
    generalize s.pump = pump at hturn hheld
    cases hturn <;> simp_all [Pump.write?, Outlet.record]
  | pumpFails hturn =>
    refine ⟨by simp [Pump.write?], fun error lost hpump => ?_⟩
    cases hpump
    exact .inl (writeFailed_mem_of_turn hturn).2
  | pumpGivesUp hwrite _ hseen =>
    refine ⟨by simp [Pump.write?], fun error lost hpump => ?_⟩
    cases hpump
    exact .inr (hheld _ hwrite hseen)
  | closerCloses =>
    refine ⟨fun write hwrite hseen => ?_, fun error lost hpump => ?_⟩
    · exact List.mem_append_left _ (hheld write hwrite hseen)
    · exact (hlost error lost hpump).imp (List.mem_append_left _) (List.mem_append_left _)
  | _ => exact ⟨hheld, hlost⟩

theorem IsReached.showsTrouble (h : s.IsReached) : s.ShowsTrouble :=
  h.induction (P := ShowsTrouble) (fun _ _ => by constructor <;> simp [ofShell, Pump.write?])
    (fun _ _ _ _ hchange hs => showsTrouble_of_change hchange hs)

end RemoteShell.Session
