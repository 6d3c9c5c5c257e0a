import RemoteShell.Proofs.Output.LastCapture
import RemoteShell.Proofs.Session.Conservation

/-!
# The last flush

However a session is cancelled, its pump captures the buffer exactly once after that,
and the link is closed only when the pump has ended. So a client that takes its writes
in time has all output from before the cancellation when the link is closed.
-/

namespace RemoteShell.Session

variable {s s' t : Session} {move : Move} {moves : List Move} {past : List Visit}

/-! ## Counting captures -/

/-- Tells whether the pump captures the buffer with a move. -/
def captures : Visit → Bool
  | (s, .turn .pump) => s.pump.isWaiting
  | _ => false

/-- How many captures come after the cancellation. -/
def lateCaptures (visits : List Visit) : Nat :=
  visits.countP fun visit => captures visit && visit.1.isCancelled

theorem lateCaptures_append (past : List Visit) (visit : Visit) :
    lateCaptures (past ++ [visit]) =
      lateCaptures past + if captures visit && visit.1.isCancelled then 1 else 0 := by
  simp [lateCaptures, List.countP_append, List.countP_singleton]

/-- The captures after the cancellation, made and still to come, are at most one; a pump
that goes well to its end has made one. -/
structure CapturesCounted (past : List Visit) (s : Session) : Prop where
  made_add_left_le : lateCaptures past + s.pump.capturesLeft ≤ 1
  made : s.pump.goesWell = true → lateCaptures past = 1

theorem CapturesCounted.turn {pump : Pump} {outlet : Outlet} (hs : CapturesCounted past s)
    (hturn : Pump.Turn s.options.flushInterval s.now s.isCancelled s.outlet s.pump pump outlet)
    (hpump : s'.pump = pump) : CapturesCounted (past ++ [(s, .turn .pump)]) s' := by
  obtain ⟨hle, hmade⟩ := hs
  rw [Pump.capturesLeft] at hle
  by_cases hlate : captures (s, .turn .pump) && s.isCancelled
  · -- this capture takes the place of the one that was still to come
    obtain ⟨hwaiting, hcancelled⟩ : s.pump.isWaiting = true ∧ s.isCancelled = true := by
      simpa [captures] using hlate
    rw [hcancelled] at hturn
    obtain ⟨hwell, hfirst⟩ := Pump.last_of_turn hturn hwaiting
    have hlast := Pump.isLast_of_goesWell hwell
    rw [if_neg (by simp [hfirst])] at hle
    constructor
    · rw [lateCaptures_append, if_pos hlate, Pump.capturesLeft, hpump, if_pos hlast]
      omega
    · rw [lateCaptures_append, if_pos hlate]
      omega
  · constructor
    · rw [lateCaptures_append, if_neg hlate, Pump.capturesLeft, hpump]
      have hlast := Pump.isLast_mono_of_turn hturn
      split <;> split at hle <;> first | omega | simp_all
    · rw [hpump, lateCaptures_append, if_neg hlate]
      intro hwell
      rcases Pump.goesWell_of_turn hturn hwell with hwell | hnow
      · exact hmade hwell
      · simp [captures, hnow] at hlate

theorem capturesCounted_of_change (h : Change s move s') (hreached : s.IsReached)
    (hs : CapturesCounted past s) : CapturesCounted (past ++ [(s, move)]) s' := by
  cases h with
  | runs hfresh =>
    have hle := hs.made_add_left_le
    rw [(hreached.dormant hfresh).pump] at hle
    exact ⟨by rw [lateCaptures_append]; exact hle, by simp [Pump.goesWell]⟩
  | pumpMoves hturn => exact hs.turn hturn rfl
  | pumpFails hturn => exact hs.turn hturn rfl
  | pumpGivesUp hwrite =>
    have hbusy := Pump.isWaiting_of_write? hwrite
    have hle := hs.made_add_left_le
    refine ⟨?_, by simp [Pump.goesWell]⟩
    simp only [lateCaptures_append, captures, hbusy, Bool.false_and, Pump.capturesLeft, Pump.isLast]
    simp only [Bool.false_eq_true, if_false, if_true]
    omega
  | _ =>
    refine ⟨?_, ?_⟩ <;> rw [lateCaptures_append]
    · exact hs.made_add_left_le
    · exact hs.made

theorem capturesCounted_of_play? {options : Options} {shell : Shell}
    (hplay : (ofShell options shell).play? moves = some s) :
    CapturesCounted ((ofShell options shell).visits moves) s := by
  have hboth := play?_induction (P := fun past s => s.IsReached ∧ CapturesCounted past s) []
    ?_ hplay ⟨isReached_ofShell options shell, Nat.le_refl 1, by simp [ofShell, Pump.goesWell]⟩
  · simpa using hboth.2
  · rintro past s move s' hmake ⟨hreached, hs⟩
    exact ⟨hreached.make? hmake, capturesCounted_of_change (change_of_make? hmake) hreached hs⟩

/-! ## Starting writes -/

theorem writesStarted_add_left_le_of_change (h : Change s move s') (hs : s.IsReached)
    (hcancelled : s.isCancelled = true) :
    writesStarted s'.outlet s'.pump + s'.pump.capturesLeft ≤
      writesStarted s.outlet s.pump + s.pump.capturesLeft := by
  cases h with
  | runs hnone =>
    rw [(hs.dormant hnone).pump]
    exact Nat.le_refl _
  | pumpMoves hturn | pumpFails hturn =>
    rw [hcancelled] at hturn
    exact started_add_left_le hturn hs.accounted
  | pumpGivesUp hwrite =>
    cases hpump : s.pump with
    | writing write due =>
      obtain rfl : write = _ := by simpa [hpump, Pump.write?] using hwrite
      by_cases hdata : write.data = [] <;>
        simp [writesStarted, Pump.inHand, Pump.capturesLeft, Pump.isLast, hdata]
    | lastWriting write =>
      obtain rfl : write = _ := by simpa [hpump, Pump.write?] using hwrite
      exact Nat.le_refl _
    | _ => simp [hpump, Pump.write?] at hwrite
  | closerCloses =>
    simp [writesStarted, ClientEvent.frame?]
  | _ => exact Nat.le_refl _

/-- After the cancellation at most one write is started. -/
theorem writesStarted_le_of_play? (hplay : s.play? moves = some t) (hs : s.IsReached)
    (hcancelled : s.isCancelled = true) :
    writesStarted t.outlet t.pump ≤ writesStarted s.outlet s.pump + 1 := by
  have hsum := hs.along (P := fun u => u.isCancelled = true ∧
    writesStarted u.outlet u.pump + u.pump.capturesLeft ≤
      writesStarted s.outlet s.pump + s.pump.capturesLeft) ?_ hplay ⟨hcancelled, Nat.le_refl _⟩
  · have hleft : s.pump.capturesLeft ≤ 1 := by
      unfold Pump.capturesLeft
      split <;> omega
    omega
  · rintro u move u' hu hchange ⟨hcancelled, hle⟩
    exact ⟨isCancelled_of_change hchange hcancelled,
      Nat.le_trans (writesStarted_add_left_le_of_change hchange hu hcancelled) hle⟩

theorem writing_of_change {write : Write} {due : Nat} (h : Change s move s')
    (hcancelled : s.isCancelled = true) (hpump : s'.pump = .writing write due) :
    ∃ old, s.pump = .writing old due ∧ old.data = write.data := by
  cases h with
  | runs => cases hpump
  | pumpMoves hturn =>
    cases hpump
    rw [hcancelled] at hturn
    exact Pump.writing_of_turn hturn
  | pumpFails | pumpGivesUp => cases hpump
  | _ => exact ⟨write, hpump, rfl⟩

/-- A write of a tick that is on its way after the cancellation has been on its way
since before. -/
theorem writing_of_play? {write : Write} {due : Nat} (hplay : s.play? moves = some t)
    (hs : s.IsReached) (hcancelled : s.isCancelled = true) (hpump : t.pump = .writing write due) :
    ∃ old, s.pump = .writing old due ∧ old.data = write.data := by
  have hold := hs.along (P := fun u => u.isCancelled = true ∧ ∀ write, u.pump = .writing write due →
    ∃ old, s.pump = .writing old due ∧ old.data = write.data) ?_ hplay
    ⟨hcancelled, fun write hpump => ⟨write, hpump, rfl⟩⟩
  · exact hold.2 write hpump
  · rintro u move u' _ hchange ⟨hcancelled, hold⟩
    refine ⟨isCancelled_of_change hchange hcancelled, fun write hpump => ?_⟩
    obtain ⟨between, hbetween, hdata⟩ := writing_of_change hchange hcancelled hpump
    obtain ⟨old, hs, hdata'⟩ := hold between hbetween
    exact ⟨old, hs, hdata'.trans hdata⟩

/-! ## Ending well -/

theorem mem_log_of_change {event : ClientEvent} (h : Change s move s')
    (hevent : event ∈ s.outlet.log) : event ∈ s'.outlet.log := by
  cases h with
  | pumpMoves hturn | pumpFails hturn => exact mem_log_of_turn hturn hevent
  | closerCloses => exact List.mem_append_left _ hevent
  | _ => exact hevent

/-- A pump that has failed has met a failing client or was given up at the deadline. -/
theorem IsReached.failure_cause {error : ClientFault} {lost : List UInt8} (h : s.IsReached)
    (hpump : s.pump = .finished (.error error) lost) :
    .writeFailed lost ∈ s.outlet.log ∨ error = drainTimedOut ∧
      ∃ deadline, s.drainDeadline? = some deadline ∧ deadline ≤ s.now := by
  refine h.induction (P := fun s => s.pump = .finished (.error error) lost →
    .writeFailed lost ∈ s.outlet.log ∨ error = drainTimedOut ∧
      ∃ deadline, s.drainDeadline? = some deadline ∧ deadline ≤ s.now)
    (fun _ _ hidle => by simp [ofShell] at hidle) ?_ hpump
  intro s move s' _ hchange hs hpump
  by_cases hold : s.pump = .finished (.error error) lost
  · rcases hs hold with hfailed | ⟨hlate, deadline, hdeadline, hle⟩
    · exact .inl (mem_log_of_change hchange hfailed)
    · exact .inr ⟨hlate, deadline, drainDeadline?_of_change hchange hdeadline,
        Nat.le_trans hle (now_le_of_change hchange)⟩
  · have hkept {deadline : Nat} (hdeadline : s.drainDeadline? = some deadline) :
        s'.drainDeadline? = some deadline := drainDeadline?_of_change hchange hdeadline
    cases hchange with
    | runs => cases hpump
    | pumpMoves _ hgood => exact absurd hpump (hgood error lost)
    | pumpFails hturn =>
      cases hpump
      exact .inl (writeFailed_mem_of_turn hturn).2
    | pumpGivesUp _ _ _ hdeadline hlate =>
      cases hpump
      exact .inr ⟨rfl, _, hkept hdeadline, hlate⟩
    | _ => exact absurd hpump hold

/-- The pump has ended by itself: before the deadline, or at least without being given
up there. -/
def EndsInTime (s : Session) : Prop :=
  s.pump.isFinished = true ∧ ((∀ deadline ∈ s.drainDeadline?, s.now < deadline) ∨
    ∀ lost, s.pump ≠ .finished (.error drainTimedOut) lost)

/-- A pump that ends in time and meets no failing client has ended well. -/
theorem IsReached.endsWell (h : s.IsReached) (hend : s.EndsInTime)
    (hwrites : ∀ data, .writeFailed data ∉ s.outlet.log) : s.pump = .finished (.ok ()) [] := by
  obtain ⟨hfinished, hintime⟩ := hend
  cases hpump : s.pump with
  | finished result lost =>
    cases result with
    | ok => rw [h.accounted.lost_eq_nil lost hpump]
    | error error =>
      rcases h.failure_cause hpump with hfailed | ⟨rfl, deadline, hdeadline, hle⟩
      · exact absurd hfailed (hwrites lost)
      · rcases hintime with hearly | hkept
        · have := hearly deadline hdeadline
          omega
        · exact absurd hpump (hkept lost)
  | _ => simp [hpump, Pump.isFinished] at hfinished

/-! ## Closing the link -/

/-- The link is closed after the pump has ended, and nothing is accepted from then on. -/
def ClosesLast (s : Session) : Prop :=
  ∀ seen rest, s.outlet.log = seen ++ .closed :: rest →
    s.pump.isFinished = true ∧ received rest = []

theorem ClosesLast.closed_not_mem (hs : s.ClosesLast) (hgoing : s.pump.isFinished = false) :
    .closed ∉ s.outlet.log := by
  intro hclosed
  obtain ⟨seen, rest, heq⟩ := List.append_of_mem hclosed
  simp [(hs seen rest heq).1] at hgoing

/-- As long as the link has not been closed, there is nothing to show. -/
theorem closesLast_of_closed_not_mem (h : .closed ∉ s.outlet.log) : s.ClosesLast := by
  intro seen rest heq
  simp [heq] at h

theorem closesLast_of_change (h : Change s move s') (hreached : s.IsReached) (hs : s.ClosesLast) :
    s'.ClosesLast := by
  cases h with
  | runs hfresh =>
    have hgoing : s.pump.isFinished = false := by
      rw [(hreached.dormant hfresh).pump]
      rfl
    exact closesLast_of_closed_not_mem (hs.closed_not_mem hgoing)
  | pumpMoves hturn | pumpFails hturn =>
    have hnew := hs.closed_not_mem (Pump.isFinished_of_turn hturn)
    exact closesLast_of_closed_not_mem fun hclosed => hnew (closed_mem_of_turn hturn hclosed)
  | pumpGivesUp => exact fun seen rest heq => ⟨rfl, (hs seen rest heq).2⟩
  | closerCloses _ hfinished =>
    intro seen rest heq
    refine ⟨hfinished, ?_⟩
    rcases List.eq_nil_or_concat rest with rfl | ⟨rest, last, rfl⟩
    · rfl
    · have hsplit : s.outlet.log ++ [.closed] = (seen ++ .closed :: rest) ++ [last] := by
        simpa [Outlet.record] using heq
      obtain ⟨hlog, hlast⟩ := List.append_inj' hsplit rfl
      cases hlast
      rw [List.concat_eq_append, received_append, (hs seen rest hlog).2]
      rfl
  | _ => exact hs

theorem IsReached.closesLast (h : s.IsReached) : s.ClosesLast :=
  h.induction (P := ClosesLast)
    (fun _ _ => closesLast_of_closed_not_mem (by simp [ofShell, Outlet.fresh]))
    (fun _ _ _ hreached hchange hs => closesLast_of_change hchange hreached hs)

/-! ## Delivering -/

/-- While the pump goes well, a number of bytes of the output has been accepted or is in
its hand. -/
structure Delivers (s : Session) (count : Nat) : Prop where
  emitted : count ≤ s.outlet.buffer.emitted.length
  delivered : s.pump.goesWell = true →
    count ≤ (received s.outlet.log ++ s.pump.inHand).length

theorem delivers_of_change {count : Nat} (h : Change s move s') (hreached : s.IsReached)
    (hs : s.Delivers count) : s'.Delivers count := by
  have hemitted : count ≤ s'.outlet.buffer.emitted.length := by
    rw [emitted_of_change h, List.length_append]
    exact Nat.le_add_right_of_le hs.emitted
  refine ⟨hemitted, ?_⟩
  cases h with
  | runs => simp [Pump.goesWell]
  | pumpMoves hturn | pumpFails hturn =>
    exact delivered_of_turn hturn hreached.accounted hs.emitted hs.delivered
  | pumpGivesUp => simp [Pump.goesWell]
  | closerCloses => simpa [ClientEvent.frame?] using hs.delivered
  | _ => exact hs.delivered

/-- What was written before the cancellation is delivered if the pump goes well. -/
theorem delivers_of_play? (hplay : s.play? moves = some t) (hs : s.IsReached)
    (hopen : s.isCancelled = false) : t.Delivers s.outlet.buffer.emitted.length := by
  refine hs.along (P := fun u => u.Delivers s.outlet.buffer.emitted.length)
    (fun _ _ _ hreached hchange hu => delivers_of_change hchange hreached hu) hplay
    ⟨Nat.le_refl _, fun hwell => ?_⟩
  have hlast := (hs.undisturbed hopen).pump
  simp [Pump.isLast_of_goesWell hwell] at hlast

/-- When the link is closed, the client has all that it ever gets. -/
theorem IsReached.received_eq {seen rest : List ClientEvent} (h : s.IsReached)
    (hlog : s.outlet.log = seen ++ .closed :: rest) : received s.outlet.log = received seen := by
  rw [hlog, List.append_cons, received_append, received_append, (h.closesLast seen rest hlog).2]
  simp [received, frames, ClientEvent.frame?]

/-- In any run, the pump captures the buffer at most once after the cancellation, starts
at most one write more, and none at a tick. If it ends in time and no write fails, there
is exactly one such capture, and whenever the link is closed, the client has accepted
all that the shell has written before the cancellation: all of the output, if nothing
has been written since. -/
theorem last_flush_delivers {options : Options} {shell : Shell} {before : List Move}
    (hbefore : (ofShell options shell).play? before = some s) (hplay : s.play? moves = some t) :
    lateCaptures ((ofShell options shell).visits (before ++ moves)) ≤ 1 ∧
      (s.isCancelled = true →
        writesStarted t.outlet t.pump ≤ writesStarted s.outlet s.pump + 1 ∧
          ∀ write due, t.pump = .writing write due →
            ∃ old, s.pump = .writing old due ∧ old.data = write.data) ∧
      (t.EndsInTime → (∀ data, .writeFailed data ∉ t.outlet.log) →
        lateCaptures ((ofShell options shell).visits (before ++ moves)) = 1 ∧
          (s.isCancelled = false → ∀ later u seen rest, t.play? later = some u →
            u.outlet.log = seen ++ .closed :: rest →
            emission before <+: received seen ∧
              (emission (moves ++ later) = [] → received seen = emission before))) := by
  have hs : s.IsReached := ⟨options, shell, before, hbefore⟩
  have ht : t.IsReached := hs.play? hplay
  have hcounted : CapturesCounted _ t :=
    capturesCounted_of_play? (by rw [play?_append hbefore, hplay])
  refine ⟨?_, fun hcancelled => ⟨writesStarted_le_of_play? hplay hs hcancelled,
    fun write due => writing_of_play? hplay hs hcancelled⟩, fun hend hwrites => ?_⟩
  · have := hcounted.made_add_left_le
    omega
  have hpump : t.pump = .finished (.ok ()) [] := ht.endsWell hend hwrites
  refine ⟨hcounted.made (by rw [hpump]; rfl), fun hopen later u seen rest hlater hlog => ?_⟩
  have hall : s.play? (moves ++ later) = some u := by rw [play?_append hplay, hlater]
  have hwhole : (ofShell options shell).play? (before ++ (moves ++ later)) = some u := by
    rw [play?_append hbefore, hall]
  have hu : u.IsReached := hs.play? hall
  have hprefix : received seen <+: emission before ++ emission (moves ++ later) := by
    have hemitted : u.outlet.buffer.emitted = emission (before ++ (moves ++ later)) :=
      emitted_of_play? hwhole
    rw [← emission_append, ← hemitted, ← hu.received_eq hlog]
    exact hu.received_prefix
  have hlength : (emission before).length ≤ (received seen).length := by
    have hupump : u.pump = .finished (.ok ()) [] :=
      (finished_of_play? hlater ht (by rw [hpump]; rfl)).1.trans hpump
    have hdelivered := (delivers_of_play? hall hs hopen).delivered (by rw [hupump]; rfl)
    have hemitted : s.outlet.buffer.emitted = emission before := emitted_of_play? hbefore
    simpa [hupump, Pump.inHand, hemitted, hu.received_eq hlog] using hdelivered
  have hdelivered : emission before <+: received seen :=
    List.prefix_of_prefix_length_le (List.prefix_append _ _) hprefix hlength
  refine ⟨hdelivered, fun hsilent => ?_⟩
  rw [hsilent, List.append_nil] at hprefix
  exact hprefix.eq_of_length_le hlength

/-- The session is stopped while a write of a tick is held up and more output waits. -/
theorem last_flush_delivers_after_stall :
    ∃ s t u, (ofShell .standard .fresh).play?
        [.act (.emit [104]), .act .run, .act (.setWriting .stalled), .turn .pump, .turn .pump,
          .act (.emit [105])] = some s ∧
      s.isCancelled = false ∧
      s.play? [.act .stop, .turn .stop, .act (.setWriting .prompt), .turn .pump, .turn .pump,
        .turn .pump] = some t ∧
      t.EndsInTime ∧ t.play? [.turn .closer, .turn .closer] = some u ∧
      u.outlet.log = [.writeStalled [104], .wrote [104], .wrote [105], .closed] ∧
      [104, 105] <+: received [.writeStalled [104], .wrote [104], .wrote [105]] := by
  have hrun : ((ofShell .standard .fresh).play?
      [.act (.emit [104]), .act .run, .act (.setWriting .stalled), .turn .pump, .turn .pump,
        .act (.emit [105])]).bind (fun s =>
      (s.play? [.act .stop, .turn .stop, .act (.setWriting .prompt), .turn .pump, .turn .pump,
        .turn .pump]).bind fun t =>
      (t.play? [.turn .closer, .turn .closer]).map fun u =>
        (s.isCancelled,
          t.pump.isFinished && decide (∀ deadline ∈ t.drainDeadline?, t.now < deadline),
          t.outlet.log, u.outlet.log)) =
      some (false, true, [.writeStalled [104], .wrote [104], .wrote [105]],
        [.writeStalled [104], .wrote [104], .wrote [105], .closed]) := by decide
  obtain ⟨s, hbefore, hrun⟩ := Option.bind_eq_some_iff.mp hrun
  obtain ⟨t, hplay, hrun⟩ := Option.bind_eq_some_iff.mp hrun
  obtain ⟨u, hlater, hstates⟩ := Option.map_eq_some_iff.mp hrun
  simp only [Prod.mk.injEq, Bool.and_eq_true, decide_eq_true_eq] at hstates
  obtain ⟨hopen, ⟨hfinished, hearly⟩, hlog, hclosed⟩ := hstates
  have hend : t.EndsInTime := ⟨hfinished, .inl hearly⟩
  have hdelivers := (last_flush_delivers hbefore hplay).2.2 hend (by simp [hlog])
  exact ⟨s, t, u, hbefore, hopen, hplay, hend, hlater, hclosed,
    (hdelivers.2 hopen _ u _ [] hlater hclosed).1⟩

end RemoteShell.Session
