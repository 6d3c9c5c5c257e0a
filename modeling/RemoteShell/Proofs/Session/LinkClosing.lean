import RemoteShell.Proofs.Session.LastFlush
import RemoteShell.Proofs.Session.Verdict

/-!
# Closing the link

The closer waits for the cancellation, then for the pump to end, and then for the link
to be closed. So the link is closed once, with no write on its way, and nothing is
written after that. In a punctual run the pump has ended by the drain deadline, and the
closer waits for the link for one drain timeout at most. The shell has no part in this.
-/

namespace RemoteShell

/-- Tells whether a closer has closed the link. -/
def Closer.hasClosed : Closer → Bool
  | closing _ | finished => true
  | idle | waiting | draining => false

namespace Session

variable {s s' t : Session} {move : Move} {moves : List Move}

/-! ## Once -/

/-- The client sees the link closed as often as the closer has closed it. -/
def ClosesOnce (s : Session) : Prop :=
  s.outlet.log.count .closed = if s.closer.hasClosed then 1 else 0

theorem count_closed_of_turn {period now : Nat} {isStopping : Bool} {pump pump' : Pump}
    {outlet outlet' : Outlet} (h : Pump.Turn period now isStopping outlet pump pump' outlet') :
    outlet'.log.count .closed = outlet.log.count .closed := by
  cases h <;> simp [Outlet.record, Outlet.capture]

theorem closesOnce_of_change (h : Change s move s') (hreached : s.IsReached)
    (hs : s.ClosesOnce) : s'.ClosesOnce := by
  unfold ClosesOnce at hs ⊢
  cases h with
  | runs hfresh => rwa [(hreached.dormant hfresh).closer] at hs
  | pumpMoves hturn | pumpFails hturn => rwa [count_closed_of_turn hturn]
  | closerDrains _ hcloser => rwa [hcloser] at hs
  | closerCloses hcloser =>
    rw [hcloser] at hs
    simpa [Outlet.record, Closer.hasClosed] using hs
  | closerEnds hcloser => rwa [hcloser] at hs
  | _ => exact hs

theorem IsReached.closesOnce (h : s.IsReached) : s.ClosesOnce :=
  h.induction (P := ClosesOnce) (fun _ _ => rfl)
    (fun _ _ _ hreached hchange hs => closesOnce_of_change hchange hreached hs)

theorem IsReached.closed_mem_iff (h : s.IsReached) :
    .closed ∈ s.outlet.log ↔ s.closer.hasClosed = true := by
  have hcount := h.closesOnce
  rw [ClosesOnce] at hcount
  rw [← List.count_pos_iff, hcount]
  split <;> simp_all

/-! ## Last -/

/-- The client sees nothing after the link has been closed. -/
theorem IsReached.eq_nil_of_closed (h : s.IsReached) {seen rest : List ClientEvent}
    (hlog : s.outlet.log = seen ++ .closed :: rest) : rest = [] := by
  refine h.induction (P := fun s => ∀ seen rest, s.outlet.log = seen ++ .closed :: rest → rest = [])
    (fun _ _ seen rest hlog => by simp [ofShell, Outlet.fresh] at hlog) ?_ seen rest hlog
  intro s move s' hreached hchange hs seen rest hlog
  cases hchange with
  | pumpMoves hturn | pumpFails hturn =>
    have hnew := hreached.closesLast.closed_not_mem (Pump.isFinished_of_turn hturn)
    have hclosed := closed_mem_of_turn hturn (by rw [hlog]; simp)
    exact absurd hclosed hnew
  | closerCloses hcloser =>
    have hnew : .closed ∉ s.outlet.log := by
      simp [hreached.closed_mem_iff, hcloser, Closer.hasClosed]
    rcases List.eq_nil_or_concat rest with rfl | ⟨rest, last, rfl⟩
    · rfl
    · have hsplit : s.outlet.log ++ [.closed] = (seen ++ .closed :: rest) ++ [last] := by
        simpa [Outlet.record] using hlog
      obtain ⟨hold, -⟩ := List.append_inj' hsplit rfl
      simp [hold] at hnew
  | _ => exact hs seen rest hlog

/-- The move that closes the link comes after the cancellation and finds no write on its
way. -/
theorem of_link_closed (h : Change s move s') (hreached : s.IsReached)
    (hopen : .closed ∉ s.outlet.log) (hclosed : .closed ∈ s'.outlet.log) :
    s.isCancelled = true ∧ s.pump.write? = none := by
  cases h with
  | pumpMoves hturn | pumpFails hturn => exact absurd (closed_mem_of_turn hturn hclosed) hopen
  | closerCloses hcloser hfinished =>
    constructor
    · cases hcancelled : s.isCancelled with
      | true => rfl
      | false => rcases (hreached.undisturbed hcancelled).closer with h | h <;> simp [hcloser] at h
    · cases hpump : s.pump <;> simp_all [Pump.isFinished, Pump.write?]
  | _ => exact absurd hclosed hopen

/-! ## In time -/

/-- The closer waits for the link to be closed up to its deadline only. -/
def ClosesInTime (s : Session) : Prop := ∀ due, s.closer = .closing due → s.now ≤ due

theorem closesInTime_of_make? (hmake : s.make? move = some s') (hpunctual : s.IsPunctual move)
    (hs : s.ClosesInTime) : s'.ClosesInTime := by
  intro due hdue
  cases change_of_make? hmake with
  | runs | closerDrains | closerEnds => simp at hdue
  | closerCloses =>
    cases hdue
    exact Nat.le_add_right _ _
  | passes =>
    have hclosing : s.closer = .closing due := hdue
    have hstep : s.stepCloser = none := stepOf_eq_none hpunctual.1 .closer
    have hahead : s.now < due := by simp_all [stepCloser]
    exact le_of_mem_timers (by simp [timers, hclosing]) hahead hpunctual.2
  | _ => exact hs due hdue

theorem closesInTime_of_play? {options : Options} {shell : Shell}
    (hplay : (ofShell options shell).play? moves = some s)
    (hpunctual : (ofShell options shell).PlaysPunctually moves) : s.ClosesInTime :=
  play?_preserves (Q := fun visit => visit.1.IsPunctual visit.2)
    (fun _ _ _ hpunctual hmake hs => closesInTime_of_make? hmake hpunctual hs) hplay hpunctual
    (by simp [ClosesInTime, ofShell])

/-- After the drain deadline the pump has ended and the link has been closed. -/
theorem IsReached.drained (h : s.IsReached) {deadline : Nat}
    (hdeadline : s.drainDeadline? = some deadline) (hkeeps : s.KeepsTo deadline)
    (hlate : deadline < s.now) : s.pump.isFinished = true ∧ .closed ∈ s.outlet.log := by
  obtain ⟨_, start, _, hstart, _⟩ := drainDeadline?_eq_some_iff.mp hdeadline
  have hawake := h.awake (by simp [hstart])
  constructor
  · cases hfinished : s.pump.isFinished with
    | true => rfl
    | false =>
      have := hkeeps.pump hfinished
      omega
  · rw [h.closed_mem_iff]
    have hgone : ¬ (s.closer = .waiting ∨ s.closer = .draining) := fun hwaits => by
      have := hkeeps.closer hwaits
      omega
    cases hcloser : s.closer with
    | idle => exact absurd hcloser hawake.closer
    | waiting | draining => simp [hcloser] at hgone
    | closing | finished => rfl

/-- The link is closed at most once, and exactly once when running the session returns:
after the cancellation, while no write is on its way, and as the last thing that the
client sees. In a punctual run, once the scope is cancelled and the session runs, the
pump has ended and the link has been closed one drain timeout later, and another drain
timeout later the closer waits no more. -/
theorem link_closed_once_in_time {options : Options} {shell : Shell}
    (hplay : (ofShell options shell).play? moves = some s) :
    s.outlet.log.count .closed ≤ 1 ∧
      (s.result.isSome → s.outlet.log.count .closed = 1) ∧
      (∀ u move u', (u, move) ∈ (ofShell options shell).visits moves → u.make? move = some u' →
        .closed ∉ u.outlet.log → .closed ∈ u'.outlet.log →
        u.isCancelled = true ∧ u.pump.write? = none) ∧
      (∀ seen rest, s.outlet.log = seen ++ .closed :: rest → rest = []) ∧
      ((ofShell options shell).PlaysPunctually moves → ∀ cancelled start,
        s.scope.cancelledAt = some cancelled → s.startedAt = some start →
        (max cancelled start + s.options.drainTimeout < s.now →
          s.pump.isFinished = true ∧ .closed ∈ s.outlet.log) ∧
        (max cancelled start + 2 * s.options.drainTimeout < s.now → s.closer = .finished)) := by
  have hs : s.IsReached := ⟨options, shell, moves, hplay⟩
  have honce : s.outlet.log.count .closed = if s.closer.hasClosed then 1 else 0 := hs.closesOnce
  refine ⟨?_, fun hreturned => ?_, ?_, fun seen rest hlog => hs.eq_nil_of_closed hlog, ?_⟩
  · rw [honce]
    split <;> omega
  · have htasks := hs.returns.tasks (.inr hreturned)
    simp only [tasksFinished, Bool.and_eq_true, decide_eq_true_eq] at htasks
    rw [honce, htasks.2]
    rfl
  · intro u move u' hvisit hmake hopen hclosed
    obtain ⟨before, -, -, -, hbefore, -⟩ := exists_of_mem_visits hplay hvisit
    exact of_link_closed (change_of_make? hmake) ⟨options, shell, before, hbefore⟩ hopen hclosed
  · intro hpunctual cancelled start hcancelled hstart
    have hdeadline : s.drainDeadline? = some (max cancelled start + s.options.drainTimeout) :=
      drainDeadline?_eq_some_iff.mpr ⟨cancelled, start, hcancelled, hstart, rfl⟩
    have hkeeps := keepsDeadline_of_play? hplay hpunctual _ hdeadline
    have hdrained := hs.drained hdeadline hkeeps
    refine ⟨hdrained, fun hlate => ?_⟩
    have hclosed := hs.closed_mem_iff.mp (hdrained (by omega)).2
    cases hcloser : s.closer with
    | finished => rfl
    | closing due =>
      have hdue := hkeeps.closing due hcloser
      have hnow := closesInTime_of_play? hplay hpunctual due hcloser
      omega
    | idle | waiting | draining => simp [hcloser, Closer.hasClosed] at hclosed

/-- The client takes neither the last write nor the close, and the shell is not torn down
either. -/
theorem link_closed_once_in_time_all_stalled :
    ∃ s, (ofShell .standard .fresh).play?
        [.act .run, .act (.setWriting .stalled), .act (.setClosing .stalled),
          .act (.shell (.setShutdown .stalled)), .act (.emit [104]), .turn .pump, .turn .pump,
          .act .stop, .turn .stop, .turn .relay, .turn .watchdog, .turn .exitWatch, .turn .closer,
          .turn .teardown, .pass 500000000, .turn .pump, .turn .closer, .pass 1000000000,
          .turn .closer, .pass 2000000000] = some s ∧
      s.scope.cancelledAt = some 0 ∧ s.startedAt = some 0 ∧
      max 0 0 + 2 * s.options.drainTimeout < s.now ∧
      s.outlet.log = [.writeStalled [104], .closed] ∧ s.closer = .finished := by
  generalize hmoves : ([.act .run, .act (.setWriting .stalled), .act (.setClosing .stalled),
    .act (.shell (.setShutdown .stalled)), .act (.emit [104]), .turn .pump, .turn .pump,
    .act .stop, .turn .stop, .turn .relay, .turn .watchdog, .turn .exitWatch, .turn .closer,
    .turn .teardown, .pass 500000000, .turn .pump, .turn .closer, .pass 1000000000,
    .turn .closer, .pass 2000000000] : List Move) = moves
  have hrun : ((ofShell .standard .fresh).play? moves).map (fun s => (s.scope.cancelledAt,
      s.startedAt, decide (max 0 0 + 2 * s.options.drainTimeout < s.now), s.outlet.log)) =
      some (some 0, some 0, true, [.writeStalled [104], .closed]) := by
    rw [← hmoves]
    decide
  have hpunctual : (ofShell .standard .fresh).PlaysPunctually moves := by
    rw [← hmoves]
    decide
  obtain ⟨s, hplay, hstate⟩ := Option.map_eq_some_iff.mp hrun
  simp only [Prod.mk.injEq, decide_eq_true_eq] at hstate
  obtain ⟨hcancelled, hstarted, hlate, hlog⟩ := hstate
  have hclosed := (link_closed_once_in_time hplay).2.2.2.2 hpunctual 0 0 hcancelled hstarted
  exact ⟨s, hplay, hcancelled, hstarted, hlate, hlog, hclosed.2 hlate⟩

end Session

end RemoteShell
