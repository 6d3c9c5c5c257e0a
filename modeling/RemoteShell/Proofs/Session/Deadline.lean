import RemoteShell.Proofs.Session.Conservation
import RemoteShell.Proofs.Session.Rest

/-!
# The teardown and its deadlines

A session that runs and is cancelled gives its last write up at the drain deadline, and
the closing of the link one drain timeout later. In a punctual run these deadlines are
kept (`keepsDeadline_of_play?`), and after the second one only the shell can still hold
the teardown up. One thing has no deadline: shutting down the input of the shell. So the
teardown is bounded exactly if the clock does not go on while it waits for that.
-/

namespace RemoteShell.Session

variable {s s' t : Session} {move : Move} {moves : List Move} {deadline : Nat}

/-! ## How a deadline is set -/

theorem cancelledAt_eq_now_of_change (h : Change s move s') (hopen : s.scope.cancelledAt = none)
    {instant : Nat} (hinstant : s'.scope.cancelledAt = some instant) : instant = s.now := by
  cases h <;> simp_all [Scope.cancel, Scope.endWith]

theorem startedAt_eq_now_of_change (h : Change s move s') (hfresh : s.startedAt = none)
    {start : Nat} (hstart : s'.startedAt = some start) : start = s.now := by
  cases h <;> simp_all

/-- A deadline that is set lies ahead. -/
theorem now_le_of_deadline_set (h : Change s move s') (hnone : s.drainDeadline? = none)
    (hdeadline : s'.drainDeadline? = some deadline) : s'.now ≤ deadline := by
  have hnow : s'.now = s.now ∨ s'.drainDeadline? = s.drainDeadline? := by
    cases h with
    | passes => exact .inr rfl
    | _ => exact .inl rfl
  rcases hnow with hnow | hsame
  · obtain ⟨instant, start, hinstant, hstart, hsum⟩ := drainDeadline?_eq_some_iff.mp hdeadline
    have hset : instant = s.now ∨ start = s.now := by
      cases hcancelled : s.scope.cancelledAt with
      | none => exact .inl (cancelledAt_eq_now_of_change h hcancelled hinstant)
      | some _ =>
        cases hstarted : s.startedAt with
        | none => exact .inr (startedAt_eq_now_of_change h hstarted hstart)
        | some _ => simp [drainDeadline?, hcancelled, hstarted] at hnone
    omega
  · simp [hsame, hnone] at hdeadline

/-- Before a deadline is set, the closer has not begun. -/
theorem IsReached.closer_of_no_deadline (h : s.IsReached) (hnone : s.drainDeadline? = none) :
    s.closer = .idle ∨ s.closer = .waiting := by
  cases hcancelled : s.isCancelled with
  | false => exact (h.undisturbed hcancelled).closer
  | true =>
    cases hstarted : s.startedAt with
    | none => exact .inl (h.dormant hstarted).closer
    | some start =>
      obtain ⟨instant, hinstant⟩ := isCancelled_iff.mp hcancelled
      simp [drainDeadline?, hinstant, hstarted] at hnone

/-! ## Keeping to a deadline -/

/-- The pump ends by a deadline, and the closer one drain timeout later. -/
structure KeepsTo (s : Session) (deadline : Nat) : Prop where
  pump : s.pump.isFinished = false → s.now ≤ deadline
  closer : s.closer = .waiting ∨ s.closer = .draining → s.now ≤ deadline
  closing : ∀ due, s.closer = .closing due → due ≤ deadline + s.options.drainTimeout

/-- A deadline that is set is kept so far. -/
theorem keepsTo_of_deadline_set (h : Change s move s') (hreached : s.IsReached)
    (hnone : s.drainDeadline? = none) (hdeadline : s'.drainDeadline? = some deadline) :
    s'.KeepsTo deadline := by
  have hnow := now_le_of_deadline_set h hnone hdeadline
  refine ⟨fun _ => hnow, fun _ => hnow, fun due hclosing => ?_⟩
  have hcloser := hreached.closer_of_no_deadline hnone
  cases h <;> simp_all

/-- What takes no time keeps to a deadline. -/
theorem keepsTo_of_now_eq (h : Change s move s') (hreached : s.IsReached)
    (hdeadline : s.drainDeadline? = some deadline) (hnow : s'.now = s.now)
    (hs : s.KeepsTo deadline) : s'.KeepsTo deadline := by
  have hpump : s'.pump.isFinished = false → s'.now ≤ deadline := by
    intro hgoing
    rw [hnow]
    refine hs.pump (Bool.eq_false_iff.mpr fun hfinished => ?_)
    rw [(finished_of_change h hreached hfinished).1, hfinished] at hgoing
    cases hgoing
  cases h with
  | runs hfresh => simp [drainDeadline?, hfresh] at hdeadline
  | closerDrains _ hcloser => exact ⟨hpump, fun _ => hs.closer (.inl hcloser), by simp⟩
  | closerCloses hcloser =>
    refine ⟨hpump, by simp, fun due hdue => ?_⟩
    cases hdue
    exact Nat.add_le_add_right (hs.closer (.inr hcloser)) _
  | closerEnds => exact ⟨hpump, by simp, by simp⟩
  | passes =>
    cases hnow
    exact hs
  | _ => exact ⟨hpump, hs.closer, hs.closing⟩

/-- The clock does not go beyond a timer. -/
theorem le_of_mem_timers {due instant : Nat} (hmem : due ∈ s.timers) (hahead : s.now < due)
    (hpunctual : ∀ next ∈ s.nextTimer?, instant ≤ next) : instant ≤ due := by
  have hwaited : due ∈ s.timers.filter (s.now < ·) :=
    List.mem_filter.mpr ⟨hmem, by simpa using hahead⟩
  obtain ⟨next, hnext, hle⟩ : ∃ next, s.nextTimer? = some next ∧ next ≤ due := by
    rw [nextTimer?]
    exact ⟨_, List.min?_eq_some_min (List.ne_nil_of_mem hwaited), List.min_le_of_mem hwaited⟩
  exact Nat.le_trans (hpunctual next hnext) hle

/-- Letting time pass at rest keeps to a deadline. -/
theorem keepsTo_of_pass {instant : Nat} (hrest : s.AtRest)
    (hpunctual : ∀ next ∈ s.nextTimer?, instant ≤ next)
    (hdeadline : s.drainDeadline? = some deadline) (hs : s.KeepsTo deadline) :
    (s.setNow instant).KeepsTo deadline := by
  have hpump : s.pump.isFinished = false → instant ≤ deadline := by
    intro hgoing
    rcases hrest.pump with hfinished | ⟨⟨write, hwrite⟩, hahead⟩
    · simp [hfinished] at hgoing
    · refine le_of_mem_timers ?_ (hahead deadline hdeadline) hpunctual
      cases hpump : s.pump <;> simp_all [timers, Pump.write?]
  refine ⟨hpump, fun hcloser => ?_, hs.closing⟩
  rcases hrest.closer with hfinished | ⟨_, hgoing⟩ | ⟨due, hclosing, _⟩
  · simp [setNow, hfinished] at hcloser
  · exact hpump hgoing
  · simp [setNow, hclosing] at hcloser

/-- The deadline is kept so far if there is one. -/
def KeepsDeadline (s : Session) : Prop :=
  ∀ deadline, s.drainDeadline? = some deadline → s.KeepsTo deadline

theorem keepsDeadline_ofShell (options : Options) (shell : Shell) :
    (ofShell options shell).KeepsDeadline := by
  intro deadline hdeadline
  simp [drainDeadline?, ofShell, Scope.fresh] at hdeadline

theorem keepsDeadline_of_make? (hmake : s.make? move = some s') (hreached : s.IsReached)
    (hpunctual : s.IsPunctual move) (hs : s.KeepsDeadline) : s'.KeepsDeadline := by
  intro deadline hdeadline
  have hchange := change_of_make? hmake
  cases hold : s.drainDeadline? with
  | none => exact keepsTo_of_deadline_set hchange hreached hold hdeadline
  | some old =>
    obtain rfl : old = deadline := by
      simpa [drainDeadline?_of_change hchange hold] using hdeadline
    cases move with
    | pass instant =>
      obtain ⟨-, rfl⟩ := make?_pass_eq_some_iff.mp hmake
      exact keepsTo_of_pass (hreached.atRest_of_deadline hpunctual.1 hold) hpunctual.2 hold
        (hs _ hold)
    | _ => exact keepsTo_of_now_eq hchange hreached hold (now_of_make? hmake (by simp)) (hs _ hold)

/-- In a punctual run the deadline is kept. -/
theorem keepsDeadline_of_play? {options : Options} {shell : Shell}
    (hplay : (ofShell options shell).play? moves = some s)
    (hpunctual : (ofShell options shell).PlaysPunctually moves) : s.KeepsDeadline := by
  have hboth := play?_preserves (P := fun s => s.IsReached ∧ s.KeepsDeadline)
    (Q := fun visit => visit.1.IsPunctual visit.2) ?_ hplay hpunctual
    ⟨isReached_ofShell options shell, keepsDeadline_ofShell options shell⟩
  · exact hboth.2
  · rintro s move s' hpunctual hmake ⟨hreached, hs⟩
    exact ⟨hreached.make? hmake, keepsDeadline_of_make? hmake hreached hpunctual hs⟩

/-! ## After the deadlines -/

/-- More than two drain timeouts have gone by since the cancellation, or since the start
if that came later. -/
def IsLate (s : Session) : Prop :=
  ∃ instant start, s.scope.cancelledAt = some instant ∧ s.startedAt = some start ∧
    max instant start + 2 * s.options.drainTimeout < s.now

theorem isLate_iff : s.IsLate ↔
    ∃ deadline, s.drainDeadline? = some deadline ∧ deadline + s.options.drainTimeout < s.now := by
  constructor
  · rintro ⟨instant, start, hinstant, hstart, hlate⟩
    exact ⟨_, drainDeadline?_eq_some_iff.mpr ⟨instant, start, hinstant, hstart, rfl⟩, by omega⟩
  · rintro ⟨deadline, hdeadline, hlate⟩
    obtain ⟨instant, start, hinstant, hstart, hsum⟩ := drainDeadline?_eq_some_iff.mp hdeadline
    exact ⟨instant, start, hinstant, hstart, by omega⟩

/-- Only time makes a session late. -/
theorem isLate_of_now_eq (h : Change s move s') (hnow : s'.now = s.now) (hlate : s'.IsLate) :
    s.IsLate := by
  obtain ⟨deadline, hdeadline, hlate⟩ := isLate_iff.mp hlate
  cases hold : s.drainDeadline? with
  | none =>
    have := now_le_of_deadline_set h hold hdeadline
    omega
  | some old =>
    obtain rfl : old = deadline := by
      simpa [drainDeadline?_of_change h hold] using hdeadline
    exact isLate_iff.mpr ⟨old, hold, by rw [← hnow, ← options_of_change h]; exact hlate⟩

/-- When time goes beyond the deadlines, the session is at rest, and its pump and its closer
have ended. -/
theorem ended_of_pass {instant : Nat} (hreached : s.IsReached)
    (hpunctual : s.IsPunctual (.pass instant)) (hs : s.KeepsDeadline)
    (hlate : (s.setNow instant).IsLate) :
    s.isCancelled = true ∧ s.AtRest ∧ s.pump.isFinished = true ∧ s.closer = .finished := by
  obtain ⟨deadline, hdeadline, hlate⟩ := isLate_iff.mp hlate
  change s.drainDeadline? = some deadline at hdeadline
  change deadline + s.options.drainTimeout < instant at hlate
  have hrest := hreached.atRest_of_deadline hpunctual.1 hdeadline
  have hkeeps := keepsTo_of_pass hrest hpunctual.2 hdeadline (hs deadline hdeadline)
  have hpump : s.pump.isFinished = true := by
    cases hfinished : s.pump.isFinished with
    | true => rfl
    | false =>
      have hle : instant ≤ deadline := hkeeps.pump hfinished
      omega
  have hcloser : s.closer = .finished := by
    rcases hrest.closer with hfinished | ⟨_, hgoing⟩ | ⟨due, hclosing, hahead⟩
    · exact hfinished
    · simp [hpump] at hgoing
    · have hle : instant ≤ due := le_of_mem_timers (by simp [timers, hclosing]) hahead hpunctual.2
      have hdue : due ≤ deadline + s.options.drainTimeout := hkeeps.closing due hclosing
      omega
  obtain ⟨cancelled, start, hcancelled, _, _⟩ := drainDeadline?_eq_some_iff.mp hdeadline
  exact ⟨isCancelled_iff.mpr ⟨cancelled, hcancelled⟩, hrest, hpump, hcloser⟩

/-- When time goes beyond the deadlines and the session is not stuck, it has been torn
down. -/
theorem isDown_of_pass {instant : Nat} (hreached : s.IsReached)
    (hpunctual : s.IsPunctual (.pass instant)) (hs : s.KeepsDeadline)
    (hclosing : s.shell.closing ≠ .stalled) (hstuck : ¬ s.IsStuck)
    (hlate : (s.setNow instant).IsLate) : s.IsDown := by
  obtain ⟨hcancelled, hrest, hpump, hcloser⟩ := ended_of_pass hreached hpunctual hs hlate
  exact hreached.isDown hrest hcancelled hpump hcloser hclosing hstuck

/-- The move that makes a session late is a passing of time, and by then the session has
been torn down or is stuck. -/
theorem isDown_or_isStuck_of_make? (hmake : s.make? move = some s') (hreached : s.IsReached)
    (hpunctual : s.IsPunctual move) (hs : s.KeepsDeadline) (hclosing : s.shell.closing ≠ .stalled)
    (hintime : ¬ s.IsLate) (hlate : s'.IsLate) :
    s'.IsDown ∨ ∃ instant, move = .pass instant ∧ (s.setNow instant).IsLate ∧ s.IsStuck := by
  cases move with
  | pass instant =>
    obtain ⟨-, rfl⟩ := make?_pass_eq_some_iff.mp hmake
    by_cases hstuck : s.IsStuck
    · exact .inr ⟨instant, rfl, hlate, hstuck⟩
    · have hdown : s.IsDown := isDown_of_pass hreached hpunctual hs hclosing hstuck hlate
      exact .inl hdown
  | _ =>
    have hnow := now_of_make? hmake (by simp)
    exact absurd (isLate_of_now_eq (change_of_make? hmake) hnow hlate) hintime

/-- In a punctual run a late session has been torn down, or was stuck when it became late. -/
theorem isDown_or_isStuck_of_play? {options : Options} {shell : Shell}
    (hplay : (ofShell options shell).play? moves = some s)
    (hpunctual : (ofShell options shell).PlaysPunctually moves)
    (hclosing : ∀ visit ∈ (ofShell options shell).visits moves, visit.1.shell.closing ≠ .stalled)
    (hlate : s.IsLate) :
    s.IsDown ∨ ∃ u instant, (u, .pass instant) ∈ (ofShell options shell).visits moves ∧
      (u.setNow instant).IsLate ∧ u.IsStuck := by
  have hrun := play?_induction (P := fun past s => (∀ visit ∈ past, visit.1.IsPunctual visit.2) →
    (∀ visit ∈ past, visit.1.shell.closing ≠ .stalled) → s.IsReached ∧ s.KeepsDeadline ∧
      (s.IsLate → s.IsDown ∨ ∃ u instant, (u, .pass instant) ∈ past ∧
        (u.setNow instant).IsLate ∧ u.IsStuck)) [] ?_ hplay ?_
  · rw [List.nil_append] at hrun
    exact (hrun hpunctual hclosing).2.2 hlate
  · intro past s move s' hmake hs hpunctual hclosing
    rw [List.forall_mem_append, List.forall_mem_singleton] at hpunctual hclosing
    obtain ⟨hreached, hkeeps, hdown⟩ := hs hpunctual.1 hclosing.1
    refine ⟨hreached.make? hmake, keepsDeadline_of_make? hmake hreached hpunctual.2 hkeeps,
      fun hlate => ?_⟩
    by_cases hold : s.IsLate
    · rcases hdown hold with hdown | ⟨u, instant, hvisit, hstuck⟩
      · exact .inl (isDown_of_change (change_of_make? hmake) hreached hdown)
      · exact .inr ⟨u, instant, List.mem_append_left _ hvisit, hstuck⟩
    · rcases isDown_or_isStuck_of_make? hmake hreached hpunctual.2 hkeeps hclosing.2 hold hlate with
        hdown | ⟨instant, rfl, hstuck⟩
      · exact .inl hdown
      · exact .inr ⟨s, instant, by simp, hstuck⟩
  · intro _ _
    refine ⟨isReached_ofShell options shell, keepsDeadline_ofShell options shell, fun hlate => ?_⟩
    simp [IsLate, ofShell] at hlate

/-- Closing the shell has been called, and running the session has returned. -/
def IsTornDown (s : Session) : Prop := .closed ∈ s.shell.log ∧ s.result.isSome

/-- Take a punctual run of a shell that closes at once. Along all of it, the session has
been torn down whenever it is late, if and only if the clock does not make it late while
the input of the shell is being shut down without returning. -/
theorem tornDown_iff_not_stuck {options : Options} {shell : Shell}
    (hplay : (ofShell options shell).play? moves = some t)
    (hpunctual : (ofShell options shell).PlaysPunctually moves)
    (hopen : .closed ∉ shell.log)
    (hclosing : ∀ visit ∈ (ofShell options shell).visits moves, visit.1.shell.closing ≠ .stalled) :
    (∀ before after s, moves = before ++ after → (ofShell options shell).play? before = some s →
        s.IsLate → s.IsTornDown) ↔
      ∀ u instant, (u, .pass instant) ∈ (ofShell options shell).visits moves →
        (u.setNow instant).IsLate → ¬ u.IsStuck := by
  constructor
  · intro hdown u instant hvisit hlate hstuck
    obtain ⟨past, rest, hvisits⟩ := List.append_of_mem hvisit
    obtain ⟨before, after, u', rfl, hbefore, -, hmake, -, -⟩ := exists_of_visits_eq hplay hvisits
    obtain ⟨-, rfl⟩ := make?_pass_eq_some_iff.mp hmake
    have hpass : (ofShell options shell).play? (before ++ [.pass instant]) =
        some (u.setNow instant) := by
      rw [play?_append hbefore, play?, hmake]
      rfl
    obtain ⟨hclosed, hreturned⟩ := hdown (before ++ [.pass instant]) after _ (by simp) hpass hlate
    have hlater : (u.setNow instant).IsStuck := hstuck
    exact not_isDown_of_isStuck hlater
      ⟨(closed_mem_iff_of_play? hpass hopen).mp hclosed, hreturned⟩
  · rintro hfree before after s rfl hbefore hlate
    rw [PlaysPunctually, visits_append hbefore, List.forall_mem_append] at hpunctual
    simp only [visits_append hbefore, List.mem_append] at hclosing hfree
    rcases isDown_or_isStuck_of_play? hbefore hpunctual.1
      (fun visit hvisit => hclosing visit (.inl hvisit)) hlate with hdown | ⟨u, instant, hu, hpass⟩
    · exact ⟨(closed_mem_iff_of_play? hbefore hopen).mpr hdown.1, hdown.2⟩
    · exact absurd hpass.2 (hfree u instant (.inl hu) hpass.1)

/-- The turns that end a session right after it has been stopped. -/
def stopping : List Move :=
  [.act .stop, .turn .stop, .turn .relay, .turn .pump, .turn .watchdog, .turn .exitWatch,
    .turn .closer, .turn .closer, .turn .closer, .turn .teardown]

/-- A session is stopped, and nothing holds its teardown up. -/
theorem tornDown_of_prompt_shutdown :
    ∃ t, (ofShell .standard .fresh).play?
        (.act .run :: stopping ++ [.turn .teardown, .turn .teardown, .turn .exitWatch,
          .turn .runner, .pass 10000000000]) = some t ∧
      t.IsLate ∧ t.IsTornDown := by
  generalize hmoves : (.act .run :: stopping ++ [.turn .teardown, .turn .teardown, .turn .exitWatch,
    .turn .runner, .pass 10000000000] : List Move) = moves
  have hrun : ((ofShell .standard .fresh).play? moves).map
      (fun t => (t.scope.cancelledAt, t.startedAt, decide (2 * t.options.drainTimeout < t.now))) =
      some (some 0, some 0, true) := by
    rw [← hmoves]
    decide
  have hpunctual : (ofShell .standard .fresh).PlaysPunctually moves := by
    rw [← hmoves]
    decide
  have hvisits : ∀ visit ∈ (ofShell .standard .fresh).visits moves,
      visit.1.shell.closing ≠ .stalled ∧ visit.1.shell.stdin.shutdown ≠ .stalled := by
    rw [← hmoves]
    decide
  obtain ⟨t, hplay, hstate⟩ := Option.map_eq_some_iff.mp hrun
  simp only [Prod.mk.injEq, decide_eq_true_eq] at hstate
  obtain ⟨hcancelled, hstarted, hlong⟩ := hstate
  have hlate : t.IsLate := ⟨0, 0, hcancelled, hstarted, by simpa using hlong⟩
  have hdown := tornDown_iff_not_stuck hplay hpunctual (by simp [Shell.fresh])
    (fun visit hvisit => (hvisits visit hvisit).1)
  refine ⟨t, hplay, hlate, hdown.mpr ?_ moves [] t (List.append_nil _).symm hplay hlate⟩
  intro u instant hvisit _ hstuck
  exact (hvisits _ hvisit).2 hstuck.2

/-- A session is stopped while shutting the input of its shell down does not return. Ten
seconds later the shell has not been closed, and running the session has not returned. -/
theorem not_tornDown_of_stalled_shutdown :
    ∃ t, (ofShell .standard .fresh).play? (.act .run :: .act (.shell (.setShutdown .stalled)) ::
        stopping ++ [.pass 10000000000]) = some t ∧
      (ofShell .standard .fresh).PlaysPunctually (.act .run ::
        .act (.shell (.setShutdown .stalled)) :: stopping ++ [.pass 10000000000]) ∧
      (∀ visit ∈ (ofShell .standard .fresh).visits (.act .run ::
        .act (.shell (.setShutdown .stalled)) :: stopping ++ [.pass 10000000000]),
        visit.1.shell.closing = .prompt) ∧
      t.IsLate ∧ .closed ∉ t.shell.log ∧ t.result = none := by
  generalize hmoves : (.act .run :: .act (.shell (.setShutdown .stalled)) ::
    stopping ++ [.pass 10000000000] : List Move) = moves
  have hrun : ((ofShell .standard .fresh).play? moves).map
      (fun t => (t.scope.cancelledAt, t.startedAt, decide (2 * t.options.drainTimeout < t.now),
        t.shell.log, t.result.isNone)) = some (some 0, some 0, true, [], true) := by
    rw [← hmoves]
    decide
  obtain ⟨t, hplay, hstate⟩ := Option.map_eq_some_iff.mp hrun
  simp only [Prod.mk.injEq, decide_eq_true_eq] at hstate
  obtain ⟨hcancelled, hstarted, hlate, hlog, hresult⟩ := hstate
  refine ⟨t, hplay, ?_, ?_, ⟨0, 0, hcancelled, hstarted, by simpa using hlate⟩,
    by simp [hlog], Option.isNone_iff_eq_none.mp hresult⟩
  · rw [← hmoves]
    decide
  · rw [← hmoves]
    decide

end RemoteShell.Session
