import RemoteShell.Proofs.Session.Inbox

/-!
# When the client leaves

The relay sees that the client has left when it comes to read that, after all that the
client has sent before. So a client that has left ends the session unless the relay is
held up with an earlier frame, by a shell that takes no input, does not take it up, or does
not return from a new size. A session that is held up runs on without its client.
-/

namespace RemoteShell

/-- Tells whether a session is being wound up or has been. -/
def Lifecycle.isEnding : Lifecycle → Bool
  | draining | closed => true
  | created | running => false

/-- Tells whether a closer has seen the cancellation. -/
def Closer.hasDrained : Closer → Bool
  | draining | closing _ | finished => true
  | idle | waiting => false

namespace Session

variable {s s' t : Session} {move : Move} {moves : List Move}

/-! ## Being held up -/

/-- The relay waits for the shell: to return from a new size, to take some input, or to take
up what has been written. -/
def IsHeldUp (s : Session) : Prop :=
  s.relay = .resizing ∧ s.shell.resizing = .stalled ∨
    (∃ rest, s.relay = .writing rest ∧ rest ≠ [] ∧ s.shell.stdin.failure = none ∧
      s.shell.stdin.room = some 0) ∨
    s.relay = .flushing ∧ s.shell.stdin.flushing = .stalled

/-- Only a shell that takes nothing keeps input from being passed on. -/
theorem feed_eq_none_iff {shell : Shell} {rest : List UInt8} :
    feed shell rest = none ↔ rest ≠ [] ∧ shell.stdin.failure = none ∧
      shell.stdin.room = some 0 := by
  unfold feed
  cases hfailure : shell.stdin.failure with
  | some error => by_cases hrest : rest = [] <;> simp [hrest]
  | none => (repeat' split) <;> simp_all

/-- At rest the relay has read all that has arrived, unless it is held up. -/
theorem IsReached.reading_or_isHeldUp (h : s.IsReached) (hrest : s.step = none)
    (hstarted : s.startedAt.isSome) (hopen : s.isCancelled = false) :
    s.relay = .reading ∧ s.inbox = [] ∨ s.IsHeldUp := by
  have hstep : s.stepRelay = none := stepOf_eq_none hrest .relay
  cases hrelay : s.relay with
  | idle => exact absurd hrelay (h.awake hstarted).relay
  | finished => exact absurd hrelay (h.undisturbed hopen).relay
  | reading =>
    cases hinbox : s.inbox with
    | nil => exact .inl ⟨rfl, rfl⟩
    | cons => simp [stepRelay, goRelay, hrelay, hinbox] at hstep
  | resizing =>
    have hstalled : s.shell.resizing = .stalled := by
      simpa [stepRelay, goRelay, hrelay, hopen] using hstep
    exact .inr (.inl ⟨hrelay, hstalled⟩)
  | writing rest =>
    have hfeed : feed s.shell rest = none := by
      simpa [stepRelay, goRelay, hrelay, hopen] using hstep
    exact .inr (.inr (.inl ⟨rest, hrelay, feed_eq_none_iff.mp hfeed⟩))
  | flushing =>
    have hstalled : s.shell.stdin.flushing = .stalled := by
      simpa [stepRelay, goRelay, hrelay, hopen] using hstep
    exact .inr (.inr (.inr ⟨hrelay, hstalled⟩))

/-! ## The stage of a session -/

/-- A session is being wound up once its closer has seen the cancellation. -/
theorem isEnding_of_change (h : Change s move s') (hreached : s.IsReached)
    (hs : s.lifecycle.isEnding = s.closer.hasDrained) :
    s'.lifecycle.isEnding = s'.closer.hasDrained := by
  have hcloser (hfinished : s.tasksFinished = true) : s.closer = .finished := by
    simp only [tasksFinished, Bool.and_eq_true, decide_eq_true_eq] at hfinished
    exact hfinished.2
  cases h with
  | runs | closerDrains => rfl
  | closerCloses hold | closerEnds hold => rwa [hold] at hs
  | runnerReturns _ hfinished =>
    rw [hcloser hfinished]
    rfl
  | runnerJoins hrunner =>
    rw [hcloser (hreached.returns.tasks (.inl hrunner))]
    rfl
  | _ => exact hs

theorem IsReached.isEnding_eq (h : s.IsReached) : s.lifecycle.isEnding = s.closer.hasDrained :=
  h.induction (P := fun s => s.lifecycle.isEnding = s.closer.hasDrained) (fun _ _ => rfl)
    (fun _ _ _ hreached hchange hs => isEnding_of_change hchange hreached hs)

/-- At rest, a session that runs is being wound up if and only if it has been cancelled. -/
theorem IsReached.isCancelled_iff_isEnding (h : s.IsReached) (hrest : s.step = none)
    (hstarted : s.startedAt.isSome) : s.isCancelled = true ↔ s.lifecycle.isEnding = true := by
  rw [h.isEnding_eq]
  constructor
  · intro hcancelled
    rcases closer_of_rest hrest hcancelled (h.awake hstarted).closer with
      hcloser | ⟨hcloser, -⟩ | ⟨deadline, hcloser, -⟩ <;> simp [hcloser, Closer.hasDrained]
  · intro hdrained
    refine Bool.of_not_eq_false fun hopen => ?_
    rcases (h.undisturbed hopen).closer with hcloser | hcloser <;>
      simp [hcloser, Closer.hasDrained] at hdrained

/-! ## The client has left -/

/-- A session whose client has left, or can no longer be read from, is cancelled when it
comes to rest if and only if the relay is not held up with an earlier frame. It is then
being wound up or has been closed, and it is not otherwise. -/
theorem cancelled_iff_not_heldUp {options : Options} {shell : Shell}
    (hplay : (ofShell options shell).play? moves = some t) (hrest : t.step = none)
    (hstarted : t.startedAt.isSome)
    (hgone : ∃ arrival ∈ arrivals moves, arrival.isEnd = true) :
    (t.isCancelled = true ↔ ¬ t.IsHeldUp) ∧
      (t.isCancelled = true ↔ t.lifecycle = .draining ∨ t.lifecycle = .closed) := by
  have ht : t.IsReached := ⟨options, shell, moves, hplay⟩
  refine ⟨⟨fun hcancelled hheld => ?_, fun hfree => ?_⟩, ?_⟩
  · have hrelay := relay_of_rest hrest hcancelled (ht.awake hstarted).relay
    rcases hheld with ⟨hresizing, -⟩ | ⟨rest, hwriting, -⟩ | ⟨hflushing, -⟩
    · simp [hrelay] at hresizing
    · simp [hrelay] at hwriting
    · simp [hrelay] at hflushing
  · refine Bool.of_not_eq_false fun hopen => ?_
    rcases ht.reading_or_isHeldUp hrest hstarted hopen with ⟨-, hinbox⟩ | hheld
    · obtain ⟨arrival, hmem, hend⟩ := hgone
      have hread := inbox_append_arrivals hplay
      rw [hinbox, List.append_nil] at hread
      have hseen : arrival ∈ framesRead ((ofShell options shell).visits moves) := by
        rw [← hread]
        exact List.mem_append_right _ hmem
      simp [(endsRead_of_play? hplay arrival hseen hend).2] at hopen
    · exact hfree hheld
  · rw [ht.isCancelled_iff_isEnding hrest hstarted]
    cases t.lifecycle <;> simp [Lifecycle.isEnding]

/-- The shell takes no input at first, so the session runs on though the client has left;
when the shell takes it, the relay sees that the client has left. -/
theorem cancelled_iff_not_heldUp_after_wait :
    ∃ t, (ofShell .standard .fresh).play?
        [.act .run, .act (.shell (.setRoom (some 0))), .act (.arrive (.binary [97])),
          .act (.arrive .hangUp), .turn .relay, .turn .pump, .act (.shell (.setRoom none)),
          .turn .relay, .turn .relay, .turn .relay, .turn .pump, .turn .watchdog,
          .turn .exitWatch, .turn .closer, .turn .closer, .turn .closer, .turn .teardown,
          .turn .teardown, .turn .teardown, .turn .exitWatch, .turn .runner] = some t ∧
      t.step = none ∧ t.startedAt.isSome ∧ ¬ t.IsHeldUp ∧ t.isCancelled = true := by
  generalize hmoves : ([.act .run, .act (.shell (.setRoom (some 0))),
    .act (.arrive (.binary [97])), .act (.arrive .hangUp), .turn .relay, .turn .pump,
    .act (.shell (.setRoom none)), .turn .relay, .turn .relay, .turn .relay, .turn .pump,
    .turn .watchdog, .turn .exitWatch, .turn .closer, .turn .closer, .turn .closer,
    .turn .teardown, .turn .teardown, .turn .teardown, .turn .exitWatch, .turn .runner] :
    List Move) = moves
  have hrun : ((ofShell .standard .fresh).play? moves).map
      (fun t => (t.step.isNone, t.startedAt.isSome, t.relay)) = some (true, true, .finished) := by
    rw [← hmoves]
    decide
  have hgone : ∃ arrival ∈ arrivals moves, arrival.isEnd = true := by
    rw [← hmoves]
    exact ⟨.hangUp, by decide, rfl⟩
  obtain ⟨t, hplay, hstate⟩ := Option.map_eq_some_iff.mp hrun
  simp only [Prod.mk.injEq, Option.isNone_iff_eq_none] at hstate
  obtain ⟨hrest, hstarted, hrelay⟩ := hstate
  have hfree : ¬ t.IsHeldUp := by simp [IsHeldUp, hrelay]
  exact ⟨t, hplay, hrest, hstarted, hfree,
    (cancelled_iff_not_heldUp hplay hrest hstarted hgone).1.mpr hfree⟩

/-- The shell takes no input while the client sends some and leaves. The session comes to
rest, and it still runs. -/
theorem not_cancelled_of_blocked_input :
    ∃ t moves, (ofShell .standard .fresh).play? moves = some t ∧ .hangUp ∈ arrivals moves ∧
      t.step = none ∧ t.startedAt.isSome ∧ t.lifecycle = .running ∧ t.isCancelled = false := by
  generalize hmoves : ([.act .run, .act (.shell (.setRoom (some 0))),
    .act (.arrive (.binary [97])), .act (.arrive .hangUp), .turn .relay, .turn .pump] :
    List Move) = moves
  have hrun : ((ofShell .standard .fresh).play? moves).map
      (fun t => (t.step.isNone, t.startedAt.isSome, t.lifecycle, t.isCancelled)) =
      some (true, true, .running, false) := by
    rw [← hmoves]
    decide
  have hgone : .hangUp ∈ arrivals moves := by
    rw [← hmoves]
    decide
  obtain ⟨t, hplay, hstate⟩ := Option.map_eq_some_iff.mp hrun
  simp only [Prod.mk.injEq, Option.isNone_iff_eq_none] at hstate
  obtain ⟨hrest, hstarted, hrunning, hopen⟩ := hstate
  exact ⟨t, moves, hplay, hgone, hrest, hstarted, hrunning, hopen⟩

end Session

end RemoteShell
