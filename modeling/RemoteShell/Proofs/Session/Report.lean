import RemoteShell.Proofs.Session.Rest

/-!
# What is reported of the teardown

That a session has been torn down is reported in three ways: a call of `close` returns
well, the session is closed, or running it returns. Whoever begins the teardown waits for
its end. A report is wrong exactly if it is made by somebody who does not wait
(`reportsTruly_iff`): a call of `close` that comes while the teardown is under way or
after it has failed, or a runner that finds the teardown in the hands of such a call.
-/

namespace RemoteShell

namespace Teardown

/-- Who tears the shell down at the moment. -/
def underWay? : Teardown → Option Owner
  | takingStdin owner | shuttingStdin owner | closingShell owner => some owner
  | idle | finished .. => none

/-- What closing the shell has returned. -/
def result? : Teardown → Option (Except ShellFault Unit)
  | finished _ result => some result
  | idle | takingStdin _ | shuttingStdin _ | closingShell _ => none

/-- Tells whether closing the shell has failed. -/
def hasFailed : Teardown → Bool
  | finished _ (.error _) => true
  | idle | takingStdin _ | shuttingStdin _ | closingShell _ | finished _ (.ok ()) => false

end Teardown

/-- Tells whether a runner waits for its tasks. -/
def Runner.isRunning : Runner → Bool
  | running => true
  | idle | closing | returned _ => false

namespace Session

variable {s s' t : Session} {move : Move} {moves : List Move}

/-! ## Releasing the shell -/

/-- The input of the shell has been shut down, and closing the shell has been called and
has returned. -/
def HasReleased (s : Session) : Prop :=
  .stdinShutDown ∈ s.shell.log ∧ .closed ∈ s.shell.log ∧ s.teardown.result?.isSome

theorem log_prefix_of_feed {shell shell' : Shell} {rest : List UInt8} {relay : Relay}
    (h : feed shell rest = some (shell', relay)) : shell.log <+: shell'.log := by
  cases fed_of_feed h <;> simp [Shell.record]

/-- What the shell has seen stays. -/
theorem log_prefix_of_change (h : Change s move s') : s.shell.log <+: s'.shell.log := by
  cases h with
  | shellChanges => simp
  | relayResizes => simp [Shell.record]
  | relayFeeds _ _ hfeed => exact log_prefix_of_feed hfeed
  | watchdogProbes => simp
  | stdinShuts => simp [Shell.record]
  | _ => exact List.prefix_rfl

/-- The shell has seen its input shut down before it is closed. -/
def SeesClosing (s : Session) : Prop :=
  s.teardown.hasClosed = true → .stdinShutDown ∈ s.shell.log ∧ .closed ∈ s.shell.log

theorem seesClosing_of_change (h : Change s move s') (hs : s.SeesClosing) : s'.SeesClosing := by
  intro hclosed
  have hlog := (log_prefix_of_change h).subset
  have hold (hclosed : s.teardown.hasClosed = true) :
      .stdinShutDown ∈ s'.shell.log ∧ .closed ∈ s'.shell.log :=
    ⟨hlog (hs hclosed).1, hlog (hs hclosed).2⟩
  cases h with
  | closes | exitWatchTearsDown | runnerTearsDown | stdinTaken => cases hclosed
  | stdinShuts => simp [Shell.record]
  | shellCloses hdown => exact hold (by rw [hdown]; rfl)
  | _ => exact hold hclosed

theorem IsReached.hasReleased (h : s.IsReached) (hdone : s.teardown.result?.isSome) :
    s.HasReleased := by
  have hsees := h.induction (P := SeesClosing) (fun _ _ hclosed => by cases hclosed)
    (fun _ _ _ _ hchange hs => seesClosing_of_change hchange hs)
  have hclosed : s.teardown.hasClosed = true := by
    cases hdown : s.teardown <;> simp_all [Teardown.result?, Teardown.hasClosed]
  exact ⟨(hsees hclosed).1, (hsees hclosed).2, hdone⟩

/-! ## Reports -/

/-- The teardown is reported to be complete. -/
def ReportsRelease (s : Session) : Prop :=
  some (.ok ()) ∈ s.closeCalls ∨ s.lifecycle = .closed ∨ s.result.isSome

/-- What is reported of the teardown is true. -/
structure ReportsTruly (s : Session) : Prop where
  released : s.ReportsRelease → s.HasReleased
  ok : some (.ok ()) ∈ s.closeCalls → s.teardown.result? = some (.ok ())

/-- Tells of a move whether it reports the end of a teardown that is still under way or
has failed. -/
def misreports : Visit → Bool
  | (s, .act .close) => s.teardown.underWay?.isSome || s.teardown.hasFailed
  | (s, .turn .runner) => s.runner.isRunning && s.tasksFinished && s.teardown.underWay?.isSome
  | _ => false

/-- What closing the shell has returned stays. -/
theorem result?_of_change (h : Change s move s') {result : Except ShellFault Unit}
    (hresult : s.teardown.result? = some result) : s'.teardown.result? = some result := by
  cases h with
  | closes hdown | exitWatchTearsDown _ _ hdown | runnerTearsDown _ _ hdown | stdinTaken hdown
  | stdinShuts hdown | shellCloses hdown => simp [hdown, Teardown.result?] at hresult
  | _ => exact hresult

/-- A teardown that has begun and is not under way has ended. -/
theorem result?_isSome_of_underWay?_eq_none {down : Teardown} (hbegun : down ≠ .idle)
    (hway : down.underWay? = none) : down.result?.isSome := by
  cases down <;> simp_all [Teardown.underWay?, Teardown.result?]

theorem result?_eq_ok_of_not_hasFailed {down : Teardown} (hdone : down.result?.isSome)
    (hgood : down.hasFailed = false) : down.result? = some (.ok ()) := by
  unfold Teardown.result? Teardown.hasFailed at *
  split at hgood <;> simp_all

/-- The owner of the teardown is told what closing the shell has returned. -/
theorem mem_closeCalls_answerOwner {owner : Owner} {result answer : Except ShellFault Unit}
    (h : some answer ∈ (s.answerOwner owner result).closeCalls) :
    some answer ∈ s.closeCalls ∨ answer = result := by
  cases owner with
  | caller index =>
    rcases List.mem_or_eq_of_mem_set h with hold | hnew
    · exact .inl hold
    · exact .inr (Option.some.inj hnew)
  | _ => exact .inl h

/-- A call of `close` that returns well now knows that closing the shell has. -/
theorem ok_of_change (h : Change s move s') (htruly : misreports (s, move) = false)
    (hok : some (.ok ()) ∈ s'.closeCalls) :
    some (.ok ()) ∈ s.closeCalls ∨ s'.teardown.result? = some (.ok ()) := by
  cases h with
  | closes => exact .inl (by simpa using hok)
  | closesAgain hbegun =>
    obtain ⟨hway, hgood⟩ : s.teardown.underWay? = none ∧ s.teardown.hasFailed = false := by
      simpa [misreports] using htruly
    have hdone := result?_isSome_of_underWay?_eq_none hbegun hway
    exact .inr (result?_eq_ok_of_not_hasFailed hdone hgood)
  | shellCloses =>
    rcases mem_closeCalls_answerOwner hok with hold | rfl
    · exact .inl hold
    · exact .inr rfl
  | _ => exact .inl hok

/-- Whoever reports the teardown now knows that it has ended. -/
theorem report_of_change (h : Change s move s') (htruly : misreports (s, move) = false)
    (hreport : s'.ReportsRelease) : s.ReportsRelease ∨ s'.teardown.result?.isSome := by
  rcases hreport with hok | hclosed
  · rcases ok_of_change h htruly hok with hold | hnow
    · exact .inl (.inl hold)
    · exact .inr (by rw [hnow]; rfl)
  · cases h with
    | runs => simp [result] at hclosed
    | closerDrains =>
      rcases hclosed with hdrains | hreturned
      · cases hdrains
      · exact .inl (.inr (.inr hreturned))
    | runnerTearsDown =>
      rcases hclosed with hclosed | hreturned
      · exact .inl (.inr (.inl hclosed))
      · simp [result] at hreturned
    | runnerReturns hrunner htasks hbegun =>
      have hway : s.teardown.underWay? = none := by
        simpa [misreports, hrunner, htasks, Runner.isRunning] using htruly
      exact .inr (result?_isSome_of_underWay?_eq_none hbegun hway)
    | runnerJoins _ hdown => exact .inr (by rw [hdown]; rfl)
    | _ => exact .inl (.inr hclosed)

theorem reportsTruly_of_change (h : Change s move s') (hreached : s'.IsReached)
    (htruly : misreports (s, move) = false) (hs : s.ReportsTruly) : s'.ReportsTruly := by
  constructor
  · intro hreport
    refine hreached.hasReleased ?_
    rcases report_of_change h htruly hreport with hold | hnow
    · obtain ⟨result, hresult⟩ := Option.isSome_iff_exists.mp (hs.released hold).2.2
      simp [result?_of_change h hresult]
    · exact hnow
  · intro hok
    rcases ok_of_change h htruly hok with hold | hnow
    · exact result?_of_change h (hs.ok hold)
    · exact hnow

/-- A move that misreports leaves a false report behind. -/
theorem not_reportsTruly_of_misreports (h : Change s move s')
    (hfalse : misreports (s, move) = true) : ¬ s'.ReportsTruly := by
  intro htruly
  cases h with
  | closes hdown => simp [misreports, hdown, Teardown.underWay?, Teardown.hasFailed] at hfalse
  | closesAgain =>
    have hresult : s.teardown.result? = some (.ok ()) := htruly.ok (by simp)
    cases hdown : s.teardown <;>
      simp_all [misreports, Teardown.underWay?, Teardown.hasFailed, Teardown.result?]
  | runnerTearsDown _ _ hdown => simp [misreports, hdown, Teardown.underWay?] at hfalse
  | runnerReturns =>
    have hresult : s.teardown.result?.isSome := (htruly.released (.inr (.inl rfl))).2.2
    cases hdown : s.teardown <;> simp_all [misreports, Teardown.underWay?, Teardown.result?]
  | runnerJoins hrunner => simp [misreports, hrunner, Runner.isRunning] at hfalse
  | _ => cases hfalse

/-! ## Waiting for the teardown -/

/-- A task that tears the shell down waits for the end. -/
structure OwnersWait (s : Session) : Prop where
  exitWatch : s.teardown.underWay? = some .exitWatch → s.exitWatch = .closing
  runner : s.teardown.underWay? = some .runner → s.runner = .closing

theorem ownersWait_of_change (h : Change s move s') (hreached : s.IsReached)
    (hs : s.OwnersWait) : s'.OwnersWait := by
  obtain ⟨hexitWatch, hrunner⟩ := hs
  cases h with
  | runs hfresh =>
    have hdormant := hreached.dormant hfresh
    exact ⟨fun hway => absurd (hexitWatch hway) (by simp [hdormant.exitWatch]),
      fun hway => absurd (hrunner hway) (by simp [hdormant.runner])⟩
  | _ => constructor <;> simp_all [Teardown.underWay?]

theorem IsReached.ownersWait (h : s.IsReached) : s.OwnersWait :=
  h.induction (P := OwnersWait) (fun _ _ => by constructor <;> simp [ofShell, Teardown.underWay?])
    (fun _ _ _ hreached hchange hs => ownersWait_of_change hchange hreached hs)

/-- Only a call of `close` puts the teardown into the hands of a call of `close`. -/
theorem underWay?_of_change (h : Change s move s') (hmove : move ≠ .act .close) {index : Nat}
    (hway : s'.teardown.underWay? = some (.caller index)) :
    s.teardown.underWay? = some (.caller index) := by
  cases h with
  | closes => simp at hmove
  | exitWatchTearsDown | runnerTearsDown | shellCloses => simp [Teardown.underWay?] at hway
  | stdinTaken hdown | stdinShuts hdown => simpa [hdown, Teardown.underWay?] using hway
  | _ => exact hway

/-- A session that is never closed from outside does not misreport. -/
theorem not_misreports_of_no_close {options : Options} {shell : Shell}
    (hplay : (ofShell options shell).play? moves = some s) (hnever : .act .close ∉ moves)
    (hmove : move ≠ .act .close) : misreports (s, move) = false := by
  have hcaller : ∀ index, s.teardown.underWay? ≠ some (.caller index) := by
    refine play?_preserves (P := fun s => ∀ index, s.teardown.underWay? ≠ some (.caller index))
      (Q := fun visit => visit.2 ≠ .act .close) ?_ hplay ?_ (by simp [ofShell, Teardown.underWay?])
    · intro s move s' hmove hmake hs index hway
      exact hs index (underWay?_of_change (change_of_make? hmake) hmove hway)
    · rintro ⟨u, later⟩ hvisit rfl
      obtain ⟨before, after, -, rfl, -⟩ := exists_of_mem_visits hplay hvisit
      simp at hnever
  have hwaits := (show s.IsReached from ⟨options, shell, moves, hplay⟩).ownersWait
  unfold misreports
  split
  · simp_all
  · rename_i heq
    cases heq
    cases hway : s.teardown.underWay? with
    | none => simp
    | some owner =>
      cases owner with
      | exitWatch => simp [tasksFinished, hwaits.exitWatch hway]
      | runner => simp [Runner.isRunning, hwaits.runner hway]
      | caller index => exact absurd hway (hcaller index)
  · rfl

/-! ## When reports are true -/

/-- Along all of a run, what is reported of the teardown is true if and only if no move
misreports: `close` is not called while the teardown is under way or after it has failed,
and running the session does not return while a call of `close` is still at work. If
`close` is never called from outside, this is so. -/
theorem reportsTruly_iff {options : Options} {shell : Shell}
    (hplay : (ofShell options shell).play? moves = some t) :
    ((∀ before after s, moves = before ++ after → (ofShell options shell).play? before = some s →
        s.ReportsTruly) ↔
        ∀ visit ∈ (ofShell options shell).visits moves, misreports visit = false) ∧
      (.act .close ∉ moves →
        ∀ visit ∈ (ofShell options shell).visits moves, misreports visit = false) := by
  refine ⟨⟨?_, ?_⟩, ?_⟩
  · rintro htruly ⟨u, move⟩ hvisit
    refine Bool.eq_false_iff.mpr fun hfalse => ?_
    obtain ⟨before, after, u', rfl, hbefore, hmake, -⟩ := exists_of_mem_visits hplay hvisit
    have hnext : (ofShell options shell).play? (before ++ [move]) = some u' := by
      rw [play?_append hbefore, play?, hmake]
      rfl
    exact not_reportsTruly_of_misreports (change_of_make? hmake) hfalse
      (htruly (before ++ [move]) after u' (by simp) hnext)
  · rintro htruly before after s rfl hbefore
    rw [visits_append hbefore, List.forall_mem_append] at htruly
    have hboth := play?_preserves (P := fun s => s.IsReached ∧ s.ReportsTruly)
      (Q := fun visit => misreports visit = false) ?_ hbefore htruly.1
      ⟨isReached_ofShell options shell, by constructor <;> simp [ReportsRelease, ofShell, result]⟩
    · exact hboth.2
    · rintro s move s' htruly hmake ⟨hreached, hs⟩
      exact ⟨hreached.make? hmake,
        reportsTruly_of_change (change_of_make? hmake) (hreached.make? hmake) htruly hs⟩
  · rintro hnever ⟨u, move⟩ hvisit
    obtain ⟨before, after, -, rfl, hbefore, -⟩ := exists_of_mem_visits hplay hvisit
    refine not_misreports_of_no_close hbefore (fun h => hnever (by simp [h])) ?_
    rintro rfl
    simp at hnever

/-- The turns that end a session right after its scope has been cancelled. -/
def windingUp : List Move :=
  [.turn .relay, .turn .pump, .turn .watchdog, .turn .exitWatch, .turn .closer, .turn .closer,
    .turn .closer, .turn .teardown]

/-- A session is closed while it runs and again when that has returned, as in the test of
a forced termination: both calls return well, and the shell has been released. -/
theorem reportsTruly_of_repeated_close :
    ∃ t, (ofShell .standard .fresh).play? (.act .run :: .act .close :: windingUp ++
        [.turn .teardown, .turn .teardown, .act .close, .turn .runner]) = some t ∧
      t.closeCalls.length = 2 ∧ t.ReportsRelease ∧ t.HasReleased := by
  generalize hmoves : (.act .run :: .act .close :: windingUp ++
    [.turn .teardown, .turn .teardown, .act .close, .turn .runner] : List Move) = moves
  have hrun : ((ofShell .standard .fresh).play? moves).map
      (fun t => (t.closeCalls.length, t.lifecycle)) = some (2, .closed) := by
    rw [← hmoves]
    decide
  have htruly : ∀ visit ∈ (ofShell .standard .fresh).visits moves, misreports visit = false := by
    rw [← hmoves]
    decide
  obtain ⟨t, hplay, hstate⟩ := Option.map_eq_some_iff.mp hrun
  obtain ⟨hcalls, hclosed⟩ := Prod.mk.inj hstate
  have hreport : t.ReportsRelease := .inr (.inl hclosed)
  have hs := (reportsTruly_iff hplay).1.mpr htruly moves [] t (List.append_nil _).symm hplay
  exact ⟨t, hplay, hcalls, hreport, hs.released hreport⟩

/-- A session is closed while closing its shell does not return. All tasks end, so running
the session returns and the session is closed, and another call of `close` returns well;
but the shell has not been released. -/
theorem not_reportsTruly_of_stalled_close :
    ∃ t, (ofShell .standard .fresh).play? (.act .run :: .act (.shell (.setClosing .stalled)) ::
        .act .close :: windingUp ++ [.turn .teardown, .turn .runner, .act .close]) = some t ∧
      t.lifecycle = .closed ∧ t.result.isSome ∧ some (.ok ()) ∈ t.closeCalls ∧
      t.step = none ∧ ¬ t.HasReleased := by
  generalize hmoves : (.act .run :: .act (.shell (.setClosing .stalled)) :: .act .close ::
    windingUp ++ [.turn .teardown, .turn .runner, .act .close] : List Move) = moves
  have hrun : ((ofShell .standard .fresh).play? moves).map (fun t => (t.lifecycle, t.result.isSome,
      t.closeCalls.any (·.any (·.isOk)), t.step.isNone, t.teardown.result?.isSome)) =
      some (.closed, true, true, true, false) := by
    rw [← hmoves]
    decide
  obtain ⟨t, hplay, hstate⟩ := Option.map_eq_some_iff.mp hrun
  simp only [Prod.mk.injEq] at hstate
  obtain ⟨hclosed, hreturned, hok, hrest, hgoing⟩ := hstate
  refine ⟨t, hplay, hclosed, hreturned, ?_, Option.isNone_iff_eq_none.mp hrest, fun hreleased => ?_⟩
  · obtain ⟨answer, hanswer, hgood⟩ := List.any_eq_true.mp hok
    cases answer with
    | none => simp at hgood
    | some result =>
      cases result with
      | ok => exact hanswer
      | error => simp [Except.isOk, Except.toBool] at hgood
  · simp [hreleased.2.2] at hgoing

end Session

end RemoteShell
