import RemoteShell.Proofs.Session.Report

/-!
# Shutting down the input of the shell

The relay holds the input of the shell while it writes, and whoever tears the shell down
has to wait for it. A cancelled relay that is held up drops its write, so the input is free
when the session comes to rest. Once the teardown has taken the input away, no write gets
at it any more, not even that of a frame which the relay still reads after the
cancellation. So the input is taken once, nothing is offered to it afterwards, and the
shell is closed right after the input has been shut down (`input_closed_before_shell`).
-/

namespace RemoteShell

/-- Tells whether a teardown has begun. -/
def Teardown.hasBegun : Teardown → Bool
  | idle => false
  | takingStdin _ | shuttingStdin _ | closingShell _ | finished .. => true

/-- Input that a write has offered to the shell. -/
def ShellEvent.offered? : ShellEvent → Option (List UInt8)
  | stdinWrote bytes | stdinFailed bytes => some bytes
  | openedTerminal _ | gaveInput | listened | started | resized _ | stdinShutDown
  | closed => none

/-- All input that has been offered to a shell, write by write. -/
def inputOffered (log : List ShellEvent) : List (List UInt8) :=
  log.filterMap ShellEvent.offered?

namespace Session

variable {s s' t u : Session} {move : Move} {moves : List Move} {past : List Visit}

/-- Tells of a move whether the teardown takes the input of the shell with it. -/
def takesInput : Visit → Bool
  | (s, move) =>
    !s.teardown.hasTakenInput && (s.make? move).any (·.teardown.hasTakenInput)

/-! ## Taking the input -/

/-- A teardown begins only when the scope has been cancelled. -/
theorem IsReached.isCancelled_of_hasBegun (h : s.IsReached) (hbegun : s.teardown.hasBegun = true) :
    s.isCancelled = true := by
  refine Bool.of_not_eq_false fun hopen => ?_
  have hidle := (h.undisturbed hopen).teardown
  simp [hidle, Teardown.hasBegun] at hbegun

/-- What the teardown has taken it keeps. -/
theorem hasTakenInput_of_change (h : Change s move s') (htaken : s.teardown.hasTakenInput = true) :
    s'.teardown.hasTakenInput = true := by
  cases h with
  | closes hdown | exitWatchTearsDown _ _ hdown | runnerTearsDown _ _ hdown =>
    simp [hdown, Teardown.hasTakenInput] at htaken
  | stdinTaken | stdinShuts | shellCloses => rfl
  | _ => exact htaken

/-- The input is held by the relay or it has been taken, never both. -/
theorem not_holdsInput_of_change (h : Change s move s')
    (hs : s.teardown.hasTakenInput = true → s.relay.holdsInput = false)
    (htaken : s'.teardown.hasTakenInput = true) : s'.relay.holdsInput = false := by
  cases h with
  | runs | relayEnds | relayResizes | relayMeetsEnd | relayMeetsFailure | relayResized
  | relayFlushed => rfl
  | relayTakes _ _ _ _ hthere => simp [hthere] at htaken
  | relayFeeds _ hrelay =>
    have hfree := hs htaken
    simp [hrelay, Relay.holdsInput] at hfree
  | closes | exitWatchTearsDown | runnerTearsDown => simp [Teardown.hasTakenInput] at htaken
  | stdinTaken _ hfree => exact hfree
  | stdinShuts hdown | shellCloses hdown => exact hs (by simp [hdown, Teardown.hasTakenInput])
  | _ => exact hs htaken

theorem IsReached.not_holdsInput (h : s.IsReached) (htaken : s.teardown.hasTakenInput = true) :
    s.relay.holdsInput = false :=
  h.induction (P := fun s => s.teardown.hasTakenInput = true → s.relay.holdsInput = false)
    (fun _ _ _ => rfl) (fun _ _ _ _ hchange hs => not_holdsInput_of_change hchange hs) htaken

/-- The input has been taken as often as it is gone. -/
def TakesOnce (past : List Visit) (s : Session) : Prop :=
  past.countP takesInput = if s.teardown.hasTakenInput then 1 else 0

theorem takesOnce_of_make? (hmake : s.make? move = some s') (hs : TakesOnce past s) :
    TakesOnce (past ++ [(s, move)]) s' := by
  have hkept := hasTakenInput_of_change (change_of_make? hmake)
  unfold TakesOnce at hs ⊢
  rw [List.countP_append, List.countP_singleton, hs]
  cases htaken : s.teardown.hasTakenInput with
  | true =>
    have hstill := hkept htaken
    simp [takesInput, htaken, hstill]
  | false => simp [takesInput, htaken, hmake]

theorem takesOnce_of_play? {options : Options} {shell : Shell}
    (hplay : (ofShell options shell).play? moves = some s) :
    TakesOnce ((ofShell options shell).visits moves) s :=
  play?_induction (P := TakesOnce) [] (fun _ _ _ _ hmake hs => takesOnce_of_make? hmake hs) hplay
    rfl

/-! ## What the shell sees -/

/-- The four ways in which a move can bear on what a shell sees: the shell sees nothing new;
it is told a new size; input that the relay holds is offered to it; it sees its input shut
down and is closed. -/
inductive Sees (s s' : Session) : Prop
  | nothing (hlog : s'.shell.log = s.shell.log)
      (hdown : s'.teardown.hasClosed = s.teardown.hasClosed)
  | size {size : TerminalSize} (hlog : s'.shell.log = s.shell.log ++ [.resized size])
      (hdown : s'.teardown = s.teardown)
  | input {event : ShellEvent} (hheld : s.relay.holdsInput = true) (hshut : event ≠ .stdinShutDown)
      (hclosed : event ≠ .closed) (hlog : s'.shell.log = s.shell.log ++ [event])
      (hdown : s'.teardown = s.teardown)
  | closing {owner : Owner} (hdown : s.teardown = .shuttingStdin owner)
      (hdown' : s'.teardown = .closingShell owner)
      (hreturned : s.shell.stdin.shutdown ≠ .stalled)
      (hlog : s'.shell.log = s.shell.log ++ [.stdinShutDown, .closed])

theorem sees_of_change (h : Change s move s') : Sees s s' := by
  cases h with
  | shellChanges act => exact .nothing (log_undergo s.shell act) rfl
  | watchdogProbes => exact .nothing (log_probe s.shell) rfl
  | relayResizes => exact .size rfl rfl
  | relayFeeds _ hrelay hfeed =>
    have hheld : s.relay.holdsInput = true := by
      rw [hrelay]
      rfl
    cases fed_of_feed hfeed with
    | nothing => exact .nothing rfl rfl
    | refused | taken | takenInPart => exact .input hheld (by simp) (by simp) rfl rfl
  | closes hdown | exitWatchTearsDown _ _ hdown | runnerTearsDown _ _ hdown
  | stdinTaken hdown | shellCloses hdown =>
    exact .nothing rfl (by simp [hdown, Teardown.hasClosed])
  | stdinShuts hdown hreturned => exact .closing hdown rfl hreturned (by simp [Shell.record])
  | _ => exact .nothing rfl rfl

/-- How often the shell has seen an event of the teardown, beside how often it had seen it
when the session was set up. -/
def CountsClosing (base : List ShellEvent) (s : Session) : Prop :=
  ∀ event, event = .stdinShutDown ∨ event = .closed →
    s.shell.log.count event = base.count event + if s.teardown.hasClosed then 1 else 0

theorem countsClosing_of_change {base : List ShellEvent} (h : Change s move s')
    (hs : CountsClosing base s) : CountsClosing base s' := by
  intro event hevent
  have hcount := hs event hevent
  cases sees_of_change h with
  | nothing hlog hdown => rw [hlog, hdown, hcount]
  | size hlog hdown =>
    rw [hlog, hdown]
    rcases hevent with rfl | rfl <;> simpa using hcount
  | input _ hshut hclosed hlog hdown =>
    rw [hlog, hdown]
    rcases hevent with rfl | rfl <;> simpa [hshut, hclosed] using hcount
  | closing hdown hdown' _ hlog =>
    rw [hdown] at hcount
    rw [hlog, hdown', List.count_append, hcount]
    rcases hevent with rfl | rfl <;> simp [Teardown.hasClosed]

theorem countsClosing_of_play? {options : Options} {shell : Shell}
    (hplay : (ofShell options shell).play? moves = some s) : CountsClosing shell.log s :=
  (isReached_ofShell options shell).along (P := CountsClosing shell.log)
    (fun _ _ _ _ hchange hs => countsClosing_of_change hchange hs) hplay
    (fun _ _ => by simp [ofShell, Teardown.hasClosed])

/-- Nothing is offered to a shell whose input has been taken. -/
theorem inputOffered_of_change (h : Change s move s') (hreached : s.IsReached)
    (htaken : s.teardown.hasTakenInput = true) :
    inputOffered s'.shell.log = inputOffered s.shell.log := by
  cases sees_of_change h with
  | nothing hlog => rw [hlog]
  | size hlog =>
    rw [hlog]
    simp [inputOffered, ShellEvent.offered?]
  | input hheld => simp [hreached.not_holdsInput htaken] at hheld
  | closing _ _ _ hlog =>
    rw [hlog]
    simp [inputOffered, ShellEvent.offered?]

/-- Once the teardown has taken the input, it keeps it and nothing is offered to it. -/
theorem IsReached.taken_of_play? (h : u.IsReached) (hplay : u.play? moves = some t)
    (htaken : u.teardown.hasTakenInput = true) :
    t.teardown.hasTakenInput = true ∧ inputOffered t.shell.log = inputOffered u.shell.log := by
  refine h.along (P := fun s => s.teardown.hasTakenInput = true ∧
    inputOffered s.shell.log = inputOffered u.shell.log) ?_ hplay ⟨htaken, rfl⟩
  intro s move s' hreached hchange hs
  obtain ⟨hkept, hsame⟩ := hs
  exact ⟨hasTakenInput_of_change hchange hkept,
    (inputOffered_of_change hchange hreached hkept).trans hsame⟩

/-- The move that closes the shell finds the input taken, and shutting it down has returned.
The shell sees that first. -/
theorem of_shell_closed (h : Change s move s')
    (hclosed : s'.shell.log.count .closed ≠ s.shell.log.count .closed) :
    s.teardown.hasTakenInput = true ∧ s.shell.stdin.shutdown ≠ .stalled ∧
      s'.shell.log = s.shell.log ++ [.stdinShutDown, .closed] := by
  cases sees_of_change h with
  | nothing hlog => simp [hlog] at hclosed
  | size hlog => simp [hlog] at hclosed
  | input _ _ hother hlog => simp [hlog, hother] at hclosed
  | closing hdown _ hreturned hlog =>
    refine ⟨?_, hreturned, hlog⟩
    rw [hdown]
    rfl

/-! ## At rest -/

/-- When a session has come to rest, a teardown that has begun has the input, and only
shutting it down can hold it up there. -/
theorem IsReached.hasTakenInput_of_rest (h : s.IsReached) (hrest : s.step = none)
    (hbegun : s.teardown.hasBegun = true) : s.teardown.hasTakenInput = true ∧
      ∀ owner, s.teardown = .shuttingStdin owner → s.shell.stdin.shutdown = .stalled := by
  have hfree : s.relay.holdsInput = false := by
    cases hstart : s.startedAt with
    | none =>
      rw [(h.dormant hstart).relay]
      rfl
    | some start =>
      have hcancelled := h.isCancelled_of_hasBegun hbegun
      rw [(h.atRest hrest hcancelled (by simp [hstart])).relay]
      rfl
  obtain ⟨htaking, hshutting, _⟩ := teardown_of_rest hrest hfree
  refine ⟨?_, hshutting⟩
  cases hdown : s.teardown with
  | idle => simp [hdown, Teardown.hasBegun] at hbegun
  | takingStdin owner => exact absurd hdown (htaking owner)
  | shuttingStdin | closingShell | finished => rfl

/-- The input of the shell is shut down before the shell is closed, and each happens at most
once, whoever asks for it. The teardown takes the input once, and the relay does not hold
it then. The shell is closed only when the input has been taken and shutting it down has
returned, well or not, and it sees these two right after each other. After the input has
been taken, nothing is offered to it. When a session comes to rest, a teardown that has
begun has the input, so that only shutting it down can hold the teardown up; and after its
cancellation a session that runs has then dropped its write. -/
theorem input_closed_before_shell {options : Options} {shell : Shell}
    (hplay : (ofShell options shell).play? moves = some t) :
    ((ofShell options shell).visits moves).countP takesInput ≤ 1 ∧
      (t.teardown.hasTakenInput = true → t.relay.holdsInput = false) ∧
      t.shell.log.count .stdinShutDown =
        shell.log.count .stdinShutDown + (if t.teardown.hasClosed then 1 else 0) ∧
      t.shell.log.count .closed =
        shell.log.count .closed + (if t.teardown.hasClosed then 1 else 0) ∧
      (∀ u move u', (u, move) ∈ (ofShell options shell).visits moves → u.make? move = some u' →
        u'.shell.log.count .closed ≠ u.shell.log.count .closed →
        u.teardown.hasTakenInput = true ∧ u.shell.stdin.shutdown ≠ .stalled ∧
          u'.shell.log = u.shell.log ++ [.stdinShutDown, .closed]) ∧
      (∀ before after u, moves = before ++ after → (ofShell options shell).play? before = some u →
        u.teardown.hasTakenInput = true →
        t.teardown.hasTakenInput = true ∧ inputOffered t.shell.log = inputOffered u.shell.log) ∧
      (t.step = none → t.teardown.hasBegun = true → t.teardown.hasTakenInput = true ∧
        ∀ owner, t.teardown = .shuttingStdin owner → t.shell.stdin.shutdown = .stalled) ∧
      (t.step = none → t.startedAt.isSome → t.isCancelled = true → t.relay = .finished) := by
  have ht : t.IsReached := ⟨options, shell, moves, hplay⟩
  have hcount := countsClosing_of_play? hplay
  refine ⟨?_, ht.not_holdsInput, hcount _ (.inl rfl), hcount _ (.inr rfl), ?_, ?_,
    ht.hasTakenInput_of_rest, fun hrest hstarted hcancelled =>
      (ht.atRest hrest hcancelled hstarted).relay⟩
  · have honce : ((ofShell options shell).visits moves).countP takesInput =
        if t.teardown.hasTakenInput then 1 else 0 := takesOnce_of_play? hplay
    rw [honce]
    split <;> omega
  · intro u move u' _ hmake hclosed
    exact of_shell_closed (change_of_make? hmake) hclosed
  · intro before after u hmoves hbefore htaken
    rw [hmoves, play?_append hbefore] at hplay
    have hu : u.IsReached := ⟨options, shell, before, hbefore⟩
    exact hu.taken_of_play? hplay htaken

/-- A session is closed twice while a write of input is blocked. The relay drops its write
and the teardown takes the input; then it is shut down and the shell is closed. -/
theorem input_closed_before_shell_blocked :
    ∃ t, (ofShell .standard .fresh).play?
        [.act .run, .act (.shell (.setRoom (some 1))), .act (.arrive (.binary [97, 98])),
          .turn .relay, .turn .relay, .act .close, .act .close, .turn .relay, .turn .teardown,
          .turn .teardown, .turn .teardown] = some t ∧
      t.closeCalls.length = 2 ∧ t.teardown.hasTakenInput = true ∧
      inputOffered t.shell.log = [[97]] ∧
      t.shell.log = [.stdinWrote [97], .stdinShutDown, .closed] := by
  generalize hbefore : ([.act .run, .act (.shell (.setRoom (some 1))),
    .act (.arrive (.binary [97, 98])), .turn .relay, .turn .relay, .act .close, .act .close,
    .turn .relay, .turn .teardown] : List Move) = before
  generalize hmoves : ([.act .run, .act (.shell (.setRoom (some 1))),
    .act (.arrive (.binary [97, 98])), .turn .relay, .turn .relay, .act .close, .act .close,
    .turn .relay, .turn .teardown, .turn .teardown, .turn .teardown] : List Move) = moves
  have hfirst : ((ofShell .standard .fresh).play? before).map
      (fun u => (u.teardown.hasTakenInput, inputOffered u.shell.log)) = some (true, [[97]]) := by
    rw [← hbefore]
    decide
  have hrun : ((ofShell .standard .fresh).play? moves).map
      (fun t => (t.closeCalls.length, t.shell.log)) =
      some (2, [.stdinWrote [97], .stdinShutDown, .closed]) := by
    rw [← hmoves]
    decide
  have hsplit : moves = before ++ [.turn .teardown, .turn .teardown] := by
    rw [← hmoves, ← hbefore]
    rfl
  obtain ⟨u, hu, hstate⟩ := Option.map_eq_some_iff.mp hfirst
  obtain ⟨htaken, hoffered⟩ := Prod.mk.inj hstate
  obtain ⟨t, hplay, hseen⟩ := Option.map_eq_some_iff.mp hrun
  obtain ⟨hcalls, hlog⟩ := Prod.mk.inj hseen
  have hkept := (input_closed_before_shell hplay).2.2.2.2.2.1 before _ u hsplit hu htaken
  exact ⟨t, hplay, hcalls, hkept.1, hkept.2.trans hoffered, hlog⟩

end Session

end RemoteShell
